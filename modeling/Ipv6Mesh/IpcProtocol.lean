import Ipv6Mesh.GoJson
import Ipv6Mesh.GoNet

/-!
# The local service protocol

Package `ipc`: the requests and responses that the service exchanges with its
local clients, their encoders, and the decoders that read a message member by
member. Decoders work on the top-level values of a text. The texts of errors
are those of the source; which of several unknown fields an error names is
left to Go's map order, and here it is the first in key order.
-/

namespace Ipv6Mesh.IpcProtocol

open Std
open GoText GoJson
open GoNet (parseIP to4)

def maxMessageSize : Nat := 2 ^ 20

def commandTexts : List String :=
  ["status", "join", "join_room", "leave", "connect", "disconnect", "room_members"]

inductive Command where
  | status
  | join
  | joinRoom
  | leave
  | connect
  | disconnect
  | roomMembers
  | unsupported (text : String) (foreign : text ∉ commandTexts)
  deriving DecidableEq

def Command.text : Command → String
  | .status => "status"
  | .join => "join"
  | .joinRoom => "join_room"
  | .leave => "leave"
  | .connect => "connect"
  | .disconnect => "disconnect"
  | .roomMembers => "room_members"
  | .unsupported text _ => text

def Command.ofText (text : String) : Command :=
  if foreign : text ∉ commandTexts then .unsupported text foreign
  else if text = "status" then .status
  else if text = "join" then .join
  else if text = "join_room" then .joinRoom
  else if text = "leave" then .leave
  else if text = "connect" then .connect
  else if text = "disconnect" then .disconnect
  else .roomMembers

theorem Command.ofText_text (command : Command) : Command.ofText command.text = command := by
  cases command with
  | unsupported text foreign => exact dif_pos foreign
  | _ => rfl

theorem Command.text_ofText (text : String) : (Command.ofText text).text = text := by
  by_cases foreign : text ∉ commandTexts
  · rw [Command.ofText, dif_pos foreign, Command.text]
  · have known : text ∈ commandTexts := not_not.mp foreign
    simp only [commandTexts, List.mem_cons, List.not_mem_nil, or_false] at known
    rcases known with rfl | rfl | rfl | rfl | rfl | rfl | rfl <;> rfl

structure Request where
  type : Command
  invite : String
  displayName : String
  controlURL : String
  networkID : String
  deriving DecidableEq

def Request.of (command : Command) : Request := ⟨command, "", "", "", ""⟩

structure RoomMember where
  displayName : String
  virtualIPv4 : String
  isLocal : Bool
  state : String
  deriving DecidableEq, Repr

def roomMemberOnline : String := "online"

def pathStateDisconnected : String := "disconnected"
def pathStateDirect : String := "direct"

structure Status where
  networkID : String
  virtualIPv4 : String
  pathState : String
  lastHandshake : Stamp
  lastError : String
  configGeneration : Int
  deriving DecidableEq, Repr

def Status.empty : Status := ⟨"", "", "", ⟨0, 0⟩, "", 0⟩

structure Error where
  code : String
  message : String
  deriving DecidableEq, Repr

/-- `members` is `none` for the nil slice; an empty list is a slice of length zero. -/
structure Response where
  ok : Bool
  status : Status
  members : Option (List RoomMember)
  error : Option Error
  deriving DecidableEq, Repr

def defaultPathState (pathState : String) : String :=
  if pathState = "" then pathStateDisconnected else pathState

def successResponse (status : Status) : Response :=
  ⟨true, { status with pathState := defaultPathState status.pathState }, none, none⟩

def codeInternal : String := "internal_error"

def errorResponse (code : String) : Response :=
  ⟨false, Status.empty, none, some ⟨if code = "" then codeInternal else code, ""⟩⟩

def successMembersResponse (networkID : String) (members : List RoomMember) : Response :=
  ⟨true, { Status.empty with networkID, pathState := pathStateDisconnected },
    if members = [] then none else some members, none⟩

/-- Why a message was refused: an error of a library package, `errors.New`, or
`fmt.Errorf` with a quoted name. -/
inductive Cause where
  | library
  | messageTooLarge
  | text (message : String)
  | quoted (message name : String)
  deriving DecidableEq, Repr

inductive Sentinel where
  | invalidRequest
  | invalidResponse
  deriving DecidableEq, Repr

structure Failure where
  sentinel : Option Sentinel
  cause : Option Cause
  deriving DecidableEq, Repr

def joined (sentinel : Sentinel) {Value : Type} : Except Cause Value → Except Failure Value :=
  Except.mapError fun cause => ⟨some sentinel, some cause⟩

def refuse (refused : Bool) (cause : Cause) : Except Cause Unit :=
  if refused then .error cause else .ok ()

abbrev Fields := ExtTreeMap String Json

section Decoders

def readMembers : List (String × Json) → Fields → Except Cause Fields
  | [], fields => .ok fields
  | (name, value) :: rest, fields =>
    if name = "" then .error (.text "invalid JSON object key")
    else if fields.contains name then .error (.quoted "duplicate field" name)
    else readMembers rest (fields.insert name value)

def readObject : Json → Except Cause Fields
  | .object members => readMembers members ∅
  | _ => .error (.text "JSON object required")

variable {Text : Type} (codec : Codec Text)

/-- A nested object is part of a message that passed the size check, and one
value by itself, so only a whole message can be too large or have a second value. -/
def decodeObject (data : Text) : Except Cause Fields :=
  if maxMessageSize < codec.size data then .error .messageTooLarge
  else match codec.values data with
    | none => .error .library
    | some [] => .error .library
    | some (first :: rest) => do
        let fields ← readObject first
        refuse (!rest.isEmpty) (.text "trailing JSON value")
        .ok fields

def decodeString : Json → Except Cause String
  | .null => .error (.text "string field cannot be null")
  | .string value => .ok value
  | _ => .error .library

def decodeStringField (fields : Fields) (name : String) : Except Cause String :=
  match fields[name]? with
  | none => .error (.quoted "missing field" name)
  | some raw => decodeString raw

def decodeBool : Json → Except Cause Bool
  | .bool value => .ok value
  | _ => .error .library

def decodeBoolField (fields : Fields) (name : String) : Except Cause Bool :=
  match fields[name]? with
  | none => .error (.quoted "missing or null field" name)
  | some .null => .error (.quoted "missing or null field" name)
  | some raw => decodeBool raw

def decodeTime (clock : Rfc3339) (raw : Json) : Except Cause Stamp := do
  let value ← decodeString raw
  match clock.parse value with
  | none => .error .library
  | some parsed => .ok parsed

/-- The literal of a number is handed to `strconv.ParseInt`; the text of any
other value is not one of its numerals. -/
def decodeInt : Json → Except Cause Int
  | .number literal =>
    match parseInt literal with
    | none => .error .library
    | some value => .ok value
  | _ => .error .library

def decodeOptional {Value : Type} (fields : Fields) (name : String) (zero : Value)
    (decode : Json → Except Cause Value) : Except Cause Value :=
  match fields[name]? with
  | none => .ok zero
  | some raw => decode raw

def rejectUnknown (message : String) (allowed : List String) (fields : Fields) :
    Except Cause Unit :=
  match fields.keys.find? fun name => name ∉ allowed with
  | some name => .error (.quoted message name)
  | none => .ok ()

end Decoders

section Requests

def validateRequest (request : Request) : Except Cause Unit :=
  match request.type with
  | .status | .roomMembers =>
    refuse (request.invite ≠ "" || request.displayName ≠ "" || request.controlURL ≠ "" ||
      request.networkID ≠ "") (.text "status has no arguments")
  | .join =>
    refuse (blank request.invite || blank request.displayName)
      (.text "join requires invite and display_name")
  | .joinRoom => do
      refuse (blank request.controlURL || blank request.displayName)
        (.text "join_room requires control_url and display_name")
      refuse (request.invite ≠ "" || request.networkID ≠ "")
        (.text "join_room has no invite or network_id")
  | .leave | .connect | .disconnect =>
    refuse (blank request.networkID) (.text "command requires network_id")
  | .unsupported _ _ => .error (.text "unsupported command")

variable {Text : Type} (codec : Codec Text)

def requestFields (request : Request) : Fields :=
  let fields : Fields := (∅ : Fields).insert "type" (.string request.type.text)
  match request.type with
  | .join =>
    (fields.insert "invite" (.string request.invite)).insert "display_name"
      (.string request.displayName)
  | .joinRoom =>
    (fields.insert "control_url" (.string request.controlURL)).insert "display_name"
      (.string request.displayName)
  | .leave | .connect | .disconnect => fields.insert "network_id" (.string request.networkID)
  | .status | .roomMembers | .unsupported _ _ => fields

def marshalRequest (request : Request) : Except Cause Text := do
  validateRequest request
  .ok (codec.marshal (ofMap (requestFields request)))

def allowedFields : Command → List String
  | .join => ["type", "invite", "display_name"]
  | .joinRoom => ["type", "control_url", "display_name"]
  | .leave | .connect | .disconnect => ["type", "network_id"]
  | .status | .roomMembers | .unsupported _ _ => ["type"]

def decodeArguments (fields : Fields) (command : Command) : Except Cause Request :=
  match command with
  | .status | .roomMembers => .ok (Request.of command)
  | .join => do
      let invite ← decodeStringField fields "invite"
      let displayName ← decodeStringField fields "display_name"
      .ok { Request.of command with invite, displayName }
  | .joinRoom => do
      let controlURL ← decodeStringField fields "control_url"
      let displayName ← decodeStringField fields "display_name"
      .ok { Request.of command with controlURL, displayName }
  | .leave | .connect | .disconnect => do
      let networkID ← decodeStringField fields "network_id"
      .ok { Request.of command with networkID }
  | .unsupported text _ => .error (.quoted "unsupported command" text)

def readRequest (data : Text) : Except Cause Request := do
  let fields ← decodeObject codec data
  let command ← decodeStringField fields "type"
  let request ← decodeArguments fields (Command.ofText command)
  rejectUnknown "unknown field" (allowedFields (Command.ofText command)) fields
  validateRequest request
  .ok request

def decodeRequest (data : Text) : Except Failure Request :=
  joined .invalidRequest (readRequest codec data)

end Requests

section Responses

def validateRoomMember (member : RoomMember) : Except Cause Unit := do
  refuse (blank member.displayName) (.text "room member display_name is required")
  refuse (((parseIP member.virtualIPv4).bind to4).isNone)
    (.text "room member virtual_ipv4 must be IPv4")
  refuse (member.state ≠ roomMemberOnline) (.text "room member state must be online")

def memberJson (member : RoomMember) : Json :=
  .object [("display_name", .string member.displayName),
    ("virtual_ipv4", .string member.virtualIPv4),
    ("is_local", .bool member.isLocal),
    ("state", .string member.state)]

def errorJson (error : Error) : Json :=
  .object (("code", .string error.code) ::
    if error.message = "" then [] else [("message", .string error.message)])

def insertWhen (present : Bool) (name : String) (value : Json) (fields : Fields) : Fields :=
  if present then fields.insert name value else fields

/-- The map of `MarshalResponse`; `handshake` is the text of the last handshake
when that time is not zero. -/
def responseFields (response : Response) (handshake : Option String) : Fields :=
  let status := response.status
  let fields : Fields := (((∅ : Fields).insert "ok" (.bool response.ok)).insert "path_state"
    (.string (defaultPathState status.pathState))).insert "config_generation"
    (.number (formatInt status.configGeneration))
  let fields := insertWhen (status.networkID ≠ "") "network_id" (.string status.networkID) fields
  let fields :=
    insertWhen (status.virtualIPv4 ≠ "") "virtual_ipv4" (.string status.virtualIPv4) fields
  let fields :=
    insertWhen handshake.isSome "last_handshake" (.string (handshake.getD "")) fields
  let fields := insertWhen (status.lastError ≠ "") "last_error" (.string status.lastError) fields
  let fields := insertWhen response.members.isSome "members"
    (.array ((response.members.getD []).map memberJson)) fields
  match response.error with
  | none => fields
  | some error => fields.insert "error" (errorJson error)

/-- The texts of the last handshake: none for the zero time; `json.Marshal`
fails on a time that the format cannot write. -/
def handshakeText (clock : Rfc3339) (handshake : Stamp) : Except Failure (Option String) :=
  if Time.isZero handshake.instant then .ok none
  else match clock.format handshake.utc.instant with
    | none => .error ⟨none, some .library⟩
    | some text => .ok (some text)

def checkMembers (response : Response) : Except Failure Unit :=
  match response.members with
  | none => .ok ()
  | some members =>
    if blank response.status.networkID then .error ⟨some .invalidResponse, none⟩
    else joined .invalidResponse (forM members validateRoomMember)

def refuseResponse (refused : Bool) : Except Failure Unit :=
  if refused then .error ⟨some .invalidResponse, none⟩ else .ok ()

variable {Text : Type} (codec : Codec Text) (clock : Rfc3339)

def marshalResponse (response : Response) : Except Failure Text := do
  refuseResponse (response.ok && response.error.isSome)
  refuseResponse (!response.ok && response.error.isNone)
  refuseResponse (!response.ok && response.members.isSome)
  checkMembers response
  let handshake ← handshakeText clock response.status.lastHandshake
  let encoded := codec.marshal (ofMap (responseFields response handshake))
  if maxMessageSize < codec.size encoded then .error ⟨none, some .messageTooLarge⟩
  else .ok encoded

def decodeIsLocal (fields : Fields) : Except Cause Bool :=
  match fields["is_local"]? with
  | none => .error (.text "missing or null room member is_local")
  | some .null => .error (.text "missing or null room member is_local")
  | some value => decodeBool value

def decodeRoomMember (raw : Json) : Except Cause RoomMember := do
  let fields ← readObject raw
  rejectUnknown "unknown room member field"
    ["display_name", "virtual_ipv4", "is_local", "state"] fields
  let displayName ← decodeStringField fields "display_name"
  let virtualIPv4 ← decodeStringField fields "virtual_ipv4"
  let isLocal ← decodeIsLocal fields
  let state ← decodeStringField fields "state"
  let member : RoomMember := ⟨displayName, virtualIPv4, isLocal, state⟩
  validateRoomMember member
  .ok member

def decodeRoomMembers : Json → Except Cause (List RoomMember)
  | .null => .error (.text "members cannot be null")
  | .array items => items.mapM decodeRoomMember
  | _ => .error (.text "members array required")

/-- The nested error is unmarshalled into a Go map, so here a repeated field is
not refused and its last value counts. -/
def decodeError : Json → Except Cause Error
  | .object members => do
      let value := lastWins members
      let code ← decodeStringField value "code"
      let message ← decodeOptional value "message" "" decodeString
      rejectUnknown "unknown error field" ["code", "message"] value
      .ok ⟨code, message⟩
  | _ => .error (.text "invalid error object")

def responseAllowed : List String :=
  ["ok", "network_id", "virtual_ipv4", "path_state", "last_handshake", "last_error",
    "config_generation", "members", "error"]

def decodeMembersField (fields : Fields) (ok : Bool) (networkID : String) :
    Except Cause (Option (List RoomMember)) :=
  decodeOptional fields "members" none fun raw => do
    refuse (!ok) (.text "members are only valid on success responses")
    refuse (blank networkID) (.text "members response requires network_id")
    let members ← decodeRoomMembers raw
    .ok (some members)

def readResponse (data : Text) : Except Cause Response := do
  let fields ← decodeObject codec data
  let ok ← decodeBoolField fields "ok"
  rejectUnknown "unknown field" responseAllowed fields
  let networkID ← decodeOptional fields "network_id" "" decodeString
  let virtualIPv4 ← decodeOptional fields "virtual_ipv4" "" decodeString
  let pathState ← decodeOptional fields "path_state" "" decodeString
  let lastHandshake ← decodeOptional fields "last_handshake" ⟨0, 0⟩ (decodeTime clock)
  let lastError ← decodeOptional fields "last_error" "" decodeString
  let configGeneration ← decodeOptional fields "config_generation" 0 decodeInt
  let members ← decodeMembersField fields ok networkID
  let error ← decodeOptional fields "error" none fun raw => some <$> decodeError raw
  .ok ⟨ok, ⟨networkID, virtualIPv4, pathState, lastHandshake, lastError, configGeneration⟩,
    members, error⟩

def decodeResponse (data : Text) : Except Failure Response := do
  let response ← joined .invalidResponse (readResponse codec clock data)
  refuseResponse (response.ok = response.error.isSome)
  let status := response.status
  .ok { response with status := { status with pathState := defaultPathState status.pathState } }

end Responses

end Ipv6Mesh.IpcProtocol
