import Ipv6Mesh.IpcRequests

/-!
# Responses on the wire

The encoder omits what is empty and the decoder gives an absent field its zero
value, so each optional field comes back as it was. `members` is emitted for
every slice that is not nil, which keeps an empty list apart from an absent one.
-/

namespace Ipv6Mesh.IpcResponses

open Std (ExtTreeMap)
open GoText GoFlow GoJson IpcProtocol IpcRequests

variable {fields : Fields} {name : String}

theorem getElem?_insertWhen (present : Bool) (name other : String) (value : Json)
    (fields : Fields) :
    (insertWhen present name value fields)[other]? =
      if present = true ∧ name = other then some value else fields[other]? := by
  cases present <;> simp [insertWhen, GoMap.getElem?_insert]

theorem readObject_of_distinct {members : List (String × Json)}
    (nonempty : ∀ member ∈ members, member.1 ≠ "") (distinct : (members.map Prod.fst).Nodup) :
    readObject (.object members) = .ok (lastWins members) :=
  readObject_eq_ok.mpr ⟨members, rfl, nonempty, distinct, rfl⟩

theorem decodeOptional_of_none {Value : Type} {zero : Value} {decode : Json → Except Cause Value}
    (absent : fields[name]? = none) :
    decodeOptional fields name zero decode = .ok zero := by
  rw [decodeOptional, absent]

theorem decodeOptional_of_some {Value : Type} {zero : Value} {decode : Json → Except Cause Value}
    {raw : Json} (stored : fields[name]? = some raw) :
    decodeOptional fields name zero decode = decode raw := by
  rw [decodeOptional, stored]

theorem decodeOptional_string {value : String}
    (stored : fields[name]? = if value = "" then none else some (.string value)) :
    decodeOptional fields name "" decodeString = .ok value := by
  split_ifs at stored with empty
  · rw [decodeOptional_of_none stored, empty]
  · rw [decodeOptional_of_some stored, decodeString]

theorem decodeRoomMember_memberJson {member : RoomMember}
    (valid : validateRoomMember member = .ok ()) :
    decodeRoomMember (memberJson member) = .ok member := by
  have read : readObject (memberJson member) = .ok (lastWins _) :=
    readObject_of_distinct (by simp) (by simp)
  simp only [decodeRoomMember, bind_eq_ok, decodeStringField_eq_ok, rejectUnknown_eq_ok]
  refine ⟨_, read, (), fun name held => ?_,
    member.displayName, (getElem?_lastWins (by simp)).mpr (by simp),
    member.virtualIPv4, (getElem?_lastWins (by simp)).mpr (by simp), member.isLocal, ?_,
    member.state, (getElem?_lastWins (by simp)).mpr (by simp), (), valid, rfl⟩
  · simpa using lastWins_ne_none.mp held
  · rw [decodeIsLocal, (getElem?_lastWins (by simp)).mpr
      (by simp : ("is_local", Json.bool member.isLocal) ∈ _)]
    rfl

theorem forM_eq_ok {Item : Type} {check : Item → Except Cause Unit} {items : List Item}
    {checked : Unit} :
    forM items check = .ok checked ↔ ∀ item ∈ items, check item = .ok () := by
  induction items with
  | nil => simp [pure, Except.pure]
  | cons item items ih => rw [List.forM_cons, check_eq_ok, ih, List.forall_mem_cons]

theorem decodeRoomMembers_map {members : List RoomMember}
    (valid : ∀ member ∈ members, validateRoomMember member = .ok ()) :
    decodeRoomMembers (.array (members.map memberJson)) = .ok members := by
  rw [decodeRoomMembers]
  induction members with
  | nil => rfl
  | cons member members ih =>
    obtain ⟨first, rest⟩ := List.forall_mem_cons.mp valid
    rw [List.map_cons, List.mapM_cons, decodeRoomMember_memberJson first, ih rest]
    rfl

theorem decodeError_errorJson (error : Error) : decodeError (errorJson error) = .ok error := by
  obtain ⟨code, message⟩ := error
  simp only [errorJson, decodeError, bind_eq_ok, decodeStringField_eq_ok, rejectUnknown_eq_ok,
    Except.ok.injEq]
  refine ⟨code, ?_, message, decodeOptional_string ?_, (), fun name held => ?_, rfl⟩
  · split_ifs <;> exact (getElem?_lastWins (by simp)).mpr (by simp)
  · split_ifs
    · simp [lastWins]
    · exact (getElem?_lastWins (by simp)).mpr (by simp)
  · have listed := lastWins_ne_none.mp held
    split_ifs at listed <;> simp_all

section Fields

variable (response : Response) (handshake : Option String)

def emitted (name : String) : Option Json :=
  if name = "ok" then some (.bool response.ok)
  else if name = "path_state" then some (.string (defaultPathState response.status.pathState))
  else if name = "config_generation" then
    some (.number (formatInt response.status.configGeneration))
  else if name = "network_id" then
    if response.status.networkID = "" then none else some (.string response.status.networkID)
  else if name = "virtual_ipv4" then
    if response.status.virtualIPv4 = "" then none else some (.string response.status.virtualIPv4)
  else if name = "last_handshake" then handshake.map Json.string
  else if name = "last_error" then
    if response.status.lastError = "" then none else some (.string response.status.lastError)
  else if name = "members" then
    response.members.map fun members => .array (members.map memberJson)
  else if name = "error" then response.error.map errorJson
  else none

theorem getElem?_responseFields (name : String) :
    (responseFields response handshake)[name]? = emitted response handshake name := by
  obtain ⟨ok, status, members, error⟩ := response
  cases error <;> cases members <;> cases handshake <;>
    simp only [responseFields, emitted, getElem?_insertWhen, GoMap.getElem?_insert,
      ExtTreeMap.getElem?_empty, decide_eq_true_eq, Option.isSome_none, Option.isSome_some,
      Option.map_none, Option.map_some, Option.getD_some] <;> grind

theorem mem_responseAllowed (held : (responseFields response handshake)[name]? ≠ none) :
    name ∈ responseAllowed := by
  rw [getElem?_responseFields] at held
  by_contra foreign
  simp only [responseAllowed, List.mem_cons, List.not_mem_nil, or_false, not_or] at foreign
  exact held (by simp [emitted, foreign])

theorem responseFields_named : (responseFields response handshake)[""]? = none := by
  rw [getElem?_responseFields]
  simp [emitted]

theorem encodable_memberJson (member : RoomMember) : Encodable (memberJson member) := by
  refine .object (by simp) fun field listed => ?_
  simp only [List.mem_cons, List.not_mem_nil, or_false] at listed
  rcases listed with rfl | rfl | rfl | rfl
  · exact .string _
  · exact .string _
  · exact .bool _
  · exact .string _

theorem encodable_errorJson (error : Error) : Encodable (errorJson error) := by
  refine .object (by split_ifs <;> simp) fun field listed => ?_
  split_ifs at listed
  · obtain rfl := List.mem_singleton.mp listed
    exact .string _
  · simp only [List.mem_cons, List.not_mem_nil, or_false] at listed
    rcases listed with rfl | rfl <;> exact .string _

theorem encodable_responseFields : Encodable (ofMap (responseFields response handshake)) := by
  refine encodable_ofMap fun name value stored => ?_
  rw [getElem?_responseFields, emitted] at stored
  split_ifs at stored
  · exact Option.some.inj stored ▸ .bool _
  · exact Option.some.inj stored ▸ .string _
  · exact Option.some.inj stored ▸ .number _
  · exact Option.some.inj stored ▸ .string _
  · exact Option.some.inj stored ▸ .string _
  · obtain ⟨text, -, rfl⟩ := Option.map_eq_some_iff.mp stored
    exact .string _
  · exact Option.some.inj stored ▸ .string _
  · obtain ⟨members, -, rfl⟩ := Option.map_eq_some_iff.mp stored
    refine .array fun item listed => ?_
    obtain ⟨member, -, rfl⟩ := List.mem_map.mp listed
    exact encodable_memberJson member
  · obtain ⟨error, -, rfl⟩ := Option.map_eq_some_iff.mp stored
    exact encodable_errorJson error

end Fields

section RoundTrip

variable {Text : Type} {codec : Codec Text} {clock : Rfc3339}

theorem refuseResponse_eq_ok {refused : Bool} {checked : Unit} :
    refuseResponse refused = .ok checked ↔ refused = false := by
  cases refused <;> simp [refuseResponse]

variable {response : Response}

theorem checkMembers_eq_ok {checked : Unit} :
    checkMembers response = .ok checked ↔ ∀ members, response.members = some members →
      blank response.status.networkID = false ∧
        ∀ member ∈ members, validateRoomMember member = .ok () := by
  rw [checkMembers]
  cases response.members with
  | none => simp
  | some members =>
    dsimp only
    split_ifs with unnamed
    · simp [unnamed]
    · simp [joined_eq_ok, forM_eq_ok, unnamed]

structure Marshalled (codec : Codec Text) (clock : Rfc3339) (response : Response) (text : Text)
    (handshake : Option String) : Prop where
  flagged : response.ok = !response.error.isSome
  membersOk : response.members.isSome = true → response.ok = true
  named : ∀ members, response.members = some members → blank response.status.networkID = false ∧
    ∀ member ∈ members, validateRoomMember member = .ok ()
  stamped : handshakeText clock response.status.lastHandshake = .ok handshake
  encoded : codec.marshal (ofMap (responseFields response handshake)) = text
  small : codec.size text ≤ maxMessageSize

theorem marshalResponse_ok {text : Text}
    (marshalled : marshalResponse codec clock response = .ok text) :
    ∃ handshake, Marshalled codec clock response text handshake := by
  simp only [marshalResponse, bind_eq_ok, refuseResponse_eq_ok, checkMembers_eq_ok] at marshalled
  obtain ⟨_, success, _, failed, _, bare, _, named, handshake, stamped, sized⟩ := marshalled
  split_ifs at sized with large
  obtain rfl := Except.ok.inj sized
  refine ⟨handshake, ?_, ?_, named, stamped, rfl, not_lt.mp large⟩
  · cases present : response.ok <;> cases given : response.error <;> simp_all
  · intro listed
    simpa [listed] using bare

variable {handshake : Option String}

theorem marshalResponse_eq (flagged : response.ok = !response.error.isSome)
    (membersOk : response.members.isSome = true → response.ok = true)
    (named : ∀ members, response.members = some members →
      blank response.status.networkID = false ∧
        ∀ member ∈ members, validateRoomMember member = .ok ())
    (stamped : handshakeText clock response.status.lastHandshake = .ok handshake) :
    marshalResponse codec clock response =
      if maxMessageSize < codec.size (codec.marshal (ofMap (responseFields response handshake)))
      then .error ⟨none, some .messageTooLarge⟩
      else .ok (codec.marshal (ofMap (responseFields response handshake))) := by
  have checked : checkMembers response = .ok () := checkMembers_eq_ok.mpr named
  have first : (response.ok && response.error.isSome) = false := by
    cases given : response.error.isSome <;> simp_all
  have second : (!response.ok && response.error.isNone) = false := by
    cases given : response.error <;> simp_all
  have third : (!response.ok && response.members.isSome) = false := by
    cases listed : response.members.isSome <;> simp_all
  simp only [marshalResponse, first, second, third, checked, stamped, refuseResponse]
  rfl

theorem decodeOptional_handshake {stamp : Stamp}
    (stamped : handshakeText clock stamp = .ok handshake)
    (stored : fields["last_handshake"]? = handshake.map Json.string) :
    decodeOptional fields "last_handshake" ⟨0, 0⟩ (decodeTime clock) = .ok stamp.utc := by
  rw [handshakeText] at stamped
  split_ifs at stamped with zero
  · obtain rfl := Except.ok.inj stamped
    have unset : stamp.instant = 0 := by simpa [Time.isZero] using zero
    rw [decodeOptional_of_none stored, Stamp.utc, unset]
  · cases written : clock.format stamp.utc.instant with
    | none => simp [written] at stamped
    | some text =>
      rw [written] at stamped
      obtain rfl := Except.ok.inj stamped
      rw [decodeOptional_of_some stored, decodeTime, decodeString]
      simp [bind, Except.bind, clock.reads written, Stamp.utc]

theorem decodeMembersField_emitted (membersOk : response.members.isSome = true → response.ok = true)
    (named : ∀ members, response.members = some members →
      blank response.status.networkID = false ∧
        ∀ member ∈ members, validateRoomMember member = .ok ()) (stored : fields["members"]? =
      response.members.map fun members => .array (members.map memberJson)) :
    decodeMembersField fields response.ok response.status.networkID = .ok response.members := by
  rw [decodeMembersField]
  cases listed : response.members with
  | none =>
    rw [listed] at stored
    exact decodeOptional_of_none stored
  | some members =>
    rw [listed] at stored membersOk
    obtain ⟨present, valid⟩ := named members listed
    rw [decodeOptional_of_some stored]
    simp only [bind_eq_ok, refuse_eq_ok]
    exact ⟨(), by simp [membersOk], (), present, members, decodeRoomMembers_map valid, rfl⟩

theorem decodeOptional_error {error : Option Error}
    (stored : fields["error"]? = error.map errorJson) :
    decodeOptional fields "error" none (fun raw => some <$> decodeError raw) = .ok error := by
  cases error with
  | none => exact decodeOptional_of_none stored
  | some error =>
    rw [decodeOptional_of_some stored, decodeError_errorJson]
    rfl

/-- A response as its reader sees it: an empty path state is disconnected, and
the time of the last handshake is in UTC. -/
def received (response : Response) : Response :=
  { response with
    status := { response.status with
      pathState := defaultPathState response.status.pathState
      lastHandshake := response.status.lastHandshake.utc } }

theorem defaultPathState_idem (pathState : String) :
    defaultPathState (defaultPathState pathState) = defaultPathState pathState := by
  by_cases empty : pathState = "" <;> simp [defaultPathState, pathStateDisconnected, empty]

theorem readResponse_marshalled {text : Text} (low : -2 ^ 63 ≤ response.status.configGeneration)
    (high : response.status.configGeneration ≤ maxInt64)
    (wire : Marshalled codec clock response text handshake) :
    readResponse codec clock text = .ok (received response) := by
  have decoded : decodeObject codec text = .ok (responseFields response handshake) := by
    obtain rfl := wire.encoded
    exact (decodeObject_marshal (responseFields_named _ _) (encodable_responseFields _ _)).mpr
      ⟨wire.small, rfl⟩
  have stored := getElem?_responseFields response handshake
  have pathState : (responseFields response handshake)["path_state"]? =
      some (.string (defaultPathState response.status.pathState)) := stored "path_state"
  have generation : (responseFields response handshake)["config_generation"]? =
      some (.number (formatInt response.status.configGeneration)) := stored "config_generation"
  have flag : (responseFields response handshake)["ok"]? = some (.bool response.ok) := stored "ok"
  simp only [readResponse, bind_eq_ok, rejectUnknown_eq_ok]
  refine ⟨_, decoded, response.ok, ?_, (), fun name => mem_responseAllowed _ _,
    _, decodeOptional_string (stored "network_id"),
    _, decodeOptional_string (stored "virtual_ipv4"), _, ?_,
    _, decodeOptional_handshake wire.stamped (stored "last_handshake"),
    _, decodeOptional_string (stored "last_error"), response.status.configGeneration, ?_,
    _, decodeMembersField_emitted wire.membersOk wire.named (stored "members"),
    _, decodeOptional_error (stored "error"), rfl⟩
  · rw [decodeBoolField, flag]
    rfl
  · rw [decodeOptional_of_some pathState, decodeString]
  · rw [decodeOptional_of_some generation, decodeInt, parseInt_formatInt low high]

theorem decodeResponse_marshalled {text : Text} (low : -2 ^ 63 ≤ response.status.configGeneration)
    (high : response.status.configGeneration ≤ maxInt64)
    (wire : Marshalled codec clock response text handshake) :
    decodeResponse codec clock text = .ok (received response) := by
  simp only [decodeResponse, bind_eq_ok, joined_eq_ok, refuseResponse_eq_ok]
  refine ⟨_, readResponse_marshalled low high wire, (), ?_, ?_⟩
  · have flagged := wire.flagged
    cases present : response.error <;> simp_all [received]
  · simp [received, defaultPathState_idem]

/-- Every emitted response is read back, with the path state defaulted and the
time of the last handshake in UTC. -/
theorem response_survives_wire (codec : Codec Text) (clock : Rfc3339) (response : Response)
    (text : Text) (low : -2 ^ 63 ≤ response.status.configGeneration)
    (high : response.status.configGeneration ≤ maxInt64)
    (marshalled : marshalResponse codec clock response = .ok text) :
    decodeResponse codec clock text = .ok (received response) := by
  obtain ⟨handshake, wire⟩ := marshalResponse_ok marshalled
  exact decodeResponse_marshalled low high wire

def sharedRoom : Response :=
  ⟨true, ⟨"room", "10.0.0.1", "", ⟨60, 3600⟩, "", -9223372036854775808⟩,
    some [⟨"desk", "10.0.0.1", true, "online"⟩, ⟨"lamp", "10.0.0.2", false, "online"⟩], none⟩

theorem shared_room_survives_wire :
    marshalResponse valueCodec decimalClock sharedRoom =
        .ok [ofMap (responseFields sharedRoom (some "60"))] ∧
      decodeResponse valueCodec decimalClock [ofMap (responseFields sharedRoom (some "60"))] =
        .ok { sharedRoom with status :=
          ⟨"room", "10.0.0.1", "disconnected", ⟨60, 0⟩, "", -9223372036854775808⟩ } := by
  have small : ¬maxMessageSize <
      valueCodec.size [ofMap (responseFields sharedRoom (some "60"))] := by
    decide +kernel
  have marshalled : marshalResponse valueCodec decimalClock sharedRoom =
      .ok [ofMap (responseFields sharedRoom (some "60"))] := by
    simp only [marshalResponse, bind_eq_ok, refuseResponse_eq_ok, checkMembers_eq_ok]
    exact ⟨(), rfl, (), rfl, (), rfl, (), fun members listed => by
      obtain rfl := Option.some.inj listed
      decide +kernel, some "60", by decide +kernel, if_neg small⟩
  exact ⟨marshalled, response_survives_wire valueCodec decimalClock sharedRoom _ (by decide)
    (by decide) marshalled⟩

end RoundTrip

end Ipv6Mesh.IpcResponses
