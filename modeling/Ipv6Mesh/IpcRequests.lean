import Ipv6Mesh.IpcProtocol

/-!
# Requests on the wire

`readRequest_eq_ok` says in one line what `DecodeRequest` accepts: the decoded
map is the map that the encoder builds from the result, the result passes the
validator, and the result sets no field outside its command. The round trip
and the exact grammar both follow from it.
-/

namespace Ipv6Mesh.IpcRequests

open Std (ExtTreeMap)
open GoText GoFlow GoJson IpcProtocol

variable {fields : Fields}

section Decoders

theorem refuse_eq_ok {refused : Bool} {cause : Cause} {checked : Unit} :
    refuse refused cause = .ok checked ↔ refused = false := by
  cases refused <;> simp [refuse]

theorem joined_eq_ok {sentinel : Sentinel} {Value : Type} {result : Except Cause Value}
    {value : Value} : joined sentinel result = .ok value ↔ result = .ok value := by
  cases result <;> simp [joined, Except.mapError]

theorem decodeString_eq_ok {raw : Json} {value : String} :
    decodeString raw = .ok value ↔ raw = .string value := by
  cases raw <;> simp [decodeString]

theorem decodeStringField_eq_ok {name value : String} :
    decodeStringField fields name = .ok value ↔ fields[name]? = some (.string value) := by
  rw [decodeStringField]
  cases fields[name]? with
  | none => simp
  | some raw => simp [decodeString_eq_ok]

theorem rejectUnknown_eq_ok {message : String} {allowed : List String} {checked : Unit} :
    rejectUnknown message allowed fields = .ok checked ↔
      ∀ name, fields[name]? ≠ none → name ∈ allowed := by
  have every : (fields.keys.find? fun name => decide (name ∉ allowed)) = none ↔
      ∀ name, fields[name]? ≠ none → name ∈ allowed := by
    rw [List.find?_eq_none]
    refine forall_congr' fun name => ?_
    rw [ExtTreeMap.mem_keys, ExtTreeMap.mem_iff_isSome_getElem?, Option.isSome_iff_ne_none]
    simp
  rw [← every, rejectUnknown]
  cases fields.keys.find? fun name => decide (name ∉ allowed) <;> simp

theorem readMembers_eq_ok {members : List (String × Json)} {result : Fields} :
    readMembers members fields = .ok result ↔
      (∀ member ∈ members, member.1 ≠ "") ∧ (members.map Prod.fst).Nodup ∧
      (∀ member ∈ members, member.1 ∉ fields) ∧
      members.foldl (fun fields member => fields.insert member.1 member.2) fields = result := by
  induction members generalizing fields with
  | nil => simp [readMembers]
  | cons head rest ih =>
    obtain ⟨name, value⟩ := head
    rw [readMembers]
    split_ifs with empty stored
    · simp [empty]
    · simp [ExtTreeMap.contains_iff_mem.mp stored]
    · rw [ih, List.forall_mem_cons, List.forall_mem_cons, List.map_cons, List.nodup_cons,
        List.foldl_cons]
      have fresh : name ∉ fields := fun held => stored (ExtTreeMap.contains_iff_mem.mpr held)
      have later : (∀ member ∈ rest, member.1 ∉ fields.insert name value) ↔
          name ∉ rest.map Prod.fst ∧ ∀ member ∈ rest, member.1 ∉ fields := by
        simp only [ExtTreeMap.mem_insert, compare_eq_iff_eq, List.mem_map]
        constructor
        · intro apart
          refine ⟨?_, fun member listed stored => apart member listed (.inr stored)⟩
          rintro ⟨member, listed, same⟩
          exact apart member listed (.inl same.symm)
        · rintro ⟨absent, unset⟩ member listed (same | stored)
          · exact absent ⟨member, listed, same.symm⟩
          · exact unset member listed stored
      rw [later]
      simp only [ne_eq, empty, not_false_eq_true, fresh, true_and]
      tauto

theorem readObject_eq_ok {raw : Json} :
    readObject raw = .ok fields ↔
      ∃ members, raw = .object members ∧ (∀ member ∈ members, member.1 ≠ "") ∧
        (members.map Prod.fst).Nodup ∧ lastWins members = fields := by
  cases raw with
  | object members => simp [readObject, readMembers_eq_ok, lastWins]
  | _ => simp [readObject]

variable {Text : Type} {codec : Codec Text}

theorem decodeObject_eq_ok {data : Text} :
    decodeObject codec data = .ok fields ↔
      codec.size data ≤ maxMessageSize ∧
        ∃ value, codec.values data = some [value] ∧ readObject value = .ok fields := by
  rw [decodeObject]
  split_ifs with large
  · simp [not_le.mpr large]
  · rw [and_iff_right (not_lt.mp large)]
    cases codec.values data with
    | none => simp
    | some values =>
      cases values with
      | nil => simp
      | cons first rest =>
        simp only [bind_eq_ok, refuse_eq_ok, Except.ok.injEq, exists_const, Option.some.injEq,
          List.cons.injEq]
        cases rest <;> simp

theorem readObject_ofMap (named : fields[""]? = none) :
    readObject (ofMap fields) = .ok fields := by
  refine readObject_eq_ok.mpr ⟨fields.toList, rfl, ?_, ?_, lastWins_toList fields⟩
  · rintro ⟨name, value⟩ listed rfl
    rw [ExtTreeMap.mem_toList_iff_getElem?_eq_some.mp listed] at named
    cases named
  · rw [ExtTreeMap.map_fst_toList_eq_keys]
    exact ExtTreeMap.nodup_keys

theorem decodeObject_marshal {decoded : Fields} (named : fields[""]? = none)
    (encodable : Encodable (ofMap fields)) :
    decodeObject codec (codec.marshal (ofMap fields)) = .ok decoded ↔
      codec.size (codec.marshal (ofMap fields)) ≤ maxMessageSize ∧ fields = decoded := by
  rw [decodeObject_eq_ok, codec.decodes encodable]
  refine and_congr_right fun _ => ?_
  constructor
  · rintro ⟨value, same, read⟩
    obtain rfl := (List.cons.inj (Option.some.inj same)).1
    rw [readObject_ofMap named] at read
    exact Except.ok.inj read
  · rintro rfl
    exact ⟨ofMap fields, rfl, readObject_ofMap named⟩

end Decoders

variable {request : Request}

def argument (request : Request) (name : String) : String :=
  if name = "type" then request.type.text
  else if name = "invite" then request.invite
  else if name = "display_name" then request.displayName
  else if name = "control_url" then request.controlURL
  else if name = "network_id" then request.networkID
  else ""

def keys : Command → List String
  | .status | .roomMembers | .unsupported _ _ => ["type"]
  | .join => ["type", "invite", "display_name"]
  | .joinRoom => ["type", "control_url", "display_name"]
  | .leave | .connect | .disconnect => ["type", "network_id"]

theorem type_mem_keys (command : Command) : "type" ∈ keys command := by
  cases command <;> simp [keys]

theorem keys_eq_allowedFields (command : Command) : keys command = allowedFields command := by
  cases command <;> rfl

/-- No argument is set that the type of the request does not send. -/
def Exact (request : Request) : Prop :=
  ∀ name, name ∉ keys request.type → argument request name = ""

def Filled (request : Request) : Prop :=
  ∀ name ∈ keys request.type, name ≠ "type" → blank (argument request name) = false

theorem exact_iff (request : Request) :
    Exact request ↔
      ("invite" ∉ keys request.type → request.invite = "") ∧
      ("display_name" ∉ keys request.type → request.displayName = "") ∧
      ("control_url" ∉ keys request.type → request.controlURL = "") ∧
      ("network_id" ∉ keys request.type → request.networkID = "") := by
  constructor
  · intro exact_
    exact ⟨exact_ "invite", exact_ "display_name", exact_ "control_url", exact_ "network_id"⟩
  · rintro ⟨invite, displayName, controlURL, networkID⟩ name absent
    have typed : name ≠ "type" := by
      rintro rfl
      exact absent (type_mem_keys request.type)
    rw [argument, if_neg typed]
    split_ifs with first second third fourth
    · exact invite (first ▸ absent)
    · exact displayName (second ▸ absent)
    · exact controlURL (third ▸ absent)
    · exact networkID (fourth ▸ absent)
    · rfl

instance (request : Request) : Decidable (Exact request) :=
  decidable_of_iff _ (exact_iff request).symm

instance (request : Request) : Decidable (Filled request) :=
  inferInstanceAs (Decidable (∀ name ∈ keys request.type, _ → _))

theorem getElem?_requestFields (request : Request) (name : String) :
    (requestFields request)[name]? =
      if name ∈ keys request.type then some (.string (argument request name)) else none := by
  obtain ⟨type, invite, displayName, controlURL, networkID⟩ := request
  cases type <;> simp only [requestFields, keys, argument, GoMap.getElem?_insert,
    ExtTreeMap.getElem?_empty, List.mem_cons, List.not_mem_nil, or_false] <;> split_ifs <;> grind

theorem decodeArguments_eq_ok {command : Command} :
    decodeArguments fields command = .ok request ↔
      command.text ∈ commandTexts ∧ request.type = command ∧ Exact request ∧
        ∀ name ∈ keys command, name ≠ "type" →
          fields[name]? = some (.string (argument request name)) := by
  obtain ⟨type, invite, displayName, controlURL, networkID⟩ := request
  rw [exact_iff]
  cases command with
  | unsupported text foreign => simp [decodeArguments, Command.text, foreign]
  | _ =>
    simp only [decodeArguments, bind_eq_ok, decodeStringField_eq_ok, Request.of,
      Except.ok.injEq, Request.mk.injEq]
    constructor
    · -- the results of the reads are the fields of the request
      intro read
      simp only [keys, argument, List.forall_mem_cons]
      grind [keys, Command.text, commandTexts]
    · rintro ⟨-, rfl, unset, read⟩
      simp only [keys, argument, List.forall_mem_cons] at unset read
      grind

theorem validateRequest_eq_ok {checked : Unit} (exact_ : Exact request) :
    validateRequest request = .ok checked ↔
      request.type.text ∈ commandTexts ∧ Filled request := by
  obtain ⟨type, invite, displayName, controlURL, networkID⟩ := request
  rw [exact_iff] at exact_
  cases type with
  | unsupported text foreign => simp [validateRequest, Command.text, foreign]
  | _ =>
    simp only [validateRequest, bind_eq_ok, refuse_eq_ok, Filled]
    grind [keys, argument, Command.text, commandTexts]

section Acceptance

variable {Text : Type} {codec : Codec Text}

theorem fields_eq_requestFields (known : ∀ name, fields[name]? ≠ none → name ∈ keys request.type)
    (read : ∀ name ∈ keys request.type, fields[name]? = some (.string (argument request name))) :
    fields = requestFields request := by
  refine ExtTreeMap.ext_getElem? fun name => ?_
  rw [getElem?_requestFields]
  split_ifs with listed
  · exact read name listed
  · exact not_not.mp fun stored => listed (known name stored)

theorem readRequest_eq_ok {data : Text} :
    readRequest codec data = .ok request ↔
      decodeObject codec data = .ok (requestFields request) ∧
        request.type.text ∈ commandTexts ∧ Exact request ∧ Filled request := by
  simp only [readRequest, bind_eq_ok, decodeStringField_eq_ok, decodeArguments_eq_ok,
    rejectUnknown_eq_ok, Except.ok.injEq, ← keys_eq_allowedFields]
  constructor
  · rintro ⟨fields, decoded, text, typed, result, ⟨supported, type, exact_, arguments⟩, _, known, _,
      valid, rfl⟩
    rw [← type] at known arguments
    have spelled : text = argument result "type" := by
      rw [argument, if_pos rfl, type, Command.text_ofText]
    have same := fields_eq_requestFields known fun name listed => by
      by_cases named : name = "type"
      · rw [named, typed, spelled]
      · exact arguments name listed named
    have checked := (validateRequest_eq_ok exact_).mp valid
    exact ⟨same ▸ decoded, checked.1, exact_, checked.2⟩
  · rintro ⟨decoded, supported, exact_, filled⟩
    have stored : ∀ name ∈ keys request.type,
        (requestFields request)[name]? = some (.string (argument request name)) :=
      fun name listed => by rw [getElem?_requestFields, if_pos listed]
    have known : ∀ name, (requestFields request)[name]? ≠ none → name ∈ keys request.type := by
      intro name held
      by_contra absent
      exact held (by rw [getElem?_requestFields, if_neg absent])
    have type := Command.ofText_text request.type
    refine ⟨_, decoded, request.type.text, stored "type" (type_mem_keys _), request, ?_, (), ?_,
      (), (validateRequest_eq_ok exact_).mpr ⟨supported, filled⟩, rfl⟩
    · rw [type]
      exact ⟨supported, rfl, exact_, fun name listed _ => stored name listed⟩
    · rw [type]
      exact known

theorem decodeRequest_eq_ok {data : Text} :
    decodeRequest codec data = .ok request ↔
      decodeObject codec data = .ok (requestFields request) ∧
        request.type.text ∈ commandTexts ∧ Exact request ∧ Filled request := by
  rw [decodeRequest, joined_eq_ok, readRequest_eq_ok]

end Acceptance

section RoundTrip

theorem requestFields_named (request : Request) : (requestFields request)[""]? = none := by
  rw [getElem?_requestFields, if_neg]
  cases request.type <;> simp [keys]

theorem encodable_requestFields (request : Request) :
    Encodable (ofMap (requestFields request)) := by
  refine encodable_ofMap fun name value stored => ?_
  rw [getElem?_requestFields] at stored
  split_ifs at stored with listed
  exact Option.some.inj stored ▸ .string _

variable {Text : Type} {codec : Codec Text}

theorem marshalRequest_eq_ok {text : Text} :
    marshalRequest codec request = .ok text ↔
      validateRequest request = .ok () ∧ codec.marshal (ofMap (requestFields request)) = text := by
  rw [marshalRequest, check_eq_ok, Except.ok.injEq]

/-- An emitted request comes back as it was exactly when it sets only the
fields of its command and its compact text fits the limit of the receiver. -/
theorem request_survives_wire_iff (codec : CompactCodec Text) (request : Request) (text : Text)
    (marshalled : marshalRequest codec.toCodec request = .ok text) :
    decodeRequest codec.toCodec text = .ok request ↔
      Exact request ∧ compactSize (ofMap (requestFields request)) ≤ maxMessageSize := by
  obtain ⟨valid, rfl⟩ := marshalRequest_eq_ok.mp marshalled
  have encodable := encodable_requestFields request
  rw [decodeRequest_eq_ok, decodeObject_marshal (requestFields_named request) encodable,
    codec.compact encodable]
  constructor
  · rintro ⟨⟨small, -⟩, -, exact_, -⟩
    exact ⟨exact_, small⟩
  · rintro ⟨exact_, small⟩
    obtain ⟨supported, filled⟩ := (validateRequest_eq_ok exact_).mp valid
    exact ⟨⟨small, rfl⟩, supported, exact_, filled⟩

def joinRoomRequest : Request := ⟨.joinRoom, "", "desk", "https://host", ""⟩

theorem join_room_request_survives_wire :
    marshalRequest valueCodec joinRoomRequest =
        .ok [ofMap (requestFields joinRoomRequest)] ∧
      decodeRequest valueCodec [ofMap (requestFields joinRoomRequest)] = .ok joinRoomRequest := by
  have marshalled : marshalRequest valueCodec joinRoomRequest =
      .ok [ofMap (requestFields joinRoomRequest)] :=
    marshalRequest_eq_ok.mpr ⟨by decide +kernel, rfl⟩
  exact ⟨marshalled, (request_survives_wire_iff compactValueCodec joinRoomRequest _ marshalled).mpr
    ⟨by decide +kernel, by decide +kernel⟩⟩

def strayRequest : Request := ⟨.join, "invite", "desk", "https://host", ""⟩

theorem stray_field_dropped_on_wire :
    marshalRequest valueCodec strayRequest = .ok [ofMap (requestFields strayRequest)] ∧
      decodeRequest valueCodec [ofMap (requestFields strayRequest)] =
        .ok ⟨.join, "invite", "desk", "", ""⟩ ∧
      decodeRequest valueCodec [ofMap (requestFields strayRequest)] ≠ .ok strayRequest := by
  have decoded : decodeRequest valueCodec [ofMap (requestFields strayRequest)] =
      .ok ⟨.join, "invite", "desk", "", ""⟩ :=
    decodeRequest_eq_ok.mpr ⟨(decodeObject_marshal (requestFields_named strayRequest)
      (encodable_requestFields strayRequest)).mpr ⟨by decide +kernel, rfl⟩, by decide +kernel⟩
  refine ⟨marshalRequest_eq_ok.mpr ⟨by decide +kernel, rfl⟩, decoded, ?_⟩
  rw [decoded]
  exact fun same => absurd (Except.ok.inj same) (by decide +kernel)

end RoundTrip

section Grammar

/-- The members of an object spell a request: the names are distinct, not empty
and exactly those of the command, and every value is a string of the request,
not blank unless it is the command. -/
structure Spells (members : List (String × Json)) (request : Request) : Prop where
  nonempty : ∀ member ∈ members, member.1 ≠ ""
  distinct : (members.map Prod.fst).Nodup
  supported : request.type.text ∈ commandTexts
  names : ∀ name, name ∈ members.map Prod.fst ↔ name ∈ keys request.type
  strings : ∀ member ∈ members, member.2 = .string (argument request member.1)
  filled : ∀ member ∈ members, member.1 ≠ "type" → blank (argument request member.1) = false
  others : Exact request

theorem lastWins_eq_requestFields {members : List (String × Json)}
    (distinct : (members.map Prod.fst).Nodup) :
    lastWins members = requestFields request ↔
      (∀ name, name ∈ members.map Prod.fst ↔ name ∈ keys request.type) ∧
        ∀ member ∈ members, member.2 = .string (argument request member.1) := by
  have lookup (name : String) (value : Json) :
      (lastWins members)[name]? = some value ↔ (name, value) ∈ members :=
    getElem?_lastWins distinct
  constructor
  · intro same
    rw [same] at lookup
    simp only [getElem?_requestFields] at lookup
    refine ⟨fun name => ?_, fun member listed => ?_⟩
    · rw [List.mem_map]
      constructor
      · rintro ⟨member, listed, rfl⟩
        by_contra absent
        have stored := (lookup member.1 member.2).mpr listed
        rw [if_neg absent] at stored
        cases stored
      · intro listed
        exact ⟨_, (lookup name _).mp (if_pos listed), rfl⟩
    · have stored := (lookup member.1 member.2).mpr listed
      split_ifs at stored
      exact (Option.some.inj stored).symm
  · rintro ⟨names, strings⟩
    refine fields_eq_requestFields (fun name held => ?_) fun name listed => ?_
    · obtain ⟨value, stored⟩ := Option.ne_none_iff_exists'.mp held
      exact (names name).mp (List.mem_map_of_mem ((lookup name value).mp stored))
    · obtain ⟨member, present, rfl⟩ := List.mem_map.mp ((names name).mpr listed)
      exact (lookup _ _).mpr (strings member present ▸ present)

variable {Text : Type}

/-- `DecodeRequest` accepts exactly its grammar and returns the strings of the text. -/
theorem decodeRequest_accepts_grammar (codec : Codec Text) (data : Text)
    (bounded : codec.size data ≤ maxMessageSize) (request : Request) :
    decodeRequest codec data = .ok request ↔
      ∃ members, codec.values data = some [.object members] ∧ Spells members request := by
  rw [decodeRequest_eq_ok, decodeObject_eq_ok, and_iff_right bounded]
  constructor
  · rintro ⟨⟨value, parsed, read⟩, supported, exact_, filled⟩
    obtain ⟨members, rfl, nonempty, distinct, same⟩ := readObject_eq_ok.mp read
    obtain ⟨names, strings⟩ := (lastWins_eq_requestFields distinct).mp same
    have listed : ∀ member ∈ members, member.1 ∈ keys request.type := fun member present =>
      (names member.1).mp (List.mem_map_of_mem present)
    exact ⟨members, parsed, nonempty, distinct, supported, names, strings,
      fun member present => filled member.1 (listed member present), exact_⟩
  · rintro ⟨members, parsed, spells⟩
    have same := (lastWins_eq_requestFields spells.distinct).mpr ⟨spells.names, spells.strings⟩
    refine ⟨⟨_, parsed, readObject_eq_ok.mpr
      ⟨members, rfl, spells.nonempty, spells.distinct, same⟩⟩, spells.supported, spells.others, ?_⟩
    intro name listed
    obtain ⟨member, present, rfl⟩ := List.mem_map.mp ((spells.names name).mpr listed)
    exact spells.filled member present

theorem join_room_request_accepted :
    let members : List (String × Json) := [("display_name", .string "desk"),
      ("type", .string "join_room"), ("control_url", .string "https://host")]
    decodeRequest valueCodec [.object members] = .ok joinRoomRequest := by
  intro members
  refine (decodeRequest_accepts_grammar valueCodec [.object members] (by decide +kernel)
    joinRoomRequest).mpr ⟨members, rfl, ?_⟩
  refine ⟨by decide, by decide, by decide, fun name => ?_, ?_, by decide +kernel,
    by decide +kernel⟩
  · simp [members, joinRoomRequest, keys]
    tauto
  · simp [members, joinRoomRequest, argument, Command.text]

end Grammar

end Ipv6Mesh.IpcRequests
