import Ipv6Mesh.IpcResponses

/-!
# Keys of an accepted response

`DecodeResponse` reads three kinds of objects: the response and its members by
a token loop that refuses a key it has seen, and the error by unmarshalling into
a Go map. The loop makes the keys distinct; the map does not.
-/

namespace Ipv6Mesh.IpcStrictness

open Std (ExtTreeMap)
open GoText GoFlow GoJson IpcProtocol IpcRequests IpcResponses

def memberAllowed : List String := ["display_name", "virtual_ipv4", "is_local", "state"]

def errorAllowed : List String := ["code", "message"]

def DistinctKeys (members : List (String × Json)) : Prop := (members.map Prod.fst).Nodup

def KnownKeys (allowed : List String) (members : List (String × Json)) : Prop :=
  ∀ member ∈ members, member.1 ∈ allowed

/-- The objects of a response in the order of its text: what the decoder is
strict about, and what it would have to be strict about. -/
structure StrictLevels (fields : List (String × Json)) : Prop where
  topDistinct : DistinctKeys fields
  topKnown : KnownKeys responseAllowed fields
  members : ∀ raw, ("members", raw) ∈ fields → ∃ items, raw = .array items ∧
    ∀ item ∈ items, ∃ member, item = .object member ∧ DistinctKeys member ∧
      KnownKeys memberAllowed member
  errorKnown : ∀ raw, ("error", raw) ∈ fields →
    ∃ error, raw = .object error ∧ KnownKeys errorAllowed error

/-- Every object of the response has distinct and known keys. -/
structure StrictResponse (fields : List (String × Json)) : Prop extends StrictLevels fields where
  errorDistinct : ∀ error, ("error", .object error) ∈ fields → DistinctKeys error

variable {raw : Json}

theorem readObject_keys {fields : Fields} {message : String} {allowed : List String}
    {checked : Unit} (read : readObject raw = .ok fields)
    (known : rejectUnknown message allowed fields = .ok checked) :
    ∃ members, raw = .object members ∧ lastWins members = fields ∧ DistinctKeys members ∧
      KnownKeys allowed members := by
  obtain ⟨members, rfl, -, distinct, rfl⟩ := readObject_eq_ok.mp read
  refine ⟨members, rfl, rfl, distinct, fun member listed => ?_⟩
  exact rejectUnknown_eq_ok.mp known member.1
    (lastWins_ne_none.mpr (List.mem_map_of_mem listed))

theorem decodeRoomMember_keys {member : RoomMember} (decoded : decodeRoomMember raw = .ok member) :
    ∃ members, raw = .object members ∧ DistinctKeys members ∧
      KnownKeys memberAllowed members := by
  simp only [decodeRoomMember, bind_eq_ok] at decoded
  obtain ⟨fields, read, _, known, -⟩ := decoded
  obtain ⟨members, shape, -, distinct, allowed⟩ := readObject_keys read known
  exact ⟨members, shape, distinct, allowed⟩

theorem decodeRoomMembers_keys {members : List RoomMember}
    (decoded : decodeRoomMembers raw = .ok members) :
    ∃ items, raw = .array items ∧ ∀ item ∈ items, ∃ member, item = .object member ∧
      DistinctKeys member ∧ KnownKeys memberAllowed member := by
  cases raw with
  | array items =>
    refine ⟨items, rfl, ?_⟩
    rw [decodeRoomMembers] at decoded
    induction items generalizing members with
    | nil =>
      intro item listed
      cases listed
    | cons item rest ih =>
      simp only [List.mapM_cons, bind_eq_ok] at decoded
      obtain ⟨first, read, others, later, -⟩ := decoded
      intro other listed
      rcases List.mem_cons.mp listed with rfl | behind
      · exact decodeRoomMember_keys read
      · exact ih later other behind
  | null | bool | number | string | object => cases decoded

theorem decodeError_keys {error : Error} (decoded : decodeError raw = .ok error) :
    ∃ members, raw = .object members ∧ KnownKeys errorAllowed members := by
  cases raw with
  | object members =>
    simp only [decodeError, bind_eq_ok] at decoded
    obtain ⟨code, -, message, -, _, known, -⟩ := decoded
    refine ⟨members, rfl, fun member listed => ?_⟩
    exact rejectUnknown_eq_ok.mp known member.1
      (lastWins_ne_none.mpr (List.mem_map_of_mem listed))
  | null | bool | number | string | array => cases decoded

section Responses

variable {Text : Type} {codec : Codec Text} {clock : Rfc3339}

theorem decodeOptional_present {Value : Type} {fields : Fields} {name : String} {zero value : Value}
    {decode : Json → Except Cause Value}
    (decoded : decodeOptional fields name zero decode = .ok value)
    (stored : fields[name]? = some raw) : decode raw = .ok value := by
  rwa [decodeOptional_of_some stored] at decoded

theorem decodeResponse_levels {data : Text} {response : Response}
    (accepted : decodeResponse codec clock data = .ok response) :
    ∃ fields, codec.values data = some [.object fields] ∧ StrictLevels fields := by
  simp only [decodeResponse, bind_eq_ok, joined_eq_ok] at accepted
  obtain ⟨read, decoded, -⟩ := accepted
  simp only [readResponse, bind_eq_ok] at decoded
  obtain ⟨fields, object, ok, -, _, known, networkID, -, virtualIPv4, -, pathState, -,
    lastHandshake, -, lastError, -, configGeneration, -, members, membersRead, error, errorRead,
    -⟩ := decoded
  obtain ⟨-, value, text, objectRead⟩ := decodeObject_eq_ok.mp object
  obtain ⟨listed, rfl, rfl, distinct, allowed⟩ := readObject_keys objectRead known
  refine ⟨listed, text, distinct, allowed, fun raw present => ?_, fun raw present => ?_⟩
  · have stored := (getElem?_lastWins distinct).mpr present
    have decoded := decodeOptional_present membersRead stored
    simp only [bind_eq_ok] at decoded
    obtain ⟨_, -, _, -, found, itemsRead, -⟩ := decoded
    exact decodeRoomMembers_keys itemsRead
  · have stored := (getElem?_lastWins distinct).mpr present
    have decoded := decodeOptional_present errorRead stored
    cases errorDecoded : decodeError raw with
    | error cause =>
      rw [errorDecoded] at decoded
      cases decoded
    | ok found => exact decodeError_keys errorDecoded

/-- An accepted response is strict about its own keys and those of its members,
and about the keys of its error up to repetition: it is strict at every level
exactly when the keys of the error are distinct. -/
theorem accepted_response_strict_iff (codec : Codec Text) (clock : Rfc3339) (data : Text)
    (response : Response) (accepted : decodeResponse codec clock data = .ok response) :
    ∃ fields, codec.values data = some [.object fields] ∧ StrictLevels fields ∧
      (StrictResponse fields ↔
        ∀ error, ("error", .object error) ∈ fields → DistinctKeys error) := by
  obtain ⟨fields, text, levels⟩ := decodeResponse_levels accepted
  exact ⟨fields, text, levels, fun strict => strict.errorDistinct,
    fun distinct => ⟨levels, distinct⟩⟩

def repeatedCode : List (String × Json) :=
  [("ok", .bool false),
    ("error", .object [("code", .string "not_joined"), ("code", .string "internal")])]

theorem repeated_code_decoded :
    decodeResponse valueCodec decimalClock [.object repeatedCode] =
      .ok ⟨false, ⟨"", "", "disconnected", ⟨0, 0⟩, "", 0⟩, none, some ⟨"internal", ""⟩⟩ := by
  decide +kernel

theorem repeated_code_strict_iff :
    ∃ fields, valueCodec.values [.object repeatedCode] = some [.object fields] ∧
      StrictLevels fields ∧ (StrictResponse fields ↔
        ∀ error, ("error", .object error) ∈ fields → DistinctKeys error) :=
  accepted_response_strict_iff valueCodec decimalClock _ _ repeated_code_decoded

theorem repeated_error_code_accepted :
    decodeResponse valueCodec decimalClock [.object repeatedCode] =
        .ok ⟨false, ⟨"", "", "disconnected", ⟨0, 0⟩, "", 0⟩, none, some ⟨"internal", ""⟩⟩ ∧
      ¬StrictResponse repeatedCode := by
  refine ⟨repeated_code_decoded, fun strict => ?_⟩
  have distinct := strict.errorDistinct _ (List.mem_cons_of_mem _ List.mem_cons_self)
  simp [DistinctKeys] at distinct

end Responses

end Ipv6Mesh.IpcStrictness
