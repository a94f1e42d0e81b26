import Ipv6Mesh.GoFlow
import Ipv6Mesh.GoMap
import Ipv6Mesh.GoText

/-!
# Package `encoding/json` at the level of values

A text is read as the sequence of its top-level values. An object is the list
of its members in the order of the text, so that a key written twice is seen
twice, and a number is its literal. What the package does with the characters
of a text is the parameter `Codec`; its one law is that an encoded value is
decoded as itself. A marshalled Go map lists its members in key order.
-/

namespace Ipv6Mesh.GoJson

open Std
open GoText

inductive Json where
  | null
  | bool (value : Bool)
  | number (literal : String)
  | string (value : String)
  | array (items : List Json)
  | object (members : List (String × Json))

def formatInt : Int → String
  | .ofNat value => String.ofList (Nat.toDigits 10 value)
  | .negSucc value => String.ofList ('-' :: Nat.toDigits 10 (value + 1))

def parseDigits (digits : List Char) : Option Nat :=
  if digits ≠ [] ∧ digits.all Char.isDigit then some (Nat.ofDigitChars 10 digits 0) else none

def parseInt (literal : String) : Option Int :=
  let value : Option Int :=
    match literal.toList with
    | '-' :: digits => (parseDigits digits).map fun (size : Nat) => -(size : Int)
    | '+' :: digits => (parseDigits digits).map fun (size : Nat) => (size : Int)
    | digits => (parseDigits digits).map fun (size : Nat) => (size : Int)
  value.filter fun value => -2 ^ 63 ≤ value ∧ value ≤ maxInt64

theorem parseDigits_toDigits (value : Nat) : parseDigits (Nat.toDigits 10 value) = some value := by
  have digits : (Nat.toDigits 10 value).all Char.isDigit = true :=
    List.all_eq_true.mpr fun _ member => Nat.isDigit_of_mem_toDigits (by decide) (by decide) member
  rw [parseDigits, if_pos ⟨Nat.toDigits_ne_nil, digits⟩,
    Nat.ofDigitChars_toDigits (by decide) (by decide)]

theorem parseInt_toDigits {value : Nat} (bounded : (value : Int) ≤ maxInt64) :
    parseInt (String.ofList (Nat.toDigits 10 value)) = some (value : Int) := by
  have written : Nat.toDigits 10 value ≠ [] := Nat.toDigits_ne_nil
  obtain ⟨first, rest, shape⟩ := List.exists_cons_of_ne_nil written
  have digit : first.isDigit = true :=
    Nat.isDigit_of_mem_toDigits (b := 10) (n := value) (by decide) (by decide)
      (shape ▸ List.mem_cons_self)
  have read := parseDigits_toDigits value
  rw [shape] at read
  rw [parseInt, String.toList_ofList, shape]
  have minus : first ≠ '-' := by rintro rfl; exact absurd digit (by decide)
  have plus : first ≠ '+' := by rintro rfl; exact absurd digit (by decide)
  split
  · rename_i same; exact absurd (List.cons.inj same).1 minus
  · rename_i same; exact absurd (List.cons.inj same).1 plus
  · simp [read, bounded]

theorem parseInt_formatInt {value : Int} (low : -2 ^ 63 ≤ value) (high : value ≤ maxInt64) :
    parseInt (formatInt value) = some value := by
  cases value with
  | ofNat size => exact parseInt_toDigits high
  | negSucc size =>
    rw [formatInt, parseInt, String.toList_ofList]
    have same : -((size + 1 : Nat) : Int) = Int.negSucc size := rfl
    simp only [parseDigits_toDigits, Option.map_some, same]
    rw [Option.filter_some, if_pos (decide_eq_true ⟨low, high⟩)]

/-- The values a Go program hands to `json.Marshal`: the keys of an object are
distinct and a number is written by `strconv`. -/
inductive Encodable : Json → Prop where
  | null : Encodable .null
  | bool (value : Bool) : Encodable (.bool value)
  | number (value : Int) : Encodable (.number (formatInt value))
  | string (value : String) : Encodable (.string value)
  | array {items : List Json} (each : ∀ item ∈ items, Encodable item) : Encodable (.array items)
  | object {members : List (String × Json)} (distinct : (members.map Prod.fst).Nodup)
      (each : ∀ member ∈ members, Encodable member.2) : Encodable (.object members)

structure Codec (Text : Type) where
  size : Text → Nat
  values : Text → Option (List Json)
  marshal : Json → Text
  decodes : ∀ {value : Json}, Encodable value → values (marshal value) = some [value]

structure Stamp where
  instant : Time
  zone : Int
  deriving DecidableEq, Repr, Inhabited

def Stamp.utc (stamp : Stamp) : Stamp := ⟨stamp.instant, 0⟩

/-- The text of a UTC time in RFC 3339; `format` is `none` outside the years
the format can write. -/
structure Rfc3339 where
  format : Time → Option String
  parse : String → Option Stamp
  reads : ∀ {instant : Time} {text : String},
    format instant = some text → parse text = some ⟨instant, 0⟩

variable {members : List (String × Json)}

def ofMap (fields : ExtTreeMap String Json) : Json := .object fields.toList

def lastWins (members : List (String × Json)) : ExtTreeMap String Json :=
  members.foldl (fun fields member => fields.insert member.1 member.2) ∅

theorem encodable_ofMap {fields : ExtTreeMap String Json}
    (each : ∀ (name : String) (value : Json), fields[name]? = some value → Encodable value) :
    Encodable (ofMap fields) := by
  refine .object ?_ fun member listed => ?_
  · rw [ExtTreeMap.map_fst_toList_eq_keys]
    exact ExtTreeMap.nodup_keys
  · exact each member.1 member.2 (ExtTreeMap.mem_toList_iff_getElem?_eq_some.mp listed)

theorem getElem?_foldl_insert (distinct : (members.map Prod.fst).Nodup)
    (fields : ExtTreeMap String Json) (fresh : ∀ member ∈ members, fields[member.1]? = none)
    (name : String) (value : Json) :
    (members.foldl (fun fields member => fields.insert member.1 member.2) fields)[name]? =
      some value ↔ (name, value) ∈ members ∨ fields[name]? = some value := by
  induction members generalizing fields with
  | nil => simp
  | cons head rest ih =>
    obtain ⟨absent, distinct⟩ := List.nodup_cons.mp distinct
    have apart : ∀ member ∈ rest, head.1 ≠ member.1 := fun member later same =>
      absent (same ▸ List.mem_map_of_mem later)
    have unset : fields[head.1]? = none := fresh head List.mem_cons_self
    rw [List.foldl_cons, ih distinct]
    · rw [GoMap.getElem?_insert, List.mem_cons, Prod.ext_iff]
      split_ifs with same
      · subst same
        simp only [unset, Option.some.injEq, reduceCtorEq, false_or, true_and, or_comm, eq_comm]
      · simp only [Ne.symm same, false_and, false_or]
    · intro member later
      rw [GoMap.getElem?_insert, if_neg (apart member later)]
      exact fresh member (List.mem_cons_of_mem _ later)

theorem getElem?_lastWins (distinct : (members.map Prod.fst).Nodup) {name : String} {value : Json} :
    (lastWins members)[name]? = some value ↔ (name, value) ∈ members := by
  rw [lastWins, getElem?_foldl_insert distinct ∅ (fun _ _ => ExtTreeMap.getElem?_empty)]
  simp

theorem foldl_insert_ne_none (members : List (String × Json)) (fields : ExtTreeMap String Json)
    (name : String) :
    (members.foldl (fun fields member => fields.insert member.1 member.2) fields)[name]? ≠ none ↔
      fields[name]? ≠ none ∨ name ∈ members.map Prod.fst := by
  induction members generalizing fields with
  | nil => simp
  | cons head rest ih =>
    rw [List.foldl_cons, ih, GoMap.getElem?_insert, List.map_cons, List.mem_cons]
    by_cases same : head.1 = name
    · simp [same]
    · simp [same, Ne.symm same]

theorem lastWins_ne_none {name : String} :
    (lastWins members)[name]? ≠ none ↔ name ∈ members.map Prod.fst := by
  rw [lastWins, foldl_insert_ne_none]
  simp

theorem lastWins_toList (fields : ExtTreeMap String Json) : lastWins fields.toList = fields := by
  have distinct : (fields.toList.map Prod.fst).Nodup := by
    rw [ExtTreeMap.map_fst_toList_eq_keys]
    exact ExtTreeMap.nodup_keys
  refine ExtTreeMap.ext_getElem? fun name => Option.ext fun value => ?_
  rw [getElem?_lastWins distinct, ExtTreeMap.mem_toList_iff_getElem?_eq_some]

section Structs

variable {Value Part : Type}

/-- A field of a Go struct under its JSON name; decoding starts from the value
that is already there. -/
structure StructField (Value : Type) where
  name : String
  decode : Json → Value → Option Value

def structField (name : String) (get : Value → Part) (set : Value → Part → Value)
    (decode : Json → Part → Option Part) : StructField Value :=
  ⟨name, fun json value => (decode json (get value)).map (set value)⟩

def findField (fold : String → String) (fields : List (StructField Value)) (name : String) :
    Option (StructField Value) :=
  (fields.find? fun known => known.name = name).or
    (fields.find? fun known => fold known.name = fold name)

/-- The members of an object in their order; an unknown name is an error
(`DisallowUnknownFields`). -/
def decodeMembers (fold : String → String) (fields : List (StructField Value)) :
    List (String × Json) → Value → Option Value
  | [], value => some value
  | (name, json) :: rest, value =>
    match findField fold fields name with
    | none => none
    | some known => (known.decode json value).bind (decodeMembers fold fields rest)

def structInto (fold : String → String) (fields : List (StructField Value)) :
    Json → Value → Option Value
  | .object members, value => decodeMembers fold fields members value
  | .null, value => some value
  | _, _ => none

def stringInto : Json → String → Option String
  | .string text, _ => some text
  | .null, value => some value
  | _, _ => none

def int64Into : Json → Int → Option Int
  | .number literal, _ => parseInt literal
  | .null, value => some value
  | _, _ => none

def uint16Into : Json → UInt16 → Option UInt16
  | .number literal, _ =>
    ((parseDigits literal.toList).filter (· < 2 ^ 16)).map UInt16.ofNat
  | .null, value => some value
  | _, _ => none

def timeInto (clock : Rfc3339) : Json → Time → Option Time
  | .string text, _ => (clock.parse text).map Stamp.instant
  | .null, value => some value
  | _, _ => none

def textInto (unmarshalText : String → Option (List Part)) :
    Json → List Part → Option (List Part)
  | .string text, _ => unmarshalText text
  | .null, _ => some []
  | _, _ => none

def sliceInto (zero : Part) (decode : Json → Part → Option Part) :
    Json → List Part → Option (List Part)
  | .array items, _ => items.mapM fun item => decode item zero
  | .null, _ => some []
  | _, _ => none

def pointerInto (zero : Part) (decode : Json → Part → Option Part) :
    Json → Option Part → Option (Option Part)
  | .null, _ => some none
  | json, pointer => (decode json (pointer.getD zero)).map some

theorem sliceInto_map {Item : Type} {zero : Part} {decode : Json → Part → Option Part}
    {items : List Item} {encode : Item → Json} {image : Item → Part} {old : List Part}
    (reads : ∀ item ∈ items, decode (encode item) zero = some (image item)) :
    sliceInto zero decode (.array (items.map encode)) old = some (items.map image) := by
  rw [sliceInto]
  induction items with
  | nil => rfl
  | cons item items ih =>
    obtain ⟨first, rest⟩ := List.forall_mem_cons.mp reads
    rw [List.map_cons, List.mapM_cons, first, ih rest]
    rfl

theorem uint16Into_formatInt (value old : UInt16) :
    uint16Into (.number (formatInt (value.toNat : Int))) old = some value := by
  have bounded : value.toNat < 2 ^ 16 := value.toNat_lt
  have digits : (formatInt (value.toNat : Int)).toList = Nat.toDigits 10 value.toNat :=
    String.toList_ofList
  rw [uint16Into, digits, parseDigits_toDigits, Option.filter_some,
    if_pos (decide_eq_true bounded), Option.map_some, UInt16.ofNat_toNat]

end Structs

/-- Bytes of a character inside a string literal; the characters that HTML
reads are escaped too. -/
def characterSize (character : Char) : Nat :=
  if character ∈ ['"', '\\', '\n', '\r', '\t', '\x08', '\x0c'] then 2
  else if character.toNat < 32 ∨ character ∈ ['<', '>', '&'] ∨
    character.toNat = 8232 ∨ character.toNat = 8233 then 6
  else character.utf8Size

def stringSize (value : String) : Nat := 2 + (value.toList.map characterSize).sum

mutual

def compactSize : Json → Nat
  | .null => 4
  | .bool value => if value then 4 else 5
  | .number literal => literal.utf8ByteSize
  | .string value => stringSize value
  | .array items => 1 + max 1 (itemsSize items)
  | .object members => 1 + max 1 (membersSize members)

def itemsSize : List Json → Nat
  | [] => 0
  | item :: rest => compactSize item + 1 + itemsSize rest

def membersSize : List (String × Json) → Nat
  | [] => 0
  | (name, value) :: rest => stringSize name + 1 + compactSize value + 1 + membersSize rest

end

def decimalClock : Rfc3339 where
  format := fun instant =>
    if -2 ^ 63 ≤ instant ∧ instant ≤ maxInt64 then some (formatInt instant) else none
  parse := fun text => (parseInt text).map fun instant => ⟨instant, 0⟩
  reads := by
    intro instant text written
    split_ifs at written with ranged
    rw [← Option.some.inj written, parseInt_formatInt ranged.1 ranged.2]
    rfl

/-- A codec whose texts are the sequences of values themselves, measured as
compact texts are. -/
def valueCodec : Codec (List Json) where
  size := fun text => (text.map compactSize).sum
  values := some
  marshal := fun value => [value]
  decodes := fun _ => rfl

structure CompactCodec (Text : Type) extends Codec Text where
  compact : ∀ {value : Json}, Encodable value → size (marshal value) = compactSize value

def compactValueCodec : CompactCodec (List Json) where
  toCodec := valueCodec
  compact := fun _ => by simp [valueCodec]

theorem compactSize_le_array {items : List Json} {item : Json} (listed : item ∈ items) :
    compactSize item ≤ compactSize (.array items) := by
  have summed : compactSize item ≤ itemsSize items := by
    induction items with
    | nil => simp at listed
    | cons first rest ih =>
      rw [itemsSize]
      rcases List.mem_cons.mp listed with rfl | later
      · omega
      · have := ih later
        omega
  rw [compactSize]
  omega

theorem compactSize_le_object {member : String × Json} (listed : member ∈ members) :
    compactSize member.2 ≤ compactSize (.object members) := by
  have summed : compactSize member.2 ≤ membersSize members := by
    induction members with
    | nil => simp at listed
    | cons first rest ih =>
      obtain ⟨name, value⟩ := first
      rw [membersSize]
      rcases List.mem_cons.mp listed with rfl | later
      · dsimp only
        omega
      · have := ih later
        omega
  rw [compactSize]
  omega

end Ipv6Mesh.GoJson
