import Mathlib

/-!
# Records in memory

The layout of a record with aligned fields: every field starts at the next
multiple of its alignment and the record ends at a multiple of the largest one.
A buffer is accessed by `load` only, which fails on anything that is not inside.
A field of a record that was written into a buffer is read back as it was
written, and every field of a record that is inside a buffer can be read.
-/

namespace Ipv6Mesh.CLayout

def leBytes : Nat → Nat → List UInt8
  | 0, _ => []
  | width + 1, value => UInt8.ofNat value :: leBytes width (value / 256)

def leValue : List UInt8 → Nat
  | [] => 0
  | byte :: rest => byte.toNat + 256 * leValue rest

@[simp] theorem length_leBytes (width value : Nat) : (leBytes width value).length = width := by
  induction width generalizing value with
  | zero => rfl
  | succ width ih => simp [leBytes, ih]

theorem leValue_leBytes {width value : Nat} (bounded : value < 256 ^ width) :
    leValue (leBytes width value) = value := by
  induction width generalizing value with
  | zero =>
    rw [pow_zero, Nat.lt_one_iff] at bounded
    rw [bounded]
    rfl
  | succ width ih =>
    have rest : value / 256 < 256 ^ width := by
      rw [pow_succ] at bounded
      exact Nat.div_lt_of_lt_mul (by rwa [Nat.mul_comm])
    rw [leBytes, leValue, ih rest, UInt8.toNat_ofNat']
    omega

structure FieldType where
  size : Nat
  align : Nat
  aligned : 0 < align

def uint8 : FieldType := ⟨1, 1, by decide⟩

def uint16 : FieldType := ⟨2, 2, by decide⟩

def uint32 : FieldType := ⟨4, 4, by decide⟩

def uint64 : FieldType := ⟨8, 8, by decide⟩

def byteArray (count : Nat) : FieldType := ⟨count, 1, Nat.one_pos⟩

def roundUp (position align : Nat) : Nat := (position + align - 1) / align * align

theorem le_roundUp {position align : Nat} (aligned : 0 < align) :
    position ≤ roundUp position align := by
  have division := Nat.div_add_mod (position + align - 1) align
  have remainder := Nat.mod_lt (position + align - 1) aligned
  rw [roundUp, Nat.mul_comm]
  omega

def offsetsFrom : Nat → List FieldType → List Nat
  | _, [] => []
  | position, type :: rest =>
    roundUp position type.align :: offsetsFrom (roundUp position type.align + type.size) rest

def endFrom : Nat → List FieldType → Nat
  | position, [] => position
  | position, type :: rest => endFrom (roundUp position type.align + type.size) rest

def alignment (types : List FieldType) : Nat :=
  types.foldr (fun type largest => max type.align largest) 1

def recordSize (types : List FieldType) : Nat := roundUp (endFrom 0 types) (alignment types)

def offsetOf (types : List FieldType) (index : Nat) : Nat := (offsetsFrom 0 types).getD index 0

theorem alignment_pos (types : List FieldType) : 0 < alignment types := by
  induction types with
  | nil => exact Nat.one_pos
  | cons type rest ih => exact lt_max_of_lt_right ih

theorem le_endFrom (position : Nat) (types : List FieldType) :
    position ≤ endFrom position types := by
  induction types generalizing position with
  | nil => exact le_refl _
  | cons type rest ih =>
    have here := @le_roundUp position type.align type.aligned
    have later := ih (roundUp position type.align + type.size)
    rw [endFrom]
    omega

variable {types : List FieldType} {index : Nat}

theorem field_le_endFrom {type : FieldType} (field : types[index]? = some type) (position : Nat) :
    (offsetsFrom position types).getD index 0 + type.size ≤ endFrom position types := by
  induction types generalizing position index with
  | nil => simp at field
  | cons first rest ih =>
    cases index with
    | zero =>
      obtain rfl : first = type := by simpa using field
      exact le_endFrom _ rest
    | succ index => exact ih (by simpa using field) _

theorem field_le_recordSize {type : FieldType} (field : types[index]? = some type) :
    offsetOf types index + type.size ≤ recordSize types :=
  (field_le_endFrom field 0).trans (le_roundUp (alignment_pos types))

def load (buffer : List UInt8) (offset size : Nat) : Option (List UInt8) :=
  if offset + size ≤ buffer.length then some ((buffer.drop offset).take size) else none

theorem load_of_le {buffer : List UInt8} {offset size : Nat}
    (inside : offset + size ≤ buffer.length) :
    load buffer offset size = some ((buffer.drop offset).take size) := if_pos inside

variable {value : List UInt8}

theorem length_of_load {buffer : List UInt8} {offset size : Nat}
    (loaded : load buffer offset size = some value) : value.length = size := by
  unfold load at loaded
  split_ifs at loaded with inside
  obtain rfl := Option.some.inj loaded
  rw [List.length_take, List.length_drop]
  omega

theorem load_append (before value after : List UInt8) :
    load (before ++ (value ++ after)) before.length value.length = some value := by
  rw [load_of_le (by simp [← Nat.add_assoc]), List.drop_left, List.take_left]

def encodeFrom : Nat → List FieldType → List (List UInt8) → List UInt8
  | position, type :: types, value :: values =>
    List.replicate (roundUp position type.align - position) 0 ++
      (value ++ encodeFrom (roundUp position type.align + type.size) types values)
  | _, _, _ => []

def encode (types : List FieldType) (values : List (List UInt8)) : List UInt8 :=
  encodeFrom 0 types values ++ List.replicate (recordSize types - endFrom 0 types) 0

abbrev Fits (types : List FieldType) (values : List (List UInt8)) : Prop :=
  List.Forall₂ (fun type value => value.length = type.size) types values

variable {values : List (List UInt8)}

theorem Fits.field (fits : Fits types values) (field : values[index]? = some value) :
    ∃ type, types[index]? = some type ∧ value.length = type.size := by
  induction fits generalizing index with
  | nil => simp at field
  | @cons type first _ _ sized _ ih =>
    cases index with
    | zero =>
      obtain rfl : first = value := by simpa using field
      exact ⟨type, rfl, sized⟩
    | succ index => exact ih (by simpa using field)

theorem length_encodeFrom (fits : Fits types values) (position : Nat) :
    position + (encodeFrom position types values).length = endFrom position types := by
  induction fits generalizing position with
  | nil => rfl
  | @cons type value types values sized _ ih =>
    have start := @le_roundUp position type.align type.aligned
    have rest := ih (roundUp position type.align + type.size)
    rw [encodeFrom, endFrom, List.length_append, List.length_append, List.length_replicate, sized]
    omega

theorem length_encode (fits : Fits types values) :
    (encode types values).length = recordSize types := by
  have body := length_encodeFrom fits 0
  have ends : endFrom 0 types ≤ recordSize types := le_roundUp (alignment_pos types)
  rw [encode, List.length_append, List.length_replicate]
  omega

theorem encodeFrom_split (fits : Fits types values) (field : values[index]? = some value)
    (position : Nat) :
    ∃ before after, encodeFrom position types values = before ++ (value ++ after) ∧
      position + before.length = (offsetsFrom position types).getD index 0 := by
  induction fits generalizing position index with
  | nil => simp at field
  | @cons type first types values sized _ ih =>
    have start := @le_roundUp position type.align type.aligned
    cases index with
    | zero =>
      obtain rfl : first = value := by simpa using field
      refine ⟨_, _, rfl, ?_⟩
      rw [List.length_replicate]
      exact Nat.add_sub_of_le start
    | succ index =>
      obtain ⟨before, after, split, located⟩ :=
        ih (by simpa using field) (roundUp position type.align + type.size)
      refine ⟨List.replicate (roundUp position type.align - position) 0 ++ (first ++ before),
        after, ?_, ?_⟩
      · rw [encodeFrom, split]
        simp
      · rw [offsetsFrom, List.getD_cons_succ, ← located, List.length_append,
          List.length_append, List.length_replicate, sized]
        omega

theorem load_encode (fits : Fits types values) (field : values[index]? = some value)
    (front rest : List UInt8) :
    load (front ++ (encode types values ++ rest)) (front.length + offsetOf types index)
      value.length = some value := by
  obtain ⟨before, after, split, located⟩ := encodeFrom_split fits field 0
  rw [Nat.zero_add] at located
  have shape : front ++ (encode types values ++ rest) =
      (front ++ before) ++ (value ++
        (after ++ (List.replicate (recordSize types - endFrom 0 types) 0 ++ rest))) := by
    rw [encode, split]
    simp
  rw [shape, offsetOf, ← located, ← List.length_append]
  exact load_append _ _ _

end Ipv6Mesh.CLayout
