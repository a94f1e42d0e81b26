import Mathlib

/-!
# Go maps as extensional tree maps

A Go map is modelled by `Std.ExtTreeMap`: two maps are equal exactly when they
hold the same bindings, and the iteration order a Go program cannot rely on is
not observable. `lookup₂` reads a map of maps, the shape in which the program
keys records by a pair. All statements are over arbitrary ordered keys.
-/

namespace Ipv6Mesh.GoMap

open Std

variable {J K L V : Type} [Ord J] [TransOrd J] [Ord K] [TransOrd K] [Ord L] [TransOrd L]

section Bindings

variable {map : ExtTreeMap K V} {key other : K} {value stored : V}

theorem getD_of_stored {fallback : V} (present : map[key]? = some stored) :
    map.getD key fallback = stored := by
  rw [ExtTreeMap.getD_eq_getD_getElem?, present, Option.getD_some]

theorem ne_of_fresh (fresh : map[key]? = none) (present : map[other]? = some stored) :
    key ≠ other := by
  rintro rfl
  rw [fresh] at present
  cases present

end Bindings

def eraseAll (map : ExtTreeMap K V) (keys : List K) : ExtTreeMap K V :=
  keys.foldl (fun current key => current.erase key) map

@[simp] theorem eraseAll_nil (map : ExtTreeMap K V) : eraseAll map [] = map := rfl

def lookup₂ (map : ExtTreeMap K (ExtTreeMap L V)) (outer : K) (inner : L) : Option V :=
  map[outer]?.bind fun entries => entries[inner]?

def insert₂ (map : ExtTreeMap K (ExtTreeMap L V)) (outer : K) (inner : L) (value : V) :
    ExtTreeMap K (ExtTreeMap L V) :=
  map.insert outer ((map.getD outer ∅).insert inner value)

@[simp] theorem lookup₂_empty (outer : K) (inner : L) :
    lookup₂ (∅ : ExtTreeMap K (ExtTreeMap L V)) outer inner = none := by
  simp [lookup₂]

theorem lookup₂_eq_some {map : ExtTreeMap K (ExtTreeMap L V)} {outer : K} {inner : L} {value : V} :
    lookup₂ map outer inner = some value ↔
      ∃ entries, map[outer]? = some entries ∧ entries[inner]? = some value := by
  simp [lookup₂, Option.bind_eq_some_iff]

theorem getD_getElem? (map : ExtTreeMap K (ExtTreeMap L V)) (outer : K) (inner : L) :
    (map.getD outer ∅)[inner]? = lookup₂ map outer inner := by
  rw [ExtTreeMap.getD_eq_getD_getElem?]
  unfold lookup₂
  cases map[outer]? <;> simp

variable [LawfulEqOrd K]

theorem exists_of_nonempty {map : ExtTreeMap K V} (nonempty : map.isEmpty = false) :
    ∃ (key : K) (value : V), map[key]? = some value := by
  by_contra absent
  have empty : map = ∅ := by
    refine ExtTreeMap.ext_getElem? fun key => ?_
    rw [ExtTreeMap.getElem?_empty, Option.eq_none_iff_forall_ne_some]
    exact fun value stored => absent ⟨key, value, stored⟩
  rw [ExtTreeMap.isEmpty_iff.mpr empty] at nonempty
  cases nonempty

theorem lookup₂_filter_nonempty (map : ExtTreeMap K (ExtTreeMap L V)) (outer : K) (inner : L) :
    lookup₂ (map.filter fun _ entries => !entries.isEmpty) outer inner =
      lookup₂ map outer inner := by
  unfold lookup₂
  rw [ExtTreeMap.getElem?_filter']
  cases stored : map[outer]? with
  | none => simp
  | some entries =>
    by_cases empty : entries.isEmpty
    · rw [ExtTreeMap.isEmpty_iff.mp empty]
      simp
    · simp [Option.filter, empty]

variable [DecidableEq K]

theorem getElem?_insert (map : ExtTreeMap K V) (key other : K) (value : V) :
    (map.insert key value)[other]? = if key = other then some value else map[other]? := by
  simp [ExtTreeMap.getElem?_insert]

theorem getElem?_erase (map : ExtTreeMap K V) (key other : K) :
    (map.erase key)[other]? = if key = other then none else map[other]? := by
  simp [ExtTreeMap.getElem?_erase]

theorem insert_stored {map : ExtTreeMap K V} {key : K} {value : V}
    (stored : map[key]? = some value) : map.insert key value = map := by
  refine ExtTreeMap.ext_getElem? fun other => ?_
  rw [getElem?_insert]
  split_ifs with same
  · rw [← same, stored]
  · rfl

section Bindings

variable {map : ExtTreeMap K V} {key other : K} {value stored : V}

theorem getElem?_insert_ne (different : key ≠ other) :
    (map.insert key value)[other]? = map[other]? := by
  rw [getElem?_insert, if_neg different]

theorem getElem?_erase_ne (different : key ≠ other) : (map.erase key)[other]? = map[other]? := by
  rw [getElem?_erase, if_neg different]

theorem getElem?_erase_eq_some :
    (map.erase key)[other]? = some stored ↔ key ≠ other ∧ map[other]? = some stored := by
  rw [getElem?_erase]
  by_cases same : key = other <;> simp [same]

theorem forall_insert {holds : K → V → Prop} (new : holds key value)
    (old : ∀ (other : K) (stored : V), map[other]? = some stored → holds other stored)
    (other : K) (stored : V) (lookup : (map.insert key value)[other]? = some stored) :
    holds other stored := by
  rw [getElem?_insert] at lookup
  split_ifs at lookup with same
  · cases same
    cases lookup
    exact new
  · exact old other stored lookup

end Bindings

theorem getElem?_eraseAll (map : ExtTreeMap K V) (keys : List K) (other : K) :
    (eraseAll map keys)[other]? = if other ∈ keys then none else map[other]? := by
  induction keys generalizing map with
  | nil => simp
  | cons key keys ih =>
    change (eraseAll (map.erase key) keys)[other]? = _
    rw [ih, getElem?_erase]
    by_cases same : key = other
    · simp [same]
    · by_cases later : other ∈ keys
      · simp [later]
      · simp [later, same, Ne.symm same]

theorem lookup₂_insert (map : ExtTreeMap K (ExtTreeMap L V)) (key outer : K) (inner : L)
    (entries : ExtTreeMap L V) :
    lookup₂ (map.insert key entries) outer inner =
      if key = outer then entries[inner]? else lookup₂ map outer inner := by
  unfold lookup₂
  rw [getElem?_insert]
  by_cases same : key = outer <;> simp [same]

theorem lookup₂_erase (map : ExtTreeMap K (ExtTreeMap L V)) (key outer : K) (inner : L) :
    lookup₂ (map.erase key) outer inner =
      if key = outer then none else lookup₂ map outer inner := by
  unfold lookup₂
  rw [getElem?_erase]
  by_cases same : key = outer <;> simp [same]

variable [LawfulEqOrd L] [DecidableEq L]

theorem lookup₂_insert₂ (map : ExtTreeMap K (ExtTreeMap L V)) (key outer : K) (subkey inner : L)
    (value : V) :
    lookup₂ (insert₂ map key subkey value) outer inner =
      if key = outer ∧ subkey = inner then some value else lookup₂ map outer inner := by
  rw [insert₂, lookup₂_insert, getElem?_insert, getD_getElem?]
  by_cases first : key = outer
  · subst first
    by_cases second : subkey = inner <;> simp [second]
  · simp [first]

theorem forall_insert₂ {map : ExtTreeMap K (ExtTreeMap L V)} {key : K} {subkey : L} {value : V}
    {holds : K → L → V → Prop} (new : holds key subkey value)
    (old : ∀ outer inner stored, lookup₂ map outer inner = some stored → holds outer inner stored)
    (outer : K) (inner : L) (stored : V)
    (lookup : lookup₂ (insert₂ map key subkey value) outer inner = some stored) :
    holds outer inner stored := by
  rw [lookup₂_insert₂] at lookup
  split_ifs at lookup with same
  · obtain ⟨rfl, rfl⟩ := same
    cases lookup
    exact new
  · exact old outer inner stored lookup

theorem lookup₂_insert₂_pair (map : ExtTreeMap K (ExtTreeMap L V)) (key : K) (subkey : L)
    (value : V) (pair : K × L) :
    lookup₂ (insert₂ map key subkey value) pair.1 pair.2 =
      if (key, subkey) = pair then some value else lookup₂ map pair.1 pair.2 := by
  obtain ⟨outer, inner⟩ := pair
  rw [lookup₂_insert₂]
  simp only [Prod.mk.injEq]

omit [DecidableEq K] in
theorem lookup₂_map_erase (map : ExtTreeMap K (ExtTreeMap L V)) (subkey inner : L) (outer : K) :
    lookup₂ (map.map fun _ (entries : ExtTreeMap L V) => entries.erase subkey) outer inner =
      if subkey = inner then none else lookup₂ map outer inner := by
  unfold lookup₂
  rw [ExtTreeMap.getElem?_map]
  cases map[outer]? with
  | none => simp
  | some entries => simp [getElem?_erase]

omit [DecidableEq K] [DecidableEq L] in
theorem lookup₂_map_filter (map : ExtTreeMap K (ExtTreeMap L V)) (keep : L → V → Bool) (outer : K)
    (inner : L) :
    lookup₂ (map.map fun _ (entries : ExtTreeMap L V) => entries.filter keep) outer inner =
      (lookup₂ map outer inner).filter (keep inner) := by
  unfold lookup₂
  rw [ExtTreeMap.getElem?_map]
  cases map[outer]? with
  | none => simp
  | some entries => simp

section Index

omit [LawfulEqOrd K] [DecidableEq K]

/-- `index` is the inverse of the field `key` over `records`: it maps a
value of that field to the one record that has it. -/
def Indexed (index : ExtTreeMap J K) (records : ExtTreeMap K V) (key : V → J) : Prop :=
  ∀ (field : J) (identifier : K), index[field]? = some identifier ↔
    ∃ record, records[identifier]? = some record ∧ key record = field

variable {index : ExtTreeMap J K} {records : ExtTreeMap K V} {key : V → J}

theorem Indexed.empty : Indexed (∅ : ExtTreeMap J K) (∅ : ExtTreeMap K V) key := by
  intro field identifier
  simp

theorem Indexed.congr (indexed : Indexed index records key) {rewritten : ExtTreeMap K V}
    (sameKeys : ∀ identifier : K,
      rewritten[identifier]?.map key = records[identifier]?.map key) :
    Indexed index rewritten key := by
  intro field identifier
  have keys : (∃ record, rewritten[identifier]? = some record ∧ key record = field) ↔
      ∃ record, records[identifier]? = some record ∧ key record = field := by
    rw [← Option.map_eq_some_iff, ← Option.map_eq_some_iff, sameKeys]
  exact (indexed field identifier).trans keys.symm

variable [LawfulEqOrd K]

theorem Indexed.map (indexed : Indexed index records key) (rewrite : V → V)
    (sameKey : ∀ record, key (rewrite record) = key record) :
    Indexed index (records.map fun _ record => rewrite record) key := by
  refine indexed.congr fun other => ?_
  rw [ExtTreeMap.getElem?_map]
  cases records[other]? <;> simp [sameKey]

variable [DecidableEq K]

theorem Indexed.replace (indexed : Indexed index records key) {identifier : K}
    {record replacement : V} (stored : records[identifier]? = some record)
    (sameKey : key replacement = key record) :
    Indexed index (records.insert identifier replacement) key := by
  refine indexed.congr fun other => ?_
  rw [getElem?_insert]
  by_cases same : identifier = other
  · subst same
    simp [stored, sameKey]
  · simp [same]

variable [LawfulEqOrd J] [DecidableEq J]

theorem Indexed.insert (indexed : Indexed index records key) {identifier : K} {record : V}
    (freshRecord : records[identifier]? = none) (freshKey : index[key record]? = none) :
    Indexed (index.insert (key record) identifier) (records.insert identifier record) key := by
  intro field other
  rw [getElem?_insert, getElem?_insert]
  by_cases sameRecord : identifier = other
  · subst sameRecord
    have unindexed : index[field]? ≠ some identifier := by
      intro stored
      obtain ⟨present, lookup, -⟩ := (indexed field identifier).mp stored
      rw [freshRecord] at lookup
      cases lookup
    simp [unindexed]
  · by_cases sameKey : key record = field
    · subst sameKey
      have absent := (indexed (key record) other).not.mp (by simp [freshKey])
      simpa [sameRecord] using absent
    · simpa [sameRecord, sameKey] using indexed field other

theorem Indexed.erase (indexed : Indexed index records key) {identifier : K} {record : V}
    (stored : records[identifier]? = some record) :
    Indexed (index.erase (key record)) (records.erase identifier) key := by
  intro field other
  rw [getElem?_erase, getElem?_erase]
  have owner : index[key record]? = some identifier :=
    (indexed (key record) identifier).mpr ⟨record, stored, rfl⟩
  by_cases sameRecord : identifier = other
  · subst sameRecord
    by_cases sameKey : key record = field
    · simp [sameKey]
    · have foreign : index[field]? ≠ some identifier := by
        intro lookup
        obtain ⟨present, storedPresent, presentKey⟩ := (indexed field identifier).mp lookup
        rw [stored] at storedPresent
        exact sameKey (Option.some.inj storedPresent ▸ presentKey)
      simp [sameKey, foreign]
  · by_cases sameKey : key record = field
    · subst sameKey
      have absent := (indexed (key record) other).not.mp (by simp [owner, sameRecord])
      simpa [sameRecord] using absent
    · simpa [sameRecord, sameKey] using indexed field other

end Index

end Ipv6Mesh.GoMap
