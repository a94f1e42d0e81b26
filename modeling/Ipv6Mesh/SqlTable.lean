import Mathlib

/-!
# SQL tables as lists of rows, and their content as sets

A statement acts on a list of rows; what a table says is the set of its rows.
`content` of a keyed collection is the set of rows its values stand for, and
each kind of change to the collection has one lemma that says how the content
changes. Row types, keys and values are arbitrary.
-/

namespace Ipv6Mesh.SqlTable

section Statements

variable {Row : Type}

def updateWhere (wanted : Row → Bool) (assign : Row → Row) (table : List Row) : List Row :=
  table.map fun row => if wanted row then assign row else row

def deleteWhere (wanted : Row → Bool) (table : List Row) : List Row :=
  table.filter fun row => !wanted row

inductive Violation where
  | check
  | unique
  | foreignKey
  | outOfRange
  | invalidText
deriving DecidableEq

/-- `INSERT … ON CONFLICT DO NOTHING`: the row is checked, then skipped when it
conflicts (no table is returned), and a row that goes in must find the rows it
references. -/
def insertOrIgnore (checked : Bool) (conflicts : Row → Bool) (referenced : Bool) (row : Row)
    (table : List Row) : Except Violation (Option (List Row)) :=
  if !checked then .error .check
  else if table.any conflicts then .ok none
  else if !referenced then .error .foreignKey
  else .ok (some (table ++ [row]))

/-- `UPDATE table SET assign WHERE wanted` on a table whose rows must be `accepted`. -/
def updateChecked (accepted wanted : Row → Bool) (assign : Row → Row) (table : List Row) :
    Except Violation (List Row) :=
  if table.any fun row => wanted row && !accepted (assign row) then .error .check
  else .ok (updateWhere wanted assign table)

def updated (wanted : Row → Prop) (assign : Row → Row) (rows : Set Row) : Set Row :=
  {row | ∃ old ∈ rows, (wanted old ∧ row = assign old) ∨ (¬wanted old ∧ row = old)}

def without (wanted : Row → Prop) (rows : Set Row) : Set Row := {row ∈ rows | ¬wanted row}

def rowsOf (table : List Row) : Set Row := {row | row ∈ table}

variable {table : List Row} {row : Row}

@[simp] theorem mem_rowsOf : row ∈ rowsOf table ↔ row ∈ table :=
  Iff.rfl

@[simp] theorem rowsOf_nil : rowsOf ([] : List Row) = ∅ := by
  ext row
  simp

variable {rows : Set Row}

@[simp] theorem mem_without {wanted : Row → Prop} :
    row ∈ without wanted rows ↔ row ∈ rows ∧ ¬wanted row := Iff.rfl

variable {assign : Row → Row}

theorem mem_updated {wanted : Row → Prop} :
    row ∈ updated wanted assign rows ↔
      ∃ old ∈ rows, (wanted old ∧ row = assign old) ∨ (¬wanted old ∧ row = old) := Iff.rfl

theorem without_without (first second : Row → Prop) (rows : Set Row) :
    without second (without first rows) = without (fun row => first row ∨ second row) rows := by
  ext row
  simp only [mem_without, not_or, and_assoc]

theorem without_congr {first second : Row → Prop} (same : ∀ row ∈ rows, (first row ↔ second row)) :
    without first rows = without second rows := by
  ext row
  simp only [mem_without]
  exact and_congr_right fun member => not_congr (same row member)

theorem updated_congr {first second : Row → Prop} (same : ∀ row ∈ rows, (first row ↔ second row)) :
    updated first assign rows = updated second assign rows := by
  ext row
  simp only [mem_updated]
  refine exists_congr fun old => and_congr_right fun member => ?_
  rw [same old member]

theorem updated_of_none {wanted : Row → Prop} (none : ∀ row ∈ rows, ¬wanted row) :
    updated wanted assign rows = rows := by
  ext row
  rw [mem_updated]
  constructor
  · rintro ⟨old, member, ⟨selected, -⟩ | ⟨-, rfl⟩⟩
    · exact absurd selected (none old member)
    · exact member
  · intro member
    exact ⟨row, member, Or.inr ⟨none row member, rfl⟩⟩

theorem map_updateWhere {Key : Type} {key : Row → Key} {wanted : Row → Bool}
    (kept : ∀ row, key (assign row) = key row) (table : List Row) :
    (updateWhere wanted assign table).map key = table.map key := by
  rw [updateWhere, List.map_map]
  apply List.map_congr_left
  intro row _
  simp only [Function.comp_apply]
  split_ifs
  · exact kept row
  · rfl

theorem rowsOf_updateWhere (wanted : Row → Bool) (assign : Row → Row) (table : List Row) :
    rowsOf (updateWhere wanted assign table) =
      updated (fun row => wanted row = true) assign (rowsOf table) := by
  ext row
  simp only [mem_rowsOf, updateWhere, List.mem_map, mem_updated]
  refine exists_congr fun old => and_congr_right fun _ => ?_
  by_cases selected : wanted old = true
  · simp [selected, eq_comm]
  · simp [selected, eq_comm]

theorem rowsOf_deleteWhere (wanted : Row → Bool) (table : List Row) :
    rowsOf (deleteWhere wanted table) = without (fun row => wanted row = true) (rowsOf table) := by
  ext row
  simp [deleteWhere]

theorem rowsOf_append (table : List Row) (row : Row) :
    rowsOf (table ++ [row]) = insert row (rowsOf table) := by
  ext other
  simp [or_comm]

theorem insertOrIgnore_some {checked referenced : Bool} {conflicts : Row → Bool}
    {after : List Row} :
    insertOrIgnore checked conflicts referenced row table = .ok (some after) ↔
      checked = true ∧ (∀ other ∈ table, conflicts other = false) ∧ referenced = true ∧
        after = table ++ [row] := by
  have free : (∀ other ∈ table, conflicts other = false) ↔ table.any conflicts = false := by
    simp only [List.any_eq_false, Bool.not_eq_true]
  rw [free, insertOrIgnore]
  cases checked <;> cases table.any conflicts <;> cases referenced <;> simp [eq_comm]

theorem insertOrIgnore_none {checked referenced : Bool} {conflicts : Row → Bool} :
    insertOrIgnore checked conflicts referenced row table = .ok none ↔
      checked = true ∧ ∃ other ∈ table, conflicts other = true := by
  rw [← List.any_eq_true, insertOrIgnore]
  cases checked <;> cases table.any conflicts <;> cases referenced <;> simp

theorem find?_eq_some_of_unique {wanted : Row → Bool}
    (unique : ∀ left ∈ table, ∀ right ∈ table, wanted left = true → wanted right = true →
      left = right) :
    table.find? wanted = some row ↔ row ∈ table ∧ wanted row = true := by
  constructor
  · intro found
    exact ⟨List.mem_of_find?_eq_some found, List.find?_some found⟩
  · intro selected
    cases found : table.find? wanted with
    | none => exact absurd selected.2 (List.find?_eq_none.mp found row selected.1)
    | some other =>
      rw [unique other (List.mem_of_find?_eq_some found) row selected.1
        (List.find?_some found) selected.2]

theorem find?_eq_some_of_columns {Key : Type} {columns : Row → Key} {key : Key}
    {wanted : Row → Bool}
    (unique : ∀ left ∈ table, ∀ right ∈ table, columns left = columns right → left = right)
    (selects : ∀ row, wanted row = true ↔ columns row = key) :
    table.find? wanted = some row ↔ row ∈ table ∧ columns row = key := by
  rw [← selects row]
  refine find?_eq_some_of_unique fun left leftMember right rightMember leftWanted rightWanted => ?_
  rw [selects] at leftWanted rightWanted
  exact unique left leftMember right rightMember (leftWanted.trans rightWanted.symm)

theorem countP_eq_one_iff {Key : Type} {column : Row → Key} {key : Key} {wanted : Row → Bool}
    (distinct : (table.map column).Nodup) (only : ∀ row, wanted row = true → column row = key) :
    table.countP wanted = 1 ↔ ∃ row ∈ table, wanted row = true := by
  have once : ((table.filter wanted).map column).Nodup :=
    distinct.sublist (List.filter_sublist.map column)
  have same : (table.filter wanted).map column = List.replicate (table.countP wanted) key := by
    rw [List.eq_replicate_iff, List.length_map, List.countP_eq_length_filter]
    refine ⟨rfl, fun value member => ?_⟩
    obtain ⟨row, listed, rfl⟩ := List.mem_map.mp member
    exact only row (List.mem_filter.mp listed).2
  rw [same, List.nodup_replicate] at once
  rw [← List.countP_pos_iff]
  omega

theorem updateWhere_of_none {wanted : Row → Bool} (none : ∀ row ∈ table, wanted row = false) :
    updateWhere wanted assign table = table := by
  rw [updateWhere]
  conv_rhs => rw [← List.map_id table]
  refine List.map_congr_left fun row member => ?_
  simp [none row member]

theorem updateChecked_ok {accepted wanted : Row → Bool} {after : List Row} :
    updateChecked accepted wanted assign table = .ok after ↔
      (∀ row ∈ table, wanted row = true → accepted (assign row) = true) ∧
        after = updateWhere wanted assign table := by
  have valid : (∀ row ∈ table, wanted row = true → accepted (assign row) = true) ↔
      (table.any fun row => wanted row && !accepted (assign row)) = false := by
    simp
  rw [valid, updateChecked]
  cases table.any fun row => wanted row && !accepted (assign row) <;> simp [eq_comm]

end Statements

section Content

variable {Key Value Row : Type}

def content (lookup : Key → Option Value) (rowOf : Value → Row) : Set Row :=
  {row | ∃ key value, lookup key = some value ∧ rowOf value = row}

variable {lookup next : Key → Option Value} {rowOf : Value → Row}

theorem mem_content {row : Row} :
    row ∈ content lookup rowOf ↔ ∃ key value, lookup key = some value ∧ rowOf value = row :=
  Iff.rfl

theorem content_congr (same : ∀ key, next key = lookup key) :
    content next rowOf = content lookup rowOf := by
  ext row
  simp only [mem_content, same]

theorem content_insert {key : Key} {value : Value} [DecidableEq Key]
    (stored : ∀ other, next other = if key = other then some value else lookup other)
    (free : lookup key = none) :
    content next rowOf = insert (rowOf value) (content lookup rowOf) := by
  ext row
  rw [Set.mem_insert_iff]
  constructor
  · rintro ⟨other, held, found, rfl⟩
    rw [stored] at found
    split_ifs at found
    · exact Or.inl (congrArg rowOf (Option.some.inj found).symm)
    · exact Or.inr ⟨other, held, found, rfl⟩
  · intro either
    rcases either with rfl | ⟨other, held, found, rfl⟩
    · exact ⟨key, value, by rw [stored, if_pos rfl], rfl⟩
    · have different : key ≠ other := by
        intro same
        rw [← same, free] at found
        cases found
      exact ⟨other, held, by rw [stored, if_neg different, found], rfl⟩

theorem content_update (wanted : Row → Prop) (assign : Row → Row) {rewrite : Key → Value → Value}
    (rewritten : ∀ key, next key = (lookup key).map (rewrite key))
    (commutes : ∀ key value, lookup key = some value →
      (wanted (rowOf value) ∧ rowOf (rewrite key value) = assign (rowOf value)) ∨
        (¬wanted (rowOf value) ∧ rowOf (rewrite key value) = rowOf value)) :
    content next rowOf = updated wanted assign (content lookup rowOf) := by
  ext row
  rw [mem_updated, mem_content]
  constructor
  · rintro ⟨key, value, found, rfl⟩
    rw [rewritten, Option.map_eq_some_iff] at found
    obtain ⟨old, stored, rfl⟩ := found
    exact ⟨rowOf old, ⟨key, old, stored, rfl⟩, commutes key old stored⟩
  · rintro ⟨_, ⟨key, old, stored, rfl⟩, change⟩
    have found : next key = some (rewrite key old) := by
      rw [rewritten, stored]
      rfl
    refine ⟨key, rewrite key old, found, ?_⟩
    rcases commutes key old stored with ⟨selected, written⟩ | ⟨unwanted, written⟩
    · rcases change with ⟨-, rfl⟩ | ⟨refused, -⟩
      · exact written
      · exact absurd selected refused
    · rcases change with ⟨accepted, -⟩ | ⟨-, rfl⟩
      · exact absurd accepted unwanted
      · exact written

theorem content_delete (wanted : Row → Prop)
    (kept : ∀ key value, next key = some value ↔ lookup key = some value ∧ ¬wanted (rowOf value)) :
    content next rowOf = without wanted (content lookup rowOf) := by
  ext row
  rw [mem_without, mem_content, mem_content]
  constructor
  · rintro ⟨key, value, found, rfl⟩
    obtain ⟨stored, unwanted⟩ := (kept key value).mp found
    exact ⟨⟨key, value, stored, rfl⟩, unwanted⟩
  · rintro ⟨⟨key, value, stored, rfl⟩, unwanted⟩
    exact ⟨key, value, (kept key value).mpr ⟨stored, unwanted⟩, rfl⟩

def Named (lookup : Key → Option Value) (rowOf : Value → Row) (columns : Row → Key) : Prop :=
  ∀ key value, lookup key = some value → columns (rowOf value) = key

section Named

variable {columns : Row → Key} (named : Named lookup rowOf columns)
include named

theorem Named.mem {row : Row} :
    row ∈ content lookup rowOf ↔
      ∃ value, lookup (columns row) = some value ∧ rowOf value = row := by
  constructor
  · rintro ⟨key, value, found, rfl⟩
    exact ⟨value, by rw [named key value found, found], rfl⟩
  · rintro ⟨value, found, same⟩
    exact ⟨_, value, found, same⟩

theorem Named.exists_iff (key : Key) (extra : Row → Prop) :
    (∃ row ∈ content lookup rowOf, columns row = key ∧ extra row) ↔
      ∃ value, lookup key = some value ∧ extra (rowOf value) := by
  constructor
  · rintro ⟨row, member, rfl, holds⟩
    obtain ⟨value, found, rfl⟩ := named.mem.mp member
    exact ⟨value, found, holds⟩
  · rintro ⟨value, found, holds⟩
    exact ⟨rowOf value, ⟨key, value, found, rfl⟩, named key value found, holds⟩

theorem Named.unique : ∀ left ∈ content lookup rowOf, ∀ right ∈ content lookup rowOf,
    columns left = columns right → left = right := by
  intro left leftMember right rightMember same
  obtain ⟨leftValue, leftFound, rfl⟩ := named.mem.mp leftMember
  obtain ⟨rightValue, rightFound, rfl⟩ := named.mem.mp rightMember
  rw [same] at leftFound
  rw [Option.some.inj (leftFound.symm.trans rightFound)]

theorem Named.drop (wanted : Row → Prop) {dropped : Key → Prop} [DecidablePred dropped]
    (kept : ∀ key, next key = if dropped key then none else lookup key)
    (selects : ∀ row, wanted row ↔ dropped (columns row)) :
    content next rowOf = without wanted (content lookup rowOf) := by
  refine content_delete wanted fun key value => ?_
  rw [kept, selects]
  split_ifs with gone
  · refine iff_of_false nofun fun both => both.2 ?_
    rwa [named key value both.1]
  · refine (and_iff_left_of_imp fun found => ?_).symm
    rwa [named key value found]

theorem Named.put (wanted : Row → Prop) {key : Key} {value : Value} [DecidableEq Key]
    (stored : ∀ other, next other = if key = other then some value else lookup other)
    (selects : ∀ row, wanted row ↔ key = columns row) :
    content next rowOf = insert (rowOf value) (without wanted (content lookup rowOf)) := by
  rw [← named.drop wanted (fun _ => rfl) selects]
  refine content_insert (fun other => ?_) (if_pos rfl)
  rw [stored]
  split_ifs <;> rfl

theorem Named.replace (wanted : Row → Prop) {assign : Row → Row} {key : Key} {value old : Value}
    [DecidableEq Key]
    (stored : ∀ other, next other = if key = other then some value else lookup other)
    (present : lookup key = some old) (rewritten : rowOf value = assign (rowOf old))
    (selects : ∀ row ∈ content lookup rowOf, (wanted row ↔ columns row = key)) :
    content next rowOf = updated wanted assign (content lookup rowOf) := by
  have mapped : ∀ other,
      next other = (lookup other).map fun held => if key = other then value else held := by
    intro other
    rw [stored]
    split_ifs with same
    · rw [← same, present]
      rfl
    · exact Option.map_id'.symm
  refine content_update wanted assign mapped fun other held found => ?_
  rw [selects (rowOf held) ⟨other, held, found, rfl⟩, named other held found]
  by_cases same : key = other
  · subst same
    obtain rfl := Option.some.inj (present.symm.trans found)
    exact Or.inl ⟨rfl, by rw [if_pos rfl, rewritten]⟩
  · exact Or.inr ⟨Ne.symm same, by rw [if_neg same]⟩

end Named

end Content

end Ipv6Mesh.SqlTable
