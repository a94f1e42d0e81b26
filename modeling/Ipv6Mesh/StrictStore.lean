import Mathlib

/-!
# Strict resource stores

A store is a finite set of resources. Adding what is present and deleting what
is absent are errors, the environment may refuse any call, and a call that
fails has no effect. Each loop of calls has one lemma that says which resources
it has handled when it ends; a loop that deletes whatever it can, refused by
nobody, undoes a loop of additions.
-/

namespace Ipv6Mesh.StrictStore

variable {Item Resource Failure : Type} [DecidableEq Resource]

inductive Refusal (Failure : Type) where
  | alreadyPresent
  | notPresent
  | refused (failure : Failure)
deriving DecidableEq

def add (refusal : Option Failure) (resource : Resource) (store : Finset Resource) :
    Option (Refusal Failure) × Finset Resource :=
  match refusal with
  | some failure => (some (.refused failure), store)
  | none =>
    if resource ∈ store then (some .alreadyPresent, store) else (none, insert resource store)

def delete (refusal : Option Failure) (resource : Resource) (store : Finset Resource) :
    Option (Refusal Failure) × Finset Resource :=
  match refusal with
  | some failure => (some (.refused failure), store)
  | none =>
    if resource ∈ store then (none, store.erase resource) else (some .notPresent, store)

/-- Adds the resources of items one by one and stops at the first failure. The
result has that failure, the items handled before it, and the store. -/
def addEach (refusal : Resource → Option Failure) (resource : Item → Resource) :
    List Item → Finset Resource →
      Option (Item × Refusal Failure) × List Item × Finset Resource
  | [], store => (none, [], store)
  | item :: rest, store =>
    match add (refusal (resource item)) (resource item) store with
    | (some failed, store) => (some (item, failed), [], store)
    | (none, store) =>
      let (stopped, added, store) := addEach refusal resource rest store
      (stopped, item :: added, store)

def deleteEach (refusal : Resource → Option Failure) (resource : Item → Resource) :
    List Item → Finset Resource → Option (Item × Refusal Failure) × Finset Resource
  | [], store => (none, store)
  | item :: rest, store =>
    match delete (refusal (resource item)) (resource item) store with
    | (some failed, store) => (some (item, failed), store)
    | (none, store) => deleteEach refusal resource rest store

def deleteAll (refusal : Resource → Option Failure) (resource : Item → Resource) :
    List Item → Finset Resource → List (Refusal Failure) × Finset Resource
  | [], store => ([], store)
  | item :: rest, store =>
    let (failed, store) := delete (refusal (resource item)) (resource item) store
    let (failures, store) := deleteAll refusal resource rest store
    (failed.toList ++ failures, store)

section Calls

variable {refusal : Option Failure} {resource : Resource} {store : Finset Resource}

theorem add_of_free (allowed : refusal = none) (free : resource ∉ store) :
    add refusal resource store = (none, insert resource store) := by
  rw [allowed, add, if_neg free]

theorem add_failed (blocked : ¬(refusal = none ∧ resource ∉ store)) :
    ∃ failed, add refusal resource store = (some failed, store) := by
  cases refusal with
  | some failure => exact ⟨_, rfl⟩
  | none =>
    have present : resource ∈ store := by simpa using blocked
    exact ⟨_, if_pos present⟩

theorem delete_of_present (allowed : refusal = none) (present : resource ∈ store) :
    delete refusal resource store = (none, store.erase resource) := by
  rw [allowed, delete, if_pos present]

theorem delete_failed (blocked : ¬(refusal = none ∧ resource ∈ store)) :
    ∃ failed, delete refusal resource store = (some failed, store) := by
  cases refusal with
  | some failure => exact ⟨_, rfl⟩
  | none =>
    have absent : resource ∉ store := by simpa using blocked
    exact ⟨_, if_neg absent⟩

end Calls

def resources (resource : Item → Resource) (items : List Item) : Finset Resource :=
  (items.map resource).toFinset

section Loops

variable {resource : Item → Resource}

@[simp] theorem resources_nil : resources resource [] = ∅ := rfl

@[simp] theorem resources_cons (item : Item) (rest : List Item) :
    resources resource (item :: rest) = insert (resource item) (resources resource rest) := by
  simp [resources]

theorem resources_append (first second : List Item) :
    resources resource (first ++ second) =
      resources resource first ∪ resources resource second := by
  simp [resources]

variable {items : List Item}

@[simp] theorem mem_resources {given : Resource} :
    given ∈ resources resource items ↔ ∃ item ∈ items, resource item = given := by
  simp [resources]

theorem addEach_of_free (refusal : Resource → Option Failure) (resource : Item → Resource)
    {store : Finset Resource} (distinct : (items.map resource).Nodup)
    (free : ∀ item ∈ items, refusal (resource item) = none ∧ resource item ∉ store) :
    addEach refusal resource items store = (none, items, store ∪ resources resource items) := by
  induction items generalizing store with
  | nil => simp [addEach]
  | cons item rest ih =>
    rw [List.map_cons, List.nodup_cons] at distinct
    obtain ⟨allowed, absent⟩ := free item List.mem_cons_self
    have later : ∀ other ∈ rest,
        refusal (resource other) = none ∧ resource other ∉ insert (resource item) store := by
      intro other member
      obtain ⟨otherAllowed, otherAbsent⟩ := free other (List.mem_cons_of_mem _ member)
      refine ⟨otherAllowed, ?_⟩
      rw [Finset.mem_insert, not_or]
      refine ⟨fun same => distinct.1 ?_, otherAbsent⟩
      rw [← same]
      exact List.mem_map_of_mem member
    have added := ih distinct.2 later
    simp only [addEach, add_of_free allowed absent, added, resources_cons, Finset.union_insert,
      Finset.insert_union]

theorem addEach_blocked (refusal : Resource → Option Failure) (resource : Item → Resource)
    {store : Finset Resource}
    (blocked : ∃ item ∈ items, ¬(refusal (resource item) = none ∧ resource item ∉ store)) :
    ∃ failed added, addEach refusal resource items store =
        (some failed, added, store ∪ resources resource added) ∧
      added.Sublist items ∧ Disjoint store (resources resource added) := by
  induction items generalizing store with
  | nil => simp at blocked
  | cons item rest ih =>
    by_cases here : refusal (resource item) = none ∧ resource item ∉ store
    · obtain ⟨other, member, otherBlocked⟩ := blocked
      have later : other ∈ rest := by
        rcases List.mem_cons.mp member with same | later
        · rw [same] at otherBlocked
          exact absurd here otherBlocked
        · exact later
      have stillBlocked : ¬(refusal (resource other) = none ∧
          resource other ∉ insert (resource item) store) := by
        intro both
        exact otherBlocked ⟨both.1, fun present => both.2 (Finset.mem_insert_of_mem present)⟩
      obtain ⟨failed, added, loop, sublist, fresh⟩ := ih ⟨other, later, stillBlocked⟩
      rw [Finset.disjoint_insert_left] at fresh
      refine ⟨failed, item :: added, ?_, sublist.cons_cons item, ?_⟩
      · simp only [addEach, add_of_free here.1 here.2, loop, resources_cons,
          Finset.union_insert, Finset.insert_union]
      · rw [resources_cons, Finset.disjoint_insert_right]
        exact ⟨here.2, fresh.2⟩
    · obtain ⟨failed, call⟩ := add_failed here
      refine ⟨(item, failed), [], ?_, List.nil_sublist _, by simp⟩
      simp only [addEach, call, resources_nil, Finset.union_empty]

theorem deleteEach_outcome (refusal : Resource → Option Failure) (resource : Item → Resource)
    (items : List Item) (store : Finset Resource) :
    ∃ stopped done left, deleteEach refusal resource items store =
        (stopped, store \ resources resource done) ∧
      items = done ++ left ∧ resources resource done ⊆ store ∧
      (∀ item ∈ done, refusal (resource item) = none) ∧ (stopped = none ↔ left = []) ∧
      ∀ item ∈ left.head?, ¬(refusal (resource item) = none ∧
        resource item ∈ store \ resources resource done) := by
  induction items generalizing store with
  | nil => exact ⟨none, [], [], by simp [deleteEach], rfl, by simp, by simp, by simp, by simp⟩
  | cons item rest ih =>
    by_cases here : refusal (resource item) = none ∧ resource item ∈ store
    · obtain ⟨stopped, done, left, loop, split, present, allowed, complete, next⟩ :=
        ih (store.erase (resource item))
      have shrunk : store.erase (resource item) \ resources resource done =
          store \ resources resource (item :: done) := by
        rw [resources_cons, Finset.sdiff_insert, ← Finset.erase_sdiff_comm]
      refine ⟨stopped, item :: done, left, ?_, by rw [split, List.cons_append], ?_, ?_, complete,
        ?_⟩
      · simp only [deleteEach, delete_of_present here.1 here.2, loop, shrunk]
      · rw [resources_cons, Finset.insert_subset_iff]
        exact ⟨here.2, present.trans (Finset.erase_subset _ _)⟩
      · exact List.forall_mem_cons.mpr ⟨here.1, allowed⟩
      · rwa [shrunk] at next
    · obtain ⟨failed, call⟩ := delete_failed here
      refine ⟨some (item, failed), [], item :: rest, ?_, rfl, by simp, by simp, by simp, ?_⟩
      · simp only [deleteEach, call, resources_nil, Finset.sdiff_empty]
      · simpa using here

theorem deleteAll_outcome (refusal : Resource → Option Failure) (resource : Item → Resource)
    (items : List Item) (store : Finset Resource) :
    ∃ failures, deleteAll refusal resource items store = (failures,
        store \ resources resource (items.filter fun item => (refusal (resource item)).isNone)) ∧
      (failures = [] → resources resource items ⊆ store ∧
        ∀ item ∈ items, refusal (resource item) = none) := by
  induction items generalizing store with
  | nil => exact ⟨[], by simp [deleteAll], by simp⟩
  | cons item rest ih =>
    by_cases here : refusal (resource item) = none ∧ resource item ∈ store
    · obtain ⟨failures, loop, complete⟩ := ih (store.erase (resource item))
      refine ⟨failures, ?_, ?_⟩
      · rw [List.filter_cons, if_pos (by simp [here.1]), resources_cons, Finset.sdiff_insert,
          ← Finset.erase_sdiff_comm]
        simp only [deleteAll, delete_of_present here.1 here.2, loop, Option.toList_none,
          List.nil_append]
      · intro quiet
        obtain ⟨present, allowed⟩ := complete quiet
        refine ⟨?_, List.forall_mem_cons.mpr ⟨here.1, allowed⟩⟩
        rw [resources_cons, Finset.insert_subset_iff]
        exact ⟨here.2, present.trans (Finset.erase_subset _ _)⟩
    · obtain ⟨failed, call⟩ := delete_failed here
      obtain ⟨failures, loop, -⟩ := ih store
      refine ⟨failed :: failures, ?_, by simp⟩
      have unaffected : store \ resources resource ((item :: rest).filter fun item =>
            (refusal (resource item)).isNone) =
          store \ resources resource (rest.filter fun item =>
            (refusal (resource item)).isNone) := by
        by_cases allowed : refusal (resource item) = none
        · have absent : resource item ∉ store := fun present => here ⟨allowed, present⟩
          rw [List.filter_cons, if_pos (by simp [allowed]), resources_cons, Finset.sdiff_insert,
            Finset.erase_eq_of_notMem (fun member => absent (Finset.mem_sdiff.mp member).1)]
        · rw [List.filter_cons, if_neg (by simpa using allowed)]
      simp only [deleteAll, call, loop, Option.toList_some, List.singleton_append, unaffected]

theorem deleteAll_of_present (refusal : Resource → Option Failure) (resource : Item → Resource)
    {store : Finset Resource} (distinct : (items.map resource).Nodup)
    (present : ∀ item ∈ items, refusal (resource item) = none ∧ resource item ∈ store) :
    deleteAll refusal resource items store = ([], store \ resources resource items) := by
  induction items generalizing store with
  | nil => simp [deleteAll]
  | cons item rest ih =>
    rw [List.map_cons, List.nodup_cons] at distinct
    obtain ⟨allowed, here⟩ := present item List.mem_cons_self
    have later : ∀ other ∈ rest,
        refusal (resource other) = none ∧ resource other ∈ store.erase (resource item) := by
      intro other member
      obtain ⟨otherAllowed, otherPresent⟩ := present other (List.mem_cons_of_mem _ member)
      refine ⟨otherAllowed, Finset.mem_erase.mpr ⟨fun same => distinct.1 ?_, otherPresent⟩⟩
      rw [← same]
      exact List.mem_map_of_mem member
    have deleted := ih distinct.2 later
    simp only [deleteAll, delete_of_present allowed here, deleted, Option.toList_none,
      List.nil_append, resources_cons, Finset.sdiff_insert, Finset.erase_sdiff_comm]

theorem deleteAll_map (refusal : Resource → Option Failure) (resource : Item → Resource)
    (items : List Item) (store : Finset Resource) :
    deleteAll refusal resource items store =
      deleteAll refusal id (items.map resource) store := by
  induction items generalizing store with
  | nil => rfl
  | cons item rest ih => simp only [List.map_cons, deleteAll, ih, id]

theorem deleteAll_append (refusal : Resource → Option Failure) (resource : Item → Resource)
    (first second : List Item) (store : Finset Resource) :
    deleteAll refusal resource (first ++ second) store =
      let (failures, store) := deleteAll refusal resource first store
      let (later, store) := deleteAll refusal resource second store
      (failures ++ later, store) := by
  induction first generalizing store with
  | nil => rfl
  | cons item rest ih => simp only [List.cons_append, deleteAll, ih, List.append_assoc]

theorem deleteAll_unrefused (items : List Item) (store : Finset Resource) :
    (deleteAll (fun _ => (none : Option Failure)) resource items store).2 =
      store \ resources resource items := by
  obtain ⟨failures, loop, -⟩ :=
    deleteAll_outcome (fun _ => (none : Option Failure)) resource items store
  rw [loop]
  simp

end Loops

end Ipv6Mesh.StrictStore
