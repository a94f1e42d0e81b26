import Mathlib

/-!
# Resource stores whose calls may fail

A store is a finite set of resources together with the ledger of what calls
ever created or removed. `ensure` makes a resource present and reports whether
it was absent, `remove` makes it absent, and a call that fails has no effect.
`Tracks` says that a registry holds exactly the resources that were created
since the store had its initial content and that are still present; each loop
of calls has one lemma that carries `Tracks` across it.
-/

namespace Ipv6Mesh.GoStore

variable {Key Resource Failure : Type} [DecidableEq Resource]

structure Store (Resource : Type) where
  present : Finset Resource
  created : Finset Resource
  removed : Finset Resource

def Store.initial (present : Finset Resource) : Store Resource := ⟨present, ∅, ∅⟩

def ensure (failure : Option Failure) (resource : Resource) (store : Store Resource) :
    Except Failure Bool × Store Resource :=
  match failure with
  | some failure => (.error failure, store)
  | none =>
    if resource ∈ store.present then (.ok false, store)
    else (.ok true, { store with
      present := insert resource store.present
      created := insert resource store.created })

def remove (failure : Option Failure) (resource : Resource) (store : Store Resource) :
    Except Failure Unit × Store Resource :=
  match failure with
  | some failure => (.error failure, store)
  | none => (.ok (), { store with
      present := store.present.erase resource
      removed := if resource ∈ store.present then insert resource store.removed
        else store.removed })

/-- Removes entries one by one and stops at the first failure. The result has
that failure, the entries removed before it, and the store. -/
def removeEach (failure : Resource → Option Failure) : List (Key × Resource) → Store Resource →
    Option Failure × List (Key × Resource) × Store Resource
  | [], store => (none, [], store)
  | entry :: rest, store =>
    match remove (failure entry.2) entry.2 store with
    | (.error failure, store) => (some failure, [], store)
    | (.ok (), store) =>
      let (stopped, done, store) := removeEach failure rest store
      (stopped, entry :: done, store)

/-- Ensures entries one by one and stops at the first failure. The result has
that failure, the entries the calls created, and the store. -/
def ensureEach (failure : Resource → Option Failure) : List (Key × Resource) → Store Resource →
    Option Failure × List (Key × Resource) × Store Resource
  | [], store => (none, [], store)
  | entry :: rest, store =>
    match ensure (failure entry.2) entry.2 store with
    | (.error failure, store) => (some failure, [], store)
    | (.ok created, store) =>
      let (stopped, made, store) := ensureEach failure rest store
      (stopped, if created then entry :: made else made, store)

/-- Tries to remove every entry. The result has all failures, the entries that
were removed, and the store. -/
def removeAll (failure : Resource → Option Failure) : List (Key × Resource) → Store Resource →
    List Failure × List (Key × Resource) × Store Resource
  | [], store => ([], [], store)
  | entry :: rest, store =>
    match remove (failure entry.2) entry.2 store with
    | (.error failed, store) =>
      let (failures, done, store) := removeAll failure rest store
      (failed :: failures, done, store)
    | (.ok (), store) =>
      let (failures, done, store) := removeAll failure rest store
      (failures, entry :: done, store)

def ensureAll (failure : Resource → Option Failure) : List (Key × Resource) → Store Resource →
    List Failure × Store Resource
  | [], store => ([], store)
  | entry :: rest, store =>
    match ensure (failure entry.2) entry.2 store with
    | (.error failed, store) =>
      let (failures, store) := ensureAll failure rest store
      (failed :: failures, store)
    | (.ok _, store) => ensureAll failure rest store

def resources (entries : List (Key × Resource)) : Finset Resource :=
  (entries.map Prod.snd).toFinset

@[simp] theorem resources_nil : resources ([] : List (Key × Resource)) = ∅ := rfl

@[simp] theorem resources_cons (entry : Key × Resource) (rest : List (Key × Resource)) :
    resources (entry :: rest) = insert entry.2 (resources rest) := by
  simp [resources]

theorem mem_resources {entries : List (Key × Resource)} {resource : Resource} :
    resource ∈ resources entries ↔ ∃ key, (key, resource) ∈ entries := by
  simp [resources]

theorem resources_perm {left right : List (Key × Resource)} (permuted : left.Perm right) :
    resources left = resources right := by
  ext resource
  simp only [mem_resources, permuted.mem_iff]

theorem resources_sublist {entries all : List (Key × Resource)} (sublist : entries.Sublist all) :
    resources entries ⊆ resources all := by
  intro resource member
  obtain ⟨key, inside⟩ := mem_resources.mp member
  exact mem_resources.mpr ⟨key, sublist.subset inside⟩

/-- `owned` is what was created since `initial` and is still present, and
nothing of `initial` was ever removed. -/
structure Tracks (initial owned : Finset Resource) (store : Store Resource) : Prop where
  present_eq : store.present = initial ∪ owned
  foreign : Disjoint initial owned
  owned_created : owned ⊆ store.created
  created_foreign : Disjoint initial store.created
  removed_foreign : Disjoint initial store.removed

theorem Tracks.start (initial : Finset Resource) :
    Tracks initial ∅ (Store.initial initial) := by
  constructor <;> simp [Store.initial]

section Steps

variable {initial owned : Finset Resource} {store : Store Resource}

theorem Tracks.owned_iff (tracks : Tracks initial owned store) (resource : Resource) :
    resource ∈ owned ↔ resource ∈ store.created ∧ resource ∈ store.present := by
  rw [tracks.present_eq, Finset.mem_union]
  constructor
  · intro member
    exact ⟨tracks.owned_created member, Or.inr member⟩
  · rintro ⟨created, foreign | member⟩
    · exact absurd created (Finset.disjoint_left.mp tracks.created_foreign foreign)
    · exact member

theorem Tracks.mem_present (tracks : Tracks initial owned store) {resource : Resource}
    (absent : resource ∉ store.present) : resource ∉ initial ∧ resource ∉ owned := by
  rw [tracks.present_eq, Finset.mem_union] at absent
  exact not_or.mp absent

theorem Tracks.ensure (tracks : Tracks initial owned store) (failure : Option Failure)
    (resource : Resource) :
    (∃ failed, failure = some failed ∧
      GoStore.ensure failure resource store = (.error failed, store)) ∨
    (failure = none ∧ resource ∈ store.present ∧
      GoStore.ensure failure resource store = (.ok false, store)) ∨
    (failure = none ∧ resource ∉ store.present ∧ ∃ after,
      GoStore.ensure failure resource store = (.ok true, after) ∧
        Tracks initial (insert resource owned) after) := by
  cases failure with
  | some failed => exact Or.inl ⟨failed, rfl, rfl⟩
  | none =>
    by_cases present : resource ∈ store.present
    · exact Or.inr (Or.inl ⟨rfl, present, if_pos present⟩)
    · obtain ⟨notInitial, -⟩ := tracks.mem_present present
      refine Or.inr (Or.inr ⟨rfl, present, _, if_neg present, ?_⟩)
      constructor
      · simp [tracks.present_eq]
      · rw [Finset.disjoint_insert_right]
        exact ⟨notInitial, tracks.foreign⟩
      · exact Finset.insert_subset_insert _ tracks.owned_created
      · rw [Finset.disjoint_insert_right]
        exact ⟨notInitial, tracks.created_foreign⟩
      · exact tracks.removed_foreign

theorem Tracks.remove (tracks : Tracks initial owned store) (failure : Option Failure)
    {resource : Resource} (notInitial : resource ∉ initial) :
    (∃ failed, failure = some failed ∧
      GoStore.remove failure resource store = (.error failed, store)) ∨
    (failure = none ∧ ∃ after, GoStore.remove failure resource store = (.ok (), after) ∧
      Tracks initial (owned.erase resource) after) := by
  cases failure with
  | some failed => exact Or.inl ⟨failed, rfl, rfl⟩
  | none =>
    refine Or.inr ⟨rfl, _, rfl, ?_⟩
    constructor
    · dsimp only
      rw [tracks.present_eq, Finset.erase_union_distrib, Finset.erase_eq_of_notMem notInitial]
    · exact tracks.foreign.mono_right (Finset.erase_subset _ _)
    · exact (Finset.erase_subset _ _).trans tracks.owned_created
    · exact tracks.created_foreign
    · dsimp only
      split_ifs
      · rw [Finset.disjoint_insert_right]
        exact ⟨notInitial, tracks.removed_foreign⟩
      · exact tracks.removed_foreign

end Steps

section Loops

variable {initial owned : Finset Resource} {store : Store Resource}

theorem Tracks.removeEach (tracks : Tracks initial owned store)
    (failure : Resource → Option Failure) (entries : List (Key × Resource))
    (mine : Disjoint initial (resources entries)) :
    ∃ stopped done after, GoStore.removeEach failure entries store = (stopped, done, after) ∧
      done.Sublist entries ∧ Tracks initial (owned \ resources done) after ∧
      (stopped = none → done = entries) := by
  induction entries generalizing owned store with
  | nil => exact ⟨none, [], store, rfl, .slnil, by simpa using tracks, fun _ => rfl⟩
  | cons entry rest ih =>
    rw [resources_cons, Finset.disjoint_insert_right] at mine
    rcases tracks.remove (failure entry.2) mine.1 with ⟨failed, -, call⟩ | ⟨-, next, call, disowned⟩
    · refine ⟨some failed, [], store, ?_, List.nil_sublist _, by simpa using tracks, by simp⟩
      simp only [GoStore.removeEach, call]
    · obtain ⟨stopped, done, after, loop, sublist, tracked, complete⟩ := ih disowned mine.2
      refine ⟨stopped, entry :: done, after, ?_, sublist.cons_cons entry, ?_, ?_⟩
      · simp only [GoStore.removeEach, call, loop]
      · rwa [resources_cons, Finset.sdiff_insert, ← Finset.erase_sdiff_comm]
      · intro finished
        rw [complete finished]

theorem Tracks.ensureEach (tracks : Tracks initial owned store)
    (failure : Resource → Option Failure) (entries : List (Key × Resource)) :
    ∃ stopped made after, GoStore.ensureEach failure entries store = (stopped, made, after) ∧
      made.Sublist entries ∧ Tracks initial (owned ∪ resources made) after ∧
      Disjoint store.present (resources made) ∧
      (stopped = none → after.present = store.present ∪ resources entries) := by
  induction entries generalizing owned store with
  | nil =>
    refine ⟨none, [], store, rfl, .slnil, by simpa using tracks, by simp, by simp⟩
  | cons entry rest ih =>
    rcases tracks.ensure (failure entry.2) entry.2 with
      ⟨failed, -, call⟩ | ⟨-, present, call⟩ | ⟨-, absent, next, call, claimed⟩
    · refine ⟨some failed, [], store, ?_, List.nil_sublist _, by simpa using tracks, by simp,
        by simp⟩
      simp only [GoStore.ensureEach, call]
    · obtain ⟨stopped, made, after, loop, sublist, tracked, fresh, complete⟩ := ih tracks
      refine ⟨stopped, made, after, ?_, sublist.cons entry, tracked, fresh, ?_⟩
      · simp only [GoStore.ensureEach, call, loop, Bool.false_eq_true, if_false]
      · intro finished
        rw [complete finished, resources_cons, Finset.union_insert,
          Finset.insert_eq_self.mpr (Finset.mem_union_left _ present)]
    · obtain ⟨stopped, made, after, loop, sublist, tracked, fresh, complete⟩ := ih claimed
      have grown : next.present = insert entry.2 store.present := by
        rw [claimed.present_eq, tracks.present_eq, Finset.union_insert]
      rw [grown] at fresh complete
      rw [Finset.disjoint_insert_left] at fresh
      refine ⟨stopped, entry :: made, after, ?_, sublist.cons_cons entry, ?_, ?_, ?_⟩
      · simp only [GoStore.ensureEach, call, loop, if_true]
      · rwa [resources_cons, Finset.union_insert, ← Finset.insert_union]
      · rw [resources_cons, Finset.disjoint_insert_right]
        exact ⟨absent, fresh.2⟩
      · intro finished
        rw [complete finished, resources_cons, Finset.union_insert, Finset.insert_union]

theorem Tracks.removeAll (tracks : Tracks initial owned store)
    (failure : Resource → Option Failure) (entries : List (Key × Resource))
    (mine : Disjoint initial (resources entries)) :
    ∃ failures done after, GoStore.removeAll failure entries store = (failures, done, after) ∧
      done.Sublist entries ∧ Tracks initial (owned \ resources done) after ∧
      (failures = [] → done = entries) ∧
      ((∀ entry ∈ entries, failure entry.2 = none) → failures = []) := by
  induction entries generalizing owned store with
  | nil => exact ⟨[], [], store, rfl, .slnil, by simpa using tracks, fun _ => rfl, fun _ => rfl⟩
  | cons entry rest ih =>
    rw [resources_cons, Finset.disjoint_insert_right] at mine
    rcases tracks.remove (failure entry.2) mine.1 with
      ⟨failed, fails, call⟩ | ⟨-, next, call, disowned⟩
    · obtain ⟨failures, done, after, loop, sublist, tracked, -, -⟩ := ih tracks mine.2
      refine ⟨failed :: failures, done, after, ?_, sublist.cons entry, tracked, by simp, ?_⟩
      · simp only [GoStore.removeAll, call, loop]
      · intro succeeds
        rw [succeeds entry (by simp)] at fails
        cases fails
    · obtain ⟨failures, done, after, loop, sublist, tracked, complete, quiet⟩ :=
        ih disowned mine.2
      refine ⟨failures, entry :: done, after, ?_, sublist.cons_cons entry, ?_, ?_, ?_⟩
      · simp only [GoStore.removeAll, call, loop]
      · rwa [resources_cons, Finset.sdiff_insert, ← Finset.erase_sdiff_comm]
      · intro finished
        rw [complete finished]
      · intro succeeds
        exact quiet fun other member => succeeds other (List.mem_cons_of_mem _ member)

theorem Tracks.ensureAll (tracks : Tracks initial owned store)
    (failure : Resource → Option Failure) (entries : List (Key × Resource))
    (mine : Disjoint initial (resources entries))
    (succeeds : ∀ entry ∈ entries, failure entry.2 = none) :
    ∃ after, GoStore.ensureAll failure entries store = ([], after) ∧
      Tracks initial (owned ∪ resources entries) after := by
  induction entries generalizing owned store with
  | nil => exact ⟨store, rfl, by simpa using tracks⟩
  | cons entry rest ih =>
    rw [resources_cons, Finset.disjoint_insert_right] at mine
    have here := succeeds entry (by simp)
    have later : ∀ other ∈ rest, failure other.2 = none := fun other member =>
      succeeds other (List.mem_cons_of_mem _ member)
    rcases tracks.ensure (failure entry.2) entry.2 with
      ⟨failed, fails, -⟩ | ⟨-, present, call⟩ | ⟨-, absent, next, call, claimed⟩
    · rw [here] at fails
      cases fails
    · obtain ⟨after, loop, tracked⟩ := ih tracks mine.2 later
      refine ⟨after, by simp only [GoStore.ensureAll, call, loop], ?_⟩
      rw [tracks.present_eq, Finset.mem_union] at present
      have already : entry.2 ∈ owned := present.resolve_left mine.1
      rwa [resources_cons, Finset.union_insert,
        Finset.insert_eq_self.mpr (Finset.mem_union_left _ already)]
    · obtain ⟨after, loop, tracked⟩ := ih claimed mine.2 later
      refine ⟨after, by simp only [GoStore.ensureAll, call, loop], ?_⟩
      rwa [resources_cons, Finset.union_insert, ← Finset.insert_union]

end Loops

end Ipv6Mesh.GoStore
