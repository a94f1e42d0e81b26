import Ipv6Mesh.RelayOutcomes

/-!
# The record of a relay's route manager

The record of a manager stands for a set of kernel entries. A call that is
refused a deletion after another deletion of it went through leaves the record
with an entry the kernel no longer has; no other call separates the two, and
no later call, whatever it is, brings them together again.
-/

namespace Ipv6Mesh.RelayRecords

open GoFlow GoNet RelayOutcomes RelayRoutes StrictStore
open Std (ExtTreeMap)

/-- The kernel holds the routes the manager has recorded. -/
def Exact (system : System) : Prop := system.kernel = recorded system.manager

def Lost (system : System) : Prop :=
  ∃ entry ∈ recorded system.manager, entry ∉ system.kernel

theorem Lost.not_exact {system : System} (lost : Lost system) : ¬Exact system := by
  obtain ⟨entry, member, absent⟩ := lost
  intro exact_
  rw [exact_] at absent
  exact absent member

/-- A call is torn when some of its deletions go through and another is refused.
`Apply` stops at the first refused deletion, so there the first one must go
through; `Clear` tries them all. -/
def Torn : Call → System → Prop
  | .apply invocation interfaceName local_ peers, system =>
    validateRelayRoutes interfaceName local_ peers = .ok () ∧
    contextError invocation.ctx = .ok () ∧
    Addable invocation
      (additions system.manager interfaceName local_ (desiredRoutes peers)) system.kernel ∧
    ∃ first rest, staleEntries invocation system.manager interfaceName local_
        (desiredRoutes peers) = first :: rest ∧
      invocation.refusal (.delete first) = none ∧
      ∃ entry ∈ rest, invocation.refusal (.delete entry) ≠ none
  | .clear invocation interfaceName, system =>
    ClearAccepts invocation interfaceName system.manager ∧
    (∃ entry ∈ recorded system.manager, invocation.refusal (.delete entry) = none) ∧
    ∃ entry ∈ recorded system.manager, invocation.refusal (.delete entry) ≠ none

section Members

variable {invocation : Invocation} {manager : RouteManager} {interfaceName : String}
  {local_ : Addr} {desired : ExtTreeMap String NetPrefix}

theorem staleEntries_recorded (keyed : Keyed manager.owned) {entry : Entry}
    (stale : entry ∈ staleEntries invocation manager interfaceName local_ desired) :
    entry ∈ recorded manager := by
  rw [mem_recorded keyed]
  rcases (mem_staleEntries keyed entry).mp stale with ⟨key, owned, -, rfl⟩ | ⟨valid, -, rfl⟩
  · exact Or.inl ⟨key, owned, rfl⟩
  · exact Or.inr ⟨valid, rfl⟩

theorem additions_recorded (isV4 : ∃ host, local_ = .v4 host) (keyed : Keyed desired)
    {entry : Entry} (added : entry ∈ additions manager interfaceName local_ desired) :
    entry ∈ recorded ⟨desired, local_, interfaceName⟩ := by
  rw [mem_recorded keyed]
  obtain ⟨host, rfl⟩ := isV4
  rcases (mem_additions keyed entry).mp added with ⟨-, rfl⟩ | ⟨key, wanted, -, rfl⟩
  · exact Or.inr ⟨by simp [Addr.isValid], rfl⟩
  · exact Or.inl ⟨key, wanted, rfl⟩

theorem kept_recorded (keyed : Keyed manager.owned) (keyedDesired : Keyed desired) {entry : Entry}
    (member : entry ∈ recorded manager)
    (kept : entry ∉ staleEntries invocation manager interfaceName local_ desired) :
    entry ∈ recorded ⟨desired, local_, interfaceName⟩ ∧
      entry ∉ additions manager interfaceName local_ desired := by
  rw [mem_staleEntries keyed] at kept
  rw [mem_recorded keyedDesired, mem_additions keyedDesired]
  rw [mem_recorded keyed] at member
  cases moved : manager.unmoved interfaceName local_ with
  | false =>
    simp only [moved, Bool.false_eq_true, and_false, not_false_eq_true, true_and] at kept
    exact absurd member kept
  | true =>
    obtain ⟨rfl, rfl⟩ : manager.iface = interfaceName ∧ manager.address = local_ := by
      simpa [RouteManager.unmoved] using moved
    simp only [moved, and_true, Bool.true_eq_false, false_and, and_false, or_false,
      false_or] at kept ⊢
    rcases member with ⟨key, owned, rfl⟩ | ⟨valid, rfl⟩
    · have wanted : desired[key]?.isSome = true := by
        by_contra unwanted
        exact kept ⟨key, owned, unwanted, rfl⟩
      refine ⟨Or.inl ⟨key, wanted, rfl⟩, ?_⟩
      rintro ⟨other, -, unowned, same⟩
      cases same
      exact unowned owned
    · refine ⟨Or.inr ⟨valid, rfl⟩, ?_⟩
      rintro ⟨other, -, -, same⟩
      exact absurd (congrArg Entry.kind same) (by simp [addressEntry])

theorem recorded_applied (isV4 : ∃ host, local_ = .v4 host) (keyed : Keyed manager.owned)
    (keyedDesired : Keyed desired)
    (fresh : ∀ entry ∈ additions manager interfaceName local_ desired,
      entry ∉ recorded manager) :
    (recorded manager ∪ (additions manager interfaceName local_ desired).toFinset) \
        (staleEntries invocation manager interfaceName local_ desired).toFinset =
      recorded ⟨desired, local_, interfaceName⟩ := by
  ext entry
  rw [Finset.mem_sdiff, Finset.mem_union, List.mem_toFinset, List.mem_toFinset]
  constructor
  · rintro ⟨before | added, notStale⟩
    · exact (kept_recorded keyed keyedDesired before notStale).1
    · exact additions_recorded isV4 keyedDesired added
  · intro after
    by_cases added : entry ∈ additions manager interfaceName local_ desired
    · exact ⟨Or.inr added, fun stale => fresh entry added (staleEntries_recorded keyed stale)⟩
    · rw [mem_additions keyedDesired] at added
      rw [mem_recorded keyedDesired] at after
      -- Nothing is left out of the additions unless the record has it already.
      cases moved : manager.unmoved interfaceName local_ with
      | false =>
        simp only [moved, Bool.false_eq_true, and_false, not_false_eq_true, true_and,
          not_or] at added
        rcases after with route | ⟨-, address⟩
        · exact absurd route added.2
        · exact absurd address added.1
      | true =>
        obtain ⟨rfl, rfl⟩ : manager.iface = interfaceName ∧ manager.address = local_ := by
          simpa [RouteManager.unmoved] using moved
        rw [mem_recorded keyed, mem_staleEntries keyed]
        simp only [moved, and_true, Bool.true_eq_false, false_and, and_false, or_false,
          false_or] at added ⊢
        rcases after with ⟨key, wanted, rfl⟩ | ⟨valid, rfl⟩
        · have owned : manager.owned[key]?.isSome = true := by
            by_contra unowned
            exact added ⟨key, wanted, unowned, rfl⟩
          refine ⟨Or.inl (Or.inl ⟨key, owned, rfl⟩), ?_⟩
          rintro ⟨other, -, unwanted, same⟩
          cases same
          exact unwanted wanted
        · refine ⟨Or.inl (Or.inr ⟨valid, rfl⟩), ?_⟩
          rintro ⟨other, -, -, same⟩
          exact absurd (congrArg Entry.kind same) (by simp [addressEntry])

end Members

section Steps

variable {call : Call} {system : System}

theorem wellFormed_step (wellFormed : WellFormed system.manager) :
    WellFormed (call.step system).manager := by
  cases call with
  | apply invocation interfaceName local_ peers =>
    by_cases accepted : validateRelayRoutes interfaceName local_ peers = .ok () ∧
        contextError invocation.ctx = .ok ()
    · have moved : WellFormed ⟨desiredRoutes peers, local_, interfaceName⟩ := by
        obtain ⟨named, isV4, hosts⟩ := validateRelayRoutes_ok accepted.1
        exact ⟨desiredRoutes_keyed fun peer member => (hosts peer member).1,
          Or.inr ⟨isV4, named⟩⟩
      rcases apply_outcome accepted.1 accepted.2 _ rfl with
        ⟨-, error, result⟩ | ⟨-, done, left, -, -, -, -, ⟨-, result⟩ | ⟨-, errors, -, result⟩⟩ <;>
        rw [Call.step, Call.run, result]
      · exact wellFormed
      · exact moved
      · exact wellFormed
    · obtain ⟨error, result⟩ := apply_rejected system accepted
      rw [Call.step, Call.run, result]
      exact wellFormed
  | clear invocation interfaceName =>
    by_cases accepts : ClearAccepts invocation interfaceName system.manager
    · obtain ⟨errors, result, -⟩ := clear_outcome wellFormed accepts
      rw [Call.step, Call.run, result]
      dsimp only
      split_ifs
      · exact wellFormed_new
      · exact wellFormed
    · obtain ⟨error, result⟩ := clear_rejected accepts
      rw [Call.step, Call.run, result]
      exact wellFormed

theorem refused_of_stuck {invocation : Invocation} {interfaceName : String} {local_ : Addr}
    {desired : ExtTreeMap String NetPrefix} {added : Kernel} {done left : List Entry}
    (keyed : Keyed system.manager.owned) (present : recorded system.manager ⊆ system.kernel)
    (split : staleEntries invocation system.manager interfaceName local_ desired = done ++ left)
    (next : ∀ entry ∈ left.head?, ¬(invocation.refusal (.delete entry) = none ∧
      entry ∈ (system.kernel ∪ added) \ done.toFinset)) :
    ∀ stuck ∈ left.head?, invocation.refusal (.delete stuck) ≠ none := by
  intro stuck first permitted
  obtain ⟨rest, rfl⟩ := List.head?_eq_some_iff.mp first
  have nodup : (staleEntries invocation system.manager interfaceName local_ desired).Nodup :=
    nodup_staleEntries keyed
  have stale : stuck ∈ staleEntries invocation system.manager interfaceName local_ desired := by
    rw [split]
    simp
  rw [split] at nodup
  have undone : stuck ∉ done := fun member =>
    (List.nodup_append.mp nodup).2.2 stuck member stuck List.mem_cons_self rfl
  exact next stuck rfl ⟨permitted, by simp [present (staleEntries_recorded keyed stale), undone]⟩

theorem exact_step (wellFormed : WellFormed system.manager) (exact_ : Exact system)
    (untorn : ¬Torn call system) :
    Exact (call.step system) ∧ ((call.run system).1 ≠ [] → call.step system = system) := by
  have unchanged : ∀ {errors}, call.run system = (errors, system) →
      Exact (call.step system) ∧ ((call.run system).1 ≠ [] → call.step system = system) := by
    intro errors result
    rw [Call.step, result]
    exact ⟨exact_, fun _ => rfl⟩
  cases call with
  | apply invocation interfaceName local_ peers =>
    by_cases accepted : validateRelayRoutes interfaceName local_ peers = .ok () ∧
        contextError invocation.ctx = .ok ()
    · obtain ⟨-, isV4, hosts⟩ := validateRelayRoutes_ok accepted.1
      have keyed := desiredRoutes_keyed fun peer member => (hosts peer member).1
      rcases apply_outcome accepted.1 accepted.2 _ rfl with ⟨-, error, result⟩ |
        ⟨addable, done, left, split, -, allowed, next,
          ⟨finished, result⟩ | ⟨unfinished, errors, -, result⟩⟩
      · exact unchanged result
      · rw [Call.step, Call.run, result]
        refine ⟨?_, fun failed => absurd rfl failed⟩
        rw [finished, List.append_nil] at split
        rw [Exact, ← split, exact_]
        refine recorded_applied isV4 wellFormed.keyed keyed fun entry member => ?_
        rw [← exact_]
        exact (addable entry member).2
      · cases left with
        | nil => exact absurd rfl unfinished
        | cons stuck rest =>
          have refused := refused_of_stuck wellFormed.keyed exact_.ge split next stuck rfl
          cases done with
          | nil =>
            rw [List.toFinset_nil, Finset.sdiff_empty] at result
            exact unchanged result
          | cons first others =>
            exact absurd ⟨accepted.1, accepted.2, addable, first, others ++ stuck :: rest,
              split, allowed first List.mem_cons_self, stuck, by simp, refused⟩ untorn
    · obtain ⟨error, result⟩ := apply_rejected system accepted
      exact unchanged result
  | clear invocation interfaceName =>
    by_cases accepts : ClearAccepts invocation interfaceName system.manager
    · obtain ⟨errors, result, complete⟩ := clear_outcome wellFormed accepts
      rw [exact_] at complete
      by_cases finished : errors = []
      · obtain ⟨-, allowed⟩ := complete.mp finished
        rw [Call.step, Call.run, result]
        refine ⟨?_, fun failed => absurd finished failed⟩
        rw [if_pos finished, Exact, recorded_new, exact_]
        simp only [Finset.sdiff_eq_empty_iff_subset]
        exact fun entry member => Finset.mem_filter.mpr ⟨member, allowed entry member⟩
      · have refused : ¬∀ entry ∈ recorded system.manager,
            invocation.refusal (.delete entry) = none :=
          fun allowed => finished (complete.mpr ⟨Finset.Subset.refl _, allowed⟩)
        have none_ : {entry ∈ recorded system.manager |
            invocation.refusal (.delete entry) = none} = (∅ : Finset Entry) := by
          by_contra some_
          obtain ⟨entry, member⟩ := Finset.nonempty_iff_ne_empty.mpr some_
          push Not at refused
          exact untorn ⟨accepts, ⟨entry, Finset.mem_filter.mp member⟩, refused⟩
        rw [if_neg finished, none_, Finset.sdiff_empty] at result
        exact unchanged result
    · obtain ⟨error, result⟩ := clear_rejected accepts
      exact unchanged result

theorem lost_of_torn (wellFormed : WellFormed system.manager) (exact_ : Exact system)
    (torn : Torn call system) : Lost (call.step system) := by
  cases call with
  | apply invocation interfaceName local_ peers =>
    obtain ⟨accepted, live, addable, first, rest, stale, permitted, entry, later, refused⟩ := torn
    have recordedFirst : first ∈ recorded system.manager :=
      staleEntries_recorded wellFormed.keyed (stale ▸ List.mem_cons_self)
    rcases apply_outcome accepted live _ rfl with ⟨blocked, -⟩ |
      ⟨-, done, left, split, -, allowed, next, ends⟩
    · exact absurd addable blocked
    · rw [stale] at split
      cases done with
      | nil =>
        rw [List.nil_append] at split
        have present : first ∈ system.kernel := exact_ ▸ recordedFirst
        exact absurd ⟨permitted, by simp [present]⟩ (next first (by simp [← split]))
      | cons head others =>
        obtain ⟨rfl, tail⟩ : first = head ∧ rest = others ++ left := by simpa using split
        rcases ends with ⟨finished, -⟩ | ⟨-, errors, -, result⟩
        · rw [tail, finished, List.append_nil] at later
          exact absurd (allowed entry (List.mem_cons_of_mem _ later)) refused
        · rw [Call.step, Call.run, result]
          exact ⟨first, recordedFirst, by simp⟩
  | clear invocation interfaceName =>
    obtain ⟨accepts, ⟨deleted, member, permitted⟩, entry, other, refused⟩ := torn
    obtain ⟨errors, result, complete⟩ := clear_outcome wellFormed accepts
    have failed : errors ≠ [] := fun finished =>
      refused ((complete.mp finished).2 entry other)
    rw [Call.step, Call.run, result, if_neg failed]
    exact ⟨deleted, member, by simp [member, permitted]⟩

theorem lost_step (wellFormed : WellFormed system.manager) (lost : Lost system) :
    Lost (call.step system) := by
  obtain ⟨entry, member, absent⟩ := lost
  have unchanged : ∀ {errors}, call.run system = (errors, system) → Lost (call.step system) := by
    intro errors result
    rw [Call.step, result]
    exact ⟨entry, member, absent⟩
  cases call with
  | apply invocation interfaceName local_ peers =>
    by_cases accepted : validateRelayRoutes interfaceName local_ peers = .ok () ∧
        contextError invocation.ctx = .ok ()
    · obtain ⟨-, isV4, hosts⟩ := validateRelayRoutes_ok accepted.1
      have keyed := desiredRoutes_keyed fun peer member => (hosts peer member).1
      rcases apply_outcome accepted.1 accepted.2 _ rfl with ⟨-, error, result⟩ |
        ⟨-, done, left, split, present, -, -, ⟨finished, result⟩ | ⟨-, errors, -, result⟩⟩
      · exact unchanged result
      · rw [finished, List.append_nil] at split
        rw [Call.step, Call.run, result]
        refine ⟨entry, ?_⟩
        by_cases stale : entry ∈ done
        · -- The deletion went through, so `Apply` had just added the entry itself.
          have added : entry ∈ additions system.manager interfaceName local_
              (desiredRoutes peers) := by
            rcases Finset.mem_union.mp (present (List.mem_toFinset.mpr stale)) with before | added
            · exact absurd before absent
            · exact List.mem_toFinset.mp added
          exact ⟨additions_recorded isV4 keyed added, by simp [stale]⟩
        · obtain ⟨kept, notAdded⟩ :=
            kept_recorded wellFormed.keyed keyed member (split ▸ stale)
          exact ⟨kept, by simp [absent, notAdded]⟩
      · rw [Call.step, Call.run, result]
        exact ⟨entry, member, by simp [absent]⟩
    · obtain ⟨error, result⟩ := apply_rejected system accepted
      exact unchanged result
  | clear invocation interfaceName =>
    by_cases accepts : ClearAccepts invocation interfaceName system.manager
    · obtain ⟨errors, result, complete⟩ := clear_outcome wellFormed accepts
      have failed : errors ≠ [] := fun finished => absent ((complete.mp finished).1 member)
      rw [Call.step, Call.run, result, if_neg failed]
      exact ⟨entry, member, by simp [absent]⟩
    · obtain ⟨error, result⟩ := clear_rejected accepts
      exact unchanged result

theorem clear_of_lost (wellFormed : WellFormed system.manager) (lost : Lost system)
    (invocation : Invocation) (interfaceName : String) :
    (clear invocation interfaceName system).1 ≠ [] := by
  obtain ⟨entry, member, absent⟩ := lost
  by_cases accepts : ClearAccepts invocation interfaceName system.manager
  · obtain ⟨errors, result, complete⟩ := clear_outcome wellFormed accepts
    rw [result]
    exact fun finished => absent ((complete.mp finished).1 member)
  · obtain ⟨error, result⟩ := clear_rejected accepts
    simp [result]

theorem clear_of_exact (wellFormed : WellFormed system.manager) (exact_ : Exact system)
    {invocation : Invocation} {interfaceName : String}
    (accepts : ClearAccepts invocation interfaceName system.manager)
    (quiet : ∀ entry, invocation.refusal (.delete entry) = none) :
    clear invocation interfaceName system = ([], start) := by
  obtain ⟨errors, result, complete⟩ := clear_outcome wellFormed accepts
  rw [exact_] at complete result
  have finished : errors = [] := complete.mpr ⟨Finset.Subset.refl _, fun entry _ => quiet entry⟩
  rw [result, finished, if_pos rfl, start]
  simp [quiet]

end Steps

theorem wellFormed_run (calls : List Call) : WellFormed (run Call.step calls start).manager :=
  run_invariant Call.step (fun system => WellFormed system.manager)
    (fun _ _ => wellFormed_step) calls wellFormed_new

theorem lost_run (calls : List Call) {system : System} (wellFormed : WellFormed system.manager)
    (lost : Lost system) : Lost (run Call.step calls system) := by
  have both := run_invariant Call.step
    (fun system => WellFormed system.manager ∧ Lost system)
    (fun _ _ kept => ⟨wellFormed_step kept.1, lost_step kept.1 kept.2⟩) calls ⟨wellFormed, lost⟩
  exact both.2

theorem exact_or_lost_run (calls : List Call) {system : System}
    (wellFormed : WellFormed system.manager) (exact_ : Exact system) :
    (StepsMeet Call.step (fun call system => ¬Torn call system) calls system ∧
      Exact (run Call.step calls system)) ∨
    (¬StepsMeet Call.step (fun call system => ¬Torn call system) calls system ∧
      Lost (run Call.step calls system)) := by
  induction calls generalizing system with
  | nil => exact Or.inl ⟨trivial, exact_⟩
  | cons call calls ih =>
    by_cases torn : Torn call system
    · refine Or.inr ⟨fun meets => meets.1 torn, ?_⟩
      exact lost_run calls (wellFormed_step wellFormed) (lost_of_torn wellFormed exact_ torn)
    · have next := (exact_step wellFormed exact_ torn).1
      rcases ih (wellFormed_step wellFormed) next with ⟨meets, kept⟩ | ⟨broken, lost⟩
      · exact Or.inl ⟨⟨torn, meets⟩, kept⟩
      · exact Or.inr ⟨fun meets => broken meets.2, lost⟩

theorem exact_start : Exact start := recorded_new.symm

/-- The record matches the kernel after a run exactly when no call of the run
was torn. As long as it does, a failed call that is not torn has changed nothing
and an unrefused `Clear` completes; once it does not, no `Clear` ever completes. -/
theorem record_exact_iff_untorn (calls : List Call) :
    (Exact (run Call.step calls start) ↔
      StepsMeet Call.step (fun call system => ¬Torn call system) calls start) ∧
    (Exact (run Call.step calls start) →
      (∀ call : Call, ¬Torn call (run Call.step calls start) →
        (call.run (run Call.step calls start)).1 ≠ [] →
        call.step (run Call.step calls start) = run Call.step calls start) ∧
      ∀ (invocation : Invocation) (interfaceName : String),
        ClearAccepts invocation interfaceName (run Call.step calls start).manager →
        (∀ entry, invocation.refusal (.delete entry) = none) →
        clear invocation interfaceName (run Call.step calls start) = ([], start)) ∧
    (¬Exact (run Call.step calls start) → ∀ (later : List Call) (invocation : Invocation)
      (interfaceName : String),
      (clear invocation interfaceName (run Call.step (calls ++ later) start)).1 ≠ []) := by
  have wellFormed := wellFormed_run calls
  rcases exact_or_lost_run calls wellFormed_new exact_start with ⟨meets, exact_⟩ | ⟨broken, lost⟩
  · refine ⟨iff_of_true exact_ meets, fun _ => ⟨?_, ?_⟩, fun inexact => absurd exact_ inexact⟩
    · exact fun call untorn failed => (exact_step wellFormed exact_ untorn).2 failed
    · exact fun invocation interfaceName accepts quiet =>
        clear_of_exact wellFormed exact_ accepts quiet
  · refine ⟨iff_of_false lost.not_exact broken, fun exact_ => absurd exact_ lost.not_exact, ?_⟩
    intro _ later invocation interfaceName
    have still : Lost (run Call.step (calls ++ later) start) := by
      rw [run_append]
      exact lost_run later wellFormed lost
    exact clear_of_lost (wellFormed_run _) still invocation interfaceName

def refusing (refused : Option Command) : Invocation where
  ctx := .live
  refusal command := if some command = refused then some "exit status 2" else none
  order := ⟨id, fun _ => .refl _⟩

def twoMembers : Call :=
  .apply (refusing none) "wg0" (.v4 0x0a000001)
    [⟨.v4 0x0a000002, some 32⟩, ⟨.v4 0x0a000003, some 32⟩]

def tornApply : Call :=
  .apply (refusing (some (.delete ⟨.route, "10.0.0.3/32", "wg0"⟩))) "wg0" (.v4 0x0a000001) []

def tornClear : Call :=
  .clear (refusing (some (.delete ⟨.address, "10.0.0.1/32", "wg0"⟩))) "wg0"

/-- A failed `Apply` that has deleted the first member's route, and a failed
`Clear` whose retry is refused nothing and fails all the same. -/
theorem torn_calls_lose_entries :
    (tornApply.run (run Call.step [twoMembers] start)).1 ≠ [] ∧
    (run Call.step [twoMembers, tornApply] start).kernel =
      {⟨.address, "10.0.0.1/32", "wg0"⟩, ⟨.route, "10.0.0.3/32", "wg0"⟩} ∧
    ⟨.route, "10.0.0.2/32", "wg0"⟩ ∈
      recorded (run Call.step [twoMembers, tornApply] start).manager ∧
    (tornClear.run (run Call.step [twoMembers] start)).1 ≠ [] ∧
    (clear (refusing none) "wg0" (run Call.step [twoMembers, tornClear] start)).1 =
      [.command .notPresent, .command .notPresent] := by
  decide +kernel

end Ipv6Mesh.RelayRecords
