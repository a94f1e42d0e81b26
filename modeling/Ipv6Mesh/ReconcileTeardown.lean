import Ipv6Mesh.ReconcileLastGood

/-!
# Teardown, retry and re-apply

What `Clear` leaves behind, when it can be retried, and when a nil result of
`Apply` means that the data plane is there. A first `Apply` that fails between
`Ensure` and `Reconcile` records nothing, and a `Clear` that fails half way keeps
its record, so each of the three needs a condition on the steps of the run.
-/

namespace Ipv6Mesh.ReconcileTeardown

open GoFlow ControlModel ReconcilePlan ReconcileApplier ReconcileOutcomes ReconcileLastGood
open PlanExactness (plainApplier plainSnapshot)

def Bare (world : World) : Prop := world.adapter = none ∧ world.routes = none

/-- The calls of a rollback succeed, and an `Apply` that calls for the adapter while
nothing is recorded, and is given one, goes on to the end of `Reconcile`. -/
def LeavesNoAdapter (applier : Applier) (action : Action) (system : System) : Prop :=
  match action with
  | .apply ctx snapshot verdicts =>
    RolledBack (ReconcileApplier.apply applier ctx snapshot verdicts system).1 ∧
      (system.state = none → attempts applier ctx snapshot system = true →
        verdicts.ensure = .succeeds → Prepared verdicts)
  | .clear _ _ => True

def NothingUnrecorded (system : System) : Prop := system.state = none → Bare system.world

theorem nothingUnrecorded_step {applier : Applier} (action : Action) (system : System)
    (meets : LeavesNoAdapter applier action system) (before : NothingUnrecorded system) :
    NothingUnrecorded (action.step applier system) := by
  intro nothing
  cases action with
  | apply ctx snapshot verdicts =>
    obtain ⟨complete, prepared⟩ := meets
    have outcome := apply_outcome applier ctx snapshot verdicts system
    simp only [Action.step, Action.outcome] at nothing ⊢
    generalize (apply applier ctx snapshot verdicts system).1 = result at outcome complete
    generalize (apply applier ctx snapshot verdicts system).2 = after at outcome nothing ⊢
    cases outcome with
    | refused | current => exact before nothing
    | noAdapter err world unchanged =>
      obtain ⟨adapter, routes⟩ := before nothing
      exact ⟨unchanged.adapter.trans adapter, unchanged.routes.trans routes⟩
    | halted err world handle device ensured attempted asked unprepared =>
      exact absurd (prepared nothing attempted asked) unprepared
    | rolledBack original failures ready reached world handle device ensured next adapter calls =>
      obtain rfl := foldl_join_plain complete
      have state : system.state = none := nothing
      rw [state] at calls
      exact (undo_complete calls).2
    | advanced => cases nothing
  | clear ctx verdicts =>
    have outcome := clear_outcome ctx verdicts system
    simp only [Action.step, Action.outcome] at nothing ⊢
    generalize (clear ctx verdicts system).1 = result at outcome
    generalize (clear ctx verdicts system).2 = after at outcome nothing ⊢
    cases outcome with
    | stopped | idle => exact before nothing
    | cleared applied stored world calls =>
      obtain ⟨adapter, routes, -⟩ := teardown_complete calls
      exact ⟨adapter, routes⟩
    | partly applied stored =>
      rw [nothing] at stored
      cases stored

/-- In every run from bare surroundings whose steps leave no adapter behind, a
`Clear` that returns nil leaves nothing. -/
theorem clear_leaves_nothing (applier : Applier) (world : World) (bare : Bare world)
    (actions : List Action)
    (meets : StepsMeet (Action.step applier) (LeavesNoAdapter applier) actions (newSystem world))
    (ctx : Context) (verdicts : ClearVerdicts)
    (cleared : (clear ctx verdicts (run (Action.step applier) actions (newSystem world))).1 =
      .ok ()) :
    Bare (clear ctx verdicts (run (Action.step applier) actions (newSystem world))).2.world := by
  have before := run_invariant_of_stepsMeet (Action.step applier) NothingUnrecorded
    nothingUnrecorded_step meets (fun _ => bare)
  have outcome := clear_outcome ctx verdicts (run (Action.step applier) actions (newSystem world))
  rw [cleared] at outcome
  generalize (clear ctx verdicts (run (Action.step applier) actions (newSystem world))).2 = after
    at outcome ⊢
  cases outcome with
  | idle nothing => exact before nothing
  | cleared applied stored world calls =>
      obtain ⟨adapter, routes, -⟩ := teardown_complete calls
      exact ⟨adapter, routes⟩

instance (verdicts : ApplyVerdicts) : Decidable (Prepared verdicts) :=
  match read : verdicts.status with
  | .error _ => isFalse fun prepared => by
      obtain ⟨⟨luid, same, -⟩, -⟩ := prepared
      rw [read] at same
      cases same
  | .ok luid => decidable_of_iff (luid ≠ 0 ∧ verdicts.reconcile = .ok ()) (by
      simp [Prepared, read])

instance (verdict : EnsureVerdict) : Decidable (verdict = .succeeds) :=
  match verdict with
  | .succeeds => isTrue rfl
  | .invalid => isFalse (by simp)
  | .fails _ => isFalse (by simp)

instance (verdicts : ApplyVerdicts) : Decidable (Broken verdicts) :=
  inferInstanceAs (Decidable (_ ∧ _ ∧ ¬_))

instance (applier : Applier) (action : Action) (system : System) :
    Decidable (LeavesNoAdapter applier action system) :=
  match action with
  | .apply ctx snapshot verdicts => inferInstanceAs (Decidable
      (RolledBack (ReconcileApplier.apply applier ctx snapshot verdicts system).1 ∧
        (system.state = none → attempts applier ctx snapshot system = true →
          verdicts.ensure = .succeeds → Prepared verdicts)))
  | .clear _ _ => isTrue trivial

def calmClear : ClearVerdicts := ⟨.ok (), .ok (), .ok ()⟩

theorem clear_leaves_nothing_after_failure :
    Bare (clear .live calmClear (run (Action.step plainApplier) failedReplacement
      (newSystem bareWorld))).2.world :=
  clear_leaves_nothing plainApplier bareWorld ⟨rfl, rfl⟩ failedReplacement (by decide +kernel)
    .live calmClear (by decide +kernel)

/-- A first `Apply` whose `Status` fails: `Clear` returns nil and the adapter stays. -/
theorem failed_status_leaves_adapter :
    StepsMeet (Action.step plainApplier) (fun action system =>
        RolledBack (action.outcome plainApplier system).1)
      [.apply .live (plainSnapshot 1) { calm with status := .error (.failed "status") }]
      (newSystem bareWorld) ∧
    (clear .live calmClear (run (Action.step plainApplier)
      [.apply .live (plainSnapshot 1) { calm with status := .error (.failed "status") }]
      (newSystem bareWorld))).1 = .ok () ∧
    ¬Bare (clear .live calmClear (run (Action.step plainApplier)
      [.apply .live (plainSnapshot 1) { calm with status := .error (.failed "status") }]
      (newSystem bareWorld))).2.world := by
  refine ⟨by decide +kernel, by decide +kernel, fun bare => ?_⟩
  have adapter : (clear .live calmClear (run (Action.step plainApplier)
      [.apply .live (plainSnapshot 1) { calm with status := .error (.failed "status") }]
      (newSystem bareWorld))).2.world.adapter ≠ none := by decide +kernel
  exact adapter bare.1

/-- A `Clear` of which every call on a valid handle succeeds returns nil and
leaves the applier unapplied. -/
def Retried (system : System) : Prop :=
  (clear .live calmClear system).1 = .ok () ∧ (clear .live calmClear system).2.state = none ∧
    (clear .live calmClear system).2.generation = 0

/-- The recorded handle is that of the adapter. -/
def HandleValid (system : System) : Prop :=
  ∀ applied, system.state = some applied →
    ∃ device, system.world.adapter = some ⟨applied.handle, device⟩

/-- A clear deletes the adapter only after its routes are gone and its link is down. -/
def DeletesLast (action : Action) (_ : System) : Prop :=
  match action with
  | .apply _ _ _ => True
  | .clear _ verdicts =>
    verdicts.delete = .ok () → verdicts.routes = .ok () ∧ verdicts.setDown = .ok ()

def GenerationRecorded (system : System) : Prop := system.state = none → system.generation = 0

section Retry

variable {applier : Applier} {system after : System} {action : Action}

theorem generationRecorded_step (outcome : StepOutcome applier system action after)
    (before : GenerationRecorded system) : GenerationRecorded after := by
  intro nothing
  cases outcome with
  | apply outcome =>
    cases outcome with
    | advanced => cases nothing
    | _ => exact before nothing
  | clear outcome =>
    cases outcome with
    | cleared => rfl
    | _ => exact before nothing

theorem retried_iff (recorded : GenerationRecorded system) :
    Retried system ↔ HandleValid system := by
  have outcome := clear_outcome .live calmClear system
  unfold Retried
  generalize (clear .live calmClear system).1 = result at outcome ⊢
  generalize (clear .live calmClear system).2 = after at outcome ⊢
  cases outcome with
  | stopped err stopped => cases stopped
  | idle nothing =>
    refine ⟨fun _ applied stored => ?_, fun _ => ⟨rfl, nothing, recorded nothing⟩⟩
    rw [nothing] at stored
    cases stored
  | cleared applied stored world calls =>
    refine ⟨fun _ other same => ?_, fun _ => ⟨rfl, rfl, rfl⟩⟩
    obtain rfl := Option.some.inj (stored.symm.trans same)
    by_contra missing
    exact teardown_missing calls (fun device present => missing ⟨device, present⟩) rfl
  | partly applied stored world errs someFailed live calls =>
    refine ⟨fun retried => ?_, fun valid => ?_⟩
    · cases retried.1
    · obtain ⟨device, present⟩ := valid applied stored
      exact absurd ((teardown_present calls present).mpr ⟨rfl, rfl, rfl⟩) someFailed

theorem handleValid_step (outcome : StepOutcome applier system action after)
    (meets : DeletesLast action system) (before : HandleValid system) : HandleValid after := by
  intro applied stored
  cases outcome with
  | apply outcome =>
    cases outcome with
    | refused | current => exact before applied stored
    | noAdapter err world unchanged =>
      obtain ⟨device, present⟩ := before applied stored
      exact ⟨device, unchanged.adapter.trans present⟩
    | halted err world handle device ensured =>
      obtain ⟨held, present⟩ := before applied stored
      exact ⟨held, ensured.adapter_of_present present⟩
    | rolledBack original failures ready reached world handle device ensured next adapter calls =>
      obtain ⟨held, present⟩ := before applied stored
      have state : system.state = some applied := stored
      rw [state] at calls
      obtain ⟨configuration, reachedAdapter⟩ := adapter
      have same := ensured.adapter.symm.trans (ensured.adapter_of_present present)
      cases same
      obtain ⟨kept, final, -⟩ : ∃ kept, world.adapter = some ⟨applied.handle, kept⟩ ∧ True :=
        restore_keeps calls (fun _ _ _ => trivial) (fun _ _ => trivial)
          ⟨_, reachedAdapter, trivial⟩
      exact ⟨kept, final⟩
    | advanced world luid state positive newer planned wasUp read inPlace =>
      cases stored
      exact ⟨_, inPlace.adapter⟩
  | clear outcome =>
    cases outcome with
    | stopped | idle => exact before applied stored
    | cleared => cases stored
    | partly state recorded world errs someFailed live calls =>
      have present := before applied stored
      obtain rfl := Option.some.inj (recorded.symm.trans stored)
      refine teardown_keeps calls (fun deleted => ?_) present
      obtain ⟨device, present⟩ := present
      obtain ⟨routes, down⟩ := meets deleted
      exact someFailed ((teardown_present calls present).mpr ⟨routes, down, deleted⟩)

end Retry

/-- In every reachable state a `Clear` can be retried exactly while the recorded
handle is valid; in a run whose `Clear` calls delete the adapter only together
with the rest, that is always. -/
theorem clear_can_be_retried (applier : Applier) (world : World) (actions : List Action) :
    (Retried (run (Action.step applier) actions (newSystem world)) ↔
      HandleValid (run (Action.step applier) actions (newSystem world))) ∧
    (StepsMeet (Action.step applier) DeletesLast actions (newSystem world) →
      Retried (run (Action.step applier) actions (newSystem world))) := by
  have recorded : GenerationRecorded (run (Action.step applier) actions (newSystem world)) :=
    run_invariant (Action.step applier) GenerationRecorded
      (fun action _ => generationRecorded_step (step_outcome applier action _)) actions
      fun _ => rfl
  refine ⟨retried_iff recorded, fun meets => (retried_iff recorded).mpr ?_⟩
  refine run_invariant_of_stepsMeet (Action.step applier) HandleValid
    (fun action _ => handleValid_step (step_outcome applier action _)) meets ?_
  intro applied stored
  cases stored

/-- `SetDown` and `Delete` fail, and the next `Clear` finishes. -/
theorem clear_can_be_retried_after_failure :
    Retried (run (Action.step plainApplier)
      [.apply .live (plainSnapshot 1) calm,
        .clear .live ⟨.ok (), .error (.failed "down"), .error (.failed "delete")⟩]
      (newSystem bareWorld)) :=
  (clear_can_be_retried plainApplier bareWorld
    [.apply .live (plainSnapshot 1) calm,
      .clear .live ⟨.ok (), .error (.failed "down"), .error (.failed "delete")⟩]).2
    ⟨trivial, (fun deleted => by cases deleted), trivial⟩

def halfCleared : List Action :=
  [.apply .live (plainSnapshot 1) calm, .clear .live ⟨.ok (), .error (.failed "down"), .ok ()⟩]

theorem half_cleared_cannot_be_retried :
    ¬Retried (run (Action.step plainApplier) halfCleared (newSystem bareWorld)) := by
  unfold Retried
  decide +kernel

/-- The adapter of the recorded state is up, its address and routes are there, and
they are the plan of a snapshot of the recorded generation. -/
def Working (applier : Applier) (system : System) : Prop :=
  ∃ applied, system.state = some applied ∧
    (∃ device, system.world.adapter = some ⟨applied.handle, device⟩ ∧ device.up = true) ∧
    system.world.routes = some (applied.address, applied.routes) ∧
    ∃ snapshot luid, PlanOf applier snapshot luid applied ∧
      snapshot.generation = system.generation

/-- A rollback over a recorded state restores its routes, and the calls that a `Clear`
makes succeed or fail together. -/
def harmless (applier : Applier) (action : Action) (system : System) : Bool :=
  match action with
  | .apply ctx snapshot verdicts =>
    !(attempts applier ctx snapshot system && system.state.isSome && Broken verdicts) ||
      verdicts.restoreRoutes = .ok ()
  | .clear ctx verdicts =>
    ReconcileApplier.contextError ctx ≠ .ok () || system.state.isNone ||
    (verdicts.routes = .ok () && verdicts.setDown = .ok () && verdicts.delete = .ok ()) ||
    (verdicts.routes ≠ .ok () && verdicts.setDown ≠ .ok () && verdicts.delete ≠ .ok ())

/-- The system, and whether every step since the generation last changed was harmless. -/
structure Monitored where
  system : System
  intact : Bool

def Monitored.step (applier : Applier) (action : Action) (monitored : Monitored) : Monitored where
  system := action.step applier monitored.system
  intact :=
    if (action.step applier monitored.system).generation = monitored.system.generation then
      monitored.intact && harmless applier action monitored.system
    else true

def Recorded (applier : Applier) (system : System) : Prop :=
  ∀ applied, system.state = some applied → applied.up = true ∧ 0 < system.generation ∧
    ∃ snapshot luid, PlanOf applier snapshot luid applied ∧ snapshot.generation = system.generation

def Present (system : System) : Prop :=
  ∀ applied, system.state = some applied →
    (∃ device, system.world.adapter = some ⟨applied.handle, device⟩ ∧ device.up = true) ∧
    system.world.routes = some (applied.address, applied.routes)

section Nil

variable {applier : Applier} {system after : System} {action : Action}
  {result : Except ApplyError Unit}

theorem recorded_step (outcome : StepOutcome applier system action after)
    (before : Recorded applier system) : Recorded applier after := by
  intro applied stored
  cases outcome with
  | apply outcome =>
    cases outcome with
    | advanced world luid state positive newer planned wasUp read inPlace =>
      cases stored
      exact ⟨wasUp, positive, _, luid, planned, rfl⟩
    | _ => exact before applied stored
  | clear outcome =>
    cases outcome with
    | cleared => cases stored
    | _ => exact before applied stored

theorem present_apply {ctx : Context} {snapshot : NetworkSnapshot} {verdicts : ApplyVerdicts}
    (outcome : ApplyOutcome applier ctx snapshot verdicts system result after)
    (before : after.generation = system.generation →
      harmless applier (.apply ctx snapshot verdicts) system = true ∧ Present system) :
    Present after := by
  intro applied stored
  cases outcome with
  | refused | current => exact (before rfl).2 applied stored
  | noAdapter err world unchanged =>
    obtain ⟨⟨device, present, up⟩, routes⟩ := (before rfl).2 applied stored
    exact ⟨⟨device, unchanged.adapter.trans present, up⟩, unchanged.routes.trans routes⟩
  | halted err world handle device ensured =>
    obtain ⟨⟨held, present, up⟩, routes⟩ := (before rfl).2 applied stored
    exact ⟨⟨held, ensured.adapter_of_present present, up⟩, ensured.routes.trans routes⟩
  | rolledBack original failures ready reached world handle device ensured next adapter calls
      attempted broken =>
    obtain ⟨steady, placed⟩ := before rfl
    obtain ⟨⟨held, present, up⟩, -⟩ := placed applied stored
    have state : system.state = some applied := stored
    rw [state] at calls
    obtain ⟨configuration, reachedAdapter⟩ := adapter
    have same := ensured.adapter.symm.trans (ensured.adapter_of_present present)
    cases same
    have restored : verdicts.restoreRoutes = .ok () := by
      simpa [harmless, attempted, state, broken] using steady
    refine ⟨?_, (restore_frame calls).2 restored⟩
    exact restore_keeps calls (fun _ _ up => up) (fun _ _ => rfl) ⟨_, reachedAdapter, up⟩
  | advanced world luid state positive newer planned wasUp read inPlace =>
    cases stored
    exact ⟨⟨_, inPlace.adapter, rfl⟩, inPlace.routes⟩

theorem present_clear {ctx : Context} {verdicts : ClearVerdicts}
    (outcome : ClearOutcome ctx verdicts system result after)
    (steady : harmless applier (.clear ctx verdicts) system = true) (before : Present system) :
    Present after := by
  intro applied stored
  cases outcome with
  | stopped | idle => exact before applied stored
  | cleared => cases stored
  | partly state recorded world errs someFailed live calls =>
    obtain ⟨⟨device, present, up⟩, routes⟩ := before applied stored
    obtain rfl := Option.some.inj (recorded.symm.trans stored)
    simp only [harmless, live, recorded, Bool.or_eq_true, Bool.and_eq_true, decide_eq_true_eq,
      ne_eq, not_true_eq_false, Option.isNone_some, Bool.false_eq_true, false_or] at steady
    rcases steady with ⟨⟨cleared, down⟩, deleted⟩ | ⟨⟨uncleared, upStill⟩, undeleted⟩
    · exact absurd ((teardown_present calls present).mpr ⟨cleared, down, deleted⟩) someFailed
    · have same := teardown_untouched calls uncleared upStill undeleted
      exact ⟨⟨device, same.adapter.trans present, up⟩, same.routes.trans routes⟩

theorem present_clear_of_moved {ctx : Context} {verdicts : ClearVerdicts}
    (outcome : ClearOutcome ctx verdicts system result after)
    (moved : after.generation ≠ system.generation) : Present after := by
  intro applied stored
  cases outcome with
  | cleared => cases stored
  | _ => exact absurd rfl moved

theorem present_step (action : Action) (monitored : Monitored)
    (before : monitored.intact = true → Present monitored.system)
    (intact : (Monitored.step applier action monitored).intact = true) :
    Present (Monitored.step applier action monitored).system := by
  have outcome := step_outcome applier action monitored.system
  simp only [Monitored.step] at intact ⊢
  generalize action.step applier monitored.system = after at outcome intact ⊢
  split_ifs at intact with same
  · obtain ⟨wasIntact, steady⟩ := (Bool.and_eq_true _ _).mp intact
    cases outcome with
    | apply outcome =>
      exact present_apply outcome fun _ => ⟨steady, before wasIntact⟩
    | clear outcome => exact present_clear outcome steady (before wasIntact)
  · cases outcome with
    | apply outcome => exact present_apply outcome fun unmoved => absurd unmoved same
    | clear outcome => exact present_clear_of_moved outcome same

end Nil

structure Accounted (applier : Applier) (monitored : Monitored) : Prop where
  recorded : Recorded applier monitored.system
  generation : GenerationRecorded monitored.system
  present : monitored.intact = true → Present monitored.system

theorem accounted_run (applier : Applier) (world : World) (actions : List Action) :
    Accounted applier (run (Monitored.step applier) actions ⟨newSystem world, true⟩) := by
  refine run_invariant (Monitored.step applier) (Accounted applier) (fun action monitored before =>
    ⟨recorded_step (step_outcome applier action _) before.recorded,
      generationRecorded_step (step_outcome applier action _) before.generation,
      present_step action monitored before.present⟩) actions ⟨?_, fun _ => rfl, fun _ => ?_⟩
  · intro applied stored
    cases stored
  · intro applied stored
    cases stored

/-- After every run, whenever `Apply` returns nil the data plane of the recorded
generation is there, provided that `Apply` advanced the generation or that every
step since it last changed was harmless. -/
theorem successful_apply_means_working (applier : Applier) (world : World) (actions : List Action)
    (monitored : Monitored)
    (reached : monitored = run (Monitored.step applier) actions ⟨newSystem world, true⟩)
    (ctx : Context) (snapshot : NetworkSnapshot) (verdicts : ApplyVerdicts)
    (succeeded : (apply applier ctx snapshot verdicts monitored.system).1 = .ok ())
    (intact : monitored.intact = true ∨ monitored.system.generation < snapshot.generation) :
    Working applier (apply applier ctx snapshot verdicts monitored.system).2 := by
  have accounted : Accounted applier monitored := by
    rw [reached]
    exact accounted_run applier world actions
  have outcome := apply_outcome applier ctx snapshot verdicts monitored.system
  rw [succeeded] at outcome
  generalize (apply applier ctx snapshot verdicts monitored.system).2 = after at outcome ⊢
  cases outcome with
  | current positive same =>
      have steady : monitored.intact = true := by
        rcases intact with steady | newer
        · exact steady
        · omega
      cases state : monitored.system.state with
      | none =>
          have zero := accounted.generation state
          omega
      | some applied =>
          obtain ⟨-, -, planned⟩ := accounted.recorded applied state
          obtain ⟨adapter, routes⟩ := accounted.present steady applied state
          exact ⟨applied, state, adapter, routes, planned⟩
  | advanced after luid applied positive newer planned wasUp read inPlace =>
      exact ⟨applied, rfl, ⟨_, inPlace.adapter, rfl⟩, inPlace.routes, snapshot, luid, planned, rfl⟩

/-- The same snapshot again after a `Clear` of which every call failed. -/
theorem successful_apply_means_working_after_failed_clear :
    Working plainApplier (apply plainApplier .live (plainSnapshot 1) calm
      (run (Monitored.step plainApplier)
        [.apply .live (plainSnapshot 1) calm,
          .clear .live ⟨.error (.failed "routes"), .error (.failed "down"),
            .error (.failed "delete")⟩] ⟨newSystem bareWorld, true⟩).system).2 :=
  successful_apply_means_working plainApplier bareWorld
    [.apply .live (plainSnapshot 1) calm,
      .clear .live ⟨.error (.failed "routes"), .error (.failed "down"),
        .error (.failed "delete")⟩] _ rfl .live (plainSnapshot 1) calm (by decide +kernel)
    (Or.inl (by decide +kernel))

/-- The same snapshot again after the adapter was deleted by a `Clear` that failed:
nil, and there is no adapter. -/
theorem apply_after_half_clear_has_no_adapter :
    (apply plainApplier .live (plainSnapshot 1) calm
      (run (Action.step plainApplier) halfCleared (newSystem bareWorld))).1 = .ok () ∧
    ¬Working plainApplier (apply plainApplier .live (plainSnapshot 1) calm
      (run (Action.step plainApplier) halfCleared (newSystem bareWorld))).2 := by
  refine ⟨by decide +kernel, fun working => ?_⟩
  have missing : (apply plainApplier .live (plainSnapshot 1) calm
      (run (Action.step plainApplier) halfCleared
        (newSystem bareWorld))).2.world.adapter = none := by
    decide +kernel
  obtain ⟨applied, -, ⟨device, present, -⟩, -⟩ := working
  rw [missing] at present
  cases present

end Ipv6Mesh.ReconcileTeardown
