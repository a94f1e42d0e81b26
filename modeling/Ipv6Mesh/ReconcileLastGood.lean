import Ipv6Mesh.PlanExactness
import Ipv6Mesh.ReconcileOutcomes

/-!
# The last known good configuration

Along a run of `Apply` calls with arbitrary failures and of successful `Clear`
calls, in which every call that a rollback makes succeeds, the surroundings hold
the plan of the snapshot that last advanced the generation.
-/

namespace Ipv6Mesh.ReconcileLastGood

open GoFlow ControlModel ReconcilePlan ReconcileApplier ReconcileOutcomes
open PlanExactness (plainApplier plainSnapshot)

/-- The system, and the snapshot of the last `Apply` since the last `Clear` that
advanced the generation, with the interface LUID that its adapter reported. -/
structure History where
  system : System
  last : Option (NetworkSnapshot × UInt64)

def History.step (applier : Applier) (action : Action) (history : History) : History where
  system := action.step applier history.system
  last :=
    match action with
    | .apply _ snapshot verdicts =>
      if (action.step applier history.system).generation = history.system.generation then
        history.last
      else verdicts.status.toOption.map fun luid => (snapshot, luid)
    | .clear _ _ => none

/-- An apply that fails is rolled back, and a clear does not fail. -/
def Allowed (applier : Applier) (action : Action) (system : System) : Prop :=
  match action with
  | .apply ctx snapshot verdicts =>
    RolledBack (ReconcileApplier.apply applier ctx snapshot verdicts system).1
  | .clear ctx verdicts => (ReconcileApplier.clear ctx verdicts system).1 = .ok ()

inductive LastGood (applier : Applier) : History → Prop
  | unapplied (world : World) : LastGood applier ⟨⟨none, 0, world⟩, none⟩
  | applied (state : AppliedState) (world : World) (snapshot : NetworkSnapshot) (luid : UInt64)
      (positive : 0 < snapshot.generation) (wasUp : state.up = true)
      (planned : PlanOf applier snapshot luid state) (inPlace : InPlace state world) :
      LastGood applier ⟨⟨some state, snapshot.generation, world⟩, some (snapshot, luid)⟩

section Steps

variable {applier : Applier} {history : History}

theorem LastGood.withWorld {world : World} (good : LastGood applier history)
    (kept : ∀ state, history.system.state = some state → state.up = true →
      InPlace state history.system.world → InPlace state world) :
    LastGood applier ⟨{ history.system with world }, history.last⟩ := by
  cases good with
  | unapplied => exact .unapplied world
  | applied state before snapshot luid positive wasUp planned inPlace =>
    exact .applied state world snapshot luid positive wasUp planned
      (kept state rfl wasUp inPlace)

theorem lastGood_apply (good : LastGood applier history) (ctx : Context)
    (snapshot : NetworkSnapshot) (verdicts : ApplyVerdicts)
    (allowed : Allowed applier (.apply ctx snapshot verdicts) history.system) :
    LastGood applier (History.step applier (.apply ctx snapshot verdicts) history) := by
  have outcome := apply_outcome applier ctx snapshot verdicts history.system
  rw [Allowed] at allowed
  rcases called : apply applier ctx snapshot verdicts history.system with ⟨result, after⟩
  have stepped : (Action.apply ctx snapshot verdicts).step applier history.system = after := by
    rw [Action.step, Action.outcome, called]
  rw [called] at outcome allowed
  simp only [History.step, stepped]
  cases outcome with
  | refused | current =>
    rw [if_pos rfl]
    exact good
  | noAdapter err world unchanged =>
    rw [if_pos rfl]
    exact good.withWorld fun state _ _ inPlace => inPlace.unchanged unchanged
  | halted err world handle device ensured =>
    rw [if_pos rfl]
    exact good.withWorld fun state _ _ inPlace => inPlace.ensured ensured
  | rolledBack original failures prepared reached world handle device ensured next adapter calls =>
    rw [if_pos rfl]
    obtain rfl := foldl_join_plain allowed
    refine good.withWorld fun state stored wasUp inPlace => ?_
    rw [stored] at calls
    obtain ⟨-, restored, routes⟩ := restore_complete wasUp calls
    exact ⟨restored, routes⟩
  | advanced world luid applied positive newer planned wasUp read inPlace later =>
    have moved : snapshot.generation ≠ history.system.generation := by omega
    rw [if_neg moved, read]
    exact .applied applied world snapshot luid positive wasUp planned inPlace

theorem lastGood_clear (good : LastGood applier history) (ctx : Context)
    (verdicts : ClearVerdicts) (allowed : Allowed applier (.clear ctx verdicts) history.system) :
    LastGood applier (History.step applier (.clear ctx verdicts) history) := by
  have outcome := clear_outcome ctx verdicts history.system
  rw [Allowed] at allowed
  simp only [History.step, Action.step, Action.outcome]
  rw [allowed] at outcome
  generalize (clear ctx verdicts history.system).2 = after at outcome ⊢
  cases outcome with
  | idle nothing =>
    cases good with
    | unapplied world => exact .unapplied world
    | applied => cases nothing
  | cleared applied stored world calls => exact .unapplied world

theorem lastGood_run (actions : List Action) (good : LastGood applier history)
    (allowed : StepsMeet (Action.step applier) (Allowed applier) actions history.system) :
    LastGood applier (run (History.step applier) actions history) := by
  induction actions generalizing history with
  | nil => exact good
  | cons action actions ih =>
    apply ih
    · cases action with
      | apply ctx snapshot verdicts => exact lastGood_apply good ctx snapshot verdicts allowed.1
      | clear ctx verdicts => exact lastGood_clear good ctx verdicts allowed.1
    · exact allowed.2

theorem apply_generation_le {ctx : Context} {snapshot : NetworkSnapshot} {verdicts : ApplyVerdicts}
    {system after : System} {result : Except ApplyError Unit}
    (outcome : ApplyOutcome applier ctx snapshot verdicts system result after) :
    system.generation ≤ after.generation := by
  cases outcome with
  | advanced world luid applied positive newer => exact newer.le
  | _ => exact le_refl _

end Steps

/-- What holds after every call: the adapter is up with the planned configuration
of the last snapshot that advanced the generation, its address and routes are
there, and its generation is the recorded one. -/
def KeepsLastGood (applier : Applier) (history : History) : Prop :=
  ∀ snapshot luid, history.last = some (snapshot, luid) →
    ∃ handle configuration address routes,
      plan applier snapshot = .ok (configuration, address, routes) ∧
      history.system.world.adapter = some ⟨handle, ⟨some configuration, true⟩⟩ ∧
      history.system.world.routes = some (onInterface luid address routes) ∧
      history.system.generation = snapshot.generation

theorem LastGood.keeps {applier : Applier} {history : History} (good : LastGood applier history) :
    KeepsLastGood applier history := by
  intro snapshot luid last
  cases good with
  | unapplied => cases last
  | applied state world advanced reported positive wasUp planned inPlace =>
    cases last
    obtain ⟨configuration, address, routes, plans, same⟩ := planned
    rw [same] at inPlace
    exact ⟨_, configuration, address, routes, plans, inPlace.adapter, inPlace.routes, rfl⟩

/-- In every run from any surroundings the last known good configuration is kept,
the next `Apply` does not take the generation back, and one with a non-positive
or an older generation returns an error and makes no call. -/
theorem applier_keeps_last_good (applier : Applier) (world : World) (actions : List Action)
    (allowed : StepsMeet (Action.step applier) (Allowed applier) actions (newSystem world))
    (history : History)
    (reached : history = run (History.step applier) actions ⟨newSystem world, none⟩) :
    KeepsLastGood applier history ∧
    ∀ (ctx : Context) (snapshot : NetworkSnapshot) (verdicts : ApplyVerdicts),
      history.system.generation ≤
        (apply applier ctx snapshot verdicts history.system).2.generation ∧
      (snapshot.generation ≤ 0 ∨ snapshot.generation < history.system.generation →
        ∃ err, apply applier ctx snapshot verdicts history.system =
          (.error err, history.system)) := by
  have good := lastGood_run actions (LastGood.unapplied world) allowed
  rw [reached]
  refine ⟨good.keeps, fun ctx snapshot verdicts => ?_⟩
  exact ⟨apply_generation_le (apply_outcome applier ctx snapshot verdicts _), apply_refuses ctx⟩

instance (result : Except ApplyError Unit) : Decidable (RolledBack result) :=
  match result with
  | .ok () => isTrue trivial
  | .error (.join _ _) => isFalse fun complete => complete
  | .error (.context _) => isTrue trivial
  | .error (.invalidOptions _) => isTrue trivial
  | .error (.invalidSnapshot _) => isTrue trivial
  | .error (.staleSnapshot _ _) => isTrue trivial
  | .error (.plan _) => isTrue trivial
  | .error (.call _ _) => isTrue trivial
  | .error (.teardown _) => isTrue trivial

instance (applier : Applier) (action : Action) (system : System) :
    Decidable (Allowed applier action system) :=
  match action with
  | .apply ctx snapshot verdicts => inferInstanceAs (Decidable
      (RolledBack (ReconcileApplier.apply applier ctx snapshot verdicts system).1))
  | .clear ctx verdicts => inferInstanceAs (Decidable
      ((ReconcileApplier.clear ctx verdicts system).1 = .ok ()))

def bareWorld : World where
  next := 1
  adapter := none
  routes := none
  calls := []
  started := by decide
  allocated := by
    intro native stored
    cases stored

def calm : ApplyVerdicts :=
  { ensure := .succeeds, status := .ok 77, reconcile := .ok (), configure := .ok (),
    setUp := .ok (), restoreRoutes := .ok (), restoreConfigure := .ok (), restoreSetUp := .ok (),
    undoRoutes := .ok (), undoSetDown := .ok (), undoDelete := .ok () }

def failedReplacement : List Action :=
  [.apply .live (plainSnapshot 1) calm,
    .apply .live (plainSnapshot 2) { calm with configure := .error (.failed "replacement") }]

/-- After a replacement that failed at the configuration the first snapshot is in place. -/
theorem applier_keeps_last_good_after_failure :
    (run (History.step plainApplier) failedReplacement ⟨newSystem bareWorld, none⟩).last =
      some (plainSnapshot 1, 77) ∧
    KeepsLastGood plainApplier
      (run (History.step plainApplier) failedReplacement ⟨newSystem bareWorld, none⟩) :=
  ⟨by decide +kernel, (applier_keeps_last_good plainApplier bareWorld failedReplacement
    (by decide +kernel) _ rfl).1⟩

end Ipv6Mesh.ReconcileLastGood
