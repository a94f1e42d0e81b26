import Ipv6Mesh.ReconcileApplier

/-!
# What the calls of the applier do

Each call of the adapter and of the route manager, the rollback, `Apply` and
`Clear` with everything they can do: `ApplyOutcome` and `ClearOutcome` list the
cases, and the invariants of runs are derived from those lists.
-/

namespace Ipv6Mesh.ReconcileOutcomes

open ControlModel WgntApi ReconcilePlan ReconcileApplier

structure Unchanged (before after : World) : Prop where
  next : after.next = before.next
  adapter : after.adapter = before.adapter
  routes : after.routes = before.routes

theorem unchanged_log (world : World) (call : Call) : Unchanged world (world.log call) :=
  ⟨rfl, rfl, rfl⟩

theorem Unchanged.trans {first second third : World} (left : Unchanged first second)
    (right : Unchanged second third) : Unchanged first third :=
  ⟨right.next.trans left.next, right.adapter.trans left.adapter, right.routes.trans left.routes⟩

variable {result : Except CallError Unit}
variable {device : Device}

section Calls

variable {call : Call} {handle : Handle} {verdict : Verdict} {effect : Device → Option Device}
variable {world after : World} {err : CallError}

theorem nativeLocked_eq_some {native : NativeAdapter}
    (locked : nativeLocked handle world = some native) :
    world.adapter = some ⟨handle, native.device⟩ := by
  unfold nativeLocked at locked
  split_ifs at locked
  obtain ⟨stored, named⟩ := Option.filter_eq_some_iff.mp locked
  rw [stored, ← of_decide_eq_true named]

theorem nativeLocked_of_adapter (stored : world.adapter = some ⟨handle, device⟩) :
    nativeLocked handle world = some ⟨handle, device⟩ := by
  have positive : handle ≠ 0 := Nat.pos_iff_ne_zero.mp (world.allocated _ stored).1
  simp [nativeLocked, positive, stored]

theorem onHandle_error (failed : onHandle call handle verdict effect world = (.error err, after)) :
    Unchanged world after := by
  unfold onHandle at failed
  split at failed
  · cases failed
    exact unchanged_log world call
  · split at failed
    · cases failed
      exact unchanged_log world call
    · cases failed

theorem onHandle_ok (succeeded : onHandle call handle verdict effect world = (.ok (), after)) :
    ∃ device, world.adapter = some ⟨handle, device⟩ ∧
      after.adapter = (effect device).map (NativeAdapter.mk handle) ∧
      after.routes = world.routes ∧ after.next = world.next := by
  unfold onHandle at succeeded
  split at succeeded
  · cases succeeded
  · rename_i native locked
    have stored := nativeLocked_eq_some locked
    split at succeeded
    · cases succeeded
    · cases succeeded
      exact ⟨native.device, stored, by simp [stored], rfl, rfl⟩

theorem onHandle_present (stored : world.adapter = some ⟨handle, device⟩) :
    (onHandle call handle verdict effect world).1 = verdict := by
  cases verdict with
  | error | ok => simp only [onHandle, nativeLocked_of_adapter stored]

theorem onHandle_frame (outcome : onHandle call handle verdict effect world = (result, after)) :
    after.routes = world.routes ∧ after.next = world.next := by
  cases result with
  | error err =>
    have same := onHandle_error outcome
    exact ⟨same.routes, same.next⟩
  | ok =>
    obtain ⟨-, -, -, routes, next⟩ := onHandle_ok outcome
    exact ⟨routes, next⟩

theorem onHandle_keeps {holds : Device → Prop} {change : Device → Device}
    (outcome : onHandle call handle verdict (fun device => some (change device)) world =
      (result, after))
    (kept : ∀ device, holds device → holds (change device)) {native : Handle}
    (present : ∃ device, world.adapter = some ⟨native, device⟩ ∧ holds device) :
    ∃ device, after.adapter = some ⟨native, device⟩ ∧ holds device := by
  cases result with
  | error err =>
    rw [(onHandle_error outcome).adapter]
    exact present
  | ok =>
    obtain ⟨device, stored, changed, -⟩ := onHandle_ok outcome
    obtain ⟨held, same, holding⟩ := present
    rw [stored] at same
    cases same
    exact ⟨change device, changed, kept device holding⟩

variable {routes : List Route}

theorem reconcile_frame {address : Address}
    (outcome : reconcile verdict address routes world = (result, after)) :
    after.adapter = world.adapter ∧ after.next = world.next := by
  cases verdict <;> cases outcome <;> exact ⟨rfl, rfl⟩

theorem clearRoutes_frame (outcome : clearRoutes verdict world = (result, after)) :
    after.adapter = world.adapter ∧ after.next = world.next := by
  cases verdict <;> cases outcome <;> exact ⟨rfl, rfl⟩

theorem reconcile_error {address : Address}
    (failed : reconcile verdict address routes world = (.error err, after)) :
    Unchanged world after := by
  cases verdict with
  | error =>
    cases failed
    exact unchanged_log world .reconcile
  | ok => cases failed

theorem reconcile_ok {address : Address}
    (succeeded : reconcile verdict address routes world = (.ok (), after)) :
    verdict = .ok () ∧ after.next = world.next ∧ after.adapter = world.adapter ∧
      after.routes = some (address, routes) := by
  cases verdict with
  | error => cases succeeded
  | ok =>
    cases succeeded
    exact ⟨rfl, rfl, rfl, rfl⟩

theorem clearRoutes_ok (succeeded : clearRoutes verdict world = (.ok (), after)) :
    after.next = world.next ∧ after.adapter = world.adapter ∧ after.routes = none := by
  cases verdict with
  | error => cases succeeded
  | ok =>
    cases succeeded
    exact ⟨rfl, rfl, rfl⟩

theorem status_unchanged {verdict : Except CallError UInt64} {result : Except CallError UInt64}
    (read : status verdict handle world = (result, after)) : Unchanged world after := by
  unfold status at read
  split at read
  · cases read
    exact unchanged_log world _
  · cases read
    exact unchanged_log world _

theorem status_present {verdict : Except CallError UInt64}
    (stored : world.adapter = some ⟨handle, device⟩) :
    (status verdict handle world).1 = verdict := by
  rw [status, nativeLocked_of_adapter stored]

structure Ensured (before after : World) (handle : Handle) (device : Device) : Prop where
  adapter : after.adapter = some ⟨handle, device⟩
  routes : after.routes = before.routes
  origin : (before.adapter = some ⟨handle, device⟩ ∧ after.next = before.next) ∨
    (before.adapter = none ∧ handle = before.next ∧ device = ⟨none, false⟩ ∧
      after.next = before.next + 1)

theorem Ensured.unchanged {first second third : World}
    (ensured : Ensured first second handle device) (same : Unchanged second third) :
    Ensured first third handle device where
  adapter := same.adapter.trans ensured.adapter
  routes := same.routes.trans ensured.routes
  origin := by
    rw [same.next]
    exact ensured.origin

theorem ensure_error {verdict : EnsureVerdict}
    (failed : ensure verdict world = (.error err, after)) : Unchanged world after := by
  unfold ensure at failed
  split at failed
  · cases failed
    exact unchanged_log world _
  · cases failed
  · split at failed <;> cases failed

theorem ensure_ok {verdict : EnsureVerdict}
    (succeeded : ensure verdict world = (.ok handle, after)) :
    (handle = 0 ∧ Unchanged world after) ∨
      (handle ≠ 0 ∧ verdict = .succeeds ∧ ∃ device, Ensured world after handle device) := by
  unfold ensure at succeeded
  split at succeeded
  · cases succeeded
  · cases succeeded
    exact Or.inl ⟨rfl, unchanged_log world _⟩
  · right
    split at succeeded
    · rename_i native stored
      cases succeeded
      have positive := (world.allocated native stored).1
      exact ⟨Nat.pos_iff_ne_zero.mp positive, rfl, native.device,
        ⟨stored, rfl, Or.inl ⟨stored, rfl⟩⟩⟩
    · rename_i missing
      cases succeeded
      exact ⟨Nat.pos_iff_ne_zero.mp world.started, rfl, ⟨none, false⟩,
        ⟨rfl, rfl, Or.inr ⟨missing, rfl, rfl, rfl⟩⟩⟩

end Calls

def RolledBack : Except ApplyError Unit → Prop
  | .error (.join _ _) => False
  | _ => True

variable {failures : List ApplyError}

theorem foldl_join_plain {original : ApplyError}
    (complete : RolledBack (.error (failures.foldl .join original))) : failures = [] := by
  rcases failures.eq_nil_or_concat with rfl | ⟨first, last, rfl⟩
  · rfl
  · rw [List.concat_eq_append, List.foldl_append] at complete
    exact complete.elim

theorem failedStep_eq_nil {step : String} :
    failedStep step result = [] ↔ result = .ok () := by
  cases result <;> simp [failedStep]

section Rollback

variable {handle : Handle} {verdicts : ApplyVerdicts} {world after : World}
variable {previous : AppliedState}

theorem restore_complete (wasUp : previous.up = true)
    (restored : restore previous verdicts world = ([], after)) :
    after.next = world.next ∧
      after.adapter = some ⟨previous.handle, ⟨some previous.config, true⟩⟩ ∧
      after.routes = some (previous.address, previous.routes) := by
  unfold restore at restored
  rcases routed : reconcile verdicts.restoreRoutes previous.address previous.routes world with
    ⟨routes, first⟩
  rw [routed] at restored
  dsimp only at restored
  split at restored
  · simp at restored
  · rename_i second configured
    rw [if_pos wasUp] at restored
    rcases raised : setUp verdicts.restoreSetUp previous.handle second with ⟨up, third⟩
    rw [raised] at restored
    simp only [Prod.mk.injEq, List.append_eq_nil_iff, failedStep_eq_nil] at restored
    obtain ⟨⟨rfl, rfl⟩, rfl⟩ := restored
    obtain ⟨-, firstNext, -, firstRoutes⟩ := reconcile_ok routed
    obtain ⟨device, -, secondAdapter, secondRoutes, secondNext⟩ := onHandle_ok configured
    obtain ⟨raisedDevice, present, thirdAdapter, thirdRoutes, thirdNext⟩ := onHandle_ok raised
    rw [secondAdapter] at present
    cases present
    exact ⟨thirdNext.trans (secondNext.trans firstNext), thirdAdapter,
      thirdRoutes.trans (secondRoutes.trans firstRoutes)⟩

theorem undo_complete (undone : undo handle verdicts world = ([], after)) :
    after.next = world.next ∧ after.adapter = none ∧ after.routes = none := by
  unfold undo at undone
  rcases cleared : clearRoutes verdicts.undoRoutes world with ⟨routes, first⟩
  rw [cleared] at undone
  dsimp only at undone
  rcases lowered : setDown verdicts.undoSetDown handle first with ⟨down, second⟩
  rw [lowered] at undone
  dsimp only at undone
  rcases removed : delete verdicts.undoDelete handle second with ⟨deleted, third⟩
  rw [removed] at undone
  simp only [Prod.mk.injEq, List.append_eq_nil_iff, failedStep_eq_nil] at undone
  obtain ⟨⟨⟨rfl, rfl⟩, rfl⟩, rfl⟩ := undone
  obtain ⟨firstNext, -, firstRoutes⟩ := clearRoutes_ok cleared
  obtain ⟨-, -, -, secondRoutes, secondNext⟩ := onHandle_ok lowered
  obtain ⟨-, -, thirdAdapter, thirdRoutes, thirdNext⟩ := onHandle_ok removed
  exact ⟨thirdNext.trans (secondNext.trans firstNext), thirdAdapter,
    thirdRoutes.trans (secondRoutes.trans firstRoutes)⟩

theorem restore_keeps {holds : Device → Prop}
    (outcome : restore previous verdicts world = (failures, after))
    (configured : ∀ device configuration, holds device →
      holds { device with configuration := some configuration })
    (raised : ∀ device, holds device → holds { device with up := true })
    (present : ∃ device, world.adapter = some ⟨handle, device⟩ ∧ holds device) :
    ∃ device, after.adapter = some ⟨handle, device⟩ ∧ holds device := by
  unfold restore at outcome
  rcases routed : reconcile verdicts.restoreRoutes previous.address previous.routes world with
    ⟨routes, first⟩
  rw [routed] at outcome
  rw [← (reconcile_frame routed).1] at present
  dsimp only at outcome
  split at outcome
  · rename_i err second failed
    cases outcome
    exact onHandle_keeps failed (fun device => configured device previous.config) present
  · rename_i second succeeded
    have kept := onHandle_keeps succeeded (fun device => configured device previous.config) present
    split_ifs at outcome
    · rcases lifted : setUp verdicts.restoreSetUp previous.handle second with ⟨up, third⟩
      rw [lifted] at outcome
      cases outcome
      exact onHandle_keeps lifted raised kept
    · cases outcome
      exact kept

theorem restore_frame (outcome : restore previous verdicts world = (failures, after)) :
    after.next = world.next ∧ (verdicts.restoreRoutes = .ok () →
      after.routes = some (previous.address, previous.routes)) := by
  unfold restore at outcome
  rcases routed : reconcile verdicts.restoreRoutes previous.address previous.routes world with
    ⟨routes, first⟩
  rw [routed] at outcome
  have firstNext := (reconcile_frame routed).2
  have firstRoutes : verdicts.restoreRoutes = .ok () →
      first.routes = some (previous.address, previous.routes) := by
    intro verdict
    rw [verdict] at routed
    cases routed
    rfl
  dsimp only at outcome
  split at outcome
  · rename_i err second failed
    cases outcome
    obtain ⟨routes, next⟩ := onHandle_frame failed
    exact ⟨next.trans firstNext, fun verdict => routes.trans (firstRoutes verdict)⟩
  · rename_i second succeeded
    obtain ⟨secondRoutes, secondNext⟩ := onHandle_frame succeeded
    split_ifs at outcome
    · rcases lifted : setUp verdicts.restoreSetUp previous.handle second with ⟨up, third⟩
      rw [lifted] at outcome
      cases outcome
      obtain ⟨thirdRoutes, thirdNext⟩ := onHandle_frame lifted
      exact ⟨thirdNext.trans (secondNext.trans firstNext), fun verdict =>
        thirdRoutes.trans (secondRoutes.trans (firstRoutes verdict))⟩
    · cases outcome
      exact ⟨secondNext.trans firstNext, fun verdict =>
        secondRoutes.trans (firstRoutes verdict)⟩

end Rollback

def Prepared (verdicts : ApplyVerdicts) : Prop :=
  (∃ luid, verdicts.status = .ok luid ∧ luid ≠ 0) ∧ verdicts.reconcile = .ok ()

/-- `Apply` gets past its own checks, up to `Ensure`. -/
def attempts (applier : Applier) (ctx : Context) (snapshot : NetworkSnapshot)
    (before : System) : Bool :=
  ReconcileApplier.contextError ctx = .ok () && 0 < snapshot.generation &&
    before.generation < snapshot.generation && (plan applier snapshot).toOption.isSome

/-- `Apply` has the adapter and the routes, but `Configure` or `SetUp` fails. -/
def Broken (verdicts : ApplyVerdicts) : Prop :=
  verdicts.ensure = .succeeds ∧ Prepared verdicts ∧
    ¬(verdicts.configure = .ok () ∧ verdicts.setUp = .ok ())

def recorded (snapshot : NetworkSnapshot) (handle : Handle) (luid : UInt64)
    (configuration : Configuration) (address : Address) (routes : List Route) : AppliedState :=
  { handle := handle
    up := true
    config := configuration
    address := (onInterface luid address routes).1
    routes := (onInterface luid address routes).2
    networkID := snapshot.networkID }

/-- A recorded state is the plan of a snapshot on the interface its adapter reported. -/
def PlanOf (applier : Applier) (snapshot : NetworkSnapshot) (luid : UInt64)
    (applied : AppliedState) : Prop :=
  ∃ configuration address routes, plan applier snapshot = .ok (configuration, address, routes) ∧
    applied = recorded snapshot applied.handle luid configuration address routes

structure InPlace (applied : AppliedState) (world : World) : Prop where
  adapter : world.adapter = some ⟨applied.handle, ⟨some applied.config, true⟩⟩
  routes : world.routes = some (applied.address, applied.routes)

inductive ApplyOutcome (applier : Applier) (ctx : Context) (snapshot : NetworkSnapshot)
    (verdicts : ApplyVerdicts) (before : System) : Except ApplyError Unit → System → Prop
  | refused (err : ApplyError) :
      ApplyOutcome applier ctx snapshot verdicts before (.error err) before
  | current (positive : 0 < snapshot.generation)
      (same : snapshot.generation = before.generation) :
      ApplyOutcome applier ctx snapshot verdicts before (.ok ()) before
  | noAdapter (err : ApplyError) (world : World)
      (unchanged : Unchanged before.world world) :
      ApplyOutcome applier ctx snapshot verdicts before (.error err) { before with world }
  | halted (err : ApplyError) (world : World) (handle : Handle)
      (device : Device) (ensured : Ensured before.world world handle device)
      (attempted : attempts applier ctx snapshot before = true)
      (asked : verdicts.ensure = .succeeds) (unprepared : ¬Prepared verdicts) :
      ApplyOutcome applier ctx snapshot verdicts before (.error err) { before with world }
  | rolledBack (original : ApplyError) (failures : List ApplyError)
      (prepared reached world : World) (handle : Handle) (device : Device)
      (ensured : Ensured before.world prepared handle device) (next : reached.next = prepared.next)
      (adapter : ∃ configuration, reached.adapter =
        some ⟨handle, { device with configuration := configuration }⟩)
      (calls : rollbackCalls before.state handle verdicts reached = (failures, world))
      (attempted : attempts applier ctx snapshot before = true) (broken : Broken verdicts) :
      ApplyOutcome applier ctx snapshot verdicts before (.error (failures.foldl .join original))
        { before with world }
  | advanced (world : World) (luid : UInt64) (applied : AppliedState)
      (positive : 0 < snapshot.generation) (newer : before.generation < snapshot.generation)
      (planned : PlanOf applier snapshot luid applied) (wasUp : applied.up = true)
      (read : verdicts.status = .ok luid) (inPlace : InPlace applied world)
      (later : before.world.next ≤ world.next) :
      ApplyOutcome applier ctx snapshot verdicts before (.ok ())
        ⟨some applied, snapshot.generation, world⟩

variable {before after : World} {handle : Handle}

theorem Ensured.adapter_of_present {native : NativeAdapter}
    (ensured : Ensured before after handle device) (present : before.adapter = some native) :
    after.adapter = some native := by
  rcases ensured.origin with ⟨stored, -⟩ | ⟨missing, -⟩
  · exact ensured.adapter.trans (stored.symm.trans present)
  · rw [present] at missing
    cases missing

theorem Ensured.next_le (ensured : Ensured before after handle device) :
    before.next ≤ after.next := by
  rcases ensured.origin with ⟨-, same⟩ | ⟨-, -, -, grown⟩
  · exact same.ge
  · rw [grown]
    exact Nat.le_succ _

theorem InPlace.unchanged {state : AppliedState} (inPlace : InPlace state before)
    (same : Unchanged before after) : InPlace state after :=
  ⟨same.adapter.trans inPlace.adapter, same.routes.trans inPlace.routes⟩

theorem InPlace.ensured {state : AppliedState} (inPlace : InPlace state before)
    (ensured : Ensured before after handle device) : InPlace state after :=
  ⟨ensured.adapter_of_present inPlace.adapter, ensured.routes.trans inPlace.routes⟩

section Apply

variable {applier : Applier} {ctx : Context} {snapshot : NetworkSnapshot}
  {verdicts : ApplyVerdicts} {before system : System} {handle : Handle} {device : Device}
  {luid : UInt64} {configuration : Configuration} {address : Address} {routes : List Route}

theorem attempts_eq_true :
    attempts applier ctx snapshot before = true ↔ ReconcileApplier.contextError ctx = .ok () ∧
      0 < snapshot.generation ∧ before.generation < snapshot.generation ∧
      (plan applier snapshot).toOption.isSome = true := by
  simp [attempts, and_assoc]

theorem replace_outcome {world : World}
    (planned : plan applier snapshot = .ok (configuration, address, routes))
    (attempted : attempts applier ctx snapshot before = true)
    (asked : verdicts.ensure = .succeeds) (read : verdicts.status = .ok luid) (valid : luid ≠ 0)
    (ensured : Ensured before.world world handle device)
    {result : Except ApplyError Unit} {after : System}
    (outcome : replace configuration (onInterface luid address routes).1
      (onInterface luid address routes).2 handle snapshot verdicts { before with world } =
        (result, after)) :
    ApplyOutcome applier ctx snapshot verdicts before result after := by
  unfold replace at outcome
  split at outcome
  · rename_i err first failed
    cases outcome
    have unprepared : ¬Prepared verdicts := by
      intro prepared
      rw [prepared.2] at failed
      cases failed
    exact .halted _ first handle device (ensured.unchanged (reconcile_error failed)) attempted
      asked unprepared
  · rename_i first routed
    obtain ⟨reconciled, firstNext, firstAdapter, firstRoutes⟩ := reconcile_ok routed
    have prepared : Prepared verdicts := ⟨⟨luid, read, valid⟩, reconciled⟩
    split at outcome
    · rename_i err second failed
      have same := onHandle_error failed
      have refused : verdicts.configure ≠ .ok () := by
        have verdict : (configure verdicts.configure handle configuration first).1 =
          verdicts.configure := onHandle_present (firstAdapter.trans ensured.adapter)
        rw [← verdict, failed]
        exact nofun
      rcases calls : rollbackCalls before.state handle verdicts second with ⟨failures, third⟩
      simp only [rollback, calls] at outcome
      cases outcome
      refine .rolledBack _ failures world second third handle device ensured
        (same.next.trans firstNext) ⟨device.configuration, ?_⟩ calls attempted
        ⟨asked, prepared, fun accepted => refused accepted.1⟩
      exact same.adapter.trans (firstAdapter.trans ensured.adapter)
    · rename_i second configured
      obtain ⟨present, stored, secondAdapter, secondRoutes, secondNext⟩ := onHandle_ok configured
      rw [firstAdapter, ensured.adapter] at stored
      cases stored
      split at outcome
      · rename_i err third failed
        have same := onHandle_error failed
        have refused : verdicts.setUp ≠ .ok () := by
          have verdict : (setUp verdicts.setUp handle second).1 = verdicts.setUp :=
            onHandle_present secondAdapter
          rw [← verdict, failed]
          exact nofun
        rcases calls : rollbackCalls before.state handle verdicts third with ⟨failures, fourth⟩
        simp only [rollback, calls] at outcome
        cases outcome
        exact .rolledBack _ failures world third fourth handle device ensured
          (same.next.trans (secondNext.trans firstNext)) ⟨some configuration,
            same.adapter.trans secondAdapter⟩ calls attempted
          ⟨asked, prepared, fun accepted => refused accepted.2⟩
      · rename_i third raised
        obtain ⟨lifted, stored, thirdAdapter, thirdRoutes, thirdNext⟩ := onHandle_ok raised
        rw [secondAdapter] at stored
        cases stored
        cases outcome
        obtain ⟨-, positive, newer, -⟩ := attempts_eq_true.mp attempted
        refine .advanced third luid _ positive newer
          ⟨configuration, address, routes, planned, rfl⟩ rfl read ⟨thirdAdapter, ?_⟩ ?_
        · exact thirdRoutes.trans (secondRoutes.trans firstRoutes)
        · rw [thirdNext, secondNext, firstNext]
          exact ensured.next_le

theorem applyPlan_outcome
    (planned : plan applier snapshot = .ok (configuration, address, routes))
    (attempted : attempts applier ctx snapshot before = true)
    {result : Except ApplyError Unit} {after : System}
    (outcome : applyPlan configuration address routes snapshot verdicts before =
      (result, after)) :
    ApplyOutcome applier ctx snapshot verdicts before result after := by
  unfold applyPlan at outcome
  split at outcome
  · rename_i err first failed
    cases outcome
    exact .noAdapter _ first (ensure_error failed)
  · rename_i handle first succeeded
    rcases ensure_ok succeeded with ⟨rfl, unchanged⟩ | ⟨valid, asked, device, ensured⟩
    · cases outcome
      exact .noAdapter _ first unchanged
    · rw [if_neg valid] at outcome
      have verdict : (status verdicts.status handle first).1 = verdicts.status :=
        status_present ensured.adapter
      split at outcome
      · rename_i err second failed
        rw [failed] at verdict
        cases outcome
        have unprepared : ¬Prepared verdicts := by
          rintro ⟨⟨luid, read, -⟩, -⟩
          rw [read] at verdict
          cases verdict
        exact .halted _ second handle device
          (ensured.unchanged (status_unchanged failed)) attempted asked unprepared
      · rename_i luid second read
        have still := ensured.unchanged (status_unchanged read)
        rw [read] at verdict
        split_ifs at outcome with zero
        · cases outcome
          have unprepared : ¬Prepared verdicts := by
            rintro ⟨⟨other, same, nonzero⟩, -⟩
            rw [same] at verdict
            exact nonzero (by rw [← Except.ok.inj verdict, zero])
          exact .halted _ second handle device still attempted asked unprepared
        · exact replace_outcome planned attempted asked verdict.symm zero still outcome

theorem apply_outcome (applier : Applier) (ctx : Context) (snapshot : NetworkSnapshot)
    (verdicts : ApplyVerdicts) (before : System) :
    ApplyOutcome applier ctx snapshot verdicts before
      (apply applier ctx snapshot verdicts before).1
      (apply applier ctx snapshot verdicts before).2 := by
  rcases outcome : apply applier ctx snapshot verdicts before with ⟨result, after⟩
  dsimp only
  unfold apply at outcome
  split at outcome
  · rename_i err stopped
    cases outcome
    exact .refused err
  · rename_i live
    split_ifs at outcome with nonpositive stale same
    · cases outcome
      exact .refused _
    · cases outcome
      exact .refused _
    · cases outcome
      exact .current (not_le.mp nonpositive) same
    · split at outcome
      · cases outcome
        exact .refused _
      · rename_i configuration address routes planned
        refine applyPlan_outcome planned (attempts_eq_true.mpr ⟨live, by omega, by omega, ?_⟩)
          outcome
        rw [planned]
        rfl

theorem apply_refuses (ctx : Context)
    (refused : snapshot.generation ≤ 0 ∨ snapshot.generation < before.generation) :
    ∃ err, apply applier ctx snapshot verdicts before = (.error err, before) := by
  unfold apply
  split
  · rename_i err stopped
    exact ⟨err, rfl⟩
  · split_ifs with nonpositive stale same
    · exact ⟨_, rfl⟩
    · exact ⟨_, rfl⟩
    · omega
    · omega

end Apply

section Clear

variable {applied : AppliedState} {verdicts : ClearVerdicts} {world after : World}
variable {errs : List CallError}

theorem teardown_steps (outcome : teardown applied verdicts world = (errs, after)) :
    ∃ routes down deleted first second, clearRoutes verdicts.routes world = (routes, first) ∧
      setDown verdicts.setDown applied.handle first = (down, second) ∧
      delete verdicts.delete applied.handle second = (deleted, after) ∧
      (errs = [] ↔ routes = .ok () ∧ down = .ok () ∧ deleted = .ok ()) := by
  unfold teardown at outcome
  rcases cleared : clearRoutes verdicts.routes world with ⟨routes, first⟩
  rw [cleared] at outcome
  dsimp only at outcome
  rcases lowered : setDown verdicts.setDown applied.handle first with ⟨down, second⟩
  rw [lowered] at outcome
  dsimp only at outcome
  rcases removed : delete verdicts.delete applied.handle second with ⟨deleted, third⟩
  rw [removed] at outcome
  cases outcome
  refine ⟨routes, down, deleted, first, second, rfl, lowered, removed, ?_⟩
  cases routes <;> cases down <;> cases deleted <;> simp

theorem teardown_complete (outcome : teardown applied verdicts world = ([], after)) :
    after.adapter = none ∧ after.routes = none ∧ after.next = world.next := by
  obtain ⟨routes, down, deleted, first, second, cleared, lowered, removed, empty⟩ :=
    teardown_steps outcome
  obtain ⟨rfl, rfl, rfl⟩ := empty.mp rfl
  obtain ⟨firstNext, -, firstRoutes⟩ := clearRoutes_ok cleared
  obtain ⟨-, -, -, secondRoutes, secondNext⟩ := onHandle_ok lowered
  obtain ⟨-, -, thirdAdapter, thirdRoutes, thirdNext⟩ := onHandle_ok removed
  exact ⟨thirdAdapter, thirdRoutes.trans (secondRoutes.trans firstRoutes),
    thirdNext.trans (secondNext.trans firstNext)⟩

theorem teardown_present (outcome : teardown applied verdicts world = (errs, after))
    (stored : world.adapter = some ⟨applied.handle, device⟩) :
    errs = [] ↔ verdicts.routes = .ok () ∧ verdicts.setDown = .ok () ∧
      verdicts.delete = .ok () := by
  obtain ⟨routes, down, deleted, first, second, cleared, lowered, removed, empty⟩ :=
    teardown_steps outcome
  have firstStored : first.adapter = some ⟨applied.handle, device⟩ :=
    (clearRoutes_frame cleared).1.trans stored
  obtain ⟨left, secondStored, -⟩ : ∃ left, second.adapter = some ⟨applied.handle, left⟩ ∧ True :=
    onHandle_keeps lowered (fun _ _ => trivial) ⟨device, firstStored, trivial⟩
  have routesVerdict : routes = verdicts.routes := by
    cases verdict : verdicts.routes <;> rw [verdict] at cleared <;> cases cleared <;> rfl
  have downVerdict : down = verdicts.setDown :=
    (congrArg Prod.fst lowered).symm.trans (onHandle_present firstStored)
  have deletedVerdict : deleted = verdicts.delete :=
    (congrArg Prod.fst removed).symm.trans (onHandle_present secondStored)
  rw [empty, routesVerdict, downVerdict, deletedVerdict]

theorem teardown_missing (outcome : teardown applied verdicts world = (errs, after))
    (missing : ∀ device, world.adapter ≠ some ⟨applied.handle, device⟩) : errs ≠ [] := by
  obtain ⟨routes, down, deleted, first, second, cleared, lowered, removed, empty⟩ :=
    teardown_steps outcome
  intro none
  obtain ⟨-, rfl, -⟩ := empty.mp none
  obtain ⟨device, stored, -⟩ := onHandle_ok lowered
  exact missing device ((clearRoutes_frame cleared).1.symm.trans stored)

theorem teardown_keeps (outcome : teardown applied verdicts world = (errs, after))
    (failed : verdicts.delete ≠ .ok ())
    (present : ∃ device, world.adapter = some ⟨handle, device⟩) :
    ∃ device, after.adapter = some ⟨handle, device⟩ := by
  obtain ⟨routes, down, deleted, first, second, cleared, lowered, removed, -⟩ :=
    teardown_steps outcome
  obtain ⟨device, stored⟩ := present
  have firstStored := (clearRoutes_frame cleared).1.trans stored
  obtain ⟨left, secondStored, -⟩ : ∃ left, second.adapter = some ⟨handle, left⟩ ∧ True :=
    onHandle_keeps lowered (fun _ _ => trivial) ⟨device, firstStored, trivial⟩
  cases deleted with
  | error err => exact ⟨left, (onHandle_error removed).adapter.trans secondStored⟩
  | ok =>
    obtain ⟨gone, kept, -⟩ := onHandle_ok removed
    have verdict : (delete verdicts.delete applied.handle second).1 = verdicts.delete :=
      onHandle_present kept
    rw [removed] at verdict
    exact absurd verdict.symm failed

theorem teardown_untouched (outcome : teardown applied verdicts world = (errs, after))
    (routesFail : verdicts.routes ≠ .ok ()) (downFails : verdicts.setDown ≠ .ok ())
    (deleteFails : verdicts.delete ≠ .ok ()) : Unchanged world after := by
  obtain ⟨routes, down, deleted, first, second, cleared, lowered, removed, -⟩ :=
    teardown_steps outcome
  have fails : ∀ {call handle verdict effect start stop} {result : Except CallError Unit},
      onHandle call handle verdict effect start = (result, stop) → verdict ≠ .ok () →
        Unchanged start stop := by
    intro call handle verdict effect start stop result called failing
    cases result with
    | error err => exact onHandle_error called
    | ok =>
      obtain ⟨device, stored, -⟩ := onHandle_ok called
      have same : (onHandle call handle verdict effect start).1 = verdict :=
        onHandle_present stored
      rw [called] at same
      exact absurd same.symm failing
  have firstSame : Unchanged world first := by
    cases verdict : verdicts.routes with
    | error err =>
      rw [verdict] at cleared
      cases cleared
      exact unchanged_log world _
    | ok => exact absurd verdict routesFail
  exact (firstSame.trans (fails lowered downFails)).trans (fails removed deleteFails)

inductive ClearOutcome (ctx : Context) (verdicts : ClearVerdicts) (before : System) :
    Except ApplyError Unit → System → Prop
  | stopped (err : ApplyError) (stopped : ReconcileApplier.contextError ctx = .error err) :
      ClearOutcome ctx verdicts before (.error err) before
  | idle (nothing : before.state = none) : ClearOutcome ctx verdicts before (.ok ()) before
  | cleared (applied : AppliedState) (stored : before.state = some applied) (world : World)
      (calls : teardown applied verdicts before.world = ([], world)) :
      ClearOutcome ctx verdicts before (.ok ()) ⟨none, 0, world⟩
  | partly (applied : AppliedState) (stored : before.state = some applied) (world : World)
      (errs : List CallError) (someFailed : errs ≠ [])
      (live : ReconcileApplier.contextError ctx = .ok ())
      (calls : teardown applied verdicts before.world = (errs, world)) :
      ClearOutcome ctx verdicts before (.error (.teardown errs)) { before with world }

theorem clear_outcome (ctx : Context) (verdicts : ClearVerdicts) (before : System) :
    ClearOutcome ctx verdicts before (clear ctx verdicts before).1
      (clear ctx verdicts before).2 := by
  rcases outcome : clear ctx verdicts before with ⟨result, after⟩
  dsimp only
  unfold clear at outcome
  split at outcome
  · rename_i err stopped
    cases outcome
    exact .stopped err stopped
  · rename_i live
    split at outcome
    · rename_i nothing
      cases outcome
      exact .idle nothing
    · rename_i applied stored
      split at outcome
      · rename_i world calls
        cases outcome
        exact .cleared applied stored world calls
      · rename_i errs world left calls
        cases outcome
        exact .partly applied stored world errs left live calls

end Clear

inductive StepOutcome (applier : Applier) (before : System) : Action → System → Prop
  | apply {ctx : Context} {snapshot : NetworkSnapshot} {verdicts : ApplyVerdicts}
      {result : Except ApplyError Unit} {after : System}
      (outcome : ApplyOutcome applier ctx snapshot verdicts before result after) :
      StepOutcome applier before (.apply ctx snapshot verdicts) after
  | clear {ctx : Context} {verdicts : ClearVerdicts} {result : Except ApplyError Unit}
      {after : System} (outcome : ClearOutcome ctx verdicts before result after) :
      StepOutcome applier before (.clear ctx verdicts) after

theorem step_outcome (applier : Applier) (action : Action) (before : System) :
    StepOutcome applier before action (action.step applier before) := by
  cases action with
  | apply ctx snapshot verdicts => exact .apply (apply_outcome applier ctx snapshot verdicts before)
  | clear ctx verdicts => exact .clear (clear_outcome ctx verdicts before)

end Ipv6Mesh.ReconcileOutcomes
