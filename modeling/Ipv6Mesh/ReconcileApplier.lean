import Ipv6Mesh.ReconcilePlan

/-!
# The snapshot applier and its surroundings

`apply`, `clear` and `rollback` transcribe `Applier.Apply`, `Applier.Clear` and
`Applier.rollback` of `internal/reconcile/snapshot.go`. The adapter is what
`wgnt.Client` keeps of one adapter name: a handle that is not used again, a
configuration and an up or down state. The route manager replaces or removes
its address and routes as a whole. Each call comes with a verdict of its
surroundings, and a call that fails changes nothing.
-/

namespace Ipv6Mesh.ReconcileApplier

open ControlModel WgntApi ReconcilePlan

abbrev Handle := Nat

structure Device where
  configuration : Option Configuration
  up : Bool
deriving DecidableEq

structure NativeAdapter where
  handle : Handle
  device : Device
deriving DecidableEq

inductive Call where
  | ensure
  | status (handle : Handle)
  | configure (handle : Handle)
  | setUp (handle : Handle)
  | setDown (handle : Handle)
  | delete (handle : Handle)
  | reconcile
  | clearRoutes
deriving DecidableEq

/-- The adapter of the interface name, the overlay address and routes, and the calls made. -/
structure World where
  next : Handle
  adapter : Option NativeAdapter
  routes : Option (Address × List Route)
  calls : List Call
  started : 0 < next
  allocated : ∀ native, adapter = some native → 0 < native.handle ∧ native.handle < next

inductive CallError where
  | invalidHandle
  | failed (text : String)
deriving DecidableEq

abbrev Verdict := Except CallError Unit

inductive EnsureVerdict where
  | fails (err : CallError)
  | invalid
  | succeeds

def World.log (world : World) (call : Call) : World :=
  { world with calls := world.calls ++ [call] }

/-- The same handle while the adapter exists, otherwise a new adapter with a new handle. -/
def ensure (verdict : EnsureVerdict) (world : World) : Except CallError Handle × World :=
  match verdict with
  | .fails err => (.error err, world.log .ensure)
  | .invalid => (.ok 0, world.log .ensure)
  | .succeeds =>
    match world.adapter with
    | some native => (.ok native.handle, world.log .ensure)
    | none => (.ok world.next, {
        next := world.next + 1
        adapter := some ⟨world.next, ⟨none, false⟩⟩
        routes := world.routes
        calls := world.calls ++ [.ensure]
        started := Nat.succ_pos _
        allocated := by
          intro native same
          cases same
          exact ⟨world.started, Nat.lt_succ_self _⟩ })

def nativeLocked (handle : Handle) (world : World) : Option NativeAdapter :=
  if handle = 0 then none else world.adapter.filter fun native => native.handle = handle

def onHandle (call : Call) (handle : Handle) (verdict : Verdict)
    (effect : Device → Option Device) (world : World) : Except CallError Unit × World :=
  match nativeLocked handle world with
  | none => (.error .invalidHandle, world.log call)
  | some _ =>
    match verdict with
    | .error err => (.error err, world.log call)
    | .ok () => (.ok (), {
        next := world.next
        adapter := world.adapter.bind fun native =>
          (effect native.device).map fun device => ⟨native.handle, device⟩
        routes := world.routes
        calls := world.calls ++ [call]
        started := world.started
        allocated := by
          intro native same
          obtain ⟨before, stored, changed⟩ := Option.bind_eq_some_iff.mp same
          obtain ⟨device, -, rfl⟩ := Option.map_eq_some_iff.mp changed
          exact world.allocated before stored })

def configure (verdict : Verdict) (handle : Handle) (configuration : Configuration) :
    World → Except CallError Unit × World :=
  onHandle (.configure handle) handle verdict fun device =>
    some { device with configuration := some configuration }

def setUp (verdict : Verdict) (handle : Handle) : World → Except CallError Unit × World :=
  onHandle (.setUp handle) handle verdict fun device => some { device with up := true }

def setDown (verdict : Verdict) (handle : Handle) : World → Except CallError Unit × World :=
  onHandle (.setDown handle) handle verdict fun device => some { device with up := false }

def delete (verdict : Verdict) (handle : Handle) : World → Except CallError Unit × World :=
  onHandle (.delete handle) handle verdict fun _ => none

def status (verdict : Except CallError UInt64) (handle : Handle) (world : World) :
    Except CallError UInt64 × World :=
  match nativeLocked handle world with
  | none => (.error .invalidHandle, world.log (.status handle))
  | some _ => (verdict, world.log (.status handle))

def reconcile (verdict : Verdict) (address : Address) (routes : List Route) (world : World) :
    Except CallError Unit × World :=
  match verdict with
  | .error err => (.error err, world.log .reconcile)
  | .ok () => (.ok (), { world.log .reconcile with routes := some (address, routes) })

def clearRoutes (verdict : Verdict) (world : World) : Except CallError Unit × World :=
  match verdict with
  | .error err => (.error err, world.log .clearRoutes)
  | .ok () => (.ok (), { world.log .clearRoutes with routes := none })

structure AppliedState where
  handle : Handle
  up : Bool
  config : Configuration
  address : Address
  routes : List Route
  networkID : String
deriving DecidableEq

structure System where
  state : Option AppliedState
  generation : Int
  world : World

inductive ApplyError where
  | context (err : Error)
  | invalidOptions (detail : String)
  | invalidSnapshot (detail : String)
  | staleSnapshot (got current : Int)
  | plan (err : PlanError)
  | call (step : String) (err : CallError)
  | join (left right : ApplyError)
  | teardown (errs : List CallError)
deriving DecidableEq

def contextError : Context → Except ApplyError Unit
  | .nil => .error (.context (.sentinel .contextCanceled))
  | .live => .ok ()
  | .done err => .error (.context err)

def failedStep (step : String) : Except CallError Unit → List ApplyError
  | .ok () => []
  | .error err => [.call step err]

structure ApplyVerdicts where
  ensure : EnsureVerdict
  status : Except CallError UInt64
  reconcile : Verdict
  configure : Verdict
  setUp : Verdict
  restoreRoutes : Verdict
  restoreConfigure : Verdict
  restoreSetUp : Verdict
  undoRoutes : Verdict
  undoSetDown : Verdict
  undoDelete : Verdict

structure ClearVerdicts where
  routes : Verdict
  setDown : Verdict
  delete : Verdict

def restore (previous : AppliedState) (verdicts : ApplyVerdicts) (world : World) :
    List ApplyError × World :=
  let (routes, world) := reconcile verdicts.restoreRoutes previous.address previous.routes world
  let failures := failedStep "restore previous routes" routes
  match configure verdicts.restoreConfigure previous.handle previous.config world with
  | (.error err, world) =>
    (failures ++ [.call "restore previous WireGuard configuration" err], world)
  | (.ok (), world) =>
    if previous.up then
      let (up, world) := setUp verdicts.restoreSetUp previous.handle world
      (failures ++ failedStep "restore previous WireGuard state" up, world)
    else (failures, world)

def undo (handle : Handle) (verdicts : ApplyVerdicts) (world : World) :
    List ApplyError × World :=
  let (routes, world) := clearRoutes verdicts.undoRoutes world
  let (down, world) := setDown verdicts.undoSetDown handle world
  let (deleted, world) := delete verdicts.undoDelete handle world
  (failedStep "clear failed overlay routes" routes ++
    failedStep "restore WireGuard down state" down ++
    failedStep "delete failed WireGuard adapter" deleted, world)

def rollbackCalls (previous : Option AppliedState) (handle : Handle) (verdicts : ApplyVerdicts)
    (world : World) : List ApplyError × World :=
  match previous with
  | some previous => restore previous verdicts world
  | none => undo handle verdicts world

def rollback (previous : Option AppliedState) (handle : Handle) (verdicts : ApplyVerdicts)
    (original : ApplyError) (world : World) : ApplyError × World :=
  let (failures, world) := rollbackCalls previous handle verdicts world
  (failures.foldl .join original, world)

def onInterface (luid : UInt64) (address : Address) (routes : List Route) :
    Address × List Route :=
  ({ address with interfaceLUID := luid },
    routes.map fun route => { route with interfaceLUID := luid })

def replace (configuration : Configuration) (address : Address) (routes : List Route)
    (handle : Handle) (snapshot : NetworkSnapshot) (verdicts : ApplyVerdicts) (system : System) :
    Except ApplyError Unit × System :=
  match reconcile verdicts.reconcile address routes system.world with
  | (.error err, world) =>
    (.error (.call "reconcile overlay routes" err), { system with world })
  | (.ok (), world) =>
    match configure verdicts.configure handle configuration world with
    | (.error err, world) =>
      let (err, world) := rollback system.state handle verdicts
        (.call "configure WireGuard adapter" err) world
      (.error err, { system with world })
    | (.ok (), world) =>
      match setUp verdicts.setUp handle world with
      | (.error err, world) =>
        let (err, world) := rollback system.state handle verdicts
          (.call "bring WireGuard adapter up" err) world
        (.error err, { system with world })
      | (.ok (), world) => (.ok (), {
          state := some {
            handle := handle
            up := true
            config := configuration
            address := address
            routes := routes
            networkID := snapshot.networkID }
          generation := snapshot.generation
          world := world })

def applyPlan (configuration : Configuration) (address : Address) (routes : List Route)
    (snapshot : NetworkSnapshot) (verdicts : ApplyVerdicts) (system : System) :
    Except ApplyError Unit × System :=
  match ensure verdicts.ensure system.world with
  | (.error err, world) => (.error (.call "ensure WireGuard adapter" err), { system with world })
  | (.ok handle, world) =>
    if handle = 0 then
      (.error (.invalidOptions "adapter returned an invalid handle"), { system with world })
    else
      match status verdicts.status handle world with
      | (.error err, world) =>
        (.error (.call "read WireGuard adapter status" err), { system with world })
      | (.ok luid, world) =>
        if luid = 0 then
          (.error (.invalidSnapshot "adapter has no interface LUID"), { system with world })
        else
          let (address, routes) := onInterface luid address routes
          replace configuration address routes handle snapshot verdicts { system with world }

def apply (applier : Applier) (ctx : Context) (snapshot : NetworkSnapshot)
    (verdicts : ApplyVerdicts) (system : System) : Except ApplyError Unit × System :=
  match contextError ctx with
  | .error err => (.error err, system)
  | .ok () =>
    if snapshot.generation ≤ 0 then
      (.error (.invalidSnapshot "generation must be positive"), system)
    else if snapshot.generation < system.generation then
      (.error (.staleSnapshot snapshot.generation system.generation), system)
    else if snapshot.generation = system.generation then (.ok (), system)
    else
      match plan applier snapshot with
      | .error err => (.error (.plan err), system)
      | .ok (configuration, address, routes) =>
        applyPlan configuration address routes snapshot verdicts system

def teardown (applied : AppliedState) (verdicts : ClearVerdicts) (world : World) :
    List CallError × World :=
  let (routes, world) := clearRoutes verdicts.routes world
  let (down, world) := setDown verdicts.setDown applied.handle world
  let (deleted, world) := delete verdicts.delete applied.handle world
  ([routes, down, deleted].filterMap fun
    | .ok () => none
    | .error err => some err, world)

def clear (ctx : Context) (verdicts : ClearVerdicts) (system : System) :
    Except ApplyError Unit × System :=
  match contextError ctx with
  | .error err => (.error err, system)
  | .ok () =>
    match system.state with
    | none => (.ok (), system)
    | some applied =>
      match teardown applied verdicts system.world with
      | ([], world) => (.ok (), ⟨none, 0, world⟩)
      | (joined, world) => (.error (.teardown joined), { system with world })

inductive Action where
  | apply (ctx : Context) (snapshot : NetworkSnapshot) (verdicts : ApplyVerdicts)
  | clear (ctx : Context) (verdicts : ClearVerdicts)

def Action.outcome (applier : Applier) (action : Action) (system : System) :
    Except ApplyError Unit × System :=
  match action with
  | .apply ctx snapshot verdicts =>
    ReconcileApplier.apply applier ctx snapshot verdicts system
  | .clear ctx verdicts => ReconcileApplier.clear ctx verdicts system

def Action.step (applier : Applier) (action : Action) (system : System) : System :=
  (action.outcome applier system).2

def newSystem (world : World) : System := ⟨none, 0, world⟩

end Ipv6Mesh.ReconcileApplier
