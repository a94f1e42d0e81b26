import Ipv6Mesh.ServiceOutcomes

/-!
# The reported path and the data plane

The reconciler and the adapter are seen through the calls of a run: the last
successful one says whether the overlay is in place. The report follows it
except after a leave that took the overlay down and then failed: such a leave
keeps the status of the service, and the status still says that the path is up.
-/

namespace Ipv6Mesh.ServicePlane

open GoFlow IpcProtocol ControlModel ServiceModel ServiceOutcomes

inductive Plane where
  | applied
  | cleared
  deriving DecidableEq, Repr

def effect : Call → Option Plane
  | .apply _ true => some .applied
  | .clear true => some .cleared
  | .disconnect _ true => some .cleared
  | _ => none

def planeAfter (calls : List Call) (plane : Option Plane) : Option Plane :=
  calls.foldl (fun plane call => (effect call).or plane) plane

def lastOperation (log : List Call) : Option Plane := planeAfter log none

theorem lastOperation_append (log calls : List Call) :
    lastOperation (log ++ calls) = planeAfter calls (lastOperation log) := by
  simp [lastOperation, planeAfter]

theorem planeAfter_append (first second : List Call) (plane : Option Plane) :
    planeAfter (first ++ second) plane = planeAfter second (planeAfter first plane) := by
  simp [planeAfter]

theorem planeAfter_inert {calls : List Call} (inert : ∀ call ∈ calls, effect call = none)
    (plane : Option Plane) : planeAfter calls plane = plane := by
  induction calls generalizing plane with
  | nil => rfl
  | cons call calls ih =>
    obtain ⟨head, rest⟩ := List.forall_mem_cons.mp inert
    rw [planeAfter, List.foldl_cons, head]
    exact ih rest plane

theorem effect_of_quiet {call : Call} (quiet : Quiet call) : effect call = none := by
  cases call with
  | apply _ succeeded | clear succeeded | disconnect _ succeeded => obtain rfl := quiet; rfl
  | _ => rfl

variable {outcomes : Outcomes}

theorem planeAfter_takedown {options : Options} {networkID : String} {before : Service}
    (reported : before.status.pathState ≠ pathStateDisconnected) (adapter : options.adapter = true)
    (disconnected : outcomes.disconnect = true) (plane : Option Plane) :
    planeAfter (takedown options outcomes networkID before) plane = some .cleared := by
  cases reconciler : options.reconciler <;> cases cleared : outcomes.clear <;>
    simp [takedown, reported, adapter, disconnected, reconciler, cleared, planeAfter, effect]

/-- A service that reports a path has applied a configuration last. -/
def InStep (run : Run) : Prop :=
  run.service.started = true → run.service.status.pathState ≠ pathStateDisconnected →
    lastOperation run.log = some .applied

/-- A leave of the joined network that disconnects a reported path and fails afterwards. -/
def Abandons (action : Action) (run : Run) : Prop :=
  match action with
  | .handle live request outcomes =>
    live = true ∧ run.service.started = true ∧ request.type = .leave ∧
      (run.service.joined.map (·.networkID)) = some request.networkID ∧
      run.service.status.pathState ≠ pathStateDisconnected ∧ outcomes.disconnect = true ∧
      (outcomes.clear = false ∨ outcomes.leave.isOk = false)
  | .start _ _ | .shutdown _ => False

structure Good (options : Options) (run : Run) : Prop where
  inStep : InStep run
  idle : run.service.started = true → run.service.joined = none →
    run.service.status.pathState = pathStateDisconnected
  client : run.service.joined.isSome = true → options.control.isSome = true

theorem good_new (options : Options) : Good options Run.new :=
  ⟨fun started => absurd started (by decide), fun started => absurd started (by decide),
    fun joined => absurd joined (by decide)⟩

section Steps

variable {packages : Packages} {options : Options} {run : Run}

theorem inStep_of_disconnected {run : Run}
    (reported : run.service.status.pathState = pathStateDisconnected) : InStep run :=
  fun _ other => absurd reported other

theorem good_start {live : Bool} {loaded : Option String} (good : Good options run) :
    Good options (step packages options (.start live loaded) run) := by
  rw [step]
  unfold start
  split_ifs
  · exact good
  · cases loaded with
    | none => exact good
    | some publicKey =>
      dsimp only
      split_ifs
      · exact good
      · exact ⟨inStep_of_disconnected rfl, fun _ _ => rfl, good.client⟩

theorem good_shutdown (good : Good options run) :
    Good options (step packages options (.shutdown outcomes) run) := by
  by_cases started : run.service.started = true
  · rw [step, shutdown, if_neg (by simp [started])]
    exact ⟨inStep_of_disconnected rfl, fun _ _ => rfl, fun joined => by cases joined⟩
  · rw [step, shutdown, if_pos (by simp [started])]
    dsimp only
    rw [List.append_nil]
    exact good

theorem good_handle {live : Bool} {request : Request} (adapter : options.adapter = true)
    (reconciler : options.reconciler = true)
    (completes : ¬Abandons (.handle live request outcomes) run) (good : Good options run) :
    Good options (step packages options (.handle live request outcomes) run) := by
  have handling : Handling packages options outcomes live request run.service
      (handle packages options outcomes live request run.service) := handling_handle
  rw [step]
  generalize handle packages options outcomes live request run.service = handled at handling
  cases handling with
  | kept quiet asked few =>
    refine ⟨fun started reported => ?_, good.idle, good.client⟩
    rw [lastOperation_append, planeAfter_inert fun call made => effect_of_quiet (quiet call made)]
    exact good.inStep started reported
  | recorded idle client answered setup =>
    exact ⟨inStep_of_disconnected rfl, fun _ absent => (by cases absent), fun _ => client⟩
  | compensated idle answered setup =>
    refine ⟨fun started reported => ?_, good.idle, good.client⟩
    exact absurd (good.idle started idle) reported
  | stopped code tail leaving failed told =>
    refine ⟨fun started reported => ?_, good.idle, good.client⟩
    exfalso
    obtain ⟨joined, held, same⟩ := leaving.joined
    have known : options.control.isNone = false := by
      have client := good.client (by rw [held]; rfl)
      simpa [← Option.not_isSome] using client
    refine completes ⟨leaving.live, started, leaving.command, by simp [held, same], reported,
      leaving.disconnected (by simp [reported, adapter]), ?_⟩
    rcases failed with ⟨-, unclear⟩ | unset | ⟨error, answered⟩
    · exact .inl unclear
    · rw [known] at unset
      cases unset
    · exact .inr (by rw [answered]; rfl)
  | left leaving answered =>
    exact ⟨inStep_of_disconnected rfl, fun _ _ => rfl, fun joined => by cases joined⟩
  | connected calls joined quiet applied =>
    refine ⟨fun _ _ => ?_, fun _ absent => ?_, good.client⟩
    · obtain ⟨snapshot, -, rfl, -⟩ | ⟨other, -⟩ := applied
      · change lastOperation (run.log ++ (calls ++ [.apply snapshot true])) = _
        rw [lastOperation_append, planeAfter_append]
        rfl
      · rw [reconciler] at other
        cases other
    · change run.service.joined = none at absent
      rw [absent] at joined
      cases joined
  | disconnected joined cleared =>
    exact ⟨inStep_of_disconnected rfl, fun _ _ => rfl, good.client⟩

theorem good_step {action : Action} (adapter : options.adapter = true)
    (reconciler : options.reconciler = true) (completes : ¬Abandons action run)
    (good : Good options run) : Good options (step packages options action run) := by
  cases action with
  | start live loaded => exact good_start good
  | handle live request outcomes => exact good_handle adapter reconciler completes good
  | shutdown outcomes => exact good_shutdown good

theorem leaveJoined_stops (networkID : String) (before : Service)
    (reconciler : options.reconciler = true) (disconnected : outcomes.disconnect = true)
    (failed : outcomes.clear = false ∨ outcomes.leave.isOk = false) :
    ∃ tail, (∀ call ∈ tail, effect call = none) ∧
      (leaveJoined options outcomes networkID before).service = before ∧
      (leaveJoined options outcomes networkID before).calls =
        takedown options outcomes networkID before ++ tail := by
  simp only [leaveJoined]
  rw [if_neg (by simp [disconnected])]
  by_cases unclear : (options.reconciler && !outcomes.clear) = true
  · rw [if_pos unclear]
    exact ⟨[], by simp, rfl, (List.append_nil _).symm⟩
  · rw [if_neg unclear]
    by_cases unset : options.control.isNone = true
    · rw [if_pos unset]
      exact ⟨[], by simp, rfl, (List.append_nil _).symm⟩
    · rw [if_neg unset]
      have refused : outcomes.leave.isOk = false := by
        refine failed.resolve_left fun down => unclear ?_
        rw [reconciler, down]
        rfl
      cases answered : outcomes.leave with
      | error error => exact ⟨[.leave networkID (.error error)], by simp [effect], rfl, rfl⟩
      | ok =>
        rw [answered] at refused
        cases refused

theorem not_inStep_of_abandons {action : Action} (adapter : options.adapter = true)
    (reconciler : options.reconciler = true) (abandons : Abandons action run) :
    ¬InStep (step packages options action run) := by
  cases action with
  | start live loaded => exact absurd abandons id
  | shutdown outcomes => exact absurd abandons id
  | handle live request outcomes =>
    obtain ⟨alive, started, command, held, reported, disconnected, failed⟩ := abandons
    obtain ⟨joined, stored, same⟩ := Option.map_eq_some_iff.mp held
    have handled : handle packages options outcomes live request run.service =
        leaveJoined options outcomes request.networkID run.service := by
      simp [handle, alive, started, command, leave, withJoined, stored, same]
    obtain ⟨tail, inert, kept, calls⟩ := leaveJoined_stops request.networkID run.service
      reconciler disconnected failed
    intro inStep
    simp only [InStep, step, handled, kept, calls] at inStep
    have last := inStep started reported
    rw [lastOperation_append, planeAfter_append, planeAfter_inert inert,
      planeAfter_takedown reported adapter disconnected] at last
    cases last

end Steps

section Runs

variable (packages : Packages) (options : Options)

/-- In every run without an abandoned leave the report and the data plane are
in step, and the next action breaks them apart exactly when it is one. -/
theorem path_in_step_iff_no_leave_abandoned (adapter : options.adapter = true)
    (reconciler : options.reconciler = true) (actions : List Action)
    (complete : StepsMeet (step packages options) (fun action run => ¬Abandons action run) actions
      Run.new) :
    InStep (run (step packages options) actions Run.new) ∧
      ∀ action, InStep (run (step packages options) (actions ++ [action]) Run.new) ↔
        ¬Abandons action (run (step packages options) actions Run.new) := by
  have good : Good options (run (step packages options) actions Run.new) :=
    run_invariant_of_stepsMeet (step packages options) (Good options)
      (fun _ _ completes good => good_step adapter reconciler completes good) complete
      (good_new options)
  refine ⟨good.inStep, fun action => ?_⟩
  rw [run_append]
  constructor
  · intro inStep abandons
    exact not_inStep_of_abandons adapter reconciler abandons inStep
  · intro completes
    exact (good_step adapter reconciler completes good).inStep

end Runs

def plainPackages : Packages := ⟨fun _ => none, fun _ => "", id⟩

def fullOptions : Options := ⟨true, some ⟨true, true⟩, "", true, true⟩

def emptySnapshot : NetworkSnapshot := ⟨"net", 1, 1, "a", [10, 0, 0, 1], [], none, none, 1⟩

def refusal : ControlError := ⟨none, false, false, false⟩

def smooth : Outcomes :=
  ⟨.ok ⟨"", "net", "10.0.0.1", 1⟩, .ok ⟨"", "net", "10.0.0.1", 1⟩, .ok (), .ok emptySnapshot,
    true, true, true, true⟩

def connectedActions : List Action :=
  [.start true (some "key"), .handle true ⟨.join, "invite", "desk", "", ""⟩ smooth,
    .handle true ⟨.connect, "", "", "", "net"⟩ smooth]

instance (action : Action) (run : Run) : Decidable (Abandons action run) :=
  match action with
  | .start _ _ => isFalse id
  | .shutdown _ => isFalse id
  | .handle _ _ _ => by unfold Abandons; infer_instance

theorem connected_path_in_step :
    (run (step plainPackages fullOptions) connectedActions Run.new).service.status.pathState =
        pathStateDirect ∧
      InStep (run (step plainPackages fullOptions) connectedActions Run.new) := by
  have complete : StepsMeet (step plainPackages fullOptions)
      (fun action run => ¬Abandons action run) connectedActions Run.new := by
    refine ⟨?_, ?_, ?_, trivial⟩ <;> decide +kernel
  exact ⟨by decide +kernel,
    (path_in_step_iff_no_leave_abandoned plainPackages fullOptions rfl rfl connectedActions
      complete).1⟩

/-- The control plane refuses the leave after the overlay is down. -/
theorem refused_leave_reports_path_over_cleared_plane :
    let actions := connectedActions ++
      [.handle true ⟨.leave, "", "", "", "net"⟩ { smooth with leave := .error refusal }]
    let reached := run (step plainPackages fullOptions) actions Run.new
    reached.service.started = true ∧ reached.service.status.pathState = pathStateDirect ∧
      lastOperation reached.log = some .cleared := by
  decide +kernel

end Ipv6Mesh.ServicePlane
