import Ipv6Mesh.ServicePlane

/-!
# The reported generation

The status of a joined service carries the `ConfigVersion` of the enrollment
response. The reconciler is given snapshots that are fetched separately, one by
the join itself and one by every connect, and no request copies the generation
of a snapshot into the status.
-/

namespace Ipv6Mesh.ServiceGenerations

open GoFlow IpcProtocol ControlModel ServiceModel ServiceOutcomes ServicePlane

def applied : Call → Option NetworkSnapshot
  | .apply snapshot true => some snapshot
  | _ => none

def lastApplied (log : List Call) : Option NetworkSnapshot := (log.filterMap applied).getLast?

theorem lastApplied_append_apply (log calls : List Call) (snapshot : NetworkSnapshot) :
    lastApplied (log ++ (calls ++ [.apply snapshot true])) = some snapshot := by
  simp [lastApplied, List.filterMap_append, applied]

structure Recorded (run : Run) : Prop where
  stopped : run.service.started = false → run.service.joined = none
  reported : ∀ joined, run.service.joined = some joined →
    run.service.status.configGeneration = joined.configGeneration

variable {before : Service} {request : Request}

section Steps

variable {packages : Packages} {options : Options} {run : Run}

theorem recorded_start {live : Bool} {loaded : Option String} (recorded : Recorded run) :
    Recorded (step packages options (.start live loaded) run) := by
  rw [step]
  unfold start
  split_ifs with running
  · exact recorded
  · cases loaded with
    | none => exact recorded
    | some publicKey =>
      dsimp only
      split_ifs
      · exact recorded
      · have idle : run.service.joined = none := by
          refine recorded.stopped ?_
          rw [Bool.or_eq_true, not_or] at running
          exact Bool.eq_false_of_not_eq_true running.2
        refine ⟨fun stopped => (by cases stopped), fun joined held => ?_⟩
        rw [idle] at held
        cases held

theorem recorded_shutdown {outcomes : Outcomes} (recorded : Recorded run) :
    Recorded (step packages options (.shutdown outcomes) run) := by
  by_cases started : run.service.started = true
  · rw [step, shutdown, if_neg (by simp [started])]
    exact ⟨fun _ => rfl, fun joined held => by cases held⟩
  · rw [step, shutdown, if_pos (by simp [started])]
    exact ⟨recorded.stopped, recorded.reported⟩

theorem recorded_handle {live : Bool} {outcomes : Outcomes} (recorded : Recorded run) :
    Recorded (step packages options (.handle live request outcomes) run) := by
  by_cases started : run.service.started = true
  · have handling : Handling packages options outcomes live request run.service
        (handle packages options outcomes live request run.service) := handling_handle
    rw [step]
    generalize handle packages options outcomes live request run.service = handled at handling
    cases handling with
    | kept | compensated | stopped | connected | disconnected =>
      exact ⟨recorded.stopped, recorded.reported⟩
    | recorded idle client answered setup =>
      refine ⟨fun stopped => ?_, fun joined held => ?_⟩
      · exact absurd (started.symm.trans stopped) (by decide)
      · cases held
        rfl
    | left leaving answered => exact ⟨fun _ => rfl, fun joined held => (by cases held)⟩
  · have kept := handle_of_stopped packages options live request outcomes
      (Bool.eq_false_of_not_eq_true started)
    rw [step]
    constructor
    · rw [kept]
      exact recorded.stopped
    · rw [kept]
      exact recorded.reported

theorem recorded_step {action : Action} (recorded : Recorded run) :
    Recorded (step packages options action run) := by
  cases action with
  | start live loaded => exact recorded_start recorded
  | handle live request outcomes => exact recorded_handle recorded
  | shutdown outcomes => exact recorded_shutdown recorded

end Steps

theorem recorded_new : Recorded Run.new :=
  ⟨fun _ => rfl, fun joined held => by cases held⟩

def appliesSnapshot : Command → Bool
  | .join | .joinRoom | .connect => true
  | _ => false

/-- The generation of the enrollment that a join is answered with, or that a connect
finds on record. -/
def enrolledGeneration (outcomes : Outcomes) (request : Request) (before : Service) : Option Int :=
  match request.type with
  | .join => outcomes.join.toOption.map (·.configGeneration)
  | .joinRoom => outcomes.joinRoom.toOption.map (·.configGeneration)
  | .connect => before.joined.map (·.configGeneration)
  | _ => none

section Success

variable {packages : Packages} {options : Options} {outcomes : Outcomes} {live : Bool}
  {handled : Handled}

theorem announced_generation {response : Response} (command : appliesSnapshot request.type = true)
    (recorded : ∀ joined, before.joined = some joined →
      before.status.configGeneration = joined.configGeneration)
    (announces : Announces packages options outcomes request before response) :
    enrolledGeneration outcomes request before = some response.status.configGeneration := by
  unfold Announces at announces
  unfold enrolledGeneration
  cases kind : request.type <;> simp only [kind] at announces command ⊢
  case join =>
    obtain ⟨-, -, -, -, result, answered, -, rfl⟩ := announces
    rw [answered]
    rfl
  case joinRoom =>
    obtain ⟨-, -, -, -, result, answered, -, rfl⟩ := announces
    rw [answered]
    rfl
  case connect =>
    obtain ⟨⟨joined, held, -⟩, -, rfl⟩ := announces
    rw [held]
    exact congrArg some (recorded joined held).symm
  all_goals cases command

/-- A successful request of these commands ends with the application of the snapshot
it has fetched. -/
theorem applied_last (reconciler : options.reconciler = true)
    (command : appliesSnapshot request.type = true)
    (handling : Handling packages options outcomes live request before handled)
    (ok : handled.response.ok = true) :
    ∃ snapshot earlier, outcomes.snapshot = .ok snapshot ∧
      handled.calls = earlier ++ [.apply snapshot true] := by
  cases handling with
  | kept _ _ _ replies =>
    rcases replies with ⟨code, -, rfl⟩ | ⟨kind | kind, -⟩
    · cases ok
    · rw [kind] at command
      cases command
    · rw [kind] at command
      cases command
  | recorded _ _ _ _ applied =>
    obtain ⟨snapshot, fetched, rfl⟩ := applied reconciler
    exact ⟨snapshot, [_, _], fetched, rfl⟩
  | compensated => cases ok
  | stopped => cases ok
  | left leaving =>
    rw [leaving.command] at command
    cases command
  | connected calls _ _ applied =>
    obtain ⟨snapshot, -, rfl, fetched⟩ | ⟨other, -⟩ := applied
    · exact ⟨snapshot, calls, fetched, rfl⟩
    · rw [reconciler] at other
      cases other
  | disconnected _ _ _ kind =>
    rw [kind] at command
    cases command

end Success

def ReportsApplied (response : Response) (log : List Call) : Prop :=
  ∃ snapshot, lastApplied log = some snapshot ∧
    response.status.configGeneration = snapshot.generation

/-- The snapshot that is fetched for a request has the generation of its enrollment. -/
def SameGeneration (outcomes : Outcomes) (request : Request) (before : Service) : Prop :=
  ∃ snapshot, outcomes.snapshot = .ok snapshot ∧
    enrolledGeneration outcomes request before = some snapshot.generation

/-- After every run, a successful join, room join or connect reports the generation
in force exactly when its snapshot has the generation of its enrollment. -/
theorem reported_generation_in_force_iff (packages : Packages) (options : Options)
    (reconciler : options.reconciler = true) (actions : List Action) (live : Bool)
    (request : Request) (outcomes : Outcomes) (command : appliesSnapshot request.type = true)
    (ok : (handle packages options outcomes live request
      (run (step packages options) actions Run.new).service).response.ok = true) :
    let before := run (step packages options) actions Run.new
    let handled := handle packages options outcomes live request before.service
    ReportsApplied handled.response (before.log ++ handled.calls) ↔
      SameGeneration outcomes request before.service := by
  intro before handled
  have handling : Handling packages options outcomes live request before.service handled :=
    handling_handle
  have recorded : Recorded before :=
    run_invariant (step packages options) Recorded (fun _ _ => recorded_step) actions recorded_new
  obtain ⟨snapshot, earlier, fetched, made⟩ := applied_last reconciler command handling ok
  have announces : Announces packages options outcomes request before.service handled.response := by
    refine handling.replies.resolve_left ?_
    rintro ⟨code, -, failed⟩
    have success : handled.response.ok = true := ok
    rw [failed] at success
    cases success
  have enrolled := announced_generation command recorded.reported announces
  have last : lastApplied (before.log ++ handled.calls) = some snapshot := by
    rw [made]
    exact lastApplied_append_apply _ _ _
  unfold ReportsApplied SameGeneration
  rw [last, enrolled, fetched]
  simp

/-- The enrollment was answered at generation 1 and the snapshot is at generation 2. -/
def newerSnapshot : Outcomes :=
  { smooth with snapshot := .ok { emptySnapshot with generation := 2 } }

def joinDesk : Request := ⟨.join, "invite", "desk", "", ""⟩

theorem smooth_join_reports_generation_in_force :
    let before := run (step plainPackages fullOptions) [.start true (some "key")] Run.new
    let handled := handle plainPackages fullOptions smooth true joinDesk before.service
    ReportsApplied handled.response (before.log ++ handled.calls) :=
  (reported_generation_in_force_iff plainPackages fullOptions rfl [.start true (some "key")] true
    joinDesk smooth rfl (by decide +kernel)).mpr ⟨_, rfl, rfl⟩

theorem join_with_newer_snapshot_reports_old_generation :
    let before := run (step plainPackages fullOptions) [.start true (some "key")] Run.new
    let handled := handle plainPackages fullOptions newerSnapshot true joinDesk before.service
    handled.response.ok = true ∧ handled.response.status.configGeneration = 1 ∧
      (lastApplied (before.log ++ handled.calls)).map (·.generation) = some 2 := by
  decide +kernel

end Ipv6Mesh.ServiceGenerations
