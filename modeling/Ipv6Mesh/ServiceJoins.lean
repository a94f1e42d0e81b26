import Ipv6Mesh.ServiceOutcomes

/-!
# Joins are recorded or compensated

A join that the control plane accepted is either the join on record when the
request returns, or it has been taken back by one `Leave` for its network. The
law is stated for each request of a run, over the calls that it made.
-/

namespace Ipv6Mesh.ServiceJoins

open GoFlow IpcProtocol ServiceModel ServiceOutcomes

structure Recorded (request : Request) (result : JoinResult) (handled : Handled) : Prop where
  joined : handled.service.joined = some (recordOf request result)
  status : handled.service.status = joinedStatus result
  response : handled.response = successResponse (joinedStatus result)

structure Compensated (before : Service) (handled : Handled) : Prop where
  joined : handled.service.joined = before.joined
  status : handled.service.status = before.status
  response : handled.response.ok = false

structure JoinLaw (request : Request) (before : Service) (handled : Handled) : Prop where
  /-- `rest` are the calls that the request makes after the join. -/
  settled : ∀ first call rest result, handled.calls = first ++ call :: rest →
    joinResult call = some result →
      (Recorded request result handled ∧ rest.filter isLeave = []) ∨
      (Compensated before handled ∧
        ∃ answer, rest.filter isLeave = [.leave result.networkID answer])
  single : (handled.calls.filter isJoin).length ≤ 1
  idle : ∀ call ∈ handled.calls, isJoin call = true → before.joined = none
  unset : ∀ joined, before.joined = some joined → handled.service.joined = none →
    request.type = .leave ∧ request.networkID = joined.networkID ∧
      .leave joined.networkID (.ok ()) ∈ handled.calls

section Calls

variable {call : Call}

theorem isJoin_of_joinResult {result : JoinResult} (answered : joinResult call = some result) :
    isJoin call = true := by
  cases call with
  | join request answer => rfl
  | joinRoom request answer => rfl
  | _ => cases answered

theorem isJoin_of_setup (setup : Setup call) : isJoin call = false := by
  cases call with
  | join request answer => exact absurd setup id
  | joinRoom request answer => exact absurd setup id
  | _ => rfl

theorem isLeave_of_setup (setup : Setup call) : isLeave call = false := by
  cases call with
  | leave networkID answer => exact absurd setup id
  | _ => rfl

theorem filter_isLeave_setup {calls : List Call} (setup : ∀ call ∈ calls, Setup call) :
    calls.filter isLeave = [] :=
  List.filter_eq_nil_iff.mpr fun call made => by simp [isLeave_of_setup (setup call made)]

theorem filter_isJoin_eq_nil {calls : List Call} (other : ∀ call ∈ calls, isJoin call = false) :
    calls.filter isJoin = [] :=
  List.filter_eq_nil_iff.mpr fun call made => by simp [other call made]

theorem joinResult_of_quiet (quiet : Quiet call) : joinResult call = none := by
  cases call with
  | join _ answer | joinRoom _ answer =>
    cases answer with
    | error error => rfl
    | ok result => exact absurd quiet id
  | _ => rfl

theorem isJoin_takedown {options : Options} {outcomes : Outcomes} {networkID : String}
    {before : Service} (made : call ∈ takedown options outcomes networkID before) :
    isJoin call = false := by
  rw [takedown, List.mem_append] at made
  rcases made with made | made
  · split_ifs at made
    · rw [List.mem_singleton.mp made]
      rfl
    · cases made
  · split_ifs at made
    · rw [List.mem_singleton.mp made]
      rfl
    · cases made

theorem split_at_join {head : Call} {rest first after : List Call}
    (others : ∀ call ∈ rest, isJoin call = false) (joins : isJoin call = true)
    (split : head :: rest = first ++ call :: after) : call = head ∧ after = rest := by
  cases first with
  | nil =>
    obtain ⟨same, tail⟩ := List.cons.inj split
    exact ⟨same.symm, tail.symm⟩
  | cons other first =>
    have later : call ∈ rest := by
      rw [(List.cons.inj split).2]
      simp
    rw [others call later] at joins
    cases joins

theorem single_join {head : Call} {rest : List Call}
    (others : ∀ call ∈ rest, isJoin call = false) :
    ((head :: rest).filter isJoin).length ≤ 1 := by
  rw [List.filter_cons, filter_isJoin_eq_nil others]
  split_ifs <;> simp

end Calls

section Law

variable {packages : Packages} {options : Options} {request : Request} {before : Service}
variable {handled : Handled}

theorem joinLaw_of_no_join (other : ∀ call ∈ handled.calls, isJoin call = false)
    (unset : ∀ joined, before.joined = some joined → handled.service.joined = none →
      request.type = .leave ∧ request.networkID = joined.networkID ∧
        .leave joined.networkID (.ok ()) ∈ handled.calls) :
    JoinLaw request before handled := by
  refine ⟨fun first call rest result split answered => ?_, ?_, fun call made joins => ?_, unset⟩
  · have made : call ∈ handled.calls := by simp [split]
    have joins := isJoin_of_joinResult answered
    rw [other call made] at joins
    cases joins
  · rw [filter_isJoin_eq_nil other]
    exact Nat.zero_le 1
  · rw [other call made] at joins
    cases joins

theorem joinLaw_of_handling {outcomes : Outcomes} {live : Bool}
    (handling : Handling packages options outcomes live request before handled) :
    JoinLaw request before handled := by
  cases handling with
  | @kept response calls quiet asked few =>
    refine ⟨fun first call rest result split answered => ?_, few, asked,
      fun joined held absent => ?_⟩
    · have made : call ∈ calls := by
        change calls = first ++ call :: rest at split
        simp [split]
      rw [joinResult_of_quiet (quiet call made)] at answered
      cases answered
    · rw [held] at absent
      cases absent
  | @recorded head result calls idle client answered setup =>
    have others := fun call made => isJoin_of_setup (setup call made)
    refine ⟨fun first call rest other split joined => ?_, single_join others,
      fun _ _ _ => idle, fun joined held _ => ?_⟩
    · obtain ⟨rfl, rfl⟩ := split_at_join others (isJoin_of_joinResult joined) split
      obtain rfl := Option.some.inj (answered.symm.trans joined)
      exact .inl ⟨⟨rfl, rfl, rfl⟩, filter_isLeave_setup setup⟩
    · rw [idle] at held
      cases held
  | @compensated head result calls code idle answered setup =>
    have others : ∀ call ∈ calls ++ [.leave result.networkID outcomes.leave],
        isJoin call = false := by
      intro call made
      rcases List.mem_append.mp made with made | made
      · exact isJoin_of_setup (setup call made)
      · rw [List.mem_singleton.mp made]
        rfl
    refine ⟨fun first call rest other split joined => ?_, single_join others,
      fun _ _ _ => idle, fun joined held _ => ?_⟩
    · obtain ⟨rfl, rfl⟩ := split_at_join others (isJoin_of_joinResult joined) split
      obtain rfl := Option.some.inj (answered.symm.trans joined)
      refine .inr ⟨⟨rfl, rfl, rfl⟩, outcomes.leave, ?_⟩
      rw [List.filter_append, filter_isLeave_setup setup]
      rfl
    · rw [idle] at held
      cases held
  | stopped code tail leaving failed told =>
    refine joinLaw_of_no_join (fun call made => ?_) fun joined held absent => ?_
    · rcases List.mem_append.mp made with made | made
      · exact isJoin_takedown made
      · rw [told call made]
        rfl
    · rw [held] at absent
      cases absent
  | left leaving answered =>
    refine joinLaw_of_no_join (fun call made => ?_) fun joined held _ => ?_
    · rcases List.mem_append.mp made with made | made
      · exact isJoin_takedown made
      · rw [List.mem_singleton.mp made]
        rfl
    · obtain ⟨known, stored, same⟩ := leaving.joined
      obtain rfl := Option.some.inj (stored.symm.trans held)
      exact ⟨leaving.command, same, by simp [same]⟩
  | connected calls joined quiet applied =>
    refine joinLaw_of_no_join (fun call made => ?_) fun known held absent => ?_
    · rcases List.mem_append.mp made with made | made
      · exact isJoin_of_setup (quiet call made)
      · obtain ⟨snapshot, -, rfl, -⟩ | ⟨-, rfl⟩ := applied <;>
          rw [List.mem_singleton.mp made] <;> rfl
    · change before.joined = none at absent
      rw [held] at absent
      cases absent
  | disconnected joined cleared =>
    refine joinLaw_of_no_join (fun call made => ?_) fun known held absent => ?_
    · rw [List.mem_singleton.mp made]
      obtain rfl | rfl := cleared <;> rfl
    · change before.joined = none at absent
      rw [held] at absent
      cases absent

/-- What each action of a run owes; a shutdown makes no join and is free to
forget the one on record. -/
def Lawful (packages : Packages) (options : Options) (action : Action) (before : Run) : Prop :=
  match action with
  | .start live loaded =>
    (start options live loaded before.service).joined = before.service.joined
  | .handle live request outcomes =>
    JoinLaw request before.service
      (handle packages options outcomes live request before.service)
  | .shutdown outcomes =>
    ∀ call ∈ (shutdown options outcomes before.service).2, isJoin call = false

theorem start_joined (options : Options) (live : Bool) (loaded : Option String)
    (service : Service) : (start options live loaded service).joined = service.joined := by
  unfold start
  split_ifs
  · rfl
  · cases loaded with
    | none => rfl
    | some publicKey => exact apply_ite _ _ _ _ |>.trans (ite_self _)

theorem shutdown_makes_no_join (options : Options) (outcomes : Outcomes) (service : Service) :
    ∀ call ∈ (shutdown options outcomes service).2, isJoin call = false := by
  intro call made
  rw [shutdown] at made
  cases held : service.joined <;> rw [held] at made <;> dsimp only at made <;>
    split_ifs at made <;> first
      | exact absurd made List.not_mem_nil
      | (rw [List.mem_singleton.mp made]; rfl)

end Law

/-- In every run, every join that succeeded is recorded or compensated before
its request returns, no join is made while one is on record, and only a leave
of that network that the control plane accepted takes it off the record. -/
theorem joins_recorded_or_compensated (packages : Packages) (options : Options)
    (actions : List Action) :
    StepsMeet (step packages options) (Lawful packages options) actions Run.new := by
  refine stepsMeet_of_mem (step packages options) (fun action _ before => ?_) Run.new
  cases action with
  | start live loaded => exact start_joined options live loaded before.service
  | handle live request outcomes => exact joinLaw_of_handling handling_handle
  | shutdown outcomes => exact shutdown_makes_no_join options outcomes before.service

end Ipv6Mesh.ServiceJoins
