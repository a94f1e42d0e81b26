import Ipv6Mesh.ServiceModel

/-!
# What one request to the service can do

`Handling` lists the outcomes of `Handle`: the service is kept, a join is
recorded or compensated, a leave stops half way or completes, and the path is
reported up or down. Each constructor says which calls were made and what is
answered, so facts about whole runs are read off the constructors. `Announces`
foretells a successful answer, by command.
-/

namespace Ipv6Mesh.ServiceOutcomes

open GoText ControlModel IpcProtocol ServiceModel

def joinResult : Call → Option JoinResult
  | .join _ (.ok result) => some result
  | .joinRoom _ (.ok result) => some result
  | _ => none

def isJoin : Call → Bool
  | .join _ _ => true
  | .joinRoom _ _ => true
  | _ => false

def isLeave : Call → Bool
  | .leave _ _ => true
  | _ => false

/-- A snapshot, or a call other than a leave that failed. -/
def Quiet : Call → Prop
  | .join _ (.error _) | .joinRoom _ (.error _) | .snapshot _ _ => True
  | .apply _ succeeded | .clear succeeded | .connect _ succeeded | .disconnect _ succeeded =>
    succeeded = false
  | .join _ (.ok _) | .joinRoom _ (.ok _) | .leave _ _ => False

def Setup : Call → Prop
  | .snapshot _ _ | .apply _ _ => True
  | _ => False

def takedown (options : Options) (outcomes : Outcomes) (networkID : String) (before : Service) :
    List Call :=
  (if before.status.pathState ≠ pathStateDisconnected && options.adapter then
    [.disconnect networkID outcomes.disconnect] else []) ++
    if options.reconciler then [.clear outcomes.clear] else []

def recordOf (request : Request) (result : JoinResult) : JoinResult :=
  { result with displayName := request.displayName }

structure Leaving (options : Options) (outcomes : Outcomes) (live : Bool) (request : Request)
    (before : Service) : Prop where
  live : live = true
  started : before.started = true
  command : request.type = .leave
  joined : ∃ joined, before.joined = some joined ∧ request.networkID = joined.networkID
  disconnected : (before.status.pathState ≠ pathStateDisconnected && options.adapter) = true →
    outcomes.disconnect = true

def handleCodes : List String :=
  [codeInvalidRequest, codeAlreadyJoined, codeNotJoined, codeWrongNetwork, codeNotStarted,
    codeControlFailed, codeControlUnreachable, codeOperationTimeout, codeAdapterFailed,
    codeInternal] ++ roomCodes

def Refuses (response : Response) : Prop := ∃ code ∈ handleCodes, response = errorResponse code

/-- The snapshot of the control client is at hand and the reconciler takes it. -/
def applies (options : Options) (outcomes : Outcomes) : Bool :=
  options.control.any (·.snapshots) && outcomes.snapshot.isOk && outcomes.apply

section Announcements

variable (packages : Packages) (options : Options) (outcomes : Outcomes) (request : Request)
  (before : Service) (response : Response)

def Admits (result : JoinResult) : Prop :=
  blank result.networkID = false ∧ blank result.virtualIPv4 = false ∧
    (options.reconciler = true → applies options outcomes = true)

def Enrolls (answer : Except ControlError JoinResult) : Prop :=
  before.joined = none ∧ blank request.displayName = false ∧ ∃ result, answer = .ok result ∧
    Admits options outcomes result ∧ response = successResponse (joinedStatus result)

def OnRecord : Prop :=
  ∃ joined, before.joined = some joined ∧ request.networkID = joined.networkID

/-- The success that a request to a started service is to be answered with, by
command: from the request, the service before it and the answers of its
dependencies. -/
def Announces : Prop :=
  match request.type with
  | .status => response = successResponse before.status
  | .join => blank request.invite = false ∧ options.control.isSome = true ∧
      Enrolls options outcomes request before response outcomes.join
  | .joinRoom => namesControl packages options request.controlURL = true ∧
      options.control.any (·.rooms) = true ∧
      Enrolls options outcomes request before response outcomes.joinRoom
  | .leave => OnRecord request before ∧
      (before.status.pathState = pathStateDisconnected ∨ options.adapter = false ∨
        outcomes.disconnect = true) ∧
      (options.reconciler = true → outcomes.clear = true) ∧ options.control.isSome = true ∧
      outcomes.leave = .ok () ∧ response = successResponse disconnectedStatus
  | .connect => OnRecord request before ∧
      (if options.reconciler then applies options outcomes = true
        else options.adapter = true ∧ outcomes.connect = true) ∧
      response = successResponse { before.status with pathState := pathStateDirect }
  | .disconnect => OnRecord request before ∧
      (if options.reconciler then outcomes.clear = true
        else options.adapter = true ∧ outcomes.disconnect = true) ∧
      response = successResponse { before.status with pathState := pathStateDisconnected }
  | .roomMembers => ∃ joined snapshot members, before.joined = some joined ∧
      options.control.any (·.snapshots) = true ∧ outcomes.snapshot = .ok snapshot ∧
      projectRoomMembers packages joined snapshot = some members ∧
      response = { successMembersResponse joined.networkID members with status := before.status }
  | .unsupported _ _ => False

end Announcements

inductive Handling (packages : Packages) (options : Options) (outcomes : Outcomes) (live : Bool)
    (request : Request) (before : Service) : Handled → Prop
  | kept {response : Response} {calls : List Call} (quiet : ∀ call ∈ calls, Quiet call)
      (asked : ∀ call ∈ calls, isJoin call = true → before.joined = none)
      (few : (calls.filter isJoin).length ≤ 1)
      (replies : Refuses response ∨ ((request.type = .status ∨ request.type = .roomMembers) ∧
        Announces packages options outcomes request before response)) :
      Handling packages options outcomes live request before ⟨response, before, calls⟩
  | recorded {call : Call} {result : JoinResult} {calls : List Call}
      (idle : before.joined = none) (client : options.control.isSome = true)
      (answered : joinResult call = some result) (setup : ∀ call ∈ calls, Setup call)
      (applied : options.reconciler = true → ∃ snapshot, outcomes.snapshot = .ok snapshot ∧
        calls = [.snapshot result.networkID (.ok snapshot), .apply snapshot true])
      (announces : Announces packages options outcomes request before
        (successResponse (joinedStatus (recordOf request result)))) :
      Handling packages options outcomes live request before
        ⟨successResponse (joinedStatus (recordOf request result)),
          { before with
            joined := some (recordOf request result)
            status := joinedStatus (recordOf request result) }, call :: calls⟩
  | compensated {call : Call} {result : JoinResult} {calls : List Call} {code : String}
      (idle : before.joined = none) (answered : joinResult call = some result)
      (setup : ∀ call ∈ calls, Setup call) (known : code ∈ handleCodes) :
      Handling packages options outcomes live request before
        ⟨errorResponse code, before,
          call :: (calls ++ [.leave result.networkID outcomes.leave])⟩
  | stopped (code : String) (tail : List Call)
      (leaving : Leaving options outcomes live request before)
      (failed : (options.reconciler = true ∧ outcomes.clear = false) ∨
        options.control.isNone = true ∨ ∃ error, outcomes.leave = .error error)
      (told : ∀ call ∈ tail, call = .leave request.networkID outcomes.leave)
      (known : code ∈ handleCodes) :
      Handling packages options outcomes live request before
        ⟨errorResponse code, before,
          takedown options outcomes request.networkID before ++ tail⟩
  | left (leaving : Leaving options outcomes live request before)
      (answered : outcomes.leave = .ok ())
      (announces : Announces packages options outcomes request before
        (successResponse disconnectedStatus)) :
      Handling packages options outcomes live request before
        ⟨successResponse disconnectedStatus,
          { before with joined := none, status := disconnectedStatus },
          takedown options outcomes request.networkID before ++
            [.leave request.networkID (.ok ())]⟩
  | connected (calls : List Call) (joined : before.joined.isSome = true)
      (quiet : ∀ call ∈ calls, Setup call) {last : Call}
      (applied : (∃ snapshot, options.reconciler = true ∧ last = .apply snapshot true ∧
          outcomes.snapshot = .ok snapshot) ∨
        (options.reconciler = false ∧ last = .connect request.networkID true))
      (announces : Announces packages options outcomes request before
        (successResponse { before.status with pathState := pathStateDirect })) :
      Handling packages options outcomes live request before
        (before.report pathStateDirect (calls ++ [last]))
  | disconnected {call : Call} (joined : before.joined.isSome = true)
      (cleared : call = .clear true ∨ call = .disconnect request.networkID true)
      (announces : Announces packages options outcomes request before
        (successResponse { before.status with pathState := pathStateDisconnected }))
      (command : request.type = .disconnect) :
      Handling packages options outcomes live request before
        (before.report pathStateDisconnected [call])

section Inversion

variable {packages : Packages} {options : Options} {outcomes : Outcomes} {live : Bool}
variable {request : Request} {before : Service}

theorem safeControlErrorCode_known (error : ControlError) :
    safeControlErrorCode error ∈ handleCodes := by
  rw [safeControlErrorCode]
  split_ifs <;> simp [handleCodes]

theorem safeRoomControlErrorCode_known (error : ControlError) :
    safeRoomControlErrorCode error ∈ handleCodes := by
  rw [safeRoomControlErrorCode]
  cases error.httpCode with
  | none => exact safeControlErrorCode_known error
  | some code =>
    dsimp only
    split_ifs with known
    · exact List.mem_append_right _ known
    · simp [handleCodes]

theorem applies_eq_true :
    applies options outcomes = true ↔ ∃ snapshot, outcomes.snapshot = .ok snapshot ∧
      options.control.any (·.snapshots) = true ∧ outcomes.apply = true := by
  cases fetched : outcomes.snapshot <;> simp [applies, fetched, Except.isOk, Except.toBool]

theorem kept_of_no_calls {code : String} (known : code ∈ handleCodes) :
    Handling packages options outcomes live request before (before.fail code []) :=
  .kept (by simp) (by simp) (by simp) (.inl ⟨code, known, rfl⟩)

theorem kept_of_call {response : Response} {call : Call} (quiet : Quiet call)
    (other : isJoin call = false)
    (replies : Refuses response ∨ ((request.type = .status ∨ request.type = .roomMembers) ∧
      Announces packages options outcomes request before response)) :
    Handling packages options outcomes live request before ⟨response, before, [call]⟩ := by
  refine .kept (fun made listed => ?_) (fun made listed joins => ?_) ?_ replies
  · exact List.mem_singleton.mp listed ▸ quiet
  · rw [List.mem_singleton.mp listed, other] at joins
    cases joins
  · exact List.length_filter_le _ _

theorem failed_call {call : Call} {code : String} (quiet : Quiet call)
    (other : isJoin call = false) (known : code ∈ handleCodes) :
    Handling packages options outcomes live request before (before.fail code [call]) :=
  kept_of_call quiet other (.inl ⟨code, known, rfl⟩)

theorem handling_finishJoin {call : Call} {result : JoinResult} (idle : before.joined = none)
    (client : options.control.isSome = true) (answered : joinResult call = some result)
    (said : Admits options outcomes result → Announces packages options outcomes request before
      (successResponse (joinedStatus result))) :
    Handling packages options outcomes live request before
      ((finishJoin options outcomes (recordOf request result) before).after [call]) := by
  have compensate (code : String) (calls : List Call) (known : code ∈ handleCodes)
      (setup : ∀ call ∈ calls, Setup call) :
      Handling packages options outcomes live request before
        ((rollback outcomes (recordOf request result) before code calls).after [call]) := by
    change Handling packages options outcomes live request before ⟨errorResponse code, before,
      call :: (calls ++ [.leave result.networkID outcomes.leave])⟩
    exact .compensated idle answered setup known
  have record (calls : List Call) (setup : ∀ call ∈ calls, Setup call)
      (admits : Admits options outcomes result)
      (applied : options.reconciler = true → ∃ snapshot, outcomes.snapshot = .ok snapshot ∧
        calls = [.snapshot result.networkID (.ok snapshot), .apply snapshot true]) :
      Handling packages options outcomes live request before
        ((recordJoin outcomes (recordOf request result) before calls).after [call]) := by
    rw [recordJoin, idle]
    exact .recorded idle client answered setup applied (said admits)
  have admits (whole : ¬(blank result.networkID || blank result.virtualIPv4) = true)
      (ready : options.reconciler = true → applies options outcomes = true) :
      Admits options outcomes result := by
    simp only [Bool.or_eq_true, not_or, Bool.not_eq_true] at whole
    exact ⟨whole.1, whole.2, ready⟩
  obtain ⟨known, control⟩ := Option.isSome_iff_exists.mp client
  cases fetched : outcomes.snapshot with
  | error error =>
    simp only [finishJoin, control, fetched]
    split_ifs with incomplete reconciled
    · exact compensate _ [] (by simp [handleCodes]) (by simp)
    · exact compensate _ [] (by simp [handleCodes]) (by simp)
    · exact compensate _ _ (safeControlErrorCode_known error) (by simp [Setup])
    · exact record [] (by simp) (admits incomplete fun wanted => absurd wanted reconciled)
        fun wanted => absurd wanted reconciled
  | ok snapshot =>
    simp only [finishJoin, control, fetched]
    split_ifs with incomplete reconciled incapable applied
    · exact compensate _ [] (by simp [handleCodes]) (by simp)
    · exact compensate _ [] (by simp [handleCodes]) (by simp)
    · have ready : applies options outcomes = true := applies_eq_true.mpr
        ⟨snapshot, fetched, by simpa [control] using incapable, applied⟩
      rw [applied]
      exact record _ (by simp [Setup]) (admits incomplete fun _ => ready)
        fun _ => ⟨snapshot, fetched, rfl⟩
    · exact compensate _ _ (by simp [handleCodes]) (by simp [Setup])
    · exact record [] (by simp) (admits incomplete fun wanted => absurd wanted reconciled)
        fun wanted => absurd wanted reconciled

theorem handling_join (command : request.type = .join) :
    Handling packages options outcomes live request before
      (join options outcomes request before) := by
  rw [join]
  split_ifs with already invalid
  · exact kept_of_no_calls (by simp [handleCodes])
  · exact kept_of_no_calls (by simp [handleCodes])
  · have idle : before.joined = none := by simpa using already
    simp only [Bool.or_eq_true, not_or, Bool.not_eq_true, Option.isNone_eq_false_iff] at invalid
    obtain ⟨⟨invited, named⟩, client⟩ := invalid
    dsimp only
    cases answer : outcomes.join with
    | error error =>
      exact .kept (fun call listed => List.mem_singleton.mp listed ▸ trivial)
        (fun _ _ _ => idle) (List.length_filter_le _ _)
        (.inl ⟨_, safeControlErrorCode_known error, rfl⟩)
    | ok result =>
      refine handling_finishJoin idle client rfl fun admits => ?_
      rw [Announces, command]
      exact ⟨invited, client, idle, named, result, answer, admits, rfl⟩

theorem handling_joinRoom (command : request.type = .joinRoom) :
    Handling packages options outcomes live request before
      (joinRoom packages options outcomes request before) := by
  rw [joinRoom]
  split_ifs with already invalid
  · exact kept_of_no_calls (by simp [handleCodes])
  · exact kept_of_no_calls (by simp [handleCodes])
  · have idle : before.joined = none := by simpa using already
    simp only [Bool.or_eq_true, not_or, Bool.not_eq_true, Bool.not_eq_false'] at invalid
    obtain ⟨control, named⟩ := invalid
    cases configured : options.control with
    | none => exact kept_of_no_calls (by simp [handleCodes])
    | some client =>
      dsimp only
      split_ifs with capable
      · exact kept_of_no_calls (by simp [handleCodes])
      · have rooms : options.control.any (·.rooms) = true := by simpa [configured] using capable
        cases answer : outcomes.joinRoom with
        | error error =>
          exact .kept (fun call listed => List.mem_singleton.mp listed ▸ trivial)
            (fun _ _ _ => idle) (List.length_filter_le _ _)
            (.inl ⟨_, safeRoomControlErrorCode_known error, rfl⟩)
        | ok result =>
          refine handling_finishJoin idle (by rw [configured]; rfl) rfl fun admits => ?_
          rw [Announces, command]
          exact ⟨control, rooms, idle, named, result, answer, admits, rfl⟩

theorem handling_roomMembers (command : request.type = .roomMembers) :
    Handling packages options outcomes live request before
      (roomMembers packages options outcomes before) := by
  rw [roomMembers]
  cases current : before.joined with
  | none => exact kept_of_no_calls (by simp [handleCodes])
  | some joined =>
    dsimp only
    split_ifs with capable
    · exact kept_of_no_calls (by simp [handleCodes])
    · cases answer : outcomes.snapshot with
      | error error => exact failed_call trivial rfl (safeControlErrorCode_known error)
      | ok snapshot =>
        dsimp only
        cases projected : projectRoomMembers packages joined snapshot with
        | none => exact failed_call trivial rfl (by simp [handleCodes])
        | some members =>
          refine kept_of_call trivial rfl (.inr ⟨.inr command, ?_⟩)
          rw [Announces, command]
          exact ⟨joined, snapshot, members, current, by simpa using capable, answer, projected, rfl⟩

theorem handling_withJoined {operation : Handled}
    (proceeds : OnRecord request before →
      Handling packages options outcomes live request before operation) :
    Handling packages options outcomes live request before
      (withJoined request.networkID before operation) := by
  rw [withJoined]
  cases held : before.joined with
  | none => exact kept_of_no_calls (by simp [handleCodes])
  | some joined =>
    dsimp only
    split_ifs with other
    · exact kept_of_no_calls (by simp [handleCodes])
    · exact proceeds ⟨joined, held, not_not.mp other⟩

theorem handling_leave (alive : live = true) (started : before.started = true)
    (command : request.type = .leave) :
    Handling packages options outcomes live request before
      (leave options outcomes request.networkID before) := by
  refine handling_withJoined fun onRecord => ?_
  simp only [leaveJoined]
  by_cases refused : ((before.status.pathState ≠ pathStateDisconnected && options.adapter) &&
      !outcomes.disconnect) = true
  · rw [if_pos refused, if_pos (Bool.and_eq_true_iff.mp refused).1]
    refine failed_call ?_ rfl (by simp [handleCodes])
    simpa [Quiet] using (Bool.and_eq_true_iff.mp refused).2
  · have leaving : Leaving options outcomes live request before :=
      ⟨alive, started, command, onRecord, fun needed => by
        rw [needed, Bool.true_and, Bool.not_eq_true', Bool.not_eq_false] at refused
        exact refused⟩
    rw [if_neg refused]
    by_cases failed : (options.reconciler && !outcomes.clear) = true
    · have unclear : options.reconciler = true ∧ outcomes.clear = false := by simpa using failed
      have stopped : Handling packages options outcomes live request before _ :=
        .stopped codeAdapterFailed [] leaving (.inl unclear) (by simp) (by simp [handleCodes])
      rw [List.append_nil] at stopped
      rw [if_pos failed]
      exact stopped
    · rw [if_neg failed]
      by_cases unset : options.control.isNone = true
      · have stopped : Handling packages options outcomes live request before _ :=
          .stopped codeControlFailed [] leaving (.inr (.inl unset)) (by simp)
            (by simp [handleCodes])
        rw [List.append_nil] at stopped
        rw [if_pos unset]
        exact stopped
      · rw [if_neg unset]
        cases answered : outcomes.leave with
        | error error =>
          have stopped : Handling packages options outcomes live request before _ :=
            .stopped (safeControlErrorCode error) [.leave request.networkID outcomes.leave] leaving
              (.inr (.inr ⟨error, answered⟩)) (fun call listed => List.mem_singleton.mp listed)
              (safeControlErrorCode_known error)
          rw [answered] at stopped
          exact stopped
        | ok =>
          refine .left leaving answered ?_
          rw [Announces, command]
          refine ⟨onRecord, ?_, ?_, ?_, answered, rfl⟩
          · simpa [or_assoc, imp_iff_not_or] using refused
          · simpa using failed
          · simpa [Option.isSome_iff_ne_none] using unset

theorem handling_connect (command : request.type = .connect) :
    Handling packages options outcomes live request before
      (connect options outcomes request.networkID before) := by
  refine handling_withJoined fun onRecord => ?_
  obtain ⟨joined, held, -⟩ := id onRecord
  have present : before.joined.isSome = true := by rw [held]; rfl
  have up (connected : if options.reconciler then applies options outcomes = true
      else options.adapter = true ∧ outcomes.connect = true) :
      Announces packages options outcomes request before
        (successResponse { before.status with pathState := pathStateDirect }) := by
    rw [Announces, command]
    exact ⟨onRecord, connected, rfl⟩
  by_cases reconciled : options.reconciler = true
  · rw [if_pos reconciled] at up
    rw [connectJoined, if_pos reconciled]
    cases fetched : outcomes.snapshot with
    | error error =>
      dsimp only
      split_ifs
      · exact kept_of_no_calls (by simp [handleCodes])
      · exact failed_call trivial rfl (by simp [handleCodes])
    | ok snapshot =>
      dsimp only
      split_ifs with incapable succeeded
      · exact kept_of_no_calls (by simp [handleCodes])
      · have ready := up (applies_eq_true.mpr
          ⟨snapshot, fetched, by simpa using incapable, succeeded⟩)
        rw [succeeded]
        exact .connected [.snapshot request.networkID (.ok snapshot)] present (by simp [Setup])
          (.inl ⟨snapshot, reconciled, rfl, fetched⟩) ready
      · refine .kept ?_ ?_ ?_ (.inl ⟨_, by simp [handleCodes], rfl⟩) <;>
          simp [Quiet, isJoin, succeeded]
  · rw [if_neg reconciled] at up
    rw [connectJoined, if_neg reconciled]
    split_ifs with unset connected
    · exact kept_of_no_calls (by simp [handleCodes])
    · exact .connected [] present (by simp) (.inr ⟨by simpa using reconciled, rfl⟩)
        (up ⟨by simpa using unset, connected⟩)
    · exact failed_call rfl rfl (by simp [handleCodes])

theorem handling_disconnect (command : request.type = .disconnect) :
    Handling packages options outcomes live request before
      (disconnect options outcomes request.networkID before) := by
  refine handling_withJoined fun onRecord => ?_
  obtain ⟨joined, held, -⟩ := id onRecord
  have present : before.joined.isSome = true := by rw [held]; rfl
  have down (cleared : if options.reconciler then outcomes.clear = true
      else options.adapter = true ∧ outcomes.disconnect = true) :
      Announces packages options outcomes request before
        (successResponse { before.status with pathState := pathStateDisconnected }) := by
    rw [Announces, command]
    exact ⟨onRecord, cleared, rfl⟩
  rw [disconnectJoined]
  split_ifs with reconciled cleared unset disconnected
  · exact .disconnected present (.inl rfl) (down (by rwa [if_pos reconciled])) command
  · exact failed_call rfl rfl (by simp [handleCodes])
  · exact kept_of_no_calls (by simp [handleCodes])
  · refine .disconnected present (.inr rfl) (down ?_) command
    rw [if_neg reconciled]
    exact ⟨by simpa using unset, disconnected⟩
  · exact failed_call rfl rfl (by simp [handleCodes])

theorem handling_handle :
    Handling packages options outcomes live request before
      (handle packages options outcomes live request before) := by
  rw [handle]
  split_ifs with closed status started idle
  · exact kept_of_no_calls (by simp [handleCodes])
  · refine .kept (by simp) (by simp) (by simp) (.inr ⟨.inl status, ?_⟩)
    rw [Announces, status]
  · exact kept_of_no_calls (by simp [handleCodes])
  · exact kept_of_no_calls (by simp [handleCodes])
  · cases command : request.type with
    | join => exact handling_join command
    | joinRoom => exact handling_joinRoom command
    | roomMembers => exact handling_roomMembers command
    | leave => exact handling_leave (by simpa using closed) (by simpa using idle) command
    | connect => exact handling_connect command
    | disconnect => exact handling_disconnect command
    | status => exact kept_of_no_calls (by simp [handleCodes])
    | unsupported text foreign => exact kept_of_no_calls (by simp [handleCodes])

variable (packages options) in
theorem handle_of_stopped (live : Bool) (request : Request) (outcomes : Outcomes)
    (stopped : before.started = false) :
    (handle packages options outcomes live request before).service = before := by
  unfold handle
  rw [stopped, Bool.not_false, if_pos rfl]
  split_ifs <;> rfl

theorem Handling.replies {handled : Handled}
    (handling : Handling packages options outcomes live request before handled) :
    Refuses handled.response ∨
      Announces packages options outcomes request before handled.response := by
  cases handling with
  | kept _ _ _ replies => exact replies.imp_right And.right
  | compensated _ _ _ known => exact .inl ⟨_, known, rfl⟩
  | stopped _ _ _ _ _ known => exact .inl ⟨_, known, rfl⟩
  | recorded _ _ _ _ _ announces => exact .inr announces
  | left _ _ announces => exact .inr announces
  | connected _ _ _ _ announces => exact .inr announces
  | disconnected _ _ announces => exact .inr announces

end Inversion

end Ipv6Mesh.ServiceOutcomes
