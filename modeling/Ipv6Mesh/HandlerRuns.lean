import Ipv6Mesh.HandlerEffects

/-!
# Runs of the handler

A run interleaves requests with what the program around the handler may do to
its session store. Every repository that a run reaches is well formed.
-/

namespace Ipv6Mesh.HandlerRuns

open GoText GoFlow ControlModel DbMemory DbNetworks AuthTokens ControlEnrollment EnrollmentLaw
  ControlHandler HandlerEffects

inductive Step where
  | serve (request : Request) (moment : Moment)
  | issueSession (now : Time) (random : SecretReads) (subject : String) (role : Role)
      (networkID : String)
  | revokeSession (token : String)
  | revokeNetwork (networkID : String)

def Step.apply (handler : Handler) : Step → State → State
  | .serve request moment, state => (serveHTTP handler request moment state).2
  | .issueSession now random subject role networkID, state =>
    state.setSessions (AuthTokens.issueSession now random subject role networkID state.sessions).2
  | .revokeSession token, state =>
    state.setSessions (AuthTokens.revokeSession token state.sessions)
  | .revokeNetwork networkID, state =>
    state.setSessions (AuthTokens.revokeNetwork networkID state.sessions)

theorem wellFormed_of_apply (op : Op) {repository after : MemoryRepository}
    (applied : op.apply repository = (.ok (), after)) (wellFormed : WellFormed repository) :
    WellFormed after := by
  have stepped : after = op.step repository := (congrArg Prod.snd applied).symm
  rw [stepped]
  exact wellFormed_run [op] wellFormed

/-- Operations of the repository lead from one state to the other. -/
def Writes (before after : MemoryRepository) : Prop := ∃ ops, after = run Op.step ops before

theorem Writes.trans {first second third : MemoryRepository} (before : Writes first second)
    (later : Writes second third) : Writes first third := by
  obtain ⟨ops, rfl⟩ := before
  obtain ⟨more, rfl⟩ := later
  exact ⟨ops ++ more, (run_append Op.step ops more first).symm⟩

theorem writes_step (op : Op) (repository : MemoryRepository) :
    Writes repository (op.step repository) := ⟨[op], rfl⟩

theorem writes_apply (op : Op) {repository after : MemoryRepository}
    (applied : op.apply repository = (.ok (), after)) : Writes repository after :=
  ⟨[op], (congrArg Prod.snd applied).symm⟩

theorem writes_served {handler : Handler} {request : Request} {moment : Moment}
    {before after : State} {response : Response} (wellFormed : WellFormed before.repository)
    (served : Served handler request moment before response after) :
    Writes before.repository after.repository := by
  cases served with
  | refused _ pruned => exact ⟨[], pruned.repository⟩
  | network _ _ _ _ created | room _ _ _ _ created =>
    exact writes_apply (.createNetwork _ _) created
  | invite _ _ _ _ _ _ _ _ created => exact writes_apply (.createInvite _ _) created
  | enrolled _ _ transaction => exact transact_ops wellFormed transaction
  | joined _ _ _ _ _ created transaction =>
    have invited := wellFormed_of_apply (.createInvite _ _) created wellFormed
    exact (writes_apply (.createInvite _ _) created).trans (transact_ops invited transaction)
  | joinFailed _ _ _ _ created =>
    exact (writes_apply (.createInvite _ _) created).trans (writes_step (.revokeInvite _ _ _) _)
  | viewed => exact ⟨[], rfl⟩
  | heartbeat _ _ _ _ _ replacement =>
    exact (writes_apply (.replaceEndpoints _ _ _) replacement).trans ⟨_, rfl⟩
  | removed _ _ _ _ _ removal => exact writes_apply (.removeNode _ _) removal

theorem wellFormed_served {handler : Handler} {request : Request} {moment : Moment}
    {before after : State} {response : Response} (wellFormed : WellFormed before.repository)
    (served : Served handler request moment before response after) :
    WellFormed after.repository := by
  obtain ⟨ops, ran⟩ := writes_served wellFormed served
  rw [ran]
  exact wellFormed_run ops wellFormed

theorem wellFormed_apply (handler : Handler) (step : Step) (state : State)
    (wellFormed : WellFormed state.repository) :
    WellFormed (step.apply handler state).repository := by
  cases step with
  | serve request moment =>
    exact wellFormed_served wellFormed (serveHTTP_served handler request moment state)
  | issueSession => exact wellFormed
  | revokeSession => exact wellFormed
  | revokeNetwork => exact wellFormed

theorem wellFormed_steps (handler : Handler) (steps : List Step) {state : State}
    (wellFormed : WellFormed state.repository) :
    WellFormed (run (Step.apply handler) steps state).repository :=
  run_invariant (Step.apply handler) (fun state => WellFormed state.repository)
    (wellFormed_apply handler) steps wellFormed

theorem writes_steps (handler : Handler) (steps : List Step) {state : State}
    (wellFormed : WellFormed state.repository) :
    Writes state.repository (run (Step.apply handler) steps state).repository := by
  refine (run_invariant (Step.apply handler) (fun later => WellFormed later.repository ∧
    Writes state.repository later.repository) (fun step later holds => ?_) steps
    ⟨wellFormed, [], rfl⟩).2
  refine ⟨wellFormed_apply handler step later holds.1, ?_⟩
  cases step with
  | serve request moment =>
    exact holds.2.trans
      (writes_served holds.1 (serveHTTP_served handler request moment later))
  | issueSession => exact holds.2
  | revokeSession => exact holds.2
  | revokeNetwork => exact holds.2

/-- The handler refines the repository: every run of it from an empty repository is
a run of repository operations, however requests and session calls interleave. -/
theorem handler_run_refines_repository (handler : Handler) (steps : List Step) (maxAge : Duration)
    (sessions : SessionStore) (roomNetworkID : String) (limiter : ControlRoom.RoomJoinLimiter) :
    let before : State :=
      ⟨newMemoryRepositoryWithEndpointMaxAge maxAge, sessions, roomNetworkID, limiter⟩
    let after := run (Step.apply handler) steps before
    Writes before.repository after.repository ∧ WellFormed after.repository := by
  intro before after
  have started : WellFormed before.repository := wellFormed_new maxAge
  exact ⟨writes_steps handler steps started, wellFormed_steps handler steps started⟩

def plainMoment (now : Time) (newID : String) (secret : UInt8) : Moment :=
  { authenticatedAt := now, authorizedAt := now, now := now, wall := now, limiterAt := now
    revokedAt := now, newID := newID
    secret := .ok (plainSecret secret)
    scopeContext := .live, lookupContext := .live, writeContext := .live, versionContext := .live
    touchContext := .live, revokeContext := .live
    enrollment := calmSurroundings now secret
    upgradeFailure := none }

def noBody {Value : Type} : Except Error Value := .error (.sentinel .invalidJSON)

def plainRequest (method : Method) (path authorization : String) : Request :=
  ⟨method, path, authorization, "192.0.2.1:4000", noBody, noBody, noBody, noBody, noBody, noBody⟩

def plainHandler (roomMode : Bool) : Handler :=
  newHandler ⟨"bootstrap-token", "", minute, 0, none, 0, roomMode, 0, 0⟩ (fun _ => some minute)
    fun _ => some 1

end Ipv6Mesh.HandlerRuns
