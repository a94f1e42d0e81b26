import Ipv6Mesh.HandlerRevocation

/-!
# Sessions of removed nodes

A node session is tied to its node by the subject alone. Once the node is gone
its session reaches nothing, until somebody enrolls the same identifier again.
-/

namespace Ipv6Mesh.HandlerDepartures

open GoText GoFlow DbMemory DbNetworks DbOperations DbSnapshot AuthTokens ControlRoom
  ControlEnrollment EnrollmentLaw ControlHandler HandlerEffects HandlerRuns HandlerConfinement
  HandlerScope

def SessionsKept (before after : SessionStore) : Prop :=
  ∀ (token : String) (session : Session), after.sessions[token]? = some session →
    before.sessions[token]? = some session ∨ before.sessions[token]? = none

theorem SessionsKept.refl (store : SessionStore) : SessionsKept store store :=
  fun _ _ stored => Or.inl stored

theorem sessionsKept_insert {store : SessionStore} {token : String} (session : Session)
    (free : store.sessions[token]? = none) :
    SessionsKept store { store with sessions := store.sessions.insert token session } := by
  intro other found stored
  by_cases same : token = other
  · exact Or.inr (same ▸ free)
  · rw [GoMap.getElem?_insert, if_neg same] at stored
    exact Or.inl stored

theorem sessionsKept_revokeSession (token : String) (store : SessionStore) :
    SessionsKept store (revokeSession token store) := by
  unfold revokeSession
  split_ifs
  · exact SessionsKept.refl store
  · intro other found stored
    rw [GoMap.getElem?_erase] at stored
    split_ifs at stored
    exact Or.inl stored

theorem sessionsKept_issueSession (now : Time) (random : SecretReads) (subject : String)
    (role : Role) (networkID : String) (store : SessionStore) :
    SessionsKept store (issueSession now random subject role networkID store).2 := by
  rcases issued : issueSession now random subject role networkID store with
    ⟨err | ⟨token, session⟩, after⟩
  · obtain rfl := AuthHistory.issueSession_error issued
    exact SessionsKept.refl _
  · obtain ⟨-, -, -, -, free, rfl⟩ := AuthHistory.issueSession_eq_ok issued
    exact sessionsKept_insert session free

theorem sessionsKept_transact {surroundings : Surroundings} {request : EnrollmentRequest}
    {before after : State} {result : EnrollmentResult}
    (succeeded : transact surroundings request before = some (result, after))
    (wellFormed : WellFormed before.repository) : SessionsKept before.sessions after.sessions := by
  obtain ⟨-, _, _, _, _, _, _, _, -, enrolled⟩ := transact_enrolled wellFormed succeeded
  rw [enrolled.transition]
  exact sessionsKept_insert result.session enrolled.token.2

theorem sessionsKept_served {handler : Handler} {request : Request} {moment : Moment}
    {before after : State} {response : Response} (wellFormed : WellFormed before.repository)
    (served : Served handler request moment before response after) :
    SessionsKept before.sessions after.sessions := by
  cases served with
  | refused _ pruned =>
    exact fun token session stored => Or.inl (pruned.sessions token session stored)
  | network | room | invite | joinFailed | viewed | heartbeat | removed => exact SessionsKept.refl _
  | enrolled _ _ transaction => exact sessionsKept_transact transaction wellFormed
  | joined _ _ _ _ _ created transaction =>
    have invited := wellFormed_of_apply (.createInvite _ _) created wellFormed
    have kept := sessionsKept_transact transaction invited
    exact kept

theorem sessionsKept_apply (handler : Handler) (step : Step) {state : State}
    (wellFormed : WellFormed state.repository) :
    SessionsKept state.sessions (step.apply handler state).sessions := by
  cases step with
  | serve request moment =>
    exact sessionsKept_served wellFormed (serveHTTP_served handler request moment state)
  | issueSession now random subject role networkID =>
    exact sessionsKept_issueSession now random subject role networkID state.sessions
  | revokeSession token => exact sessionsKept_revokeSession token state.sessions
  | revokeNetwork networkID =>
    have kept : SessionsKept state.sessions (revokeNetwork networkID state.sessions) := by
      unfold revokeNetwork
      split_ifs <;> exact SessionsKept.refl _
    exact kept

structure Departed (nodeID token : String) (state : State) : Prop where
  absent : state.repository.nodes[nodeID]? = none
  session : ∀ session, state.sessions.sessions[token]? = some session →
    session.subject = nodeID ∧ session.role = .node

/-- The step brings the identifier or the token back. -/
def Reuses (handler : Handler) (nodeID token : String) (step : Step) (before : State) : Prop :=
  let after := step.apply handler before
  (before.repository.nodes[nodeID]? = none ∧ after.repository.nodes[nodeID]? ≠ none) ∨
    (before.sessions.sessions[token]? = none ∧ after.sessions.sessions[token]? ≠ none)

section Departures

variable {handler : Handler} {nodeID token : String}

theorem departed_apply (step : Step) (state : State)
    (fresh : ¬Reuses handler nodeID token step state)
    (holds : WellFormed state.repository ∧ Departed nodeID token state) :
    WellFormed (step.apply handler state).repository ∧
      Departed nodeID token (step.apply handler state) := by
  obtain ⟨wellFormed, departed⟩ := holds
  refine ⟨wellFormed_apply handler step state wellFormed, ?_, fun session stored => ?_⟩
  · by_contra registered
    exact fresh (Or.inl ⟨departed.absent, registered⟩)
  · rcases sessionsKept_apply handler step wellFormed token session stored with held | free
    · exact departed.session session held
    · exact absurd (Or.inr ⟨free, by simp [stored]⟩) fresh

variable {request : Request} {moment : Moment} {before : State}

theorem Departed.principal {principal : Principal} (departed : Departed nodeID token before)
    (bearer : parseBearerHeader request.authorization = .ok token)
    (plain : validateBootstrapToken handler.bootstrapToken token ≠ .ok ())
    (authenticated : Authenticated handler request moment before principal) :
    principal.session.subject = nodeID ∧ principal.session.role = .node := by
  obtain ⟨presented, parsed, credited⟩ := authenticated_iff.mp authenticated
  cases Except.ok.inj (bearer.symm.trans parsed)
  rw [if_neg plain] at credited
  obtain ⟨session, rfl, -, stored, -⟩ := credited
  exact departed.session session stored

theorem refused_of_departed (departed : Departed nodeID token before)
    (bearer : parseBearerHeader request.authorization = .ok token)
    (plain : validateBootstrapToken handler.bootstrapToken token ≠ .ok ())
    (authenticates : Route.authenticates (routeOf request) = true) :
    Refusal (serveHTTP handler request moment before).1 ∧
      (serveHTTP handler request moment before).2.repository = before.repository := by
  have served := serveHTTP_served handler request moment before
  generalize (serveHTTP handler request moment before).1 = response at served
  generalize (serveHTTP handler request moment before).2 = after at served
  have notAdmin : ∀ {principal : Principal}, Authenticated handler request moment before principal →
      principal.session.role ≠ .admin := by
    intro principal authenticated admin
    rw [(departed.principal bearer plain authenticated).2] at admin
    cases admin
  have notPresent : ∀ {principal : Principal} {named : String},
      Authenticated handler request moment before principal →
      authorizeNode moment principal named before = .ok () →
      ¬∃ node, before.repository.nodes[named]? = some node := by
    rintro principal named authenticated authorized ⟨node, present⟩
    obtain ⟨subject, role⟩ := departed.principal bearer plain authenticated
    rw [(authorizeNode_node role authorized).1, subject, departed.absent] at present
    cases present
  cases served with
  | refused refusal pruned => exact ⟨refusal, pruned.repository⟩
  | network _ authenticated admin | room _ authenticated admin | invite _ authenticated admin =>
    exact absurd admin (notAdmin authenticated)
  | enrolled route | joined route | joinFailed route =>
    rw [route] at authenticates
    cases authenticates
  | viewed route authenticated role authorized read =>
    obtain ⟨subject, -⟩ := departed.principal bearer plain authenticated
    obtain ⟨-, _, _, node, -, -, -, present, -⟩ := buildSnapshotAt_ok.mp read
    rw [subject, departed.absent] at present
    cases present
  | heartbeat _ _ authenticated authorized present
  | removed _ _ authenticated authorized present =>
    exact absurd present (notPresent authenticated authorized)

theorem departed_of_removal {response : Response} {after : State}
    (served : Served handler request moment before response after)
    (success : response.status = 204)
    (route : routeOf request = .leaveNode ∨ routeOf request = .deleteNode)
    (named : namedNode request = some nodeID)
    (held : ∀ session, before.sessions.sessions[token]? = some session →
      session.subject = nodeID ∧ session.role = .node) :
    Departed nodeID token after := by
  cases served with
  | refused refusal =>
    have isError := refusal.status
    omega
  | network | room | enrolled | joined => cases success
  | invite _ _ _ _ _ _ _ _ _ created => omega
  | joinFailed _ refusal =>
    have isError := refusal.status
    omega
  | viewed _ _ _ _ _ shown => rcases shown with rfl | rfl <;> cases success
  | heartbeat isHeartbeat => simp [isHeartbeat] at route
  | removed _ again _ _ _ removal =>
    cases Option.some.inj (named.symm.trans again)
    obtain ⟨-, node, -, rfl⟩ := removeNode_eq_ok.mp removal
    refine ⟨?_, held⟩
    rw [State.setRepository_repository, foldl_increment_eq]
    exact Std.ExtTreeMap.getElem?_erase_self

end Departures

/-- From the removal of a node on, in every run in which its identifier and its
token are not used anew, the token is refused on every route that authenticates. -/
theorem removed_node_token_refused_unless_reused (handler : Handler) (maxAge : Duration)
    (actions : List Action) (sessions : SessionStore) (roomNetworkID : String)
    (limiter : RoomJoinLimiter) (first last : List Step) (removal request : Request)
    (removedAt moment : Moment) (nodeID token : String) (before after later : State)
    (beforeRun : before = run (Step.apply handler) first
      ⟨reached maxAge actions, sessions, roomNetworkID, limiter⟩)
    (held : ∀ session, before.sessions.sessions[token]? = some session →
      session.subject = nodeID ∧ session.role = .node)
    (route : routeOf removal = .leaveNode ∨ routeOf removal = .deleteNode)
    (named : namedNode removal = some nodeID)
    (removed : (serveHTTP handler removal removedAt before).1.status = 204)
    (afterRun : after = (serveHTTP handler removal removedAt before).2)
    (fresh : StepsMeet (Step.apply handler)
      (fun step state => ¬Reuses handler nodeID token step state) last after)
    (laterRun : later = run (Step.apply handler) last after)
    (bearer : parseBearerHeader request.authorization = .ok token)
    (plain : validateBootstrapToken handler.bootstrapToken token ≠ .ok ())
    (authenticates : Route.authenticates (routeOf request) = true) :
    Refusal (serveHTTP handler request moment later).1 ∧
      (serveHTTP handler request moment later).2.repository = later.repository := by
  have wellFormed : WellFormed before.repository := by
    rw [beforeRun]
    exact wellFormed_steps handler first (wellFormed_reached maxAge actions)
  have served := serveHTTP_served handler removal removedAt before
  rw [← afterRun] at served
  have departed := departed_of_removal served removed route named held
  obtain ⟨-, stillDeparted⟩ := run_invariant_of_stepsMeet (Step.apply handler)
    (fun state => WellFormed state.repository ∧ Departed nodeID token state)
    (fun step state => departed_apply step state) fresh
    ⟨wellFormed_served wellFormed served, departed⟩
  rw [laterRun]
  exact refused_of_departed stillDeparted bearer plain authenticates

/-- After the leave of `a` and the deletion of `b`, the token of `a` asks for a
snapshot. -/
theorem removed_node_token_refused_after_leave :
    let before : State :=
      ⟨reached minute crowdedRun,
        storeWith "token" (nodeSession "a" "n"), "", newRoomJoinLimiter 0 0⟩
    let after := (serveHTTP (plainHandler false)
      (plainRequest .post "/v1/nodes/a/leave" "Bearer token") (plainMoment 2 "" 7) before).2
    let deletion : Step :=
      .serve (plainRequest .delete "/v1/nodes/b" "Bearer bootstrap-token") (plainMoment 3 "" 7)
    let later := run (Step.apply (plainHandler false)) [deletion] after
    let served := serveHTTP (plainHandler false)
      (plainRequest .get "/v1/networks/n/snapshot" "Bearer token") (plainMoment 4 "" 7) later
    Refusal served.1 ∧ served.2.repository = later.repository := by
  intro before after deletion later
  have absent : (deletion.apply (plainHandler false) after).repository.nodes["a"]? = none := by
    decide +kernel
  have kept : after.sessions.sessions["token"]?.isSome = true := by decide +kernel
  refine removed_node_token_refused_unless_reused (plainHandler false) minute crowdedRun
    (storeWith "token" (nodeSession "a" "n")) "" (newRoomJoinLimiter 0 0) [] [deletion]
    (plainRequest .post "/v1/nodes/a/leave" "Bearer token")
    (plainRequest .get "/v1/networks/n/snapshot" "Bearer token") (plainMoment 2 "" 7)
    (plainMoment 4 "" 7) "a" "token" before after later rfl ?_ (Or.inl (by decide +kernel))
    (by decide +kernel) (by decide +kernel) rfl ⟨?_, trivial⟩ rfl (by decide +kernel)
    (by decide +kernel) (by decide +kernel)
  · intro session stored
    cases Option.some.inj (Std.ExtTreeMap.getElem?_insert_self.symm.trans stored)
    exact ⟨rfl, rfl⟩
  · rintro (⟨-, registered⟩ | ⟨released, -⟩)
    · exact registered absent
    · rw [released] at kept
      cases kept

def enrollmentOf (inviteToken nodeID publicKey : String) : Request :=
  { plainRequest .post "/v1/enrollments" "" with
    enrollBody := .ok ⟨inviteToken, nodeID, "node", publicKey, "linux", "1"⟩ }

def sessionTokenOf : Body → String
  | .enrollment result => result.sessionToken
  | _ => ""

/-- `x` enrolls, leaves and is enrolled by somebody else; the first token reads
the second enrollment's snapshot. -/
theorem removed_node_token_revived :
    let serve := fun request moment => serveHTTP (plainHandler false) request moment
    let initial : State := ⟨run Action.step
      (invitingRun "n" "10.0.0.0/29" 1 [("i", "i.secret"), ("j", "j.secret")])
      (newMemoryRepositoryWithEndpointMaxAge minute), newSessionStore minute, "",
      newRoomJoinLimiter 0 0⟩
    let enrolled := serve (enrollmentOf "i.secret" "x" "first key") (plainMoment 2 "" 7) initial
    let bearer := "Bearer " ++ sessionTokenOf enrolled.1.body
    let left :=
      serve (plainRequest .post "/v1/nodes/x/leave" bearer) (plainMoment 3 "" 7) enrolled.2
    let again := serve (enrollmentOf "j.secret" "x" "second key") (plainMoment 4 "" 9) left.2
    let read := serve (plainRequest .get "/v1/networks/n/snapshot" bearer) (plainMoment 5 "" 7)
      again.2
    (enrolled.1.status = 201 ∧ left.1.status = 204 ∧ again.1.status = 201) ∧
      left.2.repository.nodes["x"]? = none ∧ read.1.status = 200 := by
  decide +kernel

end Ipv6Mesh.HandlerDepartures
