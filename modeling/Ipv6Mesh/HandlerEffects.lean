import Ipv6Mesh.ControlHandler
import Ipv6Mesh.EnrollmentLaw

/-!
# What serving a request can do

`Served` lists everything a request can do to the handler's state, route by
route, with the checks it passed. A refused request changes at most the sessions
that have expired and the join limiter; the two routes that write more than once
have a case for stopping in between.
-/

namespace Ipv6Mesh.HandlerEffects

open GoText
open GoFlow hiding bind_eq_ok
open GoProgram ControlModel ControlValidation AddressPool DbMemory DbOperations AuthTokens
  ControlRoom ControlEnrollment EnrollmentLaw ControlHandler

/-- An error status with at most an error code in its body. -/
structure Refusal (response : Response) : Prop where
  status : 400 ≤ response.status
  body : response.body = .empty ∨ ∃ code, response.body = .code code

theorem refusal_errorCode {status : Nat} (isError : 400 ≤ status) (code : String) :
    Refusal (errorCode status code) := ⟨isError, Or.inr ⟨code, rfl⟩⟩

theorem refusal_apiError (status : Nat) : Refusal (apiError status) := by
  unfold apiError
  split_ifs with low
  · exact refusal_errorCode (by decide) _
  · exact refusal_errorCode (Nat.not_lt.mp low) _

theorem statusForError_isError (err : Error) : 400 ≤ statusForError err := by
  unfold statusForError
  split_ifs <;> decide

theorem refusal_joinBodyRefusal (err : Error) : Refusal (joinBodyRefusal err) := by
  unfold joinBodyRefusal
  split_ifs <;> exact refusal_errorCode (by decide) _

theorem refusal_joinResponse (err : Error) : Refusal (joinResponse (.failed err)) := by
  simp only [joinResponse, joinRefusal]
  split_ifs
  iterate 4 exact refusal_errorCode (by decide) _
  exact refusal_apiError _

/-- At most expired sessions and the limiter have changed. -/
structure Pruned (before after : State) : Prop where
  repository : after.repository = before.repository
  room : after.roomNetworkID = before.roomNetworkID
  revoked : after.sessions.revokedNetworks = before.sessions.revokedNetworks
  sessions : ∀ (token : String) (session : Session),
    after.sessions.sessions[token]? = some session →
      before.sessions.sessions[token]? = some session

theorem Pruned.refl (state : State) : Pruned state state :=
  ⟨rfl, rfl, rfl, fun _ _ stored => stored⟩

theorem pruned_limiter (state : State) (limiter : RoomJoinLimiter) :
    Pruned state { state with limiter := limiter } := ⟨rfl, rfl, rfl, fun _ _ stored => stored⟩

section Authentication

variable {handler : Handler} {request : Request} {moment : Moment} {before : State}

/-- The request carries the token of the principal. -/
def Authenticated (handler : Handler) (request : Request) (moment : Moment) (before : State)
    (principal : Principal) : Prop :=
  authenticate handler request moment before = (.ok principal, before)

theorem Authenticated.unique {principal other : Principal}
    (authenticated : Authenticated handler request moment before principal)
    (again : Authenticated handler request moment before other) : other = principal :=
  Except.ok.inj (Prod.ext_iff.mp (again.symm.trans authenticated)).1

theorem authenticate_cases (handler : Handler) (request : Request) (moment : Moment)
    (before : State) :
    (∃ principal, Authenticated handler request moment before principal) ∨
      ∃ err after, authenticate handler request moment before = (.error err, after) ∧
        Pruned before after := by
  unfold Authenticated ControlHandler.authenticate
  rw [bind_apply]
  cases parseBearerHeader request.authorization with
  | error err => exact Or.inr ⟨err, before, rfl, Pruned.refl before⟩
  | ok token =>
    simp only [ask, credential]
    cases validateBootstrapToken handler.bootstrapToken token with
    | ok _ => exact Or.inl ⟨_, rfl⟩
    | error _ =>
      simp only [bind_apply, onSessions, within]
      rcases outcome : AuthTokens.authenticate moment.authenticatedAt token before.sessions with
        ⟨err | session, sessions⟩
      · refine Or.inr ⟨err, _, rfl, ?_⟩
        rcases AuthHistory.authenticate_error outcome with rfl | ⟨held, -, -, rfl⟩
        · exact Pruned.refl before
        · refine ⟨rfl, rfl, rfl, fun other session stored => ?_⟩
          rw [State.setSessions, Std.ExtTreeMap.getElem?_erase] at stored
          split_ifs at stored
          exact stored
      · obtain ⟨rfl, -⟩ := AuthHistory.authenticate_eq_ok.mp outcome
        exact Or.inl ⟨_, rfl⟩

theorem authenticated_iff {principal : Principal} :
    Authenticated handler request moment before principal ↔
      ∃ token, parseBearerHeader request.authorization = .ok token ∧
        if validateBootstrapToken handler.bootstrapToken token = .ok () then
          principal = ⟨⟨handler.bootstrapSubject, .admin, "", 0⟩, true⟩
        else ∃ session, principal = ⟨session, false⟩ ∧ token ≠ "" ∧
          before.sessions.sessions[token]? = some session ∧
          moment.authenticatedAt < session.expiresAt ∧
          (session.networkID = "" ∨
            isNetworkRevoked session.networkID before.sessions = false) := by
  unfold Authenticated ControlHandler.authenticate
  simp only [GoProgram.bind_eq_ok, ask_eq_ok]
  constructor
  · rintro ⟨token, _, ⟨parsed, rfl⟩, credited⟩
    refine ⟨token, parsed, ?_⟩
    unfold credential at credited
    cases bootstrap : validateBootstrapToken handler.bootstrapToken token with
    | ok _ =>
      rw [bootstrap] at credited
      rw [if_pos rfl]
      exact (Except.ok.inj (Prod.ext_iff.mp credited).1).symm
    | error _ =>
      rw [bootstrap] at credited
      simp only [GoProgram.bind_eq_ok, onSessions, within_eq_ok] at credited
      obtain ⟨session, _, ⟨sessions, valid, rfl⟩, finished⟩ := credited
      rw [if_neg (by simp)]
      refine ⟨session, (Except.ok.inj (Prod.ext_iff.mp finished).1).symm, ?_⟩
      exact (AuthHistory.authenticate_eq_ok.mp valid).2
  · rintro ⟨token, parsed, credited⟩
    refine ⟨token, before, ⟨parsed, rfl⟩, ?_⟩
    unfold credential
    cases bootstrap : validateBootstrapToken handler.bootstrapToken token with
    | ok _ =>
      rw [if_pos bootstrap] at credited
      subst credited
      rfl
    | error _ =>
      rw [if_neg (by simp [bootstrap])] at credited
      obtain ⟨session, rfl, valid⟩ := credited
      simp only [GoProgram.bind_eq_ok, onSessions, within_eq_ok]
      exact ⟨session, before, ⟨before.sessions,
        AuthHistory.authenticate_eq_ok.mpr ⟨rfl, valid⟩, rfl⟩, rfl⟩

theorem authenticated_of_session {token : String} {session : Session}
    (parsed : parseBearerHeader request.authorization = .ok token)
    (ordinary : validateBootstrapToken handler.bootstrapToken token ≠ .ok ())
    (present : token ≠ "") (stored : before.sessions.sessions[token]? = some session)
    (unexpired : moment.authenticatedAt < session.expiresAt)
    (unrevoked : session.networkID = "" ∨
      isNetworkRevoked session.networkID before.sessions = false) :
    Authenticated handler request moment before ⟨session, false⟩ := by
  refine authenticated_iff.mpr ⟨token, parsed, ?_⟩
  rw [if_neg ordinary]
  exact ⟨session, rfl, present, stored, unexpired, unrevoked⟩

end Authentication

def beats (moment : Moment) (nodeID : String) (clientVersion : Option String) : List Op :=
  clientVersion.toList.map (.updateNodeClientVersion moment.versionContext nodeID) ++
    [.touchNode moment.touchContext nodeID moment.now]

def namedNode (request : Request) : Option String :=
  match routeOf request with
  | .heartbeat => (resourceID request.path "nodes" "heartbeat").toOption
  | .leaveNode => (resourceID request.path "nodes" "leave").toOption
  | .deleteNode => (deletedNodeID request.path).toOption
  | _ => none

def namedNetwork (request : Request) : Option String :=
  match routeOf request with
  | .createInvite => (resourceID request.path "networks" "invites").toOption
  | .snapshot => (resourceID request.path "networks" "snapshot").toOption
  | _ => none

def joinRequest (inviteToken : String) (body : JoinBody) : EnrollmentRequest :=
  ⟨inviteToken, "", body.displayName, body.publicKey, body.platform, body.clientVersion⟩

def enrollRequest (body : EnrollBody) : EnrollmentRequest :=
  ⟨body.invite, body.nodeID, body.displayName, body.publicKey, body.platform, body.clientVersion⟩

/-- What `CreateNetwork` asks of a new network. -/
def Creatable (moment : Moment) (network : Network) (repository : MemoryRepository) : Prop :=
  moment.writeContext = .live ∧ validateNetwork network = .ok () ∧
    repository.networks[network.id]? = none

def CreatesNetwork (request : Request) (moment : Moment) (subject : String) (before : State) :
    Prop :=
  routeOf request = .createNetwork ∧ ∃ body pool networkID, request.networkBody = .ok body ∧
    blank body.name = false ∧ newPool body.pool = .ok pool ∧
    networkIDFor moment body = .ok networkID ∧
    Creatable moment ⟨networkID, body.name, body.pool, subject, 1, moment.now⟩ before.repository

/-- In room mode and while there is no room, a body from which the room's network
can be created. -/
def OpensRoom (handler : Handler) (request : Request) (moment : Moment) (subject : String)
    (before : State) : Prop :=
  routeOf request = .createRoom ∧ handler.roomMode = true ∧ before.roomNetworkID = "" ∧
    ∃ body pool, request.roomBody = .ok body ∧ blank body.name = false ∧
      newPool body.pool = .ok pool ∧
      Creatable moment ⟨moment.newID, trimSpace body.name, body.pool, subject, 1, moment.now⟩
        before.repository

structure Reports (handler : Handler) (request : Request) (moment : Moment) (before : State)
    (nodeID : String) (body : HeartbeatBody) (node : Node)
    (validated : List EndpointCandidate) : Prop where
  named : resourceID request.path "nodes" "heartbeat" = .ok nodeID
  authorized : ∃ principal, Authenticated handler request moment before principal ∧
    authorizeNode moment principal nodeID before = .ok ()
  known : getNode moment.lookupContext nodeID before.repository = .ok node
  parsed : request.heartbeatBody = .ok body
  accepted : ∃ endpoints,
    body.endpoints.mapM (parseHeartbeatEndpoint handler nodeID) = .ok endpoints ∧
      validateEndpoints nodeID endpoints [] = .ok validated
  live : moment.writeContext = .live

inductive Served (handler : Handler) (request : Request) (moment : Moment) (before : State) :
    Response → State → Prop
  | refused {response : Response} {after : State} (refusal : Refusal response)
      (pruned : Pruned before after) :
      Served handler request moment before response after
  | network {principal : Principal} {network : Network} {repository : MemoryRepository}
      (route : routeOf request = .createNetwork)
      (authenticated : Authenticated handler request moment before principal)
      (admin : principal.session.role = .admin)
      (unscoped : blank principal.session.networkID = true)
      (created : DbMemory.createNetwork moment.writeContext network before.repository =
        (.ok (), repository))
      (creates : CreatesNetwork request moment principal.session.subject before) :
      Served handler request moment before ⟨201, .network network⟩
        (before.setRepository repository)
  | room {principal : Principal} {network : Network} {repository : MemoryRepository}
      (route : routeOf request = .createRoom)
      (authenticated : Authenticated handler request moment before principal)
      (admin : principal.session.role = .admin)
      (vacant : before.roomNetworkID = "")
      (created : DbMemory.createNetwork moment.writeContext network before.repository =
        (.ok (), repository))
      (opens : OpensRoom handler request moment principal.session.subject before) :
      Served handler request moment before ⟨201, .network network⟩
        { before with roomNetworkID := network.id, repository := repository }
  | invite {principal : Principal} {networkID : String} {network : Network} {invite : Invite}
      {repository : MemoryRepository} {response : Response}
      (route : routeOf request = .createInvite)
      (authenticated : Authenticated handler request moment before principal)
      (admin : principal.session.role = .admin)
      (named : namedNetwork request = some networkID)
      (authorized : ControlHandler.authorizeNetwork moment principal networkID before = .ok ())
      (known : getNetwork moment.lookupContext networkID before.repository = .ok network)
      (inside : invite.networkID = network.id)
      (unconsumed : invite.consumedByNodeID = "")
      (created : DbMemory.createInvite moment.writeContext invite before.repository =
        (.ok (), repository))
      (success : response.status = 201) :
      Served handler request moment before response (before.setRepository repository)
  | enrolled {body : EnrollBody} {result : EnrollmentResult} {after : State}
      (route : routeOf request = .enroll)
      (parsed : request.enrollBody = .ok body)
      (transaction : transact moment.enrollment (enrollRequest body) before =
        some (result, after)) :
      Served handler request moment before ⟨201, .enrollment result⟩ after
  | joined {body : JoinBody} {invite : Invite} {limiter : RoomJoinLimiter}
      {repository : MemoryRepository} {inviteToken : String} {result : EnrollmentResult}
      {after : State}
      (route : routeOf request = .joinRoom)
      (parsed : request.joinBody = .ok body)
      (room : invite.networkID = before.roomNetworkID)
      (hash : invite.tokenHash = hashToken inviteToken)
      (unconsumed : invite.consumedByNodeID = "")
      (created : DbMemory.createInvite moment.writeContext invite before.repository =
        (.ok (), repository))
      (transaction : transact moment.enrollment (joinRequest inviteToken body)
        { before with limiter := limiter, repository := repository } = some (result, after)) :
      Served handler request moment before ⟨201, .enrollment result⟩ after
  | joinFailed {invite : Invite} {limiter : RoomJoinLimiter} {repository : MemoryRepository}
      {inviteID : String} {response : Response}
      (route : routeOf request = .joinRoom)
      (refusal : Refusal response)
      (room : invite.networkID = before.roomNetworkID)
      (unconsumed : invite.consumedByNodeID = "")
      (created : DbMemory.createInvite moment.writeContext invite before.repository =
        (.ok (), repository)) :
      Served handler request moment before response
        { before with
          limiter := limiter
          repository :=
            (revokeInvite moment.revokeContext inviteID moment.revokedAt repository).2 }
  | viewed {principal : Principal} {networkID : String} {built : NetworkSnapshot}
      {response : Response}
      (route : (routeOf request = .snapshot ∧ namedNetwork request = some networkID) ∨
        (routeOf request = .events ∧ networkID = principal.session.networkID))
      (authenticated : Authenticated handler request moment before principal)
      (node : principal.session.role = .node)
      (authorized : ControlHandler.authorizeNetwork moment principal networkID before = .ok ())
      (read : buildSnapshot moment networkID principal.session.subject before = .ok built)
      (shown : response = ⟨200, .snapshot built⟩ ∨ response = ⟨101, .event built⟩) :
      Served handler request moment before response before
  | heartbeat {principal : Principal} {nodeID : String} {endpoints : List EndpointCandidate}
      {written : List Op} {response : Response} {replaced : MemoryRepository}
      {body : HeartbeatBody} {node : Node} {validated : List EndpointCandidate}
      (route : routeOf request = .heartbeat)
      (named : namedNode request = some nodeID)
      (authenticated : Authenticated handler request moment before principal)
      (authorized : authorizeNode moment principal nodeID before = .ok ())
      (present : ∃ node, before.repository.nodes[nodeID]? = some node)
      (replacement : replaceEndpoints moment.writeContext nodeID endpoints before.repository =
        (.ok (), replaced))
      -- the writes that follow end with the first one that fails
      (partly : written <+: beats moment nodeID body.clientVersion)
      (answered : response = noContent ∨ Refusal response)
      (reports : Reports handler request moment before nodeID body node validated) :
      Served handler request moment before response
        (before.setRepository (run Op.step written replaced))
  | removed {principal : Principal} {nodeID : String} {repository : MemoryRepository}
      (route : routeOf request = .leaveNode ∨ routeOf request = .deleteNode)
      (named : namedNode request = some nodeID)
      (authenticated : Authenticated handler request moment before principal)
      (authorized : authorizeNode moment principal nodeID before = .ok ())
      (present : ∃ node, before.repository.nodes[nodeID]? = some node)
      (removal : removeNode moment.writeContext nodeID before.repository = (.ok (), repository))
      (looked : routeOf request = .leaveNode → moment.lookupContext = .live)
      (privileged : routeOf request = .deleteNode → principal.session.role = .admin) :
      Served handler request moment before noContent (before.setRepository repository)

section Routes

variable {handler : Handler} {request : Request} {moment : Moment} {before : State}

def Serves (handler : Handler) (request : Request) (moment : Moment) (before : State)
    (program : Program State Response Response) (state : State) : Prop :=
  wp program (Served handler request moment before) (Served handler request moment before) state

variable {respond : Error → Response}

theorem serves_authenticate {next : Principal → Program State Response Response}
    (refuses : ∀ err, Refusal (respond err))
    (continued : ∀ principal, Authenticated handler request moment before principal →
      Serves handler request moment before (next principal) before) :
    Serves handler request moment before
      (mapStop respond (ControlHandler.authenticate handler request moment) >>= next) before := by
  unfold Serves
  rw [wp_bind, wp_mapStop, wp]
  rcases authenticate_cases handler request moment before with ⟨principal, authenticated⟩ |
    ⟨err, after, failed, pruned⟩
  · rw [authenticated]
    exact continued principal authenticated
  · rw [failed]
    exact .refused (refuses err) pruned

theorem serves_requireAdmin {next : Principal → Program State Response Response}
    (refuses : ∀ err, Refusal (respond err))
    (continued : ∀ principal, Authenticated handler request moment before principal →
      principal.session.role = .admin →
      Serves handler request moment before (next principal) before) :
    Serves handler request moment before
      (mapStop respond (requireAdmin handler request moment) >>= next) before := by
  unfold Serves requireAdmin
  rw [wp_bind, wp_mapStop, wp_bind, wp]
  rcases authenticate_cases handler request moment before with ⟨principal, authenticated⟩ |
    ⟨err, after, failed, pruned⟩
  · rw [authenticated]
    refine wp_ask_bind (fun err refused => .refused (refuses err) (Pruned.refl before)) ?_
    intro _ allowed
    rw [wp_pure]
    refine continued principal authenticated ?_
    simpa using refuseWhen_ok.mp allowed
  · rw [failed]
    exact .refused (refuses err) pruned

theorem serves_ask {Value : Type} {read : State → Except Error Value}
    {next : Value → Program State Response Response} (refuses : ∀ err, Refusal (respond err))
    (continued : ∀ value, read before = .ok value →
      Serves handler request moment before (next value) before) :
    Serves handler request moment before (mapStop respond (ask read) >>= next) before :=
  wp_mapStop_ask_bind (fun err _ => .refused (refuses err) (Pruned.refl before)) continued

variable {response : Response}

theorem serves_stopWhen {stops : Bool} {next : Unit → Program State Response Response}
    (refuses : Refusal response)
    (continued : stops = false → Serves handler request moment before (next ()) before) :
    Serves handler request moment before (stopWhen stops response >>= next) before :=
  wp_stopWhen_bind (fun _ => .refused refuses (Pruned.refl before)) continued

theorem refusal_answer (err : Error) : Refusal (apiError (statusForError err)) :=
  refusal_apiError _

theorem serves_write {Value : Type} {next : Value → Program State Response Response}
    {step : MemoryRepository → Except Error Value × MemoryRepository}
    (guarded : ∀ err after, step before.repository = (.error err, after) →
      after = before.repository)
    (continued : ∀ value after, step before.repository = (.ok value, after) →
      Serves handler request moment before (next value) (before.setRepository after)) :
    Serves handler request moment before (answer (onRepository step) >>= next) before := by
  refine wp_mapStop_within_bind (fun err repository failed => ?_) continued
  rw [guarded err repository failed]
  exact .refused (refusal_answer err) (Pruned.refl before)

theorem creatable_of_ok {network : Network} {repository after : MemoryRepository}
    (created : DbMemory.createNetwork moment.writeContext network repository = (.ok (), after)) :
    Creatable moment network repository := by
  obtain ⟨live, valid, fresh, -⟩ := createNetwork_eq_ok.mp created
  exact ⟨live, valid, fresh⟩

theorem serves_createNetwork (route : routeOf request = .createNetwork) :
    Serves handler request moment before (createNetwork handler request moment) before := by
  refine serves_requireAdmin refusal_answer fun principal authenticated admin => ?_
  refine serves_stopWhen (refusal_apiError 403) fun unscoped => ?_
  refine serves_ask (fun _ => refusal_apiError 422) fun body parsed => ?_
  refine serves_stopWhen (refusal_apiError 422) fun named => ?_
  refine serves_ask (fun _ => refusal_apiError 422) fun pool read => ?_
  refine serves_ask (fun _ => refusal_apiError 422) fun networkID identified => ?_
  refine serves_write (fun _ _ => guarded_error) fun _ repository created => ?_
  exact .network route authenticated admin (by simpa using unscoped) created
    ⟨route, body, pool, networkID, parsed, named, read, identified, creatable_of_ok created⟩

theorem serves_createRoom (route : routeOf request = .createRoom) :
    Serves handler request moment before (createRoom handler request moment) before := by
  refine serves_stopWhen (refusal_errorCode (by decide) _) fun mode => ?_
  refine serves_requireAdmin (fun err => refusal_errorCode (statusForError_isError err) _)
    fun principal authenticated admin => ?_
  refine serves_ask (fun _ => refusal_errorCode (by decide) _) fun body parsed => ?_
  refine serves_stopWhen (refusal_errorCode (by decide) _) fun named => ?_
  refine serves_ask (fun _ => refusal_errorCode (by decide) _) fun pool read => ?_
  unfold Serves
  rw [wp_bind, wp_mapStop, wp, call]
  have refuses : ∀ err : Error, Refusal (if err.is .roomAlreadyExists then
      errorCode 409 "room_already_exists" else apiError (statusForError err)) := by
    intro err
    split_ifs
    · exact refusal_errorCode (by decide) _
    · exact refusal_answer err
  by_cases vacant : before.roomNetworkID = ""
  · rcases created : DbMemory.createNetwork moment.writeContext ⟨moment.newID, trimSpace body.name,
      body.pool, principal.session.subject, 1, moment.now⟩ before.repository with
      ⟨err | _, repository⟩
    · obtain rfl : repository = before.repository := guarded_error created
      simp only [create, vacant, ne_eq, not_true_eq_false, if_false, created]
      exact .refused (refuses err) ⟨rfl, vacant.symm, rfl, fun _ _ stored => stored⟩
    · simp only [create, vacant, ne_eq, not_true_eq_false, if_false, created]
      exact .room route authenticated admin vacant created ⟨route, by simpa using mode, vacant,
        body, pool, parsed, named, read, creatable_of_ok created⟩
  · simp only [create, ne_eq, vacant, not_false_eq_true, if_true]
    exact .refused (refuses _) (Pruned.refl before)

theorem serves_createInvite (route : routeOf request = .createInvite) :
    Serves handler request moment before (createInvite handler request moment) before := by
  refine serves_requireAdmin refusal_answer fun principal authenticated admin => ?_
  refine serves_ask refusal_answer fun networkID named => ?_
  refine serves_ask refusal_answer fun _ authorized => ?_
  refine serves_ask refusal_answer fun network known => ?_
  refine serves_ask (fun _ => refusal_apiError 422) fun body _ => ?_
  refine serves_ask (fun _ => refusal_apiError 422) fun duration _ => ?_
  refine serves_ask (fun _ => refusal_apiError 500) fun secret _ => ?_
  refine serves_write (fun _ _ => guarded_error) fun _ repository created => ?_
  have path : namedNetwork request = some networkID := by
    simp only [namedNetwork, route, named, Except.toOption]
  exact .invite route authenticated admin path authorized known rfl rfl created rfl

theorem serves_snapshot (route : routeOf request = .snapshot) :
    Serves handler request moment before (snapshot handler request moment) before := by
  refine serves_authenticate refusal_answer fun principal authenticated => ?_
  refine serves_stopWhen (refusal_apiError 403) fun node => ?_
  refine serves_ask refusal_answer fun networkID named => ?_
  refine serves_ask refusal_answer fun _ authorized => ?_
  refine serves_ask refusal_answer fun built read => ?_
  have path : namedNetwork request = some networkID := by
    simp only [namedNetwork, route, named, Except.toOption]
  exact .viewed (Or.inl ⟨route, path⟩) authenticated (by simpa using node) authorized read
    (Or.inl rfl)

theorem serves_events (route : routeOf request = .events) :
    Serves handler request moment before (events handler request moment) before := by
  refine serves_authenticate refusal_answer fun principal authenticated => ?_
  refine serves_stopWhen (refusal_apiError 403) fun node => ?_
  refine serves_ask refusal_answer fun _ authorized => ?_
  refine serves_ask refusal_answer fun built read => ?_
  unfold Serves
  rw [wp_ask]
  cases moment.upgradeFailure with
  | some status => exact .refused ⟨status.property, Or.inl rfl⟩ (Pruned.refl before)
  | none =>
    exact .viewed (Or.inr ⟨route, rfl⟩) authenticated (by simpa using node) authorized read
      (Or.inr rfl)

theorem serves_deleteNode (route : routeOf request = .deleteNode) :
    Serves handler request moment before (deleteNode handler request moment) before := by
  refine serves_requireAdmin refusal_answer fun principal authenticated admin => ?_
  refine serves_ask refusal_answer fun nodeID named => ?_
  refine serves_ask refusal_answer fun _ authorized => ?_
  refine serves_write (fun _ _ => guarded_error) fun _ repository removal => ?_
  have path : namedNode request = some nodeID := by
    simp only [namedNode, route, named, Except.toOption]
  obtain ⟨-, node, present, -⟩ := removeNode_eq_ok.mp removal
  refine .removed (Or.inr route) path authenticated ?_ ⟨node, present⟩ removal
    (fun leaves => by simp [route] at leaves) fun _ => admin
  simpa only [authorizeNode, admin] using authorized

theorem serves_leaveNode (route : routeOf request = .leaveNode) :
    Serves handler request moment before (leaveNode handler request moment) before := by
  refine serves_authenticate refusal_answer fun principal authenticated => ?_
  refine serves_ask refusal_answer fun nodeID named => ?_
  refine serves_ask refusal_answer fun _ authorized => ?_
  refine serves_ask refusal_answer fun node known => ?_
  refine serves_write (fun _ _ => guarded_error) fun _ repository removal => ?_
  have path : namedNode request = some nodeID := by
    simp only [namedNode, route, named, Except.toOption]
  obtain ⟨looked, present⟩ := getNode_eq_ok.mp known
  exact .removed (Or.inl route) path authenticated authorized ⟨node, present⟩ removal
    (fun _ => looked) fun deletes => by simp [route] at deletes

theorem serves_enroll (route : routeOf request = .enroll) :
    Serves handler request moment before (enroll handler request moment) before := by
  refine serves_ask (fun _ => refusal_apiError 422) fun body parsed => ?_
  unfold Serves
  rw [wp_bind, call, wp]
  rcases enrollControl_cases handler.recoveryAttempts .done moment.enrollment (enrollRequest body)
    before with ⟨-, err, failed⟩ | ⟨result, after, transaction, finished⟩
  · rw [enrollRequest] at failed
    rw [failed]
    exact .refused (refusal_answer err) (Pruned.refl before)
  · rw [enrollRequest] at finished
    rw [finished]
    exact .enrolled route parsed transaction

theorem activeRoom_error {state : State} (closed : activeRoom state = .error response) :
    Refusal response := by
  unfold activeRoom at closed
  split_ifs at closed
  cases closed
  exact refusal_errorCode (by decide) _

theorem activeRoom_ok {state : State} {networkID : String}
    (open_ : activeRoom state = .ok networkID) : networkID = state.roomNetworkID := by
  unfold activeRoom at open_
  split_ifs at open_
  exact (Except.ok.inj open_).symm

theorem allowJoin_error {after : State}
    (limited : allowJoin request moment before = (.error response, after)) :
    Refusal response ∧ Pruned before after := by
  unfold allowJoin at limited
  simp only at limited
  split_ifs at limited
  · cases limited
  · cases limited
    exact ⟨refusal_errorCode (by decide) _, pruned_limiter before _⟩

theorem allowJoin_ok {after : State}
    (admitted : allowJoin request moment before = (.ok (), after)) :
    ∃ limiter, after = { before with limiter := limiter } :=
  ⟨_, (Prod.ext_iff.mp admitted).2.symm⟩

theorem serves_enrollment_of_join {limiter : RoomJoinLimiter} {repository : MemoryRepository}
    {invite : Invite} (inviteToken : String) (body : JoinBody)
    (route : routeOf request = .joinRoom) (parsed : request.joinBody = .ok body)
    (room : invite.networkID = before.roomNetworkID)
    (hash : invite.tokenHash = hashToken inviteToken)
    (unconsumed : invite.consumedByNodeID = "")
    (created : DbMemory.createInvite moment.writeContext invite before.repository =
      (.ok (), repository)) :
    let state : State := { before with limiter := limiter, repository := repository }
    let returned := enrollControl handler.recoveryAttempts .done moment.enrollment
      (joinRequest inviteToken body) state
    let compensated := compensate moment inviteToken returned.1 returned.2
    Served handler request moment before (joinResponse compensated.1) compensated.2 := by
  intro state
  rcases enrollControl_cases handler.recoveryAttempts .done moment.enrollment
    (joinRequest inviteToken body) state with ⟨-, err, failed⟩ |
      ⟨result, after, transaction, finished⟩
  · rw [failed]
    simp only [compensate]
    rcases revocation : revokeInvite moment.revokeContext
      (String.ofList (inviteToken.toList.takeWhile (· ≠ '.'))) moment.revokedAt state.repository
      with ⟨revokeErr | _, revoked⟩
    all_goals
      obtain rfl := congrArg Prod.snd revocation
      exact .joinFailed route (refusal_joinResponse _) room unconsumed created
  · rw [finished]
    exact .joined route parsed room hash unconsumed created transaction

theorem serves_joinRoom (route : routeOf request = .joinRoom) :
    Serves handler request moment before (joinRoom handler request moment) before := by
  refine serves_stopWhen (refusal_errorCode (by decide) _) fun _ => ?_
  refine wp_ask_bind (fun response closed => ?_) fun _ _ => ?_
  · exact .refused (activeRoom_error closed) (Pruned.refl before)
  refine wp_call_bind (fun response after limited => ?_) fun _ state admitted => ?_
  · obtain ⟨refusal, pruned⟩ := allowJoin_error limited
    exact .refused refusal pruned
  obtain ⟨limiter, rfl⟩ := allowJoin_ok admitted
  refine wp_mapStop_ask_bind (fun err _ => ?_) fun body parsed => ?_
  · exact .refused (refusal_joinBodyRefusal err) (pruned_limiter before limiter)
  refine wp_ask_bind (fun response closed => ?_) fun roomNetworkID active => ?_
  · exact .refused (activeRoom_error closed) (pruned_limiter before limiter)
  have room := activeRoom_ok active
  rw [wp_bind, answer, wp_mapStop, newInternalRoomInvite]
  refine wp_ask_bind (fun err _ => ?_) fun secret _ => ?_
  · exact .refused (refusal_answer err) (pruned_limiter before limiter)
  rw [wp_bind, onRepository, wp_within]
  rcases created : DbMemory.createInvite moment.writeContext
    (newInvite moment roomNetworkID secret handler.inviteTTL) before.repository with
    ⟨err | _, repository⟩
  · obtain rfl : repository = before.repository := guarded_error created
    exact .refused (refusal_answer err) (pruned_limiter before limiter)
  · exact serves_enrollment_of_join (inviteTokenFor moment.newID secret) body route parsed room rfl
      rfl created

theorem serves_touch {nodeID : String} {clientVersion : Option String}
    {replaced : MemoryRepository} (written : List Op)
    (ends : ∀ written response, written <+: beats moment nodeID clientVersion →
      (response = noContent ∨ Refusal response) →
      Served handler request moment before response
        (before.setRepository (run Op.step written replaced)))
    (complete : beats moment nodeID clientVersion =
      written ++ [.touchNode moment.touchContext nodeID moment.now]) :
    Serves handler request moment before
      (do
        answer (onRepository (touchNode moment.touchContext nodeID moment.now))
        return noContent)
      (before.setRepository (run Op.step written replaced)) := by
  refine wp_mapStop_within_bind (fun err repository failed => ?_) fun _ repository touched => ?_
  · obtain rfl : repository = run Op.step written replaced := guarded_error failed
    exact ends written _ ⟨_, complete.symm⟩ (Or.inr (refusal_answer err))
  · have ran : repository = run Op.step (beats moment nodeID clientVersion) replaced := by
      rw [complete, run_append]
      exact (congrArg Prod.snd touched).symm
    rw [ran]
    exact ends _ _ (List.prefix_refl _) (Or.inl rfl)

theorem serves_heartbeat (route : routeOf request = .heartbeat) :
    Serves handler request moment before (heartbeat handler request moment) before := by
  refine serves_authenticate refusal_answer fun principal authenticated => ?_
  refine serves_ask refusal_answer fun nodeID resource => ?_
  refine serves_ask refusal_answer fun _ authorized => ?_
  refine serves_ask refusal_answer fun node known => ?_
  refine serves_ask (fun _ => refusal_apiError 422) fun body parsed => ?_
  refine serves_ask (fun _ => refusal_apiError 422) fun endpoints read => ?_
  refine serves_write (fun _ _ => guarded_error) fun _ replaced replacement => ?_
  obtain ⟨live, present, validated, valid, -⟩ := replaceEndpoints_eq_ok.mp replacement
  have named : namedNode request = some nodeID := by
    simp only [namedNode, route, resource, Except.toOption]
  have ends : ∀ written response, written <+: beats moment nodeID body.clientVersion →
      (response = noContent ∨ Refusal response) → _ := fun _ _ partly answered =>
    Served.heartbeat route named authenticated authorized present replacement partly answered
      ⟨resource, ⟨principal, authenticated, authorized⟩, known, parsed, ⟨endpoints, read, valid⟩,
        live⟩
  cases version : body.clientVersion with
  | none =>
    rw [version] at ends
    exact serves_touch [] ends rfl
  | some text =>
    rw [version] at ends
    refine wp_mapStop_within_bind (fun err repository failed => ?_)
      fun _ repository updated => ?_
    · obtain rfl : repository = replaced := guarded_error failed
      exact ends [] _ List.nil_prefix (Or.inr (refusal_answer err))
    · have second : repository = run Op.step
          [.updateNodeClientVersion moment.versionContext nodeID text] replaced :=
        (congrArg Prod.snd updated).symm
      rw [second]
      exact serves_touch _ ends rfl

theorem serves_route (handler : Handler) (request : Request) (moment : Moment) (before : State) :
    Serves handler request moment before
      ((routeOf request).program handler request moment) before := by
  cases route : routeOf request with
  | createRoom => exact serves_createRoom route
  | joinRoom => exact serves_joinRoom route
  | createNetwork => exact serves_createNetwork route
  | createInvite => exact serves_createInvite route
  | enroll => exact serves_enroll route
  | snapshot => exact serves_snapshot route
  | heartbeat => exact serves_heartbeat route
  | leaveNode => exact serves_leaveNode route
  | deleteNode => exact serves_deleteNode route
  | events => exact serves_events route
  | notFound => exact .refused (refusal_apiError 404) (Pruned.refl before)

theorem serveHTTP_served (handler : Handler) (request : Request) (moment : Moment)
    (before : State) :
    Served handler request moment before (serveHTTP handler request moment before).1
      (serveHTTP handler request moment before).2 := by
  have serves := serves_route handler request moment before
  unfold serveHTTP
  unfold Serves wp at serves
  rcases outcome : (routeOf request).program handler request moment before with
    ⟨response | response, after⟩ <;> rw [outcome] at serves <;> exact serves

end Routes

end Ipv6Mesh.HandlerEffects
