import Ipv6Mesh.ControlEnrollment
import Ipv6Mesh.DbSnapshot

/-!
# The control-plane HTTP handler

The routes of `internal/control/http.go` and `room.go` over the memory
repository. A request carries what `decodeJSON` makes of its body for each
destination; a `Moment` carries the clock values, random answers, context
states and identifiers that serving one request takes from outside. A response
is its status and the record its JSON is made of.
-/

namespace Ipv6Mesh.ControlHandler

open GoText GoNet GoBase64 GoProgram ControlModel ControlValidation DbMemory DbSnapshot AddressPool
  AuthTokens ControlRoom ControlEnrollment

def defaultSessionTTL : Duration := 60 * minute

def defaultInviteTTL : Duration := 24 * 60 * minute

def defaultEnrollmentRecoveryAttempts : Nat := 3

structure HandlerOptions where
  bootstrapToken : String
  bootstrapSubject : String
  sessionTTL : Duration
  inviteTTL : Duration
  sessionStore : Option SessionStore
  enrollmentRecoveryAttempts : Int
  roomMode : Bool
  roomJoinPerIP : Int
  roomJoinGlobal : Int

/-- `parseDuration` and `parseTime` stand for `time.ParseDuration` and for
`time.Parse` with the RFC 3339 layout; nothing is assumed of them. -/
structure Handler where
  bootstrapToken : String
  bootstrapSubject : String
  inviteTTL : Duration
  recoveryAttempts : Nat
  roomMode : Bool
  parseDuration : String → Option Duration
  parseTime : String → Option Time

def newHandler (options : HandlerOptions) (parseDuration : String → Option Duration)
    (parseTime : String → Option Time) : Handler :=
  { bootstrapToken := options.bootstrapToken
    bootstrapSubject :=
      if options.bootstrapSubject = "" then "bootstrap-admin" else options.bootstrapSubject
    inviteTTL := if options.inviteTTL ≤ 0 then defaultInviteTTL else options.inviteTTL
    recoveryAttempts := if options.enrollmentRecoveryAttempts ≤ 0 then
      defaultEnrollmentRecoveryAttempts else options.enrollmentRecoveryAttempts.toNat
    roomMode := options.roomMode
    parseDuration := parseDuration
    parseTime := parseTime }

def newState (options : HandlerOptions) (repository : MemoryRepository) : State :=
  let sessionTTL := if options.sessionTTL ≤ 0 then defaultSessionTTL else options.sessionTTL
  { repository := repository
    sessions := options.sessionStore.getD (newSessionStore sessionTTL)
    roomNetworkID := ""
    limiter := newRoomJoinLimiter options.roomJoinPerIP options.roomJoinGlobal }

inductive Method where
  | get
  | post
  | delete
  | other (text : String)
deriving DecidableEq

structure NetworkBody where
  id : String
  name : String
  pool : String

structure RoomBody where
  name : String
  pool : String

structure InviteBody where
  expiresIn : String

structure EnrollBody where
  invite : String
  nodeID : String
  displayName : String
  publicKey : String
  platform : String
  clientVersion : String

structure JoinBody where
  publicKey : String
  displayName : String
  platform : String
  clientVersion : String

structure HeartbeatEndpoint where
  address : String
  port : UInt16
  family : EndpointFamily
  interface : String
  priority : Int
  observedAt : String

structure HeartbeatBody where
  endpoints : List HeartbeatEndpoint
  clientVersion : Option String

structure Request where
  method : Method
  path : String
  authorization : String
  remoteAddr : String
  networkBody : Except Error NetworkBody
  roomBody : Except Error RoomBody
  inviteBody : Except Error InviteBody
  enrollBody : Except Error EnrollBody
  joinBody : Except Error JoinBody
  heartbeatBody : Except Error HeartbeatBody

structure Moment where
  authenticatedAt : Time
  authorizedAt : Time
  now : Time
  wall : Time
  limiterAt : Time
  revokedAt : Time
  newID : String
  secret : Except Error Secret
  scopeContext : Context
  lookupContext : Context
  writeContext : Context
  versionContext : Context
  touchContext : Context
  revokeContext : Context
  enrollment : Surroundings
  /-- The error status that answers a failed upgrade to a web socket. -/
  upgradeFailure : Option { status : Nat // 400 ≤ status }

inductive Body where
  | empty
  | code (error : String)
  | network (network : Network)
  | invite (inviteID networkID token : String) (expiresAt : Time)
  | enrollment (result : EnrollmentResult)
  | recoveryPending (result : EnrollmentResult)
  | snapshot (snapshot : NetworkSnapshot)
  | event (snapshot : NetworkSnapshot)

structure Response where
  status : Nat
  body : Body

def noContent : Response := ⟨204, .empty⟩

def errorCode (status : Nat) (code : String) : Response := ⟨status, .code code⟩

def codeOf : Nat → String
  | 401 => "unauthorized"
  | 403 => "forbidden"
  | 404 => "not_found"
  | 409 => "conflict"
  | 422 => "invalid_request"
  | 503 => "enrollment_recovery_pending"
  | 413 => "request_too_large"
  | _ => "internal_error"

def apiError (status : Nat) : Response :=
  let status := if status < 400 then 500 else status
  errorCode status (codeOf status)

def isAny (err : Error) (identities : List Sentinel) : Bool :=
  identities.any fun identity => err.is identity

def statusForError (err : Error) : Nat :=
  if isAny err [.missingCredential, .malformedCredential, .invalidCredential, .sessionExpired,
      .invalidBootstrapToken, .unauthorized] then 401
  else if isAny err [.insufficientPermission, .wrongNetwork, .revokedNetwork] then 403
  else if isAny err [.enrollmentRecoveryPending] then 503
  else if isAny err [.notFound] then 404
  else if isAny err [.conflict, .inviteConsumed, .inviteExpired, .inviteRevoked] then 409
  else if isAny err [.validation, .invalidPool, .poolExhausted, .invalidInviteToken,
      .invalidRequest, .invalidJSON] then 422
  else if isAny err [.requestTooLarge] then 413
  else 500

def answer {Value : Type} (program : Program State Error Value) : Program State Response Value :=
  mapStop (fun err => apiError (statusForError err)) program

def answerWith {Value : Type} (response : Response) (program : Program State Error Value) :
    Program State Response Value :=
  mapStop (fun _ => response) program

def unescapeBytes : List Char → Option (List UInt8)
  | [] => some []
  | '%' :: high :: low :: rest => do
      let upper ← hexValue high
      let lower ← hexValue low
      let tail ← unescapeBytes rest
      some (UInt8.ofNat (upper * 16 + lower) :: tail)
  | '%' :: _ => none
  | character :: rest => do
      let tail ← unescapeBytes rest
      some (String.utf8EncodeChar character ++ tail)

/-- `url.PathUnescape`. Bytes that are not UTF-8 are no identifier of a stored
record and are refused here like a malformed escape. -/
def pathUnescape (segment : String) : Option String := do
  let bytes ← unescapeBytes segment.toList
  String.fromUTF8? ⟨bytes.toArray⟩

def pathParts (path : String) : List String :=
  match path.toList with
  | '/' :: rest => splitAt '/' (String.ofList rest)
  | _ => splitAt '/' path

def hasPathSuffix (path suffix : String) : Bool :=
  if !"/v1/".toList.isPrefixOf path.toList || path.toList.getLast? = some '/' then false
  else
    match pathParts path with
    | [version, collection, _, last] => version = "v1" && collection ≠ "" && last = suffix
    | _ => false

/-- The unescaped identifier of a resource; the error is the answer of the routes. -/
def identifierOf (segment : String) : Except Error String :=
  match pathUnescape segment with
  | some id => if id = "" then .error (.sentinel .notFound) else .ok id
  | none => .error (.sentinel .notFound)

def resourceID (path collection suffix : String) : Except Error String :=
  match pathParts path with
  | [version, first, segment, last] =>
    if version ≠ "v1" ∨ first ≠ collection ∨ segment = "" ∨ last ≠ suffix then
      .error (.sentinel .notFound)
    else identifierOf segment
  | _ => .error (.sentinel .notFound)

def deletedNodeID (path : String) : Except Error String :=
  match pathParts path with
  | [version, collection, segment] =>
    if version ≠ "v1" ∨ collection ≠ "nodes" ∨ segment = "" then .error (.sentinel .notFound)
    else identifierOf segment
  | _ => .error (.sentinel .notFound)

def isRequestIDCharacter (character : Char) : Bool :=
  ('a' ≤ character && character ≤ 'z') || ('A' ≤ character && character ≤ 'Z') ||
    ('0' ≤ character && character ≤ '9') || character ∈ ['-', '_', '.', ':']

def validRequestID (value : String) : Bool :=
  value ≠ "" && (bytesOf value).length ≤ 128 && value.toList.all isRequestIDCharacter

structure Principal where
  session : Session
  bootstrap : Bool

section Routes

variable (handler : Handler) (request : Request) (moment : Moment)

def credential (token : String) : Program State Error Principal :=
  match validateBootstrapToken handler.bootstrapToken token with
  | .ok () => pure ⟨⟨handler.bootstrapSubject, .admin, "", 0⟩, true⟩
  | .error _ => do
      let session ← onSessions (AuthTokens.authenticate moment.authenticatedAt token)
      return ⟨session, false⟩

def authenticate : Program State Error Principal := do
  let token ← ask fun _ => parseBearerHeader request.authorization
  credential handler moment token

def requireAdmin : Program State Error Principal := do
  let principal ← authenticate handler request moment
  ask fun _ => refuseWhen (principal.session.role ≠ .admin) .insufficientPermission
  return principal

def authorizeNetwork (principal : Principal) (networkID : String) (state : State) :
    Except Error Unit :=
  AuthTokens.authorizeNetwork moment.authorizedAt principal.session networkID state.sessions

/-- A scoped administrator reaches a node only when it is a member of the
administrator's network and of no other. -/
def authorizeAdminNodeScope (principal : Principal) (nodeID : String) (state : State) :
    Except Error Unit := do
  refuseWhen (principal.session.role ≠ .admin) .insufficientPermission
  if blank principal.session.networkID then .ok ()
  else do
    let networkIDs ← getNodeNetworkIDs moment.scopeContext nodeID state.repository
    refuseWhen networkIDs.isEmpty .insufficientPermission
    refuseWhen (networkIDs.any (· ≠ principal.session.networkID)) .wrongNetwork
    authorizeNetwork moment principal principal.session.networkID state

def authorizeNode (principal : Principal) (nodeID : String) (state : State) : Except Error Unit :=
  match principal.session.role with
  | .node => do
      refuseWhen (nodeID ≠ principal.session.subject) .insufficientPermission
      authorizeNetwork moment principal principal.session.networkID state
  | .admin => authorizeAdminNodeScope moment principal nodeID state
  | .unsupported _ => .error (.sentinel .insufficientPermission)

def networkIDFor (body : NetworkBody) : Except Error String :=
  if trimSpace body.id = "" then .ok moment.newID
  else if validRequestID (trimSpace body.id) then .ok (trimSpace body.id)
  else .error (.invalid "network" "id" ("must contain only letters, digits, '-', '_', '.', " ++
    "or ':' and be at most 128 characters"))

def createNetwork : Program State Response Response := do
  let principal ← answer (requireAdmin handler request moment)
  stopWhen (!blank principal.session.networkID) (apiError 403)
  let body ← answerWith (apiError 422) (ask fun _ => request.networkBody)
  stopWhen (blank body.name) (apiError 422)
  let _ ← answerWith (apiError 422) (ask fun _ => newPool body.pool)
  let networkID ← answerWith (apiError 422) (ask fun _ => networkIDFor moment body)
  let network : Network :=
    ⟨networkID, body.name, body.pool, principal.session.subject, 1, moment.now⟩
  answer (onRepository (DbMemory.createNetwork moment.writeContext network))
  return ⟨201, .network network⟩

def positiveDuration (expiresIn : String) : Except Error Duration :=
  match handler.parseDuration expiresIn with
  | some duration => if duration ≤ 0 then .error (.sentinel .validation) else .ok duration
  | none => .error (.sentinel .validation)

def inviteTokenFor (inviteID : String) (secret : Secret) : String :=
  inviteID ++ "." ++ encodeRawURL secret.val

def newInvite (networkID : String) (secret : Secret) (duration : Duration) : Invite :=
  { id := moment.newID, networkID := networkID
    tokenHash := hashToken (inviteTokenFor moment.newID secret)
    expiresAt := moment.now + duration, consumedAt := none, revokedAt := none
    consumedByNodeID := "", createdAt := moment.now }

def createInvite : Program State Response Response := do
  let principal ← answer (requireAdmin handler request moment)
  let networkID ← answer (ask fun _ => resourceID request.path "networks" "invites")
  answer (ask (authorizeNetwork moment principal networkID))
  let network ← answer (readRepository (getNetwork moment.lookupContext networkID))
  let body ← answerWith (apiError 422) (ask fun _ => request.inviteBody)
  let duration ← answerWith (apiError 422) (ask fun _ => positiveDuration handler body.expiresIn)
  let secret ← answerWith (apiError 500) (ask fun _ => moment.secret)
  let invite := newInvite moment network.id secret duration
  answer (onRepository (DbMemory.createInvite moment.writeContext invite))
  return ⟨201, .invite invite.id invite.networkID (inviteTokenFor invite.id secret)
    invite.expiresAt⟩

def writeEnrollmentResult : EnrollmentReturn → Response
  | .done result => ⟨201, .enrollment result⟩
  | .pending result err =>
    if err.is .enrollmentRecoveryPending then ⟨503, .recoveryPending result⟩
    else apiError (statusForError err)
  | .failed err => apiError (statusForError err)

def enroll : Program State Response Response := do
  let body ← answerWith (apiError 422) (ask fun _ => request.enrollBody)
  let enrolled ← call fun state =>
    let returned := enrollControl handler.recoveryAttempts .done moment.enrollment
      ⟨body.invite, body.nodeID, body.displayName, body.publicKey, body.platform,
        body.clientVersion⟩ state
    (.ok returned.1, returned.2)
  return writeEnrollmentResult enrolled

def createRoom : Program State Response Response := do
  stopWhen (!handler.roomMode) (errorCode 404 "room_mode_disabled")
  let principal ← mapStop (fun err => errorCode (statusForError err) "unauthorized")
    (requireAdmin handler request moment)
  let body ← answerWith (errorCode 422 "invalid_room") (ask fun _ => request.roomBody)
  stopWhen (blank body.name) (errorCode 422 "invalid_room")
  let _ ← answerWith (errorCode 422 "invalid_room") (ask fun _ => newPool body.pool)
  let network : Network := ⟨moment.newID, trimSpace body.name, body.pool,
    principal.session.subject, 1, moment.now⟩
  mapStop (fun err => if err.is .roomAlreadyExists then errorCode 409 "room_already_exists"
      else apiError (statusForError err))
    (call fun state =>
      let created := create moment.writeContext network state.roomNetworkID state.repository
      (created.1, { state with roomNetworkID := created.2.1, repository := created.2.2 }))
  return ⟨201, .network network⟩

def allowJoin (state : State) : Except Response Unit × State :=
  let allowed := state.limiter.allow request.remoteAddr moment.limiterAt
  (if allowed.1 then .ok () else .error (errorCode 429 "join_rate_limited"),
    { state with limiter := allowed.2 })

def joinBodyRefusal (err : Error) : Response :=
  if err.is .requestTooLarge then errorCode 413 "request_too_large"
  else errorCode 422 "invalid_node"

def newInternalRoomInvite (networkID : String) : Program State Error String := do
  let secret ← ask fun _ => moment.secret
  let invite := newInvite moment networkID secret handler.inviteTTL
  onRepository (DbMemory.createInvite moment.writeContext invite)
  return inviteTokenFor moment.newID secret

/-- After a failed enrollment the invite is revoked under the text before the
token's first dot, and a failure of that is joined to the error. -/
def compensate (inviteToken : String) (enrolled : EnrollmentReturn) (state : State) :
    EnrollmentReturn × State :=
  match enrolled with
  | .failed err =>
    let inviteID := String.ofList (inviteToken.toList.takeWhile (· ≠ '.'))
    match revokeInvite moment.revokeContext inviteID moment.revokedAt state.repository with
    | (.ok (), after) => (.failed err, state.setRepository after)
    | (.error revokeErr, after) => (.failed (.join err revokeErr), state.setRepository after)
  | returned => (returned, state)

def joinRefusal (returned : EnrollmentReturn) (err : Error) : Response :=
  if err.is .poolExhausted then errorCode 409 "room_full"
  else if err.is .conflict then errorCode 409 "node_already_joined"
  else if err.is .requestTooLarge then errorCode 413 "request_too_large"
  else if err.is .invalidRequest || err.is .validation then errorCode 422 "invalid_node"
  else writeEnrollmentResult returned

def joinResponse : EnrollmentReturn → Response
  | .done result => writeEnrollmentResult (.done result)
  | .pending result err => joinRefusal (.pending result err) err
  | .failed err => joinRefusal (.failed err) err

def activeRoom (state : State) : Except Response String :=
  if state.roomNetworkID = "" then .error (errorCode 404 "room_not_ready")
  else .ok state.roomNetworkID

def joinRoom : Program State Response Response := do
  stopWhen (!handler.roomMode) (errorCode 404 "room_mode_disabled")
  let _ ← ask activeRoom
  call (allowJoin request moment)
  let body ← mapStop joinBodyRefusal (ask fun _ => request.joinBody)
  let roomNetworkID ← ask activeRoom
  let inviteToken ← answer (newInternalRoomInvite handler moment roomNetworkID)
  let enrolled ← call fun state =>
    let returned := enrollControl handler.recoveryAttempts .done moment.enrollment
      ⟨inviteToken, "", body.displayName, body.publicKey, body.platform, body.clientVersion⟩ state
    let compensated := compensate moment inviteToken returned.1 returned.2
    (.ok compensated.1, compensated.2)
  return joinResponse enrolled

def buildSnapshot (networkID nodeID : String) (state : State) : Except Error NetworkSnapshot :=
  buildSnapshotAt moment.writeContext moment.wall networkID nodeID moment.wall state.repository

def snapshot : Program State Response Response := do
  let principal ← answer (authenticate handler request moment)
  stopWhen (principal.session.role ≠ .node) (apiError 403)
  let networkID ← answer (ask fun _ => resourceID request.path "networks" "snapshot")
  answer (ask (authorizeNetwork moment principal networkID))
  let built ← answer (ask (buildSnapshot moment networkID principal.session.subject))
  return ⟨200, .snapshot built⟩

def parseHeartbeatEndpoint (nodeID : String) (endpoint : HeartbeatEndpoint) :
    Except Error EndpointCandidate :=
  match parseIP endpoint.address, handler.parseTime endpoint.observedAt with
  | some address, some observedAt => do
      let candidate : EndpointCandidate := ⟨nodeID, address, endpoint.port, endpoint.family,
        endpoint.interface, endpoint.priority, observedAt⟩
      validateEndpointCandidate candidate
      .ok candidate
  | _, _ => .error (.sentinel .validation)

def updateVersion (nodeID : String) : Option String → Program State Error Unit
  | some version => onRepository (updateNodeClientVersion moment.versionContext nodeID version)
  | none => pure ()

def heartbeat : Program State Response Response := do
  let principal ← answer (authenticate handler request moment)
  let nodeID ← answer (ask fun _ => resourceID request.path "nodes" "heartbeat")
  answer (ask (authorizeNode moment principal nodeID))
  let _ ← answer (readRepository (getNode moment.lookupContext nodeID))
  let body ← answerWith (apiError 422) (ask fun _ => request.heartbeatBody)
  let endpoints ← answerWith (apiError 422)
    (ask fun _ => body.endpoints.mapM (parseHeartbeatEndpoint handler nodeID))
  answer (onRepository (replaceEndpoints moment.writeContext nodeID endpoints))
  answer (updateVersion moment nodeID body.clientVersion)
  answer (onRepository (touchNode moment.touchContext nodeID moment.now))
  return noContent

def deleteNode : Program State Response Response := do
  let principal ← answer (requireAdmin handler request moment)
  let nodeID ← answer (ask fun _ => deletedNodeID request.path)
  answer (ask (authorizeAdminNodeScope moment principal nodeID))
  answer (onRepository (removeNode moment.writeContext nodeID))
  return noContent

def leaveNode : Program State Response Response := do
  let principal ← answer (authenticate handler request moment)
  let nodeID ← answer (ask fun _ => resourceID request.path "nodes" "leave")
  answer (ask (authorizeNode moment principal nodeID))
  let _ ← answer (readRepository (getNode moment.lookupContext nodeID))
  answer (onRepository (removeNode moment.writeContext nodeID))
  return noContent

def events : Program State Response Response := do
  let principal ← answer (authenticate handler request moment)
  stopWhen (principal.session.role ≠ .node) (apiError 403)
  answer (ask (authorizeNetwork moment principal principal.session.networkID))
  let built ← answer (ask (buildSnapshot moment principal.session.networkID
    principal.session.subject))
  ask fun _ =>
    match moment.upgradeFailure with
    | some status => .error ⟨status.val, .empty⟩
    | none => .ok ⟨101, .event built⟩

inductive Route where
  | createRoom
  | joinRoom
  | createNetwork
  | createInvite
  | enroll
  | snapshot
  | heartbeat
  | leaveNode
  | deleteNode
  | events
  | notFound
deriving DecidableEq

def routeOf (request : Request) : Route :=
  if request.method = .post ∧ request.path = "/v1/room" then .createRoom
  else if request.method = .post ∧ request.path = "/v1/room/join" then .joinRoom
  else if request.method = .post ∧ request.path = "/v1/networks" then .createNetwork
  else if request.method = .post ∧ hasPathSuffix request.path "invites" then .createInvite
  else if request.method = .post ∧ request.path = "/v1/enrollments" then .enroll
  else if request.method = .get ∧ hasPathSuffix request.path "snapshot" then .snapshot
  else if request.method = .post ∧ hasPathSuffix request.path "heartbeat" then .heartbeat
  else if request.method = .post ∧ hasPathSuffix request.path "leave" then .leaveNode
  else if request.method = .delete ∧ "/v1/nodes/".toList.isPrefixOf request.path.toList then
    .deleteNode
  else if request.path = "/v1/events" then .events
  else .notFound

def Route.program : Route → Program State Response Response
  | .createRoom => ControlHandler.createRoom handler request moment
  | .joinRoom => ControlHandler.joinRoom handler request moment
  | .createNetwork => ControlHandler.createNetwork handler request moment
  | .createInvite => ControlHandler.createInvite handler request moment
  | .enroll => ControlHandler.enroll handler request moment
  | .snapshot => ControlHandler.snapshot handler request moment
  | .heartbeat => ControlHandler.heartbeat handler request moment
  | .leaveNode => ControlHandler.leaveNode handler request moment
  | .deleteNode => ControlHandler.deleteNode handler request moment
  | .events => ControlHandler.events handler request moment
  | .notFound => pure (apiError 404)

def serveHTTP (state : State) : Response × State :=
  match (routeOf request).program handler request moment state with
  | (.ok response, after) => (response, after)
  | (.error response, after) => (response, after)

end Routes

end Ipv6Mesh.ControlHandler
