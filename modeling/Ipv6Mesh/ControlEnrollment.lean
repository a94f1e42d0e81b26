import Ipv6Mesh.AddressPool
import Ipv6Mesh.AuthTokens
import Ipv6Mesh.ControlRoom
import Ipv6Mesh.GoProgram

/-!
# Enrollment

`enrollControl` and `recoverEnrollmentCommit` of `internal/control/http.go`.
The repository is transactional: a failed body leaves it as it was, and the
commit of a body that succeeded either takes effect or does not, with or without
an error. For the memory repository a commit is always `done`.

`Surroundings` holds what one call gets from outside: clock values, the answers
of the random sources and the state of the context at each repository call. A
failed commit comes with what other requests do before each recovery read.
-/

namespace Ipv6Mesh.ControlEnrollment

open GoText GoNet GoProgram ControlModel DbMemory AddressPool AuthTokens ControlRoom

structure State where
  repository : MemoryRepository
  sessions : SessionStore
  roomNetworkID : String
  limiter : RoomJoinLimiter

def State.setRepository (state : State) (repository : MemoryRepository) : State :=
  { state with repository := repository }

@[simp] theorem State.setRepository_repository (state : State) (repository : MemoryRepository) :
    (state.setRepository repository).repository = repository := rfl

def State.setSessions (state : State) (sessions : SessionStore) : State :=
  { state with sessions := sessions }

def onRepository {Value : Type} (step : MemoryRepository → Outcome Value) :
    Program State Error Value :=
  within State.repository State.setRepository step

def readRepository {Value : Type} (read : MemoryRepository → Except Error Value) :
    Program State Error Value :=
  ask fun state => read state.repository

def onSessions {Value : Type} (step : SessionStore → Except Error Value × SessionStore) :
    Program State Error Value :=
  within State.sessions State.setSessions step

structure EnrollmentRequest where
  inviteToken : String
  nodeID : String
  displayName : String
  publicKey : String
  platform : String
  clientVersion : String

structure EnrollmentResult where
  node : Node
  membership : Membership
  network : Network
  subject : String
  networkID : String
  session : Session
  sessionToken : String

/-- The three ways `enrollControl` returns: a result, a result that still waits
for its commit together with an error, or an error alone. -/
inductive EnrollmentReturn where
  | done (result : EnrollmentResult)
  | pending (result : EnrollmentResult) (err : Error)
  | failed (err : Error)

structure Contexts where
  transaction : Context
  addNode : Context
  consume : Context
  network : Context
  membership : Nat → Context
  currentNetwork : Context

structure Recovery where
  others : Nat → State → State
  nodeContext : Nat → Context
  networksContext : Nat → Context
  delayed : Nat → Bool

/-- What becomes of the commit of a body that succeeded: it is reported done, or
it fails, and then it has no effect or a hidden one. -/
inductive Commit where
  | done
  | lost (err : Error) (recovery : Recovery)
  | hidden (err : Error) (recovery : Recovery)

structure Surroundings where
  newID : String
  now : Time
  wall : Time
  issuedAt : Time
  draws : Nat → Except Error Nat
  random : SecretReads
  contexts : Contexts

def exhausted (pool : Pool) : Error := .poolExhausted pool.cidr

def allocationFailure (pool : Pool) (allocationErr : Error) : Error :=
  if allocationErr.is .poolExhausted then exhausted pool else allocationErr

/-- The allocation loop. The number is that of the attempts left, `attempt` that
of the attempts made. -/
def allocate (contexts : Nat → Context) (draws : Nat → Except Error Nat) (pool : Pool)
    (membership : Membership) : Nat → Nat → List IP → MemoryRepository → Outcome Membership
  | 0, _, _, repository => (.error (exhausted pool), repository)
  | remaining + 1, attempt, occupied, repository =>
    match pool.randomNext (draws attempt) occupied with
    | .error err => (.error (allocationFailure pool err), repository)
    | .ok candidate =>
      let requested := { membership with virtualIPv4 := candidate }
      match addMembership (contexts attempt) requested repository with
      | (.ok (), after) => (.ok requested, after)
      | (.error err, after) =>
        if err.is .conflict then
          allocate contexts draws pool membership remaining (attempt + 1)
            (occupied ++ [candidate]) after
        else (.error (allocationFailure pool err), after)

def enrollBody (surroundings : Surroundings) (request : EnrollmentRequest)
    (nodeID inviteID tokenHash : String) : Program State Error EnrollmentResult := do
  let contexts := surroundings.contexts
  let node : Node := ⟨nodeID, request.displayName, request.publicKey, request.platform,
    request.clientVersion, surroundings.now⟩
  onRepository (addNode contexts.addNode node)
  let invite ← onRepository (consumeInviteForNode contexts.consume surroundings.wall inviteID
    tokenHash surroundings.now node.id)
  let network ← readRepository (getNetwork contexts.network invite.networkID)
  ask fun state => refuseWhen (isNetworkRevoked network.id state.sessions) .revokedNetwork
  let pool ← ask fun _ => newPool network.ipv4Pool
  let membership ← onRepository (allocate contexts.membership surroundings.draws pool
    ⟨network.id, node.id, [], .member, .active⟩ pool.size 0 [])
  let currentNetwork ← readRepository (getNetwork contexts.currentNetwork network.id)
  let issued ← onSessions (issueNodeSession surroundings.issuedAt surroundings.random node.id
    network.id)
  return ⟨node, membership, currentNetwork, node.id, network.id, issued.2, issued.1⟩

def recoverEnrollmentCommit (recovery : Recovery) (result : EnrollmentResult)
    (transactionErr : Error) : Nat → Nat → Bool → State → EnrollmentReturn × State
  | 0, _, uncertain, state =>
    if uncertain then
      (.pending result (.join (.sentinel .enrollmentRecoveryPending) transactionErr), state)
    else (.failed transactionErr,
      state.setSessions (revokeSession result.sessionToken state.sessions))
  | remaining + 1, attempt, uncertain, state =>
    -- the recovery context may end while the delay before a later attempt runs
    if 0 < attempt ∧ recovery.delayed attempt = false then
      (.pending result (.join (.sentinel .enrollmentRecoveryPending) transactionErr), state)
    else
      let beforeNode := recovery.others (2 * attempt) state
      let node := getNode (recovery.nodeContext attempt) result.node.id beforeNode.repository
      let beforeNetworks := recovery.others (2 * attempt + 1) beforeNode
      let networkIDs := getNodeNetworkIDs (recovery.networksContext attempt) result.node.id
        beforeNetworks.repository
      match node, networkIDs with
      | .ok found, .ok networkIDs =>
        if networkIDs = [result.networkID] then
          (.done { result with node := found }, beforeNetworks)
        else recoverEnrollmentCommit recovery result transactionErr remaining (attempt + 1) true
          beforeNetworks
      | .error nodeErr, .error membershipErr =>
        recoverEnrollmentCommit recovery result transactionErr remaining (attempt + 1)
          (uncertain || !(nodeErr.is .notFound && membershipErr.is .notFound)) beforeNetworks
      | _, _ =>
        recoverEnrollmentCommit recovery result transactionErr remaining (attempt + 1) true
          beforeNetworks

def inviteIDOf (inviteToken : String) : Option String :=
  let inviteID := inviteToken.toList.takeWhile (· ≠ '.')
  let secret := inviteToken.toList.drop (inviteID.length + 1)
  if '.' ∉ inviteToken.toList ∨ inviteID = [] ∨ secret = [] ∨ '.' ∈ secret ∨
      containsAny inviteToken " \t\r\n" then none
  else some (String.ofList inviteID)

def requestIncomplete (request : EnrollmentRequest) : Bool :=
  blank request.inviteToken || blank request.displayName || blank request.publicKey ||
    blank request.platform || blank request.clientVersion

def enrollmentIdentity (newID : String) (request : EnrollmentRequest) :
    Except Error (String × String × String) :=
  if requestIncomplete request then
    .error (.join (.sentinel .invalidRequest) (.sentinel .validation))
  else
    match inviteIDOf request.inviteToken with
    | none => .error (.join (.sentinel .invalidInviteToken) (.sentinel .validation))
    | some inviteID =>
      let nodeID := if trimSpace request.nodeID = "" then trimSpace newID
        else trimSpace request.nodeID
      if nodeID = "" then .error (.join (.sentinel .invalidRequest) (.sentinel .validation))
      else .ok (nodeID, inviteID, hashToken request.inviteToken)

/-- The transaction: the body's error or result, with the repository restored
when the body failed. The session store is not part of the transaction. -/
def enrollTransaction (surroundings : Surroundings) (request : EnrollmentRequest)
    (nodeID inviteID tokenHash : String) : Program State Error EnrollmentResult := fun state =>
  match contextError surroundings.contexts.transaction with
  | .error err => (.error err, state)
  | .ok () =>
    match enrollBody surroundings request nodeID inviteID tokenHash state with
    | (.error err, after) => (.error err, after.setRepository state.repository)
    | (.ok result, after) => (.ok result, after.setRepository
        { after.repository with endpointMaxAge := state.repository.endpointMaxAge })

def finishCommit (attempts : Nat) (commit : Commit) (result : EnrollmentResult)
    (before after : State) : EnrollmentReturn × State :=
  match commit with
  | .done => (.done result, after)
  | .lost err recovery => recoverEnrollmentCommit recovery result err attempts 0 false
      (after.setRepository before.repository)
  | .hidden err recovery => recoverEnrollmentCommit recovery result err attempts 0 false after

def enrollControl (attempts : Nat) (commit : Commit) (surroundings : Surroundings)
    (request : EnrollmentRequest) (state : State) : EnrollmentReturn × State :=
  match enrollmentIdentity surroundings.newID request with
  | .error err => (.failed err, state)
  | .ok (nodeID, inviteID, tokenHash) =>
    match enrollTransaction surroundings request nodeID inviteID tokenHash state with
    | (.error err, after) => (.failed err, after)
    | (.ok result, after) => finishCommit attempts commit result state after

end Ipv6Mesh.ControlEnrollment
