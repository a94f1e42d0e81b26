import Ipv6Mesh.EnrollmentLaw

/-!
# The enrollment service beside the handler

Package `enrollment` repeats the invite-to-membership flow of the handler:
the grammar of tokens, the checks on a request and the transaction. `Enroll` is
translated from its own source, with its own allocation loop, and compared with
`enrollControl`: both transactions make the same calls on the repository, and
the handler adds the check for a revoked network and the node's session.
-/

namespace Ipv6Mesh.EnrollmentService

open GoText GoNet GoProgram
open GoFlow (run)
open ControlModel DbMemory AddressPool AuthTokens ControlRoom ControlEnrollment EnrollmentOutcomes
  EnrollmentLaw

structure InviteReference where
  id : String
  tokenHash : String

structure Request where
  inviteToken : String
  invite : String
  nodeID : String
  displayName : String
  publicKey : String
  platform : String
  clientVersion : String

structure Result where
  node : Node
  membership : Membership
  network : Network
  subject : String
  networkID : String
  sessionSubject : String
  sessionNetworkID : String

def invalidToken : Error := .join (.sentinel .invalidInviteToken) (.sentinel .validation)

def invalidRequest : Error := .join (.sentinel .invalidRequest) (.sentinel .validation)

def parseInviteToken (raw : String) : Except Error InviteReference :=
  if raw = "" || containsAny raw " \t\r\n" then .error invalidToken
  else
    let id := raw.toList.takeWhile (· ≠ '.')
    let secret := raw.toList.drop (id.length + 1)
    -- no separator, or it is the first or last character, or there are two
    if '.' ∉ raw.toList ∨ id = [] ∨ secret = [] ∨ '.' ∈ secret then .error invalidToken
    else .ok ⟨String.ofList id, hashToken raw⟩

def Request.rawToken (request : Request) : String :=
  if request.inviteToken = "" then request.invite else request.inviteToken

/-- The checks of `Enroll` before its transaction: the node identifier and the invite. -/
def identify (newID : String) (request : Request) : Except Error (String × InviteReference) := do
  let reference ← parseInviteToken request.rawToken
  if blank request.displayName || blank request.publicKey || blank request.platform ||
      blank request.clientVersion then .error invalidRequest
  else
    let nodeID := if trimSpace request.nodeID = "" then trimSpace newID
      else trimSpace request.nodeID
    if nodeID = "" then .error invalidRequest else .ok (nodeID, reference)

structure LoopEnd where
  membership : Membership
  allocated : Bool
  allocationErr : Option Error

def allocateLoop (contexts : Nat → Context) (draws : Nat → Except Error Nat) (pool : Pool) :
    Nat → Nat → List IP → Membership → MemoryRepository → LoopEnd × MemoryRepository
  | 0, _, _, membership, repository => (⟨membership, false, none⟩, repository)
  | remaining + 1, attempt, occupied, membership, repository =>
    match pool.randomNext (draws attempt) occupied with
    | .error err => (⟨membership, false, some err⟩, repository)
    | .ok candidateIP =>
      let membership := { membership with virtualIPv4 := candidateIP }
      match addMembership (contexts attempt) membership repository with
      | (.ok (), after) => (⟨membership, true, none⟩, after)
      | (.error addErr, after) =>
        if addErr.is .conflict then
          allocateLoop contexts draws pool remaining (attempt + 1)
            (occupied ++ [candidateIP]) membership after
        else (⟨membership, false, some addErr⟩, after)

def afterLoop (pool : Pool) (ended : LoopEnd) : Except Error Membership :=
  match ended.allocationErr with
  | some err =>
    if !err.is .poolExhausted then .error err
    else if !ended.allocated then .error (.poolExhausted pool.cidr)
    else .ok ended.membership
  | none =>
    if !ended.allocated then .error (.poolExhausted pool.cidr) else .ok ended.membership

section Transaction

variable (surroundings : Surroundings) (node : Node)

def findNetwork (reference : InviteReference) : Program MemoryRepository Error Network := do
  call (addNode surroundings.contexts.addNode node)
  let invite ← call (consumeInviteForNode surroundings.contexts.consume surroundings.wall
    reference.id reference.tokenHash surroundings.now node.id)
  ask (getNetwork surroundings.contexts.network invite.networkID)

def joinNetwork (network : Network) : Program MemoryRepository Error Result := do
  let pool ← ask fun _ => newPool network.ipv4Pool
  let ended ← call fun repository =>
    let (ended, after) := allocateLoop surroundings.contexts.membership surroundings.draws pool
      pool.size 0 [] ⟨network.id, node.id, [], .member, .active⟩ repository
    (.ok ended, after)
  let membership ← ask fun _ => afterLoop pool ended
  let currentNetwork ← ask (getNetwork surroundings.contexts.currentNetwork network.id)
  return ⟨node, membership, currentNetwork, node.id, network.id, node.id, network.id⟩

def enrollCallback (reference : InviteReference) : Program MemoryRepository Error Result :=
  findNetwork surroundings node reference >>= joinNetwork surroundings node

end Transaction

def withTransaction {Value : Type} (ctx : Context)
    (callback : Program MemoryRepository Error Value) : Program MemoryRepository Error Value :=
  fun repository =>
    match contextError ctx with
    | .error err => (.error err, repository)
    | .ok () =>
      match callback repository with
      | (.error err, _) => (.error err, repository)
      | (.ok value, after) =>
        (.ok value, { after with endpointMaxAge := repository.endpointMaxAge })

def nodeOf (surroundings : Surroundings) (request : Request) (nodeID : String) : Node :=
  ⟨nodeID, request.displayName, request.publicKey, request.platform, request.clientVersion,
    surroundings.now⟩

def enroll (surroundings : Surroundings) (request : Request) :
    Program MemoryRepository Error Result :=
  fun repository =>
    match identify surroundings.newID request with
    | .error err => (.error err, repository)
    | .ok (nodeID, reference) =>
      withTransaction surroundings.contexts.transaction
        (enrollCallback surroundings (nodeOf surroundings request nodeID) reference) repository

variable {reference : InviteReference}

/-- One request in the types of both paths. -/
structure SameRequest (request : EnrollmentRequest) (other : Request) : Prop where
  token : other.rawToken = request.inviteToken
  nodeID : other.nodeID = request.nodeID
  displayName : other.displayName = request.displayName
  publicKey : other.publicKey = request.publicKey
  platform : other.platform = request.platform
  clientVersion : other.clientVersion = request.clientVersion

theorem parseInviteToken_eq_ok {raw : String} :
    parseInviteToken raw = .ok reference ↔
      inviteIDOf raw = some reference.id ∧ reference.tokenHash = hashToken raw := by
  obtain ⟨id, tokenHash⟩ := reference
  unfold parseInviteToken inviteIDOf
  dsimp only
  generalize secret : raw.toList.drop ((raw.toList.takeWhile (· ≠ '.')).length + 1) = rest
  by_cases spaced : containsAny raw " \t\r\n" = true
  · simp [spaced]
  · by_cases malformed : '.' ∉ raw.toList ∨ raw.toList.takeWhile (· ≠ '.') = [] ∨ rest = [] ∨
        '.' ∈ rest
    · rw [if_pos malformed, ite_self, if_pos (by tauto)]
      simp
    · have present : raw ≠ "" := by
        rintro rfl
        exact malformed (.inl (by decide))
      rw [if_neg (by simp [present, spaced]), if_neg malformed, if_neg (by tauto)]
      simp [eq_comm]

theorem blank_of_inviteIDOf {token inviteID : String} (parsed : inviteIDOf token = some inviteID) :
    blank token = false := by
  unfold inviteIDOf at parsed
  dsimp only at parsed
  split_ifs at parsed with malformed
  have separated : '.' ∈ token.toList := by
    by_contra absent
    exact malformed (.inl absent)
  exact blank_of_mem separated (by decide)

theorem identify_eq_ok {newID nodeID : String} {request : EnrollmentRequest} {other : Request}
    (same : SameRequest request other) :
    identify newID other = .ok (nodeID, reference) ↔
      enrollmentIdentity newID request = .ok (nodeID, reference.id, reference.tokenHash) := by
  rw [enrollmentIdentity_eq_ok, identify, GoFlow.bind_eq_ok, same.token, same.nodeID,
    same.displayName, same.publicKey, same.platform, same.clientVersion, requestIncomplete]
  generalize (if trimSpace request.nodeID = "" then trimSpace newID
    else trimSpace request.nodeID) = chosen
  constructor
  · rintro ⟨found, parsed, checked⟩
    split_ifs at checked with incomplete
    dsimp only at checked
    split_ifs at checked with missing
    obtain ⟨rfl, rfl⟩ := Prod.mk.inj (Except.ok.inj checked)
    obtain ⟨named, hashed⟩ := parseInviteToken_eq_ok.mp parsed
    refine ⟨?_, named, rfl, missing, hashed⟩
    rw [blank_of_inviteIDOf named, Bool.false_or]
    exact Bool.eq_false_iff.mpr incomplete
  · rintro ⟨complete, named, rfl, present, hashed⟩
    rw [blank_of_inviteIDOf named, Bool.false_or] at complete
    refine ⟨reference, parseInviteToken_eq_ok.mpr ⟨named, hashed⟩, ?_⟩
    rw [if_neg (by simp [complete]), if_neg present]

section Loops

variable {contexts : Nat → Context} {draws : Nat → Except Error Nat} {pool : Pool}

theorem allocateLoop_eq_allocate (membership : Membership) (remaining attempt : Nat)
    (occupied : List IP) (repository : MemoryRepository) (carried : IP) :
    (afterLoop pool (allocateLoop contexts draws pool remaining attempt occupied
        { membership with virtualIPv4 := carried } repository).1,
      (allocateLoop contexts draws pool remaining attempt occupied
        { membership with virtualIPv4 := carried } repository).2) =
      allocate contexts draws pool membership remaining attempt occupied repository := by
  induction remaining generalizing attempt occupied repository carried with
  | zero => rfl
  | succ remaining ih =>
    rw [allocateLoop, allocate]
    cases pool.randomNext (draws attempt) occupied with
    | error err =>
      dsimp only [afterLoop, allocationFailure, exhausted]
      cases err.is .poolExhausted <;> rfl
    | ok candidate =>
      dsimp only
      rcases addMembership (contexts attempt) { membership with virtualIPv4 := candidate }
        repository with ⟨err | done, after⟩
      · dsimp only
        split_ifs
        · exact ih (attempt + 1) (occupied ++ [candidate]) after candidate
        · dsimp only [afterLoop, allocationFailure, exhausted]
          cases err.is .poolExhausted <;> rfl
      · rfl

end Loops

section Transactions

variable {surroundings : Surroundings} {request : EnrollmentRequest} {state : State}
variable {nodeID inviteID tokenHash : String}

def handlerRest (surroundings : Surroundings) (node : Node) (network : Network) :
    Program State Error EnrollmentResult := do
  ask fun state => refuseWhen (isNetworkRevoked network.id state.sessions) .revokedNetwork
  let pool ← ask fun _ => newPool network.ipv4Pool
  let membership ← onRepository (allocate surroundings.contexts.membership surroundings.draws pool
    ⟨network.id, node.id, [], .member, .active⟩ pool.size 0 [])
  let currentNetwork ← readRepository (getNetwork surroundings.contexts.currentNetwork network.id)
  let issued ← onSessions (issueNodeSession surroundings.issuedAt surroundings.random node.id
    network.id)
  return ⟨node, membership, currentNetwork, node.id, network.id, issued.2, issued.1⟩

theorem enrollBody_apply :
    enrollBody surroundings request nodeID inviteID tokenHash state =
      match findNetwork surroundings (enrolledNode surroundings request nodeID)
          ⟨inviteID, tokenHash⟩ state.repository with
      | (.error err, repository) => (.error err, state.setRepository repository)
      | (.ok network, repository) =>
        handlerRest surroundings (enrolledNode surroundings request nodeID) network
          (state.setRepository repository) := by
  unfold enrollBody findNetwork handlerRest
  simp only [bind_apply, onRepository, within, readRepository, ask, call, enrolledNode]
  rcases addNode surroundings.contexts.addNode _ state.repository with ⟨err | done, added⟩
  · rfl
  · dsimp only [State.setRepository]
    rcases consumeInviteForNode surroundings.contexts.consume surroundings.wall inviteID tokenHash
      surroundings.now nodeID added with ⟨err | invite, used⟩
    · rfl
    · dsimp only
      cases getNetwork surroundings.contexts.network invite.networkID used with
      | error err => rfl
      | ok network => rfl

theorem handlerRest_apply (state : State) (node : Node) (network : Network)
    (unrevoked : isNetworkRevoked network.id state.sessions = false)
    {issued : String × Session} {sessions : SessionStore}
    (issue : issueNodeSession surroundings.issuedAt surroundings.random node.id network.id
      state.sessions = (.ok issued, sessions)) :
    handlerRest surroundings node network state =
      match joinNetwork surroundings node network state.repository with
      | (.error err, repository) => (.error err, state.setRepository repository)
      | (.ok result, repository) =>
        (.ok ⟨result.node, result.membership, result.network, result.subject, result.networkID,
          issued.2, issued.1⟩, (state.setRepository repository).setSessions sessions) := by
  unfold handlerRest joinNetwork
  simp only [bind_apply, onRepository, onSessions, within, readRepository, ask, call, unrevoked,
    refuseWhen, Bool.false_eq_true, if_false]
  cases newPool network.ipv4Pool with
  | error err => rfl
  | ok pool =>
    dsimp only [State.setRepository, State.setSessions]
    rw [← allocateLoop_eq_allocate ⟨network.id, node.id, [], .member, .active⟩ pool.size 0 []
      state.repository []]
    generalize allocateLoop _ _ _ _ _ _ _ _ = looped
    obtain ⟨ended, after⟩ := looped
    dsimp only
    cases afterLoop pool ended with
    | error err => rfl
    | ok membership =>
      dsimp only
      cases getNetwork surroundings.contexts.currentNetwork network.id after with
      | error err => rfl
      | ok current =>
        dsimp only
        rw [issue]
        rfl

/-- The network that the invite of a request leads to, if the transaction gets that far. -/
def consultedNetwork (surroundings : Surroundings) (node : Node) (reference : InviteReference)
    (repository : MemoryRepository) : Option Network :=
  match findNetwork surroundings node reference repository with
  | (.ok network, _) => some network
  | (.error _, _) => none

theorem enrollBody_agrees (unrevoked : ∀ network, consultedNetwork surroundings
      (enrolledNode surroundings request nodeID) reference state.repository = some network →
      isNetworkRevoked network.id state.sessions = false)
    (issues : ∀ network, consultedNetwork surroundings
      (enrolledNode surroundings request nodeID) reference state.repository = some network →
      ∃ issued sessions, issueNodeSession surroundings.issuedAt surroundings.random nodeID
        network.id state.sessions = (.ok issued, sessions)) :
    (∃ err handled other,
      enrollBody surroundings request nodeID reference.id reference.tokenHash state =
        (.error err, handled) ∧
      enrollCallback surroundings (enrolledNode surroundings request nodeID) reference
        state.repository = (.error err, other)) ∨
    ∃ result served repository sessions,
      enrollBody surroundings request nodeID reference.id reference.tokenHash state =
        (.ok result, (state.setRepository repository).setSessions sessions) ∧
      enrollCallback surroundings (enrolledNode surroundings request nodeID) reference
        state.repository = (.ok served, repository) ∧
      result.node = served.node ∧ result.membership = served.membership ∧
      result.network = served.network := by
  rw [enrollBody_apply, enrollCallback, bind_apply]
  cases found : findNetwork surroundings (enrolledNode surroundings request nodeID) reference
    state.repository with
  | mk answer repository =>
    cases answer with
    | error err => exact .inl ⟨err, _, _, rfl, rfl⟩
    | ok network =>
      have consulted : consultedNetwork surroundings
          (enrolledNode surroundings request nodeID) reference state.repository =
            some network := by
        rw [consultedNetwork, found]
      obtain ⟨issued, sessions, issue⟩ := issues network consulted
      have rest := handlerRest_apply (state.setRepository repository)
        (enrolledNode surroundings request nodeID) network (unrevoked network consulted) issue
      dsimp only
      rw [rest]
      dsimp only [State.setRepository_repository]
      cases joinNetwork surroundings (enrolledNode surroundings request nodeID) network
        repository with
      | mk answer after =>
        cases answer with
        | error err => exact .inl ⟨err, _, _, rfl, rfl⟩
        | ok served => exact .inr ⟨_, served, after, sessions, rfl, rfl, rfl, rfl, rfl⟩

end Transactions

theorem nodeOf_eq {surroundings : Surroundings} {request : EnrollmentRequest} {other : Request}
    (same : SameRequest request other) (nodeID : String) :
    nodeOf surroundings other nodeID = enrolledNode surroundings request nodeID := by
  rw [nodeOf, enrolledNode, same.displayName, same.publicKey, same.platform, same.clientVersion]

/-- The service and the control server accept, reject and write alike. -/
structure Agreement (attempts : Nat) (surroundings : Surroundings) (request : EnrollmentRequest)
    (other : Request) (state : State) : Prop where
  accepted : ∀ nodeID reference, identify surroundings.newID other = .ok (nodeID, reference) ↔
    enrollmentIdentity surroundings.newID request =
      .ok (nodeID, reference.id, reference.tokenHash)
  rejected : ∀ err, identify surroundings.newID other = .error err →
    enroll surroundings other state.repository = (.error err, state.repository) ∧
      ∃ refusal, enrollControl attempts .done surroundings request state = (.failed refusal, state)
  transacted : ∀ nodeID reference, identify surroundings.newID other = .ok (nodeID, reference) →
    (∀ network, consultedNetwork surroundings (enrolledNode surroundings request nodeID) reference
      state.repository = some network →
        isNetworkRevoked network.id state.sessions = false ∧
        ∃ issued sessions, issueNodeSession surroundings.issuedAt surroundings.random nodeID
          network.id state.sessions = (.ok issued, sessions)) →
    (∃ err, enrollControl attempts .done surroundings request state = (.failed err, state) ∧
      enroll surroundings other state.repository = (.error err, state.repository)) ∨
    ∃ result served after,
      enrollControl attempts .done surroundings request state = (.done result, after) ∧
      enroll surroundings other state.repository = (.ok served, after.repository) ∧
      result.node = served.node ∧ result.membership = served.membership ∧
      result.network = served.network

/-- The handler and the service agree on every request, in every state. -/
theorem enrollments_agree (attempts : Nat) (surroundings : Surroundings)
    (request : EnrollmentRequest) (other : Request) (state : State)
    (same : SameRequest request other) : Agreement attempts surroundings request other state := by
  have accepted (nodeID : String) (reference : InviteReference) :
      identify surroundings.newID other = .ok (nodeID, reference) ↔
        enrollmentIdentity surroundings.newID request =
          .ok (nodeID, reference.id, reference.tokenHash) :=
    identify_eq_ok same
  refine ⟨accepted, fun err refused => ?_, fun nodeID reference identified open_ => ?_⟩
  · refine ⟨by rw [enroll, refused], ?_⟩
    cases known : enrollmentIdentity surroundings.newID request with
    | error refusal => exact ⟨refusal, by rw [enrollControl, known]⟩
    | ok identity =>
        obtain ⟨nodeID, inviteID, tokenHash⟩ := identity
        have allowed := (accepted nodeID ⟨inviteID, tokenHash⟩).mpr known
        rw [refused] at allowed
        cases allowed
  · have known := (accepted nodeID reference).mp identified
    have served : enroll surroundings other state.repository =
        withTransaction surroundings.contexts.transaction
          (enrollCallback surroundings (enrolledNode surroundings request nodeID) reference)
          state.repository := by
      rw [enroll, identified, ← nodeOf_eq same]
    rw [served, enrollControl, known]
    dsimp only
    rw [enrollTransaction, withTransaction]
    cases contextError surroundings.contexts.transaction with
    | error err => exact .inl ⟨err, rfl, rfl⟩
    | ok =>
        dsimp only
        rcases enrollBody_agrees (fun network found => (open_ network found).1)
          (fun network found => (open_ network found).2) with
          ⟨err, after, repository, body, callback⟩ |
          ⟨result, granted, repository, sessions, body, callback, records⟩
        · rw [body, callback]
          refine .inl ⟨err, ?_, rfl⟩
          dsimp only
          rw [enrollBody_error body]
        · rw [body, callback]
          exact .inr ⟨result, granted, _, rfl, rfl, records⟩

def invitedState : State :=
  ⟨run Action.step (invitingRun "n" "10.0.0.0/30" 1 [("invite", "invite.secret")])
    (newMemoryRepositoryWithEndpointMaxAge minute), newSessionStore minute, "",
    newRoomJoinLimiter 0 0⟩

def olderRequest : Request := ⟨"", "invite.secret", "a", "a", "key", "linux", "1"⟩

theorem enrollments_agree_on_older_field :
    Agreement 1 (calmSurroundings 2 7) ⟨"invite.secret", "a", "a", "key", "linux", "1"⟩
        olderRequest invitedState ∧
      (enroll (calmSurroundings 2 7) olderRequest invitedState.repository).1.isOk = true := by
  refine ⟨enrollments_agree 1 (calmSurroundings 2 7)
    ⟨"invite.secret", "a", "a", "key", "linux", "1"⟩ olderRequest invitedState
    ⟨rfl, rfl, rfl, rfl, rfl, rfl⟩, ?_⟩
  decide +kernel

end Ipv6Mesh.EnrollmentService
