import Ipv6Mesh.AuthHistory
import Ipv6Mesh.EnrollmentAllocation

/-!
# What an enrollment does

`Enrolled` is everything a successful transaction body changes: one node, one
membership at a free host, one consumed invite, one version and one session.
A body that fails has only worked on its own copy of the repository.
-/

namespace Ipv6Mesh.EnrollmentOutcomes

open GoText GoNet GoMap
open GoFlow hiding bind_eq_ok
open GoProgram ControlModel ControlValidation DbMemory DbOperations DbIntegrity DbRuns DbNetworks
  AddressPool AddressAllocation AuthTokens AuthHistory ControlEnrollment EnrollmentAllocation

def Aside (start state : State) : Prop := state.setRepository start.repository = start

section Aside

variable {start state : State} {Value : Type}

theorem Aside.refl (start : State) : Aside start start := rfl

theorem aside_onRepository (aside : Aside start state)
    (step : MemoryRepository → Outcome Value) :
    wp (onRepository step) (fun _ => Aside start) (fun _ => Aside start) state := by
  rw [onRepository, wp_within]
  rcases step state.repository with ⟨_ | _, repository⟩ <;> exact aside

theorem aside_ask (aside : Aside start state) (read : State → Except Error Value) :
    wp (ask read) (fun _ => Aside start) (fun _ => Aside start) state := by
  rw [wp_ask]
  cases read state <;> exact aside

theorem Aside.bind {Result : Type} {first : Program State Error Value}
    {next : Value → Program State Error Result}
    (holds : wp first (fun _ => Aside start) (fun _ => Aside start) state)
    (continued : ∀ value middle, Aside start middle →
      wp (next value) (fun _ _ => True) (fun _ => Aside start) middle) :
    wp (first >>= next) (fun _ _ => True) (fun _ => Aside start) state := by
  rw [wp_bind]
  exact wp_mono holds continued fun _ _ aside => aside

end Aside

section Body

variable {surroundings : Surroundings} {request : EnrollmentRequest}
  {nodeID inviteID tokenHash : String} {before after : State} {result : EnrollmentResult}

theorem enrollBody_error {err : Error}
    (failed : enrollBody surroundings request nodeID inviteID tokenHash before =
      (.error err, after)) : after.setRepository before.repository = before := by
  have holds : wp (enrollBody surroundings request nodeID inviteID tokenHash)
      (fun _ _ => True) (fun _ => Aside before) before := by
    unfold enrollBody
    refine Aside.bind (aside_onRepository (Aside.refl before) _) fun _ _ aside => ?_
    refine Aside.bind (aside_onRepository aside _) fun _ _ aside => ?_
    refine Aside.bind (aside_ask aside _) fun _ _ aside => ?_
    refine Aside.bind (aside_ask aside _) fun _ _ aside => ?_
    refine Aside.bind (aside_ask aside _) fun _ _ aside => ?_
    refine Aside.bind (aside_onRepository aside _) fun _ _ aside => ?_
    refine Aside.bind (aside_ask aside _) fun _ state aside => ?_
    -- the session is issued last, and a failed issue stores nothing
    rw [wp_bind, onSessions, wp_within]
    rcases issued : issueNodeSession surroundings.issuedAt surroundings.random _ _ state.sessions
      with ⟨_ | _, sessions⟩
    · obtain rfl := issueSession_error issued
      exact aside
    · trivial
  rw [wp, failed] at holds
  exact holds

def enrolledNode (surroundings : Surroundings) (request : EnrollmentRequest) (nodeID : String) :
    Node :=
  ⟨nodeID, request.displayName, request.publicKey, request.platform, request.clientVersion,
    surroundings.now⟩

def newMember (networkID nodeID : String) : Membership := ⟨networkID, nodeID, [], .member, .active⟩

theorem enrollBody_eq_ok :
    enrollBody surroundings request nodeID inviteID tokenHash before = (.ok result, after) ↔
      let contexts := surroundings.contexts
      let node := enrolledNode surroundings request nodeID
      ∃ added consumed used network pool chosen joined current issued sessions,
        addNode contexts.addNode node before.repository = (.ok (), added) ∧
        consumeInviteForNode contexts.consume surroundings.wall inviteID tokenHash
          surroundings.now nodeID added = (.ok consumed, used) ∧
        getNetwork contexts.network consumed.networkID used = .ok network ∧
        isNetworkRevoked network.id before.sessions = false ∧
        newPool network.ipv4Pool = .ok pool ∧
        allocate contexts.membership surroundings.draws pool (newMember network.id nodeID)
          pool.size 0 [] used = (.ok chosen, joined) ∧
        getNetwork contexts.currentNetwork network.id joined = .ok current ∧
        issueNodeSession surroundings.issuedAt surroundings.random nodeID network.id
          before.sessions = (.ok issued, sessions) ∧
        result = ⟨node, chosen, current, nodeID, network.id, issued.2, issued.1⟩ ∧
        after = { before with repository := joined, sessions := sessions } := by
  unfold enrollBody
  simp only [bind_eq_ok, onRepository, readRepository, onSessions, ask_eq_ok, within_eq_ok]
  constructor
  · rintro ⟨_, _, ⟨added, addition, rfl⟩, consumed, _, ⟨used, consumption, rfl⟩, network, _,
      ⟨found, rfl⟩, _, _, ⟨unrevoked, rfl⟩, pool, _, ⟨parsed, rfl⟩, chosen, _,
      ⟨joined, allocation, rfl⟩, current, _, ⟨reread, rfl⟩, issued, _, ⟨sessions, issue, rfl⟩,
      finished⟩
    obtain ⟨rfl, rfl⟩ : result = _ ∧ after = _ :=
      ⟨(Except.ok.inj (Prod.ext_iff.mp finished).1).symm, (Prod.ext_iff.mp finished).2.symm⟩
    exact ⟨added, consumed, used, network, pool, chosen, joined, current, issued, sessions,
      addition, consumption, found, refuseWhen_ok.mp unrevoked, parsed, allocation, reread, issue,
      rfl, rfl⟩
  · rintro ⟨added, consumed, used, network, pool, chosen, joined, current, issued, sessions,
      addition, consumption, found, unrevoked, parsed, allocation, reread, issue, rfl, rfl⟩
    exact ⟨(), _, ⟨added, addition, rfl⟩, consumed, _, ⟨used, consumption, rfl⟩, network, _,
      ⟨found, rfl⟩, (), _, ⟨refuseWhen_ok.mpr unrevoked, rfl⟩, pool, _, ⟨parsed, rfl⟩, chosen, _,
      ⟨joined, allocation, rfl⟩, current, _, ⟨reread, rfl⟩, issued, _, ⟨sessions, issue, rfl⟩,
      rfl⟩

end Body

def consumedBy (invite : Invite) (consumedAt : Time) (nodeID : String) : Invite :=
  { invite with consumedAt := some consumedAt, consumedByNodeID := nodeID }

def enrolledMembership (networkID nodeID : String) (host : Nat) : Membership :=
  atHost (newMember networkID nodeID) host

/-- The repository with the node, its membership and the consumption of its invite. -/
def withEnrollment (repository : MemoryRepository) (node : Node) (invite : Invite)
    (consumedAt : Time) (network : Network) (host : Nat) : MemoryRepository :=
  { repository with
    nodes := repository.nodes.insert node.id node
    publicKeys := repository.publicKeys.insert node.publicKey node.id
    invites := repository.invites.insert invite.id (consumedBy invite consumedAt node.id)
    memberships := insert₂ repository.memberships network.id node.id
      (enrolledMembership network.id node.id host)
    networks := repository.networks.insert network.id (bumped network) }

structure Presented (repository : MemoryRepository) (inviteID tokenHash : String)
    (consumedAt : Time) (invite : Invite) : Prop where
  stored : repository.invites[invite.id]? = some invite
  presented : inviteByLookupLocked repository inviteID tokenHash = some invite.id
  hash : invite.tokenHash = tokenHash
  unused : invite.consumedAt = none ∧ invite.revokedAt = none
  current : invite.createdAt ≤ consumedAt ∧ consumedAt < invite.expiresAt

/-- The records an enrollment of the node adds: the node is new, the address is a
host of the invite's network that no member holds. -/
structure Recorded (repository : MemoryRepository) (node : Node) (invite : Invite)
    (network : Network) (pool : Pool) (host : Nat) : Prop where
  valid : validateNode node = .ok ()
  freshNode : repository.nodes[node.id]? = none
  freshKey : repository.publicKeys[node.publicKey]? = none
  stored : repository.networks[invite.networkID]? = some network
  named : network.id = invite.networkID
  absent : repository.membership? network.id node.id = none
  parsed : newPool network.ipv4Pool = .ok pool
  usable : pool.usable (putUint32 host) = true
  free : ¬Held repository network.id host

section Records

variable {repository added used joined : MemoryRepository} {node : Node}
  {inviteID tokenHash : String} {consumed : Invite} {wall now : Time}

theorem absent_of_fresh (sound : Integrity repository) {nodeID : String}
    (fresh : repository.nodes[nodeID]? = none) (networkID : String) :
    repository.membership? networkID nodeID = none := by
  cases held : repository.membership? networkID nodeID with
  | none => rfl
  | some membership =>
    obtain ⟨other, stored⟩ := sound.memberships.node networkID nodeID membership held
    rw [fresh] at stored
    cases stored

theorem usable_of_isHost {pool : Pool} (consecutive : Consecutive pool) {host : Nat}
    (isHost : IsHost pool host) : pool.usable (putUint32 host) = true := by
  have below : host < 2 ^ 32 := Nat.lt_of_le_of_lt isHost.2.2 consecutive.bounded
  simp only [Pool.usable, to4_of_length (putUint32_length host), bigEndian_putUint32 below]
  simpa using ⟨⟨isHost.1, isHost.2.1⟩, isHost.2.2⟩

theorem validated_pool {networks : GoMap Network} (validated : Validated networks)
    {networkID : String} {network : Network} (stored : networks[networkID]? = some network) :
    blank network.id = false ∧ ∃ pool, newPool network.ipv4Pool = .ok pool ∧ Consecutive pool ∧
      ∀ host, IsHost pool host →
        host < 2 ^ 32 ∧ validateIPv4InPool (putUint32 host) network.ipv4Pool = .ok () := by
  obtain ⟨created, valid, carried⟩ := validated networkID network stored
  simp only [validateNetwork, required, invalidWhen_bind_ok, Bool.not_eq_false'] at valid
  rw [carried.id, carried.ipv4Pool]
  exact ⟨valid.1, newPool_of_valid valid.2.2.2.2.1 valid.2.2.2.2.2.1⟩

theorem consume_added (sound : Integrity repository) {ctx other : Context}
    (addition : addNode other node repository = (.ok (), added)) :
    consumeInviteForNode ctx wall inviteID tokenHash now node.id added = (.ok consumed, used) ↔
      ctx = .live ∧ ∃ invite,
        Presented repository inviteID tokenHash (consumptionTime wall now) invite ∧
        consumed = consumedBy invite (consumptionTime wall now) node.id ∧
        used = { added with invites := added.invites.insert invite.id consumed } := by
  obtain ⟨-, -, fresh, freshKey, rfl⟩ := addNode_eq_ok.mp addition
  have soundAdded := sound.addNode fresh freshKey
  have known : unknownConsumer { repository with
      nodes := repository.nodes.insert node.id node
      publicKeys := repository.publicKeys.insert node.publicKey node.id } node.id = false := by
    simp [unknownConsumer]
  rw [consumeInviteForNode_eq_ok]
  constructor
  · rintro ⟨live, -, usedID, _, lookup, rfl, unconsumed, unrevoked, unexpired, started, rfl, rfl⟩
    obtain ⟨invite, stored, hash, -⟩ := inviteByLookup_stored soundAdded lookup
    obtain rfl := soundAdded.invites.named usedID invite stored
    have held : repository.invites.getD invite.id zeroInvite = invite := by
      rw [Std.ExtTreeMap.getD_eq_getD_getElem?]
      exact congrArg (·.getD zeroInvite) stored
    simp only [held] at unconsumed unrevoked unexpired started ⊢
    refine ⟨live, invite, ⟨stored, lookup, hash, ⟨unconsumed, unrevoked⟩, started, ?_⟩, rfl, rfl⟩
    simpa [Invite.isExpired] using unexpired
  · rintro ⟨live, invite, ⟨stored, lookup, hash, ⟨unconsumed, unrevoked⟩, started, unexpired⟩,
      rfl, rfl⟩
    have held : invite = repository.invites.getD invite.id zeroInvite := by
      rw [Std.ExtTreeMap.getD_eq_getD_getElem?, stored, Option.getD_some]
    refine ⟨live, known, invite.id, invite, lookup, held, unconsumed, unrevoked, ?_, started, rfl,
      rfl⟩
    simpa [Invite.isExpired] using unexpired

theorem used_networks {invite : Invite} {ctx : Context}
    (addition : addNode ctx node repository = (.ok (), added)) :
    ({ added with invites := added.invites.insert invite.id consumed } : MemoryRepository) =
      { repository with
        nodes := repository.nodes.insert node.id node
        publicKeys := repository.publicKeys.insert node.publicKey node.id
        invites := repository.invites.insert invite.id consumed } := by
  obtain ⟨-, -, -, -, rfl⟩ := addNode_eq_ok.mp addition
  rfl

theorem addMembership_used {invite : Invite} {network : Network} {ctx : Context} {host : Nat}
    {consumedAt : Time} (stored : repository.networks[network.id]? = some network)
    (stores : addMembership ctx (enrolledMembership network.id node.id host)
      { repository with
        nodes := repository.nodes.insert node.id node
        publicKeys := repository.publicKeys.insert node.publicKey node.id
        invites := repository.invites.insert invite.id (consumedBy invite consumedAt node.id) } =
      (.ok (), joined)) :
    ¬Held repository network.id host ∧
      joined = withEnrollment repository node invite consumedAt network host := by
  obtain ⟨-, -, ⟨_, -, -, -, -, free⟩, rfl⟩ := addMembership_eq_ok.mp stores
  refine ⟨?_, ?_⟩
  · rintro ⟨nodeID, existing, lookup, same⟩
    have apart : equal existing.virtualIPv4 (putUint32 host) = false :=
      free nodeID existing lookup
    rw [apart] at same
    cases same
  · simp only [incrementNetworkVersionLocked, withEnrollment, enrolledMembership, atHost, newMember,
      to4_of_length (putUint32_length host), Option.getD_some,
      Std.ExtTreeMap.getD_eq_getD_getElem?, stored, bumped]

end Records

section Bodies

variable {surroundings : Surroundings} {request : EnrollmentRequest}
  {nodeID inviteID tokenHash : String} {before after : State} {result : EnrollmentResult}

structure Enrolled (surroundings : Surroundings) (node : Node) (inviteID tokenHash : String)
    (before : State) (result : EnrollmentResult) (after : State) (invite : Invite)
    (network : Network) (pool : Pool) (host : Nat) : Prop where
  presented : Presented before.repository inviteID tokenHash
    (consumptionTime surroundings.wall surroundings.now) invite
  recorded : Recorded before.repository node invite network pool host
  unrevoked : isNetworkRevoked network.id before.sessions = false
  returned : result = ⟨node, enrolledMembership network.id node.id host, bumped network, node.id,
    network.id, ⟨node.id, .node, network.id, surroundings.issuedAt + before.sessions.ttl⟩,
    result.sessionToken⟩
  token : result.sessionToken ≠ "" ∧ before.sessions.sessions[result.sessionToken]? = none
  transition : after = { before with
    repository := withEnrollment before.repository node invite
      (consumptionTime surroundings.wall surroundings.now) network host
    sessions := { before.sessions with
      sessions := before.sessions.sessions.insert result.sessionToken result.session } }

theorem enrolled_of_body (wellFormed : WellFormed before.repository)
    (succeeded : enrollBody surroundings request nodeID inviteID tokenHash before =
      (.ok result, after)) :
    ∃ invite network pool host, Enrolled surroundings (enrolledNode surroundings request nodeID)
      inviteID tokenHash before result after invite network pool host := by
  obtain ⟨added, consumed, used, network, pool, chosen, joined, current, issued, sessions,
    addition, consumption, found, unrevoked, parsed, allocation, reread, issue, rfl, rfl⟩ :=
    enrollBody_eq_ok.mp succeeded
  obtain ⟨-, invite, presented, rfl, rfl⟩ :=
    (consume_added wellFormed.integrity addition).mp consumption
  rw [used_networks addition] at found allocation
  obtain ⟨-, valid, freshNode, freshKey, -⟩ := addNode_eq_ok.mp addition
  have stored : before.repository.networks[invite.networkID]? = some network :=
    (getNetwork_eq_ok.mp found).2
  have named := wellFormed.integrity.networks _ _ stored
  have storedByID : before.repository.networks[network.id]? = some network := by rwa [named]
  obtain ⟨-, allPool, parsedAgain, consecutive, -⟩ := validated_pool wellFormed.validated stored
  obtain rfl : allPool = pool := Except.ok.inj (parsedAgain.symm.trans parsed)
  obtain ⟨host, turn, rfl, isHost, stores⟩ := allocate_eq_ok consecutive allocation
  obtain ⟨free, rfl⟩ := addMembership_used storedByID stores
  have currentNetwork : current = bumped network := by
    have read := (getNetwork_eq_ok.mp reread).2
    simpa [withEnrollment] using read.symm
  obtain ⟨token, session⟩ := issued
  obtain ⟨rfl, -, -, present, fresh, rfl⟩ := issueSession_eq_ok issue
  exact ⟨invite, network, allPool, host, {
    presented := presented
    recorded := ⟨valid, freshNode, freshKey, stored, named,
      absent_of_fresh wellFormed.integrity freshNode network.id, parsed,
      usable_of_isHost consecutive isHost, free⟩
    unrevoked := unrevoked
    returned := by rw [currentNetwork]; rfl
    token := ⟨present, fresh⟩
    transition := rfl }⟩

theorem enrollBody_ops (wellFormed : WellFormed before.repository)
    (succeeded : enrollBody surroundings request nodeID inviteID tokenHash before =
      (.ok result, after)) :
    ∃ ops, after.repository = run Op.step ops before.repository := by
  obtain ⟨added, consumed, used, network, pool, chosen, joined, current, issued, sessions,
    addition, consumption, found, -, parsed, allocation, -, -, -, rfl⟩ :=
    enrollBody_eq_ok.mp succeeded
  have stored : before.repository.networks[consumed.networkID]? = some network := by
    have read := (getNetwork_eq_ok.mp found).2
    obtain ⟨-, -, -, -, rfl⟩ := addNode_eq_ok.mp addition
    obtain ⟨-, -, _, _, -, -, -, -, -, -, -, rfl⟩ := consumeInviteForNode_eq_ok.mp consumption
    exact read
  obtain ⟨-, allPool, parsedAgain, consecutive, -⟩ := validated_pool wellFormed.validated stored
  obtain rfl : allPool = pool := Except.ok.inj (parsedAgain.symm.trans parsed)
  obtain ⟨host, turn, rfl, -, stores⟩ := allocate_eq_ok consecutive allocation
  refine ⟨[.addNode surroundings.contexts.addNode (enrolledNode surroundings request nodeID),
    .consumeInviteForNode surroundings.contexts.consume surroundings.wall inviteID tokenHash
      surroundings.now nodeID,
    .addMembership (surroundings.contexts.membership turn)
      (atHost (newMember network.id nodeID) host)], ?_⟩
  simp only [run_cons, run_nil, Op.step, Op.apply, dropResult, addition, consumption, stores]

end Bodies

end Ipv6Mesh.EnrollmentOutcomes
