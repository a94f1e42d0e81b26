import Ipv6Mesh.DbVersions
import Ipv6Mesh.EnrollmentOutcomes

/-!
# Enrollment is all or nothing

Over the memory repository an enrollment either fails and leaves everything as it
was, or makes exactly the changes of `Enrolled`. Nothing but a full pool stops a
request whose own data is in order.
-/

namespace Ipv6Mesh.EnrollmentLaw

open GoText GoNet
open GoFlow hiding bind_eq_ok
open GoProgram ControlModel ControlValidation DbMemory DbOperations DbIntegrity DbNetworks
  DbVersions AddressPool AddressAllocation AuthTokens ControlRoom ControlEnrollment
  EnrollmentAllocation EnrollmentOutcomes

section Identity

variable {newID nodeID inviteID tokenHash : String} {request : EnrollmentRequest}

theorem enrollmentIdentity_eq_ok :
    enrollmentIdentity newID request = .ok (nodeID, inviteID, tokenHash) ↔
      requestIncomplete request = false ∧ inviteIDOf request.inviteToken = some inviteID ∧
        nodeID = (if trimSpace request.nodeID = "" then trimSpace newID
          else trimSpace request.nodeID) ∧
        nodeID ≠ "" ∧ tokenHash = hashToken request.inviteToken := by
  unfold enrollmentIdentity
  cases incomplete : requestIncomplete request with
  | true => simp
  | false =>
    cases token : inviteIDOf request.inviteToken with
    | none => simp
    | some found =>
      simp only [Bool.false_eq_true, if_false, Option.some.injEq, true_and]
      generalize (if trimSpace request.nodeID = "" then trimSpace newID
        else trimSpace request.nodeID) = chosen
      by_cases missing : chosen = ""
      · simp only [if_pos missing, reduceCtorEq, false_iff, not_and]
        rintro - rfl present
        exact absurd missing present
      · rw [if_neg missing]
        constructor
        · rintro ⟨⟩
          exact ⟨rfl, rfl, missing, rfl⟩
        · rintro ⟨rfl, rfl, -, rfl⟩
          rfl

theorem validateNode_of_identity (surroundings : Surroundings)
    (identified : enrollmentIdentity newID request = .ok (nodeID, inviteID, tokenHash)) :
    validateNode (enrolledNode surroundings request nodeID) = .ok () := by
  obtain ⟨complete, -, chosen, present, -⟩ := enrollmentIdentity_eq_ok.mp identified
  have trimmed : blank nodeID = false := by
    rw [chosen] at present ⊢
    split_ifs at present ⊢ <;> exact blank_trimSpace present
  simp only [requestIncomplete, Bool.or_eq_false_iff] at complete
  obtain ⟨⟨⟨⟨-, displayName⟩, publicKey⟩, platform⟩, clientVersion⟩ := complete
  simp only [validateNode, required, enrolledNode, invalidWhen_bind_ok, invalidWhen_ok]
  exact ⟨trimmed, displayName, publicKey, platform, clientVersion⟩

end Identity

structure Contexts.Live (contexts : Contexts) : Prop where
  transaction : contexts.transaction = .live
  addNode : contexts.addNode = .live
  consume : contexts.consume = .live
  network : contexts.network = .live
  membership : ∀ attempt, contexts.membership attempt = .live
  currentNetwork : contexts.currentNetwork = .live

structure Eligible (surroundings : Surroundings) (node : Node) (inviteID tokenHash : String)
    (before : State) (invite : Invite) (network : Network) : Prop where
  live : Contexts.Live surroundings.contexts
  drawn : ∀ attempt, ∃ start, surroundings.draws attempt = .ok start
  freshNode : before.repository.nodes[node.id]? = none
  freshKey : before.repository.publicKeys[node.publicKey]? = none
  presented : Presented before.repository inviteID tokenHash
    (consumptionTime surroundings.wall surroundings.now) invite
  stored : before.repository.networks[invite.networkID]? = some network
  unrevoked : isNetworkRevoked network.id before.sessions = false
  issued : ∃ issued sessions, issueNodeSession surroundings.issuedAt surroundings.random node.id
    network.id before.sessions = (.ok issued, sessions)

def FreeHost (repository : MemoryRepository) (networkID : String) (pool : Pool) : Prop :=
  ∃ address, pool.usable address = true ∧ ∀ nodeID existing,
    repository.membership? networkID nodeID = some existing →
      equal existing.virtualIPv4 address = false

variable {repository : MemoryRepository}

theorem freeHost_iff {networkID : String} {pool : Pool} (consecutive : Consecutive pool) :
    FreeHost repository networkID pool ↔
      ∃ host, IsHost pool host ∧ ¬Held repository networkID host := by
  constructor
  · rintro ⟨address, usable, free⟩
    unfold Pool.usable at usable
    cases converted : to4 address with
    | none => simp [converted] at usable
    | some bytes =>
      simp only [converted, Bool.and_eq_true, decide_eq_true_eq] at usable
      have sized := to4_length converted
      have bounded : bigEndian bytes < 2 ^ 32 := by
        have := bigEndian_lt bytes
        rwa [sized] at this
      have whole : putUint32 (bigEndian bytes) = bytes :=
        bigEndian_injective (putUint32_length _) sized (bigEndian_putUint32 bounded)
      refine ⟨bigEndian bytes, ⟨usable.1.1, usable.1.2, usable.2⟩, ?_⟩
      rintro ⟨nodeID, existing, lookup, same⟩
      rw [whole, equal_to4 converted, free nodeID existing lookup] at same
      cases same
  · rintro ⟨host, isHost, free⟩
    refine ⟨putUint32 host, usable_of_isHost consecutive isHost, fun nodeID existing lookup => ?_⟩
    exact Bool.eq_false_iff.mpr fun same => free ⟨nodeID, existing, lookup, same⟩

section Completeness

variable {surroundings : Surroundings} {request : EnrollmentRequest}
  {nodeID inviteID tokenHash : String} {before : State} {invite : Invite} {network : Network}

theorem ready_of_eligible {node : Node} (invite consumed : Invite)
    (wellFormed : WellFormed repository) (valid : validateNode node = .ok ())
    (fresh : repository.nodes[node.id]? = none)
    (stored : repository.networks[network.id]? = some network) {pool : Pool}
    (parsed : newPool network.ipv4Pool = .ok pool) :
    Ready pool (newMember network.id node.id) { repository with
      nodes := repository.nodes.insert node.id node
      publicKeys := repository.publicKeys.insert node.publicKey node.id
      invites := repository.invites.insert invite.id consumed } := by
  obtain ⟨named, known, parsedAgain, consecutive, inPool⟩ :=
    validated_pool wellFormed.validated stored
  obtain rfl : known = pool := Except.ok.inj (parsedAgain.symm.trans parsed)
  have nodeNamed : blank node.id = false := by
    simp only [validateNode, required, invalidWhen_bind_ok] at valid
    exact valid.1
  refine ⟨consecutive, fun host => ?_, ⟨network, stored, fun host isHost => (inPool host isHost).2⟩,
    ⟨node, Std.ExtTreeMap.getElem?_insert_self⟩,
    absent_of_fresh wellFormed.integrity fresh network.id⟩
  simp only [validateMembership, required, atHost, newMember, invalidWhen_bind_ok, invalidWhen_ok,
    to4_of_length (putUint32_length host), Option.isNone_some]
  exact ⟨named, nodeNamed, trivial, rfl, rfl⟩

theorem enrollBody_succeeds (wellFormed : WellFormed before.repository)
    (valid : validateNode (enrolledNode surroundings request nodeID) = .ok ())
    (eligible : Eligible surroundings (enrolledNode surroundings request nodeID) inviteID tokenHash
      before invite network)
    {pool : Pool} (parsed : newPool network.ipv4Pool = .ok pool) {host : Nat}
    (isHost : IsHost pool host) (free : ¬Held before.repository network.id host) :
    ∃ result after, enrollBody surroundings request nodeID inviteID tokenHash before =
      (.ok result, after) := by
  have named := wellFormed.integrity.networks _ _ eligible.stored
  have stored : before.repository.networks[network.id]? = some network := by
    rw [named]
    exact eligible.stored
  have addition := addNode_eq_ok.mpr
    ⟨eligible.live.addNode, valid, eligible.freshNode, eligible.freshKey, rfl⟩
  have consumption := (consume_added wellFormed.integrity addition).mpr
    ⟨eligible.live.consume, invite, eligible.presented, rfl, rfl⟩
  have ready := ready_of_eligible invite
    (consumedBy invite (consumptionTime surroundings.wall surroundings.now) nodeID) wellFormed valid
    eligible.freshNode stored parsed
  obtain ⟨chosen, joined, allocation⟩ := allocate_succeeds ready eligible.live.membership
    eligible.drawn isHost free 0 List.nodup_nil (by simp) (Nat.add_zero _)
  obtain ⟨_, turn, rfl, -, stores⟩ := allocate_eq_ok ready.consecutive allocation
  obtain ⟨-, rfl⟩ := addMembership_used stored stores
  obtain ⟨issued, sessions, issue⟩ := eligible.issued
  refine ⟨_, _, enrollBody_eq_ok.mpr ⟨_, _, _, network, pool, _, _, bumped network, issued,
    sessions, addition, consumption, ?_, eligible.unrevoked, parsed, allocation, ?_, issue, rfl,
    rfl⟩⟩
  · exact getNetwork_eq_ok.mpr ⟨eligible.live.network, eligible.stored⟩
  · refine getNetwork_eq_ok.mpr ⟨eligible.live.currentNetwork, ?_⟩
    exact Std.ExtTreeMap.getElem?_insert_self

end Completeness

section Law

variable {attempts : Nat} {surroundings : Surroundings} {request : EnrollmentRequest}
  {nodeID inviteID tokenHash : String} {before after : State} {result : EnrollmentResult}

theorem enrollTransaction_eq_ok (wellFormed : WellFormed before.repository) :
    enrollTransaction surroundings request nodeID inviteID tokenHash before = (.ok result, after) ↔
      surroundings.contexts.transaction = .live ∧
        enrollBody surroundings request nodeID inviteID tokenHash before = (.ok result, after) := by
  unfold enrollTransaction
  cases ended : contextError surroundings.contexts.transaction with
  | error err =>
    have stopped : surroundings.contexts.transaction ≠ .live := by
      intro live
      rw [live] at ended
      cases ended
    constructor
    · rintro ⟨⟩
    · rintro ⟨live, -⟩
      exact absurd live stopped
  | ok _ =>
    have live := contextError_ok.mp ended
    rcases body : enrollBody surroundings request nodeID inviteID tokenHash before with
      ⟨_ | finished, working⟩
    · constructor
      · rintro ⟨⟩
      · rintro ⟨-, ⟨⟩⟩
    · -- the freshness policy, which the transaction restores, never changed
      obtain ⟨invite, network, pool, host, enrolled⟩ := enrolled_of_body wellFormed body
      have kept : working.setRepository { working.repository with
          endpointMaxAge := before.repository.endpointMaxAge } = working := by
        rw [enrolled.transition]
        rfl
      simp only [live, kept, true_and]

theorem enrollTransaction_error {err : Error}
    (failed : enrollTransaction surroundings request nodeID inviteID tokenHash before =
      (.error err, after)) : after = before := by
  unfold enrollTransaction at failed
  cases ended : contextError surroundings.contexts.transaction with
  | error other =>
    rw [ended] at failed
    exact (Prod.ext_iff.mp failed).2.symm
  | ok _ =>
    rcases body : enrollBody surroundings request nodeID inviteID tokenHash before with
      ⟨other | finished, working⟩
    · simp only [ended, body] at failed
      have same : working.setRepository before.repository = after := (Prod.ext_iff.mp failed).2
      rw [← same]
      exact enrollBody_error body
    · simp only [ended, body] at failed
      cases (Prod.ext_iff.mp failed).1

/-- An attempt fails and changes nothing, or writes the whole enrollment, which it does for
an eligible node as long as a host is free. -/
structure AllOrNothing (attempts : Nat) (surroundings : Surroundings)
    (request : EnrollmentRequest) (before : State) : Prop where
  atomic : (∃ err, enrollControl attempts .done surroundings request before =
      (.failed err, before)) ∨
    ∃ result after nodeID inviteID tokenHash invite network pool host,
      enrollControl attempts .done surroundings request before = (.done result, after) ∧
      enrollmentIdentity surroundings.newID request = .ok (nodeID, inviteID, tokenHash) ∧
      Enrolled surroundings (enrolledNode surroundings request nodeID) inviteID tokenHash before
        result after invite network pool host ∧
      (0 < network.configVersion → network.configVersion < maxInt64 →
        result.network = { network with configVersion := network.configVersion + 1 })
  complete : ∀ nodeID inviteID tokenHash invite network,
    enrollmentIdentity surroundings.newID request = .ok (nodeID, inviteID, tokenHash) →
    Eligible surroundings (enrolledNode surroundings request nodeID) inviteID tokenHash before
      invite network →
    ∃ pool, newPool network.ipv4Pool = .ok pool ∧
      ((∃ result after, enrollControl attempts .done surroundings request before =
        (.done result, after)) ↔ FreeHost before.repository network.id pool)

theorem bumped_of_range {network : Network} (positive : 0 < network.configVersion)
    (below : network.configVersion < maxInt64) :
    bumped network = { network with configVersion := network.configVersion + 1 } := by
  rw [bumped, nextConfigVersion_of_range positive below]

/-- The result of the transaction of a request and the state it leaves when it is
applied; `none` is a request that fails before its commit. -/
def transact (surroundings : Surroundings) (request : EnrollmentRequest) (state : State) :
    Option (EnrollmentResult × State) :=
  match enrollmentIdentity surroundings.newID request with
  | .error _ => none
  | .ok (nodeID, inviteID, tokenHash) =>
    match enrollTransaction surroundings request nodeID inviteID tokenHash state with
    | (.error _, _) => none
    | (.ok result, after) => some (result, after)

theorem transact_eq_some
    (succeeded : transact surroundings request before = some (result, after)) :
    ∃ nodeID inviteID tokenHash,
      enrollmentIdentity surroundings.newID request = .ok (nodeID, inviteID, tokenHash) ∧
      enrollTransaction surroundings request nodeID inviteID tokenHash before =
        (.ok result, after) := by
  unfold transact at succeeded
  cases identified : enrollmentIdentity surroundings.newID request with
  | error err => simp [identified] at succeeded
  | ok identity =>
    obtain ⟨nodeID, inviteID, tokenHash⟩ := identity
    rcases outcome : enrollTransaction surroundings request nodeID inviteID tokenHash before with
      ⟨err | finished, left⟩
    · simp [identified, outcome] at succeeded
    · simp only [identified, outcome, Option.some.injEq, Prod.mk.injEq] at succeeded
      obtain ⟨rfl, rfl⟩ := succeeded
      exact ⟨nodeID, inviteID, tokenHash, rfl, outcome⟩

theorem transact_ops (wellFormed : WellFormed before.repository)
    (succeeded : transact surroundings request before = some (result, after)) :
    ∃ ops, after.repository = run Op.step ops before.repository := by
  obtain ⟨nodeID, inviteID, tokenHash, -, outcome⟩ := transact_eq_some succeeded
  obtain ⟨-, body⟩ := (enrollTransaction_eq_ok wellFormed).mp outcome
  obtain ⟨ops, ran⟩ := enrollBody_ops wellFormed body
  exact ⟨ops, ran⟩

theorem transact_enrolled (wellFormed : WellFormed before.repository)
    (succeeded : transact surroundings request before = some (result, after)) :
    WellFormed after.repository ∧ ∃ nodeID inviteID tokenHash invite network pool host,
      enrollmentIdentity surroundings.newID request = .ok (nodeID, inviteID, tokenHash) ∧
      Enrolled surroundings (enrolledNode surroundings request nodeID) inviteID tokenHash before
        result after invite network pool host := by
  obtain ⟨nodeID, inviteID, tokenHash, identified, outcome⟩ := transact_eq_some succeeded
  obtain ⟨-, body⟩ := (enrollTransaction_eq_ok wellFormed).mp outcome
  obtain ⟨ops, ran⟩ := enrollBody_ops wellFormed body
  obtain ⟨invite, network, pool, host, enrolled⟩ := enrolled_of_body wellFormed body
  exact ⟨ran ▸ wellFormed_run ops wellFormed, nodeID, inviteID, tokenHash, invite, network, pool,
    host, identified, enrolled⟩

theorem enrollControl_cases (attempts : Nat) (commit : Commit) (surroundings : Surroundings)
    (request : EnrollmentRequest) (before : State) :
    (transact surroundings request before = none ∧
        ∃ err, enrollControl attempts commit surroundings request before =
          (.failed err, before)) ∨
      ∃ result after, transact surroundings request before = some (result, after) ∧
        enrollControl attempts commit surroundings request before =
          finishCommit attempts commit result before after := by
  unfold enrollControl transact
  cases identified : enrollmentIdentity surroundings.newID request with
  | error err => exact Or.inl ⟨rfl, err, rfl⟩
  | ok identity =>
    obtain ⟨nodeID, inviteID, tokenHash⟩ := identity
    simp only
    rcases outcome : enrollTransaction surroundings request nodeID inviteID tokenHash before
      with ⟨err | result, after⟩
    · obtain rfl := enrollTransaction_error outcome
      exact Or.inl ⟨rfl, err, rfl⟩
    · exact Or.inr ⟨result, after, rfl, rfl⟩

theorem enrollControl_outcome (attempts : Nat) (surroundings : Surroundings)
    (request : EnrollmentRequest) (wellFormed : WellFormed before.repository) :
    (∃ err, enrollControl attempts .done surroundings request before = (.failed err, before)) ∨
      ∃ result after nodeID inviteID tokenHash invite network pool host,
        enrollControl attempts .done surroundings request before = (.done result, after) ∧
        enrollmentIdentity surroundings.newID request = .ok (nodeID, inviteID, tokenHash) ∧
        Enrolled surroundings (enrolledNode surroundings request nodeID) inviteID tokenHash before
          result after invite network pool host := by
  rcases enrollControl_cases attempts .done surroundings request before with ⟨-, failed⟩ |
    ⟨result, after, transaction, finished⟩
  · exact Or.inl failed
  · obtain ⟨-, nodeID, inviteID, tokenHash, invite, network, pool, host, identified, enrolled⟩ :=
      transact_enrolled wellFormed transaction
    exact Or.inr ⟨result, after, nodeID, inviteID, tokenHash, invite, network, pool, host,
      finished, identified, enrolled⟩

theorem presented_unique {consumedAt : Time} {invite other : Invite}
    (presented : Presented repository inviteID tokenHash consumedAt invite)
    (again : Presented repository inviteID tokenHash consumedAt other) : other = invite := by
  have same : invite.id = other.id := Option.some.inj
    (presented.presented.symm.trans again.presented)
  have stored := again.stored
  rw [← same, presented.stored] at stored
  exact (Option.some.inj stored).symm

theorem allOrNothing (wellFormed : WellFormed before.repository) :
    AllOrNothing attempts surroundings request before where
  atomic := by
    rcases enrollControl_outcome attempts surroundings request wellFormed with failed |
      ⟨result, after, nodeID, inviteID, tokenHash, invite, network, pool, host, done, identified,
        enrolled⟩
    · exact Or.inl failed
    · refine Or.inr ⟨result, after, nodeID, inviteID, tokenHash, invite, network, pool, host, done,
        identified, enrolled, fun positive below => ?_⟩
      rw [← bumped_of_range positive below, enrolled.returned]
  complete := by
    intro nodeID inviteID tokenHash invite network identified eligible
    obtain ⟨-, pool, parsed, consecutive, -⟩ := validated_pool wellFormed.validated eligible.stored
    refine ⟨pool, parsed, ⟨?_, fun freeHost => ?_⟩⟩
    · rintro ⟨result, after, succeeded⟩
      rcases enrollControl_outcome attempts surroundings request wellFormed with
        ⟨err, failed⟩ | ⟨_, _, _, _, _, _, stored, drawn, host, -, sameIdentity, enrolled⟩
      · rw [failed] at succeeded
        cases succeeded
      rw [identified] at sameIdentity
      cases sameIdentity
      obtain rfl := presented_unique eligible.presented enrolled.presented
      obtain rfl : network = stored :=
        Option.some.inj (eligible.stored.symm.trans enrolled.recorded.stored)
      obtain rfl : pool = drawn := Except.ok.inj (parsed.symm.trans enrolled.recorded.parsed)
      refine ⟨putUint32 host, enrolled.recorded.usable, fun member existing lookup => ?_⟩
      exact Bool.eq_false_iff.mpr fun same =>
        enrolled.recorded.free ⟨member, existing, lookup, same⟩
    · obtain ⟨host, isHost, free⟩ := (freeHost_iff consecutive).mp freeHost
      obtain ⟨result, after, body⟩ := enrollBody_succeeds wellFormed
        (validateNode_of_identity surroundings identified) eligible parsed isHost free
      have outcome := (enrollTransaction_eq_ok wellFormed).mpr ⟨eligible.live.transaction, body⟩
      exact ⟨result, after, by simp only [enrollControl, identified, outcome, finishCommit]⟩

end Law

/-- In every state that a run of operations reaches, with any sessions. -/
theorem enrollment_all_or_nothing_and_complete (maxAge : Duration) (actions : List Action)
    (sessions : SessionStore) (roomNetworkID : String) (limiter : RoomJoinLimiter)
    (attempts : Nat) (surroundings : Surroundings) (request : EnrollmentRequest) :
    AllOrNothing attempts surroundings request
      ⟨reached maxAge actions, sessions, roomNetworkID, limiter⟩ := by
  exact allOrNothing (wellFormed_reached maxAge actions)

def liveContexts : Contexts := ⟨.live, .live, .live, .live, fun _ => .live, .live⟩

def plainSecret (byte : UInt8) : Secret := ⟨List.replicate 32 byte, List.length_replicate⟩

def calmSurroundings (now : Time) (secret : UInt8) : Surroundings :=
  { newID := "generated"
    now := now
    wall := now
    issuedAt := now
    draws := fun _ => .ok 0
    random := fun _ => .ok (plainSecret secret)
    contexts := liveContexts }

def invitingRun (networkID ipv4Pool : String) (version : Int) (tokens : List (String × String)) :
    List Action :=
  .single (.createNetwork .live ⟨networkID, "network", ipv4Pool, "owner", version, 1⟩) ::
    tokens.map fun token => .single (.createInvite .live
      ⟨token.1, networkID, hashToken token.2, minute, none, none, "", 1⟩)

def returnedVersion : EnrollmentReturn → Option Int
  | .done result => some result.network.configVersion
  | _ => none

/-- `CreateNetwork` takes any positive version; the one after the last is negative. -/
theorem enrollment_wraps_last_version :
    let repository := run Action.step
      (invitingRun "n" "10.0.0.0/30" maxInt64 [("invite", "invite.secret")])
      (newMemoryRepositoryWithEndpointMaxAge minute)
    (repository.networks["n"]?.map Network.configVersion) = some maxInt64 ∧
      returnedVersion (enrollControl 1 .done (calmSurroundings 2 7)
        ⟨"invite.secret", "a", "a", "key", "linux", "1"⟩
        ⟨repository, newSessionStore minute, "", newRoomJoinLimiter 0 0⟩).1 = some (-2 ^ 63) := by
  decide +kernel

end Ipv6Mesh.EnrollmentLaw
