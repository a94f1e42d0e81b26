import Ipv6Mesh.DbRecords
import Ipv6Mesh.DbViews
import Ipv6Mesh.HandlerRuns
import Ipv6Mesh.PlanExactness

/-!
# Which snapshots a node can apply

The identities and addresses of a snapshot always suit `Applier.plan`; the keys
need not, since `ValidateNode` takes any text that is not blank for a key. One
bad key of one member decides for everybody else in the network.
-/

namespace Ipv6Mesh.SnapshotPlans

open GoText GoNet GoFlow ControlModel ControlValidation DbMemory DbIntegrity DbNetworks DbSnapshot
  DbViews DbRecords AddressAllocation AuthTokens ControlRoom ControlEnrollment ControlHandler
  EnrollmentLaw HandlerRuns WgntApi ReconcilePlan PlanAcceptance
open PlanExactness (plainApplier)

theorem equal_of_ipv4Addr {left right : IP} {address : Addr}
    (first : ipv4Addr left = some address) (second : ipv4Addr right = some address) :
    equal left right = true := by
  obtain ⟨leftBytes, leftRead, rfl⟩ := Option.map_eq_some_iff.mp first
  obtain ⟨rightBytes, rightRead, same⟩ := Option.map_eq_some_iff.mp second
  have leftBound := bigEndian_lt leftBytes
  have rightBound := bigEndian_lt rightBytes
  rw [to4_length leftRead] at leftBound
  rw [to4_length rightRead] at rightBound
  have values := congrArg BitVec.toNat (Addr.v4.inj same)
  rw [BitVec.toNat_ofNat, BitVec.toNat_ofNat] at values
  have unwrapped : bigEndian rightBytes = bigEndian leftBytes := by omega
  cases bigEndian_injective (to4_length rightRead) (to4_length leftRead) unwrapped
  rw [← equal_to4 rightRead, equal_comm, ← equal_to4 leftRead]
  exact equal_refl _

theorem validateMembership_ok {membership : Membership}
    (valid : validateMembership membership = .ok ()) :
    blank membership.networkID = false ∧ blank membership.nodeID = false ∧
      ∃ address, ipv4Addr membership.virtualIPv4 = some address := by
  simp only [validateMembership, required, invalidWhen_bind_ok] at valid
  obtain ⟨network, node, address, -⟩ := valid
  obtain ⟨bytes, converted⟩ := Option.isSome_iff_exists.mp (Option.isNone_eq_false_iff.mp address)
  exact ⟨network, node, addrFrom4 bytes, Option.map_eq_some_iff.mpr ⟨bytes, converted, rfl⟩⟩

/-- Every other active member has a key of 32 bytes that is not zero, and no two
of them have the same bytes. -/
structure KeysUsable (repository : MemoryRepository) (networkID localNodeID : String) : Prop where
  keys : ∀ nodeID node, nodeID ≠ localNodeID → ActiveMember repository networkID nodeID →
    repository.nodes[nodeID]? = some node →
      ∃ key, parseKey node.publicKey = some key ∧ key.isZero = false
  distinct : ∀ first second left right, first ≠ localNodeID → second ≠ localNodeID →
    first ≠ second → ActiveMember repository networkID first →
    ActiveMember repository networkID second → repository.nodes[first]? = some left →
    repository.nodes[second]? = some right → parseKey left.publicKey ≠ parseKey right.publicKey

section Snapshots

variable {repository : MemoryRepository} {networkID localNodeID : String} {time : Time}
  {snapshot : NetworkSnapshot}

theorem member_placed (sound : Integrity repository) (valid : RecordsValid repository)
    {nodeID : String} {membership : Membership}
    (member : repository.membership? networkID nodeID = some membership) :
    blank networkID = false ∧ blank nodeID = false ∧
      ∃ address, ipv4Addr membership.virtualIPv4 = some address := by
  obtain ⟨rfl, rfl⟩ := sound.memberships.named _ _ _ member
  exact validateMembership_ok (valid.memberships _ _ _ member)

theorem placed_of_view (sound : Integrity repository) (valid : RecordsValid repository)
    (view : View repository networkID localNodeID time snapshot) {localIP : Addr}
    (read : ipv4Addr snapshot.localVirtualIPv4 = some localIP) :
    Placed localNodeID localIP snapshot.peers [] := by
  obtain ⟨foreign, apart⟩ := List.pairwise_cons.mp view.addresses
  constructor
  · intro peer listed
    obtain ⟨node, membership, -, member, -⟩ := view.records peer listed
    have other := ((view.members peer.nodeID).mp (List.mem_map_of_mem listed)).1
    exact ⟨(member_placed sound valid member).2.1, other⟩
  · intro peer listed
    obtain ⟨node, membership, -, member, -, -, -, -, given⟩ := view.records peer listed
    obtain ⟨-, -, address, found⟩ := member_placed sound valid member
    rw [← given] at found
    refine ⟨address, found, fun same => ?_, List.not_mem_nil⟩
    have different := foreign peer.virtualIPv4 (List.mem_map_of_mem listed)
    rw [equal_of_ipv4Addr read (same ▸ found)] at different
    cases different
  · refine (List.pairwise_map.mp apart).imp_of_mem fun {left right} inLeft _ different same => ?_
    obtain ⟨node, membership, -, member, -, -, -, -, given⟩ := view.records left inLeft
    obtain ⟨-, -, address, found⟩ := member_placed sound valid member
    rw [← given] at found
    rw [equal_of_ipv4Addr found (same ▸ found)] at different
    cases different

theorem keyed_iff_of_view (view : View repository networkID localNodeID time snapshot) :
    Keyed snapshot.peers [] ↔ KeysUsable repository networkID localNodeID := by
  have ofMember : ∀ nodeID node, nodeID ≠ localNodeID →
      ActiveMember repository networkID nodeID → repository.nodes[nodeID]? = some node →
      ∃ peer ∈ snapshot.peers, peer.nodeID = nodeID ∧ peer.publicKey = node.publicKey := by
    intro nodeID node other active known
    obtain ⟨peer, listed, rfl⟩ := List.mem_map.mp ((view.members nodeID).mpr ⟨other, active⟩)
    obtain ⟨stored, _, again, -, -, -, -, key, -⟩ := view.records peer listed
    cases Option.some.inj (known.symm.trans again)
    exact ⟨peer, listed, rfl, key⟩
  have ofPeer : ∀ peer ∈ snapshot.peers, peer.nodeID ≠ localNodeID ∧
      ActiveMember repository networkID peer.nodeID ∧
      ∃ node, repository.nodes[peer.nodeID]? = some node ∧ peer.publicKey = node.publicKey := by
    intro peer listed
    obtain ⟨other, active⟩ := (view.members peer.nodeID).mp (List.mem_map_of_mem listed)
    obtain ⟨node, _, known, -, -, -, -, key, -⟩ := view.records peer listed
    exact ⟨other, active, node, known, key⟩
  constructor
  · rintro ⟨keys, distinct⟩
    constructor
    · intro nodeID node other active known
      obtain ⟨peer, listed, -, same⟩ := ofMember nodeID node other active known
      obtain ⟨key, parsed, nonzero, -⟩ := keys peer listed
      exact ⟨key, same ▸ parsed, nonzero⟩
    · intro first second left right firstOther secondOther different firstActive secondActive
        firstKnown secondKnown
      obtain ⟨one, inOne, rfl, oneKey⟩ := ofMember first left firstOther firstActive firstKnown
      obtain ⟨two, inTwo, rfl, twoKey⟩ := ofMember second right secondOther secondActive secondKnown
      have symmetric : Std.Symm fun left right : Peer =>
          parseKey left.publicKey ≠ parseKey right.publicKey := ⟨fun _ _ => Ne.symm⟩
      have apart := distinct.forall inOne inTwo fun same => different (congrArg Peer.nodeID same)
      rwa [oneKey, twoKey] at apart
  · rintro ⟨keys, distinct⟩
    constructor
    · intro peer listed
      obtain ⟨other, active, node, known, same⟩ := ofPeer peer listed
      obtain ⟨key, parsed, nonzero⟩ := keys peer.nodeID node other active known
      exact ⟨key, same ▸ parsed, nonzero, List.not_mem_nil⟩
    · refine (List.pairwise_map.mp view.increasing).imp_of_mem fun {left right} inLeft inRight
        ordered => ?_
      obtain ⟨leftOther, leftActive, leftNode, leftKnown, leftKey⟩ := ofPeer left inLeft
      obtain ⟨rightOther, rightActive, rightNode, rightKnown, rightKey⟩ := ofPeer right inRight
      rw [leftKey, rightKey]
      exact distinct _ _ _ _ leftOther rightOther (ne_of_lt ordered) leftActive rightActive
        leftKnown rightKnown

theorem snapshot_plan_accepts (sound : Integrity repository) (valid : RecordsValid repository)
    (applier : Applier) {wall now : Time}
    (built : buildSnapshotAt .live wall networkID localNodeID now repository = .ok snapshot) :
    (∃ planned, plan applier snapshot = .ok planned) ↔
      KeysUsable repository networkID localNodeID := by
  have view := view_of_snapshot sound built
  obtain ⟨membership, member, given⟩ := view.localAddress
  obtain ⟨network, node, address, read⟩ := member_placed sound valid member
  rw [← given] at read
  obtain ⟨-, stored, _, _, known, -, -, -, shape⟩ := buildSnapshotAt_ok.mp built
  have named : snapshot.networkID = networkID := by
    rw [shape]
    exact sound.networks networkID stored known
  have own : snapshot.localNodeID = localNodeID := by rw [shape]
  rw [← named] at network
  rw [← own] at node
  have placed : Placed snapshot.localNodeID address snapshot.peers [] := by
    rw [own]
    exact placed_of_view sound valid view read
  rw [plan_accepts, ← keyed_iff_of_view view]
  constructor
  · intro plannable
    obtain ⟨_, -, -, keyed⟩ := plannable.peers
    exact keyed
  · intro keyed
    exact ⟨network, node, address, read, placed, keyed⟩

end Snapshots

/-- In every state that the handler reaches, whoever has a snapshot can apply it
exactly when the keys of the others are usable. -/
theorem snapshot_applicable_iff_keys_usable (handler : Handler) (maxAge : Duration)
    (sessions : SessionStore) (limiter : RoomJoinLimiter) (steps : List Step) (applier : Applier)
    (networkID nodeID : String) (wall now : Time) (state : State) (snapshot : NetworkSnapshot)
    (reached : state = run (Step.apply handler) steps
      ⟨newMemoryRepositoryWithEndpointMaxAge maxAge, sessions, "", limiter⟩)
    (built : buildSnapshotAt .live wall networkID nodeID now state.repository = .ok snapshot) :
    (∃ planned, plan applier snapshot = .ok planned) ↔
      KeysUsable state.repository networkID nodeID := by
  have new := wellFormed_new maxAge
  obtain ⟨ops, ran⟩ : Writes (newMemoryRepositoryWithEndpointMaxAge maxAge) state.repository := by
    rw [reached]
    exact writes_steps handler steps new
  have sound : Integrity state.repository := by
    rw [ran]
    exact (wellFormed_run ops new).integrity
  have valid : RecordsValid state.repository := by
    rw [ran]
    exact recordsValid_run ops (recordsValid_new maxAge)
  exact snapshot_plan_accepts sound valid applier built

def pairSteps (first second : String) : List Step :=
  let post := fun path => plainRequest .post path "Bearer bootstrap-token"
  let enroll := fun inviteToken nodeID publicKey =>
    Step.serve { post "/v1/enrollments" with
      enrollBody := .ok ⟨inviteToken, nodeID, nodeID, publicKey, "linux", "1"⟩ }
  [.serve { post "/v1/networks" with networkBody := .ok ⟨"n", "n", "10.0.0.0/29"⟩ }
      (plainMoment 1 "n" 1),
    .serve { post "/v1/networks/n/invites" with inviteBody := .ok ⟨""⟩ } (plainMoment 1 "i" 1),
    .serve { post "/v1/networks/n/invites" with inviteBody := .ok ⟨""⟩ } (plainMoment 1 "j" 2),
    enroll (inviteTokenFor "i" (plainSecret 1)) "a" first (plainMoment 2 "" 1),
    enroll (inviteTokenFor "j" (plainSecret 2)) "b" second (plainMoment 2 "" 2)]

def wholeKey : String := "AQAAAAAAAAAAAAAAAAAAAAAAAAAAAAAAAAAAAAAAAAA="

def otherKey : String := "AgAAAAAAAAAAAAAAAAAAAAAAAAAAAAAAAAAAAAAAAAA="

def pairState (first second : String) : State :=
  run (Step.apply (plainHandler false)) (pairSteps first second)
    ⟨newMemoryRepositoryWithEndpointMaxAge minute, newSessionStore minute, "",
      newRoomJoinLimiter 0 0⟩

theorem snapshot_applicable_to_pair :
    ∃ snapshot, buildSnapshotAt .live 3 "n" "a" 3 (pairState wholeKey otherKey).repository =
        .ok snapshot ∧
      ((∃ planned, plan plainApplier snapshot = .ok planned) ↔
        KeysUsable (pairState wholeKey otherKey).repository "n" "a") := by
  have handedOut : (buildSnapshotAt .live 3 "n" "a" 3
      (pairState wholeKey otherKey).repository).toOption.isSome = true := by
    decide +kernel
  cases built : buildSnapshotAt .live 3 "n" "a" 3 (pairState wholeKey otherKey).repository with
  | error err =>
      rw [built] at handedOut
      cases handedOut
  | ok snapshot =>
      exact ⟨snapshot, rfl, snapshot_applicable_iff_keys_usable (plainHandler false) minute
        (newSessionStore minute) (newRoomJoinLimiter 0 0) (pairSteps wholeKey otherKey) plainApplier
        "n" "a" 3 3 _ snapshot rfl built⟩

/-- The enrollment of `b` with a key that is no key takes `a` its snapshots. -/
theorem snapshot_inapplicable_by_other_key :
    let planOf := fun key nodeID =>
      (buildSnapshotAt .live 3 "n" nodeID 3 (pairState wholeKey key).repository).toOption.map
        fun snapshot => (plan plainApplier snapshot).toOption.isSome
    ((pairState wholeKey "no key").repository.membership? "n" "b").isSome = true ∧
      planOf "no key" "a" = some false ∧ planOf otherKey "a" = some true := by
  decide +kernel

end Ipv6Mesh.SnapshotPlans
