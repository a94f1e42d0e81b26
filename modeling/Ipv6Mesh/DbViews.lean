import Ipv6Mesh.DbNetworks
import Ipv6Mesh.DbSnapshot

/-!
# What the members of a network see

A snapshot is assembled from five maps. Over a repository with integrity it shows
the local node exactly the other active members, in order, and what two members
see of each other agrees.
-/

namespace Ipv6Mesh.DbViews

open GoText GoNet GoMap GoFlow ControlModel ControlValidation DbMemory DbOperations DbIntegrity
  DbNetworks DbSnapshot

def ActiveMember (repository : MemoryRepository) (networkID nodeID : String) : Prop :=
  ∃ membership, repository.membership? networkID nodeID = some membership ∧
    membership.status = .active

section Members

variable {repository : MemoryRepository} {networkID localNodeID nodeID : String} {now : Time}

theorem sliceStable_strings_strict {items : List String} (distinct : items.Nodup) :
    (sliceStable (fun left right => decide (left < right)) items).Pairwise (· < ·) := by
  have sorted := sliceStable_sorted_by (fun left right => decide (left < right)) id
    (fun _ _ => decide_eq_true_iff) items
  have separate := (sliceStable_perm (fun left right => decide (left < right)) items).nodup_iff.mpr
    distinct
  refine (sorted.and separate).imp fun ordered => ?_
  obtain ⟨notAbove, different⟩ := ordered
  exact lt_of_le_of_ne (not_lt.mp (of_decide_eq_false notAbove)) different

theorem peerOf_eq_some {members : GoMap Membership} {peer : Peer} :
    peerOf repository members localNodeID now nodeID = some peer ↔
      nodeID ≠ localNodeID ∧ ∃ membership node, members[nodeID]? = some membership ∧
        membership.status = .active ∧ repository.nodes[nodeID]? = some node ∧
        peer = ⟨node.id, node.displayName, node.publicKey, membership.virtualIPv4, node, membership,
          freshEndpoints repository nodeID now⟩ := by
  unfold peerOf
  by_cases self : nodeID = localNodeID
  · simp [self]
  · rw [if_neg self]
    cases members[nodeID]? with
    | none => simp
    | some membership =>
      by_cases active : membership.status = .active
      · cases repository.nodes[nodeID]? with
        | none => simp
        | some node => simp [self, active, eq_comm]
      · simp [active]

theorem peerOf_nodeID (sound : Integrity repository) {members : GoMap Membership} {peer : Peer}
    (shown : peerOf repository members localNodeID now nodeID = some peer) :
    peer.nodeID = nodeID := by
  obtain ⟨-, membership, node, -, -, known, rfl⟩ := peerOf_eq_some.mp shown
  exact sound.nodes.named nodeID node known

theorem shown_increasing (sound : Integrity repository) :
    ((sliceStable (fun left right => decide (left < right))
      (repository.memberships.getD networkID ∅).keys).filterMap
        (peerOf repository (repository.memberships.getD networkID ∅) localNodeID now)).Pairwise
      fun left right => left.nodeID < right.nodeID := by
  refine List.Pairwise.filterMap _ ?_ (sliceStable_strings_strict Std.ExtTreeMap.nodup_keys)
  intro first second ordered left shownLeft right shownRight
  rw [peerOf_nodeID sound shownLeft, peerOf_nodeID sound shownRight]
  exact ordered

theorem snapshotPeers_eq (sound : Integrity repository) :
    snapshotPeers repository networkID localNodeID now =
      (sliceStable (fun left right => decide (left < right))
        (repository.memberships.getD networkID ∅).keys).filterMap
          (peerOf repository (repository.memberships.getD networkID ∅) localNodeID now) := by
  refine sliceStable_of_sorted _ ((shown_increasing sound).imp fun {left right} ordered => ?_)
  unfold peerLess
  rw [if_pos (ne_of_gt ordered)]
  exact decide_eq_false (lt_asymm ordered)

theorem snapshotPeers_increasing (sound : Integrity repository) :
    (snapshotPeers repository networkID localNodeID now).Pairwise fun left right =>
      left.nodeID < right.nodeID := by
  rw [snapshotPeers_eq sound]
  exact shown_increasing sound

theorem mem_snapshotPeers {peer : Peer} :
    peer ∈ snapshotPeers repository networkID localNodeID now ↔
      ∃ nodeID, nodeID ≠ localNodeID ∧ ∃ membership node,
        repository.membership? networkID nodeID = some membership ∧
        membership.status = .active ∧ repository.nodes[nodeID]? = some node ∧
        peer = ⟨node.id, node.displayName, node.publicKey, membership.virtualIPv4, node, membership,
          freshEndpoints repository nodeID now⟩ := by
  unfold snapshotPeers sortPeersByNodeID
  simp only [mem_sliceStable, List.mem_filterMap, Std.ExtTreeMap.mem_keys, peerOf_eq_some,
    getD_getElem?]
  constructor
  · rintro ⟨nodeID, -, other, membership, node, member, rest⟩
    exact ⟨nodeID, other, membership, node, member, rest⟩
  · rintro ⟨nodeID, other, membership, node, member, rest⟩
    refine ⟨nodeID, ?_, other, membership, node, member, rest⟩
    rw [Std.ExtTreeMap.mem_iff_isSome_getElem?, getD_getElem?]
    exact Option.isSome_of_eq_some member

end Members

structure View (repository : MemoryRepository) (networkID localNodeID : String) (time : Time)
    (snapshot : NetworkSnapshot) : Prop where
  localAddress : ∃ membership, repository.membership? networkID localNodeID = some membership ∧
    snapshot.localVirtualIPv4 = membership.virtualIPv4
  increasing : (snapshot.peers.map Peer.nodeID).Pairwise (· < ·)
  members : ∀ nodeID, nodeID ∈ snapshot.peers.map Peer.nodeID ↔
    nodeID ≠ localNodeID ∧ ActiveMember repository networkID nodeID
  records : ∀ peer ∈ snapshot.peers, ∃ node membership,
    repository.nodes[peer.nodeID]? = some node ∧
      repository.membership? networkID peer.nodeID = some membership ∧
      peer.node = node ∧ peer.membership = membership ∧ peer.displayName = node.displayName ∧
      peer.publicKey = node.publicKey ∧ peer.virtualIPv4 = membership.virtualIPv4
  endpoints : ∀ peer ∈ snapshot.peers, ∀ endpoint, endpoint ∈ peer.endpoints ↔
    (∃ stored, repository.endpoints[peer.nodeID]? = some stored ∧ endpoint ∈ stored) ∧
      isFreshEndpoint endpoint time repository.endpointMaxAge = true
  endpointOrder : ∀ peer ∈ snapshot.peers, peer.endpoints.Pairwise fun left right =>
    endpointKey left < endpointKey right
  addresses : (snapshot.localVirtualIPv4 :: snapshot.peers.map Peer.virtualIPv4).Pairwise
    fun left right => equal left right = false
  relay : ∀ assignment, snapshot.relayAssignment = some assignment ↔
    repository.relayAssignment? networkID localNodeID = some assignment ∧
      assignment.status = .active ∧ assignment.assignedAt ≤ time ∧
      (∀ expiresAt, assignment.expiresAt = some expiresAt → time < expiresAt) ∧
      ActiveMember repository networkID assignment.nodeID ∧
      ActiveMember repository networkID assignment.relayNodeID
  relayCopy : snapshot.relay = snapshot.relayAssignment

section Views

variable {repository : MemoryRepository} {networkID localNodeID nodeID : String} {time : Time}

theorem buildSnapshotAt_iff (sound : Integrity repository) (wall now : Time) :
    (∃ snapshot, buildSnapshotAt .live wall networkID localNodeID now repository = .ok snapshot) ↔
      ActiveMember repository networkID localNodeID := by
  constructor
  · rintro ⟨snapshot, built⟩
    obtain ⟨-, network, membership, node, -, member, active, -, -⟩ := buildSnapshotAt_ok.mp built
    exact ⟨membership, member, active⟩
  · rintro ⟨membership, member, active⟩
    obtain ⟨network, present, -⟩ := sound.memberships.pool _ _ _ member
    obtain ⟨node, known⟩ := sound.memberships.node _ _ _ member
    exact ⟨_, buildSnapshotAt_ok.mpr
      ⟨rfl, network, membership, node, present, member, active, known, rfl⟩⟩

theorem mem_freshEndpoints {endpoint : EndpointCandidate} :
    endpoint ∈ freshEndpoints repository nodeID time ↔
      (∃ stored, repository.endpoints[nodeID]? = some stored ∧ endpoint ∈ stored) ∧
        isFreshEndpoint endpoint time repository.endpointMaxAge = true := by
  unfold freshEndpoints sortEndpointCandidates
  rw [mem_sliceStable, List.mem_filter, Std.ExtTreeMap.getD_eq_getD_getElem?]
  cases repository.endpoints[nodeID]? <;> simp

theorem freshEndpoints_increasing (sound : Integrity repository) :
    (freshEndpoints repository nodeID time).Pairwise fun left right =>
      endpointKey left < endpointKey right := by
  have sorted := sortEndpointCandidates_sorted
    ((repository.endpoints.getD nodeID []).filter fun endpoint =>
      isFreshEndpoint endpoint time repository.endpointMaxAge)
  have distinct : ((repository.endpoints.getD nodeID []).map endpointIdentityFor).Nodup := by
    rw [Std.ExtTreeMap.getD_eq_getD_getElem?]
    cases stored : repository.endpoints[nodeID]? with
    | none => exact List.nodup_nil
    | some candidates => exact (sound.endpoints.candidates nodeID candidates stored).distinct
  have separate : ((freshEndpoints repository nodeID time).map endpointIdentityFor).Nodup := by
    refine ((sliceStable_perm endpointLess _).map endpointIdentityFor).nodup_iff.mpr ?_
    exact distinct.sublist (List.filter_sublist.map endpointIdentityFor)
  have apart := List.pairwise_map.mp separate
  refine (sorted.and apart).imp fun {left right} ordered => ?_
  obtain ⟨notAbove, different⟩ := ordered
  have below : endpointKey left ≤ endpointKey right :=
    not_lt.mp fun above => Bool.eq_false_iff.mp notAbove ((endpointLess_iff _ _).mpr above)
  refine lt_of_le_of_ne below fun same => different ?_
  -- equal keys have equal identities
  simp only [endpointKey, EmbeddingLike.apply_eq_iff_eq, Prod.mk.injEq] at same
  simp only [endpointIdentityFor, Prod.mk.injEq]
  exact ⟨same.2.1, UInt16.toNat_inj.mp same.2.2.1, same.2.2.2⟩

theorem membershipIsActiveLocked_iff :
    membershipIsActiveLocked repository networkID nodeID = true ↔
      ActiveMember repository networkID nodeID := by
  simp [membershipIsActiveLocked, ActiveMember, Option.any_eq_true]

theorem snapshotRelay_eq_some {assignment : RelayAssignment} :
    snapshotRelay repository networkID localNodeID time = some assignment ↔
      repository.relayAssignment? networkID localNodeID = some assignment ∧
        assignment.status = .active ∧ assignment.assignedAt ≤ time ∧
        (∀ expiresAt, assignment.expiresAt = some expiresAt → time < expiresAt) ∧
        ActiveMember repository networkID assignment.nodeID ∧
        ActiveMember repository networkID assignment.relayNodeID := by
  have usable : relayAssignmentUsable assignment time = true ↔
      assignment.assignedAt ≤ time ∧
        ∀ expiresAt, assignment.expiresAt = some expiresAt → time < expiresAt := by
    unfold relayAssignmentUsable
    split_ifs with early
    · simp [early]
    · cases assignment.expiresAt <;> simp [not_lt.mp early]
  simp only [snapshotRelay, Option.filter_eq_some_iff, Bool.and_eq_true, decide_eq_true_eq,
    membershipIsActiveLocked_iff, usable, and_assoc]

theorem view_of_snapshot (sound : Integrity repository) {wall now : Time}
    {snapshot : NetworkSnapshot}
    (built : buildSnapshotAt .live wall networkID localNodeID now repository = .ok snapshot) :
    View repository networkID localNodeID (snapshotTime wall now) snapshot := by
  obtain ⟨-, network, own, node, -, ownMember, -, -, rfl⟩ := buildSnapshotAt_ok.mp built
  have described : ∀ peer ∈ snapshotPeers repository networkID localNodeID (snapshotTime wall now),
      peer.nodeID ≠ localNodeID ∧ ∃ node membership,
        repository.nodes[peer.nodeID]? = some node ∧
        repository.membership? networkID peer.nodeID = some membership ∧
        membership.status = .active ∧
        peer = ⟨peer.nodeID, node.displayName, node.publicKey, membership.virtualIPv4, node,
          membership, freshEndpoints repository peer.nodeID (snapshotTime wall now)⟩ := by
    intro peer listed
    obtain ⟨nodeID, other, membership, node, member, active, known, rfl⟩ :=
      mem_snapshotPeers.mp listed
    have named := sound.nodes.named nodeID node known
    subst named
    exact ⟨other, node, membership, known, member, active, rfl⟩
  constructor
  case localAddress => exact ⟨own, ownMember, rfl⟩
  case increasing => exact List.pairwise_map.mpr (snapshotPeers_increasing sound)
  case members =>
    intro nodeID
    rw [List.mem_map]
    constructor
    · rintro ⟨peer, listed, rfl⟩
      obtain ⟨other, node, membership, -, member, active, -⟩ := described peer listed
      exact ⟨other, membership, member, active⟩
    · rintro ⟨other, membership, member, active⟩
      obtain ⟨node, known⟩ := sound.memberships.node _ _ _ member
      exact ⟨_, mem_snapshotPeers.mpr ⟨nodeID, other, membership, node, member, active, known, rfl⟩,
        sound.nodes.named nodeID node known⟩
  case records =>
    intro peer listed
    obtain ⟨-, node, membership, known, member, -, shape⟩ := described peer listed
    refine ⟨node, membership, known, member, ?_⟩
    rw [shape]
    exact ⟨rfl, rfl, rfl, rfl, rfl⟩
  case endpoints =>
    intro peer listed endpoint
    obtain ⟨-, node, membership, -, -, -, shape⟩ := described peer listed
    rw [shape]
    exact mem_freshEndpoints
  case endpointOrder =>
    intro peer listed
    obtain ⟨-, node, membership, -, -, -, shape⟩ := described peer listed
    rw [shape]
    exact freshEndpoints_increasing sound
  case addresses =>
    have apart : ∀ first second left right,
        repository.membership? networkID first = some left →
        repository.membership? networkID second = some right → first ≠ second →
        equal left.virtualIPv4 right.virtualIPv4 = false := by
      intro first second left right storedLeft storedRight different
      exact Bool.eq_false_iff.mpr fun same => different
        (sound.memberships.distinct networkID first second left right storedLeft storedRight same)
    refine List.pairwise_cons.mpr ⟨fun address listed => ?_, List.pairwise_map.mpr ?_⟩
    · obtain ⟨peer, member, rfl⟩ := List.mem_map.mp listed
      obtain ⟨other, node, membership, -, stored, -, shape⟩ := described peer member
      rw [shape]
      exact apart localNodeID peer.nodeID own membership ownMember stored other.symm
    · refine (snapshotPeers_increasing sound).imp_of_mem
        fun {left right} inLeft inRight ordered => ?_
      obtain ⟨-, _, leftMembership, -, storedLeft, -, leftShape⟩ := described left inLeft
      obtain ⟨-, _, rightMembership, -, storedRight, -, rightShape⟩ := described right inRight
      rw [leftShape, rightShape]
      exact apart left.nodeID right.nodeID leftMembership rightMembership storedLeft storedRight
        (ne_of_lt ordered)
  case relay => exact fun assignment => snapshotRelay_eq_some
  case relayCopy => rfl

theorem View.mutual {ours theirs : NetworkSnapshot} {other : String}
    (own : View repository networkID localNodeID time ours)
    (view : View repository networkID other time theirs) (different : other ≠ localNodeID)
    (active : ActiveMember repository networkID other) :
    ∃ peer ∈ ours.peers, ∃ node, peer.nodeID = other ∧ repository.nodes[other]? = some node ∧
      peer.publicKey = node.publicKey ∧ peer.virtualIPv4 = theirs.localVirtualIPv4 := by
  obtain ⟨peer, listed, rfl⟩ := List.mem_map.mp ((own.members other).mpr ⟨different, active⟩)
  obtain ⟨node, membership, known, member, -, -, -, key, address⟩ := own.records peer listed
  obtain ⟨stored, found, given⟩ := view.localAddress
  rw [member] at found
  cases found
  exact ⟨peer, listed, node, rfl, known, key, address.trans given.symm⟩

end Views

/-- Snapshots are complete, and two members' snapshots agree about each other. -/
theorem snapshots_complete_and_consistent (maxAge : Duration) (actions : List Action)
    (networkID : String) (wall now : Time) :
    let repository := reached maxAge actions
    let snapshotOf := fun nodeID => buildSnapshotAt .live wall networkID nodeID now repository
    (∀ nodeID, (∃ snapshot, snapshotOf nodeID = .ok snapshot) ↔
        ActiveMember repository networkID nodeID) ∧
      ∀ nodeID snapshot, snapshotOf nodeID = .ok snapshot →
        View repository networkID nodeID (snapshotTime wall now) snapshot ∧
          ∀ other theirs, snapshotOf other = .ok theirs → other ≠ nodeID →
            ∃ peer ∈ snapshot.peers, ∃ node, peer.nodeID = other ∧
              repository.nodes[other]? = some node ∧ peer.publicKey = node.publicKey ∧
              peer.virtualIPv4 = theirs.localVirtualIPv4 := by
  intro repository snapshotOf
  have sound : Integrity repository := (wellFormed_reached maxAge actions).integrity
  refine ⟨fun nodeID => buildSnapshotAt_iff sound wall now, fun nodeID snapshot built => ?_⟩
  have own := view_of_snapshot sound built
  refine ⟨own, fun other theirs alsoBuilt different => ?_⟩
  exact own.mutual (view_of_snapshot sound alsoBuilt) different
    ((buildSnapshotAt_iff sound wall now).mp ⟨theirs, alsoBuilt⟩)

end Ipv6Mesh.DbViews
