import Ipv6Mesh.DbRuns

/-!
# Snapshots of the in-memory repository

`buildSnapshotAt` transcribes `MemoryRepository.BuildSnapshotAt`: the local
member must be active and known, the peers are the other active members in
node order with their fresh endpoints, and a relay assignment is handed out
only while it is usable and both its members are active.

`SameView` lists what a snapshot of one network reads. Two repositories with
the same view give every member the same data-plane content at every time.
-/

namespace Ipv6Mesh.DbSnapshot

open GoText GoNet GoMap GoFlow ControlModel ControlValidation DbMemory DbOperations

def membershipIsActiveLocked (repository : MemoryRepository) (networkID nodeID : String) : Bool :=
  (repository.membership? networkID nodeID).any fun membership => membership.status = .active

def relayAssignmentUsable (assignment : RelayAssignment) (now : Time) : Bool :=
  if now < assignment.assignedAt then false
  else assignment.expiresAt.all fun expiresAt => now < expiresAt

def peerLess (left right : Peer) : Bool :=
  if left.nodeID ≠ right.nodeID then left.nodeID < right.nodeID
  else if left.publicKey ≠ right.publicKey then left.publicKey < right.publicKey
  else text left.virtualIPv4 < text right.virtualIPv4

def sortPeersByNodeID (peers : List Peer) : List Peer := sliceStable peerLess peers

def freshEndpoints (repository : MemoryRepository) (nodeID : String) (now : Time) :
    List EndpointCandidate :=
  sortEndpointCandidates ((repository.endpoints.getD nodeID []).filter fun endpoint =>
    isFreshEndpoint endpoint now repository.endpointMaxAge)

def peerOf (repository : MemoryRepository) (members : GoMap Membership) (localNodeID : String)
    (now : Time) (nodeID : String) : Option Peer :=
  if nodeID = localNodeID then none
  else do
    let membership ← members[nodeID]?
    if membership.status ≠ .active then none
    let node ← repository.nodes[nodeID]?
    some {
      nodeID := node.id
      displayName := node.displayName
      publicKey := node.publicKey
      virtualIPv4 := membership.virtualIPv4
      node := node
      membership := membership
      endpoints := freshEndpoints repository nodeID now }

def snapshotPeers (repository : MemoryRepository) (networkID localNodeID : String) (now : Time) :
    List Peer :=
  let members := repository.memberships.getD networkID ∅
  let memberIDs := sliceStable (fun left right => left < right) members.keys
  sortPeersByNodeID (memberIDs.filterMap (peerOf repository members localNodeID now))

def snapshotRelay (repository : MemoryRepository) (networkID localNodeID : String) (now : Time) :
    Option RelayAssignment :=
  (repository.relayAssignment? networkID localNodeID).filter fun selected =>
    selected.status = .active && relayAssignmentUsable selected now &&
      membershipIsActiveLocked repository networkID selected.nodeID &&
      membershipIsActiveLocked repository networkID selected.relayNodeID

def snapshotTime (wall now : Time) : Time := if Time.isZero now then wall else now

def buildSnapshotAt (ctx : Context) (wall : Time) (networkID localNodeID : String) (now : Time)
    (repository : MemoryRepository) : Except Error NetworkSnapshot := do
  contextError ctx
  let network ← found repository.networks[networkID]?
  let localMembership ← found (repository.membership? networkID localNodeID)
  refuseWhen (localMembership.status ≠ .active) .notFound
  let _ ← found repository.nodes[localNodeID]?
  let relay := snapshotRelay repository networkID localNodeID (snapshotTime wall now)
  .ok {
    networkID := network.id
    generation := network.configVersion
    configVersion := network.configVersion
    localNodeID := localNodeID
    localVirtualIPv4 := localMembership.virtualIPv4
    peers := snapshotPeers repository networkID localNodeID (snapshotTime wall now)
    relayAssignment := relay
    relay := relay
    generatedAt := snapshotTime wall now }

theorem buildSnapshotAt_ok {ctx : Context} {wall now : Time} {networkID localNodeID : String}
    {repository : MemoryRepository} {snapshot : NetworkSnapshot} :
    buildSnapshotAt ctx wall networkID localNodeID now repository = .ok snapshot ↔
      ctx = .live ∧ ∃ network membership node,
        repository.networks[networkID]? = some network ∧
        repository.membership? networkID localNodeID = some membership ∧
        membership.status = .active ∧ repository.nodes[localNodeID]? = some node ∧
        snapshot = {
          networkID := network.id
          generation := network.configVersion
          configVersion := network.configVersion
          localNodeID := localNodeID
          localVirtualIPv4 := membership.virtualIPv4
          peers := snapshotPeers repository networkID localNodeID (snapshotTime wall now)
          relayAssignment :=
            snapshotRelay repository networkID localNodeID (snapshotTime wall now)
          relay := snapshotRelay repository networkID localNodeID (snapshotTime wall now)
          generatedAt := snapshotTime wall now } := by
  simp only [buildSnapshotAt, check_eq_ok, found_bind_ok, contextError_ok, refuseWhen_ok,
    decide_eq_false_iff_not, not_not, Except.ok.injEq]
  constructor
  · rintro ⟨live, network, present, membership, member, active, node, known, result⟩
    exact ⟨live, network, membership, node, present, member, active, known, result.symm⟩
  · rintro ⟨live, network, membership, node, present, member, active, known, result⟩
    exact ⟨live, network, present, membership, member, active, node, known, result.symm⟩

structure PeerContent where
  nodeID : String
  displayName : String
  publicKey : String
  virtualIPv4 : IP
  endpoints : List EndpointCandidate
deriving DecidableEq

structure Content where
  localVirtualIPv4 : IP
  peers : List PeerContent
  relayAssignment : Option RelayAssignment
deriving DecidableEq

def peerContent (peer : Peer) : PeerContent :=
  { nodeID := peer.nodeID, displayName := peer.displayName, publicKey := peer.publicKey,
    virtualIPv4 := peer.virtualIPv4, endpoints := peer.endpoints }

def content : Except Error NetworkSnapshot → Option Content
  | .error _ => none
  | .ok snapshot => some {
      localVirtualIPv4 := snapshot.localVirtualIPv4
      peers := snapshot.peers.map peerContent
      relayAssignment := snapshot.relayAssignment }

def shown (node : Node) : String × String × String := (node.id, node.displayName, node.publicKey)

structure SameView (networkID : String) (before after : MemoryRepository) : Prop where
  network : after.networks[networkID]?.isSome = before.networks[networkID]?.isSome
  members : ∀ nodeID, after.membership? networkID nodeID = before.membership? networkID nodeID
  nodes : ∀ nodeID membership, before.membership? networkID nodeID = some membership →
    after.nodes[nodeID]?.map shown = before.nodes[nodeID]?.map shown
  endpoints : ∀ nodeID membership, before.membership? networkID nodeID = some membership →
    after.endpoints[nodeID]? = before.endpoints[nodeID]?
  relays : ∀ nodeID,
    after.relayAssignment? networkID nodeID = before.relayAssignment? networkID nodeID
  maxAge : after.endpointMaxAge = before.endpointMaxAge

theorem SameView.refl (networkID : String) (repository : MemoryRepository) :
    SameView networkID repository repository :=
  ⟨rfl, fun _ => rfl, fun _ _ _ => rfl, fun _ _ _ => rfl, fun _ => rfl, rfl⟩

theorem SameView.trans {networkID : String} {first second third : MemoryRepository}
    (before : SameView networkID first second) (later : SameView networkID second third) :
    SameView networkID first third where
  network := later.network.trans before.network
  members nodeID := (later.members nodeID).trans (before.members nodeID)
  nodes nodeID membership stored :=
    (later.nodes nodeID membership ((before.members nodeID).trans stored)).trans
      (before.nodes nodeID membership stored)
  endpoints nodeID membership stored :=
    (later.endpoints nodeID membership ((before.members nodeID).trans stored)).trans
      (before.endpoints nodeID membership stored)
  relays nodeID := (later.relays nodeID).trans (before.relays nodeID)
  maxAge := later.maxAge.trans before.maxAge

section View

variable {networkID : String} {before after : MemoryRepository}

theorem SameView.memberMap (view : SameView networkID before after) :
    after.memberships.getD networkID ∅ = before.memberships.getD networkID ∅ := by
  apply Std.ExtTreeMap.ext_getElem?
  intro nodeID
  rw [getD_getElem?, getD_getElem?]
  exact view.members nodeID

theorem SameView.active (view : SameView networkID before after) (nodeID : String) :
    membershipIsActiveLocked after networkID nodeID =
      membershipIsActiveLocked before networkID nodeID := by
  unfold membershipIsActiveLocked
  rw [view.members nodeID]

theorem SameView.relay (view : SameView networkID before after) (localNodeID : String)
    (now : Time) :
    snapshotRelay after networkID localNodeID now =
      snapshotRelay before networkID localNodeID now := by
  unfold snapshotRelay
  simp only [view.relays, view.active]

theorem SameView.fresh (view : SameView networkID before after) {nodeID : String}
    {membership : Membership} (member : before.membership? networkID nodeID = some membership)
    (now : Time) : freshEndpoints after nodeID now = freshEndpoints before nodeID now := by
  have stored := view.endpoints nodeID membership member
  unfold freshEndpoints
  rw [Std.ExtTreeMap.getD_eq_getD_getElem?, Std.ExtTreeMap.getD_eq_getD_getElem?, stored,
    view.maxAge]

theorem shown_eq {left right : Node} (same : shown left = shown right) :
    left.id = right.id ∧ left.displayName = right.displayName ∧
      left.publicKey = right.publicKey := by
  simpa [shown] using same

theorem SameView.peer (view : SameView networkID before after) (localNodeID nodeID : String)
    (now : Time) :
    (peerOf after (after.memberships.getD networkID ∅) localNodeID now nodeID).map peerContent =
      (peerOf before (before.memberships.getD networkID ∅) localNodeID now nodeID).map
        peerContent := by
  rw [view.memberMap]
  unfold peerOf
  by_cases self : nodeID = localNodeID
  · rw [if_pos self, if_pos self]
  · rw [if_neg self, if_neg self, getD_getElem?]
    cases member : lookup₂ before.memberships networkID nodeID with
    | none => rfl
    | some membership =>
      have nodes := view.nodes nodeID membership member
      have fresh := view.fresh member now
      by_cases active : membership.status = .active
      · cases first : before.nodes[nodeID]? with
        | none =>
          rw [first, Option.map_none, Option.map_eq_none_iff] at nodes
          simp [nodes]
        | some node =>
          rw [first, Option.map_some, Option.map_eq_some_iff] at nodes
          obtain ⟨later, second, same⟩ := nodes
          have fields := shown_eq same
          simp [active, second, peerContent, fields, fresh]
      · simp [active]

def peerContentLess (left right : PeerContent) : Bool :=
  if left.nodeID ≠ right.nodeID then left.nodeID < right.nodeID
  else if left.publicKey ≠ right.publicKey then left.publicKey < right.publicKey
  else text left.virtualIPv4 < text right.virtualIPv4

theorem snapshotPeers_content (repository : MemoryRepository) (networkID localNodeID : String)
    (now : Time) :
    (snapshotPeers repository networkID localNodeID now).map peerContent =
      sliceStable peerContentLess
        ((sliceStable (fun left right => left < right)
          (repository.memberships.getD networkID ∅).keys).filterMap fun nodeID =>
            (peerOf repository (repository.memberships.getD networkID ∅) localNodeID now
              nodeID).map peerContent) := by
  unfold snapshotPeers sortPeersByNodeID
  rw [map_sliceStable peerLess peerContent peerContentLess fun _ _ => rfl, List.map_filterMap]

theorem SameView.peers (view : SameView networkID before after) (localNodeID : String)
    (now : Time) :
    (snapshotPeers after networkID localNodeID now).map peerContent =
      (snapshotPeers before networkID localNodeID now).map peerContent := by
  rw [snapshotPeers_content, snapshotPeers_content]
  simp only [view.peer localNodeID _ now]
  rw [view.memberMap]

theorem content_eq_some {ctx : Context} {wall now : Time} {localNodeID : String}
    {repository : MemoryRepository} {visible : Content} :
    content (buildSnapshotAt ctx wall networkID localNodeID now repository) = some visible ↔
      ctx = .live ∧ repository.networks[networkID]?.isSome = true ∧
        repository.nodes[localNodeID]?.isSome = true ∧
        ∃ membership, repository.membership? networkID localNodeID = some membership ∧
          membership.status = .active ∧
          visible = {
            localVirtualIPv4 := membership.virtualIPv4
            peers := (snapshotPeers repository networkID localNodeID
              (snapshotTime wall now)).map peerContent
            relayAssignment := snapshotRelay repository networkID localNodeID
              (snapshotTime wall now) } := by
  have asSnapshot :
      content (buildSnapshotAt ctx wall networkID localNodeID now repository) = some visible ↔
        ∃ snapshot, buildSnapshotAt ctx wall networkID localNodeID now repository = .ok snapshot ∧
          content (.ok snapshot) = some visible := by
    cases buildSnapshotAt ctx wall networkID localNodeID now repository <;> simp [content]
  rw [asSnapshot]
  simp only [buildSnapshotAt_ok, Option.isSome_iff_exists]
  constructor
  · intro built
    obtain ⟨_, ⟨live, network, membership, node, present, member, active, known, rfl⟩, same⟩ :=
      built
    exact ⟨live, ⟨network, present⟩, ⟨node, known⟩, membership, member, active,
      (Option.some.inj same).symm⟩
  · rintro ⟨live, ⟨network, present⟩, ⟨node, known⟩, membership, member, active, rfl⟩
    exact ⟨_, ⟨live, network, membership, node, present, member, active, known, rfl⟩, rfl⟩

theorem SameView.content (view : SameView networkID before after) (ctx : Context) (wall : Time)
    (localNodeID : String) (now : Time) :
    DbSnapshot.content (buildSnapshotAt ctx wall networkID localNodeID now after) =
      DbSnapshot.content (buildSnapshotAt ctx wall networkID localNodeID now before) := by
  apply Option.ext
  intro visible
  rw [content_eq_some, content_eq_some, view.network, view.members localNodeID,
    view.peers localNodeID, view.relay localNodeID]
  refine and_congr_right fun _ => and_congr_right fun _ => ?_
  -- whether the local node is known is read only for a member
  constructor <;> rintro ⟨known, membership, member, rest⟩
  all_goals
    have nodes := congrArg Option.isSome (view.nodes localNodeID membership member)
    rw [Option.isSome_map, Option.isSome_map] at nodes
    exact ⟨nodes ▸ known, membership, member, rest⟩

end View

end Ipv6Mesh.DbSnapshot
