import Ipv6Mesh.DbSnapshot

/-!
# Configuration versions

An operation either moves the version of a network by one increment or leaves
both the network record and everything its snapshots read as they were. The
increment wraps at `2^63 - 1` to `-2^63`, and a version that is not positive is
reset to one.
-/

namespace Ipv6Mesh.DbVersions

open GoText GoMap GoFlow ControlModel DbMemory DbOperations DbIntegrity DbRuns DbSnapshot

theorem nextConfigVersion_of_range {version : Int} (positive : 0 < version)
    (below : version < maxInt64) : nextConfigVersion version = version + 1 := by
  have low : (-2 ^ 63 : Int) ≤ version + 1 := by omega
  have high : version + 1 ≤ maxInt64 := by omega
  unfold nextConfigVersion
  rw [if_neg (by omega), wrapInt64_of_range low high]

def Still (networkID : String) (before after : MemoryRepository) : Prop :=
  after.networks[networkID]? = before.networks[networkID]? ∧ SameView networkID before after

/-- The version of the network took one increment and its record changed nowhere else. -/
def Moved (networkID : String) (before after : MemoryRepository) : Prop :=
  ∃ network, before.networks[networkID]? = some network ∧
    after.networks[networkID]? = some (bumped network)

def MovedOrStill (networkID : String) (before after : MemoryRepository) : Prop :=
  Moved networkID before after ∨ Still networkID before after

section Increments

variable {networkID : String} {before base : MemoryRepository}

theorem still_of_view (networks : base.networks = before.networks)
    (members : ∀ nodeID, base.membership? networkID nodeID = before.membership? networkID nodeID)
    (nodes : ∀ nodeID membership, before.membership? networkID nodeID = some membership →
      base.nodes[nodeID]?.map shown = before.nodes[nodeID]?.map shown)
    (endpoints : ∀ nodeID membership, before.membership? networkID nodeID = some membership →
      base.endpoints[nodeID]? = before.endpoints[nodeID]?)
    (relays : ∀ nodeID,
      base.relayAssignment? networkID nodeID = before.relayAssignment? networkID nodeID)
    (maxAge : base.endpointMaxAge = before.endpointMaxAge) : Still networkID before base := by
  have record : base.networks[networkID]? = before.networks[networkID]? := by rw [networks]
  exact ⟨record, congrArg Option.isSome record, members, nodes, endpoints, relays, maxAge⟩

theorem increments_moved_or_still {networkIDs : List String} (distinct : networkIDs.Nodup)
    {network : Network} (present : before.networks[networkID]? = some network)
    (networks : base.networks = before.networks)
    (unlisted : networkID ∉ networkIDs → Still networkID before base) :
    MovedOrStill networkID before (networkIDs.foldl incrementNetworkVersionLocked base) := by
  have lookup := foldl_increment_networks distinct base networkID
  by_cases listed : networkID ∈ networkIDs
  · refine Or.inl ⟨network, present, ?_⟩
    rw [lookup, if_pos listed, networks, getD_of_stored present]
  · obtain ⟨-, view⟩ := unlisted listed
    rw [if_neg listed, networks] at lookup
    have frame := foldl_increment_eq networkIDs base
    refine Or.inr ⟨lookup, ?_⟩
    rw [frame] at lookup ⊢
    exact { view with network := congrArg Option.isSome lookup }

theorem increment_moved_or_still {changed : String} {network : Network}
    (present : before.networks[networkID]? = some network)
    (networks : base.networks = before.networks)
    (other : networkID ≠ changed → Still networkID before base) :
    MovedOrStill networkID before (incrementNetworkVersionLocked base changed) := by
  have unlisted : networkID ∉ [changed] → Still networkID before base := by
    intro absent
    exact other fun same => absent (List.mem_singleton.mpr same)
  exact increments_moved_or_still (List.nodup_singleton changed) present networks unlisted

end Increments

section Operations

variable {networkID : String} {repository after : MemoryRepository} {network : Network}

theorem still_prepare (changed : String) :
    Still networkID repository (prepareRelayAssignments repository changed) := by
  have relays := prepare_relayAssignment? repository changed networkID
  rw [prepare_frame] at relays ⊢
  exact still_of_view rfl (fun _ => rfl) (fun _ _ _ => rfl) (fun _ _ _ => rfl) relays rfl

theorem still_insertNode {nodeID : String} {node : Node}
    (unseen : ∀ membership, repository.membership? networkID nodeID = some membership →
      repository.nodes[nodeID]?.map shown = some (shown node)) {publicKeys : GoMap String} :
    Still networkID repository { repository with
      nodes := repository.nodes.insert nodeID node, publicKeys := publicKeys } := by
  refine still_of_view rfl (fun _ => rfl) ?_ (fun _ _ _ => rfl) (fun _ => rfl) rfl
  intro other membership member
  change (repository.nodes.insert nodeID node)[other]?.map shown = _
  rw [getElem?_insert]
  by_cases same : nodeID = other
  · subst same
    rw [if_pos rfl, Option.map_some, unseen membership member]
  · rw [if_neg same]

theorem moved_or_still_removeNode (present : repository.networks[networkID]? = some network)
    (nodeID : String) (node : Node) :
    MovedOrStill networkID repository ((affectedNetworks repository nodeID).foldl
      incrementNetworkVersionLocked (withoutNode repository nodeID node)) := by
  refine increments_moved_or_still (affectedNetworks_nodup repository nodeID) present rfl ?_
  intro unaffected
  rw [mem_affectedNetworks, not_or, mem_networksOfNode, mem_networksOfRelay] at unaffected
  obtain ⟨notMember, notRelay⟩ := unaffected
  have different : ∀ member membership,
      repository.membership? networkID member = some membership → nodeID ≠ member := by
    intro member membership lookup same
    subst same
    exact notMember ⟨membership, lookup⟩
  refine still_of_view rfl ?_ ?_ ?_ ?_ ?_
  · intro member
    rw [withoutNode_membership?]
    by_cases same : nodeID = member
    · subst same
      rw [if_pos rfl]
      cases lookup : repository.membership? networkID nodeID with
      | none => rfl
      | some membership => exact absurd ⟨membership, lookup⟩ notMember
    · rw [if_neg same]
  · intro member membership lookup
    exact congrArg (Option.map shown) (getElem?_erase_ne (different member membership lookup))
  · intro member membership lookup
    exact getElem?_erase_ne (different member membership lookup)
  · intro target
    rw [withoutNode_relayAssignment?]
    cases lookup : repository.relayAssignment? networkID target with
    | none => rfl
    | some assignment =>
      have unnamed : names assignment nodeID = false := by
        rw [← Bool.not_eq_true]
        exact fun named => notRelay ⟨target, assignment, lookup, named⟩
      simp [Option.filter, unnamed]
  · rfl

theorem moved_or_still_removeMembership
    (present : repository.networks[networkID]? = some network) {changed : String}
    {members : GoMap Membership} (nodeID : String)
    (stored : repository.memberships[changed]? = some members) :
    MovedOrStill networkID repository (incrementNetworkVersionLocked
      (withoutMember repository changed nodeID members) changed) := by
  have memberships := withoutMember_membership? repository changed nodeID stored networkID
  have relays : ∀ target assignment,
      (withoutMember repository changed nodeID members).relayAssignment? networkID target =
          some assignment ↔ repository.relayAssignment? networkID target = some assignment ∧
        ¬(changed = networkID ∧ (target = nodeID ∨ names assignment nodeID = true)) :=
    detachNode_relayAssignment? _ changed nodeID networkID
  have frame : withoutMember repository changed nodeID members = { repository with
      memberships := (withoutMember repository changed nodeID members).memberships
      relayAssignments := (withoutMember repository changed nodeID members).relayAssignments
      relayAssignmentOwners :=
        (withoutMember repository changed nodeID members).relayAssignmentOwners } := by
    rw [withoutMember, detachNode_frame]
  refine increment_moved_or_still present ?_ ?_
  · rw [frame]
  · intro different
    have kept : ∀ member, (withoutMember repository changed nodeID members).membership? networkID
        member = repository.membership? networkID member := by
      intro member
      rw [memberships, if_neg fun same => different same.1.symm]
    have keptRelays : ∀ target,
        (withoutMember repository changed nodeID members).relayAssignment? networkID target =
          repository.relayAssignment? networkID target := by
      intro target
      apply Option.ext
      intro assignment
      rw [relays, and_iff_left fun same => different same.1.symm]
    rw [frame] at kept keptRelays ⊢
    exact still_of_view rfl kept (fun _ _ _ => rfl) (fun _ _ _ => rfl) keptRelays rfl

theorem movedOrStill_effect {op : Op} (change : Effect repository op after)
    (sound : Integrity repository) (present : repository.networks[networkID]? = some network) :
    MovedOrStill networkID repository after := by
  have same := SameView.refl networkID repository
  cases change with
  | prepared changed => exact Or.inr (still_prepare changed)
  | networkCreated ctx created valid fresh =>
    have other := ne_of_fresh fresh present
    exact Or.inr ⟨getElem?_insert_ne other, { same with
      network := congrArg Option.isSome (getElem?_insert_ne other) }⟩
  | nodeAdded ctx node valid fresh =>
    refine Or.inr (still_insertNode fun membership member => ?_)
    obtain ⟨existing, stored⟩ := sound.memberships.node _ _ _ member
    exact absurd rfl (ne_of_fresh fresh stored)
  | nodeRewritten nodeID node lastSeen version stored =>
    refine Or.inr (still_insertNode fun membership member => ?_)
    rw [stored]
    rfl
  | nodeRemoved ctx nodeID node => exact moved_or_still_removeNode present nodeID node
  | memberAdded ctx membership =>
    refine increment_moved_or_still present rfl fun different => ⟨rfl, { same with
      members := fun nodeID => (lookup₂_insert₂ _ _ _ _ _ _).trans (if_neg ?_) }⟩
    exact fun same => different same.1.symm
  | memberRemoved ctx changed nodeID members membership held =>
    exact moved_or_still_removeMembership present nodeID held
  | endpointsReplaced ctx nodeID endpoints validated =>
    refine increments_moved_or_still (networksOfNode_nodup repository nodeID) present rfl
      fun notMember => ⟨rfl, { same with
        endpoints := fun member membership lookup => getElem?_insert_ne ?_ }⟩
    rintro rfl
    exact notMember (mem_networksOfNode.mpr ⟨membership, lookup⟩)
  | relaySet ctx assignment =>
    have prepared := prepare_relayAssignment? repository assignment.networkID networkID
    have relays := withRelayAssignment_relayAssignment?
      (prepareRelayAssignments repository assignment.networkID) assignment networkID
    rw [prepare_frame] at prepared relays ⊢
    refine increment_moved_or_still present rfl fun different => ⟨rfl, { same with
      relays := fun target => (relays target).trans ((if_neg ?_).trans (prepared target)) }⟩
    exact fun same => different same.1.symm
  | relaysRemoved ctx changed =>
    exact increment_moved_or_still present rfl fun different => ⟨rfl, { same with
      relays := fun target => (lookup₂_erase _ _ _ _).trans (if_neg different.symm) }⟩
  | _ => exact Or.inr ⟨rfl, { same with }⟩

theorem apply_moved_or_still (sound : Integrity repository) (op : Op)
    (present : repository.networks[networkID]? = some network) :
    ((op.apply repository).1 = .ok () ∧ Moved networkID repository (op.step repository)) ∨
      Still networkID repository (op.step repository) := by
  have change := movedOrStill_effect (step_effect op repository) sound present
  rcases outcome : op.apply repository with ⟨_ | _, after⟩
  · right
    rw [Op.step, outcome]
    rcases apply_error outcome with rfl | ⟨changed, rfl⟩
    · exact ⟨rfl, SameView.refl networkID after⟩
    · exact still_prepare changed
  · exact change.imp_left fun moved => ⟨rfl, moved⟩

end Operations

/-- What one operation may do to an existing network: the version does not
decrease, a failure leaves it, a success adds at most one, and whenever some
member's content differs at some time the version strictly grew. -/
def VersionLaw (networkID : String) (network : Network) (op : Op)
    (before : MemoryRepository) : Prop :=
  ∃ later, (op.step before).networks[networkID]? = some later ∧
    network.configVersion ≤ later.configVersion ∧
    later.configVersion ≤ network.configVersion + 1 ∧
    (∀ err, (op.apply before).1 = .error err → later.configVersion = network.configVersion) ∧
    ∀ ctx wall localNodeID now,
      content (buildSnapshotAt ctx wall networkID localNodeID now (op.step before)) ≠
          content (buildSnapshotAt ctx wall networkID localNodeID now before) →
        network.configVersion < later.configVersion

theorem versionLaw_of_sound {networkID : String} {network : Network} {before : MemoryRepository}
    (sound : Integrity before) (op : Op) (present : before.networks[networkID]? = some network)
    (positive : 0 < network.configVersion) (below : network.configVersion < maxInt64) :
    VersionLaw networkID network op before := by
  rcases apply_moved_or_still sound op present with moved | still
  · obtain ⟨succeeded, record, stored, after⟩ := moved
    have same : record = network := Option.some.inj (stored.symm.trans present)
    subst same
    have version : (bumped record).configVersion = record.configVersion + 1 :=
      nextConfigVersion_of_range positive below
    refine ⟨bumped record, after, by omega, by omega, ?_, fun _ _ _ _ _ => by omega⟩
    intro err failed
    rw [succeeded] at failed
    cases failed
  · obtain ⟨record, view⟩ := still
    refine ⟨network, record.trans present, le_refl _, by omega, fun _ _ => rfl, ?_⟩
    intro ctx wall localNodeID now differs
    exact absurd (view.content ctx wall localNodeID now) differs

def startedNetwork (version : Int) : Network :=
  { id := "n", name := "n", ipv4Pool := "10.0.0.0/24", ownerID := "o", configVersion := version,
    createdAt := 1 }

def startedNode : Node :=
  { id := "a", displayName := "a", publicKey := "k", platform := "p", clientVersion := "v",
    lastSeen := 0 }

def startedMembership : Membership :=
  { networkID := "n", nodeID := "a", virtualIPv4 := [10, 0, 0, 1], role := .member,
    status := .active }

def startedRun (version : Int) : List Action :=
  [.single (.createNetwork .live (startedNetwork version)), .single (.addNode .live startedNode),
    .single (.addMembership .live startedMembership)]

def reachableNode : Node :=
  { id := "b", displayName := "b", publicKey := "AQAAAAAAAAAAAAAAAAAAAAAAAAAAAAAAAAAAAAAAAAA=",
    platform := "p", clientVersion := "v", lastSeen := 0 }

def reachableMembership : Membership :=
  { networkID := "n", nodeID := "b", virtualIPv4 := [10, 0, 0, 2], role := .member,
    status := .active }

def pairRun : List Action :=
  startedRun 1 ++ [.single (.addNode .live reachableNode),
    .single (.addMembership .live reachableMembership)]

def plainRelay (id : String) : RelayAssignment :=
  { id, networkID := "n", nodeID := "a", relayNodeID := "b", address := [9, 9, 9, 9], port := 3478,
    family := .ipv4, status := .active, assignedAt := minute, expiresAt := some (30 * minute) }

/-- No silent configuration change in any reachable state, for a version that is
positive and has not reached the end of the counter. -/
theorem operation_obeys_version_law (maxAge : Duration) (actions : List Action) (op : Op)
    (networkID : String) (network : Network)
    (present : (reached maxAge actions).networks[networkID]? = some network)
    (positive : 0 < network.configVersion) (below : network.configVersion < maxInt64) :
    VersionLaw networkID network op (reached maxAge actions) := by
  have sound := run_invariant Action.step Integrity integrity_step actions (integrity_new maxAge)
  exact versionLaw_of_sound sound op present positive below

theorem operation_obeys_version_law_at_two :
    VersionLaw "n" (startedNetwork 2) (.removeMembership .live "n" "a")
      (reached defaultEndpointMaxAge (startedRun 1)) :=
  operation_obeys_version_law defaultEndpointMaxAge (startedRun 1) (.removeMembership .live "n" "a")
    "n" (startedNetwork 2) (by decide +kernel) (by decide) (by decide)

/-- After the counter wrapped, the guard on non-positive versions resets it to
one, which is a raise by more than one. -/
theorem version_law_fails_after_wrap :
    ¬∀ (maxAge : Duration) (actions : List Action) (op : Op) (networkID : String)
      (network : Network), (reached maxAge actions).networks[networkID]? = some network →
        network.configVersion < maxInt64 →
          VersionLaw networkID network op (reached maxAge actions) := by
  intro law
  have wrapped : (reached defaultEndpointMaxAge (startedRun maxInt64)).networks["n"]? =
        some (startedNetwork (-2 ^ 63)) := by decide +kernel
  have reset : ((Op.removeMembership .live "n" "a").step
      (reached defaultEndpointMaxAge (startedRun maxInt64))).networks["n"]? =
        some (startedNetwork 1) := by decide +kernel
  obtain ⟨later, stored, -, raised, -⟩ := law defaultEndpointMaxAge (startedRun maxInt64)
    (.removeMembership .live "n" "a") "n" (startedNetwork (-2 ^ 63)) wrapped (by decide)
  have same : startedNetwork 1 = later := Option.some.inj (reset.symm.trans stored)
  subst same
  exact absurd raised (by decide)

end Ipv6Mesh.DbVersions
