import Ipv6Mesh.DbNetworks

/-!
# Operations on one node

What the operations that name a node can change: its own records, the relay
assignments that name it, the invites it consumed, and the versions of the
networks that it is a member of or relays in.
-/

namespace Ipv6Mesh.DbNodeChanges

open GoMap GoFlow ControlModel DbMemory DbOperations DbIntegrity

def OnlyVersion (allowed : Prop) (before after : Option Network) : Prop :=
  after = before ∨ (allowed ∧ ∃ network version, before = some network ∧
    after = some { network with configVersion := version })

theorem OnlyVersion.mono {allowed wider : Prop} {before after : Option Network}
    (only : OnlyVersion allowed before after) (widen : allowed → wider) :
    OnlyVersion wider before after :=
  only.imp id fun changed => ⟨widen changed.1, changed.2⟩

theorem OnlyVersion.trans {allowed : Prop} {before middle after : Option Network}
    (first : OnlyVersion allowed before middle) (second : OnlyVersion allowed middle after) :
    OnlyVersion allowed before after := by
  rcases first with rfl | ⟨permitted, network, version, rfl, rfl⟩
  · exact second
  · rcases second with rfl | ⟨-, _, later, moved, rfl⟩
    · exact Or.inr ⟨permitted, network, version, rfl, rfl⟩
    · cases moved
      exact Or.inr ⟨permitted, network, later, rfl, rfl⟩

structure NodeChange (nodeID : String) (before after : MemoryRepository) : Prop where
  nodes : ∀ other, other ≠ nodeID → after.nodes[other]? = before.nodes[other]?
  publicKeys : ∀ key : String, before.publicKeys[key]? ≠ some nodeID →
    after.publicKeys[key]? = before.publicKeys[key]?
  endpoints : ∀ other, other ≠ nodeID → after.endpoints[other]? = before.endpoints[other]?
  memberships : ∀ networkID other, other ≠ nodeID →
    after.membership? networkID other = before.membership? networkID other
  noneAdded : ∀ networkID, before.membership? networkID nodeID = none →
    after.membership? networkID nodeID = none
  relays : ∀ networkID target,
    (∀ assignment, before.relayAssignment? networkID target = some assignment →
      names assignment nodeID = false) →
    after.relayAssignment? networkID target = before.relayAssignment? networkID target
  owners : ∀ identifier : String,
    (∀ networkID target assignment,
      before.relayAssignment? networkID target = some assignment →
        names assignment nodeID = true → assignment.id ≠ identifier) →
    after.relayAssignmentOwners[identifier]? = before.relayAssignmentOwners[identifier]?
  invites : ∀ inviteID : String, after.invites[inviteID]? = before.invites[inviteID]? ∨
    ∃ invite, before.invites[inviteID]? = some invite ∧ invite.consumedByNodeID = nodeID ∧
      after.invites[inviteID]? = some { invite with consumedByNodeID := "" }
  inviteByToken : after.inviteByToken = before.inviteByToken
  networks : ∀ networkID : String, OnlyVersion (networkID ∈ affectedNetworks before nodeID)
    before.networks[networkID]? after.networks[networkID]?
  endpointMaxAge : after.endpointMaxAge = before.endpointMaxAge

theorem NodeChange.refl (nodeID : String) (repository : MemoryRepository) :
    NodeChange nodeID repository repository where
  nodes _ _ := rfl
  publicKeys _ _ := rfl
  endpoints _ _ := rfl
  memberships _ _ _ := rfl
  noneAdded _ := id
  relays _ _ _ := rfl
  owners _ _ := rfl
  invites _ := Or.inl rfl
  inviteByToken := rfl
  networks _ := Or.inl rfl
  endpointMaxAge := rfl

section Increments

variable {repository : MemoryRepository} {networkIDs : List String}

theorem onlyVersion_increments (base : MemoryRepository) (distinct : networkIDs.Nodup)
    (same : base.networks = repository.networks)
    (present : ∀ networkID ∈ networkIDs, ∃ network, repository.networks[networkID]? = some network)
    (networkID : String) :
    OnlyVersion (networkID ∈ networkIDs) repository.networks[networkID]?
      (networkIDs.foldl incrementNetworkVersionLocked base).networks[networkID]? := by
  rw [foldl_increment_networks distinct, same]
  split_ifs with listed
  · obtain ⟨network, stored⟩ := present networkID listed
    rw [Std.ExtTreeMap.getD_eq_getD_getElem?, stored, Option.getD_some]
    exact Or.inr ⟨listed, network, _, rfl, rfl⟩
  · exact Or.inl rfl

end Increments

section Removal

variable {repository after : MemoryRepository} {ctx : Context} {nodeID : String}

theorem nodeChange_removeNode (sound : Integrity repository)
    (removal : removeNode ctx nodeID repository = (.ok (), after)) :
    NodeChange nodeID repository after := by
  obtain ⟨-, node, stored, rfl⟩ := removeNode_eq_ok.mp removal
  have versions := onlyVersion_increments (withoutNode repository nodeID node)
    (affectedNetworks_nodup repository nodeID) rfl
    (fun _ affected => sound.affectedNetwork affected)
  have owned : repository.publicKeys[node.publicKey]? = some nodeID :=
    (sound.nodes.indexed node.publicKey nodeID).mpr ⟨node, stored, rfl⟩
  rw [foldl_increment_eq]
  exact {
    nodes := fun other different => by
      exact (getElem?_erase _ _ _).trans (if_neg different.symm)
    publicKeys := fun key foreign => by
      refine (getElem?_erase _ _ _).trans (if_neg ?_)
      rintro rfl
      exact foreign owned
    endpoints := fun other different => by
      exact (getElem?_erase _ _ _).trans (if_neg different.symm)
    memberships := fun networkID other different => by
      exact (withoutNode_membership? repository nodeID node networkID other).trans
        (if_neg different.symm)
    noneAdded := fun networkID _ => by
      exact (withoutNode_membership? repository nodeID node networkID nodeID).trans (if_pos rfl)
    relays := fun networkID target unnamed => by
      refine (withoutNode_relayAssignment? repository nodeID node networkID target).trans ?_
      cases held : repository.relayAssignment? networkID target with
      | none => rfl
      | some assignment => simp [unnamed assignment held]
    owners := fun identifier unnamed => by
      apply Option.ext
      intro owner
      exact (withoutNode_owners repository nodeID node identifier owner).trans
        (and_iff_left unnamed)
    invites := fun inviteID => by
      simp only [withoutNode, Std.ExtTreeMap.getElem?_map]
      cases held : repository.invites[inviteID]? with
      | none => exact Or.inl rfl
      | some invite =>
        by_cases consumed : invite.consumedByNodeID = nodeID
        · exact Or.inr ⟨invite, rfl, consumed, by simp [consumed]⟩
        · exact Or.inl (by simp [consumed])
    inviteByToken := rfl
    networks := versions
    endpointMaxAge := rfl }

end Removal

def RefreshesNode (nodeID : String) : Op → Prop
  | .replaceEndpoints _ changed _ => changed = nodeID
  | .updateNodeClientVersion _ changed _ => changed = nodeID
  | .touchNode _ changed _ => changed = nodeID
  | _ => False

structure Refreshed (nodeID : String) (before after : MemoryRepository) : Prop where
  frame : after = { before with
    nodes := after.nodes, endpoints := after.endpoints, networks := after.networks }
  nodes : ∀ other, other ≠ nodeID → after.nodes[other]? = before.nodes[other]?
  endpoints : ∀ other, other ≠ nodeID → after.endpoints[other]? = before.endpoints[other]?
  networks : ∀ networkID : String, OnlyVersion (networkID ∈ networksOfNode before nodeID)
    before.networks[networkID]? after.networks[networkID]?
  kept : (∃ node, before.nodes[nodeID]? = some node) → ∃ node, after.nodes[nodeID]? = some node

theorem Refreshed.refl (nodeID : String) (repository : MemoryRepository) :
    Refreshed nodeID repository repository :=
  ⟨rfl, fun _ _ => rfl, fun _ _ => rfl, fun _ => Or.inl rfl, id⟩

theorem Refreshed.networksOfNode {nodeID : String} {before after : MemoryRepository}
    (refreshed : Refreshed nodeID before after) :
    networksOfNode after nodeID = networksOfNode before nodeID := by
  rw [refreshed.frame]
  rfl

theorem Refreshed.nodeChange {nodeID : String} {before after : MemoryRepository}
    (refreshed : Refreshed nodeID before after) : NodeChange nodeID before after := by
  have networks : ∀ networkID : String, OnlyVersion (networkID ∈ affectedNetworks before nodeID)
      before.networks[networkID]? after.networks[networkID]? := fun networkID =>
    (refreshed.networks networkID).mono fun listed => mem_affectedNetworks.mpr (Or.inl listed)
  have nodes := refreshed.nodes
  have endpoints := refreshed.endpoints
  rw [refreshed.frame]
  exact ⟨nodes, fun _ _ => rfl, endpoints, fun _ _ _ => rfl, fun _ => id, fun _ _ _ => rfl,
    fun _ _ => rfl, fun _ => Or.inl rfl, rfl, networks, rfl⟩

section Refresh

variable {nodeID : String} {before repository : MemoryRepository}

theorem Refreshed.rewriteNode (refreshed : Refreshed nodeID before repository) (node : Node) :
    Refreshed nodeID before { repository with
      nodes := repository.nodes.insert nodeID node } where
  frame := by
    rw [refreshed.frame]
  nodes other different := by
    rw [← refreshed.nodes other different]
    exact (getElem?_insert _ _ _ _).trans (if_neg different.symm)
  endpoints := refreshed.endpoints
  networks := refreshed.networks
  kept _ := ⟨node, Std.ExtTreeMap.getElem?_insert_self⟩

theorem Refreshed.replaceEndpoints (sound : Integrity before)
    (refreshed : Refreshed nodeID before repository) (candidates : List EndpointCandidate) :
    Refreshed nodeID before ((DbMemory.networksOfNode repository nodeID).foldl
      incrementNetworkVersionLocked
      { repository with endpoints := repository.endpoints.insert nodeID candidates }) := by
  have present : ∀ networkID ∈ DbMemory.networksOfNode repository nodeID,
      ∃ network, repository.networks[networkID]? = some network := by
    intro networkID listed
    rw [refreshed.networksOfNode] at listed
    obtain ⟨network, stored⟩ := sound.memberNetwork listed
    rcases refreshed.networks networkID with same | ⟨-, _, version, -, moved⟩
    · exact ⟨network, same.trans stored⟩
    · exact ⟨_, moved⟩
  have versions := onlyVersion_increments
    { repository with endpoints := repository.endpoints.insert nodeID candidates }
    (networksOfNode_nodup repository nodeID) rfl present
  rw [foldl_increment_eq]
  refine ⟨?_, refreshed.nodes, fun other different => ?_, fun networkID => ?_, refreshed.kept⟩
  · rw [refreshed.frame]
  · rw [← refreshed.endpoints other different]
    exact (getElem?_insert _ _ _ _).trans (if_neg different.symm)
  · refine (refreshed.networks networkID).trans ((versions networkID).mono fun listed => ?_)
    rwa [refreshed.networksOfNode] at listed

theorem refreshed_step (sound : Integrity before) {op : Op} (refreshes : RefreshesNode nodeID op)
    (refreshed : Refreshed nodeID before repository) :
    Refreshed nodeID before (op.step repository) := by
  unfold Op.step
  rcases outcome : op.apply repository with ⟨_ | _, after⟩
  · have unchanged : after = repository := by
      cases op with
      | replaceEndpoints | updateNodeClientVersion | touchNode => exact guarded_error outcome
      | _ => cases refreshes
    rwa [unchanged]
  · cases op with
    | replaceEndpoints ctx changed endpoints =>
      obtain rfl : changed = nodeID := refreshes
      obtain ⟨-, -, validated, -, rfl⟩ := replaceEndpoints_eq_ok.mp outcome
      exact refreshed.replaceEndpoints sound _
    | updateNodeClientVersion ctx changed version =>
      obtain rfl : changed = nodeID := refreshes
      obtain ⟨-, -, node, -, rfl⟩ := updateNodeClientVersion_eq_ok.mp outcome
      exact refreshed.rewriteNode _
    | touchNode ctx changed lastSeen =>
      obtain rfl : changed = nodeID := refreshes
      obtain ⟨-, -, node, -, rfl⟩ := touchNode_eq_ok.mp outcome
      exact refreshed.rewriteNode _
    | _ => cases refreshes

theorem refreshed_run (sound : Integrity before) {ops : List Op}
    (refreshes : ∀ op ∈ ops, RefreshesNode nodeID op) :
    Refreshed nodeID before (run Op.step ops before) :=
  run_invariant_of_mem Op.step (Refreshed nodeID before)
    (fun op member _ refreshed => refreshed_step sound (refreshes op member) refreshed)
    (Refreshed.refl nodeID before)

end Refresh

end Ipv6Mesh.DbNodeChanges
