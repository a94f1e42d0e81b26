import Ipv6Mesh.DbNetworks

/-!
# Stored records passed their validation

Memberships, endpoints and relay assignments are written by one operation each,
which validates them first; every other operation copies or deletes them.
-/

namespace Ipv6Mesh.DbRecords

open GoText GoNet GoMap GoFlow ControlModel ControlValidation DbMemory DbOperations DbRuns

structure RecordsValid (repository : MemoryRepository) : Prop where
  memberships : ∀ networkID nodeID membership,
    repository.membership? networkID nodeID = some membership →
      validateMembership membership = .ok ()
  endpoints : ∀ (nodeID : String) (stored : List EndpointCandidate),
    repository.endpoints[nodeID]? = some stored →
      ∀ endpoint ∈ stored, validateEndpointCandidate endpoint = .ok ()
  relays : ∀ networkID nodeID assignment,
    repository.relayAssignment? networkID nodeID = some assignment →
      validateRelayAssignment assignment = .ok ()

theorem recordsValid_new (maxAge : Duration) :
    RecordsValid (newMemoryRepositoryWithEndpointMaxAge maxAge) := by
  constructor <;>
    simp [newMemoryRepositoryWithEndpointMaxAge, MemoryRepository.membership?,
      MemoryRepository.relayAssignment?]

theorem validateMembership_to4 {membership : Membership}
    (valid : validateMembership membership = .ok ()) :
    validateMembership { membership with virtualIPv4 := (to4 membership.virtualIPv4).getD [] } =
      .ok () := by
  simp only [validateMembership, required, invalidWhen_bind_ok, invalidWhen_ok] at valid ⊢
  obtain ⟨network, node, address, rest⟩ := valid
  obtain ⟨bytes, converted⟩ := Option.isSome_iff_exists.mp
    (Option.isNone_eq_false_iff.mp address)
  refine ⟨network, node, ?_, rest⟩
  rw [converted, Option.getD_some, to4_of_length (to4_length converted)]
  rfl

theorem validateEndpointCandidate_normalize {endpoint : EndpointCandidate}
    (valid : validateEndpointCandidate endpoint = .ok ()) :
    validateEndpointCandidate (normalizeEndpoint endpoint) = .ok () := by
  unfold normalizeEndpoint
  split_ifs with family
  · simp only [validateEndpointCandidate, required, validateEndpointAddress, family,
      check_eq_ok, invalidWhen_ok] at valid ⊢
    obtain ⟨node, ⟨-, address⟩, rest⟩ := valid
    obtain ⟨bytes, converted⟩ := Option.isSome_iff_exists.mp
      (Option.isNone_eq_false_iff.mp address)
    have sized := to4_length converted
    have nonempty : bytes ≠ [] := by
      rintro rfl
      cases sized
    refine ⟨node, ?_, rest⟩
    rw [converted, Option.getD_some, to4_of_length sized]
    exact ⟨decide_eq_false nonempty, rfl⟩
  · exact valid

section Steps

variable {repository after : MemoryRepository}

theorem RecordsValid.congr (valid : RecordsValid repository)
    (memberships : after.memberships = repository.memberships)
    (endpoints : after.endpoints = repository.endpoints)
    (relays : ∀ networkID nodeID,
      after.relayAssignment? networkID nodeID = repository.relayAssignment? networkID nodeID) :
    RecordsValid after where
  memberships networkID nodeID membership stored := by
    rw [MemoryRepository.membership?, memberships] at stored
    exact valid.memberships networkID nodeID membership stored
  endpoints nodeID stored found := by
    rw [endpoints] at found
    exact valid.endpoints nodeID stored found
  relays networkID nodeID assignment stored := by
    rw [relays] at stored
    exact valid.relays networkID nodeID assignment stored

theorem RecordsValid.increments (valid : RecordsValid repository) (networkIDs : List String) :
    RecordsValid (networkIDs.foldl incrementNetworkVersionLocked repository) := by
  rw [foldl_increment_eq]
  exact valid.congr rfl rfl fun _ _ => rfl

theorem RecordsValid.withoutNode (valid : RecordsValid repository) (nodeID : String)
    (node : Node) : RecordsValid (withoutNode repository nodeID node) where
  memberships networkID other membership stored := by
    rw [withoutNode_membership?] at stored
    split_ifs at stored
    exact valid.memberships networkID other membership stored
  endpoints other stored found := by
    have erased : (repository.endpoints.erase nodeID)[other]? = some stored := found
    rw [getElem?_erase] at erased
    split_ifs at erased
    exact valid.endpoints other stored erased
  relays networkID target assignment stored := by
    rw [withoutNode_relayAssignment?, Option.filter_eq_some_iff] at stored
    exact valid.relays networkID target assignment stored.1

theorem RecordsValid.withoutMember (valid : RecordsValid repository) {networkID : String}
    {members : GoMap Membership} (nodeID : String)
    (held : repository.memberships[networkID]? = some members) :
    RecordsValid (withoutMember repository networkID nodeID members) where
  memberships other member membership stored := by
    rw [withoutMember_membership? repository networkID nodeID held] at stored
    split_ifs at stored
    exact valid.memberships other member membership stored
  endpoints other stored found := by
    rw [DbMemory.withoutMember, detachNode_frame] at found
    exact valid.endpoints other stored found
  relays other target assignment stored := by
    rw [DbMemory.withoutMember, detachNode_relayAssignment?] at stored
    exact valid.relays other target assignment stored.1

theorem RecordsValid.prepare (valid : RecordsValid repository) (networkID : String) :
    RecordsValid (prepareRelayAssignments repository networkID) := by
  refine valid.congr ?_ ?_ (prepare_relayAssignment? repository networkID) <;> rw [prepare_frame]

theorem recordsValid_effect {op : Op} (change : Effect repository op after)
    (valid : RecordsValid repository) : RecordsValid after := by
  cases change with
  | prepared networkID => exact valid.prepare networkID
  | nodeRemoved ctx nodeID node => exact (valid.withoutNode nodeID node).increments _
  | memberAdded ctx membership network checked =>
    exact { valid with
      memberships := forall_insert₂ (validateMembership_to4 checked) valid.memberships }
  | memberRemoved ctx networkID nodeID members membership held =>
    exact (valid.withoutMember nodeID held).increments [networkID]
  | endpointsReplaced ctx nodeID endpoints validated node accepted =>
    obtain ⟨each, rfl, -⟩ := validateEndpoints_ok.mp accepted
    rw [foldl_increment_eq]
    refine { valid with endpoints := forall_insert (fun endpoint listed => ?_) valid.endpoints }
    obtain ⟨given, member, rfl⟩ := List.mem_map.mp ((mem_sliceStable endpointLess).mp listed)
    exact validateEndpointCandidate_normalize (each given member).2
  | relaySet ctx assignment checked =>
    obtain ⟨-, allowed, -⟩ := relayAssignmentChecks_ok.mp checked
    have prepared := valid.prepare assignment.networkID
    exact { prepared with relays := forall_insert₂ allowed prepared.relays }
  | relaysRemoved ctx networkID =>
    refine { valid with relays := fun other target assignment stored => ?_ }
    replace stored := (lookup₂_erase _ _ _ _).symm.trans stored
    split_ifs at stored
    exact valid.relays other target assignment stored
  | _ => exact { valid with }

theorem recordsValid_step (op : Op) (repository : MemoryRepository)
    (valid : RecordsValid repository) : RecordsValid (op.step repository) :=
  recordsValid_effect (step_effect op repository) valid

end Steps

theorem recordsValid_run (ops : List Op) {repository : MemoryRepository}
    (valid : RecordsValid repository) : RecordsValid (run Op.step ops repository) :=
  run_invariant Op.step RecordsValid recordsValid_step ops valid

theorem recordsValid_reached (maxAge : Duration) (actions : List Action) :
    RecordsValid (reached maxAge actions) := by
  refine run_invariant Action.step RecordsValid (fun action state before => ?_) actions
    (recordsValid_new maxAge)
  rw [step_eq_committed]
  exact recordsValid_run _ before

def NodesNamed (repository : MemoryRepository) : Prop :=
  ∀ nodeID : String, repository.nodes[nodeID]?.isSome = true → blank nodeID = false

section Nodes

variable {repository after : MemoryRepository}

theorem NodesNamed.insert {nodeID : String} (named : NodesNamed repository) (node : Node)
    (nonblank : blank nodeID = false) (same : after.nodes = repository.nodes.insert nodeID node) :
    NodesNamed after := by
  intro other stored
  rw [same, getElem?_insert] at stored
  split_ifs at stored with here
  · rw [← here]
    exact nonblank
  · exact named other stored

theorem nodesNamed_effect {op : Op} (change : Effect repository op after)
    (named : NodesNamed repository) : NodesNamed after := by
  cases change with
  | prepared | relaySet =>
    rw [prepare_frame]
    exact named
  | nodeAdded ctx node valid =>
    simp only [validateNode, required, invalidWhen_bind_ok] at valid
    exact named.insert node valid.1 rfl
  | nodeRewritten nodeID node lastSeen version stored =>
    exact named.insert _ (named nodeID (by rw [stored]; rfl)) rfl
  | nodeRemoved ctx nodeID =>
    rw [foldl_increment_eq]
    intro other stored
    replace stored : (repository.nodes.erase nodeID)[other]?.isSome = true := stored
    rw [getElem?_erase] at stored
    split_ifs at stored
    · cases stored
    · exact named other stored
  | memberRemoved =>
    rw [withoutMember, detachNode_frame]
    exact named
  | endpointsReplaced =>
    rw [foldl_increment_eq]
    exact named
  | _ => exact named

end Nodes

theorem nodesNamed_reached (maxAge : Duration) (actions : List Action) :
    NodesNamed (reached maxAge actions) := by
  refine run_invariant Action.step NodesNamed (fun action state before => ?_) actions ?_
  · rw [step_eq_committed]
    exact run_invariant Op.step NodesNamed
      (fun op state named => nodesNamed_effect (step_effect op state) named) _ before
  · intro nodeID stored
    simp [newMemoryRepositoryWithEndpointMaxAge] at stored

end Ipv6Mesh.DbRecords
