import Ipv6Mesh.DbMemory

/-!
# What each repository operation does

One equivalence per operation: it succeeds exactly under the listed conditions
and then leaves exactly the listed repository. A failed operation leaves the
repository as it was, except that `SetRelayAssignment` may have made an empty
assignment map for the network.
-/

namespace Ipv6Mesh.DbOperations

open GoText GoNet GoMap GoFlow ControlModel ControlValidation DbMemory

@[simp] theorem contextError_ok {ctx : Context} {checked : Unit} :
    contextError ctx = .ok checked ↔ ctx = .live := by
  cases ctx <;> simp [contextError]

@[simp] theorem refuseWhen_ok {refused : Bool} {identity : Sentinel} {checked : Unit} :
    refuseWhen refused identity = .ok checked ↔ refused = false := by
  cases refused <;> simp [refuseWhen]

@[simp] theorem found_ok {Value : Type} {lookup : Option Value} {value : Value} :
    found lookup = .ok value ↔ lookup = some value := by
  cases lookup <;> simp [found]

theorem found_bind_ok {Value Result : Type} {lookup : Option Value}
    {next : Value → Except Error Result} {result : Result} :
    (found lookup >>= next) = .ok result ↔
      ∃ value, lookup = some value ∧ next value = .ok result := by
  simp only [bind_eq_ok, found_ok]

@[simp] theorem activeMember_ok {member : Option Membership} {checked : Unit} :
    activeMember member = .ok checked ↔
      ∃ membership, member = some membership ∧ membership.status = .active := by
  simp [activeMember, bind_eq_ok]

section Guarded

variable {Checked Result : Type} {repository after : MemoryRepository}
variable {checks : Except Error Checked} {commit : Checked → Result × MemoryRepository}

theorem guarded_eq_ok {result : Result} :
    guarded repository checks commit = (.ok result, after) ↔
      ∃ checked, checks = .ok checked ∧ result = (commit checked).1 ∧
        after = (commit checked).2 := by
  cases checks with
  | error err => simp [guarded]
  | ok checked => simp [guarded, eq_comm]

theorem guarded_error {err : Error}
    (failed : guarded repository checks commit = (.error err, after)) : after = repository := by
  cases checks with
  | error other => exact (Prod.ext_iff.mp failed).2.symm
  | ok checked => simp [guarded] at failed

end Guarded

def bumped (network : Network) : Network :=
  { network with configVersion := nextConfigVersion network.configVersion }

theorem foldl_increment_eq (networkIDs : List String) (repository : MemoryRepository) :
    networkIDs.foldl incrementNetworkVersionLocked repository =
      { repository with
        networks := (networkIDs.foldl incrementNetworkVersionLocked repository).networks } := by
  induction networkIDs generalizing repository with
  | nil => rfl
  | cons networkID networkIDs ih =>
    rw [List.foldl_cons, ih]
    rfl

theorem increment_networks (repository : MemoryRepository) (networkID other : String) :
    (incrementNetworkVersionLocked repository networkID).networks[other]? =
      if networkID = other then some (bumped (repository.networks.getD networkID zeroNetwork))
      else repository.networks[other]? := by
  simp only [incrementNetworkVersionLocked, bumped]
  rw [getElem?_insert]

theorem foldl_increment_networks {networkIDs : List String} (distinct : networkIDs.Nodup)
    (repository : MemoryRepository) (other : String) :
    (networkIDs.foldl incrementNetworkVersionLocked repository).networks[other]? =
      if other ∈ networkIDs then some (bumped (repository.networks.getD other zeroNetwork))
      else repository.networks[other]? := by
  induction networkIDs generalizing repository with
  | nil => simp
  | cons networkID networkIDs ih =>
    obtain ⟨fresh, distinctRest⟩ := List.nodup_cons.mp distinct
    rw [List.foldl_cons, ih distinctRest, increment_networks]
    by_cases later : other ∈ networkIDs
    · have different : networkID ≠ other := fun same => fresh (same ▸ later)
      simp [later, Std.ExtTreeMap.getD_eq_getD_getElem?, increment_networks, different]
    · by_cases same : networkID = other
      · simp [later, same]
      · simp [later, same, Ne.symm same]

variable {repository : MemoryRepository} {nodeID networkID : String}

theorem mem_networksOfNode :
    networkID ∈ networksOfNode repository nodeID ↔
      ∃ membership, repository.membership? networkID nodeID = some membership := by
  simp only [networksOfNode, List.mem_map, List.mem_filter, MemoryRepository.membership?,
    lookup₂_eq_some, Std.ExtTreeMap.mem_toList_iff_getElem?_eq_some, Prod.exists,
    Std.ExtTreeMap.contains_eq_isSome_getElem?, Option.isSome_iff_exists]
  constructor
  · rintro ⟨_, members, ⟨stored, membership, member⟩, rfl⟩
    exact ⟨membership, members, stored, member⟩
  · rintro ⟨membership, members, stored, member⟩
    exact ⟨networkID, members, ⟨stored, membership, member⟩, rfl⟩

theorem mem_networksOfRelay :
    networkID ∈ networksOfRelay repository nodeID ↔
      ∃ target assignment, repository.relayAssignment? networkID target = some assignment ∧
        names assignment nodeID = true := by
  simp only [networksOfRelay, List.mem_map, List.mem_filter, MemoryRepository.relayAssignment?,
    lookup₂_eq_some, Std.ExtTreeMap.mem_toList_iff_getElem?_eq_some, Prod.exists,
    List.any_eq_true]
  constructor
  · rintro ⟨_, assignments, ⟨stored, target, assignment, member, named⟩, rfl⟩
    exact ⟨target, assignment, ⟨assignments, stored, member⟩, named⟩
  · rintro ⟨target, assignment, ⟨assignments, stored, member⟩, named⟩
    exact ⟨networkID, assignments, ⟨stored, target, assignment, member, named⟩, rfl⟩

theorem networksOfNode_nodup (repository : MemoryRepository) (nodeID : String) :
    (networksOfNode repository nodeID).Nodup := by
  have keys : (repository.memberships.toList.map Prod.fst).Nodup := by
    rw [Std.ExtTreeMap.map_fst_toList_eq_keys]
    exact Std.ExtTreeMap.nodup_keys
  exact keys.sublist (List.Sublist.map Prod.fst List.filter_sublist)

theorem mem_affectedNetworks :
    networkID ∈ affectedNetworks repository nodeID ↔
      networkID ∈ networksOfNode repository nodeID ∨
        networkID ∈ networksOfRelay repository nodeID := by
  simp [affectedNetworks]

theorem affectedNetworks_nodup (repository : MemoryRepository) (nodeID : String) :
    (affectedNetworks repository nodeID).Nodup := List.nodup_dedup _

def endpointKey (endpoint : EndpointCandidate) : Int ×ₗ String ×ₗ Nat ×ₗ String :=
  toLex (endpoint.priority, toLex (text endpoint.address,
    toLex (endpoint.port.toNat, endpoint.interface)))

theorem endpointLess_iff (left right : EndpointCandidate) :
    endpointLess left right = true ↔ endpointKey left < endpointKey right := by
  simp only [endpointKey, Prod.Lex.toLex_lt_toLex, endpointLess]
  split_ifs with priority address port
  · simp [priority]
  · simp_all
  · have different : left.port.toNat ≠ right.port.toNat := fun same =>
      port (UInt16.toNat_inj.mp same)
    simp_all [UInt16.lt_iff_toNat_lt]
  · simp_all

theorem sortEndpointCandidates_sorted (endpoints : List EndpointCandidate) :
    (sortEndpointCandidates endpoints).Pairwise fun left right =>
      endpointLess right left = false :=
  sliceStable_sorted_by endpointLess endpointKey endpointLess_iff endpoints

theorem validateEndpoints_ok {endpoints validated : List EndpointCandidate}
    {seen : List (String × UInt16 × String)} :
    validateEndpoints nodeID endpoints seen = .ok validated ↔
      (∀ endpoint ∈ endpoints, endpoint.nodeID = nodeID ∧
        validateEndpointCandidate endpoint = .ok ()) ∧
      validated = endpoints.map normalizeEndpoint ∧
      (validated.map endpointIdentityFor).Nodup ∧
      ∀ candidate ∈ validated, endpointIdentityFor candidate ∉ seen := by
  induction endpoints generalizing validated seen with
  | nil =>
    simp only [validateEndpoints, Except.ok.injEq]
    constructor
    · rintro rfl
      simp
    · rintro ⟨-, rfl, -⟩
      rfl
  | cons endpoint endpoints ih =>
    simp only [validateEndpoints, check_eq_ok, refuseWhen_ok, decide_eq_false_iff_not, not_not]
    simp only [bind_eq_ok, ih, Except.ok.injEq, List.mem_cons, forall_eq_or_imp, List.map_cons]
    constructor
    · rintro ⟨named, valid, unseen, _, ⟨rest, rfl, distinct, unseenRest⟩, rfl⟩
      refine ⟨⟨⟨named, valid⟩, rest⟩, rfl, ?_, ?_⟩
      · rw [List.map_cons, List.nodup_cons]
        refine ⟨fun listed => ?_, distinct⟩
        obtain ⟨candidate, member, same⟩ := List.mem_map.mp listed
        exact unseenRest candidate member (Or.inl same)
      · rintro candidate (_ | ⟨_, member⟩)
        · exact unseen
        · exact fun listed => unseenRest candidate member (Or.inr listed)
    · rintro ⟨⟨⟨named, valid⟩, rest⟩, rfl, distinct, unseen⟩
      rw [List.map_cons, List.nodup_cons] at distinct
      refine ⟨named, valid, unseen _ List.mem_cons_self, _, ⟨rest, rfl, distinct.2, ?_⟩, rfl⟩
      rintro candidate member (same | listed)
      · exact distinct.1 (List.mem_map.mpr ⟨candidate, member, same⟩)
      · exact unseen candidate (List.mem_cons_of_mem _ member) listed

section Success

variable {ctx : Context} {repository after : MemoryRepository}

theorem createNetwork_eq_ok {network : Network} :
    createNetwork ctx network repository = (.ok (), after) ↔
      ctx = .live ∧ validateNetwork network = .ok () ∧ repository.networks[network.id]? = none ∧
        after = { repository with
          networks := repository.networks.insert network.id
            { network with
              configVersion :=
                if network.configVersion ≤ 0 then 1 else network.configVersion } } := by
  simp only [createNetwork, guarded_eq_ok, check_eq_ok, contextError_ok, refuseWhen_ok,
    Option.isSome_eq_false_iff, Option.isNone_iff_eq_none, true_and, exists_const, and_assoc]

theorem getNetwork_eq_ok {network : Network} :
    getNetwork ctx networkID repository = .ok network ↔
      ctx = .live ∧ repository.networks[networkID]? = some network := by
  simp only [getNetwork, check_eq_ok, contextError_ok, found_ok]

theorem getNode_eq_ok {node : Node} :
    getNode ctx nodeID repository = .ok node ↔
      ctx = .live ∧ repository.nodes[nodeID]? = some node := by
  simp only [getNode, check_eq_ok, contextError_ok, found_ok]

theorem getNodeNetworkIDs_eq_ok {networkIDs : List String} :
    getNodeNetworkIDs ctx nodeID repository = .ok networkIDs ↔
      ctx = .live ∧ (∃ node, repository.nodes[nodeID]? = some node) ∧
        sliceStable (fun left right => left < right) (networksOfNode repository nodeID) =
          networkIDs := by
  simp only [getNodeNetworkIDs, check_eq_ok, found_bind_ok, contextError_ok, Except.ok.injEq,
    exists_and_right]

theorem addNode_eq_ok {node : Node} :
    addNode ctx node repository = (.ok (), after) ↔
      ctx = .live ∧ validateNode node = .ok () ∧ repository.nodes[node.id]? = none ∧
        repository.publicKeys[node.publicKey]? = none ∧
        after = { repository with
          nodes := repository.nodes.insert node.id node
          publicKeys := repository.publicKeys.insert node.publicKey node.id } := by
  simp only [addNode, guarded_eq_ok, check_eq_ok, contextError_ok, refuseWhen_ok,
    Option.isSome_eq_false_iff, Option.isNone_iff_eq_none, true_and, exists_const, and_assoc]

theorem touchNode_eq_ok {lastSeen : Time} :
    touchNode ctx nodeID lastSeen repository = (.ok (), after) ↔
      ctx = .live ∧ Time.isZero lastSeen = false ∧
        ∃ node, repository.nodes[nodeID]? = some node ∧
          after = { repository with
            nodes := repository.nodes.insert nodeID { node with lastSeen := lastSeen } } := by
  simp only [touchNode, guarded_eq_ok, check_eq_ok, contextError_ok, refuseWhen_ok, found_ok,
    true_and, exists_and_left, and_assoc]

theorem updateNodeClientVersion_eq_ok {clientVersion : String} :
    updateNodeClientVersion ctx nodeID clientVersion repository = (.ok (), after) ↔
      ctx = .live ∧ blank clientVersion = false ∧
        ∃ node, repository.nodes[nodeID]? = some node ∧
          after = { repository with
            nodes := repository.nodes.insert nodeID
              { node with clientVersion := clientVersion } } := by
  simp only [updateNodeClientVersion, guarded_eq_ok, check_eq_ok, contextError_ok, refuseWhen_ok,
    found_ok, true_and, exists_and_left, and_assoc]

theorem removeNode_eq_ok :
    removeNode ctx nodeID repository = (.ok (), after) ↔
      ctx = .live ∧ ∃ node, repository.nodes[nodeID]? = some node ∧
        after = (affectedNetworks repository nodeID).foldl incrementNetworkVersionLocked
          (withoutNode repository nodeID node) := by
  simp only [removeNode, guarded_eq_ok, check_eq_ok, contextError_ok, found_ok, true_and,
    exists_and_left, and_assoc]

theorem address_free_iff {address : IP} :
    ((repository.memberships.getD networkID ∅).toList.any fun entry =>
        equal entry.2.virtualIPv4 address) = false ↔
      ∀ nodeID existing, repository.membership? networkID nodeID = some existing →
        equal existing.virtualIPv4 address = false := by
  simp only [List.any_eq_false, Prod.forall, Std.ExtTreeMap.mem_toList_iff_getElem?_eq_some,
    getD_getElem?, Bool.not_eq_true, MemoryRepository.membership?]

theorem addMembership_eq_ok {membership : Membership} :
    addMembership ctx membership repository = (.ok (), after) ↔
      ctx = .live ∧ validateMembership membership = .ok () ∧
        (∃ network, repository.networks[membership.networkID]? = some network ∧
          (∃ node, repository.nodes[membership.nodeID]? = some node) ∧
          validateIPv4InPool membership.virtualIPv4 network.ipv4Pool = .ok () ∧
          repository.membership? membership.networkID membership.nodeID = none ∧
          ∀ nodeID existing,
            repository.membership? membership.networkID nodeID = some existing →
              equal existing.virtualIPv4 membership.virtualIPv4 = false) ∧
        after = incrementNetworkVersionLocked { repository with
          memberships := insert₂ repository.memberships membership.networkID membership.nodeID
            { membership with virtualIPv4 := (to4 membership.virtualIPv4).getD [] } }
          membership.networkID := by
  simp only [addMembership, guarded_eq_ok, check_eq_ok, found_bind_ok, contextError_ok,
    refuseWhen_ok, address_free_iff, Option.isSome_eq_false_iff, Option.isNone_iff_eq_none,
    true_and, exists_const, exists_and_right, and_assoc]

theorem removeMembership_eq_ok :
    removeMembership ctx networkID nodeID repository = (.ok (), after) ↔
      ctx = .live ∧ ∃ members, repository.memberships[networkID]? = some members ∧
        (∃ membership, members[nodeID]? = some membership) ∧
        after = incrementNetworkVersionLocked
          (withoutMember repository networkID nodeID members) networkID := by
  simp only [removeMembership, guarded_eq_ok, check_eq_ok, found_bind_ok, contextError_ok,
    Except.ok.injEq, true_and]
  constructor
  · rintro ⟨_, ⟨live, members, stored, membership, member, rfl⟩, result⟩
    exact ⟨live, members, stored, ⟨membership, member⟩, result⟩
  · rintro ⟨live, members, stored, ⟨membership, member⟩, result⟩
    exact ⟨members, ⟨live, members, stored, membership, member, rfl⟩, result⟩

theorem createInvite_eq_ok {invite : Invite} :
    createInvite ctx invite repository = (.ok (), after) ↔
      ctx = .live ∧ validateInvite invite = .ok () ∧
        (∃ network, repository.networks[invite.networkID]? = some network) ∧
        unknownConsumer repository invite.consumedByNodeID = false ∧
        repository.invites[invite.id]? = none ∧
        repository.inviteByToken[invite.tokenHash]? = none ∧
        after = { repository with
          invites := repository.invites.insert invite.id invite
          inviteByToken := repository.inviteByToken.insert invite.tokenHash invite.id } := by
  simp only [createInvite, guarded_eq_ok, check_eq_ok, found_bind_ok, contextError_ok,
    refuseWhen_ok, Option.isSome_eq_false_iff, Option.isNone_iff_eq_none, true_and,
    exists_const, exists_and_right, and_assoc]

theorem revokeInvite_eq_ok {inviteID : String} {revokedAt : Time} :
    revokeInvite ctx inviteID revokedAt repository = (.ok (), after) ↔
      ctx = .live ∧ (inviteID = "" || Time.isZero revokedAt) = false ∧
        ∃ invite, repository.invites[inviteID]? = some invite ∧ invite.consumedAt = none ∧
          after = if invite.revokedAt.isSome then repository else { repository with
            invites := repository.invites.insert inviteID
              { invite with revokedAt := some revokedAt } } := by
  simp only [revokeInvite, guarded_eq_ok, check_eq_ok, found_bind_ok, contextError_ok,
    refuseWhen_ok, Option.isSome_eq_false_iff, Option.isNone_iff_eq_none, Except.ok.injEq,
    true_and, apply_ite Prod.snd]
  constructor
  · rintro ⟨_, ⟨live, present, invite, stored, unconsumed, rfl⟩, result⟩
    exact ⟨live, present, invite, stored, unconsumed, result⟩
  · rintro ⟨live, present, invite, stored, unconsumed, result⟩
    exact ⟨invite, ⟨live, present, invite, stored, unconsumed, rfl⟩, result⟩

theorem consumeInviteForNode_eq_ok {wall consumedAt : Time}
    {inviteOrNetworkID tokenHash consumedByNodeID : String} {consumed : Invite} :
    consumeInviteForNode ctx wall inviteOrNetworkID tokenHash consumedAt consumedByNodeID
        repository = (.ok consumed, after) ↔
      ctx = .live ∧ unknownConsumer repository consumedByNodeID = false ∧
        ∃ inviteID invite,
          inviteByLookupLocked repository inviteOrNetworkID tokenHash = some inviteID ∧
          invite = repository.invites.getD inviteID zeroInvite ∧
          invite.consumedAt = none ∧ invite.revokedAt = none ∧
          invite.isExpired (consumptionTime wall consumedAt) = false ∧
          invite.createdAt ≤ consumptionTime wall consumedAt ∧
          consumed = { invite with
            consumedAt := some (consumptionTime wall consumedAt)
            consumedByNodeID := consumedByNodeID } ∧
          after = { repository with invites := repository.invites.insert inviteID consumed } := by
  simp only [consumeInviteForNode, guarded_eq_ok, check_eq_ok, found_bind_ok, contextError_ok,
    refuseWhen_ok, Option.isSome_eq_false_iff, Option.isNone_iff_eq_none, Except.ok.injEq,
    decide_eq_false_iff_not, Int.not_lt]
  constructor
  · rintro ⟨_, ⟨live, inviteID, lookup, known, unconsumed, unrevoked, unexpired, started, rfl⟩,
      rfl, rfl⟩
    exact ⟨live, known, inviteID, _, lookup, rfl, unconsumed, unrevoked, unexpired, started,
      rfl, rfl⟩
  · rintro ⟨live, known, inviteID, _, lookup, rfl, unconsumed, unrevoked, unexpired, started,
      rfl, rfl⟩
    exact ⟨inviteID, ⟨live, inviteID, lookup, known, unconsumed, unrevoked, unexpired, started,
      rfl⟩, rfl, rfl⟩

theorem replaceEndpoints_eq_ok {endpoints : List EndpointCandidate} :
    replaceEndpoints ctx nodeID endpoints repository = (.ok (), after) ↔
      ctx = .live ∧ (∃ node, repository.nodes[nodeID]? = some node) ∧
        ∃ validated, validateEndpoints nodeID endpoints [] = .ok validated ∧
          after = (networksOfNode repository nodeID).foldl incrementNetworkVersionLocked
            { repository with
              endpoints := repository.endpoints.insert nodeID
                (sortEndpointCandidates validated) } := by
  simp only [replaceEndpoints, guarded_eq_ok, check_eq_ok, found_bind_ok, contextError_ok,
    true_and, exists_and_left, exists_and_right, and_assoc]

theorem prepare_owners (networkID : String) :
    (prepareRelayAssignments repository networkID).relayAssignmentOwners =
      repository.relayAssignmentOwners := by
  unfold prepareRelayAssignments
  split <;> rfl

theorem relayAssignmentChecks_ok {assignment : RelayAssignment} :
    relayAssignmentChecks ctx assignment repository = .ok () ↔
      ctx = .live ∧ validateRelayAssignment assignment = .ok () ∧
        (∃ network, repository.networks[assignment.networkID]? = some network) ∧
        (∃ node, repository.nodes[assignment.nodeID]? = some node) ∧
        (∃ relay, repository.nodes[assignment.relayNodeID]? = some relay) ∧
        (∃ target, repository.membership? assignment.networkID assignment.nodeID = some target ∧
          target.status = .active) ∧
        ∃ relay, repository.membership? assignment.networkID assignment.relayNodeID = some relay ∧
          relay.status = .active := by
  simp only [relayAssignmentChecks, check_eq_ok, found_bind_ok, contextError_ok, activeMember_ok,
    exists_and_right]

theorem setRelayAssignment_eq_ok {assignment : RelayAssignment} :
    setRelayAssignment ctx assignment repository = (.ok (), after) ↔
      relayAssignmentChecks ctx assignment repository = .ok () ∧
        (∀ owner, repository.relayAssignmentOwners[assignment.id]? = some owner →
          owner = relayAssignmentOwnerKey assignment.networkID assignment.nodeID) ∧
        after = incrementNetworkVersionLocked
          (withRelayAssignment (prepareRelayAssignments repository assignment.networkID) assignment)
          assignment.networkID := by
  cases checked : relayAssignmentChecks ctx assignment repository with
  | error err => simp [setRelayAssignment, checked]
  | ok _ =>
    simp only [setRelayAssignment, checked, guarded_eq_ok, refuseWhen_ok, prepare_owners,
      Option.any_eq_false, decide_eq_false_iff_not, not_not, true_and, exists_const, ne_eq]

theorem removeRelayAssignment_eq_ok :
    removeRelayAssignment ctx networkID repository = (.ok (), after) ↔
      ctx = .live ∧ ∃ assignments, repository.relayAssignments[networkID]? = some assignments ∧
        assignments.isEmpty = false ∧
        after = incrementNetworkVersionLocked { repository with
          relayAssignmentOwners := eraseAll repository.relayAssignmentOwners
            (assignments.toList.map fun entry => entry.2.id)
          relayAssignments := repository.relayAssignments.erase networkID } networkID := by
  simp only [removeRelayAssignment, guarded_eq_ok, check_eq_ok, found_bind_ok, contextError_ok,
    refuseWhen_ok, Except.ok.injEq, true_and]
  constructor
  · rintro ⟨_, ⟨live, assignments, stored, nonempty, rfl⟩, result⟩
    exact ⟨live, assignments, stored, nonempty, result⟩
  · rintro ⟨live, assignments, stored, nonempty, result⟩
    exact ⟨assignments, ⟨live, assignments, stored, nonempty, rfl⟩, result⟩

end Success

section Cascades

variable (repository : MemoryRepository) (networkID nodeID : String)

theorem delete_frame :
    deleteRelayAssignmentLocked networkID repository nodeID = { repository with
      relayAssignments := (deleteRelayAssignmentLocked networkID repository nodeID).relayAssignments
      relayAssignmentOwners :=
        (deleteRelayAssignmentLocked networkID repository nodeID).relayAssignmentOwners } := by
  simp only [deleteRelayAssignmentLocked]
  split <;> rfl

theorem delete_relayAssignment? (other target : String) :
    (deleteRelayAssignmentLocked networkID repository nodeID).relayAssignment? other target =
      if networkID = other ∧ nodeID = target then none
      else repository.relayAssignment? other target := by
  simp only [deleteRelayAssignmentLocked, getD_getElem?, MemoryRepository.relayAssignment?]
  cases stored : lookup₂ repository.relayAssignments networkID nodeID with
  | none =>
    by_cases same : networkID = other ∧ nodeID = target
    · obtain ⟨rfl, rfl⟩ := same
      simp [stored]
    · simp [same]
  | some assignment =>
    -- an inner map that became empty is dropped, which no lookup can tell
    have lookups : ∀ inner,
        ((repository.relayAssignments.getD networkID ∅).erase nodeID)[inner]? =
          if nodeID = inner then none
          else lookup₂ repository.relayAssignments networkID inner := by
      intro inner
      rw [getElem?_erase, getD_getElem?]
    by_cases first : networkID = other
    · subst first
      split_ifs with empty same same
      · rw [lookup₂_erase, if_pos rfl]
      · rw [lookup₂_erase, if_pos rfl]
        have gone := lookups target
        rw [Std.ExtTreeMap.isEmpty_iff.mp empty] at gone
        simpa [show nodeID ≠ target from fun target_eq => same ⟨rfl, target_eq⟩] using gone
      · rw [lookup₂_insert, if_pos rfl, lookups, if_pos same.2]
      · rw [lookup₂_insert, if_pos rfl, lookups,
          if_neg fun target_eq => same ⟨rfl, target_eq⟩]
    · have kept : ¬(networkID = other ∧ nodeID = target) := fun both => first both.1
      rw [if_neg kept]
      split_ifs
      · rw [lookup₂_erase, if_neg first]
      · rw [lookup₂_insert, if_neg first]

theorem delete_owners (identifier : String) :
    (deleteRelayAssignmentLocked networkID repository nodeID).relayAssignmentOwners[identifier]? =
      if (repository.relayAssignment? networkID nodeID).map (·.id) = some identifier then none
      else repository.relayAssignmentOwners[identifier]? := by
  cases stored : lookup₂ repository.relayAssignments networkID nodeID with
  | none =>
    simp [deleteRelayAssignmentLocked, getD_getElem?, MemoryRepository.relayAssignment?, stored]
  | some assignment =>
    simp [deleteRelayAssignmentLocked, getD_getElem?, MemoryRepository.relayAssignment?, stored,
      getElem?_erase]

theorem foldl_delete_frame (targets : List String) :
    targets.foldl (deleteRelayAssignmentLocked networkID) repository = { repository with
      relayAssignments :=
        (targets.foldl (deleteRelayAssignmentLocked networkID) repository).relayAssignments
      relayAssignmentOwners :=
        (targets.foldl (deleteRelayAssignmentLocked networkID)
          repository).relayAssignmentOwners } := by
  induction targets generalizing repository with
  | nil => rfl
  | cons target targets ih =>
    rw [List.foldl_cons, ih, delete_frame]

theorem foldl_delete_relayAssignment? (targets : List String) (other target : String) :
    (targets.foldl (deleteRelayAssignmentLocked networkID) repository).relayAssignment? other
        target =
      if networkID = other ∧ target ∈ targets then none
      else repository.relayAssignment? other target := by
  induction targets generalizing repository with
  | nil => simp
  | cons first targets ih =>
    rw [List.foldl_cons, ih, delete_relayAssignment?]
    by_cases same : networkID = other
    · by_cases later : target ∈ targets
      · simp [same, later]
      · by_cases now : first = target
        · simp [same, now]
        · simp [same, later, now, Ne.symm now]
    · simp [same]

theorem foldl_delete_owners (targets : List String) (identifier : String) :
    (targets.foldl (deleteRelayAssignmentLocked networkID)
        repository).relayAssignmentOwners[identifier]? =
      if ∃ target ∈ targets,
          (repository.relayAssignment? networkID target).map (·.id) = some identifier then none
      else repository.relayAssignmentOwners[identifier]? := by
  induction targets generalizing repository with
  | nil => simp
  | cons first targets ih =>
    rw [List.foldl_cons, ih, delete_owners]
    simp only [delete_relayAssignment?, true_and, List.mem_cons, exists_eq_or_imp]
    by_cases now : (repository.relayAssignment? networkID first).map (·.id) = some identifier
    · simp [now]
    · -- the deleted target itself contributes nothing to the remaining condition
      have rest : (∃ target ∈ targets, Option.map (·.id)
            (if first = target then none else repository.relayAssignment? networkID target) =
              some identifier) ↔
          ∃ target ∈ targets,
            (repository.relayAssignment? networkID target).map (·.id) = some identifier := by
        refine exists_congr fun target => and_congr_right fun _ => ?_
        by_cases same : first = target
        · subst same
          simp only [if_true, Option.map_none, now, reduceCtorEq]
        · rw [if_neg same]
      simp only [rest, now, false_or, if_false]

theorem withoutNode_membership? (node : Node) (other member : String) :
    (withoutNode repository nodeID node).membership? other member =
      if nodeID = member then none else repository.membership? other member :=
  lookup₂_map_erase _ _ _ _

theorem withoutNode_relayAssignment? (node : Node) (other target : String) :
    (withoutNode repository nodeID node).relayAssignment? other target =
      (repository.relayAssignment? other target).filter fun assignment =>
        !names assignment nodeID := by
  simp only [withoutNode, MemoryRepository.relayAssignment?]
  rw [lookup₂_filter_nonempty, lookup₂_map_filter]

theorem withoutNode_owners (node : Node) (identifier owner : String) :
    (withoutNode repository nodeID node).relayAssignmentOwners[identifier]? = some owner ↔
      repository.relayAssignmentOwners[identifier]? = some owner ∧
        ∀ networkID target assignment,
          repository.relayAssignment? networkID target = some assignment →
            names assignment nodeID = true → assignment.id ≠ identifier := by
  have erased : identifier ∈ (repository.relayAssignments.toList.flatMap fun entry =>
        (entry.2.toList.filter fun stored => names stored.2 nodeID).map fun stored =>
          stored.2.id) ↔
      ∃ networkID target assignment,
        repository.relayAssignment? networkID target = some assignment ∧
          names assignment nodeID = true ∧ assignment.id = identifier := by
    simp only [MemoryRepository.relayAssignment?, lookup₂_eq_some, List.mem_flatMap,
      List.mem_map, List.mem_filter, Std.ExtTreeMap.mem_toList_iff_getElem?_eq_some, Prod.exists]
    constructor
    · rintro ⟨networkID, assignments, stored, target, assignment, ⟨member, named⟩, same⟩
      exact ⟨networkID, target, assignment, ⟨assignments, stored, member⟩, named, same⟩
    · rintro ⟨networkID, target, assignment, ⟨assignments, stored, member⟩, named, same⟩
      exact ⟨networkID, assignments, stored, target, assignment, ⟨member, named⟩, same⟩
  simp only [withoutNode, getElem?_eraseAll, erased]
  by_cases doomed : ∃ networkID target assignment,
      repository.relayAssignment? networkID target = some assignment ∧
        names assignment nodeID = true ∧ assignment.id = identifier
  · obtain ⟨networkID, target, assignment, stored, named, same⟩ := doomed
    have member := erased.mpr ⟨networkID, target, assignment, stored, named, same⟩
    rw [if_pos member]
    exact iff_of_false (Option.some_ne_none owner).symm fun kept =>
      kept.2 networkID target assignment stored named same
  · rw [if_neg (erased.not.mpr doomed)]
    refine (and_iff_left ?_).symm
    intro networkID target assignment stored named same
    exact doomed ⟨networkID, target, assignment, stored, named, same⟩

theorem mem_named {target : String} :
    target ∈ ((repository.relayAssignments.getD networkID ∅).toList.filter fun entry =>
        names entry.2 nodeID).map Prod.fst ↔
      ∃ assignment, repository.relayAssignment? networkID target = some assignment ∧
        names assignment nodeID = true := by
  simp only [List.mem_map, List.mem_filter, Std.ExtTreeMap.mem_toList_iff_getElem?_eq_some,
    getD_getElem?, Prod.exists, MemoryRepository.relayAssignment?]
  constructor
  · rintro ⟨_, assignment, ⟨stored, named⟩, rfl⟩
    exact ⟨assignment, stored, named⟩
  · rintro ⟨assignment, stored, named⟩
    exact ⟨target, assignment, ⟨stored, named⟩, rfl⟩

theorem detachNode_frame :
    detachNode networkID nodeID repository = { repository with
      relayAssignments := (detachNode networkID nodeID repository).relayAssignments
      relayAssignmentOwners :=
        (detachNode networkID nodeID repository).relayAssignmentOwners } := by
  simp only [detachNode]
  rw [foldl_delete_frame, delete_frame]

theorem detachNode_relayAssignment? (other target : String) (assignment : RelayAssignment) :
    (detachNode networkID nodeID repository).relayAssignment? other target = some assignment ↔
      repository.relayAssignment? other target = some assignment ∧
        ¬(networkID = other ∧ (target = nodeID ∨ names assignment nodeID = true)) := by
  simp only [detachNode, foldl_delete_relayAssignment?, mem_named, delete_relayAssignment?,
    true_and]
  by_cases network : networkID = other
  · subst network
    by_cases self : nodeID = target
    · simp [self]
    · cases repository.relayAssignment? networkID target with
      | none => simp [self]
      | some stored =>
        by_cases same : stored = assignment
        · subst same
          simp [self, Ne.symm self]
        · simp [self, same]
  · simp [network]

theorem detachNode_owners (identifier owner : String) :
    (detachNode networkID nodeID repository).relayAssignmentOwners[identifier]? = some owner ↔
      repository.relayAssignmentOwners[identifier]? = some owner ∧
        ∀ target assignment, repository.relayAssignment? networkID target = some assignment →
          (target = nodeID ∨ names assignment nodeID = true) → assignment.id ≠ identifier := by
  have later : ∀ target assignment,
      (deleteRelayAssignmentLocked networkID repository nodeID).relayAssignment? networkID target =
          some assignment ↔
        nodeID ≠ target ∧ repository.relayAssignment? networkID target = some assignment := by
    intro target assignment
    rw [delete_relayAssignment?]
    by_cases self : nodeID = target <;> simp [self]
  simp only [detachNode, foldl_delete_owners, delete_owners, Option.map_eq_some_iff]
  constructor
  · intro kept
    split_ifs at kept with named direct
    refine ⟨kept, fun target assignment stored doomed same => ?_⟩
    by_cases self : nodeID = target
    · subst self
      exact direct ⟨assignment, stored, same⟩
    · have remaining := (later target assignment).mpr ⟨self, stored⟩
      have isNamed := doomed.resolve_left (Ne.symm self)
      exact named ⟨target, (mem_named _ _ _).mpr ⟨assignment, remaining, isNamed⟩,
        assignment, remaining, same⟩
  · rintro ⟨kept, safe⟩
    rw [if_neg, if_neg]
    · exact kept
    · rintro ⟨assignment, stored, same⟩
      exact safe nodeID assignment stored (Or.inl rfl) same
    · rintro ⟨target, listed, assignment, remaining, same⟩
      obtain ⟨named, storedNamed, isNamed⟩ := (mem_named _ _ _).mp listed
      cases remaining.symm.trans storedNamed
      exact safe target assignment ((later target assignment).mp remaining).2 (Or.inr isNamed) same

theorem withoutMember_membership? {members : GoMap Membership}
    (stored : repository.memberships[networkID]? = some members) (other member : String) :
    (withoutMember repository networkID nodeID members).membership? other member =
      if networkID = other ∧ nodeID = member then none
      else repository.membership? other member := by
  rw [withoutMember, detachNode_frame]
  simp only [MemoryRepository.membership?]
  rw [lookup₂_insert, getElem?_erase]
  by_cases same : networkID = other
  · subst same
    simp [lookup₂, stored]
  · simp [same]

end Cascades

section RelayUpdates

variable (repository : MemoryRepository)

theorem prepare_frame (networkID : String) :
    prepareRelayAssignments repository networkID = { repository with
      relayAssignments :=
        (prepareRelayAssignments repository networkID).relayAssignments } := by
  unfold prepareRelayAssignments
  split <;> rfl

theorem prepare_relayAssignment? (networkID other target : String) :
    (prepareRelayAssignments repository networkID).relayAssignment? other target =
      repository.relayAssignment? other target := by
  unfold prepareRelayAssignments MemoryRepository.relayAssignment?
  split
  · rfl
  next absent =>
    rw [lookup₂_insert]
    by_cases same : networkID = other
    · subst same
      have missing : repository.relayAssignments[networkID]? = none := by simpa using absent
      simp [lookup₂, missing]
    · rw [if_neg same]

theorem withRelayAssignment_relayAssignment? (assignment : RelayAssignment)
    (other target : String) :
    (withRelayAssignment repository assignment).relayAssignment? other target =
      if assignment.networkID = other ∧ assignment.nodeID = target then some assignment
      else repository.relayAssignment? other target :=
  lookup₂_insert₂ _ _ _ _ _ _

theorem withRelayAssignment_owners (assignment : RelayAssignment) (identifier : String) :
    (withRelayAssignment repository assignment).relayAssignmentOwners[identifier]? =
      if assignment.id = identifier then
        some (relayAssignmentOwnerKey assignment.networkID assignment.nodeID)
      else if (repository.relayAssignment? assignment.networkID assignment.nodeID).map (·.id) =
          some identifier then none
      else repository.relayAssignmentOwners[identifier]? := by
  simp only [withRelayAssignment]
  rw [getElem?_insert]
  by_cases same : assignment.id = identifier
  · rw [if_pos same, if_pos same]
  · rw [if_neg same, if_neg same]
    cases repository.relayAssignment? assignment.networkID assignment.nodeID with
    | none => simp
    | some existing =>
      by_cases kept : existing.id = assignment.id
      · simp [kept, same]
      · simp [kept, getElem?_erase]

theorem removeRelay_owners {assignments : GoMap RelayAssignment}
    (stored : repository.relayAssignments[networkID]? = some assignments)
    (identifier owner : String) :
    (eraseAll repository.relayAssignmentOwners
        (assignments.toList.map fun entry => entry.2.id))[identifier]? = some owner ↔
      repository.relayAssignmentOwners[identifier]? = some owner ∧
        ∀ target assignment, repository.relayAssignment? networkID target = some assignment →
          assignment.id ≠ identifier := by
  have erased : identifier ∈ (assignments.toList.map fun entry => entry.2.id) ↔
      ∃ target assignment, repository.relayAssignment? networkID target = some assignment ∧
        assignment.id = identifier := by
    simp only [List.mem_map, Std.ExtTreeMap.mem_toList_iff_getElem?_eq_some, Prod.exists,
      MemoryRepository.relayAssignment?, lookup₂, stored, Option.bind_some]
  rw [getElem?_eraseAll]
  by_cases doomed : identifier ∈ (assignments.toList.map fun entry => entry.2.id)
  · obtain ⟨target, assignment, lookup, same⟩ := erased.mp doomed
    rw [if_pos doomed]
    exact iff_of_false (Option.some_ne_none owner).symm fun kept =>
      kept.2 target assignment lookup same
  · rw [if_neg doomed]
    refine (and_iff_left fun target assignment lookup same => ?_).symm
    exact doomed (erased.mpr ⟨target, assignment, lookup, same⟩)

end RelayUpdates

theorem dropResult_eq_ok {State Result : Type} {outcome : Except Error Result × State}
    {after : State} :
    dropResult outcome = (.ok (), after) ↔ ∃ result, outcome = (.ok result, after) := by
  rcases outcome with ⟨_ | result, state⟩ <;> simp [dropResult, Except.map]

theorem dropResult_error {State Result : Type} {outcome : Except Error Result × State}
    {before after : State} {err : Error}
    (unchanged : ∀ err, outcome = (.error err, after) → after = before)
    (failed : dropResult outcome = (.error err, after)) : after = before := by
  rcases outcome with ⟨other | result, state⟩
  · obtain rfl : state = after := (Prod.ext_iff.mp failed).2
    exact unchanged other rfl
  · simp [dropResult, Except.map] at failed

section Effects

variable {repository after : MemoryRepository}

theorem apply_error {op : Op} {err : Error} (failed : op.apply repository = (.error err, after)) :
    after = repository ∨ ∃ networkID, after = prepareRelayAssignments repository networkID := by
  cases op with
  | setRelayAssignment ctx assignment =>
    simp only [Op.apply, setRelayAssignment] at failed
    cases checked : relayAssignmentChecks ctx assignment repository with
    | error other =>
      rw [checked] at failed
      exact Or.inl (Prod.ext_iff.mp failed).2.symm
    | ok _ =>
      rw [checked] at failed
      exact Or.inr ⟨assignment.networkID, guarded_error failed⟩
  | consumeInvite | consumeInviteForNode =>
    exact Or.inl (dropResult_error (fun _ => guarded_error) failed)
  | _ => exact Or.inl (guarded_error failed)

inductive Effect (repository : MemoryRepository) : Op → MemoryRepository → Prop
  | unchanged {op : Op} : Effect repository op repository
  | prepared {op : Op} (networkID : String) :
      Effect repository op (prepareRelayAssignments repository networkID)
  | networkCreated (ctx : Context) (network : Network) (valid : validateNetwork network = .ok ())
      (fresh : repository.networks[network.id]? = none) :
      Effect repository (.createNetwork ctx network) { repository with
        networks := repository.networks.insert network.id { network with
          configVersion := if network.configVersion ≤ 0 then 1 else network.configVersion } }
  | nodeAdded (ctx : Context) (node : Node) (valid : validateNode node = .ok ())
      (fresh : repository.nodes[node.id]? = none)
      (freshKey : repository.publicKeys[node.publicKey]? = none) :
      Effect repository (.addNode ctx node) { repository with
        nodes := repository.nodes.insert node.id node
        publicKeys := repository.publicKeys.insert node.publicKey node.id }
  | nodeRewritten {op : Op} (nodeID : String) (node : Node) (lastSeen : Time)
      (clientVersion : String) (stored : repository.nodes[nodeID]? = some node) :
      Effect repository op { repository with
        nodes := repository.nodes.insert nodeID
          { node with lastSeen := lastSeen, clientVersion := clientVersion } }
  | nodeRemoved (ctx : Context) (nodeID : String) (node : Node)
      (stored : repository.nodes[nodeID]? = some node) :
      Effect repository (.removeNode ctx nodeID)
        ((affectedNetworks repository nodeID).foldl incrementNetworkVersionLocked
          (withoutNode repository nodeID node))
  | memberAdded (ctx : Context) (membership : Membership) (network : Network)
      (valid : validateMembership membership = .ok ())
      (present : repository.networks[membership.networkID]? = some network)
      (node : ∃ node, repository.nodes[membership.nodeID]? = some node)
      (placed : validateIPv4InPool membership.virtualIPv4 network.ipv4Pool = .ok ())
      (fresh : repository.membership? membership.networkID membership.nodeID = none)
      (free : ∀ nodeID existing,
        repository.membership? membership.networkID nodeID = some existing →
          equal existing.virtualIPv4 membership.virtualIPv4 = false) :
      Effect repository (.addMembership ctx membership) (incrementNetworkVersionLocked
        { repository with
          memberships := insert₂ repository.memberships membership.networkID membership.nodeID
            { membership with virtualIPv4 := (to4 membership.virtualIPv4).getD [] } }
        membership.networkID)
  | memberRemoved (ctx : Context) (networkID nodeID : String) (members : GoMap Membership)
      (membership : Membership) (held : repository.memberships[networkID]? = some members)
      (stored : repository.membership? networkID nodeID = some membership) :
      Effect repository (.removeMembership ctx networkID nodeID) (incrementNetworkVersionLocked
        (withoutMember repository networkID nodeID members) networkID)
  | inviteCreated (ctx : Context) (invite : Invite) (valid : validateInvite invite = .ok ())
      (network : ∃ network, repository.networks[invite.networkID]? = some network)
      (known : unknownConsumer repository invite.consumedByNodeID = false)
      (fresh : repository.invites[invite.id]? = none)
      (freshToken : repository.inviteByToken[invite.tokenHash]? = none) :
      Effect repository (.createInvite ctx invite) { repository with
        invites := repository.invites.insert invite.id invite
        inviteByToken := repository.inviteByToken.insert invite.tokenHash invite.id }
  | inviteRevoked (ctx : Context) (inviteID : String) (revokedAt : Time) (invite : Invite)
      (stored : repository.invites[inviteID]? = some invite)
      (unused : invite.consumedAt = none ∧ invite.revokedAt = none) :
      Effect repository (.revokeInvite ctx inviteID revokedAt) { repository with
        invites := repository.invites.insert inviteID
          { invite with revokedAt := some revokedAt } }
  | inviteConsumed {op : Op} (ctx : Context) (wall consumedAt : Time)
      (value tokenHash nodeID : String) (consumed : Invite) (invites : GoMap Invite)
      (asked : op = .consumeInvite ctx wall value tokenHash consumedAt ∧ nodeID = "" ∨
        op = .consumeInviteForNode ctx wall value tokenHash consumedAt nodeID)
      (outcome : consumeInviteForNode ctx wall value tokenHash consumedAt nodeID repository =
        (.ok consumed, { repository with invites := invites })) :
      Effect repository op { repository with invites := invites }
  | endpointsReplaced (ctx : Context) (nodeID : String)
      (endpoints validated : List EndpointCandidate)
      (node : ∃ node, repository.nodes[nodeID]? = some node)
      (accepted : validateEndpoints nodeID endpoints [] = .ok validated) :
      Effect repository (.replaceEndpoints ctx nodeID endpoints)
        ((networksOfNode repository nodeID).foldl incrementNetworkVersionLocked
          { repository with
            endpoints := repository.endpoints.insert nodeID (sortEndpointCandidates validated) })
  | relaySet (ctx : Context) (assignment : RelayAssignment)
      (checked : relayAssignmentChecks ctx assignment repository = .ok ())
      (owned : ∀ owner, repository.relayAssignmentOwners[assignment.id]? = some owner →
        owner = relayAssignmentOwnerKey assignment.networkID assignment.nodeID) :
      Effect repository (.setRelayAssignment ctx assignment) (incrementNetworkVersionLocked
        (withRelayAssignment (prepareRelayAssignments repository assignment.networkID) assignment)
        assignment.networkID)
  | relaysRemoved (ctx : Context) (networkID : String) (assignments : GoMap RelayAssignment)
      (held : repository.relayAssignments[networkID]? = some assignments)
      (some : ∃ nodeID assignment,
        repository.relayAssignment? networkID nodeID = some assignment) :
      Effect repository (.removeRelayAssignment ctx networkID) (incrementNetworkVersionLocked
        { repository with
          relayAssignmentOwners := eraseAll repository.relayAssignmentOwners
            (assignments.toList.map fun entry => entry.2.id)
          relayAssignments := repository.relayAssignments.erase networkID } networkID)

theorem consume_effect {op : Op} {ctx : Context} {wall consumedAt : Time} {value tokenHash : String}
    (asked : op = .consumeInvite ctx wall value tokenHash consumedAt ∧ nodeID = "" ∨
      op = .consumeInviteForNode ctx wall value tokenHash consumedAt nodeID)
    (outcome : dropResult (consumeInviteForNode ctx wall value tokenHash consumedAt nodeID
      repository) = (.ok (), after)) : Effect repository op after := by
  obtain ⟨consumed, succeeded⟩ := dropResult_eq_ok.mp outcome
  obtain ⟨-, -, inviteID, invite, -, -, -, -, -, -, -, rfl⟩ :=
    consumeInviteForNode_eq_ok.mp succeeded
  exact .inviteConsumed ctx wall consumedAt value tokenHash nodeID consumed _ asked succeeded

theorem step_effect (op : Op) (repository : MemoryRepository) :
    Effect repository op (op.step repository) := by
  unfold Op.step
  rcases outcome : op.apply repository with ⟨_ | _, after⟩
  · rcases apply_error outcome with rfl | ⟨networkID, rfl⟩
    · exact .unchanged
    · exact .prepared networkID
  · cases op with
    | createNetwork ctx network =>
      obtain ⟨-, valid, fresh, rfl⟩ := createNetwork_eq_ok.mp outcome
      exact .networkCreated ctx network valid fresh
    | addNode ctx node =>
      obtain ⟨-, valid, fresh, freshKey, rfl⟩ := addNode_eq_ok.mp outcome
      exact .nodeAdded ctx node valid fresh freshKey
    | touchNode ctx nodeID lastSeen =>
      obtain ⟨-, -, node, stored, rfl⟩ := touchNode_eq_ok.mp outcome
      exact .nodeRewritten nodeID node lastSeen node.clientVersion stored
    | updateNodeClientVersion ctx nodeID clientVersion =>
      obtain ⟨-, -, node, stored, rfl⟩ := updateNodeClientVersion_eq_ok.mp outcome
      exact .nodeRewritten nodeID node node.lastSeen clientVersion stored
    | removeNode ctx nodeID =>
      obtain ⟨-, node, stored, rfl⟩ := removeNode_eq_ok.mp outcome
      exact .nodeRemoved ctx nodeID node stored
    | addMembership ctx membership =>
      obtain ⟨-, valid, ⟨network, present, node, placed, fresh, free⟩, rfl⟩ :=
        addMembership_eq_ok.mp outcome
      exact .memberAdded ctx membership network valid present node placed fresh free
    | removeMembership ctx networkID nodeID =>
      obtain ⟨-, members, held, ⟨membership, member⟩, rfl⟩ := removeMembership_eq_ok.mp outcome
      exact .memberRemoved ctx networkID nodeID members membership held
        (lookup₂_eq_some.mpr ⟨members, held, member⟩)
    | createInvite ctx invite =>
      obtain ⟨-, valid, network, known, fresh, freshToken, rfl⟩ := createInvite_eq_ok.mp outcome
      exact .inviteCreated ctx invite valid network known fresh freshToken
    | revokeInvite ctx inviteID revokedAt =>
      obtain ⟨-, -, invite, stored, unconsumed, rfl⟩ := revokeInvite_eq_ok.mp outcome
      dsimp only
      split_ifs with revoked
      · exact .unchanged
      · exact .inviteRevoked ctx inviteID revokedAt invite stored
          ⟨unconsumed, Option.not_isSome_iff_eq_none.mp revoked⟩
    | consumeInvite ctx wall value tokenHash consumedAt =>
      exact consume_effect (.inl ⟨rfl, rfl⟩) outcome
    | consumeInviteForNode ctx wall value tokenHash consumedAt nodeID =>
      exact consume_effect (.inr rfl) outcome
    | replaceEndpoints ctx nodeID endpoints =>
      obtain ⟨-, node, validated, accepted, rfl⟩ := replaceEndpoints_eq_ok.mp outcome
      exact .endpointsReplaced ctx nodeID endpoints validated node accepted
    | setRelayAssignment ctx assignment =>
      obtain ⟨checked, owned, rfl⟩ := setRelayAssignment_eq_ok.mp outcome
      exact .relaySet ctx assignment checked owned
    | removeRelayAssignment ctx networkID =>
      obtain ⟨-, assignments, held, nonempty, rfl⟩ := removeRelayAssignment_eq_ok.mp outcome
      obtain ⟨nodeID, assignment, lookup⟩ := exists_of_nonempty nonempty
      exact .relaysRemoved ctx networkID assignments held
        ⟨nodeID, assignment, lookup₂_eq_some.mpr ⟨assignments, held, lookup⟩⟩

end Effects

end Ipv6Mesh.DbOperations
