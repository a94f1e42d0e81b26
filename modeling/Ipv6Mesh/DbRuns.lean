import Ipv6Mesh.DbIntegrity

/-!
# Integrity over whole runs

The remaining operations keep `Integrity`, and with them every transaction
body. A transaction that fails publishes nothing; one that commits publishes
the state its body reached.
-/

namespace Ipv6Mesh.DbRuns

open GoText GoNet GoMap GoFlow ControlModel ControlValidation DbMemory DbOperations DbIntegrity

variable {ctx : Context} {repository after : MemoryRepository}

theorem unknownConsumer_eq_false {nodeID : String} :
    unknownConsumer repository nodeID = false ↔
      (nodeID ≠ "" → ∃ node, repository.nodes[nodeID]? = some node) := by
  cases stored : repository.nodes[nodeID]? with
  | none => simp [unknownConsumer, stored]
  | some node => simp [unknownConsumer, stored]

theorem integrity_storeInvite (sound : Integrity repository) {inviteID : String}
    {invite : Invite} {inviteByToken : GoMap String} (named : invite.id = inviteID)
    (indexed : Indexed inviteByToken (repository.invites.insert inviteID invite) Invite.tokenHash)
    (network : ∃ network, repository.networks[invite.networkID]? = some network)
    (consumer : invite.consumedByNodeID ≠ "" →
      ∃ node, repository.nodes[invite.consumedByNodeID]? = some node) :
    Integrity { repository with
      invites := repository.invites.insert inviteID invite, inviteByToken := inviteByToken } :=
  { sound with
    invites := ⟨forall_insert named sound.invites.named, indexed,
      forall_insert network sound.invites.network,
      forall_insert consumer sound.invites.consumer⟩ }

theorem inviteByLookup_stored (sound : Integrity repository)
    {value tokenHash inviteID : String}
    (lookup : inviteByLookupLocked repository value tokenHash = some inviteID) :
    ∃ invite, repository.invites[inviteID]? = some invite ∧ invite.tokenHash = tokenHash ∧
      (inviteID = value ∨ (invite.networkID = value ∧ repository.invites[value]? = none)) := by
  unfold inviteByLookupLocked at lookup
  cases direct : repository.invites[value]? with
  | some invite =>
    simp only [direct] at lookup
    split_ifs at lookup with mismatch
    cases lookup
    exact ⟨invite, direct, not_not.mp mismatch, Or.inl rfl⟩
  | none =>
    simp only [direct] at lookup
    cases token : repository.inviteByToken[tokenHash]? with
    | none => simp [token] at lookup
    | some found =>
      obtain ⟨invite, stored, hash⟩ := (sound.invites.indexed tokenHash found).mp token
      simp only [token, Std.ExtTreeMap.getD_eq_getD_getElem?, stored,
        Option.getD_some] at lookup
      split_ifs at lookup with network
      cases lookup
      exact ⟨invite, stored, hash, Or.inr ⟨network, rfl⟩⟩

theorem integrity_consumeInviteForNode {wall consumedAt : Time}
    {inviteOrNetworkID tokenHash consumedByNodeID : String} {consumed : Invite}
    (sound : Integrity repository)
    (succeeded : consumeInviteForNode ctx wall inviteOrNetworkID tokenHash consumedAt
      consumedByNodeID repository = (.ok consumed, after)) : Integrity after := by
  obtain ⟨-, known, inviteID, _, lookup, rfl, -, -, -, -, rfl, rfl⟩ :=
    consumeInviteForNode_eq_ok.mp succeeded
  obtain ⟨invite, stored, -, -⟩ := inviteByLookup_stored sound lookup
  rw [getD_of_stored stored]
  exact integrity_storeInvite sound (sound.invites.named inviteID invite stored)
    (sound.invites.indexed.replace stored rfl) (sound.invites.network inviteID invite stored)
    (unknownConsumer_eq_false.mp known)

theorem normalizeEndpoint_nodeID (endpoint : EndpointCandidate) :
    (normalizeEndpoint endpoint).nodeID = endpoint.nodeID := by
  unfold normalizeEndpoint
  split <;> rfl

theorem candidatesSound_sorted {nodeID : String} {endpoints validated : List EndpointCandidate}
    (accepted : validateEndpoints nodeID endpoints [] = .ok validated) :
    CandidatesSound nodeID (sortEndpointCandidates validated) := by
  obtain ⟨valid, rfl, distinct, -⟩ := validateEndpoints_ok.mp accepted
  have perm := sliceStable_perm endpointLess (endpoints.map normalizeEndpoint)
  refine ⟨fun candidate member => ?_, ?_, sortEndpointCandidates_sorted _⟩
  · obtain ⟨endpoint, listed, rfl⟩ := List.mem_map.mp (perm.mem_iff.mp member)
    exact (normalizeEndpoint_nodeID endpoint).trans (valid endpoint listed).1
  · exact (perm.map endpointIdentityFor).nodup_iff.mpr distinct

variable {assignment : RelayAssignment}

theorem validateRelayAssignment_differs (valid : validateRelayAssignment assignment = .ok ()) :
    assignment.nodeID ≠ assignment.relayNodeID := by
  simp only [validateRelayAssignment, required, invalidWhen_bind_ok] at valid
  simpa using valid.2.2.2.2.1

theorem integrity_prepare (sound : Integrity repository) (networkID : String) :
    Integrity (prepareRelayAssignments repository networkID) := by
  have lookups := prepare_relayAssignment? repository networkID
  have relays : RelaysSound repository.networks repository.memberships
      (prepareRelayAssignments repository networkID).relayAssignments
      repository.relayAssignmentOwners := by
    refine sound.relays.restrict (NetworksKept.refl _) (fun _ _ _ => False)
      (fun other target assignment => ?_) (fun identifier owner => by simp)
      fun _ _ _ _ _ _ _ present => present
    rw [not_false_eq_true, and_true]
    exact iff_of_eq (congrArg (· = some assignment) (lookups other target))
  rw [prepare_frame]
  exact { sound with relays := relays }

theorem relaysSound_store (sound : Integrity repository)
    (checked : relayAssignmentChecks ctx assignment repository = .ok ())
    (owned : ∀ owner, repository.relayAssignmentOwners[assignment.id]? = some owner →
      owner = relayAssignmentOwnerKey assignment.networkID assignment.nodeID) :
    RelaysSound repository.networks repository.memberships
      (withRelayAssignment repository assignment).relayAssignments
      (withRelayAssignment repository assignment).relayAssignmentOwners := by
  obtain ⟨-, valid, network, -, -, target, relay⟩ := relayAssignmentChecks_ok.mp checked
  refine ⟨forall_insert₂ ⟨rfl, rfl⟩ sound.relays.named, forall_insert₂ network sound.relays.network,
    forall_insert₂ target sound.relays.target,
    forall_insert₂ ⟨Ne.symm (validateRelayAssignment_differs valid), relay⟩ sound.relays.relay,
    ?_, ?_⟩
  · intro identifier owner entry
    rw [withRelayAssignment_owners] at entry
    split_ifs at entry with same replaced
    · exact ⟨assignment.networkID, assignment.nodeID, assignment,
        (withRelayAssignment_relayAssignment? repository assignment _ _).trans
          (if_pos ⟨rfl, rfl⟩), same, (Option.some.inj entry).symm⟩
    · obtain ⟨networkID, nodeID, stored, before, sameID, key⟩ :=
        sound.relays.owned identifier owner entry
      refine ⟨networkID, nodeID, stored,
        (withRelayAssignment_relayAssignment? repository assignment _ _).trans
          ((if_neg ?_).trans before), sameID, key⟩
      rintro ⟨rfl, rfl⟩
      exact replaced (by rw [MemoryRepository.relayAssignment?, before]; exact congrArg some sameID)
  · intro free networkID nodeID stored lookup
    rw [withRelayAssignment_owners]
    replace lookup := (lookup₂_insert₂ _ _ _ _ _ _).symm.trans lookup
    split_ifs at lookup with different
    · obtain ⟨rfl, rfl⟩ := different
      cases lookup
      rw [if_pos rfl]
    · have entry := sound.relays.owner free networkID nodeID stored lookup
      obtain ⟨storedNetwork, storedPresent⟩ := sound.relays.network _ _ _ lookup
      obtain ⟨newNetwork, newPresent⟩ := network
      -- an equal owner key would make both assignments the same entry
      have distinctKeys : relayAssignmentOwnerKey networkID nodeID ≠
          relayAssignmentOwnerKey assignment.networkID assignment.nodeID := by
        intro same
        obtain ⟨rfl, rfl⟩ := ownerKey_injective (free _ _ storedPresent) (free _ _ newPresent) same
        exact different ⟨rfl, rfl⟩
      rw [if_neg, if_neg]
      · exact entry
      · intro replaced
        obtain ⟨existing, existingStored, sameID⟩ := Option.map_eq_some_iff.mp replaced
        have existingEntry := sound.relays.owner free _ _ existing existingStored
        rw [sameID, entry] at existingEntry
        exact distinctKeys (Option.some.inj existingEntry)
      · intro sameID
        exact distinctKeys (owned _ (sameID ▸ entry))

theorem relayAssignmentChecks_prepare (assignment : RelayAssignment) (networkID : String) :
    relayAssignmentChecks ctx assignment (prepareRelayAssignments repository networkID) =
      relayAssignmentChecks ctx assignment repository := by
  rw [prepare_frame]
  rfl

theorem integrity_setRelayAssignment (sound : Integrity repository)
    (checked : relayAssignmentChecks ctx assignment repository = .ok ())
    (owned : ∀ owner, repository.relayAssignmentOwners[assignment.id]? = some owner →
      owner = relayAssignmentOwnerKey assignment.networkID assignment.nodeID) :
    Integrity (withRelayAssignment (prepareRelayAssignments repository assignment.networkID)
      assignment) := by
  have prepared := integrity_prepare sound assignment.networkID
  have relays := relaysSound_store prepared
    ((relayAssignmentChecks_prepare assignment assignment.networkID).trans checked)
    (fun owner entry => owned owner (by rwa [prepare_owners] at entry))
  exact { prepared with relays := relays }

theorem integrity_removeRelayAssignment {networkID : String} (sound : Integrity repository)
    {assignments : GoMap RelayAssignment}
    (held : repository.relayAssignments[networkID]? = some assignments) :
    Integrity { repository with
      relayAssignmentOwners := eraseAll repository.relayAssignmentOwners
        (assignments.toList.map fun entry => entry.2.id)
      relayAssignments := repository.relayAssignments.erase networkID } := by
  have relays : RelaysSound repository.networks repository.memberships
      (repository.relayAssignments.erase networkID)
      (eraseAll repository.relayAssignmentOwners
        (assignments.toList.map fun entry => entry.2.id)) := by
    refine sound.relays.restrict (NetworksKept.refl _) (fun other _ _ => networkID = other)
      (fun other target assignment => ?_) (fun identifier owner => ?_)
      fun _ _ _ _ _ _ _ present => present
    · rw [lookup₂_erase]
      by_cases same : networkID = other <;> simp [same]
    · refine (removeRelay_owners repository held identifier owner).trans
        (and_congr_right fun _ => ⟨?_, ?_⟩)
      · rintro safe _ target assignment present rfl
        exact safe target assignment present
      · intro safe target assignment present
        exact safe networkID target assignment present rfl
  exact { sound with relays := relays }

theorem integrity_effect {op : Op} (change : Effect repository op after)
    (sound : Integrity repository) : Integrity after := by
  cases change with
  | unchanged => exact sound
  | prepared networkID => exact integrity_prepare sound networkID
  | networkCreated ctx network valid fresh => exact sound.storeNetwork rfl fresh
  | nodeAdded ctx node valid fresh freshKey => exact sound.addNode fresh freshKey
  | nodeRewritten nodeID node lastSeen version stored => exact sound.rewriteNode stored rfl rfl
  | nodeRemoved ctx nodeID node stored =>
    exact (sound.withoutNode stored).increments (affectedNetworks_nodup _ _)
      fun _ affected => sound.affectedNetwork affected
  | memberAdded ctx membership network valid present node placed fresh free =>
    exact (sound.addMembership present node placed fresh free).increment ⟨network, present⟩
  | memberRemoved ctx networkID nodeID members membership held stored =>
    obtain ⟨network, present, -⟩ := sound.memberships.pool networkID nodeID membership stored
    refine (sound.withoutMember nodeID held).increment ⟨network, ?_⟩
    rwa [withoutMember, detachNode_frame]
  | inviteCreated ctx invite valid network known fresh freshToken =>
    exact integrity_storeInvite sound rfl (sound.invites.indexed.insert fresh freshToken) network
      (unknownConsumer_eq_false.mp known)
  | inviteRevoked ctx inviteID revokedAt invite stored unused =>
    exact integrity_storeInvite sound (sound.invites.named inviteID invite stored)
      (sound.invites.indexed.replace stored rfl) (sound.invites.network inviteID invite stored)
      (sound.invites.consumer inviteID invite stored)
  | inviteConsumed ctx wall consumedAt value tokenHash nodeID consumed invites asked outcome =>
    exact integrity_consumeInviteForNode sound outcome
  | endpointsReplaced ctx nodeID endpoints validated node accepted =>
    have replaced : Integrity { repository with
        endpoints := repository.endpoints.insert nodeID (sortEndpointCandidates validated) } :=
      { sound with
        endpoints := ⟨forall_insert node sound.endpoints.node,
          forall_insert (candidatesSound_sorted accepted) sound.endpoints.candidates⟩ }
    exact replaced.increments (networksOfNode_nodup repository nodeID)
      fun _ member => sound.memberNetwork member
  | relaySet ctx assignment checked owned =>
    obtain ⟨-, -, network, -⟩ := relayAssignmentChecks_ok.mp checked
    refine (integrity_setRelayAssignment sound checked owned).increment ?_
    rw [prepare_frame]
    exact network
  | relaysRemoved ctx networkID assignments held some =>
    obtain ⟨target, assignment, stored⟩ := some
    exact (integrity_removeRelayAssignment sound held).increment
      (sound.relays.network networkID target assignment stored)

theorem integrity_apply (op : Op) (sound : Integrity repository) :
    Integrity (op.step repository) :=
  integrity_effect (step_effect op repository) sound

/-- The operations an action commits, in order: all calls of a body that
succeeded, none of a body that failed. -/
def Callback.calls : Callback → MemoryRepository → List Op
  | .finish _, _ => []
  | .observe next, repository => Callback.calls (next repository) repository
  | .call op next, repository =>
    op :: Callback.calls (next (op.apply repository).1) (op.step repository)

def committed (action : Action) (repository : MemoryRepository) : List Op :=
  match action with
  | .single op => [op]
  | .withTransaction ctx operation =>
    match contextError ctx, operation with
    | .ok (), some body =>
      match (body.run repository).1 with
      | .ok () => Callback.calls body repository
      | .error _ => []
    | _, _ => []

theorem callback_run (body : Callback) (repository : MemoryRepository) :
    (body.run repository).2 = run Op.step (Callback.calls body repository) repository := by
  induction body generalizing repository with
  | finish result => rfl
  | observe next ih => exact ih repository repository
  | call op next ih => exact ih _ _

theorem endpointMaxAge_effect {op : Op} (change : Effect repository op after) :
    after.endpointMaxAge = repository.endpointMaxAge := by
  cases change with
  | prepared => rw [prepare_frame]
  | nodeRemoved => rw [foldl_increment_eq]; rfl
  | endpointsReplaced => rw [foldl_increment_eq]
  | memberRemoved =>
    rw [withoutMember, detachNode_frame]
    rfl
  | relaySet =>
    rw [prepare_frame]
    rfl
  | _ => rfl

theorem run_endpointMaxAge (ops : List Op) (repository : MemoryRepository) :
    (run Op.step ops repository).endpointMaxAge = repository.endpointMaxAge :=
  run_invariant Op.step (fun state => state.endpointMaxAge = repository.endpointMaxAge)
    (fun op state same => (endpointMaxAge_effect (step_effect op state)).trans same) ops rfl

theorem step_eq_committed (action : Action) (repository : MemoryRepository) :
    action.step repository = run Op.step (committed action repository) repository := by
  cases action with
  | single op => rfl
  | withTransaction ctx operation =>
    cases live : contextError ctx with
    | error err => simp [Action.step, Action.apply, withTransaction, committed, live]
    | ok _ =>
      cases operation with
      | none => simp [Action.step, Action.apply, withTransaction, committed, live]
      | some body =>
        have final := callback_run body repository
        have policy := run_endpointMaxAge (Callback.calls body repository) repository
        rcases outcome : body.run repository with ⟨_ | _, working⟩
        · simp [Action.step, Action.apply, withTransaction, committed, live,
            cloneMemoryRepositoryLocked, outcome]
        · rw [outcome] at final
          rw [← final] at policy
          simp only [Action.step, Action.apply, withTransaction, committed, live,
            cloneMemoryRepositoryLocked, outcome]
          rw [← final, ← policy]

def committedOps : List Action → MemoryRepository → List Op
  | [], _ => []
  | action :: actions, repository =>
    committed action repository ++ committedOps actions (action.step repository)

theorem run_eq_committedOps (actions : List Action) (repository : MemoryRepository) :
    run Action.step actions repository =
      run Op.step (committedOps actions repository) repository := by
  induction actions generalizing repository with
  | nil => rfl
  | cons action actions ih =>
    rw [run_cons, committedOps, run_append, ← step_eq_committed, ih]

theorem integrity_step (action : Action) (repository : MemoryRepository)
    (sound : Integrity repository) : Integrity (action.step repository) := by
  rw [step_eq_committed]
  exact run_invariant Op.step Integrity (fun op _ before => integrity_apply op before) _ sound

/-- Every state a run of operations and transactions reaches from an empty
repository has all its cross references in order. -/
theorem memoryRepository_referential_integrity (maxAge : Duration) (actions : List Action) :
    Integrity (reached maxAge actions) :=
  run_invariant Action.step Integrity integrity_step actions (integrity_new maxAge)

end Ipv6Mesh.DbRuns
