import Ipv6Mesh.DbNetworks
import Ipv6Mesh.DbVersions

/-!
# The owners of relay assignment identifiers

`relayAssignmentOwners` maps an identifier to the joined network and node under
which it is stored. As long as no network identifier has a NUL, the entries are
exactly the stored assignments, so an identifier is refused only while it is
stored elsewhere, and every way of deleting or replacing an assignment gives its
identifier back.
-/

namespace Ipv6Mesh.DbRelayOwners

open GoText GoFlow ControlModel DbMemory DbOperations DbIntegrity DbRuns DbNetworks DbVersions

def Relayed (repository : MemoryRepository) (networkID nodeID identifier : String) : Prop :=
  ∃ assignment, repository.relayAssignment? networkID nodeID = some assignment ∧
    assignment.id = identifier

def Frees (op : Op) (networkID nodeID : String) (assignment : RelayAssignment) : Prop :=
  match op with
  | .setRelayAssignment _ next =>
    next.networkID = networkID ∧ next.nodeID = nodeID ∧ next.id ≠ assignment.id
  | .removeRelayAssignment _ removed => removed = networkID
  | .removeMembership _ left member => left = networkID ∧ names assignment member = true
  | .removeNode _ removed => names assignment removed = true
  | _ => False

/-- The index of relay identifiers is the relay assignments read backwards. -/
structure OwnersExact (repository : MemoryRepository) : Prop where
  indexed : ∀ identifier networkID nodeID, nulFree networkID →
    (repository.relayAssignmentOwners[identifier]? =
        some (relayAssignmentOwnerKey networkID nodeID) ↔
      Relayed repository networkID nodeID identifier)
  unique : ∀ identifier networkID nodeID other target,
    Relayed repository networkID nodeID identifier →
      Relayed repository other target identifier → networkID = other ∧ nodeID = target
  conflict : ∀ ctx assignment, relayAssignmentChecks ctx assignment repository = .ok () →
    ((setRelayAssignment ctx assignment repository).1 = .error (.sentinel .conflict) ↔
      ∃ networkID nodeID, Relayed repository networkID nodeID assignment.id ∧
        ¬(networkID = assignment.networkID ∧ nodeID = assignment.nodeID)) ∧
    ((setRelayAssignment ctx assignment repository).1 = .ok () ∨
      (setRelayAssignment ctx assignment repository).1 = .error (.sentinel .conflict))
  reusable : ∀ op networkID nodeID assignment,
    repository.relayAssignment? networkID nodeID = some assignment →
      Frees op networkID nodeID assignment → (op.apply repository).1 = .ok () →
        (op.step repository).relayAssignmentOwners[assignment.id]? = none ∧
          ∀ ctx next, next.id = assignment.id →
            relayAssignmentChecks ctx next (op.step repository) = .ok () →
              (setRelayAssignment ctx next (op.step repository)).1 = .ok ()

section Index

variable {repository : MemoryRepository}
variable {networkID nodeID identifier : String}

theorem Relayed.network (sound : Integrity repository)
    (relayed : Relayed repository networkID nodeID identifier) :
    ∃ network, repository.networks[networkID]? = some network := by
  obtain ⟨assignment, stored, -⟩ := relayed
  exact sound.relays.network networkID nodeID assignment stored

theorem owner_iff (sound : Integrity repository) (free : NulFreeNetworks repository.networks)
    (named : nulFree networkID) :
    repository.relayAssignmentOwners[identifier]? =
        some (relayAssignmentOwnerKey networkID nodeID) ↔
      Relayed repository networkID nodeID identifier := by
  constructor
  · intro entry
    obtain ⟨other, target, assignment, stored, same, key⟩ :=
      sound.relays.owned identifier _ entry
    obtain ⟨network, present⟩ := sound.relays.network other target assignment stored
    obtain ⟨rfl, rfl⟩ := ownerKey_injective named (free other network present) key
    exact ⟨assignment, stored, same⟩
  · rintro ⟨assignment, stored, rfl⟩
    exact sound.relays.owner free networkID nodeID assignment stored

theorem relayed_unique (sound : Integrity repository) (free : NulFreeNetworks repository.networks)
    {other target : String} (first : Relayed repository networkID nodeID identifier)
    (second : Relayed repository other target identifier) :
    networkID = other ∧ nodeID = target := by
  obtain ⟨network, present⟩ := first.network sound
  obtain ⟨otherNetwork, otherPresent⟩ := second.network sound
  have named := free networkID network present
  have otherNamed := free other otherNetwork otherPresent
  have entry := (owner_iff sound free named).mpr first
  rw [(owner_iff sound free otherNamed).mpr second] at entry
  exact ownerKey_injective named otherNamed (Option.some.inj entry).symm

theorem owned_elsewhere_iff (sound : Integrity repository)
    (free : NulFreeNetworks repository.networks) (named : nulFree networkID)
    (identifier nodeID : String) :
    (repository.relayAssignmentOwners[identifier]?.any
        (· ≠ relayAssignmentOwnerKey networkID nodeID)) = true ↔
      ∃ other target, Relayed repository other target identifier ∧
        ¬(other = networkID ∧ target = nodeID) := by
  rw [Option.any_eq_true]
  constructor
  · rintro ⟨owner, entry, different⟩
    obtain ⟨other, target, assignment, stored, same, rfl⟩ :=
      sound.relays.owned identifier owner entry
    refine ⟨other, target, ⟨assignment, stored, same⟩, ?_⟩
    rintro ⟨rfl, rfl⟩
    exact of_decide_eq_true different rfl
  · rintro ⟨other, target, relayed, elsewhere⟩
    obtain ⟨network, present⟩ := relayed.network sound
    have otherNamed := free other network present
    refine ⟨_, (owner_iff sound free otherNamed).mpr relayed, decide_eq_true fun same => ?_⟩
    exact elsewhere (ownerKey_injective otherNamed named same)

theorem setRelayAssignment_result {ctx : Context} {assignment : RelayAssignment}
    (checked : relayAssignmentChecks ctx assignment repository = .ok ()) :
    (setRelayAssignment ctx assignment repository).1 =
      if repository.relayAssignmentOwners[assignment.id]?.any
          (· ≠ relayAssignmentOwnerKey assignment.networkID assignment.nodeID) then
        .error (.sentinel .conflict)
      else .ok () := by
  simp only [setRelayAssignment, checked, prepare_owners]
  generalize repository.relayAssignmentOwners[assignment.id]?.any _ = elsewhere
  cases elsewhere <;> rfl

theorem owner_freed {op : Op} {assignment : RelayAssignment}
    (stored : repository.relayAssignment? networkID nodeID = some assignment)
    (frees : Frees op networkID nodeID assignment) (succeeded : (op.apply repository).1 = .ok ()) :
    (op.step repository).relayAssignmentOwners[assignment.id]? = none := by
  unfold Op.step
  rcases outcome : op.apply repository with ⟨err | _, after⟩
  · rw [outcome] at succeeded
    cases succeeded
  · refine Option.eq_none_iff_forall_ne_some.mpr fun owner entry => ?_
    cases op with
    | setRelayAssignment ctx next =>
      obtain ⟨rfl, rfl, renamed⟩ := frees
      obtain ⟨-, -, rfl⟩ := setRelayAssignment_eq_ok.mp outcome
      have prepared : (prepareRelayAssignments repository next.networkID).relayAssignment?
          next.networkID next.nodeID = some assignment :=
        (prepare_relayAssignment? repository _ _ _).trans stored
      have owners := withRelayAssignment_owners
        (prepareRelayAssignments repository next.networkID) next assignment.id
      rw [if_neg renamed, prepared, Option.map_some, if_pos rfl] at owners
      cases owners.symm.trans entry
    | removeRelayAssignment ctx removed =>
      cases frees
      obtain ⟨-, assignments, held, -, rfl⟩ := removeRelayAssignment_eq_ok.mp outcome
      exact ((removeRelay_owners repository held _ owner).mp entry).2 nodeID assignment stored rfl
    | removeMembership ctx left member =>
      obtain ⟨rfl, named⟩ := frees
      obtain ⟨-, members, -, -, rfl⟩ := removeMembership_eq_ok.mp outcome
      exact ((detachNode_owners _ left member _ owner).mp entry).2 nodeID assignment stored
        (.inr named) rfl
    | removeNode ctx removed =>
      obtain ⟨-, node, -, rfl⟩ := removeNode_eq_ok.mp outcome
      rw [foldl_increment_eq] at entry
      exact ((withoutNode_owners repository removed node _ owner).mp entry).2 networkID nodeID
        assignment stored frees rfl
    | createNetwork | addNode | touchNode | updateNodeClientVersion | addMembership
    | createInvite | revokeInvite | consumeInvite | consumeInviteForNode | replaceEndpoints =>
      cases frees

theorem ownersExact_of_sound (sound : Integrity repository)
    (free : NulFreeNetworks repository.networks) : OwnersExact repository where
  indexed _ _ _ named := owner_iff sound free named
  unique _ _ _ _ _ := relayed_unique sound free
  conflict ctx assignment checked := by
    obtain ⟨-, -, ⟨network, present⟩, -⟩ := relayAssignmentChecks_ok.mp checked
    have elsewhere := owned_elsewhere_iff sound free (free _ network present) assignment.id
      assignment.nodeID
    rw [setRelayAssignment_result checked, ← elsewhere]
    split_ifs with owned
    · exact ⟨iff_of_true rfl owned, .inr rfl⟩
    · exact ⟨iff_of_false not_false owned, .inl rfl⟩
  reusable op networkID nodeID assignment stored frees succeeded := by
    have gone := owner_freed stored frees succeeded
    refine ⟨gone, fun ctx next same checked => ?_⟩
    rw [setRelayAssignment_result checked, same, gone]
    rfl

end Index

theorem nulFreeNetworks_run {ops : List Op} {repository : MemoryRepository}
    (sound : Integrity repository) (free : NulFreeNetworks repository.networks)
    (created : ∀ ctx network, Op.createNetwork ctx network ∈ ops → nulFree network.id) :
    NulFreeNetworks (run Op.step ops repository).networks := by
  refine (run_invariant_of_mem Op.step
    (fun state => Integrity state ∧ NulFreeNetworks state.networks)
    (fun op member state before => ⟨integrity_apply op before.1, ?_⟩) ⟨sound, free⟩).2
  intro networkID network stored
  rcases networks_origin before.1 op stored with ⟨old, present, -⟩ | ⟨ctx, fresh, rfl, -, rfl, -⟩
  · exact before.2 networkID old present
  · exact created ctx fresh member

/-- In every state of a run that creates no network with a NUL in its identifier,
the index holds exactly the stored assignments. -/
theorem relay_identifiers_indexed (maxAge : Duration) (actions : List Action)
    (created : ∀ ctx network, Op.createNetwork ctx network ∈
      committedOps actions (newMemoryRepositoryWithEndpointMaxAge maxAge) → nulFree network.id) :
    OwnersExact (reached maxAge actions) := by
  have empty : NulFreeNetworks (newMemoryRepositoryWithEndpointMaxAge maxAge).networks := by
    intro networkID network stored
    simp [newMemoryRepositoryWithEndpointMaxAge] at stored
  rw [reached, run_eq_committedOps]
  refine ownersExact_of_sound ?_ (nulFreeNetworks_run (integrity_new maxAge) empty created)
  exact run_invariant Op.step Integrity (fun op _ before => integrity_apply op before) _
    (integrity_new maxAge)

/-- The second assignment replaces the first, whose identifier is free again. -/
theorem replaced_relay_identifier_freed :
    let actions := pairRun ++ [.single (.setRelayAssignment .live (plainRelay "r")),
      .single (.setRelayAssignment .live (plainRelay "s"))]
    let final := reached defaultEndpointMaxAge actions
    OwnersExact final ∧ final.relayAssignmentOwners["r"]? = none ∧
      final.relayAssignmentOwners["s"]? = some (relayAssignmentOwnerKey "n" "a") := by
  intro actions final
  refine ⟨relay_identifiers_indexed defaultEndpointMaxAge actions fun ctx network member => ?_,
    by decide +kernel, by decide +kernel⟩
  have ops : committedOps actions (newMemoryRepositoryWithEndpointMaxAge defaultEndpointMaxAge) =
      [.createNetwork .live (startedNetwork 1), .addNode .live startedNode,
        .addMembership .live startedMembership, .addNode .live reachableNode,
        .addMembership .live reachableMembership, .setRelayAssignment .live (plainRelay "r"),
        .setRelayAssignment .live (plainRelay "s")] := rfl
  simp only [ops, List.mem_cons, reduceCtorEq, Op.createNetwork.injEq, List.not_mem_nil,
    or_false] at member
  rw [member.2]
  unfold nulFree
  decide

end Ipv6Mesh.DbRelayOwners
