import Ipv6Mesh.DbRuns

/-!
# Stored networks

No operation deletes a network or changes anything of it but its version, and a
network enters the repository only through the validation of `CreateNetwork`.
-/

namespace Ipv6Mesh.DbNetworks

open GoText GoMap GoFlow ControlModel ControlValidation DbMemory DbOperations DbIntegrity DbRuns

def Carried (before after : Network) : Prop :=
  after = { before with configVersion := after.configVersion }

theorem Carried.refl (network : Network) : Carried network network := rfl

theorem Carried.id {before after : Network} (carried : Carried before after) :
    after.id = before.id := by rw [carried]

theorem Carried.ipv4Pool {before after : Network} (carried : Carried before after) :
    after.ipv4Pool = before.ipv4Pool := by rw [carried]

section Steps

variable {repository after : MemoryRepository}

/-- After an operation, the stored network was stored before or passed its validation. -/
def Descends (repository : MemoryRepository) (networkID : String) (network : Network) : Prop :=
  (∃ before, repository.networks[networkID]? = some before ∧ Carried before network) ∨
    ∃ created, validateNetwork created = .ok () ∧ Carried created network

def Kept (repository : MemoryRepository) (networkID : String) (network : Network) : Prop :=
  ∃ before, repository.networks[networkID]? = some before ∧ Carried before network

variable {networkID : String} {network : Network}

theorem kept_same (stored : repository.networks[networkID]? = some network) :
    Kept repository networkID network :=
  ⟨network, stored, Carried.refl network⟩

theorem kept_increments {networkIDs : List String} (distinct : networkIDs.Nodup)
    (base : MemoryRepository) (same : base.networks = repository.networks)
    (present : ∀ networkID ∈ networkIDs, ∃ network, repository.networks[networkID]? = some network)
    (stored : (networkIDs.foldl incrementNetworkVersionLocked base).networks[networkID]? =
      some network) : Kept repository networkID network := by
  rw [foldl_increment_networks distinct, same] at stored
  split_ifs at stored with listed
  · obtain ⟨before, lookup⟩ := present networkID listed
    rw [getD_of_stored lookup] at stored
    cases stored
    exact ⟨before, lookup, rfl⟩
  · exact kept_same stored

theorem kept_increment {changed : String} (base : MemoryRepository)
    (same : base.networks = repository.networks)
    (present : ∃ network, repository.networks[changed]? = some network)
    (stored : (incrementNetworkVersionLocked base changed).networks[networkID]? = some network) :
    Kept repository networkID network := by
  have single : ∀ other ∈ [changed], ∃ network, repository.networks[other]? = some network :=
    fun _ listed => List.mem_singleton.mp listed ▸ present
  exact kept_increments (List.nodup_singleton changed) base same single stored

theorem networks_origin (sound : Integrity repository) (op : Op)
    (stored : (op.step repository).networks[networkID]? = some network) :
    Kept repository networkID network ∨
      ∃ ctx created, op = .createNetwork ctx created ∧ validateNetwork created = .ok () ∧
        created.id = networkID ∧ Carried created network := by
  have change := step_effect op repository
  generalize op.step repository = after at change stored
  cases change with
  | networkCreated ctx created valid fresh =>
    rw [getElem?_insert] at stored
    by_cases same : created.id = networkID
    · rw [if_pos same] at stored
      cases stored
      exact Or.inr ⟨ctx, created, rfl, valid, same, rfl⟩
    · rw [if_neg same] at stored
      exact Or.inl (kept_same stored)
  | prepared =>
    rw [prepare_frame] at stored
    exact Or.inl (kept_same stored)
  | nodeRemoved ctx nodeID node =>
    exact Or.inl (kept_increments (affectedNetworks_nodup _ _)
      (withoutNode repository nodeID node) rfl
      (fun _ affected => sound.affectedNetwork affected) stored)
  | memberAdded ctx membership found valid present =>
    exact Or.inl (kept_increment _ rfl ⟨found, present⟩ stored)
  | memberRemoved ctx changed nodeID members membership held member =>
    obtain ⟨found, present, -⟩ := sound.memberships.pool _ _ _ member
    have same : (withoutMember repository changed nodeID members).networks =
        repository.networks := by
      rw [withoutMember, detachNode_frame]
    exact Or.inl (kept_increment _ same ⟨found, present⟩ stored)
  | endpointsReplaced ctx nodeID endpoints validated =>
    exact Or.inl (kept_increments (networksOfNode_nodup repository nodeID)
      { repository with
        endpoints := repository.endpoints.insert nodeID (sortEndpointCandidates validated) } rfl
      (fun _ listed => sound.memberNetwork listed) stored)
  | relaySet ctx assignment checked =>
    obtain ⟨-, -, present, -⟩ := relayAssignmentChecks_ok.mp checked
    have same : (withRelayAssignment (prepareRelayAssignments repository assignment.networkID)
        assignment).networks = repository.networks := by
      rw [prepare_frame]
      rfl
    exact Or.inl (kept_increment _ same present stored)
  | relaysRemoved ctx changed assignments held some =>
    obtain ⟨nodeID, assignment, lookup⟩ := some
    exact Or.inl (kept_increment _ rfl (sound.relays.network _ _ _ lookup) stored)
  | _ => exact Or.inl (kept_same stored)

theorem networks_step (sound : Integrity repository) (op : Op)
    (stored : (op.step repository).networks[networkID]? = some network) :
    Descends repository networkID network := by
  rcases networks_origin sound op stored with kept | ⟨-, created, -, valid, -, carried⟩
  · exact Or.inl kept
  · exact Or.inr ⟨created, valid, carried⟩

end Steps

def Validated (networks : Std.ExtTreeMap String Network) : Prop :=
  ∀ (networkID : String) (network : Network), networks[networkID]? = some network →
    ∃ created, validateNetwork created = .ok () ∧ Carried created network

theorem validated_step (op : Op) {repository : MemoryRepository} (sound : Integrity repository)
    (validated : Validated repository.networks) : Validated (op.step repository).networks := by
  intro networkID network stored
  rcases networks_step sound op stored with ⟨before, lookup, carried⟩ | created
  · obtain ⟨created, valid, earlier⟩ := validated networkID before lookup
    exact ⟨created, valid, by rw [Carried, carried, earlier]⟩
  · exact created

structure WellFormed (repository : MemoryRepository) : Prop where
  integrity : Integrity repository
  validated : Validated repository.networks

theorem wellFormed_new (maxAge : Duration) :
    WellFormed (newMemoryRepositoryWithEndpointMaxAge maxAge) := by
  refine ⟨integrity_new maxAge, fun networkID network stored => ?_⟩
  simp [newMemoryRepositoryWithEndpointMaxAge] at stored

theorem wellFormed_run (ops : List Op) {repository : MemoryRepository}
    (wellFormed : WellFormed repository) : WellFormed (run Op.step ops repository) :=
  run_invariant Op.step WellFormed (fun op _ before =>
    ⟨integrity_apply op before.integrity, validated_step op before.integrity before.validated⟩)
    ops wellFormed

theorem wellFormed_reached (maxAge : Duration) (actions : List Action) :
    WellFormed (reached maxAge actions) := by
  refine run_invariant Action.step WellFormed (fun action state before => ?_) actions
    (wellFormed_new maxAge)
  rw [step_eq_committed]
  exact wellFormed_run _ before

end Ipv6Mesh.DbNetworks
