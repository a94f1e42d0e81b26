import Ipv6Mesh.DbMemoryTables
import Ipv6Mesh.DbNetworks
import Ipv6Mesh.DbPostgresTables

/-!
# The two repositories agree

A memory repository and a PostgreSQL database that hold the same tables accept
the same calls and hold the same tables afterwards. The relation of the two
states carries what the refinements need; every admissible call keeps it, so it
holds along every admissible run from two empty repositories.
-/

namespace Ipv6Mesh.DbAgreement

open GoText GoCidr GoMap GoFlow ControlModel ControlValidation DbMemory DbOperations DbIntegrity
  DbRuns DbNetworks DbRows DbTables DbMemoryTables SqlTable
open PostgresRepository (Database networkChecks membershipChecks inviteChecks)

variable {op : Op}

section Rows

variable {tables : Tables}

theorem rowsValid_bump (valid : RowsValid tables) (wanted : String → Prop) :
    RowsValid (Tables.bump wanted tables) where
  networks row member := by
    obtain ⟨old, stored, ⟨-, rfl⟩ | ⟨-, rfl⟩⟩ := member
    · have checked := valid.networks old stored
      simp only [networkChecks, Bool.and_eq_true, decide_eq_true_eq] at checked ⊢
      exact ⟨checked.1, Int.lt_add_one_of_le (Int.le_of_lt checked.2)⟩
    · exact valid.networks _ stored
  nulFree row member := by
    obtain ⟨old, stored, ⟨-, rfl⟩ | ⟨-, rfl⟩⟩ := member
    · exact valid.nulFree old stored
    · exact valid.nulFree _ stored
  memberships := valid.memberships
  invites := valid.invites

theorem rowsValid_updateInvites (valid : RowsValid tables) {wanted : InviteRow → Prop}
    {assign : InviteRow → InviteRow}
    (checked : ∀ row ∈ tables.invites, wanted row → inviteChecks (assign row) = true) :
    RowsValid { tables with invites := updated wanted assign tables.invites } where
  __ := valid
  invites row member := by
    obtain ⟨old, stored, ⟨selected, rfl⟩ | ⟨-, rfl⟩⟩ := member
    · exact checked old stored selected
    · exact valid.invites _ stored

theorem rowsValid_consume (valid : RowsValid tables) (value tokenHash : String) (time : Time)
    (nodeID : String) : RowsValid (consumeEffect tables value tokenHash time nodeID) :=
  rowsValid_updateInvites valid fun row stored selected =>
    DbPostgresTables.consume_checked (valid.invites row stored) selected.2

theorem rowsValid_removeNode (valid : RowsValid tables) (ctx : Context) (nodeID : String) :
    RowsValid (effect tables (.removeNode ctx nodeID)) := by
  apply rowsValid_bump
  refine ⟨valid.networks, valid.nulFree, fun row member => valid.memberships row member.1, ?_⟩
  rintro row ⟨old, stored, ⟨-, rfl⟩ | ⟨-, rfl⟩⟩
  · have checked := valid.invites old stored
    simp only [inviteChecks, Bool.and_eq_true, Option.isNone_none, Bool.true_or] at checked ⊢
    exact ⟨⟨checked.1.1, trivial⟩, checked.2⟩
  · exact valid.invites _ stored

theorem rowsValid_effect (valid : RowsValid tables) (admissible : Admissible tables op)
    (accepted : accepts tables op) : RowsValid (effect tables op) := by
  cases op with
  | createNetwork ctx network =>
    obtain ⟨-, networkValid, -⟩ := accepted
    exact { valid with
      networks := Set.forall_mem_insert.mpr
        ⟨(DbPostgresTables.networkRow_checked networkValid).2, valid.networks⟩
      nulFree := Set.forall_mem_insert.mpr ⟨admissible.nulFree ctx network rfl, valid.nulFree⟩ }
  | addNode | touchNode | updateNodeClientVersion => exact { valid with }
  | removeNode ctx nodeID => exact rowsValid_removeNode valid ctx nodeID
  | addMembership ctx membership =>
    obtain ⟨-, membershipValid, -⟩ := accepted
    rw [effect]
    apply rowsValid_bump
    exact { valid with
      memberships := Set.forall_mem_insert.mpr
        ⟨DbPostgresTables.membershipRow_checked membershipValid, valid.memberships⟩ }
  | removeMembership ctx networkID nodeID =>
    rw [effect]
    apply rowsValid_bump
    exact { valid with memberships := fun row member => valid.memberships row member.1 }
  | createInvite ctx invite =>
    obtain ⟨-, inviteValid, -⟩ := accepted
    exact { valid with
      invites := Set.forall_mem_insert.mpr
        ⟨DbPostgresTables.inviteRow_checked inviteValid, valid.invites⟩ }
  | revokeInvite ctx inviteID revokedAt =>
    refine rowsValid_updateInvites valid fun row stored selected => ?_
    exact DbPostgresTables.revoke_checked (valid.invites row stored) selected.2.1
      (admissible.revoked ctx inviteID revokedAt rfl row stored selected.1)
  | consumeInvite | consumeInviteForNode => exact rowsValid_consume valid _ _ _ _
  | replaceEndpoints | setRelayAssignment | removeRelayAssignment =>
    rw [effect]
    apply rowsValid_bump
    exact { valid with }

end Rows

section Pools

variable {repository after : MemoryRepository}

theorem poolsValid_step (sound : Integrity repository) (pools : PoolsValid repository.networks)
    (op : Op) : PoolsValid (op.step repository).networks := by
  intro networkID network stored
  rcases networks_step sound op stored with ⟨before, lookup, carried⟩ | ⟨created, valid, carried⟩
  · rw [carried.ipv4Pool]
    exact pools networkID before lookup
  · rw [carried.ipv4Pool]
    simp only [validateNetwork, required, invalidWhen_bind_ok, Bool.not_eq_false'] at valid
    exact ⟨valid.2.2.2.2.1, valid.2.2.2.2.2.1⟩

end Pools

section Keys

variable {database : Database}

theorem inviteKeys_update {invites : List InviteRow} (keys : (invites.map InviteRow.id).Nodup)
    {wanted : InviteRow → Bool} {assign : InviteRow → InviteRow}
    (kept : ∀ row, (assign row).id = row.id) :
    ((updateWhere wanted assign invites).map InviteRow.id).Nodup := by
  rw [map_updateWhere kept]
  exact keys

theorem inviteKeys_step (consistent : Consistent (databaseTables database))
    (valid : RowsValid (databaseTables database)) (keys : (database.invites.map InviteRow.id).Nodup)
    (admissible : Admissible (databaseTables database) op) :
    ((PostgresRepository.step op database).invites.map InviteRow.id).Nodup := by
  unfold PostgresRepository.step
  rcases outcome : PostgresRepository.apply op database with ⟨_ | _, after⟩
  · rw [DbPostgresTables.apply_error outcome]
    exact keys
  · obtain ⟨accepted, rfl⟩ :=
      (DbPostgresTables.database_meets consistent valid keys admissible after).mp outcome
    cases op with
    | createInvite ctx invite =>
      obtain ⟨-, -, -, -, fresh⟩ := accepted
      have unused : invite.id ∉ database.invites.map InviteRow.id := by
        intro used
        obtain ⟨row, member, same⟩ := List.mem_map.mp used
        exact (fresh row member).1 same
      rw [DbPostgresTables.leaves, List.map_append, List.map_singleton, List.nodup_append_comm]
      exact List.nodup_cons.mpr ⟨unused, keys⟩
    | removeNode | revokeInvite | consumeInvite | consumeInviteForNode =>
      exact inviteKeys_update keys fun _ => rfl
    | _ => exact keys

end Keys

/-- The invariant of the two repositories: one set of tables under both. -/
structure InStep (repository : MemoryRepository) (database : Database) : Prop where
  sound : Integrity repository
  pools : PoolsValid repository.networks
  valid : RowsValid (memoryTables repository)
  keys : (database.invites.map InviteRow.id).Nodup
  same : memoryTables repository = databaseTables database

def memoryConsumption (op : Op) (repository : MemoryRepository) : Option (Except Error Invite) :=
  match op with
  | .consumeInvite ctx wall value tokenHash consumedAt =>
    some (DbMemory.consumeInvite ctx wall value tokenHash consumedAt repository).1
  | .consumeInviteForNode ctx wall value tokenHash consumedAt nodeID =>
    some (DbMemory.consumeInviteForNode ctx wall value tokenHash consumedAt nodeID repository).1
  | _ => none

def databaseConsumption (op : Op) (database : Database) : Option (Except Error Invite) :=
  match op with
  | .consumeInvite ctx wall value tokenHash consumedAt =>
    some (PostgresRepository.consumeInvite ctx wall value tokenHash consumedAt database).1
  | .consumeInviteForNode ctx wall value tokenHash consumedAt nodeID =>
    some (PostgresRepository.consumeInviteForNode ctx wall value tokenHash consumedAt nodeID
      database).1
  | _ => none

/-- The two repositories agree on a call: the same tables before it, the same
success, the same tables after it, and the same answer to a consumption. -/
structure Agreement (repository : MemoryRepository) (database : Database) (op : Op) : Prop where
  before : memoryTables repository = databaseTables database
  succeeds : (op.apply repository).1 = .ok () ↔ (PostgresRepository.apply op database).1 = .ok ()
  after : memoryTables (op.step repository) =
    databaseTables (PostgresRepository.step op database)
  consumed : memoryConsumption op repository = databaseConsumption op database

/-- Each operation is admissible in the tables it meets. -/
def AdmissibleRun : List Op → MemoryRepository → Prop
  | [], _ => True
  | op :: ops, repository =>
    Admissible (memoryTables repository) op ∧ AdmissibleRun ops (op.step repository)

section Runs

variable {repository : MemoryRepository} {database : Database}

theorem inStep_new (maxAge : Duration) :
    InStep (newMemoryRepositoryWithEndpointMaxAge maxAge) Database.empty := by
  have tables : memoryTables (newMemoryRepositoryWithEndpointMaxAge maxAge) =
      databaseTables Database.empty := by
    apply Tables.ext <;> ext row <;>
      simp [memoryTables, databaseTables, Database.empty, newMemoryRepositoryWithEndpointMaxAge,
        mem_content, MemoryRepository.membership?, MemoryRepository.relayAssignment?, lookup₂]
  constructor
  · exact integrity_new maxAge
  · intro networkID network stored
    simp [newMemoryRepositoryWithEndpointMaxAge] at stored
  · rw [tables]
    constructor <;> simp [databaseTables, Database.empty]
  · exact List.nodup_nil
  · exact tables

theorem consumption_agrees (state : InStep repository database) (op : Op) :
    memoryConsumption op repository = databaseConsumption op database := by
  have consistent := consistent_of_integrity state.sound
  have forNode : ∀ ctx wall value tokenHash consumedAt nodeID,
      (DbMemory.consumeInviteForNode ctx wall value tokenHash consumedAt nodeID repository).1 =
        (PostgresRepository.consumeInviteForNode ctx wall value tokenHash consumedAt nodeID
          database).1 := by
    intro ctx wall value tokenHash consumedAt nodeID
    apply consumeOutcome_unique consistent
    · exact DbMemoryTables.consumeInviteForNode_outcome state.sound state.valid ctx wall value
        tokenHash consumedAt nodeID
    · have databaseConsistent := consistent
      have databaseValid := state.valid
      rw [state.same] at databaseConsistent databaseValid ⊢
      exact DbPostgresTables.consumeInviteForNode_outcome databaseConsistent databaseValid ctx wall
        consumedAt
  cases op with
  | consumeInvite ctx wall value tokenHash consumedAt =>
    rw [memoryConsumption, databaseConsumption, DbPostgresTables.consumeInvite_eq, ← forNode,
      DbMemory.consumeInvite]
  | consumeInviteForNode ctx wall value tokenHash consumedAt nodeID =>
    rw [memoryConsumption, databaseConsumption, forNode]
  | createNetwork | addNode | touchNode | updateNodeClientVersion | removeNode | addMembership
  | removeMembership | createInvite | revokeInvite | replaceEndpoints | setRelayAssignment
  | removeRelayAssignment => rfl

theorem agreement (state : InStep repository database)
    (admissible : Admissible (memoryTables repository) op) : Agreement repository database op := by
  have consistent := consistent_of_integrity state.sound
  have memory := memory_refines state.sound state.pools state.valid admissible
  have postgres : Refines databaseTables (PostgresRepository.apply op database)
      (memoryTables repository) op := by
    have valid := state.valid
    rw [state.same] at consistent valid admissible ⊢
    exact DbPostgresTables.database_refines consistent valid state.keys admissible
  obtain ⟨succeeds, after⟩ := Refines.agree memory postgres
  exact ⟨state.same, succeeds, after, consumption_agrees state op⟩

theorem inStep_step (state : InStep repository database)
    (admissible : Admissible (memoryTables repository) op) :
    InStep (op.step repository) (PostgresRepository.step op database) where
  sound := integrity_apply op state.sound
  pools := poolsValid_step state.sound state.pools op
  valid := by
    have refines := memory_refines state.sound state.pools state.valid admissible
    rcases outcome : op.apply repository with ⟨err | _, after⟩
    · rw [Op.step, outcome, refines.refused err after outcome]
      exact state.valid
    · obtain ⟨accepted, tables⟩ := refines.accepted after outcome
      rw [Op.step, outcome, tables]
      exact rowsValid_effect state.valid admissible accepted
  keys := by
    have consistent := consistent_of_integrity state.sound
    have valid := state.valid
    rw [state.same] at consistent valid admissible
    exact inviteKeys_step consistent valid state.keys admissible
  same := (agreement state admissible).after

theorem inStep_run (ops : List Op) (state : InStep repository database)
    (admissible : AdmissibleRun ops repository) :
    InStep (run Op.step ops repository) (run PostgresRepository.step ops database) := by
  induction ops generalizing repository database with
  | nil => exact state
  | cons op ops ih => exact ih (inStep_step state admissible.1) admissible.2

theorem admissibleRun_append {first : List Op}
    (admissible : AdmissibleRun (first ++ [op]) repository) :
    AdmissibleRun first repository ∧
      Admissible (memoryTables (run Op.step first repository)) op := by
  induction first generalizing repository with
  | nil => exact ⟨trivial, admissible.1⟩
  | cons earlier first ih =>
    have rest := ih admissible.2
    exact ⟨⟨admissible.1, rest.1⟩, rest.2⟩

/-- Along every admissible run from two empty repositories, every call
succeeds in one exactly when it succeeds in the other, leaves equal tables, and
answers a consumption alike. -/
theorem repositories_agree (maxAge : Duration) (ops : List Op) (op : Op)
    (admissible : AdmissibleRun (ops ++ [op]) (newMemoryRepositoryWithEndpointMaxAge maxAge)) :
    Agreement (run Op.step ops (newMemoryRepositoryWithEndpointMaxAge maxAge))
      (run PostgresRepository.step ops Database.empty) op := by
  obtain ⟨earlier, last⟩ := admissibleRun_append admissible
  exact agreement (inStep_run ops (inStep_new maxAge) earlier) last

end Runs

def callCheck (repository : MemoryRepository) : Op → Bool
  | .createNetwork _ network => !network.id.toList.contains '\x00'
  | .revokeInvite _ inviteID revokedAt =>
    repository.invites.toList.all fun entry =>
      entry.2.id ≠ inviteID || entry.2.createdAt ≤ revokedAt
  | .updateNodeClientVersion _ _ clientVersion => !blank clientVersion || clientVersion = ""
  | _ => true

def admissibleCheck (op : Op) (repository : MemoryRepository) : Bool :=
  (repository.networks.toList.all fun entry => entry.2.configVersion < maxInt64) &&
    callCheck repository op

def admissibleRunCheck : List Op → MemoryRepository → Bool
  | [], _ => true
  | op :: ops, repository => admissibleCheck op repository && admissibleRunCheck ops
      (op.step repository)

theorem all_toList {Value : Type} {map : GoMap Value} {check : String × Value → Bool}
    (all : map.toList.all check = true) {key : String} {value : Value}
    (stored : map[key]? = some value) : check (key, value) = true :=
  List.all_eq_true.mp all _ (Std.ExtTreeMap.mem_toList_iff_getElem?_eq_some.mpr stored)

theorem admissible_of_check {repository : MemoryRepository}
    (checked : admissibleCheck op repository = true) :
    Admissible (memoryTables repository) op := by
  rw [admissibleCheck, Bool.and_eq_true] at checked
  obtain ⟨versions, call⟩ := checked
  constructor
  · rintro row ⟨networkID, network, stored, rfl⟩
    exact of_decide_eq_true (all_toList versions stored)
  · rintro ctx network rfl
    simpa [callCheck, DbIntegrity.nulFree] using call
  · rintro ctx inviteID revokedAt rfl row member named
    obtain ⟨stored, invite, lookup, rfl⟩ := member
    rw [callCheck] at call
    have later := all_toList call lookup
    simp only [Bool.or_eq_true, decide_eq_true_eq] at later
    exact later.resolve_left fun other => other named
  · rintro ctx nodeID clientVersion rfl blanks
    simpa [callCheck, blanks] using call

theorem admissibleRun_of_check {ops : List Op} {repository : MemoryRepository}
    (checked : admissibleRunCheck ops repository = true) : AdmissibleRun ops repository := by
  induction ops generalizing repository with
  | nil => trivial
  | cons op ops ih =>
    rw [admissibleRunCheck, Bool.and_eq_true] at checked
    exact ⟨admissible_of_check checked.1, ih checked.2⟩

def invitedRun : List Op :=
  [.createNetwork .live
      { id := "n", name := "n", ipv4Pool := "10.0.0.0/24", ownerID := "o", configVersion := 0,
        createdAt := 1 },
    .addNode .live
      { id := "a", displayName := "a", publicKey := "k", platform := "p", clientVersion := "v",
        lastSeen := 0 },
    .createInvite .live
      { id := "i", networkID := "n", tokenHash := "t", expiresAt := 9, consumedAt := none,
        revokedAt := none, consumedByNodeID := "", createdAt := 1 }]

theorem repositories_agree_on_consumption :
    ((Op.consumeInviteForNode .live 5 "n" "t" 5 "a").apply (run Op.step invitedRun
      (newMemoryRepositoryWithEndpointMaxAge defaultEndpointMaxAge))).1 = .ok () ∧
    Agreement
      (run Op.step invitedRun (newMemoryRepositoryWithEndpointMaxAge defaultEndpointMaxAge))
      (run PostgresRepository.step invitedRun Database.empty)
      (.consumeInviteForNode .live 5 "n" "t" 5 "a") :=
  ⟨by decide +kernel, repositories_agree defaultEndpointMaxAge invitedRun
    (.consumeInviteForNode .live 5 "n" "t" 5 "a") (admissibleRun_of_check (by decide +kernel))⟩

end Ipv6Mesh.DbAgreement
