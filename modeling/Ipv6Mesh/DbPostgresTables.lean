import Ipv6Mesh.DbTables

/-!
# The PostgreSQL repository refines the tables

Each method of `PostgresRepository` is the mutation of the rows of its tables.
The foreign keys and unique columns that the statements rely on are those of
`Consistent`; a version column that has not reached its end takes every
increment.
-/

namespace Ipv6Mesh.DbPostgresTables

open GoText GoNet GoFlow ControlModel ControlValidation
open DbMemory (refuseWhen found consumptionTime Op)
open DbOperations (contextError_ok refuseWhen_ok found_ok found_bind_ok dropResult_eq_ok
  dropResult_error)
open DbRows DbTables PostgresRepository SqlTable

variable {err : Error} {checked : Unit} {nodeID : String}

section Transactions

variable {Result : Type} {ctx : Context} {database after : Database} {result : Result}
variable {operation : Database → Except Error (Result × Database)}

theorem withTransaction_eq_ok :
    withTransaction ctx operation database = (.ok result, after) ↔
      ctx = .live ∧ operation database = .ok (result, after) := by
  unfold withTransaction
  cases ctx <;> cases operation database <;> simp [contextError, bind, Except.bind, Prod.ext_iff]

theorem withTransaction_failed (failed : operation database = .error err) :
    withTransaction .live operation database = (.error err, database) := by
  simp [withTransaction, contextError, failed, bind, Except.bind]

theorem withTransaction_stopped (stopped : contextError ctx = .error err) :
    withTransaction ctx operation database = (.error err, database) := by
  rw [withTransaction, stopped]
  rfl

theorem withTransaction_error
    (failed : withTransaction ctx operation database = (.error err, after)) : after = database := by
  unfold withTransaction at failed
  split at failed
  · exact (Prod.ext_iff.mp failed).2.symm
  · cases failed

theorem validated_eq_ok {check : Except Error Unit}
    {next : Database → Except Error Result × Database} :
    validated check next database = (.ok result, after) ↔
      check = .ok () ∧ next database = (.ok result, after) := by
  unfold validated
  cases check <;> simp

theorem validated_error {check : Except Error Unit}
    {next : Database → Except Error Result × Database}
    (unchanged : next database = (.error err, after) → after = database)
    (failed : validated check next database = (.error err, after)) : after = database := by
  unfold validated at failed
  split at failed
  · exact (Prod.ext_iff.mp failed).2.symm
  · exact unchanged failed

@[simp] theorem sql_eq_ok {statement : Except Violation Result} :
    sql statement = .ok result ↔ statement = .ok result := by
  cases statement <;> simp [sql]

@[simp] theorem cast_eq_ok {value : Option Result} :
    PostgresRepository.cast value = .ok result ↔ value = some result := by
  cases value <;> simp [PostgresRepository.cast, sql]

theorem insertOrConflict_eq_ok {Row : Type} {checked referenced : Bool} {conflicts : Row → Bool}
    {row : Row} {table rows : List Row} :
    insertOrConflict checked conflicts referenced row table = .ok rows ↔
      checked = true ∧ (∀ other ∈ table, conflicts other = false) ∧ referenced = true ∧
        rows = table ++ [row] := by
  rw [← insertOrIgnore_some, insertOrConflict, bind_eq_ok]
  simp only [sql_eq_ok]
  constructor
  · rintro ⟨_ | rows, statement, same⟩
    · cases same
    · rw [statement, Except.ok.inj same]
  · intro statement
    exact ⟨some rows, statement, rfl⟩

theorem rowsAffectedNotFound_ok {Row : Type} {wanted : Row → Bool} {table : List Row} :
    rowsAffectedNotFound (table.countP wanted) = .ok checked ↔
      ∃ row ∈ table, wanted row = true := by
  simp [rowsAffectedNotFound, refuseWhen_ok, List.countP_eq_zero]

theorem rowsAffectedConflict_ok {Row : Type} {wanted : Row → Bool} {table : List Row} :
    rowsAffectedConflict (table.countP wanted) = .ok checked ↔
      ∃ row ∈ table, wanted row = true := by
  simp [rowsAffectedConflict, refuseWhen_ok, List.countP_eq_zero]

end Transactions

theorem sortedUniqueStrings_eq_dedup (values : List String) :
    sortedUniqueStrings values =
      (sliceStable (fun left right : String => decide (left < right)) values).dedup := by
  have sorted := sliceStable_sorted_by (fun left right : String => decide (left < right)) id
    (fun left right => decide_eq_true_iff) values
  have ordered : (sliceStable (fun left right : String => decide (left < right)) values).Pairwise
      (· ≤ ·) :=
    sorted.imp fun notLess => not_lt.mp (of_decide_eq_false notLess)
  exact ordered.destutter_eq_dedup

theorem mem_sortedUniqueStrings {values : List String} {value : String} :
    value ∈ sortedUniqueStrings values ↔ value ∈ values := by
  rw [sortedUniqueStrings_eq_dedup, List.mem_dedup, mem_sliceStable]

theorem sortedUniqueStrings_nodup (values : List String) : (sortedUniqueStrings values).Nodup := by
  rw [sortedUniqueStrings_eq_dedup]
  exact List.nodup_dedup _

theorem lockEach_ok {present : String → Bool} {ids : List String} :
    (ids.forM fun id => refuseWhen (!present id) .notFound) = .ok checked ↔
      ∀ id ∈ ids, present id = true := by
  induction ids with
  | nil => simp [List.forM, pure, Except.pure]
  | cons id ids ih =>
    change (refuseWhen (!present id) .notFound >>= fun _ =>
      ids.forM fun id => refuseWhen (!present id) .notFound) = .ok checked ↔ _
    rw [check_eq_ok, refuseWhen_ok, ih, List.forall_mem_cons, Bool.not_eq_false']

theorem lockRows_ok {present : String → Bool} {ids : List String} :
    lockRows present ids = .ok checked ↔ ∀ id ∈ ids, present id = true := by
  rw [lockRows, lockEach_ok]
  simp only [mem_sortedUniqueStrings]

variable {networkID : String}

section Reading

variable {database : Database}

theorem hasNode_iff :
    database.hasNode nodeID = true ↔ (databaseTables database).HasNode nodeID := by
  simp [Database.hasNode, Tables.HasNode, databaseTables]

theorem hasNetwork_iff :
    database.hasNetwork networkID = true ↔ (databaseTables database).HasNetwork networkID := by
  simp [Database.hasNetwork, Tables.HasNetwork, databaseTables]

theorem hasMembership_iff :
    database.hasMembership networkID nodeID = true ↔
      (databaseTables database).HasMembership networkID nodeID := by
  simp [Database.hasMembership, Tables.HasMembership, databaseTables]

theorem lockNodeRows_ok {nodeIDs : List String} :
    lockNodeRows database nodeIDs = .ok checked ↔
      ∀ nodeID ∈ nodeIDs, (databaseTables database).HasNode nodeID := by
  simp only [lockNodeRows, lockRows_ok, hasNode_iff]

theorem lockNodeRow_ok :
    lockNodeRows database [nodeID] = .ok checked ↔ (databaseTables database).HasNode nodeID := by
  rw [lockNodeRows_ok, List.forall_mem_singleton]

theorem lockNetworkRows_ok {networkIDs : List String} :
    lockNetworkRows database networkIDs = .ok checked ↔
      ∀ networkID ∈ networkIDs, (databaseTables database).HasNetwork networkID := by
  simp only [lockNetworkRows, lockRows_ok, hasNetwork_iff]

theorem lockNetworkRow_ok :
    lockNetworkRows database [networkID] = .ok checked ↔
      (databaseTables database).HasNetwork networkID := by
  rw [lockNetworkRows_ok, List.forall_mem_singleton]

end Reading

def Countable (wanted : NetworkRow → Bool) (database : Database) : Prop :=
  ∀ row ∈ database.networks, wanted row = true →
    networkChecks row = true ∧ row.configVersion < maxInt64

def bumpWhere (wanted : NetworkRow → Bool) (database : Database) : Database :=
  { database with networks := updateWhere wanted nextVersion database.networks }

theorem incrementVersionsWhere_ok {wanted : NetworkRow → Bool} {database : Database}
    (countable : Countable wanted database) :
    incrementVersionsWhere wanted database = .ok (bumpWhere wanted database) := by
  have inRange : (database.networks.any fun row =>
      wanted row && decide (maxInt64 ≤ row.configVersion)) = false := by
    rw [List.any_eq_false]
    intro row member refused
    rw [Bool.and_eq_true, decide_eq_true_eq] at refused
    exact absurd (countable row member refused.1).2 (Int.not_lt.mpr refused.2)
  have accepted : updateChecked networkChecks wanted
      (fun row => { row with configVersion := row.configVersion + 1 }) database.networks =
        .ok (updateWhere wanted nextVersion database.networks) := by
    refine updateChecked_ok.mpr ⟨fun row member selected => ?_, rfl⟩
    have checked := (countable row member selected).1
    simp only [networkChecks, Bool.and_eq_true, decide_eq_true_eq] at checked ⊢
    exact ⟨checked.1, Int.lt_add_one_of_le (Int.le_of_lt checked.2)⟩
  rw [incrementVersionsWhere, inRange, accepted]
  rfl

theorem incrementNetworkVersion_eq_ok {database after : Database}
    (countable : Countable (fun row => row.id = networkID) database) :
    incrementNetworkVersion networkID database = .ok after ↔
      (databaseTables database).HasNetwork networkID ∧
        after = bumpWhere (fun row => row.id = networkID) database := by
  have moved := incrementVersionsWhere_ok countable
  simp only [incrementNetworkVersion, bind_eq_ok, moved, Except.ok.injEq,
    rowsAffectedNotFound_ok, decide_eq_true_eq]
  constructor
  · rintro ⟨_, rfl, _, present, rfl⟩
    exact ⟨present, rfl⟩
  · rintro ⟨present, rfl⟩
    exact ⟨_, rfl, (), present, rfl⟩

theorem mem_bumpOne {database : Database} {row : NetworkRow} (different : row.id ≠ networkID) :
    row ∈ (bumpWhere (fun row => row.id = networkID) database).networks ↔
      row ∈ database.networks := by
  simp only [bumpWhere, updateWhere, List.mem_map, decide_eq_true_eq]
  constructor
  · rintro ⟨old, stored, rfl⟩
    by_cases same : old.id = networkID
    · rw [if_pos same] at different
      exact absurd same different
    · rwa [if_neg same]
  · intro stored
    exact ⟨row, stored, if_neg different⟩

theorem incrementNetworkVersions_ok {networkIDs : List String} (distinct : networkIDs.Nodup)
    {database : Database} (countable : Countable (fun row => row.id ∈ networkIDs) database)
    (present : ∀ networkID ∈ networkIDs, (databaseTables database).HasNetwork networkID) :
    incrementNetworkVersions networkIDs database =
      .ok (bumpWhere (fun row => row.id ∈ networkIDs) database) := by
  induction networkIDs generalizing database with
  | nil => simp [incrementNetworkVersions, bumpWhere, updateWhere]
  | cons networkID networkIDs ih =>
    obtain ⟨fresh, distinctRest⟩ := List.nodup_cons.mp distinct
    obtain ⟨presentFirst, presentRest⟩ := List.forall_mem_cons.mp present
    have step := (incrementNetworkVersion_eq_ok fun row member selected =>
      countable row member (by simp [of_decide_eq_true selected])).mpr ⟨presentFirst, rfl⟩
    have rest : Countable (fun row => row.id ∈ networkIDs)
        (bumpWhere (fun row => row.id = networkID) database) := by
      intro row member selected
      have listed := of_decide_eq_true selected
      have different : row.id ≠ networkID := fun same => fresh (same ▸ listed)
      exact countable row ((mem_bumpOne different).mp member) (by simp [listed])
    have restPresent : ∀ other ∈ networkIDs, (databaseTables
        (bumpWhere (fun row => row.id = networkID) database)).HasNetwork other := by
      intro other listed
      obtain ⟨row, stored, rfl⟩ := presentRest other listed
      have different : row.id ≠ networkID := fun same => fresh (same ▸ listed)
      exact ⟨row, (mem_bumpOne different).mpr stored, rfl⟩
    have composed : bumpWhere (fun row => row.id ∈ networkIDs)
        (bumpWhere (fun row => row.id = networkID) database) =
          bumpWhere (fun row => row.id ∈ networkID :: networkIDs) database := by
      simp only [bumpWhere, updateWhere, List.map_map]
      congr 1
      refine List.map_congr_left fun row _ => ?_
      by_cases same : row.id = networkID
      · have unlisted : (nextVersion row).id ∉ networkIDs := same ▸ fresh
        simp [same, unlisted]
      · simp [same]
    rw [incrementNetworkVersions, step]
    exact (ih distinctRest rest restPresent).trans (congrArg _ composed)

def AllCountable (database : Database) : Prop :=
  ∀ row ∈ database.networks, networkChecks row = true ∧ row.configVersion < maxInt64

theorem AllCountable.moved {database changed after : Database} (all : AllCountable database)
    (kept : changed.networks = database.networks) :
    incrementNetworkVersion networkID changed = .ok after ↔
      (databaseTables database).HasNetwork networkID ∧
        after = bumpWhere (fun row => row.id = networkID) changed := by
  rw [incrementNetworkVersion_eq_ok fun row member _ => all row (kept ▸ member)]
  simp only [Tables.HasNetwork, databaseTables, kept]

theorem databaseTables_bumpWhere {wanted : NetworkRow → Bool} {selected : String → Prop}
    {database : Database} (same : ∀ row ∈ database.networks, wanted row = true ↔ selected row.id) :
    databaseTables (bumpWhere wanted database) =
      Tables.bump selected (databaseTables database) := by
  have networks : rowsOf (updateWhere wanted nextVersion database.networks) =
      updated (fun row => selected row.id) nextVersion (rowsOf database.networks) := by
    rw [rowsOf_updateWhere]
    exact updated_congr same
  exact congrArg (fun rows => { databaseTables database with networks := rows }) networks

theorem databaseTables_bumpOne (networkID : String) (database : Database) :
    databaseTables (bumpWhere (fun row => row.id = networkID) database) =
      Tables.bump (· = networkID) (databaseTables database) :=
  databaseTables_bumpWhere fun _ _ => decide_eq_true_iff

def started (network : Network) : Network :=
  { network with
    configVersion := if network.configVersion = 0 then 1 else network.configVersion }

/-- The state after the deletions of `RemoveMembership`, before the version moves. -/
def withoutMembership (database : Database) (networkID nodeID : String) : Database :=
  let cascaded := database.deleteMemberships fun row =>
    row.networkID = networkID && row.nodeID = nodeID
  { cascaded with
    relayAssignments := deleteWhere (fun row => row.networkID = networkID && namesNode nodeID row)
      cascaded.relayAssignments }

def revocable (inviteID : String) (row : InviteRow) : Bool :=
  row.id = inviteID && row.consumedAt.isNone && row.revokedAt.isNone

def revoke (revokedAt : Time) (row : InviteRow) : InviteRow :=
  { row with revokedAt := some revokedAt }

def consumable (database : Database) (value tokenHash : String) (time : Time) (row : InviteRow) :
    Bool :=
  inviteLookup database value tokenHash row && row.consumedAt.isNone && row.revokedAt.isNone &&
    row.createdAt ≤ time && time < row.expiresAt

def afterConsume (database : Database) (value tokenHash : String) (time : Time) (nodeID : String) :
    Database :=
  { database with
    invites := updateWhere (consumable database value tokenHash time) (consume time nodeID)
      database.invites }

def withoutEndpoints (database : Database) (nodeID : String) : Database :=
  { database with
    endpointCandidates := deleteWhere (fun row => row.nodeID = nodeID) database.endpointCandidates }

def withEndpoints (database : Database) (nodeID : String) (endpoints : List EndpointCandidate) :
    Database :=
  { database with
    endpointCandidates :=
      (withoutEndpoints database nodeID).endpointCandidates ++ endpoints.map endpointRow }

def sameTarget (row other : RelayRow) : Bool :=
  other.networkID = row.networkID && other.nodeID = row.nodeID

def upserted (row : RelayRow) (table : List RelayRow) : List RelayRow :=
  if table.any (sameTarget row) then
    updateWhere (sameTarget row)
      (fun other => { row with networkID := other.networkID, nodeID := other.nodeID }) table
  else table ++ [row]

def withRelay (database : Database) (row : RelayRow) : Database :=
  { database with relayAssignments := upserted row database.relayAssignments }

/-- The state after the deletion of `RemoveRelayAssignment`, before the version moves. -/
def withoutRelays (database : Database) (networkID : String) : Database :=
  { database with
    relayAssignments := deleteWhere (fun row => row.networkID = networkID)
      database.relayAssignments }

def leaves (database : Database) : Op → Database
  | .createNetwork _ network =>
    { database with networks := database.networks ++ [networkRow (started network)] }
  | .addNode _ node => { database with nodes := database.nodes ++ [nodeRow node] }
  | .touchNode _ nodeID lastSeen =>
    { database with
      nodes := updateWhere (fun row => row.id = nodeID)
        (fun row => { row with lastSeen := some lastSeen }) database.nodes }
  | .updateNodeClientVersion _ nodeID clientVersion =>
    { database with
      nodes := updateWhere (fun row => row.id = nodeID)
        (fun row => { row with clientVersion := clientVersion }) database.nodes }
  | .removeNode _ nodeID =>
    bumpWhere (fun row => row.id ∈ queryAffectedNetworkIDs database nodeID)
      (database.deleteNode nodeID)
  | .addMembership _ membership =>
    bumpWhere (fun row => row.id = membership.networkID) { database with
      memberships := database.memberships ++ [membershipRow membership] }
  | .removeMembership _ networkID nodeID =>
    bumpWhere (fun row => row.id = networkID) (withoutMembership database networkID nodeID)
  | .createInvite _ invite => { database with invites := database.invites ++ [inviteRow invite] }
  | .revokeInvite _ inviteID revokedAt =>
    { database with
      invites := updateWhere (revocable inviteID) (revoke revokedAt) database.invites }
  | .consumeInvite _ wall value tokenHash consumedAt =>
    afterConsume database value tokenHash (consumptionTime wall consumedAt) ""
  | .consumeInviteForNode _ wall value tokenHash consumedAt nodeID =>
    afterConsume database value tokenHash (consumptionTime wall consumedAt) nodeID
  | .replaceEndpoints _ nodeID endpoints =>
    bumpWhere (fun network => database.hasMembership network.id nodeID)
      (withEndpoints database nodeID endpoints)
  | .setRelayAssignment _ assignment =>
    bumpWhere (fun row => row.id = assignment.networkID)
      (withRelay database (relayRow assignment))
  | .removeRelayAssignment _ networkID =>
    bumpWhere (fun row => row.id = networkID) (withoutRelays database networkID)

def Meets (database : Database) (op : Op) : Prop :=
  ∀ after, apply op database = (.ok (), after) ↔
    accepts (databaseTables database) op ∧ after = leaves database op

theorem apply_error {op : Op} {database after : Database}
    (failed : apply op database = (.error err, after)) : after = database := by
  cases op with
  | createNetwork | addNode | touchNode | updateNodeClientVersion | addMembership | createInvite
  | revokeInvite | replaceEndpoints | setRelayAssignment =>
    exact validated_error withTransaction_error failed
  | removeNode =>
    unfold apply removeNode at failed
    exact withTransaction_error failed
  | removeMembership =>
    unfold apply removeMembership at failed
    exact withTransaction_error failed
  | removeRelayAssignment =>
    unfold apply removeRelayAssignment at failed
    exact withTransaction_error failed
  | consumeInvite => exact dropResult_error (fun _ => withTransaction_error) failed
  | consumeInviteForNode ctx wall value tokenHash consumedAt nodeID =>
    refine dropResult_error (fun other outcome => ?_) failed
    unfold consumeInviteForNode at outcome
    split_ifs at outcome with empty
    · exact withTransaction_error outcome
    · exact withTransaction_error outcome

section Nodes

variable {database : Database} {ctx : Context}

theorem networkRow_checked {network : Network} (valid : validateNetwork network = .ok ()) :
    cidrIn network.ipv4Pool = some (networkRow (started network)).ipv4Pool ∧
      networkChecks (networkRow (started network)) = true := by
  simp only [validateNetwork, required, invalidWhen_bind_ok, Bool.not_eq_false',
    decide_eq_false_iff_not, Int.not_lt] at valid
  obtain ⟨-, -, -, -, canonical, mask32, nonneg, -⟩ := valid
  obtain ⟨value, bits, read, -, -⟩ := pool_stored canonical mask32
  have positive : 0 < (started network).configVersion := by
    simp only [started]
    split_ifs <;> omega
  constructor
  · simp [networkRow, started, read]
  · have family : (networkRow (started network)).ipv4Pool.family = 4 := by
      simp [networkRow, started, read, Inet.family, Addr.is4]
    rw [networkChecks, Bool.and_eq_true]
    exact ⟨decide_eq_true family, decide_eq_true positive⟩

theorem createNetwork_meets {network : Network} :
    Meets database (.createNetwork ctx network) := by
  intro after
  simp only [apply, leaves, createNetwork, validated_eq_ok, withTransaction_eq_ok, bind_eq_ok,
    cast_eq_ok, insertOrConflict_eq_ok, Except.ok.injEq, Prod.mk.injEq, true_and, accepts,
    Tables.HasNetwork, decide_eq_false_iff_not, not_exists, not_and]
  constructor
  · rintro ⟨valid, live, pool, read, _, ⟨-, fresh, rfl⟩, rfl⟩
    obtain rfl := Option.some.inj (read.symm.trans (networkRow_checked valid).1)
    exact ⟨⟨live, valid, fresh⟩, rfl⟩
  · rintro ⟨⟨live, valid, fresh⟩, rfl⟩
    obtain ⟨read, checked⟩ := networkRow_checked valid
    exact ⟨valid, live, _, read, _, ⟨checked, fresh, rfl⟩, rfl⟩

theorem addNode_meets {node : Node} : Meets database (.addNode ctx node) := by
  intro after
  simp only [apply, leaves, addNode, validated_eq_ok, withTransaction_eq_ok, bind_eq_ok,
    insertOrConflict_eq_ok, Except.ok.injEq, Prod.mk.injEq, true_and, accepts,
    Bool.or_eq_false_iff, decide_eq_false_iff_not]
  constructor
  · rintro ⟨valid, live, _, ⟨fresh, rfl⟩, rfl⟩
    exact ⟨⟨live, valid, fresh⟩, rfl⟩
  · rintro ⟨⟨live, valid, fresh⟩, rfl⟩
    exact ⟨valid, live, _, ⟨fresh, rfl⟩, rfl⟩

theorem updateNode_eq_ok {assign : NodeRow → NodeRow} {after : Database} :
    updateNode nodeID assign database = .ok ((), after) ↔
      (databaseTables database).HasNode nodeID ∧
        after = { database with
          nodes := updateWhere (fun row => row.id = nodeID) assign database.nodes } := by
  simp only [updateNode, bind_eq_ok, sql_eq_ok, updateChecked_ok, rowsAffectedNotFound_ok,
    decide_eq_true_eq, implies_true, true_and, Except.ok.injEq, Prod.mk.injEq]
  constructor
  · rintro ⟨_, rfl, _, present, rfl⟩
    exact ⟨present, rfl⟩
  · rintro ⟨present, rfl⟩
    exact ⟨_, rfl, (), present, rfl⟩

theorem touchNode_meets {lastSeen : Time} :
    Meets database (.touchNode ctx nodeID lastSeen) := by
  intro after
  simp only [apply, leaves, touchNode, validated_eq_ok, refuseWhen_ok, withTransaction_eq_ok,
    updateNode_eq_ok, accepts]
  tauto

theorem updateNodeClientVersion_meets {nodeID clientVersion : String} :
    Meets database (.updateNodeClientVersion ctx nodeID clientVersion) := by
  intro after
  simp only [apply, leaves, updateNodeClientVersion, validated_eq_ok, refuseWhen_ok,
    decide_eq_false_iff_not, withTransaction_eq_ok, updateNode_eq_ok, accepts]
  tauto

theorem affected_iff :
    networkID ∈ queryAffectedNetworkIDs database nodeID ↔
      (databaseTables database).Affected nodeID networkID := by
  simp only [queryAffectedNetworkIDs, mem_sortedUniqueStrings, List.mem_append, List.mem_map,
    List.mem_filter, decide_eq_true_eq, namesNode, Bool.or_eq_true, Tables.Affected,
    Tables.HasMembership, databaseTables, mem_rowsOf]
  constructor
  · intro listed
    rcases listed with ⟨row, ⟨member, node⟩, network⟩ | ⟨row, ⟨member, names⟩, network⟩
    · exact Or.inl ⟨row, member, network, node⟩
    · exact Or.inr ⟨row, member, network, names⟩
  · intro affected
    rcases affected with ⟨row, member, network, node⟩ | ⟨row, member, network, names⟩
    · exact Or.inl ⟨row, ⟨member, node⟩, network⟩
    · exact Or.inr ⟨row, ⟨member, names⟩, network⟩

theorem affected_present (consistent : Consistent (databaseTables database))
    (affected : (databaseTables database).Affected nodeID networkID) :
    (databaseTables database).HasNetwork networkID := by
  rcases affected with ⟨row, member, rfl, -⟩ | ⟨row, member, rfl, -⟩
  · exact consistent.memberNetwork row member
  · obtain ⟨target, targetMember, network, -⟩ := consistent.relayTarget row member
    exact network ▸ consistent.memberNetwork target targetMember

theorem databaseTables_deleteNode (nodeID : String) :
    databaseTables (database.deleteNode nodeID) =
      { nodes := without (fun row => row.id = nodeID) (databaseTables database).nodes
        networks := (databaseTables database).networks
        memberships :=
          without (fun row => row.nodeID = nodeID) (databaseTables database).memberships
        invites := updated (fun row => row.consumedByNodeID = some nodeID)
          (fun row => { row with consumedByNodeID := none }) (databaseTables database).invites
        endpointCandidates := without (fun row => row.nodeID = nodeID)
          (databaseTables database).endpointCandidates
        relayAssignments := without (fun row => row.nodeID = nodeID ∨ row.relayNodeID = nodeID)
          (databaseTables database).relayAssignments } := by
  ext1
  · exact (rowsOf_deleteWhere _ _).trans (without_congr fun row _ => decide_eq_true_iff)
  · rfl
  · exact (rowsOf_deleteWhere _ _).trans (without_congr fun row _ => decide_eq_true_iff)
  · exact (rowsOf_updateWhere _ _ _).trans (updated_congr fun row _ => decide_eq_true_iff)
  · exact (rowsOf_deleteWhere _ _).trans (without_congr fun row _ => decide_eq_true_iff)
  · -- the composite foreign keys reach only assignments that name the node
    refine (rowsOf_deleteWhere _ _).trans ?_
    rw [show (database.deleteMemberships fun row => row.nodeID = nodeID).relayAssignments =
      deleteWhere _ database.relayAssignments from rfl, rowsOf_deleteWhere, without_without]
    refine without_congr fun row _ => ?_
    simp only [List.any_eq_true, Bool.and_eq_true, Bool.or_eq_true, decide_eq_true_eq, namesNode]
    constructor
    · intro either
      rcases either with ⟨membership, -, ⟨node, -⟩, target | relay⟩ | names
      · exact Or.inl (target.symm.trans node)
      · exact Or.inr (relay.symm.trans node)
      · exact names
    · exact Or.inr

theorem removeNode_meets (consistent : Consistent (databaseTables database))
    (all : AllCountable database) : Meets database (.removeNode ctx nodeID) := by
  intro after
  have networks : ∀ networkID ∈ queryAffectedNetworkIDs database nodeID,
      (databaseTables database).HasNetwork networkID := fun networkID listed =>
    affected_present consistent (affected_iff.mp listed)
  have moved : incrementNetworkVersions (queryAffectedNetworkIDs database nodeID)
      (database.deleteNode nodeID) = .ok (bumpWhere
        (fun row => row.id ∈ queryAffectedNetworkIDs database nodeID)
        (database.deleteNode nodeID)) :=
    incrementNetworkVersions_ok (sortedUniqueStrings_nodup _)
      (fun row member _ => all row member) networks
  simp only [apply, leaves, removeNode, withTransaction_eq_ok, bind_eq_ok, lockNodeRow_ok,
    lockNetworkRows_ok, rowsAffectedNotFound_ok, decide_eq_true_eq, moved, Except.ok.injEq,
    Prod.mk.injEq, true_and, accepts]
  constructor
  · rintro ⟨live, _, present, _, -, _, -, _, rfl, rfl⟩
    exact ⟨⟨live, present⟩, rfl⟩
  · rintro ⟨⟨live, present⟩, rfl⟩
    exact ⟨live, (), present, (), networks, (), present, _, rfl, rfl⟩

end Nodes

section Memberships

variable {database : Database} {ctx : Context}
variable (consistent : Consistent (databaseTables database)) (all : AllCountable database)
include consistent

theorem readPool_eq_ok {pool : String} :
    lockNetworkAndReadIPv4Pool database networkID = .ok pool ↔
      ∃ row ∈ database.networks, row.id = networkID ∧ cidrText row.ipv4Pool = pool := by
  simp only [lockNetworkAndReadIPv4Pool, found_bind_ok, Except.ok.injEq, and_assoc,
    find?_eq_some_of_columns consistent.network fun row => decide_eq_true_iff]

variable {membership : Membership}

omit consistent in
theorem membershipRow_written (valid : validateMembership membership = .ok ()) :
    ∃ address, inetIn (text ((to4 membership.virtualIPv4).getD [])) = some address ∧
      membershipRow membership =
        ⟨membership.networkID, membership.nodeID, address, membership.role, membership.status⟩ := by
  obtain ⟨bytes, converted⟩ := validateMembership_to4 valid
  obtain ⟨long, sized⟩ := to16_of_to4 (to4_of_length (to4_length converted))
  refine ⟨_, by rw [converted, Option.getD_some, inetIn_text sized], ?_⟩
  rw [membershipRow, converted, Option.getD_some, hostValue_eq sized]

omit consistent in
theorem membershipRow_checked (valid : validateMembership membership = .ok ()) :
    membershipChecks (membershipRow membership) = true := by
  obtain ⟨bytes, converted⟩ := validateMembership_to4 valid
  have family : (membershipRow membership).virtualIPv4.family = 4 := by
    rw [membershipRow, converted, Option.getD_some, hostValue_to4 converted]
    exact family_of_to4 converted
  simp only [validateMembership, required, invalidWhen_bind_ok, invalidWhen_ok,
    Bool.not_eq_false'] at valid
  obtain ⟨-, -, -, role, status⟩ := valid
  simp only [membershipChecks, family, decide_true, Bool.true_and, Bool.and_eq_true]
  exact ⟨role, status⟩

include all in
theorem addMembership_meets :
    Meets database (.addMembership ctx membership) := by
  intro after
  simp only [apply, leaves, addMembership, validated_eq_ok, withTransaction_eq_ok, bind_eq_ok,
    lockNodeRow_ok, readPool_eq_ok consistent, cast_eq_ok, insertOrConflict_eq_ok,
    Except.ok.injEq, Prod.mk.injEq, true_and, accepts]
  constructor
  · rintro ⟨valid, live, _, present, _, ⟨network, member, named, rfl⟩, _, inPool, address, read, _,
      ⟨-, free, -, rfl⟩, _, increment, rfl⟩
    obtain ⟨stored, readAgain, written⟩ := membershipRow_written valid
    obtain rfl := Option.some.inj (read.symm.trans readAgain)
    rw [← written] at increment
    obtain ⟨-, rfl⟩ := (all.moved (by rfl)).mp increment
    refine ⟨⟨live, valid, present, ⟨network, member, named, inPool⟩, ?_⟩, rfl⟩
    intro row rowMember same
    rw [written]
    have noConflict := free row rowMember
    simpa [same] using noConflict
  · rintro ⟨⟨live, valid, present, ⟨network, member, named, inPool⟩, free⟩, rfl⟩
    obtain ⟨address, read, written⟩ := membershipRow_written valid
    have checked := membershipRow_checked valid
    have hasNetwork : (databaseTables database).HasNetwork membership.networkID :=
      ⟨network, member, named⟩
    have referenced : (database.hasNetwork membership.networkID &&
        database.hasNode membership.nodeID) = true := by
      rw [Bool.and_eq_true, hasNetwork_iff, hasNode_iff]
      exact ⟨hasNetwork, present⟩
    have increment := (@AllCountable.moved membership.networkID database { database with
      memberships := database.memberships ++ [membershipRow membership] } _ all rfl).mpr
        ⟨hasNetwork, rfl⟩
    rw [written] at checked free increment ⊢
    have noConflict : ∀ other ∈ database.memberships,
        (decide (other.networkID = membership.networkID) &&
          (decide (other.nodeID = membership.nodeID) ||
            decide (other.virtualIPv4 = address))) = false := by
      intro row rowMember
      by_cases same : row.networkID = membership.networkID
      · simpa [same] using free row rowMember same
      · simp [same]
    exact ⟨valid, live, (), present, _, ⟨network, member, named, rfl⟩, (), inPool, address, read, _,
      ⟨checked, noConflict, referenced, rfl⟩, _, increment, rfl⟩

omit consistent in
theorem databaseTables_withoutMembership (networkID nodeID : String) :
    databaseTables (withoutMembership database networkID nodeID) =
      { databaseTables database with
        memberships := without (fun row => row.networkID = networkID ∧ row.nodeID = nodeID)
          (databaseTables database).memberships
        relayAssignments := without (fun row => row.networkID = networkID ∧
          (row.nodeID = nodeID ∨ row.relayNodeID = nodeID))
          (databaseTables database).relayAssignments } := by
  ext1
  · rfl
  · rfl
  · refine (rowsOf_deleteWhere _ _).trans (without_congr fun row _ => ?_)
    simp only [Bool.and_eq_true, decide_eq_true_eq]
  · rfl
  · rfl
  · -- the composite foreign keys reach only assignments that name the member
    refine (rowsOf_deleteWhere _ _).trans ?_
    rw [show (database.deleteMemberships fun row =>
        row.networkID = networkID && row.nodeID = nodeID).relayAssignments =
      deleteWhere _ database.relayAssignments from rfl, rowsOf_deleteWhere, without_without]
    refine without_congr fun row _ => ?_
    simp only [List.any_eq_true, Bool.and_eq_true, Bool.or_eq_true, decide_eq_true_eq, namesNode]
    constructor
    · intro either
      rcases either with ⟨membership, -, ⟨⟨network, node⟩, sameNetwork⟩, target | relay⟩ | names
      · exact ⟨sameNetwork.symm.trans network, Or.inl (target.symm.trans node)⟩
      · exact ⟨sameNetwork.symm.trans network, Or.inr (relay.symm.trans node)⟩
      · exact names
    · exact Or.inr

include all in
theorem removeMembership_meets :
    Meets database (.removeMembership ctx networkID nodeID) := by
  intro after
  simp only [apply, leaves, removeMembership, withTransaction_eq_ok, bind_eq_ok, lockNodeRow_ok,
    lockNetworkRow_ok, rowsAffectedNotFound_ok, Bool.and_eq_true, decide_eq_true_eq,
    Except.ok.injEq, Prod.mk.injEq, true_and, accepts]
  constructor
  · rintro ⟨live, _, -, _, -, _, present, _, increment, rfl⟩
    obtain ⟨-, rfl⟩ := (all.moved (by rfl)).mp increment
    exact ⟨⟨live, present⟩, rfl⟩
  · rintro ⟨⟨live, present⟩, rfl⟩
    have references : (databaseTables database).HasNode nodeID ∧
        (databaseTables database).HasNetwork networkID := by
      obtain ⟨row, member, rfl, rfl⟩ := present
      exact ⟨consistent.memberNode row member, consistent.memberNetwork row member⟩
    exact ⟨live, (), references.1, (), references.2, (), present, _,
      (all.moved (by rfl)).mpr ⟨references.2, rfl⟩, rfl⟩

end Memberships

section Invites

variable {database : Database} {ctx : Context}

theorem consumerKnown_iff :
    (nullIfEmpty nodeID).all database.hasNode = true ↔
      (databaseTables database).ConsumerKnown nodeID := by
  unfold nullIfEmpty Tables.ConsumerKnown
  split_ifs with empty
  · simp [empty]
  · simp [empty, hasNode_iff]

theorem lockConsumer_ok :
    lockConsumer database nodeID = .ok checked ↔
      (databaseTables database).ConsumerKnown nodeID := by
  unfold lockConsumer Tables.ConsumerKnown
  by_cases empty : nodeID = ""
  · simp [empty]
  · simp [empty, lockNodeRows_ok]

theorem lockConsumer_unknown
    (unknown : ¬(databaseTables database).ConsumerKnown nodeID) :
    lockConsumer database nodeID = .error (.sentinel .notFound) := by
  have named : nodeID ≠ "" := fun empty => unknown fun named => absurd empty named
  have absent : database.hasNode nodeID = false := by
    rw [← Bool.not_eq_true, hasNode_iff]
    exact fun present => unknown fun _ => present
  simp [lockConsumer, named, lockNodeRows, lockRows, sortedUniqueStrings, sliceStable, absent,
    refuseWhen, bind, Except.bind]

theorem inviteRow_checked {invite : Invite} (valid : validateInvite invite = .ok ()) :
    inviteChecks (inviteRow invite) = true := by
  simp only [validateInvite, required, invalidWhen_bind_ok, invalidWhen_ok, Bool.or_eq_false_iff,
    Option.any_eq_false, decide_eq_false_iff_not, Int.not_le, Int.not_lt,
    Bool.and_eq_false_iff] at valid
  obtain ⟨-, -, -, -, ⟨-, order⟩, consumed, revoked, lifecycle, consumer⟩ := valid
  simp only [inviteChecks, inviteRow, Bool.and_eq_true, Option.all_eq_true, Bool.or_eq_true,
    Bool.not_eq_true', Bool.and_eq_false_iff]
  refine ⟨⟨⟨⟨decide_eq_true order,
    fun time consumedAt => decide_eq_true (consumed time consumedAt)⟩,
    fun time revokedAt => decide_eq_true (revoked time revokedAt)⟩, ?_⟩, lifecycle⟩
  unfold nullIfEmpty
  split_ifs with empty
  · exact Or.inl rfl
  · right
    simpa [empty] using consumer

theorem createInvite_meets {invite : Invite} :
    Meets database (.createInvite ctx invite) := by
  intro after
  simp only [apply, leaves, createInvite, validated_eq_ok, withTransaction_eq_ok, bind_eq_ok,
    lockConsumer_ok, lockNetworkRow_ok, insertOrConflict_eq_ok, Except.ok.injEq, Prod.mk.injEq,
    true_and, accepts, Bool.or_eq_false_iff, decide_eq_false_iff_not]
  constructor
  · rintro ⟨valid, live, _, known, _, network, _, ⟨-, fresh, -, rfl⟩, rfl⟩
    exact ⟨⟨live, valid, network, known, fresh⟩, rfl⟩
  · rintro ⟨⟨live, valid, network, known, fresh⟩, rfl⟩
    have referenced : (database.hasNetwork invite.networkID &&
        (nullIfEmpty invite.consumedByNodeID).all database.hasNode) = true := by
      rw [Bool.and_eq_true, hasNetwork_iff, consumerKnown_iff]
      exact ⟨network, known⟩
    exact ⟨valid, live, (), known, (), network, _,
      ⟨inviteRow_checked valid, fresh, referenced, rfl⟩, rfl⟩

variable {row : InviteRow}

theorem revocable_iff {inviteID : String} :
    revocable inviteID row = true ↔
      row.id = inviteID ∧ row.consumedAt = none ∧ row.revokedAt = none := by
  simp [revocable, and_assoc]

theorem revoke_checked {revokedAt : Time} (checked : inviteChecks row = true)
    (unconsumed : row.consumedAt = none) (later : row.createdAt ≤ revokedAt) :
    inviteChecks (revoke revokedAt row) = true := by
  simp only [inviteChecks, Bool.and_eq_true] at checked ⊢
  obtain ⟨⟨⟨⟨order, -⟩, -⟩, consumer⟩, -⟩ := checked
  simp [revoke, unconsumed, later] at consumer ⊢
  exact ⟨of_decide_eq_true order, consumer⟩

theorem revokeInvite_meets (consistent : Consistent (databaseTables database))
    (valid : RowsValid (databaseTables database))
    (keys : (database.invites.map InviteRow.id).Nodup) {inviteID : String} {revokedAt : Time}
    (later : ∀ row ∈ database.invites, row.id = inviteID → row.createdAt ≤ revokedAt) :
    Meets database (.revokeInvite ctx inviteID revokedAt) := by
  intro after
  have checked : updateChecked inviteChecks (revocable inviteID) (revoke revokedAt)
      database.invites =
        .ok (updateWhere (revocable inviteID) (revoke revokedAt) database.invites) := by
    refine updateChecked_ok.mpr ⟨fun row member wanted => ?_, rfl⟩
    obtain ⟨named, unconsumed, -⟩ := revocable_iff.mp wanted
    exact revoke_checked (valid.invites row member) unconsumed (later row member named)
  have counted : database.invites.countP (revocable inviteID) = 1 ↔
      ∃ row ∈ database.invites, revocable inviteID row = true :=
    countP_eq_one_iff keys fun row wanted => (revocable_iff.mp wanted).1
  have stays : ¬database.invites.countP (revocable inviteID) = 1 →
      updateWhere (revocable inviteID) (revoke revokedAt) database.invites = database.invites := by
    intro none
    refine updateWhere_of_none fun row member => ?_
    rw [← Bool.not_eq_true]
    exact fun wanted => none (counted.mpr ⟨row, member, wanted⟩)
  change validated _ (withTransaction ctx fun database => do
    let invites ← sql (updateChecked inviteChecks (revocable inviteID) (revoke revokedAt)
      database.invites)
    if database.invites.countP (revocable inviteID) = 1 then
      .ok ((), { database with invites := invites })
    else do
      let row ← found (database.invites.find? fun row => row.id = inviteID)
      refuseWhen row.consumedAt.isSome .inviteConsumed
      if row.revokedAt.isSome then .ok ((), database)
      else .error (.sentinel .conflict)) database = _ ↔ _
  rw [validated_eq_ok, withTransaction_eq_ok, refuseWhen_ok, checked]
  simp only [sql, bind_eq_ok, Except.ok.injEq, exists_eq_left', accepts, leaves]
  constructor
  · rintro ⟨present, live, result⟩
    split_ifs at result with one
    · obtain ⟨row, member, wanted⟩ := counted.mp one
      obtain ⟨named, unconsumed, -⟩ := revocable_iff.mp wanted
      obtain ⟨-, rfl⟩ := Prod.mk.inj (Except.ok.inj result)
      exact ⟨⟨live, present, row, member, named, unconsumed⟩, rfl⟩
    · simp only [found_bind_ok, check_eq_ok, refuseWhen_ok, Option.isSome_eq_false_iff,
        Option.isNone_iff_eq_none,
        find?_eq_some_of_columns consistent.invite fun row => decide_eq_true_iff] at result
      obtain ⟨row, ⟨member, named⟩, unconsumed, result⟩ := result
      split_ifs at result with revoked
      obtain ⟨-, rfl⟩ := Prod.mk.inj (Except.ok.inj result)
      refine ⟨⟨live, present, row, member, named, unconsumed⟩, ?_⟩
      rw [stays one]
  · rintro ⟨⟨live, present, row, member, named, unconsumed⟩, rfl⟩
    refine ⟨present, live, ?_⟩
    split_ifs with one
    · rfl
    · have lookup : database.invites.find? (fun row => decide (row.id = inviteID)) = some row :=
        (find?_eq_some_of_columns consistent.invite fun row => decide_eq_true_iff).mpr
          ⟨member, named⟩
      have revoked : row.revokedAt.isSome = true := by
        rw [← Option.ne_none_iff_isSome]
        exact fun unrevoked => one (counted.mpr
          ⟨row, member, revocable_iff.mpr ⟨named, unconsumed, unrevoked⟩⟩)
      rw [lookup, stays one]
      simp [found, refuseWhen, unconsumed, revoked, bind, Except.bind]

theorem inviteLookup_iff {value tokenHash : String} :
    inviteLookup database value tokenHash row = true ↔
      (databaseTables database).Presented value tokenHash row := by
  simp only [inviteLookup, Tables.Presented, databaseTables, mem_rowsOf, Bool.and_eq_true,
    Bool.or_eq_true, decide_eq_true_eq, Bool.not_eq_true', List.any_eq_false, not_exists, not_and]

theorem consumable_iff {value tokenHash : String} {time : Time} :
    consumable database value tokenHash time row = true ↔
      (databaseTables database).Presented value tokenHash row ∧ Open time row := by
  simp only [consumable, Bool.and_eq_true, inviteLookup_iff, Option.isNone_iff_eq_none, Open,
    and_assoc]
  refine and_congr Iff.rfl (and_congr Iff.rfl (and_congr Iff.rfl (and_congr ?_ ?_)))
  · exact decide_eq_true_iff
  · exact decide_eq_true_iff

theorem consume_checked {time : Time} (checked : inviteChecks row = true)
    (open_ : Open time row) :
    inviteChecks (consume time nodeID row) = true := by
  obtain ⟨-, unrevoked, started, -⟩ := open_
  simp only [inviteChecks, Bool.and_eq_true] at checked ⊢
  obtain ⟨⟨⟨⟨order, -⟩, -⟩, -⟩, -⟩ := checked
  simp [consume, unrevoked, started]
  exact of_decide_eq_true order

section Consume

variable (consistent : Consistent (databaseTables database))
variable (valid : RowsValid (databaseTables database)) {value tokenHash : String}
variable {time : Time} (known : (databaseTables database).ConsumerKnown nodeID)
include consistent

omit consistent in
include valid known in
theorem consumeInviteWithExecutor_eq :
    consumeInviteWithExecutor value tokenHash time nodeID database =
      match database.invites.find? (consumable database value tokenHash time) with
      | some row => .ok (scanInviteRow (consume time nodeID row),
          afterConsume database value tokenHash time nodeID)
      | none => found (database.invites.find? (inviteLookup database value tokenHash)) >>=
          fun state => .error (.sentinel (classifyInvite time (scanInviteRow state))) := by
  have accepted : updateChecked
      (fun row => inviteChecks row && row.consumedByNodeID.all database.hasNode)
      (consumable database value tokenHash time) (consume time nodeID) database.invites =
        .ok (updateWhere (consumable database value tokenHash time) (consume time nodeID)
          database.invites) := by
    refine updateChecked_ok.mpr ⟨fun row member wanted => ?_, rfl⟩
    rw [Bool.and_eq_true]
    exact ⟨consume_checked (valid.invites row member) (consumable_iff.mp wanted).2,
      consumerKnown_iff.mpr known⟩
  change (do
    let invites ← sql (updateChecked
      (fun row => inviteChecks row && row.consumedByNodeID.all database.hasNode)
      (consumable database value tokenHash time) (consume time nodeID) database.invites)
    match database.invites.find? (consumable database value tokenHash time) with
    | some row =>
      .ok (scanInviteRow (consume time nodeID row), { database with invites := invites })
    | none => do
        let state ← found (database.invites.find? (inviteLookup database value tokenHash))
        .error (.sentinel (classifyInvite time (scanInviteRow state)))) = _
  rw [accepted]
  rfl

theorem presented_unique : ∀ left ∈ database.invites, ∀ right ∈ database.invites,
    inviteLookup database value tokenHash left = true →
      inviteLookup database value tokenHash right = true → left = right := by
  intro left leftMember right rightMember leftPresented rightPresented
  exact consistent.token left leftMember right rightMember
    ((inviteLookup_iff.mp leftPresented).2.trans (inviteLookup_iff.mp rightPresented).2.symm)

include valid known in
theorem consume_presented (member : row ∈ database.invites)
    (presented : (databaseTables database).Presented value tokenHash row) :
    consumeInviteWithExecutor value tokenHash time nodeID database =
      (settle time nodeID row).map fun invite =>
        (invite, afterConsume database value tokenHash time nodeID) := by
  rw [consumeInviteWithExecutor_eq valid known]
  have lookup : database.invites.find? (inviteLookup database value tokenHash) = some row :=
    (find?_eq_some_of_unique (presented_unique consistent)).mpr
      ⟨member, inviteLookup_iff.mpr presented⟩
  have unique : ∀ left ∈ database.invites, ∀ right ∈ database.invites,
      consumable database value tokenHash time left = true →
        consumable database value tokenHash time right = true → left = right := by
    intro left leftMember right rightMember leftWanted rightWanted
    exact presented_unique consistent left leftMember right rightMember
      (inviteLookup_iff.mpr (consumable_iff.mp leftWanted).1)
      (inviteLookup_iff.mpr (consumable_iff.mp rightWanted).1)
  by_cases open_ : Open time row
  · have found_ : database.invites.find? (consumable database value tokenHash time) = some row :=
      (find?_eq_some_of_unique unique).mpr ⟨member, consumable_iff.mpr ⟨presented, open_⟩⟩
    rw [found_, settle, if_pos open_]
    rfl
  · have missed : database.invites.find? (consumable database value tokenHash time) = none := by
      rw [List.find?_eq_none]
      intro other otherMember wanted
      obtain ⟨otherPresented, otherOpen⟩ := consumable_iff.mp wanted
      rw [presented_unique consistent other otherMember row member
        (inviteLookup_iff.mpr otherPresented) (inviteLookup_iff.mpr presented)] at otherOpen
      exact open_ otherOpen
    rw [missed, lookup, settle, if_neg open_]
    rfl

omit consistent in
include valid known in
theorem consume_unknown
    (missing : ¬∃ row ∈ database.invites, (databaseTables database).Presented value tokenHash row) :
    consumeInviteWithExecutor value tokenHash time nodeID database =
      .error (.sentinel .notFound) := by
  rw [consumeInviteWithExecutor_eq valid known]
  have lookup : database.invites.find? (inviteLookup database value tokenHash) = none := by
    rw [List.find?_eq_none]
    exact fun row member wanted => missing ⟨row, member, inviteLookup_iff.mp wanted⟩
  have missed : database.invites.find? (consumable database value tokenHash time) = none := by
    rw [List.find?_eq_none]
    exact fun row member wanted => missing ⟨row, member, (consumable_iff.mp wanted).1⟩
  rw [missed, lookup]
  rfl

omit consistent in
theorem consumeInviteForNode_eq (ctx : Context) (wall consumedAt : Time) :
    consumeInviteForNode ctx wall value tokenHash consumedAt nodeID database =
      withTransaction ctx (fun state => lockConsumer state nodeID >>= fun _ =>
        consumeInviteWithExecutor value tokenHash (consumptionTime wall consumedAt) nodeID state)
        database := by
  unfold consumeInviteForNode lockConsumer
  by_cases empty : nodeID = ""
  · subst empty
    rfl
  · simp only [empty, if_false, ne_eq, not_false_eq_true, if_true]

variable {consumedAt : Time}

include valid in
theorem consumeInviteForNode_presented {wall : Time}
    (known : (databaseTables database).ConsumerKnown nodeID) (member : row ∈ database.invites)
    (presented : (databaseTables database).Presented value tokenHash row) :
    consumeInviteForNode .live wall value tokenHash consumedAt nodeID database =
      match settle (consumptionTime wall consumedAt) nodeID row with
      | .error err => (.error err, database)
      | .ok invite => (.ok invite, afterConsume database value tokenHash
          (consumptionTime wall consumedAt) nodeID) := by
  have body : (lockConsumer database nodeID >>= fun _ => consumeInviteWithExecutor value tokenHash
      (consumptionTime wall consumedAt) nodeID database) =
        (settle (consumptionTime wall consumedAt) nodeID row).map fun invite =>
          (invite, afterConsume database value tokenHash (consumptionTime wall consumedAt)
            nodeID) := by
    have locked : lockConsumer database nodeID = .ok () := lockConsumer_ok.mpr known
    rw [locked, ← consume_presented consistent valid known member presented]
    rfl
  rw [consumeInviteForNode_eq]
  cases settled : settle (consumptionTime wall consumedAt) nodeID row with
  | error err =>
    rw [settled] at body
    exact withTransaction_failed body
  | ok invite =>
    rw [settled] at body
    exact withTransaction_eq_ok.mpr ⟨rfl, body⟩

omit consistent in
include valid in
theorem consumeInviteForNode_missing {wall : Time}
    (missing : ¬((databaseTables database).ConsumerKnown nodeID ∧
      ∃ row ∈ database.invites, (databaseTables database).Presented value tokenHash row)) :
    consumeInviteForNode .live wall value tokenHash consumedAt nodeID database =
      (.error (.sentinel .notFound), database) := by
  rw [consumeInviteForNode_eq]
  apply withTransaction_failed
  by_cases known : (databaseTables database).ConsumerKnown nodeID
  · have locked : lockConsumer database nodeID = .ok () := lockConsumer_ok.mpr known
    rw [locked]
    exact consume_unknown valid known fun present => missing ⟨known, present⟩
  · rw [lockConsumer_unknown known]
    rfl

include valid in
theorem consumeInviteForNode_outcome (ctx : Context) (wall consumedAt : Time) :
    ConsumeOutcome (databaseTables database) ctx value tokenHash (consumptionTime wall consumedAt)
      nodeID (consumeInviteForNode ctx wall value tokenHash consumedAt nodeID database).1 := by
  cases live : contextError ctx with
  | error err =>
    rw [consumeInviteForNode_eq, withTransaction_stopped live]
    exact .cancelled err live
  | ok _ =>
    obtain rfl : ctx = .live := contextError_ok.mp live
    by_cases present : (databaseTables database).ConsumerKnown nodeID ∧
        ∃ row ∈ database.invites, (databaseTables database).Presented value tokenHash row
    · obtain ⟨known, row, member, presented⟩ := present
      have result : (consumeInviteForNode .live wall value tokenHash consumedAt nodeID
          database).1 = settle (consumptionTime wall consumedAt) nodeID row := by
        rw [consumeInviteForNode_presented consistent valid known member presented]
        cases settle (consumptionTime wall consumedAt) nodeID row <;> rfl
      rw [result]
      exact .settled rfl known row member presented
    · rw [consumeInviteForNode_missing valid present]
      exact .unknown rfl present

include valid in
theorem consumeInviteForNode_meets {wall : Time} :
    Meets database (.consumeInviteForNode ctx wall value tokenHash consumedAt nodeID) := by
  intro after
  refine dropResult_eq_ok.trans ?_
  constructor
  · rintro ⟨invite, outcome⟩
    have live : ctx = .live := by
      rw [consumeInviteForNode_eq, withTransaction_eq_ok] at outcome
      exact outcome.1
    subst live
    by_cases present : (databaseTables database).ConsumerKnown nodeID ∧
        ∃ row ∈ database.invites, (databaseTables database).Presented value tokenHash row
    · obtain ⟨known, row, member, presented⟩ := present
      rw [consumeInviteForNode_presented consistent valid known member presented] at outcome
      by_cases open_ : Open (consumptionTime wall consumedAt) row
      · rw [settle, if_pos open_] at outcome
        exact ⟨⟨rfl, known, row, member, presented, open_⟩, (Prod.mk.inj outcome).2.symm⟩
      · rw [settle, if_neg open_] at outcome
        cases outcome
    · rw [consumeInviteForNode_missing valid present] at outcome
      cases outcome
  · rintro ⟨⟨rfl, known, row, member, presented, open_⟩, rfl⟩
    refine ⟨scanInviteRow (consume (consumptionTime wall consumedAt) nodeID row), ?_⟩
    rw [consumeInviteForNode_presented consistent valid known member presented, settle,
      if_pos open_, leaves]

omit consistent in
theorem consumeInvite_eq (ctx : Context) (wall consumedAt : Time) :
    consumeInvite ctx wall value tokenHash consumedAt database =
      consumeInviteForNode ctx wall value tokenHash consumedAt "" database := by
  rw [consumeInviteForNode, if_pos rfl]

include valid in
theorem consumeInvite_meets {wall : Time} :
    Meets database (.consumeInvite ctx wall value tokenHash consumedAt) := by
  intro after
  rw [accepts_consumeInvite, apply, consumeInvite_eq]
  exact consumeInviteForNode_meets consistent valid after

end Consume

end Invites

theorem address_written {model : String} {address : IP} {family : EndpointFamily}
    (valid : validateEndpointAddress model address family = .ok ()) :
    inetIn (text address) = some (hostValue address) ∧
      familyMatches (endpointFamilyNumber family) (hostValue address) = true := by
  obtain ⟨long, sized⟩ := validateEndpointAddress_to16 valid
  refine ⟨by rw [hostValue_eq sized, inetIn_text sized], ?_⟩
  rcases validateEndpointAddress_ok valid with ⟨rfl, bytes, converted⟩ | ⟨rfl, other, long, sized⟩
  · simp [familyMatches, endpointFamilyNumber, family_of_to4 converted]
  · simp [familyMatches, endpointFamilyNumber, family_of_to16 sized other]

theorem port_checked {port : UInt16} (valid : ¬port = 0) :
    1 ≤ port.toNat ∧ port.toNat ≤ 65535 := by
  have nonzero : port.toNat ≠ 0 := fun zero => valid (UInt16.toNat_inj.mp zero)
  have bounded := port.toNat_lt
  omega

section Endpoints

variable {database : Database}

theorem endpointRow_checked {endpoint : EndpointCandidate}
    (valid : validateEndpointCandidate endpoint = .ok ()) :
    endpointChecks (endpointRow endpoint) = true := by
  have family := (address_written (validateEndpointCandidate_address valid)).2
  simp only [validateEndpointCandidate, required, check_eq_ok, invalidWhen_ok,
    Bool.or_eq_false_iff, decide_eq_false_iff_not, Int.not_lt] at valid
  obtain ⟨-, -, port, -, ⟨low, high⟩, -⟩ := valid
  simp only [endpointChecks, Bool.and_eq_true, decide_eq_true_eq]
  exact ⟨⟨⟨port_checked port, low⟩, high⟩, family⟩

theorem insertEndpoint_eq_ok {endpoint : EndpointCandidate} {after : Database}
    (valid : validateEndpointCandidate endpoint = .ok ()) :
    insertEndpoint endpoint database = .ok after ↔
      (∀ other ∈ database.endpointCandidates, other.nodeID = endpoint.nodeID →
        endpointColumns other ≠ endpointColumns (endpointRow endpoint)) ∧
      (databaseTables database).HasNode endpoint.nodeID ∧
      after = { database with
        endpointCandidates := database.endpointCandidates ++ [endpointRow endpoint] } := by
  have read := (address_written (validateEndpointCandidate_address valid)).1
  have conflicts : ∀ other : EndpointRow,
      (decide (other.nodeID = endpoint.nodeID)
        && decide (other.address = hostValue endpoint.address)
        && decide (other.port = endpoint.port.toNat)
        && decide (other.interfaceName = endpoint.interface)) = false ↔
      (other.nodeID = endpoint.nodeID →
        endpointColumns other ≠ endpointColumns (endpointRow endpoint)) := by
    intro other
    rw [← Bool.not_eq_true]
    simp only [Bool.and_eq_true, decide_eq_true_eq, endpointColumns, endpointRow, ne_eq,
      Prod.mk.injEq, and_assoc, not_and]
  have checked := endpointRow_checked valid
  have insert : ∀ rows, insertOrConflict (endpointChecks (endpointRow endpoint))
        (fun other => decide (other.nodeID = endpoint.nodeID) &&
          decide (other.address = hostValue endpoint.address) &&
          decide (other.port = endpoint.port.toNat) &&
          decide (other.interfaceName = endpoint.interface))
        (database.hasNode endpoint.nodeID) (endpointRow endpoint) database.endpointCandidates =
          .ok rows ↔
      (∀ other ∈ database.endpointCandidates, other.nodeID = endpoint.nodeID →
        endpointColumns other ≠ endpointColumns (endpointRow endpoint)) ∧
      (databaseTables database).HasNode endpoint.nodeID ∧
      rows = database.endpointCandidates ++ [endpointRow endpoint] := by
    intro rows
    simp only [insertOrConflict_eq_ok, checked, true_and, conflicts, hasNode_iff]
  rw [insertEndpoint, read]
  change (insertOrConflict (endpointChecks (endpointRow endpoint)) _
    (database.hasNode endpoint.nodeID) (endpointRow endpoint) database.endpointCandidates >>=
      fun rows => Except.ok { database with endpointCandidates := rows }) = .ok after ↔ _
  rw [bind_eq_ok]
  constructor
  · rintro ⟨rows, statement, same⟩
    obtain ⟨free, present, rfl⟩ := (insert rows).mp statement
    exact ⟨free, present, (Except.ok.inj same).symm⟩
  · rintro ⟨free, present, rfl⟩
    exact ⟨_, (insert _).mpr ⟨free, present, rfl⟩, rfl⟩

variable {endpoints : List EndpointCandidate}

theorem insertEndpoints_eq_ok {after : Database}
    (valid : ∀ endpoint ∈ endpoints, endpoint.nodeID = nodeID ∧
      validateEndpointCandidate endpoint = .ok ())
    (present : (databaseTables database).HasNode nodeID) :
    insertEndpoints endpoints database = .ok after ↔
      (endpoints.map fun endpoint => endpointColumns (endpointRow endpoint)).Nodup ∧
      (∀ endpoint ∈ endpoints, ∀ other ∈ database.endpointCandidates, other.nodeID = nodeID →
        endpointColumns other ≠ endpointColumns (endpointRow endpoint)) ∧
      after = { database with
        endpointCandidates := database.endpointCandidates ++ endpoints.map endpointRow } := by
  induction endpoints generalizing database with
  | nil => simp [insertEndpoints, eq_comm]
  | cons endpoint endpoints ih =>
    obtain ⟨⟨named, first⟩, rest⟩ := List.forall_mem_cons.mp valid
    have head : ∀ target, insertEndpoint endpoint database = .ok target ↔
        (∀ other ∈ database.endpointCandidates, other.nodeID = nodeID →
          endpointColumns other ≠ endpointColumns (endpointRow endpoint)) ∧
        target = { database with
          endpointCandidates := database.endpointCandidates ++ [endpointRow endpoint] } := by
      intro target
      rw [insertEndpoint_eq_ok first, named]
      simp only [present, true_and]
    have stillPresent : (databaseTables { database with endpointCandidates :=
        database.endpointCandidates ++ [endpointRow endpoint] }).HasNode nodeID := present
    rw [insertEndpoints, bind_eq_ok, List.map_cons, List.nodup_cons, List.forall_mem_cons]
    constructor
    · rintro ⟨target, statement, others⟩
      obtain ⟨free, rfl⟩ := (head target).mp statement
      obtain ⟨distinct, restFree, rfl⟩ := (ih rest stillPresent).mp others
      refine ⟨⟨?_, distinct⟩, ⟨free, ?_⟩, by simp⟩
      · intro listed
        obtain ⟨twin, member, same⟩ := List.mem_map.mp listed
        exact restFree twin member (endpointRow endpoint)
          (List.mem_append_right _ (List.mem_singleton.mpr rfl)) named same.symm
      · intro other member stored storedMember
        exact restFree other member stored (List.mem_append_left _ storedMember)
    · rintro ⟨⟨fresh, distinct⟩, ⟨free, restFree⟩, rfl⟩
      refine ⟨_, (head _).mpr ⟨free, rfl⟩, (ih rest stillPresent).mpr ⟨distinct, ?_, by simp⟩⟩
      intro other member stored storedMember
      rcases List.mem_append.mp storedMember with old | new
      · exact restFree other member stored old
      · obtain rfl := List.mem_singleton.mp new
        intro _ same
        exact fresh (List.mem_map.mpr ⟨other, member, same.symm⟩)

theorem validateEndpoints_ok :
    validateEndpoints nodeID endpoints = .ok checked ↔
      ∀ endpoint ∈ endpoints, endpoint.nodeID = nodeID ∧
        validateEndpointCandidate endpoint = .ok () := by
  induction endpoints with
  | nil => simp [validateEndpoints]
  | cons endpoint endpoints ih =>
    rw [validateEndpoints, check_eq_ok, check_eq_ok, refuseWhen_ok, ih, List.forall_mem_cons,
      and_assoc, decide_eq_false_iff_not, not_not]

theorem replaceEndpoints_meets (consistent : Consistent (databaseTables database))
    (all : AllCountable database) {ctx : Context} :
    Meets database (.replaceEndpoints ctx nodeID endpoints) := by
  intro after
  have networks : ∀ networkID ∈ queryMembershipNetworkIDs database nodeID,
      (databaseTables database).HasNetwork networkID := by
    intro networkID listed
    rw [queryMembershipNetworkIDs, mem_sortedUniqueStrings] at listed
    obtain ⟨row, member, rfl⟩ := List.mem_map.mp listed
    exact consistent.memberNetwork row (List.mem_filter.mp member).1
  have deleted : ∀ row ∈ (withoutEndpoints database nodeID).endpointCandidates,
      row.nodeID ≠ nodeID := by
    intro row member
    simpa using (List.mem_filter.mp member).2
  have inserts : ∀ target, (∀ endpoint ∈ endpoints, endpoint.nodeID = nodeID ∧
        validateEndpointCandidate endpoint = .ok ()) →
      (databaseTables database).HasNode nodeID →
      (insertEndpoints endpoints (withoutEndpoints database nodeID) = .ok target ↔
        (endpoints.map fun endpoint => endpointColumns (endpointRow endpoint)).Nodup ∧
          target = withEndpoints database nodeID endpoints) := by
    intro target valid present
    have stillPresent : (databaseTables (withoutEndpoints database nodeID)).HasNode nodeID :=
      present
    rw [insertEndpoints_eq_ok valid stillPresent]
    refine and_congr_right fun _ => and_iff_right ?_
    exact fun _ _ row member same => absurd same (deleted row member)
  have moved : incrementVersionsWhere (fun network => database.hasMembership network.id nodeID)
      (withEndpoints database nodeID endpoints) = .ok (bumpWhere
        (fun network => database.hasMembership network.id nodeID)
        (withEndpoints database nodeID endpoints)) :=
    incrementVersionsWhere_ok fun row member _ => all row member
  simp only [apply, leaves, replaceEndpoints, validated_eq_ok, validateEndpoints_ok,
    withTransaction_eq_ok, bind_eq_ok, lockNodeRow_ok, lockNetworkRows_ok, accepts]
  constructor
  · rintro ⟨valid, live, _, present, _, -, target, inserted, _, increment, same⟩
    obtain ⟨distinct, rfl⟩ := (inserts target valid present).mp inserted
    obtain ⟨-, rfl⟩ := Prod.mk.inj (Except.ok.inj same)
    exact ⟨⟨live, present, valid, distinct⟩, Except.ok.inj (increment.symm.trans moved)⟩
  · rintro ⟨⟨live, present, valid, distinct⟩, rfl⟩
    exact ⟨valid, live, (), present, (), networks, _, (inserts _ valid present).mpr ⟨distinct, rfl⟩,
      _, moved, rfl⟩

end Endpoints

section Relays

variable {database : Database} (consistent : Consistent (databaseTables database))

include consistent in
theorem ensureActiveMembership_ok :
    ensureActiveMembership database networkID nodeID = .ok checked ↔
      (databaseTables database).ActiveMembership networkID nodeID := by
  have lookup : ∀ row, database.memberships.find? (fun row =>
        decide (row.networkID = networkID) && decide (row.nodeID = nodeID)) = some row ↔
      row ∈ database.memberships ∧ (row.networkID, row.nodeID) = (networkID, nodeID) := fun row =>
    @find?_eq_some_of_columns _ _ _ _ (fun row => (row.networkID, row.nodeID)) _ _
      (fun left leftMember right rightMember same => consistent.member left leftMember right
        rightMember (congrArg Prod.fst same) (congrArg Prod.snd same))
      fun row => by simp
  simp only [ensureActiveMembership, found_bind_ok, lookup, Prod.mk.injEq, refuseWhen_ok,
    decide_eq_false_iff_not, not_not, Tables.ActiveMembership, and_assoc, ne_eq]
  exact Iff.rfl

variable {assignment : RelayAssignment}

theorem relayRow_checked (valid : validateRelayAssignment assignment = .ok ()) :
    inetIn (text assignment.address) = some (hostValue assignment.address) ∧
      relayChecks (relayRow assignment) = true := by
  simp only [validateRelayAssignment, required, check_eq_ok, invalidWhen_ok, Option.any_eq_false,
    decide_eq_false_iff_not, Bool.not_eq_false', Int.not_le] at valid
  obtain ⟨-, -, -, -, differs, address, port, status, -, expires⟩ := valid
  obtain ⟨read, family⟩ := address_written address
  refine ⟨read, ?_⟩
  simp only [relayChecks, Bool.and_eq_true, decide_eq_true_eq, Option.all_eq_true]
  exact ⟨⟨⟨⟨port_checked port, status⟩, differs⟩, family⟩, expires⟩

theorem sameTarget_iff {row other : RelayRow} :
    sameTarget row other = true ↔ other.networkID = row.networkID ∧ other.nodeID = row.nodeID := by
  simp [sameTarget]

theorem rowsOf_upserted (row : RelayRow) (table : List RelayRow) :
    rowsOf (upserted row table) =
      insert row (without (fun other => other.networkID = row.networkID ∧
        other.nodeID = row.nodeID) (rowsOf table)) := by
  have keeps : ∀ other : RelayRow, sameTarget row other = true →
      { row with networkID := other.networkID, nodeID := other.nodeID } = row := by
    intro other same
    obtain ⟨network, node⟩ := sameTarget_iff.mp same
    rw [network, node]
  unfold upserted
  split_ifs with some_
  · obtain ⟨target, targetMember, same⟩ := List.any_eq_true.mp some_
    rw [rowsOf_updateWhere]
    ext other
    rw [mem_updated, Set.mem_insert_iff, mem_without]
    constructor
    · rintro ⟨old, member, ⟨selected, rfl⟩ | ⟨unselected, rfl⟩⟩
      · exact Or.inl (keeps old selected)
      · exact Or.inr ⟨member, fun both => unselected (sameTarget_iff.mpr both)⟩
    · intro either
      rcases either with rfl | ⟨member, different⟩
      · exact ⟨target, targetMember, Or.inl ⟨same, (keeps target same).symm⟩⟩
      · exact ⟨other, member, Or.inr ⟨fun selected => different (sameTarget_iff.mp selected), rfl⟩⟩
  · rw [rowsOf_append]
    congr 1
    ext other
    rw [mem_without]
    refine (and_iff_left_of_imp fun member both => some_ ?_).symm
    exact List.any_eq_true.mpr ⟨other, member, sameTarget_iff.mpr both⟩

@[simp] theorem checkUnique_ok {violated : Bool} :
    checkUnique violated = .ok checked ↔ violated = false := by
  cases violated <;> simp [checkUnique]

theorem updateRelayAssignment_eq_ok {row : RelayRow} {after : Database}
    (checked : relayChecks row = true) (referenced : relayReferences database row = true) :
    updateRelayAssignment row database = .ok after ↔
      database.relayAssignments.any (sameTarget row) = true ∧
      (∀ other ∈ database.relayAssignments, other.id = row.id → sameTarget row other = true) ∧
      after = { database with
        relayAssignments := upserted row database.relayAssignments } := by
  have accepted : updateChecked
      (fun updated => relayChecks updated && relayReferences database updated) (sameTarget row)
      (fun other => { row with networkID := other.networkID, nodeID := other.nodeID })
      database.relayAssignments = .ok (updateWhere (sameTarget row)
        (fun other => { row with networkID := other.networkID, nodeID := other.nodeID })
        database.relayAssignments) := by
    refine updateChecked_ok.mpr ⟨fun other _ selected => ?_, rfl⟩
    obtain ⟨network, node⟩ := sameTarget_iff.mp selected
    rw [network, node, checked, referenced]
    rfl
  have unique : (∀ other ∈ database.relayAssignments, other.id = row.id →
        sameTarget row other = true) ↔
      (database.relayAssignments.any fun other =>
        !sameTarget row other && decide (other.id = row.id)) = false := by
    rw [List.any_eq_false]
    refine forall₂_congr fun other _ => ?_
    cases sameTarget row other <;> simp
  rw [unique, updateRelayAssignment]
  change (sql (checkUnique (database.relayAssignments.any (sameTarget row) &&
      database.relayAssignments.any fun other =>
        !sameTarget row other && decide (other.id = row.id))) >>= fun _ =>
    sql (updateChecked
      (fun updated => relayChecks updated && relayReferences database updated) (sameTarget row)
      (fun other => { row with networkID := other.networkID, nodeID := other.nodeID })
      database.relayAssignments) >>= fun rows =>
    rowsAffectedConflict (database.relayAssignments.countP (sameTarget row)) >>= fun _ =>
    Except.ok { database with relayAssignments := rows }) = .ok after ↔ _
  rw [accepted, check_eq_ok, sql_eq_ok, checkUnique_ok]
  change _ ∧ (rowsAffectedConflict (database.relayAssignments.countP (sameTarget row)) >>= fun _ =>
    Except.ok _) = .ok after ↔ _
  rw [check_eq_ok, rowsAffectedConflict_ok, ← List.any_eq_true, Except.ok.injEq, upserted]
  cases some_ : database.relayAssignments.any (sameTarget row) with
  | false => simp
  | true =>
    simp only [Bool.true_and, if_true, true_and]
    constructor
    · intro done
      exact ⟨done.1, done.2.symm⟩
    · intro done
      exact ⟨done.1, done.2.symm⟩

theorem upsertRelayAssignment_eq_ok {after : Database}
    (valid : validateRelayAssignment assignment = .ok ())
    (referenced : relayReferences database (relayRow assignment) = true) :
    upsertRelayAssignment assignment database = .ok after ↔
      (∀ row ∈ database.relayAssignments, row.id = assignment.id →
        row.networkID = assignment.networkID ∧ row.nodeID = assignment.nodeID) ∧
      after = { database with
        relayAssignments := upserted (relayRow assignment) database.relayAssignments } := by
  obtain ⟨read, checked⟩ := relayRow_checked valid
  have places : (∀ row ∈ database.relayAssignments, row.id = assignment.id →
        row.networkID = assignment.networkID ∧ row.nodeID = assignment.nodeID) ↔
      ∀ row ∈ database.relayAssignments, row.id = (relayRow assignment).id →
        sameTarget (relayRow assignment) row = true := by
    simp only [sameTarget_iff]
    exact Iff.rfl
  rw [places, upsertRelayAssignment, read]
  change (sql (insertOrIgnore (relayChecks (relayRow assignment))
      (fun other => decide (other.id = (relayRow assignment).id) ||
        sameTarget (relayRow assignment) other)
      (relayReferences database (relayRow assignment)) (relayRow assignment)
      database.relayAssignments) >>= _) = .ok after ↔ _
  by_cases conflict : ∃ other ∈ database.relayAssignments,
      (decide (other.id = (relayRow assignment).id) ||
        sameTarget (relayRow assignment) other) = true
  · -- the insertion is skipped: the row of the target is updated in place
    rw [insertOrIgnore_none.mpr ⟨checked, conflict⟩]
    change (refuseWhen _ .conflict >>= fun _ =>
      updateRelayAssignment (relayRow assignment) database) = .ok after ↔ _
    rw [check_eq_ok, refuseWhen_ok, updateRelayAssignment_eq_ok checked referenced]
    constructor
    · intro done
      exact done.2.2
    · intro accepted
      refine ⟨?_, ?_, accepted⟩
      · rw [Option.any_eq_false]
        intro other lookup
        have named : other.id = assignment.id := by simpa using List.find?_some lookup
        obtain ⟨network, node⟩ :=
          places.mpr accepted.1 other (List.mem_of_find?_eq_some lookup) named
        simp [network, node]
      · obtain ⟨other, member, clash⟩ := conflict
        refine List.any_eq_true.mpr ⟨other, member, ?_⟩
        rcases (Bool.or_eq_true _ _).mp clash with named | place
        · exact accepted.1 other member (of_decide_eq_true named)
        · exact place
  · have free : ∀ other ∈ database.relayAssignments,
        (decide (other.id = (relayRow assignment).id) ||
          sameTarget (relayRow assignment) other) = false := by
      intro other member
      rw [← Bool.not_eq_true]
      exact fun clash => conflict ⟨other, member, clash⟩
    have noTarget : database.relayAssignments.any (sameTarget (relayRow assignment)) = false := by
      rw [List.any_eq_false]
      intro other member place
      exact conflict ⟨other, member, by rw [place, Bool.or_true]⟩
    have noName : ∀ row ∈ database.relayAssignments, row.id = (relayRow assignment).id →
        sameTarget (relayRow assignment) row = true := by
      intro row member named
      exact absurd ⟨row, member, by rw [decide_eq_true named, Bool.true_or]⟩ conflict
    rw [insertOrIgnore_some.mpr ⟨checked, free, referenced, rfl⟩, upserted, noTarget]
    constructor
    · intro done
      exact ⟨noName, (Except.ok.inj done).symm⟩
    · intro accepted
      rw [accepted.2]
      rfl

variable (all : AllCountable database)

include consistent all in
theorem setRelayAssignment_meets {ctx : Context} :
    Meets database (.setRelayAssignment ctx assignment) := by
  intro after
  have references : (databaseTables database).HasNetwork assignment.networkID →
      (databaseTables database).HasNode assignment.nodeID →
      (databaseTables database).HasNode assignment.relayNodeID →
      (databaseTables database).ActiveMembership assignment.networkID assignment.nodeID →
      (databaseTables database).ActiveMembership assignment.networkID assignment.relayNodeID →
        relayReferences database (relayRow assignment) = true := by
    intro network node relay activeNode activeRelay
    obtain ⟨target, targetMember, targetNetwork, targetNode, -⟩ := activeNode
    obtain ⟨other, otherMember, otherNetwork, otherNode, -⟩ := activeRelay
    simp only [relayReferences, Bool.and_eq_true, hasNetwork_iff, hasNode_iff, hasMembership_iff]
    exact ⟨⟨⟨⟨network, node⟩, relay⟩, target, targetMember, targetNetwork, targetNode⟩, other,
      otherMember, otherNetwork, otherNode⟩
  simp only [apply, leaves, setRelayAssignment, validated_eq_ok, withTransaction_eq_ok, bind_eq_ok,
    lockNodeRows_ok, List.mem_pair, forall_eq_or_imp, forall_eq, lockNetworkRow_ok,
    ensureActiveMembership_ok consistent, accepts]
  constructor
  · rintro ⟨valid, live, _, ⟨node, relay⟩, _, network, _, activeNode, _, activeRelay, target,
      upsert, _, increment, same⟩
    obtain ⟨unique, rfl⟩ := (upsertRelayAssignment_eq_ok valid
      (references network node relay activeNode activeRelay)).mp upsert
    obtain ⟨-, rfl⟩ := (all.moved (by rfl)).mp increment
    exact ⟨⟨live, valid, network, node, relay, activeNode, activeRelay, unique⟩,
      (Prod.mk.inj (Except.ok.inj same)).2.symm⟩
  · rintro ⟨⟨live, valid, network, node, relay, activeNode, activeRelay, unique⟩, rfl⟩
    have upsert := (upsertRelayAssignment_eq_ok valid
      (references network node relay activeNode activeRelay)).mpr ⟨unique, rfl⟩
    exact ⟨valid, live, (), ⟨node, relay⟩, (), network, (), activeNode, (), activeRelay, _, upsert,
      _, (all.moved (by rfl)).mpr ⟨network, rfl⟩, rfl⟩

include consistent all in
theorem removeRelayAssignment_meets {ctx : Context} :
    Meets database (.removeRelayAssignment ctx networkID) := by
  intro after
  have nodes : ∀ nodeID ∈ queryRelayAssignmentNodeIDs database networkID,
      (databaseTables database).HasNode nodeID := by
    intro nodeID listed
    rw [queryRelayAssignmentNodeIDs, mem_sortedUniqueStrings, List.mem_append] at listed
    rcases listed with target | relay
    · obtain ⟨row, member, rfl⟩ := List.mem_map.mp target
      obtain ⟨membership, stored, -, node⟩ :=
        consistent.relayTarget row (List.mem_filter.mp member).1
      exact node ▸ consistent.memberNode membership stored
    · obtain ⟨row, member, rfl⟩ := List.mem_map.mp relay
      obtain ⟨membership, stored, -, node⟩ :=
        consistent.relayRelay row (List.mem_filter.mp member).1
      exact node ▸ consistent.memberNode membership stored
  simp only [apply, leaves, removeRelayAssignment, withTransaction_eq_ok, bind_eq_ok,
    lockNodeRows_ok, lockNetworkRow_ok, rowsAffectedNotFound_ok, decide_eq_true_eq, accepts]
  constructor
  · rintro ⟨live, _, -, _, -, _, present, _, increment, same⟩
    obtain ⟨-, rfl⟩ := (all.moved (by rfl)).mp increment
    exact ⟨⟨live, present⟩, (Prod.mk.inj (Except.ok.inj same)).2.symm⟩
  · rintro ⟨⟨live, present⟩, rfl⟩
    have network : (databaseTables database).HasNetwork networkID := by
      obtain ⟨row, member, rfl⟩ := present
      obtain ⟨membership, stored, sameNetwork, -⟩ := consistent.relayTarget row member
      exact sameNetwork ▸ consistent.memberNetwork membership stored
    exact ⟨live, (), nodes, (), network, (), present, _, (all.moved (by rfl)).mpr ⟨network, rfl⟩,
      rfl⟩

end Relays

section Methods

variable {database : Database}

theorem rowsOf_updateColumn {Row Key : Type} [DecidableEq Key] (column : Row → Key) (key : Key)
    (assign : Row → Row) (table : List Row) :
    rowsOf (updateWhere (fun row => column row = key) assign table) =
      updated (fun row => column row = key) assign (rowsOf table) :=
  (rowsOf_updateWhere _ _ _).trans (updated_congr fun _ _ => decide_eq_true_iff)

theorem databaseTables_leaves (database : Database) (op : Op) :
    databaseTables (leaves database op) = effect (databaseTables database) op := by
  cases op with
  | createNetwork ctx network =>
    exact congrArg (fun rows => { databaseTables database with networks := rows })
      (rowsOf_append _ _)
  | addNode ctx node =>
    exact congrArg (fun rows => { databaseTables database with nodes := rows })
      (rowsOf_append _ _)
  | touchNode | updateNodeClientVersion =>
    exact congrArg (fun rows => { databaseTables database with nodes := rows })
      (rowsOf_updateColumn NodeRow.id _ _ _)
  | removeNode ctx nodeID =>
    have wanted : ∀ row ∈ (database.deleteNode nodeID).networks,
        decide (row.id ∈ queryAffectedNetworkIDs database nodeID) = true ↔
          (databaseTables database).Affected nodeID row.id := by
      intro row _
      rw [decide_eq_true_iff, affected_iff]
    rw [leaves, databaseTables_bumpWhere wanted, databaseTables_deleteNode, effect]
  | addMembership ctx membership =>
    rw [leaves, databaseTables_bumpOne]
    exact congrArg (fun rows => Tables.bump (· = membership.networkID)
      { databaseTables database with memberships := rows }) (rowsOf_append _ _)
  | removeMembership ctx networkID nodeID =>
    rw [leaves, databaseTables_bumpOne, databaseTables_withoutMembership, effect]
  | createInvite ctx invite =>
    exact congrArg (fun rows => { databaseTables database with invites := rows })
      (rowsOf_append _ _)
  | revokeInvite ctx inviteID revokedAt =>
    exact congrArg (fun rows => { databaseTables database with invites := rows })
      ((rowsOf_updateWhere _ _ _).trans (updated_congr fun row _ => revocable_iff))
  | consumeInvite | consumeInviteForNode =>
    exact congrArg (fun rows => { databaseTables database with invites := rows })
      ((rowsOf_updateWhere _ _ _).trans (updated_congr fun row _ => consumable_iff))
  | replaceEndpoints ctx nodeID endpoints =>
    have candidates : rowsOf (withEndpoints database nodeID endpoints).endpointCandidates =
        without (fun row => row.nodeID = nodeID) (rowsOf database.endpointCandidates) ∪
          {row | ∃ endpoint ∈ endpoints, endpointRow endpoint = row} := by
      ext row
      simp [withEndpoints, withoutEndpoints, deleteWhere]
    have wanted : ∀ row ∈ (withEndpoints database nodeID endpoints).networks,
        database.hasMembership row.id nodeID = true ↔
          (databaseTables database).HasMembership row.id nodeID := fun _ _ => hasMembership_iff
    rw [leaves, @databaseTables_bumpWhere _ ((databaseTables database).HasMembership · nodeID) _
      wanted]
    exact congrArg (fun rows => Tables.bump ((databaseTables database).HasMembership · nodeID)
      { databaseTables database with endpointCandidates := rows }) candidates
  | setRelayAssignment ctx assignment =>
    rw [leaves, databaseTables_bumpOne]
    exact congrArg (fun rows => Tables.bump (· = assignment.networkID)
      { databaseTables database with relayAssignments := rows }) (rowsOf_upserted _ _)
  | removeRelayAssignment ctx networkID =>
    rw [leaves, databaseTables_bumpOne]
    exact congrArg (fun rows => Tables.bump (· = networkID)
      { databaseTables database with relayAssignments := rows })
      ((rowsOf_deleteWhere _ _).trans (without_congr fun row _ => decide_eq_true_iff))

variable (consistent : Consistent (databaseTables database))
  (valid : RowsValid (databaseTables database)) (keys : (database.invites.map InviteRow.id).Nodup)
  {op : Op} (admissible : Admissible (databaseTables database) op)
include consistent valid keys admissible

theorem database_meets : Meets database op := by
  have all : AllCountable database := fun row member =>
    ⟨valid.networks row member, admissible.below row member⟩
  cases op with
  | createNetwork => exact createNetwork_meets
  | addNode => exact addNode_meets
  | touchNode => exact touchNode_meets
  | updateNodeClientVersion => exact updateNodeClientVersion_meets
  | removeNode => exact removeNode_meets consistent all
  | addMembership => exact addMembership_meets consistent all
  | removeMembership => exact removeMembership_meets consistent all
  | createInvite => exact createInvite_meets
  | revokeInvite ctx inviteID revokedAt =>
    exact revokeInvite_meets consistent valid keys (admissible.revoked ctx inviteID revokedAt rfl)
  | consumeInvite => exact consumeInvite_meets consistent valid
  | consumeInviteForNode => exact consumeInviteForNode_meets consistent valid
  | replaceEndpoints => exact replaceEndpoints_meets consistent all
  | setRelayAssignment => exact setRelayAssignment_meets consistent all
  | removeRelayAssignment => exact removeRelayAssignment_meets consistent all

theorem database_refines :
    Refines databaseTables (apply op database) (databaseTables database) op where
  accepted after succeeded := by
    obtain ⟨accepted, rfl⟩ := (database_meets consistent valid keys admissible after).mp succeeded
    exact ⟨accepted, databaseTables_leaves database op⟩
  succeeds accepted :=
    ⟨_, (database_meets consistent valid keys admissible _).mpr ⟨accepted, rfl⟩⟩
  refused err after failed := by rw [apply_error failed]

end Methods

end Ipv6Mesh.DbPostgresTables
