import Ipv6Mesh.DbRows

/-!
# The PostgreSQL repository

The mutations of `internal/db/postgres.go` as their SQL statements over the
tables, constraints and cascades of `schema.sql`. A method is one transaction,
also where the source issues its single statement outside of one, and an error
leaves the database as it was. Connections and commits do not fail here; an
error of the database itself is an external error.
-/

namespace Ipv6Mesh.PostgresRepository

open GoText GoNet ControlModel ControlValidation
open DbMemory (refuseWhen found consumptionTime Op dropResult)
open DbRows SqlTable

structure Database where
  nodes : List NodeRow
  networks : List NetworkRow
  memberships : List MembershipRow
  invites : List InviteRow
  endpointCandidates : List EndpointRow
  relayAssignments : List RelayRow

def Database.empty : Database := ⟨[], [], [], [], [], []⟩

def violationText : Violation → String
  | .check => "violates check constraint"
  | .unique => "violates unique constraint"
  | .foreignKey => "violates foreign key constraint"
  | .outOfRange => "out of range"
  | .invalidText => "invalid input syntax"

def sql {Result : Type} : Except Violation Result → Except Error Result
  | .ok result => .ok result
  | .error violation => .error (.external (violationText violation))

def cast {Value : Type} : Option Value → Except Error Value
  | some value => .ok value
  | none => sql (.error .invalidText)

def withTransaction {Result : Type} (ctx : Context)
    (operation : Database → Except Error (Result × Database)) (database : Database) :
    Except Error Result × Database :=
  match (do contextError ctx
            operation database) with
  | .error err => (.error err, database)
  | .ok (result, after) => (.ok result, after)

def validated {Result : Type} (check : Except Error Unit)
    (operation : Database → Except Error Result × Database) (database : Database) :
    Except Error Result × Database :=
  match check with
  | .error err => (.error err, database)
  | .ok () => operation database

def rowsAffectedConflict (count : Nat) : Except Error Unit := refuseWhen (count = 0) .conflict

def rowsAffectedNotFound (count : Nat) : Except Error Unit := refuseWhen (count = 0) .notFound

def insertOrConflict {Row : Type} (checked : Bool) (conflicts : Row → Bool) (referenced : Bool)
    (row : Row) (table : List Row) : Except Error (List Row) := do
  let inserted ← sql (insertOrIgnore checked conflicts referenced row table)
  match inserted with
  | some rows => .ok rows
  | none => .error (.sentinel .conflict)

def networkChecks (row : NetworkRow) : Bool := row.ipv4Pool.family = 4 && 0 < row.configVersion

def membershipChecks (row : MembershipRow) : Bool :=
  row.virtualIPv4.family = 4 && row.role.supported && row.status.supported

def inviteChecks (row : InviteRow) : Bool :=
  row.createdAt < row.expiresAt && row.consumedAt.all (row.createdAt ≤ ·) &&
    row.revokedAt.all (row.createdAt ≤ ·) &&
    (row.consumedByNodeID.isNone || row.consumedAt.isSome) &&
    !(row.consumedAt.isSome && row.revokedAt.isSome)

def familyMatches (family : Nat) (address : Inet) : Bool :=
  (family = 4 && address.family = 4) || (family = 6 && address.family = 6)

def endpointChecks (row : EndpointRow) : Bool :=
  1 ≤ row.port && row.port ≤ 65535 && 0 ≤ row.priority && row.priority ≤ maxPostgresInteger &&
    familyMatches row.addressFamily row.address

def relayChecks (row : RelayRow) : Bool :=
  1 ≤ row.port && row.port ≤ 65535 && row.status.supported && row.nodeID ≠ row.relayNodeID &&
    familyMatches row.addressFamily row.address && row.expiresAt.all (row.assignedAt < ·)

def Database.hasNode (database : Database) (nodeID : String) : Bool :=
  database.nodes.any fun row => row.id = nodeID

def Database.hasNetwork (database : Database) (networkID : String) : Bool :=
  database.networks.any fun row => row.id = networkID

def Database.hasMembership (database : Database) (networkID nodeID : String) : Bool :=
  database.memberships.any fun row => row.networkID = networkID && row.nodeID = nodeID

/-- `DELETE FROM memberships` with the cascade to the assignments that reference one. -/
def Database.deleteMemberships (database : Database) (wanted : MembershipRow → Bool) : Database :=
  { database with
    memberships := deleteWhere wanted database.memberships
    relayAssignments := deleteWhere (fun relay => database.memberships.any fun row => wanted row &&
      row.networkID = relay.networkID &&
        (row.nodeID = relay.nodeID || row.nodeID = relay.relayNodeID))
      database.relayAssignments }

def namesNode (nodeID : String) (row : RelayRow) : Bool :=
  row.nodeID = nodeID || row.relayNodeID = nodeID

def Database.deleteNode (database : Database) (nodeID : String) : Database :=
  let cascaded := database.deleteMemberships fun row => row.nodeID = nodeID
  { cascaded with
    nodes := deleteWhere (fun row => row.id = nodeID) cascaded.nodes
    invites := updateWhere (fun row => row.consumedByNodeID = some nodeID)
      (fun row => { row with consumedByNodeID := none }) cascaded.invites
    endpointCandidates := deleteWhere (fun row => row.nodeID = nodeID) cascaded.endpointCandidates
    relayAssignments := deleteWhere (namesNode nodeID) cascaded.relayAssignments }

def sortedUniqueStrings (values : List String) : List String :=
  (sliceStable (fun left right => left < right) values).destutter (· ≠ ·)

def lockRows (present : String → Bool) (ids : List String) : Except Error Unit :=
  (sortedUniqueStrings ids).forM fun id => refuseWhen (!present id) .notFound

def lockNodeRows (database : Database) (nodeIDs : List String) : Except Error Unit :=
  lockRows database.hasNode nodeIDs

def lockNetworkRows (database : Database) (networkIDs : List String) : Except Error Unit :=
  lockRows database.hasNetwork networkIDs

def lockNetworkAndReadIPv4Pool (database : Database) (networkID : String) :
    Except Error String := do
  let row ← found (database.networks.find? fun row => row.id = networkID)
  .ok (cidrText row.ipv4Pool)

def incrementVersionsWhere (wanted : NetworkRow → Bool) (database : Database) :
    Except Error Database :=
  if database.networks.any fun row => wanted row && maxInt64 ≤ row.configVersion then
    sql (.error .outOfRange)
  else do
    let networks ← sql (updateChecked networkChecks wanted
      (fun row => { row with configVersion := row.configVersion + 1 }) database.networks)
    .ok { database with networks }

def incrementNetworkVersion (networkID : String) (database : Database) :
    Except Error Database := do
  let wanted := fun row : NetworkRow => row.id = networkID
  let incremented ← incrementVersionsWhere (fun row => wanted row) database
  rowsAffectedNotFound (database.networks.countP fun row => wanted row)
  .ok incremented

def incrementNetworkVersions : List String → Database → Except Error Database
  | [], database => .ok database
  | networkID :: rest, database => do
      let database ← incrementNetworkVersion networkID database
      incrementNetworkVersions rest database

def createNetwork (ctx : Context) (network : Network) : Database → Except Error Unit × Database :=
  validated (validateNetwork network) <| withTransaction ctx fun database => do
    let pool ← cast (cidrIn network.ipv4Pool)
    let row : NetworkRow :=
      { id := network.id
        name := network.name
        ipv4Pool := pool
        ownerID := network.ownerID
        configVersion := if network.configVersion = 0 then 1 else network.configVersion
        createdAt := network.createdAt }
    let networks ← insertOrConflict (networkChecks row) (fun other => other.id = row.id) true row
      database.networks
    .ok ((), { database with networks })

def addNode (ctx : Context) (node : Node) : Database → Except Error Unit × Database :=
  validated (validateNode node) <| withTransaction ctx fun database => do
    let row : NodeRow :=
      { id := node.id
        displayName := node.displayName
        publicKey := node.publicKey
        platform := node.platform
        clientVersion := node.clientVersion
        lastSeen := nullableTime node.lastSeen }
    let nodes ← insertOrConflict true
      (fun other => other.id = row.id || other.publicKey = row.publicKey) true row database.nodes
    .ok ((), { database with nodes })

def updateNode (nodeID : String) (assign : NodeRow → NodeRow) (database : Database) :
    Except Error (Unit × Database) := do
  let nodes ← sql (updateChecked (fun _ => true) (fun row => row.id = nodeID) assign
    database.nodes)
  rowsAffectedNotFound (database.nodes.countP fun row => row.id = nodeID)
  .ok ((), { database with nodes })

def touchNode (ctx : Context) (nodeID : String) (lastSeen : Time) :
    Database → Except Error Unit × Database :=
  validated (refuseWhen (Time.isZero lastSeen) .validation) <| withTransaction ctx <|
    updateNode nodeID fun row => { row with lastSeen := some lastSeen }

def updateNodeClientVersion (ctx : Context) (nodeID clientVersion : String) :
    Database → Except Error Unit × Database :=
  validated (refuseWhen (clientVersion = "") .validation) <| withTransaction ctx <|
    updateNode nodeID fun row => { row with clientVersion := clientVersion }

def queryAffectedNetworkIDs (database : Database) (nodeID : String) : List String :=
  sortedUniqueStrings
    ((database.memberships.filter fun row => row.nodeID = nodeID).map MembershipRow.networkID ++
      (database.relayAssignments.filter (namesNode nodeID)).map RelayRow.networkID)

def removeNode (ctx : Context) (nodeID : String) : Database → Except Error Unit × Database :=
  withTransaction ctx fun database => do
    lockNodeRows database [nodeID]
    let networkIDs := queryAffectedNetworkIDs database nodeID
    lockNetworkRows database networkIDs
    rowsAffectedNotFound (database.nodes.countP fun row => row.id = nodeID)
    let database ← incrementNetworkVersions networkIDs (database.deleteNode nodeID)
    .ok ((), database)

def addMembership (ctx : Context) (membership : Membership) :
    Database → Except Error Unit × Database :=
  validated (validateMembership membership) <| withTransaction ctx fun database => do
    lockNodeRows database [membership.nodeID]
    let ipv4Pool ← lockNetworkAndReadIPv4Pool database membership.networkID
    validateIPv4InPool membership.virtualIPv4 ipv4Pool
    let address ← cast (inetIn (text ((to4 membership.virtualIPv4).getD [])))
    let row : MembershipRow :=
      { networkID := membership.networkID
        nodeID := membership.nodeID
        virtualIPv4 := address
        role := membership.role
        status := membership.status }
    let memberships ← insertOrConflict (membershipChecks row)
      (fun other => other.networkID = row.networkID &&
        (other.nodeID = row.nodeID || other.virtualIPv4 = row.virtualIPv4))
      (database.hasNetwork row.networkID && database.hasNode row.nodeID) row database.memberships
    let database ← incrementNetworkVersion membership.networkID { database with memberships }
    .ok ((), database)

def removeMembership (ctx : Context) (networkID nodeID : String) :
    Database → Except Error Unit × Database :=
  withTransaction ctx fun database => do
    lockNodeRows database [nodeID]
    lockNetworkRows database [networkID]
    let wanted := fun row : MembershipRow => row.networkID = networkID && row.nodeID = nodeID
    rowsAffectedNotFound (database.memberships.countP wanted)
    let database := database.deleteMemberships wanted
    let database ← incrementNetworkVersion networkID { database with
      relayAssignments := deleteWhere (fun row => row.networkID = networkID && namesNode nodeID row)
        database.relayAssignments }
    .ok ((), database)

def lockConsumer (database : Database) (nodeID : String) : Except Error Unit :=
  if nodeID ≠ "" then lockNodeRows database [nodeID] else .ok ()

def createInvite (ctx : Context) (invite : Invite) : Database → Except Error Unit × Database :=
  validated (validateInvite invite) <| withTransaction ctx fun database => do
    lockConsumer database invite.consumedByNodeID
    lockNetworkRows database [invite.networkID]
    let row : InviteRow :=
      { id := invite.id
        networkID := invite.networkID
        tokenHash := invite.tokenHash
        expiresAt := invite.expiresAt
        consumedAt := invite.consumedAt
        revokedAt := invite.revokedAt
        consumedByNodeID := nullIfEmpty invite.consumedByNodeID
        createdAt := invite.createdAt }
    let invites ← insertOrConflict (inviteChecks row)
      (fun other => other.id = row.id || other.tokenHash = row.tokenHash)
      (database.hasNetwork row.networkID && row.consumedByNodeID.all database.hasNode) row
      database.invites
    .ok ((), { database with invites })

def revokeInvite (ctx : Context) (inviteID : String) (revokedAt : Time) :
    Database → Except Error Unit × Database :=
  validated (refuseWhen (inviteID = "" || Time.isZero revokedAt) .validation) <|
    withTransaction ctx fun database => do
      let wanted := fun row : InviteRow =>
        row.id = inviteID && row.consumedAt.isNone && row.revokedAt.isNone
      let invites ← sql (updateChecked inviteChecks wanted
        (fun row => { row with revokedAt := some revokedAt }) database.invites)
      if database.invites.countP wanted = 1 then .ok ((), { database with invites })
      else do
        -- the conditional update missed: read the row to say why
        let row ← found (database.invites.find? fun row => row.id = inviteID)
        refuseWhen row.consumedAt.isSome .inviteConsumed
        if row.revokedAt.isSome then .ok ((), database) else .error (.sentinel .conflict)

def inviteLookup (database : Database) (value tokenHash : String) (row : InviteRow) : Bool :=
  (row.id = value || (row.networkID = value && !database.invites.any fun scope => scope.id = value))
    && row.tokenHash = tokenHash

def scanInviteRow (row : InviteRow) : Invite :=
  { id := row.id
    networkID := row.networkID
    tokenHash := row.tokenHash
    expiresAt := row.expiresAt
    consumedAt := row.consumedAt
    revokedAt := row.revokedAt
    consumedByNodeID := row.consumedByNodeID.getD ""
    createdAt := row.createdAt }

def classifyInvite (consumedAt : Time) (state : Invite) : Sentinel :=
  if state.consumedAt.isSome then .inviteConsumed
  else if state.revokedAt.isSome then .inviteRevoked
  else if consumedAt < state.createdAt then .validation
  else if state.isExpired consumedAt then .inviteExpired
  else .conflict

def consumeInviteWithExecutor (inviteOrNetworkID tokenHash : String) (consumedAt : Time)
    (consumedByNodeID : String) (database : Database) : Except Error (Invite × Database) := do
  let wanted := fun row : InviteRow => inviteLookup database inviteOrNetworkID tokenHash row &&
    row.consumedAt.isNone && row.revokedAt.isNone && row.createdAt ≤ consumedAt &&
    consumedAt < row.expiresAt
  let assign := fun row : InviteRow =>
    { row with consumedAt := some consumedAt, consumedByNodeID := nullIfEmpty consumedByNodeID }
  let accepted := fun row : InviteRow =>
    inviteChecks row && row.consumedByNodeID.all database.hasNode
  let invites ← sql (updateChecked accepted wanted assign database.invites)
  match database.invites.find? wanted with
  | some row => .ok (scanInviteRow (assign row), { database with invites })
  | none => do
      let state ← found (database.invites.find? (inviteLookup database inviteOrNetworkID tokenHash))
      .error (.sentinel (classifyInvite consumedAt (scanInviteRow state)))

def consumeInvite (ctx : Context) (wall : Time) (inviteOrNetworkID tokenHash : String)
    (consumedAt : Time) : Database → Except Error Invite × Database :=
  withTransaction ctx <| consumeInviteWithExecutor inviteOrNetworkID tokenHash
    (consumptionTime wall consumedAt) ""

def consumeInviteForNode (ctx : Context) (wall : Time) (inviteOrNetworkID tokenHash : String)
    (consumedAt : Time) (consumedByNodeID : String) : Database → Except Error Invite × Database :=
  if consumedByNodeID = "" then consumeInvite ctx wall inviteOrNetworkID tokenHash consumedAt
  else withTransaction ctx fun database => do
    lockNodeRows database [consumedByNodeID]
    consumeInviteWithExecutor inviteOrNetworkID tokenHash (consumptionTime wall consumedAt)
      consumedByNodeID database

def validateEndpoints (nodeID : String) : List EndpointCandidate → Except Error Unit
  | [] => .ok ()
  | endpoint :: rest => do
      refuseWhen (endpoint.nodeID ≠ nodeID) .validation
      validateEndpointCandidate endpoint
      validateEndpoints nodeID rest

def insertEndpoint (endpoint : EndpointCandidate) (database : Database) :
    Except Error Database := do
  let address ← cast (inetIn (text endpoint.address))
  let row : EndpointRow :=
    { nodeID := endpoint.nodeID
      address := address
      port := endpoint.port.toNat
      addressFamily := endpointFamilyNumber endpoint.family
      interfaceName := endpoint.interface
      priority := endpoint.priority
      observedAt := endpoint.observedAt }
  let endpointCandidates ← insertOrConflict (endpointChecks row)
    (fun other => other.nodeID = row.nodeID && other.address = row.address &&
      other.port = row.port && other.interfaceName = row.interfaceName)
    (database.hasNode row.nodeID) row database.endpointCandidates
  .ok { database with endpointCandidates }

def insertEndpoints : List EndpointCandidate → Database → Except Error Database
  | [], database => .ok database
  | endpoint :: rest, database => do
      let database ← insertEndpoint endpoint database
      insertEndpoints rest database

def queryMembershipNetworkIDs (database : Database) (nodeID : String) : List String :=
  sortedUniqueStrings
    ((database.memberships.filter fun row => row.nodeID = nodeID).map MembershipRow.networkID)

def replaceEndpoints (ctx : Context) (nodeID : String) (endpoints : List EndpointCandidate) :
    Database → Except Error Unit × Database :=
  validated (validateEndpoints nodeID endpoints) <| withTransaction ctx fun database => do
    lockNodeRows database [nodeID]
    lockNetworkRows database (queryMembershipNetworkIDs database nodeID)
    let database ← insertEndpoints endpoints { database with
      endpointCandidates :=
        deleteWhere (fun row => row.nodeID = nodeID) database.endpointCandidates }
    let database ← incrementVersionsWhere
      (fun network => database.hasMembership network.id nodeID) database
    .ok ((), database)

def ensureActiveMembership (database : Database) (networkID nodeID : String) :
    Except Error Unit := do
  let row ← found (database.memberships.find? fun row =>
    row.networkID = networkID && row.nodeID = nodeID)
  refuseWhen (row.status ≠ .active) .validation

def relayReferences (database : Database) (row : RelayRow) : Bool :=
  database.hasNetwork row.networkID && database.hasNode row.nodeID &&
    database.hasNode row.relayNodeID && database.hasMembership row.networkID row.nodeID &&
    database.hasMembership row.networkID row.relayNodeID

def checkUnique (violated : Bool) : Except Violation Unit :=
  if violated then .error .unique else .ok ()

/-- `relayAssignmentUpdateQuery`: every column but the network and the node is set. -/
def updateRelayAssignment (row : RelayRow) (database : Database) : Except Error Database := do
  let wanted := fun other : RelayRow =>
    other.networkID = row.networkID && other.nodeID = row.nodeID
  let elsewhere := fun other : RelayRow => !wanted other && other.id = row.id
  sql (checkUnique
    (database.relayAssignments.any wanted && database.relayAssignments.any elsewhere))
  let relayAssignments ← sql (updateChecked
    (fun updated => relayChecks updated && relayReferences database updated) wanted
    (fun other => { row with networkID := other.networkID, nodeID := other.nodeID })
    database.relayAssignments)
  rowsAffectedConflict (database.relayAssignments.countP wanted)
  .ok { database with relayAssignments }

def upsertRelayAssignment (assignment : RelayAssignment) (database : Database) :
    Except Error Database := do
  let address ← cast (inetIn (text assignment.address))
  let row : RelayRow :=
    { id := assignment.id
      networkID := assignment.networkID
      nodeID := assignment.nodeID
      relayNodeID := assignment.relayNodeID
      address := address
      port := assignment.port.toNat
      addressFamily := endpointFamilyNumber assignment.family
      status := assignment.status
      assignedAt := assignment.assignedAt
      expiresAt := assignment.expiresAt }
  let inserted ← sql (insertOrIgnore (relayChecks row)
    (fun other => other.id = row.id ||
      (other.networkID = row.networkID && other.nodeID = row.nodeID))
    (relayReferences database row) row database.relayAssignments)
  match inserted with
  | some relayAssignments => .ok { database with relayAssignments }
  | none => do
      let existing := database.relayAssignments.find? fun other => other.id = row.id
      refuseWhen (existing.any fun other =>
        other.networkID ≠ row.networkID || other.nodeID ≠ row.nodeID) .conflict
      updateRelayAssignment row database

def setRelayAssignment (ctx : Context) (assignment : RelayAssignment) :
    Database → Except Error Unit × Database :=
  validated (validateRelayAssignment assignment) <| withTransaction ctx fun database => do
    lockNodeRows database [assignment.nodeID, assignment.relayNodeID]
    lockNetworkRows database [assignment.networkID]
    ensureActiveMembership database assignment.networkID assignment.nodeID
    ensureActiveMembership database assignment.networkID assignment.relayNodeID
    let database ← upsertRelayAssignment assignment database
    let database ← incrementNetworkVersion assignment.networkID database
    .ok ((), database)

def queryRelayAssignmentNodeIDs (database : Database) (networkID : String) : List String :=
  let rows := database.relayAssignments.filter fun row => row.networkID = networkID
  sortedUniqueStrings (rows.map RelayRow.nodeID ++ rows.map RelayRow.relayNodeID)

def removeRelayAssignment (ctx : Context) (networkID : String) :
    Database → Except Error Unit × Database :=
  withTransaction ctx fun database => do
    lockNodeRows database (queryRelayAssignmentNodeIDs database networkID)
    lockNetworkRows database [networkID]
    let wanted := fun row : RelayRow => row.networkID = networkID
    rowsAffectedNotFound (database.relayAssignments.countP wanted)
    let database ← incrementNetworkVersion networkID { database with
      relayAssignments := deleteWhere wanted database.relayAssignments }
    .ok ((), database)

def apply (op : Op) (database : Database) : Except Error Unit × Database :=
  match op with
  | .createNetwork ctx network => createNetwork ctx network database
  | .addNode ctx node => addNode ctx node database
  | .touchNode ctx nodeID lastSeen => touchNode ctx nodeID lastSeen database
  | .updateNodeClientVersion ctx nodeID clientVersion =>
    updateNodeClientVersion ctx nodeID clientVersion database
  | .removeNode ctx nodeID => removeNode ctx nodeID database
  | .addMembership ctx membership => addMembership ctx membership database
  | .removeMembership ctx networkID nodeID => removeMembership ctx networkID nodeID database
  | .createInvite ctx invite => createInvite ctx invite database
  | .revokeInvite ctx inviteID revokedAt => revokeInvite ctx inviteID revokedAt database
  | .consumeInvite ctx wall inviteOrNetworkID tokenHash consumedAt => dropResult
      (consumeInvite ctx wall inviteOrNetworkID tokenHash consumedAt database)
  | .consumeInviteForNode ctx wall inviteOrNetworkID tokenHash consumedAt nodeID => dropResult
      (consumeInviteForNode ctx wall inviteOrNetworkID tokenHash consumedAt nodeID database)
  | .replaceEndpoints ctx nodeID endpoints => replaceEndpoints ctx nodeID endpoints database
  | .setRelayAssignment ctx assignment => setRelayAssignment ctx assignment database
  | .removeRelayAssignment ctx networkID => removeRelayAssignment ctx networkID database

def step (op : Op) (database : Database) : Database := (apply op database).2

end Ipv6Mesh.PostgresRepository
