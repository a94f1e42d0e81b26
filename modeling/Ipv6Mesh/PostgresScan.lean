import Ipv6Mesh.DbPostgresTables
import Ipv6Mesh.DbSnapshot

/-!
# Reading rows back from PostgreSQL

The row scanners and `buildSnapshotWithEndpointMaxAge` of
`internal/db/postgres.go`. An `inet` column is selected as text, which is the
address followed by the length of its mask; how PostgreSQL spells the address
itself is a parameter. `net.ParseIP` takes no text with a slash, so no address
that was written is read back.
-/

namespace Ipv6Mesh.PostgresScan

open GoText GoNet GoCidr GoFlow ControlModel ControlValidation
open DbMemory (refuseWhen found sortEndpointCandidates)
open DbOperations DbRows
open DbSnapshot (relayAssignmentUsable sortPeersByNodeID snapshotTime)
open SqlTable PostgresRepository DbPostgresTables

variable {assignment : RelayAssignment}

section Scan

variable (host : Addr → String)

def inetText (inet : Inet) : String := host inet.addr ++ "/" ++ Nat.repr inet.bits

def scanNetworkRow (row : NetworkRow) : Except Error Network := do
  let poolText := cidrText row.ipv4Pool
  match parseCIDR poolText with
  | none => .error (.external ("invalid CIDR address: " ++ poolText))
  | some pool =>
    if (to4 pool.ip).isNone then .error (.external "network pool is not IPv4")
    else if pool.network.bits ≠ 32 then
      .error (.external "network pool is not a 32-bit IPv4 network")
    else .ok {
      id := row.id
      name := row.name
      ipv4Pool := poolText
      ownerID := row.ownerID
      configVersion := row.configVersion
      createdAt := row.createdAt }

def scanNodeRow (row : NodeRow) : Node :=
  { id := row.id
    displayName := row.displayName
    publicKey := row.publicKey
    platform := row.platform
    clientVersion := row.clientVersion
    lastSeen := row.lastSeen.getD 0 }

def scanMembershipNodeRow (row : MembershipRow) (nodeRow : NodeRow) :
    Except Error (Membership × Node) :=
  match (parseIP (inetText host row.virtualIPv4)).bind to4 with
  | none => .error (.external "membership virtual address is not IPv4")
  | some ip => .ok (
      { networkID := row.networkID
        nodeID := row.nodeID
        virtualIPv4 := ip
        role := row.role
        status := row.status },
      scanNodeRow nodeRow)

def scanFamily (message : String) (addressFamily : Nat) : Except Error EndpointFamily :=
  match addressFamily with
  | 4 => .ok .ipv4
  | 6 => .ok .ipv6
  | _ => .error (.external message)

def scanEndpointRow (row : EndpointRow) : Except Error EndpointCandidate := do
  let family ← scanFamily "unsupported endpoint address family" row.addressFamily
  .ok {
    nodeID := row.nodeID
    address := (parseIP (inetText host row.address)).getD []
    port := UInt16.ofNat row.port
    family := family
    interface := row.interfaceName
    priority := row.priority
    observedAt := row.observedAt }

def scanRelayAssignmentRow (row : RelayRow) : Except Error RelayAssignment := do
  let family ← scanFamily "unsupported relay address family" row.addressFamily
  .ok {
    id := row.id
    networkID := row.networkID
    nodeID := row.nodeID
    relayNodeID := row.relayNodeID
    address := (parseIP (inetText host row.address)).getD []
    port := UInt16.ofNat row.port
    family := family
    status := row.status
    assignedAt := row.assignedAt
    expiresAt := row.expiresAt }

theorem parseIP_inetText (inet : Inet) : parseIP (inetText host inet) = none := by
  apply parseIP_slash
  simp [inetText]

theorem scanMembershipNodeRow_error (row : MembershipRow) (nodeRow : NodeRow) :
    scanMembershipNodeRow host row nodeRow =
      .error (.external "membership virtual address is not IPv4") := by
  rw [scanMembershipNodeRow, parseIP_inetText]
  rfl

theorem scanEndpointRow_address {row : EndpointRow} {endpoint : EndpointCandidate}
    (read : scanEndpointRow host row = .ok endpoint) : endpoint.address = [] := by
  rw [scanEndpointRow, parseIP_inetText, bind_eq_ok] at read
  obtain ⟨family, -, same⟩ := read
  rw [← Except.ok.inj same]
  rfl

theorem scanRelayAssignmentRow_address {row : RelayRow}
    (read : scanRelayAssignmentRow host row = .ok assignment) : assignment.address = [] := by
  rw [scanRelayAssignmentRow, parseIP_inetText, bind_eq_ok] at read
  obtain ⟨family, -, same⟩ := read
  rw [← Except.ok.inj same]
  rfl

end Scan

section Written

variable {database after : Database}

theorem incrementVersionsWhere_frame {wanted : NetworkRow → Bool}
    (moved : incrementVersionsWhere wanted database = .ok after) :
    ∃ networks, after = { database with networks } := by
  unfold incrementVersionsWhere at moved
  split_ifs at moved
  · simp [sql] at moved
  · obtain ⟨networks, -, same⟩ := bind_eq_ok.mp moved
    exact ⟨networks, (Except.ok.inj same).symm⟩

theorem incrementNetworkVersion_frame {networkID : String}
    (moved : incrementNetworkVersion networkID database = .ok after) :
    ∃ networks, after = { database with networks } := by
  rw [incrementNetworkVersion, bind_eq_ok] at moved
  obtain ⟨incremented, counted, rest⟩ := moved
  obtain ⟨-, -, same⟩ := bind_eq_ok.mp rest
  rw [← Except.ok.inj same]
  exact incrementVersionsWhere_frame counted

theorem addMembership_written {ctx : Context} {membership : Membership}
    (succeeded : addMembership ctx membership database = (.ok (), after)) :
    membershipRow membership ∈ after.memberships := by
  obtain ⟨valid, transaction⟩ := validated_eq_ok.mp succeeded
  obtain ⟨-, body⟩ := withTransaction_eq_ok.mp transaction
  obtain ⟨address, read, row⟩ := membershipRow_written valid
  simp only [bind_eq_ok, cast_eq_ok, insertOrConflict_eq_ok] at body
  obtain ⟨-, -, -, -, -, -, written, cast, _, ⟨-, -, -, rfl⟩, _, moved, same⟩ := body
  obtain rfl : address = written := Option.some.inj (read.symm.trans cast)
  obtain ⟨networks, rfl⟩ := incrementNetworkVersion_frame moved
  cases same
  rw [row]
  exact List.mem_append_right _ (List.mem_singleton.mpr rfl)

theorem insertEndpoint_written {endpoint : EndpointCandidate}
    (valid : validateEndpointCandidate endpoint = .ok ())
    (inserted : insertEndpoint endpoint database = .ok after) :
    after = { database with
      endpointCandidates := database.endpointCandidates ++ [endpointRow endpoint] } :=
  ((insertEndpoint_eq_ok valid).mp inserted).2.2

variable {endpoints : List EndpointCandidate}

theorem insertEndpoints_written
    (valid : ∀ endpoint ∈ endpoints, validateEndpointCandidate endpoint = .ok ())
    (inserted : insertEndpoints endpoints database = .ok after) :
    after.endpointCandidates = database.endpointCandidates ++ endpoints.map endpointRow := by
  induction endpoints generalizing database with
  | nil =>
    cases inserted
    simp
  | cons endpoint endpoints ih =>
    obtain ⟨first, rest⟩ := List.forall_mem_cons.mp valid
    obtain ⟨next, one, others⟩ := bind_eq_ok.mp inserted
    have row := insertEndpoint_written first one
    have tail := ih rest others
    rw [tail, row]
    simp

theorem replaceEndpoints_written {ctx : Context} {nodeID : String}
    (succeeded : replaceEndpoints ctx nodeID endpoints database = (.ok (), after)) :
    ∀ endpoint ∈ endpoints, validateEndpointCandidate endpoint = .ok () ∧
      endpointRow endpoint ∈ after.endpointCandidates := by
  intro endpoint listed
  obtain ⟨valid, transaction⟩ := validated_eq_ok.mp succeeded
  obtain ⟨-, body⟩ := withTransaction_eq_ok.mp transaction
  simp only [bind_eq_ok] at body
  obtain ⟨-, -, -, -, inserted, insertion, _, moved, same⟩ := body
  have each : ∀ endpoint ∈ endpoints, validateEndpointCandidate endpoint = .ok () :=
    fun other member => (DbPostgresTables.validateEndpoints_ok.mp valid other member).2
  have rows := insertEndpoints_written each insertion
  obtain ⟨networks, rfl⟩ := incrementVersionsWhere_frame moved
  cases same
  refine ⟨each endpoint listed, ?_⟩
  change endpointRow endpoint ∈ inserted.endpointCandidates
  rw [rows]
  exact List.mem_append_right _ (List.mem_map_of_mem listed)

theorem updateRelayAssignment_written {row : RelayRow}
    (updated : updateRelayAssignment row database = .ok after) : row ∈ after.relayAssignments := by
  simp only [updateRelayAssignment, bind_eq_ok, sql_eq_ok, rowsAffectedConflict_ok] at updated
  obtain ⟨-, -, rows, assigned, -, ⟨other, member, wanted⟩, same⟩ := updated
  obtain ⟨-, rfl⟩ := updateChecked_ok.mp assigned
  cases same
  refine List.mem_map.mpr ⟨other, member, ?_⟩
  simp only [Bool.and_eq_true, decide_eq_true_eq] at wanted
  simp [wanted.1, wanted.2]

theorem upsertRelayAssignment_written (valid : validateRelayAssignment assignment = .ok ())
    (upserted : upsertRelayAssignment assignment database = .ok after) :
    relayRow assignment ∈ after.relayAssignments := by
  rw [upsertRelayAssignment, bind_eq_ok] at upserted
  obtain ⟨address, read, statement⟩ := upserted
  obtain rfl := Option.some.inj ((relayRow_checked valid).1.symm.trans (cast_eq_ok.mp read))
  obtain ⟨_ | rows, inserted, rest⟩ := bind_eq_ok.mp statement
  · obtain ⟨-, -, updated⟩ := bind_eq_ok.mp rest
    exact updateRelayAssignment_written updated
  · cases rest
    obtain ⟨-, -, -, rfl⟩ := insertOrIgnore_some.mp (sql_eq_ok.mp inserted)
    exact List.mem_append_right _ (List.mem_singleton.mpr rfl)

theorem setRelayAssignment_written {ctx : Context}
    (succeeded : setRelayAssignment ctx assignment database = (.ok (), after)) :
    validateRelayAssignment assignment = .ok () ∧
      relayRow assignment ∈ after.relayAssignments := by
  obtain ⟨valid, transaction⟩ := validated_eq_ok.mp succeeded
  obtain ⟨-, body⟩ := withTransaction_eq_ok.mp transaction
  simp only [bind_eq_ok] at body
  obtain ⟨-, -, -, -, -, -, -, -, upserted, written, _, moved, same⟩ := body
  obtain ⟨networks, rfl⟩ := incrementNetworkVersion_frame moved
  cases same
  have stored := upsertRelayAssignment_written valid written
  exact ⟨valid, stored⟩

end Written

/-- The scan succeeds with the address that was written. -/
def ReadsBack (written : IP) (scanned : Except Error IP) : Prop :=
  ∃ address, scanned = .ok address ∧ equal address written = true

theorem except_map_eq_ok {Value Result : Type} {value : Except Error Value} {f : Value → Result}
    {result : Result} :
    value.map f = .ok result ↔ ∃ read, value = .ok read ∧ f read = result := by
  cases value <;> simp [Except.map]

theorem validateRelayAssignment_address (valid : validateRelayAssignment assignment = .ok ()) :
    validateEndpointAddress "relay_assignment" assignment.address assignment.family = .ok () := by
  simp only [validateRelayAssignment, required, check_eq_ok] at valid
  exact valid.2.2.2.2.2.1

theorem not_readsBack_error (written : IP) (err : Error) : ¬ReadsBack written (.error err) := by
  rintro ⟨address, same, -⟩
  cases same

theorem equal_nil {model : String} {address : IP} {family : EndpointFamily}
    (valid : validateEndpointAddress model address family = .ok ()) :
    equal [] address = false := by
  obtain ⟨long, sized⟩ := validateEndpointAddress_to16 valid
  have length : address.length ≠ 0 := by
    intro zero
    rw [List.length_eq_zero_iff.mp zero] at sized
    simp [to16] at sized
  simp [equal, length.symm]

theorem not_readsBack_nil {model : String} {address : IP} {family : EndpointFamily}
    (valid : validateEndpointAddress model address family = .ok ()) {scanned : Except Error IP}
    (nil : ∀ read, scanned = .ok read → read = []) : ¬ReadsBack address scanned := by
  rintro ⟨read, same, equals⟩
  rw [nil read same, equal_nil valid] at equals
  cases equals

/-- Whatever PostgreSQL's spelling of an address is: the row that a successful
write leaves is read with an error or with another address. -/
theorem written_addresses_never_read_back (host : Addr → String) (ctx : Context)
    (database after : Database) :
    (∀ membership, addMembership ctx membership database = (.ok (), after) →
      ∃ row ∈ after.memberships, row.networkID = membership.networkID ∧
        row.nodeID = membership.nodeID ∧ ∀ node, ¬ReadsBack membership.virtualIPv4
          ((scanMembershipNodeRow host row node).map fun read => read.1.virtualIPv4)) ∧
    (∀ nodeID endpoints, replaceEndpoints ctx nodeID endpoints database = (.ok (), after) →
      ∀ endpoint ∈ endpoints, ∃ row ∈ after.endpointCandidates, row = endpointRow endpoint ∧
        ¬ReadsBack endpoint.address ((scanEndpointRow host row).map EndpointCandidate.address)) ∧
    (∀ assignment, setRelayAssignment ctx assignment database = (.ok (), after) →
      ∃ row ∈ after.relayAssignments, row.networkID = assignment.networkID ∧
        row.nodeID = assignment.nodeID ∧
        ¬ReadsBack assignment.address
          ((scanRelayAssignmentRow host row).map RelayAssignment.address)) := by
  refine ⟨fun membership succeeded => ?_, fun nodeID endpoints succeeded endpoint listed => ?_,
    fun assignment succeeded => ?_⟩
  · refine ⟨_, addMembership_written succeeded, rfl, rfl, fun node => ?_⟩
    rw [scanMembershipNodeRow_error]
    exact not_readsBack_error _ _
  · obtain ⟨valid, stored⟩ := replaceEndpoints_written succeeded endpoint listed
    refine ⟨_, stored, rfl, not_readsBack_nil (validateEndpointCandidate_address valid) ?_⟩
    intro read same
    obtain ⟨scanned, outcome, rfl⟩ := except_map_eq_ok.mp same
    exact scanEndpointRow_address host outcome
  · obtain ⟨valid, stored⟩ := setRelayAssignment_written succeeded
    refine ⟨_, stored, rfl, rfl, not_readsBack_nil (validateRelayAssignment_address valid) ?_⟩
    intro read same
    obtain ⟨scanned, outcome, rfl⟩ := except_map_eq_ok.mp same
    exact scanRelayAssignmentRow_address host outcome

def storedMembership : Membership :=
  { networkID := "n", nodeID := "a", virtualIPv4 := [10, 42, 0, 2], role := .member,
    status := .active }

def storedRun : List DbMemory.Op :=
  [.createNetwork .live
      { id := "n", name := "n", ipv4Pool := "10.42.0.0/24", ownerID := "o", configVersion := 0,
        createdAt := 1 },
    .addNode .live
      { id := "a", displayName := "a", publicKey := "k", platform := "p", clientVersion := "v",
        lastSeen := 0 }]

/-- The membership that was added is selected as `10.42.0.2/32`, and its scan fails. -/
theorem stored_membership_not_read :
    (addMembership .live storedMembership (run step storedRun Database.empty)).1 = .ok () ∧
    ∃ row ∈ (addMembership .live storedMembership
        (run step storedRun Database.empty)).2.memberships,
      inetText (fun addr => String.ofList addr.toText) row.virtualIPv4 = "10.42.0.2/32" ∧
      ∀ node, ¬ReadsBack storedMembership.virtualIPv4
        ((scanMembershipNodeRow (fun addr => String.ofList addr.toText) row node).map
          fun read => read.1.virtualIPv4) := by
  refine ⟨by decide +kernel, membershipRow storedMembership, by decide +kernel, by decide +kernel,
    fun node => ?_⟩
  rw [scanMembershipNodeRow_error]
  exact not_readsBack_error _ _

section Snapshot

variable (host : Addr → String)

def endpointOrder (left right : EndpointRow) : Bool :=
  if left.priority ≠ right.priority then left.priority < right.priority
  else if inetText host left.address ≠ inetText host right.address then
    inetText host left.address < inetText host right.address
  else if left.port ≠ right.port then left.port < right.port
  else left.interfaceName < right.interfaceName

def readFreshEndpointsWithMaxAge (database : Database) (nodeID : String) (now : Time)
    (endpointMaxAge : Duration) : Except Error (List EndpointCandidate) := do
  let rows := sliceStable (endpointOrder host)
    (database.endpointCandidates.filter fun row => row.nodeID = nodeID)
  let endpoints ← rows.mapM (scanEndpointRow host)
  .ok (sortEndpointCandidates (endpoints.filter fun endpoint =>
    isFreshEndpoint endpoint now endpointMaxAge))

def activeMemberRows (database : Database) (networkID : String) : List (MembershipRow × NodeRow) :=
  let members := sliceStable (fun left right => left.nodeID < right.nodeID)
    (database.memberships.filter fun row => row.networkID = networkID && row.status = .active)
  members.flatMap fun member =>
    (database.nodes.filter fun node => node.id = member.nodeID).map fun node => (member, node)

def peerOf (database : Database) (now : Time) (endpointMaxAge : Duration)
    (member : Membership × Node) : Except Error Peer := do
  let endpoints ← readFreshEndpointsWithMaxAge host database member.2.id now endpointMaxAge
  .ok {
    nodeID := member.2.id
    displayName := member.2.displayName
    publicKey := member.2.publicKey
    virtualIPv4 := member.1.virtualIPv4
    node := member.2
    membership := member.1
    endpoints := endpoints }

def relayRowsFor (database : Database) (networkID localNodeID : String) : List RelayRow :=
  let active := fun nodeID => database.memberships.any fun row =>
    row.networkID = networkID && row.nodeID = nodeID && row.status = .active
  database.relayAssignments.filter fun row => row.networkID = networkID &&
    row.nodeID = localNodeID && row.status = .active && active row.nodeID &&
    active row.relayNodeID

def buildSnapshotWithEndpointMaxAge (networkID localNodeID : String) (now : Time)
    (endpointMaxAge : Duration) (database : Database) : Except Error NetworkSnapshot := do
  let row ← found (database.networks.find? fun row => row.id = networkID)
  let network ← scanNetworkRow row
  let members ← (activeMemberRows database networkID).mapM fun member =>
    scanMembershipNodeRow host member.1 member.2
  let peers ← (members.filter fun member => member.2.id ≠ localNodeID).mapM
    (peerOf host database now endpointMaxAge)
  -- the last local row wins, as each one overwrites `localMembership`
  let localMember ← found (members.reverse.find? fun member => member.2.id = localNodeID)
  let assignments ← (relayRowsFor database networkID localNodeID).mapM
    (scanRelayAssignmentRow host)
  let relay := assignments.find? fun assignment => relayAssignmentUsable assignment now
  .ok {
    networkID := network.id
    generation := network.configVersion
    configVersion := network.configVersion
    localNodeID := localNodeID
    localVirtualIPv4 := localMember.1.virtualIPv4
    peers := sortPeersByNodeID peers
    relayAssignment := relay
    relay := relay
    generatedAt := now }

def buildSnapshotAt (ctx : Context) (wall : Time) (networkID localNodeID : String) (now : Time)
    (endpointMaxAge : Duration) (database : Database) : Except Error NetworkSnapshot := do
  contextError ctx
  buildSnapshotWithEndpointMaxAge host networkID localNodeID (snapshotTime wall now)
    endpointMaxAge database

theorem scanMembers_ok {rows : List (MembershipRow × NodeRow)} {members : List (Membership × Node)}
    (scanned : (rows.mapM fun member => scanMembershipNodeRow host member.1 member.2) =
      .ok members) : members = [] := by
  cases rows with
  | nil =>
    rw [List.mapM_nil] at scanned
    exact (Except.ok.inj scanned).symm
  | cons member rows =>
    rw [List.mapM_cons, scanMembershipNodeRow_error] at scanned
    cases scanned

theorem buildSnapshotAt_never_succeeds (ctx : Context) (wall : Time)
    (networkID localNodeID : String) (now : Time) (endpointMaxAge : Duration)
    (database : Database) (snapshot : NetworkSnapshot) :
    buildSnapshotAt host ctx wall networkID localNodeID now endpointMaxAge database ≠
      .ok snapshot := by
  intro built
  rw [buildSnapshotAt, check_eq_ok] at built
  simp only [buildSnapshotWithEndpointMaxAge, bind_eq_ok, found_ok] at built
  obtain ⟨-, row, -, network, -, members, scanned, peers, -, localMember, present, -⟩ := built
  rw [scanMembers_ok host scanned] at present
  cases present

end Snapshot

end Ipv6Mesh.PostgresScan
