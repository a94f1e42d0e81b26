import Ipv6Mesh.DbIntegrity
import Ipv6Mesh.PostgresRepository

/-!
# The control-plane tables, abstractly

What a control-plane repository is for: six tables, and for each mutation when
it is accepted and which tables it leaves. `accepts` and `effect` name neither
maps nor statements; `memoryTables` and `databaseTables` say what the two
repositories hold in these terms.
-/

namespace Ipv6Mesh.DbTables

open GoText ControlModel ControlValidation DbMemory DbIntegrity DbRows SqlTable
open PostgresRepository (Database scanInviteRow classifyInvite)

@[ext] structure Tables where
  nodes : Set NodeRow
  networks : Set NetworkRow
  memberships : Set MembershipRow
  invites : Set InviteRow
  endpointCandidates : Set EndpointRow
  relayAssignments : Set RelayRow

def memoryTables (repository : MemoryRepository) : Tables where
  nodes := content (fun nodeID : String => repository.nodes[nodeID]?) nodeRow
  networks := content (fun networkID : String => repository.networks[networkID]?) networkRow
  memberships := content
    (fun key : String × String => repository.membership? key.1 key.2) membershipRow
  invites := content (fun inviteID : String => repository.invites[inviteID]?) inviteRow
  endpointCandidates := {row | ∃ (nodeID : String) (candidates : List EndpointCandidate),
    repository.endpoints[nodeID]? = some candidates ∧
      ∃ candidate ∈ candidates, endpointRow candidate = row}
  relayAssignments := content
    (fun key : String × String => repository.relayAssignment? key.1 key.2) relayRow

def databaseTables (database : Database) : Tables where
  nodes := rowsOf database.nodes
  networks := rowsOf database.networks
  memberships := rowsOf database.memberships
  invites := rowsOf database.invites
  endpointCandidates := rowsOf database.endpointCandidates
  relayAssignments := rowsOf database.relayAssignments

namespace Tables

variable (tables : Tables)

def HasNode (nodeID : String) : Prop := ∃ row ∈ tables.nodes, row.id = nodeID

def HasNetwork (networkID : String) : Prop := ∃ row ∈ tables.networks, row.id = networkID

def HasMembership (networkID nodeID : String) : Prop :=
  ∃ row ∈ tables.memberships, row.networkID = networkID ∧ row.nodeID = nodeID

def ActiveMembership (networkID nodeID : String) : Prop :=
  ∃ row ∈ tables.memberships, row.networkID = networkID ∧ row.nodeID = nodeID ∧
    row.status = .active

def Affected (nodeID networkID : String) : Prop :=
  tables.HasMembership networkID nodeID ∨
    ∃ row ∈ tables.relayAssignments, row.networkID = networkID ∧
      (row.nodeID = nodeID ∨ row.relayNodeID = nodeID)

def ConsumerKnown (nodeID : String) : Prop := nodeID ≠ "" → tables.HasNode nodeID

def Presented (value tokenHash : String) (row : InviteRow) : Prop :=
  (row.id = value ∨ (row.networkID = value ∧ ¬∃ other ∈ tables.invites, other.id = value)) ∧
    row.tokenHash = tokenHash

end Tables

def nextVersion (row : NetworkRow) : NetworkRow :=
  { row with configVersion := row.configVersion + 1 }

def Tables.bump (wanted : String → Prop) (tables : Tables) : Tables :=
  { tables with networks := updated (fun row => wanted row.id) nextVersion tables.networks }

def Open (time : Time) (row : InviteRow) : Prop :=
  row.consumedAt = none ∧ row.revokedAt = none ∧ row.createdAt ≤ time ∧ time < row.expiresAt

instance (time : Time) (row : InviteRow) : Decidable (Open time row) :=
  inferInstanceAs (Decidable (_ ∧ _ ∧ _ ∧ _))

def consume (time : Time) (nodeID : String) (row : InviteRow) : InviteRow :=
  { row with consumedAt := some time, consumedByNodeID := nullIfEmpty nodeID }

def endpointColumns (row : EndpointRow) : Inet × Nat × String :=
  (row.address, row.port, row.interfaceName)

def accepts (tables : Tables) : Op → Prop
  | .createNetwork ctx network =>
    ctx = .live ∧ validateNetwork network = .ok () ∧ ¬tables.HasNetwork network.id
  | .addNode ctx node =>
    ctx = .live ∧ validateNode node = .ok () ∧
      ∀ row ∈ tables.nodes, row.id ≠ node.id ∧ row.publicKey ≠ node.publicKey
  | .touchNode ctx nodeID lastSeen =>
    ctx = .live ∧ Time.isZero lastSeen = false ∧ tables.HasNode nodeID
  | .updateNodeClientVersion ctx nodeID clientVersion =>
    ctx = .live ∧ clientVersion ≠ "" ∧ tables.HasNode nodeID
  | .removeNode ctx nodeID => ctx = .live ∧ tables.HasNode nodeID
  | .addMembership ctx membership =>
    ctx = .live ∧ validateMembership membership = .ok () ∧ tables.HasNode membership.nodeID ∧
      (∃ row ∈ tables.networks, row.id = membership.networkID ∧
        validateIPv4InPool membership.virtualIPv4 (cidrText row.ipv4Pool) = .ok ()) ∧
      ∀ row ∈ tables.memberships, row.networkID = membership.networkID →
        row.nodeID ≠ membership.nodeID ∧
          row.virtualIPv4 ≠ (membershipRow membership).virtualIPv4
  | .removeMembership ctx networkID nodeID => ctx = .live ∧ tables.HasMembership networkID nodeID
  | .createInvite ctx invite =>
    ctx = .live ∧ validateInvite invite = .ok () ∧ tables.HasNetwork invite.networkID ∧
      tables.ConsumerKnown invite.consumedByNodeID ∧
      ∀ row ∈ tables.invites, row.id ≠ invite.id ∧ row.tokenHash ≠ invite.tokenHash
  | .revokeInvite ctx inviteID revokedAt =>
    ctx = .live ∧ (inviteID = "" || Time.isZero revokedAt) = false ∧
      ∃ row ∈ tables.invites, row.id = inviteID ∧ row.consumedAt = none
  | .consumeInvite ctx wall value tokenHash consumedAt =>
    ctx = .live ∧ ∃ row ∈ tables.invites, tables.Presented value tokenHash row ∧
      Open (consumptionTime wall consumedAt) row
  | .consumeInviteForNode ctx wall value tokenHash consumedAt nodeID =>
    ctx = .live ∧ tables.ConsumerKnown nodeID ∧
      ∃ row ∈ tables.invites, tables.Presented value tokenHash row ∧
        Open (consumptionTime wall consumedAt) row
  | .replaceEndpoints ctx nodeID endpoints =>
    ctx = .live ∧ tables.HasNode nodeID ∧
      (∀ endpoint ∈ endpoints, endpoint.nodeID = nodeID ∧
        validateEndpointCandidate endpoint = .ok ()) ∧
      (endpoints.map fun endpoint => endpointColumns (endpointRow endpoint)).Nodup
  | .setRelayAssignment ctx assignment =>
    ctx = .live ∧ validateRelayAssignment assignment = .ok () ∧
      tables.HasNetwork assignment.networkID ∧
      tables.HasNode assignment.nodeID ∧ tables.HasNode assignment.relayNodeID ∧
      tables.ActiveMembership assignment.networkID assignment.nodeID ∧
      tables.ActiveMembership assignment.networkID assignment.relayNodeID ∧
      ∀ row ∈ tables.relayAssignments, row.id = assignment.id →
        row.networkID = assignment.networkID ∧ row.nodeID = assignment.nodeID
  | .removeRelayAssignment ctx networkID =>
    ctx = .live ∧ ∃ row ∈ tables.relayAssignments, row.networkID = networkID

theorem accepts_consumeInvite {tables : Tables} {ctx : Context} {wall consumedAt : Time}
    {value tokenHash : String} :
    accepts tables (.consumeInvite ctx wall value tokenHash consumedAt) ↔
      accepts tables (.consumeInviteForNode ctx wall value tokenHash consumedAt "") := by
  have known : tables.ConsumerKnown "" := fun named => absurd rfl named
  simp only [accepts, known, true_and]

def consumeEffect (tables : Tables) (value tokenHash : String) (time : Time) (nodeID : String) :
    Tables :=
  { tables with
    invites := updated (fun row => tables.Presented value tokenHash row ∧ Open time row)
      (consume time nodeID) tables.invites }

def effect (tables : Tables) : Op → Tables
  | .createNetwork _ network =>
    { tables with
      networks := insert (networkRow { network with
        configVersion := if network.configVersion = 0 then 1 else network.configVersion })
        tables.networks }
  | .addNode _ node => { tables with nodes := insert (nodeRow node) tables.nodes }
  | .touchNode _ nodeID lastSeen =>
    { tables with
      nodes := updated (fun row => row.id = nodeID)
        (fun row => { row with lastSeen := some lastSeen }) tables.nodes }
  | .updateNodeClientVersion _ nodeID clientVersion =>
    { tables with
      nodes := updated (fun row => row.id = nodeID)
        (fun row => { row with clientVersion := clientVersion }) tables.nodes }
  | .removeNode _ nodeID =>
    Tables.bump (tables.Affected nodeID)
      { nodes := without (fun row => row.id = nodeID) tables.nodes
        networks := tables.networks
        memberships := without (fun row => row.nodeID = nodeID) tables.memberships
        invites := updated (fun row => row.consumedByNodeID = some nodeID)
          (fun row => { row with consumedByNodeID := none }) tables.invites
        endpointCandidates := without (fun row => row.nodeID = nodeID) tables.endpointCandidates
        relayAssignments := without
          (fun row => row.nodeID = nodeID ∨ row.relayNodeID = nodeID) tables.relayAssignments }
  | .addMembership _ membership =>
    Tables.bump (· = membership.networkID)
      { tables with memberships := insert (membershipRow membership) tables.memberships }
  | .removeMembership _ networkID nodeID =>
    Tables.bump (· = networkID)
      { tables with
        memberships := without (fun row => row.networkID = networkID ∧ row.nodeID = nodeID)
          tables.memberships
        relayAssignments := without (fun row => row.networkID = networkID ∧
          (row.nodeID = nodeID ∨ row.relayNodeID = nodeID)) tables.relayAssignments }
  | .createInvite _ invite => { tables with invites := insert (inviteRow invite) tables.invites }
  | .revokeInvite _ inviteID revokedAt =>
    { tables with
      invites := updated
        (fun row => row.id = inviteID ∧ row.consumedAt = none ∧ row.revokedAt = none)
        (fun row => { row with revokedAt := some revokedAt }) tables.invites }
  | .consumeInvite _ wall value tokenHash consumedAt =>
    consumeEffect tables value tokenHash (consumptionTime wall consumedAt) ""
  | .consumeInviteForNode _ wall value tokenHash consumedAt nodeID =>
    consumeEffect tables value tokenHash (consumptionTime wall consumedAt) nodeID
  | .replaceEndpoints _ nodeID endpoints =>
    Tables.bump (tables.HasMembership · nodeID)
      { tables with
        endpointCandidates := without (fun row => row.nodeID = nodeID) tables.endpointCandidates ∪
          {row | ∃ endpoint ∈ endpoints, endpointRow endpoint = row} }
  | .setRelayAssignment _ assignment =>
    Tables.bump (· = assignment.networkID)
      { tables with
        relayAssignments := insert (relayRow assignment) (without (fun row =>
          row.networkID = assignment.networkID ∧ row.nodeID = assignment.nodeID)
          tables.relayAssignments) }
  | .removeRelayAssignment _ networkID =>
    Tables.bump (· = networkID)
      { tables with
        relayAssignments := without (fun row => row.networkID = networkID)
          tables.relayAssignments }

def settle (time : Time) (nodeID : String) (row : InviteRow) : Except Error Invite :=
  if Open time row then .ok (scanInviteRow (consume time nodeID row))
  else .error (.sentinel (classifyInvite time (scanInviteRow row)))

inductive ConsumeOutcome (tables : Tables) (ctx : Context) (value tokenHash : String)
    (time : Time) (nodeID : String) : Except Error Invite → Prop
  | cancelled (err : Error) (stopped : contextError ctx = .error err) :
      ConsumeOutcome tables ctx value tokenHash time nodeID (.error err)
  | unknown (live : ctx = .live)
      (missing : ¬(tables.ConsumerKnown nodeID ∧
        ∃ row ∈ tables.invites, tables.Presented value tokenHash row)) :
      ConsumeOutcome tables ctx value tokenHash time nodeID (.error (.sentinel .notFound))
  | settled (live : ctx = .live) (known : tables.ConsumerKnown nodeID) (row : InviteRow)
      (stored : row ∈ tables.invites) (presented : tables.Presented value tokenHash row) :
      ConsumeOutcome tables ctx value tokenHash time nodeID (settle time nodeID row)

/-- A call refines the mutation: it succeeds exactly when the mutation is
accepted, then the tables are those of its effect, and otherwise they stay. -/
structure Refines {State : Type} (view : State → Tables) (outcome : Except Error Unit × State)
    (tables : Tables) (op : Op) : Prop where
  accepted : ∀ after, outcome = (.ok (), after) →
    accepts tables op ∧ view after = effect tables op
  succeeds : accepts tables op → ∃ after, outcome = (.ok (), after)
  refused : ∀ err after, outcome = (.error err, after) → view after = tables

theorem Refines.agree {First Second : Type} {firstView : First → Tables}
    {secondView : Second → Tables} {first : Except Error Unit × First}
    {second : Except Error Unit × Second} {tables : Tables} {op : Op}
    (left : Refines firstView first tables op) (right : Refines secondView second tables op) :
    (first.1 = .ok () ↔ second.1 = .ok ()) ∧ firstView first.2 = secondView second.2 := by
  by_cases accepted : accepts tables op
  · obtain ⟨firstAfter, rfl⟩ := left.succeeds accepted
    obtain ⟨secondAfter, rfl⟩ := right.succeeds accepted
    refine ⟨Iff.rfl, ?_⟩
    exact (left.accepted firstAfter rfl).2.trans (right.accepted secondAfter rfl).2.symm
  · rcases first with ⟨firstErr | _, firstAfter⟩
    · rcases second with ⟨secondErr | _, secondAfter⟩
      · have firstStays := left.refused firstErr firstAfter rfl
        have secondStays := right.refused secondErr secondAfter rfl
        exact ⟨by simp, firstStays.trans secondStays.symm⟩
      · exact absurd (right.accepted secondAfter rfl).1 accepted
    · exact absurd (left.accepted firstAfter rfl).1 accepted

theorem bump_congr {tables : Tables} {first second : String → Prop}
    (same : ∀ row ∈ tables.networks, (first row.id ↔ second row.id)) :
    Tables.bump first tables = Tables.bump second tables := by
  unfold Tables.bump
  rw [updated_congr same]

structure Consistent (tables : Tables) : Prop where
  network : ∀ left ∈ tables.networks, ∀ right ∈ tables.networks, left.id = right.id → left = right
  member : ∀ left ∈ tables.memberships, ∀ right ∈ tables.memberships,
    left.networkID = right.networkID → left.nodeID = right.nodeID → left = right
  memberNetwork : ∀ row ∈ tables.memberships, tables.HasNetwork row.networkID
  memberNode : ∀ row ∈ tables.memberships, tables.HasNode row.nodeID
  invite : ∀ left ∈ tables.invites, ∀ right ∈ tables.invites, left.id = right.id → left = right
  token : ∀ left ∈ tables.invites, ∀ right ∈ tables.invites,
    left.tokenHash = right.tokenHash → left = right
  relay : ∀ left ∈ tables.relayAssignments, ∀ right ∈ tables.relayAssignments,
    left.networkID = right.networkID → left.nodeID = right.nodeID → left = right
  relayTarget : ∀ row ∈ tables.relayAssignments, tables.HasMembership row.networkID row.nodeID
  relayRelay : ∀ row ∈ tables.relayAssignments,
    tables.HasMembership row.networkID row.relayNodeID

/-- Every row passes the checks of its table, and network identifiers have no NUL. -/
structure RowsValid (tables : Tables) : Prop where
  networks : ∀ row ∈ tables.networks, PostgresRepository.networkChecks row = true
  nulFree : ∀ row ∈ tables.networks, nulFree row.id
  memberships : ∀ row ∈ tables.memberships, PostgresRepository.membershipChecks row = true
  invites : ∀ row ∈ tables.invites, PostgresRepository.inviteChecks row = true

/-- What the comparison of the repositories assumes of a call: no version has
reached the end of its column, a network identifier has no NUL, an invite is
not revoked before it was created, and a client version is not only blanks. -/
structure Admissible (tables : Tables) (op : Op) : Prop where
  below : ∀ row ∈ tables.networks, row.configVersion < maxInt64
  nulFree : ∀ ctx network, op = .createNetwork ctx network → nulFree network.id
  revoked : ∀ ctx inviteID revokedAt, op = .revokeInvite ctx inviteID revokedAt →
    ∀ row ∈ tables.invites, row.id = inviteID → row.createdAt ≤ revokedAt
  version : ∀ ctx nodeID clientVersion, op = .updateNodeClientVersion ctx nodeID clientVersion →
    blank clientVersion = true → clientVersion = ""

theorem consumeOutcome_unique {tables : Tables} {ctx : Context} {value tokenHash nodeID : String}
    {time : Time} {left right : Except Error Invite} (consistent : Consistent tables)
    (first : ConsumeOutcome tables ctx value tokenHash time nodeID left)
    (second : ConsumeOutcome tables ctx value tokenHash time nodeID right) : left = right := by
  cases first with
  | cancelled err stopped =>
    cases second with
    | cancelled other alsoStopped => rw [Except.error.inj (stopped.symm.trans alsoStopped)]
    | unknown live _ =>
      rw [live] at stopped
      cases stopped
    | settled live _ _ _ _ =>
      rw [live] at stopped
      cases stopped
  | unknown live missing =>
    cases second with
    | cancelled err stopped =>
      rw [live] at stopped
      cases stopped
    | unknown _ _ => rfl
    | settled _ known row stored presented => exact absurd ⟨known, row, stored, presented⟩ missing
  | settled live known row stored presented =>
    cases second with
    | cancelled err stopped =>
      rw [live] at stopped
      cases stopped
    | unknown _ missing => exact absurd ⟨known, row, stored, presented⟩ missing
    | settled _ _ other alsoStored alsoPresented =>
      have same := consistent.token row stored other alsoStored
        (presented.2.trans alsoPresented.2.symm)
      rw [same]

end Ipv6Mesh.DbTables
