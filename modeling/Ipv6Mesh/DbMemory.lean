import Ipv6Mesh.ControlValidation
import Ipv6Mesh.GoFlow
import Ipv6Mesh.GoMap

/-!
# The in-memory control-plane repository

A transcription of `MemoryRepository` in `internal/db/repository.go`. Every
operation returns its error or result together with the repository it leaves;
an error does not by itself restore the previous state. `wall` is the value
`time.Now` returns when an operation falls back to it.
-/

namespace Ipv6Mesh.DbMemory

open GoText GoNet GoMap ControlModel ControlValidation

abbrev GoMap (V : Type) := Std.ExtTreeMap String V

structure MemoryRepository where
  networks : GoMap Network
  nodes : GoMap Node
  publicKeys : GoMap String
  memberships : GoMap (GoMap Membership)
  invites : GoMap Invite
  inviteByToken : GoMap String
  endpoints : GoMap (List EndpointCandidate)
  relayAssignments : GoMap (GoMap RelayAssignment)
  relayAssignmentOwners : GoMap String
  endpointMaxAge : Duration

def defaultEndpointMaxAge : Duration := 10 * minute

def newMemoryRepositoryWithEndpointMaxAge (maxAge : Duration) : MemoryRepository :=
  { networks := ∅, nodes := ∅, publicKeys := ∅, memberships := ∅, invites := ∅,
    inviteByToken := ∅, endpoints := ∅, relayAssignments := ∅, relayAssignmentOwners := ∅,
    endpointMaxAge := maxAge }

def newMemoryRepository : MemoryRepository :=
  newMemoryRepositoryWithEndpointMaxAge defaultEndpointMaxAge

abbrev Outcome (Result : Type) := Except Error Result × MemoryRepository

def guarded {Checked Result : Type} (repository : MemoryRepository) (checks : Except Error Checked)
    (commit : Checked → Result × MemoryRepository) : Outcome Result :=
  match checks with
  | .error err => (.error err, repository)
  | .ok checked => (.ok (commit checked).1, (commit checked).2)

def refuseWhen (refused : Bool) (identity : Sentinel) : Except Error Unit :=
  if refused then .error (.sentinel identity) else .ok ()

def found {Value : Type} : Option Value → Except Error Value
  | some value => .ok value
  | none => .error (.sentinel .notFound)

def MemoryRepository.membership? (repository : MemoryRepository) (networkID nodeID : String) :
    Option Membership :=
  lookup₂ repository.memberships networkID nodeID

def MemoryRepository.relayAssignment? (repository : MemoryRepository)
    (networkID nodeID : String) : Option RelayAssignment :=
  lookup₂ repository.relayAssignments networkID nodeID

def networksOfNode (repository : MemoryRepository) (nodeID : String) : List String :=
  (repository.memberships.toList.filter fun entry => entry.2.contains nodeID).map Prod.fst

def names (assignment : RelayAssignment) (nodeID : String) : Bool :=
  assignment.nodeID = nodeID || assignment.relayNodeID = nodeID

def networksOfRelay (repository : MemoryRepository) (nodeID : String) : List String :=
  (repository.relayAssignments.toList.filter fun entry =>
    entry.2.toList.any fun stored => names stored.2 nodeID).map Prod.fst

def zeroNetwork : Network :=
  { id := "", name := "", ipv4Pool := "", ownerID := "", configVersion := 0, createdAt := 0 }

def nextConfigVersion (version : Int) : Int :=
  if version ≤ 0 then 1 else wrapInt64 (version + 1)

def incrementNetworkVersionLocked (repository : MemoryRepository) (networkID : String) :
    MemoryRepository :=
  let network := repository.networks.getD networkID zeroNetwork
  { repository with
    networks := repository.networks.insert networkID
      { network with configVersion := nextConfigVersion network.configVersion } }

def createNetwork (ctx : Context) (network : Network) (repository : MemoryRepository) :
    Outcome Unit :=
  guarded repository
    (do contextError ctx
        validateNetwork network
        refuseWhen repository.networks[network.id]?.isSome .conflict)
    fun _ =>
      let version := if network.configVersion ≤ 0 then 1 else network.configVersion
      ((), { repository with
        networks := repository.networks.insert network.id
          { network with configVersion := version } })

def getNetwork (ctx : Context) (networkID : String) (repository : MemoryRepository) :
    Except Error Network := do
  contextError ctx
  found repository.networks[networkID]?

def addNode (ctx : Context) (node : Node) (repository : MemoryRepository) : Outcome Unit :=
  guarded repository
    (do contextError ctx
        validateNode node
        refuseWhen repository.nodes[node.id]?.isSome .conflict
        refuseWhen repository.publicKeys[node.publicKey]?.isSome .conflict)
    fun _ => ((), { repository with
      nodes := repository.nodes.insert node.id node
      publicKeys := repository.publicKeys.insert node.publicKey node.id })

def getNode (ctx : Context) (nodeID : String) (repository : MemoryRepository) :
    Except Error Node := do
  contextError ctx
  found repository.nodes[nodeID]?

def getNodeNetworkIDs (ctx : Context) (nodeID : String) (repository : MemoryRepository) :
    Except Error (List String) := do
  contextError ctx
  let _ ← found repository.nodes[nodeID]?
  .ok (sliceStable (fun left right => left < right) (networksOfNode repository nodeID))

def touchNode (ctx : Context) (nodeID : String) (lastSeen : Time)
    (repository : MemoryRepository) : Outcome Unit :=
  guarded repository
    (do contextError ctx
        refuseWhen (Time.isZero lastSeen) .validation
        found repository.nodes[nodeID]?)
    fun node => ((), { repository with
      nodes := repository.nodes.insert nodeID { node with lastSeen := lastSeen } })

def updateNodeClientVersion (ctx : Context) (nodeID clientVersion : String)
    (repository : MemoryRepository) : Outcome Unit :=
  guarded repository
    (do contextError ctx
        refuseWhen (blank clientVersion) .validation
        found repository.nodes[nodeID]?)
    fun node => ((), { repository with
      nodes := repository.nodes.insert nodeID { node with clientVersion := clientVersion } })

def withoutNode (repository : MemoryRepository) (nodeID : String) (node : Node) :
    MemoryRepository :=
  { repository with
    nodes := repository.nodes.erase nodeID
    publicKeys := repository.publicKeys.erase node.publicKey
    endpoints := repository.endpoints.erase nodeID
    invites := repository.invites.map fun _ invite =>
      if invite.consumedByNodeID = nodeID then { invite with consumedByNodeID := "" } else invite
    memberships := repository.memberships.map fun _ (members : GoMap Membership) =>
      members.erase nodeID
    relayAssignments := (repository.relayAssignments.map
      fun _ (assignments : GoMap RelayAssignment) =>
        assignments.filter fun _ assignment => !names assignment nodeID).filter
      fun _ assignments => !assignments.isEmpty
    relayAssignmentOwners := eraseAll repository.relayAssignmentOwners
      (repository.relayAssignments.toList.flatMap fun entry =>
        (entry.2.toList.filter fun stored => names stored.2 nodeID).map fun stored => stored.2.id) }

def affectedNetworks (repository : MemoryRepository) (nodeID : String) : List String :=
  (networksOfNode repository nodeID ++ networksOfRelay repository nodeID).dedup

def removeNode (ctx : Context) (nodeID : String) (repository : MemoryRepository) : Outcome Unit :=
  guarded repository
    (do contextError ctx
        found repository.nodes[nodeID]?)
    fun node => ((), (affectedNetworks repository nodeID).foldl incrementNetworkVersionLocked
      (withoutNode repository nodeID node))

def addMembership (ctx : Context) (membership : Membership) (repository : MemoryRepository) :
    Outcome Unit :=
  guarded repository
    (do contextError ctx
        validateMembership membership
        let network ← found repository.networks[membership.networkID]?
        let _ ← found repository.nodes[membership.nodeID]?
        validateIPv4InPool membership.virtualIPv4 network.ipv4Pool
        refuseWhen (repository.membership? membership.networkID membership.nodeID).isSome .conflict
        refuseWhen ((repository.memberships.getD membership.networkID ∅).toList.any fun entry =>
          equal entry.2.virtualIPv4 membership.virtualIPv4) .conflict)
    fun _ =>
      let stored := { membership with virtualIPv4 := (to4 membership.virtualIPv4).getD [] }
      ((), incrementNetworkVersionLocked { repository with
        memberships :=
          insert₂ repository.memberships membership.networkID membership.nodeID stored }
        membership.networkID)

def deleteRelayAssignmentLocked (networkID : String) (repository : MemoryRepository)
    (nodeID : String) : MemoryRepository :=
  let assignments := repository.relayAssignments.getD networkID ∅
  match assignments[nodeID]? with
  | none => repository
  | some assignment =>
    let remaining := assignments.erase nodeID
    { repository with
      relayAssignments := if remaining.isEmpty then repository.relayAssignments.erase networkID
        else repository.relayAssignments.insert networkID remaining
      relayAssignmentOwners := repository.relayAssignmentOwners.erase assignment.id }

/-- The relay assignments `RemoveMembership` deletes: the one stored under the
node, then every one left that names it. -/
def detachNode (networkID nodeID : String) (repository : MemoryRepository) : MemoryRepository :=
  let detached := deleteRelayAssignmentLocked networkID repository nodeID
  let named := ((detached.relayAssignments.getD networkID ∅).toList.filter fun entry =>
    names entry.2 nodeID).map Prod.fst
  named.foldl (deleteRelayAssignmentLocked networkID) detached

/-- The state after the deletions of `RemoveMembership`, before the version moves. -/
def withoutMember (repository : MemoryRepository) (networkID nodeID : String)
    (members : GoMap Membership) : MemoryRepository :=
  detachNode networkID nodeID { repository with
    memberships := repository.memberships.insert networkID (members.erase nodeID) }

def removeMembership (ctx : Context) (networkID nodeID : String)
    (repository : MemoryRepository) : Outcome Unit :=
  guarded repository
    (do contextError ctx
        let members ← found repository.memberships[networkID]?
        let _ ← found members[nodeID]?
        .ok members)
    fun members => ((), incrementNetworkVersionLocked
      (withoutMember repository networkID nodeID members) networkID)

def unknownConsumer (repository : MemoryRepository) (nodeID : String) : Bool :=
  nodeID ≠ "" && repository.nodes[nodeID]?.isNone

def createInvite (ctx : Context) (invite : Invite) (repository : MemoryRepository) :
    Outcome Unit :=
  guarded repository
    (do contextError ctx
        validateInvite invite
        let _ ← found repository.networks[invite.networkID]?
        refuseWhen (unknownConsumer repository invite.consumedByNodeID) .notFound
        refuseWhen repository.invites[invite.id]?.isSome .conflict
        refuseWhen repository.inviteByToken[invite.tokenHash]?.isSome .conflict)
    fun _ => ((), { repository with
      invites := repository.invites.insert invite.id invite
      inviteByToken := repository.inviteByToken.insert invite.tokenHash invite.id })

def revokeInvite (ctx : Context) (inviteID : String) (revokedAt : Time)
    (repository : MemoryRepository) : Outcome Unit :=
  guarded repository
    (do contextError ctx
        refuseWhen (inviteID = "" || Time.isZero revokedAt) .validation
        let invite ← found repository.invites[inviteID]?
        refuseWhen invite.consumedAt.isSome .inviteConsumed
        .ok invite)
    fun invite =>
      if invite.revokedAt.isSome then ((), repository)
      else ((), { repository with
        invites := repository.invites.insert inviteID { invite with revokedAt := some revokedAt } })

def zeroInvite : Invite :=
  { id := "", networkID := "", tokenHash := "", expiresAt := 0, consumedAt := none,
    revokedAt := none, consumedByNodeID := "", createdAt := 0 }

def inviteByLookupLocked (repository : MemoryRepository) (value tokenHash : String) :
    Option String :=
  match repository.invites[value]? with
  | some invite => if invite.tokenHash ≠ tokenHash then none else some value
  | none =>
    match repository.inviteByToken[tokenHash]? with
    | some inviteID =>
      let invite := repository.invites.getD inviteID zeroInvite
      if invite.networkID = value then some inviteID else none
    | none => none

def consumptionTime (wall consumedAt : Time) : Time :=
  if Time.isZero consumedAt then wall else consumedAt

def consumeInviteForNode (ctx : Context) (wall : Time) (inviteOrNetworkID tokenHash : String)
    (consumedAt : Time) (consumedByNodeID : String) (repository : MemoryRepository) :
    Outcome Invite :=
  guarded repository
    (do contextError ctx
        let inviteID ← found (inviteByLookupLocked repository inviteOrNetworkID tokenHash)
        refuseWhen (unknownConsumer repository consumedByNodeID) .notFound
        let invite := repository.invites.getD inviteID zeroInvite
        refuseWhen invite.consumedAt.isSome .inviteConsumed
        refuseWhen invite.revokedAt.isSome .inviteRevoked
        refuseWhen (invite.isExpired (consumptionTime wall consumedAt)) .inviteExpired
        refuseWhen (consumptionTime wall consumedAt < invite.createdAt) .validation
        .ok inviteID)
    fun inviteID =>
      let consumed := { repository.invites.getD inviteID zeroInvite with
        consumedAt := some (consumptionTime wall consumedAt), consumedByNodeID := consumedByNodeID }
      (consumed, { repository with invites := repository.invites.insert inviteID consumed })

def consumeInvite (ctx : Context) (wall : Time) (inviteOrNetworkID tokenHash : String)
    (consumedAt : Time) (repository : MemoryRepository) : Outcome Invite :=
  consumeInviteForNode ctx wall inviteOrNetworkID tokenHash consumedAt "" repository

def endpointIdentityFor (endpoint : EndpointCandidate) : String × UInt16 × String :=
  (text endpoint.address, endpoint.port, endpoint.interface)

def endpointLess (left right : EndpointCandidate) : Bool :=
  if left.priority ≠ right.priority then left.priority < right.priority
  else if text left.address ≠ text right.address then text left.address < text right.address
  else if left.port ≠ right.port then left.port < right.port
  else left.interface < right.interface

def sortEndpointCandidates (endpoints : List EndpointCandidate) : List EndpointCandidate :=
  sliceStable endpointLess endpoints

def normalizeEndpoint (endpoint : EndpointCandidate) : EndpointCandidate :=
  if endpoint.family = .ipv4 then { endpoint with address := (to4 endpoint.address).getD [] }
  else endpoint

def validateEndpoints (nodeID : String) : List EndpointCandidate →
    List (String × UInt16 × String) → Except Error (List EndpointCandidate)
  | [], _ => .ok []
  | endpoint :: rest, seen => do
      refuseWhen (endpoint.nodeID ≠ nodeID) .validation
      validateEndpointCandidate endpoint
      let validated := normalizeEndpoint endpoint
      refuseWhen (endpointIdentityFor validated ∈ seen) .conflict
      let others ← validateEndpoints nodeID rest (endpointIdentityFor validated :: seen)
      .ok (validated :: others)

def replaceEndpoints (ctx : Context) (nodeID : String) (endpoints : List EndpointCandidate)
    (repository : MemoryRepository) : Outcome Unit :=
  guarded repository
    (do contextError ctx
        let _ ← found repository.nodes[nodeID]?
        validateEndpoints nodeID endpoints [])
    fun validated =>
      ((), (networksOfNode repository nodeID).foldl incrementNetworkVersionLocked
        { repository with
          endpoints := repository.endpoints.insert nodeID (sortEndpointCandidates validated) })

def relayAssignmentOwnerKey (networkID nodeID : String) : String :=
  networkID ++ "\x00" ++ nodeID

def activeMember (member : Option Membership) : Except Error Unit := do
  let membership ← found member
  refuseWhen (membership.status ≠ .active) .validation

/-- The assignment map of the network exists from here on, even when the owner check refuses. -/
def prepareRelayAssignments (repository : MemoryRepository) (networkID : String) :
    MemoryRepository :=
  if repository.relayAssignments[networkID]?.isSome then repository
  else { repository with relayAssignments := repository.relayAssignments.insert networkID ∅ }

/-- A replaced assignment with another identifier gives its identifier back first. -/
def withRelayAssignment (repository : MemoryRepository) (assignment : RelayAssignment) :
    MemoryRepository :=
  let owners := match repository.relayAssignment? assignment.networkID assignment.nodeID with
    | some existing =>
      if existing.id ≠ assignment.id then repository.relayAssignmentOwners.erase existing.id
      else repository.relayAssignmentOwners
    | none => repository.relayAssignmentOwners
  { repository with
    relayAssignments := insert₂ repository.relayAssignments assignment.networkID
      assignment.nodeID assignment
    relayAssignmentOwners := owners.insert assignment.id
      (relayAssignmentOwnerKey assignment.networkID assignment.nodeID) }

def relayAssignmentChecks (ctx : Context) (assignment : RelayAssignment)
    (repository : MemoryRepository) : Except Error Unit := do
  contextError ctx
  validateRelayAssignment assignment
  let _ ← found repository.networks[assignment.networkID]?
  let _ ← found repository.nodes[assignment.nodeID]?
  let _ ← found repository.nodes[assignment.relayNodeID]?
  activeMember (repository.membership? assignment.networkID assignment.nodeID)
  activeMember (repository.membership? assignment.networkID assignment.relayNodeID)

def setRelayAssignment (ctx : Context) (assignment : RelayAssignment)
    (repository : MemoryRepository) : Outcome Unit :=
  match relayAssignmentChecks ctx assignment repository with
  | .error err => (.error err, repository)
  | .ok () =>
    let prepared := prepareRelayAssignments repository assignment.networkID
    let ownerKey := relayAssignmentOwnerKey assignment.networkID assignment.nodeID
    guarded prepared
      (refuseWhen (prepared.relayAssignmentOwners[assignment.id]?.any (· ≠ ownerKey)) .conflict)
      fun _ => ((), incrementNetworkVersionLocked (withRelayAssignment prepared assignment)
        assignment.networkID)

def removeRelayAssignment (ctx : Context) (networkID : String) (repository : MemoryRepository) :
    Outcome Unit :=
  guarded repository
    (do contextError ctx
        let assignments ← found repository.relayAssignments[networkID]?
        refuseWhen assignments.isEmpty .notFound
        .ok assignments)
    fun assignments => ((), incrementNetworkVersionLocked { repository with
      relayAssignmentOwners := eraseAll repository.relayAssignmentOwners
        (assignments.toList.map fun entry => entry.2.id)
      relayAssignments := repository.relayAssignments.erase networkID } networkID)

inductive Op where
  | createNetwork (ctx : Context) (network : Network)
  | addNode (ctx : Context) (node : Node)
  | touchNode (ctx : Context) (nodeID : String) (lastSeen : Time)
  | updateNodeClientVersion (ctx : Context) (nodeID clientVersion : String)
  | removeNode (ctx : Context) (nodeID : String)
  | addMembership (ctx : Context) (membership : Membership)
  | removeMembership (ctx : Context) (networkID nodeID : String)
  | createInvite (ctx : Context) (invite : Invite)
  | revokeInvite (ctx : Context) (inviteID : String) (revokedAt : Time)
  | consumeInvite (ctx : Context) (wall : Time) (inviteOrNetworkID tokenHash : String)
      (consumedAt : Time)
  | consumeInviteForNode (ctx : Context) (wall : Time) (inviteOrNetworkID tokenHash : String)
      (consumedAt : Time) (consumedByNodeID : String)
  | replaceEndpoints (ctx : Context) (nodeID : String) (endpoints : List EndpointCandidate)
  | setRelayAssignment (ctx : Context) (assignment : RelayAssignment)
  | removeRelayAssignment (ctx : Context) (networkID : String)

def dropResult {State Result : Type} (outcome : Except Error Result × State) :
    Except Error Unit × State :=
  (outcome.1.map fun _ => (), outcome.2)

def Op.apply (op : Op) (repository : MemoryRepository) : Outcome Unit :=
  match op with
  | .createNetwork ctx network => DbMemory.createNetwork ctx network repository
  | .addNode ctx node => DbMemory.addNode ctx node repository
  | .touchNode ctx nodeID lastSeen => DbMemory.touchNode ctx nodeID lastSeen repository
  | .updateNodeClientVersion ctx nodeID clientVersion =>
    DbMemory.updateNodeClientVersion ctx nodeID clientVersion repository
  | .removeNode ctx nodeID => DbMemory.removeNode ctx nodeID repository
  | .addMembership ctx membership => DbMemory.addMembership ctx membership repository
  | .removeMembership ctx networkID nodeID =>
    DbMemory.removeMembership ctx networkID nodeID repository
  | .createInvite ctx invite => DbMemory.createInvite ctx invite repository
  | .revokeInvite ctx inviteID revokedAt =>
    DbMemory.revokeInvite ctx inviteID revokedAt repository
  | .consumeInvite ctx wall inviteOrNetworkID tokenHash consumedAt => dropResult
      (DbMemory.consumeInvite ctx wall inviteOrNetworkID tokenHash consumedAt repository)
  | .consumeInviteForNode ctx wall inviteOrNetworkID tokenHash consumedAt nodeID => dropResult
      (DbMemory.consumeInviteForNode ctx wall inviteOrNetworkID tokenHash consumedAt nodeID
        repository)
  | .replaceEndpoints ctx nodeID endpoints =>
    DbMemory.replaceEndpoints ctx nodeID endpoints repository
  | .setRelayAssignment ctx assignment => DbMemory.setRelayAssignment ctx assignment repository
  | .removeRelayAssignment ctx networkID =>
    DbMemory.removeRelayAssignment ctx networkID repository

/-- A transaction body. It may read anything, call any operation and act on
its error, and it decides whether to return an error itself. -/
inductive Callback where
  | finish (result : Except Error Unit)
  | observe (next : MemoryRepository → Callback)
  | call (op : Op) (next : Except Error Unit → Callback)

def Callback.run : Callback → MemoryRepository → Outcome Unit
  | .finish result, repository => (result, repository)
  | .observe next, repository => (next repository).run repository
  | .call op next, repository =>
    (next (op.apply repository).1).run (op.apply repository).2

/-- The deep copy: values are immutable here, so the copy is the repository itself. -/
def cloneMemoryRepositoryLocked (source : MemoryRepository) : MemoryRepository := source

def withTransaction (ctx : Context) (operation : Option Callback)
    (repository : MemoryRepository) : Outcome Unit :=
  match contextError ctx, operation with
  | .error err, _ => (.error err, repository)
  | .ok (), none => (.error (.sentinel .validation), repository)
  | .ok (), some body =>
    match body.run (cloneMemoryRepositoryLocked repository) with
    | (.error err, _) => (.error err, repository)
    | (.ok (), working) =>
      (.ok (), { working with endpointMaxAge := repository.endpointMaxAge })

inductive Action where
  | single (op : Op)
  | withTransaction (ctx : Context) (operation : Option Callback)

def Action.apply (action : Action) (repository : MemoryRepository) : Outcome Unit :=
  match action with
  | .single op => op.apply repository
  | .withTransaction ctx operation => DbMemory.withTransaction ctx operation repository

def Op.step (op : Op) (repository : MemoryRepository) : MemoryRepository :=
  (op.apply repository).2

def Action.step (action : Action) (repository : MemoryRepository) : MemoryRepository :=
  (action.apply repository).2

/-- What an empty repository holds after operations and transactions. -/
abbrev reached (maxAge : Duration) (actions : List Action) : MemoryRepository :=
  GoFlow.run Action.step actions (newMemoryRepositoryWithEndpointMaxAge maxAge)

end Ipv6Mesh.DbMemory
