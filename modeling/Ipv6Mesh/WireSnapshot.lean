import Ipv6Mesh.DbSnapshot
import Ipv6Mesh.GoJson

/-!
# Snapshots on the HTTP wire

The two sides of `internal/control`: the response records of `http.go` with the
names under which the server writes them, and the wire records of `client.go`
with the names under which the client reads them. Enumerations are texts on the
wire. The server fails to write a snapshot exactly when a time is outside RFC
3339 or an address is not 0, 4 or 16 bytes long. Strings are valid UTF-8 here;
`encoding/json` would replace invalid bytes.
-/

namespace Ipv6Mesh.WireSnapshot

open GoText GoNet GoJson ControlModel

def roleText : MembershipRole → String
  | .owner => "owner"
  | .admin => "admin"
  | .member => "member"
  | .unsupported text => text

def roleOf (text : String) : MembershipRole :=
  if text = "owner" then .owner
  else if text = "admin" then .admin
  else if text = "member" then .member
  else .unsupported text

def membershipStatusText : MembershipStatus → String
  | .pending => "pending"
  | .active => "active"
  | .suspended => "suspended"
  | .revoked => "revoked"
  | .unsupported text => text

def membershipStatusOf (text : String) : MembershipStatus :=
  if text = "pending" then .pending
  else if text = "active" then .active
  else if text = "suspended" then .suspended
  else if text = "revoked" then .revoked
  else .unsupported text

def familyText : EndpointFamily → String
  | .ipv4 => "ipv4"
  | .ipv6 => "ipv6"
  | .unsupported text => text

def familyOf (text : String) : EndpointFamily :=
  if text = "ipv4" then .ipv4 else if text = "ipv6" then .ipv6 else .unsupported text

def relayStatusText : RelayAssignmentStatus → String
  | .active => "active"
  | .expired => "expired"
  | .revoked => "revoked"
  | .unsupported text => text

def relayStatusOf (text : String) : RelayAssignmentStatus :=
  if text = "active" then .active
  else if text = "expired" then .expired
  else if text = "revoked" then .revoked
  else .unsupported text

def ipText (ip : IP) : String := if ip = [] then "" else text ip

def unmarshalIP (source : String) : Option IP := if source = "" then some [] else parseIP source

section Server

variable (clock : Rfc3339)

def timeJson (instant : Time) : Json := .string ((clock.format instant).getD "")

def ipJson (ip : IP) : Json := .string (ipText ip)

def apiNodeResponse (node : Node) : Json :=
  .object [("id", .string node.id), ("display_name", .string node.displayName),
    ("public_key", .string node.publicKey), ("platform", .string node.platform),
    ("client_version", .string node.clientVersion), ("last_seen", timeJson clock node.lastSeen)]

def apiMembershipResponse (membership : Membership) : Json :=
  .object [("network_id", .string membership.networkID), ("node_id", .string membership.nodeID),
    ("virtual_ipv4", ipJson membership.virtualIPv4),
    ("role", .string (roleText membership.role)),
    ("status", .string (membershipStatusText membership.status))]

def apiEndpointResponse (endpoint : EndpointCandidate) : Json :=
  .object [("node_id", .string endpoint.nodeID), ("address", ipJson endpoint.address),
    ("port", .number (formatInt (endpoint.port.toNat : Int))),
    ("family", .string (familyText endpoint.family)),
    ("interface", .string endpoint.interface),
    ("priority", .number (formatInt endpoint.priority)),
    ("observed_at", timeJson clock endpoint.observedAt)]

def apiRelayAssignmentResponse (assignment : RelayAssignment) : Json :=
  .object ([("id", .string assignment.id), ("network_id", .string assignment.networkID),
    ("node_id", .string assignment.nodeID), ("relay_node_id", .string assignment.relayNodeID),
    ("address", ipJson assignment.address),
    ("port", .number (formatInt (assignment.port.toNat : Int))),
    ("family", .string (familyText assignment.family)),
    ("status", .string (relayStatusText assignment.status)),
    ("assigned_at", timeJson clock assignment.assignedAt)] ++
    match assignment.expiresAt with
    | none => []
    | some expiry => [("expires_at", timeJson clock expiry)])

def peerResponse (peer : Peer) : Json :=
  .object [("node_id", .string peer.nodeID), ("display_name", .string peer.displayName),
    ("public_key", .string peer.publicKey), ("virtual_ipv4", ipJson peer.virtualIPv4),
    ("node", apiNodeResponse clock peer.node),
    ("membership", apiMembershipResponse peer.membership),
    ("endpoints", .array (peer.endpoints.map (apiEndpointResponse clock)))]

def relayOf (snapshot : NetworkSnapshot) : Option RelayAssignment :=
  snapshot.relayAssignment.or snapshot.relay

def snapshotResponse (snapshot : NetworkSnapshot) : Json :=
  .object ([("network_id", .string snapshot.networkID),
    ("generation", .number (formatInt snapshot.generation)),
    ("config_version", .number (formatInt snapshot.configVersion)),
    ("local_node_id", .string snapshot.localNodeID),
    ("local_virtual_ipv4", ipJson snapshot.localVirtualIPv4),
    ("peers", .array (snapshot.peers.map (peerResponse clock)))] ++
    (match relayOf snapshot with
    | none => []
    | some relay => [("relay_assignment", apiRelayAssignmentResponse clock relay)]) ++
    [("generated_at", timeJson clock snapshot.generatedAt)])

def relayTimes (assignment : RelayAssignment) : List Time :=
  assignment.assignedAt :: assignment.expiresAt.toList

def snapshotTimes (snapshot : NetworkSnapshot) : List Time :=
  snapshot.generatedAt ::
    (snapshot.peers.flatMap fun peer =>
      peer.node.lastSeen :: peer.endpoints.map EndpointCandidate.observedAt) ++
    (relayOf snapshot).toList.flatMap relayTimes

def snapshotAddresses (snapshot : NetworkSnapshot) : List IP :=
  snapshot.localVirtualIPv4 ::
    (snapshot.peers.flatMap fun peer =>
      peer.virtualIPv4 :: peer.membership.virtualIPv4 ::
        peer.endpoints.map EndpointCandidate.address) ++
    (relayOf snapshot).toList.map RelayAssignment.address

def writeSnapshot {Text : Type} (codec : Codec Text) (snapshot : NetworkSnapshot) :
    Option Text :=
  if (snapshotTimes snapshot).all (fun instant => (clock.format instant).isSome) &&
      (snapshotAddresses snapshot).all (fun ip => ip.length ∈ [0, 4, 16]) then
    some (codec.marshal (snapshotResponse clock snapshot))
  else none

end Server

section Client

structure NodeWire where
  id : String
  displayName : String
  publicKey : String
  platform : String
  clientVersion : String
  lastSeen : Time

structure MembershipWire where
  networkID : String
  nodeID : String
  virtualIPv4 : IP
  role : String
  status : String

structure EndpointWire where
  nodeID : String
  address : IP
  port : UInt16
  family : String
  interface : String
  priority : Int
  observedAt : Time

structure RelayWire where
  id : String
  networkID : String
  nodeID : String
  relayNodeID : String
  address : IP
  port : UInt16
  family : String
  status : String
  assignedAt : Time
  expiresAt : Option Time

structure PeerWire where
  nodeID : String
  displayName : String
  publicKey : String
  virtualIPv4 : IP
  node : NodeWire
  membership : MembershipWire
  endpoints : List EndpointWire

structure SnapshotWire where
  networkID : String
  generation : Int
  configVersion : Int
  localNodeID : String
  localVirtualIPv4 : IP
  peers : List PeerWire
  relayAssignment : Option RelayWire
  generatedAt : Time

def NodeWire.zero : NodeWire := ⟨"", "", "", "", "", 0⟩
def MembershipWire.zero : MembershipWire := ⟨"", "", [], "", ""⟩
def EndpointWire.zero : EndpointWire := ⟨"", [], 0, "", "", 0, 0⟩
def RelayWire.zero : RelayWire := ⟨"", "", "", "", [], 0, "", "", 0, none⟩
def PeerWire.zero : PeerWire := ⟨"", "", "", [], .zero, .zero, []⟩
def SnapshotWire.zero : SnapshotWire := ⟨"", 0, 0, "", [], [], none, 0⟩

variable (fold : String → String) (clock : Rfc3339)

def ipInto : Json → IP → Option IP := textInto unmarshalIP

def nodeFields : List (StructField NodeWire) :=
  [structField "id" (·.id) (fun wire id => { wire with id }) stringInto,
    structField "display_name" (·.displayName) (fun wire displayName => { wire with displayName })
      stringInto,
    structField "public_key" (·.publicKey) (fun wire publicKey => { wire with publicKey })
      stringInto,
    structField "platform" (·.platform) (fun wire platform => { wire with platform }) stringInto,
    structField "client_version" (·.clientVersion)
      (fun wire clientVersion => { wire with clientVersion }) stringInto,
    structField "last_seen" (·.lastSeen) (fun wire lastSeen => { wire with lastSeen })
      (timeInto clock)]

def membershipFields : List (StructField MembershipWire) :=
  [structField "network_id" (·.networkID) (fun wire networkID => { wire with networkID })
      stringInto,
    structField "node_id" (·.nodeID) (fun wire nodeID => { wire with nodeID }) stringInto,
    structField "virtual_ipv4" (·.virtualIPv4) (fun wire virtualIPv4 => { wire with virtualIPv4 })
      ipInto,
    structField "role" (·.role) (fun wire role => { wire with role }) stringInto,
    structField "status" (·.status) (fun wire status => { wire with status }) stringInto]

def endpointFields : List (StructField EndpointWire) :=
  [structField "node_id" (·.nodeID) (fun wire nodeID => { wire with nodeID }) stringInto,
    structField "address" (·.address) (fun wire address => { wire with address }) ipInto,
    structField "port" (·.port) (fun wire port => { wire with port }) uint16Into,
    structField "family" (·.family) (fun wire family => { wire with family }) stringInto,
    structField "interface" (·.interface) (fun wire interface => { wire with interface })
      stringInto,
    structField "priority" (·.priority) (fun wire priority => { wire with priority }) int64Into,
    structField "observed_at" (·.observedAt) (fun wire observedAt => { wire with observedAt })
      (timeInto clock)]

def relayFields : List (StructField RelayWire) :=
  [structField "id" (·.id) (fun wire id => { wire with id }) stringInto,
    structField "network_id" (·.networkID) (fun wire networkID => { wire with networkID })
      stringInto,
    structField "node_id" (·.nodeID) (fun wire nodeID => { wire with nodeID }) stringInto,
    structField "relay_node_id" (·.relayNodeID) (fun wire relayNodeID => { wire with relayNodeID })
      stringInto,
    structField "address" (·.address) (fun wire address => { wire with address }) ipInto,
    structField "port" (·.port) (fun wire port => { wire with port }) uint16Into,
    structField "family" (·.family) (fun wire family => { wire with family }) stringInto,
    structField "status" (·.status) (fun wire status => { wire with status }) stringInto,
    structField "assigned_at" (·.assignedAt) (fun wire assignedAt => { wire with assignedAt })
      (timeInto clock),
    structField "expires_at" (·.expiresAt) (fun wire expiresAt => { wire with expiresAt })
      (pointerInto 0 (timeInto clock))]

def peerFields : List (StructField PeerWire) :=
  [structField "node_id" (·.nodeID) (fun wire nodeID => { wire with nodeID }) stringInto,
    structField "display_name" (·.displayName) (fun wire displayName => { wire with displayName })
      stringInto,
    structField "public_key" (·.publicKey) (fun wire publicKey => { wire with publicKey })
      stringInto,
    structField "virtual_ipv4" (·.virtualIPv4) (fun wire virtualIPv4 => { wire with virtualIPv4 })
      ipInto,
    structField "node" (·.node) (fun wire node => { wire with node })
      (structInto fold (nodeFields clock)),
    structField "membership" (·.membership) (fun wire membership => { wire with membership })
      (structInto fold membershipFields),
    structField "endpoints" (·.endpoints) (fun wire endpoints => { wire with endpoints })
      (sliceInto .zero (structInto fold (endpointFields clock)))]

def snapshotFields : List (StructField SnapshotWire) :=
  [structField "network_id" (·.networkID) (fun wire networkID => { wire with networkID })
      stringInto,
    structField "generation" (·.generation) (fun wire generation => { wire with generation })
      int64Into,
    structField "config_version" (·.configVersion)
      (fun wire configVersion => { wire with configVersion }) int64Into,
    structField "local_node_id" (·.localNodeID) (fun wire localNodeID => { wire with localNodeID })
      stringInto,
    structField "local_virtual_ipv4" (·.localVirtualIPv4)
      (fun wire localVirtualIPv4 => { wire with localVirtualIPv4 }) ipInto,
    structField "peers" (·.peers) (fun wire peers => { wire with peers })
      (sliceInto .zero (structInto fold (peerFields fold clock))),
    structField "relay_assignment" (·.relayAssignment)
      (fun wire relayAssignment => { wire with relayAssignment })
      (pointerInto .zero (structInto fold (relayFields clock))),
    structField "generated_at" (·.generatedAt) (fun wire generatedAt => { wire with generatedAt })
      (timeInto clock)]

def nodeFromWire (wire : NodeWire) : Node :=
  ⟨wire.id, wire.displayName, wire.publicKey, wire.platform, wire.clientVersion, wire.lastSeen⟩

def membershipFromWire (wire : MembershipWire) : Membership :=
  ⟨wire.networkID, wire.nodeID, wire.virtualIPv4, roleOf wire.role,
    membershipStatusOf wire.status⟩

def endpointFromWire (wire : EndpointWire) : EndpointCandidate :=
  ⟨wire.nodeID, wire.address, wire.port, familyOf wire.family, wire.interface, wire.priority,
    wire.observedAt⟩

def relayFromWire (wire : RelayWire) : RelayAssignment :=
  ⟨wire.id, wire.networkID, wire.nodeID, wire.relayNodeID, wire.address, wire.port,
    familyOf wire.family, relayStatusOf wire.status, wire.assignedAt, wire.expiresAt⟩

def peerFromWire (wire : PeerWire) : Peer :=
  ⟨wire.nodeID, wire.displayName, wire.publicKey, wire.virtualIPv4, nodeFromWire wire.node,
    membershipFromWire wire.membership, wire.endpoints.map endpointFromWire⟩

inductive InvalidResponse where
  | exceedsLimit
  | malformed
  | multipleValues
  | otherNetwork
  | identityOrGeneration
  deriving DecidableEq, Repr

def snapshotFromWire (wire : SnapshotWire) : Except InvalidResponse NetworkSnapshot :=
  if blank wire.networkID || wire.generation ≤ 0 || blank wire.localNodeID ||
      (to4 wire.localVirtualIPv4).isNone then .error .identityOrGeneration
  else .ok {
    networkID := wire.networkID
    generation := wire.generation
    configVersion := wire.configVersion
    localNodeID := wire.localNodeID
    localVirtualIPv4 := wire.localVirtualIPv4
    peers := wire.peers.map peerFromWire
    relayAssignment := wire.relayAssignment.map relayFromWire
    relay := none
    generatedAt := wire.generatedAt }

variable {Text : Type} (codec : Codec Text)

def decodeStrict (data : Text) : Except InvalidResponse SnapshotWire :=
  match codec.values data with
  | none => .error .malformed
  | some [] => .error .malformed
  | some (first :: rest) =>
    match structInto fold (snapshotFields fold clock) first .zero with
    | none => .error .malformed
    | some wire => if rest.isEmpty then .ok wire else .error .multipleValues

def decodeLimited (limit : Nat) (data : Text) : Except InvalidResponse SnapshotWire :=
  if limit < codec.size data then .error .exceedsLimit
  else decodeStrict fold clock codec data

def readSnapshot (limit : Nat) (networkID : String) (data : Text) :
    Except InvalidResponse NetworkSnapshot := do
  let wire ← decodeLimited fold clock codec limit data
  if wire.networkID ≠ networkID then .error .otherNetwork
  else snapshotFromWire wire

end Client

end Ipv6Mesh.WireSnapshot
