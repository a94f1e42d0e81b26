import Ipv6Mesh.ControlModel
import Ipv6Mesh.GoCidr

/-!
# Validation of control-plane models

Each check reports the first field it refuses, with the model name, field path
and reason of the source.
-/

namespace Ipv6Mesh.ControlValidation

open GoText GoNet GoCidr ControlModel

def maxPostgresInteger : Int := 2 ^ 31 - 1

def invalidWhen (refused : Bool) (model field reason : String) : Except Error Unit :=
  if refused then .error (.invalid model field reason) else .ok ()

theorem invalidWhen_bind_ok {Result : Type} (refused : Bool) (model field reason : String)
    (next : Unit → Except Error Result) (result : Result) :
    (invalidWhen refused model field reason >>= next) = .ok result ↔
      refused = false ∧ next () = .ok result := by
  cases refused <;> simp [invalidWhen, bind, Except.bind]

theorem invalidWhen_ok (refused : Bool) (model field reason : String) :
    invalidWhen refused model field reason = .ok () ↔ refused = false := by
  cases refused <;> simp [invalidWhen]

def required (model field value : String) : Except Error Unit :=
  invalidWhen (blank value) model field "is required"

/-- The conditions that `ValidateNetwork` and `ValidateIPv4InPool` put on a parsed pool. -/
def poolIsIPv4 (pool : Option CIDR) : Bool := pool.any fun cidr => (to4 cidr.ip).isSome

def poolIsCanonical (pool : Option CIDR) : Bool :=
  pool.any fun cidr => equal cidr.ip cidr.network.ip

def poolHasMask32 (pool : Option CIDR) : Bool := pool.any fun cidr => cidr.network.bits = 32

def validateNetwork (network : Network) : Except Error Unit := do
  required "network" "id" network.id
  required "network" "name" network.name
  required "network" "owner_id" network.ownerID
  let pool := parseCIDR network.ipv4Pool
  invalidWhen (!poolIsIPv4 pool) "network" "ipv4_pool" "must be an IPv4 network"
  invalidWhen (!poolIsCanonical pool) "network" "ipv4_pool" "must not contain host bits"
  invalidWhen (!poolHasMask32 pool) "network" "ipv4_pool" "must use a 32-bit mask"
  invalidWhen (network.configVersion < 0) "network" "config_version" "must not be negative"
  invalidWhen (Time.isZero network.createdAt) "network" "created_at" "is required"

def validateNode (node : Node) : Except Error Unit := do
  required "node" "id" node.id
  required "node" "display_name" node.displayName
  required "node" "public_key" node.publicKey
  required "node" "platform" node.platform
  required "node" "client_version" node.clientVersion

def validateMembership (membership : Membership) : Except Error Unit := do
  required "membership" "network_id" membership.networkID
  required "membership" "node_id" membership.nodeID
  invalidWhen (to4 membership.virtualIPv4).isNone "membership" "virtual_ipv4"
    "must be an IPv4 address"
  invalidWhen (!membership.role.supported) "membership" "role" "is not supported"
  invalidWhen (!membership.status.supported) "membership" "status" "is not supported"

def validateIPv4InPool (address : IP) (ipv4Pool : String) : Except Error Unit := do
  invalidWhen (to4 address).isNone "membership" "virtual_ipv4" "must be an IPv4 address"
  let pool := parseCIDR ipv4Pool
  invalidWhen (!(poolIsIPv4 pool && poolIsCanonical pool)) "network" "ipv4_pool"
    "must be a canonical IPv4 network"
  invalidWhen (!poolHasMask32 pool) "network" "ipv4_pool" "must use a 32-bit mask"
  invalidWhen (!pool.any fun cidr => contains cidr.network ((to4 address).getD []))
    "membership" "virtual_ipv4" "must belong to network ipv4_pool"

def validateEndpointAddress (model : String) (address : IP) (family : EndpointFamily) :
    Except Error Unit := do
  invalidWhen (address = []) model "address" "is required"
  match family with
  | .ipv4 =>
    invalidWhen (to4 address).isNone model "address" "must be IPv4 for family ipv4"
  | .ipv6 =>
    invalidWhen ((to16 address).isNone || (to4 address).isSome) model "address"
      "must be IPv6 for family ipv6"
  | .unsupported _ =>
    .error (.invalid model "family" "must be ipv4 or ipv6")

def validateEndpointCandidate (endpoint : EndpointCandidate) : Except Error Unit := do
  required "endpoint_candidate" "node_id" endpoint.nodeID
  validateEndpointAddress "endpoint_candidate" endpoint.address endpoint.family
  invalidWhen (endpoint.port = 0) "endpoint_candidate" "port" "must be between 1 and 65535"
  invalidWhen (blank endpoint.interface) "endpoint_candidate" "interface" "is required"
  invalidWhen (endpoint.priority < 0 || maxPostgresInteger < endpoint.priority)
    "endpoint_candidate" "priority" "must be between 0 and 2147483647"
  invalidWhen (Time.isZero endpoint.observedAt) "endpoint_candidate" "observed_at" "is required"

def validateInvite (invite : Invite) : Except Error Unit := do
  required "invite" "id" invite.id
  required "invite" "network_id" invite.networkID
  required "invite" "token_hash" invite.tokenHash
  invalidWhen (Time.isZero invite.createdAt) "invite" "created_at" "is required"
  invalidWhen (Time.isZero invite.expiresAt || invite.expiresAt ≤ invite.createdAt)
    "invite" "expires_at" "must be after created_at"
  invalidWhen (invite.consumedAt.any (· < invite.createdAt)) "invite" "consumed_at"
    "must not precede created_at"
  invalidWhen (invite.revokedAt.any (· < invite.createdAt)) "invite" "revoked_at"
    "must not precede created_at"
  invalidWhen (invite.consumedAt.isSome && invite.revokedAt.isSome) "invite" "lifecycle"
    "cannot be both consumed and revoked"
  invalidWhen (invite.consumedByNodeID ≠ "" && invite.consumedAt.isNone) "invite"
    "consumed_by_node_id" "requires consumed_at"

def validateRelayAssignment (assignment : RelayAssignment) : Except Error Unit := do
  required "relay_assignment" "id" assignment.id
  required "relay_assignment" "network_id" assignment.networkID
  required "relay_assignment" "node_id" assignment.nodeID
  required "relay_assignment" "relay_node_id" assignment.relayNodeID
  invalidWhen (assignment.nodeID = assignment.relayNodeID) "relay_assignment" "relay_node_id"
    "must differ from node_id"
  validateEndpointAddress "relay_assignment" assignment.address assignment.family
  invalidWhen (assignment.port = 0) "relay_assignment" "port" "must be between 1 and 65535"
  invalidWhen (!assignment.status.supported) "relay_assignment" "status"
    "is not supported"
  invalidWhen (Time.isZero assignment.assignedAt) "relay_assignment" "assigned_at" "is required"
  invalidWhen (assignment.expiresAt.any (· ≤ assignment.assignedAt)) "relay_assignment"
    "expires_at" "must be after assigned_at"

def isFreshEndpoint (endpoint : EndpointCandidate) (now : Time) (maxAge : Duration) : Bool :=
  if maxAge < 0 || Time.isZero endpoint.observedAt || now < endpoint.observedAt then false
  else now - maxAge ≤ endpoint.observedAt

end Ipv6Mesh.ControlValidation
