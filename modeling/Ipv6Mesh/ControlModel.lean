import Ipv6Mesh.GoNet

/-!
# Control-plane domain models

The records of `internal/control/model.go` and the errors that the control
plane classifies with `errors.Is`. The string enumerations of the source are
inductive types whose last constructor is a text the source does not know.
-/

namespace Ipv6Mesh.ControlModel

open GoText GoNet

inductive MembershipRole where
  | owner
  | admin
  | member
  | unsupported (text : String)
deriving DecidableEq

inductive MembershipStatus where
  | pending
  | active
  | suspended
  | revoked
  | unsupported (text : String)
deriving DecidableEq

inductive EndpointFamily where
  | ipv4
  | ipv6
  | unsupported (text : String)
deriving DecidableEq

inductive RelayAssignmentStatus where
  | active
  | expired
  | revoked
  | unsupported (text : String)
deriving DecidableEq

def MembershipRole.supported : MembershipRole → Bool
  | .unsupported _ => false
  | _ => true

def MembershipStatus.supported : MembershipStatus → Bool
  | .unsupported _ => false
  | _ => true

def RelayAssignmentStatus.supported : RelayAssignmentStatus → Bool
  | .unsupported _ => false
  | _ => true

structure Network where
  id : String
  name : String
  ipv4Pool : String
  ownerID : String
  configVersion : Int
  createdAt : Time
deriving DecidableEq

structure Node where
  id : String
  displayName : String
  publicKey : String
  platform : String
  clientVersion : String
  lastSeen : Time
deriving DecidableEq

structure Membership where
  networkID : String
  nodeID : String
  virtualIPv4 : IP
  role : MembershipRole
  status : MembershipStatus
deriving DecidableEq

structure EndpointCandidate where
  nodeID : String
  address : IP
  port : UInt16
  family : EndpointFamily
  interface : String
  priority : Int
  observedAt : Time
deriving DecidableEq

structure Invite where
  id : String
  networkID : String
  tokenHash : String
  expiresAt : Time
  consumedAt : Option Time
  revokedAt : Option Time
  consumedByNodeID : String
  createdAt : Time
deriving DecidableEq

def Invite.isExpired (invite : Invite) (now : Time) : Bool := invite.expiresAt ≤ now

structure RelayAssignment where
  id : String
  networkID : String
  nodeID : String
  relayNodeID : String
  address : IP
  port : UInt16
  family : EndpointFamily
  status : RelayAssignmentStatus
  assignedAt : Time
  expiresAt : Option Time
deriving DecidableEq

structure Peer where
  nodeID : String
  displayName : String
  publicKey : String
  virtualIPv4 : IP
  node : Node
  membership : Membership
  endpoints : List EndpointCandidate
deriving DecidableEq

structure NetworkSnapshot where
  networkID : String
  generation : Int
  configVersion : Int
  localNodeID : String
  localVirtualIPv4 : IP
  peers : List Peer
  relayAssignment : Option RelayAssignment
  relay : Option RelayAssignment
  generatedAt : Time
deriving DecidableEq

inductive Sentinel where
  | validation
  | notFound
  | conflict
  | inviteExpired
  | inviteConsumed
  | inviteRevoked
  | invalidContext
  | contextCanceled
  | contextDeadlineExceeded
  | invalidPool
  | poolExhausted
  | invalidInviteToken
  | invalidRequest
  | invalidJSON
  | requestTooLarge
  | enrollmentRecoveryPending
  | missingCredential
  | malformedCredential
  | invalidCredential
  | invalidBootstrapToken
  | unauthorized
  | invalidSessionTTL
  | sessionExpired
  | wrongNetwork
  | revokedNetwork
  | insufficientPermission
  | roomAlreadyExists
  | roomModeDisabled
deriving DecidableEq

/-- An `error` value: a sentinel, a sentinel wrapped with a text, a
`ValidationError`, a `PoolExhaustedError`, an `errors.Join`, or an error from
outside the program. -/
inductive Error where
  | sentinel (identity : Sentinel)
  | wrapped (identity : Sentinel) (detail : String)
  | invalid (model field reason : String)
  | poolExhausted (cidr : String)
  | join (left right : Error)
  | external (text : String)
deriving DecidableEq

def Error.is : Error → Sentinel → Bool
  | .sentinel identity, target => identity = target
  | .wrapped identity _, target => identity = target
  | .invalid _ _ _, target => target = .validation
  | .poolExhausted _, target => target = .poolExhausted
  | .join left right, target => left.is target || right.is target
  | .external _, _ => false

inductive Context where
  | nil
  | live
  | done (err : Error)
deriving DecidableEq

def contextError : Context → Except Error Unit
  | .nil => .error (.sentinel .invalidContext)
  | .live => .ok ()
  | .done err => .error err

end Ipv6Mesh.ControlModel
