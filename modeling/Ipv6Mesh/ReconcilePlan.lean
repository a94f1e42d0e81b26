import Ipv6Mesh.ControlModel
import Ipv6Mesh.WgntApi

/-!
# From a snapshot to a WireGuard plan

`plan` transcribes `Applier.plan` and `selectEndpoint` of
`internal/reconcile/snapshot.go`. An `Applier` is what `NewApplier` accepts:
its private key is not zero and its keepalive is in range.
-/

namespace Ipv6Mesh.ReconcilePlan

open GoText GoNet ControlModel WgntApi

structure Applier where
  privateKey : Key
  listenPort : UInt16
  persistentKeepalive : Duration
  privateKeyPresent : privateKey.isZero = false
  keepaliveValid : keepaliveInRange persistentKeepalive = true

structure Options where
  adapter : Bool
  routes : Bool
  privateKey : Key
  interfaceName : String
  listenPort : UInt16
  persistentKeepalive : Duration

structure InvalidOptions where
  detail : Option String
deriving DecidableEq

def Options.portOrDefault (options : Options) : UInt16 :=
  if options.listenPort = 0 then 51820 else options.listenPort

def newApplier (options : Options) : Except InvalidOptions (Applier × String) :=
  if missing : !options.adapter || !options.routes || options.privateKey.isZero then
    .error ⟨none⟩
  else if inRange : keepaliveInRange options.persistentKeepalive then
    .ok ({ privateKey := options.privateKey
           listenPort := options.portOrDefault
           persistentKeepalive := options.persistentKeepalive
           privateKeyPresent := (Bool.or_eq_false_iff.mp (Bool.eq_false_of_not_eq_true missing)).2
           keepaliveValid := inRange },
         if blank options.interfaceName then "IPv6Mesh" else options.interfaceName)
  else .error ⟨some "persistent keepalive is out of range"⟩

/-- `ErrInvalidSnapshot` or `ErrInvalidConfig`, each with the text that follows it. -/
inductive PlanError where
  | invalidSnapshot (detail : String)
  | invalidConfig (detail : String)
deriving DecidableEq

def refusePlan (refused : Bool) (detail : String) : Except PlanError Unit :=
  if refused then .error (.invalidSnapshot detail) else .ok ()

def ipv4Addr (value : IP) : Option Addr := (to4 value).map addrFrom4

structure EndpointChoice where
  address : AddrPort
  family : Nat
  priority : Int
  observed : Time
deriving DecidableEq

def relayCandidate (peer : Peer) (relay : Option RelayAssignment) : List EndpointCandidate :=
  match relay with
  | some assignment =>
    if assignment.status = .active ∧ assignment.relayNodeID = peer.nodeID ∧
        assignment.address ≠ [] ∧ assignment.port ≠ 0 then
      [{ nodeID := peer.nodeID, address := assignment.address, port := assignment.port,
         family := assignment.family, interface := "relay", priority := 0,
         observedAt := assignment.assignedAt }]
    else []
  | none => []

def choiceOf (candidate : EndpointCandidate) : Option EndpointChoice :=
  if candidate.address = [] ∨ candidate.port = 0 ∨ Time.isZero candidate.observedAt ∨
      candidate.priority < 0 then none
  else do
    let address ← parseAddr (text candidate.address)
    if address.isUnspecified || address.isLoopback || address.isLinkLocalUnicast ||
        address.isMulticast || !address.isGlobalUnicast then none
    let family ← if candidate.family = .ipv6 ∧ address.is6 then some 0
      else if candidate.family = .ipv4 ∧ address.is4 then some 1
      else none
    some { address := ⟨address, candidate.port⟩, family := family,
           priority := candidate.priority, observed := candidate.observedAt }

def choiceLess (left right : EndpointChoice) : Bool :=
  if left.family ≠ right.family then left.family < right.family
  else if left.priority ≠ right.priority then left.priority < right.priority
  else if left.observed ≠ right.observed then right.observed < left.observed
  else left.address.toText < right.address.toText

def selectEndpoint (peer : Peer) (relay : Option RelayAssignment) : AddrPort :=
  let choices := sliceStable choiceLess
    ((peer.endpoints ++ relayCandidate peer relay).filterMap choiceOf)
  match choices with
  | [] => AddrPort.zero
  | choice :: _ => choice.address

def peerKey (peer : Peer) : Except PlanError Key :=
  match parseKey peer.publicKey with
  | some key => .ok key
  | none => .error (.invalidSnapshot ("peer " ++ peer.nodeID ++ " public key: " ++
      "invalid WireGuard configuration: key must be base64-encoded 32 bytes"))

def peerAddress (peer : Peer) (localIP : Addr) : Except PlanError Addr :=
  match ipv4Addr peer.virtualIPv4 with
  | some address =>
    if address = localIP then
      .error (.invalidSnapshot ("peer " ++ peer.nodeID ++ " virtual address is invalid"))
    else .ok address
  | none => .error (.invalidSnapshot ("peer " ++ peer.nodeID ++ " virtual address is invalid"))

def planPeers (applier : Applier) (localNodeID : String) (localIP : Addr)
    (relay : Option RelayAssignment) :
    Nat → List Peer → List Key → List Addr → Except PlanError (List WireGuardPeer × List Route)
  | _, [], _, _ => .ok ([], [])
  | index, peer :: rest, seenKeys, seenAddresses => do
      refusePlan (blank peer.nodeID || peer.nodeID = localNodeID)
        ("peer " ++ Nat.repr index ++ " has an invalid node identity")
      let publicKey ← peerKey peer
      refusePlan publicKey.isZero ("peer " ++ peer.nodeID ++ " public key is empty")
      refusePlan (publicKey ∈ seenKeys) "duplicate peer public key"
      let virtualIP ← peerAddress peer localIP
      refusePlan (virtualIP ∈ seenAddresses) "duplicate peer virtual address"
      let (peers, routes) ← planPeers applier localNodeID localIP relay (index + 1) rest
        (publicKey :: seenKeys) (virtualIP :: seenAddresses)
      .ok ({ publicKey := publicKey, endpoint := selectEndpoint peer relay,
             persistentKeepalive := applier.persistentKeepalive,
             allowedIPs := [prefixFrom virtualIP 32] } :: peers,
           { destination := prefixFrom virtualIP 32, interfaceLUID := 0, nextHop := .invalid,
             metric := 0 } :: routes)

def plan (applier : Applier) (snapshot : NetworkSnapshot) :
    Except PlanError (Configuration × Address × List Route) := do
  refusePlan (blank snapshot.networkID || blank snapshot.localNodeID)
    "network and local node are required"
  match ipv4Addr snapshot.localVirtualIPv4 with
  | none => .error (.invalidSnapshot "local virtual address must be IPv4")
  | some localIP =>
    let relay := snapshot.relayAssignment.or snapshot.relay
    let (peers, routes) ← planPeers applier snapshot.localNodeID localIP relay 0
      snapshot.peers [] []
    let configuration : Configuration :=
      { privateKey := applier.privateKey, listenPort := applier.listenPort, peers := peers,
        replacePeers := true }
    match configuration.validate with
    | .error invalid => .error (.invalidConfig invalid.detail)
    | .ok () => .ok (configuration, ⟨localIP, 32, 0⟩, routes)

end Ipv6Mesh.ReconcilePlan
