import Ipv6Mesh.GoProgram
import Ipv6Mesh.RelayRoutes
import Ipv6Mesh.WgntApi

/-!
# Relay configurations and their appliers

`internal/relay/config.go`, `wireguard_linux.go` and `runtime.go`. The commands
that configure WireGuard and the system calls that write the temporary key file
are answered by a `Host`, a command by what was run before it; the route
manager is the one of `RelayRoutes`. A manager has a runner and a runtime has
both managers.
-/

namespace Ipv6Mesh.RelayConfig

open ControlModel (Context Error)
open GoText GoNet GoProgram
open WgntApi (Key parseKey WireGuardPeer Configuration InvalidConfig)
open RelayRoutes (validInterfaceName Invocation System Errors)

structure Peer where
  nodeID : String
  publicKey : String
  virtualIPv4 : Addr
  endpoint : AddrPort
deriving DecidableEq

structure Config where
  networkID : String
  interfaceName : String
  listenPort : UInt16
  virtualIPv4 : Addr
  privateKey : Key
  peers : List Peer
deriving DecidableEq

inductive ConfigError where
  /-- `ErrInvalidConfig` with the text that follows it. -/
  | invalidConfig (detail : String)
  | duplicatePeer
  | duplicateAddress
deriving DecidableEq

def maxPeers : Nat := 4096

def refuse (refused : Bool) (error : ConfigError) : Except ConfigError Unit :=
  if refused then .error error else .ok ()

def unusableIPv4 (address : Addr) : Bool :=
  !address.isValid || !address.is4 || address.isUnspecified || address.isMulticast

def unusableEndpoint (endpoint : AddrPort) : Bool :=
  endpoint.isValid && (endpoint.port = 0 || !endpoint.addr.isGlobalUnicast ||
    endpoint.addr.isLinkLocalUnicast)

def peerKey (peer : Peer) : Except ConfigError Key :=
  match parseKey peer.publicKey with
  | none => .error (.invalidConfig ("peer " ++ peer.nodeID ++ " public key is invalid"))
  | some key =>
    if key.isZero then
      .error (.invalidConfig ("peer " ++ peer.nodeID ++ " public key is invalid"))
    else .ok key

def validatePeers (relayAddress : Addr) :
    Nat → List Peer → List Key → List Addr → Except ConfigError Unit
  | _, [], _, _ => .ok ()
  | index, peer :: rest, seenKeys, seenAddresses => do
      refuse (blank peer.nodeID)
        (.invalidConfig ("peer " ++ Nat.repr index ++ " node ID is required"))
      let publicKey ← peerKey peer
      refuse (publicKey ∈ seenKeys) .duplicatePeer
      refuse (unusableIPv4 peer.virtualIPv4) (.invalidConfig
        ("peer " ++ peer.nodeID ++ " virtual address must be a usable IPv4 address"))
      refuse (peer.virtualIPv4 = relayAddress) .duplicateAddress
      refuse (peer.virtualIPv4 ∈ seenAddresses) .duplicateAddress
      refuse (unusableEndpoint peer.endpoint) (.invalidConfig
        ("peer " ++ peer.nodeID ++ " endpoint is not a usable global address"))
      validatePeers relayAddress (index + 1) rest (publicKey :: seenKeys)
        (peer.virtualIPv4 :: seenAddresses)

def Config.validate (config : Config) : Except ConfigError Unit := do
  refuse (blank config.networkID || blank config.interfaceName || config.listenPort = 0 ||
      config.privateKey.isZero)
    (.invalidConfig "network, interface, listen port, and private key are required")
  refuse (!validInterfaceName config.interfaceName)
    (.invalidConfig "interface name is invalid")
  refuse (unusableIPv4 config.virtualIPv4)
    (.invalidConfig "relay virtual address must be a usable IPv4 address")
  refuse (maxPeers < config.peers.length) (.invalidConfig "peer count exceeds 4096")
  validatePeers config.virtualIPv4 0 config.peers [] []

inductive RuntimeConfigError where
  | config (error : ConfigError)
  | wireGuard (error : InvalidConfig)
deriving DecidableEq

/-- The peer that `WireGuardConfiguration` writes; a key that cannot be read is the zero key. -/
def wireGuardPeer (peer : Peer) : WireGuardPeer where
  publicKey := (parseKey peer.publicKey).getD Key.zero
  endpoint := peer.endpoint
  persistentKeepalive := 0
  allowedIPs := [prefixFrom peer.virtualIPv4 32]

def Config.wireGuardConfiguration (config : Config) :
    Except RuntimeConfigError Configuration := do
  config.validate.mapError .config
  let result : Configuration :=
    { privateKey := config.privateKey, listenPort := config.listenPort, replacePeers := true,
      peers := config.peers.map wireGuardPeer }
  result.validate.mapError .wireGuard
  return result

def Config.overlay (config : Config) : List NetPrefix :=
  config.peers.map fun peer => prefixFrom peer.virtualIPv4 32

abbrev Command := List String

/-- The commands and system calls of one call of `Apply`. A command that fails
has an error text, and so has a system call. -/
structure Host where
  run : List Command → Command → Except String String
  mkdirAll : Option String
  createTemp : Except String String
  chmod : Option String
  writeString : Option String
  close : Option String

inductive WireGuardError where
  | configuration (error : InvalidConfig)
  /-- `ErrInvalidConfig` of package `relay` with the text that follows it. -/
  | invalidConfig (detail : String)
  | context (error : Error)
  | command (detail failure : String)
  | keyFile (detail failure : String)
deriving DecidableEq

section WireGuardManager

variable (host : Host)

def contextError : Context → Except WireGuardError Unit
  | .nil => .error (.context (.sentinel .contextCanceled))
  | .live => .ok ()
  | .done error => .error (.context error)

def keyFileCall (failure : Option String) : Except WireGuardError Unit :=
  match failure with
  | none => .ok ()
  | some failure => .error (.keyFile "" failure)

def writePrivateKey (tempDir : String) : Except WireGuardError String := do
  if tempDir ≠ "" then keyFileCall host.mkdirAll
  let path ← host.createTemp.mapError (.keyFile "create temporary relay key file")
  keyFileCall host.chmod
  keyFileCall host.writeString
  keyFileCall host.close
  return path

def runCommand (command : Command) : Program (List Command) String String :=
  call fun history => (host.run history command, history ++ [command])

def mustRun (detail : String) (command : Command) :
    Program (List Command) WireGuardError Unit := do
  let _ ← mapStop (.command detail) (runCommand host command)
  return ()

def ensureLink (interfaceName : String) : Program (List Command) WireGuardError Unit :=
  fun history =>
    match runCommand host ["ip", "link", "show", "dev", interfaceName] history with
    | (.ok _, history) => (.ok (), history)
    | (.error _, history) =>
      mustRun host "create relay WireGuard interface"
        ["ip", "link", "add", "dev", interfaceName, "type", "wireguard"] history

def removePeers (interfaceName : String) (desiredKeys : List String) :
    List String → Program (List Command) WireGuardError Unit
  | [] => pure ()
  | publicKey :: rest =>
    if publicKey ∈ desiredKeys then removePeers interfaceName desiredKeys rest
    else do
      mustRun host "remove stale relay WireGuard peer"
        ["wg", "set", interfaceName, "peer", publicKey, "remove"]
      removePeers interfaceName desiredKeys rest

def removeStalePeers (interfaceName : String) (desiredKeys : List String) :
    Program (List Command) WireGuardError Unit :=
  fun history =>
    match runCommand host ["wg", "show", interfaceName, "peers"] history with
    | (.ok existing, history) =>
      removePeers host interfaceName desiredKeys (fields existing) history
    | (.error _, history) => (.ok (), history)

def singleHost (allowedIPs : List NetPrefix) : Bool :=
  match allowedIPs with
  | [allowed] => allowed.isValid && allowed.addr.is4 && allowed.bits = some 32
  | _ => false

def peerArguments : List WireGuardPeer → Except WireGuardError (List String)
  | [] => .ok []
  | peer :: rest =>
    if !singleHost peer.allowedIPs then
      .error (.invalidConfig "relay peer must contain one IPv4 /32 AllowedIP")
    else do
      let endpoint :=
        if peer.endpoint.isValid then ["endpoint", peer.endpoint.toText] else []
      let others ← peerArguments rest
      return ["peer", peer.publicKey.base64, "allowed-ips"] ++
        peer.allowedIPs.map NetPrefix.toText ++ endpoint ++ others

def wireGuardApply (tempDir : String) (ctx : Context) (interfaceName : String)
    (configuration : Configuration) : Program (List Command) WireGuardError Unit := do
  mapStop .configuration (ask fun _ => configuration.validate)
  stopWhen (!validInterfaceName interfaceName) (.invalidConfig "invalid relay interface name")
  ask fun _ => contextError ctx
  ensureLink host interfaceName
  let keyPath ← ask fun _ => writePrivateKey host tempDir
  removeStalePeers host interfaceName (configuration.peers.map (·.publicKey.base64))
  let peers ← ask fun _ => peerArguments configuration.peers
  mustRun host "configure relay WireGuard interface" (["wg", "set", interfaceName, "private-key",
    keyPath, "listen-port", Nat.repr configuration.listenPort.toNat] ++ peers)
  mustRun host "bring relay WireGuard interface up"
    ["ip", "link", "set", "up", "dev", interfaceName]

def wireGuardDown (ctx : Context) (interfaceName : String) :
    Program (List Command) WireGuardError Unit := do
  ask fun _ => contextError ctx
  stopWhen (!validInterfaceName interfaceName) (.invalidConfig "relay interface name is required")
  mustRun host "bring relay WireGuard interface down"
    ["ip", "link", "set", "down", "dev", interfaceName]

end WireGuardManager

structure Runtime where
  active : Bool
  interfaceName : String
  routes : System
  commands : List Command

/-- What surrounds one call of `Runtime.Apply`; its context may be cancelled between any two of the
three checks. -/
structure Environment where
  host : Host
  tempDir : String
  ctx : Context
  routes : Invocation
  rollbackCtx : Context

inductive RuntimeError where
  | configuration (error : RuntimeConfigError)
  /-- `apply relay WireGuard configuration`. -/
  | wireGuard (error : WireGuardError)
  /-- `apply relay overlay routes`, joined with the error of the rollback. -/
  | routes (errors : Errors) (rollback : Option WireGuardError)
deriving DecidableEq

def Runtime.apply (environment : Environment) (config : Config) (runtime : Runtime) :
    Option RuntimeError × Runtime :=
  let host := environment.host
  match config.wireGuardConfiguration with
  | .error error => (some (.configuration error), runtime)
  | .ok configuration =>
    match wireGuardApply host environment.tempDir environment.ctx config.interfaceName
        configuration runtime.commands with
    | (.error error, commands) => (some (.wireGuard error), { runtime with commands })
    | (.ok _, commands) =>
      match RelayRoutes.apply environment.routes config.interfaceName config.virtualIPv4
          config.overlay runtime.routes with
      | ([], routes) => (none, ⟨true, config.interfaceName, routes, commands⟩)
      | (errors, routes) =>
        match wireGuardDown host environment.rollbackCtx config.interfaceName commands with
        | (.error error, commands) =>
          (some (.routes errors (some error)), { runtime with routes, commands })
        | (.ok _, commands) =>
          (some (.routes errors none), { runtime with routes, commands })

end Ipv6Mesh.RelayConfig
