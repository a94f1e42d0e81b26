import Ipv6Mesh.CLayout
import Ipv6Mesh.WgntApi

/-!
# The configuration format of WireGuardNT

`buildConfiguration` and `parseStatus` of `internal/wgnt/adapter_windows.go`.
The records are laid out by the alignment of their fields and integers are
little-endian. Memory is read with `load`; a read outside the buffer is the
outcome `fault`, which no Go error stands for. A slice has at most `2^63 - 1`
bytes, so offsets that end inside one more record do not wrap.
-/

namespace Ipv6Mesh.WgntNative

open GoText GoNet CLayout
open WgntApi (Key Configuration WireGuardPeer InvalidConfig second)

def wireguardInterface : List FieldType :=
  [uint32, uint16, byteArray 32, byteArray 32, uint32, byteArray 4]

def wireguardAllowedIP : List FieldType := [byteArray 16, uint16, uint8, uint32]

def rawSockaddrInet : FieldType := ⟨28, 2, Nat.two_pos⟩

def wireguardPeer : List FieldType :=
  [uint32, uint32, byteArray 32, byteArray 32, uint16, uint16, rawSockaddrInet, uint64, uint64,
    uint64, uint32, byteArray 4]

def rawSockaddrInet4 : List FieldType := [uint16, uint16, byteArray 4, byteArray 8]

def rawSockaddrInet6 : List FieldType := [uint16, uint16, uint32, byteArray 16, uint32]

def afInet : Nat := 2

def afInet6 : Nat := 23

def interfaceHasPublicKey : UInt32 := 1

def interfaceHasPrivateKey : UInt32 := 2

def interfaceHasListenPort : UInt32 := 4

def interfaceReplacePeers : UInt32 := 8

def peerHasPublicKey : UInt32 := 1

def peerHasPersistent : UInt32 := 4

def peerHasEndpoint : UInt32 := 8

def peerReplaceAllowedIPs : UInt32 := 32

def htons (value : UInt16) : UInt16 := value <<< 8 ||| value >>> 8

def ntohs (value : UInt16) : UInt16 := htons value

def zeros (count : Nat) : List UInt8 := List.replicate count 0

def invalidConfigText : String := "invalid WireGuard configuration"

def parseUint32 (text : String) : Option Nat :=
  if text ≠ "" && text.toList.all Char.isDigit then
    let value := text.toList.foldl (fun value digit => value * 10 + (digit.toNat - '0'.toNat)) 0
    if value < 2 ^ 32 then some value else none
  else none

def scopeID (zone : String) : Except String Nat :=
  if zone = "" then .ok 0
  else match parseUint32 zone with
    | some value => .ok value
    | none => .error "IPv6 endpoint zone must be a numeric interface index"

def setEndpoint (address : AddrPort) : Except String (List UInt8) :=
  let port := leBytes 2 (htons address.port).toNat
  match address.addr with
  | .v4 value =>
    .ok (encode rawSockaddrInet4 [leBytes 2 afInet, port, putUint32 value.toNat, zeros 8] ++
      zeros 12)
  | .v6 value zone => do
      let scope ← scopeID zone
      .ok (encode rawSockaddrInet6
        [leBytes 2 afInet6, port, zeros 4, as16 (.v6 value zone), leBytes 4 scope])
  | .invalid => .error invalidConfigText

def makeAllowedIP (network : NetPrefix) : Except String (List UInt8) :=
  match network.bits with
  | none => .error invalidConfigText
  | some bits =>
    let record := fun family address =>
      encode wireguardAllowedIP [address, leBytes 2 family, leBytes 1 bits, zeros 4]
    match network.addr with
    | .v4 value => .ok (record afInet (putUint32 value.toNat ++ zeros 12))
    | .v6 value zone => .ok (record afInet6 (as16 (.v6 value zone)))
    | .invalid => .error invalidConfigText

def appendAllowedIPs (index : Nat) : List NetPrefix → Except InvalidConfig (List UInt8)
  | [] => .ok []
  | allowed :: rest => do
      let native ← (makeAllowedIP allowed).mapError fun text =>
        ⟨"peer " ++ Nat.repr index ++ " allowed IP: " ++ text⟩
      let others ← appendAllowedIPs index rest
      return native ++ others

def peerRecord (flags : UInt32) (key : Key) (keepalive : UInt16) (endpoint : List UInt8)
    (allowedIPsCount : UInt32) : List UInt8 :=
  encode wireguardPeer [leBytes 4 flags.toNat, zeros 4, key.val, zeros 32,
    leBytes 2 keepalive.toNat, zeros 2, endpoint, zeros 8, zeros 8, zeros 8,
    leBytes 4 allowedIPsCount.toNat, zeros 4]

def peerFlags (peer : WireGuardPeer) : UInt32 :=
  peerHasPublicKey ||| peerReplaceAllowedIPs |||
    (if 0 < peer.persistentKeepalive then peerHasPersistent else 0) |||
    (if peer.endpoint.isValid then peerHasEndpoint else 0)

def peerKeepalive (peer : WireGuardPeer) : UInt16 :=
  if 0 < peer.persistentKeepalive then
    UInt16.ofNat (Int.tdiv peer.persistentKeepalive second).toNat
  else 0

def peerEndpoint (index : Nat) (peer : WireGuardPeer) : Except InvalidConfig (List UInt8) :=
  if peer.endpoint.isValid then
    (setEndpoint peer.endpoint).mapError fun text =>
      ⟨"peer " ++ Nat.repr index ++ " endpoint: " ++ text⟩
  else .ok (zeros 28)

def appendPeers : Nat → List WireGuardPeer → Except InvalidConfig (List UInt8)
  | _, [] => .ok []
  | index, peer :: rest => do
      if 2 ^ 32 - 1 < peer.allowedIPs.length then
        throw ⟨"peer " ++ Nat.repr index ++ " has too many allowed IPs"⟩
      let endpoint ← peerEndpoint index peer
      let allowedIPs ← appendAllowedIPs index peer.allowedIPs
      let others ← appendPeers (index + 1) rest
      return peerRecord (peerFlags peer) peer.publicKey (peerKeepalive peer) endpoint
        (UInt32.ofNat peer.allowedIPs.length) ++ (allowedIPs ++ others)

def interfaceRecord (configuration : Configuration) : List UInt8 :=
  let flags := interfaceHasPrivateKey ||| interfaceHasListenPort |||
    (if configuration.replacePeers then interfaceReplacePeers else 0)
  encode wireguardInterface [leBytes 4 flags.toNat, leBytes 2 configuration.listenPort.toNat,
    configuration.privateKey.val, zeros 32,
    leBytes 4 (UInt32.ofNat configuration.peers.length).toNat, zeros 4]

def buildConfiguration (configuration : Configuration) : Except InvalidConfig (List UInt8) := do
  let peers ← appendPeers 0 configuration.peers
  return interfaceRecord configuration ++ peers

inductive StatusError where
  | shortConfiguration
  | truncatedPeer
  | truncatedAllowedIP
  /-- A read outside of the buffer. -/
  | fault
deriving DecidableEq

structure PeerStatus where
  publicKey : Key
  endpoint : AddrPort
  allowedIPs : List NetPrefix
  txBytes : UInt64
  rxBytes : UInt64
  lastHandshake : Time
deriving DecidableEq

structure NativeAdapter where
  name : String
  luid : UInt64

structure Status where
  name : String
  luid : UInt64
  up : Bool
  publicKey : Key
  listenPort : UInt16
  peers : List PeerStatus
deriving DecidableEq

def readField (buffer : List UInt8) (offset : Nat) (types : List FieldType) (index : Nat) :
    Except StatusError (List UInt8) :=
  match types[index]? with
  | none => .error .fault
  | some type =>
    match load buffer (offset + offsetOf types index) type.size with
    | none => .error .fault
    | some value => .ok value

def readUint (buffer : List UInt8) (offset : Nat) (types : List FieldType) (index : Nat) :
    Except StatusError Nat :=
  return leValue (← readField buffer offset types index)

def keyOf (bytes : List UInt8) : Except StatusError Key :=
  if sized : bytes.length = WgntApi.keySize then .ok ⟨bytes, sized⟩ else .error .fault

def wireguardTime (value : Nat) : Time :=
  if value = 0 then 0
  else
    let seconds : Int := value / 10000000
    let nanoseconds : Int := value % 10000000 * 100
    -- the zero time is 62135596800 seconds before the Unix epoch
    (seconds - 11644473600 + 62135596800) * 1000000000 + nanoseconds

def parseEndpoint (endpoint : List UInt8) : Except StatusError AddrPort := do
  let family ← readUint endpoint 0 rawSockaddrInet4 0
  if family = afInet then
    let address ← readField endpoint 0 rawSockaddrInet4 2
    let port ← readUint endpoint 0 rawSockaddrInet4 1
    return ⟨addrFrom4 address, ntohs (UInt16.ofNat port)⟩
  else if family = afInet6 then
    let address ← readField endpoint 0 rawSockaddrInet6 3
    let scope ← readUint endpoint 0 rawSockaddrInet6 4
    let port ← readUint endpoint 0 rawSockaddrInet6 1
    let zone := if scope ≠ 0 then Nat.repr scope else ""
    return ⟨.v6 (BitVec.ofNat 128 (bigEndian address)) zone, ntohs (UInt16.ofNat port)⟩
  else return AddrPort.zero

def parseAllowedIP (buffer : List UInt8) (offset : Nat) :
    Except StatusError (Option NetPrefix) := do
  let address ← readField buffer offset wireguardAllowedIP 0
  let family ← readUint buffer offset wireguardAllowedIP 1
  let cidr ← readUint buffer offset wireguardAllowedIP 2
  if family = afInet then return some (prefixFrom (addrFrom4 (address.take 4)) cidr)
  else if family = afInet6 then return some (prefixFrom (addrFrom16 address) cidr)
  else return none

def parseAllowedIPs (buffer : List UInt8) : Nat → Nat → Except StatusError (List NetPrefix)
  | 0, _ => .ok []
  | count + 1, offset => do
      let allowed ← parseAllowedIP buffer offset
      let others ← parseAllowedIPs buffer count (offset + recordSize wireguardAllowedIP)
      return allowed.toList ++ others

def parsePeers (buffer : List UInt8) : Nat → Nat → Except StatusError (List PeerStatus)
  | 0, _ => .ok []
  | count + 1, offset => do
      if buffer.length < offset + recordSize wireguardPeer then throw .truncatedPeer
      let publicKey ← keyOf (← readField buffer offset wireguardPeer 2)
      let txBytes ← readUint buffer offset wireguardPeer 7
      let rxBytes ← readUint buffer offset wireguardPeer 8
      let lastHandshake ← readUint buffer offset wireguardPeer 9
      let flags ← readUint buffer offset wireguardPeer 0
      let endpoint ←
        if UInt32.ofNat flags &&& peerHasEndpoint ≠ 0 then
          parseEndpoint (← readField buffer offset wireguardPeer 6)
        else pure AddrPort.zero
      let allowedCount ← readUint buffer offset wireguardPeer 10
      let next := offset + recordSize wireguardPeer
      if (buffer.length - next) / recordSize wireguardAllowedIP < allowedCount then
        throw .truncatedAllowedIP
      let allowedIPs ← parseAllowedIPs buffer allowedCount next
      let others ← parsePeers buffer count (next + allowedCount * recordSize wireguardAllowedIP)
      return ⟨publicKey, endpoint, allowedIPs, UInt64.ofNat txBytes, UInt64.ofNat rxBytes,
        wireguardTime lastHandshake⟩ :: others

def parseStatus (native : NativeAdapter) (up : Bool) (buffer : List UInt8) :
    Except StatusError Status := do
  if buffer.length < recordSize wireguardInterface then throw .shortConfiguration
  let listenPort ← readUint buffer 0 wireguardInterface 1
  let flags ← readUint buffer 0 wireguardInterface 0
  let publicKey ←
    if UInt32.ofNat flags &&& interfaceHasPublicKey ≠ 0 then
      keyOf (← readField buffer 0 wireguardInterface 3)
    else pure Key.zero
  let peersCount ← readUint buffer 0 wireguardInterface 4
  let peers ← parsePeers buffer peersCount (recordSize wireguardInterface)
  return ⟨native.name, native.luid, up, publicKey, UInt16.ofNat listenPort, peers⟩

end Ipv6Mesh.WgntNative
