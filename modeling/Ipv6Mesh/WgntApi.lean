import Ipv6Mesh.GoBase64
import Ipv6Mesh.GoFlow
import Ipv6Mesh.GoNetip

/-!
# The WireGuard adapter contract

Keys, peers and configurations of `internal/wgnt/api.go`, and the address and
route records of `internal/netwin` that travel with a configuration.
-/

namespace Ipv6Mesh.WgntApi

open GoText GoNet GoBase64
open GoFlow (check_eq_ok)

def keySize : Nat := 32

abbrev Key := { bytes : List UInt8 // bytes.length = keySize }

instance : LawfulBEq Key := inferInstance

def Key.zero : Key := ⟨List.replicate keySize 0, by simp⟩

def Key.isZero (key : Key) : Bool := key = Key.zero

def parseKey (value : String) : Option Key := do
  let decoded ← decodeStd value
  if sized : decoded.length = keySize then some ⟨decoded, sized⟩ else none

def Key.base64 (key : Key) : String := encodeStd key.val

def second : Duration := 1000000000

structure WireGuardPeer where
  publicKey : Key
  endpoint : AddrPort
  persistentKeepalive : Duration
  allowedIPs : List NetPrefix
deriving DecidableEq

structure Configuration where
  privateKey : Key
  listenPort : UInt16
  peers : List WireGuardPeer
  replacePeers : Bool
deriving DecidableEq

structure InvalidConfig where
  detail : String
deriving DecidableEq

def refuseConfig (refused : Bool) (detail : String) : Except InvalidConfig Unit :=
  if refused then .error ⟨detail⟩ else .ok ()

def keepaliveInRange (keepalive : Duration) : Bool :=
  0 ≤ keepalive && keepalive ≤ 65535 * second && keepalive % second = 0

def validateAllowedIPs (index : String) : List NetPrefix → Except InvalidConfig Unit
  | [] => .ok ()
  | allowed :: rest => do
      refuseConfig (!allowed.isValid) ("peer " ++ index ++ " has an invalid allowed IP")
      let bits := allowed.bits.getD 0
      refuseConfig ((allowed.addr.is4 && bits ≠ 32) || (allowed.addr.is6 && bits ≠ 128))
        ("peer " ++ index ++ " allowed IP must be a host route")
      validateAllowedIPs index rest

def validatePeers : Nat → List WireGuardPeer → List Key → Except InvalidConfig Unit
  | _, [], _ => .ok ()
  | index, peer :: rest, seen => do
      let position := Nat.repr index
      refuseConfig peer.publicKey.isZero ("peer " ++ position ++ " has an empty public key")
      refuseConfig (peer.publicKey ∈ seen) "duplicate peer public key"
      refuseConfig (peer.endpoint.isValid && peer.endpoint.port = 0)
        ("peer " ++ position ++ " endpoint has no port")
      refuseConfig (!keepaliveInRange peer.persistentKeepalive)
        ("peer " ++ position ++ " keepalive is out of range")
      validateAllowedIPs position peer.allowedIPs
      validatePeers (index + 1) rest (peer.publicKey :: seen)

def Configuration.validate (configuration : Configuration) : Except InvalidConfig Unit := do
  refuseConfig configuration.privateKey.isZero "private key is empty"
  validatePeers 0 configuration.peers []

theorem refuseConfig_ok {refused : Bool} {detail : String} :
    refuseConfig refused detail = .ok () ↔ refused = false := by
  cases refused <;> simp [refuseConfig]

def HostRoute (allowed : NetPrefix) : Prop :=
  allowed.isValid = true ∧ (allowed.addr.is4 = true → allowed.bits = some 32) ∧
    (allowed.addr.is6 = true → allowed.bits = some 128)

theorem validateAllowedIPs_ok {index : String} {allowedIPs : List NetPrefix} :
    validateAllowedIPs index allowedIPs = .ok () ↔ ∀ allowed ∈ allowedIPs, HostRoute allowed := by
  induction allowedIPs with
  | nil => simp [validateAllowedIPs]
  | cons allowed rest ih =>
    rw [List.forall_mem_cons, ← ih]
    obtain ⟨addr, bits⟩ := allowed
    cases bits <;>
      simp [validateAllowedIPs, check_eq_ok, refuseConfig_ok, HostRoute, NetPrefix.isValid,
        and_assoc]

structure ValidPeer (peer : WireGuardPeer) : Prop where
  key : peer.publicKey.isZero = false
  port : peer.endpoint.isValid = true → peer.endpoint.port ≠ 0
  keepalive : keepaliveInRange peer.persistentKeepalive = true
  hostRoutes : ∀ allowed ∈ peer.allowedIPs, HostRoute allowed

theorem validatePeers_ok {index : Nat} {peers : List WireGuardPeer} {seen : List Key} :
    validatePeers index peers seen = .ok () ↔
      (∀ peer ∈ peers, ValidPeer peer ∧ peer.publicKey ∉ seen) ∧
        (peers.map WireGuardPeer.publicKey).Nodup := by
  induction peers generalizing index seen with
  | nil => simp [validatePeers]
  | cons peer rest ih =>
    rw [List.forall_mem_cons]
    simp only [validatePeers, check_eq_ok, refuseConfig_ok, ih, validateAllowedIPs_ok,
      List.map_cons, List.nodup_cons, List.mem_cons, not_or,
      decide_eq_false_iff_not, Bool.and_eq_false_imp, Bool.not_eq_false', List.mem_map]
    constructor
    · rintro ⟨key, fresh, port, keepalive, routes, others, distinct⟩
      refine ⟨⟨⟨⟨key, port, keepalive, routes⟩, fresh⟩, fun other member => ?_⟩, ?_, distinct⟩
      · exact ⟨(others other member).1, (others other member).2.2⟩
      · rintro ⟨other, member, same⟩
        exact (others other member).2.1 same
    · rintro ⟨⟨⟨valid, fresh⟩, others⟩, apart, distinct⟩
      refine ⟨valid.key, fresh, valid.port, valid.keepalive, valid.hostRoutes, ?_, distinct⟩
      intro other member
      exact ⟨(others other member).1, fun same => apart ⟨other, member, same⟩,
        (others other member).2⟩

theorem Configuration.validate_ok {configuration : Configuration} :
    configuration.validate = .ok () ↔ configuration.privateKey.isZero = false ∧
      (∀ peer ∈ configuration.peers, ValidPeer peer) ∧
        (configuration.peers.map WireGuardPeer.publicKey).Nodup := by
  simp only [validate, check_eq_ok, refuseConfig_ok, validatePeers_ok, List.not_mem_nil,
    not_false_eq_true, and_true]

structure Address where
  ip : Addr
  prefixLength : UInt8
  interfaceLUID : UInt64
deriving DecidableEq

structure Route where
  destination : NetPrefix
  interfaceLUID : UInt64
  nextHop : Addr
  metric : UInt32
deriving DecidableEq

end Ipv6Mesh.WgntApi
