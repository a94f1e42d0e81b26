import Ipv6Mesh.GoNet

/-!
# Address classes, ports and prefixes of package `netip`
-/

namespace Ipv6Mesh.GoNet

namespace Addr

def is4In6 : Addr → Bool
  | v6 value _ => value.toNat / 2 ^ 32 = 0xffff
  | _ => false

def unmap : Addr → Addr
  | v6 value zone => if value.toNat / 2 ^ 32 = 0xffff then v4 (value.setWidth 32) else v6 value zone
  | other => other

def isUnspecified (addr : Addr) : Bool := addr = v4 0 || addr = v6 0 ""

def isLoopback (addr : Addr) : Bool :=
  match addr.unmap with
  | v4 value => value.toNat / 2 ^ 24 = 127
  | v6 value _ => value = 1
  | invalid => false

def isMulticast (addr : Addr) : Bool :=
  match addr.unmap with
  | v4 value => value.toNat / 2 ^ 28 = 0xe
  | v6 value _ => value.toNat / 2 ^ 120 = 0xff
  | invalid => false

def isLinkLocalUnicast (addr : Addr) : Bool :=
  match addr.unmap with
  | v4 value => value.toNat / 2 ^ 16 = 169 * 256 + 254
  | v6 value _ => value.toNat / 2 ^ 118 = 0xfe80 / 2 ^ 6
  | invalid => false

def isGlobalUnicast (addr : Addr) : Bool :=
  if addr = invalid then false
  else if addr.unmap = v4 0 || addr.unmap = v4 (BitVec.ofNat 32 (2 ^ 32 - 1)) then false
  else addr.unmap ≠ v6 0 "" && !addr.isLoopback && !addr.isMulticast && !addr.isLinkLocalUnicast

def toText (addr : Addr) : List Char :=
  match addr with
  | invalid => "invalid IP".toList
  | v4 value => dotted (putUint32 value.toNat)
  | v6 value zone =>
    (if addr.is4In6 then "::ffff:".toList ++ dotted (putUint32 (value.toNat % 2 ^ 32))
      else text6 (groupsOf (as16 addr))) ++
      (if zone = "" then [] else '%' :: zone.toList)

end Addr

structure AddrPort where
  addr : Addr
  port : UInt16
deriving DecidableEq

def AddrPort.zero : AddrPort := ⟨.invalid, 0⟩

def AddrPort.isValid (target : AddrPort) : Bool := target.addr.isValid

def AddrPort.toText (target : AddrPort) : String :=
  let port := (Nat.repr target.port.toNat).toList
  match target.addr with
  | .invalid => "invalid AddrPort"
  | .v4 _ => String.ofList (target.addr.toText ++ ':' :: port)
  | .v6 _ _ => String.ofList ('[' :: target.addr.toText ++ ']' :: ':' :: port)

/-- `netip.Prefix`; `bits` is `none` for the negative length of an invalid prefix. -/
structure NetPrefix where
  addr : Addr
  bits : Option Nat
deriving DecidableEq

/-- `netip.PrefixFrom`: the zone is dropped and an impossible length makes it invalid. -/
def prefixFrom (addr : Addr) (bits : Nat) : NetPrefix :=
  let unzoned := match addr with
    | .v6 value _ => .v6 value ""
    | other => other
  ⟨unzoned, if addr.isValid && bits ≤ addr.bitLen then some bits else none⟩

def NetPrefix.isValid (network : NetPrefix) : Bool := network.bits.isSome

def NetPrefix.masked (network : NetPrefix) : NetPrefix :=
  match network.addr, network.bits with
  | .v4 value, some bits => ⟨.v4 (value >>> (32 - bits) <<< (32 - bits)), some bits⟩
  | .v6 value _, some bits => ⟨.v6 (value >>> (128 - bits) <<< (128 - bits)) "", some bits⟩
  | _, _ => ⟨.invalid, none⟩

def NetPrefix.toText (network : NetPrefix) : String :=
  match network.bits with
  | none => "invalid Prefix"
  | some bits => String.ofList (network.addr.toText ++ '/' :: (Nat.repr bits).toList)

end Ipv6Mesh.GoNet
