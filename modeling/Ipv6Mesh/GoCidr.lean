import Ipv6Mesh.GoNet

/-!
# `net.IPMask`, `net.IPNet` and `net.ParseCIDR`
-/

namespace Ipv6Mesh.GoCidr

open GoNet

abbrev IPMask := List UInt8

def maskByte (ones : Nat) : UInt8 :=
  if 8 ≤ ones then 0xff else UInt8.ofNat (256 - 2 ^ (8 - ones))

def cidrMask (ones bits : Nat) : IPMask :=
  (List.range (bits / 8)).map fun index => maskByte (ones - 8 * index)

def mask (ip : IP) (bits : IPMask) : IP :=
  let bits := if bits.length = 16 ∧ ip.length = 4 ∧ bits.take 12 = List.replicate 12 0xff then
    bits.drop 12 else bits
  let ip := if bits.length = 4 ∧ ip.length = 16 ∧ ip.take 12 = v4InV6Prefix then
    ip.drop 12 else ip
  if ip.length = bits.length then ip.zipWith (· &&& ·) bits else []

structure IPNet where
  ip : IP
  mask : IPMask
deriving DecidableEq

/-- `len(mask)*8`, the second result of `IPMask.Size` on the masks `cidrMask` builds. -/
def IPNet.bits (network : IPNet) : Nat := network.mask.length * 8

def networkNumberAndMask (network : IPNet) : IP × IPMask :=
  let ip := (to4 network.ip).getD network.ip
  if network.mask.length = 4 then if ip.length = 4 then (ip, network.mask) else ([], [])
  else if network.mask.length = 16 then
    if ip.length = 4 then (ip, network.mask.drop 12)
    else if ip.length = 16 then (ip, network.mask) else ([], [])
  else ([], [])

def contains (network : IPNet) (ip : IP) : Bool :=
  let (number, bits) := networkNumberAndMask network
  let ip := (to4 ip).getD ip
  ip.length = number.length ∧ number.zipWith (· &&& ·) bits = ip.zipWith (· &&& ·) bits

def dtoi : List Char → Nat → Option Nat
  | [], value => some value
  | character :: rest, value => do
      let digit ← decimalDigit character
      if 0xFFFFFF ≤ value * 10 + digit then none else dtoi rest (value * 10 + digit)

structure CIDR where
  ip : IP
  network : IPNet
  ones : Nat
deriving DecidableEq

def parseCIDR (source : String) : Option CIDR := do
  let address := source.toList.takeWhile (· ≠ '/')
  let bits := (source.toList.drop address.length).drop 1
  if '/' ∉ source.toList then none
  let addr ← parseAddr (String.ofList address)
  if addr.zone ≠ "" ∨ bits = [] then none
  let ones ← dtoi bits 0
  if addr.bitLen < ones then none
  let bytes := as16 addr
  let width := cidrMask ones addr.bitLen
  some ⟨bytes, ⟨mask bytes width, width⟩, ones⟩

theorem and_maskByte (byte : UInt8) {ones : Nat} (partialByte : ones < 8) :
    (byte &&& maskByte ones).toNat = byte.toNat / 2 ^ (8 - ones) * 2 ^ (8 - ones) := by
  have table : ∀ value < 256, ∀ count < 8, (UInt8.ofNat value &&& maskByte count).toNat =
      value / 2 ^ (8 - count) * 2 ^ (8 - count) := by decide +kernel
  have entry := table byte.toNat byte.toNat_lt ones partialByte
  rwa [UInt8.ofNat_toNat] at entry

theorem and_fullByte (byte : UInt8) {ones : Nat} (full : 8 ≤ ones) :
    byte &&& maskByte ones = byte := by
  have table : ∀ value < 256, UInt8.ofNat value &&& 0xff = UInt8.ofNat value := by decide +kernel
  have entry := table byte.toNat byte.toNat_lt
  rw [UInt8.ofNat_toNat] at entry
  rw [maskByte, if_pos full, entry]

theorem length_four {ip : IP} (sized : ip.length = 4) : ∃ a b c d, ip = [a, b, c, d] := by
  match ip, sized with
  | [a, b, c, d], _ => exact ⟨a, b, c, d, rfl⟩

theorem bigEndian_mask {ip : IP} (sized : ip.length = 4) {ones : Nat} (range : ones ≤ 32) :
    bigEndian (ip.zipWith (· &&& ·) (cidrMask ones 32)) =
      bigEndian ip / 2 ^ (32 - ones) * 2 ^ (32 - ones) := by
  obtain ⟨a, b, c, d, rfl⟩ := length_four sized
  have ha := a.toNat_lt
  have hb := b.toNat_lt
  have hc := c.toNat_lt
  have hd := d.toNat_lt
  have bytes : [a, b, c, d].zipWith (· &&& ·) (cidrMask ones 32) =
      [a &&& maskByte ones, b &&& maskByte (ones - 8), c &&& maskByte (ones - 16),
        d &&& maskByte (ones - 24)] := rfl
  rw [bytes]
  simp only [bigEndian, List.foldl_cons, List.foldl_nil, Nat.zero_mul, Nat.zero_add]
  interval_cases ones <;>
    simp (disch := decide) only [and_maskByte, and_fullByte, Nat.reduceSub, Nat.reducePow] <;> omega

end Ipv6Mesh.GoCidr
