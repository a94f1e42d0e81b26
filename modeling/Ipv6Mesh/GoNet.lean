import Ipv6Mesh.GoText

/-!
# `net.IP`, `netip.Addr` and their texts

`IP` is the byte slice of package `net`; the nil slice is the empty list.
`text` and `parseAddr` follow the character loops of `netip`, including the
longest-zero-run compression and the trailing dotted quad of an IPv6 text.
-/

namespace Ipv6Mesh.GoNet

open GoText

abbrev IP := List UInt8

def v4InV6Prefix : IP := [0, 0, 0, 0, 0, 0, 0, 0, 0, 0, 0xff, 0xff]

def to4 (ip : IP) : Option IP :=
  if ip.length = 4 then some ip
  else if ip.length = 16 ∧ ip.take 12 = v4InV6Prefix then some (ip.drop 12)
  else none

def to16 (ip : IP) : Option IP :=
  if ip.length = 4 then some (v4InV6Prefix ++ ip)
  else if ip.length = 16 then some ip
  else none

def equal (left right : IP) : Bool :=
  if left.length = right.length then left = right
  else if left.length = 4 ∧ right.length = 16 then
    right.take 12 = v4InV6Prefix ∧ left = right.drop 12
  else if left.length = 16 ∧ right.length = 4 then
    left.take 12 = v4InV6Prefix ∧ left.drop 12 = right
  else false

theorem to4_length {ip bytes : IP} (converted : to4 ip = some bytes) : bytes.length = 4 := by
  unfold to4 at converted
  split_ifs at converted with short mapped
  · cases converted
    exact short
  · cases converted
    simp [mapped.1]

theorem to4_of_length {ip : IP} (short : ip.length = 4) : to4 ip = some ip := if_pos short

theorem equal_refl (ip : IP) : equal ip ip = true := by simp [equal]

theorem equal_comm (left right : IP) : equal left right = equal right left := by
  unfold equal
  by_cases same : left.length = right.length
  · simp [same, eq_comm]
  · by_cases first : left.length = 4 ∧ right.length = 16
    · simp [first, eq_comm]
    · by_cases second : left.length = 16 ∧ right.length = 4
      · simp [second, eq_comm]
      · have firstSwapped : ¬(right.length = 16 ∧ left.length = 4) := fun both => first both.symm
        have secondSwapped : ¬(right.length = 4 ∧ left.length = 16) := fun both => second both.symm
        rw [if_neg same, if_neg first, if_neg second, if_neg (Ne.symm same), if_neg secondSwapped,
          if_neg firstSwapped]

theorem equal_of_length {left right : IP} (short : left.length = 4) (alsoShort : right.length = 4) :
    equal left right = decide (left = right) := by
  simp [equal, short, alsoShort]

theorem equal_to4 {ip bytes : IP} (converted : to4 ip = some bytes) (other : IP) :
    equal other bytes = equal other ip := by
  unfold to4 at converted
  split_ifs at converted with short mapped
  · cases converted
    rfl
  · cases converted
    obtain ⟨long, isPrefix⟩ := mapped
    have split : other = ip ↔ other.take 12 = v4InV6Prefix ∧ other.drop 12 = ip.drop 12 := by
      rw [← isPrefix]
      constructor
      · rintro rfl
        exact ⟨rfl, rfl⟩
      · rintro ⟨heads, tails⟩
        rw [← List.take_append_drop 12 other, heads, tails, List.take_append_drop]
    unfold equal
    by_cases four : other.length = 4
    · simp [four, long, isPrefix]
    · by_cases sixteen : other.length = 16
      · simp [sixteen, long, split]
      · simp [four, sixteen, long]

def bigEndian (bytes : List UInt8) : Nat :=
  bytes.foldl (fun value byte => value * 256 + byte.toNat) 0

def putUint32 (value : Nat) : IP :=
  [UInt8.ofNat (value / 2 ^ 24), UInt8.ofNat (value / 2 ^ 16), UInt8.ofNat (value / 2 ^ 8),
    UInt8.ofNat value]

/-- `netip.Addr`: the zero value, an IPv4 address, or an IPv6 address with its zone. -/
inductive Addr where
  | invalid
  | v4 (value : BitVec 32)
  | v6 (value : BitVec 128) (zone : String)
deriving DecidableEq

namespace Addr

def isValid (addr : Addr) : Bool := addr ≠ invalid

def is4 : Addr → Bool
  | v4 _ => true
  | _ => false

def is6 : Addr → Bool
  | v6 _ _ => true
  | _ => false

def zone : Addr → String
  | v6 _ zone => zone
  | _ => ""

def bitLen : Addr → Nat
  | invalid => 0
  | v4 _ => 32
  | v6 _ _ => 128

end Addr

def addrFrom4 (bytes : IP) : Addr := .v4 (BitVec.ofNat 32 (bigEndian bytes))

def addrFrom16 (bytes : IP) : Addr := .v6 (BitVec.ofNat 128 (bigEndian bytes)) ""

def hexDigits : List Char :=
  ['0', '1', '2', '3', '4', '5', '6', '7', '8', '9', 'a', 'b', 'c', 'd', 'e', 'f']

def hexDigit (value : Nat) : Char := hexDigits.getD value '0'

def appendHex (group : Nat) : List Char :=
  (if 0x1000 ≤ group then [hexDigit (group / 0x1000)] else []) ++
    ((if 0x100 ≤ group then [hexDigit (group / 0x100 % 16)] else []) ++
      ((if 0x10 ≤ group then [hexDigit (group / 0x10 % 16)] else []) ++ [hexDigit (group % 16)]))

def dotted (bytes : IP) : List Char :=
  ['.'].intercalate (bytes.map fun byte => (Nat.repr byte.toNat).toList)

def groupsOf : IP → List Nat
  | high :: low :: rest => (high.toNat * 256 + low.toNat) :: groupsOf rest
  | _ => []

def zeroRun (groups : List Nat) : Nat := (groups.takeWhile (· = 0)).length

/-- The loop that finds the run to compress: the first longest one of at least two groups. -/
def longestRun (groups : List Nat) : Nat × Nat :=
  (List.range groups.length).foldl (fun best start =>
    let run := zeroRun (groups.drop start)
    if 2 ≤ run ∧ best.2 < run then (start, run) else best) (0, 0)

def hexGroups (groups : List Nat) : List Char := [':'].intercalate (groups.map appendHex)

def text6 (groups : List Nat) : List Char :=
  let (start, run) := longestRun groups
  if run = 0 then hexGroups groups
  else hexGroups (groups.take start) ++ [':', ':'] ++ hexGroups (groups.drop (start + run))

def hexString (bytes : List UInt8) : List Char :=
  bytes.flatMap fun byte => [hexDigit (byte.toNat / 16), hexDigit (byte.toNat % 16)]

def text (ip : IP) : String :=
  match ip with
  | [] => "<nil>"
  | _ =>
    match to4 ip with
    | some bytes => String.ofList (dotted bytes)
    | none =>
      if ip.length = 16 then String.ofList (text6 (groupsOf ip))
      else "?" ++ String.ofList (hexString ip)

def decimalDigit (character : Char) : Option Nat :=
  if '0' ≤ character ∧ character ≤ '9' then some (character.toNat - '0'.toNat) else none

def hexValue (character : Char) : Option Nat :=
  if '0' ≤ character ∧ character ≤ '9' then some (character.toNat - '0'.toNat)
  else if 'a' ≤ character ∧ character ≤ 'f' then some (character.toNat - 'a'.toNat + 10)
  else if 'A' ≤ character ∧ character ≤ 'F' then some (character.toNat - 'A'.toNat + 10)
  else none

/-- `netip.parseIPv4Fields`: the octets read so far, the open octet and its digit count. -/
def parseIPv4Fields : List Char → List Nat → Nat → Nat → Option (List Nat)
  | [], fields, value, digits =>
    if fields.length = 3 ∧ digits ≠ 0 then some (fields ++ [value]) else none
  | character :: rest, fields, value, digits =>
    match decimalDigit character with
    | some digit =>
      if digits = 1 ∧ value = 0 then none
      else if 255 < value * 10 + digit then none
      else parseIPv4Fields rest fields (value * 10 + digit) (digits + 1)
    | none =>
      if character = '.' ∧ digits ≠ 0 ∧ fields.length < 3 then
        parseIPv4Fields rest (fields ++ [value]) 0 0
      else none

/-- The group loop of `netip.parseIPv6`. The result is the groups read, the
position of the ellipsis, and what was left unread when the loop stopped. -/
def parseGroups : Nat → List Char → List Nat → Option Nat →
    Option (List Nat × Option Nat × List Char)
  | 0, input, groups, ellipsis => some (groups, ellipsis, input)
  | fuel + 1, input, groups, ellipsis =>
    let digits := input.takeWhile fun character => (hexValue character).isSome
    let rest := input.drop digits.length
    if digits = [] ∨ 4 < digits.length then none
    else if rest.head? = some '.' then
      -- trailing dotted quad: it must start at byte 12 unless an ellipsis was seen
      if (ellipsis.isNone ∧ groups.length ≠ 6) ∨ 6 < groups.length then none
      else do
        let fields ← parseIPv4Fields input [] 0 0
        some (groups ++ [fields.getD 0 0 * 256 + fields.getD 1 0,
          fields.getD 2 0 * 256 + fields.getD 3 0], ellipsis, [])
    else
      let value := digits.foldl (fun value character =>
        value * 16 + (hexValue character).getD 0) 0
      match rest with
      | [] => some (groups ++ [value], ellipsis, [])
      | ':' :: ':' :: after =>
        if ellipsis.isSome then none
        else match after with
          | [] => some (groups ++ [value], some (groups.length + 1), [])
          | _ => parseGroups fuel after (groups ++ [value]) (some (groups.length + 1))
      | ':' :: after => if after = [] then none
          else parseGroups fuel after (groups ++ [value]) ellipsis
      | _ => none

def expandGroups : List Nat × Option Nat × List Char → Option (List Nat)
  | (groups, ellipsis, rest) =>
    if rest ≠ [] then none
    else if groups.length < 8 then do
      let position ← ellipsis
      some (groups.take position ++ List.replicate (8 - groups.length) 0 ++ groups.drop position)
    else if ellipsis.isSome then none
    else some groups

def parseIPv6Groups (input : List Char) : Option (List Nat) :=
  match input with
  | [':', ':'] => some (List.replicate 8 0)
  | ':' :: ':' :: rest => (parseGroups 8 rest [] (some 0)).bind expandGroups
  | _ => (parseGroups 8 input [] none).bind expandGroups

def groupsValue (groups : List Nat) : Nat :=
  groups.foldl (fun value group => value * 65536 + group) 0

def fieldsValue (fields : List Nat) : Nat :=
  fields.foldl (fun value field => value * 256 + field) 0

def parseIPv6 (input : List Char) : Option Addr :=
  let address := input.takeWhile (· ≠ '%')
  let zone := (input.drop address.length).drop 1
  if '%' ∈ input ∧ zone = [] then none
  else (parseIPv6Groups address).map fun groups =>
    .v6 (BitVec.ofNat 128 (groupsValue groups)) (String.ofList zone)

def parseIPv4 (input : List Char) : Option Addr :=
  (parseIPv4Fields input [] 0 0).map fun fields => .v4 (BitVec.ofNat 32 (fieldsValue fields))

def parseAddr (source : String) : Option Addr :=
  match source.toList.find? fun character =>
    character = '.' ∨ character = ':' ∨ character = '%' with
  | some '.' => parseIPv4 source.toList
  | some ':' => parseIPv6 source.toList
  | _ => none

def as16 : Addr → IP
  | .invalid => List.replicate 16 0
  | .v4 value => v4InV6Prefix ++ putUint32 value.toNat
  | .v6 value _ => (List.range 16).map fun index => UInt8.ofNat (value.toNat / 256 ^ (15 - index))

def parseIP (source : String) : Option IP := do
  let addr ← parseAddr source
  if addr.zone = "" then some (as16 addr) else none

end Ipv6Mesh.GoNet
