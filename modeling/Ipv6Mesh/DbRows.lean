import Ipv6Mesh.DbMemory
import Ipv6Mesh.GoNetText
import Ipv6Mesh.SqlTable

/-!
# Rows of the control-plane tables

The columns of `schema.sql` with their SQL values: an address is an `inet`, a
pool a `cidr`, a missing time or name is NULL. The serial key of an endpoint
candidate is left out, as nothing reads it. The row functions say which row a
record of the control plane stands for, which is also the row that
`PostgresRepository` writes for it.
-/

namespace Ipv6Mesh.DbRows

open GoText GoNet GoCidr GoFlow ControlModel ControlValidation

structure Inet where
  addr : Addr
  bits : Nat
deriving DecidableEq

def Inet.null : Inet := ⟨.invalid, 0⟩

def Inet.family (inet : Inet) : Nat := if inet.addr.is4 then 4 else 6

def inetIn (source : String) : Option Inet := do
  let address := source.toList.takeWhile (· ≠ '/')
  let bits := (source.toList.drop address.length).drop 1
  let addr ← parseAddr (String.ofList address)
  if addr.zone ≠ "" then none
  if '/' ∈ source.toList then do
    if bits = [] then none
    let ones ← dtoi bits 0
    if addr.bitLen < ones then none else some ⟨addr, ones⟩
  else some ⟨addr, addr.bitLen⟩

def Inet.cidr (inet : Inet) : CIDR :=
  ⟨as16 inet.addr, ⟨mask (as16 inet.addr) (cidrMask inet.bits inet.addr.bitLen),
    cidrMask inet.bits inet.addr.bitLen⟩, inet.bits⟩

def cidrIn (source : String) : Option Inet :=
  (inetIn source).filter fun inet => equal inet.cidr.ip inet.cidr.network.ip

def cidrText (inet : Inet) : String :=
  String.ofList (inet.addr.toText ++ '/' :: (Nat.repr inet.bits).toList)

structure NetworkRow where
  id : String
  name : String
  ipv4Pool : Inet
  ownerID : String
  configVersion : Int
  createdAt : Time
deriving DecidableEq

structure NodeRow where
  id : String
  displayName : String
  publicKey : String
  platform : String
  clientVersion : String
  lastSeen : Option Time
deriving DecidableEq

structure MembershipRow where
  networkID : String
  nodeID : String
  virtualIPv4 : Inet
  role : MembershipRole
  status : MembershipStatus
deriving DecidableEq

structure InviteRow where
  id : String
  networkID : String
  tokenHash : String
  expiresAt : Time
  consumedAt : Option Time
  revokedAt : Option Time
  consumedByNodeID : Option String
  createdAt : Time
deriving DecidableEq

structure EndpointRow where
  nodeID : String
  address : Inet
  port : Nat
  addressFamily : Nat
  interfaceName : String
  priority : Int
  observedAt : Time
deriving DecidableEq

structure RelayRow where
  id : String
  networkID : String
  nodeID : String
  relayNodeID : String
  address : Inet
  port : Nat
  addressFamily : Nat
  status : RelayAssignmentStatus
  assignedAt : Time
  expiresAt : Option Time
deriving DecidableEq

def nullableTime (value : Time) : Option Time := if Time.isZero value then none else some value

def nullIfEmpty (value : String) : Option String := if value = "" then none else some value

def endpointFamilyNumber (family : EndpointFamily) : Nat := if family = .ipv4 then 4 else 6

def networkRow (network : Network) : NetworkRow :=
  { id := network.id
    name := network.name
    ipv4Pool := (cidrIn network.ipv4Pool).getD Inet.null
    ownerID := network.ownerID
    configVersion := network.configVersion
    createdAt := network.createdAt }

def nodeRow (node : Node) : NodeRow :=
  { id := node.id
    displayName := node.displayName
    publicKey := node.publicKey
    platform := node.platform
    clientVersion := node.clientVersion
    lastSeen := nullableTime node.lastSeen }

def hostValue (address : IP) : Inet := (inetIn (text address)).getD Inet.null

def membershipRow (membership : Membership) : MembershipRow :=
  { networkID := membership.networkID
    nodeID := membership.nodeID
    virtualIPv4 := hostValue ((to4 membership.virtualIPv4).getD [])
    role := membership.role
    status := membership.status }

def inviteRow (invite : Invite) : InviteRow :=
  { id := invite.id
    networkID := invite.networkID
    tokenHash := invite.tokenHash
    expiresAt := invite.expiresAt
    consumedAt := invite.consumedAt
    revokedAt := invite.revokedAt
    consumedByNodeID := nullIfEmpty invite.consumedByNodeID
    createdAt := invite.createdAt }

def endpointRow (endpoint : EndpointCandidate) : EndpointRow :=
  { nodeID := endpoint.nodeID
    address := hostValue endpoint.address
    port := endpoint.port.toNat
    addressFamily := endpointFamilyNumber endpoint.family
    interfaceName := endpoint.interface
    priority := endpoint.priority
    observedAt := endpoint.observedAt }

def relayRow (assignment : RelayAssignment) : RelayRow :=
  { id := assignment.id
    networkID := assignment.networkID
    nodeID := assignment.nodeID
    relayNodeID := assignment.relayNodeID
    address := hostValue assignment.address
    port := assignment.port.toNat
    addressFamily := endpointFamilyNumber assignment.family
    status := assignment.status
    assignedAt := assignment.assignedAt
    expiresAt := assignment.expiresAt }

variable {ip long : IP}

theorem slash_notMem_text (sized : to16 ip = some long) :
    '/' ∉ (text ip).toList := by
  intro slash
  have read := parseIP_text sized
  rw [parseIP_slash slash] at read
  cases read

theorem inetIn_text (sized : to16 ip = some long) :
    inetIn (text ip) = some ⟨addrOf ip, (addrOf ip).bitLen⟩ := by
  have slashFree := slash_notMem_text sized
  have unzoned : (addrOf ip).zone = "" := by
    rw [addrOf]
    cases to4 ip <;> rfl
  have address := takeWhile_ne slashFree
  simp only [inetIn, address, String.ofList_toList, parseAddr_text sized, Option.bind_eq_bind,
    Option.bind_some, unzoned, ne_eq, not_true, if_false, slashFree]

theorem hostValue_eq (sized : to16 ip = some long) :
    hostValue ip = ⟨addrOf ip, (addrOf ip).bitLen⟩ := by
  rw [hostValue, inetIn_text sized, Option.getD_some]

theorem as16_addrOf (sized : to16 ip = some long) : as16 (addrOf ip) = long := by
  have read := parseIP_text sized
  have unzoned : (addrOf ip).zone = "" := by
    rw [addrOf]
    cases to4 ip <;> rfl
  simpa only [parseIP, parseAddr_text sized, Option.bind_eq_bind, Option.bind_some, unzoned,
    if_true, Option.some.injEq] using read

theorem text_to16 (sized : to16 ip = some long) : text long = text ip := by
  unfold to16 at sized
  split_ifs at sized with four sixteen
  · cases sized
    have mapped : to4 (v4InV6Prefix ++ ip) = some ip := by simp [to4, v4InV6Prefix, four]
    rw [text_of_to4 mapped, text_of_to4 (to4_of_length four)]
  · cases sized
    rfl

theorem text_eq_iff {left right leftLong rightLong : IP} (leftSized : to16 left = some leftLong)
    (rightSized : to16 right = some rightLong) :
    text left = text right ↔ hostValue left = hostValue right := by
  rw [hostValue_eq leftSized, hostValue_eq rightSized, Inet.mk.injEq]
  constructor
  · intro same
    have addresses : addrOf left = addrOf right := by
      have read := parseAddr_text leftSized
      rw [same, parseAddr_text rightSized] at read
      exact (Option.some.inj read).symm
    exact ⟨addresses, by rw [addresses]⟩
  · intro same
    have longs : leftLong = rightLong := by
      rw [← as16_addrOf leftSized, ← as16_addrOf rightSized, same.1]
    rw [← text_to16 leftSized, ← text_to16 rightSized, longs]

theorem to16_of_to4 {bytes : IP} (converted : to4 ip = some bytes) :
    ∃ long, to16 ip = some long := by
  unfold to4 at converted
  split_ifs at converted with four mapped
  · exact ⟨_, if_pos four⟩
  · exact ⟨ip, by simp [to16, mapped.1]⟩

theorem hostValue_to4 {bytes : IP} (converted : to4 ip = some bytes) :
    hostValue bytes = hostValue ip := by
  have short := to4_length converted
  have same : text bytes = text ip := by
    rw [text_of_to4 converted, text_of_to4 (to4_of_length short)]
  rw [hostValue, hostValue, same]

theorem family_of_to4 {bytes : IP} (converted : to4 ip = some bytes) :
    (hostValue ip).family = 4 := by
  obtain ⟨long, sized⟩ := to16_of_to4 converted
  simp [hostValue_eq sized, Inet.family, addrOf, converted, Addr.is4]

theorem family_of_to16 (sized : to16 ip = some long) (other : to4 ip = none) :
    (hostValue ip).family = 6 := by
  simp [hostValue_eq sized, Inet.family, addrOf, other, Addr.is4]

theorem equal_iff_hostValue {left right leftBytes rightBytes : IP}
    (leftConverted : to4 left = some leftBytes) (rightConverted : to4 right = some rightBytes) :
    equal left right = true ↔ hostValue left = hostValue right := by
  have leftShort := to4_length leftConverted
  have rightShort := to4_length rightConverted
  rw [← equal_to4 rightConverted left, equal_comm, ← equal_to4 leftConverted rightBytes,
    equal_of_length rightShort leftShort, decide_eq_true_eq, ← hostValue_to4 leftConverted,
    ← hostValue_to4 rightConverted, eq_comm]
  obtain ⟨leftLong, leftSized⟩ := to16_of_to4 (to4_of_length leftShort)
  obtain ⟨rightLong, rightSized⟩ := to16_of_to4 (to4_of_length rightShort)
  rw [← text_eq_iff leftSized rightSized, text_of_to4 (to4_of_length leftShort),
    text_of_to4 (to4_of_length rightShort)]
  constructor
  · intro same
    rw [same]
  · intro same
    exact dotted_injective leftShort rightShort (String.ofList_injective same)

theorem parseCIDR_eq (source : String) :
    parseCIDR source = if '/' ∈ source.toList then (inetIn source).map Inet.cidr else none := by
  unfold parseCIDR inetIn
  dsimp only
  generalize source.toList.takeWhile (· ≠ '/') = address
  generalize (source.toList.drop address.length).drop 1 = bits
  by_cases slash : '/' ∈ source.toList
  · cases parseAddr (String.ofList address) with
    | none => simp [slash]
    | some addr =>
      by_cases zoned : addr.zone = ""
      · by_cases missing : bits = []
        · simp [slash, missing]
        · cases dtoi bits 0 with
          | none => simp [slash, missing]
          | some ones =>
            by_cases long : addr.bitLen < ones
            · simp [slash, zoned, missing, long]
            · simp [slash, zoned, missing, long, Inet.cidr]
      · simp [slash, zoned]
  · simp [slash]

theorem inetIn_bits {source : String} {inet : Inet} (read : inetIn source = some inet) :
    inet.bits ≤ inet.addr.bitLen := by
  unfold inetIn at read
  dsimp only at read
  generalize source.toList.takeWhile (· ≠ '/') = address at read
  generalize (source.toList.drop address.length).drop 1 = bits at read
  cases parsed : parseAddr (String.ofList address) with
  | none => simp [parsed] at read
  | some addr =>
    by_cases zoned : addr.zone = ""
    · by_cases slash : '/' ∈ source.toList
      · by_cases missing : bits = []
        · simp [parsed, slash, missing] at read
        · cases decimal : dtoi bits 0 with
          | none => simp [parsed, slash, missing, decimal] at read
          | some ones =>
            by_cases long : addr.bitLen < ones
            · simp [parsed, zoned, slash, missing, decimal, long] at read
            · have same : Inet.mk addr ones = inet := by
                simpa [parsed, zoned, slash, missing, decimal, long] using read
              rw [← same]
              exact Nat.le_of_not_lt long
      · have same : Inet.mk addr addr.bitLen = inet := by
          simpa [parsed, zoned, slash] using read
        rw [← same]
    · simp [parsed, zoned] at read

theorem pool_stored {source : String} (canonical : poolIsCanonical (parseCIDR source) = true)
    (mask32 : poolHasMask32 (parseCIDR source) = true) :
    ∃ value bits, cidrIn source = some ⟨.v4 value, bits⟩ ∧ bits ≤ 32 ∧
      parseCIDR source = some (Inet.cidr ⟨.v4 value, bits⟩) := by
  rw [parseCIDR_eq] at canonical mask32 ⊢
  by_cases slash : '/' ∈ source.toList
  · rw [if_pos slash] at canonical mask32 ⊢
    cases read : inetIn source with
    | none =>
      rw [read] at canonical
      cases canonical
    | some inet =>
      rw [read] at canonical mask32
      obtain ⟨addr, bits⟩ := inet
      have bounded := inetIn_bits read
      have width : addr.bitLen / 8 * 8 = 32 := by
        simpa [poolHasMask32, Inet.cidr, IPNet.bits, cidrMask] using mask32
      cases addr with
      | invalid => simp [Addr.bitLen] at width
      | v6 value zone => simp [Addr.bitLen] at width
      | v4 value =>
        have kept : cidrIn source = some ⟨.v4 value, bits⟩ := by
          simpa [cidrIn, read, Option.filter, poolIsCanonical] using canonical
        exact ⟨value, bits, kept, bounded, rfl⟩
  · rw [if_neg slash] at canonical
    cases canonical

theorem dtoi_repr {bits : Nat} (bounded : bits ≤ 32) :
    dtoi (Nat.toDigits 10 bits) 0 = some bits := by
  have table : ∀ value : Fin 33, dtoi (Nat.toDigits 10 value.val) 0 = some value.val := by decide
  exact table ⟨bits, by omega⟩

theorem addrOf_putUint32 (value : BitVec 32) :
    parseAddr (String.ofList (dotted (putUint32 value.toNat))) = some (.v4 value) := by
  have fields : fieldsValue ((putUint32 value.toNat).map UInt8.toNat) =
      bigEndian (putUint32 value.toNat) := by
    simp [fieldsValue, bigEndian, List.foldl_map]
  rw [parseAddr_dotted (by simp [putUint32]), fields, bigEndian_putUint32 value.isLt]
  simp

theorem parseCIDR_cidrText {value : BitVec 32} {bits : Nat} (bounded : bits ≤ 32) :
    parseCIDR (cidrText ⟨.v4 value, bits⟩) = some (Inet.cidr ⟨.v4 value, bits⟩) := by
  have written : (cidrText ⟨.v4 value, bits⟩).toList =
      dotted (putUint32 value.toNat) ++ '/' :: Nat.toDigits 10 bits := by
    rw [cidrText, String.toList_ofList, Nat.toList_repr, toText_v4]
  have slashFree : '/' ∉ dotted (putUint32 value.toNat) := mt mem_dotted (by decide)
  have address : (dotted (putUint32 value.toNat) ++ '/' :: Nat.toDigits 10 bits).takeWhile
      (· ≠ '/') = dotted (putUint32 value.toNat) := by
    have whole := takeWhile_ne slashFree
    rw [List.takeWhile_append, whole, if_pos rfl]
    simp
  have short : ¬(Addr.v4 value).bitLen < bits := Nat.not_lt.mpr bounded
  have read : inetIn (cidrText ⟨.v4 value, bits⟩) = some ⟨.v4 value, bits⟩ := by
    unfold inetIn
    dsimp only
    rw [written, address, List.drop_left, addrOf_putUint32]
    simp [Addr.zone, dtoi_repr bounded, short, Nat.toDigits_ne_nil]
  rw [parseCIDR_eq, if_pos (by rw [written]; simp), read]
  rfl

theorem validateIPv4InPool_congr {left right : String} (same : parseCIDR left = parseCIDR right)
    (address : IP) : validateIPv4InPool address left = validateIPv4InPool address right := by
  simp only [validateIPv4InPool, same]

theorem validateMembership_to4 {membership : Membership}
    (valid : validateMembership membership = .ok ()) :
    ∃ bytes, to4 membership.virtualIPv4 = some bytes := by
  simp only [validateMembership, required, invalidWhen_bind_ok, Option.isNone_eq_false_iff,
    Option.isSome_iff_exists] at valid
  exact valid.2.2.1

theorem validateEndpointAddress_ok {model : String} {address : IP} {family : EndpointFamily}
    (valid : validateEndpointAddress model address family = .ok ()) :
    (family = .ipv4 ∧ ∃ bytes, to4 address = some bytes) ∨
      (family = .ipv6 ∧ to4 address = none ∧ ∃ long, to16 address = some long) := by
  simp only [validateEndpointAddress, invalidWhen_bind_ok] at valid
  cases family with
  | ipv4 =>
    simp only [invalidWhen_ok, Option.isNone_eq_false_iff, Option.isSome_iff_exists] at valid
    exact Or.inl ⟨rfl, valid.2⟩
  | ipv6 =>
    simp only [invalidWhen_ok, Bool.or_eq_false_iff, Option.isNone_eq_false_iff,
      Option.isSome_iff_exists, Option.isSome_eq_false_iff, Option.isNone_iff_eq_none] at valid
    exact Or.inr ⟨rfl, valid.2.2, valid.2.1⟩
  | unsupported text => cases valid.2

theorem validateEndpointAddress_to16 {model : String} {address : IP} {family : EndpointFamily}
    (valid : validateEndpointAddress model address family = .ok ()) :
    ∃ long, to16 address = some long := by
  rcases validateEndpointAddress_ok valid with ⟨-, bytes, converted⟩ | ⟨-, -, sized⟩
  · exact to16_of_to4 converted
  · exact sized

theorem validateEndpointCandidate_address {endpoint : EndpointCandidate}
    (valid : validateEndpointCandidate endpoint = .ok ()) :
    validateEndpointAddress "endpoint_candidate" endpoint.address endpoint.family = .ok () := by
  simp only [validateEndpointCandidate, required, check_eq_ok] at valid
  exact valid.2.1

end Ipv6Mesh.DbRows
