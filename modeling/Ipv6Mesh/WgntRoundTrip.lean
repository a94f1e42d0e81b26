import Ipv6Mesh.GoNetText
import Ipv6Mesh.WgntReading

/-!
# The configuration read back

`parseStatus` of the bytes `buildConfiguration` writes gives the listen port and
the peers back. The records of a peer's allowed IPs are counted in 32 bits, and
`buildConfiguration` refuses a peer that has more. It does not check the number
of peers before it converts that to 32 bits.
-/

namespace Ipv6Mesh.WgntRoundTrip

open GoFlow (bind_eq_ok)
open GoNet CLayout WgntNative WgntReading
open WgntApi (Key Configuration WireGuardPeer InvalidConfig ValidPeer)

@[simp] theorem length_zeros (count : Nat) : (zeros count).length = count :=
  List.length_replicate

section Fields

variable {types : List FieldType} {values : List (List UInt8)}

theorem readField_encode (fits : Fits types values) (index : Nat) {value : List UInt8}
    (field : values[index]? = some value) (front rest : List UInt8) :
    readField (front ++ (encode types values ++ rest)) front.length types index = .ok value := by
  obtain ⟨type, located, sized⟩ := fits.field field
  rw [readField, located]
  simp only [← sized, load_encode fits field front rest]

theorem readUint_encode (fits : Fits types values) (index : Nat) {width value : Nat}
    (field : values[index]? = some (leBytes width value)) (bounded : value < 256 ^ width)
    (front rest : List UInt8) :
    readUint (front ++ (encode types values ++ rest)) front.length types index = .ok value := by
  rw [readUint, readField_encode fits index field front rest]
  exact congrArg Except.ok (leValue_leBytes bounded)

end Fields

theorem ntohs_htons (value : UInt16) : ntohs (htons value) = value := by
  apply UInt16.eq_of_toBitVec_eq
  simp only [ntohs, htons, UInt16.toBitVec_or, UInt16.toBitVec_shiftLeft,
    UInt16.toBitVec_shiftRight]
  ext index bound
  have outside := value.toBitVec.getLsbD_of_ge (8 + (8 + index)) (by omega)
  by_cases low : index < 8
  · have inside : 8 + index < 16 := by omega
    simp [low, inside, outside]
  · have shifted : 8 + (index - 8) = index := by omega
    have carried : index - 8 < 8 := by omega
    simp [low, shifted, carried, outside, BitVec.getLsbD_eq_getElem bound]

theorem addrFrom4_putUint32 (value : BitVec 32) :
    addrFrom4 (putUint32 value.toNat) = .v4 value := by
  rw [addrFrom4, bigEndian_putUint32 value.isLt, BitVec.ofNat_toNat, BitVec.setWidth_eq]

theorem ofNat_bigEndian_as16 (value : BitVec 128) (zone : String) :
    BitVec.ofNat 128 (bigEndian (as16 (.v6 value zone))) = value := by
  rw [bigEndian_as16, BitVec.ofNat_toNat, BitVec.setWidth_eq]

def Held (allowed : NetPrefix) : Prop := ∃ addr bits, allowed = prefixFrom addr bits

section AllowedIPs

variable {allowed : NetPrefix}

structure AllowedRecord (allowed : NetPrefix) (native : List UInt8) : Prop where
  written : makeAllowedIP allowed = .ok native
  sized : native.length = recordSize wireguardAllowedIP
  read : ∀ front rest,
    parseAllowedIP (front ++ (native ++ rest)) front.length = .ok (some allowed)

theorem allowedRecord_encode {family bits : Nat} {address : List UInt8}
    (sixteen : address.length = 16) (familySmall : family < 256 ^ 2) (bitsSmall : bits < 256 ^ 1)
    (written : makeAllowedIP allowed = .ok (encode wireguardAllowedIP
      [address, leBytes 2 family, leBytes 1 bits, zeros 4]))
    (meaning : (if family = afInet then some (prefixFrom (addrFrom4 (address.take 4)) bits)
      else if family = afInet6 then some (prefixFrom (addrFrom16 address) bits) else none) =
        some allowed) :
    ∃ native, AllowedRecord allowed native := by
  have fits : Fits wireguardAllowedIP [address, leBytes 2 family, leBytes 1 bits, zeros 4] :=
    .cons sixteen (.cons (by simp; rfl) (.cons (by simp; rfl) (.cons (by simp; rfl) .nil)))
  refine ⟨_, written, length_encode fits, fun front rest => ?_⟩
  have addressRead := readField_encode fits 0 rfl front rest
  have familyRead := readUint_encode fits 1 rfl familySmall front rest
  have bitsRead := readUint_encode fits 2 rfl bitsSmall front rest
  rw [← meaning]
  simp only [parseAllowedIP, addressRead, familyRead, bitsRead, bind, Except.bind, pure,
    Except.pure]
  split_ifs <;> rfl

theorem allowedRecord (held : Held allowed) (valid : allowed.isValid = true) :
    ∃ native, AllowedRecord allowed native := by
  obtain ⟨addr, bits, rfl⟩ := held
  cases addr with
  | invalid => simp [prefixFrom, NetPrefix.isValid, Addr.isValid] at valid
  | v4 value =>
    have bounded : bits ≤ 32 := by
      by_contra large
      simp [prefixFrom, NetPrefix.isValid, Addr.isValid, Addr.bitLen, large] at valid
    have given : prefixFrom (.v4 value) bits = ⟨.v4 value, some bits⟩ := by
      simp [prefixFrom, Addr.isValid, Addr.bitLen, bounded]
    refine @allowedRecord_encode _ afInet bits (putUint32 value.toNat ++ zeros 12) rfl
      (by decide) (by omega) (by rw [given]; rfl) ?_
    have head : (putUint32 value.toNat ++ zeros 12).take 4 = putUint32 value.toNat := rfl
    rw [if_pos rfl, head, addrFrom4_putUint32]
  | v6 value zone =>
    have bounded : bits ≤ 128 := by
      by_contra large
      simp [prefixFrom, NetPrefix.isValid, Addr.isValid, Addr.bitLen, large] at valid
    have given : prefixFrom (.v6 value zone) bits = ⟨.v6 value "", some bits⟩ := by
      simp [prefixFrom, Addr.isValid, Addr.bitLen, bounded]
    refine @allowedRecord_encode _ afInet6 bits (as16 (.v6 value ""))
      (length_as16_v6 value "") (by decide) (by omega) (by rw [given]; rfl) ?_
    rw [if_neg (by decide), if_pos rfl, addrFrom16, ofNat_bigEndian_as16]
    rfl

theorem appendAllowedIPs_read (index : Nat) {allowedIPs : List NetPrefix}
    (held : ∀ allowed ∈ allowedIPs, Held allowed)
    (valid : ∀ allowed ∈ allowedIPs, allowed.isValid = true) :
    ∃ bytes, appendAllowedIPs index allowedIPs = .ok bytes ∧
      bytes.length = allowedIPs.length * recordSize wireguardAllowedIP ∧
      ∀ front rest, parseAllowedIPs (front ++ (bytes ++ rest)) allowedIPs.length front.length =
        .ok allowedIPs := by
  induction allowedIPs with
  | nil => exact ⟨[], rfl, by simp, fun _ _ => rfl⟩
  | cons allowed others ih =>
    obtain ⟨heldFirst, heldOthers⟩ := List.forall_mem_cons.mp held
    obtain ⟨validFirst, validOthers⟩ := List.forall_mem_cons.mp valid
    obtain ⟨head, record⟩ := allowedRecord heldFirst validFirst
    obtain ⟨bytes, appended, sized, read⟩ := ih heldOthers validOthers
    refine ⟨head ++ bytes, ?_, ?_, fun front rest => ?_⟩
    · rw [appendAllowedIPs, record.written, appended]
      rfl
    · rw [List.length_append, record.sized, sized, List.length_cons, Nat.succ_mul, Nat.add_comm]
    · have first := record.read front (bytes ++ rest)
      have later := read (front ++ head) rest
      rw [List.length_append, record.sized, List.append_assoc] at later
      rw [List.append_assoc, List.length_cons, parseAllowedIPs, first, later]
      rfl

end AllowedIPs

structure EndpointBytes (address : AddrPort) (native : List UInt8) : Prop where
  written : setEndpoint address = .ok native
  sized : native.length = rawSockaddrInet.size
  read : parseEndpoint native = .ok address

theorem port_read (port : UInt16) : ntohs (UInt16.ofNat (htons port).toNat) = port := by
  rw [UInt16.ofNat_toNat, ntohs_htons]

theorem endpointBytes_v4 (value : BitVec 32) (port : UInt16) :
    ∃ native, EndpointBytes ⟨.v4 value, port⟩ native := by
  have fits : Fits rawSockaddrInet4 [leBytes 2 afInet, leBytes 2 (htons port).toNat,
      putUint32 value.toNat, zeros 8] :=
    .cons rfl (.cons rfl (.cons rfl (.cons rfl .nil)))
  refine ⟨_, rfl, ?_, ?_⟩
  · rw [List.length_append, length_encode fits]
    rfl
  · have familyRead := readUint_encode fits 0 rfl (by decide) [] (zeros 12)
    have portRead := readUint_encode fits 1 rfl (htons port).toNat_lt [] (zeros 12)
    have addressRead := readField_encode fits 2 rfl [] (zeros 12)
    simp only [List.nil_append, List.length_nil] at familyRead portRead addressRead
    simp only [parseEndpoint, familyRead, portRead, addressRead, bind, Except.bind, pure,
      Except.pure, if_true, addrFrom4_putUint32, port_read]

theorem endpointBytes_v6 (value : BitVec 128) (port : UInt16) :
    ∃ native, EndpointBytes ⟨.v6 value "", port⟩ native := by
  have fits : Fits rawSockaddrInet6 [leBytes 2 afInet6, leBytes 2 (htons port).toNat, zeros 4,
      as16 (.v6 value ""), leBytes 4 0] :=
    .cons rfl (.cons rfl (.cons rfl (.cons (length_as16_v6 value "") (.cons rfl .nil))))
  refine ⟨_, rfl, length_encode fits, ?_⟩
  have familyRead := readUint_encode fits 0 rfl (by decide) [] []
  have portRead := readUint_encode fits 1 rfl (htons port).toNat_lt [] []
  have addressRead := readField_encode fits 3 rfl [] []
  have scopeRead := readUint_encode fits 4 rfl (by decide) [] []
  rw [List.append_nil] at familyRead portRead addressRead scopeRead
  simp only [List.nil_append, List.length_nil] at familyRead portRead addressRead scopeRead
  -- the family is read through the IPv4 form, which starts with the same field
  rw [show readUint _ 0 rawSockaddrInet6 0 = readUint _ 0 rawSockaddrInet4 0 from rfl] at familyRead
  have other : afInet6 ≠ afInet := by decide
  simp only [parseEndpoint, familyRead, portRead, addressRead, scopeRead, bind, Except.bind, pure,
    Except.pure, other, if_true, if_false, ne_eq, not_true, ofNat_bigEndian_as16, port_read]

theorem endpointBytes {address : AddrPort} (valid : address.isValid = true)
    (unzoned : address.addr.zone = "") : ∃ native, EndpointBytes address native := by
  obtain ⟨addr, port⟩ := address
  cases addr with
  | invalid => simp [AddrPort.isValid, Addr.isValid] at valid
  | v4 value => exact endpointBytes_v4 value port
  | v6 value zone =>
    obtain rfl : zone = "" := unzoned
    exact endpointBytes_v6 value port

def reportedEndpoint (peer : WireGuardPeer) : AddrPort :=
  if peer.endpoint.isValid then peer.endpoint else AddrPort.zero

def reportedPeer (peer : WireGuardPeer) : PeerStatus :=
  ⟨peer.publicKey, reportedEndpoint peer, peer.allowedIPs, 0, 0, 0⟩

structure Writable (peer : WireGuardPeer) : Prop where
  unzoned : peer.endpoint.addr.zone = ""
  held : ∀ allowed ∈ peer.allowedIPs, Held allowed
  valid : ∀ allowed ∈ peer.allowedIPs, allowed.isValid = true
  counted : peer.allowedIPs.length < 2 ^ 32

section Peers

variable {peer : WireGuardPeer}

theorem peerFlags_hasEndpoint :
    peerFlags peer &&& peerHasEndpoint ≠ 0 ↔ peer.endpoint.isValid = true := by
  unfold peerFlags
  by_cases kept : 0 < peer.persistentKeepalive <;>
    by_cases valid : peer.endpoint.isValid = true <;>
    simp only [kept, valid, if_true, if_false, Bool.false_eq_true] <;> decide

theorem peerEndpoint_read (index : Nat) (unzoned : peer.endpoint.addr.zone = "") :
    ∃ native, peerEndpoint index peer = .ok native ∧ native.length = rawSockaddrInet.size ∧
      (if UInt32.ofNat (peerFlags peer).toNat &&& peerHasEndpoint ≠ 0 then parseEndpoint native
        else .ok AddrPort.zero) = .ok (reportedEndpoint peer) := by
  rw [UInt32.ofNat_toNat]
  simp only [peerFlags_hasEndpoint, peerEndpoint, reportedEndpoint]
  by_cases valid : peer.endpoint.isValid = true
  · obtain ⟨native, bytes⟩ := endpointBytes valid unzoned
    simp only [valid, if_true, bytes.written]
    exact ⟨native, rfl, bytes.sized, bytes.read⟩
  · simp only [valid]
    exact ⟨_, rfl, rfl, rfl⟩

section Record

variable {flags count : UInt32} {key : Key} {keepalive : UInt16} {endpoint : List UInt8}
  (sized : endpoint.length = rawSockaddrInet.size)

include sized

theorem fits_peerRecord : Fits wireguardPeer [leBytes 4 flags.toNat, zeros 4, key.val, zeros 32,
    leBytes 2 keepalive.toNat, zeros 2, endpoint, zeros 8, zeros 8, zeros 8,
    leBytes 4 count.toNat, zeros 4] :=
  .cons rfl (.cons rfl (.cons key.2 (.cons rfl (.cons rfl (.cons rfl (.cons sized (.cons rfl
    (.cons rfl (.cons rfl (.cons rfl (.cons rfl .nil)))))))))))

theorem peerReads_peerRecord {address : AddrPort} (front rest : List UInt8)
    (given : (if UInt32.ofNat flags.toNat &&& peerHasEndpoint ≠ 0 then parseEndpoint endpoint
      else .ok AddrPort.zero) = .ok address) :
    PeerReads (front ++ (peerRecord flags key keepalive endpoint count ++ rest)) front.length key
      address 0 0 0 count.toNat := by
  have fits := @fits_peerRecord flags count key keepalive endpoint sized
  have counter := fun index field =>
    @readUint_encode _ _ fits index 8 0 field (by decide) front rest
  exact {
    key := readField_encode fits 2 rfl front rest
    txBytes := counter 7 rfl
    rxBytes := counter 8 rfl
    lastHandshake := counter 9 rfl
    endpoint := ⟨flags.toNat, endpoint, readUint_encode fits 0 rfl flags.toNat_lt front rest,
      readField_encode fits 6 rfl front rest, given⟩
    allowedCount := readUint_encode fits 10 rfl count.toNat_lt front rest }

end Record

theorem parsePeers_record {front record allowedBytes bytes : List UInt8} {key : Key}
    {address : AddrPort} {txBytes rxBytes lastHandshake count : Nat} {allowedIPs : List NetPrefix}
    {others : List PeerStatus} (recordSized : record.length = recordSize wireguardPeer)
    (reads : PeerReads (front ++ (record ++ (allowedBytes ++ bytes))) front.length key address
      txBytes rxBytes lastHandshake allowedIPs.length)
    (allowedSized : allowedBytes.length = allowedIPs.length * recordSize wireguardAllowedIP)
    (allowedRead : ∀ front rest, parseAllowedIPs (front ++ (allowedBytes ++ rest))
      allowedIPs.length front.length = .ok allowedIPs)
    (read : ∀ front, parsePeers (front ++ bytes) count front.length = .ok others) :
    parsePeers (front ++ (record ++ (allowedBytes ++ bytes))) (count + 1) front.length =
      .ok (⟨key, address, allowedIPs, UInt64.ofNat txBytes, UInt64.ofNat rxBytes,
        wireguardTime lastHandshake⟩ :: others) := by
  have whole : (front ++ (record ++ (allowedBytes ++ bytes))).length =
      front.length + recordSize wireguardPeer +
        allowedIPs.length * recordSize wireguardAllowedIP + bytes.length := by
    simp only [List.length_append, recordSized, allowedSized]
    omega
  have inside : front.length + recordSize wireguardPeer ≤
      (front ++ (record ++ (allowedBytes ++ bytes))).length := by omega
  have room := @allowedIPs_fit _ _ allowedIPs.length (recordSize wireguardAllowedIP) (by decide)
    inside
  have listed := allowedRead (front ++ record) bytes
  have later := read (front ++ record ++ allowedBytes)
  simp only [List.length_append, List.append_assoc, recordSized, allowedSized] at listed later
  rw [parsePeers_succ inside reads, if_neg (room.mpr (by omega)), listed, Nat.add_assoc]
  simp only [later, bind, Except.bind, pure, Except.pure]

theorem appendPeers_read (index : Nat) {peers : List WireGuardPeer}
    (writable : ∀ peer ∈ peers, Writable peer) :
    ∃ bytes, appendPeers index peers = .ok bytes ∧ ∀ front,
      parsePeers (front ++ bytes) peers.length front.length = .ok (peers.map reportedPeer) := by
  induction peers generalizing index with
  | nil => exact ⟨[], rfl, fun _ => rfl⟩
  | cons peer others ih =>
    obtain ⟨first, rest⟩ := List.forall_mem_cons.mp writable
    obtain ⟨endpoint, written, sized, given⟩ := peerEndpoint_read index first.unzoned
    obtain ⟨allowedIPs, appended, allowedSized, allowedRead⟩ :=
      appendAllowedIPs_read index first.held first.valid
    obtain ⟨bytes, appendedOthers, read⟩ := ih (index + 1) rest
    have few : ¬2 ^ 32 - 1 < peer.allowedIPs.length := by
      have := first.counted
      omega
    refine ⟨_, by rw [appendPeers, if_neg few, written, appended, appendedOthers]; rfl, ?_⟩
    intro front
    have reads := @peerReads_peerRecord (peerFlags peer) (UInt32.ofNat peer.allowedIPs.length)
      peer.publicKey (peerKeepalive peer) endpoint sized _ front (allowedIPs ++ bytes) given
    rw [UInt32.toNat_ofNat_of_lt' first.counted] at reads
    exact parsePeers_record (length_encode (fits_peerRecord sized)) reads allowedSized
      allowedRead read

end Peers

theorem appendPeers_counted {index : Nat} {peers : List WireGuardPeer} {bytes : List UInt8}
    (appended : appendPeers index peers = .ok bytes) :
    ∀ peer ∈ peers, peer.allowedIPs.length < 2 ^ 32 := by
  induction peers generalizing index bytes with
  | nil => simp
  | cons peer others ih =>
    by_cases many : 2 ^ 32 - 1 < peer.allowedIPs.length
    · rw [appendPeers, if_pos many] at appended
      cases appended
    · rw [appendPeers, if_neg many] at appended
      obtain ⟨_, -, appended⟩ := bind_eq_ok.mp appended
      obtain ⟨_, -, appended⟩ := bind_eq_ok.mp appended
      obtain ⟨_, later, -⟩ := bind_eq_ok.mp appended
      exact List.forall_mem_cons.mpr ⟨by omega, ih later⟩

section Configurations

variable {configuration : Configuration} {bytes : List UInt8}

theorem interfaceRecord_reads :
    (interfaceRecord configuration).length = recordSize wireguardInterface ∧
    readUint (interfaceRecord configuration ++ bytes) 0 wireguardInterface 1 =
      .ok configuration.listenPort.toNat ∧
    readUint (interfaceRecord configuration ++ bytes) 0 wireguardInterface 4 =
      .ok (configuration.peers.length % 2 ^ 32) := by
  unfold interfaceRecord
  generalize interfaceHasPrivateKey ||| interfaceHasListenPort |||
    (if configuration.replacePeers then interfaceReplacePeers else 0) = flags
  have fits : Fits wireguardInterface [leBytes 4 flags.toNat,
      leBytes 2 configuration.listenPort.toNat, configuration.privateKey.val, zeros 32,
      leBytes 4 (UInt32.ofNat configuration.peers.length).toNat, zeros 4] :=
    .cons rfl (.cons rfl (.cons configuration.privateKey.2 (.cons rfl (.cons rfl
      (.cons rfl .nil)))))
  refine ⟨length_encode fits, ?_, ?_⟩
  · exact readUint_encode fits 1 rfl configuration.listenPort.toNat_lt [] bytes
  · rw [← UInt32.toNat_ofNat']
    exact readUint_encode fits 4 rfl (UInt32.toNat_lt _) [] bytes

theorem parseStatus_interfaceRecord (native : NativeAdapter) (up : Bool) :
    ∃ publicKey, parseStatus native up (interfaceRecord configuration ++ bytes) = do
      let peers ← parsePeers (interfaceRecord configuration ++ bytes)
        (configuration.peers.length % 2 ^ 32) (interfaceRecord configuration).length
      return ⟨native.name, native.luid, up, publicKey, configuration.listenPort, peers⟩ := by
  obtain ⟨sized, portRead, countRead⟩ := @interfaceRecord_reads configuration bytes
  have inside : recordSize wireguardInterface ≤
      (interfaceRecord configuration ++ bytes).length := by
    rw [List.length_append]
    omega
  obtain ⟨listenPort, publicKey, port, parsed⟩ :=
    @parseStatus_inside (interfaceRecord configuration ++ bytes) native up inside
  obtain rfl : configuration.listenPort.toNat = listenPort :=
    Except.ok.inj (portRead.symm.trans port)
  have counted := wordAt_of_readUint rfl countRead
  rw [Nat.zero_add] at counted
  rw [counted, UInt16.ofNat_toNat] at parsed
  exact ⟨publicKey, by rw [parsed, sized]⟩

/-- The bytes of a configuration parse to a status that shows its listen port and, in order, the
key, the endpoint or its absence, and the allowed IPs of each peer. -/
def RoundTrips (native : NativeAdapter) (up : Bool) (configuration : Configuration) : Prop :=
  ∃ bytes status, buildConfiguration configuration = .ok bytes ∧
    parseStatus native up bytes = .ok status ∧ status.listenPort = configuration.listenPort ∧
    status.peers.map (fun peer => (peer.publicKey, peer.endpoint, peer.allowedIPs)) =
      configuration.peers.map fun peer => (peer.publicKey, reportedEndpoint peer, peer.allowedIPs)

variable {native : NativeAdapter} {up : Bool}

theorem roundTrips_of_writable (writable : ∀ peer ∈ configuration.peers, Writable peer)
    (counted : configuration.peers.length < 2 ^ 32) : RoundTrips native up configuration := by
  obtain ⟨bytes, appended, read⟩ := appendPeers_read 0 writable
  obtain ⟨publicKey, parsed⟩ := @parseStatus_interfaceRecord configuration bytes native up
  have peers := read (interfaceRecord configuration)
  rw [Nat.mod_eq_of_lt counted, peers] at parsed
  refine ⟨_, _, by rw [buildConfiguration, appended]; rfl, parsed, rfl, ?_⟩
  rw [List.map_map]
  rfl

theorem counted_of_roundTrips (trip : RoundTrips native up configuration) :
    configuration.peers.length < 2 ^ 32 ∧
      ∀ peer ∈ configuration.peers, peer.allowedIPs.length < 2 ^ 32 := by
  obtain ⟨bytes, status, built, parsed, -, same⟩ := trip
  obtain ⟨peerBytes, appended, written⟩ := bind_eq_ok.mp built
  obtain rfl := Except.ok.inj written
  refine ⟨?_, appendPeers_counted appended⟩
  obtain ⟨publicKey, parsing⟩ := @parseStatus_interfaceRecord configuration peerBytes native up
  obtain ⟨peers, listed, shown⟩ := bind_eq_ok.mp (parsing.symm.trans parsed)
  obtain rfl := Except.ok.inj shown
  have lengths := congrArg List.length same
  rw [List.length_map, List.length_map, length_parsePeers listed] at lengths
  omega

end Configurations

/-- A valid configuration with unzoned endpoints round-trips exactly when the numbers of its peers
and of their allowed IPs fit in 32 bits. Parsing any buffer stays inside of it and succeeds exactly
when the buffer holds all the records it announces. -/
theorem native_format_round_trips_iff (native : NativeAdapter) (up : Bool) :
    (∀ configuration : Configuration, configuration.validate = .ok () →
      (∀ peer ∈ configuration.peers, peer.endpoint.addr.zone = "" ∧
        ∀ allowed ∈ peer.allowedIPs, Held allowed) →
      (RoundTrips native up configuration ↔ configuration.peers.length < 2 ^ 32 ∧
        ∀ peer ∈ configuration.peers, peer.allowedIPs.length < 2 ^ 32)) ∧
    ∀ buffer, parseStatus native up buffer ≠ .error .fault ∧
      ((∃ status, parseStatus native up buffer = .ok status) ↔ Whole buffer) := by
  refine ⟨fun configuration validated given => ⟨counted_of_roundTrips, ?_⟩, fun buffer => ?_⟩
  · rintro ⟨few, counted⟩
    refine roundTrips_of_writable (fun peer member => ?_) few
    have valid := (WgntApi.Configuration.validate_ok.mp validated).2.1 peer member
    exact ⟨(given peer member).1, (given peer member).2,
      fun allowed listed => (valid.hostRoutes allowed listed).1, counted peer member⟩
  · obtain ⟨whole, status, parsed⟩ | ⟨cut, failure, failed, inside⟩ :=
      @parseStatus_outcome buffer native up
    · rw [parsed]
      exact ⟨nofun, iff_of_true ⟨status, rfl⟩ whole⟩
    · rw [failed]
      exact ⟨fun fault => inside (Except.error.inj fault), iff_of_false nofun cut⟩

def numberedKey (number : Nat) : Key := ⟨leBytes 32 (number + 1), length_leBytes 32 _⟩

def twoPeers : Configuration where
  privateKey := numberedKey 0
  listenPort := 51820
  replacePeers := true
  peers := [
    ⟨numberedKey 1, ⟨.v6 0xfd000000000000000000000000000001 "", 51820⟩, 25 * WgntApi.second,
      [prefixFrom (.v4 0x0a000002) 32, prefixFrom (.v6 0xfd000000000000000000000000000002 "") 128]⟩,
    ⟨numberedKey 2, AddrPort.zero, 0, [prefixFrom (.v4 0x0a000003) 32]⟩]

theorem two_peers_round_trip : RoundTrips ⟨"mesh", 1⟩ true twoPeers :=
  ((native_format_round_trips_iff ⟨"mesh", 1⟩ true).1 twoPeers (by decide +kernel)
    (by simp [twoPeers, AddrPort.zero, Addr.zone, Held])).mpr (by decide)

def numberedPeer (number : Nat) : WireGuardPeer := ⟨numberedKey number, AddrPort.zero, 0, []⟩

def numberedPeers (count : Nat) : Configuration :=
  ⟨numberedKey 0, 51820, (List.range count).map numberedPeer, true⟩

section Numbered

theorem leValue_numberedKey {number : Nat} (bounded : number + 1 < 256 ^ 32) :
    leValue (numberedKey number).val = number + 1 := leValue_leBytes bounded

theorem numberedKey_isZero {number : Nat} (bounded : number + 1 < 256 ^ 32) :
    (numberedKey number).isZero = false := by
  refine decide_eq_false fun zero => ?_
  have value := leValue_numberedKey bounded
  have zeroValue : leValue Key.zero.val = 0 := by decide
  rw [zero, zeroValue] at value
  omega

variable {count : Nat}

theorem numberedPeers_validate (bounded : count < 256 ^ 32) :
    (numberedPeers count).validate = .ok () := by
  refine WgntApi.Configuration.validate_ok.mpr ⟨numberedKey_isZero (by decide), ?_, ?_⟩
  · intro peer member
    obtain ⟨number, listed, rfl⟩ := List.mem_map.mp member
    have below := List.mem_range.mp listed
    exact ⟨numberedKey_isZero (by omega), nofun, rfl, nofun⟩
  · show (((List.range count).map numberedPeer).map WireGuardPeer.publicKey).Nodup
    rw [List.map_map]
    refine List.Nodup.map_on (fun left leftListed right rightListed same => ?_) List.nodup_range
    have leftBelow := List.mem_range.mp leftListed
    have rightBelow := List.mem_range.mp rightListed
    have values := congrArg (fun key : Key => leValue key.val) same
    simp only [Function.comp_apply, numberedPeer] at values
    rw [leValue_numberedKey (by omega), leValue_numberedKey (by omega)] at values
    omega

theorem numberedPeer_writable (number : Nat) : Writable (numberedPeer number) :=
  ⟨rfl, nofun, nofun, Nat.two_pow_pos 32⟩

theorem numberedPeers_writable : ∀ peer ∈ (numberedPeers count).peers, Writable peer := by
  intro peer member
  obtain ⟨number, -, rfl⟩ := List.mem_map.mp member
  exact numberedPeer_writable number

theorem length_numberedPeers : (numberedPeers count).peers.length = count := by
  rw [numberedPeers, List.length_map, List.length_range]

theorem numberedPeers_lost (wraps : count % 2 ^ 32 = 0) (native : NativeAdapter) (up : Bool) :
    ∃ bytes status, buildConfiguration (numberedPeers count) = .ok bytes ∧
      parseStatus native up bytes = .ok status ∧ status.peers = [] := by
  obtain ⟨bytes, appended, -⟩ := appendPeers_read 0 (@numberedPeers_writable count)
  obtain ⟨publicKey, parsed⟩ :=
    @parseStatus_interfaceRecord (numberedPeers count) bytes native up
  rw [length_numberedPeers, wraps] at parsed
  exact ⟨_, _, by rw [buildConfiguration, appended]; rfl, parsed, rfl⟩

end Numbered

theorem uncounted_peers_are_lost :
    (numberedPeers (2 ^ 32)).validate = .ok () ∧
    (∀ peer ∈ (numberedPeers (2 ^ 32)).peers, peer.endpoint.addr.zone = "" ∧
      ∀ allowed ∈ peer.allowedIPs, Held allowed) ∧
    (numberedPeers (2 ^ 32)).peers.length = 2 ^ 32 ∧
    ∃ bytes status, buildConfiguration (numberedPeers (2 ^ 32)) = .ok bytes ∧
      parseStatus ⟨"mesh", 1⟩ true bytes = .ok status ∧ status.peers = [] := by
  refine ⟨numberedPeers_validate (by decide), fun peer member => ?_, length_numberedPeers,
    numberedPeers_lost (by decide) _ _⟩
  have writable := numberedPeers_writable peer member
  exact ⟨writable.unzoned, writable.held⟩

end Ipv6Mesh.WgntRoundTrip
