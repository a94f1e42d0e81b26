import Ipv6Mesh.WgntNative

/-!
# Reading a WireGuardNT configuration

`parseStatus` trusts the counts it finds and checks the length of the buffer
before each record, so it never reads outside of the buffer. It succeeds exactly
on a buffer that holds all the records its counts announce.
-/

namespace Ipv6Mesh.WgntReading

open GoNet CLayout WgntNative
open WgntApi (Key)

section Fields

variable {buffer : List UInt8} {offset : Nat} {types : List FieldType} {type : FieldType}

theorem readField_inside (index : Nat) (field : types[index]? = some type)
    (inside : offset + recordSize types ≤ buffer.length) :
    ∃ value, readField buffer offset types index = .ok value ∧ value.length = type.size := by
  have ends := field_le_recordSize field
  have within : offset + offsetOf types index + type.size ≤ buffer.length := by omega
  have loaded := load_of_le within
  refine ⟨_, ?_, length_of_load loaded⟩
  simp only [readField, field, loaded]

theorem readUint_inside (index : Nat) (field : types[index]? = some type)
    (inside : offset + recordSize types ≤ buffer.length) :
    ∃ value, readUint buffer offset types index = .ok value := by
  obtain ⟨value, read, -⟩ := readField_inside index field inside
  exact ⟨leValue value, by rw [readUint, read]; rfl⟩

end Fields

theorem parseEndpoint_sized {endpoint : List UInt8} (sized : endpoint.length = 28) :
    ∃ address, parseEndpoint endpoint = .ok address := by
  have four : 0 + recordSize rawSockaddrInet4 ≤ endpoint.length := by
    rw [sized]
    decide
  have six : 0 + recordSize rawSockaddrInet6 ≤ endpoint.length := by
    rw [sized]
    decide
  obtain ⟨family, familyRead⟩ := readUint_inside 0 rfl four
  obtain ⟨address4, read4, -⟩ := readField_inside 2 rfl four
  obtain ⟨port4, portRead4⟩ := readUint_inside 1 rfl four
  obtain ⟨address6, read6, -⟩ := readField_inside 3 rfl six
  obtain ⟨scope, scopeRead⟩ := readUint_inside 4 rfl six
  obtain ⟨port6, portRead6⟩ := readUint_inside 1 rfl six
  simp only [parseEndpoint, familyRead, read4, portRead4, read6, scopeRead, portRead6, bind,
    Except.bind, pure, Except.pure]
  split_ifs <;> exact ⟨_, rfl⟩

section Records

variable {buffer : List UInt8} {offset : Nat}

theorem parseAllowedIP_inside
    (inside : offset + recordSize wireguardAllowedIP ≤ buffer.length) :
    ∃ allowed, parseAllowedIP buffer offset = .ok allowed := by
  obtain ⟨address, addressRead, -⟩ := readField_inside 0 rfl inside
  obtain ⟨family, familyRead⟩ := readUint_inside 1 rfl inside
  obtain ⟨cidr, cidrRead⟩ := readUint_inside 2 rfl inside
  simp only [parseAllowedIP, addressRead, familyRead, cidrRead, bind, Except.bind, pure,
    Except.pure]
  split_ifs <;> exact ⟨_, rfl⟩

theorem parseAllowedIPs_inside {count : Nat}
    (inside : offset + count * recordSize wireguardAllowedIP ≤ buffer.length) :
    ∃ allowed, parseAllowedIPs buffer count offset = .ok allowed := by
  induction count generalizing offset with
  | zero => exact ⟨[], rfl⟩
  | succ count ih =>
    rw [Nat.succ_mul] at inside
    obtain ⟨first, read⟩ := @parseAllowedIP_inside buffer offset (by omega)
    obtain ⟨others, rest⟩ := @ih (offset + recordSize wireguardAllowedIP) (by omega)
    exact ⟨_, by rw [parseAllowedIPs, read, rest]; rfl⟩

structure PeerReads (buffer : List UInt8) (offset : Nat) (key : Key) (address : AddrPort)
    (txBytes rxBytes lastHandshake allowedCount : Nat) : Prop where
  key : readField buffer offset wireguardPeer 2 = .ok key.val
  txBytes : readUint buffer offset wireguardPeer 7 = .ok txBytes
  rxBytes : readUint buffer offset wireguardPeer 8 = .ok rxBytes
  lastHandshake : readUint buffer offset wireguardPeer 9 = .ok lastHandshake
  endpoint : ∃ flags endpoint, readUint buffer offset wireguardPeer 0 = .ok flags ∧
    readField buffer offset wireguardPeer 6 = .ok endpoint ∧
    (if UInt32.ofNat flags &&& peerHasEndpoint ≠ 0 then parseEndpoint endpoint
      else .ok AddrPort.zero) = .ok address
  allowedCount : readUint buffer offset wireguardPeer 10 = .ok allowedCount

theorem peerReads_inside (inside : offset + recordSize wireguardPeer ≤ buffer.length) :
    ∃ key address txBytes rxBytes lastHandshake allowedCount,
      PeerReads buffer offset key address txBytes rxBytes lastHandshake allowedCount := by
  obtain ⟨key, keyRead, sized⟩ := readField_inside 2 rfl inside
  obtain ⟨txBytes, txRead⟩ := readUint_inside 7 rfl inside
  obtain ⟨rxBytes, rxRead⟩ := readUint_inside 8 rfl inside
  obtain ⟨lastHandshake, lastRead⟩ := readUint_inside 9 rfl inside
  obtain ⟨flags, flagsRead⟩ := readUint_inside 0 rfl inside
  obtain ⟨endpoint, endpointRead, endpointSized⟩ := readField_inside 6 rfl inside
  obtain ⟨allowedCount, countRead⟩ := readUint_inside 10 rfl inside
  obtain ⟨parsed, parsedEndpoint⟩ := parseEndpoint_sized endpointSized
  have chosen : ∃ address, (if UInt32.ofNat flags &&& peerHasEndpoint ≠ 0 then
      parseEndpoint endpoint else .ok AddrPort.zero) = .ok address := by
    split_ifs
    · exact ⟨parsed, parsedEndpoint⟩
    · exact ⟨_, rfl⟩
  obtain ⟨address, given⟩ := chosen
  exact ⟨⟨key, sized⟩, address, txBytes, rxBytes, lastHandshake, allowedCount, keyRead, txRead,
    rxRead, lastRead, ⟨flags, endpoint, flagsRead, endpointRead, given⟩, countRead⟩

theorem parsePeers_succ {count : Nat} {key : Key} {address : AddrPort}
    {txBytes rxBytes lastHandshake allowedCount : Nat}
    (inside : offset + recordSize wireguardPeer ≤ buffer.length)
    (reads : PeerReads buffer offset key address txBytes rxBytes lastHandshake allowedCount) :
    parsePeers buffer (count + 1) offset =
      if (buffer.length - (offset + recordSize wireguardPeer)) / recordSize wireguardAllowedIP <
          allowedCount then .error .truncatedAllowedIP
      else do
        let allowedIPs ← parseAllowedIPs buffer allowedCount (offset + recordSize wireguardPeer)
        let others ← parsePeers buffer count (offset + recordSize wireguardPeer +
          allowedCount * recordSize wireguardAllowedIP)
        return ⟨key, address, allowedIPs, UInt64.ofNat txBytes, UInt64.ofNat rxBytes,
          wireguardTime lastHandshake⟩ :: others := by
  obtain ⟨flags, endpoint, flagsRead, endpointRead, given⟩ := reads.endpoint
  have keyRead : keyOf key.val = .ok key := dif_pos key.2
  rw [parsePeers, if_neg (not_lt.mpr inside)]
  simp only [reads.key, reads.txBytes, reads.rxBytes, reads.lastHandshake, flagsRead,
    reads.allowedCount, keyRead, bind, Except.bind, pure, Except.pure]
  by_cases flagged : UInt32.ofNat flags &&& peerHasEndpoint ≠ 0
  · rw [if_pos flagged] at given
    simp only [if_pos flagged, endpointRead, given]
    rfl
  · rw [if_neg flagged, Except.ok.injEq] at given
    simp only [if_neg flagged, ← given]
    rfl

theorem parsePeers_truncated {count : Nat}
    (outside : ¬offset + recordSize wireguardPeer ≤ buffer.length) :
    parsePeers buffer (count + 1) offset = .error .truncatedPeer := by
  rw [parsePeers, if_pos (not_le.mp outside)]
  rfl

end Records

def wordAt (buffer : List UInt8) (offset : Nat) : Nat := leValue ((buffer.drop offset).take 4)

def announcedAllowedIPs (buffer : List UInt8) (offset : Nat) : Nat :=
  wordAt buffer (offset + offsetOf wireguardPeer 10)

/-- From an offset on, the buffer holds `count` peer records, each with the allowed-IP records it
announces. -/
def WholePeers (buffer : List UInt8) : Nat → Nat → Prop
  | 0, _ => True
  | count + 1, offset =>
    let allowedIPs := offset + recordSize wireguardPeer
    let next := allowedIPs + announcedAllowedIPs buffer offset * recordSize wireguardAllowedIP
    allowedIPs ≤ buffer.length ∧ next ≤ buffer.length ∧ WholePeers buffer count next

/-- Every record that the counts of the buffer announce lies inside it. -/
def Whole (buffer : List UInt8) : Prop :=
  recordSize wireguardInterface ≤ buffer.length ∧
    WholePeers buffer (wordAt buffer (offsetOf wireguardInterface 4))
      (recordSize wireguardInterface)

section Outcomes

variable {buffer : List UInt8} {offset : Nat}

theorem wordAt_of_readUint {types : List FieldType} {index value : Nat}
    (word : types[index]? = some uint32) (read : readUint buffer offset types index = .ok value) :
    wordAt buffer (offset + offsetOf types index) = value := by
  simp only [readUint, readField, word, load] at read
  split_ifs at read with inside
  · exact Except.ok.inj read
  · cases read

theorem allowedIPs_fit {length next count size : Nat} (positive : 0 < size)
    (inside : next ≤ length) : ¬(length - next) / size < count ↔ next + count * size ≤ length := by
  rw [not_lt, Nat.le_div_iff_mul_le positive]
  omega

theorem parsePeers_outcome (count : Nat) :
    (WholePeers buffer count offset ∧
      ∃ peers, parsePeers buffer count offset = .ok peers ∧ peers.length = count) ∨
    (¬WholePeers buffer count offset ∧
      ∃ failure, parsePeers buffer count offset = .error failure ∧ failure ≠ .fault) := by
  induction count generalizing offset with
  | zero => exact .inl ⟨trivial, [], rfl, rfl⟩
  | succ count ih =>
    by_cases inside : offset + recordSize wireguardPeer ≤ buffer.length
    · obtain ⟨key, address, txBytes, rxBytes, lastHandshake, allowedCount, reads⟩ :=
        peerReads_inside inside
      have announced : announcedAllowedIPs buffer offset = allowedCount :=
        wordAt_of_readUint rfl reads.allowedCount
      have room := @allowedIPs_fit buffer.length _ allowedCount
        (recordSize wireguardAllowedIP) (by decide) inside
      rw [parsePeers_succ inside reads]
      simp only [WholePeers, announced]
      by_cases fits : offset + recordSize wireguardPeer +
          allowedCount * recordSize wireguardAllowedIP ≤ buffer.length
      · obtain ⟨allowedIPs, listed⟩ := parseAllowedIPs_inside fits
        rw [if_neg (room.mpr fits), listed]
        obtain ⟨whole, peers, parsed, sized⟩ | ⟨cut, failure, failed, stopped⟩ :=
          @ih (offset + recordSize wireguardPeer + allowedCount * recordSize wireguardAllowedIP)
        · refine .inl ⟨⟨inside, fits, whole⟩, _, by rw [parsed]; rfl, ?_⟩
          rw [List.length_cons, sized]
        · exact .inr ⟨fun all => cut all.2.2, failure, by rw [failed]; rfl, stopped⟩
      · rw [if_pos (not_not.mp fun fitting => fits (room.mp fitting))]
        exact .inr ⟨fun all => fits all.2.1, _, rfl, by decide⟩
    · rw [parsePeers_truncated inside]
      exact .inr ⟨fun all => inside all.1, _, rfl, by decide⟩

theorem length_parsePeers {count : Nat} {peers : List PeerStatus}
    (parsed : parsePeers buffer count offset = .ok peers) : peers.length = count := by
  obtain ⟨-, listed, other, sized⟩ | ⟨-, failure, failed, -⟩ :=
    @parsePeers_outcome buffer offset count
  · obtain rfl := Except.ok.inj (parsed.symm.trans other)
    exact sized
  · cases parsed.symm.trans failed

variable {native : NativeAdapter} {up : Bool}

theorem parseStatus_inside (inside : recordSize wireguardInterface ≤ buffer.length) :
    ∃ listenPort publicKey,
      readUint buffer 0 wireguardInterface 1 = .ok listenPort ∧
      parseStatus native up buffer = do
        let peers ← parsePeers buffer (wordAt buffer (offsetOf wireguardInterface 4))
          (recordSize wireguardInterface)
        return ⟨native.name, native.luid, up, publicKey, UInt16.ofNat listenPort, peers⟩ := by
  have start : 0 + recordSize wireguardInterface ≤ buffer.length := by omega
  obtain ⟨listenPort, portRead⟩ := readUint_inside 1 rfl start
  obtain ⟨flags, flagsRead⟩ := readUint_inside 0 rfl start
  obtain ⟨key, keyRead, sized⟩ := readField_inside 3 rfl start
  obtain ⟨peersCount, countRead⟩ := readUint_inside 4 rfl start
  have keyOfRead : keyOf key = .ok ⟨key, sized⟩ := dif_pos sized
  have announced := wordAt_of_readUint rfl countRead
  rw [Nat.zero_add] at announced
  refine ⟨listenPort, if UInt32.ofNat flags &&& interfaceHasPublicKey ≠ 0 then ⟨key, sized⟩
    else Key.zero, portRead, ?_⟩
  rw [parseStatus, if_neg (not_lt.mpr inside), announced]
  simp only [portRead, flagsRead, keyRead, keyOfRead, countRead, bind, Except.bind, pure,
    Except.pure]
  split_ifs <;> rfl

theorem parseStatus_short (outside : ¬recordSize wireguardInterface ≤ buffer.length) :
    parseStatus native up buffer = .error .shortConfiguration := by
  rw [parseStatus, if_pos (not_le.mp outside)]
  rfl

theorem parseStatus_outcome :
    (Whole buffer ∧ ∃ status, parseStatus native up buffer = .ok status) ∨
    (¬Whole buffer ∧
      ∃ failure, parseStatus native up buffer = .error failure ∧ failure ≠ .fault) := by
  by_cases inside : recordSize wireguardInterface ≤ buffer.length
  · obtain ⟨listenPort, publicKey, -, parsed⟩ := @parseStatus_inside buffer native up inside
    rw [parsed]
    obtain ⟨whole, peers, listed, -⟩ | ⟨cut, failure, failed, stopped⟩ :=
      @parsePeers_outcome buffer (recordSize wireguardInterface)
        (wordAt buffer (offsetOf wireguardInterface 4))
    · exact .inl ⟨⟨inside, whole⟩, _, by rw [listed]; rfl⟩
    · exact .inr ⟨fun all => cut all.2, failure, by rw [failed]; rfl, stopped⟩
  · rw [parseStatus_short inside]
    exact .inr ⟨fun all => inside all.1, _, rfl, by decide⟩

end Outcomes

end Ipv6Mesh.WgntReading
