import Ipv6Mesh.AddressPool
import Ipv6Mesh.DbRows

/-!
# Allocation from a pool

The usable hosts of a pool that `ValidateNetwork` accepts are consecutive
numbers strictly between its network and broadcast address, each of them is an
address the repository accepts for the network, and `RandomNext` finds one that
is not occupied whenever there is one, from every start offset.
-/

namespace Ipv6Mesh.AddressAllocation

open GoNet GoCidr ControlModel ControlValidation AddressPool DbRows

structure Consecutive (pool : Pool) : Prop where
  range : pool.usableCount ≠ 0 → pool.first + pool.usableCount = pool.last + 1
  bounded : pool.last < 2 ^ 32

section Scan

variable {pool : Pool} {used : List Nat} {start : Nat}

def hostAt (pool : Pool) (start offset : Nat) : Nat :=
  (pool.first + (start + offset) % pool.usableCount) % 2 ^ 32

theorem scan_eq_some {remaining offset value : Nat}
    (found : pool.scan used start remaining offset = some value) :
    value ∉ used ∧ ∃ position, value = hostAt pool start position := by
  induction remaining generalizing offset with
  | zero => simp [Pool.scan] at found
  | succ remaining ih =>
    simp only [Pool.scan] at found
    split_ifs at found with occupied
    · exact ih found
    · cases found
      exact ⟨occupied, offset, rfl⟩

theorem scan_eq_none {remaining offset : Nat}
    (missed : pool.scan used start remaining offset = none) :
    ∀ position, offset ≤ position → position < offset + remaining →
      hostAt pool start position ∈ used := by
  induction remaining generalizing offset with
  | zero =>
    intro position low high
    omega
  | succ remaining ih =>
    intro position low high
    simp only [Pool.scan] at missed
    split_ifs at missed with occupied
    rcases Nat.eq_or_lt_of_le low with rfl | later
    · exact occupied
    · exact ih missed position later (by omega)

theorem hostAt_range (consecutive : Consecutive pool) (nonempty : pool.usableCount ≠ 0)
    (start position : Nat) :
    pool.first ≤ hostAt pool start position ∧ hostAt pool start position ≤ pool.last := by
  have range := consecutive.range nonempty
  have bounded := consecutive.bounded
  have inside : (start + position) % pool.usableCount < pool.usableCount :=
    Nat.mod_lt _ (Nat.pos_of_ne_zero nonempty)
  have exactValue : hostAt pool start position =
      pool.first + (start + position) % pool.usableCount :=
    Nat.mod_eq_of_lt (by omega)
  omega

theorem exists_position (consecutive : Consecutive pool) {start value : Nat}
    (inRange : start < pool.usableCount) (low : pool.first ≤ value) (high : value ≤ pool.last) :
    ∃ position < pool.usableCount, hostAt pool start position = value := by
  have nonempty : pool.usableCount ≠ 0 := by omega
  have range := consecutive.range nonempty
  have bounded := consecutive.bounded
  have reaches : ∀ position, (start + position) % pool.usableCount = value - pool.first →
      hostAt pool start position = value := by
    intro position same
    rw [hostAt, same, Nat.mod_eq_of_lt] <;> omega
  rcases Nat.lt_or_ge (value - pool.first) start with before | after
  · refine ⟨pool.usableCount + (value - pool.first) - start, by omega, reaches _ ?_⟩
    have sum : start + (pool.usableCount + (value - pool.first) - start) =
        value - pool.first + pool.usableCount := by omega
    rw [sum, Nat.add_mod_right, Nat.mod_eq_of_lt (by omega)]
  · refine ⟨value - pool.first - start, by omega, reaches _ ?_⟩
    rw [Nat.add_sub_cancel' after, Nat.mod_eq_of_lt (by omega)]

def IsHost (pool : Pool) (host : Nat) : Prop :=
  pool.usableCount ≠ 0 ∧ pool.first ≤ host ∧ host ≤ pool.last

theorem randomNext_eq_ok (consecutive : Consecutive pool) {draw : Except Error Nat}
    {occupied : List IP} {candidate : IP}
    (drawn : pool.randomNext draw occupied = .ok candidate) :
    ∃ host, candidate = putUint32 host ∧ IsHost pool host ∧ host ∉ occupiedValues occupied := by
  unfold Pool.randomNext at drawn
  split_ifs at drawn with nonempty
  cases draw with
  | error err => cases drawn
  | ok start =>
    simp only [bind, Except.bind] at drawn
    cases scanned : pool.scan (occupiedValues occupied) (start % pool.usableCount)
        pool.usableCount 0 with
    | none =>
      rw [scanned] at drawn
      cases drawn
    | some host =>
      rw [scanned] at drawn
      cases drawn
      obtain ⟨free, position, rfl⟩ := scan_eq_some scanned
      exact ⟨_, rfl, ⟨nonempty, hostAt_range consecutive nonempty _ _⟩, free⟩

theorem randomNext_error (consecutive : Consecutive pool) {start : Nat} {occupied : List IP}
    {err : Error} (failed : pool.randomNext (.ok start) occupied = .error err) :
    ∀ host, IsHost pool host → host ∈ occupiedValues occupied := by
  rintro host ⟨nonempty, low, high⟩
  rw [Pool.randomNext, if_neg nonempty] at failed
  simp only [bind, Except.bind] at failed
  cases scanned : pool.scan (occupiedValues occupied) (start % pool.usableCount)
      pool.usableCount 0 with
  | some value =>
    rw [scanned] at failed
    cases failed
  | none =>
    have inRange : start % pool.usableCount < pool.usableCount :=
      Nat.mod_lt _ (Nat.pos_of_ne_zero nonempty)
    obtain ⟨position, below, rfl⟩ := exists_position consecutive inRange low high
    exact scan_eq_none scanned position (Nat.zero_le _) (by omega)

end Scan

theorem putUint32_length (value : Nat) : (putUint32 value).length = 4 := rfl

theorem bigEndian_injective {left right : IP} (leftSized : left.length = 4)
    (rightSized : right.length = 4) (same : bigEndian left = bigEndian right) : left = right := by
  rw [← bytes_of_bigEndian leftSized, ← bytes_of_bigEndian rightSized, same]

theorem to4_mapped {bytes : IP} (sized : bytes.length = 4) :
    to4 (v4InV6Prefix ++ bytes) = some bytes := by
  simp [to4, v4InV6Prefix, sized]

theorem cidrMask_length (bits : Nat) : (cidrMask bits 32).length = 4 := by simp [cidrMask]

theorem masked_length (value bits : Nat) :
    ((putUint32 value).zipWith (· &&& ·) (cidrMask bits 32)).length = 4 := by
  simp [putUint32_length, cidrMask_length]

theorem network_of_v4 (value : BitVec 32) (bits : Nat) :
    (Inet.cidr ⟨.v4 value, bits⟩).network =
      ⟨(putUint32 value.toNat).zipWith (· &&& ·) (cidrMask bits 32), cidrMask bits 32⟩ := by
  have sized : (as16 (.v4 value)).length = 16 := rfl
  have short : ¬(cidrMask bits 32).length = 16 := by rw [cidrMask_length]; decide
  have isMapped : (as16 (.v4 value)).take 12 = v4InV6Prefix := rfl
  have tail : (as16 (.v4 value)).drop 12 = putUint32 value.toNat := rfl
  simp [Inet.cidr, Addr.bitLen, mask, sized, cidrMask_length, isMapped, tail,
    putUint32_length]

variable {bits : Nat}

theorem canonical_value {value : BitVec 32} (bounded : bits ≤ 32)
    (canonical : equal (Inet.cidr ⟨.v4 value, bits⟩).ip
      (Inet.cidr ⟨.v4 value, bits⟩).network.ip = true) :
    (putUint32 value.toNat).zipWith (· &&& ·) (cidrMask bits 32) = putUint32 value.toNat ∧
      value.toNat / 2 ^ (32 - bits) * 2 ^ (32 - bits) = value.toNat := by
  have converted : to4 (Inet.cidr ⟨.v4 value, bits⟩).ip = some (putUint32 value.toNat) :=
    to4_mapped (putUint32_length _)
  rw [network_of_v4, equal_comm, ← equal_to4 converted,
    equal_of_length (masked_length _ _) (putUint32_length _), decide_eq_true_eq] at canonical
  have masked := bigEndian_mask (putUint32_length value.toNat) bounded
  rw [canonical, bigEndian_putUint32 value.isLt] at masked
  exact ⟨canonical, masked.symm⟩

def blockPool (base bits : Nat) : Pool :=
  let normalized := text (putUint32 base) ++ "/" ++ Nat.repr bits
  if 2 < 2 ^ (32 - bits) then
    ⟨normalized, base, bits, (base + 1) % 2 ^ 32, (base + (2 ^ (32 - bits) - 2)) % 2 ^ 32,
      2 ^ (32 - bits) - 2⟩
  else ⟨normalized, base, bits, 0, 0, 0⟩

theorem newPool_of_cidr {source : String} {value : BitVec 32} (bounded : bits ≤ 32)
    (parsed : parseCIDR source = some (Inet.cidr ⟨.v4 value, bits⟩))
    (canonical : equal (Inet.cidr ⟨.v4 value, bits⟩).ip
      (Inet.cidr ⟨.v4 value, bits⟩).network.ip = true) :
    newPool source = .ok (blockPool value.toNat bits) := by
  have converted : to4 (Inet.cidr ⟨.v4 value, bits⟩).ip = some (putUint32 value.toNat) :=
    to4_mapped (putUint32_length _)
  have network : to4 (Inet.cidr ⟨.v4 value, bits⟩).network.ip = some (putUint32 value.toNat) := by
    rw [network_of_v4, (canonical_value bounded canonical).1]
    exact to4_of_length (putUint32_length _)
  have width : (Inet.cidr ⟨.v4 value, bits⟩).network.bits = 32 := by
    rw [network_of_v4, IPNet.bits, cidrMask_length]
  have ones : (Inet.cidr ⟨.v4 value, bits⟩).ones = bits := rfl
  simp only [newPool, parsed, converted, network, width, ones, equal_refl, ne_eq, not_true,
    Bool.true_eq_false, or_self, if_false, bigEndian_putUint32 value.isLt, blockPool]
  split_ifs <;> rfl

theorem block_bound {base : Nat} (below : base < 2 ^ 32) (bounded : bits ≤ 32)
    (aligned : base / 2 ^ (32 - bits) * 2 ^ (32 - bits) = base) :
    base + 2 ^ (32 - bits) ≤ 2 ^ 32 := by
  have split : 2 ^ (32 : Nat) = 2 ^ bits * 2 ^ (32 - bits) := by
    rw [← pow_add, Nat.add_sub_cancel' bounded]
  have positive : 0 < 2 ^ (32 - bits) := Nat.two_pow_pos _
  have quotient : base / 2 ^ (32 - bits) < 2 ^ bits := by
    rw [Nat.div_lt_iff_lt_mul positive, ← split]
    exact below
  calc base + 2 ^ (32 - bits) = (base / 2 ^ (32 - bits) + 1) * 2 ^ (32 - bits) := by
        rw [Nat.add_mul, aligned, Nat.one_mul]
    _ ≤ 2 ^ bits * 2 ^ (32 - bits) := Nat.mul_le_mul_right _ quotient
    _ = 2 ^ 32 := split.symm

theorem block_hosts {base : Nat} (below : base < 2 ^ 32) (bounded : bits ≤ 32)
    (aligned : base / 2 ^ (32 - bits) * 2 ^ (32 - bits) = base) :
    Consecutive (blockPool base bits) ∧
      ∀ host, IsHost (blockPool base bits) host →
        base < host ∧ host + 1 < base + 2 ^ (32 - bits) := by
  have bound := block_bound below bounded aligned
  unfold blockPool IsHost
  dsimp only
  split_ifs with large
  · have first : (base + 1) % 2 ^ 32 = base + 1 := Nat.mod_eq_of_lt (by omega)
    have last : (base + (2 ^ (32 - bits) - 2)) % 2 ^ 32 = base + (2 ^ (32 - bits) - 2) :=
      Nat.mod_eq_of_lt (by omega)
    rw [first, last]
    refine ⟨⟨fun _ => ?_, ?_⟩, fun host isHost => ?_⟩ <;> dsimp only at * <;> omega
  · exact ⟨⟨fun nonempty => absurd rfl nonempty, Nat.two_pow_pos 32⟩,
      fun _ isHost => absurd rfl isHost.1⟩

theorem mem_block_iff {base host : Nat}
    (aligned : base / 2 ^ (32 - bits) * 2 ^ (32 - bits) = base) :
    host / 2 ^ (32 - bits) * 2 ^ (32 - bits) = base ↔
      base ≤ host ∧ host < base + 2 ^ (32 - bits) := by
  have positive : 0 < 2 ^ (32 - bits) := Nat.two_pow_pos _
  constructor
  · rintro rfl
    have split := Nat.div_add_mod' host (2 ^ (32 - bits))
    have rest := Nat.mod_lt host positive
    omega
  · rintro ⟨low, high⟩
    have quotient : host / 2 ^ (32 - bits) = base / 2 ^ (32 - bits) := by
      apply Nat.div_eq_of_lt_le
      · rwa [aligned]
      · rw [Nat.add_mul, aligned, Nat.one_mul]
        exact high
    rw [quotient, aligned]

theorem contains_block {value : BitVec 32} (bounded : bits ≤ 32)
    (canonical : equal (Inet.cidr ⟨.v4 value, bits⟩).ip
      (Inet.cidr ⟨.v4 value, bits⟩).network.ip = true) {bytes : IP} (sized : bytes.length = 4) :
    contains (Inet.cidr ⟨.v4 value, bits⟩).network bytes = true ↔
      value.toNat ≤ bigEndian bytes ∧ bigEndian bytes < value.toNat + 2 ^ (32 - bits) := by
  obtain ⟨masked, aligned⟩ := canonical_value bounded canonical
  have number : networkNumberAndMask (Inet.cidr ⟨.v4 value, bits⟩).network =
      (putUint32 value.toNat, cidrMask bits 32) := by
    rw [network_of_v4, masked]
    simp [networkNumberAndMask, to4_of_length (putUint32_length value.toNat), cidrMask_length,
      putUint32_length]
  have sameSize : bytes.length = (putUint32 value.toNat).length := sized
  simp only [contains, number, to4_of_length sized, Option.getD_some, masked, decide_eq_true_eq]
  rw [← mem_block_iff aligned, ← bigEndian_mask sized bounded]
  constructor
  · rintro ⟨-, same⟩
    rw [← same, bigEndian_putUint32 value.isLt]
  · intro same
    refine ⟨sameSize, bigEndian_injective (putUint32_length _) ?_ ?_⟩
    · simp [sized, cidrMask_length]
    · rw [same, bigEndian_putUint32 value.isLt]

theorem newPool_of_valid {source : String}
    (canonical : poolIsCanonical (parseCIDR source) = true)
    (mask32 : poolHasMask32 (parseCIDR source) = true) :
    ∃ pool, newPool source = .ok pool ∧ Consecutive pool ∧
      ∀ host, IsHost pool host →
        host < 2 ^ 32 ∧ validateIPv4InPool (putUint32 host) source = .ok () := by
  obtain ⟨value, bits, -, bounded, parsed⟩ := pool_stored canonical mask32
  have sameNetwork : equal (Inet.cidr ⟨.v4 value, bits⟩).ip
      (Inet.cidr ⟨.v4 value, bits⟩).network.ip = true := by
    rw [parsed] at canonical
    exact canonical
  obtain ⟨consecutive, hosts⟩ := block_hosts value.isLt bounded
    (canonical_value bounded sameNetwork).2
  refine ⟨blockPool value.toNat bits, newPool_of_cidr bounded parsed sameNetwork, consecutive,
    fun host isHost => ⟨Nat.lt_of_le_of_lt isHost.2.2 consecutive.bounded, ?_⟩⟩
  obtain ⟨above, below⟩ := hosts host isHost
  have small : host < 2 ^ 32 := Nat.lt_of_le_of_lt isHost.2.2 consecutive.bounded
  have inside := (contains_block bounded sameNetwork (putUint32_length host)).mpr (by
    rw [bigEndian_putUint32 small]
    omega)
  have isIPv4 : poolIsIPv4 (parseCIDR source) = true := by
    rw [parsed]
    exact congrArg Option.isSome (to4_mapped (putUint32_length value.toNat))
  have member :
      (parseCIDR source).any (fun cidr => contains cidr.network (putUint32 host)) = true := by
    rw [parsed]
    exact inside
  simp only [validateIPv4InPool, invalidWhen_bind_ok, invalidWhen_ok, isIPv4, canonical, mask32,
    to4_of_length (putUint32_length host), Option.getD_some, member]
  exact ⟨rfl, rfl, rfl, rfl⟩

end Ipv6Mesh.AddressAllocation
