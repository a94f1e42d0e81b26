import Ipv6Mesh.AddressAllocation

/-!
# Traversal of a pool

A pool has four views of its addresses: the loop of `ForEachCandidate`, the
bounds that `Usable` compares with, the mask of `Contains`, and the network that
`ValidateIPv4InPool` reads from the same text. They agree, and `Next` and
`RandomNext` are complete searches of the same hosts.
-/

namespace Ipv6Mesh.AddressTraversal

open GoText GoNet GoCidr ControlModel ControlValidation AddressPool AddressAllocation DbRows

structure Block (cidr : String) (value : BitVec 32) (bits : Nat) : Prop where
  bounded : bits ≤ 32
  parsed : parseCIDR cidr = some (Inet.cidr ⟨.v4 value, bits⟩)
  canonical : equal (Inet.cidr ⟨.v4 value, bits⟩).ip
    (Inet.cidr ⟨.v4 value, bits⟩).network.ip = true

variable {cidr : String}

theorem Block.aligned {value : BitVec 32} {bits : Nat} (block : Block cidr value bits) :
    value.toNat / 2 ^ (32 - bits) * 2 ^ (32 - bits) = value.toNat :=
  (canonical_value block.bounded block.canonical).2

variable {pool : Pool}

theorem newPool_eq_ok (built : newPool cidr = .ok pool) :
    ∃ value bits, Block cidr value bits ∧ pool = blockPool value.toNat bits := by
  have checked : poolIsCanonical (parseCIDR cidr) = true ∧
      poolHasMask32 (parseCIDR cidr) = true := by
    unfold newPool at built
    cases parsed : parseCIDR cidr with
    | none =>
      rw [parsed] at built
      cases built
    | some found =>
      simp only [parsed] at built
      cases address : to4 found.ip with
      | none =>
        rw [address] at built
        cases built
      | some ip4 =>
        cases network : to4 found.network.ip with
        | none =>
          rw [address, network] at built
          cases built
        | some networkIP =>
          simp only [address, network] at built
          by_cases refused : found.network.bits ≠ 32 ∨ equal ip4 networkIP = false
          · rw [if_pos refused] at built
            cases built
          · obtain ⟨width, same⟩ := not_or.mp refused
            have canonical : equal found.ip found.network.ip = true := by
              rw [equal_comm, ← equal_to4 address, equal_comm, ← equal_to4 network]
              exact Bool.eq_true_of_not_eq_false same
            exact ⟨canonical, decide_eq_true (not_ne_iff.mp width)⟩
  obtain ⟨value, bits, -, bounded, parsed⟩ := pool_stored checked.1 checked.2
  have canonical := checked.1
  rw [parsed] at canonical
  have block : Block cidr value bits := ⟨bounded, parsed, canonical⟩
  refine ⟨value, bits, block, ?_⟩
  rw [newPool_of_cidr bounded parsed canonical] at built
  exact (Except.ok.inj built).symm

def Host (pool : Pool) (host : Nat) : Prop :=
  pool.network < host ∧ host + 1 < pool.network + 2 ^ (32 - pool.prefixLength)

/-- What the fields of a pool say about each other. No sum that `NewPool` and the
two searches compute leaves its type. -/
structure InRange (pool : Pool) : Prop where
  prefixLength : pool.prefixLength ≤ 32
  aligned : 2 ^ (32 - pool.prefixLength) ∣ pool.network
  block : pool.network + 2 ^ (32 - pool.prefixLength) ≤ 2 ^ 32
  size : 2 ^ (32 - pool.prefixLength) < 2 ^ 64
  count : pool.usableCount = 2 ^ (32 - pool.prefixLength) - 2
  first : pool.usableCount ≠ 0 → pool.first = pool.network + 1 ∧ pool.network + 1 < 2 ^ 32
  last : pool.usableCount ≠ 0 → pool.last = pool.network + pool.usableCount ∧
    pool.network + pool.usableCount < 2 ^ 32
  counter : ∀ value, pool.first ≤ value → value < pool.last → value + 1 < 2 ^ 32
  offsets : ∀ start < pool.usableCount, ∀ offset < pool.usableCount,
    start + offset < 2 ^ 64 ∧ (start + offset) % pool.usableCount < 2 ^ 32 ∧
      pool.first + (start + offset) % pool.usableCount < 2 ^ 32

theorem inRange_of_block {value : BitVec 32} {bits : Nat} (block : Block cidr value bits) :
    InRange (blockPool value.toNat bits) := by
  have bound := block_bound value.isLt block.bounded block.aligned
  have positive : 0 < 2 ^ (32 - bits) := Nat.two_pow_pos _
  have small : 2 ^ (32 - bits) ≤ 2 ^ 32 := Nat.pow_le_pow_right (by decide) (Nat.sub_le _ _)
  have multiple : 2 ^ (32 - bits) ∣ value.toNat := ⟨_, by rw [Nat.mul_comm, block.aligned]⟩
  unfold blockPool
  dsimp only
  split_ifs with large
  · have first : (value.toNat + 1) % 2 ^ 32 = value.toNat + 1 := Nat.mod_eq_of_lt (by omega)
    have last : (value.toNat + (2 ^ (32 - bits) - 2)) % 2 ^ 32 =
        value.toNat + (2 ^ (32 - bits) - 2) := Nat.mod_eq_of_lt (by omega)
    rw [first, last]
    constructor <;> dsimp only
    case prefixLength => exact block.bounded
    case aligned => exact multiple
    case block => exact bound
    case size => omega
    case first => exact fun _ => ⟨rfl, by omega⟩
    case last => exact fun _ => ⟨rfl, by omega⟩
    case counter =>
      intro counter _ below
      omega
    case offsets =>
      intro start startBelow offset offsetBelow
      have inside := Nat.mod_lt (start + offset) (Nat.zero_lt_of_lt startBelow)
      omega
  · constructor <;> dsimp only
    case prefixLength => exact block.bounded
    case aligned => exact multiple
    case block => exact bound
    case size => omega
    case count => omega
    case first => exact fun nonempty => absurd rfl nonempty
    case last => exact fun nonempty => absurd rfl nonempty
    case counter => exact fun _ _ below => absurd below (Nat.not_lt_zero _)
    case offsets => exact fun _ below => absurd below (Nat.not_lt_zero _)

namespace InRange

variable {pool : Pool} (range : InRange pool)
include range

theorem consecutive (nonempty : pool.usableCount ≠ 0) : Consecutive pool := by
  obtain ⟨first, -⟩ := range.first nonempty
  obtain ⟨last, below⟩ := range.last nonempty
  exact ⟨fun _ => by omega, by omega⟩

theorem isHost_iff {host : Nat} : IsHost pool host ↔ Host pool host := by
  have count := range.count
  have positive : 0 < 2 ^ (32 - pool.prefixLength) := Nat.two_pow_pos _
  by_cases empty : pool.usableCount = 0
  · constructor
    · intro isHost
      exact absurd empty isHost.1
    · rintro ⟨low, high⟩
      omega
  · obtain ⟨first, -⟩ := range.first empty
    obtain ⟨last, -⟩ := range.last empty
    unfold IsHost Host
    omega

end InRange

def hostsOf (pool : Pool) : List Nat := List.range' pool.first pool.usableCount

theorem mem_hostsOf (range : InRange pool) {host : Nat} :
    host ∈ hostsOf pool ↔ Host pool host := by
  rw [← range.isHost_iff, hostsOf, List.mem_range'_1, IsHost]
  by_cases empty : pool.usableCount = 0
  · omega
  · have last := (range.consecutive empty).range empty
    omega

theorem hostsOf_lt (range : InRange pool) {host : Nat} (listed : host ∈ hostsOf pool) :
    host < 2 ^ 32 := by
  have inside := (mem_hostsOf range).mp listed
  have block := range.block
  unfold Host at inside
  omega

def walk {State Failure : Type} (visit : IP → State → Option Failure × State) :
    List Nat → State → Option Failure × State
  | [], state => (none, state)
  | host :: rest, state =>
    match visit (putUint32 host) state with
    | (some failure, state) => (some failure, state)
    | (none, state) => walk visit rest state

section Walk

variable {State Failure : Type} {pool : Pool} (visit : IP → State → Option Failure × State)

theorem visitFrom_eq_walk (bounded : pool.last < 2 ^ 32) {turns count value : Nat}
    (ends : value + count = pool.last) (enough : count < turns) (state : State) :
    pool.visitFrom visit turns value state =
      some (walk visit (List.range' value (count + 1)) state) := by
  induction turns generalizing count value state with
  | zero => omega
  | succ turns ih =>
    rw [Pool.visitFrom, List.range'_succ, walk]
    rcases visit (putUint32 value) state with ⟨failure | failure, next⟩
    · cases count with
      | zero => simp [show value = pool.last by omega, walk]
      | succ count =>
        have more : value ≠ pool.last := by omega
        have step : (value + 1) % 2 ^ 32 = value + 1 := Nat.mod_eq_of_lt (by omega)
        simp only [more, if_false, step]
        exact ih (by omega) (by omega) next
    · rfl

theorem forEachCandidate_eq_walk (range : InRange pool) (state : State) :
    pool.forEachCandidate visit state = some (walk visit (hostsOf pool) state) := by
  unfold Pool.forEachCandidate hostsOf
  by_cases empty : pool.usableCount = 0
  · rw [if_pos empty, empty]
    rfl
  · have consecutive := range.consecutive empty
    have sum := consecutive.range empty
    have bounded := consecutive.bounded
    obtain ⟨count, more⟩ := Nat.exists_eq_succ_of_ne_zero empty
    rw [if_neg empty, more]
    exact visitFrom_eq_walk visit bounded (by omega) (by omega) state

theorem walk_of_total (total : ∀ ip state, (visit ip state).1 = none) (hosts : List Nat)
    (state : State) :
    walk visit hosts state =
      (none, hosts.foldl (fun state host => (visit (putUint32 host) state).2) state) := by
  induction hosts generalizing state with
  | nil => rfl
  | cons host rest ih =>
    rw [walk, List.foldl_cons, ← ih]
    have passed := total (putUint32 host) state
    rcases visited : visit (putUint32 host) state with ⟨failure, next⟩
    rw [visited] at passed
    cases passed
    rfl

end Walk

def Pool.broadcast (pool : Pool) : Nat := pool.network + 2 ^ (32 - pool.prefixLength) - 1

theorem and_leadingOnes (value : BitVec 32) (shift : Nat) :
    (value &&& (BitVec.allOnes 32 <<< shift)).toNat = value.toNat / 2 ^ shift * 2 ^ shift := by
  have shifted : value &&& (BitVec.allOnes 32 <<< shift) = (value >>> shift) <<< shift := by
    apply BitVec.eq_of_getLsbD_eq
    intro index below
    simp only [BitVec.getLsbD_and, BitVec.getLsbD_shiftLeft, BitVec.getLsbD_allOnes,
      BitVec.getLsbD_ushiftRight]
    by_cases low : index < shift
    · simp [low]
    · have inside : index - shift < 32 := by omega
      simp [low, below, inside, Nat.add_sub_cancel' (Nat.not_lt.mp low)]
  have bounded : value.toNat / 2 ^ shift * 2 ^ shift < 2 ^ 32 :=
    Nat.lt_of_le_of_lt (Nat.div_mul_le_self _ _) value.isLt
  rw [shifted, BitVec.toNat_shiftLeft, BitVec.toNat_ushiftRight, Nat.shiftRight_eq_div_pow,
    Nat.shiftLeft_eq, Nat.mod_eq_of_lt bounded]

theorem contains_iff (range : InRange pool) (ip : IP) :
    pool.contains ip = true ↔ ∃ bytes, to4 ip = some bytes ∧ pool.network ≤ bigEndian bytes ∧
      bigEndian bytes < pool.network + 2 ^ (32 - pool.prefixLength) := by
  have networkBelow : pool.network < 2 ^ 32 := by
    have block := range.block
    have positive : 0 < 2 ^ (32 - pool.prefixLength) := Nat.two_pow_pos _
    omega
  have aligned : pool.network / 2 ^ (32 - pool.prefixLength) * 2 ^ (32 - pool.prefixLength) =
      pool.network := Nat.div_mul_cancel range.aligned
  unfold Pool.contains
  cases converted : to4 ip with
  | none => simp
  | some bytes =>
    have below : bigEndian bytes < 2 ^ 32 := by
      have bound := bigEndian_lt bytes
      rwa [to4_length converted] at bound
    have mask : (if 0 < pool.prefixLength then
        BitVec.allOnes 32 <<< (32 - pool.prefixLength) else 0) =
        BitVec.allOnes 32 <<< (32 - pool.prefixLength) := by
      split_ifs with positive
      · rfl
      · rw [Nat.eq_zero_of_not_pos positive]
        rfl
    simp only [mask, decide_eq_true_eq, Option.some.injEq, exists_eq_left']
    rw [← BitVec.toNat_inj, and_leadingOnes, and_leadingOnes, BitVec.toNat_ofNat,
      BitVec.toNat_ofNat, Nat.mod_eq_of_lt below, Nat.mod_eq_of_lt networkBelow, aligned]
    exact mem_block_iff aligned

theorem usable_iff (range : InRange pool) (ip : IP) :
    pool.usable ip = true ↔ ∃ host, Host pool host ∧ to4 ip = some (putUint32 host) := by
  unfold Pool.usable
  cases converted : to4 ip with
  | none => simp
  | some bytes =>
    have sized := to4_length converted
    have below : bigEndian bytes < 2 ^ 32 := by
      have bound := bigEndian_lt bytes
      rwa [sized] at bound
    have written : putUint32 (bigEndian bytes) = bytes :=
      bigEndian_injective (putUint32_length _) sized (bigEndian_putUint32 below)
    have isHost : (pool.usableCount ≠ 0 && pool.first ≤ bigEndian bytes &&
        bigEndian bytes ≤ pool.last) = true ↔ IsHost pool (bigEndian bytes) := by
      simp [IsHost, and_assoc]
    rw [isHost, range.isHost_iff]
    constructor
    · intro host
      exact ⟨bigEndian bytes, host, by rw [written]⟩
    · rintro ⟨host, inside, same⟩
      have small := hostsOf_lt range ((mem_hostsOf range).mpr inside)
      rw [Option.some.inj same, bigEndian_putUint32 small]
      exact inside

theorem validateIPv4InPool_iff {value : BitVec 32} {bits : Nat} (block : Block cidr value bits)
    (ip : IP) :
    validateIPv4InPool ip cidr = .ok () ↔ (blockPool value.toNat bits).contains ip = true := by
  have fields : (blockPool value.toNat bits).network = value.toNat ∧
      (blockPool value.toNat bits).prefixLength = bits := by
    unfold blockPool
    dsimp only
    split_ifs <;> exact ⟨rfl, rfl⟩
  have isIPv4 : poolIsIPv4 (parseCIDR cidr) = true := by
    rw [block.parsed]
    exact congrArg Option.isSome (to4_mapped (putUint32_length value.toNat))
  have canonical : poolIsCanonical (parseCIDR cidr) = true := by
    rw [block.parsed]
    exact block.canonical
  have mask32 : poolHasMask32 (parseCIDR cidr) = true := by
    rw [block.parsed]
    simp [poolHasMask32, network_of_v4, IPNet.bits, cidrMask_length]
  rw [contains_iff (inRange_of_block block), fields.1, fields.2]
  simp only [validateIPv4InPool, invalidWhen_bind_ok, invalidWhen_ok, isIPv4, canonical, mask32,
    Bool.and_self, Bool.not_true, true_and]
  cases converted : to4 ip with
  | none => simp
  | some bytes =>
    have member := contains_block block.bounded block.canonical (to4_length converted)
    simp only [Option.isNone_some, true_and, Option.getD_some, Option.some.injEq,
      exists_eq_left', ← member, block.parsed, Option.any_some, Bool.not_eq_false']

/-- What the pool visits, counts, uses and contains is one range of hosts. -/
structure ViewsAgree (cidr : String) (pool : Pool) (visited : List Nat) : Prop where
  visits : ∀ {State Failure : Type} (visit : IP → State → Option Failure × State),
    (∀ ip state, (visit ip state).1 = none) → ∀ state, pool.forEachCandidate visit state =
      some (none, visited.foldl (fun state host => (visit (putUint32 host) state).2) state)
  ascending : visited.Pairwise (· < ·)
  between : ∀ host, host ∈ visited ↔ pool.network < host ∧ host < Pool.broadcast pool
  none : 31 ≤ pool.prefixLength → visited = []
  size : pool.size = visited.length
  usable : ∀ ip, pool.usable ip = true ↔ ∃ host ∈ visited, to4 ip = some (putUint32 host)
  contains : ∀ ip, pool.contains ip = true ↔ ∃ bytes, to4 ip = some bytes ∧
    pool.network ≤ bigEndian bytes ∧ bigEndian bytes ≤ Pool.broadcast pool
  validated : ∀ ip, pool.contains ip = true ↔ validateIPv4InPool ip cidr = .ok ()

/-- The views of every pool that `NewPool` accepts agree. -/
theorem pool_views_agree (cidr : String) (pool : Pool) (built : newPool cidr = .ok pool) :
    pool.prefixLength ≤ 32 ∧ pool.network < 2 ^ 32 ∧ ∃ visited, ViewsAgree cidr pool visited := by
  obtain ⟨value, bits, block, rfl⟩ := newPool_eq_ok built
  have range := inRange_of_block block
  have positive : 0 < 2 ^ (32 - (blockPool value.toNat bits).prefixLength) := Nat.two_pow_pos _
  have bound := range.block
  refine ⟨range.prefixLength, by omega, hostsOf (blockPool value.toNat bits), ?_⟩
  constructor
  case visits =>
    intro State Failure visit total state
    rw [forEachCandidate_eq_walk visit range, walk_of_total visit total]
  case ascending => exact List.pairwise_lt_range'
  case between =>
    intro host
    rw [mem_hostsOf range, Host, Pool.broadcast]
    omega
  case none =>
    intro long
    have few : 2 ^ (32 - (blockPool value.toNat bits).prefixLength) ≤ 2 ^ 1 :=
      Nat.pow_le_pow_right (by decide) (by omega)
    have empty : (blockPool value.toNat bits).usableCount = 0 := by
      rw [range.count]
      omega
    rw [hostsOf, empty]
    rfl
  case size => exact List.length_range'.symm
  case usable =>
    intro ip
    rw [usable_iff range]
    simp only [mem_hostsOf range]
  case contains =>
    intro ip
    rw [contains_iff range]
    refine exists_congr fun bytes => and_congr_right fun _ => ?_
    rw [Pool.broadcast]
    omega
  case validated =>
    intro ip
    exact (validateIPv4InPool_iff block ip).symm

theorem slash30_views_agree :
    newPool "10.42.0.0/30" =
        .ok ⟨"10.42.0.0/30", 0x0A2A0000, 30, 0x0A2A0001, 0x0A2A0002, 2⟩ ∧
      ∃ visited, ViewsAgree "10.42.0.0/30"
        ⟨"10.42.0.0/30", 0x0A2A0000, 30, 0x0A2A0001, 0x0A2A0002, 2⟩ visited := by
  have built : newPool "10.42.0.0/30" =
      .ok ⟨"10.42.0.0/30", 0x0A2A0000, 30, 0x0A2A0001, 0x0A2A0002, 2⟩ := by decide +kernel
  exact ⟨built, (pool_views_agree _ _ built).2.2⟩

def Names (address : IP) (host : Nat) : Prop :=
  ∃ bytes, to4 address = some bytes ∧ bigEndian bytes = host

def Reads (value : String) (host : Nat) : Prop :=
  ∃ address, parseIP (trimSpace value) = some address ∧ Names address host

def Occupies : Occupied → Nat → Prop
  | .ip address, host => Names address host
  | .text value, host => Reads value host
  | .ips addresses, host => ∃ address ∈ addresses, Names address host
  | .texts values, host => ∃ value ∈ values, Reads value host
  | .keys values, host => ∃ value ∈ values, Reads value host
  | .flags entries, host => ∃ value, (value, true) ∈ entries ∧ Reads value host
  | .other, _ => False

section Used

variable {host : Nat}

theorem mem_addAddress (used : List Nat) (address : IP) :
    host ∈ addAddress used address ↔ host ∈ used ∨ Names address host := by
  unfold addAddress Names
  cases to4 address with
  | none => simp
  | some bytes =>
    simp only [List.mem_cons, Option.some.injEq, exists_eq_left']
    rw [or_comm, eq_comm]

theorem mem_addText (used : List Nat) (value : String) :
    host ∈ addText used value ↔ host ∈ used ∨ Reads value host := by
  unfold addText Reads
  cases parseIP (trimSpace value) with
  | none => simp
  | some address => simp [mem_addAddress]

theorem mem_foldl_add {Item : Type} {add : List Nat → Item → List Nat} {Holds : Item → Prop}
    (adds : ∀ used item, host ∈ add used item ↔ host ∈ used ∨ Holds item)
    (used : List Nat) (items : List Item) :
    host ∈ items.foldl add used ↔ host ∈ used ∨ ∃ item ∈ items, Holds item := by
  induction items generalizing used with
  | nil => simp
  | cons item rest ih => rw [List.foldl_cons, ih, adds, List.exists_mem_cons_iff, or_assoc]

theorem mem_addOccupied (used : List Nat) (item : Occupied) :
    host ∈ addOccupied used item ↔ host ∈ used ∨ Occupies item host := by
  cases item with
  | ip address => exact mem_addAddress used address
  | text value => exact mem_addText used value
  | ips addresses => exact mem_foldl_add mem_addAddress used addresses
  | texts values => exact mem_foldl_add mem_addText used values
  | keys values => exact mem_foldl_add mem_addText used values
  | flags entries =>
    have adds : ∀ (used : List Nat) (entry : String × Bool),
        host ∈ (if entry.2 then addText used entry.1 else used) ↔
          host ∈ used ∨ (entry.2 = true ∧ Reads entry.1 host) := by
      intro used entry
      cases entry.2 <;> simp [mem_addText]
    rw [addOccupied, mem_foldl_add adds]
    refine or_congr_right ⟨?_, ?_⟩
    · rintro ⟨⟨value, present⟩, listed, rfl, reads⟩
      exact ⟨value, listed, reads⟩
    · rintro ⟨value, listed, reads⟩
      exact ⟨(value, true), listed, rfl, reads⟩
  | other => simp [addOccupied, Occupies]

theorem mem_usedValues {occupied : List Occupied} :
    host ∈ usedValues occupied ↔ ∃ item ∈ occupied, Occupies item host := by
  rw [usedValues, mem_foldl_add mem_addOccupied]
  simp

end Used

def Free (pool : Pool) (occupied : List Occupied) (host : Nat) : Prop :=
  Host pool host ∧ ∀ item ∈ occupied, ¬Occupies item host

section Search

variable {pool : Pool} {occupied : List Occupied}

theorem free_iff (range : InRange pool) {host : Nat} :
    Free pool occupied host ↔ host ∈ hostsOf pool ∧ host ∉ usedValues occupied := by
  rw [Free, mem_hostsOf range, mem_usedValues]
  simp

def firstFree (pool : Pool) (used : List Nat) : Option Nat :=
  (hostsOf pool).find? fun host => host ∉ used

theorem firstFree_eq_some (range : InRange pool) (occupied : List Occupied) (host : Nat) :
    firstFree pool (usedValues occupied) = some host ↔
      Free pool occupied host ∧ ∀ other, Free pool occupied other → host ≤ other := by
  have ascending : (hostsOf pool).Pairwise (· < ·) := List.pairwise_lt_range'
  simp only [free_iff range]
  have least : ∀ {first}, firstFree pool (usedValues occupied) = some first →
      (first ∈ hostsOf pool ∧ first ∉ usedValues occupied) ∧
        ∀ other, other ∈ hostsOf pool ∧ other ∉ usedValues occupied → first ≤ other := by
    intro first found
    have free : first ∉ usedValues occupied := by simpa using List.find?_some found
    refine ⟨⟨List.mem_of_find?_eq_some found, free⟩, fun other ⟨listed, unused⟩ => ?_⟩
    obtain ⟨-, before, after, split, taken⟩ := List.find?_eq_some_iff_append.mp found
    rw [split] at listed ascending
    rcases List.mem_append.mp listed with early | late
    · have occupiedEarly := taken other early
      simp [unused] at occupiedEarly
    · rcases List.mem_cons.mp late with rfl | later
      · exact Nat.le_refl _
      · have tail := (List.pairwise_append.mp ascending).2.1
        exact Nat.le_of_lt ((List.pairwise_cons.mp tail).1 other later)
  refine ⟨least, fun ⟨free, lowest⟩ => ?_⟩
  cases found : firstFree pool (usedValues occupied) with
  | none =>
    have all := List.find?_eq_none.mp found host free.1
    simp [free.2] at all
  | some first =>
    obtain ⟨isFree, below⟩ := least found
    rw [Nat.le_antisymm (below host free) (lowest first isFree)]

theorem firstFree_eq_none (range : InRange pool) (occupied : List Occupied) :
    firstFree pool (usedValues occupied) = none ↔ ∀ host, ¬Free pool occupied host := by
  rw [firstFree, List.find?_eq_none]
  simp only [free_iff range]
  constructor
  · rintro taken host ⟨listed, unused⟩
    simpa [unused] using taken host listed
  · intro none host listed unused
    exact none host ⟨listed, by simpa using unused⟩

def answer (pool : Pool) : Option Nat → Except Error IP
  | some host => .ok (putUint32 host)
  | none => .error (.poolExhausted pool.cidr)

theorem walk_stopAtFree {used hosts : List Nat} (small : ∀ host ∈ hosts, host < 2 ^ 32) :
    (walk (stopAtFree used) hosts none).2 =
      (hosts.find? fun host => host ∉ used).map putUint32 := by
  induction hosts with
  | nil => rfl
  | cons host rest ih =>
    obtain ⟨bound, later⟩ := List.forall_mem_cons.mp small
    rw [walk, stopAtFree, bigEndian_putUint32 bound, List.find?_cons]
    by_cases taken : host ∈ used
    · simp [taken, ih later]
    · simp [taken]

theorem next_eq (range : InRange pool) (occupied : List Occupied) :
    pool.next occupied = some (answer pool (firstFree pool (usedValues occupied))) := by
  have walked : (walk (stopAtFree (usedValues occupied)) (hostsOf pool) none).2 =
      (firstFree pool (usedValues occupied)).map putUint32 :=
    walk_stopAtFree fun host => hostsOf_lt range
  rw [Pool.next, forEachCandidate_eq_walk _ range, Option.map_some]
  generalize walk (stopAtFree (usedValues occupied)) (hostsOf pool) none = outcome at walked ⊢
  obtain ⟨stopped, result⟩ := outcome
  cases walked
  cases firstFree pool (usedValues occupied) <;> rfl

theorem scanUint64_eq (range : InRange pool) {used : List Nat} {start : Nat}
    (inside : start < pool.usableCount) {remaining offset : Nat}
    (left : offset + remaining ≤ pool.usableCount) :
    pool.scanUint64 used start remaining offset = pool.scan used start remaining offset := by
  have countBelow : pool.usableCount < 2 ^ 32 := by
    have last := (range.last (Nat.ne_zero_of_lt inside)).2
    omega
  induction remaining generalizing offset with
  | zero => rfl
  | succ remaining ih =>
    obtain ⟨sum, narrow, -⟩ := range.offsets start inside offset (by omega)
    have next : (offset + 1) % 2 ^ 64 = offset + 1 := Nat.mod_eq_of_lt (by omega)
    rw [Pool.scanUint64, Pool.scan, Nat.mod_eq_of_lt sum, Nat.mod_eq_of_lt narrow, next,
      ih (by omega)]

theorem scan_zero (range : InRange pool) {used : List Nat} {remaining offset : Nat}
    (left : offset + remaining = pool.usableCount) :
    pool.scan used 0 remaining offset =
      (List.range' (pool.first + offset) remaining).find? fun host => host ∉ used := by
  induction remaining generalizing offset with
  | zero => rfl
  | succ remaining ih =>
    have below : offset < pool.usableCount := by omega
    obtain ⟨-, -, value⟩ := range.offsets 0 (Nat.zero_lt_of_lt below) offset below
    have exact_ : (pool.first + (0 + offset) % pool.usableCount) % 2 ^ 32 =
        pool.first + offset := by
      rw [Nat.mod_eq_of_lt value, Nat.zero_add, Nat.mod_eq_of_lt below]
    rw [Pool.scan, exact_, ih (by omega), List.range'_succ, List.find?_cons]
    by_cases taken : pool.first + offset ∈ used
    · simp [taken, Nat.add_assoc]
    · simp [taken]

theorem randomNextAmong_eq (range : InRange pool) (nonempty : pool.usableCount ≠ 0)
    (start : Nat) :
    pool.randomNextAmong (.ok start) occupied =
      answer pool (pool.scan (usedValues occupied) (start % pool.usableCount)
        pool.usableCount 0) := by
  have inside : start % pool.usableCount < pool.usableCount :=
    Nat.mod_lt _ (Nat.pos_of_ne_zero nonempty)
  rw [Pool.randomNextAmong, if_neg nonempty]
  simp only [bind, Except.bind]
  rw [scanUint64_eq range inside (by omega)]
  cases pool.scan (usedValues occupied) (start % pool.usableCount) pool.usableCount 0 <;> rfl

theorem randomNextAmong_cases (range : InRange pool) (occupied : List Occupied) (start : Nat) :
    (∃ host, pool.randomNextAmong (.ok start) occupied = .ok (putUint32 host) ∧
        Free pool occupied host) ∨
      (pool.randomNextAmong (.ok start) occupied = .error (.poolExhausted pool.cidr) ∧
        ∀ host, ¬Free pool occupied host) := by
  by_cases empty : pool.usableCount = 0
  · refine Or.inr ⟨by rw [Pool.randomNextAmong, if_pos empty], fun host free => ?_⟩
    exact (range.isHost_iff.mpr free.1).1 empty
  · have consecutive := range.consecutive empty
    have inside : start % pool.usableCount < pool.usableCount :=
      Nat.mod_lt _ (Nat.pos_of_ne_zero empty)
    rw [randomNextAmong_eq range empty]
    cases scanned : pool.scan (usedValues occupied) (start % pool.usableCount)
        pool.usableCount 0 with
    | some host =>
      obtain ⟨unused, position, rfl⟩ := scan_eq_some scanned
      refine Or.inl ⟨_, rfl, (free_iff range).mpr ⟨(mem_hostsOf range).mpr ?_, unused⟩⟩
      exact range.isHost_iff.mp ⟨empty, hostAt_range consecutive empty _ _⟩
    | none =>
      refine Or.inr ⟨rfl, fun host free => ?_⟩
      obtain ⟨listed, unused⟩ := (free_iff range).mp free
      obtain ⟨-, low, high⟩ := range.isHost_iff.mpr ((mem_hostsOf range).mp listed)
      obtain ⟨position, below, rfl⟩ := exists_position consecutive inside low high
      exact unused (scan_eq_none scanned position (Nat.zero_le _) (by omega))

theorem next_eq_ok (range : InRange pool) (occupied : List Occupied) (ip : IP) :
    pool.next occupied = some (.ok ip) ↔ ∃ host, ip = putUint32 host ∧
      Free pool occupied host ∧ ∀ other, Free pool occupied other → host ≤ other := by
  simp only [next_eq range, ← firstFree_eq_some range]
  cases firstFree pool (usedValues occupied) with
  | none => simp [answer]
  | some host => simp [answer, eq_comm]

theorem next_eq_error (range : InRange pool) (occupied : List Occupied) (err : Error) :
    pool.next occupied = some (.error err) ↔
      err = .poolExhausted pool.cidr ∧ ∀ host, ¬Free pool occupied host := by
  rw [next_eq range, ← firstFree_eq_none range]
  cases firstFree pool (usedValues occupied) with
  | none => simp [answer, eq_comm]
  | some host => simp [answer]

theorem next_eq_randomNextAmong_zero (range : InRange pool) (occupied : List Occupied) :
    pool.next occupied = some (pool.randomNextAmong (.ok 0) occupied) := by
  rw [next_eq range, firstFree, hostsOf]
  by_cases empty : pool.usableCount = 0
  · rw [Pool.randomNextAmong, if_pos empty, empty]
    rfl
  · rw [randomNextAmong_eq range empty, Nat.zero_mod, scan_zero range (Nat.zero_add _)]
    rfl

end Search

/-- Both allocators end with a free host, the sequential one with the least, and fail
together. -/
structure Allocates (pool : Pool) (occupied : List Occupied) (start : Nat) : Prop where
  ends : pool.next occupied ≠ none
  least : ∀ ip, pool.next occupied = some (.ok ip) ↔ ∃ host, ip = putUint32 host ∧
    Free pool occupied host ∧ ∀ other, Free pool occupied other → host ≤ other
  free : ∀ ip, pool.randomNextAmong (.ok start) occupied = .ok ip →
    ∃ host, ip = putUint32 host ∧ Free pool occupied host
  nextFails : ∀ err, pool.next occupied = some (.error err) ↔
    err = .poolExhausted pool.cidr ∧ ∀ host, ¬Free pool occupied host
  randomFails : ∀ err, pool.randomNextAmong (.ok start) occupied = .error err ↔
    err = .poolExhausted pool.cidr ∧ ∀ host, ¬Free pool occupied host
  together : (∃ ip, pool.next occupied = some (.ok ip)) ↔
    ∃ ip, pool.randomNextAmong (.ok start) occupied = .ok ip
  fromZero : pool.next occupied = some (pool.randomNextAmong (.ok 0) occupied)

theorem allocates_of_inRange (range : InRange pool) (occupied : List Occupied) (start : Nat) :
    Allocates pool occupied start := by
  have zero := next_eq_randomNextAmong_zero range occupied
  have fromZero := randomNextAmong_cases range occupied 0
  have fromStart := randomNextAmong_cases range occupied start
  constructor
  case ends =>
    rw [zero]
    exact Option.some_ne_none _
  case least => exact next_eq_ok range occupied
  case free =>
    intro ip found
    rcases fromStart with ⟨host, drawn, free⟩ | ⟨failed, -⟩
    · rw [drawn] at found
      exact ⟨host, (Except.ok.inj found).symm, free⟩
    · rw [failed] at found
      cases found
  case nextFails => exact next_eq_error range occupied
  case randomFails =>
    intro err
    rcases fromStart with ⟨host, drawn, free⟩ | ⟨failed, none⟩
    · rw [drawn]
      exact iff_of_false (fun equal => by cases equal) fun full => full.2 host free
    · rw [failed]
      exact ⟨fun same => ⟨(Except.error.inj same).symm, none⟩, fun full => by rw [full.1]⟩
  case together =>
    rw [zero]
    rcases fromZero with ⟨host, drawn, free⟩ | ⟨failed, none⟩
    · rcases fromStart with ⟨other, otherDrawn, -⟩ | ⟨-, full⟩
      · rw [drawn, otherDrawn]
        exact iff_of_true ⟨_, rfl⟩ ⟨_, rfl⟩
      · exact absurd free (full host)
    · rcases fromStart with ⟨other, -, free⟩ | ⟨otherFailed, -⟩
      · exact absurd free (none other)
      · rw [failed, otherFailed]
        exact iff_of_false (fun ⟨_, equal⟩ => by cases equal) fun ⟨_, equal⟩ => by cases equal
  case fromZero => exact zero

/-- Both searches of every pool that `NewPool` accepts are correct and complete,
and none of their sums leaves its type. -/
theorem allocation_complete (cidr : String) (pool : Pool) (built : newPool cidr = .ok pool)
    (occupied : List Occupied) (start : Nat) :
    InRange pool ∧ Allocates pool occupied start := by
  obtain ⟨value, bits, block, rfl⟩ := newPool_eq_ok built
  have range := inRange_of_block block
  exact ⟨range, allocates_of_inRange range occupied start⟩

theorem slash0_allocation_complete :
    newPool "0.0.0.0/0" = .ok ⟨"0.0.0.0/0", 0, 0, 1, 2 ^ 32 - 2, 2 ^ 32 - 2⟩ ∧
      Allocates ⟨"0.0.0.0/0", 0, 0, 1, 2 ^ 32 - 2, 2 ^ 32 - 2⟩
        [.texts [" 0.0.0.1 ", "::ffff:0.0.0.2"]] 7 := by
  have built : newPool "0.0.0.0/0" = .ok ⟨"0.0.0.0/0", 0, 0, 1, 2 ^ 32 - 2, 2 ^ 32 - 2⟩ := by
    decide +kernel
  exact ⟨built, (allocation_complete _ _ built _ 7).2⟩

end Ipv6Mesh.AddressTraversal
