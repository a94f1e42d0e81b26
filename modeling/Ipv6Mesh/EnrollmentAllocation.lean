import Ipv6Mesh.AddressAllocation
import Ipv6Mesh.ControlEnrollment
import Ipv6Mesh.DbNetworks

/-!
# The allocation loop of an enrollment

Each turn of the loop either stores the membership or learns one more address
that another member holds. The addresses learned are distinct hosts of the pool,
so the loop stores the membership whenever some host is free.
-/

namespace Ipv6Mesh.EnrollmentAllocation

open GoNet ControlModel ControlValidation DbMemory DbOperations AddressPool AddressAllocation
  ControlEnrollment

variable {contexts : Nat → Context} {draws : Nat → Except Error Nat} {pool : Pool}
  {membership : Membership} {repository after : MemoryRepository}

def atHost (membership : Membership) (host : Nat) : Membership :=
  { membership with virtualIPv4 := putUint32 host }

theorem allocate_eq_ok (consecutive : Consecutive pool) {remaining attempt : Nat}
    {occupied : List IP} {chosen : Membership}
    (allocated : allocate contexts draws pool membership remaining attempt occupied repository =
      (.ok chosen, after)) :
    ∃ host turn, chosen = atHost membership host ∧ IsHost pool host ∧
      addMembership (contexts turn) chosen repository = (.ok (), after) := by
  induction remaining generalizing attempt occupied with
  | zero => cases (Prod.ext_iff.mp allocated).1
  | succ remaining ih =>
    simp only [allocate] at allocated
    cases drawn : pool.randomNext (draws attempt) occupied with
    | error other =>
      rw [drawn] at allocated
      cases (Prod.ext_iff.mp allocated).1
    | ok candidate =>
      simp only [drawn] at allocated
      rcases added : addMembership (contexts attempt)
        { membership with virtualIPv4 := candidate } repository with ⟨other | _, middle⟩
      · obtain rfl : middle = repository := guarded_error added
        simp only [added] at allocated
        split_ifs at allocated
        · exact ih allocated
        · cases (Prod.ext_iff.mp allocated).1
      · rw [added] at allocated
        cases allocated
        obtain ⟨host, rfl, isHost, -⟩ := randomNext_eq_ok consecutive drawn
        exact ⟨host, attempt, rfl, isHost, added⟩

def Held (repository : MemoryRepository) (networkID : String) (host : Nat) : Prop :=
  ∃ nodeID existing, repository.membership? networkID nodeID = some existing ∧
    equal existing.virtualIPv4 (putUint32 host) = true

structure Ready (pool : Pool) (membership : Membership) (repository : MemoryRepository) :
    Prop where
  consecutive : Consecutive pool
  valid : ∀ host, validateMembership (atHost membership host) = .ok ()
  network : ∃ network, repository.networks[membership.networkID]? = some network ∧
    ∀ host, IsHost pool host → validateIPv4InPool (putUint32 host) network.ipv4Pool = .ok ()
  node : ∃ node, repository.nodes[membership.nodeID]? = some node
  absent : repository.membership? membership.networkID membership.nodeID = none

theorem addMembership_of_free (ready : Ready pool membership repository) {host : Nat}
    (isHost : IsHost pool host) (free : ¬Held repository membership.networkID host) :
    ∃ after, addMembership .live (atHost membership host) repository = (.ok (), after) := by
  obtain ⟨network, stored, inPool⟩ := ready.network
  refine ⟨_, addMembership_eq_ok.mpr ⟨rfl, ready.valid host, ⟨network, stored, ready.node,
    inPool host isHost, ready.absent, fun nodeID existing lookup => ?_⟩, rfl⟩⟩
  exact Bool.eq_false_iff.mpr fun same => free ⟨nodeID, existing, lookup, same⟩

theorem addMembership_of_held (ready : Ready pool membership repository) {host : Nat}
    (isHost : IsHost pool host) (held : Held repository membership.networkID host) :
    addMembership .live (atHost membership host) repository =
      (.error (.sentinel .conflict), repository) := by
  obtain ⟨network, stored, inPool⟩ := ready.network
  obtain ⟨node, present⟩ := ready.node
  have taken : ((repository.memberships.getD membership.networkID ∅).toList.any fun entry =>
      equal entry.2.virtualIPv4 (putUint32 host)) = true := by
    rw [← Bool.not_eq_false, address_free_iff]
    intro free
    obtain ⟨nodeID, existing, lookup, same⟩ := held
    rw [free nodeID existing lookup] at same
    cases same
  have valid := ready.valid host
  have absent := ready.absent
  simp only [atHost] at valid ⊢
  simp only [addMembership, guarded, contextError, valid, stored, present, found,
    inPool host isHost, absent, taken, refuseWhen, Option.isSome_none, bind, Except.bind, if_true]
  rfl

theorem occupiedValues_hosts {hosts : List Nat} (bounded : ∀ host ∈ hosts, host < 2 ^ 32) :
    occupiedValues (hosts.map putUint32) = hosts := by
  induction hosts with
  | nil => rfl
  | cons host hosts ih =>
    have rest := ih fun other member => bounded other (List.mem_cons_of_mem _ member)
    have head := bigEndian_putUint32 (bounded host List.mem_cons_self)
    simp only [occupiedValues, List.map_cons, List.filterMap_cons,
      to4_of_length (putUint32_length host), Option.map_some, head] at rest ⊢
    rw [rest]

theorem length_lt_of_free (consecutive : Consecutive pool) {hosts : List Nat}
    (distinct : hosts.Nodup) (areHosts : ∀ host ∈ hosts, IsHost pool host) {free : Nat}
    (isHost : IsHost pool free) (unlisted : free ∉ hosts) : hosts.length < pool.usableCount := by
  have range := consecutive.range isHost.1
  have inside : (free :: hosts).toFinset ⊆ Finset.Icc pool.first pool.last := by
    intro host member
    rw [List.mem_toFinset, List.mem_cons] at member
    rw [Finset.mem_Icc]
    rcases member with rfl | member
    · exact isHost.2
    · exact (areHosts host member).2
  have count := Finset.card_le_card inside
  rw [List.toFinset_card_of_nodup (List.nodup_cons.mpr ⟨unlisted, distinct⟩), Nat.card_Icc,
    List.length_cons] at count
  omega

theorem allocate_succeeds (ready : Ready pool membership repository)
    (live : ∀ attempt, contexts attempt = .live)
    (drawn : ∀ attempt, ∃ start, draws attempt = .ok start) {free : Nat}
    (isHost : IsHost pool free) (unheld : ¬Held repository membership.networkID free)
    {remaining : Nat} (attempt : Nat) {hosts : List Nat} (distinct : hosts.Nodup)
    (learned : ∀ host ∈ hosts, IsHost pool host ∧ Held repository membership.networkID host)
    (left : remaining + hosts.length = pool.usableCount) :
    ∃ chosen after, allocate contexts draws pool membership remaining attempt
      (hosts.map putUint32) repository = (.ok chosen, after) := by
  have unlisted : ∀ {known : List Nat},
      (∀ host ∈ known, IsHost pool host ∧ Held repository membership.networkID host) →
        free ∉ known := fun known member => unheld (known free member).2
  induction remaining generalizing attempt hosts with
  | zero =>
    have short := length_lt_of_free ready.consecutive distinct
      (fun host member => (learned host member).1) isHost (unlisted learned)
    omega
  | succ remaining ih =>
    obtain ⟨start, answered⟩ := drawn attempt
    have bounded : ∀ host ∈ hosts, host < 2 ^ 32 := fun host member =>
      Nat.lt_of_le_of_lt (learned host member).1.2.2 ready.consecutive.bounded
    simp only [allocate, answered]
    cases next : pool.randomNext (.ok start) (hosts.map putUint32) with
    | error err =>
      have full := randomNext_error ready.consecutive next free isHost
      rw [occupiedValues_hosts bounded] at full
      exact absurd full (unlisted learned)
    | ok candidate =>
      obtain ⟨host, rfl, candidateHost, fresh⟩ := randomNext_eq_ok ready.consecutive next
      rw [occupiedValues_hosts bounded] at fresh
      have request : { membership with virtualIPv4 := putUint32 host } =
          atHost membership host := rfl
      simp only [live attempt, request]
      by_cases held : Held repository membership.networkID host
      · rw [addMembership_of_held ready candidateHost held]
        have longer : hosts.map putUint32 ++ [putUint32 host] =
            (hosts ++ [host]).map putUint32 := by simp
        simp only [Error.is, decide_true, if_true, longer]
        apply ih
        · rw [List.nodup_append_comm]
          exact List.nodup_cons.mpr ⟨fresh, distinct⟩
        · intro other member
          rcases List.mem_append.mp member with known | last
          · exact learned other known
          · rw [List.mem_singleton.mp last]
            exact ⟨candidateHost, held⟩
        · rw [List.length_append, List.length_singleton]
          omega
      · obtain ⟨after, added⟩ := addMembership_of_free ready candidateHost held
        rw [added]
        exact ⟨_, _, rfl⟩

end Ipv6Mesh.EnrollmentAllocation
