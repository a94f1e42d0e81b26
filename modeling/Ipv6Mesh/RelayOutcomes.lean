import Ipv6Mesh.GoFlow
import Ipv6Mesh.GoMap
import Ipv6Mesh.RelayRoutes

/-!
# What a call on the relay's routes does

A record stands for a set of kernel entries. `Apply` either fails in its first
phase without a trace or deletes a leading part of its stale entries; `Clear`
deletes every recorded entry that is not refused.
-/

namespace Ipv6Mesh.RelayOutcomes

open GoFlow GoNet RelayRoutes StrictStore
open Std (ExtTreeMap)

def recorded (manager : RouteManager) : Kernel :=
  resources (routeEntry manager.iface) (manager.owned.toList.map Prod.snd) ∪
    if manager.address.isValid then {addressEntry manager.iface manager.address} else ∅

def additions (manager : RouteManager) (interfaceName : String) (local_ : Addr)
    (desired : ExtTreeMap String NetPrefix) : List Entry :=
  (if manager.unmoved interfaceName local_ then [] else [addressEntry interfaceName local_]) ++
    (freshRoutes manager interfaceName local_ desired).map (routeEntry interfaceName)

def staleEntries (invocation : Invocation) (manager : RouteManager) (interfaceName : String)
    (local_ : Addr) (desired : ExtTreeMap String NetPrefix) : List Entry :=
  (staleRoutes invocation manager interfaceName local_ desired).map (routeEntry manager.iface) ++
    if manager.address.isValid && !manager.unmoved interfaceName local_ then
      [addressEntry manager.iface manager.address]
    else []

def Addable (invocation : Invocation) (entries : List Entry) (kernel : Kernel) : Prop :=
  ∀ entry ∈ entries, invocation.refusal (.add entry) = none ∧ entry ∉ kernel

def ClearAccepts (invocation : Invocation) (interfaceName : String) (manager : RouteManager) :
    Prop :=
  contextError invocation.ctx = .ok () ∧
    (manager.iface = "" ∨ interfaceName = "" ∨ interfaceName = manager.iface)

def HostRoute (network : NetPrefix) : Prop := ∃ host, network = ⟨.v4 host, some 32⟩

variable {network : NetPrefix}

theorem HostRoute.masked (hostRoute : HostRoute network) :
    network.masked = network := by
  obtain ⟨host, rfl⟩ := hostRoute
  simp [NetPrefix.masked]

theorem HostRoute.routeKey (hostRoute : HostRoute network) :
    routeKey network = network.toText := by
  rw [RelayRoutes.routeKey, hostRoute.masked]

theorem toText_host (host : BitVec 32) :
    NetPrefix.toText ⟨.v4 host, some 32⟩ = String.ofList (Addr.v4 host).toText ++ "/32" := by
  have bits : (Nat.repr 32).toList = ['3', '2'] := by decide
  apply String.toList_injective
  simp [NetPrefix.toText, bits]

theorem refuseConfig_ok {refused : Bool} {error : RouteError} :
    refuseConfig refused error = .ok () ↔ refused = false := by
  cases refused <;> simp [refuseConfig]

variable {peers : List NetPrefix}

theorem validatePeers_ok {local_ : Addr} {seen : ExtTreeMap String Unit}
    (valid : validatePeers local_ peers seen = .ok ()) :
    ∀ peer ∈ peers, HostRoute peer ∧ peer.addr ≠ local_ := by
  induction peers generalizing seen with
  | nil => simp
  | cons peer rest ih =>
    simp only [validatePeers, check_eq_ok, refuseConfig_ok] at valid
    obtain ⟨checked, -, later⟩ := valid
    intro other member
    rcases List.mem_cons.mp member with rfl | inside
    · obtain ⟨addr, bits⟩ := other
      simp only [Bool.or_eq_false_iff, decide_eq_false_iff_not, ne_eq, Decidable.not_not,
        Bool.not_eq_false'] at checked
      obtain ⟨⟨⟨⟨-, isV4⟩, rfl⟩, -⟩, notLocal⟩ := checked
      refine ⟨?_, notLocal⟩
      cases addr with
      | v4 host => exact ⟨host, rfl⟩
      | invalid => cases isV4
      | v6 value zone => cases isV4
    · exact ih later other inside

theorem validInterfaceName_ne_empty {name : String} (valid : validInterfaceName name = true) :
    name ≠ "" := by
  rintro rfl
  simp [validInterfaceName] at valid

theorem validateRelayRoutes_ok {interfaceName : String} {local_ : Addr}
    (valid : validateRelayRoutes interfaceName local_ peers = .ok ()) :
    interfaceName ≠ "" ∧ (∃ host, local_ = .v4 host) ∧
      ∀ peer ∈ peers, HostRoute peer ∧ peer.addr ≠ local_ := by
  simp only [validateRelayRoutes, check_eq_ok, refuseConfig_ok, Bool.or_eq_false_iff,
    Bool.not_eq_false'] at valid
  obtain ⟨⟨⟨⟨named, -⟩, isV4⟩, -⟩, checked⟩ := valid
  refine ⟨validInterfaceName_ne_empty named, ?_, validatePeers_ok checked⟩
  cases local_ with
  | v4 host => exact ⟨host, rfl⟩
  | invalid => cases isV4
  | v6 value zone => cases isV4

def Keyed (map : ExtTreeMap String NetPrefix) : Prop :=
  ∀ (key : String) (network : NetPrefix), map[key]? = some network →
    HostRoute network ∧ key = network.toText

theorem Keyed.empty : Keyed ∅ := by
  intro key network stored
  simp at stored

theorem desiredRoutes_mem (hosts : ∀ peer ∈ peers, HostRoute peer) {key : String}
    (stored : (desiredRoutes peers)[key]? = some network) :
    network ∈ peers ∧ key = network.toText := by
  have grown : ∀ (rest : List NetPrefix) (map : ExtTreeMap String NetPrefix),
      (∀ peer ∈ rest, HostRoute peer) →
      (rest.foldl (fun desired peer => desired.insert (routeKey peer) peer.masked) map)[key]? =
        some network →
      (network ∈ rest ∧ key = network.toText) ∨ map[key]? = some network := by
    intro rest
    induction rest with
    | nil => exact fun map _ found => Or.inr found
    | cons peer rest ih =>
      intro map hosts found
      have here := hosts peer List.mem_cons_self
      rcases ih _ (fun other member => hosts other (List.mem_cons_of_mem _ member)) found with
        ⟨member, named⟩ | earlier
      · exact Or.inl ⟨List.mem_cons_of_mem _ member, named⟩
      · rw [GoMap.getElem?_insert, here.routeKey, here.masked] at earlier
        split_ifs at earlier with sameKey
        · cases earlier
          exact Or.inl ⟨List.mem_cons_self, sameKey.symm⟩
        · exact Or.inr earlier
  rcases grown peers ∅ hosts stored with found | earlier
  · exact found
  · simp at earlier

theorem desiredRoutes_keyed (hosts : ∀ peer ∈ peers, HostRoute peer) :
    Keyed (desiredRoutes peers) := by
  intro key network stored
  obtain ⟨member, named⟩ := desiredRoutes_mem hosts stored
  exact ⟨hosts network member, named⟩

section Entries

variable {map : ExtTreeMap String NetPrefix} {entries : List (String × NetPrefix)}

theorem map_routeEntry (keyed : Keyed map) (permuted : entries.Perm map.toList)
    (keep : String → Bool) (device : String) :
    ((entries.filter fun entry => keep entry.1).map Prod.snd).map (routeEntry device) =
      ((entries.map Prod.fst).filter keep).map fun key => ⟨.route, key, device⟩ := by
  rw [List.filter_map, List.map_map, List.map_map]
  refine List.map_congr_left fun entry member => ?_
  have inside := permuted.mem_iff.mp (List.mem_of_mem_filter member)
  have stored := ExtTreeMap.mem_toList_iff_getElem?_eq_some.mp inside
  have named := (keyed entry.1 entry.2 stored).2
  simp [routeEntry, named]

theorem mem_selected (keyed : Keyed map) (permuted : entries.Perm map.toList)
    (keep : String → Bool) (device : String) (entry : Entry) :
    entry ∈ ((entries.filter fun entry => keep entry.1).map Prod.snd).map (routeEntry device) ↔
      ∃ key : String, map[key]?.isSome = true ∧ keep key = true ∧
        entry = ⟨.route, key, device⟩ := by
  rw [map_routeEntry keyed permuted]
  simp only [List.mem_map, List.mem_filter, Prod.exists, exists_and_right, exists_eq_right]
  constructor
  · rintro ⟨key, ⟨⟨network, member⟩, kept⟩, rfl⟩
    have stored := ExtTreeMap.mem_toList_iff_getElem?_eq_some.mp (permuted.mem_iff.mp member)
    exact ⟨key, by rw [stored]; rfl, kept, rfl⟩
  · rintro ⟨key, present, kept, rfl⟩
    obtain ⟨network, stored⟩ := Option.isSome_iff_exists.mp present
    refine ⟨key, ⟨⟨network, ?_⟩, kept⟩, rfl⟩
    exact permuted.mem_iff.mpr (ExtTreeMap.mem_toList_iff_getElem?_eq_some.mpr stored)

theorem nodup_selected (keyed : Keyed map) (permuted : entries.Perm map.toList)
    (keep : String → Bool) (device : String) :
    (((entries.filter fun entry => keep entry.1).map Prod.snd).map (routeEntry device)).Nodup := by
  rw [map_routeEntry keyed permuted]
  have keys : (entries.map Prod.fst).Nodup := by
    rw [(permuted.map Prod.fst).nodup_iff, ExtTreeMap.map_fst_toList_eq_keys]
    exact ExtTreeMap.nodup_keys
  refine (keys.filter _).map fun left right same => ?_
  exact congrArg Entry.target same

theorem nodup_selected_append (keyed : Keyed map) (permuted : entries.Perm map.toList)
    (keep : String → Bool) (device : String) (condition : Bool) (address : Addr) :
    (((entries.filter fun entry => keep entry.1).map Prod.snd).map (routeEntry device) ++
      if condition then [addressEntry device address] else []).Nodup := by
  refine (nodup_selected keyed permuted keep device).append ?_ ?_
  · split_ifs <;> simp
  · intro entry route last
    obtain ⟨key, -, -, rfl⟩ := (mem_selected keyed permuted keep device entry).mp route
    split_ifs at last
    · exact absurd (congrArg Entry.kind (List.mem_singleton.mp last)) (by simp [addressEntry])
    · simp at last

end Entries

structure WellFormed (manager : RouteManager) : Prop where
  keyed : Keyed manager.owned
  shape : (manager.owned = ∅ ∧ manager.address = .invalid ∧ manager.iface = "") ∨
    ((∃ host, manager.address = .v4 host) ∧ manager.iface ≠ "")

theorem wellFormed_new : WellFormed newRouteManager :=
  ⟨Keyed.empty, Or.inl ⟨rfl, rfl, rfl⟩⟩

theorem mem_recorded {manager : RouteManager} (keyed : Keyed manager.owned) (entry : Entry) :
    entry ∈ recorded manager ↔
      (∃ key : String, manager.owned[key]?.isSome = true ∧
        entry = ⟨.route, key, manager.iface⟩) ∨
      (manager.address.isValid = true ∧ entry = addressEntry manager.iface manager.address) := by
  have routes := mem_selected keyed (List.Perm.refl _) (fun _ => true) manager.iface entry
  simp only [List.filter_true, true_and] at routes
  rw [recorded, Finset.mem_union, resources, List.mem_toFinset, routes]
  by_cases valid : manager.address.isValid = true <;> simp [valid]

section Phases

variable {invocation : Invocation} {manager : RouteManager} {interfaceName : String}
  {local_ : Addr} {desired : ExtTreeMap String NetPrefix} {kernel : Kernel}

theorem mem_fresh (keyed : Keyed desired) (entry : Entry) :
    entry ∈ (freshRoutes manager interfaceName local_ desired).map (routeEntry interfaceName) ↔
      ∃ key : String, desired[key]?.isSome = true ∧
        ¬(manager.owned[key]?.isSome = true ∧ manager.unmoved interfaceName local_ = true) ∧
        entry = ⟨.route, key, interfaceName⟩ := by
  have selected := mem_selected keyed (List.Perm.refl _) (fun key =>
    !(manager.owned[key]?.isSome && manager.unmoved interfaceName local_)) interfaceName entry
  simp only [Bool.not_eq_true', ← Bool.not_eq_true, Bool.and_eq_true] at selected
  exact selected

theorem mem_additions (keyed : Keyed desired) (entry : Entry) :
    entry ∈ additions manager interfaceName local_ desired ↔
      (manager.unmoved interfaceName local_ = false ∧
        entry = addressEntry interfaceName local_) ∨
      ∃ key : String, desired[key]?.isSome = true ∧
        ¬(manager.owned[key]?.isSome = true ∧ manager.unmoved interfaceName local_ = true) ∧
        entry = ⟨.route, key, interfaceName⟩ := by
  rw [additions, List.mem_append, mem_fresh keyed]
  cases manager.unmoved interfaceName local_ <;> simp

theorem mem_staleEntries (keyed : Keyed manager.owned) (entry : Entry) :
    entry ∈ staleEntries invocation manager interfaceName local_ desired ↔
      (∃ key : String, manager.owned[key]?.isSome = true ∧
        ¬(desired[key]?.isSome = true ∧ manager.unmoved interfaceName local_ = true) ∧
        entry = ⟨.route, key, manager.iface⟩) ∨
      (manager.address.isValid = true ∧ manager.unmoved interfaceName local_ = false ∧
        entry = addressEntry manager.iface manager.address) := by
  have selected := mem_selected keyed (invocation.order.permutes _) (fun key =>
    !(desired[key]?.isSome && manager.unmoved interfaceName local_)) manager.iface entry
  simp only [Bool.not_eq_true', ← Bool.not_eq_true, Bool.and_eq_true] at selected
  rw [staleEntries, List.mem_append, staleRoutes, selected]
  cases manager.address.isValid <;> cases manager.unmoved interfaceName local_ <;> simp

theorem nodup_staleEntries (keyed : Keyed manager.owned) :
    (staleEntries invocation manager interfaceName local_ desired).Nodup :=
  nodup_selected_append keyed (invocation.order.permutes _) (fun key =>
    !(desired[key]?.isSome && manager.unmoved interfaceName local_)) _ _ _

theorem addedEntry_claimed (host : BitVec 32) :
    addedEntry interfaceName (.v4 host) (prefixFrom (.v4 host) 32) =
      addressEntry interfaceName (.v4 host) := by
  have claimed : prefixFrom (.v4 host) 32 = ⟨.v4 host, some 32⟩ := by
    simp [prefixFrom, Addr.isValid, Addr.bitLen]
  rw [claimed, addedEntry, if_pos rfl, toText_host, addressEntry]

theorem map_addedEntry (elsewhere : ∀ (key : String) (network : NetPrefix),
      desired[key]? = some network → network.addr ≠ local_)
    {added : List NetPrefix}
    (sublist : added.Sublist (freshRoutes manager interfaceName local_ desired)) :
    resources (addedEntry interfaceName local_) added =
      resources (routeEntry interfaceName) added := by
  unfold resources
  congr 1
  refine List.map_congr_left fun network member => ?_
  obtain ⟨entry, selected, rfl⟩ := List.mem_map.mp (sublist.subset member)
  have stored := ExtTreeMap.mem_toList_iff_getElem?_eq_some.mp (List.mem_of_mem_filter selected)
  rw [addedEntry, if_neg (elsewhere _ _ stored), routeEntry]

theorem claimAddress_outcome (invocation : Invocation) (manager : RouteManager)
    (interfaceName : String) (kernel : Kernel) (isV4 : ∃ host, local_ = .v4 host) :
    (∃ claimed, claimAddress invocation manager interfaceName local_ kernel =
        (none, claimed, kernel ∪ resources (addedEntry interfaceName local_) claimed) ∧
      resources (addedEntry interfaceName local_) claimed =
        (if manager.unmoved interfaceName local_ then ∅
          else {addressEntry interfaceName local_}) ∧
      Disjoint kernel (resources (addedEntry interfaceName local_) claimed) ∧
      (manager.unmoved interfaceName local_ = false →
        invocation.refusal (.add (addressEntry interfaceName local_)) = none)) ∨
    (manager.unmoved interfaceName local_ = false ∧
      ¬(invocation.refusal (.add (addressEntry interfaceName local_)) = none ∧
        addressEntry interfaceName local_ ∉ kernel) ∧
      ∃ failed, claimAddress invocation manager interfaceName local_ kernel =
        (some failed, [], kernel)) := by
  obtain ⟨host, rfl⟩ := isV4
  cases moved : manager.unmoved interfaceName (.v4 host) with
  | true =>
    refine Or.inl ⟨[], ?_, by simp, by simp, by simp⟩
    rw [claimAddress, if_pos moved]
    simp
  | false =>
    have notUnmoved := ne_true_of_eq_false moved
    by_cases free : invocation.refusal (.add (addressEntry interfaceName (.v4 host))) = none ∧
        addressEntry interfaceName (.v4 host) ∉ kernel
    · refine Or.inl ⟨[prefixFrom (.v4 host) 32], ?_, ?_, ?_, fun _ => free.1⟩
      · rw [claimAddress, if_neg notUnmoved]
        simp only [add_of_free free.1 free.2, resources_cons, resources_nil, addedEntry_claimed]
        rw [Finset.union_insert, Finset.union_empty]
      · simp [addedEntry_claimed]
      · simpa [addedEntry_claimed] using free.2
    · obtain ⟨failed, call⟩ := add_failed free
      refine Or.inr ⟨rfl, free, failed, ?_⟩
      rw [claimAddress, if_neg notUnmoved]
      simp only [call]

theorem addPhase_of_addable (isV4 : ∃ host, local_ = .v4 host) (keyed : Keyed desired)
    (elsewhere : ∀ (key : String) (network : NetPrefix),
      desired[key]? = some network → network.addr ≠ local_)
    (addable : Addable invocation (additions manager interfaceName local_ desired) kernel) :
    ∃ added, addPhase invocation manager interfaceName local_ desired kernel =
        (.ok added, kernel ∪ (additions manager interfaceName local_ desired).toFinset) ∧
      resources (addedEntry interfaceName local_) added =
        (additions manager interfaceName local_ desired).toFinset := by
  rcases claimAddress_outcome invocation manager interfaceName kernel isV4 with
    ⟨claimed, claim, owned, -, -⟩ | ⟨moved, blocked, -⟩
  · have distinct : ((freshRoutes manager interfaceName local_ desired).map
        (routeEntry interfaceName)).Nodup :=
      nodup_selected keyed (List.Perm.refl _) (fun key =>
        !(manager.owned[key]?.isSome && manager.unmoved interfaceName local_)) interfaceName
    have free : ∀ network ∈ freshRoutes manager interfaceName local_ desired,
        invocation.refusal (.add (routeEntry interfaceName network)) = none ∧
          routeEntry interfaceName network ∉
            kernel ∪ resources (addedEntry interfaceName local_) claimed := by
      intro network member
      have inside := List.mem_map_of_mem (f := routeEntry interfaceName) member
      obtain ⟨allowed, absent⟩ := addable _ (List.mem_append_right _ inside)
      refine ⟨allowed, ?_⟩
      rw [owned, Finset.mem_union, not_or]
      refine ⟨absent, ?_⟩
      split_ifs <;> simp [routeEntry, addressEntry]
    have undone := map_addedEntry elsewhere
      (List.Sublist.refl (freshRoutes manager interfaceName local_ desired))
    have whole : resources (addedEntry interfaceName local_) claimed ∪
          resources (routeEntry interfaceName)
            (freshRoutes manager interfaceName local_ desired) =
        (additions manager interfaceName local_ desired).toFinset := by
      rw [owned, additions, List.toFinset_append, resources]
      split_ifs <;> simp
    refine ⟨claimed ++ freshRoutes manager interfaceName local_ desired, ?_, ?_⟩
    · rw [addPhase, claim]
      simp only [addEach_of_free (fun entry => invocation.refusal (.add entry)) _ distinct free,
        Finset.union_assoc, whole]
    · rw [resources_append, undone, whole]
  · have member : addressEntry interfaceName local_ ∈
        additions manager interfaceName local_ desired :=
      (mem_additions keyed _).mpr (Or.inl ⟨moved, rfl⟩)
    exact absurd (addable _ member) blocked

theorem addPhase_of_not_addable (isV4 : ∃ host, local_ = .v4 host) (keyed : Keyed desired)
    (elsewhere : ∀ (key : String) (network : NetPrefix),
      desired[key]? = some network → network.addr ≠ local_)
    (blocked : ¬Addable invocation (additions manager interfaceName local_ desired) kernel) :
    ∃ error, addPhase invocation manager interfaceName local_ desired kernel =
      (.error error, kernel) := by
  rcases claimAddress_outcome invocation manager interfaceName kernel isV4 with
    ⟨claimed, claim, owned, fresh, allowed⟩ | ⟨-, -, failed, claim⟩
  · have stuck : ∃ network ∈ freshRoutes manager interfaceName local_ desired,
        ¬(invocation.refusal (.add (routeEntry interfaceName network)) = none ∧
          routeEntry interfaceName network ∉
            kernel ∪ resources (addedEntry interfaceName local_) claimed) := by
      by_contra none_
      push Not at none_
      refine blocked fun entry member => ?_
      rcases (mem_additions keyed entry).mp member with ⟨moved, rfl⟩ | route
      · rw [owned, moved] at fresh
        exact ⟨allowed moved, by simpa using fresh⟩
      · obtain ⟨network, inside, rfl⟩ := List.mem_map.mp ((mem_fresh keyed entry).mpr route)
        obtain ⟨routeAllowed, absent⟩ := none_ network inside
        exact ⟨routeAllowed, fun present => absent (Finset.mem_union_left _ present)⟩
    obtain ⟨failed, added, loop, sublist, apart⟩ := 
      addEach_blocked (fun entry => invocation.refusal (.add entry)) _ stuck
    refine ⟨.wrapped ("add relay overlay route " ++ failed.1.toText) failed.2, ?_⟩
    rw [addPhase, claim]
    simp only [loop, rollbackAdded, deleteAll_unrefused]
    congr 1
    have undone : resources (addedEntry interfaceName local_) (claimed ++ added) =
        resources (addedEntry interfaceName local_) claimed ∪
          resources (routeEntry interfaceName) added := by
      rw [resources_append, map_addedEntry elsewhere sublist]
    rw [undone, Finset.union_assoc]
    rw [Finset.disjoint_union_left] at apart
    exact Finset.union_sdiff_cancel_right (Finset.disjoint_union_right.mpr ⟨fresh, apart.1⟩)
  · exact ⟨.wrapped "add relay virtual address" failed, by rw [addPhase, claim]⟩

theorem deletePhase_outcome (invocation : Invocation) (manager : RouteManager)
    (interfaceName : String) (local_ : Addr) (desired : ExtTreeMap String NetPrefix)
    (kernel : Kernel) :
    ∃ stopped done left, deletePhase invocation manager interfaceName local_ desired kernel =
        (stopped, kernel \ done.toFinset) ∧
      staleEntries invocation manager interfaceName local_ desired = done ++ left ∧
      done.toFinset ⊆ kernel ∧ (∀ entry ∈ done, invocation.refusal (.delete entry) = none) ∧
      (stopped = none ↔ left = []) ∧
      ∀ entry ∈ left.head?, ¬(invocation.refusal (.delete entry) = none ∧
        entry ∈ kernel \ done.toFinset) := by
  obtain ⟨stopped, done, left, loop, split, present, allowed, complete, next⟩ :=
    deleteEach_outcome (fun entry => invocation.refusal (.delete entry)) (routeEntry manager.iface)
      (staleRoutes invocation manager interfaceName local_ desired) kernel
  have routes : staleEntries invocation manager interfaceName local_ desired =
      done.map (routeEntry manager.iface) ++ (left.map (routeEntry manager.iface) ++
        if manager.address.isValid && !manager.unmoved interfaceName local_ then
          [addressEntry manager.iface manager.address]
        else []) := by
    rw [staleEntries, split, List.map_append, List.append_assoc]
  have routesAllowed : ∀ entry ∈ done.map (routeEntry manager.iface),
      invocation.refusal (.delete entry) = none := by
    intro entry member
    obtain ⟨network, inside, rfl⟩ := List.mem_map.mp member
    exact allowed network inside
  cases stopped with
  | some failed =>
    cases left with
    | nil => simp at complete
    | cons network rest =>
      refine ⟨some (.wrapped ("remove stale relay route " ++ failed.1.toText) failed.2), _, _,
        ?_, routes, present, routesAllowed, by simp, by simpa using next⟩
      rw [deletePhase, loop]
      rfl
  | none =>
    have finished : left = [] := complete.mp rfl
    rw [finished, List.map_nil, List.nil_append] at routes
    cases released : (manager.address.isValid && !manager.unmoved interfaceName local_) with
    | false =>
      rw [released] at routes
      refine ⟨none, _, [], ?_, routes, present, routesAllowed, by simp, by simp⟩
      rw [deletePhase, loop]
      simp only [releaseAddress, released]
      rfl
    | true =>
      rw [released, if_pos rfl] at routes
      by_cases here : invocation.refusal
            (.delete (addressEntry manager.iface manager.address)) = none ∧
          addressEntry manager.iface manager.address ∈
            kernel \ resources (routeEntry manager.iface) done
      · obtain ⟨permitted, inside⟩ := here
        refine ⟨none, _, [], ?_, by rw [List.append_nil, routes], ?_, ?_, by simp, by simp⟩
        · rw [deletePhase, loop]
          simp only [releaseAddress, released, if_true, delete_of_present permitted inside]
          simp [resources, Finset.sdiff_insert, Finset.union_comm]
        · rw [List.toFinset_append, Finset.union_subset_iff]
          exact ⟨present, by simpa using (Finset.mem_sdiff.mp inside).1⟩
        · intro entry member
          rcases List.mem_append.mp member with route | address
          · exact routesAllowed entry route
          · rw [List.mem_singleton.mp address]
            exact permitted
      · obtain ⟨failed, call⟩ := delete_failed here
        refine ⟨some (.wrapped "remove stale relay virtual address" failed), _, [_], ?_, routes,
          present, routesAllowed, by simp, ?_⟩
        · rw [deletePhase, loop]
          simp only [releaseAddress, released, if_true, call]
          rfl
        · simpa [resources] using here

end Phases

section Apply

variable {invocation : Invocation} {interfaceName : String} {local_ : Addr}
  {peers : List NetPrefix} {system : System}

theorem apply_rejected (system : System)
    (rejected : ¬(validateRelayRoutes interfaceName local_ peers = .ok () ∧
      contextError invocation.ctx = .ok ())) :
    ∃ error, apply invocation interfaceName local_ peers system = ([error], system) := by
  cases checks : (do validateRelayRoutes interfaceName local_ peers
                     contextError invocation.ctx) with
  | ok _ => exact absurd (check_eq_ok.mp checks) rejected
  | error error => exact ⟨error, by rw [apply, checks]⟩

theorem apply_outcome (accepted : validateRelayRoutes interfaceName local_ peers = .ok ())
    (live : contextError invocation.ctx = .ok ()) (added : List Entry)
    (isAdded : added = additions system.manager interfaceName local_ (desiredRoutes peers)) :
    (¬Addable invocation added system.kernel ∧
      ∃ error, apply invocation interfaceName local_ peers system = ([error], system)) ∨
    (Addable invocation added system.kernel ∧ ∃ done left,
      staleEntries invocation system.manager interfaceName local_ (desiredRoutes peers) =
        done ++ left ∧
      done.toFinset ⊆ system.kernel ∪ added.toFinset ∧
      (∀ entry ∈ done, invocation.refusal (.delete entry) = none) ∧
      (∀ entry ∈ left.head?, ¬(invocation.refusal (.delete entry) = none ∧
        entry ∈ (system.kernel ∪ added.toFinset) \ done.toFinset)) ∧
      ((left = [] ∧ apply invocation interfaceName local_ peers system =
          ([], ⟨⟨desiredRoutes peers, local_, interfaceName⟩,
            (system.kernel ∪ added.toFinset) \ done.toFinset⟩)) ∨
        (left ≠ [] ∧ ∃ errors, errors ≠ [] ∧
          apply invocation interfaceName local_ peers system =
            (errors, { system with kernel := system.kernel \ done.toFinset })))) := by
  obtain ⟨-, isV4, hosts⟩ := validateRelayRoutes_ok accepted
  have keyed : Keyed (desiredRoutes peers) :=
    desiredRoutes_keyed fun peer member => (hosts peer member).1
  have elsewhere : ∀ (key : String) (network : NetPrefix),
      (desiredRoutes peers)[key]? = some network → network.addr ≠ local_ := by
    intro key network stored
    obtain ⟨member, -⟩ := desiredRoutes_mem (fun peer member => (hosts peer member).1) stored
    exact (hosts network member).2
  have checks : (do validateRelayRoutes interfaceName local_ peers
                    contextError invocation.ctx) = .ok () := check_eq_ok.mpr ⟨accepted, live⟩
  by_cases addable : Addable invocation added system.kernel
  · refine Or.inr ⟨addable, ?_⟩
    obtain ⟨prefixes, addition, undoes⟩ := addPhase_of_addable isV4 keyed elsewhere
      (isAdded ▸ addable)
    rw [← isAdded] at addition undoes
    obtain ⟨stopped, done, left, deletion, split, present, allowed, complete, next⟩ :=
      deletePhase_outcome invocation system.manager interfaceName local_ (desiredRoutes peers)
        (system.kernel ∪ added.toFinset)
    refine ⟨done, left, split, present, allowed, next, ?_⟩
    cases stopped with
    | none =>
      refine Or.inl ⟨complete.mp rfl, ?_⟩
      rw [apply, checks]
      simp only [addition, deletion]
    | some error =>
      refine Or.inr ⟨fun finished => ?_, ?_⟩
      · cases complete.mpr finished
      · have apart : Disjoint system.kernel added.toFinset := by
          rw [Finset.disjoint_right]
          intro entry member
          exact (addable entry (List.mem_toFinset.mp member)).2
        have restored : ((system.kernel ∪ added.toFinset) \ done.toFinset) \ added.toFinset =
            system.kernel \ done.toFinset := by
          rw [sdiff_right_comm, Finset.union_sdiff_cancel_right apart]
        refine ⟨error :: ((rollbackAdded interfaceName local_ prefixes
          ((system.kernel ∪ added.toFinset) \ done.toFinset)).1.map .command), by simp, ?_⟩
        rw [apply, checks]
        simp only [addition, deletion]
        rw [← restored, ← undoes, ← deleteAll_unrefused]
        rfl
  · refine Or.inl ⟨addable, ?_⟩
    obtain ⟨error, addition⟩ := addPhase_of_not_addable isV4 keyed elsewhere
      (isAdded ▸ addable)
    exact ⟨error, by rw [apply, checks]; simp only [addition]⟩

end Apply

section Clear

variable {invocation : Invocation} {interfaceName : String} {system : System}

def clearedEntries (invocation : Invocation) (manager : RouteManager) : List Entry :=
  ((invocation.order.arrange manager.owned.toList).map Prod.snd).map (routeEntry manager.iface) ++
    if manager.address.isValid then [addressEntry manager.iface manager.address] else []

theorem toFinset_clearedEntries (invocation : Invocation) (manager : RouteManager) :
    (clearedEntries invocation manager).toFinset = recorded manager := by
  have walked : resources (routeEntry manager.iface)
        ((invocation.order.arrange manager.owned.toList).map Prod.snd) =
      resources (routeEntry manager.iface) (manager.owned.toList.map Prod.snd) := by
    ext entry
    simp only [mem_resources, List.mem_map, (invocation.order.permutes _).mem_iff]
  rw [clearedEntries, recorded, List.toFinset_append, ← walked, resources]
  split_ifs <;> simp

theorem nodup_clearedEntries {manager : RouteManager} (keyed : Keyed manager.owned) :
    (clearedEntries invocation manager).Nodup := by
  have nodup := nodup_selected_append keyed (invocation.order.permutes _) (fun _ => true)
    manager.iface manager.address.isValid manager.address
  rwa [List.filter_true] at nodup

theorem recorded_new : recorded newRouteManager = ∅ := by
  ext entry
  rw [mem_recorded Keyed.empty]
  simp [newRouteManager, Addr.isValid]

theorem clear_rejected (rejected : ¬ClearAccepts invocation interfaceName system.manager) :
    ∃ error, clear invocation interfaceName system = ([error], system) := by
  cases live : contextError invocation.ctx with
  | error error => exact ⟨error, by rw [clear, live]⟩
  | ok _ =>
    refine ⟨.invalidConfig, ?_⟩
    simp only [ClearAccepts, live, true_and, not_or] at rejected
    obtain ⟨named, given, different⟩ := rejected
    rw [clear, live]
    simp [named, given, different]

theorem deleteAll_clearedEntries (manager : RouteManager) (kernel : Kernel) :
    deleteAll (fun entry => invocation.refusal (.delete entry)) id
        (clearedEntries invocation manager) kernel =
      let (routeRefusals, kernel) := deleteAll (fun entry => invocation.refusal (.delete entry))
        (routeEntry manager.iface)
        ((invocation.order.arrange manager.owned.toList).map Prod.snd) kernel
      let (addressRefusal, kernel) := clearAddress invocation manager manager.iface kernel
      (routeRefusals ++ addressRefusal.toList, kernel) := by
  rw [clearedEntries, deleteAll_append, ← deleteAll_map]
  cases valid : manager.address.isValid <;> simp [deleteAll, clearAddress, valid]

theorem clear_eq_deleteAll (wellFormed : WellFormed system.manager)
    (accepts : ClearAccepts invocation interfaceName system.manager)
    {refusals : List (Refusal String)} {kernel : Kernel}
    (loop : deleteAll (fun entry => invocation.refusal (.delete entry)) id
      (clearedEntries invocation system.manager) system.kernel = (refusals, kernel)) :
    clear invocation interfaceName system = (refusals.map .command,
      ⟨if refusals = [] then newRouteManager else system.manager, kernel⟩) := by
  obtain ⟨live, named⟩ := accepts
  rw [deleteAll_clearedEntries] at loop
  rw [clear, live]
  rcases wellFormed.shape with ⟨unowned, unaddressed, unnamed⟩ | ⟨-, inUse⟩
  · -- A manager that records nothing deletes nothing, whatever the name.
    have walked : invocation.order.arrange (∅ : ExtTreeMap String NetPrefix).toList = [] :=
      List.perm_nil.mp (invocation.order.permutes _)
    simp only [unowned, unaddressed, walked, List.map_nil, deleteAll, clearAddress, Addr.isValid,
      ne_eq, not_true_eq_false, decide_false, Bool.false_eq_true, if_false, Option.toList_none,
      List.append_nil, Prod.mk.injEq] at loop ⊢
    obtain ⟨rfl, rfl⟩ := loop
    simp [unnamed]
  · have device : (if interfaceName = "" then system.manager.iface else interfaceName) =
        system.manager.iface := by
      rcases named with unnamed | empty | same
      · exact absurd unnamed inUse
      · rw [if_pos empty]
      · rw [same, ite_self]
    simp only [device, ne_eq, not_true_eq_false, decide_false, Bool.and_false, Bool.false_eq_true,
      if_false]
    simp only [Prod.mk.injEq] at loop
    rw [loop.1, loop.2]
    cases refusals <;> simp

theorem clear_outcome (wellFormed : WellFormed system.manager)
    (accepts : ClearAccepts invocation interfaceName system.manager) :
    ∃ errors, clear invocation interfaceName system =
        (errors, ⟨if errors = [] then newRouteManager else system.manager,
          system.kernel \ {entry ∈ recorded system.manager |
            invocation.refusal (.delete entry) = none}⟩) ∧
      (errors = [] ↔ recorded system.manager ⊆ system.kernel ∧
        ∀ entry ∈ recorded system.manager, invocation.refusal (.delete entry) = none) := by
  have recordedIs := toFinset_clearedEntries invocation system.manager
  obtain ⟨failures, loop, complete⟩ := deleteAll_outcome
    (fun entry => invocation.refusal (.delete entry)) id
    (clearedEntries invocation system.manager) system.kernel
  have deleted : resources id ((clearedEntries invocation system.manager).filter fun entry =>
        (invocation.refusal (.delete (id entry))).isNone) =
      {entry ∈ recorded system.manager | invocation.refusal (.delete entry) = none} := by
    rw [resources, List.map_id, List.toFinset_filter, recordedIs]
    simp
  rw [deleted] at loop
  have quiet : failures = [] ↔ recorded system.manager ⊆ system.kernel ∧
      ∀ entry ∈ recorded system.manager, invocation.refusal (.delete entry) = none := by
    rw [← recordedIs]
    constructor
    · intro none_
      obtain ⟨present, allowed⟩ := complete none_
      rw [resources, List.map_id] at present
      exact ⟨present, fun entry member => allowed entry (List.mem_toFinset.mp member)⟩
    · rintro ⟨present, allowed⟩
      have distinct : ((clearedEntries invocation system.manager).map id).Nodup := by
        rw [List.map_id]
        exact nodup_clearedEntries wellFormed.keyed
      have through := deleteAll_of_present (fun entry => invocation.refusal (.delete entry)) id
        distinct (fun entry member => ⟨allowed entry (List.mem_toFinset.mpr member),
          present (List.mem_toFinset.mpr member)⟩)
      rw [loop] at through
      exact congrArg Prod.fst through
  rw [clear_eq_deleteAll wellFormed accepts loop]
  exact ⟨failures.map .command, by simp, by simpa using quiet⟩

end Clear

end Ipv6Mesh.RelayOutcomes
