import Ipv6Mesh.NetwinReconciler

/-!
# What the route reconciler owns

The registry of a reconciler stays in step with the backend: it holds exactly
the resources the reconciler created that are still there. Every stage of
`Reconcile` moves the two `Tracks` relations along, and the rollback moves them
back as long as its own calls succeed.
-/

namespace Ipv6Mesh.NetwinOwnership

open GoFlow GoNet GoStore GoText NetwinReconciler WgntApi
open Std

theorem refuseRoute_ok {refused : Bool} {error : NetError} :
    refuseRoute refused error = .ok () ↔ refused = false := by
  cases refused <;> simp [refuseRoute]

variable {route : Route}

theorem validateRoute_ok (valid : validateRoute route = .ok ()) :
    ∃ host, route.destination = ⟨.v4 host, some 32⟩ ∧
      (route.nextHop = .invalid ∨ ∃ hop, route.nextHop = .v4 hop) := by
  obtain ⟨⟨addr, bits⟩, interfaceLUID, nextHop, metric⟩ := route
  simp only [validateRoute, check_eq_ok, refuseRoute_ok] at valid
  obtain ⟨-, hostRoute, hopChecked⟩ := valid
  have destination : addr.is4 = true ∧ bits = some 32 := by
    simp only [NetPrefix.isValid, Bool.or_eq_false_iff, Bool.not_eq_false', decide_eq_false_iff_not,
      ne_eq, Decidable.not_not] at hostRoute
    exact ⟨hostRoute.1.1.2, hostRoute.1.2⟩
  obtain ⟨isV4, rfl⟩ := destination
  cases addr with
  | invalid => cases isV4
  | v6 value zone => cases isV4
  | v4 host =>
    refine ⟨host, rfl, ?_⟩
    cases nextHop with
    | invalid => exact Or.inl rfl
    | v4 hop => exact Or.inr ⟨hop, rfl⟩
    | v6 value zone =>
      revert hopChecked
      simp [Addr.isValid, Addr.is4]

theorem bar_notMem_digits (number : Nat) : '|' ∉ Nat.toDigits 10 number := by
  intro member
  have digit := Nat.isDigit_of_mem_toDigits (by decide) (by decide) member
  exact absurd digit (by decide)

theorem bar_notMem_dotted (bytes : IP) : '|' ∉ dotted bytes :=
  mt mem_dotted (by decide)

theorem routeKey_toList {host : BitVec 32} (destination : route.destination = ⟨.v4 host, some 32⟩) :
    (routeKey route).toList =
      Nat.toDigits 10 route.interfaceLUID.toNat ++ '|' ::
        ((Addr.v4 host).toText ++ '/' :: '3' :: '2' :: '|' ::
          (nextHopText route ++ '|' :: Nat.toDigits 10 route.metric.toNat)) := by
  have bits : (Nat.repr 32).toList = ['3', '2'] := by decide
  simp [routeKey, destination, NetPrefix.toText, Nat.toList_repr, bits]

theorem nextHopText_direct (direct : route.nextHop = .invalid) :
    nextHopText route = [] := by
  rw [nextHopText, direct]
  rfl

theorem nextHopText_through {hop : BitVec 32} (through : route.nextHop = .v4 hop) :
    nextHopText route = (Addr.v4 hop).toText := by
  have valid : (Addr.v4 hop).isValid = true := by simp [Addr.isValid]
  rw [nextHopText, through, if_pos valid]

theorem nextHopText_injective {left right : Route} (leftValid : validateRoute left = .ok ())
    (rightValid : validateRoute right = .ok ()) (same : nextHopText left = nextHopText right) :
    left.nextHop = right.nextHop := by
  have written : ∀ hop : BitVec 32, (Addr.v4 hop).toText ≠ [] := by
    intro hop
    have several : 2 ≤ (putUint32 hop.toNat).length := by simp [putUint32]
    exact List.ne_nil_of_mem (dot_mem_dotted several)
  obtain ⟨-, -, leftHop⟩ := validateRoute_ok leftValid
  obtain ⟨-, -, rightHop⟩ := validateRoute_ok rightValid
  rcases leftHop with direct | ⟨hop, through⟩ <;> rcases rightHop with other | ⟨otherHop, other⟩
  · rw [direct, other]
  · rw [nextHopText_direct direct, nextHopText_through other] at same
    exact absurd same.symm (written otherHop)
  · rw [nextHopText_through through, nextHopText_direct other] at same
    exact absurd same (written hop)
  · rw [nextHopText_through through, nextHopText_through other] at same
    rw [through, other, Addr.v4.inj (Addr.toText_injective same)]

theorem bar_notMem_nextHopText (valid : validateRoute route = .ok ()) :
    '|' ∉ nextHopText route := by
  obtain ⟨-, -, direct | ⟨hop, through⟩⟩ := validateRoute_ok valid
  · simp [nextHopText_direct direct]
  · rw [nextHopText_through through]
    exact bar_notMem_dotted (putUint32 hop.toNat)

theorem routeKey_injective {left right : Route} (leftValid : validateRoute left = .ok ())
    (rightValid : validateRoute right = .ok ()) (same : routeKey left = routeKey right) :
    left = right := by
  obtain ⟨host, destination, -⟩ := validateRoute_ok leftValid
  obtain ⟨otherHost, otherDestination, -⟩ := validateRoute_ok rightValid
  have lists := congrArg String.toList same
  rw [routeKey_toList destination, routeKey_toList otherDestination] at lists
  obtain ⟨luids, lists⟩ := append_separator_inj (bar_notMem_digits _) (bar_notMem_digits _) lists
  have slashFree : ∀ value : BitVec 32, '/' ∉ (Addr.v4 value).toText :=
    fun _ => mt mem_dotted (by decide)
  obtain ⟨hosts, lists⟩ := append_separator_inj (slashFree _) (slashFree _) lists
  simp only [List.cons.injEq, true_and] at lists
  obtain ⟨hops, metrics⟩ := append_separator_inj (bar_notMem_nextHopText leftValid)
    (bar_notMem_nextHopText rightValid) lists
  have sameHost := Addr.v4.inj (Addr.toText_injective hosts)
  have sameHop := nextHopText_injective leftValid rightValid hops
  have digits : ∀ {number other : Nat}, Nat.toDigits 10 number = Nat.toDigits 10 other →
      number = other := fun {number other} equal => Nat.repr_injective (by
        rw [Nat.repr_eq_ofList_toDigits, Nat.repr_eq_ofList_toDigits, equal])
  have sameLUID := UInt64.toNat_inj.mp (digits luids)
  have sameMetric := UInt32.toNat_inj.mp (digits metrics)
  cases left
  cases right
  subst sameHost
  simp_all

def held (map : ExtTreeMap String Route) : Finset Route := resources map.toList

variable {map : ExtTreeMap String Route}

theorem mem_held :
    route ∈ held map ↔ ∃ key : String, map[key]? = some route := by
  simp [held, mem_resources, ExtTreeMap.mem_toList_iff_getElem?_eq_some]

def Keyed (map : ExtTreeMap String Route) : Prop :=
  ∀ (key : String) (route : Route), map[key]? = some route →
    validateRoute route = .ok () ∧ key = routeKey route

def KeyedEntries (entries : List (String × Route)) : Prop :=
  ∀ entry ∈ entries, validateRoute entry.2 = .ok () ∧ entry.1 = routeKey entry.2

theorem Keyed.empty : Keyed ∅ := by
  intro key route stored
  simp at stored

theorem held_empty : held ∅ = ∅ := by
  ext route
  simp [mem_held]

theorem Keyed.entries (keyed : Keyed map) :
    KeyedEntries map.toList := by
  intro entry member
  exact keyed entry.1 entry.2 (ExtTreeMap.mem_toList_iff_getElem?_eq_some.mp member)

variable {entries : List (String × Route)}

theorem KeyedEntries.sublist {all : List (String × Route)} (keyed : KeyedEntries all)
    (sublist : entries.Sublist all) : KeyedEntries entries :=
  fun entry member => keyed entry (sublist.subset member)

theorem KeyedEntries.filter_perm {all : List (String × Route)} (keyed : KeyedEntries all)
    (permuted : entries.Perm all) (keep : String × Route → Bool) :
    KeyedEntries (entries.filter keep) :=
  fun entry member => keyed entry (permuted.mem_iff.mp (List.mem_filter.mp member).1)

theorem Keyed.lookup (keyed : Keyed map) :
    map[routeKey route]? = some route ↔ route ∈ held map := by
  rw [mem_held]
  constructor
  · intro stored
    exact ⟨_, stored⟩
  · rintro ⟨key, stored⟩
    rwa [(keyed key route stored).2] at stored

theorem Keyed.isNone_iff (keyed : Keyed map) (valid : validateRoute route = .ok ()) :
    map[routeKey route]?.isNone = true ↔ route ∉ held map := by
  rw [← keyed.lookup]
  cases stored : map[routeKey route]? with
  | none => simp
  | some other =>
    obtain ⟨otherValid, sameKey⟩ := keyed _ _ stored
    have same : route = other := routeKey_injective valid otherValid sameKey
    simp [same]

theorem Keyed.insert (keyed : Keyed map) (valid : validateRoute route = .ok ()) :
    Keyed (map.insert (routeKey route) route) ∧
      held (map.insert (routeKey route) route) = insert route (held map) := by
  have keyedNext : Keyed (map.insert (routeKey route) route) :=
    GoMap.forall_insert ⟨valid, rfl⟩ keyed
  refine ⟨keyedNext, ?_⟩
  ext other
  rw [Finset.mem_insert, ← keyedNext.lookup, ← keyed.lookup, GoMap.getElem?_insert]
  split_ifs with sameKey
  · refine ⟨fun stored => Or.inl (Option.some.inj stored).symm, ?_⟩
    rintro (rfl | stored)
    · rfl
    · rw [routeKey_injective valid (keyed _ _ stored).1 sameKey]
  · refine ⟨Or.inr, fun either => either.resolve_left ?_⟩
    rintro rfl
    exact sameKey rfl

theorem Keyed.insertAll (keyed : Keyed map) (keyedEntries : KeyedEntries entries) :
    Keyed (insertAll map entries) ∧
      held (insertAll map entries) = held map ∪ resources entries := by
  induction entries generalizing map with
  | nil => exact ⟨keyed, by simp [NetwinReconciler.insertAll]⟩
  | cons entry rest ih =>
    obtain ⟨key, route⟩ := entry
    obtain ⟨valid, rfl⟩ : validateRoute route = .ok () ∧ key = routeKey route :=
      keyedEntries _ List.mem_cons_self
    obtain ⟨keyedNext, heldNext⟩ := keyed.insert valid
    obtain ⟨keyedAll, heldAll⟩ := ih keyedNext
      (keyedEntries.sublist (List.sublist_cons_self _ _))
    refine ⟨keyedAll, ?_⟩
    change held (NetwinReconciler.insertAll (map.insert (routeKey route) route) rest) = _
    rw [heldAll, heldNext, resources_cons, Finset.union_insert, Finset.insert_union]

theorem Keyed.eraseAll (keyed : Keyed map) (keyedEntries : KeyedEntries entries) :
    Keyed (GoMap.eraseAll map (entries.map Prod.fst)) ∧
      held (GoMap.eraseAll map (entries.map Prod.fst)) = held map \ resources entries := by
  have remaining : ∀ (key : String) (route : Route),
      (GoMap.eraseAll map (entries.map Prod.fst))[key]? = some route ↔
        map[key]? = some route ∧ route ∉ resources entries := by
    intro key route
    rw [GoMap.getElem?_eraseAll]
    by_cases stored : map[key]? = some route
    · obtain ⟨valid, rfl⟩ := keyed key route stored
      have named : routeKey route ∈ entries.map Prod.fst ↔ route ∈ resources entries := by
        rw [mem_resources]
        constructor
        · intro member
          obtain ⟨⟨key, other⟩, otherMember, sameKey⟩ := List.mem_map.mp member
          obtain ⟨otherValid, otherKey⟩ := keyedEntries _ otherMember
          have same : other = route :=
            routeKey_injective otherValid valid (otherKey.symm.trans sameKey)
          exact ⟨key, same ▸ otherMember⟩
        · rintro ⟨key, member⟩
          exact List.mem_map.mpr ⟨_, member, (keyedEntries _ member).2⟩
      rw [← named]
      by_cases erased : routeKey route ∈ entries.map Prod.fst <;> simp [erased, stored]
    · simp [stored]
  refine ⟨fun key route stored => keyed key route ((remaining key route).mp stored).1, ?_⟩
  ext route
  simp only [mem_held, Finset.mem_sdiff, remaining, exists_and_right]

variable {routes : List Route}
variable {desired : ExtTreeMap String Route}

theorem collectRoutes_ok {collected : ExtTreeMap String Route} (keyed : Keyed desired)
    (accepted : collectRoutes routes desired = .ok collected) :
    Keyed collected ∧ held collected = held desired ∪ routes.toFinset := by
  induction routes generalizing desired with
  | nil =>
    cases accepted
    exact ⟨keyed, by simp⟩
  | cons route rest ih =>
    simp only [collectRoutes, check_eq_ok] at accepted
    obtain ⟨valid, -, later⟩ := accepted
    obtain ⟨keyedNext, heldNext⟩ := keyed.insert valid
    obtain ⟨keyedAll, heldAll⟩ := ih keyedNext later
    refine ⟨keyedAll, ?_⟩
    rw [heldAll, heldNext, List.toFinset_cons, Finset.union_insert, Finset.insert_union]

theorem collectRoutes_accepts (keyed : Keyed desired)
    (valid : ∀ route ∈ routes, validateRoute route = .ok ()) (distinct : routes.Nodup)
    (fresh : ∀ route ∈ routes, route ∉ held desired) :
    ∃ collected, collectRoutes routes desired = .ok collected := by
  induction routes generalizing desired with
  | nil => exact ⟨desired, rfl⟩
  | cons route rest ih =>
    obtain ⟨first, others⟩ := List.forall_mem_cons.mp valid
    obtain ⟨new, later⟩ := List.forall_mem_cons.mp fresh
    obtain ⟨once, apart⟩ := List.nodup_cons.mp distinct
    obtain ⟨keyedNext, heldNext⟩ := keyed.insert first
    obtain ⟨collected, accepted⟩ := ih keyedNext others apart fun other listed found => by
      rcases Finset.mem_insert.mp (heldNext ▸ found) with rfl | known
      · exact once listed
      · exact later other listed known
    have free := (keyed.isNone_iff first).mpr new
    refine ⟨collected, ?_⟩
    simp only [collectRoutes, check_eq_ok, refuseRoute_ok]
    exact ⟨first, Option.isSome_eq_false_iff.mpr free, accepted⟩

section Selection

variable {previous desired : ExtTreeMap String Route}

theorem mem_resources_filter (keyed : Keyed previous) (permuted : entries.Perm previous.toList)
    (keep : String → Bool) (wanted : Route → Prop)
    (selects : ∀ route, validateRoute route = .ok () →
      (keep (routeKey route) = true ↔ wanted route)) (route : Route) :
    route ∈ resources (entries.filter fun entry => keep entry.1) ↔
      route ∈ held previous ∧ wanted route := by
  rw [mem_resources, mem_held]
  constructor
  · rintro ⟨key, member⟩
    obtain ⟨inside, keeps⟩ := List.mem_filter.mp member
    have stored := ExtTreeMap.mem_toList_iff_getElem?_eq_some.mp (permuted.mem_iff.mp inside)
    obtain ⟨valid, rfl⟩ := keyed key route stored
    exact ⟨⟨_, stored⟩, (selects route valid).mp keeps⟩
  · rintro ⟨⟨key, stored⟩, selected⟩
    obtain ⟨valid, rfl⟩ := keyed key route stored
    refine ⟨_, List.mem_filter.mpr ⟨permuted.mem_iff.mpr ?_, (selects route valid).mpr selected⟩⟩
    exact ExtTreeMap.mem_toList_iff_getElem?_eq_some.mpr stored

variable (keyed : Keyed previous) (keyedDesired : Keyed desired) (invocation : Invocation)

include keyed keyedDesired

theorem resources_staleRoutes :
    resources (staleRoutes invocation previous desired) = held previous \ held desired := by
  ext route
  rw [Finset.mem_sdiff]
  exact mem_resources_filter keyed (invocation.previousOrder.permutes _)
    (fun key => desired[key]?.isNone) (· ∉ held desired)
    (fun _ valid => keyedDesired.isNone_iff valid) route

theorem resources_freshRoutes :
    resources (freshRoutes invocation previous desired) = held desired \ held previous := by
  ext route
  rw [Finset.mem_sdiff]
  exact mem_resources_filter keyedDesired (invocation.desiredOrder.permutes _)
    (fun key => previous[key]?.isNone) (· ∉ held previous)
    (fun _ valid => keyed.isNone_iff valid) route

theorem resources_keptRoutes :
    resources (keptRoutes previous desired) = held previous ∩ held desired := by
  ext route
  rw [Finset.mem_inter]
  refine mem_resources_filter keyed (List.Perm.refl _) (fun key => desired[key]?.isSome)
    (· ∈ held desired) (fun other valid => ?_) route
  have free := keyedDesired.isNone_iff valid
  rw [← not_iff_not, ← free, Bool.not_eq_true, Option.isSome_eq_false_iff]

end Selection

def ownedAddresses (reconciler : RouteReconciler) : Finset Address :=
  if reconciler.addressOwned then reconciler.address.toFinset else ∅

def claimed (address : Address) (owned : Bool) : Finset Address := if owned then {address} else ∅

section Addresses

variable {initial : Finset Address} {reconciler : RouteReconciler} {address : Address}
  {addresses : Store Address}

def Flagged (reconciler : RouteReconciler) : Prop :=
  reconciler.addressOwned = reconciler.address.isSome

theorem ownedAddresses_eq (flagged : Flagged reconciler) :
    ownedAddresses reconciler = reconciler.address.toFinset := by
  unfold Flagged at flagged
  cases stored : reconciler.address <;> simp [ownedAddresses, flagged, stored]

theorem addressKept_iff (flagged : Flagged reconciler) :
    reconciler.addressKept address = true ↔ reconciler.address = some address := by
  unfold Flagged at flagged
  cases stored : reconciler.address <;> simp [RouteReconciler.addressKept, flagged, stored]

theorem addressChanged_iff (flagged : Flagged reconciler) :
    reconciler.addressChanged address = true ↔
      ∃ previous, reconciler.address = some previous ∧ previous ≠ address := by
  unfold Flagged at flagged
  cases stored : reconciler.address <;> simp [RouteReconciler.addressChanged, flagged, stored]

structure Claimed (initial : Finset Address) (reconciler : RouteReconciler) (address : Address)
    (owned : Bool) (addresses : Store Address) : Prop where
  tracks : Tracks initial (ownedAddresses reconciler ∪ claimed address owned) addresses
  foreign : owned = false → address ∈ initial
  kept : reconciler.address = some address → owned = true
  fresh : owned = true → address ∉ initial

theorem claimAddress_cases (flagged : Flagged reconciler) (invocation : Invocation)
    (tracks : Tracks initial (ownedAddresses reconciler) addresses) (address : Address) :
    (∃ failure, claimAddress invocation reconciler address addresses =
      (.error failure, addresses)) ∨
    ∃ owned after, claimAddress invocation reconciler address addresses = (.ok owned, after) ∧
      Claimed initial reconciler address owned after := by
  have ownedIff := ownedAddresses_eq flagged
  by_cases kept : reconciler.address = some address
  · have keeps := (addressKept_iff flagged).mpr kept
    have unchanged : reconciler.addressChanged address = false := by
      rw [← Bool.not_eq_true, addressChanged_iff flagged]
      simp [kept]
    have member : address ∈ ownedAddresses reconciler := by simp [ownedIff, kept]
    refine Or.inr ⟨true, addresses, by simp [claimAddress, keeps, unchanged], ?_⟩
    refine ⟨?_, by simp, fun _ => rfl, fun _ => Finset.disjoint_right.mp tracks.foreign member⟩
    have absorbed :
        ownedAddresses reconciler ∪ claimed address true = ownedAddresses reconciler := by
      simpa [claimed] using member
    rwa [absorbed]
  · have lost : reconciler.addressKept address = false := by
      rw [← Bool.not_eq_true, addressKept_iff flagged]
      exact kept
    have called : claimAddress invocation reconciler address addresses =
        ensure (invocation.failure .forward (.ensureAddress address)) address addresses := by
      simp [claimAddress, lost]
    rw [called]
    rcases tracks.ensure (invocation.failure .forward (.ensureAddress address)) address with
      ⟨failed, -, call⟩ | ⟨-, present, call⟩ | ⟨-, absent, after, call, grown⟩
    · exact Or.inl ⟨failed, call⟩
    · refine Or.inr ⟨false, addresses, call, by simpa [claimed] using tracks, fun _ => ?_,
        fun stored => absurd stored kept, by simp⟩
      rw [tracks.present_eq, Finset.mem_union, ownedIff] at present
      exact present.resolve_right (by simpa using kept)
    · refine Or.inr ⟨true, after, call, ?_, by simp, fun _ => rfl,
        fun _ => (tracks.mem_present absent).1⟩
      rwa [claimed, if_pos rfl, Finset.union_comm, ← Finset.insert_eq]

theorem Claimed.release (flagged : Flagged reconciler) {owned : Bool}
    (state : Claimed initial reconciler address owned addresses) (invocation : Invocation) :
    (∃ failure, releaseAddress invocation reconciler address addresses =
      (.error failure, addresses)) ∨
    ∃ after, releaseAddress invocation reconciler address addresses = (.ok (), after) ∧
      Tracks initial (claimed address owned) after := by
  have tracks := state.tracks
  rw [ownedAddresses_eq flagged] at tracks
  cases stored : reconciler.address with
  | none =>
    refine Or.inr ⟨addresses, by simp [releaseAddress, stored], ?_⟩
    simpa [stored] using tracks
  | some previous =>
    rw [stored] at tracks
    by_cases same : previous = address
    · subst same
      have unchanged : reconciler.addressChanged previous = false := by
        rw [← Bool.not_eq_true, addressChanged_iff flagged]
        simp [stored]
      refine Or.inr ⟨addresses, by simp [releaseAddress, stored, unchanged], ?_⟩
      rw [state.kept stored] at tracks ⊢
      simpa [claimed] using tracks
    · have changed : reconciler.addressChanged address = true :=
        (addressChanged_iff flagged).mpr ⟨previous, stored, same⟩
      have called : releaseAddress invocation reconciler address addresses =
          remove (invocation.failure .forward (.removeAddress previous)) previous addresses := by
        simp [releaseAddress, stored, changed]
      have notInitial : previous ∉ initial :=
        Finset.disjoint_right.mp tracks.foreign (by simp)
      have notClaimed : previous ∉ claimed address owned := by
        cases owned <;> simp [claimed, same]
      rw [called]
      rcases tracks.remove (invocation.failure .forward (.removeAddress previous)) notInitial with
        ⟨failed, -, call⟩ | ⟨-, after, call, released⟩
      · exact Or.inl ⟨failed, call⟩
      · refine Or.inr ⟨after, call, ?_⟩
        rwa [Option.toFinset_some, ← Finset.insert_eq, Finset.erase_insert notClaimed] at released

theorem Claimed.rollbackNew (flagged : Flagged reconciler) {owned : Bool}
    (state : Claimed initial reconciler address owned addresses) {invocation : Invocation}
    (succeeds : owned = true → reconciler.address ≠ some address →
      invocation.failure .rollback (.removeAddress address) = none) :
    ∃ errors after, rollbackNewAddress invocation reconciler address owned addresses =
      (errors, after) ∧ Tracks initial (ownedAddresses reconciler) after := by
  have tracks := state.tracks
  cases owned with
  | false => exact ⟨[], addresses, by simp [rollbackNewAddress], by simpa [claimed] using tracks⟩
  | true =>
    rw [claimed, if_pos rfl, Finset.union_comm, ← Finset.insert_eq] at tracks
    by_cases kept : reconciler.address = some address
    · refine ⟨[], addresses, by simp [rollbackNewAddress, kept], ?_⟩
      have member : address ∈ ownedAddresses reconciler := by simp [ownedAddresses_eq flagged, kept]
      rwa [Finset.insert_eq_self.mpr member] at tracks
    · have absent : address ∉ ownedAddresses reconciler := by
        simpa [ownedAddresses_eq flagged] using kept
      rcases tracks.remove (invocation.failure .rollback (.removeAddress address))
          (state.fresh rfl) with ⟨failed, fails, -⟩ | ⟨-, after, call, released⟩
      · rw [succeeds rfl kept] at fails
        cases fails
      · refine ⟨[], after, by simp [rollbackNewAddress, kept, call, failures], ?_⟩
        rwa [Finset.erase_insert absent] at released

theorem rollbackOldAddress_unchanged (flagged : Flagged reconciler)
    (tracks : Tracks initial (ownedAddresses reconciler) addresses) (invocation : Invocation)
    (address : Address) (owned : Bool) :
    ∃ errors, rollbackOldAddress invocation reconciler address owned addresses =
      (errors, addresses) := by
  rw [ownedAddresses_eq flagged] at tracks
  cases stored : reconciler.address with
  | none => exact ⟨[], by simp [rollbackOldAddress, stored]⟩
  | some previous =>
    have present : previous ∈ addresses.present := by
      rw [tracks.present_eq, stored]
      simp
    rw [rollbackOldAddress, stored]
    dsimp only
    split_ifs
    · rcases tracks.ensure (invocation.failure .rollback (.ensureAddress previous)) previous with
        ⟨failed, -, call⟩ | ⟨-, -, call⟩ | ⟨-, absent, -⟩
      · exact ⟨[failed], by rw [call]; rfl⟩
      · exact ⟨[], by rw [call]; rfl⟩
      · exact absurd present absent
    · exact ⟨[], rfl⟩

end Addresses

structure Content where
  addresses : Finset Address
  routes : Finset Route

def Content.start (initial : Content) : System :=
  ⟨newRouteReconciler, Store.initial initial.addresses, Store.initial initial.routes⟩

/-- What the reconciler owns is what it created and has not removed. -/
structure InStep (initial : Content) (system : System) : Prop where
  keyed : Keyed system.reconciler.ownedRoutes
  flagged : Flagged system.reconciler
  routes : Tracks initial.routes (held system.reconciler.ownedRoutes) system.backend.routes
  addresses : Tracks initial.addresses (ownedAddresses system.reconciler) system.backend.addresses

theorem InStep.start (initial : Content) : InStep initial initial.start where
  keyed := Keyed.empty
  flagged := rfl
  routes := by
    change Tracks initial.routes (held ∅) (Store.initial initial.routes)
    rw [held_empty]
    exact Tracks.start initial.routes
  addresses := Tracks.start initial.addresses

/-- The calls by which a rollback undoes the forward pass. Its last call, which
ensures the previous address once more, is not one of them. -/
def undoing (reconciler : RouteReconciler) (address : Address) (owned : Bool)
    (added removed : List (String × Route)) : List Call :=
  added.map (Call.removeRoute ·.2) ++ removed.map (Call.ensureRoute ·.2) ++
    if owned && reconciler.address ≠ some address then [.removeAddress address] else []

def undoingRoutes (invocation : Invocation) (address : Address)
    (desired : ExtTreeMap String Route) (owned : Bool) (reconciler : RouteReconciler)
    (backend : Backend) : List Call :=
  let previous := reconciler.ownedRoutes
  match removeEach (fun route => invocation.failure .forward (.removeRoute route))
      (staleRoutes invocation previous desired) backend.routes with
  | (some _, removed, _) => undoing reconciler address owned [] removed
  | (none, removed, routes) =>
    match ensureEach (fun route => invocation.failure .forward (.ensureRoute route))
        (freshRoutes invocation previous desired) routes with
    | (some _, added, _) => undoing reconciler address owned added removed
    | (none, added, _) =>
      match releaseAddress invocation reconciler address backend.addresses with
      | (.error _, _) => undoing reconciler address owned added removed
      | (.ok (), _) => []

/-- The undoing calls that a `Reconcile` makes: none unless its forward pass fails. -/
def undoCalls (invocation : Invocation) (address : Address) (routes : List Route)
    (system : System) : List Call :=
  match desiredRoutes invocation address routes with
  | .error _ => []
  | .ok desired =>
    match claimAddress invocation system.reconciler address system.backend.addresses with
    | (.error _, _) => []
    | (.ok owned, addresses) =>
      undoingRoutes invocation address desired owned system.reconciler
        { system.backend with addresses }

def Succeeds (invocation : Invocation) (calls : List Call) : Prop :=
  ∀ call ∈ calls, invocation.failure .rollback call = none

variable {added : List (String × Route)}

theorem rollbackRoutes_restores {initial owned : Finset Route} {invocation : Invocation}
    {removed : List (String × Route)} {routes : Store Route}
    (undone : ∀ entry ∈ added, invocation.failure .rollback (.removeRoute entry.2) = none)
    (redone : ∀ entry ∈ removed, invocation.failure .rollback (.ensureRoute entry.2) = none)
    (ownedForeign : Disjoint initial owned) (removedOwned : resources removed ⊆ owned)
    (addedFresh : Disjoint owned (resources added))
    (tracks : Tracks initial (owned \ resources removed ∪ resources added) routes) :
    ∃ errors after, rollbackRoutes invocation added removed routes = (errors, after) ∧
      Tracks initial owned after := by
  have sameAdded := resources_perm (invocation.addedOrder.permutes added)
  have sameRemoved := resources_perm (invocation.removedOrder.permutes removed)
  have addedForeign : Disjoint initial (resources (invocation.addedOrder.arrange added)) := by
    rw [sameAdded]
    exact tracks.foreign.mono_right Finset.subset_union_right
  obtain ⟨errors, done, middle, removing, -, without, complete, quiet⟩ := tracks.removeAll
    (fun route => invocation.failure .rollback (.removeRoute route)) _ addedForeign
  have silent : errors = [] := quiet fun entry listed =>
    undone entry ((invocation.addedOrder.permutes added).mem_iff.mp listed)
  rw [complete silent, sameAdded, Finset.union_sdiff_cancel_right
    (addedFresh.mono_left Finset.sdiff_subset)] at without
  have removedForeign : Disjoint initial (resources (invocation.removedOrder.arrange removed)) := by
    rw [sameRemoved]
    exact ownedForeign.mono_right removedOwned
  obtain ⟨after, restoring, restored⟩ := without.ensureAll
    (fun route => invocation.failure .rollback (.ensureRoute route)) _ removedForeign
    fun entry listed => redone entry ((invocation.removedOrder.permutes removed).mem_iff.mp listed)
  refine ⟨errors, after, by simp [rollbackRoutes, removing, restoring], ?_⟩
  rwa [sameRemoved, Finset.sdiff_union_of_subset removedOwned] at restored

variable {system : System}

section Calls

variable {initial : Content} {invocation : Invocation} {address : Address} {owned : Bool}

structure Partway (initial : Content) (reconciler : RouteReconciler) (address : Address)
    (owned : Bool) (added removed : List (String × Route)) (backend : Backend) : Prop where
  keyed : Keyed reconciler.ownedRoutes
  flagged : Flagged reconciler
  claim : Claimed initial.addresses reconciler address owned backend.addresses
  ownedForeign : Disjoint initial.routes (held reconciler.ownedRoutes)
  removedOwned : resources removed ⊆ held reconciler.ownedRoutes
  addedFresh : Disjoint (held reconciler.ownedRoutes) (resources added)
  tracks : Tracks initial.routes
    (held reconciler.ownedRoutes \ resources removed ∪ resources added) backend.routes

/-- What a call of `Reconcile` comes to: an error with everything as it was if
what it did is undone, or success with exactly the requested resources
beside the initial ones. -/
inductive Settled (initial : Content) (undone : Prop) (address : Address)
    (routes : Finset Route) (reconciler : RouteReconciler) : Errors × System → Prop where
  | failed {errors : Errors} {backend : Backend} (reported : errors ≠ [])
      (kept : undone → InStep initial ⟨reconciler, backend⟩) :
      Settled initial undone address routes reconciler (errors, ⟨reconciler, backend⟩)
  | applied {system : System} (inStep : InStep initial system)
      (addresses : system.backend.addresses.present = initial.addresses ∪ {address})
      (present : system.backend.routes.present = initial.routes ∪ routes) :
      Settled initial undone address routes reconciler ([], system)

variable {reconciler : RouteReconciler}

theorem Partway.rollback {removed : List (String × Route)} {backend : Backend}
    (partway : Partway initial reconciler address owned added removed backend) (original : String)
    (requested : Finset Route) :
    Settled initial (Succeeds invocation (undoing reconciler address owned added removed)) address
      requested reconciler
      ((rollback invocation reconciler added removed address owned original backend).1,
        ⟨reconciler,
          (rollback invocation reconciler added removed address owned original backend).2⟩) := by
  refine .failed (List.cons_ne_nil _ _) fun undo => ?_
  simp only [Succeeds, undoing, List.forall_mem_append, List.forall_mem_map] at undo
  obtain ⟨⟨undone, redone⟩, released⟩ := undo
  obtain ⟨routeErrors, routes, routesUndone, routesTracked⟩ := rollbackRoutes_restores undone redone
    partway.ownedForeign partway.removedOwned partway.addedFresh partway.tracks
  obtain ⟨newErrors, addresses, newUndone, addressesTracked⟩ :=
    partway.claim.rollbackNew partway.flagged fun claimed moved =>
      released _ (by simp [claimed, moved])
  obtain ⟨oldErrors, oldUndone⟩ :=
    rollbackOldAddress_unchanged partway.flagged addressesTracked invocation address owned
  simp only [NetwinReconciler.rollback, routesUndone, newUndone, oldUndone]
  exact ⟨partway.keyed, partway.flagged, routesTracked, addressesTracked⟩

theorem ownedAddresses_new (address : Address) (owned : Bool)
    (routes : ExtTreeMap String Route) :
    ownedAddresses ⟨if owned then some address else none, owned, routes⟩ =
      claimed address owned := by
  cases owned <;> simp [ownedAddresses, claimed]

theorem applied_settled {undone : Prop} (keyedDesired : Keyed desired)
    (keyed : Keyed reconciler.ownedRoutes) (addedKeyed : KeyedEntries added) {after : Store Route}
    {addresses : Store Address}
    (tracks : Tracks initial.routes (held reconciler.ownedRoutes ∩ held desired ∪ resources added)
      after) (present : after.present = initial.routes ∪ held desired)
    (foreign : owned = false → address ∈ initial.addresses)
    (released : Tracks initial.addresses (claimed address owned) addresses) :
    Settled initial undone address (held desired) reconciler
      ([], ⟨⟨if owned then some address else none, owned,
        insertAll (insertAll ∅ added) (keptRoutes reconciler.ownedRoutes desired)⟩,
        ⟨addresses, after⟩⟩) := by
  have keptKeyed : KeyedEntries (keptRoutes reconciler.ownedRoutes desired) :=
    keyed.entries.filter_perm (List.Perm.refl _) _
  obtain ⟨keyedAdded, heldAdded⟩ := Keyed.empty.insertAll addedKeyed
  obtain ⟨keyedNew, heldNew⟩ := keyedAdded.insertAll keptKeyed
  rw [heldAdded, held_empty, Finset.empty_union, Finset.union_comm,
    resources_keptRoutes keyed keyedDesired] at heldNew
  refine .applied ⟨keyedNew, ?_, ?_, ?_⟩ ?_ present
  · cases owned <;> rfl
  · dsimp only
    rwa [heldNew]
  · dsimp only
    rwa [ownedAddresses_new]
  · dsimp only
    rw [released.present_eq]
    cases owned with
    | true => rfl
    | false =>
      have member := foreign rfl
      simp [claimed, member]

theorem applyRoutes_settled {backend : Backend} (keyedDesired : Keyed desired)
    (keyed : Keyed reconciler.ownedRoutes) (flagged : Flagged reconciler)
    (routes : Tracks initial.routes (held reconciler.ownedRoutes) backend.routes)
    (claim : Claimed initial.addresses reconciler address owned backend.addresses) :
    Settled initial
      (Succeeds invocation (undoingRoutes invocation address desired owned reconciler backend))
      address (held desired) reconciler
      (applyRoutes invocation address desired owned reconciler backend) := by
  have stale := resources_staleRoutes keyed keyedDesired invocation
  have fresh := resources_freshRoutes keyed keyedDesired invocation
  have staleOwned : resources (staleRoutes invocation reconciler.ownedRoutes desired) ⊆
      held reconciler.ownedRoutes := by
    rw [stale]
    exact Finset.sdiff_subset
  obtain ⟨stopped, removed, afterRemoving, removing, removedSublist, removedTracks, allRemoved⟩ :=
    routes.removeEach (fun route => invocation.failure .forward (.removeRoute route)) _
      (routes.foreign.mono_right staleOwned)
  have removedOwned : resources removed ⊆ held reconciler.ownedRoutes :=
    (resources_sublist removedSublist).trans staleOwned
  unfold applyRoutes undoingRoutes
  dsimp only
  rw [removing]
  cases stopped with
  | some failure =>
    have partway : Partway initial reconciler address owned [] removed
        { backend with routes := afterRemoving } :=
      ⟨keyed, flagged, claim, routes.foreign, removedOwned, by simp, by simpa using removedTracks⟩
    exact partway.rollback failure _
  | none =>
    obtain ⟨stopped, added, afterEnsuring, ensuring, addedSublist, addedTracks, -, allPresent⟩ :=
      removedTracks.ensureEach (fun route => invocation.failure .forward (.ensureRoute route))
        (freshRoutes invocation reconciler.ownedRoutes desired)
    have addedFresh : Disjoint (held reconciler.ownedRoutes) (resources added) := by
      have inside := resources_sublist addedSublist
      rw [fresh] at inside
      exact Finset.disjoint_sdiff.mono_right inside
    have partway : Partway initial reconciler address owned added removed
        { backend with routes := afterEnsuring } :=
      ⟨keyed, flagged, claim, routes.foreign, removedOwned, addedFresh, addedTracks⟩
    dsimp only
    rw [ensuring]
    cases stopped with
    | some failure => exact partway.rollback failure _
    | none =>
      dsimp only
      rcases claim.release flagged invocation with ⟨failure, releasing⟩ |
        ⟨addresses, releasing, released⟩
      · rw [releasing]
        exact partway.rollback failure _
      · rw [releasing]
        have addedKeyed : KeyedEntries added := KeyedEntries.sublist
          (keyedDesired.entries.filter_perm (invocation.desiredOrder.permutes _) _) addedSublist
        rw [allRemoved rfl, stale, sdiff_sdiff_right_self] at addedTracks removedTracks
        refine applied_settled keyedDesired keyed addedKeyed addedTracks ?_ claim.foreign released
        rw [allPresent rfl, removedTracks.present_eq, fresh, Finset.union_assoc]
        congr 1
        ext route
        simp only [Finset.inf_eq_inter, Finset.mem_union, Finset.mem_inter, Finset.mem_sdiff]
        tauto

theorem reconcile_settled (inStep : InStep initial system) (invocation : Invocation)
    (address : Address) (routes : List Route) :
    Settled initial (Succeeds invocation (undoCalls invocation address routes system)) address
      routes.toFinset system.reconciler (reconcile invocation address routes system) := by
  rw [reconcile, undoCalls]
  cases accepted : desiredRoutes invocation address routes with
  | error => exact .failed (List.cons_ne_nil _ _) fun _ => inStep
  | ok desired =>
    have collected : collectRoutes routes ∅ = .ok desired := by
      rw [desiredRoutes, check_eq_ok, bind_eq_ok] at accepted
      obtain ⟨-, result, collecting, later⟩ := accepted
      rw [check_eq_ok] at later
      cases later.2
      exact collecting
    obtain ⟨keyedDesired, heldDesired⟩ := collectRoutes_ok Keyed.empty collected
    rw [held_empty, Finset.empty_union] at heldDesired
    rcases claimAddress_cases inStep.flagged invocation inStep.addresses address with
      ⟨failure, claiming⟩ | ⟨owned, addresses, claiming, claim⟩
    · dsimp only
      rw [claiming]
      exact .failed (List.cons_ne_nil _ _) fun _ => inStep
    · dsimp only
      rw [claiming, ← heldDesired]
      exact applyRoutes_settled keyedDesired inStep.keyed inStep.flagged inStep.routes claim

theorem clearAddress_cases {initial : Finset Address} {addresses : Store Address}
    (flagged : Flagged reconciler) (tracks : Tracks initial (ownedAddresses reconciler) addresses)
    (invocation : Invocation) :
    (∃ address failure, reconciler.address = some address ∧
      invocation.failure .forward (.removeAddress address) = some failure ∧
      clearAddress invocation reconciler addresses = ([failure], some address, true, addresses)) ∨
    ∃ after, clearAddress invocation reconciler addresses = ([], none, false, after) ∧
      Tracks initial ∅ after := by
  rw [ownedAddresses_eq flagged] at tracks
  unfold Flagged at flagged
  cases stored : reconciler.address with
  | none =>
    rw [stored] at flagged tracks
    exact Or.inr ⟨addresses, by simp [clearAddress, stored, flagged], tracks⟩
  | some address =>
    rw [stored] at flagged tracks
    have notInitial : address ∉ initial := Finset.disjoint_right.mp tracks.foreign (by simp)
    rcases tracks.remove (invocation.failure .forward (.removeAddress address)) notInitial with
      ⟨failed, fails, call⟩ | ⟨-, after, call, released⟩
    · exact Or.inl ⟨address, failed, rfl, fails, by simp [clearAddress, stored, flagged, call]⟩
    · refine Or.inr ⟨after, by simp [clearAddress, stored, flagged, call], ?_⟩
      simpa using released

theorem clear_inStep (inStep : InStep initial system) (invocation : Invocation) :
    ∃ errors after, clear invocation system = (errors, after) ∧ InStep initial after ∧
      (errors = [] → after.backend.addresses.present = initial.addresses ∧
        after.backend.routes.present = initial.routes) ∧
      (invocation.ctx = .live → (∀ call, invocation.failure .forward call = none) →
        errors = []) := by
  rw [clear]
  cases checked : contextErr invocation.ctx with
  | error error =>
    refine ⟨[error], system, rfl, inStep, by simp, ?_⟩
    intro live
    rw [live] at checked
    cases checked
  | ok _ =>
    have sameOwned := resources_perm
      (invocation.previousOrder.permutes system.reconciler.ownedRoutes.toList)
    have mine : Disjoint initial.routes (resources
        (invocation.previousOrder.arrange system.reconciler.ownedRoutes.toList)) := by
      rw [sameOwned]
      exact inStep.routes.foreign
    obtain ⟨routeErrors, removed, routes, removing, sublist, tracked, complete, quiet⟩ :=
      inStep.routes.removeAll (fun route => invocation.failure .forward (.removeRoute route)) _
        mine
    have removedKeyed : KeyedEntries removed := fun entry member =>
      inStep.keyed.entries entry ((invocation.previousOrder.permutes _).mem_iff.mp
        (sublist.subset member))
    obtain ⟨keyed, remaining⟩ := inStep.keyed.eraseAll removedKeyed
    have emptied : routeErrors = [] → routes.present = initial.routes := by
      intro silent
      rw [tracked.present_eq, complete silent, sameOwned]
      simp [held]
    rw [← remaining] at tracked
    dsimp only
    rw [removing]
    rcases clearAddress_cases inStep.flagged inStep.addresses invocation with
      ⟨address, failure, stored, fails, clearing⟩ | ⟨addresses, clearing, released⟩
    · have owned : ownedAddresses system.reconciler = {address} := by
        rw [ownedAddresses_eq inStep.flagged, stored]
        rfl
      have addresses := inStep.addresses
      rw [owned] at addresses
      rw [clearing]
      refine ⟨_, _, rfl, ⟨keyed, rfl, tracked, addresses⟩, by simp, ?_⟩
      intro _ succeeds
      rw [succeeds] at fails
      cases fails
    · rw [clearing]
      refine ⟨_, _, rfl, ⟨keyed, rfl, tracked, released⟩, ?_, ?_⟩
      · intro silent
        have noRouteErrors : routeErrors = [] := by simpa using silent
        exact ⟨by simpa using released.present_eq, emptied noRouteErrors⟩
      · intro _ succeeds
        simpa using quiet fun entry _ => succeeds _

theorem reconcile_failed {after : System} (inStep : InStep initial system) {errors : Errors}
    (undo : Succeeds invocation (undoCalls invocation address routes system))
    (failed : reconcile invocation address routes system = (errors, after))
    (reported : errors ≠ []) :
    after.reconciler = system.reconciler ∧
      after.backend.addresses.present = system.backend.addresses.present ∧
      after.backend.routes.present = system.backend.routes.present := by
  have settled := reconcile_settled inStep invocation address routes
  rw [failed] at settled
  cases settled with
  | applied => exact absurd rfl reported
  | failed reported kept =>
    have still := kept undo
    refine ⟨rfl, ?_, ?_⟩
    · rw [inStep.addresses.present_eq, still.addresses.present_eq]
    · rw [inStep.routes.present_eq, still.routes.present_eq]

theorem reconcile_applied {after : System} (inStep : InStep initial system)
    (applied : reconcile invocation address routes system = ([], after)) :
    after.backend.addresses.present = initial.addresses ∪ {address} ∧
      after.backend.routes.present = initial.routes ∪ routes.toFinset := by
  have settled := reconcile_settled inStep invocation address routes
  rw [applied] at settled
  cases settled with
  | failed reported => exact absurd rfl reported
  | applied inStep addresses present => exact ⟨addresses, present⟩

end Calls

/-- None of the calls that the command makes to undo its own is refused. -/
def Command.UndoSucceeds : Command → System → Prop
  | .reconcile invocation address routes, system =>
    Succeeds invocation (undoCalls invocation address routes system)
  | .clear _, _ => True

/-- No call of a rollback is refused, whether made or not. -/
def Command.RollbackSucceeds : Command → Prop
  | .reconcile invocation _ _ => ∀ call, invocation.failure .rollback call = none
  | .clear _ => True

theorem Command.RollbackSucceeds.undoSucceeds {command : Command}
    (succeeds : Command.RollbackSucceeds command) (system : System) :
    Command.UndoSucceeds command system := by
  cases command with
  | reconcile invocation address routes => exact fun call _ => succeeds call
  | clear invocation => trivial

theorem InStep.step {initial : Content} {command : Command}
    (undo : Command.UndoSucceeds command system) (inStep : InStep initial system) :
    InStep initial (command.step system) := by
  cases command with
  | reconcile invocation address routes =>
    have settled := reconcile_settled inStep invocation address routes
    change InStep initial (reconcile invocation address routes system).2
    generalize reconcile invocation address routes system = outcome at settled
    cases settled with
    | failed reported kept => exact kept undo
    | applied after => exact after
  | clear invocation =>
    obtain ⟨errors, after, cleared, inStepAfter, -, -⟩ := clear_inStep inStep invocation
    change InStep initial (clear invocation system).2
    rwa [cleared]

def reached (initial : Content) (commands : List Command) : System :=
  run Command.step commands initial.start

theorem reached_inStep {initial : Content} {commands : List Command}
    (undo : StepsMeet Command.step Command.UndoSucceeds commands initial.start) :
    InStep initial (reached initial commands) :=
  run_invariant_of_stepsMeet Command.step (InStep initial)
    (fun _ _ undone inStep => inStep.step undone) undo (InStep.start initial)

def inOrder : Order := ⟨id, fun _ => List.Perm.refl _⟩

def failing (calls : List (Phase × Call)) : Invocation :=
  ⟨.live, fun phase call => if (phase, call) ∈ calls then some "call failed" else none,
    inOrder, inOrder, inOrder, inOrder⟩

def overlayAddress : Address := ⟨.v4 (BitVec.ofNat 32 (10 * 2 ^ 24 + 77 * 2 ^ 16 + 1)), 32, 42⟩

def overlayRoute (host : Nat) : Route :=
  ⟨⟨.v4 (BitVec.ofNat 32 (10 * 2 ^ 24 + 77 * 2 ^ 16 + host)), some 32⟩, 42, .invalid, 1⟩

def appliedRun : List Command :=
  [.reconcile (failing []) overlayAddress [overlayRoute 2, overlayRoute 5]]

def lostRun : List Command :=
  [.reconcile (failing [(.forward, .ensureRoute (overlayRoute 4)),
      (.rollback, .removeRoute (overlayRoute 3))])
    overlayAddress [overlayRoute 3, overlayRoute 4]]

/-- In every run whose rollbacks succeed nothing of the initial content is ever
removed; success of `Reconcile` leaves exactly the initial content and what was
requested, an error leaves everything as it was, and success of `Clear` leaves
exactly the initial content. -/
theorem reconciler_touches_only_its_own (initial : Content) (commands : List Command)
    (succeeds : ∀ command ∈ commands, Command.RollbackSucceeds command) :
    (Disjoint initial.addresses (reached initial commands).backend.addresses.removed ∧
      Disjoint initial.routes (reached initial commands).backend.routes.removed) ∧
    (∀ (invocation : Invocation) (address : Address) (routes : List Route) (errors : Errors)
        (after : System), (∀ call, invocation.failure .rollback call = none) →
      reconcile invocation address routes (reached initial commands) = (errors, after) →
      (errors = [] →
        after.backend.addresses.present = initial.addresses ∪ {address} ∧
        after.backend.routes.present = initial.routes ∪ routes.toFinset) ∧
      (errors ≠ [] →
        after.reconciler = (reached initial commands).reconciler ∧
        after.backend.addresses.present =
          (reached initial commands).backend.addresses.present ∧
        after.backend.routes.present = (reached initial commands).backend.routes.present)) ∧
    (∀ (invocation : Invocation) (after : System),
      clear invocation (reached initial commands) = ([], after) →
        after.backend.addresses.present = initial.addresses ∧
        after.backend.routes.present = initial.routes) := by
  have inStep : InStep initial (reached initial commands) :=
    reached_inStep (stepsMeet_of_mem Command.step (fun command member =>
      (succeeds command member).undoSucceeds) initial.start)
  refine ⟨⟨inStep.addresses.removed_foreign, inStep.routes.removed_foreign⟩, ?_, ?_⟩
  · intro invocation address routes errors after rollbackSucceeds outcome
    refine ⟨?_, ?_⟩
    · intro silent
      rw [silent] at outcome
      exact reconcile_applied inStep outcome
    · intro reported
      exact reconcile_failed inStep (fun call _ => rollbackSucceeds call) outcome reported
  · intro invocation after cleared
    obtain ⟨errors, system, same, -, restored, -⟩ := clear_inStep inStep invocation
    rw [cleared] at same
    cases same
    exact restored rfl

/-- A route that could not be made is undone together with the one made before it. -/
theorem reconciler_touches_only_its_own_on_failure :
    (reconcile (failing [(.forward, .ensureRoute (overlayRoute 4))]) overlayAddress
        [overlayRoute 3, overlayRoute 4] (reached ⟨∅, {overlayRoute 2}⟩ appliedRun)).1 ≠ [] ∧
      (reconcile (failing [(.forward, .ensureRoute (overlayRoute 4))]) overlayAddress
        [overlayRoute 3, overlayRoute 4]
        (reached ⟨∅, {overlayRoute 2}⟩ appliedRun)).2.reconciler =
      (reached ⟨∅, {overlayRoute 2}⟩ appliedRun).reconciler := by
  have succeeds : ∀ command ∈ appliedRun, Command.RollbackSucceeds command := by
    intro command member
    cases List.mem_singleton.mp member
    intro call
    rfl
  have reported : (reconcile (failing [(.forward, .ensureRoute (overlayRoute 4))]) overlayAddress
      [overlayRoute 3, overlayRoute 4] (reached ⟨∅, {overlayRoute 2}⟩ appliedRun)).1 ≠ [] := by
    decide +kernel
  have outcome := (reconciler_touches_only_its_own ⟨∅, {overlayRoute 2}⟩ appliedRun succeeds).2.1
    (failing [(.forward, .ensureRoute (overlayRoute 4))]) overlayAddress
    [overlayRoute 3, overlayRoute 4] _ _ (by intro call; simp [failing]) rfl
  exact ⟨reported, (outcome.2 reported).1⟩

/-- In every run whose undoing calls succeed the registry is exactly what the
reconciler created and is present; then `Clear` with calls that all succeed
restores the initial content and a successful `Reconcile` has every requested
route present. -/
theorem registry_is_created_and_present (initial : Content) (commands : List Command)
    (undo : StepsMeet Command.step Command.UndoSucceeds commands initial.start) :
    (∀ route, (∃ key : String,
        (reached initial commands).reconciler.ownedRoutes[key]? = some route) ↔
      route ∈ (reached initial commands).backend.routes.created ∧
        route ∈ (reached initial commands).backend.routes.present) ∧
    (∀ address, ((reached initial commands).reconciler.addressOwned = true ∧
        (reached initial commands).reconciler.address = some address) ↔
      address ∈ (reached initial commands).backend.addresses.created ∧
        address ∈ (reached initial commands).backend.addresses.present) ∧
    (∀ invocation : Invocation, invocation.ctx = .live →
      (∀ call, invocation.failure .forward call = none) →
      ∃ after, clear invocation (reached initial commands) = ([], after) ∧
        after.backend.addresses.present = initial.addresses ∧
        after.backend.routes.present = initial.routes) ∧
    (∀ (invocation : Invocation) (address : Address) (routes : List Route) (after : System),
      reconcile invocation address routes (reached initial commands) = ([], after) →
        ∀ route ∈ routes, route ∈ after.backend.routes.present) := by
  have inStep : InStep initial (reached initial commands) := reached_inStep undo
  refine ⟨?_, ?_, ?_, ?_⟩
  · intro route
    rw [← mem_held]
    exact inStep.routes.owned_iff route
  · intro address
    rw [← inStep.addresses.owned_iff address, ownedAddresses]
    split_ifs with owned <;> simp [owned]
  · intro invocation live succeeds
    obtain ⟨errors, after, cleared, -, restored, quiet⟩ := clear_inStep inStep invocation
    have silent := quiet live succeeds
    subst silent
    exact ⟨after, cleared, restored rfl⟩
  · intro invocation address routes after applied route member
    rw [(reconcile_applied inStep applied).2]
    exact Finset.mem_union_right _ (List.mem_toFinset.mpr member)

/-- After a forward failure and a rollback whose own calls succeed, `Clear` empties the
backend again; route 2 was never added by the failed call, so its verdict is free. -/
theorem registry_is_created_and_present_after_failure :
    ∃ after, clear (failing []) (reached ⟨∅, ∅⟩
        [.reconcile (failing []) overlayAddress [overlayRoute 2],
          .reconcile (failing [(.forward, .ensureRoute (overlayRoute 4)),
            (.rollback, .removeRoute (overlayRoute 2))]) overlayAddress
            [overlayRoute 3, overlayRoute 4]]) = ([], after) ∧
      after.backend.addresses.present = ∅ ∧ after.backend.routes.present = ∅ := by
  refine (registry_is_created_and_present ⟨∅, ∅⟩ _ ?_).2.2.1 (failing []) rfl (fun _ => rfl)
  refine ⟨fun _ _ => rfl, ?_, trivial⟩
  unfold Command.UndoSucceeds Succeeds
  decide +kernel

/-- One forward failure and one failure of the rollback leave a created route in
the backend that the registry does not hold and that `Clear` does not remove. -/
theorem failed_rollback_loses_route :
    overlayRoute 3 ∈ (reached ⟨∅, ∅⟩ lostRun).backend.routes.created ∧
      overlayRoute 3 ∈ (reached ⟨∅, ∅⟩ lostRun).backend.routes.present ∧
      (∀ key : String,
        (reached ⟨∅, ∅⟩ lostRun).reconciler.ownedRoutes[key]? ≠ some (overlayRoute 3)) ∧
      (clear (failing []) (reached ⟨∅, ∅⟩ lostRun)).1 = [] ∧
      overlayRoute 3 ∈
        (clear (failing []) (reached ⟨∅, ∅⟩ lostRun)).2.backend.routes.present := by
  have registry : (reached ⟨∅, ∅⟩ lostRun).reconciler.ownedRoutes = ∅ :=
    ExtTreeMap.isEmpty_iff.mp (by decide +kernel)
  refine ⟨by decide +kernel, by decide +kernel, ?_, by decide +kernel, by decide +kernel⟩
  intro key
  rw [registry]
  simp

end Ipv6Mesh.NetwinOwnership
