import Ipv6Mesh.RelayRecords
import Ipv6Mesh.RelayValidation

/-!
# Reconfiguration of a relay in place

A second `Apply` on the interface of the first keeps the routes of peers that
stay only while the relay's own address stays. When the address changes, it
adds the routes of all its peers before it deletes any, and the first one that
is already there stops it.
-/

namespace Ipv6Mesh.RelayReconfiguration

open GoNet RelayOutcomes RelayRecords RelayRoutes RelayValidation
open WgntApi (Key)
open RelayConfig (Config)
open Std (ExtTreeMap)

/-- The context is live and no command is refused. -/
structure Quiet (invocation : Invocation) : Prop where
  live : invocation.ctx = .live
  unrefused : ∀ command, invocation.refusal command = none

section Apply

variable {invocation : Invocation} {interfaceName : String} {local_ : Addr}
  {peers : List NetPrefix} {system : System} {base : Kernel}

theorem apply_quiet (quiet : Quiet invocation)
    (accepted : validateRelayRoutes interfaceName local_ peers = .ok ())
    (wellFormed : WellFormed system.manager)
    (here : ∀ entry ∈ recorded system.manager, entry.device = interfaceName)
    (elsewhere : ∀ entry ∈ base, entry.device ≠ interfaceName)
    (beside : system.kernel = base ∪ recorded system.manager) :
    ((∀ entry ∈ additions system.manager interfaceName local_ (desiredRoutes peers),
        entry ∉ recorded system.manager) ∧
      apply invocation interfaceName local_ peers system =
        ([], ⟨⟨desiredRoutes peers, local_, interfaceName⟩,
          base ∪ recorded ⟨desiredRoutes peers, local_, interfaceName⟩⟩)) ∨
    ((∃ entry ∈ additions system.manager interfaceName local_ (desiredRoutes peers),
        entry ∈ recorded system.manager) ∧
      ∃ error, apply invocation interfaceName local_ peers system = ([error], system)) := by
  obtain ⟨-, isV4, hosts⟩ := validateRelayRoutes_ok accepted
  have keyed := desiredRoutes_keyed fun peer member => (hosts peer member).1
  have live : contextError invocation.ctx = .ok () := by
    rw [quiet.live]
    rfl
  have onDevice : ∀ entry ∈ additions system.manager interfaceName local_ (desiredRoutes peers),
      entry.device = interfaceName := by
    intro entry added
    rcases (mem_additions keyed entry).mp added with ⟨-, rfl⟩ | ⟨key, -, -, rfl⟩ <;> rfl
  have addable_iff : Addable invocation
        (additions system.manager interfaceName local_ (desiredRoutes peers)) system.kernel ↔
      ∀ entry ∈ additions system.manager interfaceName local_ (desiredRoutes peers),
        entry ∉ recorded system.manager := by
    refine forall₂_congr fun entry added => ?_
    rw [beside, Finset.mem_union, not_or]
    exact ⟨fun free => free.2.2, fun fresh => ⟨quiet.unrefused _,
      fun other => elsewhere entry other (onDevice entry added), fresh⟩⟩
  rcases apply_outcome accepted live _ rfl with ⟨blocked, error, result⟩ |
    ⟨addable, done, left, split, -, -, next, ends⟩
  · rw [addable_iff] at blocked
    push Not at blocked
    exact Or.inr ⟨blocked, error, result⟩
  · refine Or.inl ⟨addable_iff.mp addable, ?_⟩
    have present : recorded system.manager ⊆ system.kernel := by
      rw [beside]
      exact Finset.subset_union_right
    have finished : left = [] := by
      cases left with
      | nil => rfl
      | cons stuck rest =>
        exact absurd (quiet.unrefused _)
          (refused_of_stuck wellFormed.keyed present split next stuck rfl)
    have untouched : base \ done.toFinset = base := by
      refine Finset.sdiff_eq_self_of_disjoint (Finset.disjoint_right.mpr ?_)
      intro entry stale other
      have listed : entry ∈ staleEntries invocation system.manager interfaceName local_
          (desiredRoutes peers) := by
        rw [split]
        exact List.mem_append_left _ (List.mem_toFinset.mp stale)
      exact elsewhere entry other (here entry (staleEntries_recorded wellFormed.keyed listed))
    rcases ends with ⟨-, result⟩ | ⟨unfinished, -⟩
    · rw [result, ← recorded_applied isV4 wellFormed.keyed keyed (addable_iff.mp addable),
        split, finished, List.append_nil, beside, Finset.union_assoc,
        Finset.union_sdiff_distrib, untouched]
    · exact absurd finished unfinished

end Apply

def applyConfig (invocation : Invocation) (config : Config) (system : System) : Errors × System :=
  apply invocation config.interfaceName config.virtualIPv4 config.overlay system

def carriedBy (interfaceName : String) (kernel : Kernel) : Kernel :=
  kernel.filter fun entry => entry.device = interfaceName

def entriesOf (config : Config) : Kernel :=
  insert (addressEntry config.interfaceName config.virtualIPv4)
    (config.overlay.map (routeEntry config.interfaceName)).toFinset

def managerOf (config : Config) : RouteManager :=
  ⟨desiredRoutes config.overlay, config.virtualIPv4, config.interfaceName⟩

section Sound

variable {config : Config} {served : List (Key × BitVec 32)}

theorem hosted (sound : SoundConfig config served) :
    ∀ peer ∈ config.peers, ∃ host, peer.virtualIPv4 = .v4 host := by
  have each : ∀ {peers : List RelayConfig.Peer} {served : List (Key × BitVec 32)},
      List.Forall₂ (fun peer identity => Serves config.virtualIPv4 peer identity.1 identity.2)
        peers served →
      ∀ peer ∈ peers, ∃ host, peer.virtualIPv4 = .v4 host := by
    intro peers served serves
    induction serves with
    | nil => simp
    | cons here _ ih => exact List.forall_mem_cons.mpr ⟨⟨_, here.address⟩, ih⟩
  exact each sound.peers.serves

theorem overlay_hosts (sound : SoundConfig config served) :
    ∀ network ∈ config.overlay, HostRoute network := by
  intro network listed
  obtain ⟨peer, member, rfl⟩ := List.mem_map.mp listed
  obtain ⟨host, address⟩ := hosted sound peer member
  exact ⟨host, by rw [address, prefixFrom_host]⟩

theorem foldl_insert_isSome (rest : List NetPrefix) (map : ExtTreeMap String NetPrefix)
    (key : String) :
    (rest.foldl (fun desired peer => desired.insert (routeKey peer) peer.masked)
        map)[key]?.isSome = true ↔
      map[key]?.isSome = true ∨ ∃ peer ∈ rest, routeKey peer = key := by
  induction rest generalizing map with
  | nil => simp
  | cons peer rest ih =>
    rw [List.foldl_cons, ih, GoMap.getElem?_insert]
    by_cases same : routeKey peer = key
    · simp [same]
    · simp [same]

theorem desired_isSome (sound : SoundConfig config served) {key : String} :
    (desiredRoutes config.overlay)[key]?.isSome = true ↔
      ∃ network ∈ config.overlay, network.toText = key := by
  rw [desiredRoutes, foldl_insert_isSome]
  simp only [ExtTreeMap.getElem?_empty, Option.isSome_none, Bool.false_eq_true, false_or]
  refine exists_congr fun network => and_congr_right fun listed => ?_
  rw [(overlay_hosts sound network listed).routeKey]

theorem keyed_managerOf (sound : SoundConfig config served) :
    Keyed (managerOf config).owned := desiredRoutes_keyed (overlay_hosts sound)

theorem wellFormed_managerOf (sound : SoundConfig config served) :
    WellFormed (managerOf config) := by
  obtain ⟨named, isV4, -⟩ := validateRelayRoutes_ok sound.passes.routes
  exact ⟨keyed_managerOf sound, Or.inr ⟨isV4, named⟩⟩

theorem recorded_managerOf (sound : SoundConfig config served) :
    recorded (managerOf config) = entriesOf config := by
  ext entry
  obtain ⟨host, address, -⟩ := sound.address
  rw [mem_recorded (keyed_managerOf sound), entriesOf, Finset.mem_insert, List.mem_toFinset,
    List.mem_map, or_comm]
  refine or_congr ?_ ?_
  · exact and_iff_right (by rw [managerOf, address]; rfl)
  · simp only [managerOf, desired_isSome sound]
    constructor
    · rintro ⟨_, ⟨network, listed, rfl⟩, rfl⟩
      exact ⟨network, listed, rfl⟩
    · rintro ⟨network, listed, rfl⟩
      exact ⟨_, ⟨network, listed, rfl⟩, rfl⟩

theorem recorded_device (sound : SoundConfig config served) :
    ∀ entry ∈ recorded (managerOf config), entry.device = config.interfaceName := by
  rw [recorded_managerOf sound]
  intro entry listed
  rcases Finset.mem_insert.mp listed with rfl | route
  · rfl
  · obtain ⟨network, -, rfl⟩ := List.mem_map.mp (List.mem_toFinset.mp route)
    rfl

end Sound

/-- The relay keeps its address, or no peer of the new configuration has the
address of an old one. -/
def Compatible (first second : Config) : Prop :=
  second.virtualIPv4 = first.virtualIPv4 ∨
    ∀ peer ∈ second.peers, ∀ other ∈ first.peers, peer.virtualIPv4 ≠ other.virtualIPv4

theorem toText_overlay {left right : Addr} (leftHost : ∃ host, left = .v4 host)
    (rightHost : ∃ host, right = .v4 host) :
    (prefixFrom left 32).toText = (prefixFrom right 32).toText ↔ left = right := by
  obtain ⟨leftHost, rfl⟩ := leftHost
  obtain ⟨rightHost, rfl⟩ := rightHost
  refine ⟨fun same => ?_, fun same => by rw [same]⟩
  rw [prefixFrom_host, prefixFrom_host, ← HostRoute.routeKey ⟨leftHost, rfl⟩,
    ← HostRoute.routeKey ⟨rightHost, rfl⟩] at same
  rw [routeKey_injective same]

theorem addressEntry_injective {device : String} {left right : Addr}
    (same : addressEntry device left = addressEntry device right) : left = right := by
  have targets : String.ofList left.toText ++ "/32" = String.ofList right.toText ++ "/32" :=
    congrArg Entry.target same
  rw [String.append_left_inj] at targets
  exact Addr.toText_injective (String.ofList_injective targets)

section Compatible

variable {first second : Config} {firstServed secondServed : List (Key × BitVec 32)}
  (firstSound : SoundConfig first firstServed) (secondSound : SoundConfig second secondServed)

include firstSound secondSound

theorem shared_route_iff :
    (∃ key : String, (desiredRoutes second.overlay)[key]?.isSome = true ∧
        (desiredRoutes first.overlay)[key]?.isSome = true) ↔
      ∃ peer ∈ second.peers, ∃ other ∈ first.peers, peer.virtualIPv4 = other.virtualIPv4 := by
  simp only [desired_isSome firstSound, desired_isSome secondSound]
  simp only [Config.overlay, List.mem_map, exists_exists_and_eq_and]
  constructor
  · rintro ⟨peer, listed, other, otherListed, same⟩
    refine ⟨peer, listed, other, otherListed, ?_⟩
    exact ((toText_overlay (hosted firstSound other otherListed)
      (hosted secondSound peer listed)).mp same).symm
  · rintro ⟨peer, listed, other, otherListed, same⟩
    exact ⟨peer, listed, other, otherListed, by rw [same]⟩

theorem fresh_iff_compatible (sameInterface : second.interfaceName = first.interfaceName) :
    (∀ entry ∈ additions (managerOf first) second.interfaceName second.virtualIPv4
        (desiredRoutes second.overlay), entry ∉ recorded (managerOf first)) ↔
      Compatible first second := by
  have firstKeyed := keyed_managerOf firstSound
  have secondKeyed : Keyed (desiredRoutes second.overlay) := keyed_managerOf secondSound
  simp only [mem_additions secondKeyed, mem_recorded firstKeyed]
  by_cases kept : second.virtualIPv4 = first.virtualIPv4
  · -- the same address: only routes that are not owned are added
    have unmoved : (managerOf first).unmoved second.interfaceName second.virtualIPv4 = true := by
      simp [RouteManager.unmoved, managerOf, sameInterface, kept]
    refine iff_of_true ?_ (Or.inl kept)
    rintro entry (⟨moved, -⟩ | ⟨key, -, unowned, rfl⟩)
    · rw [unmoved] at moved
      cases moved
    · rintro (⟨other, owned, same⟩ | ⟨-, same⟩)
      · obtain rfl : key = other := congrArg Entry.target same
        exact unowned ⟨owned, unmoved⟩
      · cases congrArg Entry.kind same
  · -- another address: it is new, and every route of the second is added
    have moved : (managerOf first).unmoved second.interfaceName second.virtualIPv4 = false := by
      simp [RouteManager.unmoved, managerOf, Ne.symm kept]
    have shared := shared_route_iff firstSound secondSound
    constructor
    · intro fresh
      refine Or.inr fun peer listed other otherListed same => ?_
      obtain ⟨key, wanted, owned⟩ := shared.mpr ⟨peer, listed, other, otherListed, same⟩
      refine fresh ⟨.route, key, second.interfaceName⟩
        (Or.inr ⟨key, wanted, fun both => (by simp [moved] at both), rfl⟩)
        (Or.inl ⟨key, owned, ?_⟩)
      rw [sameInterface]
      rfl
    · rintro (same | apart) entry
      · exact absurd same kept
      · rintro (⟨-, rfl⟩ | ⟨key, wanted, -, rfl⟩) (⟨other, owned, same⟩ | ⟨-, same⟩)
        · cases congrArg Entry.kind same
        · rw [sameInterface] at same
          exact kept (addressEntry_injective same)
        · obtain rfl : key = other := congrArg Entry.target same
          obtain ⟨peer, listed, other, otherListed, equal⟩ := shared.mp ⟨key, wanted, owned⟩
          exact apart peer listed other otherListed equal
        · cases congrArg Entry.kind same

end Compatible

theorem carriedBy_union {interfaceName : String} {base entries : Kernel}
    (clean : carriedBy interfaceName base = ∅)
    (here : ∀ entry ∈ entries, entry.device = interfaceName) :
    carriedBy interfaceName (base ∪ entries) = entries := by
  rw [carriedBy, Finset.filter_union, ← carriedBy, clean, Finset.empty_union]
  exact Finset.filter_true_of_mem here

/-- After a first configuration on a clean interface, a second one is carried
exactly or not at all; it is carried exactly when the two are compatible. -/
theorem reconfigured_in_place_iff (first second : Config) (firstValid : first.validate = .ok ())
    (secondValid : second.validate = .ok ())
    (sameInterface : second.interfaceName = first.interfaceName) (base : Kernel)
    (clean : carriedBy first.interfaceName base = ∅) (early late : Invocation)
    (earlyQuiet : Quiet early) (lateQuiet : Quiet late) :
    let applied := applyConfig early first ⟨newRouteManager, base⟩
    let reapplied := applyConfig late second applied.2
    (applied.1 = [] ∧ carriedBy first.interfaceName applied.2.kernel = entriesOf first) ∧
      ((reapplied.1 = [] ∧
          carriedBy first.interfaceName reapplied.2.kernel = entriesOf second) ↔
        Compatible first second) := by
  obtain ⟨firstServed, firstSound⟩ := sound_of_validate firstValid
  obtain ⟨secondServed, secondSound⟩ := sound_of_validate secondValid
  have elsewhere : ∀ entry ∈ base, entry.device ≠ first.interfaceName :=
    fun entry listed => Finset.filter_eq_empty_iff.mp clean listed
  have firstHere := recorded_device firstSound
  have applied : applyConfig early first ⟨newRouteManager, base⟩ =
      ([], ⟨managerOf first, base ∪ recorded (managerOf first)⟩) := by
    rcases @apply_quiet early first.interfaceName first.virtualIPv4 first.overlay
      ⟨newRouteManager, base⟩ base earlyQuiet firstSound.passes.routes wellFormed_new
      (by simp [recorded_new]) elsewhere (by simp [recorded_new]) with
      ⟨-, result⟩ | ⟨⟨entry, -, known⟩, -⟩
    · exact result
    · simp [recorded_new] at known
  dsimp only
  rw [applied]
  refine ⟨⟨rfl, ?_⟩, ?_⟩
  · rw [carriedBy_union clean firstHere, recorded_managerOf firstSound]
  · rw [← fresh_iff_compatible firstSound secondSound sameInterface]
    rcases @apply_quiet late second.interfaceName second.virtualIPv4 second.overlay
      ⟨managerOf first, base ∪ recorded (managerOf first)⟩ base lateQuiet
      secondSound.passes.routes (wellFormed_managerOf firstSound)
      (by rw [sameInterface]; exact firstHere) (by rw [sameInterface]; exact elsewhere) rfl with
      ⟨fresh, result⟩ | ⟨⟨entry, added, known⟩, error, result⟩
    · refine iff_of_true ?_ fresh
      rw [applyConfig, result]
      refine ⟨rfl, ?_⟩
      rw [← recorded_managerOf secondSound]
      exact carriedBy_union clean (sameInterface ▸ recorded_device secondSound)
    · refine iff_of_false ?_ fun fresh => fresh entry added known
      rw [applyConfig, result]
      exact fun succeeded => List.cons_ne_nil _ _ succeeded.1

def changedPeers : Config :=
  { twoPeerRelay with peers :=
      [⟨"b", "AgAAAAAAAAAAAAAAAAAAAAAAAAAAAAAAAAAAAAAAAAA=", .v4 0x0a000003, AddrPort.zero⟩,
        ⟨"c", "AwAAAAAAAAAAAAAAAAAAAAAAAAAAAAAAAAAAAAAAAAA=", .v4 0x0a000004, AddrPort.zero⟩] }

theorem quiet_refusing : Quiet (refusing none) := ⟨rfl, fun _ => rfl⟩

theorem changed_peers_applied_in_place :
    (applyConfig (refusing none) changedPeers
      (applyConfig (refusing none) twoPeerRelay start).2).1 = [] ∧
    (applyConfig (refusing none) changedPeers
      (applyConfig (refusing none) twoPeerRelay start).2).2.kernel.card = 3 :=
  have compatible : Compatible twoPeerRelay changedPeers := Or.inl rfl
  ⟨((reconfigured_in_place_iff twoPeerRelay changedPeers (by decide +kernel) (by decide +kernel) rfl
    ∅ rfl (refusing none) (refusing none) quiet_refusing quiet_refusing).2.mpr compatible).1,
    by decide +kernel⟩

def movedRelay : Config := { twoPeerRelay with virtualIPv4 := .v4 0x0a000009 }

theorem moved_relay_keeps_old_entries :
    twoPeerRelay.validate = .ok () ∧ movedRelay.validate = .ok () ∧
    (applyConfig (refusing none) movedRelay
      (applyConfig (refusing none) twoPeerRelay start).2).1 =
        [.wrapped "add relay overlay route 10.0.0.2/32" .alreadyPresent] ∧
    (applyConfig (refusing none) movedRelay
      (applyConfig (refusing none) twoPeerRelay start).2).2.kernel = entriesOf twoPeerRelay := by
  decide +kernel

end Ipv6Mesh.RelayReconfiguration
