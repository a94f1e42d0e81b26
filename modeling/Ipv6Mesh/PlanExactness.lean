import Ipv6Mesh.NetwinOwnership
import Ipv6Mesh.PlanAcceptance
import Ipv6Mesh.ReconcileApplier

/-!
# What an accepted plan contains

`NewApplier`, `Applier.plan`, `Configuration.Validate` and the checks at the
start of `RouteReconciler.Reconcile` belong to three packages. A plan has one
WireGuard peer for each peer of the snapshot, each with its own host and no
other, and one route for each of these hosts; whatever `plan` returns passes
the checks of the other two packages.
-/

namespace Ipv6Mesh.PlanExactness

open GoText GoNet GoFlow ControlModel WgntApi NetwinReconciler NetwinOwnership ReconcilePlan
  ReconcileApplier PlanAcceptance

def hostsOf (peers : List WireGuardPeer) : List NetPrefix :=
  peers.flatMap (·.allowedIPs)

structure ExactPeer (keepalive : Duration) (relay : Option RelayAssignment) (peer : Peer)
    (planned : WireGuardPeer) : Prop where
  key : parseKey peer.publicKey = some planned.publicKey
  nonzero : planned.publicKey.isZero = false
  host : ∃ host, ipv4Addr peer.virtualIPv4 = some host ∧ planned.allowedIPs = [⟨host, some 32⟩]
  endpoint : planned.endpoint = selectEndpoint peer relay
  keepalive : planned.persistentKeepalive = keepalive

structure LoopExact (keepalive : Duration) (localIP : Addr) (relay : Option RelayAssignment)
    (peers : List Peer) (seenKeys : List Key) (seenAddresses : List Addr)
    (planned : List WireGuardPeer × List Route) : Prop where
  peers : List.Forall₂ (ExactPeer keepalive relay) peers planned.1
  keys : (planned.1.map (·.publicKey)).Nodup
  newKeys : ∀ key ∈ planned.1.map (·.publicKey), key ∉ seenKeys
  hosts : (hostsOf planned.1).Nodup
  newHosts : ∀ network ∈ hostsOf planned.1, ∃ host, network = ⟨.v4 host, some 32⟩ ∧
    Addr.v4 host ≠ localIP ∧ Addr.v4 host ∉ seenAddresses
  routes : planned.2 = (hostsOf planned.1).map fun network => ⟨network, 0, .invalid, 0⟩

theorem ipv4Addr_is4 {ip : IP} {address : Addr} (read : ipv4Addr ip = some address) :
    ∃ host, address = .v4 host := by
  obtain ⟨bytes, -, rfl⟩ := Option.map_eq_some_iff.mp read
  exact ⟨_, rfl⟩

theorem planPeers_exact {applier : Applier} {localNodeID : String} {localIP : Addr}
    {relay : Option RelayAssignment} {index : Nat} {peers : List Peer} {seenKeys : List Key}
    {seenAddresses : List Addr} {planned : List WireGuardPeer × List Route}
    (accepted : planPeers applier localNodeID localIP relay index peers seenKeys seenAddresses =
      .ok planned) :
    LoopExact applier.persistentKeepalive localIP relay peers seenKeys seenAddresses planned := by
  induction peers generalizing index seenKeys seenAddresses planned with
  | nil =>
    cases accepted
    exact ⟨.nil, List.nodup_nil, by simp, List.nodup_nil, by simp [hostsOf], rfl⟩
  | cons peer rest ih =>
    obtain ⟨-, key, ⟨parsed, nonzero, newKey⟩, address, ⟨read, foreign, newAddress⟩, others,
      later, rfl⟩ := planPeers_cons_ok.mp accepted
    have tail := ih later
    obtain ⟨host, rfl⟩ := ipv4Addr_is4 read
    have hosts : hostsOf (plannedPeer applier relay peer key (.v4 host) :: others.1) =
        ⟨.v4 host, some 32⟩ :: hostsOf others.1 := rfl
    constructor
    · exact .cons ⟨parsed, nonzero, ⟨_, read, rfl⟩, rfl, rfl⟩ tail.peers
    · refine List.nodup_cons.mpr ⟨fun again => ?_, tail.keys⟩
      exact tail.newKeys key again List.mem_cons_self
    · refine List.forall_mem_cons.mpr ⟨newKey, fun other listed seen => ?_⟩
      exact tail.newKeys other listed (List.mem_cons_of_mem _ seen)
    · rw [hosts]
      refine List.nodup_cons.mpr ⟨fun again => ?_, tail.hosts⟩
      obtain ⟨other, same, -, new⟩ := tail.newHosts _ again
      have equal : Addr.v4 host = Addr.v4 other := congrArg NetPrefix.addr same
      exact new (equal ▸ List.mem_cons_self)
    · rw [hosts]
      refine List.forall_mem_cons.mpr ⟨⟨host, rfl, foreign, newAddress⟩, fun other listed => ?_⟩
      obtain ⟨found, shape, apart, new⟩ := tail.newHosts other listed
      exact ⟨found, shape, apart, fun seen => new (List.mem_cons_of_mem _ seen)⟩
    · rw [hosts, List.map_cons, ← tail.routes]
      rfl

section Interface

variable {luid : UInt64} (filled : luid ≠ 0)
include filled

theorem validateAddress_local (host : BitVec 32) :
    validateAddress ⟨.v4 host, 32, luid⟩ = .ok () := by
  simp [validateAddress, refuseRoute_ok, Addr.isValid, Addr.is4, filled]

theorem validateRoute_host (host : BitVec 32) :
    validateRoute ⟨⟨.v4 host, some 32⟩, luid, .invalid, 0⟩ = .ok () := by
  simp [validateRoute, check_eq_ok, refuseRoute_ok, NetPrefix.isValid, Addr.isValid, Addr.is4,
    filled]

theorem collectRoutes_hosts {hosts : List NetPrefix} (distinct : hosts.Nodup)
    (ipv4 : ∀ network ∈ hosts, ∃ host, network = ⟨.v4 host, some 32⟩) :
    ∃ desired, collectRoutes (hosts.map fun network => ⟨network, luid, .invalid, 0⟩) ∅ =
      .ok desired := by
  refine collectRoutes_accepts Keyed.empty ?_ ?_ ?_
  · intro route listed
    obtain ⟨network, requested, rfl⟩ := List.mem_map.mp listed
    obtain ⟨host, rfl⟩ := ipv4 network requested
    exact validateRoute_host filled host
  · exact distinct.map fun left right same => congrArg Route.destination same
  · intro route _
    rw [held_empty]
    exact Finset.notMem_empty route

end Interface

theorem newApplier_ok {options : Options} {applier : Applier} {interfaceName : String}
    (built : newApplier options = .ok (applier, interfaceName)) :
    applier.privateKey = options.privateKey ∧ applier.listenPort = options.portOrDefault ∧
      applier.persistentKeepalive = options.persistentKeepalive := by
  unfold newApplier at built
  split_ifs at built
  all_goals
    cases built
    exact ⟨rfl, rfl, rfl⟩

/-- The plan holds the options and one entry per peer of the snapshot, and nothing else. -/
structure ExactPlan (options : Options) (snapshot : NetworkSnapshot)
    (configuration : Configuration) (address : Address) (routes : List Route) : Prop where
  privateKey : configuration.privateKey = options.privateKey
  listenPort : configuration.listenPort = options.portOrDefault
  replaces : configuration.replacePeers = true
  peers : List.Forall₂
    (ExactPeer options.persistentKeepalive (snapshot.relayAssignment.or snapshot.relay))
    snapshot.peers configuration.peers
  keys : (configuration.peers.map (·.publicKey)).Nodup
  hosts : (hostsOf configuration.peers).Nodup
  localAddress : ipv4Addr snapshot.localVirtualIPv4 = some address.ip
  foreign : ⟨address.ip, some 32⟩ ∉ hostsOf configuration.peers
  routed : routes.map (·.destination) = hostsOf configuration.peers
  accepted : configuration.validate = .ok ()
  addressAccepted : ∀ luid ≠ 0, validateAddress (onInterface luid address routes).1 = .ok ()
  routesAccepted : ∀ luid ≠ 0,
    ∃ desired, collectRoutes (onInterface luid address routes).2 ∅ = .ok desired

theorem plan_exact {options : Options} {applier : Applier} {interfaceName : String}
    {snapshot : NetworkSnapshot} {configuration : Configuration} {address : Address}
    {routes : List Route} (built : newApplier options = .ok (applier, interfaceName))
    (planned : plan applier snapshot = .ok (configuration, address, routes)) :
    ExactPlan options snapshot configuration address routes := by
  obtain ⟨privateKey, listenPort, keepalive⟩ := newApplier_ok built
  obtain ⟨-, localIP, read, loop, looped, shape⟩ := plan_eq_ok.mp planned
  cases shape
  have exact_ := planPeers_exact looped
  obtain ⟨own, rfl⟩ := ipv4Addr_is4 read
  have onHosts : ∀ luid, (onInterface luid ⟨.v4 own, 32, 0⟩ loop.2).2 =
      (hostsOf loop.1).map fun network => ⟨network, luid, .invalid, 0⟩ := by
    intro luid
    rw [onInterface, exact_.routes, List.map_map]
    rfl
  constructor
  case privateKey => exact privateKey
  case listenPort => exact listenPort
  case replaces => rfl
  case peers => exact keepalive ▸ exact_.peers
  case keys => exact exact_.keys
  case hosts => exact exact_.hosts
  case localAddress => exact read
  case foreign =>
    intro listed
    obtain ⟨host, same, apart, -⟩ := exact_.newHosts _ listed
    exact apart (congrArg NetPrefix.addr same).symm
  case routed =>
    rw [exact_.routes, List.map_map]
    exact List.map_id _
  case accepted => exact validate_planned looped
  case addressAccepted =>
    intro luid filled
    exact validateAddress_local filled own
  case routesAccepted =>
    intro luid filled
    rw [onHosts luid]
    refine collectRoutes_hosts filled exact_.hosts fun network listed => ?_
    obtain ⟨host, same, -⟩ := exact_.newHosts network listed
    exact ⟨host, same⟩

/-- An applier plans exactly the plannable snapshots, and every plan it makes is
exact and passes the checks it meets later. -/
theorem accepted_plans_exact (options : Options) (snapshot : NetworkSnapshot) (applier : Applier)
    (interfaceName : String) (built : newApplier options = .ok (applier, interfaceName)) :
    (∀ configuration address routes,
        plan applier snapshot = .ok (configuration, address, routes) →
          ExactPlan options snapshot configuration address routes) ∧
      ((∃ planned, plan applier snapshot = .ok planned) ↔ Plannable snapshot) :=
  ⟨fun _ _ _ planned => plan_exact built planned, plan_accepts applier snapshot⟩

def plainOptions : Options :=
  { adapter := true, routes := true, privateKey := ⟨List.replicate 32 7, rfl⟩,
    interfaceName := "", listenPort := 0, persistentKeepalive := 25 * second }

def plainApplier : Applier where
  privateKey := ⟨List.replicate 32 7, rfl⟩
  listenPort := 51820
  persistentKeepalive := 25 * second
  privateKeyPresent := by decide
  keepaliveValid := by decide

def plainPeer (nodeID publicKey : String) (host : UInt8) : Peer :=
  { nodeID, displayName := nodeID, publicKey, virtualIPv4 := [10, 42, 0, host],
    node := ⟨nodeID, nodeID, publicKey, "p", "v", 0⟩,
    membership := ⟨"n", nodeID, [10, 42, 0, host], .member, .active⟩, endpoints := [] }

def plainSnapshot (generation : Int) : NetworkSnapshot :=
  { networkID := "n", generation, configVersion := generation, localNodeID := "a",
    localVirtualIPv4 := [10, 42, 0, 2],
    peers := [plainPeer "b" "AQAAAAAAAAAAAAAAAAAAAAAAAAAAAAAAAAAAAAAAAAA=" 3,
      plainPeer "c" "AgAAAAAAAAAAAAAAAAAAAAAAAAAAAAAAAAAAAAAAAAA=" 4],
    relayAssignment := none, relay := none, generatedAt := 1 }

theorem plain_snapshot_plans_exact :
    Plannable (plainSnapshot 1) ∧ ∃ configuration address routes,
      plan plainApplier (plainSnapshot 1) = .ok (configuration, address, routes) ∧
      configuration.peers.length = 2 ∧
      ExactPlan plainOptions (plainSnapshot 1) configuration address routes := by
  have exact_ := accepted_plans_exact plainOptions (plainSnapshot 1) plainApplier "IPv6Mesh" rfl
  have planned : ∃ configuration address routes,
      plan plainApplier (plainSnapshot 1) = .ok (configuration, address, routes) ∧
      configuration.peers.length = 2 := ⟨_, _, _, by rfl, by rfl⟩
  obtain ⟨configuration, address, routes, accepted, peers⟩ := planned
  exact ⟨exact_.2.mp ⟨_, accepted⟩, configuration, address, routes, accepted, peers,
    exact_.1 _ _ _ accepted⟩

end Ipv6Mesh.PlanExactness
