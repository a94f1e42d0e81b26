import Ipv6Mesh.EndpointSelection

/-!
# Which snapshots a plan accepts

`Applier.plan` goes through the peers with two growing sets, of keys and of
addresses. It accepts a snapshot exactly when the peers suit it one by one and
no key and no address is used twice; what it builds then passes its own final
check.
-/

namespace Ipv6Mesh.PlanAcceptance

open GoText GoNet GoFlow ControlModel WgntApi ReconcilePlan EndpointSelection

theorem refusePlan_ok {refused : Bool} {detail : String} {checked : Unit} :
    refusePlan refused detail = .ok checked ↔ refused = false := by
  cases refused <;> simp [refusePlan]

variable {peer : Peer}

theorem peerKey_ok {key : Key} :
    peerKey peer = .ok key ↔ parseKey peer.publicKey = some key := by
  unfold peerKey
  cases parseKey peer.publicKey <;> simp

theorem peerAddress_ok {localIP address : Addr} :
    peerAddress peer localIP = .ok address ↔
      ipv4Addr peer.virtualIPv4 = some address ∧ address ≠ localIP := by
  unfold peerAddress
  cases ipv4Addr peer.virtualIPv4 with
  | none => simp
  | some found =>
    by_cases same : found = localIP
    · refine iff_of_false (by simp [same]) ?_
      rintro ⟨equal, foreign⟩
      exact foreign (Option.some.inj equal ▸ same)
    · simp only [same, if_false, Except.ok.injEq, Option.some.injEq]
      exact ⟨fun equal => ⟨equal, equal ▸ same⟩, And.left⟩

section Peers

variable {applier : Applier} {localNodeID : String} {localIP : Addr}
  {relay : Option RelayAssignment}

def plannedPeer (applier : Applier) (relay : Option RelayAssignment) (peer : Peer) (key : Key)
    (address : Addr) : WireGuardPeer :=
  { publicKey := key, endpoint := selectEndpoint peer relay,
    persistentKeepalive := applier.persistentKeepalive, allowedIPs := [prefixFrom address 32] }

variable {rest : List Peer} {seenKeys : List Key} {seenAddresses : List Addr}
variable {planned : List WireGuardPeer × List WgntApi.Route}

theorem planPeers_cons_ok {index : Nat} :
    planPeers applier localNodeID localIP relay index (peer :: rest) seenKeys seenAddresses =
        .ok planned ↔
      (blank peer.nodeID = false ∧ peer.nodeID ≠ localNodeID) ∧
        ∃ key, (parseKey peer.publicKey = some key ∧ key.isZero = false ∧ key ∉ seenKeys) ∧
          ∃ address, (ipv4Addr peer.virtualIPv4 = some address ∧ address ≠ localIP ∧
              address ∉ seenAddresses) ∧
            ∃ others, planPeers applier localNodeID localIP relay (index + 1) rest
                (key :: seenKeys) (address :: seenAddresses) = .ok others ∧
              planned = (plannedPeer applier relay peer key address :: others.1,
                ⟨prefixFrom address 32, 0, .invalid, 0⟩ :: others.2) := by
  simp only [planPeers, bind_eq_ok, refusePlan_ok, peerKey_ok, peerAddress_ok,
    Bool.or_eq_false_iff, decide_eq_false_iff_not, Except.ok.injEq]
  constructor
  · rintro ⟨_, identity, key, parsed, _, nonzero, _, newKey, address, ⟨read, foreign⟩, _,
      newAddress, others, rest, rfl⟩
    exact ⟨identity, key, ⟨parsed, nonzero, newKey⟩, address, ⟨read, foreign, newAddress⟩, others,
      rest, rfl⟩
  · rintro ⟨identity, key, ⟨parsed, nonzero, newKey⟩, address, ⟨read, foreign, newAddress⟩, others,
      rest, rfl⟩
    exact ⟨(), identity, key, parsed, (), nonzero, (), newKey, address, ⟨read, foreign⟩, (),
      newAddress, others, rest, rfl⟩

structure Placed (localNodeID : String) (localIP : Addr) (peers : List Peer)
    (seenAddresses : List Addr) : Prop where
  identities : ∀ peer ∈ peers, blank peer.nodeID = false ∧ peer.nodeID ≠ localNodeID
  addresses : ∀ peer ∈ peers, ∃ address, ipv4Addr peer.virtualIPv4 = some address ∧
    address ≠ localIP ∧ address ∉ seenAddresses
  distinct : peers.Pairwise fun left right =>
    ipv4Addr left.virtualIPv4 ≠ ipv4Addr right.virtualIPv4

/-- Peers whose keys suit a plan: 32 bytes in base64, not zero, no two the same bytes. -/
structure Keyed (peers : List Peer) (seenKeys : List Key) : Prop where
  keys : ∀ peer ∈ peers, ∃ key, parseKey peer.publicKey = some key ∧ key.isZero = false ∧
    key ∉ seenKeys
  distinct : peers.Pairwise fun left right => parseKey left.publicKey ≠ parseKey right.publicKey

theorem distinct_cons {Value : Type} {read : Peer → Option Value} {Fits : Value → Prop}
    {seen : List Value} :
    ((∀ other ∈ peer :: rest, ∃ value, read other = some value ∧ Fits value ∧ value ∉ seen) ∧
        (peer :: rest).Pairwise fun left right => read left ≠ read right) ↔
      ∃ value, (read peer = some value ∧ Fits value ∧ value ∉ seen) ∧
        (∀ other ∈ rest, ∃ found, read other = some found ∧ Fits found ∧ found ∉ value :: seen) ∧
        rest.Pairwise fun left right => read left ≠ read right := by
  constructor
  · rintro ⟨each, distinct⟩
    obtain ⟨first, apart⟩ := List.pairwise_cons.mp distinct
    obtain ⟨value, given, fits⟩ := each peer List.mem_cons_self
    refine ⟨value, ⟨given, fits⟩, fun other listed => ?_, apart⟩
    obtain ⟨found, otherGiven, otherFits, new⟩ := each other (List.mem_cons_of_mem _ listed)
    refine ⟨found, otherGiven, otherFits, fun known => ?_⟩
    rcases List.mem_cons.mp known with rfl | earlier
    · exact first other listed (given.trans otherGiven.symm)
    · exact new earlier
  · rintro ⟨value, ⟨given, fits⟩, each, distinct⟩
    constructor
    · intro other listed
      rcases List.mem_cons.mp listed with rfl | later
      · exact ⟨value, given, fits⟩
      · obtain ⟨found, otherGiven, otherFits, new⟩ := each other later
        exact ⟨found, otherGiven, otherFits, fun known => new (List.mem_cons_of_mem _ known)⟩
    · refine List.pairwise_cons.mpr ⟨fun other listed same => ?_, distinct⟩
      obtain ⟨found, otherGiven, -, new⟩ := each other listed
      rw [given, otherGiven] at same
      exact new (Option.some.inj same ▸ List.mem_cons_self)

theorem placed_cons :
    Placed localNodeID localIP (peer :: rest) seenAddresses ↔
      (blank peer.nodeID = false ∧ peer.nodeID ≠ localNodeID) ∧
        ∃ address, (ipv4Addr peer.virtualIPv4 = some address ∧ address ≠ localIP ∧
            address ∉ seenAddresses) ∧
          Placed localNodeID localIP rest (address :: seenAddresses) := by
  constructor
  · rintro ⟨identities, addresses, distinct⟩
    obtain ⟨identity, others⟩ := List.forall_mem_cons.mp identities
    obtain ⟨address, fits, each, apart⟩ := distinct_cons.mp ⟨addresses, distinct⟩
    exact ⟨identity, address, fits, others, each, apart⟩
  · rintro ⟨identity, address, fits, others, each, apart⟩
    obtain ⟨addresses, distinct⟩ := distinct_cons.mpr ⟨address, fits, each, apart⟩
    exact ⟨List.forall_mem_cons.mpr ⟨identity, others⟩, addresses, distinct⟩

theorem keyed_cons :
    Keyed (peer :: rest) seenKeys ↔
      ∃ key, (parseKey peer.publicKey = some key ∧ key.isZero = false ∧ key ∉ seenKeys) ∧
        Keyed rest (key :: seenKeys) := by
  constructor
  · rintro ⟨keys, distinct⟩
    obtain ⟨key, fits, each, apart⟩ := distinct_cons.mp ⟨keys, distinct⟩
    exact ⟨key, fits, each, apart⟩
  · rintro ⟨key, fits, each, apart⟩
    obtain ⟨keys, distinct⟩ := distinct_cons.mpr ⟨key, fits, each, apart⟩
    exact ⟨keys, distinct⟩

theorem planPeers_accepts {peers : List Peer} (index : Nat) :
    (∃ planned, planPeers applier localNodeID localIP relay index peers seenKeys seenAddresses =
      .ok planned) ↔ Placed localNodeID localIP peers seenAddresses ∧ Keyed peers seenKeys := by
  induction peers generalizing index seenKeys seenAddresses with
  | nil =>
    refine iff_of_true ⟨([], []), rfl⟩ ⟨⟨?_, ?_, List.Pairwise.nil⟩, ?_, List.Pairwise.nil⟩
    all_goals
      intro peer listed
      cases listed
  | cons peer rest ih =>
    simp only [planPeers_cons_ok, placed_cons, keyed_cons]
    constructor
    · rintro ⟨_, identity, key, keyFits, address, addressFits, others, planned, rfl⟩
      obtain ⟨placed, keyed⟩ := (ih (index + 1)).mp ⟨others, planned⟩
      exact ⟨⟨identity, address, addressFits, placed⟩, key, keyFits, keyed⟩
    · rintro ⟨⟨identity, address, addressFits, placed⟩, key, keyFits, keyed⟩
      obtain ⟨others, planned⟩ := (ih (index + 1)).mpr ⟨placed, keyed⟩
      exact ⟨_, identity, key, keyFits, address, addressFits, others, planned, rfl⟩

theorem selectEndpoint_port (peer : Peer) (relay : Option RelayAssignment) :
    ((selectEndpoint peer relay).isValid && (selectEndpoint peer relay).port = 0) = false := by
  rcases selectEndpoint_cases peer relay with ⟨zero, -⟩ | ⟨chosen, -, usable, selected, -⟩
  · rw [zero]
    rfl
  · have port : (offerOf chosen).address.port ≠ 0 := usable.port
    rw [selected]
    simp [port]

theorem validateAllowedIPs_host {ip : IP} {address : Addr} (read : ipv4Addr ip = some address)
    (index : String) : validateAllowedIPs index [prefixFrom address 32] = .ok () := by
  obtain ⟨bytes, -, rfl⟩ := Option.map_eq_some_iff.mp read
  rfl

theorem validatePeers_planned {peers : List Peer} {index : Nat}
    (accepted : planPeers applier localNodeID localIP relay index peers seenKeys seenAddresses =
      .ok planned) (position : Nat) : validatePeers position planned.1 seenKeys = .ok () := by
  induction peers generalizing index position seenKeys seenAddresses planned with
  | nil =>
    cases accepted
    rfl
  | cons peer rest ih =>
    obtain ⟨-, key, ⟨-, nonzero, newKey⟩, address, ⟨read, -⟩, others, later, rfl⟩ :=
      planPeers_cons_ok.mp accepted
    simp only [validatePeers, plannedPeer, check_eq_ok, refuseConfig_ok]
    refine ⟨nonzero, decide_eq_false newKey, selectEndpoint_port peer relay, ?_,
      validateAllowedIPs_host read _, ih later (position + 1)⟩
    rw [applier.keepaliveValid]
    rfl

theorem validate_planned {peers : List Peer} {loop : List WireGuardPeer × List Route}
    (accepted : planPeers applier localNodeID localIP relay 0 peers [] [] = .ok loop) :
    Configuration.validate ⟨applier.privateKey, applier.listenPort, loop.1, true⟩ = .ok () := by
  simp only [Configuration.validate, check_eq_ok, refuseConfig_ok, applier.privateKeyPresent,
    true_and]
  exact validatePeers_planned accepted 0

theorem plan_eq_ok {snapshot : NetworkSnapshot} {planned : Configuration × Address × List Route} :
    plan applier snapshot = .ok planned ↔
      (blank snapshot.networkID = false ∧ blank snapshot.localNodeID = false) ∧
        ∃ localIP, ipv4Addr snapshot.localVirtualIPv4 = some localIP ∧
          ∃ loop, planPeers applier snapshot.localNodeID localIP
              (snapshot.relayAssignment.or snapshot.relay) 0 snapshot.peers [] [] = .ok loop ∧
            planned = (⟨applier.privateKey, applier.listenPort, loop.1, true⟩,
              ⟨localIP, 32, 0⟩, loop.2) := by
  unfold plan
  rw [check_eq_ok, refusePlan_ok, Bool.or_eq_false_iff]
  refine and_congr_right fun _ => ?_
  cases ipv4Addr snapshot.localVirtualIPv4 with
  | none => simp
  | some localIP =>
    simp only [bind_eq_ok, Option.some.injEq, exists_eq_left']
    refine exists_congr fun loop => and_congr_right fun accepted => ?_
    rw [validate_planned accepted]
    exact ⟨fun built => (Except.ok.inj built).symm, fun built => congrArg Except.ok built.symm⟩

/-- A network and a local node, a local IPv4 address, and peers that are placed
and keyed. -/
structure Plannable (snapshot : NetworkSnapshot) : Prop where
  network : blank snapshot.networkID = false
  node : blank snapshot.localNodeID = false
  peers : ∃ localIP, ipv4Addr snapshot.localVirtualIPv4 = some localIP ∧
    Placed snapshot.localNodeID localIP snapshot.peers [] ∧ Keyed snapshot.peers []

theorem plan_accepts (applier : Applier) (snapshot : NetworkSnapshot) :
    (∃ planned, plan applier snapshot = .ok planned) ↔ Plannable snapshot := by
  simp only [plan_eq_ok]
  constructor
  · rintro ⟨planned, ⟨network, node⟩, localIP, read, loop, accepted, -⟩
    exact ⟨network, node, localIP, read, (planPeers_accepts 0).mp ⟨loop, accepted⟩⟩
  · rintro ⟨network, node, localIP, read, suited⟩
    obtain ⟨loop, accepted⟩ := (planPeers_accepts 0).mpr suited
    exact ⟨_, ⟨network, node⟩, localIP, read, loop, accepted, rfl⟩

end Peers

end Ipv6Mesh.PlanAcceptance
