import Ipv6Mesh.ReconcileGenerations
import Ipv6Mesh.SnapshotPlans
import Ipv6Mesh.WireSnapshot

/-!
# A snapshot on both sides of the wire

Each record is written with the names and texts that its reader expects, so what
the server writes decodes to the snapshot it was made from, up to the byte length
of its addresses and the second copy of the relay. The records of a reachable
repository are valid, which is what the writer needs.
-/

namespace Ipv6Mesh.WireRoundTrip

open GoText GoNet GoFlow GoJson ControlModel ControlValidation WireSnapshot

variable {ip : IP}

def wide (ip : IP) : IP := (to16 ip).getD ip

def Sized (ip : IP) : Prop := ip.length = 4 ∨ ip.length = 16

theorem to16_of_sized (sized : Sized ip) : to16 ip = some (wide ip) := by
  rcases sized with four | sixteen
  · simp [wide, to16, four]
  · simp [wide, to16, sixteen]

theorem sized_of_to16 (long : (to16 ip).isSome = true) : Sized ip := by
  unfold to16 at long
  split_ifs at long with four sixteen
  · exact .inl four
  · exact .inr sixteen
  · cases long

theorem sized_of_to4 (short : (to4 ip).isSome = true) : Sized ip := by
  unfold to4 at short
  split_ifs at short with four mapped
  · exact .inl four
  · exact .inr mapped.1
  · cases short

theorem to4_wide (sized : Sized ip) : to4 (wide ip) = to4 ip := by
  rcases sized with four | sixteen
  · have long : wide ip = v4InV6Prefix ++ ip := by simp [wide, to16, four]
    have extended : (v4InV6Prefix ++ ip).length = 16 := by
      rw [List.length_append, four]
      rfl
    rw [to4_of_length four, long, to4, if_neg (by omega), if_pos ⟨extended, rfl⟩]
    rfl
  · have same : wide ip = ip := by simp [wide, to16, sixteen]
    rw [same]

theorem text_wide (sized : Sized ip) : text (wide ip) = text ip := by
  cases converted : to4 ip with
  | some bytes =>
    rw [text_of_to4 converted]
    exact text_of_to4 ((to4_wide sized).trans converted)
  | none =>
    have sixteen : ip.length = 16 := sized.resolve_left fun four => by
      rw [to4_of_length four] at converted
      cases converted
    have same : wide ip = ip := by simp [wide, to16, sixteen]
    rw [same]

theorem wide_ne_nil (sized : Sized ip) : wide ip ≠ [] := by
  rcases sized with four | sixteen
  · simp [wide, to16, four, v4InV6Prefix]
  · have same : wide ip = ip := by simp [wide, to16, sixteen]
    rw [same]
    rintro rfl
    cases sixteen

theorem ne_nil_of_sized (sized : Sized ip) : ip ≠ [] := by
  rintro rfl
  rcases sized with four | sixteen
  · cases four
  · cases sixteen

theorem ipInto_ipJson (sized : Sized ip) (old : IP) :
    ipInto (ipJson ip) old = some (wide ip) := by
  have read := parseIP_text (to16_of_sized sized)
  have written : text ip ≠ "" := by
    intro empty
    rw [empty] at read
    cases read
  rw [ipJson, ipText, if_neg (ne_nil_of_sized sized), ipInto, textInto, unmarshalIP,
    if_neg written, read]

variable {endpoint : EndpointCandidate} {assignment : RelayAssignment}

section Records

variable (fold : String → String) {clock : Rfc3339}

theorem timeInto_timeJson {instant : Time} (dated : (clock.format instant).isSome = true)
    (old : Time) : timeInto clock (timeJson clock instant) old = some instant := by
  obtain ⟨written, format⟩ := Option.isSome_iff_exists.mp dated
  rw [timeJson, format, Option.getD_some, timeInto, clock.reads format, Option.map_some]

def nodeWire (node : Node) : NodeWire :=
  ⟨node.id, node.displayName, node.publicKey, node.platform, node.clientVersion, node.lastSeen⟩

def membershipWire (membership : Membership) : MembershipWire :=
  ⟨membership.networkID, membership.nodeID, wide membership.virtualIPv4, roleText membership.role,
    membershipStatusText membership.status⟩

def endpointWire (endpoint : EndpointCandidate) : EndpointWire :=
  ⟨endpoint.nodeID, wide endpoint.address, endpoint.port, familyText endpoint.family,
    endpoint.interface, endpoint.priority, endpoint.observedAt⟩

def relayWire (assignment : RelayAssignment) : RelayWire :=
  ⟨assignment.id, assignment.networkID, assignment.nodeID, assignment.relayNodeID,
    wide assignment.address, assignment.port, familyText assignment.family,
    relayStatusText assignment.status, assignment.assignedAt, assignment.expiresAt⟩

def peerWire (peer : Peer) : PeerWire :=
  ⟨peer.nodeID, peer.displayName, peer.publicKey, wide peer.virtualIPv4, nodeWire peer.node,
    membershipWire peer.membership, peer.endpoints.map endpointWire⟩

def snapshotWire (snapshot : NetworkSnapshot) : SnapshotWire :=
  ⟨snapshot.networkID, snapshot.generation, snapshot.configVersion, snapshot.localNodeID,
    wide snapshot.localVirtualIPv4, snapshot.peers.map peerWire, (relayOf snapshot).map relayWire,
    snapshot.generatedAt⟩

theorem structInto_node {node : Node} (dated : (clock.format node.lastSeen).isSome = true)
    (old : NodeWire) :
    structInto fold (nodeFields clock) (apiNodeResponse clock node) old = some (nodeWire node) := by
  simp [structInto, apiNodeResponse, decodeMembers, findField, nodeFields, structField, stringInto,
    timeInto_timeJson dated, nodeWire]

theorem structInto_membership {membership : Membership} (sized : Sized membership.virtualIPv4)
    (old : MembershipWire) :
    structInto fold membershipFields (apiMembershipResponse membership) old =
      some (membershipWire membership) := by
  simp [structInto, apiMembershipResponse, decodeMembers, findField, membershipFields, structField,
    stringInto, ipInto_ipJson sized, membershipWire]

theorem structInto_endpoint (sized : Sized endpoint.address) (low : 0 ≤ endpoint.priority)
    (high : endpoint.priority ≤ maxInt64) (dated : (clock.format endpoint.observedAt).isSome = true)
    (old : EndpointWire) :
    structInto fold (endpointFields clock) (apiEndpointResponse clock endpoint) old =
      some (endpointWire endpoint) := by
  have priority : parseInt (formatInt endpoint.priority) = some endpoint.priority :=
    parseInt_formatInt (by omega) high
  simp [structInto, apiEndpointResponse, decodeMembers, findField, endpointFields, structField,
    stringInto, int64Into, uint16Into_formatInt, priority, ipInto_ipJson sized,
    timeInto_timeJson dated, endpointWire]

theorem structInto_relay (sized : Sized assignment.address)
    (dated : ∀ instant ∈ relayTimes assignment, (clock.format instant).isSome = true) :
    structInto fold (relayFields clock) (apiRelayAssignmentResponse clock assignment) .zero =
      some (relayWire assignment) := by
  have assigned := dated assignment.assignedAt List.mem_cons_self
  cases expiry : assignment.expiresAt with
  | none =>
    simp [structInto, apiRelayAssignmentResponse, decodeMembers, findField, relayFields,
      structField, stringInto, uint16Into_formatInt, ipInto_ipJson sized,
      timeInto_timeJson assigned, expiry, relayWire, RelayWire.zero]
  | some expiresAt =>
    have expires := dated expiresAt (by simp [relayTimes, expiry])
    have pointed : pointerInto 0 (timeInto clock) (timeJson clock expiresAt) none =
        some (some expiresAt) := by
      have read := timeInto_timeJson expires 0
      rw [timeJson] at read ⊢
      rw [pointerInto, Option.getD_none, read, Option.map_some]
      intro null
      cases null
    simp [structInto, apiRelayAssignmentResponse, decodeMembers, findField, relayFields,
      structField, stringInto, uint16Into_formatInt, ipInto_ipJson sized,
      timeInto_timeJson assigned, pointed, expiry, relayWire, RelayWire.zero]

end Records

theorem validateEndpointAddress_ok {model : String} {address : IP} {family : EndpointFamily}
    (valid : validateEndpointAddress model address family = .ok ()) :
    Sized address ∧ familyOf (familyText family) = family := by
  rcases DbRows.validateEndpointAddress_ok valid with ⟨rfl, bytes, short⟩ | ⟨rfl, -, bytes, long⟩
  · exact ⟨sized_of_to4 (by rw [short]; rfl), rfl⟩
  · exact ⟨sized_of_to16 (by rw [long]; rfl), by decide⟩

theorem validateEndpointCandidate_ok (valid : validateEndpointCandidate endpoint = .ok ()) :
    Sized endpoint.address ∧ familyOf (familyText endpoint.family) = endpoint.family ∧
      0 ≤ endpoint.priority ∧ endpoint.priority ≤ maxInt64 := by
  simp only [validateEndpointCandidate, required, check_eq_ok, invalidWhen_ok,
    Bool.or_eq_false_iff, decide_eq_false_iff_not] at valid
  obtain ⟨-, address, -, -, ⟨low, high⟩, -⟩ := valid
  obtain ⟨sized, family⟩ := validateEndpointAddress_ok address
  have small : maxPostgresInteger ≤ maxInt64 := by decide
  exact ⟨sized, family, by omega, by omega⟩

theorem validateMembership_wire {membership : Membership}
    (valid : validateMembership membership = .ok ()) :
    Sized membership.virtualIPv4 ∧ roleOf (roleText membership.role) = membership.role ∧
      membershipStatusOf (membershipStatusText membership.status) = membership.status := by
  simp only [validateMembership, required, invalidWhen_bind_ok, invalidWhen_ok] at valid
  obtain ⟨-, -, address, role, status⟩ := valid
  refine ⟨sized_of_to4 (Option.isNone_eq_false_iff.mp address), ?_, ?_⟩
  · cases known : membership.role with
    | unsupported text =>
      rw [known] at role
      cases role
    | _ => decide
  · cases known : membership.status with
    | unsupported text =>
      rw [known] at status
      cases status
    | _ => decide

theorem validateRelayAssignment_wire (valid : validateRelayAssignment assignment = .ok ()) :
    Sized assignment.address ∧ familyOf (familyText assignment.family) = assignment.family ∧
      relayStatusOf (relayStatusText assignment.status) = assignment.status := by
  simp only [validateRelayAssignment, required, check_eq_ok, invalidWhen_ok] at valid
  obtain ⟨-, -, -, -, -, address, -, status, -⟩ := valid
  obtain ⟨sized, family⟩ := validateEndpointAddress_ok address
  refine ⟨sized, family, ?_⟩
  cases known : assignment.status with
  | unsupported text =>
    rw [known] at status
    cases status
  | _ => decide

structure ValidSnapshot (snapshot : NetworkSnapshot) : Prop where
  networkID : blank snapshot.networkID = false
  localNodeID : blank snapshot.localNodeID = false
  localAddress : (to4 snapshot.localVirtualIPv4).isSome = true
  addresses : ∀ peer ∈ snapshot.peers, peer.virtualIPv4 = peer.membership.virtualIPv4
  memberships : ∀ peer ∈ snapshot.peers, validateMembership peer.membership = .ok ()
  endpoints : ∀ peer ∈ snapshot.peers, ∀ endpoint ∈ peer.endpoints,
    validateEndpointCandidate endpoint = .ok ()
  relay : ∀ assignment, relayOf snapshot = some assignment →
    validateRelayAssignment assignment = .ok ()

section Snapshots

/-- A snapshot as the client holds it: addresses have sixteen bytes, and the
second copy of the assignment is not sent. -/
def receivedEndpoint (endpoint : EndpointCandidate) : EndpointCandidate :=
  { endpoint with address := wide endpoint.address }

def receivedPeer (peer : Peer) : Peer :=
  { peer with
    virtualIPv4 := wide peer.virtualIPv4
    membership := { peer.membership with virtualIPv4 := wide peer.membership.virtualIPv4 }
    endpoints := peer.endpoints.map receivedEndpoint }

def receivedRelay (assignment : RelayAssignment) : RelayAssignment :=
  { assignment with address := wide assignment.address }

def received (snapshot : NetworkSnapshot) : NetworkSnapshot :=
  { snapshot with
    localVirtualIPv4 := wide snapshot.localVirtualIPv4
    peers := snapshot.peers.map receivedPeer
    relayAssignment := (relayOf snapshot).map receivedRelay
    relay := none }

variable (fold : String → String) {clock : Rfc3339} {snapshot : NetworkSnapshot}

theorem dated_peer (dated : ∀ instant ∈ snapshotTimes snapshot,
      (clock.format instant).isSome = true) {peer : Peer} (listed : peer ∈ snapshot.peers) :
    (clock.format peer.node.lastSeen).isSome = true ∧ ∀ endpoint ∈ peer.endpoints,
      (clock.format endpoint.observedAt).isSome = true := by
  refine ⟨dated _ ?_, fun endpoint shown => dated _ ?_⟩
  · simp only [snapshotTimes, List.mem_append, List.mem_cons, List.mem_flatMap]
    exact .inl (.inr ⟨peer, listed, .inl rfl⟩)
  · simp only [snapshotTimes, List.mem_append, List.mem_cons, List.mem_flatMap]
    exact .inl (.inr ⟨peer, listed, .inr (List.mem_map_of_mem shown)⟩)

theorem structInto_peer (valid : ValidSnapshot snapshot)
    (dated : ∀ instant ∈ snapshotTimes snapshot, (clock.format instant).isSome = true)
    {peer : Peer} (listed : peer ∈ snapshot.peers) :
    structInto fold (peerFields fold clock) (peerResponse clock peer) .zero =
      some (peerWire peer) := by
  obtain ⟨seen, observed⟩ := dated_peer dated listed
  obtain ⟨sized, -, -⟩ := validateMembership_wire (valid.memberships peer listed)
  have shown : Sized peer.virtualIPv4 := valid.addresses peer listed ▸ sized
  have endpoints : sliceInto .zero (structInto fold (endpointFields clock))
      (.array (peer.endpoints.map (apiEndpointResponse clock))) [] =
        some (peer.endpoints.map endpointWire) := by
    refine sliceInto_map fun endpoint member => ?_
    obtain ⟨placed, -, low, high⟩ :=
      validateEndpointCandidate_ok (valid.endpoints peer listed endpoint member)
    exact structInto_endpoint fold placed low high (observed endpoint member) _
  have node := structInto_node fold seen .zero
  have membership := structInto_membership fold sized .zero
  rw [peerResponse, structInto]
  simp [decodeMembers, findField, peerFields, structField, stringInto, ipInto_ipJson shown,
    PeerWire.zero, node, membership, endpoints, peerWire]

theorem structInto_snapshot (valid : ValidSnapshot snapshot)
    (dated : ∀ instant ∈ snapshotTimes snapshot, (clock.format instant).isSome = true)
    (generation : parseInt (formatInt snapshot.generation) = some snapshot.generation)
    (version : parseInt (formatInt snapshot.configVersion) = some snapshot.configVersion) :
    structInto fold (snapshotFields fold clock) (snapshotResponse clock snapshot) .zero =
      some (snapshotWire snapshot) := by
  have generated := dated snapshot.generatedAt (by simp [snapshotTimes])
  have sized := sized_of_to4 valid.localAddress
  have peers : sliceInto .zero (structInto fold (peerFields fold clock))
      (.array (snapshot.peers.map (peerResponse clock))) [] = some (snapshot.peers.map peerWire) :=
    sliceInto_map fun peer listed => structInto_peer fold valid dated listed
  cases relay : relayOf snapshot with
  | none =>
    rw [snapshotResponse, structInto, relay]
    simp [decodeMembers, findField, snapshotFields, structField, stringInto, int64Into,
      generation, version, ipInto_ipJson sized, peers, timeInto_timeJson generated,
      SnapshotWire.zero, snapshotWire, relay]
  | some assignment =>
    obtain ⟨placed, -, -⟩ := validateRelayAssignment_wire (valid.relay assignment relay)
    have read := structInto_relay fold placed fun instant listed =>
      dated instant (by simp [snapshotTimes, relay, listed])
    have pointed : pointerInto .zero (structInto fold (relayFields clock))
        (apiRelayAssignmentResponse clock assignment) none =
          some (some (relayWire assignment)) := by
      rw [apiRelayAssignmentResponse] at read ⊢
      rw [pointerInto, Option.getD_none, read, Option.map_some]
      intro null
      cases null
    rw [snapshotResponse, structInto, relay]
    simp [decodeMembers, findField, snapshotFields, structField, stringInto, int64Into,
      generation, version, ipInto_ipJson sized, peers, pointed, timeInto_timeJson generated,
      SnapshotWire.zero, snapshotWire, relay]

theorem peerFromWire_peerWire (valid : ValidSnapshot snapshot) {peer : Peer}
    (listed : peer ∈ snapshot.peers) : peerFromWire (peerWire peer) = receivedPeer peer := by
  obtain ⟨-, role, status⟩ := validateMembership_wire (valid.memberships peer listed)
  have endpoints : (peer.endpoints.map endpointWire).map endpointFromWire =
      peer.endpoints.map receivedEndpoint := by
    rw [List.map_map]
    refine List.map_congr_left fun endpoint member => ?_
    obtain ⟨-, family, -⟩ :=
      validateEndpointCandidate_ok (valid.endpoints peer listed endpoint member)
    simp only [Function.comp_apply, endpointFromWire, endpointWire, family, receivedEndpoint]
  simp only [peerFromWire, peerWire, endpoints, membershipFromWire, membershipWire, role, status,
    receivedPeer, nodeFromWire, nodeWire]

theorem snapshotFromWire_snapshotWire (valid : ValidSnapshot snapshot)
    (positive : 0 < snapshot.generation) :
    snapshotFromWire (snapshotWire snapshot) = .ok (received snapshot) := by
  have short : (to4 (wide snapshot.localVirtualIPv4)).isNone = false := by
    rw [to4_wide (sized_of_to4 valid.localAddress)]
    exact Option.isNone_eq_false_iff.mpr valid.localAddress
  have accepted : (blank snapshot.networkID || decide (snapshot.generation ≤ 0) ||
      blank snapshot.localNodeID || (to4 (wide snapshot.localVirtualIPv4)).isNone) = false := by
    rw [valid.networkID, valid.localNodeID, short, decide_eq_false (by omega)]
    rfl
  have peers : (snapshot.peers.map peerWire).map peerFromWire =
      snapshot.peers.map receivedPeer := by
    rw [List.map_map]
    exact List.map_congr_left fun peer listed => peerFromWire_peerWire valid listed
  have relay : ((relayOf snapshot).map relayWire).map relayFromWire =
      (relayOf snapshot).map receivedRelay := by
    cases sent : relayOf snapshot with
    | none => rfl
    | some assignment =>
      obtain ⟨-, family, status⟩ := validateRelayAssignment_wire (valid.relay assignment sent)
      simp only [Option.map_some, relayFromWire, relayWire, family, status, receivedRelay]
  simp only [snapshotFromWire, snapshotWire, peers, relay, received]
  exact if_neg (ne_true_of_eq_false accepted)

theorem encodable_snapshotResponse (clock : Rfc3339) (snapshot : NetworkSnapshot) :
    Encodable (snapshotResponse clock snapshot) := by
  have endpoint : ∀ endpoint, Encodable (apiEndpointResponse clock endpoint) := fun endpoint =>
    .object (by simp) (by simp [timeJson, ipJson, Encodable.string, Encodable.number])
  have membership : ∀ membership, Encodable (apiMembershipResponse membership) := fun membership =>
    .object (by simp) (by simp [ipJson, Encodable.string])
  have node : ∀ node, Encodable (apiNodeResponse clock node) := fun node =>
    .object (by simp) (by simp [timeJson, Encodable.string])
  have relay : ∀ assignment, Encodable (apiRelayAssignmentResponse clock assignment) := by
    intro assignment
    rw [apiRelayAssignmentResponse]
    cases assignment.expiresAt with
    | none | some =>
      exact .object (by simp) (by simp [timeJson, ipJson, Encodable.string, Encodable.number])
  have peer : ∀ peer, Encodable (peerResponse clock peer) := by
    intro peer
    have endpoints : Encodable (.array (peer.endpoints.map (apiEndpointResponse clock))) :=
      .array (by simp [endpoint])
    exact .object (by simp)
      (by simp [ipJson, Encodable.string, node peer.node, membership peer.membership, endpoints])
  have peers : Encodable (.array (snapshot.peers.map (peerResponse clock))) :=
    .array (by simp [peer])
  rw [snapshotResponse]
  cases relayOf snapshot with
  | none =>
    exact .object (by simp)
      (by simp [timeJson, ipJson, Encodable.string, Encodable.number, peers])
  | some assignment =>
    exact .object (by simp) (by
      simp [timeJson, ipJson, Encodable.string, Encodable.number, peers, relay assignment])

theorem writeSnapshot_eq {Text : Type} (codec : Codec Text) (valid : ValidSnapshot snapshot)
    (dated : ∀ instant ∈ snapshotTimes snapshot, (clock.format instant).isSome = true) :
    writeSnapshot clock codec snapshot =
      some (codec.marshal (snapshotResponse clock snapshot)) := by
  have lengths : ∀ ip, Sized ip → ip.length ∈ [0, 4, 16] := by
    rintro ip (four | sixteen)
    · simp [four]
    · simp [sixteen]
  have sized : ∀ ip ∈ snapshotAddresses snapshot, Sized ip := by
    intro ip listed
    simp only [snapshotAddresses, List.mem_append, List.mem_cons, List.mem_flatMap,
      List.mem_map, Option.mem_toList] at listed
    rcases listed with (rfl | ⟨peer, member, rfl | rfl | ⟨endpoint, shown, rfl⟩⟩) |
      ⟨assignment, sent, rfl⟩
    · exact sized_of_to4 valid.localAddress
    · rw [valid.addresses peer member]
      exact (validateMembership_wire (valid.memberships peer member)).1
    · exact (validateMembership_wire (valid.memberships peer member)).1
    · exact (validateEndpointCandidate_ok (valid.endpoints peer member endpoint shown)).1
    · exact (validateRelayAssignment_wire (valid.relay assignment sent)).1
  refine if_pos (Bool.and_eq_true_iff.mpr ⟨List.all_eq_true.mpr dated, ?_⟩)
  exact List.all_eq_true.mpr fun ip listed => decide_eq_true (lengths ip (sized ip listed))

theorem readSnapshot_marshal {Text : Type} (codec : Codec Text) (limit : Nat)
    (valid : ValidSnapshot snapshot)
    (dated : ∀ instant ∈ snapshotTimes snapshot, (clock.format instant).isSome = true)
    (same : snapshot.generation = snapshot.configVersion) (positive : 0 < snapshot.configVersion)
    (bounded : snapshot.configVersion ≤ maxInt64)
    (fits : codec.size (codec.marshal (snapshotResponse clock snapshot)) ≤ limit) :
    readSnapshot fold clock codec limit snapshot.networkID
      (codec.marshal (snapshotResponse clock snapshot)) = .ok (received snapshot) := by
  have version : parseInt (formatInt snapshot.configVersion) = some snapshot.configVersion :=
    parseInt_formatInt (by omega) bounded
  have generation : parseInt (formatInt snapshot.generation) = some snapshot.generation := by
    rw [same, version]
  have decoded : decodeLimited fold clock codec limit
      (codec.marshal (snapshotResponse clock snapshot)) = .ok (snapshotWire snapshot) := by
    rw [decodeLimited, if_neg (not_lt.mpr fits), decodeStrict,
      codec.decodes (encodable_snapshotResponse clock snapshot)]
    simp only [structInto_snapshot fold valid dated generation version]
    rfl
  have read := snapshotFromWire_snapshotWire valid (same ▸ positive)
  rw [readSnapshot, decoded]
  exact (if_neg (not_not.mpr rfl)).trans read

end Snapshots

section Plans

open ReconcilePlan

theorem choiceOf_received (sized : Sized endpoint.address) :
    choiceOf (receivedEndpoint endpoint) = choiceOf endpoint := by
  have written : text (receivedEndpoint endpoint).address = text endpoint.address :=
    text_wide sized
  have present : (receivedEndpoint endpoint).address = [] ↔ endpoint.address = [] :=
    iff_of_false (wide_ne_nil sized) (ne_nil_of_sized sized)
  unfold choiceOf
  rw [written]
  exact if_congr (or_congr_left present) rfl rfl

theorem ipv4Addr_wide (sized : Sized ip) : ipv4Addr (wide ip) = ipv4Addr ip := by
  rw [ipv4Addr, ipv4Addr, to4_wide sized]

theorem relayCandidate_received (peer : Peer) (sized : Sized assignment.address) :
    relayCandidate (receivedPeer peer) (some (receivedRelay assignment)) =
      (relayCandidate peer (some assignment)).map receivedEndpoint := by
  have written := wide_ne_nil sized
  have given := ne_nil_of_sized sized
  simp only [relayCandidate, receivedPeer, receivedRelay, written, given, ne_eq, not_false_eq_true,
    true_and]
  split_ifs with usable
  · rfl
  · rfl

theorem selectEndpoint_received {peer : Peer} {relay : Option RelayAssignment}
    (endpoints : ∀ endpoint ∈ peer.endpoints, Sized endpoint.address)
    (placed : ∀ assignment, relay = some assignment → Sized assignment.address) :
    selectEndpoint (receivedPeer peer) (relay.map receivedRelay) = selectEndpoint peer relay := by
  have candidates : (receivedPeer peer).endpoints ++
      relayCandidate (receivedPeer peer) (relay.map receivedRelay) =
        (peer.endpoints ++ relayCandidate peer relay).map receivedEndpoint := by
    rw [List.map_append]
    cases relay with
    | none => rfl
    | some assignment =>
      rw [Option.map_some, relayCandidate_received peer (placed assignment rfl)]
      rfl
  have sized : ∀ endpoint ∈ peer.endpoints ++ relayCandidate peer relay,
      Sized endpoint.address := by
    intro endpoint listed
    rcases List.mem_append.mp listed with own | relayed
    · exact endpoints endpoint own
    · cases relay with
      | none => cases relayed
      | some assignment =>
        simp only [relayCandidate] at relayed
        split_ifs at relayed
        · cases List.mem_singleton.mp relayed
          exact placed assignment rfl
        · cases relayed
  have choices : ((receivedPeer peer).endpoints ++
      relayCandidate (receivedPeer peer) (relay.map receivedRelay)).filterMap choiceOf =
        (peer.endpoints ++ relayCandidate peer relay).filterMap choiceOf := by
    rw [candidates, List.filterMap_map]
    exact List.filterMap_congr fun endpoint listed => choiceOf_received (sized endpoint listed)
  simp only [selectEndpoint, choices]

theorem planPeers_received (applier : Applier) (localNodeID : String) (localIP : Addr)
    {relay : Option RelayAssignment} {peers : List Peer}
    (placed : ∀ assignment, relay = some assignment → Sized assignment.address)
    (addresses : ∀ peer ∈ peers, Sized peer.virtualIPv4)
    (endpoints : ∀ peer ∈ peers, ∀ endpoint ∈ peer.endpoints, Sized endpoint.address)
    (index : Nat) (seenKeys : List WgntApi.Key) (seenAddresses : List Addr) :
    planPeers applier localNodeID localIP (relay.map receivedRelay) index
        (peers.map receivedPeer) seenKeys seenAddresses =
      planPeers applier localNodeID localIP relay index peers seenKeys seenAddresses := by
  induction peers generalizing index seenKeys seenAddresses with
  | nil => rfl
  | cons peer rest ih =>
    obtain ⟨address, addresses⟩ := List.forall_mem_cons.mp addresses
    obtain ⟨own, endpoints⟩ := List.forall_mem_cons.mp endpoints
    have read : peerAddress (receivedPeer peer) localIP = peerAddress peer localIP := by
      simp only [peerAddress, receivedPeer, ipv4Addr_wide address]
    have key : peerKey (receivedPeer peer) = peerKey peer := rfl
    have name : (receivedPeer peer).nodeID = peer.nodeID := rfl
    simp only [List.map_cons, planPeers, read, key, name, selectEndpoint_received own placed,
      ih addresses endpoints]

theorem plan_received (applier : Applier) {snapshot : NetworkSnapshot}
    (valid : ValidSnapshot snapshot) :
    plan applier (received snapshot) = plan applier snapshot := by
  have sent : (received snapshot).relayAssignment.or (received snapshot).relay =
      (relayOf snapshot).map receivedRelay := Option.or_none
  have address : ipv4Addr (received snapshot).localVirtualIPv4 =
      ipv4Addr snapshot.localVirtualIPv4 := ipv4Addr_wide (sized_of_to4 valid.localAddress)
  have peers := fun localIP => planPeers_received applier snapshot.localNodeID localIP
    (fun assignment found => (validateRelayAssignment_wire (valid.relay assignment found)).1)
    (fun peer listed => valid.addresses peer listed ▸
      (validateMembership_wire (valid.memberships peer listed)).1)
    (fun peer listed endpoint shown =>
      (validateEndpointCandidate_ok (valid.endpoints peer listed endpoint shown)).1) 0 [] []
  unfold relayOf at sent peers
  simp only [plan, sent, address]
  simp only [received, peers]

end Plans

section Repository

open DbVersions DbMemory DbIntegrity DbNetworks DbRecords DbSnapshot DbViews ReconcilePlan
  ReconcileGenerations
open PlanExactness (plainApplier)

theorem validSnapshot_of_built {repository : MemoryRepository} {ctx : Context} {wall now : Time}
    {networkID localNodeID : String} {snapshot : NetworkSnapshot}
    (sound : Integrity repository) (records : RecordsValid repository)
    (built : buildSnapshotAt ctx wall networkID localNodeID now repository = .ok snapshot) :
    ValidSnapshot snapshot ∧ snapshot.networkID = networkID ∧
      snapshot.generation = snapshot.configVersion := by
  obtain ⟨-, network, own, node, present, member, -, -, rfl⟩ := buildSnapshotAt_ok.mp built
  have named : network.id = networkID := sound.networks networkID network present
  obtain ⟨ownNetwork, ownNode⟩ := sound.memberships.named _ _ _ member
  have valid := records.memberships _ _ _ member
  simp only [validateMembership, required, invalidWhen_bind_ok] at valid
  obtain ⟨networkGiven, nodeGiven, address, -⟩ := valid
  refine ⟨?_, named, rfl⟩
  constructor
  case networkID => exact named.trans ownNetwork.symm ▸ networkGiven
  case localNodeID => exact ownNode ▸ nodeGiven
  case localAddress => exact Option.isNone_eq_false_iff.mp address
  case addresses =>
    intro peer listed
    obtain ⟨nodeID, -, membership, node, -, -, -, rfl⟩ := mem_snapshotPeers.mp listed
    rfl
  case memberships =>
    intro peer listed
    obtain ⟨nodeID, -, membership, node, member, -, -, rfl⟩ := mem_snapshotPeers.mp listed
    exact records.memberships _ _ _ member
  case endpoints =>
    intro peer listed endpoint shown
    obtain ⟨nodeID, -, membership, node, -, -, -, rfl⟩ := mem_snapshotPeers.mp listed
    obtain ⟨⟨stored, held, kept⟩, -⟩ := mem_freshEndpoints.mp shown
    exact records.endpoints nodeID stored held endpoint kept
  case relay =>
    intro assignment sent
    have shown : snapshotRelay repository networkID localNodeID (snapshotTime wall now) =
        some assignment := by
      rw [← Option.or_self (o := snapshotRelay repository networkID localNodeID _)]
      exact sent
    exact records.relays _ _ _ (snapshotRelay_eq_some.mp shown).1

/-- Whatever snapshot a reachable repository builds under a positive version is
written by the server, read back by the client up to the length of its addresses
and the second copy of the assignment, and planned alike. -/
theorem snapshot_survives_wire {Text : Type} (codec : Codec Text) (clock : Rfc3339)
    (fold : String → String) (limit : Nat) (applier : Applier) (maxAge : Duration)
    (actions : List Action) (ctx : Context) (wall now : Time) (networkID localNodeID : String)
    (snapshot : NetworkSnapshot)
    (built : buildSnapshotAt ctx wall networkID localNodeID now
      (reached maxAge actions) = .ok snapshot)
    (positive : 0 < snapshot.configVersion) (below : snapshot.configVersion < 2 ^ 63 - 1)
    (dated : ∀ instant ∈ snapshotTimes snapshot, (clock.format instant).isSome = true)
    (fits : ∀ data, writeSnapshot clock codec snapshot = some data → codec.size data ≤ limit) :
    ∃ data, writeSnapshot clock codec snapshot = some data ∧
      readSnapshot fold clock codec limit networkID data = .ok (received snapshot) ∧
      plan applier (received snapshot) = plan applier snapshot := by
  obtain ⟨valid, rfl, same⟩ := validSnapshot_of_built
    (wellFormed_reached maxAge actions).integrity (recordsValid_reached maxAge actions) built
  have written := writeSnapshot_eq codec valid dated
  have bounded : snapshot.configVersion ≤ maxInt64 := below.le
  exact ⟨_, written,
    readSnapshot_marshal fold codec limit valid dated same positive bounded (fits _ written),
    plan_received applier valid⟩

theorem snapshot_survives_wire_of_pair :
    ∃ snapshot data, snapshotOf reachableRun (2 * minute) = .ok snapshot ∧
      writeSnapshot decimalClock valueCodec snapshot = some data ∧
      readSnapshot id decimalClock valueCodec (2 ^ 20) "n" data = .ok (received snapshot) ∧
      plan plainApplier (received snapshot) = plan plainApplier snapshot := by
  have taken : ∃ snapshot, snapshotOf reachableRun (2 * minute) = .ok snapshot ∧
      snapshot.configVersion = 5 ∧
      (snapshotTimes snapshot).all (fun instant => (decimalClock.format instant).isSome) = true ∧
      (writeSnapshot decimalClock valueCodec snapshot).all
        (fun data => decide (valueCodec.size data ≤ 2 ^ 20)) = true :=
    ⟨_, by rfl, by decide +kernel, by decide +kernel, by decide +kernel⟩
  obtain ⟨snapshot, built, version, dated, fits⟩ := taken
  obtain ⟨data, written, read, planned⟩ := snapshot_survives_wire valueCodec decimalClock id
    (2 ^ 20) plainApplier defaultEndpointMaxAge reachableRun .live 0 (2 * minute) "n" "a" snapshot
    built (by rw [version]; decide) (by rw [version]; decide) (List.all_eq_true.mp dated)
    fun data written => by
      rw [written] at fits
      exact of_decide_eq_true fits
  exact ⟨snapshot, data, built, written, read, planned⟩

/-- A network created at the last version wraps when its first member joins; the
client takes no snapshot with the version that follows. -/
theorem wrapped_snapshot_refused :
    ¬∀ (limit : Nat) (maxAge : Duration) (actions : List Action) (ctx : Context)
      (wall now : Time) (networkID localNodeID : String) (snapshot : NetworkSnapshot),
      buildSnapshotAt ctx wall networkID localNodeID now
          (reached maxAge actions) = .ok snapshot →
        snapshot.configVersion < 2 ^ 63 - 1 →
          (∀ instant ∈ snapshotTimes snapshot, (decimalClock.format instant).isSome = true) →
            (∀ data, writeSnapshot decimalClock valueCodec snapshot = some data →
              valueCodec.size data ≤ limit) →
              ∃ data, writeSnapshot decimalClock valueCodec snapshot = some data ∧
                readSnapshot id decimalClock valueCodec limit networkID data =
                  .ok (received snapshot) := by
  intro survives
  have taken : ∃ snapshot data, snapshotOf (startedRun maxInt64) minute = .ok snapshot ∧
      snapshot.configVersion = -2 ^ 63 ∧
      (snapshotTimes snapshot).all (fun instant => (decimalClock.format instant).isSome) = true ∧
      writeSnapshot decimalClock valueCodec snapshot = some data ∧
      valueCodec.size data ≤ 2 ^ 20 ∧
      readSnapshot id decimalClock valueCodec (2 ^ 20) "n" data = .error .identityOrGeneration :=
    ⟨_, _, by rfl, by decide +kernel, by decide +kernel, by rfl, by decide +kernel, by rfl⟩
  obtain ⟨snapshot, data, built, version, dated, written, fits, refused⟩ := taken
  obtain ⟨again, rewritten, read⟩ := survives (2 ^ 20) defaultEndpointMaxAge
    (startedRun maxInt64) .live 0 minute "n" "a" snapshot built (by rw [version]; decide)
    (List.all_eq_true.mp dated) fun other sent => by
      rw [written] at sent
      cases sent
      exact fits
  rw [written] at rewritten
  cases rewritten
  rw [refused] at read
  cases read

end Repository

end Ipv6Mesh.WireRoundTrip
