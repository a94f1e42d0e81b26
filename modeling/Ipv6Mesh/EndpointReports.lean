import Ipv6Mesh.EndpointDiscovery
import Ipv6Mesh.DbRecords

/-!
# Discovered endpoints and the checks of the control plane

The filter of a node and the validation of the server use different notions of
an IPv6 endpoint. An IPv4-mapped address passes the filter and not the
validation; two candidates that differ in their zones only have two keys in the
filter and one identity in the repository.
-/

namespace Ipv6Mesh.EndpointReports

open GoText GoNet GoFlow ControlModel ControlValidation DbMemory DbOperations DbRecords
  EndpointDiscovery

def reportedBy (nodeID : String) (endpoints : List EndpointCandidate) : List EndpointCandidate :=
  endpoints.map fun endpoint => { endpoint with nodeID := nodeID }

def Unexpired (now : Time) (candidate : Candidate) : Prop :=
  (candidate.validUntil = 0 ∨ now < candidate.validUntil) ∧
    (candidate.preferredUntil = 0 ∨ now < candidate.preferredUntil)

def transport (candidate : Candidate) : Addr × UInt16 × String :=
  (match candidate.address with
    | .v6 value _ => .v6 value ""
    | other => other, candidate.port, candidate.interface)

/-- No chosen candidate has an IPv4-mapped address, and no two differ in their zones
only. -/
structure Reportable (now : Time) (candidates : List Candidate) : Prop where
  unmapped : ∀ candidate, Chosen now candidates candidate → candidate.address.is4In6 = false
  apart : ∀ left right, Chosen now candidates left → Chosen now candidates right →
    transport left = transport right → left = right

section Candidates

variable {now : Time} {candidate : Candidate} {nodeID : String}

theorem lapsed_eq_false {deadline : Time} :
    lapsed deadline now = false ↔ deadline = 0 ∨ now < deadline := by
  simp only [lapsed, Time.isZero, Bool.and_eq_false_iff, Bool.not_eq_false', decide_eq_true_eq]

structure Kept (now : Time) (candidate : Candidate) : Prop where
  address : ∃ value zone, candidate.address = .v6 value zone
  port : candidate.port ≠ 0
  interface : blank candidate.interface = false
  unexpired : Unexpired now candidate

theorem kept_of_passedOver (passed : passedOver now candidate = false) : Kept now candidate := by
  simp only [passedOver, Bool.or_eq_false_iff, lapsed_eq_false, Bool.not_eq_false',
    decide_eq_false_iff_not] at passed
  obtain ⟨⟨⟨⟨⟨⟨⟨⟨⟨⟨⟨-, six⟩, port⟩, -⟩, -⟩, -⟩, -⟩, -⟩, valid⟩, preferred⟩, interface⟩, -⟩ := passed
  refine ⟨?_, port, interface, valid, preferred⟩
  cases address : candidate.address with
  | invalid => simp [address, Addr.is6] at six
  | v4 value => simp [address, Addr.is6] at six
  | v6 value zone => exact ⟨value, zone, rfl⟩

theorem validateEndpointAddress_as16 (model : String) (value : BitVec 128) (zone : String) :
    validateEndpointAddress model (as16 (.v6 value zone)) .ipv6 = .ok () ↔
      (Addr.v6 value zone).is4In6 = false := by
  have sixteen := length_as16_v6 value zone
  have mapped := to4_as16_isSome value zone
  generalize as16 (.v6 value zone) = bytes at sixteen mapped
  have nonempty : bytes ≠ [] := by
    rintro rfl
    cases sixteen
  have long : to16 bytes = some bytes := by simp [to16, sixteen]
  simp only [validateEndpointAddress, check_eq_ok, invalidWhen_ok, long, mapped,
    Option.isNone_some, Bool.false_or, decide_eq_false_iff_not]
  exact and_iff_right nonempty

theorem validate_endpointOf (kept : Kept now candidate) (nonzero : Time.isZero now = false)
    (named : blank nodeID = false)
    (priority : 0 ≤ candidate.priority ∧ candidate.priority ≤ maxPostgresInteger) :
    validateEndpointCandidate { endpointOf now candidate with nodeID := nodeID } = .ok () ↔
      candidate.address.is4In6 = false := by
  obtain ⟨value, zone, address⟩ := kept.address
  have bytes : netipToNetIP candidate.address = as16 (.v6 value zone) := by rw [address]; rfl
  have bounded : (decide (candidate.priority < 0) ||
      decide (maxPostgresInteger < candidate.priority)) = false := by
    simp [priority.1, priority.2]
  simp only [validateEndpointCandidate, required, check_eq_ok, invalidWhen_ok, endpointOf, bytes,
    named, nonzero, kept.interface, bounded, decide_eq_false kept.port, and_true, true_and,
    validateEndpointAddress_as16]
  rw [address]

theorem transport_eq_iff {other : Candidate} {value otherValue : BitVec 128}
    {zone otherZone : String} (address : candidate.address = .v6 value zone)
    (otherAddress : other.address = .v6 otherValue otherZone) :
    transport candidate = transport other ↔
      value = otherValue ∧ candidate.port = other.port ∧
        candidate.interface = other.interface := by
  simp [transport, address, otherAddress]

theorem text_as16_eq_iff {value other : BitVec 128} {zone otherZone : String} :
    text (as16 (.v6 value zone)) = text (as16 (.v6 other otherZone)) ↔ value = other := by
  have long : ∀ (value : BitVec 128) (zone : String),
      parseIP (text (as16 (.v6 value zone))) = some (as16 (.v6 value zone)) := fun value zone =>
    parseIP_text (by simp [to16, length_as16_v6])
  constructor
  · intro same
    have bytes := congrArg parseIP same
    rw [long, long, Option.some.injEq] at bytes
    exact as16_v6_injective bytes
  · rintro rfl
    rfl

theorem identity_endpointOf {other : Candidate} (kept : Kept now candidate)
    (keptOther : Kept now other) :
    endpointIdentityFor (normalizeEndpoint { endpointOf now candidate with nodeID := nodeID }) =
        endpointIdentityFor (normalizeEndpoint { endpointOf now other with nodeID := nodeID }) ↔
      transport candidate = transport other := by
  obtain ⟨value, zone, address⟩ := kept.address
  obtain ⟨otherValue, otherZone, otherAddress⟩ := keptOther.address
  rw [transport_eq_iff address otherAddress]
  simp [endpointIdentityFor, normalizeEndpoint, endpointOf, address, otherAddress, netipToNetIP,
    text_as16_eq_iff]

end Candidates

section Reports

variable {now : Time} {candidates : List Candidate} (wall : Time)

def chosen (wall : Time) (candidates : List Candidate) (now : Time) : List Candidate :=
  firstCandidates 16 (filterIPv6Candidates wall candidates now)

def report (nodeID : String) (wall : Time) (candidates : List Candidate) (now : Time) :
    List EndpointCandidate :=
  reportedBy nodeID ((chosen wall candidates now).map (endpointOf now))

theorem kept_of_chosen {candidate : Candidate} (chosen : Chosen now candidates candidate) :
    candidate ∈ candidates ∧ Kept now candidate := by
  obtain ⟨⟨usable, earlier, later, rfl, -⟩, -⟩ := chosen
  exact ⟨by simp, kept_of_passedOver usable⟩

theorem chosen_ranked : (chosen wall candidates now).Pairwise fun left right =>
    candidateLess left right = true := by
  rw [chosen, firstCandidates_eq_take]
  exact (filterIPv6Candidates_ranked wall candidates now).sublist (List.take_sublist _ _)

theorem chosen_nodup : (chosen wall candidates now).Nodup :=
  (chosen_ranked wall).imp fun {left _} below same => by
    subst same
    exact lt_irrefl _ ((candidateLess_iff left left).mp below)

variable (candidates) in
theorem distinct_report_iff (nodeID : String) (nonzero : Time.isZero now = false) :
    (((report nodeID wall candidates now).map normalizeEndpoint).map endpointIdentityFor).Nodup ↔
      ∀ left right, Chosen now candidates left → Chosen now candidates right →
        transport left = transport right → left = right := by
  have listed : ∀ candidate, candidate ∈ chosen wall candidates now ↔
      Chosen now candidates candidate := fun _ => mem_firstCandidates nonzero
  have apart : ((chosen wall candidates now).map transport).Nodup ↔
      ∀ left right, Chosen now candidates left → Chosen now candidates right →
        transport left = transport right → left = right := by
    rw [List.nodup_map_iff_inj_on (chosen_nodup wall)]
    simp only [listed]
    exact ⟨fun same left right inLeft inRight => same left inLeft right inRight,
      fun same left inLeft right inRight => same left right inLeft inRight⟩
  rw [← apart]
  simp only [report, reportedBy, List.map_map, List.Nodup, List.pairwise_map, Function.comp_apply]
  refine List.Pairwise.iff_of_mem fun {left right} inLeft inRight => ?_
  exact (identity_endpointOf (kept_of_chosen ((listed left).mp inLeft)).2
    (kept_of_chosen ((listed right).mp inRight)).2).not

variable {nodeID : String} (nonzero : Time.isZero now = false) (named : blank nodeID = false)
  (priorities : ∀ candidate ∈ candidates,
    0 ≤ candidate.priority ∧ candidate.priority ≤ maxPostgresInteger)

include nonzero named priorities

theorem validated_report_iff :
    (∀ endpoint ∈ report nodeID wall candidates now,
        validateEndpointCandidate endpoint = .ok ()) ↔
      ∀ candidate, Chosen now candidates candidate → candidate.address.is4In6 = false := by
  simp only [report, reportedBy, List.map_map, List.forall_mem_map, Function.comp_apply]
  refine forall_congr' fun candidate => imp_congr_ctx (mem_firstCandidates nonzero) fun member => ?_
  obtain ⟨enumerated, kept⟩ := kept_of_chosen member
  exact validate_endpointOf kept nonzero named (priorities candidate enumerated)

theorem accepted_report_iff {repository : MemoryRepository} {node : Node}
    (present : repository.nodes[nodeID]? = some node) :
    (∃ after, replaceEndpoints .live nodeID (report nodeID wall candidates now) repository =
        (.ok (), after)) ↔ Reportable now candidates := by
  have owned : ∀ endpoint ∈ report nodeID wall candidates now, endpoint.nodeID = nodeID := by
    simp [report, reportedBy]
  have valid := validated_report_iff wall nonzero named priorities
  have distinct := distinct_report_iff candidates wall nodeID nonzero
  constructor
  · rintro ⟨after, accepted⟩
    obtain ⟨-, -, validated, checked, -⟩ := replaceEndpoints_eq_ok.mp accepted
    obtain ⟨each, rfl, apart, -⟩ := validateEndpoints_ok.mp checked
    exact ⟨valid.mp fun endpoint member => (each endpoint member).2, distinct.mp apart⟩
  · rintro ⟨unmapped, apart⟩
    have checked : validateEndpoints nodeID (report nodeID wall candidates now) [] =
        .ok ((report nodeID wall candidates now).map normalizeEndpoint) :=
      validateEndpoints_ok.mpr ⟨fun endpoint member =>
        ⟨owned endpoint member, valid.mpr unmapped endpoint member⟩, rfl, distinct.mpr apart,
          fun _ _ => List.not_mem_nil⟩
    exact ⟨_, replaceEndpoints_eq_ok.mpr ⟨rfl, ⟨node, present⟩, _, checked, rfl⟩⟩

end Reports

/-- The control server takes the report: valid, ranked, unexpired, sixteen at most. -/
structure Accepted (nodeID : String) (now : Time) (candidates : List Candidate)
    (repository : MemoryRepository) (endpoints : List EndpointCandidate) : Prop where
  valid : ∀ endpoint ∈ reportedBy nodeID endpoints, validateEndpointCandidate endpoint = .ok ()
  stored : ∃ after, replaceEndpoints .live nodeID (reportedBy nodeID endpoints) repository =
    (.ok (), after)
  ranked : endpoints.Pairwise fun left right => left.priority ≤ right.priority
  unexpired : ∀ endpoint ∈ endpoints, ∃ candidate ∈ candidates,
    endpoint = endpointOf now candidate ∧ Unexpired now candidate
  bounded : endpoints.length ≤ 16

/-- Discovery succeeds, and its endpoints are accepted exactly when the enumerated
candidates are reportable. -/
theorem discovered_endpoints_accepted_iff (enumerate : UInt16 → Except Error (List Candidate))
    (discoverer : Discoverer) (made : newDiscoverer (some enumerate) = .ok discoverer)
    (port : UInt16) (candidates : List Candidate) (enumerated : enumerate port = .ok candidates)
    (priorities : ∀ candidate ∈ candidates,
      0 ≤ candidate.priority ∧ candidate.priority ≤ 2 ^ 31 - 1)
    (now wall : Time) (nonzero : Time.isZero now = false) (maxAge : Duration)
    (actions : List Action) (nodeID : String) (node : Node)
    (present : (reached maxAge actions).nodes[nodeID]? = some node) :
    ∃ endpoints, discoverer.discover .live now wall port = .ok endpoints ∧
      (Accepted nodeID now candidates (reached maxAge actions) endpoints ↔
        Reportable now candidates) := by
  obtain rfl : ⟨enumerate, 16⟩ = discoverer := Except.ok.inj made
  have named : blank nodeID = false :=
    nodesNamed_reached maxAge actions nodeID (by rw [present]; rfl)
  have discovered : Discoverer.discover ⟨enumerate, 16⟩ .live now wall port =
      .ok ((chosen wall candidates now).map (endpointOf now)) := by
    simp only [Discoverer.discover, discoveryContext, enumerated, chosen]
    rfl
  have stored := accepted_report_iff wall nonzero named priorities present
  refine ⟨_, discovered, fun accepted => stored.mp accepted.stored, fun reportable => ?_⟩
  constructor
  · exact (validated_report_iff wall nonzero named priorities).mpr reportable.unmapped
  · exact stored.mpr reportable
  · refine List.pairwise_map.mpr ((chosen_ranked wall).imp fun {left right} below => ?_)
    exact priority_le_of_candidateLess below
  · intro endpoint member
    obtain ⟨candidate, chosenMember, rfl⟩ := List.mem_map.mp member
    obtain ⟨listed, kept⟩ := kept_of_chosen ((mem_firstCandidates nonzero).mp chosenMember)
    exact ⟨candidate, listed, rfl, kept.unexpired⟩
  · rw [List.length_map, chosen, firstCandidates_eq_take]
    exact List.length_take_le _ _

def lastingCandidate (address : Addr) : Candidate :=
  ⟨address, 4000, "eth0", 0, false, false, false, false, 0, 0⟩

def lonelyRun : List Action := [.single (.addNode .live ⟨"a", "a", "key", "linux", "1", 1⟩)]

def documentationAddress : BitVec 128 := 0x20010db8000000000000000000000001#128

/-- Of the six candidates the fourth is link-local, the fifth repeats the key of the
first and the last has expired. -/
def severalCandidates : List Candidate :=
  [lastingCandidate (.v6 documentationAddress ""),
    { lastingCandidate (.v6 documentationAddress "") with interface := "wlan0", priority := 2 },
    { lastingCandidate (.v6 (documentationAddress + 1) "") with priority := 1 },
    { lastingCandidate (.v6 (documentationAddress + 2) "") with linkLocal := true },
    { lastingCandidate (.v6 documentationAddress "") with priority := 3 },
    { lastingCandidate (.v6 (documentationAddress + 3) "") with validUntil := 1 }]

theorem several_endpoints_accepted :
    ∃ endpoints,
      (⟨fun _ => .ok severalCandidates, 16⟩ : Discoverer).discover .live 1 1 4000 = .ok endpoints ∧
      endpoints.map (·.priority) = [0, 1, 2] ∧ Accepted "a" 1 severalCandidates
        (reached minute lonelyRun) endpoints := by
  have listed : ∀ candidate, Chosen 1 severalCandidates candidate →
      candidate ∈ chosen 1 severalCandidates 1 := fun _ => (mem_firstCandidates rfl).mpr
  have unmapped : ∀ candidate ∈ chosen 1 severalCandidates 1, candidate.address.is4In6 = false := by
    decide +kernel
  have apart : ∀ left ∈ chosen 1 severalCandidates 1, ∀ right ∈ chosen 1 severalCandidates 1,
      transport left = transport right → left = right := by decide +kernel
  obtain ⟨endpoints, discovered, accepted⟩ := discovered_endpoints_accepted_iff
    (fun _ => .ok severalCandidates) _ rfl 4000 severalCandidates rfl (by decide) 1 1 rfl minute
    lonelyRun "a" ⟨"a", "a", "key", "linux", "1", 1⟩ Std.ExtTreeMap.getElem?_insert_self
  refine ⟨endpoints, discovered, ?_, accepted.mpr ⟨fun candidate chosen =>
    unmapped candidate (listed candidate chosen), fun left right inLeft inRight =>
      apart left (listed left inLeft) right (listed right inRight)⟩⟩
  cases Except.ok.inj discovered
  decide +kernel

/-- An IPv4-mapped address is refused by the validation, and an address with two
zones by the repository; either takes the whole report with it. -/
theorem odd_addresses_refuse_report :
    let repository := reached minute lonelyRun
    let reportOf := fun candidates =>
      ((⟨fun _ => .ok candidates, 16⟩ : Discoverer).discover .live 1 1 4000).map (reportedBy "a")
    let mapped := reportOf [lastingCandidate (.v6 documentationAddress ""),
      lastingCandidate (.v6 0xffffc0000201#128 "")]
    let zoned := reportOf [lastingCandidate (.v6 documentationAddress "a"),
      lastingCandidate (.v6 documentationAddress "b")]
    mapped.toOption.map List.length = some 2 ∧
      mapped.map (fun endpoints => (replaceEndpoints .live "a" endpoints repository).1) =
        .ok (.error (.invalid "endpoint_candidate" "address" "must be IPv6 for family ipv6")) ∧
      zoned.toOption.map List.length = some 2 ∧
      zoned.map (fun endpoints => (replaceEndpoints .live "a" endpoints repository).1) =
        .ok (.error (.sentinel .conflict)) := by
  decide +kernel

end Ipv6Mesh.EndpointReports
