import Ipv6Mesh.DbVersions
import Ipv6Mesh.PlanExactness

/-!
# Equal generations and equal plans

A node skips a snapshot whose generation it already applied. The generation
counts changes of the stored configuration, while endpoint freshness and the
validity window of a relay are judged against the clock of each snapshot. Two
snapshots of one generation therefore agree exactly up to these verdicts.
-/

namespace Ipv6Mesh.ReconcileGenerations

open GoText GoNet GoMap GoFlow ControlModel ControlValidation WgntApi DbMemory DbIntegrity DbRuns
  DbSnapshot DbVersions ReconcilePlan
open PlanExactness (plainApplier)

def cyclePosition (version : Int) : Int := if 0 < version then version else 0

theorem nextConfigVersion_le (version : Int) : nextConfigVersion version ≤ maxInt64 := by
  unfold nextConfigVersion wrapInt64 maxInt64
  split_ifs
  · omega
  · omega

theorem cyclePosition_next {version : Int} (bound : version ≤ maxInt64) :
    cyclePosition (nextConfigVersion version) = (cyclePosition version + 1) % 2 ^ 63 := by
  unfold cyclePosition nextConfigVersion wrapInt64
  unfold maxInt64 at bound
  split_ifs <;> omega

theorem cyclePosition_iterate {version : Int} (bound : version ≤ maxInt64) (count : Nat) :
    cyclePosition (nextConfigVersion^[count] version) % 2 ^ 63 =
      (cyclePosition version + count) % 2 ^ 63 := by
  induction count generalizing version with
  | zero => simp
  | succ count ih =>
    rw [Function.iterate_succ_apply, ih (nextConfigVersion_le version),
      cyclePosition_next bound]
    push_cast
    omega

theorem iterate_next_eq_self {version : Int} {count : Nat} (few : count < 2 ^ 63)
    (returned : nextConfigVersion^[count] version = version) : count = 0 := by
  by_contra positive
  have bound : version ≤ maxInt64 := by
    obtain ⟨earlier, successor⟩ := Nat.exists_eq_succ_of_ne_zero positive
    rw [← returned, successor, Function.iterate_succ_apply']
    exact nextConfigVersion_le _
  have position := cyclePosition_iterate bound count
  rw [returned] at position
  omega

theorem run_increments {networkID : String} (ops : List Op) {before : MemoryRepository}
    {network : Network} (sound : Integrity before)
    (present : before.networks[networkID]? = some network) :
    ∃ count later, count ≤ ops.length ∧
      (run Op.step ops before).networks[networkID]? = some later ∧
      later.configVersion = nextConfigVersion^[count] network.configVersion ∧
      later.id = network.id ∧
      (count = 0 → SameView networkID before (run Op.step ops before)) := by
  induction ops generalizing before network with
  | nil =>
    exact ⟨0, network, le_refl _, present, rfl, rfl, fun _ => SameView.refl networkID before⟩
  | cons op ops ih =>
    have soundNext := integrity_apply op sound
    rcases apply_moved_or_still sound op present with moved | still
    · obtain ⟨-, record, stored, after⟩ := moved
      have same : record = network := Option.some.inj (stored.symm.trans present)
      subst same
      obtain ⟨count, later, bound, final, version, name, -⟩ := ih soundNext after
      refine ⟨count + 1, later, by simpa using bound, final, ?_, name, by omega⟩
      rw [Function.iterate_succ_apply, version]
      rfl
    · obtain ⟨record, view⟩ := still
      obtain ⟨count, later, bound, final, version, name, unchanged⟩ :=
        ih soundNext (record.trans present)
      refine ⟨count, later, ?_, final, version, name, ?_⟩
      · rw [List.length_cons]
        omega
      · intro none
        exact view.trans (unchanged none)

/-- At both times the same stored endpoints of the other active members are fresh. -/
def SameFreshness (repository : MemoryRepository) (networkID localNodeID : String)
    (first second : Time) : Prop :=
  ∀ nodeID membership, nodeID ≠ localNodeID →
    repository.membership? networkID nodeID = some membership → membership.status = .active →
      ∀ endpoint ∈ repository.endpoints.getD nodeID [],
        isFreshEndpoint endpoint first repository.endpointMaxAge =
          isFreshEndpoint endpoint second repository.endpointMaxAge

/-- At both times the local relay assignment is usable, or at both it is not. -/
def SameUsability (repository : MemoryRepository) (networkID localNodeID : String)
    (first second : Time) : Prop :=
  ∀ assignment, repository.relayAssignment? networkID localNodeID = some assignment →
    relayAssignmentUsable assignment first = relayAssignmentUsable assignment second

/-- The clocks of two snapshots give the same verdicts on what is stored. -/
structure SameVerdicts (repository : MemoryRepository) (networkID localNodeID : String)
    (first second : Time) : Prop where
  endpoints : SameFreshness repository networkID localNodeID first second
  relay : SameUsability repository networkID localNodeID first second

section Verdicts

variable {repository : MemoryRepository} {networkID localNodeID : String} {first second : Time}

theorem SameVerdicts.peer (verdicts : SameVerdicts repository networkID localNodeID first second)
    (nodeID : String) :
    peerOf repository (repository.memberships.getD networkID ∅) localNodeID first nodeID =
      peerOf repository (repository.memberships.getD networkID ∅) localNodeID second nodeID := by
  unfold peerOf
  by_cases self : nodeID = localNodeID
  · rw [if_pos self, if_pos self]
  · rw [if_neg self, if_neg self, getD_getElem?]
    cases member : lookup₂ repository.memberships networkID nodeID with
    | none => rfl
    | some membership =>
      by_cases active : membership.status = .active
      · have fresh : freshEndpoints repository nodeID first =
            freshEndpoints repository nodeID second := by
          unfold freshEndpoints
          rw [List.filter_congr (verdicts.endpoints nodeID membership self member active)]
        simp only [fresh]
      · simp [active]

theorem SameVerdicts.peers
    (verdicts : SameVerdicts repository networkID localNodeID first second) :
    snapshotPeers repository networkID localNodeID first =
      snapshotPeers repository networkID localNodeID second := by
  simp only [snapshotPeers, funext verdicts.peer]

theorem SameVerdicts.snapshotRelay
    (verdicts : SameVerdicts repository networkID localNodeID first second) :
    DbSnapshot.snapshotRelay repository networkID localNodeID first =
      DbSnapshot.snapshotRelay repository networkID localNodeID second := by
  unfold DbSnapshot.snapshotRelay
  cases stored : repository.relayAssignment? networkID localNodeID with
  | none => rfl
  | some assignment => simp only [Option.filter, verdicts.relay assignment stored]

end Verdicts

theorem planPeers_congr (applier : Applier) (localNodeID : String) (localIP : Addr)
    (relay : Option RelayAssignment) {left right : List Peer}
    (same : left.map peerContent = right.map peerContent) (index : Nat) (seenKeys : List Key)
    (seenAddresses : List Addr) :
    planPeers applier localNodeID localIP relay index left seenKeys seenAddresses =
      planPeers applier localNodeID localIP relay index right seenKeys seenAddresses := by
  induction left generalizing right index seenKeys seenAddresses with
  | nil =>
    have empty : right = [] := List.map_eq_nil_iff.mp same.symm
    rw [empty]
  | cons peer rest ih =>
    cases right with
    | nil => simp at same
    | cons twin others =>
      rw [List.map_cons, List.map_cons, List.cons.injEq] at same
      have fields := same.1
      simp only [peerContent, PeerContent.mk.injEq] at fields
      obtain ⟨nodeID, -, publicKey, virtualIPv4, endpoints⟩ := fields
      have key : peerKey peer = peerKey twin := by
        simp only [peerKey, publicKey, nodeID]
      have address : peerAddress peer localIP = peerAddress twin localIP := by
        simp only [peerAddress, virtualIPv4, nodeID]
      have endpoint : selectEndpoint peer relay = selectEndpoint twin relay := by
        simp only [selectEndpoint, relayCandidate, endpoints, nodeID]
      simp only [planPeers, nodeID, key, address, endpoint, ih same.2]

theorem plan_congr (applier : Applier) {left right : NetworkSnapshot}
    (networkID : left.networkID = right.networkID)
    (localNodeID : left.localNodeID = right.localNodeID)
    (localVirtualIPv4 : left.localVirtualIPv4 = right.localVirtualIPv4)
    (peers : left.peers.map peerContent = right.peers.map peerContent)
    (relayAssignment : left.relayAssignment = right.relayAssignment)
    (relay : left.relay = right.relay) : plan applier left = plan applier right := by
  simp only [plan, networkID, localNodeID, localVirtualIPv4, relayAssignment, relay,
    planPeers_congr applier _ _ _ peers]

theorem reached_append (maxAge : Duration) (earlier later : List Action) :
    reached maxAge (earlier ++ later) = run Action.step later (reached maxAge earlier) :=
  run_append Action.step earlier later _

/-- Two snapshots of one generation, fewer than `2^63` committed operations apart
and judged alike by their clocks, give every node the same plan. -/
theorem equal_generations_give_equal_plans (applier : Applier) (maxAge : Duration)
    (earlier between : List Action) (networkID localNodeID : String)
    (firstContext secondContext : Context) (firstWall secondWall firstNow secondNow : Time)
    (first second : NetworkSnapshot)
    (firstTaken : buildSnapshotAt firstContext firstWall networkID localNodeID firstNow
      (reached maxAge earlier) = .ok first)
    (secondTaken : buildSnapshotAt secondContext secondWall networkID localNodeID secondNow
      (reached maxAge (earlier ++ between)) = .ok second)
    (sameGeneration : first.generation = second.generation)
    (few : (committedOps between (reached maxAge earlier)).length < 2 ^ 63)
    (verdicts : SameVerdicts (reached maxAge earlier) networkID localNodeID
      (snapshotTime firstWall firstNow) (snapshotTime secondWall secondNow)) :
    plan applier first = plan applier second := by
  have sound : Integrity (reached maxAge earlier) :=
    run_invariant Action.step Integrity integrity_step earlier (integrity_new maxAge)
  rw [reached_append, run_eq_committedOps between] at secondTaken
  generalize reached maxAge earlier = before at firstTaken secondTaken few verdicts sound
  generalize committedOps between before = ops at secondTaken few
  obtain ⟨-, network, membership, -, present, member, -, -, firstIs⟩ :=
    buildSnapshotAt_ok.mp firstTaken
  obtain ⟨-, laterNetwork, laterMembership, -, laterPresent, laterMember, -, -, secondIs⟩ :=
    buildSnapshotAt_ok.mp secondTaken
  obtain ⟨count, later, bound, final, version, name, unchanged⟩ :=
    run_increments ops sound present
  have sameLater : later = laterNetwork := Option.some.inj (final.symm.trans laterPresent)
  subst sameLater
  have returned : nextConfigVersion^[count] network.configVersion = network.configVersion := by
    rw [firstIs, secondIs] at sameGeneration
    exact version.symm.trans sameGeneration.symm
  have view := unchanged (iterate_next_eq_self (by omega) returned)
  have sameMembership : membership = laterMembership :=
    Option.some.inj (member.symm.trans ((view.members localNodeID).symm.trans laterMember))
  subst sameMembership
  subst firstIs secondIs
  apply plan_congr applier
  · exact name.symm
  · rfl
  · rfl
  · exact (congrArg (List.map peerContent) verdicts.peers).trans (view.peers localNodeID _).symm
  · exact verdicts.snapshotRelay.trans (view.relay localNodeID _).symm
  · exact verdicts.snapshotRelay.trans (view.relay localNodeID _).symm

def reachableEndpoint : EndpointCandidate :=
  { nodeID := "b", address := [8, 8, 8, 8], port := 51820, family := .ipv4, interface := "eth0",
    priority := 0, observedAt := minute }

def reachableRun : List Action :=
  pairRun ++ [.single (.replaceEndpoints .live "b" [reachableEndpoint]),
    .single (.setRelayAssignment .live (plainRelay "r"))]

def reachableState : MemoryRepository := reached defaultEndpointMaxAge reachableRun

def snapshotOf (actions : List Action) (now : Time) : Except Error NetworkSnapshot :=
  buildSnapshotAt .live 0 "n" "a" now (reached defaultEndpointMaxAge actions)

theorem reached_freshness {first second : Time}
    (same : isFreshEndpoint reachableEndpoint first defaultEndpointMaxAge =
      isFreshEndpoint reachableEndpoint second defaultEndpointMaxAge) :
    SameFreshness reachableState "n" "a" first second := by
  intro nodeID membership _ _ _ endpoint listed
  have stored : reachableState.endpoints = (∅ : GoMap _).insert "b" [reachableEndpoint] := by rfl
  rw [stored, Std.ExtTreeMap.getD_insert] at listed
  split_ifs at listed
  · obtain rfl := List.mem_singleton.mp listed
    exact same
  · simp at listed

theorem reached_usability {first second : Time}
    (same : relayAssignmentUsable (plainRelay "r") first =
      relayAssignmentUsable (plainRelay "r") second) :
    SameUsability reachableState "n" "a" first second := by
  intro assignment stored
  have held : reachableState.relayAssignment? "n" "a" = some (plainRelay "r") := by decide +kernel
  obtain rfl := Option.some.inj (held.symm.trans stored)
  exact same

theorem equal_generations_give_equal_plans_after_touch :
    let touched := reachableRun ++ [.single (.touchNode .live "b" minute)]
    ∃ first second planned, snapshotOf reachableRun (2 * minute) = .ok first ∧
      snapshotOf touched (3 * minute) = .ok second ∧
      plan plainApplier first = .ok planned ∧ planned.1.peers.length = 1 ∧
      plan plainApplier second = .ok planned := by
  intro touched
  have firstTaken : ∃ first planned, snapshotOf reachableRun (2 * minute) = .ok first ∧
      first.generation = 5 ∧ plan plainApplier first = .ok planned ∧
      planned.1.peers.length = 1 := ⟨_, _, by rfl, by decide +kernel, by rfl, by decide +kernel⟩
  have secondTaken : ∃ second, snapshotOf touched (3 * minute) = .ok second ∧
      second.generation = 5 := ⟨_, by rfl, by decide +kernel⟩
  obtain ⟨first, planned, firstIs, firstGeneration, plans, peers⟩ := firstTaken
  obtain ⟨second, secondIs, secondGeneration⟩ := secondTaken
  have same := equal_generations_give_equal_plans plainApplier defaultEndpointMaxAge reachableRun
    [.single (.touchNode .live "b" minute)] "n" "a" .live .live 0 0 (2 * minute) (3 * minute) first
    second firstIs secondIs (firstGeneration.trans secondGeneration.symm) (by decide +kernel)
    ⟨reached_freshness (by decide), reached_usability (by decide)⟩
  exact ⟨first, second, planned, firstIs, secondIs, plans, peers, same ▸ plans⟩

/-- Accepted snapshots of one generation plan alike if the state of the first and the
two times meet the condition. -/
def PlansAgree (condition : MemoryRepository → String → String → Time → Time → Prop) : Prop :=
  ∀ (applier : Applier) (maxAge : Duration) (earlier between : List Action)
    (networkID localNodeID : String) (firstContext secondContext : Context)
    (firstWall secondWall firstNow secondNow : Time) (first second : NetworkSnapshot)
    (firstPlan secondPlan : Configuration × Address × List Route),
    buildSnapshotAt firstContext firstWall networkID localNodeID firstNow
        (reached maxAge earlier) = .ok first →
      buildSnapshotAt secondContext secondWall networkID localNodeID secondNow
          (reached maxAge (earlier ++ between)) = .ok second →
        first.generation = second.generation → plan applier first = .ok firstPlan →
          plan applier second = .ok secondPlan →
            condition (reached maxAge earlier) networkID localNodeID
              (snapshotTime firstWall firstNow) (snapshotTime secondWall secondNow) →
                firstPlan = secondPlan

structure Planned (actions : List Action) (now : Time) (snapshot : NetworkSnapshot)
    (planned : Configuration × Address × List Route) : Prop where
  taken : snapshotOf actions now = .ok snapshot
  generation : snapshot.generation = 5
  accepted : plan plainApplier snapshot = .ok planned

theorem PlansAgree.planned
    {condition : MemoryRepository → String → String → Time → Time → Prop}
    {firstNow secondNow : Time} {first second : NetworkSnapshot}
    {firstPlan secondPlan : Configuration × Address × List Route} (agree : PlansAgree condition)
    (between : List Action) (before : Planned reachableRun firstNow first firstPlan)
    (after : Planned (reachableRun ++ between) secondNow second secondPlan)
    (met : condition reachableState "n" "a" (snapshotTime 0 firstNow) (snapshotTime 0 secondNow)) :
    firstPlan = secondPlan :=
  agree plainApplier defaultEndpointMaxAge reachableRun between "n" "a" .live .live 0 0 firstNow
    secondNow first second firstPlan secondPlan before.taken after.taken
    (before.generation.trans after.generation.symm) before.accepted after.accepted met

def reachedAt (version : Int) : MemoryRepository :=
  { reachableState with networks := (∅ : GoMap _).insert "n" (startedNetwork version) }

def refresh : Op := .replaceEndpoints .live "b" [reachableEndpoint]

theorem run_refresh (count : Nat) (version : Int) :
    run Action.step (List.replicate count (.single refresh)) (reachedAt version) =
      reachedAt (nextConfigVersion^[count] version) := by
  induction count generalizing version with
  | zero => rfl
  | succ count ih =>
    have step : (Action.single refresh).step (reachedAt version) =
        reachedAt (nextConfigVersion version) := by rfl
    rw [List.replicate_succ, run_cons, step, ih, Function.iterate_succ_apply]

theorem generation_returns : nextConfigVersion (nextConfigVersion^[2 ^ 63 - 1] 5) = 5 := by
  have bound := nextConfigVersion_le (nextConfigVersion^[2 ^ 63 - 1] 5)
  have position := cyclePosition_iterate (show 5 ≤ maxInt64 by decide) (2 ^ 63 - 1 + 1)
  rw [Function.iterate_succ_apply'] at position
  generalize nextConfigVersion (nextConfigVersion^[2 ^ 63 - 1] 5) = version at bound position
  unfold cyclePosition maxInt64 at *
  push_cast at position
  split_ifs at position <;> omega

def aloneAt (version : Int) : NetworkSnapshot :=
  ⟨"n", version, version, "a", [10, 0, 0, 1], [], none, none, 2 * minute⟩

def refreshes (count : Nat) : List Action :=
  List.replicate count (.single refresh) ++ [.single (.removeMembership .live "n" "b")]

theorem snapshotOf_refreshes (count : Nat) :
    snapshotOf (reachableRun ++ refreshes count) (2 * minute) =
      .ok (aloneAt (nextConfigVersion (nextConfigVersion^[count] 5))) := by
  have start : reached defaultEndpointMaxAge reachableRun = reachedAt 5 := by rfl
  rw [snapshotOf, refreshes, reached_append, start, run_append, run_refresh]
  rfl

/-- Neither verdict can be left out, nor the bound on the operations in between: a stale
endpoint and an expired relay change the plan without a write, and after `2^63`
writes the counter is back where it was. -/
theorem equal_generations_with_different_plans :
    ¬PlansAgree SameUsability ∧ ¬PlansAgree SameFreshness ∧ ¬PlansAgree SameVerdicts := by
  obtain ⟨direct, directPlan, directTaken, directEnds⟩ : ∃ snapshot planned,
      Planned reachableRun (2 * minute) snapshot planned ∧
      planned.1.peers.map (·.endpoint) = [⟨.v4 0x08080808, 51820⟩] :=
    ⟨_, _, ⟨by rfl, by decide +kernel, by rfl⟩, by decide +kernel⟩
  obtain ⟨relayed, relayedPlan, relayedTaken, relayedEnds⟩ : ∃ snapshot planned,
      Planned reachableRun (20 * minute) snapshot planned ∧
      planned.1.peers.map (·.endpoint) = [⟨.v4 0x09090909, 3478⟩] :=
    ⟨_, _, ⟨by rfl, by decide +kernel, by rfl⟩, by decide +kernel⟩
  obtain ⟨expired, expiredPlan, expiredTaken, expiredEnds⟩ : ∃ snapshot planned,
      Planned reachableRun (60 * minute) snapshot planned ∧
      planned.1.peers.map (·.endpoint) = [AddrPort.zero] :=
    ⟨_, _, ⟨by rfl, by decide +kernel, by rfl⟩, by decide +kernel⟩
  refine ⟨fun agree => ?_, fun agree => ?_, fun agree => ?_⟩
  · have same := agree.planned [] directTaken relayedTaken (reached_usability (by decide))
    rw [same, relayedEnds] at directEnds
    exact absurd directEnds (by decide)
  · have same := agree.planned [] relayedTaken expiredTaken (reached_freshness (by decide))
    rw [same, expiredEnds] at relayedEnds
    exact absurd relayedEnds (by decide)
  · obtain ⟨alonePlan, planned, nobody⟩ : ∃ planned,
        plan plainApplier (aloneAt 5) = .ok planned ∧ planned.1.peers = [] :=
      ⟨_, by rfl, by decide +kernel⟩
    have aloneTaken : Planned (reachableRun ++ refreshes (2 ^ 63 - 1)) (2 * minute) (aloneAt 5)
        alonePlan :=
      ⟨(snapshotOf_refreshes _).trans (by rw [generation_returns]), rfl, planned⟩
    have same := agree.planned _ directTaken aloneTaken
      ⟨fun _ _ _ _ _ _ _ => rfl, fun _ _ => rfl⟩
    rw [same, nobody] at directEnds
    exact absurd directEnds (by decide)

end Ipv6Mesh.ReconcileGenerations
