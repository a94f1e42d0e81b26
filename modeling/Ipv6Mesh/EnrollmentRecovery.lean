import Ipv6Mesh.EnrollmentLaw

/-!
# Recovery of an uncertain commit

The repository applies a transaction entirely or not at all and may report an
error in both cases. Before each recovery read other enrollments may commit. A
recovery that reads the node in exactly the expected network returns it as its
own; the node identifier is the client's choice, so it may be someone else's.
-/

namespace Ipv6Mesh.EnrollmentRecovery

open GoText GoNet GoMap
open GoFlow hiding bind_eq_ok
open ControlModel DbMemory DbOperations DbIntegrity DbNetworks AddressPool AuthTokens ControlRoom
  ControlEnrollment EnrollmentOutcomes EnrollmentLaw

/-- What other enrollments do meanwhile: a transaction that is applied or not,
and the revocation with which a recovery gives up. -/
inductive Event where
  | transaction (surroundings : Surroundings) (request : EnrollmentRequest) (applied : Bool)
  | giveUp (token : String)

def Event.step : Event → State → State
  | .transaction surroundings request applied, state =>
    match transact surroundings request state with
    | none => state
    | some (_, after) => if applied then after else after.setRepository state.repository
  | .giveUp token, state => state.setSessions (revokeSession token state.sessions)

/-- The outcomes of the recovery's own steps. A read that fails does so with an
error other than `ErrNotFound`. -/
structure Reads where
  nodeFailure : Nat → Option String
  networksFailure : Nat → Option String
  delayed : Nat → Bool

def readContext : Option String → Context
  | none => .live
  | some detail => .done (.external detail)

inductive Behaviour where
  | done
  | lost (err : Error) (schedule : Nat → List Event) (reads : Reads)
  | hidden (err : Error) (schedule : Nat → List Event) (reads : Reads)

def Behaviour.applied : Behaviour → Bool
  | .done => true
  | .lost _ _ _ => false
  | .hidden _ _ _ => true

def recoveryOf (schedule : Nat → List Event) (reads : Reads) : Recovery :=
  { others := fun turn => run Event.step (schedule turn)
    nodeContext := fun attempt => readContext (reads.nodeFailure attempt)
    networksContext := fun attempt => readContext (reads.networksFailure attempt)
    delayed := reads.delayed }

def Behaviour.commit : Behaviour → Commit
  | .done => .done
  | .lost err schedule reads => .lost err (recoveryOf schedule reads)
  | .hidden err schedule reads => .hidden err (recoveryOf schedule reads)

def interleaved (schedule : Nat → List Event) (start : State) : Nat → State
  | 0 => start
  | turn + 1 => run Event.step (schedule turn) (interleaved schedule start turn)

structure EnrolledIn (repository : MemoryRepository) (nodeID networkID : String) (node : Node)
    (membership : Membership) : Prop where
  node : repository.nodes[nodeID]? = some node
  membership : repository.membership? networkID nodeID = some membership
  alone : ∀ other existing, repository.membership? other nodeID = some existing →
    other = networkID

section EnrolledIn

variable {repository : MemoryRepository} {nodeID networkID : String} {node added : Node}
  {membership : Membership} {invite : Invite} {network : Network} {pool : Pool} {host : Nat}
  {consumedAt : Time}

theorem withEnrollment_membership? (other member : String) :
    (withEnrollment repository added invite consumedAt network host).membership? other member =
      if network.id = other ∧ added.id = member then
        some (enrolledMembership network.id added.id host)
      else repository.membership? other member := by
  exact lookup₂_insert₂ ..

theorem EnrolledIn.kept (enrolled : EnrolledIn repository nodeID networkID node membership)
    (recorded : Recorded repository added invite network pool host) :
    EnrolledIn (withEnrollment repository added invite consumedAt network host) nodeID networkID
      node membership := by
  have apart : added.id ≠ nodeID := by
    intro same
    have fresh := recorded.freshNode
    rw [same, enrolled.node] at fresh
    cases fresh
  have others : ∀ other, (withEnrollment repository added invite consumedAt network
      host).membership? other nodeID = repository.membership? other nodeID := by
    intro other
    rw [withEnrollment_membership?, if_neg fun both => apart both.2]
  refine ⟨?_, (others networkID).trans enrolled.membership, fun other existing lookup => ?_⟩
  · simp only [withEnrollment, getElem?_insert, if_neg apart, enrolled.node]
  · rw [others] at lookup
    exact enrolled.alone other existing lookup

theorem EnrolledIn.of_recorded (sound : Integrity repository)
    (recorded : Recorded repository added invite network pool host) :
    EnrolledIn (withEnrollment repository added invite consumedAt network host) added.id network.id
      added (enrolledMembership network.id added.id host) := by
  refine ⟨Std.ExtTreeMap.getElem?_insert_self, ?_, fun other existing lookup => ?_⟩
  · rw [withEnrollment_membership?, if_pos ⟨rfl, rfl⟩]
  · rw [withEnrollment_membership?] at lookup
    split_ifs at lookup with same
    · exact same.1.symm
    · rw [absent_of_fresh sound recorded.freshNode other] at lookup
      cases lookup

theorem EnrolledIn.networkIDs (enrolled : EnrolledIn repository nodeID networkID node membership) :
    sliceStable (fun left right => left < right) (networksOfNode repository nodeID) =
      [networkID] := by
  have single : networksOfNode repository nodeID = [networkID] := by
    apply List.perm_singleton.mp
    rw [List.perm_ext_iff_of_nodup (networksOfNode_nodup _ _) (List.nodup_singleton _)]
    intro other
    rw [mem_networksOfNode, List.mem_singleton]
    constructor
    · rintro ⟨existing, lookup⟩
      exact enrolled.alone other existing lookup
    · rintro rfl
      exact ⟨membership, enrolled.membership⟩
  rw [single]
  rfl

end EnrolledIn

def KeptByEnrollments (property : MemoryRepository → Prop) : Prop :=
  ∀ repository node invite network pool host consumedAt, WellFormed repository →
    Recorded repository node invite network pool host → property repository →
      property (withEnrollment repository node invite consumedAt network host)

theorem event_invariant {property : MemoryRepository → Prop} (kept : KeptByEnrollments property)
    (event : Event) (state : State)
    (holds : WellFormed state.repository ∧ property state.repository) :
    WellFormed (event.step state).repository ∧ property (event.step state).repository := by
  cases event with
  | giveUp token => exact holds
  | transaction surroundings request applied =>
    simp only [Event.step]
    rcases transaction : transact surroundings request state with _ | ⟨result, after⟩
    · exact holds
    · cases applied with
      | false => exact holds
      | true =>
        obtain ⟨wellFormed, _, _, _, invite, network, pool, host, -, enrolled⟩ :=
          transact_enrolled holds.1 transaction
        have repositories := congrArg State.repository enrolled.transition
        refine ⟨wellFormed, ?_⟩
        simp only [if_true, repositories]
        exact kept _ _ _ _ _ _ _ holds.1 enrolled.recorded holds.2

theorem interleaved_invariant {property : MemoryRepository → Prop}
    (kept : KeptByEnrollments property) (schedule : Nat → List Event) {start : State}
    (holds : WellFormed start.repository ∧ property start.repository) (turn : Nat) :
    WellFormed (interleaved schedule start turn).repository ∧
      property (interleaved schedule start turn).repository := by
  induction turn with
  | zero => exact holds
  | succ turn ih =>
    exact run_invariant Event.step
      (fun state => WellFormed state.repository ∧ property state.repository)
      (event_invariant kept) (schedule turn) ih

theorem enrolledIn_kept (nodeID networkID : String) (node : Node) (membership : Membership) :
    KeptByEnrollments fun repository =>
      EnrolledIn repository nodeID networkID node membership :=
  fun _ _ _ _ _ _ _ _ recorded enrolled => enrolled.kept recorded

def Tracked (nodeID : String) (repository : MemoryRepository) : Prop :=
  repository.nodes[nodeID]? = none ∨
    ∃ networkID node membership, EnrolledIn repository nodeID networkID node membership

theorem tracked_kept (nodeID : String) : KeptByEnrollments (Tracked nodeID) := by
  intro repository node invite network pool host consumedAt wellFormed recorded tracked
  rcases tracked with unknown | ⟨networkID, registered, membership, enrolled⟩
  · by_cases same : node.id = nodeID
    · subst same
      exact Or.inr ⟨_, _, _, EnrolledIn.of_recorded wellFormed.integrity recorded⟩
    · refine Or.inl ?_
      simp only [withEnrollment, getElem?_insert, if_neg same, unknown]
  · exact Or.inr ⟨networkID, registered, membership, enrolled.kept recorded⟩

section Loop

variable {schedule : Nat → List Event} {reads : Reads} {start : State} {result : EnrollmentResult}
  {err : Error}

structure Taken (schedule : Nat → List Event) (reads : Reads) (start : State)
    (result : EnrollmentResult) (attempt : Nat) (node : Node) : Prop where
  nodeRead : reads.nodeFailure attempt = none
  networksRead : reads.networksFailure attempt = none
  enrolled : ∃ membership, EnrolledIn (interleaved schedule start (2 * attempt + 1)).repository
    result.node.id result.networkID node membership

structure Interleaving (schedule : Nat → List Event) (start : State) (nodeID : String) : Prop where
  wellFormed : ∀ turn, WellFormed (interleaved schedule start turn).repository
  tracked : ∀ turn, Tracked nodeID (interleaved schedule start turn).repository

theorem interleaving_of_tracked (schedule : Nat → List Event) {nodeID : String}
    (wellFormed : WellFormed start.repository) (tracked : Tracked nodeID start.repository) :
    Interleaving schedule start nodeID where
  wellFormed turn := (interleaved_invariant (tracked_kept nodeID) schedule
    ⟨wellFormed, tracked⟩ turn).1
  tracked turn := (interleaved_invariant (tracked_kept nodeID) schedule
    ⟨wellFormed, tracked⟩ turn).2

theorem Interleaving.next {nodeID networkID : String} {node : Node} {membership : Membership}
    (interleaving : Interleaving schedule start nodeID) {turn : Nat}
    (enrolled : EnrolledIn (interleaved schedule start turn).repository nodeID networkID node
      membership) :
    EnrolledIn (interleaved schedule start (turn + 1)).repository nodeID networkID node
      membership :=
  (run_invariant Event.step _ (event_invariant (enrolledIn_kept nodeID networkID node membership))
    (schedule turn) ⟨interleaving.wellFormed turn, enrolled⟩).2

theorem recover_turn (remaining : Nat) {attempt : Nat} (uncertain : Bool)
    (reached : 0 < attempt → reads.delayed attempt = true) :
    let next doubt := recoverEnrollmentCommit (recoveryOf schedule reads) result err remaining
      (attempt + 1) doubt (interleaved schedule start (2 * (attempt + 1)))
    recoverEnrollmentCommit (recoveryOf schedule reads) result err (remaining + 1) attempt uncertain
        (interleaved schedule start (2 * attempt)) =
      match getNode (readContext (reads.nodeFailure attempt)) result.node.id
          (interleaved schedule start (2 * attempt + 1)).repository,
        getNodeNetworkIDs (readContext (reads.networksFailure attempt)) result.node.id
          (interleaved schedule start (2 * (attempt + 1))).repository with
      | .ok found, .ok networkIDs =>
        if networkIDs = [result.networkID] then
          (.done { result with node := found }, interleaved schedule start (2 * (attempt + 1)))
        else next true
      | .error nodeErr, .error membershipErr =>
        next (uncertain || !(nodeErr.is .notFound && membershipErr.is .notFound))
      | _, _ => next true := by
  have going : ¬(0 < attempt ∧ reads.delayed attempt = false) := by
    rintro ⟨later, stopped⟩
    rw [reached later] at stopped
    cases stopped
  rw [recoverEnrollmentCommit]
  exact if_neg going

theorem recover_taken {remaining attempt : Nat} {uncertain : Bool} {node : Node}
    (interleaving : Interleaving schedule start result.node.id)
    (reached : 0 < attempt → reads.delayed attempt = true)
    (taken : Taken schedule reads start result attempt node) :
    recoverEnrollmentCommit (recoveryOf schedule reads) result err (remaining + 1) attempt uncertain
        (interleaved schedule start (2 * attempt)) =
      (.done { result with node := node }, interleaved schedule start (2 * (attempt + 1))) := by
  obtain ⟨nodeRead, networksRead, membership, enrolled⟩ := taken
  have later := interleaving.next enrolled
  have foundNode : getNode .live result.node.id
      (interleaved schedule start (2 * attempt + 1)).repository = .ok node :=
    getNode_eq_ok.mpr ⟨rfl, enrolled.node⟩
  have foundNetworks : getNodeNetworkIDs .live result.node.id
      (interleaved schedule start (2 * (attempt + 1))).repository = .ok [result.networkID] :=
    getNodeNetworkIDs_eq_ok.mpr ⟨rfl, ⟨node, later.node⟩, later.networkIDs⟩
  rw [recover_turn remaining uncertain reached, nodeRead, networksRead]
  simp only [readContext, foundNode, foundNetworks, if_true]

theorem readContext_live {detail : Option String} (live : readContext detail = .live) :
    detail = none := by
  cases detail with
  | none => rfl
  | some text => cases live

theorem unknown_of_notFound {detail : Option String} {nodeID : String}
    {repository : MemoryRepository} {readErr : Error}
    (failed : getNodeNetworkIDs (readContext detail) nodeID repository = .error readErr)
    (notFound : readErr.is .notFound = true) : repository.nodes[nodeID]? = none := by
  cases detail with
  | some text =>
    cases failed
    cases notFound
  | none =>
    cases stored : repository.nodes[nodeID]? with
    | none => rfl
    | some node =>
      have read := getNodeNetworkIDs_eq_ok.mpr ⟨(rfl : readContext none = .live),
        ⟨node, stored⟩, rfl⟩
      rw [failed] at read
      cases read

theorem recover_continues (err : Error) (remaining : Nat) (uncertain : Bool) {attempt : Nat}
    (interleaving : Interleaving schedule start result.node.id)
    (reached : 0 < attempt → reads.delayed attempt = true)
    (untaken : ¬∃ node, Taken schedule reads start result attempt node) :
    ∃ doubt, recoverEnrollmentCommit (recoveryOf schedule reads) result err (remaining + 1) attempt
        uncertain (interleaved schedule start (2 * attempt)) =
          recoverEnrollmentCommit (recoveryOf schedule reads) result err remaining (attempt + 1)
            doubt (interleaved schedule start (2 * (attempt + 1))) ∧
      (doubt = false → uncertain = false ∧
        (interleaved schedule start (2 * (attempt + 1))).repository.nodes[result.node.id]? =
          none) := by
  rw [recover_turn remaining uncertain reached]
  rcases nodeRead : getNode (readContext (reads.nodeFailure attempt)) result.node.id
    (interleaved schedule start (2 * attempt + 1)).repository with nodeErr | node
  all_goals
    rcases networksRead : getNodeNetworkIDs (readContext (reads.networksFailure attempt))
      result.node.id (interleaved schedule start (2 * (attempt + 1))).repository with
      networksErr | networkIDs
  · refine ⟨_, rfl, fun certain => ?_⟩
    simp only [Bool.or_eq_false_iff, Bool.not_eq_false', Bool.and_eq_true] at certain
    exact ⟨certain.1, unknown_of_notFound networksRead certain.2.2⟩
  · exact ⟨true, rfl, fun certain => by cases certain⟩
  · exact ⟨true, rfl, fun certain => by cases certain⟩
  · obtain ⟨nodeLive, stored⟩ := getNode_eq_ok.mp nodeRead
    obtain ⟨networksLive, -, listed⟩ := getNodeNetworkIDs_eq_ok.mp networksRead
    have others : networkIDs ≠ [result.networkID] := by
      rintro rfl
      rcases interleaving.tracked (2 * attempt + 1) with unknown |
        ⟨networkID, registered, membership, enrolled⟩
      · rw [unknown] at stored
        cases stored
      · have same : [result.networkID] = [networkID] :=
          listed.symm.trans (interleaving.next enrolled).networkIDs
        rw [List.singleton_inj] at same
        exact untaken ⟨registered, readContext_live nodeLive, readContext_live networksLive,
          membership, same ▸ enrolled⟩
    simp only [if_neg others]
    exact ⟨true, rfl, fun certain => by cases certain⟩

theorem recover_done (err : Error) (remaining : Nat) (uncertain : Bool) {attempt found : Nat}
    {node : Node} (interleaving : Interleaving schedule start result.node.id)
    (later : attempt ≤ found) (within : found < attempt + remaining)
    (reached : ∀ turn, attempt ≤ turn → turn ≤ found → 0 < turn → reads.delayed turn = true)
    (taken : Taken schedule reads start result found node) :
    ∃ recovered final, recoverEnrollmentCommit (recoveryOf schedule reads) result err remaining
      attempt uncertain (interleaved schedule start (2 * attempt)) = (.done recovered, final) := by
  induction remaining generalizing attempt uncertain with
  | zero => omega
  | succ remaining ih =>
    have here := reached attempt le_rfl later
    by_cases now : ∃ other, Taken schedule reads start result attempt other
    · obtain ⟨other, takenNow⟩ := now
      exact ⟨_, _, recover_taken interleaving here takenNow⟩
    · obtain ⟨doubt, continues, -⟩ :=
        recover_continues err remaining uncertain interleaving here now
      have different : attempt ≠ found := fun same => now (same ▸ ⟨node, taken⟩)
      rw [continues]
      exact ih doubt (by omega) (by omega) fun turn low high => reached turn (by omega) high

theorem recover_outcome (reads : Reads) (err : Error) (remaining attempt : Nat) (uncertain : Bool)
    (interleaving : Interleaving schedule start result.node.id) :
    let recovered := recoverEnrollmentCommit (recoveryOf schedule reads) result err remaining
      attempt uncertain (interleaved schedule start (2 * attempt))
    (∃ found node, attempt ≤ found ∧ found < attempt + remaining ∧
        (∀ turn, attempt ≤ turn → turn ≤ found → 0 < turn → reads.delayed turn = true) ∧
        Taken schedule reads start result found node ∧
        recovered = (.done { result with node := node },
          interleaved schedule start (2 * (found + 1)))) ∨
      (∃ pendingErr final, recovered = (.pending result pendingErr, final)) ∨
      (uncertain = false ∧ (0 < remaining → (interleaved schedule start
          (2 * (attempt + remaining))).repository.nodes[result.node.id]? = none) ∧
        recovered = (.failed err, (interleaved schedule start
          (2 * (attempt + remaining))).setSessions (revokeSession result.sessionToken
            (interleaved schedule start (2 * (attempt + remaining))).sessions))) := by
  induction remaining generalizing attempt uncertain with
  | zero =>
    cases uncertain with
    | true => exact Or.inr (Or.inl ⟨_, _, rfl⟩)
    | false => exact Or.inr (Or.inr ⟨rfl, fun positive => absurd positive (lt_irrefl 0), rfl⟩)
  | succ remaining ih =>
    by_cases stopped : 0 < attempt ∧ reads.delayed attempt = false
    · refine Or.inr (Or.inl ?_)
      simp only [recoverEnrollmentCommit]
      exact ⟨_, _, if_pos stopped⟩
    have here : 0 < attempt → reads.delayed attempt = true := fun positive =>
      Bool.eq_true_of_not_eq_false fun ended => stopped ⟨positive, ended⟩
    by_cases now : ∃ node, Taken schedule reads start result attempt node
    · obtain ⟨node, taken⟩ := now
      refine Or.inl ⟨attempt, node, le_rfl, by omega, fun turn low high => ?_, taken,
        recover_taken interleaving here taken⟩
      obtain rfl := le_antisymm low high
      exact here
    · obtain ⟨doubt, continues, certain⟩ :=
        recover_continues err remaining uncertain interleaving here now
      have total : attempt + 1 + remaining = attempt + (remaining + 1) := by omega
      have later := ih (attempt + 1) doubt
      simp only [← continues, total] at later
      rcases later with ⟨found, node, low, high, delays, taken, done⟩ | pending |
        ⟨sure, unknown, failed⟩
      · refine Or.inl ⟨found, node, by omega, high, fun turn first upto positive => ?_, taken, done⟩
        rcases Nat.eq_or_lt_of_le first with rfl | after
        · exact here positive
        · exact delays turn after upto positive
      · exact Or.inr (Or.inl pending)
      · obtain ⟨surely, unknownHere⟩ := certain sure
        refine Or.inr (Or.inr ⟨surely, fun _ => ?_, failed⟩)
        rcases Nat.eq_zero_or_pos remaining with rfl | more
        · exact unknownHere
        · exact unknown more

end Loop

/-- A returned enrollment is the one that the request's own transaction made and
that is stored; a request that fails without a token has left nothing behind. -/
def Honest (applied : Bool) (own : Option (EnrollmentResult × State)) (before : State) :
    EnrollmentReturn × State → Prop
  | (.done result, final) =>
    applied = true ∧
      (∃ enrollment after, own = some (enrollment, after) ∧ result.node = enrollment.node ∧
        result.membership = enrollment.membership) ∧
      final.repository.nodes[result.node.id]? = some result.node ∧
      final.repository.membership? result.networkID result.node.id = some result.membership
  | (.pending _ _, _) => True
  | (.failed _, final) =>
    (own = none ∧ final = before) ∨
      ∃ enrollment after, own = some (enrollment, after) ∧
        final.sessions.sessions[enrollment.sessionToken]? = none ∧
        final.repository.nodes[enrollment.node.id]? = none ∧
        ∀ networkID, final.repository.membership? networkID enrollment.node.id = none

/-- The transaction was not applied, and before the reads of an attempt another
enrollment put the same node identifier into the same network. -/
def Overtaken (attempts : Nat) (own : Option (EnrollmentResult × State)) (before : State) :
    Behaviour → Prop
  | .lost _ schedule reads =>
    ∃ enrollment after attempt membership, own = some (enrollment, after) ∧ attempt < attempts ∧
      (∀ turn, turn ≤ attempt → 0 < turn → reads.delayed turn = true) ∧
      reads.nodeFailure attempt = none ∧ reads.networksFailure attempt = none ∧
      (interleaved schedule (after.setRepository before.repository)
        (2 * attempt + 1)).repository.membership? enrollment.networkID enrollment.node.id =
          some membership
  | _ => False

section Callers

variable {surroundings : Surroundings} {request : EnrollmentRequest} {before after : State}
  {result : EnrollmentResult} {attempts : Nat}

theorem enrolledIn_of_transact (wellFormed : WellFormed before.repository)
    (transaction : transact surroundings request before = some (result, after)) :
    before.repository.nodes[result.node.id]? = none ∧
      EnrolledIn after.repository result.node.id result.networkID result.node
        result.membership := by
  obtain ⟨-, _, _, _, invite, network, pool, host, -, enrolled⟩ :=
    transact_enrolled wellFormed transaction
  rw [enrolled.returned, enrolled.transition]
  exact ⟨enrolled.recorded.freshNode, EnrolledIn.of_recorded wellFormed.integrity enrolled.recorded⟩

theorem revokeSession_absent (token : String) (present : token ≠ "") (store : SessionStore) :
    (revokeSession token store).sessions[token]? = none := by
  simp [revokeSession, present]

theorem honest_hidden (err : Error) (schedule : Nat → List Event) (reads : Reads)
    (wellFormed : WellFormed before.repository)
    (transaction : transact surroundings request before = some (result, after)) :
    Honest true (some (result, after)) before
      (recoverEnrollmentCommit (recoveryOf schedule reads) result err (attempts + 1) 0 false
        after) := by
  have enrolled := (enrolledIn_of_transact wellFormed transaction).2
  have keeps := interleaved_invariant (enrolledIn_kept _ _ _ _) schedule
    ⟨(transact_enrolled wellFormed transaction).1, enrolled⟩
  have interleaving := interleaving_of_tracked schedule
    (transact_enrolled wellFormed transaction).1 (Or.inr ⟨_, _, _, enrolled⟩)
  rcases recover_outcome reads err (attempts + 1) 0 false interleaving with
    ⟨found, node, -, -, -, taken, done⟩ | ⟨pendingErr, final, pending⟩ | ⟨-, unknown, -⟩
  · obtain ⟨-, -, membership, read⟩ := taken
    obtain rfl : result.node = node :=
      Option.some.inj ((keeps (2 * found + 1)).2.node.symm.trans read.node)
    rw [show after = interleaved schedule after (2 * 0) from rfl, done]
    exact ⟨rfl, ⟨result, after, rfl, rfl, rfl⟩, (keeps _).2.node, (keeps _).2.membership⟩
  · rw [show after = interleaved schedule after (2 * 0) from rfl, pending]
    trivial
  · have missing := unknown (Nat.succ_pos attempts)
    rw [(keeps _).2.node] at missing
    cases missing

theorem honest_lost_iff (err : Error) (schedule : Nat → List Event) (reads : Reads)
    (wellFormed : WellFormed before.repository)
    (transaction : transact surroundings request before = some (result, after)) :
    Honest false (some (result, after)) before
        (recoverEnrollmentCommit (recoveryOf schedule reads) result err (attempts + 1) 0 false
          (after.setRepository before.repository)) ↔
      ¬Overtaken (attempts + 1) (some (result, after)) before (.lost err schedule reads) := by
  have fresh := (enrolledIn_of_transact wellFormed transaction).1
  have interleaving : Interleaving schedule (after.setRepository before.repository)
      result.node.id :=
    interleaving_of_tracked schedule wellFormed (Or.inl fresh)
  have start : after.setRepository before.repository =
      interleaved schedule (after.setRepository before.repository) (2 * 0) := rfl
  constructor
  · rintro honest ⟨_, _, attempt, membership, ⟨⟩, within, delays, nodeRead, networksRead, lookup⟩
    have taken : ∃ node, Taken schedule reads (after.setRepository before.repository) result
        attempt node := by
      rcases interleaving.tracked (2 * attempt + 1) with unknown |
        ⟨networkID, node, stored, enrolled⟩
      · rw [absent_of_fresh (interleaving.wellFormed _).integrity unknown] at lookup
        cases lookup
      · have same := enrolled.alone _ _ lookup
        exact ⟨node, nodeRead, networksRead, stored, same ▸ enrolled⟩
    obtain ⟨node, takenAt⟩ := taken
    obtain ⟨recovered, final, done⟩ := recover_done err (attempts + 1) false interleaving
      (Nat.zero_le attempt) (by omega) (fun turn _ upto => delays turn upto) takenAt
    rw [start, done] at honest
    cases honest.1
  · intro alone
    rcases recover_outcome reads err (attempts + 1) 0 false interleaving with
      ⟨found, node, -, within, delays, taken, -⟩ | ⟨pendingErr, final, pending⟩ |
        ⟨-, unknown, failed⟩
    · obtain ⟨nodeRead, networksRead, membership, enrolled⟩ := taken
      exact absurd ⟨result, after, found, membership, rfl, by omega,
        fun turn upto => delays turn (Nat.zero_le turn) upto, nodeRead, networksRead,
        enrolled.membership⟩ alone
    · rw [start, pending]
      trivial
    · obtain ⟨-, _, _, _, _, _, _, _, -, enrolled⟩ := transact_enrolled wellFormed transaction
      have missing := unknown (Nat.succ_pos attempts)
      rw [start, failed]
      exact Or.inr ⟨result, after, rfl, revokeSession_absent _ enrolled.token.1 _, missing,
        absent_of_fresh (interleaving.wellFormed _).integrity missing⟩

end Callers

/-- In every reachable state, for every behaviour of the commit and every
interleaving with other enrollments. `NewHandler` allows at least one attempt. -/
theorem recovery_honest_unless_overtaken (maxAge : Duration) (actions : List Action)
    (sessions : SessionStore) (roomNetworkID : String) (limiter : RoomJoinLimiter)
    (attempts : Nat) (behaviour : Behaviour) (surroundings : Surroundings)
    (request : EnrollmentRequest) :
    let before : State := ⟨reached maxAge actions, sessions, roomNetworkID, limiter⟩
    let own := transact surroundings request before
    Honest behaviour.applied own before
        (enrollControl (attempts + 1) behaviour.commit surroundings request before) ↔
      ¬Overtaken (attempts + 1) own before behaviour := by
  intro before own
  have wellFormed : WellFormed before.repository := wellFormed_reached maxAge actions
  rcases enrollControl_cases (attempts + 1) behaviour.commit surroundings request before with
    ⟨failing, err, failed⟩ | ⟨result, after, transaction, finished⟩
  · have alone : ¬Overtaken (attempts + 1) own before behaviour := by
      cases behaviour with
      | done => exact id
      | hidden err schedule reads => exact id
      | lost err schedule reads =>
          rintro ⟨_, _, _, _, other, -⟩
          cases failing.symm.trans other
    rw [failed]
    exact iff_of_true (Or.inl ⟨failing, rfl⟩) alone
  · have present : own = some (result, after) := transaction
    rw [finished, present]
    cases behaviour with
    | done =>
        have enrolled := (enrolledIn_of_transact wellFormed transaction).2
        exact iff_of_true
          ⟨rfl, ⟨result, after, rfl, rfl, rfl⟩, enrolled.node, enrolled.membership⟩ id
    | hidden err schedule reads =>
        exact iff_of_true (honest_hidden err schedule reads wellFormed transaction) id
    | lost err schedule reads => exact honest_lost_iff err schedule reads wellFormed transaction

def returnedData : EnrollmentReturn → Option (String × IP)
  | .done result => some (result.node.publicKey, result.membership.virtualIPv4)
  | _ => none

/-- The transaction of `x` is rolled back, another client enrolls under the same
identifier, and the recovery returns that client's key with an address that
nobody holds. -/
theorem recovery_returns_other_enrollment :
    let before : State := ⟨run Action.step
        (invitingRun "n" "10.0.0.0/29" 1 [("one", "one.secret"), ("two", "two.secret")])
        (newMemoryRepositoryWithEndpointMaxAge minute),
      newSessionStore minute, "", newRoomJoinLimiter 0 0⟩
    let other : Event := .transaction { calmSurroundings 2 8 with draws := fun _ => .ok 1 }
      ⟨"two.secret", "x", "other", "other key", "linux", "1"⟩ true
    let returned := enrollControl 3
      (Behaviour.lost (.external "commit") (fun turn => if turn = 0 then [other] else [])
        ⟨fun _ => none, fun _ => none, fun _ => true⟩).commit
      (calmSurroundings 2 7) ⟨"one.secret", "x", "own", "own key", "linux", "1"⟩ before
    returnedData returned.1 = some ("other key", [10, 0, 0, 1]) ∧
      (returned.2.repository.membership? "n" "x").map Membership.virtualIPv4 =
        some [10, 0, 0, 2] := by
  decide +kernel

end Ipv6Mesh.EnrollmentRecovery
