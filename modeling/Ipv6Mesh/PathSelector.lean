import Ipv6Mesh.GoFlow
import Ipv6Mesh.GoText

/-!
# The path selector

`internal/path/selector.go`: a state and two counters that are reset and
incremented in different ways by five branches. The counters are tied to the
history of accepted observations: in each state the ones that the state reads are
the lengths of the last streak of successes and of failures.
-/

namespace Ipv6Mesh.PathSelector

open GoText GoFlow

inductive PathState where
  | direct
  | suspect
  | relay
  | disconnected
deriving DecidableEq

def PathState.text : PathState → String
  | .direct => "direct"
  | .suspect => "suspect"
  | .relay => "relay"
  | .disconnected => "disconnected"

inductive SelectorError where
  | invalidState
  | outOfOrderObservation
deriving DecidableEq

structure Observation where
  observedAt : Time
  directHealthy : Bool
  relayHealthy : Bool
  memberActive : Bool

structure Options where
  directFailureThreshold : Int
  recoverySuccessThreshold : Int

structure Selector where
  directFailureThreshold : Nat
  recoverySuccessThreshold : Nat
  state : PathState
  directFailures : Nat
  directSuccesses : Nat
  lastAt : Time
  failuresPositive : 0 < directFailureThreshold
  successesPositive : 0 < recoverySuccessThreshold

def lowerRune (rune : Char) : Char :=
  if rune.toNat = 0x130 then 'i' else if rune.toNat = 0x212A then 'k' else rune.toLower

def validState (text : String) : Option PathState :=
  let lower := text.map lowerRune
  [.direct, .suspect, .relay, .disconnected].find? fun state : PathState => state.text = lower

def thresholdOr (given : Int) : { threshold : Nat // 0 < threshold } :=
  if positive : 0 < given then ⟨given.toNat, by omega⟩ else ⟨2, Nat.two_pos⟩

def newSelector (options : Options) (initial : String) : Except SelectorError Selector :=
  match validState initial with
  | none => .error .invalidState
  | some state =>
    let failures := thresholdOr options.directFailureThreshold
    let successes := thresholdOr options.recoverySuccessThreshold
    .ok { directFailureThreshold := failures.val, recoverySuccessThreshold := successes.val
          state := state, directFailures := 0, directSuccesses := 0, lastAt := 0
          failuresPositive := failures.property, successesPositive := successes.property }

def effectiveTime (clock : Time) (observation : Observation) : Time :=
  if Time.isZero observation.observedAt then clock else observation.observedAt

def recover (selector : Selector) (short : PathState) : Selector :=
  let successes := selector.directSuccesses + 1
  { selector with
    directFailures := 0
    directSuccesses := successes
    state := if selector.recoverySuccessThreshold ≤ successes then .direct else short }

def fallBack (observation : Observation) : PathState :=
  if observation.relayHealthy then .relay else .disconnected

def transition (observation : Observation) (selector : Selector) : Selector :=
  match selector.state with
  | .direct =>
    if observation.directHealthy then { selector with directFailures := 0, directSuccesses := 0 }
    else
      let failures := selector.directFailures + 1
      { selector with
        directSuccesses := 0
        directFailures := failures
        state := if failures < selector.directFailureThreshold then .suspect
          else fallBack observation }
  | .suspect =>
    if observation.directHealthy then recover selector .suspect
    else
      let failures := selector.directFailures + 1
      { selector with
        directSuccesses := 0
        directFailures := failures
        state := if selector.directFailureThreshold ≤ failures then fallBack observation
          else .suspect }
  | .relay =>
    if observation.directHealthy then recover selector .relay
    else
      { selector with
        directSuccesses := 0
        directFailures := 0
        state := if observation.relayHealthy then .relay else .disconnected }
  | .disconnected =>
    if observation.directHealthy then recover selector .suspect
    else if observation.relayHealthy then
      { selector with directFailures := 0, directSuccesses := 0, state := .relay }
    else selector

def observeWithError (clock : Time) (observation : Observation) (selector : Selector) :
    (PathState × Option SelectorError) × Selector :=
  let at_ := effectiveTime clock observation
  if Time.isZero selector.lastAt = false ∧ at_ < selector.lastAt then
    ((selector.state, some .outOfOrderObservation), selector)
  else
    let timed := { selector with lastAt := at_ }
    let after :=
      if observation.memberActive then transition observation timed
      else { timed with state := .disconnected, directFailures := 0, directSuccesses := 0 }
    ((after.state, none), after)

section Streaks

variable {Item : Type} (counts : Item → Bool)

/-- The number of latest items, without a gap, that count. The latest item is first. -/
def streak (history : List Item) : Nat := (history.takeWhile counts).length

def LatestAll (number : Nat) (history : List Item) : Prop :=
  number ≤ history.length ∧ ∀ item ∈ history.take number, counts item = true

@[simp] theorem streak_nil : streak counts ([] : List Item) = 0 := rfl

theorem streak_cons_of_counts {item : Item} (history : List Item) (counted : counts item = true) :
    streak counts (item :: history) = streak counts history + 1 := by
  simp [streak, counted]

theorem streak_cons_of_not {item : Item} (history : List Item) (missed : counts item = false) :
    streak counts (item :: history) = 0 := by
  simp [streak, missed]

theorem le_streak_iff (number : Nat) (history : List Item) :
    number ≤ streak counts history ↔ LatestAll counts number history := by
  induction history generalizing number with
  | nil => simp [LatestAll]
  | cons item history ih =>
    cases number with
    | zero => simp [LatestAll]
    | succ number =>
      cases counted : counts item with
      | true =>
        rw [streak_cons_of_counts counts history counted, Nat.add_le_add_iff_right, ih]
        simp [LatestAll, counted]
      | false =>
        rw [streak_cons_of_not counts history counted]
        simp [LatestAll, counted]

end Streaks

structure Event where
  clock : Time
  observation : Observation

def Event.time (event : Event) : Time := effectiveTime event.clock event.observation

def succeeds (event : Event) : Bool :=
  event.observation.memberActive && event.observation.directHealthy

def fails (event : Event) : Bool :=
  event.observation.memberActive && !event.observation.directHealthy

def latestTime : List Event → Time
  | [] => 0
  | event :: _ => event.time

/-- Not older than the latest event that was taken. -/
def Accepted (history : List Event) (event : Event) : Prop :=
  latestTime history = 0 ∨ latestTime history ≤ event.time

instance (history : List Event) (event : Event) : Decidable (Accepted history event) :=
  inferInstanceAs (Decidable (_ ∨ _))

structure Observed where
  selector : Selector
  history : List Event

def Observed.step (event : Event) (observed : Observed) : Observed where
  selector := (observeWithError event.clock event.observation observed.selector).2
  history := if Accepted observed.history event then event :: observed.history
    else observed.history

structure Tracks (observed : Observed) : Prop where
  lastAt : observed.selector.lastAt = latestTime observed.history
  successes : observed.selector.state ≠ .direct →
    observed.selector.directSuccesses = streak succeeds observed.history
  idle : observed.selector.state = .disconnected → observed.selector.directSuccesses = 0
  failures : observed.selector.state = .direct ∨ observed.selector.state = .suspect →
    observed.selector.directFailures = streak fails observed.history

structure Moved (before after : Selector) (event : Event) (history : List Event) : Prop where
  recovers : before.state ≠ .direct →
    (after.state = .direct ↔
      LatestAll succeeds before.recoverySuccessThreshold (event :: history))
  leaves : before.state = .direct ∨ before.state = .suspect →
    ((after.state = .relay ∨ after.state = .disconnected) ↔
      LatestAll fails before.directFailureThreshold (event :: history)) ∧
    (after.state = .relay ∨ after.state = .disconnected →
      (after.state = .relay ↔ event.observation.relayHealthy = true))
  stays : before.state = .direct → event.observation.directHealthy = true → after.state = .direct
  relayed : before.state = .relay →
    (after.state = .disconnected ↔
      event.observation.directHealthy = false ∧ event.observation.relayHealthy = false) ∧
    after.state ≠ .suspect
  reconnects : before.state = .disconnected →
    (after.state = .relay ↔
      event.observation.directHealthy = false ∧ event.observation.relayHealthy = true) ∧
    (after.state = .disconnected ↔
      event.observation.directHealthy = false ∧ event.observation.relayHealthy = false)

section Steps

variable {event : Event} {history : List Event} {selector : Selector}

theorem streaks_of_success (history : List Event)
    (active : event.observation.memberActive = true)
    (healthy : event.observation.directHealthy = true) :
    streak succeeds (event :: history) = streak succeeds history + 1 ∧
      streak fails (event :: history) = 0 :=
  ⟨streak_cons_of_counts _ _ (by simp [succeeds, active, healthy]),
    streak_cons_of_not _ _ (by simp [fails, healthy])⟩

theorem streaks_of_failure (history : List Event)
    (active : event.observation.memberActive = true)
    (unhealthy : event.observation.directHealthy = false) :
    streak succeeds (event :: history) = 0 ∧
      streak fails (event :: history) = streak fails history + 1 :=
  ⟨streak_cons_of_not _ _ (by simp [succeeds, unhealthy]),
    streak_cons_of_counts _ _ (by simp [fails, active, unhealthy])⟩

theorem not_latestAll_succeeds (active : event.observation.memberActive = true)
    (unhealthy : event.observation.directHealthy = false) {number : Nat} (positive : 0 < number) :
    ¬LatestAll succeeds number (event :: history) := by
  rw [← le_streak_iff, (streaks_of_failure history active unhealthy).1]
  omega

theorem not_latestAll_fails (active : event.observation.memberActive = true)
    (healthy : event.observation.directHealthy = true) {number : Nat} (positive : 0 < number) :
    ¬LatestAll fails number (event :: history) := by
  rw [← le_streak_iff, (streaks_of_success history active healthy).2]
  omega

structure Recovered (before after : Selector) (short : PathState) (event : Event)
    (history : List Event) : Prop where
  lastAt : after.lastAt = event.time
  successes : after.directSuccesses = streak succeeds (event :: history)
  failures : after.directFailures = streak fails (event :: history)
  state : (after.state = .direct ∧
      LatestAll succeeds before.recoverySuccessThreshold (event :: history)) ∨
    (after.state = short ∧
      ¬LatestAll succeeds before.recoverySuccessThreshold (event :: history))

theorem recovered (counted : selector.directSuccesses = streak succeeds history)
    (short : PathState) (active : event.observation.memberActive = true)
    (healthy : event.observation.directHealthy = true) :
    Recovered selector (recover { selector with lastAt := event.time } short) short event
      history := by
  obtain ⟨up, down⟩ := streaks_of_success history active healthy
  refine ⟨rfl, ?_, down.symm, ?_⟩
  · rw [up, ← counted]
    rfl
  · rw [← le_streak_iff, up, ← counted]
    simp only [recover]
    split_ifs with enough
    · exact Or.inl ⟨rfl, enough⟩
    · exact Or.inr ⟨rfl, enough⟩

structure Failed (before after : Selector) (event : Event) (history : List Event) : Prop where
  lastAt : after.lastAt = event.time
  successes : after.directSuccesses = streak succeeds (event :: history)
  failures : after.directFailures = streak fails (event :: history)
  state : (after.state = .suspect ∧
      ¬LatestAll fails before.directFailureThreshold (event :: history)) ∨
    (after.state = fallBack event.observation ∧
      LatestAll fails before.directFailureThreshold (event :: history))

theorem failed (counted : selector.directFailures = streak fails history)
    (judged : selector.state = .direct ∨ selector.state = .suspect)
    (active : event.observation.memberActive = true)
    (unhealthy : event.observation.directHealthy = false) :
    Failed selector (transition event.observation { selector with lastAt := event.time }) event
      history := by
  obtain ⟨down, up⟩ := streaks_of_failure history active unhealthy
  rw [← counted] at up
  rcases judged with state | state <;> simp only [transition, state, unhealthy]
  · refine ⟨rfl, down.symm, up.symm, ?_⟩
    rw [← le_streak_iff, up]
    by_cases enough : selector.directFailures + 1 < selector.directFailureThreshold
    · exact Or.inl ⟨by simp [enough], by omega⟩
    · exact Or.inr ⟨by simp [enough], by omega⟩
  · refine ⟨rfl, down.symm, up.symm, ?_⟩
    rw [← le_streak_iff, up]
    by_cases enough : selector.directFailureThreshold ≤ selector.directFailures + 1
    · exact Or.inr ⟨by simp [enough], enough⟩
    · exact Or.inl ⟨by simp [enough], enough⟩

variable {after : Selector}

theorem tracks_of_recovered {short : PathState}
    (recovery : Recovered selector after short event history) (connected : short ≠ .disconnected) :
    Tracks ⟨after, event :: history⟩ where
  lastAt := recovery.lastAt
  successes _ := recovery.successes
  idle isDisconnected := by
    rcases recovery.state with ⟨now, -⟩ | ⟨now, -⟩ <;> rw [now] at isDisconnected
    · cases isDisconnected
    · exact absurd isDisconnected connected
  failures _ := recovery.failures

theorem tracks_of_failed (failure : Failed selector after event history)
    (active : event.observation.memberActive = true)
    (unhealthy : event.observation.directHealthy = false) :
    Tracks ⟨after, event :: history⟩ where
  lastAt := failure.lastAt
  successes _ := failure.successes
  idle _ := failure.successes.trans (streaks_of_failure history active unhealthy).1
  failures _ := failure.failures

theorem fallBack_cases (observation : Observation) :
    (fallBack observation = .relay ∧ observation.relayHealthy = true) ∨
      (fallBack observation = .disconnected ∧ observation.relayHealthy = false) := by
  unfold fallBack
  cases observation.relayHealthy <;> simp

theorem moved_of_failed (failure : Failed selector after event history)
    (judged : selector.state = .direct ∨ selector.state = .suspect)
    (active : event.observation.memberActive = true)
    (unhealthy : event.observation.directHealthy = false) :
    Moved selector after event history := by
  have noRecovery : ¬LatestAll succeeds selector.recoverySuccessThreshold (event :: history) :=
    not_latestAll_succeeds active unhealthy selector.successesPositive
  have elsewhere : selector.state ≠ .relay ∧ selector.state ≠ .disconnected := by
    rcases judged with state | state <;> simp [state]
  constructor
  case recovers =>
    intro _
    refine iff_of_false (fun isDirect => ?_) noRecovery
    rcases failure.state with ⟨now, -⟩ | ⟨now, -⟩ <;> rw [now] at isDirect
    · cases isDirect
    · rcases fallBack_cases event.observation with ⟨chosen, -⟩ | ⟨chosen, -⟩ <;>
        rw [chosen] at isDirect <;> cases isDirect
  case leaves =>
    intro _
    rcases failure.state with ⟨now, short⟩ | ⟨now, enough⟩
    · simp [now, short]
    · rcases fallBack_cases event.observation with ⟨chosen, relay⟩ | ⟨chosen, relay⟩ <;>
        simp [now, chosen, relay, enough]
  case stays =>
    intro _ healthy
    rw [unhealthy] at healthy
    cases healthy
  case relayed => exact fun state => absurd state elsewhere.1
  case reconnects => exact fun state => absurd state elsewhere.2

theorem moved_of_recovered {short : PathState}
    (recovery : Recovered selector after short event history)
    (waits : (selector.state = .suspect ∧ short = .suspect) ∨
      (selector.state = .relay ∧ short = .relay) ∨
      (selector.state = .disconnected ∧ short = .suspect))
    (active : event.observation.memberActive = true)
    (healthy : event.observation.directHealthy = true) :
    Moved selector after event history := by
  have noFailure : ¬LatestAll fails selector.directFailureThreshold (event :: history) :=
    not_latestAll_fails active healthy selector.failuresPositive
  rcases waits with ⟨state, rfl⟩ | ⟨state, rfl⟩ | ⟨state, rfl⟩ <;>
    rcases recovery.state with ⟨now, enough⟩ | ⟨now, enough⟩ <;>
    exact ⟨fun _ => by simp [now, enough], fun _ => by simp_all, fun _ _ => by simp_all,
      fun _ => by simp_all, fun _ => by simp_all⟩

theorem moved_direct_success (state : selector.state = .direct)
    (active : event.observation.memberActive = true)
    (healthy : event.observation.directHealthy = true) :
    let after := transition event.observation { selector with lastAt := event.time }
    Moved selector after event history ∧ Tracks ⟨after, event :: history⟩ := by
  have noFailure : ¬LatestAll fails selector.directFailureThreshold (event :: history) :=
    not_latestAll_fails active healthy selector.failuresPositive
  have down := (streaks_of_success history active healthy).2
  simp only [transition, state, healthy, if_true]
  constructor
  · constructor <;> simp [state, noFailure]
  · constructor <;> simp [latestTime, down]

theorem moved_away_failure (tracks : Tracks ⟨selector, history⟩)
    (away : selector.state = .relay ∨ selector.state = .disconnected)
    (active : event.observation.memberActive = true)
    (unhealthy : event.observation.directHealthy = false) :
    let after := transition event.observation { selector with lastAt := event.time }
    Moved selector after event history ∧ Tracks ⟨after, event :: history⟩ := by
  have noRecovery : ¬LatestAll succeeds selector.recoverySuccessThreshold (event :: history) :=
    not_latestAll_succeeds active unhealthy selector.successesPositive
  have down := (streaks_of_failure history active unhealthy).1
  -- without any path nothing is reset: the count of successes is zero already
  have idle : selector.state = .disconnected → selector.directSuccesses = 0 := tracks.idle
  rcases away with state | state <;> rw [state] at idle <;>
    simp only [transition, state, unhealthy] <;>
    cases relay : event.observation.relayHealthy
  all_goals
    constructor
    · constructor <;> simp [state, unhealthy, relay, noRecovery]
    · constructor <;> simp [latestTime, down, idle]

theorem moved_transition (tracks : Tracks ⟨selector, history⟩)
    (active : event.observation.memberActive = true) :
    let after := transition event.observation { selector with lastAt := event.time }
    Moved selector after event history ∧ Tracks ⟨after, event :: history⟩ := by
  intro after
  cases healthy : event.observation.directHealthy with
  | true =>
    have waiting : ∀ short, selector.state ≠ .direct → short ≠ .disconnected →
        ((selector.state = .suspect ∧ short = .suspect) ∨
          (selector.state = .relay ∧ short = .relay) ∨
          (selector.state = .disconnected ∧ short = .suspect)) →
        after = recover { selector with lastAt := event.time } short →
        Moved selector after event history ∧ Tracks ⟨after, event :: history⟩ := by
      intro short away connected waits same
      rw [same]
      have recovery := recovered (tracks.successes away) short active healthy
      exact ⟨moved_of_recovered recovery waits active healthy,
        tracks_of_recovered recovery connected⟩
    cases state : selector.state with
    | direct => exact moved_direct_success state active healthy
    | suspect | disconnected =>
      exact waiting .suspect (by simp [state]) (by decide) (by simp [state])
        (by simp [after, transition, state, healthy])
    | relay =>
      exact waiting .relay (by simp [state]) (by decide) (by simp [state])
        (by simp [after, transition, state, healthy])
  | false =>
    have judged : selector.state = .direct ∨ selector.state = .suspect →
        Moved selector after event history ∧ Tracks ⟨after, event :: history⟩ := by
      intro judging
      have failure := failed (tracks.failures judging) judging active healthy
      exact ⟨moved_of_failed failure judging active healthy,
        tracks_of_failed failure active healthy⟩
    cases state : selector.state with
    | direct => exact judged (Or.inl state)
    | suspect => exact judged (Or.inr state)
    | relay => exact moved_away_failure tracks (Or.inl state) active healthy
    | disconnected => exact moved_away_failure tracks (Or.inr state) active healthy

theorem rejected_iff (tracks : Tracks ⟨selector, history⟩) :
    (Time.isZero selector.lastAt = false ∧
      effectiveTime event.clock event.observation < selector.lastAt) ↔
      ¬Accepted history event := by
  have lastAt := tracks.lastAt
  simp only at lastAt
  rw [lastAt]
  simp [Accepted, Time.isZero, Event.time]

end Steps

structure Hysteresis (before : Observed) (event : Event) : Prop where
  rejects : ¬Accepted before.history event →
    observeWithError event.clock event.observation before.selector =
      ((before.selector.state, some .outOfOrderObservation), before.selector)
  answers : Accepted before.history event →
    (observeWithError event.clock event.observation before.selector).1 =
      ((before.step event).selector.state, none) ∧
    (before.step event).selector.lastAt = event.time
  deactivates : Accepted before.history event → event.observation.memberActive = false →
    (before.step event).selector.state = .disconnected
  recovers : Accepted before.history event → before.selector.state ≠ .direct →
    ((before.step event).selector.state = .direct ↔
      LatestAll succeeds before.selector.recoverySuccessThreshold (event :: before.history))
  moves : Accepted before.history event → event.observation.memberActive = true →
    Moved before.selector (before.step event).selector event before.history

section Observations

variable {event : Event} {history : List Event} {selector : Selector}

theorem step_active (tracks : Tracks ⟨selector, history⟩) (accepted : Accepted history event)
    (active : event.observation.memberActive = true) :
    observeWithError event.clock event.observation selector =
      (((transition event.observation { selector with lastAt := event.time }).state, none),
        transition event.observation { selector with lastAt := event.time }) := by
  have passes := (rejected_iff tracks).not_left.mpr accepted
  simp only [observeWithError, if_neg passes, active, if_true]
  rfl

theorem step_inactive (tracks : Tracks ⟨selector, history⟩) (accepted : Accepted history event)
    (inactive : event.observation.memberActive = false) :
    observeWithError event.clock event.observation selector =
      ((.disconnected, none), { selector with
        lastAt := event.time, state := .disconnected, directFailures := 0,
        directSuccesses := 0 }) := by
  have passes := (rejected_iff tracks).not_left.mpr accepted
  simp only [observeWithError, if_neg passes, inactive]
  rfl

theorem step_rejected (tracks : Tracks ⟨selector, history⟩) (rejected : ¬Accepted history event) :
    observeWithError event.clock event.observation selector =
      ((selector.state, some .outOfOrderObservation), selector) :=
  if_pos ((rejected_iff tracks).mpr rejected)

theorem step_tracks (event : Event) {observed : Observed} (tracks : Tracks observed) :
    Hysteresis observed event ∧ Tracks (observed.step event) := by
  obtain ⟨selector, history⟩ := observed
  by_cases accepted : Accepted history event
  · cases active : event.observation.memberActive with
    | true =>
      obtain ⟨moved, tracked⟩ := moved_transition tracks active
      have observed := step_active tracks accepted active
      simp only [Observed.step, if_pos accepted, observed]
      refine ⟨⟨fun rejected => absurd accepted rejected, fun _ => ?_, fun _ inactive => ?_,
        fun _ => ?_, fun _ _ => ?_⟩, tracked⟩
      all_goals simp only [Observed.step, observed]
      · exact ⟨trivial, tracked.lastAt⟩
      · rw [active] at inactive
        cases inactive
      · exact moved.recovers
      · exact moved
    | false =>
      have observed := step_inactive tracks accepted active
      have down : streak succeeds (event :: history) = 0 :=
        streak_cons_of_not _ _ (by simp [succeeds, active])
      have noRecovery : ¬LatestAll succeeds selector.recoverySuccessThreshold
          (event :: history) := by
        rw [← le_streak_iff, down]
        exact Nat.not_le.mpr selector.successesPositive
      simp only [Observed.step, if_pos accepted, observed]
      constructor
      · refine ⟨fun rejected => absurd accepted rejected, fun _ => ?_, fun _ _ => ?_, fun _ _ => ?_,
          fun _ isActive => ?_⟩
        all_goals simp only [Observed.step, observed]
        · exact ⟨trivial, trivial⟩
        · exact iff_of_false (by decide) noRecovery
        · rw [active] at isActive
          cases isActive
      · constructor <;> simp [latestTime, down]
  · have observed := step_rejected tracks accepted
    simp only [Observed.step, if_neg accepted, observed]
    exact ⟨⟨fun _ => observed, fun isAccepted => absurd isAccepted accepted,
      fun isAccepted => absurd isAccepted accepted, fun isAccepted => absurd isAccepted accepted,
      fun isAccepted => absurd isAccepted accepted⟩, tracks⟩

theorem transition_thresholds (observation : Observation) (selector : Selector) :
    (transition observation selector).directFailureThreshold = selector.directFailureThreshold ∧
      (transition observation selector).recoverySuccessThreshold =
        selector.recoverySuccessThreshold := by
  unfold transition
  cases selector.state <;> simp only <;> split_ifs <;> exact ⟨rfl, rfl⟩

theorem observe_thresholds (clock : Time) (observation : Observation) (selector : Selector) :
    (observeWithError clock observation selector).2.directFailureThreshold =
        selector.directFailureThreshold ∧
      (observeWithError clock observation selector).2.recoverySuccessThreshold =
        selector.recoverySuccessThreshold := by
  simp only [observeWithError]
  split_ifs
  · exact ⟨rfl, rfl⟩
  · exact transition_thresholds observation _
  · exact ⟨rfl, rfl⟩

end Observations

theorem newSelector_eq_ok {failures successes : Nat} (failuresPositive : 0 < failures)
    (successesPositive : 0 < successes) {initial : String} {selector : Selector}
    (created : newSelector ⟨failures, successes⟩ initial = .ok selector) :
    selector.directFailureThreshold = failures ∧
      selector.recoverySuccessThreshold = successes ∧ Tracks ⟨selector, []⟩ := by
  unfold newSelector at created
  cases state : validState initial with
  | none =>
    rw [state] at created
    cases created
  | some start =>
    rw [state] at created
    cases created
    refine ⟨?_, ?_, ⟨rfl, fun _ => rfl, fun _ => rfl, fun _ => rfl⟩⟩
    · simp [thresholdOr, failuresPositive]
    · simp [thresholdOr, successesPositive]

/-- For all thresholds, initial states and sequences of observations. -/
theorem selector_has_exact_hysteresis (failures successes : Nat) (failuresPositive : 0 < failures)
    (successesPositive : 0 < successes) (initial : String) (selector : Selector)
    (created : newSelector ⟨failures, successes⟩ initial = .ok selector) (events : List Event)
    (event : Event) :
    let before := run Observed.step events ⟨selector, []⟩
    before.selector.directFailureThreshold = failures ∧
      before.selector.recoverySuccessThreshold = successes ∧ Hysteresis before event := by
  obtain ⟨sameFailures, sameSuccesses, tracks⟩ :=
    newSelector_eq_ok failuresPositive successesPositive created
  have kept := run_invariant Observed.step (fun observed => Tracks observed ∧
    observed.selector.directFailureThreshold = failures ∧
    observed.selector.recoverySuccessThreshold = successes) (fun event observed holds => by
      obtain ⟨tracking, keepsFailures, keepsSuccesses⟩ := holds
      have same := observe_thresholds event.clock event.observation observed.selector
      exact ⟨(step_tracks event tracking).2, same.1.trans keepsFailures,
        same.2.trans keepsSuccesses⟩) events ⟨tracks, sameFailures, sameSuccesses⟩
  exact ⟨kept.2.1, kept.2.2, (step_tracks event kept.1).1⟩

theorem selector_has_exact_hysteresis_at_two :
    ∃ selector, newSelector ⟨2, 2⟩ "Direct" = .ok selector ∧
      let before := run Observed.step [⟨1, ⟨0, false, true, true⟩⟩] ⟨selector, []⟩
      before.selector.directFailureThreshold = 2 ∧ before.selector.recoverySuccessThreshold = 2 ∧
        Hysteresis before ⟨2, ⟨0, false, true, true⟩⟩ := by
  cases created : newSelector ⟨2, 2⟩ "Direct" with
  | error err =>
      have valid : (newSelector ⟨2, 2⟩ "Direct").toOption.isSome = true := by decide +kernel
      rw [created] at valid
      cases valid
  | ok selector =>
      exact ⟨selector, rfl, selector_has_exact_hysteresis 2 2 (by decide) (by decide) "Direct"
        selector created _ _⟩

/-- A clock at the zero time: the observation of one nanosecond before it is
earlier than the last accepted one, and is not rejected. -/
theorem selector_accepts_before_zero_time :
    let first : Event := ⟨0, ⟨0, true, true, true⟩⟩
    let second : Event := ⟨0, ⟨-1, false, true, true⟩⟩
    (newSelector ⟨1, 1⟩ "direct").toOption.map (fun selector =>
      let before := (observeWithError first.clock first.observation selector).2
      let answer := (observeWithError second.clock second.observation before).1
      (before.lastAt, decide (second.time < before.lastAt), answer)) =
      some (first.time, true, .relay, none) := by
  decide +kernel

end Ipv6Mesh.PathSelector
