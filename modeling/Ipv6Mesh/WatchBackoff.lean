import Ipv6Mesh.ControlModel

/-!
# Reconnect delays

`Client.WatchWithOptions` of `internal/control/events.go`, with 64-bit durations.
What the server, the network and the caller contribute to one turn of its loop
is a `Turn`; a run is a list of turns, and its trace keeps every delay waited,
every call of `nextBackoff` and every snapshot received, in order.
-/

namespace Ipv6Mesh.WatchBackoff

open ControlModel

structure WatchOptions where
  initialBackoff : Int64
  maxBackoff : Int64
  maxMessageBytes : Int64
deriving DecidableEq

def WatchOptions.effective (options : WatchOptions) : WatchOptions :=
  let initialBackoff := if options.initialBackoff ≤ 0 then 250000000 else options.initialBackoff
  { initialBackoff := initialBackoff
    maxBackoff := if options.maxBackoff < initialBackoff then 10000000000 else options.maxBackoff
    maxMessageBytes := if options.maxMessageBytes ≤ 0 then 1048576 else options.maxMessageBytes }

def nextBackoff (current maximum : Int64) : Int64 :=
  if maximum / 2 ≤ current ∨ maximum - current < current then maximum else current * 2

inductive ConnectError where
  | http (status : Nat)
  | other (detail : String)
deriving DecidableEq

def watchRetryable : ConnectError → Bool
  | .http status => status ∉ [401, 403, 404, 409]
  | .other _ => true

inductive WatchError where
  | context (err : Error)
  | connect (err : ConnectError)
  | decode (err : Error)
  | foreignNetwork
  | callback (err : Error)

def contextResult : Context → Except WatchError Unit
  | .nil => .error (.context (.sentinel .contextCanceled))
  | .live => .ok ()
  | .done err => .error (.context err)

/-- One turn of the read loop: the context before the read, then the failed
read, or the decoded event and what the callback makes of it. -/
inductive Incoming where
  | cancelled (err : Error)
  | readError
  | message (event : Except Error NetworkSnapshot) (handled : Except Error Unit)

inductive Observation where
  | waits (delay : Int64)
  | advances (current : Int64)
  | snapshot
deriving DecidableEq

inductive ReadResult where
  | closed (received : Bool) (backoff : Int64)
  | returns (err : WatchError)
  | reading

def readMessages (options : WatchOptions) (networkID : String) :
    List Incoming → Bool → Int64 → List Observation × ReadResult
  | [], _, _ => ([], .reading)
  | .cancelled err :: _, _, _ => ([], .returns (.context err))
  | .readError :: _, received, backoff => ([], .closed received backoff)
  | .message (.error err) _ :: _, _, _ => ([], .returns (.decode err))
  | .message (.ok snapshot) handled :: rest, _, _ =>
    if snapshot.networkID ≠ networkID then ([], .returns .foreignNetwork)
    else
      match handled with
      | .error err => ([], .returns (.callback err))
      | .ok () =>
        let (seen, result) := readMessages options networkID rest true options.initialBackoff
        (.snapshot :: seen, result)

structure Turn where
  before : Context
  connection : Except ConnectError (List Incoming)
  after : Context
  wait : Except Error Unit

inductive Outcome where
  | continues (backoff : Int64)
  | returns (err : WatchError)
  | reading

def afterWait (wait : Except Error Unit) (backoff : Int64) : Outcome :=
  match wait with
  | .error err => .returns (.context err)
  | .ok () => .continues backoff

def watchTurn (options : WatchOptions) (networkID : String) (turn : Turn) (backoff : Int64) :
    List Observation × Outcome :=
  match contextResult turn.before with
  | .error err => ([], .returns err)
  | .ok () =>
    match turn.connection with
    | .error err =>
      if !watchRetryable err then ([], .returns (.connect err))
      else
        match turn.wait with
        | .error err => ([.waits backoff], .returns (.context err))
        | .ok () => ([.waits backoff, .advances backoff],
            .continues (nextBackoff backoff options.maxBackoff))
    | .ok incoming =>
      match readMessages options networkID incoming false backoff with
      | (seen, .reading) => (seen, .reading)
      | (seen, .returns err) => (seen, .returns err)
      | (seen, .closed received backoff) =>
        match contextResult turn.after with
        | .error err => (seen, .returns err)
        | .ok () =>
          if !received then
            let next := nextBackoff backoff options.maxBackoff
            (seen ++ [.advances backoff, .waits next], afterWait turn.wait next)
          else (seen ++ [.waits backoff], afterWait turn.wait backoff)

def watch (options : WatchOptions) (networkID : String) :
    List Turn → Int64 → List Observation
  | [], _ => []
  | turn :: rest, backoff =>
    match watchTurn options networkID turn backoff with
    | (seen, .continues backoff) => seen ++ watch options networkID rest backoff
    | (seen, _) => seen

/-- Without a callback, `onSnapshot` being nil, nothing is watched. -/
def watchWithOptions (options : WatchOptions) (onSnapshot : Bool) (networkID : String)
    (turns : List Turn) : List Observation :=
  if !onSnapshot then []
  else watch options.effective networkID turns options.effective.initialBackoff

/-- No operation on the two delays wraps around. -/
structure Exact (current maximum : Int64) : Prop where
  half : (maximum / 2).toInt = maximum.toInt / 2
  difference : current < maximum / 2 →
    (maximum - current).toInt = maximum.toInt - current.toInt
  double : ¬(maximum / 2 ≤ current ∨ maximum - current < current) →
    (current * 2).toInt = current.toInt * 2

section Doubling

variable {current maximum : Int64} (positive : 0 < current) (bounded : 0 < maximum)
include positive bounded

theorem exact_of_positive : Exact current maximum := by
  have low := Int64.lt_iff_toInt_lt.mp positive
  have high := Int64.lt_iff_toInt_lt.mp bounded
  have top := maximum.toInt_lt
  have zero : (0 : Int64).toInt = 0 := by decide
  have two : (2 : Int64).toInt = 2 := by decide
  rw [zero] at low high
  have half : (maximum / 2).toInt = maximum.toInt / 2 := by
    rw [Int64.toInt_div_of_ne_right _ _ (by decide), two,
      Int.tdiv_eq_ediv_of_nonneg (Int.le_of_lt high)]
  have difference : current < maximum / 2 →
      (maximum - current).toInt = maximum.toInt - current.toInt := by
    intro below
    have less := Int64.lt_iff_toInt_lt.mp below
    rw [half] at less
    rw [Int64.toInt_sub]
    exact Int.bmod_eq_of_le (by omega) (by omega)
  refine ⟨half, difference, fun doubled => ?_⟩
  obtain ⟨notHalf, notMore⟩ := not_or.mp doubled
  have below := Int64.not_le.mp notHalf
  have fits := Int64.le_iff_toInt_le.mp (Int64.not_lt.mp notMore)
  rw [difference below] at fits
  rw [Int64.toInt_mul, two]
  exact Int.bmod_eq_of_le (by omega) (by omega)

theorem nextBackoff_positive : 0 < nextBackoff current maximum := by
  have exact_ := exact_of_positive positive bounded
  unfold nextBackoff
  split_ifs with reached
  · exact bounded
  · have low := Int64.lt_iff_toInt_lt.mp positive
    have zero : (0 : Int64).toInt = 0 := by decide
    rw [Int64.lt_iff_toInt_lt, exact_.double reached]
    omega

theorem nextBackoff_range (below : current ≤ maximum) :
    current ≤ nextBackoff current maximum ∧ nextBackoff current maximum ≤ maximum := by
  have exact_ := exact_of_positive positive bounded
  unfold nextBackoff
  split_ifs with reached
  · exact ⟨below, Int64.le_refl _⟩
  · obtain ⟨notHalf, notMore⟩ := not_or.mp reached
    have fits := Int64.le_iff_toInt_le.mp (Int64.not_lt.mp notMore)
    have low := Int64.lt_iff_toInt_lt.mp positive
    have zero : (0 : Int64).toInt = 0 := by decide
    rw [exact_.difference (Int64.not_le.mp notHalf)] at fits
    rw [Int64.le_iff_toInt_le, Int64.le_iff_toInt_le, exact_.double reached]
    omega

end Doubling

theorem effective_positive (options : WatchOptions) :
    0 < options.effective.initialBackoff ∧ 0 < options.effective.maxBackoff := by
  have initial : 0 < options.effective.initialBackoff := by
    unfold WatchOptions.effective
    dsimp only
    split_ifs with missing
    · decide
    · exact Int64.not_le.mp missing
  refine ⟨initial, ?_⟩
  have shape : options.effective.maxBackoff =
      if options.maxBackoff < options.effective.initialBackoff then 10000000000
      else options.maxBackoff := rfl
  rw [shape]
  split_ifs with low
  · decide
  · exact Int64.lt_of_lt_of_le initial (Int64.not_lt.mp low)

theorem effective_ordered_iff (options : WatchOptions) :
    options.effective.initialBackoff ≤ options.effective.maxBackoff ↔
      options.initialBackoff ≤ 10000000000 ∨ options.initialBackoff ≤ options.maxBackoff := by
  unfold WatchOptions.effective
  dsimp only
  by_cases missing : options.initialBackoff ≤ 0
  · rw [if_pos missing]
    refine iff_of_true ?_ (Or.inl (Int64.le_trans missing (by decide)))
    split_ifs with low
    · decide
    · exact Int64.not_lt.mp low
  · rw [if_neg missing]
    by_cases low : options.maxBackoff < options.initialBackoff
    · rw [if_pos low]
      exact (or_iff_left (Int64.not_le.mpr low)).symm
    · rw [if_neg low]
      exact iff_of_true (Int64.not_lt.mp low) (Or.inr (Int64.not_lt.mp low))

variable {backoff : Int64} {seen : List Observation}

section Turns

variable {options : WatchOptions} {networkID : String}

theorem readMessages_cases {incoming : List Incoming} {received : Bool} {result : ReadResult}
    (read : readMessages options networkID incoming received backoff = (seen, result)) :
    ∃ count, seen = List.replicate count .snapshot ∧ ∀ flag left, result = .closed flag left →
      (count = 0 ∧ flag = received ∧ left = backoff) ∨
        (count ≠ 0 ∧ flag = true ∧ left = options.initialBackoff) := by
  induction incoming generalizing received backoff seen result with
  | nil =>
    cases read
    exact ⟨0, rfl, fun _ _ same => by cases same⟩
  | cons item rest ih =>
    cases item with
    | cancelled err =>
      cases read
      exact ⟨0, rfl, fun _ _ same => by cases same⟩
    | readError =>
      cases read
      refine ⟨0, rfl, fun flag left same => ?_⟩
      cases same
      exact Or.inl ⟨rfl, rfl, rfl⟩
    | message event handled =>
      cases event with
      | error err =>
        cases read
        exact ⟨0, rfl, fun _ _ same => by cases same⟩
      | ok snapshot =>
        unfold readMessages at read
        dsimp only at read
        by_cases foreign : snapshot.networkID ≠ networkID
        · rw [if_pos foreign] at read
          cases read
          exact ⟨0, rfl, fun _ _ same => by cases same⟩
        · rw [if_neg foreign] at read
          cases handled with
          | error err =>
            cases read
            exact ⟨0, rfl, fun _ _ same => by cases same⟩
          | ok accepted =>
            rcases later : readMessages options networkID rest true
              options.initialBackoff with ⟨more, last⟩
            simp only [later] at read
            cases read
            obtain ⟨count, rfl, closed⟩ := ih later
            refine ⟨count + 1, rfl, fun flag left same => Or.inr ⟨Nat.succ_ne_zero _, ?_⟩⟩
            rcases closed flag left same with ⟨-, flagged, kept⟩ | ⟨-, flagged, kept⟩
            · exact ⟨flagged, kept⟩
            · exact ⟨flagged, kept⟩

def Outcome.backoff? : Outcome → Option Int64
  | .continues backoff => some backoff
  | .returns _ => none
  | .reading => none

inductive Effect (options : WatchOptions) (backoff : Int64) :
    List Observation → Option Int64 → Prop
  | stopped (count : Nat) : Effect options backoff (List.replicate count .snapshot) none
  | interrupted : Effect options backoff [.waits backoff] none
  | retried : Effect options backoff [.waits backoff, .advances backoff]
      (some (nextBackoff backoff options.maxBackoff))
  | closed (left : Option Int64)
      (waited : ∀ kept, left = some kept → kept = nextBackoff backoff options.maxBackoff) :
      Effect options backoff
        [.advances backoff, .waits (nextBackoff backoff options.maxBackoff)] left
  | reset (count : Nat) (left : Option Int64)
      (waited : ∀ kept, left = some kept → kept = options.initialBackoff) :
      Effect options backoff
        (List.replicate (count + 1) .snapshot ++ [.waits options.initialBackoff]) left

theorem afterWait_backoff {wait : Except Error Unit} {kept : Int64}
    (left : (afterWait wait backoff).backoff? = some kept) : kept = backoff := by
  cases wait with
  | error err => cases left
  | ok done => exact (Option.some.inj left).symm

variable (options networkID) in
theorem watchTurn_effect (turn : Turn) (backoff : Int64) :
    Effect options backoff (watchTurn options networkID turn backoff).1
      (watchTurn options networkID turn backoff).2.backoff? := by
  unfold watchTurn
  cases contextResult turn.before with
  | error err => exact .stopped 0
  | ok live =>
    cases turn.connection with
    | error err =>
      dsimp only
      by_cases final : (!watchRetryable err) = true
      · rw [if_pos final]
        exact .stopped 0
      · rw [if_neg final]
        cases turn.wait with
        | error err => exact .interrupted
        | ok done => exact .retried
    | ok incoming =>
      dsimp only
      rcases read : readMessages options networkID incoming false backoff with ⟨seen, result⟩
      obtain ⟨count, rfl, closed⟩ := readMessages_cases read
      cases result with
      | reading => exact .stopped count
      | returns err => exact .stopped count
      | closed received left =>
        dsimp only
        cases contextResult turn.after with
        | error err => exact .stopped count
        | ok live =>
          rcases closed received left rfl with ⟨rfl, rfl, rfl⟩ | ⟨some_, rfl, rfl⟩
          · exact .closed _ fun _ kept => afterWait_backoff kept
          · obtain ⟨before, rfl⟩ := Nat.exists_eq_succ_of_ne_zero some_
            exact .reset before _ fun _ kept => afterWait_backoff kept

variable (options networkID) in
theorem watch_cons (turn : Turn) (rest : List Turn) (backoff : Int64) :
    ∃ seen left, Effect options backoff seen left ∧
      watch options networkID (turn :: rest) backoff =
        seen ++ (left.map (watch options networkID rest)).getD [] := by
  refine ⟨_, _, watchTurn_effect options networkID turn backoff, ?_⟩
  rw [watch]
  rcases watchTurn options networkID turn backoff with ⟨seen, outcome⟩
  cases outcome <;> simp [Outcome.backoff?]

end Turns

def Observation.Meets (condition : Int64 → Prop) : Observation → Prop
  | .waits delay => condition delay
  | .advances current => condition current
  | .snapshot => True

section Invariant

variable {options : WatchOptions} {networkID : String} {condition : Int64 → Prop}
  (initial : condition options.initialBackoff)
  (next : ∀ backoff, condition backoff → condition (nextBackoff backoff options.maxBackoff))
include initial next

theorem Effect.meets {left : Option Int64} (effect : Effect options backoff seen left)
    (holds : condition backoff) :
    (∀ observation ∈ seen, observation.Meets condition) ∧ ∀ kept ∈ left, condition kept := by
  cases effect with
  | stopped count =>
    refine ⟨fun observation listed => ?_, fun _ none => by cases none⟩
    rw [List.eq_of_mem_replicate listed]
    trivial
  | interrupted => exact ⟨by simp [Observation.Meets, holds], fun _ none => by cases none⟩
  | retried => exact ⟨by simp [Observation.Meets, holds], by simp [next backoff holds]⟩
  | closed left waited =>
    refine ⟨by simp [Observation.Meets, holds, next backoff holds], fun kept same => ?_⟩
    rw [waited kept same]
    exact next backoff holds
  | reset count left waited =>
    refine ⟨fun observation listed => ?_, fun kept same => ?_⟩
    · rcases List.mem_append.mp listed with earlier | last
      · rw [List.eq_of_mem_replicate earlier]
        trivial
      · rw [List.mem_singleton.mp last]
        exact initial
    · rw [waited kept same]
      exact initial

theorem watch_meets (turns : List Turn) (holds : condition backoff) :
    ∀ observation ∈ watch options networkID turns backoff, observation.Meets condition := by
  induction turns generalizing backoff with
  | nil =>
    intro observation listed
    cases listed
  | cons turn rest ih =>
    obtain ⟨seen, left, effect, ran⟩ := watch_cons options networkID turn rest backoff
    obtain ⟨shown, kept⟩ := effect.meets initial next holds
    intro observation listed
    rw [ran] at listed
    rcases List.mem_append.mp listed with now | later
    · exact shown observation now
    · cases left with
      | none => cases later
      | some backoff => exact ih (kept backoff rfl) observation later

end Invariant

/-- The delays of a trace never fall below the floor that the last delay before
them set; a snapshot takes the floor back to `initial`. -/
def Rising (initial : Int64) : Int64 → List Observation → Prop
  | _, [] => True
  | floor, .waits delay :: rest => floor ≤ delay ∧ Rising initial delay rest
  | floor, .advances _ :: rest => Rising initial floor rest
  | _, .snapshot :: rest => Rising initial initial rest

def floorAfter (initial : Int64) : Int64 → List Observation → Int64
  | floor, [] => floor
  | _, .waits delay :: rest => floorAfter initial delay rest
  | floor, .advances _ :: rest => floorAfter initial floor rest
  | _, .snapshot :: rest => floorAfter initial initial rest

def delaysOf (trace : List Observation) : List Int64 :=
  trace.filterMap fun
    | .waits delay => some delay
    | _ => none

section Rising

variable {initial floor : Int64}

theorem rising_append {before after : List Observation} :
    Rising initial floor (before ++ after) ↔
      Rising initial floor before ∧ Rising initial (floorAfter initial floor before) after := by
  induction before generalizing floor with
  | nil => simp [Rising, floorAfter]
  | cons observation rest ih =>
    cases observation <;> simp [Rising, floorAfter, ih, and_assoc]

theorem floorAfter_append {before after : List Observation} :
    floorAfter initial floor (before ++ after) =
      floorAfter initial (floorAfter initial floor before) after := by
  induction before generalizing floor with
  | nil => rfl
  | cons observation rest ih => cases observation <;> exact ih

theorem Rising.sorted {trace : List Observation} (rising : Rising initial floor trace)
    (silent : .snapshot ∉ trace) :
    (∀ delay ∈ delaysOf trace, floor ≤ delay) ∧ (delaysOf trace).Pairwise (· ≤ ·) := by
  induction trace generalizing floor with
  | nil => exact ⟨fun _ listed => absurd listed List.not_mem_nil, List.Pairwise.nil⟩
  | cons observation rest ih =>
    have quiet : .snapshot ∉ rest := fun listed => silent (List.mem_cons_of_mem _ listed)
    cases observation with
    | snapshot => exact absurd List.mem_cons_self silent
    | advances current => exact ih rising quiet
    | waits delay =>
      obtain ⟨above, later⟩ := rising
      obtain ⟨higher, sorted⟩ := ih later quiet
      refine ⟨fun other listed => ?_, List.pairwise_cons.mpr ⟨higher, sorted⟩⟩
      rcases List.mem_cons.mp listed with rfl | behind
      · exact above
      · exact Int64.le_trans above (higher other behind)

theorem rising_replicate (count : Nat) (floor : Int64) :
    Rising initial floor (List.replicate count .snapshot) := by
  induction count generalizing floor with
  | zero => trivial
  | succ count ih => exact ih initial

theorem floorAfter_replicate (count : Nat) :
    floorAfter initial initial (List.replicate count .snapshot) = initial := by
  induction count with
  | zero => rfl
  | succ count ih => exact ih

end Rising

section Runs

variable {options : WatchOptions} {floor : Int64}

theorem Effect.rising {left : Option Int64} (effect : Effect options backoff seen left)
    (above : floor ≤ backoff) (grows : backoff ≤ nextBackoff backoff options.maxBackoff) :
    Rising options.initialBackoff floor seen ∧
      ∀ kept ∈ left, floorAfter options.initialBackoff floor seen ≤ kept := by
  cases effect with
  | stopped count => exact ⟨rising_replicate count floor, fun _ none => by cases none⟩
  | interrupted => exact ⟨⟨above, trivial⟩, fun _ none => by cases none⟩
  | retried =>
    refine ⟨⟨above, trivial⟩, fun kept same => ?_⟩
    cases same
    exact grows
  | closed left waited =>
    refine ⟨⟨Int64.le_trans above grows, trivial⟩, fun kept same => ?_⟩
    rw [waited kept same]
    exact Int64.le_refl _
  | reset count left waited =>
    have reached : floorAfter options.initialBackoff floor
        (List.replicate (count + 1) .snapshot) = options.initialBackoff :=
      floorAfter_replicate count
    constructor
    · rw [rising_append, reached]
      exact ⟨rising_replicate (count + 1) floor, Int64.le_refl _, trivial⟩
    · intro kept same
      rw [waited kept same, floorAfter_append]
      exact Int64.le_refl _

def Within (options : WatchOptions) (delay : Int64) : Prop :=
  options.initialBackoff ≤ delay ∧ delay ≤ options.maxBackoff

section Ordered

variable (positive : 0 < options.initialBackoff)
  (ordered : options.initialBackoff ≤ options.maxBackoff)

include ordered in
theorem within_initial : Within options options.initialBackoff := ⟨Int64.le_refl _, ordered⟩

include positive ordered

theorem Within.grows {delay : Int64} (within : Within options delay) :
    delay ≤ nextBackoff delay options.maxBackoff ∧
      nextBackoff delay options.maxBackoff ≤ options.maxBackoff :=
  nextBackoff_range (Int64.lt_of_lt_of_le positive within.1)
    (Int64.lt_of_lt_of_le positive ordered) within.2

theorem Within.next (delay : Int64) (within : Within options delay) :
    Within options (nextBackoff delay options.maxBackoff) := by
  obtain ⟨above, below⟩ := within.grows positive ordered
  exact ⟨Int64.le_trans within.1 above, below⟩

theorem watch_rising (networkID : String) (turns : List Turn) (above : floor ≤ backoff)
    (within : Within options backoff) :
    Rising options.initialBackoff floor (watch options networkID turns backoff) := by
  induction turns generalizing backoff floor with
  | nil => trivial
  | cons turn rest ih =>
    obtain ⟨seen, left, effect, ran⟩ := watch_cons options networkID turn rest backoff
    obtain ⟨rises, floorKept⟩ := effect.rising above (within.grows positive ordered).1
    have kept := (effect.meets (within_initial ordered) (Within.next positive ordered) within).2
    rw [ran, rising_append]
    refine ⟨rises, ?_⟩
    cases left with
    | none => trivial
    | some backoff => exact ih (floorKept backoff rfl) (kept backoff rfl)

end Ordered

end Runs

/-- The delays of a trace lie between the effective bounds, and between two
snapshots none is below the one before it. -/
structure BackoffSound (options : WatchOptions) (trace : List Observation) : Prop where
  bounded : ∀ delay, .waits delay ∈ trace →
    options.initialBackoff ≤ delay ∧ delay ≤ options.maxBackoff
  steady : ∀ before segment after, trace = before ++ segment ++ after → .snapshot ∉ segment →
    (delaysOf segment).Pairwise (· ≤ ·)

theorem backoffSound_of_ordered {options : WatchOptions}
    (ordered : options.effective.initialBackoff ≤ options.effective.maxBackoff)
    (networkID : String) (turns : List Turn) :
    BackoffSound options.effective (watchWithOptions options true networkID turns) := by
  have positive := (effective_positive options).1
  have start := within_initial ordered
  constructor
  · intro delay waited
    exact watch_meets start (Within.next positive ordered) turns start (.waits delay) waited
  · intro before segment after split silent
    have rises : Rising options.effective.initialBackoff options.effective.initialBackoff
        (watchWithOptions options true networkID turns) :=
      watch_rising positive ordered networkID turns (Int64.le_refl _) start
    rw [split, List.append_assoc, rising_append, rising_append] at rises
    exact (rises.2.1.sorted silent).2

def unreachable : Turn :=
  { before := .live, connection := .error (.other "connection refused"), after := .live,
    wait := .ok () }

/-- No duration overflows in any run; and the delays are bounded and do not shrink
in every run exactly when the initial delay is at most the default maximum, 10 s,
or at most the given maximum. -/
theorem backoff_bounded_iff (options : WatchOptions) :
    (∀ onSnapshot networkID turns current,
        .advances current ∈ watchWithOptions options onSnapshot networkID turns →
        Exact current options.effective.maxBackoff) ∧
      ((∀ onSnapshot networkID turns,
          BackoffSound options.effective (watchWithOptions options onSnapshot networkID turns)) ↔
        options.initialBackoff ≤ 10000000000 ∨ options.initialBackoff ≤ options.maxBackoff) := by
  obtain ⟨positive, maximum⟩ := effective_positive options
  refine ⟨fun onSnapshot networkID turns current advanced => ?_, ?_⟩
  · have next : ∀ backoff, 0 < backoff →
        0 < nextBackoff backoff options.effective.maxBackoff :=
      fun _ above => nextBackoff_positive above maximum
    cases onSnapshot with
    | false => cases advanced
    | true => exact exact_of_positive (watch_meets positive next turns positive _ advanced) maximum
  · rw [← effective_ordered_iff]
    constructor
    · intro sound
      have first := (sound true "" [unreachable]).bounded options.effective.initialBackoff
        List.mem_cons_self
      exact first.2
    · intro ordered onSnapshot networkID turns
      cases onSnapshot with
      | false => exact backoffSound_of_ordered ordered networkID []
      | true => exact backoffSound_of_ordered ordered networkID turns

/-- With an initial delay of 20 s and no maximum the second delay is 10 s. -/
theorem long_initial_backoff_shrinks :
    ¬BackoffSound (WatchOptions.effective ⟨20000000000, 0, 0⟩)
      (watchWithOptions ⟨20000000000, 0, 0⟩ true "n" [unreachable, unreachable]) := by
  intro sound
  have sorted := sound.steady [] _ [] (List.append_nil _).symm (by decide)
  exact absurd sorted (by decide)

end Ipv6Mesh.WatchBackoff
