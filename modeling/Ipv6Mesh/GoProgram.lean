import Mathlib

/-!
# Programs with a state and an early return

A Go function that changes some state and returns early is a `do` block in
`Program`: stopping keeps the changes already made. `wp program post stopped`
is the weakest precondition under which the program ends in `post`, or in
`stopped` when it returns early; its rules follow the statements of a block.
-/

namespace Ipv6Mesh.GoProgram

abbrev Program (State Stop Value : Type) := ExceptT Stop (StateM State) Value

section

variable {State Part Stop Reason Value Result : Type}

def call (step : State → Except Stop Value × State) : Program State Stop Value := step

def ask (read : State → Except Stop Value) : Program State Stop Value :=
  fun state => (read state, state)

def within (get : State → Part) (set : State → Part → State)
    (step : Part → Except Stop Value × Part) : Program State Stop Value :=
  fun state => ((step (get state)).1, set state (step (get state)).2)

def stopWhen (stops : Bool) (reason : Stop) : Program State Stop Unit :=
  fun state => (if stops then .error reason else .ok (), state)

def mapStop (respond : Stop → Reason) (program : Program State Stop Value) :
    Program State Reason Value :=
  fun state => ((program state).1.mapError respond, (program state).2)

def wp (program : Program State Stop Value) (post : Value → State → Prop)
    (stopped : Stop → State → Prop) (state : State) : Prop :=
  match program state with
  | (.ok value, after) => post value after
  | (.error reason, after) => stopped reason after

variable {post : Value → State → Prop} {stopped : Stop → State → Prop} {state : State}

theorem bind_apply (first : Program State Stop Value) (next : Value → Program State Stop Result)
    (state : State) : (first >>= next) state =
      match first state with
      | (.ok value, after) => next value after
      | (.error reason, after) => (.error reason, after) := by
  rcases called : first state with ⟨_ | _, after⟩ <;>
    simp [bind, ExceptT.bind, ExceptT.mk, ExceptT.bindCont, StateT.bind, StateT.pure, pure, called]

theorem bind_eq_ok {first : Program State Stop Value}
    {next : Value → Program State Stop Result} {result : Result} {after : State} :
    (first >>= next) state = (.ok result, after) ↔
      ∃ value middle, first state = (.ok value, middle) ∧
        next value middle = (.ok result, after) := by
  rw [bind_apply]
  rcases first state with ⟨reason | value, middle⟩
  · constructor
    · rintro ⟨⟩
    · rintro ⟨_, _, ⟨⟩, _⟩
  · constructor
    · exact fun rest => ⟨value, middle, rfl, rest⟩
    · rintro ⟨_, _, ⟨⟩, rest⟩
      exact rest

theorem ask_eq_ok {read : State → Except Stop Value} {value : Value} {after : State} :
    ask read state = (.ok value, after) ↔ read state = .ok value ∧ after = state := by
  constructor
  · intro asked
    exact ⟨(Prod.ext_iff.mp asked).1, (Prod.ext_iff.mp asked).2.symm⟩
  · rintro ⟨answered, rfl⟩
    exact Prod.ext answered rfl

theorem within_eq_ok {get : State → Part} {set : State → Part → State}
    {step : Part → Except Stop Value × Part} {value : Value} {after : State} :
    within get set step state = (.ok value, after) ↔
      ∃ part, step (get state) = (.ok value, part) ∧ after = set state part := by
  unfold within
  rcases step (get state) with ⟨reason | other, part⟩
  · constructor
    · rintro ⟨⟩
    · rintro ⟨_, ⟨⟩, _⟩
  · constructor
    · rintro ⟨⟩
      exact ⟨part, rfl, rfl⟩
    · rintro ⟨_, ⟨⟩, rfl⟩
      rfl

theorem wp_bind (first : Program State Stop Value) (next : Value → Program State Stop Result)
    {post : Result → State → Prop} :
    wp (first >>= next) post stopped state ↔
      wp first (fun value => wp (next value) post stopped) stopped state := by
  unfold wp
  rw [bind_apply]
  rcases first state with ⟨_ | _, after⟩ <;> rfl

theorem wp_pure (value : Value) :
    wp (pure value : Program State Stop Value) post stopped state ↔ post value state := Iff.rfl

theorem wp_ask (read : State → Except Stop Value) :
    wp (ask read) post stopped state ↔
      match read state with
      | .ok value => post value state
      | .error reason => stopped reason state := by
  unfold wp ask
  cases read state <;> rfl

theorem wp_within (get : State → Part) (set : State → Part → State)
    (step : Part → Except Stop Value × Part) :
    wp (within get set step) post stopped state ↔
      match step (get state) with
      | (.ok value, part) => post value (set state part)
      | (.error reason, part) => stopped reason (set state part) := by
  unfold wp within
  rcases step (get state) with ⟨_ | _, part⟩ <;> rfl

theorem wp_stopWhen (stops : Bool) (reason : Stop) {post : Unit → State → Prop} :
    wp (stopWhen stops reason) post stopped state ↔
      (stops = true → stopped reason state) ∧ (stops = false → post () state) := by
  cases stops <;> simp [wp, stopWhen]

theorem wp_mapStop (respond : Stop → Reason) (program : Program State Stop Value)
    {stopped : Reason → State → Prop} :
    wp (mapStop respond program) post stopped state ↔
      wp program post (fun reason => stopped (respond reason)) state := by
  unfold wp mapStop
  rcases program state with ⟨_ | _, after⟩ <;> rfl

theorem wp_mono {program : Program State Stop Value} {weaker : Value → State → Prop}
    {weakerStop : Stop → State → Prop} (holds : wp program post stopped state)
    (onValue : ∀ value after, post value after → weaker value after)
    (onStop : ∀ reason after, stopped reason after → weakerStop reason after) :
    wp program weaker weakerStop state := by
  unfold wp at *
  rcases called : program state with ⟨_ | _, after⟩ <;> simp only [called] at holds ⊢
  · exact onStop _ _ holds
  · exact onValue _ _ holds

section Statements

variable {next : Value → Program State Stop Result} {final : Result → State → Prop}

theorem wp_call_bind {first : Program State Stop Value}
    (onStop : ∀ reason after, first state = (.error reason, after) → stopped reason after)
    (onValue : ∀ value after, first state = (.ok value, after) →
      wp (next value) final stopped after) :
    wp (first >>= next) final stopped state := by
  rw [wp_bind, wp]
  rcases called : first state with ⟨reason | value, after⟩
  · exact onStop reason after called
  · exact onValue value after called

theorem wp_ask_bind {read : State → Except Stop Value}
    (onStop : ∀ reason, read state = .error reason → stopped reason state)
    (onValue : ∀ value, read state = .ok value → wp (next value) final stopped state) :
    wp (ask read >>= next) final stopped state := by
  rw [wp_bind, wp_ask]
  cases asked : read state with
  | error reason => exact onStop reason asked
  | ok value => exact onValue value asked

theorem wp_mapStop_ask_bind {respond : Reason → Stop} {read : State → Except Reason Value}
    (onStop : ∀ reason, read state = .error reason → stopped (respond reason) state)
    (onValue : ∀ value, read state = .ok value → wp (next value) final stopped state) :
    wp (mapStop respond (ask read) >>= next) final stopped state := by
  rw [wp_bind, wp_mapStop, wp_ask]
  cases asked : read state with
  | error reason => exact onStop reason asked
  | ok value => exact onValue value asked

theorem wp_mapStop_within_bind {respond : Reason → Stop} {get : State → Part}
    {set : State → Part → State} {step : Part → Except Reason Value × Part}
    (onStop : ∀ reason part, step (get state) = (.error reason, part) →
      stopped (respond reason) (set state part))
    (onValue : ∀ value part, step (get state) = (.ok value, part) →
      wp (next value) final stopped (set state part)) :
    wp (mapStop respond (within get set step) >>= next) final stopped state := by
  rw [wp_bind, wp_mapStop, wp_within]
  rcases stepped : step (get state) with ⟨reason | value, part⟩
  · exact onStop reason part stepped
  · exact onValue value part stepped

theorem wp_stopWhen_bind {stops : Bool} {reason : Stop} {next : Unit → Program State Stop Result}
    (onStop : stops = true → stopped reason state)
    (onGo : stops = false → wp (next ()) final stopped state) :
    wp (stopWhen stops reason >>= next) final stopped state := by
  rw [wp_bind, wp_stopWhen]
  exact ⟨onStop, onGo⟩

end Statements

def Agree (program : Program State Stop Value) (left right : State) : Prop :=
  (program left).1 = (program right).1

section Agreement

variable {left right : State} {next : Value → Program State Stop Result}

theorem agree_bind {first : Program State Stop Value} (same : Agree first left right)
    (continued : ∀ value, (first left).1 = .ok value →
      Agree (next value) (first left).2 (first right).2) :
    Agree (first >>= next) left right := by
  unfold Agree at *
  rw [bind_apply, bind_apply]
  rcases called : first left with ⟨reason | value, after⟩ <;>
    rcases calledRight : first right with ⟨other | result, afterRight⟩ <;>
    rw [called, calledRight] at same <;> cases same
  · rfl
  · have later := continued value (by rw [called])
    rwa [called, calledRight] at later

variable {respond : Reason → Stop}

theorem agree_ask_bind {read : State → Except Reason Value} (same : read left = read right)
    (continued : ∀ value, read left = .ok value → Agree (next value) left right) :
    Agree (mapStop respond (ask read) >>= next) left right := by
  refine agree_bind (congrArg (Except.mapError respond) same) fun value returned => ?_
  refine continued value ?_
  have mapped : (read left).mapError respond = .ok value := returned
  cases asked : read left with
  | error reason =>
    rw [asked] at mapped
    cases mapped
  | ok other =>
    rw [asked] at mapped
    exact congrArg Except.ok (Except.ok.inj mapped)

theorem agree_check_bind {read : State → Except Reason Value} {next : Program State Stop Result}
    (same : (read left).map (fun _ => ()) = (read right).map fun _ => ())
    (continued : Agree next left right) :
    Agree (mapStop respond (ask read) >>= fun _ => next) left right := by
  unfold Agree at *
  rw [bind_apply, bind_apply]
  simp only [mapStop, ask]
  cases asked : read left <;> cases askedRight : read right <;> rw [asked, askedRight] at same <;>
    cases same
  · rfl
  · exact continued

theorem agree_within_bind {get : State → Part} {set : State → Part → State}
    {step : Part → Except Reason Value × Part} (same : (step (get left)).1 = (step (get right)).1)
    (continued : ∀ value, Agree (next value) (set left (step (get left)).2)
      (set right (step (get right)).2)) :
    Agree (mapStop respond (within get set step) >>= next) left right :=
  agree_bind (congrArg (Except.mapError respond) same) fun value _ => continued value

theorem agree_stopWhen_bind {stops : Bool} {reason : Stop}
    {next : Unit → Program State Stop Result} (continued : Agree (next ()) left right) :
    Agree (stopWhen stops reason >>= next) left right :=
  agree_bind rfl fun _ _ => continued

end Agreement

end

end Ipv6Mesh.GoProgram
