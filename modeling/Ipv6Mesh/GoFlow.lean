import Mathlib

/-!
# Fallible sequences and runs

A Go function that returns at its first error is a `do` block in `Except`;
`bind_eq_ok` opens such a block one statement at a time. A run applies a list
of actions in order, and an invariant of a single action holds after any run;
`StepsMeet` restricts the actions of a run, each at the state where it is taken.
-/

namespace Ipv6Mesh.GoFlow

section Sequences

variable {Failure Value Result : Type}

theorem bind_eq_ok {first : Except Failure Value} {next : Value → Except Failure Result}
    {result : Result} :
    (first >>= next) = .ok result ↔ ∃ value, first = .ok value ∧ next value = .ok result := by
  cases first <;> simp [bind, Except.bind]

theorem check_eq_ok {check : Except Failure Unit} {next : Unit → Except Failure Result}
    {result : Result} :
    (check >>= next) = .ok result ↔ check = .ok () ∧ next () = .ok result := by
  cases check <;> simp [bind, Except.bind]

end Sequences

section Runs

variable {State Action : Type} (step : Action → State → State)

def run (actions : List Action) (state : State) : State :=
  actions.foldl (fun current action => step action current) state

@[simp] theorem run_nil (state : State) : run step [] state = state := rfl

@[simp] theorem run_cons (action : Action) (actions : List Action) (state : State) :
    run step (action :: actions) state = run step actions (step action state) := rfl

theorem run_append (first second : List Action) (state : State) :
    run step (first ++ second) state = run step second (run step first state) := by
  simp [run]

theorem run_invariant_of_mem (invariant : State → Prop) {actions : List Action}
    (preserved : ∀ action ∈ actions, ∀ state, invariant state → invariant (step action state))
    {state : State} (initial : invariant state) : invariant (run step actions state) := by
  induction actions generalizing state with
  | nil => exact initial
  | cons action actions ih =>
    have next := preserved action List.mem_cons_self state initial
    exact ih (fun other member => preserved other (List.mem_cons_of_mem _ member)) next

theorem run_invariant (invariant : State → Prop)
    (preserved : ∀ action state, invariant state → invariant (step action state))
    (actions : List Action) {state : State} (initial : invariant state) :
    invariant (run step actions state) :=
  run_invariant_of_mem step invariant (fun action _ => preserved action) initial

/-- Each action meets the condition in the state it is taken in. -/
def StepsMeet (condition : Action → State → Prop) : List Action → State → Prop
  | [], _ => True
  | action :: actions, state =>
    condition action state ∧ StepsMeet condition actions (step action state)

theorem stepsMeet_of_mem {condition : Action → State → Prop} {actions : List Action}
    (meets : ∀ action ∈ actions, ∀ state, condition action state) (state : State) :
    StepsMeet step condition actions state := by
  induction actions generalizing state with
  | nil => trivial
  | cons action actions ih =>
    obtain ⟨first, rest⟩ := List.forall_mem_cons.mp meets
    exact ⟨first state, ih rest (step action state)⟩

theorem run_invariant_of_stepsMeet {condition : Action → State → Prop} (invariant : State → Prop)
    (preserved : ∀ action state, condition action state → invariant state →
      invariant (step action state))
    {actions : List Action} {state : State} (meets : StepsMeet step condition actions state)
    (initial : invariant state) : invariant (run step actions state) := by
  induction actions generalizing state with
  | nil => exact initial
  | cons action actions ih => exact ih meets.2 (preserved action state meets.1 initial)

def decidableStepsMeet {condition : Action → State → Prop}
    [∀ action state, Decidable (condition action state)] :
    (actions : List Action) → (state : State) → Decidable (StepsMeet step condition actions state)
  | [], _ => isTrue trivial
  | action :: actions, state =>
    have : Decidable (StepsMeet step condition actions (step action state)) :=
      decidableStepsMeet actions (step action state)
    inferInstanceAs (Decidable
      (condition action state ∧ StepsMeet step condition actions (step action state)))

instance {condition : Action → State → Prop} [∀ action state, Decidable (condition action state)]
    (actions : List Action) (state : State) : Decidable (StepsMeet step condition actions state) :=
  decidableStepsMeet step actions state

end Runs

end Ipv6Mesh.GoFlow
