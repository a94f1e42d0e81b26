import Ipv6Mesh.GoFlow

/-!
# Row locks and waiting

A transaction is the script of the row locks it takes; what it reads in between
is answered by whatever the database holds at that time. Locks are exclusive and
kept until the transaction ends. When every script takes its rows in the order
of one position, no transaction waits for itself through others.
-/

namespace Ipv6Mesh.RowLocks

open GoFlow

inductive Script (Row Question Answer Failure Result : Type) where
  | done (result : Result)
  | stop (failure : Failure)
  | lock (row : Row) (rest : Script Row Question Answer Failure Result)
  | ask (question : Question) (rest : Answer → Script Row Question Answer Failure Result)

namespace Script

variable {Row Question Answer Failure Result Outcome Key : Type}

def bind (script : Script Row Question Answer Failure Result)
    (next : Result → Script Row Question Answer Failure Outcome) :
    Script Row Question Answer Failure Outcome :=
  match script with
  | done result => next result
  | stop failure => stop failure
  | lock row rest => lock row (rest.bind next)
  | ask question rest => ask question fun answer => (rest answer).bind next

instance : Monad (Script Row Question Answer Failure) where
  pure := done
  bind := bind

def lockRow (row : Row) : Script Row Question Answer Failure Unit := lock row (done ())

def query (question : Question) : Script Row Question Answer Failure Answer := ask question done

def check : Except Failure Result → Script Row Question Answer Failure Result
  | .ok result => done result
  | .error failure => stop failure

variable [Preorder Key] (position : Row → Key)

def Lockable (held : List Row) (row : Row) : Prop :=
  row ∈ held ∨ ∀ earlier ∈ held, position earlier < position row

/-- Whatever is answered, each lock may be taken when it is reached, and `post`
holds of the rows held at the end. -/
def InOrder (script : Script Row Question Answer Failure Result) (post : Result → List Row → Prop)
    (held : List Row) : Prop :=
  match script with
  | done result => post result held
  | stop _ => True
  | lock row rest => Lockable position held row ∧ rest.InOrder post (row :: held)
  | ask _ rest => ∀ answer, (rest answer).InOrder post held

variable {position} {held : List Row} {post : Result → List Row → Prop}

@[simp] theorem inOrder_pure {result : Result} :
    (pure result : Script Row Question Answer Failure Result).InOrder position post held ↔
      post result held := Iff.rfl

theorem inOrder_lock {row : Row} {rest : Script Row Question Answer Failure Result} :
    (lock row rest).InOrder position post held ↔
      Lockable position held row ∧ rest.InOrder position post (row :: held) := Iff.rfl

theorem inOrder_ask {question : Question}
    {rest : Answer → Script Row Question Answer Failure Result} :
    (ask question rest).InOrder position post held ↔
      ∀ answer, (rest answer).InOrder position post held := Iff.rfl

theorem inOrder_bind {script : Script Row Question Answer Failure Result}
    {next : Result → Script Row Question Answer Failure Outcome}
    {post : Outcome → List Row → Prop} :
    (script >>= next).InOrder position post held ↔
      script.InOrder position (fun result => (next result).InOrder position post) held := by
  induction script generalizing held with
  | done result => exact Iff.rfl
  | stop failure => exact Iff.rfl
  | lock row rest ih => exact and_congr_right fun _ => ih
  | ask question rest ih => exact forall_congr' fun answer => ih answer

theorem InOrder.weaken {script : Script Row Question Answer Failure Result}
    {weaker : Result → List Row → Prop}
    (ordered : script.InOrder position post held)
    (implies : ∀ result held, post result held → weaker result held) :
    script.InOrder position weaker held := by
  induction script generalizing held with
  | done result => exact implies result held ordered
  | stop failure => trivial
  | lock row rest ih => exact ⟨ordered.1, ih ordered.2⟩
  | ask question rest ih => exact fun answer => ih answer (ordered answer)

theorem inOrder_lockRow {row : Row} {post : Unit → List Row → Prop} :
    (lockRow row : Script Row Question Answer Failure Unit).InOrder position post held ↔
      Lockable position held row ∧ post () (row :: held) := Iff.rfl

theorem inOrder_check {checked : Except Failure Result}
    (holds : ∀ result, post result held) :
    (check checked : Script Row Question Answer Failure Result).InOrder position post held := by
  cases checked with
  | error failure => trivial
  | ok result => exact holds result

theorem inOrder_query {question : Question} {post : Answer → List Row → Prop}
    (holds : ∀ answer, post answer held) :
    (query question : Script Row Question Answer Failure Answer).InOrder position post held := holds

-- callers cite the rules above; without this the checks would be evaluated
attribute [irreducible] InOrder

theorem inOrder_lockEach {Index : Type} {row : Index → Row} {indices : List Index}
    {post : Unit → List Row → Prop}
    (increasing : indices.Pairwise fun left right => position (row left) < position (row right))
    (startable : ∀ index ∈ indices, Lockable position held (row index))
    (holds : ∀ after, (∀ other, other ∈ after ↔ other ∈ held ∨ other ∈ indices.map row) →
      post () after) :
    (indices.forM fun index => lockRow (row index) :
      Script Row Question Answer Failure Unit).InOrder position post held := by
  induction indices generalizing held with
  | nil =>
    rw [List.forM, inOrder_pure]
    exact holds held fun other => by simp
  | cons index indices ih =>
    obtain ⟨above, increasing⟩ := List.pairwise_cons.mp increasing
    obtain ⟨first, startable⟩ := List.forall_mem_cons.mp startable
    rw [List.forM, inOrder_bind, inOrder_lockRow]
    refine ⟨first, ih increasing (fun later listed => ?_) fun after exact_ => ?_⟩
    · rcases startable later listed with inside | beyond
      · exact .inl (List.mem_cons_of_mem _ inside)
      · exact .inr (List.forall_mem_cons.mpr ⟨above later listed, beyond⟩)
    · refine holds after fun other => ?_
      rw [exact_, List.mem_cons, List.map_cons, List.mem_cons]
      tauto

theorem inOrder_forM {Index : Type} {indices : List Index}
    {body : Index → Script Row Question Answer Failure Unit} {invariant : List Row → Prop}
    (turn : ∀ index held, invariant held →
      (body index).InOrder position (fun _ => invariant) held)
    (initial : invariant held) :
    (indices.forM body).InOrder position (fun _ => invariant) held := by
  induction indices generalizing held with
  | nil =>
    rw [List.forM, inOrder_pure]
    exact initial
  | cons index indices ih =>
    rw [List.forM, inOrder_bind]
    exact ((turn index held initial).weaken fun _ after kept => ih kept)

end Script

section System

open Script

variable {Row Question Answer Failure Work Key : Type}

structure Transaction (Row Question Answer Failure : Type) where
  held : List Row
  rest : Script Row Question Answer Failure Unit

/-- A transaction begins, goes on by one statement, or ends: by its commit, by
an error of any statement, or by a cancellation. -/
inductive Action (Answer Work : Type) where
  | begin_ (work : Work)
  | advance (index : Nat) (answer : Answer)
  | end_ (index : Nat)

def Requests (transactions : List (Transaction Row Question Answer Failure)) (index : Nat)
    (row : Row) : Prop :=
  ∃ held rest, transactions[index]? = some ⟨held, .lock row rest⟩

def Holds (transactions : List (Transaction Row Question Answer Failure)) (index : Nat)
    (row : Row) : Prop :=
  ∃ transaction, transactions[index]? = some transaction ∧ row ∈ transaction.held

/-- One transaction asks for a row that another holds. -/
def WaitsFor (transactions : List (Transaction Row Question Answer Failure))
    (waiting holding : Nat) : Prop :=
  waiting ≠ holding ∧ ∃ row, Requests transactions waiting row ∧ Holds transactions holding row

structure Orderly [Preorder Key] (position : Row → Key)
    (transactions : List (Transaction Row Question Answer Failure)) : Prop where
  exclusive : ∀ first second row, Holds transactions first row → Holds transactions second row →
    first = second
  ordered : ∀ (index : Nat) (transaction : Transaction Row Question Answer Failure),
    transactions[index]? = some transaction →
      transaction.rest.InOrder position (fun _ _ => True) transaction.held

variable [Preorder Key] {position : Row → Key}
  {transactions : List (Transaction Row Question Answer Failure)}

theorem Orderly.set (orderly : Orderly position transactions) {index : Nat}
    {after : Transaction Row Question Answer Failure}
    (kept : ∀ row ∈ after.held, Holds transactions index row ∨
      ∀ other, other ≠ index → ¬Holds transactions other row)
    (ordered : after.rest.InOrder position (fun _ _ => True) after.held) :
    Orderly position (transactions.set index after) := by
  have holds : ∀ other row, Holds (transactions.set index after) other row →
      (other = index ∧ row ∈ after.held) ∨ (other ≠ index ∧ Holds transactions other row) := by
    rintro other row ⟨transaction, stored, inside⟩
    rw [List.getElem?_set] at stored
    split_ifs at stored with same bounded
    · cases stored
      exact .inl ⟨same.symm, inside⟩
    · exact .inr ⟨Ne.symm same, transaction, stored, inside⟩
  constructor
  · intro first second row byFirst bySecond
    rcases holds first row byFirst with ⟨rfl, inside⟩ | ⟨apart, held⟩
    · rcases holds second row bySecond with ⟨rfl, _⟩ | ⟨other, held⟩
      · rfl
      · rcases kept row inside with own | free
        · exact orderly.exclusive _ _ row own held
        · exact absurd held (free second other)
    · rcases holds second row bySecond with ⟨rfl, inside⟩ | ⟨_, alsoHeld⟩
      · rcases kept row inside with own | free
        · exact orderly.exclusive _ _ row held own
        · exact absurd held (free first apart)
      · exact orderly.exclusive _ _ row held alsoHeld
  · intro other transaction stored
    rw [List.getElem?_set] at stored
    split_ifs at stored with same bounded
    · cases stored
      exact ordered
    · exact orderly.ordered other transaction stored

theorem Orderly.requested_after (orderly : Orderly position transactions) {waiting : Nat}
    {row held : Row} (requests : Requests transactions waiting row)
    (elsewhere : ∃ other, waiting ≠ other ∧ Holds transactions other row)
    (holds : Holds transactions waiting held) : position held < position row := by
  obtain ⟨heldRows, rest, stored⟩ := requests
  obtain ⟨transaction, again, inside⟩ := holds
  cases Option.some.inj (stored.symm.trans again)
  obtain ⟨other, different, taken⟩ := elsewhere
  rcases (inOrder_lock.mp (orderly.ordered waiting _ stored)).1 with own | after
  · exact absurd (orderly.exclusive waiting other row ⟨_, stored, own⟩ taken) different
  · exact after held inside

theorem Orderly.chain (orderly : Orderly position transactions) {first last : Nat}
    (chain : Relation.TransGen (WaitsFor transactions) first last) {row : Row}
    (requests : Requests transactions first row) :
    ∃ held, Holds transactions last held ∧ position row ≤ position held := by
  induction chain with
  | single waits =>
    obtain ⟨-, requested, again, holds⟩ := waits
    obtain ⟨_, _, stored⟩ := requests
    obtain ⟨_, _, storedAgain⟩ := again
    cases Option.some.inj (stored.symm.trans storedAgain)
    exact ⟨row, holds, le_refl _⟩
  | tail _ waits ih =>
    obtain ⟨held, holds, below⟩ := ih
    obtain ⟨different, requested, asks, taken⟩ := waits
    have above := orderly.requested_after asks ⟨_, different, taken⟩ holds
    exact ⟨requested, taken, below.trans above.le⟩

theorem Orderly.no_cycle (orderly : Orderly position transactions) (index : Nat) :
    ¬Relation.TransGen (WaitsFor transactions) index index := by
  intro cycle
  obtain ⟨next, ⟨different, row, requests, taken⟩, -⟩ :=
    Relation.TransGen.head'_iff.mp cycle
  obtain ⟨held, holds, below⟩ := orderly.chain cycle requests
  exact (orderly.requested_after requests ⟨next, different, taken⟩ holds).not_ge below

variable [DecidableEq Row]

def heldElsewhere (transactions : List (Transaction Row Question Answer Failure)) (index : Nat)
    (row : Row) : Bool :=
  transactions.zipIdx.any fun entry => entry.2 ≠ index && row ∈ entry.1.held

def advance (transactions : List (Transaction Row Question Answer Failure)) (index : Nat)
    (answer : Answer) : List (Transaction Row Question Answer Failure) :=
  match transactions[index]? with
  | some ⟨held, .lock row rest⟩ =>
    if heldElsewhere transactions index row then transactions
    else transactions.set index ⟨row :: held, rest⟩
  | some ⟨held, .ask _ rest⟩ => transactions.set index ⟨held, rest answer⟩
  | _ => transactions

def step (script : Work → Script Row Question Answer Failure Unit) :
    Action Answer Work → List (Transaction Row Question Answer Failure) →
      List (Transaction Row Question Answer Failure)
  | .begin_ work, transactions => transactions ++ [⟨[], script work⟩]
  | .advance index answer, transactions => advance transactions index answer
  | .end_ index, transactions => transactions.set index ⟨[], .done ()⟩

theorem heldElsewhere_iff {index : Nat} {row : Row} :
    heldElsewhere transactions index row = true ↔
      ∃ other, other ≠ index ∧ Holds transactions other row := by
  rw [heldElsewhere, List.any_eq_true]
  constructor
  · rintro ⟨⟨transaction, other⟩, listed, found⟩
    rw [Bool.and_eq_true, decide_eq_true_eq, decide_eq_true_eq] at found
    exact ⟨other, found.1, transaction, List.mk_mem_zipIdx_iff_getElem?.mp listed, found.2⟩
  · rintro ⟨other, different, transaction, stored, inside⟩
    refine ⟨(transaction, other), List.mk_mem_zipIdx_iff_getElem?.mpr stored, ?_⟩
    rw [Bool.and_eq_true, decide_eq_true_eq, decide_eq_true_eq]
    exact ⟨different, inside⟩

theorem orderly_advance (orderly : Orderly position transactions) (index : Nat)
    (answer : Answer) : Orderly position (advance transactions index answer) := by
  unfold advance
  split
  · rename_i held row rest stored
    obtain ⟨-, ordered⟩ := inOrder_lock.mp (orderly.ordered index _ stored)
    split_ifs with taken
    · exact orderly
    · refine orderly.set (List.forall_mem_cons.mpr ⟨.inr fun other different held => ?_,
        fun row inside => .inl ⟨_, stored, inside⟩⟩) ordered
      exact taken (heldElsewhere_iff.mpr ⟨other, different, held⟩)
  · rename_i held question rest stored
    exact orderly.set (fun row inside => .inl ⟨_, stored, inside⟩)
      (inOrder_ask.mp (orderly.ordered index _ stored) answer)
  · exact orderly

theorem orderly_step {script : Work → Script Row Question Answer Failure Unit}
    (scripts : ∀ work, (script work).InOrder position (fun _ _ => True) [])
    (action : Action Answer Work) (transactions : List (Transaction Row Question Answer Failure))
    (orderly : Orderly position transactions) :
    Orderly position (step script action transactions) := by
  cases action with
  | advance index answer => exact orderly_advance orderly index answer
  | end_ index =>
    have ended : (done () : Script Row Question Answer Failure Unit).InOrder position
        (fun _ _ => True) [] := inOrder_pure.mpr trivial
    exact orderly.set (fun row inside => absurd inside List.not_mem_nil) ended
  | begin_ work =>
    have earlier : ∀ (index : Nat) (transaction : Transaction Row Question Answer Failure),
        (step script (.begin_ work) transactions)[index]? = some transaction →
          transactions[index]? = some transaction ∨ transaction = ⟨[], script work⟩ := by
      intro index transaction stored
      rw [step, List.getElem?_append] at stored
      split_ifs at stored with inside
      · exact .inl stored
      · exact .inr (List.mem_singleton.mp (List.mem_of_getElem? stored))
    have holds : ∀ index row, Holds (step script (.begin_ work) transactions) index row →
        Holds transactions index row := by
      rintro index row ⟨transaction, stored, inside⟩
      rcases earlier index transaction stored with old | rfl
      · exact ⟨transaction, old, inside⟩
      · cases inside
    constructor
    · intro first second row byFirst bySecond
      exact orderly.exclusive first second row (holds first row byFirst)
        (holds second row bySecond)
    · intro index transaction stored
      rcases earlier index transaction stored with old | rfl
      · exact orderly.ordered index transaction old
      · exact scripts work

theorem no_deadlock {script : Work → Script Row Question Answer Failure Unit}
    (scripts : ∀ work, (script work).InOrder position (fun _ _ => True) [])
    (actions : List (Action Answer Work)) (index : Nat) :
    ¬Relation.TransGen (WaitsFor (run (step script) actions [])) index index := by
  have initial : Orderly position ([] : List (Transaction Row Question Answer Failure)) := by
    constructor
    · rintro first second row ⟨transaction, stored, -⟩
      cases stored
    · intro index transaction stored
      cases stored
  exact (run_invariant (step script) (Orderly position) (orderly_step scripts) actions
    initial).no_cycle index

end System

end Ipv6Mesh.RowLocks
