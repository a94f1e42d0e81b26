import Ipv6Mesh.DbPostgresTables
import Ipv6Mesh.RowLocks

/-!
# The row locks of the PostgreSQL repository

The transactions of `internal/db/postgres.go` and of the enrollment service as
the scripts of the `SELECT ... FOR UPDATE` locks they take on nodes and networks.
An inserted node is locked by its inserter. The answers between locks are not
tied to any one state of the tables, since other transactions commit meanwhile.
Every script takes nodes before networks and each kind by increasing identifier.
-/

namespace Ipv6Mesh.PostgresLocks

open GoText GoNet GoFlow ControlModel ControlValidation
open DbMemory (Op consumptionTime)
open PostgresRepository (Database sortedUniqueStrings validateEndpoints)
open DbPostgresTables RowLocks RowLocks.Script

inductive Row where
  | node (id : String)
  | network (id : String)
  deriving DecidableEq, Repr

inductive Question where
  | affectedNetworkIDs (nodeID : String)
  | membershipNetworkIDs (nodeID : String)
  | relayAssignmentNodeIDs (networkID : String)
  | consumedInvite (inviteOrNetworkID tokenHash : String) (consumedAt : Time) (nodeID : String)

abbrev Locking := Script Row Question (Except Error (List String)) Error

def queryIDs (question : Question) : Locking (List String) := do
  let answer ← query question
  check answer

def lockNodeRows (nodeIDs : List String) : Locking Unit :=
  (sortedUniqueStrings nodeIDs).forM fun nodeID => lockRow (.node nodeID)

def lockNetworkRows (networkIDs : List String) : Locking Unit :=
  (sortedUniqueStrings networkIDs).forM fun networkID => lockRow (.network networkID)

def lockNetworkAndReadIPv4Pool (networkID : String) : Locking Unit := lockRow (.network networkID)

def addNode (ctx : Context) (node : Node) : Locking Unit := do
  check (validateNode node)
  check (contextError ctx)
  lockRow (.node node.id)

def removeNode (ctx : Context) (nodeID : String) : Locking Unit := do
  check (contextError ctx)
  lockNodeRows [nodeID]
  let networkIDs ← queryIDs (.affectedNetworkIDs nodeID)
  lockNetworkRows networkIDs

def addMembership (ctx : Context) (membership : Membership) : Locking Unit := do
  check (validateMembership membership)
  check (contextError ctx)
  lockNodeRows [membership.nodeID]
  lockNetworkAndReadIPv4Pool membership.networkID

def removeMembership (ctx : Context) (networkID nodeID : String) : Locking Unit := do
  check (contextError ctx)
  lockNodeRows [nodeID]
  lockNetworkRows [networkID]

def lockConsumer (nodeID : String) : Locking Unit :=
  if nodeID ≠ "" then lockNodeRows [nodeID] else pure ()

def createInvite (ctx : Context) (invite : Invite) : Locking Unit := do
  check (validateInvite invite)
  check (contextError ctx)
  lockConsumer invite.consumedByNodeID
  lockNetworkRows [invite.networkID]

def consumeInviteForNode (ctx : Context) (inviteOrNetworkID tokenHash : String)
    (consumedAt : Time) (consumedByNodeID : String) : Locking (List String) := do
  check (contextError ctx)
  lockConsumer consumedByNodeID
  queryIDs (.consumedInvite inviteOrNetworkID tokenHash consumedAt consumedByNodeID)

def replaceEndpoints (ctx : Context) (nodeID : String) (endpoints : List EndpointCandidate) :
    Locking Unit := do
  check (validateEndpoints nodeID endpoints)
  check (contextError ctx)
  lockNodeRows [nodeID]
  let networkIDs ← queryIDs (.membershipNetworkIDs nodeID)
  lockNetworkRows networkIDs

def setRelayAssignment (ctx : Context) (assignment : RelayAssignment) : Locking Unit := do
  check (validateRelayAssignment assignment)
  check (contextError ctx)
  lockNodeRows [assignment.nodeID, assignment.relayNodeID]
  lockNetworkRows [assignment.networkID]

def removeRelayAssignment (ctx : Context) (networkID : String) : Locking Unit := do
  check (contextError ctx)
  let nodeIDs ← queryIDs (.relayAssignmentNodeIDs networkID)
  lockNodeRows nodeIDs
  lockNetworkRows [networkID]

def methodScript : Op → Locking Unit
  | .addNode ctx node => addNode ctx node
  | .removeNode ctx nodeID => removeNode ctx nodeID
  | .addMembership ctx membership => addMembership ctx membership
  | .removeMembership ctx networkID nodeID => removeMembership ctx networkID nodeID
  | .createInvite ctx invite => createInvite ctx invite
  | .consumeInviteForNode ctx wall inviteOrNetworkID tokenHash consumedAt nodeID => do
      let _ ← consumeInviteForNode ctx inviteOrNetworkID tokenHash (consumptionTime wall consumedAt)
        nodeID
  | .replaceEndpoints ctx nodeID endpoints => replaceEndpoints ctx nodeID endpoints
  | .setRelayAssignment ctx assignment => setRelayAssignment ctx assignment
  | .removeRelayAssignment ctx networkID => removeRelayAssignment ctx networkID
  | _ => pure ()

def enrolledMembership (networkID nodeID : String) (address : IP) : Membership :=
  { networkID := networkID, nodeID := nodeID, virtualIPv4 := address, role := .member,
    status := .active }

/-- The attempts of an enrollment to place its node, one for each address that
was tried. -/
def addMembershipAttempts (ctx : Context) (networkID nodeID : String) (addresses : List IP) :
    Locking Unit :=
  addresses.forM fun address => addMembership ctx (enrolledMembership networkID nodeID address)

def enroll (ctx : Context) (node : Node) (inviteID tokenHash : String) (now : Time)
    (addresses : List IP) : Locking Unit := do
  addNode ctx node
  let networkIDs ← consumeInviteForNode ctx inviteID tokenHash now node.id
  match networkIDs with
  | [] => pure ()
  | networkID :: _ => addMembershipAttempts ctx networkID node.id addresses

inductive Work where
  | method (op : Op)
  | enrollment (ctx : Context) (node : Node) (inviteID tokenHash : String) (now : Time)
      (addresses : List IP)

def script : Work → Locking Unit
  | .method op => methodScript op
  | .enrollment ctx node inviteID tokenHash now addresses =>
    enroll ctx node inviteID tokenHash now addresses

def Position := Bool ×ₗ String

instance : Preorder Position := inferInstanceAs (Preorder (Bool ×ₗ String))

def position : Row → Position
  | .node id => toLex (false, id)
  | .network id => toLex (true, id)

theorem node_before_network (nodeID networkID : String) :
    position (.node nodeID) < position (.network networkID) :=
  Prod.Lex.toLex_lt_toLex.mpr (.inl Bool.false_lt_true)

theorem node_before_node {left right : String} (less : left < right) :
    position (.node left) < position (.node right) :=
  Prod.Lex.toLex_lt_toLex.mpr (.inr ⟨rfl, less⟩)

theorem network_before_network {left right : String} (less : left < right) :
    position (.network left) < position (.network right) :=
  Prod.Lex.toLex_lt_toLex.mpr (.inr ⟨rfl, less⟩)

theorem sortedUniqueStrings_increasing (values : List String) :
    (sortedUniqueStrings values).Pairwise (· < ·) := by
  have sorted := sliceStable_sorted_by (fun left right : String => decide (left < right)) id
    (fun _ _ => decide_eq_true_iff) values
  have ordered : (sortedUniqueStrings values).Pairwise (· ≤ ·) := by
    rw [sortedUniqueStrings_eq_dedup]
    exact (sorted.imp fun notLess => not_lt.mp (of_decide_eq_false notLess)).sublist
      (List.dedup_sublist _)
  exact (ordered.and (sortedUniqueStrings_nodup values)).imp fun both =>
    lt_of_le_of_ne both.1 both.2

section Ordered

variable {held : List Row} {post : Unit → List Row → Prop}

theorem inOrder_lockNodeRows {nodeIDs : List String}
    (lockable : ∀ nodeID ∈ nodeIDs, Lockable position held (.node nodeID))
    (holds : ∀ after, (∀ row, row ∈ after ↔ row ∈ held ∨ ∃ nodeID ∈ nodeIDs, row = .node nodeID) →
      post () after) : (lockNodeRows nodeIDs).InOrder position post held := by
  refine inOrder_lockEach ((sortedUniqueStrings_increasing nodeIDs).imp node_before_node)
    (fun nodeID listed => lockable nodeID (mem_sortedUniqueStrings.mp listed))
    fun after members => holds after fun row => ?_
  rw [members, List.mem_map]
  simp only [mem_sortedUniqueStrings, eq_comm]

theorem inOrder_lockNetworkRows {networkIDs : List String}
    (nodes : ∀ row ∈ held, ∃ nodeID, row = .node nodeID) (holds : ∀ after, post () after) :
    (lockNetworkRows networkIDs).InOrder position post held := by
  refine inOrder_lockEach ((sortedUniqueStrings_increasing networkIDs).imp network_before_network)
    (fun networkID _ => .inr fun row inside => ?_) fun after _ => holds after
  obtain ⟨nodeID, rfl⟩ := nodes row inside
  exact node_before_network nodeID networkID

theorem inOrder_nodes_then_networks {nodeIDs : List String} {next : Unit → Locking Unit}
    (networks : ∀ after, (∀ row ∈ after, ∃ nodeID, row = .node nodeID) →
      (next ()).InOrder position post after) :
    (lockNodeRows nodeIDs >>= next).InOrder position post [] := by
  rw [inOrder_bind]
  refine inOrder_lockNodeRows (fun _ _ => .inr fun _ inside => ?_) fun after members =>
    networks after fun row inside => ?_
  · cases inside
  · rcases (members row).mp inside with none | ⟨nodeID, -, rfl⟩
    · cases none
    · exact ⟨nodeID, rfl⟩

theorem inOrder_lockConsumer {nodeID : String} {Result : Type} {next : Unit → Locking Result}
    {post : Result → List Row → Prop}
    (lockable : Lockable position held (.node nodeID))
    (holds : ∀ after, (∀ row ∈ after, row ∈ held ∨ row = .node nodeID) →
      (∀ row ∈ held, row ∈ after) → (next ()).InOrder position post after) :
    (lockConsumer nodeID >>= next).InOrder position post held := by
  rw [inOrder_bind]
  unfold lockConsumer
  split_ifs with named
  · refine inOrder_lockNodeRows (fun other listed => ?_) fun after members =>
      holds after (fun row inside => ?_) fun row inside => (members row).mpr (.inl inside)
    · rw [List.mem_singleton.mp listed]
      exact lockable
    · rcases (members row).mp inside with earlier | ⟨other, listed, rfl⟩
      · exact .inl earlier
      · rw [List.mem_singleton.mp listed]
        exact .inr rfl
  · exact inOrder_pure.mpr (holds held (fun _ => .inl) fun _ => id)

theorem lockable_empty (row : Row) : Lockable position [] row :=
  .inr fun _ inside => absurd inside List.not_mem_nil

theorem inOrder_networks (networkIDs : List String)
    (nodes : ∀ row ∈ held, ∃ nodeID, row = .node nodeID) :
    (lockNetworkRows networkIDs).InOrder position (fun _ _ => True) held :=
  inOrder_lockNetworkRows nodes fun _ => trivial

theorem inOrder_checked {Result : Type} {checked : Except Error Unit}
    {next : Unit → Locking Result} {post : Result → List Row → Prop}
    (ordered : (next ()).InOrder position post held) :
    (check checked >>= next).InOrder position post held := by
  rw [inOrder_bind]
  exact inOrder_check fun _ => ordered

theorem inOrder_queryIDs {Result : Type} {question : Question}
    {next : List String → Locking Result} {post : Result → List Row → Prop}
    (ordered : ∀ ids, (next ids).InOrder position post held) :
    (queryIDs question >>= next).InOrder position post held := by
  rw [inOrder_bind, queryIDs, inOrder_bind]
  exact inOrder_query fun answer => inOrder_check ordered

theorem inOrder_method (op : Op) :
    (methodScript op).InOrder position (fun _ _ => True) [] := by
  cases op with
  | addNode ctx node =>
    rw [methodScript, addNode]
    refine inOrder_checked (inOrder_checked ?_)
    rw [inOrder_lockRow]
    exact ⟨lockable_empty _, trivial⟩
  | removeNode ctx nodeID =>
    rw [methodScript, removeNode]
    refine inOrder_checked (inOrder_nodes_then_networks fun after nodes => ?_)
    exact inOrder_queryIDs fun networkIDs => inOrder_networks networkIDs nodes
  | addMembership ctx membership =>
    rw [methodScript, addMembership]
    refine inOrder_checked (inOrder_checked (inOrder_nodes_then_networks fun after nodes => ?_))
    rw [lockNetworkAndReadIPv4Pool, inOrder_lockRow]
    refine ⟨.inr fun row inside => ?_, trivial⟩
    obtain ⟨nodeID, rfl⟩ := nodes row inside
    exact node_before_network nodeID membership.networkID
  | removeMembership ctx networkID nodeID =>
    rw [methodScript, removeMembership]
    exact inOrder_checked (inOrder_nodes_then_networks fun after =>
      inOrder_networks [networkID])
  | createInvite ctx invite =>
    rw [methodScript, createInvite]
    refine inOrder_checked (inOrder_checked
      (inOrder_lockConsumer (lockable_empty _) fun after nodes _ => ?_))
    refine inOrder_networks [invite.networkID] fun row inside => ?_
    exact ⟨_, (nodes row inside).resolve_left List.not_mem_nil⟩
  | consumeInviteForNode ctx wall inviteOrNetworkID tokenHash consumedAt nodeID =>
    rw [methodScript, inOrder_bind, consumeInviteForNode]
    refine inOrder_checked (inOrder_lockConsumer (lockable_empty _) fun after _ _ => ?_)
    rw [queryIDs, inOrder_bind]
    exact inOrder_query fun answer => inOrder_check fun _ => inOrder_pure.mpr trivial
  | replaceEndpoints ctx nodeID endpoints =>
    rw [methodScript, replaceEndpoints]
    refine inOrder_checked (inOrder_checked (inOrder_nodes_then_networks fun after nodes => ?_))
    exact inOrder_queryIDs fun networkIDs => inOrder_networks networkIDs nodes
  | setRelayAssignment ctx assignment =>
    rw [methodScript, setRelayAssignment]
    exact inOrder_checked (inOrder_checked (inOrder_nodes_then_networks fun after =>
      inOrder_networks [assignment.networkID]))
  | removeRelayAssignment ctx networkID =>
    rw [methodScript, removeRelayAssignment]
    exact inOrder_checked (inOrder_queryIDs fun nodeIDs =>
      inOrder_nodes_then_networks fun after => inOrder_networks [networkID])
  | createNetwork | touchNode | updateNodeClientVersion | revokeInvite | consumeInvite =>
    exact inOrder_pure.mpr trivial

def Enrolling (nodeID networkID : String) (held : List Row) : Prop :=
  .node nodeID ∈ held ∧ ∀ row ∈ held, row = .node nodeID ∨ row = .network networkID

theorem Enrolling.lockable {nodeID networkID : String}
    (enrolling : Enrolling nodeID networkID held) :
    Lockable position held (.network networkID) := by
  by_cases taken : Row.network networkID ∈ held
  · exact .inl taken
  · refine .inr fun row inside => ?_
    rcases enrolling.2 row inside with rfl | rfl
    · exact node_before_network nodeID networkID
    · exact absurd inside taken

theorem inOrder_attempt {nodeID networkID : String} (ctx : Context) (address : IP)
    (enrolling : Enrolling nodeID networkID held) :
    (addMembership ctx (enrolledMembership networkID nodeID address)).InOrder position
      (fun _ => Enrolling nodeID networkID) held := by
  rw [addMembership]
  refine inOrder_checked (inOrder_checked ?_)
  rw [inOrder_bind]
  refine inOrder_lockNodeRows (fun other listed => ?_) fun after members => ?_
  · rw [List.mem_singleton.mp listed]
    exact .inl enrolling.1
  · have still : Enrolling nodeID networkID after := by
      refine ⟨(members _).mpr (.inl enrolling.1), fun row inside => ?_⟩
      rcases (members row).mp inside with earlier | ⟨other, listed, rfl⟩
      · exact enrolling.2 row earlier
      · rw [List.mem_singleton.mp listed]
        exact .inl rfl
    rw [lockNetworkAndReadIPv4Pool, inOrder_lockRow]
    exact ⟨still.lockable, List.mem_cons_of_mem _ still.1,
      List.forall_mem_cons.mpr ⟨.inr rfl, still.2⟩⟩

theorem inOrder_enroll (ctx : Context) (node : Node) (inviteID tokenHash : String) (now : Time)
    (addresses : List IP) :
    (enroll ctx node inviteID tokenHash now addresses).InOrder position (fun _ _ => True) [] := by
  rw [enroll, inOrder_bind, addNode]
  refine inOrder_checked (inOrder_checked ?_)
  rw [inOrder_lockRow, inOrder_bind, consumeInviteForNode]
  refine ⟨lockable_empty _, inOrder_checked ?_⟩
  refine inOrder_lockConsumer (.inl List.mem_cons_self) fun after only kept => ?_
  rw [queryIDs, inOrder_bind]
  refine inOrder_query fun answer => inOrder_check fun networkIDs => ?_
  cases networkIDs with
  | nil => exact inOrder_pure.mpr trivial
  | cons networkID rest =>
    have enrolling : Enrolling node.id networkID after := by
      refine ⟨kept _ List.mem_cons_self, fun row inside => .inl ?_⟩
      rcases only row inside with inserted | same
      · exact List.mem_singleton.mp inserted
      · exact same
    exact (inOrder_forM (fun address _ => inOrder_attempt ctx address) enrolling).weaken
      fun _ _ _ => trivial

theorem inOrder_script (work : Work) : (script work).InOrder position (fun _ _ => True) [] := by
  cases work with
  | method op => exact inOrder_method op
  | enrollment ctx node inviteID tokenHash now addresses =>
    exact inOrder_enroll ctx node inviteID tokenHash now addresses

end Ordered

/-- However any number of transactions are interleaved, and whatever they read
between their locks, none of them waits for itself through others. -/
theorem row_locks_never_deadlock (actions : List (Action (Except Error (List String)) Work))
    (index : Nat) :
    ¬Relation.TransGen (WaitsFor (run (step script) actions [])) index index :=
  no_deadlock inOrder_script actions index

example : WaitsFor (run (step script) [.begin_ (.method (.removeNode .live "a")),
    .begin_ (.method (.removeNode .live "a")), .advance 0 (.ok [])] []) 1 0 :=
  ⟨by decide, .node "a", ⟨_, _, rfl⟩, ⟨_, rfl, by decide⟩⟩

end Ipv6Mesh.PostgresLocks
