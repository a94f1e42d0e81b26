import Ipv6Mesh.DbNodeChanges
import Ipv6Mesh.HandlerRuns

/-!
# What a credential reaches

A node session sees the snapshot of its own node and changes the records of its
own node. A scoped administrator stays within its network, except through the
room route and through a scope that is blank but not empty.
-/

namespace Ipv6Mesh.HandlerConfinement

open GoText
open GoFlow hiding bind_eq_ok
open GoProgram ControlModel DbMemory DbOperations DbIntegrity DbNetworks DbNodeChanges AuthTokens
  ControlRoom ControlEnrollment ControlHandler HandlerEffects HandlerRuns

section Authorization

variable {moment : Moment} {principal : Principal} {nodeID networkID : String} {state : State}

theorem authorizeNode_node (node : principal.session.role = .node)
    (authorized : authorizeNode moment principal nodeID state = .ok ()) :
    nodeID = principal.session.subject ∧
      ControlHandler.authorizeNetwork moment principal principal.session.networkID state =
        .ok () := by
  simp only [authorizeNode, node, check_eq_ok, refuseWhen_ok] at authorized
  exact ⟨by simpa using authorized.1, authorized.2⟩

theorem authorizeNetwork_node (node : principal.session.role = .node)
    (authorized : ControlHandler.authorizeNetwork moment principal networkID state = .ok ()) :
    principal.session.networkID = networkID := by
  obtain ⟨-, -, -, ⟨admin, -⟩ | same⟩ :=
    (AuthHistory.authorizeNetwork_eq_ok (Or.inr node)).mp authorized
  · rw [node] at admin
    cases admin
  · exact same

end Authorization

theorem beats_refresh {moment : Moment} {nodeID : String} {clientVersion : Option String} {op : Op}
    (listed : op ∈ beats moment nodeID clientVersion) : RefreshesNode nodeID op := by
  simp only [beats, List.mem_append, List.mem_map, List.mem_singleton] at listed
  rcases listed with ⟨version, -, rfl⟩ | rfl <;> exact rfl

theorem refreshed_heartbeat {moment : Moment} {nodeID : String}
    {endpoints : List EndpointCandidate} {clientVersion : Option String} {written : List Op}
    {repository replaced : MemoryRepository} (sound : Integrity repository)
    (replacement : replaceEndpoints moment.writeContext nodeID endpoints repository =
      (.ok (), replaced))
    (partly : written <+: beats moment nodeID clientVersion) :
    Refreshed nodeID repository (run Op.step written replaced) := by
  have first : replaced = (Op.replaceEndpoints moment.writeContext nodeID endpoints).step
      repository := (congrArg Prod.snd replacement).symm
  rw [first, ← run_cons]
  refine refreshed_run sound fun op member => ?_
  rcases List.mem_cons.mp member with rfl | later
  · exact rfl
  · exact beats_refresh (partly.subset later)

def Route.authenticates : Route → Bool
  | .enroll => false
  | .joinRoom => false
  | .notFound => false
  | _ => true

section NodeSessions

variable {handler : Handler} {request : Request} {moment : Moment} {before after : State}
  {principal : Principal} {response : Response}

def OwnView (moment : Moment) (principal : Principal) (before : State) (response : Response) :
    Prop :=
  (response.body = .empty ∨ ∃ code, response.body = .code code) ∨
    ∃ built, buildSnapshot moment principal.session.networkID principal.session.subject before =
        .ok built ∧
      (response.body = .snapshot built ∨ response.body = .event built)

theorem node_served (sound : Integrity before.repository)
    (authenticates : Route.authenticates (routeOf request) = true)
    (authenticated : Authenticated handler request moment before principal)
    (node : principal.session.role = .node)
    (served : Served handler request moment before response after) :
    OwnView moment principal before response ∧
      NodeChange principal.session.subject before.repository after.repository := by
  have notAdmin : ∀ {other : Principal}, Authenticated handler request moment before other →
      other.session.role ≠ .admin := by
    intro other again admin
    rw [authenticated.unique again, node] at admin
    cases admin
  cases served with
  | refused refusal pruned =>
    rw [pruned.repository]
    exact ⟨Or.inl refusal.body, NodeChange.refl _ _⟩
  | network _ again admin | room _ again admin | invite _ again admin =>
    exact absurd admin (notAdmin again)
  | enrolled route | joined route | joinFailed route =>
    rw [route] at authenticates
    cases authenticates
  | viewed route again isNode authorized read shown =>
    obtain rfl := authenticated.unique again
    obtain rfl := authorizeNetwork_node isNode authorized
    refine ⟨Or.inr ⟨_, read, ?_⟩, NodeChange.refl _ _⟩
    rcases shown with rfl | rfl
    · exact Or.inl rfl
    · exact Or.inr rfl
  | heartbeat route named again authorized present replacement partly answered =>
    obtain rfl := authenticated.unique again
    obtain ⟨rfl, -⟩ := authorizeNode_node node authorized
    refine ⟨Or.inl ?_, (refreshed_heartbeat sound replacement partly).nodeChange⟩
    rcases answered with rfl | refusal
    · exact Or.inl rfl
    · exact refusal.body
  | removed route named again authorized present removal =>
    obtain rfl := authenticated.unique again
    obtain ⟨rfl, -⟩ := authorizeNode_node node authorized
    exact ⟨Or.inl (Or.inl rfl), nodeChange_removeNode sound removal⟩

end NodeSessions

section Agreement

variable {left right : MemoryRepository} {nodeID : String} {ctx : Context}

theorem guarded_agrees {Checked : Type} {checks others : Except Error Checked}
    {commit other : Checked → Unit × MemoryRepository}
    (same : checks.map (fun _ => ()) = others.map fun _ => ()) :
    (guarded left checks commit).1 = (guarded right others other).1 := by
  cases checks <;> cases others <;> cases same <;> rfl

theorem found_agrees {Value : Type} {held other : Option Value}
    (same : held.isSome = other.isSome) :
    (found held).map (fun _ => ()) = (found other).map fun _ => () := by
  cases held <;> cases other <;> cases same <;> rfl

theorem found_bind_agrees {Value Result : Type} {held other : Option Value}
    (rest : Except Error Result) (same : held.isSome = other.isSome) :
    (found held >>= fun _ => rest) = (found other >>= fun _ => rest) := by
  cases held <;> cases other <;> cases same <;> rfl

theorem map_bind_agrees {Value Result : Type} (check : Except Error Value)
    {next other : Value → Except Error Result}
    (same : ∀ value, (next value).map (fun _ => ()) = (other value).map fun _ => ()) :
    (check >>= next).map (fun _ => ()) = (check >>= other).map fun _ => () := by
  cases check with
  | error err => rfl
  | ok value => exact same value

variable (same : left.nodes[nodeID]?.isSome = right.nodes[nodeID]?.isSome)

include same

theorem getNode_agrees :
    (getNode ctx nodeID left).map (fun _ => ()) = (getNode ctx nodeID right).map fun _ => () :=
  map_bind_agrees _ fun _ => found_agrees same

theorem removeNode_agrees : (removeNode ctx nodeID left).1 = (removeNode ctx nodeID right).1 :=
  guarded_agrees (map_bind_agrees _ fun _ => found_agrees same)

theorem touchNode_agrees (lastSeen : Time) :
    (touchNode ctx nodeID lastSeen left).1 = (touchNode ctx nodeID lastSeen right).1 :=
  guarded_agrees (map_bind_agrees _ fun _ => map_bind_agrees _ fun _ => found_agrees same)

theorem updateNodeClientVersion_agrees (version : String) :
    (updateNodeClientVersion ctx nodeID version left).1 =
      (updateNodeClientVersion ctx nodeID version right).1 :=
  guarded_agrees (map_bind_agrees _ fun _ => map_bind_agrees _ fun _ => found_agrees same)

theorem replaceEndpoints_agrees (endpoints : List EndpointCandidate) :
    (replaceEndpoints ctx nodeID endpoints left).1 =
      (replaceEndpoints ctx nodeID endpoints right).1 := by
  refine guarded_agrees (map_bind_agrees _ fun _ => ?_)
  rw [found_bind_agrees _ same]

omit same

theorem presence_step {op : Op} (refreshes : RefreshesNode nodeID op)
    (repository : MemoryRepository) :
    (op.step repository).nodes[nodeID]?.isSome = repository.nodes[nodeID]?.isSome := by
  unfold Op.step
  rcases outcome : op.apply repository with ⟨_ | _, after⟩
  · cases op with
    | replaceEndpoints | updateNodeClientVersion | touchNode => rw [guarded_error outcome]
    | _ => cases refreshes
  · cases op with
    | replaceEndpoints ctx changed endpoints =>
      obtain ⟨-, -, validated, -, rfl⟩ := replaceEndpoints_eq_ok.mp outcome
      rw [foldl_increment_eq]
    | updateNodeClientVersion ctx changed version =>
      obtain rfl : changed = nodeID := refreshes
      obtain ⟨-, -, node, stored, rfl⟩ := updateNodeClientVersion_eq_ok.mp outcome
      simp [stored]
    | touchNode ctx changed lastSeen =>
      obtain rfl : changed = nodeID := refreshes
      obtain ⟨-, -, node, stored, rfl⟩ := touchNode_eq_ok.mp outcome
      simp [stored]
    | _ => cases refreshes

theorem presence_agrees (op : Op) (refreshes : RefreshesNode nodeID op)
    (same : left.nodes[nodeID]?.isSome = right.nodes[nodeID]?.isSome) :
    (op.step left).nodes[nodeID]?.isSome = (op.step right).nodes[nodeID]?.isSome :=
  (presence_step refreshes left).trans (same.trans (presence_step refreshes right).symm)

end Agreement

/-- The states give the session the same authorizations, the same snapshot and
the same answer to whether its node exists. -/
structure Alike (moment : Moment) (principal : Principal) (left right : State) : Prop where
  sessions : left.sessions = right.sessions
  present : left.repository.nodes[principal.session.subject]?.isSome =
    right.repository.nodes[principal.session.subject]?.isSome
  snapshot : buildSnapshot moment principal.session.networkID principal.session.subject left =
    buildSnapshot moment principal.session.networkID principal.session.subject right

section TwoStates

variable {handler : Handler} {request : Request} {moment : Moment} {left right : State}
  {principal : Principal}

theorem Authenticated.of_sessions
    (authenticated : Authenticated handler request moment left principal)
    (sessions : left.sessions = right.sessions) :
    Authenticated handler request moment right principal := by
  rw [authenticated_iff] at authenticated ⊢
  rwa [← sessions]

theorem agree_authenticate {respond : Error → Response}
    {next : Principal → Program State Response Response}
    (authenticated : Authenticated handler request moment left principal)
    (sessions : left.sessions = right.sessions) (continued : Agree (next principal) left right) :
    Agree (mapStop respond (ControlHandler.authenticate handler request moment) >>= next)
      left right := by
  have again := Authenticated.of_sessions authenticated sessions
  unfold Authenticated at authenticated again
  unfold Agree at *
  rw [bind_apply, bind_apply]
  simp only [mapStop, authenticated, again]
  exact continued

theorem agree_requireAdmin {respond : Error → Response}
    {next : Principal → Program State Response Response}
    (authenticated : Authenticated handler request moment left principal)
    (node : principal.session.role = .node) (sessions : left.sessions = right.sessions) :
    Agree (mapStop respond (requireAdmin handler request moment) >>= next) left right := by
  have again := Authenticated.of_sessions authenticated sessions
  unfold Authenticated at authenticated again
  have refused : refuseWhen (principal.session.role ≠ .admin) .insufficientPermission =
      .error (.sentinel .insufficientPermission) := by
    rw [node]
    rfl
  unfold Agree requireAdmin
  simp only [bind_apply, mapStop, authenticated, again, ask, refused]
  rfl

theorem agree_authorizeNetwork (sessions : left.sessions = right.sessions) (networkID : String) :
    ControlHandler.authorizeNetwork moment principal networkID left =
      ControlHandler.authorizeNetwork moment principal networkID right := by
  unfold ControlHandler.authorizeNetwork
  rw [sessions]

theorem agree_authorizeNode (node : principal.session.role = .node)
    (sessions : left.sessions = right.sessions) (nodeID : String) :
    authorizeNode moment principal nodeID left = authorizeNode moment principal nodeID right := by
  simp only [authorizeNode, node, agree_authorizeNetwork sessions]

theorem agree_snapshot (authenticated : Authenticated handler request moment left principal)
    (node : principal.session.role = .node) (alike : Alike moment principal left right) :
    Agree (snapshot handler request moment) left right := by
  refine agree_authenticate authenticated alike.sessions (agree_stopWhen_bind ?_)
  refine agree_ask_bind rfl fun networkID _ => ?_
  refine agree_ask_bind (agree_authorizeNetwork alike.sessions networkID) fun _ authorized => ?_
  obtain rfl := authorizeNetwork_node node authorized
  exact agree_ask_bind alike.snapshot fun _ _ => rfl

theorem agree_events (authenticated : Authenticated handler request moment left principal)
    (alike : Alike moment principal left right) :
    Agree (events handler request moment) left right := by
  refine agree_authenticate authenticated alike.sessions (agree_stopWhen_bind ?_)
  refine agree_ask_bind (agree_authorizeNetwork alike.sessions _) fun _ _ => ?_
  exact agree_ask_bind alike.snapshot fun _ _ => rfl

theorem agree_leaveNode (authenticated : Authenticated handler request moment left principal)
    (node : principal.session.role = .node) (alike : Alike moment principal left right) :
    Agree (leaveNode handler request moment) left right := by
  refine agree_authenticate authenticated alike.sessions ?_
  refine agree_ask_bind rfl fun nodeID _ => ?_
  refine agree_ask_bind (agree_authorizeNode node alike.sessions nodeID) fun _ authorized => ?_
  obtain ⟨rfl, -⟩ := authorizeNode_node node authorized
  refine agree_check_bind (getNode_agrees alike.present) ?_
  exact agree_within_bind (removeNode_agrees alike.present) fun _ => rfl

theorem agree_heartbeat (authenticated : Authenticated handler request moment left principal)
    (node : principal.session.role = .node) (alike : Alike moment principal left right) :
    Agree (heartbeat handler request moment) left right := by
  refine agree_authenticate authenticated alike.sessions ?_
  refine agree_ask_bind rfl fun nodeID _ => ?_
  refine agree_ask_bind (agree_authorizeNode node alike.sessions nodeID) fun _ authorized => ?_
  obtain ⟨rfl, -⟩ := authorizeNode_node node authorized
  refine agree_check_bind (getNode_agrees alike.present) ?_
  refine agree_ask_bind rfl fun body _ => agree_ask_bind rfl fun endpoints _ => ?_
  refine agree_within_bind (replaceEndpoints_agrees alike.present endpoints) fun _ => ?_
  have replaced := presence_agrees
    (.replaceEndpoints moment.writeContext principal.session.subject endpoints) rfl alike.present
  cases body.clientVersion with
  | none =>
    exact agree_bind rfl fun _ _ =>
      agree_within_bind (touchNode_agrees replaced moment.now) fun _ => rfl
  | some version =>
    refine agree_within_bind (updateNodeClientVersion_agrees replaced version) fun _ => ?_
    have updated := presence_agrees
      (.updateNodeClientVersion moment.versionContext principal.session.subject version) rfl
      replaced
    exact agree_within_bind (touchNode_agrees updated moment.now) fun _ => rfl

theorem agree_route (authenticates : Route.authenticates (routeOf request) = true)
    (authenticated : Authenticated handler request moment left principal)
    (node : principal.session.role = .node) (alike : Alike moment principal left right) :
    (serveHTTP handler request moment left).1 = (serveHTTP handler request moment right).1 := by
  have agrees : Agree ((routeOf request).program handler request moment) left right := by
    cases route : routeOf request with
    | createRoom =>
      exact agree_stopWhen_bind (agree_requireAdmin authenticated node alike.sessions)
    | createNetwork | createInvite | deleteNode =>
      exact agree_requireAdmin authenticated node alike.sessions
    | snapshot => exact agree_snapshot authenticated node alike
    | heartbeat => exact agree_heartbeat authenticated node alike
    | leaveNode => exact agree_leaveNode authenticated node alike
    | events => exact agree_events authenticated alike
    | _ =>
      rw [route] at authenticates
      cases authenticates
  unfold serveHTTP
  unfold Agree at agrees
  rcases outcome : (routeOf request).program handler request moment left with
    ⟨response | response, after⟩ <;>
    rcases other : (routeOf request).program handler request moment right with
      ⟨answered | answered, final⟩ <;>
    rw [outcome, other] at agrees <;> cases agrees <;> rfl

end TwoStates

/-- A node session sees its own snapshot, changes its own records, and learns nothing else. -/
structure NodeConfined (handler : Handler) (request : Request) (moment : Moment)
    (principal : Principal) (before : State) : Prop where
  view : OwnView moment principal before (serveHTTP handler request moment before).1
  changes : NodeChange principal.session.subject before.repository
    (serveHTTP handler request moment before).2.repository
  independent : ∀ other, Alike moment principal before other →
    (serveHTTP handler request moment before).1 = (serveHTTP handler request moment other).1

theorem node_session_confined (maxAge : Duration) (actions : List Action) (sessions : SessionStore)
    (roomNetworkID : String) (limiter : RoomJoinLimiter) (handler : Handler) (request : Request)
    (moment : Moment) (principal : Principal)
    (authenticates : Route.authenticates (routeOf request) = true)
    (authenticated : Authenticated handler request moment
      ⟨reached maxAge actions, sessions, roomNetworkID, limiter⟩ principal)
    (node : principal.session.role = .node) :
    NodeConfined handler request moment principal
      ⟨reached maxAge actions, sessions, roomNetworkID, limiter⟩ := by
  have sound := (wellFormed_reached maxAge actions).integrity
  obtain ⟨view, changes⟩ := node_served sound authenticates authenticated node
    (serveHTTP_served handler request moment _)
  exact ⟨view, changes, fun other alike => agree_route authenticates authenticated node alike⟩

def nodeSession (subject networkID : String) : Session := ⟨subject, .node, networkID, minute⟩

def storeWith (token : String) (session : Session) : SessionStore :=
  { newSessionStore minute with sessions := (∅ : GoMap Session).insert token session }

def inhabitedRun : List Action :=
  [.single (.createNetwork .live ⟨"n", "n", "10.0.0.0/30", "owner", 1, 1⟩),
    .single (.addNode .live ⟨"a", "a", "key", "linux", "1", 1⟩),
    .single (.addMembership .live ⟨"n", "a", [10, 0, 0, 1], .member, .active⟩)]

/-- Besides `a` there is a node `b`, in the network of `a` and in another one. -/
def crowdedRun : List Action :=
  inhabitedRun ++ [.single (.createNetwork .live ⟨"m", "m", "10.1.0.0/30", "owner", 1, 1⟩),
    .single (.addNode .live ⟨"b", "b", "other key", "linux", "1", 1⟩),
    .single (.addMembership .live ⟨"n", "b", [10, 0, 0, 2], .member, .active⟩),
    .single (.addMembership .live ⟨"m", "b", [10, 1, 0, 1], .member, .active⟩)]

def stateWith (session : Session) : State :=
  ⟨reached minute inhabitedRun, storeWith "token" session, "", newRoomJoinLimiter 0 0⟩

theorem node_session_confined_on_leave :
    NodeConfined (plainHandler false) (plainRequest .post "/v1/nodes/a/leave" "Bearer token")
      (plainMoment 2 "" 7) ⟨nodeSession "a" "n", false⟩
      ⟨reached minute crowdedRun, storeWith "token" (nodeSession "a" "n"), "",
        newRoomJoinLimiter 0 0⟩ :=
  node_session_confined minute _ _ _ _ _ _ _ _ (by decide +kernel)
    (authenticated_of_session (by decide +kernel) (by decide +kernel) (by decide +kernel)
      Std.ExtTreeMap.getElem?_insert_self (by decide +kernel) (Or.inr (by decide +kernel))) rfl

end Ipv6Mesh.HandlerConfinement
