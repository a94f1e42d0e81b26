import Ipv6Mesh.HandlerHeartbeats

/-!
# The scope of an administrator

An administrator session with a network is meant to act on that network and on
the nodes that are in no other. Three helpers enforce it, each in its own way:
`createRoom` asks none of them, and a scope of spaces passes as no scope.
-/

namespace Ipv6Mesh.HandlerScope

open GoText GoMap GoFlow ControlModel DbMemory DbOperations DbIntegrity DbNetworks DbNodeChanges
  AuthTokens ControlRoom ControlEnrollment ControlHandler HandlerEffects HandlerRuns
  HandlerConfinement HandlerHeartbeats
open GoProgram (bind_apply mapStop ask within stopWhen)

def Owned (repository : MemoryRepository) (networkID nodeID : String) : Prop :=
  (∃ node, repository.nodes[nodeID]? = some node) ∧
    ∀ other existing, repository.membership? other nodeID = some existing → other = networkID

structure Within (networkID : String) (before after : MemoryRepository) : Prop where
  created : before.networks[networkID]? = none → after.networks[networkID]? = none
  networks : ∀ other, other ≠ networkID → after.networks[other]? = before.networks[other]?
  memberships : ∀ other nodeID, other ≠ networkID →
    after.membership? other nodeID = before.membership? other nodeID
  relays : ∀ other target, other ≠ networkID →
    after.relayAssignment? other target = before.relayAssignment? other target
  nodes : ∀ nodeID, ¬Owned before networkID nodeID → after.nodes[nodeID]? = before.nodes[nodeID]?
  endpoints : ∀ nodeID, ¬Owned before networkID nodeID →
    after.endpoints[nodeID]? = before.endpoints[nodeID]?
  invites : ∀ inviteID : String, after.invites[inviteID]? = before.invites[inviteID]? ∨
    (∃ invite, before.invites[inviteID]? = none ∧ after.invites[inviteID]? = some invite ∧
      invite.networkID = networkID) ∨
    ∃ invite, before.invites[inviteID]? = some invite ∧
      Owned before networkID invite.consumedByNodeID

theorem Within.refl (networkID : String) (repository : MemoryRepository) :
    Within networkID repository repository :=
  ⟨id, fun _ _ => rfl, fun _ _ _ => rfl, fun _ _ _ => rfl, fun _ _ => rfl, fun _ _ => rfl,
    fun _ => Or.inl rfl⟩

section Within

variable {before after : MemoryRepository} {networkID nodeID : String}

theorem member_of_affected (sound : Integrity before) {other : String}
    (affected : other ∈ affectedNetworks before nodeID) :
    ∃ existing, before.membership? other nodeID = some existing := by
  rcases mem_affectedNetworks.mp affected with member | relay
  · exact mem_networksOfNode.mp member
  · obtain ⟨target, assignment, lookup, named⟩ := mem_networksOfRelay.mp relay
    obtain ⟨-, targeted⟩ := sound.relays.named other target assignment lookup
    simp only [names, Bool.or_eq_true, decide_eq_true_eq] at named
    rcases named with rfl | rfl
    · obtain ⟨existing, member, -⟩ := sound.relays.target other target assignment lookup
      exact ⟨existing, targeted ▸ member⟩
    · obtain ⟨-, existing, member, -⟩ := sound.relays.relay other target assignment lookup
      exact ⟨existing, member⟩

theorem within_of_nodeChange (sound : Integrity before) (owned : Owned before networkID nodeID)
    (change : NodeChange nodeID before after) : Within networkID before after where
  created absent := by
    rcases change.networks networkID with same | ⟨-, network, version, stored, -⟩
    · exact same.trans absent
    · rw [absent] at stored
      cases stored
  networks other different := by
    rcases change.networks other with same | ⟨affected, -⟩
    · exact same
    · obtain ⟨existing, member⟩ := member_of_affected sound affected
      exact absurd (owned.2 other existing member) different
  memberships other member different := by
    by_cases same : member = nodeID
    · subst same
      have absent : before.membership? other member = none :=
        Option.eq_none_iff_forall_not_mem.mpr fun existing held =>
          different (owned.2 other existing held)
      rw [change.noneAdded other absent, absent]
    · exact change.memberships other member same
  relays other target different := by
    refine change.relays other target fun assignment lookup => Bool.eq_false_iff.mpr fun named => ?_
    have affected : other ∈ affectedNetworks before nodeID := mem_affectedNetworks.mpr
      (Or.inr (mem_networksOfRelay.mpr ⟨target, assignment, lookup, named⟩))
    obtain ⟨existing, member⟩ := member_of_affected sound affected
    exact different (owned.2 other existing member)
  nodes other foreign := change.nodes other fun same => foreign (same ▸ owned)
  endpoints other foreign := change.endpoints other fun same => foreign (same ▸ owned)
  invites inviteID := by
    rcases change.invites inviteID with same | ⟨invite, stored, consumed, -⟩
    · exact Or.inl same
    · exact Or.inr (Or.inr ⟨invite, stored, consumed ▸ owned⟩)

theorem within_createInvite {ctx : Context} {invite : Invite}
    (inside : invite.networkID = networkID)
    (created : createInvite ctx invite before = (.ok (), after)) :
    Within networkID before after := by
  obtain ⟨-, -, -, -, fresh, -, rfl⟩ := createInvite_eq_ok.mp created
  refine ⟨id, fun _ _ => rfl, fun _ _ _ => rfl, fun _ _ _ => rfl, fun _ _ => rfl, fun _ _ => rfl,
    fun inviteID => ?_⟩
  by_cases same : invite.id = inviteID
  · subst same
    exact Or.inr (Or.inl ⟨invite, fresh, Std.ExtTreeMap.getElem?_insert_self, inside⟩)
  · exact Or.inl ((getElem?_insert _ _ _ _).trans (if_neg same))

theorem not_within_createNetwork {ctx : Context} {network : Network}
    (created : createNetwork ctx network before = (.ok (), after)) :
    ¬Within networkID before after := by
  obtain ⟨-, -, fresh, rfl⟩ := createNetwork_eq_ok.mp created
  intro within
  by_cases same : network.id = networkID
  · have absent := within.created (same ▸ fresh)
    rw [← same] at absent
    simp at absent
  · have unchanged := within.networks network.id same
    rw [fresh] at unchanged
    simp at unchanged

end Within

variable {nodeID : String}

theorem authorizeNode_admin {moment : Moment} {principal : Principal} {state : State}
    (admin : principal.session.role = .admin) (scope : blank principal.session.networkID = false)
    (authorized : authorizeNode moment principal nodeID state = .ok ()) :
    Owned state.repository principal.session.networkID nodeID ∧
      ControlHandler.authorizeNetwork moment principal principal.session.networkID state =
        .ok () := by
  simp only [authorizeNode, admin, authorizeAdminNodeScope, scope, Bool.false_eq_true, if_false,
    bind_eq_ok, refuseWhen_ok] at authorized
  obtain ⟨_, -, networkIDs, read, _, -, _, same, network⟩ := authorized
  obtain ⟨-, present, rfl⟩ := getNodeNetworkIDs_eq_ok.mp read
  refine ⟨⟨present, fun other existing member => ?_⟩, network⟩
  have listed : other ∈ sliceStable (fun left right => decide (left < right))
      (networksOfNode state.repository nodeID) :=
    (mem_sliceStable _).mpr (mem_networksOfNode.mpr ⟨existing, member⟩)
  simpa using List.any_eq_false.mp same other listed

variable {networkID : String}

theorem authorizeNetwork_admin {moment : Moment} {principal : Principal} {state : State}
    (admin : principal.session.role = .admin) (scope : principal.session.networkID ≠ "")
    (authorized : ControlHandler.authorizeNetwork moment principal networkID state = .ok ()) :
    networkID = principal.session.networkID := by
  obtain ⟨-, -, -, ⟨-, unscoped⟩ | same⟩ :=
    (AuthHistory.authorizeNetwork_eq_ok (Or.inl admin)).mp authorized
  · exact absurd unscoped scope
  · exact same.symm

theorem beats_networks {moment : Moment} {clientVersion : Option String} {written : List Op}
    (partly : written <+: beats moment nodeID clientVersion) (repository : MemoryRepository) :
    (run Op.step written repository).networks = repository.networks := by
  refine run_invariant_of_mem Op.step (fun state => state.networks = repository.networks)
    (fun op member state same => ?_) rfl
  have listed := partly.subset member
  simp only [beats, List.mem_append, List.mem_map, List.mem_singleton] at listed
  rw [← same]
  unfold Op.step
  rcases outcome : op.apply state with ⟨_ | _, after⟩
  all_goals rcases listed with ⟨version, -, rfl⟩ | rfl
  · rw [guarded_error outcome]
  · rw [guarded_error outcome]
  · obtain ⟨-, -, node, -, rfl⟩ := updateNodeClientVersion_eq_ok.mp outcome
    rfl
  · obtain ⟨-, -, node, -, rfl⟩ := touchNode_eq_ok.mp outcome
    rfl

section Escapes

variable {before replaced : MemoryRepository} {networkID nodeID outside : String}
  {existing : Membership} {moment : Moment}

theorem not_within_heartbeat {endpoints : List EndpointCandidate} {clientVersion : Option String}
    {written : List Op} (sound : Integrity before)
    (member : before.membership? outside nodeID = some existing) (different : outside ≠ networkID)
    (replacement : replaceEndpoints moment.writeContext nodeID endpoints before =
      (.ok (), replaced))
    (partly : written <+: beats moment nodeID clientVersion) :
    ¬Within networkID before (run Op.step written replaced) := by
  intro within
  have listed : outside ∈ networksOfNode before nodeID := mem_networksOfNode.mpr ⟨existing, member⟩
  obtain ⟨network, stored⟩ := sound.memberNetwork listed
  obtain ⟨-, -, validated, -, rfl⟩ := replaceEndpoints_eq_ok.mp replacement
  have unchanged := within.networks outside different
  rw [beats_networks partly, foldl_increment_networks (networksOfNode_nodup _ _), if_pos listed,
    Std.ExtTreeMap.getD_eq_getD_getElem?, stored, Option.getD_some, Option.some.injEq] at unchanged
  exact nextConfigVersion_ne _ (congrArg Network.configVersion unchanged)

theorem not_within_removal {after : MemoryRepository} (different : outside ≠ networkID)
    (member : before.membership? outside nodeID = some existing)
    (removal : removeNode moment.writeContext nodeID before = (.ok (), after)) :
    ¬Within networkID before after := by
  intro within
  obtain ⟨-, node, stored, rfl⟩ := removeNode_eq_ok.mp removal
  have foreign : ¬Owned before networkID nodeID := fun owned =>
    different (owned.2 outside existing member)
  have unchanged := within.nodes nodeID foreign
  rw [stored, foldl_increment_eq] at unchanged
  simp [withoutNode] at unchanged

end Escapes

section Answers

variable {handler : Handler} {request : Request} {moment : Moment} {before : State}
  {principal : Principal} {nodeID : String}

/-- Apart from the session, everything that a request about a node is checked for:
its body is read and its contexts are live. -/
def Reaches (handler : Handler) (request : Request) (moment : Moment) (nodeID : String)
    (before : State) : Prop :=
  match routeOf request with
  | .heartbeat => ∃ body node validated,
      Reports handler request moment before nodeID body node validated
  | .leaveNode => moment.lookupContext = .live ∧ moment.writeContext = .live
  | .deleteNode => moment.writeContext = .live
  | _ => False

/-- The two ways out of a scope: creating the room, and a scope of spaces with
which a network is created or a node of some network is written to. -/
def Escapes (handler : Handler) (request : Request) (moment : Moment) (principal : Principal)
    (before : State) : Prop :=
  OpensRoom handler request moment principal.session.subject before ∨
    (blank principal.session.networkID = true ∧
      (CreatesNetwork request moment principal.session.subject before ∨
        ∃ nodeID networkID existing, namedNode request = some nodeID ∧
          before.repository.membership? networkID nodeID = some existing ∧
          Reaches handler request moment nodeID before))

theorem authorizeNode_unscoped (admin : principal.session.role = .admin)
    (unscoped : blank principal.session.networkID = true) :
    authorizeNode moment principal nodeID before = .ok () := by
  simp [authorizeNode, authorizeAdminNodeScope, admin, unscoped, refuseWhen]
  rfl

theorem requireAdmin_answered
    (authenticated : Authenticated handler request moment before principal)
    (admin : principal.session.role = .admin) :
    requireAdmin handler request moment before = (.ok principal, before) := by
  unfold Authenticated at authenticated
  simp [requireAdmin, bind_apply, authenticated, admin, refuseWhen]
  rfl

theorem createNetwork_answered
    (authenticated : Authenticated handler request moment before principal)
    (admin : principal.session.role = .admin)
    (unscoped : blank principal.session.networkID = true)
    (creates : CreatesNetwork request moment principal.session.subject before) :
    (serveHTTP handler request moment before).1.status = 201 := by
  obtain ⟨route, body, pool, networkID, parsed, named, read, identified, live, valid, fresh⟩ :=
    creates
  have created := createNetwork_eq_ok.mpr ⟨live, valid, fresh, rfl⟩
  simp [serveHTTP, route, Route.program, ControlHandler.createNetwork, answer, answerWith,
    bind_apply, mapStop, requireAdmin_answered authenticated admin, unscoped, stopWhen, ask, parsed,
    named, read, identified, onRepository, within, created, Except.mapError, -bind_pure_comp]
  rfl

theorem createRoom_answered
    (authenticated : Authenticated handler request moment before principal)
    (admin : principal.session.role = .admin)
    (opens : OpensRoom handler request moment principal.session.subject before) :
    (serveHTTP handler request moment before).1.status = 201 := by
  obtain ⟨route, mode, vacant, body, pool, parsed, named, read, live, valid, fresh⟩ := opens
  have created := createNetwork_eq_ok.mpr ⟨live, valid, fresh, rfl⟩
  simp [serveHTTP, route, Route.program, createRoom, mode, answerWith, bind_apply, mapStop,
    requireAdmin_answered authenticated admin, stopWhen, ask, parsed, named, read, GoProgram.call,
    create, vacant, created, Except.mapError, -bind_pure_comp]
  rfl

theorem toOption_eq_some {Value : Type} {read : Except Error Value} {value : Value}
    (given : read.toOption = some value) : read = .ok value := by
  cases read with
  | error => cases given
  | ok => exact congrArg Except.ok (Option.some.inj given)

theorem removal_answered {node : Node} (removes : routeOf request ≠ .heartbeat)
    (authenticated : Authenticated handler request moment before principal)
    (named : namedNode request = some nodeID)
    (authorized : authorizeNode moment principal nodeID before = .ok ())
    (privileged : routeOf request = .deleteNode → principal.session.role = .admin)
    (present : before.repository.nodes[nodeID]? = some node)
    (reaches : Reaches handler request moment nodeID before) :
    serveHTTP handler request moment before = (noContent, before.setRepository
      ((affectedNetworks before.repository nodeID).foldl incrementNetworkVersionLocked
        (withoutNode before.repository nodeID node))) := by
  unfold Reaches at reaches
  unfold namedNode at named
  cases route : routeOf request <;> simp only [route] at removes named reaches privileged
  case heartbeat => exact absurd rfl removes
  case leaveNode =>
    obtain ⟨looked, live⟩ := reaches
    have known := getNode_eq_ok.mpr ⟨looked, present⟩
    have removal := removeNode_eq_ok.mpr ⟨live, node, present, rfl⟩
    unfold Authenticated at authenticated
    simp [serveHTTP, route, Route.program, leaveNode, answer, bind_apply, mapStop, authenticated,
      ask, toOption_eq_some named, authorized, readRepository, known, onRepository, within, removal,
      Except.mapError, -bind_pure_comp]
    rfl
  case deleteNode =>
    have admin := privileged trivial
    have removal := removeNode_eq_ok.mpr ⟨reaches, node, present, rfl⟩
    simp only [authorizeNode, admin] at authorized
    simp [serveHTTP, route, Route.program, deleteNode, answer, bind_apply, mapStop,
      requireAdmin_answered authenticated admin, ask, toOption_eq_some named, authorized,
      onRepository, within, removal, Except.mapError, -bind_pure_comp]
    rfl

/-- A request that reaches a member changes its networks or takes its record away. -/
theorem changed_of_reaches {existing : Membership} (sound : Integrity before.repository)
    (authenticated : Authenticated handler request moment before principal)
    (named : namedNode request = some nodeID)
    (authorized : authorizeNode moment principal nodeID before = .ok ())
    (privileged : routeOf request = .deleteNode → principal.session.role = .admin)
    (member : before.repository.membership? networkID nodeID = some existing)
    (reaches : Reaches handler request moment nodeID before) :
    let after := (serveHTTP handler request moment before).2.repository
    after.networks ≠ before.repository.networks ∨ after.nodes ≠ before.repository.nodes := by
  by_cases route : routeOf request = .heartbeat
  · have beaten := serveHTTP_beaten handler request moment before route
    have listed := mem_networksOfNode.mpr ⟨existing, member⟩
    simp only [Reaches, route] at reaches
    obtain ⟨_, _, _, reports⟩ := reaches
    generalize (serveHTTP handler request moment before).1 = response at beaten
    generalize (serveHTTP handler request moment before).2 = after at beaten ⊢
    refine Or.inl ?_
    cases beaten with
    | unreported refusal kept stopped => exact absurd reports (stopped _ _ _ _)
    | versionRefused again | touchRefused again =>
      obtain ⟨rfl, -⟩ := reports_unique reports again
      exact withEndpoints_networks_ne _ _ _ listed
    | done again accepted touched networks =>
      obtain ⟨rfl, -⟩ := reports_unique reports again
      rw [networks]
      exact withEndpoints_networks_ne _ _ _ listed
  · obtain ⟨node, present⟩ := sound.memberships.node _ _ _ member
    refine Or.inr fun unchanged => ?_
    rw [removal_answered route authenticated named authorized privileged present reaches,
      State.setRepository_repository, foldl_increment_eq] at unchanged
    rw [← unchanged] at present
    simp [withoutNode] at present

theorem turned_away_of_not_reaches (named : namedNode request = some nodeID)
    (stops : ¬Reaches handler request moment nodeID before) :
    Refusal (serveHTTP handler request moment before).1 ∧
      (serveHTTP handler request moment before).2.repository = before.repository := by
  have served := serveHTTP_served handler request moment before
  generalize (serveHTTP handler request moment before).1 = response at served
  generalize (serveHTTP handler request moment before).2 = after at served
  cases served with
  | refused refusal pruned => exact ⟨refusal, pruned.repository⟩
  | network other | room other | invite other | enrolled other | joined other
  | joinFailed other =>
    simp [namedNode, other] at named
  | viewed other =>
    rcases other with ⟨other, -⟩ | ⟨other, -⟩ <;> simp [namedNode, other] at named
  | heartbeat route again authenticated authorized present replacement partly answered reports =>
    cases Option.some.inj (named.symm.trans again)
    exact absurd (by simpa only [Reaches, route] using ⟨_, _, _, reports⟩) stops
  | removed removes again authenticated authorized present removal looked =>
    obtain ⟨live, -⟩ := removeNode_eq_ok.mp removal
    refine absurd ?_ stops
    rcases removes with leaves | deletes
    · simpa only [Reaches, leaves] using ⟨looked leaves, live⟩
    · simpa only [Reaches, deletes] using live

end Answers

theorem within_iff_of_nodeChange {before after : MemoryRepository} {reached : Prop}
    (wellFormed : WellFormed before) (present : ∃ node, before.nodes[nodeID]? = some node)
    (change : NodeChange nodeID before after)
    (owned : blank networkID = false → Owned before networkID nodeID)
    (outside : ∀ other existing, before.membership? other nodeID = some existing →
      other ≠ networkID → ¬Within networkID before after) (kept : ¬reached → after = before) :
    Within networkID before after ↔
      ¬(blank networkID = true ∧ ∃ other existing,
        before.membership? other nodeID = some existing ∧ reached) := by
  have sound := wellFormed.integrity
  cases scope : blank networkID with
  | false =>
    refine iff_of_true (within_of_nodeChange sound (owned scope) change) ?_
    rintro ⟨isBlank, -⟩
    cases isBlank
  | true =>
    by_cases member : ∃ other existing, before.membership? other nodeID = some existing
    · obtain ⟨other, existing, lookup⟩ := member
      -- the members of a network have its identifier, which is not blank
      have different : other ≠ networkID := by
        rintro rfl
        obtain ⟨network, stored⟩ := sound.memberNetwork (mem_networksOfNode.mpr ⟨_, lookup⟩)
        obtain ⟨named, -⟩ := EnrollmentOutcomes.validated_pool wellFormed.validated stored
        rw [sound.networks _ _ stored, scope] at named
        cases named
      have fails := outside other existing lookup different
      refine iff_of_false fails (not_not.mpr ⟨rfl, other, existing, lookup, ?_⟩)
      by_contra stopped
      exact fails (kept stopped ▸ Within.refl _ _)
    · have alone : Owned before networkID nodeID :=
        ⟨present, fun other existing lookup => absurd ⟨other, existing, lookup⟩ member⟩
      refine iff_of_true (within_of_nodeChange sound alone change) ?_
      rintro ⟨-, other, existing, lookup, -⟩
      exact member ⟨other, existing, lookup⟩

section Administrators

variable {handler : Handler} {request : Request} {moment : Moment} {before : State}
  {principal : Principal}

theorem escapes_iff_of_named (named : namedNode request = some nodeID) :
    Escapes handler request moment principal before ↔
      (blank principal.session.networkID = true ∧ ∃ networkID existing,
        before.repository.membership? networkID nodeID = some existing ∧
          Reaches handler request moment nodeID before) := by
  constructor
  · rintro (⟨route, -⟩ | ⟨unscoped, ⟨route, -⟩ | ⟨_, networkID, existing, again, escape⟩⟩)
    · simp [namedNode, route] at named
    · simp [namedNode, route] at named
    · cases Option.some.inj (named.symm.trans again)
      exact ⟨unscoped, networkID, existing, escape⟩
  · rintro ⟨unscoped, networkID, existing, escape⟩
    exact Or.inr ⟨unscoped, Or.inr ⟨nodeID, networkID, existing, named, escape⟩⟩

theorem not_escapes_of_refused (sound : Integrity before.repository)
    (authenticated : Authenticated handler request moment before principal)
    (admin : principal.session.role = .admin)
    (refusal : Refusal (serveHTTP handler request moment before).1)
    (kept : (serveHTTP handler request moment before).2.repository = before.repository) :
    ¬Escapes handler request moment principal before := by
  have success : (serveHTTP handler request moment before).1.status ≠ 201 := by
    have isError := refusal.status
    omega
  rintro (opens | ⟨unscoped, creates | ⟨nodeID, networkID, existing, named, member, reaches⟩⟩)
  · exact success (createRoom_answered authenticated admin opens)
  · exact success (createNetwork_answered authenticated admin unscoped creates)
  · rcases changed_of_reaches sound authenticated named (authorizeNode_unscoped admin unscoped)
      (fun _ => admin) member reaches with changed | changed
    · exact changed (by rw [kept])
    · exact changed (by rw [kept])

theorem within_iff_not_escapes (wellFormed : WellFormed before.repository)
    (authenticates : Route.authenticates (routeOf request) = true)
    (authenticated : Authenticated handler request moment before principal)
    (admin : principal.session.role = .admin) (scope : principal.session.networkID ≠ "") :
    Within principal.session.networkID before.repository
        (serveHTTP handler request moment before).2.repository ↔
      ¬Escapes handler request moment principal before := by
  have sound := wellFormed.integrity
  have served := serveHTTP_served handler request moment before
  have quiet := not_escapes_of_refused sound authenticated admin
  have kept : ∀ {nodeID}, namedNode request = some nodeID →
      ¬Reaches handler request moment nodeID before →
      (serveHTTP handler request moment before).2.repository = before.repository :=
    fun named stops => (turned_away_of_not_reaches named stops).2
  generalize serveHTTP handler request moment before = outcome at served quiet kept ⊢
  obtain ⟨response, after⟩ := outcome
  simp only at served quiet kept ⊢
  cases served with
  | refused refusal pruned =>
    refine iff_of_true ?_ (quiet refusal pruned.repository)
    rw [pruned.repository]
    exact Within.refl _ _
  | network route again isAdmin unscoped created creates =>
    obtain rfl := authenticated.unique again
    exact iff_of_false (not_within_createNetwork created)
      (not_not.mpr (Or.inr ⟨unscoped, Or.inl creates⟩))
  | room route again isAdmin vacant created opens =>
    obtain rfl := authenticated.unique again
    exact iff_of_false (not_within_createNetwork created) (not_not.mpr (Or.inl opens))
  | invite route again isAdmin named authorized known inside unconsumed created =>
    obtain rfl := authenticated.unique again
    obtain rfl := authorizeNetwork_admin isAdmin scope authorized
    have stored := (getNetwork_eq_ok.mp known).2
    have same := inside.trans (sound.networks _ _ stored)
    refine iff_of_true (within_createInvite same created) ?_
    simp [Escapes, OpensRoom, CreatesNetwork, route, namedNode]
  | enrolled route | joined route | joinFailed route =>
    rw [route] at authenticates
    cases authenticates
  | viewed route again isNode =>
    rw [authenticated.unique again, admin] at isNode
    cases isNode
  | heartbeat route named again authorized present replacement partly answered =>
    obtain rfl := authenticated.unique again
    rw [escapes_iff_of_named named]
    exact within_iff_of_nodeChange wellFormed present
      (refreshed_heartbeat sound replacement partly).nodeChange
      (fun nonblank => (authorizeNode_admin admin nonblank authorized).1)
      (fun outside existing member different =>
        not_within_heartbeat sound member different replacement partly)
      (kept named)
  | removed route named again authorized present removal =>
    obtain rfl := authenticated.unique again
    rw [escapes_iff_of_named named]
    exact within_iff_of_nodeChange wellFormed present (nodeChange_removeNode sound removal)
      (fun nonblank => (authorizeNode_admin admin nonblank authorized).1)
      (fun outside existing member different => not_within_removal different member removal)
      (kept named)

end Administrators

/-- A scoped administrator stays within its network exactly when the request is
no escape. -/
theorem scoped_administrator_confined_iff (maxAge : Duration) (actions : List Action)
    (sessions : SessionStore) (roomNetworkID : String) (limiter : RoomJoinLimiter)
    (handler : Handler) (request : Request) (moment : Moment) (principal : Principal)
    (authenticates : Route.authenticates (routeOf request) = true)
    (authenticated : Authenticated handler request moment
      ⟨reached maxAge actions, sessions, roomNetworkID, limiter⟩ principal)
    (admin : principal.session.role = .admin) (scope : principal.session.networkID ≠ "") :
    let before : State := ⟨reached maxAge actions, sessions, roomNetworkID, limiter⟩
    Within principal.session.networkID before.repository
        (serveHTTP handler request moment before).2.repository ↔
      ¬Escapes handler request moment principal before :=
  within_iff_not_escapes (wellFormed_reached maxAge actions) authenticates authenticated admin scope

def adminSession (networkID : String) : Session := ⟨"admin", .admin, networkID, minute⟩

theorem scoped_administrator_deletes_member :
    let before : State :=
      ⟨reached minute crowdedRun,
        storeWith "token" (adminSession "n"), "", newRoomJoinLimiter 0 0⟩
    let request := plainRequest .delete "/v1/nodes/a" "Bearer token"
    let served := serveHTTP (plainHandler true) request (plainMoment 2 "" 7) before
    served.1.status = 204 ∧ Within "n" before.repository served.2.repository := by
  intro before request served
  have confined := scoped_administrator_confined_iff minute crowdedRun
    (storeWith "token" (adminSession "n")) "" (newRoomJoinLimiter 0 0) (plainHandler true) request
    (plainMoment 2 "" 7) ⟨adminSession "n", false⟩ (by decide +kernel)
    (authenticated_of_session (by decide +kernel) (by decide +kernel) (by decide +kernel)
      Std.ExtTreeMap.getElem?_insert_self (by decide +kernel) (Or.inr (by decide +kernel)))
    rfl (by decide)
  have route : routeOf request = .deleteNode := by decide +kernel
  refine ⟨by decide +kernel, confined.mpr ?_⟩
  rintro (⟨opens, -⟩ | ⟨unscoped, -⟩)
  · cases route.symm.trans opens
  · exact absurd unscoped (by decide)

/-- With the scope `n` a room is created; with the scope of one space, a member
of `n` is deleted. -/
theorem scoped_administrator_escapes :
    let room := serveHTTP (plainHandler true)
      { plainRequest .post "/v1/room" "Bearer token" with
        roomBody := .ok ⟨"room", "10.1.0.0/24"⟩ }
      (plainMoment 2 "m" 7) (stateWith (adminSession "n"))
    let deletion := serveHTTP (plainHandler true)
      (plainRequest .delete "/v1/nodes/a" "Bearer token") (plainMoment 2 "" 7)
      (stateWith (adminSession " "))
    (room.1.status = 201 ∧ (stateWith (adminSession "n")).repository.networks["m"]? = none ∧
        room.2.repository.networks["m"]?.isSome = true) ∧
      (deletion.1.status = 204 ∧ deletion.2.repository.nodes["a"]? = none) := by
  decide +kernel

end Ipv6Mesh.HandlerScope
