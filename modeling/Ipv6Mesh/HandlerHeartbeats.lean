import Ipv6Mesh.HandlerConfinement

/-!
# Rejected heartbeats

A heartbeat writes to the repository up to three times, outside a transaction:
the endpoints of the node, its client version and the time it was last seen. A
refusal by the second or the third write leaves the writes before it in place.
-/

namespace Ipv6Mesh.HandlerHeartbeats

open GoText
open GoMap (insert_stored)
open GoFlow hiding bind_eq_ok
open GoProgram ControlModel DbMemory DbOperations AuthTokens ControlEnrollment ControlHandler
  HandlerEffects HandlerRuns HandlerConfinement

def withEndpoints (repository : MemoryRepository) (nodeID : String)
    (validated : List EndpointCandidate) : MemoryRepository :=
  (networksOfNode repository nodeID).foldl incrementNetworkVersionLocked
    { repository with
      endpoints := repository.endpoints.insert nodeID (sortEndpointCandidates validated) }

def Moves (repository : MemoryRepository) (nodeID : String)
    (validated : List EndpointCandidate) : Prop :=
  (∃ networkID membership, repository.membership? networkID nodeID = some membership) ∨
    repository.endpoints[nodeID]? ≠ some (sortEndpointCandidates validated)

theorem nextConfigVersion_ne (version : Int) : nextConfigVersion version ≠ version := by
  unfold nextConfigVersion wrapInt64
  split_ifs <;> omega

section FirstWrite

variable (repository : MemoryRepository) (nodeID : String) (validated : List EndpointCandidate)

theorem withEndpoints_nodes :
    (withEndpoints repository nodeID validated).nodes = repository.nodes := by
  unfold withEndpoints
  rw [foldl_increment_eq]

theorem withEndpoints_endpoints :
    (withEndpoints repository nodeID validated).endpoints =
      repository.endpoints.insert nodeID (sortEndpointCandidates validated) := by
  unfold withEndpoints
  rw [foldl_increment_eq]

theorem withEndpoints_networks_ne {networkID : String}
    (listed : networkID ∈ networksOfNode repository nodeID) :
    (withEndpoints repository nodeID validated).networks ≠ repository.networks := by
  intro same
  have moved := congrArg (·[networkID]?) same
  unfold withEndpoints at moved
  rw [foldl_increment_networks (networksOfNode_nodup _ _), if_pos listed,
    Std.ExtTreeMap.getD_eq_getD_getElem?] at moved
  cases stored : repository.networks[networkID]? with
  | none =>
    rw [stored] at moved
    cases moved
  | some network =>
    rw [stored, Option.getD_some, Option.some.injEq] at moved
    exact nextConfigVersion_ne _ (congrArg Network.configVersion moved)

theorem withEndpoints_of_not_moves (still : ¬Moves repository nodeID validated) :
    withEndpoints repository nodeID validated = repository := by
  unfold Moves at still
  push Not at still
  obtain ⟨outside, stored⟩ := still
  have unlisted : networksOfNode repository nodeID = [] := by
    refine List.eq_nil_iff_forall_not_mem.mpr fun networkID listed => ?_
    obtain ⟨membership, member⟩ := mem_networksOfNode.mp listed
    exact outside networkID membership member
  unfold withEndpoints
  rw [unlisted, List.foldl_nil, insert_stored stored]

theorem not_kept_of_moves (moves : Moves repository nodeID validated)
    (networks : (withEndpoints repository nodeID validated).networks = repository.networks)
    (endpoints : (withEndpoints repository nodeID validated).endpoints = repository.endpoints) :
    False := by
  rcases moves with ⟨networkID, membership, member⟩ | others
  · exact withEndpoints_networks_ne repository nodeID validated
      (mem_networksOfNode.mpr ⟨membership, member⟩) networks
  · refine others ?_
    rw [← endpoints, withEndpoints_endpoints]
    exact Std.ExtTreeMap.getElem?_insert_self

end FirstWrite

section Heartbeats

variable {handler : Handler} {request : Request} {moment : Moment} {before : State}
  {body : HeartbeatBody} {node : Node} {nodeID : String} {validated : List EndpointCandidate}

theorem reports_unique {nodeID otherID : String} {otherBody : HeartbeatBody} {other : Node}
    {validated others : List EndpointCandidate}
    (reports : Reports handler request moment before nodeID body node validated)
    (again : Reports handler request moment before otherID otherBody other others) :
    otherID = nodeID ∧ otherBody = body ∧ other = node ∧ others = validated := by
  cases Except.ok.inj (reports.named.symm.trans again.named)
  cases Except.ok.inj (reports.parsed.symm.trans again.parsed)
  cases Except.ok.inj (reports.known.symm.trans again.known)
  obtain ⟨endpoints, read, valid⟩ := reports.accepted
  obtain ⟨_, readAgain, validAgain⟩ := again.accepted
  cases Except.ok.inj (read.symm.trans readAgain)
  exact ⟨rfl, rfl, rfl, Except.ok.inj (validAgain.symm.trans valid)⟩

def RefusesVersion (moment : Moment) (clientVersion : Option String) : Prop :=
  ∃ version, clientVersion = some version ∧
    (moment.versionContext ≠ .live ∨ blank version = true)

def RefusesTouch (moment : Moment) : Prop :=
  moment.touchContext ≠ .live ∨ Time.isZero moment.now = true

def withVersion (nodes : GoMap Node) (nodeID : String) (node : Node) : Option String → GoMap Node
  | some version => nodes.insert nodeID { node with clientVersion := version }
  | none => nodes

inductive Beaten (handler : Handler) (request : Request) (moment : Moment) (before : State) :
    Response → State → Prop
  | unreported {response : Response} {after : State} (refusal : Refusal response)
      (same : after.repository = before.repository)
      (stopped : ∀ nodeID body node validated,
        ¬Reports handler request moment before nodeID body node validated) :
      Beaten handler request moment before response after
  | versionRefused {nodeID : String} {body : HeartbeatBody} {node : Node}
      {validated : List EndpointCandidate} {response : Response}
      (reports : Reports handler request moment before nodeID body node validated)
      (refused : RefusesVersion moment body.clientVersion) (refusal : Refusal response) :
      Beaten handler request moment before response
        (before.setRepository (withEndpoints before.repository nodeID validated))
  | touchRefused {nodeID : String} {body : HeartbeatBody} {node : Node}
      {validated : List EndpointCandidate} {response : Response}
      (reports : Reports handler request moment before nodeID body node validated)
      (accepted : ¬RefusesVersion moment body.clientVersion) (refused : RefusesTouch moment)
      (refusal : Refusal response) :
      Beaten handler request moment before response
        (before.setRepository { withEndpoints before.repository nodeID validated with
          nodes := withVersion before.repository.nodes nodeID node body.clientVersion })
  | done {nodeID : String} {body : HeartbeatBody} {node : Node}
      {validated : List EndpointCandidate} {after : State}
      (reports : Reports handler request moment before nodeID body node validated)
      (accepted : ¬RefusesVersion moment body.clientVersion) (touched : ¬RefusesTouch moment)
      (networks : after.repository.networks =
        (withEndpoints before.repository nodeID validated).networks) :
      Beaten handler request moment before noContent after

def Beats (handler : Handler) (request : Request) (moment : Moment) (before : State)
    (program : Program State Response Response) (state : State) : Prop :=
  wp program (Beaten handler request moment before) (Beaten handler request moment before) state

theorem touchNode_refused {err : Error} {repository after : MemoryRepository}
    (present : repository.nodes[nodeID]? = some node)
    (failed : touchNode moment.touchContext nodeID moment.now repository = (.error err, after)) :
    RefusesTouch moment := by
  by_contra accepted
  unfold RefusesTouch at accepted
  push Not at accepted
  have touched : touchNode moment.touchContext nodeID moment.now repository = (.ok (), _) :=
    touchNode_eq_ok.mpr ⟨accepted.1, Bool.eq_false_iff.mpr accepted.2, node, present, rfl⟩
  cases failed.symm.trans touched

theorem updateNodeClientVersion_refused {err : Error} {nodeID version : String}
    {repository after : MemoryRepository} (present : repository.nodes[nodeID]? = some node)
    (failed : updateNodeClientVersion moment.versionContext nodeID version repository =
      (.error err, after)) : RefusesVersion moment (some version) := by
  by_contra accepted
  unfold RefusesVersion at accepted
  push Not at accepted
  obtain ⟨live, written⟩ := accepted version rfl
  have updated : updateNodeClientVersion moment.versionContext nodeID version repository =
      (.ok (), _) :=
    updateNodeClientVersion_eq_ok.mpr ⟨live, Bool.eq_false_iff.mpr written, node, present, rfl⟩
  cases failed.symm.trans updated

theorem beats_touch {other : Node}
    (reports : Reports handler request moment before nodeID body node validated)
    (accepted : ¬RefusesVersion moment body.clientVersion)
    (present : (withVersion before.repository.nodes nodeID node body.clientVersion)[nodeID]? =
      some other) :
    Beats handler request moment before
      (do
        answer (onRepository (touchNode moment.touchContext nodeID moment.now))
        return noContent)
      (before.setRepository { withEndpoints before.repository nodeID validated with
        nodes := withVersion before.repository.nodes nodeID node body.clientVersion }) := by
  refine wp_mapStop_within_bind (fun err repository failed => ?_) fun _ repository touched => ?_
  · have refused := touchNode_refused present failed
    obtain rfl : repository = _ := guarded_error failed
    exact .touchRefused reports accepted refused (refusal_answer err)
  · obtain ⟨live, nonzero, _, -, rfl⟩ := touchNode_eq_ok.mp touched
    have untroubled : ¬RefusesTouch moment := by
      rintro (dead | zero)
      · exact dead live
      · rw [nonzero] at zero
        cases zero
    exact .done reports accepted untroubled rfl

theorem beats_writes
    (reports : Reports handler request moment before nodeID body node validated) :
    Beats handler request moment before
      (do
        answer (updateVersion moment nodeID body.clientVersion)
        answer (onRepository (touchNode moment.touchContext nodeID moment.now))
        return noContent)
      (before.setRepository (withEndpoints before.repository nodeID validated)) := by
  have present := (getNode_eq_ok.mp reports.known).2
  have kept := withEndpoints_nodes before.repository nodeID validated
  cases version : body.clientVersion with
  | none =>
    have accepted : ¬RefusesVersion moment body.clientVersion := by
      rintro ⟨text, given, -⟩
      rw [version] at given
      cases given
    have stored : (withVersion before.repository.nodes nodeID node body.clientVersion)[nodeID]? =
        some node := by
      rw [version]
      exact present
    have touch := beats_touch reports accepted stored
    rw [version, withVersion, ← kept] at touch
    exact touch
  | some text =>
    have found : (withEndpoints before.repository nodeID validated).nodes[nodeID]? =
        some node := by
      rw [kept]
      exact present
    refine wp_mapStop_within_bind (fun err repository failed => ?_)
      fun _ repository updated => ?_
    · have refused : RefusesVersion moment body.clientVersion := by
        rw [version]
        exact updateNodeClientVersion_refused found failed
      obtain rfl : repository = _ := guarded_error failed
      exact .versionRefused reports refused (refusal_answer err)
    · obtain ⟨live, written, _, again, rfl⟩ := updateNodeClientVersion_eq_ok.mp updated
      cases Option.some.inj (found.symm.trans again)
      have accepted : ¬RefusesVersion moment body.clientVersion := by
        rintro ⟨given, asked, dead | blankText⟩
        · exact dead live
        · cases Option.some.inj (version.symm.trans asked)
          rw [written] at blankText
          cases blankText
      have touch := beats_touch reports accepted
        (by rw [version]; exact Std.ExtTreeMap.getElem?_insert_self)
      rw [version, withVersion, ← kept] at touch
      exact touch

/-- A heartbeat that passes its checks runs as the writes after the first one. -/
theorem heartbeat_of_reports
    (reports : Reports handler request moment before nodeID body node validated) :
    heartbeat handler request moment before =
      (do
        answer (updateVersion moment nodeID body.clientVersion)
        answer (onRepository (touchNode moment.touchContext nodeID moment.now))
        return noContent : Program State Response Response)
        (before.setRepository (withEndpoints before.repository nodeID validated)) := by
  obtain ⟨principal, authenticated, authorized⟩ := reports.authorized
  obtain ⟨endpoints, read, valid⟩ := reports.accepted
  have stored := (getNode_eq_ok.mp reports.known).2
  have replacement : replaceEndpoints moment.writeContext nodeID endpoints before.repository =
      (.ok (), withEndpoints before.repository nodeID validated) :=
    replaceEndpoints_eq_ok.mpr ⟨reports.live, ⟨node, stored⟩, validated, valid, rfl⟩
  unfold Authenticated at authenticated
  simp [heartbeat, answer, answerWith, bind_apply, mapStop, authenticated, ask, reports.named,
    authorized, readRepository, reports.known, reports.parsed, read, onRepository, within,
    replacement, Except.mapError]

theorem serveHTTP_beaten (handler : Handler) (request : Request) (moment : Moment) (before : State)
    (route : routeOf request = .heartbeat) :
    Beaten handler request moment before
      (serveHTTP handler request moment before).1 (serveHTTP handler request moment before).2 := by
  by_cases reported : ∃ nodeID body node validated,
      Reports handler request moment before nodeID body node validated
  · obtain ⟨nodeID, body, node, validated, reports⟩ := reported
    have beats := beats_writes reports
    unfold Beats wp at beats
    rw [← heartbeat_of_reports reports] at beats
    unfold serveHTTP
    rw [route, Route.program]
    rcases outcome : heartbeat handler request moment before with ⟨response | response, after⟩ <;>
      rw [outcome] at beats <;> exact beats
  · have served := serveHTTP_served handler request moment before
    generalize (serveHTTP handler request moment before).1 = response at served ⊢
    generalize (serveHTTP handler request moment before).2 = after at served ⊢
    cases served with
    | refused refusal pruned =>
      exact .unreported refusal pruned.repository fun nodeID body node validated reports =>
        reported ⟨nodeID, body, node, validated, reports⟩
    | heartbeat _ _ _ _ _ _ _ _ reports => exact absurd ⟨_, _, _, _, reports⟩ reported
    | network other | room other | invite other | enrolled other | joined other
    | joinFailed other | viewed other | removed other => simp [route] at other

def Interrupted (handler : Handler) (request : Request) (moment : Moment) (before : State) :
    Prop :=
  ∃ nodeID body node validated,
    Reports handler request moment before nodeID body node validated ∧
      ((RefusesVersion moment body.clientVersion ∧ Moves before.repository nodeID validated) ∨
        (¬RefusesVersion moment body.clientVersion ∧ RefusesTouch moment ∧
          (Moves before.repository nodeID validated ∨
            ∃ version, body.clientVersion = some version ∧ version ≠ node.clientVersion)))

theorem interrupted_iff
    (reports : Reports handler request moment before nodeID body node validated) :
    Interrupted handler request moment before ↔
      ((RefusesVersion moment body.clientVersion ∧ Moves before.repository nodeID validated) ∨
        (¬RefusesVersion moment body.clientVersion ∧ RefusesTouch moment ∧
          (Moves before.repository nodeID validated ∨
            ∃ version, body.clientVersion = some version ∧ version ≠ node.clientVersion))) := by
  constructor
  · rintro ⟨_, _, _, _, again, stops⟩
    obtain ⟨rfl, rfl, rfl, rfl⟩ := reports_unique reports again
    exact stops
  · exact fun stops => ⟨nodeID, body, node, validated, reports, stops⟩

theorem written_eq_iff (validated : List EndpointCandidate)
    (clientVersion : Option String) {repository : MemoryRepository}
    (present : repository.nodes[nodeID]? = some node) :
    { withEndpoints repository nodeID validated with
        nodes := withVersion repository.nodes nodeID node clientVersion } = repository ↔
      ¬(Moves repository nodeID validated ∨
        ∃ version, clientVersion = some version ∧ version ≠ node.clientVersion) := by
  constructor
  · rintro same (moves | ⟨version, rfl, different⟩)
    · have networks := congrArg MemoryRepository.networks same
      have endpoints := congrArg MemoryRepository.endpoints same
      exact not_kept_of_moves repository nodeID validated moves networks endpoints
    · have nodes : withVersion repository.nodes nodeID node (some version) = repository.nodes :=
        congrArg MemoryRepository.nodes same
      rw [← nodes, withVersion, Std.ExtTreeMap.getElem?_insert_self, Option.some.injEq] at present
      exact different (congrArg Node.clientVersion present)
  · intro still
    push Not at still
    obtain ⟨unmoved, sameVersion⟩ := still
    have nodes : withVersion repository.nodes nodeID node clientVersion = repository.nodes := by
      cases clientVersion with
      | none => rfl
      | some version =>
        rw [withVersion, sameVersion version rfl]
        exact insert_stored present
    rw [withEndpoints_of_not_moves repository nodeID validated unmoved, nodes]

theorem withEndpoints_eq_iff
    {repository : MemoryRepository} :
    withEndpoints repository nodeID validated = repository ↔
      ¬Moves repository nodeID validated := by
  constructor
  · intro same moves
    exact not_kept_of_moves repository nodeID validated moves (by rw [same]) (by rw [same])
  · exact withEndpoints_of_not_moves repository nodeID validated

theorem status_ne_of_refusal {response : Response} (refusal : Refusal response) :
    response.status ≠ 204 := by
  have isError := refusal.status
  omega

end Heartbeats

/-- A heartbeat that is not answered 204 leaves the repository as it was, unless it
stopped between its writes. -/
theorem rejected_heartbeat_keeps_repository_iff (handler : Handler) (request : Request)
    (moment : Moment) (before : State) (route : routeOf request = .heartbeat) :
    ((serveHTTP handler request moment before).1.status ≠ 204 →
        (serveHTTP handler request moment before).2.repository = before.repository) ↔
      ¬Interrupted handler request moment before := by
  have beaten := serveHTTP_beaten handler request moment before route
  generalize (serveHTTP handler request moment before).1 = response at beaten ⊢
  generalize (serveHTTP handler request moment before).2 = after at beaten ⊢
  cases beaten with
  | unreported refusal same stopped =>
      refine iff_of_true (fun _ => same) ?_
      rintro ⟨nodeID, body, node, validated, reports, -⟩
      exact stopped nodeID body node validated reports
  | versionRefused reports refused refusal =>
      rw [interrupted_iff reports, State.setRepository_repository, withEndpoints_eq_iff]
      simp [status_ne_of_refusal refusal, refused]
  | touchRefused reports accepted refused refusal =>
      rw [interrupted_iff reports, State.setRepository_repository,
        written_eq_iff _ _ (getNode_eq_ok.mp reports.known).2]
      simp [status_ne_of_refusal refusal, refused, accepted]
  | done reports accepted touched =>
      refine iff_of_true (fun rejected => absurd rfl rejected) ?_
      rw [interrupted_iff reports]
      rintro (⟨refused, -⟩ | ⟨-, refused, -⟩)
      · exact accepted refused
      · exact touched refused

def heartbeatOf (endpoints : List HeartbeatEndpoint) (clientVersion : Option String) : Request :=
  { plainRequest .post "/v1/nodes/a/heartbeat" "Bearer token" with
    heartbeatBody := .ok ⟨endpoints, clientVersion⟩ }

theorem heartbeat_without_port_keeps_repository :
    let before := stateWith (nodeSession "a" "n")
    let request := heartbeatOf [⟨"2001:db8::1", 4000, .ipv6, "eth0", 0, "now"⟩,
      ⟨"2001:db8::2", 0, .ipv6, "eth0", 1, "now"⟩] (some "2")
    let served := serveHTTP (plainHandler false) request (plainMoment 2 "" 7) before
    served.1.status = 422 ∧ served.2.repository = before.repository := by
  intro before request served
  have status : served.1.status = 422 := by decide +kernel
  have named : resourceID request.path "nodes" "heartbeat" = .ok "a" := by decide +kernel
  have unread : ([⟨"2001:db8::1", 4000, .ipv6, "eth0", 0, "now"⟩,
      ⟨"2001:db8::2", 0, .ipv6, "eth0", 1, "now"⟩].mapM
      (parseHeartbeatEndpoint (plainHandler false) "a")).isOk = false := by decide +kernel
  refine ⟨status, (rejected_heartbeat_keeps_repository_iff _ _ _ _ (by decide +kernel)).mpr ?_
    (ne_of_eq_of_ne status (by decide))⟩
  rintro ⟨nodeID, body, node, validated, reports, -⟩
  cases Except.ok.inj (named.symm.trans reports.named)
  obtain ⟨endpoints, read, -⟩ := reports.accepted
  rw [← Except.ok.inj reports.parsed] at read
  rw [read] at unread
  cases unread

/-- A version of no characters is refused after the endpoints are stored and the
version of the network has moved. -/
theorem blank_version_heartbeat_stores_endpoints :
    let before := stateWith (nodeSession "a" "n")
    let request := heartbeatOf [⟨"2001:db8::1", 4000, .ipv6, "eth0", 0, "now"⟩] (some "")
    let served := serveHTTP (plainHandler false) request (plainMoment 2 "" 7) before
    served.1.status = 422 ∧
      (before.repository.endpoints["a"]? = none ∧
        (served.2.repository.endpoints.getD "a" []).length = 1) ∧
      before.repository.networks["n"]?.map (·.configVersion) = some 2 ∧
      served.2.repository.networks["n"]?.map (·.configVersion) = some 3 := by
  decide +kernel

end Ipv6Mesh.HandlerHeartbeats
