import Ipv6Mesh.HandlerRuns
import Ipv6Mesh.DbInviteRecords

/-!
# The invite of a failed room join

A room join stores an invite of its own and enrolls through it. When the
enrollment fails the invite is revoked by a further call under the request's
context, with an identifier read back from the text of the token.
-/

namespace Ipv6Mesh.HandlerRoomJoins

open GoText
open GoMap (getElem?_insert)
open GoFlow hiding bind_eq_ok
open GoProgram ControlModel DbMemory DbOperations DbInviteRecords AuthTokens ControlRoom
  ControlEnrollment EnrollmentLaw ControlHandler HandlerEffects HandlerRuns

/-- Some consumption of the stored invite, by its token and at some time, succeeds. -/
def Consumable (repository : MemoryRepository) (inviteID : String) : Prop :=
  ∃ invite wall consumedAt consumed after, repository.invites[inviteID]? = some invite ∧
    consumeInvite .live wall inviteID invite.tokenHash consumedAt repository = (.ok consumed, after)

variable {inviteID : String}

theorem consumable_iff {repository : MemoryRepository} :
    Consumable repository inviteID ↔
      ∃ invite, repository.invites[inviteID]? = some invite ∧ invite.consumedAt = none ∧
        invite.revokedAt = none ∧ invite.createdAt < invite.expiresAt := by
  have lookup : ∀ {invite : Invite}, repository.invites[inviteID]? = some invite →
      inviteByLookupLocked repository inviteID invite.tokenHash = some inviteID := by
    intro invite stored
    unfold inviteByLookupLocked
    rw [stored]
    simp
  have read : ∀ {invite : Invite}, repository.invites[inviteID]? = some invite →
      repository.invites.getD inviteID zeroInvite = invite := by
    intro invite stored
    rw [Std.ExtTreeMap.getD_eq_getD_getElem?, stored, Option.getD_some]
  constructor
  · rintro ⟨invite, wall, consumedAt, consumed, after, stored, consumption⟩
    obtain ⟨-, -, found, _, located, rfl, unconsumed, unrevoked, unexpired, started, -⟩ :=
      consumeInviteForNode_eq_ok.mp consumption
    cases Option.some.inj ((lookup stored).symm.trans located)
    rw [read stored] at unconsumed unrevoked unexpired started
    have later := of_decide_eq_false unexpired
    exact ⟨invite, stored, unconsumed, unrevoked, lt_of_le_of_lt started (Int.not_le.mp later)⟩
  · rintro ⟨invite, stored, unconsumed, unrevoked, window⟩
    have time : consumptionTime invite.createdAt invite.createdAt = invite.createdAt := by
      unfold consumptionTime
      split_ifs <;> rfl
    have unexpired : invite.isExpired invite.createdAt = false :=
      decide_eq_false (Int.not_le.mpr window)
    refine ⟨invite, invite.createdAt, invite.createdAt, _, _, stored,
      consumeInviteForNode_eq_ok.mpr ⟨rfl, rfl, inviteID, invite, lookup stored,
        (read stored).symm, unconsumed, unrevoked, ?_, ?_, rfl, rfl⟩⟩
    · rw [time]
      exact unexpired
    · rw [time]

theorem consumable_of_same {left right : MemoryRepository}
    (same : left.invites[inviteID]? = right.invites[inviteID]?)
    (consumable : Consumable left inviteID) : Consumable right inviteID := by
  rw [consumable_iff] at consumable ⊢
  rwa [← same]

section Joins

variable {handler : Handler} {request : Request} {moment : Moment} {before : State}

structure Stores (handler : Handler) (request : Request) (moment : Moment) (before : State)
    (body : JoinBody) (secret : Secret) (limiter : RoomJoinLimiter) (stored : MemoryRepository) :
    Prop where
  roomMode : handler.roomMode = true
  active : activeRoom before = .ok before.roomNetworkID
  admitted : allowJoin request moment before = (.ok (), { before with limiter := limiter })
  parsed : request.joinBody = .ok body
  drawn : moment.secret = .ok secret
  created : DbMemory.createInvite moment.writeContext
    (newInvite moment before.roomNetworkID secret handler.inviteTTL) before.repository =
      (.ok (), stored)

theorem Stores.unique {body otherBody : JoinBody} {secret other : Secret}
    {limiter otherLimiter : RoomJoinLimiter} {stored otherStored : MemoryRepository}
    (stores : Stores handler request moment before body secret limiter stored)
    (again : Stores handler request moment before otherBody other otherLimiter otherStored) :
    otherBody = body ∧ other = secret ∧ otherLimiter = limiter ∧ otherStored = stored := by
  cases Except.ok.inj (stores.parsed.symm.trans again.parsed)
  cases Except.ok.inj (stores.drawn.symm.trans again.drawn)
  have admitted := (Prod.ext_iff.mp (again.admitted.symm.trans stores.admitted)).2
  have created := (Prod.ext_iff.mp (again.created.symm.trans stores.created)).2
  exact ⟨rfl, rfl, congrArg State.limiter admitted, created⟩

def compensatedID (moment : Moment) (secret : Secret) : String :=
  String.ofList ((inviteTokenFor moment.newID secret).toList.takeWhile (· ≠ '.'))

def enrollment (moment : Moment) (before : State) (body : JoinBody) (secret : Secret)
    (limiter : RoomJoinLimiter) (stored : MemoryRepository) : Option (EnrollmentResult × State) :=
  transact moment.enrollment (joinRequest (inviteTokenFor moment.newID secret) body)
    { before with limiter := limiter, repository := stored }

inductive Joined (handler : Handler) (request : Request) (moment : Moment) (before : State) :
    Response → State → Prop
  | unstored {response : Response} {after : State} (refusal : Refusal response)
      (same : after.repository = before.repository)
      (stopped : ∀ body secret limiter stored,
        ¬Stores handler request moment before body secret limiter stored) :
      Joined handler request moment before response after
  | enrolled {body : JoinBody} {secret : Secret} {limiter : RoomJoinLimiter}
      {stored : MemoryRepository} {result : EnrollmentResult} {after : State}
      (stores : Stores handler request moment before body secret limiter stored)
      (succeeded : enrollment moment before body secret limiter stored = some (result, after)) :
      Joined handler request moment before ⟨201, .enrollment result⟩ after
  | failed {body : JoinBody} {secret : Secret} {limiter : RoomJoinLimiter}
      {stored : MemoryRepository} {response : Response} {after : State}
      (stores : Stores handler request moment before body secret limiter stored)
      (refused : enrollment moment before body secret limiter stored = none)
      (refusal : Refusal response)
      (left : after.repository =
        (revokeInvite moment.revokeContext (compensatedID moment secret) moment.revokedAt
          stored).2) :
      Joined handler request moment before response after

def Joins (handler : Handler) (request : Request) (moment : Moment) (before : State)
    (program : Program State Response Response) (state : State) : Prop :=
  wp program (Joined handler request moment before) (Joined handler request moment before) state

theorem joined_of_stores {body : JoinBody} {secret : Secret} {limiter : RoomJoinLimiter}
    {stored : MemoryRepository}
    (stores : Stores handler request moment before body secret limiter stored) :
    let state : State := { before with limiter := limiter, repository := stored }
    let inviteToken := inviteTokenFor moment.newID secret
    let returned := enrollControl handler.recoveryAttempts .done moment.enrollment
      (joinRequest inviteToken body) state
    let compensated := compensate moment inviteToken returned.1 returned.2
    Joined handler request moment before (joinResponse compensated.1) compensated.2 := by
  intro state inviteToken
  rcases enrollControl_cases handler.recoveryAttempts .done moment.enrollment
    (joinRequest inviteToken body) state with ⟨refused, err, failed⟩ |
      ⟨result, after, transaction, finished⟩
  · rw [failed]
    simp only [compensate]
    rcases revocation : revokeInvite moment.revokeContext
      (String.ofList (inviteToken.toList.takeWhile (· ≠ '.'))) moment.revokedAt state.repository
      with ⟨revokeErr | _, revoked⟩
    · exact .failed stores refused (refusal_joinResponse _) (congrArg Prod.snd revocation).symm
    · exact .failed stores refused (refusal_joinResponse _) (congrArg Prod.snd revocation).symm
  · rw [finished]
    exact .enrolled stores transaction

theorem joins_joinRoom :
    Joins handler request moment before (joinRoom handler request moment) before := by
  refine wp_stopWhen_bind (fun closed => ?_) fun roomMode => ?_
  · refine .unstored (refusal_errorCode (by decide) _) rfl fun _ _ _ _ stores => ?_
    simp [stores.roomMode] at closed
  refine wp_ask_bind (fun response closed => ?_) fun roomID active => ?_
  · refine .unstored (activeRoom_error closed) rfl fun _ _ _ _ stores => ?_
    cases closed.symm.trans stores.active
  obtain rfl := activeRoom_ok active
  refine wp_call_bind (fun response after limited => ?_) fun _ state admitted => ?_
  · obtain ⟨refusal, pruned⟩ := allowJoin_error limited
    refine .unstored refusal pruned.repository fun _ _ _ _ stores => ?_
    cases limited.symm.trans stores.admitted
  obtain ⟨limiter, rfl⟩ := allowJoin_ok admitted
  refine wp_mapStop_ask_bind (fun err failed => ?_) fun body parsed => ?_
  · refine .unstored (refusal_joinBodyRefusal err) rfl fun _ _ _ _ stores => ?_
    cases failed.symm.trans stores.parsed
  refine wp_ask_bind (fun response closed => ?_) fun roomID again => ?_
  · cases closed.symm.trans active
  obtain rfl := activeRoom_ok again
  rw [wp_bind, answer, wp_mapStop, newInternalRoomInvite]
  refine wp_ask_bind (fun err failed => ?_) fun secret drawn => ?_
  · refine .unstored (refusal_answer err) rfl fun _ _ _ _ stores => ?_
    cases failed.symm.trans stores.drawn
  rw [wp_bind, onRepository, wp_within]
  rcases created : DbMemory.createInvite moment.writeContext
    (newInvite moment before.roomNetworkID secret handler.inviteTTL) before.repository with
    ⟨err | _, repository⟩
  · obtain rfl : repository = before.repository := guarded_error created
    refine .unstored (refusal_answer err) rfl fun _ _ _ _ stores => ?_
    cases Except.ok.inj (drawn.symm.trans stores.drawn)
    cases created.symm.trans stores.created
  · exact joined_of_stores ⟨by simpa using roomMode, active, admitted, parsed, drawn, created⟩

theorem compensatedID_of_dotFree (secret : Secret) (dotFree : '.' ∉ moment.newID.toList) :
    compensatedID moment secret = moment.newID := by
  unfold compensatedID inviteTokenFor
  rw [String.toList_append, String.toList_append, List.append_assoc, List.takeWhile_append,
    GoNet.takeWhile_ne dotFree, if_pos rfl]
  simp

theorem compensatedID_of_dotted (secret : Secret) (dotted : '.' ∈ moment.newID.toList) :
    compensatedID moment secret ≠ moment.newID := by
  intro same
  rw [← same, compensatedID, String.toList_ofList] at dotted
  simpa using List.mem_takeWhile_imp dotted

theorem revokeInvite_other {ctx : Context} {other : String} {revokedAt : Time}
    {repository : MemoryRepository} (different : inviteID ≠ other) :
    (revokeInvite ctx inviteID revokedAt repository).2.invites[other]? =
      repository.invites[other]? := by
  rcases outcome : revokeInvite ctx inviteID revokedAt repository with ⟨err | _, after⟩
  · rw [guarded_error outcome]
  · obtain ⟨-, -, invite, -, -, rfl⟩ := revokeInvite_eq_ok.mp outcome
    split_ifs
    · rfl
    · rw [getElem?_insert, if_neg different]

theorem revokeInvite_unready {ctx : Context} {revokedAt : Time} (inviteID : String)
    (repository : MemoryRepository) (unready : ctx ≠ .live ∨ Time.isZero revokedAt = true) :
    (revokeInvite ctx inviteID revokedAt repository).2 = repository := by
  rcases outcome : revokeInvite ctx inviteID revokedAt repository with ⟨err | _, after⟩
  · exact guarded_error outcome
  · obtain ⟨live, named, -⟩ := revokeInvite_eq_ok.mp outcome
    rcases unready with dead | zero
    · exact absurd live dead
    · rw [zero, Bool.or_true] at named
      cases named

section Stored

variable {body : JoinBody} {secret : Secret} {limiter : RoomJoinLimiter}
  {stored : MemoryRepository}

theorem Stores.invites (stores : Stores handler request moment before body secret limiter stored)
    (inviteID : String) :
    stored.invites[inviteID]? =
      if moment.newID = inviteID then
        some (newInvite moment before.roomNetworkID secret handler.inviteTTL)
      else before.repository.invites[inviteID]? := by
  obtain ⟨-, -, -, -, -, -, rfl⟩ := createInvite_eq_ok.mp stores.created
  exact getElem?_insert _ _ _ _

theorem Stores.absent (stores : Stores handler request moment before body secret limiter stored) :
    ¬Consumable before.repository moment.newID := by
  rintro ⟨invite, _, _, _, _, present, -⟩
  obtain ⟨-, -, -, -, fresh, -⟩ := createInvite_eq_ok.mp stores.created
  cases fresh.symm.trans present

theorem Stores.consumable
    (stores : Stores handler request moment before body secret limiter stored) :
    Consumable stored moment.newID := by
  obtain ⟨-, valid, -⟩ := createInvite_eq_ok.mp stores.created
  obtain ⟨-, -, -, -, ⟨-, window⟩, -⟩ := validateInvite_iff.mp valid
  refine consumable_iff.mpr ⟨_, ?_, rfl, rfl, window⟩
  rw [stores.invites, if_pos rfl]

theorem Stores.revoked (stores : Stores handler request moment before body secret limiter stored)
    (live : moment.revokeContext = .live) (nonzero : Time.isZero moment.revokedAt = false)
    (dotFree : '.' ∉ moment.newID.toList)
    (consumable : Consumable (revokeInvite moment.revokeContext (compensatedID moment secret)
      moment.revokedAt stored).2 inviteID) :
    Consumable before.repository inviteID := by
  rw [compensatedID_of_dotFree secret dotFree] at consumable
  have present := stores.invites moment.newID
  rw [if_pos rfl] at present
  by_cases same : moment.newID = inviteID
  · subst same
    obtain ⟨-, valid, -⟩ := createInvite_eq_ok.mp stores.created
    have named : moment.newID ≠ "" := by
      intro empty
      have nonblank := (validateInvite_iff.mp valid).1
      rw [show (newInvite moment before.roomNetworkID secret handler.inviteTTL).id = moment.newID
        from rfl, empty] at nonblank
      cases nonblank
    have revocation : revokeInvite moment.revokeContext moment.newID moment.revokedAt stored =
        (.ok (), _) :=
      revokeInvite_eq_ok.mpr ⟨live, by simp [named, nonzero], _, present, rfl, rfl⟩
    rw [revocation, consumable_iff] at consumable
    obtain ⟨invite, found, -, unrevoked, -⟩ := consumable
    simp only [newInvite, Option.isSome_none, Bool.false_eq_true, if_false,
      Std.ExtTreeMap.getElem?_insert_self, Option.some.injEq] at found
    subst found
    cases unrevoked
  · refine consumable_of_same ?_ consumable
    rw [revokeInvite_other same, stores.invites, if_neg same]

theorem Stores.unrevoked
    (stores : Stores handler request moment before body secret limiter stored)
    (missed : moment.revokeContext ≠ .live ∨ Time.isZero moment.revokedAt = true ∨
      '.' ∈ moment.newID.toList) :
    Consumable (revokeInvite moment.revokeContext (compensatedID moment secret)
      moment.revokedAt stored).2 moment.newID := by
  rw [← or_assoc] at missed
  refine consumable_of_same ?_ stores.consumable
  rcases missed with unready | dotted
  · rw [revokeInvite_unready _ _ unready]
  · rw [revokeInvite_other (compensatedID_of_dotted secret dotted)]

end Stored

/-- The join stores its invite, fails to enroll, and its revocation misses the invite. -/
def Abandoned (handler : Handler) (request : Request) (moment : Moment) (before : State) : Prop :=
  ∃ body secret limiter stored,
    Stores handler request moment before body secret limiter stored ∧
      enrollment moment before body secret limiter stored = none ∧
      (moment.revokeContext ≠ .live ∨ Time.isZero moment.revokedAt = true ∨
        '.' ∈ moment.newID.toList)

end Joins

def issuesSession : Body → Bool
  | .enrollment _ => true
  | .recoveryPending _ => true
  | _ => false

theorem issuesSession_of_refusal {response : Response} (refusal : Refusal response) :
    issuesSession response.body = false := by
  rcases refusal.body with empty | ⟨code, coded⟩
  · rw [empty]
    rfl
  · rw [coded]
    rfl

/-- A join that is answered without a session leaves no invite consumable that
was not so before, unless its invite is abandoned. -/
theorem failed_join_leaves_no_consumable_invite_iff (handler : Handler) (request : Request)
    (moment : Moment) (before : State) (route : routeOf request = .joinRoom) :
    (issuesSession (serveHTTP handler request moment before).1.body = false →
        ∀ inviteID, Consumable (serveHTTP handler request moment before).2.repository inviteID →
          Consumable before.repository inviteID) ↔
      ¬Abandoned handler request moment before := by
  have joined : Joined handler request moment before
      (serveHTTP handler request moment before).1 (serveHTTP handler request moment before).2 := by
    have joins : Joins handler request moment before (joinRoom handler request moment) before :=
      joins_joinRoom
    unfold serveHTTP
    rw [route, Route.program]
    unfold Joins wp at joins
    rcases outcome : joinRoom handler request moment before with ⟨response | response, after⟩ <;>
      rw [outcome] at joins <;> exact joins
  generalize (serveHTTP handler request moment before).1 = response at joined ⊢
  generalize (serveHTTP handler request moment before).2 = after at joined ⊢
  cases joined with
  | unstored refusal same stopped =>
      refine iff_of_true (fun _ inviteID consumable => same ▸ consumable) ?_
      rintro ⟨body, secret, limiter, stored, stores, -⟩
      exact stopped body secret limiter stored stores
  | enrolled stores succeeded =>
      refine iff_of_true (fun sessionless => by cases sessionless) ?_
      rintro ⟨_, _, _, _, again, refused, -⟩
      obtain ⟨rfl, rfl, rfl, rfl⟩ := stores.unique again
      cases succeeded.symm.trans refused
  | failed stores refused refusal left =>
      rw [left]
      constructor
      · rintro kept ⟨_, _, _, _, again, -, missed⟩
        obtain ⟨rfl, rfl, rfl, rfl⟩ := stores.unique again
        exact stores.absent (kept (issuesSession_of_refusal refusal) _ (stores.unrevoked missed))
      · intro reached _ inviteID consumable
        have hit : ¬(moment.revokeContext ≠ .live ∨ Time.isZero moment.revokedAt = true ∨
            '.' ∈ moment.newID.toList) := fun missed =>
          reached ⟨_, _, _, _, stores, refused, missed⟩
        push Not at hit
        exact stores.revoked hit.1 (Bool.eq_false_iff.mpr hit.2.1) hit.2.2 consumable

def roomState : State :=
  run (Step.apply (plainHandler true))
    [.serve { plainRequest .post "/v1/room" "Bearer bootstrap-token" with
        roomBody := .ok ⟨"room", "10.0.0.0/24"⟩ } (plainMoment 1 "n" 7)]
    ⟨newMemoryRepositoryWithEndpointMaxAge minute, newSessionStore minute, "",
      newRoomJoinLimiter 0 0⟩

def joinOf (publicKey : String) : Request :=
  { plainRequest .post "/v1/room/join" "" with joinBody := .ok ⟨publicKey, "node", "linux", "1"⟩ }

theorem keyless_join_leaves_no_consumable_invite_iff :
    let served := serveHTTP (plainHandler true) (joinOf "") (plainMoment 2 "i" 7) roomState
    (issuesSession served.1.body = false →
        ∀ inviteID, Consumable served.2.repository inviteID →
          Consumable roomState.repository inviteID) ↔
      ¬Abandoned (plainHandler true) (joinOf "") (plainMoment 2 "i" 7) roomState :=
  failed_join_leaves_no_consumable_invite_iff _ _ _ _ (by decide +kernel)

/-- The client of a join without a public key is gone when the invite is revoked. -/
theorem cancelled_join_leaves_consumable_invite :
    let moment := { plainMoment 2 "i" 7 with revokeContext := .done (.external "context canceled") }
    let served := serveHTTP (plainHandler true) (joinOf "") moment roomState
    let tokenHash := ((served.2.repository.invites["i"]?).map (·.tokenHash)).getD ""
    (served.1.status = 422 ∧ issuesSession served.1.body = false) ∧
      roomState.repository.invites["i"]?.isNone = true ∧
      (consumeInvite .live 3 "i" tokenHash 3 served.2.repository).1.toBool = true := by
  decide +kernel

end Ipv6Mesh.HandlerRoomJoins
