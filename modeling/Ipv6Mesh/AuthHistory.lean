import Ipv6Mesh.AuthTokens
import Ipv6Mesh.DbOperations

/-!
# The session store and its history

A run of the session store is recorded as the list of its successful issues and
authentications and of its revocations, oldest first. `Tracks` relates the
store to that record: a stored session is the standing issue of its token, and
a standing issue that is no longer stored had expired when it was last
presented.
-/

namespace Ipv6Mesh.AuthHistory

open GoText GoMap GoFlow GoBase64 ControlModel
open DbOperations (refuseWhen_ok)
open AuthTokens

theorem encodeRawURL_ne_empty (secret : Secret) : encodeRawURL secret.val ≠ "" := by
  obtain ⟨bytes, sized⟩ := secret
  cases bytes with
  | nil => simp at sized
  | cons first rest =>
    intro empty
    have characters : encodeQuanta (first :: rest) = [] := by
      simpa [encodeRawURL] using congrArg String.toList empty
    rcases rest with _ | ⟨second, _ | ⟨third, others⟩⟩ <;> simp [encodeQuanta] at characters

variable {session : Session} {store : SessionStore} {token : String}

theorem issueToken_eq_ok {granted : Session} {reads : List (Except Error Secret)}
    {after : SessionStore}
    (issued : issueToken session reads store = (.ok (token, granted), after)) :
    granted = session ∧ token ≠ "" ∧ store.sessions[token]? = none ∧
      after = { store with sessions := store.sessions.insert token session } := by
  induction reads with
  | nil => simp [issueToken] at issued
  | cons read reads ih =>
    cases read with
    | error err => simp [issueToken] at issued
    | ok secret =>
      simp only [issueToken] at issued
      split_ifs at issued with used
      · exact ih issued
      · simp only [Prod.mk.injEq, Except.ok.injEq] at issued
        obtain ⟨⟨rfl, rfl⟩, rfl⟩ := issued
        refine ⟨rfl, encodeRawURL_ne_empty secret, ?_, rfl⟩
        rw [Std.ExtTreeMap.contains_eq_isSome_getElem?, Bool.not_eq_true,
          Option.isSome_eq_false_iff, Option.isNone_iff_eq_none] at used
        exact used

theorem issueToken_error {reads : List (Except Error Secret)} {after : SessionStore} {err : Error}
    (failed : issueToken session reads store = (.error err, after)) : after = store := by
  induction reads with
  | nil => exact (Prod.ext_iff.mp failed).2.symm
  | cons read reads ih =>
    cases read with
    | error other => exact (Prod.ext_iff.mp failed).2.symm
    | ok secret =>
      simp only [issueToken] at failed
      split_ifs at failed with used
      · exact ih failed
      · simp at failed

section Issue

variable {now : Time} {random : SecretReads} {subject networkID : String} {role : Role}
  {store after : SessionStore}

theorem issueSession_eq_ok (issued : issueSession now random subject role networkID store =
      (.ok (token, session), after)) :
    session = ⟨subject, role, networkID, now + store.ttl⟩ ∧ (role = .admin ∨ role = .node) ∧
      (networkID ≠ "" → isNetworkRevoked networkID store = false) ∧
      token ≠ "" ∧ store.sessions[token]? = none ∧
      after = { store with sessions := store.sessions.insert token session } := by
  unfold issueSession at issued
  split_ifs at issued with expired unknown blankNetwork revoked
  · simp at issued
  · simp at issued
  · simp at issued
  · simp at issued
  · obtain ⟨rfl, present, free, rfl⟩ := issueToken_eq_ok issued
    refine ⟨rfl, ?_, ?_, present, free, rfl⟩
    · by_cases admin : role = .admin
      · exact Or.inl admin
      · exact Or.inr (not_not.mp fun other => unknown ⟨admin, other⟩)
    · intro limited
      exact Bool.eq_false_iff.mpr fun isRevoked => revoked ⟨limited, isRevoked⟩

theorem issueSession_error {err : Error}
    (failed : issueSession now random subject role networkID store = (.error err, after)) :
    after = store := by
  unfold issueSession at failed
  split_ifs at failed
  · exact (Prod.ext_iff.mp failed).2.symm
  · exact (Prod.ext_iff.mp failed).2.symm
  · exact (Prod.ext_iff.mp failed).2.symm
  · exact (Prod.ext_iff.mp failed).2.symm
  · exact issueToken_error failed

end Issue

section Use

variable {now : Time} {token networkID : String} {session : Session}
  {store after : SessionStore}

theorem authenticate_eq_ok :
    authenticate now token store = (.ok session, after) ↔
      after = store ∧ token ≠ "" ∧ store.sessions[token]? = some session ∧
        now < session.expiresAt ∧
        (session.networkID = "" ∨ isNetworkRevoked session.networkID store = false) := by
  unfold authenticate
  by_cases empty : token = ""
  · simp [empty]
  · rw [if_neg empty]
    cases stored : store.sessions[token]? with
    | none => simp
    | some held =>
      simp only
      split_ifs with expired revoked
      · simp only [Prod.mk.injEq, reduceCtorEq, false_and, false_iff, Option.some.injEq]
        rintro ⟨-, -, rfl, live, -⟩
        exact absurd live (Int.not_lt.mpr expired)
      · simp only [Prod.mk.injEq, reduceCtorEq, false_and, false_iff, Option.some.injEq]
        rintro ⟨-, -, rfl, -, scopeless | open'⟩
        · exact revoked.1 scopeless
        · simp [open'] at revoked
      · simp only [Prod.mk.injEq, Except.ok.injEq, Option.some.injEq]
        constructor
        · rintro ⟨rfl, rfl⟩
          refine ⟨rfl, empty, rfl, Int.not_le.mp expired, ?_⟩
          by_cases scopeless : held.networkID = ""
          · exact Or.inl scopeless
          · exact Or.inr (Bool.eq_false_iff.mpr fun isRevoked => revoked ⟨scopeless, isRevoked⟩)
        · rintro ⟨rfl, -, rfl, -⟩
          exact ⟨rfl, rfl⟩

theorem authenticate_error {err : Error}
    (failed : authenticate now token store = (.error err, after)) :
    after = store ∨ ∃ held, store.sessions[token]? = some held ∧ held.expiresAt ≤ now ∧
      after = { store with sessions := store.sessions.erase token } := by
  unfold authenticate at failed
  split_ifs at failed with empty
  · exact Or.inl (Prod.ext_iff.mp failed).2.symm
  · cases stored : store.sessions[token]? with
    | none =>
      rw [stored] at failed
      exact Or.inl (Prod.ext_iff.mp failed).2.symm
    | some held =>
      simp only [stored] at failed
      split_ifs at failed with expired revoked
      · exact Or.inr ⟨held, rfl, expired, (Prod.ext_iff.mp failed).2.symm⟩
      · exact Or.inl (Prod.ext_iff.mp failed).2.symm
      · simp at failed

def Reaches (session : Session) (networkID : String) : Prop :=
  (session.role = .admin ∧ session.networkID = "") ∨ session.networkID = networkID

theorem authorizeNetwork_eq_ok (known : session.role = .admin ∨ session.role = .node) :
    authorizeNetwork now session networkID store = .ok () ↔
      blank networkID = false ∧ (session.expiresAt = 0 ∨ now < session.expiresAt) ∧
        isNetworkRevoked networkID store = false ∧ Reaches session networkID := by
  have scope : roleScope session networkID = .ok () ↔ Reaches session networkID := by
    rcases known with admin | node
    · simp only [roleScope, admin, refuseWhen_ok, Reaches, true_and]
      by_cases scopeless : session.networkID = "" <;> simp [scopeless]
    · simp [roleScope, node, refuseWhen_ok, Reaches]
  have unexpired : (!Time.isZero session.expiresAt && decide (session.expiresAt ≤ now)) = false ↔
      (session.expiresAt = 0 ∨ now < session.expiresAt) := by
    simp [Time.isZero, or_iff_not_imp_left]
  simp only [authorizeNetwork, check_eq_ok, refuseWhen_ok, unexpired, scope]

end Use

inductive Event where
  | issued (token : String) (session : Session)
  | authenticated (token : String) (session : Session)
  | revokedSession (token : String)
  | revokedNetwork (networkID : String)
deriving DecidableEq

inductive Action where
  | issueSession (now : Time) (random : SecretReads) (subject : String) (role : Role)
      (networkID : String)
  | authenticate (now : Time) (token : String)
  | authorizeNetwork (now : Time) (session : Session) (networkID : String)
  | revokeSession (token : String)
  | revokeNetwork (networkID : String)

structure System where
  store : SessionStore
  history : List Event

def newSystem (ttl : Duration) : System := ⟨newSessionStore ttl, []⟩

def System.record (system : System) (store : SessionStore) (event : Event) : System :=
  ⟨store, system.history ++ [event]⟩

def Action.step (action : Action) (system : System) : System :=
  match action with
  | .issueSession now random subject role networkID =>
    match AuthTokens.issueSession now random subject role networkID system.store with
    | (.ok (token, session), store) => system.record store (.issued token session)
    | (.error _, store) => { system with store := store }
  | .authenticate now token =>
    match AuthTokens.authenticate now token system.store with
    | (.ok session, store) => system.record store (.authenticated token session)
    | (.error _, store) => { system with store := store }
  | .authorizeNetwork _ _ _ => system
  | .revokeSession token =>
    system.record (AuthTokens.revokeSession token system.store) (.revokedSession token)
  | .revokeNetwork networkID =>
    system.record (AuthTokens.revokeNetwork networkID system.store) (.revokedNetwork networkID)

/-- The clock value read under the lock. `IssueSession` reads its clock before
it takes the lock, so its value is not ordered with the others. -/
def Action.reading : Action → Option Time
  | .authenticate now _ => some now
  | .authorizeNetwork now _ _ => some now
  | _ => none

/-- The most recent issue of the token gave the session, and no revocation of
the token followed it. -/
def Standing (history : List Event) (token : String) (session : Session) : Prop :=
  ∃ earlier later, history = earlier ++ .issued token session :: later ∧
    (∀ other, .issued token other ∉ later) ∧ .revokedSession token ∉ later

section Standing

variable {history : List Event} {event : Event} {token : String} {session : Session}

theorem not_standing_nil : ¬Standing [] token session := by
  rintro ⟨earlier, later, split, -⟩
  simp at split

theorem standing_concat :
    Standing (history ++ [event]) token session ↔
      event = .issued token session ∨
        (Standing history token session ∧ (∀ other, event ≠ .issued token other) ∧
          event ≠ .revokedSession token) := by
  constructor
  · rintro ⟨earlier, later, split, lastIssue, unrevoked⟩
    rcases List.eq_nil_or_concat later with rfl | ⟨before, last, rfl⟩
    · exact Or.inl (List.singleton_inj.mp (List.append_inj' split rfl).2)
    · rw [List.concat_eq_append, ← List.cons_append, ← List.append_assoc] at split
      obtain ⟨rfl, ends⟩ := List.append_inj' split rfl
      obtain rfl := List.singleton_inj.mp ends
      rw [List.concat_eq_append] at lastIssue unrevoked
      refine Or.inr ⟨⟨earlier, before, rfl, fun other member => ?_, fun member => ?_⟩,
        fun other same => ?_, fun same => ?_⟩
      · exact lastIssue other (List.mem_append_left _ member)
      · exact unrevoked (List.mem_append_left _ member)
      · exact lastIssue other (same ▸ List.mem_append_right _ List.mem_cons_self)
      · exact unrevoked (same ▸ List.mem_append_right _ List.mem_cons_self)
  · rintro (rfl | ⟨⟨earlier, later, rfl, lastIssue, unrevoked⟩, notIssued, notRevoked⟩)
    · exact ⟨history, [], rfl, by simp, by simp⟩
    · refine ⟨earlier, later ++ [event], by simp, fun other member => ?_, fun member => ?_⟩
      · rcases List.mem_append.mp member with inside | last
        · exact lastIssue other inside
        · exact notIssued other (List.mem_singleton.mp last).symm
      · rcases List.mem_append.mp member with inside | last
        · exact unrevoked inside
        · exact notRevoked (List.mem_singleton.mp last).symm

end Standing

structure Tracks (latest : Time) (system : System) : Prop where
  standing : ∀ token session, system.store.sessions[token]? = some session →
    Standing system.history token session
  kept : ∀ token session, Standing system.history token session →
    token ≠ "" ∧ (system.store.sessions[token]? = some session ∨ session.expiresAt ≤ latest)
  revoked : ∀ networkID, networkID ≠ "" →
    (isNetworkRevoked networkID system.store = true ↔ .revokedNetwork networkID ∈ system.history)
  roles : ∀ token session, .issued token session ∈ system.history ∨
    .authenticated token session ∈ system.history → session.role = .admin ∨ session.role = .node

theorem tracks_new (latest : Time) (ttl : Duration) : Tracks latest (newSystem ttl) where
  standing := by simp [newSystem, newSessionStore]
  kept := fun _ _ stands => absurd stands not_standing_nil
  revoked := by simp [newSystem, newSessionStore, isNetworkRevoked]
  roles := by simp [newSystem]

theorem Standing.mem {history : List Event} (stands : Standing history token session) :
    .issued token session ∈ history := by
  obtain ⟨earlier, later, rfl, -⟩ := stands
  exact List.mem_append_right _ List.mem_cons_self

section Steps

variable {latest : Time} {system : System}

theorem Tracks.issue (tracks : Tracks latest system)
    (known : session.role = .admin ∨ session.role = .node) (named : token ≠ "") :
    Tracks latest (system.record
      { system.store with sessions := system.store.sessions.insert token session }
      (.issued token session)) where
  standing := by
    intro other held stored
    simp only [System.record, getElem?_insert] at stored
    rw [System.record, standing_concat]
    split_ifs at stored with same
    · obtain rfl := Option.some.inj stored
      exact Or.inl (by rw [same])
    · exact Or.inr ⟨tracks.standing other held stored, by simp [same], by simp⟩
  kept := by
    intro other held stands
    simp only [System.record, standing_concat] at stands
    simp only [System.record, getElem?_insert]
    rcases stands with same | ⟨before, different, -⟩
    · obtain ⟨rfl, rfl⟩ := Event.issued.inj same
      exact ⟨named, Or.inl (if_pos rfl)⟩
    · have apart : token ≠ other := by
        rintro rfl
        exact different session rfl
      rw [if_neg apart]
      exact tracks.kept other held before
  revoked := by
    intro networkID present
    simpa [System.record, isNetworkRevoked] using tracks.revoked networkID present
  roles := by
    intro other held recorded
    simp only [System.record, List.mem_append, List.mem_singleton, Event.issued.injEq,
      reduceCtorEq, or_false] at recorded
    rcases recorded with (before | ⟨-, rfl⟩) | before
    · exact tracks.roles other held (Or.inl before)
    · exact known
    · exact tracks.roles other held (Or.inr before)

theorem Tracks.erase (tracks : Tracks latest system)
    (expired : ∀ held, system.store.sessions[token]? = some held → held.expiresAt ≤ latest) :
    Tracks latest { system with
      store := { system.store with sessions := system.store.sessions.erase token } } where
  standing := by
    intro other held stored
    simp only [getElem?_erase] at stored
    split_ifs at stored with same
    exact tracks.standing other held stored
  kept := by
    intro other held stands
    obtain ⟨named, stored | outdated⟩ := tracks.kept other held stands
    · refine ⟨named, ?_⟩
      simp only [getElem?_erase]
      split_ifs with same
      · exact Or.inr (expired held (same ▸ stored))
      · exact Or.inl stored
    · exact ⟨named, Or.inr outdated⟩
  revoked := tracks.revoked
  roles := tracks.roles

theorem Tracks.authenticated (tracks : Tracks latest system)
    (stored : system.store.sessions[token]? = some session) :
    Tracks latest (system.record system.store (.authenticated token session)) where
  standing := fun other held found =>
    standing_concat.mpr (Or.inr ⟨tracks.standing other held found, by simp, by simp⟩)
  kept := by
    intro other held stands
    simp only [System.record, standing_concat, reduceCtorEq, false_or] at stands
    exact tracks.kept other held stands.1
  revoked := by
    intro networkID present
    simpa [System.record] using tracks.revoked networkID present
  roles := by
    intro other held recorded
    simp only [System.record, List.mem_append, List.mem_singleton, Event.authenticated.injEq,
      reduceCtorEq, or_false] at recorded
    rcases recorded with before | before | ⟨-, rfl⟩
    · exact tracks.roles other held (Or.inl before)
    · exact tracks.roles other held (Or.inr before)
    · exact tracks.roles token held (Or.inl (tracks.standing token held stored).mem)

theorem Tracks.revokeSession (tracks : Tracks latest system) (token : String) :
    Tracks latest (Action.step (.revokeSession token) system) where
  standing := by
    intro other held stored
    simp only [Action.step, System.record, AuthTokens.revokeSession] at stored
    simp only [Action.step, System.record, standing_concat, reduceCtorEq, false_or]
    split_ifs at stored with empty
    · refine ⟨tracks.standing other held stored, by simp, ?_⟩
      rintro ⟨rfl⟩
      exact (tracks.kept _ held (tracks.standing _ held stored)).1 empty
    · rw [getElem?_erase] at stored
      split_ifs at stored with same
      exact ⟨tracks.standing other held stored, by simp, by simpa using same⟩
  kept := by
    intro other held stands
    simp only [Action.step, System.record, standing_concat, reduceCtorEq, false_or, ne_eq,
      Event.revokedSession.injEq] at stands
    obtain ⟨before, -, apart⟩ := stands
    obtain ⟨named, present⟩ := tracks.kept other held before
    refine ⟨named, ?_⟩
    simp only [Action.step, System.record, AuthTokens.revokeSession]
    split_ifs with empty
    · exact present
    · simpa only [getElem?_erase, if_neg apart] using present
  revoked := by
    intro networkID present
    have before := tracks.revoked networkID present
    simp only [Action.step, System.record, AuthTokens.revokeSession]
    split_ifs <;> simpa [isNetworkRevoked] using before
  roles := by
    intro other held recorded
    simp only [Action.step, System.record, List.mem_append, List.mem_singleton, reduceCtorEq,
      or_false] at recorded
    exact tracks.roles other held recorded

theorem Tracks.revokeNetwork (tracks : Tracks latest system) (networkID : String) :
    Tracks latest (Action.step (.revokeNetwork networkID) system) := by
  have sessions : (AuthTokens.revokeNetwork networkID system.store).sessions =
      system.store.sessions := by
    unfold AuthTokens.revokeNetwork
    split_ifs <;> rfl
  refine ⟨?_, ?_, ?_, ?_⟩
  · intro other held stored
    simp only [Action.step, System.record, sessions] at stored
    exact standing_concat.mpr (Or.inr ⟨tracks.standing other held stored, by simp, by simp⟩)
  · intro other held stands
    simp only [Action.step, System.record, standing_concat, reduceCtorEq, false_or] at stands
    simpa only [Action.step, System.record, sessions] using tracks.kept other held stands.1
  · intro other present
    have before := tracks.revoked other present
    simp only [Action.step, System.record, AuthTokens.revokeNetwork, isNetworkRevoked,
      List.mem_append, List.mem_singleton, Event.revokedNetwork.injEq]
    split_ifs with empty
    · have apart : other ≠ networkID := fun same => present (same.trans empty)
      simpa [apart, isNetworkRevoked] using before
    · rw [Std.ExtTreeMap.contains_insert, ← before, isNetworkRevoked, Bool.or_eq_true, or_comm,
        beq_iff_eq, compare_eq_iff_eq, @eq_comm _ networkID]
  · intro other held recorded
    simp only [Action.step, System.record, List.mem_append, List.mem_singleton, reduceCtorEq,
      or_false] at recorded
    exact tracks.roles other held recorded

theorem tracks_step (action : Action) (system : System)
    (inTime : ∀ reading, action.reading = some reading → reading ≤ latest)
    (tracks : Tracks latest system) : Tracks latest (action.step system) := by
  cases action with
  | issueSession now random subject role networkID =>
    simp only [Action.step]
    rcases called : AuthTokens.issueSession now random subject role networkID system.store
      with ⟨err | ⟨token, session⟩, after⟩
    · obtain rfl := issueSession_error called
      exact tracks
    · obtain ⟨rfl, known, -, named, -, rfl⟩ := issueSession_eq_ok called
      exact tracks.issue known named
  | authenticate now token =>
    simp only [Action.step]
    rcases called : AuthTokens.authenticate now token system.store with ⟨err | session, after⟩
    · rcases authenticate_error called with rfl | ⟨held, stored, outdated, rfl⟩
      · exact tracks
      · apply tracks.erase
        intro other found
        obtain rfl := Option.some.inj (stored.symm.trans found)
        exact Int.le_trans outdated (inTime now rfl)
    · obtain ⟨rfl, -, stored, -⟩ := authenticate_eq_ok.mp called
      exact tracks.authenticated stored
  | authorizeNetwork now session networkID => exact tracks
  | revokeSession token => exact tracks.revokeSession token
  | revokeNetwork networkID => exact tracks.revokeNetwork networkID

end Steps

/-- The answers of the store, said of the events that led to it alone. -/
structure FollowsHistory (now : Time) (system : System) : Prop where
  authenticates : ∀ token session, (authenticate now token system.store).1 = .ok session ↔
    Standing system.history token session ∧ now < session.expiresAt ∧
      (session.networkID = "" ∨ .revokedNetwork session.networkID ∉ system.history)
  issuesFree : ∀ issuedAt random subject role networkID token session,
    (issueSession issuedAt random subject role networkID system.store).1 = .ok (token, session) →
      system.store.sessions[token]? = none
  authorizes : ∀ token session networkID,
    (authenticate now token system.store).1 = .ok session →
      (authorizeNetwork now session networkID system.store = .ok () ↔
        blank networkID = false ∧ .revokedNetwork networkID ∉ system.history ∧
          Reaches session networkID)
  authorizesLater : ∀ token session networkID, .authenticated token session ∈ system.history →
    (authorizeNetwork now session networkID system.store = .ok () ↔
      blank networkID = false ∧ (session.expiresAt = 0 ∨ now < session.expiresAt) ∧
        .revokedNetwork networkID ∉ system.history ∧ Reaches session networkID)

theorem Tracks.notRevoked {latest : Time} {system : System} (tracks : Tracks latest system)
    {networkID : String} (present : networkID ≠ "") :
    isNetworkRevoked networkID system.store = false ↔
      .revokedNetwork networkID ∉ system.history := by
  rw [← tracks.revoked networkID present, Bool.not_eq_true]

theorem authenticate_fst {now : Time} :
    (authenticate now token store).1 = .ok session ↔
      authenticate now token store = (.ok session, store) := by
  constructor
  · intro succeeded
    rcases called : authenticate now token store with ⟨result, after⟩
    rw [called] at succeeded
    subst succeeded
    rw [(authenticate_eq_ok.mp called).1]
  · intro succeeded
    rw [succeeded]

theorem Tracks.followsHistory {now : Time} {system : System} (tracks : Tracks now system) :
    FollowsHistory now system := by
  have authenticates : ∀ token session, (authenticate now token system.store).1 = .ok session ↔
      Standing system.history token session ∧ now < session.expiresAt ∧
        (session.networkID = "" ∨ .revokedNetwork session.networkID ∉ system.history) := by
    intro token session
    have revocation : session.networkID = "" ∨ isNetworkRevoked session.networkID system.store =
        false ↔ session.networkID = "" ∨ .revokedNetwork session.networkID ∉ system.history := by
      by_cases empty : session.networkID = ""
      · simp [empty]
      · simp only [empty, false_or, tracks.notRevoked empty]
    rw [authenticate_fst, authenticate_eq_ok, revocation]
    constructor
    · rintro ⟨-, -, stored, live, unrevoked⟩
      exact ⟨tracks.standing token session stored, live, unrevoked⟩
    · rintro ⟨stands, live, unrevoked⟩
      obtain ⟨named, stored | outdated⟩ := tracks.kept token session stands
      · exact ⟨rfl, named, stored, live, unrevoked⟩
      · exact absurd live (Int.not_lt.mpr outdated)
  have authorizesLater : ∀ (session : Session) (networkID : String),
      session.role = .admin ∨ session.role = .node →
      (authorizeNetwork now session networkID system.store = .ok () ↔
        blank networkID = false ∧ (session.expiresAt = 0 ∨ now < session.expiresAt) ∧
          .revokedNetwork networkID ∉ system.history ∧ Reaches session networkID) := by
    intro session networkID known
    rw [authorizeNetwork_eq_ok known]
    refine and_congr_right fun present => and_congr_right fun _ => and_congr_left fun _ => ?_
    exact tracks.notRevoked (ne_empty_of_not_blank present)
  refine ⟨authenticates, ?_, ?_, ?_⟩
  · intro issuedAt random subject role networkID token session issued
    rcases called : issueSession issuedAt random subject role networkID system.store
      with ⟨result, after⟩
    rw [called] at issued
    subst issued
    exact (issueSession_eq_ok called).2.2.2.2.1
  · intro token session networkID authenticated
    obtain ⟨stands, live, -⟩ := (authenticates token session).mp authenticated
    rw [authorizesLater session networkID (tracks.roles token session (Or.inl stands.mem))]
    exact and_congr_right fun _ => and_iff_right (Or.inr live)
  · intro token session networkID recorded
    exact authorizesLater session networkID (tracks.roles token session (Or.inr recorded))

/-- After every run under a clock that does not go back, the store answers from
the history of the run. -/
theorem sessionStore_implements_history (ttl : Duration) (actions : List Action) (now : Time)
    (clock : (actions.filterMap Action.reading ++ [now]).Pairwise (· ≤ ·)) :
    FollowsHistory now (run Action.step actions (newSystem ttl)) := by
  have inTime : ∀ action ∈ actions, ∀ reading, action.reading = some reading → reading ≤ now := by
    intro action member reading read
    exact (List.pairwise_append.mp clock).2.2 reading
      (List.mem_filterMap.mpr ⟨action, member, read⟩) now List.mem_cons_self
  have tracks : Tracks now (run Action.step actions (newSystem ttl)) :=
    run_invariant_of_mem Action.step (Tracks now)
      (fun action member system => tracks_step action system (inTime action member))
      (tracks_new now ttl)
  exact tracks.followsHistory

/-- A session that is issued, used, revoked with its network and then presented again. -/
theorem sessionStore_implements_history_after_revocation :
    let secret : Except Error Secret := .ok ⟨List.replicate 32 7, by decide⟩
    let token := encodeRawURL (List.replicate 32 7)
    let actions : List Action := [.issueSession 1 (fun _ => secret) "node-a" .node "net-a",
      .authenticate 2 token, .revokeNetwork "net-a"]
    FollowsHistory 3 (run Action.step actions (newSystem minute)) ∧
      (run Action.step actions (newSystem minute)).history =
        [.issued token ⟨"node-a", .node, "net-a", 1 + minute⟩,
          .authenticated token ⟨"node-a", .node, "net-a", 1 + minute⟩, .revokedNetwork "net-a"] :=
  ⟨sessionStore_implements_history minute _ 3 (by decide), by decide +kernel⟩

end Ipv6Mesh.AuthHistory
