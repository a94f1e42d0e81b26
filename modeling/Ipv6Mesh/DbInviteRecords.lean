import Ipv6Mesh.DbInvites
import Ipv6Mesh.DbPostgresTables
import Ipv6Mesh.DbVersions

/-!
# Stored invites and their validation

An invite is validated when it is created. A consumption compares its time with
the window of the invite, and clearing a consumer loosens a rule; a revocation
takes its time as it is given, and this is the one way to a stored invite that
fails `ValidateInvite`. A revoked invite keeps its times, so it stays that way.
-/

namespace Ipv6Mesh.DbInviteRecords

open GoText GoMap GoFlow ControlModel ControlValidation DbMemory DbOperations DbIntegrity DbRuns
  DbInvites
open DbRows (inviteRow)
open PostgresRepository (inviteChecks)

/-- The stored invites pass validation and the constraints of their table. -/
def InvitesValid (repository : MemoryRepository) : Prop :=
  ∀ (inviteID : String) (invite : Invite), repository.invites[inviteID]? = some invite →
    validateInvite invite = .ok () ∧ inviteChecks (inviteRow invite) = true

def backdates (op : Op) (repository : MemoryRepository) : Bool :=
  match op with
  | .revokeInvite .live inviteID revokedAt =>
    !(inviteID = "" || Time.isZero revokedAt) &&
      repository.invites[inviteID]?.any fun invite =>
        invite.consumedAt.isNone && invite.revokedAt.isNone && revokedAt < invite.createdAt
  | _ => false

section Rules

variable {invite : Invite}

theorem validateInvite_iff :
    validateInvite invite = .ok () ↔
      blank invite.id = false ∧ blank invite.networkID = false ∧ blank invite.tokenHash = false ∧
      Time.isZero invite.createdAt = false ∧
      (Time.isZero invite.expiresAt = false ∧ invite.createdAt < invite.expiresAt) ∧
      (∀ time, invite.consumedAt = some time → invite.createdAt ≤ time) ∧
      (∀ time, invite.revokedAt = some time → invite.createdAt ≤ time) ∧
      (invite.consumedAt = none ∨ invite.revokedAt = none) ∧
      (invite.consumedByNodeID = "" ∨ invite.consumedAt ≠ none) := by
  simp only [validateInvite, required, invalidWhen_bind_ok, invalidWhen_ok, Bool.or_eq_false_iff,
    Bool.and_eq_false_iff, Option.any_eq_false, decide_eq_false_iff_not, Int.not_le, Int.not_lt,
    Option.isSome_eq_false_iff, Option.isNone_iff_eq_none, Option.isNone_eq_false_iff,
    Option.isSome_iff_ne_none, not_not]

theorem validateInvite_consumed {time : Time} {nodeID : String}
    (valid : validateInvite invite = .ok ()) (unused : Unused invite)
    (started : invite.createdAt ≤ time) :
    validateInvite { invite with consumedAt := some time, consumedByNodeID := nodeID } =
      .ok () := by
  obtain ⟨id, network, token, created, window, -, revoked, -, -⟩ := validateInvite_iff.mp valid
  refine validateInvite_iff.mpr
    ⟨id, network, token, created, window, ?_, revoked, .inr unused.2, .inr (Option.some_ne_none _)⟩
  rintro _ ⟨⟩
  exact started

theorem validateInvite_detached (valid : validateInvite invite = .ok ()) :
    validateInvite { invite with consumedByNodeID := "" } = .ok () := by
  obtain ⟨id, network, token, created, window, consumed, revoked, lifecycle, -⟩ :=
    validateInvite_iff.mp valid
  exact validateInvite_iff.mpr
    ⟨id, network, token, created, window, consumed, revoked, lifecycle, .inl rfl⟩

theorem validateInvite_revoked {time : Time} (valid : validateInvite invite = .ok ())
    (unused : Unused invite) (started : invite.createdAt ≤ time) :
    validateInvite { invite with revokedAt := some time } = .ok () := by
  obtain ⟨id, network, token, created, window, consumed, -, -, consumer⟩ :=
    validateInvite_iff.mp valid
  refine validateInvite_iff.mpr
    ⟨id, network, token, created, window, consumed, ?_, .inl unused.1, consumer⟩
  rintro _ ⟨⟩
  exact started

end Rules

section Steps

variable {repository : MemoryRepository}

theorem backdates_iff {op : Op} :
    backdates op repository = true ↔
      ∃ inviteID revokedAt invite, op = .revokeInvite .live inviteID revokedAt ∧
        (inviteID = "" || Time.isZero revokedAt) = false ∧
        repository.invites[inviteID]? = some invite ∧ Unused invite ∧
        revokedAt < invite.createdAt := by
  constructor
  · intro holds
    unfold backdates at holds
    split at holds
    · rename_i inviteID revokedAt
      obtain ⟨present, early⟩ := Bool.and_eq_true_iff.mp holds
      obtain ⟨invite, stored, facts⟩ := Option.any_eq_true _ _ |>.mp early
      rw [Bool.and_eq_true, Bool.and_eq_true, Option.isNone_iff_eq_none,
        Option.isNone_iff_eq_none, decide_eq_true_eq] at facts
      exact ⟨inviteID, revokedAt, invite, rfl, (Bool.not_eq_true' _).mp present, stored, facts.1,
        facts.2⟩
    · cases holds
  · rintro ⟨inviteID, revokedAt, invite, rfl, present, stored, ⟨unconsumed, unrevoked⟩, early⟩
    simp [backdates, present, stored, unconsumed, unrevoked, early]

theorem invalid_of_backdates {op : Op} (holds : backdates op repository = true) :
    ∃ (inviteID : String) (after : Invite),
      (op.step repository).invites[inviteID]? = some after ∧
      ¬Unused after ∧ ∃ time, after.revokedAt = some time ∧ time < after.createdAt := by
  obtain ⟨inviteID, revokedAt, invite, rfl, present, stored, ⟨unconsumed, unrevoked⟩, early⟩ :=
    backdates_iff.mp holds
  have outcome := revokeInvite_eq_ok.mpr ⟨rfl, present, invite, stored, unconsumed, rfl⟩
  have step : Op.step (.revokeInvite .live inviteID revokedAt) repository = _ :=
    congrArg Prod.snd outcome
  rw [unrevoked] at step
  refine ⟨inviteID, { invite with revokedAt := some revokedAt }, ?_, ?_, revokedAt, rfl, early⟩
  · rw [step]
    exact Std.ExtTreeMap.getElem?_insert_self
  · rintro ⟨-, settled⟩
    cases settled

theorem revocation_accepted {ctx : Context} {inviteID : String} {revokedAt : Time}
    {invite : Invite} (stored : repository.invites[inviteID]? = some invite)
    (unused : Unused invite)
    (changed : (Op.step (.revokeInvite ctx inviteID revokedAt) repository).invites =
      repository.invites.insert inviteID { invite with revokedAt := some revokedAt }) :
    ctx = .live ∧ (inviteID = "" || Time.isZero revokedAt) = false := by
  unfold Op.step at changed
  rcases outcome : (Op.revokeInvite ctx inviteID revokedAt).apply repository with ⟨_ | _, after⟩
  · rw [outcome, guarded_error outcome] at changed
    have again := congrArg (fun invites : GoMap Invite => invites[inviteID]?) changed
    simp only [stored, Std.ExtTreeMap.getElem?_insert_self, Option.some.injEq] at again
    have unrevoked := unused.2
    rw [again] at unrevoked
    cases unrevoked
  · obtain ⟨live, present, -⟩ := revokeInvite_eq_ok.mp outcome
    exact ⟨live, present⟩

def Validated (invites : GoMap Invite) : Prop :=
  ∀ (inviteID : String) (invite : Invite), invites[inviteID]? = some invite →
    validateInvite invite = .ok ()

theorem validated_step (sound : Integrity repository) {op : Op}
    (valid : Validated repository.invites) (dated : backdates op repository = false) :
    Validated (op.step repository).invites := by
  have change := invitesChange_step sound op
  generalize changed : (op.step repository).invites = invites at change
  cases change with
  | same => exact valid
  | created ctx invite accepted => exact forall_insert accepted valid
  | consumed _ value time nodeID invite presented stored unused named started =>
    exact forall_insert (validateInvite_consumed (valid _ _ stored) unused started) valid
  | detached ctx nodeID =>
    intro inviteID invite stored
    rw [Std.ExtTreeMap.getElem?_map, Option.map_eq_some_iff] at stored
    obtain ⟨before, lookup, rfl⟩ := stored
    split_ifs
    · exact validateInvite_detached (valid inviteID before lookup)
    · exact valid inviteID before lookup
  | revoked ctx inviteID revokedAt invite stored unused =>
    refine forall_insert (validateInvite_revoked (valid inviteID invite stored) unused ?_) valid
    obtain ⟨rfl, present⟩ := revocation_accepted stored unused changed
    refine not_lt.mp fun early => ?_
    rw [backdates_iff.mpr ⟨inviteID, revokedAt, invite, rfl, present, stored, unused, early⟩]
      at dated
    cases dated

end Steps

section Runs

variable {repository : MemoryRepository}

theorem invitesValid_iff : InvitesValid repository ↔ Validated repository.invites := by
  constructor
  · exact fun valid inviteID invite stored => (valid inviteID invite stored).1
  · intro valid inviteID invite stored
    have accepted := valid inviteID invite stored
    exact ⟨accepted, DbPostgresTables.inviteRow_checked accepted⟩

theorem not_validated_run (sound : Integrity repository) (ops : List Op) {inviteID : String}
    {invite : Invite} (stored : repository.invites[inviteID]? = some invite)
    (settled : ¬Unused invite) {time : Time} (revoked : invite.revokedAt = some time)
    (early : time < invite.createdAt) : ¬Validated (run Op.step ops repository).invites := by
  intro valid
  obtain ⟨after, final, evolves⟩ := evolves_run sound ops stored
  obtain ⟨-, -, -, -, -, -, ordered, -⟩ := validateInvite_iff.mp (valid inviteID after final)
  have kept : after.revokedAt = some time := (evolves.settled settled).2.trans revoked
  have bound : after.createdAt ≤ time := ordered time kept
  rw [evolves.createdAt] at bound
  exact not_lt.mpr bound early

theorem validated_run_iff (sound : Integrity repository) (valid : Validated repository.invites)
    (ops : List Op) :
    Validated (run Op.step ops repository).invites ↔
      StepsMeet Op.step (fun op state => backdates op state = false) ops repository := by
  induction ops generalizing repository with
  | nil => exact iff_of_true valid trivial
  | cons op ops ih =>
    rw [run_cons, StepsMeet]
    by_cases dated : backdates op repository = false
    · rw [ih (integrity_apply op sound) (validated_step sound valid dated)]
      exact (and_iff_right dated).symm
    · refine iff_of_false ?_ fun meets => dated meets.1
      obtain ⟨inviteID, after, stored, settled, time, revoked, early⟩ :=
        invalid_of_backdates (Bool.not_eq_false _ |>.mp dated)
      exact not_validated_run (integrity_apply op sound) ops stored settled revoked early

end Runs

/-- After any run of operations and transactions the stored invites are valid
exactly when no revocation of the run was dated before its invite. -/
theorem invites_valid_iff_no_revocation_backdated (maxAge : Duration) (actions : List Action) :
    InvitesValid (reached maxAge actions) ↔
      StepsMeet Op.step (fun op state => backdates op state = false)
        (committedOps actions (newMemoryRepositoryWithEndpointMaxAge maxAge))
        (newMemoryRepositoryWithEndpointMaxAge maxAge) := by
  have empty : Validated (newMemoryRepositoryWithEndpointMaxAge maxAge).invites := by
    intro inviteID invite stored
    simp [newMemoryRepositoryWithEndpointMaxAge] at stored
  rw [invitesValid_iff, reached, run_eq_committedOps]
  exact validated_run_iff (integrity_new maxAge) empty _

def lateInvite : Invite :=
  { id := "i", networkID := "n", tokenHash := "h", expiresAt := 20, consumedAt := none,
    revokedAt := none, consumedByNodeID := "", createdAt := 10 }

/-- An invite created at 10 is revoked at 5. -/
theorem backdated_revocation_stored :
    ¬∀ (maxAge : Duration) (actions : List Action), InvitesValid (reached maxAge actions) := by
  intro valid
  have stored := valid defaultEndpointMaxAge
    [.single (.createNetwork .live (DbVersions.startedNetwork 1)),
      .single (.createInvite .live lateInvite), .single (.revokeInvite .live "i" 5)] "i"
    { lateInvite with revokedAt := some 5 } (by decide +kernel)
  have refused : validateInvite { lateInvite with revokedAt := some 5 } =
      .error (.invalid "invite" "revoked_at" "must not precede created_at") := by rfl
  rw [refused] at stored
  cases stored.1

end Ipv6Mesh.DbInviteRecords
