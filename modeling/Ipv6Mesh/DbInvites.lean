import Ipv6Mesh.DbRuns

/-!
# The lifecycle of invites

An invite is unused, consumed or revoked, and leaves the first of these at most
once. `InvitesChange` lists what an operation can do to the stored invites; the
lifecycle over whole runs, with every transaction that commits, follows from it.
-/

namespace Ipv6Mesh.DbInvites

open GoText GoMap GoFlow ControlModel ControlValidation DbMemory DbOperations DbIntegrity DbRuns

def consumedInvite (op : Op) (repository : MemoryRepository) : Option Invite :=
  match op with
  | .consumeInvite ctx wall value tokenHash consumedAt =>
    (DbMemory.consumeInvite ctx wall value tokenHash consumedAt repository).1.toOption
  | .consumeInviteForNode ctx wall value tokenHash consumedAt nodeID =>
    (DbMemory.consumeInviteForNode ctx wall value tokenHash consumedAt nodeID
      repository).1.toOption
  | _ => none

/-- The identifier or network, the token hash and the time that a consumer presents. -/
def presentation : Op → Option (String × String × Time)
  | .consumeInvite _ wall value tokenHash consumedAt =>
    some (value, tokenHash, consumptionTime wall consumedAt)
  | .consumeInviteForNode _ wall value tokenHash consumedAt _ =>
    some (value, tokenHash, consumptionTime wall consumedAt)
  | _ => none

def consumptions (inviteID : String) : List Op → MemoryRepository → Nat
  | [], _ => 0
  | op :: ops, repository =>
    (if (consumedInvite op repository).any fun invite => invite.id = inviteID then 1 else 0) +
      consumptions inviteID ops (op.step repository)

def Unused (invite : Invite) : Prop := invite.consumedAt = none ∧ invite.revokedAt = none

/-- One state of an invite after another: what identifies it stays, and its
lifecycle stays or leaves the unused state. -/
structure Evolves (before after : Invite) : Prop where
  id : after.id = before.id
  networkID : after.networkID = before.networkID
  tokenHash : after.tokenHash = before.tokenHash
  createdAt : after.createdAt = before.createdAt
  expiresAt : after.expiresAt = before.expiresAt
  lifecycle : (after.consumedAt = before.consumedAt ∧ after.revokedAt = before.revokedAt) ∨
    (Unused before ∧ ((after.consumedAt.isSome ∧ after.revokedAt = none) ∨
      (after.consumedAt = none ∧ after.revokedAt.isSome)))

theorem Evolves.refl (invite : Invite) : Evolves invite invite :=
  ⟨rfl, rfl, rfl, rfl, rfl, Or.inl ⟨rfl, rfl⟩⟩

theorem Evolves.trans {first second third : Invite} (left : Evolves first second)
    (right : Evolves second third) : Evolves first third where
  id := right.id.trans left.id
  networkID := right.networkID.trans left.networkID
  tokenHash := right.tokenHash.trans left.tokenHash
  createdAt := right.createdAt.trans left.createdAt
  expiresAt := right.expiresAt.trans left.expiresAt
  lifecycle := by
    rcases right.lifecycle with ⟨consumed, revoked⟩ | ⟨unused, moved⟩
    · rw [consumed, revoked]
      exact left.lifecycle
    · rcases left.lifecycle with ⟨consumed, revoked⟩ | ⟨-, before⟩
      · refine Or.inr ⟨?_, moved⟩
        rwa [Unused, consumed, revoked] at unused
      · rw [unused.1, unused.2] at before
        simp at before

theorem Evolves.settled {before after : Invite} (evolves : Evolves before after)
    (settled : ¬Unused before) :
    after.consumedAt = before.consumedAt ∧ after.revokedAt = before.revokedAt := by
  rcases evolves.lifecycle with same | ⟨unused, -⟩
  · exact same
  · exact absurd unused settled

inductive InvitesChange (repository : MemoryRepository) : Op → GoMap Invite → Prop
  | same (op : Op) (unconsumed : consumedInvite op repository = none) :
      InvitesChange repository op repository.invites
  | created (ctx : Context) (invite : Invite) (valid : validateInvite invite = .ok ())
      (fresh : repository.invites[invite.id]? = none) :
      InvitesChange repository (.createInvite ctx invite)
        (repository.invites.insert invite.id invite)
  | revoked (ctx : Context) (inviteID : String) (revokedAt : Time) (invite : Invite)
      (stored : repository.invites[inviteID]? = some invite) (unused : Unused invite) :
      InvitesChange repository (.revokeInvite ctx inviteID revokedAt)
        (repository.invites.insert inviteID { invite with revokedAt := some revokedAt })
  | consumed (op : Op) (value : String) (time : Time) (nodeID : String) (invite : Invite)
      (presented : presentation op = some (value, invite.tokenHash, time))
      (stored : repository.invites[invite.id]? = some invite) (unused : Unused invite)
      (named : value = invite.id ∨
        (value = invite.networkID ∧ repository.invites[value]? = none))
      (started : invite.createdAt ≤ time) (unexpired : time < invite.expiresAt)
      (handedOut : consumedInvite op repository = some
        { invite with consumedAt := some time, consumedByNodeID := nodeID }) :
      InvitesChange repository op (repository.invites.insert invite.id
        { invite with consumedAt := some time, consumedByNodeID := nodeID })
  | detached (ctx : Context) (nodeID : String) :
      InvitesChange repository (.removeNode ctx nodeID)
        (repository.invites.map fun _ invite =>
          if invite.consumedByNodeID = nodeID then { invite with consumedByNodeID := "" }
          else invite)

variable {consumed : Invite}

section Steps

variable {repository after : MemoryRepository}

theorem invitesChange_consume (sound : Integrity repository) {op : Op} {ctx : Context}
    {wall consumedAt : Time} {value tokenHash nodeID : String}
    (presented : presentation op = some (value, tokenHash, consumptionTime wall consumedAt))
    (handedOut : consumedInvite op repository = some consumed)
    (outcome : consumeInviteForNode ctx wall value tokenHash consumedAt nodeID repository =
      (.ok consumed, after)) :
    InvitesChange repository op after.invites := by
  obtain ⟨-, -, inviteID, _, lookup, rfl, unconsumed, unrevoked, unexpired, started, rfl, rfl⟩ :=
    consumeInviteForNode_eq_ok.mp outcome
  obtain ⟨invite, stored, rfl, named⟩ := inviteByLookup_stored sound lookup
  have fetched : repository.invites.getD inviteID zeroInvite = invite := getD_of_stored stored
  rw [fetched] at unconsumed unrevoked unexpired started handedOut
  have identified := sound.invites.named inviteID invite stored
  rw [fetched]
  subst identified
  refine .consumed op value _ nodeID invite presented stored ⟨unconsumed, unrevoked⟩ ?_ started
    ?_ handedOut
  · rcases named with same | ⟨network, free⟩
    · exact Or.inl same.symm
    · exact Or.inr ⟨network.symm, free⟩
  · exact Int.not_le.mp (of_decide_eq_false unexpired)

theorem consumption_of_handedOut {op : Op}
    (handedOut : consumedInvite op repository = some consumed) :
    ∃ ctx wall value tokenHash consumedAt nodeID,
      presentation op = some (value, tokenHash, consumptionTime wall consumedAt) ∧
      consumeInviteForNode ctx wall value tokenHash consumedAt nodeID repository =
        (.ok consumed, op.step repository) := by
  have inverted : ∀ {outcome : Outcome Invite}, outcome.1.toOption = some consumed →
      outcome = (.ok consumed, (dropResult outcome).2) := by
    rintro ⟨_ | invite, state⟩ same
    · cases same
    · cases same
      rfl
  cases op with
  | consumeInvite ctx wall value tokenHash consumedAt =>
    exact ⟨ctx, wall, value, tokenHash, consumedAt, "", rfl, inverted handedOut⟩
  | consumeInviteForNode ctx wall value tokenHash consumedAt nodeID =>
    exact ⟨ctx, wall, value, tokenHash, consumedAt, nodeID, rfl, inverted handedOut⟩
  | _ => cases handedOut

theorem invitesChange_step (sound : Integrity repository) (op : Op) :
    InvitesChange repository op (op.step repository).invites := by
  cases handedOut : consumedInvite op repository with
  | some consumed =>
    obtain ⟨ctx, wall, value, tokenHash, consumedAt, nodeID, presented, outcome⟩ :=
      consumption_of_handedOut handedOut
    exact invitesChange_consume sound presented handedOut outcome
  | none =>
    have change := step_effect op repository
    generalize op.step repository = after at change ⊢
    cases change with
    | prepared | relaySet =>
      rw [prepare_frame]
      exact .same _ handedOut
    | nodeRemoved ctx nodeID =>
      rw [foldl_increment_eq]
      exact .detached ctx nodeID
    | memberRemoved =>
      rw [withoutMember, detachNode_frame]
      exact .same _ handedOut
    | endpointsReplaced =>
      rw [foldl_increment_eq]
      exact .same _ handedOut
    | inviteCreated ctx invite valid network known fresh =>
      exact .created ctx invite valid fresh
    | inviteRevoked ctx inviteID revokedAt invite stored unused =>
      exact .revoked ctx inviteID revokedAt invite stored unused
    | inviteConsumed ctx wall consumedAt value tokenHash nodeID consumed invites asked outcome =>
      rcases asked with ⟨rfl, rfl⟩ | rfl <;>
        simp [consumedInvite, consumeInvite, outcome, Except.toOption] at handedOut
    | _ => exact .same _ handedOut

end Steps

def Exclusive (invites : GoMap Invite) : Prop :=
  ∀ (inviteID : String) (invite : Invite), invites[inviteID]? = some invite →
    invite.consumedAt = none ∨ invite.revokedAt = none

variable {inviteID : String}

section Change

variable {repository : MemoryRepository} {op : Op} {invites : GoMap Invite}

theorem InvitesChange.evolves (change : InvitesChange repository op invites) {before : Invite}
    (stored : repository.invites[inviteID]? = some before) :
    ∃ after, invites[inviteID]? = some after ∧ Evolves before after := by
  cases change with
  | same => exact ⟨before, stored, .refl before⟩
  | created ctx invite valid fresh =>
    exact ⟨before, (getElem?_insert_ne (ne_of_fresh fresh stored)).trans stored, .refl before⟩
  | revoked ctx revokedID revokedAt invite present unused =>
    rw [getElem?_insert]
    split_ifs with same
    · subst same
      obtain rfl := Option.some.inj (present.symm.trans stored)
      exact ⟨_, rfl, rfl, rfl, rfl, rfl, rfl, Or.inr ⟨unused, Or.inr ⟨unused.1, rfl⟩⟩⟩
    · exact ⟨before, stored, .refl before⟩
  | consumed _ value time nodeID invite presented present unused =>
    rw [getElem?_insert]
    split_ifs with same
    · subst same
      obtain rfl := Option.some.inj (present.symm.trans stored)
      exact ⟨_, rfl, rfl, rfl, rfl, rfl, rfl, Or.inr ⟨unused, Or.inl ⟨rfl, unused.2⟩⟩⟩
    · exact ⟨before, stored, .refl before⟩
  | detached ctx nodeID =>
    refine ⟨_, by rw [Std.ExtTreeMap.getElem?_map, stored, Option.map_some], ?_⟩
    split_ifs
    · exact ⟨rfl, rfl, rfl, rfl, rfl, Or.inl ⟨rfl, rfl⟩⟩
    · exact .refl before

theorem InvitesChange.exclusive (change : InvitesChange repository op invites)
    (before : Exclusive repository.invites) : Exclusive invites := by
  cases change with
  | same => exact before
  | created ctx created valid fresh =>
    simp only [validateInvite, required, invalidWhen_bind_ok, Bool.and_eq_false_iff] at valid
    exact forall_insert (by simpa using valid.2.2.2.2.2.2.2.1) before
  | revoked ctx inviteID revokedAt invite stored unused =>
    exact forall_insert (Or.inl unused.1) before
  | consumed _ value time nodeID invite presented stored unused =>
    exact forall_insert (Or.inr unused.2) before
  | detached ctx nodeID =>
    intro inviteID invite stored
    rw [Std.ExtTreeMap.getElem?_map] at stored
    obtain ⟨original, present, rfl⟩ := Option.map_eq_some_iff.mp stored
    split_ifs <;> exact before inviteID original present

theorem InvitesChange.presented (change : InvitesChange repository op invites)
    (handedOut : consumedInvite op repository = some consumed) :
    ∃ value tokenHash time invite, presentation op = some (value, tokenHash, time) ∧
      repository.invites[consumed.id]? = some invite ∧ Unused invite ∧
      tokenHash = invite.tokenHash ∧ (value = invite.id ∨
        (value = invite.networkID ∧ repository.invites[value]? = none)) ∧
      invite.createdAt ≤ time ∧ time < invite.expiresAt ∧
      invites[consumed.id]? = some consumed ∧ consumed.consumedAt = some time := by
  cases change with
  | same _ unconsumed =>
    rw [unconsumed] at handedOut
    cases handedOut
  | created | revoked | detached => cases handedOut
  | consumed _ value time nodeID invite presented stored unused named started unexpired handed =>
    obtain rfl := Option.some.inj (handed.symm.trans handedOut)
    exact ⟨value, _, time, invite, presented, stored, unused, rfl, named, started, unexpired,
      by rw [getElem?_insert, if_pos rfl], rfl⟩

end Change

section Runs

variable {repository : MemoryRepository}

theorem evolves_run (sound : Integrity repository) (ops : List Op) {before : Invite}
    (stored : repository.invites[inviteID]? = some before) :
    ∃ after, (run Op.step ops repository).invites[inviteID]? = some after ∧
      Evolves before after := by
  induction ops generalizing repository before with
  | nil => exact ⟨before, stored, .refl before⟩
  | cons op ops ih =>
    obtain ⟨next, present, first⟩ := (invitesChange_step sound op).evolves stored
    obtain ⟨after, final, rest⟩ := ih (integrity_apply op sound) present
    exact ⟨after, final, first.trans rest⟩

theorem exclusive_run (sound : Integrity repository) (exclusive : Exclusive repository.invites)
    (ops : List Op) : Exclusive (run Op.step ops repository).invites := by
  induction ops generalizing repository with
  | nil => exact exclusive
  | cons op ops ih =>
    exact ih (integrity_apply op sound) ((invitesChange_step sound op).exclusive exclusive)

theorem consumptions_of_settled (sound : Integrity repository) (ops : List Op) {invite : Invite}
    (stored : repository.invites[inviteID]? = some invite) (settled : ¬Unused invite) :
    consumptions inviteID ops repository = 0 := by
  induction ops generalizing repository invite with
  | nil => rfl
  | cons op ops ih =>
    have change := invitesChange_step sound op
    have refused : ((consumedInvite op repository).any fun invite =>
        decide (invite.id = inviteID)) = false := by
      rw [Option.any_eq_false]
      intro consumed handedOut
      rw [decide_eq_false_iff_not]
      rintro rfl
      obtain ⟨-, -, -, before, -, present, unused, -⟩ := change.presented handedOut
      obtain rfl := Option.some.inj (present.symm.trans stored)
      exact settled unused
    obtain ⟨next, present, evolves⟩ := change.evolves stored
    have stillSettled : ¬Unused next := by
      obtain ⟨consumed, revoked⟩ := evolves.settled settled
      rwa [Unused, consumed, revoked]
    rw [consumptions, refused, ih (integrity_apply op sound) present stillSettled]
    rfl

theorem consumptions_le_one (sound : Integrity repository) (ops : List Op) (inviteID : String) :
    consumptions inviteID ops repository ≤ 1 := by
  induction ops generalizing repository with
  | nil => exact Nat.zero_le 1
  | cons op ops ih =>
    rw [consumptions]
    split_ifs with consumes
    · obtain ⟨consumed, handedOut, named⟩ := (Option.any_eq_true _ _).mp consumes
      obtain rfl := of_decide_eq_true named
      obtain ⟨-, -, time, -, -, -, -, -, -, -, -, present, consumedAt⟩ :=
        (invitesChange_step sound op).presented handedOut
      have settled : ¬Unused consumed := by
        intro unused
        rw [unused.1] at consumedAt
        cases consumedAt
      rw [consumptions_of_settled (integrity_apply op sound) ops present settled]
    · rw [Nat.zero_add]
      exact ih (integrity_apply op sound)

end Runs

/-- An invite is consumed at most once, by whoever presented its token while it was open. -/
structure SingleUse (start : MemoryRepository) (ops : List Op) : Prop where
  once : ∀ inviteID, consumptions inviteID ops start ≤ 1
  lifecycle : ∀ first second, ops = first ++ second →
    ∀ (inviteID : String) (before : Invite),
      (run Op.step first start).invites[inviteID]? = some before →
        ∃ after, (run Op.step ops start).invites[inviteID]? = some after ∧ Evolves before after
  exclusive : Exclusive (run Op.step ops start).invites
  presented : ∀ first op second, ops = first ++ op :: second →
    ∀ consumed, consumedInvite op (run Op.step first start) = some consumed →
      ∃ value tokenHash time invite, presentation op = some (value, tokenHash, time) ∧
        (run Op.step first start).invites[consumed.id]? = some invite ∧ Unused invite ∧
        tokenHash = invite.tokenHash ∧ (value = invite.id ∨ (value = invite.networkID ∧
          (run Op.step first start).invites[value]? = none)) ∧
        invite.createdAt ≤ time ∧ time < invite.expiresAt ∧
        (run Op.step (first ++ [op]) start).invites[consumed.id]? = some consumed ∧
        consumed.consumedAt = some time

theorem singleUse_of_sound {start : MemoryRepository} (sound : Integrity start)
    (exclusive : Exclusive start.invites) (ops : List Op) : SingleUse start ops where
  once := consumptions_le_one sound ops
  lifecycle first second split inviteID before stored := by
    have reached := run_invariant Op.step Integrity
      (fun op _ before => integrity_apply op before) first sound
    rw [split, run_append]
    exact evolves_run reached second stored
  exclusive := exclusive_run sound exclusive ops
  presented first op second split consumed handedOut := by
    have reached := run_invariant Op.step Integrity
      (fun op _ before => integrity_apply op before) first sound
    rw [run_append]
    exact (invitesChange_step reached op).presented handedOut

/-- In every run of operations and transactions from an empty repository, invites
are single-use. -/
theorem invites_are_single_use (maxAge : Duration) (actions : List Action) :
    reached maxAge actions =
      run Op.step (committedOps actions (newMemoryRepositoryWithEndpointMaxAge maxAge))
        (newMemoryRepositoryWithEndpointMaxAge maxAge) ∧
    SingleUse (newMemoryRepositoryWithEndpointMaxAge maxAge)
      (committedOps actions (newMemoryRepositoryWithEndpointMaxAge maxAge)) := by
  refine ⟨run_eq_committedOps actions _, singleUse_of_sound (integrity_new maxAge) ?_ _⟩
  intro inviteID invite stored
  simp [newMemoryRepositoryWithEndpointMaxAge] at stored

end Ipv6Mesh.DbInvites
