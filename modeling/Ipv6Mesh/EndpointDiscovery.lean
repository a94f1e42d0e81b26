import Ipv6Mesh.ControlModel
import Ipv6Mesh.GoNetText

/-!
# Discovery of transport endpoints

The discoverer of `internal/endpoint/candidates.go`: what an enumerator of the
node's interfaces yields is filtered, deduplicated by a text, ranked and cut to
the first sixteen candidates. The enumerator itself is a parameter.
-/

namespace Ipv6Mesh.EndpointDiscovery

open GoText GoNet ControlModel

structure Candidate where
  address : Addr
  port : UInt16
  interface : String
  priority : Int
  skipAsSource : Bool
  loopback : Bool
  linkLocal : Bool
  virtual : Bool
  validUntil : Time
  preferredUntil : Time
deriving DecidableEq

def lapsed (deadline now : Time) : Bool := !Time.isZero deadline && !(now < deadline : Bool)

/-- The checks by which the loop of `FilterIPv6Candidates` passes a candidate over. -/
def passedOver (now : Time) (candidate : Candidate) : Bool :=
  (!candidate.address.isValid || !candidate.address.is6 || candidate.port = 0 ||
      candidate.skipAsSource || candidate.loopback || candidate.linkLocal || candidate.virtual) ||
    (!candidate.address.isGlobalUnicast || candidate.address.isUnspecified ||
      candidate.address.isMulticast) ||
    lapsed candidate.validUntil now || lapsed candidate.preferredUntil now ||
    blank candidate.interface || candidate.priority < 0

def candidateKey (candidate : Candidate) : String :=
  String.ofList candidate.address.toText ++ "|" ++ Nat.repr candidate.port.toNat ++ "|" ++
    candidate.interface

def keepCandidates (now : Time) : List Candidate → List String → List Candidate
  | [], _ => []
  | candidate :: rest, seen =>
    if passedOver now candidate then keepCandidates now rest seen
    else if candidateKey candidate ∈ seen then keepCandidates now rest seen
    else candidate :: keepCandidates now rest (candidateKey candidate :: seen)

def candidateLess (left right : Candidate) : Bool :=
  if left.priority ≠ right.priority then left.priority < right.priority
  else if left.address ≠ right.address then
    String.ofList left.address.toText < String.ofList right.address.toText
  else if left.interface ≠ right.interface then left.interface < right.interface
  else left.port < right.port

def filterIPv6Candidates (wall : Time) (candidates : List Candidate) (now : Time) :
    List Candidate :=
  let now := if Time.isZero now then wall else now
  sliceStable candidateLess (keepCandidates now candidates [])

def netipToNetIP (address : Addr) : IP :=
  match address with
  | .v4 value => putUint32 value.toNat
  | other => as16 other

structure Discoverer where
  enumerate : UInt16 → Except Error (List Candidate)
  max : Int

def newDiscoverer (enumerator : Option (UInt16 → Except Error (List Candidate))) :
    Except Error Discoverer :=
  match enumerator with
  | none => .error (.external "endpoint enumerator is missing")
  | some enumerate => .ok ⟨enumerate, 16⟩

def discoveryContext : Context → Except Error Unit
  | .nil => .error (.external "context canceled")
  | .live => .ok ()
  | .done err => .error err

def endpointOf (now : Time) (candidate : Candidate) : EndpointCandidate :=
  { nodeID := "", address := netipToNetIP candidate.address, port := candidate.port
    family := .ipv6, interface := candidate.interface, priority := candidate.priority
    observedAt := now }

def firstCandidates (max : Int) (filtered : List Candidate) : List Candidate :=
  if 0 < max ∧ max < filtered.length then filtered.take max.toNat else filtered

def Discoverer.discover (discoverer : Discoverer) (ctx : Context) (now wall : Time)
    (port : UInt16) : Except Error (List EndpointCandidate) := do
  discoveryContext ctx
  let candidates ← discoverer.enumerate port
  let filtered := filterIPv6Candidates wall candidates now
  .ok ((firstCandidates discoverer.max filtered).map (endpointOf now))

section Kept

variable {now : Time} {candidates : List Candidate} {seen : List String}

/-- A usable candidate with no usable one of the same key before it. -/
def Leads (now : Time) (candidates : List Candidate) (candidate : Candidate) : Prop :=
  passedOver now candidate = false ∧ ∃ earlier later, candidates = earlier ++ candidate :: later ∧
    ∀ other ∈ earlier, passedOver now other = false → candidateKey other ≠ candidateKey candidate

variable {candidate : Candidate}

theorem leads_cons {first : Candidate} :
    Leads now (first :: candidates) candidate ↔
      (candidate = first ∧ passedOver now first = false) ∨ (Leads now candidates candidate ∧
        (passedOver now first = false → candidateKey first ≠ candidateKey candidate)) := by
  constructor
  · rintro ⟨usable, _ | ⟨head, earlier⟩, later, split, leads⟩
    · cases split
      exact Or.inl ⟨rfl, usable⟩
    · cases split
      obtain ⟨atFirst, leads⟩ := List.forall_mem_cons.mp leads
      exact Or.inr ⟨⟨usable, earlier, later, rfl, leads⟩, atFirst⟩
  · rintro (⟨rfl, usable⟩ | ⟨⟨usable, earlier, later, rfl, leads⟩, atFirst⟩)
    · exact ⟨usable, [], candidates, rfl, by simp⟩
    · exact ⟨usable, first :: earlier, later, rfl, List.forall_mem_cons.mpr ⟨atFirst, leads⟩⟩

theorem mem_keepCandidates :
    candidate ∈ keepCandidates now candidates seen ↔
      Leads now candidates candidate ∧ candidateKey candidate ∉ seen := by
  induction candidates generalizing seen with
  | nil => simp [keepCandidates, Leads]
  | cons first rest ih =>
    rw [keepCandidates, leads_cons]
    split_ifs with skipped known
    · simp [ih, skipped]
    · rw [ih]
      constructor
      · rintro ⟨leads, fresh⟩
        exact ⟨Or.inr ⟨leads, fun _ same => fresh (same ▸ known)⟩, fresh⟩
      · rintro ⟨⟨rfl, -⟩ | ⟨leads, -⟩, fresh⟩
        · exact absurd known fresh
        · exact ⟨leads, fresh⟩
    · rw [List.mem_cons, ih, List.mem_cons, not_or]
      constructor
      · rintro (rfl | ⟨leads, other, fresh⟩)
        · exact ⟨Or.inl ⟨rfl, Bool.eq_false_iff.mpr skipped⟩, known⟩
        · exact ⟨Or.inr ⟨leads, fun _ same => other same.symm⟩, fresh⟩
      · rintro ⟨⟨rfl, -⟩ | ⟨leads, other⟩, fresh⟩
        · exact Or.inl rfl
        · exact Or.inr ⟨leads, fun same => other (Bool.eq_false_iff.mpr skipped) same.symm, fresh⟩

theorem keepCandidates_keys (now : Time) (candidates : List Candidate) (seen : List String) :
    ((keepCandidates now candidates seen).map candidateKey).Nodup := by
  induction candidates generalizing seen with
  | nil => exact List.nodup_nil
  | cons first rest ih =>
    unfold keepCandidates
    split_ifs
    · exact ih seen
    · exact ih seen
    · refine List.nodup_cons.mpr ⟨fun listed => ?_, ih _⟩
      obtain ⟨twin, kept, same⟩ := List.mem_map.mp listed
      exact (mem_keepCandidates.mp kept).2 (same ▸ List.mem_cons_self)

theorem mem_filterIPv6Candidates {wall : Time} (nonzero : Time.isZero now = false) :
    candidate ∈ filterIPv6Candidates wall candidates now ↔ Leads now candidates candidate := by
  unfold filterIPv6Candidates
  rw [nonzero, if_neg Bool.false_ne_true, mem_sliceStable, mem_keepCandidates,
    and_iff_left List.not_mem_nil]

def rankKey (candidate : Candidate) : Int ×ₗ String ×ₗ String ×ₗ Nat :=
  toLex (candidate.priority, toLex (String.ofList candidate.address.toText,
    toLex (candidate.interface, candidate.port.toNat)))

theorem candidateLess_iff (left right : Candidate) :
    candidateLess left right = true ↔ rankKey left < rankKey right := by
  simp only [rankKey, Prod.Lex.toLex_lt_toLex, candidateLess]
  split_ifs with priority address interface
  · simp [priority]
  · have different : String.ofList left.address.toText ≠ String.ofList right.address.toText :=
      fun same => address (Addr.toText_injective (String.ofList_injective same))
    simp_all
  · simp_all
  · simp_all [UInt16.lt_iff_toNat_lt]

theorem candidateKey_of_rankKey {left right : Candidate} (same : rankKey left = rankKey right) :
    candidateKey left = candidateKey right := by
  simp only [rankKey, toLex_inj, Prod.mk.injEq] at same
  obtain ⟨-, address, interface, port⟩ := same
  rw [candidateKey, candidateKey, address, interface, port]

/-- The ranking is strict, for two kept candidates have two keys. -/
theorem filterIPv6Candidates_ranked (wall : Time) (candidates : List Candidate) (now : Time) :
    (filterIPv6Candidates wall candidates now).Pairwise fun left right =>
      candidateLess left right = true := by
  have sorted := sliceStable_sorted_by candidateLess rankKey candidateLess_iff
    (keepCandidates (if Time.isZero now then wall else now) candidates [])
  have keys := ((sliceStable_perm candidateLess _).map candidateKey).nodup_iff.mpr
    (keepCandidates_keys (if Time.isZero now then wall else now) candidates [])
  refine (sorted.and (List.pairwise_map.mp keys)).imp fun {left right} both => ?_
  rw [← Bool.not_eq_true, candidateLess_iff, not_lt] at both
  rw [candidateLess_iff]
  exact lt_of_le_of_ne both.1 fun same => both.2 (candidateKey_of_rankKey same)

theorem priority_le_of_candidateLess {left right : Candidate}
    (below : candidateLess left right = true) : left.priority ≤ right.priority := by
  rw [candidateLess_iff, rankKey, rankKey, Prod.Lex.toLex_lt_toLex] at below
  rcases below with less | ⟨same, -⟩
  · exact le_of_lt less
  · exact le_of_eq same

/-- The first sixteen of the filtered candidates, said of what was enumerated. -/
def Chosen (now : Time) (candidates : List Candidate) (candidate : Candidate) : Prop :=
  Leads now candidates candidate ∧ ∀ ahead : List Candidate, ahead.Nodup →
    (∀ other ∈ ahead, Leads now candidates other ∧ candidateLess other candidate = true) →
      ahead.length < 16

theorem firstCandidates_eq_take (filtered : List Candidate) :
    firstCandidates 16 filtered = filtered.take 16 := by
  unfold firstCandidates
  split_ifs with long
  · rfl
  · exact (List.take_of_length_le (by omega)).symm

theorem mem_firstCandidates {wall : Time} (nonzero : Time.isZero now = false) :
    candidate ∈ firstCandidates 16 (filterIPv6Candidates wall candidates now) ↔
      Chosen now candidates candidate := by
  have ranked := filterIPv6Candidates_ranked wall candidates now
  have asymmetric : ∀ left right, candidateLess left right = true →
      candidateLess right left = false := by
    intro left right
    rw [← Bool.not_eq_true, candidateLess_iff, candidateLess_iff]
    exact lt_asymm
  rw [firstCandidates_eq_take, mem_take_iff_few ranked asymmetric, Chosen]
  simp only [mem_filterIPv6Candidates nonzero]

end Kept

end Ipv6Mesh.EndpointDiscovery
