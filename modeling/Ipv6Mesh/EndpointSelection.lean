import Ipv6Mesh.GoNetText
import Ipv6Mesh.ReconcilePlan

/-!
# The endpoint chosen for a peer

`selectEndpoint` sorts what it can use of the candidates and takes the first.
The comparison is the order of a key, and candidates with one key stand for one
address and port, so the choice depends on the set of candidates alone.
-/

namespace Ipv6Mesh.EndpointSelection

open GoText GoNet ControlModel ReconcilePlan

theorem hexValue_isSome_of_mem_hexString {bytes : IP} {character : Char}
    (member : character ∈ hexString bytes) : (hexValue character).isSome = true := by
  obtain ⟨byte, -, digit⟩ := List.mem_flatMap.mp member
  simp only [List.mem_cons, List.not_mem_nil, or_false] at digit
  rcases digit with rfl | rfl <;> exact isHex_hexDigit _

theorem parseAddr_of_no_separator {source : String}
    (free : ∀ character ∈ source.toList, character ≠ '.' ∧ character ≠ ':' ∧ character ≠ '%') :
    parseAddr source = none := by
  have none : source.toList.find? (fun character =>
      character = '.' ∨ character = ':' ∨ character = '%') = none := by
    rw [List.find?_eq_none]
    intro character member wanted
    obtain ⟨dot, colon, percent⟩ := free character member
    rcases of_decide_eq_true wanted with same | same | same
    · exact dot same
    · exact colon same
    · exact percent same
  rw [parseAddr, none]

theorem parseAddr_text_none {ip : IP} (sized : to16 ip = none) : parseAddr (text ip) = none := by
  cases ip with
  | nil => decide +kernel
  | cons byte rest =>
    unfold to16 at sized
    split_ifs at sized with four sixteen
    have unconverted : to4 (byte :: rest) = none := by
      rw [to4, if_neg four, if_neg fun both => sixteen both.1]
    have shape : text (byte :: rest) = "?" ++ String.ofList (hexString (byte :: rest)) := by
      simp only [text, unconverted]
      rw [if_neg sixteen]
    refine parseAddr_of_no_separator fun character member => ?_
    rw [shape, String.toList_append] at member
    rcases List.mem_append.mp member with mark | digit
    · obtain rfl := List.mem_singleton.mp mark
      decide
    · rw [String.toList_ofList] at digit
      have hex := hexValue_isSome_of_mem_hexString digit
      refine ⟨?_, ?_, ?_⟩ <;> rintro rfl <;> revert hex <;> decide

/-- A global unicast address of the declared family, with a port, a time and a
priority that is not negative. -/
structure Usable (candidate : EndpointCandidate) : Prop where
  sized : (to16 candidate.address).isSome = true
  unicast : (addrOf candidate.address).isGlobalUnicast = true
  family : (candidate.family = .ipv6 ∧ (addrOf candidate.address).is6 = true) ∨
    (candidate.family = .ipv4 ∧ (addrOf candidate.address).is4 = true)
  port : candidate.port ≠ 0
  observed : Time.isZero candidate.observedAt = false
  priority : 0 ≤ candidate.priority

def offerOf (candidate : EndpointCandidate) : EndpointChoice :=
  { address := ⟨addrOf candidate.address, candidate.port⟩
    family := if candidate.family = .ipv6 then 0 else 1
    priority := candidate.priority
    observed := candidate.observedAt }

theorem isGlobalUnicast_excludes {addr : Addr} (unicast : addr.isGlobalUnicast = true) :
    addr.isUnspecified = false ∧ addr.isLoopback = false ∧ addr.isLinkLocalUnicast = false ∧
      addr.isMulticast = false := by
  unfold Addr.isGlobalUnicast at unicast
  split_ifs at unicast with invalid broadcast
  simp only [Bool.and_eq_true, Bool.not_eq_true', decide_eq_true_eq] at unicast
  obtain ⟨⟨⟨specified, loopback⟩, multicast⟩, linkLocal⟩ := unicast
  refine ⟨?_, loopback, linkLocal, multicast⟩
  by_contra unspecified
  rw [Bool.not_eq_false, Addr.isUnspecified, Bool.or_eq_true, decide_eq_true_eq,
    decide_eq_true_eq] at unspecified
  rcases unspecified with rfl | rfl
  · exact broadcast rfl
  · exact specified rfl

variable {candidate : EndpointCandidate}

theorem choiceOf_of_sized {long : IP} (sized : to16 candidate.address = some long) :
    choiceOf candidate =
      if candidate.port = 0 ∨ Time.isZero candidate.observedAt ∨ candidate.priority < 0 then none
      else if (addrOf candidate.address).isGlobalUnicast = false then none
      else if candidate.family = .ipv6 ∧ (addrOf candidate.address).is6 then
        some (offerOf candidate)
      else if candidate.family = .ipv4 ∧ (addrOf candidate.address).is4 then
        some (offerOf candidate)
      else none := by
  have present : candidate.address ≠ [] := by
    intro empty
    rw [empty] at sized
    cases sized
  unfold choiceOf
  simp only [present, false_or, parseAddr_text sized, Option.bind_eq_bind, Option.bind_some]
  by_cases unicast : (addrOf candidate.address).isGlobalUnicast = true
  · obtain ⟨unspecified, loopback, linkLocal, multicast⟩ := isGlobalUnicast_excludes unicast
    simp only [unspecified, loopback, linkLocal, multicast, unicast, Bool.or_self, Bool.not_true,
      Bool.false_eq_true, Bool.true_eq_false, if_false]
    split_ifs with unfit six four
    · rfl
    · simp [offerOf, six.1]
    · simp [offerOf, four.1]
    · rfl
  · rw [Bool.not_eq_true] at unicast
    simp [unicast]

theorem choiceOf_eq_some {choice : EndpointChoice} :
    choiceOf candidate = some choice ↔ Usable candidate ∧ choice = offerOf candidate := by
  cases sized : to16 candidate.address with
  | none =>
    have unread : choiceOf candidate = none := by
      unfold choiceOf
      rw [parseAddr_text_none sized]
      split_ifs <;> rfl
    rw [unread]
    refine iff_of_false (by simp) fun usable => ?_
    have some_ := usable.1.sized
    rw [sized] at some_
    cases some_
  | some long =>
    rw [choiceOf_of_sized sized]
    constructor
    · intro chosen
      split_ifs at chosen with unfit unicast six four
      all_goals
        push Not at unfit
        obtain ⟨port, observed, priority⟩ := unfit
        cases Option.some.inj chosen
        refine ⟨⟨by rw [sized]; rfl, Bool.not_eq_false _ ▸ unicast, ?_, port,
          Bool.eq_false_iff.mpr observed, priority⟩, rfl⟩
      · exact Or.inl six
      · exact Or.inr four
    · rintro ⟨usable, rfl⟩
      have unfit : ¬(candidate.port = 0 ∨ Time.isZero candidate.observedAt ∨
          candidate.priority < 0) := by
        rintro (port | zero | negative)
        · exact usable.port port
        · rw [usable.observed] at zero
          cases zero
        · exact absurd usable.priority (not_le.mpr negative)
      rw [if_neg unfit, if_neg (by rw [usable.unicast]; decide)]
      rcases usable.family with six | four
      · rw [if_pos six]
      · rw [if_neg (by rw [four.1]; simp), if_pos four]

def choiceKey (choice : EndpointChoice) : Nat ×ₗ Int ×ₗ Int ×ₗ String :=
  toLex (choice.family, toLex (choice.priority,
    toLex (-choice.observed, choice.address.toText)))

theorem choiceLess_iff (left right : EndpointChoice) :
    choiceLess left right = true ↔ choiceKey left < choiceKey right := by
  simp only [choiceKey, Prod.Lex.toLex_lt_toLex, choiceLess]
  split_ifs with family priority observed
  · simp [family]
  · simp_all
  · have different : -left.observed ≠ -right.observed := fun same => observed (neg_inj.mp same)
    simp_all
  · simp_all

theorem choiceKey_le {left right : EndpointChoice} (below : choiceKey left ≤ choiceKey right) :
    left.family ≤ right.family ∧ (left.family = right.family →
      left.priority ≤ right.priority ∧ (left.priority = right.priority →
        right.observed ≤ left.observed)) := by
  simp only [choiceKey, Prod.Lex.toLex_le_toLex] at below
  rcases below with family | ⟨family, priority | ⟨priority, observed⟩⟩
  · exact ⟨family.le, fun same => absurd same family.ne⟩
  · exact ⟨family.le, fun _ => ⟨priority.le, fun same => absurd same priority.ne⟩⟩
  · refine ⟨family.le, fun _ => ⟨priority.le, fun _ => ?_⟩⟩
    rcases observed with later | ⟨same, -⟩
    · exact (neg_lt_neg_iff.mp later).le
    · exact (neg_inj.mp same).ge

def relayOffer (peer : Peer) (relay : Option RelayAssignment) : List EndpointCandidate :=
  match relay with
  | some assignment =>
    if assignment.status = .active ∧ assignment.relayNodeID = peer.nodeID then
      [{ nodeID := peer.nodeID, address := assignment.address, port := assignment.port,
         family := assignment.family, interface := "relay", priority := 0,
         observedAt := assignment.assignedAt }]
    else []
  | none => []

def offered (peer : Peer) (relay : Option RelayAssignment) : List EndpointCandidate :=
  peer.endpoints ++ relayOffer peer relay

theorem filterMap_relayCandidate (peer : Peer) (relay : Option RelayAssignment) :
    (relayCandidate peer relay).filterMap choiceOf =
      (relayOffer peer relay).filterMap choiceOf := by
  cases relay with
  | none => rfl
  | some assignment =>
    simp only [relayCandidate, relayOffer]
    by_cases named : assignment.status = .active ∧ assignment.relayNodeID = peer.nodeID
    · by_cases given : assignment.address ≠ [] ∧ assignment.port ≠ 0
      · rw [if_pos ⟨named.1, named.2, given⟩, if_pos named]
      · rw [if_neg fun all => given all.2.2, if_pos named]
        have missing : assignment.address = [] ∨ assignment.port = 0 := by
          by_contra both
          push Not at both
          exact given both
        rcases missing with address | port
        · simp [choiceOf, address]
        · simp [choiceOf, port]
    · rw [if_neg fun all => named ⟨all.1, all.2.1⟩, if_neg named]

theorem mem_choices {peer : Peer} {relay : Option RelayAssignment} {choice : EndpointChoice} :
    choice ∈ (peer.endpoints ++ relayCandidate peer relay).filterMap choiceOf ↔
      ∃ candidate ∈ offered peer relay, Usable candidate ∧ choice = offerOf candidate := by
  rw [List.filterMap_append, filterMap_relayCandidate, ← List.filterMap_append,
    List.mem_filterMap]
  simp only [choiceOf_eq_some, offered]

theorem selectEndpoint_cases (peer : Peer) (relay : Option RelayAssignment) :
    (selectEndpoint peer relay = AddrPort.zero ∧
        ∀ candidate ∈ offered peer relay, ¬Usable candidate) ∨
      ∃ chosen ∈ offered peer relay, Usable chosen ∧
        selectEndpoint peer relay = (offerOf chosen).address ∧
        ∀ other ∈ offered peer relay, Usable other →
          choiceKey (offerOf chosen) ≤ choiceKey (offerOf other) := by
  unfold selectEndpoint
  cases sorted : sliceStable choiceLess
      ((peer.endpoints ++ relayCandidate peer relay).filterMap choiceOf) with
  | nil =>
    refine Or.inl ⟨rfl, fun candidate listed usable => ?_⟩
    have member := (mem_sliceStable choiceLess).mpr
      (mem_choices.mpr ⟨candidate, listed, usable, rfl⟩)
    rw [sorted] at member
    cases member
  | cons first rest =>
    obtain ⟨member, least⟩ := sliceStable_head_le choiceLess choiceKey choiceLess_iff sorted
    obtain ⟨chosen, listed, usable, rfl⟩ := mem_choices.mp member
    exact Or.inr ⟨chosen, listed, usable, rfl, fun other otherListed otherUsable =>
      least _ (mem_choices.mpr ⟨other, otherListed, otherUsable, rfl⟩)⟩

theorem addrOf_zone (ip : IP) : (addrOf ip).zone = "" := by
  unfold addrOf
  split <;> rfl

theorem Usable.isValid (usable : Usable candidate) :
    (offerOf candidate).address.isValid = true := by
  have unicast := usable.unicast
  refine decide_eq_true fun invalid => ?_
  have shape : addrOf candidate.address = .invalid := invalid
  rw [shape] at unicast
  cases unicast

theorem Usable.address_ne_zero (usable : Usable candidate) :
    (offerOf candidate).address ≠ AddrPort.zero := by
  intro zero
  have valid := usable.isValid
  rw [zero] at valid
  cases valid

theorem address_eq_of_key {left right : EndpointCandidate} (leftUsable : Usable left)
    (rightUsable : Usable right)
    (same : choiceKey (offerOf left) = choiceKey (offerOf right)) :
    (offerOf left).address = (offerOf right).address := by
  have texts : (offerOf left).address.toText = (offerOf right).address.toText := by
    simp only [choiceKey, EmbeddingLike.apply_eq_iff_eq, Prod.mk.injEq] at same
    exact same.2.2.2
  exact AddrPort.toText_injective leftUsable.isValid rightUsable.isValid
    (addrOf_zone left.address) (addrOf_zone right.address) texts

theorem Usable.is6_iff (usable : Usable candidate) :
    (offerOf candidate).family = 0 ↔ (offerOf candidate).address.addr.is6 = true := by
  unfold offerOf
  rcases usable.family with ⟨family, six⟩ | ⟨family, four⟩
  · simp [family, six]
  · have notSix : (addrOf candidate.address).is6 = false := by
      cases shape : addrOf candidate.address <;> rw [shape] at four <;> first | rfl | cases four
    simp [family, notSix]

theorem selectEndpoint_perm (peer : Peer) (relay : Option RelayAssignment)
    {endpoints : List EndpointCandidate} (permuted : endpoints.Perm peer.endpoints) :
    selectEndpoint { peer with endpoints := endpoints } relay = selectEndpoint peer relay := by
  have members : ∀ candidate, candidate ∈ offered { peer with endpoints := endpoints } relay ↔
      candidate ∈ offered peer relay := fun candidate =>
    (permuted.append_right (relayOffer peer relay)).mem_iff
  rcases selectEndpoint_cases { peer with endpoints := endpoints } relay with
    ⟨zero, none⟩ | ⟨left, leftListed, leftUsable, leftChosen, leftLeast⟩
  · rcases selectEndpoint_cases peer relay with ⟨alsoZero, -⟩ | ⟨right, listed, usable, -⟩
    · rw [zero, alsoZero]
    · exact absurd usable (none right ((members right).mpr listed))
  · rcases selectEndpoint_cases peer relay with
      ⟨-, none⟩ | ⟨right, rightListed, rightUsable, rightChosen, rightLeast⟩
    · exact absurd leftUsable (none left ((members left).mp leftListed))
    · have below := leftLeast right ((members right).mpr rightListed) rightUsable
      have above := rightLeast left ((members left).mp leftListed) leftUsable
      rw [leftChosen, rightChosen]
      exact address_eq_of_key leftUsable rightUsable (le_antisymm below above)

/-- The endpoint of a peer depends on the set of its candidates, exists when one is
usable, is IPv6 when an IPv6 candidate is, and is the best of its family. -/
theorem selectEndpoint_optimal (peer : Peer) (relay : Option RelayAssignment) :
    (∀ endpoints : List EndpointCandidate, endpoints.Perm peer.endpoints →
        selectEndpoint { peer with endpoints := endpoints } relay = selectEndpoint peer relay) ∧
      (selectEndpoint peer relay = AddrPort.zero ↔
        ∀ candidate ∈ offered peer relay, ¬Usable candidate) ∧
      ((∃ candidate ∈ offered peer relay, Usable candidate ∧ candidate.family = .ipv6) →
        (selectEndpoint peer relay).addr.is6 = true) ∧
      (selectEndpoint peer relay ≠ AddrPort.zero →
        ∃ chosen ∈ offered peer relay, Usable chosen ∧
          selectEndpoint peer relay = ⟨addrOf chosen.address, chosen.port⟩ ∧
          ∀ other ∈ offered peer relay, Usable other → other.family = chosen.family →
            chosen.priority ≤ other.priority ∧
              (other.priority = chosen.priority → other.observedAt ≤ chosen.observedAt)) := by
  refine ⟨fun endpoints permuted => selectEndpoint_perm peer relay permuted, ?_⟩
  rcases selectEndpoint_cases peer relay with ⟨zero, none⟩ |
    ⟨chosen, listed, usable, selected, least⟩
  · refine ⟨iff_of_true zero none, ?_, fun nonzero => absurd zero nonzero⟩
    rintro ⟨candidate, candidateListed, candidateUsable, -⟩
    exact absurd candidateUsable (none candidate candidateListed)
  · refine ⟨iff_of_false ?_ fun none => none chosen listed usable, ?_, fun _ => ?_⟩
    · rw [selected]
      exact usable.address_ne_zero
    · rintro ⟨candidate, candidateListed, candidateUsable, six⟩
      have below := (choiceKey_le (least candidate candidateListed candidateUsable)).1
      have first : (offerOf candidate).family = 0 := if_pos six
      rw [selected, ← usable.is6_iff]
      omega
    · refine ⟨chosen, listed, usable, selected, fun other otherListed otherUsable family => ?_⟩
      have sameFamily : (offerOf chosen).family = (offerOf other).family := by
        simp only [offerOf, family]
      obtain ⟨priority, observed⟩ :=
        (choiceKey_le (least other otherListed otherUsable)).2 sameFamily
      exact ⟨priority, fun same => observed same.symm⟩

end Ipv6Mesh.EndpointSelection
