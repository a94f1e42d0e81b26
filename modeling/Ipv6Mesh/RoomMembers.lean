import Ipv6Mesh.ServiceAnswers

/-!
# The member list of a room

`projectRoomMembers` shows the local node and every peer of a snapshot. Its
comparison is the order of a key, and two entries with one key are the same
entry, so the list depends on the peers of the snapshot and not on their order.
-/

namespace Ipv6Mesh.RoomMembers

open GoText ControlModel IpcProtocol ServiceModel ServiceAnswers
open GoNet (parseIP to4 to4_length equal_of_length)
open ServicePlane (emptySnapshot plainPackages)

section Projection

variable (packages : Packages)

def nameKey (member : RoomMember) : String ×ₗ String ×ₗ String :=
  toLex (packages.toLower member.displayName, toLex (member.virtualIPv4, member.displayName))

def memberKey (member : RoomMember) : Bool ×ₗ String ×ₗ String ×ₗ String :=
  toLex (!member.isLocal, nameKey packages member)

theorem memberLess_iff (left right : RoomMember) :
    memberLess packages left right = true ↔
      memberKey packages left < memberKey packages right := by
  simp only [memberKey, nameKey, Prod.Lex.toLex_lt_toLex, memberLess]
  split_ifs with sides folded addresses
  · cases leftSide : left.isLocal <;> cases rightSide : right.isLocal <;>
      simp_all
  · simp_all
  · simp_all
  · simp_all

def localMember (joined : JoinResult) (ip : GoNet.IP) : RoomMember :=
  ⟨trimSpace joined.displayName, GoNet.text ip, true, roomMemberOnline⟩

def Shows (peer : Peer) (member : RoomMember) : Prop :=
  blank peer.displayName = false ∧ ∃ ip, to4 peer.virtualIPv4 = some ip ∧
    member = ⟨trimSpace peer.displayName, GoNet.text ip, false, roomMemberOnline⟩

variable {member : RoomMember}

theorem projectPeer_eq_some {peer : Peer} :
    projectPeer peer = some member ↔ Shows peer member := by
  unfold projectPeer Shows blank
  cases converted : to4 peer.virtualIPv4 with
  | none => simp
  | some ip =>
    by_cases hidden : trimSpace peer.displayName = ""
    · simp [hidden]
    · simp [hidden, eq_comm]

theorem Shows.remote {peer : Peer} (shown : Shows peer member) :
    member.isLocal = false ∧ member.state = roomMemberOnline := by
  obtain ⟨-, ip, -, rfl⟩ := shown
  exact ⟨rfl, rfl⟩

theorem exists_shows_iff {peer : Peer} :
    (∃ member, Shows peer member) ↔
      blank peer.displayName = false ∧ (to4 peer.virtualIPv4).isSome = true := by
  constructor
  · rintro ⟨member, named, ip, converted, -⟩
    rw [converted]
    exact ⟨named, rfl⟩
  · rintro ⟨named, some_⟩
    obtain ⟨ip, converted⟩ := Option.isSome_iff_exists.mp some_
    exact ⟨_, named, ip, converted, rfl⟩

variable {peers : List Peer} {members : List RoomMember}

theorem exists_shows (matched : List.Forall₂ Shows peers members) (listed : member ∈ members) :
    ∃ peer ∈ peers, Shows peer member := by
  have mapped : peers.mapM projectPeer = some members :=
    mapM_eq_some_iff.mpr (matched.imp fun _ _ => projectPeer_eq_some.mpr)
  obtain ⟨peer, fromSnapshot, projected⟩ := exists_of_mem_mapM mapped listed
  exact ⟨peer, fromSnapshot, projectPeer_eq_some.mp projected⟩

theorem eq_of_memberKey {left right : RoomMember} (state : left.state = right.state)
    (same : memberKey packages left = memberKey packages right) : left = right := by
  simp only [memberKey, nameKey, EmbeddingLike.apply_eq_iff_eq, Prod.mk.injEq, Bool.not_inj_iff]
    at same
  obtain ⟨side, -, address, name⟩ := same
  cases left
  cases right
  simp_all

def joinedAddress (joined : JoinResult) : Option GoNet.IP :=
  (parseIP (trimSpace joined.virtualIPv4)).bind to4

/-- What the projection checks of the join and the snapshot. -/
structure Projectable (joined : JoinResult) (snapshot : NetworkSnapshot) : Prop where
  name : blank joined.displayName = false
  network : blank joined.networkID = false
  address : (joinedAddress joined).isSome = true
  sameNetwork : snapshot.networkID = joined.networkID
  sameAddress : to4 snapshot.localVirtualIPv4 = joinedAddress joined
  peers : ∀ peer ∈ snapshot.peers,
    blank peer.displayName = false ∧ (to4 peer.virtualIPv4).isSome = true

variable {joined : JoinResult}

theorem joinedAddress_length {ip : GoNet.IP} (address : joinedAddress joined = some ip) :
    ip.length = 4 := by
  obtain ⟨_, -, converted⟩ := Option.bind_eq_some_iff.mp address
  exact to4_length converted

theorem exists_shown :
    (∃ shown, List.Forall₂ Shows peers shown) ↔
      ∀ peer ∈ peers, blank peer.displayName = false ∧ (to4 peer.virtualIPv4).isSome = true := by
  simp only [← exists_shows_iff]
  induction peers with
  | nil => exact iff_of_true ⟨[], .nil⟩ (by simp)
  | cons peer peers ih =>
    rw [List.forall_mem_cons, ← ih]
    constructor
    · rintro ⟨shown, matched⟩
      obtain ⟨_, _, here, later, -⟩ := List.forall₂_cons_left_iff.mp matched
      exact ⟨⟨_, here⟩, _, later⟩
    · rintro ⟨⟨_, here⟩, _, later⟩
      exact ⟨_, .cons here later⟩

theorem projectRoomMembers_eq_some {snapshot : NetworkSnapshot} :
    projectRoomMembers packages joined snapshot = some members ↔
      Projectable joined snapshot ∧ ∃ ip shown, joinedAddress joined = some ip ∧
        List.Forall₂ Shows snapshot.peers shown ∧
        members = sliceStable (memberLess packages) (localMember joined ip :: shown) := by
  rw [projectRoomMembers, ← joinedAddress]
  simp only [Option.bind_eq_bind, Option.bind_eq_some_iff, Option.guard_eq_some', exists_const,
    mapM_eq_some_iff, projectPeer_eq_some, Option.some.injEq]
  constructor
  · rintro ⟨ip, address, ⟨named, network⟩, sameNetwork, localIP, converted, same, shown, matched,
      rfl⟩
    rw [equal_of_length (to4_length converted) (joinedAddress_length address), decide_eq_true_eq]
      at same
    refine ⟨⟨decide_eq_false named, network, ?_, sameNetwork, ?_, exists_shown.mp ⟨_, matched⟩⟩,
      ip, shown, address, matched, rfl⟩
    · rw [address]
      rfl
    · rw [address, converted, same]
  · rintro ⟨fits, ip, shown, address, matched, rfl⟩
    exact ⟨ip, address, ⟨of_decide_eq_false fits.name, fits.network⟩, fits.sameNetwork, ip,
      fits.sameAddress.trans address, GoNet.equal_refl ip, shown, matched, rfl⟩

theorem sliceStable_localMember {ip : GoNet.IP} {shown : List RoomMember}
    (matched : List.Forall₂ Shows peers shown) :
    sliceStable (memberLess packages) (localMember joined ip :: shown) =
      localMember joined ip :: sliceStable (memberLess packages) shown := by
  refine sliceStable_cons_of_first _ fun member listed => ?_
  obtain ⟨peer, -, shows_⟩ := exists_shows matched listed
  simp [memberLess, localMember, shows_.remote.1]

/-- The local member, then the peers by name, each of them valid. -/
structure Canonical (joined : JoinResult) (snapshot : NetworkSnapshot)
    (members : List RoomMember) : Prop where
  entries : ∃ ip shown rest, joinedAddress joined = some ip ∧
    List.Forall₂ Shows snapshot.peers shown ∧ members = localMember joined ip :: rest ∧
    rest.Perm shown ∧ rest.Pairwise fun left right => nameKey packages left ≤ nameKey packages right
  oneLocal : members.countP (·.isLocal) = 1
  valid : ∀ member ∈ members, validateRoomMember member = .ok ()

theorem canonical_of_projected {snapshot : NetworkSnapshot}
    (projected : projectRoomMembers packages joined snapshot = some members) :
    Canonical packages joined snapshot members := by
  have valid := (projectRoomMembers_valid projected).2.2
  obtain ⟨-, ip, shown, address, matched, rfl⟩ := (projectRoomMembers_eq_some packages).mp projected
  rw [sliceStable_localMember packages matched] at valid ⊢
  have remote : ∀ member ∈ sliceStable (memberLess packages) shown, member.isLocal = false := by
    intro member listed
    obtain ⟨peer, -, shows_⟩ := exists_shows matched ((mem_sliceStable _).mp listed)
    exact shows_.remote.1
  refine ⟨⟨ip, shown, _, address, matched, rfl, sliceStable_perm _ shown, ?_⟩, ?_, valid⟩
  · have sorted := sliceStable_sorted_by _ (memberKey packages) (memberLess_iff packages) shown
    refine sorted.imp_of_mem fun {left right} leftListed rightListed below => ?_
    rw [← Bool.not_eq_true, memberLess_iff, not_lt, memberKey, memberKey,
      remote left leftListed, remote right rightListed, Prod.Lex.toLex_le_toLex] at below
    exact (below.resolve_left (lt_irrefl _)).2
  · rw [List.countP_cons_of_pos rfl, List.countP_eq_zero.mpr]
    intro member listed
    rw [remote member listed]
    exact Bool.false_ne_true

theorem projected_of_perm (snapshot : NetworkSnapshot) (same : peers.Perm snapshot.peers)
    (projected : projectRoomMembers packages joined snapshot = some members) :
    projectRoomMembers packages joined { snapshot with peers } = some members := by
  obtain ⟨fits, ip, shown, address, matched, rfl⟩ :=
    (projectRoomMembers_eq_some packages).mp projected
  obtain ⟨reordered, alsoMatched, sameShown⟩ := List.perm_comp_forall₂ same matched
  refine (projectRoomMembers_eq_some packages).mpr ⟨⟨fits.name, fits.network, fits.address,
    fits.sameNetwork, fits.sameAddress, exists_shown.mp ⟨reordered, alsoMatched⟩⟩, ip, reordered,
    address, alsoMatched, ?_⟩
  rw [sliceStable_localMember packages matched, sliceStable_localMember packages alsoMatched]
  refine congrArg _ (sliceStable_eq_of_perm _ (memberKey packages) (memberLess_iff packages)
    sameShown.symm fun left leftListed right rightListed => eq_of_memberKey packages ?_)
  obtain ⟨_, -, leftShows⟩ := exists_shows matched leftListed
  obtain ⟨_, -, rightShows⟩ := exists_shows matched rightListed
  rw [leftShows.remote.2, rightShows.remote.2]

/-- The member list is complete, ordered and independent of the order in which
the snapshot lists its peers, and it exists exactly when everything it shows
can be shown. -/
theorem member_list_canonical (joined : JoinResult) (snapshot : NetworkSnapshot) :
    ((projectRoomMembers packages joined snapshot).isSome = true ↔
        Projectable joined snapshot) ∧
      (∀ members, projectRoomMembers packages joined snapshot = some members →
        Canonical packages joined snapshot members) ∧
      ∀ peers, peers.Perm snapshot.peers →
        projectRoomMembers packages joined { snapshot with peers } =
          projectRoomMembers packages joined snapshot := by
  refine ⟨?_, fun members => canonical_of_projected packages, fun peers same => ?_⟩
  · rw [Option.isSome_iff_exists]
    constructor
    · rintro ⟨members, projected⟩
      exact ((projectRoomMembers_eq_some packages).mp projected).1
    · intro fits
      obtain ⟨ip, address⟩ := Option.isSome_iff_exists.mp fits.address
      obtain ⟨shown, matched⟩ := exists_shown.mpr fits.peers
      exact ⟨_, (projectRoomMembers_eq_some packages).mpr
        ⟨fits, ip, shown, address, matched, rfl⟩⟩
  · exact Option.ext fun members => ⟨projected_of_perm packages { snapshot with peers } same.symm,
      projected_of_perm packages snapshot same⟩

end Projection

def namedPeer (name : String) (host : UInt8) : Peer where
  nodeID := name
  displayName := name
  publicKey := "key"
  virtualIPv4 := [10, 0, 0, host]
  node := ⟨name, name, "key", "windows", "1", 1⟩
  membership := ⟨"net", name, [10, 0, 0, host], .member, .active⟩
  endpoints := []

def sameNames : NetworkSnapshot :=
  { emptySnapshot with peers := [namedPeer "desk" 3, namedPeer " Desk" 2, namedPeer "DESK" 2] }

def foldingPackages : Packages :=
  { plainPackages with toLower := fun text => String.ofList (text.toList.map Char.toLower) }

theorem same_names_listed_canonically :
    projectRoomMembers foldingPackages ⟨"desk", "net", "10.0.0.1", 1⟩ sameNames =
        some [⟨"desk", "10.0.0.1", true, "online"⟩, ⟨"DESK", "10.0.0.2", false, "online"⟩,
          ⟨"Desk", "10.0.0.2", false, "online"⟩, ⟨"desk", "10.0.0.3", false, "online"⟩] ∧
      projectRoomMembers foldingPackages ⟨"desk", "net", "10.0.0.1", 1⟩
          { sameNames with peers := sameNames.peers.reverse } =
        projectRoomMembers foldingPackages ⟨"desk", "net", "10.0.0.1", 1⟩ sameNames :=
  ⟨by decide +kernel, (member_list_canonical foldingPackages ⟨"desk", "net", "10.0.0.1", 1⟩
    sameNames).2.2 _ (List.reverse_perm _)⟩

end Ipv6Mesh.RoomMembers
