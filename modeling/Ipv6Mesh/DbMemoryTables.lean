import Ipv6Mesh.DbTables
import Ipv6Mesh.DbVersions

/-!
# The memory repository refines the tables

Each operation of `MemoryRepository` is the mutation of the tables that its
maps stand for. The maps are read through `content`, so an operation's proof
says which keys it rewrites and leaves the sets of rows to the table library.
-/

namespace Ipv6Mesh.DbMemoryTables

open GoText GoNet GoCidr GoMap ControlModel ControlValidation DbMemory DbOperations DbIntegrity
  DbRuns DbVersions DbRows DbTables
open SqlTable hiding content
open PostgresRepository (networkChecks membershipChecks inviteChecks scanInviteRow)

variable {repository after : MemoryRepository}
variable {value : String}

theorem fresh_iff {Value Row : Type} {records : GoMap Value} {index : GoMap String}
    {rowOf : Value → Row} {identifier column : Row → String} {field : Value → String}
    (named : Named (fun key : String => records[key]?) rowOf identifier)
    (indexed : Indexed index records field) (written : ∀ value, column (rowOf value) = field value)
    {key : String} :
    (∀ row ∈ SqlTable.content (fun key : String => records[key]?) rowOf,
        identifier row ≠ key ∧ column row ≠ value) ↔
      records[key]? = none ∧ index[value]? = none := by
  simp only [Option.eq_none_iff_forall_ne_some]
  constructor
  · intro fresh
    refine ⟨fun stored lookup => ?_, fun owner lookup => ?_⟩
    · exact (fresh (rowOf stored) ⟨key, stored, lookup, rfl⟩).1 (named key stored lookup)
    · obtain ⟨stored, found, same⟩ := (indexed value owner).mp lookup
      exact (fresh (rowOf stored) ⟨owner, stored, found, rfl⟩).2 ((written stored).trans same)
  · intro free row member
    obtain ⟨stored, lookup, rfl⟩ := named.mem.mp member
    refine ⟨fun same => free.1 stored (same ▸ lookup), fun same =>
      free.2 (identifier (rowOf stored)) ?_⟩
    exact (indexed value _).mpr ⟨stored, lookup, (written stored).symm.trans same⟩

variable {nodeID networkID : String}

section Reading

variable (sound : Integrity repository)
include sound

theorem nodes_named :
    Named (fun nodeID : String => repository.nodes[nodeID]?) nodeRow NodeRow.id :=
  sound.nodes.named

theorem networks_named :
    Named (fun networkID : String => repository.networks[networkID]?) networkRow NetworkRow.id :=
  sound.networks

theorem invites_named :
    Named (fun inviteID : String => repository.invites[inviteID]?) inviteRow InviteRow.id :=
  sound.invites.named

theorem memberships_named :
    Named (fun key : String × String => repository.membership? key.1 key.2) membershipRow
      fun row => (row.networkID, row.nodeID) := fun key membership stored =>
  have named := sound.memberships.named key.1 key.2 membership stored
  Prod.ext named.1 named.2

theorem relays_named :
    Named (fun key : String × String => repository.relayAssignment? key.1 key.2) relayRow
      fun row => (row.networkID, row.nodeID) := fun key assignment stored =>
  have named := sound.relays.named key.1 key.2 assignment stored
  Prod.ext named.1 named.2

theorem hasNode_iff :
    (memoryTables repository).HasNode nodeID ↔ ∃ node, repository.nodes[nodeID]? = some node := by
  have present := (nodes_named sound).exists_iff nodeID fun _ => True
  simp only [and_true] at present
  exact present

theorem hasNetwork_iff :
    (memoryTables repository).HasNetwork networkID ↔
      ∃ network, repository.networks[networkID]? = some network := by
  have present := (networks_named sound).exists_iff networkID fun _ => True
  simp only [and_true] at present
  exact present

theorem activeMembership_iff :
    (memoryTables repository).ActiveMembership networkID nodeID ↔
      ∃ membership, repository.membership? networkID nodeID = some membership ∧
        membership.status = .active := by
  have present := (memberships_named sound).exists_iff (networkID, nodeID) (·.status = .active)
  simp only [Prod.mk.injEq, and_assoc] at present
  exact present

theorem hasMembership_iff :
    (memoryTables repository).HasMembership networkID nodeID ↔
      ∃ membership, repository.membership? networkID nodeID = some membership := by
  have present := (memberships_named sound).exists_iff (networkID, nodeID) fun _ => True
  simp only [Prod.mk.injEq, and_true] at present
  exact present

theorem consumerKnown_iff :
    (memoryTables repository).ConsumerKnown nodeID ↔
      unknownConsumer repository nodeID = false := by
  rw [unknownConsumer_eq_false, Tables.ConsumerKnown, hasNode_iff sound]

theorem consistent_of_integrity : Consistent (memoryTables repository) where
  network := (networks_named sound).unique
  member left leftMember right rightMember network node :=
    (memberships_named sound).unique left leftMember right rightMember (Prod.ext network node)
  memberNetwork row member := by
    obtain ⟨membership, stored, rfl⟩ := (memberships_named sound).mem.mp member
    obtain ⟨network, lookup, -⟩ := sound.memberships.pool _ _ _ stored
    exact (hasNetwork_iff sound).mpr ⟨network, lookup⟩
  memberNode row member := by
    obtain ⟨membership, stored, rfl⟩ := (memberships_named sound).mem.mp member
    exact (hasNode_iff sound).mpr (sound.memberships.node _ _ _ stored)
  invite := (invites_named sound).unique
  token left leftMember right rightMember same := by
    obtain ⟨leftInvite, leftStored, rfl⟩ := (invites_named sound).mem.mp leftMember
    obtain ⟨rightInvite, rightStored, rfl⟩ := (invites_named sound).mem.mp rightMember
    -- both identifiers are what the token index holds under the one token
    have leftIndexed := (sound.invites.indexed _ _).mpr ⟨leftInvite, leftStored, rfl⟩
    have rightIndexed := (sound.invites.indexed _ _).mpr ⟨rightInvite, rightStored, rfl⟩
    rw [show leftInvite.tokenHash = rightInvite.tokenHash from same, rightIndexed] at leftIndexed
    rw [Option.some.inj leftIndexed, leftStored] at rightStored
    rw [Option.some.inj rightStored]
  relay left leftMember right rightMember network node :=
    (relays_named sound).unique left leftMember right rightMember (Prod.ext network node)
  relayTarget row member := by
    obtain ⟨assignment, stored, rfl⟩ := (relays_named sound).mem.mp member
    obtain ⟨membership, lookup, -⟩ := sound.relays.target _ _ _ stored
    exact (hasMembership_iff sound).mpr ⟨membership, lookup⟩
  relayRelay row member := by
    obtain ⟨assignment, stored, rfl⟩ := (relays_named sound).mem.mp member
    obtain ⟨-, membership, lookup, -⟩ := sound.relays.relay _ _ _ stored
    exact (hasMembership_iff sound).mpr ⟨membership, lookup⟩

end Reading

def Counting (tables : Tables) : Prop :=
  ∀ row ∈ tables.networks, 0 < row.configVersion ∧ row.configVersion < maxInt64

theorem networkRow_bumped {network : Network} (positive : 0 < network.configVersion)
    (below : network.configVersion < maxInt64) :
    networkRow (bumped network) = nextVersion (networkRow network) := by
  have next : (bumped network).configVersion = network.configVersion + 1 :=
    nextConfigVersion_of_range positive below
  rw [networkRow, next]
  rfl

section Increments

variable (sound : Integrity repository) (counting : Counting (memoryTables repository))
  {base : MemoryRepository}
include sound counting

theorem memoryTables_increments {networkIDs : List String} (distinct : networkIDs.Nodup)
    (present : ∀ networkID ∈ networkIDs, ∃ network,
      repository.networks[networkID]? = some network)
    (kept : base.networks = repository.networks) :
    memoryTables (networkIDs.foldl incrementNetworkVersionLocked base) =
      Tables.bump (· ∈ networkIDs) (memoryTables base) := by
  have rewritten : ∀ networkID : String,
      (networkIDs.foldl incrementNetworkVersionLocked base).networks[networkID]? =
        base.networks[networkID]?.map fun network : Network =>
          if networkID ∈ networkIDs then bumped network else network := by
    intro networkID
    rw [foldl_increment_networks distinct, kept]
    by_cases listed : networkID ∈ networkIDs
    · obtain ⟨network, stored⟩ := present networkID listed
      simp [listed, stored, Std.ExtTreeMap.getD_eq_getD_getElem?]
    · simp [listed]
  rw [foldl_increment_eq]
  refine congrArg (fun rows => { memoryTables base with networks := rows })
    (content_update (fun row => row.id ∈ networkIDs) nextVersion rewritten ?_)
  intro networkID network stored
  rw [kept] at stored
  obtain ⟨positive, below⟩ := counting (networkRow network) ⟨networkID, network, stored, rfl⟩
  rw [show (networkRow network).id = networkID from sound.networks networkID network stored]
  by_cases listed : networkID ∈ networkIDs
  · left
    rw [if_pos listed]
    exact ⟨listed, networkRow_bumped positive below⟩
  · right
    rw [if_neg listed]
    exact ⟨listed, rfl⟩

theorem memoryTables_increment (present : ∃ network, repository.networks[networkID]? = some network)
    (kept : base.networks = repository.networks) :
    memoryTables (incrementNetworkVersionLocked base networkID) =
      Tables.bump (· = networkID) (memoryTables base) := by
  have one := memoryTables_increments sound counting (List.nodup_singleton networkID)
    (List.forall_mem_singleton.mpr present) kept
  rw [List.foldl_cons, List.foldl_nil] at one
  rw [one]
  exact bump_congr fun row _ => List.mem_singleton

end Increments

theorem validateNetwork_version {network : Network} (valid : validateNetwork network = .ok ()) :
    0 ≤ network.configVersion := by
  simp only [validateNetwork, required, invalidWhen_bind_ok] at valid
  simpa using valid.2.2.2.2.2.2.1

theorem memoryTables_refused {op : Op} {err : Error}
    (failed : op.apply repository = (.error err, after)) :
    memoryTables after = memoryTables repository := by
  rcases apply_error failed with rfl | ⟨networkID, rfl⟩
  · rfl
  · have relays : SqlTable.content (fun key : String × String =>
          (prepareRelayAssignments repository networkID).relayAssignment? key.1 key.2) relayRow =
        (memoryTables repository).relayAssignments :=
      content_congr fun key => prepare_relayAssignment? repository networkID key.1 key.2
    rw [prepare_frame] at relays ⊢
    exact congrArg (fun rows => { memoryTables repository with relayAssignments := rows }) relays

def PoolsValid (networks : GoMap Network) : Prop :=
  ∀ (networkID : String) (network : Network), networks[networkID]? = some network →
    poolIsCanonical (parseCIDR network.ipv4Pool) = true ∧
      poolHasMask32 (parseCIDR network.ipv4Pool) = true

theorem parseCIDR_networkRow {network : Network}
    (canonical : poolIsCanonical (parseCIDR network.ipv4Pool) = true)
    (mask32 : poolHasMask32 (parseCIDR network.ipv4Pool) = true) :
    parseCIDR (cidrText (networkRow network).ipv4Pool) = parseCIDR network.ipv4Pool := by
  obtain ⟨value, bits, read, bounded, parsed⟩ := pool_stored canonical mask32
  rw [networkRow, read, Option.getD_some, parseCIDR_cidrText bounded, parsed]

variable {membership : Membership}

theorem to4_of_membershipChecks (checked : membershipChecks (membershipRow membership) = true) :
    ∃ bytes, to4 membership.virtualIPv4 = some bytes := by
  cases converted : to4 membership.virtualIPv4 with
  | some bytes => exact ⟨bytes, rfl⟩
  | none =>
    have unwritten : (hostValue []).family ≠ 4 := by decide +kernel
    rw [membershipChecks, membershipRow, converted] at checked
    simp [unwritten] at checked

theorem address_differs_iff {existing : Membership}
    (checked : membershipChecks (membershipRow existing) = true)
    (valid : validateMembership membership = .ok ()) :
    equal existing.virtualIPv4 membership.virtualIPv4 = false ↔
      (membershipRow existing).virtualIPv4 ≠ (membershipRow membership).virtualIPv4 := by
  obtain ⟨left, leftConverted⟩ := to4_of_membershipChecks checked
  obtain ⟨right, rightConverted⟩ := validateMembership_to4 valid
  rw [← Bool.not_eq_true, equal_iff_hostValue leftConverted rightConverted, membershipRow,
    membershipRow, leftConverted, rightConverted, Option.getD_some, Option.getD_some,
    hostValue_to4 leftConverted, hostValue_to4 rightConverted]

theorem scanInviteRow_inviteRow (invite : Invite) : scanInviteRow (inviteRow invite) = invite := by
  have consumer : (nullIfEmpty invite.consumedByNodeID).getD "" = invite.consumedByNodeID := by
    unfold nullIfEmpty
    split_ifs with empty
    · exact empty.symm
    · rfl
  rw [scanInviteRow, inviteRow, consumer]

theorem endpointRow_normalizeEndpoint {endpoint : EndpointCandidate}
    (valid : validateEndpointCandidate endpoint = .ok ()) :
    endpointRow (normalizeEndpoint endpoint) = endpointRow endpoint := by
  rcases validateEndpointAddress_ok (validateEndpointCandidate_address valid) with
    ⟨family, bytes, converted⟩ | ⟨family, -⟩
  · simp [normalizeEndpoint, family, converted, endpointRow, hostValue_to4 converted]
  · simp [normalizeEndpoint, family]

theorem endpointIdentity_iff {left right : EndpointCandidate}
    (leftValid : validateEndpointCandidate left = .ok ())
    (rightValid : validateEndpointCandidate right = .ok ()) :
    endpointIdentityFor (normalizeEndpoint left) = endpointIdentityFor (normalizeEndpoint right) ↔
      endpointColumns (endpointRow left) = endpointColumns (endpointRow right) := by
  have texts : ∀ endpoint : EndpointCandidate, validateEndpointCandidate endpoint = .ok () →
      endpointIdentityFor (normalizeEndpoint endpoint) = endpointIdentityFor endpoint := by
    intro endpoint valid
    rcases validateEndpointAddress_ok (validateEndpointCandidate_address valid) with
      ⟨family, bytes, converted⟩ | ⟨family, -⟩
    · have same : text bytes = text endpoint.address := by
        rw [text_of_to4 converted, text_of_to4 (to4_of_length (to4_length converted))]
      simp [normalizeEndpoint, family, converted, endpointIdentityFor, same]
    · simp [normalizeEndpoint, family]
  obtain ⟨_, leftSized⟩ := validateEndpointAddress_to16
    (validateEndpointCandidate_address leftValid)
  obtain ⟨_, rightSized⟩ := validateEndpointAddress_to16
    (validateEndpointCandidate_address rightValid)
  rw [texts left leftValid, texts right rightValid]
  simp only [endpointIdentityFor, endpointColumns, endpointRow, Prod.mk.injEq,
    text_eq_iff leftSized rightSized, UInt16.toNat_inj]

theorem endpointColumns_nodup_iff {endpoints : List EndpointCandidate}
    (valid : ∀ endpoint ∈ endpoints, validateEndpointCandidate endpoint = .ok ()) :
    ((endpoints.map normalizeEndpoint).map endpointIdentityFor).Nodup ↔
      (endpoints.map fun endpoint => endpointColumns (endpointRow endpoint)).Nodup := by
  rw [List.map_map, List.Nodup, List.Nodup, List.pairwise_map, List.pairwise_map]
  apply List.Pairwise.iff_of_mem
  intro left right leftMember rightMember
  exact not_congr (endpointIdentity_iff (valid left leftMember) (valid right rightMember))

variable {invite : Invite}

theorem openInvite_iff {time : Time} :
    Open time (inviteRow invite) ↔ invite.consumedAt = none ∧ invite.revokedAt = none ∧
      invite.isExpired time = false ∧ invite.createdAt ≤ time := by
  simp only [Open, inviteRow, Invite.isExpired, decide_eq_false_iff_not, Int.not_le]
  tauto

theorem settle_inviteRow {time : Time} (checked : inviteChecks (inviteRow invite) = true) :
    (do refuseWhen invite.consumedAt.isSome .inviteConsumed
        refuseWhen invite.revokedAt.isSome .inviteRevoked
        refuseWhen (invite.isExpired time) .inviteExpired
        refuseWhen (time < invite.createdAt) .validation
        Except.ok { invite with consumedAt := some time, consumedByNodeID := nodeID }) =
      settle time nodeID (inviteRow invite) := by
  have order : invite.createdAt < invite.expiresAt := by
    simp only [inviteChecks, inviteRow, Bool.and_eq_true] at checked
    exact of_decide_eq_true checked.1.1.1.1
  have written : scanInviteRow (consume time nodeID (inviteRow invite)) =
      { invite with consumedAt := some time, consumedByNodeID := nodeID } :=
    scanInviteRow_inviteRow { invite with consumedAt := some time, consumedByNodeID := nodeID }
  unfold settle
  rw [written, scanInviteRow_inviteRow, PostgresRepository.classifyInvite]
  simp only [openInvite_iff, Invite.isExpired, decide_eq_false_iff_not, Int.not_le]
  cases consumed : invite.consumedAt with
  | some at_ => simp [refuseWhen, bind, Except.bind]
  | none =>
    cases revoked : invite.revokedAt with
    | some at_ => simp [refuseWhen, bind, Except.bind]
    | none =>
      by_cases expired : invite.expiresAt ≤ time
      · have started : ¬time < invite.createdAt :=
          Int.not_lt.mpr (Int.le_trans (Int.le_of_lt order) expired)
        have notOpen : ¬time < invite.expiresAt := Int.not_lt.mpr expired
        simp [refuseWhen, bind, Except.bind, expired, started, notOpen]
      · by_cases early : time < invite.createdAt
        · have notOpen : ¬invite.createdAt ≤ time := Int.not_le.mpr early
          simp [refuseWhen, bind, Except.bind, expired, early, notOpen]
        · have inside : time < invite.expiresAt ∧ invite.createdAt ≤ time :=
            ⟨Int.not_le.mp expired, Int.not_lt.mp early⟩
          simp [refuseWhen, bind, Except.bind, expired, early, inside]

variable {tokenHash inviteID : String}

section Acceptance

variable (sound : Integrity repository)
include sound

theorem node_fresh_iff {node : Node} :
    (∀ row ∈ (memoryTables repository).nodes,
        row.id ≠ node.id ∧ row.publicKey ≠ node.publicKey) ↔
      repository.nodes[node.id]? = none ∧ repository.publicKeys[node.publicKey]? = none :=
  fresh_iff (nodes_named sound) sound.nodes.indexed fun _ => rfl

theorem invite_fresh_iff :
    (∀ row ∈ (memoryTables repository).invites,
        row.id ≠ invite.id ∧ row.tokenHash ≠ invite.tokenHash) ↔
      repository.invites[invite.id]? = none ∧
        repository.inviteByToken[invite.tokenHash]? = none :=
  fresh_iff (invites_named sound) sound.invites.indexed fun _ => rfl

theorem placed_iff (pools : PoolsValid repository.networks) {address : IP} :
    (∃ row ∈ (memoryTables repository).networks, row.id = networkID ∧
        validateIPv4InPool address (cidrText row.ipv4Pool) = .ok ()) ↔
      ∃ network, repository.networks[networkID]? = some network ∧
        validateIPv4InPool address network.ipv4Pool = .ok () := by
  refine ((networks_named sound).exists_iff networkID fun row =>
    validateIPv4InPool address (cidrText row.ipv4Pool) = .ok ()).trans
      (exists_congr fun network => and_congr_right fun stored => ?_)
  obtain ⟨canonical, mask32⟩ := pools networkID network stored
  rw [validateIPv4InPool_congr (parseCIDR_networkRow canonical mask32)]

theorem membership_free_iff (valid : RowsValid (memoryTables repository))
    (checked : validateMembership membership = .ok ()) :
    (∀ row ∈ (memoryTables repository).memberships, row.networkID = membership.networkID →
        row.nodeID ≠ membership.nodeID ∧
          row.virtualIPv4 ≠ (membershipRow membership).virtualIPv4) ↔
      repository.membership? membership.networkID membership.nodeID = none ∧
        ∀ nodeID existing, repository.membership? membership.networkID nodeID = some existing →
          equal existing.virtualIPv4 membership.virtualIPv4 = false := by
  constructor
  · intro unused
    have named : ∀ nodeID existing,
        repository.membership? membership.networkID nodeID = some existing →
          nodeID ≠ membership.nodeID ∧
            equal existing.virtualIPv4 membership.virtualIPv4 = false := by
      intro nodeID existing stored
      have member : membershipRow existing ∈ (memoryTables repository).memberships :=
        ⟨(membership.networkID, nodeID), existing, stored, rfl⟩
      obtain ⟨ownNetwork, rfl⟩ := sound.memberships.named _ _ _ stored
      obtain ⟨otherNode, otherAddress⟩ := unused _ member ownNetwork
      exact ⟨otherNode,
        (address_differs_iff (valid.memberships _ member) checked).mpr otherAddress⟩
    refine ⟨Option.eq_none_iff_forall_ne_some.mpr fun existing stored => ?_,
      fun nodeID existing stored => (named nodeID existing stored).2⟩
    exact (named _ existing stored).1 rfl
  · rintro ⟨fresh, free⟩ row member same
    have rowChecked := valid.memberships row member
    obtain ⟨existing, stored, rfl⟩ := (memberships_named sound).mem.mp member
    rw [same] at stored
    refine ⟨fun sameNode => ?_,
      (address_differs_iff rowChecked checked).mp (free _ existing stored)⟩
    rw [sameNode, fresh] at stored
    cases stored

theorem inviteByLookup_iff :
    inviteByLookupLocked repository value tokenHash = some inviteID ↔
      ∃ invite, repository.invites[inviteID]? = some invite ∧
        (memoryTables repository).Presented value tokenHash (inviteRow invite) := by
  have scope : (∃ other ∈ (memoryTables repository).invites, other.id = value) ↔
      ∃ invite, repository.invites[value]? = some invite := by
    constructor
    · rintro ⟨row, member, rfl⟩
      obtain ⟨invite, stored, -⟩ := (invites_named sound).mem.mp member
      exact ⟨invite, stored⟩
    · rintro ⟨invite, stored⟩
      exact ⟨inviteRow invite, ⟨value, invite, stored, rfl⟩, sound.invites.named _ _ stored⟩
  unfold Tables.Presented inviteByLookupLocked
  rw [scope]
  cases direct : repository.invites[value]? with
  | some invite =>
    have name : invite.id = value := sound.invites.named value invite direct
    have exists_ : ∃ found, some invite = some found := ⟨invite, rfl⟩
    simp only [exists_, not_true_eq_false, and_false, or_false]
    constructor
    · intro found
      split_ifs at found with mismatch
      obtain rfl := Option.some.inj found
      exact ⟨invite, direct, name, not_not.mp mismatch⟩
    · rintro ⟨other, stored, same, token⟩
      have key : other.id = inviteID := sound.invites.named inviteID other stored
      obtain rfl : inviteID = value := key.symm.trans same
      obtain rfl := Option.some.inj (direct.symm.trans stored)
      have matches_ : ¬invite.tokenHash ≠ tokenHash := not_not.mpr token
      rw [if_neg matches_]
  | none =>
    have absent : ¬∃ found, (none : Option Invite) = some found := by simp
    simp only [absent, not_false_eq_true, and_true]
    constructor
    · intro found
      cases indexed : repository.inviteByToken[tokenHash]? with
      | none => simp [indexed] at found
      | some owner =>
        obtain ⟨invite, stored, token⟩ := (sound.invites.indexed _ _).mp indexed
        simp only [indexed, Std.ExtTreeMap.getD_eq_getD_getElem?, stored,
          Option.getD_some] at found
        split_ifs at found with network
        obtain rfl := Option.some.inj found
        exact ⟨invite, stored, Or.inr network, token⟩
    · rintro ⟨invite, stored, scopeMatch, token⟩
      have key : invite.id = inviteID := sound.invites.named inviteID invite stored
      have indexed := (sound.invites.indexed _ _).mpr ⟨invite, stored, token⟩
      have network : invite.networkID = value := by
        rcases scopeMatch with same | network
        · rw [← (show invite.id = value from same), key, stored] at direct
          cases direct
        · exact network
      simp [indexed, Std.ExtTreeMap.getD_eq_getD_getElem?, stored, network]

theorem nulFreeNetworks_of_valid (valid : RowsValid (memoryTables repository)) :
    NulFreeNetworks repository.networks := by
  intro networkID network stored
  have free := valid.nulFree (networkRow network) ⟨networkID, network, stored, rfl⟩
  rwa [show (networkRow network).id = networkID from sound.networks networkID network stored]
    at free

theorem relay_identifier_iff (valid : RowsValid (memoryTables repository)) {identifier : String}
    (present : ∃ network, repository.networks[networkID]? = some network) :
    (∀ owner, repository.relayAssignmentOwners[identifier]? = some owner →
        owner = relayAssignmentOwnerKey networkID nodeID) ↔
      ∀ row ∈ (memoryTables repository).relayAssignments, row.id = identifier →
        row.networkID = networkID ∧ row.nodeID = nodeID := by
  have free := nulFreeNetworks_of_valid sound valid
  obtain ⟨network, storedNetwork⟩ := present
  constructor
  · intro owned row member same
    obtain ⟨assignment, stored, rfl⟩ := (relays_named sound).mem.mp member
    have entry := sound.relays.owner free _ _ assignment stored
    rw [show assignment.id = identifier from same] at entry
    obtain ⟨ownNetwork, ownStored⟩ := sound.relays.network _ _ assignment stored
    exact ownerKey_injective (free _ ownNetwork ownStored) (free _ network storedNetwork)
      (owned _ entry)
  · intro unique owner entry
    obtain ⟨ownNetwork, ownNode, assignment, stored, same, rfl⟩ :=
      sound.relays.owned identifier owner entry
    obtain ⟨network, node⟩ := sound.relays.named ownNetwork ownNode assignment stored
    obtain ⟨sameNetwork, sameNode⟩ := unique (relayRow assignment)
      ⟨(ownNetwork, ownNode), assignment, stored, rfl⟩ same
    rw [← network, ← node, ← show assignment.networkID = networkID from sameNetwork,
      ← show assignment.nodeID = nodeID from sameNode]

theorem relay_stored_iff :
    (∃ row ∈ (memoryTables repository).relayAssignments, row.networkID = networkID) ↔
      ∃ assignments, repository.relayAssignments[networkID]? = some assignments ∧
        assignments.isEmpty = false := by
  constructor
  · rintro ⟨row, member, rfl⟩
    obtain ⟨assignment, present, rfl⟩ := (relays_named sound).mem.mp member
    obtain ⟨assignments, stored, lookup⟩ := lookup₂_eq_some.mp present
    refine ⟨assignments, stored, Bool.eq_false_iff.mpr fun empty => ?_⟩
    rw [Std.ExtTreeMap.isEmpty_iff.mp empty] at lookup
    simp at lookup
  · rintro ⟨assignments, stored, nonempty⟩
    obtain ⟨nodeID, assignment, lookup⟩ := exists_of_nonempty nonempty
    have present : repository.relayAssignment? networkID nodeID = some assignment :=
      lookup₂_eq_some.mpr ⟨assignments, stored, lookup⟩
    exact ⟨relayRow assignment, ⟨(networkID, nodeID), assignment, present, rfl⟩,
      (sound.relays.named networkID nodeID assignment present).1⟩

theorem consumeInviteForNode_succeeds_iff {ctx : Context} {wall consumedAt : Time} :
    (∃ after, (Op.consumeInviteForNode ctx wall value tokenHash consumedAt nodeID).apply
        repository = (.ok (), after)) ↔
      accepts (memoryTables repository)
        (.consumeInviteForNode ctx wall value tokenHash consumedAt nodeID) := by
  constructor
  · rintro ⟨after, outcome⟩
    obtain ⟨consumed, succeeded⟩ := dropResult_eq_ok.mp outcome
    obtain ⟨live, known, inviteID, _, lookup, rfl, usable⟩ :=
      consumeInviteForNode_eq_ok.mp succeeded
    obtain ⟨invite, stored, presented⟩ := (inviteByLookup_iff sound).mp lookup
    rw [getD_of_stored stored] at usable
    obtain ⟨unconsumed, unrevoked, unexpired, started, -⟩ := usable
    exact ⟨live, (consumerKnown_iff sound).mpr known, inviteRow invite,
      ⟨inviteID, invite, stored, rfl⟩, presented,
      openInvite_iff.mpr ⟨unconsumed, unrevoked, unexpired, started⟩⟩
  · rintro ⟨live, known, row, member, presented, open_⟩
    obtain ⟨invite, stored, rfl⟩ := (invites_named sound).mem.mp member
    obtain ⟨unconsumed, unrevoked, unexpired, started⟩ := openInvite_iff.mp open_
    have succeeded := consumeInviteForNode_eq_ok.mpr ⟨live, (consumerKnown_iff sound).mp known, _,
      invite, (inviteByLookup_iff sound).mpr ⟨invite, stored, presented⟩,
      (getD_of_stored stored).symm, unconsumed, unrevoked, unexpired, started, rfl, rfl⟩
    exact ⟨_, dropResult_eq_ok.mpr ⟨_, succeeded⟩⟩

theorem succeeds_iff_accepts (pools : PoolsValid repository.networks)
    (valid : RowsValid (memoryTables repository)) {op : Op}
    (admissible : Admissible (memoryTables repository) op) :
    (∃ after, op.apply repository = (.ok (), after)) ↔ accepts (memoryTables repository) op := by
  cases op with
  | createNetwork ctx network =>
    simp only [Op.apply, createNetwork_eq_ok, accepts, hasNetwork_iff sound, not_exists,
      Option.eq_none_iff_forall_ne_some, ne_eq, exists_and_left, exists_eq, and_true]
  | addNode ctx node =>
    simp only [Op.apply, addNode_eq_ok, accepts, node_fresh_iff sound, exists_and_left,
      exists_eq, and_true]
  | touchNode ctx nodeID lastSeen =>
    simp only [Op.apply, touchNode_eq_ok, accepts, hasNode_iff sound,
      @exists_comm MemoryRepository, exists_and_left, exists_eq, and_true]
  | updateNodeClientVersion ctx nodeID clientVersion =>
    have written : blank clientVersion = false ↔ clientVersion ≠ "" := by
      refine ⟨?_, fun nonempty => Bool.eq_false_iff.mpr fun blanks =>
        nonempty (admissible.version ctx nodeID clientVersion rfl blanks)⟩
      rintro written rfl
      exact absurd written (by decide)
    simp only [Op.apply, updateNodeClientVersion_eq_ok, accepts, hasNode_iff sound, written,
      @exists_comm MemoryRepository, exists_and_left, exists_eq, and_true]
  | removeNode ctx nodeID =>
    simp only [Op.apply, removeNode_eq_ok, accepts, hasNode_iff sound,
      @exists_comm MemoryRepository, exists_and_left, exists_eq, and_true]
  | addMembership ctx membership =>
    simp only [Op.apply, addMembership_eq_ok, accepts, hasNode_iff sound,
      placed_iff sound pools, exists_and_left, exists_eq, and_true]
    refine and_congr_right fun _ => and_congr_right fun checked => ?_
    rw [membership_free_iff sound valid checked]
    constructor
    · rintro ⟨network, present, node, placed, free⟩
      exact ⟨node, ⟨network, present, placed⟩, free⟩
    · rintro ⟨node, ⟨network, present, placed⟩, free⟩
      exact ⟨network, present, node, placed, free⟩
  | removeMembership ctx networkID nodeID =>
    simp only [Op.apply, removeMembership_eq_ok, accepts, hasMembership_iff sound,
      MemoryRepository.membership?, lookup₂_eq_some, @exists_comm MemoryRepository,
      @exists_comm Membership, exists_and_left, exists_eq, and_true]
  | createInvite ctx invite =>
    simp only [Op.apply, createInvite_eq_ok, accepts, hasNetwork_iff sound,
      consumerKnown_iff sound, invite_fresh_iff sound, exists_and_left, exists_eq, and_true]
  | revokeInvite ctx inviteID revokedAt =>
    have present := (invites_named sound).exists_iff inviteID (·.consumedAt = none)
    simp only [Op.apply, revokeInvite_eq_ok, accepts, @exists_comm MemoryRepository,
      exists_and_left, exists_eq, and_true]
    exact and_congr_right fun _ => and_congr_right fun _ => present.symm
  | consumeInvite ctx wall value tokenHash consumedAt =>
    exact (consumeInviteForNode_succeeds_iff sound).trans accepts_consumeInvite.symm
  | consumeInviteForNode ctx wall value tokenHash consumedAt nodeID =>
    exact consumeInviteForNode_succeeds_iff sound
  | replaceEndpoints ctx nodeID endpoints =>
    simp only [Op.apply, replaceEndpoints_eq_ok, validateEndpoints_ok, accepts,
      hasNode_iff sound, @exists_comm MemoryRepository, exists_and_left, exists_eq, and_true,
      exists_eq_left]
    refine and_congr_right fun _ => and_congr_right fun _ => and_congr_right fun given => ?_
    rw [← endpointColumns_nodup_iff fun endpoint member => (given endpoint member).2]
    exact and_iff_left fun _ _ => List.not_mem_nil
  | setRelayAssignment ctx assignment =>
    have identified := @relay_identifier_iff _ assignment.nodeID assignment.networkID sound valid
      assignment.id
    simp only [Op.apply, setRelayAssignment_eq_ok, relayAssignmentChecks_ok, accepts,
      hasNode_iff sound, hasNetwork_iff sound, activeMembership_iff sound, exists_and_left,
      exists_eq, and_true, and_assoc]
    refine and_congr_right fun _ => and_congr_right fun _ => and_congr_right fun present => ?_
    rw [identified present]
  | removeRelayAssignment ctx networkID =>
    simp only [Op.apply, removeRelayAssignment_eq_ok, accepts, relay_stored_iff sound,
      @exists_comm MemoryRepository, exists_and_left, exists_eq, and_true]

theorem consumeInviteForNode_outcome (valid : RowsValid (memoryTables repository)) (ctx : Context)
    (wall : Time) (value tokenHash : String) (consumedAt : Time) (nodeID : String) :
    ConsumeOutcome (memoryTables repository) ctx value tokenHash (consumptionTime wall consumedAt)
      nodeID (consumeInviteForNode ctx wall value tokenHash consumedAt nodeID repository).1 := by
  cases live : contextError ctx with
  | error err =>
    have result : (consumeInviteForNode ctx wall value tokenHash consumedAt nodeID
        repository).1 = .error err := by
      simp [consumeInviteForNode, live, bind, Except.bind, guarded]
    rw [result]
    exact .cancelled err live
  | ok _ =>
    have alive : ctx = .live := contextError_ok.mp live
    by_cases missing : (memoryTables repository).ConsumerKnown nodeID ∧
        ∃ row ∈ (memoryTables repository).invites,
          (memoryTables repository).Presented value tokenHash row
    · obtain ⟨known, row, member, presented⟩ := missing
      have checked := valid.invites row member
      obtain ⟨invite, stored, rfl⟩ := (invites_named sound).mem.mp member
      have lookup := (inviteByLookup_iff sound).mpr ⟨invite, stored, presented⟩
      have held : repository.invites.getD (inviteRow invite).id zeroInvite = invite :=
        getD_of_stored stored
      have result : (consumeInviteForNode ctx wall value tokenHash consumedAt nodeID
          repository).1 = settle (consumptionTime wall consumedAt) nodeID (inviteRow invite) := by
        rw [← settle_inviteRow checked]
        simp only [consumeInviteForNode, live, lookup, found, (consumerKnown_iff sound).mp known,
          held, bind, Except.bind, refuseWhen, guarded]
        split_ifs <;> simp_all
      rw [result]
      exact .settled alive known _ member presented
    · have result : (consumeInviteForNode ctx wall value tokenHash consumedAt nodeID
          repository).1 = .error (.sentinel .notFound) := by
        cases lookup : inviteByLookupLocked repository value tokenHash with
        | none => simp [consumeInviteForNode, live, lookup, found, bind, Except.bind, guarded]
        | some inviteID =>
          obtain ⟨invite, stored, presented⟩ := (inviteByLookup_iff sound).mp lookup
          have unknown : unknownConsumer repository nodeID = true := by
            rw [← Bool.not_eq_false, ← consumerKnown_iff sound]
            exact fun known => missing ⟨known, inviteRow invite,
              ⟨inviteID, invite, stored, rfl⟩, presented⟩
          simp [consumeInviteForNode, live, lookup, found, unknown, refuseWhen, bind,
            Except.bind, guarded]
      rw [result]
      exact .unknown alive missing

end Acceptance

section Effects

variable (sound : Integrity repository)
include sound

theorem memoryTables_rewriteNode {node rewritten : Node} {assign : NodeRow → NodeRow}
    (stored : repository.nodes[nodeID]? = some node)
    (assigned : nodeRow rewritten = assign (nodeRow node)) :
    memoryTables { repository with nodes := repository.nodes.insert nodeID rewritten } =
      { memoryTables repository with
        nodes := updated (fun row => row.id = nodeID) assign (memoryTables repository).nodes } :=
  congrArg (fun rows => { memoryTables repository with nodes := rows })
    ((nodes_named sound).replace (fun row => row.id = nodeID)
      (fun other => getElem?_insert repository.nodes nodeID other _) stored assigned
      fun _ _ => Iff.rfl)

theorem memoryTables_rewriteInvite {rewritten : Invite} {wanted : InviteRow → Prop}
    {assign : InviteRow → InviteRow} (stored : repository.invites[inviteID]? = some invite)
    (assigned : inviteRow rewritten = assign (inviteRow invite))
    (selects : ∀ row ∈ (memoryTables repository).invites, wanted row ↔ row.id = inviteID) :
    memoryTables { repository with invites := repository.invites.insert inviteID rewritten } =
      { memoryTables repository with
        invites := updated wanted assign (memoryTables repository).invites } :=
  congrArg (fun rows => { memoryTables repository with invites := rows })
    ((invites_named sound).replace wanted
      (fun other => getElem?_insert repository.invites inviteID other _) stored assigned selects)

theorem endpoint_stored {row : EndpointRow}
    (member : row ∈ (memoryTables repository).endpointCandidates) :
    ∃ candidates, repository.endpoints[row.nodeID]? = some candidates ∧
      ∃ candidate ∈ candidates, endpointRow candidate = row := by
  obtain ⟨nodeID, candidates, stored, candidate, listed, rfl⟩ := member
  have named := (sound.endpoints.candidates nodeID candidates stored).named candidate listed
  refine ⟨candidates, ?_, candidate, listed, rfl⟩
  rw [show (endpointRow candidate).nodeID = nodeID from named]
  exact stored

theorem withoutNode_nodes (nodeID : String) (node : Node) :
    (memoryTables (withoutNode repository nodeID node)).nodes =
      without (fun row => row.id = nodeID) (memoryTables repository).nodes :=
  (nodes_named sound).drop _ (getElem?_erase repository.nodes nodeID) fun _ => eq_comm

theorem withoutNode_memberships (nodeID : String) (node : Node) :
    (memoryTables (withoutNode repository nodeID node)).memberships =
      without (fun row => row.nodeID = nodeID) (memoryTables repository).memberships :=
  (memberships_named sound).drop _
    (fun key => withoutNode_membership? repository nodeID node key.1 key.2) fun _ => eq_comm

omit sound in
theorem withoutNode_invites (nodeID : String) (node : Node) :
    (memoryTables (withoutNode repository nodeID node)).invites =
      updated (fun row => row.consumedByNodeID = some nodeID)
        (fun row => { row with consumedByNodeID := none }) (memoryTables repository).invites := by
  have rewritten : ∀ inviteID : String,
      (withoutNode repository nodeID node).invites[inviteID]? =
        repository.invites[inviteID]?.map fun invite : Invite =>
          if invite.consumedByNodeID = nodeID then { invite with consumedByNodeID := "" }
          else invite := by
    intro inviteID
    simp [withoutNode]
  refine content_update _ _ rewritten fun inviteID invite _ => ?_
  by_cases consumer : invite.consumedByNodeID = nodeID
  · by_cases empty : nodeID = ""
    · right
      simp [inviteRow, nullIfEmpty, consumer, empty]
    · left
      simp [inviteRow, nullIfEmpty, consumer, empty]
  · right
    rw [if_neg consumer]
    refine ⟨fun named => ?_, rfl⟩
    simp only [inviteRow, nullIfEmpty] at named
    split_ifs at named
    exact consumer (Option.some.inj named)

theorem withoutNode_endpoints (nodeID : String) (node : Node) :
    (memoryTables (withoutNode repository nodeID node)).endpointCandidates =
      without (fun row => row.nodeID = nodeID) (memoryTables repository).endpointCandidates := by
  ext row
  rw [mem_without]
  constructor
  · rintro ⟨key, candidates, stored, candidate, listed, rfl⟩
    change (repository.endpoints.erase nodeID)[key]? = some candidates at stored
    rw [getElem?_erase] at stored
    split_ifs at stored with same
    have named := (sound.endpoints.candidates key candidates stored).named candidate listed
    refine ⟨⟨key, candidates, stored, candidate, listed, rfl⟩, ?_⟩
    rw [show (endpointRow candidate).nodeID = key from named]
    exact Ne.symm same
  · rintro ⟨member, other⟩
    obtain ⟨candidates, stored, candidate, listed, same⟩ := endpoint_stored sound member
    refine ⟨row.nodeID, candidates, ?_, candidate, listed, same⟩
    change (repository.endpoints.erase nodeID)[row.nodeID]? = some candidates
    rw [getElem?_erase, if_neg (Ne.symm other), stored]

omit sound in
theorem withoutNode_relays (nodeID : String) (node : Node) :
    (memoryTables (withoutNode repository nodeID node)).relayAssignments =
      without (fun row => row.nodeID = nodeID ∨ row.relayNodeID = nodeID)
        (memoryTables repository).relayAssignments := by
  apply content_delete
  intro key held
  rw [withoutNode_relayAssignment?, Option.filter_eq_some_iff]
  simp [names, relayRow]

theorem affected_iff :
    networkID ∈ affectedNetworks repository nodeID ↔
      (memoryTables repository).Affected nodeID networkID := by
  rw [mem_affectedNetworks, mem_networksOfNode, mem_networksOfRelay, Tables.Affected,
    hasMembership_iff sound]
  refine or_congr Iff.rfl ?_
  constructor
  · intro named
    obtain ⟨target, assignment, stored, names⟩ := named
    have network := (sound.relays.named networkID target assignment stored).1
    refine ⟨relayRow assignment, ⟨(networkID, target), assignment, stored, rfl⟩, network, ?_⟩
    simpa [DbMemory.names, relayRow] using names
  · rintro ⟨row, member, rfl, names⟩
    obtain ⟨assignment, stored, rfl⟩ := (relays_named sound).mem.mp member
    refine ⟨_, assignment, stored, ?_⟩
    simpa [DbMemory.names, relayRow] using names

theorem withoutMember_memberships {members : GoMap Membership}
    (stored : repository.memberships[networkID]? = some members) :
    (memoryTables (withoutMember repository networkID nodeID members)).memberships =
      without (fun row => row.networkID = networkID ∧ row.nodeID = nodeID)
        (memoryTables repository).memberships :=
  (memberships_named sound).drop _
    (fun key => withoutMember_membership? repository networkID nodeID stored key.1 key.2)
    fun _ => and_congr eq_comm eq_comm

theorem withoutMember_relays (networkID nodeID : String) (members : GoMap Membership) :
    (memoryTables (withoutMember repository networkID nodeID members)).relayAssignments =
      without (fun row => row.networkID = networkID ∧
        (row.nodeID = nodeID ∨ row.relayNodeID = nodeID))
        (memoryTables repository).relayAssignments := by
  apply content_delete
  intro key held
  rw [withoutMember, detachNode_relayAssignment?]
  refine and_congr_right fun lookup => not_congr ?_
  obtain ⟨network, node⟩ := sound.relays.named key.1 key.2 held lookup
  have named : names held nodeID = true ↔ held.nodeID = nodeID ∨ held.relayNodeID = nodeID := by
    simp [names]
  rw [named, ← node, ← network, relayRow]
  tauto

theorem memoryTables_revoke {revokedAt : Time}
    (stored : repository.invites[inviteID]? = some invite) (unconsumed : invite.consumedAt = none)
    (ctx : Context) :
    memoryTables (if invite.revokedAt.isSome then repository else { repository with
        invites := repository.invites.insert inviteID
          { invite with revokedAt := some revokedAt } }) =
      effect (memoryTables repository) (.revokeInvite ctx inviteID revokedAt) := by
  have unique : ∀ row ∈ (memoryTables repository).invites, row.id = inviteID →
      row = inviteRow invite := fun row other same =>
    (consistent_of_integrity sound).invite row other _ ⟨inviteID, invite, stored, rfl⟩
      (same.trans (sound.invites.named inviteID invite stored).symm)
  by_cases revoked : invite.revokedAt.isSome = true
  · -- revoking twice keeps the first time
    have none : ∀ row ∈ (memoryTables repository).invites,
        ¬(row.id = inviteID ∧ row.consumedAt = none ∧ row.revokedAt = none) := by
      intro row other open_
      rw [unique row other open_.1] at open_
      rw [show invite.revokedAt = Option.none from open_.2.2] at revoked
      cases revoked
    rw [if_pos revoked, effect, updated_of_none none]
  · rw [if_neg revoked]
    refine memoryTables_rewriteInvite sound stored rfl fun row other =>
      and_iff_left_of_imp fun same => ?_
    rw [unique row other same]
    exact ⟨unconsumed, Option.not_isSome_iff_eq_none.mp revoked⟩

theorem memoryTables_consume {ctx : Context} {wall consumedAt : Time} {consumed : Invite}
    (succeeded : consumeInviteForNode ctx wall value tokenHash consumedAt nodeID repository =
      (.ok consumed, after)) :
    memoryTables after = consumeEffect (memoryTables repository) value tokenHash
      (consumptionTime wall consumedAt) nodeID := by
  obtain ⟨-, -, inviteID, _, lookup, rfl, unconsumed, unrevoked, unexpired, started, rfl, rfl⟩ :=
    consumeInviteForNode_eq_ok.mp succeeded
  obtain ⟨invite, stored, presented⟩ := (inviteByLookup_iff sound).mp lookup
  rw [getD_of_stored stored] at unconsumed unrevoked unexpired started ⊢
  have consistent := consistent_of_integrity sound
  have member : inviteRow invite ∈ (memoryTables repository).invites :=
    ⟨inviteID, invite, stored, rfl⟩
  have named : (inviteRow invite).id = inviteID := sound.invites.named inviteID invite stored
  refine memoryTables_rewriteInvite sound stored rfl fun row other => ⟨fun selected => ?_, ?_⟩
  · rw [consistent.token row other _ member (selected.1.2.trans presented.2.symm), named]
  · intro same
    rw [consistent.invite row other _ member (same.trans named.symm)]
    exact ⟨presented, openInvite_iff.mpr ⟨unconsumed, unrevoked, unexpired, started⟩⟩

theorem memoryTables_replaceEndpoints {endpoints : List EndpointCandidate}
    (valid : ∀ endpoint ∈ endpoints, endpoint.nodeID = nodeID ∧
      validateEndpointCandidate endpoint = .ok ()) :
    memoryTables { repository with
      endpoints := repository.endpoints.insert nodeID
        (sortEndpointCandidates (endpoints.map normalizeEndpoint)) } =
      { memoryTables repository with
        endpointCandidates := without (fun row => row.nodeID = nodeID)
            (memoryTables repository).endpointCandidates ∪
          {row | ∃ endpoint ∈ endpoints, endpointRow endpoint = row} } := by
  have rows : ∀ row, row ∈ (memoryTables { repository with
        endpoints := repository.endpoints.insert nodeID
          (sortEndpointCandidates (endpoints.map normalizeEndpoint)) }).endpointCandidates ↔
      row ∈ without (fun row => row.nodeID = nodeID) (memoryTables repository).endpointCandidates ∪
        {row | ∃ endpoint ∈ endpoints, endpointRow endpoint = row} := by
    intro row
    rw [Set.mem_union, mem_without]
    constructor
    · rintro ⟨key, candidates, stored, candidate, listed, rfl⟩
      rw [getElem?_insert] at stored
      split_ifs at stored with same
      · right
        obtain rfl := Option.some.inj stored
        obtain ⟨endpoint, given, rfl⟩ := List.mem_map.mp ((mem_sliceStable endpointLess).mp listed)
        exact ⟨endpoint, given, (endpointRow_normalizeEndpoint (valid endpoint given).2).symm⟩
      · left
        have named := (sound.endpoints.candidates key candidates stored).named candidate listed
        refine ⟨⟨key, candidates, stored, candidate, listed, rfl⟩, ?_⟩
        rw [show (endpointRow candidate).nodeID = key from named]
        exact Ne.symm same
    · intro either
      rcases either with ⟨member, other⟩ | ⟨endpoint, given, rfl⟩
      · obtain ⟨candidates, stored, candidate, listed, same⟩ := endpoint_stored sound member
        refine ⟨row.nodeID, candidates, ?_, candidate, listed, same⟩
        rw [getElem?_insert, if_neg (Ne.symm other), stored]
      · have listed : normalizeEndpoint endpoint ∈
            sortEndpointCandidates (endpoints.map normalizeEndpoint) :=
          (mem_sliceStable endpointLess).mpr (List.mem_map_of_mem given)
        refine ⟨nodeID, sortEndpointCandidates (endpoints.map normalizeEndpoint), ?_,
          normalizeEndpoint endpoint, listed,
          endpointRow_normalizeEndpoint (valid endpoint given).2⟩
        rw [getElem?_insert, if_pos rfl]
  exact congrArg (fun candidates => { memoryTables repository with
    endpointCandidates := candidates }) (Set.ext rows)

theorem withRelayAssignment_relays (assignment : RelayAssignment) :
    (memoryTables (withRelayAssignment
        (prepareRelayAssignments repository assignment.networkID) assignment)).relayAssignments =
      insert (relayRow assignment) (without (fun row =>
        row.networkID = assignment.networkID ∧ row.nodeID = assignment.nodeID)
        (memoryTables repository).relayAssignments) := by
  have prepared : SqlTable.content (fun key : String × String =>
        (prepareRelayAssignments repository assignment.networkID).relayAssignment? key.1 key.2)
        relayRow = (memoryTables repository).relayAssignments :=
    content_congr fun key =>
      prepare_relayAssignment? repository assignment.networkID key.1 key.2
  rw [← prepared]
  have named : Named (fun key : String × String =>
      (prepareRelayAssignments repository assignment.networkID).relayAssignment? key.1 key.2)
      relayRow fun row => (row.networkID, row.nodeID) := fun key held stored =>
    relays_named sound key held ((prepare_relayAssignment? _ _ key.1 key.2).symm.trans stored)
  exact named.put _ (lookup₂_insert₂_pair _ assignment.networkID assignment.nodeID assignment)
    fun row => by rw [Prod.mk.injEq, eq_comm, @eq_comm _ row.nodeID]

theorem memoryTables_effect (counting : Counting (memoryTables repository)) {op : Op}
    (outcome : op.apply repository = (.ok (), after)) :
    memoryTables after = effect (memoryTables repository) op := by
  cases op with
  | createNetwork ctx network =>
    obtain ⟨-, valid, fresh, rfl⟩ := createNetwork_eq_ok.mp outcome
    have version : (if network.configVersion ≤ 0 then 1 else network.configVersion) =
        if network.configVersion = 0 then 1 else network.configVersion := by
      have nonneg := validateNetwork_version valid
      split_ifs <;> omega
    rw [version]
    exact congrArg (fun rows => { memoryTables repository with networks := rows })
      (content_insert (getElem?_insert repository.networks network.id · _) fresh)
  | addNode ctx node =>
    obtain ⟨-, -, fresh, -, rfl⟩ := addNode_eq_ok.mp outcome
    exact congrArg (fun rows => { memoryTables repository with nodes := rows })
      (content_insert (getElem?_insert repository.nodes node.id · _) fresh)
  | touchNode ctx nodeID lastSeen =>
    obtain ⟨-, present, node, stored, rfl⟩ := touchNode_eq_ok.mp outcome
    apply memoryTables_rewriteNode sound stored
    simp [nodeRow, nullableTime, present]
  | updateNodeClientVersion ctx nodeID clientVersion =>
    obtain ⟨-, -, node, stored, rfl⟩ := updateNodeClientVersion_eq_ok.mp outcome
    exact memoryTables_rewriteNode sound stored rfl
  | removeNode ctx nodeID =>
    obtain ⟨-, node, -, rfl⟩ := removeNode_eq_ok.mp outcome
    have moved := @memoryTables_increments _ sound counting (withoutNode repository nodeID node) _
      (affectedNetworks_nodup repository nodeID)
      (fun networkID affected => sound.affectedNetwork affected) rfl
    rw [moved, effect, ← withoutNode_nodes sound nodeID node,
      ← withoutNode_memberships sound nodeID node, ← withoutNode_invites nodeID node,
      ← withoutNode_endpoints sound nodeID node, ← withoutNode_relays nodeID node]
    exact bump_congr fun row _ => affected_iff sound
  | addMembership ctx membership =>
    obtain ⟨-, checked, ⟨network, present, -, -, fresh, -⟩, rfl⟩ :=
      addMembership_eq_ok.mp outcome
    have written : membershipRow { membership with
        virtualIPv4 := (to4 membership.virtualIPv4).getD [] } = membershipRow membership := by
      obtain ⟨bytes, converted⟩ := validateMembership_to4 checked
      simp [membershipRow, converted, to4_of_length (to4_length converted)]
    rw [memoryTables_increment sound counting ⟨network, present⟩ (by rfl), effect, ← written]
    exact congrArg (fun members => Tables.bump (· = membership.networkID)
      { memoryTables repository with memberships := members })
      (content_insert (lookup₂_insert₂_pair repository.memberships membership.networkID
        membership.nodeID _) fresh)
  | removeMembership ctx networkID nodeID =>
    obtain ⟨-, members, stored, ⟨membership, lookup⟩, rfl⟩ := removeMembership_eq_ok.mp outcome
    have frame := detachNode_frame { repository with
      memberships := repository.memberships.insert networkID (members.erase nodeID) }
      networkID nodeID
    have networks : (withoutMember repository networkID nodeID members).networks =
        repository.networks := by
      rw [withoutMember, frame]
    obtain ⟨network, found, -⟩ := sound.memberships.pool _ _ _
      (lookup₂_eq_some.mpr ⟨members, stored, lookup⟩)
    rw [memoryTables_increment sound counting ⟨network, found⟩ networks, effect,
      ← withoutMember_memberships sound stored, ← withoutMember_relays sound, withoutMember, frame]
    rfl
  | createInvite ctx invite =>
    obtain ⟨-, -, -, -, fresh, -, rfl⟩ := createInvite_eq_ok.mp outcome
    exact congrArg (fun rows => { memoryTables repository with invites := rows })
      (content_insert (getElem?_insert repository.invites invite.id · _) fresh)
  | revokeInvite ctx inviteID revokedAt =>
    obtain ⟨-, -, invite, stored, unconsumed, rfl⟩ := revokeInvite_eq_ok.mp outcome
    exact memoryTables_revoke sound stored unconsumed ctx
  | consumeInvite | consumeInviteForNode =>
    obtain ⟨consumed, succeeded⟩ := dropResult_eq_ok.mp outcome
    exact memoryTables_consume sound succeeded
  | replaceEndpoints ctx nodeID endpoints =>
    obtain ⟨-, -, validated, checked, rfl⟩ := replaceEndpoints_eq_ok.mp outcome
    obtain ⟨valid, rfl, -⟩ := validateEndpoints_ok.mp checked
    rw [memoryTables_increments sound counting (networksOfNode_nodup repository nodeID)
      (fun _ listed => sound.memberNetwork listed) (by rfl),
      memoryTables_replaceEndpoints sound valid, effect]
    refine bump_congr fun row _ => ?_
    rw [mem_networksOfNode, hasMembership_iff sound]
  | setRelayAssignment ctx assignment =>
    obtain ⟨checked, -, rfl⟩ := setRelayAssignment_eq_ok.mp outcome
    obtain ⟨-, -, network, -⟩ := relayAssignmentChecks_ok.mp checked
    have networks : (withRelayAssignment
        (prepareRelayAssignments repository assignment.networkID) assignment).networks =
          repository.networks := by
      rw [prepare_frame]
      rfl
    rw [memoryTables_increment sound counting network networks, effect,
      ← withRelayAssignment_relays sound, prepare_frame]
    rfl
  | removeRelayAssignment ctx networkID =>
    obtain ⟨-, assignments, stored, nonempty, rfl⟩ := removeRelayAssignment_eq_ok.mp outcome
    obtain ⟨nodeID, assignment, lookup⟩ := exists_of_nonempty nonempty
    rw [memoryTables_increment sound counting (sound.relays.network _ _ _
      (lookup₂_eq_some.mpr ⟨assignments, stored, lookup⟩)) (by rfl)]
    exact congrArg (fun relays => Tables.bump (· = networkID)
      { memoryTables repository with relayAssignments := relays })
      ((relays_named sound).drop _ (fun key => lookup₂_erase _ networkID key.1 key.2)
        fun _ => eq_comm)

end Effects

theorem memory_refines (sound : Integrity repository) (pools : PoolsValid repository.networks)
    (valid : RowsValid (memoryTables repository)) {op : Op}
    (admissible : Admissible (memoryTables repository) op) :
    Refines memoryTables (op.apply repository) (memoryTables repository) op := by
  have counting : Counting (memoryTables repository) := by
    intro row member
    have checked := valid.networks row member
    rw [networkChecks, Bool.and_eq_true] at checked
    exact ⟨of_decide_eq_true checked.2, admissible.below row member⟩
  have succeeds := succeeds_iff_accepts sound pools valid admissible
  exact {
    accepted := fun after outcome =>
      ⟨succeeds.mp ⟨after, outcome⟩, memoryTables_effect sound counting outcome⟩
    succeeds := succeeds.mpr
    refused := fun _ _ => memoryTables_refused }

end Ipv6Mesh.DbMemoryTables
