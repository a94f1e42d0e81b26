import Ipv6Mesh.DbOperations

/-!
# Referential integrity of the in-memory repository

The nine maps of `MemoryRepository` reference each other by hand-kept keys.
`Integrity` states what they owe each other; every operation keeps it, and so
does every transaction, whether its body commits or fails.
-/

namespace Ipv6Mesh.DbIntegrity

open GoText GoNet GoCidr GoMap ControlModel ControlValidation DbMemory DbOperations

def NetworksSound (networks : GoMap Network) : Prop :=
  ∀ (networkID : String) (network : Network), networks[networkID]? = some network →
    network.id = networkID

structure NodesSound (nodes : GoMap Node) (publicKeys : GoMap String) : Prop where
  named : ∀ (nodeID : String) (node : Node), nodes[nodeID]? = some node → node.id = nodeID
  indexed : Indexed publicKeys nodes Node.publicKey

def inPool (ipv4Pool : String) (address : IP) : Prop :=
  ∃ cidr, parseCIDR ipv4Pool = some cidr ∧ contains cidr.network address = true

structure MembershipsSound (networks : GoMap Network) (nodes : GoMap Node)
    (memberships : GoMap (GoMap Membership)) : Prop where
  named : ∀ networkID nodeID membership,
    lookup₂ memberships networkID nodeID = some membership →
      membership.networkID = networkID ∧ membership.nodeID = nodeID
  node : ∀ networkID nodeID membership,
    lookup₂ memberships networkID nodeID = some membership →
      ∃ node, nodes[nodeID]? = some node
  pool : ∀ networkID nodeID membership,
    lookup₂ memberships networkID nodeID = some membership →
      ∃ network, networks[networkID]? = some network ∧
        inPool network.ipv4Pool membership.virtualIPv4
  distinct : ∀ networkID first second left right,
    lookup₂ memberships networkID first = some left →
      lookup₂ memberships networkID second = some right →
        equal left.virtualIPv4 right.virtualIPv4 = true → first = second

structure InvitesSound (networks : GoMap Network) (nodes : GoMap Node) (invites : GoMap Invite)
    (inviteByToken : GoMap String) : Prop where
  named : ∀ (inviteID : String) (invite : Invite), invites[inviteID]? = some invite →
    invite.id = inviteID
  indexed : Indexed inviteByToken invites Invite.tokenHash
  network : ∀ (inviteID : String) (invite : Invite), invites[inviteID]? = some invite →
    ∃ network, networks[invite.networkID]? = some network
  consumer : ∀ (inviteID : String) (invite : Invite), invites[inviteID]? = some invite →
    invite.consumedByNodeID ≠ "" → ∃ node, nodes[invite.consumedByNodeID]? = some node

/-- The endpoints of one node: its own, with distinct identities, in sorted order. -/
structure CandidatesSound (nodeID : String) (candidates : List EndpointCandidate) : Prop where
  named : ∀ candidate ∈ candidates, candidate.nodeID = nodeID
  distinct : (candidates.map endpointIdentityFor).Nodup
  sorted : candidates.Pairwise fun left right => endpointLess right left = false

structure EndpointsSound (nodes : GoMap Node) (endpoints : GoMap (List EndpointCandidate)) :
    Prop where
  node : ∀ (nodeID : String) (candidates : List EndpointCandidate),
    endpoints[nodeID]? = some candidates → ∃ node, nodes[nodeID]? = some node
  candidates : ∀ (nodeID : String) (candidates : List EndpointCandidate),
    endpoints[nodeID]? = some candidates → CandidatesSound nodeID candidates

def nulFree (text : String) : Prop := '\x00' ∉ text.toList

def NulFreeNetworks (networks : GoMap Network) : Prop :=
  ∀ (networkID : String) (network : Network), networks[networkID]? = some network →
    nulFree networkID

/-- The owner key separates its two identifiers by NUL, so it determines them
only when the network identifier has no NUL of its own. -/
structure RelaysSound (networks : GoMap Network) (memberships : GoMap (GoMap Membership))
    (relayAssignments : GoMap (GoMap RelayAssignment)) (owners : GoMap String) : Prop where
  named : ∀ networkID nodeID assignment,
    lookup₂ relayAssignments networkID nodeID = some assignment →
      assignment.networkID = networkID ∧ assignment.nodeID = nodeID
  network : ∀ networkID nodeID assignment,
    lookup₂ relayAssignments networkID nodeID = some assignment →
      ∃ network, networks[networkID]? = some network
  target : ∀ networkID nodeID assignment,
    lookup₂ relayAssignments networkID nodeID = some assignment →
      ∃ membership, lookup₂ memberships networkID nodeID = some membership ∧
        membership.status = .active
  relay : ∀ networkID nodeID assignment,
    lookup₂ relayAssignments networkID nodeID = some assignment →
      assignment.relayNodeID ≠ nodeID ∧
        ∃ membership, lookup₂ memberships networkID assignment.relayNodeID = some membership ∧
          membership.status = .active
  owned : ∀ (identifier owner : String), owners[identifier]? = some owner →
    ∃ networkID nodeID assignment,
      lookup₂ relayAssignments networkID nodeID = some assignment ∧
        assignment.id = identifier ∧ owner = relayAssignmentOwnerKey networkID nodeID
  owner : NulFreeNetworks networks → ∀ networkID nodeID assignment,
      lookup₂ relayAssignments networkID nodeID = some assignment →
        owners[assignment.id]? = some (relayAssignmentOwnerKey networkID nodeID)

/-- Every cross reference of the six tables and their indexes is in order. -/
structure Integrity (repository : MemoryRepository) : Prop where
  networks : NetworksSound repository.networks
  nodes : NodesSound repository.nodes repository.publicKeys
  memberships : MembershipsSound repository.networks repository.nodes repository.memberships
  invites : InvitesSound repository.networks repository.nodes repository.invites
    repository.inviteByToken
  endpoints : EndpointsSound repository.nodes repository.endpoints
  relays : RelaysSound repository.networks repository.memberships repository.relayAssignments
    repository.relayAssignmentOwners

def NetworksKept (before after : GoMap Network) : Prop :=
  ∀ (networkID : String) (network : Network), before[networkID]? = some network →
    ∃ later, after[networkID]? = some later ∧ later.ipv4Pool = network.ipv4Pool

def NodesKept (before after : GoMap Node) : Prop :=
  ∀ (nodeID : String) (node : Node), before[nodeID]? = some node →
    ∃ later, after[nodeID]? = some later

theorem NetworksKept.refl (networks : GoMap Network) : NetworksKept networks networks :=
  fun _ network stored => ⟨network, stored, rfl⟩

theorem NodesKept.refl (nodes : GoMap Node) : NodesKept nodes nodes :=
  fun _ node stored => ⟨node, stored⟩

theorem NodesKept.insert (nodes : GoMap Node) (nodeID : String) (node : Node) :
    NodesKept nodes (nodes.insert nodeID node) := by
  intro other existing stored
  rw [getElem?_insert]
  by_cases same : nodeID = other
  · exact ⟨node, if_pos same⟩
  · exact ⟨existing, (if_neg same).trans stored⟩

variable {networkID : String}

theorem NetworksKept.insert_fresh {networks : GoMap Network} (fresh : networks[networkID]? = none)
    (network : Network) :
    NetworksKept networks (networks.insert networkID network) := fun _ existing stored =>
  ⟨existing, (getElem?_insert_ne (ne_of_fresh fresh stored)).trans stored, rfl⟩

variable {nodeID : String}

theorem ownerKey_injective {other target : String} (free : nulFree networkID)
    (otherFree : nulFree other)
    (same : relayAssignmentOwnerKey networkID nodeID = relayAssignmentOwnerKey other target) :
    networkID = other ∧ nodeID = target := by
  have lists := congrArg String.toList same
  simp only [relayAssignmentOwnerKey, String.toList_append, List.append_assoc] at lists
  obtain ⟨heads, tails⟩ := append_separator_inj free otherFree lists
  exact ⟨String.toList_inj.mp heads, String.toList_inj.mp tails⟩

section Frames

variable {networks networks' : GoMap Network} {nodes nodes' : GoMap Node}
variable {memberships memberships' : GoMap (GoMap Membership)}

theorem MembershipsSound.restrict (sound : MembershipsSound networks nodes memberships)
    (networksKept : NetworksKept networks networks')
    (lookups : ∀ networkID nodeID membership,
      lookup₂ memberships' networkID nodeID = some membership →
        lookup₂ memberships networkID nodeID = some membership)
    (nodesKept : ∀ networkID nodeID membership,
      lookup₂ memberships' networkID nodeID = some membership →
        ∀ node, nodes[nodeID]? = some node → ∃ later, nodes'[nodeID]? = some later) :
    MembershipsSound networks' nodes' memberships' where
  named _ _ _ stored := sound.named _ _ _ (lookups _ _ _ stored)
  node networkID nodeID membership stored := by
    obtain ⟨node, lookup⟩ := sound.node _ _ _ (lookups _ _ _ stored)
    exact nodesKept _ _ _ stored node lookup
  pool networkID nodeID membership stored := by
    obtain ⟨network, lookup, inside⟩ := sound.pool _ _ _ (lookups _ _ _ stored)
    obtain ⟨later, kept, samePool⟩ := networksKept networkID network lookup
    exact ⟨later, kept, samePool ▸ inside⟩
  distinct _ _ _ _ _ left right :=
    sound.distinct _ _ _ _ _ (lookups _ _ _ left) (lookups _ _ _ right)

theorem MembershipsSound.frame (sound : MembershipsSound networks nodes memberships)
    (networksKept : NetworksKept networks networks') (nodesKept : NodesKept nodes nodes') :
    MembershipsSound networks' nodes' memberships :=
  sound.restrict networksKept (fun _ _ _ stored => stored) fun _ nodeID _ _ => nodesKept nodeID

theorem InvitesSound.frame {invites : GoMap Invite} {inviteByToken : GoMap String}
    (sound : InvitesSound networks nodes invites inviteByToken)
    (networksKept : NetworksKept networks networks') (nodesKept : NodesKept nodes nodes') :
    InvitesSound networks' nodes' invites inviteByToken where
  named := sound.named
  indexed := sound.indexed
  network inviteID invite stored := by
    obtain ⟨network, lookup⟩ := sound.network inviteID invite stored
    obtain ⟨later, kept, -⟩ := networksKept _ network lookup
    exact ⟨later, kept⟩
  consumer inviteID invite stored named := by
    obtain ⟨node, lookup⟩ := sound.consumer inviteID invite stored named
    exact nodesKept _ node lookup

theorem EndpointsSound.frame {endpoints : GoMap (List EndpointCandidate)}
    (sound : EndpointsSound nodes endpoints) (nodesKept : NodesKept nodes nodes') :
    EndpointsSound nodes' endpoints where
  node nodeID candidates stored := by
    obtain ⟨node, lookup⟩ := sound.node nodeID candidates stored
    exact nodesKept nodeID node lookup
  candidates := sound.candidates

theorem NulFreeNetworks.of_kept (networksKept : NetworksKept networks networks')
    (free : NulFreeNetworks networks') : NulFreeNetworks networks := by
  intro networkID network stored
  obtain ⟨later, kept, -⟩ := networksKept networkID network stored
  exact free networkID later kept

variable {relays relays' : GoMap (GoMap RelayAssignment)} {owners owners' : GoMap String}

theorem RelaysSound.restrict (sound : RelaysSound networks memberships relays owners)
    (networksKept : NetworksKept networks networks')
    (deleted : String → String → RelayAssignment → Prop)
    (lookups : ∀ networkID nodeID assignment,
      lookup₂ relays' networkID nodeID = some assignment ↔
        lookup₂ relays networkID nodeID = some assignment ∧
          ¬deleted networkID nodeID assignment)
    (entries : ∀ (identifier owner : String), owners'[identifier]? = some owner ↔
      owners[identifier]? = some owner ∧ ∀ networkID nodeID assignment,
        lookup₂ relays networkID nodeID = some assignment →
          deleted networkID nodeID assignment → assignment.id ≠ identifier)
    (members : ∀ networkID nodeID assignment,
      lookup₂ relays' networkID nodeID = some assignment →
        ∀ member membership, member = nodeID ∨ member = assignment.relayNodeID →
          lookup₂ memberships networkID member = some membership →
            lookup₂ memberships' networkID member = some membership) :
    RelaysSound networks' memberships' relays' owners' where
  named _ _ _ stored := sound.named _ _ _ ((lookups _ _ _).mp stored).1
  network networkID nodeID assignment stored := by
    obtain ⟨network, lookup⟩ := sound.network _ _ _ ((lookups _ _ _).mp stored).1
    obtain ⟨later, kept, -⟩ := networksKept networkID network lookup
    exact ⟨later, kept⟩
  target networkID nodeID assignment stored := by
    obtain ⟨membership, lookup, active⟩ := sound.target _ _ _ ((lookups _ _ _).mp stored).1
    exact ⟨membership, members _ _ _ stored _ _ (Or.inl rfl) lookup, active⟩
  relay networkID nodeID assignment stored := by
    obtain ⟨different, membership, lookup, active⟩ :=
      sound.relay _ _ _ ((lookups _ _ _).mp stored).1
    exact ⟨different, membership, members _ _ _ stored _ _ (Or.inr rfl) lookup, active⟩
  owned identifier owner stored := by
    obtain ⟨before, safe⟩ := (entries identifier owner).mp stored
    obtain ⟨networkID, nodeID, assignment, lookup, sameID, key⟩ :=
      sound.owned identifier owner before
    have kept : ¬deleted networkID nodeID assignment :=
      fun doomed => safe _ _ _ lookup doomed sameID
    exact ⟨networkID, nodeID, assignment, (lookups _ _ _).mpr ⟨lookup, kept⟩, sameID, key⟩
  owner freeLater networkID nodeID assignment stored := by
    have free := NulFreeNetworks.of_kept networksKept freeLater
    obtain ⟨lookup, kept⟩ := (lookups _ _ _).mp stored
    have entry := sound.owner free networkID nodeID assignment lookup
    refine (entries _ _).mpr ⟨entry, fun other target twin twinLookup doomed sameID => kept ?_⟩
    -- a deleted twin of the same identifier would have the same owner key
    have twinEntry := sound.owner free other target twin twinLookup
    rw [sameID, entry] at twinEntry
    obtain ⟨network, present⟩ := sound.network networkID nodeID assignment lookup
    obtain ⟨otherNetwork, otherPresent⟩ := sound.network other target twin twinLookup
    obtain ⟨rfl, rfl⟩ := ownerKey_injective (free _ _ present) (free _ _ otherPresent)
      (Option.some.inj twinEntry)
    cases lookup.symm.trans twinLookup
    exact doomed

theorem RelaysSound.frame (sound : RelaysSound networks memberships relays owners)
    (networksKept : NetworksKept networks networks')
    (membersKept : ∀ networkID nodeID membership,
      lookup₂ memberships networkID nodeID = some membership →
        lookup₂ memberships' networkID nodeID = some membership) :
    RelaysSound networks' memberships' relays owners :=
  sound.restrict networksKept (fun _ _ _ => False) (by simp) (by simp)
    fun networkID _ _ _ member membership _ => membersKept networkID member membership

end Frames

section Increments

variable {networkIDs : List String} {repository : MemoryRepository}

theorem NetworksKept.increments (distinct : networkIDs.Nodup) (repository : MemoryRepository) :
    NetworksKept repository.networks
      (networkIDs.foldl incrementNetworkVersionLocked repository).networks := by
  intro networkID network stored
  rw [foldl_increment_networks distinct]
  split_ifs
  · exact ⟨bumped network, by rw [getD_of_stored stored], rfl⟩
  · exact ⟨network, stored, rfl⟩

theorem NetworksSound.increments (sound : NetworksSound repository.networks)
    (distinct : networkIDs.Nodup)
    (present : ∀ networkID ∈ networkIDs,
      ∃ network, repository.networks[networkID]? = some network) :
    NetworksSound (networkIDs.foldl incrementNetworkVersionLocked repository).networks := by
  intro networkID network stored
  rw [foldl_increment_networks distinct] at stored
  split_ifs at stored with listed
  · obtain ⟨existing, lookup⟩ := present networkID listed
    rw [getD_of_stored lookup] at stored
    cases stored
    exact sound networkID existing lookup
  · exact sound networkID network stored

theorem Integrity.increments (sound : Integrity repository) (distinct : networkIDs.Nodup)
    (present : ∀ networkID ∈ networkIDs,
      ∃ network, repository.networks[networkID]? = some network) :
    Integrity (networkIDs.foldl incrementNetworkVersionLocked repository) := by
  have kept := NetworksKept.increments distinct repository
  have named := sound.networks.increments distinct present
  rw [foldl_increment_eq]
  exact { sound with
    networks := named
    memberships := sound.memberships.frame kept (NodesKept.refl _)
    invites := sound.invites.frame kept (NodesKept.refl _)
    relays := sound.relays.frame kept fun _ _ _ stored => stored }

theorem Integrity.increment (sound : Integrity repository)
    (present : ∃ network, repository.networks[networkID]? = some network) :
    Integrity (incrementNetworkVersionLocked repository networkID) :=
  sound.increments (List.nodup_singleton networkID) (List.forall_mem_singleton.mpr present)

end Increments

theorem integrity_new (maxAge : Duration) :
    Integrity (newMemoryRepositoryWithEndpointMaxAge maxAge) where
  networks := by
    intro networkID network stored
    simp [newMemoryRepositoryWithEndpointMaxAge] at stored
  nodes := ⟨by simp [newMemoryRepositoryWithEndpointMaxAge], Indexed.empty⟩
  memberships := by constructor <;> simp [newMemoryRepositoryWithEndpointMaxAge]
  invites := ⟨by simp [newMemoryRepositoryWithEndpointMaxAge], Indexed.empty,
    by simp [newMemoryRepositoryWithEndpointMaxAge],
    by simp [newMemoryRepositoryWithEndpointMaxAge]⟩
  endpoints := by constructor <;> simp [newMemoryRepositoryWithEndpointMaxAge]
  relays := by constructor <;> simp [newMemoryRepositoryWithEndpointMaxAge]

variable {repository : MemoryRepository}

theorem Integrity.storeNetwork (sound : Integrity repository) {network : Network}
    (named : network.id = networkID) (fresh : repository.networks[networkID]? = none) :
    Integrity { repository with networks := repository.networks.insert networkID network } := by
  have kept := NetworksKept.insert_fresh fresh network
  exact { sound with
    networks := forall_insert named sound.networks
    memberships := sound.memberships.frame kept (NodesKept.refl _)
    invites := sound.invites.frame kept (NodesKept.refl _)
    relays := sound.relays.frame kept fun _ _ _ stored => stored }

variable {node : Node}

theorem Integrity.storeNode (sound : Integrity repository) {publicKeys : GoMap String}
    (named : node.id = nodeID)
    (indexed : Indexed publicKeys (repository.nodes.insert nodeID node) Node.publicKey) :
    Integrity { repository with
      nodes := repository.nodes.insert nodeID node, publicKeys := publicKeys } :=
  { sound with
    nodes := ⟨forall_insert named sound.nodes.named, indexed⟩
    memberships := sound.memberships.frame (NetworksKept.refl _) (NodesKept.insert _ _ _)
    invites := sound.invites.frame (NetworksKept.refl _) (NodesKept.insert _ _ _)
    endpoints := sound.endpoints.frame (NodesKept.insert _ _ _) }

theorem Integrity.addNode (sound : Integrity repository)
    (freshNode : repository.nodes[node.id]? = none)
    (freshKey : repository.publicKeys[node.publicKey]? = none) :
    Integrity { repository with
      nodes := repository.nodes.insert node.id node
      publicKeys := repository.publicKeys.insert node.publicKey node.id } :=
  sound.storeNode rfl (sound.nodes.indexed.insert freshNode freshKey)

theorem Integrity.rewriteNode (sound : Integrity repository) {rewritten : Node}
    (stored : repository.nodes[nodeID]? = some node) (sameID : rewritten.id = node.id)
    (sameKey : rewritten.publicKey = node.publicKey) :
    Integrity { repository with nodes := repository.nodes.insert nodeID rewritten } :=
  sound.storeNode (sameID.trans (sound.nodes.named nodeID node stored))
    (sound.nodes.indexed.replace stored sameKey)

theorem ne_of_not_names {assignment : RelayAssignment} (unnamed : ¬names assignment nodeID = true) :
    assignment.nodeID ≠ nodeID ∧ assignment.relayNodeID ≠ nodeID := by
  simpa [names] using unnamed

theorem withoutNode_invite {inviteID : String} {invite : Invite}
    (stored : (withoutNode repository nodeID node).invites[inviteID]? = some invite) :
    ∃ before, repository.invites[inviteID]? = some before ∧
      invite = if before.consumedByNodeID = nodeID then { before with consumedByNodeID := "" }
        else before := by
  simp only [DbMemory.withoutNode, Std.ExtTreeMap.getElem?_map, Option.map_eq_some_iff] at stored
  obtain ⟨before, lookup, rewritten⟩ := stored
  exact ⟨before, lookup, rewritten.symm⟩

theorem Integrity.withoutNode (sound : Integrity repository)
    (stored : repository.nodes[nodeID]? = some node) :
    Integrity (withoutNode repository nodeID node) where
  networks := sound.networks
  nodes := by
    refine ⟨fun other existing lookup => ?_, sound.nodes.indexed.erase stored⟩
    exact sound.nodes.named other existing (getElem?_erase_eq_some.mp lookup).2
  memberships := by
    refine sound.memberships.restrict (NetworksKept.refl _)
      (fun networkID member membership lookup => ?_)
      fun networkID member membership lookup existing present => ?_
    all_goals
      have inverted := withoutNode_membership? repository nodeID node networkID member
      rw [MemoryRepository.membership?, lookup] at inverted
      split_ifs at inverted with same
    · exact inverted.symm
    · exact ⟨existing, (getElem?_erase_ne same).trans present⟩
  invites := {
    named := fun inviteID invite lookup => by
      obtain ⟨before, storedBefore, rfl⟩ := withoutNode_invite lookup
      exact (apply_ite Invite.id _ _ _).trans
        (by simp [sound.invites.named inviteID before storedBefore])
    indexed := sound.invites.indexed.map _ fun invite => by split <;> rfl
    network := fun inviteID invite lookup => by
      obtain ⟨before, storedBefore, rfl⟩ := withoutNode_invite lookup
      have network := sound.invites.network inviteID before storedBefore
      split <;> exact network
    consumer := fun inviteID invite lookup named => by
      obtain ⟨before, storedBefore, rfl⟩ := withoutNode_invite lookup
      split_ifs at named ⊢ with cleared
      · exact absurd rfl named
      · obtain ⟨consumer, present⟩ := sound.invites.consumer inviteID before storedBefore named
        exact ⟨consumer, (getElem?_erase_ne (Ne.symm cleared)).trans present⟩ }
  endpoints := by
    constructor
    · intro other candidates lookup
      obtain ⟨different, before⟩ := getElem?_erase_eq_some.mp lookup
      obtain ⟨existing, present⟩ := sound.endpoints.node other candidates before
      exact ⟨existing, (getElem?_erase_ne different).trans present⟩
    · intro other candidates lookup
      exact sound.endpoints.candidates other candidates (getElem?_erase_eq_some.mp lookup).2
  relays := by
    refine sound.relays.restrict (NetworksKept.refl _)
      (fun _ _ assignment => names assignment nodeID = true)
      (fun networkID target assignment => ?_) (fun identifier owner => ?_)
      (fun networkID target assignment lookup member membership involved present => ?_)
    · have inverted := withoutNode_relayAssignment? repository nodeID node networkID target
      rw [MemoryRepository.relayAssignment?] at inverted
      rw [inverted, Option.filter_eq_some_iff]
      simp [MemoryRepository.relayAssignment?]
    · exact withoutNode_owners repository nodeID node identifier owner
    · have inverted := withoutNode_relayAssignment? repository nodeID node networkID target
      rw [MemoryRepository.relayAssignment?, lookup, eq_comm, Option.filter_eq_some_iff] at inverted
      have unnamed := ne_of_not_names (by simpa using inverted.2)
      have targeted := (sound.relays.named networkID target assignment inverted.1).2
      have different : nodeID ≠ member := by
        rcases involved with rfl | rfl
        · exact fun same => unnamed.1 (targeted.trans same.symm)
        · exact Ne.symm unnamed.2
      exact (withoutNode_membership? repository nodeID node networkID member).trans
        ((if_neg different).trans present)

theorem Integrity.memberNetwork (sound : Integrity repository)
    (listed : networkID ∈ networksOfNode repository nodeID) :
    ∃ network, repository.networks[networkID]? = some network := by
  obtain ⟨membership, lookup⟩ := mem_networksOfNode.mp listed
  obtain ⟨network, present, -⟩ := sound.memberships.pool _ _ _ lookup
  exact ⟨network, present⟩

theorem Integrity.affectedNetwork (sound : Integrity repository)
    (affected : networkID ∈ affectedNetworks repository nodeID) :
    ∃ network, repository.networks[networkID]? = some network := by
  rcases mem_affectedNetworks.mp affected with member | relay
  · exact sound.memberNetwork member
  · obtain ⟨target, assignment, lookup, -⟩ := mem_networksOfRelay.mp relay
    exact sound.relays.network _ _ _ lookup

theorem validateIPv4InPool_ok {address : IP} {ipv4Pool : String}
    (valid : validateIPv4InPool address ipv4Pool = .ok ()) :
    ∃ bytes cidr, to4 address = some bytes ∧ parseCIDR ipv4Pool = some cidr ∧
      contains cidr.network bytes = true := by
  simp only [validateIPv4InPool, invalidWhen_bind_ok, invalidWhen_ok, Bool.not_eq_false',
    Option.any_eq_true] at valid
  obtain ⟨isIPv4, -, -, cidr, parsed, inside⟩ := valid
  obtain ⟨bytes, converted⟩ := Option.isSome_iff_exists.mp (by simpa using isIPv4)
  rw [converted, Option.getD_some] at inside
  exact ⟨bytes, cidr, converted, parsed, inside⟩

theorem MembershipsSound.insert {networks : GoMap Network} {nodes : GoMap Node}
    {memberships : GoMap (GoMap Membership)} (sound : MembershipsSound networks nodes memberships)
    (membership : Membership)
    (node : ∃ node, nodes[membership.nodeID]? = some node)
    (pool : ∃ network, networks[membership.networkID]? = some network ∧
      inPool network.ipv4Pool membership.virtualIPv4)
    (free : ∀ nodeID existing, lookup₂ memberships membership.networkID nodeID = some existing →
      equal existing.virtualIPv4 membership.virtualIPv4 = false) :
    MembershipsSound networks nodes
      (insert₂ memberships membership.networkID membership.nodeID membership) where
  named := forall_insert₂ ⟨rfl, rfl⟩ sound.named
  node := forall_insert₂ node sound.node
  pool := forall_insert₂ pool sound.pool
  distinct networkID first second left right storedLeft storedRight clash := by
    rw [lookup₂_insert₂] at storedLeft storedRight
    split_ifs at storedLeft storedRight with isLeft isRight isRight
    · exact isLeft.2.symm.trans isRight.2
    · obtain ⟨rfl, -⟩ := isLeft
      cases storedLeft
      rw [equal_comm, free second right storedRight] at clash
      cases clash
    · obtain ⟨rfl, -⟩ := isRight
      cases storedRight
      rw [free first left storedLeft] at clash
      cases clash
    · exact sound.distinct _ _ _ _ _ storedLeft storedRight clash

theorem Integrity.addMembership (sound : Integrity repository) {membership : Membership}
    {network : Network} (present : repository.networks[membership.networkID]? = some network)
    (node : ∃ node, repository.nodes[membership.nodeID]? = some node)
    (valid : validateIPv4InPool membership.virtualIPv4 network.ipv4Pool = .ok ())
    (fresh : repository.membership? membership.networkID membership.nodeID = none)
    (free : ∀ nodeID existing,
      repository.membership? membership.networkID nodeID = some existing →
        equal existing.virtualIPv4 membership.virtualIPv4 = false) :
    Integrity { repository with
      memberships := insert₂ repository.memberships membership.networkID membership.nodeID
        { membership with virtualIPv4 := (to4 membership.virtualIPv4).getD [] } } := by
  obtain ⟨bytes, cidr, converted, parsed, inside⟩ := validateIPv4InPool_ok valid
  rw [converted, Option.getD_some]
  exact { sound with
    memberships := sound.memberships.insert { membership with virtualIPv4 := bytes } node
      ⟨network, present, cidr, parsed, inside⟩
      fun nodeID existing stored => (equal_to4 converted _).trans (free nodeID existing stored)
    relays := sound.relays.frame (NetworksKept.refl _) fun networkID nodeID existing stored => by
      rw [lookup₂_insert₂, if_neg]
      · exact stored
      · rintro ⟨rfl, rfl⟩
        rw [MemoryRepository.membership?, stored] at fresh
        cases fresh }

theorem Integrity.withoutMember (sound : Integrity repository) {members : GoMap Membership}
    (nodeID : String) (stored : repository.memberships[networkID]? = some members) :
    Integrity (DbMemory.withoutMember repository networkID nodeID members) := by
  have lookups := withoutMember_membership? repository networkID nodeID stored
  have memberships : MembershipsSound repository.networks repository.nodes
      (DbMemory.withoutMember repository networkID nodeID members).memberships := by
    refine sound.memberships.restrict (NetworksKept.refl _)
      (fun other node existing lookup => ?_) fun _ _ _ _ node present => ⟨node, present⟩
    have inverted := lookups other node
    rw [MemoryRepository.membership?, lookup] at inverted
    split_ifs at inverted
    exact inverted.symm
  have relays : RelaysSound repository.networks
      (DbMemory.withoutMember repository networkID nodeID members).memberships
      (DbMemory.withoutMember repository networkID nodeID members).relayAssignments
      (DbMemory.withoutMember repository networkID nodeID members).relayAssignmentOwners := by
    refine sound.relays.restrict (NetworksKept.refl _)
      (fun other target assignment =>
        networkID = other ∧ (target = nodeID ∨ names assignment nodeID = true))
      (fun other target assignment => detachNode_relayAssignment? _ _ _ other target assignment)
      (fun identifier owner => (detachNode_owners _ _ _ identifier owner).trans ?_)
      (fun other target assignment lookup involved existing isInvolved present => ?_)
    · refine and_congr_right fun _ => ⟨?_, ?_⟩
      · rintro safe _ target assignment present ⟨rfl, doomed⟩
        exact safe target assignment present doomed
      · intro safe target assignment present doomed
        exact safe networkID target assignment present ⟨rfl, doomed⟩
    · obtain ⟨before, kept⟩ := (detachNode_relayAssignment? _ _ _ _ _ _).mp lookup
      refine (lookups other involved).trans ((if_neg ?_).trans present)
      rintro ⟨rfl, rfl⟩
      rcases isInvolved with rfl | rfl
      · exact kept ⟨rfl, Or.inl rfl⟩
      · exact kept ⟨rfl, Or.inr (by simp [names])⟩
  rw [DbMemory.withoutMember, detachNode_frame] at memberships relays ⊢
  exact { sound with memberships := memberships, relays := relays }

end Ipv6Mesh.DbIntegrity
