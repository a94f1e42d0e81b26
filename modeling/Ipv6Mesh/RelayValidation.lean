import Ipv6Mesh.RelayConfig
import Ipv6Mesh.RelayOutcomes

/-!
# Validated relay configurations

What `Config.Validate` accepts is `Sound`, and a sound configuration passes
every later check: the one of the WireGuard configuration, the ones of the
WireGuard manager and the one of the route manager. What can still fail in
`Runtime.Apply` is the host.
-/

namespace Ipv6Mesh.RelayValidation

open GoFlow hiding bind_eq_ok
open GoNet GoProgram
open WgntApi (Key parseKey WireGuardPeer Configuration)
open RelayRoutes (validInterfaceName validateRelayRoutes routeKey RouteError Invocation
  System)
open RelayOutcomes (toText_host)
open RelayConfig
open Std (ExtTreeMap)

structure Serves (relayAddress : Addr) (peer : Peer) (key : Key) (host : BitVec 32) : Prop where
  parsed : parseKey peer.publicKey = some key
  nonzero : key.isZero = false
  address : peer.virtualIPv4 = .v4 host
  specified : (Addr.v4 host).isUnspecified = false
  foreign : Addr.v4 host ≠ relayAddress
  endpoint : (peer.endpoint.isValid && peer.endpoint.port = 0) = false

theorem refuse_ok {refused : Bool} {error : ConfigError} {value : Unit} :
    refuse refused error = .ok value ↔ refused = false := by
  cases refused <;> simp [refuse]

theorem peerKey_ok {peer : Peer} {key : Key} :
    peerKey peer = .ok key ↔ parseKey peer.publicKey = some key ∧ key.isZero = false := by
  unfold peerKey
  cases parseKey peer.publicKey with
  | none => simp
  | some found =>
    by_cases zero : found.isZero = true
    · simp only [zero, if_true, Option.some.injEq]
      refine iff_of_false (by simp) ?_
      rintro ⟨rfl, nonzero⟩
      exact absurd zero (by simp [nonzero])
    · simp only [zero, Bool.false_eq_true, if_false, Except.ok.injEq, Option.some.injEq]
      constructor
      · rintro rfl
        exact ⟨rfl, Bool.eq_false_iff.mpr zero⟩
      · exact fun both => both.1

theorem usableIPv4 {address : Addr} (usable : unusableIPv4 address = false) :
    ∃ host, address = .v4 host ∧ (Addr.v4 host).isUnspecified = false := by
  simp only [unusableIPv4, Bool.or_eq_false_iff, Bool.not_eq_false'] at usable
  cases address with
  | v4 host => exact ⟨host, rfl, usable.1.2⟩
  | invalid => exact absurd usable.1.1.2 (by decide)
  | v6 value zone => exact absurd usable.1.1.2 (by simp [Addr.is4])

structure Sound (relayAddress : Addr) (seenKeys : List Key) (seenAddresses : List Addr)
    (peers : List Peer) (served : List (Key × BitVec 32)) : Prop where
  serves : List.Forall₂ (fun peer identity => Serves relayAddress peer identity.1 identity.2)
    peers served
  keys : (served.map Prod.fst).Nodup
  newKeys : ∀ identity ∈ served, identity.1 ∉ seenKeys
  hosts : (served.map Prod.snd).Nodup
  newHosts : ∀ identity ∈ served, Addr.v4 identity.2 ∉ seenAddresses

theorem sound_of_validatePeers {relayAddress : Addr} {peers : List Peer} {seenKeys : List Key}
    {seenAddresses : List Addr} {index : Nat}
    (accepted : validatePeers relayAddress index peers seenKeys seenAddresses = .ok ()) :
    ∃ served, Sound relayAddress seenKeys seenAddresses peers served := by
  induction peers generalizing index seenKeys seenAddresses with
  | nil => exact ⟨[], .nil, by simp, by simp, by simp, by simp⟩
  | cons peer rest ih =>
    simp only [validatePeers, GoFlow.bind_eq_ok, refuse_ok, peerKey_ok, decide_eq_false_iff_not]
      at accepted
    obtain ⟨-, -, key, ⟨parsed, nonzero⟩, -, newKey, -, usable, -, foreign, -, newAddress, -,
      endpoint, later⟩ := accepted
    obtain ⟨host, address, specified⟩ := usableIPv4 usable
    rw [address] at foreign newAddress later
    obtain ⟨served, sound⟩ := ih later
    have portGiven : (peer.endpoint.isValid && peer.endpoint.port = 0) = false := by
      simp only [unusableEndpoint, Bool.and_eq_false_iff, Bool.or_eq_false_iff] at endpoint ⊢
      exact endpoint.imp_right fun given => given.1.1
    have serves : Serves relayAddress peer key host :=
      ⟨parsed, nonzero, address, specified, foreign, portGiven⟩
    refine ⟨(key, host) :: served, .cons serves sound.serves, ?_, ?_, ?_, ?_⟩
    · refine List.nodup_cons.mpr ⟨fun again => ?_, sound.keys⟩
      obtain ⟨identity, listed, same⟩ := List.mem_map.mp again
      exact sound.newKeys identity listed (same ▸ List.mem_cons_self)
    · exact List.forall_mem_cons.mpr ⟨newKey, fun identity listed known =>
        sound.newKeys identity listed (List.mem_cons_of_mem _ known)⟩
    · refine List.nodup_cons.mpr ⟨fun again => ?_, sound.hosts⟩
      obtain ⟨identity, listed, same⟩ := List.mem_map.mp again
      exact sound.newHosts identity listed (same ▸ List.mem_cons_self)
    · exact List.forall_mem_cons.mpr ⟨newAddress, fun identity listed known =>
        sound.newHosts identity listed (List.mem_cons_of_mem _ known)⟩

structure SoundConfig (config : Config) (served : List (Key × BitVec 32)) : Prop where
  named : validInterfaceName config.interfaceName = true
  privateKey : config.privateKey.isZero = false
  address : ∃ host, config.virtualIPv4 = .v4 host ∧ (Addr.v4 host).isUnspecified = false
  peers : Sound config.virtualIPv4 [] [] config.peers served

theorem sound_of_validate {config : Config} (accepted : config.validate = .ok ()) :
    ∃ served, SoundConfig config served := by
  simp only [Config.validate, check_eq_ok, refuse_ok, Bool.or_eq_false_iff, Bool.not_eq_false']
    at accepted
  obtain ⟨⟨-, privateKey⟩, named, usable, -, loop⟩ := accepted
  obtain ⟨served, sound⟩ := sound_of_validatePeers loop
  exact ⟨served, named, privateKey, usableIPv4 usable, sound⟩

theorem prefixFrom_host (host : BitVec 32) : prefixFrom (.v4 host) 32 = ⟨.v4 host, some 32⟩ := by
  simp [prefixFrom, Addr.isValid, Addr.bitLen]

section Peers

variable {relayAddress : Addr}

theorem Serves.wireGuardPeer {peer : Peer} {key : Key} {host : BitVec 32}
    (serves : Serves relayAddress peer key host) :
    wireGuardPeer peer = ⟨key, peer.endpoint, 0, [⟨.v4 host, some 32⟩]⟩ := by
  rw [RelayConfig.wireGuardPeer, serves.parsed, serves.address, prefixFrom_host]
  rfl

theorem Serves.validPeer {peer : Peer} {key : Key} {host : BitVec 32}
    (serves : Serves relayAddress peer key host) :
    WgntApi.ValidPeer (RelayConfig.wireGuardPeer peer) := by
  rw [serves.wireGuardPeer]
  refine ⟨serves.nonzero, fun valid => ?_, rfl, ?_⟩
  · simpa [valid] using serves.endpoint
  · simp [WgntApi.HostRoute, NetPrefix.isValid, Addr.is6]

section Accepted

variable {peers : List Peer} {served : List (Key × BitVec 32)}
  (serves : List.Forall₂ (fun peer identity => Serves relayAddress peer identity.1 identity.2)
    peers served)

include serves

theorem map_publicKey : (peers.map wireGuardPeer).map (·.publicKey) = served.map Prod.fst := by
  induction serves with
  | nil => rfl
  | cons here _ ih =>
    rw [List.map_cons, List.map_cons, List.map_cons, ih, here.wireGuardPeer]

theorem validPeers : ∀ peer ∈ peers.map wireGuardPeer, WgntApi.ValidPeer peer := by
  induction serves with
  | nil => simp
  | cons here _ ih => exact List.forall_mem_cons.mpr ⟨here.validPeer, ih⟩

end Accepted

theorem peerArguments_accepts {peers : List Peer} {served : List (Key × BitVec 32)}
    (serves : List.Forall₂ (fun peer identity => Serves relayAddress peer identity.1 identity.2)
      peers served) :
    ∃ arguments, peerArguments (peers.map wireGuardPeer) = .ok arguments := by
  induction serves with
  | nil => exact ⟨[], rfl⟩
  | @cons peer _ _ _ here _ ih =>
    obtain ⟨others, accepted⟩ := ih
    have single : singleHost (wireGuardPeer peer).allowedIPs = true := by
      rw [here.wireGuardPeer]
      rfl
    rw [List.map_cons, peerArguments, single, accepted]
    exact ⟨_, rfl⟩

theorem routeKey_host (host : BitVec 32) :
    routeKey ⟨.v4 host, some 32⟩ = String.ofList (Addr.v4 host).toText ++ "/32" := by
  rw [RelayOutcomes.HostRoute.routeKey ⟨host, rfl⟩, toText_host]

theorem routeKey_injective {left right : BitVec 32}
    (same : routeKey ⟨.v4 left, some 32⟩ = routeKey ⟨.v4 right, some 32⟩) : left = right := by
  rw [routeKey_host, routeKey_host, String.append_left_inj] at same
  exact Addr.v4.inj (Addr.toText_injective (String.ofList_injective same))

theorem routes_accept {peers : List Peer} {served : List (Key × BitVec 32)}
    {seen : ExtTreeMap String Unit}
    (serves : List.Forall₂ (fun peer identity => Serves relayAddress peer identity.1 identity.2)
      peers served)
    (distinct : (served.map Prod.snd).Nodup)
    (new : ∀ identity ∈ served, seen[routeKey ⟨.v4 identity.2, some 32⟩]? = none) :
    RelayRoutes.validatePeers relayAddress
      (peers.map fun peer => prefixFrom peer.virtualIPv4 32) seen = .ok () := by
  induction serves generalizing seen with
  | nil => rfl
  | @cons peer identity rest others here _ ih =>
    rw [List.map_cons, List.nodup_cons] at distinct
    obtain ⟨newKey, newRest⟩ := List.forall_mem_cons.mp new
    have later := @ih (seen.insert (routeKey ⟨.v4 identity.2, some 32⟩) ()) distinct.2
      fun other listed => by
        rw [ExtTreeMap.getElem?_insert, if_neg, newRest other listed]
        intro same
        have hosts := routeKey_injective (compare_eq_iff_eq.mp same)
        exact distinct.1 (hosts ▸ List.mem_map_of_mem listed)
    simp only [List.map_cons, here.address, prefixFrom_host, RelayRoutes.validatePeers,
      check_eq_ok, RelayRoutes.refuseConfig, newKey, later, here.specified, here.foreign]
    simp [NetPrefix.isValid, Addr.is4]

end Peers

def WireGuardExternal : WireGuardError → Prop
  | .context _ | .command _ _ | .keyFile _ _ => True
  | .configuration _ | .invalidConfig _ => False

def RouteExternal : RouteError → Prop
  | .context _ | .wrapped _ _ | .command _ => True
  | .invalidConfig | .duplicateAddress => False

/-- The error came from a command or the context, not from a check. -/
def External : RuntimeError → Prop
  | .configuration _ => False
  | .wireGuard error => WireGuardExternal error
  | .routes errors rollback =>
    (∀ error ∈ errors, RouteExternal error) ∧ ∀ error ∈ rollback, WireGuardExternal error

section WireGuard

variable {Value Result : Type} {host : Host}

def StopsExternally (program : Program (List Command) WireGuardError Value) : Prop :=
  ∀ history, wp program (fun _ _ => True) (fun error _ => WireGuardExternal error) history

theorem StopsExternally.bind {first : Program (List Command) WireGuardError Value}
    {next : Value → Program (List Command) WireGuardError Result}
    (firstStops : StopsExternally first) (nextStops : ∀ value, StopsExternally (next value)) :
    StopsExternally (first >>= next) := by
  intro history
  rw [wp_bind]
  exact wp_mono (firstStops history) (fun value after _ => nextStops value after)
    fun _ _ external => external

theorem stopsExternally_mustRun (detail : String) (command : Command) :
    StopsExternally (mustRun host detail command) := by
  intro history
  rw [mustRun, wp_bind, wp_mapStop, wp]
  rcases runCommand host command history with ⟨failure | _, after⟩ <;> trivial

theorem stopsExternally_ensureLink (interfaceName : String) :
    StopsExternally (ensureLink host interfaceName) := by
  intro history
  rw [wp, ensureLink]
  rcases runCommand host ["ip", "link", "show", "dev", interfaceName] history with
    ⟨failure | _, after⟩
  · exact stopsExternally_mustRun _ _ after
  · trivial

theorem stopsExternally_removePeers (interfaceName : String) (desiredKeys keys : List String) :
    StopsExternally (removePeers host interfaceName desiredKeys keys) := by
  induction keys with
  | nil => exact fun _ => trivial
  | cons publicKey rest ih =>
    rw [removePeers]
    split_ifs
    · exact ih
    · exact (stopsExternally_mustRun _ _).bind fun _ => ih

theorem stopsExternally_removeStalePeers (interfaceName : String) (desiredKeys : List String) :
    StopsExternally (removeStalePeers host interfaceName desiredKeys) := by
  intro history
  rw [wp, removeStalePeers]
  rcases runCommand host ["wg", "show", interfaceName, "peers"] history with
    ⟨failure | existing, after⟩
  · trivial
  · exact stopsExternally_removePeers interfaceName desiredKeys _ after

def FailsExternally (outcome : Except WireGuardError Value) : Prop :=
  ∀ error, outcome = .error error → WireGuardExternal error

theorem FailsExternally.bind {first : Except WireGuardError Value}
    {next : Value → Except WireGuardError Result} (firstFails : FailsExternally first)
    (nextFails : ∀ value, FailsExternally (next value)) : FailsExternally (first >>= next) := by
  cases first with
  | error error =>
    rintro _ ⟨⟩
    exact firstFails error rfl
  | ok value => exact nextFails value

theorem failsExternally_contextError (ctx : ControlModel.Context) :
    FailsExternally (contextError ctx) := by
  intro error failed
  cases ctx <;> cases failed <;> trivial

theorem failsExternally_keyFileCall (failure : Option String) :
    FailsExternally (keyFileCall failure) := by
  intro error failed
  cases failure <;> cases failed
  trivial

theorem failsExternally_writePrivateKey (tempDir : String) :
    FailsExternally (writePrivateKey host tempDir) := by
  have created : FailsExternally
      (host.createTemp.mapError (.keyFile "create temporary relay key file")) := by
    intro error failed
    cases outcome : host.createTemp <;> rw [outcome] at failed <;> cases failed
    trivial
  have rest : FailsExternally (do
      let path ← host.createTemp.mapError (.keyFile "create temporary relay key file")
      keyFileCall host.chmod
      keyFileCall host.writeString
      keyFileCall host.close
      return path) :=
    created.bind fun _ => (failsExternally_keyFileCall _).bind fun _ =>
      (failsExternally_keyFileCall _).bind fun _ => (failsExternally_keyFileCall _).bind
        fun _ _ returned => by cases returned
  unfold writePrivateKey
  split_ifs
  · exact (failsExternally_keyFileCall _).bind fun _ => rest
  · exact rest

theorem stopsExternally_ask {read : Except WireGuardError Value} (fails : FailsExternally read) :
    StopsExternally (ask fun _ => read) := by
  intro history
  rw [wp_ask]
  cases read with
  | error error => exact fails error rfl
  | ok value => trivial

theorem stopsExternally_named {interfaceName : String}
    (named : validInterfaceName interfaceName = true) (detail : String) :
    StopsExternally (stopWhen (!validInterfaceName interfaceName) (.invalidConfig detail)) := by
  intro history
  rw [wp_stopWhen, named]
  exact ⟨fun stops => (by cases stops), fun _ => trivial⟩

theorem stopsExternally_wireGuardApply (host : Host) (tempDir : String)
    (ctx : ControlModel.Context) {interfaceName : String} {configuration : Configuration}
    {arguments : List String}
    (valid : configuration.validate = .ok ()) (named : validInterfaceName interfaceName = true)
    (accepted : peerArguments configuration.peers = .ok arguments) :
    StopsExternally (wireGuardApply host tempDir ctx interfaceName configuration) := by
  have checked : StopsExternally (mapStop WireGuardError.configuration
      (ask fun _ : List Command => configuration.validate)) := by
    intro history
    rw [wp_mapStop, wp_ask, valid]
    trivial
  refine checked.bind fun _ => (stopsExternally_named named _).bind fun _ =>
    (stopsExternally_ask (failsExternally_contextError ctx)).bind fun _ =>
    (stopsExternally_ensureLink _).bind fun _ =>
    (stopsExternally_ask (failsExternally_writePrivateKey tempDir)).bind fun _ =>
    (stopsExternally_removeStalePeers _ _).bind fun _ =>
    (stopsExternally_ask fun error failed => ?_).bind fun _ =>
    (stopsExternally_mustRun _ _).bind fun _ => stopsExternally_mustRun _ _
  rw [accepted] at failed
  cases failed

theorem stopsExternally_wireGuardDown (host : Host) (ctx : ControlModel.Context)
    {interfaceName : String} (named : validInterfaceName interfaceName = true) :
    StopsExternally (wireGuardDown host ctx interfaceName) :=
  (stopsExternally_ask (failsExternally_contextError ctx)).bind fun _ =>
    (stopsExternally_named named _).bind fun _ => stopsExternally_mustRun _ _

end WireGuard

section Routes

variable {invocation : Invocation} {interfaceName : String} {local_ : Addr}

theorem addPhase_external {manager : RelayRoutes.RouteManager}
    {desired : ExtTreeMap String NetPrefix} {kernel after : RelayRoutes.Kernel}
    {error : RouteError}
    (failed : RelayRoutes.addPhase invocation manager interfaceName local_ desired kernel =
      (.error error, after)) : RouteExternal error := by
  unfold RelayRoutes.addPhase at failed
  split at failed
  · cases failed
    trivial
  · split at failed <;> cases failed
    trivial

theorem deletePhase_external {manager : RelayRoutes.RouteManager}
    {desired : ExtTreeMap String NetPrefix} {kernel after : RelayRoutes.Kernel}
    {error : RouteError}
    (failed : RelayRoutes.deletePhase invocation manager interfaceName local_ desired kernel =
      (some error, after)) : RouteExternal error := by
  unfold RelayRoutes.deletePhase at failed
  split at failed
  · cases failed
    trivial
  · split at failed <;> cases failed
    trivial

theorem apply_external {peers : List NetPrefix} {system : System}
    (accepted : validateRelayRoutes interfaceName local_ peers = .ok ()) :
    ∀ error ∈ (RelayRoutes.apply invocation interfaceName local_ peers system).1,
      RouteExternal error := by
  intro error listed
  unfold RelayRoutes.apply at listed
  rw [accepted] at listed
  cases live : RelayRoutes.contextError invocation.ctx with
  | error failure =>
    rw [live] at listed
    obtain rfl := List.mem_singleton.mp listed
    cases given : invocation.ctx <;> rw [given] at live <;> cases live <;> trivial
  | ok _ =>
    rw [live] at listed
    dsimp only [bind, Except.bind] at listed
    split at listed
    · rename_i added
      obtain rfl := List.mem_singleton.mp listed
      exact addPhase_external added
    · split at listed
      · rename_i deleted
        rcases List.mem_cons.mp listed with rfl | undone
        · exact deletePhase_external deleted
        · obtain ⟨refusal, -, rfl⟩ := List.mem_map.mp undone
          trivial
      · cases listed

end Routes

/-- One WireGuard peer for each configured one, under distinct keys and each
with one address of its own. -/
structure Writes (config : Config) (configuration : Configuration) : Prop where
  peers : List.Forall₂ (fun peer written => ∃ key host,
      parseKey peer.publicKey = some key ∧ peer.virtualIPv4 = .v4 host ∧
      Addr.v4 host ≠ config.virtualIPv4 ∧
      written = ⟨key, peer.endpoint, 0, [⟨.v4 host, some 32⟩]⟩)
    config.peers configuration.peers
  keys : (configuration.peers.map (·.publicKey)).Nodup
  allowedIPs : (configuration.peers.map (·.allowedIPs)).Pairwise List.Disjoint

/-- All checks on the way to the first command succeed. -/
structure Passes (config : Config) (configuration : Configuration) : Prop where
  checked : configuration.validate = .ok ()
  named : validInterfaceName config.interfaceName = true
  arguments : ∃ arguments, peerArguments configuration.peers = .ok arguments
  routes : validateRelayRoutes config.interfaceName config.virtualIPv4 config.overlay = .ok ()

section Written

variable {relayAddress : Addr} {peers : List Peer} {served : List (Key × BitVec 32)}
  (serves : List.Forall₂ (fun peer identity => Serves relayAddress peer identity.1 identity.2)
    peers served)

include serves

theorem map_allowedIPs : (peers.map wireGuardPeer).map (·.allowedIPs) =
    (served.map Prod.snd).map fun host => [⟨Addr.v4 host, some 32⟩] := by
  induction serves with
  | nil => rfl
  | cons here _ ih =>
    rw [List.map_cons, List.map_cons, List.map_cons, List.map_cons, ih, here.wireGuardPeer]

theorem forall₂_wireGuardPeer : List.Forall₂ (fun peer written => ∃ key host,
      parseKey peer.publicKey = some key ∧ peer.virtualIPv4 = .v4 host ∧
      Addr.v4 host ≠ relayAddress ∧ written = ⟨key, peer.endpoint, 0, [⟨.v4 host, some 32⟩]⟩)
    peers (peers.map wireGuardPeer) := by
  induction serves with
  | nil => exact .nil
  | cons here _ ih =>
    exact .cons ⟨_, _, here.parsed, here.address, here.foreign, here.wireGuardPeer⟩ ih

end Written

section Runtime

variable {config : Config} {served : List (Key × BitVec 32)}

def written (config : Config) : Configuration :=
  { privateKey := config.privateKey, listenPort := config.listenPort, replacePeers := true,
    peers := config.peers.map wireGuardPeer }

theorem SoundConfig.writes (sound : SoundConfig config served) :
    Writes config (written config) := by
  refine ⟨forall₂_wireGuardPeer sound.peers.serves, ?_, ?_⟩
  · exact (map_publicKey sound.peers.serves).symm ▸ sound.peers.keys
  · refine (map_allowedIPs sound.peers.serves).symm ▸ List.pairwise_map.mpr ?_
    refine sound.peers.hosts.imp fun apart => ?_
    simpa using Ne.symm apart

theorem SoundConfig.passes (sound : SoundConfig config served) :
    Passes config (written config) where
  checked := by
    refine WgntApi.Configuration.validate_ok.mpr ⟨?_, validPeers sound.peers.serves, ?_⟩
    · simp [written, sound.privateKey]
    · exact (map_publicKey sound.peers.serves).symm ▸ sound.peers.keys
  named := sound.named
  arguments := peerArguments_accepts sound.peers.serves
  routes := by
    obtain ⟨host, address, specified⟩ := sound.address
    rw [validateRelayRoutes, check_eq_ok, RelayOutcomes.refuseConfig_ok]
    refine ⟨?_, routes_accept sound.peers.serves sound.peers.hosts fun identity _ => by simp⟩
    simp [sound.named, address, specified, Addr.isValid, Addr.is4]

theorem apply_fails_externally {environment : Environment} {runtime : Runtime}
    {error : RuntimeError} (accepted : config.wireGuardConfiguration = .ok (written config))
    (passes : Passes config (written config))
    (failed : (Runtime.apply environment config runtime).1 = some error) : External error := by
  obtain ⟨arguments, taken⟩ := passes.arguments
  have configured := stopsExternally_wireGuardApply environment.host environment.tempDir
    environment.ctx passes.checked passes.named taken runtime.commands
  have routed := @apply_external environment.routes config.interfaceName config.virtualIPv4
    config.overlay runtime.routes passes.routes
  unfold Runtime.apply at failed
  simp only [accepted] at failed
  unfold wp at configured
  rcases ran : wireGuardApply environment.host environment.tempDir environment.ctx
      config.interfaceName (written config) runtime.commands with ⟨stop | _, commands⟩
  · simp only [ran] at failed configured
    obtain rfl := Option.some.inj failed
    exact configured
  · simp only [ran] at failed
    rcases applied : RelayRoutes.apply environment.routes config.interfaceName config.virtualIPv4
      config.overlay runtime.routes with ⟨errors, routes⟩
    rw [applied] at failed routed
    cases errors with
    | nil => cases failed
    | cons first others =>
      have undone := stopsExternally_wireGuardDown environment.host environment.rollbackCtx
        passes.named commands
      unfold wp at undone
      rcases down : wireGuardDown environment.host environment.rollbackCtx config.interfaceName
        commands with ⟨stop | _, after⟩
      · simp only [down] at failed undone
        obtain rfl := Option.some.inj failed
        exact ⟨routed, by simpa using undone⟩
      · simp only [down] at failed
        obtain rfl := Option.some.inj failed
        exact ⟨routed, by simp⟩

end Runtime

/-- A configuration that passes the first check passes all the others, and the
runtime can fail to apply it for external reasons only. -/
theorem validated_config_never_refused (config : Config) (valid : config.validate = .ok ()) :
    ∃ configuration, config.wireGuardConfiguration = .ok configuration ∧
      Writes config configuration ∧ Passes config configuration ∧
      ∀ environment runtime error,
        (Runtime.apply environment config runtime).1 = some error → External error := by
  obtain ⟨served, sound⟩ := sound_of_validate valid
  have accepted : config.wireGuardConfiguration = .ok (written config) := by
    have checked := sound.passes.checked
    rw [Config.wireGuardConfiguration, valid]
    dsimp only [written] at checked
    simp only [checked]
    rfl
  exact ⟨written config, accepted, sound.writes, sound.passes, fun environment runtime error =>
    apply_fails_externally accepted sound.passes⟩

theorem length_relayKey : (1 :: List.replicate 31 (0 : UInt8)).length = WgntApi.keySize := rfl

def twoPeerRelay : Config where
  networkID := "net"
  interfaceName := "wg0"
  listenPort := 51820
  virtualIPv4 := .v4 0x0a000001
  privateKey := ⟨1 :: List.replicate 31 0, length_relayKey⟩
  peers :=
    [⟨"a", "AQAAAAAAAAAAAAAAAAAAAAAAAAAAAAAAAAAAAAAAAAA=", .v4 0x0a000002, ⟨.v4 0xc6336407, 51820⟩⟩,
      ⟨"b", "AgAAAAAAAAAAAAAAAAAAAAAAAAAAAAAAAAAAAAAAAAA=", .v4 0x0a000003, AddrPort.zero⟩]

theorem two_peer_relay_never_refused :
    twoPeerRelay.validate = .ok () ∧
      ∃ configuration, twoPeerRelay.wireGuardConfiguration = .ok configuration ∧
        configuration.peers.length = 2 ∧ Passes twoPeerRelay configuration := by
  have valid : twoPeerRelay.validate = .ok () := by decide +kernel
  obtain ⟨configuration, built, writes, passes, -⟩ :=
    validated_config_never_refused twoPeerRelay valid
  exact ⟨valid, configuration, built, writes.peers.length_eq.symm, passes⟩

end Ipv6Mesh.RelayValidation
