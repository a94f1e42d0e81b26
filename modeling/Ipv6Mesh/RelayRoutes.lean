import Ipv6Mesh.ControlModel
import Ipv6Mesh.GoNetText
import Ipv6Mesh.StrictStore

/-!
# The routes of a relay

`internal/relay/routes.go` and `routes_linux.go`. The kernel is a strict store
of addresses and routes, each named by the text the `ip` command is given and
by its device. Which commands fail for a reason of their own, and the order in
which a map is walked, belong to an `Invocation`; the two undo loops are never
refused. A joined error is the list of its parts, and the nil error is empty.
-/

namespace Ipv6Mesh.RelayRoutes

open ControlModel GoNet StrictStore
open Std (ExtTreeMap)

inductive Kind where
  | address
  | route
deriving DecidableEq

structure Entry where
  kind : Kind
  target : String
  device : String
deriving DecidableEq

abbrev Kernel := Finset Entry

inductive Command where
  | add (entry : Entry)
  | delete (entry : Entry)
deriving DecidableEq

structure Order where
  arrange : List (String × NetPrefix) → List (String × NetPrefix)
  permutes : ∀ entries, (arrange entries).Perm entries

/-- What the environment contributes to one call of `Apply` or `Clear`. Outside
the undo loops no command is run twice in one call, so a refusal is a function
of the command. -/
structure Invocation where
  ctx : Context
  refusal : Command → Option String
  order : Order

inductive RouteError where
  | invalidConfig
  | duplicateAddress
  | context (err : Error)
  /-- What `fmt.Errorf` writes before the error of a command. -/
  | wrapped (detail : String) (refusal : Refusal String)
  | command (refusal : Refusal String)
deriving DecidableEq

abbrev Errors := List RouteError

def validInterfaceName (value : String) : Bool :=
  !(value = "" || 15 < value.utf8ByteSize) &&
    value.toList.all fun character => !(character ≤ ' ' || character = '/' || character = '\\')

def routeKey (network : NetPrefix) : String := network.masked.toText

def refuseConfig (refused : Bool) (error : RouteError) : Except RouteError Unit :=
  if refused then .error error else .ok ()

def validatePeers (local_ : Addr) : List NetPrefix → ExtTreeMap String Unit →
    Except RouteError Unit
  | [], _ => .ok ()
  | peer :: rest, seen => do
      refuseConfig (!peer.isValid || !peer.addr.is4 || peer.bits ≠ some 32 ||
        peer.addr.isUnspecified || peer.addr = local_) .invalidConfig
      refuseConfig seen[routeKey peer]?.isSome .duplicateAddress
      validatePeers local_ rest (seen.insert (routeKey peer) ())

def validateRelayRoutes (interfaceName : String) (local_ : Addr) (peers : List NetPrefix) :
    Except RouteError Unit := do
  refuseConfig (!validInterfaceName interfaceName || !local_.isValid || !local_.is4 ||
    local_.isUnspecified) .invalidConfig
  validatePeers local_ peers ∅

def contextError : Context → Except RouteError Unit
  | .nil => .error (.context (.sentinel .contextCanceled))
  | .live => .ok ()
  | .done err => .error (.context err)

structure RouteManager where
  owned : ExtTreeMap String NetPrefix
  address : Addr
  iface : String

structure System where
  manager : RouteManager
  kernel : Kernel

def newRouteManager : RouteManager := ⟨∅, .invalid, ""⟩

def addressEntry (device : String) (address : Addr) : Entry :=
  ⟨.address, String.ofList address.toText ++ "/32", device⟩

def routeEntry (device : String) (network : NetPrefix) : Entry :=
  ⟨.route, network.toText, device⟩

def addedEntry (device : String) (local_ : Addr) (network : NetPrefix) : Entry :=
  if network.addr = local_ then ⟨.address, network.toText, device⟩
  else ⟨.route, network.toText, device⟩

def rollbackAdded (interfaceName : String) (local_ : Addr) (added : List NetPrefix)
    (kernel : Kernel) : List (Refusal String) × Kernel :=
  deleteAll (fun _ => none) (addedEntry interfaceName local_) added kernel

def desiredRoutes (peers : List NetPrefix) : ExtTreeMap String NetPrefix :=
  peers.foldl (fun desired peer => desired.insert (routeKey peer) peer.masked) ∅

def RouteManager.unmoved (manager : RouteManager) (interfaceName : String) (local_ : Addr) :
    Bool :=
  manager.iface = interfaceName && manager.address = local_

section Apply

variable (invocation : Invocation) (manager : RouteManager) (interfaceName : String)
  (local_ : Addr) (desired : ExtTreeMap String NetPrefix)

def claimAddress (kernel : Kernel) : Option (Refusal String) × List NetPrefix × Kernel :=
  if manager.unmoved interfaceName local_ then (none, [], kernel)
  else
    let entry := addressEntry interfaceName local_
    match add (invocation.refusal (.add entry)) entry kernel with
    | (some refusal, kernel) => (some refusal, [], kernel)
    | (none, kernel) => (none, [prefixFrom local_ 32], kernel)

def freshRoutes : List NetPrefix :=
  (desired.toList.filter fun entry =>
    !(manager.owned[entry.1]?.isSome && manager.unmoved interfaceName local_)).map Prod.snd

/-- The first phase, with its inline undo. A failed one returns its error and
a finished one the list `added`. -/
def addPhase (kernel : Kernel) : Except RouteError (List NetPrefix) × Kernel :=
  match claimAddress invocation manager interfaceName local_ kernel with
  | (some refusal, _, kernel) => (.error (.wrapped "add relay virtual address" refusal), kernel)
  | (none, claimed, kernel) =>
    match addEach (fun entry => invocation.refusal (.add entry)) (routeEntry interfaceName)
        (freshRoutes manager interfaceName local_ desired) kernel with
    | (some (network, refusal), added, kernel) =>
      (.error (.wrapped ("add relay overlay route " ++ network.toText) refusal),
        (rollbackAdded interfaceName local_ (claimed ++ added) kernel).2)
    | (none, added, kernel) => (.ok (claimed ++ added), kernel)

def staleRoutes : List NetPrefix :=
  ((invocation.order.arrange manager.owned.toList).filter fun entry =>
    !(desired[entry.1]?.isSome && manager.unmoved interfaceName local_)).map Prod.snd

def releaseAddress (kernel : Kernel) : Option (Refusal String) × Kernel :=
  if manager.address.isValid && !manager.unmoved interfaceName local_ then
    let entry := addressEntry manager.iface manager.address
    delete (invocation.refusal (.delete entry)) entry kernel
  else (none, kernel)

def deletePhase (kernel : Kernel) : Option RouteError × Kernel :=
  match deleteEach (fun entry => invocation.refusal (.delete entry)) (routeEntry manager.iface)
      (staleRoutes invocation manager interfaceName local_ desired) kernel with
  | (some (network, refusal), kernel) =>
    (some (.wrapped ("remove stale relay route " ++ network.toText) refusal), kernel)
  | (none, kernel) =>
    match releaseAddress invocation manager interfaceName local_ kernel with
    | (some refusal, kernel) =>
      (some (.wrapped "remove stale relay virtual address" refusal), kernel)
    | (none, kernel) => (none, kernel)

end Apply

def apply (invocation : Invocation) (interfaceName : String) (local_ : Addr)
    (peers : List NetPrefix) (system : System) : Errors × System :=
  match (do validateRelayRoutes interfaceName local_ peers
            contextError invocation.ctx) with
  | .error error => ([error], system)
  | .ok () =>
    let manager := system.manager
    let desired := desiredRoutes peers
    match addPhase invocation manager interfaceName local_ desired system.kernel with
    | (.error error, kernel) => ([error], { system with kernel })
    | (.ok added, kernel) =>
      match deletePhase invocation manager interfaceName local_ desired kernel with
      | (some error, kernel) =>
        let (refusals, kernel) := rollbackAdded interfaceName local_ added kernel
        (error :: refusals.map .command, { system with kernel })
      | (none, kernel) => ([], ⟨⟨desired, local_, interfaceName⟩, kernel⟩)

def clearAddress (invocation : Invocation) (manager : RouteManager) (interfaceName : String)
    (kernel : Kernel) : Option (Refusal String) × Kernel :=
  if manager.address.isValid then
    let entry := addressEntry interfaceName manager.address
    delete (invocation.refusal (.delete entry)) entry kernel
  else (none, kernel)

def clear (invocation : Invocation) (interfaceName : String) (system : System) :
    Errors × System :=
  match contextError invocation.ctx with
  | .error error => ([error], system)
  | .ok () =>
    let manager := system.manager
    let interfaceName := if interfaceName = "" then manager.iface else interfaceName
    if manager.iface ≠ "" && interfaceName ≠ manager.iface then ([.invalidConfig], system)
    else
      let (routeRefusals, kernel) := deleteAll (fun entry => invocation.refusal (.delete entry))
        (routeEntry interfaceName)
        ((invocation.order.arrange manager.owned.toList).map Prod.snd) system.kernel
      let (addressRefusal, kernel) := clearAddress invocation manager interfaceName kernel
      match routeRefusals ++ addressRefusal.toList with
      | [] => ([], ⟨newRouteManager, kernel⟩)
      | refusals => (refusals.map .command, { system with kernel })

inductive Call where
  | apply (invocation : Invocation) (interfaceName : String) (local_ : Addr)
      (peers : List NetPrefix)
  | clear (invocation : Invocation) (interfaceName : String)

def Call.run : Call → System → Errors × System
  | apply invocation interfaceName local_ peers =>
    RelayRoutes.apply invocation interfaceName local_ peers
  | clear invocation interfaceName => RelayRoutes.clear invocation interfaceName

def Call.step (call : Call) (system : System) : System := (call.run system).2

def start : System := ⟨newRouteManager, ∅⟩

end Ipv6Mesh.RelayRoutes
