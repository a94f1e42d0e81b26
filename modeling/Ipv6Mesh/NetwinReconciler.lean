import Ipv6Mesh.ControlModel
import Ipv6Mesh.GoNetText
import Ipv6Mesh.GoStore
import Ipv6Mesh.GoMap
import Ipv6Mesh.WgntApi

/-!
# The route reconciler

`internal/netwin/route_reconciler.go`. The backend is a store of addresses and
a store of routes; which of its calls fail, in the forward pass or in the
rollback, and in which order the maps are walked belong to an `Invocation`.
A joined error is the list of its parts, and the nil error is the empty list.
-/

namespace Ipv6Mesh.NetwinReconciler

open ControlModel GoStore WgntApi
open Std

inductive NetError where
  /-- `ErrInvalidRoute` with the text that follows it. -/
  | invalidRoute (detail : String)
  /-- `ErrDefaultRoute` with the text that follows it. -/
  | defaultRoute (detail : String)
  | context (err : Error)
  /-- What a failed backend call returned. -/
  | backend (failure : String)
deriving DecidableEq

abbrev Errors := List NetError

def refuseRoute (refused : Bool) (error : NetError) : Except NetError Unit :=
  if refused then .error error else .ok ()

def validateAddress (address : Address) : Except NetError Unit :=
  refuseRoute (!address.ip.isValid || !address.ip.is4 || address.prefixLength ≠ 32 ||
      address.interfaceLUID = 0)
    (.invalidRoute "overlay address must be an IPv4 /32 with a non-zero interface LUID")

def validateRoute (route : Route) : Except NetError Unit := do
  refuseRoute (route.destination.isValid && route.destination.bits = some 0)
    (.defaultRoute "default route is not an overlay route")
  refuseRoute (!route.destination.isValid || !route.destination.addr.is4 ||
      route.destination.bits ≠ some 32 || route.interfaceLUID = 0)
    (.invalidRoute "route must be an IPv4 /32 with a non-zero interface LUID")
  refuseRoute (route.nextHop.isValid && !route.nextHop.is4)
    (.invalidRoute "next hop must be IPv4")

def nextHopText (route : Route) : List Char :=
  if route.nextHop.isValid then route.nextHop.toText else []

def routeKey (route : Route) : String :=
  Nat.repr route.interfaceLUID.toNat ++ "|" ++ route.destination.toText ++ "|" ++
    String.ofList (nextHopText route) ++ "|" ++ Nat.repr route.metric.toNat

def contextErr : Context → Except NetError Unit
  | .nil => .error (.context (.sentinel .contextCanceled))
  | .live => .ok ()
  | .done err => .error (.context err)

structure Backend where
  addresses : Store Address
  routes : Store Route

inductive Phase where
  | forward
  | rollback
deriving DecidableEq

inductive Call where
  | ensureAddress (address : Address)
  | removeAddress (address : Address)
  | ensureRoute (route : Route)
  | removeRoute (route : Route)
deriving DecidableEq

structure Order where
  arrange : List (String × Route) → List (String × Route)
  permutes : ∀ entries, (arrange entries).Perm entries

/-- What the environment contributes to one call of `Reconcile` or `Clear`.
No backend call is made twice in one phase, so a failure is a function of the
phase and the call. -/
structure Invocation where
  ctx : Context
  failure : Phase → Call → Option String
  previousOrder : Order
  desiredOrder : Order
  addedOrder : Order
  removedOrder : Order

structure RouteReconciler where
  address : Option Address
  addressOwned : Bool
  ownedRoutes : ExtTreeMap String Route

structure System where
  reconciler : RouteReconciler
  backend : Backend

def newRouteReconciler : RouteReconciler := ⟨none, false, ∅⟩

def collectRoutes : List Route → ExtTreeMap String Route →
    Except NetError (ExtTreeMap String Route)
  | [], desired => .ok desired
  | route :: rest, desired => do
      validateRoute route
      refuseRoute desired[routeKey route]?.isSome (.invalidRoute "duplicate route")
      collectRoutes rest (desired.insert (routeKey route) route)

def RouteReconciler.addressKept (reconciler : RouteReconciler) (address : Address) : Bool :=
  reconciler.addressOwned && reconciler.address = some address

def RouteReconciler.addressChanged (reconciler : RouteReconciler) (address : Address) : Bool :=
  reconciler.addressOwned && reconciler.address.isSome && reconciler.address ≠ some address

def claimAddress (invocation : Invocation) (reconciler : RouteReconciler) (address : Address)
    (addresses : Store Address) : Except String Bool × Store Address :=
  if reconciler.addressChanged address || !reconciler.addressKept address then
    ensure (invocation.failure .forward (.ensureAddress address)) address addresses
  else (.ok (reconciler.addressKept address), addresses)

def staleRoutes (invocation : Invocation) (previous desired : ExtTreeMap String Route) :
    List (String × Route) :=
  (invocation.previousOrder.arrange previous.toList).filter fun entry =>
    desired[entry.1]?.isNone

def freshRoutes (invocation : Invocation) (previous desired : ExtTreeMap String Route) :
    List (String × Route) :=
  (invocation.desiredOrder.arrange desired.toList).filter fun entry =>
    previous[entry.1]?.isNone

def releaseAddress (invocation : Invocation) (reconciler : RouteReconciler) (address : Address)
    (addresses : Store Address) : Except String Unit × Store Address :=
  match reconciler.address with
  | some previous =>
    if reconciler.addressChanged address then
      remove (invocation.failure .forward (.removeAddress previous)) previous addresses
    else (.ok (), addresses)
  | none => (.ok (), addresses)

def insertAll (map : ExtTreeMap String Route) (entries : List (String × Route)) :
    ExtTreeMap String Route :=
  entries.foldl (fun current entry => current.insert entry.1 entry.2) map

def keptRoutes (previous desired : ExtTreeMap String Route) : List (String × Route) :=
  previous.toList.filter fun entry => desired[entry.1]?.isSome

def failures {Value : Type} : Except String Value → List String
  | .error failure => [failure]
  | .ok _ => []

def rollbackRoutes (invocation : Invocation) (added removed : List (String × Route))
    (routes : Store Route) : List String × Store Route :=
  let (undoing, _, routes) := removeAll
    (fun route => invocation.failure .rollback (.removeRoute route))
    (invocation.addedOrder.arrange added) routes
  let (restoring, routes) := ensureAll
    (fun route => invocation.failure .rollback (.ensureRoute route))
    (invocation.removedOrder.arrange removed) routes
  (undoing ++ restoring, routes)

def rollbackNewAddress (invocation : Invocation) (reconciler : RouteReconciler)
    (address : Address) (newAddressOwned : Bool) (addresses : Store Address) :
    List String × Store Address :=
  if newAddressOwned && reconciler.address ≠ some address then
    let (result, addresses) :=
      remove (invocation.failure .rollback (.removeAddress address)) address addresses
    (failures result, addresses)
  else ([], addresses)

def rollbackOldAddress (invocation : Invocation) (reconciler : RouteReconciler)
    (address : Address) (newAddressOwned : Bool) (addresses : Store Address) :
    List String × Store Address :=
  match reconciler.address with
  | some previous =>
    if reconciler.addressOwned && (!newAddressOwned || previous ≠ address) then
      let (result, addresses) :=
        ensure (invocation.failure .rollback (.ensureAddress previous)) previous addresses
      (failures result, addresses)
    else ([], addresses)
  | none => ([], addresses)

def rollback (invocation : Invocation) (reconciler : RouteReconciler)
    (added removed : List (String × Route)) (address : Address) (newAddressOwned : Bool)
    (original : String) (backend : Backend) : Errors × Backend :=
  let (routeErrors, routes) := rollbackRoutes invocation added removed backend.routes
  let (newErrors, addresses) :=
    rollbackNewAddress invocation reconciler address newAddressOwned backend.addresses
  let (oldErrors, addresses) :=
    rollbackOldAddress invocation reconciler address newAddressOwned addresses
  (.backend original :: (routeErrors ++ newErrors ++ oldErrors).map .backend, ⟨addresses, routes⟩)

def applyRoutes (invocation : Invocation) (address : Address)
    (desired : ExtTreeMap String Route) (newAddressOwned : Bool) (reconciler : RouteReconciler)
    (backend : Backend) : Errors × System :=
  let undo := fun added removed original backend =>
    let (errors, backend) :=
      rollback invocation reconciler added removed address newAddressOwned original backend
    (errors, System.mk reconciler backend)
  let previous := reconciler.ownedRoutes
  match removeEach (fun route => invocation.failure .forward (.removeRoute route))
      (staleRoutes invocation previous desired) backend.routes with
  | (some failure, removed, routes) => undo [] removed failure { backend with routes }
  | (none, removed, routes) =>
    match ensureEach (fun route => invocation.failure .forward (.ensureRoute route))
        (freshRoutes invocation previous desired) routes with
    | (some failure, added, routes) => undo added removed failure { backend with routes }
    | (none, added, routes) =>
      match releaseAddress invocation reconciler address backend.addresses with
      | (.error failure, addresses) => undo added removed failure ⟨addresses, routes⟩
      | (.ok (), addresses) =>
        ([], { reconciler :=
                { address := if newAddressOwned then some address else none
                  addressOwned := newAddressOwned
                  ownedRoutes :=
                    insertAll (insertAll ∅ added) (keptRoutes previous desired) }
               backend := ⟨addresses, routes⟩ })

def desiredRoutes (invocation : Invocation) (address : Address) (routes : List Route) :
    Except NetError (ExtTreeMap String Route) := do
  validateAddress address
  let desired ← collectRoutes routes ∅
  contextErr invocation.ctx
  pure desired

def reconcile (invocation : Invocation) (address : Address) (routes : List Route)
    (system : System) : Errors × System :=
  match desiredRoutes invocation address routes with
  | .error error => ([error], system)
  | .ok desired =>
    match claimAddress invocation system.reconciler address system.backend.addresses with
    | (.error failure, addresses) =>
      ([.backend failure], { system with backend := { system.backend with addresses } })
    | (.ok newAddressOwned, addresses) =>
      applyRoutes invocation address desired newAddressOwned system.reconciler
        { system.backend with addresses }

def clearAddress (invocation : Invocation) (reconciler : RouteReconciler)
    (addresses : Store Address) : List String × Option Address × Bool × Store Address :=
  match reconciler.address with
  | some address =>
    if reconciler.addressOwned then
      match remove (invocation.failure .forward (.removeAddress address)) address addresses with
      | (.error failure, addresses) => ([failure], some address, true, addresses)
      | (.ok (), addresses) => ([], none, false, addresses)
    else ([], some address, false, addresses)
  | none => ([], none, reconciler.addressOwned, addresses)

def clear (invocation : Invocation) (system : System) : Errors × System :=
  match contextErr invocation.ctx with
  | .error error => ([error], system)
  | .ok () =>
    let reconciler := system.reconciler
    let (routeErrors, removed, routes) := removeAll
      (fun route => invocation.failure .forward (.removeRoute route))
      (invocation.previousOrder.arrange reconciler.ownedRoutes.toList) system.backend.routes
    let (addressErrors, address, addressOwned, addresses) :=
      clearAddress invocation reconciler system.backend.addresses
    ((routeErrors ++ addressErrors).map .backend,
      { reconciler := ⟨address, addressOwned,
          GoMap.eraseAll reconciler.ownedRoutes (removed.map Prod.fst)⟩
        backend := ⟨addresses, routes⟩ })

inductive Command where
  | reconcile (invocation : Invocation) (address : Address) (routes : List Route)
  | clear (invocation : Invocation)

def Command.apply : Command → System → Errors × System
  | reconcile invocation address routes => NetwinReconciler.reconcile invocation address routes
  | clear invocation => NetwinReconciler.clear invocation

def Command.step (command : Command) (system : System) : System := (command.apply system).2

end Ipv6Mesh.NetwinReconciler
