import Ipv6Mesh.ControlModel
import Ipv6Mesh.IpcProtocol

/-!
# The local service

Package `service`: the state machine behind the local protocol. A request may
call the control client, the reconciler and the adapter; each of them is
called at most once by a request, so what they answer is one record of
outcomes, and a request returns the list of calls that it made. One operation
runs at a time (`operationMu`), and a status request only reads.
-/

namespace Ipv6Mesh.ServiceModel

open GoText IpcProtocol ControlModel
open GoNet (IP parseIP to4 equal)

structure JoinRequest where
  invite : String
  displayName : String
  publicKey : String
  deriving DecidableEq, Repr

structure JoinResult where
  displayName : String
  networkID : String
  virtualIPv4 : String
  configGeneration : Int
  deriving DecidableEq, Repr

/-- What `errors.Is` and `errors.As` find in an error of the control client:
the code of an `HTTPError`, a passed deadline, a network timeout, a `url.Error`. -/
structure ControlError where
  httpCode : Option String
  deadlineExceeded : Bool
  netTimeout : Bool
  urlError : Bool
  deriving DecidableEq, Repr

structure ControlClient where
  rooms : Bool
  snapshots : Bool
  deriving DecidableEq, Repr

structure Options where
  identity : Bool
  control : Option ControlClient
  controlURL : String
  adapter : Bool
  reconciler : Bool
  deriving DecidableEq, Repr

/-- The fields of a `url.URL`; of its user only whether there is one. -/
structure URL where
  scheme : String
  opaqueData : String
  user : Bool
  host : String
  path : String
  fragment : String
  rawQuery : String
  rawPath : String
  rawFragment : String
  forceQuery : Bool
  omitHost : Bool

structure Packages where
  parseURL : String → Option URL
  urlString : URL → String
  toLower : String → String

structure Service where
  publicKey : String
  started : Bool
  joined : Option JoinResult
  status : Status
  deriving DecidableEq, Repr

def new : Service := ⟨"", false, none, Status.empty⟩

def disconnectedStatus : Status := { Status.empty with pathState := pathStateDisconnected }

inductive Call where
  | join (request : JoinRequest) (answer : Except ControlError JoinResult)
  | joinRoom (request : JoinRequest) (answer : Except ControlError JoinResult)
  | leave (networkID : String) (answer : Except ControlError Unit)
  | snapshot (networkID : String) (answer : Except ControlError NetworkSnapshot)
  | apply (snapshot : NetworkSnapshot) (succeeded : Bool)
  | clear (succeeded : Bool)
  | connect (networkID : String) (succeeded : Bool)
  | disconnect (networkID : String) (succeeded : Bool)

structure Outcomes where
  join : Except ControlError JoinResult
  joinRoom : Except ControlError JoinResult
  leave : Except ControlError Unit
  snapshot : Except ControlError NetworkSnapshot
  apply : Bool
  clear : Bool
  connect : Bool
  disconnect : Bool

structure Handled where
  response : Response
  service : Service
  calls : List Call

def Handled.after (handled : Handled) (calls : List Call) : Handled :=
  { handled with calls := calls ++ handled.calls }

def Service.fail (service : Service) (code : String) (calls : List Call) : Handled :=
  ⟨errorResponse code, service, calls⟩

def codeInvalidRequest : String := "invalid_request"
def codeAlreadyJoined : String := "already_joined"
def codeNotJoined : String := "not_joined"
def codeWrongNetwork : String := "wrong_network"
def codeNotStarted : String := "not_started"
def codeControlFailed : String := "control_failed"
def codeControlUnreachable : String := "control_unreachable"
def codeOperationTimeout : String := "operation_timeout"
def codeAdapterFailed : String := "adapter_failed"

def safeControlErrorCode (error : ControlError) : String :=
  if error.deadlineExceeded then codeOperationTimeout
  else if error.netTimeout then codeOperationTimeout
  else if error.urlError then codeControlUnreachable
  else codeControlFailed

def roomCodes : List String :=
  ["room_not_ready", "room_mode_disabled", "node_already_joined", "room_full",
    "join_rate_limited", "enrollment_recovery_pending"]

def safeRoomControlErrorCode (error : ControlError) : String :=
  match error.httpCode with
  | some code => if code ∈ roomCodes then code else codeControlFailed
  | none => safeControlErrorCode error

def trimRightSlashes (path : String) : String :=
  String.ofList (path.toList.reverse.dropWhile (· = '/')).reverse

def canonicalControlURL (packages : Packages) (value : String) : Option String :=
  match packages.parseURL (trimSpace value) with
  | none => none
  | some parsed =>
    if parsed.scheme = "" || parsed.host = "" || parsed.user || parsed.rawQuery ≠ "" ||
        parsed.fragment ≠ "" then none
    else some (packages.urlString { parsed with
      scheme := packages.toLower parsed.scheme
      host := packages.toLower parsed.host
      path := trimRightSlashes parsed.path
      rawPath := "" })

section Commands

variable (packages : Packages) (options : Options) (outcomes : Outcomes)

def rollback (result : JoinResult) (service : Service) (code : String) (calls : List Call) :
    Handled :=
  service.fail code (calls ++ [.leave result.networkID outcomes.leave])

def joinedStatus (result : JoinResult) : Status :=
  { disconnectedStatus with
    networkID := result.networkID
    virtualIPv4 := result.virtualIPv4
    configGeneration := result.configGeneration }

/-- The last part of `finishJoin`: the result is recorded unless a join is on record. -/
def recordJoin (result : JoinResult) (service : Service) (calls : List Call) : Handled :=
  if service.joined.isSome then rollback outcomes result service codeAlreadyJoined calls
  else ⟨successResponse (joinedStatus result),
    { service with joined := some result, status := joinedStatus result }, calls⟩

def finishJoin (result : JoinResult) (service : Service) : Handled :=
  match options.control with
  | none => service.fail codeControlFailed []
  | some client =>
    if blank result.networkID || blank result.virtualIPv4 then
      rollback outcomes result service codeControlFailed []
    else if options.reconciler then
      if !client.snapshots then rollback outcomes result service codeControlFailed []
      else match outcomes.snapshot with
        | .error error =>
          rollback outcomes result service (safeControlErrorCode error)
            [.snapshot result.networkID (.error error)]
        | .ok snapshot =>
          let calls : List Call := [.snapshot result.networkID (.ok snapshot),
            .apply snapshot outcomes.apply]
          if outcomes.apply then recordJoin outcomes result service calls
          else rollback outcomes result service codeAdapterFailed calls
    else recordJoin outcomes result service []

def join (request : Request) (service : Service) : Handled :=
  if service.joined.isSome then service.fail codeAlreadyJoined []
  else if blank request.invite || blank request.displayName || options.control.isNone then
    service.fail codeInvalidRequest []
  else
    let sent : JoinRequest := ⟨request.invite, request.displayName, service.publicKey⟩
    match outcomes.join with
    | .error error => service.fail (safeControlErrorCode error) [.join sent (.error error)]
    | .ok result =>
      (finishJoin options outcomes { result with displayName := request.displayName }
        service).after [.join sent (.ok result)]

def namesControl (requested : String) : Bool :=
  match canonicalControlURL packages requested,
      canonicalControlURL packages options.controlURL with
  | some requested, some configured => requested = configured
  | _, _ => false

def joinRoom (request : Request) (service : Service) : Handled :=
  if service.joined.isSome then service.fail codeAlreadyJoined []
  else if !namesControl packages options request.controlURL || blank request.displayName then
    service.fail codeInvalidRequest []
  else match options.control with
    | none => service.fail codeInvalidRequest []
    | some client =>
      if !client.rooms then service.fail codeControlFailed []
      else
        let sent : JoinRequest := ⟨"", request.displayName, service.publicKey⟩
        match outcomes.joinRoom with
        | .error error =>
          service.fail (safeRoomControlErrorCode error) [.joinRoom sent (.error error)]
        | .ok result =>
          (finishJoin options outcomes { result with displayName := request.displayName }
            service).after [.joinRoom sent (.ok result)]

def leaveJoined (networkID : String) (service : Service) : Handled :=
  let disconnects := service.status.pathState ≠ pathStateDisconnected && options.adapter
  let first : List Call :=
    if disconnects then [.disconnect networkID outcomes.disconnect] else []
  if disconnects && !outcomes.disconnect then service.fail codeAdapterFailed first
  else
    let second := first ++ if options.reconciler then [Call.clear outcomes.clear] else []
    if options.reconciler && !outcomes.clear then service.fail codeAdapterFailed second
    else if options.control.isNone then service.fail codeControlFailed second
    else
      let calls := second ++ [Call.leave networkID outcomes.leave]
      match outcomes.leave with
      | .error error => service.fail (safeControlErrorCode error) calls
      | .ok () =>
        ⟨successResponse disconnectedStatus,
          { service with joined := none, status := disconnectedStatus }, calls⟩

def withJoined (networkID : String) (service : Service) (operation : Handled) : Handled :=
  match service.joined with
  | none => service.fail codeNotJoined []
  | some joined =>
    if networkID ≠ joined.networkID then service.fail codeWrongNetwork []
    else operation

def leave (networkID : String) (service : Service) : Handled :=
  withJoined networkID service (leaveJoined options outcomes networkID service)

def Service.report (service : Service) (pathState : String) (calls : List Call) : Handled :=
  let status := { service.status with pathState }
  ⟨successResponse status, { service with status }, calls⟩

def connectJoined (networkID : String) (service : Service) : Handled :=
  if options.reconciler then
    if !(options.control.any (·.snapshots)) then service.fail codeControlFailed []
    else match outcomes.snapshot with
      | .error error => service.fail codeAdapterFailed [.snapshot networkID (.error error)]
      | .ok snapshot =>
        let calls : List Call :=
          [.snapshot networkID (.ok snapshot), .apply snapshot outcomes.apply]
        if outcomes.apply then service.report pathStateDirect calls
        else service.fail codeAdapterFailed calls
  else if !options.adapter then service.fail codeAdapterFailed []
  else if outcomes.connect then service.report pathStateDirect [.connect networkID true]
  else service.fail codeAdapterFailed [.connect networkID false]

def connect (networkID : String) (service : Service) : Handled :=
  withJoined networkID service (connectJoined options outcomes networkID service)

def disconnectJoined (networkID : String) (service : Service) : Handled :=
  if options.reconciler then
    if outcomes.clear then service.report pathStateDisconnected [.clear true]
    else service.fail codeAdapterFailed [.clear false]
  else if !options.adapter then service.fail codeAdapterFailed []
  else if outcomes.disconnect then
    service.report pathStateDisconnected [.disconnect networkID true]
  else service.fail codeAdapterFailed [.disconnect networkID false]

def disconnect (networkID : String) (service : Service) : Handled :=
  withJoined networkID service (disconnectJoined options outcomes networkID service)

/-- The order of the member list: the local member first, then by folded name,
address and name. -/
def memberLess (left right : RoomMember) : Bool :=
  if left.isLocal ≠ right.isLocal then left.isLocal
  else
    let leftName := packages.toLower left.displayName
    let rightName := packages.toLower right.displayName
    if leftName ≠ rightName then leftName < rightName
    else if left.virtualIPv4 ≠ right.virtualIPv4 then left.virtualIPv4 < right.virtualIPv4
    else left.displayName < right.displayName

def projectPeer (peer : Peer) : Option RoomMember :=
  let name := trimSpace peer.displayName
  match to4 peer.virtualIPv4 with
  | none => none
  | some ip => if name = "" then none else some ⟨name, GoNet.text ip, false, roomMemberOnline⟩

def projectRoomMembers (joined : JoinResult) (snapshot : NetworkSnapshot) :
    Option (List RoomMember) := do
  let joinedName := trimSpace joined.displayName
  let joinedIP ← (parseIP (trimSpace joined.virtualIPv4)).bind to4
  guard (joinedName ≠ "" ∧ blank joined.networkID = false)
  guard (snapshot.networkID = joined.networkID)
  let localIP ← to4 snapshot.localVirtualIPv4
  guard (equal localIP joinedIP = true)
  let peers ← snapshot.peers.mapM projectPeer
  some (sliceStable (memberLess packages)
    (⟨joinedName, GoNet.text joinedIP, true, roomMemberOnline⟩ :: peers))

def roomMembers (service : Service) : Handled :=
  match service.joined with
  | none => service.fail codeNotJoined []
  | some joined =>
    if !(options.control.any (·.snapshots)) then service.fail codeControlFailed []
    else match outcomes.snapshot with
      | .error error =>
        service.fail (safeControlErrorCode error) [.snapshot joined.networkID (.error error)]
      | .ok snapshot =>
        let calls : List Call := [.snapshot joined.networkID (.ok snapshot)]
        match projectRoomMembers packages joined snapshot with
        | none => service.fail codeControlFailed calls
        | some members =>
          ⟨{ successMembersResponse joined.networkID members with
              status := service.status }, service, calls⟩

def handle (live : Bool) (request : Request) (service : Service) : Handled :=
  if !live then service.fail codeInternal []
  else if request.type = .status then
    if service.started then ⟨successResponse service.status, service, []⟩
    else service.fail codeNotStarted []
  else if !service.started then service.fail codeNotStarted []
  else match request.type with
    | .join => join options outcomes request service
    | .joinRoom => joinRoom packages options outcomes request service
    | .roomMembers => roomMembers packages options outcomes service
    | .leave => leave options outcomes request.networkID service
    | .connect => connect options outcomes request.networkID service
    | .disconnect => disconnect options outcomes request.networkID service
    | .status | .unsupported _ _ => service.fail codeInvalidRequest []

def start (live : Bool) (loaded : Option String) (service : Service) : Service :=
  if !options.identity || service.started then service
  else match loaded with
    | none => service
    | some publicKey =>
      if blank publicKey || !live then service
      else ⟨publicKey, true, service.joined, disconnectedStatus⟩

def shutdown (service : Service) : Service × List Call :=
  if !service.started then (service, [])
  else
    let calls : List Call :=
      if options.reconciler then [.clear outcomes.clear]
      else match service.joined with
        | none => []
        | some joined =>
          if service.status.pathState ≠ pathStateDisconnected && options.adapter then
            [.disconnect joined.networkID outcomes.disconnect]
          else []
    ({ service with started := false, joined := none, status := disconnectedStatus }, calls)

end Commands

inductive Action where
  | start (live : Bool) (loaded : Option String)
  | handle (live : Bool) (request : Request) (outcomes : Outcomes)
  | shutdown (outcomes : Outcomes)

structure Run where
  service : Service
  log : List Call

def Run.new : Run := ⟨ServiceModel.new, []⟩

def step (packages : Packages) (options : Options) (action : Action) (run : Run) : Run :=
  match action with
  | .start live loaded => { run with service := start options live loaded run.service }
  | .handle live request outcomes =>
    let handled := handle packages options outcomes live request run.service
    ⟨handled.service, run.log ++ handled.calls⟩
  | .shutdown outcomes =>
    let closed := shutdown options outcomes run.service
    ⟨closed.1, run.log ++ closed.2⟩

end Ipv6Mesh.ServiceModel
