import Ipv6Mesh.GoNetText
import Ipv6Mesh.IpcResponses
import Ipv6Mesh.ServicePlane

/-!
# Answers of the local service

`Handler.HandleJSON` of package `service` and `Server.handleConnection` of
package `ipc`. An answer is an error with one of the service's codes, a report
of the status, or a list of members; the encoder never refuses one of them for
its content, so the only answer that does not reach its client is a success
that is too large.
-/

namespace Ipv6Mesh.ServiceAnswers

open GoFlow GoText GoJson ControlModel IpcProtocol IpcResponses ServiceModel ServiceOutcomes
open GoNet (parseIP to4 to16 to4_length to4_of_length parseIP_text)

section Handler

variable {Text : Type} (codec : Codec Text) (clock : Rfc3339) (packages : Packages)
  (options : Options) (outcomes : Outcomes)

def codeUnauthorized : String := "unauthorized"

/-- What `HandleJSON` does before it encodes the response. A handler without a
service or an authorizer authorizes nobody. -/
def answer (authorized live : Bool) (data : Text) (service : Service) : Handled :=
  match decodeRequest codec data with
  | .error _ => service.fail codeInvalidRequest []
  | .ok request =>
    if !authorized then service.fail codeUnauthorized []
    else handle packages options outcomes live request service

def handleJSON (authorized live : Bool) (data : Text) (service : Service) :
    Except Failure Text :=
  marshalResponse codec clock
    (answer codec packages options outcomes authorized live data service).response

/-- `handleConnection`: the bytes it writes, if any. `admitted` is the outcome
of the server's own authorizer and `received` what was read of the request. -/
def handleConnection (admitted : Bool) (received : Option Text) (authorized live : Bool)
    (service : Service) : Option Text :=
  if !admitted then none
  else match received with
    | none => none
    | some data =>
      if maxMessageSize < codec.size data then none
      else match handleJSON codec clock packages options outcomes authorized live data service with
        | .error _ => none
        | .ok response => if maxMessageSize < codec.size response then none else some response

end Handler

def IsInt64 (value : Int) : Prop := -2 ^ 63 ≤ value ∧ value ≤ maxInt64

/-- A generation is an `int64`, as its type in the source says. -/
def TypedOutcomes (outcomes : Outcomes) : Prop :=
  (∀ result, outcomes.join = .ok result → IsInt64 result.configGeneration) ∧
    ∀ result, outcomes.joinRoom = .ok result → IsInt64 result.configGeneration

/-- The generations of the outcomes are `int64` values. -/
def TypedAction : Action → Prop
  | .handle _ _ outcomes => TypedOutcomes outcomes
  | .start _ _ | .shutdown _ => True

structure Coherent (service : Service) : Prop where
  stopped : service.started = false → service.joined = none
  named : ∀ joined, service.joined = some joined →
    service.status.networkID = joined.networkID
  unshaken : service.status.lastHandshake = ⟨0, 0⟩
  generation : IsInt64 service.status.configGeneration

theorem isInt64_zero : IsInt64 0 := by
  constructor <;> decide

theorem coherent_new : Coherent ServiceModel.new :=
  ⟨fun _ => rfl, by simp [ServiceModel.new], rfl, isInt64_zero⟩

theorem coherent_idle (publicKey : String) (started : Bool) :
    Coherent ⟨publicKey, started, none, disconnectedStatus⟩ :=
  ⟨fun _ => rfl, by simp, rfl, isInt64_zero⟩

variable {service : Service}

theorem Coherent.report (coherent : Coherent service) (pathState : String) (calls : List Call) :
    Coherent (service.report pathState calls).service :=
  ⟨coherent.stopped, coherent.named, coherent.unshaken, coherent.generation⟩

section Members

variable {packages : Packages}

theorem validateRoomMember_of_ip {name : String} {ip : GoNet.IP} (visible : name ≠ "")
    (trimmed : trimSpace name = name) (four : ip.length = 4) (isLocal : Bool) :
    validateRoomMember ⟨name, GoNet.text ip, isLocal, roomMemberOnline⟩ = .ok () := by
  have present : blank name = false := by
    rw [blank, trimmed]
    exact decide_eq_false visible
  have long : to16 ip = some (GoNet.v4InV6Prefix ++ ip) := by rw [to16, if_pos four]
  have parsed : (parseIP (GoNet.text ip)).bind to4 = some ip := by
    rw [parseIP_text long, Option.bind_some]
    simp [to4, four, GoNet.v4InV6Prefix]
  simp [validateRoomMember, present, parsed, refuse, bind, Except.bind]

theorem projectPeer_valid {peer : Peer} {member : RoomMember}
    (projected : projectPeer peer = some member) : validateRoomMember member = .ok () := by
  rw [projectPeer] at projected
  cases converted : to4 peer.virtualIPv4 with
  | none => simp [converted] at projected
  | some ip =>
    simp only [converted] at projected
    split_ifs at projected with hidden
    rw [← Option.some.inj projected]
    exact validateRoomMember_of_ip hidden (trimSpace_trimSpace _) (to4_length converted) false

theorem mapM_eq_some_iff {Item Image : Type} {image : Item → Option Image} {items : List Item}
    {images : List Image} :
    items.mapM image = some images ↔
      List.Forall₂ (fun item value => image item = some value) items images := by
  induction items generalizing images with
  | nil => simp [eq_comm]
  | cons item items ih =>
    rw [List.mapM_cons, List.forall₂_cons_left_iff]
    simp only [Option.bind_eq_bind, Option.bind_eq_some_iff, ih, Option.pure_def,
      Option.some.injEq]
    constructor
    · rintro ⟨value, here, values, later, rfl⟩
      exact ⟨value, values, here, later, rfl⟩
    · rintro ⟨value, values, here, later, rfl⟩
      exact ⟨value, here, values, later, rfl⟩

theorem exists_of_mem_mapM {Item Image : Type} {image : Item → Option Image} {items : List Item}
    {images : List Image} (mapped : items.mapM image = some images) {value : Image}
    (listed : value ∈ images) : ∃ item ∈ items, image item = some value := by
  induction mapM_eq_some_iff.mp mapped with
  | nil => cases listed
  | cons here _ ih =>
    rcases List.mem_cons.mp listed with rfl | inside
    · exact ⟨_, List.mem_cons_self, here⟩
    · obtain ⟨item, member, found⟩ := ih (mapM_eq_some_iff.mpr ‹_›) inside
      exact ⟨item, List.mem_cons_of_mem _ member, found⟩

theorem projectRoomMembers_valid {joined : JoinResult} {snapshot : NetworkSnapshot}
    {members : List RoomMember}
    (projected : projectRoomMembers packages joined snapshot = some members) :
    blank joined.networkID = false ∧ members ≠ [] ∧
      ∀ member ∈ members, validateRoomMember member = .ok () := by
  simp only [projectRoomMembers, Option.bind_eq_bind, Option.bind_eq_some_iff,
    Option.guard_eq_some', exists_const] at projected
  obtain ⟨joinedIP, ⟨long, -, converted⟩, ⟨visible, named⟩, -, -, -, -, peers, mapped, sorted⟩ :=
    projected
  have sorted := Option.some.inj sorted
  refine ⟨named, ?_, fun member listed => ?_⟩
  · rintro rfl
    have nonempty := (sliceStable_perm (memberLess packages) _).length_eq.symm.trans
      (congrArg List.length sorted)
    simp at nonempty
  · rw [← sorted, mem_sliceStable, List.mem_cons] at listed
    rcases listed with rfl | remote
    · exact validateRoomMember_of_ip visible (trimSpace_trimSpace _) (to4_length converted) true
    · obtain ⟨peer, -, projected⟩ := exists_of_mem_mapM mapped remote
      exact projectPeer_valid projected

end Members

structure Presentable (response : Response) : Prop where
  flagged : response.ok = !response.error.isSome
  membersOk : response.members.isSome = true → response.ok = true
  named : ∀ members, response.members = some members → blank response.status.networkID = false ∧
    ∀ member ∈ members, validateRoomMember member = .ok ()
  unshaken : response.status.lastHandshake = ⟨0, 0⟩
  generation : IsInt64 response.status.configGeneration

theorem presentable_success {status : Status} (unshaken : status.lastHandshake = ⟨0, 0⟩)
    (generation : IsInt64 status.configGeneration) : Presentable (successResponse status) :=
  ⟨rfl, by simp [successResponse], by simp [successResponse], unshaken, generation⟩

theorem presentable_error (code : String) : Presentable (errorResponse code) :=
  ⟨rfl, by simp [errorResponse], by simp [errorResponse], rfl, isInt64_zero⟩

section Announced

variable {packages : Packages} {options : Options} {outcomes : Outcomes} {live : Bool}
  {request : Request} {before : Service} {response : Response}

theorem presentable_announced
    (announces : Announces packages options outcomes request before response)
    (typed : TypedOutcomes outcomes) (coherent : Coherent before) : Presentable response := by
  unfold Announces at announces
  cases command : request.type <;> simp only [command] at announces
  case status =>
    rw [announces]
    exact presentable_success coherent.unshaken coherent.generation
  case join =>
    obtain ⟨-, -, -, -, result, answered, -, rfl⟩ := announces
    exact presentable_success rfl (typed.1 result answered)
  case joinRoom =>
    obtain ⟨-, -, -, -, result, answered, -, rfl⟩ := announces
    exact presentable_success rfl (typed.2 result answered)
  case leave =>
    obtain ⟨-, -, -, -, -, rfl⟩ := announces
    exact presentable_success rfl isInt64_zero
  case connect | disconnect =>
    obtain ⟨-, -, rfl⟩ := announces
    exact presentable_success coherent.unshaken coherent.generation
  case roomMembers =>
    obtain ⟨joined, snapshot, members, current, -, -, projected, rfl⟩ := announces
    obtain ⟨named, nonempty, valid⟩ := projectRoomMembers_valid projected
    simp only [successMembersResponse, if_neg nonempty]
    refine ⟨rfl, fun _ => rfl, fun given same => ?_, coherent.unshaken, coherent.generation⟩
    rw [← Option.some.inj same]
    rw [← coherent.named joined current] at named
    exact ⟨named, valid⟩

theorem coherent_handle (typed : TypedOutcomes outcomes) (coherent : Coherent before) :
    Coherent (handle packages options outcomes live request before).service := by
  cases started : before.started with
  | false =>
    rw [handle_of_stopped packages options live request outcomes started]
    exact coherent
  | true =>
    have handling : Handling packages options outcomes live request before
        (handle packages options outcomes live request before) := handling_handle
    generalize handle packages options outcomes live request before = handled at handling
    cases handling with
    | kept | compensated | stopped => exact coherent
    | recorded idle client answered setup applied announces =>
      refine ⟨fun stopped => ?_, fun joined same => ?_, rfl,
        (presentable_announced announces typed coherent).generation⟩
      · exact absurd (started.symm.trans stopped) Bool.noConfusion
      · rw [← Option.some.inj same]
        rfl
    | left => exact coherent_idle _ _
    | connected | disconnected => exact coherent.report _ _

theorem finishJoin_admitted (result : JoinResult) (idle : before.joined = none)
    (client : options.control.isSome = true) (admits : Admits options outcomes result) :
    (finishJoin options outcomes result before).response =
      successResponse (joinedStatus result) := by
  obtain ⟨named, addressed, applied⟩ := admits
  obtain ⟨known, control⟩ := Option.isSome_iff_exists.mp client
  cases reconciled : options.reconciler with
  | false => simp [finishJoin, control, named, addressed, reconciled, recordJoin, idle]
  | true =>
    obtain ⟨snapshot, fetched, capable, ready⟩ := applies_eq_true.mp (applied reconciled)
    rw [control, Option.any_some] at capable
    simp [finishJoin, control, named, addressed, reconciled, recordJoin, idle, fetched, capable,
      ready]

theorem handle_announced (running : before.started = true)
    (announces : Announces packages options outcomes request before response) :
    (handle packages options outcomes true request before).response = response := by
  have finished {result : JoinResult} (idle : before.joined = none)
      (client : options.control.isSome = true) (admits : Admits options outcomes result) :
      (finishJoin options outcomes { result with displayName := request.displayName }
        before).response = successResponse (joinedStatus result) :=
    finishJoin_admitted _ idle client admits
  unfold Announces at announces
  cases command : request.type <;> simp only [command] at announces
  case status =>
    rw [announces]
    simp [handle, command, running]
  case join =>
    obtain ⟨invited, client, idle, named, result, answered, admits, rfl⟩ := announces
    simpa [handle, command, running, join, idle, invited, named,
      Option.isNone_eq_false_iff.mpr client, answered, Handled.after] using
      finished idle client admits
  case joinRoom =>
    obtain ⟨control, rooms, idle, named, result, answered, admits, rfl⟩ := announces
    obtain ⟨known, configured, capable⟩ := (Option.any_eq_true _ _).mp rooms
    simpa [handle, command, running, joinRoom, idle, control, named, configured, capable, answered,
      Handled.after] using finished idle (by rw [configured]; rfl) admits
  case leave =>
    obtain ⟨⟨joined, current, same⟩, down, cleared, client, answered, rfl⟩ := announces
    have unrefused : ((!decide (before.status.pathState = pathStateDisconnected) &&
        options.adapter) && !outcomes.disconnect) = false := by
      simpa [or_assoc, imp_iff_not_or] using down
    have swept : (options.reconciler && !outcomes.clear) = false := by simpa using cleared
    have present : options.control.isNone = false := by simpa using client
    simp [handle, command, running, leave, withJoined, current, same, leaveJoined, unrefused, swept,
      present, answered]
  case connect =>
    obtain ⟨⟨joined, current, same⟩, up, rfl⟩ := announces
    cases reconciled : options.reconciler with
    | false =>
      simp only [reconciled, Bool.false_eq_true, if_false] at up
      simp [handle, command, running, connect, withJoined, current, same, connectJoined, reconciled,
        up, Service.report]
    | true =>
      simp only [reconciled, if_true] at up
      obtain ⟨snapshot, fetched, ready⟩ := applies_eq_true.mp up
      simp [handle, command, running, connect, withJoined, current, same, connectJoined, reconciled,
        ready, fetched, Service.report]
  case disconnect =>
    obtain ⟨⟨joined, current, same⟩, down, rfl⟩ := announces
    cases reconciled : options.reconciler <;>
      simp only [reconciled, if_true, if_false, Bool.false_eq_true] at down <;>
      simp [handle, command, running, disconnect, withJoined, current, same, disconnectJoined,
        reconciled, down, Service.report]
  case roomMembers =>
    obtain ⟨joined, snapshot, members, current, client, answered, projected, rfl⟩ := announces
    simp [handle, command, running, roomMembers, current, client, answered, projected]

end Announced

theorem coherent_step {packages : Packages} {options : Options} {action : Action} {run : Run}
    (typed : TypedAction action) (coherent : Coherent run.service) :
    Coherent (step packages options action run).service := by
  cases action with
  | start live loaded =>
    simp only [step, ServiceModel.start]
    split_ifs with kept
    · exact coherent
    · have stopped : run.service.started = false := by
        simp only [Bool.or_eq_true, not_or, Bool.not_eq_true] at kept
        exact kept.2
      cases loaded with
      | none => exact coherent
      | some publicKey =>
        dsimp only
        split_ifs
        · exact coherent
        · rw [coherent.stopped stopped]
          exact coherent_idle _ _
  | handle live request outcomes => exact coherent_handle typed coherent
  | shutdown outcomes =>
    simp only [step, shutdown]
    by_cases stopped : (!run.service.started) = true
    · rw [if_pos stopped]
      exact coherent
    · rw [if_neg stopped]
      exact coherent_idle _ _

theorem coherent_run (packages : Packages) (options : Options) {actions : List Action}
    (typed : ∀ action ∈ actions, TypedAction action) :
    Coherent (run (step packages options) actions Run.new).service :=
  run_invariant_of_mem (step packages options) (fun run => Coherent run.service)
    (fun action listed _ => coherent_step (typed action listed)) coherent_new

theorem errorResponse_small :
    ∀ code ∈ codeUnauthorized :: handleCodes,
      compactSize (ofMap (responseFields (errorResponse code) none)) ≤ maxMessageSize := by
  decide +kernel

section Encoding

variable {Text : Type} {codec : CompactCodec Text} {clock : Rfc3339} {response : Response}

theorem marshalResponse_presentable (presentable : Presentable response) :
    marshalResponse codec.toCodec clock response =
      if maxMessageSize < compactSize (ofMap (responseFields response none))
      then .error ⟨none, some .messageTooLarge⟩
      else .ok (codec.marshal (ofMap (responseFields response none))) := by
  have stamped : handshakeText clock response.status.lastHandshake = .ok none := by
    rw [presentable.unshaken]
    rfl
  rw [marshalResponse_eq presentable.flagged presentable.membersOk presentable.named stamped,
    codec.compact (encodable_responseFields _ _)]

theorem readable_iff_small (presentable : Presentable response) :
    (∃ text decoded, marshalResponse codec.toCodec clock response = .ok text ∧
      codec.size text ≤ maxMessageSize ∧
      decodeResponse codec.toCodec clock text = .ok decoded) ↔
    compactSize (ofMap (responseFields response none)) ≤ maxMessageSize := by
  constructor
  · rintro ⟨text, decoded, marshalled, -, -⟩
    rw [marshalResponse_presentable presentable] at marshalled
    split_ifs at marshalled with large
    exact not_lt.mp large
  · intro small
    have marshalled : marshalResponse codec.toCodec clock response =
        .ok (codec.marshal (ofMap (responseFields response none))) := by
      rw [marshalResponse_presentable presentable, if_neg (not_lt.mpr small)]
    obtain ⟨handshake, wire⟩ := marshalResponse_ok marshalled
    exact ⟨_, _, marshalled, wire.small, decodeResponse_marshalled presentable.generation.1
      presentable.generation.2 wire⟩

end Encoding

section Requests

variable {Text : Type} (codec : CompactCodec Text) (clock : Rfc3339) (packages : Packages)
  (options : Options)

/-- The success that `HandleJSON` is to encode, if it is to encode one. -/
def Expects (outcomes : Outcomes) (authorized live : Bool) (data : Text) (service : Service)
    (response : Response) : Prop :=
  ∃ request, decodeRequest codec.toCodec data = .ok request ∧ authorized = true ∧ live = true ∧
    service.started = true ∧ Announces packages options outcomes request service response

theorem answer_cases (outcomes : Outcomes) (authorized live : Bool) (data : Text)
    (service : Service) :
    let response :=
      (answer codec.toCodec packages options outcomes authorized live data service).response
    (∃ code ∈ codeUnauthorized :: handleCodes, response = errorResponse code) ∨
      Expects codec packages options outcomes authorized live data service response := by
  rw [answer]
  cases decoded : decodeRequest codec.toCodec data with
  | error failure => exact .inl ⟨codeInvalidRequest, by simp [handleCodes], rfl⟩
  | ok request =>
    cases authorized with
    | false => exact .inl ⟨codeUnauthorized, List.mem_cons_self, rfl⟩
    | true =>
      have handling : Handling packages options outcomes live request service _ := handling_handle
      rcases handling.replies with ⟨code, known, refused⟩ | announces
      · exact .inl ⟨code, List.mem_cons_of_mem _ known, refused⟩
      · cases live with
        | false => exact .inl ⟨codeInternal, by simp [handleCodes], rfl⟩
        | true =>
          cases running : service.started with
          | false =>
            refine .inl ⟨codeNotStarted, by simp [handleCodes], ?_⟩
            simp only [handle, running, Bool.not_true, Bool.not_false, Bool.false_eq_true, if_false,
              if_true, ite_self]
            rfl
          | true => exact .inr ⟨request, decoded, rfl, rfl, running, announces⟩

variable {authorized : Bool}

theorem answer_expected {outcomes : Outcomes} {live : Bool} {data : Text} {response : Response}
    (expects : Expects codec packages options outcomes authorized live data service response) :
    (answer codec.toCodec packages options outcomes authorized live data service).response =
      response := by
  obtain ⟨request, decoded, rfl, rfl, running, announces⟩ := expects
  rw [answer, decoded]
  exact handle_announced running announces

theorem presentable_answer {outcomes : Outcomes} {live : Bool} {data : Text}
    (typed : TypedOutcomes outcomes) (coherent : Coherent service) :
    Presentable
      (answer codec.toCodec packages options outcomes authorized live data service).response := by
  rcases answer_cases codec packages options outcomes authorized live data service with
    ⟨code, -, refused⟩ | ⟨request, -, -, -, -, announces⟩
  · rw [refused]
    exact presentable_error code
  · exact presentable_announced announces typed coherent

theorem handleConnection_eq_toOption {outcomes : Outcomes} {live : Bool} {data : Text}
    (small : codec.size data ≤ maxMessageSize) :
    handleConnection codec.toCodec clock packages options outcomes true (some data) authorized
        live service =
      (handleJSON codec.toCodec clock packages options outcomes authorized live data
        service).toOption := by
  simp only [handleConnection, Bool.not_true, Bool.false_eq_true, if_false,
    if_neg (not_lt.mpr small)]
  cases answered : handleJSON codec.toCodec clock packages options outcomes authorized live data
      service with
  | error failure => rfl
  | ok text =>
    obtain ⟨handshake, wire⟩ := marshalResponse_ok answered
    simp only [if_neg (not_lt.mpr wire.small)]
    rfl

/-- In every reachable state a request is answered with bytes that its client
can read, exactly when the text of the success it is to be answered with, if any,
is not too large. -/
theorem request_answered_iff_small (actions : List Action)
    (typed : ∀ action ∈ actions, TypedAction action) (outcomes : Outcomes)
    (typedOutcomes : TypedOutcomes outcomes) (authorized live : Bool) (data : Text) :
    let service := (run (step packages options) actions Run.new).service
    (∃ text decoded,
      handleJSON codec.toCodec clock packages options outcomes authorized live data service =
        .ok text ∧
      codec.size text ≤ maxMessageSize ∧
      decodeResponse codec.toCodec clock text = .ok decoded) ↔
    ∀ response, Expects codec packages options outcomes authorized live data service response →
      compactSize (ofMap (responseFields response none)) ≤ maxMessageSize := by
  intro service
  have coherent : Coherent service := coherent_run packages options typed
  rw [handleJSON,
    readable_iff_small (presentable_answer codec packages options typedOutcomes coherent)]
  constructor
  · intro small response expects
    rwa [answer_expected codec packages options expects] at small
  · intro small
    rcases answer_cases codec packages options outcomes authorized live data service with
      ⟨code, known, refused⟩ | expects
    · rw [refused]
      exact errorResponse_small code known
    · exact small _ expects

end Requests

section Room

open ServicePlane

def joinedActions : List Action :=
  [.start true (some "key"), .handle true ⟨.join, "invite", "desk", "", ""⟩ smooth]

def roomMembersRequest : List Json := [.object [("type", .string "room_members")]]

theorem typed_smooth : TypedOutcomes smooth := by
  have one : IsInt64 1 := by constructor <;> decide
  constructor <;> rintro result same <;> cases same <;> exact one

theorem typed_joinedActions : ∀ action ∈ joinedActions, TypedAction action := by
  intro action listed
  simp only [joinedActions, List.mem_cons, List.not_mem_nil, or_false] at listed
  rcases listed with rfl | rfl
  · trivial
  · exact typed_smooth

theorem small_room_answered : ∃ text decoded,
    handleJSON compactValueCodec.toCodec decimalClock plainPackages fullOptions smooth true true
        roomMembersRequest (run (step plainPackages fullOptions) joinedActions Run.new).service =
      .ok text ∧
    compactValueCodec.size text ≤ maxMessageSize ∧
    decodeResponse compactValueCodec.toCodec decimalClock text = .ok decoded := by
  exact (request_answered_iff_small compactValueCodec decimalClock plainPackages fullOptions
    joinedActions typed_joinedActions smooth typed_smooth true true roomMembersRequest).mpr
    fun response expects => by
      rw [← answer_expected _ _ _ expects]
      decide +kernel

def longName (count : Nat) : String := String.ofList ('a' :: List.replicate count 'a')

theorem trimSpace_longName (count : Nat) : trimSpace (longName count) = longName count := by
  have visible : isSpace 'a' = false := by decide
  have start : ('a' :: List.replicate count 'a').dropWhile isSpace =
      'a' :: List.replicate count 'a' := List.dropWhile_cons_of_neg (by simp [visible])
  rw [longName, trimSpace, String.toList_ofList, start, ← List.replicate_succ,
    List.reverse_replicate, List.replicate_succ, start, ← List.replicate_succ,
    List.reverse_replicate]

theorem longName_ne_empty (count : Nat) : longName count ≠ "" := by
  intro empty
  have characters := congrArg String.toList empty
  simp [longName] at characters

theorem length_lt_stringSize (value : String) : value.toList.length < stringSize value := by
  have each : ∀ character : Char, 1 ≤ characterSize character := by
    intro character
    rw [characterSize]
    split_ifs
    · decide
    · decide
    · exact character.utf8Size_pos
  have summed : ∀ characters : List Char,
      characters.length ≤ (characters.map characterSize).sum := by
    intro characters
    induction characters with
    | nil => simp
    | cons first rest ih =>
      have here := each first
      rw [List.map_cons, List.sum_cons, List.length_cons]
      omega
  have whole := summed value.toList
  rw [stringSize]
  omega

theorem displayName_lt_compactSize {response : Response} {members : List RoomMember}
    (given : response.members = some members) {member : RoomMember} (listed : member ∈ members) :
    member.displayName.toList.length <
      compactSize (ofMap (responseFields response none)) := by
  have stored : ("members", Json.array (members.map memberJson)) ∈
      (responseFields response none).toList := by
    rw [Std.ExtTreeMap.mem_toList_iff_getElem?_eq_some, getElem?_responseFields]
    simp [emitted, given]
  calc member.displayName.toList.length
      < compactSize (.string member.displayName) := by
        rw [compactSize]
        exact length_lt_stringSize _
    _ ≤ compactSize (memberJson member) :=
        compactSize_le_object
          (List.mem_cons_self : ("display_name", Json.string member.displayName) ∈ _)
    _ ≤ compactSize (.array (members.map memberJson)) :=
        compactSize_le_array (List.mem_map_of_mem listed)
    _ ≤ compactSize (ofMap (responseFields response none)) := compactSize_le_object stored

def longNamedPeer (count : Nat) : Peer where
  nodeID := "b"
  displayName := longName count
  publicKey := "key"
  virtualIPv4 := [10, 0, 0, 2]
  node := ⟨"b", longName count, "key", "windows", "1", 1⟩
  membership := ⟨"net", "b", [10, 0, 0, 2], .member, .active⟩
  endpoints := []

def longNamedSnapshot (count : Nat) : NetworkSnapshot :=
  { emptySnapshot with peers := [longNamedPeer count] }

def longNamedRoom (count : Nat) : Outcomes :=
  { smooth with snapshot := .ok (longNamedSnapshot count) }

def longNamedMembers (count : Nat) : List RoomMember :=
  sliceStable (memberLess plainPackages)
    [⟨"desk", "10.0.0.1", true, roomMemberOnline⟩,
      ⟨longName count, "10.0.0.2", false, roomMemberOnline⟩]

theorem projectRoomMembers_longNamed (count : Nat) :
    projectRoomMembers plainPackages ⟨"desk", "net", "10.0.0.1", 1⟩ (longNamedSnapshot count) =
      some (longNamedMembers count) := by
  have address : (parseIP (trimSpace "10.0.0.1")).bind to4 = some [10, 0, 0, 1] := by
    decide +kernel
  have addressText : GoNet.text [10, 0, 0, 1] = "10.0.0.1" := by decide +kernel
  have peerText : GoNet.text [10, 0, 0, 2] = "10.0.0.2" := by decide +kernel
  have named : trimSpace "desk" = "desk" := by decide +kernel
  have peer : projectPeer (longNamedPeer count) =
      some ⟨longName count, "10.0.0.2", false, roomMemberOnline⟩ := by
    simp only [projectPeer, longNamedPeer, to4, trimSpace_longName,
      if_neg (longName_ne_empty count), peerText, List.length_cons, List.length_nil, if_true]
  have network : blank "net" = false := by decide +kernel
  simp only [projectRoomMembers, address, named, network, longNamedSnapshot, emptySnapshot]
  simp [peer, to4, GoNet.equal, longNamedMembers, addressText]

def joinedService : Service where
  publicKey := "key"
  started := true
  joined := some ⟨"desk", "net", "10.0.0.1", 1⟩
  status := ⟨"net", "10.0.0.1", "disconnected", ⟨0, 0⟩, "", 1⟩

theorem run_joinedActions :
    (run (step plainPackages fullOptions) joinedActions Run.new).service = joinedService := by
  decide +kernel

theorem decodeRequest_roomMembersRequest :
    decodeRequest compactValueCodec.toCodec roomMembersRequest =
      .ok (Request.of .roomMembers) := by
  rfl

theorem answer_longNamedRoom (count : Nat) :
    (answer compactValueCodec.toCodec plainPackages fullOptions (longNamedRoom count) true true
      roomMembersRequest joinedService).response.members = some (longNamedMembers count) := by
  have some_ : longNamedMembers count ≠ [] :=
    (projectRoomMembers_valid (projectRoomMembers_longNamed count)).2.1
  have handled : handle plainPackages fullOptions (longNamedRoom count) true
        (Request.of .roomMembers) joinedService =
      roomMembers plainPackages fullOptions (longNamedRoom count) joinedService := by
    simp only [handle, Request.of, joinedService, Bool.not_true, Bool.false_eq_true, if_false,
      reduceCtorEq]
  rw [answer, decodeRequest_roomMembersRequest]
  simp only [Bool.not_true, Bool.false_eq_true, if_false, handled]
  simp [roomMembers, joinedService, fullOptions, longNamedRoom, projectRoomMembers_longNamed,
    successMembersResponse, some_]

theorem longNamedRoom_unanswered {count : Nat} (large : maxMessageSize ≤ count) :
    handleJSON compactValueCodec.toCodec decimalClock plainPackages fullOptions
        (longNamedRoom count) true true roomMembersRequest joinedService =
      .error ⟨none, some .messageTooLarge⟩ := by
  have coherent := coherent_run plainPackages fullOptions typed_joinedActions
  rw [run_joinedActions] at coherent
  have presentable : Presentable (answer compactValueCodec.toCodec plainPackages fullOptions
      (longNamedRoom count) true true roomMembersRequest joinedService).response :=
    presentable_answer compactValueCodec plainPackages fullOptions typed_smooth coherent
  have listed : ⟨longName count, "10.0.0.2", false, roomMemberOnline⟩ ∈
      longNamedMembers count := by
    rw [longNamedMembers, mem_sliceStable]
    simp
  have sized := displayName_lt_compactSize (answer_longNamedRoom count) listed
  have characters : (longName count).toList.length = count + 1 := by
    simp only [longName, String.toList_ofList, List.length_cons, List.length_replicate]
  simp only [characters] at sized
  rw [handleJSON, marshalResponse_presentable presentable, if_pos (by omega)]

/-- A room whose listing is too large gets no answer at all: the error of the
encoder is all that the request leads to, and the connection is closed. -/
theorem large_room_unanswered :
    handleJSON compactValueCodec.toCodec decimalClock plainPackages fullOptions
        (longNamedRoom maxMessageSize) true true roomMembersRequest
        (run (step plainPackages fullOptions) joinedActions Run.new).service =
      .error ⟨none, some .messageTooLarge⟩ ∧
    handleConnection compactValueCodec.toCodec decimalClock plainPackages fullOptions
        (longNamedRoom maxMessageSize) true (some roomMembersRequest) true true
        (run (step plainPackages fullOptions) joinedActions Run.new).service = none := by
  have small : compactValueCodec.size roomMembersRequest ≤ maxMessageSize := by decide +kernel
  have lost := longNamedRoom_unanswered (Nat.le_refl maxMessageSize)
  rw [run_joinedActions, handleConnection_eq_toOption _ _ _ _ small, lost]
  exact ⟨rfl, rfl⟩

end Room

end Ipv6Mesh.ServiceAnswers
