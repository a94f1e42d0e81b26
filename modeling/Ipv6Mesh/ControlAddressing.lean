import Ipv6Mesh.GoURL
import Ipv6Mesh.HandlerRuns

/-!
# Identifiers in request paths

The URLs of `internal/control/client.go`, the multiplexer of
`cmd/control-server/runtime.go` and the routes of the handler. The client
escapes an identifier into a segment and renders the path, which escapes it
once more; the server undoes the second escape when it reads the request and
the handler the first one. Between the two the multiplexer cleans the path, so
the two identifiers that are dot segments do not arrive.
-/

namespace Ipv6Mesh.ControlAddressing

open GoText GoURL
open GoNet (hexValue)
open GoFlow (check_eq_ok run)
open ControlModel ControlValidation ControlHandler AuthTokens ControlEnrollment ControlRoom DbMemory
  HandlerRuns

/-- The path of a `url.URL`; `rawPath` is empty unless the text it was read from
is not its default escape. -/
structure URLPath where
  path : String
  rawPath : String
deriving DecidableEq

def setPath (text : String) : Option URLPath := do
  let path ← pathUnescape text
  some ⟨path, if text = escape .path path then "" else text⟩

def validEncoded (text : String) : Bool :=
  text.toList.all fun character =>
    -- 0x27 is the apostrophe
    character ∈ ['!', '$', '&', Char.ofNat 0x27, '(', ')', '*', '+', ',', ';', '=', ':', '@',
      '[', ']', '%'] || !shouldEscape .path character

def escapedPath (url : URLPath) : String :=
  if url.rawPath ≠ "" && validEncoded url.rawPath && pathUnescape url.rawPath = some url.path then
    url.rawPath
  else if url.path = "*" then "*"
  else escape .path url.path

def isControl (character : Char) : Bool := character.toNat < 0x20 || character.toNat = 0x7f

def cutAt (ends : List Char) (text : String) : String :=
  String.ofList (text.toList.takeWhile fun character => character ∉ ends)

def parsePath (text : String) : Option URLPath :=
  if text.toList.any isControl then none else setPath (cutAt ['#', '?'] text)

def resolveURL (basePath path : String) : URLPath :=
  ⟨String.ofList ((basePath.toList.rdropWhile (· = '/')) ++ '/' :: path.toList.dropWhile (· = '/')),
    ""⟩

/-- What `http.NewRequest` reads of the rendered URL is what the request line has. -/
def requestTarget (basePath path : String) : Option String :=
  (parsePath (escapedPath (resolveURL basePath path))).map escapedPath

def snapshotPath (networkID : String) : String :=
  "/v1/networks/" ++ escape .segment networkID ++ "/snapshot"

def heartbeatPath (nodeID : String) : String :=
  "/v1/nodes/" ++ escape .segment nodeID ++ "/heartbeat"

def leavePath (nodeID : String) : String :=
  "/v1/nodes/" ++ escape .segment nodeID ++ "/leave"

def parseRequestURI (target : String) : Option URLPath :=
  if target.toList.any isControl || target.toList.head? ≠ some '/' then none
  else setPath (cutAt ['?'] target)

inductive Dispatch where
  | badRequest
  | redirected (path : String)
  | health
  | handler (path : String)
deriving DecidableEq

def dispatch (target : String) : Dispatch :=
  match parseRequestURI target with
  | none => .badRequest
  | some url =>
    if cleanPath url.path ≠ url.path then .redirected (cleanPath url.path)
    else if url.path = "/healthz" then .health
    else .handler url.path

theorem hexValue_upperHex : ∀ value < 16, hexValue (upperHex value) = some value := by
  decide +kernel

theorem unescapeBytes_cons {character : Char} (unescaped : character ≠ '%') (rest : List Char) :
    unescapeBytes (character :: rest) =
      (unescapeBytes rest).map (String.utf8EncodeChar character ++ ·) := by
  rw [unescapeBytes.eq_def]
  split
  · rename_i shape
    cases shape
  · rename_i shape
    cases shape
    exact absurd rfl unescaped
  · rename_i shape
    cases shape
    exact absurd rfl unescaped
  · rename_i shape
    cases shape
    cases unescapeBytes rest <;> rfl

theorem unescapeBytes_escapeBytes (mode : Mode) (bytes : List UInt8) :
    unescapeBytes (escapeBytes mode bytes) = some bytes := by
  induction bytes with
  | nil => rfl
  | cons byte bytes ih =>
    have split : escapeBytes mode (byte :: bytes) =
        escapeByte mode byte ++ escapeBytes mode bytes := List.flatMap_cons
    rw [split, escapeByte]
    cases kept : shouldEscape mode (Char.ofNat byte.toNat) with
    | true =>
      have high : byte.toNat / 16 < 16 := by
        have bound := byte.toNat_lt
        omega
      have low : byte.toNat % 16 < 16 := Nat.mod_lt _ (by decide)
      simp only [if_true, List.cons_append, List.nil_append, unescapeBytes,
        hexValue_upperHex _ high, hexValue_upperHex _ low, ih, Option.bind_eq_bind,
        Option.bind_some, Nat.div_add_mod', UInt8.ofNat_toNat]
    | false =>
      obtain ⟨unescaped, encoded⟩ := unescaped_byte kept
      simp only [Bool.false_eq_true, if_false, List.cons_append, List.nil_append]
      rw [unescapeBytes_cons unescaped, ih, encoded]
      rfl

theorem fromUTF8?_bytesOf (text : String) :
    String.fromUTF8? ⟨(bytesOf text).toArray⟩ = some text := by
  have bytes : (⟨(bytesOf text).toArray⟩ : ByteArray) = text.toByteArray := by
    rw [← String.ofList_toList (s := text), String.toByteArray_ofList]
    apply ByteArray.ext
    simp [bytesOf, List.utf8Encode]
  rw [bytes, String.fromUTF8?, dif_pos text.isValidUTF8]
  rfl

theorem pathUnescape_escape (mode : Mode) (text : String) :
    pathUnescape (escape mode text) = some text := by
  rw [pathUnescape, escape, String.toList_ofList, unescapeBytes_escapeBytes]
  exact fromUTF8?_bytesOf text

theorem escape_injective (mode : Mode) : Function.Injective (escape mode) := by
  intro left right same
  have read := congrArg pathUnescape same
  rw [pathUnescape_escape, pathUnescape_escape] at read
  exact Option.some.inj read

def resourceSegments (collection id suffix : String) : List (List Char) :=
  ["v1".toList, collection.toList, (escape .segment id).toList, suffix.toList]

theorem pathParts_rootedPath {segments : List (List Char)} (some_ : segments ≠ [])
    (noSlash : ∀ segment ∈ segments, '/' ∉ segment) :
    pathParts (rootedPath segments) = segments.map String.ofList := by
  simp only [pathParts, rootedPath, String.toList_ofList, splitAt]
  rw [List.splitOn_intercalate '/' noSlash some_]

section Resource

variable {collection id suffix : String}

theorem noSlash_resourceSegments (plainCollection : PlainSegment collection.toList)
    (plainSuffix : PlainSegment suffix.toList) :
    ∀ segment ∈ resourceSegments collection id suffix, '/' ∉ segment := by
  simp only [resourceSegments, List.forall_mem_cons]
  exact ⟨by decide, plainCollection.noSlash, slash_notMem_escape id, plainSuffix.noSlash,
    by simp⟩

theorem pathParts_resource (plainCollection : PlainSegment collection.toList)
    (plainSuffix : PlainSegment suffix.toList) :
    pathParts (rootedPath (resourceSegments collection id suffix)) =
      ["v1", collection, escape .segment id, suffix] := by
  rw [pathParts_rootedPath (by simp [resourceSegments])
    (noSlash_resourceSegments plainCollection plainSuffix)]
  simp [resourceSegments]

def DotSegment (id : String) : Prop := id = "." ∨ id = ".."

theorem plainSegment_escape (present : id ≠ "") (apart : ¬DotSegment id) :
    PlainSegment (escape .segment id).toList := by
  have same : ∀ other : String, escape .segment other = other →
      (escape .segment id).toList = other.toList → id = other := by
    intro other fixed equal
    exact escape_injective .segment ((String.toList_injective equal).trans fixed.symm)
  refine ⟨fun empty => ?_, slash_notMem_escape id, fun dot => ?_, fun dots => ?_⟩
  · exact present (same "" (by decide +kernel) empty)
  · exact apart (Or.inl (same "." (by decide +kernel) dot))
  · exact apart (Or.inr (same ".." (by decide +kernel) dots))

theorem escape_ne_empty (present : id ≠ "") : escape .segment id ≠ "" := by
  intro empty
  have fixed : escape .segment "" = "" := by decide +kernel
  exact present (escape_injective .segment (empty.trans fixed.symm))

theorem resourceID_resource (plainCollection : PlainSegment collection.toList)
    (plainSuffix : PlainSegment suffix.toList) (present : id ≠ "") :
    resourceID (rootedPath (resourceSegments collection id suffix)) collection suffix = .ok id := by
  rw [resourceID, pathParts_resource plainCollection plainSuffix]
  simp [escape_ne_empty present, identifierOf, pathUnescape_escape, present]

theorem hasPathSuffix_resource (plainCollection : PlainSegment collection.toList)
    (plainSuffix : PlainSegment suffix.toList) (present : id ≠ "") (other : String) :
    hasPathSuffix (rootedPath (resourceSegments collection id suffix)) other =
      decide (suffix = other) := by
  have versioned : "/v1/".toList.isPrefixOf
      (rootedPath (resourceSegments collection id suffix)).toList = true := by
    simp [rootedPath, resourceSegments, List.intercalate]
  have filled : ∀ segment ∈ resourceSegments collection id suffix, segment ≠ [] := by
    simp only [resourceSegments, List.forall_mem_cons]
    exact ⟨by decide, plainCollection.present,
      fun empty => escape_ne_empty present (String.toList_injective empty), plainSuffix.present,
      by simp⟩
  have last := getLast?_rootedPath (by simp [resourceSegments]) filled
    (noSlash_resourceSegments plainCollection plainSuffix)
  have named : collection ≠ "" := fun empty => plainCollection.present (by simp [empty])
  rw [hasPathSuffix, versioned, pathParts_resource plainCollection plainSuffix]
  rw [rootedPath, String.toList_ofList]
  simp [last, named]

end Resource

theorem plain_not_control {character : Char} (printable : plain character = true) :
    isControl character = false := by
  simp only [plain, Bool.and_eq_true, decide_eq_true_eq] at printable
  simp only [isControl, Bool.or_eq_false_iff, decide_eq_false_iff_not]
  omega

theorem any_isControl_escape (path : String) :
    (escape .path path).toList.any isControl = false := by
  rw [List.any_eq_false]
  intro character listed
  rw [plain_not_control (escape_plain .path path character listed)]
  exact Bool.false_ne_true

theorem cutAt_escape (path : String) {ends : List Char}
    (known : ∀ character ∈ ends, character = '#' ∨ character = '?') :
    cutAt ends (escape .path path) = escape .path path := by
  have whole : (escape .path path).toList.takeWhile (fun character => character ∉ ends) =
      (escape .path path).toList := by
    rw [List.takeWhile_eq_self_iff]
    intro character listed
    have printable := escape_plain .path path character listed
    simp only [plain, Bool.and_eq_true, decide_eq_true_eq] at printable
    rw [decide_eq_true_eq]
    intro ending
    rcases known character ending with same | same
    · exact printable.2 same
    · exact printable.1.2 same
  rw [cutAt, whole, String.ofList_toList]

theorem setPath_escape (path : String) : setPath (escape .path path) = some ⟨path, ""⟩ := by
  simp [setPath, pathUnescape_escape]

theorem escapedPath_plain {path : String} (named : path ≠ "*") :
    escapedPath ⟨path, ""⟩ = escape .path path := by
  simp [escapedPath, named]

theorem requestTarget_rootedPath {basePath : String} {segments : List (List Char)}
    (root : basePath.toList.rdropWhile (· = '/') = [])
    (first : (['/'].intercalate segments).head? ≠ some '/') :
    requestTarget basePath (rootedPath segments) = some (escape .path (rootedPath segments)) := by
  have resolved : resolveURL basePath (rootedPath segments) = ⟨rootedPath segments, ""⟩ := by
    have single : ('/' :: ['/'].intercalate segments).dropWhile (· = '/') =
        ['/'].intercalate segments := by
      rw [List.dropWhile_cons_of_pos (by simp)]
      cases shape : ['/'].intercalate segments with
      | nil => rfl
      | cons character rest =>
        rw [shape, List.head?_cons] at first
        exact List.dropWhile_cons_of_neg (by simpa using first)
    simp only [resolveURL, root, rootedPath, String.toList_ofList, single, List.nil_append]
  have named : rootedPath segments ≠ "*" := by
    intro same
    have characters := congrArg String.toList same
    rw [rootedPath, String.toList_ofList] at characters
    cases characters
  rw [requestTarget, resolved, escapedPath_plain named, parsePath, any_isControl_escape,
    cutAt_escape _ (by simp), setPath_escape]
  simp [escapedPath_plain named]

theorem dispatch_escape {path : String} (rooted : (escape .path path).toList.head? = some '/') :
    dispatch (escape .path path) =
      if cleanPath path ≠ path then .redirected (cleanPath path)
      else if path = "/healthz" then .health
      else .handler path := by
  rw [dispatch, parseRequestURI, any_isControl_escape, rooted, cutAt_escape _ (by simp),
    setPath_escape]
  rfl

theorem head?_escape_rootedPath (segments : List (List Char)) :
    (escape .path (rootedPath segments)).toList.head? = some '/' := by
  have slash : String.utf8EncodeChar '/' = [47] := by decide
  have kept : escapeByte .path 47 = ['/'] := by decide
  simp [escape, escapeBytes, bytesOf, rootedPath, slash, kept]

/-- A request of the client for a path arrives at a route of the handler, which
reads the identifier from it. -/
def Reached (basePath : String) (request : Request) (path : String) (route : Route)
    (collection suffix id : String) : Prop :=
  ∃ target served, requestTarget basePath path = some target ∧
    dispatch target = .handler served ∧ routeOf { request with path := served } = route ∧
    resourceID served collection suffix = .ok id

section Reached

variable {basePath collection id suffix : String} {request : Request} {route : Route}

theorem rootedPath_ne (plainCollection : PlainSegment collection.toList)
    (plainSuffix : PlainSegment suffix.toList) {other : String}
    (short : (pathParts other).length ≠ 4) :
    rootedPath (resourceSegments collection id suffix) ≠ other := by
  rintro rfl
  rw [pathParts_resource plainCollection plainSuffix] at short
  exact short rfl

theorem reached_iff (root : basePath.toList.rdropWhile (· = '/') = [])
    (plainCollection : PlainSegment collection.toList) (plainSuffix : PlainSegment suffix.toList)
    (unclean : ∀ dots ∈ [".", ".."],
      cleanPath (rootedPath (resourceSegments collection dots suffix)) ≠
        rootedPath (resourceSegments collection dots suffix))
    (present : id ≠ "")
    (routed : routeOf { request with path := rootedPath (resourceSegments collection id suffix) } =
      route) :
    Reached basePath request (rootedPath (resourceSegments collection id suffix)) route collection
      suffix id ↔ ¬DotSegment id := by
  have first : (['/'].intercalate (resourceSegments collection id suffix)).head? ≠ some '/' := by
    simp [resourceSegments, List.intercalate]
  have sent := requestTarget_rootedPath root first
  have arrived := dispatch_escape
    (head?_escape_rootedPath (resourceSegments collection id suffix))
  constructor
  · rintro ⟨target, served, built, handled, -⟩ dots
    rw [sent] at built
    obtain rfl := Option.some.inj built
    have redirected := unclean id (by rcases dots with rfl | rfl <;> simp)
    rw [arrived, if_pos redirected] at handled
    cases handled
  · intro apart
    have segments : ∀ segment ∈ resourceSegments collection id suffix, PlainSegment segment := by
      simp only [resourceSegments, List.forall_mem_cons]
      exact ⟨⟨by decide, by decide, by decide, by decide⟩, plainCollection,
        plainSegment_escape present apart, plainSuffix, by simp⟩
    have clean := cleanPath_rootedPath (by simp [resourceSegments]) segments
    have unhealthy : rootedPath (resourceSegments collection id suffix) ≠ "/healthz" :=
      rootedPath_ne plainCollection plainSuffix (by decide +kernel)
    rw [if_neg (not_not.mpr clean), if_neg unhealthy] at arrived
    exact ⟨_, _, sent, arrived, routed, resourceID_resource plainCollection plainSuffix present⟩

end Reached

theorem ne_empty_of_required {model field value : String}
    (given : required model field value = .ok ()) : value ≠ "" := by
  rintro rfl
  rw [required, invalidWhen, blank_empty] at given
  cases given

theorem plainSegment_of_decide {segment : String}
    (plain : segment.toList ≠ [] ∧ '/' ∉ segment.toList ∧ segment.toList ≠ ['.'] ∧
      segment.toList ≠ ['.', '.']) : PlainSegment segment.toList :=
  ⟨plain.1, plain.2.1, plain.2.2.1, plain.2.2.2⟩

section Requests

variable {basePath id : String} {request : Request}

theorem snapshot_reached_iff (root : basePath.toList.rdropWhile (· = '/') = [])
    (method : request.method = .get) (present : id ≠ "") :
    Reached basePath request (snapshotPath id) .snapshot "networks" "snapshot" id ↔
      ¬DotSegment id := by
  have collection : PlainSegment "networks".toList := plainSegment_of_decide (by decide)
  have suffix : PlainSegment "snapshot".toList := plainSegment_of_decide (by decide)
  have shape : snapshotPath id = rootedPath (resourceSegments "networks" id "snapshot") := by
    apply String.toList_injective
    simp [snapshotPath, rootedPath, resourceSegments, List.intercalate]
  rw [shape]
  refine reached_iff root collection suffix (by decide +kernel) present ?_
  simp [routeOf, method, hasPathSuffix_resource collection suffix present]

theorem posted_reached_iff (root : basePath.toList.rdropWhile (· = '/') = [])
    (method : request.method = .post) (present : id ≠ "") {suffix : String} {route : Route}
    (posted : (suffix = "heartbeat" ∧ route = .heartbeat) ∨
      (suffix = "leave" ∧ route = .leaveNode)) :
    Reached basePath request (rootedPath (resourceSegments "nodes" id suffix)) route "nodes" suffix
      id ↔ ¬DotSegment id := by
  have collection : PlainSegment "nodes".toList := plainSegment_of_decide (by decide)
  have plainSuffix : PlainSegment suffix.toList := by
    rcases posted with ⟨rfl, -⟩ | ⟨rfl, -⟩ <;> exact plainSegment_of_decide (by decide)
  have other : ∀ path ∈ ["/v1/room", "/v1/room/join", "/v1/networks", "/v1/enrollments"],
      rootedPath (resourceSegments "nodes" id suffix) ≠ path := by
    intro path listed
    refine rootedPath_ne collection plainSuffix ?_
    revert path
    decide +kernel
  simp only [List.forall_mem_cons] at other
  obtain ⟨room, join, networks, enrollments, -⟩ := other
  refine reached_iff root collection plainSuffix ?_ present ?_
  · rcases posted with ⟨rfl, -⟩ | ⟨rfl, -⟩ <;> decide +kernel
  · rcases posted with ⟨rfl, rfl⟩ | ⟨rfl, rfl⟩ <;>
      simp [routeOf, method, hasPathSuffix_resource collection plainSuffix present, room, join,
        networks, enrollments]

end Requests

/-- An accepted identifier reaches its handler exactly when it is no dot segment. -/
theorem identifier_reaches_handler_iff (basePath : String)
    (root : basePath.toList.rdropWhile (· = '/') = []) (request : Request)
    (network : Network) (networkValid : validateNetwork network = .ok ())
    (node : Node) (nodeValid : validateNode node = .ok ()) :
    (Reached basePath { request with method := .get } (snapshotPath network.id) .snapshot
        "networks" "snapshot" network.id ↔ ¬DotSegment network.id) ∧
      (Reached basePath { request with method := .post } (heartbeatPath node.id) .heartbeat
        "nodes" "heartbeat" node.id ↔ ¬DotSegment node.id) ∧
      (Reached basePath { request with method := .post } (leavePath node.id) .leaveNode
        "nodes" "leave" node.id ↔ ¬DotSegment node.id) := by
  have networkNamed := ne_empty_of_required (check_eq_ok.mp networkValid).1
  have nodeNamed := ne_empty_of_required (check_eq_ok.mp nodeValid).1
  have heartbeat : heartbeatPath node.id =
      rootedPath (resourceSegments "nodes" node.id "heartbeat") := by
    apply String.toList_injective
    simp [heartbeatPath, rootedPath, resourceSegments, List.intercalate]
  have leave : leavePath node.id = rootedPath (resourceSegments "nodes" node.id "leave") := by
    apply String.toList_injective
    simp [leavePath, rootedPath, resourceSegments, List.intercalate]
  rw [heartbeat, leave]
  exact ⟨snapshot_reached_iff root rfl networkNamed,
    posted_reached_iff root rfl nodeNamed (Or.inl ⟨rfl, rfl⟩),
    posted_reached_iff root rfl nodeNamed (Or.inr ⟨rfl, rfl⟩)⟩

/-- An identifier with separators, escapes and a letter that is not ASCII. -/
theorem separators_reach_handler :
    Reached "/" { plainRequest .get "" "" with method := .get } (snapshotPath "n:1") .snapshot
        "networks" "snapshot" "n:1" ∧
      Reached "/" { plainRequest .get "" "" with method := .post }
        (heartbeatPath "a/../é %2F?#") .heartbeat "nodes" "heartbeat" "a/../é %2F?#" := by
  have reached := identifier_reaches_handler_iff "/" (by decide) (plainRequest .get "" "")
    ⟨"n:1", "n", "10.0.0.0/29", "admin", 1, 1⟩ (by decide +kernel)
    ⟨"a/../é %2F?#", "desk", "key", "linux", "1", 1⟩ (by decide +kernel)
  have apart : ¬DotSegment "n:1" ∧ ¬DotSegment "a/../é %2F?#" := by
    unfold DotSegment
    decide +kernel
  exact ⟨reached.1.mpr apart.1, reached.2.1.mpr apart.2⟩

def dotSteps : List Step :=
  let post := fun path => plainRequest .post path "Bearer bootstrap-token"
  let secret : Secret := ⟨List.replicate 32 1, List.length_replicate⟩
  [.serve { post "/v1/networks" with networkBody := .ok ⟨".", "dot", "10.0.0.0/29"⟩ }
      (plainMoment 1 "" 1),
    .serve { post "/v1/networks" with networkBody := .ok ⟨"n", "n", "10.0.1.0/29"⟩ }
      (plainMoment 1 "" 1),
    .serve { post "/v1/networks/n/invites" with inviteBody := .ok ⟨""⟩ } (plainMoment 1 "i" 1),
    .serve { post "/v1/enrollments" with
      enrollBody := .ok ⟨inviteTokenFor "i" secret, "..", "desk", "key", "linux", "1"⟩ }
      (plainMoment 2 "" 1)]

def dotState : State :=
  run (Step.apply (plainHandler false)) dotSteps
    ⟨newMemoryRepositoryWithEndpointMaxAge minute, newSessionStore minute, "",
      newRoomJoinLimiter 0 0⟩

theorem dot_identifiers_are_redirected :
    dotState.repository.networks["."]?.isSome = true ∧
      (dotState.repository.membership? "n" "..").isSome = true ∧
      (requestTarget "" (snapshotPath ".")).map dispatch =
        some (.redirected "/v1/networks/snapshot") ∧
      (requestTarget "" (heartbeatPath "..")).map dispatch =
        some (.redirected "/v1/heartbeat") ∧
      (requestTarget "" (leavePath "..")).map dispatch = some (.redirected "/v1/leave") := by
  decide +kernel

end Ipv6Mesh.ControlAddressing
