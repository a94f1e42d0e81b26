import Ipv6Mesh.GoText

/-!
# Escaped and cleaned paths of the Go runtime

`escape` of package `net/url` in its modes for a whole path and for a segment
of one, and `cleanPath` of package `net/http` with `path.Clean` of a rooted
path. An escaped text is printable and has no separator of its mode; a path of
plain segments is clean.
-/

namespace Ipv6Mesh.GoURL

open GoText

inductive Mode where
  | path
  | segment
deriving DecidableEq

def isAlphanumeric (character : Char) : Bool :=
  ('a' ≤ character && character ≤ 'z') || ('A' ≤ character && character ≤ 'Z') ||
    ('0' ≤ character && character ≤ '9')

def shouldEscape (mode : Mode) (character : Char) : Bool :=
  if isAlphanumeric character || character ∈ ['-', '_', '.', '~'] then false
  else if character ∈ ['$', '&', '+', ',', '/', ':', ';', '=', '?', '@'] then
    match mode with
    | .path => character = '?'
    | .segment => character ∈ ['/', ';', ',', '?']
  else true

def upperHex (value : Nat) : Char := "0123456789ABCDEF".toList.getD value '0'

def escapeByte (mode : Mode) (byte : UInt8) : List Char :=
  let character := Char.ofNat byte.toNat
  if shouldEscape mode character then
    ['%', upperHex (byte.toNat / 16), upperHex (byte.toNat % 16)]
  else [character]

def escapeBytes (mode : Mode) (bytes : List UInt8) : List Char := bytes.flatMap (escapeByte mode)

def escape (mode : Mode) (text : String) : String := String.ofList (escapeBytes mode (bytesOf text))

theorem forall_byte {Holds : UInt8 → Prop} (each : ∀ value < 256, Holds (UInt8.ofNat value)) :
    ∀ byte, Holds byte := by
  intro byte
  have holds := each byte.toNat byte.toNat_lt
  rwa [UInt8.ofNat_toNat] at holds

/-- Characters that an escaped text may have: printable, and neither a query nor a fragment
starts with one. -/
def plain (character : Char) : Bool :=
  0x20 < character.toNat && character.toNat < 0x7f && character ≠ '?' && character ≠ '#'

theorem escapeByte_plain (mode : Mode) (byte : UInt8) :
    (escapeByte mode byte).all plain = true := by
  revert byte
  apply forall_byte
  cases mode <;> decide +kernel

theorem escapeByte_segment (byte : UInt8) : '/' ∉ escapeByte .segment byte := by
  revert byte
  apply forall_byte
  decide +kernel

theorem escape_plain (mode : Mode) (text : String) :
    ∀ character ∈ (escape mode text).toList, plain character = true := by
  intro character listed
  rw [escape, String.toList_ofList] at listed
  obtain ⟨byte, -, inside⟩ := List.mem_flatMap.mp listed
  exact List.all_eq_true.mp (escapeByte_plain mode byte) character inside

theorem slash_notMem_escape (text : String) : '/' ∉ (escape .segment text).toList := by
  intro listed
  rw [escape, String.toList_ofList] at listed
  obtain ⟨byte, -, inside⟩ := List.mem_flatMap.mp listed
  exact escapeByte_segment byte inside

theorem unescaped_byte {mode : Mode} {byte : UInt8}
    (kept : shouldEscape mode (Char.ofNat byte.toNat) = false) :
    Char.ofNat byte.toNat ≠ '%' ∧ String.utf8EncodeChar (Char.ofNat byte.toNat) = [byte] := by
  revert byte
  apply forall_byte
  cases mode <;> decide +kernel

def cleanStep (kept : List (List Char)) (segment : List Char) : List (List Char) :=
  if segment = [] ∨ segment = ['.'] then kept
  else if segment = ['.', '.'] then kept.dropLast
  else kept ++ [segment]

def cleanRooted (path : List Char) : List Char :=
  '/' :: ['/'].intercalate ((path.splitOn '/').foldl cleanStep [])

def cleanPath (path : String) : String :=
  if path = "" then "/"
  else
    let rooted := if path.toList.head? = some '/' then path.toList else '/' :: path.toList
    let cleaned := cleanRooted rooted
    if rooted.getLast? = some '/' ∧ cleaned ≠ ['/'] then String.ofList (cleaned ++ ['/'])
    else String.ofList cleaned

structure PlainSegment (segment : List Char) : Prop where
  present : segment ≠ []
  noSlash : '/' ∉ segment
  noDot : segment ≠ ['.']
  noDots : segment ≠ ['.', '.']

variable {segments : List (List Char)}

theorem foldl_cleanStep (plain : ∀ segment ∈ segments, PlainSegment segment)
    (kept : List (List Char)) :
    segments.foldl cleanStep kept = kept ++ segments := by
  induction segments generalizing kept with
  | nil => simp
  | cons segment rest ih =>
    obtain ⟨here, later⟩ := List.forall_mem_cons.mp plain
    have step : cleanStep kept segment = kept ++ [segment] := by
      rw [cleanStep, if_neg (not_or.mpr ⟨here.present, here.noDot⟩), if_neg here.noDots]
    rw [List.foldl_cons, step, ih later, List.append_assoc, List.singleton_append]

def rootedPath (segments : List (List Char)) : String :=
  String.ofList ('/' :: ['/'].intercalate segments)

theorem splitOn_rootedPath (some_ : segments ≠ []) (noSlash : ∀ segment ∈ segments, '/' ∉ segment) :
    ('/' :: ['/'].intercalate segments).splitOn '/' = [] :: segments := by
  have joined : '/' :: ['/'].intercalate segments = ['/'].intercalate ([] :: segments) := by
    cases segments with
    | nil => exact absurd rfl some_
    | cons first rest => simp [List.intercalate]
  rw [joined]
  refine List.splitOn_intercalate '/' ?_ (List.cons_ne_nil _ _)
  exact List.forall_mem_cons.mpr ⟨List.not_mem_nil, noSlash⟩

theorem getLast?_rootedPath (some_ : segments ≠ []) (present : ∀ segment ∈ segments, segment ≠ [])
    (noSlash : ∀ segment ∈ segments, '/' ∉ segment) :
    ('/' :: ['/'].intercalate segments).getLast? ≠ some '/' := by
  intro slash
  obtain ⟨front, shape⟩ := List.getLast?_eq_some_iff.mp slash
  have split := splitOn_rootedPath some_ noSlash
  have ends : List.splitOn '/' (front ++ ['/']) = List.splitOn '/' front ++ [[]] :=
    List.splitOnP_append_cons front [] rfl
  rw [shape, ends] at split
  have last := congrArg List.getLast? split
  rw [List.getLast?_append_of_ne_nil _ (List.cons_ne_nil _ _), List.getLast?_cons_of_ne_nil some_]
    at last
  exact present [] (List.mem_of_getLast? last.symm) rfl

theorem cleanPath_rootedPath (some_ : segments ≠ [])
    (plain : ∀ segment ∈ segments, PlainSegment segment) :
    cleanPath (rootedPath segments) = rootedPath segments := by
  have noSlash : ∀ segment ∈ segments, '/' ∉ segment := fun segment listed =>
    (plain segment listed).noSlash
  have cleaned : cleanRooted ('/' :: ['/'].intercalate segments) =
      '/' :: ['/'].intercalate segments := by
    have start : cleanStep [] [] = [] := rfl
    rw [cleanRooted, splitOn_rootedPath some_ noSlash, List.foldl_cons, start,
      foldl_cleanStep plain, List.nil_append]
  have present : rootedPath segments ≠ "" := by
    intro empty
    have characters := congrArg String.toList empty
    rw [rootedPath, String.toList_ofList] at characters
    cases characters
  have last := getLast?_rootedPath some_ (fun segment listed => (plain segment listed).present)
    noSlash
  rw [cleanPath, if_neg present]
  simp only [rootedPath, String.toList_ofList, List.head?_cons, if_true, cleaned]
  rw [if_neg fun both => last both.1]

end Ipv6Mesh.GoURL
