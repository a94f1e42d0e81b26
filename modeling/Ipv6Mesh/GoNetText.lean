import Ipv6Mesh.GoNetip

/-!
# Address texts are read back

`parseIP` undoes `IP.String` on every four-byte and sixteen-byte address. The
IPv4 half follows the octets of the dotted text, the IPv6 half the hexadecimal
groups on both sides of the compressed run. A text with a slash is refused.
-/

namespace Ipv6Mesh.GoNet

open GoText

theorem decimalDigit_digitChar {digit : Nat} (small : digit < 10) :
    decimalDigit digit.digitChar = some digit := by
  have table : ∀ value : Fin 10, decimalDigit (Nat.digitChar value.val) = some value.val := by
    decide
  exact table ⟨digit, small⟩

theorem toDigits_two {value : Nat} (lower : 10 ≤ value) (upper : value < 100) :
    Nat.toDigits 10 value = [(value / 10).digitChar, (value % 10).digitChar] := by
  rw [Nat.toDigits_of_base_le (by decide) lower, Nat.toDigits_of_lt_base (by omega)]
  rfl

theorem toDigits_three {value : Nat} (lower : 100 ≤ value) (upper : value < 1000) :
    Nat.toDigits 10 value =
      [(value / 100).digitChar, (value / 10 % 10).digitChar, (value % 10).digitChar] := by
  rw [Nat.toDigits_of_base_le (by decide) (by omega), toDigits_two (by omega) (by omega),
    Nat.div_div_eq_div_mul]
  rfl

theorem parseIPv4Fields_digit {digit value digits : Nat} (small : digit < 10)
    (leading : ¬(digits = 1 ∧ value = 0)) (bounded : value * 10 + digit ≤ 255)
    (rest : List Char) (fields : List Nat) :
    parseIPv4Fields (digit.digitChar :: rest) fields value digits =
      parseIPv4Fields rest fields (value * 10 + digit) (digits + 1) := by
  rw [parseIPv4Fields, decimalDigit_digitChar small]
  simp only [if_neg leading, if_neg (Nat.not_lt.mpr bounded)]

theorem parseIPv4Fields_octet {octet : Nat} (bounded : octet ≤ 255) (rest : List Char)
    (fields : List Nat) :
    parseIPv4Fields (Nat.toDigits 10 octet ++ rest) fields 0 0 =
      parseIPv4Fields rest fields octet (Nat.toDigits 10 octet).length := by
  by_cases one : octet < 10
  · rw [Nat.toDigits_of_lt_base one, List.singleton_append,
      parseIPv4Fields_digit one (by omega) (by omega)]
    simp
  · by_cases two : octet < 100
    · rw [toDigits_two (by omega) two]
      simp only [List.cons_append, List.nil_append]
      rw [parseIPv4Fields_digit (by omega) (by omega) (by omega),
        parseIPv4Fields_digit (by omega) (by omega) (by omega)]
      have whole : (0 * 10 + octet / 10) * 10 + octet % 10 = octet := by omega
      rw [whole]
      rfl
    · rw [toDigits_three (by omega) (by omega)]
      simp only [List.cons_append, List.nil_append]
      rw [parseIPv4Fields_digit (by omega) (by omega) (by omega),
        parseIPv4Fields_digit (by omega) (by omega) (by omega),
        parseIPv4Fields_digit (by omega) (by omega) (by omega)]
      have whole : ((0 * 10 + octet / 100) * 10 + octet / 10 % 10) * 10 + octet % 10 = octet := by
        omega
      rw [whole]
      rfl

theorem parseIPv4Fields_dot {digits : Nat} (read : digits ≠ 0) {fields : List Nat}
    (room : fields.length < 3) (rest : List Char) (value : Nat) :
    parseIPv4Fields ('.' :: rest) fields value digits =
      parseIPv4Fields rest (fields ++ [value]) 0 0 := by
  have notDigit : decimalDigit '.' = none := by decide
  rw [parseIPv4Fields, notDigit]
  simp [read, room]

theorem dotted_cons_cons (first second : UInt8) (rest : IP) :
    dotted (first :: second :: rest) =
      Nat.toDigits 10 first.toNat ++ '.' :: dotted (second :: rest) := by
  simp [dotted, Nat.toList_repr, List.intercalate]

theorem dotted_singleton (byte : UInt8) : dotted [byte] = Nat.toDigits 10 byte.toNat := by
  simp [dotted, Nat.toList_repr, List.intercalate]

theorem octet_le (byte : UInt8) : byte.toNat ≤ 255 := by
  have := byte.toNat_lt
  omega

theorem parseIPv4Fields_dotted (bytes : IP) (nonempty : bytes ≠ []) (fields : List Nat)
    (complete : fields.length + bytes.length = 4) :
    parseIPv4Fields (dotted bytes) fields 0 0 = some (fields ++ bytes.map UInt8.toNat) := by
  induction bytes generalizing fields with
  | nil => exact absurd rfl nonempty
  | cons byte rest ih =>
    have digits : (Nat.toDigits 10 byte.toNat).length ≠ 0 :=
      Nat.ne_of_gt Nat.length_toDigits_pos
    cases rest with
    | nil =>
      have last : fields.length = 3 := by simpa using complete
      have read := parseIPv4Fields_octet (octet_le byte) [] fields
      rw [List.append_nil] at read
      rw [dotted_singleton, read, parseIPv4Fields, if_pos ⟨last, digits⟩]
      rfl
    | cons second rest =>
      have room : fields.length < 3 := by
        simp only [List.length_cons] at complete
        omega
      rw [dotted_cons_cons, parseIPv4Fields_octet (octet_le byte),
        parseIPv4Fields_dot digits room, ih (by simp)]
      · simp
      · simp only [List.length_append, List.length_cons, List.length_nil] at complete ⊢
        omega

theorem dotted_injective {left right : IP} (leftLength : left.length = 4)
    (rightLength : right.length = 4) (same : dotted left = dotted right) : left = right := by
  have leftRead := parseIPv4Fields_dotted left (by rintro rfl; cases leftLength) [] (by simpa)
  have rightRead := parseIPv4Fields_dotted right (by rintro rfl; cases rightLength) [] (by simpa)
  rw [same, rightRead] at leftRead
  have octets : right.map UInt8.toNat = left.map UInt8.toNat := by simpa using leftRead
  exact (List.map_injective_iff.mpr fun _ _ => UInt8.toNat_inj.mp) octets.symm

theorem hexValue_hexDigit {digit : Nat} (small : digit < 16) :
    hexValue (hexDigit digit) = some digit := by
  have table : ∀ value : Fin 16, hexValue (hexDigit value.val) = some value.val := by decide
  exact table ⟨digit, small⟩

theorem isHex_hexDigit (digit : Nat) : (hexValue (hexDigit digit)).isSome = true := by
  by_cases small : digit < 16
  · rw [hexValue_hexDigit small]
    rfl
  · have outside : hexDigit digit = '0' := by
      rw [hexDigit, List.getD_eq_default]
      exact Nat.le_of_not_lt small
    rw [outside]
    decide

variable {character : Char}

theorem isHex_of_mem_appendHex {group : Nat} (member : character ∈ appendHex group) :
    (hexValue character).isSome = true := by
  simp only [appendHex, List.mem_append, List.mem_ite_nil_right, List.mem_singleton] at member
  rcases member with ⟨-, rfl⟩ | ⟨-, rfl⟩ | ⟨-, rfl⟩ | rfl <;> exact isHex_hexDigit _

theorem appendHex_ne_nil (group : Nat) : appendHex group ≠ [] := by simp [appendHex]

theorem length_appendHex (group : Nat) : (appendHex group).length ≤ 4 := by
  unfold appendHex
  split_ifs <;> simp

def hexNumber (digits : List Char) : Nat :=
  digits.foldl (fun value character => value * 16 + (hexValue character).getD 0) 0

theorem hexNumber_appendHex {group : Nat} (bounded : group < 65536) :
    hexNumber (appendHex group) = group := by
  have digit : ∀ {value : Nat}, value < 16 → (hexValue (hexDigit value)).getD 0 = value :=
    fun small => by rw [hexValue_hexDigit small]; rfl
  have units := digit (Nat.mod_lt group (by decide : 0 < 16))
  have tens := digit (Nat.mod_lt (group / 0x10) (by decide : 0 < 16))
  have hundreds := digit (Nat.mod_lt (group / 0x100) (by decide : 0 < 16))
  unfold appendHex hexNumber
  split_ifs with four three two
  · have thousands := digit (by omega : group / 0x1000 < 16)
    simp only [List.cons_append, List.nil_append, List.foldl_cons, List.foldl_nil, thousands,
      hundreds, tens, units]
    omega
  all_goals
    simp only [List.cons_append, List.nil_append, List.foldl_cons, List.foldl_nil, hundreds, tens,
      units]
    omega

theorem hexGroups_cons_cons (first second : Nat) (rest : List Nat) :
    hexGroups (first :: second :: rest) = appendHex first ++ ':' :: hexGroups (second :: rest) := by
  simp [hexGroups, List.intercalate]

theorem hexGroups_singleton (group : Nat) : hexGroups [group] = appendHex group := by
  simp [hexGroups, List.intercalate]

theorem hexGroups_head (group : Nat) (rest : List Nat) :
    ∃ character tail, hexGroups (group :: rest) = character :: tail ∧ character ≠ ':' := by
  obtain ⟨character, tail, shape⟩ := List.exists_cons_of_ne_nil (appendHex_ne_nil group)
  have notColon : character ≠ ':' := by
    intro colon
    have member : ':' ∈ appendHex group := by simp [shape, colon]
    exact mt isHex_of_mem_appendHex (by decide) member
  cases rest with
  | nil => exact ⟨character, tail, by rw [hexGroups_singleton, shape], notColon⟩
  | cons second rest =>
    exact ⟨character, tail ++ ':' :: hexGroups (second :: rest),
      by rw [hexGroups_cons_cons, shape, List.cons_append], notColon⟩

theorem takeWhile_appendHex (group : Nat) (rest : List Char)
    (stop : ∀ character ∈ rest.head?, (hexValue character).isSome = false) :
    (appendHex group ++ rest).takeWhile (fun character => (hexValue character).isSome) =
      appendHex group := by
  rw [List.takeWhile_append_of_pos fun character member => isHex_of_mem_appendHex member]
  cases rest with
  | nil => simp
  | cons character rest =>
    have stopped := stop character rfl
    simp [stopped]

def afterGroup (fuel : Nat) (rest : List Char) (groups : List Nat) (ellipsis : Option Nat)
    (group : Nat) : Option (List Nat × Option Nat × List Char) :=
  match rest with
  | [] => some (groups ++ [group], ellipsis, [])
  | ':' :: ':' :: after =>
    if ellipsis.isSome then none
    else match after with
      | [] => some (groups ++ [group], some (groups.length + 1), [])
      | _ => parseGroups fuel after (groups ++ [group]) (some (groups.length + 1))
  | ':' :: after => if after = [] then none
      else parseGroups fuel after (groups ++ [group]) ellipsis
  | _ => none

theorem parseGroups_appendHex (fuel : Nat) {group : Nat} (bounded : group < 65536)
    (rest : List Char) (stop : rest = [] ∨ rest.head? = some ':') (groups : List Nat)
    (ellipsis : Option Nat) :
    parseGroups (fuel + 1) (appendHex group ++ rest) groups ellipsis =
      afterGroup fuel rest groups ellipsis group := by
  have notHex : ∀ character ∈ rest.head?, (hexValue character).isSome = false := by
    intro character member
    rcases stop with rfl | colon
    · cases member
    · rw [colon] at member
      cases member
      decide
  have notDot : rest.head? ≠ some '.' := by
    rcases stop with rfl | colon
    · simp
    · rw [colon]
      decide
  have sized : ¬(appendHex group = [] ∨ 4 < (appendHex group).length) := by
    have := length_appendHex group
    simp only [appendHex_ne_nil, false_or]
    omega
  rw [parseGroups, takeWhile_appendHex group rest notHex, List.drop_left]
  simp only [if_neg sized, if_neg notDot]
  have value := hexNumber_appendHex bounded
  unfold hexNumber at value
  rw [value]
  rfl

theorem parseGroups_hexGroups (fuel : Nat) (parts : List Nat) (nonempty : parts ≠ [])
    (enough : parts.length ≤ fuel) (bounded : ∀ part ∈ parts, part < 65536) (groups : List Nat)
    (ellipsis : Option Nat) :
    parseGroups fuel (hexGroups parts) groups ellipsis = some (groups ++ parts, ellipsis, []) := by
  induction parts generalizing fuel groups with
  | nil => exact absurd rfl nonempty
  | cons part rest ih =>
    obtain ⟨fuel, rfl⟩ : ∃ smaller, fuel = smaller + 1 :=
      ⟨fuel - 1, by simp only [List.length_cons] at enough; omega⟩
    have partBounded := bounded part (by simp)
    cases rest with
    | nil =>
      rw [hexGroups_singleton]
      simpa [afterGroup] using
        parseGroups_appendHex fuel partBounded [] (.inl rfl) groups ellipsis
    | cons second rest =>
      have restRead := ih fuel (by simp) (by simpa using enough)
        (fun other member => bounded other (List.mem_cons_of_mem _ member)) (groups ++ [part])
      rw [hexGroups_cons_cons, parseGroups_appendHex fuel partBounded _ (.inr rfl)]
      obtain ⟨character, tail, shape, notColon⟩ := hexGroups_head second rest
      rw [shape] at restRead ⊢
      rw [afterGroup]
      · simpa using restRead
      · simpa using notColon

theorem parseGroups_compressed (fuel : Nat) (before after : List Nat) (nonempty : before ≠ [])
    (enough : before.length + after.length ≤ fuel) (beforeBounded : ∀ part ∈ before, part < 65536)
    (afterBounded : ∀ part ∈ after, part < 65536) (groups : List Nat) :
    parseGroups fuel (hexGroups before ++ ':' :: ':' :: hexGroups after) groups none =
      some (groups ++ before ++ after, some (groups.length + before.length), []) := by
  induction before generalizing fuel groups with
  | nil => exact absurd rfl nonempty
  | cons part rest ih =>
    obtain ⟨fuel, rfl⟩ : ∃ smaller, fuel = smaller + 1 :=
      ⟨fuel - 1, by simp only [List.length_cons] at enough; omega⟩
    have partBounded := beforeBounded part (by simp)
    cases rest with
    | nil =>
      rw [hexGroups_singleton, parseGroups_appendHex fuel partBounded _ (.inr rfl)]
      cases after with
      | nil => simp [afterGroup, hexGroups]
      | cons second others =>
        have othersRead := parseGroups_hexGroups fuel (second :: others) (by simp)
          (by simp only [List.length_cons, List.length_nil] at enough ⊢; omega)
          afterBounded (groups ++ [part]) (some (groups.length + 1))
        obtain ⟨character, tail, shape, -⟩ := hexGroups_head second others
        rw [shape] at othersRead ⊢
        simpa [afterGroup] using othersRead
    | cons second rest =>
      have restRead := ih fuel (by simp)
        (by simp only [List.length_cons] at enough ⊢; omega)
        (fun other member => beforeBounded other (List.mem_cons_of_mem _ member))
        (groups ++ [part])
      rw [hexGroups_cons_cons, List.append_assoc,
        parseGroups_appendHex fuel partBounded _ (.inr rfl)]
      obtain ⟨character, tail, shape, notColon⟩ := hexGroups_head second rest
      rw [shape] at restRead ⊢
      rw [List.cons_append, List.cons_append, afterGroup]
      · simp only [List.cons_append] at restRead
        simp [restRead]
        omega
      · simpa using notColon

theorem zeroRun_split (groups : List Nat) :
    groups = List.replicate (zeroRun groups) 0 ++ groups.drop (zeroRun groups) := by
  induction groups with
  | nil => rfl
  | cons group rest ih =>
    by_cases zero : group = 0
    · have longer : zeroRun (group :: rest) = zeroRun rest + 1 := by simp [zeroRun, zero]
      rw [longer, List.replicate_succ, List.cons_append, List.drop_succ_cons, ← ih, zero]
    · simp [zeroRun, zero]

theorem longestRun_measured (groups : List Nat) :
    (longestRun groups).2 = 0 ∨
      (longestRun groups).2 = zeroRun (groups.drop (longestRun groups).1) := by
  unfold longestRun
  refine List.foldlRecOn _ _ (motive := fun best : Nat × Nat =>
    best.2 = 0 ∨ best.2 = zeroRun (groups.drop best.1)) (Or.inl rfl) ?_
  intro best measured start _
  dsimp only
  split_ifs with longer
  · exact Or.inr rfl
  · exact measured

variable {groups : List Nat}

theorem longestRun_split {start run : Nat} (chosen : longestRun groups = (start, run))
    (compressed : run ≠ 0) :
    groups = groups.take start ++ (List.replicate run 0 ++ groups.drop (start + run)) := by
  have measured : run = zeroRun (groups.drop start) := by
    rcases longestRun_measured groups with none | stands
    · rw [chosen] at none
      exact absurd none compressed
    · rwa [chosen] at stands
  conv_lhs => rw [← List.take_append_drop start groups, zeroRun_split (groups.drop start)]
  rw [← measured, List.drop_drop]

theorem expandGroups_whole (eight : groups.length = 8) :
    expandGroups (groups, none, []) = some groups := by
  simp [expandGroups, eight]

theorem expandGroups_gap {before after : List Nat} {run : Nat} (gap : run ≠ 0)
    (eight : before.length + run + after.length = 8) :
    expandGroups (before ++ after, some before.length, []) =
      some (before ++ (List.replicate run 0 ++ after)) := by
  have short : (before ++ after).length < 8 := by
    rw [List.length_append]
    omega
  have missing : 8 - (before ++ after).length = run := by
    rw [List.length_append]
    omega
  simp [expandGroups, short, missing, -List.length_append]

theorem parseIPv6Groups_text6 (eight : groups.length = 8)
    (bounded : ∀ group ∈ groups, group < 65536) :
    parseIPv6Groups (text6 groups) = some groups := by
  obtain ⟨start, run, chosen⟩ : ∃ start run, longestRun groups = (start, run) := ⟨_, _, rfl⟩
  rw [text6, chosen]
  dsimp only
  split_ifs with whole
  · obtain ⟨first, rest, rfl⟩ : ∃ first rest, groups = first :: rest :=
      List.exists_cons_of_ne_nil (by rintro rfl; cases eight)
    have read := parseGroups_hexGroups 8 (first :: rest) (by simp) (by omega) bounded [] none
    obtain ⟨character, tail, shape, notColon⟩ := hexGroups_head first rest
    rw [shape] at read ⊢
    rw [parseIPv6Groups, read]
    · exact expandGroups_whole eight
    · simp [notColon]
    · simp [notColon]
  · have split := longestRun_split chosen whole
    have lengths := congrArg List.length split
    rw [List.length_append, List.length_append, List.length_replicate, eight] at lengths
    have beforeBounded : ∀ part ∈ groups.take start, part < 65536 := fun part member =>
      bounded part (List.mem_of_mem_take member)
    have afterBounded : ∀ part ∈ groups.drop (start + run), part < 65536 := fun part member =>
      bounded part (List.mem_of_mem_drop member)
    generalize groups.take start = before at *
    generalize groups.drop (start + run) = after at *
    subst split
    cases before with
    | nil =>
      have total : ([] : List Nat).length + run + after.length = 8 := by omega
      have filled := expandGroups_gap whole total
      cases after with
      | nil =>
        have eightZeros : run = 8 := by simpa using total
        subst eightZeros
        rfl
      | cons second rest =>
        have read := parseGroups_hexGroups 8 (second :: rest) (by simp) (by omega) afterBounded
          [] (some 0)
        obtain ⟨character, tail, shape, -⟩ := hexGroups_head second rest
        rw [shape] at read ⊢
        simp only [hexGroups, List.map_nil, List.intercalate_nil, List.nil_append,
          List.cons_append]
        rw [parseIPv6Groups, read]
        · exact filled
        · simp
    | cons first rest =>
      have read := parseGroups_compressed 8 (first :: rest) after (by simp) (by omega)
        beforeBounded afterBounded []
      obtain ⟨character, tail, shape, notColon⟩ := hexGroups_head first rest
      have total : (first :: rest).length + run + after.length = 8 := by omega
      have filled := expandGroups_gap whole total
      rw [shape] at read ⊢
      simp only [List.cons_append, List.nil_append, List.append_assoc] at read ⊢
      rw [parseIPv6Groups, read]
      · simpa using filled
      · simp [notColon]
      · simp [notColon]

theorem mem_intercalate {separator : Char} {parts : List (List Char)}
    (member : character ∈ [separator].intercalate parts) :
    character = separator ∨ ∃ part ∈ parts, character ∈ part := by
  induction parts with
  | nil => cases member
  | cons part rest ih =>
    cases rest with
    | nil => exact Or.inr ⟨part, by simp, by simpa [List.intercalate] using member⟩
    | cons second rest =>
      have cases : character ∈ part ∨ character = separator ∨
          character ∈ [separator].intercalate (second :: rest) := by
        simpa [List.intercalate] using member
      rcases cases with here | here | later
      · exact Or.inr ⟨part, by simp, here⟩
      · exact Or.inl here
      · rcases ih later with same | ⟨other, otherMember, inside⟩
        · exact Or.inl same
        · exact Or.inr ⟨other, List.mem_cons_of_mem _ otherMember, inside⟩

theorem mem_hexGroups (member : character ∈ hexGroups groups) :
    character = ':' ∨ (hexValue character).isSome = true := by
  rcases mem_intercalate member with colon | ⟨part, partMember, inside⟩
  · exact Or.inl colon
  · obtain ⟨group, -, rfl⟩ := List.mem_map.mp partMember
    exact Or.inr (isHex_of_mem_appendHex inside)

theorem mem_text6 (member : character ∈ text6 groups) :
    character = ':' ∨ (hexValue character).isSome = true := by
  rw [text6] at member
  dsimp only at member
  split_ifs at member
  · exact mem_hexGroups member
  · simp only [List.mem_append, List.mem_cons, List.not_mem_nil, or_false] at member
    rcases member with (before | colon | colon) | after
    · exact mem_hexGroups before
    · exact Or.inl colon
    · exact Or.inl colon
    · exact mem_hexGroups after

theorem colon_mem_text6 (several : 2 ≤ groups.length) :
    ':' ∈ text6 groups := by
  rw [text6]
  dsimp only
  split_ifs
  · match groups, several with
    | first :: second :: rest, _ => simp [hexGroups_cons_cons]
  · simp

variable {bytes : IP}

theorem mem_dotted (member : character ∈ dotted bytes) :
    character = '.' ∨ character.isDigit = true := by
  rcases mem_intercalate member with dot | ⟨part, partMember, inside⟩
  · exact Or.inl dot
  · obtain ⟨byte, -, rfl⟩ := List.mem_map.mp partMember
    rw [Nat.toList_repr] at inside
    exact Or.inr (Nat.isDigit_of_mem_toDigits (by decide) (by decide) inside)

theorem dot_mem_dotted (several : 2 ≤ bytes.length) : '.' ∈ dotted bytes := by
  match bytes, several with
  | first :: second :: rest, _ => simp [dotted_cons_cons]

variable {input : List Char}

theorem find?_eq_some_of_only {wanted : Char → Bool} {separator : Char} (member : separator ∈ input)
    (holds : wanted separator = true)
    (only : ∀ character ∈ input, wanted character = true → character = separator) :
    input.find? wanted = some separator := by
  cases found : input.find? wanted with
  | none => exact absurd holds (List.find?_eq_none.mp found separator member)
  | some character =>
    rw [only character (List.mem_of_find?_eq_some found) (List.find?_some found)]

theorem bigEndian_append (left right : IP) :
    bigEndian (left ++ right) = bigEndian left * 256 ^ right.length + bigEndian right := by
  induction right using List.reverseRecOn with
  | nil => simp [bigEndian]
  | append_singleton right byte ih =>
    have snoc : ∀ bytes : IP, bigEndian (bytes ++ [byte]) = bigEndian bytes * 256 + byte.toNat :=
      fun bytes => by simp [bigEndian]
    rw [← List.append_assoc, snoc, snoc, ih, List.length_append, List.length_singleton, pow_succ]
    ring

theorem bigEndian_lt (bytes : IP) : bigEndian bytes < 256 ^ bytes.length := by
  induction bytes using List.reverseRecOn with
  | nil => simp [bigEndian]
  | append_singleton bytes byte ih =>
    have small := byte.toNat_lt
    have last : bigEndian [byte] = byte.toNat := by simp [bigEndian]
    rw [bigEndian_append, List.length_append, List.length_singleton, pow_succ, last]
    omega

theorem bigEndian_byte (before : IP) (byte : UInt8) (after : IP) :
    UInt8.ofNat (bigEndian (before ++ byte :: after) / 256 ^ after.length) = byte := by
  have shifted : bigEndian (before ++ byte :: after) / 256 ^ after.length =
      bigEndian before * 256 + byte.toNat := by
    have single : bigEndian (before ++ [byte]) = bigEndian before * 256 + byte.toNat := by
      simp [bigEndian]
    have whole : before ++ byte :: after = (before ++ [byte]) ++ after := by simp
    rw [whole, bigEndian_append, single, Nat.mul_comm _ (256 ^ after.length),
      Nat.mul_add_div (by positivity), Nat.div_eq_of_lt (bigEndian_lt after), Nat.add_zero]
  rw [shifted]
  apply UInt8.toNat_inj.mp
  have small := byte.toNat_lt
  simp only [UInt8.toNat_ofNat']
  omega

theorem bytes_of_bigEndian {count : Nat} (length : bytes.length = count) :
    ((List.range count).map fun index =>
      UInt8.ofNat (bigEndian bytes / 256 ^ (count - 1 - index))) = bytes := by
  apply List.ext_getElem
  · simp [length]
  · intro index left right
    have split : bytes = bytes.take index ++ bytes[index] :: bytes.drop (index + 1) := by
      rw [← List.drop_eq_getElem_cons right, List.take_append_drop]
    have tail : (bytes.drop (index + 1)).length = count - 1 - index := by
      rw [List.length_drop, length]
      omega
    have byte := bigEndian_byte (bytes.take index) bytes[index] (bytes.drop (index + 1))
    rw [← split, tail] at byte
    simpa using byte

theorem groupsValue_groupsOf (bytes : IP) (start : Nat) (even : bytes.length % 2 = 0) :
    (groupsOf bytes).foldl (fun value group => value * 65536 + group) start =
      bytes.foldl (fun value byte => value * 256 + byte.toNat) start := by
  induction bytes using groupsOf.induct generalizing start with
  | case1 high low rest ih =>
    have evenRest : rest.length % 2 = 0 := by
      simp only [List.length_cons] at even
      omega
    have pair : start * 65536 + (high.toNat * 256 + low.toNat) =
        (start * 256 + high.toNat) * 256 + low.toNat := by ring
    rw [groupsOf, List.foldl_cons, ih _ evenRest, List.foldl_cons, List.foldl_cons, pair]
  | case2 bytes short =>
    match bytes, short with
    | [], _ => rfl
    | [byte], _ => simp at even
    | high :: low :: rest, short => exact absurd rfl (short high low rest)

theorem length_groupsOf (bytes : IP) : (groupsOf bytes).length = bytes.length / 2 := by
  induction bytes using groupsOf.induct with
  | case1 high low rest ih =>
    simp only [groupsOf, List.length_cons, ih]
    omega
  | case2 bytes short =>
    match bytes, short with
    | [], _ => rfl
    | [byte], _ => simp [groupsOf]
    | high :: low :: rest, short => exact absurd rfl (short high low rest)

theorem groupsOf_lt (bytes : IP) : ∀ group ∈ groupsOf bytes, group < 65536 := by
  induction bytes using groupsOf.induct with
  | case1 high low rest ih =>
    intro group member
    have highBound := high.toNat_lt
    have lowBound := low.toNat_lt
    rcases List.mem_cons.mp member with rfl | later
    · omega
    · exact ih group later
  | case2 bytes short =>
    intro group member
    match bytes, short with
    | [], _ => cases member
    | [byte], _ => cases member
    | high :: low :: rest, short => exact absurd rfl (short high low rest)

theorem putUint32_fieldsValue (four : bytes.length = 4) :
    putUint32 (BitVec.ofNat 32 (fieldsValue (bytes.map UInt8.toNat))).toNat = bytes := by
  have value : fieldsValue (bytes.map UInt8.toNat) = bigEndian bytes := by
    simp [fieldsValue, bigEndian, List.foldl_map]
  have bounded : bigEndian bytes < 2 ^ 32 := by
    have := bigEndian_lt bytes
    rw [four] at this
    exact this
  have read := bytes_of_bigEndian four
  rw [value, BitVec.toNat_ofNat, Nat.mod_eq_of_lt bounded]
  conv_rhs => rw [← read]
  simp [putUint32, List.range_succ]

theorem bigEndian_putUint32 {value : Nat} (bounded : value < 2 ^ 32) :
    bigEndian (putUint32 value) = value := by
  simp only [bigEndian, putUint32, List.foldl_cons, List.foldl_nil, UInt8.toNat_ofNat']
  omega

theorem toText_v4 (value : BitVec 32) :
    (Addr.v4 value).toText = dotted (putUint32 value.toNat) := rfl

theorem as16_fields (four : bytes.length = 4) :
    as16 (.v4 (BitVec.ofNat 32 (fieldsValue (bytes.map UInt8.toNat)))) = v4InV6Prefix ++ bytes := by
  rw [as16, putUint32_fieldsValue four]

theorem as16_groups (sixteen : bytes.length = 16) (zone : String) :
    as16 (.v6 (BitVec.ofNat 128 (groupsValue (groupsOf bytes))) zone) = bytes := by
  have value : groupsValue (groupsOf bytes) = bigEndian bytes :=
    groupsValue_groupsOf bytes 0 (by omega)
  have bounded : bigEndian bytes < 2 ^ 128 := by
    have := bigEndian_lt bytes
    rw [sixteen] at this
    exact this
  rw [as16, value, BitVec.toNat_ofNat, Nat.mod_eq_of_lt bounded]
  exact bytes_of_bigEndian sixteen

theorem parseAddr_dotted (four : bytes.length = 4) :
    parseAddr (String.ofList (dotted bytes)) =
      some (.v4 (BitVec.ofNat 32 (fieldsValue (bytes.map UInt8.toNat)))) := by
  have first : (dotted bytes).find? (fun character =>
      character = '.' ∨ character = ':' ∨ character = '%') = some '.' := by
    apply find?_eq_some_of_only (dot_mem_dotted (by omega)) (by decide)
    intro character member wanted
    rcases mem_dotted member with dot | digit
    · exact dot
    · have separators := of_decide_eq_true wanted
      rcases separators with rfl | rfl | rfl
      · rfl
      · revert digit
        decide
      · revert digit
        decide
  have fields := parseIPv4Fields_dotted bytes (by rintro rfl; cases four) [] (by simpa)
  rw [parseAddr, String.toList_ofList, first]
  simp only [parseIPv4, fields, List.nil_append, Option.map_some]

theorem takeWhile_ne {stop : Char} (absent : stop ∉ input) :
    input.takeWhile (· ≠ stop) = input := by
  rw [List.takeWhile_eq_self_iff]
  intro character member
  have differs : character ≠ stop := fun same => absent (same ▸ member)
  simpa using differs

theorem parseAddr_text6 (sixteen : bytes.length = 16) :
    parseAddr (String.ofList (text6 (groupsOf bytes))) =
      some (.v6 (BitVec.ofNat 128 (groupsValue (groupsOf bytes))) "") := by
  have eight : (groupsOf bytes).length = 8 := by rw [length_groupsOf, sixteen]
  have first : (text6 (groupsOf bytes)).find? (fun character =>
      character = '.' ∨ character = ':' ∨ character = '%') = some ':' := by
    apply find?_eq_some_of_only (colon_mem_text6 (by omega)) (by decide)
    intro character member wanted
    rcases mem_text6 member with colon | digit
    · exact colon
    · have separators := of_decide_eq_true wanted
      rcases separators with rfl | rfl | rfl
      · revert digit
        decide
      · rfl
      · revert digit
        decide
  have unzoned : '%' ∉ text6 (groupsOf bytes) := mt mem_text6 (by decide)
  have address := takeWhile_ne unzoned
  have groups := parseIPv6Groups_text6 eight (groupsOf_lt bytes)
  rw [parseAddr, String.toList_ofList, first]
  simp only [parseIPv6, address, unzoned, false_and, if_false, groups, List.drop_length,
    List.drop_nil, Option.map_some]

theorem text_of_to4 {ip : IP} (converted : to4 ip = some bytes) :
    text ip = String.ofList (dotted bytes) := by
  cases ip with
  | nil => cases converted
  | cons byte rest => simp only [text, converted]

def addrOf (ip : IP) : Addr :=
  match to4 ip with
  | some bytes => .v4 (BitVec.ofNat 32 (fieldsValue (bytes.map UInt8.toNat)))
  | none => .v6 (BitVec.ofNat 128 (groupsValue (groupsOf ip))) ""

theorem parseAddr_text {ip long : IP} (sized : to16 ip = some long) :
    parseAddr (text ip) = some (addrOf ip) := by
  have nonempty : ip ≠ [] := by
    rintro rfl
    cases sized
  obtain ⟨byte, rest, shape⟩ := List.exists_cons_of_ne_nil nonempty
  rw [text.eq_def, shape, addrOf]
  dsimp only
  rw [← shape]
  cases converted : to4 ip with
  | some bytes => exact parseAddr_dotted (to4_length converted)
  | none =>
    have sixteen : ip.length = 16 := by
      unfold to4 at converted
      unfold to16 at sized
      by_cases short : ip.length = 4
      · rw [if_pos short] at converted
        cases converted
      · rw [if_neg short] at sized
        by_contra other
        rw [if_neg other] at sized
        cases sized
    rw [if_pos sixteen]
    exact parseAddr_text6 sixteen

theorem parseIP_text {ip long : IP} (sized : to16 ip = some long) :
    parseIP (text ip) = some long := by
  have unzoned : (addrOf ip).zone = "" := by
    rw [addrOf]
    cases to4 ip <;> rfl
  have written : parseIP (text ip) = some (as16 (addrOf ip)) := by
    simp only [parseIP, parseAddr_text sized, Option.bind_eq_bind, Option.bind_some, unzoned,
      if_true]
  rw [written, addrOf]
  unfold to16 at sized
  split_ifs at sized with four sixteen
  · cases sized
    simp only [to4_of_length four, as16_fields four]
  · cases sized
    by_cases mapped : ip.take 12 = v4InV6Prefix
    · have short : (ip.drop 12).length = 4 := by simp [sixteen]
      have converted : to4 ip = some (ip.drop 12) := by simp [to4, sixteen, mapped]
      simp only [converted, as16_fields short]
      rw [← mapped, List.take_append_drop]
    · have unconverted : to4 ip = none := by simp [to4, sixteen, mapped]
      simp only [unconverted, as16_groups sixteen]

theorem bigEndian_range (value count : Nat) :
    bigEndian ((List.range count).map fun index =>
      UInt8.ofNat (value / 256 ^ (count - 1 - index))) = value % 256 ^ count := by
  induction count generalizing value with
  | zero => simp [bigEndian, Nat.mod_one]
  | succ count ih =>
    have shifted : (List.range count).map (fun index =>
        UInt8.ofNat (value / 256 ^ (count + 1 - 1 - index))) =
        (List.range count).map fun index =>
          UInt8.ofNat (value / 256 / 256 ^ (count - 1 - index)) := by
      refine List.map_congr_left fun index member => ?_
      have inside := List.mem_range.mp member
      rw [Nat.div_div_eq_div_mul, ← Nat.pow_succ']
      congr 3
      omega
    have last : count + 1 - 1 - count = 0 := by omega
    rw [List.range_succ, List.map_append, bigEndian_append, shifted, ih]
    simp only [List.map_cons, List.map_nil, last, Nat.pow_zero, Nat.div_one, List.length_cons,
      List.length_nil, Nat.zero_add, Nat.pow_one, bigEndian, List.foldl_cons, List.foldl_nil,
      Nat.zero_mul, UInt8.toNat_ofNat']
    have whole : 256 ^ (count + 1) = 256 * 256 ^ count := Nat.pow_succ'
    rw [whole, Nat.mod_mul]
    omega

theorem length_as16_v6 (value : BitVec 128) (zone : String) :
    (as16 (.v6 value zone)).length = 16 := by
  simp [as16]

theorem bigEndian_as16 (value : BitVec 128) (zone : String) :
    bigEndian (as16 (.v6 value zone)) = value.toNat := by
  rw [as16, bigEndian_range value.toNat 16]
  exact Nat.mod_eq_of_lt value.isLt

theorem as16_v6_injective {left right : BitVec 128} {leftZone rightZone : String}
    (same : as16 (.v6 left leftZone) = as16 (.v6 right rightZone)) : left = right := by
  have values := congrArg bigEndian same
  rw [bigEndian_as16, bigEndian_as16] at values
  exact BitVec.eq_of_toNat_eq values

theorem to4_as16_isSome (value : BitVec 128) (zone : String) :
    (to4 (as16 (.v6 value zone))).isSome = (Addr.v6 value zone).is4In6 := by
  have sixteen := length_as16_v6 value zone
  have number := bigEndian_as16 value zone
  generalize as16 (.v6 value zone) = bytes at sixteen number
  have head : (bytes.take 12).length = 12 := by simp [sixteen]
  have tail : (bytes.drop 12).length = 4 := by simp [sixteen]
  have split := bigEndian_append (bytes.take 12) (bytes.drop 12)
  have small := bigEndian_lt (bytes.drop 12)
  rw [List.take_append_drop, number, tail] at split
  rw [tail] at small
  have quotient : value.toNat / 2 ^ 32 = bigEndian (bytes.take 12) := by omega
  simp only [to4, Addr.is4In6]
  rw [if_neg (by omega), quotient]
  by_cases mapped : bytes.take 12 = v4InV6Prefix
  · simp [sixteen, mapped]
    decide
  · have different : bigEndian (bytes.take 12) ≠ 0xffff := by
      intro same
      refine mapped ?_
      rw [← bytes_of_bigEndian head, same]
      decide
    simp [mapped, different]

namespace Addr

def unzonedText (value : BitVec 128) : List Char :=
  if (v6 value "").is4In6 then "::ffff:".toList ++ dotted (putUint32 (value.toNat % 2 ^ 32))
  else text6 (groupsOf (as16 (v6 value "")))

def zoneText (zone : String) : List Char := if zone = "" then [] else '%' :: zone.toList

theorem toText_v6 (value : BitVec 128) (zone : String) :
    (v6 value zone).toText = unzonedText value ++ zoneText zone := rfl

theorem mem_unzonedText {value : BitVec 128} (member : character ∈ unzonedText value) :
    character = ':' ∨ character = '.' ∨ character.isDigit = true ∨
      (hexValue character).isSome = true := by
  unfold unzonedText at member
  split_ifs at member
  · rcases List.mem_append.mp member with lead | rest
    · have listed : character ∈ [':', ':', 'f', 'f', 'f', 'f', ':'] := lead
      have letters : character = ':' ∨ character = 'f' := by
        simp only [List.mem_cons, List.not_mem_nil, or_false] at listed
        tauto
      rcases letters with colon | rfl
      · exact Or.inl colon
      · exact Or.inr (Or.inr (Or.inr (by decide)))
    · rcases mem_dotted rest with dot | digit
      · exact Or.inr (Or.inl dot)
      · exact Or.inr (Or.inr (Or.inl digit))
  · rcases mem_text6 member with colon | digit
    · exact Or.inl colon
    · exact Or.inr (Or.inr (Or.inr digit))

theorem percent_notMem_unzonedText (value : BitVec 128) : '%' ∉ unzonedText value :=
  mt mem_unzonedText (by decide)

theorem bracket_notMem_unzonedText (value : BitVec 128) : ']' ∉ unzonedText value :=
  mt mem_unzonedText (by decide)

theorem colon_mem_unzonedText (value : BitVec 128) : ':' ∈ unzonedText value := by
  unfold unzonedText
  split_ifs
  · exact List.mem_append_left _ (by decide)
  · exact colon_mem_text6 (by rw [length_groupsOf, length_as16_v6]; decide)

theorem putUint32_injective {left right : Nat} (leftSmall : left < 2 ^ 32)
    (rightSmall : right < 2 ^ 32) (same : putUint32 left = putUint32 right) : left = right := by
  rw [← bigEndian_putUint32 leftSmall, same, bigEndian_putUint32 rightSmall]

theorem unzonedText_injective {left right : BitVec 128}
    (same : unzonedText left = unzonedText right) : left = right := by
  -- only the text of a mapped address has a dot
  have dots : ∀ value : BitVec 128, '.' ∈ unzonedText value ↔ (v6 value "").is4In6 = true := by
    intro value
    unfold unzonedText
    split_ifs with mapped
    · exact iff_of_true (List.mem_append_right _ (dot_mem_dotted (by simp [putUint32]))) mapped
    · exact iff_of_false (mt mem_text6 (by decide)) mapped
  have kinds : (v6 left "").is4In6 = (v6 right "").is4In6 := by
    rw [Bool.eq_iff_iff, ← dots, ← dots, same]
  unfold unzonedText at same
  cases mapped : (v6 right "").is4In6 with
  | true =>
    rw [mapped] at kinds
    rw [kinds, mapped, if_pos rfl, if_pos rfl] at same
    have low := putUint32_injective (Nat.mod_lt _ (by decide)) (Nat.mod_lt _ (by decide))
      (dotted_injective rfl rfl (List.append_cancel_left same))
    have leftHigh := of_decide_eq_true kinds
    have rightHigh := of_decide_eq_true mapped
    exact BitVec.eq_of_toNat_eq (by omega)
  | false =>
    rw [mapped] at kinds
    rw [kinds, mapped, if_neg (by decide), if_neg (by decide)] at same
    have parsed := parseAddr_text6 (length_as16_v6 left "")
    rw [same, parseAddr_text6 (length_as16_v6 right "")] at parsed
    have values := (Addr.v6.inj (Option.some.inj parsed)).1
    have bytes : as16 (v6 left "") = as16 (v6 right "") := by
      rw [← as16_groups (length_as16_v6 left "") "", ← values,
        as16_groups (length_as16_v6 right "") ""]
    exact as16_v6_injective bytes

theorem zoneText_injective {left right : String} (same : zoneText left = zoneText right) :
    left = right := by
  unfold zoneText at same
  split_ifs at same with leftEmpty rightEmpty rightEmpty
  · rw [leftEmpty, rightEmpty]
  · exact String.ext (List.cons.inj same).2

theorem takeWhile_toText_v6 (value : BitVec 128) (zone : String) :
    (v6 value zone).toText.takeWhile (· ≠ '%') = unzonedText value := by
  rw [toText_v6, List.takeWhile_append, takeWhile_ne (percent_notMem_unzonedText value), if_pos rfl]
  unfold zoneText
  split_ifs <;> simp

theorem toText_v6_injective {left right : BitVec 128} {leftZone rightZone : String}
    (same : (v6 left leftZone).toText = (v6 right rightZone).toText) :
    left = right ∧ leftZone = rightZone := by
  have unzoned := congrArg (List.takeWhile (· ≠ '%')) same
  rw [takeWhile_toText_v6, takeWhile_toText_v6] at unzoned
  obtain rfl := unzonedText_injective unzoned
  rw [toText_v6, toText_v6] at same
  exact ⟨rfl, zoneText_injective (List.append_cancel_left same)⟩

theorem colon_mem_toText_v6 (value : BitVec 128) (zone : String) :
    ':' ∈ (v6 value zone).toText := by
  rw [toText_v6]
  exact List.mem_append_left _ (colon_mem_unzonedText value)

theorem colon_notMem_toText_v4 (value : BitVec 32) : ':' ∉ (v4 value).toText :=
  mt mem_dotted (by decide)

theorem toText_v4_ne_invalid (value : BitVec 32) : (v4 value).toText ≠ invalid.toText := by
  intro same
  have letter : 'i' ∈ (v4 value).toText := by
    rw [same]
    decide
  exact mt mem_dotted (by decide) letter

theorem toText_injective : Function.Injective toText := by
  have invalidColon : ':' ∉ invalid.toText := by decide
  intro left right same
  cases left with
  | invalid =>
    cases right with
    | invalid => rfl
    | v4 value => exact absurd same.symm (toText_v4_ne_invalid value)
    | v6 value zone => exact absurd (same ▸ colon_mem_toText_v6 value zone) invalidColon
  | v4 value =>
    cases right with
    | invalid => exact absurd same (toText_v4_ne_invalid value)
    | v4 other =>
      have bytes := dotted_injective rfl rfl same
      rw [BitVec.eq_of_toNat_eq (putUint32_injective value.isLt other.isLt bytes)]
    | v6 other zone =>
      exact absurd (same ▸ colon_mem_toText_v6 other zone) (colon_notMem_toText_v4 value)
  | v6 value zone =>
    cases right with
    | invalid => exact absurd (same ▸ colon_mem_toText_v6 value zone) invalidColon
    | v4 other =>
      exact absurd (same ▸ colon_mem_toText_v6 value zone) (colon_notMem_toText_v4 other)
    | v6 other otherZone =>
      obtain ⟨rfl, rfl⟩ := toText_v6_injective same
      rfl

end Addr

theorem bracket_notMem_endpoint (value : BitVec 32) (port : Nat) :
    '[' ∉ (Addr.v4 value).toText ++ ':' :: (Nat.repr port).toList := by
  intro member
  rcases List.mem_append.mp member with address | rest
  · exact mt mem_dotted (by decide) address
  · rcases List.mem_cons.mp rest with colon | digit
    · cases colon
    · rw [Nat.toList_repr] at digit
      exact mt (Nat.isDigit_of_mem_toDigits (by decide) (by decide)) (by decide) digit

theorem AddrPort.toText_injective {left right : AddrPort} (leftValid : left.isValid = true)
    (rightValid : right.isValid = true) (leftUnzoned : left.addr.zone = "")
    (rightUnzoned : right.addr.zone = "") (same : left.toText = right.toText) : left = right := by
  have samePort : ∀ {port other : UInt16},
      (Nat.repr port.toNat).toList = (Nat.repr other.toNat).toList → port = other :=
    fun digits => UInt16.toNat_inj.mp (Nat.repr_inj.mp (String.toList_inj.mp digits))
  have closing : ∀ value : BitVec 128, ']' ∉ '[' :: (Addr.v6 value "").toText := by
    intro value member
    rw [Addr.toText_v6, Addr.zoneText, if_pos rfl, List.append_nil] at member
    rcases List.mem_cons.mp member with first | rest
    · cases first
    · exact Addr.bracket_notMem_unzonedText value rest
  obtain ⟨leftAddr, leftPort⟩ := left
  obtain ⟨rightAddr, rightPort⟩ := right
  have texts := congrArg String.toList same
  cases leftAddr with
  | invalid => cases leftValid
  | v4 leftValue =>
    cases rightAddr with
    | invalid => cases rightValid
    | v4 rightValue =>
      simp only [toText, String.toList_ofList] at texts
      obtain ⟨addresses, ports⟩ := append_separator_inj
        (Addr.colon_notMem_toText_v4 leftValue) (Addr.colon_notMem_toText_v4 rightValue) texts
      rw [Addr.toText_injective addresses, samePort ports]
    | v6 rightValue rightZone =>
      simp only [toText, String.toList_ofList] at texts
      refine absurd ?_ (bracket_notMem_endpoint leftValue leftPort.toNat)
      rw [texts]
      exact List.mem_cons_self
  | v6 leftValue leftZone =>
    cases rightAddr with
    | invalid => cases rightValid
    | v4 rightValue =>
      simp only [toText, String.toList_ofList] at texts
      refine absurd ?_ (bracket_notMem_endpoint rightValue rightPort.toNat)
      rw [← texts]
      exact List.mem_cons_self
    | v6 rightValue rightZone =>
      obtain rfl : leftZone = "" := leftUnzoned
      obtain rfl : rightZone = "" := rightUnzoned
      simp only [toText, String.toList_ofList] at texts
      obtain ⟨addresses, rest⟩ := append_separator_inj (closing leftValue)
        (closing rightValue) texts
      rw [Addr.toText_injective (List.cons.inj addresses).2,
        samePort (List.cons.inj rest).2]

theorem parseIPv4Fields_slash (slash : '/' ∈ input) (fields : List Nat) (value digits : Nat) :
    parseIPv4Fields input fields value digits = none := by
  induction input generalizing fields value digits with
  | nil => cases slash
  | cons character rest ih =>
    rw [parseIPv4Fields]
    rcases List.mem_cons.mp slash with rfl | later
    · have notDigit : decimalDigit '/' = none := by decide
      rw [notDigit]
      simp
    · cases decimalDigit character with
      | none =>
        dsimp only
        split_ifs
        · exact ih later _ _ _
        · rfl
      | some digit =>
        dsimp only
        split_ifs
        · rfl
        · rfl
        · exact ih later _ _ _

theorem parseGroups_slash (fuel : Nat) {rest : List Char} (slash : '/' ∈ input) {parts : List Nat}
    {ellipsis position : Option Nat}
    (read : parseGroups fuel input groups ellipsis = some (parts, position, rest)) :
    '/' ∈ rest := by
  induction fuel generalizing input groups ellipsis with
  | zero =>
    simp only [parseGroups, Option.some.injEq, Prod.mk.injEq] at read
    rw [← read.2.2]
    exact slash
  | succ fuel ih =>
    have beyond : '/' ∈ input.drop (input.takeWhile fun character =>
        (hexValue character).isSome).length := by
      have whole := List.prefix_iff_eq_append.mp
        (List.takeWhile_prefix (l := input) fun character => (hexValue character).isSome)
      rw [← whole, List.mem_append] at slash
      rcases slash with digit | later
      · have isHex := List.mem_takeWhile_imp digit
        exact absurd isHex (by decide)
      · exact later
    rw [parseGroups] at read
    dsimp only at read
    generalize input.takeWhile (fun character => (hexValue character).isSome) = digits at *
    by_cases unsized : digits = [] ∨ 4 < digits.length
    · rw [if_pos unsized] at read
      cases read
    rw [if_neg unsized] at read
    by_cases dot : (input.drop digits.length).head? = some '.'
    · rw [if_pos dot, parseIPv4Fields_slash slash] at read
      split_ifs at read
      cases read
    rw [if_neg dot] at read
    generalize input.drop digits.length = after at *
    split at read
    · cases beyond
    · have further := (List.mem_cons.mp beyond).resolve_left (by decide)
      have further := (List.mem_cons.mp further).resolve_left (by decide)
      by_cases second : ellipsis.isSome = true
      · rw [if_pos second] at read
        cases read
      · rw [if_neg second] at read
        split at read
        · cases further
        · exact ih further read
    · have further := (List.mem_cons.mp beyond).resolve_left (by decide)
      rw [if_neg (List.ne_nil_of_mem further)] at read
      exact ih further read
    · cases read

theorem parseIPv6Groups_slash (slash : '/' ∈ input) :
    parseIPv6Groups input = none := by
  have refused : ∀ fuel rest groups ellipsis, '/' ∈ rest →
      (parseGroups fuel rest groups ellipsis).bind expandGroups = none := by
    intro fuel rest groups ellipsis inside
    cases read : parseGroups fuel rest groups ellipsis with
    | none => rfl
    | some result =>
      obtain ⟨parts, position, left⟩ := result
      have unread : left ≠ [] := List.ne_nil_of_mem (parseGroups_slash fuel inside read)
      simp [expandGroups, unread]
  rw [parseIPv6Groups.eq_def]
  split
  · simp at slash
  · exact refused _ _ _ _ (by simpa using slash)
  · exact refused _ _ _ _ slash

theorem parseIP_slash {source : String} (slash : '/' ∈ source.toList) : parseIP source = none := by
  have addresses : ∀ addr, parseAddr source = some addr → addr.zone ≠ "" := by
    intro addr parsed
    rw [parseAddr] at parsed
    split at parsed
    · rw [parseIPv4, parseIPv4Fields_slash slash] at parsed
      cases parsed
    · rw [parseIPv6] at parsed
      split_ifs at parsed with unfinished
      -- the slash is in the address, which is then refused, or in the zone
      by_cases inside : '/' ∈ source.toList.takeWhile (· ≠ '%')
      · rw [parseIPv6Groups_slash inside] at parsed
        cases parsed
      · obtain ⟨groups, -, rfl⟩ := Option.map_eq_some_iff.mp parsed
        intro empty
        have noZone := String.ofList_eq_empty_iff.mp empty
        have unzoned : '%' ∉ source.toList := fun percent => unfinished ⟨percent, noZone⟩
        apply inside
        rw [takeWhile_ne unzoned]
        exact slash
    · cases parsed
  cases parsed : parseAddr source with
  | none => simp [parseIP, parsed]
  | some addr => simp [parseIP, parsed, addresses addr parsed]

end Ipv6Mesh.GoNet
