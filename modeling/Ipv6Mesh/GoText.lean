import Mathlib

/-!
# Text, time and fixed-width integers of the Go runtime

Strings are Lean strings; Go compares them bytewise, which on UTF-8 is the
code-point order of `String`. An instant is its distance in nanoseconds from
the zero `time.Time`, so `IsZero` is equality with zero and locations are not
represented.
-/

namespace Ipv6Mesh.GoText

def isSpace (character : Char) : Bool :=
  let code := character.toNat
  (0x09 ≤ code && code ≤ 0x0d) || code = 0x20 || code = 0x85 || code = 0xa0 || code = 0x1680 ||
    (0x2000 ≤ code && code ≤ 0x200a) || code = 0x2028 || code = 0x2029 || code = 0x202f ||
    code = 0x205f || code = 0x3000

def trimSpace (text : String) : String :=
  String.ofList ((text.toList.dropWhile isSpace).reverse.dropWhile isSpace).reverse

def blank (text : String) : Bool := trimSpace text = ""

theorem blank_empty : blank "" = true := by decide

theorem ne_empty_of_not_blank {text : String} (present : blank text = false) : text ≠ "" := by
  rintro rfl
  rw [blank_empty] at present
  cases present

theorem trimSpace_trimSpace (text : String) : trimSpace (trimSpace text) = trimSpace text := by
  have trimmed : ∀ characters : List Char, trimSpace (String.ofList characters) =
      String.ofList ((characters.dropWhile isSpace).rdropWhile isSpace) := by
    intro characters
    rw [trimSpace, String.toList_ofList]
    rfl
  have start : ∀ characters : List Char,
      ((characters.dropWhile isSpace).rdropWhile isSpace).dropWhile isSpace =
        (characters.dropWhile isSpace).rdropWhile isSpace := by
    intro characters
    have head := List.head?_dropWhile_not isSpace characters
    obtain ⟨rest, split⟩ := List.rdropWhile_prefix isSpace (characters.dropWhile isSpace)
    generalize (characters.dropWhile isSpace).rdropWhile isSpace = kept at split ⊢
    cases kept with
    | nil => rfl
    | cons first others =>
      rw [← split] at head
      exact List.dropWhile_cons_of_neg (Bool.eq_false_iff.mp head)
  conv_lhs => rw [← String.ofList_toList (s := text)]
  conv_rhs => rw [← String.ofList_toList (s := text)]
  rw [trimmed, trimmed, start, List.rdropWhile_idempotent]

theorem blank_trimSpace {text : String} (present : trimSpace text ≠ "") :
    blank (trimSpace text) = false := by
  rw [blank, trimSpace_trimSpace, decide_eq_false present]

theorem blank_of_mem {text : String} {character : Char} (listed : character ∈ text.toList)
    (visible : isSpace character = false) : blank text = false := by
  have kept : character ∈ text.toList.dropWhile isSpace := by
    rw [← List.takeWhile_append_dropWhile (p := isSpace) (l := text.toList)] at listed
    refine (List.mem_append.mp listed).resolve_left fun taken => ?_
    rw [List.mem_takeWhile_imp taken] at visible
    cases visible
  rw [blank, decide_eq_false_iff_not]
  intro empty
  have dropped : (text.toList.dropWhile isSpace).reverse.dropWhile isSpace = [] := by
    have characters := congrArg String.toList empty
    rw [trimSpace, String.toList_ofList] at characters
    exact List.reverse_eq_nil_iff.mp characters
  have space := List.dropWhile_eq_nil_iff.mp dropped character (List.mem_reverse.mpr kept)
  rw [visible] at space
  cases space

def bytesOf (text : String) : List UInt8 := text.toList.flatMap String.utf8EncodeChar

def splitAt (separator : Char) (text : String) : List String :=
  (text.toList.splitOn separator).map String.ofList

def fields (text : String) : List String :=
  ((text.toList.splitOnP isSpace).filter (· ≠ [])).map String.ofList

def containsAny (text characters : String) : Bool :=
  text.toList.any fun character => character ∈ characters.toList

abbrev Time := Int

abbrev Duration := Int

def Time.isZero (instant : Time) : Bool := instant = 0

def minute : Duration := 60 * 1000000000

def maxInt64 : Int := 2 ^ 63 - 1

def wrapInt64 (value : Int) : Int := (value + 2 ^ 63) % 2 ^ 64 - 2 ^ 63

theorem wrapInt64_of_range {value : Int} (low : -2 ^ 63 ≤ value) (high : value ≤ maxInt64) :
    wrapInt64 value = value := by
  unfold wrapInt64 maxInt64 at *
  omega

def sliceStable {Item : Type} (less : Item → Item → Bool) (items : List Item) : List Item :=
  items.insertionSort fun left right => less right left = false

section SliceStable

variable {Item : Type} (less : Item → Item → Bool)

theorem sliceStable_perm (items : List Item) : (sliceStable less items).Perm items :=
  List.perm_insertionSort _ items

theorem mem_sliceStable {items : List Item} {item : Item} :
    item ∈ sliceStable less items ↔ item ∈ items :=
  (sliceStable_perm less items).mem_iff

theorem sliceStable_sorted
    (total : ∀ left right, less right left = false ∨ less left right = false)
    (trans : ∀ first second third, less second first = false → less third second = false →
      less third first = false)
    (items : List Item) :
    (sliceStable less items).Pairwise fun left right => less right left = false := by
  have totality : Std.Total fun left right => less right left = false := ⟨total⟩
  have transitivity : IsTrans Item fun left right => less right left = false := ⟨trans⟩
  exact List.pairwise_insertionSort _ items

theorem sliceStable_sorted_by {Key : Type} [LinearOrder Key] (key : Item → Key)
    (lessKey : ∀ left right, less left right = true ↔ key left < key right) (items : List Item) :
    (sliceStable less items).Pairwise fun left right => less right left = false := by
  have notLess : ∀ left right, less left right = false ↔ key right ≤ key left := by
    intro left right
    rw [← Bool.not_eq_true, lessKey, not_lt]
  refine sliceStable_sorted less (fun left right => ?_) (fun first second third => ?_) items
  · rw [notLess, notLess]
    exact le_total _ _
  · rw [notLess, notLess, notLess]
    exact le_trans

theorem sliceStable_head_le {Key : Type} [LinearOrder Key] (key : Item → Key)
    (lessKey : ∀ left right, less left right = true ↔ key left < key right) {items rest : List Item}
    {first : Item} (sorted : sliceStable less items = first :: rest) :
    first ∈ items ∧ ∀ item ∈ items, key first ≤ key item := by
  have ordered := sliceStable_sorted_by less key lessKey items
  have members : ∀ item, item ∈ first :: rest ↔ item ∈ items := by
    intro item
    rw [← sorted]
    exact mem_sliceStable less
  rw [sorted, List.pairwise_cons] at ordered
  refine ⟨(members first).mp List.mem_cons_self, fun item listed => ?_⟩
  rcases List.mem_cons.mp ((members item).mpr listed) with rfl | later
  · exact le_refl _
  · rw [← not_lt, ← lessKey, ordered.1 item later]
    exact Bool.false_ne_true

theorem map_sliceStable {Image : Type} (image : Item → Image) (imageLess : Image → Image → Bool)
    (same : ∀ left right, imageLess (image left) (image right) = less left right)
    (items : List Item) :
    (sliceStable less items).map image = sliceStable imageLess (items.map image) := by
  apply List.map_insertionSort
  intro left _ right _
  rw [same]

theorem sliceStable_eq_of_perm {Key : Type} [LinearOrder Key] (key : Item → Key)
    (lessKey : ∀ left right, less left right = true ↔ key left < key right)
    {items others : List Item} (same : items.Perm others)
    (apart : ∀ left ∈ items, ∀ right ∈ items, key left = key right → left = right) :
    sliceStable less items = sliceStable less others := by
  refine List.Perm.eq_of_pairwise (fun left right leftListed rightListed below above => ?_)
    (sliceStable_sorted_by less key lessKey items) (sliceStable_sorted_by less key lessKey others)
    ((sliceStable_perm less items).trans (same.trans (sliceStable_perm less others).symm))
  rw [← Bool.not_eq_true, lessKey, not_lt] at below above
  exact apart left ((mem_sliceStable less).mp leftListed) right
    (same.mem_iff.mpr ((mem_sliceStable less).mp rightListed)) (le_antisymm below above)

theorem sliceStable_cons_of_first {first : Item} {rest : List Item}
    (unpreceded : ∀ item ∈ rest, less item first = false) :
    sliceStable less (first :: rest) = first :: sliceStable less rest := by
  have split : sliceStable less (first :: rest) =
      List.orderedInsert (fun left right => less right left = false) first
        (sliceStable less rest) := rfl
  rw [split]
  cases sorted : sliceStable less rest with
  | nil => rfl
  | cons next others =>
    have listed : next ∈ rest := by
      rw [← mem_sliceStable less, sorted]
      exact List.mem_cons_self
    exact List.orderedInsert_cons_of_le _ others (unpreceded next listed)

theorem sliceStable_of_sorted {items : List Item}
    (sorted : items.Pairwise fun left right => less right left = false) :
    sliceStable less items = items :=
  List.Pairwise.insertionSort_eq sorted

end SliceStable

/-- In a strictly ranked list, an item is among the first few when few go before it. -/
theorem mem_take_iff_few {Item : Type} {less : Item → Item → Bool} {items : List Item}
    {limit : Nat} {item : Item}
    (ranked : items.Pairwise fun left right => less left right = true)
    (asymmetric : ∀ left right, less left right = true → less right left = false) :
    item ∈ items.take limit ↔ item ∈ items ∧ ∀ ahead : List Item, ahead.Nodup →
      (∀ other ∈ ahead, other ∈ items ∧ less other item = true) → ahead.length < limit := by
  have whole := List.take_append_drop limit items
  constructor
  · intro taken
    refine ⟨List.mem_of_mem_take taken, fun ahead distinct before => ?_⟩
    obtain ⟨earlier, later, split⟩ := List.append_of_mem taken
    rw [split, List.append_assoc, List.cons_append] at whole
    rw [← whole, List.pairwise_append, List.pairwise_cons] at ranked
    have inside : ahead ⊆ earlier := by
      intro other listed
      obtain ⟨member, below⟩ := before other listed
      rw [← whole, List.mem_append, List.mem_cons] at member
      rcases member with here | rfl | there
      · exact here
      · cases below.symm.trans (asymmetric _ _ below)
      · cases below.symm.trans (asymmetric _ _ (ranked.2.1.1 other there))
    have few := (distinct.subperm inside).length_le
    have short := List.length_take_le limit items
    rw [split, List.length_append, List.length_cons] at short
    omega
  · rintro ⟨member, few⟩
    by_contra outside
    rw [← whole] at member ranked
    have dropped := (List.mem_append.mp member).resolve_left outside
    obtain ⟨first, -, across⟩ := List.pairwise_append.mp ranked
    have distinct : (items.take limit).Nodup := first.imp fun {left right} below same => by
      subst same
      cases below.symm.trans (asymmetric _ _ below)
    have full := few (items.take limit) distinct fun other listed =>
      ⟨List.mem_of_mem_take listed, across other listed item dropped⟩
    have long := List.length_pos_of_mem dropped
    rw [List.length_drop] at long
    rw [List.length_take] at full
    omega

theorem append_separator_inj {separator : Char} {left right after beyond : List Char}
    (leftFree : separator ∉ left) (rightFree : separator ∉ right)
    (same : left ++ separator :: after = right ++ separator :: beyond) :
    left = right ∧ after = beyond := by
  induction left generalizing right with
  | nil =>
    cases right with
    | nil => exact ⟨rfl, (List.cons.inj same).2⟩
    | cons character rest =>
      have first : separator = character := (List.cons.inj same).1
      exact absurd (first ▸ List.mem_cons_self) rightFree
  | cons character rest ih =>
    cases right with
    | nil =>
      have first : character = separator := (List.cons.inj same).1
      exact absurd (first ▸ List.mem_cons_self) leftFree
    | cons other others =>
      obtain ⟨rfl, tails⟩ := List.cons.inj same
      obtain ⟨rfl, rfl⟩ := ih (fun member => leftFree (List.mem_cons_of_mem _ member))
        (fun member => rightFree (List.mem_cons_of_mem _ member)) tails
      exact ⟨rfl, rfl⟩

end Ipv6Mesh.GoText
