import Ipv6Mesh.GoFlow
import Ipv6Mesh.GoMap
import Ipv6Mesh.GoText

/-!
# Options of the command line

`parseOptions` reads the arguments after a command as named options. The loop
takes two arguments at a time and the required names are checked after it. The
accepted lists are described by their pairs, without the loop: a list of pairs
with distinct names fixes the map, so the order of the pairs is not visible.
-/

namespace Ipv6Mesh.VpnctlOptions

open Std GoFlow GoText

structure OptionError where
  format : String
  name : String
  deriving DecidableEq, Repr

def dashed (argument : String) : Bool := "--".toList.isPrefixOf argument.toList

def readOptions (allowed : ExtTreeMap String Unit) (values : ExtTreeMap String String) :
    List String → Except OptionError (ExtTreeMap String String)
  | [] => .ok values
  | name :: following =>
    if !dashed name then .error ⟨"unexpected argument %q", name⟩
    else if name ∉ allowed then .error ⟨"unknown option %q", name⟩
    else if name ∈ values then
      .error ⟨"option %q was specified more than once", name⟩
    else match following with
      | [] => .error ⟨"option %q requires a value", name⟩
      | value :: rest =>
        if dashed value || blank value then .error ⟨"option %q requires a value", name⟩
        else readOptions allowed (values.insert name value) rest

/-- The second loop of `parseOptions`. A missing option reads as the empty string. -/
def checkRequired (allowed : ExtTreeMap String Unit) (values : ExtTreeMap String String) :
    List String → Except OptionError Unit
  | [] => .ok ()
  | name :: rest =>
    if name ∉ allowed then .error ⟨"option %q is not allowed", name⟩
    else if blank (values.getD name "") then .error ⟨"option %q is required", name⟩
    else checkRequired allowed values rest

/-- `visited` is the order in which the program ranges over `allowed`, which Go leaves open. -/
def parseOptions (visited args : List String) (allowed : ExtTreeMap String Unit)
    (required : List String) : Except OptionError (ExtTreeMap String String) := do
  let values ← readOptions allowed ∅ args
  checkRequired allowed values (if required = [] then visited else required)
  return values

def arguments (pairs : List (String × String)) : List String :=
  pairs.flatMap fun pair => [pair.1, pair.2]

def Valued (allowed : ExtTreeMap String Unit) (pair : String × String) : Prop :=
  pair.1 ∈ allowed ∧ dashed pair.2 = false ∧ blank pair.2 = false

/-- Each option is given once, is allowed and has a value, and no required one is missing. -/
structure Accepted (allowed : ExtTreeMap String Unit) (required : List String)
    (pairs : List (String × String)) : Prop where
  distinct : (pairs.map Prod.fst).Nodup
  valued : ∀ pair ∈ pairs, Valued allowed pair
  complete : ∀ name ∈ allowed, (required = [] ∨ name ∈ required) → name ∈ pairs.map Prod.fst

/-- The parsed values are the pairs that were given. -/
def Binds (values : ExtTreeMap String String) (pairs : List (String × String)) : Prop :=
  ∀ name value, values[name]? = some value ↔ (name, value) ∈ pairs

variable {allowed : ExtTreeMap String Unit} {required visited args : List String}
variable {pairs : List (String × String)} {values result : ExtTreeMap String String}

theorem Accepted.perm {permuted : List (String × String)}
    (accepted : Accepted allowed required pairs) (same : pairs.Perm permuted) :
    Accepted allowed required permuted where
  distinct := (same.map Prod.fst).nodup accepted.distinct
  valued pair listed := accepted.valued pair (same.mem_iff.mpr listed)
  complete name known needed :=
    (same.map Prod.fst).mem_iff.mp (accepted.complete name known needed)

theorem Binds.perm {permuted : List (String × String)} (binds : Binds values pairs)
    (same : pairs.Perm permuted) : Binds values permuted := fun name value =>
  (binds name value).trans same.mem_iff

theorem Binds.unique (left : Binds values pairs) (right : Binds result pairs) :
    values = result := by
  refine ExtTreeMap.ext_getElem? fun name => Option.ext fun value => ?_
  exact (left name value).trans (right name value).symm

theorem Binds.mem_names (binds : Binds values pairs) {name : String} :
    name ∈ pairs.map Prod.fst ↔ name ∈ values := by
  rw [ExtTreeMap.mem_iff_isSome_getElem?, Option.isSome_iff_exists]
  simp [binds name]

theorem Binds.insert {name value : String} (binds : Binds values pairs)
    (fresh : name ∉ pairs.map Prod.fst) :
    Binds (values.insert name value) ((name, value) :: pairs) := by
  intro other stored
  rw [GoMap.getElem?_insert, List.mem_cons, Prod.mk.injEq, ← binds other stored]
  split_ifs with same
  · subst same
    have unbound : ¬values[name]? = some stored := fun bound =>
      fresh (binds.mem_names.mpr (ExtTreeMap.mem_iff_isSome_getElem?.mpr (by simp [bound])))
    simp [unbound, eq_comm]
  · simp [Ne.symm same]

theorem exists_binds (distinct : (pairs.map Prod.fst).Nodup) : ∃ values, Binds values pairs := by
  induction pairs with
  | nil => exact ⟨∅, fun name value => by simp⟩
  | cons pair pairs ih =>
    obtain ⟨fresh, distinctRest⟩ := List.nodup_cons.mp distinct
    obtain ⟨values, binds⟩ := ih distinctRest
    exact ⟨values.insert pair.1 pair.2, binds.insert fresh⟩

theorem arguments_injective {other : List (String × String)}
    (same : arguments pairs = arguments other) : pairs = other := by
  induction pairs generalizing other with
  | nil =>
    cases other with
    | nil => rfl
    | cons => simp [arguments] at same
  | cons pair pairs ih =>
    cases other with
    | nil => simp [arguments] at same
    | cons first rest =>
      simp only [arguments, List.flatMap_cons, List.cons_append, List.nil_append,
        List.cons.injEq] at same
      obtain ⟨name, value, following⟩ := same
      rw [ih following, Prod.ext name value]

section Loop

variable {read : List (String × String)}

theorem readOptions_pairs (binds : Binds values read) (distinct : (read.map Prod.fst).Nodup)
    (accepted : readOptions allowed values args = .ok result) :
    ∃ pairs, args = arguments pairs ∧ ((pairs ++ read).map Prod.fst).Nodup ∧
      (∀ pair ∈ pairs, Valued allowed pair) ∧ Binds result (pairs ++ read) := by
  fun_induction readOptions allowed values args generalizing read with
  | case1 values =>
    cases accepted
    exact ⟨[], rfl, distinct, by simp, binds⟩
  | case7 values name named known unused value rest usable ih =>
    have fresh : name ∉ read.map Prod.fst := fun listed => unused (binds.mem_names.mp listed)
    have more : ((((name, value) :: read)).map Prod.fst).Nodup :=
      List.nodup_cons.mpr ⟨fresh, distinct⟩
    obtain ⟨pairs, spelled, together, valued, bound⟩ := ih (binds.insert fresh) more accepted
    have moved : (pairs ++ (name, value) :: read).Perm ((name, value) :: pairs ++ read) :=
      List.perm_middle
    refine ⟨(name, value) :: pairs, ?_, (moved.map Prod.fst).nodup together, ?_,
      bound.perm moved⟩
    · rw [spelled]
      rfl
    · simp only [Bool.not_eq_true, Bool.or_eq_false_iff] at usable
      exact List.forall_mem_cons.mpr ⟨⟨not_not.mp known, usable⟩, valued⟩
  | case2 | case3 | case4 | case5 | case6 => cases accepted

theorem readOptions_arguments (dashes : ∀ name ∈ allowed, dashed name = true)
    (binds : Binds values read) (distinct : ((pairs ++ read).map Prod.fst).Nodup)
    (valued : ∀ pair ∈ pairs, Valued allowed pair) :
    ∃ result, readOptions allowed values (arguments pairs) = .ok result ∧
      Binds result (pairs ++ read) := by
  induction pairs generalizing values read with
  | nil => exact ⟨values, rfl, binds⟩
  | cons pair pairs ih =>
    obtain ⟨⟨known, undashed, present⟩, valuedRest⟩ := List.forall_mem_cons.mp valued
    have moved : (pair :: pairs ++ read).Perm (pairs ++ pair :: read) := List.perm_middle.symm
    have together := (moved.map Prod.fst).nodup distinct
    have fresh : pair.1 ∉ read.map Prod.fst := by
      rw [List.map_append, List.map_cons] at together
      exact (List.nodup_cons.mp (List.nodup_append.mp together).2.1).1
    obtain ⟨result, accepted, bound⟩ := ih (binds.insert fresh) together valuedRest
    have unused : pair.1 ∉ values := fun read => fresh (binds.mem_names.mpr read)
    refine ⟨result, ?_, bound.perm moved.symm⟩
    change readOptions allowed values (pair.1 :: pair.2 :: arguments pairs) = _
    rw [readOptions]
    simpa [dashes pair.1 known, known, unused, undashed, present] using accepted

end Loop

theorem checkRequired_ok {names : List String} {checked : Unit} :
    checkRequired allowed values names = .ok checked ↔
      ∀ name ∈ names, name ∈ allowed ∧ blank (values.getD name "") = false := by
  induction names with
  | nil => simp [checkRequired]
  | cons name names ih =>
    rw [checkRequired, List.forall_mem_cons, ← ih]
    by_cases known : name ∈ allowed
    · cases blank (values.getD name "") <;> simp [known]
    · simp [known]

theorem Binds.present_iff (binds : Binds values pairs)
    (valued : ∀ pair ∈ pairs, Valued allowed pair) {name : String} :
    blank (values.getD name "") = false ↔ name ∈ pairs.map Prod.fst := by
  rw [binds.mem_names, ExtTreeMap.mem_iff_isSome_getElem?, ExtTreeMap.getD_eq_getD_getElem?]
  cases stored : values[name]? with
  | none => simp [blank_empty]
  | some value => simpa using (valued _ ((binds name value).mp stored)).2.2

theorem parseOptions_eq_ok (dashes : ∀ name ∈ allowed, dashed name = true)
    (subset : ∀ name ∈ required, name ∈ allowed) (visits : visited.Perm allowed.keys) :
    parseOptions visited args allowed required = .ok values ↔
      ∃ pairs, args = arguments pairs ∧ Accepted allowed required pairs ∧ Binds values pairs := by
  have unread : Binds ∅ [] := fun name value => by simp
  have names : ∀ name, name ∈ (if required = [] then visited else required) ↔
      name ∈ allowed ∧ (required = [] ∨ name ∈ required) := by
    intro name
    split_ifs with none
    · simp [none, visits.mem_iff]
    · simpa [none] using subset name
  simp only [parseOptions, bind_eq_ok, checkRequired_ok, names]
  constructor
  · rintro ⟨read, accepted, _, needed, returned⟩
    cases returned
    obtain ⟨pairs, spelled, distinct, valued, binds⟩ :=
      readOptions_pairs unread List.nodup_nil accepted
    rw [List.append_nil] at distinct binds
    refine ⟨pairs, spelled, ⟨distinct, valued, fun name known listed => ?_⟩, binds⟩
    exact (binds.present_iff valued).mp (needed name ⟨known, listed⟩).2
  · rintro ⟨pairs, rfl, accepted, binds⟩
    obtain ⟨result, read, bound⟩ := readOptions_arguments dashes unread
      (by simpa using accepted.distinct) accepted.valued
    rw [List.append_nil] at bound
    obtain rfl := bound.unique binds
    refine ⟨result, read, (), fun name needed => ⟨needed.1, ?_⟩, rfl⟩
    exact (binds.present_iff accepted.valued).mpr (accepted.complete name needed.1 needed.2)

/-- The parser accepts exactly the lists of distinct options with every required one among them. -/
theorem parseOptions_accepts_distinct_options (args required visited : List String)
    (allowed : ExtTreeMap String Unit) (dashes : ∀ name ∈ allowed, dashed name = true)
    (subset : ∀ name ∈ required, name ∈ allowed) (visits : visited.Perm allowed.keys) :
    ((∃ values, parseOptions visited args allowed required = .ok values) ↔
      ∃ pairs, args = arguments pairs ∧ Accepted allowed required pairs) ∧
    (∀ values pairs, parseOptions visited args allowed required = .ok values →
      args = arguments pairs → Binds values pairs) ∧
    ∀ values pairs permuted revisited,
      parseOptions visited args allowed required = .ok values → args = arguments pairs →
        pairs.Perm permuted → revisited.Perm allowed.keys →
          parseOptions revisited (arguments permuted) allowed required = .ok values := by
  refine ⟨⟨?_, ?_⟩, ?_, ?_⟩
  · intro parsed
    obtain ⟨values, parsed⟩ := parsed
    obtain ⟨pairs, spelled, accepted, -⟩ := (parseOptions_eq_ok dashes subset visits).mp parsed
    exact ⟨pairs, spelled, accepted⟩
  · rintro ⟨pairs, spelled, accepted⟩
    obtain ⟨values, binds⟩ := exists_binds accepted.distinct
    exact ⟨values, (parseOptions_eq_ok dashes subset visits).mpr ⟨pairs, spelled, accepted, binds⟩⟩
  · intro values pairs parsed spelled
    obtain ⟨read, again, -, binds⟩ := (parseOptions_eq_ok dashes subset visits).mp parsed
    rwa [arguments_injective (spelled.symm.trans again)]
  · intro values pairs permuted revisited parsed spelled same visits'
    obtain ⟨read, again, accepted, binds⟩ := (parseOptions_eq_ok dashes subset visits).mp parsed
    obtain rfl := arguments_injective (spelled.symm.trans again)
    exact (parseOptions_eq_ok dashes subset visits').mpr
      ⟨permuted, rfl, accepted.perm same, binds.perm same⟩

/-- The options of `vpnctl network create`, of which the identifier may be left out. -/
def networkOptions : ExtTreeMap String Unit :=
  ((∅ : ExtTreeMap String Unit).insert "--name" ()).insert "--pool" () |>.insert "--id" ()

theorem networkOptions_dashed (name : String) (listed : name ∈ networkOptions) :
    dashed name = true := by
  simp only [networkOptions, ExtTreeMap.mem_insert, Std.compare_eq_iff_eq,
    ExtTreeMap.not_mem_empty, or_false] at listed
  rcases listed with rfl | rfl | rfl <;> decide

theorem network_options_in_any_order :
    (∀ name ∈ networkOptions, dashed name = true) ∧
      ∃ values, parseOptions networkOptions.keys
          ["--pool", "10.42.0.0/24", "--name", "mesh"] networkOptions ["--name", "--pool"] =
            .ok values ∧
        parseOptions networkOptions.keys
          ["--name", "mesh", "--pool", "10.42.0.0/24"] networkOptions ["--name", "--pool"] =
            .ok values := by
  have subset : ∀ name ∈ ["--name", "--pool"], name ∈ networkOptions := by decide +kernel
  have settled := parseOptions_accepts_distinct_options
    ["--pool", "10.42.0.0/24", "--name", "mesh"] ["--name", "--pool"] networkOptions.keys
    networkOptions networkOptions_dashed subset (.refl _)
  have accepted : Accepted networkOptions ["--name", "--pool"]
      [("--pool", "10.42.0.0/24"), ("--name", "mesh")] := by
    refine ⟨by decide, ?_, ?_⟩
    · simp only [Valued]
      decide +kernel
    · intro name _ needed
      simpa [or_comm] using needed
  obtain ⟨values, parsed⟩ := settled.1.mpr ⟨_, rfl, accepted⟩
  exact ⟨networkOptions_dashed, values, parsed,
    settled.2.2 values _ [("--name", "mesh"), ("--pool", "10.42.0.0/24")] _ parsed rfl
      (.swap _ _ _) (.refl _)⟩

end Ipv6Mesh.VpnctlOptions
