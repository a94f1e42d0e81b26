import Ipv6Mesh.ControlRoom

/-!
# The room join limiter against its history

A run keeps the list of admissions beside the limiter. `Counts` ties the two
together at the time of the last call that named a host: the counters of the
current and of any later window are what the history says, every stored entry
is the last admission of its host, and it is at most two minutes old. Quotas
and the bound on memory are read off that relation.
-/

namespace Ipv6Mesh.RoomLimits

open Std (ExtTreeMap)
open GoText GoFlow ControlRoom

def windowOf (at_ : Time) : Time := truncate at_ roomJoinWindow

def hostOf (remoteAddr : String) : Option String :=
  (splitHost (trimSpace remoteAddr).toList).filter fun source => !blank source

structure Admission where
  host : String
  at_ : Time
  deriving DecidableEq

def inWindow (window : Time) (admitted : List Admission) : Nat :=
  admitted.countP fun admission => windowOf admission.at_ = window

def fromHost (host : String) (window : Time) (admitted : List Admission) : Nat :=
  admitted.countP fun admission => admission.host = host ∧ windowOf admission.at_ = window

structure Call where
  remoteAddr : String
  now : Time

structure Record where
  limiter : RoomJoinLimiter
  admitted : List Admission

def step (call : Call) (record : Record) : Record :=
  let answer := record.limiter.allow call.remoteAddr call.now
  match answer.1, hostOf call.remoteAddr with
  | true, some host => ⟨answer.2, ⟨host, call.now⟩ :: record.admitted⟩
  | _, _ => ⟨answer.2, record.admitted⟩

theorem windowOf_mono {earlier later : Int} (ordered : earlier ≤ later) :
    windowOf earlier ≤ windowOf later := by
  have floor : earlier - earlier % (60 * 1000000000) ≤ later - later % (60 * 1000000000) := by
    omega
  exact floor

theorem windowOf_lt {earlier later : Int} (old : roomLimiterEntryTTL < later - earlier) :
    windowOf earlier < windowOf later := by
  have apart : 2 * (60 * 1000000000) < later - earlier := old
  have floor : earlier - earlier % (60 * 1000000000) < later - later % (60 * 1000000000) := by
    omega
  exact floor

theorem windowOf_of_recent {earlier later : Int} (ordered : earlier ≤ later)
    (recent : later - earlier ≤ roomLimiterEntryTTL) :
    windowOf earlier = windowOf later ∨ windowOf earlier = windowOf later - minute ∨
      windowOf earlier = windowOf later - 2 * minute := by
  have close : later - earlier ≤ 2 * (60 * 1000000000) := recent
  have floor : earlier - earlier % (60 * 1000000000) = later - later % (60 * 1000000000) ∨
      earlier - earlier % (60 * 1000000000) =
        later - later % (60 * 1000000000) - 60 * 1000000000 ∨
      earlier - earlier % (60 * 1000000000) =
        later - later % (60 * 1000000000) - 2 * (60 * 1000000000) := by
    omega
  exact floor

theorem inWindow_cons (window : Time) (admission : Admission) (admitted : List Admission) :
    inWindow window (admission :: admitted) =
      inWindow window admitted + if windowOf admission.at_ = window then 1 else 0 := by
  simp [inWindow, List.countP_cons]

theorem fromHost_cons (host : String) (window : Time) (admission : Admission)
    (admitted : List Admission) :
    fromHost host window (admission :: admitted) = fromHost host window admitted +
      if admission.host = host ∧ windowOf admission.at_ = window then 1 else 0 := by
  simp [fromHost, List.countP_cons]

theorem inWindow_eq_zero {window : Time} {admitted : List Admission}
    (past : ∀ admission ∈ admitted, windowOf admission.at_ < window) :
    inWindow window admitted = 0 :=
  List.countP_eq_zero.mpr fun admission noted => by simp [(past admission noted).ne]

variable {remoteAddr host : String}

def globalUsed (limiter : RoomJoinLimiter) (window : Time) : Int :=
  if limiter.globalWindow = window then limiter.globalCount else 0

def hostUsed (limiter : RoomJoinLimiter) (host : String) (window : Time) : Int :=
  match limiter.sources[host]? with
  | some entry => if entry.window = window then entry.count else 0
  | none => 0

def register (limiter : RoomJoinLimiter) (host : String) (now : Time) : RoomJoinLimiter :=
  { limiter with
    globalCount := limiter.globalCount + 1
    sources := limiter.sources.insert host
      ⟨windowOf now, hostUsed limiter host (windowOf now) + 1, now⟩ }

theorem refresh_globalWindow (limiter : RoomJoinLimiter) (now : Time) :
    (limiter.refresh now).globalWindow = windowOf now := by
  unfold RoomJoinLimiter.refresh
  dsimp only
  split_ifs with other
  · rfl
  · exact not_not.mp other

theorem refresh_globalCount (limiter : RoomJoinLimiter) (now : Time) :
    (limiter.refresh now).globalCount = globalUsed limiter (windowOf now) := by
  unfold RoomJoinLimiter.refresh globalUsed windowOf
  dsimp only
  split_ifs <;> simp_all

theorem refresh_sources (limiter : RoomJoinLimiter) (now : Time) :
    (limiter.refresh now).sources =
      limiter.sources.filter fun _ entry => now - entry.lastSeen ≤ roomLimiterEntryTTL := by
  unfold RoomJoinLimiter.refresh
  dsimp only
  split_ifs <;> rfl

theorem refresh_limits (limiter : RoomJoinLimiter) (now : Time) :
    (limiter.refresh now).perIP = limiter.perIP ∧
      (limiter.refresh now).globalLimit = limiter.globalLimit := by
  unfold RoomJoinLimiter.refresh
  dsimp only
  split_ifs <;> exact ⟨rfl, rfl⟩

theorem allow_of_no_host {limiter : RoomJoinLimiter} {now : Time}
    (unnamed : hostOf remoteAddr = none) : limiter.allow remoteAddr now = (false, limiter) := by
  rw [hostOf] at unnamed
  rw [RoomJoinLimiter.allow]
  cases split : splitHost (trimSpace remoteAddr).toList with
  | none => rfl
  | some source =>
    have empty : blank source = true := by simpa [split] using unnamed
    exact if_pos empty

def entryIn (limiter : RoomJoinLimiter) (host : String) (window : Time) : RoomLimitEntry :=
  match limiter.sources[host]? with
  | some entry => if entry.window ≠ window then ⟨window, 0, 0⟩ else entry
  | none => ⟨window, 0, 0⟩

theorem entryIn_window (limiter : RoomJoinLimiter) (host : String) (window : Time) :
    (entryIn limiter host window).window = window := by
  rw [entryIn]
  cases limiter.sources[host]? with
  | none => rfl
  | some entry =>
    dsimp only
    split_ifs with other
    · rfl
    · exact not_not.mp other

theorem entryIn_count (limiter : RoomJoinLimiter) (host : String) (window : Time) :
    (entryIn limiter host window).count = hostUsed limiter host window := by
  rw [entryIn, hostUsed]
  cases limiter.sources[host]? with
  | none => rfl
  | some entry => by_cases other : entry.window = window <;> simp [other]

theorem allow_of_host {limiter : RoomJoinLimiter} {now : Time}
    (named : hostOf remoteAddr = some host) :
    limiter.allow remoteAddr now =
      if limiter.globalLimit ≤ (limiter.refresh now).globalCount ∨
          limiter.perIP ≤ hostUsed (limiter.refresh now) host (windowOf now) then
        (false, limiter.refresh now)
      else (true, register (limiter.refresh now) host now) := by
  obtain ⟨split, present⟩ : splitHost (trimSpace remoteAddr).toList = some host ∧
      blank host = false := by
    simpa [hostOf, Option.filter_eq_some_iff] using named
  have limits := refresh_limits limiter now
  have started : limiter.allow remoteAddr now =
      if (limiter.refresh now).globalLimit ≤ (limiter.refresh now).globalCount ∨
          (limiter.refresh now).perIP ≤
            (entryIn (limiter.refresh now) host (windowOf now)).count then
        (false, limiter.refresh now)
      else (true, { limiter.refresh now with
        globalCount := (limiter.refresh now).globalCount + 1
        sources := (limiter.refresh now).sources.insert host
          ⟨(entryIn (limiter.refresh now) host (windowOf now)).window,
            (entryIn (limiter.refresh now) host (windowOf now)).count + 1, now⟩ }) := by
    rw [RoomJoinLimiter.allow, split]
    exact if_neg (by simp [present])
  rw [started, limits.1, limits.2, entryIn_window, entryIn_count]
  rfl

section Relation

structure Counts (limiter : RoomJoinLimiter) (admitted : List Admission) (latest : Time) :
    Prop where
  past : ∀ admission ∈ admitted, admission.at_ ≤ latest
  overall : ∀ window, windowOf latest ≤ window →
    globalUsed limiter window = inWindow window admitted
  hosts : ∀ host window, windowOf latest ≤ window →
    hostUsed limiter host window = fromHost host window admitted
  entries : ∀ host entry, limiter.sources[host]? = some entry →
    ⟨host, entry.lastSeen⟩ ∈ admitted ∧ entry.window = windowOf entry.lastSeen ∧
      latest - entry.lastSeen ≤ roomLimiterEntryTTL

structure Quotas (limiter : RoomJoinLimiter) (admitted : List Admission) : Prop where
  overall : ∀ window, (inWindow window admitted : Int) ≤ limiter.globalLimit
  hosts : ∀ host window, (fromHost host window admitted : Int) ≤ limiter.perIP

variable {limiter : RoomJoinLimiter} {admitted : List Admission} {latest now : Int}

theorem getElem?_refresh {entry : RoomLimitEntry} :
    (limiter.refresh now).sources[host]? = some entry ↔
      limiter.sources[host]? = some entry ∧ now - entry.lastSeen ≤ roomLimiterEntryTTL := by
  rw [refresh_sources, ExtTreeMap.getElem?_filter]
  cases limiter.sources[host]? with
  | none => simp
  | some stored => simp +contextual [Option.filter_some, and_comm]

theorem hostUsed_refresh (counts : Counts limiter admitted latest) (host : String)
    {window : Time} (current : windowOf now ≤ window) :
    hostUsed (limiter.refresh now) host window = hostUsed limiter host window := by
  cases held : limiter.sources[host]? with
  | none =>
    have absent : (limiter.refresh now).sources[host]? = none :=
      Option.eq_none_iff_forall_ne_some.mpr fun entry stored => by
        rw [(getElem?_refresh.mp stored).1] at held
        cases held
    rw [hostUsed, hostUsed, absent, held]
  | some entry =>
    by_cases recent : now - entry.lastSeen ≤ roomLimiterEntryTTL
    · rw [hostUsed, hostUsed, getElem?_refresh.mpr ⟨held, recent⟩, held]
    · have absent : (limiter.refresh now).sources[host]? = none :=
        Option.eq_none_iff_forall_ne_some.mpr fun other stored => by
          obtain ⟨same, young⟩ := getElem?_refresh.mp stored
          rw [held] at same
          exact recent (Option.some.inj same ▸ young)
      obtain ⟨-, opened, -⟩ := counts.entries host entry held
      have closed : entry.window ≠ window :=
        opened ▸ ((windowOf_lt (not_le.mp recent)).trans_le current).ne
      rw [hostUsed, hostUsed, absent, held]
      exact (if_neg closed).symm

theorem counts_refresh (counts : Counts limiter admitted latest) (later : latest ≤ now) :
    Counts (limiter.refresh now) admitted now := by
  have onward := windowOf_mono later
  refine ⟨fun admission noted => (counts.past admission noted).trans later, ?_, ?_, ?_⟩
  · intro window current
    rw [globalUsed, refresh_globalWindow, refresh_globalCount]
    by_cases same : windowOf now = window
    · rw [if_pos same, counts.overall _ onward, same]
    · have ahead : windowOf now < window := lt_of_le_of_ne current same
      rw [if_neg same, inWindow_eq_zero fun admission noted =>
        ((windowOf_mono ((counts.past admission noted).trans later)).trans_lt ahead)]
      rfl
  · intro host window current
    rw [hostUsed_refresh counts host current]
    exact counts.hosts host window (onward.trans current)
  · intro host entry stored
    obtain ⟨held, recent⟩ := getElem?_refresh.mp stored
    obtain ⟨noted, opened, -⟩ := counts.entries host entry held
    exact ⟨noted, opened, recent⟩

theorem counts_register (counts : Counts limiter admitted now)
    (opened : limiter.globalWindow = windowOf now) (host : String) :
    Counts (register limiter host now) (⟨host, now⟩ :: admitted) now := by
  refine ⟨?_, fun window current => ?_, fun other window current => ?_,
    fun other entry stored => ?_⟩
  · exact List.forall_mem_cons.mpr ⟨le_refl now, counts.past⟩
  · have before := counts.overall window current
    rw [globalUsed, opened] at before
    rw [inWindow_cons, Nat.cast_add, ← before, globalUsed]
    change (if limiter.globalWindow = window then limiter.globalCount + 1 else 0) = _
    rw [opened]
    split_ifs <;> simp
  · have before := counts.hosts other window current
    rw [fromHost_cons, Nat.cast_add, ← before, hostUsed, register, GoMap.getElem?_insert]
    by_cases same : host = other
    · subst same
      rw [if_pos rfl]
      dsimp only
      by_cases here : windowOf now = window
      · simp [here]
      · -- a later window: neither the new entry nor the history reaches it
        have ahead : windowOf now < window := lt_of_le_of_ne current here
        have unused : hostUsed limiter host window = 0 := by
          rw [before]
          refine Int.natCast_eq_zero.mpr (List.countP_eq_zero.mpr fun admission noted => ?_)
          have behind := (windowOf_mono (counts.past admission noted)).trans_lt ahead
          simp [behind.ne]
        simp [here, unused]
    · rw [if_neg same, hostUsed]
      simp [same]
  · change (limiter.sources.insert host _)[other]? = some entry at stored
    rw [GoMap.getElem?_insert] at stored
    split_ifs at stored with same
    · obtain rfl := Option.some.inj stored
      subst same
      refine ⟨List.mem_cons_self, rfl, ?_⟩
      change now - now ≤ roomLimiterEntryTTL
      rw [sub_self]
      decide
    · obtain ⟨noted, entered, recent⟩ := counts.entries other entry stored
      exact ⟨List.mem_cons_of_mem _ noted, entered, recent⟩

theorem quotas_register (quotas : Quotas limiter admitted)
    (free : (inWindow (windowOf now) admitted : Int) < limiter.globalLimit)
    (under : (fromHost host (windowOf now) admitted : Int) < limiter.perIP) :
    Quotas (register limiter host now) (⟨host, now⟩ :: admitted) := by
  refine ⟨fun window => ?_, fun other window => ?_⟩
  · change _ ≤ limiter.globalLimit
    rw [inWindow_cons]
    split_ifs with here
    · subst here
      exact_mod_cast free
    · exact quotas.overall window
  · change _ ≤ limiter.perIP
    rw [fromHost_cons]
    split_ifs with here
    · obtain ⟨rfl, rfl⟩ := here
      exact_mod_cast under
    · exact quotas.hosts other window

theorem size_sources_le (counts : Counts limiter admitted latest)
    (quotas : Quotas limiter admitted) :
    (limiter.sources.size : Int) ≤ 3 * limiter.globalLimit := by
  let window := windowOf latest
  let recent := fun offset : Int =>
    (admitted.filter fun admission => windowOf admission.at_ = window - offset).map Admission.host
  have counted (offset : Int) : ((recent offset).length : Int) ≤ limiter.globalLimit := by
    rw [List.length_map, ← List.countP_eq_length_filter]
    exact quotas.overall (window - offset)
  have covered : limiter.sources.keys ⊆ recent 0 ++ (recent minute ++ recent (2 * minute)) := by
    intro host listed
    obtain ⟨entry, stored⟩ := Option.isSome_iff_exists.mp
      (ExtTreeMap.mem_iff_isSome_getElem?.mp (ExtTreeMap.mem_keys.mp listed))
    obtain ⟨noted, -, young⟩ := counts.entries host entry stored
    have seen (offset : Int) (same : windowOf entry.lastSeen = window - offset) :
        host ∈ recent offset :=
      List.mem_map.mpr ⟨_, List.mem_filter.mpr ⟨noted, decide_eq_true same⟩, rfl⟩
    rw [List.mem_append, List.mem_append]
    rcases windowOf_of_recent (counts.past _ noted) young with same | same | same
    · exact .inl (seen 0 (same.trans (sub_zero window).symm))
    · exact .inr (.inl (seen minute same))
    · exact .inr (.inr (seen (2 * minute) same))
  have bounded := (ExtTreeMap.nodup_keys.subperm covered).length_le
  rw [ExtTreeMap.length_keys, List.length_append, List.length_append] at bounded
  have first := counted 0
  have second := counted minute
  have third := counted (2 * minute)
  omega

end Relation

section Runs

structure Sound (perIP globalLimit : Int) (record : Record) (latest : Time) : Prop where
  counts : Counts record.limiter record.admitted latest
  quotas : Quotas record.limiter record.admitted
  perIP : record.limiter.perIP = perIP
  globalLimit : record.limiter.globalLimit = globalLimit

variable {perIP globalLimit : Int}

theorem sound_new (positive : 1 ≤ perIP) (room : 1 ≤ globalLimit) (latest : Time) :
    Sound perIP globalLimit ⟨newRoomJoinLimiter perIP globalLimit, []⟩ latest := by
  have hosts : (newRoomJoinLimiter perIP globalLimit).perIP = perIP := if_neg (by omega)
  have overall : (newRoomJoinLimiter perIP globalLimit).globalLimit = globalLimit :=
    if_neg (by omega)
  refine ⟨⟨by simp, fun window _ => ite_self _, fun host window _ => ?_,
    fun host entry stored => ?_⟩,
    ⟨fun window => ?_, fun host window => ?_⟩, hosts, overall⟩
  · simp [hostUsed, newRoomJoinLimiter, fromHost]
  · simp [newRoomJoinLimiter] at stored
  · rw [overall]
    exact (Int.natCast_nonneg 0).trans (by omega)
  · rw [hosts]
    exact (Int.natCast_nonneg 0).trans (by omega)

variable {record : Record} {latest : Int}

theorem allow_iff (sound : Sound perIP globalLimit record latest) {now : Int}
    (named : hostOf remoteAddr = some host) (later : latest ≤ now) :
    (record.limiter.allow remoteAddr now).1 = true ↔
      (fromHost host (windowOf now) record.admitted : Int) < perIP ∧
        (inWindow (windowOf now) record.admitted : Int) < globalLimit := by
  have counts := counts_refresh sound.counts later
  have overall := counts.overall (windowOf now) (le_refl _)
  rw [globalUsed, if_pos (refresh_globalWindow record.limiter now)] at overall
  rw [allow_of_host named, overall, counts.hosts host (windowOf now) (le_refl _), sound.perIP,
    sound.globalLimit]
  split_ifs with used
  · simp only [false_iff, not_and_or, not_lt]
    exact used.symm
  · simp only [true_iff]
    rw [not_or, not_le, not_le] at used
    exact used.symm

theorem sound_step (sound : Sound perIP globalLimit record latest) {call : Call}
    (later : latest ≤ call.now) :
    Sound perIP globalLimit (step call record) latest ∨
      Sound perIP globalLimit (step call record) call.now := by
  cases named : hostOf call.remoteAddr with
  | none =>
    left
    rw [step, allow_of_no_host named]
    exact sound
  | some host =>
    right
    have limits := refresh_limits record.limiter call.now
    have counts := counts_refresh sound.counts later
    have quotas : Quotas (record.limiter.refresh call.now) record.admitted :=
      ⟨fun window => limits.2 ▸ sound.quotas.overall window,
        fun host window => limits.1 ▸ sound.quotas.hosts host window⟩
    have answered := allow_iff sound named later
    rw [step, named]
    rw [allow_of_host named] at answered ⊢
    split_ifs at answered ⊢ with used
    · exact ⟨counts, quotas, limits.1.trans sound.perIP, limits.2.trans sound.globalLimit⟩
    · obtain ⟨under, free⟩ := answered.mp rfl
      refine ⟨counts_register counts (refresh_globalWindow _ _) host, quotas_register quotas ?_ ?_,
        limits.1.trans sound.perIP, limits.2.trans sound.globalLimit⟩
      · rw [limits.2, sound.globalLimit]
        exact free
      · rw [limits.1, sound.perIP]
        exact under

theorem sound_run {calls : List Call} (sound : Sound perIP globalLimit record latest)
    (ordered : calls.Pairwise fun earlier later => earlier.now ≤ later.now)
    (after : ∀ call ∈ calls, latest ≤ call.now) :
    ∃ reached : Int, Sound perIP globalLimit (run step calls record) reached ∧
      (reached = latest ∨ ∃ call ∈ calls, reached = call.now) := by
  induction calls generalizing record latest with
  | nil => exact ⟨latest, sound, .inl rfl⟩
  | cons call calls ih =>
    obtain ⟨first, rest⟩ := List.pairwise_cons.mp ordered
    obtain ⟨now, others⟩ := List.forall_mem_cons.mp after
    rw [run_cons]
    rcases sound_step sound now with kept | moved
    · obtain ⟨reached, holds, same | ⟨other, listed, same⟩⟩ := ih kept rest others
      · exact ⟨reached, holds, .inl same⟩
      · exact ⟨reached, holds, .inr ⟨other, List.mem_cons_of_mem _ listed, same⟩⟩
    · obtain ⟨reached, holds, same | ⟨other, listed, same⟩⟩ := ih moved rest first
      · exact ⟨reached, holds, .inr ⟨call, List.mem_cons_self, same⟩⟩
      · exact ⟨reached, holds, .inr ⟨other, List.mem_cons_of_mem _ listed, same⟩⟩

/-- Over any calls with a clock that does not go back: the next call that names
a host is admitted exactly when its host and the limiter have room in the
minute, no minute exceeds a limit, and the limiter stores at most three times
its global limit. -/
theorem limiter_enforces_quotas (perIP globalLimit : Int) (positive : 1 ≤ perIP)
    (room : 1 ≤ globalLimit) (calls : List Call)
    (ordered : calls.Pairwise fun earlier later => earlier.now ≤ later.now) :
    let reached := run step calls ⟨newRoomJoinLimiter perIP globalLimit, []⟩
    (∀ remoteAddr host now, hostOf remoteAddr = some host → (∀ call ∈ calls, call.now ≤ now) →
      ((reached.limiter.allow remoteAddr now).1 = true ↔
        (fromHost host (windowOf now) reached.admitted : Int) < perIP ∧
          (inWindow (windowOf now) reached.admitted : Int) < globalLimit)) ∧
      (∀ host window, (fromHost host window reached.admitted : Int) ≤ perIP) ∧
      (∀ window, (inWindow window reached.admitted : Int) ≤ globalLimit) ∧
      (reached.limiter.sources.size : Int) ≤ 3 * globalLimit := by
  intro reached
  -- the empty history is in step with any start of the clock
  have begin_ (latest : Int) (after : ∀ call ∈ calls, latest ≤ call.now) :=
    sound_run (sound_new positive room latest) ordered after
  obtain ⟨earliest, before⟩ : ∃ earliest : Int, ∀ call ∈ calls, earliest ≤ call.now := by
    cases calls with
    | nil => exact ⟨0, by simp⟩
    | cons call calls =>
        exact ⟨call.now, List.forall_mem_cons.mpr ⟨le_refl _, (List.pairwise_cons.mp ordered).1⟩⟩
  obtain ⟨latest, sound, -⟩ := begin_ earliest before
  refine ⟨fun remoteAddr host now named last => ?_, fun host window => ?_, fun window => ?_, ?_⟩
  · obtain ⟨seen, held, origin⟩ := begin_ (min earliest now) fun call listed =>
      (min_le_left _ _).trans (before call listed)
    refine allow_iff held named ?_
    rcases origin with rfl | ⟨call, listed, rfl⟩
    · exact min_le_right _ _
    · exact last call listed
  · exact sound.perIP ▸ sound.quotas.hosts host window
  · exact sound.globalLimit ▸ sound.quotas.overall window
  · exact sound.globalLimit ▸ size_sources_le sound.counts sound.quotas

def twoCalls : List Call := [⟨"192.0.2.1:80", 5⟩, ⟨"192.0.2.2:80", 61000000000⟩]

theorem two_calls_within_quotas :
    (run step twoCalls ⟨newRoomJoinLimiter 1 1, []⟩).admitted.length = 2 ∧
      ((run step twoCalls ⟨newRoomJoinLimiter 1 1, []⟩).limiter.sources.size : Int) ≤ 3 * 1 := by
  refine ⟨by decide +kernel, ?_⟩
  exact (limiter_enforces_quotas 1 1 (le_refl 1) (le_refl 1) twoCalls
    (by simp [twoCalls])).2.2.2

end Runs

end Ipv6Mesh.RoomLimits
