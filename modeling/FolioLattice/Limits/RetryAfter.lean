/-
How long a refused call has to wait: the seconds that the two rate limiters return, and
when the same call is allowed from then on, if no other is made.
-/

import Mathlib.Data.Rat.Floor
import Mathlib.Tactic.Linarith
import FolioLattice.Limits.Charges

namespace FolioLattice.Limits

open FolioLattice.Data FolioLattice.Relational

instance exactElapsed : ElapsedTime ℚ where
  ceil seconds := ⌈seconds⌉
  sub_mono c order := sub_le_sub_right order c
  sub_anti c order := sub_le_sub_left order c
  sub_self a := sub_self a

namespace RateLimits

/-! ### Buckets that are refused -/

section Blocked

variable {τ : Type} [LinearOrder τ] [Zero τ] (limits : RateLimits τ)

/-- A bucket's window is full, or it has none and its dimension has no key left. -/
def blocked (windows : Windows τ) (bucket : Bucket) : Bool :=
  match getEntry bucket windows with
  | some window => decide (limits.limitOf bucket.1 ≤ window.count)
  | none => decide (limits.maxKeys ≤ countOf bucket.1 windows)

variable {limits} {windows : Windows τ} {bucket : Bucket} {window : Window τ}

theorem blocked_window (found : getEntry bucket windows = some window) :
    limits.blocked windows bucket = decide (limits.limitOf bucket.1 ≤ window.count) := by
  unfold blocked
  rw [found]

theorem blocked_absent (absent : getEntry bucket windows = none) :
    limits.blocked windows bucket = decide (limits.maxKeys ≤ countOf bucket.1 windows) := by
  unfold blocked
  rw [absent]

end Blocked

section Freed

variable {τ : Type} [LinearOrder τ] [Sub τ] [Zero τ] (limits : RateLimits τ)

/-- The window that fills a bucket has expired; for a bucket without one, some window of its
dimension has. -/
def Freed (windows : Windows τ) (bucket : Bucket) (later : τ) : Prop :=
  match getEntry bucket windows with
  | some window => limits.unexpired window.startedAt later = false
  | none => ∃ entry ∈ windows, entry.1.1 = bucket.1 ∧
      limits.unexpired entry.2.startedAt later = false

variable {limits} {windows : Windows τ} {bucket : Bucket} {window : Window τ} (later : τ)

theorem freed_window (found : getEntry bucket windows = some window) :
    limits.Freed windows bucket later ↔ limits.unexpired window.startedAt later = false := by
  unfold Freed
  rw [found]

theorem freed_absent (absent : getEntry bucket windows = none) :
    limits.Freed windows bucket later ↔ ∃ entry ∈ windows, entry.1.1 = bucket.1 ∧
      limits.unexpired entry.2.startedAt later = false := by
  unfold Freed
  rw [absent]

theorem countOf_sweep_le (name : String) :
    countOf name (limits.sweep later windows) ≤ countOf name windows :=
  (List.Sublist.filter _ List.filter_sublist).length_le

theorem countOf_sweep (name : String) :
    countOf name (limits.sweep later windows) =
      ((windows.filter (fun entry => entry.1.1 = name)).filter (limits.live later)).length := by
  unfold countOf sweep
  rw [List.filter_comm]

theorem countOf_sweep_lt {later : τ} {entry : Bucket × Window τ} (member : entry ∈ windows)
    (expired : limits.unexpired entry.2.startedAt later = false) :
    countOf entry.1.1 (limits.sweep later windows) < countOf entry.1.1 windows := by
  rw [countOf_sweep]
  refine List.length_filter_lt_length_iff_exists.mpr ⟨entry, ?_, ?_⟩
  · exact List.mem_filter.mpr ⟨member, decide_eq_true rfl⟩
  · intro live
    exact Bool.false_ne_true (expired.symm.trans live)

theorem countOf_sweep_eq {later : τ} {name : String} (kept : ∀ entry ∈ windows,
      entry.1.1 = name → limits.unexpired entry.2.startedAt later = true) :
    countOf name (limits.sweep later windows) = countOf name windows := by
  rw [countOf_sweep, List.filter_eq_self.mpr]
  · rfl
  · intro entry member
    have inside := List.mem_filter.mp member
    exact kept entry inside.1 (of_decide_eq_true inside.2)

end Freed

section Answers

variable {τ : Type} [LinearOrder τ] [Sub τ] [Zero τ] [ElapsedTime τ] (limits : RateLimits τ)

/-- The seconds that a blocked bucket is refused with. -/
def wait (windows : Windows τ) (now : τ) (bucket : Bucket) : Int :=
  match getEntry bucket windows with
  | some window => retryAfter (limits.windowSeconds - (now - window.startedAt))
  | none => retryAfter limits.windowSeconds

variable {limits} {windows : Windows τ}

/-- The first candidate that is blocked decides. -/
theorem refusal_eq (now : τ) (buckets : List Bucket) :
    limits.refusal windows now buckets =
      (buckets.find? (limits.blocked windows)).map (limits.wait windows now) := by
  induction buckets with
  | nil => rfl
  | cons bucket rest ih =>
      rw [refusal, List.find?_cons]
      cases found : getEntry bucket windows with
      | none =>
          have seconds : limits.wait windows now bucket = retryAfter limits.windowSeconds := by
            unfold wait
            rw [found]
          rw [blocked_absent found]
          by_cases full : limits.maxKeys ≤ countOf bucket.1 windows
          · rw [decide_eq_true full, Option.map_some, seconds]
            exact if_pos full
          · rw [decide_eq_false full, ← ih]
            exact if_neg full
      | some window =>
          have seconds : limits.wait windows now bucket =
              retryAfter (limits.windowSeconds - (now - window.startedAt)) := by
            unfold wait
            rw [found]
          rw [blocked_window found]
          by_cases full : limits.limitOf bucket.1 ≤ window.count
          · rw [decide_eq_true full, Option.map_some, seconds]
            exact if_pos full
          · rw [decide_eq_false full, ← ih]
            exact if_neg full

/-- What a call with a usable dimension is answered. -/
theorem allow_answer {now : τ} {dimensions : List Bucket}
    (usable : limits.candidates dimensions ≠ []) :
    (limits.allow windows now dimensions).2 =
      ((limits.candidates dimensions).find? (limits.blocked (limits.sweep now windows))).map
        (limits.wait (limits.sweep now windows) now) := by
  have some_left : (limits.candidates dimensions).isEmpty = false :=
    List.isEmpty_eq_false_iff.mpr usable
  rw [← refusal_eq]
  unfold allow
  dsimp only
  rw [some_left]
  split
  · rename_i impossible
    cases impossible
  · split
    · rename_i refused
      exact refused.symm
    · rename_i granted
      exact granted.symm

theorem allow_refused {now : τ} {dimensions : List Bucket}
    (usable : limits.candidates dimensions ≠ [])
    (refused : (limits.allow windows now dimensions).2 ≠ none) :
    (limits.allow windows now dimensions).1 = limits.sweep now windows := by
  have some_left : (limits.candidates dimensions).isEmpty = false :=
    List.isEmpty_eq_false_iff.mpr usable
  unfold allow at refused ⊢
  dsimp only at refused ⊢
  rw [some_left] at refused ⊢
  split at refused
  · rename_i impossible
    cases impossible
  · split at refused
    · rfl
    · exact absurd rfl refused

/-- A call is allowed when none of its candidates is blocked. -/
theorem allow_granted {now : τ} {dimensions : List Bucket}
    (usable : limits.candidates dimensions ≠ []) :
    (limits.allow windows now dimensions).2 = none ↔
      ∀ bucket ∈ limits.candidates dimensions,
        ¬limits.blocked (limits.sweep now windows) bucket = true := by
  rw [allow_answer usable, Option.map_eq_none_iff, List.find?_eq_none]

/-! ### What a later reading frees -/

omit [ElapsedTime τ] in
/-- A bucket is blocked at a later reading if it was blocked and has not been freed. -/
theorem Bounded.blocked_later (bounded : limits.Bounded windows) (later : τ) (bucket : Bucket) :
    limits.blocked (limits.sweep later windows) bucket = true ↔
      limits.blocked windows bucket = true ∧ ¬limits.Freed windows bucket later := by
  have swept : getEntry bucket (limits.sweep later windows) =
      (getEntry bucket windows).filter (fun window => limits.unexpired window.startedAt later) :=
    liveWindow_entry bounded.distinct later bucket
  have room := bounded.keys bucket.1
  cases found : getEntry bucket windows with
  | some window =>
      rw [blocked_window found, freed_window later found]
      rw [found, Option.filter_some] at swept
      by_cases alive : limits.unexpired window.startedAt later = true
      · rw [if_pos alive] at swept
        rw [blocked_window swept, alive]
        exact (and_iff_left (fun expired => Bool.noConfusion expired)).symm
      · rw [if_neg alive] at swept
        have expired := Bool.eq_false_iff.mpr alive
        have fewer := countOf_sweep_lt (mem_of_getEntry found) expired
        rw [blocked_absent swept, decide_eq_true_eq]
        dsimp only at fewer
        exact iff_of_false (by omega) (fun both => both.2 expired)
  | none =>
      rw [found, Option.filter_none] at swept
      rw [blocked_absent found, blocked_absent swept, freed_absent later found, decide_eq_true_eq,
        decide_eq_true_eq]
      constructor
      · intro still
        have full := le_trans still (countOf_sweep_le later bucket.1)
        refine ⟨full, ?_⟩
        rintro ⟨entry, member, same, expired⟩
        have fewer := countOf_sweep_lt member expired
        rw [same] at fewer
        omega
      · rintro ⟨full, kept⟩
        rw [countOf_sweep_eq]
        · exact full
        · intro entry member same
          by_contra expired
          exact kept ⟨entry, member, same, Bool.eq_false_iff.mpr expired⟩

theorem Freed.later {bucket : Bucket} {now later : τ} (order : now ≤ later)
    (freed : limits.Freed windows bucket now) : limits.Freed windows bucket later := by
  have expired : ∀ {start : τ}, limits.unexpired start now = false →
      limits.unexpired start later = false := by
    intro start ended
    by_contra alive
    have before := unexpired_antitone order (Bool.eq_true_of_not_eq_false alive)
    exact Bool.false_ne_true (ended.symm.trans before)
  unfold Freed at freed ⊢
  split at freed
  · exact expired freed
  · obtain ⟨entry, member, same, ended⟩ := freed
    exact ⟨entry, member, same, expired ended⟩

end Answers

/-! ### The same call again -/

variable (limits : RateLimits ℚ)

/-- If a call is refused, the same call is allowed whenever its seconds have passed. -/
def RetrySufficient (windows : Windows ℚ) (request : RateRequest ℚ) : Prop :=
  ∀ seconds, (limits.allow windows request.now request.dimensions).2 = some seconds →
    ∀ later, request.now + seconds ≤ later →
      (limits.allow (limits.allow windows request.now request.dimensions).1 later
        request.dimensions).2 = none

/-- All blocked candidates are freed by the time that the first of them waits for. -/
def FreedInTime (windows : Windows ℚ) (request : RateRequest ℚ) : Prop :=
  let swept := limits.sweep request.now windows
  ∀ first, (limits.candidates request.dimensions).find? (limits.blocked swept) = some first →
    ∀ bucket ∈ limits.candidates request.dimensions, limits.blocked swept bucket = true →
      limits.Freed swept bucket (request.now + limits.wait swept request.now first)

variable {limits} {windows : Windows ℚ}

theorem Bounded.retrySufficient_iff (bounded : limits.Bounded windows) {request : RateRequest ℚ}
    (usable : limits.candidates request.dimensions ≠ []) :
    limits.RetrySufficient windows request ↔ limits.FreedInTime windows request := by
  have swept := bounded.sweep request.now
  have again : ∀ later, (limits.allow (limits.sweep request.now windows) later
      request.dimensions).2 = none ↔ ∀ bucket ∈ limits.candidates request.dimensions,
        limits.blocked (limits.sweep request.now windows) bucket = true →
          limits.Freed (limits.sweep request.now windows) bucket later := by
    intro later
    rw [allow_granted usable]
    refine forall₂_congr (fun bucket _ => ?_)
    rw [swept.blocked_later, not_and_not_right]
  constructor
  · intro sufficient first found
    have answered : (limits.allow windows request.now request.dimensions).2 = some
        (limits.wait (limits.sweep request.now windows) request.now first) := by
      rw [allow_answer usable, found, Option.map_some]
    have granted := sufficient _ answered _ (le_refl _)
    have left := allow_refused usable (answered ▸ Option.some_ne_none _)
    rw [left] at granted
    exact (again _).mp granted
  · intro freed seconds answered later passed
    rw [allow_refused usable (answered ▸ Option.some_ne_none _)]
    rw [allow_answer usable, Option.map_eq_some_iff] at answered
    obtain ⟨first, found, same⟩ := answered
    rw [← same] at passed
    exact (again later).mpr (fun bucket member full =>
      (freed first found bucket member full).later passed)

end RateLimits

/-! ### One key for a call -/

/-- The arguments that `BoundedRateLimiter` accepts. -/
structure KeyRates (τ : Type) [LinearOrder τ] [Zero τ] where
  limit : Nat
  windowSeconds : τ
  maxKeys : Nat
  limit_pos : 1 ≤ limit
  windowSeconds_pos : 0 < windowSeconds
  maxKeys_pos : 1 ≤ maxKeys

abbrev KeyWindows (τ : Type) := List (String × Window τ)

namespace KeyRates

section Calls

variable {τ : Type} [LinearOrder τ] [Sub τ] [Zero τ] [ElapsedTime τ] (limits : KeyRates τ)

def unexpired (start now : τ) : Bool := !decide (limits.windowSeconds ≤ now - start)

/-- What is left when the expired windows are deleted. -/
def sweep (now : τ) (windows : KeyWindows τ) : KeyWindows τ :=
  windows.filter (fun entry => limits.unexpired entry.2.startedAt now)

/-- `BoundedRateLimiter.allow`: `none` for `(True, 0)`, the seconds for `(False, seconds)`. -/
def allow (windows : KeyWindows τ) (now : τ) (key : String) : KeyWindows τ × Option Int :=
  let swept := limits.sweep now windows
  match getEntry key swept with
  | none =>
      if limits.maxKeys ≤ swept.length then
        (swept, some (RateLimits.retryAfter limits.windowSeconds))
      else (putEntry key ⟨now, 1⟩ swept, none)
  | some window =>
      if limits.limit ≤ window.count then
        (swept, some (RateLimits.retryAfter (limits.windowSeconds - (now - window.startedAt))))
      else (putEntry key ⟨window.startedAt, window.count + 1⟩ swept, none)

/-- The windows after a run of calls, each with its reading of the clock. -/
def serve (windows : KeyWindows τ) : List (τ × String) → KeyWindows τ
  | [] => windows
  | call :: rest => serve (limits.allow windows call.1 call.2).1 rest

/-- No key has two windows, and there are not too many. -/
structure Bounded (windows : KeyWindows τ) : Prop where
  distinct : (windows.map (·.1)).Nodup
  keys : windows.length ≤ limits.maxKeys

variable {limits} {windows : KeyWindows τ}

theorem allow_absent {now : τ} {key : String}
    (absent : getEntry key (limits.sweep now windows) = none) :
    limits.allow windows now key =
      if limits.maxKeys ≤ (limits.sweep now windows).length then
        (limits.sweep now windows, some (RateLimits.retryAfter limits.windowSeconds))
      else (putEntry key ⟨now, 1⟩ (limits.sweep now windows), none) := by
  unfold allow
  dsimp only
  rw [absent]

theorem allow_window {now : τ} {key : String} {window : Window τ}
    (found : getEntry key (limits.sweep now windows) = some window) :
    limits.allow windows now key =
      if limits.limit ≤ window.count then
        (limits.sweep now windows,
          some (RateLimits.retryAfter (limits.windowSeconds - (now - window.startedAt))))
      else (putEntry key ⟨window.startedAt, window.count + 1⟩ (limits.sweep now windows), none) := by
  unfold allow
  dsimp only
  rw [found]

/-- What a call may do to the windows. -/
theorem allow_cases (windows : KeyWindows τ) (now : τ) (key : String) :
    (limits.allow windows now key).1 = limits.sweep now windows ∨
      ∃ start count, (start = now ∨ ∃ entry ∈ windows, entry.2.startedAt = start) ∧
        (getEntry key (limits.sweep now windows) = none →
          (limits.sweep now windows).length < limits.maxKeys) ∧
        (limits.allow windows now key).1 =
          putEntry key ⟨start, count⟩ (limits.sweep now windows) := by
  cases found : getEntry key (limits.sweep now windows) with
  | none =>
      rw [allow_absent found]
      by_cases full : limits.maxKeys ≤ (limits.sweep now windows).length
      · rw [if_pos full]
        exact Or.inl rfl
      · rw [if_neg full]
        exact Or.inr ⟨now, 1, Or.inl rfl, fun _ => Nat.lt_of_not_le full, rfl⟩
  | some window =>
      rw [allow_window found]
      by_cases full : limits.limit ≤ window.count
      · rw [if_pos full]
        exact Or.inl rfl
      · rw [if_neg full]
        have member := List.mem_of_mem_filter (mem_of_getEntry found)
        exact Or.inr ⟨window.startedAt, window.count + 1, Or.inr ⟨_, member, rfl⟩,
          fun absent => absurd absent (Option.some_ne_none _), rfl⟩

omit [ElapsedTime τ] in
theorem Bounded.sweep (bounded : limits.Bounded windows) (now : τ) :
    limits.Bounded (limits.sweep now windows) where
  distinct := (List.filter_sublist.map _).nodup bounded.distinct
  keys := le_trans List.filter_sublist.length_le bounded.keys

theorem Bounded.allow (bounded : limits.Bounded windows) (now : τ) (key : String) :
    limits.Bounded (limits.allow windows now key).1 := by
  have swept := bounded.sweep now
  rcases limits.allow_cases windows now key with same | ⟨start, count, _, room, written⟩
  · rw [same]
    exact swept
  · rw [written]
    refine ⟨putEntry_nodup _ _ swept.distinct, ?_⟩
    rw [length_putEntry]
    have kept := swept.keys
    by_cases absent : getEntry key (limits.sweep now windows) = none
    · have free := room absent
      rw [if_pos absent]
      omega
    · rw [if_neg absent]
      exact kept

theorem Bounded.serve (bounded : limits.Bounded windows) (calls : List (τ × String)) :
    limits.Bounded (limits.serve windows calls) := by
  induction calls generalizing windows with
  | nil => exact bounded
  | cons call rest ih => exact ih (bounded.allow call.1 call.2)

omit [Sub τ] [ElapsedTime τ] in
theorem bounded_nil : limits.Bounded ([] : KeyWindows τ) where
  distinct := List.nodup_nil
  keys := Nat.zero_le _

/-- Every window began at the reading of some call. -/
theorem serve_started {now : τ} {calls : List (τ × String)}
    (since : ∀ call ∈ calls, call.1 ≤ now) (before : ∀ entry ∈ windows, entry.2.startedAt ≤ now) :
    ∀ entry ∈ limits.serve windows calls, entry.2.startedAt ≤ now := by
  induction calls generalizing windows with
  | nil => exact before
  | cons call rest ih =>
      refine ih (fun other member => since other (List.mem_cons_of_mem _ member)) ?_
      intro entry member
      rcases limits.allow_cases windows call.1 call.2 with
        same | ⟨start, count, origin, _, written⟩
      · rw [same] at member
        exact before entry (List.mem_of_mem_filter member)
      · rw [written] at member
        rcases mem_putEntry member with new | old
        · rw [new]
          rcases origin with here | ⟨earlier, kept, same⟩
          · exact here ▸ since call List.mem_cons_self
          · exact same ▸ before earlier kept
        · exact before entry (List.mem_of_mem_filter old)

end Calls

variable (limits : KeyRates ℚ)

/-- If a call is refused, the same call is allowed whenever its seconds have passed. -/
def RetrySufficient (windows : KeyWindows ℚ) (now : ℚ) (key : String) : Prop :=
  ∀ seconds, (limits.allow windows now key).2 = some seconds →
    ∀ later, now + seconds ≤ later →
      (limits.allow (limits.allow windows now key).1 later key).2 = none

/-- If there is no key left for a call, some window expires in the time that it waits for. -/
def KeyFreed (windows : KeyWindows ℚ) (now : ℚ) (key : String) : Prop :=
  getEntry key (limits.sweep now windows) = none →
    limits.maxKeys ≤ (limits.sweep now windows).length →
      ∃ entry ∈ limits.sweep now windows, limits.unexpired entry.2.startedAt
        (now + RateLimits.retryAfter limits.windowSeconds) = false

variable {limits} {windows : KeyWindows ℚ}

theorem expired_iff {start now : ℚ} :
    limits.unexpired start now = false ↔ limits.windowSeconds ≤ now - start := by
  unfold unexpired
  rw [Bool.not_eq_false', decide_eq_true_eq]

theorem le_retryAfter (seconds : ℚ) : seconds ≤ (RateLimits.retryAfter seconds : ℤ) := by
  have whole : seconds ≤ (⌈seconds⌉ : ℤ) := Int.le_ceil seconds
  have rounded : ⌈seconds⌉ ≤ RateLimits.retryAfter seconds := Int.le_max_right _ _
  exact le_trans whole (Int.cast_le.mpr rounded)

/-- A call without a window is allowed later if some window has expired by then. -/
theorem Bounded.absent_later (bounded : limits.Bounded windows) {key : String} (later : ℚ)
    (absent : getEntry key windows = none) (full : limits.maxKeys ≤ windows.length) :
    (limits.allow windows later key).2 = none ↔
      ∃ entry ∈ windows, limits.unexpired entry.2.startedAt later = false := by
  have still : getEntry key (limits.sweep later windows) = none := by
    unfold KeyRates.sweep
    rw [getEntry_filter _ _ bounded.distinct, absent, Option.filter_none]
  rw [allow_absent still]
  constructor
  · intro granted
    by_contra none_expired
    have kept : limits.sweep later windows = windows := by
      refine List.filter_eq_self.mpr (fun entry member => ?_)
      by_contra expired
      exact none_expired ⟨entry, member, Bool.eq_false_iff.mpr expired⟩
    rw [kept, if_pos full] at granted
    cases granted
  · rintro ⟨entry, member, expired⟩
    have fewer : (limits.sweep later windows).length < windows.length :=
      List.length_filter_lt_length_iff_exists.mpr
        ⟨entry, member, fun alive => Bool.false_ne_true (expired.symm.trans alive)⟩
    have kept := bounded.keys
    rw [if_neg (by omega)]

/-- A call whose window is full is allowed when it has expired. -/
theorem Bounded.window_later (bounded : limits.Bounded windows) {key : String} {later : ℚ}
    {window : Window ℚ} (found : getEntry key windows = some window)
    (expired : limits.unexpired window.startedAt later = false) :
    (limits.allow windows later key).2 = none := by
  have gone : getEntry key (limits.sweep later windows) = none := by
    unfold KeyRates.sweep
    rw [getEntry_filter _ _ bounded.distinct, found, Option.filter_some]
    exact if_neg (fun alive => Bool.false_ne_true (expired.symm.trans alive))
  have fewer : (limits.sweep later windows).length < windows.length :=
    List.length_filter_lt_length_iff_exists.mpr ⟨_, mem_of_getEntry found,
      fun alive => Bool.false_ne_true (expired.symm.trans alive)⟩
  have kept := bounded.keys
  rw [allow_absent gone, if_neg (by omega)]

theorem Bounded.retrySufficient_iff (bounded : limits.Bounded windows) (now : ℚ) (key : String) :
    limits.RetrySufficient windows now key ↔ limits.KeyFreed windows now key := by
  have swept := bounded.sweep now
  unfold RetrySufficient KeyFreed
  cases found : getEntry key (limits.sweep now windows) with
  | some window =>
      refine iff_of_true ?_ (fun absent => absurd absent (Option.some_ne_none _))
      intro seconds answered later passed
      rw [allow_window found] at answered ⊢
      by_cases full : limits.limit ≤ window.count
      · rw [if_pos full] at answered ⊢
        have remaining := le_retryAfter (limits.windowSeconds - (now - window.startedAt))
        rw [Option.some.inj answered] at remaining
        refine swept.window_later found (expired_iff.mpr ?_)
        linarith
      · rw [if_neg full] at answered
        cases answered
  | none =>
      rw [allow_absent found]
      by_cases full : limits.maxKeys ≤ (limits.sweep now windows).length
      · rw [if_pos full]
        constructor
        · intro sufficient _ _
          exact (swept.absent_later _ found full).mp (sufficient _ rfl _ (le_refl _))
        · intro freed seconds answered later passed
          obtain ⟨entry, member, expired⟩ := freed rfl full
          rw [← Option.some.inj answered] at passed
          have ended := expired_iff.mp expired
          refine (swept.absent_later later found full).mpr
            ⟨entry, member, expired_iff.mpr ?_⟩
          linarith
      · rw [if_neg full]
        refine iff_of_true ?_ (fun _ crowded => absurd crowded full)
        intro seconds answered
        cases answered

/-- Windows that did not begin after the call have expired when its wait is over. -/
theorem keyFreed_of_started {now : ℚ} {key : String}
    (started : ∀ entry ∈ windows, entry.2.startedAt ≤ now) : limits.KeyFreed windows now key := by
  intro _ full
  have some_key : 0 < (limits.sweep now windows).length :=
    Nat.lt_of_lt_of_le limits.maxKeys_pos full
  obtain ⟨entry, member⟩ := List.exists_mem_of_length_pos some_key
  have begun := started entry (List.mem_of_mem_filter member)
  have whole := le_retryAfter limits.windowSeconds
  refine ⟨entry, member, expired_iff.mpr ?_⟩
  linarith

end KeyRates

/-- The limiter with several dimensions keeps its promise exactly when all candidates that
are blocked are free again by the time that the first of them waits for.  The limiter with
one key keeps it whenever the readings before the call are not later than its own. -/
theorem retry_after_exact (limits : RateLimits ℚ) (past : List (RateRequest ℚ))
    (request : RateRequest ℚ) (keyLimits : KeyRates ℚ) (calls : List (ℚ × String)) (now : ℚ)
    (key : String) :
    (limits.candidates request.dimensions ≠ [] →
      (limits.RetrySufficient (limits.serve [] past) request ↔
        limits.FreedInTime (limits.serve [] past) request)) ∧
    (keyLimits.RetrySufficient (keyLimits.serve [] calls) now key ↔
      keyLimits.KeyFreed (keyLimits.serve [] calls) now key) ∧
    ((∀ call ∈ calls, call.1 ≤ now) →
      keyLimits.RetrySufficient (keyLimits.serve [] calls) now key) := by
  have bounded : keyLimits.Bounded (keyLimits.serve [] calls) := KeyRates.bounded_nil.serve calls
  have exact_here := bounded.retrySufficient_iff now key
  refine ⟨?_, exact_here, ?_⟩
  · intro usable
    exact (RateLimits.bounded_nil.serve past).retrySufficient_iff usable
  · intro ordered
    apply exact_here.mpr
    apply KeyRates.keyFreed_of_started
    exact KeyRates.serve_started ordered (fun _ member => absurd member List.not_mem_nil)

/-! ### An actor who waits for the tenant -/

theorem twoAndOne_positive : ∀ limit ∈ [("tenant", 2), ("actor", 1)], 1 ≤ limit.2 := by decide

theorem keys_positive : 1 ≤ 4096 := by decide

/-- Two calls a minute for a tenant, one for an actor. -/
def twoAndOne : RateLimits ℚ where
  limits := [("tenant", 2), ("actor", 1)]
  windowSeconds := 60
  maxKeys := 4096
  limits_ne := List.cons_ne_nil _ _
  limits_pos := twoAndOne_positive
  windowSeconds_pos := by norm_num
  maxKeys_pos := keys_positive

def exactRequest (now : ℚ) (actor : String) : RateRequest ℚ where
  now := now
  dimensions := [("tenant", "acme"), ("actor", actor)]
  distinct := by
    change ["tenant", "actor"].Nodup
    decide

/-- One call a minute for each of two keys. -/
def twoKeys : KeyRates ℚ := ⟨1, 60, 2, by decide, by norm_num, by decide⟩

theorem retry_after_exact_half_minute :
    (twoAndOne.RetrySufficient (twoAndOne.serve [] [exactRequest 0 "ann"]) (exactRequest 30 "ann") ↔
      twoAndOne.FreedInTime (twoAndOne.serve [] [exactRequest 0 "ann"]) (exactRequest 30 "ann")) ∧
    twoKeys.RetrySufficient (twoKeys.serve [] [(0, "ann")]) 30 "ann" := by
  obtain ⟨dimensions, -, keys⟩ := retry_after_exact twoAndOne [exactRequest 0 "ann"]
    (exactRequest 30 "ann") twoKeys [(0, "ann")] 30 "ann"
  refine ⟨dimensions (by decide), keys ?_⟩
  intro call member
  rw [List.mem_singleton.mp member]
  norm_num

/-- The tenant's window ends after the 20 seconds that are returned; the actor's does not. -/
theorem retry_after_insufficient :
    ¬∀ (limits : RateLimits ℚ) (past : List (RateRequest ℚ)) (request : RateRequest ℚ),
      InOrder (past ++ [request]) → limits.candidates request.dimensions ≠ [] →
        limits.RetrySufficient (limits.serve [] past) request := by
  intro always
  have order : InOrder [exactRequest 0 "ann", exactRequest 30 "bob", exactRequest 40 "bob"] := by
    norm_num [InOrder, exactRequest]
  have waits := always twoAndOne [exactRequest 0 "ann", exactRequest 30 "bob"]
    (exactRequest 40 "bob") order (by decide)
  have granted := waits 20 (by decide +kernel) 60 (by norm_num [exactRequest])
  revert granted
  decide +kernel

end FolioLattice.Limits
