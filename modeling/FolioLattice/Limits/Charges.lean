/-
What a run of calls does to the limiter over several dimensions: a call charges each of
its buckets once or none of them, and how many calls that share a bucket are admitted.
-/

import FolioLattice.Limits.Fairness

namespace FolioLattice.Limits

open FolioLattice.Data FolioLattice.Relational

/-- A clock that measures no less from an earlier reading, and nothing from the same one. -/
class ElapsedTime (τ : Type) [LinearOrder τ] [Sub τ] [Zero τ] extends ClockTime τ where
  sub_anti : ∀ {a b : τ} (c : τ), a ≤ b → c - b ≤ c - a
  sub_self : ∀ a : τ, a - a = 0

namespace RateLimits

/-- A window with one more charge, which opens now if there is none. -/
def charged {τ : Type} (now : τ) (window : Option (Window τ)) : Window τ :=
  ⟨(window.getD ⟨now, 0⟩).startedAt, (window.getD ⟨now, 0⟩).count + 1⟩

/-! ### Charging some buckets -/

section Charges

variable {τ : Type}

theorem charge_self (now : τ) (windows : Windows τ) (bucket : Bucket) :
    getEntry bucket (charge now windows bucket) = some (charged now (getEntry bucket windows)) :=
  getEntry_putEntry_self _ _ _

theorem charge_other (now : τ) (windows : Windows τ) {bucket other : Bucket}
    (differ : bucket ≠ other) :
    getEntry other (charge now windows bucket) = getEntry other windows :=
  getEntry_putEntry_other differ _ _

theorem charges_entry (now : τ) {buckets : List Bucket} (distinct : buckets.Nodup)
    (windows : Windows τ) (bucket : Bucket) :
    getEntry bucket (buckets.foldl (charge now) windows) =
      if bucket ∈ buckets then some (charged now (getEntry bucket windows))
      else getEntry bucket windows := by
  induction buckets generalizing windows with
  | nil => rw [if_neg List.not_mem_nil, List.foldl_nil]
  | cons first rest ih =>
      obtain ⟨fresh, others⟩ := List.nodup_cons.mp distinct
      rw [List.foldl_cons, ih others]
      by_cases same : first = bucket
      · subst same
        rw [if_neg fresh, if_pos List.mem_cons_self, charge_self]
      · rw [charge_other now windows same]
        by_cases member : bucket ∈ rest
        · rw [if_pos member, if_pos (List.mem_cons_of_mem _ member)]
        · rw [if_neg member, if_neg]
          intro inside
          rcases List.mem_cons.mp inside with here | later
          · exact same here.symm
          · exact member later

theorem charges_distinct (now : τ) (buckets : List Bucket) {windows : Windows τ}
    (distinct : (windows.map (·.1)).Nodup) :
    ((buckets.foldl (charge now) windows).map (·.1)).Nodup := by
  induction buckets generalizing windows with
  | nil => exact distinct
  | cons first rest ih => exact ih (putEntry_nodup _ _ distinct)

theorem countOf_cons (name : String) (entry : Bucket × Window τ) (rest : Windows τ) :
    countOf name (entry :: rest) = (if entry.1.1 = name then 1 else 0) + countOf name rest := by
  unfold countOf
  rw [List.filter_cons]
  by_cases same : entry.1.1 = name
  · rw [if_pos (decide_eq_true same), if_pos same, List.length_cons, Nat.add_comm]
  · rw [if_neg (fun equal => same (of_decide_eq_true equal)), if_neg same, Nat.zero_add]

theorem countOf_putEntry (name : String) (bucket : Bucket) (window : Window τ)
    (windows : Windows τ) :
    countOf name (putEntry bucket window windows) =
      countOf name windows +
        if getEntry bucket windows = none ∧ bucket.1 = name then 1 else 0 := by
  induction windows with
  | nil =>
      have absent : getEntry bucket ([] : Windows τ) = none := rfl
      rw [putEntry, countOf_cons, absent, Nat.add_comm]
      simp only [true_and]
  | cons entry rest ih =>
      rw [putEntry]
      by_cases found : entry.1 = bucket
      · rw [if_pos found, getEntry_cons_of_eq _ found, if_neg (fun both => Option.some_ne_none _ both.1),
          countOf_cons, countOf_cons, found, Nat.add_zero]
      · rw [if_neg found, getEntry_cons_of_ne _ found, countOf_cons, countOf_cons, ih]
        omega

/-- A dimension is charged once, so the room for one key is enough. -/
theorem charges_keys (now : τ) {buckets : List Bucket} (names : (buckets.map (·.1)).Nodup)
    {most : Nat} {windows : Windows τ}
    (room : ∀ bucket ∈ buckets, getEntry bucket windows = none → countOf bucket.1 windows < most)
    (kept : ∀ name, countOf name windows ≤ most) (name : String) :
    countOf name (buckets.foldl (charge now) windows) ≤ most := by
  induction buckets generalizing windows with
  | nil => exact kept name
  | cons first rest ih =>
      obtain ⟨fresh, others⟩ := List.nodup_cons.mp names
      have counted : ∀ name, countOf name (charge now windows first) = countOf name windows +
          if getEntry first windows = none ∧ first.1 = name then 1 else 0 :=
        fun name => countOf_putEntry name first _ windows
      refine ih others ?_ ?_
      · intro bucket member absent
        have apart : first.1 ≠ bucket.1 :=
          fun same => fresh (List.mem_map.mpr ⟨bucket, member, same.symm⟩)
        have differ : first ≠ bucket := fun same => apart (congrArg Prod.fst same)
        rw [charge_other now windows differ] at absent
        rw [counted, if_neg (fun both => apart both.2)]
        exact room bucket (List.mem_cons_of_mem _ member) absent
      · intro other
        rw [counted]
        by_cases opens : getEntry first windows = none ∧ first.1 = other
        · have free := room first List.mem_cons_self opens.1
          rw [if_pos opens, ← opens.2]
          omega
        · rw [if_neg opens]
          exact kept other

end Charges

end RateLimits

variable {τ : Type} [LinearOrder τ] [Sub τ] [Zero τ] [ElapsedTime τ]

/-! ### Runs of calls -/

/-- A call of `allow`: the reading of the clock and the mapping of dimensions. -/
structure RateRequest (τ : Type) where
  now : τ
  dimensions : List Bucket
  distinct : (dimensions.map (·.1)).Nodup

/-- The calls of one limiter, in the order of their readings. -/
def InOrder (requests : List (RateRequest τ)) : Prop :=
  requests.Pairwise (fun first second => first.now ≤ second.now)

namespace RateLimits

variable (limits : RateLimits τ)

/-- `self.limits[name]`, and nothing for a dimension that has no limit. -/
def limitOf (name : String) : Nat := (getEntry name limits.limits).getD 0

/-- The window of a bucket, unless it has expired. -/
def liveWindow (now : τ) (windows : Windows τ) (bucket : Bucket) : Option (Window τ) :=
  getEntry bucket (limits.sweep now windows)

/-- The windows after a run of calls. -/
def serve (windows : Windows τ) : List (RateRequest τ) → Windows τ
  | [] => windows
  | request :: rest => serve (limits.allow windows request.now request.dimensions).1 rest

/-- The readings at which calls that share a bucket are admitted. -/
def admissions (bucket : Bucket) (windows : Windows τ) : List (RateRequest τ) → List τ
  | [] => []
  | request :: rest =>
      (if (limits.allow windows request.now request.dimensions).2 = none ∧
          bucket ∈ limits.candidates request.dimensions then [request.now] else []) ++
        admissions bucket (limits.allow windows request.now request.dimensions).1 rest

/-- A window that began at a reading has not expired at another. -/
def unexpired (start now : τ) : Bool := !decide (limits.windowSeconds ≤ now - start)

/-- A reading in the half-open window of `window_seconds` that begins at another. -/
def within (start now : τ) : Bool := decide (start ≤ now) && limits.unexpired start now

/-- How often a bucket is charged before a window expires that began at a reading. -/
def chargesBefore (start : τ) (bucket : Bucket) (windows : Windows τ)
    (requests : List (RateRequest τ)) : Nat :=
  ((limits.admissions bucket windows requests).filter (limits.unexpired start)).length

/-- A call that is refused changes no live bucket, one that is allowed charges each of its
candidates once and changes no other. -/
structure ChargesOnce (windows : Windows τ) (request : RateRequest τ) : Prop where
  refused : (limits.allow windows request.now request.dimensions).2 ≠ none →
    ∀ bucket, limits.liveWindow request.now
      (limits.allow windows request.now request.dimensions).1 bucket =
        limits.liveWindow request.now windows bucket
  allowed : (limits.allow windows request.now request.dimensions).2 = none →
    ∀ bucket, limits.liveWindow request.now
      (limits.allow windows request.now request.dimensions).1 bucket =
        if bucket ∈ limits.candidates request.dimensions then
          some (charged request.now (limits.liveWindow request.now windows bucket))
        else limits.liveWindow request.now windows bucket

/-- Every bucket has been charged, within its limit, and no dimension has too many. -/
structure Bounded (windows : Windows τ) : Prop where
  distinct : (windows.map (·.1)).Nodup
  opened : ∀ entry ∈ windows, 1 ≤ entry.2.count
  counts : ∀ entry ∈ windows, entry.2.count ≤ limits.limitOf entry.1.1
  keys : ∀ name, countOf name windows ≤ limits.maxKeys

/-! ### One call -/

variable {limits} {windows : Windows τ}

omit [Sub τ] [ElapsedTime τ] in
theorem mem_candidates {dimensions : List Bucket} {bucket : Bucket} :
    bucket ∈ limits.candidates dimensions ↔
      bucket ∈ dimensions ∧ (getEntry bucket.1 limits.limits).isSome ∧ bucket.2.isEmpty = false := by
  unfold candidates
  rw [List.mem_filter, Bool.and_eq_true, Bool.not_eq_true']

omit [Sub τ] [ElapsedTime τ] in
theorem candidates_names (request : RateRequest τ) :
    ((limits.candidates request.dimensions).map (·.1)).Nodup :=
  (List.filter_sublist.map _).nodup request.distinct

omit [Sub τ] [ElapsedTime τ] in
theorem limitOf_pos {name : String} (configured : (getEntry name limits.limits).isSome) :
    1 ≤ limits.limitOf name := by
  obtain ⟨limit, found⟩ := Option.isSome_iff_exists.mp configured
  unfold limitOf
  rw [found]
  exact limits.limits_pos _ (mem_of_getEntry found)

/-- What is known of the candidates when none of them is refused. -/
theorem refusal_none {now : τ} {buckets : List Bucket}
    (granted : limits.refusal windows now buckets = none) :
    ∀ bucket ∈ buckets, (∀ window, getEntry bucket windows = some window →
        window.count < limits.limitOf bucket.1) ∧
      (getEntry bucket windows = none → countOf bucket.1 windows < limits.maxKeys) := by
  induction buckets with
  | nil => exact fun _ member => absurd member List.not_mem_nil
  | cons first rest ih =>
      intro bucket member
      rw [refusal] at granted
      rcases List.mem_cons.mp member with same | later
      · subst same
        constructor
        · intro window found
          rw [found] at granted
          by_cases full : limits.limitOf bucket.1 ≤ window.count
          · unfold limitOf at full
            simp only [if_pos full] at granted
            cases granted
          · omega
        · intro absent
          rw [absent] at granted
          by_cases full : limits.maxKeys ≤ countOf bucket.1 windows
          · simp only [if_pos full] at granted
            cases granted
          · omega
      · refine ih ?_ bucket later
        cases found : getEntry first windows with
        | none =>
            simp only [found] at granted
            split at granted
            · cases granted
            · exact granted
        | some window =>
            simp only [found] at granted
            split at granted
            · cases granted
            · exact granted

/-- What a call may do to the windows. -/
theorem allow_cases (windows : Windows τ) (now : τ) (dimensions : List Bucket) :
    ((limits.allow windows now dimensions).2 ≠ none ∧
        ((limits.allow windows now dimensions).1 = windows ∨
          (limits.allow windows now dimensions).1 = limits.sweep now windows)) ∨
      ((limits.allow windows now dimensions).2 = none ∧
        limits.refusal (limits.sweep now windows) now (limits.candidates dimensions) = none ∧
        (limits.allow windows now dimensions).1 =
          (limits.candidates dimensions).foldl (charge now) (limits.sweep now windows)) := by
  unfold allow
  simp only
  split
  · exact Or.inl ⟨Option.some_ne_none _, Or.inl rfl⟩
  · split
    · exact Or.inl ⟨Option.some_ne_none _, Or.inr rfl⟩
    · rename_i granted
      exact Or.inr ⟨rfl, granted, rfl⟩

/-! ### What one call preserves -/

theorem unexpired_anti {start later now : τ} (order : start ≤ later)
    (alive : limits.unexpired start now = true) : limits.unexpired later now = true := by
  unfold unexpired at alive ⊢
  rw [Bool.not_eq_true', decide_eq_false_iff_not] at alive ⊢
  exact fun expired => alive (le_trans expired (ElapsedTime.sub_anti now order))

theorem unexpired_self (now : τ) : limits.unexpired now now = true := by
  unfold unexpired
  rw [Bool.not_eq_true', decide_eq_false_iff_not, ElapsedTime.sub_self]
  exact not_le_of_gt limits.windowSeconds_pos

omit [ElapsedTime τ] in
theorem sweep_distinct (now : τ) (distinct : (windows.map (·.1)).Nodup) :
    ((limits.sweep now windows).map (·.1)).Nodup :=
  (List.filter_sublist.map _).nodup distinct

omit [ElapsedTime τ] in
theorem liveWindow_entry (distinct : (windows.map (·.1)).Nodup) (now : τ) (bucket : Bucket) :
    limits.liveWindow now windows bucket =
      (getEntry bucket windows).filter (fun window => limits.unexpired window.startedAt now) :=
  getEntry_filter _ _ distinct

omit [ElapsedTime τ] in
theorem getEntry_of_liveWindow (distinct : (windows.map (·.1)).Nodup) {now : τ} {bucket : Bucket}
    {window : Window τ} (found : limits.liveWindow now windows bucket = some window) :
    getEntry bucket windows = some window := by
  rw [liveWindow_entry distinct] at found
  exact (Option.filter_eq_some_iff.mp found).1

omit [ElapsedTime τ] in
theorem liveWindow_unexpired (distinct : (windows.map (·.1)).Nodup) {now : τ} {bucket : Bucket}
    {window : Window τ} (found : limits.liveWindow now windows bucket = some window) :
    limits.unexpired window.startedAt now = true := by
  rw [liveWindow_entry distinct] at found
  exact (Option.filter_eq_some_iff.mp found).2

/-- A bucket that has no live window has none at a later reading. -/
theorem liveWindow_none_later {now later : τ} (order : now ≤ later) {bucket : Bucket}
    (distinct : (windows.map (·.1)).Nodup) (absent : limits.liveWindow now windows bucket = none) :
    limits.liveWindow later windows bucket = none := by
  have swept : limits.sweep later windows = (limits.sweep now windows).filter (limits.live later) :=
    (limits.sweep_sweep order windows).symm
  unfold liveWindow at absent ⊢
  rw [swept, getEntry_filter _ _ (sweep_distinct now distinct), absent]
  rfl

theorem allow_chargesOnce (distinct : (windows.map (·.1)).Nodup) (request : RateRequest τ) :
    limits.ChargesOnce windows request := by
  rcases limits.allow_cases windows request.now request.dimensions with
    ⟨refused, kept⟩ | ⟨allowed, granted, changed⟩
  · refine ⟨fun _ bucket => ?_, fun allowed => absurd allowed refused⟩
    unfold liveWindow
    rcases kept with same | swept
    · rw [same]
    · rw [swept, limits.sweep_sweep (le_refl _)]
  · refine ⟨fun refused => absurd allowed refused, fun _ bucket => ?_⟩
    have known : ((limits.sweep request.now windows).map (·.1)).Nodup :=
      sweep_distinct request.now distinct
    rw [changed, liveWindow_entry (charges_distinct _ _ known),
      charges_entry _ (candidates_names request).of_map]
    by_cases member : bucket ∈ limits.candidates request.dimensions
    · rw [if_pos member, if_pos member, Option.filter_some, if_pos]
      · rfl
      · cases found : getEntry bucket (limits.sweep request.now windows) with
        | none => exact unexpired_self request.now
        | some window =>
            have alive : limits.unexpired window.startedAt request.now = true :=
              liveWindow_unexpired distinct found
            exact alive
    · rw [if_neg member, if_neg member]
      have again : limits.liveWindow request.now (limits.sweep request.now windows) bucket = _ :=
        liveWindow_entry known request.now bucket
      unfold liveWindow at again
      rw [← again, limits.sweep_sweep (le_refl _)]
      rfl

omit [ElapsedTime τ] in
theorem Bounded.sweep (bounded : limits.Bounded windows) (now : τ) :
    limits.Bounded (limits.sweep now windows) where
  distinct := sweep_distinct now bounded.distinct
  opened entry member := bounded.opened entry (List.mem_of_mem_filter member)
  counts entry member := bounded.counts entry (List.mem_of_mem_filter member)
  keys name := le_trans (List.Sublist.filter _ List.filter_sublist).length_le (bounded.keys name)

theorem Bounded.allow (bounded : limits.Bounded windows) (request : RateRequest τ) :
    limits.Bounded (limits.allow windows request.now request.dimensions).1 := by
  have swept := bounded.sweep request.now
  rcases limits.allow_cases windows request.now request.dimensions with
    ⟨_, same | dropped⟩ | ⟨_, granted, changed⟩
  · rw [same]
    exact bounded
  · rw [dropped]
    exact swept
  · rw [changed]
    have free := refusal_none granted
    have distinct := charges_distinct request.now (limits.candidates request.dimensions)
      swept.distinct
    have entries : ∀ entry ∈ (limits.candidates request.dimensions).foldl (charge request.now)
        (limits.sweep request.now windows),
        1 ≤ entry.2.count ∧ entry.2.count ≤ limits.limitOf entry.1.1 := by
      intro entry member
      have found := getEntry_of_mem distinct member
      rw [charges_entry _ (candidates_names request).of_map] at found
      by_cases charges : entry.1 ∈ limits.candidates request.dimensions
      · rw [if_pos charges] at found
        rw [← Option.some.inj found]
        cases known : getEntry entry.1 (limits.sweep request.now windows) with
        | none => exact ⟨Nat.le_refl 1, limitOf_pos (mem_candidates.mp charges).2.1⟩
        | some window => exact ⟨Nat.le_add_left 1 _, (free entry.1 charges).1 window known⟩
      · rw [if_neg charges] at found
        have old := mem_of_getEntry found
        exact ⟨swept.opened _ old, swept.counts _ old⟩
    exact ⟨distinct, fun entry member => (entries entry member).1,
      fun entry member => (entries entry member).2,
      charges_keys _ (candidates_names request) (fun bucket member => (free bucket member).2)
        swept.keys⟩

/-! ### Runs -/

variable {requests rest : List (RateRequest τ)} {request : RateRequest τ} {bucket : Bucket}

theorem Bounded.serve (bounded : limits.Bounded windows) (requests : List (RateRequest τ)) :
    limits.Bounded (limits.serve windows requests) := by
  induction requests generalizing windows with
  | nil => exact bounded
  | cons request rest ih => exact ih (bounded.allow request)

omit [Sub τ] [ElapsedTime τ] in
theorem bounded_nil : limits.Bounded ([] : Windows τ) where
  distinct := List.nodup_nil
  opened _ member := absurd member List.not_mem_nil
  counts _ member := absurd member List.not_mem_nil
  keys _ := Nat.zero_le _

/-- A call either charges a bucket and adds a reading, or leaves both. -/
theorem Bounded.admission (bounded : limits.Bounded windows) (request : RateRequest τ)
    (rest : List (RateRequest τ)) (bucket : Bucket) :
    (limits.admissions bucket windows (request :: rest) = request.now ::
        limits.admissions bucket (limits.allow windows request.now request.dimensions).1 rest ∧
      limits.liveWindow request.now (limits.allow windows request.now request.dimensions).1 bucket =
        some (charged request.now (limits.liveWindow request.now windows bucket))) ∨
    (limits.admissions bucket windows (request :: rest) =
        limits.admissions bucket (limits.allow windows request.now request.dimensions).1 rest ∧
      limits.liveWindow request.now (limits.allow windows request.now request.dimensions).1 bucket =
        limits.liveWindow request.now windows bucket) := by
  have once := limits.allow_chargesOnce bounded.distinct request
  rw [admissions]
  by_cases allowed : (limits.allow windows request.now request.dimensions).2 = none
  · by_cases member : bucket ∈ limits.candidates request.dimensions
    · refine Or.inl ⟨?_, ?_⟩
      · rw [if_pos ⟨allowed, member⟩]
        rfl
      · rw [once.allowed allowed, if_pos member]
    · refine Or.inr ⟨?_, ?_⟩
      · rw [if_neg (fun both => member both.2)]
        rfl
      · rw [once.allowed allowed, if_neg member]
  · refine Or.inr ⟨?_, once.refused allowed bucket⟩
    rw [if_neg (fun both => allowed both.1)]
    rfl

theorem admissions_from {start : τ} (since : ∀ request ∈ requests, start ≤ request.now)
    (windows : Windows τ) {now : τ} (member : now ∈ limits.admissions bucket windows requests) :
    start ≤ now := by
  induction requests generalizing windows with
  | nil => cases member
  | cons request rest ih =>
      rw [admissions, List.mem_append] at member
      rcases member with here | later
      · split at here
        · rw [List.mem_singleton.mp here]
          exact since request List.mem_cons_self
        · cases here
      · exact ih (fun other inside => since other (List.mem_cons_of_mem _ inside)) _ later

theorem unexpired_antitone {start now later : τ} (order : now ≤ later)
    (alive : limits.unexpired start later = true) : limits.unexpired start now = true := by
  unfold unexpired at alive ⊢
  rw [Bool.not_eq_true', decide_eq_false_iff_not] at alive ⊢
  exact fun expired => alive (le_trans expired (ClockTime.sub_mono start order))

theorem chargesBefore_expired {start later : τ}
    (since : ∀ request ∈ requests, later ≤ request.now)
    (expired : ¬limits.unexpired start later = true) (windows : Windows τ) :
    limits.chargesBefore start bucket windows requests = 0 := by
  unfold chargesBefore
  rw [List.length_eq_zero_iff, List.filter_eq_nil_iff]
  exact fun now member alive =>
    expired (unexpired_antitone (admissions_from since windows member) alive)

theorem chargesBefore_anti {start later : τ} (order : start ≤ later) (windows : Windows τ) :
    limits.chargesBefore start bucket windows requests ≤
      limits.chargesBefore later bucket windows requests :=
  (List.monotone_filter_right _ (fun _ alive => unexpired_anti order alive)).length_le

theorem chargesBefore_more {later : Windows τ} {now : τ} (more : limits.admissions bucket windows
      requests = now :: limits.admissions bucket later rest) (start : τ) :
    limits.chargesBefore start bucket windows requests ≤
      limits.chargesBefore start bucket later rest + 1 := by
  unfold chargesBefore
  rw [more, List.filter_cons]
  split
  · exact Nat.le_refl _
  · exact Nat.le_succ _

theorem chargesBefore_same {later : Windows τ} (same : limits.admissions bucket windows requests =
      limits.admissions bucket later rest) (start : τ) :
    limits.chargesBefore start bucket windows requests =
      limits.chargesBefore start bucket later rest := by
  unfold chargesBefore
  rw [same]

/-- A window that is open takes what is left of its limit. -/
theorem Bounded.open_window (bounded : limits.Bounded windows) (order : InOrder requests)
    {window : Window τ} (found : getEntry bucket windows = some window) :
    limits.chargesBefore window.startedAt bucket windows requests + window.count ≤
      limits.limitOf bucket.1 := by
  induction requests generalizing windows window with
  | nil =>
      have within := bounded.counts _ (mem_of_getEntry found)
      change 0 + window.count ≤ _
      rw [Nat.zero_add]
      exact within
  | cons request rest ih =>
      obtain ⟨since, later⟩ := List.pairwise_cons.mp order
      have next := bounded.allow request
      by_cases alive : limits.unexpired window.startedAt request.now = true
      · have live : limits.liveWindow request.now windows bucket = some window := by
          rw [liveWindow_entry bounded.distinct, found, Option.filter_some, if_pos alive]
        rcases bounded.admission request rest bucket with ⟨more, after⟩ | ⟨same, after⟩
        · rw [live] at after
          have remaining : limits.chargesBefore window.startedAt bucket _ rest +
              (window.count + 1) ≤ limits.limitOf bucket.1 :=
            ih next later (getEntry_of_liveWindow next.distinct after)
          have counted := chargesBefore_more more window.startedAt
          omega
        · rw [live] at after
          rw [chargesBefore_same same]
          exact ih next later (getEntry_of_liveWindow next.distinct after)
      · have limited := bounded.counts _ (mem_of_getEntry found)
        have all : ∀ other ∈ request :: rest, request.now ≤ other.now := fun other member =>
          (List.mem_cons.mp member).elim (fun same => same ▸ le_refl _) (since other)
        rw [chargesBefore_expired all alive, Nat.zero_add]
        exact limited

/-- A bucket without a live window is charged up to its limit before a window that begins
no later than the calls expires. -/
theorem Bounded.closed_window (bounded : limits.Bounded windows) (order : InOrder requests)
    {start now : τ} (begun : start ≤ now) (since : ∀ request ∈ requests, now ≤ request.now)
    (absent : limits.liveWindow now windows bucket = none) :
    limits.chargesBefore start bucket windows requests ≤ limits.limitOf bucket.1 := by
  induction requests generalizing windows now with
  | nil => exact Nat.zero_le _
  | cons request rest ih =>
      obtain ⟨following, later⟩ := List.pairwise_cons.mp order
      have next := bounded.allow request
      have reached := le_trans begun (since request List.mem_cons_self)
      have still := liveWindow_none_later (since request List.mem_cons_self) bounded.distinct absent
      rcases bounded.admission request rest bucket with ⟨more, after⟩ | ⟨same, after⟩
      · rw [still] at after
        -- the call opens a window, which outlasts the one that is asked about
        have opened : limits.chargesBefore request.now bucket _ rest + 1 ≤
            limits.limitOf bucket.1 :=
          next.open_window later (getEntry_of_liveWindow next.distinct after)
        have counted := chargesBefore_more more start
        have outlasts : limits.chargesBefore start bucket
              (limits.allow windows request.now request.dimensions).1 rest ≤
            limits.chargesBefore request.now bucket _ rest := chargesBefore_anti reached _
        omega
      · rw [still] at after
        rw [chargesBefore_same same]
        exact ih next later reached following after

/-- With the charges that an open window already has, no more than two windows' limits. -/
theorem Bounded.two_windows (bounded : limits.Bounded windows) (order : InOrder requests)
    {start : τ} (since : ∀ request ∈ requests, start ≤ request.now) {window : Window τ}
    (found : getEntry bucket windows = some window) :
    limits.chargesBefore start bucket windows requests + window.count ≤
      2 * limits.limitOf bucket.1 := by
  have limited : window.count ≤ limits.limitOf bucket.1 :=
    bounded.counts _ (mem_of_getEntry found)
  induction requests generalizing windows window with
  | nil =>
      change 0 + window.count ≤ _
      omega
  | cons request rest ih =>
      obtain ⟨following, later⟩ := List.pairwise_cons.mp order
      have next := bounded.allow request
      have begun := since request List.mem_cons_self
      have others := fun other member => since other (List.mem_cons_of_mem request member)
      cases live : limits.liveWindow request.now windows bucket with
      | none =>
          -- the open window expires before this call, and at most one more opens
          have all : ∀ other ∈ request :: rest, request.now ≤ other.now := fun other member =>
            (List.mem_cons.mp member).elim (fun same => same ▸ le_refl _) (following other)
          have fresh := bounded.closed_window order begun all live
          omega
      | some opened =>
          have known := getEntry_of_liveWindow bounded.distinct live
          rw [found] at known
          cases known
          rcases bounded.admission request rest bucket with ⟨more, after⟩ | ⟨same, after⟩
          · rw [live] at after
            have entry := getEntry_of_liveWindow next.distinct after
            have remaining : limits.chargesBefore start bucket _ rest + (window.count + 1) ≤
                2 * limits.limitOf bucket.1 :=
              ih next later others entry (next.counts _ (mem_of_getEntry entry))
            have counted := chargesBefore_more more start
            omega
          · rw [live] at after
            rw [chargesBefore_same same]
            exact ih next later others (getEntry_of_liveWindow next.distinct after) limited

theorem within_le (start : τ) (windows : Windows τ) :
    ((limits.admissions bucket windows requests).filter (limits.within start)).length ≤
      limits.chargesBefore start bucket windows requests := by
  refine (List.monotone_filter_right _ ?_).length_le
  intro now inside
  exact (Bool.and_eq_true_iff.mp inside).2

/-- Any window of `window_seconds`, wherever it begins. -/
theorem Bounded.any_window (bounded : limits.Bounded windows) (order : InOrder requests)
    (bucket : Bucket) (start : τ) :
    ((limits.admissions bucket windows requests).filter (limits.within start)).length ≤
      2 * limits.limitOf bucket.1 - 1 := by
  induction requests generalizing windows with
  | nil => exact Nat.zero_le _
  | cons request rest ih =>
      obtain ⟨following, later⟩ := List.pairwise_cons.mp order
      have next := bounded.allow request
      by_cases begun : start ≤ request.now
      · have all : ∀ other ∈ request :: rest, request.now ≤ other.now := fun other member =>
          (List.mem_cons.mp member).elim (fun same => same ▸ le_refl _) (following other)
        have counted : _ ≤ limits.chargesBefore start bucket windows (request :: rest) :=
          within_le start windows
        cases live : limits.liveWindow request.now windows bucket with
        | none =>
            have fresh := bounded.closed_window order begun all live
            omega
        | some window =>
            have found := getEntry_of_liveWindow bounded.distinct live
            have both := bounded.two_windows order
              (fun other member => le_trans begun (all other member)) found
            have opened : 1 ≤ window.count := bounded.opened _ (mem_of_getEntry found)
            omega
      · have outside : ¬limits.within start request.now = true :=
          fun inside => begun (of_decide_eq_true (Bool.and_eq_true_iff.mp inside).1)
        rcases bounded.admission request rest bucket with ⟨more, _⟩ | ⟨same, _⟩
        · rw [more, List.filter_cons_of_neg outside]
          exact ih next later
        · rw [same]
          exact ih next later

end RateLimits

open RateLimits in
/-- In every run of calls: a call that is refused leaves every live bucket as it was, one
that is allowed adds one to each of its candidates and to no other; counts and keys stay
within their bounds; and so do the calls that share a bucket, in any window of
`window_seconds` and in the lifetime of a bucket that a call opens. -/
theorem dimension_rate_limiter_bounds (limits : RateLimits τ) (requests : List (RateRequest τ))
    (order : InOrder requests) :
    (∀ past request later, requests = past ++ request :: later →
      limits.ChargesOnce (limits.serve [] past) request) ∧
    (∀ past, past <+: requests → limits.Bounded (limits.serve [] past)) ∧
    (∀ bucket start, ((limits.admissions bucket [] requests).filter (limits.within start)).length ≤
      2 * limits.limitOf bucket.1 - 1) ∧
    ∀ bucket past request later, requests = past ++ request :: later →
      limits.liveWindow request.now (limits.serve [] past) bucket = none →
      ((limits.admissions bucket (limits.serve [] past) (request :: later)).filter
        (limits.within request.now)).length ≤ limits.limitOf bucket.1 := by
  refine ⟨?_, ?_, ?_, ?_⟩
  · intro past request later _
    exact limits.allow_chargesOnce (bounded_nil.serve past).distinct request
  · intro past _
    exact bounded_nil.serve past
  · intro bucket start
    exact bounded_nil.any_window order bucket start
  · intro bucket past request later split absent
    rw [split] at order
    have following := (List.pairwise_append.mp order).2.1
    have counted : _ ≤ limits.chargesBefore request.now bucket (limits.serve [] past)
        (request :: later) := within_le request.now (limits.serve [] past)
    have all : ∀ other ∈ request :: later, request.now ≤ other.now := fun other member =>
      (List.mem_cons.mp member).elim (fun same => same ▸ le_refl _)
        ((List.pairwise_cons.mp following).1 other)
    exact le_trans counted
      ((bounded_nil.serve past).closed_window following (le_refl _) all absent)

/-! ### Four calls of two tenants -/

instance secondsElapsed : ElapsedTime Int where
  sub_anti c order := by omega
  sub_self a := by omega

/-- One call a minute for a tenant, two for an actor. -/
def tenantAndActor : RateLimits Int :=
  { onceAMinute.rates with
    limits := [("tenant", 1), ("actor", 2)]
    limits_ne := List.cons_ne_nil _ _
    limits_pos := by decide }

def rateRequest (now : Int) (tenant actor : String) : RateRequest Int where
  now := now
  dimensions := [("tenant", tenant), ("actor", actor)]
  distinct := by
    change ["tenant", "actor"].Nodup
    decide

/-- The second call is refused, and the actor's first one too is then left uncharged. -/
def fourRequests : List (RateRequest Int) :=
  [rateRequest 0 "a" "a", rateRequest 0 "a" "b", rateRequest 0 "b" "b", rateRequest 60 "a" "b"]

theorem dimension_rate_limiter_bounds_four :
    (∀ past request later, fourRequests = past ++ request :: later →
      tenantAndActor.ChargesOnce (tenantAndActor.serve [] past) request) ∧
    (∀ past, past <+: fourRequests → tenantAndActor.Bounded (tenantAndActor.serve [] past)) ∧
    (∀ bucket start, ((tenantAndActor.admissions bucket [] fourRequests).filter
      (tenantAndActor.within start)).length ≤ 2 * tenantAndActor.limitOf bucket.1 - 1) ∧
    ∀ bucket past request later, fourRequests = past ++ request :: later →
      tenantAndActor.liveWindow request.now (tenantAndActor.serve [] past) bucket = none →
      ((tenantAndActor.admissions bucket (tenantAndActor.serve [] past) (request :: later)).filter
        (tenantAndActor.within request.now)).length ≤ tenantAndActor.limitOf bucket.1 :=
  dimension_rate_limiter_bounds tenantAndActor fourRequests (by
    simp [InOrder, fourRequests, rateRequest])

end FolioLattice.Limits
