/-
The order of clock readings: their texts are ordered as their instants are, and
`astimezone(UTC)` keeps the instant up to the millisecond.
-/

import FolioLattice.Text.Timestamp
import Mathlib.Data.Nat.Basic
import Mathlib.Order.Basic

namespace FolioLattice.Text

/-! ### Years and months -/

def yearLength (year : Nat) : Nat := if isLeap year then 366 else 365

theorem isLeap_iff (year : Nat) :
    isLeap year = true ↔ 4 ∣ year ∧ (¬100 ∣ year ∨ 400 ∣ year) := by
  unfold isLeap
  simp only [Bool.and_eq_true, Bool.or_eq_true, beq_iff_eq, bne_iff_ne, ne_eq,
    Nat.dvd_iff_mod_eq_zero]

theorem daysBeforeYear_succ {year : Nat} (positive : 1 ≤ year) :
    daysBeforeYear (year + 1) = daysBeforeYear year + yearLength year := by
  obtain ⟨n, rfl⟩ : ∃ n, year = n + 1 := ⟨year - 1, by omega⟩
  have fewer : n / 100 ≤ n / 4 := Nat.div_le_div_left (by decide) (by decide)
  have centuries : 100 ∣ n + 1 → 4 ∣ n + 1 := fun divides => Dvd.dvd.trans (by decide) divides
  have quarters : 400 ∣ n + 1 → 100 ∣ n + 1 := fun divides => Dvd.dvd.trans (by decide) divides
  have leap := isLeap_iff (n + 1)
  unfold daysBeforeYear yearLength
  rw [Nat.add_sub_cancel, Nat.add_sub_cancel, Nat.succ_div, Nat.succ_div, Nat.succ_div]
  by_cases four : 4 ∣ n + 1
  · by_cases hundred : 100 ∣ n + 1
    · by_cases fourHundred : 400 ∣ n + 1
      · rw [if_pos four, if_pos hundred, if_pos fourHundred, if_pos (leap.mpr ⟨four, Or.inr fourHundred⟩)]
        omega
      · have common : ¬isLeap (n + 1) = true := by
          rw [leap]
          exact fun holds => holds.2.elim (fun not => not hundred) fourHundred
        rw [if_pos four, if_pos hundred, if_neg fourHundred, if_neg common]
        omega
    · rw [if_pos four, if_neg hundred, if_neg (fun divides => hundred (quarters divides)),
        if_pos (leap.mpr ⟨four, Or.inl hundred⟩)]
      omega
  · have common : ¬isLeap (n + 1) = true := by
      rw [leap]
      exact fun holds => four holds.1
    have noCentury : ¬100 ∣ n + 1 := fun divides => four (centuries divides)
    rw [if_neg four, if_neg noCentury, if_neg (fun divides => noCentury (quarters divides)),
      if_neg common]
    omega

theorem daysBeforeYear_mono {a b : Nat} (le : a ≤ b) : daysBeforeYear a ≤ daysBeforeYear b := by
  induction b, le using Nat.le_induction with
  | base => exact Nat.le_refl _
  | succ b _ ih =>
      cases b with
      | zero => exact ih
      | succ b =>
          have next : daysBeforeYear (b + 1 + 1) = daysBeforeYear (b + 1) + yearLength (b + 1) :=
            daysBeforeYear_succ (Nat.succ_pos b)
          omega

theorem yearLength_bounds (year : Nat) : 365 ≤ yearLength year ∧ yearLength year ≤ 366 := by
  unfold yearLength
  split <;> omega

theorem daysInMonth_bounds (year month : Nat) :
    28 ≤ daysInMonth year month ∧ daysInMonth year month ≤ 31 := by
  unfold daysInMonth
  split
  · split <;> omega
  · split <;> omega

theorem daysBeforeMonth_succ (year : Nat) {month : Nat} (positive : 1 ≤ month) :
    daysBeforeMonth year (month + 1) = daysBeforeMonth year month + daysInMonth year month := by
  obtain ⟨m, rfl⟩ : ∃ m, month = m + 1 := ⟨month - 1, by omega⟩
  unfold daysBeforeMonth
  rw [Nat.add_sub_cancel, Nat.add_sub_cancel, List.range_succ, List.map_append, List.sum_append]
  rfl

theorem daysBeforeMonth_mono (year : Nat) {a b : Nat} (positive : 1 ≤ a) (le : a ≤ b) :
    daysBeforeMonth year a ≤ daysBeforeMonth year b := by
  induction b, le using Nat.le_induction with
  | base => exact Nat.le_refl _
  | succ b le ih =>
      rw [daysBeforeMonth_succ year (positive.trans le)]
      omega

theorem daysBeforeMonth_december (year : Nat) :
    daysBeforeMonth year 12 + 31 = yearLength year := by
  unfold daysBeforeMonth yearLength
  cases leap : isLeap year with
  | false => simp [List.range_succ, daysInMonth, leap]
  | true => simp [List.range_succ, daysInMonth, leap]

/-- The month and day that `monthDay` finds make up the days that it was given. -/
theorem monthDay_spec (year fuel month days : Nat) (positive : 1 ≤ month) (some : 1 ≤ days) :
    month ≤ (monthDay year fuel month days).1 ∧
      (monthDay year fuel month days).1 ≤ month + fuel ∧ 1 ≤ (monthDay year fuel month days).2 ∧
      daysBeforeMonth year (monthDay year fuel month days).1 + (monthDay year fuel month days).2 =
        daysBeforeMonth year month + days ∧
      ((monthDay year fuel month days).1 < month + fuel →
        (monthDay year fuel month days).2 ≤ daysInMonth year (monthDay year fuel month days).1) := by
  induction fuel generalizing month days with
  | zero =>
      rw [monthDay]
      exact ⟨Nat.le_refl _, Nat.le_refl _, some, rfl, fun less => absurd less (Nat.lt_irrefl _)⟩
  | succ fuel ih =>
      rw [monthDay]
      split
      · rename_i fits
        exact ⟨Nat.le_refl _, Nat.le_add_right _ _, some, rfl, fun _ => fits⟩
      · obtain ⟨lower, upper, positive', whole, within⟩ :=
          ih (month + 1) (days - daysInMonth year month) (by omega) (by omega)
        rw [daysBeforeMonth_succ year positive] at whole
        exact ⟨by omega, by omega, positive', by omega, fun less => within (by omega)⟩

/-- A day of the year is found with its month. -/
theorem monthDay_valid {year days : Nat} (yearBound : 1 ≤ year ∧ year ≤ 9999)
    (some : 1 ≤ days) (within : days ≤ yearLength year) :
    validDate year (monthDay year 11 1 days).1 (monthDay year 11 1 days).2 = true ∧
      daysBeforeMonth year (monthDay year 11 1 days).1 + (monthDay year 11 1 days).2 = days := by
  obtain ⟨lower, upper, positive, whole, fits⟩ := monthDay_spec year 11 1 days (Nat.le_refl _) some
  have first : daysBeforeMonth year 1 = 0 := rfl
  have december := daysBeforeMonth_december year
  rw [first, Nat.zero_add] at whole
  refine ⟨?_, whole⟩
  have dayBound : (monthDay year 11 1 days).2 ≤ daysInMonth year (monthDay year 11 1 days).1 := by
    by_cases last : (monthDay year 11 1 days).1 = 12
    · have long : daysInMonth year 12 = 31 := by
        unfold daysInMonth
        simp
      rw [last] at whole ⊢
      omega
    · exact fits (by omega)
  unfold validDate
  simp only [Bool.and_eq_true, decide_eq_true_eq]
  omega

/-! ### Instants -/

/-- A date and time that the calendar has. -/
structure DateTime.InRange (d : DateTime) : Prop where
  date : validDate d.year d.month d.day = true
  hour : d.hour < 24
  minute : d.minute < 60
  second : d.second < 60
  micro : d.micro < 1000000

def Timestamp.dateTime (t : Timestamp) : DateTime :=
  ⟨t.year, t.month, t.day, t.hour, t.minute, t.second, t.milli * 1000, some 0⟩

/-- Microseconds at UTC. -/
def Timestamp.instant (t : Timestamp) : Int := t.dateTime.instant 0

theorem Timestamp.inRange (t : Timestamp) : t.dateTime.InRange where
  date := t.date
  hour := t.hourBound
  minute := t.minuteBound
  second := t.secondBound
  micro := by
    have bound := t.milliBound
    unfold Timestamp.dateTime
    dsimp only
    omega

theorem DateTime.InRange.bounds {d : DateTime} (inRange : d.InRange) :
    (1 ≤ d.year ∧ d.year ≤ 9999) ∧ (1 ≤ d.month ∧ d.month ≤ 12) ∧
      1 ≤ d.day ∧ d.day ≤ daysInMonth d.year d.month := by
  have date := inRange.date
  unfold validDate at date
  simp only [Bool.and_eq_true, decide_eq_true_eq] at date
  omega

/-- A day stands within its month. -/
theorem DateTime.InRange.dayOfYear {d : DateTime} (inRange : d.InRange) :
    daysBeforeMonth d.year d.month + d.day ≤ daysBeforeMonth d.year (d.month + 1) ∧
      daysBeforeMonth d.year (d.month + 1) ≤ yearLength d.year := by
  obtain ⟨_, ⟨monthPos, monthBound⟩, _, dayBound⟩ := inRange.bounds
  have next := daysBeforeMonth_succ d.year monthPos
  have december : daysBeforeMonth d.year 13 = daysBeforeMonth d.year 12 + daysInMonth d.year 12 :=
    daysBeforeMonth_succ d.year (by decide)
  have whole := daysBeforeMonth_december d.year
  have later := daysBeforeMonth_mono d.year (Nat.succ_pos d.month) (Nat.succ_le_succ monthBound)
  have long : daysInMonth d.year 12 = 31 := by
    unfold daysInMonth
    simp
  change daysBeforeMonth d.year (d.month + 1) ≤ daysBeforeMonth d.year 13 at later
  omega

theorem DateTime.InRange.clock_lt {d : DateTime} (inRange : d.InRange) : d.clock < 86400000000 := by
  obtain ⟨_, hour, minute, second, micro⟩ := inRange
  unfold DateTime.clock
  omega

theorem DateTime.InRange.ordinal_bounds {d : DateTime} (inRange : d.InRange) :
    daysBeforeYear d.year < d.ordinal ∧ d.ordinal ≤ daysBeforeYear (d.year + 1) := by
  obtain ⟨⟨yearPos, _⟩, _, dayPos, _⟩ := inRange.bounds
  have whole := inRange.dayOfYear
  rw [daysBeforeYear_succ yearPos]
  unfold DateTime.ordinal
  omega

/-! ### The order of texts -/

/-- The first field that differs is smaller. -/
def Timestamp.Before (t u : Timestamp) : Prop :=
  t.year < u.year ∨ t.year = u.year ∧ (t.month < u.month ∨ t.month = u.month ∧
    (t.day < u.day ∨ t.day = u.day ∧ (t.hour < u.hour ∨ t.hour = u.hour ∧
      (t.minute < u.minute ∨ t.minute = u.minute ∧ (t.second < u.second ∨ t.second = u.second ∧
        t.milli < u.milli)))))

theorem digit_lt_iff (m n : Nat) : digit m < digit n ↔ m % 10 < n % 10 := by
  rw [Char.lt_def, UInt32.lt_iff_toNat_lt]
  change (digit m).toNat < (digit n).toNat ↔ _
  rw [digit_toNat, digit_toNat]
  omega

theorem digit_eq_iff (m n : Nat) : digit m = digit n ↔ m % 10 = n % 10 := by
  constructor
  · intro same
    have values := congrArg Char.toNat same
    rw [digit_toNat, digit_toNat] at values
    omega
  · intro same
    unfold digit
    rw [same]

theorem twoDigits_mod_lt_iff (m n : Nat) (rest rest' : List Char) :
    twoDigits m ++ rest < twoDigits n ++ rest' ↔
      m % 100 < n % 100 ∨ m % 100 = n % 100 ∧ rest < rest' := by
  unfold twoDigits
  simp only [List.cons_append, List.nil_append, List.cons_lt_cons_iff, digit_lt_iff, digit_eq_iff]
  by_cases less : rest < rest'
  · simp only [less, and_true]
    omega
  · simp only [less, and_false, or_false]
    omega

theorem twoDigits_lt_iff {m n : Nat} (mBound : m < 100) (nBound : n < 100) (rest rest' : List Char) :
    twoDigits m ++ rest < twoDigits n ++ rest' ↔ m < n ∨ m = n ∧ rest < rest' := by
  rw [twoDigits_mod_lt_iff, Nat.mod_eq_of_lt mBound, Nat.mod_eq_of_lt nBound]

theorem threeDigits_lt_iff {m n : Nat} (mBound : m < 1000) (nBound : n < 1000)
    (rest rest' : List Char) :
    threeDigits m ++ rest < threeDigits n ++ rest' ↔ m < n ∨ m = n ∧ rest < rest' := by
  unfold threeDigits
  simp only [List.cons_append, List.nil_append, List.cons_lt_cons_iff, digit_lt_iff, digit_eq_iff]
  by_cases less : rest < rest'
  · simp only [less, and_true]
    omega
  · simp only [less, and_false, or_false]
    omega

theorem fourDigits_eq (n : Nat) : fourDigits n = twoDigits (n / 100) ++ twoDigits n := by
  unfold fourDigits twoDigits
  rw [Nat.div_div_eq_div_mul]
  rfl

theorem fourDigits_lt_iff {m n : Nat} (mBound : m < 10000) (nBound : n < 10000)
    (rest rest' : List Char) :
    fourDigits m ++ rest < fourDigits n ++ rest' ↔ m < n ∨ m = n ∧ rest < rest' := by
  rw [fourDigits_eq, fourDigits_eq, List.append_assoc, List.append_assoc,
    twoDigits_lt_iff (by omega) (by omega), twoDigits_mod_lt_iff]
  by_cases less : rest < rest'
  · simp only [less, and_true]
    omega
  · simp only [less, and_false, or_false]
    omega

theorem mark_lt_iff (c : Char) (rest rest' : List Char) :
    c :: rest < c :: rest' ↔ rest < rest' := by
  rw [List.cons_lt_cons_iff]
  simp only [lt_irrefl, true_and, false_or]

theorem Timestamp.isoChars_lt_iff (t u : Timestamp) : t.isoChars < u.isoChars ↔ t.Before u := by
  have dayBounds : ∀ t : Timestamp, t.year < 10000 ∧ t.month < 100 ∧ t.day < 100 := by
    intro t
    obtain ⟨⟨_, year⟩, ⟨_, month⟩, _, day⟩ := t.inRange.bounds
    have most := (daysInMonth_bounds t.dateTime.year t.dateTime.month).2
    unfold Timestamp.dateTime at year month day most
    dsimp only at year month day most
    omega
  obtain ⟨tYear, tMonth, tDay⟩ := dayBounds t
  obtain ⟨uYear, uMonth, uDay⟩ := dayBounds u
  have tHour := t.hourBound
  have uHour := u.hourBound
  have tMinute := t.minuteBound
  have uMinute := u.minuteBound
  have tSecond := t.secondBound
  have uSecond := u.secondBound
  unfold Timestamp.isoChars Timestamp.Before
  simp only [List.append_assoc, List.cons_append]
  rw [fourDigits_lt_iff tYear uYear, mark_lt_iff, twoDigits_lt_iff tMonth uMonth, mark_lt_iff,
    twoDigits_lt_iff tDay uDay, mark_lt_iff, twoDigits_lt_iff (by omega) (by omega), mark_lt_iff,
    twoDigits_lt_iff (by omega) (by omega), mark_lt_iff, twoDigits_lt_iff (by omega) (by omega),
    mark_lt_iff, threeDigits_lt_iff t.milliBound u.milliBound]
  simp only [List.lt_irrefl, and_false, or_false]

/-! ### The order of instants -/

theorem Timestamp.instant_lt_of_before {t u : Timestamp} (before : t.Before u) :
    t.instant < u.instant := by
  have tDay := t.inRange.ordinal_bounds
  have uDay := u.inRange.ordinal_bounds
  have tClock := t.inRange.clock_lt
  have uClock := u.inRange.clock_lt
  have ordinal : t.dateTime.ordinal < u.dateTime.ordinal → t.instant < u.instant := by
    intro less
    unfold Timestamp.instant DateTime.instant
    omega
  have days : ∀ t : Timestamp, t.dateTime.ordinal =
      daysBeforeYear t.year + daysBeforeMonth t.year t.month + t.day := fun _ => rfl
  rcases before with year | ⟨sameYear, month | ⟨sameMonth, day | ⟨sameDay, clock⟩⟩⟩
  · have later : daysBeforeYear (t.year + 1) ≤ daysBeforeYear u.year := daysBeforeYear_mono year
    exact ordinal (Nat.lt_of_le_of_lt (tDay.2.trans later) uDay.1)
  · have whole : daysBeforeMonth t.year t.month + t.day ≤ daysBeforeMonth t.year (t.month + 1) :=
      t.inRange.dayOfYear.1
    have later : daysBeforeMonth t.year (t.month + 1) ≤ daysBeforeMonth t.year u.month :=
      daysBeforeMonth_mono t.year (Nat.succ_pos _) month
    have positive : 1 ≤ u.day := u.inRange.bounds.2.2.1
    apply ordinal
    rw [days, days, ← sameYear]
    omega
  · apply ordinal
    rw [days, days, ← sameYear, ← sameMonth]
    omega
  · have same : t.dateTime.ordinal = u.dateTime.ordinal := by
      rw [days, days, sameYear, sameMonth, sameDay]
    have less : t.dateTime.clock < u.dateTime.clock := by
      have tMinute := t.minuteBound
      have tSecond := t.secondBound
      have tMilli := t.milliBound
      unfold DateTime.clock Timestamp.dateTime
      dsimp only
      omega
    unfold Timestamp.instant DateTime.instant
    rw [same]
    omega

theorem Timestamp.before_or_eq (t u : Timestamp) : t.Before u ∨ t = u ∨ u.Before t := by
  by_cases before : t.Before u
  · exact Or.inl before
  · by_cases after : u.Before t
    · exact Or.inr (Or.inr after)
    · right
      left
      have same : t.year = u.year ∧ t.month = u.month ∧ t.day = u.day ∧ t.hour = u.hour ∧
          t.minute = u.minute ∧ t.second = u.second ∧ t.milli = u.milli := by
        unfold Timestamp.Before at before after
        omega
      cases t
      cases u
      obtain ⟨rfl, rfl, rfl, rfl, rfl, rfl, rfl⟩ := same
      rfl

theorem Timestamp.before_iff (t u : Timestamp) : t.Before u ↔ t.instant < u.instant := by
  refine ⟨instant_lt_of_before, ?_⟩
  intro less
  rcases t.before_or_eq u with before | same | after
  · exact before
  · rw [same] at less
    exact absurd less (lt_irrefl _)
  · exact absurd (less.trans (instant_lt_of_before after)) (lt_irrefl _)

/-- Readings are ordered as their texts are. -/
theorem Timestamp.isoformat_lt_iff (t u : Timestamp) :
    t.isoformat < u.isoformat ↔ t.instant < u.instant := by
  unfold Timestamp.isoformat
  rw [String.lt_iff_toList_lt, String.toList_ofList, String.toList_ofList, isoChars_lt_iff,
    before_iff]

theorem Timestamp.isoformat_le_iff (t u : Timestamp) :
    t.isoformat ≤ u.isoformat ↔ t.instant ≤ u.instant := by
  rw [← not_lt, ← not_lt, isoformat_lt_iff]

/-! ### What is parsed -/

theorem foldl_digits_lt (text : List Char) (total : Nat) (digits : text.all isDigitChar = true) :
    text.foldl (fun total c => total * 10 + (c.toNat - 48)) total <
      (total + 1) * 10 ^ text.length := by
  induction text generalizing total with
  | nil => simp
  | cons c rest ih =>
      rw [List.all_cons, Bool.and_eq_true] at digits
      have small := digits.1
      unfold isDigitChar at small
      simp only [Bool.and_eq_true, decide_eq_true_eq] at small
      have later := ih (total * 10 + (c.toNat - 48)) digits.2
      have grows : (total * 10 + (c.toNat - 48) + 1) * 10 ^ rest.length ≤
          ((total + 1) * 10) * 10 ^ rest.length :=
        Nat.mul_le_mul_right _ (by omega)
      rw [List.foldl_cons, List.length_cons, Nat.pow_succ', ← Nat.mul_assoc]
      exact Nat.lt_of_lt_of_le later grows

theorem parseDigits_lt {text : List Char} {n : Nat} (parsed : parseDigits text = some n) :
    n < 10 ^ text.length := by
  unfold parseDigits at parsed
  split at parsed
  · cases parsed
  · rename_i digits
    simp only [Bool.or_eq_true, Bool.not_eq_true', not_or, Bool.not_eq_false] at digits
    have bound := foldl_digits_lt text 0 digits.2
    rw [Nat.zero_add, Nat.one_mul] at bound
    rw [← Option.some.inj parsed]
    exact bound

theorem parseFraction_lt {text : List Char} {n : Nat} (parsed : parseFraction text = some n) :
    n < 1000000 := by
  obtain ⟨value, isValue, parsed⟩ := Option.bind_eq_some_iff.mp parsed
  have bound := parseDigits_lt isValue
  have short : (text.take 6).length ≤ 6 := List.length_take_le _ _
  split at parsed
  · rw [← Option.some.inj parsed]
    have whole : 10 ^ (text.take 6).length * 10 ^ (6 - (text.take 6).length) = 1000000 := by
      rw [← Nat.pow_add, Nat.add_sub_cancel' short]
    rw [← whole]
    exact Nat.mul_lt_mul_of_pos_right bound (Nat.pow_pos (by decide))
  · cases parsed

theorem parseClock_micro {text : List Char} {hour minute second micro : Nat}
    (parsed : parseClock text = some (hour, minute, second, micro)) : micro < 1000000 := by
  obtain ⟨_, _, parsed⟩ := Option.bind_eq_some_iff.mp parsed
  split at parsed
  · cases parsed
  · dsimp only at parsed
    split at parsed
    · cases parsed
      decide
    · generalize (if (text.drop 2).take 1 = [':'] then (text.drop 2).drop 1 else text.drop 2) =
        minuteText at parsed
      obtain ⟨_, _, parsed⟩ := Option.bind_eq_some_iff.mp parsed
      split at parsed
      · cases parsed
      · split at parsed
        · cases parsed
          decide
        · split at parsed
          · cases parsed
          · generalize (if (text.drop 2).take 1 = [':'] then (minuteText.drop 2).drop 1
              else minuteText.drop 2) = secondText at parsed
            obtain ⟨_, _, parsed⟩ := Option.bind_eq_some_iff.mp parsed
            split at parsed
            · cases parsed
            · split at parsed
              · cases parsed
                decide
              · split at parsed
                · obtain ⟨_, fraction, parsed⟩ := Option.bind_eq_some_iff.mp parsed
                  cases parsed
                  exact parseFraction_lt fraction
                · cases parsed

/-- Offsets are less than a day. -/
theorem parseZone_bounds {text : List Char} {offset : Int}
    (parsed : parseZone text = some (some offset)) :
    -86400000000 < offset ∧ offset < 86400000000 := by
  unfold parseZone at parsed
  split at parsed
  · cases parsed
  · split at parsed
    · cases parsed
      decide
    · cases parsed
  · obtain ⟨⟨hour, minute, second, micro⟩, _, parsed⟩ := Option.bind_eq_some_iff.mp parsed
    dsimp only at parsed
    split at parsed
    · cases parsed
    · rename_i small
      split at parsed
      · cases parsed
        omega
      · cases parsed
        omega

theorem fromisoformat_inRange {text : List Char} {d : DateTime}
    (parsed : fromisoformat text = some d) :
    d.InRange ∧ ∀ offset, d.offset = some offset →
      -86400000000 < offset ∧ offset < 86400000000 := by
  obtain ⟨split', _, parsed⟩ := Option.bind_eq_some_iff.mp parsed
  obtain ⟨⟨year, month, day⟩, _, parsed⟩ := Option.bind_eq_some_iff.mp parsed
  dsimp only at parsed
  split at parsed
  · cases parsed
  · rename_i date
    rw [Bool.not_eq_true', Bool.not_eq_false] at date
    split at parsed
    · cases parsed
      refine ⟨⟨date, Nat.succ_pos 23, Nat.succ_pos 59, Nat.succ_pos 59, Nat.succ_pos 999999⟩, ?_⟩
      intro offset absent
      cases absent
    · obtain ⟨⟨hour, minute, second, micro⟩, clock, parsed⟩ := Option.bind_eq_some_iff.mp parsed
      obtain ⟨offset, zone, parsed⟩ := Option.bind_eq_some_iff.mp parsed
      dsimp only at parsed
      split at parsed
      · cases parsed
      · rename_i small
        obtain ⟨hourBound, minuteBound, secondBound⟩ : hour < 24 ∧ minute < 60 ∧ second < 60 := by
          omega
        cases parsed
        refine ⟨⟨date, hourBound, minuteBound, secondBound, parseClock_micro clock⟩, ?_⟩
        intro size same
        dsimp only at same
        rw [same] at zone
        exact parseZone_bounds zone

/-! ### `astimezone(UTC)` -/

def yearAt (year day : Nat) : Nat :=
  if day ≤ daysBeforeYear year then year - 1
  else if day ≤ daysBeforeYear (year + 1) then year
  else year + 1

/-- The reading on the `day`-th day of the calendar, so many microseconds after midnight. -/
def readingAt (year day clock : Nat) : Option Timestamp :=
  let date := monthDay year 11 1 (day - daysBeforeYear year)
  if valid : validDate year date.1 date.2 = true then
    some {
      year := year
      month := date.1
      day := date.2
      hour := clock / 3600000000 % 24
      minute := clock / 60000000 % 60
      second := clock / 1000000 % 60
      milli := clock / 1000 % 1000
      date := valid
      hourBound := Nat.mod_lt _ (Nat.succ_pos 23)
      minuteBound := Nat.mod_lt _ (Nat.succ_pos 59)
      secondBound := Nat.mod_lt _ (Nat.succ_pos 59)
      milliBound := Nat.mod_lt _ (Nat.succ_pos 999) }
  else none

theorem DateTime.utc_eq (d : DateTime) (offset : Int) :
    d.utc offset =
      readingAt (yearAt d.year (d.ordinal + (d.clock - offset) / 86400000000).toNat)
        (d.ordinal + (d.clock - offset) / 86400000000).toNat
        ((d.clock - offset) % 86400000000).toNat := rfl

theorem clock_parts {clock : Nat} (bound : clock < 86400000000) :
    ((clock / 3600000000 % 24 * 60 + clock / 60000000 % 60) * 60 + clock / 1000000 % 60) * 1000000 +
      clock / 1000 % 1000 * 1000 = clock / 1000 * 1000 := by
  have seconds : clock / 1000 / 1000 = clock / 1000000 := Nat.div_div_eq_div_mul clock 1000 1000
  have minutes : clock / 1000000 / 60 = clock / 60000000 := Nat.div_div_eq_div_mul clock 1000000 60
  have hours : clock / 60000000 / 60 = clock / 3600000000 :=
    Nat.div_div_eq_div_mul clock 60000000 60
  omega

theorem readingAt_some {year day clock : Nat} (yearBound : 1 ≤ year ∧ year ≤ 9999)
    (after : daysBeforeYear year < day) (within : day ≤ daysBeforeYear (year + 1))
    (bound : clock < 86400000000) :
    ∃ t, readingAt year day clock = some t ∧
      t.instant = (day * 86400000000 + clock / 1000 * 1000 : Nat) := by
  rw [daysBeforeYear_succ yearBound.1] at within
  obtain ⟨valid, whole⟩ := monthDay_valid yearBound
    (show 1 ≤ day - daysBeforeYear year by omega) (by omega)
  have parts := clock_parts bound
  unfold readingAt
  refine ⟨_, dif_pos valid, ?_⟩
  unfold Timestamp.instant Timestamp.dateTime DateTime.instant DateTime.ordinal DateTime.clock
  dsimp only
  omega

theorem readingAt_none {year : Nat} (out : year = 0 ∨ year = 10000) (day clock : Nat) :
    readingAt year day clock = none := by
  have invalid : ∀ month day : Nat, ¬validDate year month day = true := by
    intro month day valid
    unfold validDate at valid
    simp only [Bool.and_eq_true, decide_eq_true_eq] at valid
    omega
  exact dif_neg (invalid _ _)

/-- The instants that UTC has dates for. -/
def Representable (instant : Int) : Prop := 86400000000 ≤ instant ∧ instant < 315537984000000000

instance (instant : Int) : Decidable (Representable instant) :=
  inferInstanceAs (Decidable (_ ∧ _))

theorem Timestamp.instant_millis (t : Timestamp) : t.instant % 1000 = 0 := by
  unfold Timestamp.instant DateTime.instant DateTime.clock Timestamp.dateTime
  dsimp only
  omega

theorem Timestamp.instant_representable (t : Timestamp) : Representable t.instant := by
  have first : daysBeforeYear 1 = 0 := by decide
  have last : daysBeforeYear 10000 = 3652059 := by decide
  obtain ⟨positive, most⟩ := t.inRange.bounds.1
  have early : daysBeforeYear 1 ≤ daysBeforeYear t.dateTime.year := daysBeforeYear_mono positive
  have late : daysBeforeYear (t.dateTime.year + 1) ≤ daysBeforeYear 10000 :=
    daysBeforeYear_mono (Nat.succ_le_succ most)
  have day := t.inRange.ordinal_bounds
  have clock := t.inRange.clock_lt
  unfold Representable Timestamp.instant DateTime.instant
  omega

def Timestamp.last : Timestamp where
  year := 9999
  month := 12
  day := 31
  hour := 23
  minute := 59
  second := 59
  milli := 999
  date := by decide
  hourBound := by decide
  minuteBound := by decide
  secondBound := by decide
  milliBound := by decide

theorem Timestamp.last_instant : Timestamp.last.instant = 315537983999999000 := by
  decide

theorem Timestamp.instant_le_last (t : Timestamp) : t.instant ≤ Timestamp.last.instant := by
  have within := t.instant_representable
  have millis := t.instant_millis
  rw [last_instant]
  unfold Representable at within
  omega

/-- The instant stays, up to the millisecond, where UTC has a date for it. -/
theorem DateTime.InRange.utc {d : DateTime} (inRange : d.InRange) {offset : Int}
    (small : -86400000000 < offset ∧ offset < 86400000000) :
    (d.utc offset = none ∧ ¬Representable (d.instant offset)) ∨
      ∃ t, d.utc offset = some t ∧ Representable (d.instant offset) ∧
        t.instant ≤ d.instant offset ∧ d.instant offset < t.instant + 1000 := by
  obtain ⟨yearPos, yearBound⟩ := inRange.bounds.1
  obtain ⟨after, within⟩ := inRange.ordinal_bounds
  have clockBound := inRange.clock_lt
  have first : daysBeforeYear 1 = 0 := by decide
  have last : daysBeforeYear 10000 = 3652059 := by decide
  obtain ⟨day, isDay⟩ : ∃ day : Nat, (day : Int) = d.ordinal + (d.clock - offset) / 86400000000 :=
    ⟨(d.ordinal + (d.clock - offset) / 86400000000).toNat, by omega⟩
  obtain ⟨clock, isClock⟩ : ∃ clock : Nat, (clock : Int) = (d.clock - offset) % 86400000000 :=
    ⟨((d.clock - offset) % 86400000000).toNat, by omega⟩
  have bound : clock < 86400000000 := by omega
  have instant : d.instant offset = (day * 86400000000 + clock : Nat) := by
    unfold DateTime.instant
    omega
  rw [DateTime.utc_eq, ← isDay, ← isClock, Int.toNat_natCast, Int.toNat_natCast, instant]
  -- The day moves by one at most, so it stands in this year or in one beside it.
  obtain ⟨year, isYear, place⟩ : ∃ year, yearAt d.year day = year ∧
      ((year = 0 ∧ day = 0) ∨ (year = 10000 ∧ 3652059 < day) ∨
        (1 ≤ year ∧ year ≤ 9999) ∧ daysBeforeYear year < day ∧ day ≤ daysBeforeYear (year + 1)) := by
    unfold yearAt
    refine ⟨_, rfl, ?_⟩
    split
    · rename_i before
      by_cases isFirst : d.year = 1
      · left
        rw [isFirst] at before ⊢
        omega
      · right
        right
        have previous : daysBeforeYear (d.year - 1 + 1) =
            daysBeforeYear (d.year - 1) + yearLength (d.year - 1) :=
          daysBeforeYear_succ (by omega)
        have long := (yearLength_bounds (d.year - 1)).1
        rw [Nat.sub_add_cancel yearPos] at previous ⊢
        omega
    · split
      · rename_i here
        right
        right
        omega
      · by_cases isLast : d.year = 9999
        · right
          left
          have whole : daysBeforeYear (d.year + 1) = 3652059 := by
            rw [isLast]
            exact last
          omega
        · right
          right
          have next : daysBeforeYear (d.year + 1 + 1) =
              daysBeforeYear (d.year + 1) + yearLength (d.year + 1) :=
            daysBeforeYear_succ (by omega)
          have long := (yearLength_bounds (d.year + 1)).1
          omega
  rw [isYear]
  rcases place with ⟨zero, isZero⟩ | ⟨many, late⟩ | ⟨known, afterYear, withinYear⟩
  · left
    refine ⟨readingAt_none (Or.inl zero) day clock, ?_⟩
    unfold Representable
    omega
  · left
    refine ⟨readingAt_none (Or.inr many) day clock, ?_⟩
    unfold Representable
    omega
  · right
    obtain ⟨t, isReading, atInstant⟩ := readingAt_some known afterYear withinYear bound
    have early : daysBeforeYear (year + 1) ≤ daysBeforeYear 10000 :=
      daysBeforeYear_mono (Nat.succ_le_succ known.2)
    refine ⟨t, isReading, ?_, ?_, ?_⟩
    · unfold Representable
      omega
    · omega
    · omega

end FolioLattice.Text
