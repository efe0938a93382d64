/-
UTC clock readings with millisecond precision, the text Python prints for them,
and `datetime.fromisoformat`.
-/

import Mathlib.Data.String.Basic
import Mathlib.Tactic.NormNum

namespace FolioLattice.Text

/-! ### The proleptic Gregorian calendar -/

def isLeap (year : Nat) : Bool := year % 4 == 0 && (year % 100 != 0 || year % 400 == 0)

def daysInMonth (year month : Nat) : Nat :=
  if month = 2 then (if isLeap year then 29 else 28)
  else if month = 4 ∨ month = 6 ∨ month = 9 ∨ month = 11 then 30
  else 31

def daysBeforeYear (year : Nat) : Nat :=
  (year - 1) * 365 + (year - 1) / 4 - (year - 1) / 100 + (year - 1) / 400

def validDate (year month day : Nat) : Bool :=
  1 ≤ year && year ≤ 9999 && 1 ≤ month && month ≤ 12 && 1 ≤ day && day ≤ daysInMonth year month

/-- The month and day of the `dayOfYear`-th day, counting months from `month`. -/
def monthDay (year : Nat) : (fuel month dayOfYear : Nat) → Nat × Nat
  | 0, month, dayOfYear => (month, dayOfYear)
  | fuel + 1, month, dayOfYear =>
      if dayOfYear ≤ daysInMonth year month then (month, dayOfYear)
      else monthDay year fuel (month + 1) (dayOfYear - daysInMonth year month)

/-- `_isoweek_to_gregorian`. -/
def isoWeekDate (year week day : Nat) : Option (Nat × Nat × Nat) :=
  let first := daysBeforeYear year + 1
  let weekday := (first + 6) % 7
  let longYear := weekday == 3 || (weekday == 2 && isLeap year)
  if year = 0 ∨ 9999 < year ∨ week = 0 ∨ 53 < week ∨ (week = 53 ∧ !longYear) ∨ day = 0 ∨ 7 < day then
    none
  else
    let monday := if 3 < weekday then first + 7 - weekday else first - weekday
    let ordinal := monday + (week - 1) * 7 + (day - 1)
    let target :=
      if ordinal ≤ daysBeforeYear year then year - 1
      else if ordinal ≤ daysBeforeYear (year + 1) then year
      else year + 1
    let date := monthDay target 11 1 (ordinal - daysBeforeYear target)
    some (target, date.1, date.2)

/-! ### Clock readings -/

/-- A reading of `datetime.now(UTC)` cut to milliseconds. -/
structure Timestamp where
  year : Nat
  month : Nat
  day : Nat
  hour : Nat
  minute : Nat
  second : Nat
  milli : Nat
  date : validDate year month day = true
  hourBound : hour < 24
  minuteBound : minute < 60
  secondBound : second < 60
  milliBound : milli < 1000

/-- The start of Unix time. -/
def Timestamp.epoch : Timestamp where
  year := 1970
  month := 1
  day := 1
  hour := 0
  minute := 0
  second := 0
  milli := 0
  date := by decide
  hourBound := by decide
  minuteBound := by decide
  secondBound := by decide
  milliBound := by decide

def digit (n : Nat) : Char := Char.ofNat (48 + n % 10)

def twoDigits (n : Nat) : List Char := [digit (n / 10), digit n]

def threeDigits (n : Nat) : List Char := [digit (n / 100), digit (n / 10), digit n]

def fourDigits (n : Nat) : List Char :=
  [digit (n / 1000), digit (n / 100), digit (n / 10), digit n]

/-- `isoformat(timespec="milliseconds")` of a UTC reading. -/
def Timestamp.isoChars (t : Timestamp) : List Char :=
  fourDigits t.year ++ '-' :: twoDigits t.month ++ '-' :: twoDigits t.day ++ 'T' ::
    twoDigits t.hour ++ ':' :: twoDigits t.minute ++ ':' :: twoDigits t.second ++ '.' ::
    threeDigits t.milli ++ ['+', '0', '0', ':', '0', '0']

def Timestamp.isoformat (t : Timestamp) : String := String.ofList t.isoChars

def daysBeforeMonth (year month : Nat) : Nat :=
  ((List.range (month - 1)).map (fun m => daysInMonth year (m + 1))).sum

/-- `t + timedelta(days=days)` for at most a year of days; `none` past year 9999. -/
def Timestamp.addDays (t : Timestamp) (days : Nat) : Option Timestamp :=
  let ordinal := daysBeforeYear t.year + daysBeforeMonth t.year t.month + t.day + days
  let year := if ordinal ≤ daysBeforeYear (t.year + 1) then t.year else t.year + 1
  let date := monthDay year 11 1 (ordinal - daysBeforeYear year)
  if valid : validDate year date.1 date.2 = true then
    some { t with year := year, month := date.1, day := date.2, date := valid }
  else none

/-! ### `datetime.fromisoformat` -/

def isDigitChar (c : Char) : Bool := 48 ≤ c.toNat && c.toNat ≤ 57

/-- `int` of a nonempty run of ASCII digits. -/
def parseDigits (text : List Char) : Option Nat :=
  if text.isEmpty || !text.all isDigitChar then none
  else some (text.foldl (fun total c => total * 10 + (c.toNat - 48)) 0)

/-- Where the date ends. -/
def separatorAt (text : List Char) : Option Nat :=
  let at? (index : Nat) := (text[index]?).getD ' '
  if text.length < 7 then none
  else if text.length = 7 then some 7
  else if at? 4 = '-' then
    if at? 5 = 'W' then
      if 8 < text.length ∧ at? 8 = '-' then
        if text.length = 9 then none
        else if 10 < text.length ∧ isDigitChar (at? 10) then some 8
        else some 10
      else some 8
    else some 10
  else if at? 4 = 'W' then
    let index := 7 + ((text.drop 7).takeWhile isDigitChar).length
    if index < 9 then some index
    else if index % 2 = 0 then some 7
    else some 8
  else some 8

/-- `YYYY-MM-DD`, `YYYYMMDD` and the ISO week forms. -/
def parseDate (text : List Char) : Option (Nat × Nat × Nat) := do
  let year ← parseDigits (text.take 4)
  let dashed := (text.drop 4).take 1 = ['-']
  let rest := if dashed then text.drop 5 else text.drop 4
  if rest.take 1 = ['W'] then
    let week ← parseDigits ((rest.drop 1).take 2)
    let tail := rest.drop 3
    if tail.isEmpty then isoWeekDate year week 1
    else if (tail.take 1 = ['-']) ≠ dashed then none
    else
      let day ← parseDigits ((if dashed then tail.drop 1 else tail).take 1)
      isoWeekDate year week day
  else
    let month ← parseDigits (rest.take 2)
    let tail := rest.drop 2
    if (tail.take 1 = ['-']) ≠ dashed then none
    else
      let day ← parseDigits ((if dashed then tail.drop 1 else tail).take 2)
      some (year, month, day)

/-- Microseconds of a fraction: at most six digits count. -/
def parseFraction (text : List Char) : Option Nat := do
  let kept := text.take 6
  let value ← parseDigits kept
  if (text.drop 6).all isDigitChar then some (value * 10 ^ (6 - kept.length)) else none

/-- `HH[:?MM[:?SS[{.,}f+]]]`. -/
def parseClock (text : List Char) : Option (Nat × Nat × Nat × Nat) := do
  let hour ← parseDigits (text.take 2)
  if (text.take 2).length < 2 then none
  else
    let afterHour := text.drop 2
    if afterHour.isEmpty then some (hour, 0, 0, 0)
    else
      let colons := afterHour.take 1 = [':']
      let minuteText := if colons then afterHour.drop 1 else afterHour
      let minute ← parseDigits (minuteText.take 2)
      if (minuteText.take 2).length < 2 then none
      else
        let afterMinute := minuteText.drop 2
        if afterMinute.isEmpty then some (hour, minute, 0, 0)
        else if colons ∧ afterMinute.take 1 ≠ [':'] then none
        else
          let secondText := if colons then afterMinute.drop 1 else afterMinute
          let second ← parseDigits (secondText.take 2)
          if (secondText.take 2).length < 2 then none
          else
            match secondText.drop 2 with
            | [] => some (hour, minute, second, 0)
            | mark :: fraction =>
                if mark = '.' ∨ mark = ',' then
                  let micro ← parseFraction fraction
                  some (hour, minute, second, micro)
                else none

/-- A parsed date and time; the offset from UTC is in microseconds. -/
structure DateTime where
  year : Nat
  month : Nat
  day : Nat
  hour : Nat
  minute : Nat
  second : Nat
  micro : Nat
  offset : Option Int
  deriving DecidableEq

/-- Microseconds since midnight. -/
def DateTime.clock (d : DateTime) : Nat :=
  ((d.hour * 60 + d.minute) * 60 + d.second) * 1000000 + d.micro

def DateTime.ordinal (d : DateTime) : Nat :=
  daysBeforeYear d.year + daysBeforeMonth d.year d.month + d.day

/-- Microseconds at UTC, for comparisons. -/
def DateTime.instant (d : DateTime) (offset : Int) : Int :=
  d.ordinal * 86400000000 + d.clock - offset

/-- `astimezone(UTC)`, cut to milliseconds; `none` is its `OverflowError`. -/
def DateTime.utc (d : DateTime) (offset : Int) : Option Timestamp :=
  let shifted : Int := d.clock - offset
  let day := (d.ordinal + shifted / 86400000000).toNat
  let clock := (shifted % 86400000000).toNat
  let year :=
    if day ≤ daysBeforeYear d.year then d.year - 1
    else if day ≤ daysBeforeYear (d.year + 1) then d.year
    else d.year + 1
  let date := monthDay year 11 1 (day - daysBeforeYear year)
  if valid : validDate year date.1 date.2 = true then
    some {
      year := year
      month := date.1
      day := date.2
      hour := clock / 3600000000 % 24
      minute := clock / 60000000 % 60
      second := clock / 1000000 % 60
      milli := clock / 1000 % 1000
      date := valid
      hourBound := Nat.mod_lt _ (Nat.succ_pos 23)
      minuteBound := Nat.mod_lt _ (Nat.succ_pos 59)
      secondBound := Nat.mod_lt _ (Nat.succ_pos 59)
      milliBound := Nat.mod_lt _ (Nat.succ_pos 999) }
  else none

def isZoneMark (c : Char) : Bool := c == '+' || c == '-' || c == 'Z'

/-- The offset after the clock: none, `Z`, or a signed clock under 24 hours. -/
def parseZone : List Char → Option (Option Int)
  | [] => some none
  | 'Z' :: rest => if rest.isEmpty then some (some 0) else none
  | sign :: rest => do
      let (hour, minute, second, micro) ← parseClock rest
      let size : Nat := ((hour * 60 + minute) * 60 + second) * 1000000 + micro
      if 86400000000 ≤ size then none
      else some (some (if sign = '-' then -(size : Int) else size))

def fromisoformat (text : List Char) : Option DateTime := do
  let split ← separatorAt text
  let (year, month, day) ← parseDate (text.take split)
  if !validDate year month day then none
  else if text.length ≤ split then some ⟨year, month, day, 0, 0, 0, 0, none⟩
  else
    let time := text.drop (split + 1)
    let (hour, minute, second, micro) ← parseClock (time.takeWhile (fun c => !isZoneMark c))
    let offset ← parseZone (time.dropWhile (fun c => !isZoneMark c))
    if 24 ≤ hour ∨ 60 ≤ minute ∨ 60 ≤ second then none
    else some ⟨year, month, day, hour, minute, second, micro, offset⟩

/-! ### What the clock prints is read back -/

theorem digit_toNat (n : Nat) : (digit n).toNat = 48 + n % 10 := by
  have valid : (48 + n % 10).isValidChar := by
    left
    omega
  unfold digit Char.ofNat
  rw [dif_pos valid]
  rfl

theorem isDigitChar_digit (n : Nat) : isDigitChar (digit n) = true := by
  simp only [isDigitChar, digit_toNat, Bool.and_eq_true, decide_eq_true_eq]
  omega

theorem parseDigits_twoDigits (n : Nat) (bound : n < 100) :
    parseDigits (twoDigits n) = some n := by
  simp only [parseDigits, twoDigits, List.isEmpty_cons, List.all_cons, List.all_nil,
    isDigitChar_digit, Bool.and_true, Bool.not_true, Bool.or_false, Bool.false_eq_true,
    if_false, List.foldl_cons, List.foldl_nil, digit_toNat]
  congr 1
  omega

theorem parseDigits_threeDigits (n : Nat) (bound : n < 1000) :
    parseDigits (threeDigits n) = some n := by
  simp only [parseDigits, threeDigits, List.isEmpty_cons, List.all_cons, List.all_nil,
    isDigitChar_digit, Bool.and_true, Bool.not_true, Bool.or_false, Bool.false_eq_true,
    if_false, List.foldl_cons, List.foldl_nil, digit_toNat]
  congr 1
  omega

theorem parseDigits_fourDigits (n : Nat) (bound : n < 10000) :
    parseDigits (fourDigits n) = some n := by
  simp only [parseDigits, fourDigits, List.isEmpty_cons, List.all_cons, List.all_nil,
    isDigitChar_digit, Bool.and_true, Bool.not_true, Bool.or_false, Bool.false_eq_true,
    if_false, List.foldl_cons, List.foldl_nil, digit_toNat]
  congr 1
  omega

theorem digit_ne (n : Nat) {c : Char} (other : isDigitChar c = false) : digit n ≠ c := by
  intro same
  rw [← same, isDigitChar_digit] at other
  cases other

theorem isZoneMark_digit (n : Nat) : isZoneMark (digit n) = false := by
  simp [isZoneMark, digit_ne n (show isDigitChar '+' = false by decide),
    digit_ne n (show isDigitChar '-' = false by decide),
    digit_ne n (show isDigitChar 'Z' = false by decide)]

theorem Timestamp.isoChars_length (t : Timestamp) : t.isoChars.length = 29 := rfl

theorem Timestamp.isoformat_length (t : Timestamp) : t.isoformat.length = 29 := by
  unfold Timestamp.isoformat
  rw [String.length_ofList, Timestamp.isoChars_length]

theorem Timestamp.isoChars_no_bar (t : Timestamp) : ∀ c ∈ t.isoChars, c ≠ '|' := by
  have notBar : ∀ n, '|' ≠ digit n := fun n => (digit_ne n (by decide)).symm
  intro c member same
  subst same
  simp [isoChars, fourDigits, threeDigits, twoDigits, notBar] at member

theorem Timestamp.separatorAt_isoChars (t : Timestamp) : separatorAt t.isoChars = some 10 := by
  have notWeek : digit (t.month / 10) ≠ 'W' := digit_ne _ (by decide)
  simp [separatorAt, isoChars, fourDigits, twoDigits, notWeek]

theorem Timestamp.parseDate_isoChars (t : Timestamp) :
    parseDate (t.isoChars.take 10) = some (t.year, t.month, t.day) := by
  have bounds := t.date
  simp only [validDate, Bool.and_eq_true, decide_eq_true_eq] at bounds
  have dayBound : t.day < 100 := by
    have upper := bounds.2
    unfold daysInMonth at upper
    split at upper <;> (try split at upper) <;> omega
  have notWeek : digit (t.month / 10) ≠ 'W' := digit_ne _ (by decide)
  have yearText := parseDigits_fourDigits t.year (by omega)
  have monthText := parseDigits_twoDigits t.month (by omega)
  have dayText := parseDigits_twoDigits t.day dayBound
  simp only [fourDigits] at yearText
  simp only [twoDigits] at monthText dayText
  simp [parseDate, isoChars, fourDigits, twoDigits, notWeek, yearText, monthText, dayText]

theorem Timestamp.parseClock_isoChars (t : Timestamp) :
    parseClock (twoDigits t.hour ++ ':' :: twoDigits t.minute ++ ':' :: twoDigits t.second ++
      '.' :: threeDigits t.milli) = some (t.hour, t.minute, t.second, t.milli * 1000) := by
  have hourText := parseDigits_twoDigits t.hour (by have := t.hourBound; omega)
  have minuteText := parseDigits_twoDigits t.minute (by have := t.minuteBound; omega)
  have secondText := parseDigits_twoDigits t.second (by have := t.secondBound; omega)
  have milliText := parseDigits_threeDigits t.milli t.milliBound
  simp only [twoDigits] at hourText minuteText secondText
  simp only [threeDigits] at milliText
  simp [parseClock, parseFraction, twoDigits, threeDigits, hourText, minuteText, secondText,
    milliText]

/-- The text of a clock reading parses back to that reading, at offset zero. -/
theorem Timestamp.fromisoformat_isoChars (t : Timestamp) :
    fromisoformat t.isoChars =
      some ⟨t.year, t.month, t.day, t.hour, t.minute, t.second, t.milli * 1000, some 0⟩ := by
  have clockText : (t.isoChars.drop 11).takeWhile (fun c => !isZoneMark c) =
      twoDigits t.hour ++ ':' :: twoDigits t.minute ++ ':' :: twoDigits t.second ++
        '.' :: threeDigits t.milli := by
    simp [isoChars, fourDigits, twoDigits, threeDigits, isZoneMark_digit,
      show isZoneMark ':' = false by decide, show isZoneMark '.' = false by decide,
      show isZoneMark '+' = true by decide]
  have zoneText : (t.isoChars.drop 11).dropWhile (fun c => !isZoneMark c) =
      ['+', '0', '0', ':', '0', '0'] := by
    simp [isoChars, fourDigits, twoDigits, threeDigits, isZoneMark_digit,
      show isZoneMark ':' = false by decide, show isZoneMark '.' = false by decide,
      show isZoneMark '+' = true by decide]
  have zone : parseZone ['+', '0', '0', ':', '0', '0'] = some (some 0) := by
    decide
  have hourBound := t.hourBound
  have minuteBound := t.minuteBound
  have secondBound := t.secondBound
  have inRange : ¬(24 ≤ t.hour ∨ 60 ≤ t.minute ∨ 60 ≤ t.second) := by
    omega
  simp only [fromisoformat, t.separatorAt_isoChars, t.parseDate_isoChars, t.date, clockText,
    zoneText, t.parseClock_isoChars, zone, t.isoChars_length, inRange, Option.bind_eq_bind,
    Option.bind_some, Bool.not_true, Bool.false_eq_true, if_false, Nat.reduceLeDiff]

end FolioLattice.Text
