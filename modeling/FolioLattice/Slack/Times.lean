/-
The times of Slack requests and messages: a text in any offset is read as an instant, and
what is written for it is read back as the same instant.
-/

import FolioLattice.Audit.Trail
import FolioLattice.BackupOps.Monitor
import FolioLattice.Text.Calendar

namespace FolioLattice.BackupOps

open FolioLattice.Text FolioLattice.Data

/-! ### UTC readings -/

def UtcTime.dateTime (t : UtcTime) : DateTime :=
  ⟨t.stamp.year, t.stamp.month, t.stamp.day, t.stamp.hour, t.stamp.minute, t.stamp.second,
    t.stamp.milli * 1000 + t.micro, some 0⟩

theorem UtcTime.dateTime_instant (t : UtcTime) : t.dateTime.instant 0 = t.micros := by
  unfold UtcTime.dateTime DateTime.instant DateTime.ordinal DateTime.clock UtcTime.micros
  dsimp only
  omega

theorem UtcTime.micros_stamp (t : UtcTime) : t.micros = t.stamp.instant + t.micro := by
  rw [← t.dateTime_instant]
  unfold UtcTime.dateTime Timestamp.instant Timestamp.dateTime DateTime.instant DateTime.ordinal
    DateTime.clock
  dsimp only
  omega

/-- `astimezone(UTC)` keeps the instant. -/
theorem astimezone_micros {d : DateTime} {offset : Int} {t : UtcTime} (inRange : d.InRange)
    (small : -86400000000 < offset ∧ offset < 86400000000)
    (converted : astimezone d offset = some t) : t.micros = d.instant offset := by
  obtain ⟨stamp, cut, isTime⟩ := Option.map_eq_some_iff.mp converted
  rcases inRange.utc small with ⟨missing, _⟩ | ⟨stamp', found, _, least, most⟩
  · rw [missing] at cut
    cases cut
  · rw [found] at cut
    cases cut
    -- The milliseconds are what the stamp has, so the rest is the remainder.
    have millis := stamp.instant_millis
    have instant : d.instant offset = d.ordinal * 86400000000 + (d.clock - offset) := by
      unfold DateTime.instant
      omega
    rw [← isTime, UtcTime.micros_stamp]
    dsimp only
    omega

/-! ### Texts of UTC readings -/

/-- What `isoformat()` prints before the offset. -/
def UtcTime.fraction (t : UtcTime) : List Char :=
  if t.stamp.milli * 1000 + t.micro = 0 then []
  else '.' :: threeDigits t.stamp.milli ++ threeDigits t.micro

def zeroOffset : List Char := ['+', '0', '0', ':', '0', '0']

theorem UtcTime.isoformat_toList (t : UtcTime) :
    t.isoformat.toList = t.stamp.isoChars.take 19 ++ t.fraction ++ zeroOffset := by
  unfold UtcTime.isoformat
  rw [String.toList_ofList]
  rfl

theorem parseDigits_sixDigits {high low : Nat} (highBound : high < 1000) (lowBound : low < 1000) :
    parseDigits (threeDigits high ++ threeDigits low) = some (high * 1000 + low) := by
  simp only [parseDigits, threeDigits, List.cons_append, List.nil_append, List.isEmpty_cons,
    List.all_cons, List.all_nil, isDigitChar_digit, Bool.and_true, Bool.not_true, Bool.or_false,
    Bool.false_eq_true, if_false, List.foldl_cons, List.foldl_nil, digit_toNat]
  congr 1
  omega

theorem UtcTime.parseClock_fraction (t : UtcTime) :
    parseClock (twoDigits t.stamp.hour ++ ':' :: twoDigits t.stamp.minute ++ ':' ::
        twoDigits t.stamp.second ++ t.fraction) =
      some (t.stamp.hour, t.stamp.minute, t.stamp.second, t.stamp.milli * 1000 + t.micro) := by
  have hourText := parseDigits_twoDigits t.stamp.hour (by have := t.stamp.hourBound; omega)
  have minuteText := parseDigits_twoDigits t.stamp.minute (by have := t.stamp.minuteBound; omega)
  have secondText := parseDigits_twoDigits t.stamp.second (by have := t.stamp.secondBound; omega)
  have microText := parseDigits_sixDigits t.stamp.milliBound t.microBound
  simp only [twoDigits] at hourText minuteText secondText
  simp only [threeDigits, List.cons_append, List.nil_append] at microText
  unfold UtcTime.fraction
  split
  · rename_i whole
    rw [whole]
    simp [parseClock, twoDigits, hourText, minuteText, secondText]
  · simp [parseClock, parseFraction, twoDigits, threeDigits, hourText, minuteText, secondText,
      microText]

/-- Digits and the marks between them. -/
def isPlain (c : Char) : Bool := isDigitChar c || c ∈ ['-', 'T', ':', '.']

theorem isPlain_digit (n : Nat) : isPlain (digit n) = true := by
  unfold isPlain
  rw [isDigitChar_digit]
  rfl

theorem UtcTime.plain (t : UtcTime) :
    ∀ c ∈ t.stamp.isoChars.take 19 ++ t.fraction, isPlain c = true := by
  have marks : isPlain '-' = true ∧ isPlain 'T' = true ∧ isPlain ':' = true ∧ isPlain '.' = true := by
    decide
  obtain ⟨dash, letter, colon, point⟩ := marks
  rw [← List.all_eq_true]
  unfold UtcTime.fraction
  split
  · simp [Timestamp.isoChars, fourDigits, twoDigits, isPlain_digit, dash, letter, colon]
  · simp [Timestamp.isoChars, fourDigits, twoDigits, threeDigits, isPlain_digit, dash, letter, colon,
      point]

theorem isPlain_ne {c mark : Char} (plain : isPlain c = true) (other : isPlain mark = false) :
    c ≠ mark := by
  intro same
  rw [same, other] at plain
  cases plain

theorem UtcTime.fromisoformat_isoformat (t : UtcTime) :
    fromisoformat t.isoformat.toList = some t.dateTime := by
  have hourBound := t.stamp.hourBound
  have minuteBound := t.stamp.minuteBound
  have secondBound := t.stamp.secondBound
  have inRange : ¬(24 ≤ t.stamp.hour ∨ 60 ≤ t.stamp.minute ∨ 60 ≤ t.stamp.second) := by
    omega
  have notWeek : digit (t.stamp.month / 10) ≠ 'W' := digit_ne _ (by decide)
  have separator : separatorAt t.isoformat.toList = some 10 := by
    rw [t.isoformat_toList]
    simp [separatorAt, Timestamp.isoChars, fourDigits, twoDigits, notWeek]
  have date : t.isoformat.toList.take 10 = t.stamp.isoChars.take 10 := by
    rw [t.isoformat_toList]
    simp [Timestamp.isoChars, fourDigits, twoDigits]
  have long : ¬t.isoformat.toList.length ≤ 10 := by
    rw [t.isoformat_toList, List.length_append, List.length_append, List.length_take,
      t.stamp.isoChars_length]
    omega
  have clockText : t.isoformat.toList.drop 11 = (twoDigits t.stamp.hour ++ ':' ::
      twoDigits t.stamp.minute ++ ':' :: twoDigits t.stamp.second ++ t.fraction) ++ zeroOffset := by
    rw [t.isoformat_toList]
    simp [Timestamp.isoChars, fourDigits, twoDigits]
  have noMark : ∀ c ∈ twoDigits t.stamp.hour ++ ':' :: twoDigits t.stamp.minute ++ ':' ::
      twoDigits t.stamp.second ++ t.fraction, (!isZoneMark c) = true := by
    have colon : isZoneMark ':' = false := by decide
    have point : isZoneMark '.' = false := by decide
    rw [← List.all_eq_true]
    unfold UtcTime.fraction
    split
    · simp [twoDigits, isZoneMark_digit, colon]
    · simp [twoDigits, threeDigits, isZoneMark_digit, colon, point]
  have clock : (t.isoformat.toList.drop 11).takeWhile (fun c => !isZoneMark c) =
      twoDigits t.stamp.hour ++ ':' :: twoDigits t.stamp.minute ++ ':' ::
        twoDigits t.stamp.second ++ t.fraction := by
    rw [clockText, List.takeWhile_append_of_pos noMark]
    exact List.append_nil _
  have rest : (t.isoformat.toList.drop 11).dropWhile (fun c => !isZoneMark c) = zeroOffset := by
    rw [clockText, List.dropWhile_append_of_pos noMark]
    rfl
  have zone : parseZone zeroOffset = some (some 0) := by
    decide
  simp only [fromisoformat, separator, date, t.stamp.parseDate_isoChars, t.stamp.date, clock, rest,
    t.parseClock_fraction, zone, long, inRange, Option.bind_eq_bind, Option.bind_some, Bool.not_true,
    Bool.false_eq_true, if_false]
  rfl

end FolioLattice.BackupOps

namespace FolioLattice.Slack

open FolioLattice.Text FolioLattice.Data FolioLattice.BackupOps
open FolioLattice.Audit (replaceZulu)

/-! ### Texts and instants -/

/-- `text.replace(old, new)` for an `old` that is not empty; so many characters of the last
match are still to be passed over. -/
def replaceFrom (old new : List Char) : (left : Nat) → List Char → List Char
  | _, [] => []
  | left + 1, _ :: rest => replaceFrom old new left rest
  | 0, c :: rest =>
      if old.isPrefixOf (c :: rest) then new ++ replaceFrom old new (old.length - 1) rest
      else c :: replaceFrom old new 0 rest

/-- `ApprovedSlackConsumer._wire_timestamp` -/
def wireTimestamp (t : UtcTime) : List Char := replaceFrom zeroOffset ['Z'] 0 t.isoformat.toList

/-- `datetime.fromisoformat(text.replace("Z", "+00:00"))`; a surrogate is as good a separator
as any other character and wrong elsewhere. -/
def readTime (text : PyStr) : Option DateTime :=
  fromisoformat (replaceZulu (text.map (fun c => Char.ofNat c.val)))

/-- The instant that a text names, in microseconds. -/
def instantOf (text : PyStr) : Option Int := (readTime text).bind (fun d => d.offset.map d.instant)

theorem replaceFrom_start {mark : Char} {old new text rest : List Char} (free : mark ∉ text) :
    replaceFrom (mark :: old) new 0 (text ++ rest) = text ++ replaceFrom (mark :: old) new 0 rest := by
  induction text with
  | nil => rfl
  | cons c text ih =>
      have differs : mark ≠ c := fun same => free (same ▸ List.mem_cons_self)
      have missed : ¬(mark :: old).isPrefixOf (c :: (text ++ rest)) = true := by
        rw [List.isPrefixOf_cons_cons, beq_false_of_ne differs]
        exact Bool.false_ne_true
      rw [List.cons_append, replaceFrom, if_neg missed,
        ih (fun member => free (List.mem_cons_of_mem _ member))]
      rfl

theorem wireTimestamp_eq (t : UtcTime) :
    wireTimestamp t = t.stamp.isoChars.take 19 ++ t.fraction ++ ['Z'] := by
  have free : '+' ∉ t.stamp.isoChars.take 19 ++ t.fraction := fun member =>
    isPlain_ne (t.plain _ member) (by decide) rfl
  unfold wireTimestamp
  rw [t.isoformat_toList]
  unfold zeroOffset
  rw [replaceFrom_start free]
  rfl

theorem replaceZulu_wire (t : UtcTime) : replaceZulu (wireTimestamp t) = t.isoformat.toList := by
  have kept : ∀ text : List Char, (∀ c ∈ text, isPlain c = true) →
      text.flatMap (fun c => if c = 'Z' then zeroOffset else [c]) = text := by
    intro text plain
    calc text.flatMap (fun c => if c = 'Z' then zeroOffset else [c])
        = text.flatMap (fun c => [c]) :=
          List.flatMap_congr (fun c member => if_neg (isPlain_ne (plain c member) (by decide)))
      _ = text := List.flatMap_singleton' text
  rw [wireTimestamp_eq, t.isoformat_toList]
  exact (List.flatMap_append).trans (congrArg (· ++ zeroOffset) (kept _ t.plain))

/-- What is written for a time names its instant. -/
theorem instantOf_wireTimestamp (t : UtcTime) :
    instantOf ((wireTimestamp t).map codePoint) = some t.micros := by
  have chars : ((wireTimestamp t).map codePoint).map (fun c => Char.ofNat c.val) = wireTimestamp t := by
    have each : (fun c : CodePoint => Char.ofNat c.val) ∘ codePoint = id := by
      funext c
      change Char.ofNat (codePoint c).val = c
      rw [codePoint_toNat, Char.ofNat_toNat]
    rw [List.map_map, each, List.map_id]
  unfold instantOf readTime
  rw [chars, replaceZulu_wire, t.fromisoformat_isoformat, ← t.dateTime_instant]
  rfl

/-- The time that is made of a text is at the instant that the text names. -/
theorem instantOf_astimezone {text : PyStr} {d : DateTime} {offset : Int} {t : UtcTime}
    (read : readTime text = some d) (zoned : d.offset = some offset)
    (converted : astimezone d offset = some t) : instantOf text = some t.micros := by
  obtain ⟨inRange, small⟩ := fromisoformat_inRange read
  unfold instantOf
  rw [read, Option.bind_some, zoned, Option.map_some,
    astimezone_micros inRange (small offset zoned) converted]

end FolioLattice.Slack
