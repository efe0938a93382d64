/-
Audit time windows: the events that a window should select by their instants, and
when the events that the calls select are these.
-/

import FolioLattice.Audit.ExportEnds
import FolioLattice.Text.Calendar

namespace FolioLattice.Audit

open FolioLattice.Text FolioLattice.Data FolioLattice.Relational FolioLattice.Store
open FolioLattice.Effects (except_mapM_keys)

/-! ### Instants of texts -/

/-- The instant that the service reads: each `Z` stands for `+00:00`. -/
def zonedInstant (value : String) : Option Int :=
  (fromisoformat (replaceZulu value.toList)).bind (fun d => d.offset.map d.instant)

/-- A `Z` that does not end the text. -/
def strayZulu (value : String) : Bool := value.toList.dropLast.contains 'Z'

/-- The instant of an ISO time with its zone, where `Z` is the zone at its end. -/
def isoInstant (value : String) : Option Int :=
  if strayZulu value then none else zonedInstant value

theorem zonedInstant_isoformat (t : Timestamp) : zonedInstant t.isoformat = some t.instant := by
  have kept : replaceZulu t.isoChars = t.isoChars := by
    unfold replaceZulu Timestamp.isoChars
    simp only [fourDigits, twoDigits, threeDigits, List.cons_append, List.nil_append,
      List.flatMap_cons, List.flatMap_nil, digit_ne _ (show isDigitChar 'Z' = false by decide)]
    rfl
  unfold zonedInstant Timestamp.isoformat
  rw [String.toList_ofList, kept, t.fromisoformat_isoChars]
  rfl

theorem isoInstant_isoformat (t : Timestamp) : isoInstant t.isoformat = some t.instant := by
  have plain : strayZulu t.isoformat = false := by
    unfold strayZulu Timestamp.isoformat
    rw [String.toList_ofList, Bool.eq_false_iff]
    intro contained
    have member : 'Z' ∈ t.isoChars := List.dropLast_subset _ (List.contains_iff_mem.mp contained)
    unfold Timestamp.isoChars at member
    simp only [fourDigits, twoDigits, threeDigits, List.cons_append, List.nil_append, List.mem_cons,
      List.not_mem_nil, (digit_ne _ (show isDigitChar 'Z' = false by decide)).symm] at member
    revert member
    decide
  unfold isoInstant
  rw [plain]
  exact zonedInstant_isoformat t

/-! ### Bounds -/

def printable (value : String) : Bool :=
  value.length ≤ 64 && !value.toList.any (fun c => c.toNat < 0x20)

/-- The instant of a bound, if there is one: printable, with a date in UTC. -/
def boundBy (read : String → Option Int) : Option String → Option (Option Int)
  | none => some none
  | some value =>
      if printable value then ((read value).filter (fun instant => Representable instant)).map some
      else none

/-- A bound whose date in UTC is out of range. -/
def overflows (bound : Option String) : Bool :=
  bound.any (fun value =>
    printable value && (zonedInstant value).any (fun instant => !decide (Representable instant)))

def stray (bound : Option String) : Bool := bound.any strayZulu

theorem boundBy_some {read : String → Option Int} {value : String} {instant : Option Int}
    (taken : boundBy read (some value) = some instant) :
    printable value = true ∧ ∃ i, read value = some i ∧ Representable i ∧ instant = some i := by
  rw [boundBy] at taken
  split at taken
  · rename_i printed
    obtain ⟨i, filtered, isInstant⟩ := Option.map_eq_some_iff.mp taken
    obtain ⟨isRead, representable⟩ := Option.filter_eq_some_iff.mp filtered
    exact ⟨printed, i, isRead, of_decide_eq_true representable, isInstant.symm⟩
  · cases taken

theorem boundBy_read {read : String → Option Int} {value : String} {i : Int}
    (printed : printable value = true) (isRead : read value = some i)
    (representable : Representable i) : boundBy read (some value) = some (some i) := by
  rw [boundBy, if_pos printed]
  exact Option.map_eq_some_iff.mpr
    ⟨i, Option.filter_eq_some_iff.mpr ⟨isRead, decide_eq_true representable⟩, rfl⟩

theorem overflows_not_taken {bound : Option String} {instant : Option Int}
    (taken : boundBy zonedInstant bound = some instant) : overflows bound = false := by
  cases bound with
  | none => rfl
  | some value =>
      obtain ⟨printed, i, isRead, representable, _⟩ := boundBy_some taken
      unfold overflows
      rw [Option.any_some, isRead, Option.any_some, decide_eq_true representable]
      exact Bool.and_false _

theorem boundBy_iso {bound : Option String} {instant : Option Int} :
    boundBy isoInstant bound = some instant ↔
      boundBy zonedInstant bound = some instant ∧ stray bound = false := by
  cases bound with
  | none =>
      constructor
      · exact fun taken => ⟨taken, rfl⟩
      · exact fun taken => taken.1
  | some value =>
      cases misplaced : strayZulu value with
      | false =>
          have same : isoInstant value = zonedInstant value := by
            unfold isoInstant
            rw [misplaced]
            rfl
          have kept : stray (some value) = false := misplaced
          rw [boundBy, boundBy, same, kept]
          exact (and_iff_left rfl).symm
      | true =>
          have unread : isoInstant value = none := by
            unfold isoInstant
            rw [misplaced]
            rfl
          have found : stray (some value) = true := misplaced
          rw [found]
          constructor
          · intro taken
            obtain ⟨_, i, isRead, _⟩ := boundBy_some taken
            rw [unread] at isRead
            cases isRead
          · exact fun impossible => absurd impossible.2 Bool.noConfusion

/-- What the code makes of a bound: its instant, and a text at the same millisecond. -/
structure CutAs (instant : Option Int) (cut : Option (Int × Timestamp)) : Prop where
  instant : cut.map (·.1) = instant
  millisecond : ∀ pair ∈ cut, pair.2.instant ≤ pair.1 ∧ pair.1 < pair.2.instant + 1000

section Bound

variable (field : String) {value : String}

theorem printable_iff :
    printable value = true ↔
      ¬(64 < value.length ∨ value.toList.any (fun c => c.toNat < 0x20) = true) := by
  unfold printable
  rw [Bool.and_eq_true, decide_eq_true_eq, Bool.not_eq_true', not_or, Nat.not_lt, Bool.not_eq_true]

/-- A time with a zone is taken up to the millisecond, or UTC has no date for it. -/
theorem auditBound_read (printed : printable value = true) {i : Int}
    (isRead : zonedInstant value = some i) :
    (¬Representable i ∧ auditBound field (some value) = .error .builtin) ∨
      ∃ t : Timestamp, Representable i ∧ auditBound field (some value) = .ok (some (i, t)) ∧
        t.instant ≤ i ∧ i < t.instant + 1000 := by
  obtain ⟨d, parsed, zoned⟩ := Option.bind_eq_some_iff.mp isRead
  obtain ⟨offset, isOffset, isInstant⟩ := Option.map_eq_some_iff.mp zoned
  obtain ⟨inRange, small⟩ := fromisoformat_inRange parsed
  rw [auditBound, if_neg (printable_iff.mp printed), parsed]
  dsimp only
  rw [isOffset]
  dsimp only
  rcases inRange.utc (small offset isOffset) with ⟨missing, out⟩ | ⟨t, found, representable, cut⟩
  · left
    rw [missing, ← isInstant]
    exact ⟨out, rfl⟩
  · right
    rw [found, ← isInstant]
    exact ⟨t, representable, rfl, cut⟩

theorem auditBound_taken {bound : Option String} {instant : Option Int}
    (taken : boundBy zonedInstant bound = some instant) :
    ∃ cut, auditBound field bound = .ok cut ∧ CutAs instant cut := by
  cases bound with
  | none =>
      refine ⟨none, rfl, Option.some.inj taken, ?_⟩
      intro pair absent
      cases absent
  | some value =>
      obtain ⟨printed, i, isRead, representable, isInstant⟩ := boundBy_some taken
      rcases auditBound_read field printed isRead with ⟨out, _⟩ | ⟨t, _, accepted, cut⟩
      · exact absurd representable out
      · refine ⟨_, accepted, isInstant.symm, ?_⟩
        intro pair isPair
        rw [← Option.some.inj isPair]
        exact cut

theorem auditBound_overflows {bound : Option String} (out : overflows bound = true) :
    auditBound field bound = .error .builtin := by
  obtain ⟨value, isValue, unusual⟩ := (Option.any_eq_true _ _).mp out
  rw [Bool.and_eq_true] at unusual
  obtain ⟨i, isRead, notDate⟩ := (Option.any_eq_true _ _).mp unusual.2
  rw [isValue]
  rcases auditBound_read field unusual.1 isRead with ⟨_, raised⟩ | ⟨_, representable, _⟩
  · exact raised
  · rw [decide_eq_true representable] at notDate
    cases notDate

theorem auditBound_refused {bound : Option String} (refused : boundBy zonedInstant bound = none)
    (within : overflows bound = false) : ∃ m, auditBound field bound = .error (.folio m) := by
  cases bound with
  | none => cases refused
  | some value =>
      rw [auditBound]
      by_cases printed : printable value = true
      · have unread : ∀ i, zonedInstant value ≠ some i := by
          intro i isRead
          by_cases representable : Representable i
          · rw [boundBy_read printed isRead representable] at refused
            cases refused
          · unfold overflows at within
            rw [Option.any_some, printed, isRead, Option.any_some,
              decide_eq_false representable] at within
            cases within
        rw [if_neg (printable_iff.mp printed)]
        cases parsed : fromisoformat (replaceZulu value.toList) with
        | none => exact ⟨_, rfl⟩
        | some d =>
            dsimp only
            cases isOffset : d.offset with
            | none => exact ⟨_, rfl⟩
            | some offset =>
                refine absurd ?_ (unread (d.instant offset))
                exact Option.bind_eq_some_iff.mpr ⟨d, parsed, by rw [isOffset]; rfl⟩
      · rw [if_pos (not_not.mp (fun fits => printed (printable_iff.mpr fits)))]
        exact ⟨_, rfl⟩

end Bound

/-! ### Windows -/

structure InstantWindow where
  lower : Option Int
  upper : Option Int
  deriving DecidableEq

def AuditQuery.windowBy (read : String → Option Int) (query : AuditQuery) :
    Option InstantWindow := do
  let lower ← boundBy read query.fromTime
  let upper ← boundBy read query.toTime
  if lower.any (fun l => upper.any (fun u => u < l)) then none else some ⟨lower, upper⟩

/-- The window that a query names. -/
def AuditQuery.window (query : AuditQuery) : Option InstantWindow := query.windowBy isoInstant

def InstantWindow.admits (window : InstantWindow) (row : AuditEventRow) : Bool :=
  (isoInstant row.occurredAt).any (fun occurred =>
    window.lower.all (fun l => l ≤ occurred) && window.upper.all (fun u => occurred ≤ u))

def afterCursor (cursor : Option (String × String)) (row : AuditEventRow) : Bool :=
  cursor.all (fun cursor =>
    cursor.1 < row.occurredAt || (row.occurredAt = cursor.1 && cursor.2 < row.id))

/-- The events of a tenant in a window, after a cursor. -/
def Database.windowRows (db : Database) (tenantId : String) (window : InstantWindow)
    (cursor : Option (String × String)) : List AuditEventRow :=
  orderBy auditKey (db.auditEvents.filter (fun row =>
    row.tenantId = tenantId && window.admits row && afterCursor cursor row))

theorem windowBy_some {read : String → Option Int} {query : AuditQuery} {window : InstantWindow}
    (isWindow : query.windowBy read = some window) :
    boundBy read query.fromTime = some window.lower ∧ boundBy read query.toTime = some window.upper ∧
      window.lower.any (fun l => window.upper.any (fun u => u < l)) = false := by
  obtain ⟨lower, isLower, isWindow⟩ := Option.bind_eq_some_iff.mp isWindow
  obtain ⟨upper, isUpper, isWindow⟩ := Option.bind_eq_some_iff.mp isWindow
  split at isWindow
  · cases isWindow
  · rename_i ordered
    rw [← Option.some.inj isWindow]
    exact ⟨isLower, isUpper, Bool.eq_false_iff.mpr ordered⟩

theorem windowBy_of {read : String → Option Int} {query : AuditQuery} {window : InstantWindow}
    (isLower : boundBy read query.fromTime = some window.lower)
    (isUpper : boundBy read query.toTime = some window.upper)
    (ordered : window.lower.any (fun l => window.upper.any (fun u => u < l)) = false) :
    query.windowBy read = some window := by
  unfold AuditQuery.windowBy
  rw [isLower, isUpper, Option.bind_eq_bind, Option.bind_some, Option.bind_some,
    if_neg (Bool.eq_false_iff.mp ordered)]

theorem window_iff {query : AuditQuery} {window : InstantWindow} :
    query.window = some window ↔ query.windowBy zonedInstant = some window ∧
      stray query.fromTime = false ∧ stray query.toTime = false := by
  unfold AuditQuery.window
  constructor
  · intro isWindow
    obtain ⟨isLower, isUpper, ordered⟩ := windowBy_some isWindow
    obtain ⟨readLower, lowerKept⟩ := boundBy_iso.mp isLower
    obtain ⟨readUpper, upperKept⟩ := boundBy_iso.mp isUpper
    exact ⟨windowBy_of readLower readUpper ordered, lowerKept, upperKept⟩
  · rintro ⟨isWindow, lowerKept, upperKept⟩
    obtain ⟨isLower, isUpper, ordered⟩ := windowBy_some isWindow
    exact windowBy_of (boundBy_iso.mpr ⟨isLower, lowerKept⟩) (boundBy_iso.mpr ⟨isUpper, upperKept⟩)
      ordered

/-! ### The texts of a window -/

/-- An event in the millisecond of the lower bound, before the bound itself. -/
def cutTo (lower : Option Int) (row : AuditEventRow) : Bool :=
  lower.any (fun l =>
    (isoInstant row.occurredAt).any (fun occurred => occurred < l && l < occurred + 1000))

section Texts

variable {lower upper : Option Int} {lowerCut upperCut : Option (Int × Timestamp)}

theorem CutAs.lower_all (cutAs : CutAs lower lowerCut) {u : Timestamp}
    (apart : lower.any (fun l => u.instant < l && l < u.instant + 1000) = false) :
    lowerCut.all (fun bound => bound.2.instant ≤ u.instant) = lower.all (fun l => l ≤ u.instant) := by
  obtain ⟨rfl, millisecond⟩ := cutAs
  cases lowerCut with
  | none => rfl
  | some pair =>
      obtain ⟨below, within⟩ := millisecond pair rfl
      rw [Option.map_some, Option.any_some, Bool.and_eq_false_iff, decide_eq_false_iff_not,
        decide_eq_false_iff_not] at apart
      rw [Option.all_some, Option.map_some, Option.all_some]
      apply decide_eq_decide.mpr
      constructor
      · intro least
        rcases apart with after | far
        · exact Int.not_lt.mp after
        · omega
      · exact fun least => below.trans least

theorem CutAs.upper_all (cutAs : CutAs upper upperCut) (u : Timestamp) :
    upperCut.all (fun bound => u.instant ≤ bound.2.instant) = upper.all (fun b => u.instant ≤ b) := by
  obtain ⟨rfl, millisecond⟩ := cutAs
  cases upperCut with
  | none => rfl
  | some pair =>
      obtain ⟨below, within⟩ := millisecond pair rfl
      have uMillis := u.instant_millis
      have cutMillis := pair.2.instant_millis
      rw [Option.all_some, Option.map_some, Option.all_some]
      apply decide_eq_decide.mpr
      omega

theorem CutAs.any (lowerAs : CutAs lower lowerCut) (upperAs : CutAs upper upperCut) :
    lowerCut.any (fun l => upperCut.any (fun u => u.1 < l.1)) =
      lower.any (fun l => upper.any (fun u => u < l)) := by
  rw [← lowerAs.instant, ← upperAs.instant, Option.any_map]
  simp only [Option.any_map]

theorem auditWindow_taken {fromTime toTime : Option String}
    (isLower : boundBy zonedInstant fromTime = some lower)
    (isUpper : boundBy zonedInstant toTime = some upper) :
    ∃ lowerCut upperCut, CutAs lower lowerCut ∧ CutAs upper upperCut ∧
      auditWindow fromTime toTime =
        if lower.any (fun l => upper.any (fun u => u < l)) then
          .error (.folio "audit time window is inverted")
        else
          .ok (lowerCut.map (fun bound => bound.2.isoformat),
            upperCut.map (fun bound => bound.2.isoformat)) := by
  obtain ⟨lowerCut, lowerOk, lowerAs⟩ := auditBound_taken "from_time" isLower
  obtain ⟨upperCut, upperOk, upperAs⟩ := auditBound_taken "to_time" isUpper
  refine ⟨lowerCut, upperCut, lowerAs, upperAs, ?_⟩
  unfold auditWindow
  simp only [lowerOk, upperOk, bind, Except.bind, lowerAs.any upperAs]

end Texts

def cutFilter (tenantId : String) (lowerCut upperCut : Option (Int × Timestamp))
    (cursor : Option (String × String)) : AuditFilter where
  tenantId := tenantId
  fromTime := lowerCut.map (fun bound => bound.2.isoformat)
  toTime := upperCut.map (fun bound => bound.2.isoformat)
  cursor := cursor

/-- The texts select by their instants. -/
theorem cutFilter_admits (tenantId : String) (lowerCut upperCut : Option (Int × Timestamp))
    (cursor : Option (String × String)) {row : AuditEventRow} {u : Timestamp}
    (stamped : row.occurredAt = u.isoformat) :
    (cutFilter tenantId lowerCut upperCut cursor).admits row =
      (decide (row.tenantId = tenantId) &&
        lowerCut.all (fun bound => bound.2.instant ≤ u.instant) &&
        upperCut.all (fun bound => u.instant ≤ bound.2.instant) && afterCursor cursor row) := by
  have lower : (lowerCut.map (fun bound => bound.2.isoformat)).all (fun t => t ≤ u.isoformat) =
      lowerCut.all (fun bound => bound.2.instant ≤ u.instant) := by
    simp only [Option.all_map, Timestamp.isoformat_le_iff]
  have upper : (upperCut.map (fun bound => bound.2.isoformat)).all (fun t => u.isoformat ≤ t) =
      upperCut.all (fun bound => u.instant ≤ bound.2.instant) := by
    simp only [Option.all_map, Timestamp.isoformat_le_iff]
  rw [← lower, ← upper, ← stamped]
  rfl

section Query

variable {query : AuditQuery}

theorem parseAuditCursor_error {cursor : Option String} {e : Failure}
    (failed : parseAuditCursor cursor = .error e) : ∃ m, e = .folio m := by
  cases cursor with
  | none => cases failed
  | some cursor =>
      rw [parseAuditCursor] at failed
      split at failed
      · exact ⟨_, (Except.error.inj failed).symm⟩
      · cases failed

/-- A query whose ids are tokens. -/
structure AuditQuery.Signed (query : AuditQuery) : Prop where
  tenant : IsToken query.tenantId
  actor : IsToken query.actor

theorem AuditQuery.Signed.filter (signed : query.Signed) :
    query.filter = (do
      let window ← auditWindow query.fromTime query.toTime
      let cursor ← parseAuditCursor query.cursor
      .ok ⟨query.tenantId, window.1, window.2, cursor⟩) := by
  unfold AuditQuery.filter
  rw [validateToken_ok_iff.mpr signed.tenant, validateToken_ok_iff.mpr signed.actor]
  rfl

/-- What the service selects by, for a window that it reads. -/
theorem AuditQuery.Signed.filter_taken (signed : query.Signed) {window : InstantWindow}
    {cursor : Option (String × String)} (isWindow : query.windowBy zonedInstant = some window)
    (isCursor : parseAuditCursor query.cursor = .ok cursor) :
    ∃ lowerCut upperCut, CutAs window.lower lowerCut ∧ CutAs window.upper upperCut ∧
      query.filter = .ok (cutFilter query.tenantId lowerCut upperCut cursor) := by
  obtain ⟨isLower, isUpper, ordered⟩ := windowBy_some isWindow
  obtain ⟨lowerCut, upperCut, lowerAs, upperAs, taken⟩ := auditWindow_taken isLower isUpper
  rw [if_neg (Bool.eq_false_iff.mp ordered)] at taken
  refine ⟨lowerCut, upperCut, lowerAs, upperAs, ?_⟩
  rw [signed.filter, taken, isCursor]
  rfl

/-- A query without overflow that is not taken is refused. -/
theorem AuditQuery.Signed.filter_refused (signed : query.Signed)
    (fromDates : overflows query.fromTime = false)
    (toDates : boundBy zonedInstant query.fromTime ≠ none → overflows query.toTime = false)
    (refused : ∀ window, query.windowBy zonedInstant = some window →
      ∀ cursor, parseAuditCursor query.cursor ≠ .ok cursor) :
    ∃ m, query.filter = .error (.folio m) := by
  rw [signed.filter]
  cases isLower : boundBy zonedInstant query.fromTime with
  | none =>
      obtain ⟨m, raised⟩ := auditBound_refused "from_time" isLower fromDates
      refine ⟨m, ?_⟩
      unfold auditWindow
      rw [raised]
      rfl
  | some lower =>
      obtain ⟨lowerCut, lowerOk, _⟩ := auditBound_taken "from_time" isLower
      cases isUpper : boundBy zonedInstant query.toTime with
      | none =>
          obtain ⟨m, raised⟩ := auditBound_refused "to_time" isUpper
            (toDates (by rw [isLower]; exact Option.some_ne_none _))
          refine ⟨m, ?_⟩
          unfold auditWindow
          rw [lowerOk, raised]
          rfl
      | some upper =>
          obtain ⟨lowerCut, upperCut, _, _, taken⟩ := auditWindow_taken isLower isUpper
          rw [taken]
          cases ordered : lower.any (fun l => upper.any (fun u => u < l)) with
          | true => exact ⟨_, rfl⟩
          | false =>
              have isWindow : query.windowBy zonedInstant = some ⟨lower, upper⟩ :=
                windowBy_of isLower isUpper ordered
              cases isCursor : parseAuditCursor query.cursor with
              | ok cursor => exact absurd isCursor (refused _ isWindow cursor)
              | error e =>
                  obtain ⟨m, isFolio⟩ := parseAuditCursor_error isCursor
                  exact ⟨m, by rw [isFolio]; rfl⟩

end Query

/-! ### Exact windows -/

/-- The calls select the events that stand in the window of a query, and refuse a
query that names no window. -/
structure WindowExact (F : Type) [FloatFormat F] (settings : Settings) (db : Database)
    (query : AuditQuery) : Prop where
  listed : ∀ window cursor, query.window = some window →
    parseAuditCursor query.cursor = .ok cursor →
      (listAuditEvents settings db query : Except Failure (List (SealedEvent F))) =
        ((Database.windowRows db query.tenantId window cursor).take
          (clampLimit query.limit auditMaxEventsPerExport)).mapM (sealedRow settings)
  exported : ∀ window cursor, query.window = some window →
    parseAuditCursor query.cursor = .ok cursor →
      (exportPage settings db query : Except Failure (ExportPage F)).map
          (fun page => (page.events, page.hasMore)) =
        (exportRows settings (clampLimit query.limit auditMaxEventsPerExport) 0 0
          ((Database.windowRows db query.tenantId window cursor).take
            (clampLimit query.limit auditMaxEventsPerExport + 1))).map
          (fun read => (read.1.map (·.1), read.2))
  refused : query.window = none →
    (∃ m, (listAuditEvents settings db query : Except Failure (List (SealedEvent F))) =
      .error (.folio m)) ∧
    ∀ draw exports, ∃ m, (exportAuditEvents settings draw query ⟨db, exports⟩ :
      Except Failure (AuditStore × ExportReceipt F)) = .error (.folio m)

/-- No bound that is reached overflows; where both are read, no `Z` is out of place and
no event stands in the millisecond of `from_time` before it. -/
structure Precise (db : Database) (query : AuditQuery) : Prop where
  fromDates : overflows query.fromTime = false
  toDates : boundBy zonedInstant query.fromTime ≠ none → overflows query.toTime = false
  read : ∀ window cursor, query.windowBy zonedInstant = some window →
    parseAuditCursor query.cursor = .ok cursor →
      stray query.fromTime = false ∧ stray query.toTime = false ∧
        ∀ row ∈ db.auditEvents, row.tenantId = query.tenantId → afterCursor cursor row = true →
          cutTo window.lower row = false

section Exact

variable {F : Type} [FloatFormat F] {settings : Settings} {db : Database} {query : AuditQuery}

theorem InstantWindow.admits_stamped (window : InstantWindow) {row : AuditEventRow} {u : Timestamp}
    (stamped : row.occurredAt = u.isoformat) :
    window.admits row =
      (window.lower.all (fun l => l ≤ u.instant) && window.upper.all (fun b => u.instant ≤ b)) := by
  unfold InstantWindow.admits
  rw [stamped, isoInstant_isoformat]
  rfl

theorem cutTo_stamped (lower : Option Int) {row : AuditEventRow} {u : Timestamp}
    (stamped : row.occurredAt = u.isoformat) :
    cutTo lower row = lower.any (fun l => u.instant < l && l < u.instant + 1000) := by
  unfold cutTo
  rw [stamped, isoInstant_isoformat]
  rfl

/-- Without an event that the lower bound cuts to, the rows of the texts are those of
the instants. -/
theorem selectAudit_exact (sound : TrailSound F settings db) {tenantId : String}
    {window : InstantWindow} {cursor : Option (String × String)}
    {lowerCut upperCut : Option (Int × Timestamp)} (lowerAs : CutAs window.lower lowerCut)
    (upperAs : CutAs window.upper upperCut)
    (apart : ∀ row ∈ db.auditEvents, row.tenantId = tenantId → afterCursor cursor row = true →
      cutTo window.lower row = false) :
    Database.selectAudit db (cutFilter tenantId lowerCut upperCut cursor) =
      Database.windowRows db tenantId window cursor := by
  unfold Database.selectAudit Database.windowRows
  congr 1
  apply List.filter_congr
  intro row member
  obtain ⟨u, _, stamped, _⟩ := (sound.stored row member).stamped
  rw [cutFilter_admits tenantId lowerCut upperCut cursor stamped, window.admits_stamped stamped,
    ← upperAs.upper_all u]
  by_cases own : row.tenantId = tenantId
  · cases after : afterCursor cursor row with
    | false => simp only [Bool.and_false]
    | true =>
        have far := apart row member own after
        rw [cutTo_stamped window.lower stamped] at far
        rw [lowerAs.lower_all far, Bool.and_assoc (decide (row.tenantId = tenantId))]
  · simp only [own, decide_false, Bool.false_and]

theorem Precise.exact (precise : Precise db query) (sound : TrailSound F settings db)
    (signed : query.Signed) : WindowExact F settings db query := by
  have selected : ∀ window cursor, query.window = some window →
      parseAuditCursor query.cursor = .ok cursor → ∃ filter, query.filter = .ok filter ∧
        Database.selectAudit db filter = Database.windowRows db query.tenantId window cursor := by
    intro window cursor isWindow isCursor
    obtain ⟨isRead, _, _⟩ := window_iff.mp isWindow
    obtain ⟨lowerCut, upperCut, lowerAs, upperAs, taken⟩ := signed.filter_taken isRead isCursor
    obtain ⟨_, _, apart⟩ := precise.read window cursor isRead isCursor
    exact ⟨_, taken, selectAudit_exact sound lowerAs upperAs apart⟩
  constructor
  · intro window cursor isWindow isCursor
    obtain ⟨filter, taken, same⟩ := selected window cursor isWindow isCursor
    unfold listAuditEvents
    rw [taken, ← same]
    rfl
  · intro window cursor isWindow isCursor
    obtain ⟨filter, taken, same⟩ := selected window cursor isWindow isCursor
    unfold exportPage
    rw [taken, ← same]
    simp only [bind, Except.bind]
    cases (exportRows settings (clampLimit query.limit auditMaxEventsPerExport) 0 0
        ((Database.selectAudit db filter).take (clampLimit query.limit auditMaxEventsPerExport + 1)) :
        Except Failure (List (SealedEvent F × List Char) × Bool)) with
    | error e => rfl
    | ok read => rfl
  · intro noWindow
    have refused : ∀ window, query.windowBy zonedInstant = some window →
        ∀ cursor, parseAuditCursor query.cursor ≠ .ok cursor := by
      intro window isRead cursor isCursor
      obtain ⟨fromKept, toKept, _⟩ := precise.read window cursor isRead isCursor
      rw [window_iff.mpr ⟨isRead, fromKept, toKept⟩] at noWindow
      cases noWindow
    obtain ⟨m, raised⟩ := signed.filter_refused precise.fromDates precise.toDates refused
    constructor
    · refine ⟨m, ?_⟩
      unfold listAuditEvents
      rw [raised]
      rfl
    · intro draw exports
      refine ⟨m, ?_⟩
      unfold exportAuditEvents exportPage
      rw [raised]
      rfl

theorem listed_times (sound : TrailSound F settings db) {rows : List AuditEventRow}
    (inTable : ∀ row ∈ rows, row ∈ db.auditEvents) :
    ∃ events : List (SealedEvent F), rows.mapM (sealedRow settings) = .ok events ∧
      events.map (·.event.occurredAt) = rows.map (·.occurredAt) := by
  apply except_mapM_keys
  intro row member
  obtain ⟨pair, exports, _⟩ := (sound.stored row (inTable row member)).exportsAs
  exact ⟨pair.1, exports.verified, (sealedRow_fields exports.verified).2.1⟩

/-- An event that the lower bound cuts to comes first on the list. -/
theorem cutTo_listed (sound : TrailSound F settings db) (signed : query.Signed)
    {window : InstantWindow} {cursor : Option (String × String)}
    (isRead : query.windowBy zonedInstant = some window)
    (isCursor : parseAuditCursor query.cursor = .ok cursor) {row : AuditEventRow}
    (member : row ∈ db.auditEvents) (own : row.tenantId = query.tenantId)
    (after : afterCursor cursor row = true) (cut : cutTo window.lower row = true) :
    ∃ (filter : AuditFilter) (first : AuditEventRow) (rest : List AuditEventRow),
      query.filter = .ok filter ∧ Database.selectAudit db filter = first :: rest ∧
        window.admits first = false := by
  obtain ⟨_, _, ordered⟩ := windowBy_some isRead
  obtain ⟨lowerCut, upperCut, lowerAs, upperAs, taken⟩ := signed.filter_taken isRead isCursor
  obtain ⟨u, _, stamped, _⟩ := (sound.stored row member).stamped
  rw [cutTo_stamped window.lower stamped] at cut
  obtain ⟨l, isLower, within⟩ := (Option.any_eq_true _ _).mp cut
  rw [Bool.and_eq_true, decide_eq_true_eq, decide_eq_true_eq] at within
  obtain ⟨before, near⟩ := within
  obtain ⟨pair, isPair, isInstant⟩ : ∃ pair, lowerCut = some pair ∧ pair.1 = l := by
    rw [← lowerAs.instant] at isLower
    exact Option.map_eq_some_iff.mp isLower
  obtain ⟨below, under⟩ := lowerAs.millisecond pair isPair
  have atCut : u.instant = pair.2.instant := by
    have uMillis := u.instant_millis
    have cutMillis := pair.2.instant_millis
    omega
  have upperOk : upperCut.all (fun bound => u.instant ≤ bound.2.instant) = true := by
    rw [upperAs.upper_all u, Option.all_eq_true]
    intro b isUpper
    rw [isLower, Option.any_some, isUpper, Option.any_some, decide_eq_false_iff_not] at ordered
    rw [decide_eq_true_eq]
    omega
  have selected : row ∈ Database.selectAudit db
      (cutFilter query.tenantId lowerCut upperCut cursor) := by
    refine mem_orderBy.mpr (List.mem_filter.mpr ⟨member, ?_⟩)
    rw [cutFilter_admits _ _ _ _ stamped, own, after, upperOk, isPair, Option.all_some, atCut]
    simp only [decide_true, le_refl, Bool.and_self]
  obtain ⟨first, rest, isList⟩ := List.exists_cons_of_ne_nil (List.ne_nil_of_mem selected)
  refine ⟨_, first, rest, taken, isList, ?_⟩
  have sorted : (Database.selectAudit db
      (cutFilter query.tenantId lowerCut upperCut cursor)).Pairwise
        (fun a b => auditKey a ≤ auditKey b) := orderBy_sorted auditKey _
  have inList : first ∈ Database.selectAudit db
      (cutFilter query.tenantId lowerCut upperCut cursor) := by
    rw [isList]
    exact List.mem_cons_self
  obtain ⟨firstMember, admitted⟩ := List.mem_filter.mp (mem_orderBy.mp inList)
  obtain ⟨v, _, firstStamped, _⟩ := (sound.stored first firstMember).stamped
  rw [isList] at sorted selected
  have early : v.instant ≤ u.instant := by
    rcases List.mem_cons.mp selected with same | later
    · have texts : u.isoformat = v.isoformat := by
        rw [← stamped, ← firstStamped, same]
      rw [← Timestamp.isoformat_le_iff, texts]
    · rw [← Timestamp.isoformat_le_iff, ← stamped, ← firstStamped]
      rcases Prod.Lex.le_iff.mp ((List.pairwise_cons.mp sorted).1 row later) with less | ⟨same, _⟩
      · exact le_of_lt less
      · exact le_of_eq same
  rw [window.admits_stamped firstStamped, isLower, Option.all_some,
    decide_eq_false (Int.not_le.mpr (lt_of_le_of_lt early before)), Bool.false_and]

/-- Where the calls are exact, no overflow gets out of them. -/
theorem WindowExact.not_builtin (exact : WindowExact F settings db query)
    (out : overflows query.fromTime = true ∨ overflows query.toTime = true) :
    query.filter ≠ .error .builtin := by
  intro raised
  have noWindow : query.window = none := by
    cases isWindow : query.window with
    | none => rfl
    | some window =>
        obtain ⟨isLower, isUpper, _⟩ := windowBy_some (window_iff.mp isWindow).1
        rw [overflows_not_taken isLower, overflows_not_taken isUpper] at out
        exact absurd out (by decide)
  obtain ⟨⟨m, refused⟩, _⟩ := exact.refused noWindow
  unfold listAuditEvents at refused
  rw [raised] at refused
  cases refused

theorem WindowExact.precise (exact : WindowExact F settings db query)
    (sound : TrailSound F settings db) (signed : query.Signed) : Precise db query := by
  constructor
  · rw [← Bool.not_eq_true]
    intro out
    apply exact.not_builtin (Or.inl out)
    rw [signed.filter]
    unfold auditWindow
    rw [auditBound_overflows "from_time" out]
    rfl
  · intro taken
    rw [← Bool.not_eq_true]
    intro out
    apply exact.not_builtin (Or.inr out)
    obtain ⟨lower, isLower⟩ := Option.ne_none_iff_exists'.mp taken
    obtain ⟨cut, lowerOk, _⟩ := auditBound_taken "from_time" isLower
    rw [signed.filter]
    unfold auditWindow
    rw [lowerOk, auditBound_overflows "to_time" out]
    rfl
  · intro window cursor isRead isCursor
    obtain ⟨lowerCut, upperCut, _, _, taken⟩ := signed.filter_taken isRead isCursor
    have inTable : ∀ filter n, ∀ row ∈ (Database.selectAudit db filter).take n,
        row ∈ db.auditEvents := by
      intro filter n row member
      exact (List.mem_filter.mp (mem_orderBy.mp (List.mem_of_mem_take member))).1
    have isWindow : query.window = some window := by
      cases isWindow : query.window with
      | none =>
          obtain ⟨⟨m, refused⟩, _⟩ := exact.refused isWindow
          obtain ⟨events, listed, _⟩ := listed_times sound (inTable
            (cutFilter query.tenantId lowerCut upperCut cursor)
            (clampLimit query.limit auditMaxEventsPerExport))
          unfold listAuditEvents at refused
          rw [taken] at refused
          have impossible := listed.symm.trans refused
          cases impossible
      | some other =>
          rw [(window_iff.mp isWindow).1] at isRead
          exact isRead
    refine ⟨(window_iff.mp isWindow).2.1, (window_iff.mp isWindow).2.2, ?_⟩
    intro row member own after
    rw [← Bool.not_eq_true]
    intro cut
    obtain ⟨filter, first, rest, isFilter, isList, outside⟩ :=
      cutTo_listed sound signed isRead isCursor member own after cut
    obtain ⟨n, isLimit⟩ : ∃ n, clampLimit query.limit auditMaxEventsPerExport = n + 1 :=
      Nat.exists_eq_succ_of_ne_zero (Nat.ne_of_gt (clampLimit_pos _ _))
    obtain ⟨events, listed, times⟩ := listed_times sound (inTable filter (n + 1))
    have inWindow : ∀ row ∈ (Database.windowRows db query.tenantId window cursor).take (n + 1),
        row ∈ db.auditEvents ∧ window.admits row = true := by
      intro row member
      obtain ⟨stands, admitted⟩ := List.mem_filter.mp (mem_orderBy.mp (List.mem_of_mem_take member))
      rw [Bool.and_eq_true, Bool.and_eq_true] at admitted
      exact ⟨stands, admitted.1.2⟩
    obtain ⟨others, listedToo, otherTimes⟩ := listed_times sound
      (fun row member => (inWindow row member).1)
    have called := exact.listed window cursor isWindow isCursor
    unfold listAuditEvents at called
    rw [isFilter, isLimit] at called
    have same : events = others := Except.ok.inj (listed.symm.trans (called.trans listedToo))
    rw [isList, List.take_succ_cons, List.map_cons] at times
    rw [← same, times] at otherTimes
    obtain ⟨found, foundMember, sameTime⟩ :=
      List.mem_map.mp (otherTimes ▸ List.mem_cons_self : first.occurredAt ∈ _)
    have admitted := (inWindow found foundMember).2
    unfold InstantWindow.admits at admitted outside
    rw [sameTime, outside] at admitted
    cases admitted

/-- The calls select the events of a window by their instants, if and only if the query
is precise for the table. -/
theorem audit_windows_exact (sound : TrailSound F settings db) (signed : query.Signed) :
    WindowExact F settings db query ↔ Precise db query :=
  ⟨fun exact => exact.precise sound signed, fun precise => precise.exact sound signed⟩

end Exact

/-- A minute around the events. -/
def minuteQuery : AuditQuery where
  tenantId := "tenant-a"
  actor := "auditor"
  fromTime := some "1970-01-01T01:59:30.000999+02:00"
  toTime := some "19700101T000030Z"
  limit := 10
  cursor := none

def sinceQuery (fromTime : String) : AuditQuery :=
  { minuteQuery with fromTime := some fromTime, toTime := none }

theorem minuteQuery_signed : minuteQuery.Signed where
  tenant := by decide
  actor := by decide

theorem sinceQuery_signed (fromTime : String) : (sinceQuery fromTime).Signed where
  tenant := minuteQuery_signed.tenant
  actor := minuteQuery_signed.actor

theorem twoEvents_stamped {row : AuditEventRow} (member : row ∈ twoEvents.db.auditEvents) :
    row.occurredAt = Timestamp.epoch.isoformat := by
  obtain ⟨n, _, isRow⟩ := twoEvents_rows member
  rw [isRow]
  rfl

theorem audit_windows_exact_minute :
    WindowExact Empty Settings.standard twoEvents.db minuteQuery := by
  apply (audit_windows_exact twoEvents_behind.sound minuteQuery_signed).mpr
  refine ⟨by decide, fun _ => by decide, ?_⟩
  intro window cursor isRead _
  have isWindow : minuteQuery.windowBy zonedInstant =
      some ⟨some 62135683170000999, some 62135683230000000⟩ := by
    decide +kernel
  rw [isWindow] at isRead
  refine ⟨by decide, by decide, ?_⟩
  intro row member _ _
  rw [← Option.some.inj isRead, cutTo_stamped _ (twoEvents_stamped member)]
  decide

/-- A bound with microseconds selects events before it, a date out of UTC's range gets
an overflow out, and a `Z` in the middle of a text is read. -/
theorem audit_windows_inexact :
    TrailSound Empty Settings.standard twoEvents.db ∧
      (∀ fromTime, (sinceQuery fromTime).Signed) ∧
      ¬WindowExact Empty Settings.standard twoEvents.db
        (sinceQuery "1970-01-01T00:00:00.000500+00:00") ∧
      ¬WindowExact Empty Settings.standard twoEvents.db (sinceQuery "0001-01-01T00:00:00+01:00") ∧
      ¬WindowExact Empty Settings.standard twoEvents.db (sinceQuery "1970-01-01T00:00:00Z:30") := by
  refine ⟨twoEvents_behind.sound, sinceQuery_signed, ?_, ?_, ?_⟩
  · intro exact
    have precise := exact.precise twoEvents_behind.sound (sinceQuery_signed _)
    have isWindow : (sinceQuery "1970-01-01T00:00:00.000500+00:00").windowBy zonedInstant =
        some ⟨some 62135683200000500, none⟩ := by
      decide
    have apart := (precise.read _ none isWindow rfl).2.2 _ List.mem_cons_self rfl rfl
    rw [cutTo_stamped _ (twoEvents_stamped List.mem_cons_self)] at apart
    revert apart
    decide
  · intro exact
    have within := (exact.precise twoEvents_behind.sound (sinceQuery_signed _)).fromDates
    revert within
    decide
  · intro exact
    have precise := exact.precise twoEvents_behind.sound (sinceQuery_signed _)
    have isWindow : (sinceQuery "1970-01-01T00:00:00Z:30").windowBy zonedInstant =
        some ⟨some 62135683170000000, none⟩ := by
      decide +kernel
    have kept := (precise.read _ none isWindow rfl).1
    revert kept
    decide

end FolioLattice.Audit
