/-
The pages of an audit export: what one call takes of the rows that are left, and
what the calls of a whole export give together.
-/

import FolioLattice.Audit.Verified
import FolioLattice.Relational.Keyset
import FolioLattice.Store.Effects

namespace FolioLattice.Audit

open FolioLattice.Text FolioLattice.Data FolioLattice.Relational FolioLattice.Store
open FolioLattice.Effects (except_bind_ok forall₂_mem_right)

variable {F : Type} [FloatFormat F]

/-! ### Rows that the service stored -/

/-- The row of an event that `_build_audit_event` made. -/
def StoredRow (F : Type) [FloatFormat F] (settings : Settings) (row : AuditEventRow) : Prop :=
  ∃ (sealedEvent : SealedEvent F) (detailsJson : List Char), Built settings sealedEvent ∧
    dumps true sealedEvent.event.details = some detailsJson ∧
    row = sealedEvent.event.row (String.ofList detailsJson) sealedEvent.integrityHash

/-- The line of a row that passes verification. -/
structure ExportsAs (settings : Settings) (row : AuditEventRow)
    (pair : SealedEvent F × List Char) : Prop where
  verified : sealedRow settings row = .ok pair.1
  line : exportLine pair.1 = .ok pair.2

theorem StoredRow.exportsAs {settings : Settings} {row : AuditEventRow}
    (stored : StoredRow F settings row) :
    ∃ pair : SealedEvent F × List Char, ExportsAs settings row pair ∧
      2 * pair.2.length ≤ auditMaxExportBytes := by
  obtain ⟨sealedEvent, detailsJson, built, dumped, isRow⟩ := stored
  obtain ⟨line, isLine, short⟩ := exportLine_stored built
  refine ⟨(⟨sealedEvent.event.stored, sealedEvent.integrityHash⟩, line), ⟨?_, isLine⟩, short⟩
  rw [isRow]
  exact sealedRow_row built dumped

theorem sealedRow_fields {settings : Settings} {row : AuditEventRow} {event : SealedEvent F}
    (verified : sealedRow settings row = .ok event) :
    event.event.id = row.id ∧ event.event.occurredAt = row.occurredAt ∧
      event.event.action = row.action := by
  obtain ⟨read, verified, isEvent⟩ := except_bind_ok verified
  obtain ⟨read, isRead, verified⟩ := except_bind_ok verified
  obtain ⟨_, _, verified⟩ := except_bind_ok verified
  obtain ⟨_, _, isRow⟩ := except_bind_ok isRead
  rw [← Except.ok.inj isEvent]
  split at verified
  · rw [← Except.ok.inj verified, ← Except.ok.inj isRow]
    exact ⟨rfl, rfl, rfl⟩
  · cases verified

theorem StoredRow.stamped {settings : Settings} {row : AuditEventRow}
    (stored : StoredRow F settings row) :
    ∃ (t : Timestamp) (uuid : Uuid), row.occurredAt = t.isoformat ∧ row.id = newId "audit" uuid := by
  obtain ⟨sealedEvent, _, built, _, isRow⟩ := stored
  obtain ⟨uuid, isId⟩ := built.id
  obtain ⟨t, isTime⟩ := built.occurredAt
  rw [isRow]
  exact ⟨t, uuid, isTime, isId⟩

/-! ### The loop over the fetched batches -/

/-- The `for` loop over one batch, with the rows that are not fetched yet. -/
def exportBatch (settings : Settings) (limit : Nat) (later : List AuditEventRow) :
    (taken bytes : Nat) → List AuditEventRow →
      Except Failure (List (SealedEvent F × List Char) × Bool)
  | _, _, [] => .ok ([], false)
  | taken, bytes, row :: rest => do
      let sealedEvent ← sealedRow settings row
      let line ← exportLine sealedEvent
      if auditMaxExportBytes < bytes + line.length then
        if taken = 0 then .error (.folio "audit export exceeds the allowed size")
        else .ok ([], true)
      else if limit ≤ taken + 1 then
        .ok ([(sealedEvent, line)], decide (rest ≠ []) || decide (later ≠ []))
      else do
        let (more, hasMore) ← exportBatch settings limit later (taken + 1) (bytes + line.length) rest
        .ok ((sealedEvent, line) :: more, hasMore)

/-- The `while` loop: batches of 128 rows until one of them ends the page. -/
def exportBatches (settings : Settings) (limit : Nat) :
    Nat → (taken bytes : Nat) → List AuditEventRow →
      Except Failure (List (SealedEvent F × List Char) × Bool)
  | 0, _, _, _ => .ok ([], false)
  | fuel + 1, taken, bytes, rows =>
      if limit ≤ taken ∨ rows = [] then .ok ([], false)
      else do
        let (events, hasMore) ← exportBatch settings limit (rows.drop 128) taken bytes (rows.take 128)
        if hasMore ∨ limit ≤ taken + events.length then .ok (events, hasMore)
        else do
          let (more, hasMore) ← exportBatches settings limit fuel (taken + events.length)
            (bytes + (events.map (fun pair => pair.2.length)).sum) (rows.drop 128)
          .ok (events ++ more, hasMore)

theorem exportRows_full (settings : Settings) (limit bytes : Nat) (rows : List AuditEventRow) :
    (exportRows settings limit limit bytes rows :
        Except Failure (List (SealedEvent F × List Char) × Bool)) =
      .ok ([], decide (rows ≠ [])) := by
  cases rows with
  | nil => rfl
  | cons row rest =>
      rw [exportRows, if_pos rfl]
      rfl

/-- One batch is the beginning of the loop over all rows. -/
theorem exportRows_batch {settings : Settings} {limit : Nat} (batch later : List AuditEventRow)
    {taken : Nat} (room : taken < limit) (bytes : Nat) :
    (exportRows settings limit taken bytes (batch ++ later) :
        Except Failure (List (SealedEvent F × List Char) × Bool)) = (do
      let (events, hasMore) ← exportBatch settings limit later taken bytes batch
      if hasMore ∨ limit ≤ taken + events.length then .ok (events, hasMore)
      else do
        let (more, hasMore) ← exportRows settings limit (taken + events.length)
          (bytes + (events.map (fun pair => pair.2.length)).sum) later
        .ok (events ++ more, hasMore)) := by
  induction batch generalizing taken bytes with
  | nil =>
      simp only [exportBatch, List.nil_append, bind, Except.bind, List.length_nil, List.map_nil,
        List.sum_nil, Nat.add_zero, Bool.false_eq_true, false_or, if_neg (Nat.not_le_of_lt room)]
      cases (exportRows settings limit taken bytes later :
          Except Failure (List (SealedEvent F × List Char) × Bool)) with
      | error e => rfl
      | ok result => rfl
  | cons row rest ih =>
      rw [exportBatch, List.cons_append, exportRows, if_neg (Nat.ne_of_lt room)]
      cases (sealedRow settings row : Except Failure (SealedEvent F)) with
      | error e => rfl
      | ok sealedEvent =>
          simp only [bind, Except.bind]
          cases exportLine sealedEvent with
          | error e => rfl
          | ok line =>
              dsimp only
              by_cases tooLong : auditMaxExportBytes < bytes + line.length
              · simp only [if_pos tooLong]
                split
                · rfl
                · rfl
              · simp only [if_neg tooLong]
                by_cases last : limit ≤ taken + 1
                · have isLimit : taken + 1 = limit := Nat.le_antisymm room last
                  have stops : (decide (rest ≠ []) || decide (later ≠ [])) =
                      decide (rest ++ later ≠ []) := by
                    rw [← Bool.decide_or]
                    apply decide_eq_decide.mpr
                    rw [ne_eq, ne_eq, ne_eq, List.append_eq_nil_iff, not_and_or]
                  simp only [isLimit, exportRows_full, stops, List.length_singleton,
                    Nat.le_refl, or_true, if_true]
                · simp only [if_neg last]
                  rw [ih (Nat.lt_of_not_le last)]
                  cases (exportBatch settings limit later (taken + 1) (bytes + line.length) rest :
                      Except Failure (List (SealedEvent F × List Char) × Bool)) with
                  | error e => rfl
                  | ok result =>
                      obtain ⟨events, hasMore⟩ := result
                      have count : taken + ((sealedEvent, line) :: events).length =
                          taken + 1 + events.length := by
                        rw [List.length_cons]
                        omega
                      have size : bytes + (((sealedEvent, line) :: events).map
                          (fun pair => pair.2.length)).sum =
                            bytes + line.length + (events.map (fun pair => pair.2.length)).sum := by
                        rw [List.map_cons, List.sum_cons]
                        dsimp only
                        omega
                      simp only [bind, Except.bind, count, size]
                      by_cases ends : hasMore = true ∨ limit ≤ taken + 1 + events.length
                      · simp only [if_pos ends]
                      · simp only [if_neg ends]
                        cases (exportRows settings limit (taken + 1 + events.length)
                            (bytes + line.length + (events.map (fun pair => pair.2.length)).sum)
                              later : Except Failure (List (SealedEvent F × List Char) × Bool)) with
                        | error e => rfl
                        | ok rest => rfl

/-- Fetching in batches makes no difference. -/
theorem exportBatches_eq {settings : Settings} {limit : Nat} (rows : List AuditEventRow)
    {fuel taken : Nat} (enough : rows.length < fuel) (room : taken < limit) (bytes : Nat) :
    (exportBatches settings limit fuel taken bytes rows :
        Except Failure (List (SealedEvent F × List Char) × Bool)) =
      exportRows settings limit taken bytes rows := by
  induction fuel generalizing rows taken bytes with
  | zero => exact absurd enough (Nat.not_lt_zero _)
  | succ fuel ih =>
      rw [exportBatches]
      by_cases none : rows = []
      · rw [if_pos (Or.inr none), none]
        rfl
      · have split : exportRows settings limit taken bytes (rows.take 128 ++ rows.drop 128) =
            (exportRows settings limit taken bytes rows :
              Except Failure (List (SealedEvent F × List Char) × Bool)) := by
          rw [List.take_append_drop]
        have going : ¬(limit ≤ taken ∨ rows = []) := by
          rintro (full | empty)
          · omega
          · exact none empty
        rw [if_neg going, ← split, exportRows_batch _ _ room]
        congr 1
        funext result
        obtain ⟨events, hasMore⟩ := result
        dsimp only
        split
        · rfl
        · rename_i goesOn
          have fewer : (rows.drop 128).length < fuel := by
            have positive := List.length_pos_of_ne_nil none
            rw [List.length_drop]
            omega
          rw [ih (rows.drop 128) fewer (by
            rw [not_or] at goesOn
            exact Nat.lt_of_not_le goesOn.2)]

/-! ### What one page takes -/

/-- The first rows of those that are left, within the limits of a page. -/
structure PageRows (settings : Settings) (limit budget : Nat) (rows : List AuditEventRow)
    (pairs : List (SealedEvent F × List Char)) : Prop where
  exported : List.Forall₂ (ExportsAs settings) (rows.take pairs.length) pairs
  few : pairs.length ≤ limit
  fewer : pairs.length ≤ rows.length
  short : (pairs.map (fun pair => pair.2.length)).sum ≤ budget

/-- With half of the budget left, a row fits. -/
theorem exportRows_spec {settings : Settings} {limit : Nat} {rows : List AuditEventRow}
    (stored : ∀ row ∈ rows, StoredRow F settings row) {taken bytes : Nat} (room : taken ≤ limit)
    (within : bytes ≤ auditMaxExportBytes) (fresh : taken = 0 → bytes = 0) :
    ∃ pairs : List (SealedEvent F × List Char),
      exportRows settings limit taken bytes rows = .ok (pairs, decide (pairs.length < rows.length)) ∧
        PageRows settings (limit - taken) (auditMaxExportBytes - bytes) rows pairs ∧
        (rows ≠ [] → taken < limit → 2 * bytes ≤ auditMaxExportBytes → pairs ≠ []) ∧
        (2 ≤ rows.length → taken + 2 ≤ limit → bytes = 0 → 2 ≤ pairs.length) := by
  induction rows generalizing taken bytes with
  | nil =>
      refine ⟨[], rfl, ⟨.nil, Nat.zero_le _, Nat.le_refl _, Nat.zero_le _⟩, ?_, ?_⟩
      · intro some
        exact absurd rfl some
      · intro two
        exact absurd two (by decide)
  | cons row rest ih =>
      rw [exportRows]
      by_cases full : taken = limit
      · rw [if_pos full]
        refine ⟨[], rfl, ⟨.nil, Nat.zero_le _, Nat.zero_le _, Nat.zero_le _⟩, ?_, ?_⟩
        · intro _ less
          exact absurd full (Nat.ne_of_lt less)
        · intro _ less
          omega
      · obtain ⟨⟨sealedEvent, line⟩, exportsAs, half⟩ :=
          (stored row List.mem_cons_self).exportsAs
        dsimp only at half
        rw [if_neg full, exportsAs.verified]
        simp only [bind, Except.bind]
        rw [exportsAs.line]
        dsimp only
        by_cases tooLong : auditMaxExportBytes < bytes + line.length
        · have started : taken ≠ 0 := by
            intro zero
            rw [fresh zero] at tooLong
            omega
          rw [if_pos tooLong, if_neg started]
          refine ⟨[], rfl, ⟨.nil, Nat.zero_le _, Nat.zero_le _, Nat.zero_le _⟩, ?_, ?_⟩
          · intro _ _ halfLeft
            omega
          · intro _ _ zero
            omega
        · rw [if_neg tooLong]
          obtain ⟨pairs, done, page, fits, _⟩ :=
            ih (fun other member => stored other (List.mem_cons_of_mem _ member))
              (show taken + 1 ≤ limit by omega) (Nat.le_of_not_lt tooLong)
              (fun impossible => absurd impossible (Nat.succ_ne_zero taken))
          rw [done]
          refine ⟨(sealedEvent, line) :: pairs, ?_, ⟨.cons exportsAs page.exported, ?_, ?_, ?_⟩,
            ?_, ?_⟩
          · simp only [List.length_cons, Nat.add_lt_add_iff_right]
          · have few := page.few
            rw [List.length_cons]
            omega
          · exact Nat.succ_le_succ page.fewer
          · have short := page.short
            rw [List.map_cons, List.sum_cons]
            dsimp only
            omega
          · intro _ _ _
            exact List.cons_ne_nil _ _
          · intro two more zero
            have someMore : rest ≠ [] := by
              intro empty
              rw [empty, List.length_singleton] at two
              omega
            have positive := List.length_pos_of_ne_nil
              (fits someMore (by omega) (by rw [zero]; omega))
            rw [List.length_cons]
            omega

/-! ### The rows that are left -/

/-- The time and id of an event. -/
abbrev AuditKey : Type := String ×ₗ String

/-- The cursor of an event with this key. -/
def auditCursorText (key : AuditKey) : String := (ofLex key).1 ++ "|" ++ (ofLex key).2

def StampedKey (key : AuditKey) : Prop :=
  ∃ (t : Timestamp) (uuid : Uuid), key = toLex (t.isoformat, newId "audit" uuid)

/-- What the service keeps in its table of events: rows it built, under distinct ids. -/
structure TrailSound (F : Type) [FloatFormat F] (settings : Settings) (db : Database) : Prop where
  ids : KeyedBy (·.id) db.auditEvents
  stored : ∀ row ∈ db.auditEvents, StoredRow F settings row

/-- The rows of a window after a key, in order. -/
def rowsAfter (db : Database) (window : AuditFilter) (cursor : Option AuditKey) :
    List AuditEventRow :=
  Database.selectAudit db { window with cursor := cursor.map ofLex }

/-- The keys of all rows of a window. -/
def auditKeys (db : Database) (window : AuditFilter) : List AuditKey :=
  (db.auditEvents.filter window.admits).map auditKey

/-- The window that a query opens with its first call. -/
structure AuditQuery.Opens (query : AuditQuery) (window : AuditFilter) : Prop where
  accepted : ({ query with cursor := none } : AuditQuery).filter = .ok window

section Left

variable {settings : Settings} {db : Database} {query : AuditQuery} {window : AuditFilter}
  {cursor : Option AuditKey}

theorem auditKey_keyedBy {rows : List AuditEventRow} (keyed : KeyedBy (·.id) rows) :
    KeyedBy auditKey rows := by
  apply List.Nodup.of_map (fun key => (ofLex key).2)
  rw [List.map_map]
  exact keyed

theorem auditKeys_nodup (ids : KeyedBy (·.id) db.auditEvents) : (auditKeys db window).Nodup :=
  auditKey_keyedBy (ids.filter _)

omit [FloatFormat F] in
theorem AuditQuery.Opens.fields (opens : query.Opens window) :
    validateToken "tenant_id" query.tenantId = .ok () ∧
      validateToken "actor_id" query.actor = .ok () ∧
      auditWindow query.fromTime query.toTime = .ok (window.fromTime, window.toTime) ∧
      window.tenantId = query.tenantId ∧ window.cursor = none := by
  have accepted := opens.accepted
  unfold AuditQuery.filter at accepted
  obtain ⟨_, tenant, accepted⟩ := except_bind_ok accepted
  obtain ⟨_, actor, accepted⟩ := except_bind_ok accepted
  obtain ⟨bounds, isWindow, accepted⟩ := except_bind_ok accepted
  obtain ⟨parsed, isCursor, accepted⟩ := except_bind_ok accepted
  rw [← Except.ok.inj accepted, ← Except.ok.inj isCursor]
  exact ⟨tenant, actor, isWindow, rfl, rfl⟩

/-- A cursor made of an event selects the rows after it. -/
theorem AuditQuery.Opens.after (opens : query.Opens window)
    (stamped : ∀ key, cursor = some key → StampedKey key) :
    ({ query with cursor := cursor.map auditCursorText } : AuditQuery).filter =
      .ok { window with cursor := cursor.map ofLex } := by
  obtain ⟨tenant, actor, isWindow, sameTenant, _⟩ := opens.fields
  have parsed : parseAuditCursor (cursor.map auditCursorText) = .ok (cursor.map ofLex) := by
    cases cursor with
    | none => rfl
    | some key =>
        obtain ⟨t, uuid, isKey⟩ := stamped key rfl
        subst isKey
        have issued : parseArtifactListCursor
            (auditCursorText (toLex (t.isoformat, newId "audit" uuid))) =
              .ok (t.isoformat, newId "audit" uuid) :=
          parse_newId_cursor t (by decide) (by decide) uuid
        rw [Option.map_some, parseAuditCursor, issued]
        rfl
  unfold AuditQuery.filter
  simp only [tenant, actor, isWindow, parsed, bind, Except.bind, sameTenant]

theorem mem_rowsAfter (noCursor : window.cursor = none) {row : AuditEventRow} :
    row ∈ rowsAfter db window cursor ↔
      (row ∈ db.auditEvents ∧ window.admits row = true) ∧
        ∀ key, cursor = some key → key < auditKey row := by
  unfold rowsAfter Database.selectAudit
  rw [mem_orderBy, List.mem_filter]
  cases cursor with
  | none =>
      have same : ({ window with cursor := none } : AuditFilter) = window := by
        rw [← noCursor]
      rw [Option.map_none, same]
      simp only [reduceCtorEq, false_implies, implies_true, and_true]
  | some key =>
      have later : (decide ((ofLex key).1 < row.occurredAt) ||
          (decide (row.occurredAt = (ofLex key).1) && decide ((ofLex key).2 < row.id))) = true ↔
            key < auditKey row := by
        rw [Prod.Lex.lt_iff]
        simp only [Bool.or_eq_true, Bool.and_eq_true, decide_eq_true_eq]
        rw [eq_comm (a := row.occurredAt)]
        rfl
      unfold AuditFilter.admits
      rw [noCursor]
      simp only [Option.map_some, Option.all_some, Option.all_none, Bool.and_true, Bool.and_eq_true,
        later, Option.some.injEq, forall_eq', and_assoc]

theorem rowsAfter_keys (ids : KeyedBy (·.id) db.auditEvents) (noCursor : window.cursor = none) :
    (rowsAfter db window cursor).map auditKey = keysAfter cursor (auditKeys db window) := by
  apply keysAfter_unique (auditKeys_nodup ids)
  · apply List.pairwise_map.mpr
    exact orderBy_strict (auditKey_keyedBy (ids.filter _))
  · intro key
    rw [mem_keysAfter, List.mem_map]
    unfold auditKeys
    rw [List.mem_map]
    constructor
    · rintro ⟨row, left, isKey⟩
      obtain ⟨admitted, after⟩ := (mem_rowsAfter noCursor).mp left
      rw [isKey] at after
      exact ⟨⟨row, List.mem_filter.mpr admitted, isKey⟩, after⟩
    · rintro ⟨⟨row, admitted, isKey⟩, after⟩
      rw [← isKey] at after
      exact ⟨row, (mem_rowsAfter noCursor).mpr ⟨List.mem_filter.mp admitted, after⟩, isKey⟩

end Left

/-! ### One call -/

section Call

variable {settings : Settings} {query : AuditQuery} {filter : AuditFilter}

theorem exportPage_spec {db : Database} (sound : TrailSound F settings db)
    (isFilter : query.filter = .ok filter) :
    ∃ pairs : List (SealedEvent F × List Char),
      exportPage settings db query = .ok ⟨filter, pairs.map (·.1), pairs.map (·.2),
        decide (pairs.length < (Database.selectAudit db filter).length)⟩ ∧
      PageRows settings (clampLimit query.limit auditMaxEventsPerExport) auditMaxExportBytes
        (Database.selectAudit db filter) pairs ∧
      (Database.selectAudit db filter ≠ [] → pairs ≠ []) ∧
      (2 ≤ (Database.selectAudit db filter).length →
        2 ≤ clampLimit query.limit auditMaxEventsPerExport → 2 ≤ pairs.length) := by
  have positive : 0 < clampLimit query.limit auditMaxEventsPerExport := by
    unfold clampLimit
    omega
  have stored : ∀ row ∈ (Database.selectAudit db filter).take
      (clampLimit query.limit auditMaxEventsPerExport + 1), StoredRow F settings row := by
    intro row member
    exact sound.stored row
      (List.mem_filter.mp (mem_orderBy.mp (List.mem_of_mem_take member))).1
  obtain ⟨pairs, done, page, fits, two⟩ :=
    exportRows_spec stored (Nat.zero_le (clampLimit query.limit auditMaxEventsPerExport))
      (Nat.zero_le _) (fun _ => rfl)
  have few := page.few
  rw [Nat.sub_zero] at few
  have some : decide (pairs.length < ((Database.selectAudit db filter).take
      (clampLimit query.limit auditMaxEventsPerExport + 1)).length) =
        decide (pairs.length < (Database.selectAudit db filter).length) := by
    apply decide_eq_decide.mpr
    rw [List.length_take]
    omega
  have fewer := page.fewer
  have short := page.short
  have exported := page.exported
  rw [List.take_take, Nat.min_eq_left (by omega)] at exported
  rw [List.length_take] at fewer two
  refine ⟨pairs, ?_, ⟨exported, few, by omega, short⟩, ?_, ?_⟩
  · unfold exportPage
    simp only [isFilter, bind, Except.bind, done, some]
  · intro left
    apply fits ?_ positive (Nat.zero_le _)
    intro nothing
    rcases List.take_eq_nil_iff.mp nothing with zero | empty
    · exact absurd zero (Nat.succ_ne_zero _)
    · exact left empty
  · intro more room
    exact two (by omega) (by omega) rfl

/-- The event of an export, as it is stored. -/
structure OwnEvent (F : Type) [FloatFormat F] (settings : Settings) (draw : ExportDraw)
    (query : AuditQuery) (row : AuditEventRow) : Prop where
  stored : StoredRow F settings row
  id : row.id = newId "audit" draw.event.eventId
  occurredAt : row.occurredAt = draw.event.now.isoformat
  tenantId : row.tenantId = query.tenantId
  action : row.action = "audit_export"
  resourceId : row.resourceId = some (newId "audit-export" draw.exportId)

/-- What a call that succeeds has added to the tables. -/
structure CommittedExport (F : Type) [FloatFormat F] (settings : Settings) (draw : ExportDraw)
    (query : AuditQuery) (store store' : AuditStore) (receipt : ExportReceipt F) : Prop where
  exported : ∃ row : AuditExportRow, store'.exports = store.exports ++ [row] ∧
    row.id = receipt.exportId ∧ row.tenantId = query.tenantId ∧ row.requestedBy = query.actor ∧
    row.eventCount = receipt.eventCount ∧ row.checksum = receipt.checksum
  recorded : ∃ own : AuditEventRow, OwnEvent F settings draw query own ∧
    own.resourceId = some receipt.exportId ∧
    store'.db.auditEvents = store.db.auditEvents ++ [own] ∧
    ∀ old ∈ store.db.auditEvents, old.id ≠ own.id

/-- What a call that succeeds returns, of the rows that were left. -/
structure ExportedPage (settings : Settings) (limit : Nat) (rows : List AuditEventRow)
    (receipt : ExportReceipt F) : Prop where
  events : List.Forall₂ (fun row event => sealedRow settings row = .ok event)
    (rows.take receipt.events.length) receipt.events
  fewer : receipt.events.length ≤ rows.length
  few : receipt.events.length ≤ limit
  ndjson : ∃ lines, List.Forall₂ (fun event line => exportLine event = .ok line)
      receipt.events lines ∧ lines.flatten.length ≤ auditMaxExportBytes ∧
    exportChecksum settings lines = .ok receipt.checksum
  eventCount : receipt.eventCount = receipt.events.length
  nonempty : rows ≠ [] → receipt.events ≠ []
  complete : receipt.nextCursor = none ↔ receipt.events.length = rows.length
  cursor : ∀ text, receipt.nextCursor = some text →
    ∃ row, (rows.take receipt.events.length).getLast? = some row ∧
      text = auditCursorText (auditKey row)

theorem insertAuditEvent_ok {sealedEvent : SealedEvent F} {db db' : Database}
    (inserted : insertAuditEvent sealedEvent db = .ok db') :
    ∃ detailsJson, dumps true sealedEvent.event.details = some detailsJson ∧
      db'.auditEvents = db.auditEvents ++
        [sealedEvent.event.row (String.ofList detailsJson) sealedEvent.integrityHash] ∧
      ∀ old ∈ db.auditEvents, old.id ≠ sealedEvent.event.id := by
  unfold insertAuditEvent at inserted
  split at inserted
  · cases inserted
  · rename_i detailsJson dumped
    split at inserted
    · obtain ⟨events, added, isDb⟩ := except_bind_ok inserted
      obtain ⟨appended, fresh⟩ := insertUnique_ok added
      rw [← Except.ok.inj isDb, appended]
      refine ⟨detailsJson, dumped, rfl, ?_⟩
      intro old member same
      exact absurd same.symm (of_decide_eq_false (fresh old member))
    · cases inserted

/-- No cursor is given exactly when the page took all rows. -/
theorem nextCursor_none_iff {limit budget : Nat} {rows : List AuditEventRow}
    {pairs : List (SealedEvent F × List Char)} (page : PageRows settings limit budget rows pairs)
    (some : rows ≠ [] → pairs ≠ []) :
    (if decide (pairs.length < rows.length) = true then
        (pairs.map (·.1)).getLast?.map (fun last => last.event.cursor) else none) = none ↔
      pairs.length = rows.length := by
  have fewer := page.fewer
  by_cases more : pairs.length < rows.length
  · have left : rows ≠ [] := List.ne_nil_of_length_pos (Nat.zero_lt_of_lt more)
    have events : (pairs.map (·.1)).getLast? ≠ none := by
      rw [ne_eq, List.getLast?_eq_none_iff, List.map_eq_nil_iff]
      exact some left
    rw [if_pos (decide_eq_true more), Option.map_eq_none_iff]
    constructor
    · intro impossible
      exact absurd impossible events
    · intro same
      exact absurd same (Nat.ne_of_lt more)
  · rw [if_neg (by rw [decide_eq_true_eq]; exact more)]
    constructor
    · intro _
      omega
    · intro _
      rfl

/-- A cursor is that of the last row of the page. -/
theorem nextCursor_some {limit budget : Nat} {rows : List AuditEventRow}
    {pairs : List (SealedEvent F × List Char)} (page : PageRows settings limit budget rows pairs)
    {text : String}
    (isText : (if decide (pairs.length < rows.length) = true then
        (pairs.map (·.1)).getLast?.map (fun last => last.event.cursor) else none) = some text) :
    ∃ row, (rows.take pairs.length).getLast? = some row ∧ text = auditCursorText (auditKey row) := by
  split at isText
  · obtain ⟨event, isLast, isCursor⟩ := Option.map_eq_some_iff.mp isText
    rw [List.getLast?_map] at isLast
    obtain ⟨pair, lastPair, isEvent⟩ := Option.map_eq_some_iff.mp isLast
    obtain ⟨front, isPairs⟩ := List.getLast?_eq_some_iff.mp lastPair
    obtain ⟨row, inside, exportsAs⟩ :
        ∃ row, (rows.take pairs.length).getLast? = some row ∧ ExportsAs settings row pair := by
      have exported := (List.forall₂_reverse_iff.mpr page.exported)
      rw [isPairs, List.reverse_append] at exported
      obtain ⟨row, rest, exportsAs, _, isRows⟩ := List.forall₂_cons_right_iff.mp exported
      refine ⟨row, ?_, exportsAs⟩
      rw [← List.head?_reverse, isPairs, isRows]
      rfl
    obtain ⟨sameId, sameTime, _⟩ := sealedRow_fields exportsAs.verified
    refine ⟨row, inside, ?_⟩
    rw [← isCursor, ← isEvent]
    unfold AuditEvent.cursor auditCursorText auditKey
    rw [sameId, sameTime]
    rfl
  · cases isText

theorem exportReceipt_page {limit : Nat} {rows : List AuditEventRow} (filter : AuditFilter)
    {pairs : List (SealedEvent F × List Char)}
    (page : PageRows settings limit auditMaxExportBytes rows pairs)
    (someTaken : rows ≠ [] → pairs ≠ []) {row : AuditExportRow}
    (summed : exportChecksum settings (pairs.map (·.2)) = .ok row.checksum) :
    ExportedPage settings limit rows (exportReceipt row
      ⟨filter, pairs.map (·.1), pairs.map (·.2), decide (pairs.length < rows.length)⟩) := by
  have length : (pairs.map (·.1)).length = pairs.length := List.length_map _
  have lines : List.Forall₂ (fun event line => exportLine event = .ok line) (pairs.map (·.1))
      (pairs.map (·.2)) := by
    rw [List.forall₂_map_left_iff, List.forall₂_map_right_iff, List.forall₂_same]
    intro pair member
    obtain ⟨row, _, exportsAs⟩ := forall₂_mem_right page.exported member
    exact exportsAs.line
  have events : List.Forall₂ (fun row event => sealedRow settings row = .ok event)
      (rows.take pairs.length) (pairs.map (·.1)) := by
    rw [List.forall₂_map_right_iff]
    exact page.exported.imp (fun row pair exportsAs => exportsAs.verified)
  have total : (pairs.map Prod.snd).flatten.length ≤ auditMaxExportBytes := by
    rw [List.length_flatten, List.map_map]
    exact page.short
  constructor
  · show List.Forall₂ _ (rows.take (pairs.map (·.1)).length) _
    rw [length]
    exact events
  · exact length.le.trans page.fewer
  · exact length.le.trans page.few
  · exact ⟨pairs.map Prod.snd, lines, total, summed⟩
  · rfl
  · intro left empty
    exact someTaken left (List.map_eq_nil_iff.mp empty)
  · show _ ↔ (pairs.map (·.1)).length = rows.length
    rw [length]
    exact nextCursor_none_iff page someTaken
  · intro text isText
    show ∃ row, (rows.take (pairs.map (·.1)).length).getLast? = some row ∧ _
    rw [length]
    exact nextCursor_some page isText

theorem exportAuditEvents_ok {draw : ExportDraw} {store store' : AuditStore}
    {receipt : ExportReceipt F} (sound : TrailSound F settings store.db)
    (isFilter : query.filter = .ok filter)
    (done : exportAuditEvents settings draw query store = .ok (store', receipt)) :
    ExportedPage settings (clampLimit query.limit auditMaxEventsPerExport)
        (Database.selectAudit store.db filter) receipt ∧
      (2 ≤ (Database.selectAudit store.db filter).length →
        2 ≤ clampLimit query.limit auditMaxEventsPerExport → 2 ≤ receipt.events.length) ∧
      CommittedExport F settings draw query store store' receipt := by
  obtain ⟨pairs, read, page, some, two⟩ := exportPage_spec sound isFilter
  unfold exportAuditEvents at done
  rw [read] at done
  obtain ⟨page', isPage, done⟩ := except_bind_ok done
  have samePage := Except.ok.inj isPage
  subst samePage
  obtain ⟨⟨row, own⟩, prepared, done⟩ := except_bind_ok done
  obtain ⟨store'', committed, done⟩ := except_bind_ok done
  obtain ⟨sameStore, isReceipt⟩ := Prod.mk.inj (Except.ok.inj done)
  subst sameStore
  unfold prepareExport at prepared
  split at prepared
  · cases prepared
  · obtain ⟨checksum, summed, prepared⟩ := except_bind_ok prepared
    obtain ⟨built, isBuilt, prepared⟩ := except_bind_ok prepared
    obtain ⟨isRow, sameOwn⟩ := Prod.mk.inj (Except.ok.inj prepared)
    subst sameOwn
    obtain ⟨ownBuilt, ownId, ownTime, ownTenant, ownAction, ownResource⟩ := buildAuditEvent_ok isBuilt
    unfold commitExport at committed
    obtain ⟨db, ensured, committed⟩ := except_bind_ok committed
    obtain ⟨exports, exported, committed⟩ := except_bind_ok committed
    obtain ⟨db', inserted, isStore⟩ := except_bind_ok committed
    obtain ⟨_, tenants, isDb⟩ := ensureTenant_ok ensured
    subst isDb
    obtain ⟨sameExports, _⟩ := insertUnique_ok exported
    obtain ⟨detailsJson, dumped, sameEvents, fresh⟩ := insertAuditEvent_ok inserted
    have own : StoredRow F settings
        (built.event.row (String.ofList detailsJson) built.integrityHash) :=
      ⟨built, detailsJson, ownBuilt, dumped, rfl⟩
    have summedRow : exportChecksum settings (pairs.map (·.2)) = .ok row.checksum := by
      rw [← isRow]
      exact summed
    rw [← isReceipt]
    refine ⟨exportReceipt_page filter page some summedRow, ?_, ⟨⟨row, ?_, rfl, ?_, ?_, ?_, rfl⟩, ?_⟩⟩
    · intro more room
      show 2 ≤ (pairs.map (·.1)).length
      rw [List.length_map]
      exact two more room
    · rw [← Except.ok.inj isStore]
      exact sameExports
    · rw [← isRow]
    · rw [← isRow]
    · rw [← isRow]
      rfl
    · rw [← isRow, ← Except.ok.inj isStore]
      exact ⟨_, ⟨own, ownId, ownTime, ownTenant, ownAction, ownResource⟩, ownResource, sameEvents,
        fresh⟩

end Call

end FolioLattice.Audit
