/-
Whole exports: call after call, each from the cursor of the one before, while every
call adds an event of its own.
-/

import FolioLattice.Audit.Life

namespace FolioLattice.Audit

open FolioLattice.Text FolioLattice.Data FolioLattice.Relational FolioLattice.Store
open FolioLattice.Effects (except_bind_ok forall₂_mem_right)

variable {F : Type} [FloatFormat F]

/-! ### Calls in a row -/

def AuditQuery.from' (query : AuditQuery) (cursor : Option String) : AuditQuery :=
  { query with cursor := cursor }

/-- Calls that all return a cursor, each beside the tables it read, up to the tables
and the cursor that they leave. -/
inductive ExportCalls (F : Type) [FloatFormat F] (settings : Settings) (query : AuditQuery)
    (draws : Nat → ExportDraw) : Nat → AuditStore → Option String →
      List (AuditStore × ExportReceipt F) → AuditStore → Option String → Prop where
  | start {n : Nat} {store : AuditStore} {cursor : Option String} :
      ExportCalls F settings query draws n store cursor [] store cursor
  | next {n : Nat} {store store' last : AuditStore} {cursor lastCursor : Option String}
      {text : String} {receipt : ExportReceipt F} {calls : List (AuditStore × ExportReceipt F)}
      (called : exportAuditEvents settings (draws n) (query.from' cursor) store =
        .ok (store', receipt))
      (goesOn : receipt.nextCursor = some text)
      (rest : ExportCalls F settings query draws (n + 1) store' (some text) calls last lastCursor) :
      ExportCalls F settings query draws n store cursor ((store, receipt) :: calls) last lastCursor

/-- Calls up to the one that returns no cursor. -/
inductive ExportRun (F : Type) [FloatFormat F] (settings : Settings) (query : AuditQuery)
    (draws : Nat → ExportDraw) : Nat → AuditStore → Option String →
      List (AuditStore × ExportReceipt F) → Prop where
  | last {n : Nat} {store store' : AuditStore} {cursor : Option String} {receipt : ExportReceipt F}
      (called : exportAuditEvents settings (draws n) (query.from' cursor) store =
        .ok (store', receipt))
      (ended : receipt.nextCursor = none) :
      ExportRun F settings query draws n store cursor [(store, receipt)]
  | more {n : Nat} {store store' : AuditStore} {cursor : Option String} {text : String}
      {receipt : ExportReceipt F} {calls : List (AuditStore × ExportReceipt F)}
      (called : exportAuditEvents settings (draws n) (query.from' cursor) store =
        .ok (store', receipt))
      (goesOn : receipt.nextCursor = some text)
      (rest : ExportRun F settings query draws (n + 1) store' (some text) calls) :
      ExportRun F settings query draws n store cursor ((store, receipt) :: calls)

def SealedEvent.key (event : SealedEvent F) : AuditKey :=
  toLex (event.event.occurredAt, event.event.id)

/-- A time within the bounds of the window. -/
def AuditFilter.spans (window : AuditFilter) (time : String) : Bool :=
  window.fromTime.all (fun lower => lower ≤ time) && window.toTime.all (fun upper => time ≤ upper)

/-! ### One call of a run -/

section Step

variable {settings : Settings} {query : AuditQuery} {window : AuditFilter}
  {cursor : Option AuditKey} {draw : ExportDraw} {store store' : AuditStore}
  {receipt : ExportReceipt F}

/-- What a call does, in terms of the keys it started from. -/
theorem export_step (sound : TrailSound F settings store.db) (opens : query.Opens window)
    (stamped : ∀ key, cursor = some key → StampedKey key)
    (called : exportAuditEvents settings draw (query.from' (cursor.map auditCursorText)) store =
      .ok (store', receipt)) :
    ExportedPage settings (clampLimit query.limit auditMaxEventsPerExport)
        (rowsAfter store.db window cursor) receipt ∧
      (2 ≤ (rowsAfter store.db window cursor).length →
        2 ≤ clampLimit query.limit auditMaxEventsPerExport → 2 ≤ receipt.events.length) ∧
      CommittedExport F settings draw query store store' receipt ∧
      TrailSound F settings store'.db := by
  obtain ⟨page, two, committed⟩ :=
    exportAuditEvents_ok sound (opens.after stamped) called
  obtain ⟨own, ownEvent, _, appended, fresh⟩ := committed.recorded
  refine ⟨page, two, ⟨committed.exported, own, ?_, ?_, appended, fresh⟩,
    sound.append ownEvent.stored fresh appended⟩
  · exact ⟨ownEvent.stored, ownEvent.id, ownEvent.occurredAt, ownEvent.tenantId, ownEvent.action,
      ownEvent.resourceId⟩
  · assumption

theorem sealedRow_key {row : AuditEventRow} {event : SealedEvent F}
    (verified : sealedRow settings row = .ok event) : event.key = auditKey row := by
  obtain ⟨sameId, sameTime, _⟩ := sealedRow_fields verified
  unfold SealedEvent.key auditKey
  rw [sameId, sameTime]

/-- The events of a page have the keys of its rows. -/
theorem ExportedPage.keys {limit : Nat} {rows : List AuditEventRow}
    (page : ExportedPage settings limit rows receipt) :
    receipt.events.map SealedEvent.key = (rows.map auditKey).take receipt.events.length := by
  rw [← List.map_take]
  have events := page.events
  generalize rows.take receipt.events.length = taken at events
  generalize receipt.events = read at events
  induction events with
  | nil => rfl
  | cons verified _ ih =>
      rw [List.map_cons, List.map_cons, ih, sealedRow_key verified]

/-- The cursor of a page is the key of its last event. -/
theorem ExportedPage.next {limit : Nat} (sound : TrailSound F settings store.db)
    (noCursor : window.cursor = none)
    (page : ExportedPage settings limit (rowsAfter store.db window cursor) receipt) {text : String}
    (isText : receipt.nextCursor = some text) :
    ∃ key, text = auditCursorText key ∧ StampedKey key ∧
      (keyPage receipt.events.length cursor (auditKeys store.db window)).getLast? = some key := by
  obtain ⟨row, isLast, isCursor⟩ := page.cursor text isText
  have member := List.mem_of_mem_take (List.mem_of_getLast? isLast)
  obtain ⟨⟨stored, _⟩, _⟩ := (mem_rowsAfter noCursor).mp member
  obtain ⟨t, uuid, isTime, isId⟩ := (sound.stored row stored).stamped
  refine ⟨auditKey row, isCursor, ⟨t, uuid, ?_⟩, ?_⟩
  · unfold auditKey
    rw [isTime, isId]
  · unfold keyPage
    rw [← rowsAfter_keys sound.ids noCursor, ← List.map_take, List.getLast?_map, isLast]
    rfl

end Step

/-! ### The calls of a run -/

/-- Tables that hold the rows of old ones, and beside them only events of exports. -/
def Since (F : Type) [FloatFormat F] (settings : Settings) (query : AuditQuery)
    (draws : Nat → ExportDraw) (old db : Database) : Prop :=
  ∃ owns, db.auditEvents = old.auditEvents ++ owns ∧
    ∀ own ∈ owns, ∃ n, OwnEvent F settings (draws n) query own

/-- What is true of each call of a run: of the tables it read, and of what it gave. -/
structure RunCall (settings : Settings) (query : AuditQuery) (window : AuditFilter)
    (draws : Nat → ExportDraw) (old : Database) (call : AuditStore × ExportReceipt F) : Prop where
  sound : TrailSound F settings call.1.db
  since : Since F settings query draws old call.1.db
  page : ∃ cursor, ExportedPage settings (clampLimit query.limit auditMaxEventsPerExport)
    (rowsAfter call.1.db window cursor) call.2
  committed : ∃ n store, CommittedExport F settings (draws n) query call.1 store call.2

section Run

variable {settings : Settings} {query : AuditQuery} {window : AuditFilter}
  {draws : Nat → ExportDraw} {n : Nat} {store : AuditStore}
  {calls : List (AuditStore × ExportReceipt F)} {old : Database}

theorem Since.refl : Since F settings query draws old old :=
  ⟨[], (List.append_nil _).symm, fun _ member => absurd member List.not_mem_nil⟩

theorem Since.append {db db' : Database} (since : Since F settings query draws old db)
    {own : AuditEventRow} (ownEvent : OwnEvent F settings (draws n) query own)
    (appended : db'.auditEvents = db.auditEvents ++ [own]) :
    Since F settings query draws old db' := by
  obtain ⟨owns, isDb, all⟩ := since
  refine ⟨owns ++ [own], ?_, ?_⟩
  · rw [appended, isDb, List.append_assoc]
  · intro row member
    rcases List.mem_append.mp member with earlier | last
    · exact all row earlier
    · rw [List.mem_singleton.mp last]
      exact ⟨n, ownEvent⟩

theorem Since.subset {db : Database} (since : Since F settings query draws old db)
    {row : AuditEventRow} (member : row ∈ old.auditEvents) : row ∈ db.auditEvents := by
  obtain ⟨owns, isDb, _⟩ := since
  rw [isDb]
  exact List.mem_append_left _ member

theorem CommittedExport.since {draws : Nat → ExportDraw} {store' : AuditStore}
    {receipt : ExportReceipt F}
    (committed : CommittedExport F settings (draws n) query store store' receipt)
    (since : Since F settings query draws old store.db) :
    Since F settings query draws old store'.db := by
  obtain ⟨own, ownEvent, _, appended, _⟩ := committed.recorded
  exact since.append ownEvent appended

/-- The pages of a run by their keys; a last page that took all rows is followed by an
empty one. -/
theorem ExportRun.pages {text : Option String} (opens : query.Opens window)
    (run : ExportRun F settings query draws n store text calls) {cursor : Option AuditKey}
    (isText : text = cursor.map auditCursorText)
    (stamped : ∀ key, cursor = some key → StampedKey key) (sound : TrailSound F settings store.db)
    (since : Since F settings query draws old store.db) :
    (∃ pages, KeyPages cursor pages ∧
      pages.flatMap (·.2) = (calls.flatMap (·.2.events)).map SealedEvent.key ∧
      ∀ page ∈ pages, ∃ call ∈ calls, page.1 = auditKeys call.1.db window) ∧
    ∀ call ∈ calls, RunCall settings query window draws old call := by
  have noCursor := opens.fields.2.2.2.2
  induction run generalizing cursor with
  | @last n store store' text receipt called ended =>
      subst isText
      obtain ⟨page, _, committed, _⟩ := export_step sound opens stamped called
      have keys := page.keys
      rw [rowsAfter_keys sound.ids noCursor] at keys
      have whole := page.complete.mp ended
      refine ⟨?_, ?_⟩
      · rw [List.flatMap_singleton]
        have length : (keysAfter cursor (auditKeys store.db window)).length =
            receipt.events.length := by
          rw [← rowsAfter_keys sound.ids noCursor, List.length_map, whole]
        cases isLast : (keyPage receipt.events.length cursor
            (auditKeys store.db window)).getLast? with
        | none =>
            have empty := List.getLast?_eq_none_iff.mp isLast
            have nothing : keyPage 1 cursor (auditKeys store.db window) = [] := by
              unfold keyPage at empty ⊢
              rw [← length, List.take_length] at empty
              rw [empty, List.take_nil]
            refine ⟨[(auditKeys store.db window, [])],
              .last (auditKeys_nodup sound.ids) Nat.one_pos nothing, ?_, ?_⟩
            · rw [keys]
              exact empty.symm
            · intro page member
              rw [List.mem_singleton.mp member]
              exact ⟨_, List.mem_singleton_self _, rfl⟩
        | some last =>
            have distinct : (auditKeys store.db window).Nodup := auditKeys_nodup sound.ids
            have nothing : keyPage 1 (some last) (auditKeys store.db window) = [] := by
              unfold keyPage
              rw [keysAfter_last distinct isLast, ← length, List.drop_length, List.take_nil]
            refine ⟨[(auditKeys store.db window, keyPage receipt.events.length cursor
                (auditKeys store.db window)), (auditKeys store.db window, [])],
              .more distinct isLast (.last distinct Nat.one_pos nothing), ?_, ?_⟩
            · rw [keys, List.flatMap_cons, List.flatMap_singleton, List.append_nil]
              rfl
            · intro page member
              refine ⟨_, List.mem_singleton_self _, ?_⟩
              rcases List.mem_cons.mp member with first | second
              · rw [first]
              · rw [List.mem_singleton.mp second]
      · intro call member
        rw [List.mem_singleton.mp member]
        exact ⟨sound, since, ⟨cursor, page⟩, ⟨n, store', committed⟩⟩
  | @more n store store' text next receipt calls called goesOn rest ih =>
      subst isText
      obtain ⟨page, _, committed, sound'⟩ := export_step sound opens stamped called
      obtain ⟨key, isNext, keyStamped, isLast⟩ := page.next sound noCursor goesOn
      have keys := page.keys
      rw [rowsAfter_keys sound.ids noCursor] at keys
      have nextText : some next = (some key).map auditCursorText := by
        rw [isNext]
        rfl
      obtain ⟨⟨pages, read, taken, tables⟩, others⟩ :=
        ih nextText (fun other same => Option.some.inj same ▸ keyStamped) sound'
          (committed.since since)
      refine ⟨⟨(auditKeys store.db window, keyPage receipt.events.length cursor
          (auditKeys store.db window)) :: pages, .more (auditKeys_nodup sound.ids) isLast read,
        ?_, ?_⟩, ?_⟩
      · rw [List.flatMap_cons, List.flatMap_cons, List.map_append, taken, keys]
        rfl
      · intro table member
        rcases List.mem_cons.mp member with first | later
        · rw [first]
          exact ⟨_, List.mem_cons_self, rfl⟩
        · obtain ⟨call, inside, isTable⟩ := tables table later
          exact ⟨call, List.mem_cons_of_mem _ inside, isTable⟩
      · intro call member
        rcases List.mem_cons.mp member with first | later
        · rw [first]
          exact ⟨sound, since, ⟨cursor, page⟩, ⟨n, store', committed⟩⟩
        · exact others call later

/-- The events of a run, in order. -/
def runEvents (calls : List (AuditStore × ExportReceipt F)) : List (SealedEvent F) :=
  calls.flatMap (·.2.events)

/-- An event of a call is the reading of a row of its window. -/
theorem RunCall.row {call : AuditStore × ExportReceipt F}
    (facts : RunCall settings query window draws old call) (noCursor : window.cursor = none)
    {event : SealedEvent F} (member : event ∈ call.2.events) :
    ∃ row ∈ call.1.db.auditEvents, window.admits row = true ∧ sealedRow settings row = .ok event := by
  obtain ⟨cursor, page⟩ := facts.page
  obtain ⟨row, taken, verified⟩ := forall₂_mem_right page.events member
  obtain ⟨⟨stored, admitted⟩, _⟩ := (mem_rowsAfter noCursor).mp (List.mem_of_mem_take taken)
  exact ⟨row, stored, admitted, verified⟩

omit [FloatFormat F] in
theorem mem_runEvents {event : SealedEvent F} :
    event ∈ runEvents calls ↔ ∃ call ∈ calls, event ∈ call.2.events :=
  List.mem_flatMap

/-- The events of rows that were there before the run are the window, in order. -/
theorem ExportRun.partition (opens : query.Opens window)
    (run : ExportRun F settings query draws n store none calls)
    (sound : TrailSound F settings store.db) :
    (runEvents calls).Pairwise (fun a b => a.key < b.key) ∧
      List.Forall₂ (fun row event => sealedRow settings row = .ok event)
        (rowsAfter store.db window none)
        ((runEvents calls).filter (fun event =>
          event.event.id ∈ store.db.auditEvents.map (·.id))) ∧
      ∀ event ∈ runEvents calls, event.event.id ∉ store.db.auditEvents.map (·.id) →
        ∃ m row, OwnEvent F settings (draws m) query row ∧ sealedRow settings row = .ok event := by
  have noCursor := opens.fields.2.2.2.2
  have noneText : none = (none : Option AuditKey).map auditCursorText := rfl
  have noneStamped : ∀ key, (none : Option AuditKey) = some key → StampedKey key := by
    intro key impossible
    cases impossible
  obtain ⟨⟨pages, read, taken, tables⟩, facts⟩ :=
    run.pages opens noneText noneStamped sound Since.refl
  have sorted := read.sorted.1
  rw [taken, List.pairwise_map] at sorted
  have origin : ∀ event ∈ runEvents calls, ∃ db, TrailSound F settings db ∧
      Since F settings query draws store.db db ∧ ∃ row ∈ db.auditEvents,
        window.admits row = true ∧ sealedRow settings row = .ok event := by
    intro event member
    obtain ⟨call, inside, inPage⟩ := mem_runEvents.mp member
    exact ⟨call.1.db, (facts call inside).sound, (facts call inside).since,
      (facts call inside).row noCursor inPage⟩
  -- an event under an old id is the reading of the old row
  have old : ∀ event ∈ runEvents calls, event.event.id ∈ store.db.auditEvents.map (·.id) →
      ∃ row ∈ rowsAfter store.db window none, sealedRow settings row = .ok event := by
    intro event member isOld
    obtain ⟨db, soundThen, since, row, stored, admitted, verified⟩ := origin event member
    obtain ⟨oldRow, oldStored, sameId⟩ := List.mem_map.mp isOld
    obtain ⟨isId, _⟩ := sealedRow_fields verified
    have same : oldRow = row :=
      soundThen.ids.eq (since.subset oldStored) stored (sameId.trans isId)
    refine ⟨row, (mem_rowsAfter noCursor).mpr ⟨⟨same ▸ oldStored, admitted⟩, ?_⟩, verified⟩
    intro key impossible
    cases impossible
  refine ⟨sorted, ?_, ?_⟩
  · have keys : (rowsAfter store.db window none).map auditKey =
        ((runEvents calls).filter (fun event =>
          event.event.id ∈ store.db.auditEvents.map (·.id))).map SealedEvent.key := by
      apply strict_ext
      · rw [List.pairwise_map]
        exact orderBy_strict (auditKey_keyedBy (sound.ids.filter _))
      · rw [List.pairwise_map]
        exact sorted.sublist List.filter_sublist
      · intro key
        rw [List.mem_map, List.mem_map]
        constructor
        · rintro ⟨row, inWindow, isKey⟩
          obtain ⟨⟨stored, admitted⟩, _⟩ := (mem_rowsAfter noCursor).mp inWindow
          have stays : ∀ page ∈ pages, auditKey row ∈ page.1 := by
            intro page member
            obtain ⟨call, inside, isTable⟩ := tables page member
            rw [isTable]
            exact List.mem_map_of_mem
              (List.mem_filter.mpr ⟨(facts call inside).since.subset stored, admitted⟩)
          have found := read.complete (fun c impossible => nomatch impossible) stays
          rw [taken] at found
          obtain ⟨event, member, same⟩ := List.mem_map.mp found
          have sameId : event.event.id = row.id := congrArg (fun key => (ofLex key).2) same
          refine ⟨event, List.mem_filter.mpr ⟨member, ?_⟩, same.trans isKey⟩
          rw [decide_eq_true_eq, sameId]
          exact List.mem_map_of_mem stored
        · rintro ⟨event, member, isKey⟩
          obtain ⟨inRun, isOld⟩ := List.mem_filter.mp member
          obtain ⟨row, inWindow, verified⟩ := old event inRun (of_decide_eq_true isOld)
          exact ⟨row, inWindow, (sealedRow_key verified).symm.trans isKey⟩
    refine forall₂_of_keys keys ?_
    intro row inWindow event member sameKey
    obtain ⟨inRun, isOld⟩ := List.mem_filter.mp member
    obtain ⟨other, otherIn, verified⟩ := old event inRun (of_decide_eq_true isOld)
    obtain ⟨⟨stored, _⟩, _⟩ := (mem_rowsAfter noCursor).mp inWindow
    obtain ⟨⟨otherStored, _⟩, _⟩ := (mem_rowsAfter noCursor).mp otherIn
    have same : other = row := (auditKey_keyedBy sound.ids).eq otherStored stored
      ((sealedRow_key verified).symm.trans sameKey.symm)
    rw [← same]
    exact verified
  · intro event member isNew
    obtain ⟨db, _, ⟨owns, isDb, all⟩, row, stored, _, verified⟩ := origin event member
    obtain ⟨isId, _⟩ := sealedRow_fields verified
    rw [isDb] at stored
    rcases List.mem_append.mp stored with before | own
    · exact absurd (List.mem_map.mpr ⟨row, before, isId.symm⟩) isNew
    · obtain ⟨m, ownEvent⟩ := all row own
      exact ⟨m, row, ownEvent, verified⟩

end Run

end FolioLattice.Audit
