/-
The rows of the audit trail over any run of its calls: recorded, held, purged and
exported, they stay rows that the service built, under distinct ids.
-/

import FolioLattice.Audit.Exports

namespace FolioLattice.Audit

open FolioLattice.Text FolioLattice.Data FolioLattice.Relational FolioLattice.Store
open FolioLattice.Effects (except_bind_ok except_mapM_ok forall₂_mem_right)

variable {F : Type} [FloatFormat F]

/-! ### Calls -/

inductive AuditCall (F : Type) where
  | record (draw : EventDraw) (tenantAt : Timestamp) (request : AuditRequest F)
  | exported (draw : ExportDraw) (query : AuditQuery)
  | hold (draw : EventDraw) (tenantAt : Timestamp) (tenantId actor : String)
      (eventIds : List String) (reason : String)
  | purge (draw : String → EventDraw) (clock : Timestamp) (now : Option String)

def AuditCall.perform (settings : Settings) (store : AuditStore) :
    AuditCall F → Except Failure AuditStore
  | .record draw tenantAt request => do
      let (db, _) ← recordAuditEvent settings draw tenantAt request store.db
      .ok { store with db := db }
  | .exported draw query => do
      let (store, _) ← (exportAuditEvents settings draw query store :
        Except Failure (AuditStore × ExportReceipt F))
      .ok store
  | .hold draw tenantAt tenantId actor eventIds reason => do
      let (db, _) ← setAuditLegalHold F settings draw tenantAt tenantId actor eventIds reason store.db
      .ok { store with db := db }
  | .purge draw clock now => do
      let (db, _) ← purgeAuditEvents F settings draw clock now store.db
      .ok { store with db := db }

/-- The tables after a call: a call that raises is rolled back. -/
def AuditCall.after (settings : Settings) (store : AuditStore) (call : AuditCall F) : AuditStore :=
  match call.perform settings store with
  | .ok store' => store'
  | .error _ => store

/-- The tables after calls one by one. -/
def runAudit (settings : Settings) : AuditStore → List (AuditCall F) → AuditStore
  | store, [] => store
  | store, call :: calls => runAudit settings (call.after settings store) calls

theorem AuditCall.after_exported {settings : Settings} {store store' : AuditStore}
    {draw : ExportDraw} {query : AuditQuery} {receipt : ExportReceipt F}
    (done : exportAuditEvents settings draw query store = .ok (store', receipt)) :
    (AuditCall.exported draw query : AuditCall F).after settings store = store' := by
  unfold AuditCall.after AuditCall.perform
  simp only [done, bind, Except.bind]

theorem AuditCall.after_exported_error {settings : Settings} {store : AuditStore}
    {draw : ExportDraw} {query : AuditQuery} {e : Failure}
    (failed : (exportAuditEvents settings draw query store :
      Except Failure (AuditStore × ExportReceipt F)) = .error e) :
    (AuditCall.exported draw query : AuditCall F).after settings store = store := by
  unfold AuditCall.after AuditCall.perform
  simp only [failed, bind, Except.bind]

/-! ### What a call preserves -/

section Step

variable {settings : Settings} {db db' : Database}

theorem TrailSound.congr (sound : TrailSound F settings db)
    (same : db'.auditEvents = db.auditEvents) : TrailSound F settings db' where
  ids := by
    rw [same]
    exact sound.ids
  stored := by
    rw [same]
    exact sound.stored

theorem TrailSound.empty (none : db.auditEvents = []) : TrailSound F settings db where
  ids := by
    rw [none]
    exact KeyedBy.nil _
  stored := by
    rw [none]
    exact fun _ member => absurd member List.not_mem_nil

theorem TrailSound.append (sound : TrailSound F settings db) {own : AuditEventRow}
    (stored : StoredRow F settings own) (fresh : ∀ old ∈ db.auditEvents, old.id ≠ own.id)
    (appended : db'.auditEvents = db.auditEvents ++ [own]) : TrailSound F settings db' where
  ids := by
    rw [appended]
    exact sound.ids.append fresh
  stored := by
    rw [appended]
    intro row member
    rcases List.mem_append.mp member with old | new
    · exact sound.stored row old
    · rw [List.mem_singleton.mp new]
      exact stored

theorem TrailSound.insert (sound : TrailSound F settings db) {sealedEvent : SealedEvent F}
    (built : Built settings sealedEvent) (inserted : insertAuditEvent sealedEvent db = .ok db') :
    TrailSound F settings db' := by
  obtain ⟨detailsJson, dumped, appended, fresh⟩ := insertAuditEvent_ok inserted
  exact sound.append ⟨sealedEvent, detailsJson, built, dumped, rfl⟩ fresh appended

/-- A held row is the row of the event under hold. -/
theorem StoredRow.held {row held : AuditEventRow} (stored : StoredRow F settings row)
    (done : holdRow F settings row = .ok held) : StoredRow F settings held ∧ held.id = row.id := by
  obtain ⟨sealedEvent, detailsJson, built, dumped, isRow⟩ := stored
  have verified : (verifiedAuditRow settings row : Except Failure (AuditEvent F)) =
      .ok sealedEvent.event.stored := by
    have whole := sealedRow_row built dumped
    rw [← isRow] at whole
    obtain ⟨event, isEvent, same⟩ := except_bind_ok whole
    rw [isEvent]
    exact congrArg _ (congrArg SealedEvent.event (Except.ok.inj same))
  obtain ⟨event, isEvent, done⟩ := except_bind_ok done
  rw [verified] at isEvent
  rw [← Except.ok.inj isEvent] at done
  obtain ⟨hash, hashed, isHeld⟩ := except_bind_ok done
  let heldEvent : AuditEvent F := { sealedEvent.event with legalHold := true }
  have heldHash : integrityHash settings heldEvent = some hash := by
    have keyed : heldEvent.details.WellKeyed := built.keyed
    rw [← integrityHash_stored settings keyed]
    exact hashOrRaise_ok hashed
  rw [← Except.ok.inj isHeld]
  refine ⟨⟨⟨heldEvent, hash⟩, detailsJson, ?_, dumped, ?_⟩, rfl⟩
  · exact ⟨built.details, heldHash, built.id, built.occurredAt, built.short⟩
  · rw [isRow]
    rfl

theorem holdRow_id {row held : AuditEventRow} (done : holdRow F settings row = .ok held) :
    held.id = row.id := by
  obtain ⟨event, _, done⟩ := except_bind_ok done
  obtain ⟨hash, _, isHeld⟩ := except_bind_ok done
  rw [← Except.ok.inj isHeld]

theorem TrailSound.hold (sound : TrailSound F settings db) {p : AuditEventRow → Prop}
    [DecidablePred p] {events : List AuditEventRow}
    (held : db.auditEvents.mapM (fun row => if p row then holdRow F settings row else .ok row) =
      .ok events) (same : db'.auditEvents = events) : TrailSound F settings db' := by
  have pairs := except_mapM_ok held
  have ids : db.auditEvents.map (·.id) = events.map (·.id) := by
    rw [← List.forall₂_eq_eq_eq, List.forall₂_map_left_iff, List.forall₂_map_right_iff]
    refine pairs.imp ?_
    intro row row' done
    split at done
    · exact (holdRow_id done).symm
    · rw [← Except.ok.inj done]
  constructor
  · unfold KeyedBy
    rw [same, ← ids]
    exact sound.ids
  · rw [same]
    intro row' member'
    obtain ⟨row, member, done⟩ := forall₂_mem_right pairs member'
    split at done
    · exact ((sound.stored row member).held done).1
    · rw [← Except.ok.inj done]
      exact sound.stored row member

theorem TrailSound.filter (sound : TrailSound F settings db) (p : AuditEventRow → Bool)
    (same : db'.auditEvents = db.auditEvents.filter p) : TrailSound F settings db' where
  ids := by
    rw [same]
    exact sound.ids.filter p
  stored := by
    rw [same]
    intro row member
    exact sound.stored row (List.mem_filter.mp member).1

theorem TrailSound.purged {draw : String → EventDraw} {counts : List (String × Nat)}
    (sound : TrailSound F settings db)
    (done : insertPurgeEvents F settings draw counts db = .ok db') : TrailSound F settings db' := by
  induction counts generalizing db with
  | nil =>
      rw [← Except.ok.inj done]
      exact sound
  | cons entry rest ih =>
      obtain ⟨tenantId, count⟩ := entry
      obtain ⟨sealedEvent, built, done⟩ := except_bind_ok done
      obtain ⟨db'', inserted, done⟩ := except_bind_ok done
      exact ih (sound.insert (buildAuditEvent_ok built).1 inserted) done

theorem TrailSound.recorded {draw : EventDraw} {tenantAt : Timestamp} {request : AuditRequest F}
    {sealedEvent : SealedEvent F} (sound : TrailSound F settings db)
    (done : recordAuditEvent settings draw tenantAt request db = .ok (db', sealedEvent)) :
    TrailSound F settings db' := by
  obtain ⟨built, isBuilt, done⟩ := except_bind_ok done
  obtain ⟨db'', committed, done⟩ := except_bind_ok done
  obtain ⟨sameDb, _⟩ := Prod.mk.inj (Except.ok.inj done)
  rw [← sameDb]
  obtain ⟨ensured, isEnsured, inserted⟩ := except_bind_ok committed
  obtain ⟨_, tenants, isDb⟩ := ensureTenant_ok isEnsured
  have soundEnsured : TrailSound F settings ensured := by
    rw [isDb]
    exact sound.congr rfl
  exact soundEnsured.insert (buildAuditEvent_ok isBuilt).1 inserted

theorem TrailSound.heldEvents {draw : EventDraw} {tenantAt : Timestamp} {tenantId actor reason : String}
    {eventIds : List String} {count : Nat} (sound : TrailSound F settings db)
    (done : setAuditLegalHold F settings draw tenantAt tenantId actor eventIds reason db =
      .ok (db', count)) : TrailSound F settings db' := by
  unfold setAuditLegalHold at done
  obtain ⟨_, _, done⟩ := except_bind_ok done
  obtain ⟨_, _, done⟩ := except_bind_ok done
  obtain ⟨_, _, done⟩ := except_bind_ok done
  obtain ⟨_, _, done⟩ := except_bind_ok done
  split at done
  · cases done
  · obtain ⟨holdEvent, isBuilt, done⟩ := except_bind_ok done
    obtain ⟨ensured, isEnsured, done⟩ := except_bind_ok done
    obtain ⟨events, held, done⟩ := except_bind_ok done
    obtain ⟨db'', inserted, done⟩ := except_bind_ok done
    obtain ⟨_, tenants, isDb⟩ := ensureTenant_ok isEnsured
    obtain ⟨sameDb, _⟩ := Prod.mk.inj (Except.ok.inj done)
    rw [← sameDb]
    have soundEnsured : TrailSound F settings ensured := by
      rw [isDb]
      exact sound.congr rfl
    have soundHeld : TrailSound F settings { ensured with auditEvents := events } :=
      soundEnsured.hold held rfl
    exact soundHeld.insert (buildAuditEvent_ok isBuilt).1 inserted

theorem TrailSound.purgedEvents {draw : String → EventDraw} {clock : Timestamp}
    {now : Option String} {counts : List (String × Nat)} (sound : TrailSound F settings db)
    (done : purgeAuditEvents F settings draw clock now db = .ok (db', counts)) :
    TrailSound F settings db' := by
  unfold purgeAuditEvents at done
  dsimp only at done
  split at done
  · cases done
  · obtain ⟨db'', inserted, done⟩ := except_bind_ok done
    obtain ⟨sameDb, _⟩ := Prod.mk.inj (Except.ok.inj done)
    rw [← sameDb]
    exact (sound.filter _ rfl).purged inserted

theorem TrailSound.exportedEvents {draw : ExportDraw} {query : AuditQuery}
    {store store' : AuditStore} {receipt : ExportReceipt F}
    (sound : TrailSound F settings store.db)
    (done : exportAuditEvents settings draw query store = .ok (store', receipt)) :
    TrailSound F settings store'.db := by
  have page := done
  unfold exportAuditEvents at page
  obtain ⟨_, isPage, _⟩ := except_bind_ok page
  obtain ⟨filter, isFilter, _⟩ := except_bind_ok isPage
  obtain ⟨_, _, committed⟩ := exportAuditEvents_ok sound isFilter done
  obtain ⟨own, ownEvent, _, appended, fresh⟩ := committed.recorded
  exact sound.append ownEvent.stored fresh appended

/-- Every call keeps the trail sound, also one that raises. -/
theorem AuditCall.after_sound (call : AuditCall F) {store : AuditStore}
    (sound : TrailSound F settings store.db) :
    TrailSound F settings (call.after settings store).db := by
  unfold AuditCall.after
  cases done : call.perform settings store with
  | error e => exact sound
  | ok store' =>
      cases call with
      | record draw tenantAt request =>
          obtain ⟨⟨db, sealedEvent⟩, recorded, isStore⟩ := except_bind_ok done
          rw [← Except.ok.inj isStore]
          exact sound.recorded recorded
      | exported draw query =>
          obtain ⟨⟨after, receipt⟩, exported, isStore⟩ := except_bind_ok done
          rw [← Except.ok.inj isStore]
          exact sound.exportedEvents exported
      | hold draw tenantAt tenantId actor eventIds reason =>
          obtain ⟨⟨db, count⟩, held, isStore⟩ := except_bind_ok done
          rw [← Except.ok.inj isStore]
          exact sound.heldEvents held
      | purge draw clock now =>
          obtain ⟨⟨db, counts⟩, purged, isStore⟩ := except_bind_ok done
          rw [← Except.ok.inj isStore]
          exact sound.purgedEvents purged

theorem runAudit_sound (calls : List (AuditCall F)) {store : AuditStore}
    (sound : TrailSound F settings store.db) :
    TrailSound F settings (runAudit settings store calls).db := by
  induction calls generalizing store with
  | nil => exact sound
  | cons call calls ih => exact ih (call.after_sound sound)

/-! ### Where rows come from -/

/-- A row after a call: one from before, one put under hold, or that of a new event. -/
inductive RowFrom (F : Type) [FloatFormat F] (settings : Settings) (db : Database) :
    AuditEventRow → Prop where
  | kept {row : AuditEventRow} (member : row ∈ db.auditEvents) : RowFrom F settings db row
  | held {row held : AuditEventRow} (member : row ∈ db.auditEvents)
      (done : holdRow F settings row = .ok held) : RowFrom F settings db held
  | built {draw : EventDraw} {request : AuditRequest F} {sealedEvent : SealedEvent F}
      (isBuilt : buildAuditEvent settings draw request = .ok sealedEvent)
      {detailsJson : List Char} (dumped : dumps true sealedEvent.event.details = some detailsJson) :
      RowFrom F settings db
        (sealedEvent.event.row (String.ofList detailsJson) sealedEvent.integrityHash)

theorem insertAuditEvent_rows {sealedEvent : SealedEvent F}
    (inserted : insertAuditEvent sealedEvent db = .ok db') {row : AuditEventRow}
    (member : row ∈ db'.auditEvents) :
    row ∈ db.auditEvents ∨
      ∃ detailsJson, dumps true sealedEvent.event.details = some detailsJson ∧
        row = sealedEvent.event.row (String.ofList detailsJson) sealedEvent.integrityHash := by
  obtain ⟨detailsJson, dumped, appended, _⟩ := insertAuditEvent_ok inserted
  rw [appended] at member
  rcases List.mem_append.mp member with old | new
  · exact Or.inl old
  · exact Or.inr ⟨_, dumped, List.mem_singleton.mp new⟩

/-- The event of an export, and where it stands. -/
theorem exportAuditEvents_appends {draw : ExportDraw} {query : AuditQuery}
    {store store' : AuditStore} {receipt : ExportReceipt F}
    (done : exportAuditEvents settings draw query store = .ok (store', receipt)) :
    ∃ (sealedEvent : SealedEvent F) (detailsJson : List Char),
      buildAuditEvent settings draw.event (exportRequest query.tenantId query.actor
        (newId "audit-export" draw.exportId)) = .ok sealedEvent ∧
      dumps true sealedEvent.event.details = some detailsJson ∧
      store'.db.auditEvents = store.db.auditEvents ++
        [sealedEvent.event.row (String.ofList detailsJson) sealedEvent.integrityHash] := by
  obtain ⟨page, _, done⟩ := except_bind_ok done
  obtain ⟨⟨row, own⟩, prepared, done⟩ := except_bind_ok done
  obtain ⟨store'', committed, done⟩ := except_bind_ok done
  obtain ⟨sameStore, _⟩ := Prod.mk.inj (Except.ok.inj done)
  unfold prepareExport at prepared
  split at prepared
  · cases prepared
  · obtain ⟨checksum, _, prepared⟩ := except_bind_ok prepared
    obtain ⟨built, isBuilt, prepared⟩ := except_bind_ok prepared
    obtain ⟨_, sameOwn⟩ := Prod.mk.inj (Except.ok.inj prepared)
    obtain ⟨db, ensured, committed⟩ := except_bind_ok committed
    obtain ⟨exports, _, committed⟩ := except_bind_ok committed
    obtain ⟨db', inserted, isStore⟩ := except_bind_ok committed
    obtain ⟨_, tenants, isDb⟩ := ensureTenant_ok ensured
    obtain ⟨detailsJson, dumped, appended, _⟩ := insertAuditEvent_ok inserted
    rw [← sameStore, ← Except.ok.inj isStore]
    rw [← sameOwn] at dumped
    refine ⟨built, detailsJson, isBuilt, dumped, ?_⟩
    rw [appended, isDb, sameOwn]

theorem recordAuditEvent_from {draw : EventDraw} {tenantAt : Timestamp} {request : AuditRequest F}
    {sealedEvent : SealedEvent F}
    (done : recordAuditEvent settings draw tenantAt request db = .ok (db', sealedEvent))
    {row : AuditEventRow} (member : row ∈ db'.auditEvents) : RowFrom F settings db row := by
  obtain ⟨built, isBuilt, done⟩ := except_bind_ok done
  obtain ⟨db'', committed, done⟩ := except_bind_ok done
  obtain ⟨sameDb, _⟩ := Prod.mk.inj (Except.ok.inj done)
  obtain ⟨ensured, isEnsured, inserted⟩ := except_bind_ok committed
  obtain ⟨_, tenants, isDb⟩ := ensureTenant_ok isEnsured
  rw [← sameDb] at member
  rcases insertAuditEvent_rows inserted member with old | ⟨detailsJson, dumped, isRow⟩
  · rw [isDb] at old
    exact .kept old
  · rw [isRow]
    exact .built isBuilt dumped

theorem setAuditLegalHold_from {draw : EventDraw} {tenantAt : Timestamp}
    {tenantId actor reason : String} {eventIds : List String} {count : Nat}
    (done : setAuditLegalHold F settings draw tenantAt tenantId actor eventIds reason db =
      .ok (db', count)) {row : AuditEventRow} (member : row ∈ db'.auditEvents) :
    RowFrom F settings db row := by
  unfold setAuditLegalHold at done
  obtain ⟨_, _, done⟩ := except_bind_ok done
  obtain ⟨_, _, done⟩ := except_bind_ok done
  obtain ⟨_, _, done⟩ := except_bind_ok done
  obtain ⟨_, _, done⟩ := except_bind_ok done
  split at done
  · cases done
  · obtain ⟨holdEvent, isBuilt, done⟩ := except_bind_ok done
    obtain ⟨ensured, isEnsured, done⟩ := except_bind_ok done
    obtain ⟨events, held, done⟩ := except_bind_ok done
    obtain ⟨db'', inserted, done⟩ := except_bind_ok done
    obtain ⟨_, tenants, isDb⟩ := ensureTenant_ok isEnsured
    obtain ⟨sameDb, _⟩ := Prod.mk.inj (Except.ok.inj done)
    rw [← sameDb] at member
    rw [isDb] at held
    rcases insertAuditEvent_rows inserted member with inEvents | ⟨detailsJson, dumped, isRow⟩
    · obtain ⟨old, oldMember, same⟩ := forall₂_mem_right (except_mapM_ok held) inEvents
      split at same
      · exact .held oldMember same
      · rw [← Except.ok.inj same]
        exact .kept oldMember
    · rw [isRow]
      exact .built isBuilt dumped

/-- The event of a purge for one tenant, as a row. -/
def PurgeRow (F : Type) [FloatFormat F] (settings : Settings) (draw : String → EventDraw)
    (entry : String × Nat) (row : AuditEventRow) : Prop :=
  ∃ (sealedEvent : SealedEvent F) (detailsJson : List Char),
    buildAuditEvent settings (draw entry.1) (purgeRequest entry.1 entry.2) = .ok sealedEvent ∧
    dumps true sealedEvent.event.details = some detailsJson ∧
    row = sealedEvent.event.row (String.ofList detailsJson) sealedEvent.integrityHash

/-- One event for each count. -/
theorem insertPurgeEvents_ok {draw : String → EventDraw} {counts : List (String × Nat)}
    (done : insertPurgeEvents F settings draw counts db = .ok db') :
    ∃ added, db'.auditEvents = db.auditEvents ++ added ∧
      List.Forall₂ (PurgeRow F settings draw) counts added := by
  induction counts generalizing db with
  | nil =>
      rw [← Except.ok.inj done]
      exact ⟨[], (List.append_nil _).symm, .nil⟩
  | cons entry rest ih =>
      obtain ⟨tenantId, count⟩ := entry
      obtain ⟨sealedEvent, isBuilt, done⟩ := except_bind_ok done
      obtain ⟨db'', inserted, done⟩ := except_bind_ok done
      obtain ⟨detailsJson, dumped, appended, _⟩ := insertAuditEvent_ok inserted
      obtain ⟨added, later, rows⟩ := ih done
      refine ⟨_ :: added, ?_, .cons ⟨sealedEvent, detailsJson, isBuilt, dumped, rfl⟩ rows⟩
      rw [later, appended, List.append_assoc, List.singleton_append]

/-- What a purge that succeeds does: the expired rows go, and one event for each tenant
that lost rows is added. -/
theorem purgeAuditEvents_ok {draw : String → EventDraw} {clock : Timestamp} {now : Option String}
    {counts : List (String × Nat)}
    (done : purgeAuditEvents F settings draw clock now db = .ok (db', counts)) :
    ¬(64 < (orElse now clock.isoformat).length ∨
        (orElse now clock.isoformat).toList.any (fun c => c.toNat < 0x20) = true) ∧
      counts = Database.expiredCounts db (orElse now clock.isoformat) ∧
      ∃ added, List.Forall₂ (PurgeRow F settings draw) counts added ∧
        db'.auditEvents = db.auditEvents.filter
          (fun row => !expired (orElse now clock.isoformat) row) ++ added := by
  unfold purgeAuditEvents at done
  dsimp only at done
  split at done
  · cases done
  · rename_i accepted
    obtain ⟨db'', inserted, done⟩ := except_bind_ok done
    obtain ⟨sameDb, sameCounts⟩ := Prod.mk.inj (Except.ok.inj done)
    obtain ⟨added, appended, rows⟩ := insertPurgeEvents_ok inserted
    rw [sameCounts] at rows
    rw [← sameDb]
    exact ⟨accepted, sameCounts.symm, added, rows, appended⟩

theorem purgeAuditEvents_from {draw : String → EventDraw} {clock : Timestamp}
    {now : Option String} {counts : List (String × Nat)}
    (done : purgeAuditEvents F settings draw clock now db = .ok (db', counts))
    {row : AuditEventRow} (member : row ∈ db'.auditEvents) : RowFrom F settings db row := by
  obtain ⟨_, _, added, rows, appended⟩ := purgeAuditEvents_ok done
  rw [appended] at member
  rcases List.mem_append.mp member with old | new
  · exact .kept (List.mem_filter.mp old).1
  · obtain ⟨entry, _, sealedEvent, detailsJson, isBuilt, dumped, isRow⟩ := forall₂_mem_right rows new
    rw [isRow]
    exact .built isBuilt dumped

/-- Where the rows after a call come from. -/
theorem AuditCall.after_from (call : AuditCall F) {store : AuditStore} {row : AuditEventRow}
    (member : row ∈ (call.after settings store).db.auditEvents) :
    RowFrom F settings store.db row := by
  unfold AuditCall.after at member
  split at member
  · rename_i store' done
    cases call with
    | record draw tenantAt request =>
        obtain ⟨⟨db, sealedEvent⟩, recorded, isStore⟩ := except_bind_ok done
        rw [← Except.ok.inj isStore] at member
        exact recordAuditEvent_from recorded member
    | exported draw query =>
        obtain ⟨⟨after, receipt⟩, exported, isStore⟩ := except_bind_ok done
        rw [← Except.ok.inj isStore] at member
        obtain ⟨sealedEvent, detailsJson, isBuilt, dumped, appended⟩ :=
          exportAuditEvents_appends exported
        rw [appended] at member
        rcases List.mem_append.mp member with old | new
        · exact .kept old
        · rw [List.mem_singleton.mp new]
          exact .built isBuilt dumped
    | hold draw tenantAt tenantId actor eventIds reason =>
        obtain ⟨⟨db, count⟩, held, isStore⟩ := except_bind_ok done
        rw [← Except.ok.inj isStore] at member
        exact setAuditLegalHold_from held member
    | purge draw clock now =>
        obtain ⟨⟨db, counts⟩, purged, isStore⟩ := except_bind_ok done
        rw [← Except.ok.inj isStore] at member
        exact purgeAuditEvents_from purged member
  · exact .kept member

/-- What holds of every new event and survives a hold holds of all rows of a run. -/
theorem runAudit_rows {P : AuditEventRow → Prop}
    (built : ∀ (draw : EventDraw) (request : AuditRequest F) (sealedEvent : SealedEvent F)
      (detailsJson : List Char), buildAuditEvent settings draw request = .ok sealedEvent →
      dumps true sealedEvent.event.details = some detailsJson →
        P (sealedEvent.event.row (String.ofList detailsJson) sealedEvent.integrityHash))
    (held : ∀ row held, holdRow F settings row = .ok held → P row → P held)
    (calls : List (AuditCall F)) {store : AuditStore} (each : ∀ row ∈ store.db.auditEvents, P row) :
    ∀ row ∈ (runAudit settings store calls).db.auditEvents, P row := by
  induction calls generalizing store with
  | nil => exact each
  | cons call calls ih =>
      apply ih
      intro row member
      cases call.after_from member with
      | kept member => exact each row member
      | held member done => exact held _ _ done (each _ member)
      | built isBuilt dumped => exact built _ _ _ _ isBuilt dumped

/-- What `_build_audit_event` takes over of the details, and the expiry it sets. -/
theorem buildAuditEvent_fields {draw : EventDraw} {request : AuditRequest F}
    {sealedEvent : SealedEvent F} (done : buildAuditEvent settings draw request = .ok sealedEvent) :
    (∃ safe, safeDetails (request.details.map (·.entries)) = .ok safe ∧
      sealedEvent.event.details = .obj safe) ∧
      expiryFor request.retentionClass draw.current = .ok sealedEvent.event.expiresAt ∧
      sealedEvent.event.legalHold = false := by
  obtain ⟨safe, expiresAt, sealing⟩ := buildAuditEvent_cases done
  rw [sealing.event]
  exact ⟨⟨safe, sealing.details, rfl⟩, sealing.expiry, rfl⟩

theorem expiryFor_stamped {retentionClass expiry : String} {current : Timestamp}
    (done : expiryFor retentionClass current = .ok expiry) :
    ∃ t : Timestamp, expiry = t.isoformat := by
  unfold expiryFor at done
  split at done
  · cases done
  · split at done
    · cases done
    · exact ⟨_, (Except.ok.inj done).symm⟩

/-- Rows expire at a reading of the clock. -/
theorem runAudit_expires (calls : List (AuditCall F)) {store : AuditStore}
    (fresh : store.db.auditEvents = []) :
    ∀ row ∈ (runAudit settings store calls).db.auditEvents,
      ∃ t : Timestamp, row.expiresAt = t.isoformat := by
  refine runAudit_rows (P := fun row => ∃ t : Timestamp, row.expiresAt = t.isoformat) ?_ ?_ calls ?_
  · intro draw request sealedEvent detailsJson isBuilt _
    exact expiryFor_stamped (buildAuditEvent_fields isBuilt).2.1
  · intro row held done stamped
    obtain ⟨event, _, done⟩ := except_bind_ok done
    obtain ⟨hash, _, isHeld⟩ := except_bind_ok done
    rw [← Except.ok.inj isHeld]
    exact stamped
  · rw [fresh]
    exact fun _ member => absurd member List.not_mem_nil

end Step

end FolioLattice.Audit
