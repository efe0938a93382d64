/-
The whole life of an audit row: rows that the service wrote pass verification after any
run of its calls, and a row that is changed from outside fails every call that reads it.
-/

import FolioLattice.Audit.Laundering
import FolioLattice.Store.Startup

namespace FolioLattice.Audit

open FolioLattice.Text FolioLattice.Data FolioLattice.Relational FolioLattice.Store
open FolioLattice.Effects
  (except_bind_ok except_bind_ne except_mapM_ok forall₂_mem_left forall₂_mem_right)

variable {F : Type} [FloatFormat F]

/-! ### Rows that verify -/

section Rows

variable {settings : Settings}

theorem StoredRow.verifies {row : AuditEventRow} (stored : StoredRow F settings row) :
    Verifies F settings row := by
  obtain ⟨sealedEvent, detailsJson, built, dumped, isRow⟩ := stored
  have whole := sealedRow_row built dumped
  rw [← isRow] at whole
  obtain ⟨event, verified, _⟩ := except_bind_ok whole
  exact ⟨event, verified⟩

theorem holdRow_verifies {row held : AuditEventRow} (done : holdRow F settings row = .ok held) :
    Verifies F settings held := by
  obtain ⟨event, verified, done⟩ := except_bind_ok done
  obtain ⟨hash, hashed, isHeld⟩ := except_bind_ok done
  obtain ⟨read, isRead, checked⟩ := except_bind_ok verified
  obtain ⟨own, _, checked⟩ := except_bind_ok checked
  have isEvent : read = event := by
    split at checked
    · exact Except.ok.inj checked
    · cases checked
  rw [isEvent] at isRead
  have heldRead : auditRow held = .ok { event with legalHold := true } := by
    rw [← Except.ok.inj isHeld]
    unfold auditRow at isRead ⊢
    obtain ⟨details, detailsRead, isEvent⟩ := except_bind_ok isRead
    rw [← Except.ok.inj isEvent]
    simp only [detailsRead, bind, Except.bind]
    rfl
  rw [verifies_iff heldRead, ← Except.ok.inj isHeld]
  exact hashOrRaise_ok hashed

/-- A row of an earlier release: its details are the text of a `dict` whose keys are texts. -/
def EarlierRow (F : Type) [FloatFormat F] (row : AuditEventRow) : Prop :=
  ∃ (entries : List (PyStr × Json F)) (detailsJson : List Char),
    dumps true (.obj entries) = some detailsJson ∧ row.detailsJson = String.ofList detailsJson

theorem EarlierRow.not_numberKeyed {row : AuditEventRow} (earlier : EarlierRow F row) :
    ¬NumberKeyed F settings row := by
  obtain ⟨entries, detailsJson, dumped, isDetails⟩ := earlier
  rintro ⟨value, mapping, read, isMapping, numbered⟩
  unfold readDetails at read
  rw [isDetails, String.toList_ofList, loads_dumps dumped] at read
  rw [← Except.ok.inj read] at isMapping
  have keyed : ∀ entry ∈ mapping, isNumber entry.1 = false := by
    intro entry member
    rw [← Option.some.inj isMapping] at member
    obtain ⟨old, _, same⟩ := List.mem_map.mp member
    rw [← same]
    rfl
  unfold Mapping.numbered at numbered
  rw [Bool.and_eq_true, Bool.not_eq_true', List.isEmpty_eq_false_iff] at numbered
  obtain ⟨entry, member⟩ := List.exists_mem_of_ne_nil _ numbered.1
  have isNumbered := List.all_eq_true.mp numbered.2 entry member
  rw [keyed entry ((migrateIdentifiers_sublist settings row mapping).subset member)] at isNumbered
  cases isNumbered

theorem EarlierRow.verifies {row migrated : AuditEventRow} (earlier : EarlierRow F row)
    (done : migrateRow F settings row = .ok migrated) : Verifies F settings migrated :=
  (verifies_migrated_iff done).mpr (fun scrambled => earlier.not_numberKeyed scrambled.1)

end Rows

/-! ### The trail over its whole life -/

/-- A call on the trail, or a start of the service. -/
inductive TrailEvent (F : Type) where
  | called (call : AuditCall F)
  | started (draw : InitializeDraw)

def TrailEvent.after (settings : Settings) (store : AuditStore) : TrailEvent F → AuditStore
  | .called call => call.after settings store
  | .started draw =>
      match initializeStore F settings draw store.db with
      | .ok db => { store with db := db }
      | .error _ => store

def runTrail (settings : Settings) : AuditStore → List (TrailEvent F) → AuditStore
  | store, [] => store
  | store, event :: events => runTrail settings (event.after settings store) events

/-- Tables that a start has left, with rows that all verify. -/
structure Trusted (F : Type) [FloatFormat F] (settings : Settings) (db : Database) : Prop where
  settled : Store.Settled settings db
  verified : ∀ row ∈ db.auditEvents, Verifies F settings row

section Life

variable {settings : Settings} {draw : InitializeDraw}

/-- The start that brings the trace context hashes the rows of earlier releases anew. -/
theorem Trusted.opened {db db' : Database}
    (pending : db.schemaMigrations.any (fun row => row.version = 7) = false)
    (earlier : ∀ row ∈ db.auditEvents, EarlierRow F row)
    (done : initializeStore F settings draw db = .ok db') : Trusted F settings db' := by
  refine ⟨initializeStore_settles done, ?_⟩
  intro row member
  obtain ⟨wide, isWide, migrated⟩ :=
    forall₂_mem_right (except_mapM_ok (initialize_migrates pending done)) member
  obtain ⟨old, isOld, same⟩ := List.mem_map.mp isWide
  have earlierWide : EarlierRow F wide := by
    rw [← same]
    exact earlier old isOld
  exact earlierWide.verifies migrated

theorem Trusted.step {store : AuditStore} (trusted : Trusted F settings store.db)
    (event : TrailEvent F) : Trusted F settings (event.after settings store).db := by
  cases event with
  | called call =>
      refine ⟨?_, ?_⟩
      · have only : TrailOnly store.db (call.after settings store).db :=
          AuditCall.after_trailOnly call store
        obtain ⟨tenants, events, isDb⟩ := only
        change Store.Settled settings (call.after settings store).db
        rw [isDb]
        exact ⟨trusted.settled.layout, trusted.settled.substrings, trusted.settled.owners,
          trusted.settled.granted, trusted.settled.ledger⟩
      · intro row member
        cases call.after_from member with
        | kept member => exact trusted.verified row member
        | held _ done => exact holdRow_verifies done
        | built isBuilt dumped =>
            exact StoredRow.verifies ⟨_, _, (buildAuditEvent_ok isBuilt).1, dumped, rfl⟩
  | started draw =>
      have same : ((TrailEvent.started draw : TrailEvent F).after settings store) = store := by
        unfold TrailEvent.after
        simp only [trusted.settled.fixed]
      rw [same]
      exact trusted

theorem Trusted.run {store : AuditStore} (trusted : Trusted F settings store.db)
    (events : List (TrailEvent F)) : Trusted F settings (runTrail settings store events).db := by
  induction events generalizing store with
  | nil => exact trusted
  | cons event events ih => exact ih (trusted.step event)

end Life

/-! ### Rows that are changed from outside -/

section Altered

variable {settings : Settings} {row row' : AuditEventRow}

omit [FloatFormat F] in
theorem toJson_normal {event : AuditEvent F} (normal : event.details.Normal) :
    event.toJson.Normal := by
  refine ⟨toJson_wellKeyed normal.1, ?_⟩
  have joined := normal.2
  cases resource : event.resourceId <;>
    simp [AuditEvent.toJson, Json.Joined, JoinedEntries, text, joinPairs_pyStr, joined, resource]

theorem auditRow_normal {event : AuditEvent F} (read : auditRow row = .ok event) :
    event.toJson.Normal :=
  toJson_normal (readDetails_normal (auditRow_ok read))

/-- The two rows read back as one event, its details in any order. -/
def SameReading (F : Type) [FloatFormat F] (row row' : AuditEventRow) : Prop :=
  ∃ event event' : AuditEvent F, auditRow row = .ok event ∧ auditRow row' = .ok event' ∧
    event.toJson.sortKeys = event'.toJson.sortKeys

/-- What a change from outside makes of a row: other fields under the same hash, or another
hash of the same fields. -/
inductive Altered (F : Type) [FloatFormat F] (row row' : AuditEventRow) : Prop where
  | fields (sameHash : row'.integrityHash = row.integrityHash)
      (other : ¬SameReading F row row')
  | hash (otherHash : row'.integrityHash ≠ row.integrityHash) (same : SameReading F row row')

/-- SHA-256 has no collision on the records of the two rows. -/
def ToldApart (F : Type) [FloatFormat F] (settings : Settings) (row row' : AuditEventRow) : Prop :=
  ∀ event event' : AuditEvent F, auditRow row = .ok event → auditRow row' = .ok event' →
    ∀ text text', canonicalEvent event = some text → canonicalEvent event' = some text' →
      settings.sha256 (asciiBytes text) = settings.sha256 (asciiBytes text') → text = text'

/-- A row that verifies, with the record that its hash is of. -/
theorem Verifies.record (verifies : Verifies F settings row) :
    ∃ (event : AuditEvent F) (text : List Char), auditRow row = .ok event ∧
      canonicalEvent event = some text ∧
      (settings.sha256 (asciiBytes text)).hex = row.integrityHash := by
  obtain ⟨event, verified⟩ := verifies
  obtain ⟨read, isRead, _⟩ := except_bind_ok verified
  have hashed := (verifies_iff isRead).mp ⟨event, verified⟩
  obtain ⟨text, isText, same⟩ := Option.map_eq_some_iff.mp hashed
  exact ⟨read, text, isRead, isText, same⟩

theorem Altered.fails (altered : Altered F row row') (verifies : Verifies F settings row)
    (apart : ToldApart F settings row row') : ¬Verifies F settings row' := by
  intro verifies'
  obtain ⟨event, text, read, isText, isHash⟩ := verifies.record
  obtain ⟨event', text', read', isText', isHash'⟩ := verifies'.record
  cases altered with
  | fields sameHash other =>
      have sameDigest : settings.sha256 (asciiBytes text) = settings.sha256 (asciiBytes text') := by
        apply Digest.ext_hex
        rw [isHash, isHash', sameHash]
      have sameText := apart event event' read read' text text' isText isText' sameDigest
      rw [← sameText] at isText'
      exact other ⟨event, event', read, read',
        dumps_injective (auditRow_normal read) (auditRow_normal read') isText isText'⟩
  | hash otherHash same =>
      obtain ⟨one, other, isOne, isOther, sameRecord⟩ := same
      rw [read] at isOne
      rw [read'] at isOther
      rw [← Except.ok.inj isOne, ← Except.ok.inj isOther] at sameRecord
      have sameText : text = text' := by
        apply Option.some.inj
        rw [← isText, ← isText']
        exact dumps_congr sameRecord
      apply otherHash
      rw [← isHash, ← isHash', sameText]

end Altered

/-! ### Calls on rows that verify -/

/-- No row is blamed for its hash. -/
def Blameless {α : Type} (result : Except Failure α) : Prop := result ≠ .error integrityFailed

section Blameless

variable {settings : Settings}

theorem blameless_ok {α : Type} (value : α) : Blameless (.ok value : Except Failure α) := by
  intro same
  cases same

theorem blameless_error {α : Type} {e : Failure} (other : e ≠ integrityFailed) :
    Blameless (.error e : Except Failure α) :=
  fun same => other (Except.error.inj same)

theorem Blameless.bind {α β : Type} {first : Except Failure α} {next : α → Except Failure β}
    (here : Blameless first) (later : ∀ a, first = .ok a → Blameless (next a)) :
    Blameless (first >>= next) :=
  except_bind_ne here later

/-- A message that ends in another way. -/
theorem folio_ne {front back : String}
    (other : ¬back.toList <:+ "audit integrity verification failed".toList) :
    Failure.folio (front ++ back) ≠ integrityFailed := by
  intro same
  apply other
  rw [← Failure.folio.inj same, String.toList_append]
  exact List.suffix_append _ _

theorem validateToken_blameless (field value : String) :
    Blameless (validateToken field value) := by
  unfold validateToken
  split
  · exact blameless_ok ()
  · exact blameless_error (folio_ne (by decide))

theorem auditBound_blameless (field : String) (value : Option String) :
    Blameless (auditBound field value) := by
  unfold auditBound
  split
  · exact blameless_ok none
  · split
    · exact blameless_error (folio_ne (by decide))
    · split
      · exact blameless_error (by decide)
      · split
        · exact blameless_error (folio_ne (by decide))
        · split
          · exact blameless_error (by decide)
          · exact blameless_ok _

theorem auditWindow_blameless (fromTime toTime : Option String) :
    Blameless (auditWindow fromTime toTime) := by
  refine (auditBound_blameless _ _).bind fun fromBound _ => ?_
  refine (auditBound_blameless _ _).bind fun toBound _ => ?_
  dsimp only
  split
  · exact blameless_error (by decide)
  · exact blameless_ok _

theorem filter_blameless (query : AuditQuery) : Blameless query.filter := by
  refine (validateToken_blameless _ _).bind fun _ _ => ?_
  refine (validateToken_blameless _ _).bind fun _ _ => ?_
  refine (auditWindow_blameless _ _).bind fun window _ => ?_
  refine Blameless.bind ?_ fun cursor _ => blameless_ok _
  unfold parseAuditCursor
  split
  · exact blameless_ok none
  · split
    · exact blameless_error (by decide)
    · exact blameless_ok _

theorem safeValue_blameless (value : Json F) : Blameless (safeValue value) := by
  unfold safeValue
  split
  · exact blameless_ok _
  · split
    · exact blameless_error (by decide)
    · exact blameless_ok _
  · split
    · exact blameless_error (by decide)
    · exact blameless_ok _
  · exact blameless_error (by decide)
  · split
    · exact blameless_error (by decide)
    · exact blameless_ok _
  · exact blameless_error (by decide)

theorem safeEntries_blameless (entries : List (PyStr × Json F)) : Blameless (safeEntries entries) := by
  induction entries with
  | nil => exact blameless_ok []
  | cons entry rest ih =>
      unfold safeEntries
      split
      · exact blameless_error (by decide)
      · refine (safeValue_blameless _).bind fun safe _ => ?_
        exact ih.bind fun rest _ => blameless_ok _

theorem safeDetails_blameless (details : Option (List (PyStr × Json F))) :
    Blameless (safeDetails details) := by
  unfold safeDetails
  split
  · exact blameless_ok []
  · split
    · exact blameless_error (by decide)
    · exact safeEntries_blameless _

theorem expiryFor_blameless (retentionClass : String) (current : Timestamp) :
    Blameless (expiryFor retentionClass current) := by
  unfold expiryFor
  split
  · exact blameless_error (by decide)
  · split
    · exact blameless_error (by decide)
    · exact blameless_ok _

theorem hashOrRaise_blameless (event : AuditEvent F) : Blameless (hashOrRaise settings event) := by
  unfold hashOrRaise
  split
  · exact blameless_ok _
  · exact blameless_error (by decide)

theorem buildAuditEvent_blameless (draw : EventDraw) (request : AuditRequest F) :
    Blameless (buildAuditEvent settings draw request) := by
  refine (validateToken_blameless _ _).bind fun _ _ => ?_
  refine (validateToken_blameless _ _).bind fun _ _ => ?_
  refine (validateToken_blameless _ _).bind fun _ _ => ?_
  refine (validateToken_blameless _ _).bind fun _ _ => ?_
  refine (validateToken_blameless _ _).bind fun _ _ => ?_
  refine (validateToken_blameless _ _).bind fun _ _ => ?_
  refine (validateToken_blameless _ _).bind fun _ _ => ?_
  refine (validateToken_blameless _ _).bind fun _ _ => ?_
  refine Blameless.bind ?_ fun _ _ => ?_
  · cases request.resourceId with
    | none => exact blameless_ok _
    | some value => exact validateToken_blameless _ _
  refine (validateToken_blameless _ _).bind fun _ _ => ?_
  refine (validateToken_blameless _ _).bind fun _ _ => ?_
  refine (safeDetails_blameless _).bind fun safe _ => ?_
  refine (expiryFor_blameless _ _).bind fun expiresAt _ => ?_
  exact (hashOrRaise_blameless _).bind fun hash _ => blameless_ok _

theorem ensureTenant_blameless (db : Database) (tenantId : String) (now : Timestamp) :
    Blameless (ensureTenant db tenantId now) := by
  refine Blameless.bind ?_ fun _ _ => ?_
  · unfold validateText
    split
    · exact blameless_error (by decide)
    · split
      · exact blameless_error (folio_ne (by decide))
      · exact blameless_ok ()
  · split
    · exact blameless_ok db
    · exact blameless_ok _

theorem insertUnique_blameless {α : Type} (clash : α → α → Bool) (row : α) (rows : List α) :
    Blameless (insertUnique clash row rows) := by
  unfold insertUnique
  split
  · exact blameless_error (by decide)
  · exact blameless_ok _

theorem insertAuditEvent_blameless (sealedEvent : SealedEvent F) (db : Database) :
    Blameless (insertAuditEvent sealedEvent db) := by
  unfold insertAuditEvent
  split
  · exact blameless_error (by decide)
  · split
    · exact (insertUnique_blameless _ _ _).bind fun events _ => blameless_ok _
    · exact blameless_error (by decide)

theorem sealedRow_blameless {row : AuditEventRow} (verifies : Verifies F settings row) :
    Blameless (sealedRow settings row : Except Failure (SealedEvent F)) := by
  obtain ⟨event, verified⟩ := verifies
  refine Blameless.bind ?_ fun _ _ => blameless_ok _
  rw [verified]
  exact blameless_ok event

theorem mapM_blameless {α β : Type} {f : α → Except Failure β} {inputs : List α}
    (each : ∀ a ∈ inputs, Blameless (f a)) : Blameless (inputs.mapM f) := by
  induction inputs with
  | nil => exact blameless_ok []
  | cons input rest ih =>
      rw [List.mapM_cons]
      refine (each input List.mem_cons_self).bind fun result _ => ?_
      refine (ih fun a member => each a (List.mem_cons_of_mem _ member)).bind fun results _ => ?_
      exact blameless_ok _

theorem exportRows_blameless (limit : Nat) {rows : List AuditEventRow} (taken bytes : Nat)
    (verified : ∀ row ∈ rows, Verifies F settings row) :
    Blameless (exportRows settings limit taken bytes rows :
      Except Failure (List (SealedEvent F × List Char) × Bool)) := by
  induction rows generalizing taken bytes with
  | nil => exact blameless_ok _
  | cons row rest ih =>
      unfold exportRows
      split
      · exact blameless_ok _
      · refine (sealedRow_blameless (verified row List.mem_cons_self)).bind fun own _ => ?_
        refine Blameless.bind ?_ fun line _ => ?_
        · unfold exportLine
          split
          · exact blameless_error (by decide)
          · exact blameless_ok _
        · split
          · split
            · exact blameless_error (by decide)
            · exact blameless_ok _
          · refine (ih _ _ fun other member => verified other (List.mem_cons_of_mem _ member)).bind
              fun more _ => ?_
            exact blameless_ok _

variable {db : Database} (verified : ∀ row ∈ db.auditEvents, Verifies F settings row)

include verified

theorem selected_verified (filter : AuditFilter) (count : Nat) :
    ∀ row ∈ (Database.selectAudit db filter).take count, Verifies F settings row := by
  intro row member
  have inOrder : row ∈ Database.selectAudit db filter := List.mem_of_mem_take member
  unfold Database.selectAudit at inOrder
  exact verified row (List.mem_filter.mp ((orderBy_perm _ _).mem_iff.mp inOrder)).1

theorem listAuditEvents_blameless (query : AuditQuery) :
    Blameless (listAuditEvents settings db query : Except Failure (List (SealedEvent F))) := by
  refine (filter_blameless query).bind fun filter _ => ?_
  exact mapM_blameless fun row member =>
    sealedRow_blameless (selected_verified verified filter _ row member)

theorem exportAuditEvents_blameless (draw : ExportDraw) (query : AuditQuery)
    (exports : List AuditExportRow) :
    Blameless (exportAuditEvents settings draw query ⟨db, exports⟩ :
      Except Failure (AuditStore × ExportReceipt F)) := by
  refine Blameless.bind ?_ fun page _ => Blameless.bind ?_ fun prepared _ => Blameless.bind ?_
    fun store _ => blameless_ok _
  · refine (filter_blameless query).bind fun filter _ => ?_
    exact (exportRows_blameless _ 0 0 (selected_verified verified filter _)).bind
      fun events _ => blameless_ok _
  · unfold prepareExport
    split
    · exact blameless_error (by decide)
    · refine Blameless.bind (blameless_ok _) fun checksum _ => ?_
      exact (buildAuditEvent_blameless _ _).bind fun event _ => blameless_ok _
  · refine (ensureTenant_blameless _ _ _).bind fun db _ => ?_
    refine (insertUnique_blameless _ _ _).bind fun exports _ => ?_
    exact (insertAuditEvent_blameless _ _).bind fun db _ => blameless_ok _

end Blameless

/-! ### Calls that read a changed row -/

section Touched

variable {settings : Settings} {db : Database} {query : AuditQuery} {row : AuditEventRow}

theorem sealedRow_fails (fails : ¬Verifies F settings row) (sealedEvent : SealedEvent F) :
    sealedRow settings row ≠ .ok sealedEvent := by
  intro done
  obtain ⟨event, verified, _⟩ := except_bind_ok done
  exact fails ⟨event, verified⟩

/-- The row is on the page that a list returns. -/
def Listed (db : Database) (query : AuditQuery) (row : AuditEventRow) : Prop :=
  ∃ filter, query.filter = .ok filter ∧
    row ∈ (Database.selectAudit db filter).take (clampLimit query.limit auditMaxEventsPerExport)

theorem Listed.raises (listed : Listed db query row) (fails : ¬Verifies F settings row)
    (events : List (SealedEvent F)) : listAuditEvents settings db query ≠ .ok events := by
  obtain ⟨filter, isFilter, onPage⟩ := listed
  intro done
  unfold listAuditEvents at done
  rw [isFilter] at done
  obtain ⟨sealedEvent, _, isSealed⟩ := forall₂_mem_left (except_mapM_ok done) onPage
  exact sealedRow_fails fails sealedEvent isSealed

/-- The loop of an export comes to the row: the rows before it are fewer than the limit,
and it does not stop at one of them. -/
def ExportReaches (F : Type) [FloatFormat F] (settings : Settings) (db : Database)
    (query : AuditQuery) (row : AuditEventRow) : Prop :=
  ∃ filter before rest, query.filter = .ok filter ∧
    (Database.selectAudit db filter).take (clampLimit query.limit auditMaxEventsPerExport + 1) =
      before ++ row :: rest ∧
    before.length < clampLimit query.limit auditMaxEventsPerExport ∧
    ∀ pairs : List (SealedEvent F × List Char),
      exportRows settings (clampLimit query.limit auditMaxEventsPerExport) 0 0 before ≠
        .ok (pairs, true)

/-- A loop that returns has stopped before the row. -/
theorem exportRows_stops (fails : ¬Verifies F settings row) (limit : Nat)
    (before rest : List AuditEventRow) {taken bytes : Nat} (few : taken + before.length < limit)
    {pairs : List (SealedEvent F × List Char)} {hasMore : Bool}
    (done : exportRows settings limit taken bytes (before ++ row :: rest) = .ok (pairs, hasMore)) :
    ∃ pairs : List (SealedEvent F × List Char),
      exportRows settings limit taken bytes before = .ok (pairs, true) := by
  induction before generalizing taken bytes pairs hasMore with
  | nil =>
      rw [List.length_nil] at few
      have notFull : ¬taken = limit := by
        omega
      rw [List.nil_append] at done
      unfold exportRows at done
      rw [if_neg notFull] at done
      obtain ⟨sealedEvent, isSealed, _⟩ := except_bind_ok done
      exact absurd isSealed (sealedRow_fails fails sealedEvent)
  | cons first before ih =>
      rw [List.length_cons] at few
      have notFull : ¬taken = limit := by
        omega
      rw [List.cons_append] at done
      unfold exportRows at done ⊢
      rw [if_neg notFull] at done ⊢
      obtain ⟨sealedEvent, isSealed, done⟩ := except_bind_ok done
      obtain ⟨line, isLine, done⟩ := except_bind_ok done
      rw [isSealed]
      change ∃ pairs, (exportLine sealedEvent >>= _) = _
      rw [isLine]
      change ∃ pairs, (if auditMaxExportBytes < bytes + line.length then _ else _) = _
      split at done
      · rename_i tooLong
        split at done
        · cases done
        · rename_i notFirst
          exact ⟨[], by rw [if_pos tooLong, if_neg notFirst]⟩
      · rename_i within
        obtain ⟨⟨more, left⟩, isMore, _⟩ := except_bind_ok done
        obtain ⟨stopped, isStopped⟩ := ih (by omega) isMore
        refine ⟨(sealedEvent, line) :: stopped, ?_⟩
        rw [if_neg within, isStopped]
        rfl

theorem ExportReaches.raises (reaches : ExportReaches F settings db query row)
    (fails : ¬Verifies F settings row) (draw : ExportDraw) (exports : List AuditExportRow)
    (result : AuditStore × ExportReceipt F) :
    exportAuditEvents settings draw query ⟨db, exports⟩ ≠ .ok result := by
  obtain ⟨filter, before, rest, isFilter, selected, few, onward⟩ := reaches
  intro done
  obtain ⟨page, isPage, _⟩ := except_bind_ok done
  obtain ⟨filter', isFilter', isPage⟩ := except_bind_ok isPage
  obtain ⟨⟨pairs, hasMore⟩, taken, _⟩ := except_bind_ok isPage
  rw [isFilter] at isFilter'
  rw [← Except.ok.inj isFilter', selected] at taken
  obtain ⟨stopped, isStopped⟩ := exportRows_stops fails _ before rest (by omega) taken
  exact onward stopped isStopped

theorem hold_raises (fails : ¬Verifies F settings row) (member : row ∈ db.auditEvents)
    (eventIds : List String) (asked : row.id ∈ eventIds) (draw : EventDraw) (tenantAt : Timestamp)
    (actor reason : String) (result : Database × Nat) :
    setAuditLegalHold F settings draw tenantAt row.tenantId actor eventIds reason db ≠
      .ok result := by
  intro done
  unfold setAuditLegalHold at done
  obtain ⟨_, _, done⟩ := except_bind_ok done
  obtain ⟨_, _, done⟩ := except_bind_ok done
  obtain ⟨_, _, done⟩ := except_bind_ok done
  obtain ⟨_, _, done⟩ := except_bind_ok done
  split at done
  · cases done
  · obtain ⟨_, _, done⟩ := except_bind_ok done
    obtain ⟨ensured, isEnsured, done⟩ := except_bind_ok done
    obtain ⟨events, held, _⟩ := except_bind_ok done
    obtain ⟨_, tenants, isDb⟩ := ensureTenant_ok isEnsured
    rw [isDb] at held
    obtain ⟨heldRow, _, isHeld⟩ := forall₂_mem_left (except_mapM_ok held) member
    rw [if_pos ⟨rfl, asked⟩] at isHeld
    obtain ⟨event, verified, _⟩ := except_bind_ok isHeld
    exact fails ⟨event, verified⟩

end Touched

/-! ### The trail -/

/-- Every list, export and hold that comes to the row raises. -/
structure Refused (F : Type) [FloatFormat F] (settings : Settings) (db : Database)
    (row : AuditEventRow) : Prop where
  list : ∀ query, Listed db query row → ∀ events : List (SealedEvent F),
    listAuditEvents settings db query ≠ .ok events
  exported : ∀ query, ExportReaches F settings db query row → ∀ draw exports,
    ∀ result : AuditStore × ExportReceipt F,
      exportAuditEvents settings draw query ⟨db, exports⟩ ≠ .ok result
  hold : ∀ eventIds, row.id ∈ eventIds → ∀ draw tenantAt actor reason result,
    setAuditLegalHold F settings draw tenantAt row.tenantId actor eventIds reason db ≠ .ok result

/-- From the start that brings the trace context on, all rows verify after any run, no list
and no export blames one, and a row that was changed from outside is refused. -/
theorem audit_rows_verifiable (F : Type) [FloatFormat F] (settings : Settings)
    (draw : InitializeDraw) (file db : Database) (exports : List AuditExportRow)
    (pending : file.schemaMigrations.any (fun row => row.version = 7) = false)
    (earlier : ∀ row ∈ file.auditEvents, EarlierRow F row)
    (opened : initializeStore F settings draw file = .ok db) (events : List (TrailEvent F)) :
    let store := runTrail settings ⟨db, exports⟩ events
    (∀ row ∈ store.db.auditEvents, Verifies F settings row) ∧
    (∀ query, (listAuditEvents settings store.db query : Except Failure (List (SealedEvent F))) ≠
      .error integrityFailed) ∧
    (∀ draw query, (exportAuditEvents settings draw query store :
      Except Failure (AuditStore × ExportReceipt F)) ≠ .error integrityFailed) ∧
    ∀ row ∈ store.db.auditEvents, ∀ row', Altered F row row' → ToldApart F settings row row' →
      ∀ changed : Database, row' ∈ changed.auditEvents → Refused F settings changed row' := by
  intro store
  have opening : Trusted F settings db := Trusted.opened pending earlier opened
  have trusted : Trusted F settings store.db := opening.run events
  refine ⟨trusted.verified, listAuditEvents_blameless trusted.verified, ?_, ?_⟩
  · intro draw query
    exact exportAuditEvents_blameless trusted.verified draw query store.exports
  · intro row member row' altered apart changed inside
    have fails : ¬Verifies F settings row' := altered.fails (trusted.verified row member) apart
    constructor
    · intro query listed events
      exact listed.raises fails events
    · intro query reaches draw exports result
      exact reaches.raises fails draw exports result
    · intro eventIds asked draw tenantAt actor reason result
      exact hold_raises fails inside eventIds asked draw tenantAt actor reason result

theorem wipedRow_earlier : EarlierRow Empty wipedRow := ⟨[], "{}".toList, rfl, rfl⟩

/-- The row of an earlier release verifies after the start, and no longer once its new hash
is wiped. -/
theorem audit_rows_verifiable_wiped :
    ∃ db, initializeStore Empty Settings.standard InitializeDraw.epoch wipedDatabase = .ok db ∧
      ∃ row, db.auditEvents = [row] ∧ Verifies Empty Settings.standard row ∧
        Refused Empty Settings.standard
          { db with auditEvents := [{ row with integrityHash := "" }] }
          { row with integrityHash := "" } := by
  have pending : wipedDatabase.schemaMigrations.any (fun row => row.version = 7) = false := rfl
  have earlier : ∀ row ∈ wipedDatabase.auditEvents, EarlierRow Empty row := by
    intro row member
    rw [List.mem_singleton.mp member]
    exact wipedRow_earlier
  obtain ⟨db, opened⟩ := (initialize_accepted_iff pending).mpr wiped_accepted
  obtain ⟨verified, _, _, refused⟩ := audit_rows_verifiable Empty Settings.standard
    InitializeDraw.epoch wipedDatabase db [] pending earlier opened []
  have migrated := except_mapM_ok (initialize_migrates pending opened)
  obtain ⟨row, rest, _, none, isRows⟩ := List.forall₂_cons_left_iff.mp migrated
  rw [List.forall₂_nil_left_iff.mp none] at isRows
  have member : row ∈ db.auditEvents := by
    rw [isRows]
    exact List.mem_cons_self
  obtain ⟨event, text, read, isText, isHash⟩ := (verified row member).record
  have same : SameReading Empty row { row with integrityHash := "" } :=
    ⟨event, event, read, read, rfl⟩
  have otherHash : "" ≠ row.integrityHash := by
    intro wiped
    have length := (Settings.standard.sha256 (asciiBytes text)).isHex.1
    rw [isHash, ← wiped] at length
    cases length
  refine ⟨db, opened, row, isRows, verified row member, ?_⟩
  refine refused row member _ (.hash otherHash same) ?_ _ List.mem_cons_self
  intro one other isOne isOther left right isLeft isRight _
  have sameEvent : one = other := Except.ok.inj (isOne.symm.trans isOther)
  rw [sameEvent, isRight] at isLeft
  exact (Option.some.inj isLeft).symm

end FolioLattice.Audit
