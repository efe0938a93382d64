/-
A reader that follows the audit trail from cursor to cursor, while events are stamped
first and committed later.
-/

import FolioLattice.Audit.ExportEnds
import FolioLattice.Concurrency.Transition

namespace FolioLattice.Audit

open FolioLattice.Text FolioLattice.Data FolioLattice.Relational FolioLattice.Store
open FolioLattice.Concurrency (Transition Trace)
open FolioLattice.Effects (except_bind_ok except_mapM_ok forall₂_mem_left forall₂_mem_right)

variable {F : Type} [FloatFormat F]

/-! ### The writers and the reader -/

/-- What an export has prepared and not committed yet. -/
structure OwnExport (F : Type) where
  row : AuditExportRow
  event : SealedEvent F
  tenantAt : Timestamp

/-- A page that is read and has not reached the reader yet. -/
structure PageRead (F : Type) where
  limit : Int
  events : List (SealedEvent F)
  own : Option (OwnExport F)

/-- The tables, the events that are stamped and not committed, and the reader. -/
structure Following (F : Type) where
  store : AuditStore
  inFlight : List (SealedEvent F)
  reading : Option (PageRead F)
  received : List (SealedEvent F)

def Following.start (store : AuditStore) : Following F := ⟨store, [], none, []⟩

/-- The last event that the reader received. -/
def Following.cursorKey (s : Following F) : Option AuditKey :=
  s.received.getLast?.map SealedEvent.key

def Following.cursor (s : Following F) : Option String :=
  s.received.getLast?.map (·.event.cursor)

def Following.onItsWay (s : Following F) : List (SealedEvent F) :=
  (s.reading.map (·.events)).getD []

def Following.handed (s : Following F) : List (SealedEvent F) := s.received ++ s.onItsWay

/-- The events that are still to be committed, that of an export among them. -/
def Following.pending (s : Following F) : List (SealedEvent F) :=
  s.inFlight ++ ((s.reading.bind (·.own)).map (·.event)).toList

/-- One call of the reader: the same tenant and window, a limit and a cursor. -/
def AuditQuery.read (query : AuditQuery) (limit : Int) (cursor : Option String) : AuditQuery :=
  { query with
    limit := limit
    cursor := cursor }

inductive FollowLabel (F : Type) where
  | stamp (draw : EventDraw) (request : AuditRequest F)
  | commit (event : SealedEvent F) (tenantAt : Timestamp)
  | lose (event : SealedEvent F)
  | listing (limit : Int)
  | exporting (limit : Int) (draw : ExportDraw)
  | receive
  | fail

/-- A step of a writer or of the reader.  `record_audit_event` stamps its event and then
waits for the lock; `export_audit_events` reads its page on one connection and commits its
own event on another. -/
inductive FollowStep (settings : Settings) (query : AuditQuery) :
    Transition (Following F) (FollowLabel F) where
  | stamp {s : Following F} {draw : EventDraw} {request : AuditRequest F} {event : SealedEvent F}
      (built : buildAuditEvent settings draw request = .ok event) :
      FollowStep settings query s (.stamp draw request) { s with inFlight := s.inFlight ++ [event] }
  | commit {s : Following F} {event : SealedEvent F} {before after : List (SealedEvent F)}
      {tenantAt : Timestamp} {db : Database} (waiting : s.inFlight = before ++ event :: after)
      (committed : commitAuditEvent tenantAt event s.store.db = .ok db) :
      FollowStep settings query s (.commit event tenantAt)
        { s with
          store := { s.store with db := db }
          inFlight := before ++ after }
  /-- The commit raises. -/
  | lose {s : Following F} {event : SealedEvent F} {before after : List (SealedEvent F)}
      (waiting : s.inFlight = before ++ event :: after) :
      FollowStep settings query s (.lose event) { s with inFlight := before ++ after }
  | listing {s : Following F} {limit : Int} {events : List (SealedEvent F)} (idle : s.reading = none)
      (listed : listAuditEvents settings s.store.db (query.read limit s.cursor) = .ok events) :
      FollowStep settings query s (.listing limit) { s with reading := some ⟨limit, events, none⟩ }
  | exporting {s : Following F} {limit : Int} {draw : ExportDraw} {page : ExportPage F}
      {row : AuditExportRow} {own : SealedEvent F} (idle : s.reading = none)
      (paged : exportPage settings s.store.db (query.read limit s.cursor) = .ok page)
      (prepared : prepareExport settings draw (query.read limit s.cursor) page = .ok (row, own)) :
      FollowStep settings query s (.exporting limit draw)
        { s with reading := some ⟨limit, page.events, some ⟨row, own, draw.tenantAt⟩⟩ }
  | receiveListed {s : Following F} {limit : Int} {events : List (SealedEvent F)}
      (reading : s.reading = some ⟨limit, events, none⟩) :
      FollowStep settings query s .receive
        { s with
          reading := none
          received := s.received ++ events }
  | receiveExported {s : Following F} {limit : Int} {events : List (SealedEvent F)}
      {own : OwnExport F} {store : AuditStore} (reading : s.reading = some ⟨limit, events, some own⟩)
      (committed : commitExport own.tenantAt own.row own.event s.store = .ok store) :
      FollowStep settings query s .receive
        { s with
          store := store
          reading := none
          received := s.received ++ events }
  /-- The reader's call raises. -/
  | fail {s : Following F} : FollowStep settings query s .fail { s with reading := none }

/-! ### When nothing is overtaken -/

def EventDraw.key (draw : EventDraw) : AuditKey :=
  toLex (draw.now.isoformat, newId "audit" draw.eventId)

/-- Whether the row of an event is in the window. -/
def AuditFilter.takes (window : AuditFilter) (event : SealedEvent F) : Bool :=
  event.event.tenantId = window.tenantId && window.spans event.event.occurredAt

/-- No event of the window is overtaken by the reader: a stamp sorts after what is
received, a commit after a page that is on its way, and what is pending when a page
arrives after that page. -/
def Clear (window : AuditFilter) (s : Following F) : FollowLabel F → Prop
  | .stamp draw request =>
      request.tenantId = window.tenantId → window.spans draw.now.isoformat = true →
        ∀ other ∈ s.received, other.key < draw.key
  | .commit event _ => window.takes event = true → ∀ other ∈ s.onItsWay, other.key < event.key
  | .receive =>
      ∀ event ∈ s.pending, window.takes event = true → ∀ other ∈ s.handed, other.key < event.key
  | _ => True

def FollowLabel.ofReader : FollowLabel F → Bool
  | .listing _ => true
  | .exporting _ _ => true
  | .receive => true
  | .fail => true
  | _ => false

/-- A page reaches the reader, and if it is of an export, then one of two events or more,
or one whose own event sorts after all that is left. -/
def Following.drains (window : AuditFilter) (s : Following F) : FollowLabel F → Bool
  | .receive =>
      s.reading.any (fun page => page.own.all (fun own =>
        2 ≤ clampLimit page.limit auditMaxEventsPerExport ||
          (rowsAfter s.store.db window s.cursorKey).all (fun row => auditKey row < own.event.key)))
  | _ => false

section Steps

variable {settings : Settings} {query : AuditQuery} {window : AuditFilter} {s s' : Following F}
  {label : FollowLabel F}

omit [FloatFormat F] in
theorem cursor_eq (s : Following F) : s.cursor = s.cursorKey.map auditCursorText := by
  unfold Following.cursor Following.cursorKey
  rw [Option.map_map]
  rfl

omit [FloatFormat F] in
theorem AuditQuery.Opens.read (opens : query.Opens window) (limit : Int) :
    (query.read limit none).Opens window :=
  ⟨opens.accepted⟩

omit [FloatFormat F] in
theorem admits_takes (noCursor : window.cursor = none) (event : SealedEvent F)
    (detailsJson : String) :
    window.admits (event.event.row detailsJson event.integrityHash) = window.takes event := by
  unfold AuditFilter.admits AuditFilter.takes AuditFilter.spans
  rw [noCursor, Option.all_none, Bool.and_true, ← Bool.and_assoc]
  rfl

omit [FloatFormat F] in
theorem eventKey_row (event : SealedEvent F) (detailsJson : String) :
    auditKey (event.event.row detailsJson event.integrityHash) = event.key :=
  rfl

/-- Rows beside the events that they are read as. -/
abbrev ReadAs (settings : Settings) (rows : List AuditEventRow) (events : List (SealedEvent F)) :
    Prop :=
  List.Forall₂ (fun row event => sealedRow settings row = .ok event) rows events

theorem ReadAs.keys {rows : List AuditEventRow} {events : List (SealedEvent F)}
    (read : ReadAs settings rows events) : events.map SealedEvent.key = rows.map auditKey := by
  induction read with
  | nil => rfl
  | cons verified _ ih => rw [List.map_cons, List.map_cons, ih, sealedRow_key verified]

/-! ### What is true in every run -/

/-- The tables after an event was added to them. -/
def Added (event : SealedEvent F) (db db' : Database) : Prop :=
  ∃ detailsJson, dumps true event.event.details = some detailsJson ∧
    db'.auditEvents = db.auditEvents ++
      [event.event.row (String.ofList detailsJson) event.integrityHash] ∧
    ∀ old ∈ db.auditEvents, old.id ≠ event.event.id

theorem commitAuditEvent_added {tenantAt : Timestamp} {event : SealedEvent F} {db db' : Database}
    (committed : commitAuditEvent tenantAt event db = .ok db') : Added event db db' := by
  obtain ⟨ensured, isEnsured, inserted⟩ := except_bind_ok committed
  obtain ⟨_, tenants, isDb⟩ := ensureTenant_ok isEnsured
  rw [isDb] at inserted
  have added := insertAuditEvent_ok inserted
  exact added

theorem commitExport_added {tenantAt : Timestamp} {row : AuditExportRow} {event : SealedEvent F}
    {store store' : AuditStore} (committed : commitExport tenantAt row event store = .ok store') :
    Added event store.db store'.db := by
  obtain ⟨ensured, isEnsured, committed⟩ := except_bind_ok committed
  obtain ⟨exports, _, committed⟩ := except_bind_ok committed
  obtain ⟨db, inserted, isStore⟩ := except_bind_ok committed
  obtain ⟨_, tenants, isDb⟩ := ensureTenant_ok isEnsured
  rw [isDb] at inserted
  rw [← Except.ok.inj isStore]
  have added := insertAuditEvent_ok inserted
  exact added

theorem prepareExport_built {draw : ExportDraw} {page : ExportPage F} {row : AuditExportRow}
    {own : SealedEvent F} (prepared : prepareExport settings draw query page = .ok (row, own)) :
    Built settings own ∧ own.key = draw.key := by
  unfold prepareExport at prepared
  split at prepared
  · cases prepared
  · obtain ⟨_, _, prepared⟩ := except_bind_ok prepared
    obtain ⟨event, isBuilt, prepared⟩ := except_bind_ok prepared
    rw [← (Prod.mk.inj (Except.ok.inj prepared)).2]
    obtain ⟨built, isId, isTime, _⟩ := buildAuditEvent_ok isBuilt
    refine ⟨built, ?_⟩
    unfold SealedEvent.key ExportDraw.key
    rw [isId, isTime]

theorem TrailSound.added {db db' : Database} {event : SealedEvent F}
    (sound : TrailSound F settings db) (built : Built settings event) (added : Added event db db') :
    TrailSound F settings db' := by
  obtain ⟨detailsJson, dumped, appended, fresh⟩ := added
  exact sound.append ⟨event, detailsJson, built, dumped, rfl⟩ fresh appended

/-- The tables are sound, what is pending was built, and what the reader has is stamped. -/
structure Sane (settings : Settings) (s : Following F) : Prop where
  sound : TrailSound F settings s.store.db
  built : ∀ event ∈ s.pending, Built settings event
  stamped : ∀ event ∈ s.handed, StampedKey event.key

theorem Sane.cursor (sane : Sane settings s) : ∀ key, s.cursorKey = some key → StampedKey key := by
  intro key isKey
  obtain ⟨event, isLast, same⟩ := Option.map_eq_some_iff.mp isKey
  rw [← same]
  exact sane.stamped event (List.mem_append_left _ (List.mem_of_getLast? isLast))

theorem Sane.filter (sane : Sane settings s) (opens : query.Opens window) (limit : Int) :
    (query.read limit s.cursor).filter =
      .ok { window with cursor := s.cursorKey.map ofLex } := by
  rw [cursor_eq]
  exact (opens.read limit).after sane.cursor

/-- A page holds the first of the rows that were left when it was read. -/
structure PageOf (settings : Settings) (rows : List AuditEventRow) (page : PageRead F) : Prop where
  events : ReadAs settings (rows.take page.events.length) page.events
  fewer : page.events.length ≤ rows.length
  nonempty : rows ≠ [] → page.events ≠ []
  two : 2 ≤ rows.length → 2 ≤ clampLimit page.limit auditMaxEventsPerExport →
    2 ≤ page.events.length

theorem Sane.listed (sane : Sane settings s) (opens : query.Opens window) {limit : Int}
    {events : List (SealedEvent F)}
    (listed : listAuditEvents settings s.store.db (query.read limit s.cursor) = .ok events) :
    PageOf settings (rowsAfter s.store.db window s.cursorKey) ⟨limit, events, none⟩ := by
  obtain ⟨filter, isFilter, read⟩ := except_bind_ok listed
  rw [sane.filter opens] at isFilter
  rw [← Except.ok.inj isFilter] at read
  have pairs : ReadAs settings ((rowsAfter s.store.db window s.cursorKey).take
      (clampLimit limit auditMaxEventsPerExport)) events := except_mapM_ok read
  have length := pairs.length_eq
  have positive := clampLimit_pos limit auditMaxEventsPerExport
  rw [List.length_take] at length
  refine ⟨?_, ?_, ?_, ?_⟩
  · have same : (rowsAfter s.store.db window s.cursorKey).take events.length =
        (rowsAfter s.store.db window s.cursorKey).take
          (clampLimit limit auditMaxEventsPerExport) := by
      rw [List.take_eq_take_iff]
      omega
    dsimp only
    rw [same]
    exact pairs
  · dsimp only
    omega
  · intro some nothing
    have more := List.length_pos_of_ne_nil some
    rw [show events = [] from nothing, List.length_nil] at length
    omega
  · intro two room
    dsimp only at room ⊢
    omega

theorem Sane.exported (sane : Sane settings s) (opens : query.Opens window) {limit : Int}
    {page : ExportPage F} (own : OwnExport F)
    (paged : exportPage settings s.store.db (query.read limit s.cursor) = .ok page) :
    PageOf settings (rowsAfter s.store.db window s.cursorKey) ⟨limit, page.events, some own⟩ := by
  obtain ⟨pairs, read, rows, some, two⟩ := exportPage_spec sane.sound (sane.filter opens limit)
  rw [read] at paged
  rw [← Except.ok.inj paged]
  have length : (pairs.map (·.1)).length = pairs.length := List.length_map _
  refine ⟨?_, ?_, ?_, ?_⟩
  · dsimp only
    rw [length]
    unfold ReadAs
    rw [List.forall₂_map_right_iff]
    exact rows.exported.imp (fun row pair exportsAs => exportsAs.verified)
  · dsimp only
    rw [length]
    exact rows.fewer
  · intro left empty
    exact some left (List.map_eq_nil_iff.mp empty)
  · intro more room
    dsimp only
    rw [length]
    exact two more room

theorem PageOf.stamped {db : Database} {cursor : Option AuditKey} {page : PageRead F}
    (pageOf : PageOf settings (rowsAfter db window cursor) page) (noCursor : window.cursor = none)
    (sound : TrailSound F settings db) : ∀ event ∈ page.events, StampedKey event.key := by
  intro event member
  obtain ⟨row, taken, verified⟩ := forall₂_mem_right pageOf.events member
  obtain ⟨⟨inTable, _⟩, _⟩ := (mem_rowsAfter noCursor).mp (List.mem_of_mem_take taken)
  obtain ⟨t, uuid, isTime, isId⟩ := (sound.stored row inTable).stamped
  refine ⟨t, uuid, ?_⟩
  rw [sealedRow_key verified]
  unfold auditKey
  rw [isTime, isId]

omit [FloatFormat F] in
theorem handed_idle (idle : s.reading = none) : s.handed = s.received := by
  unfold Following.handed Following.onItsWay
  rw [idle]
  exact List.append_nil _

omit [FloatFormat F] in
theorem handed_reading {page : PageRead F} (reading : s.reading = some page) :
    s.handed = s.received ++ page.events := by
  unfold Following.handed Following.onItsWay
  rw [reading]
  rfl

omit [FloatFormat F] in
theorem mem_pending {event : SealedEvent F} :
    event ∈ s.pending ↔ event ∈ s.inFlight ∨
      ∃ page own, s.reading = some page ∧ page.own = some own ∧ own.event = event := by
  unfold Following.pending
  rw [List.mem_append, Option.mem_toList, Option.map_eq_some_iff]
  simp only [Option.bind_eq_some_iff]
  constructor
  · rintro (waiting | ⟨own, ⟨page, reading, isOwn⟩, same⟩)
    · exact Or.inl waiting
    · exact Or.inr ⟨page, own, reading, isOwn, same⟩
  · rintro (waiting | ⟨page, own, reading, isOwn, same⟩)
    · exact Or.inl waiting
    · exact Or.inr ⟨own, ⟨page, reading, isOwn⟩, same⟩

omit [FloatFormat F] in
theorem mem_of_waiting {event other : SealedEvent F} {before after : List (SealedEvent F)}
    (waiting : s.inFlight = before ++ event :: after) (still : other ∈ before ++ after) :
    other ∈ s.inFlight := by
  rw [waiting]
  rcases List.mem_append.mp still with earlier | later
  · exact List.mem_append_left _ earlier
  · exact List.mem_append_right _ (List.mem_cons_of_mem _ later)

theorem Sane.start {store : AuditStore} (sound : TrailSound F settings store.db) :
    Sane settings (Following.start store : Following F) where
  sound := sound
  built _ member := absurd member List.not_mem_nil
  stamped _ member := absurd member List.not_mem_nil

theorem Sane.step (opens : query.Opens window) (sane : Sane settings s)
    (step : FollowStep settings query s label s') : Sane settings s' := by
  have noCursor := opens.fields.2.2.2.2
  -- what was pending and is not new was built
  have waits : ∀ event ∈ s.inFlight, Built settings event :=
    fun event waiting => sane.built event (List.mem_append_left _ waiting)
  cases step with
  | stamp built =>
      refine ⟨sane.sound, ?_, sane.stamped⟩
      intro event member
      rcases mem_pending.mp member with waiting | ⟨page, own, reading, isOwn, same⟩
      · rcases List.mem_append.mp waiting with before | new
        · exact waits event before
        · rw [List.mem_singleton.mp new]
          exact (buildAuditEvent_ok built).1
      · exact sane.built event (mem_pending.mpr (Or.inr ⟨page, own, reading, isOwn, same⟩))
  | @commit _ event before after _ _ waiting committed =>
      have inside : event ∈ s.inFlight := by
        rw [waiting]
        exact List.mem_append_right _ List.mem_cons_self
      refine ⟨sane.sound.added (waits event inside) (commitAuditEvent_added committed), ?_,
        sane.stamped⟩
      intro other member
      apply sane.built other
      rcases mem_pending.mp member with still | own
      · refine mem_pending.mpr (Or.inl ?_)
        exact mem_of_waiting waiting still
      · exact mem_pending.mpr (Or.inr own)
  | @lose _ event before after waiting =>
      refine ⟨sane.sound, ?_, sane.stamped⟩
      intro other member
      apply sane.built other
      rcases mem_pending.mp member with still | own
      · refine mem_pending.mpr (Or.inl ?_)
        exact mem_of_waiting waiting still
      · exact mem_pending.mpr (Or.inr own)
  | listing idle listed =>
      refine ⟨sane.sound, ?_, ?_⟩
      · intro event member
        rcases mem_pending.mp member with waiting | ⟨page, own, reading, isOwn, _⟩
        · exact waits event waiting
        · rw [← Option.some.inj reading] at isOwn
          cases isOwn
      · intro event member
        rcases List.mem_append.mp member with got | onWay
        · exact sane.stamped event (List.mem_append_left _ got)
        · exact (sane.listed opens listed).stamped noCursor sane.sound event onWay
  | @exporting _ limit draw page row own idle paged prepared =>
      refine ⟨sane.sound, ?_, ?_⟩
      · intro event member
        rcases mem_pending.mp member with waiting | ⟨page, own', reading, isOwn, same⟩
        · exact waits event waiting
        · rw [← Option.some.inj reading] at isOwn
          rw [← same, ← Option.some.inj isOwn]
          exact (prepareExport_built prepared).1
      · intro event member
        rcases List.mem_append.mp member with got | onWay
        · exact sane.stamped event (List.mem_append_left _ got)
        · exact (sane.exported opens ⟨row, own, draw.tenantAt⟩ paged).stamped noCursor sane.sound
            event onWay
  | receiveListed reading =>
      refine ⟨sane.sound, ?_, ?_⟩
      · intro event member
        rcases mem_pending.mp member with waiting | ⟨page, own, none, _⟩
        · exact waits event waiting
        · cases none
      · intro event member
        rw [handed_idle rfl] at member
        exact sane.stamped event (by rw [handed_reading reading]; exact member)
  | receiveExported reading committed =>
      refine ⟨sane.sound.added (sane.built _ ?_) (commitExport_added committed), ?_, ?_⟩
      · exact mem_pending.mpr (Or.inr ⟨_, _, reading, rfl, rfl⟩)
      · intro event member
        rcases mem_pending.mp member with waiting | ⟨page, own, none, _⟩
        · exact waits event waiting
        · cases none
      · intro event member
        rw [handed_idle rfl] at member
        exact sane.stamped event (by rw [handed_reading reading]; exact member)
  | fail =>
      refine ⟨sane.sound, ?_, ?_⟩
      · intro event member
        rcases mem_pending.mp member with waiting | ⟨page, own, none, _⟩
        · exact waits event waiting
        · cases none
      · intro event member
        rw [handed_idle rfl] at member
        exact sane.stamped event (List.mem_append_left _ member)

/-! ### When no step overtakes -/

/-- The reader has, or is about to get, the first rows of the window. -/
structure Follows (settings : Settings) (window : AuditFilter) (s : Following F)
    (front left : List AuditEventRow) : Prop where
  sane : Sane settings s
  rows : rowsAfter s.store.db window none = front ++ left
  handed : ReadAs settings front s.handed
  ahead : ∀ event ∈ s.inFlight, window.takes event = true →
    ∀ other ∈ s.received, other.key < event.key

/-- After the last of the first rows there are the others. -/
theorem rowsAfter_last {db : Database} (ids : KeyedBy (·.id) db.auditEvents)
    (noCursor : window.cursor = none) {front left : List AuditEventRow}
    (rows : rowsAfter db window none = front ++ left) :
    rowsAfter db window (front.getLast?.map auditKey) = left := by
  rcases List.eq_nil_or_concat front with nothing | ⟨init, last, isFront⟩
  · rw [nothing] at rows ⊢
    exact rows
  · rw [List.concat_eq_append] at isFront
    have strict : ∀ cursor, (rowsAfter db window cursor).Pairwise
        (fun a b => auditKey a < auditKey b) :=
      fun cursor => orderBy_strict (auditKey_keyedBy (ids.filter _))
    have whole := strict none
    rw [rows] at whole
    obtain ⟨first, rest, apart⟩ := List.pairwise_append.mp whole
    have isLast : last ∈ front := by
      rw [isFront]
      exact List.mem_append_right _ (List.mem_singleton_self _)
    rw [isFront, List.getLast?_concat, Option.map_some]
    have irreflexive : Std.Irrefl (fun a b : AuditEventRow => auditKey a < auditKey b) :=
      ⟨fun a => lt_irrefl (auditKey a)⟩
    have asymmetric : Std.Asymm (fun a b : AuditEventRow => auditKey a < auditKey b) :=
      ⟨fun _ _ => lt_asymm⟩
    refine List.Pairwise.eq_of_mem_iff (strict _) rest ?_
    intro row
    constructor
    · intro member
      obtain ⟨inWindow, later⟩ := (mem_rowsAfter noCursor).mp member
      have inRows : row ∈ front ++ left := by
        rw [← rows]
        refine (mem_rowsAfter noCursor).mpr ⟨inWindow, ?_⟩
        intro key impossible
        cases impossible
      rcases List.mem_append.mp inRows with early | late
      · rw [isFront] at first early
        rcases List.mem_append.mp early with before | same
        · have less := (List.pairwise_append.mp first).2.2 row before last
            (List.mem_singleton_self _)
          exact absurd (later _ rfl) (lt_asymm less)
        · rw [List.mem_singleton.mp same] at later
          exact absurd (later _ rfl) (lt_irrefl _)
      · exact late
    · intro late
      have inRows : row ∈ rowsAfter db window none := by
        rw [rows]
        exact List.mem_append_right _ late
      refine (mem_rowsAfter noCursor).mpr ⟨((mem_rowsAfter noCursor).mp inRows).1, ?_⟩
      intro key isKey
      rw [← Option.some.inj isKey]
      exact apart last isLast row late

/-- The rows that the reader has, those on their way to it, and those that are left. -/
theorem Follows.split {front left : List AuditEventRow} (follows : Follows settings window s front left)
    (noCursor : window.cursor = none) :
    ∃ got way, front = got ++ way ∧ ReadAs settings got s.received ∧
      ReadAs settings way s.onItsWay ∧ rowsAfter s.store.db window s.cursorKey = way ++ left := by
  have got := List.forall₂_take_append _ _ _ follows.handed
  have way := List.forall₂_drop_append _ _ _ follows.handed
  refine ⟨_, _, (List.take_append_drop s.received.length front).symm, got, way, ?_⟩
  have keys : s.cursorKey = (front.take s.received.length).getLast?.map auditKey := by
    unfold Following.cursorKey
    rw [← List.getLast?_map, ← List.getLast?_map, ReadAs.keys got]
  rw [keys]
  apply rowsAfter_last follows.sane.sound.ids noCursor
  rw [follows.rows, ← List.append_assoc, List.take_append_drop]

/-- An event of the window that sorts after all that is handed out comes among the rest. -/
theorem Follows.added {front left : List AuditEventRow} {db : Database} {event : SealedEvent F}
    (follows : Follows settings window s front left) (noCursor : window.cursor = none)
    (built : Built settings event) (added : Added event s.store.db db)
    (after : window.takes event = true → ∀ other ∈ s.handed, other.key < event.key) :
    ∃ left' new, rowsAfter db window none = front ++ left' ∧ left'.Perm (left ++ new) ∧
      new.length ≤ 1 ∧ ∀ row ∈ new, auditKey row = event.key := by
  have sound : TrailSound F settings db := follows.sane.sound.added built added
  obtain ⟨detailsJson, _, appended, _⟩ := added
  have same : ({ window with cursor := (none : Option AuditKey).map ofLex } : AuditFilter) =
      window := by
    rw [Option.map_none, ← noCursor]
  have rows := follows.rows
  have keyed := auditKey_keyedBy (sound.ids.filter window.admits)
  unfold rowsAfter Database.selectAudit at rows ⊢
  rw [same] at rows ⊢
  rw [appended, List.filter_append] at keyed ⊢
  have isNew : ∀ row ∈ [event.event.row (String.ofList detailsJson) event.integrityHash].filter
      window.admits, auditKey row = event.key ∧ window.takes event = true := by
    intro row member
    obtain ⟨only, admitted⟩ := List.mem_filter.mp member
    rw [List.mem_singleton.mp only] at admitted ⊢
    rw [admits_takes noCursor] at admitted
    exact ⟨rfl, admitted⟩
  refine ⟨_, _, orderBy_onward keyed rows ?_, orderBy_perm _ _, List.length_filter_le _ _,
    fun row member => (isNew row member).1⟩
  intro row inFront new member
  obtain ⟨isKey, taken⟩ := isNew new member
  obtain ⟨other, isHanded, verified⟩ := forall₂_mem_left follows.handed inFront
  rw [isKey, ← sealedRow_key verified]
  exact after taken other isHanded

/-- A page arrives, and the event of its own export comes among the rows that are left. -/
theorem Follows.receive {front left : List AuditEventRow} (opens : query.Opens window)
    (follows : Follows settings window s front left)
    (step : FollowStep settings query s .receive s') (clear : Clear window s .receive) :
    ∃ page left' new, s.reading = some page ∧ Follows settings window s' front left' ∧
      left'.Perm (left ++ new) ∧ (page.own = none → new = []) ∧ new.length ≤ 1 ∧
      ∀ row ∈ new, ∀ own, page.own = some own → auditKey row = own.event.key := by
  have sane := follows.sane.step opens step
  cases step with
  | receiveListed reading =>
      have handed := handed_reading reading
      refine ⟨_, left, [], reading, ⟨sane, follows.rows, ?_, ?_⟩, ?_, fun _ => rfl, Nat.zero_le _,
        fun row member => absurd member List.not_mem_nil⟩
      · rw [handed_idle rfl]
        exact handed ▸ follows.handed
      · intro event waiting taken other member
        exact clear event (List.mem_append_left _ waiting) taken other (handed ▸ member)
      · rw [List.append_nil]
  | @receiveExported _ limit events own store reading committed =>
      have handed := handed_reading reading
      have waits : own.event ∈ s.pending := mem_pending.mpr (Or.inr ⟨_, _, reading, rfl, rfl⟩)
      obtain ⟨left', new, rows, mixed, few, isOwn⟩ :=
        follows.added opens.fields.2.2.2.2 (follows.sane.built _ waits)
          (commitExport_added committed) (clear own.event waits)
      refine ⟨_, left', new, reading, ⟨sane, rows, ?_, ?_⟩, mixed, ?_, few, ?_⟩
      · rw [handed_idle rfl]
        exact handed ▸ follows.handed
      · intro event waiting taken other member
        exact clear event (List.mem_append_left _ waiting) taken other (handed ▸ member)
      · intro impossible
        cases impossible
      · intro row member own' same
        rw [isOwn row member, Option.some.inj same]

/-- No step that overtakes nothing takes a row from the reader. -/
theorem Follows.step {front left : List AuditEventRow} (opens : query.Opens window)
    (follows : Follows settings window s front left)
    (step : FollowStep settings query s label s') (clear : Clear window s label) :
    ∃ front' left', Follows settings window s' front' left' := by
  have noCursor := opens.fields.2.2.2.2
  have sane := follows.sane.step opens step
  obtain ⟨got, way, isFront, read, onWay, rest⟩ := follows.split noCursor
  -- a page that is read now holds the first of the rows that are left
  have takes : ∀ page : PageRead F, s.reading = none →
      PageOf settings (rowsAfter s.store.db window s.cursorKey) page →
      Sane settings { s with reading := some page } →
      ∃ front' left', Follows settings window { s with reading := some page } front' left' := by
    intro page idle pageOf sane
    have nothing : way = [] := by
      unfold Following.onItsWay at onWay
      rw [idle] at onWay
      exact List.forall₂_nil_right_iff.mp onWay
    rw [nothing, List.nil_append] at rest
    rw [nothing, List.append_nil] at isFront
    refine ⟨front ++ left.take page.events.length, left.drop page.events.length, sane, ?_, ?_,
      follows.ahead⟩
    · rw [List.append_assoc, List.take_append_drop]
      exact follows.rows
    · rw [handed_reading rfl, isFront, ← rest]
      exact List.rel_append read pageOf.events
  cases step with
  | @stamp _ draw request event built =>
      refine ⟨front, left, sane, follows.rows, follows.handed, ?_⟩
      intro event' waiting taken other member
      rcases List.mem_append.mp waiting with before | new
      · exact follows.ahead event' before taken other member
      · rw [List.mem_singleton.mp new] at taken ⊢
        obtain ⟨_, isId, isTime, isTenant, _⟩ := buildAuditEvent_ok built
        unfold AuditFilter.takes at taken
        rw [Bool.and_eq_true, decide_eq_true_eq, isTenant, isTime] at taken
        have less := clear taken.1 taken.2 other member
        unfold EventDraw.key at less
        unfold SealedEvent.key at less ⊢
        rw [isTime, isId]
        exact less
  | @commit _ event before after _ db waiting committed =>
      have inside : event ∈ s.inFlight := by
        rw [waiting]
        exact List.mem_append_right _ List.mem_cons_self
      have later : window.takes event = true → ∀ other ∈ s.handed, other.key < event.key := by
        intro taken other member
        rcases List.mem_append.mp member with received | coming
        · exact follows.ahead event inside taken other received
        · exact clear taken other coming
      obtain ⟨left', new, rows, _⟩ := follows.added noCursor
        (follows.sane.built event (List.mem_append_left _ inside))
        (commitAuditEvent_added committed) later
      refine ⟨front, left', sane, rows, follows.handed, ?_⟩
      intro other still
      exact follows.ahead other (mem_of_waiting waiting still)
  | @lose _ event before after waiting =>
      refine ⟨front, left, sane, follows.rows, follows.handed, ?_⟩
      intro other still
      exact follows.ahead other (mem_of_waiting waiting still)
  | listing idle listed => exact takes _ idle (follows.sane.listed opens listed) sane
  | exporting idle paged prepared =>
      exact takes _ idle (follows.sane.exported opens _ paged) sane
  | receiveListed reading =>
      obtain ⟨_, left', _, _, arrived, _⟩ := follows.receive opens (.receiveListed reading) clear
      exact ⟨front, left', arrived⟩
  | receiveExported reading committed =>
      obtain ⟨_, left', _, _, arrived, _⟩ :=
        follows.receive opens (.receiveExported reading committed) clear
      exact ⟨front, left', arrived⟩
  | fail =>
      refine ⟨got, way ++ left, sane, ?_, ?_, follows.ahead⟩
      · rw [← List.append_assoc, ← isFront]
        exact follows.rows
      · rw [handed_idle rfl]
        exact read

theorem Follows.start {store : AuditStore} (sound : TrailSound F settings store.db) :
    Follows settings window (Following.start store : Following F) []
      (rowsAfter store.db window none) where
  sane := Sane.start sound
  rows := rfl
  handed := .nil
  ahead _ member := absurd member List.not_mem_nil

theorem Follows.run {front left : List AuditEventRow} (opens : query.Opens window)
    (follows : Follows settings window s front left)
    {past : List (Following F × FollowLabel F)} (trace : Trace (FollowStep settings query) s past s')
    (clear : ∀ moment ∈ past, Clear window moment.1 moment.2) :
    ∃ front' left', Follows settings window s' front' left' := by
  induction trace with
  | start => exact ⟨front, left, follows⟩
  | next earlier taken ih =>
      obtain ⟨front', left', before⟩ :=
        ih (fun moment member => clear moment (List.mem_append_left _ member))
      exact before.step opens taken
        (clear _ (List.mem_append_right _ (List.mem_singleton_self _)))

/-- The reader has the first rows of the window, each once and in order, and its cursor is
before all the others. -/
def UpToCursor (settings : Settings) (window : AuditFilter) (s : Following F) : Prop :=
  ∃ got, rowsAfter s.store.db window none = got ++ rowsAfter s.store.db window s.cursorKey ∧
    ReadAs settings got s.received

theorem Follows.upToCursor {front left : List AuditEventRow}
    (follows : Follows settings window s front left) (noCursor : window.cursor = none) :
    UpToCursor settings window s := by
  obtain ⟨got, way, isFront, read, _, rest⟩ := follows.split noCursor
  refine ⟨got, ?_, read⟩
  rw [rest, ← List.append_assoc, ← isFront]
  exact follows.rows

/-- A row whose key the reader has is there once. -/
theorem UpToCursor.once (upTo : UpToCursor settings window s)
    (sound : TrailSound F settings s.store.db) {row : AuditEventRow} {event : SealedEvent F}
    (received : event ∈ s.received) (isKey : event.key = auditKey row) :
    (s.received.map (·.event.id)).count row.id = 1 := by
  obtain ⟨got, rows, read⟩ := upTo
  have ids : s.received.map (·.event.id) = got.map (·.id) := by
    have keys := congrArg (List.map (fun key : AuditKey => (ofLex key).2)) read.keys
    rw [List.map_map, List.map_map] at keys
    exact keys
  have distinct : (rowsAfter s.store.db window none).map (·.id) |>.Nodup :=
    ((orderBy_perm _ _).map _).nodup_iff.mpr (sound.ids.filter _)
  rw [rows, List.map_append] at distinct
  have sameId : event.event.id = row.id := congrArg (fun key : AuditKey => (ofLex key).2) isKey
  apply List.count_eq_one_of_mem
  · rw [ids]
    exact (List.nodup_append.mp distinct).1
  · rw [← sameId]
    exact List.mem_map_of_mem received

end Steps

end FolioLattice.Audit
