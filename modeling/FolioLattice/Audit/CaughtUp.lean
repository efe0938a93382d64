/-
What a reader of the audit trail gets in the end: all events once, when none is overtaken,
and never one that its cursor has passed.
-/

import FolioLattice.Audit.Following

namespace FolioLattice.Audit

open FolioLattice.Text FolioLattice.Data FolioLattice.Relational FolioLattice.Store
open FolioLattice.Concurrency (Trace)
open FolioLattice.Effects (except_mapM_keys forall₂_mem_left forall₂_mem_right)

variable {F : Type} [FloatFormat F]

section Ends

variable {settings : Settings} {query : AuditQuery} {window : AuditFilter} {s s' : Following F}
  {label : FollowLabel F}

/-! ### Once the writers have stopped -/

/-- No event is in flight, and a page that is on its way holds the next rows. -/
structure Quiet (settings : Settings) (window : AuditFilter) (s : Following F) : Prop where
  alone : s.inFlight = []
  next : ∀ page, s.reading = some page →
    PageOf settings (rowsAfter s.store.db window s.cursorKey) page

theorem Quiet.step (opens : query.Opens window) (sane : Sane settings s)
    (quiet : Quiet settings window s) (step : FollowStep settings query s label s')
    (reader : label.ofReader = true) : Quiet settings window s' := by
  cases step with
  | stamp _ => cases reader
  | commit _ _ => cases reader
  | lose _ => cases reader
  | listing idle listed =>
      refine ⟨quiet.alone, ?_⟩
      intro page isPage
      rw [← Option.some.inj isPage]
      exact sane.listed opens listed
  | exporting idle paged prepared =>
      refine ⟨quiet.alone, ?_⟩
      intro page isPage
      rw [← Option.some.inj isPage]
      exact sane.exported opens _ paged
  | receiveListed _ => exact ⟨quiet.alone, fun page impossible => by cases impossible⟩
  | receiveExported _ _ => exact ⟨quiet.alone, fun page impossible => by cases impossible⟩
  | fail => exact ⟨quiet.alone, fun page impossible => by cases impossible⟩

theorem FollowStep.keeps (step : FollowStep settings query s label s') :
    (∀ row ∈ s.store.db.auditEvents, row ∈ s'.store.db.auditEvents) ∧
      ∀ event ∈ s.received, event ∈ s'.received := by
  have stays : ∀ {event : SealedEvent F} {db : Database}, Added event s.store.db db →
      ∀ row ∈ s.store.db.auditEvents, row ∈ db.auditEvents := by
    rintro event db ⟨detailsJson, _, appended, _⟩ row member
    rw [appended]
    exact List.mem_append_left _ member
  cases step with
  | commit _ committed => exact ⟨stays (commitAuditEvent_added committed), fun _ member => member⟩
  | receiveListed _ => exact ⟨fun _ member => member, fun _ => List.mem_append_left _⟩
  | receiveExported _ committed =>
      exact ⟨stays (commitExport_added committed), fun _ => List.mem_append_left _⟩
  | _ => exact ⟨fun _ member => member, fun _ member => member⟩

/-- The rows that are left up to this one. -/
def remaining (window : AuditFilter) (row : AuditEventRow) (s : Following F) : Nat :=
  (rowsAfter s.store.db window s.cursorKey).countP (fun other => auditKey other ≤ auditKey row)

/-- Until the reader has the row, each page that drains leaves fewer rows before it. -/
theorem Follows.progress {front left : List AuditEventRow} (opens : query.Opens window)
    (follows : Follows settings window s front left) (quiet : Quiet settings window s)
    (step : FollowStep settings query s label s') (reader : label.ofReader = true)
    (clear : Clear window s label) {row : AuditEventRow} (member : row ∈ s.store.db.auditEvents)
    (admitted : window.admits row = true)
    (missing : ∀ event ∈ s'.received, event.key ≠ auditKey row) :
    remaining window row s' + (if s.drains window label = true then 1 else 0) ≤
      remaining window row s := by
  have noCursor := opens.fields.2.2.2.2
  by_cases receives : label = .receive
  · subst receives
    obtain ⟨page, left', new, reading, arrived, mixed, notOwn, few, isOwn⟩ :=
      follows.receive opens step clear
    obtain ⟨got, way, isFront, read, onWay, rest⟩ := follows.split noCursor
    obtain ⟨got', way', isFront', read', onWay', rest'⟩ := arrived.split noCursor
    have idle : s'.reading = none := by
      cases step with
      | receiveListed _ => rfl
      | receiveExported _ _ => rfl
    have nothing : way' = [] := by
      unfold Following.onItsWay at onWay'
      rw [idle] at onWay'
      exact List.forall₂_nil_right_iff.mp onWay'
    rw [nothing, List.nil_append] at rest'
    rw [nothing, List.append_nil] at isFront'
    have pageLength : way.length = page.events.length := by
      have length := onWay.length_eq
      unfold Following.onItsWay at length
      rw [reading] at length
      exact length
    have next := quiet.next page reading
    rw [rest] at next
    -- the row is not among the first ones, so it is left, and they are all before it
    have notFront : row ∉ front := by
      intro early
      rw [isFront'] at early
      obtain ⟨event, received, verified⟩ := forall₂_mem_left read' early
      exact missing event received (sealedRow_key verified)
    have inRows : row ∈ front ++ left := by
      rw [← follows.rows]
      refine (mem_rowsAfter noCursor).mpr ⟨⟨member, admitted⟩, ?_⟩
      intro key impossible
      cases impossible
    have late : row ∈ left := (List.mem_append.mp inRows).resolve_left notFront
    have strict : (way ++ left).Pairwise (fun a b => auditKey a < auditKey b) := by
      rw [← rest]
      exact orderBy_strict (auditKey_keyedBy (follows.sane.sound.ids.filter _))
    have wayBefore : way.countP (fun other => auditKey other ≤ auditKey row) = way.length := by
      rw [List.countP_eq_length]
      intro other early
      exact decide_eq_true (le_of_lt ((List.pairwise_append.mp strict).2.2 other early row late))
    have leftLength : 1 ≤ left.length := List.length_pos_of_mem late
    have positive : 1 ≤ way.length := by
      rw [pageLength]
      apply List.length_pos_of_ne_nil
      apply next.nonempty
      intro empty
      rw [(List.append_eq_nil_iff.mp empty).2] at late
      cases late
    have newFew := List.countP_le_length (p := fun other => decide (auditKey other ≤ auditKey row))
      (l := new)
    unfold remaining
    rw [rest, rest', mixed.countP_eq, List.countP_append, List.countP_append, wayBefore]
    cases own : page.own with
    | none =>
        rw [notOwn own, List.countP_nil]
        split <;> omega
    | some ownExport =>
        by_cases drains : s.drains window (.receive : FollowLabel F) = true
        · rw [if_pos drains]
          unfold Following.drains at drains
          rw [reading, Option.any_some, own, Option.all_some, Bool.or_eq_true, decide_eq_true_eq,
            List.all_eq_true] at drains
          rcases drains with wide | behind
          · have two := next.two (by rw [List.length_append]; omega) wide
            omega
          · have none : new.countP (fun other => auditKey other ≤ auditKey row) = 0 := by
              rw [List.countP_eq_zero]
              intro other isNew
              have after := behind row (by rw [rest]; exact List.mem_append_right _ late)
              rw [decide_eq_true_eq, isOwn other isNew ownExport own]
              exact not_le_of_gt (of_decide_eq_true after)
            omega
        · rw [if_neg drains]
          omega
  · have same : remaining window row s' = remaining window row s := by
      cases step with
      | stamp _ => cases reader
      | commit _ _ => cases reader
      | lose _ => cases reader
      | listing _ _ => rfl
      | exporting _ _ _ => rfl
      | receiveListed _ => exact absurd rfl receives
      | receiveExported _ _ => exact absurd rfl receives
      | fail => rfl
    have notDrains : ¬s.drains window label = true := by
      unfold Following.drains
      split
      · exact absurd rfl receives
      · exact Bool.false_ne_true
    rw [if_neg notDrains, same]
    exact Nat.le_refl _

/-- After the writers have stopped, a row is received or fewer rows are left before it for
every page that drained. -/
theorem Follows.caughtUp {front left : List AuditEventRow} (opens : query.Opens window)
    (follows : Follows settings window s front left) (quiet : Quiet settings window s)
    {later : List (Following F × FollowLabel F)}
    (trace : Trace (FollowStep settings query) s later s')
    (reader : ∀ moment ∈ later, moment.2.ofReader = true ∧ Clear window moment.1 moment.2)
    {row : AuditEventRow} (member : row ∈ s.store.db.auditEvents)
    (admitted : window.admits row = true) :
    (∃ front' left', Follows settings window s' front' left') ∧ Quiet settings window s' ∧
      row ∈ s'.store.db.auditEvents ∧
      ((∃ event ∈ s'.received, event.key = auditKey row) ∨
        remaining window row s' + later.countP (fun moment => moment.1.drains window moment.2) ≤
          remaining window row s) := by
  induction trace with
  | start => exact ⟨⟨front, left, follows⟩, quiet, member, Or.inr (Nat.le_refl _)⟩
  | @next past mid s' label earlier taken ih =>
      obtain ⟨⟨front', left', before⟩, still, stays, reached⟩ :=
        ih (fun moment inside => reader moment (List.mem_append_left _ inside))
      obtain ⟨ofReader, clear⟩ := reader _ (List.mem_append_right _ (List.mem_singleton_self _))
      have kept := taken.keeps
      refine ⟨before.step opens taken clear, still.step opens before.sane taken ofReader,
        kept.1 row stays, ?_⟩
      by_cases received : ∃ event ∈ s'.received, event.key = auditKey row
      · exact Or.inl received
      · have missing : ∀ event ∈ s'.received, event.key ≠ auditKey row :=
          fun event inside same => received ⟨event, inside, same⟩
        have fewer := before.progress opens still taken ofReader clear stays admitted missing
        rcases reached with ⟨event, inside, same⟩ | enough
        · exact absurd same (missing event (kept.2 event inside))
        · refine Or.inr ?_
          rw [List.countP_append, List.countP_singleton]
          dsimp only
          omega

/-- A call that lists goes through in every run. -/
theorem Sane.lists (sane : Sane settings s) (opens : query.Opens window) (limit : Int) :
    ∃ events : List (SealedEvent F),
      listAuditEvents settings s.store.db (query.read limit s.cursor) = .ok events := by
  have inTable : ∀ row ∈ (rowsAfter s.store.db window s.cursorKey).take
      (clampLimit limit auditMaxEventsPerExport), row ∈ s.store.db.auditEvents := by
    intro row member
    exact (List.mem_filter.mp (mem_orderBy.mp (List.mem_of_mem_take member))).1
  have each : ∀ row ∈ (rowsAfter s.store.db window s.cursorKey).take
      (clampLimit limit auditMaxEventsPerExport),
      ∃ event : SealedEvent F, sealedRow settings row = .ok event ∧ event.key = auditKey row := by
    intro row member
    obtain ⟨pair, exports, _⟩ := (sane.sound.stored row (inTable row member)).exportsAs
    exact ⟨pair.1, exports.verified, sealedRow_key exports.verified⟩
  obtain ⟨events, read, _⟩ := except_mapM_keys each
  refine ⟨events, ?_⟩
  unfold listAuditEvents
  rw [sane.filter opens]
  exact read

theorem Sane.run (opens : query.Opens window) (sane : Sane settings s)
    {past : List (Following F × FollowLabel F)}
    (trace : Trace (FollowStep settings query) s past s') : Sane settings s' :=
  trace.invariant (fun _ _ _ before step => before.step opens step) sane

/-- In a run that overtakes no event, the reader has the first events of the window at any
time, each once and in order, and its next call goes through.  Once the writers have
stopped, it has every event after as many pages as there were events left. -/
theorem following_exactly_once {store : AuditStore} {past : List (Following F × FollowLabel F)}
    (sound : TrailSound F settings store.db) (opens : query.Opens window)
    (trace : Trace (FollowStep settings query) (Following.start store) past s)
    (clear : ∀ moment ∈ past, Clear window moment.1 moment.2) :
    UpToCursor settings window s ∧
    (∀ limit, ∃ events : List (SealedEvent F),
      listAuditEvents settings s.store.db (query.read limit s.cursor) = .ok events) ∧
    (s.inFlight = [] → s.reading = none →
      ∀ later s', Trace (FollowStep settings query) s later s' →
        (∀ moment ∈ later, moment.2.ofReader = true ∧ Clear window moment.1 moment.2) →
        (rowsAfter s.store.db window s.cursorKey).length ≤
          later.countP (fun moment => moment.1.drains window moment.2) →
        ∀ row ∈ s.store.db.auditEvents, window.admits row = true →
          (s'.received.map (·.event.id)).count row.id = 1) := by
  have noCursor := opens.fields.2.2.2.2
  obtain ⟨front, left, follows⟩ := (Follows.start sound).run opens trace clear
  refine ⟨follows.upToCursor noCursor, follows.sane.lists opens, ?_⟩
  intro alone idle later s' more reader enough row member admitted
  have quiet : Quiet settings window s := by
    refine ⟨alone, ?_⟩
    intro page reading
    rw [idle] at reading
    cases reading
  obtain ⟨⟨front', left', after⟩, _, stays, reached⟩ :=
    follows.caughtUp opens quiet more reader member admitted
  have upTo := after.upToCursor noCursor
  rcases reached with ⟨event, received, isKey⟩ | few
  · exact upTo.once after.sane.sound received isKey
  · -- no row is left up to this one, so it is among those that the reader has
    have atMost : remaining window row s ≤ (rowsAfter s.store.db window s.cursorKey).length :=
      List.countP_le_length
    have none : remaining window row s' = 0 := by
      omega
    obtain ⟨got, rows, read⟩ := upTo
    have inRows : row ∈ got ++ rowsAfter s'.store.db window s'.cursorKey := by
      rw [← rows]
      refine (mem_rowsAfter noCursor).mpr ⟨⟨stays, admitted⟩, ?_⟩
      intro key impossible
      cases impossible
    rcases List.mem_append.mp inRows with early | late
    · obtain ⟨event, received, verified⟩ := forall₂_mem_left read early
      exact UpToCursor.once ⟨got, rows, read⟩ after.sane.sound received (sealedRow_key verified)
    · unfold remaining at none
      rw [List.countP_eq_zero] at none
      exact absurd (decide_eq_true (le_refl (auditKey row))) (none row late)

/-! ### What the cursor has passed -/

/-- A key before the cursor that the reader does not have. -/
structure Passed (key : AuditKey) (s : Following F) : Prop where
  missing : ∀ event ∈ s.received, event.key ≠ key
  behind : ∃ cursor, s.cursorKey = some cursor ∧ key < cursor

/-- What is on its way sorts after the cursor. -/
def Onward (s : Following F) : Prop :=
  ∀ event ∈ s.onItsWay, ∀ cursor, s.cursorKey = some cursor → cursor < event.key

theorem PageOf.onward {page : PageRead F}
    (pageOf : PageOf settings (rowsAfter s.store.db window s.cursorKey) page)
    (noCursor : window.cursor = none) :
    ∀ event ∈ page.events, ∀ cursor, s.cursorKey = some cursor → cursor < event.key := by
  intro event member cursor isCursor
  obtain ⟨row, taken, verified⟩ := forall₂_mem_right pageOf.events member
  rw [sealedRow_key verified]
  exact ((mem_rowsAfter noCursor).mp (List.mem_of_mem_take taken)).2 cursor isCursor

theorem Onward.step (opens : query.Opens window) (sane : Sane settings s) (onward : Onward s)
    (step : FollowStep settings query s label s') : Onward s' := by
  have noCursor := opens.fields.2.2.2.2
  cases step with
  | listing _ listed => exact (sane.listed opens listed).onward noCursor
  | @exporting _ _ draw _ row own _ paged _ =>
      exact (sane.exported opens ⟨row, own, draw.tenantAt⟩ paged).onward noCursor
  | receiveListed _ => exact fun event member => absurd member List.not_mem_nil
  | receiveExported _ _ => exact fun event member => absurd member List.not_mem_nil
  | fail => exact fun event member => absurd member List.not_mem_nil
  | _ => exact onward

/-- The cursor does not go back, and what arrives sorts after it. -/
theorem Passed.step {key : AuditKey} (onward : Onward s) (passed : Passed key s)
    (step : FollowStep settings query s label s') : Passed key s' := by
  have arrives : ∀ page : PageRead F, s.reading = some page → ∀ store : AuditStore,
      Passed key (⟨store, s.inFlight, none, s.received ++ page.events⟩ : Following F) := by
    intro page reading store
    obtain ⟨cursor, isCursor, behind⟩ := passed.behind
    have after : ∀ event ∈ page.events, key < event.key := by
      intro event member
      refine lt_trans behind (onward event ?_ cursor isCursor)
      unfold Following.onItsWay
      rw [reading]
      exact member
    refine ⟨?_, ?_⟩
    · intro event member
      rcases List.mem_append.mp member with before | new
      · exact passed.missing event before
      · exact ne_of_gt (after event new)
    · unfold Following.cursorKey at isCursor ⊢
      dsimp only
      rcases List.eq_nil_or_concat page.events with nothing | ⟨init, last, isPage⟩
      · rw [nothing, List.append_nil]
        exact ⟨cursor, isCursor, behind⟩
      · rw [List.concat_eq_append] at isPage
        rw [isPage, ← List.append_assoc, List.getLast?_concat]
        refine ⟨last.key, rfl, after last ?_⟩
        rw [isPage]
        exact List.mem_append_right _ (List.mem_singleton_self _)
  cases step with
  | receiveListed reading => exact arrives _ reading _
  | receiveExported reading _ => exact arrives _ reading _
  | _ => exact ⟨passed.missing, passed.behind⟩

/-- The reader never gets an event that its cursor has passed without it, whatever is
committed, read and received later. -/
theorem overtaken_never_received {store : AuditStore} {past : List (Following F × FollowLabel F)}
    (sound : TrailSound F settings store.db) (opens : query.Opens window)
    (trace : Trace (FollowStep settings query) (Following.start store) past s) {key : AuditKey}
    (passed : Passed key s) {later : List (Following F × FollowLabel F)}
    (more : Trace (FollowStep settings query) s later s') :
    ∀ event ∈ s'.received, event.key ≠ key := by
  have kept : ∀ (s : Following F) (label : FollowLabel F) (s' : Following F),
      Sane settings s ∧ Onward s → FollowStep settings query s label s' →
        Sane settings s' ∧ Onward s' :=
    fun _ _ _ before step => ⟨before.1.step opens step, before.2.step opens before.1 step⟩
  have reached : Sane settings s ∧ Onward s :=
    trace.invariant kept ⟨Sane.start sound, fun event member => absurd member List.not_mem_nil⟩
  have ended : (Sane settings s' ∧ Onward s') ∧ Passed key s' :=
    more.invariant (P := fun s => (Sane settings s ∧ Onward s) ∧ Passed key s)
      (fun _ _ _ before step => ⟨kept _ _ _ before.1 step, before.2.step before.1.2 step⟩)
      ⟨reached, passed⟩
  exact ended.2.missing

end Ends

/-! ### Two events at one time -/

def noEvents : AuditStore := ⟨Database.created, []⟩

def countedEvent (n : Nat) : EventDraw :=
  ⟨countedUuid n, Uuid.nil, none, Timestamp.epoch, Timestamp.epoch⟩

def countedRequest : AuditRequest Empty :=
  exportRequest "tenant-a" "auditor" (newId "audit-export" Uuid.nil)

theorem counted_built (n : Nat) : ∃ event : SealedEvent Empty,
    buildAuditEvent Settings.standard (countedEvent n) countedRequest = .ok event ∧
      event.key = (countedEvent n).key ∧ openWindow.takes event = true := by
  have expiry : ((countedEvent n).current.addDays 365).isSome = true := by
    change (Timestamp.epoch.addDays 365).isSome = true
    decide
  obtain ⟨event, isBuilt⟩ : ∃ event : SealedEvent Empty,
      buildAuditEvent Settings.standard (countedEvent n) countedRequest = .ok event :=
    (exportRequest_admitted (by decide) (by decide) Uuid.nil expiry).built Settings.standard
  obtain ⟨_, isId, isTime, isTenant, _⟩ := buildAuditEvent_ok isBuilt
  refine ⟨event, isBuilt, ?_, ?_⟩
  · unfold SealedEvent.key EventDraw.key
    rw [isId, isTime]
  · unfold AuditFilter.takes
    rw [isTenant]
    rfl

/-- An event of the tenant is committed when its id is new. -/
theorem commit_counted {event : SealedEvent Empty} {n : Nat}
    (isBuilt : buildAuditEvent Settings.standard (countedEvent n) countedRequest = .ok event)
    (db : Database) (fresh : ∀ old ∈ db.auditEvents, old.id ≠ newId "audit" (countedUuid n)) :
    ∃ db', commitAuditEvent Timestamp.epoch event db = .ok db' := by
  obtain ⟨built, isId, _, isTenant, _⟩ := buildAuditEvent_ok isBuilt
  have token : IsToken "tenant-a" := by
    decide
  obtain ⟨tenants, ensured, known⟩ : ∃ tenants,
      ensureTenant db "tenant-a" Timestamp.epoch = .ok { db with tenants := tenants } ∧
        tenants.any (fun tenant => tenant.id = "tenant-a") = true :=
    ensureTenant_valid token.validText Timestamp.epoch
  have known' : tenants.any (fun tenant => tenant.id = event.event.tenantId) = true := by
    rw [isTenant]
    exact known
  obtain ⟨detailsJson, stored⟩ : ∃ detailsJson,
      insertAuditEvent event { db with tenants := tenants } = .ok { db with
        tenants := tenants
        auditEvents := db.auditEvents ++ [event.event.row detailsJson event.integrityHash] } := by
    refine insertAuditEvent_stores built known' ?_
    intro old member
    rw [isId]
    exact fresh old member
  have sameTenant : event.event.tenantId = "tenant-a" := isTenant
  unfold commitAuditEvent
  rw [sameTenant, ensured]
  exact ⟨_, stored⟩

theorem noEvents_sound : TrailSound Empty Settings.standard noEvents.db :=
  TrailSound.empty rfl

/-- A list of the only row. -/
theorem Sane.listed_only {s : Following Empty} (sane : Sane Settings.standard s)
    (first : s.cursorKey = none) {row : AuditEventRow} (only : s.store.db.auditEvents = [row])
    (admitted : openWindow.admits row = true) : ∃ event : SealedEvent Empty,
      listAuditEvents Settings.standard s.store.db (oneEventQuery.read 10 s.cursor) = .ok [event] ∧
        event.key = auditKey row := by
  obtain ⟨events, listed⟩ := sane.lists oneEventQuery_opens 10
  have page := sane.listed oneEventQuery_opens listed
  have rows : rowsAfter s.store.db openWindow s.cursorKey = [row] := by
    unfold rowsAfter Database.selectAudit
    rw [first, only]
    change orderBy auditKey ([row].filter openWindow.admits) = [row]
    rw [List.filter_singleton, admitted]
    rfl
  rw [rows] at page
  have fewer := page.fewer
  have some := List.length_pos_of_ne_nil (page.nonempty (List.cons_ne_nil _ _))
  obtain ⟨event, isPage⟩ : ∃ event, events = [event] :=
    List.length_eq_one_iff.mp (Nat.le_antisymm fewer some)
  have read := page.events.keys
  dsimp only at read
  rw [isPage] at read listed
  exact ⟨event, listed, (List.cons.inj read).1⟩

theorem following_exactly_once_one : ∃ (past later : List (Following Empty × FollowLabel Empty))
    (s s' : Following Empty) (row : AuditEventRow),
    Trace (FollowStep Settings.standard oneEventQuery) (Following.start noEvents) past s ∧
    Trace (FollowStep Settings.standard oneEventQuery) s later s' ∧
    s.store.db.auditEvents = [row] ∧ (s'.received.map (·.event.id)).count row.id = 1 := by
  obtain ⟨event, isBuilt, isKey, taken⟩ := counted_built 0
  obtain ⟨db, committed⟩ := commit_counted isBuilt noEvents.db
    (fun old member => absurd member List.not_mem_nil)
  obtain ⟨detailsJson, _, appended, _⟩ := commitAuditEvent_added committed
  let row := event.event.row (String.ofList detailsJson) event.integrityHash
  let stamped : Following Empty := { (Following.start noEvents) with inFlight := [event] }
  let s : Following Empty := ⟨{ noEvents with db := db }, [], none, []⟩
  have stamps : FollowStep Settings.standard oneEventQuery (Following.start noEvents)
      (.stamp (countedEvent 0) countedRequest) stamped := .stamp isBuilt
  have commits : FollowStep Settings.standard oneEventQuery stamped
      (.commit event Timestamp.epoch) s :=
    .commit (show stamped.inFlight = [] ++ event :: [] from rfl) committed
  have past : Trace (FollowStep Settings.standard oneEventQuery) (Following.start noEvents)
      [(Following.start noEvents, .stamp (countedEvent 0) countedRequest),
        (stamped, .commit event Timestamp.epoch)] s := (Trace.start.next stamps).next commits
  have admitted : openWindow.admits row = true := by
    rw [admits_takes rfl]
    exact taken
  have only : s.store.db.auditEvents = [row] := appended
  have sane : Sane Settings.standard s := (Sane.start noEvents_sound).run oneEventQuery_opens past
  obtain ⟨read, listed, _⟩ := sane.listed_only rfl only admitted
  let reading : Following Empty := { s with reading := some ⟨10, [read], none⟩ }
  let s' : Following Empty := { s with received := [read] }
  have lists : FollowStep Settings.standard oneEventQuery s (.listing 10) reading :=
    .listing rfl listed
  have receives : FollowStep Settings.standard oneEventQuery reading .receive s' :=
    .receiveListed rfl
  have later : Trace (FollowStep Settings.standard oneEventQuery) s
      [(s, .listing 10), (reading, .receive)] s' := (Trace.start.next lists).next receives
  refine ⟨_, _, s, s', row, past, later, only, ?_⟩
  have clearPast : ∀ moment ∈ [(Following.start noEvents,
      FollowLabel.stamp (countedEvent 0) countedRequest),
        (stamped, .commit event Timestamp.epoch)], Clear openWindow moment.1 moment.2 := by
    intro moment member
    rcases List.mem_cons.mp member with first | second
    · rw [first]
      exact fun _ _ other received => absurd received List.not_mem_nil
    · rw [List.mem_singleton.mp second]
      exact fun _ other coming => absurd coming List.not_mem_nil
  refine (following_exactly_once noEvents_sound oneEventQuery_opens past clearPast).2.2 rfl rfl _ _
    later ?_ ?_ row (only ▸ List.mem_singleton_self row) admitted
  · intro moment member
    rcases List.mem_cons.mp member with first | second
    · rw [first]
      exact ⟨rfl, trivial⟩
    · rw [List.mem_singleton.mp second]
      exact ⟨rfl, fun event waiting => absurd waiting List.not_mem_nil⟩
  · have few : (rowsAfter s.store.db openWindow s.cursorKey).length ≤ 1 := by
      unfold rowsAfter Database.selectAudit
      rw [(orderBy_perm _ _).length_eq, only]
      exact List.length_filter_le _ _
    exact few

/-- The later of two events of one time is committed and listed before the other one. -/
theorem overtaken_never_received_two : ∃ (past later : List (Following Empty × FollowLabel Empty))
    (s s' : Following Empty) (row : AuditEventRow),
    Trace (FollowStep Settings.standard oneEventQuery) (Following.start noEvents) past s ∧
    s.inFlight = [] ∧ row ∈ s.store.db.auditEvents ∧ openWindow.admits row = true ∧
    Trace (FollowStep Settings.standard oneEventQuery) s later s' ∧ later ≠ [] ∧
    ∀ event ∈ s'.received, event.key ≠ auditKey row := by
  obtain ⟨first, firstBuilt, firstKey, firstTaken⟩ := counted_built 0
  obtain ⟨second, secondBuilt, secondKey, secondTaken⟩ := counted_built 1
  obtain ⟨db, committed⟩ := commit_counted secondBuilt noEvents.db
    (fun old member => absurd member List.not_mem_nil)
  obtain ⟨secondJson, _, appended, _⟩ := commitAuditEvent_added committed
  have less : (countedEvent 0).key < (countedEvent 1).key :=
    epochKey_lt (countedUuid_lt (by decide) (by decide))
  have ids : newId "audit" (countedUuid 0) < newId "audit" (countedUuid 1) :=
    newId_lt "audit" (countedUuid_lt (by decide) (by decide))
  have only : db.auditEvents =
      [second.event.row (String.ofList secondJson) second.integrityHash] := appended
  obtain ⟨db', committed'⟩ := commit_counted firstBuilt db (by
    intro old member
    rw [only, List.mem_singleton] at member
    have isId : second.event.id = newId "audit" (countedUuid 1) :=
      congrArg (fun key : AuditKey => (ofLex key).2) secondKey
    rw [member]
    exact fun same => ne_of_gt ids (isId.symm.trans same))
  obtain ⟨firstJson, _, appended', _⟩ := commitAuditEvent_added committed'
  let one : Following Empty := { (Following.start noEvents) with inFlight := [first] }
  let two : Following Empty := { (Following.start noEvents) with inFlight := [first, second] }
  let ahead : Following Empty := ⟨{ noEvents with db := db }, [first], none, []⟩
  have stampsOne : FollowStep Settings.standard oneEventQuery (Following.start noEvents) _ one :=
    .stamp firstBuilt
  have stampsTwo : FollowStep Settings.standard oneEventQuery one _ two := .stamp secondBuilt
  have commitsTwo : FollowStep Settings.standard oneEventQuery two
      (.commit second Timestamp.epoch) ahead :=
    .commit (show two.inFlight = [first] ++ second :: [] from rfl) committed
  have early : Trace (FollowStep Settings.standard oneEventQuery) (Following.start noEvents) _
      ahead := ((Trace.start.next stampsOne).next stampsTwo).next commitsTwo
  have sane : Sane Settings.standard ahead := (Sane.start noEvents_sound).run oneEventQuery_opens early
  obtain ⟨read, listed, readKey⟩ := sane.listed_only rfl only (by
    rw [admits_takes rfl]
    exact secondTaken)
  let reading : Following Empty := { ahead with reading := some ⟨10, [read], none⟩ }
  let received : Following Empty := { ahead with received := [read] }
  let s : Following Empty := ⟨{ noEvents with db := db' }, [], none, [read]⟩
  have lists : FollowStep Settings.standard oneEventQuery ahead (.listing 10) reading :=
    .listing rfl listed
  have receives : FollowStep Settings.standard oneEventQuery reading .receive received :=
    .receiveListed rfl
  have commitsOne : FollowStep Settings.standard oneEventQuery received
      (.commit first Timestamp.epoch) s :=
    .commit (show received.inFlight = [] ++ first :: [] from rfl) committed'
  have past : Trace (FollowStep Settings.standard oneEventQuery) (Following.start noEvents) _ s :=
    ((early.next lists).next receives).next commitsOne
  have readsSecond : read.key = (countedEvent 1).key := readKey.trans secondKey
  have passed : Passed first.key s := by
    refine ⟨?_, ⟨read.key, rfl, ?_⟩⟩
    · intro event member
      rw [List.mem_singleton.mp member, readsSecond, firstKey]
      exact ne_of_gt less
    · rw [readsSecond, firstKey]
      exact less
  obtain ⟨more, listed'⟩ :=
    ((Sane.start noEvents_sound).run oneEventQuery_opens past).lists oneEventQuery_opens 10
  let rereading : Following Empty := { s with reading := some ⟨10, more, none⟩ }
  let s' : Following Empty := { s with received := [read] ++ more }
  have listsAgain : FollowStep Settings.standard oneEventQuery s (.listing 10) rereading :=
    .listing rfl listed'
  have receivesAgain : FollowStep Settings.standard oneEventQuery rereading .receive s' :=
    .receiveListed rfl
  have later : Trace (FollowStep Settings.standard oneEventQuery) s
      [(s, .listing 10), (rereading, .receive)] s' :=
    (Trace.start.next listsAgain).next receivesAgain
  refine ⟨_, _, s, s', first.event.row (String.ofList firstJson) first.integrityHash, past, rfl, ?_,
    ?_, later, List.cons_ne_nil _ _,
    overtaken_never_received noEvents_sound oneEventQuery_opens past passed later⟩
  · change _ ∈ db'.auditEvents
    rw [appended']
    exact List.mem_append_right _ (List.mem_singleton_self _)
  · rw [admits_takes rfl]
    exact firstTaken

end FolioLattice.Audit
