/-
Which exports come to an end: a call that may return two events gains on the events
that the calls add, a call that returns one does not.
-/

import FolioLattice.Audit.ExportRuns

namespace FolioLattice.Audit

open FolioLattice.Text FolioLattice.Data FolioLattice.Relational FolioLattice.Store
open FolioLattice.Effects (except_bind_ok forall₂_mem_right)

variable {F : Type} [FloatFormat F]

/-! ### A call that succeeds -/

section Succeeds

variable {settings : Settings} {query : AuditQuery} {draw : ExportDraw}

/-- The key of the event that a call records. -/
def ExportDraw.key (draw : ExportDraw) : AuditKey :=
  toLex (draw.event.now.isoformat, newId "audit" draw.event.eventId)

/-- Ids that no row of these tables has, at a time from which there are expiry dates. -/
structure UsableDraw (draw : ExportDraw) (store : AuditStore) : Prop where
  event : ∀ row ∈ store.db.auditEvents, row.id ≠ newId "audit" draw.event.eventId
  exported : ∀ row ∈ store.exports, row.id ≠ newId "audit-export" draw.exportId
  expiry : (draw.expiryFrom.addDays 1).isSome = true
  eventExpiry : (draw.event.current.addDays 365).isSome = true

def exportDetails : List (PyStr × Json F) :=
  [(pyStr "status_code", .int 200), (pyStr "transport", text "mcp")]

theorem exportDetails_safe : safeDetails (some (exportDetails : List (PyStr × Json F))) =
    .ok exportDetails := by
  have few : ¬auditDetailKeys.length < (exportDetails : List (PyStr × Json F)).length := by
    exact of_decide_eq_false rfl
  have first : (safeValue (.int 200) : Except Failure (Json F)) = .ok (.int 200) := rfl
  have second : (safeValue (text "mcp") : Except Failure (Json F)) = .ok (text "mcp") := by
    unfold text safeValue
    exact if_neg (by decide)
  have status : ¬pyStr "status_code" ∉ auditDetailKeys.map pyStr := by
    decide
  have transport : ¬pyStr "transport" ∉ auditDetailKeys.map pyStr := by
    decide
  unfold safeDetails exportDetails
  simp only [safeEntries, if_neg status, if_neg transport, first, second, bind, Except.bind]
  rw [if_neg]
  exact few

/-- The event of a call can always be built. -/
theorem exportRequest_admitted {tenantId actor : String} (tenant : IsToken tenantId)
    (isActor : IsToken actor) (exportId : Uuid) {eventDraw : EventDraw}
    (expiry : (eventDraw.current.addDays 365).isSome = true) :
    Admitted eventDraw
      (exportRequest tenantId actor (newId "audit-export" exportId) : AuditRequest F) := by
  have exportToken : IsToken (newId "audit-export" exportId) :=
    newId_token (by decide) (by decide) exportId
  obtain ⟨expiresAt, isExpiry⟩ := Option.isSome_iff_exists.mp expiry
  constructor
  · exact tenant
  · exact isActor
  · exact (by decide : IsToken "audit_export")
  · exact (by decide : IsToken "allowed")
  · exact (by decide : IsToken "audit_export")
  · exact (by decide : IsToken auditSchemaVersion)
  · exact (by decide : IsToken "audit")
  · exact (by decide : IsToken "export_created")
  · intro value isGiven
    rw [← Option.some.inj isGiven]
    exact exportToken
  · change IsToken (orElse (some _) _)
    rw [orElse_some exportToken.nonempty]
    exact exportToken
  · change IsToken (orElse (some _) _)
    rw [orElse_some exportToken.nonempty]
    exact exportToken
  · exact ⟨exportDetails, exportDetails_safe⟩
  · refine ⟨expiresAt.isoformat, ?_⟩
    change expiryFor "security" eventDraw.current = .ok expiresAt.isoformat
    unfold expiryFor auditRetentionDays
    rw [if_pos rfl]
    dsimp only
    rw [isExpiry]

theorem exportChecksum_ok (lines : List (List Char)) :
    ∃ checksum, exportChecksum settings lines = .ok checksum :=
  ⟨_, rfl⟩

/-- A call with a usable draw succeeds. -/
theorem exportAuditEvents_succeeds {store : AuditStore} {filter : AuditFilter}
    (sound : TrailSound F settings store.db) (isFilter : query.filter = .ok filter)
    (usable : UsableDraw draw store) :
    ∃ (store' : AuditStore) (receipt : ExportReceipt F),
      exportAuditEvents settings draw query store = .ok (store', receipt) := by
  obtain ⟨pairs, read, _⟩ := exportPage_spec sound isFilter
  obtain ⟨_, tenant, isFilter⟩ := except_bind_ok isFilter
  obtain ⟨_, actor, _⟩ := except_bind_ok isFilter
  have tenantToken := validateToken_ok_iff.mp tenant
  obtain ⟨expiresAt, isExpiry⟩ := Option.isSome_iff_exists.mp usable.expiry
  obtain ⟨checksum, summed⟩ : ∃ checksum,
    exportChecksum settings (pairs.map (·.2)) = .ok checksum := exportChecksum_ok _
  obtain ⟨built, isBuilt⟩ : ∃ built : SealedEvent F, buildAuditEvent settings draw.event
      (exportRequest query.tenantId query.actor (newId "audit-export" draw.exportId)) = .ok built :=
    (exportRequest_admitted tenantToken (validateToken_ok_iff.mp actor) draw.exportId
      usable.eventExpiry).built settings
  obtain ⟨ownBuilt, ownId, _, ownTenant, _⟩ := buildAuditEvent_ok isBuilt
  obtain ⟨tenants, ensured, known⟩ : ∃ tenants,
      ensureTenant store.db query.tenantId draw.tenantAt =
          .ok { store.db with tenants := tenants } ∧
        tenants.any (fun tenant => tenant.id = query.tenantId) = true :=
    ensureTenant_valid tenantToken.validText draw.tenantAt
  have knownOwn : tenants.any (fun tenant => tenant.id = built.event.tenantId) = true := by
    rw [ownTenant]
    exact known
  obtain ⟨detailsJson, stored⟩ : ∃ detailsJson,
      insertAuditEvent built { store.db with tenants := tenants } = .ok { store.db with
        tenants := tenants
        auditEvents := store.db.auditEvents ++
          [built.event.row detailsJson built.integrityHash] } := by
    refine insertAuditEvent_stores ownBuilt knownOwn ?_
    intro old member same
    exact usable.event old member (same.trans ownId)
  have freshRow : ∀ old ∈ store.exports,
      decide (newId "audit-export" draw.exportId = old.id) = false := by
    intro old member
    exact decide_eq_false (fun same => usable.exported old member same.symm)
  unfold exportAuditEvents
  rw [read]
  simp only [bind, Except.bind, prepareExport, isExpiry, summed, isBuilt, commitExport, ensured]
  rw [insertUnique_of_fresh freshRow]
  dsimp only
  rw [stored]
  exact ⟨_, _, rfl⟩

end Succeeds

/-! ### How many rows are left -/

section Left

variable {settings : Settings} {query : AuditQuery} {window : AuditFilter}
  {cursor : Option AuditKey} {draw : ExportDraw} {store store' : AuditStore}
  {receipt : ExportReceipt F}

theorem OwnEvent.key {own : AuditEventRow} (ownEvent : OwnEvent F settings draw query own) :
    auditKey own = draw.key := by
  unfold auditKey ExportDraw.key
  rw [ownEvent.id, ownEvent.occurredAt]

theorem OwnEvent.admits {own : AuditEventRow} (ownEvent : OwnEvent F settings draw query own)
    (opens : query.Opens window) :
    window.admits own = window.spans draw.event.now.isoformat := by
  obtain ⟨_, _, _, sameTenant, noCursor⟩ := opens.fields
  unfold AuditFilter.admits AuditFilter.spans
  rw [noCursor, sameTenant, ownEvent.tenantId, ownEvent.occurredAt, decide_eq_true rfl,
    Option.all_none, Bool.and_true, Bool.true_and]

/-- A page leaves the rows it did not take, and the event of its own call. -/
theorem rowsAfter_next (sound : TrailSound F settings store.db) (opens : query.Opens window)
    (committed : CommittedExport F settings draw query store store' receipt)
    (sound' : TrailSound F settings store'.db) {key : AuditKey}
    (isLast : (keyPage receipt.events.length cursor (auditKeys store.db window)).getLast? =
      some key) :
    (rowsAfter store'.db window (some key)).length =
      (rowsAfter store.db window cursor).length - receipt.events.length +
        if window.spans draw.event.now.isoformat = true ∧ key < draw.key then 1 else 0 := by
  have noCursor := opens.fields.2.2.2.2
  obtain ⟨own, ownEvent, _, appended, _⟩ := committed.recorded
  have keys : auditKeys store'.db window = auditKeys store.db window ++
      if window.spans draw.event.now.isoformat = true then [draw.key] else [] := by
    unfold auditKeys
    rw [appended, List.filter_append, List.map_append, List.filter_singleton,
      ownEvent.admits opens]
    cases window.spans draw.event.now.isoformat with
    | false => rfl
    | true =>
        rw [← ownEvent.key]
        rfl
  have length : ∀ (db : Database) (position : Option AuditKey), TrailSound F settings db →
      (rowsAfter db window position).length =
        (keysAfter position (auditKeys db window)).length := by
    intro db position soundDb
    rw [← rowsAfter_keys soundDb.ids noCursor, List.length_map]
  rw [length _ _ sound', length _ _ sound, keys, keysAfter_append_length,
    keysAfter_last (auditKeys_nodup sound.ids) isLast, List.length_drop]
  congr 1
  by_cases spans : window.spans draw.event.now.isoformat = true
  · rw [if_pos spans]
    unfold keysAfter
    rw [(orderBy_perm _ _).length_eq, List.filter_singleton, Option.all_some]
    by_cases later : key < draw.key
    · rw [if_pos ⟨spans, later⟩, decide_eq_true later]
      rfl
    · rw [if_neg (fun both => later both.2), decide_eq_false later]
      rfl
  · rw [if_neg spans, if_neg (fun both => spans both.1)]
    rfl

end Left

/-! ### Exports that end -/

/-- Draws for this many calls in a row. -/
structure UsableDraws (draws : Nat → ExportDraw) (n count : Nat) (store : AuditStore) : Prop where
  each : ∀ i < count, UsableDraw (draws (n + i)) store
  events : ∀ i j, i < j → j < count →
    newId "audit" (draws (n + i)).event.eventId ≠ newId "audit" (draws (n + j)).event.eventId
  exports : ∀ i j, i < j → j < count →
    newId "audit-export" (draws (n + i)).exportId ≠ newId "audit-export" (draws (n + j)).exportId

section Ends

variable {settings : Settings} {query : AuditQuery} {window : AuditFilter}
  {draws : Nat → ExportDraw} {n count : Nat} {store store' : AuditStore}
  {receipt : ExportReceipt F}

theorem UsableDraws.next (usable : UsableDraws draws n (count + 1) store)
    (committed : CommittedExport F settings (draws n) query store store' receipt) :
    UsableDraws draws (n + 1) count store' := by
  obtain ⟨own, ownEvent, ownResource, appended, _⟩ := committed.recorded
  obtain ⟨row, added, isId, _⟩ := committed.exported
  have rowId : row.id = newId "audit-export" (draws n).exportId := by
    rw [isId]
    exact Option.some.inj (ownResource.symm.trans ownEvent.resourceId)
  have shift : ∀ i, n + 1 + i = n + (i + 1) := by
    intro i
    omega
  constructor
  · intro i less
    have draw := usable.each (i + 1) (Nat.succ_lt_succ less)
    rw [shift]
    refine ⟨?_, ?_, draw.expiry, draw.eventExpiry⟩
    · intro old member
      rw [appended] at member
      rcases List.mem_append.mp member with before | new
      · exact draw.event old before
      · rw [List.mem_singleton.mp new, ownEvent.id]
        exact usable.events 0 (i + 1) (Nat.succ_pos i) (Nat.succ_lt_succ less)
    · intro old member
      rw [added] at member
      rcases List.mem_append.mp member with before | new
      · exact draw.exported old before
      · rw [List.mem_singleton.mp new, rowId]
        exact usable.exports 0 (i + 1) (Nat.succ_pos i) (Nat.succ_lt_succ less)
  · intro i j less bound
    rw [shift, shift]
    exact usable.events (i + 1) (j + 1) (Nat.succ_lt_succ less) (Nat.succ_lt_succ bound)
  · intro i j less bound
    rw [shift, shift]
    exact usable.exports (i + 1) (j + 1) (Nat.succ_lt_succ less) (Nat.succ_lt_succ bound)

/-- Each call that returns a cursor leaves fewer rows than it found. -/
theorem exists_exportRun (opens : query.Opens window)
    (drains : 2 ≤ clampLimit query.limit auditMaxEventsPerExport ∨
      ∀ m, window.spans (draws m).event.now.isoformat = false)
    {rows : Nat} {cursor : Option AuditKey} (stamped : ∀ key, cursor = some key → StampedKey key)
    (sound : TrailSound F settings store.db)
    (few : (rowsAfter store.db window cursor).length ≤ rows)
    (usable : UsableDraws draws n (rows + 1) store) :
    ∃ calls, ExportRun F settings query draws n store (cursor.map auditCursorText) calls ∧
      calls.length ≤ rows + 1 := by
  have noCursor := opens.fields.2.2.2.2
  induction rows generalizing n store cursor with
  | zero =>
      have draw : UsableDraw (draws n) store := usable.each 0 Nat.one_pos
      obtain ⟨store', receipt, called⟩ : ∃ (store' : AuditStore) (receipt : ExportReceipt F), _ :=
        exportAuditEvents_succeeds sound (opens.after stamped) draw
      obtain ⟨page, _⟩ := export_step sound opens stamped called
      have fewer := page.fewer
      refine ⟨[(store, receipt)], .last called (page.complete.mpr ?_), Nat.le_refl _⟩
      omega
  | succ rows ih =>
      have draw : UsableDraw (draws n) store := usable.each 0 (Nat.succ_pos _)
      obtain ⟨store', receipt, called⟩ : ∃ (store' : AuditStore) (receipt : ExportReceipt F), _ :=
        exportAuditEvents_succeeds sound (opens.after stamped) draw
      obtain ⟨page, two, committed, sound'⟩ := export_step sound opens stamped called
      cases goesOn : receipt.nextCursor with
      | none =>
          refine ⟨[(store, receipt)], .last called goesOn, ?_⟩
          rw [List.length_singleton]
          omega
      | some text =>
          obtain ⟨key, isText, keyStamped, isLast⟩ := page.next sound noCursor goesOn
          have left := rowsAfter_next sound opens committed sound' isLast
          have fewer := page.fewer
          have incomplete : receipt.events.length ≠ (rowsAfter store.db window cursor).length := by
            intro whole
            rw [page.complete.mpr whole] at goesOn
            cases goesOn
          have positive : receipt.events.length ≠ 0 := by
            intro zero
            have nothing := List.length_eq_zero_iff.mp zero
            apply page.nonempty ?_ nothing
            apply List.ne_nil_of_length_pos
            omega
          have less : (rowsAfter store'.db window (some key)).length ≤ rows := by
            rcases drains with wide | outside
            · have more := two (by omega) wide
              split at left <;> omega
            · have never : ¬(window.spans (draws n).event.now.isoformat = true ∧
                  key < (draws n).key) := by
                rw [outside n]
                exact fun both => absurd both.1 Bool.false_ne_true
              rw [if_neg never] at left
              omega
          obtain ⟨calls, run, bound⟩ :=
            ih (fun other same => Option.some.inj same ▸ keyStamped) sound' less
              (usable.next committed)
          rw [Option.map_some, ← isText] at run
          refine ⟨(store, receipt) :: calls, .more called goesOn run, ?_⟩
          rw [List.length_cons]
          omega

end Ends

/-! ### Exports that go on -/

section GoesOn

variable {settings : Settings} {query : AuditQuery} {window : AuditFilter}
  {draws : Nat → ExportDraw} {n count : Nat} {store store' : AuditStore}
  {cursor : Option AuditKey} {receipt : ExportReceipt F}

/-- Two rows are left before an export of one row at a time, and none is later than
its next event. -/
structure Behind (F : Type) [FloatFormat F] (settings : Settings) (window : AuditFilter)
    (draw : ExportDraw) (cursor : Option AuditKey) (store : AuditStore) : Prop where
  sound : TrailSound F settings store.db
  stamped : ∀ key, cursor = some key → StampedKey key
  latest : ∀ row ∈ store.db.auditEvents, auditKey row ≤ draw.key
  two : 2 ≤ (rowsAfter store.db window cursor).length

/-- The call takes one row, and its own event takes the place. -/
theorem Behind.step (behind : Behind F settings window (draws n) cursor store)
    (opens : query.Opens window) (one : clampLimit query.limit auditMaxEventsPerExport = 1)
    (inside : window.spans (draws n).event.now.isoformat = true)
    (onward : (draws n).key ≤ (draws (n + 1)).key)
    (called : exportAuditEvents settings (draws n) (query.from' (cursor.map auditCursorText)) store =
      .ok (store', receipt)) :
    CommittedExport F settings (draws n) query store store' receipt ∧
      ∃ key, receipt.nextCursor = some (auditCursorText key) ∧
        Behind F settings window (draws (n + 1)) (some key) store' := by
  have noCursor := opens.fields.2.2.2.2
  obtain ⟨page, _, committed, sound'⟩ := export_step behind.sound opens behind.stamped called
  have few := page.few
  have two := behind.two
  rw [one] at few
  refine ⟨committed, ?_⟩
  cases goesOn : receipt.nextCursor with
  | none =>
      have whole := page.complete.mp goesOn
      omega
  | some text =>
      obtain ⟨key, isText, keyStamped, isLast⟩ := page.next behind.sound noCursor goesOn
      obtain ⟨own, ownEvent, _, appended, fresh⟩ := committed.recorded
      have isKey : ∃ row ∈ store.db.auditEvents, auditKey row = key := by
        have taken := List.mem_of_mem_take (List.mem_of_getLast? isLast)
        obtain ⟨row, inWindow, same⟩ := List.mem_map.mp (mem_keysAfter.mp taken).1
        exact ⟨row, (List.mem_filter.mp inWindow).1, same⟩
      obtain ⟨row, stored, same⟩ := isKey
      have later : key < (draws n).key := by
        refine lt_of_le_of_ne (same ▸ behind.latest row stored) ?_
        intro equal
        apply fresh row stored
        rw [ownEvent.id]
        exact congrArg (fun key => (ofLex key).2) (same.trans equal)
      have left := rowsAfter_next behind.sound opens committed sound' isLast
      rw [if_pos ⟨inside, later⟩] at left
      refine ⟨key, by rw [isText], sound', fun other isOther => Option.some.inj isOther ▸ keyStamped,
        ?_, by omega⟩
      intro other member
      rw [appended] at member
      rcases List.mem_append.mp member with before | new
      · exact (behind.latest other before).trans onward
      · rw [List.mem_singleton.mp new, ownEvent.key]
        exact onward

/-- No call is the last. -/
theorem Behind.no_run (behind : Behind F settings window (draws n) cursor store)
    (opens : query.Opens window) (one : clampLimit query.limit auditMaxEventsPerExport = 1)
    (inside : ∀ m, window.spans (draws m).event.now.isoformat = true)
    (onward : ∀ m, (draws m).key ≤ (draws (m + 1)).key)
    {text : Option String} (isText : text = cursor.map auditCursorText)
    {calls : List (AuditStore × ExportReceipt F)} :
    ¬ExportRun F settings query draws n store text calls := by
  intro run
  induction run generalizing cursor with
  | last called ended =>
      subst isText
      obtain ⟨_, key, goesOn, _⟩ := behind.step opens one (inside _) (onward _) called
      rw [goesOn] at ended
      cases ended
  | more called isNext _ ih =>
      subst isText
      obtain ⟨_, key, goesOn, behind'⟩ := behind.step opens one (inside _) (onward _) called
      rw [goesOn] at isNext
      exact ih behind' isNext.symm

/-- As long as there are draws, there is a next call. -/
theorem Behind.exists_calls (behind : Behind F settings window (draws n) cursor store)
    (opens : query.Opens window) (one : clampLimit query.limit auditMaxEventsPerExport = 1)
    (inside : ∀ m, window.spans (draws m).event.now.isoformat = true)
    (onward : ∀ m, (draws m).key ≤ (draws (m + 1)).key)
    (usable : UsableDraws draws n count store) :
    ∃ (calls : List (AuditStore × ExportReceipt F)) (last : AuditStore)
      (lastCursor : Option String), calls.length = count ∧
      ExportCalls F settings query draws n store (cursor.map auditCursorText) calls last
        lastCursor := by
  induction count generalizing n store cursor with
  | zero => exact ⟨[], store, _, rfl, .start⟩
  | succ count ih =>
      have draw : UsableDraw (draws n) store := usable.each 0 (Nat.succ_pos _)
      obtain ⟨store', receipt, called⟩ : ∃ (store' : AuditStore) (receipt : ExportReceipt F), _ :=
        exportAuditEvents_succeeds behind.sound (opens.after behind.stamped) draw
      obtain ⟨committed, key, goesOn, behind'⟩ :=
        behind.step opens one (inside n) (onward n) called
      obtain ⟨calls, last, lastCursor, length, rest⟩ := ih behind' (usable.next committed)
      exact ⟨(store, receipt) :: calls, last, lastCursor, congrArg Nat.succ length,
        .next called goesOn rest⟩

end GoesOn

/-! ### Whole exports -/

section Whole

variable {settings : Settings} {query : AuditQuery} {window : AuditFilter}
  {draws : Nat → ExportDraw} {n : Nat} {store last : AuditStore} {cursor lastCursor : Option String}
  {calls : List (AuditStore × ExportReceipt F)}

theorem ExportCalls.sound
    (chain : ExportCalls F settings query draws n store cursor calls last lastCursor)
    (sound : TrailSound F settings store.db) : TrailSound F settings last.db := by
  induction chain with
  | start => exact sound
  | next called _ _ ih => exact ih (sound.exportedEvents called)

/-- A call and its tables: both rows are there and the page is right, or nothing is there. -/
def Settled (F : Type) [FloatFormat F] (settings : Settings) (query : AuditQuery) (draw : ExportDraw)
    (store : AuditStore) : Prop :=
  (AuditCall.exported draw query : AuditCall F).after settings store = store ∨
    ∃ (store' : AuditStore) (receipt : ExportReceipt F) (filter : AuditFilter),
      exportAuditEvents settings draw query store = .ok (store', receipt) ∧
      (AuditCall.exported draw query : AuditCall F).after settings store = store' ∧
      query.filter = .ok filter ∧
      ExportedPage settings (clampLimit query.limit auditMaxEventsPerExport)
        (Database.selectAudit store.db filter) receipt ∧
      CommittedExport F settings draw query store store' receipt

theorem export_settled (sound : TrailSound F settings store.db) (draw : ExportDraw)
    (query : AuditQuery) : Settled F settings query draw store := by
  cases done : (exportAuditEvents settings draw query store :
      Except Failure (AuditStore × ExportReceipt F)) with
  | error e => exact Or.inl (AuditCall.after_exported_error done)
  | ok result =>
      obtain ⟨store', receipt⟩ := result
      have page := done
      unfold exportAuditEvents at page
      obtain ⟨_, isPage, _⟩ := except_bind_ok page
      obtain ⟨filter, isFilter, _⟩ := except_bind_ok isPage
      obtain ⟨exported, _, committed⟩ := exportAuditEvents_ok sound isFilter done
      exact Or.inr ⟨store', receipt, filter, done, AuditCall.after_exported done, isFilter,
        exported, committed⟩

/-- The calls of an export give the window of its beginning, each event once and in
order, between events of the export itself; they come to an end when a call may return
two events, or the window is closed before the calls. -/
theorem audit_export_pages (sound : TrailSound F settings store.db) (opens : query.Opens window) :
    (∀ calls, ExportRun F settings query draws 0 store none calls →
      (runEvents calls).Pairwise (fun a b => a.key < b.key) ∧
      List.Forall₂ (fun row event => sealedRow settings row = .ok event)
        (rowsAfter store.db window none)
        ((runEvents calls).filter (fun event =>
          event.event.id ∈ store.db.auditEvents.map (·.id))) ∧
      ∀ event ∈ runEvents calls, event.event.id ∉ store.db.auditEvents.map (·.id) →
        ∃ m row, OwnEvent F settings (draws m) query row ∧ sealedRow settings row = .ok event) ∧
    (UsableDraws draws 0 ((rowsAfter store.db window none).length + 1) store →
      (2 ≤ clampLimit query.limit auditMaxEventsPerExport ∨
        ∀ m, window.spans (draws m).event.now.isoformat = false) →
      ∃ calls, ExportRun F settings query draws 0 store none calls ∧
        calls.length ≤ (rowsAfter store.db window none).length + 1) ∧
    ∀ calls last lastCursor, ExportCalls F settings query draws 0 store none calls last lastCursor →
      Settled F settings (query.from' lastCursor) (draws calls.length) last := by
  have noneStamped : ∀ key, (none : Option AuditKey) = some key → StampedKey key := by
    intro key impossible
    cases impossible
  refine ⟨?_, ?_, ?_⟩
  · intro calls run
    exact run.partition opens sound
  · intro usable drains
    exact exists_exportRun opens drains noneStamped sound (Nat.le_refl _) usable
  · intro calls last lastCursor chain
    exact export_settled (chain.sound sound) _ _

end Whole

/-! ### An export of one event at a time -/

/-- The digits of a number below `16 ^ count`. -/
def hexDigits : Nat → Nat → List Char
  | 0, _ => []
  | count + 1, n => Nat.digitChar (n / 16 ^ count) :: hexDigits count (n % 16 ^ count)

theorem hexDigits_isHex {count n : Nat} (bound : n < 16 ^ count) :
    (hexDigits count n).length = count ∧ (hexDigits count n).all isHexDigit = true := by
  induction count generalizing n with
  | zero => exact ⟨rfl, rfl⟩
  | succ count ih =>
      have rest := ih (Nat.mod_lt n (Nat.pow_pos (by decide : 0 < 16)))
      have digit : n / 16 ^ count < 16 :=
        Nat.div_lt_of_lt_mul (by rw [Nat.pow_succ] at bound; exact bound)
      have all : ∀ d < 16, isHexDigit (Nat.digitChar d) = true := by
        decide
      unfold hexDigits
      rw [List.length_cons, List.all_cons, all _ digit, rest.1, rest.2]
      exact ⟨rfl, rfl⟩

theorem hexDigits_lt {count m n : Nat} (less : m < n) (bound : n < 16 ^ count) :
    hexDigits count m < hexDigits count n := by
  induction count generalizing m n with
  | zero => omega
  | succ count ih =>
      have positive : 0 < 16 ^ count := Nat.pow_pos (by decide : 0 < 16)
      have digit : n / 16 ^ count < 16 :=
        Nat.div_lt_of_lt_mul (by rw [Nat.pow_succ] at bound; exact bound)
      have ordered : ∀ d < 16, ∀ c < d, Nat.digitChar c < Nat.digitChar d := by
        decide
      unfold hexDigits
      rw [List.cons_lt_cons_iff]
      rcases Nat.lt_or_ge (m / 16 ^ count) (n / 16 ^ count) with first | same
      · exact Or.inl (ordered _ digit _ first)
      · have equal : m / 16 ^ count = n / 16 ^ count :=
          Nat.le_antisymm (Nat.div_le_div_right (Nat.le_of_lt less)) same
        refine Or.inr ⟨by rw [equal], ih ?_ (Nat.mod_lt n positive)⟩
        have left := Nat.div_add_mod m (16 ^ count)
        have right := Nat.div_add_mod n (16 ^ count)
        rw [equal] at left
        omega

/-- The uuids in order; the last one comes again. -/
def countedUuid (n : Nat) : Uuid where
  hex := String.ofList (hexDigits 32 (min n (16 ^ 32 - 1)))
  isHex := by
    rw [String.length_ofList, String.toList_ofList]
    exact hexDigits_isHex (by omega)

theorem countedUuid_lt {m n : Nat} (less : m < n) (bound : n < 16 ^ 32) :
    (countedUuid m).hex < (countedUuid n).hex := by
  unfold countedUuid
  rw [String.lt_iff_toList_lt, String.toList_ofList, String.toList_ofList]
  exact hexDigits_lt (by omega) (by omega)

theorem countedUuid_succ (n : Nat) :
    countedUuid n = countedUuid (n + 1) ∨ (countedUuid n).hex < (countedUuid (n + 1)).hex := by
  rcases Nat.lt_or_ge (n + 1) (16 ^ 32) with more | last
  · exact Or.inr (countedUuid_lt (Nat.lt_succ_self n) more)
  · refine Or.inl ?_
    have left : min n (16 ^ 32 - 1) = 16 ^ 32 - 1 := by
      omega
    have right : min (n + 1) (16 ^ 32 - 1) = 16 ^ 32 - 1 := by
      omega
    unfold countedUuid
    simp only [left, right]

theorem newId_lt (kind : String) {left right : Uuid} (less : left.hex < right.hex) :
    newId kind left < newId kind right := by
  unfold newId
  rw [String.lt_iff_toList_lt] at less ⊢
  rw [String.toList_append, String.toList_append, String.toList_append, String.toList_append]
  exact List.append_left_lt less

def sampleEvent (n : Nat) : AuditEvent Empty where
  id := newId "audit" (countedUuid n)
  occurredAt := Timestamp.epoch.isoformat
  tenantId := "tenant-a"
  actorId := "auditor"
  actorType := "actor"
  requestId := "req-window"
  correlationId := "req-window"
  traceId := "00000000000000000000000000000000"
  spanId := "0000000000000000"
  action := "fixture"
  resourceType := "request"
  resourceId := none
  outcome := "allowed"
  reason := "policy"
  policyVersion := auditSchemaVersion
  source := "service"
  details := .obj []
  retentionClass := "security"
  expiresAt := Timestamp.epoch.isoformat
  legalHold := false

def sampleHash (n : Nat) : String :=
  ((integrityHash Settings.standard (sampleEvent n)).getD "")

def twoEvents : AuditStore where
  db := { Database.created with
    auditEvents := [(sampleEvent 0).row "\x7b\x7d" (sampleHash 0),
      (sampleEvent 1).row "\x7b\x7d" (sampleHash 1)] }
  exports := []

def oneEventQuery : AuditQuery where
  tenantId := "tenant-a"
  actor := "auditor"
  fromTime := none
  toTime := none
  limit := 1
  cursor := none

def openWindow : AuditFilter := ⟨"tenant-a", none, none, none⟩

def countedDraw (n : Nat) : ExportDraw where
  exportId := countedUuid n
  createdAt := Timestamp.epoch
  expiryFrom := Timestamp.epoch
  event := ⟨countedUuid (n + 2), Uuid.nil, none, Timestamp.epoch, Timestamp.epoch⟩
  tenantAt := Timestamp.epoch

theorem oneEventQuery_opens : oneEventQuery.Opens openWindow := ⟨rfl⟩

theorem sampleRow_stored (n : Nat) : StoredRow Empty Settings.standard
    ((sampleEvent n).row "\x7b\x7d" (sampleHash n)) := by
  refine ⟨⟨sampleEvent n, sampleHash n⟩, ['\x7b', '\x7d'], ?_, rfl, rfl⟩
  have hashed : integrityHash Settings.standard (sampleEvent n) = some (sampleHash n) := by
    have encodable : (sampleEvent n).toJson.encodable true = true := by
      rw [toJson_encodable]
      rfl
    have isText : canonicalEvent (sampleEvent n) = some (sampleEvent n).toJson.sortKeys.print := by
      unfold canonicalEvent dumps
      rw [if_pos encodable]
    unfold sampleHash integrityHash
    rw [isText, Option.map_some, Option.getD_some]
  refine ⟨⟨[], rfl, List.nodup_nil, Nat.zero_le _, fun e member => absurd member List.not_mem_nil⟩,
    hashed, ⟨_, rfl⟩, ⟨_, rfl⟩, ?_⟩
  have rest : ∀ value ∈ (sampleEvent 0).texts.tail, value.length ≤ 255 := by
    decide
  intro value member
  rcases List.mem_cons.mp member with isId | other
  · rw [isId]
    show (newId "audit" (countedUuid n)).length ≤ 255
    rw [newId_length]
    decide
  · exact rest value other

/-- At one time, the order is that of the ids. -/
theorem epochKey_lt {left right : Uuid} (less : left.hex < right.hex) :
    (toLex (Timestamp.epoch.isoformat, newId "audit" left) : AuditKey) <
      toLex (Timestamp.epoch.isoformat, newId "audit" right) :=
  Prod.Lex.lt_iff.mpr (Or.inr ⟨rfl, newId_lt "audit" less⟩)

theorem countedDraw_key (n : Nat) : (countedDraw n).key =
    toLex (Timestamp.epoch.isoformat, newId "audit" (countedUuid (n + 2))) :=
  rfl

theorem countedDraw_onward (m : Nat) : (countedDraw m).key ≤ (countedDraw (m + 1)).key := by
  rw [countedDraw_key, countedDraw_key, Nat.add_right_comm m 1 2]
  rcases countedUuid_succ (m + 2) with same | less
  · rw [← same]
  · exact le_of_lt (epochKey_lt less)

theorem twoEvents_rows {row : AuditEventRow} (member : row ∈ twoEvents.db.auditEvents) :
    ∃ n < 2, row = (sampleEvent n).row "\x7b\x7d" (sampleHash n) := by
  rcases List.mem_cons.mp member with first | second
  · exact ⟨0, by decide, first⟩
  · exact ⟨1, by decide, List.mem_singleton.mp second⟩

theorem twoEvents_behind :
    Behind Empty Settings.standard openWindow (countedDraw 0) none twoEvents where
  sound := by
    constructor
    · have apart : newId "audit" (countedUuid 0) ≠ newId "audit" (countedUuid 1) :=
        ne_of_lt (newId_lt "audit" (countedUuid_lt (by decide) (by decide)))
      exact List.nodup_cons.mpr ⟨fun member => apart (List.mem_singleton.mp member),
        List.nodup_singleton _⟩
    · intro row member
      obtain ⟨n, _, isRow⟩ := twoEvents_rows member
      rw [isRow]
      exact sampleRow_stored n
  stamped := by
    intro key impossible
    cases impossible
  latest := by
    intro row member
    obtain ⟨n, less, isRow⟩ := twoEvents_rows member
    rw [isRow]
    exact le_of_lt (epochKey_lt (countedUuid_lt (by omega) (by decide)))
  two := by
    unfold rowsAfter Database.selectAudit
    rw [(orderBy_perm _ _).length_eq]
    exact Nat.le_refl 2

theorem countedDraw_usable {count : Nat} (bound : count ≤ 2 ^ 100) :
    UsableDraws countedDraw 0 count twoEvents := by
  have expiry : (Timestamp.epoch.addDays 1).isSome = true := by
    decide
  have eventExpiry : (Timestamp.epoch.addDays 365).isSome = true := by
    decide
  constructor
  · intro i less
    refine ⟨?_, ?_, expiry, eventExpiry⟩
    · intro row member
      obtain ⟨n, low, isRow⟩ := twoEvents_rows member
      rw [isRow]
      exact ne_of_lt (newId_lt "audit" (countedUuid_lt (by omega) (by omega)))
    · intro row member
      cases member
  · intro i j less most
    exact ne_of_lt (newId_lt "audit" (countedUuid_lt (by omega) (by omega)))
  · intro i j less most
    exact ne_of_lt (newId_lt "audit-export" (countedUuid_lt (by omega) (by omega)))

/-- As many calls as there are fresh ids for return a cursor, and none is the last. -/
theorem one_event_pages_go_on :
    TrailSound Empty Settings.standard twoEvents.db ∧ oneEventQuery.Opens openWindow ∧
    (∀ count ≤ 2 ^ 100, ∃ (calls : List (AuditStore × ExportReceipt Empty)) (last : AuditStore)
      (lastCursor : Option String), calls.length = count ∧
      ExportCalls Empty Settings.standard oneEventQuery countedDraw 0 twoEvents none calls last
        lastCursor) ∧
    ¬∃ calls, ExportRun Empty Settings.standard oneEventQuery countedDraw 0 twoEvents none calls := by
  have inside : ∀ m, openWindow.spans (countedDraw m).event.now.isoformat = true := fun _ => rfl
  refine ⟨twoEvents_behind.sound, oneEventQuery_opens, ?_, ?_⟩
  · intro count bound
    exact twoEvents_behind.exists_calls oneEventQuery_opens rfl inside countedDraw_onward
      (countedDraw_usable bound)
  · rintro ⟨calls, run⟩
    exact twoEvents_behind.no_run oneEventQuery_opens rfl inside countedDraw_onward rfl run

theorem audit_export_pages_two :
    ∃ calls, ExportRun Empty Settings.standard { oneEventQuery with limit := 2 } countedDraw 0
        twoEvents none calls ∧ calls.length ≤ 3 ∧
      List.Forall₂ (fun row event => sealedRow Settings.standard row = .ok event)
        (rowsAfter twoEvents.db openWindow none)
        ((runEvents calls).filter (fun event =>
          event.event.id ∈ twoEvents.db.auditEvents.map (·.id))) := by
  have opens : ({ oneEventQuery with limit := 2 } : AuditQuery).Opens openWindow := ⟨rfl⟩
  have count : (rowsAfter twoEvents.db openWindow none).length = 2 := by
    unfold rowsAfter Database.selectAudit
    rw [(orderBy_perm _ _).length_eq]
    rfl
  have usable : UsableDraws countedDraw 0 ((rowsAfter twoEvents.db openWindow none).length + 1)
      twoEvents := countedDraw_usable (by rw [count]; decide)
  obtain ⟨pages, ends, _⟩ := audit_export_pages twoEvents_behind.sound opens
  obtain ⟨calls, run, few⟩ := ends usable (Or.inl (by decide))
  rw [count] at few
  exact ⟨calls, run, few, (pages calls run).2.1⟩

end FolioLattice.Audit
