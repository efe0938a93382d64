/-
Retention: the events that a purge should remove, by the instants of their expiry and of
the cutoff, and when the events that it removes are these.
-/

import FolioLattice.Audit.Windows
import Mathlib.Data.List.Dedup

namespace FolioLattice.Audit

open FolioLattice.Text FolioLattice.Data FolioLattice.Relational FolioLattice.Store
open FolioLattice.Effects (except_bind_ok)

/-! ### The text of a cutoff -/

/-- The text of the last reading up to a cutoff, as `_audit_window` writes times: empty
where there is none. -/
def canonicalText (cutoff : String) : String :=
  ((isoInstant cutoff).map (fun instant =>
    match auditBound "now" (some cutoff) with
    | .ok (some bound) => bound.2.isoformat
    | _ => if instant < 86400000000 then "" else Timestamp.last.isoformat)).getD ""

/-- Expired by the cutoff, as instants, and not held. -/
def due (cutoff : String) (row : AuditEventRow) : Bool :=
  (isoInstant row.expiresAt).any (fun expiry => (isoInstant cutoff).any (fun c => expiry ≤ c)) &&
    row.legalHold = 0

/-- Nothing is due at a cutoff that is no time. -/
theorem due_none {cutoff : String} (noTime : isoInstant cutoff = none) (row : AuditEventRow) :
    due cutoff row = false := by
  unfold due
  rw [noTime]
  cases isoInstant row.expiresAt with
  | none => rfl
  | some expiry => rfl

/-- Texts between two others, in either order. -/
def Between (left right text : String) : Prop :=
  (left < text ∧ text ≤ right) ∨ (right < text ∧ text ≤ left)

theorem not_between_iff {left right text : String} :
    ¬Between left right text ↔ (text ≤ right ↔ text ≤ left) := by
  unfold Between
  rw [← not_le, ← not_le]
  tauto

theorem isoInstant_some {value : String} {i : Int} (isInstant : isoInstant value = some i) :
    zonedInstant value = some i := by
  unfold isoInstant at isInstant
  split at isInstant
  · cases isInstant
  · exact isInstant

/-- The canonical text of a cutoff selects the expiries up to its instant. -/
theorem le_canonicalText {cutoff : String} (printed : printable cutoff = true) (t : Timestamp) :
    t.isoformat ≤ canonicalText cutoff ↔ ∃ c, isoInstant cutoff = some c ∧ t.instant ≤ c := by
  have notEmpty : ¬t.isoformat ≤ "" := by
    rw [not_le, String.lt_iff_toList_lt]
    unfold Timestamp.isoformat
    rw [String.toList_ofList, String.toList_ofList]
    have length := t.isoChars_length
    cases chars : t.isoChars with
    | nil =>
        rw [chars] at length
        cases length
    | cons c rest => exact List.nil_lt_cons c rest
  unfold canonicalText
  cases isCutoff : isoInstant cutoff with
  | none =>
      rw [Option.map_none, Option.getD_none]
      constructor
      · exact fun le => absurd le notEmpty
      · rintro ⟨c, impossible, _⟩
        cases impossible
  | some c =>
      have single : (∃ c', some c = some c' ∧ t.instant ≤ c') ↔ t.instant ≤ c := by
        constructor
        · rintro ⟨c', same, le⟩
          rw [Option.some.inj same]
          exact le
        · exact fun le => ⟨c, rfl, le⟩
      rw [Option.map_some, Option.getD_some, single]
      rcases auditBound_read "now" printed (isoInstant_some isCutoff) with
        ⟨out, raised⟩ | ⟨u, representable, taken, below, within⟩
      · rw [raised]
        dsimp only
        have dated := t.instant_representable
        unfold Representable at out dated
        split
        · rename_i early
          constructor
          · exact fun le => absurd le notEmpty
          · intro le
            omega
        · rw [Timestamp.isoformat_le_iff]
          have latest := t.instant_le_last
          constructor
          · intro _
            omega
          · exact fun _ => latest
      · rw [taken]
        dsimp only
        rw [Timestamp.isoformat_le_iff]
        have tMillis := t.instant_millis
        have uMillis := u.instant_millis
        constructor
        · exact fun le => le.trans below
        · intro le
          omega

/-! ### What a purge should do -/

/-- The counts of the rows that are lost, by tenant. -/
structure CountsOf (lost : List AuditEventRow) (counts : List (String × Nat)) : Prop where
  tenants : (counts.map (·.1)).Nodup
  count : ∀ tenantId n, (tenantId, n) ∈ counts ↔
    0 < n ∧ (lost.filter (fun row => row.tenantId = tenantId)).length = n

def purgeDetails (F : Type) (count : Nat) : Json F :=
  .obj [(pyStr "status_code", .int 200), (pyStr "limit_name", text (toString count))]

/-- The event that states how many rows a tenant lost. -/
structure StatesPurge (F : Type) [FloatFormat F] (entry : String × Nat) (row : AuditEventRow) :
    Prop where
  tenantId : row.tenantId = entry.1
  action : row.action = "audit_retention_purge"
  details : ∃ json, dumps true (purgeDetails F entry.2) = some json ∧
    row.detailsJson = String.ofList json

/-- The due rows go, an event for each tenant that lost rows comes, and the counts are
returned. -/
structure PurgeExact (F : Type) [FloatFormat F] (cutoff : String) (db db' : Database)
    (counts : List (String × Nat)) : Prop where
  rows : ∃ added, List.Forall₂ (StatesPurge F) counts added ∧
    db'.auditEvents = db.auditEvents.filter (fun row => !due cutoff row) ++ added
  counts : CountsOf (db.auditEvents.filter (due cutoff)) counts

/-- No row that is not held expires between the cutoff and its canonical text. -/
def PurgePrecise (cutoff : String) (db : Database) : Prop :=
  ∀ row ∈ db.auditEvents, row.legalHold = 0 →
    ¬Between (canonicalText cutoff) cutoff row.expiresAt

theorem expiredCounts_of (db : Database) (cutoff : String) :
    CountsOf (db.auditEvents.filter (expired cutoff)) (Database.expiredCounts db cutoff) := by
  constructor
  · unfold Database.expiredCounts
    dsimp only
    rw [List.map_map]
    have keys : ((fun entry : String × Nat => entry.1) ∘ fun tenantId =>
        (tenantId, ((db.auditEvents.filter (expired cutoff)).filter
          (fun row => row.tenantId = tenantId)).length)) = id := rfl
    rw [keys, List.map_id]
    exact (orderBy_perm id _).nodup_iff.mpr (List.nodup_dedup _)
  · intro tenantId n
    unfold Database.expiredCounts
    dsimp only
    rw [List.mem_map]
    constructor
    · rintro ⟨found, member, same⟩
      obtain ⟨rfl, rfl⟩ := Prod.mk.inj same
      obtain ⟨row, lost, isTenant⟩ := List.mem_map.mp (List.mem_dedup.mp (mem_orderBy.mp member))
      refine ⟨List.length_pos_of_mem (a := row) (List.mem_filter.mpr ⟨lost, ?_⟩), rfl⟩
      exact decide_eq_true isTenant
    · rintro ⟨some, isCount⟩
      refine ⟨tenantId, ?_, by rw [isCount]⟩
      rw [← isCount] at some
      obtain ⟨row, member⟩ := List.exists_mem_of_length_pos some
      obtain ⟨lost, isTenant⟩ := List.mem_filter.mp member
      rw [mem_orderBy, List.mem_dedup]
      exact List.mem_map.mpr ⟨row, lost, of_decide_eq_true isTenant⟩

section Purge

variable {F : Type} [FloatFormat F] {settings : Settings}

theorem purgeDetails_safe {count : Nat} {safe : List (PyStr × Json F)}
    (isSafe : safeDetails ((purgeRequest "" count : AuditRequest F).details.map (·.entries)) =
      .ok safe) : (.obj safe : Json F) = purgeDetails F count := by
  change safeDetails (some [(pyStr "status_code", .int 200),
    (pyStr "limit_name", text (toString count))]) = .ok safe at isSafe
  unfold safeDetails at isSafe
  dsimp only at isSafe
  split at isSafe
  · cases isSafe
  · rw [(safeEntries_ok isSafe).1]
    rfl

theorem PurgeRow.states {draw : String → EventDraw} {entry : String × Nat} {row : AuditEventRow}
    (isRow : PurgeRow F settings draw entry row) : StatesPurge F entry row := by
  obtain ⟨sealedEvent, detailsJson, isBuilt, dumped, same⟩ := isRow
  obtain ⟨_, _, _, tenant, action, _⟩ := buildAuditEvent_ok isBuilt
  obtain ⟨⟨safe, isSafe, isDetails⟩, _, _⟩ := buildAuditEvent_fields isBuilt
  rw [same]
  refine ⟨tenant, action, detailsJson, ?_, rfl⟩
  rw [← purgeDetails_safe isSafe, ← isDetails]
  exact dumped

/-- A row goes rightly unless it expires between the cutoff and its canonical text. -/
theorem expired_eq_due_iff {cutoff : String} (printed : printable cutoff = true)
    {row : AuditEventRow} (stamped : ∃ t : Timestamp, row.expiresAt = t.isoformat) :
    expired cutoff row = due cutoff row ↔
      (row.legalHold = 0 → ¬Between (canonicalText cutoff) cutoff row.expiresAt) := by
  obtain ⟨t, isExpiry⟩ := stamped
  have dueIff : (isoInstant row.expiresAt).any
      (fun expiry => (isoInstant cutoff).any (fun c => expiry ≤ c)) = true ↔
        row.expiresAt ≤ canonicalText cutoff := by
    rw [isExpiry, isoInstant_isoformat, Option.any_some, le_canonicalText printed, Option.any_eq_true]
    simp only [decide_eq_true_eq]
  rw [not_between_iff, ← dueIff]
  unfold expired due
  by_cases free : row.legalHold = 0
  · simp only [free, decide_true, Bool.and_true, forall_const]
    rw [Bool.eq_iff_iff, decide_eq_true_iff]
  · simp only [free, decide_false, Bool.and_false, false_implies]

theorem purge_exact_iff {db db' : Database} {draw : String → EventDraw} {clock : Timestamp}
    {now : Option String} {counts : List (String × Nat)}
    (expires : ∀ row ∈ db.auditEvents, ∃ t : Timestamp, row.expiresAt = t.isoformat)
    (done : purgeAuditEvents F settings draw clock now db = .ok (db', counts)) :
    PurgeExact F (orElse now clock.isoformat) db db' counts ↔
      PurgePrecise (orElse now clock.isoformat) db := by
  obtain ⟨accepted, isCounts, added, rows, isTable⟩ := purgeAuditEvents_ok done
  generalize orElse now clock.isoformat = cutoff at accepted isCounts isTable ⊢
  have printed : printable cutoff = true := printable_iff.mpr accepted
  constructor
  · intro exact row member
    -- Both tables end with as many events, so the rows that stay are the same.
    obtain ⟨added', rows', isTable'⟩ := exact.rows
    have stay : db.auditEvents.filter (fun row => !expired cutoff row) =
        db.auditEvents.filter (fun row => !due cutoff row) :=
      (List.append_inj' (isTable.symm.trans isTable')
        (rows.length_eq.symm.trans rows'.length_eq)).1
    have same : expired cutoff row = due cutoff row := by
      have stays : row ∈ db.auditEvents.filter (fun row => !expired cutoff row) ↔
          row ∈ db.auditEvents.filter (fun row => !due cutoff row) := by
        rw [stay]
      rw [List.mem_filter, List.mem_filter] at stays
      exact Bool.not_inj (Bool.eq_iff_iff.mpr (and_congr_right_iff.mp stays member))
    exact (expired_eq_due_iff printed (expires row member)).mp same
  · intro precise
    have same : ∀ row ∈ db.auditEvents, expired cutoff row = due cutoff row := by
      intro row member
      exact (expired_eq_due_iff printed (expires row member)).mpr (precise row member)
    constructor
    · refine ⟨added, rows.imp (fun _ _ isRow => isRow.states), ?_⟩
      rw [isTable]
      congr 1
      apply List.filter_congr
      intro row member
      rw [same row member]
    · rw [isCounts, ← List.filter_congr same]
      exact expiredCounts_of db cutoff

/-- Where no row is expired, the table stays. -/
theorem purgeAuditEvents_none {db : Database} {draw : String → EventDraw} {clock : Timestamp}
    {now : Option String} (printed : printable (orElse now clock.isoformat) = true)
    (none : ∀ row ∈ db.auditEvents, expired (orElse now clock.isoformat) row = false) :
    purgeAuditEvents F settings draw clock now db = .ok (db, []) := by
  have lost : db.auditEvents.filter (expired (orElse now clock.isoformat)) = [] := by
    rw [List.filter_eq_nil_iff]
    intro row member
    rw [none row member]
    exact Bool.false_ne_true
  have stay : db.auditEvents.filter (fun row => !expired (orElse now clock.isoformat) row) =
      db.auditEvents := by
    rw [List.filter_eq_self]
    intro row member
    rw [none row member]
    rfl
  unfold purgeAuditEvents Database.expiredCounts
  dsimp only
  rw [if_neg (printable_iff.mp printed), lost, stay]
  rfl

def AuditCall.IsPurge : AuditCall F → Prop
  | .purge _ _ _ => True
  | _ => False

theorem AuditCall.IsPurge.keeps_held {call : AuditCall F} (isPurge : call.IsPurge)
    {store : AuditStore} {row : AuditEventRow} (member : row ∈ store.db.auditEvents)
    (held : row.legalHold ≠ 0) : row ∈ (call.after settings store).db.auditEvents := by
  cases call with
  | purge draw clock now =>
      unfold AuditCall.after
      split
      · rename_i store' done
        obtain ⟨⟨db, counts⟩, purged, isStore⟩ := except_bind_ok done
        obtain ⟨_, _, added, _, isTable⟩ := purgeAuditEvents_ok purged
        rw [← Except.ok.inj isStore]
        rw [isTable]
        refine List.mem_append_left _ (List.mem_filter.mpr ⟨member, ?_⟩)
        unfold expired
        rw [decide_eq_false held, Bool.and_false]
        rfl
      · exact member
  | record _ _ _ => exact absurd isPurge id
  | exported _ _ => exact absurd isPurge id
  | hold _ _ _ _ _ _ => exact absurd isPurge id

theorem purges_keep_held {purges : List (AuditCall F)} (arePurges : ∀ call ∈ purges, call.IsPurge)
    {store : AuditStore} {row : AuditEventRow} (member : row ∈ store.db.auditEvents)
    (held : row.legalHold ≠ 0) : row ∈ (runAudit settings store purges).db.auditEvents := by
  induction purges generalizing store with
  | nil => exact member
  | cons call purges ih =>
      obtain ⟨isPurge, later⟩ := List.forall_mem_cons.mp arePurges
      exact ih later (isPurge.keeps_held member held)

/-- In a table that audit calls have made, a purge removes the due rows exactly if none
expires between the cutoff and its canonical text. Failing, it removes nothing, and held
rows stay through any purges. -/
theorem audit_purge_exact {start : AuditStore} (fresh : start.db.auditEvents = [])
    (calls : List (AuditCall F)) :
    (∀ draw clock now db' counts,
      purgeAuditEvents F settings draw clock now (runAudit settings start calls).db =
          .ok (db', counts) →
        (PurgeExact F (orElse now clock.isoformat) (runAudit settings start calls).db db' counts ↔
          PurgePrecise (orElse now clock.isoformat) (runAudit settings start calls).db)) ∧
    (∀ draw clock now e,
      purgeAuditEvents F settings draw clock now (runAudit settings start calls).db = .error e →
        (AuditCall.purge draw clock now : AuditCall F).after settings
          (runAudit settings start calls) = runAudit settings start calls) ∧
    ∀ purges : List (AuditCall F), (∀ call ∈ purges, call.IsPurge) →
      ∀ row ∈ (runAudit settings start calls).db.auditEvents, row.legalHold ≠ 0 →
        row ∈ (runAudit settings (runAudit settings start calls) purges).db.auditEvents := by
  refine ⟨?_, ?_, ?_⟩
  · intro draw clock now db' counts done
    exact purge_exact_iff (runAudit_expires calls fresh) done
  · intro draw clock now e failed
    unfold AuditCall.after AuditCall.perform
    dsimp only
    rw [failed]
    rfl
  · intro purges arePurges row member held
    exact purges_keep_held arePurges member held

end Purge

/-! ### A table with one event -/

def emptyTrail : AuditStore := ⟨Database.created, []⟩

/-- The table after one export, whose event expires in a year. -/
def exportedTrail : AuditStore :=
  runAudit Settings.standard emptyTrail
    [(AuditCall.exported (countedDraw 0) oneEventQuery : AuditCall Empty)]

def yearLater : Timestamp := (Timestamp.epoch.addDays 365).get (by decide)

theorem exportedTrail_row : ∃ row, exportedTrail.db.auditEvents = [row] ∧
    row.expiresAt = yearLater.isoformat ∧ row.legalHold = 0 := by
  have usable : UsableDraw (countedDraw 0) emptyTrail :=
    ⟨fun _ member => absurd member List.not_mem_nil, fun _ member => absurd member List.not_mem_nil,
      by decide, by decide⟩
  obtain ⟨store', receipt, done⟩ : ∃ store' receipt, (exportAuditEvents Settings.standard
      (countedDraw 0) oneEventQuery emptyTrail :
        Except Failure (AuditStore × ExportReceipt Empty)) = .ok (store', receipt) :=
    exportAuditEvents_succeeds (TrailSound.empty rfl) oneEventQuery_opens.accepted usable
  have isStore : exportedTrail = store' := AuditCall.after_exported done
  obtain ⟨sealedEvent, detailsJson, isBuilt, _, appended⟩ := exportAuditEvents_appends done
  obtain ⟨_, expiry, free⟩ := buildAuditEvent_fields isBuilt
  have later : Timestamp.epoch.addDays 365 = some yearLater := (Option.some_get _).symm
  have year : expiryFor "security" Timestamp.epoch = .ok yearLater.isoformat := by
    unfold expiryFor auditRetentionDays
    rw [if_pos rfl]
    dsimp only
    rw [later]
  refine ⟨_, by rw [isStore]; exact appended, ?_, ?_⟩
  · exact Except.ok.inj (expiry.symm.trans year)
  · show (if sealedEvent.event.legalHold then (1 : Int) else 0) = 0
    rw [free]
    rfl

theorem exportedTrail_expired (cutoff : String) :
    ∀ row ∈ exportedTrail.db.auditEvents,
      expired cutoff row = decide (yearLater.isoformat ≤ cutoff) := by
  obtain ⟨row, isTable, expires, free⟩ := exportedTrail_row
  rw [isTable]
  intro row' member
  rw [List.mem_singleton.mp member]
  unfold expired
  rw [expires, free]
  exact Bool.and_true _

theorem exportedTrail_due (cutoff : String) {c : Int} (isCutoff : isoInstant cutoff = some c) :
    ∀ row ∈ exportedTrail.db.auditEvents, due cutoff row = decide (62167219200000000 ≤ c) := by
  obtain ⟨row, isTable, expires, free⟩ := exportedTrail_row
  have year : yearLater.instant = 62167219200000000 := by
    decide
  rw [isTable]
  intro row' member
  rw [List.mem_singleton.mp member]
  unfold due
  rw [expires, isoInstant_isoformat, isCutoff, Option.any_some, Option.any_some, year, free]
  exact Bool.and_true _

/-- Half a year later, nothing is due and nothing goes. -/
theorem audit_purge_exact_early :
    PurgeExact Empty "1970-07-01T00:00:00.000+00:00" exportedTrail.db exportedTrail.db [] := by
  have early : ¬yearLater.isoformat ≤ "1970-07-01T00:00:00.000+00:00" := by
    decide
  have cutoff : isoInstant "1970-07-01T00:00:00.000+00:00" = some 62151321600000000 := by
    decide
  have none : ∀ row ∈ exportedTrail.db.auditEvents,
      expired "1970-07-01T00:00:00.000+00:00" row = false := by
    intro row member
    rw [exportedTrail_expired _ row member]
    exact decide_eq_false early
  have done : purgeAuditEvents Empty Settings.standard (fun _ => (countedDraw 0).event)
      Timestamp.epoch (some "1970-07-01T00:00:00.000+00:00") exportedTrail.db =
        .ok (exportedTrail.db, []) := purgeAuditEvents_none (by decide) none
  refine ((audit_purge_exact (F := Empty) rfl _).1 _ _ _ _ _ done).mpr ?_
  intro row member
  have same : expired "1970-07-01T00:00:00.000+00:00" row =
      due "1970-07-01T00:00:00.000+00:00" row := by
    rw [none row member, exportedTrail_due _ cutoff row member]
    decide
  exact (expired_eq_due_iff (by decide) (runAudit_expires _ rfl row member)).mp same

/-- At a cutoff without milliseconds the event that expires then stays, and a cutoff that
is no time removes it. -/
theorem audit_purge_inexact :
    purgeAuditEvents Empty Settings.standard (fun _ => (countedDraw 0).event) Timestamp.epoch
        (some "1971-01-01T00:00:00+00:00") exportedTrail.db = .ok (exportedTrail.db, []) ∧
      ¬PurgeExact Empty "1971-01-01T00:00:00+00:00" exportedTrail.db exportedTrail.db [] ∧
      ∀ draw clock db' counts,
        purgeAuditEvents Empty Settings.standard draw clock (some "tomorrow") exportedTrail.db =
            .ok (db', counts) →
          ¬PurgeExact Empty "tomorrow" exportedTrail.db db' counts := by
  have late : ¬yearLater.isoformat ≤ "1971-01-01T00:00:00+00:00" := by
    decide
  have cutoff : isoInstant "1971-01-01T00:00:00+00:00" = some 62167219200000000 := by
    decide
  have isText : yearLater.isoformat ≤ "tomorrow" := by
    decide
  have noTime : isoInstant "tomorrow" = none := by
    decide
  have stays : ∀ row ∈ exportedTrail.db.auditEvents,
      expired "1971-01-01T00:00:00+00:00" row = false := by
    intro row member
    rw [exportedTrail_expired _ row member]
    exact decide_eq_false late
  have done : purgeAuditEvents Empty Settings.standard (fun _ => (countedDraw 0).event)
      Timestamp.epoch (some "1971-01-01T00:00:00+00:00") exportedTrail.db =
        .ok (exportedTrail.db, []) := purgeAuditEvents_none (by decide) stays
  have expires : ∀ row ∈ exportedTrail.db.auditEvents, ∃ t : Timestamp,
      row.expiresAt = t.isoformat := runAudit_expires _ rfl
  obtain ⟨row, isTable, _, free⟩ := exportedTrail_row
  have member : row ∈ exportedTrail.db.auditEvents := by
    rw [isTable]
    exact List.mem_singleton_self row
  refine ⟨done, ?_, ?_⟩
  · intro exact
    have same : expired "1971-01-01T00:00:00+00:00" row = due "1971-01-01T00:00:00+00:00" row :=
      (expired_eq_due_iff (by decide) (expires row member)).mpr
        ((purge_exact_iff expires done).mp exact row member)
    rw [stays row member, exportedTrail_due _ cutoff row member] at same
    revert same
    decide
  · intro draw clock db' counts purged exact
    have same : expired "tomorrow" row = due "tomorrow" row :=
      (expired_eq_due_iff (by decide) (expires row member)).mpr
        ((purge_exact_iff expires purged).mp exact row member)
    rw [due_none noTime, exportedTrail_expired _ row member, decide_eq_true isText] at same
    cases same

end FolioLattice.Audit
