/-
Tamper evidence across the trace-context migration: it hashes the rows anew
without checking the hashes they had.
-/

import FolioLattice.Audit.Migrated

namespace FolioLattice.Audit

open FolioLattice.Text FolioLattice.Data FolioLattice.Store
open FolioLattice.Effects (except_bind_ok except_mapM_ok forall₂_mem_left forall₂_mem_right)

/-! ### Rows of an earlier release -/

/-- The record of an earlier release: an event without its trace context. -/
def AuditEvent.legacyJson {F : Type} (event : AuditEvent F) : Json F :=
  match event.toJson with
  | .obj entries =>
      .obj (entries.filter (fun e => e.1 ≠ pyStr "trace_id" ∧ e.1 ≠ pyStr "span_id"))
  | value => value

/-- The stored hash is the hash of the row's own fields. -/
def LegacyIntact (F : Type) [FloatFormat F] (settings : Settings) (row : AuditEventRow) : Prop :=
  ∃ event : AuditEvent F, auditRow row = .ok event ∧
    (dumps true event.legacyJson).map (fun text => (settings.sha256 (asciiBytes text)).hex) =
      some row.integrityHash

def Verifies (F : Type) [FloatFormat F] (settings : Settings) (row : AuditEventRow) : Prop :=
  ∃ event : AuditEvent F, verifiedAuditRow settings row = .ok event

/-- A tampered row is told after the upgrade: it is refused, or the row with its
id fails verification. -/
def TamperingEvident (F : Type) [FloatFormat F] (settings : Settings) (draw : InitializeDraw)
    (db : Database) : Prop :=
  ∀ row ∈ db.auditEvents, ¬LegacyIntact F settings row →
    ∀ db', initializeStore F settings draw db = .ok db' →
      ∀ row' ∈ db'.auditEvents, row'.id = row.id → ¬Verifies F settings row'

/-! ### When the upgrade is refused -/

/-- Details that no `dict` and no text can be made of. -/
def DetailsRefused (F : Type) [FloatFormat F] (settings : Settings) (row : AuditEventRow) : Prop :=
  match (readDetails row.detailsJson : Except Failure (Json F)) with
  | .error _ => True
  | .ok value =>
      match toMapping value with
      | none => True
      | some mapping =>
          match (migrateIdentifiers settings row mapping).2.2.ordered with
          | none => True
          | some details => details.encodable true = false

/-- A row as the upgraded table has it: new columns are empty. -/
def widened (layout : Layout) (row : AuditEventRow) : AuditEventRow :=
  { row with
    traceId := if layout.traceId then row.traceId else ""
    spanId := if layout.spanId then row.spanId else "" }

def Accepted {α : Type} (result : Except Failure α) : Prop := ∃ value, result = .ok value

/-- What makes `initialize` raise: a row's details, an artifact without an owner
or a ledger of another code. -/
def UpgradeRefused (F : Type) [FloatFormat F] (settings : Settings) (draw : InitializeDraw)
    (db : Database) : Prop :=
  (∃ row ∈ db.auditEvents, DetailsRefused F settings (widened db.layout row)) ∨
    ¬Accepted db.upgradeOwners ∨ ¬Accepted (ensureMigrationLedger settings draw.ledgerAt db)

/-- Details keyed by numbers: they are hashed in the order of the numbers and read
back in the order of the texts, and the two hashes differ. -/
def Scrambled (F : Type) [FloatFormat F] (settings : Settings) (row : AuditEventRow) : Prop :=
  NumberKeyed F settings row ∧
    ∀ event : AuditEvent F, migratedEvent F settings row = .ok event →
      integrityHash settings event.readBack ≠ some (orderedHash settings event)

section Rows

variable {F : Type} [FloatFormat F]

theorem verifies_iff {settings : Settings} {row : AuditEventRow} {event : AuditEvent F}
    (read : auditRow row = .ok event) :
    Verifies F settings row ↔ integrityHash settings event = some row.integrityHash := by
  unfold Verifies verifiedAuditRow
  rw [read]
  cases hashed : integrityHash settings event with
  | none => simp [hashOrRaise, hashed, bind, Except.bind]
  | some hash =>
      by_cases same : row.integrityHash = hash
      · simp [hashOrRaise, hashed, bind, Except.bind, same]
      · simp [hashOrRaise, hashed, bind, Except.bind, same, Ne.symm same]

/-- The migration decides whether a row verifies, whatever hash it had. -/
theorem verifies_migrated_iff {settings : Settings} {row migrated : AuditEventRow}
    (done : migrateRow F settings row = .ok migrated) :
    Verifies F settings migrated ↔ ¬Scrambled F settings row := by
  obtain ⟨event, isEvent, encodable, read, hash⟩ := auditRow_migrated done
  rw [verifies_iff read, hash]
  constructor
  · rintro verified ⟨_, differs⟩
    exact differs event isEvent verified
  · intro notScrambled
    by_cases numbers : NumberKeyed F settings row
    · by_contra differs
      apply notScrambled
      refine ⟨numbers, ?_⟩
      intro other isOther
      rw [isEvent] at isOther
      cases isOther
      exact differs
    · obtain ⟨normal, ordered⟩ := migratedEvent_details isEvent numbers
      have same : event.readBack = event := by
        unfold AuditEvent.readBack
        rw [Json.reread_of_joined normal.1 normal.2]
      rw [same]
      exact integrityHash_ordered settings ordered encodable

theorem migrateRow_accepted_iff {settings : Settings} {row : AuditEventRow} :
    Accepted (migrateRow F settings row) ↔ ¬DetailsRefused F settings row := by
  unfold Accepted DetailsRefused migrateRow migratedEvent auditRow
  cases read : readDetails (F := F) row.detailsJson with
  | error e => simp [bind, Except.bind]
  | ok value =>
      cases mapped : toMapping value with
      | none => simp [bind, Except.bind, mapped]
      | some mapping =>
          cases ordered : (migrateIdentifiers settings row mapping).2.2.ordered with
          | none => simp [bind, Except.bind, mapped, ordered]
          | some details =>
              cases encodable : details.encodable true <;>
                simp [bind, Except.bind, mapped, ordered, encodable]

theorem migrateRow_id {settings : Settings} {row migrated : AuditEventRow}
    (done : migrateRow F settings row = .ok migrated) : migrated.id = row.id := by
  unfold migrateRow at done
  obtain ⟨event, _, done⟩ := except_bind_ok done
  split at done
  · cases done
    rfl
  · cases done

/-! ### The whole upgrade -/

theorem mapM_accepted_iff {α β : Type} {f : α → Except Failure β} {rows : List α} :
    Accepted (rows.mapM f) ↔ ∀ row ∈ rows, Accepted (f row) := by
  induction rows with
  | nil => exact ⟨fun _ row member => absurd member List.not_mem_nil, fun _ => ⟨[], rfl⟩⟩
  | cons row rest ih =>
      rw [List.forall_mem_cons, ← ih, List.mapM_cons]
      constructor
      · rintro ⟨results, mapped⟩
        obtain ⟨result, here, mapped⟩ := except_bind_ok mapped
        obtain ⟨others, later, _⟩ := except_bind_ok mapped
        exact ⟨⟨result, here⟩, ⟨others, later⟩⟩
      · rintro ⟨⟨result, here⟩, ⟨others, later⟩⟩
        rw [here, later]
        exact ⟨result :: others, rfl⟩

theorem accepted_bind_iff {α β : Type} {first : Except Failure α} {next : α → Except Failure β}
    (total : ∀ value, Accepted (next value)) : Accepted (first >>= next) ↔ Accepted first := by
  constructor
  · rintro ⟨result, done⟩
    obtain ⟨value, here, _⟩ := except_bind_ok done
    exact ⟨value, here⟩
  · rintro ⟨value, here⟩
    rw [here]
    exact total value

theorem upgradeOwners_accepted_iff {db db' : Database} (artifacts : db'.artifacts = db.artifacts)
    (versions : db'.versions = db.versions)
    (column : db'.layout.ownerActorId = db.layout.ownerActorId) :
    Accepted db'.upgradeOwners ↔ Accepted db.upgradeOwners := by
  have sameOwner : db'.migrateOwner = db.migrateOwner := by
    funext artifact
    unfold Database.migrateOwner Database.versionsOf
    rw [versions]
  unfold Database.upgradeOwners
  rw [artifacts, column, sameOwner]
  rw [accepted_bind_iff (fun owned => ⟨_, rfl⟩), accepted_bind_iff (fun owned => ⟨_, rfl⟩)]

theorem ledger_accepted_iff {settings : Settings} {now : Nat → Timestamp} {db db' : Database}
    (ledger : db'.schemaMigrations = db.schemaMigrations) :
    Accepted (ensureMigrationLedger settings now db') ↔
      Accepted (ensureMigrationLedger settings now db) := by
  unfold ensureMigrationLedger
  rw [ledger]
  split
  · exact Iff.rfl
  · rw [accepted_bind_iff (fun rows => ⟨_, rfl⟩), accepted_bind_iff (fun rows => ⟨_, rfl⟩)]

variable {settings : Settings} {draw : InitializeDraw} {db : Database}

/-- While the ledger lacks the migration every row goes through it. -/
theorem upgradeAudit_pending (pending : db.schemaMigrations.any (fun row => row.version = 7) = false) :
    db.upgradeAudit F settings = (do
      let migrated ← (db.auditEvents.map (widened db.layout)).mapM (migrateRow F settings)
      .ok { db with
        auditEvents := migrated, layout := { db.layout with traceId := true, spanId := true } }) := by
  unfold Database.upgradeAudit
  simp only
  rw [if_neg (by rw [pending]; exact Bool.false_ne_true)]
  rfl

theorem upgradeOwners_ok {db' : Database} (upgraded : db.upgradeOwners = .ok db') :
    db'.auditEvents = db.auditEvents ∧ db'.schemaMigrations = db.schemaMigrations := by
  unfold Database.upgradeOwners at upgraded
  obtain ⟨artifacts, _, same⟩ := except_bind_ok upgraded
  cases same
  exact ⟨rfl, rfl⟩

/-- What follows the owners in `initialize`. -/
def finishUpgrade (settings : Settings) (draw : InitializeDraw) (db : Database) :
    Except Failure Database :=
  ensureMigrationLedger settings draw.ledgerAt
    (db.upgradeCurrentVersions.restoreOwnerGrants draw.grantAt)

theorem upgradeCurrentVersions_same (db : Database) :
    db.upgradeCurrentVersions.auditEvents = db.auditEvents ∧
      db.upgradeCurrentVersions.schemaMigrations = db.schemaMigrations := by
  unfold Database.upgradeCurrentVersions
  split
  · exact ⟨rfl, rfl⟩
  · exact ⟨rfl, rfl⟩

theorem initialize_pending (F : Type) [FloatFormat F] (settings : Settings) (draw : InitializeDraw)
    {db : Database} (pending : db.schemaMigrations.any (fun row => row.version = 7) = false) :
    ∃ upgraded : List AuditEventRow → Database,
      initializeStore F settings draw db = (do
        let migrated ← (db.auditEvents.map (widened db.layout)).mapM (migrateRow F settings)
        let owned ← (upgraded migrated).upgradeOwners
        finishUpgrade settings draw owned) ∧
      ∀ migrated, (upgraded migrated).auditEvents = migrated ∧
        (upgraded migrated).artifacts = db.artifacts ∧
        (upgraded migrated).versions = db.versions ∧
        (upgraded migrated).layout.ownerActorId = db.layout.ownerActorId ∧
        (upgraded migrated).schemaMigrations = db.schemaMigrations := by
  refine ⟨fun migrated => { db.backfillSubstrings with
    auditEvents := migrated
    layout := { db.layout with revocationReason := true, traceId := true, spanId := true } },
    ?_, fun migrated => ⟨rfl, rfl, rfl, rfl, rfl⟩⟩
  unfold initializeStore
  simp only
  rw [upgradeAudit_pending (by exact pending), bind_assoc]
  rfl

theorem initialize_migrates (pending : db.schemaMigrations.any (fun row => row.version = 7) = false)
    {db' : Database} (done : initializeStore F settings draw db = .ok db') :
    (db.auditEvents.map (widened db.layout)).mapM (migrateRow F settings) = .ok db'.auditEvents := by
  obtain ⟨upgraded, sameRun, sameTables⟩ := initialize_pending F settings draw pending
  rw [sameRun] at done
  obtain ⟨migrated, mapped, done⟩ := except_bind_ok done
  obtain ⟨owned, ownersDone, finished⟩ := except_bind_ok done
  obtain ⟨_, _, events⟩ := ensureMigrationLedger_ok finished
  rw [mapped, events]
  change Except.ok migrated = .ok owned.upgradeCurrentVersions.auditEvents
  rw [(upgradeCurrentVersions_same owned).1, (upgradeOwners_ok ownersDone).1,
    (sameTables migrated).1]

theorem initialize_accepted_iff
    (pending : db.schemaMigrations.any (fun row => row.version = 7) = false) :
    Accepted (initializeStore F settings draw db) ↔ ¬UpgradeRefused F settings draw db := by
  obtain ⟨upgraded, sameRun, sameTables⟩ := initialize_pending F settings draw pending
  have rowsAccepted : Accepted ((db.auditEvents.map (widened db.layout)).mapM (migrateRow F settings)) ↔
      ¬∃ row ∈ db.auditEvents, DetailsRefused F settings (widened db.layout row) := by
    rw [mapM_accepted_iff, List.forall_mem_map]
    simp only [migrateRow_accepted_iff]
    exact ⟨fun all ⟨row, member, refused⟩ => all row member refused,
      fun none row member refused => none ⟨row, member, refused⟩⟩
  have ownersAccepted : ∀ migrated, Accepted (upgraded migrated).upgradeOwners ↔
      Accepted db.upgradeOwners := fun migrated =>
    upgradeOwners_accepted_iff (sameTables migrated).2.1 (sameTables migrated).2.2.1
      (sameTables migrated).2.2.2.1
  have finishAccepted : ∀ migrated owned, (upgraded migrated).upgradeOwners = .ok owned →
      (Accepted (finishUpgrade settings draw owned) ↔
        Accepted (ensureMigrationLedger settings draw.ledgerAt db)) := by
    intro migrated owned ownersDone
    apply ledger_accepted_iff
    change owned.upgradeCurrentVersions.schemaMigrations = _
    rw [(upgradeCurrentVersions_same owned).2, (upgradeOwners_ok ownersDone).2,
      (sameTables migrated).2.2.2.2]
  unfold UpgradeRefused
  rw [not_or, not_or, not_not, not_not, ← rowsAccepted, sameRun]
  constructor
  · rintro ⟨db', done⟩
    obtain ⟨migrated, mapped, done⟩ := except_bind_ok done
    obtain ⟨owned, ownersDone, finished⟩ := except_bind_ok done
    exact ⟨⟨migrated, mapped⟩, (ownersAccepted migrated).mp ⟨owned, ownersDone⟩,
      (finishAccepted migrated owned ownersDone).mp ⟨db', finished⟩⟩
  · rintro ⟨⟨migrated, mapped⟩, owners, ledger⟩
    obtain ⟨owned, ownersDone⟩ := (ownersAccepted migrated).mpr owners
    rw [mapped]
    change Accepted ((upgraded migrated).upgradeOwners >>= finishUpgrade settings draw)
    rw [ownersDone]
    exact (finishAccepted migrated owned ownersDone).mpr ledger

/-- An upgrade that goes through leaves no other tampered row evident. -/
theorem TamperingEvident.scrambled
    (pending : db.schemaMigrations.any (fun row => row.version = 7) = false)
    (evident : TamperingEvident F settings draw db) (accepted : ¬UpgradeRefused F settings draw db)
    {row : AuditEventRow} (member : row ∈ db.auditEvents)
    (tampered : ¬LegacyIntact F settings row) :
    Scrambled F settings (widened db.layout row) := by
  obtain ⟨db', done⟩ := (initialize_accepted_iff pending).mpr accepted
  obtain ⟨row', member', isMigrated⟩ := forall₂_mem_left
    (except_mapM_ok (initialize_migrates pending done))
    (List.mem_map_of_mem member : widened db.layout row ∈ _)
  have sameId : row'.id = row.id := (migrateRow_id isMigrated).trans rfl
  by_contra kept
  exact evident row member tampered db' done row' member' sameId
    ((verifies_migrated_iff isMigrated).mpr kept)

/-- Tampering shows after the upgrade only where it is refused, or where every
tampered row has details that print in one order and read back in another. -/
theorem tampering_evident_iff
    (pending : db.schemaMigrations.any (fun row => row.version = 7) = false)
    (keyed : Relational.KeyedBy (·.id) db.auditEvents) :
    TamperingEvident F settings draw db ↔
      UpgradeRefused F settings draw db ∨
        ∀ row ∈ db.auditEvents, ¬LegacyIntact F settings row →
          Scrambled F settings (widened db.layout row) := by
  constructor
  · intro evident
    by_cases refused : UpgradeRefused F settings draw db
    · exact .inl refused
    · exact .inr fun row member tampered => evident.scrambled pending refused member tampered
  · rintro (refused | scrambled) row member tampered db' done row' member' sameId
    · exact absurd refused ((initialize_accepted_iff pending).mp ⟨db', done⟩)
    · obtain ⟨_, widenedMember, isMigrated⟩ :=
        forall₂_mem_right (except_mapM_ok (initialize_migrates pending done)) member'
      obtain ⟨original, originalMember, same⟩ := List.mem_map.mp widenedMember
      rw [← same] at isMigrated
      have isRow : original = row := by
        apply keyed.eq originalMember member
        exact ((migrateRow_id isMigrated).trans rfl).symm.trans sameId
      rw [isRow] at isMigrated
      rw [verifies_migrated_iff isMigrated, not_not]
      exact scrambled row member tampered

end Rows

/-! ### A row whose hash was wiped -/

def wipedRow : AuditEventRow where
  id := "audit_1"
  occurredAt := "2026-01-02T03:04:05.000+00:00"
  tenantId := "acme"
  actorId := "auditor"
  actorType := "actor"
  requestId := "req_1"
  correlationId := "req_1"
  traceId := ""
  spanId := ""
  action := "login"
  resourceType := "service"
  resourceId := none
  outcome := "allowed"
  reason := "unspecified"
  policyVersion := "audit-v2"
  source := "service"
  detailsJson := "{}"
  retentionClass := "security"
  expiresAt := "2027-01-02T03:04:05.000+00:00"
  legalHold := 0
  integrityHash := ""

/-- A database from before the ledger, with that row in it. -/
def wipedDatabase : Database :=
  { Database.created with
    auditEvents := [wipedRow]
    layout := { Layout.complete with traceId := false, spanId := false } }

theorem wipedRow_tampered : ¬LegacyIntact Empty Settings.standard wipedRow := by
  rintro ⟨event, _, hashed⟩
  obtain ⟨text, _, hash⟩ := Option.map_eq_some_iff.mp hashed
  have length := (Settings.standard.sha256 (asciiBytes text)).isHex.1
  rw [hash] at length
  cases length

theorem wiped_details :
    (readDetails "{}" : Except Failure (Json Empty)) = .ok (.obj []) := by
  unfold readDetails
  rw [show (loads "{}".toList : Except LoadError (Json Empty)) = .ok (.obj []) from rfl]

theorem wiped_accepted :
    ¬UpgradeRefused Empty Settings.standard InitializeDraw.epoch wipedDatabase := by
  rintro (⟨row, member, refused⟩ | noOwner | ledger)
  · rw [List.mem_singleton.mp member] at refused
    unfold DetailsRefused at refused
    change (match (readDetails "{}" : Except Failure (Json Empty)) with
      | .error _ => True
      | .ok value => _) at refused
    rw [wiped_details] at refused
    cases refused
  · exact noOwner ⟨_, rfl⟩
  · exact ledger ⟨_, rfl⟩

theorem tampering_evident_iff_wiped :
    TamperingEvident Empty Settings.standard InitializeDraw.epoch wipedDatabase ↔
      UpgradeRefused Empty Settings.standard InitializeDraw.epoch wipedDatabase ∨
        ∀ row ∈ wipedDatabase.auditEvents, ¬LegacyIntact Empty Settings.standard row →
          Scrambled Empty Settings.standard (widened wipedDatabase.layout row) :=
  tampering_evident_iff rfl (List.nodup_singleton _)

/-- The row passes verification after the upgrade. -/
theorem tampering_not_evident :
    wipedDatabase.schemaMigrations.any (fun row => row.version = 7) = false ∧
      Relational.KeyedBy (·.id) wipedDatabase.auditEvents ∧
      ¬TamperingEvident Empty Settings.standard InitializeDraw.epoch wipedDatabase := by
  refine ⟨rfl, List.nodup_singleton _, ?_⟩
  intro evident
  obtain ⟨⟨value, mapping, read, isMapping, numbered⟩, _⟩ :=
    evident.scrambled rfl wiped_accepted List.mem_cons_self wipedRow_tampered
  change (readDetails "{}" : Except Failure (Json Empty)) = .ok value at read
  rw [wiped_details] at read
  cases read
  cases isMapping
  cases numbered

end FolioLattice.Audit
