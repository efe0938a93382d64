/-
What `initialize` leaves: a database that it has left once is left as it is the next
time, and a ledger of another release is refused.
-/

import FolioLattice.Store.Recovered

namespace FolioLattice.Store

open FolioLattice.Text FolioLattice.Data FolioLattice.Relational FolioLattice.Audit
open FolioLattice.Effects
  (except_bind_ok except_mapM_ok except_mapM_fixed forall₂_mem_left forall₂_mem_right)

/-! ### The ledger -/

section Ledger

variable {settings : Settings} {now : Nat → Timestamp} {rows rows' : List MigrationRow}
  {migration : Migration}

/-- `SELECT … WHERE version = ?` -/
def ledgerRow (rows : List MigrationRow) (migration : Migration) : Option MigrationRow :=
  rows.find? (fun row => row.version = migration.version)

/-- The row is the one that this release writes for the migration. -/
def MigrationRow.records (settings : Settings) (migration : Migration) (row : MigrationRow) : Prop :=
  row.name = migration.name ∧ row.checksum = migrationChecksum settings migration

def Applied (settings : Settings) (rows : List MigrationRow) (migration : Migration) : Prop :=
  ∃ row, ledgerRow rows migration = some row ∧ row.records settings migration

/-- The ledger has the migrations of this release and no other. -/
structure LedgerSettled (settings : Settings) (rows : List MigrationRow) : Prop where
  known : ∀ row ∈ rows, row.version ∈ schemaMigrations.map (·.version)
  applied : ∀ migration ∈ schemaMigrations, Applied settings rows migration

/-- The ledger of another release: an unknown version, a wrong name or a wrong checksum. -/
inductive ForeignLedger (settings : Settings) (rows : List MigrationRow) : Prop where
  | unknown {row : MigrationRow} (member : row ∈ rows)
      (foreign : row.version ∉ schemaMigrations.map (·.version)) : ForeignLedger settings rows
  | mismatch {migration : Migration} {row : MigrationRow} (own : migration ∈ schemaMigrations)
      (found : ledgerRow rows migration = some row) (foreign : ¬row.records settings migration) :
      ForeignLedger settings rows

theorem ledgerRow_append {added : List MigrationRow} {row : MigrationRow}
    (found : ledgerRow rows migration = some row) :
    ledgerRow (rows ++ added) migration = some row := by
  unfold ledgerRow at found ⊢
  rw [List.find?_append, found]
  rfl

theorem Applied.append {added : List MigrationRow} (applied : Applied settings rows migration) :
    Applied settings (rows ++ added) migration := by
  obtain ⟨row, found, records⟩ := applied
  exact ⟨row, ledgerRow_append found, records⟩

theorem ensureMigration_applied (applied : Applied settings rows migration) :
    ensureMigration settings now migration rows = .ok rows := by
  obtain ⟨row, found, sameName, sameChecksum⟩ := applied
  unfold ledgerRow at found
  unfold ensureMigration
  rw [found]
  dsimp only
  rw [if_neg]
  rintro (name | checksum)
  · exact name sameName
  · exact checksum sameChecksum

theorem ensureMigration_ok (done : ensureMigration settings now migration rows = .ok rows') :
    Applied settings rows' migration ∧
      ∃ added, rows' = rows ++ added ∧ ∀ row ∈ added, row.version = migration.version := by
  unfold ensureMigration at done
  split at done
  · rename_i missing
    obtain ⟨appended, _⟩ := insertUnique_ok done
    constructor
    · rw [appended]
      refine ⟨⟨migration.version, migration.name, migrationChecksum settings migration,
        (now migration.version).isoformat⟩, ?_, rfl, rfl⟩
      unfold ledgerRow
      rw [List.find?_append, missing, Option.none_or]
      exact List.find?_cons_of_pos (decide_eq_true rfl)
    · refine ⟨_, appended, ?_⟩
      intro row member
      rw [List.mem_singleton.mp member]
  · rename_i row found
    split at done
    · cases done
    · rename_i same
      rw [not_or, not_not, not_not] at same
      rw [← Except.ok.inj done]
      refine ⟨⟨row, found, same⟩, [], (List.append_nil _).symm, ?_⟩
      exact fun row member => absurd member List.not_mem_nil

theorem ensureMigrations_applied {migrations : List Migration}
    (applied : ∀ migration ∈ migrations, Applied settings rows migration) :
    ensureMigrations settings now migrations rows = .ok rows := by
  induction migrations with
  | nil => rfl
  | cons migration rest ih =>
      rw [ensureMigrations, ensureMigration_applied (applied migration List.mem_cons_self)]
      exact ih (fun other member => applied other (List.mem_cons_of_mem _ member))

/-- The loop over the migrations only adds rows, and none but theirs. -/
theorem ensureMigrations_ok {migrations : List Migration}
    (done : ensureMigrations settings now migrations rows = .ok rows') :
    (∀ migration ∈ migrations, Applied settings rows' migration) ∧
      ∃ added, rows' = rows ++ added ∧ ∀ row ∈ added, row.version ∈ migrations.map (·.version) := by
  induction migrations generalizing rows with
  | nil =>
      rw [← Except.ok.inj done]
      refine ⟨fun _ member => absurd member List.not_mem_nil, [], (List.append_nil _).symm, ?_⟩
      exact fun _ member => absurd member List.not_mem_nil
  | cons migration rest ih =>
      obtain ⟨mid, one, more⟩ := except_bind_ok done
      obtain ⟨first, new, isMid, ofFirst⟩ := ensureMigration_ok one
      obtain ⟨others, added, isLast, ofRest⟩ := ih more
      constructor
      · intro other member
        rcases List.mem_cons.mp member with same | later
        · rw [same, isLast]
          exact first.append
        · exact others other later
      · refine ⟨new ++ added, by rw [isLast, isMid, List.append_assoc], ?_⟩
        intro row member
        rw [List.map_cons]
        rcases List.mem_append.mp member with inNew | inAdded
        · rw [ofFirst row inNew]
          exact List.mem_cons_self
        · exact List.mem_cons_of_mem _ (ofRest row inAdded)

variable {db db' : Database}

theorem LedgerSettled.fixed (settled : LedgerSettled settings db.schemaMigrations) :
    ensureMigrationLedger settings now db = .ok db := by
  unfold ensureMigrationLedger
  rw [if_neg, ensureMigrations_applied settled.applied]
  · rfl
  · rw [Bool.not_eq_true, List.any_eq_false]
    intro row member unknown
    exact of_decide_eq_true unknown (settled.known row member)

theorem LedgerSettled.has_traceContext (settled : LedgerSettled settings rows) :
    rows.any (fun row => row.version = 7) = true := by
  have own : (⟨7, "audit_trace_context",
      "explicit trace/span IDs and legacy audit hash backfill"⟩ : Migration) ∈ schemaMigrations := by
    simp [schemaMigrations]
  obtain ⟨row, found, _⟩ := settled.applied _ own
  have sameVersion := List.find?_some found
  exact List.any_eq_true.mpr ⟨row, List.mem_of_find?_eq_some found, sameVersion⟩

theorem ensureMigrationLedger_settles (done : ensureMigrationLedger settings now db = .ok db') :
    LedgerSettled settings db'.schemaMigrations ∧
      ∃ added, db'.schemaMigrations = db.schemaMigrations ++ added := by
  unfold ensureMigrationLedger at done
  split at done
  · cases done
  · rename_i known
    rw [Bool.not_eq_true, List.any_eq_false] at known
    obtain ⟨rows, ensured, isDb⟩ := except_bind_ok done
    rw [← Except.ok.inj isDb]
    obtain ⟨applied, added, isRows, ofRelease⟩ := ensureMigrations_ok ensured
    refine ⟨⟨?_, applied⟩, added, isRows⟩
    intro row member
    rw [isRows] at member
    rcases List.mem_append.mp member with old | new
    · have notUnknown := known row old
      rw [decide_eq_true_eq, not_not] at notUnknown
      exact notUnknown
    · exact ofRelease row new

theorem ForeignLedger.refused (foreign : ForeignLedger settings db.schemaMigrations) :
    ensureMigrationLedger settings now db ≠ .ok db' := by
  intro done
  obtain ⟨settled, added, isRows⟩ := ensureMigrationLedger_settles done
  rw [isRows] at settled
  cases foreign with
  | unknown member foreign =>
      exact foreign (settled.known _ (List.mem_append_left _ member))
  | mismatch own found foreign =>
      obtain ⟨row, found', records⟩ := settled.applied _ own
      rw [ledgerRow_append found] at found'
      rw [← Option.some.inj found'] at records
      exact foreign records

end Ledger

/-! ### Grants that are there already -/

section Ignored

variable {α : Type} {clash : α → α → Bool}

theorem insertOrIgnore_spec (self : ∀ row, clash row row = true) (rows : List α) (row : α) :
    (∀ old ∈ rows, old ∈ insertOrIgnore clash rows row) ∧
      ∃ old ∈ insertOrIgnore clash rows row, clash row old = true := by
  unfold insertOrIgnore
  split
  · rename_i present
    exact ⟨fun _ member => member, List.any_eq_true.mp present⟩
  · refine ⟨fun _ member => List.mem_append_left _ member, row, ?_, self row⟩
    exact List.mem_append_right _ List.mem_cons_self

theorem foldl_insertOrIgnore_spec (self : ∀ row, clash row row = true) (new rows : List α) :
    (∀ old ∈ rows, old ∈ new.foldl (insertOrIgnore clash) rows) ∧
      ∀ row ∈ new, ∃ old ∈ new.foldl (insertOrIgnore clash) rows, clash row old = true := by
  induction new generalizing rows with
  | nil => exact ⟨fun _ member => member, fun _ member => absurd member List.not_mem_nil⟩
  | cons first rest ih =>
      obtain ⟨kept, present, isPresent, clashes⟩ := insertOrIgnore_spec self rows first
      obtain ⟨keptAfter, others⟩ := ih (insertOrIgnore clash rows first)
      rw [List.foldl_cons]
      refine ⟨fun old member => keptAfter old (kept old member), ?_⟩
      intro row member
      rcases List.mem_cons.mp member with same | later
      · rw [same]
        exact ⟨present, keptAfter present isPresent, clashes⟩
      · exact others row later

end Ignored

theorem GrantRow.clashes_self (grant : GrantRow) : grant.clashes grant = true := by
  unfold GrantRow.clashes
  rw [Bool.or_eq_true]
  exact Or.inl (decide_eq_true rfl)

theorem mem_ownerGrants {db : Database} {now : String → Action → Timestamp} {grant : GrantRow} :
    grant ∈ db.ownerGrants now ↔ ∃ artifact ∈ db.artifacts, ∃ owner,
      artifact.ownerActorId = some owner ∧ ∃ action ∈ aclActions,
        grant = ownerGrant artifact.tenantId artifact.id owner action (now artifact.id action) := by
  unfold Database.ownerGrants
  rw [List.mem_flatMap]
  constructor
  · rintro ⟨artifact, member, ofArtifact⟩
    cases owned : artifact.ownerActorId with
    | none =>
        rw [owned] at ofArtifact
        exact absurd ofArtifact List.not_mem_nil
    | some owner =>
        rw [owned] at ofArtifact
        obtain ⟨action, known, same⟩ := List.mem_map.mp ofArtifact
        exact ⟨artifact, member, owner, owned, action, known, same.symm⟩
  · rintro ⟨artifact, member, owner, owned, action, known, same⟩
    refine ⟨artifact, member, ?_⟩
    rw [owned, same]
    exact List.mem_map.mpr ⟨action, known, rfl⟩

/-! ### Settled databases -/

/-- The database has all that `initialize` adds. -/
structure Settled (settings : Settings) (db : Database) : Prop where
  layout : db.layout = Layout.complete
  substrings : ∀ chunk ∈ db.chunks, ∃ row ∈ db.chunkSubstringFts, row.chunkId = chunk.id
  owners : ∀ artifact ∈ db.artifacts, artifact.ownerActorId ≠ none
  granted : ∀ now, ∀ grant ∈ db.ownerGrants now, ∃ old ∈ db.aclGrants, grant.clashes old = true
  ledger : LedgerSettled settings db.schemaMigrations

section Fixed

variable {F : Type} [FloatFormat F] {settings : Settings} {draw : InitializeDraw}
  {db db' : Database}

theorem backfillSubstrings_completes (db : Database) : ∀ chunk ∈ db.backfillSubstrings.chunks,
    ∃ row ∈ db.backfillSubstrings.chunkSubstringFts, row.chunkId = chunk.id := by
  intro chunk member
  unfold Database.backfillSubstrings at member ⊢
  dsimp only at member ⊢
  by_cases present : db.chunkSubstringFts.any (fun s => s.chunkId = chunk.id) = true
  · obtain ⟨row, inside, same⟩ := List.any_eq_true.mp present
    exact ⟨row, List.mem_append_left _ inside, of_decide_eq_true same⟩
  · refine ⟨chunk.fts, List.mem_append_right _ (List.mem_map_of_mem ?_), rfl⟩
    rw [Bool.not_eq_true] at present
    rw [List.mem_filter, present]
    exact ⟨member, rfl⟩

theorem migrateOwner_owns {artifact artifact' : ArtifactRow}
    (migrated : db.migrateOwner artifact = .ok artifact') : artifact'.ownerActorId ≠ none := by
  unfold Database.migrateOwner at migrated
  split at migrated
  · rename_i owner owned
    rw [← Except.ok.inj migrated, owned]
    exact Option.some_ne_none owner
  · split at migrated
    · cases migrated
    · rw [← Except.ok.inj migrated]
      exact Option.some_ne_none _

/-- A settled database is left as it is, whatever the clock says. -/
theorem Settled.fixed (settled : Settled settings db) :
    initializeStore F settings draw db = .ok db := by
  have audit : db.upgradeAudit F settings = .ok db := by
    unfold Database.upgradeAudit
    simp only [settled.layout, Layout.complete, if_true, List.map_id']
    rw [if_pos settled.ledger.has_traceContext]
    have sameLayout := settled.layout
    unfold Layout.complete at sameLayout
    rw [← sameLayout]
  have owners : db.upgradeOwners = .ok db := by
    unfold Database.upgradeOwners
    simp only [settled.layout, Layout.complete, if_true, List.map_id']
    rw [except_mapM_fixed (fun artifact member => migrateOwner_owned (settled.owners artifact member))]
    have sameLayout := settled.layout
    unfold Layout.complete at sameLayout
    change Except.ok { db with layout := _ } = _
    rw [← sameLayout]
  have current : db.upgradeCurrentVersions = db := by
    unfold Database.upgradeCurrentVersions
    rw [settled.layout]
    rfl
  have grants : db.restoreOwnerGrants draw.grantAt = db :=
    restoreOwnerGrants_present (settled.granted draw.grantAt)
  have column : { db with layout := { db.layout with revocationReason := true } } = db := by
    have sameLayout := settled.layout
    rw [sameLayout]
    unfold Layout.complete at sameLayout ⊢
    dsimp only
    rw [← sameLayout]
  unfold initializeStore
  simp only [backfillSubstrings_complete settled.substrings, column, audit]
  change (db.upgradeOwners >>= fun owned => ensureMigrationLedger settings draw.ledgerAt
    (owned.upgradeCurrentVersions.restoreOwnerGrants draw.grantAt)) = .ok db
  rw [owners]
  change ensureMigrationLedger settings draw.ledgerAt
    (db.upgradeCurrentVersions.restoreOwnerGrants draw.grantAt) = .ok db
  rw [current, grants]
  exact settled.ledger.fixed

/-- The steps of `initialize`, with what each hands to the next. -/
theorem initializeStore_steps (done : initializeStore F settings draw db = .ok db') :
    ∃ audited owned,
      ({ db.backfillSubstrings with
        layout := { db.layout with revocationReason := true } } : Database).upgradeAudit F settings =
          .ok audited ∧
      audited.upgradeOwners = .ok owned ∧
      ensureMigrationLedger settings draw.ledgerAt
        (owned.upgradeCurrentVersions.restoreOwnerGrants draw.grantAt) = .ok db' := by
  unfold initializeStore at done
  obtain ⟨audited, upgraded, done⟩ := except_bind_ok done
  obtain ⟨owned, ownersDone, done⟩ := except_bind_ok done
  exact ⟨audited, owned, upgraded, ownersDone, done⟩

theorem upgradeAudit_ledger (done : db.upgradeAudit F settings = .ok db') :
    db'.schemaMigrations = db.schemaMigrations := by
  unfold Database.upgradeAudit at done
  simp only at done
  split at done
  · rw [← Except.ok.inj done]
  · obtain ⟨events, _, isDb⟩ := except_bind_ok done
    rw [← Except.ok.inj isDb]

/-- What the owner step leaves besides the artifacts. -/
theorem upgradeOwners_owns (done : db.upgradeOwners = .ok db') :
    (∀ artifact ∈ db'.artifacts, artifact.ownerActorId ≠ none) ∧ db'.chunks = db.chunks ∧
      db'.chunkSubstringFts = db.chunkSubstringFts ∧
      db'.schemaMigrations = db.schemaMigrations ∧
      db'.layout = { db.layout with ownerActorId := true } := by
  unfold Database.upgradeOwners at done
  obtain ⟨artifacts, mapped, isDb⟩ := except_bind_ok done
  rw [← Except.ok.inj isDb]
  refine ⟨?_, rfl, rfl, rfl, rfl⟩
  intro artifact member
  obtain ⟨old, _, migrated⟩ := forall₂_mem_right (except_mapM_ok mapped) member
  exact migrateOwner_owns migrated

theorem upgradeCurrentVersions_owns (owners : ∀ artifact ∈ db.artifacts, artifact.ownerActorId ≠ none) :
    (∀ artifact ∈ db.upgradeCurrentVersions.artifacts, artifact.ownerActorId ≠ none) ∧
      db.upgradeCurrentVersions.chunks = db.chunks ∧
      db.upgradeCurrentVersions.chunkSubstringFts = db.chunkSubstringFts ∧
      db.upgradeCurrentVersions.schemaMigrations = db.schemaMigrations ∧
      db.upgradeCurrentVersions.layout = { db.layout with currentVersionId := true } := by
  unfold Database.upgradeCurrentVersions
  split
  · rename_i column
    refine ⟨owners, rfl, rfl, rfl, ?_⟩
    rw [← column]
  · refine ⟨?_, rfl, rfl, rfl, rfl⟩
    intro artifact member
    obtain ⟨old, inside, same⟩ := List.mem_map.mp member
    rw [← same]
    exact owners old inside

theorem restoreOwnerGrants_grants (db : Database) (now now' : String → Action → Timestamp) :
    ∀ grant ∈ (db.restoreOwnerGrants now).ownerGrants now',
      ∃ old ∈ (db.restoreOwnerGrants now).aclGrants, grant.clashes old = true := by
  intro grant member
  have present := (foldl_insertOrIgnore_spec GrantRow.clashes_self (db.ownerGrants now)
    db.aclGrants).2
  obtain ⟨artifact, inside, owner, owned, action, known, same⟩ := mem_ownerGrants.mp member
  obtain ⟨old, isOld, clashes⟩ := present _
    (mem_ownerGrants.mpr ⟨artifact, inside, owner, owned, action, known, rfl⟩)
  refine ⟨old, isOld, ?_⟩
  rw [same]
  exact clashes

/-- From any layout: what a first run leaves is settled. -/
theorem initializeStore_settles (done : initializeStore F settings draw db = .ok db') :
    Settled settings db' := by
  obtain ⟨audited, owned, upgraded, ownersDone, ledgerDone⟩ := initializeStore_steps done
  obtain ⟨sameAudited, auditLayout⟩ := upgradeAudit_ok upgraded
  obtain ⟨owners, ownedChunks, ownedSubstrings, _, ownedLayout⟩ := upgradeOwners_owns ownersDone
  obtain ⟨currentOwners, currentChunks, currentSubstrings, _, currentLayout⟩ :=
    upgradeCurrentVersions_owns owners
  obtain ⟨sameLedger, ledgerLayout, _⟩ := ensureMigrationLedger_ok ledgerDone
  have chunks : db'.chunks = db.backfillSubstrings.chunks := by
    rw [sameLedger.chunks]
    exact currentChunks.trans (ownedChunks.trans sameAudited.chunks)
  have substrings : db'.chunkSubstringFts = db.backfillSubstrings.chunkSubstringFts := by
    rw [sameLedger.chunkSubstringFts]
    exact currentSubstrings.trans (ownedSubstrings.trans sameAudited.chunkSubstringFts)
  constructor
  · rw [ledgerLayout]
    change owned.upgradeCurrentVersions.layout = Layout.complete
    rw [currentLayout, ownedLayout, auditLayout]
    rfl
  · rw [chunks, substrings]
    exact backfillSubstrings_completes db
  · rw [sameLedger.artifacts]
    exact currentOwners
  · intro now grant member
    have sameGrants : db'.ownerGrants now =
        (owned.upgradeCurrentVersions.restoreOwnerGrants draw.grantAt).ownerGrants now := by
      unfold Database.ownerGrants
      rw [sameLedger.artifacts]
    rw [sameGrants] at member
    rw [sameLedger.aclGrants]
    exact restoreOwnerGrants_grants _ _ now grant member
  · exact (ensureMigrationLedger_settles ledgerDone).1

/-! ### Refusals -/

/-- An artifact that has no owner, nor a first version that names one. -/
def Ownerless (db : Database) : Prop :=
  ∃ artifact ∈ db.artifacts, db.ownerless artifact ∧
    ∀ first, (db.versionsOf artifact.tenantId artifact.id).head? = some first → first.actor = ""

theorem upgradeOwners_refused (ownerless : Ownerless db) : db.upgradeOwners ≠ .ok db' := by
  intro done
  obtain ⟨artifact, member, missing, anonymous⟩ := ownerless
  unfold Database.upgradeOwners at done
  obtain ⟨artifacts, mapped, _⟩ := except_bind_ok done
  obtain ⟨artifact', _, migrated⟩ :=
    forall₂_mem_left (List.forall₂_map_left_iff.mp (except_mapM_ok mapped)) member
  have asMissing : (if db.layout.ownerActorId then artifact
      else { artifact with ownerActorId := none }) = { artifact with ownerActorId := none } := by
    rcases missing with noColumn | isNull
    · rw [noColumn]
      rfl
    · rw [← isNull]
      exact ite_self _
  rw [asMissing] at migrated
  unfold Database.migrateOwner at migrated
  dsimp only at migrated
  split at migrated
  · cases migrated
  · rename_i owner chosen
    obtain ⟨isFirst, named⟩ := Option.filter_eq_some_iff.mp chosen
    obtain ⟨first, found, same⟩ := Option.map_eq_some_iff.mp isFirst
    rw [← same, anonymous first found] at named
    cases named

/-- A ledger of another release, or an artifact that no one owns, stops the start. -/
theorem initializeStore_refused (refused : ForeignLedger settings db.schemaMigrations ∨ Ownerless db) :
    initializeStore F settings draw db ≠ .ok db' := by
  intro done
  obtain ⟨audited, owned, upgraded, ownersDone, ledgerDone⟩ := initializeStore_steps done
  obtain ⟨sameAudited, auditLayout⟩ := upgradeAudit_ok upgraded
  have sameLedger : audited.schemaMigrations = db.schemaMigrations := by
    have same := upgradeAudit_ledger upgraded
    exact same
  rcases refused with foreign | ownerless
  · have atLast : (owned.upgradeCurrentVersions.restoreOwnerGrants draw.grantAt).schemaMigrations =
        db.schemaMigrations := by
      obtain ⟨owners, _, _, ownedLedger, _⟩ := upgradeOwners_owns ownersDone
      exact (upgradeCurrentVersions_owns owners).2.2.2.1.trans (ownedLedger.trans sameLedger)
    rw [← atLast] at foreign
    exact foreign.refused ledgerDone
  · obtain ⟨artifact, member, missing, anonymous⟩ := ownerless
    refine upgradeOwners_refused ⟨artifact, ?_, ?_, ?_⟩ ownersDone
    · rw [sameAudited.artifacts]
      exact member
    · unfold Database.ownerless at missing ⊢
      rw [auditLayout]
      exact missing
    · unfold Database.versionsOf
      rw [sameAudited.versions]
      exact anonymous

end Fixed

end FolioLattice.Store
