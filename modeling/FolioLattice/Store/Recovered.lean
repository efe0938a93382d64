/-
Databases older than the owner and current version columns: the upgrade takes both
from the order of time and id, where the versions themselves name their parents.
-/

import FolioLattice.Store.History

namespace FolioLattice.Store

open FolioLattice.Text FolioLattice.Data FolioLattice.Relational
open FolioLattice.Effects
  (except_bind_ok except_map_ok except_mapM_ok forall₂_mem_left forall₂_mem_right)

/-! ### What the upgrade makes of an artifact -/

/-- The artifact has no owner before the upgrade. -/
def Database.ownerless (db : Database) (artifact : ArtifactRow) : Prop :=
  db.layout.ownerActorId = false ∨ artifact.ownerActorId = none

/-- The row of an artifact before the upgrade and after it. -/
structure UpgradedRow (db : Database) (artifact artifact' : ArtifactRow) : Prop where
  id : artifact'.id = artifact.id
  tenantId : artifact'.tenantId = artifact.tenantId
  owner : db.ownerless artifact → ∃ first,
    (orderBy VersionRow.timeKey (db.history artifact)).head? = some first ∧
      artifact'.ownerActorId = some first.actor
  current : db.layout.currentVersionId = false → artifact'.currentVersionId =
    (orderBy VersionRow.timeKey (db.history artifact)).getLast?.map (·.id)

theorem migrateOwner_ok {db : Database} {artifact artifact' : ArtifactRow}
    (migrated : db.migrateOwner artifact = .ok artifact') :
    artifact'.id = artifact.id ∧ artifact'.tenantId = artifact.tenantId ∧
      (artifact.ownerActorId = none → ∃ first,
        (db.versionsOf artifact.tenantId artifact.id).head? = some first ∧
          artifact'.ownerActorId = some first.actor) := by
  unfold Database.migrateOwner at migrated
  split at migrated
  · rename_i owner owned
    cases migrated
    refine ⟨rfl, rfl, ?_⟩
    intro impossible
    rw [owned] at impossible
    cases impossible
  · split at migrated
    · cases migrated
    · rename_i owner chosen
      cases migrated
      obtain ⟨isFirst, _⟩ := Option.filter_eq_some_iff.mp chosen
      obtain ⟨first, found, same⟩ := Option.map_eq_some_iff.mp isFirst
      exact ⟨rfl, rfl, fun _ => ⟨first, found, by rw [same]⟩⟩

/-- The owner step, row by row. -/
theorem upgradeOwners_ok {db db' : Database} (done : db.upgradeOwners = .ok db') :
    List.Forall₂ (fun artifact artifact' => artifact'.id = artifact.id ∧
        artifact'.tenantId = artifact.tenantId ∧ (db.ownerless artifact → ∃ first,
          (orderBy VersionRow.timeKey (db.history artifact)).head? = some first ∧
            artifact'.ownerActorId = some first.actor)) db.artifacts db'.artifacts ∧
      db'.versions = db.versions ∧ db'.layout.currentVersionId = db.layout.currentVersionId := by
  unfold Database.upgradeOwners at done
  obtain ⟨artifacts, mapped, result⟩ := except_bind_ok done
  cases result
  refine ⟨?_, rfl, rfl⟩
  refine (List.forall₂_map_left_iff.mp (except_mapM_ok mapped)).imp ?_
  intro artifact artifact' migrated
  obtain ⟨sameId, sameTenant, owner⟩ := migrateOwner_ok migrated
  cases column : db.layout.ownerActorId with
  | true =>
      simp only [column, if_true] at sameId sameTenant owner
      refine ⟨sameId, sameTenant, ?_⟩
      rintro (missing | unowned)
      · rw [column] at missing
        cases missing
      · exact owner unowned
  | false =>
      simp only [column, Bool.false_eq_true, if_false] at sameId sameTenant owner
      exact ⟨sameId, sameTenant, fun _ => owner trivial⟩

/-- The current version step, row by row. -/
theorem upgradeCurrentVersions_rows (db : Database) :
    List.Forall₂ (fun artifact artifact' => artifact'.id = artifact.id ∧
        artifact'.tenantId = artifact.tenantId ∧
        artifact'.ownerActorId = artifact.ownerActorId ∧
        (db.layout.currentVersionId = false → artifact'.currentVersionId =
          (orderBy VersionRow.timeKey (db.history artifact)).getLast?.map (·.id)))
      db.artifacts db.upgradeCurrentVersions.artifacts := by
  unfold Database.upgradeCurrentVersions
  split
  · rename_i column
    apply List.forall₂_same.mpr
    intro artifact _
    refine ⟨rfl, rfl, rfl, ?_⟩
    intro missing
    rw [missing] at column
    cases column
  · apply List.forall₂_map_right_iff.mpr
    apply List.forall₂_same.mpr
    intro artifact _
    exact ⟨rfl, rfl, rfl, fun _ => rfl⟩

/-- Rows before the upgrade and rows after it belong together. -/
theorem initializeStore_upgrades {F : Type} [FloatFormat F] {settings : Settings}
    {draw : InitializeDraw} {db db' : Database}
    (initialized : initializeStore F settings draw db = .ok db') :
    (∀ artifact ∈ db.artifacts, ∃ artifact' ∈ db'.artifacts, UpgradedRow db artifact artifact') ∧
      ∀ artifact' ∈ db'.artifacts, ∃ artifact ∈ db.artifacts, UpgradedRow db artifact artifact' := by
  unfold initializeStore at initialized
  obtain ⟨audited, upgraded, initialized⟩ := except_bind_ok initialized
  obtain ⟨sameAudited, auditLayout⟩ := upgradeAudit_ok upgraded
  obtain ⟨owned, ownersDone, initialized⟩ := except_bind_ok initialized
  obtain ⟨sameLedger, _, _⟩ := ensureMigrationLedger_ok initialized
  obtain ⟨owners, sameVersions, sameColumn⟩ := upgradeOwners_ok ownersDone
  have pointers := upgradeCurrentVersions_rows owned
  have artifacts : db'.artifacts = owned.upgradeCurrentVersions.artifacts := sameLedger.artifacts
  have auditedArtifacts : audited.artifacts = db.artifacts := sameAudited.artifacts
  have auditedHistory : ∀ artifact, audited.history artifact = db.history artifact := by
    intro artifact
    unfold Database.history
    rw [sameAudited.versions]
    rfl
  have ownedHistory : ∀ mid artifact : ArtifactRow, mid.id = artifact.id →
      mid.tenantId = artifact.tenantId → owned.history mid = db.history artifact := by
    intro mid artifact sameId sameTenant
    rw [← auditedHistory artifact]
    unfold Database.history ofArtifact
    rw [sameVersions, sameId, sameTenant]
  have column : owned.layout.currentVersionId = db.layout.currentVersionId := by
    rw [sameColumn, auditLayout]
    rfl
  have ownerColumn : audited.layout.ownerActorId = db.layout.ownerActorId := by
    rw [auditLayout]
    rfl
  rw [auditedArtifacts] at owners
  rw [artifacts]
  have joined : ∀ artifact mid artifact' : ArtifactRow,
      (mid.id = artifact.id ∧ mid.tenantId = artifact.tenantId ∧
        (audited.ownerless artifact → ∃ first,
          (orderBy VersionRow.timeKey (audited.history artifact)).head? = some first ∧
            mid.ownerActorId = some first.actor)) →
      (artifact'.id = mid.id ∧ artifact'.tenantId = mid.tenantId ∧
        artifact'.ownerActorId = mid.ownerActorId ∧
        (owned.layout.currentVersionId = false → artifact'.currentVersionId =
          (orderBy VersionRow.timeKey (owned.history mid)).getLast?.map (·.id))) →
      UpgradedRow db artifact artifact' := by
    rintro artifact mid artifact' ⟨midId, midTenant, owner⟩ ⟨sameId, sameTenant, sameOwner, current⟩
    constructor
    · exact sameId.trans midId
    · exact sameTenant.trans midTenant
    · intro ownerless
      rw [sameOwner, ← auditedHistory artifact]
      apply owner
      unfold Database.ownerless at ownerless ⊢
      rw [ownerColumn]
      exact ownerless
    · intro missing
      rw [← ownedHistory mid artifact midId midTenant]
      exact current (column.trans missing)
  constructor
  · intro artifact member
    obtain ⟨mid, midMember, owner⟩ := forall₂_mem_left owners member
    obtain ⟨artifact', member', current⟩ := forall₂_mem_left pointers midMember
    exact ⟨artifact', member', joined artifact mid artifact' owner current⟩
  · intro artifact' member'
    obtain ⟨mid, midMember, current⟩ := forall₂_mem_right pointers member'
    obtain ⟨artifact, member, owner⟩ := forall₂_mem_right owners midMember
    exact ⟨artifact, member, joined artifact mid artifact' owner current⟩

/-! ### Owners and heads -/

/-- What a release without the columns leaves: the versions of the artifact form
one chain whose times do not decrease. -/
structure LegacyChain (db : Database) (artifact : ArtifactRow) (chain : List VersionRow)
    (root head : VersionRow) : Prop extends ParentChain db artifact chain where
  root : chain.head? = some root
  head : chain.getLast? = some head
  nondecreasing : chain.Pairwise (fun a b => a.createdAt ≤ b.createdAt)

/-- The owner is who wrote the root, and the current version is the head. -/
structure OwnerAndHead (db : Database) (artifact artifact' : ArtifactRow) (root head : VersionRow) :
    Prop where
  owner : db.ownerless artifact → artifact'.ownerActorId = some root.actor
  current : db.layout.currentVersionId = false → artifact'.currentVersionId = some head.id

/-- How equal times resolve: of the versions as old as the root, the one with the
least id is by the root's actor; of those as young as the head, the head has the
greatest id. -/
structure TiesResolve (db : Database) (artifact : ArtifactRow) (chain : List VersionRow)
    (root head : VersionRow) : Prop where
  first : db.ownerless artifact → ∃ first ∈ chain, first.createdAt = root.createdAt ∧
    first.actor = root.actor ∧
    ∀ other ∈ chain, other.createdAt = root.createdAt → first.id ≤ other.id
  last : db.layout.currentVersionId = false →
    ∀ other ∈ chain, other.createdAt = head.createdAt → other.id ≤ head.id

theorem timeKey_le_iff {a b : VersionRow} :
    a.timeKey ≤ b.timeKey ↔ a.createdAt < b.createdAt ∨ (a.createdAt = b.createdAt ∧ a.id ≤ b.id) :=
  Prod.Lex.toLex_le_toLex

theorem LegacyChain.root_le {db : Database} {artifact : ArtifactRow} {chain : List VersionRow}
    {root head : VersionRow} (legacy : LegacyChain db artifact chain root head) :
    root ∈ chain ∧ ∀ other ∈ chain, root.createdAt ≤ other.createdAt := by
  have nondecreasing := legacy.nondecreasing
  have isRoot := legacy.root
  cases chain with
  | nil => cases isRoot
  | cons first rest =>
      cases isRoot
      refine ⟨List.mem_cons_self, ?_⟩
      intro other member
      rcases List.mem_cons.mp member with same | later
      · rw [same]
      · exact (List.pairwise_cons.mp nondecreasing).1 other later

theorem LegacyChain.le_head {db : Database} {artifact : ArtifactRow} {chain : List VersionRow}
    {root head : VersionRow} (legacy : LegacyChain db artifact chain root head) :
    head ∈ chain ∧ ∀ other ∈ chain, other.createdAt ≤ head.createdAt := by
  have nondecreasing := legacy.nondecreasing
  have isHead := legacy.head
  rcases List.eq_nil_or_concat chain with nothing | ⟨front, last, same⟩
  · rw [nothing] at isHead
    cases isHead
  · rw [List.concat_eq_append] at same
    subst same
    rw [List.getLast?_concat] at isHead
    obtain rfl := Option.some.inj isHead
    refine ⟨List.mem_append_right _ (List.mem_singleton_self _), ?_⟩
    intro other member
    rcases List.mem_append.mp member with earlier | same
    · exact (List.pairwise_append.mp nondecreasing).2.2 other earlier _
        (List.mem_singleton_self _)
    · rw [List.mem_singleton.mp same]

section Ties

variable {db : Database} {artifact artifact' : ArtifactRow} {chain : List VersionRow}
  {root head : VersionRow}

theorem LegacyChain.mem_iff (legacy : LegacyChain db artifact chain root head)
    {version : VersionRow} : version ∈ chain ↔ version ∈ db.history artifact :=
  legacy.all.mem_iff

/-- The upgrade finds the root's actor exactly when the ties at the root allow. -/
theorem UpgradedRow.owner_iff (row : UpgradedRow db artifact artifact')
    (keyed : KeyedBy (·.id) db.versions) (legacy : LegacyChain db artifact chain root head)
    (ownerless : db.ownerless artifact) :
    artifact'.ownerActorId = some root.actor ↔
      ∃ first ∈ chain, first.createdAt = root.createdAt ∧ first.actor = root.actor ∧
        ∀ other ∈ chain, other.createdAt = root.createdAt → first.id ≤ other.id := by
  obtain ⟨rootMember, rootLeast⟩ := legacy.root_le
  have times : KeyedBy VersionRow.timeKey (db.history artifact) := timeKey_keyedBy (keyed.filter _)
  obtain ⟨chosen, isFirst, owned⟩ := row.owner ownerless
  obtain ⟨chosenMember, chosenLeast⟩ := (orderBy_head?_eq_some_iff times).mp isFirst
  rw [owned, Option.some.injEq]
  constructor
  · intro sameActor
    have early : chosen.createdAt = root.createdAt := by
      apply le_antisymm
      · rcases timeKey_le_iff.mp (chosenLeast root (legacy.mem_iff.mp rootMember)) with earlier | ⟨same, _⟩
        · exact le_of_lt earlier
        · exact le_of_eq same
      · exact rootLeast chosen (legacy.mem_iff.mpr chosenMember)
    refine ⟨chosen, legacy.mem_iff.mpr chosenMember, early, sameActor, ?_⟩
    intro other member sameTime
    rcases timeKey_le_iff.mp (chosenLeast other (legacy.mem_iff.mp member)) with earlier | ⟨_, least⟩
    · rw [early, sameTime] at earlier
      exact absurd earlier (lt_irrefl _)
    · exact least
  · rintro ⟨first, member, early, sameActor, least⟩
    have firstLeast : ∀ other ∈ db.history artifact, first.timeKey ≤ other.timeKey := by
      intro other inside
      apply timeKey_le_iff.mpr
      have later := rootLeast other (legacy.mem_iff.mpr inside)
      rw [← early] at later
      rcases lt_or_eq_of_le later with earlier | same
      · exact Or.inl earlier
      · exact Or.inr ⟨same, least other (legacy.mem_iff.mpr inside) (same.symm.trans early)⟩
    have isFirst' := (orderBy_head?_eq_some_iff times).mpr ⟨legacy.mem_iff.mp member, firstLeast⟩
    rw [isFirst] at isFirst'
    rw [Option.some.inj isFirst', sameActor]

/-- The upgrade finds the head exactly when the ties at the head allow. -/
theorem UpgradedRow.current_iff (row : UpgradedRow db artifact artifact')
    (keyed : KeyedBy (·.id) db.versions) (legacy : LegacyChain db artifact chain root head)
    (missing : db.layout.currentVersionId = false) :
    artifact'.currentVersionId = some head.id ↔
      ∀ other ∈ chain, other.createdAt = head.createdAt → other.id ≤ head.id := by
  obtain ⟨headMember, headGreatest⟩ := legacy.le_head
  have ids : KeyedBy (·.id) (db.history artifact) := keyed.filter _
  have times : KeyedBy VersionRow.timeKey (db.history artifact) := timeKey_keyedBy ids
  have isLast : artifact'.currentVersionId = some head.id ↔
      (orderBy VersionRow.timeKey (db.history artifact)).getLast? = some head := by
    rw [row.current missing, Option.map_eq_some_iff]
    constructor
    · rintro ⟨last, found, sameId⟩
      have member := mem_orderBy.mp (List.mem_of_getLast? found)
      rw [found, ids.eq member (legacy.mem_iff.mp headMember) sameId]
    · intro found
      exact ⟨head, found, rfl⟩
  rw [isLast, orderBy_getLast?_eq_some_iff times]
  constructor
  · rintro ⟨_, greatest⟩ other member sameTime
    rcases timeKey_le_iff.mp (greatest other (legacy.mem_iff.mp member)) with earlier | ⟨_, least⟩
    · rw [sameTime] at earlier
      exact absurd earlier (lt_irrefl _)
    · exact least
  · intro ties
    refine ⟨legacy.mem_iff.mp headMember, ?_⟩
    intro other inside
    apply timeKey_le_iff.mpr
    have member := legacy.mem_iff.mpr inside
    rcases lt_or_eq_of_le (headGreatest other member) with earlier | same
    · exact Or.inl earlier
    · exact Or.inr ⟨same, ties other member same⟩

/-- The upgrade recovers owner and head exactly when equal times resolve in the
order of the chain. -/
theorem initialize_recovers_iff {F : Type} [FloatFormat F] {settings : Settings}
    {draw : InitializeDraw} {db' : Database} (artifactIds : KeyedBy (·.id) db.artifacts)
    (versionIds : KeyedBy (·.id) db.versions) (member : artifact ∈ db.artifacts)
    (legacy : LegacyChain db artifact chain root head)
    (initialized : initializeStore F settings draw db = .ok db') :
    (∀ other ∈ chain, other.parentVersionId ≠ some head.id) ∧
      (∃ artifact' ∈ db'.artifacts, artifact'.id = artifact.id) ∧
      ∀ artifact' ∈ db'.artifacts, artifact'.id = artifact.id →
        (OwnerAndHead db artifact artifact' root head ↔
          TiesResolve db artifact chain root head) := by
  obtain ⟨forth, back⟩ := initializeStore_upgrades initialized
  refine ⟨?_, ?_, ?_⟩
  · have keyed : KeyedBy (·.id) chain :=
      (legacy.all.map _).nodup_iff.mpr (versionIds.filter (ofArtifact artifact))
    exact (legacy.linked.childless keyed legacy.le_head.1).mpr legacy.head
  · obtain ⟨artifact', member', row⟩ := forth artifact member
    exact ⟨artifact', member', row.id⟩
  · intro artifact' member' sameId
    obtain ⟨original, inside, row⟩ := back artifact' member'
    have same : original = artifact :=
      artifactIds.eq inside member (row.id.symm.trans sameId)
    subst same
    constructor
    · intro recovered
      constructor
      · intro ownerless
        exact (row.owner_iff versionIds legacy ownerless).mp (recovered.owner ownerless)
      · intro missing
        exact (row.current_iff versionIds legacy missing).mp (recovered.current missing)
    · intro ties
      constructor
      · intro ownerless
        exact (row.owner_iff versionIds legacy ownerless).mpr (ties.first ownerless)
      · intro missing
        exact (row.current_iff versionIds legacy missing).mpr (ties.last missing)

end Ties

/-- `bob` answers `ann` in the same millisecond with the smaller id. -/
def tiedRoot : VersionRow where
  id := newId "ver" Uuid.one
  tenantId := "t"
  artifactId := "a"
  parentVersionId := none
  blobHash := ""
  mediaType := "text/plain"
  byteSize := 0
  actor := "ann"
  reason := "initial artifact"
  sourceContext := "{}"
  createdAt := Timestamp.epoch.isoformat

def tiedHead : VersionRow :=
  { tiedRoot with
    id := newId "ver" Uuid.nil
    parentVersionId := some (newId "ver" Uuid.one)
    actor := "bob"
    reason := "edit" }

def tiedArtifact : ArtifactRow := ⟨"a", "t", none, "n", "text/plain", none, tiedRoot.createdAt⟩

def tiedDatabase : Database :=
  { Database.created with
    artifacts := [tiedArtifact]
    versions := [tiedRoot, tiedHead]
    layout := ⟨false, false, false, false, false⟩ }

theorem tied_legacyChain :
    LegacyChain tiedDatabase tiedArtifact [tiedRoot, tiedHead] tiedRoot tiedHead where
  linked := ⟨rfl, rfl, trivial⟩
  all := by decide
  root := rfl
  head := rfl
  nondecreasing := by decide

theorem tied_initialized :
    ∃ db', initializeStore Empty Settings.standard InitializeDraw.epoch tiedDatabase = .ok db' ∧
      db'.artifacts = [⟨"a", "t", some "bob", "n", "text/plain", some (newId "ver" Uuid.one),
        tiedRoot.createdAt⟩] := by
  have artifacts : (initializeStore Empty Settings.standard InitializeDraw.epoch
      tiedDatabase).map (·.artifacts) = .ok [⟨"a", "t", some "bob", "n", "text/plain",
        some (newId "ver" Uuid.one), tiedRoot.createdAt⟩] := by
    decide
  exact except_map_ok artifacts

theorem initialize_recovers_iff_tied :
    ∃ db', initializeStore Empty Settings.standard InitializeDraw.epoch tiedDatabase = .ok db' ∧
      (∀ other ∈ [tiedRoot, tiedHead], other.parentVersionId ≠ some tiedHead.id) ∧
      (∃ artifact' ∈ db'.artifacts, artifact'.id = tiedArtifact.id) ∧
      ∀ artifact' ∈ db'.artifacts, artifact'.id = tiedArtifact.id →
        (OwnerAndHead tiedDatabase tiedArtifact artifact' tiedRoot tiedHead ↔
          TiesResolve tiedDatabase tiedArtifact [tiedRoot, tiedHead] tiedRoot tiedHead) := by
  obtain ⟨db', initialized, _⟩ := tied_initialized
  exact ⟨db', initialized, initialize_recovers_iff (by unfold KeyedBy; decide)
    (by unfold KeyedBy; decide) (List.mem_singleton_self _) tied_legacyChain initialized⟩

/-- The upgrade gives the artifact to `bob` and points it to the root. -/
theorem initialize_misplaces_tied :
    LegacyChain tiedDatabase tiedArtifact [tiedRoot, tiedHead] tiedRoot tiedHead ∧
      ∃ db', initializeStore Empty Settings.standard InitializeDraw.epoch tiedDatabase = .ok db' ∧
      ∃ artifact' ∈ db'.artifacts, artifact'.id = tiedArtifact.id ∧
        artifact'.ownerActorId ≠ some tiedRoot.actor ∧
        artifact'.currentVersionId ≠ some tiedHead.id := by
  obtain ⟨db', initialized, artifacts⟩ := tied_initialized
  refine ⟨tied_legacyChain, db', initialized, ?_⟩
  rw [artifacts]
  exact ⟨_, List.mem_singleton_self _, rfl, by decide, by decide⟩

end FolioLattice.Store
