/-
A failed upgrade or rollback leaves the deployment as it was, unless it says that
it could not.
-/

import FolioLattice.Deployment.Upgrade

namespace FolioLattice.Deployment

open FolioLattice.Data FolioLattice.Effects

variable {F File Tree Rows : Type}

/-! ### What a switch puts in place -/

theorem operate_triple {P Q : SwitchState File Tree → Prop} {faults : SwitchFaults} {op : SwitchOp}
    (moved : ∀ s s', P s → perform op s = some s' → Q s') :
    Triple P (operate faults op) (fun _ => Q) (fun _ _ => True) := by
  apply Triple.attempt
  · intro s s' holds changed
    cases fails : faults op with
    | true =>
        rw [fails] at changed
        cases changed
    | false =>
        rw [fails] at changed
        exact moved s s' holds changed
  · exact fun _ _ _ => trivial

/-- The staged files are where they were, and the sidecars in `gone` are not. -/
def Waiting (disk : Disk File Tree) (gone : List Suffix) (s : SwitchState File Tree) : Prop :=
  s.disk.stagedDb = disk.stagedDb ∧ s.disk.stagedBlobs = disk.stagedBlobs ∧
    ∀ suffix ∈ gone, s.disk.sidecar suffix = none

theorem moveSidecar_waiting {disk : Disk File Tree} {faults : SwitchFaults} {gone : List Suffix}
    (suffix : Suffix) :
    Triple (Waiting disk gone) (moveSidecar faults suffix)
      (fun _ => Waiting disk (suffix :: gone)) (fun _ _ => True) := by
  apply Triple.when
  · refine Triple.bind (R := fun _ => Waiting disk gone) ?_ (fun _ => operate_triple ?_)
    · refine operate_triple ?_
      rintro s s' ⟨waiting, _⟩ changed
      cases changed
      exact waiting
    · rintro s s' ⟨db, blobs, none⟩ changed
      obtain ⟨file, _, rfl⟩ := Option.map_eq_some_iff.mp changed
      refine ⟨db, blobs, ?_⟩
      intro other member
      by_cases same : other = suffix
      · simp [Disk.setSidecar, Disk.setOldSidecar, same]
      · rcases List.mem_cons.mp member with isSuffix | earlier
        · exact absurd isSuffix same
        · simp [Disk.setSidecar, Disk.setOldSidecar, same, none other earlier]
  · rintro s ⟨db, blobs, none⟩ missing
    refine ⟨db, blobs, ?_⟩
    intro other member
    rcases List.mem_cons.mp member with rfl | earlier
    · exact Option.isNone_iff_eq_none.mp (by simpa using missing)
    · exact none other earlier

/-- The staged files are live, with nothing beside the database. -/
structure Replaced (disk disk' : Disk File Tree) : Prop where
  db : disk'.db = disk.stagedDb
  sidecar : ∀ suffix, disk'.sidecar suffix = none
  blobs : disk'.blobRoot = disk.stagedBlobs

theorem moves_replace {disk : Disk File Tree} {faults : SwitchFaults} :
    Triple (Waiting disk []) (moves faults) (fun _ s => Replaced disk s.disk) (fun _ _ => True) := by
  have sidecars : Triple (Waiting disk []) (suffixes.forM (moveSidecar faults))
      (fun _ => Waiting disk [.shm, .wal]) (fun _ _ => True) :=
    (moveSidecar_waiting .wal).bind (fun _ => (moveSidecar_waiting .shm).bind
      (fun _ => Triple.pure (fun _ => id)))
  refine sidecars.bind (fun _ => ?_)
  refine Triple.bind (R := fun _ => Waiting disk [.shm, .wal]) (operate_triple ?_) (fun _ => ?_)
  · rintro s s' waiting changed
    obtain ⟨file, _, rfl⟩ := Option.map_eq_some_iff.mp changed
    exact waiting
  refine Triple.bind (R := fun _ s => s.disk.db = disk.stagedDb ∧
      s.disk.stagedBlobs = disk.stagedBlobs ∧ ∀ suffix ∈ [Suffix.shm, .wal], s.disk.sidecar suffix = none)
    (operate_triple ?_) (fun _ => ?_)
  · rintro s s' ⟨db, blobs, none⟩ changed
    obtain ⟨file, isStaged, rfl⟩ := Option.map_eq_some_iff.mp changed
    exact ⟨isStaged.symm.trans db, blobs, none⟩
  refine Triple.bind (R := fun _ s => s.disk.db = disk.stagedDb ∧
      s.disk.stagedBlobs = disk.stagedBlobs ∧ ∀ suffix ∈ [Suffix.shm, .wal], s.disk.sidecar suffix = none)
    (operate_triple ?_) (fun _ => operate_triple ?_)
  · rintro s s' holds changed
    obtain ⟨tree, _, rfl⟩ := Option.map_eq_some_iff.mp changed
    exact holds
  · rintro s s' ⟨db, blobs, none⟩ changed
    simp only [perform] at changed
    split at changed
    · cases changed
    · obtain ⟨tree, isStaged, rfl⟩ := Option.map_eq_some_iff.mp changed
      refine ⟨db, ?_, isStaged.symm.trans blobs⟩
      intro suffix
      exact none suffix (by cases suffix <;> decide)

/-- A switch that returns has put the staged files in place. -/
theorem replaceLive_replaces {disk : Disk File Tree} {faults : SwitchFaults} :
    Triple (fun s => s = .start disk) (replaceLive faults) (fun _ s => Replaced disk s.disk)
      (fun _ _ => True) := by
  have named : Triple (fun s => s = .start disk) (nameOldPaths faults)
      (fun _ => Waiting disk []) (fun _ _ => True) := by
    refine Triple.bind (R := fun _ s => s = .start disk) (operate_triple ?_)
      (fun _ => operate_triple ?_)
    · rintro s s' rfl changed
      exact (Option.some.inj changed).symm
    · rintro s s' rfl changed
      rw [← Option.some.inj changed]
      exact ⟨rfl, rfl, fun _ impossible => by cases impossible⟩
  refine named.bind (fun _ => Triple.ensure (moves_replace.rescue (fun _ =>
    (Triple.any _).bind (fun _ => Triple.fail (fun _ _ => trivial)))) (fun _ => ?_) (fun _ => ?_))
  · exact Triple.modify (fun s replaced => ⟨replaced.db, replaced.sidecar, replaced.blobs⟩)
  · exact Triple.any _

/-! ### What is kept -/

section Kept

variable (engine : Engine File Tree Rows)

/-- The live rows, the live tree and the state file are the same. -/
structure Kept (world world' : World F File Tree) : Prop where
  rows : engine.rows world'.disk.database = engine.rows world.disk.database
  blobs : world'.disk.blobRoot = world.disk.blobRoot
  state : world'.state = world.state

/-- A snapshot holds the rows and the tree, and the state file is the same. -/
structure Saved (world : World F File Tree) (path : PyStr) (world' : World F File Tree) : Prop where
  db : ∀ copy, (world'.snapshots path).bind (·.db) = some copy →
    engine.rows ⟨some copy, fun _ => none⟩ = engine.rows world.disk.database
  stored : ((world'.snapshots path).bind (·.db)).isSome = true
  blobs : (world'.snapshots path).bind (·.blobs) = world.disk.blobRoot
  state : world'.state = world.state

variable {engine}

theorem Kept.refl (world : World F File Tree) : Kept engine world world := ⟨rfl, rfl, rfl⟩

theorem Kept.opened {world world' : World F File Tree} (kept : Kept engine world world') :
    Kept engine world (world'.openDatabase engine) :=
  ⟨(engine.rows_opened _).trans kept.rows, kept.blobs, kept.state⟩

theorem Saved.opened {world world' : World F File Tree} {path : PyStr}
    (saved : Saved engine world path world') : Saved engine world path (world'.openDatabase engine) :=
  ⟨saved.db, saved.stored, saved.blobs, saved.state⟩

/-! ### One triple for each part -/

variable {P : World F File Tree → Prop} {faults : Faults}

theorem raiseIf_triple {fails : Bool} {error : UpgradeError}
    {E : UpgradeError → World F File Tree → Prop} (failed : ∀ world, P world → E error world) :
    Triple P (raiseIf fails error) (fun _ => P) E := by
  apply Triple.attempt
  · intro world world' holds changed
    cases fails with
    | true => cases changed
    | false => exact Option.some.inj changed ▸ holds
  · exact fun world holds _ => failed world holds

theorem result_triple {α : Type} {read : World F File Tree → Except UpgradeError α}
    {E : UpgradeError → World F File Tree → Prop} (failed : ∀ error world, P world → E error world) :
    Triple P (.result read) (fun _ => P) E :=
  Triple.result (fun _ _ holds _ => holds) (fun world error holds _ => failed error world holds)

theorem inspectLive_triple (opened : ∀ world, P world → P (world.openDatabase engine)) :
    Triple P (inspectLive engine faults) (fun _ => P) (fun _ => P) := by
  refine Triple.bind (R := fun _ => P) (Triple.when ?_ (fun _ holds _ => holds))
    (fun _ => result_triple (fun _ _ => id))
  exact Triple.modify (fun world holds => opened world holds.1)

theorem snapshotParts_triple {world : World F File Tree} {version : PyStr} :
    Triple (Kept engine world) (snapshotParts engine faults version)
      (fun parts world' => Kept engine world world' ∧
        (∃ copy, parts.db = some copy ∧
          engine.rows ⟨some copy, fun _ => none⟩ = engine.rows world.disk.database) ∧
        parts.blobs = world.disk.blobRoot)
      (fun _ => Kept engine world) := by
  refine (raiseIf_triple (E := fun _ => Kept engine world) (fun _ => id)).bind (fun _ => ?_)
  refine (Triple.modify (Q := fun _ => Kept engine world) (fun _ kept => kept.opened)).bind
    (fun _ => ?_)
  refine (raiseIf_triple (E := fun _ => Kept engine world) (fun _ => id)).bind (fun _ => ?_)
  refine Triple.bind (R := fun copy world' => Kept engine world world' ∧
    engine.rows ⟨some copy, fun _ => none⟩ = engine.rows world.disk.database) ?_ (fun copy => ?_)
  · apply Triple.result
    · intro world' copy kept isCopy
      cases backup : engine.backup world'.disk.database with
      | none =>
          rw [backup] at isCopy
          cases isCopy
      | some found =>
          rw [backup] at isCopy
          cases isCopy
          exact ⟨kept, (engine.rows_backup _ _ backup).trans kept.rows⟩
    · exact fun _ _ kept _ => kept
  refine (raiseIf_triple (E := fun _ => Kept engine world) (fun _ holds => holds.1)).bind (fun _ => ?_)
  refine Triple.bind (R := fun tree world' => (Kept engine world world' ∧
    engine.rows ⟨some copy, fun _ => none⟩ = engine.rows world.disk.database) ∧
    some tree = world.disk.blobRoot) ?_ (fun tree => ?_)
  · apply Triple.result
    · intro world' tree holds isTree
      refine ⟨holds, ?_⟩
      cases found : world'.disk.blobRoot with
      | none =>
          rw [found] at isTree
          cases isTree
      | some live =>
          rw [found] at isTree
          cases isTree
          exact found.symm.trans holds.1.blobs
    · exact fun _ _ holds _ => holds.1
  refine (result_triple (E := fun _ => Kept engine world) (fun _ _ holds => holds.1.1)).bind (fun _ => ?_)
  refine (raiseIf_triple (E := fun _ => Kept engine world) (fun _ holds => holds.1.1)).bind (fun _ => Triple.pure ?_)
  exact fun world' holds => ⟨holds.1.1, ⟨copy, rfl, holds.1.2⟩, holds.2⟩

theorem snapshot_triple {world : World F File Tree} {version path : PyStr} :
    Triple (Kept engine world) (snapshot engine faults version path)
      (fun _ world' => Kept engine world world' ∧ Saved engine world path world')
      (fun _ => Kept engine world) := by
  refine (raiseIf_triple (E := fun _ => Kept engine world) (fun _ => id)).bind (fun _ => snapshotParts_triple.bind (fun parts => ?_))
  apply Triple.attempt
  · rintro world' after ⟨kept, ⟨copy, isDb, rows⟩, blobs⟩ changed
    split at changed
    · cases changed
    · cases changed
      have placed : Function.update world'.snapshots path (some parts) path = some parts :=
        Function.update_self ..
      refine ⟨⟨kept.rows, kept.blobs, kept.state⟩, ⟨?_, ?_, ?_, kept.state⟩⟩
      · intro other isOther
        simp only [placed, Option.bind_some, isDb] at isOther
        rw [← Option.some.inj isOther]
        exact rows
      · simp only [placed, Option.bind_some, isDb, Option.isSome_some]
      · simp only [placed, Option.bind_some, blobs]
  · exact fun _ holds _ => holds.1

/-- Staging writes to the staged places only, and what it leaves there is the snapshot. -/
theorem stageSnapshot_triple [FloatFormat F] {path : PyStr}
    (staged : ∀ world db blobs, P world → P { world with disk := world.disk.stage db blobs }) :
    Triple P (stageSnapshot engine faults path)
      (fun _ world => P world ∧ world.disk.stagedDb = (world.snapshots path).bind (·.db) ∧
        world.disk.stagedBlobs = (world.snapshots path).bind (·.blobs))
      (fun _ => P) := by
  have parts : Triple P (stageParts engine faults path)
      (fun _ world => P world ∧ world.disk.stagedDb = (world.snapshots path).bind (·.db) ∧
        world.disk.stagedBlobs = (world.snapshots path).bind (·.blobs))
      (fun _ => P) := by
    refine (result_triple (E := fun _ => P) (fun _ _ => id)).bind (fun manifest => ?_)
    refine (raiseIf_triple (E := fun _ => P) (fun _ => id)).bind (fun _ => ?_)
    refine (raiseIf_triple (E := fun _ => P) (fun _ => id)).bind (fun _ => ?_)
    refine Triple.bind (R := fun _ world => P world ∧
      world.disk.stagedDb = (world.snapshots path).bind (·.db)) (Triple.attempt ?_ ?_) (fun _ => ?_)
    · intro world world' holds changed
      split at changed
      · cases changed
      · rename_i db found
        split at changed
        · cases changed
        · cases changed
          exact ⟨staged world _ _ holds, found.symm⟩
    · exact fun _ holds _ => holds
    refine Triple.bind (R := fun _ world => P world ∧
      world.disk.stagedDb = (world.snapshots path).bind (·.db) ∧
      world.disk.stagedBlobs = (world.snapshots path).bind (·.blobs)) (Triple.attempt ?_ ?_) (fun _ => ?_)
    · rintro world world' ⟨holds, isDb⟩ changed
      split at changed
      · cases changed
      · rename_i blobs found
        split at changed
        · cases changed
        · cases changed
          exact ⟨staged world _ _ holds, isDb, found.symm⟩
    · exact fun _ holds _ => holds.1
    refine (result_triple (E := fun _ => P) (fun _ _ holds => holds.1)).bind (fun actual => ?_)
    split
    · exact Triple.pure (fun _ => id)
    · exact Triple.fail (fun _ holds => holds.1)
  refine parts.rescue (fun error => ?_)
  refine (Triple.modify (Q := fun _ => P) (fun world holds => staged world none none holds)).bind
    (fun _ => Triple.fail (fun _ => id))

theorem switchLive_saved {world : World F File Tree} {path : PyStr} :
    Triple (Saved engine world path) (switchLive faults) (fun _ => Saved engine world path)
      (fun _ => Saved engine world path) := by
  apply Triple.zoom
  intro world' saved
  have still : ∀ disk, Saved engine world path { world' with disk := disk } :=
    fun _ => ⟨saved.db, saved.stored, saved.blobs, saved.state⟩
  have ended := Triple.any (P := fun _ => True) (replaceLive faults.switch) (.start world'.disk) trivial
  revert ended
  unfold Ends
  split
  · exact fun _ => still _
  · exact fun _ => still _

theorem restoreSnapshot_triple [FloatFormat F] {world : World F File Tree} {path : PyStr} :
    Triple (Saved engine world path) (restoreSnapshot engine faults path)
      (fun _ => Kept engine world) (fun _ _ => True) := by
  have stage : Triple (Saved engine world path) (stageSnapshot engine faults path)
      (fun _ world' => Saved engine world path world' ∧
        world'.disk.stagedDb = (world'.snapshots path).bind (·.db) ∧
        world'.disk.stagedBlobs = (world'.snapshots path).bind (·.blobs))
      (fun _ => Saved engine world path) := stageSnapshot_triple
    (fun _ _ _ saved => ⟨saved.db, saved.stored, saved.blobs, saved.state⟩)
  refine (stage.weaken (fun _ => id) (fun _ _ => id) (fun _ _ _ => trivial)).bind (fun _ => ?_)
  refine Triple.bind (R := fun _ => Kept engine world) ?_ (fun _ => ?_)
  · apply Triple.zoom
    rintro world' ⟨saved, isDb, isTree⟩
    refine replaceLive_replaces.weaken (fun _ => id) ?_ (fun _ _ _ => trivial) _ rfl
    intro _ s replaced
    refine ⟨?_, replaced.blobs.trans (isTree.trans saved.blobs), saved.state⟩
    obtain ⟨copy, isCopy⟩ := Option.isSome_iff_exists.mp saved.stored
    have live : s.disk.database = ⟨some copy, fun _ => none⟩ := by
      unfold Disk.database
      rw [replaced.db, isDb, isCopy, funext replaced.sidecar]
    change engine.rows s.disk.database = _
    rw [live]
    exact saved.db copy isCopy
  · refine (inspectLive_triple (P := Kept engine world) (fun _ kept => kept.opened)).weaken
      (fun _ => id) (fun _ _ => id) (fun _ _ _ => trivial) |>.bind (fun _ => Triple.pure (fun _ => id))

theorem runMigration_triple {world : World F File Tree} {path : PyStr}
    {migrate : Migration File Tree} :
    Triple (Saved engine world path) (runMigration migrate) (fun _ => Saved engine world path)
      (fun _ => Saved engine world path) := by
  intro world' saved
  have after : Saved engine world path (world'.migrated migrate) :=
    ⟨saved.db, saved.stored, saved.blobs, saved.state⟩
  unfold runMigration
  split
  · exact after
  · exact after

theorem writeState_triple {value : Json F} :
    Triple P (writeState faults value) (fun _ _ => True) (fun _ => P) := by
  refine (raiseIf_triple (E := fun _ => P) (fun _ => id)).bind (fun _ => Triple.attempt ?_ ?_)
  · exact fun _ _ _ _ => trivial
  · exact fun _ holds _ => holds

/-- A `DeploymentError`, unless it is the hopeless one, leaves all as it was. -/
def Reports (engine : Engine File Tree Rows) (world : World F File Tree) (hopeless : String) :
    UpgradeError → World F File Tree → Prop
  | .deployment message, world' => message ≠ hopeless → Kept engine world world'
  | .other, _ => True

theorem Reports.of_kept {world world' : World F File Tree} {hopeless : String}
    (kept : Kept engine world world') (error : UpgradeError) :
    Reports engine world hopeless error world' := by
  cases error with
  | deployment message => exact fun _ => kept
  | other => trivial

theorem transactionalUpgrade_reports [FloatFormat F] (faults : Phase → Faults)
    (migrate : Migration File Tree) (current target path now : PyStr) (world : World F File Tree) :
    Triple (· = world) (transactionalUpgrade engine faults migrate current target path now)
      (fun _ _ => True)
      (Reports engine world "upgrade failed and rollback verification failed") := by
  have kept : Triple (Kept engine world)
      (transactionalUpgrade engine faults migrate current target path now) (fun _ _ => True)
      (Reports engine world "upgrade failed and rollback verification failed") := by
    refine (raiseIf_triple (fun _ kept => .of_kept kept _)).bind (fun _ => ?_)
    refine (raiseIf_triple (fun _ kept => .of_kept kept _)).bind (fun _ => ?_)
    refine (raiseIf_triple (fun _ kept => .of_kept kept _)).bind (fun _ => ?_)
    refine (result_triple (fun error _ kept => .of_kept kept error)).bind (fun _ => ?_)
    refine ((inspectLive_triple (fun _ kept => kept.opened)).weaken (fun _ => id) (fun _ _ => id)
      (fun error _ kept => .of_kept kept error)).bind (fun before => ?_)
    refine (snapshot_triple.weaken (fun _ => id) (fun _ _ holds => holds.2)
      (fun error _ kept => .of_kept kept error)).bind (fun _ => ?_)
    refine Triple.rescue (E := fun _ => Saved engine world path) ?_ (fun _ => ?_)
    · refine runMigration_triple.bind (fun _ => ?_)
      refine (inspectLive_triple (fun _ saved => saved.opened)).bind (fun after => ?_)
      exact writeState_triple.bind (fun _ => Triple.pure (fun _ => id))
    · refine Triple.bind (R := fun _ => Kept engine world) (Triple.rescue (E := fun _ _ => True) ?_
        (fun _ => Triple.fail (fun _ _ other => absurd rfl other))) (fun _ => Triple.fail ?_)
      · refine restoreSnapshot_triple.bind (fun _ => ?_)
        exact ((inspectLive_triple (fun _ kept => kept.opened)).weaken (fun _ => id) (fun _ _ => id)
          (fun _ _ _ => trivial)).bind (fun _ => Triple.pure (fun _ => id))
      · exact fun _ kept => .of_kept kept _
  refine kept.pre ?_
  rintro _ rfl
  exact Kept.refl _

theorem rollbackDeployment_reports [FloatFormat F] (faults : Phase → Faults)
    (source target now : PyStr) (path : PyStr → PyStr) (world : World F File Tree) :
    Triple (· = world) (rollbackDeployment engine faults source target now path)
      (fun _ _ => True)
      (Reports engine world "rollback failed and recovery verification failed") := by
  have kept : Triple (Kept engine world)
      (rollbackDeployment engine faults source target now path) (fun _ _ => True)
      (Reports engine world "rollback failed and recovery verification failed") := by
    refine (raiseIf_triple (fun _ kept => .of_kept kept _)).bind (fun _ => ?_)
    refine (result_triple (fun error _ kept => .of_kept kept error)).bind (fun current => ?_)
    refine (result_triple (fun error _ kept => .of_kept kept error)).bind (fun manifest => ?_)
    refine (raiseIf_triple (fun _ kept => .of_kept kept _)).bind (fun _ => ?_)
    refine ((stageSnapshot_triple (P := Kept engine world)
      (fun _ _ _ kept => ⟨kept.rows, kept.blobs, kept.state⟩)).weaken (fun _ => id)
      (fun _ _ holds => holds.1) (fun error _ kept => .of_kept kept error)).bind (fun _ => ?_)
    refine (snapshot_triple.weaken (fun _ => id) (fun _ _ holds => holds.2)
      (fun error _ kept => .of_kept kept error)).bind (fun _ => ?_)
    refine Triple.rescue (E := fun _ => Saved engine world (path current)) ?_ (fun _ => ?_)
    · refine switchLive_saved.bind (fun _ => ?_)
      refine (inspectLive_triple (fun _ saved => saved.opened)).bind (fun after => ?_)
      exact writeState_triple.bind (fun _ => Triple.pure (fun _ => id))
    · refine Triple.bind (R := fun _ => Kept engine world) (Triple.rescue restoreSnapshot_triple
        (fun _ => Triple.fail (fun _ _ other => absurd rfl other))) (fun _ => Triple.fail ?_)
      exact fun _ kept => .of_kept kept _
  refine kept.pre ?_
  rintro _ rfl
  exact Kept.refl _

/-- Whatever fails and whatever the migration does: when an upgrade or a rollback
raises a `DeploymentError` that does not say its own recovery could not be verified,
the live rows, the live tree and the state file are those from before the call. -/
theorem failure_keeps_deployment [FloatFormat F] (engine : Engine File Tree Rows)
    (faults : Phase → Faults) (world : World F File Tree) (target now : PyStr) :
    (∀ migrate current path message,
      (transactionalUpgrade engine faults migrate current target path now world).1 =
          .error (.deployment message) →
        message ≠ "upgrade failed and rollback verification failed" →
        Kept engine world
          (transactionalUpgrade engine faults migrate current target path now world).2) ∧
    ∀ source path message,
      (rollbackDeployment engine faults source target now path world).1 =
          .error (.deployment message) →
        message ≠ "rollback failed and recovery verification failed" →
        Kept engine world (rollbackDeployment engine faults source target now path world).2 := by
  constructor
  · intro migrate current path message raised other
    have ends : Ends _ (Reports engine world _) _ :=
      transactionalUpgrade_reports faults migrate current target path now world world rfl
    rcases ends.cases with ⟨value, returned, _⟩ | ⟨error, isError, reports⟩
    · rw [raised] at returned
      cases returned
    · rw [raised] at isError
      cases isError
      exact reports other
  · intro source path message raised other
    have ends : Ends _ (Reports engine world _) _ :=
      rollbackDeployment_reports faults source target now path world world rfl
    rcases ends.cases with ⟨value, returned, _⟩ | ⟨error, isError, reports⟩
    · rw [raised] at returned
      cases returned
    · rw [raised] at isError
      cases isError
      exact reports other

end Kept

/-! ### An upgrade whose migration raises -/

/-- Files that hold their rows. -/
def plainEngine : Engine ℕ ℕ ℕ where
  rows database := database.db.getD 0
  opened database := database
  backup database := database.db
  ready _ _ := true
  fileDigest _ := []
  treeDigest _ := some []
  rows_opened _ := rfl
  rows_backup database copy backup := by rw [backup]

def plainWorld : World Empty ℕ ℕ where
  disk := ⟨some 1, fun _ => none, some 2, none, none, none, none, fun _ => none⟩
  state := some (.json (.obj [(pyStr "active_version", .str (pyStr "1"))]))
  snapshots _ := none

def noFaults : Faults := ⟨fun _ => false, fun _ => false⟩

/-- Changes the rows and the tree, and raises. -/
def raisingMigration : Migration ℕ ℕ := fun _ _ => ((⟨some 3, fun _ => none⟩, some 4), true)

theorem failure_keeps_deployment_raising :
    Kept plainEngine plainWorld (transactionalUpgrade plainEngine (fun _ => noFaults)
      raisingMigration (pyStr "1") (pyStr "2") (pyStr "s") [] plainWorld).2 :=
  (failure_keeps_deployment plainEngine (fun _ => noFaults) plainWorld (pyStr "2") []).1 _ _ _
    "upgrade failed; previous state restored" rfl (by decide)

end FolioLattice.Deployment
