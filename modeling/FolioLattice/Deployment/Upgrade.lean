/-
Upgrade and rollback of a deployment: snapshots of the live state, staging of a
snapshot, the live switch and the deployment state file.
-/

import FolioLattice.Data.Json
import FolioLattice.Deployment.Switch

namespace FolioLattice.Deployment

open FolioLattice.Data FolioLattice.Effects

/-! ### The files of a deployment -/

/-- A file that is read as JSON: the value in it, or bytes that are no JSON. -/
inductive Document (F : Type) where
  | json (value : Json F)
  | other

/-- A snapshot directory. -/
structure Snapshot (F File Tree : Type) where
  db : Option File
  blobs : Option Tree
  manifest : Option (Document F)

structure World (F File Tree : Type) where
  disk : Disk File Tree
  state : Option (Document F)
  snapshots : PyStr → Option (Snapshot F File Tree)

/-- A database with the files beside it. -/
structure Database (File : Type) where
  db : Option File
  sidecar : Suffix → Option File

/-- SQLite, the readiness check and the digests.  Opening a database may create it
or fold its log into it, and keeps its rows; a backup has the rows its source has,
and nothing beside it. -/
structure Engine (File Tree Rows : Type) where
  rows : Database File → Rows
  opened : Database File → Database File
  backup : Database File → Option File
  ready : Database File → Tree → Bool
  fileDigest : File → PyStr
  treeDigest : Tree → Option PyStr
  rows_opened : ∀ database, rows (opened database) = rows database
  rows_backup : ∀ database copy, backup database = some copy →
    rows ⟨some copy, fun _ => none⟩ = rows database

variable {F File Tree Rows : Type}

def Disk.database (disk : Disk File Tree) : Database File := ⟨disk.db, disk.sidecar⟩

def Disk.setDatabase (disk : Disk File Tree) (database : Database File) : Disk File Tree :=
  { disk with db := database.db, sidecar := database.sidecar }

inductive UpgradeError where
  /-- `DeploymentError` -/
  | deployment (message : String)
  /-- an `OSError`, or whatever else a step raises -/
  | other

/-- The steps that can fail by themselves. -/
inductive Step where
  | readiness
  | digest
  | rollbackParent
  | makeTemporary
  | copyDatabase
  | copyBlobs
  | snapshotReadiness
  | snapshotDigest
  | writeManifest
  | placeSnapshot
  | nameStagedDb
  | nameStagedBlobs
  | copyStagedDb
  | copyStagedBlobs
  | stagedReadiness
  | stagedDigest
  | writeState
  | placeState

/-- Which steps of a part of a call fail. -/
structure Faults where
  step : Step → Bool
  switch : SwitchFaults

/-! ### Reading -/

/-- `[A-Za-z0-9]` -/
def isAlphanumeric (c : CodePoint) : Bool :=
  (65 ≤ c.val && c.val ≤ 90) || (97 ≤ c.val && c.val ≤ 122) || (48 ≤ c.val && c.val ≤ 57)

/-- `[A-Za-z0-9][A-Za-z0-9._:-]{0,127}` -/
def isVersion : PyStr → Bool
  | [] => false
  | c :: rest => isAlphanumeric c && rest.length ≤ 127 &&
      rest.all (fun d => isAlphanumeric d || d ∈ pyStr "._:-")

/-- `_version` -/
def checkVersion (version : PyStr) (field : String) : Except UpgradeError Unit :=
  if isVersion version then .ok () else .error (.deployment (field ++ " is invalid"))

/-- `_read_state` -/
def readState (state : Option (Document F)) (expected : Option PyStr) :
    Except UpgradeError PyStr :=
  match state with
  | some (.json (.obj entries)) =>
      match lookup (pyStr "active_version") entries with
      | some (.str version) => do
          checkVersion version "active deployment version"
          if expected.any (fun e => e ≠ version) then
            .error (.deployment "deployment version state does not match expected version")
          else .ok version
      | _ => .error (.deployment "deployment version state is invalid")
  | some (.json _) => .error (.deployment "deployment version state is invalid")
  | _ => .error (.deployment "deployment version state is unavailable")

/-- `_read_manifest`: the version and the state. -/
def readManifest (manifest : Option (Document F)) :
    Except UpgradeError (PyStr × List (PyStr × Json F)) :=
  match manifest with
  | some (.json (.obj entries)) =>
      match lookup (pyStr "version") entries with
      | some (.str version) => do
          checkVersion version "rollback snapshot version"
          match lookup (pyStr "state") entries with
          | some (.obj state) => .ok (version, state)
          | _ => .error (.deployment "rollback snapshot state is invalid")
      | _ => .error (.deployment "rollback snapshot manifest is invalid")
  | some (.json _) => .error (.deployment "rollback snapshot manifest is invalid")
  | _ => .error (.deployment "rollback snapshot manifest is unavailable")

/-- What `_inspect` returns, besides `"ready": True`. -/
structure Inspection where
  databaseSha256 : PyStr
  blobsSha256 : PyStr

def Inspection.json (inspection : Inspection) : Json F :=
  .obj [(pyStr "ready", .bool true), (pyStr "database_sha256", .str inspection.databaseSha256),
    (pyStr "blobs_sha256", .str inspection.blobsSha256)]

/-- `value == True` -/
def equalsTrue [FloatFormat F] : Json F → Bool
  | .bool value => value
  | .int value => value = 1
  | .float value => printFloat value = ['1', '.', '0']
  | _ => false

def equalsText (text : PyStr) : Json F → Bool
  | .str value => value = text
  | _ => false

/-- `actual == expected`, as dictionaries. -/
def Inspection.equals [FloatFormat F] (actual : Inspection) (expected : List (PyStr × Json F)) :
    Bool :=
  expected.length = 3 && (lookup (pyStr "ready") expected).any equalsTrue &&
    (lookup (pyStr "database_sha256") expected).any (equalsText actual.databaseSha256) &&
    (lookup (pyStr "blobs_sha256") expected).any (equalsText actual.blobsSha256)

/-! ### Snapshots -/

section Code

variable (engine : Engine File Tree Rows)

abbrev DeploymentScript (F File Tree α : Type) := Script (World F File Tree) UpgradeError α

/-- `_inspect`, of files that are opened without effect. -/
def inspect (readiness digest : Bool) (database : Database File) (blobs : Option Tree) :
    Except UpgradeError Inspection :=
  match database.db, blobs with
  | none, _ => .error (.deployment "deployment database is missing")
  | _, none => .error (.deployment "deployment blob root is missing")
  | some db, some tree =>
      if readiness then .error (.deployment "deployment state readiness check failed")
      else if !engine.ready database tree then .error (.deployment "deployment state is not ready")
      else if digest then .error .other
      else match engine.treeDigest tree with
        | none => .error (.deployment "blob root contains an unsafe entry")
        | some treeDigest => .ok ⟨engine.fileDigest db, treeDigest⟩

def World.openDatabase (world : World F File Tree) : World F File Tree :=
  { world with disk := world.disk.setDatabase (engine.opened world.disk.database) }

/-- `_inspect` of the live state; a missing database is not opened. -/
def inspectLive (faults : Faults) : DeploymentScript F File Tree Inspection := do
  .when (fun world => world.disk.db.isSome && world.disk.blobRoot.isSome)
    (.modify (·.openDatabase engine))
  .result (fun world => inspect engine (faults.step .readiness) (faults.step .digest)
    world.disk.database world.disk.blobRoot)

def raiseIf (fails : Bool) (error : UpgradeError) : DeploymentScript F File Tree Unit :=
  .attempt error (fun world => if fails then none else some world)

/-- The copies a snapshot is made of; its temporary directory is removed when one
of them fails. -/
def snapshotParts (faults : Faults) (version : PyStr) :
    DeploymentScript F File Tree (Snapshot F File Tree) := do
  raiseIf (faults.step .makeTemporary) (.deployment "rollback snapshot failed")
  .modify (·.openDatabase engine)
  raiseIf (faults.step .copyDatabase) (.deployment "database snapshot failed")
  let db ← .result (fun world => match engine.backup world.disk.database with
    | none => .error (.deployment "database snapshot failed")
    | some copy => .ok copy)
  raiseIf (faults.step .copyBlobs) (.deployment "rollback snapshot failed")
  let blobs ← .result (fun world => match world.disk.blobRoot with
    | none => .error (.deployment "rollback snapshot failed")
    | some tree => .ok tree)
  let state ← .result (fun _ => match inspect engine (faults.step .snapshotReadiness)
      (faults.step .snapshotDigest) ⟨some db, fun _ => none⟩ (some blobs) with
    | .error .other => .error (.deployment "rollback snapshot failed")
    | other => other)
  raiseIf (faults.step .writeManifest) (.deployment "rollback snapshot failed")
  pure ⟨some db, some blobs,
    some (.json (.obj [(pyStr "version", .str version), (pyStr "state", state.json)]))⟩

/-- `_snapshot`, under the path drawn for it. -/
def snapshot (faults : Faults) (version path : PyStr) : DeploymentScript F File Tree Unit := do
  raiseIf (faults.step .rollbackParent) .other
  let parts ← snapshotParts engine faults version
  .attempt (.deployment "rollback snapshot failed") (fun world =>
    if faults.step .placeSnapshot || (world.snapshots path).isSome then none
    else some { world with snapshots := Function.update world.snapshots path (some parts) })

def Disk.stage (disk : Disk File Tree) (db : Option File) (blobs : Option Tree) : Disk File Tree :=
  { disk with stagedDb := db, stagedBlobs := blobs }

/-- The copies of a snapshot next to the live files, checked against its manifest. -/
def stageParts [FloatFormat F] (faults : Faults) (path : PyStr) :
    DeploymentScript F File Tree Unit := do
  let (_, expected) ← .result (fun world => readManifest ((world.snapshots path).bind (·.manifest)))
  raiseIf (faults.step .nameStagedDb) .other
  raiseIf (faults.step .nameStagedBlobs) .other
  .attempt .other (fun world => match (world.snapshots path).bind (·.db) with
    | none => none
    | some db => if faults.step .copyStagedDb then none
        else some { world with disk := world.disk.stage (some db) none })
  .attempt .other (fun world => match (world.snapshots path).bind (·.blobs) with
    | none => none
    | some blobs => if faults.step .copyStagedBlobs then none
        else some { world with disk := world.disk.stage world.disk.stagedDb (some blobs) })
  let actual ← .result (fun world => inspect engine (faults.step .stagedReadiness)
    (faults.step .stagedDigest) ⟨world.disk.stagedDb, fun _ => none⟩ world.disk.stagedBlobs)
  if actual.equals expected then pure ()
  else .fail (.deployment "rollback snapshot verification failed")

def stagingError : UpgradeError → UpgradeError
  | .deployment message => .deployment message
  | .other => .deployment "rollback snapshot staging failed"

/-- `_stage_snapshot` -/
def stageSnapshot [FloatFormat F] (faults : Faults) (path : PyStr) :
    DeploymentScript F File Tree Unit :=
  .rescue (stageParts engine faults path) (fun error => do
    .modify (fun world => { world with disk := world.disk.stage none none })
    .fail (stagingError error))

def switchError : SwitchError → UpgradeError
  | .osError => .other
  | .rolledBack => .deployment "state switch failed and was rolled back"

/-- `_replace_live`, with the staged files. -/
def switchLive (faults : Faults) : DeploymentScript F File Tree Unit :=
  .zoom (fun world => .start world.disk) (fun s world => { world with disk := s.disk }) switchError
    (replaceLive faults.switch)

/-- `_restore_snapshot` -/
def restoreSnapshot [FloatFormat F] (faults : Faults) (path : PyStr) :
    DeploymentScript F File Tree Unit := do
  stageSnapshot engine faults path
  switchLive faults
  let _ ← inspectLive engine faults

/-- `_write_json` to the deployment state file; only the last move changes it. -/
def writeState (faults : Faults) (value : Json F) : DeploymentScript F File Tree Unit := do
  raiseIf (faults.step .writeState) .other
  .attempt .other (fun world => if faults.step .placeState then none
    else some { world with state := some (.json value.sortKeys) })

/-! ### Upgrade and rollback -/

/-- The parts of a call, each with its own faults. -/
inductive Phase where
  | before
  | change
  | restore
  | verify

/-- What a migration makes of the live files, and whether it raises. -/
abbrev Migration (File Tree : Type) :=
  Database File → Option Tree → (Database File × Option Tree) × Bool

def World.migrated (world : World F File Tree) (migrate : Migration File Tree) :
    World F File Tree :=
  let ((database, blobs), _) := migrate world.disk.database world.disk.blobRoot
  { world with disk := { world.disk.setDatabase database with blobRoot := blobs } }

def runMigration (migrate : Migration File Tree) : DeploymentScript F File Tree Unit := fun world =>
  (if (migrate world.disk.database world.disk.blobRoot).2 then .error .other else .ok (),
    world.migrated migrate)

/-- The result of an upgrade. -/
structure Upgraded where
  fromVersion : PyStr
  toVersion : PyStr
  rollbackSnapshot : PyStr
  before : Inspection
  after : Inspection

def upgradeRecord (current target path now : PyStr) (before after : Inspection) : Json F :=
  .obj [(pyStr "active_version", .str target), (pyStr "previous_version", .str current),
    (pyStr "rollback_snapshot", .str path), (pyStr "before", before.json),
    (pyStr "after", after.json), (pyStr "updated_at", .str now)]

def check (fine : Bool) (message : String) : DeploymentScript F File Tree Unit :=
  raiseIf (!fine) (.deployment message)

/-- `transactional_upgrade`; `path` is where its snapshot goes. -/
def transactionalUpgrade [FloatFormat F] (faults : Phase → Faults) (migrate : Migration File Tree)
    (current target path now : PyStr) : DeploymentScript F File Tree Upgraded := do
  check (isVersion current) "current deployment version is invalid"
  check (isVersion target) "target deployment version is invalid"
  check (current ≠ target) "target deployment version must change"
  let _ ← .result (fun world => readState world.state (some current))
  let before ← inspectLive engine (faults .before)
  snapshot engine (faults .before) current path
  .rescue
    (do
      runMigration migrate
      let after ← inspectLive engine (faults .change)
      writeState (faults .change) (upgradeRecord current target path now before after)
      pure ⟨current, target, path, before, after⟩)
    (fun _ => do
      .rescue
        (do
          restoreSnapshot engine (faults .restore) path
          let _ ← inspectLive engine (faults .verify))
        (fun _ => .fail (.deployment "upgrade failed and rollback verification failed"))
      .fail (.deployment "upgrade failed; previous state restored"))

/-- The result of a rollback. -/
structure RolledBack where
  fromVersion : PyStr
  toVersion : PyStr
  after : Inspection

def rollbackRecord (current target path now : PyStr) (after : Inspection) : Json F :=
  .obj [(pyStr "active_version", .str target), (pyStr "previous_version", .str current),
    (pyStr "rollback_snapshot", .str path), (pyStr "after", after.json),
    (pyStr "updated_at", .str now)]

/-- `rollback_deployment` to the snapshot at `source`; `path current` is where the
snapshot of the current version goes. -/
def rollbackDeployment [FloatFormat F] (faults : Phase → Faults) (source target now : PyStr)
    (path : PyStr → PyStr) : DeploymentScript F File Tree RolledBack := do
  check (isVersion target) "rollback deployment version is invalid"
  let current ← .result (fun world => readState world.state none)
  let (version, _) ← .result (fun world =>
    readManifest ((world.snapshots source).bind (·.manifest)))
  check (version = target) "rollback snapshot version does not match target"
  stageSnapshot engine (faults .before) source
  snapshot engine (faults .before) current (path current)
  .rescue
    (do
      switchLive (faults .change)
      let after ← inspectLive engine (faults .change)
      writeState (faults .change) (rollbackRecord current target (path current) now after)
      pure ⟨current, target, after⟩)
    (fun _ => do
      .rescue (restoreSnapshot engine (faults .restore) (path current))
        (fun _ => .fail (.deployment "rollback failed and recovery verification failed"))
      .fail (.deployment "rollback failed; previous state restored"))

end Code

end FolioLattice.Deployment
