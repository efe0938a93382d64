/-
The live switch of a deployment: the moves that put a staged state in the place of
the live one, the recovery when a move fails, and the cleanup that always follows.
-/

import FolioLattice.Effects.Script
import Mathlib.Logic.Function.Basic

namespace FolioLattice.Deployment

open FolioLattice.Effects

/-! ### Files -/

/-- The files SQLite keeps beside a database. -/
inductive Suffix where
  | wal
  | shm
  deriving DecidableEq

def suffixes : List Suffix := [.wal, .shm]

/-- The places a switch works with: live, staged, and the temporary old paths. -/
structure Disk (File Tree : Type) where
  db : Option File
  sidecar : Suffix → Option File
  blobRoot : Option Tree
  stagedDb : Option File
  stagedBlobs : Option Tree
  oldDb : Option File
  oldBlobs : Option Tree
  oldSidecar : Suffix → Option File

/-- The disk and the local variables of `_replace_live`. -/
structure SwitchState (File Tree : Type) where
  disk : Disk File Tree
  oldSidecars : List Suffix
  movedDb : Bool
  movedBlobs : Bool
  newDb : Bool
  newBlobs : Bool

inductive SwitchError where
  | osError
  /-- `DeploymentError("state switch failed and was rolled back")` -/
  | rolledBack

/-- The file operations that can raise an `OSError`. -/
inductive SwitchOp where
  | nameOldDb
  | nameOldBlobs
  | nameOldSidecar (suffix : Suffix)
  | moveSidecar (suffix : Suffix)
  | moveDb
  | placeDb
  | moveBlobs
  | placeBlobs
  | recoverBlobs
  | dropDb
  | recoverDb
  | dropSidecar (suffix : Suffix)
  | recoverSidecar (suffix : Suffix)
  deriving DecidableEq

/-- Which operations fail. -/
abbrev SwitchFaults := SwitchOp → Bool

variable {File Tree : Type}

def Disk.setSidecar (disk : Disk File Tree) (suffix : Suffix) (file : Option File) :
    Disk File Tree :=
  { disk with sidecar := Function.update disk.sidecar suffix file }

def Disk.setOldSidecar (disk : Disk File Tree) (suffix : Suffix) (file : Option File) :
    Disk File Tree :=
  { disk with oldSidecar := Function.update disk.oldSidecar suffix file }

/-- What an operation does, unless its source is missing; a tree is only moved to a
free place. -/
def perform (op : SwitchOp) (s : SwitchState File Tree) : Option (SwitchState File Tree) :=
  match op with
  | .nameOldDb => some s
  | .nameOldBlobs => some s
  | .nameOldSidecar _ => some s
  | .moveSidecar suffix => (s.disk.sidecar suffix).map (fun file =>
      { s with
        disk := (s.disk.setSidecar suffix none).setOldSidecar suffix (some file)
        oldSidecars := s.oldSidecars ++ [suffix] })
  | .moveDb => s.disk.db.map (fun file =>
      { s with disk := { s.disk with oldDb := some file, db := none }, movedDb := true })
  | .placeDb => s.disk.stagedDb.map (fun file =>
      { s with disk := { s.disk with db := some file, stagedDb := none }, newDb := true })
  | .moveBlobs => s.disk.blobRoot.map (fun tree =>
      { s with disk := { s.disk with oldBlobs := some tree, blobRoot := none }, movedBlobs := true })
  | .placeBlobs => if s.disk.blobRoot.isSome then none else s.disk.stagedBlobs.map (fun tree =>
      { s with disk := { s.disk with blobRoot := some tree, stagedBlobs := none }, newBlobs := true })
  | .recoverBlobs => if s.disk.blobRoot.isSome then none else s.disk.oldBlobs.map (fun tree =>
      { s with disk := { s.disk with blobRoot := some tree, oldBlobs := none } })
  | .dropDb => some { s with disk := { s.disk with db := none } }
  | .recoverDb => s.disk.oldDb.map (fun file =>
      { s with disk := { s.disk with db := some file, oldDb := none } })
  | .dropSidecar suffix => some { s with disk := s.disk.setSidecar suffix none }
  | .recoverSidecar suffix => (s.disk.oldSidecar suffix).map (fun file =>
      { s with disk := (s.disk.setSidecar suffix (some file)).setOldSidecar suffix none })

/-! ### The switch -/

section Code

variable (faults : SwitchFaults)

def operate (op : SwitchOp) : Script (SwitchState File Tree) SwitchError Unit :=
  .attempt .osError (fun s => if faults op then none else perform op s)

def moveSidecar (suffix : Suffix) : Script (SwitchState File Tree) SwitchError Unit :=
  .when (fun s => (s.disk.sidecar suffix).isSome) do
    operate faults (.nameOldSidecar suffix)
    operate faults (.moveSidecar suffix)

/-- The body of the `try`. -/
def moves : Script (SwitchState File Tree) SwitchError Unit := do
  suffixes.forM (moveSidecar faults)
  operate faults .moveDb
  operate faults .placeDb
  operate faults .moveBlobs
  operate faults .placeBlobs

def SwitchState.dropBlobs (s : SwitchState File Tree) : SwitchState File Tree :=
  { s with disk := { s.disk with blobRoot := none } }

def recoverSidecar (suffix : Suffix) : Script (SwitchState File Tree) SwitchError Unit := do
  .when (fun s => (s.disk.sidecar suffix).isSome) (operate faults (.dropSidecar suffix))
  .when (fun s => (s.disk.oldSidecar suffix).isSome) (operate faults (.recoverSidecar suffix))

/-- The `except` branch, up to its own error. -/
def recover : Script (SwitchState File Tree) SwitchError Unit := do
  .when (fun s => s.newBlobs && s.disk.blobRoot.isSome) (.modify .dropBlobs)
  .when (fun s => s.movedBlobs && s.disk.oldBlobs.isSome) (operate faults .recoverBlobs)
  .when (fun s => s.newDb && s.disk.db.isSome) (operate faults .dropDb)
  .when (fun s => s.movedDb && s.disk.oldDb.isSome) (operate faults .recoverDb)
  let s ← .get
  s.oldSidecars.forM (recoverSidecar faults)

/-- The `finally` block. -/
def SwitchState.cleanUp (s : SwitchState File Tree) : SwitchState File Tree :=
  { s with
    disk :=
      { s.disk with
        oldDb := none
        oldBlobs := none
        stagedDb := none
        stagedBlobs := none
        oldSidecar := fun suffix => if suffix ∈ s.oldSidecars then none else s.disk.oldSidecar suffix } }

def nameOldPaths : Script (SwitchState File Tree) SwitchError Unit := do
  operate faults .nameOldDb
  operate faults .nameOldBlobs

/-- The `try` with its `except`. -/
def switchOrRecover : Script (SwitchState File Tree) SwitchError Unit :=
  .rescue (moves faults) (fun _ => do
    recover faults
    .fail .rolledBack)

/-- `_replace_live` -/
def replaceLive : Script (SwitchState File Tree) SwitchError Unit := do
  nameOldPaths faults
  .ensure (switchOrRecover faults) (.modify .cleanUp)

end Code

/-- The disk a switch starts with, none of its variables set. -/
def SwitchState.start (disk : Disk File Tree) : SwitchState File Tree where
  disk := disk
  oldSidecars := []
  movedDb := false
  movedBlobs := false
  newDb := false
  newBlobs := false

end FolioLattice.Deployment
