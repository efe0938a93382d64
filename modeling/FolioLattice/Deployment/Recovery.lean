/-
What a live switch leaves on the disk, whichever of its file operations fail.
-/

import FolioLattice.Deployment.Switch
import Mathlib.Data.List.TakeWhile

namespace FolioLattice.Deployment

open FolioLattice.Effects

variable {File Tree : Type}

/-! ### Complete states -/

/-- A live state; files and trees are compared as objects on the disk. -/
structure Live (File Tree : Type) where
  db : File
  sidecar : Suffix → Option File
  blobs : Tree

/-- A staged state has a database file and a blob tree of its own. -/
structure Staged (live : Live File Tree) where
  db : File
  blobs : Tree
  db_new : db ≠ live.db
  blobs_new : blobs ≠ live.blobs

def Live.disk (live : Live File Tree) (staged : Staged live) : Disk File Tree where
  db := some live.db
  sidecar := live.sidecar
  blobRoot := some live.blobs
  stagedDb := some staged.db
  stagedBlobs := some staged.blobs
  oldDb := none
  oldBlobs := none
  oldSidecar _ := none

structure OldLive (live : Live File Tree) (disk : Disk File Tree) : Prop where
  db : disk.db = some live.db
  sidecar : ∀ suffix, disk.sidecar suffix = live.sidecar suffix
  blobs : disk.blobRoot = some live.blobs

structure NewLive {live : Live File Tree} (staged : Staged live) (disk : Disk File Tree) : Prop where
  db : disk.db = some staged.db
  sidecar : ∀ suffix, disk.sidecar suffix = none
  blobs : disk.blobRoot = some staged.blobs

/-- Every part of the old state is at its live place or at its temporary old path. -/
structure OldKept (live : Live File Tree) (disk : Disk File Tree) : Prop where
  db : disk.db = some live.db ∨ disk.oldDb = some live.db
  sidecar : ∀ suffix, disk.sidecar suffix = live.sidecar suffix ∨
    disk.oldSidecar suffix = live.sidecar suffix
  blobs : disk.blobRoot = some live.blobs ∨ disk.oldBlobs = some live.blobs

/-- The live places hold a complete state. -/
def Complete {live : Live File Tree} (staged : Staged live) (disk : Disk File Tree) : Prop :=
  OldLive live disk ∨ NewLive staged disk

theorem OldLive.kept {live : Live File Tree} {disk : Disk File Tree} (old : OldLive live disk) :
    OldKept live disk where
  db := Or.inl old.db
  sidecar suffix := Or.inl (old.sidecar suffix)
  blobs := Or.inl old.blobs

/-! ### The operations of a switch -/

/-- The operations for a sidecar. -/
def sidecarOps (live : Live File Tree) (suffix : Suffix) : List SwitchOp :=
  if (live.sidecar suffix).isSome then [.nameOldSidecar suffix, .moveSidecar suffix] else []

/-- The operations of the `try`, in order. -/
def switchOps (live : Live File Tree) : List SwitchOp :=
  suffixes.flatMap (sidecarOps live) ++ [.moveDb, .placeDb, .moveBlobs, .placeBlobs]

/-- Those before the first that fails. -/
def performed (faults : SwitchFaults) (live : Live File Tree) : List SwitchOp :=
  (switchOps live).takeWhile (fun op => !faults op)

/-- The operations of the recovery that take an operation back. -/
def undo : SwitchOp → List SwitchOp
  | .moveSidecar suffix => [.recoverSidecar suffix]
  | .moveDb => [.recoverDb]
  | .placeDb => [.dropDb]
  | .moveBlobs => [.recoverBlobs]
  | _ => []

/-- The old paths cannot be named, or no operation of the switch fails, or none of
those fails that take back what was performed before the first failure. -/
def Recoverable (faults : SwitchFaults) (live : Live File Tree) : Prop :=
  (faults .nameOldDb = true ∨ faults .nameOldBlobs = true) ∨
    (∀ op ∈ switchOps live, faults op = false) ∨
    ∀ op ∈ performed faults live, ∀ back ∈ undo op, faults back = false

/-! ### The state in the middle of a switch -/

/-- The state after the operations `done`, of which those in `left` have not been
taken back. -/
def switched {live : Live File Tree} (staged : Staged live) (done left : List SwitchOp) :
    SwitchState File Tree where
  disk :=
    { db := if .placeDb ∈ left then some staged.db else if .moveDb ∈ left then none else some live.db
      sidecar := fun suffix => if .moveSidecar suffix ∈ left then none else live.sidecar suffix
      blobRoot := if .placeBlobs ∈ left then some staged.blobs
        else if .moveBlobs ∈ left then none else some live.blobs
      stagedDb := if .placeDb ∈ done then none else some staged.db
      stagedBlobs := if .placeBlobs ∈ done then none else some staged.blobs
      oldDb := if .moveDb ∈ left then some live.db else none
      oldBlobs := if .moveBlobs ∈ left then some live.blobs else none
      oldSidecar := fun suffix => if .moveSidecar suffix ∈ left then live.sidecar suffix else none }
  oldSidecars := suffixes.filter (fun suffix => .moveSidecar suffix ∈ done)
  movedDb := .moveDb ∈ done
  movedBlobs := .moveBlobs ∈ done
  newDb := .placeDb ∈ done
  newBlobs := .placeBlobs ∈ done

section Steps

variable {live : Live File Tree} {staged : Staged live} {done left : List SwitchOp}

theorem perform_nameOldSidecar (suffix : Suffix) :
    perform (.nameOldSidecar suffix) (switched staged done done) =
      some (switched staged (done ++ [.nameOldSidecar suffix]) (done ++ [.nameOldSidecar suffix])) := by
  simp [perform, switched]

theorem perform_moveSidecar {suffix : Suffix} (present : (live.sidecar suffix).isSome = true)
    (fresh : .moveSidecar suffix ∉ done) (last : .moveSidecar .shm ∉ done) :
    perform (.moveSidecar suffix) (switched staged done done) =
      some (switched staged (done ++ [.moveSidecar suffix]) (done ++ [.moveSidecar suffix])) := by
  obtain ⟨file, found⟩ := Option.isSome_iff_exists.mp present
  have source : (switched staged done done).disk.sidecar suffix = some file := by
    simp [switched, fresh, found]
  have sidecars : ∀ other, Function.update (switched staged done done).disk.sidecar suffix none other =
      if .moveSidecar other ∈ done ++ [.moveSidecar suffix] then none else live.sidecar other := by
    intro other
    by_cases same : other = suffix
    · simp [same]
    · simp [switched, same]
  have oldSidecars : ∀ other,
      Function.update (switched staged done done).disk.oldSidecar suffix (some file) other =
        if .moveSidecar other ∈ done ++ [.moveSidecar suffix] then live.sidecar other else none := by
    intro other
    by_cases same : other = suffix
    · simp [same, found]
    · simp [switched, same]
  have order : (switched staged done done).oldSidecars ++ [suffix] =
      suffixes.filter (fun other => .moveSidecar other ∈ done ++ [.moveSidecar suffix]) := by
    cases suffix <;> by_cases wal : SwitchOp.moveSidecar .wal ∈ done <;>
      simp_all [switched, suffixes]
  simp only [perform, source, Option.map_some, order, Disk.setSidecar, Disk.setOldSidecar,
    funext sidecars, funext oldSidecars]
  simp [switched]

theorem perform_moveDb (fresh : .moveDb ∉ done) (order : .placeDb ∉ done) :
    perform .moveDb (switched staged done done) =
      some (switched staged (done ++ [.moveDb]) (done ++ [.moveDb])) := by
  simp [perform, switched, fresh, order]

theorem perform_placeDb (moved : .moveDb ∈ done) (fresh : .placeDb ∉ done) :
    perform .placeDb (switched staged done done) =
      some (switched staged (done ++ [.placeDb]) (done ++ [.placeDb])) := by
  simp [perform, switched, fresh, moved]

theorem perform_moveBlobs (fresh : .moveBlobs ∉ done) (order : .placeBlobs ∉ done) :
    perform .moveBlobs (switched staged done done) =
      some (switched staged (done ++ [.moveBlobs]) (done ++ [.moveBlobs])) := by
  simp [perform, switched, fresh, order]

theorem perform_placeBlobs (moved : .moveBlobs ∈ done) (fresh : .placeBlobs ∉ done) :
    perform .placeBlobs (switched staged done done) =
      some (switched staged (done ++ [.placeBlobs]) (done ++ [.placeBlobs])) := by
  simp [perform, switched, fresh, moved]

/-- Those still to be taken back after one of them is. -/
def without (left : List SwitchOp) (op : SwitchOp) : List SwitchOp :=
  left.filter (fun other => other ≠ op)

@[simp] theorem mem_without {op other : SwitchOp} :
    other ∈ without left op ↔ other ∈ left ∧ other ≠ op := by
  simp [without]

theorem perform_recoverBlobs (moved : .moveBlobs ∈ left) (order : .placeBlobs ∉ left) :
    perform .recoverBlobs (switched staged done left) =
      some (switched staged done (without left .moveBlobs)) := by
  simp [perform, switched, moved, order]

theorem perform_dropDb (moved : .moveDb ∈ left) :
    perform .dropDb (switched staged done left) =
      some (switched staged done (without left .placeDb)) := by
  simp [perform, switched, moved]

theorem perform_recoverDb (moved : .moveDb ∈ left) (order : .placeDb ∉ left) :
    perform .recoverDb (switched staged done left) =
      some (switched staged done (without left .moveDb)) := by
  simp [perform, switched, moved, order]

theorem perform_recoverSidecar {suffix : Suffix} (present : (live.sidecar suffix).isSome = true)
    (moved : .moveSidecar suffix ∈ left) :
    perform (.recoverSidecar suffix) (switched staged done left) =
      some (switched staged done (without left (.moveSidecar suffix))) := by
  obtain ⟨file, found⟩ := Option.isSome_iff_exists.mp present
  have source : (switched staged done left).disk.oldSidecar suffix = some file := by
    simp [switched, moved, found]
  have sidecars : ∀ other,
      Function.update (switched staged done left).disk.sidecar suffix (some file) other =
        if .moveSidecar other ∈ without left (.moveSidecar suffix) then none
        else live.sidecar other := by
    intro other
    by_cases same : other = suffix
    · simp [same, found]
    · simp [switched, same]
  have oldSidecars : ∀ other,
      Function.update (switched staged done left).disk.oldSidecar suffix none other =
        if .moveSidecar other ∈ without left (.moveSidecar suffix) then live.sidecar other
        else none := by
    intro other
    by_cases same : other = suffix
    · simp [same]
    · simp [switched, same]
  simp only [perform, source, Option.map_some, Disk.setSidecar, Disk.setOldSidecar,
    funext sidecars, funext oldSidecars]
  simp [switched]

@[simp] theorem mem_sidecarOps {op : SwitchOp} {suffix : Suffix} :
    op ∈ sidecarOps live suffix ↔ (live.sidecar suffix).isSome = true ∧
      (op = .nameOldSidecar suffix ∨ op = .moveSidecar suffix) := by
  unfold sidecarOps
  split <;> simp [*]

/-! ### The `try` -/

variable {faults : SwitchFaults}

/-- The operations so far have all succeeded. -/
def At (faults : SwitchFaults) (staged : Staged live) (done : List SwitchOp)
    (s : SwitchState File Tree) : Prop :=
  (∀ op ∈ done, faults op = false) ∧ s = switched staged done done

/-- An operation has failed, after those before it. -/
def Interrupted (faults : SwitchFaults) (staged : Staged live) (s : SwitchState File Tree) : Prop :=
  ∃ done op rest, switchOps live = done ++ op :: rest ∧ faults op = true ∧ At faults staged done s

theorem operate_at (faults : SwitchFaults) (staged : Staged live) (rest : List SwitchOp)
    {op : SwitchOp} (ops : switchOps live = done ++ op :: rest)
    (moved : perform op (switched staged done done) =
      some (switched staged (done ++ [op]) (done ++ [op]))) :
    Triple (At faults staged done) (operate faults op)
      (fun _ => At faults staged (done ++ [op])) (fun _ => Interrupted faults staged) := by
  apply Triple.attempt
  · rintro s s' ⟨before, rfl⟩ changed
    cases fails : faults op with
    | true =>
        rw [fails] at changed
        cases changed
    | false =>
        rw [fails, moved] at changed
        refine ⟨?_, (Option.some.inj changed).symm⟩
        intro other member
        rcases List.mem_append.mp member with earlier | last
        · exact before other earlier
        · rw [List.mem_singleton.mp last]
          exact fails
  · rintro s ⟨before, rfl⟩ failed
    cases fails : faults op with
    | true => exact ⟨done, op, rest, ops, fails, before, rfl⟩
    | false =>
        rw [fails, moved] at failed
        cases failed

theorem moveSidecar_at (faults : SwitchFaults) (staged : Staged live) (suffix : Suffix)
    (done rest : List SwitchOp)
    (ops : switchOps live = done ++ (sidecarOps live suffix ++ rest))
    (fresh : .moveSidecar suffix ∉ done) (last : .moveSidecar .shm ∉ done) :
    Triple (At faults staged done) (moveSidecar faults suffix)
      (fun _ => At faults staged (done ++ sidecarOps live suffix))
      (fun _ => Interrupted faults staged) := by
  have tested : ∀ s, At faults staged done s →
      (s.disk.sidecar suffix).isSome = (live.sidecar suffix).isSome := by
    rintro s ⟨_, rfl⟩
    simp [switched, fresh]
  cases present : (live.sidecar suffix).isSome with
  | true =>
      have both : sidecarOps live suffix = [.nameOldSidecar suffix, .moveSidecar suffix] :=
        if_pos present
      rw [both] at ops ⊢
      apply Triple.when
      · have next : switchOps live =
            (done ++ [.nameOldSidecar suffix]) ++ .moveSidecar suffix :: rest := by
          rw [ops]
          simp
        have named := operate_at faults staged _ ops (perform_nameOldSidecar suffix)
        have moved := operate_at faults staged _ next
          (perform_moveSidecar present (by simpa using fresh) (by simpa using last))
        rw [List.append_assoc] at moved
        exact (named.bind (fun _ => moved)).pre (fun _ holds => holds.1)
      · intro s at_ missing
        rw [tested s at_, present] at missing
        cases missing
  | false =>
      have none : sidecarOps live suffix = [] := if_neg (by simp [present])
      rw [none, List.append_nil]
      apply Triple.when
      · rintro s ⟨at_, found⟩
        rw [tested s at_, present] at found
        cases found
      · exact fun _ at_ _ => at_

theorem moves_at (faults : SwitchFaults) (staged : Staged live) : Triple (At faults staged []) (moves faults)
    (fun _ => At faults staged (switchOps live)) (fun _ => Interrupted faults staged) := by
  have wal := moveSidecar_at faults staged .wal []
    (sidecarOps live .shm ++ [.moveDb, .placeDb, .moveBlobs, .placeBlobs])
    (by simp [switchOps, suffixes]) (by simp) (by simp)
  have shm := moveSidecar_at faults staged .shm ([] ++ sidecarOps live .wal)
    [.moveDb, .placeDb, .moveBlobs, .placeBlobs]
    (by simp [switchOps, suffixes]) (by simp) (by simp)
  have sidecars : Triple (At faults staged []) (suffixes.forM (moveSidecar faults))
      (fun _ => At faults staged ([] ++ sidecarOps live .wal ++ sidecarOps live .shm))
      (fun _ => Interrupted faults staged) :=
    wal.bind (fun _ => shm.bind (fun _ => Triple.pure (fun _ => id)))
  refine sidecars.bind (fun _ => ?_)
  refine Triple.bind (operate_at faults staged [.placeDb, .moveBlobs, .placeBlobs]
    (by simp [switchOps, suffixes]) (perform_moveDb (by simp) (by simp))) (fun _ => ?_)
  refine Triple.bind (operate_at faults staged [.moveBlobs, .placeBlobs]
    (by simp [switchOps, suffixes]) (perform_placeDb (by simp) (by simp))) (fun _ => ?_)
  refine Triple.bind (operate_at faults staged [.placeBlobs]
    (by simp [switchOps, suffixes]) (perform_moveBlobs (by simp) (by simp))) (fun _ => ?_)
  refine (operate_at faults staged [] (by simp [switchOps, suffixes])
    (perform_placeBlobs (by simp) (by simp))).weaken (fun _ => id) ?_ (fun _ _ => id)
  intro _ s at_
  have all : switchOps live = [] ++ sidecarOps live .wal ++ sidecarOps live .shm ++ [.moveDb] ++
      [.placeDb] ++ [.moveBlobs] ++ [.placeBlobs] := by simp [switchOps, suffixes]
  rw [all]
  exact at_

/-! ### The `except` branch -/

/-- What the operations before a failure can have done. -/
structure Begun (live : Live File Tree) (done : List SwitchOp) : Prop where
  placeBlobs : .placeBlobs ∉ done
  placeDb : .placeDb ∈ done → .moveDb ∈ done
  sidecar : ∀ suffix, .moveSidecar suffix ∈ done → (live.sidecar suffix).isSome = true

theorem begun_of_failed {op : SwitchOp} {rest : List SwitchOp}
    (ops : switchOps live = done ++ op :: rest) : Begun live done := by
  have within : done <+: suffixes.flatMap (sidecarOps live) ++ [.moveDb, .placeDb, .moveBlobs] := by
    have initial : suffixes.flatMap (sidecarOps live) ++ [.moveDb, .placeDb, .moveBlobs] <+:
        switchOps live := ⟨[.placeBlobs], by simp [switchOps]⟩
    refine List.prefix_of_prefix_length_le ⟨op :: rest, ops.symm⟩ initial ?_
    have lengths := congrArg List.length ops
    simp only [switchOps, List.length_append, List.length_cons, List.length_nil] at lengths ⊢
    omega
  constructor
  · intro member
    have inside := within.subset member
    simp [suffixes] at inside
  · intro member
    have before : suffixes.flatMap (sidecarOps live) ++ [.moveDb] <+: switchOps live :=
      ⟨[.placeDb, .moveBlobs, .placeBlobs], by simp [switchOps]⟩
    have taken : done <+: switchOps live := ⟨op :: rest, ops.symm⟩
    rcases List.prefix_or_prefix_of_prefix taken before with short | long
    · have inside := short.subset member
      simp [suffixes] at inside
    · exact long.subset (by simp)
  · intro suffix member
    have inside := within.subset member
    cases suffix <;> simpa [suffixes] using inside

/-- What is not in `left` was taken back without a failure. -/
def Recovering (faults : SwitchFaults) (staged : Staged live) (done left : List SwitchOp)
    (s : SwitchState File Tree) : Prop :=
  s = switched staged done left ∧ left ⊆ done ∧
    ∀ op ∈ done, op ∉ left → ∀ back ∈ undo op, faults back = false

/-- Taking an operation back has failed. -/
def Stuck (faults : SwitchFaults) (staged : Staged live) (done left : List SwitchOp) (op : SwitchOp)
    (s : SwitchState File Tree) : Prop :=
  s = switched staged done left ∧ op ∈ left ∧ op ∈ done ∧ ∃ back ∈ undo op, faults back = true

theorem takeBack (faults : SwitchFaults) (staged : Staged live) (done left : List SwitchOp)
    (op : SwitchOp) {back : SwitchOp} (test : SwitchState File Tree → Bool)
    (undone : undo op = [back]) (tested : test (switched staged done left) = decide (op ∈ left))
    (moved : op ∈ left → perform back (switched staged done left) =
      some (switched staged done (without left op))) :
    Triple (Recovering faults staged done left) (.when test (operate faults back))
      (fun _ => Recovering faults staged done (without left op))
      (fun _ => Stuck faults staged done left op) := by
  apply Triple.when
  · apply Triple.attempt
    · rintro s s' ⟨⟨rfl, within, fine⟩, met⟩ changed
      have member : op ∈ left := by
        rw [tested] at met
        exact of_decide_eq_true met
      cases fails : faults back with
      | true =>
          rw [fails] at changed
          cases changed
      | false =>
          rw [fails, moved member] at changed
          refine ⟨(Option.some.inj changed).symm, ?_, ?_⟩
          · exact fun other inside => within (mem_without.mp inside).1
          · intro other inside gone
            by_cases same : other = op
            · rw [same, undone]
              intro b isBack
              rw [List.mem_singleton.mp isBack]
              exact fails
            · exact fine other inside (fun member => gone (mem_without.mpr ⟨member, same⟩))
    · rintro s ⟨⟨rfl, within, fine⟩, met⟩ failed
      have member : op ∈ left := by
        rw [tested] at met
        exact of_decide_eq_true met
      cases fails : faults back with
      | true =>
          refine ⟨rfl, member, within member, back, ?_, fails⟩
          rw [undone]
          exact List.mem_singleton.mpr rfl
      | false =>
          rw [fails, moved member] at failed
          cases failed
  · rintro s ⟨rfl, within, fine⟩ unmet
    rw [tested] at unmet
    have nothing : without left op = left := by
      apply List.filter_eq_self.mpr
      intro other member
      exact decide_eq_true (fun same => of_decide_eq_false unmet (same ▸ member))
    rw [nothing]
    exact ⟨rfl, within, fine⟩

/-- The places hold neither of the two states, and the staged tree is still there. -/
def Broken (faults : SwitchFaults) (staged : Staged live) (done : List SwitchOp)
    (s : SwitchState File Tree) : Prop :=
  (¬Complete staged s.disk ∧ s.disk.stagedBlobs.isSome = true) ∧
    ∃ op ∈ done, ∃ back ∈ undo op, faults back = true

theorem Stuck.broken {op : SwitchOp} {s : SwitchState File Tree} (begun : Begun live done)
    (stuck : Stuck faults staged done left op s)
    (incomplete : ¬Complete staged (switched staged done left).disk) :
    Broken faults staged done s := by
  obtain ⟨rfl, _, member, back, isBack, fails⟩ := stuck
  refine ⟨⟨incomplete, ?_⟩, op, member, back, isBack, fails⟩
  simp [switched, begun.placeBlobs]

theorem recoverSidecar_triple (faults : SwitchFaults) (staged : Staged live)
    (left : List SwitchOp) {suffix : Suffix} (begun : Begun live done) :
    Triple (fun s => Recovering faults staged done left s ∧ .moveSidecar suffix ∈ left)
      (recoverSidecar faults suffix)
      (fun _ => Recovering faults staged done (without left (.moveSidecar suffix)))
      (fun _ => Stuck faults staged done left (.moveSidecar suffix)) := by
  have skipped : Triple (fun s => Recovering faults staged done left s ∧ .moveSidecar suffix ∈ left)
      (.when (fun s => (s.disk.sidecar suffix).isSome) (operate faults (.dropSidecar suffix)))
      (fun _ s => Recovering faults staged done left s ∧ .moveSidecar suffix ∈ left)
      (fun _ => Stuck faults staged done left (.moveSidecar suffix)) := by
    apply Triple.when
    · rintro s ⟨⟨⟨rfl, _⟩, member⟩, impossible⟩
      simp [switched, member] at impossible
    · exact fun _ holds _ => holds
  refine skipped.bind (fun _ => ?_)
  rintro s ⟨recovering, member⟩
  have present := begun.sidecar suffix (recovering.2.1 member)
  exact takeBack faults staged done left _ _ rfl (by simp [switched, member, present])
    (fun _ => perform_recoverSidecar present member) s recovering

/-- Only the sidecars in `rest` have not been taken back. -/
def SidecarsLeft (faults : SwitchFaults) (staged : Staged live) (done : List SwitchOp)
    (rest : List Suffix) (s : SwitchState File Tree) : Prop :=
  ∃ left, Recovering faults staged done left s ∧ rest.Nodup ∧
    (∀ suffix, .moveSidecar suffix ∈ left ↔ suffix ∈ rest) ∧
    .moveDb ∉ left ∧ .placeDb ∉ left ∧ .moveBlobs ∉ left

theorem recoverSidecars_triple (faults : SwitchFaults) (staged : Staged live)
    (begun : Begun live done) (sidecars : List Suffix) :
    Triple (SidecarsLeft faults staged done sidecars) (sidecars.forM (recoverSidecar faults))
      (fun _ => SidecarsLeft faults staged done []) (fun _ => Broken faults staged done) := by
  refine Triple.forM (fun suffix rest => ?_) sidecars
  rintro s ⟨left, recovering, nodup, members, moveDb, placeDb, moveBlobs⟩
  obtain ⟨fresh, nodup⟩ := List.nodup_cons.mp nodup
  have member : .moveSidecar suffix ∈ left := (members suffix).mpr List.mem_cons_self
  have present := begun.sidecar suffix (recovering.2.1 member)
  have placeBlobs : .placeBlobs ∉ left := fun inside => begun.placeBlobs (recovering.2.1 inside)
  refine (recoverSidecar_triple faults staged left begun).weaken (fun _ => id) ?_ ?_ s
    ⟨recovering, member⟩
  · intro _ s' recovering'
    refine ⟨_, recovering', nodup, ?_, by simp [moveDb], by simp [placeDb], by simp [moveBlobs]⟩
    intro other
    rw [mem_without, members, List.mem_cons]
    constructor
    · rintro ⟨rfl | inside, differs⟩
      · exact absurd rfl differs
      · exact inside
    · intro inside
      refine ⟨Or.inr inside, ?_⟩
      intro same
      exact fresh (SwitchOp.moveSidecar.inj same ▸ inside)
  · intro _ s' stuck
    -- the database is the old one, and this sidecar is gone
    refine stuck.broken begun ?_
    rintro (old | new)
    · have gone := old.sidecar suffix
      rw [← gone] at present
      simp [switched, member] at present
    · have isDb := new.db
      simp only [switched, if_neg placeDb, if_neg moveDb] at isDb
      exact staged.db_new (Option.some.inj isDb).symm

/-- The recovery brings the old state back, or one of its operations fails and the
live places hold no complete state. -/
theorem recover_triple (begun : Begun live done) :
    Triple (fun s => s = switched staged done done) (recover faults)
      (fun _ s => OldLive live s.disk ∧ ∀ op ∈ done, ∀ back ∈ undo op, faults back = false)
      (fun _ => Broken faults staged done) := by
  have noTree : Triple (fun s => s = switched staged done done)
      (.when (fun s => s.newBlobs && s.disk.blobRoot.isSome) (.modify .dropBlobs))
      (fun _ => Recovering faults staged done done)
      (fun _ : SwitchError => Broken faults staged done) := by
    apply Triple.when
    · rintro s ⟨rfl, impossible⟩
      simp [switched, begun.placeBlobs] at impossible
    · rintro s rfl _
      exact ⟨rfl, fun _ => id, fun op member gone => absurd member gone⟩
  have blobs := takeBack faults staged done done .moveBlobs
    (fun s => s.movedBlobs && s.disk.oldBlobs.isSome) rfl
    (by by_cases member : SwitchOp.moveBlobs ∈ done <;> simp [switched, member])
    (fun member => perform_recoverBlobs member begun.placeBlobs)
  have newDb := takeBack faults staged done (without done .moveBlobs) .placeDb
    (fun s => s.newDb && s.disk.db.isSome) rfl
    (by by_cases member : SwitchOp.placeDb ∈ done <;> simp [switched, member])
    (fun member => perform_dropDb (by simpa using begun.placeDb (mem_without.mp member).1))
  have oldDb := takeBack faults staged done (without (without done .moveBlobs) .placeDb) .moveDb
    (fun s => s.movedDb && s.disk.oldDb.isSome) rfl
    (by by_cases member : SwitchOp.moveDb ∈ done <;> simp [switched, member])
    (fun member => perform_recoverDb member (by simp))
  refine noTree.bind (fun _ => ?_)
  refine (blobs.weaken (fun _ => id) (fun _ _ => id) ?_).bind (fun _ => ?_)
  · intro _ s stuck
    refine stuck.broken begun ?_
    have member := stuck.2.1
    rintro (old | new)
    · simpa [switched, begun.placeBlobs, member] using old.blobs
    · simpa [switched, begun.placeBlobs, member] using new.blobs
  refine (newDb.weaken (fun _ => id) (fun _ _ => id) ?_).bind (fun _ => ?_)
  · intro _ s stuck
    refine stuck.broken begun ?_
    have member : .placeDb ∈ done := stuck.2.2.1
    rintro (old | new)
    · have isDb := old.db
      simp only [switched, mem_without, member, true_and, ne_eq, reduceCtorEq, not_false_eq_true,
        if_true] at isDb
      exact staged.db_new (Option.some.inj isDb)
    · have isTree := new.blobs
      simp only [switched, mem_without, begun.placeBlobs, false_and, if_false, ne_eq,
        not_true_eq_false, and_false] at isTree
      exact staged.blobs_new (Option.some.inj isTree).symm
  refine (oldDb.weaken (fun _ => id) (fun _ _ => id) ?_).bind (fun _ => ?_)
  · intro _ s stuck
    refine stuck.broken begun ?_
    have member : .moveDb ∈ done := stuck.2.2.1
    rintro (old | new)
    · simpa [switched, member] using old.db
    · simpa [switched, member] using new.db
  -- the sidecars, in the order they were moved in
  intro s recovering
  have sidecars : s.oldSidecars = suffixes.filter (fun suffix => .moveSidecar suffix ∈ done) := by
    rw [recovering.1]
    rfl
  refine (recoverSidecars_triple faults staged begun s.oldSidecars).weaken
    (fun _ => id) ?_ (fun _ _ => id) s ⟨_, recovering, ?_, ?_, by simp, by simp, by simp⟩
  · rintro _ s' ⟨left, ⟨rfl, within, fine⟩, _, members, moveDb, placeDb, moveBlobs⟩
    have placeBlobs : .placeBlobs ∉ left := fun inside => begun.placeBlobs (within inside)
    have noSidecar : ∀ suffix, .moveSidecar suffix ∉ left := by
      intro suffix inside
      cases (members suffix).mp inside
    refine ⟨⟨?_, ?_, ?_⟩, ?_⟩
    · simp [switched, placeDb, moveDb]
    · simp [switched, noSidecar]
    · simp [switched, placeBlobs, moveBlobs]
    · intro op member back isBack
      by_cases inside : op ∈ left
      · cases op with
        | moveSidecar suffix => exact absurd inside (noSidecar suffix)
        | moveDb => exact absurd inside moveDb
        | placeDb => exact absurd inside placeDb
        | moveBlobs => exact absurd inside moveBlobs
        | _ => cases isBack
      · exact fine op member inside back isBack
  · rw [sidecars]
    exact List.Pairwise.filter _ (by decide)
  · intro suffix
    rw [sidecars]
    cases suffix <;> simp [suffixes]

/-! ### The whole switch -/

/-- The `try` with its `except`: the new state is live, or the old one is again,
or the recovery fails and neither is. -/
theorem switchOrRecover_triple (faults : SwitchFaults) (staged : Staged live) : Triple (fun s => s = .start (live.disk staged))
    (switchOrRecover faults)
    (fun _ s => NewLive staged s.disk ∧ ∀ op ∈ switchOps live, faults op = false)
    (fun _ s => (OldLive live s.disk ∧
        ∀ op ∈ performed faults live, ∀ back ∈ undo op, faults back = false) ∨
      Broken faults staged (performed faults live) s ∧ ∃ op ∈ switchOps live, faults op = true) := by
  have started : Triple (fun s => s = .start (live.disk staged)) (moves faults)
      (fun _ s => NewLive staged s.disk ∧ ∀ op ∈ switchOps live, faults op = false)
      (fun _ => Interrupted faults staged) := by
    refine (moves_at faults staged).weaken ?_ ?_ (fun _ _ => id)
    · rintro s rfl
      refine ⟨?_, rfl⟩
      intro op impossible
      cases impossible
    · rintro _ s ⟨fine, rfl⟩
      refine ⟨⟨?_, ?_, ?_⟩, fine⟩
      · simp [switched, switchOps]
      · intro suffix
        change (if .moveSidecar suffix ∈ switchOps live then none else live.sidecar suffix) = none
        cases present : live.sidecar suffix with
        | none => exact ite_self none
        | some file => cases suffix <;> simp [switchOps, suffixes, present]
      · simp [switched, switchOps]
  refine started.rescue (fun _ => ?_)
  rintro s ⟨done, op, rest, ops, fails, fine, rfl⟩
  have stopped : performed faults live = done := by
    unfold performed
    rw [ops, List.takeWhile_append_of_pos (by simpa using fine),
      List.takeWhile_cons_of_neg (by simp [fails]), List.append_nil]
  have failed : ∃ op ∈ switchOps live, faults op = true := by
    refine ⟨op, ?_, fails⟩
    rw [ops]
    exact List.mem_append_right _ List.mem_cons_self
  rw [stopped]
  refine Triple.bind (P := fun s => s = switched staged done done) ?_
    (fun _ => Triple.fail (fun _ => Or.inl)) _ rfl
  exact (recover_triple (begun_of_failed ops)).weaken (fun _ => id) (fun _ _ => id)
    (fun _ _ broken => Or.inr ⟨broken, failed⟩)

theorem nameOldPaths_eq (s : SwitchState File Tree) : nameOldPaths faults s =
    if faults .nameOldDb = true ∨ faults .nameOldBlobs = true then (.error .osError, s)
    else (.ok (), s) := by
  change Script.bind (operate faults .nameOldDb) (fun _ => operate faults .nameOldBlobs) s = _
  unfold Script.bind operate Script.attempt perform
  cases faults .nameOldDb <;> cases faults .nameOldBlobs <;> rfl

theorem replaceLive_eq (s : SwitchState File Tree) : replaceLive faults s =
    if faults .nameOldDb = true ∨ faults .nameOldBlobs = true then (.error .osError, s)
    else ((switchOrRecover faults s).1, (switchOrRecover faults s).2.cleanUp) := by
  change Script.bind (nameOldPaths faults) _ s = _
  unfold Script.bind
  by_cases named : faults .nameOldDb = true ∨ faults .nameOldBlobs = true
  · rw [nameOldPaths_eq, if_pos named, if_pos named]
  · rw [nameOldPaths_eq, if_neg named, if_neg named]
    rfl

end Steps

/-- A switch is safe when the old state or the new one is on the disk at its end,
and the `finally` block deletes nothing unless the live places are complete. -/
structure Safe (faults : SwitchFaults) {live : Live File Tree} (staged : Staged live) : Prop where
  kept : OldKept live (replaceLive faults (.start (live.disk staged))).2.disk ∨
    NewLive staged (replaceLive faults (.start (live.disk staged))).2.disk
  deleted : (nameOldPaths faults (.start (live.disk staged))).1 = .ok () →
    (switchOrRecover faults (.start (live.disk staged))).2.cleanUp.disk ≠
        (switchOrRecover faults (.start (live.disk staged))).2.disk →
      Complete staged (switchOrRecover faults (.start (live.disk staged))).2.disk

theorem SwitchState.cleanUp_old {live : Live File Tree} {s : SwitchState File Tree}
    (old : OldLive live s.disk) : OldLive live s.cleanUp.disk := ⟨old.db, old.sidecar, old.blobs⟩

theorem SwitchState.cleanUp_new {live : Live File Tree} {staged : Staged live}
    {s : SwitchState File Tree} (new : NewLive staged s.disk) : NewLive staged s.cleanUp.disk :=
  ⟨new.db, new.sidecar, new.blobs⟩

/-- A live switch is safe exactly when its old paths cannot be named, nothing of it
fails, or its recovery can take everything back. -/
theorem replaceLive_safe_iff (faults : SwitchFaults) (live : Live File Tree) (staged : Staged live) :
    Safe faults staged ↔ Recoverable faults live := by
  by_cases named : faults .nameOldDb = true ∨ faults .nameOldBlobs = true
  · refine ⟨fun _ => Or.inl named, fun _ => ⟨?_, ?_⟩⟩
    · rw [replaceLive_eq, if_pos named]
      exact Or.inl (OldLive.kept ⟨rfl, fun _ => rfl, rfl⟩)
    · intro impossible
      rw [nameOldPaths_eq, if_pos named] at impossible
      cases impossible
  · have last : (replaceLive faults (.start (live.disk staged))).2 =
        (switchOrRecover faults (.start (live.disk staged))).2.cleanUp := by
      rw [replaceLive_eq, if_neg named]
    have ends := switchOrRecover_triple faults staged _ rfl
    constructor
    · intro safe
      refine Or.inr ?_
      rcases ends.cases with ⟨_, _, _, fine⟩ | ⟨_, _, ⟨_, fine⟩ | ⟨⟨⟨incomplete, left⟩, _⟩, _⟩⟩
      · exact Or.inl fine
      · exact Or.inr fine
      · -- the staged tree is deleted although neither state is live
        refine absurd (safe.deleted (by rw [nameOldPaths_eq, if_neg named]) ?_) incomplete
        intro same
        rw [← same] at left
        cases left
    · intro recoverable
      have complete : Complete staged (switchOrRecover faults (.start (live.disk staged))).2.disk := by
        rcases ends.cases with ⟨_, _, new, _⟩ | ⟨_, _, ⟨old, _⟩ | ⟨⟨_, broken⟩, failed⟩⟩
        · exact Or.inr new
        · exact Or.inl old
        · obtain ⟨op, member, back, isBack, fails⟩ := broken
          obtain ⟨other, inside, otherFails⟩ := failed
          rcases recoverable with unnamed | fine | fine
          · exact absurd unnamed named
          · rw [fine other inside] at otherFails
            cases otherFails
          · rw [fine op member back isBack] at fails
            cases fails
      refine ⟨?_, fun _ _ => complete⟩
      rw [last]
      rcases complete with old | new
      · exact Or.inl (SwitchState.cleanUp_old old).kept
      · exact Or.inr (SwitchState.cleanUp_new new)

/-- Placing the new tree fails, and so does bringing the old one back. -/
def bothTreesFail : SwitchFaults
  | .placeBlobs => true
  | .recoverBlobs => true
  | _ => false

def plainLive : Live ℕ ℕ := ⟨0, fun _ => none, 0⟩

def plainStaged : Staged plainLive := ⟨1, 1, by decide, by decide⟩

theorem replaceLive_loses_both : ¬Safe bothTreesFail plainStaged := by
  intro safe
  rcases safe.kept with old | new
  · rcases old.blobs with live | kept
    · cases live
    · cases kept
  · cases new.blobs

end FolioLattice.Deployment
