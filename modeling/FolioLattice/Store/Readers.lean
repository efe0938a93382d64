/-
What an actor may read, whether or not the caller names an actor: the check of a
single artifact and the condition that queries put on rows agree.
-/

import FolioLattice.Store.System

namespace FolioLattice.Store

open FolioLattice.Text FolioLattice.Data FolioLattice.Relational
open FolioLattice.Effects (except_bind_ok)

def MayRead (db : Database) (actor : Option String) (artifact : ArtifactRow) : Prop :=
  authorize db artifact.tenantId artifact.id actor .read = .ok ()

instance (db : Database) (actor : Option String) (artifact : ArtifactRow) :
    Decidable (MayRead db actor artifact) :=
  inferInstanceAs (Decidable (authorize db artifact.tenantId artifact.id actor .read = .ok ()))

variable {db : Database} {actor : Option String}

theorem mayRead_iff (sound : StoreSound db) {artifact : ArtifactRow}
    (member : artifact ∈ db.artifacts) :
    MayRead db actor artifact ↔
      ∀ x, actor = some x → ValidText x maxNameLength ∧ db.permits artifact x .read = true := by
  unfold MayRead
  rw [authorize_ok_iff, findArtifact_of_mem sound.versions.artifactIds member]
  simp only [Option.some.injEq, exists_eq_left']

theorem accessClause_ok_iff {access : ArtifactRow → Bool} {action : Action} :
    accessClause db actor action = .ok access ↔
      (∀ x, actor = some x → ValidText x maxNameLength) ∧
        access = fun artifact => actor.all (fun x => db.permits artifact x action) := by
  unfold accessClause
  cases actor with
  | none =>
      simp only [reduceCtorEq, false_implies, implies_true, true_and, Option.all_none,
        Except.ok.injEq]
      exact eq_comm
  | some x =>
      simp only [Option.some.injEq, forall_eq', Option.all_some]
      constructor
      · intro done
        obtain ⟨_, valid, same⟩ := except_bind_ok done
        exact ⟨validateText_ok_iff.mp valid, (Except.ok.inj same).symm⟩
      · rintro ⟨valid, same⟩
        rw [validateText_of_valid valid, same]
        rfl

/-- Who may read anything has a name that the queries accept. -/
theorem MayRead.accessClause (sound : StoreSound db) {artifact : ArtifactRow}
    (member : artifact ∈ db.artifacts) (mayRead : MayRead db actor artifact) :
    ∃ access, accessClause db actor .read = .ok access := by
  refine ⟨_, accessClause_ok_iff.mpr ⟨?_, rfl⟩⟩
  intro x same
  exact ((mayRead_iff sound member).mp mayRead x same).1

theorem access_iff (sound : StoreSound db) {access : ArtifactRow → Bool}
    (granted : accessClause db actor .read = .ok access) {artifact : ArtifactRow}
    (member : artifact ∈ db.artifacts) : access artifact = true ↔ MayRead db actor artifact := by
  obtain ⟨valid, same⟩ := accessClause_ok_iff.mp granted
  rw [mayRead_iff sound member, same]
  cases actor with
  | none => simp
  | some x => simp [valid x rfl]

end FolioLattice.Store
