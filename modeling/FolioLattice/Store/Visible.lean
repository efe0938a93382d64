/-
What an actor may see of a tenant, and that the calls that read depend on it
alone.
-/

import FolioLattice.Store.Graph
import FolioLattice.Store.System

namespace FolioLattice.Store

open FolioLattice.Text FolioLattice.Data FolioLattice.Relational

/-! ### Visible rows -/

/-- The actor owns the artifact or holds an active grant to read it. -/
def Database.visible (db : Database) (tenantId actor : String) (artifact : ArtifactRow) : Bool :=
  artifact.tenantId = tenantId && db.permits artifact actor .read

def Database.sees (db : Database) (tenantId actor artifactId : String) : Bool :=
  db.artifacts.any (fun a => a.id = artifactId && db.visible tenantId actor a)

/-- Both ends of the edge are visible. -/
def Database.seesEdge (db : Database) (tenantId actor : String) (edge : EdgeRow) : Bool :=
  edge.tenantId = tenantId && db.sees tenantId actor edge.sourceArtifactId &&
    db.sees tenantId actor edge.targetArtifactId

/-- The two states agree on what the actor may see of the tenant. -/
structure Agree (tenantId actor : String) (disk disk' : Disk) : Prop where
  artifacts : ∀ artifact,
    (artifact ∈ disk.db.artifacts ∧ disk.db.visible tenantId actor artifact = true) ↔
      (artifact ∈ disk'.db.artifacts ∧ disk'.db.visible tenantId actor artifact = true)
  versions : ∀ version,
    (version ∈ disk.db.versions ∧ version.tenantId = tenantId ∧
        disk.db.sees tenantId actor version.artifactId = true) ↔
      (version ∈ disk'.db.versions ∧ version.tenantId = tenantId ∧
        disk'.db.sees tenantId actor version.artifactId = true)
  chunks : ∀ chunk,
    (chunk ∈ disk.db.chunks ∧ chunk.tenantId = tenantId ∧
        disk.db.sees tenantId actor chunk.artifactId = true) ↔
      (chunk ∈ disk'.db.chunks ∧ chunk.tenantId = tenantId ∧
        disk'.db.sees tenantId actor chunk.artifactId = true)
  edges : ∀ edge,
    (edge ∈ disk.db.edges ∧ disk.db.seesEdge tenantId actor edge = true) ↔
      (edge ∈ disk'.db.edges ∧ disk'.db.seesEdge tenantId actor edge = true)
  blobs : ∀ version ∈ disk.db.versions, version.tenantId = tenantId →
    disk.db.sees tenantId actor version.artifactId = true →
      disk.files (blobPath version.blobHash) = disk'.files (blobPath version.blobHash)

theorem sees_iff {db : Database} {tenantId actor artifactId : String} :
    db.sees tenantId actor artifactId = true ↔
      ∃ artifact ∈ db.artifacts, artifact.id = artifactId ∧
        db.visible tenantId actor artifact = true := by
  unfold Database.sees
  rw [List.any_eq_true]
  simp only [Bool.and_eq_true, decide_eq_true_eq]

theorem visible_iff {db : Database} {tenantId actor : String} {artifact : ArtifactRow} :
    db.visible tenantId actor artifact = true ↔
      artifact.tenantId = tenantId ∧ db.permits artifact actor .read = true := by
  unfold Database.visible
  rw [Bool.and_eq_true, decide_eq_true_eq]

theorem seesEdge_iff {db : Database} {tenantId actor : String} {edge : EdgeRow} :
    db.seesEdge tenantId actor edge = true ↔
      edge.tenantId = tenantId ∧ db.sees tenantId actor edge.sourceArtifactId = true ∧
        db.sees tenantId actor edge.targetArtifactId = true := by
  unfold Database.seesEdge
  rw [Bool.and_eq_true, Bool.and_eq_true, decide_eq_true_eq, and_assoc]

section Agreement

variable {tenantId actor : String} {disk disk' : Disk}

theorem Agree.sees (agree : Agree tenantId actor disk disk') (artifactId : String) :
    disk.db.sees tenantId actor artifactId = disk'.db.sees tenantId actor artifactId := by
  rw [Bool.eq_iff_iff, sees_iff, sees_iff]
  constructor
  · rintro ⟨artifact, inside, sameId, visible⟩
    obtain ⟨inside', visible'⟩ := (agree.artifacts artifact).mp ⟨inside, visible⟩
    exact ⟨artifact, inside', sameId, visible'⟩
  · rintro ⟨artifact, inside, sameId, visible⟩
    obtain ⟨inside', visible'⟩ := (agree.artifacts artifact).mpr ⟨inside, visible⟩
    exact ⟨artifact, inside', sameId, visible'⟩

theorem Agree.symm (agree : Agree tenantId actor disk disk') : Agree tenantId actor disk' disk where
  artifacts := fun artifact => (agree.artifacts artifact).symm
  versions := fun version => (agree.versions version).symm
  chunks := fun chunk => (agree.chunks chunk).symm
  edges := fun edge => (agree.edges edge).symm
  blobs := by
    intro version inside sameTenant seen
    obtain ⟨inside', _, seen'⟩ := (agree.versions version).mpr ⟨inside, sameTenant, seen⟩
    exact (agree.blobs version inside' sameTenant seen').symm

end Agreement

/-! ### Each read looks at visible rows -/

section Reads

variable {F : Type} [FloatFormat F] {db : Database} {tenantId actor : String}

theorem authorize_read (sound : StoreSound db) (valid : ValidText actor maxNameLength)
    (artifactId : String) :
    authorize db tenantId artifactId (some actor) .read =
      if db.sees tenantId actor artifactId then .ok () else .error notFound := by
  cases seen : db.sees tenantId actor artifactId with
  | true =>
      obtain ⟨artifact, inside, sameId, visible⟩ := sees_iff.mp seen
      obtain ⟨sameTenant, permitted⟩ := visible_iff.mp visible
      rw [if_pos rfl]
      apply authorize_ok_iff.mpr
      refine ⟨artifact, ?_, ?_⟩
      · rw [← sameId, ← sameTenant]
        exact findArtifact_of_mem sound.grants.artifactIds inside
      · intro x isActor
        cases isActor
        exact ⟨valid, permitted⟩
  | false =>
      rw [if_neg Bool.false_ne_true]
      unfold authorize
      cases found : db.findArtifact tenantId artifactId with
      | none => rfl
      | some artifact =>
          obtain ⟨inside, sameId, sameTenant⟩ := findArtifact_some found
          have refused : db.permits artifact actor .read = false := by
            rw [← Bool.not_eq_true]
            intro permitted
            have seen' := sees_iff.mpr
              ⟨artifact, inside, sameId, visible_iff.mpr ⟨sameTenant, permitted⟩⟩
            rw [seen] at seen'
            cases seen'
          unfold Database.permits at refused
          rw [Bool.or_eq_false_iff, decide_eq_false_iff_not, sameId, sameTenant] at refused
          simp only [validateText_of_valid valid, refused.1, refused.2, if_false]
          rfl

theorem accessClause_read (valid : ValidText actor maxNameLength) :
    accessClause db (some actor) .read = .ok (fun artifact => db.permits artifact actor .read) := by
  unfold accessClause
  simp only [validateText_of_valid valid]
  rfl

theorem getArtifact_read (sound : StoreSound db) (valid : ValidText actor maxNameLength)
    (artifactId : String) :
    getArtifact db tenantId artifactId (some actor) =
      match db.artifacts.find? (fun a => a.id = artifactId && db.visible tenantId actor a) with
      | none => .error notFound
      | some artifact => .ok artifact.view := by
  unfold getArtifact
  rw [authorize_read sound valid]
  cases seen : db.sees tenantId actor artifactId with
  | true =>
      obtain ⟨artifact, inside, sameId, visible⟩ := sees_iff.mp seen
      have sameTenant := (visible_iff.mp visible).1
      have found : db.findArtifact tenantId artifactId = some artifact := by
        rw [← sameId, ← sameTenant]
        exact findArtifact_of_mem sound.grants.artifactIds inside
      have found' : db.artifacts.find?
          (fun a => a.id = artifactId && db.visible tenantId actor a) = some artifact := by
        apply sound.grants.artifactIds.find? inside
        · rw [Bool.and_eq_true, decide_eq_true_eq]
          exact ⟨sameId, visible⟩
        · intro other holds
          rw [Bool.and_eq_true, decide_eq_true_eq] at holds
          exact holds.1.trans sameId.symm
      rw [found, found']
      rfl
  | false =>
      have missing : db.artifacts.find?
          (fun a => a.id = artifactId && db.visible tenantId actor a) = none := by
        apply List.find?_eq_none.mpr
        intro artifact inside holds
        rw [Bool.and_eq_true, decide_eq_true_eq] at holds
        have seen' := sees_iff.mpr ⟨artifact, inside, holds⟩
        rw [seen] at seen'
        cases seen'
      rw [missing]
      cases db.findArtifact tenantId artifactId with
      | none => rfl
      | some artifact => rfl

/-- A hidden version and a missing one are refused alike. -/
theorem versionMetadata_read (sound : StoreSound db) (valid : ValidText actor maxNameLength)
    (versionId artifactId : Option String) :
    (versionMetadata db tenantId versionId (some actor) .read artifactId :
        Except Failure (VersionView F)) =
      match db.versions.find? (fun v => (some v.id = versionId && v.tenantId = tenantId &&
          artifactId.all (· = v.artifactId)) && db.sees tenantId actor v.artifactId) with
      | none => .error (.folio "version not found")
      | some version => version.view := by
  have narrowed := sound.versions.versionIds.find?_and
    (p := fun v => some v.id = versionId && v.tenantId = tenantId &&
      artifactId.all (· = v.artifactId))
    (q := fun v => db.sees tenantId actor v.artifactId) (by
      intro a b aHolds bHolds
      simp only [Bool.and_eq_true, decide_eq_true_eq] at aHolds bHolds
      exact Option.some.inj (aHolds.1.1.trans bHolds.1.1.symm))
  unfold versionMetadata Database.findVersion
  rw [narrowed]
  cases db.versions.find? (fun v => some v.id = versionId && v.tenantId = tenantId &&
      artifactId.all (· = v.artifactId)) with
  | none => rfl
  | some version =>
      rw [Option.filter_some]
      simp only [authorize_read sound valid]
      cases db.sees tenantId actor version.artifactId with
      | true => rfl
      | false => rfl

theorem ChunksApart.keyedById {chunks : List ChunkRow} (apart : Apart ChunkRow.clashes chunks) :
    KeyedBy (·.id) chunks := by
  apply apart.keyedBy
  intro new old same
  unfold ChunkRow.clashes
  rw [Bool.or_eq_true]
  exact Or.inl (decide_eq_true same)

theorem ChunksApart.keyedByPlace {chunks : List ChunkRow} (apart : Apart ChunkRow.clashes chunks) :
    KeyedBy (fun c => (c.versionId, c.ordinal)) chunks := by
  apply apart.keyedBy
  intro new old same
  obtain ⟨sameVersion, sameOrdinal⟩ := Prod.mk.inj same
  unfold ChunkRow.clashes
  rw [Bool.or_eq_true, Bool.and_eq_true]
  exact Or.inr ⟨decide_eq_true sameVersion, decide_eq_true sameOrdinal⟩

theorem chunkRows_keyed {db : Database} (sound : StoreSound db) (tenantId artifactId : String)
    (versionId : Option String) :
    KeyedBy ChunkRow.ordinal (db.chunks.filter (fun c =>
      c.tenantId = tenantId && c.artifactId = artifactId && some c.versionId = versionId)) := by
  apply List.Nodup.map_on
  · intro a aMember b bMember sameOrdinal
    simp only [List.mem_filter, Bool.and_eq_true, decide_eq_true_eq] at aMember bMember
    have sameVersion := Option.some.inj (aMember.2.2.trans bMember.2.2.symm)
    exact (ChunksApart.keyedByPlace sound.versions.chunksApart).eq aMember.1 bMember.1
      (by rw [sameVersion, sameOrdinal])
  · exact ((ChunksApart.keyedById sound.versions.chunksApart).filter _).nodup

theorem readChunk_read (sound : StoreSound db) (valid : ValidText actor maxNameLength)
    (chunkId : String) :
    readChunk db tenantId chunkId (some actor) =
      match db.chunks.find? (fun c => (c.id = chunkId && c.tenantId = tenantId) &&
          db.sees tenantId actor c.artifactId) with
      | none => .error (.folio "chunk not found")
      | some chunk => .ok ⟨chunk.descriptor, chunk.content⟩ := by
  have narrowed := (ChunksApart.keyedById sound.versions.chunksApart).find?_and
    (p := fun c => c.id = chunkId && c.tenantId = tenantId)
    (q := fun c => db.sees tenantId actor c.artifactId) (by
      intro a b aHolds bHolds
      simp only [Bool.and_eq_true, decide_eq_true_eq] at aHolds bHolds
      exact aHolds.1.trans bHolds.1.symm)
  unfold readChunk
  rw [narrowed]
  cases db.chunks.find? (fun c => c.id = chunkId && c.tenantId = tenantId) with
  | none => rfl
  | some chunk =>
      rw [Option.filter_some]
      simp only [authorize_read sound valid]
      cases db.sees tenantId actor chunk.artifactId with
      | true => rfl
      | false => rfl

end Reads

end FolioLattice.Store
