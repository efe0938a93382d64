/-
The versions of an artifact form one chain, in the order they were written, that
ends at the version the artifact points to.
-/

import FolioLattice.Store.Effects

namespace FolioLattice.Store

open FolioLattice.Text FolioLattice.Data FolioLattice.Relational

/-! ### Chains -/

def ofArtifact (artifact : ArtifactRow) (version : VersionRow) : Bool :=
  version.artifactId = artifact.id && version.tenantId = artifact.tenantId

/-- The versions of an artifact, oldest first. -/
def Database.history (db : Database) (artifact : ArtifactRow) : List VersionRow :=
  db.versions.filter (ofArtifact artifact)

theorem timeKey_keyedBy {rows : List VersionRow} (keyed : KeyedBy (·.id) rows) :
    KeyedBy (fun v : VersionRow => toLex (v.createdAt, v.id)) rows := by
  apply List.Nodup.of_map (fun key => (ofLex key).2)
  rw [List.map_map]
  exact keyed

/-- Every version names the one before it as its parent. -/
def Linked : Option String → List VersionRow → Prop
  | _, [] => True
  | parent, version :: rest => version.parentVersionId = parent ∧ Linked (some version.id) rest

structure Chain (artifact : ArtifactRow) (history : List VersionRow) : Prop where
  linked : Linked none history
  pointed : ∃ version, history.getLast? = some version ∧
    artifact.currentVersionId = some version.id ∧ artifact.mediaType = version.mediaType

theorem Linked.append {parent : Option String} {history : List VersionRow} {version : VersionRow}
    (linked : Linked parent history)
    (child : version.parentVersionId = (history.getLast?.map (·.id)).or parent) :
    Linked parent (history ++ [version]) := by
  induction history generalizing parent with
  | nil =>
      simp only [List.getLast?_nil, Option.map_none, Option.none_or] at child
      exact ⟨child, trivial⟩
  | cons first rest ih =>
      refine ⟨linked.1, ih linked.2 ?_⟩
      cases rest with
      | nil =>
          simp only [List.getLast?_singleton, Option.map_some, Option.some_or] at child
          simp only [List.getLast?_nil, Option.map_none, Option.none_or]
          exact child
      | cons second rest =>
          rw [List.getLast?_cons_cons] at child
          rw [child]
          cases last : (second :: rest).getLast? with
          | none => exact absurd (List.getLast?_eq_none_iff.mp last) (List.cons_ne_nil _ _)
          | some v => rfl

/-- A version of a linked list is its first or the child of an earlier one. -/
theorem Linked.parent {parent : Option String} {history : List VersionRow}
    (linked : Linked parent history) {version : VersionRow} (member : version ∈ history) :
    (history.head? = some version ∧ version.parentVersionId = parent) ∨
      ∃ earlier ∈ history, version.parentVersionId = some earlier.id := by
  induction history generalizing parent with
  | nil => cases member
  | cons first rest ih =>
      rcases List.mem_cons.mp member with same | later
      · subst same
        exact Or.inl ⟨rfl, linked.1⟩
      · right
        rcases ih linked.2 later with ⟨_, isFirst⟩ | ⟨earlier, inside, isChild⟩
        · exact ⟨first, List.mem_cons_self, isFirst⟩
        · exact ⟨earlier, List.mem_cons_of_mem _ inside, isChild⟩

/-- Whether the history of `b` starts with `a`'s child. -/
theorem Linked.parents_eq {parent : Option String} {history : List VersionRow}
    (linked : Linked parent history) :
    history.map (·.parentVersionId) =
      (parent :: history.map (fun v => some v.id)).take history.length := by
  induction history generalizing parent with
  | nil => rfl
  | cons first rest ih =>
      rw [List.map_cons, linked.1, ih linked.2]
      rfl

theorem Linked.parents_nodup {history : List VersionRow} (linked : Linked none history)
    (keyed : KeyedBy (·.id) history) : KeyedBy (·.parentVersionId) history := by
  have ids : (history.map (fun v => some v.id)).Nodup := by
    have injective := List.Nodup.map (Option.some_injective String) keyed
    rwa [List.map_map] at injective
  have noNone : none ∉ history.map (fun v => some v.id) := by
    intro member
    obtain ⟨v, _, impossible⟩ := List.mem_map.mp member
    cases impossible
  unfold KeyedBy
  rw [linked.parents_eq]
  exact (List.nodup_cons.mpr ⟨noNone, ids⟩).sublist (List.take_sublist _ _)

/-- The last version is nobody's parent; every other one is. -/
theorem Linked.childless {history : List VersionRow} (linked : Linked none history)
    (keyed : KeyedBy (·.id) history) {version : VersionRow} (member : version ∈ history) :
    (∀ other ∈ history, other.parentVersionId ≠ some version.id) ↔
      history.getLast? = some version := by
  obtain ⟨before, after, split⟩ := List.append_of_mem member
  have parents := linked.parents_eq
  cases after with
  | nil =>
      rw [split, List.getLast?_append, List.getLast?_singleton]
      simp only [Option.some_or, iff_true]
      intro other inside isParent
      rw [← split] at inside
      have taken : some version.id ∈
          (none :: history.map (fun v => some v.id)).take history.length := by
        rw [← parents, ← isParent]
        exact List.mem_map_of_mem inside
      have shorter : (none :: history.map (fun v => some v.id)).take history.length =
          none :: before.map (fun v => some v.id) := by
        rw [split]
        simp
      rw [shorter] at taken
      rcases List.mem_cons.mp taken with impossible | earlier
      · cases impossible
      · obtain ⟨v, inBefore, same⟩ := List.mem_map.mp earlier
        have distinct := keyed
        unfold KeyedBy at distinct
        rw [split, List.map_append, List.nodup_append] at distinct
        exact distinct.2.2 v.id (List.mem_map_of_mem inBefore) version.id (by simp)
          (Option.some.inj same)
  | cons child rest =>
      constructor
      · intro childless
        have isChild : child.parentVersionId = some version.id := by
          have position : (history.map (·.parentVersionId))[before.length + 1]? =
              some child.parentVersionId := by
            rw [split]
            simp
          have taken : ((none :: history.map (fun v => some v.id)).take history.length)[
              before.length + 1]? = some (some version.id) := by
            rw [split]
            simp
          rw [parents, taken] at position
          exact (Option.some.inj position).symm
        refine absurd isChild (childless child ?_)
        rw [split]
        exact List.mem_append_right before (by simp)
      · intro last
        rw [split, List.getLast?_append, List.getLast?_cons_cons] at last
        have inRest : version ∈ child :: rest := by
          cases found : (child :: rest).getLast? with
          | none => exact absurd (List.getLast?_eq_none_iff.mp found) (List.cons_ne_nil _ _)
          | some v =>
              rw [found, Option.some_or] at last
              rw [← Option.some.inj last]
              exact List.mem_of_getLast? found
        have distinct := keyed.nodup
        rw [split, List.nodup_append] at distinct
        exact absurd inRest (List.nodup_cons.mp distinct.2.1).1

/-! ### The version tables -/

/-- The keys and references of the tables that versions are written to. -/
structure VersionsKeyed (db : Database) : Prop where
  artifactIds : KeyedBy (·.id) db.artifacts
  versionIds : KeyedBy (·.id) db.versions
  chunksApart : Apart ChunkRow.clashes db.chunks
  versionHome : ∀ version ∈ db.versions, ∃ artifact ∈ db.artifacts,
    ofArtifact artifact version = true
  chunkHome : ∀ chunk ∈ db.chunks, ∃ version ∈ db.versions,
    version.id = chunk.versionId ∧ version.artifactId = chunk.artifactId ∧
      version.tenantId = chunk.tenantId
  indexed : db.chunkFts = db.chunks.map ChunkRow.fts
  substringIndexed : db.chunkSubstringFts = db.chunks.map ChunkRow.fts

structure VersionsSound (db : Database) : Prop extends VersionsKeyed db where
  chain : ∀ artifact ∈ db.artifacts, Chain artifact (db.history artifact)

theorem VersionsSound.created : VersionsSound Database.created where
  artifactIds := KeyedBy.nil _
  versionIds := KeyedBy.nil _
  chunksApart := List.Pairwise.nil
  versionHome := by intro version member; cases member
  chunkHome := by intro chunk member; cases member
  indexed := rfl
  substringIndexed := rfl
  chain := by intro artifact member; cases member

/-- The state depends on these tables alone. -/
theorem VersionsSound.congr {db db' : Database} (sound : VersionsSound db)
    (artifacts : db'.artifacts = db.artifacts) (versions : db'.versions = db.versions)
    (chunks : db'.chunks = db.chunks) (fts : db'.chunkFts = db.chunkFts)
    (substrings : db'.chunkSubstringFts = db.chunkSubstringFts) : VersionsSound db' where
  artifactIds := by rw [artifacts]; exact sound.artifactIds
  versionIds := by rw [versions]; exact sound.versionIds
  chunksApart := by rw [chunks]; exact sound.chunksApart
  versionHome := by rw [versions, artifacts]; exact sound.versionHome
  chunkHome := by rw [chunks, versions]; exact sound.chunkHome
  indexed := by rw [fts, chunks]; exact sound.indexed
  substringIndexed := by rw [substrings, chunks]; exact sound.substringIndexed
  chain := by
    intro artifact member
    rw [artifacts] at member
    have same : db'.history artifact = db.history artifact := by
      unfold Database.history
      rw [versions]
    rw [same]
    exact sound.chain artifact member

/-! ### Adding a version -/

/-- What a new version must satisfy: its artifact exists and points to its
parent, and its rows are new. -/
structure Extends (db : Database) (row : VersionRow) (chunks : List ChunkRow) : Prop where
  artifact : ∃ artifact ∈ db.artifacts, ofArtifact artifact row = true ∧
    row.parentVersionId = artifact.currentVersionId
  fresh : ∀ old ∈ db.versions, old.id ≠ row.id
  apart : Apart ChunkRow.clashes (db.chunks ++ chunks)
  chunkOf : ∀ chunk ∈ chunks, chunk.versionId = row.id ∧ chunk.artifactId = row.artifactId ∧
    chunk.tenantId = row.tenantId

theorem ofArtifact_iff {artifact : ArtifactRow} {version : VersionRow} :
    ofArtifact artifact version = true ↔
      version.artifactId = artifact.id ∧ version.tenantId = artifact.tenantId := by
  unfold ofArtifact
  rw [Bool.and_eq_true, decide_eq_true_eq, decide_eq_true_eq]

def isTarget (row : VersionRow) (artifact : ArtifactRow) : Bool :=
  artifact.id = row.artifactId && artifact.tenantId = row.tenantId

theorem isTarget_eq (row : VersionRow) (artifact : ArtifactRow) :
    isTarget row artifact = ofArtifact artifact row := by
  unfold isTarget ofArtifact
  rw [eq_comm, Bool.eq_iff_iff]
  simp only [Bool.and_eq_true, decide_eq_true_eq]
  exact and_congr eq_comm eq_comm

theorem addVersion_history (db : Database) (row : VersionRow) (chunks : List ChunkRow)
    (artifact : ArtifactRow) :
    (db.addVersion row chunks).history artifact =
      if ofArtifact artifact row then db.history artifact ++ [row] else db.history artifact := by
  have filtered : (db.addVersion row chunks).history artifact =
      (db.versions ++ [row]).filter (ofArtifact artifact) := rfl
  rw [filtered, List.filter_append]
  split
  · rename_i target
    rw [List.filter_singleton, target, cond_true]
    rfl
  · rename_i other
    rw [List.filter_singleton, (Bool.not_eq_true _).mp other, cond_false, List.append_nil]
    rfl

theorem addVersion_artifacts (db : Database) (row : VersionRow) (chunks : List ChunkRow) :
    (db.addVersion row chunks).artifacts = updateWhere (isTarget row)
      (fun a => { a with currentVersionId := some row.id, mediaType := row.mediaType })
      db.artifacts := rfl

theorem addVersion_target {db : Database} {row : VersionRow} {artifact : ArtifactRow}
    (chunks : List ChunkRow) (member : artifact ∈ db.artifacts)
    (target : isTarget row artifact = true) :
    { artifact with currentVersionId := some row.id, mediaType := row.mediaType } ∈
      (db.addVersion row chunks).artifacts := by
  rw [addVersion_artifacts]
  exact mem_updateWhere.mpr (Or.inl ⟨artifact, member, target, rfl⟩)

theorem addVersion_other {db : Database} {row : VersionRow} {artifact : ArtifactRow}
    (chunks : List ChunkRow) (member : artifact ∈ db.artifacts)
    (other : isTarget row artifact = false) : artifact ∈ (db.addVersion row chunks).artifacts := by
  rw [addVersion_artifacts]
  exact mem_updateWhere.mpr (Or.inr ⟨member, other⟩)

/-- The step: the version becomes the last of its artifact's chain.  An artifact
just created has no version before it. -/
theorem VersionsKeyed.addVersion {db : Database} {row : VersionRow} {chunks : List ChunkRow}
    (keyed : VersionsKeyed db)
    (chain : ∀ artifact ∈ db.artifacts, Chain artifact (db.history artifact) ∨
      (ofArtifact artifact row = true ∧ db.history artifact = [] ∧
        artifact.currentVersionId = none))
    (extending : Extends db row chunks) : VersionsSound (db.addVersion row chunks) where
  artifactIds := keyed.artifactIds.updateWhere (fun _ => rfl)
  versionIds := keyed.versionIds.append extending.fresh
  chunksApart := extending.apart
  versionHome := by
    intro version member
    have home : ∃ artifact ∈ db.artifacts, ofArtifact artifact version = true := by
      rcases List.mem_append.mp member with old | new
      · exact keyed.versionHome version old
      · rw [List.mem_singleton.mp new]
        obtain ⟨artifact, inside, target, _⟩ := extending.artifact
        exact ⟨artifact, inside, target⟩
    obtain ⟨artifact, inside, belongs⟩ := home
    cases target : isTarget row artifact with
    | true => exact ⟨_, addVersion_target chunks inside target, belongs⟩
    | false => exact ⟨artifact, addVersion_other chunks inside target, belongs⟩
  chunkHome := by
    intro chunk member
    rcases List.mem_append.mp member with old | new
    · obtain ⟨version, inside, same⟩ := keyed.chunkHome chunk old
      exact ⟨version, List.mem_append_left _ inside, same⟩
    · obtain ⟨versionId, artifactId, tenantId⟩ := extending.chunkOf chunk new
      exact ⟨row, List.mem_append_right _ (List.mem_singleton_self row), versionId.symm,
        artifactId.symm, tenantId.symm⟩
  indexed := by
    have appended : (db.addVersion row chunks).chunkFts = db.chunkFts ++ chunks.map ChunkRow.fts :=
      rfl
    rw [appended, keyed.indexed, ← List.map_append]
    rfl
  substringIndexed := by
    have appended : (db.addVersion row chunks).chunkSubstringFts =
        db.chunkSubstringFts ++ chunks.map ChunkRow.fts := rfl
    rw [appended, keyed.substringIndexed, ← List.map_append]
    rfl
  chain := by
    intro artifact member
    rw [addVersion_artifacts] at member
    rw [addVersion_history]
    rcases mem_updateWhere.mp member with ⟨old, inside, target, moved⟩ | ⟨inside, other⟩
    · -- the artifact written to: its history grows by a child of its last version
      obtain ⟨found, foundMember, foundTarget, isChild⟩ := extending.artifact
      rw [isTarget_eq] at target
      have same : old = found := by
        apply keyed.artifactIds.eq inside foundMember
        exact (ofArtifact_iff.mp target).1.symm.trans (ofArtifact_iff.mp foundTarget).1
      subst same
      have targeted : ofArtifact artifact row = true := by
        rw [← moved]
        exact target
      have sameHistory : db.history artifact = db.history old := by
        rw [← moved]
        rfl
      rw [if_pos targeted, sameHistory]
      constructor
      · rcases chain old inside with known | ⟨_, empty, unset⟩
        · apply known.linked.append
          obtain ⟨last, isLast, points, _⟩ := known.pointed
          rw [isChild, points, isLast]
          rfl
        · rw [empty]
          exact ⟨isChild.trans unset, trivial⟩
      · refine ⟨row, ?_, ?_, ?_⟩
        · rw [List.getLast?_append, List.getLast?_singleton]
          rfl
        · rw [← moved]
        · rw [← moved]
    · rw [isTarget_eq] at other
      rw [if_neg (by rw [other]; exact Bool.false_ne_true)]
      rcases chain artifact inside with known | ⟨target, _⟩
      · exact known
      · rw [other] at target
        cases target

/-! ### The calls -/

/-- An artifact without versions of its own id. -/
theorem VersionsKeyed.addArtifact {db : Database} (keyed : VersionsKeyed db)
    (tenants : List TenantRow) (artifact : ArtifactRow) (grants : List GrantRow)
    (fresh : ∀ old ∈ db.artifacts, old.id ≠ artifact.id) :
    VersionsKeyed (db.addArtifact tenants artifact grants) where
  artifactIds := keyed.artifactIds.append fresh
  versionIds := keyed.versionIds
  chunksApart := keyed.chunksApart
  versionHome := by
    intro version member
    obtain ⟨home, inside, belongs⟩ := keyed.versionHome version member
    exact ⟨home, List.mem_append_left _ inside, belongs⟩
  chunkHome := keyed.chunkHome
  indexed := keyed.indexed
  substringIndexed := keyed.substringIndexed

theorem VersionsKeyed.history_new {db : Database} (keyed : VersionsKeyed db)
    (artifact : ArtifactRow) (fresh : ∀ old ∈ db.artifacts, old.id ≠ artifact.id) :
    db.history artifact = [] := by
  apply List.filter_eq_nil_iff.mpr
  intro version member belongs
  obtain ⟨home, inside, homeBelongs⟩ := keyed.versionHome version member
  apply fresh home inside
  rw [← (ofArtifact_iff.mp homeBelongs).1, (ofArtifact_iff.mp belongs).1]

theorem VersionInput.chunkRows_of (input : VersionInput) (settings : Settings)
    (draw : VersionDraw) :
    ∀ chunk ∈ input.chunkRows draw, chunk.versionId = (input.row settings draw).id ∧
      chunk.artifactId = (input.row settings draw).artifactId ∧
      chunk.tenantId = (input.row settings draw).tenantId := by
  intro chunk member
  unfold VersionInput.chunkRows at member
  split at member
  · cases member
  · obtain ⟨piece, _, same⟩ := List.mem_map.mp member
    rw [← same]
    exact ⟨rfl, rfl, rfl⟩

section Calls

variable {F : Type}

theorem VersionsSound.newArtifact {settings : Settings} {draw : CreateDraw}
    {request : CreateRequest F} {sourceContextJson : String} {db : Database}
    (sound : VersionsSound db) (tenants : List TenantRow)
    (fresh : ∀ old ∈ db.artifacts, old.id ≠ newId "art" draw.artifactId)
    (freshVersion : ∀ old ∈ db.versions, old.id ≠ newId "ver" draw.version.versionId)
    (apart : Apart ChunkRow.clashes (db.chunks ++
      (request.firstVersion settings draw sourceContextJson).chunkRows draw.version)) :
    VersionsSound ((db.addArtifact tenants (request.artifactRow settings draw)
        (request.ownerGrants draw)).addVersion
      ((request.firstVersion settings draw sourceContextJson).row settings draw.version)
      ((request.firstVersion settings draw sourceContextJson).chunkRows draw.version)) := by
  have keyed := sound.toVersionsKeyed.addArtifact tenants (request.artifactRow settings draw)
    (request.ownerGrants draw) fresh
  apply keyed.addVersion
  · intro artifact member
    rcases List.mem_append.mp member with old | new
    · exact Or.inl (sound.chain artifact old)
    · rw [List.mem_singleton.mp new]
      exact Or.inr ⟨ofArtifact_iff.mpr ⟨rfl, rfl⟩,
        sound.toVersionsKeyed.history_new (request.artifactRow settings draw) fresh, rfl⟩
  · constructor
    · exact ⟨_, List.mem_append_right _ (List.mem_singleton_self _),
        ofArtifact_iff.mpr ⟨rfl, rfl⟩, rfl⟩
    · exact freshVersion
    · exact apart
    · exact VersionInput.chunkRows_of _ settings draw.version

theorem VersionsSound.newVersion {settings : Settings} {draw : VersionDraw}
    {request : WriteRequest F} {sourceContextJson : String} {db : Database}
    {artifact : ArtifactRow} (sound : VersionsSound db)
    (found : db.findArtifact request.tenantId request.artifactId = some artifact)
    (isChild : request.parentVersionId = artifact.currentVersionId)
    (freshVersion : ∀ old ∈ db.versions, old.id ≠ newId "ver" draw.versionId)
    (apart : Apart ChunkRow.clashes
      (db.chunks ++ (request.input sourceContextJson).chunkRows draw)) :
    VersionsSound (db.addVersion ((request.input sourceContextJson).row settings draw)
      ((request.input sourceContextJson).chunkRows draw)) := by
  obtain ⟨member, sameId, sameTenant⟩ := findArtifact_some found
  apply sound.toVersionsKeyed.addVersion
  · intro other inside
    exact Or.inl (sound.chain other inside)
  · constructor
    · exact ⟨artifact, member, ofArtifact_iff.mpr ⟨sameId.symm, sameTenant.symm⟩, isChild⟩
    · exact freshVersion
    · exact apart
    · exact VersionInput.chunkRows_of _ settings draw

theorem VersionsSound.create {settings : Settings} {draw : CreateDraw}
    {request : CreateRequest F} {sourceContextJson : String} {disk : Disk} {db' : Database}
    {ids : String × String} (sound : VersionsSound disk.db)
    (grantsApart : Apart GrantRow.clashes disk.db.aclGrants)
    (committed : (createBody settings draw request sourceContextJson disk).2 = .ok (db', ids)) :
    VersionsSound db' := by
  obtain ⟨_, _, fresh, freshVersion, _, apart, tenants, result⟩ :=
    createBody_ok committed grantsApart sound.chunksApart
  subst result
  exact sound.newArtifact tenants fresh freshVersion apart

theorem VersionsSound.write {settings : Settings} {draw : VersionDraw}
    {request : WriteRequest F} {sourceContextJson : String} {disk : Disk} {db' : Database}
    {versionId : String} (sound : VersionsSound disk.db)
    (committed : (writeBody settings draw request sourceContextJson disk).2 =
      .ok (db', versionId)) : VersionsSound db' := by
  obtain ⟨_, _, freshVersion, apart, result, artifact, found, isChild⟩ :=
    writeBody_ok committed sound.chunksApart
  subst result
  exact sound.newVersion found isChild freshVersion apart

end Calls

end FolioLattice.Store
