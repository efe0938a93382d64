/-
Reads do not depend on what the actor cannot read: on two states that agree on
its visible rows every call returns the same.
-/

import FolioLattice.Store.Visible

namespace FolioLattice.Store

open FolioLattice.Text FolioLattice.Data FolioLattice.Relational
open FolioLattice.Effects (except_bind_ok)

variable {F : Type} [FloatFormat F] {tenantId actor : String} {disk disk' : Disk}

/-! ### Rows -/

/-- The two states a pair of runs is compared in. -/
structure Twins (tenantId actor : String) (disk disk' : Disk) : Prop where
  sound : StoreSound disk.db
  sound' : StoreSound disk'.db
  valid : ValidText actor maxNameLength
  agree : Agree tenantId actor disk disk'

theorem Twins.symm (twins : Twins tenantId actor disk disk') : Twins tenantId actor disk' disk where
  sound := twins.sound'
  sound' := twins.sound
  valid := twins.valid
  agree := twins.agree.symm

theorem sees_of_visible {db : Database} {artifact : ArtifactRow} (inside : artifact ∈ db.artifacts)
    (visible : db.visible tenantId actor artifact = true) :
    db.sees tenantId actor artifact.id = true :=
  sees_iff.mpr ⟨artifact, inside, rfl, visible⟩

theorem currentVersion_of_chain {db : Database} (sound : VersionsSound db) {artifact : ArtifactRow}
    (inside : artifact ∈ db.artifacts) :
    ∃ version ∈ db.versions, ofArtifact artifact version = true ∧
      artifact.currentVersionId = some version.id ∧ artifact.mediaType = version.mediaType ∧
        db.currentVersion artifact = some version := by
  obtain ⟨version, last, points, sameType⟩ := (sound.chain artifact inside).pointed
  obtain ⟨stored, belongs⟩ := List.mem_filter.mp (List.mem_of_getLast? last)
  refine ⟨version, stored, belongs, points, sameType, ?_⟩
  apply sound.versionIds.find? stored
  · rw [Bool.and_eq_true, decide_eq_true_eq, decide_eq_true_eq]
    exact ⟨points.symm, (ofArtifact_iff.mp belongs).2⟩
  · intro other holds
    rw [Bool.and_eq_true, decide_eq_true_eq, points] at holds
    exact Option.some.inj holds.1

theorem Twins.currentVersion (twins : Twins tenantId actor disk disk') {artifact : ArtifactRow}
    (inside : artifact ∈ disk.db.artifacts)
    (visible : disk.db.visible tenantId actor artifact = true) :
    disk'.db.currentVersion artifact = disk.db.currentVersion artifact := by
  obtain ⟨version, stored, belongs, points, _, found⟩ :=
    currentVersion_of_chain twins.sound.versions inside
  obtain ⟨sameArtifact, sameTenant⟩ := ofArtifact_iff.mp belongs
  have inTenant := sameTenant.trans (visible_iff.mp visible).1
  have seen : disk.db.sees tenantId actor version.artifactId = true := by
    rw [sameArtifact]
    exact sees_of_visible inside visible
  obtain ⟨stored', _, _⟩ := (twins.agree.versions version).mp ⟨stored, inTenant, seen⟩
  rw [found]
  apply twins.sound'.versions.versionIds.find? stored'
  · rw [Bool.and_eq_true, decide_eq_true_eq, decide_eq_true_eq]
    exact ⟨points.symm, sameTenant⟩
  · intro other holds
    rw [Bool.and_eq_true, decide_eq_true_eq, points] at holds
    exact Option.some.inj holds.1

theorem neighbor_seen {db : Database} {artifact : ArtifactRow} {edge : EdgeRow}
    (touches : edge.touches artifact.id = true) :
    (db.sees tenantId actor artifact.id = true ∧
        db.sees tenantId actor (edge.neighbor artifact.id) = true) ↔
      (db.sees tenantId actor edge.sourceArtifactId = true ∧
        db.sees tenantId actor edge.targetArtifactId = true) := by
  unfold EdgeRow.touches at touches
  rw [Bool.or_eq_true, decide_eq_true_eq, decide_eq_true_eq] at touches
  unfold EdgeRow.neighbor
  split
  · rename_i isSource
    rw [isSource]
  · rename_i notSource
    rw [touches.resolve_left notSource]
    exact and_comm

theorem Twins.hasReadableNeighbors (twins : Twins tenantId actor disk disk')
    {artifact : ArtifactRow} (inside : artifact ∈ disk.db.artifacts)
    (visible : disk.db.visible tenantId actor artifact = true)
    (shown : disk.db.hasReadableNeighbors (fun a => disk.db.permits a actor .read) artifact = true) :
    disk'.db.hasReadableNeighbors (fun a => disk'.db.permits a actor .read) artifact = true := by
  unfold Database.hasReadableNeighbors at shown ⊢
  rw [List.any_eq_true] at shown ⊢
  obtain ⟨edge, stored, holds⟩ := shown
  simp only [Bool.and_eq_true, decide_eq_true_eq, List.any_eq_true] at holds
  obtain ⟨⟨edgeTenant, touches⟩, neighbor, known, ⟨sameTenant, sameId⟩, permitted⟩ := holds
  have inTenant := (visible_iff.mp visible).1
  have neighborSeen : disk.db.sees tenantId actor (edge.neighbor artifact.id) = true :=
    sees_iff.mpr ⟨neighbor, known, sameId,
      visible_iff.mpr ⟨sameTenant.trans (edgeTenant.trans inTenant), permitted⟩⟩
  have ends := (neighbor_seen touches).mp ⟨sees_of_visible inside visible, neighborSeen⟩
  have edgeSeen : disk.db.seesEdge tenantId actor edge = true :=
    seesEdge_iff.mpr ⟨edgeTenant.trans inTenant, ends⟩
  obtain ⟨stored', _⟩ := (twins.agree.edges edge).mp ⟨stored, edgeSeen⟩
  obtain ⟨known', visible'⟩ := (twins.agree.artifacts neighbor).mp
    ⟨known, visible_iff.mpr ⟨sameTenant.trans (edgeTenant.trans inTenant), permitted⟩⟩
  refine ⟨edge, stored', ?_⟩
  simp only [Bool.and_eq_true, decide_eq_true_eq, List.any_eq_true]
  exact ⟨⟨edgeTenant, touches⟩, neighbor, known', ⟨sameTenant, sameId⟩, (visible_iff.mp visible').2⟩

/-! ### Artifacts -/

theorem Twins.authorize (twins : Twins tenantId actor disk disk') (artifactId : String) :
    authorize disk.db tenantId artifactId (some actor) .read =
      authorize disk'.db tenantId artifactId (some actor) .read := by
  rw [authorize_read twins.sound twins.valid, authorize_read twins.sound' twins.valid,
    twins.agree.sees]

theorem Twins.getArtifact (twins : Twins tenantId actor disk disk') (artifactId : String) :
    getArtifact disk.db tenantId artifactId (some actor) =
      getArtifact disk'.db tenantId artifactId (some actor) := by
  rw [getArtifact_read twins.sound twins.valid, getArtifact_read twins.sound' twins.valid]
  have same : disk.db.artifacts.find? (fun a => a.id = artifactId &&
      disk.db.visible tenantId actor a) = disk'.db.artifacts.find? (fun a => a.id = artifactId &&
        disk'.db.visible tenantId actor a) := by
    apply find?_congr
    · intro artifact
      rw [Bool.and_eq_true, Bool.and_eq_true]
      have both := twins.agree.artifacts artifact
      tauto
    · intro a b aInside bInside aHolds bHolds
      rw [Bool.and_eq_true, decide_eq_true_eq] at aHolds bHolds
      exact twins.sound.grants.artifactIds.eq aInside bInside (aHolds.1.trans bHolds.1.symm)
  rw [same]

theorem Twins.listItem (twins : Twins tenantId actor disk disk') {artifact : ArtifactRow}
    (inside : artifact ∈ disk.db.artifacts)
    (visible : disk.db.visible tenantId actor artifact = true) :
    artifact.listItem disk.db (fun a => disk.db.permits a actor .read) =
      artifact.listItem disk'.db (fun a => disk'.db.permits a actor .read) := by
  obtain ⟨inside', visible'⟩ := (twins.agree.artifacts artifact).mp ⟨inside, visible⟩
  have neighbors : disk.db.hasReadableNeighbors (fun a => disk.db.permits a actor .read) artifact =
      disk'.db.hasReadableNeighbors (fun a => disk'.db.permits a actor .read) artifact := by
    rw [Bool.eq_iff_iff]
    exact ⟨twins.hasReadableNeighbors inside visible,
      twins.symm.hasReadableNeighbors inside' visible'⟩
  unfold ArtifactRow.listItem
  rw [twins.currentVersion inside visible, neighbors]

theorem listKey_keyedBy {db : Database} {rows : List ArtifactRow} (keyed : KeyedBy (·.id) rows) :
    KeyedBy db.listKey rows := by
  apply List.Nodup.of_map (fun key => (ofLex (OrderDual.ofDual key)).2)
  rw [List.map_map]
  exact keyed

theorem mem_listed {db : Database} {cursor : Option (String × String)} {filter : ListFilter}
    {artifact : ArtifactRow} :
    artifact ∈ db.listed tenantId (fun a => db.permits a actor .read) cursor filter ↔
      (artifact ∈ db.artifacts ∧ db.visible tenantId actor artifact = true) ∧
        afterCursor cursor (db.updatedAt artifact) artifact.id = true ∧
          filter.matches artifact = true := by
  unfold Database.listed
  rw [List.mem_filter, visible_iff]
  simp only [Bool.and_eq_true, decide_eq_true_eq]
  tauto

theorem Twins.updatedAt (twins : Twins tenantId actor disk disk') {artifact : ArtifactRow}
    (inside : artifact ∈ disk.db.artifacts)
    (visible : disk.db.visible tenantId actor artifact = true) :
    disk'.db.updatedAt artifact = disk.db.updatedAt artifact := by
  unfold Database.updatedAt
  rw [twins.currentVersion inside visible]

theorem Twins.listed (twins : Twins tenantId actor disk disk') {cursor : Option (String × String)}
    {filter : ListFilter} {artifact : ArtifactRow}
    (member : artifact ∈ disk.db.listed tenantId (fun a => disk.db.permits a actor .read) cursor
      filter) :
    artifact ∈ disk'.db.listed tenantId (fun a => disk'.db.permits a actor .read) cursor filter := by
  obtain ⟨visible, after, matching⟩ := mem_listed.mp member
  rw [← twins.updatedAt visible.1 visible.2] at after
  exact mem_listed.mpr ⟨(twins.agree.artifacts artifact).mp visible, after, matching⟩

theorem Twins.listPage (twins : Twins tenantId actor disk disk') (cursor : Option (String × String))
    (filter : ListFilter) :
    orderBy disk.db.listKey
        (disk.db.listed tenantId (fun a => disk.db.permits a actor .read) cursor filter) =
      orderBy disk'.db.listKey
        (disk'.db.listed tenantId (fun a => disk'.db.permits a actor .read) cursor filter) := by
  have sameKey : ∀ artifact ∈ disk.db.listed tenantId (fun a => disk.db.permits a actor .read)
      cursor filter, disk.db.listKey artifact = disk'.db.listKey artifact := by
    intro artifact member
    obtain ⟨visible, _⟩ := mem_listed.mp member
    unfold Database.listKey
    rw [twins.updatedAt visible.1 visible.2]
  rw [orderBy_key_congr sameKey]
  exact orderBy_congr (listKey_keyedBy (twins.sound.grants.artifactIds.filter _))
    (listKey_keyedBy (twins.sound'.grants.artifactIds.filter _))
    (fun artifact => ⟨twins.listed, twins.symm.listed⟩)

theorem Twins.listArtifacts (twins : Twins tenantId actor disk disk') (limit : Int)
    (filter : ListFilter) :
    listArtifacts disk.db tenantId limit (some actor) filter =
      listArtifacts disk'.db tenantId limit (some actor) filter := by
  have same : ∀ cursor : Option (String × String),
      ((orderBy disk.db.listKey
          (disk.db.listed tenantId (fun a => disk.db.permits a actor .read) cursor filter)).take
          (clampLimit limit 100)).map
        (fun a => a.listItem disk.db (fun a => disk.db.permits a actor .read)) =
      ((orderBy disk'.db.listKey
          (disk'.db.listed tenantId (fun a => disk'.db.permits a actor .read) cursor filter)).take
          (clampLimit limit 100)).map
        (fun a => a.listItem disk'.db (fun a => disk'.db.permits a actor .read)) := by
    intro cursor
    rw [← twins.listPage]
    apply List.map_congr_left
    intro artifact member
    obtain ⟨visible, _⟩ := mem_listed.mp (mem_orderBy.mp (List.mem_of_mem_take member))
    exact twins.listItem visible.1 visible.2
  unfold Store.listArtifacts
  rw [accessClause_read twins.valid, accessClause_read twins.valid]
  simp only [bind, Except.bind, same]

/-! ### Versions and chunks -/

theorem Twins.findVersion (twins : Twins tenantId actor disk disk')
    (versionId artifactId : Option String) :
    disk.db.versions.find? (fun v => (some v.id = versionId && v.tenantId = tenantId &&
        artifactId.all (· = v.artifactId)) && disk.db.sees tenantId actor v.artifactId) =
      disk'.db.versions.find? (fun v => (some v.id = versionId && v.tenantId = tenantId &&
        artifactId.all (· = v.artifactId)) && disk'.db.sees tenantId actor v.artifactId) := by
  apply find?_congr
  · intro version
    have both := twins.agree.versions version
    simp only [Bool.and_eq_true, decide_eq_true_eq]
    tauto
  · intro a b aInside bInside aHolds bHolds
    simp only [Bool.and_eq_true, decide_eq_true_eq] at aHolds bHolds
    exact twins.sound.versions.versionIds.eq aInside bInside
      (Option.some.inj (aHolds.1.1.1.trans bHolds.1.1.1.symm))

theorem Twins.versionMetadata (twins : Twins tenantId actor disk disk')
    (versionId artifactId : Option String) :
    (versionMetadata disk.db tenantId versionId (some actor) .read artifactId :
        Except Failure (VersionView F)) =
      versionMetadata disk'.db tenantId versionId (some actor) .read artifactId := by
  rw [versionMetadata_read twins.sound twins.valid, versionMetadata_read twins.sound' twins.valid,
    twins.findVersion]

theorem Twins.versionBytes (twins : Twins tenantId actor disk disk')
    (versionId artifactId : Option String) :
    versionBytes F disk tenantId versionId (some actor) artifactId =
      versionBytes F disk' tenantId versionId (some actor) artifactId := by
  unfold Store.versionBytes
  rw [versionMetadata_read twins.sound twins.valid, versionMetadata_read twins.sound' twins.valid,
    ← twins.findVersion]
  cases found : disk.db.versions.find? (fun v => (some v.id = versionId && v.tenantId = tenantId &&
      artifactId.all (· = v.artifactId)) && disk.db.sees tenantId actor v.artifactId) with
  | none => rfl
  | some version =>
      have holds := List.find?_some found
      simp only [Bool.and_eq_true, decide_eq_true_eq] at holds
      have sameBlob := twins.agree.blobs version (List.mem_of_find?_eq_some found) holds.1.1.2
        holds.2
      cases viewed : (version.view : Except Failure (VersionView F)) with
      | error e =>
          simp only [viewed]
          rfl
      | ok metadata =>
          have hash : metadata.blobHash = version.blobHash := by
            unfold VersionRow.view at viewed
            obtain ⟨context, _, same⟩ := except_bind_ok viewed
            rw [← Except.ok.inj same]
          simp only [viewed, bind, Except.bind, hash, sameBlob]

theorem getArtifact_sees {db : Database} (sound : StoreSound db)
    (valid : ValidText actor maxNameLength) {artifactId : String} {view : ArtifactView}
    (shown : getArtifact db tenantId artifactId (some actor) = .ok view) :
    db.sees tenantId actor artifactId = true := by
  rw [getArtifact_read sound valid] at shown
  split at shown
  · cases shown
  · rename_i artifact found
    have holds := List.find?_some found
    rw [Bool.and_eq_true, decide_eq_true_eq] at holds
    exact sees_iff.mpr ⟨artifact, List.mem_of_find?_eq_some found, holds⟩

theorem Twins.versions (twins : Twins tenantId actor disk disk') (artifactId : String)
    (limit : Int) :
    (versions disk.db tenantId artifactId limit (some actor) :
        Except Failure (List (VersionView F))) =
      versions disk'.db tenantId artifactId limit (some actor) := by
  unfold Store.versions
  rw [← twins.getArtifact]
  cases shown : Store.getArtifact disk.db tenantId artifactId (some actor) with
  | error e => rfl
  | ok view =>
      have seen := getArtifact_sees twins.sound twins.valid shown
      have sameRows := orderBy_congr
        (timeKey_keyedBy (twins.sound.versions.versionIds.filter
          (fun v => v.tenantId = tenantId && v.artifactId = artifactId)))
        (timeKey_keyedBy (twins.sound'.versions.versionIds.filter
          (fun v => v.tenantId = tenantId && v.artifactId = artifactId))) (by
        intro version
        have both := twins.agree.versions version
        have seen' := seen
        rw [twins.agree.sees] at seen'
        simp only [List.mem_filter, Bool.and_eq_true, decide_eq_true_eq]
        constructor
        · rintro ⟨inside, sameTenant, sameArtifact⟩
          rw [sameArtifact] at both
          exact ⟨(both.mp ⟨inside, sameTenant, seen⟩).1, sameTenant, sameArtifact⟩
        · rintro ⟨inside, sameTenant, sameArtifact⟩
          rw [sameArtifact] at both
          exact ⟨(both.mpr ⟨inside, sameTenant, seen'⟩).1, sameTenant, sameArtifact⟩)
      simp only [sameRows]

theorem Twins.chunkDescriptors (twins : Twins tenantId actor disk disk') (artifactId : String)
    (versionId : Option String) :
    chunkDescriptors disk.db tenantId artifactId versionId (some actor) =
      chunkDescriptors disk'.db tenantId artifactId versionId (some actor) := by
  unfold Store.chunkDescriptors
  rw [← twins.authorize, authorize_read twins.sound twins.valid]
  cases seen : disk.db.sees tenantId actor artifactId with
  | false => rfl
  | true =>
      have seen' := seen
      rw [twins.agree.sees] at seen'
      have sameRows := orderBy_congr
        (chunkRows_keyed twins.sound tenantId artifactId versionId)
        (chunkRows_keyed twins.sound' tenantId artifactId versionId) (by
        intro chunk
        have both := twins.agree.chunks chunk
        simp only [List.mem_filter, Bool.and_eq_true, decide_eq_true_eq]
        constructor
        · rintro ⟨inside, ⟨sameTenant, sameArtifact⟩, ofVersion⟩
          rw [sameArtifact] at both
          exact ⟨(both.mp ⟨inside, sameTenant, seen⟩).1, ⟨sameTenant, sameArtifact⟩, ofVersion⟩
        · rintro ⟨inside, ⟨sameTenant, sameArtifact⟩, ofVersion⟩
          rw [sameArtifact] at both
          exact ⟨(both.mpr ⟨inside, sameTenant, seen'⟩).1, ⟨sameTenant, sameArtifact⟩, ofVersion⟩)
      simp only [sameRows]

theorem Twins.readChunk (twins : Twins tenantId actor disk disk') (chunkId : String) :
    readChunk disk.db tenantId chunkId (some actor) =
      readChunk disk'.db tenantId chunkId (some actor) := by
  rw [readChunk_read twins.sound twins.valid, readChunk_read twins.sound' twins.valid]
  have same : disk.db.chunks.find? (fun c => (c.id = chunkId && c.tenantId = tenantId) &&
      disk.db.sees tenantId actor c.artifactId) =
        disk'.db.chunks.find? (fun c => (c.id = chunkId && c.tenantId = tenantId) &&
          disk'.db.sees tenantId actor c.artifactId) := by
    apply find?_congr
    · intro chunk
      have both := twins.agree.chunks chunk
      simp only [Bool.and_eq_true, decide_eq_true_eq]
      tauto
    · intro a b aInside bInside aHolds bHolds
      simp only [Bool.and_eq_true, decide_eq_true_eq] at aHolds bHolds
      exact (ChunksApart.keyedById twins.sound.versions.chunksApart).eq aInside bInside
        (aHolds.1.1.trans bHolds.1.1.symm)
  rw [same]

theorem Twins.readArtifact (twins : Twins tenantId actor disk disk') (artifactId : String)
    (versionId : Option String) :
    (readArtifact (ReadSnapshots.of disk) tenantId artifactId versionId (some actor) :
        Except Failure (ArtifactContent F)) =
      readArtifact (ReadSnapshots.of disk') tenantId artifactId versionId (some actor) := by
  unfold Store.readArtifact ReadSnapshots.of
  simp only [twins.getArtifact, twins.versionMetadata, twins.versionBytes, twins.chunkDescriptors]

/-! ### Literal search -/

theorem mem_currentChunks {db : Database} (sound : StoreSound db) {row : ChunkRow × String} :
    row ∈ db.currentChunks tenantId (fun a => db.permits a actor .read) ↔
      (row.1 ∈ db.chunks ∧ row.1.tenantId = tenantId ∧
          db.sees tenantId actor row.1.artifactId = true) ∧
        ∃ artifact, (artifact ∈ db.artifacts ∧ db.visible tenantId actor artifact = true) ∧
          artifact.id = row.1.artifactId ∧ artifact.currentVersionId = some row.1.versionId ∧
            artifact.name = row.2 := by
  unfold Database.currentChunks
  simp only [List.mem_filterMap, List.mem_filter, decide_eq_true_eq, Option.map_eq_some_iff]
  constructor
  · rintro ⟨chunk, ⟨inside, inTenant⟩, artifact, found, same⟩
    have holds := List.find?_some found
    simp only [Bool.and_eq_true, decide_eq_true_eq] at holds
    obtain ⟨⟨⟨sameId, sameTenant⟩, current⟩, permitted⟩ := holds
    have known := List.mem_of_find?_eq_some found
    have visible := visible_iff.mpr ⟨sameTenant.trans inTenant, permitted⟩
    rw [← same]
    exact ⟨⟨inside, inTenant, sees_iff.mpr ⟨artifact, known, sameId, visible⟩⟩, artifact,
      ⟨known, visible⟩, sameId, current, rfl⟩
  · rintro ⟨⟨inside, inTenant, _⟩, artifact, ⟨known, visible⟩, sameId, current, sameName⟩
    obtain ⟨sameTenant, permitted⟩ := visible_iff.mp visible
    refine ⟨row.1, ⟨inside, inTenant⟩, artifact, ?_, by rw [sameName]⟩
    apply sound.grants.artifactIds.find? known
    · simp only [Bool.and_eq_true, decide_eq_true_eq]
      exact ⟨⟨⟨sameId, sameTenant.trans inTenant.symm⟩, current⟩, permitted⟩
    · intro other holds
      simp only [Bool.and_eq_true, decide_eq_true_eq] at holds
      exact holds.1.1.1.trans sameId.symm

theorem currentChunks_keyedBy {db : Database} (sound : StoreSound db) :
    KeyedBy grepKey (db.currentChunks tenantId (fun a => db.permits a actor .read)) := by
  have places : KeyedBy (fun row : ChunkRow × String => (row.1.versionId, row.1.ordinal))
      (db.currentChunks tenantId (fun a => db.permits a actor .read)) := by
    apply ((ChunksApart.keyedByPlace sound.versions.chunksApart).filter _).filterMap
    intro chunk row found
    obtain ⟨artifact, _, same⟩ := Option.map_eq_some_iff.mp found
    rw [← same]
  apply List.Nodup.of_map (fun key => ((ofLex (ofLex key).2).1, (ofLex (ofLex key).2).2))
  rw [List.map_map]
  exact places

theorem Twins.currentChunks (twins : Twins tenantId actor disk disk') :
    orderBy grepKey (disk.db.currentChunks tenantId (fun a => disk.db.permits a actor .read)) =
      orderBy grepKey
        (disk'.db.currentChunks tenantId (fun a => disk'.db.permits a actor .read)) := by
  apply orderBy_congr (currentChunks_keyedBy twins.sound) (currentChunks_keyedBy twins.sound')
  intro row
  rw [mem_currentChunks twins.sound, mem_currentChunks twins.sound', twins.agree.chunks row.1]
  simp only [twins.agree.artifacts]

theorem Twins.grep (twins : Twins tenantId actor disk disk') (pattern : String) (limit : Int) :
    grep disk.db tenantId pattern limit (some actor) =
      grep disk'.db tenantId pattern limit (some actor) := by
  unfold Store.grep
  rw [accessClause_read twins.valid, accessClause_read twins.valid]
  simp only [bind, Except.bind, twins.currentChunks]

/-! ### Edges -/

theorem EdgesApart.keyedById {db : Database} (sound : StoreSound db) : KeyedBy (·.id) db.edges := by
  apply sound.edges.apart.keyedBy
  intro new old same
  unfold EdgeRow.clashes
  rw [Bool.or_eq_true]
  exact Or.inl (decide_eq_true same)

/-- Joined rows ordered by their edges' times and ids. -/
theorem edgeKey_keyedBy {α : Type} {rows : List (EdgeRow × α)}
    (keyed : KeyedBy (fun row => row.1.id) rows) :
    KeyedBy (fun row : EdgeRow × α => toLex (row.1.createdAt, row.1.id)) rows := by
  apply List.Nodup.of_map (fun key => (ofLex key).2)
  rw [List.map_map]
  exact keyed

theorem Agree.visibleEdge (agree : Agree tenantId actor disk disk') {edge : EdgeRow}
    (stored : edge ∈ disk.db.edges) (inTenant : edge.tenantId = tenantId)
    (source : disk.db.sees tenantId actor edge.sourceArtifactId = true)
    (target : disk.db.sees tenantId actor edge.targetArtifactId = true) : edge ∈ disk'.db.edges :=
  ((agree.edges edge).mp ⟨stored, seesEdge_iff.mpr ⟨inTenant, source, target⟩⟩).1

/-- The edges out of an artifact, each with the one artifact it leads to. -/
theorem mem_outgoing_joined {db : Database} (sound : StoreSound db)
    {access : ArtifactRow → Bool} {current : String} {row : EdgeRow × String} :
    row ∈ db.outgoing tenantId access current ↔
      (row.1 ∈ db.edges ∧ row.1.tenantId = tenantId ∧ row.1.sourceArtifactId = current) ∧
        ∃ artifact ∈ db.artifacts, (artifact.id = row.1.targetArtifactId ∧
          artifact.tenantId = row.1.tenantId) ∧ access artifact = true ∧ artifact.name = row.2 := by
  unfold Database.outgoing
  rw [mem_orderBy]
  simp only [List.mem_filterMap, List.mem_filter, Bool.and_eq_true, decide_eq_true_eq,
    Option.map_eq_some_iff]
  constructor
  · intro joined
    obtain ⟨edge, stored, artifact, found, same⟩ := joined
    have holds := List.find?_some found
    simp only [Bool.and_eq_true, decide_eq_true_eq] at holds
    rw [← same]
    exact ⟨stored, artifact, List.mem_of_find?_eq_some found, holds.1, holds.2, rfl⟩
  · intro joined
    obtain ⟨stored, artifact, known, ⟨sameId, sameTenant⟩, permitted, sameName⟩ := joined
    refine ⟨row.1, stored, artifact, ?_, by rw [sameName]⟩
    apply sound.grants.artifactIds.find? known
    · simp only [Bool.and_eq_true, decide_eq_true_eq]
      exact ⟨⟨sameId, sameTenant⟩, permitted⟩
    · intro other holds
      simp only [Bool.and_eq_true, decide_eq_true_eq] at holds
      exact holds.1.1.trans sameId.symm

/-- The edges out of an artifact to visible ones, with the targets' names. -/
theorem mem_outgoing {db : Database} (sound : StoreSound db) {current : String}
    {row : EdgeRow × String} :
    row ∈ db.outgoing tenantId (fun a => db.permits a actor .read) current ↔
      (row.1 ∈ db.edges ∧ row.1.tenantId = tenantId ∧ row.1.sourceArtifactId = current) ∧
        ∃ artifact, (artifact ∈ db.artifacts ∧ db.visible tenantId actor artifact = true) ∧
          artifact.id = row.1.targetArtifactId ∧ artifact.name = row.2 := by
  rw [mem_outgoing_joined sound]
  apply and_congr_right
  intro stored
  apply exists_congr
  intro artifact
  rw [visible_iff, stored.2.1]
  tauto

/-- The joined rows of one node before they are ordered, whatever the access. -/
theorem outgoing_keyedBy {db : Database} (sound : StoreSound db) (access : ArtifactRow → Bool)
    (current : String) :
    KeyedBy (fun row : EdgeRow × String => toLex (row.1.createdAt, row.1.id))
      ((db.edges.filter (fun e => e.tenantId = tenantId && e.sourceArtifactId = current)).filterMap
        (fun e => (db.artifacts.find? (fun a =>
          a.id = e.targetArtifactId && a.tenantId = e.tenantId && access a)).map
            (fun a => (e, a.name)))) := by
  apply edgeKey_keyedBy
  apply ((EdgesApart.keyedById sound).filter _).filterMap
  intro edge row found
  obtain ⟨artifact, _, same⟩ := Option.map_eq_some_iff.mp found
  rw [← same]

theorem Twins.outgoing (twins : Twins tenantId actor disk disk') {current : String}
    (seen : disk.db.sees tenantId actor current = true) :
    disk.db.outgoing tenantId (fun a => disk.db.permits a actor .read) current =
      disk'.db.outgoing tenantId (fun a => disk'.db.permits a actor .read) current := by
  have one : ∀ {d d' : Disk}, Twins tenantId actor d d' →
      d.db.sees tenantId actor current = true → ∀ row,
      row ∈ d.db.outgoing tenantId (fun a => d.db.permits a actor .read) current →
      row ∈ d'.db.outgoing tenantId (fun a => d'.db.permits a actor .read) current := by
    intro d d' twins seen row member
    obtain ⟨⟨stored, inTenant, isSource⟩, artifact, visible, sameId, sameName⟩ :=
      (mem_outgoing twins.sound).mp member
    apply (mem_outgoing twins.sound').mpr
    refine ⟨⟨twins.agree.visibleEdge stored inTenant ?_ ?_, inTenant, isSource⟩, artifact,
      (twins.agree.artifacts artifact).mp visible, sameId, sameName⟩
    · rw [isSource]
      exact seen
    · exact sees_iff.mpr ⟨artifact, visible.1, sameId, visible.2⟩
  have seen' := seen
  rw [twins.agree.sees] at seen'
  apply orderBy_congr (outgoing_keyedBy twins.sound _ _) (outgoing_keyedBy twins.sound' _ _)
  intro row
  have there := one twins seen row
  have back := one twins.symm seen' row
  unfold Database.outgoing at there back
  rw [mem_orderBy, mem_orderBy] at there back
  exact ⟨there, back⟩

/-! ### Traversal -/

omit [FloatFormat F] in
theorem TraverseState.add_queue {state : TraverseState F} {item : TraverseItem F} {depth : Nat} :
    ∀ entry ∈ (state.add item depth).queue,
      entry ∈ state.queue ∨ entry.1 = item.targetArtifactId := by
  intro entry member
  unfold TraverseState.add at member
  simp only at member
  split at member
  · exact Or.inl member
  · rcases List.mem_append.mp member with old | new
    · exact Or.inl old
    · rw [List.mem_singleton.mp new]
      exact Or.inr rfl

theorem traverseItem_target {depth : Nat} {row : EdgeRow × String} {item : TraverseItem F}
    (done : traverseItem depth row = .ok item) : item.targetArtifactId = row.1.targetArtifactId := by
  unfold traverseItem at done
  obtain ⟨metadata, _, same⟩ := except_bind_ok done
  rw [← Except.ok.inj same]

theorem traverseRows_queue {limit depth : Nat} {rows : List (EdgeRow × String)}
    {state state' : TraverseState F} (done : traverseRows limit depth rows state = .ok state') :
    ∀ entry ∈ state'.queue, entry ∈ state.queue ∨
      ∃ row ∈ rows, entry.1 = row.1.targetArtifactId := by
  induction rows generalizing state with
  | nil =>
      cases done
      exact fun entry member => Or.inl member
  | cons row rest ih =>
      rw [traverseRows] at done
      obtain ⟨item, made, done⟩ := except_bind_ok done
      have first : ∀ entry ∈ (state.add item depth).queue, entry ∈ state.queue ∨
          ∃ other ∈ row :: rest, entry.1 = other.1.targetArtifactId := by
        intro entry member
        rcases TraverseState.add_queue entry member with old | isTarget
        · exact Or.inl old
        · exact Or.inr ⟨row, List.mem_cons_self, isTarget.trans (traverseItem_target made)⟩
      intro entry member
      simp only at done
      split at done
      · rw [← Except.ok.inj done] at member
        exact first entry member
      · rcases ih done entry member with queued | ⟨other, inside, same⟩
        · exact first entry queued
        · exact Or.inr ⟨other, List.mem_cons_of_mem _ inside, same⟩

/-- A traversal asks only for the edges of the nodes it queues. -/
theorem traverseLoop_congr {left right : String → List (EdgeRow × String)} {maxDepth limit : Nat}
    {P : String → Prop} (same : ∀ node, P node → left node = right node)
    (passes : ∀ node, P node → ∀ row ∈ left node, P row.1.targetArtifactId) (fuel : Nat)
    {state : TraverseState F} (queued : ∀ entry ∈ state.queue, P entry.1) :
    traverseLoop left maxDepth limit fuel state = traverseLoop right maxDepth limit fuel state := by
  induction fuel generalizing state with
  | zero => rfl
  | succ fuel ih =>
      rw [traverseLoop, traverseLoop]
      cases queue : state.queue with
      | nil => rfl
      | cons entry rest =>
          obtain ⟨current, depth⟩ := entry
          rw [queue] at queued
          have currentHolds : P current := queued (current, depth) List.mem_cons_self
          have restHolds : ∀ entry ∈ rest, P entry.1 :=
            fun entry member => queued entry (List.mem_cons_of_mem _ member)
          simp only
          split
          · rfl
          · split
            · exact ih restHolds
            · rw [← same current currentHolds]
              cases done : traverseRows limit depth (left current)
                  { state with queue := rest } with
              | error e => rfl
              | ok state' =>
                  apply ih
                  intro entry member
                  rcases traverseRows_queue done entry member with old | ⟨row, inside, isTarget⟩
                  · exact restHolds entry old
                  · rw [isTarget]
                    exact passes current currentHolds row inside

theorem Twins.traverse (twins : Twins tenantId actor disk disk') (startArtifactId : String)
    (maxDepth limit : Int) :
    (traverse disk.db tenantId startArtifactId maxDepth limit (some actor) :
        Except Failure (List (TraverseItem F))) =
      traverse disk'.db tenantId startArtifactId maxDepth limit (some actor) := by
  unfold Store.traverse
  rw [← twins.getArtifact, accessClause_read twins.valid, accessClause_read twins.valid]
  split
  · rfl
  · cases shown : Store.getArtifact disk.db tenantId startArtifactId (some actor) with
    | error e => rfl
    | ok view =>
        apply traverseLoop_congr (P := fun node => disk.db.sees tenantId actor node = true)
        · intro node seen
          exact twins.outgoing seen
        · intro node _ row member
          obtain ⟨_, artifact, visible, sameId, _⟩ := (mem_outgoing twins.sound).mp member
          exact sees_iff.mpr ⟨artifact, visible.1, sameId, visible.2⟩
        · intro entry member
          rw [List.mem_singleton.mp member]
          exact getArtifact_sees twins.sound twins.valid shown

/-! ### Components -/

theorem mem_adjacentRows {db : Database} {current : String} {row : EdgeRow × ArtifactRow} :
    row ∈ (db.edges.filter (fun e => e.tenantId = tenantId && e.touches current)).flatMap
        (fun e => (db.artifacts.filter (fun a => a.tenantId = e.tenantId && a.id ≠ current &&
          (a.id = e.sourceArtifactId || a.id = e.targetArtifactId) &&
            db.permits a actor .read)).map (fun a => (e, a))) ↔
      (row.1 ∈ db.edges ∧ row.1.tenantId = tenantId ∧ row.1.touches current = true) ∧
        (row.2 ∈ db.artifacts ∧ db.visible tenantId actor row.2 = true) ∧ row.2.id ≠ current ∧
          (row.2.id = row.1.sourceArtifactId ∨ row.2.id = row.1.targetArtifactId) := by
  rw [visible_iff]
  simp only [List.mem_flatMap, List.mem_map, List.mem_filter, Bool.and_eq_true, Bool.or_eq_true,
    decide_eq_true_eq]
  constructor
  · rintro ⟨edge, ⟨stored, inTenant, touches⟩, artifact,
      ⟨known, ⟨⟨sameTenant, other⟩, isEnd⟩, permitted⟩, same⟩
    rw [← same]
    exact ⟨⟨stored, inTenant, touches⟩, ⟨known, sameTenant.trans inTenant, permitted⟩, other, isEnd⟩
  · rintro ⟨⟨stored, inTenant, touches⟩, ⟨known, sameTenant, permitted⟩, other, isEnd⟩
    exact ⟨row.1, ⟨stored, inTenant, touches⟩, row.2,
      ⟨known, ⟨⟨sameTenant.trans inTenant.symm, other⟩, isEnd⟩, permitted⟩, rfl⟩

/-- An edge that touches a node has one other end. -/
theorem otherEnd_unique {edge : EdgeRow} {current a b : String} (touches : edge.touches current = true)
    (aOther : a ≠ current) (bOther : b ≠ current)
    (aEnd : a = edge.sourceArtifactId ∨ a = edge.targetArtifactId)
    (bEnd : b = edge.sourceArtifactId ∨ b = edge.targetArtifactId) : a = b := by
  unfold EdgeRow.touches at touches
  rw [Bool.or_eq_true, decide_eq_true_eq, decide_eq_true_eq] at touches
  rcases touches with isSource | isTarget
  · have aTarget := aEnd.resolve_left (fun same => aOther (same.trans isSource))
    have bTarget := bEnd.resolve_left (fun same => bOther (same.trans isSource))
    exact aTarget.trans bTarget.symm
  · have aSource := aEnd.resolve_right (fun same => aOther (same.trans isTarget))
    have bSource := bEnd.resolve_right (fun same => bOther (same.trans isTarget))
    exact aSource.trans bSource.symm

theorem adjacentRows_keyedBy {db : Database} (sound : StoreSound db)
    (tenantId actor current : String) :
    KeyedBy (fun row : EdgeRow × ArtifactRow => toLex (row.1.createdAt, row.1.id))
      ((db.edges.filter (fun e => e.tenantId = tenantId && e.touches current)).flatMap
        (fun e => (db.artifacts.filter (fun a => a.tenantId = e.tenantId && a.id ≠ current &&
          (a.id = e.sourceArtifactId || a.id = e.targetArtifactId) &&
            db.permits a actor .read)).map (fun a => (e, a)))) := by
  apply edgeKey_keyedBy
  apply ((EdgesApart.keyedById sound).filter _).flatMap
  · intro edge member
    simp only [List.mem_filter, Bool.and_eq_true, decide_eq_true_eq] at member
    rw [List.length_map]
    apply filter_length_le_one sound.grants.artifactIds.nodup
    intro a b aInside bInside aHolds bHolds
    simp only [Bool.and_eq_true, Bool.or_eq_true, decide_eq_true_eq] at aHolds bHolds
    exact sound.grants.artifactIds.eq aInside bInside (otherEnd_unique member.2.2
      aHolds.1.1.2 bHolds.1.1.2 aHolds.1.2 bHolds.1.2)
  · intro edge _ row member
    obtain ⟨artifact, _, same⟩ := List.mem_map.mp member
    rw [← same]

theorem Twins.adjacent (twins : Twins tenantId actor disk disk') {current : String}
    (seen : disk.db.sees tenantId actor current = true) :
    disk.db.adjacent tenantId (fun a => disk.db.permits a actor .read) current =
      disk'.db.adjacent tenantId (fun a => disk'.db.permits a actor .read) current := by
  have one : ∀ {d d' : Disk}, Twins tenantId actor d d' →
      d.db.sees tenantId actor current = true → ∀ row : EdgeRow × ArtifactRow,
      ((row.1 ∈ d.db.edges ∧ row.1.tenantId = tenantId ∧ row.1.touches current = true) ∧
        (row.2 ∈ d.db.artifacts ∧ d.db.visible tenantId actor row.2 = true) ∧ row.2.id ≠ current ∧
          (row.2.id = row.1.sourceArtifactId ∨ row.2.id = row.1.targetArtifactId)) →
      ((row.1 ∈ d'.db.edges ∧ row.1.tenantId = tenantId ∧ row.1.touches current = true) ∧
        (row.2 ∈ d'.db.artifacts ∧ d'.db.visible tenantId actor row.2 = true) ∧ row.2.id ≠ current ∧
          (row.2.id = row.1.sourceArtifactId ∨ row.2.id = row.1.targetArtifactId)) := by
    intro d d' twins seen row ⟨⟨stored, inTenant, touches⟩, visible, other, isEnd⟩
    have otherSeen := sees_of_visible visible.1 visible.2
    -- one end is the node, the other the artifact
    have ends : d.db.sees tenantId actor row.1.sourceArtifactId = true ∧
        d.db.sees tenantId actor row.1.targetArtifactId = true := by
      have node := touches
      unfold EdgeRow.touches at node
      rw [Bool.or_eq_true, decide_eq_true_eq, decide_eq_true_eq] at node
      rcases node with isSource | isTarget
      · have isTarget := isEnd.resolve_left (fun same => other (same.trans isSource))
        rw [isSource, ← isTarget]
        exact ⟨seen, otherSeen⟩
      · have isSource := isEnd.resolve_right (fun same => other (same.trans isTarget))
        rw [isTarget, ← isSource]
        exact ⟨otherSeen, seen⟩
    exact ⟨⟨twins.agree.visibleEdge stored inTenant ends.1 ends.2, inTenant, touches⟩,
      (twins.agree.artifacts row.2).mp visible, other, isEnd⟩
  have seen' := seen
  rw [twins.agree.sees] at seen'
  have sameRows := orderBy_congr (adjacentRows_keyedBy twins.sound tenantId actor current)
    (adjacentRows_keyedBy twins.sound' tenantId actor current) (by
      intro row
      rw [mem_adjacentRows, mem_adjacentRows]
      exact ⟨one twins seen row, one twins.symm seen' row⟩)
  unfold Database.adjacent
  simp only [sameRows]

theorem mem_adjacent_sees {db : Database} {current : String} {artifact : ArtifactRow}
    (member : artifact ∈ db.adjacent tenantId (fun a => db.permits a actor .read) current) :
    db.sees tenantId actor artifact.id = true := by
  unfold Database.adjacent at member
  obtain ⟨row, inside, same⟩ := List.mem_map.mp member
  obtain ⟨_, visible, _⟩ := mem_adjacentRows.mp (mem_orderBy.mp inside)
  rw [← same]
  exact sees_of_visible visible.1 visible.2

theorem Twins.componentIds (twins : Twins tenantId actor disk disk') (startArtifactId : String)
    (limit : Int) :
    componentIds disk.db tenantId startArtifactId limit (some actor) =
      componentIds disk'.db tenantId startArtifactId limit (some actor) := by
  unfold Store.componentIds
  rw [← twins.authorize, authorize_read twins.sound twins.valid, accessClause_read twins.valid,
    accessClause_read twins.valid]
  cases seen : disk.db.sees tenantId actor startArtifactId with
  | false => rfl
  | true =>
      apply congrArg Except.ok
      apply breadthFirst_congr (P := fun node => disk.db.sees tenantId actor node = true) ?_ ?_ seen
      · intro node nodeSeen
        rw [twins.adjacent nodeSeen]
      · intro node _ other member
        obtain ⟨artifact, inside, isId⟩ := List.mem_map.mp member
        rw [← isId]
        exact mem_adjacent_sees inside

theorem Twins.componentItem (twins : Twins tenantId actor disk disk') (artifactId : String) :
    (disk.db.artifacts.find? (fun a => a.tenantId = tenantId && a.id = artifactId &&
        disk.db.permits a actor .read)).map (fun a => a.componentItem disk.db) =
      (disk'.db.artifacts.find? (fun a => a.tenantId = tenantId && a.id = artifactId &&
        disk'.db.permits a actor .read)).map (fun a => a.componentItem disk'.db) := by
  have same : disk.db.artifacts.find? (fun a => a.tenantId = tenantId && a.id = artifactId &&
        disk.db.permits a actor .read) =
      disk'.db.artifacts.find? (fun a => a.tenantId = tenantId && a.id = artifactId &&
        disk'.db.permits a actor .read) := by
    apply find?_congr
    · intro artifact
      have both := twins.agree.artifacts artifact
      rw [visible_iff, visible_iff] at both
      simp only [Bool.and_eq_true, decide_eq_true_eq]
      tauto
    · intro a b aInside bInside aHolds bHolds
      simp only [Bool.and_eq_true, decide_eq_true_eq] at aHolds bHolds
      exact twins.sound.grants.artifactIds.eq aInside bInside (aHolds.1.2.trans bHolds.1.2.symm)
  rw [← same]
  cases found : disk.db.artifacts.find? (fun a => a.tenantId = tenantId && a.id = artifactId &&
      disk.db.permits a actor .read) with
  | none => rfl
  | some artifact =>
      have holds := List.find?_some found
      simp only [Bool.and_eq_true, decide_eq_true_eq] at holds
      have sameVersion := twins.currentVersion (List.mem_of_find?_eq_some found)
        (visible_iff.mpr ⟨holds.1.1, holds.2⟩)
      rw [Option.map_some, Option.map_some]
      unfold ArtifactRow.componentItem
      rw [sameVersion]

theorem Twins.graphComponent (twins : Twins tenantId actor disk disk') (startArtifactId : String)
    (limit : Int) :
    graphComponent disk.db tenantId startArtifactId limit (some actor) =
      graphComponent disk'.db tenantId startArtifactId limit (some actor) := by
  unfold Store.graphComponent
  rw [← twins.componentIds, accessClause_read twins.valid, accessClause_read twins.valid]
  simp only [bind, Except.bind, twins.componentItem]

end FolioLattice.Store
