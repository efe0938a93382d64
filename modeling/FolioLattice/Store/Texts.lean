/-
The text of a version is held in its chunks: every version row comes from a call
that committed it, and the chunk rows that name it are the pieces of its text.
-/

import FolioLattice.Store.Contents

namespace FolioLattice.Store

open FolioLattice.Text FolioLattice.Data FolioLattice.Relational FolioLattice.Concurrency

/-! ### Pieces -/

section Pieces

variable {F : Type}

def CommittedVersion.text (version : CommittedVersion F) : Option (List Char) :=
  textFor version.data version.mediaType

/-- The pieces that the text of a version is cut into. -/
def CommittedVersion.pieces (version : CommittedVersion F) : List Chunk :=
  match version.text with
  | none => []
  | some text => chunks text

/-- The row holds a piece of the version's text. -/
structure CommittedVersion.HeldAs (version : CommittedVersion F) (piece : Chunk) (row : ChunkRow) :
    Prop where
  tenantId : row.tenantId = version.tenantId
  artifactId : row.artifactId = version.artifactId
  versionId : row.versionId = version.versionId
  ordinal : row.ordinal = piece.ordinal
  startOffset : row.startOffset = piece.start
  endOffset : row.endOffset = piece.finish
  content : row.content = piece.content

/-- The rows hold the pieces of the version's text and nothing else of it. -/
structure CommittedVersion.Chunked (version : CommittedVersion F) (rows : List ChunkRow) :
    Prop where
  stored : ∀ piece ∈ version.pieces, ∃ row ∈ rows, version.HeldAs piece row
  only : ∀ row ∈ rows, row.versionId = version.versionId →
    ∃ piece ∈ version.pieces, version.HeldAs piece row

/-- Rows of other versions change nothing. -/
theorem CommittedVersion.Chunked.append {version : CommittedVersion F} {rows more : List ChunkRow}
    (chunked : version.Chunked rows) (others : ∀ row ∈ more, row.versionId ≠ version.versionId) :
    version.Chunked (rows ++ more) where
  stored := by
    intro piece member
    obtain ⟨row, inside, held⟩ := chunked.stored piece member
    exact ⟨row, List.mem_append_left _ inside, held⟩
  only := by
    intro row member ofVersion
    rcases List.mem_append.mp member with old | new
    · exact chunked.only row old ofVersion
    · exact absurd ofVersion (others row new)

theorem CommittedVersion.Chunked.prepend {version : CommittedVersion F} {rows more : List ChunkRow}
    (chunked : version.Chunked more) (others : ∀ row ∈ rows, row.versionId ≠ version.versionId) :
    version.Chunked (rows ++ more) where
  stored := by
    intro piece member
    obtain ⟨row, inside, held⟩ := chunked.stored piece member
    exact ⟨row, List.mem_append_right _ inside, held⟩
  only := by
    intro row member ofVersion
    rcases List.mem_append.mp member with old | new
    · exact absurd ofVersion (others row old)
    · exact chunked.only row new ofVersion

/-- The rows a version is written with are its pieces. -/
theorem VersionInput.chunkRows_chunked {input : VersionInput} {draw : VersionDraw}
    {version : CommittedVersion F} (tenantId : input.tenantId = version.tenantId)
    (artifactId : input.artifactId = version.artifactId)
    (versionId : newId "ver" draw.versionId = version.versionId)
    (data : input.data = version.data) (mediaType : input.mediaType = version.mediaType) :
    version.Chunked (input.chunkRows draw) := by
  have rows : input.chunkRows draw = version.pieces.map (input.chunkRow draw) := by
    unfold VersionInput.chunkRows CommittedVersion.pieces CommittedVersion.text
    rw [data, mediaType]
    cases textFor version.data version.mediaType with
    | none => rfl
    | some text => rfl
  have held : ∀ piece, version.HeldAs piece (input.chunkRow draw piece) :=
    fun piece => ⟨tenantId, artifactId, versionId, rfl, rfl, rfl, rfl⟩
  rw [rows]
  constructor
  · intro piece member
    exact ⟨_, List.mem_map_of_mem member, held piece⟩
  · intro row member _
    obtain ⟨piece, inside, same⟩ := List.mem_map.mp member
    rw [← same]
    exact ⟨piece, inside, held piece⟩

end Pieces

/-! ### What a step adds -/

section Steps

variable {F : Type} [FloatFormat F]

/-- A call writes the rows of one new version, or none. -/
theorem Effect.adds {settings : Settings} {db db' : Database} {call : Call F} {answer : Reply}
    (effect : Effect settings db call answer db') :
    ((Occurrence.finished call (.ok answer)).version settings = none ∧
        db'.versions = db.versions ∧ db'.chunks = db.chunks) ∨
      ∃ version row rows, (Occurrence.finished call (.ok answer)).version settings = some version ∧
        version.StoredAs settings row ∧ version.Chunked rows ∧
        (∀ old ∈ db.versions, old.id ≠ version.versionId) ∧
        (∀ chunk ∈ rows, chunk.versionId = version.versionId) ∧
        db'.versions = db.versions ++ [row] ∧ db'.chunks = db.chunks ++ rows := by
  cases effect with
  | @created draw request context tenants valid _ _ fresh _ _ =>
      obtain ⟨_, inputValid⟩ := CreateRequest.validate_ok valid
      obtain ⟨_, _, _, _, encoded⟩ := validateVersionInput_ok inputValid
      refine Or.inr ⟨_, (request.firstVersion settings draw context).row settings draw.version,
        (request.firstVersion settings draw context).chunkRows draw.version, rfl,
        ⟨rfl, rfl, rfl, rfl, rfl, rfl, rfl, rfl, rfl, loadText_json encoded, rfl⟩, ?_, fresh, ?_,
        rfl, rfl⟩
      · exact VersionInput.chunkRows_chunked rfl rfl rfl rfl rfl
      · intro chunk member
        exact (VersionInput.chunkRows_of _ settings draw.version chunk member).1
  | @written draw request context artifact valid _ _ _ fresh _ =>
      obtain ⟨_, _, _, _, encoded⟩ := validateVersionInput_ok valid
      refine Or.inr ⟨_, (request.input context).row settings draw,
        (request.input context).chunkRows draw, rfl,
        ⟨rfl, rfl, rfl, rfl, rfl, rfl, rfl, rfl, rfl, loadText_json encoded, rfl⟩, ?_, fresh, ?_,
        rfl, rfl⟩
      · exact VersionInput.chunkRows_chunked rfl rfl rfl rfl rfl
      · intro chunk member
        exact (VersionInput.chunkRows_of _ settings draw chunk member).1
  | linkedAgain _ => exact Or.inl ⟨rfl, rfl, rfl⟩
  | linked _ _ _ _ => exact Or.inl ⟨rfl, rfl, rfl⟩
  | sharedAgain _ _ _ => exact Or.inl ⟨rfl, rfl, rfl⟩
  | shared _ _ _ _ => exact Or.inl ⟨rfl, rfl, rfl⟩
  | revokedAgain _ _ _ => exact Or.inl ⟨rfl, rfl, rfl⟩
  | revoked _ _ _ _ => exact Or.inl ⟨rfl, rfl, rfl⟩
  | initialized same _ => exact Or.inl ⟨rfl, same.versions, same.chunks⟩

/-- The tables of versions and chunks are what the committed calls wrote. -/
structure Recorded (settings : Settings) (committed : List (CommittedVersion F)) (db : Database) :
    Prop where
  rows : ∀ row ∈ db.versions, ∃ version ∈ committed, version.StoredAs settings row
  versions : ∀ version ∈ committed, ∃ row ∈ db.versions, version.StoredAs settings row
  chunked : ∀ version ∈ committed, version.Chunked db.chunks

theorem Recorded.congr {settings : Settings} {committed : List (CommittedVersion F)}
    {db db' : Database} (recorded : Recorded settings committed db)
    (versions : db'.versions = db.versions) (chunks : db'.chunks = db.chunks) :
    Recorded settings committed db' where
  rows := by rw [versions]; exact recorded.rows
  versions := by rw [versions]; exact recorded.versions
  chunked := by rw [chunks]; exact recorded.chunked

theorem Recorded.add {settings : Settings} {committed : List (CommittedVersion F)}
    {db db' : Database} {version : CommittedVersion F} {row : VersionRow} {rows : List ChunkRow}
    (recorded : Recorded settings committed db) (sound : StoreSound db)
    (stored : version.StoredAs settings row) (chunked : version.Chunked rows)
    (fresh : ∀ old ∈ db.versions, old.id ≠ version.versionId)
    (own : ∀ chunk ∈ rows, chunk.versionId = version.versionId)
    (versions : db'.versions = db.versions ++ [row]) (chunks : db'.chunks = db.chunks ++ rows) :
    Recorded settings (committed ++ [version]) db' where
  rows := by
    rw [versions]
    intro other member
    rcases List.mem_append.mp member with old | new
    · obtain ⟨earlier, inside, same⟩ := recorded.rows other old
      exact ⟨earlier, List.mem_append_left _ inside, same⟩
    · rw [List.mem_singleton.mp new]
      exact ⟨version, List.mem_append_right _ (List.mem_singleton_self _), stored⟩
  versions := by
    rw [versions]
    intro other member
    rcases List.mem_append.mp member with old | new
    · obtain ⟨earlier, inside, same⟩ := recorded.versions other old
      exact ⟨earlier, List.mem_append_left _ inside, same⟩
    · rw [List.mem_singleton.mp new]
      exact ⟨row, List.mem_append_right _ (List.mem_singleton_self _), stored⟩
  chunked := by
    rw [chunks]
    intro other member
    rcases List.mem_append.mp member with old | new
    · apply (recorded.chunked other old).append
      intro chunk inside same
      obtain ⟨earlier, earlierMember, isOther⟩ := recorded.versions other old
      apply fresh earlier earlierMember
      rw [isOther.id, ← same, own chunk inside]
    · rw [List.mem_singleton.mp new]
      apply chunked.prepend
      intro chunk inside same
      obtain ⟨home, homeMember, isHome, _⟩ := sound.versions.chunkHome chunk inside
      exact fresh home homeMember (isHome.trans same)

theorem StoreTrace.recorded {settings : Settings} {draw : InitializeDraw}
    {past : List (Disk × Occurrence F)} {disk : Disk} (trace : StoreTrace settings draw past disk) :
    Recorded settings (versionsCommitted settings past) disk.db := by
  induction trace with
  | start =>
      constructor
      · intro row member
        cases member
      · intro version member
        cases member
      · intro version member
        cases member
  | @next past disk disk' occurrence earlier step ih =>
      have sound := StoreTrace.sound earlier
      have committed : versionsCommitted settings (past ++ [(disk, occurrence)]) =
          versionsCommitted settings past ++ (occurrence.version settings).toList := by
        unfold versionsCommitted
        rw [List.filterMap_append, List.filterMap_cons]
        cases occurrence.version settings <;> rfl
      rw [committed]
      rcases storeStep_cases sound step with ⟨call, answer, same, effect⟩ | ⟨notDone, members, same⟩
      · subst same
        rcases effect.adds with ⟨nothing, versions, chunks⟩ |
          ⟨version, row, rows, isVersion, stored, chunked, fresh, own, versions, chunks⟩
        · rw [nothing, Option.toList_none, List.append_nil]
          exact ih.congr versions chunks
        · rw [isVersion, Option.toList_some]
          exact ih.add sound stored chunked fresh own versions chunks
      · have nothing : occurrence.version settings = none := by
          unfold Occurrence.version
          split
          · exact absurd rfl (notDone _ _)
          · exact absurd rfl (notDone _ _)
          · rfl
        rw [nothing, Option.toList_none, List.append_nil, same]
        exact ih.congr rfl rfl

/-! ### The text of an artifact -/

/-- The version that an artifact points to, as it was committed. -/
def Current (committed : List (CommittedVersion F)) (artifact : ArtifactRow)
    (version : CommittedVersion F) : Prop :=
  version ∈ committed ∧ artifact.currentVersionId = some version.versionId

/-- Every artifact points to a version of its own. -/
theorem StoreTrace.current {settings : Settings} {draw : InitializeDraw}
    {past : List (Disk × Occurrence F)} {disk : Disk} (trace : StoreTrace settings draw past disk)
    {artifact : ArtifactRow} (member : artifact ∈ disk.db.artifacts) :
    ∃ version, Current (versionsCommitted settings past) artifact version := by
  obtain ⟨row, last, points, _⟩ := ((StoreTrace.sound trace).versions.chain artifact member).pointed
  have inside : row ∈ disk.db.history artifact := List.mem_of_getLast? last
  obtain ⟨version, committed, stored⟩ :=
    (StoreTrace.recorded trace).rows row (List.mem_filter.mp inside).1
  exact ⟨version, committed, by rw [points, stored.id]⟩

theorem Current.home {settings : Settings} {draw : InitializeDraw}
    {past : List (Disk × Occurrence F)} {disk : Disk} (trace : StoreTrace settings draw past disk)
    {artifact : ArtifactRow} (member : artifact ∈ disk.db.artifacts) {version : CommittedVersion F}
    (current : Current (versionsCommitted settings past) artifact version) :
    version.artifactId = artifact.id ∧ version.tenantId = artifact.tenantId := by
  have sound := StoreTrace.sound trace
  obtain ⟨last, isLast, points, _⟩ := (sound.versions.chain artifact member).pointed
  have inside : last ∈ disk.db.history artifact := List.mem_of_getLast? isLast
  obtain ⟨lastMember, belongs⟩ := List.mem_filter.mp inside
  obtain ⟨row, rowMember, stored⟩ := (StoreTrace.recorded trace).versions version current.1
  have same : last = row := by
    apply sound.versions.versionIds.eq lastMember rowMember
    rw [stored.id]
    exact Option.some.inj (points.symm.trans current.2)
  subst same
  obtain ⟨ofArtifact, ofTenant⟩ := ofArtifact_iff.mp belongs
  exact ⟨stored.artifactId.symm.trans ofArtifact, stored.tenantId.symm.trans ofTenant⟩

end Steps

end FolioLattice.Store
