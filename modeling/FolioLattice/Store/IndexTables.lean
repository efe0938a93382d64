/-
The index tables mirror the text of each version: its chunk rows are the pieces of
the text, numbered and end to end, the two full-text tables hold a row for each of
them, and reading piece by piece gives the text, whatever is written meanwhile.
A run of `initialize` makes up the rows that a substring table lacks.
-/

import FolioLattice.Data.Tiling
import FolioLattice.Store.Snapshots
import FolioLattice.Store.Settled

namespace FolioLattice.Store

open FolioLattice.Text FolioLattice.Data FolioLattice.Relational FolioLattice.Concurrency FolioLattice.Effects

/-! ### The pieces of a text -/

def Chunk.span (piece : Chunk) : Span := ⟨piece.start, piece.finish⟩

def ChunkRow.span (row : ChunkRow) : Span := ⟨row.startOffset, row.endOffset⟩

/-- What a row holds of a text. -/
def ChunkRow.piece (row : ChunkRow) : Chunk :=
  ⟨row.ordinal, row.startOffset, row.endOffset, row.content⟩

theorem chunks_numbered (text : List Char) :
    (chunks text).map Chunk.ordinal = List.range (chunks text).length := by
  unfold chunks
  rw [List.map_map, List.length_map, List.length_range]
  exact List.map_id _

theorem chunks_tile (text : List Char) :
    Tiles 0 ((chunks text).map Chunk.span) text.length := by
  have positive : 0 < chunkSize := Nat.zero_lt_succ _
  have tiles := cuts_tile positive text.length
  unfold chunks
  rw [List.map_map]
  exact tiles

theorem chunks_slice {text : List Char} {piece : Chunk} (member : piece ∈ chunks text) :
    piece.content.toList = piece.span.slice text := by
  obtain ⟨ordinal, _, same⟩ := List.mem_map.mp member
  rw [← same]
  exact String.toList_ofList

/-- The pieces put together are the text. -/
theorem chunks_join (text : List Char) :
    ((chunks text).map (fun piece => piece.content.toList)).flatten = text := by
  have slices : (chunks text).map (fun piece => piece.content.toList) =
      ((chunks text).map Chunk.span).map (fun span => span.slice text) := by
    rw [List.map_map]
    exact List.map_congr_left (fun piece member => chunks_slice member)
  rw [slices, (chunks_tile text).slices text, Span.slice_whole]

/-! ### The rows of a version -/

/-- The chunk rows of a version by their ordinals. -/
def Database.chunksOf (db : Database) (versionId : String) : List ChunkRow :=
  orderBy ChunkRow.ordinal (db.chunks.filter (fun c => c.versionId = versionId))

theorem mem_chunksOf {db : Database} {versionId : String} {row : ChunkRow} :
    row ∈ db.chunksOf versionId ↔ row ∈ db.chunks ∧ row.versionId = versionId := by
  unfold Database.chunksOf
  rw [mem_orderBy, List.mem_filter, decide_eq_true_eq]

theorem chunksOf_ascending {db : Database} (apart : Apart ChunkRow.clashes db.chunks)
    (versionId : String) :
    (db.chunksOf versionId).Pairwise (fun a b => a.ordinal < b.ordinal) := by
  apply orderBy_strict
  apply List.Nodup.map_on
  · intro a aMember b bMember sameOrdinal
    rw [List.mem_filter, decide_eq_true_eq] at aMember bMember
    have sameVersion := aMember.2.trans bMember.2.symm
    exact (ChunksApart.keyedByPlace apart).eq aMember.1 bMember.1
      (by rw [sameVersion, sameOrdinal])
  · exact ((ChunksApart.keyedById apart).filter _).nodup

section Rows

variable {F : Type}

theorem CommittedVersion.HeldAs.piece {version : CommittedVersion F} {piece : Chunk}
    {row : ChunkRow} (held : version.HeldAs piece row) : row.piece = piece := by
  unfold ChunkRow.piece
  rw [held.ordinal, held.startOffset, held.endOffset, held.content]

/-- The rows of a version in their order are its pieces in theirs. -/
theorem CommittedVersion.Chunked.rows {db : Database} {version : CommittedVersion F}
    (chunked : version.Chunked db.chunks) (apart : Apart ChunkRow.clashes db.chunks) :
    (db.chunksOf version.versionId).map ChunkRow.piece = version.pieces := by
  have irreflexive : Std.Irrefl (fun a b : Chunk => a.ordinal < b.ordinal) :=
    ⟨fun a => lt_irrefl a.ordinal⟩
  have asymmetric : Std.Asymm (fun a b : Chunk => a.ordinal < b.ordinal) :=
    ⟨fun _ _ => lt_asymm⟩
  have ascending : ((db.chunksOf version.versionId).map ChunkRow.piece).Pairwise
      (fun a b : Chunk => a.ordinal < b.ordinal) :=
    List.pairwise_map.mpr (chunksOf_ascending apart version.versionId)
  apply ascending.eq_of_mem_iff (pieces_ascending version)
  intro piece
  rw [List.mem_map]
  constructor
  · rintro ⟨row, member, same⟩
    obtain ⟨inside, ofVersion⟩ := mem_chunksOf.mp member
    obtain ⟨held, isPiece, holds⟩ := chunked.only row inside ofVersion
    rw [← same, holds.piece]
    exact isPiece
  · intro member
    obtain ⟨row, inside, holds⟩ := chunked.stored piece member
    exact ⟨row, mem_chunksOf.mpr ⟨inside, holds.versionId⟩, holds.piece⟩

end Rows

/-! ### Mirrored text -/

/-- The rows are the text: numbered from zero, end to end over its code points,
each with its slice. -/
structure HoldsText (rows : List ChunkRow) (text : List Char) : Prop where
  numbered : rows.map ChunkRow.ordinal = List.range rows.length
  tiled : Tiles 0 (rows.map ChunkRow.span) text.length
  slices : ∀ row ∈ rows, row.content.toList = row.span.slice text

theorem HoldsText.of_pieces {rows : List ChunkRow} {text : List Char}
    (pieces : rows.map ChunkRow.piece = chunks text) : HoldsText rows text where
  numbered := by
    have numbers := chunks_numbered text
    rw [← pieces, List.map_map, List.length_map] at numbers
    exact numbers
  tiled := by
    have tiles := chunks_tile text
    rw [← pieces, List.map_map] at tiles
    exact tiles
  slices := by
    intro row member
    have isPiece : row.piece ∈ chunks text := by
      rw [← pieces]
      exact List.mem_map_of_mem member
    exact chunks_slice isPiece

/-- A full-text table has of the version one row for each of the rows, and no other. -/
def Indexes (index : List FtsRow) (versionId : String) (rows : List ChunkRow) : Prop :=
  (index.filter (fun entry => entry.versionId = versionId)).Perm (rows.map ChunkRow.fts)

theorem Indexes.of_map {db : Database} {index : List FtsRow}
    (indexed : index = db.chunks.map ChunkRow.fts) (versionId : String) :
    Indexes index versionId (db.chunksOf versionId) := by
  unfold Indexes Database.chunksOf
  rw [indexed, List.filter_map]
  exact ((orderBy_perm ChunkRow.ordinal _).map ChunkRow.fts).symm

/-- What the chunk table and the two full-text tables hold of a version. -/
structure Mirrored {F : Type} (db : Database) (version : CommittedVersion F) : Prop where
  text : ∀ text, version.text = some text → HoldsText (db.chunksOf version.versionId) text
  textless : version.text = none → db.chunksOf version.versionId = []
  home : ∀ row ∈ db.chunksOf version.versionId,
    row.tenantId = version.tenantId ∧ row.artifactId = version.artifactId
  indexed : Indexes db.chunkFts version.versionId (db.chunksOf version.versionId)
  substringIndexed : Indexes db.chunkSubstringFts version.versionId
    (db.chunksOf version.versionId)

section Mirrors

variable {F : Type} [FloatFormat F] {settings : Settings} {draw : InitializeDraw}
  {past : List (Disk × Occurrence F)} {disk : Disk}

theorem StoreTrace.pieces (trace : StoreTrace settings draw past disk)
    {version : CommittedVersion F} (committed : version ∈ versionsCommitted settings past) :
    (disk.db.chunksOf version.versionId).map ChunkRow.piece = version.pieces :=
  ((StoreTrace.recorded trace).chunked version committed).rows
    (StoreTrace.sound trace).versions.chunksApart

/-- Whatever was called and in whatever order, the tables mirror every version that is
there, and every version that was committed is there. -/
theorem index_tables_mirror_text (trace : StoreTrace settings draw past disk) :
    (∀ version ∈ versionsCommitted settings past, Mirrored disk.db version) ∧
      (∀ row ∈ disk.db.versions, ∃ version ∈ versionsCommitted settings past,
        version.StoredAs settings row) ∧
      ∀ chunk ∈ disk.db.chunks, ∃ version ∈ versionsCommitted settings past,
        version.versionId = chunk.versionId := by
  have sound := StoreTrace.sound trace
  have recorded := StoreTrace.recorded trace
  refine ⟨?_, recorded.rows, ?_⟩
  · intro version committed
    have pieces := StoreTrace.pieces trace committed
    constructor
    · intro text isText
      apply HoldsText.of_pieces
      rw [pieces]
      unfold CommittedVersion.pieces
      rw [isText]
    · intro noText
      unfold CommittedVersion.pieces at pieces
      rw [noText] at pieces
      exact List.map_eq_nil_iff.mp pieces
    · intro row member
      obtain ⟨inside, ofVersion⟩ := mem_chunksOf.mp member
      obtain ⟨_, _, holds⟩ := (recorded.chunked version committed).only row inside ofVersion
      exact ⟨holds.tenantId, holds.artifactId⟩
    · exact Indexes.of_map sound.versions.indexed _
    · exact Indexes.of_map sound.versions.substringIndexed _
  · intro chunk member
    obtain ⟨row, inside, isVersion, _⟩ := sound.versions.chunkHome chunk member
    obtain ⟨version, committed, stored⟩ := recorded.rows row inside
    exact ⟨version, committed, stored.id.symm.trans isVersion⟩

end Mirrors

/-- What `readBackWrite` commits. -/
def writtenBack : CommittedVersion Empty :=
  ⟨"t", newId "art" Uuid.nil, newId "ver" Uuid.one, some (newId "ver" Uuid.nil), [104, 111],
    "text/plain", "ann", "edit", [], Timestamp.epoch⟩

theorem index_tables_mirror_text_written :
    writtenBack.text = some ['h', 'o'] ∧
      Mirrored (performAll Settings.standard readBackCalls
        (freshDisk Settings.standard InitializeDraw.epoch)).db writtenBack := by
  have committed : writtenBack ∈ versionsCommitted Settings.standard ([] ++
      moments Settings.standard readBackCalls
        (freshDisk Settings.standard InitializeDraw.epoch)) :=
    List.mem_filterMap.mpr ⟨_, List.mem_cons_of_mem _ List.mem_cons_self, rfl⟩
  refine ⟨by decide, ?_⟩
  exact (index_tables_mirror_text (performAll_trace
    (.start : StoreTrace Settings.standard InitializeDraw.epoch [] _) readBackCalls)).1
      writtenBack committed

/-! ### Reading by pieces -/

/-- What `read_chunk` returns is a row of the tenant. -/
theorem readChunk_ok {db : Database} {tenantId chunkId : String} {actor : Option String}
    {view : ChunkView} (read : readChunk db tenantId chunkId actor = .ok view) :
    ∃ row ∈ db.chunks, row.id = chunkId ∧ view = ⟨row.descriptor, row.content⟩ := by
  unfold readChunk at read
  split at read
  · cases read
  · rename_i row found
    obtain ⟨_, _, same⟩ := except_bind_ok read
    have holds := List.find?_some found
    simp only [Bool.and_eq_true, decide_eq_true_eq] at holds
    exact ⟨row, List.mem_of_find?_eq_some found, holds.1, (Except.ok.inj same).symm⟩

theorem chunkDescriptors_ok {db : Database} {tenantId artifactId : String}
    {versionId actor : Option String} {places : List ChunkDescriptor}
    (listed : chunkDescriptors db tenantId artifactId versionId actor = .ok places) :
    ∃ rows : List ChunkRow, (∀ row ∈ rows, row ∈ db.chunks) ∧
      places = rows.map ChunkRow.descriptor := by
  obtain ⟨_, _, same⟩ := except_bind_ok listed
  refine ⟨_, ?_, (Except.ok.inj same).symm⟩
  intro row member
  exact List.mem_of_mem_filter (mem_orderBy.mp member)

section Reading

variable {F : Type} [FloatFormat F] {settings : Settings} {draw : InitializeDraw}
  {past : List (Disk × Occurrence F)} {disk start finish : Disk}

theorem Later.chunks_kept (trace : StoreTrace settings draw past disk) {disk' : Disk}
    (later : Later F settings disk disk') : ∀ chunk ∈ disk.db.chunks, chunk ∈ disk'.db.chunks := by
  obtain ⟨between, steps⟩ := later
  apply steps.preorder (P := fun disk => StoreSound disk.db)
    (R := fun disk disk' => ∀ chunk ∈ disk.db.chunks, chunk ∈ disk'.db.chunks)
  · intro _ _ member
    exact member
  · intro _ _ _ first second chunk member
    exact second chunk (first chunk member)
  · intro _ _ _ sound step
    exact sound.step step
  · intro disk _ disk' sound step chunk member
    rcases storeStep_cases sound step with ⟨call, answer, _, effect⟩ | ⟨_, members, same⟩
    · rcases effect.adds with ⟨_, _, chunks⟩ | ⟨_, _, rows, _, _, _, _, _, _, chunks⟩
      · rw [chunks]
        exact member
      · rw [chunks]
        exact List.mem_append_left rows member
    · rw [same]
      exact member
  · exact StoreTrace.sound trace

omit [FloatFormat F] in
/-- Rows of the version, listed by the ordinals of its pieces, are its pieces. -/
theorem CommittedVersion.Chunked.listed {db : Database} {version : CommittedVersion F}
    (chunked : version.Chunked db.chunks) {rows : List ChunkRow}
    (members : ∀ row ∈ rows, row ∈ db.chunks)
    (listed : List.Forall₂ (fun piece place => place = version.descriptor piece place.id)
      version.pieces (rows.map ChunkRow.descriptor)) :
    rows.map ChunkRow.piece = version.pieces := by
  have ordinals : rows.map ChunkRow.ordinal = version.pieces.map Chunk.ordinal := by
    have places : version.pieces.map Chunk.ordinal =
        (rows.map ChunkRow.descriptor).map ChunkDescriptor.ordinal := by
      rw [← List.forall₂_eq_eq_eq, List.forall₂_map_left_iff, List.forall₂_map_right_iff]
      exact listed.imp (fun piece place same => by rw [same]; rfl)
    rw [places, List.map_map]
    rfl
  have ofVersion : ∀ row ∈ rows, row.versionId = version.versionId := by
    intro row member
    obtain ⟨piece, _, same⟩ := forall₂_mem_right listed (List.mem_map_of_mem member)
    exact congrArg ChunkDescriptor.versionId same
  have distinct : KeyedBy Chunk.ordinal version.pieces :=
    List.pairwise_map.mpr ((pieces_ascending version).imp (fun less => Nat.ne_of_lt less))
  apply distinct.eq_of_map_eq
  · intro piece member
    obtain ⟨row, inside, same⟩ := List.mem_map.mp member
    obtain ⟨held, isPiece, holds⟩ := chunked.only row (members row inside) (ofVersion row inside)
    rw [← same, holds.piece]
    exact isPiece
  · intro piece member
    exact member
  · rw [List.map_map]
    exact ordinals

/-- The chunks that the listing names are read one by one, each at a later moment of
its own and by whoever may read it. -/
def ReadsPlaces (F : Type) [FloatFormat F] (settings : Settings) (disk : Disk) (tenantId : String)
    (places : List ChunkDescriptor) (views : List ChunkView) : Prop :=
  List.Forall₂ (fun place view => ∃ later actor, Later F settings disk later ∧
    readChunk later.db tenantId place.id actor = .ok view) places views

/-- A row that was listed is what a later read of its id returns. -/
theorem readChunk_later (trace : StoreTrace settings draw past disk) {later : Disk}
    (after : Later F settings disk later) {row : ChunkRow} (member : row ∈ disk.db.chunks)
    {tenantId : String} {actor : Option String} {view : ChunkView}
    (read : readChunk later.db tenantId row.id actor = .ok view) :
    view = ⟨row.descriptor, row.content⟩ := by
  obtain ⟨found, inside, sameId, isView⟩ := readChunk_ok read
  obtain ⟨_, traceLater⟩ := after.trace trace
  have keyed := ChunksApart.keyedById (StoreTrace.sound traceLater).versions.chunksApart
  rw [isView, keyed.eq inside (after.chunks_kept trace row member) sameId]

theorem ReadsPlaces.views (trace : StoreTrace settings draw past disk) {tenantId : String}
    {rows : List ChunkRow} (members : ∀ row ∈ rows, row ∈ disk.db.chunks)
    {views : List ChunkView}
    (reads : ReadsPlaces F settings disk tenantId (rows.map ChunkRow.descriptor) views) :
    views = rows.map (fun row => ⟨row.descriptor, row.content⟩) := by
  have each := List.forall₂_map_left_iff.mp reads
  have both := (List.forall₂_and_left _ _).mpr ⟨members, each⟩
  have same : List.Forall₂ (fun row view => (⟨row.descriptor, row.content⟩ : ChunkView) = view)
      rows views := by
    apply both.imp
    rintro row view ⟨member, later, actor, after, read⟩
    exact (readChunk_later trace after member read).symm
  rw [← List.forall₂_map_left_iff, List.forall₂_eq_eq_eq] at same
  exact same.symm

/-- The version that `read_artifact` shows, with the rows of its chunks. -/
theorem ReadRun.rows (trace : StoreTrace settings draw past start)
    (run : ReadRun F settings start finish) {tenantId artifactId : String}
    {versionId actor : Option String} {content : ArtifactContent F}
    (read : readArtifact run.snapshots tenantId artifactId versionId actor = .ok content) :
    ∃ version ∈ versionsCommitted settings (past ++ run.steps), ∃ rows : List ChunkRow,
      ShowsVersion settings (dataGiven (past ++ run.steps)) version content ∧
      (∀ row ∈ rows, row ∈ run.chunks.db.chunks) ∧
      content.chunks = rows.map ChunkRow.descriptor := by
  obtain ⟨_, _, read⟩ := except_bind_ok read
  obtain ⟨metadata, described, read⟩ := except_bind_ok read
  obtain ⟨data, bytes, read⟩ := except_bind_ok read
  obtain ⟨places, listed, read⟩ := except_bind_ok read
  obtain ⟨row, member, isVersion, inTenant, ofArtifact, viewed⟩ := versionMetadata_ok described
  obtain ⟨rows, members, isPlaces⟩ := chunkDescriptors_ok listed
  rw [← isVersion, ← inTenant, ← ofArtifact artifactId rfl] at bytes listed
  have same := Except.ok.inj read
  have isMetadata : content.version = metadata := by rw [← same]
  have isChunks : content.chunks = places := by rw [← same]
  have encoded : content.contentBase64 = String.ofList (b64encode data) := by rw [← same]
  have text : content.text = textFor data content.version.mediaType := by rw [← same]
  rw [← isMetadata] at viewed
  rw [← isChunks] at listed
  obtain ⟨version, known, _, shows⟩ := run.shows trace member viewed bytes listed encoded text
  exact ⟨version, known, rows, shows, members, isChunks.trans isPlaces⟩

/-- The list of chunks that `read_artifact` returns, read chunk by chunk at whatever later
moments, gives the text that it returns; for a version without text there are none. -/
theorem read_artifact_by_chunks (trace : StoreTrace settings draw past start)
    (run : ReadRun F settings start finish)
    (free : CollisionFree settings.sha256 (dataGiven (past ++ run.steps)))
    {tenantId artifactId : String} {versionId actor : Option String} {content : ArtifactContent F}
    (read : readArtifact run.snapshots tenantId artifactId versionId actor = .ok content)
    {views : List ChunkView}
    (reads : ReadsPlaces F settings run.chunks tenantId content.chunks views) :
    views.map (·.place) = content.chunks ∧
      (∀ text, content.text = some text →
        (views.map (fun view => view.content.toList)).flatten = text) ∧
      (content.text = none → views = []) := by
  obtain ⟨version, known, rows, shows, members, isRows⟩ := run.rows trace read
  have isText : content.text = version.text := by
    obtain ⟨data, _, _, same, isText⟩ := shows.bytes
    rw [isText, same free]
    rfl
  have traceListed := (trace.append (((run.began.append run.described).append
    run.describedAgain).append run.opened)).append run.listed
  have traceEnd := traceListed.append run.ended
  have toEnd : Later F settings run.chunks finish := ⟨run.toFinish, run.ended⟩
  have steps : past ++ (run.toArtifact ++ run.toVersion ++ run.toBytes ++ run.toFile) ++
      run.toChunks ++ run.toFinish = past ++ run.steps := by
    unfold ReadRun.steps
    simp only [List.append_assoc]
  rw [steps] at traceEnd
  have chunked := (StoreTrace.recorded traceEnd).chunked version known
  have listed := shows.chunks
  rw [isRows] at listed reads
  have pieces := chunked.listed
    (fun row member => toEnd.chunks_kept traceListed row (members row member)) listed
  have isViews := reads.views traceListed members
  refine ⟨?_, ?_, ?_⟩
  · rw [isViews, isRows, List.map_map]
    rfl
  · intro text some
    have contents : views.map (fun view => view.content.toList) =
        (rows.map ChunkRow.piece).map (fun piece => piece.content.toList) := by
      rw [isViews, List.map_map, List.map_map]
      rfl
    rw [contents, pieces]
    unfold CommittedVersion.pieces
    rw [← isText, some]
    exact chunks_join text
  · intro none
    unfold CommittedVersion.pieces at pieces
    rw [← isText, none] at pieces
    rw [isViews, List.map_eq_nil_iff.mp pieces, List.map_nil]

end Reading

/-- A version that was written after its artifact was looked up, read by its chunk. -/
theorem read_artifact_by_chunks_overtaken :
    ∃ content : ArtifactContent Empty,
      readArtifact overtakenRead.snapshots "t" (newId "art" Uuid.nil)
        (some (newId "ver" Uuid.one)) (some "ann") = .ok content ∧
      ∃ view, readChunk overtakenFinish.db "t" (newId "chk" Uuid.one) (some "ann") = .ok view ∧
        content.text = some view.content.toList := by
  have returned : (readArtifact overtakenRead.snapshots "t" (newId "art" Uuid.nil)
      (some (newId "ver" Uuid.one)) (some "ann") : Except Failure (ArtifactContent Empty)).map
        (fun content => (content.chunks, content.text)) =
      .ok ([⟨newId "chk" Uuid.one, newId "art" Uuid.nil, newId "ver" Uuid.one, 0, 0, 2⟩],
        some ['h', 'o']) := by
    decide +kernel
  cases read : (readArtifact overtakenRead.snapshots "t" (newId "art" Uuid.nil)
      (some (newId "ver" Uuid.one)) (some "ann") : Except Failure (ArtifactContent Empty)) with
  | error e =>
      rw [read] at returned
      cases returned
  | ok content =>
      rw [read] at returned
      obtain ⟨places, text⟩ := Prod.mk.inj (Except.ok.inj returned)
      have chunk : readChunk overtakenFinish.db "t" (newId "chk" Uuid.one) (some "ann") =
          .ok ⟨⟨newId "chk" Uuid.one, newId "art" Uuid.nil, newId "ver" Uuid.one, 0, 0, 2⟩,
            "ho"⟩ := by
        decide +kernel
      have reads : ReadsPlaces Empty Settings.standard overtakenFinish "t" content.chunks
          [⟨⟨newId "chk" Uuid.one, newId "art" Uuid.nil, newId "ver" Uuid.one, 0, 0, 2⟩, "ho"⟩] := by
        rw [places]
        exact .cons ⟨overtakenFinish, some "ann", ⟨[], .start⟩, chunk⟩ .nil
      have joined := (read_artifact_by_chunks
        (performAll_trace (.start : StoreTrace Settings.standard InitializeDraw.epoch [] _)
          (readBackCalls.take 1))
        overtakenRead (by decide +kernel) read reads).2.1 _ text
      refine ⟨content, rfl, _, chunk, ?_⟩
      rw [text, ← joined]
      rfl

/-! ### Rows that were missing -/

section Missing

variable {F : Type} [FloatFormat F] {settings : Settings} {db db' : Database}

theorem ChunkRow.fts_keyed {rows : List ChunkRow} (keyed : KeyedBy ChunkRow.id rows) :
    (rows.map ChunkRow.fts).Nodup := by
  apply List.Nodup.of_map FtsRow.chunkId
  rw [List.map_map]
  exact keyed

/-- The backfill completes the table exactly where what it found were rows of the chunks,
none of them twice. -/
theorem backfillSubstrings_perm (keyed : KeyedBy ChunkRow.id db.chunks) :
    db.backfillSubstrings.chunkSubstringFts.Perm (db.chunks.map ChunkRow.fts) ↔
      db.chunkSubstringFts.Subperm (db.chunks.map ChunkRow.fts) := by
  unfold Database.backfillSubstrings
  dsimp only
  constructor
  · intro complete
    exact (List.sublist_append_left _ _).subperm.trans complete.subperm
  · intro found
    have distinct := ChunkRow.fts_keyed keyed
    have foundDistinct : db.chunkSubstringFts.Nodup := by
      obtain ⟨rows, same, inside⟩ := found
      exact same.nodup_iff.mp (inside.nodup distinct)
    have isMissing : ∀ chunk, chunk ∈ db.chunks.filter
        (fun c => !db.chunkSubstringFts.any (fun s => s.chunkId = c.id)) ↔
        chunk ∈ db.chunks ∧ ∀ entry ∈ db.chunkSubstringFts, entry.chunkId ≠ chunk.id := by
      intro chunk
      simp only [List.mem_filter, Bool.not_eq_true', List.any_eq_false, decide_eq_true_eq, ne_eq]
    have missingDistinct := ChunkRow.fts_keyed (keyed.filter
      (fun c => !db.chunkSubstringFts.any (fun s => s.chunkId = c.id)))
    have apart : (db.chunkSubstringFts ++ (db.chunks.filter
        (fun c => !db.chunkSubstringFts.any (fun s => s.chunkId = c.id))).map
          ChunkRow.fts).Nodup := by
      apply foundDistinct.append missingDistinct
      intro entry old new
      obtain ⟨chunk, member, same⟩ := List.mem_map.mp new
      exact ((isMissing chunk).mp member).2 entry old (by rw [← same]; rfl)
    rw [List.perm_ext_iff_of_nodup apart distinct]
    intro entry
    rw [List.mem_append]
    constructor
    · rintro (old | new)
      · exact found.subset old
      · obtain ⟨chunk, member, same⟩ := List.mem_map.mp new
        exact List.mem_map.mpr ⟨chunk, ((isMissing chunk).mp member).1, same⟩
    · intro member
      obtain ⟨chunk, inside, same⟩ := List.mem_map.mp member
      by_cases present : ∃ other ∈ db.chunkSubstringFts, other.chunkId = chunk.id
      · obtain ⟨other, old, sameId⟩ := present
        obtain ⟨home, homeMember, isOther⟩ := List.mem_map.mp (found.subset old)
        have sameChunk : home = chunk := by
          apply keyed.eq homeMember inside
          rw [← sameId, ← isOther]
          rfl
        rw [← same, ← sameChunk, isOther]
        exact Or.inl old
      · apply Or.inr
        refine List.mem_map.mpr ⟨chunk, (isMissing chunk).mpr ⟨inside, ?_⟩, same⟩
        intro other old sameId
        exact present ⟨other, old, sameId⟩

/-- A run of `initialize` touches the indexes in the backfill alone. -/
theorem initializeStore_index {draw : InitializeDraw}
    (done : initializeStore F settings draw db = .ok db') :
    db'.chunks = db.chunks ∧ db'.chunkFts = db.chunkFts ∧
      db'.chunkSubstringFts = db.backfillSubstrings.chunkSubstringFts := by
  obtain ⟨audited, owned, upgraded, ownersDone, ledgerDone⟩ := initializeStore_steps done
  obtain ⟨sameAudited, _⟩ := upgradeAudit_ok upgraded
  obtain ⟨sameLedger, _, _⟩ := ensureMigrationLedger_ok ledgerDone
  have sameOwned : owned.chunks = audited.chunks ∧ owned.chunkFts = audited.chunkFts ∧
      owned.chunkSubstringFts = audited.chunkSubstringFts := by
    unfold Database.upgradeOwners at ownersDone
    obtain ⟨artifacts, _, isDb⟩ := except_bind_ok ownersDone
    rw [← Except.ok.inj isDb]
    exact ⟨rfl, rfl, rfl⟩
  have sameCurrent : owned.upgradeCurrentVersions.chunks = owned.chunks ∧
      owned.upgradeCurrentVersions.chunkFts = owned.chunkFts ∧
      owned.upgradeCurrentVersions.chunkSubstringFts = owned.chunkSubstringFts := by
    unfold Database.upgradeCurrentVersions
    split
    · exact ⟨rfl, rfl, rfl⟩
    · exact ⟨rfl, rfl, rfl⟩
  refine ⟨?_, ?_, ?_⟩
  · exact sameLedger.chunks.trans (sameCurrent.1.trans (sameOwned.1.trans sameAudited.chunks))
  · exact sameLedger.chunkFts.trans
      (sameCurrent.2.1.trans (sameOwned.2.1.trans sameAudited.chunkFts))
  · exact sameLedger.chunkSubstringFts.trans
      (sameCurrent.2.2.trans (sameOwned.2.2.trans sameAudited.chunkSubstringFts))

/-- One start of the service after another on the same database. -/
def initializeEach (F : Type) [FloatFormat F] (settings : Settings) :
    List InitializeDraw → Database → Except Failure Database
  | [], db => .ok db
  | draw :: rest, db => initializeStore F settings draw db >>= initializeEach F settings rest

theorem initializeEach_settled (settled : Settled settings db) (draws : List InitializeDraw) :
    initializeEach F settings draws db = .ok db := by
  induction draws with
  | nil => rfl
  | cons draw rest ih =>
      rw [initializeEach, settled.fixed]
      exact ih

/-- After any number of starts that all succeed, at least one of them, the substring table
holds one row for each chunk exactly where the rows it had before were rows of the chunks
and none twice; chunks and the word index are as they were. -/
theorem initialize_restores_substrings (keyed : KeyedBy ChunkRow.id db.chunks)
    {draw : InitializeDraw} {draws : List InitializeDraw}
    (done : initializeEach F settings (draw :: draws) db = .ok db') :
    db'.chunks = db.chunks ∧ db'.chunkFts = db.chunkFts ∧
      (∀ entry ∈ db.chunkSubstringFts, entry ∈ db'.chunkSubstringFts) ∧
      (db'.chunkSubstringFts.Perm (db'.chunks.map ChunkRow.fts) ↔
        db.chunkSubstringFts.Subperm (db.chunks.map ChunkRow.fts)) := by
  rw [initializeEach] at done
  obtain ⟨first, started, done⟩ := except_bind_ok done
  rw [initializeEach_settled (initializeStore_settles started)] at done
  obtain ⟨chunks, words, substrings⟩ := initializeStore_index started
  rw [← Except.ok.inj done, chunks, substrings]
  refine ⟨rfl, words, ?_, backfillSubstrings_perm keyed⟩
  intro entry member
  exact List.mem_append_left _ member

end Missing

/-- A substring table that an earlier release left empty. -/
theorem initialize_restores_substrings_emptied :
    ∃ db db' : Database, db.chunks ≠ [] ∧ db.chunkSubstringFts = [] ∧
      initializeEach Empty Settings.standard [InitializeDraw.epoch, InitializeDraw.epoch] db =
        .ok db' ∧
      db'.chunkSubstringFts.Perm (db'.chunks.map ChunkRow.fts) := by
  obtain ⟨db, isDb⟩ : ∃ db : Database, db = { (performAll Settings.standard readBackCalls
      (freshDisk Settings.standard InitializeDraw.epoch)).db with chunkSubstringFts := [] } :=
    ⟨_, rfl⟩
  have started : (initializeEach Empty Settings.standard
      [InitializeDraw.epoch, InitializeDraw.epoch] db).isOk = true := by
    rw [isDb]
    decide +kernel
  have keyed : KeyedBy ChunkRow.id db.chunks := by
    rw [isDb]
    unfold KeyedBy
    decide +kernel
  have emptied : db.chunkSubstringFts = [] := by rw [isDb]
  cases done : initializeEach Empty Settings.standard
      [InitializeDraw.epoch, InitializeDraw.epoch] db with
  | error e =>
      rw [done] at started
      cases started
  | ok db' =>
      refine ⟨db, db', ?_, emptied, done, ?_⟩
      · rw [isDb]
        decide +kernel
      · apply (initialize_restores_substrings keyed done).2.2.2.mpr
        rw [emptied]
        exact (List.nil_sublist _).subperm

end FolioLattice.Store
