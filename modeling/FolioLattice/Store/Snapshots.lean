/-
Calls that are made of several transactions: what their parts find while others write.
-/

import FolioLattice.Store.Paging
import FolioLattice.Store.WriteOutcome

namespace FolioLattice.Store

open FolioLattice.Text FolioLattice.Data FolioLattice.Relational FolioLattice.Concurrency
open FolioLattice.Effects (except_bind_ok)

variable {F : Type} [FloatFormat F]

/-! ### The moments of a read -/

/-- A `read_artifact` between two states: the states that its parts find, and the steps that
others take before each of them. -/
structure ReadRun (F : Type) [FloatFormat F] (settings : Settings) (start finish : Disk) where
  artifact : Disk
  version : Disk
  bytes : Disk
  file : Disk
  chunks : Disk
  toArtifact : List (Disk × Occurrence F)
  toVersion : List (Disk × Occurrence F)
  toBytes : List (Disk × Occurrence F)
  toFile : List (Disk × Occurrence F)
  toChunks : List (Disk × Occurrence F)
  toFinish : List (Disk × Occurrence F)
  began : Trace (StoreStep settings) start toArtifact artifact
  described : Trace (StoreStep settings) artifact toVersion version
  describedAgain : Trace (StoreStep settings) version toBytes bytes
  opened : Trace (StoreStep settings) bytes toFile file
  listed : Trace (StoreStep settings) file toChunks chunks
  ended : Trace (StoreStep settings) chunks toFinish finish

section Read

variable {settings : Settings} {start finish : Disk}

/-- `_version_bytes` reads the metadata again, and then the file. -/
def ReadRun.snapshots (run : ReadRun F settings start finish) : ReadSnapshots where
  artifact := run.artifact
  version := run.version
  bytes := ⟨run.bytes.db, run.file.files⟩
  chunks := run.chunks

/-- All that the others do from the start of the read to its end. -/
def ReadRun.steps (run : ReadRun F settings start finish) : List (Disk × Occurrence F) :=
  run.toArtifact ++ run.toVersion ++ run.toBytes ++ run.toFile ++ run.toChunks ++ run.toFinish

/-- The descriptor of a piece of the version's text. -/
def CommittedVersion.descriptor (version : CommittedVersion F) (piece : Chunk) (id : String) :
    ChunkDescriptor where
  id := id
  artifactId := version.artifactId
  versionId := version.versionId
  ordinal := piece.ordinal
  startOffset := piece.start
  endOffset := piece.finish

/-- The parts of the content are those of one version. -/
structure ShowsVersion (settings : Settings) (given : List Bytes) (version : CommittedVersion F)
    (content : ArtifactContent F) : Prop where
  metadata : content.version = version.view settings
  bytes : ∃ data, b64decode content.contentBase64.toList = some data ∧
    settings.sha256 data = settings.sha256 version.data ∧
    (CollisionFree settings.sha256 given → data = version.data) ∧
    content.text = textFor data version.mediaType
  chunks : List.Forall₂ (fun piece place => place = version.descriptor piece place.id)
    version.pieces content.chunks

/-! ### What the parts return -/

theorem getArtifact_ok {db : Database} {tenantId artifactId : String} {actor : Option String}
    {action : Action} {view : ArtifactView}
    (shown : getArtifact db tenantId artifactId actor action = .ok view) :
    ∃ artifact ∈ db.artifacts, artifact.id = artifactId ∧ artifact.tenantId = tenantId ∧
      artifact.view = view := by
  unfold getArtifact at shown
  split at shown
  · cases shown
  · rename_i artifact found
    obtain ⟨_, _, same⟩ := except_bind_ok shown
    have holds := List.find?_some found
    simp only [Bool.and_eq_true, decide_eq_true_eq] at holds
    exact ⟨artifact, List.mem_of_find?_eq_some found, holds.1, holds.2, Except.ok.inj same⟩

theorem versionMetadata_ok {db : Database} {tenantId : String} {versionId artifactId : Option String}
    {actor : Option String} {action : Action} {view : VersionView F}
    (shown : versionMetadata db tenantId versionId actor action artifactId = .ok view) :
    ∃ row ∈ db.versions, some row.id = versionId ∧ row.tenantId = tenantId ∧
      (∀ id, artifactId = some id → row.artifactId = id) ∧ row.view = .ok view := by
  unfold versionMetadata at shown
  split at shown
  · cases shown
  · rename_i row found
    obtain ⟨_, _, viewed⟩ := except_bind_ok shown
    unfold Database.findVersion at found
    have holds := List.find?_some found
    simp only [Bool.and_eq_true, decide_eq_true_eq] at holds
    refine ⟨row, List.mem_of_find?_eq_some found, holds.1.1, holds.1.2, ?_, viewed⟩
    intro id same
    rw [same] at holds
    exact (of_decide_eq_true holds.2).symm

theorem versionBytes_ok {disk : Disk} {tenantId : String} {versionId artifactId : Option String}
    {actor : Option String} {data : Bytes}
    (read : versionBytes F disk tenantId versionId actor artifactId = .ok data) :
    ∃ view : VersionView F, versionMetadata disk.db tenantId versionId actor .read artifactId =
        .ok view ∧ disk.files (blobPath view.blobHash) = some data := by
  obtain ⟨view, shown, read⟩ := except_bind_ok read
  refine ⟨view, shown, ?_⟩
  split at read
  · cases read
  · rename_i content present
    rw [present, Except.ok.inj read]

/-- What is read of a version at two moments is one row. -/
theorem versionMetadata_same {draw : InitializeDraw} {past between : List (Disk × Occurrence F)}
    {disk later : Disk} (trace : StoreTrace settings draw past disk)
    (steps : Trace (StoreStep settings) disk between later) {row row' : VersionRow}
    (member : row ∈ disk.db.versions) (member' : row' ∈ later.db.versions)
    (sameId : row'.id = row.id) : row' = row :=
  (StoreTrace.sound (trace.append steps)).versions.versionIds.eq member'
    (Later.versions_kept trace ⟨between, steps⟩ row member) sameId

/-! ### The chunks of a version -/

theorem chunks_ascending (text : List Char) :
    (chunks text).Pairwise (fun a b => a.ordinal < b.ordinal) := by
  unfold chunks
  rw [List.pairwise_map]
  exact List.pairwise_lt_range.imp (fun less => less)

omit [FloatFormat F] in
theorem pieces_ascending (version : CommittedVersion F) :
    version.pieces.Pairwise (fun a b => a.ordinal < b.ordinal) := by
  unfold CommittedVersion.pieces
  cases version.text with
  | none => exact .nil
  | some text => exact chunks_ascending text

omit [FloatFormat F] in
/-- The descriptors listed for a version are those of its pieces, in their order. -/
theorem chunkDescriptors_pieces {db : Database} (sound : StoreSound db)
    {version : CommittedVersion F} (chunked : version.Chunked db.chunks) {actor : Option String}
    {places : List ChunkDescriptor}
    (listed : chunkDescriptors db version.tenantId version.artifactId (some version.versionId) actor =
      .ok places) :
    List.Forall₂ (fun piece place => place = version.descriptor piece place.id)
      version.pieces places := by
  obtain ⟨_, _, listed⟩ := except_bind_ok listed
  have isRow : ∀ row : ChunkRow, row ∈ orderBy ChunkRow.ordinal (db.chunks.filter (fun c =>
      c.tenantId = version.tenantId && c.artifactId = version.artifactId &&
        some c.versionId = some version.versionId)) ↔
      row ∈ db.chunks ∧ (row.tenantId = version.tenantId ∧ row.artifactId = version.artifactId) ∧
        row.versionId = version.versionId := by
    intro row
    rw [mem_orderBy]
    simp only [List.mem_filter, Bool.and_eq_true, decide_eq_true_eq, Option.some.injEq]
  have ascending := orderBy_strict (chunkRows_keyed sound version.tenantId version.artifactId
    (some version.versionId))
  rw [← Except.ok.inj listed]
  have held : ∀ piece row, version.HeldAs piece row →
      version.descriptor piece "" = { row.descriptor with id := "" } := by
    intro piece row holds
    unfold CommittedVersion.descriptor ChunkRow.descriptor
    rw [holds.artifactId, holds.versionId, holds.ordinal, holds.startOffset, holds.endOffset]
  have irreflexive : Std.Irrefl (fun a b : ChunkDescriptor => a.ordinal < b.ordinal) :=
    ⟨fun a => lt_irrefl a.ordinal⟩
  have asymmetric : Std.Asymm (fun a b : ChunkDescriptor => a.ordinal < b.ordinal) :=
    ⟨fun _ _ => lt_asymm⟩
  -- Both lists ascend by ordinal and hold the same places, ids aside.
  have left : (version.pieces.map (fun piece => version.descriptor piece "")).Pairwise
      (fun a b : ChunkDescriptor => a.ordinal < b.ordinal) :=
    List.pairwise_map.mpr (pieces_ascending version)
  have right : ((orderBy ChunkRow.ordinal (db.chunks.filter (fun c =>
      c.tenantId = version.tenantId && c.artifactId = version.artifactId &&
        some c.versionId = some version.versionId))).map
          (fun row => { row.descriptor with id := "" })).Pairwise
      (fun a b : ChunkDescriptor => a.ordinal < b.ordinal) :=
    List.pairwise_map.mpr ascending
  have same := left.eq_of_mem_iff right (by
    intro place
    rw [List.mem_map, List.mem_map]
    constructor
    · rintro ⟨piece, member, isPlace⟩
      obtain ⟨row, inside, holds⟩ := chunked.stored piece member
      exact ⟨row, (isRow row).mpr ⟨inside, ⟨holds.tenantId, holds.artifactId⟩, holds.versionId⟩,
        (held piece row holds).symm.trans isPlace⟩
    · rintro ⟨row, member, isPlace⟩
      obtain ⟨inside, _, ofVersion⟩ := (isRow row).mp member
      obtain ⟨piece, isPiece, holds⟩ := chunked.only row inside ofVersion
      exact ⟨piece, isPiece, (held piece row holds).trans isPlace⟩)
  rw [List.forall₂_map_right_iff]
  have paired := List.forall₂_eq_eq_eq ▸ same
  rw [List.forall₂_map_left_iff, List.forall₂_map_right_iff] at paired
  apply paired.imp
  intro piece row same
  unfold CommittedVersion.descriptor at same ⊢
  cases row
  cases same
  rfl

/-! ### One version -/

omit [FloatFormat F] in
theorem versionsCommitted_append (past more : List (Disk × Occurrence F)) :
    versionsCommitted settings past ⊆ versionsCommitted settings (past ++ more) := by
  unfold versionsCommitted
  rw [List.filterMap_append]
  exact List.subset_append_left _ _

omit [FloatFormat F] in
theorem dataGiven_append (past more : List (Disk × Occurrence F)) :
    dataGiven past ⊆ dataGiven (past ++ more) := by
  unfold dataGiven
  rw [List.flatMap_append]
  exact List.subset_append_left _ _

/-- Where the row of a version was read first, the later parts find that version. -/
theorem ReadRun.shows {draw : InitializeDraw} {past : List (Disk × Occurrence F)}
    (trace : StoreTrace settings draw past start) (run : ReadRun F settings start finish)
    {row : VersionRow} (member : row ∈ run.version.db.versions) {actor : Option String}
    {content : ArtifactContent F} (viewed : row.view = .ok content.version) {data : Bytes}
    (read : versionBytes F run.snapshots.bytes row.tenantId (some row.id) actor
      (some row.artifactId) = .ok data)
    (listed : chunkDescriptors run.chunks.db row.tenantId row.artifactId (some row.id) actor =
      .ok content.chunks)
    (encoded : content.contentBase64 = String.ofList (b64encode data))
    (text : content.text = textFor data content.version.mediaType) :
    ∃ version ∈ versionsCommitted settings (past ++ run.steps), version.StoredAs settings row ∧
      ShowsVersion settings (dataGiven (past ++ run.steps)) version content := by
  have atVersion := (trace.append run.began).append run.described
  have atFile := (atVersion.append run.describedAgain).append run.opened
  have atChunks := atFile.append run.listed
  obtain ⟨version, committed, stored⟩ := (StoreTrace.recorded atVersion).rows row member
  have metadata : content.version = version.view settings :=
    Except.ok.inj (viewed.symm.trans stored.viewed)
  have whole : past ++ run.steps = past ++ run.toArtifact ++ run.toVersion ++ run.toBytes ++
      run.toFile ++ run.toChunks ++ run.toFinish := by
    unfold ReadRun.steps
    simp only [List.append_assoc]
  have atLast : version ∈ versionsCommitted settings (past ++ run.toArtifact ++ run.toVersion ++
      run.toBytes ++ run.toFile ++ run.toChunks) :=
    versionsCommitted_append _ _ (versionsCommitted_append _ _ (versionsCommitted_append _ _ committed))
  have known : version ∈ versionsCommitted settings (past ++ run.steps) := by
    rw [whole]
    exact versionsCommitted_append _ _ atLast
  refine ⟨version, known, stored, metadata, ?_, ?_⟩
  · obtain ⟨view, shown, present⟩ := versionBytes_ok read
    obtain ⟨row', member', sameId, _, _, viewed'⟩ := versionMetadata_ok shown
    rw [versionMetadata_same atVersion run.describedAgain member member' (Option.some.inj sameId),
      stored.viewed] at viewed'
    rw [← Except.ok.inj viewed'] at present
    obtain ⟨given, sameDigest⟩ := StoreTrace.blobsNamed atFile _ data present
    refine ⟨data, ?_, sameDigest, ?_, ?_⟩
    · rw [encoded, String.toList_ofList]
      exact b64decode_b64encode data
    · intro free
      apply free data _ version.data (data_given known) sameDigest
      rw [whole]
      exact dataGiven_append _ _ (dataGiven_append _ _ given)
    · rw [text, metadata]
      rfl
  · rw [stored.tenantId, stored.artifactId, stored.id] at listed
    exact chunkDescriptors_pieces (StoreTrace.sound atChunks)
      ((StoreTrace.recorded atChunks).chunked version atLast) listed

/-- What `read_artifact` returns is one version, whatever others write between its parts. -/
theorem read_artifact_one_version {draw : InitializeDraw} {past : List (Disk × Occurrence F)}
    (trace : StoreTrace settings draw past start) (run : ReadRun F settings start finish)
    {tenantId artifactId : String} {versionId actor : Option String} {content : ArtifactContent F}
    (read : readArtifact run.snapshots tenantId artifactId versionId actor = .ok content) :
    ∃ version ∈ versionsCommitted settings (past ++ run.steps),
      version.tenantId = tenantId ∧ version.artifactId = artifactId ∧
      ShowsVersion settings (dataGiven (past ++ run.steps)) version content ∧
      (∀ id, versionId = some id → version.versionId = id) ∧
      (versionId = none →
        content.artifact.currentVersionId = some version.versionId ∧
        content.artifact.mediaType = version.mediaType ∧
        ∃ artifact ∈ run.artifact.db.artifacts, artifact.id = artifactId ∧
          artifact.tenantId = tenantId ∧ artifact.currentVersionId = some version.versionId) := by
  obtain ⟨shown, isArtifact, read⟩ := except_bind_ok read
  obtain ⟨metadata, described, read⟩ := except_bind_ok read
  obtain ⟨data, bytes, read⟩ := except_bind_ok read
  obtain ⟨places, listed, read⟩ := except_bind_ok read
  obtain ⟨row, member, isVersion, inTenant, ofArtifact, viewed⟩ := versionMetadata_ok described
  have home := ofArtifact artifactId rfl
  have same := Except.ok.inj read
  rw [← isVersion, ← inTenant, ← home] at bytes listed
  have isMetadata : content.version = metadata := by rw [← same]
  have isChunks : content.chunks = places := by rw [← same]
  have encoded : content.contentBase64 = String.ofList (b64encode data) := by rw [← same]
  have text : content.text = textFor data content.version.mediaType := by rw [← same]
  rw [← isMetadata] at viewed
  rw [← isChunks] at listed
  obtain ⟨version, known, stored, shows⟩ :=
    run.shows trace member viewed bytes listed encoded text
  have isContent : content.artifact = shown := by rw [← same]
  rw [isContent]
  refine ⟨version, known, stored.tenantId.symm.trans inTenant, stored.artifactId.symm.trans home,
    shows, ?_, ?_⟩
  · intro id same
    rw [same] at isVersion
    exact stored.id.symm.trans (Option.some.inj isVersion)
  · intro omitted
    obtain ⟨artifact, artifactMember, isId, artifactTenant, isShown⟩ := getArtifact_ok isArtifact
    rw [omitted, ← isShown] at isVersion
    have points : artifact.currentVersionId = some version.versionId := by
      rw [← stored.id]
      exact isVersion.symm
    have atArtifact := trace.append run.began
    obtain ⟨current, currentMember, _, pointed, sameType, _⟩ :=
      currentVersion_of_chain (StoreTrace.sound atArtifact).versions artifactMember
    have sameRow : row = current := by
      apply versionMetadata_same atArtifact run.described currentMember member
      rw [pointed] at points
      rw [stored.id]
      exact (Option.some.inj points).symm
    rw [← isShown]
    refine ⟨points, ?_, artifact, artifactMember, isId, artifactTenant, points⟩
    rw [← stored.mediaType, sameRow]
    exact sameType

end Read

/-! ### The type a write inherits -/

section Inherit

variable {settings : Settings} {first : InitializeDraw} {past : List (Disk × Occurrence F)}
  {begun start disk : Disk}

/-- A version that is current, and was there before, was current then: it has no child yet. -/
theorem current_before (trace : StoreTrace settings first past start)
    (later : Later F settings start disk) {row : VersionRow} (member : row ∈ start.db.versions)
    {artifact artifact' : ArtifactRow} (known : artifact ∈ start.db.artifacts)
    (known' : artifact' ∈ disk.db.artifacts) (sameId : artifact'.id = artifact.id)
    (sameTenant : artifact'.tenantId = artifact.tenantId)
    (points : artifact'.currentVersionId = some row.id) :
    artifact.currentVersionId = some row.id ∧ artifact.mediaType = row.mediaType := by
  obtain ⟨past', trace'⟩ := later.trace trace
  have sound := StoreTrace.sound trace
  have sound' := StoreTrace.sound trace'
  have kept := later.versions_kept trace
  have chain := sound.versions.chain artifact known
  have chain' := sound'.versions.chain artifact' known'
  obtain ⟨last, isLast, isCurrent, _⟩ := chain'.pointed
  have isRow : last = row := by
    apply sound'.versions.versionIds.eq (List.mem_filter.mp (List.mem_of_getLast? isLast)).1
      (kept row member)
    exact Option.some.inj (isCurrent.symm.trans points)
  rw [isRow] at isLast
  obtain ⟨ofId, ofTenant⟩ := ofArtifact_iff.mp (List.mem_filter.mp (List.mem_of_getLast? isLast)).2
  have inHistory : row ∈ start.db.history artifact :=
    List.mem_filter.mpr ⟨member, ofArtifact_iff.mpr ⟨ofId.trans sameId, ofTenant.trans sameTenant⟩⟩
  have childless := (chain'.linked.childless (sound'.versions.versionIds.filter _)
    (List.mem_of_getLast? isLast)).mpr isLast
  have wasLast : (start.db.history artifact).getLast? = some row := by
    apply (chain.linked.childless (sound.versions.versionIds.filter _) inHistory).mp
    intro other inside
    obtain ⟨stored, belongs⟩ := List.mem_filter.mp inside
    obtain ⟨otherId, otherTenant⟩ := ofArtifact_iff.mp belongs
    exact childless other (List.mem_filter.mpr ⟨kept other stored,
      ofArtifact_iff.mpr ⟨otherId.trans sameId.symm, otherTenant.trans sameTenant.symm⟩⟩)
  obtain ⟨pointed, isPointed, current, sameType⟩ := chain.pointed
  rw [wasLast] at isPointed
  rw [Option.some.inj isPointed]
  exact ⟨current, sameType⟩

/-- One version is added, as a child of the given one and of its type. -/
def CreatesChild (parent : CommittedVersion F) (before after : Database) (versionId : String) :
    Prop :=
  ∃ row, after.versions = before.versions ++ [row] ∧ row.id = versionId ∧
    row.parentVersionId = some parent.versionId ∧ row.mediaType = parent.mediaType

/-- A tool call without a type that is accepted passes on the type of the parent it names. -/
theorem ArtifactWrite.request_inherits (trace : StoreTrace settings first past begun)
    (toStart : Later F settings begun start) (toDisk : Later F settings start disk)
    {call : ArtifactWrite F} (omitted : call.mediaType = none) {parent : CommittedVersion F}
    (committed : parent ∈ versionsCommitted settings past)
    (named : parent.versionId = call.parentVersionId) {decode : String → Option Bytes}
    {request : WriteRequest F} (made : call.request decode start = .ok request)
    {draw : VersionDraw} (accepted : request.Accepted settings draw disk.db) :
    request.mediaType = parent.mediaType ∧ request.parentVersionId = some parent.versionId := by
  obtain ⟨view, shown, made⟩ := except_bind_ok made
  obtain ⟨artifact, known, isId, inTenant, isView⟩ := getArtifact_ok shown
  have fields : request.tenantId = call.requestTenant ∧ request.artifactId = call.artifactId ∧
      request.parentVersionId = some call.parentVersionId ∧
      request.mediaType = artifact.mediaType := by
    rw [← isView, omitted] at made
    cases decoded : decode call.contentBase64 with
    | none =>
        rw [decoded] at made
        cases made
    | some data =>
        rw [decoded] at made
        cases made
        exact ⟨rfl, rfl, rfl, rfl⟩
  obtain ⟨sameTenant, sameArtifact, sameParent, sameType⟩ := fields
  obtain ⟨artifact', found, isChild⟩ := accepted.child
  have holds := List.find?_some found
  simp only [Bool.and_eq_true, decide_eq_true_eq] at holds
  obtain ⟨row, member, stored⟩ := (StoreTrace.recorded trace).versions parent committed
  obtain ⟨past', trace'⟩ := toStart.trace trace
  have points : artifact'.currentVersionId = some row.id := by
    rw [← isChild, sameParent, stored.id, named]
  obtain ⟨_, inherits⟩ := current_before trace' toDisk (toStart.versions_kept trace row member)
    known (List.mem_of_find?_eq_some found)
    (holds.1.trans (sameArtifact.trans isId.symm))
    (holds.2.trans (sameTenant.trans inTenant.symm)) points
  rw [sameType, inherits, stored.mediaType, sameParent, named]
  exact ⟨rfl, rfl⟩

theorem WriteCall.transaction_child (trace : StoreTrace settings first past begun)
    (toStart : Later F settings begun start) (toDisk : Later F settings start disk)
    {call : ArtifactWrite F} (omitted : call.mediaType = none) {parent : CommittedVersion F}
    (committed : parent ∈ versionsCommitted settings past)
    (named : parent.versionId = call.parentVersionId) {decode : String → Option Bytes}
    {draw : VersionDraw} {versionId : String}
    (done : ((WriteCall.tool call).transaction settings decode draw start disk).2 =
      .ok versionId) :
    CreatesChild parent disk.db
      ((WriteCall.tool call).transaction settings decode draw start disk).1.db versionId := by
  obtain ⟨_, trace'⟩ := toStart.trace trace
  obtain ⟨_, trace''⟩ := toDisk.trace trace'
  cases made : (WriteCall.tool call).request decode start with
  | error e =>
      unfold WriteCall.transaction at done
      rw [made] at done
      cases done
  | ok request =>
      have transaction : (WriteCall.tool call).transaction settings decode draw start disk =
          request.transaction settings draw disk := by
        unfold WriteCall.transaction
        rw [made]
      rw [transaction] at done ⊢
      by_cases accepted : request.Accepted settings draw disk.db
      · obtain ⟨context, _, written, isId⟩ := WriteRequest.transaction_accepted accepted
        obtain ⟨sameType, sameParent⟩ :=
          ArtifactWrite.request_inherits trace toStart toDisk omitted committed named made accepted
        refine ⟨(request.input context).row settings draw, ?_, ?_, sameParent, sameType⟩
        · exact congrArg Database.versions written
        · exact Except.ok.inj (isId.symm.trans done)
      · obtain ⟨_, e, failed⟩ :=
          WriteRequest.transaction_refused (StoreTrace.sound trace'') accepted
        rw [done] at failed
        cases failed

theorem WriteCall.transaction_later (call : WriteCall F) (decode : String → Option Bytes)
    (draw : VersionDraw) :
    Later F settings disk (call.transaction settings decode draw start disk).1 := by
  unfold WriteCall.transaction
  split
  · exact ⟨[], .start⟩
  · rename_i request _
    have taken : StoreStep settings disk
        (.finished (.write draw request) (perform settings (.write draw request) disk).2)
        (perform settings (.write draw request) disk).1 := .call disk (.write draw request)
    rw [request.transaction_perform settings draw disk] at taken
    exact ⟨[] ++ [_], Trace.start.next taken⟩

theorem VersionRow.view_ok {row : VersionRow} {view : VersionView F}
    (viewed : row.view = .ok view) : view.id = row.id ∧ view.mediaType = row.mediaType := by
  obtain ⟨_, _, same⟩ := except_bind_ok viewed
  rw [← Except.ok.inj same]
  exact ⟨rfl, rfl⟩

/-- A write without a type creates a version of its parent's type, however many others write
between its parts. -/
theorem artifact_write_inherits (trace : StoreTrace settings first past begun)
    (toStart : Later F settings begun start) (toDisk : Later F settings start disk)
    (call : ArtifactWrite F) (omitted : call.mediaType = none) {parent : CommittedVersion F}
    (committed : parent ∈ versionsCommitted settings past)
    (named : parent.versionId = call.parentVersionId) (decode : String → Option Bytes)
    (draw : VersionDraw) :
    (∀ versionId, ((WriteCall.tool call).transaction settings decode draw start disk).2 =
        .ok versionId →
      CreatesChild parent disk.db
        ((WriteCall.tool call).transaction settings decode draw start disk).1.db versionId) ∧
    ∀ later, Later F settings
        ((WriteCall.tool call).transaction settings decode draw start disk).1 later →
      ∀ view, (WriteCall.tool call).outcome settings decode draw start disk later = .ok view →
        CreatesChild parent disk.db
          ((WriteCall.tool call).transaction settings decode draw start disk).1.db view.id ∧
        view.mediaType = parent.mediaType := by
  refine ⟨fun versionId done =>
    WriteCall.transaction_child trace toStart toDisk omitted committed named done, ?_⟩
  intro later after view told
  obtain ⟨past', trace'⟩ := toStart.trace trace
  obtain ⟨past'', trace''⟩ := toDisk.trace trace'
  obtain ⟨_, written⟩ :=
    (WriteCall.transaction_later (WriteCall.tool call) decode draw).trace trace''
  obtain ⟨versionId, done, shown⟩ : ∃ versionId,
      ((WriteCall.tool call).transaction settings decode draw start disk).2 = .ok versionId ∧
      ∃ tenantId actor,
        versionMetadata later.db tenantId (some versionId) actor .write = .ok view := by
    unfold WriteCall.outcome at told
    unfold WriteCall.transaction
    split at told
    · cases told
    · rename_i request made
      obtain ⟨versionId, done, shown⟩ := except_bind_ok told
      exact ⟨versionId, done, request.tenantId, request.requestActor, shown⟩
  obtain ⟨tenantId, actor, shown⟩ := shown
  have created := WriteCall.transaction_child trace toStart toDisk omitted committed named done
  obtain ⟨row, added, isId, _, sameType⟩ := id created
  obtain ⟨row', member', sameId, _, _, viewed⟩ := versionMetadata_ok shown
  obtain ⟨isView, viewType⟩ := VersionRow.view_ok viewed
  obtain ⟨between, steps⟩ := after
  have same : row' = row := by
    apply versionMetadata_same written steps ?_ member'
    · rw [isId]
      exact Option.some.inj sameId
    · rw [added]
      exact List.mem_append_right _ (List.mem_singleton_self _)
  rw [isView, viewType, same, isId, sameType]
  exact ⟨created, rfl⟩

end Inherit

/-! ### A write between the parts of a call -/

def overtakenStart : Disk :=
  performAll Settings.standard (readBackCalls.take 1)
    (freshDisk Settings.standard InitializeDraw.epoch)

def overtakenFinish : Disk := performAll Settings.standard (readBackCalls.drop 1) overtakenStart

/-- The second version is written after the artifact was looked up. -/
def overtakenRead : ReadRun Empty Settings.standard overtakenStart overtakenFinish where
  artifact := overtakenStart
  version := overtakenFinish
  bytes := overtakenFinish
  file := overtakenFinish
  chunks := overtakenFinish
  toArtifact := []
  toVersion := [] ++ moments Settings.standard (readBackCalls.drop 1) overtakenStart
  toBytes := []
  toFile := []
  toChunks := []
  toFinish := []
  began := .start
  described := performAll_trace .start (readBackCalls.drop 1)
  describedAgain := .start
  opened := .start
  listed := .start
  ended := .start

theorem read_artifact_one_version_overtaken :
    ∃ content : ArtifactContent Empty,
      readArtifact overtakenRead.snapshots "t" (newId "art" Uuid.nil) none (some "ann") =
        .ok content ∧
      ∃ version : CommittedVersion Empty,
        (∃ given, ShowsVersion Settings.standard given version content) ∧
        content.artifact.currentVersionId = some version.versionId := by
  obtain ⟨content, read⟩ : ∃ content : ArtifactContent Empty, readArtifact overtakenRead.snapshots
      "t" (newId "art" Uuid.nil) none (some "ann") = .ok content := by
    have returns : (readArtifact overtakenRead.snapshots "t" (newId "art" Uuid.nil) none
        (some "ann") : Except Failure (ArtifactContent Empty)).isOk = true := by
      decide +kernel
    cases read : (readArtifact overtakenRead.snapshots "t" (newId "art" Uuid.nil) none
        (some "ann") : Except Failure (ArtifactContent Empty)) with
    | error e =>
        rw [read] at returns
        cases returns
    | ok content => exact ⟨content, rfl⟩
  obtain ⟨version, _, _, _, shows, _, points⟩ := read_artifact_one_version
    (performAll_trace (.start : StoreTrace Settings.standard InitializeDraw.epoch [] _)
      (readBackCalls.take 1))
    overtakenRead read
  exact ⟨content, read, version, ⟨_, shows⟩, (points rfl).1⟩

def inheritingWrite : ArtifactWrite Empty where
  requestTenant := "t"
  requestActor := "ann"
  policyActor := none
  artifactId := newId "art" Uuid.nil
  parentVersionId := newId "ver" Uuid.nil
  contentBase64 := "aG8="

def inheritedParent : CommittedVersion Empty where
  tenantId := "t"
  artifactId := newId "art" Uuid.nil
  versionId := newId "ver" Uuid.nil
  parentVersionId := none
  data := [104, 105]
  mediaType := "application/octet-stream"
  actor := "ann"
  reason := "initial artifact"
  sourceContext := []
  createdAt := Timestamp.epoch

theorem artifact_write_inherits_first :
    CreatesChild inheritedParent overtakenStart.db
      ((WriteCall.tool inheritingWrite).transaction Settings.standard
        (fun text => b64decode text.toList) (VersionDraw.epoch Uuid.one) overtakenStart
        overtakenStart).1.db (newId "ver" Uuid.one) := by
  have trace := performAll_trace (.start : StoreTrace Settings.standard InitializeDraw.epoch [] _)
    (readBackCalls.take 1)
  have committed : inheritedParent ∈ versionsCommitted Settings.standard
      ([] ++ moments Settings.standard (readBackCalls.take 1)
        (freshDisk Settings.standard InitializeDraw.epoch)) :=
    List.mem_filterMap.mpr ⟨_, List.mem_cons_self, rfl⟩
  exact (artifact_write_inherits trace ⟨[], .start⟩ ⟨[], .start⟩ inheritingWrite rfl committed rfl
    (fun text => b64decode text.toList) (VersionDraw.epoch Uuid.one)).1 _ (by decide)

end FolioLattice.Store
