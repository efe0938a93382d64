/-
Versions and the files that hold their bytes.  Files are written before the
transaction commits, are shared by content and are never written twice.
-/

import FolioLattice.Store.System

namespace FolioLattice.Store

open FolioLattice.Text FolioLattice.Data FolioLattice.Relational FolioLattice.Concurrency
open FolioLattice.Effects (except_map_ok)

/-! ### Files -/

theorem Digest.ext_hex {a b : Digest} (same : a.hex = b.hex) : a = b := by
  cases a
  cases b
  cases same
  rfl

theorem blobPath_inj {a b : Digest} (same : blobPath a.hex = blobPath b.hex) : a = b := by
  unfold blobPath at same
  exact Digest.ext_hex (List.cons.inj (List.cons.inj same).2).1

/-- A temporary file's name starts with a dot, a blob's does not. -/
theorem temporaryPath_ne_blobPath (hash : String) (temporary : Uuid) (digest : Digest) :
    blobPath digest.hex ≠ temporaryPath hash temporary := by
  intro same
  unfold blobPath temporaryPath at same
  have names := congrArg String.toList (List.cons.inj (List.cons.inj same).2).1
  rw [String.append_assoc, String.append_assoc, String.append_assoc, String.toList_append] at names
  have dot : '.' ∈ digest.hex.toList := by
    rw [names]
    exact List.mem_append_left _ (by decide)
  have isHex := List.all_eq_true.mp digest.isHex.2 '.' dot
  exact absurd isHex (by decide)

theorem putFile_ne {files : Files} {path other : List String} {content : Option Bytes}
    (different : other ≠ path) : putFile files path content other = files other := by
  unfold putFile
  rw [if_neg different]

theorem putFile_self {files : Files} {path : List String} {content : Option Bytes} :
    putFile files path content path = content := by
  unfold putFile
  rw [if_pos rfl]

theorem storeBlob_blob (files : Files) (data : Bytes) (stored digest : Digest) (temporary : Uuid) :
    storeBlob files data stored.hex temporary (blobPath digest.hex) =
      if digest = stored ∧ files (blobPath stored.hex) = none then some data
      else files (blobPath digest.hex) := by
  unfold storeBlob
  have apart := temporaryPath_ne_blobPath stored.hex temporary digest
  cases present : files (blobPath stored.hex) with
  | some content =>
      simp only [Option.isSome_some, if_true, reduceCtorEq, and_false, if_false]
  | none =>
      simp only [Option.isSome_none, Bool.false_eq_true, if_false, and_true]
      rw [putFile_ne apart]
      by_cases same : digest = stored
      · rw [if_pos same, same, putFile_self]
      · rw [if_neg same, putFile_ne (fun equal => same (blobPath_inj equal)), putFile_ne apart]

/-- Every blob holds the bytes its name is the digest of, and these were given to
some call. -/
def BlobsNamed (hash : Bytes → Digest) (given : List Bytes) (files : Files) : Prop :=
  ∀ digest : Digest, ∀ content, files (blobPath digest.hex) = some content →
    content ∈ given ∧ hash content = digest

theorem BlobsNamed.mono {hash : Bytes → Digest} {given more : List Bytes} {files : Files}
    (named : BlobsNamed hash given files) : BlobsNamed hash (given ++ more) files := by
  intro digest content present
  obtain ⟨member, isDigest⟩ := named digest content present
  exact ⟨List.mem_append_left _ member, isDigest⟩

theorem BlobsNamed.storeBlob {hash : Bytes → Digest} {given : List Bytes} {files : Files}
    (named : BlobsNamed hash given files) (data : Bytes) (temporary : Uuid) :
    BlobsNamed hash (given ++ [data]) (storeBlob files data (hash data).hex temporary) := by
  intro digest content present
  rw [storeBlob_blob] at present
  split at present
  · rename_i isNew
    rw [← Option.some.inj present]
    exact ⟨List.mem_append_right _ (List.mem_singleton_self _), isNew.1.symm⟩
  · exact named.mono digest content present

theorem BlobsNamed.interrupted {hash : Bytes → Digest} {given : List Bytes} {files files' : Files}
    (named : BlobsNamed hash given files) {data : Bytes}
    (left : BlobInterrupted files data (hash data).hex files') :
    BlobsNamed hash (given ++ [data]) files' := by
  cases left with
  | untouched => exact named.mono
  | temporary uuid written missing =>
      intro digest content present
      rw [putFile_ne (temporaryPath_ne_blobPath _ _ _)] at present
      exact named.mono digest content present
  | stored uuid => exact named.storeBlob data uuid

/-- A blob that is there stays. -/
theorem storeBlob_keeps {files : Files} {data content : Bytes} {stored digest : Digest}
    {temporary : Uuid} (present : files (blobPath digest.hex) = some content) :
    storeBlob files data stored.hex temporary (blobPath digest.hex) = some content := by
  rw [storeBlob_blob, if_neg, present]
  rintro ⟨same, missing⟩
  rw [same, missing] at present
  cases present

theorem storeBlob_stores (files : Files) (data : Bytes) (stored : Digest) (temporary : Uuid) :
    (storeBlob files data stored.hex temporary (blobPath stored.hex)).isSome = true := by
  rw [storeBlob_blob]
  split
  · rfl
  · rename_i known
    rw [Option.isSome_iff_ne_none]
    exact fun missing => known ⟨rfl, missing⟩

def BlobsKept (files files' : Files) : Prop :=
  ∀ digest : Digest, ∀ content, files (blobPath digest.hex) = some content →
    files' (blobPath digest.hex) = some content

theorem BlobsKept.interrupted {files files' : Files} {data : Bytes} {stored : Digest}
    (left : BlobInterrupted files data stored.hex files') : BlobsKept files files' := by
  intro digest content present
  cases left with
  | untouched => exact present
  | temporary uuid written missing =>
      rw [putFile_ne (temporaryPath_ne_blobPath _ _ _)]
      exact present
  | stored uuid => exact storeBlob_keeps present

/-! ### What calls write to files -/

section Calls

variable {F : Type} [FloatFormat F]

/-- The bytes that a call stores if it gets so far. -/
def Call.data : Call F → Option Bytes
  | .create _ request => some request.data
  | .write _ request => some request.data
  | _ => none

def Occurrence.data : Occurrence F → Option Bytes
  | .finished call _ => call.data
  | .interrupted data => some data
  | .memberships => none

/-- A call leaves the files alone or stores its bytes, also when it raises. -/
theorem Call.body_files (settings : Settings) (disk : Disk) (call : Call F) :
    (call.body settings disk).1 = disk.files ∨
      ∃ data temporary, call.data = some data ∧
        (call.body settings disk).1 =
          storeBlob disk.files data (settings.sha256 data).hex temporary := by
  cases call with
  | create draw request =>
      simp only [Call.body, checked]
      split
      · exact Or.inl rfl
      · rename_i context _
        simp only [reply, createBody]
        split
        · exact Or.inl rfl
        · rcases insertVersion_files settings draw.version
            (request.firstVersion settings draw context) _ disk.files with same | stored
          · exact Or.inl same
          · exact Or.inr ⟨request.data, draw.version.temporary, rfl, stored⟩
  | write draw request =>
      simp only [Call.body, checked]
      split
      · exact Or.inl rfl
      · rename_i context _
        simp only [reply, writeBody]
        split
        · exact Or.inl rfl
        · rcases insertVersion_files settings draw (request.input context) disk.db disk.files with
            same | stored
          · exact Or.inl same
          · exact Or.inr ⟨request.data, draw.temporary, rfl, stored⟩
  | link draw request =>
      simp only [Call.body, checked]
      split
      · exact Or.inl rfl
      · exact Or.inl rfl
  | share draw request => exact Or.inl rfl
  | revoke now request => exact Or.inl rfl
  | restart draw => exact Or.inl rfl

theorem insertVersion_stored {settings : Settings} {draw : VersionDraw} {input : VersionInput}
    {db db' : Database} {files : Files} {versionId : String}
    (inserted : (insertVersion settings draw input db files).2 = .ok (db', versionId)) :
    (insertVersion settings draw input db files).1 =
      storeBlob files input.data (settings.sha256 input.data).hex draw.temporary := by
  unfold insertVersion at inserted ⊢
  split
  · rename_i missing
    rw [missing] at inserted
    cases inserted
  · rename_i artifact found
    rw [found] at inserted
    simp only at inserted
    split
    · rename_i mismatch
      rw [if_pos mismatch] at inserted
      cases inserted
    · rfl

/-- A version that commits has its bytes stored. -/
theorem Call.body_stored {settings : Settings} {disk : Disk} {call : Call F} {data : Bytes}
    {result : Database × Reply} (stores : call.data = some data)
    (done : (call.body settings disk).2 = .ok result) :
    ((call.body settings disk).1 (blobPath (settings.sha256 data).hex)).isSome = true := by
  cases call with
  | create draw request =>
      cases stores
      obtain ⟨context, valid, done⟩ := checked_ok done
      obtain ⟨ids, committed, _⟩ := reply_ok done
      simp only [Call.body, checked, valid, reply]
      unfold createBody at committed ⊢
      split at committed
      · cases committed
      · obtain ⟨pair, inserted, _⟩ := except_map_ok committed
        simp only [insertVersion_stored inserted]
        exact storeBlob_stores _ _ _ _
  | write draw request =>
      cases stores
      obtain ⟨context, valid, done⟩ := checked_ok done
      obtain ⟨versionId, committed, _⟩ := reply_ok done
      simp only [Call.body, checked, valid, reply]
      unfold writeBody at committed ⊢
      split at committed
      · cases committed
      · simp only [insertVersion_stored committed]
        exact storeBlob_stores _ _ _ _
  | link draw request => cases stores
  | share draw request => cases stores
  | revoke now request => cases stores
  | restart draw => cases stores

theorem perform_files (settings : Settings) (call : Call F) (disk : Disk) :
    (perform settings call disk).1.files = (call.body settings disk).1 := by
  unfold perform
  rcases commit_cases disk (call.body settings disk) with ⟨_, _, _, same⟩ | ⟨_, _, same⟩
  · rw [same]
  · rw [same]

theorem StoreStep.kept {settings : Settings} {disk disk' : Disk} {occurrence : Occurrence F}
    (step : StoreStep settings disk occurrence disk') : BlobsKept disk.files disk'.files := by
  cases step with
  | call _ call =>
      rw [perform_files]
      rcases call.body_files settings disk with same | ⟨data, temporary, _, same⟩
      · rw [same]
        exact fun _ _ present => present
      · rw [same]
        exact fun _ _ present => storeBlob_keeps present
  | interrupted _ data files left => exact BlobsKept.interrupted left
  | memberships _ members => exact fun _ _ present => present

theorem BlobsNamed.step {settings : Settings} {disk disk' : Disk} {occurrence : Occurrence F}
    {given : List Bytes} (named : BlobsNamed settings.sha256 given disk.files)
    (step : StoreStep settings disk occurrence disk') :
    BlobsNamed settings.sha256 (given ++ occurrence.data.toList) disk'.files := by
  cases step with
  | call _ call =>
      rw [perform_files]
      rcases call.body_files settings disk with same | ⟨data, temporary, stores, same⟩
      · rw [same]
        exact named.mono
      · have given_data : (Occurrence.finished call (perform settings call disk).2).data =
            some data := stores
        rw [same, given_data]
        exact named.storeBlob data temporary
  | interrupted _ data files left => exact named.interrupted left
  | memberships _ members => exact named.mono

/-! ### Committed versions -/

/-- A version as its call gave it. -/
structure CommittedVersion (F : Type) where
  tenantId : String
  artifactId : String
  versionId : String
  parentVersionId : Option String
  data : Bytes
  mediaType : String
  actor : String
  reason : String
  sourceContext : List (PyStr × Json F)
  createdAt : Timestamp

def Occurrence.version (settings : Settings) : Occurrence F → Option (CommittedVersion F)
  | .finished (.create draw request) (.ok (.created artifactId versionId)) =>
      some {
        tenantId := request.tenantId
        artifactId := artifactId
        versionId := versionId
        parentVersionId := none
        data := request.data
        mediaType := resolveType settings request.mediaType request.name
        actor := request.actor
        reason := request.reason
        sourceContext := request.sourceContext
        createdAt := draw.version.createdAt }
  | .finished (.write draw request) (.ok (.written versionId)) =>
      some {
        tenantId := request.tenantId
        artifactId := request.artifactId
        versionId := versionId
        parentVersionId := request.parentVersionId
        data := request.data
        mediaType := request.mediaType
        actor := request.actor
        reason := request.reason
        sourceContext := request.sourceContext
        createdAt := draw.createdAt }
  | _ => none

/-- The row is the version's. -/
structure CommittedVersion.StoredAs (settings : Settings) (version : CommittedVersion F)
    (row : VersionRow) : Prop where
  id : row.id = version.versionId
  tenantId : row.tenantId = version.tenantId
  artifactId : row.artifactId = version.artifactId
  parentVersionId : row.parentVersionId = version.parentVersionId
  blobHash : row.blobHash = (settings.sha256 version.data).hex
  mediaType : row.mediaType = version.mediaType
  byteSize : row.byteSize = version.data.length
  actor : row.actor = version.actor
  reason : row.reason = version.reason
  sourceContext : loadText row.sourceContext =
    .ok (Json.obj version.sourceContext).sortKeys.reread
  createdAt : row.createdAt = version.createdAt.isoformat

/-- The version has its row and its file. -/
structure CommittedVersion.Held (settings : Settings) (disk : Disk)
    (version : CommittedVersion F) : Prop where
  row : ∃ row ∈ disk.db.versions, version.StoredAs settings row
  file : (disk.files (blobPath (settings.sha256 version.data).hex)).isSome = true

theorem Effect.versions_kept {settings : Settings} {db db' : Database} {call : Call F}
    {answer : Reply} (effect : Effect settings db call answer db') :
    ∀ row ∈ db.versions, row ∈ db'.versions := by
  intro row member
  cases effect with
  | created _ _ _ _ _ _ => exact List.mem_append_left _ member
  | written _ _ _ _ _ _ => exact List.mem_append_left _ member
  | linkedAgain _ => exact member
  | linked _ _ _ _ => exact member
  | sharedAgain _ _ _ => exact member
  | shared _ _ _ _ => exact member
  | revokedAgain _ _ _ => exact member
  | revoked _ _ _ _ => exact member
  | initialized same _ =>
      rw [same.versions]
      exact member

theorem Effect.version_stored {settings : Settings} {db db' : Database} {call : Call F}
    {answer : Reply} (effect : Effect settings db call answer db') {version : CommittedVersion F}
    (isVersion : (Occurrence.finished call (.ok answer)).version settings = some version) :
    call.data = some version.data ∧ ∃ row ∈ db'.versions, version.StoredAs settings row := by
  cases effect with
  | @created draw request context tenants valid _ _ _ _ _ =>
      obtain ⟨_, inputValid⟩ := CreateRequest.validate_ok valid
      obtain ⟨_, _, _, _, encoded⟩ := validateVersionInput_ok inputValid
      cases isVersion
      exact ⟨rfl, _, List.mem_append_right _ (List.mem_singleton_self _),
        ⟨rfl, rfl, rfl, rfl, rfl, rfl, rfl, rfl, rfl, loadText_json encoded, rfl⟩⟩
  | @written draw request context artifact valid _ _ _ _ _ =>
      obtain ⟨_, _, _, _, encoded⟩ := validateVersionInput_ok valid
      cases isVersion
      exact ⟨rfl, _, List.mem_append_right _ (List.mem_singleton_self _),
        ⟨rfl, rfl, rfl, rfl, rfl, rfl, rfl, rfl, rfl, loadText_json encoded, rfl⟩⟩
  | linkedAgain _ => cases isVersion
  | linked _ _ _ _ => cases isVersion
  | sharedAgain _ _ _ => cases isVersion
  | shared _ _ _ _ => cases isVersion
  | revokedAgain _ _ _ => cases isVersion
  | revoked _ _ _ _ => cases isVersion
  | initialized _ _ => cases isVersion

theorem CommittedVersion.Held.step {settings : Settings} {disk disk' : Disk}
    {occurrence : Occurrence F} {version : CommittedVersion F} (sound : StoreSound disk.db)
    (held : version.Held settings disk) (step : StoreStep settings disk occurrence disk') :
    version.Held settings disk' where
  row := by
    obtain ⟨row, member, stored⟩ := held.row
    refine ⟨row, ?_, stored⟩
    rcases storeStep_cases sound step with ⟨call, answer, _, effect⟩ | ⟨_, members, same⟩
    · exact effect.versions_kept row member
    · rw [same]
      exact member
  file := by
    obtain ⟨content, present⟩ := Option.isSome_iff_exists.mp held.file
    rw [step.kept _ content present]
    rfl

/-- The step that commits a version leaves it held. -/
theorem StoreStep.holds {settings : Settings} {disk disk' : Disk} {occurrence : Occurrence F}
    {version : CommittedVersion F} (sound : StoreSound disk.db)
    (step : StoreStep settings disk occurrence disk')
    (isVersion : occurrence.version settings = some version) : version.Held settings disk' := by
  rcases storeStep_cases sound step with ⟨call, answer, same, effect⟩ | ⟨notDone, _⟩
  · rw [same] at isVersion
    obtain ⟨stores, row⟩ := effect.version_stored isVersion
    refine ⟨row, ?_⟩
    cases step with
    | call _ performed =>
        obtain ⟨sameCall, sameResult⟩ := Occurrence.finished.inj same
        subst sameCall
        rw [perform_files]
        rcases commit_cases disk (performed.body settings disk) with
          ⟨db, value, done, _⟩ | ⟨e, _, failed⟩
        · exact Call.body_stored stores done
        · unfold perform at sameResult
          rw [failed] at sameResult
          cases sameResult
    | interrupted _ data files left => cases same
    | memberships _ members => cases same
  · unfold Occurrence.version at isVersion
    split at isVersion
    · exact absurd rfl (notDone _ _)
    · exact absurd rfl (notDone _ _)
    · cases isVersion

/-! ### Runs -/

def dataGiven (past : List (Disk × Occurrence F)) : List Bytes :=
  past.flatMap (fun moment => moment.2.data.toList)

def versionsCommitted (settings : Settings) (past : List (Disk × Occurrence F)) :
    List (CommittedVersion F) :=
  past.filterMap (fun moment => moment.2.version settings)

theorem StoreTrace.blobsNamed {settings : Settings} {draw : InitializeDraw}
    {past : List (Disk × Occurrence F)} {disk : Disk} (trace : StoreTrace settings draw past disk) :
    BlobsNamed settings.sha256 (dataGiven past) disk.files := by
  induction trace with
  | start =>
      intro digest content present
      cases present
  | next _ step ih =>
      unfold dataGiven
      rw [List.flatMap_append, List.flatMap_singleton]
      exact ih.step step

theorem StoreTrace.held {settings : Settings} {draw : InitializeDraw}
    {past : List (Disk × Occurrence F)} {disk : Disk} (trace : StoreTrace settings draw past disk) :
    ∀ version ∈ versionsCommitted settings past, version.Held settings disk := by
  induction trace with
  | start =>
      intro version member
      cases member
  | next earlier step ih =>
      have sound := StoreTrace.sound earlier
      intro version member
      unfold versionsCommitted at member
      rw [List.filterMap_append] at member
      rcases List.mem_append.mp member with old | new
      · exact (ih version old).step sound step
      · obtain ⟨moment, isLast, isVersion⟩ := List.mem_filterMap.mp new
        rw [List.mem_singleton.mp isLast] at isVersion
        exact step.holds sound isVersion

/-- No two of these byte strings share a digest. -/
def CollisionFree (hash : Bytes → Digest) (data : List Bytes) : Prop :=
  ∀ a ∈ data, ∀ b ∈ data, hash a = hash b → a = b

instance (hash : Bytes → Digest) (data : List Bytes) : Decidable (CollisionFree hash data) :=
  inferInstanceAs (Decidable (∀ a ∈ data, ∀ b ∈ data, hash a = hash b → a = b))

omit [FloatFormat F] in
theorem data_given {settings : Settings} {past : List (Disk × Occurrence F)}
    {version : CommittedVersion F} (committed : version ∈ versionsCommitted settings past) :
    version.data ∈ dataGiven past := by
  obtain ⟨moment, member, isVersion⟩ := List.mem_filterMap.mp committed
  apply List.mem_flatMap.mpr
  refine ⟨moment, member, ?_⟩
  unfold Occurrence.version at isVersion
  split at isVersion
  · cases isVersion
    rename_i same
    rw [same]
    exact List.mem_singleton_self _
  · cases isVersion
    rename_i same
    rw [same]
    exact List.mem_singleton_self _
  · cases isVersion

/-- A file that holds a committed version holds its bytes. -/
theorem StoreTrace.bytes {settings : Settings} {draw : InitializeDraw}
    {past : List (Disk × Occurrence F)} {disk : Disk} (trace : StoreTrace settings draw past disk)
    (free : CollisionFree settings.sha256 (dataGiven past)) {version : CommittedVersion F}
    (committed : version ∈ versionsCommitted settings past) :
    disk.files (blobPath (settings.sha256 version.data).hex) = some version.data := by
  obtain ⟨content, present⟩ := Option.isSome_iff_exists.mp (StoreTrace.held trace version committed).file
  obtain ⟨given, sameDigest⟩ := StoreTrace.blobsNamed trace _ content present
  rw [present, free content given version.data (data_given committed) sameDigest]

/-! ### Reading back -/

/-- A state that some continuation of the run comes to. -/
def LaterState (settings : Settings) (past : List (Disk × Occurrence F)) (disk later : Disk) :
    Prop :=
  ∃ more, Trace (StoreStep settings) disk more later ∧
    CollisionFree settings.sha256 (dataGiven (past ++ more))

/-- What a read shows of the version: its context with sorted keys, as the parser
reads it. -/
def CommittedVersion.view (settings : Settings) (version : CommittedVersion F) : VersionView F where
  id := version.versionId
  artifactId := version.artifactId
  parentVersionId := version.parentVersionId
  blobHash := (settings.sha256 version.data).hex
  mediaType := version.mediaType
  byteSize := version.data.length
  actor := version.actor
  reason := version.reason
  sourceContext := (Json.obj version.sourceContext).sortKeys.reread
  createdAt := version.createdAt.isoformat

theorem CommittedVersion.StoredAs.viewed {settings : Settings} {version : CommittedVersion F}
    {row : VersionRow} (stored : version.StoredAs settings row) :
    row.view = .ok (version.view settings) := by
  simp only [VersionRow.view, stored.sourceContext, bind, Except.bind, stored.id,
    stored.artifactId, stored.parentVersionId, stored.blobHash, stored.mediaType, stored.byteSize,
    stored.actor, stored.reason, stored.createdAt]
  rfl

theorem CommittedVersion.StoredAs.metadata {settings : Settings} {db : Database}
    (sound : StoreSound db) {version : CommittedVersion F} {row : VersionRow}
    (member : row ∈ db.versions) (stored : version.StoredAs settings row) {actor : Option String}
    (authorized : authorize db version.tenantId version.artifactId actor .read = .ok ()) :
    versionMetadata db version.tenantId (some version.versionId) actor .read
      (some version.artifactId) = .ok (version.view settings) := by
  have found : db.findVersion version.tenantId (some version.versionId)
      (some version.artifactId) = some row := by
    apply sound.versions.versionIds.find? member
    · simp [stored.id, stored.tenantId, stored.artifactId]
    · intro other holds
      simp only [Option.some.injEq, Bool.and_eq_true, decide_eq_true_eq] at holds
      rw [stored.id, holds.1.1]
  unfold versionMetadata
  rw [found]
  simp only [stored.artifactId, authorized, renameNotFound, bind, Except.bind, stored.viewed]

theorem LaterState.readable {settings : Settings} {draw : InitializeDraw}
    {past : List (Disk × Occurrence F)} {disk d : Disk} (trace : StoreTrace settings draw past disk)
    {version : CommittedVersion F} (committed : version ∈ versionsCommitted settings past)
    (later : LaterState settings past disk d) {actor : Option String}
    (authorized : authorize d.db version.tenantId version.artifactId actor .read = .ok ()) :
    versionMetadata d.db version.tenantId (some version.versionId) actor .read
        (some version.artifactId) = .ok (version.view settings) ∧
      d.files (blobPath (settings.sha256 version.data).hex) = some version.data := by
  obtain ⟨more, continued, free⟩ := later
  have whole : StoreTrace settings draw (past ++ more) d := trace.append continued
  have still : version ∈ versionsCommitted settings (past ++ more) := by
    unfold versionsCommitted
    rw [List.filterMap_append]
    exact List.mem_append_left _ committed
  obtain ⟨row, inside, stored⟩ := (StoreTrace.held whole version still).row
  exact ⟨stored.metadata (StoreTrace.sound whole) inside authorized,
    StoreTrace.bytes whole free still⟩

/-- What is committed is read back as it was given, in every later state in which
the actor may read the artifact. -/
theorem committed_versions_read_back {settings : Settings} {draw : InitializeDraw}
    {past : List (Disk × Occurrence F)} {disk : Disk} (trace : StoreTrace settings draw past disk)
    {version : CommittedVersion F} (committed : version ∈ versionsCommitted settings past)
    (snapshots : ReadSnapshots) (actor : Option String)
    (later : ∀ d ∈ [snapshots.artifact, snapshots.version, snapshots.bytes, snapshots.chunks],
      LaterState settings past disk d ∧
        authorize d.db version.tenantId version.artifactId actor .read = .ok ()) :
    ∃ content : ArtifactContent F,
      readArtifact snapshots version.tenantId version.artifactId (some version.versionId) actor =
        .ok content ∧
      b64decode content.contentBase64.toList = some version.data ∧
      content.version = version.view settings ∧
      content.text = textFor version.data version.mediaType := by
  have readable : ∀ d ∈ [snapshots.artifact, snapshots.version, snapshots.bytes,
      snapshots.chunks], versionMetadata d.db version.tenantId (some version.versionId) actor .read
        (some version.artifactId) = .ok (version.view settings) ∧
      d.files (blobPath (settings.sha256 version.data).hex) = some version.data :=
    fun d member => (later d member).1.readable trace committed (later d member).2
  obtain ⟨view, shown, _⟩ := getArtifact_of_authorized (later snapshots.artifact (by simp)).2
  have described := (readable snapshots.version (by simp)).1
  obtain ⟨describedBytes, bytes⟩ := readable snapshots.bytes (by simp)
  have chunksAuthorized := (later snapshots.chunks (by simp)).2
  have read : versionBytes F snapshots.bytes version.tenantId (some version.versionId) actor
      (some version.artifactId) = .ok version.data := by
    have hash : (version.view settings).blobHash = (settings.sha256 version.data).hex := rfl
    unfold versionBytes
    simp only [describedBytes, bind, Except.bind, hash, bytes]
  unfold readArtifact chunkDescriptors
  simp only [shown, described, read, chunksAuthorized, bind, Except.bind, HOrElse.hOrElse,
    OrElse.orElse, Option.orElse]
  refine ⟨_, rfl, ?_, rfl, rfl⟩
  rw [String.toList_ofList]
  exact b64decode_b64encode version.data

end Calls

def readBackCreate : CreateRequest Empty where
  tenantId := "t"
  name := "n"
  data := [104, 105]
  actor := "ann"

def readBackWrite : WriteRequest Empty where
  tenantId := "t"
  artifactId := newId "art" Uuid.nil
  data := [104, 111]
  mediaType := "text/plain"
  actor := "ann"
  reason := "edit"
  sourceContext := []
  parentVersionId := some (newId "ver" Uuid.nil)

def readBackCalls : List (Call Empty) :=
  [.create (CreateDraw.epoch Uuid.nil) readBackCreate,
    .write (VersionDraw.epoch Uuid.one) readBackWrite]

/-- The first version, after a second one was written. -/
theorem committed_versions_read_back_first :
    ∃ content : ArtifactContent Empty,
      readArtifact (ReadSnapshots.of (performAll Settings.standard readBackCalls
        (freshDisk Settings.standard InitializeDraw.epoch))) "t" (newId "art" Uuid.nil)
        (some (newId "ver" Uuid.nil)) (some "ann") = .ok content ∧
      b64decode content.contentBase64.toList = some [104, 105] := by
  have trace := performAll_trace (.start : StoreTrace Settings.standard InitializeDraw.epoch [] _)
    readBackCalls
  have committed : (⟨"t", newId "art" Uuid.nil, newId "ver" Uuid.nil, none, [104, 105],
      "application/octet-stream", "ann", "initial artifact", [], Timestamp.epoch⟩ :
        CommittedVersion Empty) ∈ versionsCommitted Settings.standard
      ([] ++ moments Settings.standard readBackCalls
        (freshDisk Settings.standard InitializeDraw.epoch)) :=
    List.mem_filterMap.mpr ⟨_, List.mem_cons_self, rfl⟩
  obtain ⟨content, read, decoded, _⟩ := committed_versions_read_back trace committed
    (ReadSnapshots.of _) (some "ann") (by
      intro d member
      have same : d = performAll Settings.standard readBackCalls
          (freshDisk Settings.standard InitializeDraw.epoch) := by
        simpa [ReadSnapshots.of] using member
      rw [same]
      exact ⟨⟨[], .start, by decide⟩, by decide⟩)
  exact ⟨content, read, decoded⟩

end FolioLattice.Store
