/-
The calls that read artifacts, versions and chunks.
-/

import FolioLattice.Data.Base64
import FolioLattice.Store.Artifacts
import Mathlib.Data.Prod.Lex
import Mathlib.Data.String.Basic

namespace FolioLattice.Store

open FolioLattice.Text FolioLattice.Data FolioLattice.Relational

/-! ### Artifacts -/

/-- An artifact as `get_artifact` shows it, without its owner. -/
structure ArtifactView where
  id : String
  tenantId : String
  name : String
  mediaType : String
  currentVersionId : Option String
  createdAt : String
  deriving DecidableEq

def ArtifactRow.view (row : ArtifactRow) : ArtifactView where
  id := row.id
  tenantId := row.tenantId
  name := row.name
  mediaType := row.mediaType
  currentVersionId := row.currentVersionId
  createdAt := row.createdAt

def getArtifact (db : Database) (tenantId artifactId : String) (actor : Option String)
    (action : Action := .read) : Except Failure ArtifactView :=
  match db.findArtifact tenantId artifactId with
  | none => .error notFound
  | some artifact => do
      authorize db tenantId artifactId actor action
      .ok artifact.view

/-! ### The artifact list -/

def maxArtifactListCursorLength : Nat := 512

def clampLimit (limit : Int) (maximum : Nat) : Nat := (max 1 (min limit maximum)).toNat

theorem clampLimit_pos (limit : Int) (maximum : Nat) : 0 < clampLimit limit maximum := by
  unfold clampLimit
  omega

def invalidCursor : Failure := .folio "invalid artifact_list cursor"

/-- `_parse_artifact_list_cursor`: a timestamp with an offset, a bar and an id. -/
def parseArtifactListCursor (cursor : String) : Except Failure (String × String) :=
  let timestamp := cursor.toList.takeWhile (· ≠ '|')
  let artifactId := (cursor.toList.dropWhile (· ≠ '|')).drop 1
  if maxArtifactListCursorLength < cursor.length then .error invalidCursor
  else if timestamp = [] ∨ artifactId = [] ∨ '|' ∈ artifactId then .error invalidCursor
  else
    match fromisoformat timestamp with
    | none => .error invalidCursor
    | some parsed =>
        if parsed.offset = none then .error invalidCursor
        else if strip artifactId = [] ∨ maxNameLength < artifactId.length then
          .error invalidCursor
        else .ok (String.ofList timestamp, String.ofList artifactId)

/-- A cursor made of a clock reading and an id is read back as the two. -/
theorem parse_cursor (t : Timestamp) {id : String} (noBar : '|' ∉ id.toList)
    (letter : ∃ c ∈ id.toList, isSpace c = false) (short : id.length ≤ maxNameLength) :
    parseArtifactListCursor (t.isoformat ++ "|" ++ id) = .ok (t.isoformat, id) := by
  have text : (t.isoformat ++ "|" ++ id).toList = t.isoChars ++ '|' :: id.toList := by
    rw [String.toList_append, String.toList_append, List.append_assoc]
    unfold Timestamp.isoformat
    rw [String.toList_ofList]
    rfl
  have all : ∀ c ∈ t.isoChars, decide (c ≠ '|') = true := by
    intro c member
    exact decide_eq_true (t.isoChars_no_bar c member)
  have before : (t.isoChars ++ '|' :: id.toList).takeWhile (· ≠ '|') = t.isoChars := by
    rw [List.takeWhile_append_of_pos all, List.takeWhile_cons_of_neg (by decide), List.append_nil]
  have after : ((t.isoChars ++ '|' :: id.toList).dropWhile (· ≠ '|')).drop 1 = id.toList := by
    rw [List.dropWhile_append_of_pos all, List.dropWhile_cons_of_neg (by decide)]
    rfl
  have length : (t.isoformat ++ "|" ++ id).length = id.length + 30 := by
    rw [← String.length_toList, text, List.length_append, List.length_cons, String.length_toList,
      t.isoChars_length]
    omega
  have fits : ¬maxArtifactListCursorLength < id.length + 30 := by
    unfold maxArtifactListCursorLength
    unfold maxNameLength at short
    omega
  have notBlank : strip id.toList ≠ [] := by
    intro blank
    obtain ⟨c, member, visible⟩ := letter
    rw [(strip_eq_nil_iff _).mp blank c member] at visible
    cases visible
  have notEmpty : ¬(t.isoChars = [] ∨ id.toList = [] ∨ '|' ∈ id.toList) := by
    rintro (noTime | noId | bar)
    · have size := t.isoChars_length
      rw [noTime] at size
      cases size
    · rw [noId] at notBlank
      exact notBlank rfl
    · exact noBar bar
  have passes : ¬(strip id.toList = [] ∨ maxNameLength < id.toList.length) := by
    rw [String.length_toList]
    rintro (blank | long)
    · exact notBlank blank
    · exact absurd short (Nat.not_le_of_lt long)
  unfold parseArtifactListCursor
  rw [text, before, after, length, if_neg fits, if_neg notEmpty, t.fromisoformat_isoChars]
  simp only [if_neg passes, reduceCtorEq, if_false, String.ofList_toList]
  rfl

theorem parse_newId_cursor (t : Timestamp) {kind : String} (noBar : '|' ∉ kind.toList)
    (short : kind.length + 33 ≤ maxNameLength) (uuid : Uuid) :
    parseArtifactListCursor (t.isoformat ++ "|" ++ newId kind uuid) =
      .ok (t.isoformat, newId kind uuid) := by
  apply parse_cursor t (newId_no_bar noBar uuid)
  · refine ⟨'_', ?_, by decide⟩
    unfold newId
    rw [String.toList_append, String.toList_append]
    exact List.mem_append_left _ (List.mem_append_right _ (by decide))
  · rw [newId_length]
    exact short

structure ArtifactListItem where
  id : String
  name : String
  mediaType : String
  createdAt : String
  currentVersionId : Option String
  updatedAt : Option String
  hasReadableNeighbors : Bool
  deriving DecidableEq

/-- `LEFT JOIN versions v ON v.id = a.current_version_id AND v.tenant_id = a.tenant_id` -/
def Database.currentVersion (db : Database) (artifact : ArtifactRow) : Option VersionRow :=
  db.versions.find? (fun v => some v.id = artifact.currentVersionId && v.tenantId = artifact.tenantId)

def Database.updatedAt (db : Database) (artifact : ArtifactRow) : String :=
  ((db.currentVersion artifact).map (·.createdAt)).getD artifact.createdAt

/-- The artifact at the other end of an edge of `artifactId`. -/
def EdgeRow.neighbor (edge : EdgeRow) (artifactId : String) : String :=
  if edge.sourceArtifactId = artifactId then edge.targetArtifactId else edge.sourceArtifactId

def EdgeRow.touches (edge : EdgeRow) (artifactId : String) : Bool :=
  edge.sourceArtifactId = artifactId || edge.targetArtifactId = artifactId

def Database.hasReadableNeighbors (db : Database) (access : ArtifactRow → Bool)
    (artifact : ArtifactRow) : Bool :=
  db.edges.any (fun e =>
    e.tenantId = artifact.tenantId && e.touches artifact.id &&
      db.artifacts.any (fun n =>
        n.tenantId = e.tenantId && n.id = e.neighbor artifact.id && access n))

/-- The newest first: `ORDER BY COALESCE(v.created_at, a.created_at) DESC, a.id DESC`. -/
def Database.listKey (db : Database) (artifact : ArtifactRow) : (String ×ₗ String)ᵒᵈ :=
  OrderDual.toDual (toLex (db.updatedAt artifact, artifact.id))

def afterCursor (cursor : Option (String × String)) (updatedAt id : String) : Bool :=
  match cursor with
  | none => true
  | some (timestamp, artifactId) =>
      updatedAt < timestamp || (updatedAt = timestamp && id < artifactId)

structure ListFilter where
  name : Option String := none
  mediaType : Option String := none
  cursor : Option String := none

def optionally (check : String → Except Failure Unit) (value : Option String) :
    Except Failure Unit :=
  match value with
  | none => .ok ()
  | some value => check value

def ListFilter.matches (filter : ListFilter) (artifact : ArtifactRow) : Bool :=
  filter.name.all (· = artifact.name) && filter.mediaType.all (· = artifact.mediaType)

def ArtifactRow.listItem (db : Database) (access : ArtifactRow → Bool) (artifact : ArtifactRow) :
    ArtifactListItem where
  id := artifact.id
  name := artifact.name
  mediaType := artifact.mediaType
  createdAt := artifact.createdAt
  currentVersionId := artifact.currentVersionId
  updatedAt := (db.currentVersion artifact).map (·.createdAt)
  hasReadableNeighbors := db.hasReadableNeighbors access artifact

/-- The rows of the list, before they are ordered and cut. -/
def Database.listed (db : Database) (tenantId : String) (access : ArtifactRow → Bool)
    (cursor : Option (String × String)) (filter : ListFilter) : List ArtifactRow :=
  db.artifacts.filter (fun a =>
    a.tenantId = tenantId && access a && afterCursor cursor (db.updatedAt a) a.id &&
      filter.matches a)

def listArtifacts (db : Database) (tenantId : String) (limit : Int) (actor : Option String)
    (filter : ListFilter) : Except Failure (List ArtifactListItem) := do
  optionally (fun name => validateText "name" name maxNameLength) filter.name
  optionally (fun type => validateText "media_type" type maxMediaTypeLength) filter.mediaType
  let cursor ← match filter.cursor with
    | none => Except.ok none
    | some cursor => (parseArtifactListCursor cursor).map some
  let access ← accessClause db actor .read
  .ok (((orderBy db.listKey (db.listed tenantId access cursor filter)).take
    (clampLimit limit 100)).map (fun a => a.listItem db access))

/-! ### Versions -/

structure VersionView (F : Type) where
  id : String
  artifactId : String
  parentVersionId : Option String
  blobHash : String
  mediaType : String
  byteSize : Nat
  actor : String
  reason : String
  sourceContext : Json F
  createdAt : String

section Versions

variable {F : Type} [FloatFormat F]

def VersionRow.view (row : VersionRow) : Except Failure (VersionView F) := do
  let sourceContext ← loadText row.sourceContext
  .ok {
    id := row.id
    artifactId := row.artifactId
    parentVersionId := row.parentVersionId
    blobHash := row.blobHash
    mediaType := row.mediaType
    byteSize := row.byteSize
    actor := row.actor
    reason := row.reason
    sourceContext := sourceContext
    createdAt := row.createdAt }

/-- A refused artifact is reported as a missing `what`. -/
def renameNotFound (what : String) (result : Except Failure Unit) : Except Failure Unit :=
  match result with
  | .error e => .error (if e = notFound then .folio (what ++ " not found") else e)
  | .ok () => .ok ()

def Database.findVersion (db : Database) (tenantId : String) (versionId artifactId : Option String) :
    Option VersionRow :=
  db.versions.find? (fun v =>
    some v.id = versionId && v.tenantId = tenantId && artifactId.all (· = v.artifactId))

/-- A version id of `None` matches no row. -/
def versionMetadata (db : Database) (tenantId : String) (versionId : Option String)
    (actor : Option String) (action : Action := .read) (artifactId : Option String := none) :
    Except Failure (VersionView F) :=
  match db.findVersion tenantId versionId artifactId with
  | none => .error (.folio "version not found")
  | some row => do
      renameNotFound "version" (authorize db tenantId row.artifactId actor action)
      row.view

/-- `_version_bytes`; the metadata is read first, then the file. -/
def versionBytes (F : Type) [FloatFormat F] (disk : Disk) (tenantId : String)
    (versionId : Option String) (actor : Option String) (artifactId : Option String) :
    Except Failure Bytes := do
  let metadata : VersionView F ← versionMetadata disk.db tenantId versionId actor .read artifactId
  match disk.files (blobPath metadata.blobHash) with
  | none => .error (.folio "version blob missing")
  | some data => .ok data

def versions (db : Database) (tenantId artifactId : String) (limit : Int) (actor : Option String) :
    Except Failure (List (VersionView F)) := do
  let _ ← getArtifact db tenantId artifactId actor
  let rows := db.versions.filter (fun v => v.tenantId = tenantId && v.artifactId = artifactId)
  ((orderBy (fun v => toLex (v.createdAt, v.id)) rows).take (clampLimit limit 500)).mapM
    VersionRow.view

end Versions

/-! ### Chunks -/

/-- A chunk's place; its offsets count code points. -/
structure ChunkDescriptor where
  id : String
  artifactId : String
  versionId : String
  ordinal : Nat
  startOffset : Nat
  endOffset : Nat
  deriving DecidableEq

def ChunkRow.descriptor (row : ChunkRow) : ChunkDescriptor where
  id := row.id
  artifactId := row.artifactId
  versionId := row.versionId
  ordinal := row.ordinal
  startOffset := row.startOffset
  endOffset := row.endOffset

def chunkDescriptors (db : Database) (tenantId artifactId : String) (versionId : Option String)
    (actor : Option String) : Except Failure (List ChunkDescriptor) := do
  authorize db tenantId artifactId actor .read
  let rows := db.chunks.filter (fun c =>
    c.tenantId = tenantId && c.artifactId = artifactId && some c.versionId = versionId)
  .ok ((orderBy ChunkRow.ordinal rows).map ChunkRow.descriptor)

structure ChunkView where
  place : ChunkDescriptor
  content : String
  deriving DecidableEq

def readChunk (db : Database) (tenantId chunkId : String) (actor : Option String) :
    Except Failure ChunkView :=
  match db.chunks.find? (fun c => c.id = chunkId && c.tenantId = tenantId) with
  | none => .error (.folio "chunk not found")
  | some row => do
      renameNotFound "chunk" (authorize db tenantId row.artifactId actor .read)
      .ok ⟨row.descriptor, row.content⟩

/-! ### A whole artifact -/

structure ArtifactContent (F : Type) where
  artifact : ArtifactView
  version : VersionView F
  chunks : List ChunkDescriptor
  contentBase64 : String
  text : Option (List Char)

/-- `read_artifact` opens a connection for each of its four parts, so each may
find another state. -/
structure ReadSnapshots where
  artifact : Disk
  version : Disk
  bytes : Disk
  chunks : Disk

def ReadSnapshots.of (disk : Disk) : ReadSnapshots := ⟨disk, disk, disk, disk⟩

def readArtifact {F : Type} [FloatFormat F] (at' : ReadSnapshots) (tenantId artifactId : String)
    (versionId : Option String) (actor : Option String) : Except Failure (ArtifactContent F) := do
  let artifact ← getArtifact at'.artifact.db tenantId artifactId actor
  let versionId := versionId <|> artifact.currentVersionId
  let metadata : VersionView F ←
    versionMetadata at'.version.db tenantId versionId actor .read (some artifactId)
  let data ← versionBytes F at'.bytes tenantId versionId actor (some artifactId)
  let chunks ← chunkDescriptors at'.chunks.db tenantId artifactId versionId actor
  .ok {
    artifact := artifact
    version := metadata
    chunks := chunks
    contentBase64 := String.ofList (b64encode data)
    text := textFor data metadata.mediaType }

/-! ### Literal search -/

structure GrepMatch where
  chunk : ChunkRow
  artifactName : String
  matched : String
  matchOffset : Nat
  deriving DecidableEq

/-- The chunks of current versions with their artifacts' names. -/
def Database.currentChunks (db : Database) (tenantId : String) (access : ArtifactRow → Bool) :
    List (ChunkRow × String) :=
  (db.chunks.filter (fun c => c.tenantId = tenantId)).filterMap (fun c =>
    (db.artifacts.find? (fun a =>
        a.id = c.artifactId && a.tenantId = c.tenantId && a.currentVersionId = some c.versionId &&
          access a)).map
      (fun a => (c, a.name)))

def grepKey (row : ChunkRow × String) : String ×ₗ String ×ₗ Nat :=
  toLex (row.1.artifactId, toLex (row.1.versionId, row.1.ordinal))

def grep (db : Database) (tenantId pattern : String) (limit : Int) (actor : Option String) :
    Except Failure (List GrepMatch) :=
  if pattern.isEmpty then .ok []
  else if maxQueryLength < pattern.length then
    .error (.folio ("pattern exceeds " ++ toString maxQueryLength ++ " characters"))
  else do
    let access ← accessClause db actor .read
    let rows := orderBy grepKey (db.currentChunks tenantId access)
    .ok ((rows.filterMap (fun row =>
      (find row.1.content.toList pattern.toList).map
        (fun offset => ⟨row.1, row.2, pattern, offset⟩))).take (clampLimit limit 500))

end FolioLattice.Store
