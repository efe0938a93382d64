/-
Authorization, and the two calls that write versions.
-/

import FolioLattice.Store.Validate

namespace FolioLattice.Store

open FolioLattice.Text FolioLattice.Data FolioLattice.Relational

/-! ### Authorization -/

def aclSubjectType : SubjectType := .actor

def GrantRow.isActiveFor (grant : GrantRow) (tenantId artifactId actor : String)
    (action : Action) : Bool :=
  grant.tenantId = tenantId && grant.artifactId = artifactId &&
    grant.subjectType = aclSubjectType && grant.subjectId = actor && grant.action = action &&
    grant.status = .active

def Database.findArtifact (db : Database) (tenantId artifactId : String) : Option ArtifactRow :=
  db.artifacts.find? (fun a => a.id = artifactId && a.tenantId = tenantId)

def notFound : Failure := .folio "artifact not found"

/-- The actor may act on the row: it owns the artifact or holds an active grant. -/
def Database.permits (db : Database) (artifact : ArtifactRow) (actor : String)
    (action : Action) : Bool :=
  artifact.ownerActorId = some actor ||
    db.aclGrants.any (fun g => g.isActiveFor artifact.tenantId artifact.id actor action)

def authorize (db : Database) (tenantId artifactId : String) (actor : Option String)
    (action : Action) : Except Failure Unit :=
  match db.findArtifact tenantId artifactId with
  | none => .error notFound
  | some artifact =>
      match actor with
      | none => .ok ()
      | some actor => do
          validateText "actor" actor maxNameLength
          if artifact.ownerActorId = some actor then .ok ()
          else if db.aclGrants.any (fun g => g.isActiveFor tenantId artifactId actor action) then
            .ok ()
          else .error notFound

/-- The rows that the SQL condition of `_access_clause` keeps. -/
def accessClause (db : Database) (actor : Option String) (action : Action) :
    Except Failure (ArtifactRow → Bool) :=
  match actor with
  | none => .ok (fun _ => true)
  | some actor => do
      validateText "actor" actor maxNameLength
      .ok (fun artifact => db.permits artifact actor action)

/-! ### Blobs -/

def blobPath (blobHash : String) : List String :=
  [String.ofList (blobHash.toList.take 2), blobHash]

def temporaryPath (blobHash : String) (temporary : Uuid) : List String :=
  [String.ofList (blobHash.toList.take 2), "." ++ blobHash ++ "." ++ temporary.hex ++ ".tmp"]

def putFile (files : Files) (path : List String) (content : Option Bytes) : Files :=
  fun other => if other = path then content else files other

/-- `_store_blob`: a file that exists is not written again. -/
def storeBlob (files : Files) (data : Bytes) (blobHash : String) (temporary : Uuid) : Files :=
  if (files (blobPath blobHash)).isSome then files
  else
    let written := putFile files (temporaryPath blobHash temporary) (some data)
    putFile (putFile written (blobPath blobHash) (some data)) (temporaryPath blobHash temporary) none

/-- The files a call can leave that ends between the start of `_store_blob` and
its commit. -/
inductive BlobInterrupted (files : Files) (data : Bytes) (blobHash : String) : Files → Prop where
  | untouched : BlobInterrupted files data blobHash files
  | temporary (uuid : Uuid) (written : Bytes) (missing : files (blobPath blobHash) = none) :
      BlobInterrupted files data blobHash
        (putFile files (temporaryPath blobHash uuid) (some written))
  | stored (uuid : Uuid) : BlobInterrupted files data blobHash (storeBlob files data blobHash uuid)

/-! ### Versions -/

/-- What one version draws: its id, the time, the temporary file's name and an id
for each chunk. -/
structure VersionDraw where
  versionId : Uuid
  createdAt : Timestamp
  temporary : Uuid
  chunkId : Nat → Uuid

/-- A draw at the epoch. -/
def VersionDraw.epoch (uuid : Uuid) : VersionDraw :=
  ⟨uuid, Timestamp.epoch, uuid, fun _ => uuid⟩

structure VersionInput where
  tenantId : String
  artifactId : String
  data : Bytes
  mediaType : String
  actor : String
  reason : String
  sourceContextJson : String
  parentVersionId : Option String

def VersionInput.row (input : VersionInput) (settings : Settings) (draw : VersionDraw) :
    VersionRow where
  id := newId "ver" draw.versionId
  tenantId := input.tenantId
  artifactId := input.artifactId
  parentVersionId := input.parentVersionId
  blobHash := (settings.sha256 input.data).hex
  mediaType := input.mediaType
  byteSize := input.data.length
  actor := input.actor
  reason := input.reason
  sourceContext := input.sourceContextJson
  createdAt := draw.createdAt.isoformat

def VersionInput.chunkRow (input : VersionInput) (draw : VersionDraw) (chunk : Chunk) :
    ChunkRow where
  id := newId "chk" (draw.chunkId chunk.ordinal)
  tenantId := input.tenantId
  artifactId := input.artifactId
  versionId := newId "ver" draw.versionId
  ordinal := chunk.ordinal
  startOffset := chunk.start
  endOffset := chunk.finish
  content := chunk.content

def ChunkRow.fts (chunk : ChunkRow) : FtsRow where
  chunkId := chunk.id
  tenantId := chunk.tenantId
  artifactId := chunk.artifactId
  versionId := chunk.versionId
  content := chunk.content

def VersionInput.chunkRows (input : VersionInput) (draw : VersionDraw) : List ChunkRow :=
  match textFor input.data input.mediaType with
  | none => []
  | some text => (chunks text).map (input.chunkRow draw)

/-- `PRIMARY KEY` and `UNIQUE(version_id, ordinal)`. -/
def ChunkRow.clashes (new old : ChunkRow) : Bool :=
  new.id = old.id || (new.versionId = old.versionId && new.ordinal = old.ordinal)

/-- The chunk loop: a row in `chunks` and one in either full-text table. -/
def insertChunks : List ChunkRow → Database → Except Failure Database
  | [], db => .ok db
  | chunk :: rest, db => do
      let chunks ← insertUnique ChunkRow.clashes chunk db.chunks
      insertChunks rest
        { db with
          chunks := chunks
          chunkFts := db.chunkFts ++ [chunk.fts]
          chunkSubstringFts := db.chunkSubstringFts ++ [chunk.fts] }

/-- `UPDATE artifacts SET current_version_id = ?, media_type = ?` -/
def Database.pointTo (db : Database) (tenantId artifactId versionId mediaType : String) :
    Database :=
  { db with
    artifacts := updateWhere (fun a => a.id = artifactId && a.tenantId = tenantId)
      (fun a => { a with currentVersionId := some versionId, mediaType := mediaType })
      db.artifacts }

def parentMismatch (expected : Option String) : Failure :=
  .folio ("parent version mismatch; expected " ++ expected.getD "None")

/-- The rows of a version, once its blob is stored. -/
def insertVersionRows (settings : Settings) (draw : VersionDraw) (input : VersionInput)
    (db : Database) : Except Failure Database := do
  let versions ← insertUnique (fun new old => new.id = old.id) (input.row settings draw) db.versions
  let db ← insertChunks (input.chunkRows draw) { db with versions := versions }
  .ok (db.pointTo input.tenantId input.artifactId (newId "ver" draw.versionId) input.mediaType)

def insertVersion (settings : Settings) (draw : VersionDraw) (input : VersionInput)
    (db : Database) (files : Files) : Files × Except Failure (Database × String) :=
  match db.findArtifact input.tenantId input.artifactId with
  | none => (files, .error notFound)
  | some artifact =>
      if input.parentVersionId ≠ artifact.currentVersionId then
        (files, .error (parentMismatch artifact.currentVersionId))
      else
        (storeBlob files input.data (settings.sha256 input.data).hex draw.temporary,
          (insertVersionRows settings draw input db).map
            (fun db => (db, newId "ver" draw.versionId)))

/-! ### Creating an artifact -/

structure CreateDraw where
  artifactId : Uuid
  tenantAt : Timestamp
  artifactAt : Timestamp
  grantAt : Action → Timestamp
  version : VersionDraw

def CreateDraw.epoch (uuid : Uuid) : CreateDraw :=
  ⟨uuid, Timestamp.epoch, Timestamp.epoch, fun _ => Timestamp.epoch, VersionDraw.epoch uuid⟩

structure CreateRequest (F : Type) where
  tenantId : String
  name : String
  data : Bytes
  mediaType : Option String := none
  actor : String := "dev"
  reason : String := "initial artifact"
  /-- `None` and `{}` are one: the code takes `source_context or {}`. -/
  sourceContext : List (PyStr × Json F) := []

/-- `media_type or mimetypes.guess_type(name)[0] or "application/octet-stream"` -/
def resolveType (settings : Settings) (mediaType : Option String) (name : String) : String :=
  match mediaType.filter (fun t => !t.isEmpty) with
  | some given => given
  | none =>
      match (settings.guessType name).filter (fun t => !t.isEmpty) with
      | some guessed => guessed
      | none => "application/octet-stream"

def ensureTenant (db : Database) (tenantId : String) (now : Timestamp) :
    Except Failure Database := do
  validateText "tenant_id" tenantId maxNameLength
  if db.tenants.any (fun t => t.id = tenantId) then .ok db
  else .ok { db with tenants := db.tenants ++ [⟨tenantId, now.isoformat⟩] }

def ownerGrantId (artifactId : String) (action : Action) : String :=
  "owner_" ++ artifactId ++ "_" ++ action.name

def ownerGrant (tenantId artifactId owner : String) (action : Action) (now : Timestamp) :
    GrantRow where
  id := ownerGrantId artifactId action
  tenantId := tenantId
  artifactId := artifactId
  subjectType := aclSubjectType
  subjectId := owner
  action := action
  status := .active
  createdBy := owner
  createdAt := now.isoformat
  reason := ownerGrantReason
  revokedBy := none
  revokedAt := none
  revocationReason := none

/-- `PRIMARY KEY` and the unique index over active grants. -/
def GrantRow.clashes (new old : GrantRow) : Bool :=
  new.id = old.id ||
    (new.status = .active && old.status = .active && new.tenantId = old.tenantId &&
      new.artifactId = old.artifactId && new.subjectType = old.subjectType &&
      new.subjectId = old.subjectId && new.action = old.action)

def insertGrants : List GrantRow → Database → Except Failure Database
  | [], db => .ok db
  | grant :: rest, db => do
      let grants ← insertUnique GrantRow.clashes grant db.aclGrants
      insertGrants rest { db with aclGrants := grants }

section Calls

variable {F : Type} [FloatFormat F]

def CreateRequest.artifactRow (request : CreateRequest F) (settings : Settings)
    (draw : CreateDraw) : ArtifactRow where
  id := newId "art" draw.artifactId
  tenantId := request.tenantId
  ownerActorId := some request.actor
  name := request.name
  mediaType := resolveType settings request.mediaType request.name
  currentVersionId := none
  createdAt := draw.artifactAt.isoformat

/-- The checks before the transaction; the result is the encoded source context. -/
def CreateRequest.validate (request : CreateRequest F) (settings : Settings) :
    Except Failure String := do
  validateText "name" request.name maxNameLength
  validateVersionInput settings request.data (resolveType settings request.mediaType request.name)
    request.actor request.reason request.sourceContext

/-- The transaction up to the first version. -/
def createRows (settings : Settings) (draw : CreateDraw) (request : CreateRequest F)
    (db : Database) : Except Failure Database := do
  let db ← ensureTenant db request.tenantId draw.tenantAt
  let artifacts ← insertUnique (fun new old => new.id = old.id)
    (request.artifactRow settings draw) db.artifacts
  insertGrants
    (aclActions.map (fun action =>
      ownerGrant request.tenantId (newId "art" draw.artifactId) request.actor action
        (draw.grantAt action)))
    { db with artifacts := artifacts }

def CreateRequest.firstVersion (request : CreateRequest F) (settings : Settings)
    (draw : CreateDraw) (sourceContextJson : String) : VersionInput where
  tenantId := request.tenantId
  artifactId := newId "art" draw.artifactId
  data := request.data
  mediaType := resolveType settings request.mediaType request.name
  actor := request.actor
  reason := request.reason
  sourceContextJson := sourceContextJson
  parentVersionId := none

/-- The transaction of `create_artifact`; it yields the two new ids. -/
def createBody (settings : Settings) (draw : CreateDraw) (request : CreateRequest F)
    (sourceContextJson : String) (disk : Disk) :
    Files × Except Failure (Database × (String × String)) :=
  match createRows settings draw request disk.db with
  | .error e => (disk.files, .error e)
  | .ok db =>
      let inserted := insertVersion settings draw.version
        (request.firstVersion settings draw sourceContextJson) db disk.files
      (inserted.1, inserted.2.map (fun p => (p.1, (newId "art" draw.artifactId, p.2))))

/-! ### Writing a version -/

/-- The `authorization_actor` argument. -/
inductive AuthorizationActor where
  | useCaller
  | given (actor : Option String)
  deriving DecidableEq

def AuthorizationActor.resolve (choice : AuthorizationActor) (actor : String) : Option String :=
  match choice with
  | .useCaller => some actor
  | .given actor => actor

structure WriteRequest (F : Type) where
  tenantId : String
  artifactId : String
  data : Bytes
  mediaType : String
  actor : String
  reason : String
  sourceContext : List (PyStr × Json F)
  parentVersionId : Option String
  authorizationActor : AuthorizationActor := .useCaller

def WriteRequest.requestActor (request : WriteRequest F) : Option String :=
  request.authorizationActor.resolve request.actor

def WriteRequest.validate (request : WriteRequest F) (settings : Settings) :
    Except Failure String :=
  validateVersionInput settings request.data request.mediaType request.actor request.reason
    request.sourceContext

def WriteRequest.input (request : WriteRequest F) (sourceContextJson : String) : VersionInput where
  tenantId := request.tenantId
  artifactId := request.artifactId
  data := request.data
  mediaType := request.mediaType
  actor := request.actor
  reason := request.reason
  sourceContextJson := sourceContextJson
  parentVersionId := request.parentVersionId

/-- The transaction of `write_version`; it yields the new version's id. -/
def writeBody (settings : Settings) (draw : VersionDraw) (request : WriteRequest F)
    (sourceContextJson : String) (disk : Disk) : Files × Except Failure (Database × String) :=
  match authorize disk.db request.tenantId request.artifactId request.requestActor .write with
  | .error e => (disk.files, .error e)
  | .ok () => insertVersion settings draw (request.input sourceContextJson) disk.db disk.files

end Calls

end FolioLattice.Store
