/-
The tables of the artifact store, the blob directory beside them and what a call
can raise.
-/

import FolioLattice.Relational.Rows
import FolioLattice.Text.Strings
import FolioLattice.Text.Timestamp
import FolioLattice.Text.Utf8
import FolioLattice.Data.JsonNormal
import FolioLattice.Data.Sha256
import Mathlib.Data.List.Pairwise

namespace FolioLattice.Store

open FolioLattice.Text FolioLattice.Data FolioLattice.Relational

/-! ### Drawn values -/

def isHexDigit (c : Char) : Bool := ('0' ≤ c && c ≤ '9') || ('a' ≤ c && c ≤ 'f')

/-- `uuid.uuid4().hex` -/
structure Uuid where
  hex : String
  isHex : hex.length = 32 ∧ hex.toList.all isHexDigit = true
  deriving DecidableEq

/-- `hashlib.sha256(…).hexdigest()` -/
structure Digest where
  hex : String
  isHex : hex.length = 64 ∧ hex.toList.all isHexDigit = true
  deriving DecidableEq

def Uuid.nil : Uuid := ⟨"00000000000000000000000000000000", by decide⟩

def Uuid.one : Uuid := ⟨"00000000000000000000000000000001", by decide⟩

def newId (kind : String) (uuid : Uuid) : String := kind ++ "_" ++ uuid.hex

theorem newId_no_bar {kind : String} (noBar : '|' ∉ kind.toList) (uuid : Uuid) :
    '|' ∉ (newId kind uuid).toList := by
  intro member
  unfold newId at member
  rw [String.toList_append, String.toList_append, List.append_assoc] at member
  rcases List.mem_append.mp member with inKind | inRest
  · exact noBar inKind
  · rcases List.mem_append.mp inRest with inLine | inHex
    · exact absurd inLine (by decide)
    · exact absurd (List.all_eq_true.mp uuid.isHex.2 _ inHex) (by decide)

theorem newId_length (kind : String) (uuid : Uuid) :
    (newId kind uuid).length = kind.length + 33 := by
  unfold newId
  rw [String.length_append, String.length_append, uuid.isHex.1]
  rfl

/-! ### Errors -/

inductive Failure where
  /-- `FolioError` -/
  | folio (message : String)
  /-- `sqlite3.IntegrityError` -/
  | integrity
  /-- what `json.loads` raises -/
  | json (error : LoadError)
  /-- a `TypeError` or `ValueError` of a built-in -/
  | builtin
  /-- a call that ends early for a reason outside the code, before it commits -/
  | interrupted
  deriving DecidableEq, Repr

/-! ### Access control -/

inductive Action where
  | read
  | write
  | share
  deriving DecidableEq, Repr

def Action.name : Action → String
  | .read => "read"
  | .write => "write"
  | .share => "share"

def aclActions : List Action := [.read, .write, .share]

/-- `action in ACL_ACTIONS` -/
def Action.parse (text : String) : Option Action := aclActions.find? (fun a => a.name = text)

inductive SubjectType where
  | actor
  deriving DecidableEq, Repr

inductive GrantStatus where
  | active
  | revoked
  deriving DecidableEq, Repr

def ownerGrantReason : String := "artifact owner"

/-! ### Rows -/

structure TenantRow where
  id : String
  createdAt : String
  deriving DecidableEq

/-- The owner and the current version are NULL in rows older than their columns. -/
structure ArtifactRow where
  id : String
  tenantId : String
  ownerActorId : Option String
  name : String
  mediaType : String
  currentVersionId : Option String
  createdAt : String
  deriving DecidableEq

structure VersionRow where
  id : String
  tenantId : String
  artifactId : String
  parentVersionId : Option String
  blobHash : String
  mediaType : String
  byteSize : Nat
  actor : String
  reason : String
  sourceContext : String
  createdAt : String
  deriving DecidableEq

structure ChunkRow where
  id : String
  tenantId : String
  artifactId : String
  versionId : String
  ordinal : Nat
  startOffset : Nat
  endOffset : Nat
  content : String
  deriving DecidableEq

/-- A row of either full-text table; the list order is the order of row ids. -/
structure FtsRow where
  chunkId : String
  tenantId : String
  artifactId : String
  versionId : String
  content : String
  deriving DecidableEq

structure EdgeRow where
  id : String
  tenantId : String
  sourceArtifactId : String
  targetArtifactId : String
  edgeType : String
  metadataJson : String
  createdAt : String
  deriving DecidableEq

structure GrantRow where
  id : String
  tenantId : String
  artifactId : String
  subjectType : SubjectType
  subjectId : String
  action : Action
  status : GrantStatus
  createdBy : String
  createdAt : String
  reason : String
  revokedBy : Option String
  revokedAt : Option String
  revocationReason : Option String
  deriving DecidableEq

structure MembershipRow where
  tenantId : String
  actorId : String
  active : Bool
  deriving DecidableEq

structure AuditEventRow where
  id : String
  occurredAt : String
  tenantId : String
  actorId : String
  actorType : String
  requestId : String
  correlationId : String
  traceId : String
  spanId : String
  action : String
  resourceType : String
  resourceId : Option String
  outcome : String
  reason : String
  policyVersion : String
  source : String
  detailsJson : String
  retentionClass : String
  expiresAt : String
  legalHold : Int
  integrityHash : String
  deriving DecidableEq

structure MigrationRow where
  version : Nat
  name : String
  checksum : String
  appliedAt : String
  deriving DecidableEq

/-- The columns that databases of earlier releases lack. -/
structure Layout where
  revocationReason : Bool
  traceId : Bool
  spanId : Bool
  ownerActorId : Bool
  currentVersionId : Bool
  deriving DecidableEq

def Layout.complete : Layout := ⟨true, true, true, true, true⟩

structure Database where
  tenants : List TenantRow
  artifacts : List ArtifactRow
  versions : List VersionRow
  chunks : List ChunkRow
  chunkFts : List FtsRow
  chunkSubstringFts : List FtsRow
  edges : List EdgeRow
  aclGrants : List GrantRow
  /-- the identity service's table, when it lives in the same database -/
  oidcMemberships : Option (List MembershipRow)
  auditEvents : List AuditEventRow
  schemaMigrations : List MigrationRow
  layout : Layout

/-- What `CREATE TABLE IF NOT EXISTS` leaves in a new file. -/
def Database.created : Database where
  tenants := []
  artifacts := []
  versions := []
  chunks := []
  chunkFts := []
  chunkSubstringFts := []
  edges := []
  aclGrants := []
  oidcMemberships := none
  auditEvents := []
  schemaMigrations := []
  layout := Layout.complete

/-! ### Files -/

/-- The files under `blob_root`, by the parts of their paths. -/
abbrev Files := List String → Option Bytes

/-- What a service keeps between calls. -/
structure Disk where
  db : Database
  files : Files

/-! ### Settings -/

structure Settings where
  maxArtifactBytes : Nat
  maxArtifactBytes_pos : 0 < maxArtifactBytes
  sha256 : Bytes → Digest
  /-- `mimetypes.guess_type(name)[0]` -/
  guessType : String → Option String

def defaultMaxArtifactBytes : Nat := 8 * 1024 * 1024

def hashlibSha256 (data : Bytes) : Digest where
  hex := String.ofList (sha256Hex data)
  isHex := by
    constructor
    · rw [String.length_ofList, sha256Hex_length]
    · rw [String.toList_ofList, List.all_eq_true]
      intro c member
      unfold isHexDigit
      rw [Bool.or_eq_true, Bool.and_eq_true, Bool.and_eq_true]
      simp only [decide_eq_true_eq]
      exact sha256Hex_isHex data c member

/-- The defaults, on a machine that knows no file types. -/
def Settings.standard : Settings where
  maxArtifactBytes := defaultMaxArtifactBytes
  maxArtifactBytes_pos := by decide
  sha256 := hashlibSha256
  guessType _ := none

/-! ### Statements -/

/-- `INSERT` under a uniqueness constraint. -/
def insertUnique {α : Type} (clash : α → α → Bool) (row : α) (rows : List α) :
    Except Failure (List α) :=
  if rows.any (clash row) then .error .integrity else .ok (rows ++ [row])

/-- No row clashes with one inserted before it. -/
def Apart {α : Type} (clash : α → α → Bool) (rows : List α) : Prop :=
  rows.Pairwise (fun old new => clash new old = false)

theorem insertUnique_ok {α : Type} {clash : α → α → Bool} {row : α} {rows rows' : List α}
    (inserted : insertUnique clash row rows = .ok rows') :
    rows' = rows ++ [row] ∧ ∀ old ∈ rows, clash row old = false := by
  unfold insertUnique at inserted
  split at inserted
  · cases inserted
  · rename_i noClash
    rw [Bool.not_eq_true, List.any_eq_false] at noClash
    refine ⟨(Except.ok.inj inserted).symm, ?_⟩
    intro old member
    exact (Bool.not_eq_true _).mp (noClash old member)

theorem insertUnique_of_fresh {α : Type} {clash : α → α → Bool} {row : α} {rows : List α}
    (fresh : ∀ old ∈ rows, clash row old = false) :
    insertUnique clash row rows = .ok (rows ++ [row]) := by
  unfold insertUnique
  rw [if_neg]
  rw [Bool.not_eq_true, List.any_eq_false]
  intro old member
  rw [fresh old member]
  exact Bool.false_ne_true

theorem Apart.append {α : Type} {clash : α → α → Bool} {row : α} {rows : List α}
    (apart : Apart clash rows) (fresh : ∀ old ∈ rows, clash row old = false) :
    Apart clash (rows ++ [row]) := by
  apply List.pairwise_append.mpr
  refine ⟨apart, List.pairwise_singleton _ _, ?_⟩
  intro old member new isNew
  rw [List.mem_singleton.mp isNew]
  exact fresh old member

/-- A key that clashes is a key of the rows. -/
theorem Apart.keyedBy {α κ : Type} {clash : α → α → Bool} {key : α → κ} {rows : List α}
    (apart : Apart clash rows) (clashes : ∀ new old, key new = key old → clash new old = true) :
    KeyedBy key rows := by
  apply List.pairwise_map.mpr
  refine apart.imp ?_
  intro old new noClash same
  rw [clashes new old same.symm] at noClash
  cases noClash

/-- Two rows that clash either way are one. -/
theorem Apart.eq {α : Type} {clash : α → α → Bool} {rows : List α} (apart : Apart clash rows)
    {a b : α} (aMember : a ∈ rows) (bMember : b ∈ rows) (clashes : clash a b = true)
    (clashes' : clash b a = true) : a = b := by
  by_contra different
  have symmetric : Std.Symm (fun a b : α => ¬(clash a b = true ∧ clash b a = true)) :=
    ⟨fun _ _ notBoth both => notBoth ⟨both.2, both.1⟩⟩
  have pairs : rows.Pairwise (fun a b => ¬(clash a b = true ∧ clash b a = true)) := by
    refine apart.imp ?_
    intro old new noClash both
    rw [noClash] at both
    exact Bool.false_ne_true both.2
  exact pairs.forall aMember bMember different ⟨clashes, clashes'⟩

theorem Apart.map {α : Type} {clash : α → α → Bool} {f : α → α} {rows : List α}
    (apart : Apart clash rows)
    (fewer : ∀ new old, clash new old = false → clash (f new) (f old) = false) :
    Apart clash (rows.map f) :=
  List.pairwise_map.mpr (apart.imp (fun {old new} noClash => fewer new old noClash))

/-- A transaction: what it wrote to the database counts only if it commits, what
it wrote to files stays. -/
def commit {α : Type} (disk : Disk) (body : Files × Except Failure (Database × α)) :
    Disk × Except Failure α :=
  match body.2 with
  | .ok (db, value) => (⟨db, body.1⟩, .ok value)
  | .error e => (⟨disk.db, body.1⟩, .error e)

end FolioLattice.Store
