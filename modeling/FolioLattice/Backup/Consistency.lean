/-
What the rows of a verified backup and its blobs have to do with each other.
-/

import FolioLattice.Backup.Verify
import FolioLattice.Data.JsonNormal
import FolioLattice.Effects.Fallible

namespace FolioLattice.Backup

open FolioLattice.Text (Bytes)
open FolioLattice.Effects (except_bind_ok except_bind_pass)
open FolioLattice.Data

variable {F : Type} [FloatFormat F]

/-! ### Steps that have passed -/

theorem require_bind {fine : Bool} {message : String} {α : Type} {next : Unit → Checked α}
    {result : α} (passed : (require fine message >>= next) = .ok result) :
    fine = true ∧ next () = .ok result := by
  cases fine with
  | true => exact ⟨rfl, passed⟩
  | false => cases passed

theorem require_pass {fine : Bool} {message : String} {α : Type} {next : Unit → Checked α}
    {result : α} (passes : fine = true) (later : next () = .ok result) :
    (require fine message >>= next) = .ok result := by
  rw [passes]
  exact later

theorem readManifest_encode {text : List Char} {value : Json F} (loaded : loads text = .ok value) :
    readManifest (encodeUtf8 text) = .ok value := by
  unfold readManifest
  rw [decodeStrict_encodeUtf8]
  simp only [loaded]

/-! ### Entries of the manifest -/

omit [FloatFormat F] in
/-- Every entry lies at the path of its hash. -/
theorem validateEntry_paths {listed listed' : List BlobEntry} {entry : Json F}
    (passed : validateEntry listed entry = .ok listed')
    (paths : ∀ e ∈ listed, e.path = blobPath e.blobHash) :
    ∀ e ∈ listed', e.path = blobPath e.blobHash := by
  unfold validateEntry at passed
  split at passed
  · obtain ⟨_, passed⟩ := require_bind passed
    split at passed
    · obtain ⟨_, passed⟩ := require_bind passed
      obtain ⟨atPath, passed⟩ := require_bind passed
      split at passed
      · split at passed
        · obtain ⟨_, passed⟩ := require_bind passed
          cases passed
          rw [Bool.and_eq_true] at atPath
          intro e member
          rcases List.mem_append.mp member with earlier | last
          · exact paths e earlier
          · rw [List.mem_singleton.mp last]
            exact of_decide_eq_true atPath.1
        · cases passed
      · cases passed
    · cases passed
  · cases passed

omit [FloatFormat F] in
theorem validateEntries_paths {entries : List (Json F)} {listed listed' : List BlobEntry}
    (passed : entries.foldlM validateEntry listed = .ok listed')
    (paths : ∀ e ∈ listed, e.path = blobPath e.blobHash) :
    ∀ e ∈ listed', e.path = blobPath e.blobHash := by
  induction entries generalizing listed with
  | nil =>
      cases passed
      exact paths
  | cons entry rest ih =>
      rw [List.foldlM_cons] at passed
      obtain ⟨next, first, passed⟩ := except_bind_ok passed
      exact ih passed (validateEntry_paths first paths)

theorem validateBlobEntries_paths {manifest : Dict F} {entries : List BlobEntry}
    (passed : validateBlobEntries manifest = .ok entries) :
    ∀ entry ∈ entries, entry.path = blobPath entry.blobHash := by
  unfold validateBlobEntries at passed
  split at passed
  · split at passed
    · obtain ⟨_, passed⟩ := require_bind passed
      obtain ⟨listed, folded, passed⟩ := except_bind_ok passed
      obtain ⟨_, passed⟩ := require_bind passed
      cases passed
      exact validateEntries_paths folded (fun e impossible => by cases impossible)
    · cases passed
  · cases passed

/-- Every row refers to a blob, and there are no other references. -/
theorem referencedBlobs_eq {database : ArchivedDatabase} {referenced : List PyStr}
    (passed : referencedBlobs database = .ok referenced) :
    database.versions.map (·.blobHash) = referenced.map some := by
  unfold referencedBlobs at passed
  generalize database.versions = rows at passed ⊢
  induction rows generalizing referenced with
  | nil =>
      cases passed
      rfl
  | cons row rest ih =>
      rw [List.mapM_cons] at passed
      obtain ⟨first, isFirst, passed⟩ := except_bind_ok passed
      obtain ⟨others, isRest, passed⟩ := except_bind_ok passed
      cases passed
      have same : row.blobHash = some first := by
        split at isFirst
        · rename_i text isText
          split at isFirst
          · cases isFirst
            exact isText
          · cases isFirst
        · cases isFirst
      rw [List.map_cons, List.map_cons, same, ih isRest]

/-! ### What the inspection has compared -/

structure Inspected (tools : Tools) (files : List (PyStr × Bytes)) (manifest : Dict F)
    (data : Bytes) (database : ArchivedDatabase) (entries : List BlobEntry) : Prop where
  file : lookup databaseName files = some data
  opened : tools.openDatabase data = some database
  validated : validateBlobEntries manifest = .ok entries
  referenced : ∀ row ∈ database.versions, ∃ entry ∈ entries, row.blobHash = some entry.blobHash
  blobs : ∀ entry ∈ entries, ∃ blob, lookup entry.path files = some blob ∧
    blob.length = entry.size ∧ hexDigest blob = entry.sha256

theorem inspectDatabase_ok {tools : Tools} {manifest : Dict F} {data : Bytes}
    {scope : Option (List PyStr)} {database : ArchivedDatabase} {referenced : List PyStr}
    (passed : inspectDatabase tools manifest data scope = .ok (database, referenced)) :
    tools.openDatabase data = some database ∧ referencedBlobs database = .ok referenced := by
  unfold inspectDatabase at passed
  split at passed
  · obtain ⟨_, passed⟩ := require_bind passed
    split at passed
    · rename_i opened isOpened
      obtain ⟨_, passed⟩ := require_bind passed
      obtain ⟨_, passed⟩ := require_bind passed
      obtain ⟨_, _, passed⟩ := except_bind_ok passed
      obtain ⟨_, passed⟩ := require_bind passed
      obtain ⟨_, passed⟩ := require_bind passed
      obtain ⟨_, passed⟩ := require_bind passed
      obtain ⟨_, passed⟩ := require_bind passed
      obtain ⟨_, found, passed⟩ := except_bind_ok passed
      cases passed
      exact ⟨isOpened, found⟩
    · cases passed
  · cases passed

theorem inspectExtracted_ok {tools : Tools} {files : List (PyStr × Bytes)} {manifest : Dict F}
    {scope : Option (List PyStr)} (passed : inspectExtracted tools files manifest scope = .ok ()) :
    ∃ data database entries, Inspected tools files manifest data database entries := by
  unfold inspectExtracted at passed
  split at passed
  · rename_i data found
    obtain ⟨⟨database, referenced⟩, inspected, passed⟩ := except_bind_ok passed
    obtain ⟨opened, isReferenced⟩ := inspectDatabase_ok inspected
    obtain ⟨entries, validated, passed⟩ := except_bind_ok passed
    obtain ⟨_, passed⟩ := require_bind passed
    obtain ⟨sameSet, passed⟩ := require_bind passed
    obtain ⟨_, passed⟩ := require_bind passed
    have compared : entries.all (fun entry => (lookup entry.path files).any (fun data =>
        data.length = entry.size && hexDigest data = entry.sha256)) = true := by
      by_contra differ
      rw [Bool.not_eq_true] at differ
      rw [differ] at passed
      cases passed
    rw [Bool.and_eq_true, List.all_eq_true, List.all_eq_true] at sameSet
    have references := referencedBlobs_eq isReferenced
    refine ⟨data, database, entries, found, opened, validated, ?_, ?_⟩
    · intro row member
      have inSet : row.blobHash ∈ referenced.map some := by
        rw [← references]
        exact List.mem_map_of_mem member
      obtain ⟨blobHash, isReference, isHash⟩ := List.mem_map.mp inSet
      obtain ⟨entry, inEntries, same⟩ := List.any_eq_true.mp (sameSet.2 blobHash isReference)
      exact ⟨entry, inEntries, isHash.symm.trans (congrArg some (of_decide_eq_true same).symm)⟩
    · intro entry member
      have same := List.all_eq_true.mp compared entry member
      cases isBlob : lookup entry.path files with
      | none =>
          rw [isBlob] at same
          cases same
      | some blob =>
          rw [isBlob, Option.any_some, Bool.and_eq_true] at same
          exact ⟨blob, rfl, of_decide_eq_true same.1, of_decide_eq_true same.2⟩
  · cases passed

/-! ### Content addresses -/

/-- Every row's blob is in the archive, with the row's hash and the row's size. -/
def Consistent (files : List (PyStr × Bytes)) (database : ArchivedDatabase) : Prop :=
  ∀ row ∈ database.versions, ∃ blobHash blob, row.blobHash = some blobHash ∧
    lookup (blobPath blobHash) files = some blob ∧
    hexDigest blob = blobHash ∧ (blob.length : Int) = row.byteSize

/-- The entry of every row's blob states the row's hash and the row's size. -/
def ListedRight (entries : List BlobEntry) (database : ArchivedDatabase) : Prop :=
  ∀ row ∈ database.versions, ∀ entry ∈ entries, row.blobHash = some entry.blobHash →
    entry.sha256 = entry.blobHash ∧ entry.size = row.byteSize

theorem Inspected.consistent_iff {tools : Tools} {files : List (PyStr × Bytes)} {manifest : Dict F}
    {data : Bytes} {database : ArchivedDatabase} {entries : List BlobEntry}
    (inspected : Inspected tools files manifest data database entries) :
    Consistent files database ↔ ListedRight entries database := by
  have paths := validateBlobEntries_paths inspected.validated
  constructor
  · intro consistent row inRows entry inEntries isHash
    obtain ⟨blobHash, blob, isHash', found, hash, size⟩ := consistent row inRows
    rw [isHash] at isHash'
    cases isHash'
    obtain ⟨blob', found', size', hash'⟩ := inspected.blobs entry inEntries
    rw [paths entry inEntries, found] at found'
    cases found'
    exact ⟨hash'.symm.trans hash, size'.symm.trans size⟩
  · intro right row inRows
    obtain ⟨entry, inEntries, isHash⟩ := inspected.referenced row inRows
    obtain ⟨blob, found, size, hash⟩ := inspected.blobs entry inEntries
    obtain ⟨sameHash, sameSize⟩ := right row inRows entry inEntries isHash
    rw [paths entry inEntries] at found
    exact ⟨entry.blobHash, blob, isHash, found, hash.trans sameHash, size.trans sameSize⟩

/-- A directory that `verify_backup` accepts is consistent exactly when its manifest
lists every row's blob under the row's own hash and size. -/
theorem verified_consistent_iff (tools : Tools) (provider : Option KeyProvider)
    (directory : BackupDirectory) (expected : Expected) (manifest : Dict F)
    (accepted : verifyBackup tools provider directory expected = .ok manifest) :
    ∃ recoveryRef files data database entries,
      openArchive tools provider directory expected recoveryRef = .ok (manifest, files) ∧
        lookup databaseName files = some data ∧ tools.openDatabase data = some database ∧
        validateBlobEntries manifest = .ok entries ∧
        (Consistent files database ↔ ListedRight entries database) := by
  unfold verifyBackup at accepted
  obtain ⟨recoveryRef, _, accepted⟩ := except_bind_ok accepted
  obtain ⟨⟨found, files⟩, opened, accepted⟩ := except_bind_ok accepted
  obtain ⟨_, inspected, accepted⟩ := except_bind_ok accepted
  cases accepted
  obtain ⟨data, database, entries, inspected⟩ := inspectExtracted_ok inspected
  exact ⟨recoveryRef, files, data, database, entries, opened, inspected.file, inspected.opened,
    inspected.validated, inspected.consistent_iff⟩

/-! ### A blob under another name -/

/-- The name of the blob, which is not the hash of its bytes. -/
def zeroHash : PyStr := List.replicate 64 (codePoint '0')

def emptyDigest : PyStr :=
  pyStr "e3b0c44298fc1c149afbf4c8996fb92427ae41e4649b934ca495991b7852b855"

theorem hexDigest_nil : hexDigest [] = emptyDigest := by decide +kernel

def misnamedDatabase : ArchivedDatabase where
  quickCheck := true
  foreignKeyErrors := false
  schema := []
  tableCounts := [(pyStr "versions", 1)]
  tenants := [pyStr "acme"]
  versions := [⟨some zeroHash, 0⟩]

def misnamedFiles : List (PyStr × Bytes) := [(databaseName, [1]), (blobPath zeroHash, [])]

/-- The tools, on this one backup. -/
def misnamedTools : Tools where
  decrypt _ _ _ ciphertext := some (ciphertext.take 32)
  openTar _ := ⟨misnamedFiles.map (fun file => ⟨file.1, true, file.2.length, file.2⟩), false⟩
  openDatabase _ := some misnamedDatabase

def misnamedProvider : KeyProvider where
  manifestAuthKey := some (List.replicate 32 109)
  recoveryKey _ := some (List.replicate 32 114)
  keyVersion := some (fun _ _ => some (pyStr "v1"))
  manifestKeyVersion := some (some (pyStr "v1"))

def misnamedBase : Dict Empty :=
  [(pyStr "backup_id", .str (pyStr "backup_" ++ List.replicate 32 (codePoint '0'))),
    (pyStr "backup_schema_version", .str (pyStr "folio-backup-v2")),
    (pyStr "blobs", .obj [(pyStr "bytes", .int 0), (pyStr "count", .int 1),
      (pyStr "entries", .arr [.obj [(pyStr "path", .str (blobPath zeroHash)),
        (pyStr "sha256", .str emptyDigest), (pyStr "size", .int 0)]])]),
    (pyStr "database", .obj [
      (pyStr "schema_signature",
        .str (pyStr "4f53cda18c2baa0c0354bb5f9a3ecbe5ed12ab4d8e11ba873c2f11161202b945")),
      (pyStr "sha256",
        .str (pyStr "4bf5122f344554c53bde2ebb8cd2b7e3d1600ad631c385a5d7cce23c7785459a")),
      (pyStr "size", .int 1), (pyStr "table_counts", .obj [(pyStr "versions", .int 1)]),
      (pyStr "tenant_scope", .arr [.str (pyStr "acme")])]),
    (pyStr "keys", .obj [(pyStr "backup_key_ref", .str (pyStr "backup:v1")),
      (pyStr "backup_key_version", .str (pyStr "v1")),
      (pyStr "manifest_key_version", .str (pyStr "v1")),
      (pyStr "recovery_key_ref", .str (pyStr "recovery:v1")),
      (pyStr "recovery_key_version", .str (pyStr "v1")),
      (pyStr "wrapped_data_key", .obj [(pyStr "backup", .null), (pyStr "recovery", .obj [
        (pyStr "ciphertext", .str ((b64encode (List.replicate 48 0)).map codePoint)),
        (pyStr "nonce", .str ((b64encode (List.replicate 12 0)).map codePoint))])])]),
    (pyStr "payload", .obj [(pyStr "algorithm", .str (pyStr "aes-256-gcm-tar-v1")),
      (pyStr "nonce", .str ((b64encode (List.replicate 12 0)).map codePoint)),
      (pyStr "path", .str payloadName)])]

def misnamedManifest : Dict Empty :=
  (pyStr "authentication", .obj [(pyStr "algorithm", .str (pyStr "hmac-sha256")),
    (pyStr "tag",
      .str (pyStr "dc1ff6ceec5f791d37705226cc1386d351b45bf1dbd973a05293439cf9e6cf59"))]) ::
    misnamedBase

def misnamedText : List Char := (dumps true (Json.obj misnamedManifest)).getD []

def misnamedDirectory : BackupDirectory where
  isDirectory := true
  names := [manifestName, payloadName]
  manifest := some (encodeUtf8 misnamedText)
  payload := some (List.replicate 60 0)

def anyBackup : Expected := ⟨none, none, none, none⟩

def misnamedEncoded : Bytes := ((canonical (Json.obj misnamedBase)).toOption).getD []

/-- The runs of the fixture, in one evaluation. -/
theorem misnamed_computed :
    unsignedManifest misnamedManifest =
        .ok (pyStr "dc1ff6ceec5f791d37705226cc1386d351b45bf1dbd973a05293439cf9e6cf59",
          misnamedEncoded) ∧
      (dumps true (Json.obj misnamedManifest)).isSome = true ∧
      (Json.obj misnamedManifest).Normal ∧ (encodeUtf8 misnamedText).length ≤ maxManifestBytes ∧
      hexBytes (hmacSha256 (List.replicate 32 109) misnamedEncoded) =
        pyStr "dc1ff6ceec5f791d37705226cc1386d351b45bf1dbd973a05293439cf9e6cf59" ∧
      unwrapDataKey misnamedTools misnamedManifest (some misnamedProvider) none =
        .ok (List.replicate 32 0) ∧
      decryptPayload misnamedTools misnamedDirectory misnamedManifest misnamedEncoded
        (List.replicate 32 0) = .ok (List.replicate 32 0) ∧
      extractPayload (misnamedTools.openTar (List.replicate 32 0)) = .ok misnamedFiles ∧
      inspectExtracted misnamedTools misnamedFiles misnamedManifest none = .ok () := by
  decide +kernel

theorem misnamed_unsigned : unsignedManifest misnamedManifest =
    .ok (pyStr "dc1ff6ceec5f791d37705226cc1386d351b45bf1dbd973a05293439cf9e6cf59",
      misnamedEncoded) :=
  misnamed_computed.1

theorem misnamed_tag : hexBytes (hmacSha256 (List.replicate 32 109) misnamedEncoded) =
    pyStr "dc1ff6ceec5f791d37705226cc1386d351b45bf1dbd973a05293439cf9e6cf59" :=
  misnamed_computed.2.2.2.2.1

theorem misnamed_unwrapped : unwrapDataKey misnamedTools misnamedManifest (some misnamedProvider)
    none = .ok (List.replicate 32 0) :=
  misnamed_computed.2.2.2.2.2.1

theorem misnamed_decrypted : decryptPayload misnamedTools misnamedDirectory misnamedManifest
    misnamedEncoded (List.replicate 32 0) = .ok (List.replicate 32 0) :=
  misnamed_computed.2.2.2.2.2.2.1

theorem misnamed_extracted : extractPayload (misnamedTools.openTar (List.replicate 32 0)) =
    .ok misnamedFiles :=
  misnamed_computed.2.2.2.2.2.2.2.1

theorem misnamed_inspected :
    inspectExtracted misnamedTools misnamedFiles misnamedManifest none = .ok () :=
  misnamed_computed.2.2.2.2.2.2.2.2

theorem misnamed_sorted : (Json.obj misnamedManifest).sortKeys = .obj misnamedManifest := by rfl

theorem misnamed_normal : (Json.obj misnamedManifest).Normal := misnamed_computed.2.2.1

theorem misnamed_dumped : dumps true (Json.obj misnamedManifest) = some misnamedText := by
  have encodes := misnamed_computed.2.1
  unfold misnamedText
  cases dumped : dumps true (Json.obj misnamedManifest) with
  | none =>
      rw [dumped] at encodes
      cases encodes
  | some text => rfl

theorem misnamed_read :
    readManifest (encodeUtf8 misnamedText) = .ok (Json.obj misnamedManifest) := by
  have loaded := loads_dumps_normal misnamed_normal misnamed_dumped
  rw [misnamed_sorted] at loaded
  exact readManifest_encode loaded

theorem misnamed_size : (encodeUtf8 misnamedText).length ≤ maxManifestBytes :=
  misnamed_computed.2.2.2.1

theorem misnamed_loaded : loadManifest misnamedDirectory (some misnamedProvider) =
    .ok (misnamedManifest, misnamedEncoded) := by
  refine require_pass rfl ?_
  refine require_pass (decide_eq_true misnamed_size) ?_
  refine except_bind_pass misnamed_read ?_
  refine require_pass (by decide +kernel) ?_
  refine except_bind_pass misnamed_unsigned ?_
  refine except_bind_pass (a := List.replicate 32 109) rfl ?_
  refine require_pass (decide_eq_true misnamed_tag) ?_
  rfl

theorem misnamed_opened : openArchive misnamedTools (some misnamedProvider) misnamedDirectory
    anyBackup none = .ok (misnamedManifest, misnamedFiles) := by
  refine except_bind_pass misnamed_loaded ?_
  refine require_pass (by decide) ?_
  refine require_pass (by decide) ?_
  refine except_bind_pass (a := pyStr "backup:v1") (by decide +kernel) ?_
  refine except_bind_pass misnamed_unwrapped ?_
  refine except_bind_pass misnamed_decrypted ?_
  exact except_bind_pass misnamed_extracted rfl

theorem misnamed_accepted : verifyBackup misnamedTools (some misnamedProvider) misnamedDirectory
    anyBackup = .ok misnamedManifest := by
  refine except_bind_pass (a := none) rfl ?_
  refine except_bind_pass misnamed_opened ?_
  exact except_bind_pass misnamed_inspected rfl

theorem verified_consistent_iff_misnamed :
    ∃ recoveryRef files data database entries,
      openArchive misnamedTools (some misnamedProvider) misnamedDirectory anyBackup recoveryRef =
          .ok (misnamedManifest, files) ∧
        lookup databaseName files = some data ∧ misnamedTools.openDatabase data = some database ∧
        validateBlobEntries misnamedManifest = .ok entries ∧
        (Consistent files database ↔ ListedRight entries database) :=
  verified_consistent_iff misnamedTools (some misnamedProvider) misnamedDirectory anyBackup
    misnamedManifest misnamed_accepted

theorem verified_not_consistent :
    ¬∀ (tools : Tools) (provider : Option KeyProvider) (directory : BackupDirectory)
      (expected : Expected) (manifest : Dict Empty),
      verifyBackup tools provider directory expected = .ok manifest →
        ∀ recoveryRef files data database,
          openArchive tools provider directory expected recoveryRef = .ok (manifest, files) →
            lookup databaseName files = some data → tools.openDatabase data = some database →
              Consistent files database := by
  intro always
  have consistent := always misnamedTools (some misnamedProvider) misnamedDirectory anyBackup
    misnamedManifest misnamed_accepted none misnamedFiles [1] misnamedDatabase misnamed_opened
    (by decide) rfl
  obtain ⟨blobHash, blob, isHash, found, hash, _⟩ :=
    consistent ⟨some zeroHash, 0⟩ (List.mem_singleton.mpr rfl)
  cases isHash
  have empty : lookup (blobPath zeroHash) misnamedFiles = some [] := by decide
  rw [empty] at found
  cases found
  rw [hexDigest_nil] at hash
  revert hash
  decide

end FolioLattice.Backup
