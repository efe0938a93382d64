/-
Verification of a backup directory: the authenticated manifest, the wrapped data
key, the encrypted payload with its archive, and the invariants of what is in it.
-/

import FolioLattice.Data.Base64
import FolioLattice.Data.Hmac
import FolioLattice.Data.Json
import Mathlib.Algebra.Ring.Int.Defs

namespace FolioLattice.Backup

open FolioLattice.Text (Bytes)
open FolioLattice.Data

/-! ### Errors and bounds -/

inductive BackupError where
  /-- `BackupError(message)` -/
  | backup (message : String)
  /-- a `ValueError` that is not caught -/
  | value
  deriving DecidableEq

abbrev Checked (α : Type) := Except BackupError α

def require (fine : Bool) (message : String) : Checked Unit :=
  if fine then .ok () else .error (.backup message)

def maxBackupBlobs : Nat := 100000

def maxBackupBytes : Nat := 8 * 1024 * 1024 * 1024

def maxManifestBytes : Nat := 16 * 1024 * 1024

def maxPayloadBytes : Nat := maxBackupBytes + maxBackupBlobs * 2048 + 16 * 1024 * 1024

def aesKeyBytes : Nat := 32

def aesNonceBytes : Nat := 12

def aesTagBytes : Nat := 16

/-! ### Parts outside of the code -/

/-- A member of a tar archive as it is iterated. -/
structure TarMember where
  name : PyStr
  regular : Bool
  size : Int
  data : Bytes

/-- The members up to the end of the archive or to where it cannot be read. -/
structure TarContents where
  members : List TarMember
  broken : Bool

/-- The columns of a `versions` row that name its blob. -/
structure VersionRow where
  /-- `none` for a value that is not a text -/
  blobHash : Option PyStr
  byteSize : Int

/-- What the checks read of the archived database. -/
structure ArchivedDatabase where
  quickCheck : Bool
  foreignKeyErrors : Bool
  /-- type, name and sql of `sqlite_master`, ordered -/
  schema : List (PyStr × PyStr × PyStr)
  tableCounts : List (PyStr × Nat)
  tenants : List PyStr
  versions : List VersionRow

/-- AES-GCM, the tar reader and SQLite on the extracted file. -/
structure Tools where
  decrypt : (key nonce associated ciphertext : Bytes) → Option Bytes
  openTar : Bytes → TarContents
  openDatabase : Bytes → Option ArchivedDatabase

/-- A key provider; `none` where its method raises or is missing. -/
structure KeyProvider where
  manifestAuthKey : Option Bytes
  recoveryKey : PyStr → Option Bytes
  keyVersion : Option (PyStr → PyStr → Option PyStr)
  manifestKeyVersion : Option (Option PyStr)

/-- A backup directory; its files are there when they are regular files. -/
structure BackupDirectory where
  isDirectory : Bool
  names : List PyStr
  manifest : Option Bytes
  payload : Option Bytes

structure Expected where
  keyId : Option PyStr
  recoveryKeyRef : Option PyStr
  tenantScope : Option (List PyStr)
  backupId : Option PyStr

/-! ### Texts -/

def isLowerHex (c : CodePoint) : Bool :=
  (48 ≤ c.val && c.val ≤ 57) || (97 ≤ c.val && c.val ≤ 102)

def isHex (c : CodePoint) : Bool := isLowerHex c || (65 ≤ c.val && c.val ≤ 70)

/-- `[0-9a-f]{64}` -/
def isBlobHash (text : PyStr) : Bool := text.length = 64 && text.all isLowerHex

def isKeyChar (c : CodePoint) : Bool :=
  (65 ≤ c.val && c.val ≤ 90) || (97 ≤ c.val && c.val ≤ 122) || (48 ≤ c.val && c.val ≤ 57) ||
    c ∈ pyStr "._:-/"

/-- `_KEY_REF`: up to 255 of these characters. -/
def isKeyRef (text : PyStr) : Bool :=
  1 ≤ text.length && text.length ≤ 255 && text.all isKeyChar

/-- What `bytes.fromhex` accepts: pairs of digits, white space between them. -/
def isHexPairs : PyStr → Bool
  | [] => true
  | c :: rest =>
      if c.val = 32 || (9 ≤ c.val && c.val ≤ 13) then isHexPairs rest
      else match rest with
        | [] => false
        | d :: rest => isHex c && isHex d && isHexPairs rest

/-- The characters of an ASCII text. -/
def asciiChars (text : PyStr) : Option (List Char) :=
  if text.all (fun c => c.val < 128) then some (text.map (fun c => Char.ofNat c.val)) else none

/-- `text.split("/")` -/
def splitSlash : PyStr → List PyStr
  | [] => [[]]
  | c :: rest =>
      if c = codePoint '/' then [] :: splitSlash rest
      else match splitSlash rest with
        | [] => [[c]]
        | part :: parts => (c :: part) :: parts

def manifestName : PyStr := pyStr "manifest.json"

def payloadName : PyStr := pyStr "payload.bin"

def databaseName : PyStr := pyStr "metadata.sqlite"

def blobsDirName : PyStr := pyStr "blobs"

/-- `f"{BLOBS_DIR_NAME}/{blob_hash[:2]}/{blob_hash}"` -/
def blobPath (blobHash : PyStr) : PyStr :=
  blobsDirName ++ pyStr "/" ++ blobHash.take 2 ++ pyStr "/" ++ blobHash

def hexDigest (data : Bytes) : PyStr := (sha256Hex data).map codePoint

def hexBytes (data : Bytes) : PyStr :=
  data.flatMap (fun byte => [codePoint (Nat.digitChar (byte.toNat / 16)),
    codePoint (Nat.digitChar (byte.toNat % 16))])

section Code

variable {F : Type} [FloatFormat F]

/-! ### JSON dictionaries -/

abbrev Dict (F : Type) := List (PyStr × Json F)

def asDict : Json F → Option (Dict F)
  | .obj entries => some entries
  | _ => none

def Dict.text (dict : Dict F) (key : String) : Option PyStr :=
  match lookup (pyStr key) dict with
  | some (.str value) => some value
  | _ => none

def Dict.dict (dict : Dict F) (key : String) : Option (Dict F) :=
  (lookup (pyStr key) dict).bind asDict

/-- `set(dict) == {…}` -/
def Dict.keysAre (dict : Dict F) (keys : List String) : Bool :=
  dict.length = keys.length && keys.all (fun key => (lookup (pyStr key) dict).isSome)

/-- `value == n` for a number that a float holds exactly. -/
def equalsInt (n : Int) : Json F → Bool
  | .int value => value = n
  | .bool value => (if value then 1 else 0) = n
  | .float value => printFloat value = printInt n ++ ['.', '0'] ||
      (n = 0 && printFloat value = ['-', '0', '.', '0'])
  | _ => false

/-- `isinstance(value, int)`; a boolean is one. -/
def asInt : Json F → Option Int
  | .int value => some value
  | .bool value => some (if value then 1 else 0)
  | _ => none

/-- `_canonical` -/
def canonical (value : Json F) : Checked Bytes :=
  match dumps true value with
  | some text => .ok (encodeUtf8 text)
  | none => .error .value

/-! ### The manifest -/

/-- `_key` -/
def keyOf (value : Option Bytes) (name : String) : Checked Bytes :=
  match value with
  | none => .error (.backup (name ++ " is unavailable"))
  | some key => if key.length = aesKeyBytes then .ok key
      else .error (.backup (name ++ " is invalid"))

/-- `_key_version` -/
def keyVersionOf (provider : KeyProvider) (purpose : String) (keyRef : PyStr) : Checked PyStr :=
  match provider.keyVersion with
  | none => .error (.backup "encrypted backup key provider has no version contract")
  | some method => match method (pyStr purpose) keyRef with
    | none => .error (.backup (purpose ++ " key version is unavailable"))
    | some version => if isKeyRef version then .ok version
        else .error (.backup (purpose ++ " key version is invalid"))

/-- `_manifest_key_version` -/
def manifestKeyVersionOf (provider : KeyProvider) : Checked PyStr :=
  match provider.manifestKeyVersion with
  | none => .error (.backup "encrypted backup key provider has no manifest version contract")
  | some none => .error (.backup "manifest key version is unavailable")
  | some (some version) => if isKeyRef version then .ok version
      else .error (.backup "manifest key version is invalid")

/-- `_key_ref` -/
def keyRefOf (value : Option PyStr) (field : String) : Checked PyStr :=
  match value with
  | none => .error (.backup (field ++ " is invalid"))
  | some keyRef => if isKeyRef keyRef then .ok keyRef
      else .error (.backup (field ++ " is invalid"))

/-- `_unsigned_manifest`: the tag and the bytes it authenticates. -/
def unsignedManifest (manifest : Dict F) : Checked (PyStr × Bytes) := do
  let some authentication := manifest.dict "authentication"
    | .error (.backup "manifest authentication is missing")
  require (authentication.keysAre ["algorithm", "tag"]) "manifest authentication is missing"
  require (authentication.text "algorithm" = some (pyStr "hmac-sha256"))
    "manifest authentication algorithm is unsupported"
  let some tag := authentication.text "tag"
    | .error (.backup "manifest authentication tag is invalid")
  require (tag.length = 64) "manifest authentication tag is invalid"
  require (isHexPairs tag) "manifest authentication tag is invalid"
  let encoded ← canonical (.obj (manifest.filter (fun entry => entry.1 ≠ pyStr "authentication")))
  pure (tag, encoded)

/-- `json.loads` of the manifest file. -/
def readManifest (data : Bytes) : Checked (Json F) :=
  match decodeStrict data with
  | none => .error (.backup "backup manifest is invalid")
  | some text => match loads text with
    | .ok value => .ok value
    | .error .decode => .error (.backup "backup manifest is invalid")
    | .error .digits => .error .value

/-- `_load_manifest` -/
def loadManifest (directory : BackupDirectory) (provider : Option KeyProvider) :
    Checked (Dict F × Bytes) := do
  require directory.isDirectory "backup manifest is missing"
  let some data := directory.manifest | .error (.backup "backup manifest is missing")
  require (data.length ≤ maxManifestBytes) "backup manifest exceeds the byte bound"
  let value : Json F ← readManifest data
  let some manifest := asDict value
    | .error (.backup "unsigned or legacy backup manifests are rejected")
  require (manifest.text "backup_schema_version" = some (pyStr "folio-backup-v2"))
    "unsigned or legacy backup manifests are rejected"
  let (tag, encoded) ← unsignedManifest manifest
  let some provider := provider | .error (.backup "encrypted backup key provider is required")
  let key ← keyOf provider.manifestAuthKey "manifest auth key"
  require (hexBytes (hmacSha256 key encoded) = tag) "manifest authentication failed"
  let some version := (manifest.dict "keys").bind (·.text "manifest_key_version")
    | .error (.backup "manifest key version is missing")
  let expected ← manifestKeyVersionOf provider
  require (version = expected) "manifest key version mismatch"
  pure (manifest, encoded)

/-! ### The data key and the payload -/

/-- `_unb64` -/
def unb64 (value : Option PyStr) (field : String) : Checked Bytes :=
  match value with
  | none => .error (.backup (field ++ " is invalid"))
  | some text =>
      if 512 < text.length then .error (.backup (field ++ " is invalid"))
      else match (asciiChars text).bind b64decode with
        | none => .error (.backup (field ++ " is invalid"))
        | some data => .ok data

/-- `_unwrap_data_key` -/
def unwrapDataKey (tools : Tools) (manifest : Dict F) (provider : Option KeyProvider)
    (expectedRef : Option PyStr) : Checked Bytes := do
  let some keys := manifest.dict "keys" | .error (.backup "backup key references are missing")
  require (keys.keysAre ["manifest_key_version", "backup_key_ref", "backup_key_version",
    "recovery_key_ref", "recovery_key_version", "wrapped_data_key"])
    "backup key references are invalid"
  let backupRef ← keyRefOf (keys.text "backup_key_ref") "backup key reference"
  let recoveryRef ← keyRefOf (keys.text "recovery_key_ref") "recovery key reference"
  let some backupVersion := (keys.text "backup_key_version").filter isKeyRef
    | .error (.backup "backup key version is invalid")
  let some recoveryVersion := (keys.text "recovery_key_version").filter isKeyRef
    | .error (.backup "recovery key version is invalid")
  let some provider := provider
    | .error (.backup "versioned encrypted backup key provider is required")
  let currentBackup ← keyVersionOf provider "backup" backupRef
  require (backupVersion = currentBackup) "backup key version mismatch"
  let currentRecovery ← keyVersionOf provider "recovery" recoveryRef
  require (recoveryVersion = currentRecovery) "recovery key version mismatch"
  require (expectedRef.all (fun expected => recoveryRef = expected))
    "backup recovery-key identity does not match"
  let some wrapped := (keys.dict "wrapped_data_key").filter (·.keysAre ["backup", "recovery"])
    | .error (.backup "recovery key wrapping is missing")
  let some item := (wrapped.dict "recovery").filter (·.keysAre ["nonce", "ciphertext"])
    | .error (.backup "recovery key wrapping is invalid")
  let nonce ← unb64 (item.text "nonce") "recovery wrapping nonce"
  let ciphertext ← unb64 (item.text "ciphertext") "recovery wrapped key"
  require (nonce.length = aesNonceBytes && ciphertext.length = aesKeyBytes + aesTagBytes)
    "recovery key wrapping is invalid"
  let key ← keyOf (provider.recoveryKey recoveryRef) "recovery key"
  let associated ← match asciiChars recoveryRef with
    | some text => pure (encodeUtf8 ("folio-recovery-key-v2:".toList ++ text))
    | none => .error .value
  match tools.decrypt key nonce associated ciphertext with
  | some dataKey => pure dataKey
  | none => .error (.backup "recovery key could not decrypt backup")

/-- `_decrypt_payload` -/
def decryptPayload (tools : Tools) (directory : BackupDirectory) (manifest : Dict F)
    (associated dataKey : Bytes) : Checked Bytes := do
  let some payload := (manifest.dict "payload").filter (·.keysAre ["path", "algorithm", "nonce"])
    | .error (.backup "backup payload metadata is invalid")
  require (payload.text "path" = some payloadName &&
    payload.text "algorithm" = some (pyStr "aes-256-gcm-tar-v1"))
    "backup payload metadata is invalid"
  let nonce ← unb64 (payload.text "nonce") "payload nonce"
  require (nonce.length = aesNonceBytes) "payload nonce is invalid"
  let some data := directory.payload | .error (.backup "backup payload is missing or unsafe")
  require (data.length ≤ maxPayloadBytes && aesNonceBytes + aesTagBytes ≤ data.length)
    "backup payload is out of bounds"
  require (data.take aesNonceBytes = nonce) "backup payload nonce does not match manifest"
  match tools.decrypt dataKey nonce associated (data.drop aesNonceBytes) with
  | some tar => pure tar
  | none => .error (.backup "backup payload authentication failed")

/-! ### The archive -/

/-- `_safe_tar_name`; a lone `.` has no parts and is its own normal form. -/
def safeTarName (name : PyStr) : Bool :=
  !name.isEmpty && codePoint '\\' ∉ name &&
    (name = pyStr "." || (splitSlash name).all (fun part => part ∉ [[], pyStr ".", pyStr ".."]))

/-- The extracted files under their names, and the counts of the blobs. -/
structure Extracted where
  files : List (PyStr × Bytes)
  blobCount : Nat
  blobBytes : Int

def Extracted.empty : Extracted := ⟨[], 0, 0⟩

/-- The name of a blob: `blobs/hh/hash`. -/
def isBlobName (name : PyStr) : Bool :=
  match splitSlash name with
  | [top, fan, blobHash] => top = blobsDirName && isBlobHash blobHash && fan = blobHash.take 2
  | _ => false

/-- One member of the loop of `_extract_payload`. -/
def extractMember (extracted : Extracted) (member : TarMember) : Checked Extracted := do
  require (safeTarName member.name) "backup payload contains an unsafe path"
  require ((extracted.files.all (fun file => file.1 ≠ member.name)) && member.regular &&
    0 ≤ member.size) "backup payload contains an invalid member"
  if member.name ≠ databaseName then do
    require (isBlobName member.name) "backup payload contains an unsafe path"
    let blobCount := extracted.blobCount + 1
    let blobBytes := extracted.blobBytes + member.size
    require (blobCount ≤ maxBackupBlobs && blobBytes ≤ maxBackupBytes)
      "backup payload exceeds the byte bound"
    pure ⟨extracted.files ++ [(member.name, member.data)], blobCount, blobBytes⟩
  else do
    require (member.size ≤ maxManifestBytes) "backup metadata exceeds the byte bound"
    pure { extracted with files := extracted.files ++ [(member.name, member.data)] }

/-- `_extract_payload` -/
def extractPayload (contents : TarContents) : Checked (List (PyStr × Bytes)) := do
  let extracted ← contents.members.foldlM extractMember .empty
  require (!contents.broken) "backup payload archive is invalid"
  require ((lookup databaseName extracted.files).isSome) "backup payload metadata is missing"
  pure extracted.files

/-! ### The invariants -/

structure BlobEntry where
  path : PyStr
  blobHash : PyStr
  sha256 : PyStr
  size : Int

/-- One entry of the loop of `_validate_blob_entries`. -/
def validateEntry (listed : List BlobEntry) (entry : Json F) : Checked (List BlobEntry) := do
  let some entry := asDict entry | .error (.backup "backup blob entry is invalid")
  require (entry.keysAre ["path", "sha256", "size"]) "backup blob entry is invalid"
  let some path := entry.text "path" | .error (.backup "backup blob path is invalid")
  let blobHash := (splitSlash path).getLastD []
  require (isBlobHash blobHash) "invalid blob hash"
  require (path = blobPath blobHash && listed.all (fun known => known.blobHash ≠ blobHash))
    "backup blob path is invalid or duplicated"
  let some sha256 := (entry.text "sha256").filter isBlobHash
    | .error (.backup "backup blob checksum is invalid")
  let some size := ((lookup (pyStr "size") entry).bind asInt).filter (0 ≤ ·)
    | .error (.backup "backup blob size is invalid")
  require ((listed.map (·.size)).sum + size ≤ maxBackupBytes) "backup exceeds the byte bound"
  pure (listed ++ [⟨path, blobHash, sha256, size⟩])

/-- `_validate_blob_entries` -/
def validateBlobEntries (manifest : Dict F) : Checked (List BlobEntry) := do
  let some blobs := manifest.dict "blobs" | .error (.backup "backup blob manifest is missing")
  let some (.arr entries) := lookup (pyStr "entries") blobs
    | .error (.backup "backup blob manifest is missing")
  require (entries.length ≤ maxBackupBlobs &&
    (lookup (pyStr "count") blobs).any (equalsInt entries.length))
    "backup blob count is out of bounds"
  let listed ← entries.foldlM validateEntry []
  require ((lookup (pyStr "bytes") blobs).any (equalsInt (listed.map (·.size)).sum))
    "backup blob byte count is invalid"
  pure listed

/-- `_schema_signature` -/
def schemaSignature (F : Type) [FloatFormat F] (database : ArchivedDatabase) : Checked PyStr := do
  let rows := database.schema.map (fun row =>
    (Json.arr [.str row.1, .str row.2.1, .str row.2.2] : Json F))
  let encoded ← canonical (.arr rows)
  pure (hexDigest encoded)

/-- `_referenced_blobs`, as a set. -/
def referencedBlobs (database : ArchivedDatabase) : Checked (List PyStr) :=
  database.versions.mapM (fun row => match row.blobHash with
    | some blobHash => if isBlobHash blobHash then .ok blobHash
        else .error (.backup "invalid blob hash")
    | none => .error (.backup "invalid blob hash"))

/-- `_table_counts(db) == counts` -/
def countsEqual (counts : List (PyStr × Nat)) (value : Option (Json F)) : Bool :=
  match value with
  | some (.obj entries) => entries.length = counts.length &&
      counts.all (fun count => (lookup count.1 entries).any (equalsInt count.2))
  | _ => false

/-- `sorted(tenants) == scope` -/
def scopeEquals (tenants : List PyStr) (value : Option (Json F)) : Bool :=
  match value with
  | some (.arr items) => items.map (fun item => match item with
      | .str tenant => some tenant
      | _ => none) = (tenants.mergeSort (· ≤ ·)).map some
  | _ => false

/-- The checks of the database; the result is the set of blobs it refers to. -/
def inspectDatabase (tools : Tools) (manifest : Dict F) (data : Bytes)
    (expectedScope : Option (List PyStr)) : Checked (ArchivedDatabase × List PyStr) := do
  let some described := manifest.dict "database"
    | .error (.backup "backup database manifest is missing")
  require ((lookup (pyStr "size") described).any (equalsInt data.length) &&
    described.text "sha256" = some (hexDigest data)) "backup metadata checksum does not match"
  let some database := tools.openDatabase data
    | .error (.backup "backup metadata cannot be opened")
  require database.quickCheck "metadata SQLite quick_check failed"
  require (!database.foreignKeyErrors) "metadata SQLite foreign_key_check failed"
  let signature ← schemaSignature F database
  require (described.text "schema_signature" = some signature)
    "backup metadata schema signature does not match"
  require (countsEqual database.tableCounts (lookup (pyStr "table_counts") described))
    "backup metadata table counts do not match"
  require (scopeEquals database.tenants (lookup (pyStr "tenant_scope") described))
    "backup tenant scope does not match metadata"
  require (expectedScope.all (fun scope => database.tenants.all (· ∈ scope) &&
    scope.all (· ∈ database.tenants))) "backup tenant scope does not match restore request"
  let referenced ← referencedBlobs database
  pure (database, referenced)

/-- `_inspect_extracted` -/
def inspectExtracted (tools : Tools) (files : List (PyStr × Bytes)) (manifest : Dict F)
    (expectedScope : Option (List PyStr)) : Checked Unit := do
  let some data := lookup databaseName files
    | .error (.backup "backup metadata database is missing or unsafe")
  let (_, referenced) ← inspectDatabase tools manifest data expectedScope
  let entries ← validateBlobEntries manifest
  require (files.all (fun file => file.1 = databaseName || entries.any (·.path = file.1)))
    "backup payload contains an unexpected file"
  require (entries.all (·.blobHash ∈ referenced) &&
    referenced.all (fun blobHash => entries.any (·.blobHash = blobHash)))
    "backup blob references do not match metadata"
  require (entries.all (fun entry => (lookup entry.path files).isSome))
    "backup payload files do not match manifest"
  require (entries.all (fun entry => (lookup entry.path files).any (fun data =>
    data.length = entry.size && hexDigest data = entry.sha256)))
    "backup blob checksum does not match"

/-! ### Verification -/

/-- `backup_[0-9a-f]{32}` -/
def isBackupId (text : PyStr) : Bool :=
  text.take 7 = pyStr "backup_" && (text.drop 7).length = 32 && (text.drop 7).all isLowerHex

/-- The part of `_verified_extract` before the inspection: the manifest and the
files of the archive. -/
def openArchive (tools : Tools) (provider : Option KeyProvider) (directory : BackupDirectory)
    (expected : Expected) (recoveryKeyRef : Option PyStr) :
    Checked (Dict F × List (PyStr × Bytes)) := do
  let (manifest, encoded) ← loadManifest directory provider
  require (directory.names.all (· ∈ [manifestName, payloadName]) &&
    manifestName ∈ directory.names && payloadName ∈ directory.names)
    "backup has unexpected or missing top-level entries"
  let some backupId := (manifest.text "backup_id").filter isBackupId
    | .error (.backup "backup identity is invalid")
  require (expected.backupId.all (fun id => backupId = id))
    "backup identity does not match restore request"
  let some keys := manifest.dict "keys" | .error (.backup "backup key references are missing")
  let _ ← keyRefOf (keys.text "backup_key_ref") "backup key reference"
  let dataKey ← unwrapDataKey tools manifest provider recoveryKeyRef
  let tar ← decryptPayload tools directory manifest encoded dataKey
  let files ← extractPayload (tools.openTar tar)
  pure (manifest, files)

/-- The recovery key the caller expects, under either of its two names. -/
def Expected.recoveryRef (expected : Expected) : Checked (Option PyStr) :=
  match expected.keyId with
  | none => .ok expected.recoveryKeyRef
  | some keyId => do
      require (expected.recoveryKeyRef.all (fun recoveryRef => keyId = recoveryRef))
        "conflicting recovery-key identities"
      pure (some keyId)

/-- `verify_backup`; the result is the manifest. -/
def verifyBackup (tools : Tools) (provider : Option KeyProvider) (directory : BackupDirectory)
    (expected : Expected) : Checked (Dict F) := do
  let recoveryRef ← expected.recoveryRef
  let (manifest, files) ← openArchive tools provider directory expected recoveryRef
  inspectExtracted tools files manifest expected.tenantScope
  pure manifest

end Code

end FolioLattice.Backup
