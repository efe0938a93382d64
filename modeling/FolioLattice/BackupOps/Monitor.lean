/-
Hosted backup operations: what the external adapters return, the checks of it, and
the monitor that reports whether the latest backup may be relied on.
-/

import FolioLattice.Data.JsonNormal
import FolioLattice.Relational.Entries
import FolioLattice.Text.Strings
import FolioLattice.Text.Timestamp
import Mathlib.Data.NNRat.Floor

namespace FolioLattice.BackupOps

open FolioLattice.Text FolioLattice.Data FolioLattice.Relational

/-! ### Objects -/

/-- The fields of a `KeyCustodyStatus`. -/
structure KeyCustodyFields (V : Type) where
  provider : V
  ready : V
  hosted : V
  activeVersions : V
  acceptedVersions : V
  rotationId : V
  detail : V

/-- The fields of a `BackupStoreStatus`. -/
structure BackupStoreFields (V : Type) where
  provider : V
  ready : V
  hosted : V
  immutable : V
  overwriteProtected : V
  deleteProtected : V
  detail : V

structure StoredBackup (V : Type) where
  backupId : V
  createdAt : V
  sizeBytes : V
  sha256 : V
  backupKeyVersion : V
  recoveryKeyVersion : V
  retentionUntil : V
  exists_ : V
  integrityVerified : V
  immutable : V
  overwriteProtected : V
  deleteProtected : V

/-- What an adapter may return; a dataclass does not check the types of its fields. -/
inductive PyObject (O : Type) where
  | none
  | bool (value : Bool)
  | int (value : Int)
  | str (value : PyStr)
  | datetime (value : DateTime)
  /-- a list, a tuple or a set -/
  | sequence (items : List (PyObject O))
  | mapping (entries : List (PyObject O × PyObject O))
  | keyStatus (fields : KeyCustodyFields (PyObject O))
  | storeStatus (fields : BackupStoreFields (PyObject O))
  | storedBackup (fields : StoredBackup (PyObject O))
  | other (object : O)

inductive Raised where
  /-- `BackupOperationsError(message)` -/
  | operations (message : String)
  /-- any other `Exception` -/
  | other
  deriving DecidableEq

abbrev Attempt (α : Type) := Except Raised α

/-- What the interpreter does with objects of other types, and its time zone. -/
class Runtime (O : Type) where
  /-- `str(value)` -/
  text : PyObject O → Attempt PyStr
  /-- `bool(value)` -/
  truth : O → Attempt Bool
  /-- `value.backup_id` -/
  backupId : O → Attempt (PyObject O)
  /-- `left == right` -/
  same : PyObject O → PyObject O → Attempt Bool
  localOffset : DateTime → Int
  text_str : ∀ value, text (.str value) = .ok value
  same_str : ∀ left right, same (.str left) (.str right) = .ok (decide (left = right))

/-- `timedelta.total_seconds()` of so many microseconds: the quotient is rounded to a float. -/
structure TotalSeconds where
  seconds : Int → ℚ
  monotone : ∀ m n : Int, m ≤ n → seconds m ≤ seconds n
  whole : ∀ n : Int, seconds (n * 1000000) = n

variable {O : Type} [Runtime O]

/-- `bool(value)` -/
def truth : PyObject O → Attempt Bool
  | .none => .ok false
  | .bool value => .ok value
  | .int value => .ok (value != 0)
  | .str value => .ok (!value.isEmpty)
  | .sequence items => .ok (!items.isEmpty)
  | .mapping entries => .ok (!entries.isEmpty)
  | .other object => Runtime.truth object
  | _ => .ok true

/-- `value.backup_id` -/
def backupId : PyObject O → Attempt (PyObject O)
  | .storedBackup record => .ok record.backupId
  | .other object => Runtime.backupId object
  | _ => .error .other

/-! ### Patterns -/

def isAsciiAlnum (c : CodePoint) : Bool :=
  (48 ≤ c.val && c.val ≤ 57) || (65 ≤ c.val && c.val ≤ 90) || (97 ≤ c.val && c.val ≤ 122)

def isIdentifierMark (c : CodePoint) : Bool :=
  c.val == 46 || c.val == 95 || c.val == 58 || c.val == 45

/-- `[A-Za-z0-9][A-Za-z0-9._:-]{0,127}` -/
def isIdentifier : PyStr → Bool
  | [] => false
  | c :: rest =>
      isAsciiAlnum c && rest.length ≤ 127 && rest.all (fun c => isAsciiAlnum c || isIdentifierMark c)

/-- `_ADAPTER_ID` -/
def adapterIdPattern (text : PyStr) : Bool := isIdentifier text

/-- `_VERSION` -/
def versionPattern (text : PyStr) : Bool := isIdentifier text

def isLowerHex (c : CodePoint) : Bool :=
  (48 ≤ c.val && c.val ≤ 57) || (97 ≤ c.val && c.val ≤ 102)

/-- `_SHA256` -/
def sha256Pattern (text : PyStr) : Bool := text.length == 64 && text.all isLowerHex

/-- `backup_[0-9a-f]{32}` -/
def backupIdPattern (text : PyStr) : Bool :=
  text.take 7 == pyStr "backup_" && (text.drop 7).length == 32 && (text.drop 7).all isLowerHex

/-- A match of anything but a string is a `TypeError`. -/
def fullmatch (pattern : PyStr → Bool) : PyObject O → Attempt Bool
  | .str value => .ok (pattern value)
  | _ => .error .other

def localAdapterMarkers : List String :=
  ["file", "filesystem", "in-memory", "inmemory", "local", "memory"]

def isLocalAdapter (value : PyStr) : Bool :=
  let folded := casefold (value.map (fun c => Char.ofNat c.val))
  localAdapterMarkers.any (fun marker => folded == marker.toList) ||
    ["local", "memory", "filesystem"].any (fun marker => contains folded marker.toList)

/-- `_adapter_id` -/
def adapterId (value : PyStr) (field : String) : Attempt PyStr :=
  if !adapterIdPattern value then .error (.operations (field ++ " is invalid"))
  else if isLocalAdapter value then
    .error (.operations (field ++ " must identify external hosted custody"))
  else .ok value

/-- `_version` -/
def version (value : PyObject O) (field : String) : Attempt PyStr :=
  match value with
  | .str text =>
      if versionPattern text then .ok text else .error (.operations (field ++ " is invalid"))
  | _ => .error (.operations (field ++ " is invalid"))

/-! ### Times -/

/-- A UTC reading with microseconds. -/
structure UtcTime where
  stamp : Timestamp
  micro : Nat
  microBound : micro < 1000

theorem micro_bound (clock : Int) : (clock % 1000).toNat < 1000 := by omega

/-- `astimezone(UTC)`; `none` is its `OverflowError`. -/
def astimezone (d : DateTime) (offset : Int) : Option UtcTime :=
  (d.utc offset).map (fun stamp => ⟨stamp, ((d.clock - offset) % 1000).toNat, micro_bound _⟩)

/-- Microseconds, for differences and comparisons. -/
def UtcTime.micros (t : UtcTime) : Int :=
  let days := daysBeforeYear t.stamp.year + daysBeforeMonth t.stamp.year t.stamp.month + t.stamp.day
  let seconds := ((days * 24 + t.stamp.hour) * 60 + t.stamp.minute) * 60 + t.stamp.second
  ((seconds * 1000 + t.stamp.milli) * 1000 + t.micro : Nat)

/-- `isoformat()`: the fraction is left out when it is zero. -/
def UtcTime.isoformat (t : UtcTime) : String :=
  let fraction := t.stamp.milli * 1000 + t.micro
  String.ofList (t.stamp.isoChars.take 19 ++
    (if fraction = 0 then []
      else '.' :: threeDigits t.stamp.milli ++ threeDigits t.micro) ++
    ['+', '0', '0', ':', '0', '0'])

/-- The time that `_utc` converts. -/
def readTime (value : PyObject O) (field : String) : Attempt DateTime :=
  match value with
  | .datetime parsed => .ok parsed
  | .str text =>
      -- A surrogate is as good a separator as any other character and wrong elsewhere.
      match fromisoformat (text.map (fun c => Char.ofNat c.val)) with
      | some parsed => .ok parsed
      | none => .error (.operations (field ++ " is invalid"))
  | _ => .error (.operations (field ++ " is invalid"))

/-- `_utc` -/
def utc (value : PyObject O) (field : String) : Attempt UtcTime := do
  let parsed ← readTime value field
  match parsed.offset with
  | none => throw (.operations (field ++ " must include a timezone"))
  | some offset =>
      match astimezone parsed offset with
      | some time => pure time
      | none => throw .other

/-- `value.astimezone(UTC)`, which a string does not have; a naive value is local time. -/
def astimezoneOf : PyObject O → Attempt UtcTime
  | .datetime value =>
      match astimezone value (value.offset.getD (Runtime.localOffset O value)) with
      | some time => .ok time
      | none => .error .other
  | _ => .error .other

/-! ### Statuses -/

structure KeyCustodyStatus where
  provider : PyStr
  ready : Bool
  hosted : Bool
  activeVersions : List (PyStr × PyStr)
  acceptedVersions : List (PyStr × List PyStr)
  rotationId : Option PyStr
  detail : Option PyStr

structure BackupStoreStatus where
  provider : PyStr
  ready : Bool
  hosted : Bool
  immutable : Bool
  overwriteProtected : Bool
  deleteProtected : Bool
  detail : Option PyStr

def isText (key : String) : PyObject O → Bool
  | .str value => value == pyStr key
  | _ => false

/-- `source.get(key)` -/
def get (key : String) (source : List (PyObject O × PyObject O)) : Option (PyObject O) :=
  (source.find? (fun entry => isText key entry.1)).map (·.2)

/-- `value is True` -/
def isTrue : Option (PyObject O) → Bool
  | some (.bool value) => value
  | _ => false

/-- The value if it is a string. -/
def textOrNone : Option (PyObject O) → Option PyStr
  | some (.str value) => some value
  | _ => none

def keySource : PyObject O → Attempt (KeyCustodyFields (Option (PyObject O)))
  | .keyStatus raw =>
      .ok ⟨some raw.provider, some raw.ready, some raw.hosted, some raw.activeVersions,
        some raw.acceptedVersions, some raw.rotationId, some raw.detail⟩
  | .mapping source =>
      .ok ⟨get "provider" source, get "ready" source, get "hosted" source,
        get "active_versions" source, get "accepted_versions" source, get "rotation_id" source,
        get "detail" source⟩
  | _ => .error (.operations "key custody readiness is unavailable")

def coerceAccepted (found : List (PyStr × List PyStr)) :
    PyObject O × PyObject O → Attempt (List (PyStr × List PyStr))
  | (.str purpose, .sequence versions) => do
      let items ← versions.mapM (fun item => version item "accepted key version")
      pure (putEntry purpose items found)
  | _ => .error (.operations "key custody rotation state is invalid")

def coerceActive (found : List (PyStr × PyStr)) (entry : PyObject O × PyObject O) :
    Attempt (List (PyStr × PyStr)) := do
  let purpose ← Runtime.text entry.1
  let active ← version entry.2 "active key version"
  pure (putEntry purpose active found)

/-- `_coerce_key_status` -/
def coerceKeyStatus (raw : PyObject O) : Attempt KeyCustodyStatus := do
  let source ← keySource raw
  match source.activeVersions, source.acceptedVersions with
  | some (.mapping active), some (.mapping accepted) => do
      let acceptedVersions ← accepted.foldlM coerceAccepted []
      let provider ← Runtime.text (source.provider.getD (.str []))
      let activeVersions ← active.foldlM coerceActive []
      pure {
        provider := provider
        ready := isTrue source.ready
        hosted := isTrue source.hosted
        activeVersions := activeVersions
        acceptedVersions := acceptedVersions
        rotationId := textOrNone source.rotationId
        detail := textOrNone source.detail }
  | _, _ => throw (.operations "key custody rotation state is unavailable")

def storeSource : PyObject O → Attempt (BackupStoreFields (Option (PyObject O)))
  | .storeStatus raw =>
      .ok ⟨some raw.provider, some raw.ready, some raw.hosted, some raw.immutable,
        some raw.overwriteProtected, some raw.deleteProtected, some raw.detail⟩
  | .mapping source =>
      .ok ⟨get "provider" source, get "ready" source, get "hosted" source,
        get "immutable" source, get "overwrite_protected" source, get "delete_protected" source,
        get "detail" source⟩
  | _ => .error (.operations "backup store readiness is unavailable")

/-- `_coerce_store_status` -/
def coerceStoreStatus (raw : PyObject O) : Attempt BackupStoreStatus := do
  let source ← storeSource raw
  let provider ← Runtime.text (source.provider.getD (.str []))
  pure {
    provider := provider
    ready := isTrue source.ready
    hosted := isTrue source.hosted
    immutable := isTrue source.immutable
    overwriteProtected := isTrue source.overwriteProtected
    deleteProtected := isTrue source.deleteProtected
    detail := textOrNone source.detail }

/-! ### Records -/

/-- `isinstance(value, int) and value >= 1`; a boolean is an integer. -/
def isPositiveInt : PyObject O → Bool
  | .int value => 1 ≤ value
  | .bool value => value
  | _ => false

/-- Whether all of the values are true, up to the first that is not. -/
def allTrue : List (PyObject O) → Attempt Bool
  | [] => .ok true
  | value :: rest => do
      if ← truth value then allTrue rest else pure false

/-- The existence, integrity and WORM checks of `_valid_record`. -/
def soundRecord (record : StoredBackup (PyObject O)) : Attempt Bool := do
  if !(← fullmatch backupIdPattern record.backupId) then pure false
  else if !isPositiveInt record.sizeBytes then pure false
  else if !(← fullmatch sha256Pattern record.sha256) then pure false
  else
    allTrue [record.exists_, record.integrityVerified, record.immutable,
      record.overwriteProtected, record.deleteProtected]

/-- `_valid_record` -/
def validRecord (record : PyObject O) : Attempt (StoredBackup (PyObject O)) := do
  match record with
  | .storedBackup record => do
      if !(← soundRecord record) then
        throw (.operations "backup store object failed existence/integrity/WORM checks")
      else do
        let _ ← version record.backupKeyVersion "backup key version"
        let _ ← version record.recoveryKeyVersion "recovery key version"
        let createdAt ← utc record.createdAt "backup created_at"
        let retentionUntil ← utc record.retentionUntil "backup retention_until"
        if retentionUntil.micros ≤ createdAt.micros then
          throw (.operations "backup retention_until is invalid")
        else pure record
  | _ => throw (.operations "backup store returned invalid metadata")

/-! ### Configuration -/

structure BackupOperationsConfig where
  scheduleIntervalSeconds : Int
  rpoSeconds : Int
  maxBackupAgeSeconds : Int
  keyAdapterId : PyStr
  storeAdapterId : PyStr
  expectedBackupKeyVersion : Option PyStr
  expectedRecoveryKeyVersion : Option PyStr
  requireHosted : Bool

def positive (name : String) (value : Int) : Attempt Unit :=
  if value < 1 then .error (.operations (name ++ " must be a positive integer")) else .ok ()

def expectedVersion (field : String) : Option PyStr → Attempt Unit
  | none => .ok ()
  | some value =>
      if versionPattern value then .ok () else .error (.operations (field ++ " is invalid"))

def BackupOperationsConfig.validate (config : BackupOperationsConfig) : Attempt Unit := do
  positive "schedule_interval_seconds" config.scheduleIntervalSeconds
  positive "rpo_seconds" config.rpoSeconds
  positive "max_backup_age_seconds" config.maxBackupAgeSeconds
  if config.rpoSeconds < config.maxBackupAgeSeconds then
    throw (.operations "max_backup_age_seconds must not exceed rpo_seconds")
  else do
    let _ ← adapterId config.keyAdapterId "key adapter"
    let _ ← adapterId config.storeAdapterId "backup store adapter"
    expectedVersion "backup key version" config.expectedBackupKeyVersion
    expectedVersion "recovery key version" config.expectedRecoveryKeyVersion

/-! ### The monitor -/

/-- What the calls of the store come to. -/
structure ImmutableBackupStore (O : Type) where
  readiness : Attempt (PyObject O)
  latest : Attempt (PyObject O)
  inspect : PyObject O → Attempt (PyObject O)

structure BackupOperationsMonitor (O : Type) where
  config : BackupOperationsConfig
  /-- `key_custody.readiness()` -/
  keyReadiness : Attempt (PyObject O)
  store : ImmutableBackupStore O
  validated : config.validate = .ok ()

inductive Purpose where
  | backup
  | recovery

def Purpose.name : Purpose → String
  | .backup => "backup"
  | .recovery => "recovery"

def alertIf (condition : Bool) (alert : String) : List String :=
  if condition then [alert] else []

/-- `status.active_versions.get(purpose)` -/
def KeyCustodyStatus.active (status : KeyCustodyStatus) (purpose : Purpose) : Option PyStr :=
  getEntry (pyStr purpose.name) status.activeVersions

/-- `status.accepted_versions.get(purpose, ())` -/
def KeyCustodyStatus.accepted (status : KeyCustodyStatus) (purpose : Purpose) : List PyStr :=
  (getEntry (pyStr purpose.name) status.acceptedVersions).getD []

/-- The active version is one of those accepted. -/
def KeyCustodyStatus.rotated (status : KeyCustodyStatus) (purpose : Purpose) : Bool :=
  match status.active purpose with
  | none => false
  | some active => active ∈ status.accepted purpose

def expectedIs (expected active : Option PyStr) : Bool := expected == none || active == expected

def BackupOperationsConfig.hostedEnough (config : BackupOperationsConfig) (hosted : Bool) : Bool :=
  hosted || !config.requireHosted

/-- `key_ready` -/
def BackupOperationsConfig.keyReady (config : BackupOperationsConfig)
    (status : KeyCustodyStatus) : Bool :=
  status.provider == config.keyAdapterId && status.ready && config.hostedEnough status.hosted &&
    (status.rotated .backup && status.rotated .recovery) &&
    expectedIs config.expectedBackupKeyVersion (status.active .backup) &&
    expectedIs config.expectedRecoveryKeyVersion (status.active .recovery)

def rotationAlert (status : KeyCustodyStatus) (purpose : Purpose) : List String :=
  alertIf (!status.rotated purpose) (purpose.name ++ "_key_rotation_state_invalid")

/-- What `_key_status` appends for a status. -/
def BackupOperationsConfig.keyAlerts (config : BackupOperationsConfig)
    (status : KeyCustodyStatus) : List String :=
  alertIf (status.provider != config.keyAdapterId) "key_custody_adapter_mismatch" ++
    alertIf (config.requireHosted && !status.hosted) "key_custody_not_hosted" ++
    alertIf (!status.ready) "key_custody_not_ready" ++
    (rotationAlert status .backup ++ rotationAlert status .recovery) ++
    alertIf (config.expectedBackupKeyVersion != none &&
      status.active .backup != config.expectedBackupKeyVersion)
      "backup_key_active_version_mismatch" ++
    alertIf (config.expectedRecoveryKeyVersion != none &&
      status.active .recovery != config.expectedRecoveryKeyVersion)
      "recovery_key_active_version_mismatch"

def unavailableKeyStatus : KeyCustodyStatus where
  provider := pyStr "unavailable"
  ready := false
  hosted := false
  activeVersions := []
  acceptedVersions := []
  rotationId := none
  detail := some (pyStr "adapter unavailable")

def BackupOperationsMonitor.keyChecked (monitor : BackupOperationsMonitor O) :
    Attempt KeyCustodyStatus := do
  coerceKeyStatus (← monitor.keyReadiness)

/-- `_key_status` -/
def BackupOperationsMonitor.keyStatus (monitor : BackupOperationsMonitor O)
    (alerts : List String) : KeyCustodyStatus × List String :=
  match monitor.keyChecked with
  | .error _ => (unavailableKeyStatus, alerts ++ ["key_custody_unavailable"])
  | .ok status => (status, alerts ++ monitor.config.keyAlerts status)

/-- `store_ready`, but for a failed check of the latest backup. -/
def BackupOperationsConfig.storeReady (config : BackupOperationsConfig)
    (status : BackupStoreStatus) : Bool :=
  status.provider == config.storeAdapterId && status.ready && config.hostedEnough status.hosted &&
    status.immutable && status.overwriteProtected && status.deleteProtected

/-- What `_store_status` appends for a status. -/
def BackupOperationsConfig.storeAlerts (config : BackupOperationsConfig)
    (status : BackupStoreStatus) : List String :=
  alertIf (status.provider != config.storeAdapterId) "backup_store_adapter_mismatch" ++
    alertIf (config.requireHosted && !status.hosted) "backup_store_not_hosted" ++
    alertIf (!status.ready) "backup_store_not_ready" ++
    alertIf (!status.immutable) "backup_store_not_immutable" ++
    alertIf (!status.overwriteProtected) "backup_store_overwrite_allowed" ++
    alertIf (!status.deleteProtected) "backup_store_delete_allowed"

def unavailableStoreStatus : BackupStoreStatus where
  provider := pyStr "unavailable"
  ready := false
  hosted := false
  immutable := false
  overwriteProtected := false
  deleteProtected := false
  detail := none

def BackupOperationsMonitor.storeChecked (monitor : BackupOperationsMonitor O) :
    Attempt BackupStoreStatus := do
  coerceStoreStatus (← monitor.store.readiness)

/-- `_store_status` -/
def BackupOperationsMonitor.storeStatus (monitor : BackupOperationsMonitor O)
    (alerts : List String) : BackupStoreStatus × List String :=
  match monitor.storeChecked with
  | .error _ => (unavailableStoreStatus, alerts ++ ["backup_store_unavailable"])
  | .ok status => (status, alerts ++ monitor.config.storeAlerts status)

/-- The latest record under inspection; `none` when the store has no backup. -/
def ImmutableBackupStore.inspectLatest (store : ImmutableBackupStore O) :
    Attempt (Option (StoredBackup (PyObject O))) := do
  match ← store.latest with
  | .none => pure none
  | candidate => do
      let candidateId ← backupId candidate
      let inspected ← store.inspect candidateId
      let inspectedId ← backupId inspected
      if !(← Runtime.same inspectedId candidateId) then
        throw (.operations "latest backup identity changed during inspection")
      else do
        let record ← validRecord inspected
        pure (some record)

/-- `isinstance(exc, BackupOperationsError) and str(exc)` -/
def Raised.explained : Raised → Bool
  | .operations message => message != ""
  | .other => false

/-- The latest backup, whether its check failed, and the alerts. -/
def BackupOperationsMonitor.latestBackup (monitor : BackupOperationsMonitor O)
    (status : BackupStoreStatus) (alerts : List String) :
    Option (StoredBackup (PyObject O)) × Bool × List String :=
  if status.ready && monitor.config.hostedEnough status.hosted then
    match monitor.store.inspectLatest with
    | .ok none => (none, false, alerts ++ ["backup_missing"])
    | .ok (some record) => (some record, false, alerts)
    | .error raised =>
        (none, true, alerts ++
          alertIf (!alerts.contains "backup_missing") "backup_store_check_failed" ++
          alertIf raised.explained "backup_integrity_failed")
  else (none, false, alerts ++ ["backup_store_unavailable"])

/-- `version not in accepted` -/
def notAccepted (version : PyObject O) (accepted : List PyStr) : Bool :=
  match version with
  | .str text => text ∉ accepted
  | _ => true

/-- `_check_rotation_versions` -/
def rotationVersionAlerts (record : StoredBackup (PyObject O)) (status : KeyCustodyStatus) :
    List String :=
  alertIf (notAccepted record.backupKeyVersion (status.accepted .backup))
      (Purpose.backup.name ++ "_key_version_mismatch") ++
    alertIf (notAccepted record.recoveryKeyVersion (status.accepted .recovery))
      (Purpose.recovery.name ++ "_key_version_mismatch")

/-- The age that is reported and the alerts about it. -/
def BackupOperationsConfig.ageAlerts (config : BackupOperationsConfig) (ageSeconds : ℚ) :
    Option ℚ × List String :=
  if ageSeconds < 0 then (none, ["backup_timestamp_invalid"])
  else
    (some ageSeconds,
      alertIf (config.maxBackupAgeSeconds < ageSeconds) "backup_stale" ++
        alertIf (config.rpoSeconds < ageSeconds) "backup_rpo_exceeded" ++
        alertIf (config.scheduleIntervalSeconds < ageSeconds) "backup_due")

/-- The checks of a latest backup. -/
def BackupOperationsConfig.recordAlerts (config : BackupOperationsConfig) (total : TotalSeconds)
    (checkedAt : UtcTime) (record : StoredBackup (PyObject O)) (status : KeyCustodyStatus) :
    Attempt (Option ℚ × List String) := do
  let createdAt ← utc record.createdAt "backup created_at"
  let aged := config.ageAlerts (total.seconds (checkedAt.micros - createdAt.micros))
  let retentionUntil ← utc record.retentionUntil "backup retention_until"
  pure (aged.1, aged.2 ++
    alertIf (retentionUntil.micros ≤ checkedAt.micros) "backup_retention_expired" ++
    rotationVersionAlerts record status)

def BackupOperationsConfig.latestAlerts (config : BackupOperationsConfig) (total : TotalSeconds)
    (checkedAt : UtcTime) (latest : Option (StoredBackup (PyObject O)))
    (status : KeyCustodyStatus) : Attempt (Option ℚ × List String) :=
  match latest with
  | none => .ok (none, [])
  | some record => config.recordAlerts total checkedAt record status

/-! ### The report -/

structure KeyCustodyPublic where
  provider : PyStr
  ready : Bool
  hosted : Bool
  activeVersions : List (PyStr × PyStr)
  acceptedVersions : List (PyStr × List PyStr)

structure BackupStorePublic where
  provider : PyStr
  ready : Bool
  hosted : Bool
  immutable : Bool
  overwriteProtected : Bool
  deleteProtected : Bool

structure SchedulerPublic where
  ready : Bool
  intervalSeconds : Int
  rpoSeconds : Int
  maxBackupAgeSeconds : Int

structure Metrics where
  backupReady : Bool
  backupAgeSeconds : ℚ
  backupRpoSeconds : Int
  backupMaxAgeSeconds : Int
  backupScheduleIntervalSeconds : Int
  backupStale : Bool
  backupRpoExceeded : Bool
  backupStoreReady : Bool
  backupKeyCustodyReady : Bool

structure BackupReport (O : Type) where
  status : String
  ready : Bool
  checkedAt : String
  alerts : List String
  keyCustody : KeyCustodyPublic
  backupStore : BackupStorePublic
  scheduler : SchedulerPublic
  /-- the record with its times as texts; `none` stands for `{"ready": False}` -/
  latestBackup : Option (StoredBackup (PyObject O))
  metrics : Metrics

def publicProvider (provider : PyStr) : PyStr :=
  if adapterIdPattern provider then provider else pyStr "invalid"

def isPurpose (purpose : PyStr) : Bool :=
  purpose == pyStr Purpose.backup.name || purpose == pyStr Purpose.recovery.name

/-- `public()`, with the flag of the monitor. -/
def KeyCustodyStatus.public (status : KeyCustodyStatus) (ready : Bool) : KeyCustodyPublic where
  provider := publicProvider status.provider
  ready := ready
  hosted := status.hosted
  activeVersions :=
    status.activeVersions.filter (fun entry => isPurpose entry.1 && versionPattern entry.2)
  acceptedVersions :=
    (status.acceptedVersions.filter (fun entry => isPurpose entry.1)).map
      (fun entry => (entry.1, entry.2.filter versionPattern))

/-- `public()`, with the flag of the monitor. -/
def BackupStoreStatus.public (status : BackupStoreStatus) (ready : Bool) : BackupStorePublic where
  provider := publicProvider status.provider
  ready := ready
  hosted := status.hosted
  immutable := status.immutable
  overwriteProtected := status.overwriteProtected
  deleteProtected := status.deleteProtected

/-- `public()`, which converts both times without `_utc`. -/
def StoredBackup.public (record : StoredBackup (PyObject O)) :
    Attempt (StoredBackup (PyObject O)) := do
  let createdAt ← astimezoneOf record.createdAt
  let retentionUntil ← astimezoneOf record.retentionUntil
  pure { record with
    createdAt := .str (pyStr createdAt.isoformat)
    retentionUntil := .str (pyStr retentionUntil.isoformat) }

def publicLatest (latest : Option (StoredBackup (PyObject O))) :
    Attempt (Option (StoredBackup (PyObject O))) :=
  match latest with
  | none => .ok none
  | some record => do
      let shown ← record.public
      pure (some shown)

/-- `status(now)` -/
def BackupOperationsMonitor.status (monitor : BackupOperationsMonitor O) (total : TotalSeconds)
    (now : DateTime) : Attempt (BackupReport O) := do
  let checkedAt ← utc (.datetime now : PyObject O) "status time"
  let (keyStatus, keyAlerts) := monitor.keyStatus []
  let (storeStatus, storeAlerts) := monitor.storeStatus keyAlerts
  let keyReady := monitor.config.keyReady keyStatus
  let (latest, storeCheckFailed, checkAlerts) := monitor.latestBackup storeStatus storeAlerts
  let aged ← monitor.config.latestAlerts total checkedAt latest keyStatus
  let alerts := (checkAlerts ++ aged.2).eraseDups
  let ready := alerts.isEmpty
  let storeReady := monitor.config.storeReady storeStatus && !storeCheckFailed
  let latestBackup ← publicLatest latest
  pure {
    status := if ready then "ok" else "not_ready"
    ready := ready
    checkedAt := checkedAt.isoformat
    alerts := alerts
    keyCustody := keyStatus.public keyReady
    backupStore := storeStatus.public storeReady
    scheduler := {
      ready := true
      intervalSeconds := monitor.config.scheduleIntervalSeconds
      rpoSeconds := monitor.config.rpoSeconds
      maxBackupAgeSeconds := monitor.config.maxBackupAgeSeconds }
    latestBackup := latestBackup
    metrics := {
      backupReady := ready
      backupAgeSeconds := aged.1.getD (-1)
      backupRpoSeconds := monitor.config.rpoSeconds
      backupMaxAgeSeconds := monitor.config.maxBackupAgeSeconds
      backupScheduleIntervalSeconds := monitor.config.scheduleIntervalSeconds
      backupStale := alerts.contains "backup_stale"
      backupRpoExceeded := alerts.contains "backup_rpo_exceeded"
      backupStoreReady := storeReady
      backupKeyCustodyReady := keyReady } }

end FolioLattice.BackupOps
