/-
The report of the monitor: when there is one, and when it says that backups are ready.
-/

import FolioLattice.BackupOps.Monitor

namespace FolioLattice.BackupOps

open FolioLattice.Text FolioLattice.Data FolioLattice.Relational
open FolioLattice.Effects (except_bind_ok except_bind_pass)

/-! ### Conditions on what the adapters return -/

/-- Every configured condition on the key custody. -/
structure KeyFit (config : BackupOperationsConfig) (status : KeyCustodyStatus) : Prop where
  provider : status.provider = config.keyAdapterId
  ready : status.ready = true
  hosted : config.requireHosted = true → status.hosted = true
  active : ∀ purpose, ∃ version, status.active purpose = some version ∧
    version ∈ status.accepted purpose
  expectedBackup : ∀ version, config.expectedBackupKeyVersion = some version →
    status.active .backup = some version
  expectedRecovery : ∀ version, config.expectedRecoveryKeyVersion = some version →
    status.active .recovery = some version

/-- Every configured condition on the backup store. -/
structure StoreFit (config : BackupOperationsConfig) (status : BackupStoreStatus) : Prop where
  provider : status.provider = config.storeAdapterId
  ready : status.ready = true
  hosted : config.requireHosted = true → status.hosted = true
  immutable : status.immutable = true
  overwriteProtected : status.overwriteProtected = true
  deleteProtected : status.deleteProtected = true

variable {O : Type} [Runtime O]

/-- `latest` and `inspect` name one backup, and the record of it is accepted. -/
def ImmutableBackupStore.Vouches (store : ImmutableBackupStore O)
    (record : StoredBackup (PyObject O)) : Prop :=
  ∃ candidate candidateId inspected inspectedId, store.latest = .ok candidate ∧
    candidate ≠ .none ∧ backupId candidate = .ok candidateId ∧
    store.inspect candidateId = .ok inspected ∧ backupId inspected = .ok inspectedId ∧
    Runtime.same inspectedId candidateId = .ok true ∧ validRecord inspected = .ok record

/-- The record is young enough, retained, and under keys that are accepted. -/
structure RecordFit (config : BackupOperationsConfig) (total : TotalSeconds) (checkedAt : UtcTime)
    (status : KeyCustodyStatus) (record : StoredBackup (PyObject O)) : Prop where
  age : ∃ createdAt, utc record.createdAt "backup created_at" = .ok createdAt ∧
    0 ≤ total.seconds (checkedAt.micros - createdAt.micros) ∧
    total.seconds (checkedAt.micros - createdAt.micros) ≤
      (min config.maxBackupAgeSeconds config.scheduleIntervalSeconds : Int)
  retained : ∃ retentionUntil, utc record.retentionUntil "backup retention_until" =
    .ok retentionUntil ∧ checkedAt.micros < retentionUntil.micros
  backupVersion : ∃ version, record.backupKeyVersion = .str version ∧
    version ∈ status.accepted .backup
  recoveryVersion : ∃ version, record.recoveryKeyVersion = .str version ∧
    version ∈ status.accepted .recovery

/-- What readiness is to mean. -/
def BackupOperationsMonitor.Relied (monitor : BackupOperationsMonitor O) (total : TotalSeconds)
    (now : DateTime) : Prop :=
  ∃ checkedAt keyStatus storeStatus record,
    utc (.datetime now : PyObject O) "status time" = .ok checkedAt ∧
    monitor.keyChecked = .ok keyStatus ∧ KeyFit monitor.config keyStatus ∧
    monitor.storeChecked = .ok storeStatus ∧ StoreFit monitor.config storeStatus ∧
    monitor.store.Vouches record ∧ RecordFit monitor.config total checkedAt keyStatus record

def PyObject.IsDatetime (value : PyObject O) : Prop := ∃ d, value = .datetime d

/-- The store is asked for its latest backup. -/
def BackupOperationsMonitor.Asks (monitor : BackupOperationsMonitor O) : Prop :=
  ∃ status, monitor.storeChecked = .ok status ∧ status.ready = true ∧
    monitor.config.hostedEnough status.hosted = true

/-- The time of the check has a UTC reading, and no accepted record that the store is
asked for holds a time as a text. -/
structure BackupOperationsMonitor.Reportable (monitor : BackupOperationsMonitor O)
    (now : DateTime) : Prop where
  representable : ∃ checkedAt, utc (.datetime now : PyObject O) "status time" = .ok checkedAt
  converted : monitor.Asks → ∀ record, monitor.store.Vouches record →
    record.createdAt.IsDatetime ∧ record.retentionUntil.IsDatetime

/-! ### Alerts -/

theorem alertIf_nil_iff {condition : Bool} {alert : String} :
    alertIf condition alert = [] ↔ condition = false := by
  cases condition with
  | false => exact ⟨fun _ => rfl, fun _ => rfl⟩
  | true => exact ⟨fun impossible => (List.cons_ne_nil _ _ impossible).elim, fun h => by cases h⟩

theorem rotated_iff {status : KeyCustodyStatus} {purpose : Purpose} :
    status.rotated purpose = true ↔
      ∃ version, status.active purpose = some version ∧ version ∈ status.accepted purpose := by
  unfold KeyCustodyStatus.rotated
  split
  · rename_i missing
    rw [missing]
    simp
  · rename_i active found
    rw [found]
    simp

theorem expectedIs_iff {expected active : Option PyStr} :
    expectedIs expected active = true ↔
      ∀ version, expected = some version → active = some version := by
  unfold expectedIs
  cases expected with
  | none => simp
  | some version => simp

theorem unexpected_iff {expected active : Option PyStr} :
    (expected != none && active != expected) = false ↔
      ∀ version, expected = some version → active = some version := by
  cases expected with
  | none => simp
  | some version => simp

theorem hostedEnough_iff {config : BackupOperationsConfig} {hosted : Bool} :
    config.hostedEnough hosted = true ↔ (config.requireHosted = true → hosted = true) := by
  unfold BackupOperationsConfig.hostedEnough
  cases hosted <;> cases config.requireHosted <;> simp

theorem unhosted_iff {config : BackupOperationsConfig} {hosted : Bool} :
    (config.requireHosted && !hosted) = false ↔ (config.requireHosted = true → hosted = true) := by
  cases hosted <;> cases config.requireHosted <;> simp

theorem forall_purpose {p : Purpose → Prop} : (∀ purpose, p purpose) ↔ p .backup ∧ p .recovery :=
  ⟨fun each => ⟨each .backup, each .recovery⟩, fun both purpose => by
    cases purpose with
    | backup => exact both.1
    | recovery => exact both.2⟩

theorem keyFit_iff {config : BackupOperationsConfig} {status : KeyCustodyStatus} :
    KeyFit config status ↔ ((((status.provider = config.keyAdapterId ∧ status.ready = true) ∧
      (config.requireHosted = true → status.hosted = true)) ∧
      (status.rotated .backup = true ∧ status.rotated .recovery = true)) ∧
      expectedIs config.expectedBackupKeyVersion (status.active .backup) = true) ∧
      expectedIs config.expectedRecoveryKeyVersion (status.active .recovery) = true := by
  rw [expectedIs_iff, expectedIs_iff, rotated_iff, rotated_iff]
  constructor
  · intro fit
    exact ⟨⟨⟨⟨⟨fit.provider, fit.ready⟩, fit.hosted⟩, fit.active .backup, fit.active .recovery⟩,
      fit.expectedBackup⟩, fit.expectedRecovery⟩
  · intro ⟨⟨⟨⟨⟨provider, ready⟩, hosted⟩, active⟩, backup⟩, recovery⟩
    exact ⟨provider, ready, hosted, forall_purpose.mpr active, backup, recovery⟩

/-- The flag of the dependency. -/
theorem keyReady_iff {config : BackupOperationsConfig} {status : KeyCustodyStatus} :
    config.keyReady status = true ↔ KeyFit config status := by
  unfold BackupOperationsConfig.keyReady
  rw [keyFit_iff]
  simp only [Bool.and_eq_true, beq_iff_eq, hostedEnough_iff]

/-- The alerts test the same conditions one by one. -/
theorem keyAlerts_nil_iff {config : BackupOperationsConfig} {status : KeyCustodyStatus} :
    config.keyAlerts status = [] ↔ KeyFit config status := by
  unfold BackupOperationsConfig.keyAlerts rotationAlert
  rw [keyFit_iff]
  simp only [List.append_eq_nil_iff, alertIf_nil_iff, unhosted_iff, unexpected_iff,
    expectedIs_iff, bne_eq_false_iff_eq]
  grind

theorem storeReady_iff {config : BackupOperationsConfig} {status : BackupStoreStatus} :
    config.storeReady status = true ↔ StoreFit config status := by
  unfold BackupOperationsConfig.storeReady
  simp only [Bool.and_eq_true, beq_iff_eq, hostedEnough_iff]
  constructor
  · intro ⟨⟨⟨⟨⟨provider, ready⟩, hosted⟩, immutable⟩, overwrite⟩, delete⟩
    exact ⟨provider, ready, hosted, immutable, overwrite, delete⟩
  · intro fit
    exact ⟨⟨⟨⟨⟨fit.provider, fit.ready⟩, fit.hosted⟩, fit.immutable⟩, fit.overwriteProtected⟩,
      fit.deleteProtected⟩

theorem storeAlerts_nil_iff {config : BackupOperationsConfig} {status : BackupStoreStatus} :
    config.storeAlerts status = [] ↔ StoreFit config status := by
  unfold BackupOperationsConfig.storeAlerts
  simp only [List.append_eq_nil_iff, alertIf_nil_iff, unhosted_iff, bne_eq_false_iff_eq,
    Bool.not_eq_false']
  constructor
  · intro ⟨⟨⟨⟨⟨provider, hosted⟩, ready⟩, immutable⟩, overwrite⟩, delete⟩
    exact ⟨provider, ready, hosted, immutable, overwrite, delete⟩
  · intro fit
    exact ⟨⟨⟨⟨⟨fit.provider, fit.hosted⟩, fit.ready⟩, fit.immutable⟩, fit.overwriteProtected⟩,
      fit.deleteProtected⟩

/-! ### Records -/

omit [Runtime O] in
theorem version_ok {value : PyObject O} {field : String} {text : PyStr}
    (done : version value field = .ok text) : value = .str text := by
  unfold version at done
  split at done
  · split at done
    · cases done
      rfl
    · cases done
  · cases done

/-- An accepted record has texts for its key versions and times that `_utc` reads. -/
theorem validRecord_ok {value : PyObject O} {record : StoredBackup (PyObject O)}
    (valid : validRecord value = .ok record) :
    (∃ text, record.backupKeyVersion = .str text) ∧
      (∃ text, record.recoveryKeyVersion = .str text) ∧
      (∃ time, utc record.createdAt "backup created_at" = .ok time) ∧
      ∃ time, utc record.retentionUntil "backup retention_until" = .ok time := by
  unfold validRecord at valid
  split at valid
  · rename_i fields
    obtain ⟨sound, _, valid⟩ := except_bind_ok valid
    split at valid
    · cases valid
    · obtain ⟨backup, isBackup, valid⟩ := except_bind_ok valid
      obtain ⟨recovery, isRecovery, valid⟩ := except_bind_ok valid
      obtain ⟨createdAt, created, valid⟩ := except_bind_ok valid
      obtain ⟨retentionUntil, retained, valid⟩ := except_bind_ok valid
      split at valid
      · cases valid
      · cases valid
        exact ⟨⟨_, version_ok isBackup⟩, ⟨_, version_ok isRecovery⟩, ⟨_, created⟩, ⟨_, retained⟩⟩
  · cases valid

omit [Runtime O] in
theorem utc_ok {value : PyObject O} {field : String} {time : UtcTime} {parsed : DateTime}
    (done : utc value field = .ok time) (isParsed : readTime value field = .ok parsed) :
    ∃ offset, parsed.offset = some offset ∧ astimezone parsed offset = some time := by
  unfold utc at done
  obtain ⟨parsed', isParsed', done⟩ := except_bind_ok done
  rw [isParsed] at isParsed'
  cases isParsed'
  split at done
  · cases done
  · rename_i offset zoned
    split at done
    · rename_i converted
      cases done
      exact ⟨offset, zoned, converted⟩
    · cases done

omit [Runtime O] in
theorem utc_of {value : PyObject O} {field : String} {time : UtcTime} {parsed : DateTime}
    {offset : Int} (isParsed : readTime value field = .ok parsed)
    (zoned : parsed.offset = some offset) (converted : astimezone parsed offset = some time) :
    utc value field = .ok time := by
  refine except_bind_pass isParsed ?_
  simp only [zoned, converted]
  rfl

/-- What `_utc` reads can be converted again just when it is a `datetime`. -/
theorem astimezoneOf_ok_iff {value : PyObject O} {field : String} {time : UtcTime}
    (read : utc value field = .ok time) :
    (∃ time', astimezoneOf value = .ok time') ↔ value.IsDatetime := by
  constructor
  · intro ⟨time', converted⟩
    unfold astimezoneOf at converted
    split at converted
    · exact ⟨_, rfl⟩
    · cases converted
  · intro ⟨d, same⟩
    subst same
    obtain ⟨offset, zoned, converted⟩ := utc_ok read rfl
    refine ⟨time, ?_⟩
    unfold astimezoneOf
    simp only [zoned, Option.getD_some, converted]

theorem public_ok_iff {record : StoredBackup (PyObject O)}
    (createdAt : ∃ time, utc record.createdAt "backup created_at" = .ok time)
    (retentionUntil : ∃ time, utc record.retentionUntil "backup retention_until" = .ok time) :
    (∃ shown, record.public = .ok shown) ↔
      record.createdAt.IsDatetime ∧ record.retentionUntil.IsDatetime := by
  obtain ⟨_, created⟩ := createdAt
  obtain ⟨_, retained⟩ := retentionUntil
  rw [← astimezoneOf_ok_iff created, ← astimezoneOf_ok_iff retained]
  constructor
  · intro ⟨shown, done⟩
    obtain ⟨first, isFirst, done⟩ := except_bind_ok done
    obtain ⟨second, isSecond, _⟩ := except_bind_ok done
    exact ⟨⟨first, isFirst⟩, second, isSecond⟩
  · intro ⟨⟨first, isFirst⟩, second, isSecond⟩
    exact ⟨_, except_bind_pass isFirst (except_bind_pass isSecond rfl)⟩

/-! ### The latest backup -/

theorem inspectLatest_some_iff {store : ImmutableBackupStore O}
    {record : StoredBackup (PyObject O)} :
    store.inspectLatest = .ok (some record) ↔ store.Vouches record := by
  unfold ImmutableBackupStore.inspectLatest ImmutableBackupStore.Vouches
  constructor
  · intro done
    obtain ⟨candidate, latest, done⟩ := except_bind_ok done
    split at done
    · cases done
    · rename_i named
      obtain ⟨candidateId, isCandidate, done⟩ := except_bind_ok done
      obtain ⟨inspected, isInspected, done⟩ := except_bind_ok done
      obtain ⟨inspectedId, isId, done⟩ := except_bind_ok done
      obtain ⟨same, isSame, done⟩ := except_bind_ok done
      cases same with
      | false => cases done
      | true =>
          obtain ⟨found, valid, done⟩ := except_bind_ok done
          cases done
          exact ⟨candidate, candidateId, inspected, inspectedId, latest, named, isCandidate,
            isInspected, isId, isSame, valid⟩
  · intro ⟨candidate, candidateId, inspected, inspectedId, latest, named, isCandidate, isInspected,
      isId, isSame, valid⟩
    refine except_bind_pass latest ?_
    split
    · exact absurd rfl named
    · refine except_bind_pass isCandidate (except_bind_pass isInspected (except_bind_pass isId
        (except_bind_pass isSame ?_)))
      exact except_bind_pass valid rfl

section Monitor

variable {monitor : BackupOperationsMonitor O} {alerts after : List String}

theorem latestBackup_some_iff {status : BackupStoreStatus} {failed : Bool}
    {latest : Option (StoredBackup (PyObject O))} {record : StoredBackup (PyObject O)}
    (taken : monitor.latestBackup status alerts = (latest, failed, after)) :
    latest = some record ↔ (status.ready = true ∧
      monitor.config.hostedEnough status.hosted = true) ∧ monitor.store.Vouches record := by
  rw [← inspectLatest_some_iff, ← Bool.and_eq_true]
  unfold BackupOperationsMonitor.latestBackup at taken
  split at taken
  · rename_i asked
    split at taken
    · rename_i nothing
      cases taken
      simp [nothing]
    · rename_i found isFound
      cases taken
      simp [isFound, asked]
    · rename_i raised failed
      cases taken
      simp [failed]
  · rename_i unasked
    cases taken
    simp [unasked]

/-- Without alerts a record was found. -/
theorem latestBackup_nil_iff {status : BackupStoreStatus} {failed : Bool}
    {latest : Option (StoredBackup (PyObject O))}
    (taken : monitor.latestBackup status alerts = (latest, failed, after)) :
    after = [] ↔ alerts = [] ∧ failed = false ∧ latest ≠ none := by
  unfold BackupOperationsMonitor.latestBackup at taken
  split at taken
  · split at taken
    · cases taken
      simp
    · cases taken
      simp
    · cases taken
      have alerted : alerts = [] → alertIf (!alerts.contains "backup_missing")
          "backup_store_check_failed" ≠ [] := by
        intro none_
        subst none_
        exact List.cons_ne_nil _ _
      simp only [List.append_eq_nil_iff, Bool.true_eq_false, false_and, and_false, iff_false]
      rintro ⟨⟨none_, quiet⟩, _⟩
      exact alerted none_ quiet
  · cases taken
    simp

theorem keyStatus_nil_iff {status : KeyCustodyStatus}
    (taken : monitor.keyStatus alerts = (status, after)) :
    after = [] ↔ alerts = [] ∧ monitor.keyChecked = .ok status ∧ KeyFit monitor.config status := by
  unfold BackupOperationsMonitor.keyStatus at taken
  split at taken
  · rename_i raised
    cases taken
    simp [raised]
  · rename_i found isFound
    cases taken
    rw [List.append_eq_nil_iff, keyAlerts_nil_iff, isFound]
    simp

theorem storeStatus_nil_iff {status : BackupStoreStatus}
    (taken : monitor.storeStatus alerts = (status, after)) :
    after = [] ↔
      alerts = [] ∧ monitor.storeChecked = .ok status ∧ StoreFit monitor.config status := by
  unfold BackupOperationsMonitor.storeStatus at taken
  split at taken
  · rename_i raised
    cases taken
    simp [raised]
  · rename_i found isFound
    cases taken
    rw [List.append_eq_nil_iff, storeAlerts_nil_iff, isFound]
    simp

theorem storeStatus_asks_iff {status : BackupStoreStatus}
    (taken : monitor.storeStatus alerts = (status, after)) :
    (status.ready = true ∧ monitor.config.hostedEnough status.hosted = true) ↔ monitor.Asks := by
  unfold BackupOperationsMonitor.Asks
  unfold BackupOperationsMonitor.storeStatus at taken
  split at taken
  · rename_i raised
    cases taken
    simp [raised, unavailableStoreStatus]
  · rename_i found isFound
    cases taken
    simp [isFound]

end Monitor

/-! ### The age of the record -/

omit [Runtime O] in
theorem notAccepted_iff {value : PyObject O} {accepted : List PyStr} :
    notAccepted value accepted = false ↔ ∃ text, value = .str text ∧ text ∈ accepted := by
  unfold notAccepted
  split
  · simp
  · rename_i other
    constructor
    · intro impossible
      cases impossible
    · intro ⟨text, same, _⟩
      exact absurd same (other text)

theorem adapters_validated {config : BackupOperationsConfig} (validated : config.validate = .ok ()) :
    config.maxBackupAgeSeconds ≤ config.rpoSeconds := by
  unfold BackupOperationsConfig.validate at validated
  obtain ⟨_, _, validated⟩ := except_bind_ok validated
  obtain ⟨_, _, validated⟩ := except_bind_ok validated
  obtain ⟨_, _, validated⟩ := except_bind_ok validated
  split at validated
  · cases validated
  · rename_i fine
    exact Int.not_lt.mp fine

/-- The bound on the recovery point is implied by the bound on the age. -/
theorem ageAlerts_nil_iff {config : BackupOperationsConfig} (validated : config.validate = .ok ())
    {age : ℚ} : (config.ageAlerts age).2 = [] ↔ 0 ≤ age ∧
      age ≤ (min config.maxBackupAgeSeconds config.scheduleIntervalSeconds : Int) := by
  have implied : (config.maxBackupAgeSeconds : ℚ) ≤ config.rpoSeconds :=
    Int.cast_le.mpr (adapters_validated validated)
  unfold BackupOperationsConfig.ageAlerts
  split
  · rename_i negative
    simp [not_le.mpr negative]
  · rename_i positive
    simp only [List.append_eq_nil_iff, alertIf_nil_iff, decide_eq_false_iff_not, not_lt,
      Int.cast_min, le_min_iff]
    constructor
    · intro ⟨⟨young, _⟩, due⟩
      exact ⟨not_lt.mp positive, young, due⟩
    · intro ⟨_, young, due⟩
      exact ⟨⟨young, young.trans implied⟩, due⟩

omit [Runtime O] in
theorem recordAlerts_nil_iff {config : BackupOperationsConfig} {total : TotalSeconds}
    {checkedAt : UtcTime} {status : KeyCustodyStatus} {record : StoredBackup (PyObject O)}
    {age : Option ℚ} {alerts : List String} (validated : config.validate = .ok ())
    (taken : config.recordAlerts total checkedAt record status = .ok (age, alerts)) :
    alerts = [] ↔ RecordFit config total checkedAt status record := by
  unfold BackupOperationsConfig.recordAlerts at taken
  obtain ⟨createdAt, created, taken⟩ := except_bind_ok taken
  obtain ⟨retentionUntil, retained, taken⟩ := except_bind_ok taken
  cases taken
  rw [List.append_eq_nil_iff, List.append_eq_nil_iff, ageAlerts_nil_iff validated]
  unfold rotationVersionAlerts
  rw [List.append_eq_nil_iff, alertIf_nil_iff, alertIf_nil_iff, alertIf_nil_iff, notAccepted_iff,
    notAccepted_iff, decide_eq_false_iff_not, not_le]
  constructor
  · intro ⟨⟨young, kept⟩, backup, recovery⟩
    exact ⟨⟨createdAt, created, young⟩, ⟨retentionUntil, retained, kept⟩, backup, recovery⟩
  · intro fit
    obtain ⟨_, created', young⟩ := fit.age
    obtain ⟨_, retained', kept⟩ := fit.retained
    rw [created] at created'
    rw [retained] at retained'
    cases created'
    cases retained'
    exact ⟨⟨young, kept⟩, fit.backupVersion, fit.recoveryVersion⟩

omit [Runtime O] in
theorem recordAlerts_of {config : BackupOperationsConfig} {total : TotalSeconds}
    {checkedAt : UtcTime} {status : KeyCustodyStatus} {record : StoredBackup (PyObject O)}
    (createdAt : ∃ time, utc record.createdAt "backup created_at" = .ok time)
    (retentionUntil : ∃ time, utc record.retentionUntil "backup retention_until" = .ok time) :
    ∃ aged, config.recordAlerts total checkedAt record status = .ok aged := by
  obtain ⟨_, created⟩ := createdAt
  obtain ⟨_, retained⟩ := retentionUntil
  exact ⟨_, except_bind_pass created (except_bind_pass retained rfl)⟩

/-! ### The report -/

theorem eraseDups_isEmpty {alerts : List String} : alerts.eraseDups.isEmpty = alerts.isEmpty := by
  cases alerts with
  | nil => rfl
  | cons alert rest =>
      rw [List.eraseDups_cons]
      rfl

/-- What a report is made of. -/
structure Surveyed (monitor : BackupOperationsMonitor O) (total : TotalSeconds) (now : DateTime)
    (report : BackupReport O) (keyStatus : KeyCustodyStatus) (storeStatus : BackupStoreStatus)
    (latest : Option (StoredBackup (PyObject O))) (failed : Bool)
    (keyAlerts storeAlerts checkAlerts ageAlerts : List String) : Prop where
  key : monitor.keyStatus [] = (keyStatus, keyAlerts)
  store : monitor.storeStatus keyAlerts = (storeStatus, storeAlerts)
  check : monitor.latestBackup storeStatus storeAlerts = (latest, failed, checkAlerts)
  age : ∃ checkedAt, utc (.datetime now : PyObject O) "status time" = .ok checkedAt ∧
    ∀ record, latest = some record → ∃ age,
      monitor.config.recordAlerts total checkedAt record keyStatus = .ok (age, ageAlerts)
  shown : ∃ shown, publicLatest latest = .ok shown
  ready : report.ready = true ↔ checkAlerts = [] ∧ ageAlerts = []
  keyReady : report.keyCustody.ready = monitor.config.keyReady keyStatus
  storeReady : report.backupStore.ready = (monitor.config.storeReady storeStatus && !failed)

theorem status_surveyed {monitor : BackupOperationsMonitor O} {total : TotalSeconds}
    {now : DateTime} {report : BackupReport O} (done : monitor.status total now = .ok report) :
    ∃ keyStatus storeStatus latest failed keyAlerts storeAlerts checkAlerts ageAlerts,
      Surveyed monitor total now report keyStatus storeStatus latest failed keyAlerts storeAlerts
        checkAlerts ageAlerts := by
  unfold BackupOperationsMonitor.status at done
  obtain ⟨checkedAt, checked, done⟩ := except_bind_ok done
  split at done
  rename_i keyStatus keyAlerts key
  split at done
  rename_i storeStatus storeAlerts store
  split at done
  rename_i latest failed checkAlerts check
  obtain ⟨aged, age, done⟩ := except_bind_ok done
  obtain ⟨shown, isShown, done⟩ := except_bind_ok done
  cases done
  refine ⟨keyStatus, storeStatus, latest, failed, keyAlerts, storeAlerts, checkAlerts, aged.2,
    key, store, check, ⟨checkedAt, checked, ?_⟩, ⟨shown, isShown⟩, ?_, rfl, rfl⟩
  · intro record found
    subst found
    exact ⟨aged.1, age⟩
  · change (checkAlerts ++ aged.2).eraseDups.isEmpty = true ↔ _
    rw [eraseDups_isEmpty, List.isEmpty_iff, List.append_eq_nil_iff]

section Report

variable {monitor : BackupOperationsMonitor O} {total : TotalSeconds} {now : DateTime}

/-- The store is asked for a record just when one is found. -/
theorem found_iff {report : BackupReport O} {keyStatus : KeyCustodyStatus}
    {storeStatus : BackupStoreStatus} {latest : Option (StoredBackup (PyObject O))} {failed : Bool}
    {keyAlerts storeAlerts checkAlerts ageAlerts : List String}
    (surveyed : Surveyed monitor total now report keyStatus storeStatus latest failed keyAlerts
      storeAlerts checkAlerts ageAlerts) {record : StoredBackup (PyObject O)} :
    latest = some record ↔ monitor.Asks ∧ monitor.store.Vouches record := by
  rw [latestBackup_some_iff surveyed.check, storeStatus_asks_iff surveyed.store]

theorem status_reportable {report : BackupReport O}
    (done : monitor.status total now = .ok report) : monitor.Reportable now := by
  obtain ⟨keyStatus, storeStatus, latest, failed, keyAlerts, storeAlerts, checkAlerts, ageAlerts,
    surveyed⟩ := status_surveyed done
  obtain ⟨checkedAt, checked, _⟩ := surveyed.age
  refine ⟨⟨checkedAt, checked⟩, ?_⟩
  intro asks record vouches
  have found := (found_iff surveyed).mpr ⟨asks, vouches⟩
  obtain ⟨shown, isShown⟩ := surveyed.shown
  subst found
  obtain ⟨public_, isPublic, _⟩ := except_bind_ok isShown
  obtain ⟨_, _, inspected, _, _, _, _, _, _, _, valid⟩ := vouches
  obtain ⟨_, _, created, retained⟩ := validRecord_ok valid
  exact (public_ok_iff created retained).mp ⟨public_, isPublic⟩

theorem status_of_reportable (total : TotalSeconds) (reportable : monitor.Reportable now) :
    ∃ report, monitor.status total now = .ok report := by
  obtain ⟨⟨checkedAt, checked⟩, converted⟩ := reportable
  unfold BackupOperationsMonitor.status
  refine Exists.imp (fun _ later => except_bind_pass checked later) ?_
  split
  rename_i keyStatus keyAlerts key
  split
  rename_i storeStatus storeAlerts store
  split
  rename_i latest failed checkAlerts check
  cases latest with
  | none => exact ⟨_, rfl⟩
  | some record =>
      obtain ⟨asks, vouches⟩ := (latestBackup_some_iff check).mp rfl
      rw [storeStatus_asks_iff store] at asks
      obtain ⟨_, _, inspected, _, _, _, _, _, _, _, valid⟩ := id vouches
      obtain ⟨_, _, created, retained⟩ := validRecord_ok valid
      obtain ⟨aged, isAged⟩ := recordAlerts_of created retained
      obtain ⟨shown, isShown⟩ := (public_ok_iff created retained).mpr (converted asks record vouches)
      have isPublic : publicLatest (some record) = .ok (some shown) :=
        except_bind_pass isShown rfl
      exact ⟨_, except_bind_pass isAged (except_bind_pass isPublic rfl)⟩

/-- A report says that backups are ready just when they may be relied on. -/
theorem status_ready_iff {report : BackupReport O}
    (done : monitor.status total now = .ok report) :
    report.ready = true ↔ monitor.Relied total now := by
  obtain ⟨keyStatus, storeStatus, latest, failed, keyAlerts, storeAlerts, checkAlerts, ageAlerts,
    surveyed⟩ := status_surveyed done
  obtain ⟨checkedAt, checked, aged⟩ := surveyed.age
  rw [surveyed.ready, latestBackup_nil_iff surveyed.check, storeStatus_nil_iff surveyed.store,
    keyStatus_nil_iff surveyed.key]
  constructor
  · intro ⟨⟨⟨⟨_, key, keyFit⟩, store, storeFit⟩, _, found⟩, young⟩
    obtain ⟨record, isRecord⟩ := Option.ne_none_iff_exists'.mp found
    obtain ⟨age, isAged⟩ := aged record isRecord
    exact ⟨checkedAt, keyStatus, storeStatus, record, checked, key, keyFit, store, storeFit,
      ((found_iff surveyed).mp isRecord).2, (recordAlerts_nil_iff monitor.validated isAged).mp young⟩
  · intro ⟨checkedAt', keyStatus', storeStatus', record, checked', key, keyFit, store, storeFit,
      vouches, fit⟩
    rw [checked] at checked'
    cases checked'
    have asks : monitor.Asks :=
      ⟨storeStatus', store, storeFit.ready, hostedEnough_iff.mpr storeFit.hosted⟩
    have isRecord := (found_iff surveyed).mpr ⟨asks, vouches⟩
    obtain ⟨age, isAged⟩ := aged record isRecord
    have sameKey : keyStatus = keyStatus' := by
      have taken := surveyed.key
      unfold BackupOperationsMonitor.keyStatus at taken
      rw [key] at taken
      exact (congrArg Prod.fst taken).symm
    have sameStore : storeStatus = storeStatus' := by
      have taken := surveyed.store
      unfold BackupOperationsMonitor.storeStatus at taken
      rw [store] at taken
      exact (congrArg Prod.fst taken).symm
    subst sameKey sameStore
    have unfailed : failed = false := by
      have taken := surveyed.check
      unfold BackupOperationsMonitor.latestBackup at taken
      rw [inspectLatest_some_iff.mpr vouches, if_pos] at taken
      · exact (congrArg (fun found => found.2.1) taken).symm
      · rw [storeFit.ready, hostedEnough_iff.mpr storeFit.hosted]
        rfl
    refine ⟨⟨⟨⟨rfl, key, keyFit⟩, store, storeFit⟩, unfailed, ?_⟩, ?_⟩
    · rw [isRecord]
      exact Option.some_ne_none record
    · exact (recordAlerts_nil_iff monitor.validated isAged).mpr fit

/-- Readiness implies both flags of the dependencies. -/
theorem status_dependencies {report : BackupReport O}
    (done : monitor.status total now = .ok report) (ready : report.ready = true) :
    report.keyCustody.ready = true ∧ report.backupStore.ready = true := by
  obtain ⟨keyStatus, storeStatus, latest, failed, keyAlerts, storeAlerts, checkAlerts, ageAlerts,
    surveyed⟩ := status_surveyed done
  obtain ⟨checkQuiet, _⟩ := surveyed.ready.mp ready
  obtain ⟨storeQuiet, unfailed, _⟩ := (latestBackup_nil_iff surveyed.check).mp checkQuiet
  obtain ⟨keyQuiet, _, storeFit⟩ := (storeStatus_nil_iff surveyed.store).mp storeQuiet
  obtain ⟨_, _, keyFit⟩ := (keyStatus_nil_iff surveyed.key).mp keyQuiet
  rw [surveyed.keyReady, surveyed.storeReady, unfailed]
  exact ⟨keyReady_iff.mpr keyFit, Bool.and_eq_true_iff.mpr ⟨storeReady_iff.mpr storeFit, rfl⟩⟩

end Report

/-- Readiness is reported, and coherently, just when the times of an accepted record can be
shown and the time of the check has a UTC reading. -/
theorem readiness_coherent_iff (monitor : BackupOperationsMonitor O) (total : TotalSeconds)
    (now : DateTime) :
    (∃ report, monitor.status total now = .ok report ∧
      (report.ready = true ↔ monitor.Relied total now) ∧
      (report.ready = true → report.keyCustody.ready = true ∧ report.backupStore.ready = true)) ↔
      monitor.Reportable now := by
  constructor
  · intro ⟨report, done, _⟩
    exact status_reportable done
  · intro reportable
    obtain ⟨report, done⟩ := status_of_reportable total reportable
    exact ⟨report, done, status_ready_iff done, status_dependencies done⟩

/-! ### A record whose time is a text -/

theorem seconds_monotone (m n : Int) (le : m ≤ n) : (m / 1000000 : ℚ) ≤ n / 1000000 := by
  have cast : (m : ℚ) ≤ n := Int.cast_le.mpr le
  linarith

theorem seconds_whole (n : Int) : ((n * 1000000 : Int) : ℚ) / 1000000 = n := by
  rw [Int.cast_mul]
  exact mul_div_cancel_right₀ _ (by decide)

/-- Without rounding. -/
def TotalSeconds.exact : TotalSeconds :=
  ⟨fun micros => micros / 1000000, seconds_monotone, seconds_whole⟩

/-- No objects of other types. -/
instance emptyRuntime : Runtime Empty where
  text
    | .str value => .ok value
    | _ => .error .other
  truth object := object.elim
  backupId object := object.elim
  same
    | .str left, .str right => .ok (decide (left = right))
    | _, _ => .ok false
  localOffset _ := 0
  text_str _ := rfl
  same_str _ _ := rfl

def exampleConfig : BackupOperationsConfig where
  scheduleIntervalSeconds := 900
  rpoSeconds := 3600
  maxBackupAgeSeconds := 1800
  keyAdapterId := pyStr "kms"
  storeAdapterId := pyStr "worm"
  expectedBackupKeyVersion := none
  expectedRecoveryKeyVersion := none
  requireHosted := true

theorem exampleConfig_validated : exampleConfig.validate = .ok () := by decide

def exampleNow : DateTime := ⟨2026, 9, 17, 12, 0, 30, 0, some 0⟩

/-- A record as it is read back from JSON: the time is what `isoformat` printed. -/
def textRecord : StoredBackup (PyObject Empty) where
  backupId := .str (pyStr "backup_" ++ List.replicate 32 (codePoint '0'))
  createdAt := .str (pyStr "2026-09-17T12:00:00+00:00")
  sizeBytes := .int 128
  sha256 := .str (List.replicate 64 (codePoint 'a'))
  backupKeyVersion := .str (pyStr "v2")
  recoveryKeyVersion := .str (pyStr "v2")
  retentionUntil := .datetime ⟨2026, 10, 17, 12, 0, 0, 0, some 0⟩
  exists_ := .bool true
  integrityVerified := .bool true
  immutable := .bool true
  overwriteProtected := .bool true
  deleteProtected := .bool true

def exampleVersions (versions : PyObject Empty) : PyObject Empty :=
  .mapping [(.str (pyStr "backup"), versions), (.str (pyStr "recovery"), versions)]

def exampleMonitor : BackupOperationsMonitor Empty where
  config := exampleConfig
  keyReadiness := .ok (.keyStatus ⟨.str (pyStr "kms"), .bool true, .bool true,
    exampleVersions (.str (pyStr "v2")), exampleVersions (.sequence [.str (pyStr "v2")]), .none,
    .none⟩)
  store := {
    readiness := .ok (.storeStatus ⟨.str (pyStr "worm"), .bool true, .bool true, .bool true,
      .bool true, .bool true, .none⟩)
    latest := .ok (.storedBackup textRecord)
    inspect := fun _ => .ok (.storedBackup textRecord) }
  validated := exampleConfig_validated

theorem textRecord_valid : validRecord (.storedBackup textRecord) = .ok textRecord := by
  have sound : soundRecord textRecord = .ok true := by rfl
  have backup : version textRecord.backupKeyVersion "backup key version" = .ok (pyStr "v2") := by
    rfl
  have recovery : version textRecord.recoveryKeyVersion "recovery key version" =
      .ok (pyStr "v2") := by rfl
  have created : readTime textRecord.createdAt "backup created_at" =
      .ok ⟨2026, 9, 17, 12, 0, 0, 0, some 0⟩ := by rfl
  have createdMicros : (astimezone ⟨2026, 9, 17, 12, 0, 0, 0, some 0⟩ 0).map UtcTime.micros =
      some 63925329600000000 := by decide
  have retainedMicros : (astimezone ⟨2026, 10, 17, 12, 0, 0, 0, some 0⟩ 0).map UtcTime.micros =
      some 63927921600000000 := by decide
  obtain ⟨createdAt, isCreated, createdMicros⟩ := Option.map_eq_some_iff.mp createdMicros
  obtain ⟨retentionUntil, isRetained, retainedMicros⟩ := Option.map_eq_some_iff.mp retainedMicros
  refine except_bind_pass sound (except_bind_pass backup (except_bind_pass recovery
    (except_bind_pass (utc_of created rfl isCreated)
      (except_bind_pass (utc_of rfl rfl isRetained) ?_))))
  rw [createdMicros, retainedMicros]
  rfl

theorem exampleMonitor_vouches : exampleMonitor.store.Vouches textRecord := by
  refine ⟨.storedBackup textRecord, textRecord.backupId, .storedBackup textRecord,
    textRecord.backupId, rfl, nofun, rfl, rfl, rfl, ?_, textRecord_valid⟩
  exact (emptyRuntime.same_str _ _).trans (congrArg Except.ok (decide_eq_true rfl))

/-- The record is accepted, and no report comes of it. -/
theorem readiness_not_reported :
    ¬∀ (monitor : BackupOperationsMonitor Empty) (total : TotalSeconds) (now : DateTime),
      now.offset ≠ none →
      ∃ report, monitor.status total now = .ok report ∧
        (report.ready = true ↔ monitor.Relied total now) ∧
        (report.ready = true →
          report.keyCustody.ready = true ∧ report.backupStore.ready = true) := by
  intro always
  obtain ⟨report, done, _⟩ :=
    always exampleMonitor TotalSeconds.exact exampleNow (Option.some_ne_none 0)
  have asks : exampleMonitor.Asks := ⟨_, rfl, rfl, rfl⟩
  obtain ⟨⟨d, same⟩, _⟩ :=
    (status_reportable done).converted asks textRecord exampleMonitor_vouches
  cases same

end FolioLattice.BackupOps
