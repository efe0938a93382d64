/-
Health checks, call fences and revocations of external connections, statement by
statement: when a revoked connection stays as it is.
-/

import FolioLattice.External.Registry
import FolioLattice.Concurrency.Interleaving

namespace FolioLattice.External

open FolioLattice.Text FolioLattice.Data FolioLattice.Store FolioLattice.Concurrency

/-! ### Calls and their steps -/

inductive ExternalCall where
  | recordHealth (caller : Caller) (status : String)
  /-- `ExternalMcpBroker.health` -/
  | health (caller : Caller) (probe : Bool)
  | fence (caller : Caller)
  | revoke (caller : Caller) (reason : String)

/-- Who runs a fence or records a health: the broker's health check or another caller. -/
inductive Mode where
  | broker
  | service

/-- Where a call stands.  Inside a transaction that writes, `draft` is the registry
as the transaction sees it. -/
inductive ExternalThread where
  | health (caller : Caller) (probe : Bool)
  | fencing (mode : Mode) (caller : Caller)
  | fenceBegun (mode : Mode) (caller : Caller)
  | fenced (mode : Mode) (caller : Caller)
  | recording (mode : Mode) (caller : Caller) (status : String)
  | recordRead (mode : Mode) (caller : Caller) (status : HealthStatus)
  | recordUpdated (mode : Mode) (caller : Caller) (status : HealthStatus) (draft : Registry)
  | recordAudited (mode : Mode) (caller : Caller) (draft : Registry)
  | reporting (caller : Caller)
  | revoking (caller : Caller) (reason : String)
  | revokeBegun (caller : Caller)
  | revokeRead (caller : Caller)
  /-- `written` is the time that the UPDATE wrote, when it ran -/
  | revokeUpdated (caller : Caller) (written : Option String) (draft : Registry)
  | revokeAudited (caller : Caller) (written : Option String) (draft : Registry)
  | revokeReported (caller : Caller) (written : Option String) (draft : Registry)
      (row : ConnectionRow)
  | revoked (caller : Caller) (written : Option String) (row : ConnectionRow)
  | finished
  | raised

def ExternalCall.begin : ExternalCall → ExternalThread
  | .recordHealth caller status => .recording .service caller status
  | .health caller probe => .health caller probe
  | .fence caller => .fencing .service caller
  | .revoke caller reason => .revoking caller reason

/-- The thread's transaction has the database's write lock. -/
def ExternalThread.holds : ExternalThread → Bool
  | .fenceBegun .. | .fenced .. | .recordUpdated .. | .recordAudited .. | .revokeBegun ..
  | .revokeRead .. | .revokeUpdated .. | .revokeAudited .. | .revokeReported .. => true
  | _ => false

def ExternalThread.running : ExternalThread → Bool
  | .revoked .. | .finished | .raised => false
  | _ => true

/-- The committed registry, and whether a transaction has the write lock. -/
structure ExternalDb where
  registry : Registry
  locked : Bool

def Caller.validate (caller : Caller) : Except Failure Unit := do
  validateText "tenant_id" caller.tenantId maxNameLength
  validateText "actor" caller.actor maxNameLength

/-- `status in {"healthy", "unhealthy"}` -/
def HealthStatus.recorded (text : String) : Option HealthStatus :=
  [HealthStatus.healthy, .unhealthy].find? (fun status => status.name = text)

def healthEntry (status : HealthStatus) : AuditEntry :=
  ⟨"health_check", status.name, unspecifiedReason, none⟩

def revokeEntry (written : Option String) : AuditEntry :=
  ⟨"revoke", if written.isSome then "revoked" else "already_revoked", unspecifiedReason, none⟩

/-- One statement of a call.  Outside a transaction a statement sees what has been
committed and takes no lock. -/
inductive ExternalStep (F : Type) [FloatFormat F] : ThreadStep ExternalDb ExternalThread where
  | healthStatus {db : ExternalDb} {c : Caller} {connection : Connection F}
      (valid : c.validate = .ok ())
      (read : externalRow F db.registry c.tenantId c.connectionId = .ok connection) :
      ExternalStep F db (.health c false) db (.reporting c)
  | healthProbe {db : ExternalDb} {c : Caller} {connection : Connection F}
      (valid : c.validate = .ok ())
      (read : externalRow F db.registry c.tenantId c.connectionId = .ok connection)
      (active : connection.row.status = .active) :
      ExternalStep F db (.health c true) db (.fencing .broker c)
  /-- the credential cannot be had -/
  | healthUnready {db : ExternalDb} {c : Caller} {connection : Connection F}
      (valid : c.validate = .ok ())
      (read : externalRow F db.registry c.tenantId c.connectionId = .ok connection)
      (active : connection.row.status = .active) :
      ExternalStep F db (.health c true) db (.recording .broker c "unhealthy")
  /-- `BEGIN IMMEDIATE` -/
  | fenceBegin {db : ExternalDb} {m : Mode} {c : Caller} (free : db.locked = false) :
      ExternalStep F db (.fencing m c) { db with locked := true } (.fenceBegun m c)
  | fenceBusy {db : ExternalDb} {c : Caller} :
      ExternalStep F db (.fencing .broker c) db (.recording .broker c "unhealthy")
  | fenceSelect {db : ExternalDb} {m : Mode} {c : Caller} {connection : Connection F}
      (read : externalRow F db.registry c.tenantId c.connectionId = .ok connection)
      (active : connection.row.status = .active) :
      ExternalStep F db (.fenceBegun m c) db (.fenced m c)
  | fenceRefused {db : ExternalDb} {c : Caller}
      (refused : ∀ connection, externalRow F db.registry c.tenantId c.connectionId = .ok connection →
        connection.row.status ≠ .active) :
      ExternalStep F db (.fenceBegun .broker c) { db with locked := false }
        (.recording .broker c "unhealthy")
  | fenceEnd {db : ExternalDb} {c : Caller} :
      ExternalStep F db (.fenced .service c) { db with locked := false } .finished
  /-- the transport has answered, or raised -/
  | fenceProbed {db : ExternalDb} {c : Caller} {status : HealthStatus} (known : status ≠ .unknown) :
      ExternalStep F db (.fenced .broker c) { db with locked := false }
        (.recording .broker c status.name)
  | recordSelect {db : ExternalDb} {m : Mode} {c : Caller} {text : String} {status : HealthStatus}
      {connection : Connection F} (known : HealthStatus.recorded text = some status)
      (read : externalRow F db.registry c.tenantId c.connectionId = .ok connection)
      (live : connection.row.status ≠ .revoked) :
      ExternalStep F db (.recording m c text) db (.recordRead m c status)
  /-- the UPDATE begins the transaction -/
  | recordUpdate {db : ExternalDb} {m : Mode} {c : Caller} {status : HealthStatus} (now : String)
      (free : db.locked = false) :
      ExternalStep F db (.recordRead m c status) { db with locked := true }
        (.recordUpdated m c status (db.registry.setHealth c status now))
  | recordAudit {db : ExternalDb} {m : Mode} {c : Caller} {status : HealthStatus}
      {draft draft' : Registry} (uuid : Uuid) (now : String)
      (written : writeExternalAudit draft c (healthEntry status) uuid now = .ok draft') :
      ExternalStep F db (.recordUpdated m c status draft) db (.recordAudited m c draft')
  | recordCommit {db : ExternalDb} {c : Caller} {draft : Registry} :
      ExternalStep F db (.recordAudited .service c draft) ⟨draft, false⟩ .finished
  | recordCommitBroker {db : ExternalDb} {c : Caller} {draft : Registry} :
      ExternalStep F db (.recordAudited .broker c draft) ⟨draft, false⟩ (.reporting c)
  | report {db : ExternalDb} {c : Caller} {connection : Connection F}
      (valid : c.validate = .ok ())
      (read : externalRow F db.registry c.tenantId c.connectionId = .ok connection) :
      ExternalStep F db (.reporting c) db .finished
  | revokeBegin {db : ExternalDb} {c : Caller} {reason : String}
      (valid : validateText "actor" c.actor maxNameLength = .ok ())
      (validReason : validateText "reason" reason maxReasonLength = .ok ())
      (free : db.locked = false) :
      ExternalStep F db (.revoking c reason) { db with locked := true } (.revokeBegun c)
  | revokeSelect {db : ExternalDb} {c : Caller} {connection : Connection F}
      (read : externalRow F db.registry c.tenantId c.connectionId = .ok connection)
      (active : connection.row.status = .active) :
      ExternalStep F db (.revokeBegun c) db (.revokeRead c)
  | revokeAlready {db : ExternalDb} {c : Caller} {connection : Connection F}
      (read : externalRow F db.registry c.tenantId c.connectionId = .ok connection)
      (gone : connection.row.status = .revoked) :
      ExternalStep F db (.revokeBegun c) db (.revokeUpdated c none db.registry)
  | revokeUpdate {db : ExternalDb} {c : Caller} (now : String) :
      ExternalStep F db (.revokeRead c) db
        (.revokeUpdated c (some now) (db.registry.setRevoked c now))
  | revokeAudit {db : ExternalDb} {c : Caller} {written : Option String} {draft draft' : Registry}
      (uuid : Uuid) (now : String)
      (inserted : writeExternalAudit draft c (revokeEntry written) uuid now = .ok draft') :
      ExternalStep F db (.revokeUpdated c written draft) db (.revokeAudited c written draft')
  | revokeReread {db : ExternalDb} {c : Caller} {written : Option String} {draft : Registry}
      {connection : Connection F}
      (read : externalRow F draft c.tenantId c.connectionId = .ok connection) :
      ExternalStep F db (.revokeAudited c written draft) db
        (.revokeReported c written draft connection.row)
  | revokeCommit {db : ExternalDb} {c : Caller} {written : Option String} {draft : Registry}
      {row : ConnectionRow} :
      ExternalStep F db (.revokeReported c written draft row) ⟨draft, false⟩
        (.revoked c written row)
  /-- a call raises, or its process ends: what it has not committed is rolled back -/
  | raise {db : ExternalDb} {thread : ExternalThread} (running : thread.running = true) :
      ExternalStep F db thread { db with locked := db.locked && !thread.holds } .raised

def externalStart {ι : Type} (registry : Registry) (calls : ι → ExternalCall) :
    Config ι ExternalDb ExternalThread :=
  ⟨⟨registry, false⟩, fun i => (calls i).begin⟩

/-! ### The write lock -/

section Runs

variable {F : Type} [FloatFormat F]

/-- The recorder's UPDATE of this connection finds it not revoked. -/
def Timely (tenantId connectionId : String) (db : ExternalDb) : ExternalThread → Prop
  | .recordUpdated _ c _ _ => c.tenantId = tenantId → c.connectionId = connectionId →
      ∀ row, db.registry.select tenantId connectionId = some row → row.status ≠ .revoked
  | _ => True

/-- The statements, where no UPDATE of a health comes after a revocation. -/
def TimelyStep (F : Type) [FloatFormat F] (tenantId connectionId : String) :
    ThreadStep ExternalDb ExternalThread :=
  fun db thread db' thread' =>
    ExternalStep F db thread db' thread' ∧ Timely tenantId connectionId db thread'

theorem ExternalStep.lock :
    Lock (ExternalStep F) (fun db => db.locked = true) (fun thread => thread.holds = true)
      ExternalDb.registry where
  taken := by
    intro db thread db' thread' step idle held
    cases step with
    | fenceBegin free | recordUpdate _ free | revokeBegin _ _ free => simp [free]
    | raise _ => cases held
    | _ => first | exact absurd rfl idle | cases held
  held := by
    intro db thread db' thread' step locked held
    cases step <;> first | exact locked | exact rfl | cases held
  shut := by
    intro db thread db' thread' step idle held
    cases step <;> first | exact rfl | exact absurd rfl idle | cases held
  others := by
    intro db thread db' thread' step idle locked
    cases step with
    | raise _ =>
        change (db.locked && !thread.holds) = true
        rw [locked, (Bool.not_eq_true _).mp idle]
        rfl
    | _ => first | exact locked | exact rfl | exact absurd rfl idle
  guarded := by
    intro db thread db' thread' step idle
    cases step <;> first | rfl | exact absurd rfl idle

theorem TimelyStep.lock {tenantId connectionId : String} :
    Lock (TimelyStep F tenantId connectionId) (fun db => db.locked = true)
      (fun thread => thread.holds = true) ExternalDb.registry where
  taken := fun _ _ _ _ step => ExternalStep.lock.taken _ _ _ _ step.1
  held := fun _ _ _ _ step => ExternalStep.lock.held _ _ _ _ step.1
  shut := fun _ _ _ _ step => ExternalStep.lock.shut _ _ _ _ step.1
  others := fun _ _ _ _ step => ExternalStep.lock.others _ _ _ _ step.1
  guarded := fun _ _ _ _ step => ExternalStep.lock.guarded _ _ _ _ step.1

/-! ### What a transaction's draft is -/

/-- What the revocation's SELECT saw, by whether its UPDATE ran. -/
def RevokeReads (registry : Registry) (c : Caller) (written : Option String) : Prop :=
  ∃ row, registry.select c.tenantId c.connectionId = some row ∧
    row.status = if written.isSome then .active else .revoked

def Registry.revokeIf (registry : Registry) (c : Caller) : Option String → Registry
  | none => registry
  | some now => registry.setRevoked c now

/-- How a transaction's draft comes from what is committed, and what its statements
have seen. -/
def Drafted (tenantId connectionId : String) (registry : Registry) : ExternalThread → Prop
  | .recordUpdated _ c status draft =>
      Timely tenantId connectionId ⟨registry, true⟩ (.recordUpdated .service c status draft) ∧
        ∃ now, draft = registry.setHealth c status now
  | .recordAudited _ c draft => ∃ status now entry,
      Timely tenantId connectionId ⟨registry, true⟩ (.recordUpdated .service c status draft) ∧
        draft = { registry.setHealth c status now with audit := registry.audit ++ [entry] } ∧
        entry.tenantId = c.tenantId ∧ entry.connectionId = c.connectionId
  | .revokeRead c => RevokeReads registry c (some "")
  | .revokeUpdated c written draft => RevokeReads registry c written ∧
      draft = registry.revokeIf c written
  | .revokeAudited c written draft => RevokeReads registry c written ∧ ∃ entry,
      draft = { registry.revokeIf c written with audit := registry.audit ++ [entry] } ∧
        entry.action = "revoke"
  | .revokeReported c written draft row => (RevokeReads registry c written ∧ ∃ entry,
      draft = { registry.revokeIf c written with audit := registry.audit ++ [entry] } ∧
        entry.action = "revoke") ∧ draft.select c.tenantId c.connectionId = some row
  | _ => True

theorem Drafted.step {tenantId connectionId : String} {db db' : ExternalDb}
    {thread thread' : ExternalThread}
    (drafted : thread.holds = true → db.locked = true ∧
      Drafted tenantId connectionId db.registry thread)
    (step : TimelyStep F tenantId connectionId db thread db' thread')
    (held : thread'.holds = true) : Drafted tenantId connectionId db'.registry thread' := by
  obtain ⟨taken, timely⟩ := step
  cases taken with
  | @recordUpdate _ _ c status now free => exact ⟨timely, now, rfl⟩
  | @recordAudit _ _ c status draft draft' uuid now written =>
      obtain ⟨_, inTime, time, isDraft⟩ := drafted rfl
      have isNew := writeExternalAudit_ok written
      rw [isDraft] at isNew
      exact ⟨status, time, _, inTime, isNew, rfl, rfl⟩
  | revokeSelect read active => exact ⟨_, externalRow_ok read, active⟩
  | revokeAlready read gone => exact ⟨⟨_, externalRow_ok read, gone⟩, rfl⟩
  | revokeUpdate now =>
      obtain ⟨_, row, found, active⟩ := drafted rfl
      exact ⟨⟨row, found, active⟩, rfl⟩
  | @revokeAudit _ c written draft draft' uuid now inserted =>
      obtain ⟨_, reads, isDraft⟩ := drafted rfl
      have isNew := writeExternalAudit_ok inserted
      rw [isDraft] at isNew
      refine ⟨reads, .of c (revokeEntry written) uuid now, ?_, rfl⟩
      rw [isNew]
      cases written <;> rfl
  | revokeReread read =>
      obtain ⟨_, audited⟩ := drafted rfl
      exact ⟨audited, externalRow_ok read⟩
  | fenceBegin | fenceSelect | revokeBegin => exact trivial
  | _ => cases held

variable {ι : Type} [DecidableEq ι] {registry : Registry} {calls : ι → ExternalCall}
  {config mid : Config ι ExternalDb ExternalThread} {past later : List (Event ι ExternalDb)}
  {tenantId connectionId : String}

omit [DecidableEq ι] in
theorem begin_idle (call : ExternalCall) : ¬call.begin.holds = true := by
  cases call <;> exact Bool.false_ne_true

/-- Throughout a run every draft comes from what is committed. -/
theorem drafted (run : Run (TimelyStep F tenantId connectionId) (externalStart registry calls)
      past config) (i : ι) (held : (config.threads i).holds = true) :
    Drafted tenantId connectionId config.shared.registry (config.threads i) :=
  ((Run.locked TimelyStep.lock (fun _ _ _ _ known step now => Drafted.step known step now) run
    (fun i => begin_idle (calls i))).1 i held).2

/-! ### A revoked connection stays as it is -/

def Registry.healthChecks (registry : Registry) (tenantId connectionId : String) :
    List ExternalAuditRow :=
  registry.audit.filter (fun entry => entry.tenantId = tenantId &&
    entry.connectionId = connectionId && entry.action = "health_check")

/-- The connection is revoked, its row and its health checks are these. -/
structure Settled (tenantId connectionId : String) (row : ConnectionRow)
    (checks : List ExternalAuditRow) (registry : Registry) : Prop where
  found : registry.select tenantId connectionId = some row
  revoked : row.status = .revoked
  checks : registry.healthChecks tenantId connectionId = checks

omit [DecidableEq ι] in
theorem healthChecks_append {registry : Registry} {connections : List ConnectionRow}
    {entry : ExternalAuditRow} (other : ¬(entry.tenantId = tenantId ∧
      entry.connectionId = connectionId ∧ entry.action = "health_check")) :
    Registry.healthChecks ⟨connections, registry.audit ++ [entry]⟩ tenantId connectionId =
      registry.healthChecks tenantId connectionId := by
  unfold Registry.healthChecks
  rw [List.filter_append, List.filter_cons_of_neg, List.filter_nil, List.append_nil]
  simpa [and_assoc] using other

theorem select_revokeIf_other {registry : Registry} {c : Caller} (written : Option String)
    (other : ¬(c.tenantId = tenantId ∧ c.connectionId = connectionId)) :
    (registry.revokeIf c written).select tenantId connectionId =
      registry.select tenantId connectionId := by
  cases written with
  | none => rfl
  | some now => exact registry.select_setRevoked_other now other

/-- Committing a revocation changes no connection that is revoked already. -/
theorem Settled.revoke {row : ConnectionRow} {checks : List ExternalAuditRow} {registry : Registry}
    (settled : Settled tenantId connectionId row checks registry) {c : Caller}
    {written : Option String} (reads : RevokeReads registry c written) {entry : ExternalAuditRow}
    (action : entry.action = "revoke") :
    Settled tenantId connectionId row checks
      { registry.revokeIf c written with audit := registry.audit ++ [entry] } where
  found := by
    change (registry.revokeIf c written).select tenantId connectionId = some row
    by_cases target : c.tenantId = tenantId ∧ c.connectionId = connectionId
    · obtain ⟨seen, found, status⟩ := reads
      rw [target.1, target.2, settled.found] at found
      cases found
      cases written with
      | none => exact settled.found
      | some now =>
          rw [settled.revoked] at status
          cases status
    · rw [select_revokeIf_other written target]
      exact settled.found
  revoked := settled.revoked
  checks := by
    rw [healthChecks_append]
    · exact settled.checks
    · intro same
      rw [action] at same
      exact absurd same.2.2 (by decide)

/-- Committing a health changes no connection that was revoked when the UPDATE ran. -/
theorem Settled.health {row : ConnectionRow} {checks : List ExternalAuditRow} {registry : Registry}
    (settled : Settled tenantId connectionId row checks registry) {c : Caller}
    {status : HealthStatus} {draft : Registry}
    (timely : Timely tenantId connectionId ⟨registry, true⟩ (.recordUpdated .service c status draft))
    (now : String) {entry : ExternalAuditRow} (sameTenant : entry.tenantId = c.tenantId)
    (sameConnection : entry.connectionId = c.connectionId) :
    Settled tenantId connectionId row checks
      { registry.setHealth c status now with audit := registry.audit ++ [entry] } := by
  have other : ¬(c.tenantId = tenantId ∧ c.connectionId = connectionId) := fun target =>
    timely target.1 target.2 row settled.found settled.revoked
  refine ⟨?_, settled.revoked, ?_⟩
  · change (registry.setHealth c status now).select tenantId connectionId = some row
    rw [registry.select_setHealth_other status now other]
    exact settled.found
  · rw [healthChecks_append]
    · exact settled.checks
    · intro same
      rw [sameTenant, sameConnection] at same
      exact other ⟨same.1, same.2.1⟩

theorem Settled.step {row : ConnectionRow} {checks : List ExternalAuditRow} {db db' : ExternalDb}
    {thread thread' : ExternalThread}
    (settled : Settled tenantId connectionId row checks db.registry)
    (drafted : thread.holds = true → Drafted tenantId connectionId db.registry thread)
    (step : TimelyStep F tenantId connectionId db thread db' thread') :
    Settled tenantId connectionId row checks db'.registry := by
  have healthCommit : ∀ c draft, Drafted tenantId connectionId db.registry
      (.recordAudited .service c draft) → Settled tenantId connectionId row checks draft := by
    rintro c draft ⟨status, now, entry, timely, isDraft, sameTenant, sameConnection⟩
    rw [isDraft]
    exact settled.health timely now sameTenant sameConnection
  cases step.1 with
  | recordCommit => exact healthCommit _ _ (drafted rfl)
  | recordCommitBroker => exact healthCommit _ _ (drafted rfl)
  | revokeCommit =>
      obtain ⟨⟨reads, entry, isDraft, action⟩, _⟩ := drafted rfl
      rw [isDraft]
      exact settled.revoke reads action
  | _ => exact settled

/-- What a committed revocation left stays, whatever runs after it. -/
theorem Settled.run {row : ConnectionRow} {checks : List ExternalAuditRow}
    (before : Run (TimelyStep F tenantId connectionId) (externalStart registry calls) past mid)
    (settled : Settled tenantId connectionId row checks mid.shared.registry)
    (rest : Run (TimelyStep F tenantId connectionId) mid later config) :
    Settled tenantId connectionId row checks config.shared.registry := by
  induction rest with
  | start => exact settled
  | next earlier taken ih => exact ih.step (drafted (before.append earlier) _) taken

/-- What a revocation that commits leaves: the row it found, when that was revoked,
and otherwise the row with its own actor and time. -/
theorem revoke_commits {c : Caller} {written : Option String} {draft : Registry}
    {row : ConnectionRow} {registry : Registry}
    (drafted : Drafted tenantId connectionId registry (.revokeReported c written draft row)) :
    draft.select c.tenantId c.connectionId = some row ∧ row.status = .revoked ∧
      ∃ before, registry.select c.tenantId c.connectionId = some before ∧
        ((written = none ∧ row = before) ∨ (before.status = .active ∧ ∃ now, written = some now ∧
          row = { before with
            status := .revoked, revokedBy := some c.actor, revokedAt := some now })) := by
  obtain ⟨⟨⟨before, found, status⟩, entry, isDraft, _⟩, reported⟩ := drafted
  refine ⟨reported, ?_⟩
  rw [isDraft] at reported
  replace reported : (registry.revokeIf c written).select c.tenantId c.connectionId = some row :=
    reported
  cases written with
  | none =>
      have same : before = row := Option.some.inj (found.symm.trans reported)
      rw [← same]
      exact ⟨status, before, found, Or.inl ⟨rfl, rfl⟩⟩
  | some now =>
      have revoked := registry.select_setRevoked c now
      rw [found] at revoked
      have same := Option.some.inj (reported.symm.trans revoked)
      rw [same]
      exact ⟨rfl, before, found, Or.inr ⟨status, now, rfl, rfl⟩⟩

/-- Once a revocation has committed, the connection's row is for ever the one that the
revocation returned and no health check is added, provided that no UPDATE of a health
ran on the row after a revocation committed; the row keeps who revoked it first. -/
theorem revocation_final (registry : Registry) (calls : ι → ExternalCall) (c : Caller)
    (written : Option String) (row : ConnectionRow) (i : ι) (db : ExternalDb)
    (past later : List (Event ι ExternalDb)) (mid config : Config ι ExternalDb ExternalThread)
    (run : Run (TimelyStep F c.tenantId c.connectionId) (externalStart registry calls) past mid)
    (commits : TimelyStep F c.tenantId c.connectionId mid.shared (mid.threads i) db
      (.revoked c written row))
    (rest : Run (TimelyStep F c.tenantId c.connectionId)
      ⟨db, Function.update mid.threads i (.revoked c written row)⟩ later config) :
    (config.shared.registry.select c.tenantId c.connectionId = some row ∧
      config.shared.registry.healthChecks c.tenantId c.connectionId =
        db.registry.healthChecks c.tenantId c.connectionId) ∧
      row.status = .revoked ∧
      ∃ before, mid.shared.registry.select c.tenantId c.connectionId = some before ∧
        ((written = none ∧ row = before) ∨ (before.status = .active ∧ ∃ now, written = some now ∧
          row = { before with
            status := .revoked, revokedBy := some c.actor, revokedAt := some now })) := by
  have known := drafted run i
  have after := run.next commits
  generalize threadIs : mid.threads i = thread at commits known
  obtain ⟨taken, timely⟩ := commits
  cases taken with
  | revokeCommit =>
      obtain ⟨reported, isRevoked, before⟩ := revoke_commits (known rfl)
      have settled : Settled c.tenantId c.connectionId row
          (Registry.healthChecks _ c.tenantId c.connectionId) _ :=
        ⟨reported, isRevoked, rfl⟩
      have final := settled.run after rest
      exact ⟨⟨final.found, final.checks⟩, isRevoked, before⟩

end Runs

/-! ### A check that comes too late -/

def docsRow : ConnectionRow where
  id := "extconn_00000000000000000000000000000000"
  tenantId := "acme"
  name := "docs"
  endpoint := "https://docs.example/mcp"
  origin := "https://docs.example"
  approvedTools := itemsText Empty ["search"]
  approvedResources := "[]"
  allowedOrigins := itemsText Empty ["https://docs.example"]
  policyJson := "{}"
  credentialRef := none
  status := .active
  healthStatus := .unknown
  lastHealthAt := none
  createdBy := "ann"
  createdAt := "2026-01-01T00:00:00+00:00"
  revokedBy := none
  revokedAt := none
  policyVersion := "external-mcp-v1"

def docsCaller : Caller := ⟨"acme", docsRow.id, "ann"⟩

def revocationTime : String := "2026-01-02T00:00:00+00:00"

def revokedDocs : ConnectionRow :=
  { docsRow with status := .revoked, revokedBy := some "ann", revokedAt := some revocationTime }

def docsRegistry : Registry := ⟨[docsRow], []⟩

/-- A row with the parsed columns of `docsRow`. -/
def docsConnection (row : ConnectionRow) : Connection Empty :=
  ⟨row, ["search"].map pyStr, [], ["https://docs.example"].map pyStr, []⟩

theorem docs_read {row : ConnectionRow} (audit : List ExternalAuditRow)
    (isAt : row.at "acme" docsRow.id = true) (tools : row.approvedTools = docsRow.approvedTools)
    (resources : row.approvedResources = "[]") (origins : row.allowedOrigins = docsRow.allowedOrigins)
    (policy : row.policyJson = "{}") :
    externalRow Empty ⟨[row], audit⟩ "acme" docsRow.id = .ok (docsConnection row) := by
  have emptyList : externalJsonList Empty "[]" = .ok [] := rfl
  have emptyPolicy : externalPolicyDict Empty "{}" = .ok [] := rfl
  have found : Registry.select ⟨[row], audit⟩ "acme" docsRow.id = some row :=
    List.find?_cons_of_pos isAt
  unfold externalRow
  rw [found]
  simp only
  rw [tools, resources, origins, policy, emptyList, emptyPolicy]
  unfold docsRow
  simp only
  rw [externalJsonList_itemsText, externalJsonList_itemsText]
  rfl

def revokeAuditRow : ExternalAuditRow :=
  .of docsCaller (revokeEntry (some revocationTime)) Uuid.nil revocationTime

def revokedRegistry : Registry := ⟨[revokedDocs], [revokeAuditRow]⟩

/-- A revocation next to a health record. -/
def docsCalls : Bool → ExternalCall
  | false => .revoke docsCaller "left the company"
  | true => .recordHealth docsCaller "healthy"

theorem docs_active : externalRow Empty docsRegistry "acme" docsRow.id = .ok (docsConnection docsRow) :=
  docs_read [] (by decide) rfl rfl rfl rfl

/-- The recorder has read the row, and the revocation is about to commit. -/
theorem docs_revoking : ∃ past mid, Run (TimelyStep Empty "acme" docsRow.id)
      (externalStart docsRegistry docsCalls) past mid ∧ mid.shared = ⟨docsRegistry, true⟩ ∧
    mid.threads false =
      .revokeReported docsCaller (some revocationTime) revokedRegistry revokedDocs ∧
    mid.threads true = .recordRead .service docsCaller .healthy := by
  have read := docs_active
  have reread : externalRow Empty revokedRegistry "acme" docsRow.id =
      .ok (docsConnection revokedDocs) :=
    docs_read [revokeAuditRow] (by decide) rfl rfl rfl rfl
  have known : HealthStatus.recorded "healthy" = some .healthy := rfl
  have audited : writeExternalAudit (docsRegistry.setRevoked docsCaller revocationTime) docsCaller
      (revokeEntry (some revocationTime)) Uuid.nil revocationTime = .ok revokedRegistry := rfl
  have one : Run (TimelyStep Empty "acme" docsRow.id) (externalStart docsRegistry docsCalls) _ _ :=
    .next .start (i := true) ⟨.recordSelect known read (by decide), trivial⟩
  have two := one.next (i := false) ⟨.revokeBegin (by decide) (by decide) rfl, trivial⟩
  have three := two.next (i := false) ⟨.revokeSelect read rfl, trivial⟩
  have four := three.next (i := false) ⟨.revokeUpdate revocationTime, trivial⟩
  have five := four.next (i := false) ⟨.revokeAudit Uuid.nil revocationTime audited, trivial⟩
  have six := five.next (i := false) ⟨.revokeReread reread, trivial⟩
  exact ⟨_, _, six, rfl, rfl, rfl⟩

theorem revocation_final_docs : ∃ (past later : List (Event Bool ExternalDb))
    (config : Config Bool ExternalDb ExternalThread),
    Run (TimelyStep Empty "acme" docsRow.id) (externalStart docsRegistry docsCalls) (past ++ later)
      config ∧ config.shared.registry.select "acme" docsRow.id = some revokedDocs ∧
        revokedDocs.status = .revoked := by
  obtain ⟨past, mid, run, shared, revoking, _⟩ := docs_revoking
  have commits : TimelyStep Empty "acme" docsRow.id mid.shared (mid.threads false)
      ⟨revokedRegistry, false⟩ (.revoked docsCaller (some revocationTime) revokedDocs) := by
    rw [revoking]
    exact ⟨.revokeCommit, trivial⟩
  obtain ⟨⟨found, _⟩, isRevoked, _⟩ := revocation_final docsRegistry docsCalls docsCaller
    (some revocationTime) revokedDocs false ⟨revokedRegistry, false⟩ past [] mid _ run commits .start
  refine ⟨past, _, _, run.next commits, ?_, isRevoked⟩
  exact found

/-- The recorder that read the row before the revocation committed updates it after. -/
theorem docs_late (threads : Bool → ExternalThread)
    (reading : threads true = .recordRead .service docsCaller .healthy) :
    ∃ later config, Run (ExternalStep Empty) ⟨⟨revokedRegistry, false⟩, threads⟩ later config ∧
      config.shared.registry.select "acme" docsRow.id ≠ some revokedDocs := by
  have audited : ∃ draft, writeExternalAudit
      (revokedRegistry.setHealth docsCaller .healthy revocationTime) docsCaller
        (healthEntry .healthy) Uuid.one revocationTime = .ok draft ∧
      draft.select "acme" docsRow.id ≠ some revokedDocs :=
    ⟨_, rfl, by decide⟩
  obtain ⟨draft, audited, differs⟩ := audited
  have update : ExternalStep Empty ⟨revokedRegistry, false⟩ (threads true) ⟨revokedRegistry, true⟩
      (.recordUpdated .service docsCaller .healthy
        (revokedRegistry.setHealth docsCaller .healthy revocationTime)) := by
    rw [reading]
    exact .recordUpdate revocationTime rfl
  have one : Run (ExternalStep Empty) ⟨⟨revokedRegistry, false⟩, threads⟩ _ _ :=
    .next .start (i := true) update
  have two := one.next (i := true) (.recordAudit Uuid.one revocationTime audited)
  have three := two.next (i := true) .recordCommit
  exact ⟨_, _, three, differs⟩

theorem revocation_not_final :
    ¬∀ (registry : Registry) (calls : Bool → ExternalCall) (c : Caller) (written : Option String)
      (row : ConnectionRow) (i : Bool) (db : ExternalDb) (past later : List (Event Bool ExternalDb))
      (mid config : Config Bool ExternalDb ExternalThread),
      Run (ExternalStep Empty) (externalStart registry calls) past mid →
        ExternalStep Empty mid.shared (mid.threads i) db (.revoked c written row) →
        Run (ExternalStep Empty) ⟨db, Function.update mid.threads i (.revoked c written row)⟩ later
          config →
        config.shared.registry.select c.tenantId c.connectionId = some row ∧
          config.shared.registry.healthChecks c.tenantId c.connectionId =
            db.registry.healthChecks c.tenantId c.connectionId := by
  intro always
  obtain ⟨past, mid, run, shared, revoking, reading⟩ := docs_revoking
  have commits : ExternalStep Empty mid.shared (mid.threads false)
      ⟨revokedRegistry, false⟩ (.revoked docsCaller (some revocationTime) revokedDocs) := by
    rw [revoking]
    exact .revokeCommit
  have waiting : Function.update mid.threads false
      (.revoked docsCaller (some revocationTime) revokedDocs) true =
        .recordRead .service docsCaller .healthy :=
    (Function.update_of_ne (by decide) _ _).trans reading
  obtain ⟨later, config, rest, differs⟩ := docs_late _ waiting
  exact differs (always docsRegistry docsCalls docsCaller (some revocationTime) revokedDocs false _
    past later mid config (run.mono (fun _ _ _ _ step => step.1)) commits rest).1

end FolioLattice.External
