/-
The audit rows of HTTP decisions: which calls of `FolioHttpApp._audit` leave a row behind.
What the record refuses is caught, and a log line is all that says so.
-/

import FolioLattice.Audit.Verified
import FolioLattice.Auth.Memberships

namespace FolioLattice.Server

open FolioLattice.Text FolioLattice.Data FolioLattice.Store FolioLattice.Audit FolioLattice.Auth
open FolioLattice.Effects (except_bind_ok)

/-! ### Decisions -/

inductive AuthRoute where
  | start
  | callback
  | logout
  deriving DecidableEq

def AuthRoute.path : AuthRoute → String
  | .start => "/auth/start"
  | .callback => "/auth/callback"
  | .logout => "/auth/logout"

/-- `route.removeprefix('/').replace('/', '_')` -/
def AuthRoute.label (route : AuthRoute) : String :=
  String.ofList ((route.path.toList.drop 1).map (fun c => if c = '/' then '_' else c))

/-- What `_audit` is called for. -/
inductive HttpDecision where
  | authRateLimited (route : AuthRoute)
  | logoutCsrfDenied
  | logoutSucceeded (hadSession : Bool)
  | mcpRequestTooLarge
  | mcpRateLimited
  | mcpConcurrencyLimited
  | mcpTimeout
  deriving DecidableEq

def HttpDecision.event : HttpDecision → String
  | .authRateLimited route => route.label ++ "_rate_limited"
  | .logoutCsrfDenied => "logout_csrf_denied"
  | .logoutSucceeded _ => "logout_succeeded"
  | .mcpRequestTooLarge => "mcp_request_too_large"
  | .mcpRateLimited => "mcp_rate_limited"
  | .mcpConcurrencyLimited => "mcp_concurrency_limited"
  | .mcpTimeout => "mcp_timeout"

def HttpDecision.outcome : HttpDecision → String
  | .logoutSucceeded hadSession => if hadSession then "revoked" else "no_session"
  | _ => "denied"

def HttpDecision.status : HttpDecision → Nat
  | .authRateLimited _ => 429
  | .logoutCsrfDenied => 403
  | .logoutSucceeded _ => 204
  | .mcpRequestTooLarge => 413
  | .mcpRateLimited => 429
  | .mcpConcurrencyLimited => 429
  | .mcpTimeout => 504

def HttpDecision.path : HttpDecision → String
  | .authRateLimited route => route.path
  | .logoutCsrfDenied => "/auth/logout"
  | .logoutSucceeded _ => "/auth/logout"
  | _ => "/mcp"

/-! ### The call -/

/-- Who a request acts as. -/
structure Identity where
  tenantId : String
  actorId : String
  deriving DecidableEq

/-- The identity of a local deployment. -/
structure LocalIdentity where
  tenantId : Option String
  actorId : Option String
  deriving DecidableEq

def correlationHeader : Bytes := asciiBytes "x-correlation-id".toList

/-- `dict(headers).get(name, b"")`: of two headers of a name the last counts. -/
def headerValue (headers : List (Bytes × Bytes)) (name : Bytes) : Bytes :=
  ((headers.reverse.find? (fun header => header.1 = name)).map (·.2)).getD []

/-- `value.decode("ascii", "ignore")` -/
def decodeAsciiIgnore (value : Bytes) : List Char :=
  (value.filter (fun byte => byte.toNat < 0x80)).map (fun byte => Char.ofNat byte.toNat)

/-- The correlation id that the client gives. -/
def givenCorrelation (headers : List (Bytes × Bytes)) : String :=
  String.ofList (decodeAsciiIgnore (headerValue headers correlationHeader))

/-- Left out, too long, or with a space or a control character. -/
def unusable (correlationId : String) : Bool :=
  correlationId.toList.isEmpty || 255 < correlationId.length ||
    correlationId.toList.any (fun c => c.toNat < 0x21 || c.toNat = 0x7F)

/-- One call of `_audit`: the request, what it is called for and what it draws. -/
structure AuditedCall where
  localIdentity : LocalIdentity
  principal : Option Identity
  headers : List (Bytes × Bytes)
  decision : HttpDecision
  requestId : Uuid
  draw : EventDraw
  tenantAt : Timestamp

namespace AuditedCall

variable (call : AuditedCall)

def givenTenant : Option String :=
  match call.principal with
  | some principal => some principal.tenantId
  | none => call.localIdentity.tenantId

def givenActor : Option String :=
  match call.principal with
  | some principal => some principal.actorId
  | none => call.localIdentity.actorId

def tenantId : String := orElse call.givenTenant "unknown"

def actorId : String := orElse call.givenActor "unknown"

def correlationId : String :=
  if unusable (givenCorrelation call.headers) then call.requestId.hex
  else givenCorrelation call.headers

def statusDetails (F : Type) : List (PyStr × Json F) :=
  [(pyStr "status_code", .int call.decision.status)]

variable (F : Type) [FloatFormat F] (settings : Settings)

def request : AuditRequest F where
  tenantId := call.tenantId
  actorId := call.actorId
  action := call.decision.event
  outcome := call.decision.outcome
  requestId := some call.requestId.hex
  correlationId := some call.correlationId
  resourceType := "http_route"
  resourceId := (some call.decision.path).filter (fun path => path ≠ "")
  reason := call.decision.event
  policyVersion := auditSchemaVersion
  source := "http"
  details := some ⟨call.statusDetails F, statusDetails_distinct⟩
  retentionClass := "security"

/-- The tables after the call: whatever `record_audit_event` raises is caught. -/
def after (db : Database) : Database :=
  match recordAuditEvent settings call.draw call.tenantAt (call.request F) db with
  | .ok (db, _) => db
  | .error _ => db

/-- A row for the decision is committed, with its tenant, actor and outcome. -/
def Recorded (db : Database) : Prop :=
  ∃ row : AuditEventRow, (call.after F settings db).auditEvents = db.auditEvents ++ [row] ∧
    row.tenantId = call.tenantId ∧ row.actorId = call.actorId ∧
    row.action = call.decision.event ∧ row.outcome = call.decision.outcome

/-- What the call was given can be written to the trail: each identity, where there is one,
is a token, and so is the client's correlation id, unless `_audit` replaces it. -/
structure Auditable : Prop where
  tenant : ∀ text, call.givenTenant = some text → text ≠ "" → IsToken text
  actor : ∀ text, call.givenActor = some text → text ≠ "" → IsToken text
  correlation : unusable (givenCorrelation call.headers) = false →
    IsToken (givenCorrelation call.headers)

end AuditedCall

/-! ### Tokens -/

theorem orElse_token {value : Option String} {default : String} (fine : IsToken default) :
    IsToken (orElse value default) ↔ ∀ text, value = some text → text ≠ "" → IsToken text := by
  unfold orElse
  cases value with
  | none =>
      refine ⟨?_, fun _ => fine⟩
      intro _ text given
      cases given
  | some text =>
      by_cases empty : text = ""
      · rw [Option.filter_some, if_neg (by simp [empty])]
        refine ⟨?_, fun _ => fine⟩
        intro _ other given some_
        exact absurd ((Option.some.inj given).symm.trans empty) some_
      · rw [Option.filter_some, if_pos (decide_eq_true empty)]
        refine ⟨?_, fun each => each text rfl empty⟩
        intro token other given _
        rw [← Option.some.inj given]
        exact token

theorem HttpDecision.event_token (decision : HttpDecision) : IsToken decision.event := by
  cases decision with
  | authRateLimited route => cases route <;> decide
  | logoutSucceeded hadSession => exact (by decide : IsToken "logout_succeeded")
  | _ => decide

theorem HttpDecision.outcome_token (decision : HttpDecision) : IsToken decision.outcome := by
  cases decision with
  | logoutSucceeded hadSession => cases hadSession <;> decide
  | _ => exact (by decide : IsToken "denied")

theorem HttpDecision.path_token (decision : HttpDecision) : IsToken decision.path := by
  cases decision with
  | authRateLimited route => cases route <;> decide
  | logoutCsrfDenied => exact (by decide : IsToken "/auth/logout")
  | logoutSucceeded hadSession => exact (by decide : IsToken "/auth/logout")
  | _ => exact (by decide : IsToken "/mcp")

theorem HttpDecision.status_small (decision : HttpDecision) : decision.status ≤ 504 := by
  cases decision <;> exact Nat.le_of_ble_eq_true rfl

/-! ### Calls that leave a row -/

namespace AuditedCall

variable {F : Type} [FloatFormat F] {settings : Settings} {call : AuditedCall} {db : Database}

theorem correlationId_token :
    IsToken call.correlationId ↔ (unusable (givenCorrelation call.headers) = false →
      IsToken (givenCorrelation call.headers)) := by
  unfold correlationId
  split
  · rename_i replaced
    rw [replaced]
    refine ⟨?_, fun _ => uuid_token _⟩
    intro _ kept
    cases kept
  · rename_i kept
    exact ⟨fun token _ => token, fun token => token (Bool.eq_false_of_not_eq_true kept)⟩

/-- A correlation id that is left out is replaced. -/
theorem correlationId_nonempty : call.correlationId ≠ "" := by
  unfold correlationId
  split
  · exact (uuid_token _).nonempty
  · rename_i kept
    intro empty
    rw [empty] at kept
    exact kept rfl

theorem statusDetails_safe :
    safeDetails (some (call.statusDetails F)) = .ok (call.statusDetails F) := by
  have small := call.decision.status_small
  have few : ¬auditDetailKeys.length < (call.statusDetails F).length :=
    (by decide : ¬auditDetailKeys.length < 1)
  have listed : ¬pyStr "status_code" ∉ auditDetailKeys.map pyStr := by
    decide
  have bounded : (safeValue (.int call.decision.status) : Except Failure (Json F)) =
      .ok (.int call.decision.status) := by
    unfold safeValue
    exact if_neg (by omega)
  unfold safeDetails
  dsimp only
  rw [if_neg few]
  unfold statusDetails
  simp only [safeEntries, if_neg listed, bounded, bind, Except.bind]

/-- A request of a call that is not auditable is refused. -/
theorem auditable_of_admitted (admitted : Admitted call.draw (call.request F)) :
    call.Auditable := by
  have unknown : IsToken "unknown" := by
    decide
  have correlation := admitted.correlationId
  change IsToken (orElse (some call.correlationId) _) at correlation
  rw [orElse_some correlationId_nonempty] at correlation
  exact ⟨(orElse_token unknown).mp admitted.tenantId, (orElse_token unknown).mp admitted.actorId,
    correlationId_token.mp correlation⟩

theorem Auditable.admitted (auditable : call.Auditable) {expiresAt : Timestamp}
    (inTime : call.draw.current.addDays 365 = some expiresAt) :
    Admitted call.draw (call.request F) := by
  have unknown : IsToken "unknown" := by
    decide
  constructor
  · exact (orElse_token unknown).mpr auditable.tenant
  · exact (orElse_token unknown).mpr auditable.actor
  · exact call.decision.event_token
  · exact call.decision.outcome_token
  · exact (by decide : IsToken "http_route")
  · exact (by decide : IsToken auditSchemaVersion)
  · exact (by decide : IsToken "http")
  · exact call.decision.event_token
  · intro value given
    have filtered : (some call.decision.path).filter (fun path => path ≠ "") = some value := given
    have isPath := (Option.filter_eq_some_iff.mp filtered).1
    rw [← Option.some.inj isPath]
    exact call.decision.path_token
  · change IsToken (orElse (some _) _)
    rw [orElse_some (uuid_token _).nonempty]
    exact uuid_token _
  · change IsToken (orElse (some _) _)
    rw [orElse_some correlationId_nonempty]
    exact correlationId_token.mpr auditable.correlation
  · exact ⟨call.statusDetails F, statusDetails_safe⟩
  · refine ⟨expiresAt.isoformat, ?_⟩
    change expiryFor "security" call.draw.current = .ok expiresAt.isoformat
    unfold expiryFor auditRetentionDays
    rw [if_pos rfl]
    dsimp only
    rw [inTime]

theorem Auditable.recorded (auditable : call.Auditable)
    (inTime : (call.draw.current.addDays 365).isSome = true)
    (fresh : ∀ row ∈ db.auditEvents, row.id ≠ newId "audit" call.draw.eventId) :
    call.Recorded F settings db := by
  obtain ⟨expiresAt, isExpiry⟩ := Option.isSome_iff_exists.mp inTime
  have admitted : Admitted call.draw (call.request F) := auditable.admitted isExpiry
  obtain ⟨built, isBuilt⟩ := admitted.built settings
  obtain ⟨safe, expiry, sealing⟩ := buildAuditEvent_cases isBuilt
  obtain ⟨ownBuilt, ownId, _, ownTenant, _⟩ := buildAuditEvent_ok isBuilt
  have isTenant : ValidText built.event.tenantId maxNameLength := by
    rw [ownTenant]
    exact admitted.tenantId.validText
  obtain ⟨tenants, ensured, known⟩ : ∃ tenants,
      ensureTenant db built.event.tenantId call.tenantAt = .ok { db with tenants := tenants } ∧
        tenants.any (fun tenant => tenant.id = built.event.tenantId) = true :=
    ensureTenant_valid isTenant call.tenantAt
  obtain ⟨detailsJson, stored⟩ : ∃ detailsJson,
      insertAuditEvent built { db with tenants := tenants } = .ok { db with
        tenants := tenants
        auditEvents := db.auditEvents ++ [built.event.row detailsJson built.integrityHash] } :=
    insertAuditEvent_stores ownBuilt known
      (fun old member same => fresh old member (same.trans ownId))
  have done : recordAuditEvent settings call.draw call.tenantAt (call.request F) db = .ok
      ({ db with tenants := tenants, auditEvents := db.auditEvents ++
        [built.event.row detailsJson built.integrityHash] }, built) := by
    unfold recordAuditEvent commitAuditEvent
    simp only [isBuilt, ensured, stored, bind, Except.bind]
  refine ⟨built.event.row detailsJson built.integrityHash, ?_, ?_, ?_, ?_, ?_⟩
  · unfold after
    rw [done]
  all_goals
    rw [sealing.event]
    rfl

/-- What is not recorded changes no row. -/
theorem Recorded.admitted (recorded : call.Recorded F settings db) :
    Admitted call.draw (call.request F) := by
  obtain ⟨row, grown, _⟩ := recorded
  unfold after at grown
  split at grown
  · rename_i done
    obtain ⟨built, isBuilt, _⟩ := except_bind_ok done
    obtain ⟨_, _, sealing⟩ := buildAuditEvent_cases isBuilt
    exact sealing.admitted
  · have longer := congrArg List.length grown
    rw [List.length_append, List.length_singleton] at longer
    omega

theorem Recorded.inTime (recorded : call.Recorded F settings db) :
    (call.draw.current.addDays 365).isSome = true := by
  obtain ⟨expiresAt, expiry⟩ := recorded.admitted.expiry
  change expiryFor "security" call.draw.current = .ok expiresAt at expiry
  unfold expiryFor auditRetentionDays at expiry
  rw [if_pos rfl] at expiry
  dsimp only at expiry
  split at expiry
  · cases expiry
  · rename_i isExpiry
    rw [isExpiry]
    rfl

/-- A call leaves its row exactly when what it was given are tokens, in a year before the
calendar's last. -/
theorem decision_recorded_iff (F : Type) [FloatFormat F] (settings : Settings)
    (call : AuditedCall) (db : Database)
    (fresh : ∀ row ∈ db.auditEvents, row.id ≠ newId "audit" call.draw.eventId) :
    call.Recorded F settings db ↔
      call.Auditable ∧ (call.draw.current.addDays 365).isSome = true := by
  constructor
  · intro recorded
    exact ⟨auditable_of_admitted recorded.admitted, recorded.inTime⟩
  · rintro ⟨auditable, inTime⟩
    exact auditable.recorded inTime fresh

end AuditedCall

/-! ### Decisions that go unrecorded -/

/-- `MembershipStore.add` takes the identity. -/
def Identity.Accepted (identity : Identity) : Prop :=
  requiredText "tenant_id" (pyStr identity.tenantId) = .ok (pyStr identity.tenantId) ∧
    requiredText "actor_id" (pyStr identity.actorId) = .ok (pyStr identity.actorId)

def deniedDraw : EventDraw where
  eventId := Uuid.nil
  requestId := Uuid.nil
  context := none
  current := Timestamp.epoch
  now := Timestamp.epoch

/-- A request over the rate limit, with a correlation id. -/
def deniedCall (identity : Identity) (correlationId : String) : AuditedCall where
  localIdentity := ⟨none, none⟩
  principal := some identity
  headers := [(correlationHeader, asciiBytes correlationId.toList)]
  decision := .mcpRateLimited
  requestId := Uuid.one
  draw := deniedDraw
  tenantAt := Timestamp.epoch

/-- An address is no token, and neither is a name of two words; both are accepted. -/
theorem denials_unrecorded :
    (Identity.mk "acme" "ann").Accepted ∧
    ¬(deniedCall ⟨"acme", "ann"⟩ "ann@acme").Recorded Empty Settings.standard Database.created ∧
    (Identity.mk "Acme Corp" "ann").Accepted ∧
    ¬(deniedCall ⟨"Acme Corp", "ann"⟩ "").Recorded Empty Settings.standard Database.created := by
  refine ⟨⟨by decide, by decide⟩, ?_, ⟨by decide, by decide⟩, ?_⟩
  · intro recorded
    have token := (AuditedCall.auditable_of_admitted recorded.admitted).correlation (by decide)
    exact absurd token (by decide)
  · intro recorded
    have token := (AuditedCall.auditable_of_admitted recorded.admitted).tenant "Acme Corp" rfl
      (by decide)
    exact absurd token (by decide)

theorem denial_recorded :
    (deniedCall ⟨"acme", "ann"⟩ "ann-1").Recorded Empty Settings.standard Database.created := by
  refine (AuditedCall.decision_recorded_iff Empty Settings.standard
    (deniedCall ⟨"acme", "ann"⟩ "ann-1") Database.created ?_).mpr ⟨⟨?_, ?_, ?_⟩, ?_⟩
  · intro row member
    cases member
  · intro text given _
    rw [← Option.some.inj given]
    decide
  · intro text given _
    rw [← Option.some.inj given]
    decide
  · intro _
    decide
  · decide

end FolioLattice.Server
