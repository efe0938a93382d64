/-
A tool call through the broker of external connections: what is checked before the upstream
is asked, what is checked of its answer, and what is recorded of the call.
-/

import FolioLattice.Effects.Fallible
import FolioLattice.External.CredentialScan
import FolioLattice.External.Finality

namespace FolioLattice.External

open FolioLattice.Text FolioLattice.Data FolioLattice.Store
open FolioLattice.Effects (except_bind_ok)

/-! ### Failures -/

/-- The outcomes of an `ExternalMcpValidationError`. -/
inductive Refusal where
  | denied
  | failed

def Refusal.name : Refusal → String
  | .denied => "denied"
  | .failed => "failed"

/-- An `ExternalMcpValidationError`. -/
structure ValidationError where
  message : String
  reason : String
  outcome : Refusal

def isReasonChar (c : Char) : Bool :=
  c.isDigit || c.isLower || c.isUpper || c ∈ ['_', '.', '-']

/-- `ExternalMcpValidationError.__init__` -/
def ValidationError.of (message reason outcome : String) (safeMessage : Bool) : ValidationError where
  message := if safeMessage then message else "external MCP adapter validation failed"
  reason :=
    if 1 ≤ reason.length ∧ reason.length ≤ 64 ∧ reason.toList.all isReasonChar then reason
    else "adapter_validation_failed"
  outcome := if outcome = "denied" then .denied else .failed

inductive CallError where
  | validation (error : ValidationError)
  /-- any other `ExternalMcpError` -/
  | external (message : String)
  /-- any other `FolioError` -/
  | folio (message : String)
  /-- any other exception -/
  | other

def CallError.ofFailure : Failure → CallError
  | .folio message => .folio message
  | _ => .other

def callFailed : String := "external MCP tool call failed"

def revokedMessage : String := "external MCP connection is revoked"

def safeExternalErrors : List String :=
  ["credential broker unavailable", "credential broker returned an invalid credential",
    "external MCP response exceeds the allowed size", "external MCP transport timed out",
    "external MCP transport unavailable", "external MCP upstream call failed",
    "external MCP endpoint resolution timed out", "external MCP endpoint is invalid",
    "external MCP endpoint resolves to a blocked address",
    "external MCP endpoint cannot be resolved",
    "external MCP transport cannot validate registration", "external MCP result is invalid",
    "external MCP result contains credential material",
    "external MCP result exceeds the allowed size", "external MCP health result is invalid",
    callFailed, "external MCP resource read failed", "external MCP health check failed",
    revokedMessage]

/-- `_sanitize_external_error` -/
def sanitizeExternalError (message fallback : String) : String :=
  if message ∈ safeExternalErrors then message else fallback

def failureReasons : List (String × String) :=
  [("credential broker unavailable", "credential_unavailable"),
    ("credential broker returned an invalid credential", "credential_invalid"),
    ("external MCP response exceeds the allowed size", "response_too_large"),
    ("external MCP transport timed out", "transport_timeout"),
    ("external MCP transport unavailable", "transport_unavailable"),
    ("external MCP upstream call failed", "upstream_failed"),
    ("external MCP result is invalid", "result_invalid"),
    ("external MCP result contains credential material", "result_secret_detected"),
    ("external MCP result exceeds the allowed size", "result_too_large"),
    (revokedMessage, "connection_revoked")]

def failureReason (message : String) : String :=
  (failureReasons.lookup message).getD "external_mcp_failed"

/-! ### Recording -/

/-- What one call draws, and what stands outside the code: what the limiters say with the
message of a refusal, and whether the database can be read, locked, committed and written. -/
structure CallDraw where
  admission : Except String Unit
  readable : Bool
  fenceOpens : Bool
  fenceCommits : Bool
  recordable : Bool
  uuid : Uuid
  now : String

def CallDraw.record (draw : CallDraw) (registry : Registry) (caller : Caller) (entry : AuditEntry) :
    Registry × Bool :=
  if draw.recordable then
    match writeExternalAudit registry caller entry draw.uuid draw.now with
    | .ok registry => (registry, true)
    | .error _ => (registry, false)
  else (registry, false)

def toolCall : String := "tool_call"

/-- What is recorded of a call that failed after it was authorized. -/
def failureEntry (tool : String) : CallError → AuditEntry
  | .validation error => ⟨toolCall, error.outcome.name, error.reason, some tool⟩
  | .external message => ⟨toolCall, "failed", failureReason message, some tool⟩
  | .folio _ => ⟨toolCall, "failed", "authorization_failed", some tool⟩
  | .other => ⟨toolCall, "failed", "unexpected_failure", some tool⟩

/-- The message that the caller sees of it. -/
def failureMessage : CallError → String
  | .validation error => error.message
  | .external message => sanitizeExternalError message callFailed
  | .folio message => if message = revokedMessage then message else callFailed
  | .other => callFailed

/-! ### Authorizing -/

section Calls

variable {F : Type} [FloatFormat F]

abbrev ToolArguments (F : Type) := List (PyStr × Json F)

/-- `json.dumps(arguments, separators=(",", ":"), allow_nan=False)` -/
def encodeArguments (arguments : ToolArguments F) : Option (List Char) :=
  if (Json.obj arguments).encodable false then some (Json.obj arguments).print else none

def maxExternalRequestBytes : Nat := 64 * 1024

def maxExternalArgumentBytes : Nat := 64 * 1024

/-- `_check_request_size` -/
def checkRequestSize (arguments : ToolArguments F) : Except CallError Unit :=
  match encodeArguments arguments with
  | none => .error (.external "external MCP request arguments are invalid")
  | some encoded =>
      if maxExternalRequestBytes < encoded.length then
        .error (.external "external MCP request arguments exceed the allowed size")
      else .ok ()

def connectionForBroker (registry : Registry) (caller : Caller) : Except Failure (Connection F) := do
  caller.validate
  externalRow F registry caller.tenantId caller.connectionId

/-- `_record_external_denial`, and what is raised after it -/
def CallDraw.deny (draw : CallDraw) (registry : Registry) (caller : Caller) (tool message : String) :
    Registry × Except CallError (Connection F) :=
  ((draw.record registry caller ⟨toolCall, "denied", "not_authorized", some tool⟩).1,
    .error (.folio message))

def authorizeExternalTool (draw : CallDraw) (registry : Registry) (caller : Caller) (tool : String)
    (arguments : ToolArguments F) : Registry × Except CallError (Connection F) :=
  if !draw.readable then (registry, .error .other)
  else
    match connectionForBroker registry caller with
    | .error (.folio message) => draw.deny registry caller tool message
    | .error _ => (registry, .error .other)
    | .ok connection =>
        if connection.row.status ≠ .active then draw.deny registry caller tool revokedMessage
        else if pyStr tool ∉ connection.approvedTools then
          draw.deny registry caller tool "external MCP tool is not approved"
        else
          match encodeArguments arguments with
          | none => (registry, .error (.folio "external MCP tool arguments are invalid"))
          | some encoded =>
              if maxExternalArgumentBytes < encoded.length then
                (registry, .error (.folio "external MCP tool arguments exceed the allowed size"))
              else (registry, .ok connection)

/-! ### The call -/

/-- What the broker is built with: the issuer of credentials, where `none` is an exception,
and the transport. -/
structure Broker (F : Type) where
  interpreter : Interpreter F
  issue : (tenantId connectionId credentialRef audience : String) → Option (PyValue F)
  transport : (endpoint tool : String) → ToolArguments F → (credential : Option PyStr) →
    Except CallError (PyValue F)

/-- `_credential` -/
def Broker.credential (broker : Broker F) (connection : Connection F) :
    Except CallError (Option PyStr) :=
  match connection.row.credentialRef with
  | none => .ok none
  | some credentialRef =>
      match broker.issue connection.row.tenantId connection.row.id credentialRef
          connection.row.origin with
      | none => .error (.external "credential broker unavailable")
      | some (.str text) =>
          if text.isEmpty then
            .error (.external "credential broker returned an invalid credential")
          else .ok (some text)
      | some _ => .error (.external "credential broker returned an invalid credential")

/-- The callbacks of an adapter, which may keep something in a state of their own. -/
structure Validators (F σ : Type) where
  pre : Option (σ → Connection F → σ × Except CallError Unit)
  result : Option (σ → PyValue F → σ × Except CallError Unit)

variable {σ : Type}

/-- What the broker makes of what a callback raises. -/
def adapterError (message reason outcome : String) : CallError → CallError
  | .validation error => .validation error
  | .external raised => .validation (.of raised reason outcome false)
  | .folio raised => .validation (.of raised reason outcome false)
  | .other => .validation (.of message reason outcome false)

def runCallback {α : Type} (callback : Option (σ → α → σ × Except CallError Unit))
    (message reason outcome : String) (state : σ) (value : α) : σ × Except CallError Unit :=
  match callback with
  | none => (state, .ok ())
  | some callback =>
      ((callback state value).1, (callback state value).2.mapError (adapterError message reason outcome))

def Validators.checkConnection (validators : Validators F σ) : σ → Connection F →
    σ × Except CallError Unit :=
  runCallback validators.pre "external MCP adapter validation failed" "adapter_policy_denied" "denied"

def Validators.checkResult (validators : Validators F σ) : σ → PyValue F →
    σ × Except CallError Unit :=
  runCallback validators.result "external MCP result failed adapter validation"
    "adapter_result_invalid" "failed"

/-- `external_call_fence` as far as the `yield` -/
def CallDraw.fence (draw : CallDraw) (registry : Registry) (caller : Caller) :
    Except CallError (Connection F) :=
  if !draw.fenceOpens then .error .other
  else
    match externalRow F registry caller.tenantId caller.connectionId with
    | .error failure => .error (.ofFailure failure)
    | .ok connection =>
        if connection.row.status ≠ .active then .error (.folio revokedMessage) else .ok connection

/-- What the upstream answers under the fence, and the check of its bounds. -/
def Broker.ask (broker : Broker F) (draw : CallDraw) (registry : Registry) (caller : Caller)
    (tool : String) (arguments : ToolArguments F) (connection : Connection F) :
    Except CallError (PyValue F) := do
  let credential ← broker.credential connection
  let fenced : Connection F ← draw.fence registry caller
  let result ← broker.transport fenced.row.endpoint tool arguments credential
  match boundedResult broker.interpreter result credential with
  | .error message => .error (.external message)
  | .ok () => .ok result

/-- The body of the `try` of `_call_tool_admitted`, as far as the record. -/
def Broker.attempt (broker : Broker F) (draw : CallDraw) (registry : Registry) (caller : Caller)
    (tool : String) (arguments : ToolArguments F) (validators : Validators F σ)
    (connection : Connection F) (state : σ) : σ × Except CallError (PyValue F) :=
  match validators.checkConnection state connection with
  | (state, .error error) => (state, .error error)
  | (state, .ok ()) =>
      match broker.ask draw registry caller tool arguments connection with
      | .error error => (state, .error error)
      | .ok result =>
          match validators.checkResult state result with
          | (state, .error error) => (state, .error error)
          | (state, .ok ()) => (state, if draw.fenceCommits then .ok result else .error .other)

/-- The registry after a call, the state of the callbacks and how the call ended. -/
structure ToolCall (F σ : Type) where
  registry : Registry
  state : σ
  result : Except CallError (PyValue F)

/-- `_call_tool_admitted` -/
def Broker.callToolAdmitted (broker : Broker F) (draw : CallDraw) (registry : Registry)
    (caller : Caller) (tool : String) (arguments : ToolArguments F) (validators : Validators F σ)
    (state : σ) : ToolCall F σ :=
  match authorizeExternalTool draw registry caller tool arguments with
  | (registry, .error error) => ⟨registry, state, .error error⟩
  | (registry, .ok connection) =>
      match broker.attempt draw registry caller tool arguments validators connection state with
      | (state, .error error) =>
          ⟨(draw.record registry caller (failureEntry tool error)).1, state,
            .error (.external (failureMessage error))⟩
      | (state, .ok result) =>
          match draw.record registry caller ⟨toolCall, "allowed", "completed", some tool⟩ with
          | (registry, true) => ⟨registry, state, .ok result⟩
          | (registry, false) => ⟨registry, state, .error (.external callFailed)⟩

/-- `ExternalMcpBroker.call_tool`; what it does with its slot is left out. -/
def Broker.callTool (broker : Broker F) (draw : CallDraw) (registry : Registry) (caller : Caller)
    (tool : String) (arguments : ToolArguments F) (validators : Validators F σ) (state : σ) :
    ToolCall F σ :=
  match checkRequestSize arguments with
  | .error error => ⟨registry, state, .error error⟩
  | .ok () =>
      match draw.admission with
      | .error message => ⟨registry, state, .error (.external message)⟩
      | .ok () => broker.callToolAdmitted draw registry caller tool arguments validators state

/-! ### How a call ends -/

/-- The call raises, and nothing that it records says that it was allowed. -/
def Refused (registry : Registry) (out : ToolCall F σ) : Prop :=
  (∃ error, out.result = .error error) ∧
    ∃ rows, out.registry = { registry with audit := registry.audit ++ rows } ∧
      ∀ row ∈ rows, row.outcome ≠ "allowed"

variable {broker : Broker F} {draw : CallDraw} {registry : Registry} {caller : Caller}
  {tool : String} {arguments : ToolArguments F} {validators : Validators F σ} {state : σ}

/-- The checks that a call passed, with the connection and the credential that were read,
the answer of the upstream and what the callbacks left. -/
structure Passed (broker : Broker F) (registry : Registry) (caller : Caller) (tool : String)
    (arguments : ToolArguments F) (validators : Validators F σ) (state : σ)
    (connection : Connection F) (credential : Option PyStr) (answer : PyValue F)
    (between after : σ) : Prop where
  read : externalRow F registry caller.tenantId caller.connectionId = .ok connection
  active : connection.row.status = .active
  approved : pyStr tool ∈ connection.approvedTools
  checked : validators.checkConnection state connection = (between, .ok ())
  issued : broker.credential connection = .ok credential
  answered : broker.transport connection.row.endpoint tool arguments credential = .ok answer
  bounded : boundedResult broker.interpreter answer credential = .ok ()
  validated : validators.checkResult between answer = (after, .ok ())

theorem CallDraw.record_false {entry : AuditEntry} {registry' : Registry}
    (recorded : draw.record registry caller entry = (registry', false)) : registry' = registry := by
  unfold CallDraw.record at recorded
  split at recorded
  · split at recorded
    · cases recorded
    · exact (Prod.mk.inj recorded).1.symm
  · exact (Prod.mk.inj recorded).1.symm

theorem CallDraw.record_true {entry : AuditEntry} {registry' : Registry}
    (recorded : draw.record registry caller entry = (registry', true)) :
    registry' =
      { registry with audit := registry.audit ++ [.of caller entry draw.uuid draw.now] } := by
  unfold CallDraw.record at recorded
  split at recorded
  · split at recorded
    · rename_i written
      rw [← (Prod.mk.inj recorded).1]
      exact writeExternalAudit_ok written
    · cases recorded
  · cases recorded

omit [FloatFormat F] in
/-- A call that raises what it records as no success. -/
theorem refused_record {state' : σ} {entry : AuditEntry} {error : CallError}
    (other : entry.outcome ≠ "allowed") :
    Refused registry
      (⟨(draw.record registry caller entry).1, state', .error error⟩ : ToolCall F σ) := by
  refine ⟨⟨error, rfl⟩, ?_⟩
  cases recorded : draw.record registry caller entry with
  | mk registry' written =>
      cases written with
      | false =>
          refine ⟨[], ?_, fun row absent => absurd absent List.not_mem_nil⟩
          rw [CallDraw.record_false recorded, List.append_nil]
      | true =>
          refine ⟨[.of caller entry draw.uuid draw.now], CallDraw.record_true recorded, ?_⟩
          intro row member
          rw [List.mem_singleton.mp member]
          exact other

omit [FloatFormat F] in
theorem refused_unrecorded {state' : σ} {error : CallError} :
    Refused registry (⟨registry, state', .error error⟩ : ToolCall F σ) :=
  ⟨⟨error, rfl⟩, [], by rw [List.append_nil], fun _ absent => absurd absent List.not_mem_nil⟩

theorem failureEntry_outcome (tool : String) (error : CallError) :
    (failureEntry tool error).outcome ≠ "allowed" := by
  have failed : "failed" ≠ "allowed" := by decide
  cases error with
  | validation error =>
      change error.outcome.name ≠ "allowed"
      cases error.outcome with
      | denied => decide
      | failed => exact failed
  | external message => exact failed
  | folio message => exact failed
  | other => exact failed

/-- A call is authorized on an active connection that approves its tool, or it is refused. -/
theorem authorizeExternalTool_ends (state : σ) (authorized : Registry × Except CallError (Connection F))
    (isResult : authorizeExternalTool draw registry caller tool arguments = authorized) :
    (∃ registry' error, authorized = (registry', .error error) ∧
        Refused registry (⟨registry', state, .error error⟩ : ToolCall F σ)) ∨
      ∃ connection, authorized = (registry, .ok connection) ∧
        externalRow F registry caller.tenantId caller.connectionId = .ok connection ∧
        connection.row.status = .active ∧ pyStr tool ∈ connection.approvedTools := by
  have denied : ∀ message, draw.deny registry caller tool message = authorized →
      ∃ registry' error, authorized = (registry', .error error) ∧
        Refused registry (⟨registry', state, .error error⟩ : ToolCall F σ) := by
    intro message isDenial
    have differs : "denied" ≠ "allowed" := by decide
    exact ⟨_, _, isDenial.symm, refused_record differs⟩
  have unrecorded : ∀ error, (registry, .error error) = authorized →
      ∃ registry' error, authorized = (registry', .error error) ∧
        Refused registry (⟨registry', state, .error error⟩ : ToolCall F σ) :=
    fun error isError => ⟨_, _, isError.symm, refused_unrecorded⟩
  unfold authorizeExternalTool at isResult
  split at isResult
  · exact Or.inl (unrecorded _ isResult)
  · split at isResult
    · exact Or.inl (denied _ isResult)
    · exact Or.inl (unrecorded _ isResult)
    · rename_i connection found
      split at isResult
      · exact Or.inl (denied _ isResult)
      · rename_i active
        split at isResult
        · exact Or.inl (denied _ isResult)
        · rename_i approved
          split at isResult
          · exact Or.inl (unrecorded _ isResult)
          · split at isResult
            · exact Or.inl (unrecorded _ isResult)
            · right
              refine ⟨connection, isResult.symm, ?_, not_not.mp active, not_not.mp approved⟩
              unfold connectionForBroker at found
              cases valid : caller.validate with
              | error failure =>
                  rw [valid] at found
                  cases found
              | ok _ =>
                  rw [valid] at found
                  exact found

theorem CallDraw.fence_ok {connection fenced : Connection F}
    (found : externalRow F registry caller.tenantId caller.connectionId = .ok connection)
    (held : draw.fence registry caller = .ok fenced) : fenced = connection := by
  unfold CallDraw.fence at held
  rw [found] at held
  split at held
  · cases held
  · dsimp only at held
    split at held
    · cases held
    · exact (Except.ok.inj held).symm

theorem Broker.ask_ok {connection : Connection F} {answer : PyValue F}
    (found : externalRow F registry caller.tenantId caller.connectionId = .ok connection)
    (asked : broker.ask draw registry caller tool arguments connection = .ok answer) :
    ∃ credential, broker.credential connection = .ok credential ∧
      broker.transport connection.row.endpoint tool arguments credential = .ok answer ∧
      boundedResult broker.interpreter answer credential = .ok () := by
  unfold Broker.ask at asked
  obtain ⟨credential, issued, asked⟩ := except_bind_ok asked
  obtain ⟨fenced, held, asked⟩ := except_bind_ok asked
  obtain ⟨result, answered, asked⟩ := except_bind_ok asked
  rw [CallDraw.fence_ok found held] at answered
  split at asked
  · cases asked
  · rename_i bounded
    cases asked
    exact ⟨credential, issued, answered, bounded⟩

/-- What got as far as the record passed every check. -/
theorem Broker.attempt_ok {connection : Connection F} {answer : PyValue F} {after : σ}
    (found : externalRow F registry caller.tenantId caller.connectionId = .ok connection)
    (active : connection.row.status = .active) (approved : pyStr tool ∈ connection.approvedTools)
    (attempted : broker.attempt draw registry caller tool arguments validators connection state =
      (after, .ok answer)) :
    ∃ credential between, Passed broker registry caller tool arguments validators state connection
      credential answer between after := by
  unfold Broker.attempt at attempted
  split at attempted
  · cases attempted
  · rename_i between checked
    split at attempted
    · cases attempted
    · rename_i result asked
      obtain ⟨credential, issued, answered, bounded⟩ := Broker.ask_ok found asked
      split at attempted
      · cases attempted
      · rename_i last validated
        split at attempted
        · cases attempted
          exact ⟨credential, between,
            ⟨found, active, approved, checked, issued, answered, bounded, validated⟩⟩
        · cases attempted

/-- A call is refused, or it passes every check, is recorded as allowed and gives the answer. -/
theorem Broker.callTool_ends (broker : Broker F) (draw : CallDraw) (registry : Registry)
    (caller : Caller) (tool : String) (arguments : ToolArguments F) (validators : Validators F σ)
    (state : σ) (out : ToolCall F σ)
    (isOut : broker.callTool draw registry caller tool arguments validators state = out) :
    Refused registry out ∨
      ∃ connection credential answer between,
        Passed broker registry caller tool arguments validators state connection credential answer
          between out.state ∧
        out.result = .ok answer ∧
        out.registry = { registry with
          audit := registry.audit ++
            [.of caller ⟨toolCall, "allowed", "completed", some tool⟩ draw.uuid draw.now] } := by
  unfold Broker.callTool at isOut
  split at isOut
  · rw [← isOut]
    exact Or.inl refused_unrecorded
  · split at isOut
    · rw [← isOut]
      exact Or.inl refused_unrecorded
    · unfold Broker.callToolAdmitted at isOut
      generalize isResult : authorizeExternalTool draw registry caller tool arguments = authorized
        at isOut
      rcases authorizeExternalTool_ends state authorized isResult with
        ⟨registry', error, isDenied, refused⟩ | ⟨connection, isAuthorized, found, active, approved⟩
      · rw [isDenied] at isOut
        rw [← isOut]
        exact Or.inl refused
      · rw [isAuthorized] at isOut
        dsimp only at isOut
        split at isOut
        · rw [← isOut]
          exact Or.inl (refused_record (failureEntry_outcome _ _))
        · rename_i after answer attempted
          obtain ⟨credential, between, passed⟩ := Broker.attempt_ok found active approved attempted
          split at isOut
          · rename_i registry' recorded
            rw [← isOut]
            exact Or.inr ⟨connection, credential, answer, between, passed, rfl,
              CallDraw.record_true recorded⟩
          · rename_i registry' recorded
            rw [← isOut, CallDraw.record_false recorded]
            exact Or.inl refused_unrecorded

end Calls

end FolioLattice.External
