/-
Tool calls and resource reads of external connections, step by step, in any order
with each other and with registrations, health checks and revocations.  What the
database, the credential broker, the upstream and an adapter's callbacks do is open.
-/

import FolioLattice.External.Calls
import FolioLattice.External.Registration

namespace FolioLattice.External

open FolioLattice.Text FolioLattice.Data FolioLattice.Store FolioLattice.Concurrency
open FolioLattice.Effects (except_bind_ok except_bind_error)

/-! ### What is asked -/

def resourceRead : String := "resource_read"

def resourceFailed : String := "external MCP resource read failed"

def maxResourceUriBytes : Nat := 2048

section Targets

variable {F : Type}

inductive Target (F : Type) where
  | tool (name : String) (arguments : ToolArguments F)
  | resource (uri : String)

def Target.action : Target F → String
  | .tool _ _ => toolCall
  | .resource _ => resourceRead

def Target.toolName : Target F → Option String
  | .tool name _ => some name
  | .resource _ => none

def Target.isTool : Target F → Bool
  | .tool _ _ => true
  | .resource _ => false

def Target.entry (target : Target F) (outcome reason : String) : AuditEntry :=
  ⟨target.action, outcome, reason, target.toolName⟩

/-- What is raised where the record of an answer fails. -/
def Target.failed : Target F → String
  | .tool _ _ => callFailed
  | .resource _ => resourceFailed

/-- What the `except` clauses record.  Those of a resource read have none of its own for an
`ExternalMcpValidationError`, which is an `ExternalMcpError`. -/
def Target.failureEntry : Target F → CallError → AuditEntry
  | .tool name _, error => External.failureEntry name error
  | .resource _, .validation error =>
      ⟨resourceRead, "failed", failureReason error.message, none⟩
  | .resource _, .external message => ⟨resourceRead, "failed", failureReason message, none⟩
  | .resource _, .folio _ => ⟨resourceRead, "failed", "authorization_failed", none⟩
  | .resource _, .other => ⟨resourceRead, "failed", "unexpected_failure", none⟩

/-- The message that they raise. -/
def Target.failureMessage : Target F → CallError → String
  | .tool _ _, error => External.failureMessage error
  | .resource _, .validation error => sanitizeExternalError error.message resourceFailed
  | .resource _, .external message => sanitizeExternalError message resourceFailed
  | .resource _, .folio message => if message = revokedMessage then message else resourceFailed
  | .resource _, .other => resourceFailed

structure BrokerCall (F : Type) where
  caller : Caller
  target : Target F

end Targets

/-! ### Authorizing -/

section Authorizing

variable {F : Type} [FloatFormat F]

/-- What `call_tool` and `read_resource` check before they ask for a slot. -/
def Target.checkSize : Target F → Except CallError Unit
  | .tool _ arguments => checkRequestSize arguments
  | .resource uri =>
      if maxResourceUriBytes < uri.utf8ByteSize then
        .error (.external "external MCP resource URI exceeds the allowed size")
      else .ok ()

def Target.approvedBy : Target F → Connection F → Prop
  | .tool name _, connection => pyStr name ∈ connection.approvedTools
  | .resource uri, connection => pyStr uri ∈ connection.approvedResources

/-- How an authorization ends: with a connection, with a denial that is to be recorded for
a reason, or with an exception of which nothing is recorded. -/
inductive Verdict (F : Type) where
  | authorized (connection : Connection F)
  | denied (reason message : String)
  | refused (message : String)
  | broken

/-- `authorize_external_tool` but for the record -/
def authorizeTool (registry : Registry) (caller : Caller) (tool : String)
    (arguments : ToolArguments F) : Verdict F :=
  match connectionForBroker registry caller with
  | .error (.folio message) => .denied "not_authorized" message
  | .error _ => .broken
  | .ok connection =>
      if connection.row.status ≠ .active then
        .denied "not_authorized" revokedMessage
      else if pyStr tool ∉ connection.approvedTools then
        .denied "not_authorized" "external MCP tool is not approved"
      else
        match encodeArguments arguments with
        | none => .refused "external MCP tool arguments are invalid"
        | some encoded =>
            if maxExternalArgumentBytes < encoded.length then
              .refused "external MCP tool arguments exceed the allowed size"
            else .authorized connection

/-- `authorize_external_resource` but for the record; `isUnsafe` is `_resource_uri_is_unsafe`. -/
def authorizeResource (isUnsafe : String → Bool) (registry : Registry) (caller : Caller)
    (uri : String) : Verdict F :=
  if isUnsafe uri then
    .denied "resource_uri_invalid" "external MCP resource is not approved"
  else
    match connectionForBroker registry caller with
    | .error (.folio message) => .denied "not_authorized" message
    | .error _ => .broken
    | .ok connection =>
        if connection.row.status ≠ .active then
          .denied "not_authorized" revokedMessage
        else if pyStr uri ∉ connection.approvedResources then
          .denied "not_authorized" "external MCP resource is not approved"
        else .authorized connection

def BrokerCall.authorize (isUnsafe : String → Bool) (registry : Registry) (call : BrokerCall F) :
    Verdict F :=
  match call.target with
  | .tool name arguments => authorizeTool registry call.caller name arguments
  | .resource uri => authorizeResource isUnsafe registry call.caller uri

section Errors

variable {tenantId connectionId : String} {registry : Registry}

theorem externalJsonList_error {value : String} {failure : Failure}
    (failed : externalJsonList F value = .error failure) : failure = invalidPolicy := by
  unfold externalJsonList at failed
  split at failed
  · rename_i items _
    cases texts : items.mapM asText with
    | none =>
        rw [texts] at failed
        exact (Except.error.inj failed).symm
    | some found =>
        rw [texts] at failed
        cases failed
  · exact (Except.error.inj failed).symm

theorem externalPolicyDict_error {value : String} {failure : Failure}
    (failed : externalPolicyDict F value = .error failure) : failure = invalidPolicy := by
  unfold externalPolicyDict at failed
  split at failed
  · split at failed
    · cases failed
    · exact (Except.error.inj failed).symm
  · exact (Except.error.inj failed).symm

theorem externalRow_error {failure : Failure}
    (failed : externalRow F registry tenantId connectionId = .error failure) :
    failure = notFound ∨ failure = invalidPolicy := by
  unfold externalRow at failed
  split at failed
  · exact Or.inl (Except.error.inj failed).symm
  · right
    rcases except_bind_error failed with bad | ⟨_, _, failed⟩
    · exact externalJsonList_error bad
    · rcases except_bind_error failed with bad | ⟨_, _, failed⟩
      · exact externalJsonList_error bad
      · rcases except_bind_error failed with bad | ⟨_, _, failed⟩
        · exact externalJsonList_error bad
        · rcases except_bind_error failed with bad | ⟨_, _, failed⟩
          · exact externalPolicyDict_error bad
          · cases failed

theorem connectionForBroker_error {caller : Caller} {failure : Failure}
    (failed : connectionForBroker (F := F) registry caller = .error failure) :
    ∃ message, failure = .folio message := by
  have ofText : ∀ {field value : String} {maximum : Nat},
      validateText field value maximum = .error failure → ∃ message, failure = .folio message := by
    intro field value maximum bad
    rcases validateText_error bad with blank | long
    · exact ⟨_, blank⟩
    · exact ⟨_, long⟩
  rcases except_bind_error failed with invalid | ⟨_, _, failed⟩
  · rcases except_bind_error invalid with bad | ⟨_, _, bad⟩
    · exact ofText bad
    · exact ofText bad
  · rcases externalRow_error failed with missing | policy
    · exact ⟨_, missing⟩
    · exact ⟨_, policy⟩

end Errors

section Verdicts

variable {isUnsafe : String → Bool} {registry : Registry} {caller : Caller}
  {connection : Connection F}

theorem connectionForBroker_valid (valid : caller.validate = .ok ()) :
    connectionForBroker (F := F) registry caller =
      externalRow F registry caller.tenantId caller.connectionId := by
  unfold connectionForBroker
  rw [valid]
  rfl

theorem BrokerCall.authorize_tool (name : String) (arguments : ToolArguments F) :
    (⟨caller, .tool name arguments⟩ : BrokerCall F).authorize isUnsafe registry =
      authorizeTool registry caller name arguments := rfl

theorem connectionForBroker_ok
    (read : connectionForBroker (F := F) registry caller = .ok connection) :
    externalRow F registry caller.tenantId caller.connectionId = .ok connection := by
  obtain ⟨_, _, read⟩ := except_bind_ok read
  exact read

/-- A call whose size was accepted is authorized, or its denial has a row. -/
theorem BrokerCall.authorize_ends {call : BrokerCall F}
    (fits : call.target.checkSize = .ok ()) :
    (∀ message, call.authorize isUnsafe registry ≠ .refused message) ∧
      call.authorize isUnsafe registry ≠ .broken := by
  obtain ⟨caller, target⟩ := call
  cases target with
  | tool name arguments =>
      change checkRequestSize arguments = .ok () at fits
      change (∀ message, authorizeTool registry caller name arguments ≠ .refused message) ∧
        authorizeTool registry caller name arguments ≠ .broken
      obtain ⟨encoded, encodes, small⟩ : ∃ encoded, encodeArguments arguments = some encoded ∧
          ¬maxExternalArgumentBytes < encoded.length := by
        unfold checkRequestSize at fits
        split at fits
        · cases fits
        · rename_i encoded encodes
          split at fits
          · cases fits
          · rename_i small
            exact ⟨encoded, encodes, small⟩
      unfold authorizeTool
      cases read : connectionForBroker (F := F) registry caller with
      | error failure =>
          obtain ⟨message, isFolio⟩ := connectionForBroker_error read
          rw [isFolio]
          exact ⟨fun _ same => (by cases same), fun same => (by cases same)⟩
      | ok connection =>
          rw [encodes]
          dsimp only
          rw [if_neg small]
          split
          · exact ⟨fun _ same => (by cases same), fun same => (by cases same)⟩
          · split
            · exact ⟨fun _ same => (by cases same), fun same => (by cases same)⟩
            · exact ⟨fun _ same => (by cases same), fun same => (by cases same)⟩
  | resource uri =>
      change (∀ message, authorizeResource isUnsafe registry caller uri ≠ .refused message) ∧
        authorizeResource isUnsafe registry caller uri ≠ .broken
      unfold authorizeResource
      split
      · exact ⟨fun _ same => (by cases same), fun same => (by cases same)⟩
      · cases read : connectionForBroker (F := F) registry caller with
        | error failure =>
            obtain ⟨message, isFolio⟩ := connectionForBroker_error read
            rw [isFolio]
            exact ⟨fun _ same => (by cases same), fun same => (by cases same)⟩
        | ok connection =>
            dsimp only
            split
            · exact ⟨fun _ same => (by cases same), fun same => (by cases same)⟩
            · split
              · exact ⟨fun _ same => (by cases same), fun same => (by cases same)⟩
              · exact ⟨fun _ same => (by cases same), fun same => (by cases same)⟩

/-- What an authorized call found: the caller's connection, active, that approves the target. -/
theorem BrokerCall.authorize_authorized {call : BrokerCall F}
    (verdict : call.authorize isUnsafe registry = .authorized connection) :
    externalRow F registry call.caller.tenantId call.caller.connectionId = .ok connection ∧
      connection.row.status = .active ∧ call.target.approvedBy connection := by
  obtain ⟨caller, target⟩ := call
  cases target with
  | tool name arguments =>
      change authorizeTool registry caller name arguments = .authorized connection at verdict
      unfold authorizeTool at verdict
      split at verdict
      · cases verdict
      · cases verdict
      · rename_i found read
        split at verdict
        · cases verdict
        · rename_i active
          split at verdict
          · cases verdict
          · rename_i approved
            split at verdict
            · cases verdict
            · split at verdict
              · cases verdict
              · cases verdict
                exact ⟨connectionForBroker_ok read, not_not.mp active, not_not.mp approved⟩
  | resource uri =>
      change authorizeResource isUnsafe registry caller uri = .authorized connection at verdict
      unfold authorizeResource at verdict
      split at verdict
      · cases verdict
      · split at verdict
        · cases verdict
        · cases verdict
        · rename_i found read
          split at verdict
          · cases verdict
          · rename_i active
            split at verdict
            · cases verdict
            · rename_i approved
              cases verdict
              exact ⟨connectionForBroker_ok read, not_not.mp active, not_not.mp approved⟩

end Verdicts

/-- The authorization of a tool call, with its record. -/
theorem authorizeExternalTool_eq (draw : CallDraw) (registry : Registry) (caller : Caller)
    (tool : String) (arguments : ToolArguments F) :
    authorizeExternalTool draw registry caller tool arguments =
      if !draw.readable then (registry, .error .other)
      else
        match authorizeTool registry caller tool arguments with
        | .authorized connection => (registry, .ok connection)
        | .denied reason message =>
            ((draw.record registry caller
              ((Target.tool tool arguments).entry "denied" reason)).1, .error (.folio message))
        | .refused message => (registry, .error (.folio message))
        | .broken => (registry, .error .other) := by
  unfold authorizeExternalTool authorizeTool
  split
  · rfl
  · cases connectionForBroker (F := F) registry caller with
    | error failure =>
        cases failure with
        | folio message => rfl
        | _ => rfl
    | ok connection =>
        dsimp only
        split
        · rfl
        · split
          · rfl
          · cases encodeArguments arguments with
            | none => rfl
            | some encoded =>
                dsimp only
                split
                · rfl
                · rfl

end Authorizing

/-! ### Steps -/

/-- The interpreter that scans an answer, and the check of a resource's URI. -/
structure Host (F : Type) where
  interpreter : Interpreter F
  isUnsafe : String → Bool

/-- A call with the connection that it was authorized on and the credential that was
issued for it. -/
structure Ask (F : Type) where
  call : BrokerCall F
  connection : Connection F
  credential : Option PyStr

/-- How a thread ends. -/
inductive Ending (F : Type) where
  | registered
  | unregistered
  | turnedAway (call : BrokerCall F)
  | returned (ask : Ask F) (connection : Connection F) (answer : PyValue F)
  /-- the call raises, and a row says so -/
  | raised (call : BrokerCall F) (error : CallError)
  /-- the call raises, or its process has ended, without a row: the database failed -/
  | lost (call : BrokerCall F) (error : Option CallError)
  /-- the call raises where the code records nothing -/
  | unrecorded (call : BrokerCall F) (error : CallError)

/-- Where a call stands.  From the start of the fence to its end it has the write lock, and
from the INSERT of a row to its commit. -/
inductive BrokerThread (F : Type) where
  /-- a health check, a fence of another caller or a revocation -/
  | service (thread : ExternalThread)
  | registering (request : Registration)
  | called (call : BrokerCall F)
  | admitted (call : BrokerCall F)
  | denying (call : BrokerCall F) (reason message : String)
  | authorized (call : BrokerCall F) (connection : Connection F)
  | issued (ask : Ask F)
  | fenceBegun (ask : Ask F)
  | fenced (ask : Ask F) (connection : Connection F)
  /-- the upstream has been asked -/
  | upstream (ask : Ask F) (connection : Connection F)
  | answered (ask : Ask F) (connection : Connection F) (answer : PyValue F)
  | failing (call : BrokerCall F) (error : CallError)
  /-- a transaction that has written its rows: how the call ends when they are committed, and
  how when they are not -/
  | committing (draft : Registry) (done failed : Ending F)
  | ended (ending : Ending F)

def BrokerThread.holds {F : Type} : BrokerThread F → Bool
  | .service thread => thread.holds
  | .fenceBegun _ | .fenced _ _ | .upstream _ _ | .committing _ _ _ => true
  | _ => false

/-- The call whose process may end before it does. -/
def BrokerThread.pending {F : Type} : BrokerThread F → Option (BrokerCall F)
  | .admitted call | .denying call _ _ | .authorized call _ | .failing call _ => some call
  | .issued ask | .fenceBegun ask | .fenced ask _ | .upstream ask _ | .answered ask _ _ =>
      some ask.call
  | _ => none

inductive BrokerStep {F : Type} [FloatFormat F] (host : Host F) :
    ThreadStep ExternalDb (BrokerThread F) where
  | service {db db' : ExternalDb} {thread thread' : ExternalThread}
      (step : ExternalStep F db thread db' thread') :
      BrokerStep host db (.service thread) db' (.service thread')
  | register {db : ExternalDb} {request : Registration} {draw : RegisterDraw}
      {before after : Database} {registry' : Registry} (free : db.locked = false)
      (done : registerExternalConnection F draw request before db.registry =
        .ok (after, registry')) :
      BrokerStep host db (.registering request) { db with locked := true }
        (.committing registry' .registered .unregistered)
  /-- the size or a limiter -/
  | turnAway {db : ExternalDb} {call : BrokerCall F} :
      BrokerStep host db (.called call) db (.ended (.turnedAway call))
  | giveSlot {db : ExternalDb} {call : BrokerCall F} (fits : call.target.checkSize = .ok ()) :
      BrokerStep host db (.called call) db (.admitted call)
  | authorize {db : ExternalDb} {call : BrokerCall F} {connection : Connection F}
      (verdict : call.authorize host.isUnsafe db.registry = .authorized connection) :
      BrokerStep host db (.admitted call) db (.authorized call connection)
  | deny {db : ExternalDb} {call : BrokerCall F} {reason message : String}
      (verdict : call.authorize host.isUnsafe db.registry = .denied reason message) :
      BrokerStep host db (.admitted call) db (.denying call reason message)
  | refuse {db : ExternalDb} {call : BrokerCall F} {message : String}
      (verdict : call.authorize host.isUnsafe db.registry = .refused message) :
      BrokerStep host db (.admitted call) db (.ended (.unrecorded call (.folio message)))
  | break {db : ExternalDb} {call : BrokerCall F}
      (verdict : call.authorize host.isUnsafe db.registry = .broken) :
      BrokerStep host db (.admitted call) db (.ended (.unrecorded call .other))
  | readFails {db : ExternalDb} {call : BrokerCall F} :
      BrokerStep host db (.admitted call) db (.ended (.lost call (some .other)))
  | recordDenial {db : ExternalDb} {call : BrokerCall F} {reason message : String}
      {registry' : Registry} (uuid : Uuid) (now : String) (free : db.locked = false)
      (written : writeExternalAudit db.registry call.caller (call.target.entry "denied" reason) uuid
        now = .ok registry') :
      BrokerStep host db (.denying call reason message) { db with locked := true }
        (.committing registry' (.raised call (.folio message))
          (.lost call (some (.folio message))))
  /-- as where the tenant is not there -/
  | denialFails {db : ExternalDb} {call : BrokerCall F} {reason message : String} :
      BrokerStep host db (.denying call reason message) db (.ended (.lost call (some (.folio message))))
  /-- the callback before the call raises -/
  | veto {db : ExternalDb} {call : BrokerCall F} {connection : Connection F}
      (isTool : call.target.isTool = true) (raised : CallError) :
      BrokerStep host db (.authorized call connection) db
        (.failing call (adapterError "external MCP adapter validation failed"
          "adapter_policy_denied" "denied" raised))
  | issueFails {db : ExternalDb} {call : BrokerCall F} {connection : Connection F}
      {error : CallError} (broker : Broker F) (failed : broker.credential connection = .error error) :
      BrokerStep host db (.authorized call connection) db (.failing call error)
  | issue {db : ExternalDb} {call : BrokerCall F} {connection : Connection F}
      {credential : Option PyStr} (broker : Broker F)
      (given : broker.credential connection = .ok credential) :
      BrokerStep host db (.authorized call connection) db (.issued ⟨call, connection, credential⟩)
  /-- `BEGIN IMMEDIATE` -/
  | fenceBegin {db : ExternalDb} {ask : Ask F} (free : db.locked = false) :
      BrokerStep host db (.issued ask) { db with locked := true } (.fenceBegun ask)
  | fenceBusy {db : ExternalDb} {ask : Ask F} :
      BrokerStep host db (.issued ask) db (.failing ask.call .other)
  | fenceSelect {db : ExternalDb} {ask : Ask F} {connection : Connection F}
      (read : externalRow F db.registry ask.call.caller.tenantId ask.call.caller.connectionId =
        .ok connection)
      (active : connection.row.status = .active) :
      BrokerStep host db (.fenceBegun ask) db (.fenced ask connection)
  | fenceRevoked {db : ExternalDb} {ask : Ask F} {connection : Connection F}
      (read : externalRow F db.registry ask.call.caller.tenantId ask.call.caller.connectionId =
        .ok connection)
      (gone : connection.row.status ≠ .active) :
      BrokerStep host db (.fenceBegun ask) { db with locked := false }
        (.failing ask.call (.folio revokedMessage))
  | fenceFails {db : ExternalDb} {ask : Ask F} {failure : Failure}
      (read : externalRow F db.registry ask.call.caller.tenantId ask.call.caller.connectionId =
        .error failure) :
      BrokerStep host db (.fenceBegun ask) { db with locked := false }
        (.failing ask.call (.ofFailure failure))
  | start {db : ExternalDb} {ask : Ask F} {connection : Connection F} :
      BrokerStep host db (.fenced ask connection) db (.upstream ask connection)
  | upstreamFails {db : ExternalDb} {ask : Ask F} {connection : Connection F} (error : CallError) :
      BrokerStep host db (.upstream ask connection) { db with locked := false }
        (.failing ask.call error)
  | reject {db : ExternalDb} {ask : Ask F} {connection : Connection F} {message : String}
      (answer : PyValue F)
      (unbounded : boundedResult host.interpreter answer ask.credential = .error message) :
      BrokerStep host db (.upstream ask connection) { db with locked := false }
        (.failing ask.call (.external message))
  /-- the callback on the answer raises -/
  | invalidate {db : ExternalDb} {ask : Ask F} {connection : Connection F}
      (isTool : ask.call.target.isTool = true) (raised : CallError) :
      BrokerStep host db (.upstream ask connection) { db with locked := false }
        (.failing ask.call (adapterError "external MCP result failed adapter validation"
          "adapter_result_invalid" "failed" raised))
  | answer {db : ExternalDb} {ask : Ask F} {connection : Connection F} {answer : PyValue F}
      (bounded : boundedResult host.interpreter answer ask.credential = .ok ()) :
      BrokerStep host db (.upstream ask connection) { db with locked := false }
        (.answered ask connection answer)
  | commitFails {db : ExternalDb} {ask : Ask F} {connection : Connection F} :
      BrokerStep host db (.upstream ask connection) { db with locked := false }
        (.failing ask.call .other)
  | recordAllowed {db : ExternalDb} {ask : Ask F} {connection : Connection F} {answer : PyValue F}
      {registry' : Registry} (uuid : Uuid) (now : String) (free : db.locked = false)
      (written : writeExternalAudit db.registry ask.call.caller
        (ask.call.target.entry "allowed" "completed") uuid now = .ok registry') :
      BrokerStep host db (.answered ask connection answer) { db with locked := true }
        (.committing registry' (.returned ask connection answer)
          (.lost ask.call (some (.external ask.call.target.failed))))
  | allowedFails {db : ExternalDb} {ask : Ask F} {connection : Connection F} {answer : PyValue F} :
      BrokerStep host db (.answered ask connection answer) db
        (.ended (.lost ask.call (some (.external ask.call.target.failed))))
  | recordFailure {db : ExternalDb} {call : BrokerCall F} {error : CallError}
      {registry' : Registry} (uuid : Uuid) (now : String) (free : db.locked = false)
      (written : writeExternalAudit db.registry call.caller (call.target.failureEntry error) uuid
        now = .ok registry') :
      BrokerStep host db (.failing call error) { db with locked := true }
        (.committing registry' (.raised call (.external (call.target.failureMessage error)))
          (.lost call (some (.external (call.target.failureMessage error)))))
  | failureFails {db : ExternalDb} {call : BrokerCall F} {error : CallError} :
      BrokerStep host db (.failing call error) db
        (.ended (.lost call (some (.external (call.target.failureMessage error)))))
  | commit {db : ExternalDb} {draft : Registry} {done failed : Ending F} :
      BrokerStep host db (.committing draft done failed) ⟨draft, false⟩ (.ended done)
  | rollback {db : ExternalDb} {draft : Registry} {done failed : Ending F} :
      BrokerStep host db (.committing draft done failed) { db with locked := false }
        (.ended failed)
  /-- the process ends -/
  | stop {db : ExternalDb} {thread : BrokerThread F} {call : BrokerCall F}
      (pending : thread.pending = some call) :
      BrokerStep host db thread { db with locked := db.locked && !thread.holds }
        (.ended (.lost call none))

/-- What starts a thread. -/
inductive BrokerRequest (F : Type) where
  | service (call : ExternalCall)
  | register (request : Registration)
  | ask (call : BrokerCall F)

def BrokerRequest.begin {F : Type} : BrokerRequest F → BrokerThread F
  | .service call => .service call.begin
  | .register request => .registering request
  | .ask call => .called call

def brokerStart {ι F : Type} (registry : Registry) (requests : ι → BrokerRequest F) :
    Config ι ExternalDb (BrokerThread F) :=
  ⟨⟨registry, false⟩, fun i => (requests i).begin⟩

end FolioLattice.External
