/-
Registering an external connection and revoking one, each in its transaction.
-/

import FolioLattice.Effects.Fallible
import FolioLattice.External.Finality
import FolioLattice.Store.Artifacts

namespace FolioLattice.External

open FolioLattice.Text FolioLattice.Data FolioLattice.Store FolioLattice.Relational
open FolioLattice.Effects (except_bind_ok)

/-! ### Registering -/

def maxExternalConnectionNameLength : Nat := 255

def externalMcpPolicyVersion : String := "external-mcp-v1"

/-- A registration.  What the checks of its URLs, lists, policy and reference give is taken
as they give it; they read no table. -/
structure Registration where
  tenantId : String
  actor : String
  name : String
  endpoint : String
  reason : String
  /-- `_external_origin(endpoint, endpoint=True)` -/
  endpointOrigin : Except Failure String
  tools : Except Failure (List String)
  resources : Except Failure (List String)
  origins : Except Failure (List String)
  policyJson : Except Failure String
  credential : Except Failure (Option String)

structure RegisterDraw where
  connectionId : Uuid
  now : Timestamp
  tenantAt : Timestamp
  auditId : Uuid
  auditAt : Timestamp

def Registration.validate (F : Type) [FloatFormat F] (draw : RegisterDraw)
    (request : Registration) : Except Failure ConnectionRow := do
  validateText "tenant_id" request.tenantId maxNameLength
  validateText "actor" request.actor maxNameLength
  validateText "name" request.name maxExternalConnectionNameLength
  validateText "reason" request.reason maxReasonLength
  let endpointOrigin ← request.endpointOrigin
  let tools ← request.tools
  let resources ← request.resources
  let origins ← request.origins
  if tools = [] ∧ resources = [] then
    .error (.folio "external MCP connection needs an explicit tool or resource allowlist")
  else if endpointOrigin ∉ origins then
    .error (.folio "external MCP endpoint origin must be explicitly allowed")
  else
    let policyJson ← request.policyJson
    let credential ← request.credential
    .ok {
      id := newId "extconn" draw.connectionId
      tenantId := request.tenantId
      name := request.name
      endpoint := request.endpoint
      origin := endpointOrigin
      approvedTools := itemsText F tools
      approvedResources := itemsText F resources
      allowedOrigins := itemsText F (orderBy id origins)
      policyJson := policyJson
      credentialRef := credential
      status := .active
      healthStatus := .unknown
      lastHealthAt := none
      createdBy := request.actor
      createdAt := draw.now.isoformat
      revokedBy := none
      revokedAt := none
      policyVersion := externalMcpPolicyVersion }

/-- `PRIMARY KEY` and `UNIQUE(tenant_id, name)`. -/
def ConnectionRow.clashes (new old : ConnectionRow) : Bool :=
  new.id = old.id || (new.tenantId = old.tenantId && new.name = old.name)

def registerEntry : AuditEntry := ⟨"register", "allowed", unspecifiedReason, none⟩

/-- `register_external_connection` up to the end of its transaction. -/
def registerExternalConnection (F : Type) [FloatFormat F] (draw : RegisterDraw)
    (request : Registration) (db : Database) (registry : Registry) :
    Except Failure (Database × Registry) := do
  let row ← request.validate F draw
  let db ← ensureTenant db request.tenantId draw.tenantAt
  match insertUnique ConnectionRow.clashes row registry.connections with
  | .error _ => .error (.folio "external MCP connection name already exists")
  | .ok connections =>
      match writeExternalAudit { registry with connections := connections }
          ⟨request.tenantId, row.id, request.actor⟩ registerEntry draw.auditId
          draw.auditAt.isoformat with
      | .error _ => .error (.folio "external MCP registration failed")
      | .ok registry => .ok (db, registry)

/-! ### Revoking -/

structure RevocationDraw where
  now : Timestamp
  auditId : Uuid
  auditAt : Timestamp

/-- `revoke_external_connection` up to the end of its transaction. -/
def revokeExternalConnection (F : Type) [FloatFormat F] (draw : RevocationDraw) (caller : Caller)
    (reason : String) (registry : Registry) : Except Failure Registry := do
  validateText "actor" caller.actor maxNameLength
  validateText "reason" reason maxReasonLength
  let connection ← externalRow F registry caller.tenantId caller.connectionId
  let written := if connection.row.status = .active then some draw.now.isoformat else none
  let audited ← writeExternalAudit (registry.revokeIf caller written) caller (revokeEntry written)
    draw.auditId draw.auditAt.isoformat
  let _ ← externalRow F audited caller.tenantId caller.connectionId
  .ok audited

end FolioLattice.External
