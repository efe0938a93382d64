/-
The tools of the MCP server up to the point where they turn to the store or to the
external broker: who the call runs as, and what a request capability lets through.
-/

import FolioLattice.Auth.Principals

namespace FolioLattice.Server

open FolioLattice.Text FolioLattice.Data FolioLattice.Auth
open FolioLattice.Effects (except_bind_ok)

/-! ### Tools -/

/-- The tools that look at a capability only through `identity`, as their first act. -/
inductive PlainTool where
  | artifactCreate
  | artifactList
  | artifactReadChunk
  | artifactGrep
  | graphLink
  | graphTraverse
  | graphComponent
  | artifactVersions
  | artifactShare
  | artifactRevoke
  | artifactAcl
  | externalMcpConnectionRegister
  | externalMcpConnectionList
  | externalMcpConnectionStatus
  | externalMcpConnectionRevoke
  | externalMcpAudit
  | auditExport
  | externalMcpToolCall
  | externalMcpResourceRead
  deriving DecidableEq

def PlainTool.name : PlainTool → String
  | .artifactCreate => "artifact_create"
  | .artifactList => "artifact_list"
  | .artifactReadChunk => "artifact_read_chunk"
  | .artifactGrep => "artifact_grep"
  | .graphLink => "graph_link"
  | .graphTraverse => "graph_traverse"
  | .graphComponent => "graph_component"
  | .artifactVersions => "artifact_versions"
  | .artifactShare => "artifact_share"
  | .artifactRevoke => "artifact_revoke"
  | .artifactAcl => "artifact_acl"
  | .externalMcpConnectionRegister => "external_mcp_connection_register"
  | .externalMcpConnectionList => "external_mcp_connection_list"
  | .externalMcpConnectionStatus => "external_mcp_connection_status"
  | .externalMcpConnectionRevoke => "external_mcp_connection_revoke"
  | .externalMcpAudit => "external_mcp_audit"
  | .auditExport => "audit_export"
  | .externalMcpToolCall => "external_mcp_tool_call"
  | .externalMcpResourceRead => "external_mcp_resource_read"

def externalMcpAdminScope : String := "tenant:admin"

/-- `TOOL_SCOPES` -/
def PlainTool.scope : PlainTool → String
  | .artifactCreate => "artifact:write"
  | .artifactList => "artifact:read"
  | .artifactReadChunk => "artifact:read"
  | .artifactGrep => "artifact:search"
  | .graphLink => "graph:write"
  | .graphTraverse => "graph:read"
  | .graphComponent => "graph:read"
  | .artifactVersions => "artifact:read"
  | .artifactShare => "artifact:share"
  | .artifactRevoke => "artifact:share"
  | .artifactAcl => "artifact:share"
  | .externalMcpConnectionRegister => externalMcpAdminScope
  | .externalMcpConnectionList => externalMcpAdminScope
  | .externalMcpConnectionStatus => externalMcpAdminScope
  | .externalMcpConnectionRevoke => externalMcpAdminScope
  | .externalMcpAudit => externalMcpAdminScope
  | .auditExport => externalMcpAdminScope
  | .externalMcpToolCall => externalMcpAdminScope
  | .externalMcpResourceRead => externalMcpAdminScope

/-- A call with its arguments, as the schema of the tool has let them in. -/
inductive ToolCall (F : Type) where
  | artifactRead (artifactId : PyStr) (versionId : Option PyStr)
  | artifactSearch (query : PyStr) (limit : Int) (graphRootArtifactId cursor : Option PyStr)
  | artifactWrite (arguments : List (PyStr × Json F))
  | plain (tool : PlainTool) (arguments : List (PyStr × Json F))

inductive McpError where
  | toolError (message : String)
  | folioError (message : String)
  | valueError (message : String)
  deriving DecidableEq

/-- What is asked of the store or the broker: the tool's operation on its arguments,
for this tenant and actor, with the actor whose grants are looked at, if any. -/
structure Operation (F : Type) where
  tenantId : PyStr
  actor : PyStr
  policyActor : Option PyStr
  call : ToolCall F

/-- The identity the server was built with. -/
structure McpServer where
  tenantId : Option PyStr
  actor : Option PyStr

/-- The context of a request. -/
structure RequestContext where
  principal : Option Principal
  capability : Option CapabilityBinding

section Calls

variable {F : Type} (server : McpServer) (request : RequestContext)

def notPermitted : McpError := .toolError "operation not permitted"

/-- `identity(*required_scopes, tool=tool)` -/
def McpServer.identity (requiredScopes : List String) (tool : String) :
    Except McpError (PyStr × PyStr) :=
  if request.capability.any (fun capability => capability.tool ≠ pyStr tool) then
    .error notPermitted
  else
    match request.principal with
    | some principal =>
        if requiredScopes.any (fun scope => pyStr scope ∉ principal.scopes.sorted) then
          .error notPermitted
        else .ok (principal.tenantId, principal.actorId)
    | none =>
        match server.tenantId, server.actor with
        | some tenantId, some actor => .ok (tenantId, actor)
        | _, _ => .error (.folioError "authentication required")

/-- `policy_actor` -/
def McpServer.policyActor (requestActor : PyStr) : Option PyStr :=
  if request.principal.isSome then some requestActor
  else if server.tenantId.isSome ∧ server.actor.isSome then none
  else some requestActor

/-- The operation, as whoever the request runs as. -/
def McpServer.operate (requiredScopes : List String) (tool : String) (call : ToolCall F) :
    Except McpError (Operation F) := do
  let (tenantId, actor) ← server.identity request requiredScopes tool
  .ok ⟨tenantId, actor, server.policyActor request actor, call⟩

/-- `_tool_errors`: both messages of `identity` are among the safe ones. -/
def toolErrors {α : Type} (result : Except McpError α) : Except McpError α :=
  match result with
  | .error (.folioError message) => .error (.toolError message)
  | .error (.valueError message) => .error (.toolError message)
  | other => other

variable [FloatFormat F]

/-- The arguments that `artifact_read` digests. -/
def readArguments (artifactId : PyStr) (versionId : Option PyStr) : List (PyStr × Json F) :=
  (pyStr "artifact_id", .str artifactId) ::
    match versionId with
    | some versionId => [(pyStr "version_id", .str versionId)]
    | none => []

/-- The check of `artifact_read` before it asks who is calling. -/
def checkCapability (F : Type) [FloatFormat F] (capability : Option CapabilityBinding)
    (artifactId : PyStr) (versionId : Option PyStr) : Except McpError Unit :=
  match capability with
  | none => .ok ()
  | some capability =>
      if capability.tool ≠ pyStr "artifact_read" then .error notPermitted
      else
        match capabilityArgumentsDigest (readArguments (F := F) artifactId versionId) with
        | .error e => .error (.valueError e.message)
        | .ok digest =>
            if capability.argumentsDigest ≠ digest then .error notPermitted else .ok ()

/-- The tool function, up to what it asks of the store or the broker. -/
def McpServer.callTool : ToolCall F → Except McpError (Operation F)
  | .artifactRead artifactId versionId => do
      checkCapability F request.capability artifactId versionId
      server.operate request ["artifact:read"] "artifact_read" (.artifactRead artifactId versionId)
  | .artifactSearch query limit graphRootArtifactId cursor =>
      server.operate request
        ("artifact:search" :: if graphRootArtifactId.isSome then ["graph:read"] else [])
        "artifact_search" (.artifactSearch query limit graphRootArtifactId cursor)
  | .artifactWrite arguments =>
      -- asks who is calling within the guarded operation
      toolErrors (server.operate request ["artifact:write"] "artifact_write"
        (.artifactWrite arguments))
  | .plain tool arguments =>
      server.operate request [tool.scope] tool.name (.plain tool arguments)

end Calls

/-! ### What a capability lets through -/

section Capability

variable {F : Type} {server : McpServer} {request : RequestContext}

theorem operate_tool {requiredScopes : List String} {tool : String} {call : ToolCall F}
    {operation : Operation F}
    (operated : server.operate request requiredScopes tool call = .ok operation)
    {capability : CapabilityBinding} (bound : request.capability = some capability) :
    capability.tool = pyStr tool := by
  unfold McpServer.operate at operated
  obtain ⟨_, identified, _⟩ := except_bind_ok operated
  unfold McpServer.identity at identified
  rw [bound] at identified
  split at identified
  · cases identified
  · rename_i fits
    by_contra other
    exact fits (decide_eq_true other)

theorem toolErrors_ok {α : Type} {result : Except McpError α} {value : α}
    (done : toolErrors result = .ok value) : result = .ok value := by
  unfold toolErrors at done
  split at done
  · cases done
  · cases done
  · exact done

theorem PlainTool.name_ne (tool : PlainTool) : pyStr "artifact_read" ≠ pyStr tool.name := by
  cases tool <;> decide

variable [FloatFormat F]

theorem checkCapability_ok {capability : CapabilityBinding} {artifactId : PyStr}
    {versionId : Option PyStr}
    (checked : checkCapability F (some capability) artifactId versionId = .ok ()) :
    capability.tool = pyStr "artifact_read" ∧
      capabilityArgumentsDigest (readArguments (F := F) artifactId versionId) =
        .ok capability.argumentsDigest := by
  unfold checkCapability at checked
  dsimp only at checked
  split at checked
  · cases checked
  · rename_i tool
    rw [ne_eq, not_not] at tool
    split at checked
    · cases checked
    · rename_i digest digested
      split at checked
      · cases checked
      · rename_i matched
        rw [ne_eq, not_not] at matched
        rw [matched]
        exact ⟨tool, digested⟩

/-- Under a capability for `artifact_read` every other tool fails before it asks for
anything, and `artifact_read` asks only for arguments of the capability's digest. -/
theorem callTool_bound {capability : CapabilityBinding}
    (bound : request.capability = some capability)
    (reads : capability.tool = pyStr "artifact_read") {call : ToolCall F} {operation : Operation F}
    (called : server.callTool request call = .ok operation) :
    ∃ artifactId versionId, call = .artifactRead artifactId versionId ∧
      capabilityArgumentsDigest (readArguments (F := F) artifactId versionId) =
        .ok capability.argumentsDigest := by
  cases call with
  | artifactRead artifactId versionId =>
      obtain ⟨_, checked, _⟩ := except_bind_ok called
      rw [bound] at checked
      exact ⟨artifactId, versionId, rfl, (checkCapability_ok checked).2⟩
  | artifactSearch query limit graphRootArtifactId cursor =>
      have tool := operate_tool called bound
      rw [reads] at tool
      exact absurd tool (by decide)
  | artifactWrite arguments =>
      have tool := operate_tool (toolErrors_ok called) bound
      rw [reads] at tool
      exact absurd tool (by decide)
  | plain tool arguments =>
      have named := operate_tool called bound
      rw [reads] at named
      exact absurd named tool.name_ne

/-- An `artifact_read` of the capability's digest is answered as without a capability. -/
theorem callTool_digest (server : McpServer) (principal : Option Principal) {digest artifactId : PyStr}
    {versionId : Option PyStr}
    (digested : capabilityArgumentsDigest (readArguments (F := F) artifactId versionId) =
      .ok digest) :
    server.callTool ⟨principal, some ⟨pyStr "artifact_read", digest⟩⟩
        (.artifactRead artifactId versionId : ToolCall F) =
      server.callTool ⟨principal, none⟩ (.artifactRead artifactId versionId) := by
  have checked : checkCapability F (some ⟨pyStr "artifact_read", digest⟩) artifactId versionId =
      .ok () := by
    unfold checkCapability
    simp only [ne_eq, not_true_eq_false, if_false, digested]
  unfold McpServer.callTool
  simp only [checked]
  unfold McpServer.operate McpServer.identity McpServer.policyActor
  simp only [Option.any_some, Option.any_none, ne_eq, not_true_eq_false, decide_false,
    Bool.false_eq_true, if_false]
  rfl

end Capability

end FolioLattice.Server
