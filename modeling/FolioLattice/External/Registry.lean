/-
The registry of external MCP connections and the record of what was done with them.
-/

import FolioLattice.Store.Validate

namespace FolioLattice.External

open FolioLattice.Text FolioLattice.Data FolioLattice.Store

/-! ### Rows -/

inductive ConnectionStatus where
  | active
  | revoked
  deriving DecidableEq, Repr

inductive HealthStatus where
  | unknown
  | healthy
  | unhealthy
  deriving DecidableEq, Repr

def HealthStatus.name : HealthStatus → String
  | .unknown => "unknown"
  | .healthy => "healthy"
  | .unhealthy => "unhealthy"

/-- `transport` is left out: its CHECK allows one value. -/
structure ConnectionRow where
  id : String
  tenantId : String
  name : String
  endpoint : String
  origin : String
  approvedTools : String
  approvedResources : String
  allowedOrigins : String
  policyJson : String
  credentialRef : Option String
  status : ConnectionStatus
  healthStatus : HealthStatus
  lastHealthAt : Option String
  createdBy : String
  createdAt : String
  revokedBy : Option String
  revokedAt : Option String
  policyVersion : String
  deriving DecidableEq

structure ExternalAuditRow where
  id : String
  tenantId : String
  connectionId : String
  actorId : String
  action : String
  outcome : String
  reason : String
  toolName : Option String
  resourceUri : Option String
  createdAt : String
  deriving DecidableEq

structure Registry where
  connections : List ConnectionRow
  audit : List ExternalAuditRow

/-- Whose call it is and which connection it names. -/
structure Caller where
  tenantId : String
  connectionId : String
  actor : String
  deriving DecidableEq

/-! ### Reading a connection -/

def invalidPolicy : Failure := .folio "external MCP policy is invalid"

def notFound : Failure := .folio "external MCP connection not found"

def connectionRevoked : Failure := .folio "external MCP connection is revoked"

section Reading

def asText {F : Type} : Json F → Option PyStr
  | .str text => some text
  | _ => none

variable (F : Type) [FloatFormat F]

def externalJsonList (value : String) : Except Failure (List PyStr) :=
  match loads (F := F) value.toList with
  | .ok (.arr items) => ((items.mapM asText).map Except.ok).getD (.error invalidPolicy)
  | _ => .error invalidPolicy

def externalPolicyKeys : List PyStr := [pyStr "slack"]

def externalPolicyDict (value : String) : Except Failure (List (PyStr × Json F)) :=
  match loads (F := F) value.toList with
  | .ok (.obj entries) =>
      if entries.all (fun entry => entry.1 ∈ externalPolicyKeys) then .ok entries
      else .error invalidPolicy
  | _ => .error invalidPolicy

/-- A row with its JSON columns parsed. -/
structure Connection where
  row : ConnectionRow
  approvedTools : List PyStr
  approvedResources : List PyStr
  allowedOrigins : List PyStr
  policy : List (PyStr × Json F)

/-- `WHERE id = ? AND tenant_id = ?` -/
def ConnectionRow.at (tenantId connectionId : String) (row : ConnectionRow) : Bool :=
  row.id = connectionId && row.tenantId = tenantId

def Registry.select (registry : Registry) (tenantId connectionId : String) :
    Option ConnectionRow :=
  registry.connections.find? (ConnectionRow.at tenantId connectionId)

def externalRow (registry : Registry) (tenantId connectionId : String) :
    Except Failure (Connection F) := do
  match registry.select tenantId connectionId with
  | none => .error notFound
  | some row =>
      let approvedTools ← externalJsonList F row.approvedTools
      let approvedResources ← externalJsonList F row.approvedResources
      let allowedOrigins ← externalJsonList F row.allowedOrigins
      let policy ← externalPolicyDict F row.policyJson
      .ok ⟨row, approvedTools, approvedResources, allowedOrigins, policy⟩

variable {F}

theorem externalRow_ok {registry : Registry} {tenantId connectionId : String}
    {connection : Connection F} (read : externalRow F registry tenantId connectionId = .ok connection) :
    registry.select tenantId connectionId = some connection.row := by
  unfold externalRow at read
  split at read
  · cases read
  · rename_i row found
    rw [found]
    cases tools : externalJsonList F row.approvedTools with
    | error e =>
        rw [tools] at read
        cases read
    | ok approvedTools =>
        cases resources : externalJsonList F row.approvedResources with
        | error e =>
            rw [tools, resources] at read
            cases read
        | ok approvedResources =>
            cases origins : externalJsonList F row.allowedOrigins with
            | error e =>
                rw [tools, resources, origins] at read
                cases read
            | ok allowedOrigins =>
                cases policy : externalPolicyDict F row.policyJson with
                | error e =>
                    rw [tools, resources, origins, policy] at read
                    cases read
                | ok entries =>
                    rw [tools, resources, origins, policy] at read
                    cases read
                    rfl

/-- `json.dumps(items, separators=(",", ":"))` -/
def itemsText (F : Type) [FloatFormat F] (items : List String) : String :=
  String.ofList (Json.print (.arr (items.map (fun item => .str (pyStr item))) : Json F))

theorem loads_itemsText (items : List String) : loads (itemsText F items).toList =
    .ok (.arr (items.map (fun item => .str (pyStr item))) : Json F) := by
  unfold itemsText
  rw [String.toList_ofList, loads_print]
  · rw [Json.reread, rereadItems_eq, List.map_map]
    congr 2
    apply List.map_congr_left
    intro item _
    exact congrArg Json.str (joinPairs_chars item.toList)
  · rw [Json.encodable, encodableItems_iff]
    intro value member
    obtain ⟨item, _, same⟩ := List.mem_map.mp member
    rw [← same]
    rfl

omit [FloatFormat F] in
theorem mapM_asText (items : List String) :
    (items.map (fun item => (.str (pyStr item) : Json F))).mapM asText =
      some (items.map pyStr) := by
  induction items with
  | nil => rfl
  | cons item rest ih =>
      rw [List.map_cons, List.mapM_cons, ih]
      rfl

/-- A list that was written is read back. -/
theorem externalJsonList_itemsText (items : List String) :
    externalJsonList F (itemsText F items) = .ok (items.map pyStr) := by
  unfold externalJsonList
  rw [loads_itemsText]
  simp only [mapM_asText, Option.map_some, Option.getD_some]

end Reading

/-! ### Writing -/

def Registry.update (registry : Registry) (tenantId connectionId : String)
    (change : ConnectionRow → ConnectionRow) : Registry :=
  { registry with
    connections := registry.connections.map (fun row =>
      if row.at tenantId connectionId then change row else row) }

/-- `SET health_status = ?, last_health_at = ?` -/
def Registry.setHealth (registry : Registry) (caller : Caller) (status : HealthStatus)
    (now : String) : Registry :=
  registry.update caller.tenantId caller.connectionId (fun row =>
    { row with healthStatus := status, lastHealthAt := some now })

/-- `SET status = 'revoked', revoked_by = ?, revoked_at = ?` -/
def Registry.setRevoked (registry : Registry) (caller : Caller) (now : String) : Registry :=
  registry.update caller.tenantId caller.connectionId (fun row =>
    { row with status := .revoked, revokedBy := some caller.actor, revokedAt := some now })

def unspecifiedReason : String := "unspecified"

/-- What the audit row has besides the caller's ids. -/
structure AuditEntry where
  action : String
  outcome : String
  reason : String
  toolName : Option String

/-- The URI of a resource is never written. -/
def ExternalAuditRow.of (caller : Caller) (entry : AuditEntry) (uuid : Uuid) (now : String) :
    ExternalAuditRow where
  id := newId "extaudit" uuid
  tenantId := caller.tenantId
  connectionId := caller.connectionId
  actorId := caller.actor
  action := entry.action
  outcome := entry.outcome
  reason := if entry.reason.isEmpty || 128 < entry.reason.length then unspecifiedReason
    else entry.reason
  toolName := entry.toolName
  resourceUri := none
  createdAt := now

def writeExternalAudit (registry : Registry) (caller : Caller) (entry : AuditEntry) (uuid : Uuid)
    (now : String) : Except Failure Registry :=
  match insertUnique (fun new old => new.id = old.id) (ExternalAuditRow.of caller entry uuid now)
      registry.audit with
  | .ok audit => .ok { registry with audit := audit }
  | .error e => .error e

theorem writeExternalAudit_ok {registry registry' : Registry} {caller : Caller} {entry : AuditEntry}
    {uuid : Uuid} {now : String}
    (written : writeExternalAudit registry caller entry uuid now = .ok registry') :
    registry' = { registry with audit := registry.audit ++ [.of caller entry uuid now] } := by
  unfold writeExternalAudit at written
  split at written
  · rename_i audit inserted
    rw [(insertUnique_ok inserted).1] at written
    exact (Except.ok.inj written).symm
  · cases written

/-! ### What updates leave -/

@[simp]
theorem Registry.update_audit (registry : Registry) (tenantId connectionId : String)
    (change : ConnectionRow → ConnectionRow) :
    (registry.update tenantId connectionId change).audit = registry.audit := rfl

@[simp]
theorem Registry.setHealth_audit (registry : Registry) (caller : Caller) (status : HealthStatus)
    (now : String) : (registry.setHealth caller status now).audit = registry.audit := rfl

@[simp]
theorem Registry.setRevoked_audit (registry : Registry) (caller : Caller) (now : String) :
    (registry.setRevoked caller now).audit = registry.audit := rfl

/-- A row under one key has no other. -/
theorem ConnectionRow.at_same {row : ConnectionRow} {tenantId connectionId tenantId' connectionId' : String}
    (one : row.at tenantId connectionId = true) (two : row.at tenantId' connectionId' = true) :
    tenantId = tenantId' ∧ connectionId = connectionId' := by
  unfold ConnectionRow.at at one two
  rw [Bool.and_eq_true, decide_eq_true_eq, decide_eq_true_eq] at one two
  exact ⟨one.2.symm.trans two.2, one.1.symm.trans two.1⟩

section Update

variable {change : ConnectionRow → ConnectionRow} {tenantId connectionId : String}

theorem Registry.select_update (registry : Registry)
    (sameKey : ∀ row, (change row).id = row.id ∧ (change row).tenantId = row.tenantId) :
    (registry.update tenantId connectionId change).select tenantId connectionId =
      (registry.select tenantId connectionId).map change := by
  unfold Registry.select Registry.update
  simp only
  induction registry.connections with
  | nil => rfl
  | cons row rest ih =>
      rw [List.map_cons]
      by_cases target : row.at tenantId connectionId = true
      · have still : (change row).at tenantId connectionId = true := by
          unfold ConnectionRow.at at target ⊢
          rw [(sameKey row).1, (sameKey row).2]
          exact target
        rw [if_pos target, List.find?_cons_of_pos still, List.find?_cons_of_pos target]
        rfl
      · rw [if_neg target, List.find?_cons_of_neg target, List.find?_cons_of_neg target, ih]

theorem Registry.select_update_other (registry : Registry) {tenantId' connectionId' : String}
    (sameKey : ∀ row, (change row).id = row.id ∧ (change row).tenantId = row.tenantId)
    (other : ¬(tenantId = tenantId' ∧ connectionId = connectionId')) :
    (registry.update tenantId connectionId change).select tenantId' connectionId' =
      registry.select tenantId' connectionId' := by
  unfold Registry.select Registry.update
  simp only
  induction registry.connections with
  | nil => rfl
  | cons row rest ih =>
      rw [List.map_cons]
      by_cases wanted : row.at tenantId' connectionId' = true
      · have kept : ¬row.at tenantId connectionId = true := by
          intro target
          exact other (ConnectionRow.at_same target wanted)
        rw [if_neg kept, List.find?_cons_of_pos wanted, List.find?_cons_of_pos wanted]
      · have still : ¬(if row.at tenantId connectionId = true then change row else row).at tenantId'
            connectionId' = true := by
          split
          · unfold ConnectionRow.at at wanted ⊢
            rw [(sameKey row).1, (sameKey row).2]
            exact wanted
          · exact wanted
        rw [List.find?_cons_of_neg still, List.find?_cons_of_neg wanted, ih]

theorem Registry.select_setRevoked (registry : Registry) (c : Caller) (now : String) :
    (registry.setRevoked c now).select c.tenantId c.connectionId =
      (registry.select c.tenantId c.connectionId).map (fun row =>
        { row with status := .revoked, revokedBy := some c.actor, revokedAt := some now }) :=
  registry.select_update (fun _ => ⟨rfl, rfl⟩)

theorem Registry.select_setRevoked_other (registry : Registry) {c : Caller} (now : String)
    (other : ¬(c.tenantId = tenantId ∧ c.connectionId = connectionId)) :
    (registry.setRevoked c now).select tenantId connectionId =
      registry.select tenantId connectionId :=
  registry.select_update_other (fun _ => ⟨rfl, rfl⟩) other

theorem Registry.select_setHealth_other (registry : Registry) {c : Caller} (status : HealthStatus)
    (now : String) (other : ¬(c.tenantId = tenantId ∧ c.connectionId = connectionId)) :
    (registry.setHealth c status now).select tenantId connectionId =
      registry.select tenantId connectionId :=
  registry.select_update_other (fun _ => ⟨rfl, rfl⟩) other

end Update

end FolioLattice.External
