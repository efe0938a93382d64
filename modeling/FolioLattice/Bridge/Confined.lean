/-
`AttachedMcpBridge.call`: what of a validated request reaches the tools, what comes back
from them, and the record of the decision.
-/

import FolioLattice.Bridge.Requests

namespace FolioLattice.Bridge

open FolioLattice.Data FolioLattice.External

/-! ### The boundary -/

/-- `McpAttachment` -/
structure McpAttachment where
  name : PyStr
  allowedOperations : List PyStr

def defaultAttachment : McpAttachment := ⟨bridgeAttachment, bridgeTools⟩

structure CapabilityBoundary where
  attachments : List (PyStr × McpAttachment)

/-- `CapabilityBoundary(attachments)` -/
def CapabilityBoundary.ofAttachments (attachments : List McpAttachment) : CapabilityBoundary :=
  ⟨dictOf ((defaultAttachment :: attachments).map (fun item => (item.name, item)))⟩

def CapabilityBoundary.authorize (boundary : CapabilityBoundary) (mcpName operation : PyStr) :
    Bool :=
  match lookup mcpName boundary.attachments with
  | some attachment => attachment.allowedOperations.contains operation
  | none => false

def defaultBoundary : CapabilityBoundary := .ofAttachments []

/-! ### The call -/

variable {F : Type}

/-- What the tools may do when they are called: return, raise a `TimeoutError` or run out of
the time that the bridge leaves them, raise another exception, or be cancelled from
outside. -/
inductive Downstream (F : Type) where
  | returned (value : PyValue F)
  | timeout
  | raised
  | cancelled

inductive Decision where
  | allow
  | deny
  | error
  deriving DecidableEq

/-- An `attached_mcp_decision` record; how long the call took is left out. -/
structure DecisionRecord where
  requestId : PyStr
  artifactId : PyStr
  attachment : PyStr
  tool : PyStr
  decision : Decision
  reason : String
  deriving DecidableEq

structure AttachedMcpBridge (F : Type) where
  caller : PyStr → Arguments F → Downstream F
  boundary : CapabilityBoundary
  maxResultBytes : Nat
  stack : DumpsStack F

/-- A call of the bridge: the records that it wrote, what reached the tools, and how it
ended. -/
structure Called (F : Type) where
  records : List DecisionRecord
  reached : Option (PyStr × Arguments F)
  result : Except BridgeFailure (PyValue F)

/-- `value == text` -/
def sameText (text : PyStr) : PyValue F → Bool
  | .str other => other = text
  | _ => false

/-- `item.get(key)` -/
def getItem (key : PyStr) (entries : List (PyValue F × PyValue F)) : Option (PyValue F) :=
  (entries.find? (fun entry => sameText key entry.1)).map (·.2)

/-- A mapping whose `artifact_id` is the given one. -/
def isOfArtifact (artifactId : PyStr) : PyValue F → Bool
  | .dict entries => (getItem (pyStr "artifact_id") entries).any (sameText artifactId)
  | _ => false

/-- `_restrict_search_result` -/
def restrictSearchResult (artifactId : PyStr) : PyValue F → Option (PyValue F)
  | .list items => some (.list (items.filter (isOfArtifact artifactId)))
  | _ => none

variable [FloatFormat F]

/-- `json.dumps(result, separators=(",", ":"), allow_nan=False)` -/
def encodeResult (stack : DumpsStack F) (result : PyValue F) : Option (List Char) :=
  if stack.overflows result then none else result.dumps

/-- The record of a decision on the request. -/
def BridgeRequest.record (request : BridgeRequest F) (decision : Decision) (reason : String) :
    DecisionRecord :=
  ⟨request.requestId, request.artifactId, request.attachment, request.tool, decision, reason⟩

/-- The checks of the result. -/
def AttachedMcpBridge.finish (bridge : AttachedMcpBridge F) (request : BridgeRequest F)
    (value : PyValue F) : DecisionRecord × Except BridgeFailure (PyValue F) :=
  match (if request.tool = artifactSearch then restrictSearchResult request.artifactId value
      else some value) with
  | none =>
      (request.record .error "invalid_result", .error (.publicMcp "MCP result failed validation"))
  | some result =>
      match encodeResult bridge.stack result with
      | none =>
          (request.record .error "invalid_result",
            .error (.publicMcp "MCP result failed validation"))
      | some encoded =>
          if bridge.maxResultBytes < encoded.length then
            (request.record .error "oversized_result",
              .error (.publicMcp "MCP result exceeds the bridge size limit"))
          else (request.record .allow "completed", .ok result)

def AttachedMcpBridge.call (bridge : AttachedMcpBridge F) (request : BridgeRequest F) : Called F :=
  if !bridge.boundary.authorize request.attachment request.tool then
    ⟨[request.record .deny "capability_not_attached"], none,
      .error (.request "attached MCP tool is not permitted" "capability_not_attached")⟩
  else
    match requireArtifactBinding request.tool request.artifactId request.arguments with
    | .error (.request message reason) =>
        ⟨[request.record .deny reason], none, .error (.request message reason)⟩
    | .error failure => ⟨[], none, .error failure⟩
    | .ok () =>
        let reached := some (request.tool, request.arguments)
        match bridge.caller request.tool request.arguments with
        | .timeout =>
            ⟨[request.record .error "timeout"], reached, .error (.publicMcp "MCP call timed out")⟩
        | .raised =>
            ⟨[request.record .error "tool_error"], reached,
              .error (.publicMcp "MCP call failed safely")⟩
        | .cancelled => ⟨[], reached, .error .cancelled⟩
        | .returned value =>
            let (record, result) := bridge.finish request value
            ⟨[record], reached, result⟩

/-- `AttachedMcpBridge(caller, max_result_bytes=…)`, with the boundary that is the default. -/
def attachedMcpBridge (caller : PyStr → Arguments F → Downstream F) (maxResultBytes : Nat)
    (stack : DumpsStack F) : AttachedMcpBridge F :=
  ⟨caller, defaultBoundary, maxResultBytes, stack⟩

/-! ### An artifact is confined to itself -/

/-- The artifact that a tool is asked about, where it is asked about one. -/
def Targets (tool artifactId : PyStr) (arguments : Arguments F) : Prop :=
  (tool = artifactRead → lookup (pyStr "artifact_id") arguments = some (.str artifactId)) ∧
    (tool = graphTraverse →
      lookup (pyStr "start_artifact_id") arguments = some (.str artifactId))

/-- Items of the artifact only. -/
def OfArtifact (artifactId : PyStr) (result : PyValue F) : Prop :=
  ∃ items, result = .list items ∧ ∀ item ∈ items, ∃ entries, item = .dict entries ∧
    getItem (pyStr "artifact_id") entries = some (.str artifactId)

/-- What reaches the tools, and what comes back, stays with the artifact of the request. -/
structure Confined (bridge : AttachedMcpBridge F) (request : BridgeRequest F) : Prop where
  reached : ∀ tool arguments, (bridge.call request).reached = some (tool, arguments) →
    tool ∈ bridgeTools ∧ Within (knownFields tool) arguments ∧
      Targets tool request.artifactId arguments
  returned : ∀ result, (bridge.call request).result = .ok result →
    (∃ encoded, result.dumps = some encoded ∧ encoded.length ≤ bridge.maxResultBytes) ∧
      (request.tool = artifactSearch → OfArtifact request.artifactId result)
  again : validateBridgeRequest bridge.stack request.dict = .ok request

omit [FloatFormat F] in
theorem targets_eq {key artifactId : PyStr} {arguments : Arguments F}
    (same : targets key artifactId arguments = true) :
    lookup key arguments = some (.str artifactId) := by
  unfold targets at same
  split at same
  · rename_i target found
    rw [found, of_decide_eq_true same]
  · cases same

omit [FloatFormat F] in
theorem requireArtifactBinding_ok {tool artifactId : PyStr} {arguments : Arguments F}
    (bound : requireArtifactBinding tool artifactId arguments = .ok ()) :
    Targets tool artifactId arguments := by
  unfold requireArtifactBinding at bound
  split_ifs at bound with free
  rw [not_or, not_and, not_and] at free
  exact ⟨fun read => targets_eq (eq_true_of_ne_false (free.1 read)),
    fun traverse => targets_eq (eq_true_of_ne_false (free.2 traverse))⟩

theorem authorize_default {attachment tool : PyStr}
    (authorized : defaultBoundary.authorize attachment tool = true) : tool ∈ bridgeTools := by
  unfold CapabilityBoundary.authorize at authorized
  split at authorized
  · rename_i known found
    have only : defaultBoundary.attachments = [(bridgeAttachment, defaultAttachment)] := rfl
    rw [only] at found
    obtain ⟨entry, inside, same⟩ := Option.map_eq_some_iff.mp found
    rw [← same, List.mem_singleton.mp (List.mem_of_find?_eq_some inside)] at authorized
    exact List.contains_iff_mem.mp authorized
  · cases authorized

omit [FloatFormat F] in
theorem sameText_eq {text : PyStr} {value : PyValue F} (same : sameText text value = true) :
    value = .str text := by
  cases value with
  | str other => rw [of_decide_eq_true same]
  | _ => cases same

omit [FloatFormat F] in
theorem restrictSearchResult_ofArtifact {artifactId : PyStr} {value result : PyValue F}
    (restricted : restrictSearchResult artifactId value = some result) :
    OfArtifact artifactId result := by
  cases value with
  | list items =>
      cases restricted
      refine ⟨_, rfl, fun item member => ?_⟩
      have kept := (List.mem_filter.mp member).2
      cases item with
      | dict entries =>
          unfold isOfArtifact at kept
          dsimp only at kept
          cases found : getItem (pyStr "artifact_id") entries with
          | none =>
              rw [found] at kept
              cases kept
          | some other =>
              rw [found] at kept
              exact ⟨entries, rfl, by rw [found, sameText_eq kept]⟩
      | _ => cases kept
  | _ => cases restricted

/-- What the checks let through. -/
theorem AttachedMcpBridge.finish_ok {bridge : AttachedMcpBridge F} {request : BridgeRequest F}
    {value result : PyValue F} (fine : (bridge.finish request value).2 = .ok result) :
    (∃ encoded, result.dumps = some encoded ∧ encoded.length ≤ bridge.maxResultBytes) ∧
      (request.tool = artifactSearch → OfArtifact request.artifactId result) := by
  unfold AttachedMcpBridge.finish at fine
  split at fine
  · cases fine
  · rename_i checked restricted
    split at fine
    · cases fine
    · rename_i encoded printed
      split at fine
      · cases fine
      · rename_i short
        cases fine
        unfold encodeResult at printed
        split at printed
        · cases printed
        · refine ⟨⟨encoded, printed, Nat.le_of_not_lt short⟩, fun search => ?_⟩
          rw [if_pos search] at restricted
          exact restrictSearchResult_ofArtifact restricted

/-- How a call of the bridge goes. -/
theorem AttachedMcpBridge.call_cases (bridge : AttachedMcpBridge F) (request : BridgeRequest F) :
    ((bridge.call request).reached = none ∧ ∃ failure, (bridge.call request).result = .error failure) ∨
    (bridge.boundary.authorize request.attachment request.tool = true ∧
      requireArtifactBinding request.tool request.artifactId request.arguments = .ok () ∧
      (bridge.call request).reached = some (request.tool, request.arguments) ∧
      ((∃ value, bridge.caller request.tool request.arguments = .returned value ∧
          (bridge.call request).result = (bridge.finish request value).2) ∨
        ∃ failure, (bridge.call request).result = .error failure)) := by
  unfold AttachedMcpBridge.call
  split
  · exact Or.inl ⟨rfl, _, rfl⟩
  · rename_i authorized
    rw [Bool.not_eq_true', Bool.not_eq_false] at authorized
    split
    · exact Or.inl ⟨rfl, _, rfl⟩
    · exact Or.inl ⟨rfl, _, rfl⟩
    · rename_i bound
      refine Or.inr ⟨authorized, bound, ?_⟩
      cases bridge.caller request.tool request.arguments with
      | returned value => exact ⟨rfl, Or.inl ⟨value, rfl, rfl⟩⟩
      | timeout => exact ⟨rfl, Or.inr ⟨_, rfl⟩⟩
      | raised => exact ⟨rfl, Or.inr ⟨_, rfl⟩⟩
      | cancelled => exact ⟨rfl, Or.inr ⟨_, rfl⟩⟩

/-- Whatever the artifact sends and however the tools answer: a request that is validated
and called is confined to the artifact it is bound to. -/
theorem bridge_confines (caller : PyStr → Arguments F → Downstream F) (maxResultBytes : Nat)
    (stack : DumpsStack F) (value : Json F) (request : BridgeRequest F)
    (valid : validateBridgeRequest stack value = .ok request) :
    Confined (attachedMcpBridge caller maxResultBytes stack) request := by
  have accepted := validateBridgeRequest_ok valid
  constructor
  · intro tool arguments reached
    rcases (attachedMcpBridge caller maxResultBytes stack).call_cases request with
      ⟨nowhere, _⟩ | ⟨authorized, bound, here, _⟩
    · rw [nowhere] at reached
      cases reached
    · rw [here] at reached
      cases reached
      have member := authorize_default authorized
      exact ⟨member, accepted.known member, requireArtifactBinding_ok bound⟩
  · intro result returned
    rcases (attachedMcpBridge caller maxResultBytes stack).call_cases request with
      ⟨_, failure, failed⟩ | ⟨_, _, _, ⟨answer, _, same⟩ | ⟨failure, failed⟩⟩
    · rw [failed] at returned
      cases returned
    · rw [same] at returned
      exact AttachedMcpBridge.finish_ok returned
    · rw [failed] at returned
      cases returned
  · exact accepted.again

/-! ### A request that goes through -/

/-- The search that an artifact makes. -/
def searchRequest : BridgeRequest Empty :=
  ⟨pyStr "1", pyStr "art_1", bridgeAttachment, artifactSearch, [(pyStr "query", .str (pyStr "x"))]⟩

def searchItem (artifactId : String) : PyValue Empty :=
  .dict [(.str (pyStr "artifact_id"), .str (pyStr artifactId))]

/-- Tools that find two artifacts. -/
def searchCaller : PyStr → Arguments Empty → Downstream Empty :=
  fun _ _ => .returned (.list [searchItem "art_1", searchItem "art_2"])

def roomyStack : DumpsStack Empty := ⟨fun _ => false, fun _ _ => rfl⟩

theorem searchRequest_accepted : validateBridgeRequest roomyStack searchRequest.dict =
    .ok searchRequest := by
  rfl

theorem bridge_confines_search :
    validateBridgeRequest roomyStack searchRequest.dict = .ok searchRequest ∧
    Confined (attachedMcpBridge searchCaller 100 roomyStack) searchRequest ∧
    (attachedMcpBridge searchCaller 100 roomyStack).call searchRequest =
      ⟨[searchRequest.record .allow "completed"], some (artifactSearch, searchRequest.arguments),
        .ok (.list [searchItem "art_1"])⟩ :=
  ⟨searchRequest_accepted,
    bridge_confines searchCaller 100 roomyStack searchRequest.dict searchRequest
      searchRequest_accepted,
    by rfl⟩

end FolioLattice.Bridge
