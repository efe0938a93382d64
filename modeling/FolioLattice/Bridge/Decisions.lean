/-
A request to `/api/bridge`, past the limiters: how it is read, called and answered, and
which `attached_mcp_decision` records it leaves.
-/

import FolioLattice.Bridge.Confined
import FolioLattice.Data.JsonBytes
import FolioLattice.Text.Strings

namespace FolioLattice.Bridge

open FolioLattice.Data FolioLattice.External
open FolioLattice.Text (Bytes strip lower contains)

/-! ### What arrives -/

/-- A message of `receive`. -/
inductive BodyMessage where
  | request (body : Bytes) (moreBody : Bool)
  | disconnect

/-- What becomes of a response that is sent. -/
inductive SendOutcome where
  | sent
  | raised
  | deadline
  deriving DecidableEq

/-- A request as it arrives. The messages are those that arrive before the deadline of the
request; the outcomes are of the result and of an error, where they are sent. -/
structure Exchange where
  headers : List (Bytes × Bytes)
  body : List BodyMessage
  resultSend : SendOutcome
  errorSend : SendOutcome

def asciiLower (bytes : Bytes) : Bytes :=
  bytes.map (fun b => if 0x41 ≤ b ∧ b ≤ 0x5a then b + 0x20 else b)

/-- `{key.lower(): value for key, value in scope["headers"]}.get(name)` -/
def Exchange.header (exchange : Exchange) (name : Bytes) : Option Bytes :=
  (exchange.headers.reverse.find? (fun header => asciiLower header.1 = name)).map (·.2)

def bytesOf (name : String) : Bytes := name.toList.map (fun c => UInt8.ofNat c.toNat)

def decodeLatin1 (bytes : Bytes) : List Char := bytes.map (fun b => Char.ofNat b.toNat)

def Exchange.textHeader (exchange : Exchange) (name : String) : List Char :=
  decodeLatin1 ((exchange.header (bytesOf name)).getD [])

def isByteSpace (b : UInt8) : Bool := b = 0x20 || (0x09 ≤ b && b ≤ 0x0d)

def isByteDigit (b : UInt8) : Bool := 0x30 ≤ b && b ≤ 0x39

/-- The value of decimal digits, which single underscores may group. -/
def digitsValue (digits : Bytes) : Option Nat :=
  if (digits.splitOn 0x5f).all (fun group => !group.isEmpty && group.all isByteDigit) then
    let plain := digits.filter isByteDigit
    if maxIntDigits < plain.length then none
    else some (plain.foldl (fun value b => value * 10 + (b.toNat - 0x30)) 0)
  else none

/-- `int(bytes)`; `none` is its `ValueError`. -/
def intOfBytes (bytes : Bytes) : Option Int :=
  let text := ((bytes.dropWhile isByteSpace).reverse.dropWhile isByteSpace).reverse
  match text with
  | 0x2d :: digits => (digitsValue digits).map (fun n => -(n : Int))
  | 0x2b :: digits => (digitsValue digits).map (fun n => (n : Int))
  | digits => (digitsValue digits).map (fun n => (n : Int))

inductive BodyEnd where
  | complete (raw : Bytes)
  | disconnected
  | tooLarge
  | deadline

/-- `_body`, from what it has read so far. -/
def readBody (maximum : Nat) : Bytes → List BodyMessage → BodyEnd
  | _, [] => .deadline
  | _, .disconnect :: _ => .disconnected
  | body, .request more moreBody :: rest =>
      if maximum < (body ++ more).length then .tooLarge
      else if moreBody then readBody maximum (body ++ more) rest
      else .complete (body ++ more)

/-! ### What is raised -/

inductive Raised where
  | overflowError
  | responseTooLarge
  | request (message reason : String)
  | publicMcp (message : String)
  /-- the deadline of the request -/
  | deadline
  | other
  deriving DecidableEq

def BridgeFailure.raised : BridgeFailure → Raised
  | .request message reason => .request message reason
  | .publicMcp message => .publicMcp message
  | .recursionError => .other
  | .cancelled => .deadline

/-- `_error_status` -/
def errorStatus (reason : Option String) (message : String) : Nat :=
  if reason = some "capability_not_attached" then 403
  else if "not found".toList.isSuffixOf message.toList then 404
  else if contains message.toList "parent version mismatch".toList then 409
  else if "timed out".toList.isSuffixOf message.toList then 504
  else if contains message.toList "unavailable".toList ||
      contains message.toList "result exceeds".toList then 502
  else 400

/-! ### What is emitted -/

variable {F : Type}

inductive Reply (F : Type) where
  | error (statusCode : Nat) (code : Option String) (message : String)
  | result (requestId : PyStr) (value : PyValue F)

inductive Emitted (F : Type) where
  | record (record : DecisionRecord)
  | sending (reply : Reply F)

/-- `audit_rejection` -/
def auditRejection (reason : String) : DecisionRecord :=
  ⟨pyStr "unvalidated", pyStr "unvalidated", pyStr "unvalidated", pyStr "unvalidated", .deny,
    reason⟩

/-- The `except` branches of `_api_request`: what they record and send. -/
def handler : Raised → Option (List DecisionRecord × Reply F)
  | .overflowError =>
      some ([auditRejection "oversized_body"],
        .error 413 (some "request_too_large") "request body too large")
  | .responseTooLarge =>
      some ([], .error 502 (some "response_too_large") "Response exceeds the allowed size.")
  | .request message reason =>
      some (if reason ≠ "capability_not_attached" then [auditRejection reason] else [],
        .error (errorStatus (some reason) message) none message)
  | .publicMcp message => some ([], .error (errorStatus none message) none message)
  | .other => some ([], .error 502 (some "request_failed_safely") "request failed safely")
  | .deadline => none

structure InspectionApp (F : Type) where
  controlOrigin : List Char
  maxRequestBytes : Nat
  maxResponseBytes : Nat
  bridge : AttachedMcpBridge F
  reader : JsonReader F

def maxBridgeBodyBytes : Nat := 64 * 1024

def InspectionApp.maximum (app : InspectionApp F) : Nat := min app.maxRequestBytes maxBridgeBodyBytes

variable [FloatFormat F]

/-- The part of `_api_request` up to the call: whether it was left while the body was read,
and the validated request. -/
def InspectionApp.receive (app : InspectionApp F) (exchange : Exchange) :
    Bool × Except Raised (BridgeRequest F) :=
  let body :=
    match readBody app.maximum [] exchange.body with
    | .deadline => (true, .error .deadline)
    | .disconnected => (true, .error (.publicMcp "request disconnected"))
    | .tooLarge => (true, .error .overflowError)
    | .complete raw =>
        (false,
          match app.reader.loads raw with
          | .error .decode => .error (.request "request body must be valid JSON" "invalid_request")
          | .error .other => .error .other
          | .ok payload =>
              (validateBridgeRequest app.bridge.stack payload).mapError BridgeFailure.raised)
  match exchange.header (bytesOf "content-length") with
  | none => body
  | some declaredLength =>
      match intOfBytes declaredLength with
      | none => (false, .error (.publicMcp "Content-Length must be an integer"))
      | some length => if (app.maximum : Int) < length then (false, .error .overflowError) else body

/-- The call and its response. -/
def InspectionApp.answer (app : InspectionApp F) (exchange : Exchange) (request : BridgeRequest F) :
    List (Emitted F) × Except Raised Unit :=
  let called := app.bridge.call request
  let records := called.records.map Emitted.record
  match called.result with
  | .error failure => (records, .error failure.raised)
  | .ok result =>
      let response : PyValue F :=
        .dict [(.str (pyStr "request_id"), .str request.requestId), (.str (pyStr "result"), result)]
      if app.bridge.stack.overflows response then (records, .error .other)
      else
        match response.dumps with
        | none => (records, .error (.publicMcp "response is not JSON serializable"))
        | some encoded =>
            if app.maxResponseBytes < encoded.length then (records, .error .responseTooLarge)
            else
              (records ++ [.sending (.result request.requestId result)],
                match exchange.resultSend with
                | .sent => .ok ()
                | .raised => .error .other
                | .deadline => .error .deadline)

/-- The `except` branches, after what was emitted before. -/
def handled (exchange : Exchange) (emitted : List (Emitted F)) :
    Except Raised Unit → List (Emitted F) × SendOutcome
  | .ok () => (emitted, .sent)
  | .error raised =>
      match handler raised with
      | none => (emitted, .deadline)
      | some (records, reply) =>
          (emitted ++ records.map .record ++ [.sending reply], exchange.errorSend)

def contentTypeOf (text : List Char) : List Char :=
  lower (strip (text.takeWhile (fun c => c ≠ ';')))

/-- `_api_request` for the bridge: what it emits, whether the body was being read when it
was left, and how it was left. -/
def InspectionApp.apiRequest (app : InspectionApp F) (exchange : Exchange) :
    Bool × List (Emitted F) × SendOutcome :=
  if exchange.textHeader "origin" ≠ app.controlOrigin then
    (false, [.record (auditRejection "origin_mismatch"),
      .sending (.error 403 none "request origin is not permitted")], exchange.errorSend)
  else if contentTypeOf (exchange.textHeader "content-type") ≠ "application/json".toList then
    (false, [.record (auditRejection "invalid_content_type"),
      .sending (.error 400 none "Content-Type must be application/json")], exchange.errorSend)
  else
    match app.receive exchange with
    | (reading, .error raised) => (reading, handled exchange [] (.error raised))
    | (reading, .ok request) =>
        let (emitted, ended) := app.answer exchange request
        (reading, handled exchange emitted ended)

/-- `_api` for the bridge, past the limiters. -/
def InspectionApp.api (app : InspectionApp F) (exchange : Exchange) : List (Emitted F) :=
  match app.apiRequest exchange with
  | (reading, emitted, .deadline) =>
      emitted ++ [.sending
        (if reading then
          .error 408 (some "request_body_timeout") "Request body timed out. Try again later."
        else .error 504 (some "resource_timeout") "Request timed out. Try again later.")]
  | (_, emitted, _) => emitted

/-! ### What is to be logged -/

/-- The tools were asked and answered within the limits of the bridge. -/
def CompletedCall (bridge : AttachedMcpBridge F) (request : BridgeRequest F) : Prop :=
  bridge.boundary.authorize request.attachment request.tool = true ∧
    ∃ value result encoded, bridge.caller request.tool request.arguments = .returned value ∧
      (if request.tool = artifactSearch then restrictSearchResult request.artifactId value
        else some value) = some result ∧
      encodeResult bridge.stack result = some encoded ∧ encoded.length ≤ bridge.maxResultBytes

/-- The same for a request as it arrives. -/
def Completed (app : InspectionApp F) (exchange : Exchange) : Prop :=
  exchange.textHeader "origin" = app.controlOrigin ∧
    contentTypeOf (exchange.textHeader "content-type") = "application/json".toList ∧
    ∃ request, (app.receive exchange).2 = .ok request ∧ CompletedCall app.bridge request

/-- Exactly one record, before anything is sent, and it allows exactly what is completed. -/
def LoggedOnce (emitted : List (Emitted F)) (completed : Prop) : Prop :=
  ∃ record replies, emitted = .record record :: replies.map .sending ∧ replies ≠ [] ∧
    (record.decision = .allow ↔ completed)

def Downstream.isCancelled : Downstream F → Bool
  | .cancelled => true
  | _ => false

/-- The deadline does not fire while the tools are asked. -/
def CallEnds (bridge : AttachedMcpBridge F) (request : BridgeRequest F) : Prop :=
  bridge.boundary.authorize request.attachment request.tool = true →
    (bridge.caller request.tool request.arguments).isCancelled = false

/-- The body is too large, or it arrives whole and in time, nothing but a decoding error is
raised when it is read, and the call ends before the deadline. -/
def BodyAnswered (app : InspectionApp F) (exchange : Exchange) : Prop :=
  match readBody app.maximum [] exchange.body with
  | .deadline => False
  | .disconnected => False
  | .tooLarge => True
  | .complete raw =>
      match app.reader.loads raw with
      | .error .decode => True
      | .error .other => False
      | .ok payload =>
          match validateBridgeRequest app.bridge.stack payload with
          | .error failure => failure ≠ .recursionError
          | .ok request => CallEnds app.bridge request

/-- The requests that are logged as they should be. -/
def Answered (app : InspectionApp F) (exchange : Exchange) : Prop :=
  exchange.textHeader "origin" ≠ app.controlOrigin ∨
    contentTypeOf (exchange.textHeader "content-type") ≠ "application/json".toList ∨
    match exchange.header (bytesOf "content-length") with
    | none => BodyAnswered app exchange
    | some declaredLength =>
        match intOfBytes declaredLength with
        | none => False
        | some length => (app.maximum : Int) < length ∨ BodyAnswered app exchange

/-! ### Records and responses -/

/-- Records and, after them, responses. -/
def emits (records : List DecisionRecord) (replies : List (Reply F)) : List (Emitted F) :=
  records.map .record ++ replies.map .sending

section Emitting

omit [FloatFormat F]

theorem emits_sending (records : List DecisionRecord) (replies : List (Reply F)) (reply : Reply F) :
    emits records replies ++ [.sending reply] = emits records (replies ++ [reply]) := by
  unfold emits
  rw [List.append_assoc, List.map_append]
  rfl

theorem loggedOnce_iff {records : List DecisionRecord} {replies : List (Reply F)}
    (answered : replies ≠ []) (completed : Prop) : LoggedOnce (emits records replies) completed ↔
      ∃ record, records = [record] ∧ (record.decision = .allow ↔ completed) := by
  constructor
  · rintro ⟨record, others, same, _, decided⟩
    refine ⟨record, ?_, decided⟩
    unfold emits at same
    cases records with
    | nil =>
        cases replies with
        | nil => cases same
        | cons reply rest => cases (List.cons.inj same).1
    | cons first rest =>
        obtain ⟨head, tail⟩ := List.cons.inj same
        cases head
        cases rest with
        | nil => rfl
        | cons second rest =>
            cases others with
            | nil => cases tail
            | cons other others => cases (List.cons.inj tail).1
  · rintro ⟨record, same, decided⟩
    rw [same]
    exact ⟨record, replies, rfl, answered, decided⟩

/-- Exceptions whose branch writes no record. -/
def Raised.quiet : Raised → Bool
  | .overflowError => false
  | .request _ reason => reason = "capability_not_attached"
  | _ => true

/-- What was emitted ends with a response, or one follows because of the deadline. -/
def Ends (records : List DecisionRecord) (left : List (Emitted F) × SendOutcome) : Prop :=
  ∃ replies, left.1 = emits records replies ∧ (left.2 = .deadline ∨ replies ≠ [])

theorem handled_quiet (exchange : Exchange) (records : List DecisionRecord)
    (replies : List (Reply F)) {raised : Raised} (quiet : raised.quiet = true) :
    Ends records (handled exchange (emits records replies) (.error raised)) := by
  have one : ∀ reply, Ends records
      (emits records replies ++ ([] : List DecisionRecord).map .record ++ [.sending reply],
        exchange.errorSend) := by
    intro reply
    rw [List.map_nil, List.append_nil, emits_sending]
    exact ⟨_, rfl, Or.inr (List.append_ne_nil_of_right_ne_nil _ (List.cons_ne_nil _ _))⟩
  cases raised with
  | overflowError => cases quiet
  | request message reason =>
      have same : reason = "capability_not_attached" := of_decide_eq_true quiet
      rw [same]
      exact one _
  | deadline => exact ⟨replies, rfl, Or.inl rfl⟩
  | _ => exact one _

theorem handled_loud (exchange : Exchange) {raised : Raised} (loud : raised.quiet = false) :
    ∃ reason, Ends (F := F) [auditRejection reason] (handled exchange [] (.error raised)) := by
  cases raised with
  | overflowError => exact ⟨_, [_], rfl, Or.inr (List.cons_ne_nil _ _)⟩
  | request message reason =>
      have other : reason ≠ "capability_not_attached" := of_decide_eq_false loud
      have branch : handler (F := F) (.request message reason) = some ([auditRejection reason],
          .error (errorStatus (some reason) message) none message) := by
        rw [handler, if_pos other]
      refine ⟨reason, [.error (errorStatus (some reason) message) none message], ?_,
        Or.inr (List.cons_ne_nil _ _)⟩
      unfold handled
      dsimp only
      rw [branch]
      rfl
  | _ => cases loud

end Emitting

/-- A response is sent at the end in any case. -/
theorem InspectionApp.api_emits {app : InspectionApp F} {exchange : Exchange}
    {records : List DecisionRecord} (ends : Ends records (app.apiRequest exchange).2) :
    ∃ replies, app.api exchange = emits records replies ∧ replies ≠ [] := by
  obtain ⟨replies, same, late⟩ := ends
  unfold InspectionApp.api
  generalize app.apiRequest exchange = left at same late
  obtain ⟨reading, emitted, outcome⟩ := left
  dsimp only at same late
  rw [same]
  cases outcome with
  | deadline =>
      exact ⟨_, emits_sending _ _ _, List.append_ne_nil_of_right_ne_nil _ (List.cons_ne_nil _ _)⟩
  | sent => exact ⟨replies, rfl, late.resolve_left SendOutcome.noConfusion⟩
  | raised => exact ⟨replies, rfl, late.resolve_left SendOutcome.noConfusion⟩

/-! ### The call -/

omit [FloatFormat F] in
theorem record_decision (request : BridgeRequest F) (decision : Decision) (reason : String) :
    (request.record decision reason).decision = decision := rfl

/-- The record of the checks allows what they let through. -/
theorem AttachedMcpBridge.finish_allow (bridge : AttachedMcpBridge F) (request : BridgeRequest F)
    {value : PyValue F} (authorized : bridge.boundary.authorize request.attachment request.tool = true)
    (returned : bridge.caller request.tool request.arguments = .returned value) :
    ((bridge.finish request value).1.decision = .allow ↔ CompletedCall bridge request) ∧
      ∀ failure, (bridge.finish request value).2 = .error failure →
        failure.raised.quiet = true := by
  have only : CompletedCall bridge request ↔ ∃ result encoded,
      (if request.tool = artifactSearch then restrictSearchResult request.artifactId value
        else some value) = some result ∧
      encodeResult bridge.stack result = some encoded ∧ encoded.length ≤ bridge.maxResultBytes := by
    constructor
    · rintro ⟨_, other, result, encoded, same, fine⟩
      rw [returned] at same
      cases same
      exact ⟨result, encoded, fine⟩
    · rintro ⟨result, encoded, fine⟩
      exact ⟨authorized, value, result, encoded, returned, fine⟩
  rw [only]
  unfold AttachedMcpBridge.finish
  split
  · rename_i nothing
    refine ⟨⟨(fun same => by cases same), ?_⟩, fun failure same => by cases same; rfl⟩
    rintro ⟨result, _, some, _⟩
    rw [nothing] at some
    cases some
  · rename_i result some
    split
    · rename_i nothing
      refine ⟨⟨(fun same => by cases same), ?_⟩, fun failure same => by cases same; rfl⟩
      rintro ⟨other, encoded, same, printed, _⟩
      rw [some] at same
      cases same
      rw [nothing] at printed
      cases printed
    · rename_i encoded printed
      split
      · rename_i long
        refine ⟨⟨(fun same => by cases same), ?_⟩, fun failure same => by cases same; rfl⟩
        rintro ⟨other, text, same, printed', short⟩
        rw [some] at same
        cases same
        rw [printed] at printed'
        cases printed'
        exact absurd short (Nat.not_le_of_lt long)
      · rename_i short
        exact ⟨⟨fun _ => ⟨result, encoded, some, printed, Nat.le_of_not_lt short⟩, fun _ => rfl⟩,
          fun failure same => by cases same⟩

/-- A call whose target is bound writes one record unless the deadline cuts it off. -/
theorem AttachedMcpBridge.call_logged (bridge : AttachedMcpBridge F) {request : BridgeRequest F}
    (bound : requireArtifactBinding request.tool request.artifactId request.arguments = .ok ()) :
    (∀ failure, (bridge.call request).result = .error failure → failure.raised.quiet = true) ∧
      ((CallEnds bridge request ∧ ∃ record, (bridge.call request).records = [record] ∧
          (record.decision = .allow ↔ CompletedCall bridge request)) ∨
        (¬CallEnds bridge request ∧ (bridge.call request).records = [])) := by
  unfold AttachedMcpBridge.call
  cases authorized : bridge.boundary.authorize request.attachment request.tool with
  | false =>
      refine ⟨fun failure same => by cases same; rfl, Or.inl ⟨fun yes => ?_, _, rfl, ?_⟩⟩
      · exact absurd (authorized.symm.trans yes) Bool.false_ne_true
      · refine ⟨(fun same => by cases same), fun completed => ?_⟩
        exact absurd (authorized.symm.trans completed.1) Bool.false_ne_true
  | true =>
      rw [bound]
      have unreturned : ∀ outcome, bridge.caller request.tool request.arguments = outcome →
          (∀ value, outcome ≠ .returned value) → ¬CompletedCall bridge request := by
        rintro outcome same other ⟨_, value, _, _, returned, _⟩
        exact other value (same.symm.trans returned)
      cases called : bridge.caller request.tool request.arguments with
      | returned value =>
          obtain ⟨allowed, quiet⟩ := bridge.finish_allow request authorized called
          refine ⟨quiet, Or.inl ⟨fun _ => ?_, _, rfl, allowed⟩⟩
          rw [called]
          rfl
      | timeout =>
          refine ⟨fun failure same => by cases same; rfl, Or.inl ⟨fun _ => ?_, _, rfl, ?_⟩⟩
          · rw [called]
            rfl
          · exact ⟨(fun same => by cases same), fun completed =>
              absurd completed (unreturned _ called (fun _ same => by cases same))⟩
      | raised =>
          refine ⟨fun failure same => by cases same; rfl, Or.inl ⟨fun _ => ?_, _, rfl, ?_⟩⟩
          · rw [called]
            rfl
          · exact ⟨(fun same => by cases same), fun completed =>
              absurd completed (unreturned _ called (fun _ same => by cases same))⟩
      | cancelled =>
          refine ⟨fun failure same => by cases same; rfl, Or.inr ⟨fun ends => ?_, rfl⟩⟩
          have going := ends authorized
          rw [called] at going
          exact absurd going.symm Bool.false_ne_true

/-- The answer adds no record to those of the call. -/
theorem InspectionApp.answer_ends (app : InspectionApp F) (exchange : Exchange)
    {request : BridgeRequest F}
    (quiet : ∀ failure, (app.bridge.call request).result = .error failure →
      failure.raised.quiet = true) :
    Ends (app.bridge.call request).records
      (handled exchange (app.answer exchange request).1 (app.answer exchange request).2) := by
  have before : ∀ raised : Raised, raised.quiet = true → Ends (app.bridge.call request).records
      (handled exchange ((app.bridge.call request).records.map (Emitted.record (F := F)))
        (.error raised)) := by
    intro raised still
    have ends := handled_quiet (F := F) exchange (app.bridge.call request).records [] still
    unfold emits at ends
    rw [List.map_nil, List.append_nil] at ends
    exact ends
  unfold InspectionApp.answer
  dsimp only
  split
  · rename_i failure called
    exact before _ (quiet failure called)
  · rename_i result called
    split
    · exact before .other rfl
    · split
      · exact before (.publicMcp _) rfl
      · split
        · exact before .responseTooLarge rfl
        · cases exchange.resultSend with
          | sent => exact ⟨[_], rfl, Or.inr (List.cons_ne_nil _ _)⟩
          | raised => exact handled_quiet exchange _ [_] (show Raised.other.quiet = true from rfl)
          | deadline => exact handled_quiet exchange _ [_] (show Raised.deadline.quiet = true from rfl)

/-! ### The validation -/

section Refusing

/-- A check that refuses with an error whose branch writes a record, if it is not a
`RecursionError`. -/
def Refuses {α : Type} (checked : Except BridgeFailure α) : Prop :=
  ∀ failure, checked = .error failure → failure = .recursionError ∨ failure.raised.quiet = false

theorem refuses_ok {α : Type} (a : α) : Refuses (.ok a) := by
  intro failure same
  cases same

theorem refuses_request {α : Type} {message reason : String}
    (other : reason ≠ "capability_not_attached") : Refuses (α := α) (.error (.request message reason)) := by
  intro failure same
  cases same
  exact Or.inr (decide_eq_false other)

theorem refuses_invalid {α : Type} (message : String) :
    Refuses (α := α) (.error (invalidRequest message)) := refuses_request (by decide)

theorem Refuses.bind {α β : Type} {first : Except BridgeFailure α} {next : α → Except BridgeFailure β}
    (one : Refuses first) (later : ∀ a, Refuses (next a)) : Refuses (first >>= next) := by
  intro failure same
  cases first with
  | error other =>
      cases same
      exact one _ rfl
  | ok a => exact later a failure same

theorem Refuses.map {α β : Type} {first : Except BridgeFailure α} (f : α → β)
    (one : Refuses first) : Refuses (first.map f) := by
  intro failure same
  cases first with
  | error other =>
      cases same
      exact one _ rfl
  | ok a => cases same

omit [FloatFormat F]

theorem refuses_boundedString (value : Json F) (field : String) (maximum : Nat) :
    Refuses (boundedString value field maximum) := by
  unfold boundedString
  split
  · split
    · exact refuses_invalid _
    · exact refuses_ok _
  · exact refuses_invalid _

theorem refuses_integer (value : Json F) (field : String) (minimum maximum : Int) :
    Refuses (integer value field minimum maximum) := by
  unfold integer
  split
  · split
    · exact refuses_ok _
    · exact refuses_invalid _
  · exact refuses_invalid _

theorem refuses_requiredField (tool : String) (allowed : List PyStr) (required : PyStr)
    (arguments : Arguments F) : Refuses (requiredField tool allowed required arguments) := by
  unfold requiredField
  split
  · split
    · exact refuses_ok _
    · exact refuses_invalid _
  · exact refuses_invalid _

theorem refuses_optionalField {key : PyStr} {check : Json F → Except BridgeFailure (Json F)}
    (each : ∀ value, Refuses (check value)) (arguments : Arguments F) :
    Refuses (optionalField key check arguments) := by
  unfold optionalField
  split
  · exact refuses_ok _
  · exact (each _).map _

theorem refuses_optionalInteger (field : String) (minimum maximum : Int) (arguments : Arguments F) :
    Refuses (optionalInteger field minimum maximum arguments) :=
  refuses_optionalField (fun _ => (refuses_integer _ _ _ _).map _) arguments

theorem refuses_optionalVersion (arguments : Arguments F) : Refuses (optionalVersion arguments) := by
  unfold optionalVersion
  split
  · exact refuses_ok _
  · exact refuses_optionalField (fun _ => (refuses_boundedString _ _ _).map _) arguments

theorem refuses_validateToolArguments (tool : PyStr) (arguments : Arguments F) :
    Refuses (validateToolArguments tool arguments) := by
  unfold validateToolArguments
  split_ifs
  · refine (refuses_requiredField _ _ _ _).bind (fun _ => ?_)
    refine (refuses_boundedString _ _ _).bind (fun _ => ?_)
    exact (refuses_optionalVersion _).bind (fun _ => refuses_ok _)
  · refine (refuses_requiredField _ _ _ _).bind (fun _ => ?_)
    refine (refuses_boundedString _ _ _).bind (fun _ => ?_)
    exact (refuses_optionalInteger _ _ _ _).bind (fun _ => refuses_ok _)
  · refine (refuses_requiredField _ _ _ _).bind (fun _ => ?_)
    refine (refuses_boundedString _ _ _).bind (fun _ => ?_)
    refine (refuses_optionalInteger _ _ _ _).bind (fun _ => ?_)
    exact (refuses_optionalInteger _ _ _ _).bind (fun _ => refuses_ok _)
  · exact refuses_ok _

theorem refuses_requireArtifactBinding (tool artifactId : PyStr) (arguments : Arguments F) :
    Refuses (requireArtifactBinding tool artifactId arguments) := by
  unfold requireArtifactBinding
  split
  · exact refuses_request (by decide)
  · exact refuses_ok _

end Refusing

theorem refuses_checkArguments (stack : DumpsStack F) (arguments : Arguments F) :
    Refuses (checkArguments stack arguments) := by
  unfold checkArguments
  split_ifs
  · intro failure same
    cases same
    exact Or.inl rfl
  · exact refuses_invalid _
  · exact refuses_request (by decide)
  · exact refuses_ok _

theorem refuses_validateBridgeRequest (stack : DumpsStack F) (value : Json F) :
    Refuses (validateBridgeRequest stack value) := by
  unfold validateBridgeRequest
  split
  · split
    · exact refuses_invalid _
    · refine (refuses_boundedString _ _ _).bind (fun _ => ?_)
      refine (refuses_boundedString _ _ _).bind (fun _ => ?_)
      refine (refuses_boundedString _ _ _).bind (fun _ => ?_)
      refine (refuses_boundedString _ _ _).bind (fun _ => ?_)
      split
      · refine (refuses_checkArguments _ _).bind (fun _ => ?_)
        refine (refuses_validateToolArguments _ _).bind (fun _ => ?_)
        exact (refuses_requireArtifactBinding _ _ _).bind (fun _ => refuses_ok _)
      · exact refuses_invalid _
  · exact refuses_invalid _

/-! ### Every request -/

/-- How the reading of a request ends, against what is answered. -/
inductive Received (app : InspectionApp F) : Except Raised (BridgeRequest F) → Prop → Prop where
  | refused {raised : Raised} {answered : Prop} (loud : raised.quiet = false) (yes : answered) :
      Received app (.error raised) answered
  | lost {raised : Raised} {answered : Prop} (quiet : raised.quiet = true) (no : ¬answered) :
      Received app (.error raised) answered
  | valid {request : BridgeRequest F} {answered : Prop} (accepted : Accepted app.bridge.stack request)
      (same : answered ↔ CallEnds app.bridge request) : Received app (.ok request) answered

theorem InspectionApp.received (app : InspectionApp F) (exchange : Exchange) :
    Received app (app.receive exchange).2
      (match exchange.header (bytesOf "content-length") with
        | none => BodyAnswered app exchange
        | some declaredLength =>
            match intOfBytes declaredLength with
            | none => False
            | some length => (app.maximum : Int) < length ∨ BodyAnswered app exchange) := by
  have body : Received app (match readBody app.maximum [] exchange.body with
      | .deadline => ((true, .error .deadline) : Bool × Except Raised (BridgeRequest F))
      | .disconnected => (true, .error (.publicMcp "request disconnected"))
      | .tooLarge => (true, .error .overflowError)
      | .complete raw =>
          (false,
            match app.reader.loads raw with
            | .error .decode =>
                .error (.request "request body must be valid JSON" "invalid_request")
            | .error .other => .error .other
            | .ok payload =>
                (validateBridgeRequest app.bridge.stack payload).mapError BridgeFailure.raised)).2
      (BodyAnswered app exchange) := by
    unfold BodyAnswered
    cases readBody app.maximum [] exchange.body with
    | deadline => exact .lost rfl id
    | disconnected => exact .lost rfl id
    | tooLarge => exact .refused rfl trivial
    | complete raw =>
        dsimp only
        cases app.reader.loads raw with
        | error failure =>
            cases failure with
            | decode => exact .refused (by decide) trivial
            | other => exact .lost rfl id
        | ok payload =>
            dsimp only
            cases validated : validateBridgeRequest app.bridge.stack payload with
            | error failure =>
                rcases refuses_validateBridgeRequest _ _ _ validated with same | loud
                · rw [same]
                  exact .lost rfl (fun other => other rfl)
                · refine .refused loud ?_
                  intro same
                  rw [same] at loud
                  exact absurd loud.symm Bool.false_ne_true
            | ok request => exact .valid (validateBridgeRequest_ok validated) Iff.rfl
  unfold InspectionApp.receive
  cases exchange.header (bytesOf "content-length") with
  | none => exact body
  | some declaredLength =>
      dsimp only
      cases intOfBytes declaredLength with
      | none => exact .lost rfl id
      | some length =>
          dsimp only
          by_cases long : (app.maximum : Int) < length
          · rw [if_pos long]
            exact .refused rfl (Or.inl long)
          · have same : ((app.maximum : Int) < length ∨ BodyAnswered app exchange) =
                BodyAnswered app exchange := propext (or_iff_right long)
            rw [if_neg long, same]
            exact body

theorem InspectionApp.apiRequest_origin {app : InspectionApp F} {exchange : Exchange}
    (origin : exchange.textHeader "origin" ≠ app.controlOrigin) :
    Ends [auditRejection "origin_mismatch"] (app.apiRequest exchange).2 := by
  unfold InspectionApp.apiRequest
  rw [if_pos origin]
  exact ⟨[_], rfl, Or.inr (List.cons_ne_nil _ _)⟩

theorem InspectionApp.apiRequest_contentType {app : InspectionApp F} {exchange : Exchange}
    (origin : exchange.textHeader "origin" = app.controlOrigin)
    (other : contentTypeOf (exchange.textHeader "content-type") ≠ "application/json".toList) :
    Ends [auditRejection "invalid_content_type"] (app.apiRequest exchange).2 := by
  unfold InspectionApp.apiRequest
  rw [if_neg (not_not.mpr origin), if_pos other]
  exact ⟨[_], rfl, Or.inr (List.cons_ne_nil _ _)⟩

theorem InspectionApp.apiRequest_received {app : InspectionApp F} {exchange : Exchange}
    (origin : exchange.textHeader "origin" = app.controlOrigin)
    (json : contentTypeOf (exchange.textHeader "content-type") = "application/json".toList) :
    (app.apiRequest exchange).2 =
      match (app.receive exchange).2 with
      | .error raised => handled exchange [] (.error raised)
      | .ok request =>
          handled exchange (app.answer exchange request).1 (app.answer exchange request).2 := by
  unfold InspectionApp.apiRequest
  rw [if_neg (not_not.mpr origin), if_neg (not_not.mpr json)]
  obtain ⟨reading, ended⟩ := app.receive exchange
  cases ended <;> rfl

/-- The records that a request leaves decide whether it is logged as it should be. -/
theorem InspectionApp.loggedOnce_of_ends {app : InspectionApp F} {exchange : Exchange}
    {records : List DecisionRecord} (ends : Ends records (app.apiRequest exchange).2) :
    LoggedOnce (app.api exchange) (Completed app exchange) ↔
      ∃ record, records = [record] ∧ (record.decision = .allow ↔ Completed app exchange) := by
  obtain ⟨replies, same, answered⟩ := InspectionApp.api_emits ends
  rw [same]
  exact loggedOnce_iff answered _

/-- A request is logged exactly once, with the decision that it deserves, exactly when it is
one that is answered. -/
theorem bridge_decisions_exact (app : InspectionApp F) (exchange : Exchange) :
    LoggedOnce (app.api exchange) (Completed app exchange) ↔ Answered app exchange := by
  by_cases origin : exchange.textHeader "origin" = app.controlOrigin
  · by_cases json : contentTypeOf (exchange.textHeader "content-type") = "application/json".toList
    · have answered : Answered app exchange ↔ _ :=
        (or_iff_right (not_not.mpr origin)).trans (or_iff_right (not_not.mpr json))
      have completed : Completed app exchange ↔
          ∃ request, (app.receive exchange).2 = .ok request ∧ CompletedCall app.bridge request :=
        ⟨fun done => done.2.2, fun done => ⟨origin, json, done⟩⟩
      have received := app.received exchange
      have sent := InspectionApp.apiRequest_received origin json
      rw [answered]
      generalize (app.receive exchange).2 = ended at received sent completed
      cases received with
      | @refused raised _ loud yes =>
          obtain ⟨reason, left⟩ := handled_loud (F := F) exchange loud
          have ends : Ends [auditRejection reason] (app.apiRequest exchange).2 := by
            rw [sent]
            exact left
          rw [InspectionApp.loggedOnce_of_ends ends, completed]
          refine ⟨fun _ => yes, fun _ => ⟨_, rfl, ?_⟩⟩
          exact ⟨(fun same => by cases same), (fun ⟨_, same, _⟩ => by cases same)⟩
      | @lost raised _ quiet no =>
          have ends : Ends [] (app.apiRequest exchange).2 := by
            rw [sent]
            exact handled_quiet exchange [] [] quiet
          rw [InspectionApp.loggedOnce_of_ends ends]
          exact ⟨(fun ⟨_, one, _⟩ => by cases one), fun yes => absurd yes no⟩
      | @valid request _ accepted same =>
          obtain ⟨quiet, calls⟩ := app.bridge.call_logged accepted.bound
          have ends : Ends (app.bridge.call request).records (app.apiRequest exchange).2 := by
            rw [sent]
            exact app.answer_ends exchange quiet
          rw [InspectionApp.loggedOnce_of_ends ends, same, completed]
          rcases calls with ⟨callEnds, record, one, decided⟩ | ⟨cut, none⟩
          · refine ⟨fun _ => callEnds, fun _ => ⟨record, one, decided.trans ?_⟩⟩
            exact ⟨fun done => ⟨request, rfl, done⟩, (fun ⟨_, is, done⟩ => by cases is; exact done)⟩
          · rw [none]
            exact ⟨(fun ⟨_, one, _⟩ => by cases one), fun yes => absurd yes cut⟩
    · rw [InspectionApp.loggedOnce_of_ends (InspectionApp.apiRequest_contentType origin json)]
      refine ⟨fun _ => Or.inr (Or.inl json), fun _ => ⟨_, rfl, ?_⟩⟩
      exact ⟨(fun same => by cases same), fun done => absurd done.2.1 json⟩
  · rw [InspectionApp.loggedOnce_of_ends (InspectionApp.apiRequest_origin origin)]
    refine ⟨fun _ => Or.inl origin, fun _ => ⟨_, rfl, ?_⟩⟩
    exact ⟨(fun same => by cases same), fun done => absurd done.1 origin⟩

/-! ### A client that goes away -/

/-- Tools that find nothing, for an inspection that is served on its own origin. -/
def exampleApp : InspectionApp Empty where
  controlOrigin := "http://127.0.0.1:8000".toList
  maxRequestBytes := 65536
  maxResponseBytes := 65536
  bridge := attachedMcpBridge (fun _ _ => .returned (.list [])) 1000 ⟨fun _ => false, fun _ _ => rfl⟩
  reader := ⟨fun _ => false, fun _ => .error .other⟩

/-- The client disconnects before it has sent the body. -/
def disconnected : Exchange where
  headers := [(bytesOf "Origin", bytesOf "http://127.0.0.1:8000"),
    (bytesOf "Content-Type", bytesOf "application/json")]
  body := [.disconnect]
  resultSend := .sent
  errorSend := .sent

theorem disconnected_api : exampleApp.api disconnected =
    [.sending (.error 400 none "request disconnected")] := by
  rfl

/-- A request whose client disconnects is answered and leaves no record. -/
theorem bridge_decision_missing :
    ¬∀ (app : InspectionApp Empty) (exchange : Exchange),
      LoggedOnce (app.api exchange) (Completed app exchange) := by
  intro always
  obtain ⟨record, replies, same, _⟩ := always exampleApp disconnected
  rw [disconnected_api] at same
  cases (List.cons.inj same).1

end FolioLattice.Bridge
