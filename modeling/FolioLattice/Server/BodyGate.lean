/-
A request to `/mcp`: its body is received ahead and bounded before anybody is asked, and the
application receives it from a replay.
-/

import FolioLattice.Bridge.Decisions
import FolioLattice.Concurrency.Channel

namespace FolioLattice.Server

open Stream' (Seq)
open FolioLattice.Bridge (asciiLower bytesOf intOfBytes)
open FolioLattice.Concurrency (Replay outputs)
open FolioLattice.Text (Bytes)

/-! ### Messages -/

/-- A message of the channel `receive`; its fields may be missing. -/
structure Message where
  type : String
  body : Option Bytes
  moreBody : Option Bool
  deriving DecidableEq

/-- `len(message.get("body", b""))` -/
def Message.size (message : Message) : Nat := (message.body.getD []).length

/-- `message.get("more_body", False)` -/
def Message.more (message : Message) : Bool := message.moreBody.getD false

/-- The message is the last one of a body, or none of it. -/
def Message.ends (message : Message) : Bool :=
  decide (message.type ≠ "http.request") || !message.more

/-! ### What is done -/

/-- The arguments of `_error`. -/
structure HttpError where
  statusCode : Nat
  code : String
  message : String
  retryable : Bool := false
  reauthenticate : Bool := false
  headers : List (String × String) := []
  deriving DecidableEq

/-- What is done for a request, in order. -/
inductive Act where
  | audited (event : String) (statusCode : Nat)
  | sent (error : HttpError)
  /-- the authenticator is asked -/
  | authenticated
  /-- the rate limiter is asked -/
  | rateChecked
  | slotAsked
  /-- the application is called with a channel -/
  | applied (receive : Replay Message)
  | slotReleased

/-- `_public_mcp_error` -/
def publicMcpError (event : String) (retryAfter : Int) (error : HttpError) : List Act :=
  [.audited event error.statusCode,
    .sent { error with headers := [("Retry-After", toString retryAfter)] }]

def requestTooLarge : List Act :=
  publicMcpError "mcp_request_too_large" 0
    { statusCode := 413, code := "request_too_large",
      message := "Request body exceeds the allowed size." }

def requestTimedOut : List Act :=
  publicMcpError "mcp_timeout" 1
    { statusCode := 504, code := "mcp_timeout", message := "MCP request timed out. Try again later.",
      retryable := true }

def requestRateLimited (retryAfter : Int) : List Act :=
  publicMcpError "mcp_rate_limited" retryAfter
    { statusCode := 429, code := "mcp_rate_limited",
      message := "Too many MCP requests. Try again later.", retryable := true }

/-- The error is sent without `_public_mcp_error`. -/
def requestBusy : List Act :=
  [.audited "mcp_concurrency_limited" 429,
    .sent { statusCode := 429, code := "mcp_concurrency_limited",
            message := "MCP service is busy. Try again later.", retryable := true,
            headers := [("Retry-After", "1")] }]

def authenticationRequired : List Act :=
  [.sent { statusCode := 401, code := "authentication_required",
           message := "Sign-in required. Sign in to continue.", reauthenticate := true,
           headers := [("WWW-Authenticate", "Bearer")] }]

/-! ### The body -/

def contentLengths (headers : List (Bytes × Bytes)) : List Bytes :=
  (headers.filter (fun header => asciiLower header.1 = bytesOf "content-length")).map (·.2)

/-- There is exactly one `Content-Length`, and it is a number that is too large. -/
def declaresTooMuch (maxRequestBytes : Nat) (headers : List (Bytes × Bytes)) : Bool :=
  match contentLengths headers with
  | [value] =>
      match intOfBytes value with
      | some declaredSize => decide ((maxRequestBytes : Int) < declaredSize)
      | none => false
  | _ => false

/-- How `_check_public_mcp_body` ends. -/
inductive BodyCheck where
  | accepted (receive : Replay Message)
  /-- with what is left of the channel -/
  | tooLarge (left : Seq Message)
  | timedOut

/-- The loop that receives ahead, over the messages that arrive in time. -/
def drainBody (maxRequestBytes : Nat) : Nat → Seq Message → Nat → List Message → BodyCheck
  | 0, _, _, _ => .timedOut
  | inTime + 1, channel, bodySize, messages =>
      match channel.destruct with
      | none => .timedOut
      | some (message, rest) =>
          if message.type ≠ "http.request" then .accepted ⟨messages ++ [message], rest⟩
          else
            let bodySize := bodySize + message.size
            if maxRequestBytes < bodySize then .tooLarge rest
            else if message.more then
              drainBody maxRequestBytes inTime rest bodySize (messages ++ [message])
            else .accepted ⟨messages ++ [message], rest⟩

/-- `_check_public_mcp_body`, within its deadline. -/
def checkPublicMcpBody (maxRequestBytes : Nat) (headers : List (Bytes × Bytes)) (inTime : Nat)
    (channel : Seq Message) : BodyCheck :=
  if declaresTooMuch maxRequestBytes headers then .tooLarge channel
  else drainBody maxRequestBytes inTime channel 0 []

/-! ### The request -/

/-- How the call of the application ends. -/
inductive AppEnding where
  | ended
  | raised
  | timedOut (responseStarted : Bool)

/-- What the components answer for a request. -/
structure Answers where
  /-- whether the request is authenticated; `none` where that is not asked -/
  authentication : Option Bool
  /-- the seconds to wait of a request that the rate limiter refuses -/
  rate : Option Int
  slot : Bool
  app : AppEnding

/-- The part of `_handle_http` behind the check of the body. -/
def handleChecked (answers : Answers) (receive : Replay Message) : List Act :=
  match answers.authentication with
  | some false =>
      [.authenticated, .rateChecked] ++
        match answers.rate with
        | some retryAfter => requestRateLimited retryAfter
        | none => authenticationRequired
  | authentication =>
      (if authentication.isSome then [.authenticated] else []) ++ .rateChecked ::
        match answers.rate with
        | some retryAfter => requestRateLimited retryAfter
        | none => .slotAsked ::
            if answers.slot then
              .applied receive ::
                (match answers.app with
                | .timedOut false => requestTimedOut
                | _ => []) ++ [.slotReleased]
            else requestBusy

/-- `_handle_http` for `/mcp`. -/
def handleMcp (maxRequestBytes : Nat) (method : String) (headers : List (Bytes × Bytes))
    (inTime : Nat) (channel : Seq Message) (answers : Answers) : List Act :=
  if method = "POST" then
    match checkPublicMcpBody maxRequestBytes headers inTime channel with
    | .accepted receive => handleChecked answers receive
    | .tooLarge _ => requestTooLarge
    | .timedOut => requestTimedOut
  else handleChecked answers ⟨[], channel⟩

/-! ### The bodies that count -/

/-- The messages up to the first request without `more_body`, or to the first of another type. -/
def bodyMessages : List Message → List Message
  | [] => []
  | message :: rest =>
      if message.type ≠ "http.request" then []
      else if message.more then message :: bodyMessages rest
      else [message]

def totalSize (messages : List Message) : Nat := (messages.map Message.size).sum

/-- The size of the body that arrives in time. -/
def bodySize (inTime : Nat) (channel : Seq Message) : Nat :=
  totalSize (bodyMessages (channel.take inTime))

theorem totalSize_cons (message : Message) (rest : List Message) :
    totalSize (message :: rest) = message.size + totalSize rest :=
  List.sum_cons

section BodySize

variable {message : Message} {inTime : Nat} (rest : Seq Message)

theorem bodySize_nil (inTime : Nat) : bodySize inTime Seq.nil = 0 := by
  unfold bodySize
  rw [Seq.take_nil]
  rfl

theorem bodySize_other (other : message.type ≠ "http.request") :
    bodySize (inTime + 1) (Seq.cons message rest) = 0 := by
  unfold bodySize
  rw [Seq.take_succ_cons, bodyMessages, if_pos other]
  rfl

theorem bodySize_more (request : message.type = "http.request") (more : message.more = true) :
    bodySize (inTime + 1) (Seq.cons message rest) = message.size + bodySize inTime rest := by
  unfold bodySize
  rw [Seq.take_succ_cons, bodyMessages, if_neg (not_not_intro request), if_pos more,
    totalSize_cons]

theorem bodySize_last (request : message.type = "http.request") (last : message.more = false) :
    bodySize (inTime + 1) (Seq.cons message rest) = message.size := by
  unfold bodySize
  rw [Seq.take_succ_cons, bodyMessages, if_neg (not_not_intro request), last,
    if_neg Bool.false_ne_true, totalSize_cons]
  rfl

end BodySize

/-! ### The loop -/

section Loop

variable {maxRequestBytes : Nat}

/-- What was received of the channel fits, but for one message at most. -/
def Overrun (maxRequestBytes size : Nat) (channel left : Seq Message) : Prop :=
  ∃ within beyond, channel = (Seq.ofList (within ++ beyond)).append left ∧
    size + totalSize within ≤ maxRequestBytes ∧ beyond.length ≤ 1

theorem Overrun.cons {size : Nat} {message : Message} {rest left : Seq Message}
    (overrun : Overrun maxRequestBytes (size + message.size) rest left) :
    Overrun maxRequestBytes size (Seq.cons message rest) left := by
  obtain ⟨within, beyond, received, fits, one⟩ := overrun
  refine ⟨message :: within, beyond, ?_, ?_, one⟩
  · rw [received, List.cons_append, Seq.ofList_cons, Seq.cons_append]
  · rw [totalSize_cons, ← Nat.add_assoc]
    exact fits

/-- A body that does not fit is found out by the loop. -/
theorem drainBody_tooLarge {inTime size : Nat} {channel : Seq Message} {messages : List Message}
    (fits : size ≤ maxRequestBytes) (large : maxRequestBytes < size + bodySize inTime channel) :
    ∃ left, drainBody maxRequestBytes inTime channel size messages = .tooLarge left ∧
      Overrun maxRequestBytes size channel left := by
  induction inTime generalizing channel size messages with
  | zero => exact absurd large (Nat.not_lt_of_le fits)
  | succ inTime ih =>
      cases arrived : channel.destruct with
      | none =>
          rw [Seq.destruct_eq_none arrived, bodySize_nil] at large
          exact absurd large (Nat.not_lt_of_le fits)
      | some next =>
          obtain ⟨message, rest⟩ := next
          rw [Seq.destruct_eq_cons arrived] at large ⊢
          unfold drainBody
          rw [Seq.destruct_cons]
          dsimp only
          by_cases request : message.type = "http.request"
          · rw [if_neg (not_not_intro request)]
            by_cases here : maxRequestBytes < size + message.size
            · rw [if_pos here]
              refine ⟨rest, rfl, [], [message], ?_, fits, Nat.le_refl 1⟩
              rw [List.nil_append, Seq.ofList_cons, Seq.cons_append, Seq.ofList_nil,
                Seq.nil_append]
            · rw [if_neg here]
              cases more : message.more with
              | true =>
                  rw [bodySize_more rest request more, ← Nat.add_assoc] at large
                  rw [if_pos rfl]
                  obtain ⟨left, stopped, overrun⟩ := ih (Nat.le_of_not_lt here) large
                  exact ⟨left, stopped, overrun.cons⟩
              | false =>
                  rw [bodySize_last rest request more] at large
                  exact absurd large here
          · rw [bodySize_other rest request] at large
            exact absurd large (Nat.not_lt_of_le fits)

/-- Where the body fits, what was received ahead is in front of what is left, unless the body
does not end in time. -/
theorem drainBody_accepted {inTime size : Nat} {channel : Seq Message} {messages : List Message}
    (fits : size + bodySize inTime channel ≤ maxRequestBytes) :
    (drainBody maxRequestBytes inTime channel size messages = .timedOut ∧
        ∀ message ∈ channel.take inTime, message.ends = false) ∨
      ∃ replay, drainBody maxRequestBytes inTime channel size messages = .accepted replay ∧
        replay.whole = Replay.whole ⟨messages, channel⟩ := by
  induction inTime generalizing channel size messages with
  | zero => exact Or.inl ⟨rfl, fun _ member => absurd member List.not_mem_nil⟩
  | succ inTime ih =>
      cases arrived : channel.destruct with
      | none =>
          left
          rw [Seq.destruct_eq_none arrived]
          exact ⟨rfl, fun _ member => absurd member List.not_mem_nil⟩
      | some next =>
          obtain ⟨message, rest⟩ := next
          rw [Seq.destruct_eq_cons arrived] at fits ⊢
          have again : Replay.whole ⟨messages ++ [message], rest⟩ =
              Replay.whole ⟨messages, Seq.cons message rest⟩ := Replay.whole_append _ _ _
          unfold drainBody
          rw [Seq.destruct_cons]
          dsimp only
          by_cases request : message.type = "http.request"
          · rw [if_neg (not_not_intro request)]
            cases more : message.more with
            | true =>
                rw [bodySize_more rest request more, ← Nat.add_assoc] at fits
                rw [if_neg (by omega), if_pos rfl, ← again, Seq.take_succ_cons]
                rcases ih fits with ⟨timedOut, open'⟩ | accepted
                · refine Or.inl ⟨timedOut, List.forall_mem_cons.mpr ⟨?_, open'⟩⟩
                  unfold Message.ends
                  rw [more, decide_eq_false (not_not_intro request)]
                  rfl
                · exact Or.inr accepted
            | false =>
                rw [bodySize_last rest request more] at fits
                rw [if_neg (by omega), if_neg Bool.false_ne_true]
                exact Or.inr ⟨_, rfl, again⟩
          · rw [if_pos request]
            exact Or.inr ⟨_, rfl, again⟩

end Loop

/-! ### The gate -/

section Handling

variable {answers : Answers} {receive receive' : Replay Message}

/-- No error calls the application. -/
theorem applied_error (event : String) (retryAfter : Int) (error : HttpError) :
    .applied receive ∉ publicMcpError event retryAfter error := by
  simp [publicMcpError]

/-- The application is called with the channel that the request is handled with. -/
theorem applied_handleChecked (applied : .applied receive' ∈ handleChecked answers receive) :
    receive' = receive := by
  unfold handleChecked at applied
  split at applied
  · split at applied
    · simp [requestRateLimited, applied_error] at applied
    · simp [authenticationRequired] at applied
  · have behind := (List.mem_append.mp applied).resolve_left (by split <;> simp)
    split at behind
    · simp [requestRateLimited, applied_error] at behind
    · split at behind
      · split at behind <;> simpa [requestTimedOut, applied_error] using behind
      · simp [requestBusy] at behind

/-- Whoever is admitted reaches the application. -/
theorem applied_of_admitted (authentic : answers.authentication ≠ some false)
    (allowed : answers.rate = none) (slot : answers.slot = true) :
    .applied receive ∈ handleChecked answers receive := by
  unfold handleChecked
  split
  · rename_i refused
    exact absurd refused authentic
  · rw [allowed, if_pos slot]
    simp

end Handling

/-- Each message that is received is the next one of the channel. -/
def Receives (receive : Replay Message) (channel : Seq Message) : Prop :=
  ∀ count, outputs Replay.receive receive (List.replicate count ()) =
    (List.range count).map channel.get?

theorem receives_of_whole {receive : Replay Message} {channel : Seq Message}
    (same : receive.whole = channel) : Receives receive channel := by
  intro count
  rw [Replay.outputs_receive, same]

section Gate

variable {maxRequestBytes : Nat} {headers : List (Bytes × Bytes)} {inTime : Nat}
  {channel : Seq Message}

theorem checkPublicMcpBody_tooLarge
    (large : declaresTooMuch maxRequestBytes headers = true ∨
      maxRequestBytes < bodySize inTime channel) :
    ∃ left, checkPublicMcpBody maxRequestBytes headers inTime channel = .tooLarge left ∧
      Overrun maxRequestBytes 0 channel left := by
  unfold checkPublicMcpBody
  by_cases declared : declaresTooMuch maxRequestBytes headers = true
  · rw [if_pos declared]
    refine ⟨channel, rfl, [], [], ?_, Nat.zero_le _, Nat.zero_le _⟩
    rw [List.append_nil, Seq.ofList_nil, Seq.nil_append]
  · rw [if_neg declared]
    apply drainBody_tooLarge (Nat.zero_le _)
    rw [Nat.zero_add]
    exact large.resolve_left declared

theorem checkPublicMcpBody_accepted
    (undeclared : ¬declaresTooMuch maxRequestBytes headers = true)
    (fits : bodySize inTime channel ≤ maxRequestBytes) :
    (checkPublicMcpBody maxRequestBytes headers inTime channel = .timedOut ∧
        ∀ message ∈ channel.take inTime, message.ends = false) ∨
      ∃ receive, checkPublicMcpBody maxRequestBytes headers inTime channel = .accepted receive ∧
        Receives receive channel := by
  unfold checkPublicMcpBody
  rw [if_neg undeclared]
  have whole : 0 + bodySize inTime channel ≤ maxRequestBytes := by
    rw [Nat.zero_add]
    exact fits
  have drained : drainBody maxRequestBytes inTime channel 0 [] = .timedOut ∧ _ ∨ _ :=
    drainBody_accepted whole
  rcases drained with timedOut | ⟨receive, accepted, same⟩
  · exact Or.inl timedOut
  · exact Or.inr ⟨receive, accepted, receives_of_whole (same.trans (Replay.whole_nil channel))⟩

end Gate

/-- A body that is declared or arrives too large is answered with an error alone, and at most one
message is received that does not fit.  Otherwise the application, if it is called, receives what
arrives on the channel, and the request is handled if the body ends in time. -/
theorem body_gate (maxRequestBytes : Nat) (headers : List (Bytes × Bytes)) (inTime : Nat)
    (channel : Seq Message) (answers : Answers) :
    if declaresTooMuch maxRequestBytes headers ∨ maxRequestBytes < bodySize inTime channel then
      handleMcp maxRequestBytes "POST" headers inTime channel answers = requestTooLarge ∧
        ∃ left, checkPublicMcpBody maxRequestBytes headers inTime channel = .tooLarge left ∧
          Overrun maxRequestBytes 0 channel left
    else
      (∀ receive,
        .applied receive ∈ handleMcp maxRequestBytes "POST" headers inTime channel answers →
          Receives receive channel) ∧
      ((∃ message ∈ channel.take inTime, message.ends) → ∃ receive,
        handleMcp maxRequestBytes "POST" headers inTime channel answers =
          handleChecked answers receive) := by
  have isPost : (("POST" : String) = "POST") := rfl
  unfold handleMcp
  rw [if_pos isPost]
  split
  · rename_i large
    obtain ⟨left, isLarge, overrun⟩ := checkPublicMcpBody_tooLarge large
    rw [isLarge]
    exact ⟨rfl, left, rfl, overrun⟩
  · rename_i small
    obtain ⟨undeclared, fits⟩ := not_or.mp small
    rcases checkPublicMcpBody_accepted undeclared (Nat.le_of_not_lt fits) with
      ⟨timedOut, unended⟩ | ⟨receive, accepted, receives⟩
    · rw [timedOut]
      constructor
      · intro receive applied
        exact absurd applied (applied_error _ _ _)
      · intro ended
        obtain ⟨message, member, ends⟩ := ended
        exact absurd ((unended message member).symm.trans ends) Bool.false_ne_true
    · rw [accepted]
      refine ⟨fun receive' applied => ?_, fun _ => ⟨receive, rfl⟩⟩
      rw [applied_handleChecked applied]
      exact receives

end FolioLattice.Server
