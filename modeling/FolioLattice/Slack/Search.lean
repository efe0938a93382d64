/-
A Slack search over an approved connection: what it may ask for, and what of the answer it
returns.
-/

import FolioLattice.Auth.Memberships
import FolioLattice.Bridge.Confined
import FolioLattice.External.Calls
import FolioLattice.Slack.Times

namespace FolioLattice.Slack

open FolioLattice.Text FolioLattice.Data FolioLattice.External FolioLattice.BackupOps
open FolioLattice.Auth (isSpacePy)
open FolioLattice.Bridge (getItem)
open FolioLattice.Effects (except_bind_ok)

/-! ### Texts and times -/

def slackSearchTool : String := "slack.search"
def maxSlackQueryLength : Nat := 500
def maxSlackChannelLength : Nat := 255
def maxSlackTimeLength : Nat := 64
def maxSlackMessages : Nat := 50
def maxSlackMessageLength : Nat := 20000
def maxSlackMessageIdLength : Nat := 255
def maxSlackPolicyChannels : Nat := 128

/-- `timedelta(days=31)`, in seconds -/
def maxSlackRangeSeconds : Int := 31 * 86400

def microsPerSecond : Int := 1000000

variable {F : Type}

/-- A control character other than a tab and the ends of lines. -/
def isControl (c : CodePoint) : Bool := c.val < 32 && c.val ≠ 9 && c.val ≠ 10 && c.val ≠ 13

/-- `_text` -/
def text (value : PyValue F) (field : String) (maximum : Nat) : Except CallError PyStr :=
  match value with
  | .str text =>
      if text.isEmpty ∨ maximum < text.length ∨ text.any isControl then
        .error (.folio ("Slack " ++ field ++ " is invalid"))
      else .ok text
  | _ => .error (.folio ("Slack " ++ field ++ " is invalid"))

/-- `_timestamp`; where UTC has no date for it, `astimezone` raises an `OverflowError`. -/
def timestamp (value : PyValue F) (field : String) : Except CallError UtcTime := do
  let text ← text value field maxSlackTimeLength
  match readTime text with
  | none => .error (.folio ("Slack " ++ field ++ " must be an ISO-8601 timestamp"))
  | some parsed =>
      match parsed.offset with
      | none => .error (.folio ("Slack " ++ field ++ " must include a timezone"))
      | some offset =>
          match astimezone parsed offset with
          | none => .error .other
          | some time => .ok time

def wireText (time : UtcTime) : PyStr := (wireTimestamp time).map codePoint

/-! ### The bounds of a request -/

structure SearchRequest (F : Type) where
  connectionId : String
  channel : PyValue F
  startTime : PyValue F
  endTime : PyValue F
  query : PyValue F
  limit : PyValue F

structure Bounds where
  channel : PyStr
  start : UtcTime
  finish : UtcTime
  query : PyStr
  limit : Int

def limitRange : String := "Slack limit must be between 1 and " ++ toString maxSlackMessages

/-- `_bounds`, with the default range -/
def SearchRequest.bounds (request : SearchRequest F) : Except CallError Bounds := do
  let channel ← text request.channel "channel" maxSlackChannelLength
  if channel.any isSpacePy then .error (.folio "Slack channel is invalid")
  else
    let start ← timestamp request.startTime "start_time"
    let finish ← timestamp request.endTime "end_time"
    if finish.micros ≤ start.micros then
      .error (.folio "Slack end_time must be after start_time")
    else if maxSlackRangeSeconds * microsPerSecond < finish.micros - start.micros then
      .error (.folio "Slack time range exceeds the approved maximum")
    else
      let query ← text request.query "query" maxSlackQueryLength
      match request.limit with
      | .int limit =>
          if 1 ≤ limit ∧ limit ≤ maxSlackMessages then .ok ⟨channel, start, finish, query, limit⟩
          else .error (.folio limitRange)
      | _ => .error (.folio limitRange)

/-- `_arguments` -/
def Bounds.arguments (bounds : Bounds) : ToolArguments F :=
  [(pyStr "channel", .str bounds.channel), (pyStr "start_time", .str (wireText bounds.start)),
    (pyStr "end_time", .str (wireText bounds.finish)), (pyStr "query", .str bounds.query),
    (pyStr "limit", .int bounds.limit)]

/-! ### The policy of a connection -/

def slackPolicyKey : PyStr := pyStr "slack"

def channelsKey : PyStr := pyStr "channels"

def maxTimeRangeKey : PyStr := pyStr "max_time_range_seconds"

/-- `set(entries) == keys` -/
def hasKeys (keys : List PyStr) (entries : List (PyStr × Json F)) : Bool :=
  entries.all (fun entry => entry.1 ∈ keys) && keys.all (fun key => key ∈ entries.map (·.1))

/-- The channels and the greatest range in seconds. -/
structure SlackPolicy where
  channels : List PyStr
  maxSeconds : Int

def invalidChannels : CallError := .folio "Slack channel policy is invalid"

def approvedChannels : Option (Json F) → Except CallError (List PyStr)
  | some (.arr items) => do
      if 1 ≤ items.length ∧ items.length ≤ maxSlackPolicyChannels then
        let channels ← items.mapM (fun item =>
          text (.ofJson item) "approved channel" maxSlackChannelLength)
        if ¬channels.Nodup ∨ channels.any (fun channel => channel.any isSpacePy) then
          .error invalidChannels
        else .ok channels
      else .error invalidChannels
  | _ => .error invalidChannels

/-- `_policy`; what the registry reads of a policy is always a mapping. -/
def slackPolicy (policy : List (PyStr × Json F)) : Except CallError SlackPolicy :=
  if policy.isEmpty then .error (.folio "Slack connection policy is missing")
  else if !hasKeys [slackPolicyKey] policy then .error (.folio "Slack connection policy is invalid")
  else
    match lookup slackPolicyKey policy with
    | some (.obj entries) => do
        if !hasKeys [channelsKey, maxTimeRangeKey] entries then
          .error (.folio "Slack connection policy is invalid")
        else
          let channels ← approvedChannels (lookup channelsKey entries)
          match lookup maxTimeRangeKey entries with
          | some (.int seconds) =>
              if 1 ≤ seconds ∧ seconds ≤ maxSlackRangeSeconds then .ok ⟨channels, seconds⟩
              else .error (.folio "Slack time-range policy is invalid")
          | _ => .error (.folio "Slack time-range policy is invalid")
    | _ => .error (.folio "Slack connection policy is missing")

/-! ### The answer -/

structure Message where
  id : PyStr
  channel : PyStr
  timestamp : PyStr
  text : PyStr

/-- `item.get(key)` -/
def member (key : String) (entries : List (PyValue F × PyValue F)) : PyValue F :=
  (getItem (pyStr key) entries).getD .null

/-- One message, inside the bounds. -/
def readMessage (bounds : Bounds) : PyValue F → Except CallError Message
  | .dict entries => do
      let id ← text (member "id" entries) "message id" maxSlackMessageIdLength
      let channel ← text (member "channel" entries) "message channel" maxSlackChannelLength
      let timestampText ← text (member "timestamp" entries) "message timestamp" maxSlackTimeLength
      let body ← text (member "text" entries) "message text" maxSlackMessageLength
      let time ← timestamp (F := F) (.str timestampText) "message timestamp"
      if channel ≠ bounds.channel ∨ time.micros < bounds.start.micros ∨
          bounds.finish.micros ≤ time.micros then
        .error (.folio "Slack search returned a message outside its resource bounds")
      else .ok ⟨id, channel, wireText time, body⟩
  | _ => .error (.folio "Slack search returned an invalid message")

/-- The loop of `_messages` with what it has seen and kept so far. -/
def messagesFrom (bounds : Bounds) (seen : List PyStr) (result : List Message) :
    List (PyValue F) → Except CallError (List Message)
  | [] => .ok result
  | item :: rest => do
      let message ← readMessage bounds item
      if message.id ∈ seen then messagesFrom bounds seen result rest
      else if (result.length + 1 : Int) = bounds.limit then .ok (result ++ [message])
      else messagesFrom bounds (message.id :: seen) (result ++ [message]) rest

/-- The list that an upstream value is or has. -/
def upstreamMessages : PyValue F → Option (List (PyValue F))
  | .list items => some items
  | .dict entries =>
      match member "messages" entries with
      | .list items => some items
      | _ => none
  | _ => none

/-- `_messages` -/
def messages (bounds : Bounds) (raw : PyValue F) : Except CallError (List Message) :=
  match upstreamMessages raw with
  | none => .error (.folio "Slack search returned an invalid message list")
  | some items =>
      if bounds.limit < items.length then
        .error (.folio "Slack search returned more messages than requested")
      else messagesFrom bounds [] [] items

/-! ### The search -/

/-- What the callbacks of a search keep. -/
structure SearchState where
  policyVersion : String
  validated : Option (List Message)

def SearchState.start : SearchState := ⟨"external-mcp-v1", none⟩

/-- `validate_policy` -/
def validatePolicy (bounds : Bounds) (state : SearchState) (connection : Connection F) :
    SearchState × Except CallError Unit :=
  ({ state with policyVersion := connection.row.policyVersion }, do
    let policy ← slackPolicy connection.policy
    if bounds.channel ∉ policy.channels then
      .error (.validation
        (.of "Slack channel is not approved" "slack_channel_denied" "denied" true))
    else if policy.maxSeconds * microsPerSecond < bounds.finish.micros - bounds.start.micros then
      .error (.validation (.of "Slack time range exceeds the approved maximum"
        "slack_time_range_denied" "denied" true))
    else .ok ())

def resultReason (message : String) : String :=
  if contains message.toList "more messages than requested".toList then "slack_result_over_limit"
  else if contains message.toList "outside its resource bounds".toList then
    "slack_result_out_of_bounds"
  else "slack_result_invalid"

/-- `validate_result` -/
def validateResult (bounds : Bounds) (state : SearchState) (raw : PyValue F) :
    SearchState × Except CallError Unit :=
  match messages bounds raw with
  | .ok validated => ({ state with validated := some validated }, .ok ())
  | .error (.folio message) =>
      (state, .error (.validation (.of message (resultReason message) "failed" true)))
  | .error error => (state, .error error)

def searchValidators (bounds : Bounds) : Validators F SearchState :=
  ⟨some (validatePolicy bounds), some (validateResult bounds)⟩

/-- What a search returns, besides the name of its provider. -/
structure SlackSearch where
  connectionId : String
  channel : PyStr
  startTime : PyStr
  endTime : PyStr
  query : PyStr
  policyVersion : String
  messages : List Message
  matchCount : Nat

section Search

variable [FloatFormat F]

/-- `_search_internal`: the registry after it, and what it returns. -/
def searchInternal (broker : Broker F) (draw : CallDraw) (registry : Registry)
    (tenantId actor : String) (request : SearchRequest F) :
    Registry × Except CallError SlackSearch :=
  match request.bounds with
  | .error error => (registry, .error error)
  | .ok bounds =>
      let called := broker.callTool draw registry ⟨tenantId, request.connectionId, actor⟩
        slackSearchTool bounds.arguments (searchValidators bounds) .start
      (called.registry, do
        let result ← called.result
        let messages ←
          match called.state.validated with
          | some validated => .ok validated
          | none => messages bounds result
        .ok {
          connectionId := request.connectionId
          channel := bounds.channel
          startTime := wireText bounds.start
          endTime := wireText bounds.finish
          query := bounds.query
          policyVersion := called.state.policyVersion
          messages := messages
          matchCount := messages.length })

end Search

/-! ### What was asked for -/

/-- The text is not empty, not too long and has no control characters. -/
def Printable (text : PyStr) (maximum : Nat) : Prop :=
  text ≠ [] ∧ text.length ≤ maximum ∧ ∀ c ∈ text, isControl c = false

/-- A channel, a half-open range of instants in microseconds and a number of messages. -/
structure Scope where
  channel : PyStr
  start : Int
  finish : Int
  limit : Int

def Bounds.scope (bounds : Bounds) : Scope :=
  ⟨bounds.channel, bounds.start.micros, bounds.finish.micros, bounds.limit⟩

/-- The value is a text that names the instant. -/
def NamesInstant (value : PyValue F) (instant : Int) : Prop :=
  ∃ text, value = .str text ∧ instantOf text = some instant

/-- What a request asks for, in whatever offsets it writes its times. -/
structure SearchRequest.Names (request : SearchRequest F) (scope : Scope) : Prop where
  channel : request.channel = .str scope.channel
  start : NamesInstant request.startTime scope.start
  finish : NamesInstant request.endTime scope.finish
  limit : request.limit = .int scope.limit

/-- A policy that has one section, for Slack, with distinct channels and a range. -/
structure WellFormed (policy : List (PyStr × Json F)) (approved : SlackPolicy) : Prop where
  only : policy ≠ [] ∧ ∀ entry ∈ policy, entry.1 = slackPolicyKey
  fields : ∃ entries, lookup slackPolicyKey policy = some (.obj entries) ∧
    (∀ key, key ∈ entries.map (·.1) ↔ key = channelsKey ∨ key = maxTimeRangeKey) ∧
    lookup channelsKey entries = some (.arr (approved.channels.map .str)) ∧
    lookup maxTimeRangeKey entries = some (.int approved.maxSeconds)
  distinct : approved.channels.Nodup
  few : 1 ≤ approved.channels.length ∧ approved.channels.length ≤ maxSlackPolicyChannels
  named : ∀ channel ∈ approved.channels,
    Printable channel maxSlackChannelLength ∧ ∀ c ∈ channel, isSpacePy c = false
  seconds : 1 ≤ approved.maxSeconds ∧ approved.maxSeconds ≤ maxSlackRangeSeconds

/-- A message of the channel, at an instant of the range. -/
def InScope (scope : Scope) (instant : Int) (entries : List (PyValue F × PyValue F)) : Prop :=
  getItem (pyStr "channel") entries = some (.str scope.channel) ∧
    (∃ stamp, getItem (pyStr "timestamp") entries = some (.str stamp) ∧
      instantOf stamp = some instant) ∧
    scope.start ≤ instant ∧ instant < scope.finish

/-- More messages than asked for, or one that is not in scope. -/
def Violates (scope : Scope) (answer : PyValue F) : Prop :=
  ∀ items, upstreamMessages answer = some items →
    scope.limit < items.length ∨
      ∃ item ∈ items, ¬∃ instant entries, item = .dict entries ∧ InScope scope instant entries

/-- A message of the result, next to the one that it stands for. -/
def StandsFor (scope : Scope) (item : PyValue F) (message : Message) : Prop :=
  ∃ instant entries, item = .dict entries ∧ InScope scope instant entries ∧
    getItem (pyStr "id") entries = some (.str message.id) ∧
    getItem (pyStr "text") entries = some (.str message.text) ∧
    message.channel = scope.channel ∧ instantOf message.timestamp = some instant

/-! ### What the checks accept -/

theorem text_ok {value : PyValue F} {field : String} {maximum : Nat} {found : PyStr}
    (accepted : text value field maximum = .ok found) :
    value = .str found ∧ Printable found maximum := by
  unfold text at accepted
  split at accepted
  · split at accepted
    · cases accepted
    · rename_i valid
      cases accepted
      rw [not_or, not_or] at valid
      obtain ⟨filled, short, plain⟩ := valid
      refine ⟨rfl, ?_, Nat.not_lt.mp short, ?_⟩
      · intro empty
        exact filled (List.isEmpty_iff.mpr empty)
      · intro c member
        rw [Bool.eq_false_iff]
        exact fun control => plain (List.any_eq_true.mpr ⟨c, member, control⟩)
  · cases accepted

theorem timestamp_ok {value : PyValue F} {field : String} {time : UtcTime}
    (accepted : timestamp value field = .ok time) : NamesInstant value time.micros := by
  unfold timestamp at accepted
  obtain ⟨found, isText, accepted⟩ := except_bind_ok accepted
  split at accepted
  · cases accepted
  · rename_i parsed read
    split at accepted
    · cases accepted
    · rename_i offset zoned
      split at accepted
      · cases accepted
      · rename_i converted
        cases accepted
        exact ⟨found, (text_ok isText).1, instantOf_astimezone read zoned converted⟩

theorem SearchRequest.bounds_ok {request : SearchRequest F} {bounds : Bounds}
    (accepted : request.bounds = .ok bounds) : request.Names bounds.scope := by
  unfold SearchRequest.bounds at accepted
  obtain ⟨channel, isChannel, accepted⟩ := except_bind_ok accepted
  split at accepted
  · cases accepted
  · obtain ⟨start, isStart, accepted⟩ := except_bind_ok accepted
    obtain ⟨finish, isFinish, accepted⟩ := except_bind_ok accepted
    split at accepted
    · cases accepted
    · split at accepted
      · cases accepted
      · obtain ⟨query, isQuery, accepted⟩ := except_bind_ok accepted
        split at accepted
        · rename_i limit isLimit
          split at accepted
          · cases accepted
            exact ⟨(text_ok isChannel).1, timestamp_ok isStart, timestamp_ok isFinish, isLimit⟩
          · cases accepted
        · cases accepted

theorem NamesInstant.unique {value : PyValue F} {one two : Int} (first : NamesInstant value one)
    (second : NamesInstant value two) : one = two := by
  obtain ⟨text, isText, isOne⟩ := first
  obtain ⟨text', isText', isTwo⟩ := second
  rw [isText] at isText'
  cases isText'
  exact Option.some.inj (isOne.symm.trans isTwo)

theorem SearchRequest.Names.unique {request : SearchRequest F} {one two : Scope}
    (first : request.Names one) (second : request.Names two) : one = two := by
  obtain ⟨channel, start, finish, limit⟩ := one
  obtain ⟨channel', start', finish', limit'⟩ := two
  have sameStart : start = start' := first.start.unique second.start
  have sameFinish : finish = finish' := first.finish.unique second.finish
  have sameChannel : channel = channel' := PyValue.str.inj (first.channel.symm.trans second.channel)
  have sameLimit : limit = limit' := PyValue.int.inj (first.limit.symm.trans second.limit)
  rw [sameStart, sameFinish, sameChannel, sameLimit]

theorem mapM_text {field : String} {maximum : Nat} {items : List (Json F)} {found : List PyStr}
    (accepted : items.mapM (fun item => text (.ofJson item) field maximum) = .ok found) :
    items = found.map .str ∧ ∀ text ∈ found, Printable text maximum := by
  induction items generalizing found with
  | nil =>
      cases accepted
      exact ⟨rfl, fun _ absent => absurd absent List.not_mem_nil⟩
  | cons item rest ih =>
      rw [List.mapM_cons] at accepted
      obtain ⟨head, isHead, accepted⟩ := except_bind_ok accepted
      obtain ⟨tail, isTail, accepted⟩ := except_bind_ok accepted
      cases accepted
      obtain ⟨isItem, printable⟩ := text_ok isHead
      obtain ⟨isRest, others⟩ := ih isTail
      have same : item = .str head := by
        cases item with
        | str text =>
            rw [PyValue.ofJson] at isItem
            rw [PyValue.str.inj isItem]
        | _ =>
            rw [PyValue.ofJson] at isItem
            cases isItem
      rw [same, isRest]
      refine ⟨rfl, fun text member => ?_⟩
      rcases List.mem_cons.mp member with isText | later
      · rw [isText]
        exact printable
      · exact others text later

theorem approvedChannels_ok {value : Option (Json F)} {channels : List PyStr}
    (accepted : approvedChannels value = .ok channels) :
    value = some (.arr (channels.map .str)) ∧ channels.Nodup ∧
      (1 ≤ channels.length ∧ channels.length ≤ maxSlackPolicyChannels) ∧
      ∀ channel ∈ channels,
        Printable channel maxSlackChannelLength ∧ ∀ c ∈ channel, isSpacePy c = false := by
  unfold approvedChannels at accepted
  split at accepted
  · rename_i items
    split at accepted
    · rename_i few
      obtain ⟨found, isFound, accepted⟩ := except_bind_ok accepted
      split at accepted
      · cases accepted
      · rename_i valid
        cases accepted
        rw [not_or, not_not] at valid
        obtain ⟨same, printable⟩ := mapM_text isFound
        rw [same, List.length_map] at few
        refine ⟨by rw [same], valid.1, few, fun channel isChannel => ⟨printable channel isChannel, ?_⟩⟩
        intro c member
        rw [Bool.eq_false_iff]
        intro space
        apply valid.2
        exact List.any_eq_true.mpr ⟨channel, isChannel, List.any_eq_true.mpr ⟨c, member, space⟩⟩
    · cases accepted
  · cases accepted

theorem hasKeys_iff {keys : List PyStr} {entries : List (PyStr × Json F)} :
    hasKeys keys entries = true ↔ ∀ key, key ∈ entries.map (·.1) ↔ key ∈ keys := by
  unfold hasKeys
  rw [Bool.and_eq_true, List.all_eq_true, List.all_eq_true]
  simp only [decide_eq_true_eq]
  constructor
  · intro ⟨known, present⟩ key
    constructor
    · intro found
      obtain ⟨entry, isEntry, isKey⟩ := List.mem_map.mp found
      rw [← isKey]
      exact known entry isEntry
    · exact present key
  · intro same
    exact ⟨fun entry isEntry => (same entry.1).mp (List.mem_map_of_mem isEntry),
      fun key isKey => (same key).mpr isKey⟩

theorem slackPolicy_ok {policy : List (PyStr × Json F)} {approved : SlackPolicy}
    (accepted : slackPolicy policy = .ok approved) : WellFormed policy approved := by
  unfold slackPolicy at accepted
  split at accepted
  · cases accepted
  · rename_i filled
    split at accepted
    · cases accepted
    · rename_i keyed
      rw [Bool.not_eq_true', Bool.not_eq_false, hasKeys_iff] at keyed
      split at accepted
      · rename_i entries found
        split at accepted
        · cases accepted
        · rename_i fields
          rw [Bool.not_eq_true', Bool.not_eq_false, hasKeys_iff] at fields
          obtain ⟨channels, areChannels, accepted⟩ := except_bind_ok accepted
          obtain ⟨isArray, distinct, few, named⟩ := approvedChannels_ok areChannels
          split at accepted
          · rename_i seconds isSeconds
            split at accepted
            · rename_i inRange
              cases accepted
              refine ⟨⟨?_, ?_⟩, ⟨entries, found, ?_, isArray, isSeconds⟩, distinct, few, named,
                inRange⟩
              · exact fun empty => filled (List.isEmpty_iff.mpr empty)
              · intro entry isEntry
                exact List.mem_singleton.mp ((keyed entry.1).mp (List.mem_map_of_mem isEntry))
              · intro key
                rw [fields key, List.mem_pair]
            · cases accepted
          · cases accepted
      · cases accepted

/-! ### What of an answer is kept -/

theorem member_str {key : String} {entries : List (PyValue F × PyValue F)} {found : PyStr}
    (isText : member key entries = .str found) : getItem (pyStr key) entries = some (.str found) := by
  unfold member at isText
  cases value : getItem (pyStr key) entries with
  | none =>
      rw [value] at isText
      cases isText
  | some value =>
      rw [value] at isText
      exact congrArg some isText

theorem readMessage_ok {bounds : Bounds} {item : PyValue F} {message : Message}
    (accepted : readMessage bounds item = .ok message) : StandsFor bounds.scope item message := by
  unfold readMessage at accepted
  split at accepted
  · rename_i entries
    obtain ⟨id, isId, accepted⟩ := except_bind_ok accepted
    obtain ⟨channel, isChannel, accepted⟩ := except_bind_ok accepted
    obtain ⟨stamp, isStamp, accepted⟩ := except_bind_ok accepted
    obtain ⟨body, isBody, accepted⟩ := except_bind_ok accepted
    obtain ⟨time, isTime, accepted⟩ := except_bind_ok accepted
    split at accepted
    · cases accepted
    · rename_i within
      cases accepted
      rw [not_or, not_or, not_not] at within
      obtain ⟨sameChannel, late, early⟩ := within
      obtain ⟨stamp', isStamp', isInstant⟩ := timestamp_ok isTime
      rw [← PyValue.str.inj isStamp'] at isInstant
      have idText := member_str (text_ok isId).1
      have channelText := member_str (text_ok isChannel).1
      have stampText := member_str (text_ok isStamp).1
      have bodyText := member_str (text_ok isBody).1
      have written : instantOf (wireText time) = some time.micros := instantOf_wireTimestamp time
      rw [sameChannel] at channelText
      unfold Bounds.scope
      refine ⟨time.micros, entries, rfl,
        ⟨channelText, ⟨stamp, stampText, isInstant⟩, Int.not_lt.mp late, Int.not_le.mp early⟩,
        idText, bodyText, sameChannel, ?_⟩
      dsimp only
      exact written
  · cases accepted

/-- What the loop adds stands for some of the items, under new ids, and all of them are in
scope. -/
structure Kept (scope : Scope) (result : List Message) (items : List (PyValue F))
    (out : List Message) : Prop where
  added : ∃ kept more, out = result ++ more ∧ kept.Sublist items ∧
    List.Forall₂ (StandsFor scope) kept more
  distinct : (out.map Message.id).Nodup
  few : (out.length : Int) ≤ scope.limit
  inScope : ∀ item ∈ items, ∃ instant entries, item = .dict entries ∧ InScope scope instant entries

theorem StandsFor.inScope {scope : Scope} {item : PyValue F} {message : Message}
    (stands : StandsFor scope item message) :
    ∃ instant entries, item = .dict entries ∧ InScope scope instant entries := by
  obtain ⟨instant, entries, isItem, within, _⟩ := stands
  exact ⟨instant, entries, isItem, within⟩

theorem messagesFrom_kept {bounds : Bounds} {seen : List PyStr} {result out : List Message}
    {items : List (PyValue F)} (same : ∀ id, id ∈ seen ↔ id ∈ result.map Message.id)
    (distinct : (result.map Message.id).Nodup)
    (room : (result.length + items.length : Int) ≤ bounds.limit)
    (accepted : messagesFrom bounds seen result items = .ok out) :
    Kept bounds.scope result items out := by
  induction items generalizing seen result with
  | nil =>
      cases accepted
      refine ⟨⟨[], [], (List.append_nil _).symm, .slnil, .nil⟩, distinct, ?_, ?_⟩
      · change (out.length : Int) ≤ bounds.limit
        simpa using room
      · exact fun _ absent => absurd absent List.not_mem_nil
  | cons item rest ih =>
      rw [List.length_cons] at room
      push_cast at room
      unfold messagesFrom at accepted
      obtain ⟨message, isMessage, accepted⟩ := except_bind_ok accepted
      have stands := readMessage_ok isMessage
      split at accepted
      · -- A message under a known id is checked and left out.
        obtain ⟨⟨kept, more, isOut, sub, pairs⟩, unique, few, inScope⟩ :=
          ih same distinct (by omega) accepted
        refine ⟨⟨kept, more, isOut, sub.cons item, pairs⟩, unique, few, ?_⟩
        intro other member
        rcases List.mem_cons.mp member with isItem | later
        · rw [isItem]
          exact stands.inScope
        · exact inScope other later
      · rename_i unseen
        have distinct' : ((result ++ [message]).map Message.id).Nodup := by
          rw [List.map_append, List.map_singleton, ← List.concat_eq_append]
          exact distinct.concat (fun known => unseen ((same message.id).mpr known))
        split at accepted
        · -- The limit leaves no room for another item.
          rename_i full
          cases accepted
          have none : rest = [] := List.length_eq_zero_iff.mp (by omega)
          rw [none]
          refine ⟨⟨[item], [message], rfl, .refl _, .cons stands .nil⟩, distinct', ?_, ?_⟩
          · rw [List.length_append, List.length_singleton]
            push_cast
            exact full.le
          · intro other member
            rw [List.mem_singleton.mp member]
            exact stands.inScope
        · have same' : ∀ id, id ∈ message.id :: seen ↔ id ∈ (result ++ [message]).map Message.id := by
            intro id
            rw [List.map_append, List.map_singleton, List.mem_cons, List.mem_append,
              List.mem_singleton, same id]
            exact or_comm
          have room' : ((result ++ [message]).length + rest.length : Int) ≤ bounds.limit := by
            rw [List.length_append, List.length_singleton]
            push_cast
            omega
          obtain ⟨⟨kept, more, isOut, sub, pairs⟩, unique, few, inScope⟩ :=
            ih same' distinct' room' accepted
          refine ⟨⟨item :: kept, message :: more, ?_, sub.cons_cons item, .cons stands pairs⟩,
            unique, few, ?_⟩
          · rw [isOut, List.append_assoc]
            rfl
          · intro other member
            rcases List.mem_cons.mp member with isItem | later
            · rw [isItem]
              exact stands.inScope
            · exact inScope other later

theorem messages_kept {bounds : Bounds} {answer : PyValue F} {out : List Message}
    (accepted : messages bounds answer = .ok out) :
    ∃ items, upstreamMessages answer = some items ∧ (items.length : Int) ≤ bounds.limit ∧
      Kept bounds.scope [] items out := by
  unfold messages at accepted
  split at accepted
  · cases accepted
  · rename_i items isList
    split at accepted
    · cases accepted
    · rename_i few
      refine ⟨items, isList, Int.not_lt.mp few, ?_⟩
      have room : ((([] : List Message).length : Int) + items.length) ≤ bounds.limit := by
        rw [List.length_nil]
        push_cast
        omega
      exact messagesFrom_kept (fun _ => Iff.rfl) List.nodup_nil room accepted

/-! ### What the callbacks accept -/

theorem mapError_ok {ε ε' α : Type} {f : ε → ε'} {result : Except ε α} {value : α}
    (fine : result.mapError f = .ok value) : result = .ok value := by
  cases result with
  | error e => cases fine
  | ok other =>
      cases fine
      rfl

theorem checkConnection_ok {bounds : Bounds} {state between : SearchState} {connection : Connection F}
    (checked : (searchValidators bounds).checkConnection state connection = (between, .ok ())) :
    ∃ policy, slackPolicy connection.policy = .ok policy ∧ bounds.channel ∈ policy.channels ∧
      bounds.finish.micros - bounds.start.micros ≤ policy.maxSeconds * microsPerSecond := by
  have accepted := mapError_ok (Prod.mk.inj checked).2
  obtain ⟨policy, isPolicy, accepted⟩ := except_bind_ok accepted
  split at accepted
  · cases accepted
  · rename_i approved
    split at accepted
    · cases accepted
    · rename_i short
      exact ⟨policy, isPolicy, not_not.mp approved, Int.not_lt.mp short⟩

theorem checkResult_ok {bounds : Bounds} {between after : SearchState} {answer : PyValue F}
    (checked : (searchValidators bounds).checkResult between answer = (after, .ok ())) :
    ∃ out, messages bounds answer = .ok out ∧ after.validated = some out := by
  obtain ⟨isAfter, accepted⟩ := Prod.mk.inj checked
  replace accepted := mapError_ok accepted
  unfold validateResult at isAfter accepted
  split at accepted
  · rename_i out isOut
    rw [isOut] at isAfter
    exact ⟨out, isOut, by rw [← isAfter]⟩
  · cases accepted
  · cases accepted

/-! ### Results stay inside the approved request -/

section Inside

variable [FloatFormat F]

/-- What the upstream answers to the arguments of a request, at the endpoint of its connection
and with the credential of it. -/
def Answered (broker : Broker F) (registry : Registry) (tenantId : String) (request : SearchRequest F)
    (answer : PyValue F) : Prop :=
  ∃ bounds connection credential, request.bounds = .ok bounds ∧
    externalRow F registry tenantId request.connectionId = .ok connection ∧
    broker.credential connection = .ok credential ∧
    broker.transport connection.row.endpoint slackSearchTool bounds.arguments credential = .ok answer

/-- The connection has a well-formed policy that approves the channel and the range. -/
def Approved (registry : Registry) (tenantId : String) (request : SearchRequest F) (scope : Scope) :
    Prop :=
  ∃ (connection : Connection F) (policy : SlackPolicy),
    externalRow F registry tenantId request.connectionId = .ok connection ∧
    WellFormed connection.policy policy ∧ scope.channel ∈ policy.channels ∧
    scope.finish - scope.start ≤ policy.maxSeconds * microsPerSecond

/-- The messages stand for a subsequence of what the upstream answers, under distinct ids. -/
def FromUpstream (scope : Scope) (answer : PyValue F) (found : List Message) : Prop :=
  ∃ items kept, upstreamMessages answer = some items ∧ kept.Sublist items ∧
    List.Forall₂ (StandsFor scope) kept found ∧ (found.map Message.id).Nodup ∧
    (found.length : Int) ≤ scope.limit

/-- A search passes every check, or it fails and records nothing as allowed. -/
theorem searchInternal_ends (broker : Broker F) (draw : CallDraw) (registry : Registry)
    (tenantId actor : String) (request : SearchRequest F) :
    ((∃ error, (searchInternal broker draw registry tenantId actor request).2 = .error error) ∧
      ∃ rows, (searchInternal broker draw registry tenantId actor request).1 =
          { registry with audit := registry.audit ++ rows } ∧
        ∀ row ∈ rows, row.outcome ≠ "allowed") ∨
      ∃ scope answer found, (searchInternal broker draw registry tenantId actor request).2 = .ok found ∧
        request.Names scope ∧ Approved registry tenantId request scope ∧
        Answered broker registry tenantId request answer ∧ ¬Violates scope answer ∧
        FromUpstream scope answer found.messages := by
  unfold searchInternal
  split
  · left
    refine ⟨⟨_, rfl⟩, [], by rw [List.append_nil], ?_⟩
    exact fun _ absent => absurd absent List.not_mem_nil
  · rename_i bounds isBounds
    dsimp only
    generalize isOut : broker.callTool draw registry ⟨tenantId, request.connectionId, actor⟩
      slackSearchTool bounds.arguments (searchValidators bounds) .start = out
    rcases broker.callTool_ends draw registry ⟨tenantId, request.connectionId, actor⟩ slackSearchTool
        bounds.arguments (searchValidators bounds) .start out isOut with
      ⟨⟨error, failed⟩, rows, isRegistry, notAllowed⟩ |
        ⟨connection, credential, answer, between, passed, isResult, _⟩
    · left
      rw [failed]
      exact ⟨⟨error, rfl⟩, rows, isRegistry, notAllowed⟩
    · right
      obtain ⟨policy, isPolicy, approved, short⟩ := checkConnection_ok passed.checked
      obtain ⟨found, isFound, validated⟩ := checkResult_ok passed.validated
      obtain ⟨items, isList, few, kept⟩ := messages_kept isFound
      obtain ⟨sub, more, isMore, sublist, pairs⟩ := kept.added
      rw [isResult, validated]
      refine ⟨bounds.scope, answer, _, rfl, SearchRequest.bounds_ok isBounds,
        ⟨connection, policy, passed.read, slackPolicy_ok isPolicy, approved, short⟩,
        ⟨bounds, connection, credential, isBounds, passed.read, passed.issued, passed.answered⟩,
        ?_, ⟨items, sub, isList, sublist, ?_, kept.distinct, kept.few⟩⟩
      · intro violates
        rcases violates items isList with many | ⟨item, isItem, outside⟩
        · exact absurd few (Int.not_le.mpr many)
        · exact outside (kept.inScope item isItem)
      · rw [isMore]
        exact pairs

theorem Answered.unique {broker : Broker F} {registry : Registry} {tenantId : String}
    {request : SearchRequest F} {one two : PyValue F}
    (first : Answered broker registry tenantId request one)
    (second : Answered broker registry tenantId request two) : one = two := by
  obtain ⟨bounds, connection, credential, isBounds, read, issued, answered⟩ := first
  obtain ⟨bounds', connection', credential', isBounds', read', issued', answered'⟩ := second
  cases isBounds.symm.trans isBounds'
  cases read.symm.trans read'
  cases issued.symm.trans issued'
  exact Except.ok.inj (answered.symm.trans answered')

/-- What a search returns is approved and comes from the upstream in order, inside the request;
and when the upstream answers with more messages than asked for or with one that is out of
scope, the search fails and records nothing as allowed. -/
theorem slack_results_inside (broker : Broker F) (draw : CallDraw) (registry : Registry)
    (tenantId actor : String) (request : SearchRequest F) :
    (∀ found, (searchInternal broker draw registry tenantId actor request).2 = .ok found →
      ∃ scope answer, request.Names scope ∧ Approved registry tenantId request scope ∧
        Answered broker registry tenantId request answer ∧
        FromUpstream scope answer found.messages) ∧
    (∀ scope answer, request.Names scope → Answered broker registry tenantId request answer →
      Violates scope answer →
        (∃ error, (searchInternal broker draw registry tenantId actor request).2 = .error error) ∧
        ∃ rows, (searchInternal broker draw registry tenantId actor request).1 =
            { registry with audit := registry.audit ++ rows } ∧
          ∀ row ∈ rows, row.outcome ≠ "allowed") := by
  rcases searchInternal_ends broker draw registry tenantId actor request with
    refused | ⟨scope, answer, found, isFound, names, approved, answered, inside, fromUpstream⟩
  · constructor
    · intro found isFound
      obtain ⟨error, failed⟩ := refused.1
      rw [failed] at isFound
      cases isFound
    · exact fun _ _ _ _ _ => refused
  · constructor
    · intro found' isFound'
      rw [isFound] at isFound'
      cases isFound'
      exact ⟨scope, answer, names, approved, answered, fromUpstream⟩
    · intro scope' answer' names' answered' violates
      rw [names'.unique names, answered'.unique answered] at violates
      exact absurd violates inside

end Inside

/-! ### A search that returns -/

def supportRow : ConnectionRow where
  id := "extconn_00000000000000000000000000000000"
  tenantId := "acme"
  name := "support"
  endpoint := "https://slack.example/mcp"
  origin := "https://slack.example"
  approvedTools := itemsText Empty [slackSearchTool]
  approvedResources := "[]"
  allowedOrigins := itemsText Empty ["https://slack.example"]
  policyJson := "\x7b\"slack\":\x7b\"channels\":[\"C1\"],\"max_time_range_seconds\":3600\x7d\x7d"
  credentialRef := none
  status := .active
  healthStatus := .unknown
  lastHealthAt := none
  createdBy := "ann"
  createdAt := "2026-01-01T00:00:00+00:00"
  revokedBy := none
  revokedAt := none
  policyVersion := "external-mcp-v1"

def upstreamMessage (id stamp : String) : PyValue Empty :=
  .dict [(.str (pyStr "id"), .str (pyStr id)), (.str (pyStr "channel"), .str (pyStr "C1")),
    (.str (pyStr "timestamp"), .str (pyStr stamp)), (.str (pyStr "text"), .str (pyStr "hello"))]

/-- One message twice, its times in different offsets. -/
def supportBroker : Broker Empty where
  interpreter := roomyInterpreter
  issue _ _ _ _ := none
  transport _ _ _ _ := .ok (.list [upstreamMessage "1" "2026-01-01T11:00:00.25+01:00",
    upstreamMessage "1" "2026-01-01T10:59:59Z"])

def supportDraw : CallDraw :=
  ⟨.ok (), true, true, true, true, Store.Uuid.nil, "2026-01-02T00:00:00+00:00"⟩

def supportRequest : SearchRequest Empty where
  connectionId := supportRow.id
  channel := .str (pyStr "C1")
  startTime := .str (pyStr "2026-01-01T10:00:00Z")
  endTime := .str (pyStr "2026-01-01T13:00:00+02:00")
  query := .str (pyStr "refund")
  limit := .int 20

theorem slack_results_inside_support : ∃ found,
    (searchInternal supportBroker supportDraw ⟨[supportRow], []⟩ "acme" "ann" supportRequest).2 =
        .ok found ∧
      found.matchCount = 1 ∧ ∃ scope answer, supportRequest.Names scope ∧
        Approved ⟨[supportRow], []⟩ "acme" supportRequest scope ∧
        Answered supportBroker ⟨[supportRow], []⟩ "acme" supportRequest answer ∧
        FromUpstream scope answer found.messages := by
  have returns : ((searchInternal supportBroker supportDraw ⟨[supportRow], []⟩ "acme" "ann"
      supportRequest).2.toOption.map SlackSearch.matchCount) = some 1 := by
    decide +kernel
  obtain ⟨found, isFound, one⟩ := Option.map_eq_some_iff.mp returns
  replace isFound : (searchInternal supportBroker supportDraw ⟨[supportRow], []⟩ "acme" "ann"
      supportRequest).2 = .ok found := by
    generalize (searchInternal supportBroker supportDraw ⟨[supportRow], []⟩ "acme" "ann"
      supportRequest).2 = result at isFound ⊢
    cases result with
    | error e => cases isFound
    | ok other => rw [Option.some.inj isFound]
  exact ⟨found, isFound, one, (slack_results_inside supportBroker supportDraw ⟨[supportRow], []⟩
    "acme" "ann" supportRequest).1 found isFound⟩

end FolioLattice.Slack
