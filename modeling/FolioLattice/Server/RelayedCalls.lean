/-
The calls of the clients inside the process: each one is sent under a token of its own,
which is taken back when the call ends, however it ends.
-/

import FolioLattice.Concurrency.Interleaving
import FolioLattice.Server.OneRead

namespace FolioLattice.Server

open FolioLattice.Text FolioLattice.Data FolioLattice.Auth FolioLattice.PublicMcp
  FolioLattice.Relational
open FolioLattice.Concurrency
open FolioLattice.Effects (except_bind_ok)

/-! ### The system -/

/-- What a client sends under a token: the call of a tool, or the list of `ready`. -/
inductive ClientCall (F : Type) where
  | tool (name : PyStr) (arguments : List (PyStr × Json F))
  | ready

/-- The tool that the token is issued for. -/
def ClientCall.relayTool {F : Type} : ClientCall F → PyStr
  | .tool name _ => if name = artifactReadTool then artifactReadTool else identityRelayTool
  | .ready => identityRelayTool

def ClientCall.relayArguments {F : Type} : ClientCall F → Option (List (PyStr × Json F))
  | .tool name arguments => if name = artifactReadTool then some arguments else none
  | .ready => none

theorem ClientCall.relayTool_read {F : Type} (arguments : List (PyStr × Json F)) :
    (ClientCall.tool artifactReadTool arguments).relayTool = artifactReadTool := by
  unfold ClientCall.relayTool
  exact if_pos rfl

theorem ClientCall.relayArguments_read {F : Type} (arguments : List (PyStr × Json F)) :
    (ClientCall.tool artifactReadTool arguments).relayArguments = some arguments := by
  unfold ClientCall.relayArguments
  exact if_pos rfl

/-- A call of a client for a principal, or a request that the server receives with some
token. -/
inductive RelayedCall (F : Type) where
  | client (principal : Principal) (call : ClientCall F)
  | request (path : String) (token : List Char)

/-- Where a call stands. -/
inductive RelayedThread (F : Type) where
  | calling (principal : Principal) (call : ClientCall F)
  /-- in the `try` of `_call_with_relay` or `_ready_with_relay` -/
  | running (principal : Principal) (call : ClientCall F) (token : List Char) (expiresAt : ℚ≥0)
  | ended
  | asking (path : String) (token : List Char)
  | answered (result : Except RequestError (Principal × Option CapabilityBinding))

def RelayedCall.thread {F : Type} : RelayedCall F → RelayedThread F
  | .client principal call => .calling principal call
  | .request path token => .asking path token

section Steps

variable (F : Type) [FloatFormat F] (app : FolioHttpApp) (relay : TrustedPrincipalRelay)
  (rounding : Rounding)

/-- One step of a call.  The relay's lock makes each of its methods one step, and the
memberships may change at any time. -/
inductive RelayedStep : ThreadStep HttpState (RelayedThread F) where
  /-- an unknown tool, or arguments that no token is issued for -/
  | refused {state : HttpState} {principal : Principal} {call : ClientCall F} :
      RelayedStep state (.calling principal call) state .ended
  | issue {state : HttpState} {principal : Principal} {call : ClientCall F} {drawn : Bytes}
      {purged now : ℚ≥0} {token : List Char} {tokens : TrustedTokens}
      (issued : relay.issue rounding state.tokens principal call.relayTool call.relayArguments
        drawn purged now = .ok (token, tokens)) :
      RelayedStep state (.calling principal call) { state with tokens := tokens }
        (.running principal call token (rounding.round (now + relay.ttlSeconds)))
  /-- the `finally`, after a result, an error, a timeout or a cancellation -/
  | revoke {state : HttpState} {principal : Principal} {call : ClientCall F} {token : List Char}
      {expiresAt : ℚ≥0} :
      RelayedStep state (.running principal call token expiresAt)
        { state with tokens := state.tokens.revoke token } .ended
  | request {state : HttpState} {path : String} {token : List Char} {purged now : ℚ≥0} :
      RelayedStep state (.asking path token)
        (app.authenticateContext F state path token purged now).1
        (.answered (app.authenticateContext F state path token purged now).2)
  | membership {state : HttpState} {thread : RelayedThread F} {table : MembershipTable}
      (changed : MembershipChange F state.memberships table) :
      RelayedStep state thread { state with memberships := table } thread

end Steps

/-- No token is out. -/
def relayedStart {ι F : Type} (memberships : MembershipTable) (calls : ι → RelayedCall F) :
    Config ι HttpState (RelayedThread F) :=
  ⟨⟨memberships, [], []⟩, fun i => (calls i).thread⟩

/-! ### Every entry is that of a running call -/

section Runs

variable {F : Type} [FloatFormat F] {app : FolioHttpApp} {relay : TrustedPrincipalRelay}
  {rounding : Rounding}

/-- The thread is a call in progress, and the entry is the one made for it. -/
inductive Owns (thread : RelayedThread F) (key : PyStr) (entry : TrustedEntry) : Prop where
  | running (principal : Principal) (call : ClientCall F) (token : List Char) (expiresAt : ℚ≥0)
      (digest : PyStr) (runs : thread = .running principal call token expiresAt)
      (isKey : key = tokenDigest token)
      (digested : bindingDigest call.relayTool call.relayArguments = .ok digest)
      (made : entry = ⟨expiresAt, principal, ⟨call.relayTool, digest⟩⟩)

/-- The table has one entry for a token, and each belongs to a call in progress. -/
structure Owned {ι : Type} (config : Config ι HttpState (RelayedThread F)) : Prop where
  distinct : (config.shared.tokens.map (·.1)).Nodup
  owner : ∀ key entry, (key, entry) ∈ config.shared.tokens →
    ∃ i, Owns (config.threads i) key entry

theorem TrustedTokens.purge_nodup {tokens : TrustedTokens}
    (distinct : (tokens.map (·.1)).Nodup) (now : ℚ≥0) : ((tokens.purge now).map (·.1)).Nodup :=
  distinct.sublist (List.filter_sublist.map _)

theorem TrustedTokens.mem_purge {tokens : TrustedTokens} {now : ℚ≥0} {key : PyStr}
    {entry : TrustedEntry} (member : (key, entry) ∈ tokens.purge now) :
    (key, entry) ∈ tokens ∧ now < entry.expiresAt := by
  obtain ⟨inside, live⟩ := List.mem_filter.mp member
  exact ⟨inside, not_le.mp (of_decide_eq_true live)⟩

/-- A request leaves the tokens as they are, or without those that have expired. -/
theorem authenticateContext_tokens (used : app.principalRelay = some (.trusted relay))
    (state : HttpState) (path : String) (token : List Char) (purged now : ℚ≥0) :
    (app.authenticateContext F state path token purged now).1.tokens = state.tokens ∨
      (app.authenticateContext F state path token purged now).1.tokens =
        state.tokens.purge purged := by
  unfold FolioHttpApp.authenticateContext
  split
  · exact .inl rfl
  · rw [used]
    by_cases bad : token.isEmpty ∨ maxTrustedToken < token.length
    · left
      have same : state.tokens.resolveCapability token purged = (state.tokens, none) := if_pos bad
      simp only [Relay.resolveCapability, same]
    · right
      simp only [Relay.resolveCapability, TrustedTokens.resolveCapability, if_neg bad]
      cases getEntry (tokenDigest token) (state.tokens.purge purged) with
      | none => rfl
      | some entry => rfl

variable {ι : Type} [DecidableEq ι] {config : Config ι HttpState (RelayedThread F)}

/-- What is left of the table still has its owners, where the step's own thread owned
nothing that is left. -/
theorem Owned.shrink (owned : Owned config) {state : HttpState} {thread : RelayedThread F} {i : ι}
    (distinct : (state.tokens.map (·.1)).Nodup)
    (fewer : ∀ key entry, (key, entry) ∈ state.tokens → (key, entry) ∈ config.shared.tokens)
    (gone : ∀ key entry, (key, entry) ∈ state.tokens → ¬Owns (config.threads i) key entry) :
    Owned ⟨state, Function.update config.threads i thread⟩ where
  distinct := distinct
  owner key entry member := by
    obtain ⟨j, owns⟩ := owned.owner key entry (fewer key entry member)
    have other : j ≠ i := by
      intro same
      rw [same] at owns
      exact gone key entry member owns
    refine ⟨j, ?_⟩
    change Owns (Function.update config.threads i thread j) key entry
    rw [Function.update_of_ne other]
    exact owns

theorem Owned.step (used : app.principalRelay = some (.trusted relay)) (owned : Owned config)
    {i : ι} {state : HttpState} {thread : RelayedThread F} {before : RelayedThread F}
    (here : config.threads i = before)
    (step : RelayedStep F app relay rounding config.shared before state thread) :
    Owned ⟨state, Function.update config.threads i thread⟩ := by
  cases step with
  | refused =>
      refine owned.shrink owned.distinct (fun _ _ member => member) ?_
      intro key entry _ owns
      rw [here] at owns
      cases owns with
      | running _ _ _ _ _ runs => cases runs
  | @issue _ principal call drawn purged now token tokens issued =>
      unfold TrustedPrincipalRelay.issue at issued
      obtain ⟨digest, digested, issued⟩ := except_bind_ok issued
      cases issued
      have purgedDistinct := TrustedTokens.purge_nodup owned.distinct purged
      refine ⟨putEntry_nodup _ _ purgedDistinct, ?_⟩
      intro key entry member
      rcases mem_putEntry member with same | old
      · cases same
        refine ⟨i, ?_⟩
        change Owns (Function.update config.threads i _ i) _ _
        rw [Function.update_self]
        exact .running principal call _ _ digest rfl rfl digested rfl
      · obtain ⟨j, owns⟩ := owned.owner key entry (TrustedTokens.mem_purge old).1
        have other : j ≠ i := by
          intro same
          rw [same, here] at owns
          cases owns with
          | running _ _ _ _ _ runs => cases runs
        refine ⟨j, ?_⟩
        change Owns (Function.update config.threads i _ j) _ _
        rw [Function.update_of_ne other]
        exact owns
  | @revoke _ principal call token expiresAt =>
      have popped : config.shared.tokens.revoke token =
          config.shared.tokens.filter (fun entry => entry.1 ≠ tokenDigest token) :=
        popEntry_eq_filter _ owned.distinct
      refine owned.shrink ?_ ?_ ?_
      · exact owned.distinct.sublist ((popEntry_sublist _ _).map _)
      · intro key entry member
        exact (popEntry_sublist _ _).subset member
      · -- the entry under the token's digest is what the call takes back
        intro key entry member owns
        change (key, entry) ∈ config.shared.tokens.revoke token at member
        rw [popped] at member
        have differs := of_decide_eq_true (List.mem_filter.mp member).2
        rw [here] at owns
        cases owns with
        | running _ _ _ _ _ runs isKey =>
            cases runs
            exact differs isKey
  | @request _ path token purged now =>
      have none : ∀ key entry, ¬Owns (config.threads i) key entry := by
        intro key entry owns
        rw [here] at owns
        cases owns with
        | running _ _ _ _ _ runs => cases runs
      rcases authenticateContext_tokens (F := F) used config.shared path token purged now with
        same | same
      · refine owned.shrink ?_ ?_ (fun key entry _ => none key entry)
        · rw [same]
          exact owned.distinct
        · intro key entry member
          rwa [same] at member
      · refine owned.shrink ?_ ?_ (fun key entry _ => none key entry)
        · rw [same]
          exact TrustedTokens.purge_nodup owned.distinct purged
        · intro key entry member
          rw [same] at member
          exact (TrustedTokens.mem_purge member).1
  | membership changed =>
      rw [← here, Function.update_eq_self]
      exact ⟨owned.distinct, owned.owner⟩

theorem Owned.run (used : app.principalRelay = some (.trusted relay))
    {memberships : MembershipTable} {calls : ι → RelayedCall F} {events : List (Event ι HttpState)}
    (run : Run (RelayedStep F app relay rounding) (relayedStart memberships calls) events config) :
    Owned config := by
  induction run with
  | start => exact ⟨List.nodup_nil, fun _ _ member => by cases member⟩
  | next _ taken ih => exact ih.step used rfl taken

/-! ### What a token is good for -/

/-- How a request under the token of the call is bound: to nothing but the identity, or to
a read of the arguments. -/
inductive Carries (call : ClientCall F) : Option CapabilityBinding → Prop where
  | identity (plain : call.relayTool = identityRelayTool) : Carries call none
  | read {arguments : List (PyStr × Json F)} {digest : PyStr}
      (reads : call = .tool artifactReadTool arguments)
      (digested : capabilityArgumentsDigest arguments = .ok digest) :
      Carries call (some ⟨artifactReadTool, digest⟩)

theorem ClientCall.carries {call : ClientCall F} {digest : PyStr}
    (digested : bindingDigest call.relayTool call.relayArguments = .ok digest) :
    Carries call (if call.relayTool = identityRelayTool then none
      else some ⟨call.relayTool, digest⟩) := by
  by_cases plain : call.relayTool = identityRelayTool
  · rw [if_pos plain]
    exact .identity plain
  rw [if_neg plain]
  cases call with
  | ready => exact absurd rfl plain
  | tool name arguments =>
      by_cases isRead : name = artifactReadTool
      · subst isRead
        rw [relayTool_read, relayArguments_read, bindingDigest_read] at digested
        rw [relayTool_read]
        exact .read rfl digested
      · exact absurd (if_neg isRead) plain

omit [DecidableEq ι] in
theorem Owned.resolved (owned : Owned config) {token : List Char} {purged : ℚ≥0}
    {capability : PrincipalCapability}
    (resolved : (config.shared.tokens.resolveCapability token purged).2 = some capability) :
    ∃ (i : ι) (principal : Principal) (call : ClientCall F) (own : List Char) (expiresAt : ℚ≥0)
        (digest : PyStr),
      config.threads i = .running principal call own expiresAt ∧
      tokenDigest token = tokenDigest own ∧ purged < expiresAt ∧
      bindingDigest call.relayTool call.relayArguments = .ok digest ∧
      capability = ⟨principal, ⟨call.relayTool, digest⟩⟩ := by
  unfold TrustedTokens.resolveCapability at resolved
  split at resolved
  · cases resolved
  obtain ⟨entry, found, isCapability⟩ := Option.map_eq_some_iff.mp resolved
  obtain ⟨inside, live⟩ := TrustedTokens.mem_purge (mem_of_getEntry found)
  obtain ⟨i, owns⟩ := owned.owner _ _ inside
  cases owns with
  | running principal call own expiresAt digest runs isKey digested made =>
      rw [made] at live isCapability
      exact ⟨i, principal, call, own, expiresAt, digest, runs, isKey, live, digested,
        isCapability.symm⟩

/-- A request is let in under a token only while the call that it was issued for is in
progress and its time is not over: as the principal of that call, and bound to a read of its
arguments where the call is one.  When no call is in progress, no token is left. -/
theorem relayed_requests_are_running_calls (used : app.principalRelay = some (.trusted relay))
    {memberships : MembershipTable} {calls : ι → RelayedCall F} {events : List (Event ι HttpState)}
    (run : Run (RelayedStep F app relay rounding) (relayedStart memberships calls) events config) :
    (∀ (path : String) (token : List Char) (purged now : ℚ≥0) (principal : Principal)
        (binding : Option CapabilityBinding),
      (app.authenticateContext F config.shared path token purged now).2 =
        .ok (principal, binding) →
      path = "/mcp" ∧
      ∃ (i : ι) (given : Principal) (call : ClientCall F) (own : List Char) (expiresAt : ℚ≥0),
        config.threads i = .running given call own expiresAt ∧
        tokenDigest token = tokenDigest own ∧ purged < expiresAt ∧
        app.currentPrincipal F config.shared.memberships given = .ok principal ∧
        Carries call binding ∧
        ∀ (arguments : List (PyStr × Json F)) (server : McpServer) (asked : ToolCall F)
            (operation : Operation F),
          call = .tool artifactReadTool arguments →
          server.callTool ⟨some principal, binding⟩ asked = .ok operation →
          ∃ artifactId versionId, asked = .artifactRead artifactId versionId ∧
            capabilityArgumentsDigest (readArguments (F := F) artifactId versionId) =
              capabilityArgumentsDigest arguments) ∧
    ((∀ i principal call token expiresAt,
      config.threads i ≠ .running principal call token expiresAt) → config.shared.tokens = []) := by
  have owned := Owned.run used run
  constructor
  · intro path token purged now principal binding answered
    obtain ⟨isPath, capability, found, isPrincipal⟩ := authenticateContext_ok answered
    have resolved : (config.shared.tokens.resolveCapability token purged).2 = some capability := by
      unfold FolioHttpApp.capability at found
      rw [used] at found
      exact found
    obtain ⟨i, given, call, own, expiresAt, digest, runs, isToken, live, digested, isCapability⟩ :=
      owned.resolved resolved
    have current := principalOf_ok isPrincipal
    have isBinding : binding = if call.relayTool = identityRelayTool then none
        else some ⟨call.relayTool, digest⟩ := by
      unfold FolioHttpApp.principalOf at isPrincipal
      obtain ⟨_, _, isPrincipal⟩ := except_bind_ok isPrincipal
      rw [isCapability] at isPrincipal
      split at isPrincipal
      · rename_i plain
        cases isPrincipal
        exact (if_pos plain).symm
      · rename_i bound
        cases isPrincipal
        exact (if_neg bound).symm
    have carries : Carries call binding := isBinding ▸ ClientCall.carries digested
    rw [isCapability] at current
    refine ⟨isPath, i, given, call, own, expiresAt, runs, isToken, live, current, carries, ?_⟩
    intro arguments server asked operation isRead called
    cases carries with
    | identity plain =>
        rw [isRead, ClientCall.relayTool_read] at plain
        exact absurd plain.symm identityRelayTool_ne
    | @read arguments' digest' reads digested' =>
        have same : arguments' = arguments := by
          rw [isRead] at reads
          cases reads
          rfl
        obtain ⟨artifactId, versionId, isAsked, sameDigest⟩ := callTool_bound rfl rfl called
        rw [same] at digested'
        exact ⟨artifactId, versionId, isAsked, sameDigest.trans digested'.symm⟩
  · intro idle
    apply List.eq_nil_iff_forall_not_mem.mpr
    intro entry member
    obtain ⟨i, owns⟩ := owned.owner entry.1 entry.2 member
    cases owns with
    | running principal call token expiresAt _ runs => exact idle i _ _ _ _ runs

end Runs

/-! ### A read in progress -/

def localApp : FolioHttpApp := ⟨some (.trusted trustedRelay), false⟩

/-- The reader's client reads `art_1`. -/
def readerCall : ClientCall Empty := .tool artifactReadTool (readArguments (pyStr "art_1") none)

/-- While the call is in progress, a request with its token is the reader's. -/
theorem relayed_requests_are_running_calls_reader :
    ∃ (events : List (Event Unit HttpState)) (config : Config Unit HttpState (RelayedThread Empty)),
      Run (RelayedStep Empty localApp trustedRelay Rounding.exact)
        (relayedStart [] (fun _ => .client exampleReader readerCall)) events config ∧
      ∃ token principal binding,
        (localApp.authenticateContext Empty config.shared "/mcp" token 100 100).2 =
          .ok (principal, binding) ∧
        Carries readerCall binding := by
  have filled : b64url (List.replicate 32 0) ≠ [] :=
    b64url_ne_nil (List.cons_ne_nil 0 (List.replicate 31 0))
  have short : (b64url (List.replicate 32 0)).length ≤ maxTrustedToken := by
    have bound := b64url_length_le (List.replicate 32 0)
    rw [List.length_replicate] at bound
    exact bound.trans (by decide)
  have lives : ¬Rounding.exact.round ((100 : ℕ) + (60 : ℕ)) ≤ (100 : ℚ≥0) := by
    change ¬((100 : ℕ) + (60 : ℕ) : ℚ≥0) ≤ 100
    norm_num
  obtain ⟨digest, digested⟩ : ∃ digest,
      capabilityArgumentsDigest (readArguments (F := Empty) (pyStr "art_1") none) = .ok digest :=
    ⟨_, (artifact_reads (pyStr "art_1") (by decide)).digest⟩
  generalize drew : b64url (List.replicate 32 0) = token at filled short
  have issued : trustedRelay.issue (F := Empty) Rounding.exact [] exampleReader readerCall.relayTool
      readerCall.relayArguments (List.replicate 32 0) 100 100 =
      .ok (token, readTokens digest token) := by
    unfold readerCall
    rw [ClientCall.relayTool_read, ClientCall.relayArguments_read]
    unfold TrustedPrincipalRelay.issue
    rw [bindingDigest_read, digested, drew]
    rfl
  have run : Run (RelayedStep Empty localApp trustedRelay Rounding.exact)
      (relayedStart [] (fun _ : Unit => .client exampleReader readerCall)) _ _ :=
    Run.start.next (i := ()) (.issue issued)
  obtain ⟨kept, resolved⟩ : ∃ kept, TrustedTokens.resolveCapability (readTokens digest token) token
      100 = (kept, some ⟨exampleReader, ⟨artifactReadTool, digest⟩⟩) :=
    ⟨_, Prod.ext rfl (tokenEntry_resolves filled short lives)⟩
  have answered : (localApp.authenticateContext Empty ⟨[], readTokens digest token, []⟩ "/mcp" token
      100 100).2 = .ok (exampleReader, some ⟨artifactReadTool, digest⟩) := by
    unfold FolioHttpApp.authenticateContext localApp
    simp only [Relay.resolveCapability, resolved]
    rfl
  obtain ⟨_, i, given, call, own, expiresAt, runs, _, _, _, carries, _⟩ :=
    (relayed_requests_are_running_calls rfl run).1 "/mcp" token 100 100 _ _ answered
  refine ⟨_, _, run, token, _, _, answered, ?_⟩
  change RelayedThread.running exampleReader readerCall token _ = _ at runs
  cases runs
  exact carries

end FolioLattice.Server
