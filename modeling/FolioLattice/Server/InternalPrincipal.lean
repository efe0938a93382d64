/-
Requests that carry an internal principal token: the relay that resolves the token, the
membership that is looked up again, and the principal the request is answered as.
-/

import FolioLattice.Auth.Memberships
import FolioLattice.PublicMcp.Spelling
import FolioLattice.Relational.Entries

namespace FolioLattice.Server

open FolioLattice.Text FolioLattice.Data FolioLattice.Auth FolioLattice.PublicMcp
  FolioLattice.Relational FolioLattice.Concurrency
open FolioLattice.Effects (except_bind_ok)

/-! ### The relay within one process -/

structure TrustedEntry where
  expiresAt : ℚ≥0
  principal : Principal
  binding : CapabilityBinding

/-- `_tokens`, by the digest of the token. -/
abbrev TrustedTokens := List (PyStr × TrustedEntry)

structure TrustedPrincipalRelay where
  ttlSeconds : ℚ≥0
  ttl_pos : 0 < ttlSeconds
  ttl_le : ttlSeconds ≤ 60

/-- `_purge_locked` -/
def TrustedTokens.purge (tokens : TrustedTokens) (now : ℚ≥0) : TrustedTokens :=
  tokens.filter (fun entry => ¬entry.2.expiresAt ≤ now)

/-- `issue`, with the bytes `secrets` draws for the token. -/
def TrustedPrincipalRelay.issue {F : Type} [FloatFormat F] (relay : TrustedPrincipalRelay)
    (rounding : Rounding) (tokens : TrustedTokens) (principal : Principal) (tool : PyStr)
    (arguments : Option (List (PyStr × Json F))) (drawn : Bytes) (purged now : ℚ≥0) :
    Except ValueError (List Char × TrustedTokens) := do
  let digest ← bindingDigest tool arguments
  let entry : TrustedEntry := ⟨rounding.round (now + relay.ttlSeconds), principal, ⟨tool, digest⟩⟩
  .ok (b64url drawn, putEntry (tokenDigest (b64url drawn)) entry (tokens.purge purged))

def maxTrustedToken : Nat := 256

/-- `resolve_capability` -/
def TrustedTokens.resolveCapability (tokens : TrustedTokens) (token : List Char) (now : ℚ≥0) :
    TrustedTokens × Option PrincipalCapability :=
  if token.isEmpty ∨ maxTrustedToken < token.length then (tokens, none)
  else
    (tokens.purge now,
      (getEntry (tokenDigest token) (tokens.purge now)).map
        (fun entry => ⟨entry.principal, entry.binding⟩))

/-- `revoke` -/
def TrustedTokens.revoke (tokens : TrustedTokens) (token : List Char) : TrustedTokens :=
  popEntry (tokenDigest token) tokens

/-! ### The app -/

inductive Relay where
  | trusted (relay : TrustedPrincipalRelay)
  | signed (relay : SignedPrincipalRelay)

/-- What the app was made with: a relay, and whether there is a session store. -/
structure FolioHttpApp where
  principalRelay : Option Relay
  sessionStore : Bool

/-- The memberships, and what the relay in use remembers. -/
structure HttpState where
  memberships : MembershipTable
  tokens : TrustedTokens
  revoked : Denylist

inductive RequestError where
  /-- `AuthenticationError` -/
  | authentication (message : String)
  /-- the `UnicodeEncodeError` of a surrogate in a bound text -/
  | unicode
  deriving DecidableEq

/-- `inner.issubset(outer)` -/
def ScopesWithin (inner outer : Scopes) : Prop := ∀ scope ∈ inner.sorted, scope ∈ outer.sorted

instance ScopesWithin.decidable (inner outer : Scopes) : Decidable (ScopesWithin inner outer) :=
  List.decidableBAll _ inner.sorted

section Requests

variable (F : Type) [FloatFormat F]

/-- The relay's answer to the token, reading the clock for the purge and again for
the window. -/
def Relay.resolveCapability (relay : Relay) (state : HttpState) (token : List Char)
    (purged now : ℚ≥0) : HttpState × Option PrincipalCapability :=
  match relay with
  | .trusted _ =>
      let (tokens, capability) := state.tokens.resolveCapability token purged
      ({ state with tokens := tokens }, capability)
  | .signed relay =>
      let (revoked, capability) := relay.resolveCapability F state.revoked token purged now
      ({ state with revoked := revoked }, capability)

def notActive : RequestError := .authentication "internal principal is not active"

/-- The principal of the membership that the token's principal names. -/
def recheckMembership (memberships : MembershipTable) (principal : Principal) :
    Except RequestError Principal :=
  if charsOf principal.issuer = none ∨ charsOf principal.subject = none then .error .unicode
  else
    match memberships.lookup F principal.issuer principal.subject with
    | .error _ => .error notActive
    | .ok none => .error notActive
    | .ok (some membership) =>
        if membership.status ≠ .active ∨ membership.tenantId ≠ principal.tenantId ∨
            membership.actorId ≠ principal.actorId ∨
            ¬ScopesWithin principal.scopes membership.scopes then
          .error notActive
        else
          .ok
            { tenantId := membership.tenantId
              actorId := membership.actorId
              issuer := membership.issuer
              subject := membership.subject
              scopes := membership.scopes }

/-- The principal in force for a token's: with a session store, that of its membership. -/
def FolioHttpApp.currentPrincipal (app : FolioHttpApp) (memberships : MembershipTable)
    (principal : Principal) : Except RequestError Principal :=
  if app.sessionStore then recheckMembership F memberships principal else .ok principal

/-- What is returned for the capability that a token resolved to. -/
def FolioHttpApp.principalOf (app : FolioHttpApp) (memberships : MembershipTable)
    (capability : PrincipalCapability) :
    Except RequestError (Principal × Option CapabilityBinding) := do
  let principal ← app.currentPrincipal F memberships capability.principal
  if capability.binding.tool = identityRelayTool then .ok (principal, none)
  else .ok (principal, some capability.binding)

/-- `_authenticate_context` of a request that carries the token. -/
def FolioHttpApp.authenticateContext (app : FolioHttpApp) (state : HttpState) (path : String)
    (token : List Char) (purged now : ℚ≥0) :
    HttpState × Except RequestError (Principal × Option CapabilityBinding) :=
  if path ≠ "/mcp" then (state, .error (.authentication "internal principal is limited to MCP"))
  else
    match app.principalRelay with
    | none => (state, .error (.authentication "internal principal relay is unavailable"))
    | some relay =>
        match relay.resolveCapability F state token purged now with
        | (state, none) => (state, .error (.authentication "internal principal is invalid"))
        | (state, some capability) => (state, app.principalOf F state.memberships capability)

/-- The capability that the app's relay finds for the token. -/
def FolioHttpApp.capability (app : FolioHttpApp) (state : HttpState) (token : List Char)
    (purged now : ℚ≥0) : Option PrincipalCapability :=
  app.principalRelay.bind (fun relay => (relay.resolveCapability F state token purged now).2)

/-! ### Runs -/

/-- A call on the membership store that succeeded. -/
inductive MembershipChange : MembershipTable → MembershipTable → Prop where
  | add {table table' : MembershipTable} {issuer subject tenantId actorId : PyStr}
      {status : MembershipStatus} {scopes : List PyStr}
      (added : table.add F issuer subject tenantId actorId status scopes = .ok table') :
      MembershipChange table table'
  | setStatus {table table' : MembershipTable} {issuer subject : PyStr} {status : MembershipStatus}
      (updated : table.setStatus issuer subject status = .ok table') : MembershipChange table table'
  | setScopes {table table' : MembershipTable} {issuer subject : PyStr} {scopes : List PyStr}
      (updated : table.setScopes issuer subject scopes = .ok table') : MembershipChange table table'

inductive HttpEvent where
  | issue (principal : Principal) (token : List Char)
  | revoke (token : List Char)
  | membership
  | request (path : String) (token : List Char) (purged now : ℚ≥0)
      (result : Except RequestError (Principal × Option CapabilityBinding))

/-- One call.  A signed capability may come from any relay that shares the secret. -/
inductive HttpStep (app : FolioHttpApp) (rounding : Rounding) : Transition HttpState HttpEvent where
  | issueTrusted {state : HttpState} {relay : TrustedPrincipalRelay} {principal : Principal}
      {tool : PyStr} {arguments : Option (List (PyStr × Json F))} {drawn : Bytes}
      {purged now : ℚ≥0} {token : List Char} {tokens : TrustedTokens}
      (used : app.principalRelay = some (.trusted relay))
      (issued : relay.issue rounding state.tokens principal tool arguments drawn purged now =
        .ok (token, tokens)) :
      HttpStep app rounding state (.issue principal token) { state with tokens := tokens }
  | issueSigned {state : HttpState} {relay issuer : SignedPrincipalRelay} {principal : Principal}
      {tool : PyStr} {arguments : Option (List (PyStr × Json F))} {drawn : Bytes} {time : ℚ≥0}
      {token : List Char} (used : app.principalRelay = some (.signed relay))
      (secret : issuer.secret = relay.secret) (audience : issuer.audience = relay.audience)
      (issued : issuer.issue principal tool arguments drawn time = .ok token) :
      HttpStep app rounding state (.issue principal token) state
  | revokeTrusted {state : HttpState} {relay : TrustedPrincipalRelay} {token : List Char}
      (used : app.principalRelay = some (.trusted relay)) :
      HttpStep app rounding state (.revoke token)
        { state with tokens := state.tokens.revoke token }
  | revokeSigned {state : HttpState} {relay : SignedPrincipalRelay} {token : List Char}
      {purged now : ℚ≥0} (used : app.principalRelay = some (.signed relay)) :
      HttpStep app rounding state (.revoke token)
        { state with revoked := revoke rounding state.revoked token purged now }
  | membership {state : HttpState} {table : MembershipTable}
      (changed : MembershipChange F state.memberships table) :
      HttpStep app rounding state .membership { state with memberships := table }
  | request {state : HttpState} {path : String} {token : List Char} {purged now : ℚ≥0} :
      HttpStep app rounding state
        (.request path token purged now
          (app.authenticateContext F state path token purged now).2)
        (app.authenticateContext F state path token purged now).1

/-- Who is let in has no more scopes than the capability and, with a session store, no
more than the membership, and the tenant and actor of both. -/
def Attenuated (app : FolioHttpApp) (state : HttpState) (token : List Char) (purged now : ℚ≥0)
    (result : Except RequestError (Principal × Option CapabilityBinding)) : Prop :=
  ∀ principal binding, result = .ok (principal, binding) →
    ∃ capability, app.capability F state token purged now = some capability ∧
      ScopesWithin principal.scopes capability.principal.scopes ∧
      principal.tenantId = capability.principal.tenantId ∧
      principal.actorId = capability.principal.actorId ∧
      (app.sessionStore = true →
        ∃ membership, state.memberships.lookup F capability.principal.issuer
            capability.principal.subject = .ok (some membership) ∧
          ScopesWithin principal.scopes membership.scopes ∧
          principal.tenantId = membership.tenantId ∧ principal.actorId = membership.actorId)

/-- The active membership that a capability names has its scopes and more. -/
def Widened (app : FolioHttpApp) (state : HttpState) (path : String) (token : List Char)
    (purged now : ℚ≥0) : Prop :=
  app.sessionStore = true ∧ path = "/mcp" ∧
    ∃ capability membership, app.capability F state token purged now = some capability ∧
      charsOf capability.principal.issuer ≠ none ∧ charsOf capability.principal.subject ≠ none ∧
      state.memberships.lookup F capability.principal.issuer capability.principal.subject =
        .ok (some membership) ∧
      membership.status = .active ∧ membership.tenantId = capability.principal.tenantId ∧
      membership.actorId = capability.principal.actorId ∧
      ScopesWithin capability.principal.scopes membership.scopes ∧
      ¬ScopesWithin membership.scopes capability.principal.scopes

/-! ### One request -/

variable {F}

theorem ScopesWithin.refl (scopes : Scopes) : ScopesWithin scopes scopes :=
  fun _ member => member

theorem Relay.resolveCapability_memberships (relay : Relay) (state : HttpState)
    (token : List Char) (purged now : ℚ≥0) :
    (relay.resolveCapability F state token purged now).1.memberships = state.memberships := by
  cases relay with
  | trusted relay => rfl
  | signed relay => rfl

theorem recheckMembership_ok {memberships : MembershipTable} {known principal : Principal}
    (checked : recheckMembership F memberships known = .ok principal) :
    (charsOf known.issuer ≠ none ∧ charsOf known.subject ≠ none) ∧
      ∃ membership, memberships.lookup F known.issuer known.subject = .ok (some membership) ∧
        membership.status = .active ∧ membership.tenantId = known.tenantId ∧
        membership.actorId = known.actorId ∧ ScopesWithin known.scopes membership.scopes ∧
        principal = ⟨membership.tenantId, membership.actorId, membership.issuer,
          membership.subject, membership.scopes⟩ := by
  unfold recheckMembership at checked
  split at checked
  · cases checked
  · rename_i bound
    rw [not_or] at bound
    refine ⟨bound, ?_⟩
    split at checked
    · cases checked
    · cases checked
    · rename_i membership found
      split at checked
      · cases checked
      · rename_i fine
        simp only [not_or, not_not, ne_eq] at fine
        obtain ⟨active, tenant, actor, within⟩ := fine
        cases checked
        exact ⟨membership, found, active, tenant, actor, within, rfl⟩

theorem recheckMembership_of {memberships : MembershipTable} {known : Principal}
    {membership : Membership} (issuer : charsOf known.issuer ≠ none)
    (subject : charsOf known.subject ≠ none)
    (found : memberships.lookup F known.issuer known.subject = .ok (some membership))
    (active : membership.status = .active) (tenant : membership.tenantId = known.tenantId)
    (actor : membership.actorId = known.actorId)
    (within : ScopesWithin known.scopes membership.scopes) :
    recheckMembership F memberships known = .ok ⟨membership.tenantId, membership.actorId,
      membership.issuer, membership.subject, membership.scopes⟩ := by
  have bound : ¬(charsOf known.issuer = none ∨ charsOf known.subject = none) := by
    rintro (unbound | unbound)
    · exact issuer unbound
    · exact subject unbound
  have fine : ¬(membership.status ≠ .active ∨ membership.tenantId ≠ known.tenantId ∨
      membership.actorId ≠ known.actorId ∨ ¬ScopesWithin known.scopes membership.scopes) := by
    simp only [not_or, not_not, ne_eq]
    exact ⟨active, tenant, actor, within⟩
  unfold recheckMembership
  rw [if_neg bound, found]
  exact if_neg fine

theorem principalOf_ok {app : FolioHttpApp} {memberships : MembershipTable}
    {capability : PrincipalCapability} {principal : Principal} {binding : Option CapabilityBinding}
    (answered : app.principalOf F memberships capability = .ok (principal, binding)) :
    app.currentPrincipal F memberships capability.principal = .ok principal := by
  unfold FolioHttpApp.principalOf at answered
  obtain ⟨found, current, answered⟩ := except_bind_ok answered
  rw [current]
  split at answered
  · cases answered
    rfl
  · cases answered
    rfl

theorem authenticateContext_ok {app : FolioHttpApp} {state : HttpState} {path : String}
    {token : List Char} {purged now : ℚ≥0} {principal : Principal}
    {binding : Option CapabilityBinding}
    (answered : (app.authenticateContext F state path token purged now).2 =
      .ok (principal, binding)) :
    path = "/mcp" ∧ ∃ capability, app.capability F state token purged now = some capability ∧
      app.principalOf F state.memberships capability = .ok (principal, binding) := by
  unfold FolioHttpApp.authenticateContext at answered
  split at answered
  · cases answered
  · rename_i onPath
    rw [ne_eq, not_not] at onPath
    refine ⟨onPath, ?_⟩
    split at answered
    · cases answered
    · rename_i relay used
      have kept := relay.resolveCapability_memberships (F := F) state token purged now
      split at answered
      · cases answered
      · rename_i state' capability resolved
        rw [resolved] at kept
        refine ⟨capability, ?_, kept ▸ answered⟩
        unfold FolioHttpApp.capability
        rw [used, Option.bind_some, resolved]

theorem authenticateContext_of {app : FolioHttpApp} {state : HttpState} {token : List Char}
    {purged now : ℚ≥0} {capability : PrincipalCapability}
    (found : app.capability F state token purged now = some capability) :
    (app.authenticateContext F state "/mcp" token purged now).2 =
      app.principalOf F state.memberships capability := by
  unfold FolioHttpApp.capability at found
  obtain ⟨relay, used, resolved⟩ := Option.bind_eq_some_iff.mp found
  have kept := relay.resolveCapability_memberships (F := F) state token purged now
  unfold FolioHttpApp.authenticateContext
  rw [if_neg (not_not.mpr rfl), used]
  cases answer : relay.resolveCapability F state token purged now with
  | mk state' capability' =>
      rw [answer] at resolved kept
      cases resolved
      simp only [answer]
      exact congrArg (fun table => app.principalOf F table capability) kept

/-- A request lets in no more than its capability exactly if the membership was not
given more scopes. -/
theorem attenuated_iff (app : FolioHttpApp) (state : HttpState) (path : String)
    (token : List Char) (purged now : ℚ≥0) :
    Attenuated F app state token purged now
        (app.authenticateContext F state path token purged now).2 ↔
      ¬Widened F app state path token purged now := by
  constructor
  · rintro attenuated ⟨stored, onPath, capability, membership, resolved, issuer, subject, found,
      active, tenant, actor, within, more⟩
    subst onPath
    have rechecked := recheckMembership_of issuer subject found active tenant actor within
    have answered : ∃ binding, (app.authenticateContext F state "/mcp" token purged now).2 =
        .ok (⟨membership.tenantId, membership.actorId, membership.issuer, membership.subject,
          membership.scopes⟩, binding) := by
      rw [authenticateContext_of resolved]
      unfold FolioHttpApp.principalOf FolioHttpApp.currentPrincipal
      rw [if_pos stored, rechecked]
      by_cases identity : capability.binding.tool = identityRelayTool
      · exact ⟨none, if_pos identity⟩
      · exact ⟨some capability.binding, if_neg identity⟩
    obtain ⟨binding, answered⟩ := answered
    obtain ⟨capability', resolved', narrow, _⟩ := attenuated _ binding answered
    rw [resolved] at resolved'
    cases resolved'
    exact more narrow
  · intro narrow principal binding answered
    obtain ⟨onPath, capability, resolved, answered⟩ := authenticateContext_ok answered
    have rechecked := principalOf_ok answered
    unfold FolioHttpApp.currentPrincipal at rechecked
    refine ⟨capability, resolved, ?_⟩
    cases stored : app.sessionStore with
    | false =>
        rw [stored, if_neg Bool.false_ne_true] at rechecked
        cases rechecked
        exact ⟨ScopesWithin.refl _, rfl, rfl, fun impossible => absurd impossible Bool.false_ne_true⟩
    | true =>
        rw [stored, if_pos rfl] at rechecked
        obtain ⟨⟨issuer, subject⟩, membership, found, active, tenant, actor, within, same⟩ :=
          recheckMembership_ok rechecked
        have scopes : ScopesWithin membership.scopes capability.principal.scopes := by
          by_contra more
          exact narrow ⟨stored, onPath, capability, membership, resolved, issuer, subject, found,
            active, tenant, actor, within, more⟩
        subst same
        exact ⟨scopes, tenant, actor, fun _ => ⟨membership, found, ScopesWithin.refl _, rfl, rfl⟩⟩

/-! ### Every run -/

section Runs

variable {app : FolioHttpApp} {rounding : Rounding} {start state : HttpState}
  {past : List (HttpState × HttpEvent)}

/-- The requests of a run are answered by the app in the states they met. -/
theorem request_answered (trace : Trace (HttpStep F app rounding) start past state)
    {s : HttpState} {path : String} {token : List Char} {purged now : ℚ≥0}
    {result : Except RequestError (Principal × Option CapabilityBinding)}
    (asked : (s, HttpEvent.request path token purged now result) ∈ past) :
    result = (app.authenticateContext F s path token purged now).2 := by
  obtain ⟨next, taken⟩ := trace.taken asked
  change HttpStep F app rounding s (.request path token purged now result) next at taken
  cases taken with
  | request => rfl

/-- In every run the requests let in no more than their capabilities exactly if none of
them met a membership that had been given more scopes. -/
theorem relayed_attenuated_iff (trace : Trace (HttpStep F app rounding) start past state) :
    (∀ s path token purged now result,
        (s, HttpEvent.request path token purged now result) ∈ past →
        Attenuated F app s token purged now result) ↔
      ∀ s path token purged now result,
        (s, HttpEvent.request path token purged now result) ∈ past →
        ¬Widened F app s path token purged now := by
  constructor
  · intro attenuated s path token purged now result asked
    have answered := attenuated s path token purged now result asked
    rw [request_answered trace asked] at answered
    exact (attenuated_iff app s path token purged now).mp answered
  · intro narrow s path token purged now result asked
    rw [request_answered trace asked]
    exact (attenuated_iff app s path token purged now).mpr
      (narrow s path token purged now result asked)

end Runs

end Requests

/-! ### A membership that becomes an administrator's -/

theorem tokenEntry_resolves {token : List Char} (filled : token ≠ [])
    (short : token.length ≤ maxTrustedToken) {entry : TrustedEntry} {now : ℚ≥0}
    (lives : ¬entry.expiresAt ≤ now) :
    (TrustedTokens.resolveCapability [(tokenDigest token, entry)] token now).2 =
      some ⟨entry.principal, entry.binding⟩ := by
  have looked : ¬(token.isEmpty ∨ maxTrustedToken < token.length) := by
    rintro (nothing | long)
    · exact filled (List.isEmpty_iff.mp nothing)
    · exact absurd short (Nat.not_le_of_lt long)
  have kept : TrustedTokens.purge [(tokenDigest token, entry)] now = [(tokenDigest token, entry)] :=
    List.filter_cons_of_pos (decide_eq_true lives)
  have found : getEntry (tokenDigest token) [(tokenDigest token, entry)] = some entry :=
    getEntry_cons_of_eq [] rfl
  unfold TrustedTokens.resolveCapability
  rw [if_neg looked, kept, found]
  rfl

theorem sixty_positive : (0 : ℚ≥0) < (60 : ℕ) := by norm_num

theorem sixty_bounded : ((60 : ℕ) : ℚ≥0) ≤ 60 := by norm_num

def trustedRelay : TrustedPrincipalRelay where
  ttlSeconds := (60 : ℕ)
  ttl_pos := sixty_positive
  ttl_le := sixty_bounded

def sessionApp : FolioHttpApp := ⟨some (.trusted trustedRelay), true⟩

def adminScopes : Scopes := ⟨[pyStr "tenant:admin"], List.pairwise_singleton _ _⟩

theorem adminScopes_valid : adminScopes.Valid := by
  unfold Scopes.Valid
  decide

/-- What the relay remembers of a capability that was issued at 100. -/
def readerTokens (token : List Char) : TrustedTokens :=
  [(tokenDigest token, ⟨Rounding.exact.round ((100 : ℕ) + (60 : ℕ)), exampleReader,
    ⟨identityRelayTool, identityRelayDigest⟩⟩)]

/-- Without a session store the reader is answered with the capability's scopes. -/
theorem relayed_attenuated_alone :
    ∃ token past state, Trace (HttpStep Empty ⟨some (.trusted trustedRelay), false⟩ Rounding.exact)
        ⟨[], readerTokens token, []⟩ past state ∧
      ∀ s path token purged now result,
        (s, HttpEvent.request path token purged now result) ∈ past →
        Attenuated Empty ⟨some (.trusted trustedRelay), false⟩ s token purged now result := by
  have asking := @HttpStep.request Empty _ ⟨some (.trusted trustedRelay), false⟩ Rounding.exact
    ⟨[], readerTokens ['t'], []⟩ "/mcp" ['t'] 100 100
  refine ⟨['t'], _, _, Trace.start.next asking, (relayed_attenuated_iff (Trace.start.next asking)).mpr ?_⟩
  intro s path token purged now result _ widened
  exact Bool.false_ne_true widened.1

/-- The membership of the example's reader, with these scopes. -/
def readerRow (scopes : Scopes) : MembershipRow :=
  ⟨exampleReader.issuer, exampleReader.subject, exampleReader.tenantId, exampleReader.actorId,
    .active, scopesText scopes⟩

theorem readerRow_lookup {scopes : Scopes} (valid : scopes.Valid)
    (few : scopes.sorted.length ≤ 128) :
    MembershipTable.lookup Empty [readerRow scopes] exampleReader.issuer exampleReader.subject =
      .ok (some ⟨exampleReader.issuer, exampleReader.subject, exampleReader.tenantId,
        exampleReader.actorId, .active, scopes⟩) := by
  have isOf : MembershipRow.isOf exampleReader.issuer exampleReader.subject (readerRow scopes) =
      true := by
    unfold MembershipRow.isOf readerRow
    simp only [decide_true, Bool.and_self]
  have read : (readerRow scopes).read Empty = .ok ⟨exampleReader.issuer, exampleReader.subject,
      exampleReader.tenantId, exampleReader.actorId, .active, scopes⟩ := by
    unfold MembershipRow.read readerRow
    rw [readScopes_scopesText valid few]
    rfl
  unfold MembershipTable.lookup
  rw [List.find?_cons_of_pos isOf]
  simp only [read]
  rfl

theorem readerRow_setScopes :
    MembershipTable.setScopes [readerRow Scopes.empty] exampleReader.issuer exampleReader.subject
      [pyStr "tenant:admin"] = .ok [readerRow adminScopes] := by
  have issuer : requiredText "issuer" exampleReader.issuer = .ok exampleReader.issuer := by decide
  have subject : requiredText "subject" exampleReader.subject = .ok exampleReader.subject := by
    decide
  have scopes : serverScopes [pyStr "tenant:admin"] = .ok adminScopes := by decide
  have isOf : MembershipRow.isOf exampleReader.issuer exampleReader.subject
      (readerRow Scopes.empty) = true := by
    unfold MembershipRow.isOf readerRow
    simp only [decide_true, Bool.and_self]
  unfold MembershipTable.setScopes
  rw [issuer, subject, scopes]
  simp only [Bind.bind, Except.bind]
  unfold MembershipTable.update
  rw [if_pos (by rw [List.any_cons, isOf, Bool.true_or]), List.map_singleton, if_pos isOf]
  rfl

/-- A capability without a scope is answered as an administrator, once the membership
that it names has become one. -/
theorem relayed_not_attenuated :
    ∃ past state, Trace (HttpStep Empty sessionApp Rounding.exact) ⟨[], [], []⟩ past state ∧
      ¬∀ s path token purged now result,
        (s, HttpEvent.request path token purged now result) ∈ past →
        Attenuated Empty sessionApp s token purged now result := by
  have filled : b64url (List.replicate 32 0) ≠ [] :=
    b64url_ne_nil (List.cons_ne_nil 0 (List.replicate 31 0))
  have short : (b64url (List.replicate 32 0)).length ≤ maxTrustedToken := by
    have bound := b64url_length_le (List.replicate 32 0)
    rw [List.length_replicate] at bound
    exact bound.trans (by decide)
  have lives : ¬Rounding.exact.round (100 + 60) ≤ (100 : ℚ≥0) := by
    change ¬(100 + 60 : ℚ≥0) ≤ 100
    norm_num
  generalize drew : b64url (List.replicate 32 0) = token at filled short
  have issued : trustedRelay.issue (F := Empty) Rounding.exact [] exampleReader identityRelayTool
      none (List.replicate 32 0) 100 100 =
      .ok (token, readerTokens token) := by
    unfold TrustedPrincipalRelay.issue
    rw [bindingDigest_identity, drew]
    rfl
  have adding : HttpStep Empty sessionApp Rounding.exact ⟨[], [], []⟩ .membership
      ⟨[readerRow Scopes.empty], [], []⟩ :=
    .membership (.add (exampleReader_added exampleReader.tenantId (by decide)))
  have issuing := @HttpStep.issueTrusted Empty _ sessionApp Rounding.exact
    ⟨[readerRow Scopes.empty], [], []⟩ trustedRelay exampleReader identityRelayTool none
    (List.replicate 32 0) 100 100 token (readerTokens token) rfl issued
  have widening : HttpStep Empty sessionApp Rounding.exact
      ⟨[readerRow Scopes.empty], readerTokens token, []⟩ .membership
      ⟨[readerRow adminScopes], readerTokens token, []⟩ :=
    .membership (.setScopes readerRow_setScopes)
  have asking := @HttpStep.request Empty _ sessionApp Rounding.exact
    ⟨[readerRow adminScopes], readerTokens token, []⟩ "/mcp" token 100 100
  refine ⟨_, _, (((Trace.start.next adding).next issuing).next widening).next asking, ?_⟩
  intro always
  have attenuated := always _ _ _ _ _ _ (List.mem_append_right _ List.mem_cons_self)
  refine (attenuated_iff sessionApp _ _ _ _ _).mp attenuated ⟨rfl, rfl, _, _,
    tokenEntry_resolves filled short lives, by decide, by decide,
    readerRow_lookup adminScopes_valid (by decide), rfl, rfl, rfl, ?_, ?_⟩
  · intro scope member
    cases member
  · intro within
    cases within _ List.mem_cons_self

end FolioLattice.Server
