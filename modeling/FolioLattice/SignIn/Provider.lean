/-
The hosted identity provider: what it is sent at the beginning of a sign-in and at its end,
and which tokens of it are believed.
-/

import FolioLattice.Auth.Transactions
import FolioLattice.Data.JsonBytes
import FolioLattice.PublicMcp.SignedRelay
import FolioLattice.Server.Forms

namespace FolioLattice.SignIn

open FolioLattice.Text FolioLattice.Data FolioLattice.Server
open FolioLattice.Effects (except_bind_ok except_bind_pass)
open FolioLattice.PublicMcp (strings)

/-- `IdentityClaims` -/
structure IdentityClaims where
  issuer : PyStr
  subject : PyStr
  deriving DecidableEq

/-- What a call of the adapter raises. -/
inductive ProviderError where
  /-- an `AuthenticationError` -/
  | authentication (message : String)
  | other
  deriving DecidableEq

/-- `HostedIdentityConfig`, without what only the network reads. -/
structure HostedIdentityConfig where
  issuer : PyStr
  authorizationEndpoint : List Char
  clientId : List Char
  redirectUri : List Char
  maxResponseBytes : Nat

namespace HostedIdentityConfig

variable (config : HostedIdentityConfig)

/-! ### What the provider is sent -/

/-- `redirect_uri != self.config.redirect_uri` -/
def checkRedirectUri (redirectUri : PyStr) : Except ProviderError Unit :=
  if redirectUri ≠ config.redirectUri.map codePoint then
    .error (.authentication "redirect URI does not match identity configuration")
  else .ok ()

def authorizationFields (state nonce codeChallenge : List Char) : List (List Char × List Char) :=
  [("response_type".toList, "code".toList),
    ("client_id".toList, config.clientId),
    ("redirect_uri".toList, config.redirectUri),
    ("scope".toList, "openid".toList),
    ("state".toList, state),
    ("nonce".toList, nonce),
    ("code_challenge".toList, codeChallenge),
    ("code_challenge_method".toList, "S256".toList)]

/-- `HttpHostedIdentityAdapter.authorization_url` -/
def authorizationUrl (state nonce codeChallenge : List Char) (redirectUri : PyStr) :
    Except ProviderError (List Char) := do
  config.checkRedirectUri redirectUri
  .ok (config.authorizationEndpoint ++
    '?' :: asciiText (urlencode (config.authorizationFields state nonce codeChallenge)))

/-- The form that is posted to the token endpoint. -/
def tokenFields (code codeVerifier : List Char) : List (List Char × List Char) :=
  [("grant_type".toList, "authorization_code".toList),
    ("code".toList, code),
    ("redirect_uri".toList, config.redirectUri),
    ("client_id".toList, config.clientId),
    ("code_verifier".toList, codeVerifier)]

end HostedIdentityConfig

/-! ### What it answers -/

/-- How the token endpoint answers. -/
inductive TokenAnswer where
  /-- the bytes of the response -/
  | body (bytes : Bytes)
  /-- an `OSError` -/
  | unreachable
  /-- an error that is not caught -/
  | raises

/-- What one callback meets: the token endpoint, the library for tokens, the keys and the
clock.  Keys that are not there and tokens that are not good are `AuthenticationError`s. -/
structure Exchange (F Key τ : Type) where
  answer : Bytes → TokenAnswer
  /-- where the interpreter's stack ends for `json.loads` -/
  overflows : PyStr → Bool
  /-- `json.loads` of text with surrogates -/
  surrogates : PyStr → Option (Json F)
  unverifiedHeader : PyStr → Except ProviderError (List (PyStr × Json F))
  /-- `self._jwks.key(kid)` -/
  key : PyStr → Except ProviderError Key
  /-- `jwt.decode` with the one algorithm, which verifies the signature and no claim -/
  decode : PyStr → Key → Except ProviderError (Json F)
  now : τ
  /-- `float(value)`; `none` is its `OverflowError` -/
  ofInt : Int → Option τ
  ofFloat : F → τ

def maxIdentityTokenLength : Nat := 128 * 1024

def oidcAlgorithm : PyStr := pyStr "RS256"

def responseInvalid : ProviderError := .authentication "identity token response is invalid"

def tokenInvalid : ProviderError := .authentication "identity token is invalid"

section Verifying

variable {F Key τ : Type} [FloatFormat F]

/-- `json.loads(body)`; a `ValueError` is caught and a `RecursionError` is not. -/
def Exchange.loads (exchange : Exchange F Key τ) (body : Bytes) : Except ProviderError (Json F) :=
  match decodeDetected body with
  | none => .error responseInvalid
  | some text =>
      if exchange.overflows text then .error .other
      else
        match charsOf text with
        | none => (exchange.surrogates text).elim (.error responseInvalid) .ok
        | some chars =>
            match Data.loads chars with
            | .error _ => .error responseInvalid
            | .ok value => .ok value

theorem Exchange.loads_text {exchange : Exchange F Key τ} {body : Bytes} {text : List Char}
    {value : Json F} (decoded : decodeDetected body = some (text.map codePoint))
    (fits : exchange.overflows (text.map codePoint) = false)
    (chars : charsOf (text.map codePoint) = some text) (loaded : Data.loads text = .ok value) :
    exchange.loads body = .ok value := by
  unfold Exchange.loads
  rw [decoded]
  dsimp only
  rw [fits, if_neg Bool.false_ne_true, chars]
  dsimp only
  rw [loaded]

/-- `_audience_matches` -/
def audienceMatches (value : Option (Json F)) (audience : PyStr) : Bool :=
  match value with
  | some (.str text) => text = audience
  | some (.arr items) =>
      !items.isEmpty &&
        match strings items with
        | some texts => texts.contains audience
        | none => false
  | _ => false

/-- A claim that has to be exactly this text. -/
def requireText (claims : List (PyStr × Json F)) (name : String) (expected : PyStr) :
    Except ProviderError Unit :=
  match lookup (pyStr name) claims with
  | some (.str text) => if text = expected then .ok () else .error tokenInvalid
  | _ => .error tokenInvalid

/-- A claim that has to be some text. -/
def someText (fields : List (PyStr × Json F)) (name : String) : Except ProviderError PyStr :=
  match lookup (pyStr name) fields with
  | some (.str text) => if text = [] then .error tokenInvalid else .ok text
  | _ => .error tokenInvalid

/-- The nonce, whose comparison raises a `TypeError` outside of ASCII. -/
def checkNonce (claims : List (PyStr × Json F)) (nonce : List Char) : Except ProviderError Unit :=
  match lookup (pyStr "nonce") claims with
  | some (.str text) =>
      if text.any (fun c => 0x80 ≤ c.val) || nonce.any (fun c => 0x80 ≤ c.toNat) then .error .other
      else if text = nonce.map codePoint then .ok ()
      else .error tokenInvalid
  | _ => .error tokenInvalid

/-- `_numeric_claim` -/
def Exchange.numericClaim (exchange : Exchange F Key τ) (claims : List (PyStr × Json F))
    (name : String) (required : Bool) : Except ProviderError (Option τ) :=
  match lookup (pyStr name) claims with
  | none => if required then .error tokenInvalid else .ok none
  | some .null => if required then .error tokenInvalid else .ok none
  | some (.int value) =>
      match exchange.ofInt value with
      | none => .error .other
      | some time => .ok (some time)
  | some (.float (.finite value)) => .ok (some (exchange.ofFloat value))
  | some _ => .error tokenInvalid

variable [LinearOrder τ] [Add τ] [Sub τ]

/-- The three times of a token, against the clock and its skew. -/
def Exchange.checkTimes (exchange : Exchange F Key τ) (clockSkew : τ)
    (claims : List (PyStr × Json F)) : Except ProviderError Unit := do
  let expiration ← exchange.numericClaim claims "exp" true
  let issuedAt ← exchange.numericClaim claims "iat" true
  if expiration.all (fun time => time ≤ exchange.now - clockSkew) then .error tokenInvalid
  else if issuedAt.all (fun time => exchange.now + clockSkew < time) then .error tokenInvalid
  else
    let notBefore ← exchange.numericClaim claims "nbf" false
    if notBefore.any (fun time => exchange.now + clockSkew < time) then .error tokenInvalid
    else .ok ()

/-- `_verify_id_token` -/
def HostedIdentityConfig.verifyIdToken (config : HostedIdentityConfig) (clockSkew : τ)
    (exchange : Exchange F Key τ) (token : PyStr) (nonce : List Char) :
    Except ProviderError IdentityClaims := do
  let header ← exchange.unverifiedHeader token
  requireText header "alg" oidcAlgorithm
  let kid ← someText header "kid"
  let key ← exchange.key kid
  match ← exchange.decode token key with
  | .obj claims =>
      requireText claims "iss" config.issuer
      if audienceMatches (lookup (pyStr "aud") claims) (config.clientId.map codePoint) then
        requireText claims "azp" (config.clientId.map codePoint)
        checkNonce claims nonce
        let subject ← someText claims "sub"
        exchange.checkTimes clockSkew claims
        .ok ⟨config.issuer, subject⟩
      else .error tokenInvalid
  | _ => .error tokenInvalid

/-- `HttpHostedIdentityAdapter.complete_callback` -/
def HostedIdentityConfig.completeCallback (config : HostedIdentityConfig) (clockSkew : τ)
    (exchange : Exchange F Key τ) (code nonce codeVerifier : List Char) (redirectUri : PyStr) :
    Except ProviderError IdentityClaims := do
  config.checkRedirectUri redirectUri
  match exchange.answer (urlencode (config.tokenFields code codeVerifier)) with
  | .unreachable => .error (.authentication "identity token exchange failed")
  | .raises => .error .other
  | .body bytes =>
      let body := bytes.take (config.maxResponseBytes + 1)
      if config.maxResponseBytes < body.length then
        .error (.authentication "identity token response is too large")
      else
        match ← exchange.loads body with
        | .obj fields =>
            match lookup (pyStr "id_token") fields with
            | some (.str token) =>
                if token = [] ∨ maxIdentityTokenLength < token.length then .error responseInvalid
                else config.verifyIdToken clockSkew exchange token nonce
            | _ => .error responseInvalid
        | _ => .error responseInvalid

/-! ### Which tokens are believed -/

/-- What a token says that is believed of an identity, for a sign-in with this nonce. -/
structure Vouches (config : HostedIdentityConfig) (clockSkew : τ) (exchange : Exchange F Key τ)
    (token : PyStr) (nonce : List Char) (identity : IdentityClaims)
    (claims : List (PyStr × Json F)) : Prop where
  signed : ∃ header kid key, exchange.unverifiedHeader token = .ok header ∧
    lookup (pyStr "alg") header = some (.str oidcAlgorithm) ∧
    (lookup (pyStr "kid") header = some (.str kid) ∧ kid ≠ []) ∧ exchange.key kid = .ok key ∧
    exchange.decode token key = .ok (.obj claims)
  byIssuer : lookup (pyStr "iss") claims = some (.str config.issuer)
  forUs : audienceMatches (lookup (pyStr "aud") claims) (config.clientId.map codePoint) = true
  toUs : lookup (pyStr "azp") claims = some (.str (config.clientId.map codePoint))
  ofSignIn : lookup (pyStr "nonce") claims = some (.str (nonce.map codePoint))
  ascii : nonce.any (fun c => 0x80 ≤ c.toNat) = false
  subject : lookup (pyStr "sub") claims = some (.str identity.subject)
  named : identity.subject ≠ []
  issuer : identity.issuer = config.issuer
  inTime : exchange.checkTimes clockSkew claims = .ok ()

omit [FloatFormat F] in
theorem requireText_iff {fields : List (PyStr × Json F)} {name : String} {expected : PyStr} :
    requireText fields name expected = .ok () ↔
      lookup (pyStr name) fields = some (.str expected) := by
  unfold requireText
  constructor
  · intro passed
    split at passed
    · rename_i text found
      split at passed
      · rename_i same
        rw [found, same]
      · cases passed
    · cases passed
  · intro found
    rw [found]
    exact if_pos rfl

omit [FloatFormat F] in
theorem someText_iff {fields : List (PyStr × Json F)} {name : String} {text : PyStr} :
    someText fields name = .ok text ↔
      lookup (pyStr name) fields = some (.str text) ∧ text ≠ [] := by
  unfold someText
  constructor
  · intro passed
    split at passed
    · rename_i found
      split at passed
      · cases passed
      · rename_i filled
        cases passed
        exact ⟨found, filled⟩
    · cases passed
  · rintro ⟨found, filled⟩
    rw [found]
    exact if_neg filled

omit [FloatFormat F] in
theorem checkNonce_iff {claims : List (PyStr × Json F)} {nonce : List Char} :
    checkNonce claims nonce = .ok () ↔
      lookup (pyStr "nonce") claims = some (.str (nonce.map codePoint)) ∧
        nonce.any (fun c => 0x80 ≤ c.toNat) = false := by
  have asText : (nonce.map codePoint).any (fun c => 0x80 ≤ c.val) =
      nonce.any (fun c => 0x80 ≤ c.toNat) := by
    rw [List.any_map]
    congr 1
    funext c
    rw [Function.comp_apply, codePoint_toNat]
  unfold checkNonce
  constructor
  · intro passed
    split at passed
    · rename_i text found
      split at passed
      · cases passed
      · rename_i ascii
        split at passed
        · rename_i same
          rw [Bool.or_eq_true, not_or, Bool.not_eq_true, Bool.not_eq_true] at ascii
          rw [found, same]
          exact ⟨rfl, ascii.2⟩
        · cases passed
    · cases passed
  · intro named
    rw [named.1]
    dsimp only
    rw [asText, named.2, if_neg (by decide), if_pos rfl]

omit [FloatFormat F] in
/-- An identity is given exactly for a token that vouches for it. -/
theorem verifyIdToken_iff {config : HostedIdentityConfig} {clockSkew : τ}
    {exchange : Exchange F Key τ} {token : PyStr} {nonce : List Char} {identity : IdentityClaims} :
    config.verifyIdToken clockSkew exchange token nonce = .ok identity ↔
      ∃ claims, Vouches config clockSkew exchange token nonce identity claims := by
  unfold HostedIdentityConfig.verifyIdToken
  constructor
  · intro verified
    obtain ⟨header, isHeader, verified⟩ := except_bind_ok verified
    obtain ⟨_, algorithm, verified⟩ := except_bind_ok verified
    obtain ⟨kid, isKid, verified⟩ := except_bind_ok verified
    obtain ⟨key, isKey, verified⟩ := except_bind_ok verified
    obtain ⟨payload, decoded, verified⟩ := except_bind_ok verified
    split at verified
    · rename_i claims
      obtain ⟨_, issuer, verified⟩ := except_bind_ok verified
      split at verified
      · rename_i audience
        obtain ⟨_, party, verified⟩ := except_bind_ok verified
        obtain ⟨_, isNonce, verified⟩ := except_bind_ok verified
        obtain ⟨subject, isSubject, verified⟩ := except_bind_ok verified
        obtain ⟨_, times, verified⟩ := except_bind_ok verified
        cases verified
        have nonces := checkNonce_iff.mp isNonce
        have subjects := someText_iff.mp isSubject
        exact ⟨claims, {
          signed := ⟨header, kid, key, isHeader, requireText_iff.mp algorithm,
            someText_iff.mp isKid, isKey, decoded⟩
          byIssuer := requireText_iff.mp issuer
          forUs := audience
          toUs := requireText_iff.mp party
          ofSignIn := nonces.1
          ascii := nonces.2
          subject := subjects.1
          named := subjects.2
          issuer := rfl
          inTime := times }⟩
      · cases verified
    · cases verified
  · intro vouched
    obtain ⟨claims, vouches⟩ := vouched
    obtain ⟨header, kid, key, isHeader, algorithm, isKid, isKey, decoded⟩ := vouches.signed
    refine except_bind_pass isHeader (except_bind_pass (requireText_iff.mpr algorithm) ?_)
    refine except_bind_pass (someText_iff.mpr isKid) (except_bind_pass isKey ?_)
    refine except_bind_pass decoded (except_bind_pass (requireText_iff.mpr vouches.byIssuer) ?_)
    rw [if_pos vouches.forUs]
    refine except_bind_pass (requireText_iff.mpr vouches.toUs) ?_
    refine except_bind_pass (checkNonce_iff.mpr ⟨vouches.ofSignIn, vouches.ascii⟩) ?_
    refine except_bind_pass (someText_iff.mpr ⟨vouches.subject, vouches.named⟩) ?_
    refine except_bind_pass vouches.inTime ?_
    rw [← vouches.issuer]

/-- An identity is given exactly where the token endpoint answers the form with a token that
vouches for it. -/
theorem completeCallback_iff {config : HostedIdentityConfig} {clockSkew : τ}
    {exchange : Exchange F Key τ} {code nonce codeVerifier : List Char} {redirectUri : PyStr}
    {identity : IdentityClaims} :
    config.completeCallback clockSkew exchange code nonce codeVerifier redirectUri =
        .ok identity ↔
      redirectUri = config.redirectUri.map codePoint ∧
      ∃ body fields token claims,
        exchange.answer (urlencode (config.tokenFields code codeVerifier)) = .body body ∧
        body.length ≤ config.maxResponseBytes ∧ exchange.loads body = .ok (.obj fields) ∧
        lookup (pyStr "id_token") fields = some (.str token) ∧
        (token ≠ [] ∧ token.length ≤ maxIdentityTokenLength) ∧
        Vouches config clockSkew exchange token nonce identity claims := by
  unfold HostedIdentityConfig.completeCallback
  constructor
  · intro completed
    obtain ⟨_, redirect, completed⟩ := except_bind_ok completed
    have same : redirectUri = config.redirectUri.map codePoint := by
      unfold HostedIdentityConfig.checkRedirectUri at redirect
      split at redirect
      · cases redirect
      · rename_i same
        exact not_not.mp same
    split at completed
    · cases completed
    · cases completed
    rename_i body answered
    dsimp only at completed
    split at completed
    · cases completed
    rename_i fits
    -- what was read is the whole body, as it is not longer than the limit
    have short : body.length ≤ config.maxResponseBytes := by
      rw [List.length_take] at fits
      omega
    rw [List.take_of_length_le (Nat.le_succ_of_le short)] at completed
    obtain ⟨value, loaded, completed⟩ := except_bind_ok completed
    split at completed
    · rename_i fields
      split at completed
      · rename_i token found
        split at completed
        · cases completed
        · rename_i bounded
          obtain ⟨claims, vouches⟩ := verifyIdToken_iff.mp completed
          rw [not_or, Nat.not_lt] at bounded
          exact ⟨same, body, fields, token, claims, answered, short, loaded, found, bounded, vouches⟩
      · cases completed
    · cases completed
  · intro given
    obtain ⟨same, body, fields, token, claims, answered, short, loaded, found, bounded, vouches⟩ :=
      given
    refine except_bind_pass (if_neg (not_not.mpr same)) ?_
    rw [answered]
    dsimp only
    rw [List.take_of_length_le (Nat.le_succ_of_le short), if_neg (Nat.not_lt_of_le short)]
    refine except_bind_pass loaded ?_
    dsimp only
    rw [found]
    dsimp only
    rw [if_neg (not_or.mpr ⟨bounded.1, Nat.not_lt_of_le bounded.2⟩)]
    exact verifyIdToken_iff.mpr ⟨claims, vouches⟩

end Verifying

/-! ### What the provider reads -/

/-- The provider reads the fields of the URL as they were put into it. -/
theorem authorizationUrl_ok {config : HostedIdentityConfig} {state nonce codeChallenge : List Char}
    {redirectUri : PyStr} {url : List Char}
    (made : config.authorizationUrl state nonce codeChallenge redirectUri = .ok url) :
    ∃ query, url = config.authorizationEndpoint ++ '?' :: asciiText query ∧
      encodeUtf8 (asciiText query) = query ∧
      parseQsl true query = config.authorizationFields state nonce codeChallenge := by
  unfold HostedIdentityConfig.authorizationUrl at made
  obtain ⟨_, _, made⟩ := except_bind_ok made
  cases made
  exact ⟨_, rfl, encodeUtf8_asciiText (urlencode_ascii _), parseQsl_urlencode true _ (Or.inl rfl)⟩

end FolioLattice.SignIn
