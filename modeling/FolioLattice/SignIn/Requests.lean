/-
Signing in and out: the requests that begin a sign-in, that come back from the provider and
that end a session, each a thread of calls on the shared tables.
-/

import FolioLattice.Auth.SessionRuns
import FolioLattice.Concurrency.Tickets
import FolioLattice.External.Pinned
import FolioLattice.Server.ReturnTo
import FolioLattice.SignIn.Provider

namespace FolioLattice.SignIn

open FolioLattice.Text FolioLattice.Data FolioLattice.Auth FolioLattice.Server
open FolioLattice.Concurrency
open FolioLattice.External (SplitUrl)

/-! ### Requests and replies -/

/-- The server's `_query_value` -/
def queryValue (queryString : Bytes) (name : List Char) : Option (List Char) :=
  if maxAuthQueryBytes < queryString.length then none
  else
    match decodeAscii queryString with
    | none => none
    | some query =>
        match queryValues false name query with
        | [value] => if value.isEmpty || maxAuthQueryValue < value.length then none else some value
        | _ => none

/-- `_valid_provider_url` on a string; without a value `urlsplit` raises. -/
def validProviderUrl (urlsplit : String → Option SplitUrl) (value : List Char) : Bool :=
  !value.isEmpty && value.length ≤ maxAuthQueryValue && value = strip value &&
    value.all (fun c => 0x20 ≤ c.toNat && c.toNat ≠ 0x7f) &&
      match urlsplit (String.ofList value) with
      | none => false
      | some parsed =>
          (parsed.scheme = "http" || parsed.scheme = "https") && parsed.netloc ≠ "" &&
            parsed.username.isNone && parsed.password.isNone && parsed.fragment = ""

/-- What `GET /auth/callback` reads of a request; the cookies are what `_cookie` makes of
the header. -/
structure CallbackRequest where
  queryString : Bytes
  stateCookie : Option (List Char)
  sessionCookie : Option (List Char)

/-- The state and the code are there and the state is the cookie's; outside of ASCII the
comparison raises a `TypeError`. -/
structure CallbackRequest.names (request : CallbackRequest) (state code : List Char) : Prop where
  hasState : queryValue request.queryString "state".toList = some state
  hasCode : queryValue request.queryString "code".toList = some code
  cookie : request.stateCookie = some state
  ascii : state.all (fun c => c.toNat < 0x80) = true

/-- What `POST /auth/logout` reads of a request. -/
structure LogoutRequest where
  origins : List Bytes
  sessionCookie : Option (List Char)

inductive SignInReply where
  | error (status : Nat) (code message : String)
  /-- the redirect to the provider, with the cookie for the state -/
  | toProvider (location state : List Char)
  /-- the redirect back, with the cookie for the session -/
  | signedIn (location : PyStr) (sessionId : List Char)
  | signedOut
  /-- the handler raises -/
  | raised

def identityUnavailable : SignInReply :=
  .error 503 "identity_provider_unavailable" "Sign-in is temporarily unavailable. Try again."

def invalidReturnTo : SignInReply :=
  .error 400 "invalid_return_to" "The sign-in destination is not available."

def invalidAuthCallback : SignInReply :=
  .error 400 "invalid_auth_callback" "Sign-in could not be completed."

def authenticationFailed : SignInReply :=
  .error 401 "authentication_failed" "Sign-in could not be completed."

def csrfFailed : SignInReply := .error 403 "csrf_failed" "This sign-out request is not allowed."

def rateLimited : SignInReply :=
  .error 429 "auth_rate_limited" "Too many authentication requests. Try again later."

/-! ### The server -/

/-- The adapter for the provider, by the results that its calls may have. -/
structure HostedIdentityAdapter where
  authorizationUrl : (state nonce codeChallenge : List Char) → (redirectUri returnTo : PyStr) →
    Except ProviderError (List Char) → Prop
  completeCallback : (code nonce codeVerifier : List Char) → (redirectUri : PyStr) →
    Except ProviderError IdentityClaims → Prop

/-- `HttpHostedIdentityAdapter`; the exchanges of two callbacks may differ in everything. -/
def httpAdapter (F Key : Type) {τ : Type} [FloatFormat F] [LinearOrder τ] [Add τ] [Sub τ]
    (config : HostedIdentityConfig) (clockSkew : τ) : HostedIdentityAdapter where
  authorizationUrl state nonce codeChallenge redirectUri _ result :=
    result = config.authorizationUrl state nonce codeChallenge redirectUri
  completeCallback code nonce codeVerifier redirectUri result :=
    ∃ exchange : Exchange F Key τ,
      result = config.completeCallback clockSkew exchange code nonce codeVerifier redirectUri

structure SignInApp (τ : Type) [LinearOrder τ] [Zero τ] where
  authRedirectUri : PyStr
  /-- the origin that a sign-out has to come from -/
  expectedOrigin : Option (List Char)
  sessions : SessionSettings τ
  /-- `AUTH_TRANSACTION_TTL_SECONDS` -/
  transactionTtl : τ
  urlsplit : String → Option SplitUrl

/-- `_same_origin` -/
def sameOrigin (expectedOrigin : Option (List Char)) (origins : List Bytes) : Bool :=
  match expectedOrigin, origins with
  | some expected, [value] => (decodeAscii value).any (fun origin => asciiText origin = expected)
  | _, _ => false

/-- The tables of the two stores. -/
structure SignInDb (τ : Type) where
  transactions : List (AuthRow τ)
  sessions : List (SessionRow τ)
  memberships : MembershipTable

/-! ### Threads -/

inductive SignInCall where
  | start (queryString : Bytes)
  | callback (request : CallbackRequest)
  | logout (request : LogoutRequest)
  /-- a request with a session cookie is authenticated -/
  | resolve (sessionId : List Char)
  /-- an operator changes a membership -/
  | manage (change : MembershipTable → Except MembershipError MembershipTable)

/-- A sign-in that has been begun. -/
structure Beginning (τ : Type) where
  queryString : Bytes
  issue : AuthIssue τ
  begunAt : τ

def Beginning.row {τ : Type} [Add τ] (beginning : Beginning τ) : AuthRow τ :=
  beginning.issue.row beginning.begunAt

/-- A callback that has taken its transaction out. -/
structure Redeemed (τ : Type) where
  request : CallbackRequest
  state : List Char
  code : List Char
  now : τ
  row : AuthRow τ

/-- A callback that has made a session. -/
structure Entry (τ : Type) where
  ticket : Redeemed τ
  identity : IdentityClaims
  membership : Membership
  sessionId : List Char
  createdAt : τ

/-- Where a request is. -/
inductive SignInThread (τ : Type) where
  | starting (queryString : Bytes)
  /-- the transaction is stored and the adapter has not been asked -/
  | asking (beginning : Beginning τ)
  | discarding (beginning : Beginning τ)
  | begun (beginning : Beginning τ) (reply : SignInReply)
  | returning (request : CallbackRequest)
  | redeemed (ticket : Redeemed τ)
  | identified (ticket : Redeemed τ) (identity : IdentityClaims)
  /-- `create_for_identity` has looked the membership up -/
  | found (ticket : Redeemed τ) (identity : IdentityClaims)
  /-- and `create` has as well -/
  | creating (ticket : Redeemed τ) (identity : IdentityClaims) (membership : Membership)
  | replacing (entry : Entry τ)
  | signedIn (entry : Entry τ) (reply : SignInReply)
  | leaving (request : LogoutRequest)
  /-- a call of the stores on its own -/
  | serving (thread : AuthThread τ)
  | ended (reply : SignInReply)

section Threads

variable {τ : Type}

def SignInCall.thread : SignInCall → SignInThread τ
  | .start queryString => .starting queryString
  | .callback request => .returning request
  | .logout request => .leaving request
  | .resolve sessionId => .serving (.resolving sessionId)
  | .manage change => .serving (.changing change)

/-- The sign-in that a thread has begun. -/
def SignInThread.beginning : SignInThread τ → Option (Beginning τ)
  | .asking beginning => some beginning
  | .discarding beginning => some beginning
  | .begun beginning _ => some beginning
  | _ => none

/-- The transaction that a thread has taken out. -/
def SignInThread.taken : SignInThread τ → Option (Redeemed τ)
  | .redeemed ticket => some ticket
  | .identified ticket _ => some ticket
  | .found ticket _ => some ticket
  | .creating ticket _ _ => some ticket
  | .replacing entry => some entry.ticket
  | .signedIn entry _ => some entry.ticket
  | _ => none

/-- The session that a thread has made. -/
def SignInThread.entry : SignInThread τ → Option (Entry τ)
  | .replacing entry => some entry
  | .signedIn entry _ => some entry
  | _ => none

/-- What the browser is answered. -/
def SignInThread.reply : SignInThread τ → Option SignInReply
  | .begun _ reply => some reply
  | .signedIn _ reply => some reply
  | .ended reply => some reply
  | _ => none

/-- Where a thread is when its call or the database raises, if it still runs. -/
def SignInThread.raise : SignInThread τ → Option (SignInThread τ)
  | .asking beginning => some (.begun beginning .raised)
  | .discarding beginning => some (.begun beginning .raised)
  | .replacing entry => some (.signedIn entry .raised)
  | .begun _ _ => none
  | .signedIn _ _ => none
  | .ended _ => none
  | .serving _ => none
  | _ => some (.ended .raised)

variable [LinearOrder τ] [Zero τ] [Add τ]

/-- The row that `create` inserts. -/
def Entry.row (entry : Entry τ) (settings : SessionSettings τ) : SessionRow τ :=
  .fresh settings (sessionHash entry.sessionId) { entry.membership.principal with
    issuer := entry.identity.issuer, subject := entry.identity.subject } entry.membership
    entry.createdAt

/-- What is known of a membership that may sign in. -/
def SignInDb.admits (F : Type) [FloatFormat F] (db : SignInDb τ) (identity : IdentityClaims)
    (membership : Membership) : Prop :=
  db.memberships.lookup F identity.issuer identity.subject = .ok (some membership) ∧
    membership.status = .active

/-- `membership is None or membership.status != "active"` -/
def SignInDb.refuses (F : Type) [FloatFormat F] (db : SignInDb τ) (identity : IdentityClaims) :
    Prop :=
  ∃ membership, db.memberships.lookup F identity.issuer identity.subject = .ok membership ∧
    membership.all (fun known => known.status ≠ .active) = true

/-- `self.session_store.revoke(old_session_id)`, where there is such a cookie. -/
def revokeCookie (sessions : List (SessionRow τ)) (cookie : Option (List Char)) (now : τ) :
    List (SessionRow τ) :=
  match cookie with
  | some sessionId =>
      if goodSessionId sessionId then revokeSession sessions (sessionHash sessionId) now
      else sessions
  | none => sessions

end Threads

section Steps

variable {τ : Type} [LinearOrder τ] [Zero τ] [Add τ]

/-- One step of one request: a call of a store, each in a transaction of its own, or a call
of the adapter.  The clock may show anything at a reading. -/
inductive SignInStep (F : Type) [FloatFormat F] (app : SignInApp τ)
    (adapter : HostedIdentityAdapter) : ThreadStep (SignInDb τ) (SignInThread τ) where
  -- /auth/start
  | startLimited {db : SignInDb τ} {queryString : Bytes} :
      SignInStep F app adapter db (.starting queryString) db (.ended rateLimited)
  | startUnready {db : SignInDb τ} {queryString : Bytes} :
      SignInStep F app adapter db (.starting queryString) db (.ended identityUnavailable)
  | startRefused {db : SignInDb τ} {queryString : Bytes}
      (invalid : (authReturnTo queryString).2 = false) :
      SignInStep F app adapter db (.starting queryString) db (.ended invalidReturnTo)
  | begin {db : SignInDb τ} {beginning : Beginning τ} {rows : List (AuthRow τ)}
      (valid : (authReturnTo beginning.queryString).2 = true)
      (returnTo : beginning.issue.returnTo = (authReturnTo beginning.queryString).1.map codePoint)
      (redirectUri : beginning.issue.redirectUri = app.authRedirectUri)
      (ttl : beginning.issue.ttlSeconds = app.transactionTtl)
      (inserted : insertAuth (deleteExpired db.transactions beginning.begunAt) beginning.row =
        some rows) :
      SignInStep F app adapter db (.starting beginning.queryString) { db with transactions := rows }
        (.asking beginning)
  | ask {db : SignInDb τ} {beginning : Beginning τ} {url : List Char}
      (made : adapter.authorizationUrl beginning.issue.state beginning.issue.nonce
        beginning.issue.codeChallenge beginning.issue.redirectUri beginning.issue.returnTo (.ok url))
      (valid : validProviderUrl app.urlsplit url = true) :
      SignInStep F app adapter db (.asking beginning) db
        (.begun beginning (.toProvider url beginning.issue.state))
  | askInvalid {db : SignInDb τ} {beginning : Beginning τ} {url : List Char}
      (made : adapter.authorizationUrl beginning.issue.state beginning.issue.nonce
        beginning.issue.codeChallenge beginning.issue.redirectUri beginning.issue.returnTo (.ok url))
      (invalid : validProviderUrl app.urlsplit url = false) :
      SignInStep F app adapter db (.asking beginning) db (.discarding beginning)
  | askFails {db : SignInDb τ} {beginning : Beginning τ} {error : ProviderError}
      (failed : adapter.authorizationUrl beginning.issue.state beginning.issue.nonce
        beginning.issue.codeChallenge beginning.issue.redirectUri beginning.issue.returnTo
          (.error error)) :
      SignInStep F app adapter db (.asking beginning) db (.discarding beginning)
  | discard {db : SignInDb τ} {beginning : Beginning τ} :
      SignInStep F app adapter db (.discarding beginning)
        { db with transactions := deleteAuth db.transactions (sessionHash beginning.issue.state) }
        (.begun beginning identityUnavailable)
  -- /auth/callback
  | callbackLimited {db : SignInDb τ} {request : CallbackRequest} :
      SignInStep F app adapter db (.returning request) db (.ended rateLimited)
  | callbackUnready {db : SignInDb τ} {request : CallbackRequest} :
      SignInStep F app adapter db (.returning request) db (.ended identityUnavailable)
  | callbackIncomplete {db : SignInDb τ} {request : CallbackRequest}
      (absent : queryValue request.queryString "state".toList = none ∨
        queryValue request.queryString "code".toList = none) :
      SignInStep F app adapter db (.returning request) db (.ended invalidAuthCallback)
  | callbackForeign {db : SignInDb τ} {request : CallbackRequest} {state : List Char}
      (asked : queryValue request.queryString "state".toList = some state)
      (differs : request.stateCookie ≠ some state) :
      SignInStep F app adapter db (.returning request) db (.ended invalidAuthCallback)
  | callbackMissed {db : SignInDb τ} {request : CallbackRequest} {state code : List Char} {now : τ}
      (names : request.names state code)
      (missed : goodSessionId state = false ∨
        selectAuth db.transactions (sessionHash state) now = none) :
      SignInStep F app adapter db (.returning request) db (.ended invalidAuthCallback)
  | redeem {db : SignInDb τ} {ticket : Redeemed τ}
      (names : ticket.request.names ticket.state ticket.code)
      (good : goodSessionId ticket.state = true)
      (found : selectAuth db.transactions (sessionHash ticket.state) ticket.now = some ticket.row)
      (one : deletedAuth db.transactions ticket.row.stateHash = 1) :
      SignInStep F app adapter db (.returning ticket.request)
        { db with transactions := deleteAuth db.transactions ticket.row.stateHash }
        (.redeemed ticket)
  | miscounted {db : SignInDb τ} {request : CallbackRequest} {state code : List Char} {now : τ}
      {row : AuthRow τ} (names : request.names state code)
      (found : selectAuth db.transactions (sessionHash state) now = some row)
      (wrong : deletedAuth db.transactions row.stateHash ≠ 1) :
      SignInStep F app adapter db (.returning request)
        { db with transactions := deleteAuth db.transactions row.stateHash }
        (.ended invalidAuthCallback)
  | identify {db : SignInDb τ} {ticket : Redeemed τ} {identity : IdentityClaims}
      (completed : adapter.completeCallback ticket.code ticket.row.nonce
        ticket.row.codeVerifier ticket.row.redirectUri (.ok identity)) :
      SignInStep F app adapter db (.redeemed ticket) db (.identified ticket identity)
  | unidentified {db : SignInDb τ} {ticket : Redeemed τ} {message : String}
      (failed : adapter.completeCallback ticket.code ticket.row.nonce
        ticket.row.codeVerifier ticket.row.redirectUri (.error (.authentication message))) :
      SignInStep F app adapter db (.redeemed ticket) db (.ended authenticationFailed)
  | providerFails {db : SignInDb τ} {ticket : Redeemed τ}
      (failed : adapter.completeCallback ticket.code ticket.row.nonce
        ticket.row.codeVerifier ticket.row.redirectUri (.error .other)) :
      SignInStep F app adapter db (.redeemed ticket) db (.ended identityUnavailable)
  | find {db : SignInDb τ} {ticket : Redeemed τ} {identity : IdentityClaims}
      {membership : Membership} (admits : db.admits F identity membership) :
      SignInStep F app adapter db (.identified ticket identity) db (.found ticket identity)
  | findNone {db : SignInDb τ} {ticket : Redeemed τ} {identity : IdentityClaims}
      (refuses : db.refuses F identity) :
      SignInStep F app adapter db (.identified ticket identity) db (.ended authenticationFailed)
  /-- A `MembershipError` is no `AuthenticationError`. -/
  | findFails {db : SignInDb τ} {ticket : Redeemed τ} {identity : IdentityClaims} :
      SignInStep F app adapter db (.identified ticket identity) db (.ended identityUnavailable)
  | findAgain {db : SignInDb τ} {ticket : Redeemed τ} {identity : IdentityClaims}
      {membership : Membership} (admits : db.admits F identity membership) :
      SignInStep F app adapter db (.found ticket identity) db
        (.creating ticket identity membership)
  | foundNoMore {db : SignInDb τ} {ticket : Redeemed τ} {identity : IdentityClaims}
      (refuses : db.refuses F identity) :
      SignInStep F app adapter db (.found ticket identity) db (.ended authenticationFailed)
  | findAgainFails {db : SignInDb τ} {ticket : Redeemed τ} {identity : IdentityClaims} :
      SignInStep F app adapter db (.found ticket identity) db (.ended identityUnavailable)
  | create {db : SignInDb τ} {entry : Entry τ} {drawn : Bytes} {sessions : List (SessionRow τ)}
      (size : drawn.length = sessionIdBytes) (named : entry.sessionId = b64url drawn)
      (inserted : insertSession db.sessions (entry.row app.sessions) = some sessions) :
      SignInStep F app adapter db (.creating entry.ticket entry.identity entry.membership)
        { db with sessions := sessions } (.replacing entry)
  | createFails {db : SignInDb τ} {ticket : Redeemed τ} {identity : IdentityClaims}
      {membership : Membership} :
      SignInStep F app adapter db (.creating ticket identity membership) db
        (.ended identityUnavailable)
  | replace {db : SignInDb τ} {entry : Entry τ} (now : τ) :
      SignInStep F app adapter db (.replacing entry)
        { db with sessions := revokeCookie db.sessions entry.ticket.request.sessionCookie now }
        (.signedIn entry (.signedIn entry.ticket.row.returnTo entry.sessionId))
  -- /auth/logout
  | logoutLimited {db : SignInDb τ} {request : LogoutRequest} :
      SignInStep F app adapter db (.leaving request) db (.ended rateLimited)
  | logoutForeign {db : SignInDb τ} {request : LogoutRequest}
      (foreign : sameOrigin app.expectedOrigin request.origins = false) :
      SignInStep F app adapter db (.leaving request) db (.ended csrfFailed)
  | logout {db : SignInDb τ} {request : LogoutRequest} (now : τ)
      (same : sameOrigin app.expectedOrigin request.origins = true) :
      SignInStep F app adapter db (.leaving request)
        { db with sessions := revokeCookie db.sessions request.sessionCookie now }
        (.ended .signedOut)
  | serve {db : SignInDb τ} {after : AuthDb τ} {thread thread' : AuthThread τ}
      (step : SessionStep F app.sessions ⟨db.sessions, db.memberships⟩ thread after thread') :
      SignInStep F app adapter db (.serving thread)
        { db with sessions := after.sessions, memberships := after.memberships } (.serving thread')
  | raise {db : SignInDb τ} {thread thread' : SignInThread τ} (raised : thread.raise = some thread') :
      SignInStep F app adapter db thread db thread'

/-- No transactions and no sessions yet, and every request at its beginning. -/
def signInStart {ι : Type} (memberships : MembershipTable) (calls : ι → SignInCall) :
    Config ι (SignInDb τ) (SignInThread τ) where
  shared := ⟨[], [], memberships⟩
  threads i := (calls i).thread

end Steps

end FolioLattice.SignIn
