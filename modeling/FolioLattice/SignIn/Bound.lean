/-
What a sign-in is bound to: the token that the provider has signed for it, the page it was
begun on, and the session that it or a sign-out ends.
-/

import FolioLattice.SignIn.Origins

namespace FolioLattice.SignIn

open FolioLattice.Text FolioLattice.Data FolioLattice.Auth FolioLattice.Server
open FolioLattice.Concurrency

section Runs

variable {F : Type} [FloatFormat F] {τ : Type} [LinearOrder τ] [Zero τ] [Add τ]
  {app : SignInApp τ} {adapter : HostedIdentityAdapter} {ι : Type} [DecidableEq ι]
  {memberships : MembershipTable} {calls : ι → SignInCall}
  {events : List (Event ι (SignInDb τ))} {config : Config ι (SignInDb τ) (SignInThread τ)}

/-! ### The token -/

omit [LinearOrder τ] [Zero τ] [Add τ] in
/-- The challenge that the provider is sent is of the verifier. -/
theorem codeChallenge_eq (issue : AuthIssue τ) :
    pkceChallenge issue.codeVerifier = some issue.codeChallenge := by
  obtain ⟨bytes, encoded⟩ := encodeAscii_b64url issue.draws.codeVerifier
  have isSome : pkceChallenge issue.codeVerifier = some (b64url (sha256Bytes bytes)) := by
    unfold pkceChallenge AuthIssue.codeVerifier
    rw [encoded]
    rfl
  unfold AuthIssue.codeChallenge
  rw [isSome]
  rfl

/-- The token that signs somebody in: the token endpoint has answered it to the code of the
callback and the verifier of the sign-in, and it names the sign-in's nonce. -/
structure TokenFor (F Key : Type) [FloatFormat F] [Sub τ] (provider : HostedIdentityConfig)
    (clockSkew : τ) (issue : AuthIssue τ) (code : List Char) (identity : IdentityClaims)
    (exchange : Exchange F Key τ) (form : Bytes) (token : PyStr)
    (claims : List (PyStr × Json F)) : Prop where
  posted : parseQsl true form = provider.tokenFields code issue.codeVerifier
  answered : ∃ body fields, exchange.answer form = .body body ∧
    body.length ≤ provider.maxResponseBytes ∧ exchange.loads body = .ok (.obj fields) ∧
    lookup (pyStr "id_token") fields = some (.str token)
  vouches : Vouches provider clockSkew exchange token issue.nonce identity claims
  challenged : pkceChallenge issue.codeVerifier = some issue.codeChallenge

/-- The redirect to the provider, if the request has come to it, carries the state, the nonce
and the challenge. -/
def Carries (provider : HostedIdentityConfig) (beginning : Beginning τ) (thread : SignInThread τ) :
    Prop :=
  ∀ location state, thread = .begun beginning (.toProvider location state) →
    ∃ query, location = provider.authorizationEndpoint ++ '?' :: asciiText query ∧
      parseQsl true query = provider.authorizationFields beginning.issue.state
        beginning.issue.nonce beginning.issue.codeChallenge

/-- With the adapter for HTTP, every session is of the subject that a signed token names, and
the token is the answer to the verifier, for the nonce, of one sign-in: that whose state the
callback had in its cookie, and whose nonce and challenge the redirect to the provider had. -/
theorem session_bound_to_token {Key : Type} [Sub τ] {provider : HostedIdentityConfig} {clockSkew : τ}
    (run : Run (SignInStep F app (httpAdapter F Key provider clockSkew))
      (signInStart memberships calls) events config) :
    ∀ row ∈ config.shared.sessions, ∃ maker origin entry beginning,
      (config.threads maker).entry = some entry ∧
      (config.threads origin).beginning = some beginning ∧
      entry.ticket.request.stateCookie = some entry.ticket.state ∧
      sessionHash entry.ticket.state = sessionHash beginning.issue.state ∧
      Carries provider beginning (config.threads origin) ∧
      row.issuer = provider.issuer ∧
      ∃ (exchange : Exchange F Key τ) (form : Bytes) (token : PyStr)
        (claims : List (PyStr × Json F)),
        TokenFor F Key provider clockSkew beginning.issue entry.ticket.code
          ⟨row.issuer, row.subject⟩ exchange form token claims := by
  intro row member
  obtain ⟨origin, genuine, _⟩ := entries_genuine run
  obtain ⟨i, entry, made, same⟩ := sessions_entered run member
  obtain ⟨beginning, begun, _, carried⟩ := genuine i entry made
  obtain ⟨exchange, completed⟩ := carried.identified
  obtain ⟨_, body, fields, token, claims, answered, short, loaded, found, _, vouches⟩ :=
    completeCallback_iff.mp completed.symm
  have isIdentity : (⟨row.issuer, row.subject⟩ : IdentityClaims) = entry.identity := by
    rw [same.issuer, same.subject]
    rfl
  have carries : Carries provider beginning (config.threads (origin i)) := by
    intro location state isBegun
    have sound := sign_ins_sound run (origin i)
    rw [isBegun] at sound
    obtain ⟨_, _, url⟩ := sound.2
    obtain ⟨query, whole, _, reads⟩ := authorizationUrl_ok url.symm
    exact ⟨query, whole, reads⟩
  refine ⟨i, origin i, entry, beginning, made, begun, carried.names.cookie, carried.sameState,
    carries, ?_, exchange,
    urlencode (provider.tokenFields entry.ticket.code beginning.issue.codeVerifier), token, claims,
    ?_⟩
  · rw [same.issuer]
    exact vouches.issuer
  · rw [isIdentity]
    exact {
      posted := parseQsl_urlencode true _ (Or.inl rfl)
      answered := ⟨body, fields, answered, short, loaded, found⟩
      vouches := vouches
      challenged := codeChallenge_eq beginning.issue }

end Runs

/-! ### A token for Alice -/

def exampleProvider : HostedIdentityConfig where
  issuer := alice.issuer
  authorizationEndpoint := "https://idp.example/authorize".toList
  clientId := "lattice".toList
  redirectUri := "https://lattice.example/auth/callback".toList
  maxResponseBytes := 100

def exampleResponse : List (PyStr × Json Empty) := [(pyStr "id_token", .str (pyStr "t"))]

def exampleClaims : List (PyStr × Json Empty) :=
  [(pyStr "iss", .str alice.issuer), (pyStr "aud", .str (pyStr "lattice")),
    (pyStr "azp", .str (pyStr "lattice")),
    (pyStr "nonce", .str (exampleBeginning.issue.nonce.map codePoint)),
    (pyStr "sub", .str alice.subject), (pyStr "exp", .int 60), (pyStr "iat", .int 9)]

/-- The token endpoint answers with the token `t`, in second 9. -/
def exampleExchange : Exchange Empty Unit ℕ where
  answer _ := .body (encodeUtf8 (Json.obj exampleResponse).print)
  overflows _ := false
  surrogates _ := none
  unverifiedHeader _ := .ok [(pyStr "alg", .str oidcAlgorithm), (pyStr "kid", .str (pyStr "k"))]
  key _ := .ok ()
  decode _ _ := .ok (.obj exampleClaims)
  now := 9
  ofInt value := some value.toNat
  ofFloat value := value.elim

theorem exampleExchange_loads :
    exampleExchange.loads (encodeUtf8 (Json.obj exampleResponse).print) =
      .ok (.obj exampleResponse) := by
  have decoded : decodeDetected (encodeUtf8 (Json.obj exampleResponse).print) =
      some ((Json.obj exampleResponse).print.map codePoint) := by decide +kernel
  have chars : charsOf ((Json.obj exampleResponse).print.map codePoint) =
      some (Json.obj exampleResponse).print := by decide +kernel
  have loaded : Data.loads (Json.obj exampleResponse).print = .ok (.obj exampleResponse) :=
    loads_print rfl
  exact Exchange.loads_text decoded rfl chars loaded

theorem exampleExchange_vouches : Vouches exampleProvider 0 exampleExchange (pyStr "t")
    exampleBeginning.issue.nonce ⟨alice.issuer, alice.subject⟩ exampleClaims where
  signed := ⟨_, pyStr "k", (), rfl, rfl, ⟨rfl, by decide⟩, rfl, rfl⟩
  byIssuer := rfl
  forUs := by decide
  toUs := rfl
  ofSignIn := rfl
  ascii := by decide
  subject := rfl
  named := by decide
  issuer := rfl
  inTime := by decide

theorem exampleExchange_completes :
    exampleProvider.completeCallback 0 exampleExchange "once".toList exampleBeginning.issue.nonce
      exampleBeginning.issue.codeVerifier exampleApp.authRedirectUri =
        .ok ⟨alice.issuer, alice.subject⟩ :=
  completeCallback_iff.mpr ⟨rfl, _, exampleResponse, pyStr "t", exampleClaims, rfl, by decide +kernel,
    exampleExchange_loads, rfl, ⟨by decide, by decide⟩, exampleExchange_vouches⟩

theorem session_bound_to_token_alice :
    ∃ (config : Config (Fin 3) (SignInDb ℕ) (SignInThread ℕ)) (beginning : Beginning ℕ)
      (exchange : Exchange Empty Unit ℕ) (form : Bytes) (token : PyStr)
      (claims : List (PyStr × Json Empty)) (code : List Char),
      config.shared.sessions = [aliceEntry.row daySettings] ∧
        TokenFor Empty Unit exampleProvider 0 beginning.issue code ⟨alice.issuer, alice.subject⟩
          exchange form token claims := by
  obtain ⟨events, config, run, sessions, _⟩ :=
    alice_signs_in (httpAdapter Empty Unit exampleProvider 0)
      ⟨exampleExchange, exampleExchange_completes.symm⟩
  obtain ⟨_, _, entry, beginning, _, _, _, _, _, _, exchange, form, token, claims, bound⟩ :=
    session_bound_to_token run (aliceEntry.row daySettings)
      (by rw [sessions]; exact List.mem_singleton.mpr rfl)
  exact ⟨config, beginning, exchange, form, token, claims, entry.ticket.code, sessions, bound⟩

/-! ### Redirects and cookies -/

section Replies

variable {F : Type} [FloatFormat F] {τ : Type} [LinearOrder τ] [Zero τ] [Add τ]
  {app : SignInApp τ} {adapter : HostedIdentityAdapter} {ι : Type} [DecidableEq ι]
  {memberships : MembershipTable} {calls : ι → SignInCall}
  {events : List (Event ι (SignInDb τ))} {config : Config ι (SignInDb τ) (SignInThread τ)}

/-- Sessions are kept, so that whoever has made one finds it. -/
theorem entries_stored
    (run : Run (SignInStep F app adapter) (signInStart memberships calls) events config) (i : ι)
    {entry : Entry τ} (made : (config.threads i).entry = some entry) :
    ∃ row ∈ config.shared.sessions, SameSession (entry.row app.sessions) row := by
  have stored := Run.thread (P := fun _ => True)
    (G := fun db db' : SignInDb τ =>
      ∀ row ∈ db.sessions, ∃ row' ∈ db'.sessions, SameSession row row')
    (L := fun db thread => ∀ entry, thread.entry = some entry →
      ∃ row ∈ db.sessions, SameSession (entry.row app.sessions) row)
    (fun _ _ _ _ _ _ => trivial) ?_ ?_ run trivial ?_
  · exact stored i entry made
  · intro db thread db' thread' _ known step
    have persists : ∀ row ∈ db.sessions, ∃ row' ∈ db'.sessions, SameSession row row' :=
      fun row member => step.sessions.persists member
    refine ⟨persists, ?_⟩
    intro entry made
    have earlier : thread.entry = some entry → ∃ row ∈ db'.sessions,
        SameSession (entry.row app.sessions) row := by
      intro before
      obtain ⟨row, member, same⟩ := known entry before
      obtain ⟨row', member', same'⟩ := persists row member
      exact ⟨row', member', same.trans same'⟩
    cases step with
    | create size named inserted =>
        cases made
        refine ⟨_, ?_, .refl _⟩
        rw [(insertSession_some inserted).1]
        exact List.mem_append_right _ (List.mem_singleton.mpr rfl)
    | replace now => exact earlier made
    | raise raised => exact earlier ((raise_keeps raised).2.2.symm.trans made)
    | _ => cases made
  · intro db db' thread _ persists known entry made
    obtain ⟨row, member, same⟩ := known entry made
    obtain ⟨row', member', same'⟩ := persists row member
    exact ⟨row', member', same.trans same'⟩
  · intro j entry made
    change (calls j).thread.entry = some entry at made
    cases begins : calls j <;> rw [begins] at made <;> cases made

/-- What is answered to a browser: a redirect back goes to the page that its sign-in was begun
on, which is on this origin, with the cookie of a session that is stored; a redirect to the
provider goes to a URL that was checked, with the cookie of the sign-in's own state; and no
other answer of these requests is a redirect or has such a cookie. -/
theorem replies_stay_on_origin
    (run : Run (SignInStep F app adapter) (signInStart memberships calls) events config) :
    (∀ i location sessionId, (config.threads i).reply = some (.signedIn location sessionId) →
      ∃ j beginning path, (config.threads j).beginning = some beginning ∧
        authReturnTo beginning.queryString = (path, true) ∧ location = path.map codePoint ∧
        staysOnOrigin path = true ∧
        ∃ row ∈ config.shared.sessions, row.sessionHash = sessionHash sessionId) ∧
    ∀ i location state, (config.threads i).reply = some (.toProvider location state) →
      ∃ beginning, (config.threads i).beginning = some beginning ∧
        state = beginning.issue.state ∧ validProviderUrl app.urlsplit location = true := by
  constructor
  · intro i location sessionId replied
    have sound := sign_ins_sound run i
    cases state : config.threads i with
    | signedIn entry reply =>
        rw [state] at replied sound
        cases replied
        obtain ⟨back, isId⟩ := sound.2
        have made : (config.threads i).entry = some entry := by
          rw [state]
          rfl
        obtain ⟨origin, genuine, _⟩ := entries_genuine run
        obtain ⟨beginning, begun, isRow, carried⟩ := genuine i entry made
        obtain ⟨row, member, same⟩ := entries_stored run i made
        refine ⟨origin i, beginning, (authReturnTo beginning.queryString).1, begun, ?_, ?_,
          authReturnTo_staysOnOrigin _, row, member, ?_⟩
        · rw [← carried.begun.accepted]
        · rw [back, isRow, ← carried.begun.returnTo]
          rfl
        · rw [same.sessionHash, isId]
          rfl
    | begun beginning reply =>
        rw [state] at replied sound
        cases replied
        exact sound.2.elim
    | ended reply =>
        rw [state] at replied sound
        cases replied
        cases sound
    | _ =>
        rw [state] at replied
        cases replied
  · intro i location name replied
    have sound := sign_ins_sound run i
    cases state : config.threads i with
    | begun beginning reply =>
        rw [state] at replied sound
        cases replied
        exact ⟨beginning, rfl, sound.2.1, sound.2.2.1⟩
    | signedIn entry reply =>
        rw [state] at replied sound
        cases replied
        exact sound.2.elim
    | ended reply =>
        rw [state] at replied sound
        cases replied
        cases sound
    | _ =>
        rw [state] at replied
        cases replied

theorem replies_stay_on_origin_alice :
    ∃ (config : Config (Fin 3) (SignInDb ℕ) (SignInThread ℕ)) (j : Fin 3) (beginning : Beginning ℕ)
      (path : List Char), (config.threads j).beginning = some beginning ∧
      authReturnTo beginning.queryString = (path, true) ∧
      pyStr "/workspace/art_1" = path.map codePoint ∧ staysOnOrigin path = true := by
  obtain ⟨events, config, run, _, signedIn, _⟩ := alice_signs_in exampleAdapter rfl
  obtain ⟨j, beginning, path, begun, accepted, back, stays, _⟩ :=
    (replies_stay_on_origin run).1 1 (pyStr "/workspace/art_1") (b64url (List.replicate 32 3))
      (by rw [signedIn]; rfl)
  exact ⟨config, j, beginning, path, begun, accepted, back, stays⟩

end Replies

end FolioLattice.SignIn
