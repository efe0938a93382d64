/-
Whatever the order of the requests' steps: a session comes from one sign-in that this
browser has begun, for the identity that the provider has given and a membership that is
active.
-/

import FolioLattice.Auth.TransactionRuns
import FolioLattice.SignIn.Requests

namespace FolioLattice.SignIn

open FolioLattice.Text FolioLattice.Data FolioLattice.Auth FolioLattice.Server
open FolioLattice.Concurrency

section Moves

variable {F : Type} [FloatFormat F] {τ : Type} [LinearOrder τ] [Zero τ] [Add τ]
  {app : SignInApp τ} {adapter : HostedIdentityAdapter}

/-! ### Transactions as tickets -/

/-- The tickets are the rows of `auth_transactions`. -/
def transactionView : TicketView (SignInDb τ) (SignInThread τ) (AuthRow τ) where
  held db row := row ∈ db.transactions
  issued thread := thread.beginning.map Beginning.row
  taken thread := thread.taken.map Redeemed.row

omit [LinearOrder τ] [Zero τ] [Add τ] in
theorem mem_of_mem_deleteAuth {rows : List (AuthRow τ)} {hash : PyStr} {row : AuthRow τ}
    (member : row ∈ deleteAuth rows hash) : row ∈ rows := (List.mem_filter.mp member).1

omit [LinearOrder τ] [Zero τ] [Add τ] in
theorem not_mem_deleteAuth (rows : List (AuthRow τ)) (row : AuthRow τ) :
    row ∉ deleteAuth rows row.stateHash := fun member =>
  of_decide_eq_true (List.mem_filter.mp member).2 rfl

omit [Zero τ] [Add τ] in
theorem selectAuth_some {rows : List (AuthRow τ)} {hash : PyStr} {now : τ} {row : AuthRow τ}
    (found : selectAuth rows hash now = some row) :
    row ∈ rows ∧ row.stateHash = hash ∧ now < row.expiresAt := by
  have fits := List.find?_some found
  rw [Bool.and_eq_true, decide_eq_true_eq, decide_eq_true_eq] at fits
  exact ⟨List.mem_of_find?_eq_some found, fits⟩

omit [LinearOrder τ] [Zero τ] [Add τ] in
/-- A thread that raises forgets no sign-in that it has begun. -/
theorem raise_keeps {thread thread' : SignInThread τ} (raised : thread.raise = some thread') :
    thread'.beginning = thread.beginning ∧
      (thread'.taken = none ∨ thread'.taken = thread.taken) ∧
      thread'.entry = thread.entry := by
  cases thread <;> first
    | (cases raised; exact ⟨rfl, Or.inl rfl, rfl⟩)
    | (cases raised; exact ⟨rfl, Or.inr rfl, rfl⟩)
    | cases raised

theorem SignInStep.move {db db' : SignInDb τ} {thread thread' : SignInThread τ}
    (step : SignInStep F app adapter db thread db' thread') :
    TicketMove transactionView db thread db' thread' := by
  cases step with
  | @begin _ beginning rows valid returnTo redirectUri ttl inserted =>
      refine .issue beginning.row ?_ rfl rfl rfl
      intro row member
      change row ∈ rows at member
      rw [(insertAuth_some inserted).1] at member
      rcases List.mem_append.mp member with old | last
      · exact Or.inl (List.mem_filter.mp old).1
      · exact Or.inr (List.mem_singleton.mp last)
  | @redeem _ ticket names good found one =>
      exact .take ticket.row (selectAuth_some found).1 (not_mem_deleteAuth _ _)
        (fun _ member => mem_of_mem_deleteAuth member) rfl rfl
  | discard => exact .kept (fun _ member => mem_of_mem_deleteAuth member) rfl (Or.inl rfl)
  | miscounted names found wrong =>
      exact .kept (fun _ member => mem_of_mem_deleteAuth member) rfl (Or.inl rfl)
  | raise raised =>
      obtain ⟨issuer, taker, _⟩ := raise_keeps raised
      refine .kept (fun _ member => member) (congrArg (Option.map Beginning.row) issuer) ?_
      rcases taker with none | same
      · exact Or.inl (congrArg (Option.map Redeemed.row) none)
      · exact Or.inr (congrArg (Option.map Redeemed.row) same)
  | identify _ => exact .kept (fun _ member => member) rfl (Or.inr rfl)
  | find _ => exact .kept (fun _ member => member) rfl (Or.inr rfl)
  | findAgain _ => exact .kept (fun _ member => member) rfl (Or.inr rfl)
  | create _ _ _ => exact .kept (fun _ member => member) rfl (Or.inr rfl)
  | replace _ => exact .kept (fun _ member => member) rfl (Or.inr rfl)
  | _ => exact .kept (fun _ member => member) rfl (Or.inl rfl)

/-! ### What a request knows -/

/-- A sign-in as `begin_auth` has stored it. -/
structure Beginning.Valid (app : SignInApp τ) (beginning : Beginning τ) : Prop where
  accepted : (authReturnTo beginning.queryString).2 = true
  returnTo : beginning.issue.returnTo = (authReturnTo beginning.queryString).1.map codePoint
  redirectUri : beginning.issue.redirectUri = app.authRedirectUri
  ttl : beginning.issue.ttlSeconds = app.transactionTtl

/-- A transaction as `consume_auth` has taken it out. -/
structure Redeemed.Valid (ticket : Redeemed τ) : Prop where
  names : ticket.request.names ticket.state ticket.code
  hash : ticket.row.stateHash = sessionHash ticket.state
  inTime : ticket.now < ticket.row.expiresAt

/-- The adapter has given the identity for the transaction. -/
def Redeemed.Identifies (adapter : HostedIdentityAdapter) (ticket : Redeemed τ)
    (identity : IdentityClaims) : Prop :=
  ticket.Valid ∧ adapter.completeCallback ticket.code ticket.row.nonce ticket.row.codeVerifier
    ticket.row.redirectUri (.ok identity)

/-- What a reply says is of the sign-in that it answers. -/
def Beginning.Answers (app : SignInApp τ) (adapter : HostedIdentityAdapter)
    (beginning : Beginning τ) : SignInReply → Prop
  | .toProvider location state => state = beginning.issue.state ∧
      validProviderUrl app.urlsplit location = true ∧
      adapter.authorizationUrl beginning.issue.state beginning.issue.nonce
        beginning.issue.codeChallenge beginning.issue.redirectUri beginning.issue.returnTo
        (.ok location)
  | .signedIn _ _ => False
  | _ => True

def Entry.Answers (entry : Entry τ) : SignInReply → Prop
  | .signedIn location sessionId =>
      location = entry.ticket.row.returnTo ∧ sessionId = entry.sessionId
  | .toProvider _ _ => False
  | _ => True

/-- A reply that lets nobody in. -/
def SignInReply.turnsAway : SignInReply → Bool
  | .signedIn _ _ => false
  | .toProvider _ _ => false
  | _ => true

/-- A call of the session store that makes a session. -/
def makesSession : AuthThread τ → Bool
  | .creating _ => true
  | .inserting _ _ => true
  | _ => false

/-- What every state of a request says of the steps before it. -/
def Sound (app : SignInApp τ) (adapter : HostedIdentityAdapter) : SignInThread τ → Prop
  | .asking beginning => beginning.Valid app
  | .discarding beginning => beginning.Valid app
  | .begun beginning reply => beginning.Valid app ∧ beginning.Answers app adapter reply
  | .redeemed ticket => ticket.Valid
  | .identified ticket identity => ticket.Identifies adapter identity
  | .found ticket identity => ticket.Identifies adapter identity
  | .creating ticket identity _ => ticket.Identifies adapter identity
  | .replacing entry => entry.ticket.Identifies adapter entry.identity
  | .signedIn entry reply => entry.ticket.Identifies adapter entry.identity ∧ entry.Answers reply
  | .serving thread => makesSession thread = false
  | .ended reply => reply.turnsAway = true
  | _ => True

omit [Add τ] in
theorem raise_sound {thread thread' : SignInThread τ} (sound : Sound app adapter thread)
    (raised : thread.raise = some thread') : Sound app adapter thread' := by
  cases thread with
  | asking beginning => cases raised; exact ⟨sound, trivial⟩
  | discarding beginning => cases raised; exact ⟨sound, trivial⟩
  | replacing entry => cases raised; exact ⟨sound, trivial⟩
  | begun _ _ => cases raised
  | signedIn _ _ => cases raised
  | serving _ => cases raised
  | ended _ => cases raised
  | _ => cases raised; exact rfl

theorem serving_sound {settings : SessionSettings τ} {db db' : AuthDb τ}
    {thread thread' : AuthThread τ} (sound : makesSession thread = false)
    (step : SessionStep F settings db thread db' thread') : makesSession thread' = false := by
  cases step with
  | createLookup found active => cases sound
  | _ => rfl

theorem SignInStep.sound {db db' : SignInDb τ} {thread thread' : SignInThread τ}
    (sound : Sound app adapter thread) (step : SignInStep F app adapter db thread db' thread') :
    Sound app adapter thread' := by
  cases step with
  | begin valid returnTo redirectUri ttl inserted => exact ⟨valid, returnTo, redirectUri, ttl⟩
  | ask made valid => exact ⟨sound, rfl, valid, made⟩
  | askInvalid _ _ => exact sound
  | askFails _ => exact sound
  | discard => exact ⟨sound, trivial⟩
  | redeem names good found one =>
      obtain ⟨_, hash, inTime⟩ := selectAuth_some found
      exact ⟨names, hash, inTime⟩
  | identify completed => exact ⟨sound, completed⟩
  | find _ => exact sound
  | findAgain _ => exact sound
  | create _ _ _ => exact sound
  | replace now => exact ⟨sound, rfl, rfl⟩
  | serve step => exact serving_sound sound step
  | raise raised => exact raise_sound sound raised
  | _ => exact rfl

variable {ι : Type} [DecidableEq ι] {memberships : MembershipTable} {calls : ι → SignInCall}
  {events : List (Event ι (SignInDb τ))} {config : Config ι (SignInDb τ) (SignInThread τ)}

/-- In every state of a run, every request's state is sound. -/
theorem sign_ins_sound
    (run : Run (SignInStep F app adapter) (signInStart memberships calls) events config) (i : ι) :
    Sound app adapter (config.threads i) := by
  refine run.own (fun _ _ _ _ _ _ => trivial) (fun _ _ _ _ _ sound step => step.sound sound)
    trivial ?_
  change Sound app adapter (calls i).thread
  cases calls i with
  | resolve sessionId => exact rfl
  | manage change => exact rfl
  | _ => exact trivial

/-! ### The membership that signs in -/

/-- The membership was in the table, and active, when a step was taken. -/
def Admitted (F : Type) [FloatFormat F] (own : List (Event ι (SignInDb τ)))
    (identity : IdentityClaims) (membership : Membership) : Prop :=
  ∃ event ∈ own, event.before.admits F identity membership

/-- What a request's steps say of the membership that it goes on with. -/
def Admits (F : Type) [FloatFormat F] (own : List (Event ι (SignInDb τ))) :
    SignInThread τ → Prop
  | .creating _ identity membership => Admitted F own identity membership
  | .replacing entry => Admitted F own entry.identity entry.membership
  | .signedIn entry _ => Admitted F own entry.identity entry.membership
  | _ => True

omit [DecidableEq ι] [LinearOrder τ] [Zero τ] [Add τ] in
theorem Admitted.more {own : List (Event ι (SignInDb τ))} {identity : IdentityClaims}
    {membership : Membership} (admitted : Admitted F own identity membership)
    (event : Event ι (SignInDb τ)) : Admitted F (own ++ [event]) identity membership := by
  obtain ⟨earlier, member, admits⟩ := admitted
  exact ⟨earlier, List.mem_append_left _ member, admits⟩

omit [DecidableEq ι] in
theorem SignInStep.admits {db db' : SignInDb τ} {thread thread' : SignInThread τ} {i : ι}
    {own : List (Event ι (SignInDb τ))} (known : Admits F own thread)
    (step : SignInStep F app adapter db thread db' thread') :
    Admits F (own ++ [⟨i, db, db'⟩]) thread' := by
  cases step with
  | findAgain admits =>
      exact ⟨⟨i, db, db⟩, List.mem_append_right _ (List.mem_singleton.mpr rfl), admits⟩
  | create _ _ _ => exact Admitted.more known _
  | replace _ => exact Admitted.more known _
  | raise raised =>
      cases thread with
      | replacing entry =>
          cases raised
          exact Admitted.more known _
      | _ => cases raised <;> exact trivial
  | _ => exact trivial

theorem entries_grounded
    (run : Run (SignInStep F app adapter) (signInStart memberships calls) events config) (i : ι) :
    Admits F (events.filter (fun e => e.thread = i)) (config.threads i) := by
  refine Run.history (P := fun _ => True) (L := fun _ _ => True) (H := Admits F)
    (fun _ => ⟨trivial, fun _ => trivial⟩)
    (fun _ _ _ _ _ _ _ _ known step => step.admits known) run ?_ i
  intro j
  change Admits F [] (calls j).thread
  cases calls j <;> exact trivial

/-! ### Where the sessions come from -/

omit [LinearOrder τ] [Zero τ] [Add τ] in
theorem revokeCookie_origin {sessions : List (SessionRow τ)} {cookie : Option (List Char)} {now : τ}
    {row' : SessionRow τ} (member : row' ∈ revokeCookie sessions cookie now) :
    ∃ row ∈ sessions, SameSession row row' := by
  unfold revokeCookie at member
  split at member
  · split at member
    · have columns : ∀ row : SessionRow τ,
          SameSession row { row with revokedAt := row.revokedAt <|> some now } :=
        fun _ => ⟨rfl, rfl, rfl, rfl, rfl, rfl, rfl, rfl⟩
      exact updateSession_origin columns member
    · exact ⟨row', member, .refl row'⟩
  · exact ⟨row', member, .refl row'⟩

/-- A row was there before the step, or the step made its session. -/
theorem SignInStep.enters {db db' : SignInDb τ} {thread thread' : SignInThread τ}
    (step : SignInStep F app adapter db thread db' thread') (sound : Sound app adapter thread)
    {row' : SessionRow τ} (member : row' ∈ db'.sessions) :
    (∃ row ∈ db.sessions, SameSession row row') ∨
      ∃ entry, thread'.entry = some entry ∧ row' = entry.row app.sessions := by
  cases step with
  | @create _ entry drawn sessions size named inserted =>
      change row' ∈ sessions at member
      rw [(insertSession_some inserted).1] at member
      rcases List.mem_append.mp member with old | last
      · exact Or.inl ⟨row', old, .refl row'⟩
      · exact Or.inr ⟨entry, rfl, List.mem_singleton.mp last⟩
  | replace now => exact Or.inl (revokeCookie_origin member)
  | logout now same => exact Or.inl (revokeCookie_origin member)
  | serve step =>
      rcases step.origin member with old | ⟨_, _, _, _, makes, _⟩
      · exact Or.inl old
      · rw [makes] at sound
        cases sound
  | _ => exact Or.inl ⟨row', member, .refl row'⟩

theorem SignInStep.entry {db db' : SignInDb τ} {thread thread' : SignInThread τ} {entry : Entry τ}
    (step : SignInStep F app adapter db thread db' thread') (made : thread.entry = some entry) :
    thread'.entry = some entry := by
  cases step with
  | replace now => exact made
  | raise raised => exact (raise_keeps raised).2.2.trans made
  | _ => cases made

/-- Every session was made by a request that still tells of it. -/
theorem sessions_entered
    (run : Run (SignInStep F app adapter) (signInStart memberships calls) events config)
    {row : SessionRow τ} (member : row ∈ config.shared.sessions) :
    ∃ i entry, (config.threads i).entry = some entry ∧ SameSession (entry.row app.sessions) row := by
  have known := run.knowing (K := fun _ thread => Sound app adapter thread)
    (fun run i => sign_ins_sound run i)
  refine Run.provenance
    (H := fun (db : SignInDb τ) row => ∃ known ∈ db.sessions, SameSession known row)
    (S := fun (thread : SignInThread τ) row => ∃ entry, thread.entry = some entry ∧
      SameSession (entry.row app.sessions) row) ?_ ?_ known ?_ ⟨row, member, .refl row⟩
  · intro db thread db' thread' row step source
    obtain ⟨entry, made, same⟩ := source
    exact ⟨entry, step.1.entry made, same⟩
  · intro db thread db' thread' row step held
    obtain ⟨row', inside, same⟩ := held
    rcases step.1.enters step.2 inside with ⟨earlier, there, before⟩ | ⟨entry, made, isRow⟩
    · exact Or.inl ⟨earlier, there, before.trans same⟩
    · rw [isRow] at same
      exact Or.inr ⟨entry, made, same⟩
  · intro row held
    obtain ⟨_, inside, _⟩ := held
    cases inside

theorem revokeCookie_cases (settings : SessionSettings τ) (sessions : List (SessionRow τ))
    (memberships : MembershipTable) (cookie : Option (List Char)) (now : τ) :
    SessionsStep settings sessions (revokeCookie sessions cookie now) := by
  unfold revokeCookie
  cases cookie with
  | none => exact .kept rfl
  | some sessionId =>
      dsimp only
      split
      · rename_i good
        have step : SessionStep Empty settings ⟨sessions, memberships⟩ (.revoking sessionId)
            ⟨revokeSession sessions (sessionHash sessionId) now, memberships⟩ _ := .revoke now good
        exact step.sessions
      · exact .kept rfl

/-- What a request's step does to the sessions. -/
theorem SignInStep.sessions {db db' : SignInDb τ} {thread thread' : SignInThread τ}
    (step : SignInStep F app adapter db thread db' thread') :
    SessionsStep app.sessions db.sessions db'.sessions := by
  cases step with
  | create size named inserted =>
      obtain ⟨same, free⟩ := insertSession_some inserted
      exact .inserted _ same free rfl
  | replace now => exact revokeCookie_cases _ _ db.memberships _ _
  | logout now same => exact revokeCookie_cases _ _ db.memberships _ _
  | serve step => exact step.sessions
  | _ => exact .kept rfl

/-- No two sessions have one hash. -/
theorem SessionsStep.nodup {settings : SessionSettings τ} {sessions sessions' : List (SessionRow τ)}
    (step : SessionsStep settings sessions sessions')
    (distinct : (sessions.map SessionRow.sessionHash).Nodup) :
    (sessions'.map SessionRow.sessionHash).Nodup := by
  cases step with
  | kept same => rwa [same]
  | inserted row same free _ =>
      rw [same, List.map_append, List.map_singleton]
      refine List.nodup_append.mpr ⟨distinct, List.nodup_singleton _, ?_⟩
      intro hash inside other last clash
      obtain ⟨known, member, isHash⟩ := List.mem_map.mp inside
      rw [List.mem_singleton.mp last] at clash
      exact free known member (isHash.trans clash)
  | updated hash change same columns _ =>
      have hashes : sessions'.map SessionRow.sessionHash = sessions.map SessionRow.sessionHash := by
        rw [same]
        unfold updateSession
        rw [List.map_map]
        refine List.map_congr_left (fun row _ => ?_)
        rw [Function.comp_apply]
        split
        · exact (columns row).sessionHash
        · rfl
      rw [hashes]
      exact distinct

theorem sessions_distinct
    (run : Run (SignInStep F app adapter) (signInStart memberships calls) events config) :
    (config.shared.sessions.map SessionRow.sessionHash).Nodup :=
  run.shared (P := fun db => (db.sessions.map SessionRow.sessionHash).Nodup)
    (fun _ _ _ _ distinct step => SessionsStep.nodup step.sessions distinct) List.nodup_nil

/-! ### One sign-in, one session -/

/-- How a session comes about: a callback with the cookie of a sign-in that was begun, in
time, for an identity that the provider has given for that sign-in, and a membership that
was active at a step of the callback. -/
structure Genuine (F : Type) [FloatFormat F] (app : SignInApp τ) (adapter : HostedIdentityAdapter)
    (own : List (Event ι (SignInDb τ))) (beginning : Beginning τ) (entry : Entry τ) : Prop where
  begun : beginning.Valid app
  names : entry.ticket.request.names entry.ticket.state entry.ticket.code
  sameState : sessionHash entry.ticket.state = sessionHash beginning.issue.state
  inTime : entry.ticket.now < beginning.begunAt + app.transactionTtl
  identified : adapter.completeCallback entry.ticket.code beginning.issue.nonce
    beginning.issue.codeVerifier app.authRedirectUri (.ok entry.identity)
  admitted : Admitted F own entry.identity entry.membership

omit [Add τ] in
theorem entry_sound {thread : SignInThread τ} {entry : Entry τ} (sound : Sound app adapter thread)
    (made : thread.entry = some entry) : entry.ticket.Identifies adapter entry.identity ∧
      thread.taken = some entry.ticket := by
  cases thread with
  | replacing other =>
      cases made
      exact ⟨sound, rfl⟩
  | signedIn other reply =>
      cases made
      exact ⟨sound.1, rfl⟩
  | _ => cases made

omit [DecidableEq ι] [LinearOrder τ] [Zero τ] [Add τ] in
theorem entry_admitted {thread : SignInThread τ} {entry : Entry τ}
    {own : List (Event ι (SignInDb τ))} (known : Admits F own thread)
    (made : thread.entry = some entry) : Admitted F own entry.identity entry.membership := by
  cases thread with
  | replacing other =>
      cases made
      exact known
  | signedIn other reply =>
      cases made
      exact known
  | _ => cases made

omit [Add τ] in
theorem beginning_valid {thread : SignInThread τ} {beginning : Beginning τ}
    (sound : Sound app adapter thread) (begun : thread.beginning = some beginning) :
    beginning.Valid app := by
  cases thread with
  | asking other =>
      cases begun
      exact sound
  | discarding other =>
      cases begun
      exact sound
  | begun other reply =>
      cases begun
      exact sound.1
  | _ => cases begun

/-- The requests that made a session are assigned to the sign-ins that they end. -/
theorem entries_genuine
    (run : Run (SignInStep F app adapter) (signInStart memberships calls) events config) :
    ∃ origin : ι → ι,
      (∀ i entry, (config.threads i).entry = some entry →
        ∃ beginning, (config.threads (origin i)).beginning = some beginning ∧
          entry.ticket.row = beginning.row ∧
          Genuine F app adapter (events.filter (fun e => e.thread = i)) beginning entry) ∧
      ∀ i j, (config.threads i).entry.isSome = true → (config.threads j).entry.isSome = true →
        origin i = origin j → i = j := by
  have untaken : ∀ i, (transactionView (τ := τ)).taken ((signInStart memberships calls).threads i) =
      none := by
    intro i
    change ((calls i).thread.taken).map Redeemed.row = none
    cases calls i <;> rfl
  obtain ⟨origin, issued, once⟩ := run.tickets (fun _ _ _ _ step => step.move)
    (fun row => List.not_mem_nil) untaken
  have isTaken : ∀ i entry, (config.threads i).entry = some entry →
      transactionView.taken (config.threads i) = some entry.ticket.row := by
    intro i entry made
    change (config.threads i).taken.map Redeemed.row = _
    rw [(entry_sound (sign_ins_sound run i) made).2]
    rfl
  refine ⟨origin, ?_, ?_⟩
  · intro i entry made
    obtain ⟨⟨valid, identified⟩, _⟩ := entry_sound (sign_ins_sound run i) made
    obtain ⟨beginning, begun, isRow⟩ := Option.map_eq_some_iff.mp (issued i _ (isTaken i entry made))
    have begunValid := beginning_valid (sign_ins_sound run (origin i)) begun
    have hash := valid.hash
    have inTime := valid.inTime
    rw [← isRow] at hash inTime identified
    change adapter.completeCallback _ beginning.issue.nonce beginning.issue.codeVerifier
      beginning.issue.redirectUri _ at identified
    change _ < beginning.begunAt + beginning.issue.ttlSeconds at inTime
    rw [begunValid.redirectUri] at identified
    rw [begunValid.ttl] at inTime
    exact ⟨beginning, begun, isRow.symm, {
      begun := begunValid
      names := valid.names
      sameState := hash.symm
      inTime := inTime
      identified := identified
      admitted := entry_admitted (entries_grounded run i) made }⟩
  · intro i j first second same
    obtain ⟨entry, made⟩ := Option.isSome_iff_exists.mp first
    obtain ⟨other, also⟩ := Option.isSome_iff_exists.mp second
    refine once i j ?_ ?_ same
    · rw [isTaken i entry made]
      rfl
    · rw [isTaken j other also]
      rfl

/-- The session of a row was made by a request, for the sign-in of another one. -/
def MadeBy (F : Type) [FloatFormat F] (app : SignInApp τ) (adapter : HostedIdentityAdapter)
    (events : List (Event ι (SignInDb τ))) (threads : ι → SignInThread τ) (row : SessionRow τ)
    (maker origin : ι) : Prop :=
  ∃ entry beginning, (threads maker).entry = some entry ∧ SameSession (entry.row app.sessions) row ∧
    (threads origin).beginning = some beginning ∧
    Genuine F app adapter (events.filter (fun e => e.thread = maker)) beginning entry

/-- Every session was made by a callback, each for a sign-in of its own that was begun
before and is carried through as it was begun. -/
theorem session_from_one_sign_in
    (run : Run (SignInStep F app adapter) (signInStart memberships calls) events config) :
    ∃ origin : ι → ι,
      (∀ row ∈ config.shared.sessions, ∃ i,
        MadeBy F app adapter events config.threads row i (origin i)) ∧
      ∀ row ∈ config.shared.sessions, ∀ other ∈ config.shared.sessions, ∀ i j,
        MadeBy F app adapter events config.threads row i (origin i) →
        MadeBy F app adapter events config.threads other j (origin j) →
        origin i = origin j → row = other := by
  obtain ⟨origin, genuine, once⟩ := entries_genuine run
  refine ⟨origin, ?_, ?_⟩
  · intro row member
    obtain ⟨i, entry, made, same⟩ := sessions_entered run member
    obtain ⟨beginning, begun, _, carried⟩ := genuine i entry made
    exact ⟨i, entry, beginning, made, same, begun, carried⟩
  · intro row member other also i j first second together
    obtain ⟨entry, _, made, same, _⟩ := first
    obtain ⟨entry', _, made', same', _⟩ := second
    have one : i = j := by
      refine once i j ?_ ?_ together
      · rw [made]
        rfl
      · rw [made']
        rfl
    -- one callback makes one session, and the hash is the primary key
    subst one
    rw [made] at made'
    cases made'
    exact List.inj_on_of_nodup_map (sessions_distinct run) member also
      (same.sessionHash.trans same'.sessionHash.symm)

end Moves

/-! ### One sign-in, carried through -/

def exampleDraws : AuthDraws where
  state := List.replicate 32 0
  nonce := List.replicate 32 1
  codeVerifier := List.replicate 32 2
  state_size := zeroDraws.state_size
  nonce_size := List.length_replicate
  codeVerifier_size := List.length_replicate

def exampleApp : SignInApp ℕ where
  authRedirectUri := pyStr "https://lattice.example/auth/callback"
  expectedOrigin := some "https://lattice.example".toList
  sessions := daySettings
  transactionTtl := 600
  urlsplit _ := none

/-- `GET /auth/start?return_to=/workspace/art_1`, at second 5. -/
def exampleBeginning : Beginning ℕ where
  queryString := encodeUtf8 "return_to=/workspace/art_1".toList
  issue := ⟨exampleDraws, pyStr "/workspace/art_1", exampleApp.authRedirectUri, 600⟩
  begunAt := 5

def exampleRequest : CallbackRequest where
  queryString := encodeUtf8 ("state=".toList ++ zeroSession ++ "&code=once".toList)
  stateCookie := some zeroSession
  sessionCookie := none

def exampleTicket : Redeemed ℕ where
  request := exampleRequest
  state := zeroSession
  code := "once".toList
  now := 9
  row := exampleBeginning.row

def aliceEntry : Entry ℕ where
  ticket := exampleTicket
  identity := ⟨alice.issuer, alice.subject⟩
  membership := alice
  sessionId := b64url (List.replicate 32 3)
  createdAt := 9

def aliceLeaves : LogoutRequest where
  origins := [encodeUtf8 "https://lattice.example".toList]
  sessionCookie := some aliceEntry.sessionId

def signInCalls : Fin 3 → SignInCall
  | 0 => .start exampleBeginning.queryString
  | 1 => .callback exampleRequest
  | 2 => .logout aliceLeaves

theorem exampleRequest_names : exampleRequest.names zeroSession "once".toList where
  hasState := by decide +kernel
  hasCode := by decide +kernel
  cookie := rfl
  ascii := by decide

theorem exampleBeginning_returnTo : authReturnTo exampleBeginning.queryString =
    ("/workspace/art_1".toList, true) := by
  decide

/-- The rows that one transaction leaves. -/
theorem exampleTicket_selected :
    selectAuth [exampleBeginning.row] (sessionHash zeroSession) 9 = some exampleBeginning.row :=
  List.find?_cons_of_pos (Bool.and_eq_true_iff.mpr ⟨decide_eq_true rfl, decide_eq_true (by decide)⟩)

theorem exampleTicket_one :
    deletedAuth [exampleBeginning.row] exampleBeginning.row.stateHash = 1 :=
  List.countP_cons_of_pos (decide_eq_true rfl)

/-- Alice signs in with any adapter that gives her identity for the transaction. -/
theorem alice_signs_in (adapter : HostedIdentityAdapter)
    (completes : adapter.completeCallback "once".toList exampleBeginning.issue.nonce
      exampleBeginning.issue.codeVerifier exampleApp.authRedirectUri
      (.ok ⟨alice.issuer, alice.subject⟩)) :
    ∃ events config, Run (SignInStep Empty exampleApp adapter) (signInStart [aliceRow] signInCalls)
        events config ∧
      config.shared.sessions = [aliceEntry.row daySettings] ∧
      config.threads 1 = .signedIn aliceEntry (.signedIn (pyStr "/workspace/art_1")
        (b64url (List.replicate 32 3))) ∧
      config.threads 2 = .leaving aliceLeaves := by
  have begin : SignInStep Empty exampleApp adapter ⟨[], [], [aliceRow]⟩
      (.starting exampleBeginning.queryString) ⟨[exampleBeginning.row], [], [aliceRow]⟩
      (.asking exampleBeginning) := by
    refine .begin ?_ ?_ rfl rfl rfl
    · rw [exampleBeginning_returnTo]
    · rw [exampleBeginning_returnTo]
      rfl
  have redeem : SignInStep Empty exampleApp adapter ⟨[exampleBeginning.row], [], [aliceRow]⟩
      (.returning exampleTicket.request)
      ⟨deleteAuth [exampleBeginning.row] exampleBeginning.row.stateHash, [], [aliceRow]⟩
      (.redeemed exampleTicket) :=
    .redeem exampleRequest_names zeroSession_good exampleTicket_selected exampleTicket_one
  generalize deleteAuth [exampleBeginning.row] exampleBeginning.row.stateHash = rows at redeem
  have identify : SignInStep Empty exampleApp adapter ⟨rows, [], [aliceRow]⟩
      (.redeemed exampleTicket) ⟨rows, [], [aliceRow]⟩
      (.identified exampleTicket aliceEntry.identity) := .identify completes
  have admits : (⟨rows, [], [aliceRow]⟩ : SignInDb ℕ).admits Empty aliceEntry.identity alice :=
    ⟨aliceRow_lookup, rfl⟩
  have find : SignInStep Empty exampleApp adapter ⟨rows, [], [aliceRow]⟩
      (.identified exampleTicket aliceEntry.identity) ⟨rows, [], [aliceRow]⟩
      (.found exampleTicket aliceEntry.identity) := .find admits
  have findAgain : SignInStep Empty exampleApp adapter ⟨rows, [], [aliceRow]⟩
      (.found exampleTicket aliceEntry.identity) ⟨rows, [], [aliceRow]⟩
      (.creating exampleTicket aliceEntry.identity alice) := .findAgain admits
  have create : SignInStep Empty exampleApp adapter ⟨rows, [], [aliceRow]⟩
      (.creating aliceEntry.ticket aliceEntry.identity aliceEntry.membership)
      ⟨rows, [aliceEntry.row daySettings], [aliceRow]⟩ (.replacing aliceEntry) :=
    .create List.length_replicate rfl rfl
  have replace : SignInStep Empty exampleApp adapter
      ⟨rows, [aliceEntry.row daySettings], [aliceRow]⟩ (.replacing aliceEntry)
      ⟨rows, [aliceEntry.row daySettings], [aliceRow]⟩ (.signedIn aliceEntry
        (.signedIn exampleBeginning.issue.returnTo aliceEntry.sessionId)) := .replace 9
  have idle : Run (SignInStep Empty exampleApp adapter) (signInStart [aliceRow] signInCalls) [] _ :=
    .start
  have entered := (((idle.next (i := 0) begin).next (i := 1) redeem).next (i := 1) identify).next
    (i := 1) find
  exact ⟨_, _, ((entered.next (i := 1) findAgain).next (i := 1) create).next (i := 1) replace,
    rfl, rfl, rfl⟩

/-- An adapter that knows Alice. -/
def exampleAdapter : HostedIdentityAdapter where
  authorizationUrl _ _ _ _ _ result := result = .ok "https://idp.example/authorize".toList
  completeCallback _ _ _ _ result := result = .ok ⟨alice.issuer, alice.subject⟩

theorem session_from_one_sign_in_alice :
    ∃ (events : List (Event (Fin 3) (SignInDb ℕ)))
      (config : Config (Fin 3) (SignInDb ℕ) (SignInThread ℕ)) (i j : Fin 3),
      config.shared.sessions = [aliceEntry.row daySettings] ∧
        MadeBy Empty exampleApp exampleAdapter events config.threads (aliceEntry.row daySettings) i j := by
  obtain ⟨events, config, run, sessions, _⟩ := alice_signs_in exampleAdapter rfl
  obtain ⟨origin, made, _⟩ := session_from_one_sign_in run
  obtain ⟨i, madeBy⟩ := made (aliceEntry.row daySettings)
    (by rw [sessions]; exact List.mem_singleton.mpr rfl)
  exact ⟨events, config, i, origin i, sessions, madeBy⟩

end FolioLattice.SignIn
