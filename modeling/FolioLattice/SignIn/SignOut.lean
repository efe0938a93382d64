/-
Whatever the order of the requests' steps: what ends a session, and that it stays ended.
-/

import FolioLattice.SignIn.Origins

namespace FolioLattice.SignIn

open FolioLattice.Text FolioLattice.Data FolioLattice.Auth FolioLattice.Server
open FolioLattice.Concurrency

section Runs

variable {F : Type} [FloatFormat F] {τ : Type} [LinearOrder τ] [Zero τ] [Add τ]
  {app : SignInApp τ} {adapter : HostedIdentityAdapter} {ι : Type} [DecidableEq ι]
  {memberships : MembershipTable} {calls : ι → SignInCall}
  {events : List (Event ι (SignInDb τ))} {config : Config ι (SignInDb τ) (SignInThread τ)}

/-! ### What a request was called with -/

/-- A store call runs for a request that names its session. -/
def ServesFor (call : SignInCall) : AuthThread τ → Prop
  | .resolving sessionId => call = .resolve sessionId
  | .selecting sessionId _ => call = .resolve sessionId
  | .looking sessionId _ _ => call = .resolve sessionId
  | .deciding sessionId _ _ _ => call = .resolve sessionId
  | .revoking _ => False
  | _ => True

/-- The request that a thread runs, as far as it matters to sessions. -/
def RunsFor (call : SignInCall) : SignInThread τ → Prop
  | .returning request => call = .callback request
  | .redeemed ticket => call = .callback ticket.request
  | .identified ticket _ => call = .callback ticket.request
  | .found ticket _ => call = .callback ticket.request
  | .creating ticket _ _ => call = .callback ticket.request
  | .replacing entry => call = .callback entry.ticket.request
  | .leaving request => call = .logout request
  | .serving thread => ServesFor call thread
  | _ => True

theorem ServesFor.step {call : SignInCall} {settings : SessionSettings τ} {db db' : AuthDb τ}
    {thread thread' : AuthThread τ} (serves : ServesFor call thread)
    (step : SessionStep F settings db thread db' thread') : ServesFor call thread' := by
  cases step <;> first
    | exact serves
    | exact trivial

theorem RunsFor.step {call : SignInCall} {db db' : SignInDb τ} {thread thread' : SignInThread τ}
    (runs : RunsFor call thread) (step : SignInStep F app adapter db thread db' thread') :
    RunsFor call thread' := by
  cases step with
  | redeem names good found one => exact runs
  | identify completed => exact runs
  | find admits => exact runs
  | findAgain admits => exact runs
  | create size named inserted => exact runs
  | serve step => exact ServesFor.step runs step
  | raise raised => cases thread <;> cases raised <;> exact trivial
  | _ => exact trivial

theorem requests_run
    (run : Run (SignInStep F app adapter) (signInStart memberships calls) events config) (i : ι) :
    RunsFor (calls i) (config.threads i) := by
  refine run.own (P := fun _ => True) (fun _ _ _ _ _ _ => trivial)
    (fun _ _ _ _ _ runs step => runs.step step) trivial ?_
  change RunsFor (calls i) (calls i).thread
  cases calls i <;> first
    | exact rfl
    | exact trivial

/-! ### What a lookup of a session knows -/

/-- The row that a call has read, of the session that it names. -/
def HasRead (db : SignInDb τ) : SignInThread τ → Prop
  | .serving (.looking sessionId _ row) =>
      row.sessionHash = sessionHash sessionId ∧ ∃ stored ∈ db.sessions, SameSession row stored
  | .serving (.deciding sessionId _ row _) =>
      row.sessionHash = sessionHash sessionId ∧ ∃ stored ∈ db.sessions, SameSession row stored
  | _ => True

/-- The membership that a call has found, at one of its steps. -/
def HasFound (F : Type) [FloatFormat F] (own : List (Event ι (SignInDb τ))) :
    SignInThread τ → Prop
  | .serving (.deciding _ _ row membership) => ∃ event ∈ own, ∀ known,
      event.before.memberships.lookup F row.issuer row.subject = .ok (some known) →
        membership = some known
  | _ => True

omit [LinearOrder τ] [Zero τ] [Add τ] in
theorem HasRead.kept {db db' : SignInDb τ} {thread : SignInThread τ} (known : HasRead db thread)
    (persists : ∀ row ∈ db.sessions, ∃ row' ∈ db'.sessions, SameSession row row') :
    HasRead db' thread := by
  cases thread with
  | serving thread =>
      cases thread with
      | looking sessionId now row =>
          obtain ⟨hash, stored, member, same⟩ := known
          obtain ⟨stored', member', same'⟩ := persists stored member
          exact ⟨hash, stored', member', same.trans same'⟩
      | deciding sessionId now row membership =>
          obtain ⟨hash, stored, member, same⟩ := known
          obtain ⟨stored', member', same'⟩ := persists stored member
          exact ⟨hash, stored', member', same.trans same'⟩
      | _ => exact trivial
  | _ => exact trivial

theorem HasRead.step {db db' : SignInDb τ} {thread thread' : SignInThread τ}
    (known : HasRead db thread) (step : SignInStep F app adapter db thread db' thread') :
    HasRead db' thread' := by
  cases step with
  | serve step =>
      cases step with
      | select found lasting =>
          obtain ⟨member, hash⟩ := selectSession_some found
          exact ⟨hash, _, member, .refl _⟩
      | look found => exact known
      | lookFailed failed => exact known
      | _ => exact trivial
  | raise raised => cases thread <;> cases raised <;> exact trivial
  | _ => exact trivial

omit [DecidableEq ι] in
theorem HasFound.step {db db' : SignInDb τ} {thread thread' : SignInThread τ} {i : ι}
    {own : List (Event ι (SignInDb τ))}
    (step : SignInStep F app adapter db thread db' thread') :
    HasFound F (own ++ [⟨i, db, db'⟩]) thread' := by
  have here : (⟨i, db, db'⟩ : Event ι (SignInDb τ)) ∈ own ++ [⟨i, db, db'⟩] :=
    List.mem_append_right _ (List.mem_singleton.mpr rfl)
  cases step with
  | serve step =>
      cases step with
      | look found =>
          refine ⟨_, here, fun known isKnown => ?_⟩
          exact Except.ok.inj (found.symm.trans isKnown)
      | lookFailed failed =>
          refine ⟨_, here, fun known isKnown => ?_⟩
          cases failed.symm.trans isKnown
      | _ => exact trivial
  | raise raised => cases thread <;> cases raised <;> exact trivial
  | _ => exact trivial

theorem lookups_read
    (run : Run (SignInStep F app adapter) (signInStart memberships calls) events config) (i : ι) :
    HasRead config.shared (config.threads i) ∧
      HasFound F (events.filter (fun e => e.thread = i)) (config.threads i) := by
  constructor
  · refine Run.thread (P := fun _ => True)
      (G := fun db db' : SignInDb τ =>
        ∀ row ∈ db.sessions, ∃ row' ∈ db'.sessions, SameSession row row')
      (L := HasRead) (fun _ _ _ _ _ _ => trivial) ?_ ?_ run trivial ?_ i
    · intro db thread db' thread' _ known step
      exact ⟨fun row member => step.sessions.persists member, known.step step⟩
    · exact fun _ _ _ _ persists known => known.kept persists
    · intro j
      change HasRead _ (calls j).thread
      cases calls j <;> exact trivial
  · refine Run.history (P := fun _ => True) (L := fun _ _ => True) (H := HasFound F)
      (fun _ => ⟨trivial, fun _ => trivial⟩)
      (fun _ _ _ _ _ _ _ _ _ step => HasFound.step step) run ?_ i
    intro j
    change HasFound F [] (calls j).thread
    cases calls j <;> exact trivial

/-! ### What ends a session -/

/-- Who has ended a session: a sign-out from this origin with its cookie, a sign-in that
replaces it in its browser, or a lookup of it that did not find its membership as it was. -/
inductive Ended (F : Type) [FloatFormat F] (app : SignInApp τ) (calls : ι → SignInCall)
    (events : List (Event ι (SignInDb τ))) (threads : ι → SignInThread τ) (row : SessionRow τ) :
    Prop where
  | signedOut (i : ι) (request : LogoutRequest) (called : calls i = .logout request)
      (same : sameOrigin app.expectedOrigin request.origins = true)
      (cookie : request.sessionCookie.map sessionHash = some row.sessionHash)
  | replaced (i : ι) (request : CallbackRequest) (called : calls i = .callback request)
      (entered : (threads i).entry.isSome = true)
      (cookie : request.sessionCookie.map sessionHash = some row.sessionHash)
  | lapsed (i : ι) (sessionId : List Char) (called : calls i = .resolve sessionId)
      (named : sessionHash sessionId = row.sessionHash) (event : Event ι (SignInDb τ))
      (member : event ∈ events)
      (differs : ∀ known,
        event.before.memberships.lookup F row.issuer row.subject = .ok (some known) →
          row.fits known = false)

omit [DecidableEq ι] [Add τ] in
theorem Ended.mono {events' : List (Event ι (SignInDb τ))} {threads threads' : ι → SignInThread τ}
    {row row' : SessionRow τ} (ended : Ended F app calls events threads row)
    (more : ∀ event ∈ events, event ∈ events')
    (kept : ∀ j, (threads j).entry.isSome = true → (threads' j).entry.isSome = true)
    (same : SameSession row row') : Ended F app calls events' threads' row' := by
  cases ended with
  | signedOut j request called origin cookie =>
      exact .signedOut j request called origin (cookie.trans (congrArg some same.sessionHash.symm))
  | replaced j request called entered cookie =>
      exact .replaced j request called (kept j entered)
        (cookie.trans (congrArg some same.sessionHash.symm))
  | lapsed j sessionId called named event member differs =>
      refine .lapsed j sessionId called (named.trans same.sessionHash.symm) event
        (more event member) ?_
      intro known found
      rw [same.issuer, same.subject] at found
      have unfit := differs known found
      unfold SessionRow.fits at unfit ⊢
      rw [same.tenantId, same.actorId, same.scopes]
      exact unfit

omit [LinearOrder τ] [Zero τ] [Add τ] in
/-- Where a revocation by cookie reaches a row, the cookie names it. -/
theorem revokeCookie_reaches {sessions : List (SessionRow τ)} {cookie : Option (List Char)} {now : τ}
    {row' : SessionRow τ} (member : row' ∈ revokeCookie sessions cookie now) :
    ∃ row ∈ sessions, SameSession row row' ∧
      (row'.revokedAt = row.revokedAt ∨ cookie.map sessionHash = some row.sessionHash) := by
  unfold revokeCookie at member
  split at member
  · rename_i sessionId
    split at member
    · obtain ⟨row, inside, ⟨isHash, changed⟩ | ⟨_, same⟩⟩ := mem_updateSession member
      · refine ⟨row, inside, ?_, Or.inr (congrArg some isHash.symm)⟩
        rw [changed]
        exact ⟨rfl, rfl, rfl, rfl, rfl, rfl, rfl, rfl⟩
      · exact ⟨row, inside, same ▸ .refl row, Or.inl (congrArg SessionRow.revokedAt same)⟩
    · exact ⟨row', member, .refl row', Or.inl rfl⟩
  · exact ⟨row', member, .refl row', Or.inl rfl⟩

/-- The step of a request that revokes a session. -/
inductive RevokesBy (app : SignInApp τ) (thread thread' : SignInThread τ) (row : SessionRow τ) :
    Prop where
  | logout (request : LogoutRequest) (leaving : thread = .leaving request)
      (same : sameOrigin app.expectedOrigin request.origins = true)
      (cookie : request.sessionCookie.map sessionHash = some row.sessionHash)
  | replace (entry : Entry τ) (replacing : thread = .replacing entry)
      (made : thread'.entry = some entry)
      (cookie : entry.ticket.request.sessionCookie.map sessionHash = some row.sessionHash)
  | lapse (sessionId : List Char) (now : τ) (read : SessionRow τ) (membership : Option Membership)
      (deciding : thread = .serving (.deciding sessionId now read membership))
      (differs : membership.any read.fits = false) (named : row.sessionHash = read.sessionHash)

/-- A revoked session was revoked before the step, or the step revokes it. -/
theorem SignInStep.revoked {db db' : SignInDb τ} {thread thread' : SignInThread τ}
    {call : SignInCall} (step : SignInStep F app adapter db thread db' thread')
    (runs : RunsFor call thread) {row' : SessionRow τ} (member : row' ∈ db'.sessions)
    (revoked : row'.revokedAt.isSome = true) :
    ∃ row ∈ db.sessions, SameSession row row' ∧
      (row.revokedAt.isSome = true ∨ RevokesBy app thread thread' row) := by
  have made : ∀ {sessions sessions' : List (SessionRow τ)} {row : SessionRow τ},
      insertSession sessions row = some sessions' → row.revokedAt = none → row' ∈ sessions' →
        row' ∈ sessions := by
    intro sessions sessions' row inserted unrevoked inside
    rw [(insertSession_some inserted).1] at inside
    rcases List.mem_append.mp inside with old | last
    · exact old
    · rw [List.mem_singleton.mp last, unrevoked] at revoked
      cases revoked
  cases step with
  | create size named inserted =>
      exact ⟨row', made inserted rfl member, .refl row', Or.inl revoked⟩
  | @replace _ entry now =>
      obtain ⟨row, inside, same, kept | cookie⟩ := revokeCookie_reaches member
      · exact ⟨row, inside, same, Or.inl (kept ▸ revoked)⟩
      · exact ⟨row, inside, same, Or.inr (.replace entry rfl rfl cookie)⟩
  | @logout _ request now origin =>
      obtain ⟨row, inside, same, kept | cookie⟩ := revokeCookie_reaches member
      · exact ⟨row, inside, same, Or.inl (kept ▸ revoked)⟩
      · exact ⟨row, inside, same, Or.inr (.logout request rfl origin cookie)⟩
  | serve step =>
      cases step with
      | createInsert size inserted =>
          exact ⟨row', made inserted rfl member, .refl row', Or.inl revoked⟩
      | @lapse _ sessionId now read membership differs =>
          obtain ⟨row, inside, ⟨isHash, changed⟩ | ⟨_, same⟩⟩ := mem_updateSession member
          · refine ⟨row, inside, ?_, Or.inr (.lapse sessionId now read membership rfl differs isHash)⟩
            rw [changed]
            exact ⟨rfl, rfl, rfl, rfl, rfl, rfl, rfl, rfl⟩
          · exact ⟨row, inside, same ▸ .refl row, Or.inl (same ▸ revoked)⟩
      | seen fits =>
          obtain ⟨row, inside, ⟨_, changed⟩ | ⟨_, same⟩⟩ := mem_updateSession member
          · rw [changed] at revoked ⊢
            exact ⟨row, inside, ⟨rfl, rfl, rfl, rfl, rfl, rfl, rfl, rfl⟩, Or.inl revoked⟩
          · exact ⟨row, inside, same ▸ .refl row, Or.inl (same ▸ revoked)⟩
      | revoke now good => exact runs.elim
      | _ => exact ⟨row', member, .refl row', Or.inl revoked⟩
  | _ => exact ⟨row', member, .refl row', Or.inl revoked⟩

/-- Two rows with one hash are one row. -/
theorem session_of_hash
    (run : Run (SignInStep F app adapter) (signInStart memberships calls) events config)
    {row other : SessionRow τ} (member : row ∈ config.shared.sessions)
    (also : other ∈ config.shared.sessions) (same : row.sessionHash = other.sessionHash) :
    row = other := List.inj_on_of_nodup_map (sessions_distinct run) member also same

theorem RevokesBy.ended
    (run : Run (SignInStep F app adapter) (signInStart memberships calls) events config)
    {i : ι} {thread : SignInThread τ} {row : SessionRow τ}
    (revokes : RevokesBy app (config.threads i) thread row) (member : row ∈ config.shared.sessions) :
    Ended F app calls events (Function.update config.threads i thread) row := by
  have runs := requests_run run i
  cases revokes with
  | logout request leaving same cookie =>
      rw [leaving] at runs
      exact .signedOut i request runs same cookie
  | replace entry replacing made cookie =>
      rw [replacing] at runs
      refine .replaced i entry.ticket.request runs ?_ cookie
      rw [Function.update_self, made]
      rfl
  | lapse sessionId now read membership deciding differs named =>
      obtain ⟨hasRead, hasFound⟩ := lookups_read run i
      rw [deciding] at runs hasRead hasFound
      obtain ⟨hash, stored, inside, same⟩ := hasRead
      obtain ⟨event, own, told⟩ := hasFound
      -- the row that was read and the row that is revoked are of one session
      have one : stored = row :=
        session_of_hash run inside member (same.sessionHash.trans named.symm)
      subst one
      refine .lapsed i sessionId runs (hash.symm.trans named.symm) event
        (List.mem_filter.mp own).1 ?_
      intro known found
      rw [same.issuer, same.subject] at found
      have isKnown := told known found
      rw [isKnown, Option.any_some] at differs
      unfold SessionRow.fits at differs ⊢
      rw [same.tenantId, same.actorId, same.scopes]
      exact differs

/-- The session is there, and revoked. -/
def SignInDb.gone (db : SignInDb τ) (sessionId : List Char) : Prop :=
  Gone sessionId ⟨db.sessions, db.memberships⟩

end Runs

end FolioLattice.SignIn
