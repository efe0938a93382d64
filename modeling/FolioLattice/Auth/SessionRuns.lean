/-
Whatever the order of the calls' steps: sessions stay revoked, end in time and
carry the membership they were made for.
-/

import FolioLattice.Auth.Sessions

namespace FolioLattice.Auth

open FolioLattice.Text FolioLattice.Data FolioLattice.Concurrency

/-! ### Rows under the statements -/

section Rows

variable {τ : Type}

theorem mem_updateSession {sessions : List (SessionRow τ)} {hash : PyStr}
    {change : SessionRow τ → SessionRow τ} {row : SessionRow τ}
    (member : row ∈ updateSession sessions hash change) :
    ∃ old ∈ sessions, (old.sessionHash = hash ∧ row = change old) ∨
      (old.sessionHash ≠ hash ∧ row = old) := by
  obtain ⟨old, inside, same⟩ := List.mem_map.mp member
  refine ⟨old, inside, ?_⟩
  by_cases target : old.sessionHash = hash
  · rw [if_pos target] at same
    exact Or.inl ⟨target, same.symm⟩
  · rw [if_neg target] at same
    exact Or.inr ⟨target, same.symm⟩

theorem insertSession_some {sessions sessions' : List (SessionRow τ)} {row : SessionRow τ}
    (inserted : insertSession sessions row = some sessions') :
    sessions' = sessions ++ [row] ∧ ∀ known ∈ sessions, known.sessionHash ≠ row.sessionHash := by
  unfold insertSession at inserted
  split at inserted
  · cases inserted
  · rename_i free
    cases inserted
    refine ⟨rfl, ?_⟩
    intro known member same
    exact free (List.any_eq_true.mpr ⟨known, member, decide_eq_true same⟩)

theorem selectSession_some {sessions : List (SessionRow τ)} {hash : PyStr} {row : SessionRow τ}
    (found : selectSession sessions hash = some row) : row ∈ sessions ∧ row.sessionHash = hash := by
  have isHash := List.find?_some found
  exact ⟨List.mem_of_find?_eq_some found, of_decide_eq_true isHash⟩

/-- The columns of a session that no statement changes. -/
structure SameSession (old new : SessionRow τ) : Prop where
  sessionHash : new.sessionHash = old.sessionHash
  issuer : new.issuer = old.issuer
  subject : new.subject = old.subject
  tenantId : new.tenantId = old.tenantId
  actorId : new.actorId = old.actorId
  scopes : new.scopes = old.scopes
  createdAt : new.createdAt = old.createdAt
  expiresAt : new.expiresAt = old.expiresAt

theorem SameSession.refl (row : SessionRow τ) : SameSession row row :=
  ⟨rfl, rfl, rfl, rfl, rfl, rfl, rfl, rfl⟩

theorem SameSession.trans {first second third : SessionRow τ} (one : SameSession first second)
    (two : SameSession second third) : SameSession first third where
  sessionHash := two.sessionHash.trans one.sessionHash
  issuer := two.issuer.trans one.issuer
  subject := two.subject.trans one.subject
  tenantId := two.tenantId.trans one.tenantId
  actorId := two.actorId.trans one.actorId
  scopes := two.scopes.trans one.scopes
  createdAt := two.createdAt.trans one.createdAt
  expiresAt := two.expiresAt.trans one.expiresAt

theorem updateSession_origin {sessions : List (SessionRow τ)} {hash : PyStr}
    {change : SessionRow τ → SessionRow τ} (columns : ∀ row, SameSession row (change row))
    {row' : SessionRow τ} (member : row' ∈ updateSession sessions hash change) :
    ∃ row ∈ sessions, SameSession row row' := by
  obtain ⟨old, inside, ⟨_, isNew⟩ | ⟨_, isOld⟩⟩ := mem_updateSession member
  · rw [isNew]
    exact ⟨old, inside, columns old⟩
  · rw [isOld]
    exact ⟨old, inside, .refl old⟩

end Rows

section Runs

variable {F : Type} [FloatFormat F] {τ : Type} [LinearOrder τ] [Zero τ] [Add τ]
  {settings : SessionSettings τ}

/-- What a step does to the sessions: nothing, one row more, or an update of the
two time columns that leaves no revoked row unrevoked. -/
inductive SessionsStep (settings : SessionSettings τ) (sessions sessions' : List (SessionRow τ)) :
    Prop where
  | kept (same : sessions' = sessions)
  | inserted (row : SessionRow τ) (same : sessions' = sessions ++ [row])
      (free : ∀ known ∈ sessions, known.sessionHash ≠ row.sessionHash)
      (bounded : row.expiresAt = row.createdAt + settings.absoluteTtl)
  | updated (hash : PyStr) (change : SessionRow τ → SessionRow τ)
      (same : sessions' = updateSession sessions hash change)
      (columns : ∀ row, SameSession row (change row))
      (revoked : ∀ row, row.revokedAt.isSome = true → (change row).revokedAt.isSome = true)

theorem SessionStep.sessions {db db' : AuthDb τ} {thread thread' : AuthThread τ}
    (taken : SessionStep F settings db thread db' thread') :
    SessionsStep settings db.sessions db'.sessions := by
  cases taken with
  | createInsert size inserted =>
      obtain ⟨same, free⟩ := insertSession_some inserted
      exact .inserted _ same free rfl
  | lapse differs =>
      exact .updated _ _ rfl (fun row => ⟨rfl, rfl, rfl, rfl, rfl, rfl, rfl, rfl⟩) (fun _ _ => rfl)
  | seen same =>
      exact .updated _ _ rfl (fun row => ⟨rfl, rfl, rfl, rfl, rfl, rfl, rfl, rfl⟩)
        (fun _ revoked => revoked)
  | revoke now good =>
      refine .updated _ _ rfl (fun row => ⟨rfl, rfl, rfl, rfl, rfl, rfl, rfl, rfl⟩) ?_
      intro row revoked
      cases known : row.revokedAt with
      | none =>
          rw [known] at revoked
          cases revoked
      | some time => rfl
  | _ => exact .kept rfl

/-- Rows stay, under their unchanging columns. -/
theorem SessionsStep.persists {sessions sessions' : List (SessionRow τ)}
    (step : SessionsStep settings sessions sessions') {row : SessionRow τ} (member : row ∈ sessions) :
    ∃ row' ∈ sessions', SameSession row row' := by
  cases step with
  | kept same => exact ⟨row, same ▸ member, .refl row⟩
  | inserted _ same _ _ => exact ⟨row, same ▸ List.mem_append_left _ member, .refl row⟩
  | updated hash change same columns _ =>
      rw [same]
      refine ⟨if row.sessionHash = hash then change row else row, List.mem_map_of_mem member, ?_⟩
      split
      · exact columns row
      · exact .refl row

/-- A row was there before the step, or the step made the session. -/
theorem SessionStep.origin {db db' : AuthDb τ} {thread thread' : AuthThread τ}
    (taken : SessionStep F settings db thread db' thread') {row' : SessionRow τ}
    (member : row' ∈ db'.sessions) :
    (∃ row ∈ db.sessions, SameSession row row') ∨
      ∃ sessionId principal membership now, thread = .inserting principal membership ∧
        thread' = .created sessionId membership ∧
        row' = .fresh settings (sessionHash sessionId) principal membership now := by
  have columns : ∀ row : SessionRow τ, ∀ time seen, SameSession row
      { row with revokedAt := time, lastSeenAt := seen } :=
    fun _ _ _ => ⟨rfl, rfl, rfl, rfl, rfl, rfl, rfl, rfl⟩
  cases taken with
  | @createInsert _ principal membership now drawn _ size inserted =>
      rw [(insertSession_some inserted).1] at member
      rcases List.mem_append.mp member with old | last
      · exact Or.inl ⟨row', old, .refl row'⟩
      · exact Or.inr ⟨b64url drawn, principal, membership, now, rfl, rfl,
          List.mem_singleton.mp last⟩
  | lapse _ => exact Or.inl (updateSession_origin (fun row => columns row _ _) member)
  | seen _ => exact Or.inl (updateSession_origin (fun row => columns row _ _) member)
  | revoke _ _ => exact Or.inl (updateSession_origin (fun row => columns row _ _) member)
  | _ => exact Or.inl ⟨row', member, .refl row'⟩

/-! ### Revoked for ever -/

/-- The session is there, and revoked. -/
def Gone (sessionId : List Char) (db : AuthDb τ) : Prop :=
  (∃ row ∈ db.sessions, row.sessionHash = sessionHash sessionId) ∧
    ∀ row ∈ db.sessions, row.sessionHash = sessionHash sessionId → row.revokedAt.isSome = true

theorem Gone.step {sessionId : List Char} {db db' : AuthDb τ} (gone : Gone sessionId db)
    (step : SessionsStep settings db.sessions db'.sessions) : Gone sessionId db' := by
  obtain ⟨⟨row, member, isHash⟩, revoked⟩ := gone
  refine ⟨?_, ?_⟩
  · obtain ⟨row', inside, same⟩ := step.persists member
    exact ⟨row', inside, same.sessionHash.trans isHash⟩
  · intro row' inside isHash'
    cases step with
    | kept same =>
        rw [same] at inside
        exact revoked row' inside isHash'
    | inserted new same free _ =>
        rw [same] at inside
        rcases List.mem_append.mp inside with old | last
        · exact revoked row' old isHash'
        · -- the insert is refused, as the session is there
          rw [List.mem_singleton.mp last] at isHash'
          exact absurd (isHash.trans isHash'.symm) (free row member)
    | updated hash change same columns keeps =>
        rw [same] at inside
        obtain ⟨old, oldMember, ⟨_, isNew⟩ | ⟨_, isOld⟩⟩ := mem_updateSession inside
        · rw [isNew] at isHash' ⊢
          exact keeps old (revoked old oldMember ((columns old).sessionHash.symm.trans isHash'))
        · rw [isOld] at isHash' ⊢
          exact revoked old oldMember isHash'

/-- A resolve of the session that has not read its row, or returned `None`. -/
def Refused (sessionId : List Char) : AuthThread τ → Prop
  | .resolving id => id = sessionId
  | .selecting id _ => id = sessionId
  | .resolved _ result => result = none
  | .raised => True
  | _ => False

theorem Refused.step {sessionId : List Char} {db db' : AuthDb τ} {thread thread' : AuthThread τ}
    (gone : Gone sessionId db) (refused : Refused sessionId thread)
    (taken : SessionStep F settings db thread db' thread') : Refused sessionId thread' := by
  cases taken with
  | resolveRefused _ => exact rfl
  | resolveClock now _ => exact refused
  | selectMissing _ => exact rfl
  | selectOver _ _ => exact rfl
  | @select _ _ _ row found lasting =>
      cases refused
      obtain ⟨member, isHash⟩ := selectSession_some found
      have revoked := gone.2 row member isHash
      unfold SessionRow.ended at lasting
      rw [revoked] at lasting
      cases lasting
  | raise _ => exact trivial
  | _ => exact refused.elim

/-! ### What rows, records and calls rest on -/

variable {ι : Type} [DecidableEq ι]

/-- The session was made under this id for this membership. -/
structure Captured (settings : SessionSettings τ) (row : SessionRow τ) (sessionId : List Char)
    (membership : Membership) : Prop where
  sessionHash : row.sessionHash = sessionHash sessionId
  issuer : membership.issuer = row.issuer
  subject : membership.subject = row.subject
  tenantId : membership.tenantId = row.tenantId
  actorId : membership.actorId = row.actorId
  scopes : scopesText membership.scopes = row.scopes
  valid : membership.scopes.Valid
  expiresAt : row.expiresAt = row.createdAt + settings.absoluteTtl

theorem Captured.same {row row' : SessionRow τ} {sessionId : List Char} {membership : Membership}
    (captured : Captured settings row sessionId membership) (same : SameSession row row') :
    Captured settings row' sessionId membership where
  sessionHash := same.sessionHash.trans captured.sessionHash
  issuer := captured.issuer.trans same.issuer.symm
  subject := captured.subject.trans same.subject.symm
  tenantId := captured.tenantId.trans same.tenantId.symm
  actorId := captured.actorId.trans same.actorId.symm
  scopes := captured.scopes.trans same.scopes.symm
  valid := captured.valid
  expiresAt := by rw [same.expiresAt, same.createdAt, captured.expiresAt]

/-- One of the calls made the session. -/
def Known (settings : SessionSettings τ) (threads : ι → AuthThread τ) (row : SessionRow τ) : Prop :=
  ∃ k sessionId membership, threads k = .created sessionId membership ∧
    Captured settings row sessionId membership

/-- What a call has read holds of rows that are known. -/
def Grounded (known : SessionRow τ → Prop) : AuthThread τ → Prop
  | .inserting principal membership => membership.scopes.Valid ∧
      membership.issuer = principal.issuer ∧ membership.subject = principal.subject
  | .looking sessionId now row => known row ∧ row.sessionHash = sessionHash sessionId ∧
      ¬row.expiresAt ≤ now
  | .deciding sessionId now row membership => (known row ∧ row.sessionHash = sessionHash sessionId ∧
      ¬row.expiresAt ≤ now) ∧ ∀ m, membership = some m → m.scopes.Valid ∧ m.issuer = row.issuer ∧
        m.subject = row.subject
  | .resolved sessionId (some record) => ∃ row now membership, known row ∧
      row.sessionHash = sessionHash sessionId ∧ ¬row.expiresAt ≤ now ∧ membership.scopes.Valid ∧
        membership.issuer = row.issuer ∧ membership.subject = row.subject ∧
        row.fits membership = true ∧ record = row.record sessionId now membership
  | _ => True

omit [Zero τ] [Add τ] in
theorem Grounded.mono {known known' : SessionRow τ → Prop} (more : ∀ row, known row → known' row)
    {thread : AuthThread τ} (grounded : Grounded known thread) : Grounded known' thread := by
  unfold Grounded at grounded ⊢
  split at grounded
  · exact grounded
  · exact ⟨more _ grounded.1, grounded.2⟩
  · exact ⟨⟨more _ grounded.1.1, grounded.1.2⟩, grounded.2⟩
  · obtain ⟨row, now, membership, isKnown, rest⟩ := grounded
    exact ⟨row, now, membership, more _ isKnown, rest⟩
  · exact trivial

/-- A finished call takes no step. -/
theorem SessionStep.running {db db' : AuthDb τ} {thread thread' : AuthThread τ}
    (taken : SessionStep F settings db thread db' thread') : thread.running = true := by
  cases taken with
  | raise running => exact running
  | _ => rfl

theorem Known.step {db db' : AuthDb τ} {threads : ι → AuthThread τ} {i : ι} {thread : AuthThread τ}
    (taken : SessionStep F settings db (threads i) db' thread) {row : SessionRow τ}
    (known : Known settings threads row) : Known settings (Function.update threads i thread) row := by
  obtain ⟨k, sessionId, membership, made, captured⟩ := known
  refine ⟨k, sessionId, membership, ?_, captured⟩
  rw [Function.update_of_ne, made]
  rintro rfl
  have running := taken.running
  rw [made] at running
  cases running

omit [DecidableEq ι] in
theorem Known.same {threads : ι → AuthThread τ} {row row' : SessionRow τ}
    (known : Known settings threads row) (same : SameSession row row') :
    Known settings threads row' := by
  obtain ⟨k, sessionId, membership, made, captured⟩ := known
  exact ⟨k, sessionId, membership, made, captured.same same⟩

/-- What a call's own step leaves it with. -/
theorem Grounded.step {known : SessionRow τ → Prop} {db db' : AuthDb τ}
    {thread thread' : AuthThread τ} (rows : ∀ row ∈ db.sessions, known row)
    (grounded : Grounded known thread) (taken : SessionStep F settings db thread db' thread') :
    Grounded known thread' := by
  cases taken with
  | createLookup found active =>
      obtain ⟨_, valid, issuer, subject⟩ := MembershipTable.lookup_some found
      exact ⟨valid, issuer, subject⟩
  | @select _ _ now row found lasting =>
      obtain ⟨member, isHash⟩ := selectSession_some found
      unfold SessionRow.ended at lasting
      rw [Bool.or_eq_false_iff, Bool.or_eq_false_iff] at lasting
      exact ⟨rows row member, isHash, of_decide_eq_false lasting.1.2⟩
  | look found =>
      refine ⟨grounded, ?_⟩
      intro m same
      rw [same] at found
      obtain ⟨_, valid, issuer, subject⟩ := MembershipTable.lookup_some found
      exact ⟨valid, issuer, subject⟩
  | lookFailed failed => exact ⟨grounded, fun m impossible => by cases impossible⟩
  | @seen _ _ now row membership same =>
      obtain ⟨⟨isKnown, isHash, lasting⟩, read⟩ := grounded
      obtain ⟨valid, issuer, subject⟩ := read membership rfl
      exact ⟨row, now, membership, isKnown, isHash, lasting, valid, issuer, subject, same, rfl⟩
  | _ => exact trivial

variable {memberships : MembershipTable} {calls : ι → AuthCall} {config : Config ι (AuthDb τ) (AuthThread τ)}
  {events : List (Event ι (AuthDb τ))}

omit [DecidableEq ι] [Zero τ] [Add τ] in
theorem begin_grounded (call : AuthCall) (known : SessionRow τ → Prop) :
    Grounded known (call.begin F) := by
  cases call <;> exact trivial

/-- Every session was made by a call, and what calls have read of sessions holds. -/
theorem sessions_grounded
    (run : Run (SessionStep F settings) (sessionsStart F memberships calls) events config) :
    (∀ row ∈ config.shared.sessions, Known settings config.threads row) ∧
      ∀ i, Grounded (Known settings config.threads) (config.threads i) := by
  induction run with
  | start =>
      constructor
      · intro row member
        cases member
      · exact fun i => begin_grounded (calls i) _
  | @next events config run i db thread taken ih =>
      obtain ⟨rows, threads⟩ := ih
      have grounded := (threads i).step rows taken
      have more : ∀ row, Known settings config.threads row →
          Known settings (Function.update config.threads i thread) row :=
        fun _ known => known.step taken
      constructor
      · intro row' member
        rcases taken.origin member with ⟨row, inside, same⟩ | ⟨id, principal, membership, now, made⟩
        · exact (more row (rows row inside)).same same
        · obtain ⟨inserting, created, isRow⟩ := made
          have read := threads i
          rw [inserting] at read
          obtain ⟨valid, issuer, subject⟩ := read
          refine ⟨i, id, membership, ?_, ?_⟩
          · exact (Function.update_self i thread config.threads).trans created
          · rw [isRow]
            exact ⟨rfl, issuer, subject, rfl, rfl, rfl, valid, rfl⟩
      · intro j
        change Grounded _ (Function.update config.threads i thread j)
        by_cases same : j = i
        · subst same
          rw [Function.update_self]
          exact grounded.mono more
        · rw [Function.update_of_ne same]
          exact (threads j).mono more

/-- A finished `create` has its row, under an id that the calls accept. -/
theorem created_stored
    (run : Run (SessionStep F settings) (sessionsStart F memberships calls) events config) :
    ∀ i sessionId membership, config.threads i = .created sessionId membership →
      goodSessionId sessionId = true ∧
        ∃ row ∈ config.shared.sessions, row.sessionHash = sessionHash sessionId := by
  have stored := Run.thread (P := fun _ => True)
    (G := fun db db' : AuthDb τ => ∀ row ∈ db.sessions, ∃ row' ∈ db'.sessions, SameSession row row')
    (L := fun db thread => ∀ sessionId membership, thread = .created sessionId membership →
      goodSessionId sessionId = true ∧ ∃ row ∈ db.sessions, row.sessionHash = sessionHash sessionId)
    (fun _ _ _ _ _ _ => trivial) ?_ ?_ run trivial ?_
  · exact stored
  · intro db thread db' thread' _ _ taken
    refine ⟨fun row member => taken.sessions.persists member, ?_⟩
    intro sessionId membership made
    cases taken with
    | @createInsert _ _ _ now drawn _ size inserted =>
        cases made
        refine ⟨?_, ?_⟩
        · have short := b64url_length_le drawn
          have filled : b64url drawn ≠ [] := by
            apply b64url_ne_nil
            rintro rfl
            cases size
          rw [size] at short
          unfold goodSessionId
          unfold sessionIdBytes at short
          simp only [Bool.and_eq_true, Bool.not_eq_true', List.isEmpty_eq_false_iff, ne_eq,
            decide_eq_true_eq]
          exact ⟨filled, by omega⟩
        · rw [(insertSession_some inserted).1]
          exact ⟨_, List.mem_append_right _ (List.mem_singleton.mpr rfl), rfl⟩
    | _ => cases made
  · intro db db' thread _ persists own sessionId membership made
    obtain ⟨good, row, member, isHash⟩ := own sessionId membership made
    obtain ⟨row', inside, same⟩ := persists row member
    exact ⟨good, row', inside, same.sessionHash.trans isHash⟩
  · intro i sessionId membership impossible
    cases begun : calls i with
    | _ => 
      simp only [sessionsStart, begun, AuthCall.begin] at impossible
      cases impossible

/-! ### The membership at the time -/

/-- The membership store held the membership when one of the call's steps was taken. -/
def Witnessed (F : Type) [FloatFormat F] (own : List (Event ι (AuthDb τ))) (membership : Membership) :
    Prop :=
  ∃ e ∈ own, e.before.memberships.Holds F membership

/-- What a call has read of the memberships, it read in one of its steps. -/
def Read (F : Type) [FloatFormat F] (own : List (Event ι (AuthDb τ))) : AuthThread τ → Prop
  | .inserting _ membership => membership.status = .active ∧ Witnessed F own membership
  | .created _ membership => membership.status = .active ∧ Witnessed F own membership
  | .deciding _ _ row membership => ∀ m, membership = some m →
      m.issuer = row.issuer ∧ m.subject = row.subject ∧ Witnessed F own m
  | .resolved _ (some record) => ∃ m : Membership, m.status = .active ∧ record.principal = m.principal ∧
      Witnessed F own m
  | _ => True

omit [LinearOrder τ] [Zero τ] [Add τ] [DecidableEq ι] in
theorem Witnessed.append {own : List (Event ι (AuthDb τ))} {membership : Membership}
    (witnessed : Witnessed F own membership) (event : Event ι (AuthDb τ)) :
    Witnessed F (own ++ [event]) membership := by
  obtain ⟨e, member, holds⟩ := witnessed
  exact ⟨e, List.mem_append_left _ member, holds⟩

omit [DecidableEq ι] in
theorem Read.step {db db' : AuthDb τ} {thread thread' : AuthThread τ}
    {own : List (Event ι (AuthDb τ))} {i : ι} (read : Read F own thread)
    (taken : SessionStep F settings db thread db' thread') :
    Read F (own ++ [⟨i, db, db'⟩]) thread' := by
  have here : ∀ {issuer subject : PyStr} {membership : Membership},
      db.memberships.lookup F issuer subject = .ok (some membership) →
        Witnessed F (own ++ [⟨i, db, db'⟩]) membership := fun found =>
    ⟨⟨i, db, db'⟩, List.mem_append_right _ (List.mem_singleton.mpr rfl),
      (MembershipTable.lookup_some found).1⟩
  cases taken with
  | createLookup found active => exact ⟨active, here found⟩
  | createInsert _ _ => exact ⟨read.1, read.2.append _⟩
  | look found =>
      intro m same
      rw [same] at found
      obtain ⟨_, _, issuer, subject⟩ := MembershipTable.lookup_some found
      exact ⟨issuer, subject, here found⟩
  | lookFailed _ =>
      intro m impossible
      cases impossible
  | @seen _ _ _ row membership same =>
      obtain ⟨issuer, subject, witnessed⟩ := read membership rfl
      unfold SessionRow.fits at same
      simp only [Bool.and_eq_true, decide_eq_true_eq] at same
      obtain ⟨⟨⟨active, tenant⟩, actor⟩, _⟩ := same
      refine ⟨membership, active, ?_, witnessed.append _⟩
      simp only [SessionRow.record, Membership.principal, issuer, subject, tenant, actor]
  | _ => exact trivial

theorem sessions_read
    (run : Run (SessionStep F settings) (sessionsStart F memberships calls) events config) :
    ∀ i, Read F (events.filter (fun e => e.thread = i)) (config.threads i) := by
  refine Run.history (P := fun _ => True) (L := fun _ _ => True) (H := Read F)
    (fun _ => ⟨trivial, fun _ => trivial⟩)
    (fun _ _ _ _ _ _ _ _ read taken => read.step taken) run ?_
  intro i
  change Read F [] ((calls i).begin F)
  cases calls i <;> exact trivial

/-! ### Revocable and bounded -/

/-- The step takes the session away: a `revoke` of it, or a resolve that found its
membership gone or changed. -/
def Revokes (sessionId : List Char) : AuthThread τ → AuthThread τ → Prop
  | .revoking id, .revoked _ _ => id = sessionId
  | .deciding id _ _ _, .resolved _ none => id = sessionId
  | _, _ => False

omit [LinearOrder τ] [Zero τ] [Add τ] in
theorem gone_of_update {db : AuthDb τ} {sessionId : List Char} {hash : PyStr}
    {change : SessionRow τ → SessionRow τ}
    (stored : ∃ row ∈ db.sessions, row.sessionHash = sessionHash sessionId)
    (isHash : hash = sessionHash sessionId) (columns : ∀ row, (change row).sessionHash = row.sessionHash)
    (revoked : ∀ row, (change row).revokedAt.isSome = true) :
    Gone sessionId { db with sessions := updateSession db.sessions hash change } := by
  obtain ⟨row, member, same⟩ := stored
  constructor
  · refine ⟨_, List.mem_map_of_mem member, ?_⟩
    rw [if_pos (same.trans isHash.symm), columns, same]
  · intro row' inside same'
    obtain ⟨old, _, ⟨_, isNew⟩ | ⟨other, isOld⟩⟩ := mem_updateSession inside
    · rw [isNew]
      exact revoked old
    · rw [isOld, ← isHash] at same'
      exact absurd same' other

theorem SessionStep.revokes {db db' : AuthDb τ} {thread thread' : AuthThread τ}
    {sessionId : List Char} (taken : SessionStep F settings db thread db' thread')
    (revokes : Revokes sessionId thread thread') (good : goodSessionId sessionId = true)
    (stored : ∃ row ∈ db.sessions, row.sessionHash = sessionHash sessionId)
    {known : SessionRow τ → Prop} (grounded : Grounded known thread) : Gone sessionId db' := by
  cases taken with
  | revokeRefused bad =>
      cases revokes
      rw [good] at bad
      cases bad
  | revoke now _ =>
      cases revokes
      refine gone_of_update stored rfl (fun _ => rfl) ?_
      intro row
      cases row.revokedAt <;> rfl
  | lapse differs =>
      cases revokes
      exact gone_of_update stored grounded.1.2.1 (fun _ => rfl) (fun _ => rfl)
  | raise _ => cases thread <;> exact revokes.elim
  | _ => exact revokes.elim

/-- In every run: once a session is taken away, no resolve that starts later returns
it; a resolve returns no session at its end; and what it returns is a membership
that was active during the resolve and the one captured when the session was made. -/
theorem sessions_revocable_and_bounded
    (run : Run (SessionStep F settings) (sessionsStart F memberships calls) events config) :
    (∀ j db thread sessionId, (∃ k membership, config.threads k = .created sessionId membership) →
        SessionStep F settings config.shared (config.threads j) db thread →
        Revokes sessionId (config.threads j) thread →
        ∀ events' config',
          Run (SessionStep F settings) ⟨db, Function.update config.threads j thread⟩ events' config' →
          ∀ i result, config.threads i = .resolving sessionId →
            config'.threads i = .resolved sessionId result → result = none) ∧
      (∀ i sessionId record, config.threads i = .resolved sessionId (some record) →
        ¬record.createdAt + settings.absoluteTtl ≤ record.lastSeenAt) ∧
      ∀ i sessionId record, config.threads i = .resolved sessionId (some record) →
        (∃ e ∈ events, e.thread = i ∧ ∃ m : Membership, e.before.memberships.Holds F m ∧
          m.status = .active ∧ record.principal = m.principal) ∧
        ∃ k id captured, config.threads k = .created id captured ∧
          sessionHash id = sessionHash sessionId ∧ record.principal = captured.principal := by
  obtain ⟨_, threads⟩ := sessions_grounded run
  refine ⟨?_, ?_, ?_⟩
  · intro j db thread sessionId ⟨k, membership, made⟩ taken revokes events' config' later i result
      waiting returned
    obtain ⟨good, stored⟩ := created_stored run k sessionId membership made
    have gone := taken.revokes revokes good stored (threads j)
    have other : i ≠ j := by
      rintro rfl
      rw [waiting] at revokes
      exact revokes.elim
    have refused := Run.own (L := Refused sessionId)
      (fun _ _ _ _ gone taken => Gone.step gone taken.sessions)
      (fun _ _ _ _ gone refused taken => Refused.step gone refused taken) later gone
      (i := i) (by
        change Refused sessionId (Function.update config.threads j thread i)
        rw [Function.update_of_ne other, waiting]
        exact rfl)
    rw [returned] at refused
    exact refused
  · intro i sessionId record returned
    have grounded := threads i
    rw [returned] at grounded
    obtain ⟨row, now, membership, ⟨_, _, _, _, captured⟩, _, lasting, _, _, _, _, isRecord⟩ := grounded
    rw [isRecord]
    change ¬row.createdAt + settings.absoluteTtl ≤ now
    rw [← captured.expiresAt]
    exact lasting
  · intro i sessionId record returned
    have grounded := threads i
    have read := sessions_read run i
    rw [returned] at grounded read
    constructor
    · obtain ⟨membership, active, same, e, member, holds⟩ := read
      obtain ⟨inside, own⟩ := List.mem_filter.mp member
      exact ⟨e, inside, of_decide_eq_true own, membership, holds, active, same⟩
    · obtain ⟨row, now, membership, ⟨k, id, made, created, captured⟩, isHash, _, valid, issuer, subject,
        fits, isRecord⟩ := grounded
      refine ⟨k, id, made, created, captured.sessionHash.symm.trans isHash, ?_⟩
      unfold SessionRow.fits at fits
      simp only [Bool.and_eq_true, decide_eq_true_eq] at fits
      have scopes : membership.scopes = made.scopes :=
        scopesText_injective valid captured.valid (fits.2.trans captured.scopes.symm)
      rw [isRecord]
      simp only [SessionRow.record, Membership.principal, scopes, captured.issuer, captured.subject,
        captured.tenantId, captured.actorId]

end Runs

/-! ### One session, resolved -/

def aliceRow : MembershipRow where
  issuer := pyStr "https://idp.example"
  subject := pyStr "alice"
  tenantId := pyStr "acme"
  actorId := pyStr "alice"
  status := .active
  scopes := scopesText Scopes.empty

def alice : Membership where
  issuer := pyStr "https://idp.example"
  subject := pyStr "alice"
  tenantId := pyStr "acme"
  actorId := pyStr "alice"
  status := .active
  scopes := Scopes.empty

def zeroSession : List Char := b64url (List.replicate 32 0)

def daySettings : SessionSettings ℕ := ⟨28800, 3600, by decide, by decide⟩

def aliceCalls : Fin 3 → AuthCall
  | 0 => .create alice.principal
  | 1 => .resolve zeroSession
  | 2 => .revoke zeroSession

theorem aliceRow_lookup :
    MembershipTable.lookup Empty [aliceRow] alice.issuer alice.subject = .ok (some alice) := by
  decide

theorem zeroSession_good : goodSessionId zeroSession = true := by decide

def aliceSession : SessionRow ℕ :=
  .fresh daySettings (sessionHash zeroSession) alice.principal alice 0

theorem aliceSession_selected :
    selectSession [aliceSession] (sessionHash zeroSession) = some aliceSession :=
  List.find?_cons_of_pos (decide_eq_true rfl)

theorem aliceSession_lasting : aliceSession.ended daySettings 1 = false := by decide

theorem aliceSession_fits : aliceSession.fits alice = true := by
  unfold SessionRow.fits
  simp only [Bool.and_eq_true, decide_eq_true_eq]
  exact ⟨⟨⟨rfl, rfl⟩, rfl⟩, rfl⟩

/-- Alice's session, made and resolved a second later. -/
theorem alice_resolves :
    ∃ events config, Run (SessionStep Empty daySettings)
        (sessionsStart Empty [aliceRow] aliceCalls) events config ∧
      config.threads 1 = .resolved zeroSession (some (aliceSession.record zeroSession 1 alice)) := by
  have lookup : SessionStep Empty daySettings ⟨[], [aliceRow]⟩ (.creating alice.principal)
      ⟨[], [aliceRow]⟩ (.inserting alice.principal alice) := .createLookup aliceRow_lookup rfl
  have insert : SessionStep Empty daySettings ⟨[], [aliceRow]⟩ (.inserting alice.principal alice)
      ⟨[aliceSession], [aliceRow]⟩ (.created zeroSession alice) :=
    .createInsert (List.length_replicate) rfl
  have clock : SessionStep Empty daySettings ⟨[aliceSession], [aliceRow]⟩ (.resolving zeroSession)
      ⟨[aliceSession], [aliceRow]⟩ (.selecting zeroSession 1) := .resolveClock 1 zeroSession_good
  have select : SessionStep Empty daySettings ⟨[aliceSession], [aliceRow]⟩ (.selecting zeroSession 1)
      ⟨[aliceSession], [aliceRow]⟩ (.looking zeroSession 1 aliceSession) :=
    .select aliceSession_selected aliceSession_lasting
  have look : SessionStep Empty daySettings ⟨[aliceSession], [aliceRow]⟩
      (.looking zeroSession 1 aliceSession) ⟨[aliceSession], [aliceRow]⟩
      (.deciding zeroSession 1 aliceSession (some alice)) := .look aliceRow_lookup
  have made := ((Run.start : Run (SessionStep Empty daySettings) (sessionsStart Empty [aliceRow] aliceCalls) [] _).next
    (i := 0) lookup).next (i := 0) insert
  have read := ((made.next (i := 1) clock).next (i := 1) select).next (i := 1) look
  have seen : SessionStep Empty daySettings ⟨[aliceSession], [aliceRow]⟩
      (.deciding zeroSession 1 aliceSession (some alice))
      ⟨seeSession [aliceSession] aliceSession.sessionHash 1, [aliceRow]⟩
      (.resolved zeroSession (some (aliceSession.record zeroSession 1 alice))) :=
    .seen aliceSession_fits
  refine ⟨_, _, read.next (i := 1) seen, ?_⟩
  simp only [Function.update_self]

theorem sessions_revocable_and_bounded_alice :
    ∃ config : Config (Fin 3) (AuthDb ℕ) (AuthThread ℕ), ∃ record,
      config.threads 1 = .resolved zeroSession (some record) ∧
        ¬record.createdAt + daySettings.absoluteTtl ≤ record.lastSeenAt := by
  obtain ⟨events, config, run, resolved⟩ := alice_resolves
  exact ⟨config, _, resolved,
    (sessions_revocable_and_bounded run).2.1 1 zeroSession _ resolved⟩

end FolioLattice.Auth
