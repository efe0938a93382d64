/-
Browser sessions: the calls of the session store and of the membership store as
threads, one database statement a step.
-/

import FolioLattice.Auth.Memberships
import FolioLattice.Concurrency.Interleaving
import FolioLattice.Data.Base64Url

namespace FolioLattice.Auth

open FolioLattice.Text FolioLattice.Data FolioLattice.Concurrency

/-- A row of `browser_sessions`; `τ` are the times a clock shows. -/
structure SessionRow (τ : Type) where
  sessionHash : PyStr
  issuer : PyStr
  subject : PyStr
  tenantId : PyStr
  actorId : PyStr
  scopes : List Char
  createdAt : τ
  lastSeenAt : τ
  expiresAt : τ
  revokedAt : Option τ

structure SessionRecord (τ : Type) where
  sessionId : List Char
  principal : Principal
  createdAt : τ
  lastSeenAt : τ
  expiresAt : τ

/-- The tables the two stores share. -/
structure AuthDb (τ : Type) where
  sessions : List (SessionRow τ)
  memberships : MembershipTable

/-- The constructor's lifetimes. -/
structure SessionSettings (τ : Type) [LinearOrder τ] [Zero τ] where
  absoluteTtl : τ
  idleTtl : τ
  absolute_pos : 0 < absoluteTtl
  idle_pos : 0 < idleTtl

/-! ### Statements -/

/-- `_hash` -/
def sessionHash (sessionId : List Char) : PyStr :=
  (sha256Hex (encodeUtf8 sessionId)).map codePoint

/-- `isinstance(session_id, str)`, not empty and not too long. -/
def goodSessionId (sessionId : List Char) : Bool := !sessionId.isEmpty && sessionId.length ≤ 256

def sessionIdBytes : Nat := 32

section Store

variable {τ : Type}

/-- `INSERT INTO browser_sessions`, under the primary key. -/
def insertSession (sessions : List (SessionRow τ)) (row : SessionRow τ) :
    Option (List (SessionRow τ)) :=
  if sessions.any (fun known => known.sessionHash = row.sessionHash) then none
  else some (sessions ++ [row])

/-- `SELECT * FROM browser_sessions WHERE session_hash = ?`. -/
def selectSession (sessions : List (SessionRow τ)) (hash : PyStr) : Option (SessionRow τ) :=
  sessions.find? (fun row => row.sessionHash = hash)

/-- `UPDATE browser_sessions SET … WHERE session_hash = ?`. -/
def updateSession (sessions : List (SessionRow τ)) (hash : PyStr)
    (change : SessionRow τ → SessionRow τ) : List (SessionRow τ) :=
  sessions.map (fun row => if row.sessionHash = hash then change row else row)

/-- `SET revoked_at = ?` -/
def lapseSession (sessions : List (SessionRow τ)) (hash : PyStr) (now : τ) : List (SessionRow τ) :=
  updateSession sessions hash (fun row => { row with revokedAt := some now })

/-- `SET last_seen_at = ?` -/
def seeSession (sessions : List (SessionRow τ)) (hash : PyStr) (now : τ) : List (SessionRow τ) :=
  updateSession sessions hash (fun row => { row with lastSeenAt := now })

/-- `SET revoked_at = COALESCE(revoked_at, ?) WHERE … AND revoked_at IS NULL`; a
revoked row keeps its time either way. -/
def revokeSession (sessions : List (SessionRow τ)) (hash : PyStr) (now : τ) : List (SessionRow τ) :=
  updateSession sessions hash (fun row => { row with revokedAt := row.revokedAt <|> some now })

/-- `result.rowcount == 1` of that update. -/
def revokesSession (sessions : List (SessionRow τ)) (hash : PyStr) : Bool :=
  sessions.any (fun row => row.sessionHash = hash && row.revokedAt.isNone)

def Membership.principal (membership : Membership) : Principal where
  tenantId := membership.tenantId
  actorId := membership.actorId
  issuer := membership.issuer
  subject := membership.subject
  scopes := membership.scopes

/-- The membership is active and the one the session was made for. -/
def SessionRow.fits (row : SessionRow τ) (membership : Membership) : Bool :=
  membership.status = .active && membership.tenantId = row.tenantId &&
    membership.actorId = row.actorId && scopesText membership.scopes = row.scopes

variable [LinearOrder τ] [Zero τ] [Add τ]

def SessionRow.fresh (settings : SessionSettings τ) (hash : PyStr) (principal : Principal)
    (membership : Membership) (now : τ) : SessionRow τ where
  sessionHash := hash
  issuer := principal.issuer
  subject := principal.subject
  tenantId := membership.tenantId
  actorId := membership.actorId
  scopes := scopesText membership.scopes
  createdAt := now
  lastSeenAt := now
  expiresAt := now + settings.absoluteTtl
  revokedAt := none

/-- Revoked, past its end or idle for too long. -/
def SessionRow.ended (settings : SessionSettings τ) (row : SessionRow τ) (now : τ) : Bool :=
  row.revokedAt.isSome || row.expiresAt ≤ now || row.lastSeenAt + settings.idleTtl ≤ now

/-! ### Calls as threads -/

inductive AuthCall where
  | create (principal : Principal)
  | resolve (sessionId : List Char)
  | revoke (sessionId : List Char)
  | add (issuer subject tenantId actorId : PyStr) (status : MembershipStatus) (scopes : List PyStr)
  | setStatus (issuer subject : PyStr) (status : MembershipStatus)
  | setScopes (issuer subject : PyStr) (scopes : List PyStr)

/-- Where a call is; times are the clock readings it has taken. -/
inductive AuthThread (τ : Type) where
  | creating (principal : Principal)
  | inserting (principal : Principal) (membership : Membership)
  | created (sessionId : List Char) (membership : Membership)
  | resolving (sessionId : List Char)
  | selecting (sessionId : List Char) (now : τ)
  | looking (sessionId : List Char) (now : τ) (row : SessionRow τ)
  | deciding (sessionId : List Char) (now : τ) (row : SessionRow τ) (membership : Option Membership)
  | resolved (sessionId : List Char) (result : Option (SessionRecord τ))
  | revoking (sessionId : List Char)
  | revoked (sessionId : List Char) (changed : Bool)
  | changing (change : MembershipTable → Except MembershipError MembershipTable)
  | changed
  | raised

/-- Whether the call has more to do. -/
def AuthThread.running : AuthThread τ → Bool
  | .created _ _ => false
  | .resolved _ _ => false
  | .revoked _ _ => false
  | .changed => false
  | .raised => false
  | _ => true

def AuthCall.begin (F : Type) [FloatFormat F] : AuthCall → AuthThread τ
  | .create principal => .creating principal
  | .resolve sessionId => .resolving sessionId
  | .revoke sessionId => .revoking sessionId
  | .add issuer subject tenantId actorId status scopes =>
      .changing (fun table => table.add F issuer subject tenantId actorId status scopes)
  | .setStatus issuer subject status => .changing (fun table => table.setStatus issuer subject status)
  | .setScopes issuer subject scopes => .changing (fun table => table.setScopes issuer subject scopes)

/-- A session's record for its holder. -/
def SessionRow.record (row : SessionRow τ) (sessionId : List Char) (now : τ)
    (membership : Membership) : SessionRecord τ where
  sessionId := sessionId
  principal := ⟨row.tenantId, row.actorId, row.issuer, row.subject, membership.scopes⟩
  createdAt := row.createdAt
  lastSeenAt := now
  expiresAt := row.expiresAt

/-- One step of one call.  The clock may show anything at a reading. -/
inductive SessionStep (F : Type) [FloatFormat F] (settings : SessionSettings τ) :
    ThreadStep (AuthDb τ) (AuthThread τ) where
  | createLookup {db : AuthDb τ} {principal : Principal} {membership : Membership}
      (found : db.memberships.lookup F principal.issuer principal.subject = .ok (some membership))
      (active : membership.status = .active) :
      SessionStep F settings db (.creating principal) db (.inserting principal membership)
  | createInsert {db : AuthDb τ} {principal : Principal} {membership : Membership} {now : τ}
      {drawn : Bytes} {sessions : List (SessionRow τ)} (size : drawn.length = sessionIdBytes)
      (inserted : insertSession db.sessions
        (.fresh settings (sessionHash (b64url drawn)) principal membership now) = some sessions) :
      SessionStep F settings db (.inserting principal membership) { db with sessions := sessions }
        (.created (b64url drawn) membership)
  | resolveRefused {db : AuthDb τ} {sessionId : List Char} (bad : goodSessionId sessionId = false) :
      SessionStep F settings db (.resolving sessionId) db (.resolved sessionId none)
  | resolveClock {db : AuthDb τ} {sessionId : List Char} (now : τ)
      (good : goodSessionId sessionId = true) :
      SessionStep F settings db (.resolving sessionId) db (.selecting sessionId now)
  | selectMissing {db : AuthDb τ} {sessionId : List Char} {now : τ}
      (missing : selectSession db.sessions (sessionHash sessionId) = none) :
      SessionStep F settings db (.selecting sessionId now) db (.resolved sessionId none)
  | selectOver {db : AuthDb τ} {sessionId : List Char} {now : τ} {row : SessionRow τ}
      (found : selectSession db.sessions (sessionHash sessionId) = some row)
      (ended : row.ended settings now = true) :
      SessionStep F settings db (.selecting sessionId now) db (.resolved sessionId none)
  | select {db : AuthDb τ} {sessionId : List Char} {now : τ} {row : SessionRow τ}
      (found : selectSession db.sessions (sessionHash sessionId) = some row)
      (lasting : row.ended settings now = false) :
      SessionStep F settings db (.selecting sessionId now) db (.looking sessionId now row)
  | look {db : AuthDb τ} {sessionId : List Char} {now : τ} {row : SessionRow τ}
      {membership : Option Membership}
      (found : db.memberships.lookup F row.issuer row.subject = .ok membership) :
      SessionStep F settings db (.looking sessionId now row) db
        (.deciding sessionId now row membership)
  | lookFailed {db : AuthDb τ} {sessionId : List Char} {now : τ} {row : SessionRow τ}
      {error : MembershipError}
      (failed : db.memberships.lookup F row.issuer row.subject = .error error) :
      SessionStep F settings db (.looking sessionId now row) db (.deciding sessionId now row none)
  | lapse {db : AuthDb τ} {sessionId : List Char} {now : τ} {row : SessionRow τ}
      {membership : Option Membership} (differs : membership.any row.fits = false) :
      SessionStep F settings db (.deciding sessionId now row membership)
        { db with sessions := lapseSession db.sessions row.sessionHash now }
        (.resolved sessionId none)
  | seen {db : AuthDb τ} {sessionId : List Char} {now : τ} {row : SessionRow τ}
      {membership : Membership} (same : row.fits membership = true) :
      SessionStep F settings db (.deciding sessionId now row (some membership))
        { db with sessions := seeSession db.sessions row.sessionHash now }
        (.resolved sessionId (some (row.record sessionId now membership)))
  | revokeRefused {db : AuthDb τ} {sessionId : List Char} (bad : goodSessionId sessionId = false) :
      SessionStep F settings db (.revoking sessionId) db (.revoked sessionId false)
  | revoke {db : AuthDb τ} {sessionId : List Char} (now : τ)
      (good : goodSessionId sessionId = true) :
      SessionStep F settings db (.revoking sessionId)
        { db with sessions := revokeSession db.sessions (sessionHash sessionId) now }
        (.revoked sessionId (revokesSession db.sessions (sessionHash sessionId)))
  | change {db : AuthDb τ} {change : MembershipTable → Except MembershipError MembershipTable}
      {memberships : MembershipTable} (done : change db.memberships = .ok memberships) :
      SessionStep F settings db (.changing change) { db with memberships := memberships } .changed
  /-- An error of the call or of the database ends a call before its statement commits. -/
  | raise {db : AuthDb τ} {thread : AuthThread τ}
      (running : thread.running = true) :
      SessionStep F settings db thread db .raised

/-- No sessions yet, and every call at its beginning. -/
def sessionsStart (F : Type) [FloatFormat F] {ι : Type} (memberships : MembershipTable)
    (calls : ι → AuthCall) : Config ι (AuthDb τ) (AuthThread τ) where
  shared := ⟨[], memberships⟩
  threads i := (calls i).begin F

end Store

end FolioLattice.Auth
