/-
Authentication transactions: the calls that begin, consume and discard them as threads,
one database statement a step, under SQLite's lock for writers.
-/

import FolioLattice.Auth.Sessions

namespace FolioLattice.Auth

open FolioLattice.Text FolioLattice.Data FolioLattice.Concurrency

/-- A row of `auth_transactions`. -/
structure AuthRow (τ : Type) where
  stateHash : PyStr
  nonce : List Char
  codeVerifier : List Char
  codeChallenge : List Char
  returnTo : PyStr
  redirectUri : PyStr
  createdAt : τ
  expiresAt : τ

structure AuthTransaction where
  state : List Char
  nonce : List Char
  codeVerifier : List Char
  codeChallenge : List Char
  returnTo : PyStr
  redirectUri : PyStr
  deriving DecidableEq

def authStateBytes : Nat := 32

/-- What `secrets.token_urlsafe` encodes for one `begin_auth`. -/
structure AuthDraws where
  state : Bytes
  nonce : Bytes
  codeVerifier : Bytes
  state_size : state.length = authStateBytes
  nonce_size : nonce.length = authStateBytes
  codeVerifier_size : codeVerifier.length = authStateBytes

/-- `code_verifier.encode("ascii")`, which raises on any other character. -/
def encodeAscii (text : List Char) : Option Bytes :=
  if text.all (fun c => c.toNat < 128) then some (text.map (fun c => c.toNat.toUInt8)) else none

/-- `_pkce_challenge` -/
def pkceChallenge (codeVerifier : List Char) : Option (List Char) :=
  (encodeAscii codeVerifier).map (fun bytes => b64url (sha256Bytes bytes))

/-- The arguments of a `begin_auth` and what it draws. -/
structure AuthIssue (τ : Type) where
  draws : AuthDraws
  returnTo : PyStr
  redirectUri : PyStr
  ttlSeconds : τ

section Issues

variable {τ : Type}

def AuthIssue.state (issue : AuthIssue τ) : List Char := b64url issue.draws.state

def AuthIssue.nonce (issue : AuthIssue τ) : List Char := b64url issue.draws.nonce

def AuthIssue.codeVerifier (issue : AuthIssue τ) : List Char := b64url issue.draws.codeVerifier

/-- The letters of a token are ASCII, so that the challenge never raises. -/
def AuthIssue.codeChallenge (issue : AuthIssue τ) : List Char :=
  (pkceChallenge issue.codeVerifier).getD []

/-- What `begin_auth` returns. -/
def AuthIssue.transaction (issue : AuthIssue τ) : AuthTransaction where
  state := issue.state
  nonce := issue.nonce
  codeVerifier := issue.codeVerifier
  codeChallenge := issue.codeChallenge
  returnTo := issue.returnTo
  redirectUri := issue.redirectUri

/-- What `begin_auth` inserts. -/
def AuthIssue.row [Add τ] (issue : AuthIssue τ) (now : τ) : AuthRow τ where
  stateHash := sessionHash issue.state
  nonce := issue.nonce
  codeVerifier := issue.codeVerifier
  codeChallenge := issue.codeChallenge
  returnTo := issue.returnTo
  redirectUri := issue.redirectUri
  createdAt := now
  expiresAt := now + issue.ttlSeconds

/-- What `consume_auth` returns for a row. -/
def AuthRow.transaction (row : AuthRow τ) (state : List Char) : AuthTransaction where
  state := state
  nonce := row.nonce
  codeVerifier := row.codeVerifier
  codeChallenge := row.codeChallenge
  returnTo := row.returnTo
  redirectUri := row.redirectUri

end Issues

/-! ### Statements -/

section Statements

variable {τ : Type}

/-- `DELETE FROM auth_transactions WHERE expires_at <= ?` -/
def deleteExpired [LinearOrder τ] (rows : List (AuthRow τ)) (now : τ) : List (AuthRow τ) :=
  rows.filter (fun row => now < row.expiresAt)

/-- `INSERT INTO auth_transactions`, under the primary key. -/
def insertAuth (rows : List (AuthRow τ)) (row : AuthRow τ) : Option (List (AuthRow τ)) :=
  if rows.any (fun known => known.stateHash = row.stateHash) then none else some (rows ++ [row])

/-- `SELECT * FROM auth_transactions WHERE state_hash = ? AND expires_at > ?` -/
def selectAuth [LinearOrder τ] (rows : List (AuthRow τ)) (hash : PyStr) (now : τ) :
    Option (AuthRow τ) :=
  rows.find? (fun row => row.stateHash = hash && now < row.expiresAt)

/-- `DELETE FROM auth_transactions WHERE state_hash = ?` -/
def deleteAuth (rows : List (AuthRow τ)) (hash : PyStr) : List (AuthRow τ) :=
  rows.filter (fun row => row.stateHash ≠ hash)

/-- `result.rowcount` of that delete. -/
def deletedAuth (rows : List (AuthRow τ)) (hash : PyStr) : Nat :=
  rows.countP (fun row => row.stateHash = hash)

end Statements

/-! ### Calls as threads -/

/-- What is committed, whether a connection holds the lock for writers, and the clock. -/
structure TransactionDb (τ : Type) where
  transactions : List (AuthRow τ)
  writing : Bool
  clock : τ

inductive TransactionCall (τ : Type) where
  | begin (issue : AuthIssue τ)
  | consume (state : List Char)
  | discard (state : List Char)

/-- Where a call is; `now` is the clock reading it has taken, and rows are what its own
connection sees before it commits. -/
inductive TransactionThread (τ : Type) where
  | beginning (issue : AuthIssue τ)
  | timed (issue : AuthIssue τ) (now : τ)
  | expiring (issue : AuthIssue τ) (now : τ) (rows : List (AuthRow τ))
  | inserting (issue : AuthIssue τ) (now : τ) (rows : List (AuthRow τ))
  | begun (issue : AuthIssue τ) (now : τ)
  | consuming (state : List Char)
  | asking (state : List Char) (now : τ)
  | selecting (state : List Char) (now : τ)
  | deleting (state : List Char) (now : τ) (row : AuthRow τ)
  | counting (state : List Char) (now : τ) (row : AuthRow τ) (rows : List (AuthRow τ))
      (count : Nat)
  | committed (state : List Char) (now : τ) (row : AuthRow τ)
  | consumed (state : List Char) (now : τ) (transaction : AuthTransaction)
  | missed (state : List Char)
  | discarding (state : List Char)
  | erasing (state : List Char) (rows : List (AuthRow τ))
  | discarded (state : List Char)
  | raised

/-- Whether the call has more to do. -/
def TransactionThread.running {τ : Type} : TransactionThread τ → Bool
  | .begun _ _ => false
  | .consumed _ _ _ => false
  | .missed _ => false
  | .discarded _ => false
  | .raised => false
  | _ => true

/-- Whether the call's connection is in a transaction that writes. -/
def TransactionThread.writes {τ : Type} : TransactionThread τ → Bool
  | .expiring _ _ _ => true
  | .inserting _ _ _ => true
  | .selecting _ _ => true
  | .deleting _ _ _ => true
  | .counting _ _ _ _ _ => true
  | .erasing _ _ => true
  | _ => false

def TransactionCall.thread {τ : Type} : TransactionCall τ → TransactionThread τ
  | .begin issue => .beginning issue
  | .consume state => .consuming state
  | .discard state => .discarding state

section Steps

variable {τ : Type} [LinearOrder τ] [Zero τ] [Add τ]

/-- One step of one call.  A reading of the clock is not smaller than the ones before. -/
inductive TransactionStep : ThreadStep (TransactionDb τ) (TransactionThread τ) where
  | badTtl {db : TransactionDb τ} {issue : AuthIssue τ} (bad : ¬0 < issue.ttlSeconds) :
      TransactionStep db (.beginning issue) db .raised
  | time {db : TransactionDb τ} {issue : AuthIssue τ} {now : τ} (good : 0 < issue.ttlSeconds)
      (onward : db.clock ≤ now) :
      TransactionStep db (.beginning issue) { db with clock := now } (.timed issue now)
  | expire {db : TransactionDb τ} {issue : AuthIssue τ} {now : τ} (free : db.writing = false) :
      TransactionStep db (.timed issue now) { db with writing := true }
        (.expiring issue now (deleteExpired db.transactions now))
  | insert {db : TransactionDb τ} {issue : AuthIssue τ} {now : τ} {rows rows' : List (AuthRow τ)}
      (inserted : insertAuth rows (issue.row now) = some rows') :
      TransactionStep db (.expiring issue now rows) db (.inserting issue now rows')
  | insertClash {db : TransactionDb τ} {issue : AuthIssue τ} {now : τ} {rows : List (AuthRow τ)}
      (clash : insertAuth rows (issue.row now) = none) :
      TransactionStep db (.expiring issue now rows) { db with writing := false } .raised
  | commitBegin {db : TransactionDb τ} {issue : AuthIssue τ} {now : τ} {rows : List (AuthRow τ)} :
      TransactionStep db (.inserting issue now rows)
        { db with transactions := rows, writing := false } (.begun issue now)
  | consumeRefused {db : TransactionDb τ} {state : List Char} (bad : goodSessionId state = false) :
      TransactionStep db (.consuming state) db (.missed state)
  | consumeTime {db : TransactionDb τ} {state : List Char} {now : τ}
      (good : goodSessionId state = true) (onward : db.clock ≤ now) :
      TransactionStep db (.consuming state) { db with clock := now } (.asking state now)
  | beginImmediate {db : TransactionDb τ} {state : List Char} {now : τ}
      (free : db.writing = false) :
      TransactionStep db (.asking state now) { db with writing := true } (.selecting state now)
  | selectNone {db : TransactionDb τ} {state : List Char} {now : τ}
      (absent : selectAuth db.transactions (sessionHash state) now = none) :
      TransactionStep db (.selecting state now) { db with writing := false } (.missed state)
  | select {db : TransactionDb τ} {state : List Char} {now : τ} {row : AuthRow τ}
      (found : selectAuth db.transactions (sessionHash state) now = some row) :
      TransactionStep db (.selecting state now) db (.deleting state now row)
  | delete {db : TransactionDb τ} {state : List Char} {now : τ} {row : AuthRow τ} :
      TransactionStep db (.deleting state now row) db
        (.counting state now row (deleteAuth db.transactions row.stateHash)
          (deletedAuth db.transactions row.stateHash))
  /-- `return None` inside the `with` block commits. -/
  | miscounted {db : TransactionDb τ} {state : List Char} {now : τ} {row : AuthRow τ}
      {rows : List (AuthRow τ)} {count : Nat} (wrong : count ≠ 1) :
      TransactionStep db (.counting state now row rows count)
        { db with transactions := rows, writing := false } (.missed state)
  | commitConsume {db : TransactionDb τ} {state : List Char} {now : τ} {row : AuthRow τ}
      {rows : List (AuthRow τ)} :
      TransactionStep db (.counting state now row rows 1)
        { db with transactions := rows, writing := false } (.committed state now row)
  | consume {db : TransactionDb τ} {state : List Char} {now : τ} {row : AuthRow τ} :
      TransactionStep db (.committed state now row) db
        (.consumed state now (row.transaction state))
  | discardRefused {db : TransactionDb τ} {state : List Char} (bad : state = []) :
      TransactionStep db (.discarding state) db (.discarded state)
  | erase {db : TransactionDb τ} {state : List Char} (good : state ≠ [])
      (free : db.writing = false) :
      TransactionStep db (.discarding state) { db with writing := true }
        (.erasing state (deleteAuth db.transactions (sessionHash state)))
  | commitDiscard {db : TransactionDb τ} {state : List Char} {rows : List (AuthRow τ)} :
      TransactionStep db (.erasing state rows)
        { db with transactions := rows, writing := false } (.discarded state)
  /-- An error of the call or of the database; an open transaction is rolled back. -/
  | raise {db : TransactionDb τ} {thread : TransactionThread τ} (running : thread.running = true) :
      TransactionStep db thread
        { db with writing := if thread.writes then false else db.writing } .raised

/-- No transactions yet, and every call at its beginning. -/
def transactionsStart {ι : Type} (clock : τ) (calls : ι → TransactionCall τ) :
    Config ι (TransactionDb τ) (TransactionThread τ) where
  shared := ⟨[], false, clock⟩
  threads i := (calls i).thread

end Steps

end FolioLattice.Auth
