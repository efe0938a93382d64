/-
The server-owned table of memberships: identities with their tenant, actor, status
and scopes.
-/

import FolioLattice.Auth.Principals

namespace FolioLattice.Auth

open FolioLattice.Text FolioLattice.Data

inductive MembershipStatus where
  | active
  | disabled
  | revoked
  deriving DecidableEq

/-- What `MembershipStore.lookup` returns. -/
structure Membership where
  issuer : PyStr
  subject : PyStr
  tenantId : PyStr
  actorId : PyStr
  status : MembershipStatus
  scopes : Scopes
  deriving DecidableEq

/-- A row of `oidc_memberships`; its scopes are JSON text. -/
structure MembershipRow where
  issuer : PyStr
  subject : PyStr
  tenantId : PyStr
  actorId : PyStr
  status : MembershipStatus
  scopes : List Char
  deriving DecidableEq

/-- A `MembershipError` with its message. -/
structure MembershipError where
  message : String
  deriving DecidableEq

/-! ### Checks -/

def isSpacePy (c : CodePoint) : Bool := c.val.isValidChar && isSpace (Char.ofNat c.val)

/-- `str.strip` on code points. -/
def stripPy (text : PyStr) : PyStr := (text.dropWhile isSpacePy).rdropWhile isSpacePy

def requiredText (field : String) (value : PyStr) : Except MembershipError PyStr :=
  if value.isEmpty ∨ (stripPy value).isEmpty ∨ value ≠ stripPy value then
    .error ⟨field ++ " must be a non-empty string"⟩
  else .ok value

/-- A scope character: visible ASCII but no quote and no backslash. -/
def isScopeChar (c : CodePoint) : Bool :=
  0x21 ≤ c.val && c.val ≤ 0x7e && c.val ≠ 0x22 && c.val ≠ 0x5c

def isScope (scope : PyStr) : Bool := !scope.isEmpty && scope.all isScopeChar

/-- `_server_scopes` on strings. -/
def serverScopes (scopes : List PyStr) : Except MembershipError Scopes :=
  if 128 < (Scopes.ofList scopes).sorted.length ∨
      (Scopes.ofList scopes).sorted.all isScope = false then
    .error ⟨"membership scopes are invalid"⟩
  else .ok (Scopes.ofList scopes)

/-- `json.dumps(sorted(scopes), separators=(",", ":"))`; text prints without an error. -/
def scopesText (scopes : Scopes) : List Char :=
  (Json.arr (scopes.sorted.map (fun scope => (.str scope : Json Empty)))).sortKeys.print

/-- The strings `frozenset` makes of a JSON value: the items of a list, the keys of
an object. -/
def scopeItems {F : Type} : Json F → Option (List PyStr)
  | .arr items => items.mapM (fun item =>
      match item with
      | .str text => some text
      | _ => none)
  | .obj entries => some (entries.map (·.1))
  | _ => none

/-- The scopes column read back. -/
def readScopes (F : Type) [FloatFormat F] (text : List Char) : Except MembershipError Scopes :=
  match (loads text : Except LoadError (Json F)) with
  | .error _ => .error ⟨"membership scopes are invalid"⟩
  | .ok value =>
      match scopeItems value with
      | none => .error ⟨"membership scopes are invalid"⟩
      | some items => serverScopes items

/-! ### The table -/

abbrev MembershipTable := List MembershipRow

def MembershipRow.isOf (issuer subject : PyStr) (row : MembershipRow) : Bool :=
  row.issuer = issuer && row.subject = subject

section Table

variable (F : Type) [FloatFormat F]

def MembershipRow.read (row : MembershipRow) : Except MembershipError Membership := do
  let scopes ← readScopes F row.scopes
  .ok ⟨row.issuer, row.subject, row.tenantId, row.actorId, row.status, scopes⟩

/-- `MembershipStore.lookup` -/
def MembershipTable.lookup (table : MembershipTable) (issuer subject : PyStr) :
    Except MembershipError (Option Membership) :=
  match table.find? (MembershipRow.isOf issuer subject) with
  | none => .ok none
  | some row => (row.read F).map some

/-- `MembershipStore.add`, its insert under the primary key. -/
def MembershipTable.add (table : MembershipTable) (issuer subject tenantId actorId : PyStr)
    (status : MembershipStatus) (scopes : List PyStr) : Except MembershipError MembershipTable := do
  let issuer ← requiredText "issuer" issuer
  let subject ← requiredText "subject" subject
  let tenantId ← requiredText "tenant_id" tenantId
  let actorId ← requiredText "actor_id" actorId
  let scopes ← serverScopes scopes
  match ← table.lookup F issuer subject with
  | none => .ok (table ++ [⟨issuer, subject, tenantId, actorId, status, scopesText scopes⟩])
  | some existing =>
      if existing.tenantId ≠ tenantId ∨ existing.actorId ≠ actorId then
        .error ⟨"OIDC membership mapping is immutable"⟩
      else .error ⟨"OIDC membership already exists"⟩

/-- `UPDATE oidc_memberships SET … WHERE issuer = ? AND subject = ?`. -/
def MembershipTable.update (table : MembershipTable) (issuer subject : PyStr)
    (change : MembershipRow → MembershipRow) : Except MembershipError MembershipTable :=
  if table.any (MembershipRow.isOf issuer subject) then
    .ok (table.map (fun row => if row.isOf issuer subject then change row else row))
  else .error ⟨"OIDC membership not found"⟩

/-- The update of `set_status`. -/
def MembershipTable.setStatus (table : MembershipTable) (issuer subject : PyStr)
    (status : MembershipStatus) : Except MembershipError MembershipTable := do
  let issuer ← requiredText "issuer" issuer
  let subject ← requiredText "subject" subject
  table.update issuer subject (fun row => { row with status := status })

/-- The update of `set_scopes`. -/
def MembershipTable.setScopes (table : MembershipTable) (issuer subject : PyStr)
    (scopes : List PyStr) : Except MembershipError MembershipTable := do
  let issuer ← requiredText "issuer" issuer
  let subject ← requiredText "subject" subject
  let scopes ← serverScopes scopes
  table.update issuer subject (fun row => { row with scopes := scopesText scopes })

/-! ### What is looked up -/

/-- The table holds the membership, its scopes as they read. -/
def MembershipTable.Holds (table : MembershipTable) (membership : Membership) : Prop :=
  ∃ row ∈ table, row.read F = .ok membership

/-- Scopes that passed `_server_scopes`. -/
def Scopes.Valid (scopes : Scopes) : Prop := scopes.sorted.all isScope = true

variable {F}

theorem serverScopes_valid {items : List PyStr} {scopes : Scopes}
    (read : serverScopes items = .ok scopes) : scopes.Valid := by
  unfold serverScopes at read
  split at read
  · cases read
  · rename_i valid
    rw [not_or, Bool.not_eq_false] at valid
    cases read
    exact valid.2

theorem readScopes_valid {text : List Char} {scopes : Scopes}
    (read : readScopes F text = .ok scopes) : scopes.Valid := by
  unfold readScopes at read
  split at read
  · cases read
  split at read
  · cases read
  · exact serverScopes_valid read

/-- A membership that is found is in the table, under the identity asked for. -/
theorem MembershipTable.lookup_some {table : MembershipTable} {issuer subject : PyStr}
    {membership : Membership} (found : table.lookup F issuer subject = .ok (some membership)) :
    table.Holds F membership ∧ membership.scopes.Valid ∧ membership.issuer = issuer ∧
      membership.subject = subject := by
  unfold MembershipTable.lookup at found
  split at found
  · cases found
  · rename_i row isFound
    have isOf := List.find?_some isFound
    unfold MembershipRow.isOf at isOf
    rw [Bool.and_eq_true, decide_eq_true_eq, decide_eq_true_eq] at isOf
    cases read : row.read F with
    | error e =>
        rw [read] at found
        cases found
    | ok member =>
        rw [read] at found
        cases found
        refine ⟨⟨row, List.mem_of_find?_eq_some isFound, read⟩, ?_⟩
        unfold MembershipRow.read at read
        cases scopes : readScopes F row.scopes with
        | error e =>
            rw [scopes] at read
            cases read
        | ok value =>
            rw [scopes] at read
            cases read
            exact ⟨readScopes_valid scopes, isOf.1, isOf.2⟩

end Table

/-! ### Scopes as text -/

theorem isScope_plain {scope : PyStr} (valid : isScope scope = true) : joinPairs scope = scope := by
  unfold isScope at valid
  rw [Bool.and_eq_true] at valid
  have visible := List.all_eq_true.mp valid.2
  clear valid
  induction scope with
  | nil => rfl
  | cons c rest ih =>
      have notHigh : isHigh c = false := by
        have char := visible c List.mem_cons_self
        unfold isScopeChar at char
        simp only [Bool.and_eq_true, decide_eq_true_eq] at char
        unfold isHigh
        rw [Bool.and_eq_false_iff, decide_eq_false_iff_not]
        left
        omega
      rw [joinPairs_cons_of_not_high notHigh, ih (fun d member => visible d (List.mem_cons_of_mem _ member))]

theorem loads_scopesText {scopes : Scopes} (valid : scopes.Valid) :
    (loads (scopesText scopes) : Except LoadError (Json Empty)) =
      .ok (.arr (scopes.sorted.map .str)) := by
  have joined : ∀ text ∈ scopes.sorted, joinPairs text = text := fun text member =>
    isScope_plain (List.all_eq_true.mp valid text member)
  unfold scopesText
  rw [loads_print, reread_strings joined]
  rw [Json.encodable_sortKeys]
  exact encodable_strings _

/-- Valid scopes with one text are the same. -/
theorem scopesText_injective {left right : Scopes} (leftValid : left.Valid)
    (rightValid : right.Valid) (same : scopesText left = scopesText right) : left = right := by
  have texts := loads_scopesText leftValid
  rw [same, loads_scopesText rightValid] at texts
  have items : right.sorted.map Json.str = left.sorted.map (Json.str (F := Empty)) :=
    Json.arr.inj (Except.ok.inj texts)
  have sorted : right.sorted = left.sorted :=
    List.map_injective_iff.mpr (fun _ _ h => Json.str.inj h) items
  obtain ⟨leftItems, _⟩ := left
  obtain ⟨rightItems, _⟩ := right
  cases sorted
  rfl

theorem scopeItems_strings {F : Type} (texts : List PyStr) :
    scopeItems (.arr (texts.map (Json.str (F := F)))) = some texts := by
  unfold scopeItems
  dsimp only
  induction texts with
  | nil => rfl
  | cons text rest ih =>
      rw [List.map_cons, List.mapM_cons, ih]
      rfl

/-- Scopes that were stored read back. -/
theorem readScopes_scopesText {scopes : Scopes} (valid : scopes.Valid)
    (few : scopes.sorted.length ≤ 128) : readScopes Empty (scopesText scopes) = .ok scopes := by
  have fine : ¬(128 < (Scopes.ofList scopes.sorted).sorted.length ∨
      (Scopes.ofList scopes.sorted).sorted.all isScope = false) := by
    rw [Scopes.ofList_sorted, not_or, Bool.not_eq_false]
    exact ⟨Nat.not_lt_of_le few, valid⟩
  unfold readScopes
  rw [loads_scopesText valid]
  simp only [scopeItems_strings]
  unfold serverScopes
  rw [if_neg fine, Scopes.ofList_sorted]

end FolioLattice.Auth
