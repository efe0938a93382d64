/-
The keys under which concurrent calls are counted: which callers the broker of external
calls and the public endpoint tell apart.
-/

import FolioLattice.Auth.Memberships
import FolioLattice.Limits.Limiters

namespace FolioLattice.Limits

open FolioLattice.Text FolioLattice.Data FolioLattice.Auth

/-! ### The broker -/

/-- A tenant and an actor that `MembershipStore.add` accepts; SQLite stores no surrogates. -/
structure MemberIdentity where
  tenantId : String
  actorId : String
  tenant_required : requiredText "tenant_id" (pyStr tenantId) = .ok (pyStr tenantId)
  actor_required : requiredText "actor_id" (pyStr actorId) = .ok (pyStr actorId)

inductive BrokerOperation where
  | register
  | list
  | status
  | health
  | revoke
  | audit
  | tool
  | resource
  deriving DecidableEq

/-- The `operation` that each method of the broker passes to `_admit`. -/
def BrokerOperation.name : BrokerOperation → String
  | register => "register"
  | list => "list"
  | status => "status"
  | health => "health"
  | revoke => "revoke"
  | audit => "audit"
  | tool => "tool"
  | resource => "resource"

theorem BrokerOperation.name_injective : Function.Injective BrokerOperation.name := by
  intro left right same
  cases left <;> cases right <;> first | rfl | exact absurd same (by decide)

def unitSeparator : CodePoint := codePoint '\x1f'

/-- `"\x1f".join((tenant_id, actor_id, connection_id, operation))`; a client chooses the
connection's id or name. -/
def admitKey (identity : MemberIdentity) (connection : PyStr) (operation : BrokerOperation) :
    PyStr :=
  [unitSeparator].intercalate
    [pyStr identity.tenantId, pyStr identity.actorId, connection, pyStr operation.name]

/-- The key as the broker's model computes it. -/
theorem admitKey_slot (identity : MemberIdentity) (connection : String)
    (operation : BrokerOperation) :
    pyStr (broker.slot ⟨identity.tenantId, identity.actorId, connection, operation.name⟩) =
      admitKey identity (pyStr connection) operation := by
  unfold broker admitKey pyStr unitSeparator
  dsimp only
  simp only [String.intercalate_cons_cons, String.intercalate_singleton, String.toList_append,
    List.map_append, List.intercalate_cons_cons, List.intercalate_singleton, List.append_assoc]
  rfl

/-- What every key of an identity begins with. -/
def MemberIdentity.stem (identity : MemberIdentity) : PyStr :=
  pyStr identity.tenantId ++ unitSeparator :: (pyStr identity.actorId ++ [unitSeparator])

theorem admitKey_stem (identity : MemberIdentity) (connection : PyStr)
    (operation : BrokerOperation) :
    admitKey identity connection operation =
      identity.stem ++ (connection ++ unitSeparator :: pyStr operation.name) := by
  unfold admitKey MemberIdentity.stem
  simp only [List.intercalate_cons_cons, List.intercalate_singleton, List.append_assoc,
    List.cons_append, List.nil_append]

theorem operation_no_separator (operation : BrokerOperation) :
    unitSeparator ∉ pyStr operation.name := by
  cases operation <;> decide

/-- Two texts are cut at the same place by a mark that neither has before it. -/
theorem cut_unique {mark : CodePoint} {left right leftRest rightRest : PyStr}
    (leftFree : mark ∉ left) (rightFree : mark ∉ right)
    (same : left ++ mark :: leftRest = right ++ mark :: rightRest) :
    left = right ∧ leftRest = rightRest := by
  induction left generalizing right with
  | nil =>
      cases right with
      | nil => exact ⟨rfl, (List.cons.inj same).2⟩
      | cons c right =>
          exact absurd ((List.cons.inj same).1 ▸ List.mem_cons_self) rightFree
  | cons c left ih =>
      cases right with
      | nil => exact absurd ((List.cons.inj same).1 ▸ List.mem_cons_self) leftFree
      | cons d right =>
          obtain ⟨head, tail⟩ := List.cons.inj same
          obtain ⟨equal, rest⟩ := ih (fun member => leftFree (List.mem_cons_of_mem _ member))
            (fun member => rightFree (List.mem_cons_of_mem _ member)) tail
          exact ⟨List.cons_eq_cons.mpr ⟨head, equal⟩, rest⟩

/-- The last separator ends the connection. -/
theorem last_separator {first second : PyStr} {left right : BrokerOperation}
    (same : first ++ unitSeparator :: pyStr left.name = second ++ unitSeparator :: pyStr right.name) :
    first = second ∧ left = right := by
  have turned := congrArg List.reverse same
  simp only [List.reverse_append, List.reverse_cons, List.append_assoc, List.cons_append,
    List.nil_append] at turned
  obtain ⟨names, connections⟩ := cut_unique
    (fun member => operation_no_separator left (List.mem_reverse.mp member))
    (fun member => operation_no_separator right (List.mem_reverse.mp member)) turned
  exact ⟨List.reverse_injective connections,
    BrokerOperation.name_injective (pyStr_injective (List.reverse_injective names))⟩

/-- Two identities share no key, whatever connections and operations their calls are about,
unless the tuples are the same. -/
def KeysApart (first second : MemberIdentity) : Prop :=
  ∀ connection connection' operation operation',
    admitKey first connection operation = admitKey second connection' operation' ↔
      first.tenantId = second.tenantId ∧ first.actorId = second.actorId ∧
        connection = connection' ∧ operation = operation'

/-- The identities are the same, or neither one's keys can continue the other's. -/
def StemsApart (first second : MemberIdentity) : Prop :=
  (first.tenantId = second.tenantId ∧ first.actorId = second.actorId) ∨
    (¬first.stem <+: second.stem ∧ ¬second.stem <+: first.stem)

theorem stem_congr {first second : MemberIdentity} (tenants : first.tenantId = second.tenantId)
    (actors : first.actorId = second.actorId) : first.stem = second.stem := by
  unfold MemberIdentity.stem
  rw [tenants, actors]

/-- A stem that begins another is met by a connection that spells out the rest. -/
theorem stem_prefix_collides {first second : MemberIdentity} (begins : first.stem <+: second.stem) :
    ∃ connection, admitKey first connection .status = admitKey second [] .status := by
  obtain ⟨rest, whole⟩ := begins
  refine ⟨rest, ?_⟩
  rw [admitKey_stem, admitKey_stem, ← whole]
  simp only [List.append_assoc, List.nil_append]

theorem keysApart_iff (first second : MemberIdentity) :
    KeysApart first second ↔ StemsApart first second := by
  constructor
  · intro apart
    by_cases same : first.tenantId = second.tenantId ∧ first.actorId = second.actorId
    · exact Or.inl same
    · refine Or.inr ⟨fun begins => ?_, fun begins => ?_⟩
      · obtain ⟨connection, collides⟩ := stem_prefix_collides begins
        have tuple := (apart connection [] .status .status).mp collides
        exact same ⟨tuple.1, tuple.2.1⟩
      · obtain ⟨connection, collides⟩ := stem_prefix_collides begins
        have tuple := (apart [] connection .status .status).mp collides.symm
        exact same ⟨tuple.1, tuple.2.1⟩
  · intro stems connection connection' operation operation'
    constructor
    · intro collides
      rw [admitKey_stem, admitKey_stem] at collides
      rcases stems with ⟨tenants, actors⟩ | ⟨notFirst, notSecond⟩
      · rw [stem_congr tenants actors] at collides
        obtain ⟨connections, operations⟩ := last_separator (List.append_cancel_left collides)
        exact ⟨tenants, actors, connections, operations⟩
      · have left : first.stem <+: second.stem ++ _ := collides ▸ List.prefix_append first.stem _
        rcases List.prefix_or_prefix_of_prefix left (List.prefix_append second.stem _) with
          begins | begins
        · exact absurd begins notFirst
        · exact absurd begins notSecond
    · rintro ⟨tenants, actors, connections, operations⟩
      rw [admitKey_stem, admitKey_stem, stem_congr tenants actors, connections, operations]

/-- Identities without the separator are told apart. -/
theorem stemsApart_of_free {first second : MemberIdentity}
    (firstTenant : unitSeparator ∉ pyStr first.tenantId)
    (firstActor : unitSeparator ∉ pyStr first.actorId)
    (secondTenant : unitSeparator ∉ pyStr second.tenantId)
    (secondActor : unitSeparator ∉ pyStr second.actorId) : StemsApart first second := by
  have same_of_begins : ∀ {left right : MemberIdentity}, unitSeparator ∉ pyStr left.tenantId →
      unitSeparator ∉ pyStr left.actorId → unitSeparator ∉ pyStr right.tenantId →
      unitSeparator ∉ pyStr right.actorId → left.stem <+: right.stem →
      left.tenantId = right.tenantId ∧ left.actorId = right.actorId := by
    intro left right leftTenant leftActor rightTenant rightActor ⟨rest, whole⟩
    unfold MemberIdentity.stem at whole
    simp only [List.append_assoc, List.cons_append, List.nil_append] at whole
    obtain ⟨tenants, actors⟩ := cut_unique leftTenant rightTenant whole
    obtain ⟨actors, _⟩ := cut_unique leftActor rightActor actors
    exact ⟨pyStr_injective tenants, pyStr_injective actors⟩
  by_cases same : first.tenantId = second.tenantId ∧ first.actorId = second.actorId
  · exact Or.inl same
  · refine Or.inr ⟨fun begins => same ?_, fun begins => same ?_⟩
    · exact same_of_begins firstTenant firstActor secondTenant secondActor begins
    · obtain ⟨tenants, actors⟩ :=
        same_of_begins secondTenant secondActor firstTenant firstActor begins
      exact ⟨tenants.symm, actors.symm⟩

/-! ### The public endpoint -/

/-- Who sends a request to `/mcp`: the principal, if one was verified, and the address. -/
structure PublicCaller where
  principal : Option MemberIdentity
  client : Option String

/-- `_client_key` -/
def clientKey (caller : PublicCaller) : String := caller.client.getD "unknown"

def identityTexts (identity : MemberIdentity) : List PyStr :=
  [pyStr identity.tenantId, pyStr identity.actorId]

/-- `json.dumps((principal.tenant_id, principal.actor_id), separators=(",", ":"))` -/
def identityText (identity : MemberIdentity) : List Char :=
  Json.print (.arr ((identityTexts identity).map .str) : Json Empty)

/-- `_public_mcp_key` -/
def publicMcpKey (caller : PublicCaller) : String :=
  match caller.principal with
  | none => "ip:" ++ clientKey caller
  | some identity => "identity:" ++ String.ofList (identityText identity)

/-- The JSON text of an identity determines it. -/
theorem identityText_injective {first second : MemberIdentity}
    (same : identityText first = identityText second) :
    first.tenantId = second.tenantId ∧ first.actorId = second.actorId := by
  have read : ∀ identity : MemberIdentity,
      (loads (identityText identity) : Except LoadError (Json Empty)) =
        .ok (.arr ((identityTexts identity).map .str)) := by
    intro identity
    unfold identityText
    rw [loads_print (encodable_strings _)]
    unfold identityTexts pyStr
    simp only [List.map_cons, List.map_nil, Json.reread, rereadItems, joinPairs_chars]
  have values := (read first).symm.trans ((congrArg loads same).trans (read second))
  have texts := List.map_injective_iff.mpr (fun _ _ => Json.str.inj)
    (Json.arr.inj (Except.ok.inj values))
  obtain ⟨tenants, rest⟩ := List.cons.inj texts
  exact ⟨pyStr_injective tenants, pyStr_injective (List.cons.inj rest).1⟩

theorem ip_ne_identity (client text : String) : "ip:" ++ client ≠ "identity:" ++ text := by
  intro same
  have letters := congrArg String.toList same
  rw [String.toList_append, String.toList_append] at letters
  cases letters

/-- Two requests share a key if they have one identity, or no identity and one address. -/
theorem publicMcpKey_iff (first second : PublicCaller) :
    publicMcpKey first = publicMcpKey second ↔
      (∃ left right, first.principal = some left ∧ second.principal = some right ∧
        left.tenantId = right.tenantId ∧ left.actorId = right.actorId) ∨
      (first.principal = none ∧ second.principal = none ∧ clientKey first = clientKey second) := by
  unfold publicMcpKey
  constructor
  · intro same
    cases left : first.principal with
    | none =>
        rw [left] at same
        cases right : second.principal with
        | none =>
            rw [right] at same
            exact Or.inr ⟨rfl, rfl, (String.append_right_inj _).mp same⟩
        | some identity =>
            rw [right] at same
            exact absurd same (ip_ne_identity _ _)
    | some identity =>
        rw [left] at same
        cases right : second.principal with
        | none =>
            rw [right] at same
            exact absurd same.symm (ip_ne_identity _ _)
        | some other =>
            rw [right] at same
            have texts := String.ofList_inj.mp ((String.append_right_inj _).mp same)
            exact Or.inl ⟨identity, other, rfl, rfl, identityText_injective texts⟩
  · rintro (⟨left, right, hasLeft, hasRight, tenants, actors⟩ | ⟨noLeft, noRight, clients⟩)
    · have texts : identityText left = identityText right := by
        unfold identityText identityTexts
        rw [tenants, actors]
      rw [hasLeft, hasRight]
      dsimp only
      rw [texts]
    · rw [noLeft, noRight]
      dsimp only
      rw [clients]

/-- The broker's keys tell two identities apart exactly when neither one's tenant and actor,
each with its separator, begin the other's, in particular when the separator is in none of
them; the public endpoint's keys tell all identities and addresses apart. -/
theorem concurrency_keys_exact (first second : MemberIdentity) (caller caller' : PublicCaller) :
    (KeysApart first second ↔ StemsApart first second) ∧
    (publicMcpKey caller = publicMcpKey caller' ↔
      (∃ left right, caller.principal = some left ∧ caller'.principal = some right ∧
        left.tenantId = right.tenantId ∧ left.actorId = right.actorId) ∨
      (caller.principal = none ∧ caller'.principal = none ∧
        clientKey caller = clientKey caller')) :=
  ⟨keysApart_iff first second, publicMcpKey_iff caller caller'⟩

/-! ### An actor whose name holds the separator -/

def plainActor : MemberIdentity := ⟨"acme", "ann", by decide, by decide⟩

def splitActor : MemberIdentity := ⟨"acme", "ann\x1fcrm", by decide, by decide⟩

theorem concurrency_keys_collide :
    ¬∀ (first second : MemberIdentity) connection connection' operation operation',
      admitKey first connection operation = admitKey second connection' operation' ↔
        first.tenantId = second.tenantId ∧ first.actorId = second.actorId ∧
          connection = connection' ∧ operation = operation' := by
  intro always
  have tuple := (always plainActor splitActor (pyStr "crm\x1fmail") (pyStr "mail") .status .status).mp
    (by decide)
  exact absurd tuple.2.1 (by decide)

end FolioLattice.Limits
