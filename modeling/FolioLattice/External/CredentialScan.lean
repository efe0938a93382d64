/-
The scan for credential material in the result of an external call, next to the strings
that whoever receives the result can derive from it.
-/

import FolioLattice.Data.JsonNormal
import FolioLattice.Data.Hmac
import FolioLattice.Text.Utf8
import FolioLattice.Relational.Worklist
import Mathlib.Data.List.Infix

namespace FolioLattice.External

open FolioLattice.Text FolioLattice.Data FolioLattice.Relational

/-! ### Percent-encoding -/

def hexByte (high low : UInt8) : Option UInt8 := do
  let high ← hexValue (Char.ofNat high.toNat)
  let low ← hexValue (Char.ofNat low.toNat)
  some (UInt8.ofNat (high * 16 + low))

/-- `urllib.parse.unquote_to_bytes`: a `%` without two digits stands for itself. -/
def unquoteToBytes : Bytes → Bytes
  | percent :: high :: low :: rest =>
      match (if percent = 0x25 then hexByte high low else none) with
      | some byte => byte :: unquoteToBytes rest
      | none => percent :: unquoteToBytes (high :: low :: rest)
  | bytes => bytes

/-- A run of ASCII characters, the last one first. -/
def unquoteRun (run : Bytes) : PyStr := (decodeUtf8 (unquoteToBytes run.reverse)).map codePoint

/-- The runs of ASCII characters are decoded, each on its own. -/
def unquoteFrom (run : Bytes) : PyStr → PyStr
  | [] => unquoteRun run
  | c :: rest =>
      if c.val < 0x80 then unquoteFrom (UInt8.ofNat c.val :: run) rest
      else unquoteRun run ++ c :: unquoteFrom [] rest

/-- `urllib.parse.unquote` -/
def unquote (text : PyStr) : PyStr := unquoteFrom [] text

/-! ### Values -/

/-- The values that a transport may return. -/
inductive PyValue (F : Type) where
  | null
  | bool (value : Bool)
  | int (value : Int)
  | float (value : FloatValue F)
  | str (text : PyStr)
  | bytes (data : Bytes)
  | list (items : List (PyValue F))
  | tuple (items : List (PyValue F))
  | set (items : List (PyValue F))
  | dict (entries : List (PyValue F × PyValue F))

variable {F : Type}

-- The nested lists are walked by the companion recursions.
mutual
/-- What `json.loads` builds. -/
def PyValue.ofJson : Json F → PyValue F
  | .null => .null
  | .bool value => .bool value
  | .int value => .int value
  | .float value => .float value
  | .str text => .str text
  | .arr items => .list (pyItems items)
  | .obj entries => .dict (pyEntries entries)

def pyItems : List (Json F) → List (PyValue F)
  | [] => []
  | item :: rest => .ofJson item :: pyItems rest

def pyEntries : List (PyStr × Json F) → List (PyValue F × PyValue F)
  | [] => []
  | entry :: rest => (.str entry.1, .ofJson entry.2) :: pyEntries rest
end

section Dumps

variable [FloatFormat F]

/-- The text of a constant or a number as a key; `none` is a `ValueError`. -/
def constantKey (value : Json F) : Option PyStr :=
  if value.encodable false then some (value.print.map codePoint) else none

/-- The key that `json.dumps` writes; it has none for other types. -/
def PyValue.keyText : PyValue F → Option PyStr
  | .str text => some text
  | .null => constantKey (.null : Json F)
  | .bool value => constantKey (.bool value : Json F)
  | .int value => constantKey (.int value : Json F)
  | .float value => constantKey (.float value)
  | _ => none

mutual
/-- What `json.dumps` makes of a value; `none` is its `TypeError`. -/
def PyValue.json : PyValue F → Option (Json F)
  | .null => some .null
  | .bool value => some (.bool value)
  | .int value => some (.int value)
  | .float value => some (.float value)
  | .str text => some (.str text)
  | .bytes _ => none
  | .list items => (jsonItems items).map .arr
  | .tuple items => (jsonItems items).map .arr
  | .set _ => none
  | .dict entries => (jsonEntries entries).map .obj

def jsonItems : List (PyValue F) → Option (List (Json F))
  | [] => some []
  | item :: rest =>
      match item.json, jsonItems rest with
      | some value, some values => some (value :: values)
      | _, _ => none

def jsonEntries : List (PyValue F × PyValue F) → Option (List (PyStr × Json F))
  | [] => some []
  | (key, item) :: rest =>
      match key.keyText, item.json, jsonEntries rest with
      | some text, some value, some values => some ((text, value) :: values)
      | _, _, _ => none
end

/-- `json.dumps(result, separators=(",", ":"), allow_nan=False)` -/
def PyValue.dumps (value : PyValue F) : Option (List Char) :=
  match value.json with
  | some json => if json.encodable false then some json.print else none
  | none => none

end Dumps

/-! ### The scan -/

def maxExternalResultBytes : Nat := 1 * 1024 * 1024

def maxCredentialScanDepth : Nat := 32

def maxCredentialScanNodes : Nat := 4096

def maxCredentialScanStringBytes : Nat := 64 * 1024

def maxCredentialDecodePasses : Nat := 2

def scanBudget : ScanBudget := ⟨maxCredentialScanNodes, maxCredentialScanDepth⟩

/-- Where the interpreter's stack ends, which is a `RecursionError`, and what `json.loads`
makes of a string that has surrogates, which the scan never asks. -/
structure Interpreter (F : Type) where
  dumpsOverflows : PyValue F → Bool
  loadsOverflows : PyStr → Bool
  loadsSurrogates : PyStr → Option (Json F)

/-- `for decode_pass in range(MAX_CREDENTIAL_DECODE_PASSES + 1)`: whether a string is
refused, when so many passes are left. -/
def scanPasses (credential : PyStr) : (left : Nat) → PyStr → Bool
  | 0, candidate =>
      if credential <:+: candidate then true else !decide (unquote candidate = candidate)
  | left + 1, candidate =>
      if credential <:+: candidate then true
      else if unquote candidate = candidate then false
      else scanPasses credential left (unquote candidate)

/-- `decoded_json == current` -/
def Json.isText (text : PyStr) : Json F → Bool
  | .str value => value = text
  | _ => false

variable [FloatFormat F] (interpreter : Interpreter F) (credential : List Char)

def visitText (text : PyStr) : Option (List (PyValue F)) :=
  match charsOf text with
  | none => none
  | some chars =>
      if maxCredentialScanStringBytes < (encodeUtf8 chars).length then none
      else if scanPasses (credential.map codePoint) maxCredentialDecodePasses text then none
      else if interpreter.loadsOverflows text then none
      else
        match loads (F := F) chars with
        | .error _ => some []
        | .ok value => if Json.isText text value then some [] else some [.ofJson value]

def visitItems (items : List (PyValue F)) : Option (List (PyValue F)) :=
  if maxCredentialScanNodes < items.length then none else some items

/-- One turn of the loop: what is pushed, or `none` where it returns `True`. -/
def visit : Visit (PyValue F)
  | .str text => visitText interpreter credential text
  | .bytes data =>
      if maxCredentialScanStringBytes < data.length ∨ encodeUtf8 credential <:+: data then none
      else (decodeStrict data).map (fun chars => [.str (chars.map codePoint)])
  | .dict entries =>
      if maxCredentialScanNodes < entries.length then none
      else some (entries.flatMap (fun entry => [entry.1, entry.2]))
  | .list items => visitItems items
  | .tuple items => visitItems items
  | .set items => visitItems items
  | _ => some []

/-- `ExternalMcpBroker._contains_credential` with so many turns of its loop. -/
def containsCredential (turns : Nat) (value : PyValue F) (credential : PyStr) : Option Bool :=
  match charsOf credential with
  | none => some true
  | some chars =>
      if maxCredentialScanStringBytes < (encodeUtf8 chars).length then some true
      else scanFrom scanBudget (visit interpreter chars) turns [(value, 0)] 0

/-- More turns than this the loop does not take. -/
def scanTurns : Nat := maxCredentialScanNodes + 1

/-- `ExternalMcpBroker._bounded_result` and its errors -/
def boundedResult (result : PyValue F) (credential : Option PyStr) : Except String Unit :=
  match (if interpreter.dumpsOverflows result then none else result.dumps), credential with
  | none, _ => .error "external MCP result is invalid"
  | some encoded, credential =>
      if maxExternalResultBytes < encoded.length then
        .error "external MCP result exceeds the allowed size"
      else
        match credential with
        | none => .ok ()
        | some credential =>
            if containsCredential interpreter scanTurns result credential = some false then .ok ()
            else .error "external MCP result contains credential material"

/-! ### What can be derived -/

/-- Mapping keys, mapping values and elements. -/
def PyValue.members : PyValue F → List (PyValue F)
  | .list items => items
  | .tuple items => items
  | .set items => items
  | .dict entries => entries.flatMap (fun entry => [entry.1, entry.2])
  | _ => []

/-- `json.loads` -/
def readJson (text : PyStr) : Option (Json F) :=
  match charsOf text with
  | some chars => (loads chars).toOption
  | none => interpreter.loadsSurrogates text

/-- The values that are reached by descending, by percent-decoding and by parsing strings,
with the depth and whether a string was parsed that percent-decoding had changed. -/
inductive DerivedValue (result : PyValue F) : (depth : Nat) → (late : Bool) → PyValue F → Prop
  | result : DerivedValue result 0 false result
  | member {depth : Nat} {late : Bool} {value item : PyValue F} :
      DerivedValue result depth late value → item ∈ value.members →
      DerivedValue result (depth + 1) late item
  | parsed {depth : Nat} {late : Bool} {text : PyStr} (passes : Nat) {value : Json F} :
      DerivedValue result depth late (.str text) → passes ≤ maxCredentialDecodePasses →
      readJson interpreter (unquote^[passes] text) = some value →
      DerivedValue result (depth + 1) (late || decide (unquote^[passes] text ≠ text))
        (.ofJson value)

/-- A string that can be derived within the depth of the scan. -/
def Derived (result : PyValue F) (late : Bool) (text : PyStr) : Prop :=
  ∃ depth ≤ maxCredentialScanDepth, ∃ raw, DerivedValue interpreter result depth late (.str raw) ∧
    ∃ passes ≤ maxCredentialDecodePasses, unquote^[passes] raw = text

/-- What is refused whatever the strings are that only parsed percent-decoded text gives: a
result that has no JSON text, or one that is too long; a credential that no text is compared
with; and what is reached by descending and by parsing the strings as they stand, when it is
too much or holds what one turn of the loop refuses. -/
def Screened (result : PyValue F) (credential : PyStr) : Prop :=
  interpreter.dumpsOverflows result = true ∨
    (∀ encoded, result.dumps = some encoded → maxExternalResultBytes < encoded.length) ∨
    ∀ chars, charsOf credential = some chars →
      maxCredentialScanStringBytes < (encodeUtf8 chars).length ∨
        scanBudget.Refuses (visit interpreter chars) 0
          (scanBudget.reached (visit interpreter chars) (result, 0))

variable {interpreter}

/-! ### One turn of the loop -/

theorem scanPasses_clean {credential : PyStr} {left : Nat} {candidate : PyStr}
    (clean : scanPasses credential left candidate = false) {passes : Nat} (few : passes ≤ left) :
    ¬credential <:+: unquote^[passes] candidate := by
  induction left generalizing candidate passes with
  | zero =>
      rw [Nat.le_zero.mp few]
      intro inside
      rw [scanPasses, if_pos (by exact inside)] at clean
      cases clean
  | succ left ih =>
      rw [scanPasses] at clean
      by_cases inside : credential <:+: candidate
      · rw [if_pos inside] at clean
        cases clean
      · rw [if_neg inside] at clean
        by_cases stable : unquote candidate = candidate
        · rw [Function.iterate_fixed stable]
          exact inside
        · rw [if_neg stable] at clean
          cases passes with
          | zero => exact inside
          | succ passes =>
              rw [Function.iterate_succ_apply]
              exact ih clean (Nat.le_of_succ_le_succ few)

/-- A string that is not refused holds the credential after none of the passes, and what it
parses to is pushed unless it is the string itself. -/
theorem visitText_some {credential : List Char} {text : PyStr} {items : List (PyValue F)}
    (visited : visitText interpreter credential text = some items) :
    (∀ passes ≤ maxCredentialDecodePasses,
        ¬credential.map codePoint <:+: unquote^[passes] text) ∧
      ∀ value, readJson interpreter text = some value →
        .ofJson value ∈ items ∨ PyValue.ofJson value = .str text := by
  unfold visitText at visited
  unfold readJson
  cases spelled : charsOf text with
  | none =>
      rw [spelled] at visited
      cases visited
  | some chars =>
      rw [spelled] at visited
      simp only at visited ⊢
      split at visited
      · cases visited
      · split at visited
        · cases visited
        · rename_i clean
          split at visited
          · cases visited
          · refine ⟨fun passes few => scanPasses_clean (Bool.eq_false_iff.mpr clean) few, ?_⟩
            intro value read
            cases loaded : loads (F := F) chars with
            | error e =>
                rw [loaded] at read
                cases read
            | ok parsed =>
                rw [loaded] at visited read
                cases read
                simp only at visited
                split at visited
                · rename_i same
                  right
                  cases value with
                  | str found => exact congrArg PyValue.str (of_decide_eq_true same)
                  | _ => cases same
                · left
                  rw [← Option.some.inj visited]
                  exact List.mem_singleton.mpr rfl

/-- What a value holds is pushed. -/
theorem visit_members {credential : List Char} {value : PyValue F} {items : List (PyValue F)}
    (visited : visit interpreter credential value = some items) {item : PyValue F}
    (member : item ∈ value.members) : item ∈ items := by
  have pushed : ∀ {inner : List (PyValue F)}, visitItems inner = some items → item ∈ inner →
      item ∈ items := by
    intro inner kept inside
    unfold visitItems at kept
    split at kept
    · cases kept
    · rw [← Option.some.inj kept]
      exact inside
  cases value with
  | list inner => exact pushed visited member
  | tuple inner => exact pushed visited member
  | set inner => exact pushed visited member
  | dict entries =>
      rw [visit] at visited
      split at visited
      · cases visited
      · rw [← Option.some.inj visited]
        exact member
  | _ => cases member

/-! ### Whole results -/

/-- The scan takes no more turns than it has. -/
theorem containsCredential_terminates (interpreter : Interpreter F) (value : PyValue F)
    (credential : PyStr) :
    ∃ found, containsCredential interpreter scanTurns value credential = some found := by
  unfold containsCredential
  split
  · exact ⟨true, rfl⟩
  · split
    · exact ⟨true, rfl⟩
    · exact ⟨_, scanFrom_eq (Nat.zero_le _) (by decide) _⟩

/-- A result is accepted unless it is screened. -/
theorem boundedResult_ok_iff (interpreter : Interpreter F) (result : PyValue F)
    (credential : PyStr) :
    boundedResult interpreter result (some credential) = .ok () ↔
      ¬Screened interpreter result credential := by
  have scanned : containsCredential interpreter scanTurns result credential = some false ↔
      ¬∀ chars, charsOf credential = some chars →
        maxCredentialScanStringBytes < (encodeUtf8 chars).length ∨
          scanBudget.Refuses (visit interpreter chars) 0
            (scanBudget.reached (visit interpreter chars) (result, 0)) := by
    unfold containsCredential
    cases spelled : charsOf credential with
    | none => simp
    | some chars =>
        simp only [Option.some.injEq, forall_eq']
        by_cases long : maxCredentialScanStringBytes < (encodeUtf8 chars).length
        · simp [long]
        · rw [if_neg long, scanFrom_eq (Nat.zero_le _) (by decide), List.flatMap_singleton]
          simp [long]
  unfold boundedResult Screened
  by_cases deep : interpreter.dumpsOverflows result = true
  · simp [deep]
  · rw [if_neg deep]
    cases encoded : result.dumps with
    | none => simp
    | some text =>
        simp only [Option.some.injEq, forall_eq']
        by_cases long : maxExternalResultBytes < text.length
        · simp [long]
        · rw [if_neg long]
          simp only [deep, long, Bool.false_eq_true, false_or]
          rw [← scanned]
          split
          · rename_i accepted
            exact ⟨fun _ => accepted, fun _ => rfl⟩
          · rename_i refused
            exact ⟨(fun accepted => nomatch accepted), fun accepted => absurd accepted refused⟩

section Sound

variable {result : PyValue F} {credential : List Char}

/-- What is derived without parsing what percent-decoding changed is visited. -/
theorem DerivedValue.visited (accepted : ∀ node ∈ scanBudget.reached
      (visit interpreter credential) (result, 0),
      node.2 ≤ scanBudget.maxDepth ∧ visit interpreter credential node.1 ≠ none)
    {depth : Nat} {late : Bool} {value : PyValue F}
    (derived : DerivedValue interpreter result depth late value) (early : late = false) :
    Relation.ReflTransGen (LeadsTo (visit interpreter credential)) result value := by
  induction derived with
  | result => exact .refl
  | member _ inside ih =>
      have leads := ih early
      obtain ⟨items, visited⟩ := Option.ne_none_iff_exists'.mp (visited_of_accepted accepted leads)
      exact leads.tail ⟨items, visited, visit_members visited inside⟩
  | parsed passes _ _ read ih =>
      obtain ⟨before, unchanged⟩ := Bool.or_eq_false_iff.mp early
      have same := of_not_not (of_decide_eq_false unchanged)
      have leads := ih before
      obtain ⟨items, visited⟩ := Option.ne_none_iff_exists'.mp (visited_of_accepted accepted leads)
      rw [same] at read
      rcases (visitText_some visited).2 _ read with pushed | itself
      · exact leads.tail ⟨items, visited, pushed⟩
      · rw [itself]
        exact leads

/-- An accepted result gives no such string that holds the credential. -/
theorem early_clean {credential : PyStr} (accepted : ¬Screened interpreter result credential)
    {text : PyStr} (derived : Derived interpreter result false text) : ¬credential <:+: text := by
  unfold Screened at accepted
  push Not at accepted
  obtain ⟨_, _, chars, spelled, _, fine⟩ := accepted
  unfold ScanBudget.Refuses at fine
  push Not at fine
  obtain ⟨_, _, raw, value, passes, few, same⟩ := derived
  have leads := value.visited fine.2 rfl
  obtain ⟨items, visited⟩ := Option.ne_none_iff_exists'.mp (visited_of_accepted fine.2 leads)
  rw [← charsOf_some spelled, ← same]
  exact (visitText_some visited).1 passes few

end Sound

/-- The scan ends, and an accepted result gives no string that holds the credential, exactly
when the result is screened or no string holds it that comes from parsing a string which
percent-decoding had changed. -/
theorem credential_scan_exact (interpreter : Interpreter F) (result : PyValue F)
    (credential : PyStr) :
    ((∃ found, containsCredential interpreter scanTurns result credential = some found) ∧
      (boundedResult interpreter result (some credential) = .ok () →
        ∀ late text, Derived interpreter result late text → ¬credential <:+: text)) ↔
      (Screened interpreter result credential ∨
        ∀ text, Derived interpreter result true text → ¬credential <:+: text) := by
  constructor
  · rintro ⟨_, sound⟩
    by_cases screened : Screened interpreter result credential
    · exact Or.inl screened
    · exact Or.inr (sound ((boundedResult_ok_iff _ _ _).mpr screened) true)
  · intro condition
    refine ⟨containsCredential_terminates interpreter result credential, ?_⟩
    intro accepted late text derived
    have unscreened := (boundedResult_ok_iff _ _ _).mp accepted
    cases late with
    | false => exact early_clean unscreened derived
    | true => exact condition.resolve_left unscreened text derived

/-! ### JSON text that is percent-encoded -/

/-- An interpreter whose stack does not end. -/
def roomyInterpreter : Interpreter Empty where
  dumpsOverflows _ := false
  loadsOverflows _ := false
  loadsSurrogates _ := none

/-- `quote(json.dumps('sec"ret'))` -/
def quotedJson : PyValue Empty := .str (pyStr "%22sec%5C%22ret%22")

def quotedSecret : PyStr := pyStr "sec\"ret"

theorem quotedJson_accepted :
    boundedResult roomyInterpreter quotedJson (some quotedSecret) = .ok () := by decide

theorem quotedJson_read : readJson roomyInterpreter (unquote^[1] (pyStr "%22sec%5C%22ret%22")) =
    some (.str quotedSecret) := by rfl

/-- A result is accepted from which two decoders, one after the other, give the credential. -/
theorem credential_scan_misses : ¬∀ (result : PyValue Empty) (credential : PyStr),
    boundedResult roomyInterpreter result (some credential) = .ok () →
      ∀ late text, Derived roomyInterpreter result late text → ¬credential <:+: text := by
  intro sound
  have whole : DerivedValue roomyInterpreter quotedJson 0 false quotedJson := .result
  have derived := DerivedValue.parsed 1 whole (by decide) quotedJson_read
  exact sound quotedJson quotedSecret quotedJson_accepted _ quotedSecret
    ⟨1, by decide, quotedSecret, derived, 0, Nat.zero_le _, rfl⟩ List.infix_rfl

end FolioLattice.External
