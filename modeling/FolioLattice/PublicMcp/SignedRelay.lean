/-
Signed renderer capabilities: what a relay issues, and what it accepts.
-/

import FolioLattice.Auth.Principals
import FolioLattice.Data.Base64Url
import Mathlib.Data.NNRat.Floor

namespace FolioLattice.PublicMcp

open FolioLattice.Text FolioLattice.Data FolioLattice.Auth

def capabilityProtocol : String := "folio-renderer-capability/v1"

def identityRelayTool : PyStr := pyStr "__identity__"

def artifactReadTool : PyStr := pyStr "artifact_read"

def identityRelayDigest : PyStr :=
  (sha256Hex (encodeUtf8 "__identity__".toList)).map codePoint

/-- A relay the constructor accepts.  A time is a float, an exact rational. -/
structure SignedPrincipalRelay where
  audience : PyStr
  secret : String
  ttlSeconds : ℚ≥0
  secret_long : 32 ≤ secret.length
  ttl_pos : 0 < ttlSeconds
  ttl_le : ttlSeconds ≤ 60

def SignedPrincipalRelay.signingKey (relay : SignedPrincipalRelay) : Bytes :=
  hmacSha256 (encodeUtf8 relay.secret.toList) (encodeUtf8 capabilityProtocol.toList)

/-! ### ASCII -/

def isAscii (c : Char) : Bool := c.toNat < 128

def asciiBytes (text : List Char) : Bytes := text.map (fun c => UInt8.ofNat c.toNat)

/-- `str.encode("ascii")`. -/
def encodeAscii (text : List Char) : Option Bytes :=
  if text.all isAscii then some (asciiBytes text) else none

/-- `str.encode("ascii", "ignore")`. -/
def encodeAsciiIgnore (text : List Char) : Bytes := asciiBytes (text.filter isAscii)

/-! ### Issuing -/

section Relay

variable {F : Type} [FloatFormat F]

/-- The tool's arguments digest, or the refusal. -/
def bindingDigest (tool : PyStr) (arguments : Option (List (PyStr × Json F))) :
    Except ValueError PyStr :=
  if tool = identityRelayTool then
    if (arguments.getD []).isEmpty then .ok identityRelayDigest
    else .error ⟨"identity relay cannot carry arguments"⟩
  else if tool = artifactReadTool then capabilityArgumentsDigest (arguments.getD [])
  else .error ⟨"renderer capability only supports artifact_read"⟩

/-- The payload of a capability issued in the second `now`. -/
def SignedPrincipalRelay.payload (relay : SignedPrincipalRelay) (principal : Principal)
    (tool digest jti : PyStr) (now : Nat) : List (PyStr × Json F) :=
  [
    (pyStr "protocol", .str (pyStr capabilityProtocol)),
    (pyStr "v", .int 1),
    (pyStr "aud", .str relay.audience),
    (pyStr "iat", .int now),
    (pyStr "exp", .int (now + ⌊relay.ttlSeconds⌋₊ : Nat)),
    (pyStr "jti", .str jti),
    (pyStr "tenant_id", .str principal.tenantId),
    (pyStr "actor_id", .str principal.actorId),
    (pyStr "issuer", .str principal.issuer),
    (pyStr "subject", .str principal.subject),
    (pyStr "scopes", .arr (principal.scopes.sorted.map .str)),
    (pyStr "tool", .str tool),
    (pyStr "arguments_digest", .str digest)]

/-- `f"{encoded}.{signature}"`. -/
def signedToken (key : Bytes) (raw : List Char) : List Char :=
  let encoded := b64url (encodeUtf8 raw)
  encoded ++ '.' :: b64url (hmacSha256 key (asciiBytes encoded))

/-- `issue` at the clock reading `time`, with the bytes `secrets` draws for the id. -/
def SignedPrincipalRelay.issue (relay : SignedPrincipalRelay) (principal : Principal)
    (tool : PyStr) (arguments : Option (List (PyStr × Json F))) (drawn : Bytes) (time : ℚ≥0) :
    Except ValueError (List Char) := do
  let digest ← bindingDigest tool arguments
  let payload : List (PyStr × Json F) :=
    relay.payload principal tool digest ((b64url drawn).map codePoint) ⌊time⌋₊
  match dumps true (.obj payload) with
  | some raw => .ok (signedToken relay.signingKey raw)
  | none => .error ⟨"Exceeds the limit (4300 digits) for integer string conversion"⟩

/-! ### Accepting -/

structure PrincipalCapability where
  principal : Principal
  binding : CapabilityBinding
  deriving DecidableEq

def maxSegment : Nat := 4096

/-- `_decode`; only the canonical encoding of the bytes passes. -/
def decodeSegment (value : List Char) : Option Bytes :=
  if value.isEmpty ∨ maxSegment < value.length then none
  else if value.all isUrlLetter = false ∨ value.length % 4 = 1 then none
  else
    match b64urldecode value with
    | some decoded => if b64url decoded = value then some decoded else none
    | none => none

def textField (key : String) (payload : List (PyStr × Json F)) : Option PyStr :=
  match lookup (pyStr key) payload with
  | some (.str text) => some text
  | _ => none

/-- `isinstance(value, int)`; a `bool` is an `int`. -/
def intField (key : String) (payload : List (PyStr × Json F)) : Option Int :=
  match lookup (pyStr key) payload with
  | some (.int value) => some value
  | some (.bool value) => some (if value then 1 else 0)
  | _ => none

/-- `value == 1` -/
def isOne : Option (Json F) → Bool
  | some (.int value) => value = 1
  | some (.bool value) => value
  | some (.float (.finite value)) => FloatFormat.repr value = "1.0".toList
  | _ => false

def nonEmptyField (key : String) (payload : List (PyStr × Json F)) : Option PyStr :=
  (textField key payload).filter (fun text => !text.isEmpty)

def strings : List (Json F) → Option (List PyStr)
  | [] => some []
  | .str text :: rest => (strings rest).map (text :: ·)
  | _ => none

def scopesField (payload : List (PyStr × Json F)) : Option Scopes :=
  match lookup (pyStr "scopes") payload with
  | some (.arr items) => (strings items).map Scopes.ofList
  | _ => none

/-- The validity window of the payload in the second `now`. -/
def withinWindow (payload : List (PyStr × Json F)) (now : Nat) : Bool :=
  match intField "iat" payload, intField "exp" payload with
  | some iat, some exp => iat ≤ (now : Int) + 2 && (now : Int) ≤ exp && exp - iat ≤ 60
  | _, _ => false

/-- The checks on a payload whose signature is right. -/
def SignedPrincipalRelay.accept (relay : SignedPrincipalRelay) (payload : List (PyStr × Json F))
    (now : Nat) : Option PrincipalCapability :=
  if textField "protocol" payload = some (pyStr capabilityProtocol) ∧
      isOne (lookup (pyStr "v") payload) = true ∧
      textField "aud" payload = some relay.audience ∧ withinWindow payload now = true then do
    let tenantId ← nonEmptyField "tenant_id" payload
    let actorId ← nonEmptyField "actor_id" payload
    let issuer ← nonEmptyField "issuer" payload
    let subject ← nonEmptyField "subject" payload
    let tool ← nonEmptyField "tool" payload
    let argumentsDigest ← nonEmptyField "arguments_digest" payload
    let _ ← nonEmptyField "jti" payload
    let scopes ← scopesField payload
    if tool ≠ artifactReadTool ∧ tool ≠ identityRelayTool then none
    else if tool = identityRelayTool ∧ argumentsDigest ≠ identityRelayDigest then none
    else some ⟨⟨tenantId, actorId, issuer, subject, scopes⟩, ⟨tool, argumentsDigest⟩⟩
  else none

/-- `encoded, separator, signature = token.partition(".")`. -/
def splitToken (token : List Char) : List Char × List Char :=
  (token.takeWhile (fun c => c ≠ '.'), (token.dropWhile (fun c => c ≠ '.')).tail)

/-- `json.loads` of a segment: a relay signs ASCII text, which is UTF-8. -/
def loadsBytes (F : Type) [FloatFormat F] (raw : Bytes) : Option (Json F) :=
  match decodeStrict raw with
  | none => none
  | some text =>
      match loads text with
      | .ok value => some value
      | .error _ => none

/-- `resolve_capability` after the look at the denylist, `int(time.time())` being `now`. -/
def SignedPrincipalRelay.verify (F : Type) [FloatFormat F] (relay : SignedPrincipalRelay)
    (token : List Char) (now : Nat) : Option PrincipalCapability := do
  let (encoded, signature) := splitToken token
  let signed ← decodeSegment signature
  let message ← encodeAscii encoded
  if signed ≠ hmacSha256 relay.signingKey message then none
  else
    let raw ← decodeSegment encoded
    match loadsBytes F raw with
    | some (.obj payload) => relay.accept payload now
    | _ => none

/-! ### The denylist -/

/-- Sums of times are rounded to floats; order and whole seconds survive. -/
structure Rounding where
  round : ℚ≥0 → ℚ≥0
  monotone : Monotone round
  whole : ∀ n : ℕ, round n = n

def Rounding.exact : Rounding := ⟨id, monotone_id, fun _ => rfl⟩

/-- `_revoked`: digests with the time they are dropped at. -/
abbrev Denylist := List (PyStr × ℚ≥0)

def tokenDigest (token : List Char) : PyStr := (sha256Hex (encodeAsciiIgnore token)).map codePoint

/-- `_purge_revoked_locked` -/
def Denylist.purge (revoked : Denylist) (now : ℚ≥0) : Denylist :=
  revoked.filter (fun e => ¬e.2 ≤ now)

def Denylist.denies (revoked : Denylist) (token : List Char) : Bool :=
  revoked.any (fun e => e.1 = tokenDigest token)

def maxToken : Nat := 4096

/-- `resolve_capability`, reading the clock for the purge and again for the window. -/
def SignedPrincipalRelay.resolveCapability (F : Type) [FloatFormat F]
    (relay : SignedPrincipalRelay) (revoked : Denylist) (token : List Char) (purged now : ℚ≥0) :
    Denylist × Option PrincipalCapability :=
  if maxToken < token.length ∨ token.count '.' ≠ 1 then (revoked, none)
  else
    let revoked := revoked.purge purged
    (revoked, if revoked.denies token then none else relay.verify F token ⌊now⌋₊)

/-- `revoke`, reading the clock for the purge and again for the new entry. -/
def revoke (rounding : Rounding) (revoked : Denylist) (token : List Char) (purged now : ℚ≥0) :
    Denylist :=
  if token.isEmpty ∨ maxToken < token.length then revoked
  else setEntry (tokenDigest token) (rounding.round (now + 60)) (revoked.purge purged)

/-! ### Calls -/

/-- The relay's denylist and the latest clock reading. -/
structure RelayState where
  revoked : Denylist
  clock : ℚ≥0

def RelayState.start : RelayState := ⟨[], 0⟩

/-- A call with its token, the clock reading it rests on and what it returned. -/
inductive RelayCall where
  | issue (issuer : SignedPrincipalRelay) (time : ℚ≥0) (token : List Char)
  | resolve (token : List Char) (result : Option PrincipalCapability)
  | revoke (token : List Char) (time : ℚ≥0)

/-- After a `revoke` of an issued token, `resolve_capability` returns `None` for it. -/
def NeverAgain (past : List (RelayState × RelayCall)) : Prop :=
  ∀ before between after s s₁ s₂ issuer issuedAt token revokedAt result,
    past = before ++ (s₁, .revoke token revokedAt) :: (between ++ (s₂, .resolve token result) :: after) →
    (s, RelayCall.issue issuer issuedAt token) ∈ before → result = none

/-- No token of a relay with a lifetime of 60 seconds is revoked in the second it
was issued in. -/
def RevokedLate (past : List (RelayState × RelayCall)) : Prop :=
  ∀ before after s s₁ issuer issuedAt token revokedAt,
    past = before ++ (s₁, .revoke token revokedAt) :: after →
    (s, RelayCall.issue issuer issuedAt token) ∈ before →
    issuer.ttlSeconds < 60 ∨ (⌊issuedAt⌋₊ + 1 : ℚ≥0) ≤ revokedAt

/-! ### What an issued token decodes to -/

def payloadKeys : List PyStr :=
  ["protocol", "v", "aud", "iat", "exp", "jti", "tenant_id", "actor_id", "issuer", "subject",
    "scopes", "tool", "arguments_digest"].map pyStr

theorem payloadKeys_nodup : payloadKeys.Nodup := by decide

theorem payloadKeys_joined : ∀ key ∈ payloadKeys, joinPairs key = key := by decide

omit [FloatFormat F] in
/-- The payload as its reader finds it. -/
theorem SignedPrincipalRelay.payload_reread (relay : SignedPrincipalRelay) (principal : Principal)
    (tool digest jti : PyStr) (now : Nat) :
    ∃ payload, (Json.obj (F := F) (relay.payload principal tool digest jti now)).sortKeys.reread =
        .obj payload ∧
      ∀ key value, (key, value) ∈ relay.payload (F := F) principal tool digest jti now →
        lookup key payload = some value.sortKeys.reread :=
  reread_sortKeys_mem payloadKeys_nodup payloadKeys_joined

theorem splitToken_segments {encoded signature : List Char}
    (undotted : ∀ c ∈ encoded, c ≠ '.') :
    splitToken (encoded ++ '.' :: signature) = (encoded, signature) := by
  have kept : ∀ c ∈ encoded, decide (c ≠ '.') = true := fun c member =>
    decide_eq_true (undotted c member)
  unfold splitToken
  rw [List.takeWhile_append_of_pos kept, List.dropWhile_append_of_pos kept]
  simp

theorem isUrlLetter_ne_dot {c : Char} (letter : isUrlLetter c = true) : c ≠ '.' := by
  intro same
  subst same
  revert letter
  decide

theorem isUrlLetter_isAscii {c : Char} (letter : isUrlLetter c = true) : isAscii c = true :=
  decide_eq_true (isUrlLetter_lt letter)

theorem b64url_undotted (value : Bytes) : ∀ c ∈ b64url value, c ≠ '.' := fun c member =>
  isUrlLetter_ne_dot (List.all_eq_true.mp (b64url_isUrlLetter value) c member)

/-- A segment that decodes is the encoding of what it decodes to. -/
theorem decodeSegment_some {value : List Char} {decoded : Bytes}
    (found : decodeSegment value = some decoded) : b64url decoded = value := by
  unfold decodeSegment at found
  split at found
  · cases found
  split at found
  · cases found
  split at found
  · split at found
    · rename_i canonical
      cases found
      exact canonical
    · cases found
  · cases found

theorem decodeSegment_b64url {value : Bytes} (filled : value ≠ [])
    (short : (b64url value).length ≤ maxSegment) : decodeSegment (b64url value) = some value := by
  unfold decodeSegment
  rw [if_neg, if_neg, b64urldecode_b64url]
  · exact if_pos rfl
  · rintro (other | whole)
    · rw [b64url_isUrlLetter] at other
      cases other
    · exact b64url_length value whole
  · rintro (nothing | long)
    · exact b64url_ne_nil filled (List.isEmpty_iff.mp nothing)
    · omega

theorem loadsBytes_dumps {value : Json F} {raw : List Char} (dumped : dumps true value = some raw) :
    loadsBytes F (encodeUtf8 raw) = some value.sortKeys.reread := by
  unfold loadsBytes
  rw [decodeStrict_encodeUtf8]
  simp only [loads_dumps dumped]

/-- A token that was signed is accepted only for the payload it was signed with. -/
theorem SignedPrincipalRelay.verify_signed {relay : SignedPrincipalRelay} {value : Json F}
    {raw : List Char} (dumped : dumps true value = some raw) {key : Bytes} {now : Nat}
    {capability : PrincipalCapability}
    (verified : relay.verify F (signedToken key raw) now = some capability) :
    ∃ payload, value.sortKeys.reread = .obj payload ∧ relay.accept payload now = some capability := by
  unfold SignedPrincipalRelay.verify signedToken at verified
  rw [splitToken_segments (b64url_undotted _)] at verified
  simp only [Option.bind_eq_bind, Option.bind_eq_some_iff] at verified
  obtain ⟨signed, _, message, _, verified⟩ := verified
  split at verified
  · cases verified
  · simp only [Option.bind_eq_some_iff] at verified
    obtain ⟨decoded, found, verified⟩ := verified
    rw [b64url_injective (decodeSegment_some found), loadsBytes_dumps dumped] at verified
    split at verified
    · rename_i payload same
      exact ⟨payload, Option.some.inj same, verified⟩
    · cases verified

/-- What a reader finds under the keys of an issued payload. -/
def ReadsPayload (issuer : SignedPrincipalRelay) (principal : Principal) (tool digest jti : PyStr)
    (began : Nat) (payload : List (PyStr × Json F)) : Prop :=
  ∀ key value, (key, value) ∈ issuer.payload (F := F) principal tool digest jti began →
    lookup key payload = some value.sortKeys.reread

section Read

variable {relay issuer : SignedPrincipalRelay} {principal : Principal} {tool digest jti : PyStr}
  {began now : Nat} {payload : List (PyStr × Json F)}

omit [FloatFormat F] in
theorem ReadsPayload.lookup (reads : ReadsPayload issuer principal tool digest jti began payload)
    (i : Nat) {key : PyStr} {value : Json F}
    (found : (issuer.payload (F := F) principal tool digest jti began)[i]? = some (key, value)) :
    Data.lookup key payload = some value.sortKeys.reread :=
  reads key value (List.mem_of_getElem? found)

omit [FloatFormat F] in
theorem ReadsPayload.window (reads : ReadsPayload issuer principal tool digest jti began payload) :
    withinWindow payload now = true ↔ began ≤ now + 2 ∧ now ≤ began + ⌊issuer.ttlSeconds⌋₊ := by
  have bound : ⌊issuer.ttlSeconds⌋₊ ≤ 60 := Nat.floor_le_of_le issuer.ttl_le
  have iat : intField "iat" payload = some (began : Int) := by
    unfold intField
    rw [reads.lookup 3 rfl]
    rfl
  have exp : intField "exp" payload = some ((began + ⌊issuer.ttlSeconds⌋₊ : Nat) : Int) := by
    unfold intField
    rw [reads.lookup 4 rfl]
    rfl
  unfold withinWindow
  simp only [iat, exp, Bool.and_eq_true, decide_eq_true_eq]
  omega

end Read

/-- An issued token signs the payload of its principal and binding. -/
theorem SignedPrincipalRelay.issue_ok {issuer : SignedPrincipalRelay} {principal : Principal}
    {tool : PyStr} {arguments : Option (List (PyStr × Json F))} {drawn : Bytes} {time : ℚ≥0}
    {token : List Char} (issued : issuer.issue principal tool arguments drawn time = .ok token) :
    ∃ digest raw, bindingDigest tool arguments = .ok digest ∧
      dumps true (.obj (issuer.payload (F := F) principal tool digest
        ((b64url drawn).map codePoint) ⌊time⌋₊)) = some raw ∧
      token = signedToken issuer.signingKey raw := by
  unfold SignedPrincipalRelay.issue at issued
  cases bound : bindingDigest tool arguments with
  | error e =>
      rw [bound] at issued
      cases issued
  | ok digest =>
      rw [bound] at issued
      simp only [Bind.bind, Except.bind] at issued
      split at issued
      · rename_i raw dumped
        cases issued
        exact ⟨digest, raw, rfl, dumped, rfl⟩
      · cases issued

/-! ### An issued token is accepted -/

/-- A text the JSON reader gives back: no surrogates that would join. -/
def Plain (text : PyStr) : Prop := text ≠ [] ∧ joinPairs text = text

/-- A principal whose fields all survive the way through a payload. -/
structure PlainPrincipal (principal : Principal) : Prop where
  tenantId : Plain principal.tenantId
  actorId : Plain principal.actorId
  issuer : Plain principal.issuer
  subject : Plain principal.subject
  scopes : ∀ scope ∈ principal.scopes.sorted, joinPairs scope = scope

omit [FloatFormat F] in
theorem strings_map (texts : List PyStr) :
    strings (texts.map (fun text => (.str text : Json F))) = some texts := by
  induction texts with
  | nil => rfl
  | cons text rest ih =>
      rw [List.map_cons, strings, ih]
      rfl

/-- A principal as a payload gives it back: pairs of surrogates are joined. -/
def rereadPrincipal (principal : Principal) : Principal where
  tenantId := joinPairs principal.tenantId
  actorId := joinPairs principal.actorId
  issuer := joinPairs principal.issuer
  subject := joinPairs principal.subject
  scopes := Scopes.ofList (principal.scopes.sorted.map joinPairs)

omit [FloatFormat F] in
theorem rereadPrincipal_of_plain {principal : Principal} (plain : PlainPrincipal principal) :
    rereadPrincipal principal = principal := by
  have scopes : principal.scopes.sorted.map joinPairs = principal.scopes.sorted :=
    (List.map_congr_left (g := id) plain.scopes).trans (List.map_id _)
  unfold rereadPrincipal
  rw [plain.tenantId.2, plain.actorId.2, plain.issuer.2, plain.subject.2, scopes,
    Scopes.ofList_sorted]

omit [FloatFormat F] in
theorem textField_of_lookup {payload : List (PyStr × Json F)} {key : String} {text : PyStr}
    (found : lookup (pyStr key) payload = some (Json.str text).sortKeys.reread) :
    textField key payload = some (joinPairs text) := by
  unfold textField
  rw [found, Json.sortKeys, Json.reread]

omit [FloatFormat F] in
theorem joinPairs_ne_nil {text : PyStr} (filled : text ≠ []) : joinPairs text ≠ [] := by
  match text with
  | [] => exact absurd rfl filled
  | [unit] => exact List.cons_ne_nil _ _
  | high :: low :: rest =>
      rw [joinPairs]
      split
      · exact List.cons_ne_nil _ _
      · exact List.cons_ne_nil _ _

omit [FloatFormat F] in
theorem nonEmptyField_of_lookup {payload : List (PyStr × Json F)} {key : String} {text : PyStr}
    (found : lookup (pyStr key) payload = some (Json.str text).sortKeys.reread)
    (filled : text ≠ []) : nonEmptyField key payload = some (joinPairs text) := by
  unfold nonEmptyField
  rw [textField_of_lookup found]
  apply Option.filter_some_pos
  rw [Bool.not_eq_true', List.isEmpty_eq_false_iff]
  exact joinPairs_ne_nil filled

omit [FloatFormat F] in
theorem nonEmptyField_some {payload : List (PyStr × Json F)} {key : String} {text value : PyStr}
    (found : lookup (pyStr key) payload = some (Json.str text).sortKeys.reread)
    (read : nonEmptyField key payload = some value) : value = joinPairs text := by
  unfold nonEmptyField at read
  rw [textField_of_lookup found] at read
  exact (Option.some.inj (Option.filter_eq_some_iff.mp read).1).symm

theorem identityRelayTool_ne : identityRelayTool ≠ artifactReadTool := by decide

/-- The texts a payload must not lack. -/
structure Filled (principal : Principal) (jti : PyStr) : Prop where
  tenantId : principal.tenantId ≠ []
  actorId : principal.actorId ≠ []
  issuer : principal.issuer ≠ []
  subject : principal.subject ≠ []
  jti : jti ≠ []

omit [FloatFormat F] in
theorem PlainPrincipal.filled {principal : Principal} (plain : PlainPrincipal principal)
    {jti : PyStr} (filled : jti ≠ []) : Filled principal jti where
  tenantId := plain.tenantId.1
  actorId := plain.actorId.1
  issuer := plain.issuer.1
  subject := plain.subject.1
  jti := filled

section Checks

variable {relay issuer : SignedPrincipalRelay} {principal : Principal} {digest jti tool : PyStr}
  {began now : Nat} {payload : List (PyStr × Json F)}

omit [FloatFormat F] in
theorem ReadsPayload.scopes (reads : ReadsPayload issuer principal tool digest jti began payload) :
    scopesField payload = some (rereadPrincipal principal).scopes := by
  have read : (Json.arr (F := F) (principal.scopes.sorted.map .str)).sortKeys.reread =
      .arr ((principal.scopes.sorted.map joinPairs).map .str) := by
    rw [Json.sortKeys, Json.reread, rereadItems_eq, sortItems_eq, List.map_map, List.map_map,
      List.map_map]
    congr 1
  unfold scopesField
  rw [reads.lookup 10 rfl, read]
  simp only [strings_map, Option.map_some]
  rfl

/-- The checks pass on the payload of an issued token, from the second of its issue
to its last. -/
theorem ReadsPayload.accept (audience : joinPairs issuer.audience = relay.audience)
    (filled : Filled principal jti)
    (bound : tool = artifactReadTool ∨ tool = identityRelayTool ∧ digest = identityRelayDigest)
    (digestPlain : Plain digest)
    (reads : ReadsPayload issuer principal tool digest jti began payload)
    (onward : began ≤ now) (good : now ≤ began + ⌊issuer.ttlSeconds⌋₊) :
    relay.accept payload now = some ⟨rereadPrincipal principal, ⟨tool, digest⟩⟩ := by
  have toolPlain : Plain tool := by
    rcases bound with same | ⟨same, _⟩
    · rw [same]
      exact ⟨by decide, by decide⟩
    · rw [same]
      exact ⟨by decide, by decide⟩
  have protocol : textField "protocol" payload = some (pyStr capabilityProtocol) :=
    textField_of_lookup (reads.lookup 0 rfl)
  have one : isOne (Data.lookup (pyStr "v") payload) = true := by
    rw [reads.lookup 1 rfl]
    rfl
  have aud : textField "aud" payload = some relay.audience := by
    rw [← audience]
    exact textField_of_lookup (reads.lookup 2 rfl)
  have window : withinWindow payload now = true := reads.window.mpr ⟨by omega, good⟩
  have known : ¬(tool ≠ artifactReadTool ∧ tool ≠ identityRelayTool) := by
    rintro ⟨notRead, notIdentity⟩
    rcases bound with same | ⟨same, _⟩
    · exact notRead same
    · exact notIdentity same
  have digested : ¬(tool = identityRelayTool ∧ digest ≠ identityRelayDigest) := by
    rintro ⟨isIdentity, other⟩
    rcases bound with same | ⟨_, same⟩
    · exact identityRelayTool_ne (isIdentity.symm.trans same)
    · exact other same
  unfold SignedPrincipalRelay.accept
  rw [if_pos ⟨protocol, one, aud, window⟩,
    nonEmptyField_of_lookup (reads.lookup 6 rfl) filled.tenantId,
    nonEmptyField_of_lookup (reads.lookup 7 rfl) filled.actorId,
    nonEmptyField_of_lookup (reads.lookup 8 rfl) filled.issuer,
    nonEmptyField_of_lookup (reads.lookup 9 rfl) filled.subject,
    nonEmptyField_of_lookup (reads.lookup 11 rfl) toolPlain.1,
    nonEmptyField_of_lookup (reads.lookup 12 rfl) digestPlain.1,
    nonEmptyField_of_lookup (reads.lookup 5 rfl) filled.jti, reads.scopes, toolPlain.2,
    digestPlain.2]
  simp only [Option.bind_eq_bind, Option.bind_some, if_neg known, if_neg digested]
  rfl

/-- What is accepted is what was issued, within its window. -/
theorem ReadsPayload.accepted {capability : PrincipalCapability}
    (reads : ReadsPayload issuer principal tool digest jti began payload)
    (accepted : relay.accept payload now = some capability) :
    joinPairs issuer.audience = relay.audience ∧
      (began ≤ now + 2 ∧ now ≤ began + ⌊issuer.ttlSeconds⌋₊) ∧
      capability = ⟨rereadPrincipal principal, ⟨joinPairs tool, joinPairs digest⟩⟩ := by
  unfold SignedPrincipalRelay.accept at accepted
  split at accepted
  · rename_i checked
    have aud := checked.2.2.1
    rw [textField_of_lookup (reads.lookup 2 rfl)] at aud
    simp only [Option.bind_eq_bind, Option.bind_eq_some_iff] at accepted
    obtain ⟨_, tenantId, _, actorId, _, issuer, _, subject, _, tool, _, digest, _, _, _, scopes,
      accepted⟩ := accepted
    rw [nonEmptyField_some (reads.lookup 6 rfl) tenantId,
      nonEmptyField_some (reads.lookup 7 rfl) actorId, nonEmptyField_some (reads.lookup 8 rfl) issuer,
      nonEmptyField_some (reads.lookup 9 rfl) subject, nonEmptyField_some (reads.lookup 11 rfl) tool,
      nonEmptyField_some (reads.lookup 12 rfl) digest,
      ← Option.some.inj (reads.scopes.symm.trans scopes)] at accepted
    refine ⟨Option.some.inj aud, reads.window.mp checked.2.2.2, ?_⟩
    split at accepted
    · cases accepted
    split at accepted
    · cases accepted
    · exact (Option.some.inj accepted).symm
  · cases accepted

end Checks

/-- A token signed with the relay's key is read as the payload it was signed with. -/
theorem SignedPrincipalRelay.verify_of_accept {relay : SignedPrincipalRelay} {value : Json F}
    {raw : List Char} (dumped : dumps true value = some raw)
    (short : (signedToken relay.signingKey raw).length ≤ maxToken) (filled : raw ≠ [])
    {payload : List (PyStr × Json F)} (same : value.sortKeys.reread = .obj payload) (now : Nat) :
    relay.verify F (signedToken relay.signingKey raw) now = relay.accept payload now := by
  unfold signedToken at short ⊢
  rw [List.length_append, List.length_cons] at short
  unfold maxToken at short
  have encoded : decodeSegment (b64url (encodeUtf8 raw)) = some (encodeUtf8 raw) := by
    apply decodeSegment_b64url
    · intro nothing
      apply filled
      have back := decodeStrict_encodeUtf8 raw
      rw [nothing] at back
      exact (Option.some.inj back).symm
    · unfold maxSegment
      omega
  have signature : decodeSegment (b64url (hmacSha256 relay.signingKey
      (asciiBytes (b64url (encodeUtf8 raw))))) =
      some (hmacSha256 relay.signingKey (asciiBytes (b64url (encodeUtf8 raw)))) := by
    apply decodeSegment_b64url
    · intro nothing
      have size := hmacSha256_length relay.signingKey (asciiBytes (b64url (encodeUtf8 raw)))
      rw [nothing] at size
      cases size
    · unfold maxSegment
      omega
  have ascii : encodeAscii (b64url (encodeUtf8 raw)) = some (asciiBytes (b64url (encodeUtf8 raw))) := by
    unfold encodeAscii
    rw [if_pos]
    apply List.all_eq_true.mpr
    intro c member
    exact isUrlLetter_isAscii (List.all_eq_true.mp (b64url_isUrlLetter _) c member)
  unfold SignedPrincipalRelay.verify
  rw [splitToken_segments (b64url_undotted _)]
  simp only [Option.bind_eq_bind]
  rw [signature, Option.bind_some, ascii, Option.bind_some, if_neg (not_not.mpr rfl), encoded,
    Option.bind_some, loadsBytes_dumps dumped, same]

theorem bindingDigest_identity :
    bindingDigest (F := F) identityRelayTool none = .ok identityRelayDigest := by
  unfold bindingDigest
  rw [if_pos rfl]
  rfl

omit [FloatFormat F] in
theorem sha256Hex_plain (data : Bytes) : Plain ((sha256Hex data).map codePoint) := by
  refine ⟨?_, joinPairs_chars _⟩
  intro nothing
  have size := congrArg List.length nothing
  rw [List.length_map, sha256Hex_length] at size
  cases size

omit [FloatFormat F] in
theorem identityRelayDigest_plain : Plain identityRelayDigest := sha256Hex_plain _

theorem capabilityArgumentsDigest_plain {arguments : List (PyStr × Json F)} {digest : PyStr}
    (digested : capabilityArgumentsDigest arguments = .ok digest) : Plain digest := by
  obtain ⟨encoded, _, same⟩ := capabilityArgumentsDigest_ok digested
  rw [same]
  exact sha256Hex_plain _

/-- A binding that was issued names one of two tools, with a printable digest. -/
theorem bindingDigest_ok {tool digest : PyStr} {arguments : Option (List (PyStr × Json F))}
    (bound : bindingDigest tool arguments = .ok digest) :
    (tool = artifactReadTool ∨ tool = identityRelayTool ∧ digest = identityRelayDigest) ∧
      Plain digest := by
  unfold bindingDigest at bound
  split at bound
  · rename_i isIdentity
    split at bound
    · cases bound
      exact ⟨Or.inr ⟨isIdentity, rfl⟩, identityRelayDigest_plain⟩
    · cases bound
  · split at bound
    · rename_i isRead
      exact ⟨Or.inl isRead, capabilityArgumentsDigest_plain bound⟩
    · cases bound

theorem signedToken_length_le (key : Bytes) (raw : List Char) :
    (signedToken key raw).length ≤ (b64url (encodeUtf8 raw)).length + 129 := by
  have signature := b64url_length_le (hmacSha256 key (asciiBytes (b64url (encodeUtf8 raw))))
  rw [hmacSha256_length] at signature
  unfold signedToken
  rw [List.length_append, List.length_cons]
  omega

theorem signedToken_dots (key : Bytes) (raw : List Char) : (signedToken key raw).count '.' = 1 := by
  have undotted : ∀ value : Bytes, (b64url value).count '.' = 0 := fun value =>
    List.count_eq_zero_of_not_mem (fun member => b64url_undotted value _ member rfl)
  unfold signedToken
  rw [List.count_append, List.count_cons_self, undotted, undotted]

/-- Whoever accepts an issued token accepts it for what it was issued for, and not
after the second `ttl_seconds` after the second of its issue. -/
theorem SignedPrincipalRelay.verify_of_issued {relay issuer : SignedPrincipalRelay}
    {principal : Principal} {tool : PyStr} {arguments : Option (List (PyStr × Json F))}
    {drawn : Bytes} {time : ℚ≥0} {token : List Char}
    (issued : issuer.issue principal tool arguments drawn time = .ok token) {now : Nat}
    {capability : PrincipalCapability} (verified : relay.verify F token now = some capability) :
    ∃ digest, bindingDigest tool arguments = .ok digest ∧
      joinPairs issuer.audience = relay.audience ∧
      (⌊time⌋₊ ≤ now + 2 ∧ now ≤ ⌊time⌋₊ + ⌊issuer.ttlSeconds⌋₊) ∧
      capability = ⟨rereadPrincipal principal, ⟨tool, digest⟩⟩ := by
  obtain ⟨digest, raw, bound, dumped, same⟩ := issue_ok issued
  subst same
  obtain ⟨payload, read, accepted⟩ := verify_signed dumped verified
  obtain ⟨payload', read', reads⟩ := issuer.payload_reread (F := F) principal tool digest
    ((b64url drawn).map codePoint) ⌊time⌋₊
  rw [read'] at read
  cases read
  have reads : ReadsPayload issuer principal tool digest ((b64url drawn).map codePoint) ⌊time⌋₊
      payload := reads
  obtain ⟨audience, window, is⟩ := reads.accepted accepted
  obtain ⟨known, digestPlain⟩ := bindingDigest_ok bound
  have toolPlain : joinPairs tool = tool := by
    rcases known with same | ⟨same, _⟩
    · rw [same]
      decide
    · rw [same]
      decide
  rw [toolPlain, digestPlain.2] at is
  exact ⟨digest, bound, audience, window, is⟩

/-- Whoever shares the secret and the audience accepts an issued token until it expires. -/
theorem SignedPrincipalRelay.verify_issued {relay issuer : SignedPrincipalRelay}
    (secret : issuer.secret = relay.secret) (audience : joinPairs issuer.audience = relay.audience)
    {principal : Principal} {drawn : Bytes}
    (filled : Filled principal ((b64url drawn).map codePoint)) {tool digest : PyStr}
    {arguments : Option (List (PyStr × Json F))} (bound : bindingDigest tool arguments = .ok digest)
    {time : ℚ≥0} {token : List Char}
    (issued : issuer.issue principal tool arguments drawn time = .ok token)
    (short : token.length ≤ maxToken) {now : Nat} (onward : ⌊time⌋₊ ≤ now)
    (good : now ≤ ⌊time⌋₊ + ⌊issuer.ttlSeconds⌋₊) :
    relay.verify F token now = some ⟨rereadPrincipal principal, ⟨tool, digest⟩⟩ := by
  have key : issuer.signingKey = relay.signingKey := by
    unfold SignedPrincipalRelay.signingKey
    rw [secret]
  obtain ⟨digest', raw, bound', dumped, same⟩ := issue_ok issued
  rw [bound] at bound'
  cases bound'
  rw [key] at same
  subst same
  obtain ⟨payload, read, reads⟩ := issuer.payload_reread (F := F) principal tool digest
    ((b64url drawn).map codePoint) ⌊time⌋₊
  have printed : raw ≠ [] := by
    intro nothing
    have back := loads_dumps dumped
    rw [nothing] at back
    cases back
  obtain ⟨known, digestPlain⟩ := bindingDigest_ok bound
  rw [verify_of_accept dumped short printed read now]
  exact ReadsPayload.accept audience filled known digestPlain reads onward good

end Relay

end FolioLattice.PublicMcp
