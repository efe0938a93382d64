/-
Which strings resolve to a capability, when nobody can make a MAC under the signing key
but the relays that issue: each accepted string is an issued token, letter by letter.
-/

import FolioLattice.PublicMcp.Capabilities

namespace FolioLattice.PublicMcp

open FolioLattice.Text FolioLattice.Data FolioLattice.Auth

section Spelling

variable (F : Type) [FloatFormat F]

/-- A call of `issue` that returned a token. -/
structure IssueCall where
  issuer : SignedPrincipalRelay
  principal : Principal
  tool : PyStr
  arguments : Option (List (PyStr × Json F))
  drawn : Bytes
  time : ℚ≥0
  token : List Char
  issued : issuer.issue principal tool arguments drawn time = .ok token

variable {F}

/-- The MAC that the string carries, if it is right, is one that a call of `issue` made
with the relay's secret. -/
def Unforged (relay : SignedPrincipalRelay) (log : List (IssueCall F)) (token : List Char) : Prop :=
  ∀ message, encodeAscii (splitToken token).1 = some message →
    decodeSegment (splitToken token).2 = some (hmacSha256 relay.signingKey message) →
    ∃ call ∈ log, call.issuer.secret = relay.secret ∧
      encodeAscii (splitToken call.token).1 = some message

/-- `resolve_capability` of any `str`.  A surrogate is neither a base 64 letter nor
ASCII, so it is found out by `_decode` or by the encoding before the MAC. -/
def SignedPrincipalRelay.resolveText (F : Type) [FloatFormat F] (relay : SignedPrincipalRelay)
    (revoked : Denylist) (token : PyStr) (purged now : ℚ≥0) :
    Denylist × Option PrincipalCapability :=
  match charsOf token with
  | some chars => relay.resolveCapability F revoked chars purged now
  | none =>
      if maxToken < token.length ∨ token.count (codePoint '.') ≠ 1 then (revoked, none)
      else (revoked.purge purged, none)

/-! ### The codec -/

omit [FloatFormat F] in
theorem splitToken_whole {token : List Char} (dotted : token.count '.' = 1) :
    token = (splitToken token).1 ++ '.' :: (splitToken token).2 := by
  have parts := List.takeWhile_append_dropWhile (p := fun c => decide (c ≠ '.')) (l := token)
  unfold splitToken
  cases after : token.dropWhile (fun c => decide (c ≠ '.')) with
  | nil =>
      -- without a separator there is no dot to count
      have undotted := List.dropWhile_eq_nil_iff.mp after
      have none' : token.count '.' = 0 := List.count_eq_zero_of_not_mem
        (fun member => of_decide_eq_true (undotted _ member) rfl)
      rw [dotted] at none'
      cases none'
  | cons c rest =>
      have head := List.head?_dropWhile_not (fun c => decide (c ≠ '.')) token
      rw [after] at head
      have dot : c = '.' := by simpa using head
      rw [after, dot] at parts
      exact parts.symm

omit [FloatFormat F] in
theorem encodeAscii_some {text : List Char} {message : Bytes}
    (encoded : encodeAscii text = some message) :
    (∀ c ∈ text, c.toNat < 128) ∧ message = asciiBytes text := by
  unfold encodeAscii at encoded
  split at encoded
  · rename_i ascii
    cases encoded
    exact ⟨fun c member => of_decide_eq_true (List.all_eq_true.mp ascii c member), rfl⟩
  · cases encoded

omit [FloatFormat F] in
/-- ASCII text is known from its bytes. -/
theorem encodeAscii_injective {left right : List Char} {message : Bytes}
    (leftEncoded : encodeAscii left = some message)
    (rightEncoded : encodeAscii right = some message) : left = right := by
  obtain ⟨leftSmall, leftBytes⟩ := encodeAscii_some leftEncoded
  obtain ⟨rightSmall, rightBytes⟩ := encodeAscii_some rightEncoded
  rw [leftBytes] at rightBytes
  clear leftEncoded rightEncoded leftBytes
  unfold asciiBytes at rightBytes
  induction left generalizing right with
  | nil => exact (List.map_eq_nil_iff.mp rightBytes.symm).symm
  | cons c rest ih =>
      cases right with
      | nil => cases rightBytes
      | cons d rest' =>
          rw [List.map_cons, List.map_cons] at rightBytes
          obtain ⟨first, later⟩ := List.cons.inj rightBytes
          have code := congrArg UInt8.toNat first
          rw [UInt8.toNat_ofNat', UInt8.toNat_ofNat'] at code
          have smallC := leftSmall c List.mem_cons_self
          have smallD := rightSmall d List.mem_cons_self
          have same : c = d := Char.toNat_inj.mp (by omega)
          rw [same, ih (fun x member => leftSmall x (List.mem_cons_of_mem _ member))
            (fun x member => rightSmall x (List.mem_cons_of_mem _ member)) later]

omit [FloatFormat F] in
theorem decodeSegment_b64urldecode {value : List Char} {decoded : Bytes}
    (found : decodeSegment value = some decoded) : b64urldecode value = some decoded := by
  rw [← decodeSegment_some found]
  exact b64urldecode_b64url decoded

/-- What the checks of an accepted string have found. -/
theorem SignedPrincipalRelay.verify_some {relay : SignedPrincipalRelay} {token : List Char}
    {now : Nat} {capability : PrincipalCapability}
    (verified : relay.verify F token now = some capability) :
    ∃ message raw payload, encodeAscii (splitToken token).1 = some message ∧
      decodeSegment (splitToken token).2 = some (hmacSha256 relay.signingKey message) ∧
      decodeSegment (splitToken token).1 = some raw ∧ loadsBytes F raw = some (.obj payload) ∧
      relay.accept payload now = some capability := by
  unfold SignedPrincipalRelay.verify at verified
  simp only [Option.bind_eq_bind, Option.bind_eq_some_iff] at verified
  obtain ⟨signed, signature, message, ascii, verified⟩ := verified
  split at verified
  · cases verified
  · rename_i right
    rw [ne_eq, not_not] at right
    rw [right] at signature
    simp only [Option.bind_eq_some_iff] at verified
    obtain ⟨raw, decoded, verified⟩ := verified
    split at verified
    · rename_i payload loaded
      exact ⟨message, raw, payload, ascii, signature, decoded, loaded, verified⟩
    · cases verified

omit [FloatFormat F] in
/-- A string with one dot is known from its first part and the MAC of that. -/
theorem token_of_message {token token' : List Char} {message signed : Bytes}
    (dotted : token.count '.' = 1) (dotted' : token'.count '.' = 1)
    (ascii : encodeAscii (splitToken token).1 = some message)
    (ascii' : encodeAscii (splitToken token').1 = some message)
    (signature : decodeSegment (splitToken token).2 = some signed)
    (signature' : decodeSegment (splitToken token').2 = some signed) : token = token' := by
  rw [splitToken_whole dotted, splitToken_whole dotted', encodeAscii_injective ascii ascii',
    ← decodeSegment_some signature, ← decodeSegment_some signature']

omit [FloatFormat F] in
theorem splitToken_signedToken (key : Bytes) (raw : List Char) :
    splitToken (signedToken key raw) =
      (b64url (encodeUtf8 raw), b64url (hmacSha256 key (asciiBytes (b64url (encodeUtf8 raw))))) := by
  unfold signedToken
  exact splitToken_segments (b64url_undotted _)

/-! ### Accepted strings -/

theorem SignedPrincipalRelay.resolveCapability_some {relay : SignedPrincipalRelay}
    {revoked : Denylist} {token : List Char} {purged now : ℚ≥0} {capability : PrincipalCapability}
    (resolved : (relay.resolveCapability F revoked token purged now).2 = some capability) :
    token.length ≤ maxToken ∧ token.count '.' = 1 ∧
      relay.verify F token ⌊now⌋₊ = some capability := by
  unfold SignedPrincipalRelay.resolveCapability at resolved
  split at resolved
  · cases resolved
  · rename_i looked
    rw [not_or, not_not] at looked
    refine ⟨Nat.le_of_not_lt looked.1, looked.2, ?_⟩
    dsimp only at resolved
    split at resolved
    · cases resolved
    · exact resolved

theorem SignedPrincipalRelay.resolveText_some {relay : SignedPrincipalRelay}
    {revoked : Denylist} {token : PyStr} {purged now : ℚ≥0} {capability : PrincipalCapability}
    (resolved : (relay.resolveText F revoked token purged now).2 = some capability) :
    ∃ chars, token = chars.map codePoint ∧
      (relay.resolveCapability F revoked chars purged now).2 = some capability := by
  unfold SignedPrincipalRelay.resolveText at resolved
  split at resolved
  · rename_i chars found
    exact ⟨chars, (charsOf_some found).symm, resolved⟩
  · split at resolved
    · cases resolved
    · cases resolved

/-- An accepted string is the token of a logged call, and says what that call was given. -/
theorem Unforged.issued {relay : SignedPrincipalRelay} {log : List (IssueCall F)}
    {token : List Char} {now : Nat} {capability : PrincipalCapability}
    (unforged : Unforged relay log token) (dotted : token.count '.' = 1)
    (verified : relay.verify F token now = some capability) :
    ∃ call ∈ log, ∃ digest, call.issuer.secret = relay.secret ∧
      bindingDigest call.tool call.arguments = .ok digest ∧ token = call.token ∧
      joinPairs call.issuer.audience = relay.audience ∧
      (⌊call.time⌋₊ ≤ now + 2 ∧ now ≤ ⌊call.time⌋₊ + ⌊call.issuer.ttlSeconds⌋₊) ∧
      capability = ⟨rereadPrincipal call.principal, ⟨call.tool, digest⟩⟩ := by
  obtain ⟨message, _, _, ascii, signature, _⟩ := SignedPrincipalRelay.verify_some verified
  obtain ⟨call, logged, secret, signed⟩ := unforged message ascii signature
  obtain ⟨_, text, _, _, made⟩ := SignedPrincipalRelay.issue_ok call.issued
  have key : call.issuer.signingKey = relay.signingKey := by
    unfold SignedPrincipalRelay.signingKey
    rw [secret]
  have parts := splitToken_signedToken call.issuer.signingKey text
  rw [← made, key] at parts
  have first : (splitToken token).1 = b64url (encodeUtf8 text) := by
    rw [encodeAscii_injective ascii signed, parts]
  -- the whole token follows from its first part
  have same : token = call.token := by
    rw [first] at ascii
    have bytes := (encodeAscii_some ascii).2
    rw [splitToken_whole dotted, splitToken_whole (SignedPrincipalRelay.issued_dots call.issued),
      first, ← decodeSegment_some signature, parts, bytes]
  subst same
  obtain ⟨digest, bound, audience, window, is⟩ :=
    SignedPrincipalRelay.verify_of_issued call.issued verified
  exact ⟨call, logged, digest, secret, bound, rfl, audience, window, is⟩

/-- A string resolves only if it is, letter by letter, the token of a logged call under
the secret.  The texts of the capability are those the call was given as JSON reads
them.  No other string with that payload resolves, and whoever revokes the call's
token denies the accepted string. -/
theorem accepted_is_issued {relay : SignedPrincipalRelay} {log : List (IssueCall F)}
    {revoked : Denylist} {token : PyStr} {purged now : ℚ≥0} {capability : PrincipalCapability}
    (unforged : ∀ chars, charsOf token = some chars → Unforged relay log chars)
    (resolved : (relay.resolveText F revoked token purged now).2 = some capability) :
    ∃ call ∈ log, ∃ digest, token = call.token.map codePoint ∧
      call.issuer.secret = relay.secret ∧ joinPairs call.issuer.audience = relay.audience ∧
      ⌊call.time⌋₊ ≤ ⌊now⌋₊ + 2 ∧ ⌊now⌋₊ ≤ ⌊call.time⌋₊ + ⌊call.issuer.ttlSeconds⌋₊ ∧
      ⌊call.issuer.ttlSeconds⌋₊ ≤ 60 ∧
      bindingDigest call.tool call.arguments = .ok digest ∧
      capability = ⟨rereadPrincipal call.principal, ⟨call.tool, digest⟩⟩ ∧
      (PlainPrincipal call.principal → capability.principal = call.principal) ∧
      (∀ revoked' other purged' now' capability',
        (relay.resolveText F revoked' (other.map codePoint) purged' now').2 = some capability' →
        b64urldecode (splitToken other).1 = b64urldecode (splitToken call.token).1 →
        other.map codePoint = token) ∧
      ∀ rounding revoked' purged' now',
        (revoke rounding revoked' call.token purged' now').denies call.token = true := by
  obtain ⟨chars, whole, found⟩ := SignedPrincipalRelay.resolveText_some resolved
  obtain ⟨short, dotted, verified⟩ := SignedPrincipalRelay.resolveCapability_some found
  have isChars : charsOf token = some chars := by
    rw [whole]
    exact charsOf_chars chars
  obtain ⟨call, logged, digest, secret, bound, same, audience, ⟨early, late⟩, is⟩ :=
    (unforged chars isChars).issued dotted verified
  subst same
  refine ⟨call, logged, digest, whole, secret, audience, early, late,
    Nat.floor_le_of_le call.issuer.ttl_le, bound, is, ?_, ?_, ?_⟩
  · intro plain
    rw [is]
    exact rereadPrincipal_of_plain plain
  · intro revoked' other purged' now' capability' resolved' spelled
    obtain ⟨chars', whole', found'⟩ := SignedPrincipalRelay.resolveText_some resolved'
    have isOther : charsOf (other.map codePoint) = some chars' := by
      rw [whole']
      exact charsOf_chars chars'
    rw [charsOf_chars] at isOther
    cases isOther
    obtain ⟨_, dotted', verified'⟩ := SignedPrincipalRelay.resolveCapability_some found'
    obtain ⟨message, raw, _, ascii, signature, decoded, _⟩ :=
      SignedPrincipalRelay.verify_some verified
    obtain ⟨message', raw', _, ascii', signature', decoded', _⟩ :=
      SignedPrincipalRelay.verify_some verified'
    rw [decodeSegment_b64urldecode decoded, decodeSegment_b64urldecode decoded'] at spelled
    cases spelled
    have first : (splitToken other).1 = (splitToken call.token).1 :=
      (decodeSegment_some decoded').symm.trans (decodeSegment_some decoded)
    rw [first] at ascii'
    cases ascii.symm.trans ascii'
    rw [whole]
    congr 1
    refine token_of_message dotted' dotted ?_ ascii signature' signature
    rw [first]
    exact ascii
  · intro rounding revoked' purged' now'
    have filled : call.token ≠ [] := by
      intro nothing
      rw [nothing] at dotted
      cases dotted
    have looked : ¬(call.token.isEmpty ∨ maxToken < call.token.length) := by
      rintro (nothing | long)
      · exact filled (List.isEmpty_iff.mp nothing)
      · exact absurd short (Nat.not_le_of_lt long)
    unfold revoke
    rw [if_neg looked]
    exact List.any_eq_true.mpr ⟨_, mem_setEntry_self _ _ _, decide_eq_true rfl⟩

end Spelling

/-! ### A token, and one with a pair of surrogates -/

def minuteCall : IssueCall Empty where
  issuer := minuteRelay
  principal := exampleReader
  tool := identityRelayTool
  arguments := none
  drawn := [0]
  time := 100
  token := exampleToken minuteRelay
  issued := minuteToken_issued

theorem Unforged.of_logged {F : Type} [FloatFormat F] {log : List (IssueCall F)}
    {call : IssueCall F} (logged : call ∈ log) : Unforged call.issuer log call.token :=
  fun _ ascii _ => ⟨call, logged, rfl, ascii⟩

theorem resolveText_chars {F : Type} [FloatFormat F] (relay : SignedPrincipalRelay)
    (revoked : Denylist) (chars : List Char) (purged now : ℚ≥0) :
    relay.resolveText F revoked (chars.map codePoint) purged now =
      relay.resolveCapability F revoked chars purged now := by
  unfold SignedPrincipalRelay.resolveText
  rw [charsOf_chars]

theorem call_unforged {F : Type} [FloatFormat F] (call : IssueCall F) :
    ∀ chars, charsOf (call.token.map codePoint) = some chars →
      Unforged call.issuer [call] chars := by
  intro chars found
  rw [charsOf_chars] at found
  cases found
  exact Unforged.of_logged List.mem_cons_self

theorem minuteCall_resolves :
    (minuteRelay.resolveText Empty [] (minuteCall.token.map codePoint) 100 100).2 =
      some ⟨rereadPrincipal exampleReader, ⟨identityRelayTool, identityRelayDigest⟩⟩ := by
  rw [resolveText_chars]
  exact SignedPrincipalRelay.resolve_issued rfl (by decide)
    (exampleReader_plain.filled (by decide)) bindingDigest_identity minuteToken_issued
    minuteToken_short rfl _ (le_refl _) (Nat.le_add_right _ _)

theorem accepted_is_issued_minute :
    ∃ call ∈ [minuteCall], minuteCall.token.map codePoint = call.token.map codePoint := by
  obtain ⟨call, logged, _, same, _⟩ :=
    accepted_is_issued (call_unforged minuteCall) minuteCall_resolves
  exact ⟨call, logged, same⟩

/-- A reader whose tenant is written with two surrogates. -/
def pairReader : Principal := { exampleReader with tenantId := [0xd83d, 0xde00] }

def pairRaw : List Char :=
  (Json.obj (minuteRelay.payload (F := Empty) pairReader identityRelayTool
    identityRelayDigest ((b64url [0]).map codePoint) 100)).sortKeys.print

theorem pairRaw_short : (encodeUtf8 pairRaw).length ≤ 900 := by decide +kernel

theorem pairToken_issued :
    minuteRelay.issue (F := Empty) pairReader identityRelayTool none [0] 100 =
      .ok (signedToken minuteRelay.signingKey pairRaw) := by
  have second : ⌊(100 : ℚ≥0)⌋₊ = 100 := Nat.floor_natCast 100
  have life : ⌊minuteRelay.ttlSeconds⌋₊ = 60 := Nat.floor_natCast 60
  have encodable := payload_encodable (F := Empty) minuteRelay pairReader identityRelayTool
    identityRelayDigest ((b64url [0]).map codePoint) 100 (by decide)
    (by rw [life]; decide)
  unfold SignedPrincipalRelay.issue dumps
  rw [bindingDigest_identity]
  simp only [Bind.bind, Except.bind, second, encodable, if_true]
  rfl

def pairCall : IssueCall Empty where
  issuer := minuteRelay
  principal := pairReader
  tool := identityRelayTool
  arguments := none
  drawn := [0]
  time := 100
  token := signedToken minuteRelay.signingKey pairRaw
  issued := pairToken_issued

theorem pairCall_resolves :
    (minuteRelay.resolveText Empty [] (pairCall.token.map codePoint) 100 100).2 =
      some ⟨rereadPrincipal pairReader, ⟨identityRelayTool, identityRelayDigest⟩⟩ := by
  have short : pairCall.token.length ≤ maxToken := by
    have encoded := b64url_length_le (encodeUtf8 pairRaw)
    have token := signedToken_length_le minuteRelay.signingKey pairRaw
    have raw := pairRaw_short
    change (signedToken minuteRelay.signingKey pairRaw).length ≤ 4096
    omega
  have filled : Filled pairReader ((b64url [0]).map codePoint) :=
    ⟨by decide, by decide, by decide, by decide, by decide⟩
  rw [resolveText_chars]
  exact SignedPrincipalRelay.resolve_issued rfl (by decide) filled bindingDigest_identity
    pairToken_issued short rfl _ (le_refl _) (Nat.le_add_right _ _)

/-- The tenant comes back as one code point. -/
theorem accepted_not_as_given :
    ¬∀ (relay : SignedPrincipalRelay) (log : List (IssueCall Empty)) (revoked : Denylist)
        (token : PyStr) (purged now : ℚ≥0) (capability : PrincipalCapability),
      (∀ chars, charsOf token = some chars → Unforged relay log chars) →
      (relay.resolveText Empty revoked token purged now).2 = some capability →
      ∃ call ∈ log, ∃ digest, token = call.token.map codePoint ∧
        call.issuer.secret = relay.secret ∧ call.issuer.audience = relay.audience ∧
        ⌊call.time⌋₊ ≤ ⌊now⌋₊ + 2 ∧ ⌊now⌋₊ ≤ ⌊call.time⌋₊ + ⌊call.issuer.ttlSeconds⌋₊ ∧
        ⌊call.issuer.ttlSeconds⌋₊ ≤ 60 ∧
        bindingDigest call.tool call.arguments = .ok digest ∧
        capability = ⟨call.principal, ⟨call.tool, digest⟩⟩ := by
  intro always
  obtain ⟨call, logged, _, _, _, _, _, _, _, _, same⟩ :=
    always minuteRelay [pairCall] [] (pairCall.token.map codePoint) 100 100 _
      (call_unforged pairCall) pairCall_resolves
  cases List.mem_singleton.mp logged
  have tenant : [joinPair 0xd83d 0xde00] = pairReader.tenantId :=
    congrArg (fun capability => capability.principal.tenantId) same
  revert tenant
  decide

end FolioLattice.PublicMcp
