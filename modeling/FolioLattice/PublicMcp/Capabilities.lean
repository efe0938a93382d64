/-
Capabilities from end to end: what a capability resolves to that was issued for an
identity of the membership table, and which strings resolve at all.
-/

import FolioLattice.Auth.Memberships
import FolioLattice.PublicMcp.Revocation

namespace FolioLattice.PublicMcp

open FolioLattice.Text FolioLattice.Data FolioLattice.Auth
open FolioLattice.Effects (except_bind_ok)

/-! ### Identities of the table -/

section Identities

variable (F : Type) [FloatFormat F]

/-- `MembershipStore.add` accepts the identity into some table.  A text is bound as
UTF-8, so it holds no surrogates. -/
def Admitted (principal : Principal) : Prop :=
  (∃ table status scopes table',
    MembershipTable.add F table principal.issuer principal.subject principal.tenantId
        principal.actorId status scopes = .ok table' ∧
      Scopes.ofList scopes = principal.scopes) ∧
    ∀ text ∈ [principal.issuer, principal.subject, principal.tenantId, principal.actorId],
      charsOf text ≠ none

variable {F}

omit [FloatFormat F] in
theorem requiredText_filled {field : String} {value checked : PyStr}
    (required : requiredText field value = .ok checked) : value ≠ [] := by
  unfold requiredText at required
  split at required
  · cases required
  · rename_i fine
    intro nothing
    exact fine (Or.inl (List.isEmpty_iff.mpr nothing))

/-- What `add` checks before it inserts. -/
theorem add_checked {table table' : MembershipTable} {issuer subject tenantId actorId : PyStr}
    {status : MembershipStatus} {scopes : List PyStr}
    (added : table.add F issuer subject tenantId actorId status scopes = .ok table') :
    issuer ≠ [] ∧ subject ≠ [] ∧ tenantId ≠ [] ∧ actorId ≠ [] ∧
      (Scopes.ofList scopes).Valid := by
  unfold MembershipTable.add at added
  obtain ⟨_, issuerFine, added⟩ := except_bind_ok added
  obtain ⟨_, subjectFine, added⟩ := except_bind_ok added
  obtain ⟨_, tenantFine, added⟩ := except_bind_ok added
  obtain ⟨_, actorFine, added⟩ := except_bind_ok added
  obtain ⟨checked, scopesFine, _⟩ := except_bind_ok added
  have valid := serverScopes_valid scopesFine
  unfold serverScopes at scopesFine
  split at scopesFine
  · cases scopesFine
  · cases scopesFine
    exact ⟨requiredText_filled issuerFine, requiredText_filled subjectFine,
      requiredText_filled tenantFine, requiredText_filled actorFine, valid⟩

theorem plain_of_bound {text : PyStr} (filled : text ≠ []) (bound : charsOf text ≠ none) :
    Plain text := by
  obtain ⟨chars, found⟩ := Option.ne_none_iff_exists'.mp bound
  exact ⟨filled, joinPairs_charsOf found⟩

/-- An identity of the table survives the way through a payload. -/
theorem Admitted.plain {principal : Principal} (admitted : Admitted F principal) :
    PlainPrincipal principal := by
  obtain ⟨⟨table, status, scopes, table', added, same⟩, bound⟩ := admitted
  obtain ⟨issuer, subject, tenantId, actorId, valid⟩ := add_checked added
  rw [same] at valid
  exact
    { issuer := plain_of_bound issuer (bound _ (by simp))
      subject := plain_of_bound subject (bound _ (by simp))
      tenantId := plain_of_bound tenantId (bound _ (by simp))
      actorId := plain_of_bound actorId (bound _ (by simp))
      scopes := fun scope member => isScope_plain (List.all_eq_true.mp valid scope member) }

end Identities

/-! ### What is issued resolves -/

section Resolving

variable {F : Type} [FloatFormat F]

theorem SignedPrincipalRelay.issued_dots {issuer : SignedPrincipalRelay} {principal : Principal}
    {tool : PyStr} {arguments : Option (List (PyStr × Json F))} {drawn : Bytes} {time : ℚ≥0}
    {token : List Char} (issued : issuer.issue principal tool arguments drawn time = .ok token) :
    token.count '.' = 1 := by
  obtain ⟨_, raw, _, _, same⟩ := issue_ok issued
  rw [same]
  exact signedToken_dots _ raw

theorem Denylist.denies_purge {revoked : Denylist} {token : List Char} {now : ℚ≥0}
    (open' : revoked.denies token = false) : (revoked.purge now).denies token = false := by
  unfold Denylist.denies Denylist.purge at *
  rw [List.any_eq_false] at open' ⊢
  exact fun entry member => open' entry (List.mem_filter.mp member).1

/-- Within its lifetime an issued token that is not too long and not denied resolves to
what JSON makes of its principal. -/
theorem SignedPrincipalRelay.resolve_issued {relay issuer : SignedPrincipalRelay}
    (secret : issuer.secret = relay.secret) (audience : joinPairs issuer.audience = relay.audience)
    {principal : Principal} {drawn : Bytes}
    (filled : Filled principal ((b64url drawn).map codePoint)) {tool digest : PyStr}
    {arguments : Option (List (PyStr × Json F))} (bound : bindingDigest tool arguments = .ok digest)
    {time : ℚ≥0} {token : List Char}
    (issued : issuer.issue principal tool arguments drawn time = .ok token)
    (short : token.length ≤ maxToken) {revoked : Denylist}
    (unrevoked : revoked.denies token = false) (purged : ℚ≥0) {now : ℚ≥0} (onward : ⌊time⌋₊ ≤ ⌊now⌋₊)
    (good : ⌊now⌋₊ ≤ ⌊time⌋₊ + ⌊issuer.ttlSeconds⌋₊) :
    (relay.resolveCapability F revoked token purged now).2 =
      some ⟨rereadPrincipal principal, ⟨tool, digest⟩⟩ := by
  have looked : ¬(maxToken < token.length ∨ token.count '.' ≠ 1) := by
    rintro (long | dotted)
    · exact absurd short (Nat.not_le_of_lt long)
    · exact dotted (issued_dots issued)
  unfold SignedPrincipalRelay.resolveCapability
  rw [if_neg looked]
  simp only [Denylist.denies_purge unrevoked, Bool.false_eq_true, if_false]
  exact verify_issued secret audience filled bound issued short onward good

/-- A capability that was issued for an identity of the table is resolved within the
same second to that identity and its binding, if the token is not too long. -/
theorem issued_resolves {relay issuer : SignedPrincipalRelay}
    (secret : issuer.secret = relay.secret) (audience : issuer.audience = relay.audience)
    (text : joinPairs relay.audience = relay.audience) {principal : Principal}
    (admitted : Admitted F principal) {tool : PyStr} {arguments : Option (List (PyStr × Json F))}
    {drawn : Bytes} (drew : drawn ≠ []) {time : ℚ≥0} {token : List Char}
    (issued : issuer.issue principal tool arguments drawn time = .ok token)
    (short : token.length ≤ maxToken) {revoked : Denylist}
    (unrevoked : revoked.denies token = false) {purged now : ℚ≥0} (second : ⌊now⌋₊ = ⌊time⌋₊) :
    ∃ digest, bindingDigest tool arguments = .ok digest ∧
      (relay.resolveCapability F revoked token purged now).2 =
        some ⟨principal, ⟨tool, digest⟩⟩ := by
  obtain ⟨digest, _, bound, _⟩ := SignedPrincipalRelay.issue_ok issued
  refine ⟨digest, bound, ?_⟩
  have plain := admitted.plain
  have drawnText : (b64url drawn).map codePoint ≠ [] := by
    simpa using b64url_ne_nil drew
  have resolved := SignedPrincipalRelay.resolve_issued secret (by rw [audience]; exact text)
    (plain.filled drawnText) bound issued short unrevoked purged
    (Nat.le_of_eq second.symm) (Nat.le_add_right_of_le (Nat.le_of_eq second))
  rw [rereadPrincipal_of_plain plain] at resolved
  exact resolved

/-! ### Tokens that are too long -/

omit [FloatFormat F] in
theorem encodeUtf8_length_ge (text : List Char) : text.length ≤ (encodeUtf8 text).length := by
  unfold encodeUtf8
  induction text with
  | nil => exact Nat.le_refl 0
  | cons c rest ih =>
      have first := List.length_pos_of_ne_nil (String.utf8EncodeChar_ne_nil (c := c))
      rw [List.flatMap_cons, List.length_append, List.length_cons]
      omega

omit [FloatFormat F] in
theorem signedToken_length_ge (key : Bytes) (raw : List Char) :
    raw.length ≤ (signedToken key raw).length := by
  have bytes := encodeUtf8_length_ge raw
  have encoded := b64url_length_ge (encodeUtf8 raw)
  unfold signedToken
  rw [List.length_append, List.length_cons]
  omega

omit [FloatFormat F] in
theorem payload_encodable (issuer : SignedPrincipalRelay) (principal : Principal)
    (tool digest jti : PyStr) (now : Nat) (issuedAt : intEncodable now = true)
    (expires : intEncodable (now + ⌊issuer.ttlSeconds⌋₊ : Nat) = true) :
    (Json.obj (issuer.payload (F := F) principal tool digest jti now)).encodable true = true := by
  have one : intEncodable 1 = true := by decide
  have scopes := encodable_strings (F := F) principal.scopes.sorted
  unfold SignedPrincipalRelay.payload
  rw [Json.encodable, encodableEntries_iff]
  intro entry member
  simp only [List.mem_cons, List.not_mem_nil, or_false] at member
  rcases member with same | same | same | same | same | same | same | same | same | same | same |
    same | same
  all_goals rw [same]
  all_goals first | rfl | exact one | exact issuedAt | exact expires | exact scopes

/-- A tenant that is longer than a token may be cannot be relayed. -/
theorem issue_too_long {issuer : SignedPrincipalRelay} {principal : Principal}
    (long : maxToken < principal.tenantId.length) {tool : PyStr}
    {arguments : Option (List (PyStr × Json F))} {drawn : Bytes} {time : ℚ≥0} {token : List Char}
    (issued : issuer.issue principal tool arguments drawn time = .ok token) :
    maxToken < token.length := by
  obtain ⟨digest, raw, _, dumped, same⟩ := SignedPrincipalRelay.issue_ok issued
  unfold dumps at dumped
  split at dumped
  · cases dumped
    have member : (pyStr "tenant_id", Json.str principal.tenantId) ∈
        issuer.payload (F := F) principal tool digest ((b64url drawn).map codePoint) ⌊time⌋₊ :=
      List.mem_of_getElem? (i := 6) rfl
    calc maxToken
        < principal.tenantId.length := long
      _ ≤ (printString principal.tenantId).length := printString_length_ge _
      _ ≤ _ := print_obj_length_ge member
      _ ≤ token.length := by
        rw [same]
        exact signedToken_length_ge _ _
  · cases dumped

end Resolving

/-- A reader whose tenant has a name of 4097 letters. -/
def longReader : Principal :=
  { exampleReader with tenantId := List.replicate 4097 (codePoint 'a') }

theorem requiredText_visible {field : String} {value : PyStr} (filled : value ≠ [])
    (visible : ∀ c ∈ value, isSpacePy c = false) : requiredText field value = .ok value := by
  have kept : stripPy value = value := by
    have head : value.dropWhile isSpacePy = value := by
      apply List.dropWhile_eq_self_iff.mpr
      intro some
      rw [visible _ (List.getElem_mem some)]
      exact Bool.false_ne_true
    unfold stripPy
    rw [head]
    apply List.rdropWhile_eq_self_iff.mpr
    intro some
    rw [visible _ (List.getLast_mem some)]
    exact Bool.false_ne_true
  unfold requiredText
  rw [kept, if_neg]
  rintro (nothing | nothing | other)
  · exact filled (List.isEmpty_iff.mp nothing)
  · exact filled (List.isEmpty_iff.mp nothing)
  · exact other rfl

/-- A scopeless reader of the example, under some tenant. -/
theorem exampleReader_added (tenantId : PyStr)
    (required : requiredText "tenant_id" tenantId = .ok tenantId) :
    MembershipTable.add Empty [] exampleReader.issuer exampleReader.subject tenantId
        exampleReader.actorId .active [] =
      .ok [⟨exampleReader.issuer, exampleReader.subject, tenantId, exampleReader.actorId, .active,
        scopesText Scopes.empty⟩] := by
  have issuer : requiredText "issuer" exampleReader.issuer = .ok exampleReader.issuer := by decide
  have subject : requiredText "subject" exampleReader.subject = .ok exampleReader.subject := by
    decide
  have actorId : requiredText "actor_id" exampleReader.actorId = .ok exampleReader.actorId := by
    decide
  have scopes : serverScopes [] = .ok Scopes.empty := by decide
  unfold MembershipTable.add
  rw [issuer, subject, required, actorId, scopes]
  rfl

theorem exampleReader_admitted {tenantId : PyStr} (chars : List Char)
    (required : requiredText "tenant_id" tenantId = .ok tenantId)
    (text : chars.map codePoint = tenantId) :
    Admitted Empty { exampleReader with tenantId := tenantId } := by
  have none' : Scopes.ofList [] = exampleReader.scopes := by decide
  have bound (chars : List Char) : charsOf (chars.map codePoint) ≠ none := by
    rw [charsOf_chars]
    exact Option.some_ne_none chars
  constructor
  · exact ⟨_, _, _, _, exampleReader_added tenantId required, none'⟩
  · intro text' member
    simp only [List.mem_cons, List.not_mem_nil, or_false] at member
    rcases member with same | same | same | same
    · rw [same]
      exact bound _
    · rw [same]
      exact bound _
    · rw [same, ← text]
      exact bound _
    · rw [same]
      exact bound _

theorem issued_resolves_minute :
    ∃ digest, bindingDigest (F := Empty) identityRelayTool none = .ok digest ∧
      (minuteRelay.resolveCapability Empty [] (exampleToken minuteRelay) 100 100).2 =
        some ⟨exampleReader, ⟨identityRelayTool, digest⟩⟩ :=
  issued_resolves rfl rfl (by decide)
    (exampleReader_admitted "acme".toList (by decide) rfl) (by decide)
    minuteToken_issued minuteToken_short rfl rfl

theorem longReader_admitted : Admitted Empty longReader := by
  have letter : isSpacePy (codePoint 'a') = false := by decide
  apply exampleReader_admitted (List.replicate 4097 'a')
  · apply requiredText_visible
    · exact List.cons_ne_nil _ (List.replicate 4096 _)
    · intro c member
      rw [List.eq_of_mem_replicate member]
      exact letter
  · exact List.map_replicate

/-- A capability of the reader with the long tenant is issued, and resolves to nothing. -/
theorem issued_not_resolved :
    ¬∀ (relay issuer : SignedPrincipalRelay) (principal : Principal) (tool : PyStr)
        (arguments : Option (List (PyStr × Json Empty))) (drawn : Bytes) (time : ℚ≥0)
        (token : List Char) (revoked : Denylist) (purged now : ℚ≥0),
      issuer.secret = relay.secret → issuer.audience = relay.audience →
      Admitted Empty principal → drawn.length = 16 →
      issuer.issue principal tool arguments drawn time = .ok token →
      revoked.denies token = false → ⌊now⌋₊ = ⌊time⌋₊ →
      ∃ digest, bindingDigest tool arguments = .ok digest ∧
        (relay.resolveCapability Empty revoked token purged now).2 =
          some ⟨principal, ⟨tool, digest⟩⟩ := by
  intro always
  have second : ⌊(100 : ℚ≥0)⌋₊ = 100 := Nat.floor_natCast 100
  have life : ⌊minuteRelay.ttlSeconds⌋₊ = 60 := Nat.floor_natCast 60
  have encodable := payload_encodable (F := Empty) minuteRelay longReader identityRelayTool
    identityRelayDigest ((b64url (List.replicate 16 0)).map codePoint) 100 (by decide)
    (by rw [life]; decide)
  have issued : ∃ token, minuteRelay.issue (F := Empty) longReader identityRelayTool none
      (List.replicate 16 0) 100 = .ok token := by
    unfold SignedPrincipalRelay.issue dumps
    rw [bindingDigest_identity]
    simp only [Bind.bind, Except.bind, second, encodable, if_true]
    exact ⟨_, rfl⟩
  obtain ⟨token, issued⟩ := issued
  have long : maxToken < token.length := by
    apply issue_too_long _ issued
    rw [show longReader.tenantId = List.replicate 4097 (codePoint 'a') from rfl,
      List.length_replicate]
    decide
  obtain ⟨_, _, resolved⟩ := always minuteRelay minuteRelay longReader identityRelayTool none
    (List.replicate 16 0) 100 token [] 100 100 rfl rfl longReader_admitted rfl issued rfl rfl
  unfold SignedPrincipalRelay.resolveCapability at resolved
  rw [if_pos (Or.inl long)] at resolved
  cases resolved

end FolioLattice.PublicMcp
