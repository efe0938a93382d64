/-
Runs of a relay: tokens issued by it or by relays that share its secret, resolved
and revoked in one process, under a clock that does not go back.
-/

import FolioLattice.Concurrency.Transition
import FolioLattice.PublicMcp.SignedRelay

namespace FolioLattice.PublicMcp

open FolioLattice.Text FolioLattice.Data FolioLattice.Auth FolioLattice.Concurrency

section Runs

variable (F : Type) [FloatFormat F] (relay : SignedPrincipalRelay) (rounding : Rounding)

/-- One call.  Any relay with the same secret and audience may issue; `resolve`
reads the clock again after it has left the lock. -/
inductive RelayStep : Transition RelayState RelayCall where
  | issue {state : RelayState} {issuer : SignedPrincipalRelay} {principal : Principal}
      {tool : PyStr} {arguments : Option (List (PyStr × Json F))} {drawn : Bytes} {time : ℚ≥0}
      {token : List Char} (secret : issuer.secret = relay.secret)
      (audience : issuer.audience = relay.audience) (onward : state.clock ≤ time)
      (issued : issuer.issue principal tool arguments drawn time = .ok token) :
      RelayStep state (.issue issuer time token) { state with clock := time }
  | resolve {state : RelayState} {token : List Char} {purged now : ℚ≥0}
      (onward : state.clock ≤ purged) (later : purged ≤ now) :
      RelayStep state
        (.resolve token (relay.resolveCapability F state.revoked token purged now).2)
        ⟨(relay.resolveCapability F state.revoked token purged now).1, purged⟩
  | revoke {state : RelayState} {token : List Char} {purged now : ℚ≥0}
      (onward : state.clock ≤ purged) (later : purged ≤ now) :
      RelayStep state (.revoke token now) ⟨revoke rounding state.revoked token purged now, now⟩

variable {F relay rounding} {start state : RelayState} {past : List (RelayState × RelayCall)}

/-! ### The clock -/

theorem RelayStep.onward {next : RelayState} {call : RelayCall}
    (taken : RelayStep F relay rounding state call next) : state.clock ≤ next.clock := by
  cases taken with
  | issue _ _ onward _ => exact onward
  | resolve onward _ => exact onward
  | revoke onward later => exact onward.trans later

/-- A token was issued no later than the clock shows. -/
theorem issued_by_clock (trace : Trace (RelayStep F relay rounding) start past state)
    {s : RelayState} {issuer : SignedPrincipalRelay} {time : ℚ≥0} {token : List Char}
    (issued : (s, RelayCall.issue issuer time token) ∈ past) : time ≤ state.clock := by
  induction trace with
  | start => cases issued
  | next trace taken ih =>
      rcases List.mem_append.mp issued with earlier | last
      · exact (ih earlier).trans taken.onward
      · cases List.mem_singleton.mp last
        cases taken with
        | issue _ _ _ _ => exact le_refl _

/-! ### Revoked tokens -/

/-- The denylist holds the token past `deadline`, unless that has come. -/
def Denied (token : List Char) (deadline : ℚ≥0) (state : RelayState) : Prop :=
  (∃ expires, (tokenDigest token, expires) ∈ state.revoked ∧ deadline ≤ expires) ∨
    deadline ≤ state.clock

theorem mem_purge {revoked : Denylist} {entry : PyStr × ℚ≥0} {now : ℚ≥0} :
    entry ∈ revoked.purge now ↔ entry ∈ revoked ∧ ¬entry.2 ≤ now := by
  unfold Denylist.purge
  rw [List.mem_filter, decide_eq_true_eq]

theorem mem_setEntry_self {V : Type} (key : PyStr) (value : V) (entries : List (PyStr × V)) :
    (key, value) ∈ setEntry key value entries := by
  induction entries with
  | nil => exact List.mem_singleton.mpr rfl
  | cons entry rest ih =>
      obtain ⟨known, old⟩ := entry
      rw [setEntry]
      split
      · exact List.mem_cons_self
      · exact List.mem_cons_of_mem _ ih

theorem mem_setEntry_other {V : Type} {key other : PyStr} {value kept : V}
    {entries : List (PyStr × V)} (member : (other, kept) ∈ entries) (differs : other ≠ key) :
    (other, kept) ∈ setEntry key value entries := by
  induction entries with
  | nil => cases member
  | cons entry rest ih =>
      obtain ⟨known, old⟩ := entry
      rw [setEntry]
      rcases List.mem_cons.mp member with same | later
      · cases same
        rw [if_neg differs]
        exact List.mem_cons_self
      · split
        · exact List.mem_cons_of_mem _ later
        · exact List.mem_cons_of_mem _ (ih later)

/-- A purge drops an entry only when its time has come. -/
theorem Denied.purge {token : List Char} {deadline purged : ℚ≥0}
    (denied : Denied token deadline state) (onward : state.clock ≤ purged) :
    Denied token deadline ⟨state.revoked.purge purged, purged⟩ := by
  rcases denied with ⟨expires, member, lasts⟩ | passed
  · by_cases due : expires ≤ purged
    · exact Or.inr (lasts.trans due)
    · exact Or.inl ⟨expires, mem_purge.mpr ⟨member, due⟩, lasts⟩
  · exact Or.inr (passed.trans onward)

theorem Denied.onward {token : List Char} {deadline time : ℚ≥0}
    (denied : Denied token deadline state) (onward : state.clock ≤ time) :
    Denied token deadline { state with clock := time } := by
  rcases denied with entry | passed
  · exact Or.inl entry
  · exact Or.inr (passed.trans onward)

/-- Revoking any token later keeps the token denied. -/
theorem Denied.revoke {token other : List Char} {revokedAt purged now : ℚ≥0}
    (denied : Denied token (rounding.round (revokedAt + 60)) state) (after : revokedAt ≤ state.clock)
    (onward : state.clock ≤ purged) (later : purged ≤ now) :
    Denied token (rounding.round (revokedAt + 60))
      ⟨PublicMcp.revoke rounding state.revoked other purged now, now⟩ := by
  unfold PublicMcp.revoke
  split
  · exact denied.onward (onward.trans later)
  · rcases denied.purge onward with ⟨expires, member, lasts⟩ | passed
    · left
      by_cases same : tokenDigest token = tokenDigest other
      · refine ⟨rounding.round (now + 60), ?_, ?_⟩
        · rw [same]
          exact mem_setEntry_self _ _ _
        · apply rounding.monotone
          exact add_le_add_left ((after.trans onward).trans later) 60
      · exact ⟨expires, mem_setEntry_other member same, lasts⟩
    · exact Or.inr (passed.trans later)

theorem RelayStep.denied {next : RelayState} {call : RelayCall} {token : List Char}
    {revokedAt : ℚ≥0} (taken : RelayStep F relay rounding state call next)
    (after : revokedAt ≤ state.clock)
    (denied : Denied token (rounding.round (revokedAt + 60)) state) :
    Denied token (rounding.round (revokedAt + 60)) next := by
  cases taken with
  | issue _ _ onward _ => exact denied.onward onward
  | resolve onward _ =>
      unfold SignedPrincipalRelay.resolveCapability
      split
      · exact denied.onward onward
      · exact denied.purge onward
  | revoke onward later => exact denied.revoke after onward later

/-- Later calls keep a revoked token denied. -/
theorem denied_throughout (trace : Trace (RelayStep F relay rounding) start past state)
    {token : List Char} {revokedAt : ℚ≥0} (after : revokedAt ≤ start.clock)
    (denied : Denied token (rounding.round (revokedAt + 60)) start) :
    Denied token (rounding.round (revokedAt + 60)) state :=
  (trace.invariant
    (P := fun s => revokedAt ≤ s.clock ∧ Denied token (rounding.round (revokedAt + 60)) s)
    (fun _ _ _ holds taken => ⟨holds.1.trans taken.onward, taken.denied holds.1 holds.2⟩)
    ⟨after, denied⟩).2

/-- `revoke` denies a token that `resolve` would look at. -/
theorem revoke_denies {revoked : Denylist} {token : List Char} {purged now clock : ℚ≥0}
    (short : token.length ≤ maxToken) (filled : token ≠ []) :
    Denied token (rounding.round (now + 60)) ⟨revoke rounding revoked token purged now, clock⟩ := by
  unfold revoke
  rw [if_neg]
  · exact Or.inl ⟨_, mem_setEntry_self _ _ _, le_refl _⟩
  · rintro (nothing | long)
    · exact filled (List.isEmpty_iff.mp nothing)
    · omega

/-- A denied token resolves only once its deadline has come. -/
theorem Denied.resolve {token : List Char} {deadline purged now : ℚ≥0}
    (denied : Denied token deadline state) (onward : state.clock ≤ purged) (later : purged ≤ now)
    {capability : PrincipalCapability}
    (resolved : (relay.resolveCapability F state.revoked token purged now).2 = some capability) :
    deadline ≤ now ∧ relay.verify F token ⌊now⌋₊ = some capability := by
  unfold SignedPrincipalRelay.resolveCapability at resolved
  split at resolved
  · cases resolved
  · rcases denied.purge onward with ⟨expires, member, _⟩ | passed
    · have denies : (state.revoked.purge purged).denies token = true :=
        List.any_eq_true.mpr ⟨_, member, decide_eq_true rfl⟩
      simp only [denies, if_true] at resolved
      cases resolved
    · simp only at resolved
      split at resolved
      · cases resolved
      · exact ⟨passed.trans later, resolved⟩

/-! ### Runs -/

theorem SignedPrincipalRelay.resolveCapability_short {revoked : Denylist} {token : List Char}
    {purged now : ℚ≥0} {capability : PrincipalCapability}
    (resolved : (relay.resolveCapability F revoked token purged now).2 = some capability) :
    token.length ≤ maxToken ∧ token ≠ [] := by
  unfold SignedPrincipalRelay.resolveCapability at resolved
  split at resolved
  · cases resolved
  · rename_i bounded
    rw [not_or, not_not] at bounded
    refine ⟨Nat.le_of_not_lt bounded.1, ?_⟩
    intro nothing
    rw [nothing] at bounded
    cases bounded.2

/-- The denylist keeps a token past the last second it is good for. -/
theorem deadline_past_expiry {issuer : SignedPrincipalRelay} {issuedAt revokedAt : ℚ≥0}
    (onward : issuedAt ≤ revokedAt)
    (late : issuer.ttlSeconds < 60 ∨ (⌊issuedAt⌋₊ + 1 : ℚ≥0) ≤ revokedAt) :
    ((⌊issuedAt⌋₊ + ⌊issuer.ttlSeconds⌋₊ + 1 : ℕ) : ℚ≥0) ≤ rounding.round (revokedAt + 60) := by
  rw [← rounding.whole]
  apply rounding.monotone
  have began : (⌊issuedAt⌋₊ : ℚ≥0) ≤ revokedAt := (Nat.floor_le zero_le).trans onward
  rcases late with brief | later
  · have bound : ⌊issuer.ttlSeconds⌋₊ + 1 ≤ 60 := (Nat.floor_lt zero_le).mpr brief
    calc ((⌊issuedAt⌋₊ + ⌊issuer.ttlSeconds⌋₊ + 1 : ℕ) : ℚ≥0)
        ≤ ((⌊issuedAt⌋₊ + 60 : ℕ) : ℚ≥0) := by exact_mod_cast (by omega)
      _ = ⌊issuedAt⌋₊ + 60 := by push_cast; rfl
      _ ≤ revokedAt + 60 := by gcongr
  · have bound : ⌊issuer.ttlSeconds⌋₊ ≤ 60 := Nat.floor_le_of_le issuer.ttl_le
    calc ((⌊issuedAt⌋₊ + ⌊issuer.ttlSeconds⌋₊ + 1 : ℕ) : ℚ≥0)
        ≤ ((⌊issuedAt⌋₊ + 1 + 60 : ℕ) : ℚ≥0) := by exact_mod_cast (by omega)
      _ = (⌊issuedAt⌋₊ + 1) + 60 := by push_cast; rfl
      _ ≤ revokedAt + 60 := by gcongr

/-- In every run in which no sixty-second token is revoked in the second of its
issue, a revoked token never works again. -/
theorem revoked_never_again (trace : Trace (RelayStep F relay rounding) .start past state)
    (late : RevokedLate past) : NeverAgain past := by
  intro before between after s s₁ s₂ issuer issuedAt token revokedAt result whole issued
  have timely := late before _ s s₁ issuer issuedAt token revokedAt whole issued
  subst whole
  obtain ⟨mid, first, rest⟩ := trace.split
  obtain ⟨_, next, revoking, rest⟩ := rest.head
  obtain ⟨mid', middle, rest⟩ := rest.split
  obtain ⟨_, next', resolving, _⟩ := rest.head
  by_contra works
  obtain ⟨capability, works⟩ := Option.ne_none_iff_exists'.mp works
  -- both calls at their own clock readings
  cases revoking with
  | @revoke _ _ purged _ onward later =>
  cases resolving with
  | @resolve _ _ purged' now onward' later' =>
      obtain ⟨short, filled⟩ := SignedPrincipalRelay.resolveCapability_short works
      have revoked : Denied token (rounding.round (revokedAt + 60))
          ⟨revoke rounding mid.revoked token purged revokedAt, revokedAt⟩ :=
        revoke_denies short filled
      have denied := denied_throughout middle (le_refl _) revoked
      obtain ⟨due, verified⟩ := denied.resolve onward' later' works
      obtain ⟨_, issuing⟩ := first.taken issued
      cases issuing with
      | issue _ _ _ made =>
          obtain ⟨_, _, _, ⟨_, good⟩, _⟩ := SignedPrincipalRelay.verify_of_issued made verified
          have byThen := (issued_by_clock first issued).trans (onward.trans later)
          have expired : (_ : ℚ≥0) ≤ rounding.round (revokedAt + 60) :=
            deadline_past_expiry byThen timely
          have tooLate := Nat.le_floor (expired.trans due)
          omega

theorem RevokedLate.of_brief
    (brief : ∀ s issuer time token, (s, RelayCall.issue issuer time token) ∈ past →
      issuer.ttlSeconds < 60) : RevokedLate past := by
  intro before after s s₁ issuer issuedAt token revokedAt whole issued
  left
  apply brief s issuer issuedAt token
  rw [whole]
  exact List.mem_append_left _ issued

end Runs

/-! ### Tokens that live fifteen and sixty seconds -/

def exampleRelay (ttl : Nat) (positive : 0 < ttl) (bounded : ttl ≤ 60) : SignedPrincipalRelay where
  audience := pyStr "https://folio.example/mcp"
  secret := "0123456789abcdef0123456789abcdef"
  ttlSeconds := ttl
  secret_long := by decide
  ttl_pos := by exact_mod_cast positive
  ttl_le := by exact_mod_cast bounded

theorem brief_positive : 0 < 15 := by decide

theorem brief_bounded : 15 ≤ 60 := by decide

theorem minute_positive : 0 < 60 := by decide

theorem minute_bounded : 60 ≤ 60 := by decide

def briefRelay : SignedPrincipalRelay := exampleRelay 15 brief_positive brief_bounded

def minuteRelay : SignedPrincipalRelay := exampleRelay 60 minute_positive minute_bounded

def exampleReader : Principal where
  tenantId := pyStr "acme"
  actorId := pyStr "alice"
  issuer := pyStr "https://idp.example"
  subject := pyStr "alice"
  scopes := Scopes.empty

theorem exampleReader_plain : PlainPrincipal exampleReader where
  tenantId := ⟨by decide, by decide⟩
  actorId := ⟨by decide, by decide⟩
  issuer := ⟨by decide, by decide⟩
  subject := ⟨by decide, by decide⟩
  scopes := by intro scope member; cases member

/-- The text that a relay signs at the time 100. -/
def exampleRaw (relay : SignedPrincipalRelay) : List Char :=
  (Json.obj (relay.payload (F := Empty) exampleReader identityRelayTool
    identityRelayDigest ((b64url [0]).map codePoint) 100)).sortKeys.print

def exampleToken (relay : SignedPrincipalRelay) : List Char :=
  signedToken relay.signingKey (exampleRaw relay)

theorem exampleToken_issued {relay : SignedPrincipalRelay}
    (encodable : (Json.obj (relay.payload (F := Empty) exampleReader identityRelayTool
      identityRelayDigest ((b64url [0]).map codePoint) 100)).encodable true = true) :
    relay.issue (F := Empty) exampleReader identityRelayTool none [0] 100 =
      .ok (exampleToken relay) := by
  have second : ⌊(100 : ℚ≥0)⌋₊ = 100 := Nat.floor_natCast 100
  unfold SignedPrincipalRelay.issue dumps
  rw [bindingDigest_identity]
  simp only [Bind.bind, Except.bind, second, encodable, if_true]
  rfl

theorem minuteToken_issued :
    minuteRelay.issue (F := Empty) exampleReader identityRelayTool none [0] 100 =
      .ok (exampleToken minuteRelay) :=
  exampleToken_issued (by decide)

theorem minuteToken_short : (exampleToken minuteRelay).length ≤ maxToken := by
  have encoded : (b64url (encodeUtf8 (exampleRaw minuteRelay))).length ≤ 3000 := by decide +kernel
  have bound := signedToken_length_le minuteRelay.signingKey (exampleRaw minuteRelay)
  unfold exampleToken maxToken
  omega

theorem minuteToken_resolves :
    (minuteRelay.resolveCapability Empty
      (revoke Rounding.exact [] (exampleToken minuteRelay) 100 100) (exampleToken minuteRelay)
      160 160).2 = some ⟨exampleReader, ⟨identityRelayTool, identityRelayDigest⟩⟩ := by
  have second : ⌊(100 : ℚ≥0)⌋₊ = 100 := Nat.floor_natCast 100
  have last : ⌊(160 : ℚ≥0)⌋₊ = 160 := Nat.floor_natCast 160
  have life : ⌊minuteRelay.ttlSeconds⌋₊ = 60 := Nat.floor_natCast 60
  have filled : ¬((exampleToken minuteRelay).isEmpty ∨ maxToken < (exampleToken minuteRelay).length) := by
    rintro (nothing | long)
    · have dots := signedToken_dots minuteRelay.signingKey (exampleRaw minuteRelay)
      change (exampleToken minuteRelay).count '.' = 1 at dots
      rw [List.isEmpty_iff.mp nothing] at dots
      cases dots
    · exact absurd minuteToken_short (Nat.not_le_of_lt long)
  have due : Rounding.exact.round (100 + 60) ≤ (160 : ℚ≥0) := by
    change (100 + 60 : ℚ≥0) ≤ 160
    norm_num
  have dropped : (revoke Rounding.exact [] (exampleToken minuteRelay) 100 100).purge 160 = [] := by
    unfold revoke
    rw [if_neg filled]
    change List.filter _ [(_, Rounding.exact.round (100 + 60))] = []
    rw [List.filter_cons_of_neg (by simpa using due), List.filter_nil]
  have verified : minuteRelay.verify Empty (exampleToken minuteRelay) 160 = _ :=
    SignedPrincipalRelay.verify_issued rfl (by decide) (exampleReader_plain.filled (by decide))
      bindingDigest_identity minuteToken_issued minuteToken_short (by rw [second]; decide)
      (by rw [second, life])
  rw [rereadPrincipal_of_plain exampleReader_plain] at verified
  unfold SignedPrincipalRelay.resolveCapability
  rw [if_neg, dropped, last]
  · exact verified
  · rintro (long | dotted)
    · exact absurd minuteToken_short (Nat.not_le_of_lt long)
    · exact dotted (signedToken_dots _ _)

theorem hundred_le : (100 : ℚ≥0) ≤ 160 := by norm_num

/-- Issued and revoked at 100, the token works again at 160: its denylist entry is
dropped, and its last second has only begun. -/
theorem revoked_again_at_sixty :
    ∃ past state, Trace (RelayStep Empty minuteRelay Rounding.exact) .start past state ∧
      ¬NeverAgain past := by
  -- only these facts about the token and the denylist are used
  have issued := minuteToken_issued
  have works := minuteToken_resolves
  generalize exampleToken minuteRelay = token at issued works
  generalize list : revoke Rounding.exact [] token 100 100 = denylist at works
  have issuing : RelayStep Empty minuteRelay Rounding.exact .start (.issue minuteRelay 100 token)
      ⟨[], 100⟩ :=
    .issue rfl rfl zero_le issued
  have revoking : RelayStep Empty minuteRelay Rounding.exact ⟨[], 100⟩ (.revoke token 100)
      ⟨denylist, 100⟩ := by
    rw [← list]
    exact .revoke (le_refl _) (le_refl _)
  have resolving := @RelayStep.resolve Empty _ minuteRelay Rounding.exact ⟨denylist, 100⟩ token
    160 160 hundred_le (le_refl _)
  refine ⟨_, _, ((Trace.start.next issuing).next revoking).next resolving, ?_⟩
  intro never
  have nothing := never [_] [] [] _ _ _ _ _ _ _ _ rfl (List.mem_singleton.mpr rfl)
  cases nothing.symm.trans works

/-- A token of fifteen seconds, issued and revoked at 100 and tried at 160. -/
theorem revoked_never_again_brief :
    ∃ token result past state, Trace (RelayStep Empty briefRelay Rounding.exact) .start past state ∧
      past.map (·.2) = [.issue briefRelay 100 token, .revoke token 100, .resolve token result] ∧
      NeverAgain past := by
  have issuing : RelayStep Empty briefRelay Rounding.exact .start
      (.issue briefRelay 100 (exampleToken briefRelay)) ⟨[], 100⟩ :=
    .issue rfl rfl zero_le (exampleToken_issued (by decide))
  have revoking : RelayStep Empty briefRelay Rounding.exact ⟨[], 100⟩
      (.revoke (exampleToken briefRelay) 100)
      ⟨revoke Rounding.exact [] (exampleToken briefRelay) 100 100, 100⟩ :=
    .revoke (le_refl _) (le_refl _)
  have resolving := @RelayStep.resolve Empty _ briefRelay Rounding.exact
    ⟨revoke Rounding.exact [] (exampleToken briefRelay) 100 100, 100⟩ (exampleToken briefRelay)
    160 160 hundred_le (le_refl _)
  have trace := ((Trace.start.next issuing).next revoking).next resolving
  refine ⟨_, _, _, _, trace, rfl, revoked_never_again trace (RevokedLate.of_brief ?_)⟩
  intro s issuer time token issued
  simp only [List.nil_append, List.cons_append, List.mem_cons, Prod.mk.injEq,
    RelayCall.issue.injEq, List.not_mem_nil, or_false, reduceCtorEq, and_false] at issued
  rw [issued.2.1]
  change ((15 : ℕ) : ℚ≥0) < 60
  norm_num

end FolioLattice.PublicMcp
