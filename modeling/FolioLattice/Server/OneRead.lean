/-
What a capability for a read is good for, from the client that obtains it to the tools
that are called under it.
-/

import FolioLattice.Auth.Arguments
import FolioLattice.Server.InternalPrincipal
import FolioLattice.Server.McpTools

namespace FolioLattice.Server

open FolioLattice.Text FolioLattice.Data FolioLattice.Auth FolioLattice.PublicMcp
  FolioLattice.Relational
open FolioLattice.Effects (except_bind_ok)

section OneRead

variable {F : Type} [FloatFormat F]

/-- `_call_with_relay` obtained a token for an `artifact_read` of the given arguments,
and it resolves to the capability: within the process while the entry is the one made
then, or signed, at any relay. -/
inductive Obtained (given : List (PyStr × Json F)) : PrincipalCapability → Prop where
  | trusted {relay : TrustedPrincipalRelay} {rounding : Rounding}
      {tokens tokens' later : TrustedTokens} {principal : Principal} {drawn : Bytes}
      {purged now then' : ℚ≥0} {token : List Char} {capability : PrincipalCapability}
      (issued : relay.issue rounding tokens principal artifactReadTool (some given) drawn purged
        now = .ok (token, tokens'))
      (kept : ∀ entry, (tokenDigest token, entry) ∈ later →
        getEntry (tokenDigest token) tokens' = some entry)
      (resolved : (later.resolveCapability token then').2 = some capability) :
      Obtained given capability
  | signed {relay issuer : SignedPrincipalRelay} {principal : Principal} {drawn : Bytes}
      {time purged now : ℚ≥0} {revoked : Denylist} {token : List Char}
      {capability : PrincipalCapability}
      (issued : issuer.issue principal artifactReadTool (some given) drawn time = .ok token)
      (resolved : (relay.resolveCapability F revoked token purged now).2 = some capability) :
      Obtained given capability

/-- SHA-256 tells the two texts apart. -/
def NoCollision (left right : List Char) : Prop :=
  sha256Hex (encodeUtf8 left) = sha256Hex (encodeUtf8 right) → left = right

/-! ### The capability of the given arguments -/

theorem bindingDigest_read {given : List (PyStr × Json F)} :
    bindingDigest artifactReadTool (some given) = capabilityArgumentsDigest given := by
  unfold bindingDigest
  rw [if_neg (fun same => identityRelayTool_ne same.symm), if_pos rfl]
  rfl

theorem Obtained.binding {given : List (PyStr × Json F)} {capability : PrincipalCapability}
    (obtained : Obtained given capability) :
    ∃ digest, capabilityArgumentsDigest given = .ok digest ∧
      capability.binding = ⟨artifactReadTool, digest⟩ := by
  cases obtained with
  | @trusted relay rounding tokens tokens' later principal drawn purged now then' token _ issued kept
      resolved =>
      unfold TrustedPrincipalRelay.issue at issued
      obtain ⟨digest, bound, issued⟩ := except_bind_ok issued
      cases issued
      refine ⟨digest, bindingDigest_read (F := F) ▸ bound, ?_⟩
      unfold TrustedTokens.resolveCapability at resolved
      split at resolved
      · cases resolved
      · obtain ⟨entry, found, same⟩ := Option.map_eq_some_iff.mp resolved
        have member : (tokenDigest (b64url drawn), entry) ∈ later :=
          (List.mem_filter.mp (mem_of_getEntry found)).1
        have made := kept entry member
        rw [getEntry_putEntry_self] at made
        cases made
        rw [← same]
  | signed issued resolved =>
      obtain ⟨_, _, verified⟩ := SignedPrincipalRelay.resolveCapability_some resolved
      obtain ⟨digest, bound, _, _, is⟩ := SignedPrincipalRelay.verify_of_issued issued verified
      rw [is]
      exact ⟨digest, bindingDigest_read (F := F) ▸ bound, rfl⟩

/-! ### The arguments of a call -/

omit [FloatFormat F] in
theorem readArguments_distinct (artifactId : PyStr) (versionId : Option PyStr) :
    ((readArguments (F := F) artifactId versionId).map (·.1)).Nodup := by
  have keys : pyStr "artifact_id" ≠ pyStr "version_id" := by decide
  cases versionId with
  | none => exact List.nodup_singleton _
  | some text =>
      apply List.nodup_cons.mpr
      exact ⟨fun same => keys (List.mem_singleton.mp same), List.nodup_singleton _⟩

omit [FloatFormat F] in
theorem readArguments_lookup (artifactId : PyStr) (versionId : Option PyStr) :
    lookup (pyStr "artifact_id") (readArguments (F := F) artifactId versionId) =
        some (.str artifactId) ∧
      lookup (pyStr "version_id") (readArguments (F := F) artifactId versionId) =
        versionId.map .str := by
  constructor
  · exact lookup_of_mem (readArguments_distinct artifactId versionId) List.mem_cons_self
  · cases versionId with
    | none =>
        have keys : pyStr "version_id" ≠ pyStr "artifact_id" := by decide
        exact lookup_none (fun known => keys (List.mem_singleton.mp known))
    | some text =>
        exact lookup_of_mem (readArguments_distinct artifactId (some text))
          (List.mem_cons_of_mem _ List.mem_cons_self)

theorem readArguments_reads {artifactId digest : PyStr} {versionId : Option PyStr}
    (digested : capabilityArgumentsDigest (readArguments (F := F) artifactId versionId) =
      .ok digest) :
    ReadsArtifact (readArguments (F := F) artifactId versionId) artifactId versionId := by
  obtain ⟨artifactId', versionId', reads, _⟩ :=
    capabilityArgumentsDigest_reads (readArguments_distinct artifactId versionId) digested
  obtain ⟨artifact, version⟩ := readArguments_lookup (F := F) artifactId versionId
  have sameArtifact := reads.artifact
  have sameVersion := reads.version
  rw [artifact] at sameArtifact
  rw [version] at sameVersion
  cases sameArtifact
  have versions : versionId = versionId' :=
    Option.map_injective (fun _ _ => Json.str.inj) sameVersion
  rw [← versions] at reads
  exact reads

omit [FloatFormat F] in
/-- A read of what the given arguments name, as JSON reads them, has their digest. -/
theorem readArguments_of {given : List (PyStr × Json F)} {artifactId artifactId' : PyStr}
    {versionId versionId' : Option PyStr} (reads : ReadsArtifact given artifactId versionId)
    (artifact : joinPairs artifactId' = joinPairs artifactId)
    (version : versionId'.map joinPairs = versionId.map joinPairs) :
    ReadsArtifact (readArguments (F := F) artifactId' versionId') artifactId' versionId' := by
  obtain ⟨found, found'⟩ := readArguments_lookup (F := F) artifactId' versionId'
  refine ⟨readArguments_distinct _ _, ?_, found, found', ?_, ?_⟩
  · intro entry member
    rcases List.mem_cons.mp member with same | later
    · exact Or.inl (congrArg Prod.fst same)
    · cases versionId' with
      | none => cases later
      | some text => exact Or.inr (congrArg Prod.fst (List.mem_singleton.mp later))
  · intro nothing
    rw [nothing] at artifact
    exact joinPairs_ne_nil reads.artifact_ne artifact.symm
  · intro text same nothing
    rw [same, nothing] at version
    cases versionId with
    | none => cases version
    | some text' =>
        exact joinPairs_ne_nil (reads.version_ne text' rfl) (Option.some.inj version).symm

/-! ### One read -/

/-- Under a capability a client obtained for a read, a tool gets to the store only as
`artifact_read` of the artifact and version that the client was given, as JSON reads
them, and such a read is answered as without a capability. -/
theorem one_read {given : List (PyStr × Json F)} {capability : PrincipalCapability}
    (distinct : (given.map (·.1)).Nodup) (obtained : Obtained given capability) :
    ∃ artifactId versionId, ReadsArtifact given artifactId versionId ∧
      (∀ (server : McpServer) (principal : Option Principal) (call : ToolCall F)
          (operation : Operation F),
        (∀ artifactId' versionId', call = .artifactRead artifactId' versionId' →
          NoCollision (Json.obj given).sortKeys.print
            (Json.obj (readArguments (F := F) artifactId' versionId')).sortKeys.print) →
        server.callTool ⟨principal, some capability.binding⟩ call = .ok operation →
        ∃ artifactId' versionId', call = .artifactRead artifactId' versionId' ∧
          joinPairs artifactId' = joinPairs artifactId ∧
          versionId'.map joinPairs = versionId.map joinPairs) ∧
      ∀ (server : McpServer) (principal : Option Principal) (artifactId' : PyStr)
          (versionId' : Option PyStr),
        joinPairs artifactId' = joinPairs artifactId →
        versionId'.map joinPairs = versionId.map joinPairs →
        server.callTool ⟨principal, some capability.binding⟩
            (.artifactRead artifactId' versionId' : ToolCall F) =
          server.callTool ⟨principal, none⟩ (.artifactRead artifactId' versionId') := by
  obtain ⟨digest, digested, bound⟩ := obtained.binding
  obtain ⟨artifactId, versionId, reads, same⟩ := capabilityArgumentsDigest_reads distinct digested
  refine ⟨artifactId, versionId, reads, ?_, ?_⟩
  · intro server principal call operation collisionFree called
    obtain ⟨artifactId', versionId', isRead, digested'⟩ :=
      callTool_bound rfl (congrArg CapabilityBinding.tool bound) called
    have reads' := readArguments_reads digested'
    rw [reads'.digest, bound, same] at digested'
    have hashes := List.map_injective_iff.mpr codePoint_injective (Except.ok.inj digested')
    have printed := collisionFree artifactId' versionId' isRead hashes.symm
    obtain ⟨artifact, version⟩ := reads'.of_print_eq reads printed.symm
    exact ⟨artifactId', versionId', isRead, artifact, version⟩
  · intro server principal artifactId' versionId' artifact version
    have reads' := readArguments_of reads artifact version
    have digested' := reads'.digest
    rw [reads'.print_eq reads artifact version, ← same] at digested'
    rw [bound]
    exact callTool_digest server principal digested'

end OneRead

/-! ### An artifact with a plain name, and one written with two surrogates -/

/-- What a trusted relay hands out at 100 for a read of the arguments. -/
def readTokens (digest : PyStr) (token : List Char) : TrustedTokens :=
  [(tokenDigest token, ⟨Rounding.exact.round ((100 : ℕ) + (60 : ℕ)), exampleReader,
    ⟨artifactReadTool, digest⟩⟩)]

theorem obtained_read {given : List (PyStr × Json Empty)} {digest : PyStr}
    (digested : capabilityArgumentsDigest given = .ok digest) :
    Obtained given ⟨exampleReader, ⟨artifactReadTool, digest⟩⟩ := by
  have filled : b64url (List.replicate 32 0) ≠ [] :=
    b64url_ne_nil (List.cons_ne_nil 0 (List.replicate 31 0))
  have short : (b64url (List.replicate 32 0)).length ≤ maxTrustedToken := by
    have bound := b64url_length_le (List.replicate 32 0)
    rw [List.length_replicate] at bound
    exact bound.trans (by decide)
  have lives : ¬Rounding.exact.round (100 + 60) ≤ (100 : ℚ≥0) := by
    change ¬(100 + 60 : ℚ≥0) ≤ 100
    norm_num
  generalize drew : b64url (List.replicate 32 0) = token at filled short
  have issued : trustedRelay.issue (F := Empty) Rounding.exact [] exampleReader artifactReadTool
      (some given) (List.replicate 32 0) 100 100 = .ok (token, readTokens digest token) := by
    unfold TrustedPrincipalRelay.issue
    rw [bindingDigest_read, digested, drew]
    rfl
  have resolved : (TrustedTokens.resolveCapability (readTokens digest token) token 100).2 =
      some ⟨exampleReader, ⟨artifactReadTool, digest⟩⟩ :=
    tokenEntry_resolves filled short lives
  refine .trusted issued ?_ resolved
  intro entry member
  cases List.mem_singleton.mp member
  exact getEntry_cons_of_eq [] rfl

def localServer : McpServer := ⟨some (pyStr "acme"), some (pyStr "alice")⟩

theorem artifact_reads (artifactId : PyStr) (filled : artifactId ≠ []) :
    ReadsArtifact (readArguments (F := Empty) artifactId none) artifactId none where
  distinct := readArguments_distinct artifactId none
  supported := by
    intro entry member
    exact Or.inl (congrArg Prod.fst (List.mem_singleton.mp member))
  artifact := (readArguments_lookup artifactId none).1
  version := (readArguments_lookup artifactId none).2
  artifact_ne := filled
  version_ne := fun _ impossible => by cases impossible

/-- A read of `art_1` under its capability. -/
theorem one_read_artifact :
    ∃ binding : CapabilityBinding, ∃ artifactId versionId,
      ReadsArtifact (readArguments (F := Empty) (pyStr "art_1") none) artifactId versionId ∧
      localServer.callTool ⟨none, some binding⟩
          (.artifactRead artifactId versionId : ToolCall Empty) =
        localServer.callTool ⟨none, none⟩ (.artifactRead artifactId versionId) := by
  have digested := (artifact_reads (pyStr "art_1") (by decide)).digest
  obtain ⟨artifactId, versionId, reads, _, answered⟩ :=
    one_read (readArguments_distinct (pyStr "art_1") none) (obtained_read digested)
  exact ⟨_, artifactId, versionId, reads, answered localServer none artifactId versionId rfl rfl⟩

/-- The capability for an artifact whose id is written with two surrogates lets a read
through of the id with the character that they make. -/
theorem one_read_not_exact :
    ¬∀ (given : List (PyStr × Json Empty)) (capability : PrincipalCapability),
      (given.map (·.1)).Nodup → Obtained given capability →
      ∀ (server : McpServer) (principal : Option Principal) (call : ToolCall Empty)
          (operation : Operation Empty),
        (∀ artifactId' versionId', call = .artifactRead artifactId' versionId' →
          NoCollision (Json.obj given).sortKeys.print
            (Json.obj (readArguments (F := Empty) artifactId' versionId')).sortKeys.print) →
        server.callTool ⟨principal, some capability.binding⟩ call = .ok operation →
        ∃ artifactId' versionId', call = .artifactRead artifactId' versionId' ∧
          ReadsArtifact given artifactId' versionId' := by
  intro always
  have pair : ([0xd83d, 0xde00] : PyStr) ≠ [] := List.cons_ne_nil _ _
  have reads := artifact_reads _ pair
  have reads' := artifact_reads [joinPair 0xd83d 0xde00] (List.cons_ne_nil _ _)
  have printed := reads'.print_eq reads (by decide) rfl
  have digested' := reads'.digest
  rw [printed] at digested'
  have called := callTool_digest localServer none digested'
  obtain ⟨artifactId', versionId', same, named⟩ :=
    always _ _ (readArguments_distinct _ _) (obtained_read reads.digest) localServer none
      (.artifactRead [joinPair 0xd83d 0xde00] none) _
      (fun artifactId' versionId' isRead _ => by
        cases isRead
        exact printed.symm)
      (called.trans rfl)
  cases same
  have artifact := named.artifact
  rw [reads.artifact] at artifact
  have texts : ([0xd83d, 0xde00] : PyStr) = [joinPair 0xd83d 0xde00] :=
    Json.str.inj (Option.some.inj artifact)
  revert texts
  decide

end FolioLattice.Server
