/-
The arguments a capability's digest covers: an artifact and perhaps a version of it, and
when two dictionaries of them have one digest.
-/

import FolioLattice.Auth.Principals

namespace FolioLattice.Auth

open FolioLattice.Text FolioLattice.Data
open FolioLattice.Effects (except_bind_ok)

variable {F : Type}

/-- The arguments name this artifact and this version of it, and nothing else. -/
structure ReadsArtifact (arguments : List (PyStr × Json F)) (artifactId : PyStr)
    (versionId : Option PyStr) : Prop where
  distinct : (arguments.map (·.1)).Nodup
  supported : ∀ entry ∈ arguments, entry.1 = pyStr "artifact_id" ∨ entry.1 = pyStr "version_id"
  artifact : lookup (pyStr "artifact_id") arguments = some (.str artifactId)
  version : lookup (pyStr "version_id") arguments = versionId.map .str
  artifact_ne : artifactId ≠ []
  version_ne : ∀ text, versionId = some text → text ≠ []

theorem nonEmptyText_ok {message : String} {value : Option (Json F)}
    (fine : nonEmptyText message value = .ok ()) : ∃ text, value = some (.str text) ∧ text ≠ [] := by
  unfold nonEmptyText at fine
  split at fine
  · rename_i text
    split at fine
    · cases fine
    · rename_i filled
      exact ⟨text, rfl, fun nothing => filled (List.isEmpty_iff.mpr nothing)⟩
  · cases fine

theorem nonEmptyText_of {message : String} {text : PyStr} (filled : text ≠ []) :
    nonEmptyText message (some (.str text : Json F)) = .ok () := by
  unfold nonEmptyText
  exact if_neg (fun nothing => filled (List.isEmpty_iff.mp nothing))

section Lookups

variable {arguments left right : List (PyStr × Json F)} {artifactId artifactId' : PyStr}
  {versionId versionId' : Option PyStr}

theorem ReadsArtifact.lookup_other (reads : ReadsArtifact arguments artifactId versionId)
    {key : PyStr} (artifact : key ≠ pyStr "artifact_id") (version : key ≠ pyStr "version_id") :
    lookup key arguments = none := by
  apply lookup_none
  intro known
  obtain ⟨entry, member, same⟩ := List.mem_map.mp known
  rcases reads.supported entry member with isArtifact | isVersion
  · exact artifact (same.symm.trans isArtifact)
  · exact version (same.symm.trans isVersion)

theorem ReadsArtifact.keys_joined (reads : ReadsArtifact arguments artifactId versionId) :
    ∀ key ∈ arguments.map (·.1), joinPairs key = key := by
  intro key known
  obtain ⟨entry, member, same⟩ := List.mem_map.mp known
  rcases reads.supported entry member with isArtifact | isVersion
  · rw [← same, isArtifact]
    exact joinPairs_chars _
  · rw [← same, isVersion]
    exact joinPairs_chars _

/-- Only strings are printed. -/
theorem ReadsArtifact.encodable (reads : ReadsArtifact arguments artifactId versionId)
    (allowNan : Bool) : (Json.obj arguments).encodable allowNan = true := by
  rw [Json.encodable, encodableEntries_iff]
  intro entry member
  have found := lookup_of_mem reads.distinct member
  rcases reads.supported entry member with isArtifact | isVersion
  · rw [isArtifact, reads.artifact] at found
    rw [← Option.some.inj found]
    rfl
  · rw [isVersion, reads.version] at found
    obtain ⟨text, _, same⟩ := Option.map_eq_some_iff.mp found
    rw [← same]
    rfl

variable [FloatFormat F]

/-- Arguments that JSON reads alike print alike. -/
theorem ReadsArtifact.print_eq (reads : ReadsArtifact left artifactId versionId)
    (reads' : ReadsArtifact right artifactId' versionId')
    (artifact : joinPairs artifactId = joinPairs artifactId')
    (version : versionId.map joinPairs = versionId'.map joinPairs) :
    (Json.obj left).sortKeys.print = (Json.obj right).sortKeys.print := by
  have string (text : PyStr) : (Json.str text : Json F).sortKeys.print =
      (Json.str (joinPairs text) : Json F).print := by
    have keyed : (Json.str text : Json F).WellKeyed := trivial
    exact (Json.print_reread keyed).symm
  apply print_obj_of_lookup reads.distinct reads'.distinct
  intro key
  by_cases isArtifact : key = pyStr "artifact_id"
  · rw [isArtifact, reads.artifact, reads'.artifact, Option.map_some, Option.map_some, string,
      string, artifact]
  · by_cases isVersion : key = pyStr "version_id"
    · have printed (version : Option PyStr) :
          (version.map (Json.str (F := F))).map (fun value => value.sortKeys.print) =
            (version.map joinPairs).map (fun text => (Json.str text : Json F).print) := by
        rw [Option.map_map, Option.map_map]
        congr 1
        exact funext string
      rw [isVersion, reads.version, reads'.version, printed, printed, version]
    · rw [reads.lookup_other isArtifact isVersion, reads'.lookup_other isArtifact isVersion]

/-- Arguments that print alike are read alike. -/
theorem ReadsArtifact.of_print_eq (reads : ReadsArtifact left artifactId versionId)
    (reads' : ReadsArtifact right artifactId' versionId')
    (printed : (Json.obj left).sortKeys.print = (Json.obj right).sortKeys.print) :
    joinPairs artifactId = joinPairs artifactId' ∧
      versionId.map joinPairs = versionId'.map joinPairs := by
  have loaded {arguments : List (PyStr × Json F)} {artifactId : PyStr} {versionId : Option PyStr}
      (reads : ReadsArtifact arguments artifactId versionId) :
      loads (Json.obj arguments).sortKeys.print = .ok (Json.obj arguments).sortKeys.reread :=
    loads_dumps (if_pos (reads.encodable true))
  have same := loaded reads
  rw [printed, loaded reads'] at same
  obtain ⟨entries, read, found⟩ := reread_sortKeys_lookup reads.distinct reads.keys_joined
  obtain ⟨entries', read', found'⟩ := reread_sortKeys_lookup reads'.distinct reads'.keys_joined
  rw [read, read'] at same
  cases same
  have artifact := found (pyStr "artifact_id")
  have version := found (pyStr "version_id")
  rw [found', reads.artifact, reads'.artifact] at artifact
  rw [found', reads.version, reads'.version, Option.map_map, Option.map_map] at version
  constructor
  · exact (Json.str.inj (Option.some.inj artifact)).symm
  · cases versionId with
    | none =>
        cases versionId' with
        | none => rfl
        | some text => cases version
    | some text =>
        cases versionId' with
        | none => cases version
        | some text' =>
            exact congrArg some (Json.str.inj (Option.some.inj version)).symm

theorem capabilityArgumentsDigest_reads {digest : PyStr} (distinct : (arguments.map (·.1)).Nodup)
    (digested : capabilityArgumentsDigest arguments = .ok digest) :
    ∃ artifactId versionId, ReadsArtifact arguments artifactId versionId ∧
      digest =
        (sha256Hex (encodeUtf8 (Json.obj arguments).sortKeys.print)).map codePoint := by
  have printed := capabilityArgumentsDigest_ok digested
  unfold capabilityArgumentsDigest at digested
  split at digested
  · cases digested
  · rename_i plain
    obtain ⟨_, artifactFine, digested⟩ := except_bind_ok digested
    obtain ⟨artifactId, artifact, artifactFilled⟩ := nonEmptyText_ok artifactFine
    have supported : ∀ entry ∈ arguments,
        entry.1 = pyStr "artifact_id" ∨ entry.1 = pyStr "version_id" := by
      intro entry member
      by_contra other
      rw [not_or] at other
      exact plain (List.any_eq_true.mpr ⟨entry, member, decide_eq_true other⟩)
    have version : ∃ versionId : Option PyStr,
        lookup (pyStr "version_id") arguments = versionId.map .str ∧
        ∀ text, versionId = some text → text ≠ [] := by
      cases known : lookup (pyStr "version_id") arguments with
      | none => exact ⟨none, rfl, fun text impossible => by cases impossible⟩
      | some value =>
          have fine : nonEmptyText "renderer capability version_id must be a non-empty string"
              (lookup (pyStr "version_id") arguments) = .ok () := by
            rw [known] at digested ⊢
            simp only [Option.isSome_some, if_true] at digested
            obtain ⟨_, fine, _⟩ := except_bind_ok digested
            exact fine
          obtain ⟨text, same, filled⟩ := nonEmptyText_ok fine
          rw [known] at same
          cases same
          refine ⟨some text, rfl, ?_⟩
          intro text' same
          cases same
          exact filled
    obtain ⟨versionId, version, versionFilled⟩ := version
    refine ⟨artifactId, versionId,
      ⟨distinct, supported, artifact, version, artifactFilled, versionFilled⟩, ?_⟩
    obtain ⟨encoded, dumped, same⟩ := printed
    unfold dumps at dumped
    split at dumped
    · cases dumped
      exact same
    · cases dumped

theorem ReadsArtifact.digest (reads : ReadsArtifact arguments artifactId versionId) :
    capabilityArgumentsDigest arguments =
      .ok ((sha256Hex (encodeUtf8 (Json.obj arguments).sortKeys.print)).map codePoint) := by
  have plain : ¬arguments.any
      (fun e => e.1 ≠ pyStr "artifact_id" ∧ e.1 ≠ pyStr "version_id") = true := by
    intro found
    obtain ⟨entry, member, other⟩ := List.any_eq_true.mp found
    obtain ⟨artifact, version⟩ := of_decide_eq_true other
    rcases reads.supported entry member with isArtifact | isVersion
    · exact artifact isArtifact
    · exact version isVersion
  have dumped : dumps false (.obj arguments) = some (Json.obj arguments).sortKeys.print :=
    if_pos (reads.encodable false)
  unfold capabilityArgumentsDigest
  rw [if_neg plain, reads.artifact, reads.version, dumped, nonEmptyText_of reads.artifact_ne]
  cases versionId with
  | none => rfl
  | some text =>
      rw [Option.map_some, nonEmptyText_of (reads.version_ne text rfl)]
      rfl

end Lookups

end FolioLattice.Auth
