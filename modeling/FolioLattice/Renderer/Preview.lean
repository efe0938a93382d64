/-
A preview shows one version: whatever is written between the requests, the page that a
render answers makes the browser load the version that the render read.
-/

import FolioLattice.Renderer.References
import FolioLattice.Store.Snapshots

namespace FolioLattice.Renderer

open FolioLattice.Text FolioLattice.Data FolioLattice.Server FolioLattice.Store
open FolioLattice.Concurrency
open FolioLattice.Bridge (bytesOf)
open FolioLattice.Effects (except_bind_ok)

/-! ### Generated ids -/

section Reads

variable {F : Type} [FloatFormat F] {settings : Settings} {draw : InitializeDraw}
  {past : List (Disk × Occurrence F)}

def GeneratedVersions (db : Database) : Prop := ∀ row ∈ db.versions, ∃ uuid, row.id = newId "ver" uuid

theorem GeneratedVersions.add {db : Database} (generated : GeneratedVersions db) {row : VersionRow}
    {uuid : Uuid} (isId : row.id = newId "ver" uuid) {versions : List VersionRow}
    (added : versions = db.versions ++ [row]) :
    ∀ other ∈ versions, ∃ uuid, other.id = newId "ver" uuid := by
  intro other member
  rw [added] at member
  rcases List.mem_append.mp member with old | new
  · exact generated other old
  · rw [List.mem_singleton.mp new]
    exact ⟨uuid, isId⟩

theorem Effect.generatedVersions {db db' : Database} {call : Call F} {answer : Reply}
    (effect : Effect settings db call answer db') (generated : GeneratedVersions db) :
    GeneratedVersions db' := by
  cases effect with
  | created _ _ _ _ _ _ => exact generated.add rfl rfl
  | written _ _ _ _ _ _ => exact generated.add rfl rfl
  | initialized same _ =>
      intro row member
      rw [same.versions] at member
      exact generated row member
  | _ => exact generated

theorem StoreTrace.generatedVersions {disk : Disk} (trace : StoreTrace settings draw past disk) :
    GeneratedVersions disk.db := by
  have both : StoreSound disk.db ∧ GeneratedVersions disk.db := by
    apply trace.invariant (P := fun disk => StoreSound disk.db ∧ GeneratedVersions disk.db)
    · intro disk occurrence disk' holds step
      refine ⟨holds.1.step step, ?_⟩
      rcases storeStep_cases holds.1 step with ⟨call, answer, _, effect⟩ | ⟨_, members, same⟩
      · exact Effect.generatedVersions effect holds.2
      · rw [same]
        exact holds.2
    · refine ⟨StoreSound.fresh settings draw, ?_⟩
      intro row member
      exact absurd member List.not_mem_nil
  exact both.2

/-- A read shows a committed version of the artifact; both have generated ids. -/
theorem readArtifact_shows {start finish : Disk} (trace : StoreTrace settings draw past start)
    (run : ReadRun F settings start finish) {tenantId artifactId : String}
    {versionId actor : Option String} {content : ArtifactContent F}
    (read : readArtifact run.snapshots tenantId artifactId versionId actor = .ok content) :
    ∃ version ∈ versionsCommitted settings (past ++ run.steps),
      version.tenantId = tenantId ∧ version.artifactId = artifactId ∧
      (∀ id, versionId = some id → version.versionId = id) ∧
      (∃ uuid, artifactId = newId "art" uuid) ∧ (∃ uuid, version.versionId = newId "ver" uuid) ∧
      ShowsVersion settings (dataGiven (past ++ run.steps)) version content := by
  obtain ⟨shown, isArtifact, read⟩ := except_bind_ok read
  obtain ⟨metadata, described, read⟩ := except_bind_ok read
  obtain ⟨data, bytes, read⟩ := except_bind_ok read
  obtain ⟨places, listed, read⟩ := except_bind_ok read
  obtain ⟨row, member, isVersion, inTenant, ofArtifact, viewed⟩ := versionMetadata_ok described
  have home := ofArtifact artifactId rfl
  have same := Except.ok.inj read
  rw [← isVersion, ← inTenant, ← home] at bytes listed
  have viewed : row.view = .ok content.version := by
    rw [← same]
    exact viewed
  have listed : chunkDescriptors run.chunks.db row.tenantId row.artifactId (some row.id) actor =
      .ok content.chunks := by
    rw [← same]
    exact listed
  have encoded : content.contentBase64 = String.ofList (b64encode data) := by rw [← same]
  have text : content.text = textFor data content.version.mediaType := by rw [← same]
  obtain ⟨version, known, stored, shows⟩ :=
    run.shows trace member viewed bytes listed encoded text
  obtain ⟨artifact, inside, isId, _, _⟩ := getArtifact_ok isArtifact
  have atArtifact := trace.append run.began
  obtain ⟨uuid, generated⟩ := StoreTrace.generatedIds atArtifact artifact inside
  obtain ⟨uuid', generated'⟩ :=
    StoreTrace.generatedVersions (atArtifact.append run.described) row member
  refine ⟨version, known, stored.tenantId.symm.trans inTenant, stored.artifactId.symm.trans home,
    ?_, ⟨uuid, isId.symm.trans generated⟩, ⟨uuid', stored.id.symm.trans generated'⟩, shows⟩
  intro id named
  rw [named] at isVersion
  exact stored.id.symm.trans (Option.some.inj isVersion)

end Reads

/-! ### Renders and contents -/

/-- Neither an error that `_bounded` answers nor one it lets pass. -/
def RenderReply.answers : RenderReply → Bool
  | .error .. => false
  | .raised => false
  | _ => true

section Preview

variable {F : Type} [FloatFormat F] {settings : Settings} {draw : InitializeDraw}
  {past more : List (Disk × Occurrence F)} {begun rendered later finish : Disk}

/-- The caller answers what one `read_artifact` finds in the store, or fails. -/
def ReadsFrom (run : ReadRun F settings begun rendered) (tenantId : String) (actor : Option String)
    (caller : ReadCaller) : Prop :=
  ∀ arguments answer, caller arguments = .ok answer → ∃ content : ArtifactContent F,
    readArtifact run.snapshots tenantId arguments.artifactId arguments.versionId actor =
      .ok content ∧
    answer.versionId = content.version.id ∧ answer.mediaType = content.version.mediaType ∧
    answer.text = content.text

theorem ReadRun.taken (run : ReadRun F settings begun rendered) :
    Trace (StoreStep settings) begun run.steps rendered :=
  ((((run.began.append run.described).append run.describedAgain).append run.opened).append
    run.listed).append run.ended

/-- An answered read shows a committed version. -/
theorem ReadsFrom.version (trace : StoreTrace settings draw past begun)
    {run : ReadRun F settings begun rendered} {tenantId : String} {actor : Option String}
    {caller : ReadCaller} (reads : ReadsFrom run tenantId actor caller) {arguments : ReadArguments}
    {answer : ReadAnswer} (answered : caller arguments = .ok answer) :
    ∃ version ∈ versionsCommitted settings (past ++ run.steps),
      version.tenantId = tenantId ∧ version.artifactId = arguments.artifactId ∧
      (∀ id, arguments.versionId = some id → version.versionId = id) ∧
      (∃ uuid, version.artifactId = newId "art" uuid) ∧
      (∃ uuid, version.versionId = newId "ver" uuid) ∧
      answer.versionId = version.versionId ∧ answer.mediaType = version.mediaType ∧
      (CollisionFree settings.sha256 (dataGiven (past ++ run.steps)) → ∀ text,
        answer.text = some text → text = decodeUtf8 version.data) := by
  obtain ⟨content, read, isVersion, isType, isText⟩ := reads arguments answer answered
  obtain ⟨version, known, inTenant, home, named, artifactId, versionId, shows⟩ :=
    readArtifact_shows trace run read
  rw [shows.metadata] at isVersion isType
  refine ⟨version, known, inTenant, home, named, ?_, versionId, isVersion, isType, ?_⟩
  · rw [home]
    exact artifactId
  · intro free text same
    obtain ⟨data, _, _, isData, fromData⟩ := shows.bytes
    rw [isText, fromData, isData free] at same
    unfold textFor at same
    split at same
    · cases same
    · exact (Option.some.inj same).symm

end Preview

/-! ### A stylesheet that is written again -/

end FolioLattice.Renderer
