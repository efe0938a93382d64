/-
The store behind the tools of the recipe, the others that use it, and what each call does to
the versions of a bundle.
-/

import FolioLattice.Recipe.Bundle
import FolioLattice.Store.Links
import FolioLattice.Store.Snapshots

namespace FolioLattice.Recipe

open FolioLattice.Text FolioLattice.Data FolioLattice.Store FolioLattice.Concurrency
  FolioLattice.Relational
open FolioLattice.Effects (except_bind_ok)
open Relation (ReflTransGen)

variable {F : Type} [FloatFormat F]

/-! ### Bundles -/

/-- A bundle of a tenant. -/
structure Bundle where
  tenantId : String
  bundleId : PyStr

/-- The version's context is one of this role of the bundle. -/
def Bundle.Has (F : Type) [FloatFormat F] (bundle : Bundle) (role : PyStr) (row : VersionRow) :
    Prop :=
  row.tenantId = bundle.tenantId ∧ ∃ context : Json F, loadText row.sourceContext = .ok context ∧
    isBundleContext bundle.bundleId role context = true

/-- Nothing of the bundle is written: it gains no version, and the artifacts that have its
versions stay as they are. -/
structure Bundle.Untouched (F : Type) [FloatFormat F] (bundle : Bundle) (db db' : Database) :
    Prop where
  versions : ∀ role, ∀ row ∈ db'.versions, bundle.Has F role row → row ∈ db.versions
  artifacts : ∀ role, ∀ row ∈ db.versions, bundle.Has F role row →
    ∀ artifact ∈ db.artifacts, artifact.id = row.artifactId → artifact ∈ db'.artifacts

/-- Anything that the service does for others, who do not write the bundle. -/
def Bundle.Others (F : Type) [FloatFormat F] (settings : Settings) (bundle : Bundle)
    (service service' : Service) : Prop :=
  ∃ event : ServiceEvent F, ServiceStep settings service event service' ∧
    bundle.Untouched F service.disk.db service'.disk.db

/-! ### The server -/

/-- Whom the server takes the client for; `policy_actor` is `None` for a fixed local identity. -/
structure Caller where
  tenantId : String
  actor : String
  policyActor : Option String
  policy : policyActor = none ∨ policyActor = some actor

/-- What the client sees of a result: an error is a response with some texts. -/
inductive Answers {α : Type} : Except Failure α → Except CallFailure α → Prop where
  | ok (value : α) : Answers (.ok value) (.ok value)
  | error (failure : Failure) (texts : List (List Char)) :
      Answers (.error failure) (.error (.rejected texts))

theorem Answers.value {α : Type} {result : Except Failure α} {answer : Except CallFailure α}
    {value : α} (answers : Answers result answer) (isOk : answer = .ok value) :
    result = .ok value := by
  cases answers with
  | ok value' =>
      cases isOk
      rfl
  | error failure texts => cases isOk

section Server

variable (settings : Settings) (engine : SearchEngine F) (caller : Caller)

def invalidBase64 : Failure := .folio "content_base64 is not valid base64"

/-- `create_artifact`: the transaction, and then two reads. -/
inductive Creates (others : Service → Service → Prop) (request : CreateRequest F)
    (service : Service) : Except CallFailure (CreatedArtifact F) → Service → Prop where
  | refused (draw : CreateDraw) (disk : Disk) (failure : Failure)
      {answer : Except CallFailure (CreatedArtifact F)}
      (performed : perform settings (.create draw request) service.disk = (disk, .error failure))
      (answers : Answers (.error failure) answer) :
      Creates others request service answer (service.withDisk disk)
  | created (draw : CreateDraw) (disk : Disk) (artifactId versionId : String)
      {shown service' : Service} {answer : Except CallFailure (CreatedArtifact F)}
      (performed : perform settings (.create draw request) service.disk =
        (disk, .ok (.created artifactId versionId)))
      (toArtifact : ReflTransGen others (service.withDisk disk) shown)
      (toVersion : ReflTransGen others shown service')
      (answers : Answers (do
          let artifact ← getArtifact shown.disk.db request.tenantId artifactId (some request.actor)
          let version ← versionMetadata service'.disk.db request.tenantId (some versionId)
            (some request.actor)
          .ok ⟨artifact, version⟩) answer) :
      Creates others request service answer service'

/-- The tool `artifact_create`, which decodes the content first. -/
def serveCreate (others : Service → Service → Prop)
    (name mediaType contentBase64 reason : String) (sourceContext : List (PyStr × Json F))
    (service : Service) (answer : Except CallFailure (CreatedArtifact F)) (service' : Service) :
    Prop :=
  match b64decode contentBase64.toList with
  | none => service' = service ∧ Answers (.error invalidBase64) answer
  | some data =>
      Creates settings others {
        tenantId := caller.tenantId
        name := name
        data := data
        mediaType := some mediaType
        actor := caller.actor
        reason := reason
        sourceContext := sourceContext } service answer service'

/-- The row that `link` returns. -/
def linkShown : Except Failure Reply → Except Failure (EdgeView F)
  | .ok (.linked edge) => edge.view
  | .ok _ => .error .builtin
  | .error failure => .error failure

/-- What a tool may do and answer; a read finds a state for each of its parts. -/
def serve (others : Service → Service → Prop) :
    (call : RecipeCall F) → Service → Except CallFailure call.Answer → Service → Prop
  | .artifactList name mediaType limit, service, answer, service' =>
      service' = service ∧
        Answers (listArtifacts service.disk.db caller.tenantId limit caller.policyActor
          { name := some name, mediaType := some mediaType }) answer
  | .artifactRead artifactId versionId, service, answer, service' =>
      ∃ version bytes file, ReflTransGen others service version ∧
        ReflTransGen others version bytes ∧ ReflTransGen others bytes file ∧
        ReflTransGen others file service' ∧
        Answers (readArtifact
          ⟨service.disk, version.disk, ⟨bytes.disk.db, file.disk.files⟩, service'.disk⟩
          caller.tenantId artifactId versionId caller.policyActor) answer
  | .artifactCreate name mediaType contentBase64 reason sourceContext, service, answer, service' =>
      serveCreate settings caller others name mediaType contentBase64 reason sourceContext service
        answer service'
  | .graphLink sourceArtifactId targetArtifactId edgeType, service, answer, service' =>
      ∃ draw disk result, perform settings (.link draw (F := F) {
            tenantId := caller.tenantId
            sourceArtifactId := sourceArtifactId
            targetArtifactId := targetArtifactId
            edgeType := edgeType
            actor := caller.policyActor }) service.disk = (disk, result) ∧
        service' = service.withDisk disk ∧ Answers (linkShown result) answer
  | .artifactSearch query, service, answer, service' =>
      service' = service ∧
        Answers (search engine service.disk.db caller.tenantId query 20 caller.policyActor none none)
          answer
  | .artifactVersions artifactId, service, answer, service' =>
      service' = service ∧
        Answers (versions service.disk.db caller.tenantId artifactId 100 caller.policyActor) answer
  | .graphTraverse startArtifactId, service, answer, service' =>
      service' = service ∧
        Answers (traverse service.disk.db caller.tenantId startArtifactId 2 100 caller.policyActor)
          answer

end Server

/-- The tools, used by the caller and by others who do not write the bundle. -/
def recipeServer (settings : Settings) (engine : SearchEngine F) (caller : Caller)
    (bundleId : PyStr) : Server (RecipeCall.Answer (F := F)) CallFailure Service where
  serve := serve settings engine caller
    (Bundle.Others F settings ⟨caller.tenantId, bundleId⟩)
  others := Bundle.Others F settings ⟨caller.tenantId, bundleId⟩

end FolioLattice.Recipe
