/-
The recipe that places one web page with its style sheet and its script in the store, as a
client of the tools.
-/

import FolioLattice.Auth.Memberships
import FolioLattice.Concurrency.Clients
import FolioLattice.Server.Query
import FolioLattice.Store.Graph
import FolioLattice.Store.Search

namespace FolioLattice.Recipe

open FolioLattice.Text FolioLattice.Data FolioLattice.Store FolioLattice.Concurrency
open FolioLattice.Auth (stripPy)
open FolioLattice.Server (quote asciiText escape)

def bundleSchema : PyStr := pyStr "folio-lattice.asset-bundle.v1"

def maxBundleIdLength : Nat := 255

def maxNameLength : Nat := 255

def maxBodyBytes : Nat := 8 * 1024 * 1024

def maxIdempotencyCandidates : Nat := 100

/-! ### Assets -/

inductive AssetRole where
  | css
  | js
  | html
  deriving DecidableEq

def AssetRole.name : AssetRole → String
  | .css => "css"
  | .js => "js"
  | .html => "html"

def AssetRole.mediaType : AssetRole → String
  | .css => "text/css"
  | .js => "application/javascript"
  | .html => "text/html"

structure BundleAsset where
  role : AssetRole
  artifactId : String
  versionId : String
  name : String
  mediaType : String
  deriving DecidableEq

inductive RecipeFailure where
  /-- `AgentRecipeError`, with the assets that are there -/
  | recipe (message : String) (completed : List BundleAsset)
  /-- a `ValueError`, which includes that of a text that has no encoding -/
  | value
  deriving DecidableEq

def recipeError (message : String) : RecipeFailure := .recipe message []

def versionedContentUrl (artifactId versionId : String) : Except RecipeFailure (List Char) :=
  if artifactId.isEmpty ∨ versionId.isEmpty then .error .value
  else .ok ("/content/".toList ++ asciiText (quote artifactId.toList) ++
    '/' :: asciiText (quote versionId.toList))

def BundleAsset.contentUrl (asset : BundleAsset) : Except RecipeFailure (List Char) :=
  versionedContentUrl asset.artifactId asset.versionId

/-! ### Tools -/

/-- The calls of tools that the recipe makes. -/
inductive RecipeCall (F : Type) where
  | artifactList (name mediaType : String) (limit : Int)
  | artifactRead (artifactId : String) (versionId : Option String)
  | artifactCreate (name mediaType contentBase64 reason : String)
      (sourceContext : List (PyStr × Json F))
  | graphLink (sourceArtifactId targetArtifactId edgeType : String)
  | artifactSearch (query : String)
  | artifactVersions (artifactId : String)
  | graphTraverse (startArtifactId : String)

/-- What `create_artifact` returns. -/
structure CreatedArtifact (F : Type) where
  artifact : ArtifactView
  version : VersionView F

@[reducible]
def RecipeCall.Answer {F : Type} : RecipeCall F → Type
  | .artifactList _ _ _ => List ArtifactListItem
  | .artifactRead _ _ => ArtifactContent F
  | .artifactCreate _ _ _ _ _ => CreatedArtifact F
  | .graphLink _ _ _ => EdgeView F
  | .artifactSearch _ => List (SearchItem F)
  | .artifactVersions _ => List (VersionView F)
  | .graphTraverse _ => List (TraverseItem F)

def RecipeCall.tool {F : Type} : RecipeCall F → String
  | .artifactList _ _ _ => "artifact_list"
  | .artifactRead _ _ => "artifact_read"
  | .artifactCreate _ _ _ _ _ => "artifact_create"
  | .graphLink _ _ _ => "graph_link"
  | .artifactSearch _ => "artifact_search"
  | .artifactVersions _ => "artifact_versions"
  | .graphTraverse _ => "graph_traverse"

/-- How a call fails for the client. -/
inductive CallFailure where
  /-- it raises -/
  | transport
  /-- the response is an error, with these texts -/
  | rejected (texts : List (List Char))
  /-- the response has no structured content -/
  | unstructured

def safeResponseText (texts : List (List Char)) : String :=
  let joined := (List.intercalate [' '] (texts.filter (· ≠ []))).take 200
  if joined = [] then "tool returned an error" else String.ofList joined

def transportFailed (tool : String) : RecipeFailure := recipeError (tool ++ " transport failed")

def callFailed (tool : String) : CallFailure → RecipeFailure
  | .transport => transportFailed tool
  | .rejected texts => recipeError (tool ++ " rejected: " ++ safeResponseText texts)
  | .unstructured => recipeError (tool ++ " returned no structured content")

abbrev RecipeClient (F α : Type) :=
  Client (RecipeCall.Answer (F := F)) CallFailure RecipeFailure α

section Calls

variable {F : Type}

/-- `_call` -/
def callTool (call : RecipeCall F) : RecipeClient F call.Answer :=
  .request call (callFailed call.tool)

/-- A text as the transport carries it, which has no code for a surrogate. -/
def sent (tool : String) (text : PyStr) : Except RecipeFailure String :=
  match charsOf text with
  | some chars => .ok (String.ofList chars)
  | none => .error (transportFailed tool)

/-- `_text` -/
def text (value field : String) : Except RecipeFailure String :=
  if value.isEmpty then .error (recipeError ("response omitted " ++ field)) else .ok value

/-- `_asset` -/
def asset (artifact : ArtifactView) (version : VersionView F) (role : AssetRole) :
    Except RecipeFailure BundleAsset := do
  let artifactId ← text artifact.id "artifact.id"
  let versionId ← text version.id "version.id"
  let name ← text artifact.name "artifact.name"
  let mediaType ← text artifact.mediaType "artifact.media_type"
  .ok ⟨role, artifactId, versionId, name, mediaType⟩

/-! ### One asset -/

/-- `_context` -/
def context (bundleId : PyStr) (role : AssetRole) (name : PyStr) (body : Bytes) :
    List (PyStr × Json F) :=
  [(pyStr "schema", .str bundleSchema), (pyStr "bundle_id", .str bundleId),
    (pyStr "role", .str (pyStr role.name)), (pyStr "relative_path", .str name),
    (pyStr "content_sha256", .str (pyStr (hashlibSha256 body).hex))]

/-- `context.get(key) == text` -/
def holdsText (context : List (PyStr × Json F)) (key : String) (text : PyStr) : Bool :=
  match lookup (pyStr key) context with
  | some (.str held) => held = text
  | _ => false

/-- The context of a version is one of this role of the bundle. -/
def isBundleContext (bundleId role : PyStr) : Json F → Bool
  | .obj context => holdsText context "schema" bundleSchema &&
      holdsText context "bundle_id" bundleId && holdsText context "role" role
  | _ => false

def holdsHash (expectedHash : Digest) : Json F → Bool
  | .obj context => holdsText context "content_sha256" (pyStr expectedHash.hex)
  | _ => false

/-- The two checks of the content, of which the second one decodes the body. -/
def checkContent (role : AssetRole) (expectedHash : Digest) (completed : List BundleAsset)
    (read : ArtifactContent F) : Except RecipeFailure Unit :=
  let different : RecipeFailure :=
    .recipe (role.name ++ " bundle ID has different content") completed
  if !holdsHash expectedHash read.version.sourceContext then .error different
  else
    match b64decode read.contentBase64.toList with
    | none => .error (recipeError "artifact_read returned invalid content_base64")
    | some body => if hashlibSha256 body ≠ expectedHash then .error different else .ok ()

/-- The loop over the candidates. -/
def findMatches (bundleId : PyStr) (role : AssetRole) (expectedHash : Digest)
    (completed : List BundleAsset) :
    List ArtifactListItem → List BundleAsset → RecipeClient F (List BundleAsset)
  | [], found => .ret found
  | candidate :: rest, found => do
      let candidateId ← .ofExcept (text candidate.id "artifact.id")
      let read : ArtifactContent F ← callTool (.artifactRead candidateId none)
      if isBundleContext bundleId (pyStr role.name) read.version.sourceContext then
        .ofExcept (checkContent role expectedHash completed read)
        let match' ← .ofExcept (asset read.artifact read.version role)
        findMatches bundleId role expectedHash completed rest (found ++ [match'])
      else findMatches bundleId role expectedHash completed rest found

def createAsset (bundleId : PyStr) (role : AssetRole) (name : PyStr) (body : Bytes) :
    RecipeClient F BundleAsset := do
  let sentName ← .ofExcept (sent "artifact_create" name)
  let _ ← .ofExcept (sent "artifact_create" bundleId)
  let created : CreatedArtifact F ← callTool (.artifactCreate sentName role.mediaType
    (String.ofList (b64encode body)) ("asset bundle " ++ role.name)
    (context bundleId role name body))
  .ofExcept (asset created.artifact created.version role)

/-- `_ensure` -/
def ensure (bundleId : PyStr) (role : AssetRole) (name : PyStr) (body : Bytes)
    (completed : List BundleAsset) : RecipeClient F BundleAsset := do
  let sentName ← .ofExcept (sent "artifact_list" name)
  let candidates : List ArtifactListItem ←
    callTool (.artifactList sentName role.mediaType maxIdempotencyCandidates)
  let found ← findMatches bundleId role (hashlibSha256 body) completed candidates []
  match found with
  | [] =>
      if maxIdempotencyCandidates ≤ candidates.length then
        .raise (.recipe (role.name ++ " idempotency search reached its bound") completed)
      else createAsset bundleId role name body
  | [match'] => .ret match'
  | _ => .raise (.recipe (role.name ++ " bundle ID is ambiguous") completed)

end Calls

/-! ### The recipe -/

structure RecipeArguments where
  bundleId : PyStr
  renderBaseUrl : PyStr
  title : PyStr := pyStr "Folio Lattice asset bundle"
  htmlName : PyStr := pyStr "index.html"
  cssName : PyStr := pyStr "style.css"
  jsName : PyStr := pyStr "app.js"
  cssBody : Bytes := encodeUtf8
    "body \x7b color: #17324d; font: 16px system-ui; \x7d".toList
  jsBody : Bytes := encodeUtf8
    "document.querySelector('[data-agent-status]').textContent = 'Ready';".toList

def RecipeArguments.name (args : RecipeArguments) : AssetRole → PyStr
  | .css => args.cssName
  | .js => args.jsName
  | .html => args.htmlName

/-- `_validate` -/
def RecipeArguments.validate (args : RecipeArguments) : Except RecipeFailure Unit :=
  let names := [args.htmlName, args.cssName, args.jsName]
  if args.bundleId.isEmpty ∨ maxBundleIdLength < args.bundleId.length then
    .error (recipeError "bundle_id is invalid")
  else if (stripPy args.renderBaseUrl).isEmpty then
    .error (recipeError "render_base_url is invalid")
  else if args.title.isEmpty ∨ maxNameLength < args.title.length then
    .error (recipeError "title is invalid")
  else if names.any (fun name => name.isEmpty || maxNameLength < name.length) then
    .error (recipeError "asset name is invalid")
  else if ¬names.Nodup then .error (recipeError "asset names must be unique")
  else if [args.cssBody, args.jsBody].any (fun body => maxBodyBytes < body.length) then
    .error (recipeError "asset body exceeds the allowed size")
  else .ok ()

def htmlText (title cssUrl jsUrl : List Char) : List Char :=
  "<!doctype html>\n<html lang=\"en\"><head><meta charset=\"utf-8\"><title>".toList ++
    escape title ++ "</title>\n<link rel=\"stylesheet\" href=\"".toList ++ escape cssUrl ++
    "\"></head>\n<body><main><h1>".toList ++ escape title ++
    "</h1><p data-agent-status>Loading</p></main>\n<script src=\"".toList ++ escape jsUrl ++
    "\"></script></body></html>".toList

/-- `html_body`; a title with a surrogate has no encoding. -/
def RecipeArguments.htmlBody (args : RecipeArguments) (css javascript : BundleAsset) :
    Except RecipeFailure Bytes := do
  let cssUrl ← css.contentUrl
  let jsUrl ← javascript.contentUrl
  match charsOf args.title with
  | some title => .ok (encodeUtf8 (htmlText title cssUrl jsUrl))
  | none => .error .value

structure ManifestAsset where
  role : AssetRole
  artifactId : String
  versionId : String
  name : String
  mediaType : String
  contentUrl : List Char

def BundleAsset.manifest (asset : BundleAsset) : Except RecipeFailure ManifestAsset := do
  let contentUrl ← asset.contentUrl
  .ok ⟨asset.role, asset.artifactId, asset.versionId, asset.name, asset.mediaType, contentUrl⟩

structure Manifest (F : Type) where
  schema : PyStr
  bundleId : PyStr
  assets : List ManifestAsset
  links : List (EdgeView F)

structure AgentRecipeResult (F : Type) where
  bundleId : PyStr
  manifest : Manifest F
  artifacts : List BundleAsset
  links : List (EdgeView F)
  nameSearch : List (SearchItem F)
  typeSearch : List (SearchItem F)
  read : ArtifactContent F
  versions : List (VersionView F)
  traversal : List (TraverseItem F)
  artifactIds : List (AssetRole × String)
  versionIds : List (AssetRole × String)
  linkIds : List String
  renderUrl : PyStr

def RecipeArguments.renderUrl (args : RecipeArguments) (html : BundleAsset) : PyStr :=
  args.renderBaseUrl.rdropWhile (· = codePoint '/') ++
    ("/render/".toList ++ asciiText (quote html.artifactId.toList) ++ "?version_id=".toList ++
      asciiText (quote html.versionId.toList)).map codePoint

def referencesType : String := "references"

section Recipe

variable {F : Type} (args : RecipeArguments)

/-- The three assets, each with those before it. -/
def ensureAssets : RecipeClient F (BundleAsset × BundleAsset × BundleAsset) := do
  let css ← ensure args.bundleId .css args.cssName args.cssBody []
  let javascript ← ensure args.bundleId .js args.jsName args.jsBody [css]
  let htmlBody ← .ofExcept (args.htmlBody css javascript)
  let html ← ensure args.bundleId .html args.htmlName htmlBody [css, javascript]
  .ret (css, javascript, html)

def linkAsset (html target : BundleAsset) : RecipeClient F (EdgeView F) :=
  callTool (.graphLink html.artifactId target.artifactId referencesType)

/-- `run_recipe` -/
def runRecipe : RecipeClient F (AgentRecipeResult F) := do
  .ofExcept args.validate
  let (css, javascript, html) ← ensureAssets args
  let cssLink ← linkAsset html css
  let jsLink ← linkAsset html javascript
  let artifacts := [html, css, javascript]
  let links := [cssLink, jsLink]
  let nameSearch : List (SearchItem F) ← callTool (.artifactSearch html.name)
  let typeSearch : List (SearchItem F) ← callTool (.artifactSearch "text/html")
  let read : ArtifactContent F ← callTool (.artifactRead html.artifactId (some html.versionId))
  let versions : List (VersionView F) ← callTool (.artifactVersions html.artifactId)
  let traversal : List (TraverseItem F) ← callTool (.graphTraverse html.artifactId)
  let assets ← .ofExcept (artifacts.mapM BundleAsset.manifest)
  let linkIds ← .ofExcept (links.mapM (fun link => text link.id "link.id"))
  .ret {
    bundleId := args.bundleId
    manifest := ⟨bundleSchema, args.bundleId, assets, links⟩
    artifacts := artifacts
    links := links
    nameSearch := nameSearch
    typeSearch := typeSearch
    read := read
    versions := versions
    traversal := traversal
    artifactIds := artifacts.map (fun asset => (asset.role, asset.artifactId))
    versionIds := artifacts.map (fun asset => (asset.role, asset.versionId))
    linkIds := linkIds
    renderUrl := args.renderUrl html }

end Recipe

end FolioLattice.Recipe
