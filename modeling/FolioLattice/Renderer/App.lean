/-
The isolated renderer: the routes of its application, the page around a script or a
stylesheet, and what a browser asks for when it follows the reference in that page.
-/

import FolioLattice.Bridge.Decisions
import FolioLattice.Recipe.Bundle

namespace FolioLattice.Renderer

open FolioLattice.Text FolioLattice.Data FolioLattice.Server
open FolioLattice.External (unquoteToBytes)
open FolioLattice.Bridge (asciiLower bytesOf)
open FolioLattice.Recipe (versionedContentUrl)

/-! ### Reads -/

/-- The arguments of an `artifact_read`. -/
structure ReadArguments where
  artifactId : String
  versionId : Option String

/-- What is looked at of the answer; the size is that of its JSON, if it has one. -/
structure ReadAnswer where
  versionId : String
  mediaType : String
  text : Option (List Char)
  size : Option Nat
  deriving DecidableEq

inductive RenderError where
  | publicMcp (message : String)
  | responseTooLarge
  | timeout
  /-- whatever `_bounded` lets pass -/
  | other
  deriving DecidableEq

/-! ### Pages -/

def baseMediaType (value : String) : String :=
  String.ofList (lower (strip (value.toList.takeWhile (fun c => c ≠ ';'))))

def renderableMediaTypes : List String :=
  ["application/javascript", "text/css", "text/html", "text/javascript"]

def resourceMediaTypes : List String := ["application/javascript", "text/css", "text/javascript"]

/-- The page of `_wrapper`, with the URL it refers to. -/
structure Wrapper where
  stylesheet : Bool
  source : List Char
  deriving DecidableEq

/-- The page up to the value of its attribute. -/
def Wrapper.opening (page : Wrapper) : List Char :=
  ("<!doctype html>\n<html lang=\"en\"><head><meta charset=\"utf-8\">" ++
    "<title>Artifact preview</title>" ++
    if page.stylesheet then "<link rel=\"stylesheet\" href=\""
    else "</head>\n<body><main><h1>JavaScript preview</h1><p id=\"output\">Script loaded.</p></main>" ++
      "<script src=\"").toList

/-- The page from the quote behind that value. -/
def Wrapper.closing (page : Wrapper) : List Char :=
  doubleQuote ::
    (if page.stylesheet then
      "></head>\n<body><main><h1>Stylesheet preview</h1><p>Folio Lattice CSS artifact.</p>" ++
        "<button>Button</button></main><script>document.body.dataset.computedColor=" ++
        "getComputedStyle(document.body).color</script></body></html>"
    else "></script></body></html>").toList

def Wrapper.html (page : Wrapper) : List Char := page.opening ++ escape page.source ++ page.closing

/-- `_wrapper`; the URL of an empty id is an error. -/
def wrapper (artifactId versionId mediaType : String) : Except RenderError Wrapper :=
  match versionedContentUrl artifactId versionId with
  | .error _ => .error .other
  | .ok source => .ok ⟨mediaType = "text/css", source⟩

/-! ### Requests -/

structure RenderRequest where
  method : String
  rawPath : Bytes
  queryString : Bytes
  headers : List (Bytes × Bytes)

/-- The path as the server decodes it. -/
def RenderRequest.path (request : RenderRequest) : List Char := unquoteAscii request.rawPath

/-- `{key.lower(): value.lower()}.get(b"sec-fetch-dest") == b"iframe"` -/
def RenderRequest.ofIframe (request : RenderRequest) : Bool :=
  match request.headers.reverse.find? (fun header => asciiLower header.1 = bytesOf "sec-fetch-dest") with
  | some header => asciiLower header.2 = bytesOf "iframe"
  | none => false

/-- `parse_qs(query).get("version_id", [None])[0]`, for a query in ASCII. -/
def RenderRequest.versionId (request : RenderRequest) : Option String :=
  (queryValues false "version_id".toList request.queryString).head?.map String.ofList

def maxRendererPathBytes : Nat := 1024

def RenderRequest.tooLarge (request : RenderRequest) : Prop :=
  maxRendererPathBytes < request.rawPath.length + request.queryString.length

instance (request : RenderRequest) : Decidable request.tooLarge :=
  inferInstanceAs (Decidable (_ < _))

inductive RenderReply where
  /-- `_error` -/
  | error (status : Nat) (code message : String) (retryAfter : Option Nat)
  | refused (status : Nat) (error : String)
  | health (ready : Bool)
  | page (html : List Char)
  | wrapper (page : Wrapper)
  | resource (mediaType : String) (text : List Char)
  /-- an exception of the application -/
  | raised
  deriving DecidableEq

/-- What the two limiters of `_bounded` say. -/
inductive RenderAdmission where
  | limited (retryAfter : Nat)
  | busy
  | admitted

/-! ### The application -/

structure RendererApp where
  maxResponseBytes : Nat

/-- `caller.call("artifact_read", ...)` -/
abbrev ReadCaller : Type := ReadArguments → Except RenderError ReadAnswer

def RendererApp.checkResponseSize (app : RendererApp) (answer : ReadAnswer) :
    Except RenderError Unit :=
  match answer.size with
  | none => .error (.publicMcp "renderer response is invalid")
  | some size => if app.maxResponseBytes < size then .error .responseTooLarge else .ok ()

/-- A read whose answer is not too large. -/
def RendererApp.read (app : RendererApp) (caller : ReadCaller) (arguments : ReadArguments) :
    Except RenderError ReadAnswer := do
  let answer ← caller arguments
  app.checkResponseSize answer
  .ok answer

/-- `read["text"].encode()` -/
def encodedText (answer : ReadAnswer) : Except RenderError (List Char) :=
  match answer.text with
  | none => .error .other
  | some text => .ok text

def RendererApp.render (app : RendererApp) (caller : ReadCaller) (request : RenderRequest)
    (artifactId : String) (versionId : Option String) : Except RenderError RenderReply :=
  if request.tooLarge then .error (.publicMcp "render request is too large")
  else if 255 < artifactId.length ∨ versionId.any (fun id => 255 < id.length) = true then
    .error (.publicMcp "render identifier is too large")
  else do
    let answer ← app.read caller ⟨artifactId, versionId⟩
    let mediaType := baseMediaType answer.mediaType
    if mediaType ∉ renderableMediaTypes then
      .ok (.refused 415 ("unsupported render media type: " ++ mediaType))
    else if mediaType = "text/html" then do
      let text ← encodedText answer
      .ok (.page text)
    else do
      let page ← wrapper artifactId answer.versionId mediaType
      .ok (.wrapper page)

def RendererApp.content (app : RendererApp) (caller : ReadCaller) (request : RenderRequest)
    (artifactId versionId : String) : Except RenderError RenderReply :=
  if request.tooLarge then .error (.publicMcp "content request is too large")
  else if 255 < artifactId.length ∨ 255 < versionId.length then
    .error (.publicMcp "content identifier is too large")
  else do
    let answer ← app.read caller ⟨artifactId, some versionId⟩
    let mediaType := baseMediaType answer.mediaType
    if mediaType ∉ resourceMediaTypes then
      .error (.publicMcp "artifact content is not a render resource")
    else do
      let text ← encodedText answer
      .ok (.resource mediaType text)

/-- `_bounded` -/
def bounded (admission : RenderAdmission) (operation : Except RenderError RenderReply) :
    RenderReply :=
  match admission with
  | .limited retryAfter =>
      .error 429 "renderer_rate_limited" "Too many render requests. Try again later."
        (some retryAfter)
  | .busy =>
      .error 429 "renderer_concurrency_limited" "Renderer is busy. Try again later." (some 1)
  | .admitted =>
      match operation with
      | .ok reply => reply
      | .error .timeout =>
          .error 504 "renderer_timeout" "Render request timed out. Try again later." (some 1)
      | .error .responseTooLarge =>
          .error 502 "renderer_response_too_large" "Render response exceeds the allowed size." none
      | .error (.publicMcp message) =>
          .error (if "not found".toList <:+ message.toList then 404 else 400)
            "renderer_request_failed" message none
      | .error .other => .raised

def pageNotFound : RenderReply := .refused 404 "not found"

/-- `__call__`, for a request over HTTP. -/
def RendererApp.serve (app : RendererApp) (admission : RenderAdmission) (ready : Bool)
    (caller : ReadCaller) (request : RenderRequest) : RenderReply :=
  if request.path = "/health".toList ∨ request.path = "/readyz".toList then
    bounded admission (.ok (.health ready))
  else if request.method ≠ "GET" then .refused 405 "method not allowed"
  else if "/render/".toList <+: request.path then
    let artifactId := request.path.drop "/render/".length
    if request.ofIframe = false then pageNotFound
    else if artifactId = [] ∨ '/' ∈ artifactId then pageNotFound
    else
      bounded admission
        (app.render caller request (String.ofList artifactId) request.versionId)
  else if "/content/".toList <+: request.path then
    match request.path.splitOn '/' with
    | [_, _, artifactId, versionId] =>
        if artifactId = [] ∨ versionId = [] then pageNotFound
        else
          bounded admission
            (app.content caller request (String.ofList artifactId) (String.ofList versionId))
    | _ => pageNotFound
  else pageNotFound

/-! ### The browser -/

/-- The value of the attribute, as a browser reads it off the page. -/
def Wrapper.reference (page : Wrapper) : List Char :=
  attributeValue ((page.html.drop page.opening.length).takeWhile (fun c => c ≠ doubleQuote))

/-- `.`, also written `%2e` -/
def isSingleDot (segment : Bytes) : Bool := unquoteToBytes segment = [0x2e]

/-- `..`, with each of its dots in either way -/
def isDoubleDot (segment : Bytes) : Bool := unquoteToBytes segment = [0x2e, 0x2e]

end FolioLattice.Renderer
