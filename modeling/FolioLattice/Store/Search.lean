/-
Search: rows from the metadata and from the full-text tables, merged to one item for
each artifact.
-/

import FolioLattice.Store.Graph
import FolioLattice.Relational.Entries

namespace FolioLattice.Store

open FolioLattice.Text FolioLattice.Data FolioLattice.Relational

variable {F : Type} [FloatFormat F]

/-! ### Matching a text -/

/-- `_search_match_offset`; `none` is -1. -/
def searchMatchOffset (value query : List Char) : Option Nat :=
  match find (casefold value) (casefold query) with
  | some offset => some offset
  | none =>
      let normalizedQuery := normalizeWords (casefold query)
      let normalizedValue := normalizeWords (casefold value)
      if normalizedQuery = [] ∨ contains normalizedValue normalizedQuery = false then none
      else find (casefold value) (firstWord normalizedQuery)

def searchMatches (value query : List Char) : Bool := (searchMatchOffset value query).isSome

/-- `value[start:stop]` for positions from the start. -/
def slice (value : List Char) (start stop : Nat) : List Char := (value.take stop).drop start

def snippetRadius : Nat := 72

/-- Where the match stands, and the length of the text that is marked. -/
def snippetMatch (value query : List Char) : Option (Nat × Nat) :=
  match find (casefold value) (casefold query) with
  | some offset => some (offset, query.length)
  | none =>
      let normalizedQuery := normalizeWords (casefold query)
      let normalizedValue := normalizeWords (casefold value)
      if contains normalizedValue normalizedQuery = true ∧ normalizedQuery ≠ [] then
        let word := firstWord normalizedQuery
        (find (casefold value) word).map (fun offset =>
          (offset, (slice value offset (offset + word.length)).length))
      else none

/-- `_search_snippet`; the offset is one of the folded text. -/
def searchSnippet (value query : List Char) : List Char :=
  match snippetMatch value query with
  | none => value.take (snippetRadius * 2)
  | some (offset, length) =>
      let stop := offset + length
      let start := offset - snippetRadius
      let finish := min value.length (stop + snippetRadius)
      (if start ≠ 0 then ['…'] else []) ++ slice value start offset ++ '[' ::
        slice value offset stop ++ ']' :: slice value stop finish ++
          (if finish < value.length then ['…'] else [])

/-! ### Paths through the graph -/

/-- The first of the three keys that the context has a value for. -/
def contextPath (name : String) : Json F → Json F
  | .obj entries =>
      let given := ["path", "file_path", "filename"].filterMap (fun key =>
        (lookup (pyStr key) entries).filter Json.truthy)
      given.head?.getD (.str (pyStr name))
  | _ => .str (pyStr name)

/-- The stored context of a version; a text that is no JSON counts as empty. -/
def searchPath (name sourceContext : String) : Except Failure (Json F) :=
  match (loads sourceContext.toList : Except LoadError (Json F)) with
  | .ok value => .ok (contextPath name value)
  | .error .decode => .ok (contextPath name (.obj []))
  | .error .digits => .error (.json .digits)

/-- An artifact with its current version. -/
structure CurrentRow where
  artifact : ArtifactRow
  version : VersionRow
  deriving DecidableEq

/-- The join of artifacts and versions on the current version. -/
def Database.current (db : Database) (artifacts : List ArtifactRow) : List CurrentRow :=
  artifacts.filterMap (fun a => (db.currentVersion a).map (fun v => ⟨a, v⟩))

/-- A node as it is found: a row, and the rows on the way to it. -/
structure FoundNode where
  row : CurrentRow
  way : List CurrentRow

def FoundNode.key (node : FoundNode) : String := node.row.artifact.id

def FoundNode.next (db : Database) (tenantId : String) (access : ArtifactRow → Bool)
    (node : FoundNode) : List FoundNode :=
  (db.current (db.adjacent tenantId access node.key)).map (fun row =>
    ⟨row, node.way ++ [row]⟩)

/-- A node as it is shown, with the value that `str` makes a path of. -/
structure PathNode (F : Type) where
  artifactId : String
  name : String
  path : Json F

def CurrentRow.node (row : CurrentRow) : Except Failure (PathNode F) := do
  let path ← searchPath row.artifact.name row.version.sourceContext
  .ok ⟨row.artifact.id, row.artifact.name, path⟩

def FoundNode.path (node : FoundNode) : Except Failure (String × List (PathNode F)) := do
  let nodes ← node.way.mapM CurrentRow.node
  .ok (node.key, nodes)

/-- The nodes of the search from `root`, in the order in which they are found. -/
def Database.readableNodes (db : Database) (tenantId : String) (access : ArtifactRow → Bool)
    (root : CurrentRow) : List FoundNode :=
  breadthFirst FoundNode.key (FoundNode.next db tenantId access) maxGraphComponentNodes
    ⟨root, [root]⟩

def readableGraphPaths (F : Type) [FloatFormat F] (db : Database) (tenantId rootArtifactId : String)
    (actor : Option String) : Except Failure (List (String × List (PathNode F))) := do
  authorize db tenantId rootArtifactId actor .read
  let access ← accessClause db actor .read
  match db.current (db.artifacts.filter (fun a =>
      a.tenantId = tenantId && a.id = rootArtifactId && access a)) with
  | [] => .error notFound
  | root :: _ => (db.readableNodes tenantId access root).mapM FoundNode.path

/-! ### The rows -/

def maxSearchCandidates : Nat := 10000

/-- A row of the four sources; metadata rows have no chunk. -/
structure SearchRow (F : Type) where
  current : CurrentRow
  chunkId : Option String
  content : Option String
  score : Option F

def SearchRow.key (row : SearchRow F) : (String ×ₗ String)ᵒᵈ :=
  OrderDual.toDual (toLex (row.current.version.createdAt, row.current.artifact.id))

/-- The full-text tables and the order of equal rows, which SQLite leaves open: the
rows that `MATCH` a phrase with their scores, the best first, or `OperationalError`. -/
structure SearchEngine (F : Type) where
  tokenMatches : String → List FtsRow → Option (List (FtsRow × F))
  substringMatches : String → List FtsRow → Option (List (FtsRow × F))
  arrange : List (SearchRow F) → List (SearchRow F)
  token_mem : ∀ phrase rows found, tokenMatches phrase rows = some found →
    ∀ hit ∈ found, hit.1 ∈ rows
  substring_mem : ∀ phrase rows found, substringMatches phrase rows = some found →
    ∀ hit ∈ found, hit.1 ∈ rows
  arrange_perm : ∀ rows, (arrange rows).Perm rows
  arrange_sorted : ∀ rows, (arrange rows).Pairwise (fun a b => a.key ≤ b.key)

/-- `'"' + query.replace('"', '""') + '"'` -/
def quotePhrase (query : List Char) : String :=
  String.ofList ('"' :: query.flatMap (fun c => if c = '"' then ['"', '"'] else [c]) ++ ['"'])

def instrLower (value query : List Char) : Bool := contains (lower value) (lower query)

def metadataMatches (query : List Char) (readable : List CurrentRow) : List (SearchRow F) :=
  (readable.filter (fun r => instrLower r.artifact.name.toList query ||
    instrLower r.artifact.mediaType.toList query)).map (fun r => ⟨r, none, none, none⟩)

/-- The join of the readable rows with a row of a full-text table. -/
def ftsJoin (readable : List CurrentRow) (row : FtsRow) : List CurrentRow :=
  readable.filter (fun r => r.artifact.tenantId = row.tenantId && r.artifact.id = row.artifactId &&
    r.artifact.currentVersionId = some row.versionId)

def bodyFtsMatches (readable : List CurrentRow) (found : List (FtsRow × F)) : List (SearchRow F) :=
  (found.flatMap (fun hit =>
    (ftsJoin readable hit.1).map (fun r =>
      (⟨r, some hit.1.chunkId, some hit.1.content, some hit.2⟩ : SearchRow F)))).take
    maxSearchCandidates

/-- A query too short for the full-text tables is looked for in the newest chunks. -/
def bodyBoundedMatches (db : Database) (tenantId : String) (query : List Char)
    (readable : List CurrentRow) : List (SearchRow F) :=
  let candidates := (db.chunkFts.filter (fun row => row.tenantId = tenantId)).reverse.take
    maxSearchCandidates
  candidates.flatMap (fun candidate =>
    (ftsJoin readable candidate).flatMap (fun r =>
      (db.chunks.filter (fun c => c.id = candidate.chunkId && c.tenantId = candidate.tenantId &&
          instrLower c.content.toList query)).map (fun c =>
        ⟨r, some c.id, some c.content, none⟩)))

def searchRows (engine : SearchEngine F) (db : Database) (tenantId : String) (query : List Char)
    (readable : List CurrentRow) : Except Failure (List (SearchRow F)) :=
  match engine.tokenMatches (quotePhrase query) db.chunkFts,
      engine.substringMatches (quotePhrase query) db.chunkSubstringFts with
  | some tokens, some substrings =>
      let bounded :=
        if query.length < 3 then bodyBoundedMatches db tenantId query readable else []
      .ok ((engine.arrange (metadataMatches query readable ++ bodyFtsMatches readable tokens ++
        bodyFtsMatches readable substrings ++ bounded)).take maxSearchCandidates)
  | _, _ => .error (.folio "invalid search query")

/-! ### Merging the rows -/

inductive MatchKind where
  | name
  | mediaType
  | body
  deriving DecidableEq, Repr

/-- An item of the result; `name`, `graph_context` and `match_kind` repeat its fields. -/
structure SearchItem (F : Type) where
  artifactId : String
  versionId : Option String
  artifactName : String
  mediaType : String
  matchKinds : List MatchKind
  snippet : List Char
  chunkId : Option String
  score : Option F
  path : Json F
  graphPath : List (PathNode F)
  graphRootArtifactId : Option String
  updatedAt : String

/-- `item["match_kind"]` -/
def SearchItem.matchKind (item : SearchItem F) : String :=
  match item.matchKinds with
  | [.name] => "name"
  | [.mediaType] => "media_type"
  | [.body] => "body"
  | _ => "multiple"

def SearchRow.body (row : SearchRow F) : List Char := (row.content.getD "").toList

def SearchRow.bodyMatches (row : SearchRow F) (query : List Char) : Bool :=
  !row.body.isEmpty && searchMatches row.body query

def SearchRow.kinds (row : SearchRow F) (query : List Char) : List MatchKind :=
  (if searchMatches row.current.artifact.name.toList query then [.name] else []) ++
    (if searchMatches row.current.artifact.mediaType.toList query then [.mediaType] else []) ++
      (if row.bodyMatches query then [.body] else [])

/-- The item that the first row of an artifact makes. -/
def newSearchItem (graphRoot : Option String) (paths : List (String × List (PathNode F)))
    (row : SearchRow F) : Except Failure (SearchItem F) := do
  let path ← searchPath row.current.artifact.name row.current.version.sourceContext
  .ok {
    artifactId := row.current.artifact.id
    versionId := row.current.artifact.currentVersionId
    artifactName := row.current.artifact.name
    mediaType := row.current.artifact.mediaType
    matchKinds := []
    snippet := []
    chunkId := none
    score := none
    path := path
    graphPath := (getEntry row.current.artifact.id paths).getD []
    graphRootArtifactId := graphRoot
    updatedAt :=
      if row.current.version.createdAt = "" then row.current.artifact.createdAt
      else row.current.version.createdAt }

def addKind (kinds : List MatchKind) (kind : MatchKind) : List MatchKind :=
  if kind ∈ kinds then kinds else kinds ++ [kind]

/-- The body of a row as the item's match. -/
def SearchItem.withBody (item : SearchItem F) (query : List Char) (row : SearchRow F) :
    SearchItem F :=
  { item with snippet := searchSnippet row.body query, chunkId := row.chunkId, score := row.score }

def SearchItem.merge (item : SearchItem F) (query : List Char) (row : SearchRow F) :
    SearchItem F :=
  let hadBodyMatch := MatchKind.body ∈ item.matchKinds
  let kinds := row.kinds query
  let item := { item with matchKinds := kinds.foldl addKind item.matchKinds }
  if row.bodyMatches query ∧ ¬hadBodyMatch then item.withBody query row
  else if row.bodyMatches query ∧ item.score.isNone then item.withBody query row
  else if item.snippet = [] then
    let value := if MatchKind.name ∈ kinds then row.current.artifact.name
      else row.current.artifact.mediaType
    { item with snippet := searchSnippet value.toList query }
  else item

/-- The item of the row's artifact, new with its first row. -/
def itemOf (graphRoot : Option String) (paths : List (String × List (PathNode F)))
    (byArtifact : List (String × SearchItem F)) (row : SearchRow F) :
    Except Failure (SearchItem F) :=
  match getEntry row.current.artifact.id byArtifact with
  | some item => .ok item
  | none => newSearchItem graphRoot paths row

/-- `by_artifact` after one row. -/
def searchStep (query : List Char) (graphRoot : Option String)
    (paths : List (String × List (PathNode F))) (byArtifact : List (String × SearchItem F))
    (row : SearchRow F) : Except Failure (List (String × SearchItem F)) :=
  if row.kinds query = [] then .ok byArtifact
  else do
    let item ← itemOf graphRoot paths byArtifact row
    .ok (putEntry row.current.artifact.id (item.merge query row) byArtifact)

/-! ### The call -/

def SearchItem.key (item : SearchItem F) : (String ×ₗ String)ᵒᵈ :=
  OrderDual.toDual (toLex (item.updatedAt, item.artifactId))

def parseSearchCursor : Option String → Except Failure (Option (String × String))
  | none => .ok none
  | some cursor =>
      match parseArtifactListCursor cursor with
      | .error _ => .error (.folio "invalid artifact_search cursor")
      | .ok parsed => .ok (some parsed)

/-- The artifacts that a search looks at, before the full-text tables. -/
def Database.searchable (db : Database) (tenantId : String) (access : ArtifactRow → Bool)
    (component : Option (List String)) (cursor : Option (String × String)) : List CurrentRow :=
  (db.current (db.artifacts.filter (fun a =>
    a.tenantId = tenantId && component.all (fun ids => a.id ∈ ids) && access a))).filter (fun r =>
      afterCursor cursor r.version.createdAt r.artifact.id)

/-- The component that the search is confined to. -/
def searchPaths (F : Type) [FloatFormat F] (db : Database) (tenantId : String)
    (actor graphRoot : Option String) :
    Except Failure (Option (List (String × List (PathNode F)))) :=
  match graphRoot with
  | none => .ok none
  | some root => (readableGraphPaths F db tenantId root actor).map some

/-- `search` once the query is known to have a length between the bounds. -/
def searchQuery (engine : SearchEngine F) (db : Database) (tenantId : String) (query : List Char)
    (limit : Int) (actor graphRoot cursor : Option String) :
    Except Failure (List (SearchItem F)) := do
  let cursor ← parseSearchCursor cursor
  let paths ← searchPaths F db tenantId actor graphRoot
  let access ← accessClause db actor .read
  let readable := db.searchable tenantId access (paths.map (fun p => p.map (·.1))) cursor
  let rows ← searchRows engine db tenantId query readable
  let byArtifact ← rows.foldlM (searchStep query graphRoot (paths.getD [])) []
  let ordered := orderBy SearchItem.key (byArtifact.map (·.2))
  .ok ((ordered.filter (fun item => afterCursor cursor item.updatedAt item.artifactId)).take
    (clampLimit limit 100))

def search (engine : SearchEngine F) (db : Database) (tenantId query : String) (limit : Int)
    (actor graphRoot cursor : Option String) : Except Failure (List (SearchItem F)) :=
  let query := strip query.toList
  if query = [] then do
    graphRoot.forM (fun root => authorize db tenantId root actor .read)
    .ok []
  else if maxQueryLength < query.length then
    .error (.folio ("query exceeds " ++ toString maxQueryLength ++ " characters"))
  else searchQuery engine db tenantId query limit actor graphRoot cursor

end FolioLattice.Store
