/-
Edges between artifacts: linking, traversal and connected components.
-/

import FolioLattice.Relational.BreadthFirst
import FolioLattice.Store.Reads

namespace FolioLattice.Store

open FolioLattice.Text FolioLattice.Data FolioLattice.Relational

variable {F : Type} [FloatFormat F]

/-! ### Linking -/

structure LinkRequest (F : Type) where
  tenantId : String
  sourceArtifactId : String
  targetArtifactId : String
  edgeType : String
  /-- `None` and `{}` are one. -/
  metadata : List (PyStr × Json F) := []
  actor : Option String := none

structure EdgeDraw where
  edgeId : Uuid
  now : Timestamp

/-- An edge as `link` shows it. -/
structure EdgeView (F : Type) where
  id : String
  sourceArtifactId : String
  targetArtifactId : String
  edgeType : String
  metadata : Json F
  createdAt : String

def EdgeRow.view (row : EdgeRow) : Except Failure (EdgeView F) := do
  let metadata ← loadText row.metadataJson
  .ok ⟨row.id, row.sourceArtifactId, row.targetArtifactId, row.edgeType, metadata, row.createdAt⟩

def LinkRequest.validate (request : LinkRequest F) : Except Failure String := do
  if request.sourceArtifactId = request.targetArtifactId then
    .error (.folio "self-links are not allowed")
  else
    validateText "edge_type" request.edgeType maxEdgeTypeLength
    json (.obj request.metadata) "metadata"

def LinkRequest.edgeRow (request : LinkRequest F) (metadataJson : String) (draw : EdgeDraw) :
    EdgeRow where
  id := newId "edg" draw.edgeId
  tenantId := request.tenantId
  sourceArtifactId := request.sourceArtifactId
  targetArtifactId := request.targetArtifactId
  edgeType := request.edgeType
  metadataJson := metadataJson
  createdAt := draw.now.isoformat

/-- The columns of the edges' unique constraint. -/
def EdgeRow.sameLink (a b : EdgeRow) : Bool :=
  a.tenantId = b.tenantId && a.sourceArtifactId = b.sourceArtifactId &&
    a.targetArtifactId = b.targetArtifactId && a.edgeType = b.edgeType

def EdgeRow.clashes (new old : EdgeRow) : Bool := new.id = old.id || new.sameLink old

/-- One end of a link: it exists and the actor may write it. -/
def linkEnd (db : Database) (tenantId artifactId : String) (actor : Option String) :
    Except Failure Unit :=
  match db.findArtifact tenantId artifactId with
  | none => .error notFound
  | some _ => authorize db tenantId artifactId actor .write

/-- The transaction of `link`. -/
def linkBody (draw : EdgeDraw) (request : LinkRequest F) (metadataJson : String) (db : Database) :
    Except Failure (Database × EdgeRow) := do
  linkEnd db request.tenantId request.sourceArtifactId request.actor
  linkEnd db request.tenantId request.targetArtifactId request.actor
  let row := request.edgeRow metadataJson draw
  match db.edges.find? row.sameLink with
  | some existing =>
      if existing.metadataJson ≠ metadataJson then
        .error (.folio "edge already exists with different immutable metadata")
      else .ok (db, existing)
  | none =>
      let edges ← insertUnique EdgeRow.clashes row db.edges
      .ok ({ db with edges := edges }, row)

/-! ### Traversal -/

structure TraverseItem (F : Type) where
  id : String
  sourceArtifactId : String
  targetArtifactId : String
  edgeType : String
  targetArtifactName : String
  metadata : Json F
  depth : Nat

/-- The readable targets of the edges out of `current`, oldest edge first. -/
def Database.outgoing (db : Database) (tenantId : String) (access : ArtifactRow → Bool)
    (current : String) : List (EdgeRow × String) :=
  let rows := (db.edges.filter (fun e =>
      e.tenantId = tenantId && e.sourceArtifactId = current)).filterMap (fun e =>
    (db.artifacts.find? (fun a =>
        a.id = e.targetArtifactId && a.tenantId = e.tenantId && access a)).map
      (fun a => (e, a.name)))
  orderBy (fun row => toLex (row.1.createdAt, row.1.id)) rows

structure TraverseState (F : Type) where
  results : List (TraverseItem F)
  seen : List String
  queue : List (String × Nat)

def traverseItem (depth : Nat) (row : EdgeRow × String) : Except Failure (TraverseItem F) := do
  let metadata ← loadText row.1.metadataJson
  .ok {
    id := row.1.id
    sourceArtifactId := row.1.sourceArtifactId
    targetArtifactId := row.1.targetArtifactId
    edgeType := row.1.edgeType
    targetArtifactName := row.2
    metadata := metadata
    depth := depth + 1 }

/-- A result, and its target in the queue unless it was there before. -/
def TraverseState.add (state : TraverseState F) (item : TraverseItem F) (depth : Nat) :
    TraverseState F :=
  let target := item.targetArtifactId
  if target ∈ state.seen then { state with results := state.results ++ [item] }
  else ⟨state.results ++ [item], state.seen ++ [target], state.queue ++ [(target, depth + 1)]⟩

/-- The rows of one node; the last one taken is that which reaches the limit. -/
def traverseRows (limit depth : Nat) :
    List (EdgeRow × String) → TraverseState F → Except Failure (TraverseState F)
  | [], state => .ok state
  | row :: rest, state => do
      let item ← traverseItem depth row
      let state := state.add item depth
      if limit ≤ state.results.length then .ok state else traverseRows limit depth rest state

/-- A node is queued only with a result, so one round more than there may be
results is enough. -/
def traverseLoop (next : String → List (EdgeRow × String)) (maxDepth limit : Nat) :
    Nat → TraverseState F → Except Failure (List (TraverseItem F))
  | 0, state => .ok state.results
  | fuel + 1, state =>
      match state.queue with
      | [] => .ok state.results
      | (current, depth) :: queue =>
          if limit ≤ state.results.length then .ok state.results
          else if maxDepth ≤ depth then
            traverseLoop next maxDepth limit fuel { state with queue := queue }
          else do
            let state ← traverseRows limit depth (next current) { state with queue := queue }
            traverseLoop next maxDepth limit fuel state

def traverse (db : Database) (tenantId startArtifactId : String) (maxDepth limit : Int)
    (actor : Option String) : Except Failure (List (TraverseItem F)) :=
  if maxDepth < 0 ∨ 10 < maxDepth then .error (.folio "max_depth must be between 0 and 10")
  else do
    let limit := clampLimit limit 500
    let _ ← getArtifact db tenantId startArtifactId actor
    let access ← accessClause db actor .read
    traverseLoop (db.outgoing tenantId access) maxDepth.toNat limit (limit + 1)
      ⟨[], [startArtifactId], [(startArtifactId, 0)]⟩

/-! ### Components -/

def maxGraphComponentNodes : Nat := 500

/-- The readable artifacts one edge away from `current`, oldest edge first. -/
def Database.adjacent (db : Database) (tenantId : String) (access : ArtifactRow → Bool)
    (current : String) : List ArtifactRow :=
  let rows := (db.edges.filter (fun e => e.tenantId = tenantId && e.touches current)).flatMap
    (fun e => (db.artifacts.filter (fun a =>
        a.tenantId = e.tenantId && a.id ≠ current &&
          (a.id = e.sourceArtifactId || a.id = e.targetArtifactId) && access a)).map
      (fun a => (e, a)))
  (orderBy (fun row => toLex (row.1.createdAt, row.1.id)) rows).map (·.2)

def componentIds (db : Database) (tenantId startArtifactId : String) (limit : Int)
    (actor : Option String) : Except Failure (List String) := do
  authorize db tenantId startArtifactId actor .read
  let access ← accessClause db actor .read
  .ok (breadthFirst id (fun current => (db.adjacent tenantId access current).map (·.id))
    (clampLimit limit maxGraphComponentNodes) startArtifactId)

structure ComponentItem where
  id : String
  name : String
  mediaType : String
  createdAt : String
  currentVersionId : Option String
  updatedAt : Option String
  deriving DecidableEq

def ArtifactRow.componentItem (db : Database) (artifact : ArtifactRow) : ComponentItem where
  id := artifact.id
  name := artifact.name
  mediaType := artifact.mediaType
  createdAt := artifact.createdAt
  currentVersionId := artifact.currentVersionId
  updatedAt := (db.currentVersion artifact).map (·.createdAt)

def graphComponent (db : Database) (tenantId startArtifactId : String) (limit : Int)
    (actor : Option String) : Except Failure (List ComponentItem) := do
  let artifactIds ← componentIds db tenantId startArtifactId limit actor
  let access ← accessClause db actor .read
  .ok (artifactIds.filterMap (fun artifactId =>
    (db.artifacts.find? (fun a => a.tenantId = tenantId && a.id = artifactId && access a)).map
      (fun a => a.componentItem db)))

end FolioLattice.Store
