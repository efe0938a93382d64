/-
What `traverse` answers: the edges along readable paths, level by level.
-/

import FolioLattice.Relational.LevelOrder
import FolioLattice.Store.Noninterference
import FolioLattice.Store.Readers

namespace FolioLattice.Store

open FolioLattice.Text FolioLattice.Data FolioLattice.Relational FolioLattice.Effects

/-! ### Readable paths -/

section Paths

variable (db : Database) (tenantId : String) (actor : Option String)

def Readable (artifactId : String) : Prop :=
  ∃ artifact ∈ db.artifacts, artifact.id = artifactId ∧ artifact.tenantId = tenantId ∧
    MayRead db actor artifact

/-- An edge that the actor may follow. -/
def ReadableEdge (edge : EdgeRow) : Prop :=
  edge ∈ db.edges ∧ edge.tenantId = tenantId ∧ Readable db tenantId actor edge.targetArtifactId

/-- A directed path of so many edges from the start, through readable artifacts only. -/
inductive ReadablePath (startId : String) : Nat → String → Prop where
  | start : ReadablePath startId 0 startId
  | step {n : Nat} {edge : EdgeRow} (path : ReadablePath startId n edge.sourceArtifactId)
      (follow : ReadableEdge db tenantId actor edge) :
      ReadablePath startId (n + 1) edge.targetArtifactId

/-- The length of a shortest readable path. -/
def ReadableDistance (startId : String) (d : Nat) (artifactId : String) : Prop :=
  ReadablePath db tenantId actor startId d artifactId ∧
    ∀ shorter < d, ¬ReadablePath db tenantId actor startId shorter artifactId

/-- The edges with their depths, in the order in which a search finds them. -/
structure BreadthFirst (startId : String) (maxDepth : Nat) (sequence : List (EdgeRow × Nat)) :
    Prop where
  once : (sequence.map (·.1)).Nodup
  edges : ∀ edge depth, (edge, depth) ∈ sequence ↔
    ReadableEdge db tenantId actor edge ∧ ∃ d < maxDepth,
      ReadableDistance db tenantId actor startId d edge.sourceArtifactId ∧ depth = d + 1
  levels : sequence.Pairwise (fun a b => a.2 ≤ b.2)
  perSource : sequence.Pairwise (fun a b => a.1.sourceArtifactId = b.1.sourceArtifactId →
    toLex (a.1.createdAt, a.1.id) < toLex (b.1.createdAt, b.1.id))

end Paths

/-- An item says what the edge's row and its target's row hold. -/
structure ShowsEdge {F : Type} [FloatFormat F] (db : Database) (entry : EdgeRow × Nat)
    (item : TraverseItem F) : Prop where
  id : item.id = entry.1.id
  source : item.sourceArtifactId = entry.1.sourceArtifactId
  target : item.targetArtifactId = entry.1.targetArtifactId
  edgeType : item.edgeType = entry.1.edgeType
  name : ∃ artifact ∈ db.artifacts, artifact.id = entry.1.targetArtifactId ∧
    artifact.tenantId = entry.1.tenantId ∧ artifact.name = item.targetArtifactName
  metadata : loadText entry.1.metadataJson = .ok item.metadata
  depth : item.depth = entry.2

/-! ### The edges out of an artifact -/

section Outgoing

variable {db : Database} {tenantId : String} {actor : Option String}
  {access : ArtifactRow → Bool} {current : String} {row : EdgeRow × String}

theorem mem_outgoing_iff (sound : StoreSound db)
    (granted : accessClause db actor .read = .ok access) :
    row ∈ db.outgoing tenantId access current ↔
      row.1 ∈ db.edges ∧ row.1.tenantId = tenantId ∧ row.1.sourceArtifactId = current ∧
        ∃ artifact ∈ db.artifacts, artifact.id = row.1.targetArtifactId ∧
          artifact.tenantId = row.1.tenantId ∧ MayRead db actor artifact ∧
            artifact.name = row.2 := by
  rw [mem_outgoing_joined sound]
  constructor
  · intro joined
    obtain ⟨⟨stored, inTenant, isSource⟩, artifact, member, ⟨sameId, sameTenant⟩, readable,
      sameName⟩ := joined
    exact ⟨stored, inTenant, isSource, artifact, member, sameId, sameTenant,
      (access_iff sound granted member).mp readable, sameName⟩
  · intro readableEdge
    obtain ⟨stored, inTenant, isSource, artifact, member, sameId, sameTenant, readable,
      sameName⟩ := readableEdge
    exact ⟨⟨stored, inTenant, isSource⟩, artifact, member, ⟨sameId, sameTenant⟩,
      (access_iff sound granted member).mpr readable, sameName⟩

/-- One joined row stands for each readable edge. -/
theorem readableEdge_iff (sound : StoreSound db)
    (granted : accessClause db actor .read = .ok access) {edge : EdgeRow} :
    ReadableEdge db tenantId actor edge ↔
      ∃ row ∈ db.outgoing tenantId access edge.sourceArtifactId, row.1 = edge := by
  constructor
  · rintro ⟨stored, inTenant, artifact, member, sameId, sameTenant, readable⟩
    exact ⟨(edge, artifact.name), (mem_outgoing_iff sound granted).mpr
      ⟨stored, inTenant, rfl, artifact, member, sameId, sameTenant.trans inTenant.symm, readable,
        rfl⟩, rfl⟩
  · rintro ⟨row, inside, same⟩
    obtain ⟨stored, inTenant, _, artifact, member, sameId, sameTenant, readable, _⟩ :=
      (mem_outgoing_iff sound granted).mp inside
    rw [← same]
    exact ⟨stored, inTenant, artifact, member, sameId, sameTenant.trans inTenant, readable⟩

theorem outgoing_strict (sound : StoreSound db) (tenantId : String) (access : ArtifactRow → Bool)
    (current : String) :
    (db.outgoing tenantId access current).Pairwise (fun a b =>
      toLex (a.1.createdAt, a.1.id) < toLex (b.1.createdAt, b.1.id)) :=
  orderBy_strict (outgoing_keyedBy sound access current)

/-- The search's walks are the readable paths. -/
theorem walk_iff (sound : StoreSound db) (granted : accessClause db actor .read = .ok access)
    {startId artifactId : String} {n : Nat} :
    Walk (fun row : EdgeRow × String => row.1.targetArtifactId)
        (db.outgoing tenantId access) startId n artifactId ↔
      ReadablePath db tenantId actor startId n artifactId := by
  constructor
  · intro walk
    induction walk with
    | start => exact .start
    | step _ edge ih =>
        obtain ⟨_, _, isSource, _⟩ := (mem_outgoing_iff sound granted).mp edge
        subst isSource
        exact .step ih ((readableEdge_iff sound granted).mpr ⟨_, edge, rfl⟩)
  · intro path
    induction path with
    | start => exact .start
    | step _ follow ih =>
        obtain ⟨row, inside, same⟩ := (readableEdge_iff sound granted).mp follow
        rw [← same]
        exact .step ih inside

theorem distance_iff (sound : StoreSound db) (granted : accessClause db actor .read = .ok access)
    {startId artifactId : String} {d : Nat} :
    Distance (fun row : EdgeRow × String => row.1.targetArtifactId)
        (db.outgoing tenantId access) startId d artifactId ↔
      ReadableDistance db tenantId actor startId d artifactId := by
  unfold Distance ReadableDistance
  simp only [walk_iff sound granted]

/-- The rows in the order of a search of the whole graph. -/
def foundEdges (db : Database) (tenantId : String) (access : ArtifactRow → Bool)
    (startId : String) (maxDepth : Nat) : List ((EdgeRow × String) × Nat) :=
  edgeSequence (fun row => row.1.targetArtifactId) (db.outgoing tenantId access) startId maxDepth

theorem foundEdges_breadthFirst (sound : StoreSound db)
    (granted : accessClause db actor .read = .ok access) (startId : String) (maxDepth : Nat) :
    BreadthFirst db tenantId actor startId maxDepth
      ((foundEdges db tenantId access startId maxDepth).map (fun found => (found.1.1, found.2))) := by
  have perSource : (foundEdges db tenantId access startId maxDepth).Pairwise (fun a b =>
      a.1.1.sourceArtifactId = b.1.1.sourceArtifactId →
        toLex (a.1.1.createdAt, a.1.1.id) < toLex (b.1.1.createdAt, b.1.1.id)) :=
    edgeSequence_ordered (fun row : EdgeRow × String => row.1.sourceArtifactId)
      (fun _ _ inside => ((mem_outgoing_iff sound granted).mp inside).2.2.1)
      (outgoing_strict sound tenantId access) maxDepth
  constructor
  · rw [List.map_map]
    apply List.pairwise_map.mpr
    apply perSource.imp
    intro a b inOrder same
    have less := inOrder (congrArg EdgeRow.sourceArtifactId same)
    have alike : a.1.1 = b.1.1 := same
    rw [alike] at less
    exact lt_irrefl _ less
  · intro edge depth
    simp only [List.mem_map, Prod.mk.injEq]
    constructor
    · rintro ⟨found, member, isEdge, isDepth⟩
      obtain ⟨d, x, small, distance, inside, deeper⟩ := mem_edgeSequence.mp member
      obtain ⟨_, _, isSource, _⟩ := (mem_outgoing_iff sound granted).mp inside
      rw [← isSource] at inside distance
      rw [← isEdge, ← isDepth]
      exact ⟨(readableEdge_iff sound granted).mpr ⟨_, inside, rfl⟩, d, small,
        (distance_iff sound granted).mp distance, deeper⟩
    · rintro ⟨follow, d, small, distance, isDepth⟩
      obtain ⟨row, inside, same⟩ := (readableEdge_iff sound granted).mp follow
      exact ⟨(row, depth), mem_edgeSequence.mpr ⟨d, edge.sourceArtifactId, small,
        (distance_iff sound granted).mpr distance, inside, isDepth⟩, same, rfl⟩
  · exact List.pairwise_map.mpr (edgeSequence_levels maxDepth)
  · exact List.pairwise_map.mpr perSource

end Outgoing

/-! ### The loop -/

section Loop

variable {F : Type} [FloatFormat F]

/-- What the loop does while it goes on; a loop that has stopped stays as it is. -/
def traverseRound (next : String → List (EdgeRow × String)) (maxDepth limit : Nat)
    (state : TraverseState F) : Except Failure (TraverseState F) :=
  match state.queue with
  | [] => .ok state
  | (current, depth) :: queue =>
      if limit ≤ state.results.length then .ok state
      else if maxDepth ≤ depth then .ok { state with queue := queue }
      else traverseRows limit depth (next current) { state with queue := queue }

def traverseRounds (next : String → List (EdgeRow × String)) (maxDepth limit : Nat) :
    Nat → TraverseState F → Except Failure (TraverseState F)
  | 0, state => .ok state
  | rounds + 1, state => do
      let state ← traverseRound next maxDepth limit state
      traverseRounds next maxDepth limit rounds state

/-- The condition of the loop fails. -/
def TraverseState.Stopped (limit : Nat) (state : TraverseState F) : Prop :=
  state.queue = [] ∨ limit ≤ state.results.length

variable {next : String → List (EdgeRow × String)} {maxDepth limit : Nat}

theorem traverseRound_of_stopped {state : TraverseState F} (stopped : state.Stopped limit) :
    traverseRound next maxDepth limit state = .ok state := by
  unfold traverseRound
  rcases stopped with empty | full
  · rw [empty]
  · split
    · rfl
    · rw [if_pos full]

theorem traverseRounds_of_stopped {state : TraverseState F} (stopped : state.Stopped limit)
    (rounds : Nat) : traverseRounds next maxDepth limit rounds state = .ok state := by
  induction rounds with
  | zero => rfl
  | succ rounds ih =>
      rw [traverseRounds, traverseRound_of_stopped stopped]
      exact ih

/-- The loop with a bound is its rounds, one after another. -/
theorem traverseLoop_eq_rounds (rounds : Nat) (state : TraverseState F) :
    traverseLoop next maxDepth limit rounds state =
      (traverseRounds next maxDepth limit rounds state).map (·.results) := by
  induction rounds generalizing state with
  | zero => rfl
  | succ rounds ih =>
      by_cases stopped : state.Stopped limit
      · rw [traverseRounds_of_stopped stopped, traverseLoop]
        rcases stopped with empty | full
        · rw [empty]
          rfl
        · split
          · rfl
          · rw [if_pos full]
            rfl
      · rw [traverseLoop, traverseRounds, traverseRound]
        cases isQueue : state.queue with
        | nil => exact absurd (Or.inl isQueue) stopped
        | cons entry queue =>
            simp only [if_neg (fun full => stopped (Or.inr full))]
            split
            · exact ih _
            · cases traverseRows limit entry.2 (next entry.1) { state with queue := queue } with
              | error e => rfl
              | ok state' => exact ih state'

/-- A bound on the rounds to come: what is queued was seen, and what was seen was found. -/
structure Counted (limit rounds : Nat) (state : TraverseState F) : Prop where
  queued : limit + 1 + state.queue.length ≤ rounds + state.seen.length
  found : state.seen.length ≤ state.results.length + 1

omit [FloatFormat F] in
theorem Counted.add {rounds : Nat} {state : TraverseState F} (counted : Counted limit rounds state)
    (item : TraverseItem F) (depth : Nat) : Counted limit rounds (state.add item depth) := by
  have queued := counted.queued
  have found := counted.found
  unfold TraverseState.add
  dsimp only
  split
  · constructor
    · exact queued
    · rw [List.length_append]
      exact Nat.le_succ_of_le found
  · constructor
    · simp only [List.length_append, List.length_singleton]
      omega
    · simp only [List.length_append, List.length_singleton]
      omega

theorem Counted.rows {rounds depth : Nat} {rows : List (EdgeRow × String)}
    {state state' : TraverseState F} (counted : Counted limit rounds state)
    (done : traverseRows limit depth rows state = .ok state') : Counted limit rounds state' := by
  induction rows generalizing state with
  | nil =>
      rw [traverseRows] at done
      rw [← Except.ok.inj done]
      exact counted
  | cons row rest ih =>
      obtain ⟨item, _, more⟩ := except_bind_ok done
      dsimp only at more
      split at more
      · rw [← Except.ok.inj more]
        exact counted.add item depth
      · exact ih (counted.add item depth) more

/-- One round takes one entry off the queue. -/
theorem Counted.round {rounds : Nat} {state state' : TraverseState F}
    (counted : Counted limit (rounds + 1) state) (going : ¬state.Stopped limit)
    (done : traverseRound next maxDepth limit state = .ok state') : Counted limit rounds state' := by
  have queued := counted.queued
  unfold traverseRound at done
  cases isQueue : state.queue with
  | nil => exact absurd (Or.inl isQueue) going
  | cons entry queue =>
      rw [isQueue, List.length_cons] at queued
      have popped : Counted limit rounds { state with queue := queue } := by
        refine ⟨?_, counted.found⟩
        show limit + 1 + queue.length ≤ rounds + state.seen.length
        omega
      simp only [isQueue, if_neg (fun full => going (Or.inr full))] at done
      split at done
      · rw [← Except.ok.inj done]
        exact popped
      · exact popped.rows done

/-- The counted rounds are enough for the loop to stop. -/
theorem Counted.stops {rounds : Nat} {state last : TraverseState F}
    (counted : Counted limit rounds state)
    (done : traverseRounds next maxDepth limit rounds state = .ok last) : last.Stopped limit := by
  induction rounds generalizing state with
  | zero =>
      rw [traverseRounds] at done
      rw [← Except.ok.inj done]
      have queued := counted.queued
      have found := counted.found
      right
      omega
  | succ rounds ih =>
      by_cases stopped : state.Stopped limit
      · rw [traverseRounds_of_stopped stopped] at done
        rw [← Except.ok.inj done]
        exact stopped
      · obtain ⟨state', round, more⟩ := except_bind_ok done
        exact ih (counted.round stopped round) more

/-! ### The loop as a search of rows -/

/-- An item and the joined row that it was made of. -/
structure ItemOf (found : (EdgeRow × String) × Nat) (item : TraverseItem F) : Prop where
  id : item.id = found.1.1.id
  source : item.sourceArtifactId = found.1.1.sourceArtifactId
  target : item.targetArtifactId = found.1.1.targetArtifactId
  edgeType : item.edgeType = found.1.1.edgeType
  name : item.targetArtifactName = found.1.2
  metadata : loadText found.1.1.metadataJson = .ok item.metadata
  depth : item.depth = found.2

/-- The loop's state and that of a search of rows, item by item. -/
structure Follows (search : Search String (EdgeRow × String)) (state : TraverseState F) :
    Prop where
  results : List.Forall₂ ItemOf search.results state.results
  seen : state.seen = search.seen
  queue : state.queue = search.queue

def HasMetadata (F : Type) [FloatFormat F] (row : EdgeRow × String) : Prop :=
  ∃ metadata : Json F, loadText row.1.metadataJson = .ok metadata

theorem Follows.add {search : Search String (EdgeRow × String)} {state : TraverseState F}
    (follows : Follows search state) {row : EdgeRow × String} {item : TraverseItem F}
    {depth : Nat} (itemOf : ItemOf (row, depth + 1) item) :
    Follows (search.add (fun row => row.1.targetArtifactId) depth row) (state.add item depth) := by
  have results : List.Forall₂ ItemOf (search.results ++ [(row, depth + 1)])
      (state.results ++ [item]) :=
    List.rel_append follows.results (.cons itemOf .nil)
  have target : item.targetArtifactId = row.1.targetArtifactId := itemOf.target
  unfold TraverseState.add Search.add
  dsimp only
  rw [follows.seen, target]
  split
  · exact ⟨results, rfl, follows.queue⟩
  · refine ⟨results, rfl, ?_⟩
    rw [follows.queue]

theorem Follows.row {search : Search String (EdgeRow × String)} {state : TraverseState F}
    (follows : Follows search state) {depth : Nat} {rows : List (EdgeRow × String)}
    (parsed : ∀ row ∈ rows, HasMetadata F row) :
    ∃ state', traverseRows limit depth rows state = .ok state' ∧
      Follows (searchRow (fun row => row.1.targetArtifactId) limit depth rows search) state' := by
  induction rows generalizing search state with
  | nil => exact ⟨state, rfl, follows⟩
  | cons row rest ih =>
      obtain ⟨metadata, read⟩ := parsed row List.mem_cons_self
      have made : traverseItem depth row = .ok ⟨row.1.id, row.1.sourceArtifactId,
          row.1.targetArtifactId, row.1.edgeType, row.2, metadata, depth + 1⟩ := by
        unfold traverseItem
        rw [read]
        rfl
      have added : Follows
          (search.add (fun row : EdgeRow × String => row.1.targetArtifactId) depth row)
          (state.add ⟨row.1.id, row.1.sourceArtifactId, row.1.targetArtifactId, row.1.edgeType,
            row.2, metadata, depth + 1⟩ depth) :=
        follows.add ⟨rfl, rfl, rfl, rfl, rfl, read, rfl⟩
      rw [traverseRows, made, searchRow]
      simp only [bind, Except.bind, ← added.results.length_eq]
      split
      · exact ⟨_, rfl, added⟩
      · exact ih added (fun other member => parsed other (List.mem_cons_of_mem _ member))

theorem Follows.loop {search : Search String (EdgeRow × String)} {state : TraverseState F}
    (follows : Follows search state) (parsed : ∀ current, ∀ row ∈ next current, HasMetadata F row)
    (fuel : Nat) :
    ∃ items, traverseLoop next maxDepth limit fuel state = .ok items ∧
      List.Forall₂ ItemOf
        (searchLoop (fun row => row.1.targetArtifactId) next maxDepth limit fuel search) items := by
  induction fuel generalizing search state with
  | zero => exact ⟨state.results, rfl, follows.results⟩
  | succ fuel ih =>
      rw [traverseLoop, searchLoop, follows.queue]
      cases search.queue with
      | nil => exact ⟨state.results, rfl, follows.results⟩
      | cons entry queue =>
          have popped : Follows { search with queue := queue } { state with queue := queue } :=
            ⟨follows.results, follows.seen, rfl⟩
          simp only [← follows.results.length_eq]
          split
          · exact ⟨state.results, rfl, follows.results⟩
          · split
            · exact ih popped
            · obtain ⟨state', done, more⟩ :
                  ∃ state', traverseRows limit entry.2 (next entry.1)
                      { state with queue := queue } = .ok state' ∧
                    Follows (searchRow (fun row => row.1.targetArtifactId) limit entry.2
                      (next entry.1) { search with queue := queue }) state' :=
                popped.row (parsed entry.1)
              rw [done]
              exact ih more

end Loop

/-! ### What edges hold -/

section Metadata

variable {F : Type} [FloatFormat F]

def EdgesHaveMetadata (F : Type) [FloatFormat F] (db : Database) : Prop :=
  ∀ edge ∈ db.edges, ∃ metadata : Json F, loadText edge.metadataJson = .ok metadata

theorem LinkRequest.validate_ok {request : LinkRequest F} {text : String}
    (valid : request.validate = .ok text) :
    request.sourceArtifactId ≠ request.targetArtifactId ∧
      ValidText request.edgeType maxEdgeTypeLength ∧
      json (.obj request.metadata) "metadata" = .ok text := by
  unfold LinkRequest.validate at valid
  split at valid
  · cases valid
  · rename_i differ
    obtain ⟨_, edgeType, encoded⟩ := except_bind_ok valid
    exact ⟨differ, validateText_ok_iff.mp edgeType, encoded⟩

theorem Effect.edges {settings : Settings} {db db' : Database} {call : Call F} {answer : Reply}
    (effect : Effect settings db call answer db') (has : EdgesHaveMetadata F db) :
    EdgesHaveMetadata F db' := by
  cases effect with
  | linked valid source target fresh =>
      intro edge member
      rcases List.mem_append.mp member with old | new
      · exact has edge old
      · rw [List.mem_singleton.mp new]
        exact ⟨_, loadText_json (LinkRequest.validate_ok valid).2.2⟩
  | initialized same _ =>
      intro edge member
      rw [same.edges] at member
      exact has edge member
  | _ => exact has

theorem StoreTrace.edgesHaveMetadata {settings : Settings} {draw : InitializeDraw}
    {past : List (Disk × Occurrence F)} {disk : Disk}
    (trace : StoreTrace settings draw past disk) : EdgesHaveMetadata F disk.db := by
  have both : StoreSound disk.db ∧ EdgesHaveMetadata F disk.db := by
    apply trace.invariant (P := fun disk => StoreSound disk.db ∧ EdgesHaveMetadata F disk.db)
    · intro disk disk' occurrence holds step
      refine ⟨holds.1.step step, ?_⟩
      rcases storeStep_cases holds.1 step with ⟨call, answer, _, effect⟩ | ⟨_, members, same⟩
      · exact effect.edges holds.2
      · rw [same]
        exact holds.2
    · refine ⟨StoreSound.fresh settings draw, ?_⟩
      intro edge member
      exact absurd member List.not_mem_nil
  exact both.2

end Metadata

/-! ### Traversals -/

section Traverse

variable {F : Type} [FloatFormat F]

/-- The loop of `traverse` before its first round. -/
def TraverseState.initial (startId : String) : TraverseState F := ⟨[], [startId], [(startId, 0)]⟩

/-- The loop stops by itself with these results, within one round more than the limit. -/
def TraversalEnds (db : Database) (tenantId startId : String) (maxDepth : Nat) (limit : Nat)
    (actor : Option String) (items : List (TraverseItem F)) : Prop :=
  ∃ access last, accessClause db actor .read = .ok access ∧
    traverseRounds (db.outgoing tenantId access) maxDepth limit (limit + 1)
      (TraverseState.initial startId) = .ok last ∧
    last.Stopped limit ∧ last.results = items

omit [FloatFormat F] in
theorem Counted.initial (limit : Nat) (startId : String) :
    Counted limit (limit + 1) (TraverseState.initial startId : TraverseState F) := by
  constructor
  · exact Nat.le_refl _
  · exact Nat.le_refl _

theorem ItemOf.shows {db : Database} {tenantId current : String} {actor : Option String}
    {access : ArtifactRow → Bool} (sound : StoreSound db)
    (granted : accessClause db actor .read = .ok access) {found : (EdgeRow × String) × Nat}
    {item : TraverseItem F} (itemOf : ItemOf found item)
    (inside : found.1 ∈ db.outgoing tenantId access current) :
    ShowsEdge db (found.1.1, found.2) item := by
  obtain ⟨_, _, _, artifact, member, sameId, sameTenant, _, sameName⟩ :=
    (mem_outgoing_iff sound granted).mp inside
  exact ⟨itemOf.id, itemOf.source, itemOf.target, itemOf.edgeType,
    ⟨artifact, member, sameId, sameTenant, sameName.trans itemOf.name.symm⟩, itemOf.metadata,
    itemOf.depth⟩

/-- What one search of the rows finds, as the items of `traverse`. -/
theorem traverse_eq {settings : Settings} {draw : InitializeDraw}
    {past : List (Disk × Occurrence F)} {disk : Disk} (trace : StoreTrace settings draw past disk)
    {tenantId startId : String} {actor : Option String}
    (readable : Readable disk.db tenantId actor startId) {access : ArtifactRow → Bool}
    (granted : accessClause disk.db actor .read = .ok access) {maxDepth : Int} (low : 0 ≤ maxDepth)
    (high : maxDepth ≤ 10) (limit : Int) :
    ∃ items : List (TraverseItem F),
      traverse disk.db tenantId startId maxDepth limit actor = .ok items ∧
        traverseLoop (disk.db.outgoing tenantId access) maxDepth.toNat (clampLimit limit 500)
          (clampLimit limit 500 + 1) (TraverseState.initial startId) = .ok items ∧
        List.Forall₂ ItemOf ((foundEdges disk.db tenantId access startId maxDepth.toNat).take
          (clampLimit limit 500)) items := by
  have sound := StoreTrace.sound trace
  have parsed : ∀ current, ∀ row ∈ disk.db.outgoing tenantId access current, HasMetadata F row := by
    intro current row inside
    exact StoreTrace.edgesHaveMetadata trace row.1 ((mem_outgoing_iff sound granted).mp inside).1
  have follows : Follows ⟨[], [startId], [(startId, 0)]⟩
      (TraverseState.initial startId : TraverseState F) := ⟨.nil, rfl, rfl⟩
  obtain ⟨items, done, shown⟩ :
      ∃ items, traverseLoop (disk.db.outgoing tenantId access) maxDepth.toNat
          (clampLimit limit 500) (clampLimit limit 500 + 1) (TraverseState.initial startId) =
            .ok items ∧
        List.Forall₂ ItemOf (searchLoop (fun row : EdgeRow × String => row.1.targetArtifactId)
          (disk.db.outgoing tenantId access) maxDepth.toNat (clampLimit limit 500)
          (clampLimit limit 500 + 1) ⟨[], [startId], [(startId, 0)]⟩) items :=
    follows.loop parsed _
  rw [searchLoop_start maxDepth.toNat (Nat.le_refl _)] at shown
  refine ⟨items, ?_, done, shown⟩
  obtain ⟨artifact, _, sameId, sameTenant, mayRead⟩ := readable
  unfold MayRead at mayRead
  rw [sameId, sameTenant] at mayRead
  obtain ⟨view, started, _⟩ := getArtifact_of_authorized mayRead
  unfold traverse
  rw [if_neg (by omega)]
  simp only [started, granted, bind, Except.bind]
  exact done

/-- `traverse` gives the first edges of the breadth-first sequence, and stops. -/
theorem traverse_breadth_first {settings : Settings} {draw : InitializeDraw}
    {past : List (Disk × Occurrence F)} {disk : Disk} (trace : StoreTrace settings draw past disk)
    {tenantId startId : String} {actor : Option String}
    (readable : Readable disk.db tenantId actor startId) {maxDepth : Int} (low : 0 ≤ maxDepth)
    (high : maxDepth ≤ 10) :
    ∃ sequence, BreadthFirst disk.db tenantId actor startId maxDepth.toNat sequence ∧
      ∀ limit : Int, ∃ items : List (TraverseItem F),
        traverse disk.db tenantId startId maxDepth limit actor = .ok items ∧
          List.Forall₂ (ShowsEdge disk.db) (sequence.take (clampLimit limit 500)) items ∧
          TraversalEnds disk.db tenantId startId maxDepth.toNat (clampLimit limit 500) actor
            items := by
  have sound := StoreTrace.sound trace
  obtain ⟨artifact, member, _, _, mayRead⟩ := id readable
  obtain ⟨access, granted⟩ := mayRead.accessClause sound member
  refine ⟨_, foundEdges_breadthFirst sound granted startId maxDepth.toNat, ?_⟩
  intro limit
  obtain ⟨items, done, loop, shown⟩ := traverse_eq trace readable granted low high limit
  refine ⟨items, done, ?_, ?_⟩
  · rw [← List.map_take, List.forall₂_map_left_iff]
    have inside : ∀ found ∈ (foundEdges disk.db tenantId access startId maxDepth.toNat).take
        (clampLimit limit 500), ∃ current, found.1 ∈ disk.db.outgoing tenantId access current := by
      intro found taken
      obtain ⟨_, current, _, _, inside, _⟩ := mem_edgeSequence.mp (List.mem_of_mem_take taken)
      exact ⟨current, inside⟩
    have each : ∀ (found : (EdgeRow × String) × Nat) (item : TraverseItem F),
        ((∃ current, found.1 ∈ disk.db.outgoing tenantId access current) ∧ ItemOf found item) →
          ShowsEdge disk.db (found.1.1, found.2) item := by
      rintro found item ⟨⟨current, isRow⟩, itemOf⟩
      exact itemOf.shows sound granted isRow
    exact ((List.forall₂_and_left _ _).mpr ⟨inside, shown⟩).imp each
  · rw [traverseLoop_eq_rounds] at loop
    cases ended : traverseRounds (disk.db.outgoing tenantId access) maxDepth.toNat
        (clampLimit limit 500) (clampLimit limit 500 + 1)
        (TraverseState.initial startId : TraverseState F) with
    | error e =>
        rw [ended] at loop
        cases loop
    | ok last =>
        rw [ended] at loop
        exact ⟨access, last, granted, ended, (Counted.initial _ startId).stops ended,
          Except.ok.inj loop⟩

end Traverse

/-! ### Two artifacts that link to each other -/

def cycleCreate (name : String) : CreateRequest Empty where
  tenantId := "t"
  name := name
  data := [104]
  actor := "ann"

def cycleLink (source target : Uuid) : LinkRequest Empty where
  tenantId := "t"
  sourceArtifactId := newId "art" source
  targetArtifactId := newId "art" target
  edgeType := "cites"
  metadata := []
  actor := some "ann"

def cycleCalls : List (Call Empty) :=
  [.create (CreateDraw.epoch Uuid.nil) (cycleCreate "a"),
    .create (CreateDraw.epoch Uuid.one) (cycleCreate "b"),
    .link ⟨Uuid.nil, Timestamp.epoch⟩ (cycleLink Uuid.nil Uuid.one),
    .link ⟨Uuid.one, Timestamp.epoch⟩ (cycleLink Uuid.one Uuid.nil)]

def cycleDisk : Disk :=
  performAll Settings.standard cycleCalls (freshDisk Settings.standard InitializeDraw.epoch)

theorem traverse_breadth_first_cycle :
    ∃ sequence, BreadthFirst cycleDisk.db "t" (some "ann") (newId "art" Uuid.nil)
        (10 : Int).toNat sequence ∧
      ∀ limit : Int, ∃ items : List (TraverseItem Empty),
        traverse cycleDisk.db "t" (newId "art" Uuid.nil) 10 limit (some "ann") = .ok items ∧
          List.Forall₂ (ShowsEdge cycleDisk.db) (sequence.take (clampLimit limit 500)) items ∧
          TraversalEnds cycleDisk.db "t" (newId "art" Uuid.nil) (10 : Int).toNat
            (clampLimit limit 500) (some "ann") items := by
  apply traverse_breadth_first
    (performAll_trace (.start : StoreTrace Settings.standard InitializeDraw.epoch [] _) cycleCalls)
  · refine ⟨⟨newId "art" Uuid.nil, "t", some "ann", "a", "application/octet-stream", some (newId "ver" Uuid.nil),
      Timestamp.epoch.isoformat⟩, ?_, rfl, rfl, ?_⟩
    · decide
    · decide
  · decide
  · decide

end FolioLattice.Store
