/-
Three views of one graph: the paths from a root, the ids of its component, and whether
the list of artifacts shows that it has neighbors.
-/

import FolioLattice.Relational.Ways
import FolioLattice.Store.Components
import FolioLattice.Store.Links

namespace FolioLattice.Store

open FolioLattice.Text FolioLattice.Data FolioLattice.Relational
open FolioLattice.Effects (except_bind_ok except_mapM_keys)

/-! ### What a path is -/

section Path

variable (db : Database) (tenantId : String) (actor : Option String)

/-- Readable artifacts from the root to `key`, each joined with the next one. -/
structure ReadableChain (rootId key : String) (ids : List String) : Prop where
  starts : ids.head? = some rootId
  ends : ids.getLast? = some key
  readable : ∀ id ∈ ids, Readable db tenantId actor id
  joined : ids.IsChain (Joined db tenantId)

/-- A chain that comes to no artifact twice, with no shorter one beside it. -/
structure ShortestPath (rootId key : String) (ids : List String) : Prop where
  chain : ReadableChain db tenantId actor rootId key ids
  distinct : ids.Nodup
  shortest : ∀ other, ReadableChain db tenantId actor rootId key other → ids.length ≤ other.length

end Path

section Paths

variable {db : Database} {tenantId rootId : String} {actor : Option String}
  {access : ArtifactRow → Bool}

theorem Joined.ne (noSelf : NoSelfLinks db) {a b : String} (joined : Joined db tenantId a b) :
    b ≠ a := by
  obtain ⟨edge, stored, _, ends⟩ := joined
  have differ := noSelf edge stored
  rcases ends with ⟨source, target⟩ | ⟨source, target⟩
  · rw [source, target] at differ
    exact differ.symm
  · rw [source, target] at differ
    exact differ

/-- What a search collects on its way to a key is a shortest path to it. -/
theorem shortestPath_of_leadsAlong (sound : StoreSound db) (noSelf : NoSelfLinks db)
    (granted : accessClause db actor .read = .ok access)
    (readable : Readable db tenantId actor rootId) {d : Nat} {key : String} {ids : List String}
    (along : LeadsAlong (db.neighborIds tenantId access) rootId d ids key) :
    ShortestPath db tenantId actor rootId key ids where
  chain := by
    refine ⟨along.first, along.last, ?_, ?_⟩
    · intro id member
      obtain ⟨i, isAt⟩ := List.mem_iff_getElem?.mp member
      exact ((walk_iff_connected sound granted readable).mp
        ⟨i, (along.levels i id isAt).1⟩).readable
    · exact along.chain.imp (fun a b edge => ((mem_neighborIds sound granted).mp edge).2.1)
  distinct := along.nodup
  shortest := by
    intro other chain
    apply along.shortest ?_ chain.starts chain.ends
    apply chain.joined.imp_of_mem_imp
    intro a b _ member joined
    exact (mem_neighborIds sound granted).mpr ⟨joined.ne noSelf, joined, chain.readable b member⟩

/-! ### The paths that are read -/

def FoundNode.wayIds (node : FoundNode) : List String := node.way.map (·.artifact.id)

/-- Every artifact has a current version, so the join leaves none out. -/
theorem current_artifacts (sound : StoreSound db) {artifacts : List ArtifactRow}
    (known : ∀ artifact ∈ artifacts, artifact ∈ db.artifacts) :
    (db.current artifacts).map (·.artifact) = artifacts := by
  induction artifacts with
  | nil => rfl
  | cons artifact rest ih =>
      obtain ⟨version, _, _, _, _, isCurrent⟩ :=
        currentVersion_of_chain sound.versions (known artifact List.mem_cons_self)
      have later := ih (fun other member => known other (List.mem_cons_of_mem _ member))
      unfold Database.current at later ⊢
      rw [List.filterMap_cons, isCurrent, Option.map_some, List.map_cons, later]

theorem next_keys (sound : StoreSound db) (node : FoundNode) :
    (node.next db tenantId access).map FoundNode.key = db.neighborIds tenantId access node.key := by
  have kept : (db.current (db.adjacent tenantId access node.key)).map (·.artifact) =
      db.adjacent tenantId access node.key :=
    current_artifacts sound (fun artifact member => (mem_adjacent member).1)
  unfold FoundNode.next Database.neighborIds
  rw [List.map_map, ← kept, List.map_map, kept]
  rfl

theorem next_way (node : FoundNode) :
    ∀ other ∈ node.next db tenantId access, other.wayIds = node.wayIds ++ [other.key] := by
  intro other member
  obtain ⟨row, _, isOther⟩ := List.mem_map.mp member
  rw [← isOther]
  unfold FoundNode.wayIds
  rw [List.map_append]
  rfl

section Contexts

variable {F : Type} [FloatFormat F]

/-- Every stored context can be read. -/
def ContextsRead (F : Type) [FloatFormat F] (db : Database) : Prop :=
  ∀ row ∈ db.versions, ∃ value : Json F, loadText row.sourceContext = .ok value

theorem CurrentRow.node_reads (reads : ContextsRead F db) {row : CurrentRow}
    (stored : row.version ∈ db.versions) :
    ∃ node : PathNode F, row.node = .ok node ∧ node.artifactId = row.artifact.id := by
  obtain ⟨value, loaded⟩ := reads row.version stored
  unfold loadText at loaded
  unfold CurrentRow.node searchPath
  cases parsed : (loads row.version.sourceContext.toList : Except LoadError (Json F)) with
  | ok value => exact ⟨_, rfl, rfl⟩
  | error e =>
      rw [parsed] at loaded
      cases loaded

theorem FoundNode.path_reads (reads : ContextsRead F db) {node : FoundNode}
    (stored : ∀ row ∈ node.way, row.version ∈ db.versions) :
    ∃ path : String × List (PathNode F), node.path = .ok path ∧
      (path.1, path.2.map (·.artifactId)) = (node.key, node.wayIds) := by
  obtain ⟨nodes, read, same⟩ : ∃ nodes : List (PathNode F), node.way.mapM CurrentRow.node = .ok nodes ∧
      nodes.map (·.artifactId) = node.way.map (·.artifact.id) :=
    except_mapM_keys (fun row member => CurrentRow.node_reads reads (stored row member))
  refine ⟨(node.key, nodes), ?_, ?_⟩
  · unfold FoundNode.path
    rw [read]
    rfl
  · unfold FoundNode.wayIds
    rw [same]

theorem readableNodes_stored (root : CurrentRow)
    (known : db.currentVersion root.artifact = some root.version) :
    ∀ node ∈ db.readableNodes tenantId access root,
      ∀ row ∈ node.way, row.version ∈ db.versions := by
  have stored : ∀ row : CurrentRow, db.currentVersion row.artifact = some row.version →
      row.version ∈ db.versions := fun row isCurrent => List.mem_of_find?_eq_some isCurrent
  apply breadthFirst_forall
  · intro node holds other follows row member
    obtain ⟨last, inside, isOther⟩ := List.mem_map.mp follows
    rw [← isOther] at member
    rcases List.mem_append.mp member with before | isLast
    · exact holds row before
    · rw [List.mem_singleton.mp isLast]
      exact stored last (mem_current.mp inside).2
  · intro row member
    rw [List.mem_singleton.mp member]
    exact stored root known

/-- What the paths from a root are: one shortest path for each of `componentIds`. -/
theorem readableGraphPaths_shortest (sound : StoreSound db) (noSelf : NoSelfLinks db)
    (reads : ContextsRead F db) (granted : accessClause db actor .read = .ok access)
    (readable : Readable db tenantId actor rootId) :
    ∃ paths, readableGraphPaths F db tenantId rootId actor = .ok paths ∧
      componentIds db tenantId rootId 500 actor = .ok (paths.map (·.1)) ∧
      ∀ path ∈ paths, ShortestPath db tenantId actor rootId path.1
        (path.2.map (·.artifactId)) := by
  obtain ⟨artifact, known, isId, inTenant, mayRead, _⟩ := findArtifact_readable sound granted readable
  obtain ⟨root, others, isRoot⟩ : ∃ root others, db.current (db.artifacts.filter (fun a =>
      a.tenantId = tenantId && a.id = rootId && access a)) = root :: others := by
    apply List.exists_cons_of_ne_nil
    intro empty
    have kept := current_artifacts sound (fun a (member : a ∈ db.artifacts.filter (fun a =>
      a.tenantId = tenantId && a.id = rootId && access a)) => (List.mem_filter.mp member).1)
    rw [empty] at kept
    have selected : artifact ∈ db.artifacts.filter (fun a =>
        a.tenantId = tenantId && a.id = rootId && access a) := by
      simp only [List.mem_filter, Bool.and_eq_true, decide_eq_true_eq]
      exact ⟨known, ⟨inTenant, isId⟩, (access_iff sound granted known).mpr mayRead⟩
    rw [← kept] at selected
    cases selected
  have inside : root ∈ db.current (db.artifacts.filter (fun a =>
      a.tenantId = tenantId && a.id = rootId && access a)) := by
    rw [isRoot]
    exact List.mem_cons_self
  have rootKey : root.artifact.id = rootId := by
    have selected := (mem_current.mp inside).1
    simp only [List.mem_filter, Bool.and_eq_true, decide_eq_true_eq] at selected
    exact selected.2.1.2
  obtain ⟨finds, ways⟩ : Finds (db.neighborIds tenantId access) root.artifact.id
      maxGraphComponentNodes ((db.readableNodes tenantId access root).map FoundNode.key) ∧
      ∀ node ∈ db.readableNodes tenantId access root, ∃ d,
        LeadsAlong (db.neighborIds tenantId access) root.artifact.id d node.wayIds node.key :=
    breadthFirst_ways (next_keys sound) rfl next_way (by decide)
  obtain ⟨ids, found, idsFind⟩ := componentIds_finds granted readable 500
  obtain ⟨paths, read, same⟩ : ∃ paths : List (String × List (PathNode F)),
      (db.readableNodes tenantId access root).mapM FoundNode.path = .ok paths ∧
      paths.map (fun path => (path.1, path.2.map (·.artifactId))) =
        (db.readableNodes tenantId access root).map (fun node => (node.key, node.wayIds)) :=
    except_mapM_keys (fun node member => FoundNode.path_reads reads
      (readableNodes_stored root (mem_current.mp inside).2 node member))
  have keys : paths.map (·.1) = ids := by
    have firsts := congrArg (List.map Prod.fst) same
    rw [List.map_map, List.map_map] at firsts
    rw [rootKey] at finds
    exact firsts.trans (finds.eq idsFind)
  refine ⟨paths, ?_, ?_, ?_⟩
  · unfold MayRead at mayRead
    rw [isId, inTenant] at mayRead
    unfold readableGraphPaths
    rw [mayRead, granted]
    dsimp only [bind, Except.bind]
    rw [isRoot]
    exact read
  · rw [found, keys]
  · intro path member
    have shown : (path.1, path.2.map (·.artifactId)) ∈
        (db.readableNodes tenantId access root).map (fun node => (node.key, node.wayIds)) := by
      rw [← same]
      exact List.mem_map_of_mem member
    obtain ⟨node, isNode, isPath⟩ := List.mem_map.mp shown
    rw [Prod.mk.injEq] at isPath
    obtain ⟨d, along⟩ := ways node isNode
    rw [rootKey] at along
    rw [← isPath.1, ← isPath.2]
    exact shortestPath_of_leadsAlong sound noSelf granted readable along

end Contexts

/-! ### Neighbors -/

theorem hasReadableNeighbors_iff (sound : StoreSound db)
    (granted : accessClause db actor .read = .ok access) {artifact : ArtifactRow} :
    db.hasReadableNeighbors access artifact = true ↔
      ∃ x, Joined db artifact.tenantId artifact.id x ∧
        Readable db artifact.tenantId actor x := by
  unfold Database.hasReadableNeighbors
  simp only [List.any_eq_true, Bool.and_eq_true, decide_eq_true_eq]
  constructor
  · rintro ⟨edge, stored, ⟨inTenant, touches⟩, other, known, ⟨sameTenant, isNeighbor⟩, permitted⟩
    refine ⟨other.id, ⟨edge, stored, inTenant, ?_⟩, other, known, rfl,
      sameTenant.trans inTenant, (access_iff sound granted known).mp permitted⟩
    unfold EdgeRow.neighbor at isNeighbor
    by_cases source : edge.sourceArtifactId = artifact.id
    · rw [if_pos source] at isNeighbor
      exact Or.inl ⟨source, isNeighbor.symm⟩
    · rw [if_neg source] at isNeighbor
      unfold EdgeRow.touches at touches
      rw [Bool.or_eq_true, decide_eq_true_eq, decide_eq_true_eq] at touches
      exact Or.inr ⟨isNeighbor.symm, touches.resolve_left source⟩
  · rintro ⟨x, joined, other, known, isId, sameTenant, mayRead⟩
    obtain ⟨edge, stored, inTenant, ends⟩ := joined
    refine ⟨edge, stored, ⟨inTenant, ?_⟩, other, known,
      ⟨sameTenant.trans inTenant.symm, ?_⟩, (access_iff sound granted known).mpr mayRead⟩
    · unfold EdgeRow.touches
      rw [Bool.or_eq_true, decide_eq_true_eq, decide_eq_true_eq]
      exact ends.imp And.left And.right
    · unfold EdgeRow.neighbor
      rw [isId]
      by_cases source : edge.sourceArtifactId = artifact.id
      · rw [if_pos source]
        rcases ends with ⟨_, target⟩ | ⟨other, target⟩
        · exact target.symm
        · rw [target, ← source, other]
      · rw [if_neg source]
        rcases ends with ⟨first, _⟩ | ⟨other, _⟩
        · exact absurd first source
        · exact other.symm

/-- An artifact has a neighbor when its component has a second member. -/
theorem neighbor_iff_component (noSelf : NoSelfLinks db)
    (readable : Readable db tenantId actor rootId) {component : Finset String}
    (isComponent : ∀ x, x ∈ component ↔ ReadablyConnected db tenantId actor rootId x) :
    (∃ x, Joined db tenantId rootId x ∧ Readable db tenantId actor x) ↔ 1 < component.card := by
  rw [Finset.one_lt_card]
  constructor
  · rintro ⟨x, joined, mayRead⟩
    obtain ⟨edge, stored, inTenant, touches⟩ := joined.touches
    exact ⟨x, (isComponent x).mpr (.step (.root readable) stored inTenant touches mayRead),
      rootId, (isComponent rootId).mpr (.root readable), joined.ne noSelf⟩
  · rintro ⟨x, xMember, y, yMember, differ⟩
    obtain ⟨other, connected, notRoot⟩ : ∃ other,
        ReadablyConnected db tenantId actor rootId other ∧ rootId ≠ other := by
      by_cases isRoot : rootId = x
      · rw [← isRoot] at differ
        exact ⟨y, (isComponent y).mp yMember, differ⟩
      · exact ⟨x, (isComponent x).mp xMember, isRoot⟩
    rcases ((readablyConnected_iff readable).mp connected).cases_head with same | ⟨next, linked, _⟩
    · exact absurd same notRoot
    · exact ⟨next, linked.1, linked.2.2⟩

theorem listArtifacts_ok {limit : Int} {filter : ListFilter} {items : List ArtifactListItem}
    (listed : listArtifacts db tenantId limit actor filter = .ok items) :
    ∃ cursor access, accessClause db actor .read = .ok access ∧
      ((orderBy db.listKey (db.listed tenantId access cursor filter)).take
        (clampLimit limit 100)).map (fun a => a.listItem db access) = items := by
  obtain ⟨_, _, listed⟩ := except_bind_ok listed
  obtain ⟨_, _, listed⟩ := except_bind_ok listed
  dsimp only at listed
  split at listed
  · obtain ⟨cursor, _, listed⟩ := except_bind_ok listed
    obtain ⟨access, granted, listed⟩ := except_bind_ok listed
    exact ⟨cursor, access, granted, Except.ok.inj listed⟩
  · obtain ⟨cursor, _, listed⟩ := except_bind_ok listed
    obtain ⟨access, granted, listed⟩ := except_bind_ok listed
    exact ⟨cursor, access, granted, Except.ok.inj listed⟩

/-- An item of the list for an artifact shows whether its component is more than itself. -/
theorem listArtifacts_neighbors (sound : StoreSound db) (noSelf : NoSelfLinks db)
    (readable : Readable db tenantId actor rootId) {component : Finset String}
    (isComponent : ∀ x, x ∈ component ↔ ReadablyConnected db tenantId actor rootId x)
    {limit : Int} {filter : ListFilter} {items : List ArtifactListItem}
    (listed : listArtifacts db tenantId limit actor filter = .ok items) {item : ArtifactListItem}
    (member : item ∈ items) (isRoot : item.id = rootId) :
    item.hasReadableNeighbors = true ↔ 1 < component.card := by
  obtain ⟨cursor, access, granted, same⟩ := listArtifacts_ok listed
  rw [← same] at member
  obtain ⟨artifact, taken, isItem⟩ := List.mem_map.mp member
  have inside := mem_orderBy.mp (List.mem_of_mem_take taken)
  unfold Database.listed at inside
  simp only [List.mem_filter, Bool.and_eq_true, decide_eq_true_eq] at inside
  have inTenant : artifact.tenantId = tenantId := inside.2.1.1.1
  have sameId : artifact.id = rootId := by
    rw [← isItem] at isRoot
    exact isRoot
  have shown : item.hasReadableNeighbors = db.hasReadableNeighbors access artifact := by
    rw [← isItem]
    rfl
  rw [shown, hasReadableNeighbors_iff sound granted, inTenant, sameId]
  exact neighbor_iff_component noSelf readable isComponent

end Paths

/-! ### Every reachable store -/

section Runs

variable {F : Type} [FloatFormat F] {settings : Settings} {draw : InitializeDraw}
  {past : List (Disk × Occurrence F)} {disk : Disk}

theorem StoreTrace.noSelfLinks (trace : StoreTrace settings draw past disk) :
    NoSelfLinks disk.db := by
  have both : StoreSound disk.db ∧ NoSelfLinks disk.db := by
    apply trace.invariant (P := fun disk => StoreSound disk.db ∧ NoSelfLinks disk.db)
    · intro disk disk' occurrence holds step
      refine ⟨holds.1.step step, ?_⟩
      rcases storeStep_cases holds.1 step with ⟨call, answer, _, effect⟩ | ⟨_, members, same⟩
      · exact effect.noSelfLinks holds.2
      · rw [same]
        exact holds.2
    · refine ⟨StoreSound.fresh settings draw, ?_⟩
      intro edge member
      exact absurd member List.not_mem_nil
  exact both.2

theorem StoreTrace.contextsRead (trace : StoreTrace settings draw past disk) :
    ContextsRead F disk.db := by
  intro row member
  obtain ⟨version, _, stored⟩ := (StoreTrace.recorded trace).rows row member
  exact ⟨_, stored.sourceContext⟩

/-- The paths, the ids and the list speak of one component. -/
theorem graph_views_agree (trace : StoreTrace settings draw past disk) {tenantId rootId : String}
    {actor : Option String} (readable : Readable disk.db tenantId actor rootId) :
    ∃ component : Finset String,
      (∀ x, x ∈ component ↔ ReadablyConnected disk.db tenantId actor rootId x) ∧
      (∃ paths, readableGraphPaths F disk.db tenantId rootId actor = .ok paths ∧
        componentIds disk.db tenantId rootId 500 actor = .ok (paths.map (·.1)) ∧
        ∀ path ∈ paths, ShortestPath disk.db tenantId actor rootId path.1
          (path.2.map (·.artifactId))) ∧
      ∀ limit filter items, listArtifacts disk.db tenantId limit actor filter = .ok items →
        ∀ item ∈ items, item.id = rootId →
          (item.hasReadableNeighbors = true ↔ 1 < component.card) := by
  have sound := StoreTrace.sound trace
  have noSelf := StoreTrace.noSelfLinks trace
  obtain ⟨artifact, known, _, _, mayRead⟩ := id readable
  obtain ⟨access, granted⟩ := mayRead.accessClause sound known
  obtain ⟨component, isComponent⟩ := exists_component disk.db tenantId actor rootId
  refine ⟨component, isComponent, ?_, ?_⟩
  · exact readableGraphPaths_shortest sound noSelf (StoreTrace.contextsRead trace) granted readable
  · intro limit filter items listed item member isRoot
    exact listArtifacts_neighbors sound noSelf readable isComponent listed member isRoot

end Runs

theorem graph_views_agree_cycle :
    ∃ component : Finset String,
      (∀ x, x ∈ component ↔
        ReadablyConnected cycleDisk.db "t" (some "ann") (newId "art" Uuid.nil) x) ∧
      (∃ paths, readableGraphPaths Empty cycleDisk.db "t" (newId "art" Uuid.nil) (some "ann") =
          .ok paths ∧
        componentIds cycleDisk.db "t" (newId "art" Uuid.nil) 500 (some "ann") =
          .ok (paths.map (·.1)) ∧
        ∀ path ∈ paths, ShortestPath cycleDisk.db "t" (some "ann") (newId "art" Uuid.nil) path.1
          (path.2.map (·.artifactId))) ∧
      ∀ limit filter items, listArtifacts cycleDisk.db "t" limit (some "ann") filter = .ok items →
        ∀ item ∈ items, item.id = newId "art" Uuid.nil →
          (item.hasReadableNeighbors = true ↔ 1 < component.card) :=
  graph_views_agree
    (performAll_trace (.start : StoreTrace Settings.standard InitializeDraw.epoch [] _) cycleCalls)
    cycle_readable

end FolioLattice.Store
