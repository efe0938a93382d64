/-
The component of an artifact: what `graph_component` finds, whole or cut, from any
member of it.
-/

import FolioLattice.Relational.NodeOrder
import FolioLattice.Store.SearchSound

namespace FolioLattice.Store

open FolioLattice.Text FolioLattice.Data FolioLattice.Relational
open FolioLattice.Effects (except_bind_ok)

/-! ### Readable links -/

section Links

variable (db : Database) (tenantId : String) (actor : Option String)

/-- An edge of the tenant joins the two, in either direction. -/
def Joined (a b : String) : Prop :=
  ∃ edge ∈ db.edges, edge.tenantId = tenantId ∧
    ((edge.sourceArtifactId = a ∧ edge.targetArtifactId = b) ∨
      (edge.sourceArtifactId = b ∧ edge.targetArtifactId = a))

def ReadablyLinked (a b : String) : Prop :=
  Joined db tenantId a b ∧ Readable db tenantId actor a ∧ Readable db tenantId actor b

end Links

section Component

variable {db : Database} {tenantId : String} {actor : Option String} {access : ArtifactRow → Bool}
  {startId : String}

theorem joined_of_touches {edge : EdgeRow} {a b : String} (stored : edge ∈ db.edges)
    (inTenant : edge.tenantId = tenantId) (aEnd : edge.touches a = true)
    (bEnd : edge.touches b = true) (different : b ≠ a) : Joined db tenantId a b := by
  unfold EdgeRow.touches at aEnd bEnd
  simp only [Bool.or_eq_true, decide_eq_true_eq] at aEnd bEnd
  refine ⟨edge, stored, inTenant, ?_⟩
  rcases aEnd with aSource | aTarget
  · rcases bEnd with bSource | bTarget
    · exact absurd (bSource.symm.trans aSource) different
    · exact Or.inl ⟨aSource, bTarget⟩
  · rcases bEnd with bSource | bTarget
    · exact Or.inr ⟨bSource, aTarget⟩
    · exact absurd (bTarget.symm.trans aTarget) different

theorem Joined.touches {a b : String} (joined : Joined db tenantId a b) :
    ∃ edge ∈ db.edges, edge.tenantId = tenantId ∧ edge.touches a = true ∧ edge.touches b = true := by
  obtain ⟨edge, stored, inTenant, ends⟩ := joined
  refine ⟨edge, stored, inTenant, ?_⟩
  unfold EdgeRow.touches
  simp only [Bool.or_eq_true, decide_eq_true_eq]
  rcases ends with ⟨source, target⟩ | ⟨source, target⟩
  · exact ⟨Or.inl source, Or.inr target⟩
  · exact ⟨Or.inr target, Or.inl source⟩

theorem Joined.symm {a b : String} (joined : Joined db tenantId a b) : Joined db tenantId b a := by
  obtain ⟨edge, stored, inTenant, ends⟩ := joined
  exact ⟨edge, stored, inTenant, ends.symm⟩

instance : Std.Symm (ReadablyLinked db tenantId actor) where
  symm _ _ linked := ⟨linked.1.symm, linked.2.2, linked.2.1⟩

theorem ReadablyConnected.readable {x : String}
    (connected : ReadablyConnected db tenantId actor startId x) : Readable db tenantId actor x := by
  cases connected with
  | root readable => exact readable
  | step _ _ _ _ readable => exact readable

/-- The component is the closure of the root under readable links. -/
theorem readablyConnected_iff (readable : Readable db tenantId actor startId) {x : String} :
    ReadablyConnected db tenantId actor startId x ↔
      Relation.ReflTransGen (ReadablyLinked db tenantId actor) startId x := by
  constructor
  · intro connected
    induction connected with
    | root _ => exact .refl
    | @step edge current other connected stored inTenant joins readable ih =>
        by_cases same : other = current
        · rw [same]
          exact ih
        · exact ih.tail ⟨joined_of_touches stored inTenant joins.1 joins.2 same,
            connected.readable, readable⟩
  · intro closure
    induction closure with
    | refl => exact .root readable
    | tail _ linked ih =>
        obtain ⟨edge, stored, inTenant, touches⟩ := linked.1.touches
        exact .step ih stored inTenant touches linked.2.2

theorem ReadablyConnected.symm {x : String} (readable : Readable db tenantId actor startId)
    (connected : ReadablyConnected db tenantId actor startId x) :
    ReadablyConnected db tenantId actor x startId := by
  rw [readablyConnected_iff connected.readable]
  exact Relation.ReflTransGen.stdSymm.symm _ _ ((readablyConnected_iff readable).mp connected)

/-- The component of a member is the component. -/
theorem ReadablyConnected.same {x : String} (readable : Readable db tenantId actor startId)
    (connected : ReadablyConnected db tenantId actor startId x) (y : String) :
    ReadablyConnected db tenantId actor x y ↔ ReadablyConnected db tenantId actor startId y := by
  have there := (readablyConnected_iff readable).mp connected
  have back := (readablyConnected_iff connected.readable).mp (connected.symm readable)
  rw [readablyConnected_iff connected.readable, readablyConnected_iff readable]
  exact ⟨there.trans, back.trans⟩

/-! ### The search of a component -/

/-- The artifacts one readable edge away, as ids. -/
def Database.neighborIds (db : Database) (tenantId : String) (access : ArtifactRow → Bool)
    (current : String) : List String :=
  (db.adjacent tenantId access current).map (·.id)

theorem mem_neighborIds (sound : StoreSound db) (granted : accessClause db actor .read = .ok access)
    {current x : String} :
    x ∈ db.neighborIds tenantId access current ↔
      x ≠ current ∧ Joined db tenantId current x ∧ Readable db tenantId actor x := by
  unfold Database.neighborIds Database.adjacent
  simp only [List.mem_map, mem_orderBy, List.mem_flatMap, List.mem_filter, Bool.and_eq_true,
    Bool.or_eq_true, decide_eq_true_eq]
  constructor
  · rintro ⟨artifact, ⟨row, ⟨edge, ⟨stored, inTenant, touches⟩, other,
      ⟨known, ⟨⟨sameTenant, different⟩, isEnd⟩, permitted⟩, isRow⟩, isArtifact⟩, isId⟩
    have isOther : other = artifact := by rw [← isArtifact, ← isRow]
    rw [isOther] at known sameTenant different isEnd permitted
    rw [← isId]
    refine ⟨different, joined_of_touches stored inTenant touches ?_ different, artifact, known, rfl,
      sameTenant.trans inTenant, (access_iff sound granted known).mp permitted⟩
    unfold EdgeRow.touches
    rw [Bool.or_eq_true, decide_eq_true_eq, decide_eq_true_eq]
    exact isEnd.imp Eq.symm Eq.symm
  · rintro ⟨different, joined, artifact, known, isId, inTenant, mayRead⟩
    obtain ⟨edge, stored, edgeTenant, currentEnd, xEnd⟩ := joined.touches
    refine ⟨artifact, ⟨(edge, artifact), ⟨edge, ⟨stored, edgeTenant, currentEnd⟩, artifact,
      ⟨known, ⟨⟨inTenant.trans edgeTenant.symm, ?_⟩, ?_⟩, ?_⟩, rfl⟩, rfl⟩, isId⟩
    · rw [isId]
      exact different
    · unfold EdgeRow.touches at xEnd
      rw [Bool.or_eq_true, decide_eq_true_eq, decide_eq_true_eq] at xEnd
      rw [isId]
      exact xEnd.imp Eq.symm Eq.symm
    · exact (access_iff sound granted known).mpr mayRead

/-- What a search walks to is the component. -/
theorem walk_iff_connected (sound : StoreSound db)
    (granted : accessClause db actor .read = .ok access)
    (readable : Readable db tenantId actor startId) {x : String} :
    (∃ d, Walk id (db.neighborIds tenantId access) startId d x) ↔
      ReadablyConnected db tenantId actor startId x := by
  constructor
  · rintro ⟨d, walk⟩
    induction walk with
    | start => exact .root readable
    | @step _ y e _ edge ih =>
        obtain ⟨_, joined, mayRead⟩ := (mem_neighborIds sound granted).mp edge
        obtain ⟨stored, member, inTenant, touches⟩ := joined.touches
        exact .step ih member inTenant touches mayRead
  · intro connected
    rw [readablyConnected_iff readable] at connected
    induction connected with
    | refl => exact ⟨0, .start⟩
    | @tail y z _ linked ih =>
        obtain ⟨d, walk⟩ := ih
        by_cases same : z = y
        · rw [same]
          exact ⟨d, walk⟩
        · exact ⟨d + 1, .step walk ((mem_neighborIds sound granted).mpr
            ⟨same, linked.1, linked.2.2⟩)⟩

/-- Components are finite. -/
theorem exists_component (db : Database) (tenantId : String) (actor : Option String)
    (startId : String) :
    ∃ component : Finset String, ∀ x,
      x ∈ component ↔ ReadablyConnected db tenantId actor startId x := by
  classical
  refine ⟨(db.artifacts.map (·.id)).toFinset.filter
    (ReadablyConnected db tenantId actor startId), ?_⟩
  intro x
  rw [Finset.mem_filter, List.mem_toFinset, and_iff_right_iff_imp]
  intro connected
  obtain ⟨artifact, known, isId, _⟩ := connected.readable
  exact List.mem_map.mpr ⟨artifact, known, isId⟩

theorem componentIds_finds (granted : accessClause db actor .read = .ok access)
    (readable : Readable db tenantId actor startId) (limit : Int) :
    ∃ ids, componentIds db tenantId startId limit actor = .ok ids ∧
      Finds (db.neighborIds tenantId access) startId (clampLimit limit maxGraphComponentNodes)
        ids := by
  refine ⟨breadthFirst id (db.neighborIds tenantId access)
    (clampLimit limit maxGraphComponentNodes) startId, ?_, ?_⟩
  · obtain ⟨artifact, _, isId, inTenant, mayRead⟩ := readable
    unfold MayRead at mayRead
    rw [isId, inTenant] at mayRead
    unfold componentIds
    rw [mayRead, granted]
    rfl
  · have finds : Finds (db.neighborIds tenantId access) (id startId)
        (clampLimit limit maxGraphComponentNodes)
        ((breadthFirst id (db.neighborIds tenantId access)
          (clampLimit limit maxGraphComponentNodes) startId).map id) :=
      (breadthFirst_finds (Q := fun _ _ => True) (fun node => List.map_id _)
        (fun _ _ _ _ _ _ => trivial) (clampLimit_pos limit _) trivial).1
    rw [List.map_id] at finds
    exact finds

theorem findArtifact_readable (sound : StoreSound db)
    (granted : accessClause db actor .read = .ok access) {x : String}
    (readable : Readable db tenantId actor x) :
    ∃ artifact ∈ db.artifacts, artifact.id = x ∧ artifact.tenantId = tenantId ∧
      MayRead db actor artifact ∧
      db.artifacts.find? (fun a => a.tenantId = tenantId && a.id = x && access a) =
        some artifact := by
  obtain ⟨artifact, known, isId, inTenant, mayRead⟩ := readable
  refine ⟨artifact, known, isId, inTenant, mayRead, ?_⟩
  apply sound.grants.artifactIds.find? known
  · simp only [Bool.and_eq_true, decide_eq_true_eq]
    exact ⟨⟨inTenant, isId⟩, (access_iff sound granted known).mpr mayRead⟩
  · intro other holds
    simp only [Bool.and_eq_true, decide_eq_true_eq] at holds
    exact holds.1.2.trans isId.symm

/-! ### `graph_component` -/

/-- What `graph_component` gives: the whole component, or `n` of its artifacts that hang
together. -/
structure ComponentAnswer (db : Database) (tenantId : String) (actor : Option String)
    (startId : String) (n : Nat) (component : Finset String) (items : List ComponentItem) : Prop where
  once : (items.map (·.id)).Nodup
  first : (items.map (·.id)).head? = some startId
  shows : ∀ item ∈ items, ∃ artifact ∈ db.artifacts, artifact.tenantId = tenantId ∧
    MayRead db actor artifact ∧ item = artifact.componentItem db
  inside : ∀ id ∈ items.map (·.id), id ∈ component
  whole : component.card ≤ n → ∀ id ∈ component, id ∈ items.map (·.id)
  cut : n < component.card → items.length = n
  connected : ∀ id ∈ items.map (·.id), Relation.ReflTransGen (fun a b =>
    ReadablyLinked db tenantId actor a b ∧ b ∈ items.map (·.id)) startId id

theorem graphComponent_answer (sound : StoreSound db)
    (granted : accessClause db actor .read = .ok access)
    (readable : Readable db tenantId actor startId) (limit : Int) {component : Finset String}
    (isComponent : ∀ x, x ∈ component ↔ ReadablyConnected db tenantId actor startId x) :
    ∃ items, graphComponent db tenantId startId limit actor = .ok items ∧
      ComponentAnswer db tenantId actor startId (clampLimit limit maxGraphComponentNodes)
        component items := by
  obtain ⟨ids, found, finds⟩ := componentIds_finds granted readable limit
  have isWalk : ∀ x, x ∈ component ↔ ∃ d, Walk id (db.neighborIds tenantId access) startId d x :=
    fun x => (isComponent x).trans (walk_iff_connected sound granted readable).symm
  have members : ∀ x ∈ ids, x ∈ component := fun x member => (isWalk x).mpr (finds.walks x member)
  have allReadable : ∀ x ∈ ids, Readable db tenantId actor x :=
    fun x member => ((isComponent x).mp (members x member)).readable
  obtain ⟨items, isItems, sameIds, shows⟩ : ∃ items : List ComponentItem,
      ids.filterMap (fun artifactId =>
        (db.artifacts.find? (fun a => a.tenantId = tenantId && a.id = artifactId && access a)).map
          (fun a => a.componentItem db)) = items ∧ items.map (·.id) = ids ∧
        ∀ item ∈ items, ∃ artifact ∈ db.artifacts, artifact.tenantId = tenantId ∧
          MayRead db actor artifact ∧ item = artifact.componentItem db := by
    clear members finds found isWalk
    induction ids with
    | nil => exact ⟨[], rfl, rfl, fun _ member => absurd member List.not_mem_nil⟩
    | cons x rest ih =>
        obtain ⟨items, isItems, sameIds, shows⟩ :=
          ih (fun y member => allReadable y (List.mem_cons_of_mem _ member))
        obtain ⟨artifact, known, isId, inTenant, mayRead, isFound⟩ :=
          findArtifact_readable sound granted (allReadable x List.mem_cons_self)
        refine ⟨artifact.componentItem db :: items, ?_, ?_, ?_⟩
        · rw [List.filterMap_cons, isFound, isItems]
          rfl
        · rw [List.map_cons, sameIds, ← isId]
          rfl
        · intro item member
          rcases List.mem_cons.mp member with same | later
          · exact ⟨artifact, known, inTenant, mayRead, same⟩
          · exact shows item later
  obtain ⟨few, many⟩ := finds.whole isWalk
  refine ⟨items, ?_, ?_⟩
  · unfold graphComponent
    rw [found, granted]
    exact congrArg Except.ok isItems
  · constructor
    · rw [sameIds]
      exact finds.nodup
    · rw [sameIds]
      exact finds.head (clampLimit_pos limit _)
    · exact shows
    · rw [sameIds]
      exact members
    · intro small x member
      rw [sameIds]
      rw [← few small] at member
      exact List.mem_toFinset.mp member
    · intro large
      have length := many large
      rw [← sameIds, List.length_map] at length
      exact length
    · rw [sameIds]
      intro x member
      refine Relation.ReflTransGen.mono ?_ _ _ (finds.connected x member)
      intro a b step
      obtain ⟨aFound, edge, bFound⟩ := step
      obtain ⟨_, joined, bReadable⟩ := (mem_neighborIds sound granted).mp edge
      exact ⟨⟨joined, allReadable a aFound, bReadable⟩, bFound⟩

/-- Two answers that hold the whole component hold the same items. -/
theorem ComponentAnswer.subset (sound : StoreSound db) {n : Nat} {anchor : String}
    {component : Finset String} {items items' : List ComponentItem}
    (answer : ComponentAnswer db tenantId actor startId n component items)
    (answer' : ComponentAnswer db tenantId actor anchor n component items')
    (few : component.card ≤ n) : items ⊆ items' := by
  intro item member
  have isId := answer.inside item.id (List.mem_map_of_mem member)
  obtain ⟨item', member', sameId⟩ := List.mem_map.mp (answer'.whole few item.id isId)
  obtain ⟨artifact, known, _, _, isItem⟩ := answer.shows item member
  obtain ⟨artifact', known', _, _, isItem'⟩ := answer'.shows item' member'
  have sameArtifact : artifact' = artifact := by
    apply sound.grants.artifactIds.eq known' known
    rw [isItem, isItem'] at sameId
    exact sameId
  rw [isItem, ← sameArtifact, ← isItem']
  exact member'

theorem ComponentAnswer.perm (sound : StoreSound db) {n : Nat} {anchor : String}
    {component : Finset String} {items items' : List ComponentItem}
    (answer' : ComponentAnswer db tenantId actor anchor n component items')
    (answer : ComponentAnswer db tenantId actor startId n component items)
    (few : component.card ≤ n) : items'.Perm items :=
  (List.perm_ext_iff_of_nodup answer'.once.of_map answer.once.of_map).mpr (fun _ =>
    ⟨fun member => answer'.subset sound answer few member,
      fun member => answer.subset sound answer' few member⟩)

/-- `graph_component` from a readable artifact, and from any other of a component that fits
into the limit. -/
theorem graph_component_from_any_anchor {F : Type} [FloatFormat F] {settings : Settings}
    {draw : InitializeDraw} {past : List (Disk × Occurrence F)} {disk : Disk}
    (trace : StoreTrace settings draw past disk)
    (readable : Readable disk.db tenantId actor startId) (limit : Int) :
    ∃ component : Finset String,
      (∀ x, x ∈ component ↔ ReadablyConnected disk.db tenantId actor startId x) ∧
      ∃ items, graphComponent disk.db tenantId startId limit actor = .ok items ∧
        ComponentAnswer disk.db tenantId actor startId
          (clampLimit limit maxGraphComponentNodes) component items ∧
        (component.card ≤ clampLimit limit maxGraphComponentNodes → ∀ anchor ∈ component,
          ∃ items', graphComponent disk.db tenantId anchor limit actor = .ok items' ∧
            items'.Perm items) := by
  have sound := StoreTrace.sound trace
  obtain ⟨artifact, known, _, _, mayRead⟩ := id readable
  obtain ⟨access, granted⟩ := mayRead.accessClause sound known
  obtain ⟨component, isComponent⟩ := exists_component disk.db tenantId actor startId
  obtain ⟨items, found, answer⟩ :=
    graphComponent_answer sound granted readable limit isComponent
  refine ⟨component, isComponent, items, found, answer, ?_⟩
  intro few anchor member
  have connected := (isComponent anchor).mp member
  have same : ∀ x, x ∈ component ↔ ReadablyConnected disk.db tenantId actor anchor x :=
    fun x => (isComponent x).trans (connected.same readable x).symm
  obtain ⟨items', found', answer'⟩ :=
    graphComponent_answer sound granted connected.readable limit same
  exact ⟨items', found', answer'.perm sound answer few⟩

end Component

/-! ### The component of two linked artifacts -/

theorem cycle_readable : Readable cycleDisk.db "t" (some "ann") (newId "art" Uuid.nil) := by
  refine ⟨⟨newId "art" Uuid.nil, "t", some "ann", "a", "application/octet-stream",
    some (newId "ver" Uuid.nil), Timestamp.epoch.isoformat⟩, ?_, rfl, rfl, ?_⟩
  · decide
  · decide

theorem graph_component_from_any_anchor_cycle :
    ∃ component : Finset String,
      (∀ x, x ∈ component ↔
        ReadablyConnected cycleDisk.db "t" (some "ann") (newId "art" Uuid.nil) x) ∧
      ∃ items, graphComponent cycleDisk.db "t" (newId "art" Uuid.nil) 100 (some "ann") = .ok items ∧
        ComponentAnswer cycleDisk.db "t" (some "ann") (newId "art" Uuid.nil)
          (clampLimit 100 maxGraphComponentNodes) component items ∧
        (component.card ≤ clampLimit 100 maxGraphComponentNodes → ∀ anchor ∈ component,
          ∃ items', graphComponent cycleDisk.db "t" anchor 100 (some "ann") = .ok items' ∧
            items'.Perm items) :=
  graph_component_from_any_anchor
    (performAll_trace (.start : StoreTrace Settings.standard InitializeDraw.epoch [] _) cycleCalls)
    cycle_readable 100

end FolioLattice.Store
