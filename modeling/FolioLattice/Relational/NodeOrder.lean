/-
Breadth-first searches find nodes level by level.

A search that stops after `limit` nodes finds the first nodes of the levels, and what a
node collected on its way fits its distance from the root.
-/

import FolioLattice.Relational.BreadthFirst
import FolioLattice.Relational.LevelOrder
import Mathlib.Data.Finset.Lattice.Fold
import Mathlib.Logic.Relation
import Mathlib.Tactic.Choose

namespace FolioLattice.Relational

variable {α κ : Type} [DecidableEq κ]

/-! ### One row -/

section Row

variable {key : α → κ} {limit : Nat}

/-- The keys that a row adds, cut where the limit is reached. -/
theorem visit_keys {row found : List α} (room : found.length < limit) :
    (visit key limit row found).2.map key =
      (newTargets id (row.map key) (found.map key)).take (limit - found.length) := by
  induction row generalizing found with
  | nil => exact List.take_nil.symm
  | cons node rest ih =>
      rw [visit, List.map_cons, newTargets, id_eq]
      split
      · exact ih room
      · rename_i fresh
        split
        · rename_i full
          have last : limit - found.length = 1 := by omega
          rw [last, List.take_succ_cons, List.take_zero, List.map_singleton]
        · rename_i more
          have longer : (found ++ [node]).length = found.length + 1 := by
            rw [List.length_append, List.length_singleton]
          have split : limit - found.length = (limit - (found.length + 1)) + 1 := by omega
          rw [List.map_cons, ih (by omega), longer, split, List.take_succ_cons, List.map_append,
            List.map_singleton]

/-- Without a cut all new keys of the row are added. -/
theorem visit_keys_of_fits {row found : List α} (room : found.length < limit)
    (fits : found.length + (newTargets id (row.map key) (found.map key)).length ≤ limit) :
    (visit key limit row found).2.map key = newTargets id (row.map key) (found.map key) := by
  rw [visit_keys room, List.take_of_length_le (by omega)]

end Row

theorem walk_of_full {key : α → κ} {next : α → List α} {limit fuel : Nat} {found queue : List α}
    (full : limit ≤ found.length) : walk key next limit fuel found queue = found := by
  cases fuel with
  | zero => rfl
  | succ fuel =>
      cases queue with
      | nil => rfl
      | cons node queue => rw [walk, if_pos full]

/-! ### The queue -/

section Queue

variable (key : α → κ) (adj : κ → List κ) (start : κ) (Q : Nat → α → Prop)

/-- The nodes found up to now stand in a level, and each fits its level. -/
structure Standing (k : Nat) (done rest : List κ) (search : Search κ κ) (found queue : List α) :
    Prop where
  atLevel : AtLevel id adj start k done rest search
  keys : found.map key = search.seen
  queued : List.Forall₂ (fun node entry => key node = entry.1 ∧ Q entry.2 node) queue search.queue
  ranked : ∀ node ∈ found, ∃ d, Distance id adj start d (key node) ∧ Q d node

variable {key adj start Q} {k limit fuel : Nat} {done rest : List κ} {search : Search κ κ}
  {found queue : List α} {next : α → List α}

theorem Standing.initial {root : α} (isStart : key root = start) (ranked : Q 0 root) :
    Standing key adj start Q 0 [] [start] ⟨[], [start], [(start, 0)]⟩ [root] [root] where
  atLevel := AtLevel.initial id adj start
  keys := by rw [List.map_singleton, isStart]
  queued := .cons ⟨isStart, ranked⟩ .nil
  ranked := by
    intro node member
    rw [List.mem_singleton.mp member, isStart]
    exact ⟨0, ⟨.start, fun shorter less => absurd less (Nat.not_lt_zero _)⟩, ranked⟩

/-- The keys found begin the levels. -/
theorem Standing.leading (stands : Standing key adj start Q k done rest search found queue) :
    found.map key <+: (front id adj start (k + 1)).seen := by
  rw [stands.keys, stands.atLevel.seen, front, stands.atLevel.split, List.flatMap_append,
    newTargets_append, ← List.append_assoc]
  exact List.prefix_append _ _

theorem front_seen_leading {k m : Nat} (le : k ≤ m) :
    (front id adj start k).seen <+: (front id adj start m).seen := by
  induction m, le using Nat.le_induction with
  | base => exact ⟨[], List.append_nil _⟩
  | succ m _ ih => exact ih.trans (List.prefix_append _ _)

theorem front_of_empty {k m : Nat} (empty : (front id adj start k).nodes = []) (le : k ≤ m) :
    (front id adj start m).seen = (front id adj start k).seen ∧
      (front id adj start m).nodes = [] := by
  induction m, le using Nat.le_induction with
  | base => exact ⟨rfl, empty⟩
  | succ m _ ih =>
      obtain ⟨same, noNodes⟩ := ih
      rw [front, noNodes, List.flatMap_nil, newTargets]
      exact ⟨(List.append_nil _).trans same, rfl⟩

/-- The levels of a search that has found `limit` nodes, or has none left to look at. -/
def Finds (adj : κ → List κ) (start : κ) (limit : Nat) (keys : List κ) : Prop :=
  ∃ depth, ∀ m, depth ≤ m → keys = (front id adj start m).seen.take limit

theorem finds_of_full {keys : List κ} (leading : keys <+: (front id adj start k).seen)
    (full : keys.length = limit) : Finds adj start limit keys := by
  refine ⟨k, ?_⟩
  intro m le
  have taken := List.prefix_iff_eq_take.mp (leading.trans (front_seen_leading le))
  rw [full] at taken
  exact taken

theorem Standing.finds_of_empty (stands : Standing key adj start Q k done rest search found [])
    (bounded : found.length ≤ limit) : Finds adj start limit (found.map key) := by
  have noQueue : search.queue = [] := List.forall₂_nil_left_iff.mp stands.queued
  have both := stands.atLevel.queue
  rw [noQueue] at both
  obtain ⟨noRest, noNew⟩ := List.append_eq_nil_iff.mp both.symm
  have restNil : rest = [] := List.map_eq_nil_iff.mp noRest
  have newNil := List.map_eq_nil_iff.mp noNew
  have all : (front id adj start k).nodes = done := by
    rw [stands.atLevel.split, restNil, List.append_nil]
  have noNodes : (front id adj start (k + 1)).nodes = [] := by
    rw [front, all]
    exact newNil
  have same : found.map key = (front id adj start (k + 1)).seen := by
    rw [stands.keys, stands.atLevel.seen, front, all]
  refine ⟨k + 1, ?_⟩
  intro m le
  rw [(front_of_empty noNodes le).1, ← same, List.take_of_length_le]
  rw [List.length_map]
  exact bounded

/-- While a node is queued the search stands before it. -/
theorem Standing.before_node {node : α}
    (stands : Standing key adj start Q k done rest search found (node :: queue)) :
    ∃ k' done' rest' searchQueue, search.queue = (key node, k') :: searchQueue ∧ Q k' node ∧
      Standing key adj start Q k' done' (key node :: rest') search found (node :: queue) := by
  obtain ⟨entry, searchQueue, ⟨isKey, ranked⟩, _, isQueue⟩ :=
    List.forall₂_cons_left_iff.mp stands.queued
  obtain ⟨k', done', x, rest', atLevel, _⟩ := stands.atLevel.before_node
    (Or.inl (Nat.lt_succ_self k) : InDepth (k + 1) k done)
    (by rw [isQueue]; exact List.cons_ne_nil _ _)
  have head := isQueue.symm.trans atLevel.queue
  rw [List.map_cons, List.cons_append] at head
  have isFirst : entry = (x, k') := (List.cons.inj head).1
  have isNode : key node = x := by rw [isKey, isFirst]
  rw [isFirst, ← isNode] at isQueue
  rw [isFirst] at ranked
  rw [← isNode] at atLevel
  exact ⟨k', done', rest', searchQueue, isQueue, ranked,
    ⟨atLevel, stands.keys, stands.queued, stands.ranked⟩⟩

/-- What is new in a row of a node at level `k` is at level `k + 1`. -/
theorem Standing.distance {node : α}
    (stands : Standing key adj start Q k done (key node :: rest) search found (node :: queue))
    {x : κ} (isNew : x ∈ newTargets id (adj (key node)) search.seen) :
    Distance id adj start (k + 1) x := by
  apply mem_front_nodes.mp
  rw [front, stands.atLevel.split, List.flatMap_append, newTargets_append, List.flatMap_cons,
    newTargets_append, ← stands.atLevel.seen]
  exact List.mem_append_right _ (List.mem_append_left _ isNew)

/-- A row, cut or not, finds nodes of the next level. -/
theorem Standing.row {node : α}
    (stands : Standing key adj start Q k done (key node :: rest) search found (node :: queue))
    (room : found.length < limit) (follows : (next node).map key = adj (key node))
    (passes : ∀ other ∈ next node, Distance id adj start (k + 1) (key other) → Q (k + 1) other) :
    (visit key limit (next node) found).1.map key <+: (front id adj start (k + 1)).seen ∧
      ∀ other ∈ (visit key limit (next node) found).1,
        ∃ d, Distance id adj start d (key other) ∧ Q d other := by
  obtain ⟨joined, inside⟩ := visit_spec key limit (next node) found
  have added : (visit key limit (next node) found).2.map key =
      (newTargets id ((next node).map key) (found.map key)).take (limit - found.length) :=
    visit_keys room
  rw [follows, stands.keys] at added
  have leads : (visit key limit (next node) found).2.map key <+:
      newTargets id (adj (key node)) search.seen := by
    rw [added]
    exact List.take_prefix _ _
  constructor
  · have level : (front id adj start (k + 1)).seen = search.seen ++
        newTargets id (adj (key node)) search.seen ++
          newTargets id (rest.flatMap adj) (search.seen ++
            newTargets id (adj (key node)) search.seen) := by
      rw [front, stands.atLevel.split, List.flatMap_append, newTargets_append, List.flatMap_cons,
        newTargets_append, ← stands.atLevel.seen, stands.atLevel.seen]
      simp only [List.append_assoc]
    rw [joined, List.map_append, stands.keys, level]
    exact ((List.prefix_append_right_inj _).mpr leads).trans (List.prefix_append _ _)
  · intro other member
    rw [joined] at member
    rcases List.mem_append.mp member with old | isNew
    · exact stands.ranked other old
    · have distance := stands.distance (leads.subset (List.mem_map_of_mem isNew))
      exact ⟨k + 1, distance, passes other (inside other isNew) distance⟩

/-- The step: the row of the oldest node in the queue. -/
theorem Standing.step {node : α} {searchQueue : List (κ × Nat)}
    (stands : Standing key adj start Q k done (key node :: rest) search found (node :: queue))
    (isQueue : search.queue = (key node, k) :: searchQueue) (room : found.length < limit)
    (follows : (next node).map key = adj (key node))
    (passes : ∀ other ∈ next node, Distance id adj start (k + 1) (key other) → Q (k + 1) other)
    (added : (visit key limit (next node) found).2.map key =
      newTargets id ((next node).map key) (found.map key)) :
    Standing key adj start Q k (done ++ [key node]) rest
      ((adj (key node)).foldl (Search.add id k) { search with queue := searchQueue })
      (visit key limit (next node) found).1
      (queue ++ (visit key limit (next node) found).2) := by
  obtain ⟨joined, inside⟩ := visit_spec key limit (next node) found
  rw [follows, stands.keys] at added
  have popped := stands.queued
  rw [isQueue] at popped
  obtain ⟨_, tail⟩ := List.forall₂_cons.mp popped
  have new : List.Forall₂ (fun node entry => key node = entry.1 ∧ Q entry.2 node)
      (visit key limit (next node) found).2
      ((newTargets id (adj (key node)) search.seen).map (fun x => (x, k + 1))) := by
    rw [← added, List.map_map, List.forall₂_map_right_iff]
    apply List.forall₂_same.mpr
    intro other member
    refine ⟨rfl, passes other (inside other member) (stands.distance ?_)⟩
    rw [← added]
    exact List.mem_map_of_mem member
  constructor
  · exact stands.atLevel.step isQueue
  · rw [joined, List.map_append, added, stands.keys, foldl_add]
  · rw [foldl_add]
    exact List.rel_append tail new
  · exact (stands.row room follows passes).2

/-- The search finds the first nodes of the levels, and each fits its level. -/
theorem walk_finds (follows : ∀ node, (next node).map key = adj (key node))
    (passes : ∀ d node, Q d node → ∀ other ∈ next node,
      Distance id adj start (d + 1) (key other) → Q (d + 1) other)
    (stands : Standing key adj start Q k done rest search found queue)
    (counted : limit + queue.length ≤ fuel + found.length) (bounded : found.length ≤ limit) :
    Finds adj start limit ((walk key next limit fuel found queue).map key) ∧
      ∀ node ∈ walk key next limit fuel found queue,
        ∃ d, Distance id adj start d (key node) ∧ Q d node := by
  induction fuel generalizing k done rest search found queue with
  | zero =>
      have full : found.length = limit := by omega
      have length : (found.map key).length = limit := by rw [List.length_map, full]
      exact ⟨finds_of_full stands.leading length, stands.ranked⟩
  | succ fuel ih =>
      cases queue with
      | nil => exact ⟨stands.finds_of_empty bounded, stands.ranked⟩
      | cons node queue =>
          rw [walk]
          split
          · rename_i full
            refine ⟨finds_of_full stands.leading ?_, stands.ranked⟩
            rw [List.length_map, Nat.le_antisymm bounded full]
          · rename_i more
            have room := Nat.lt_of_not_le more
            obtain ⟨k, done, rest, searchQueue, isQueue, ranked, stands⟩ := stands.before_node
            have total : (visit key limit (next node) found).1.length ≤ limit := visit_length room
            have joined := (visit_spec key limit (next node) found).1
            have lengths : (visit key limit (next node) found).1.length =
                found.length + (visit key limit (next node) found).2.length := by
              conv_lhs => rw [joined]
              exact List.length_append
            rw [List.length_cons] at counted
            by_cases fits : found.length +
                (newTargets id ((next node).map key) (found.map key)).length ≤ limit
            · apply ih (stands.step isQueue room (follows node) (passes k node ranked)
                (visit_keys_of_fits room fits))
              · rw [List.length_append]
                omega
              · exact total
            · -- the limit cuts the row, and the search ends
              have cut : (visit key limit (next node) found).1.length = limit := by
                have added : (visit key limit (next node) found).2.map key =
                    (newTargets id ((next node).map key) (found.map key)).take
                      (limit - found.length) :=
                  visit_keys room
                have count := congrArg List.length added
                rw [List.length_map, List.length_take] at count
                omega
              obtain ⟨leading, fit⟩ := stands.row room (follows node) (passes k node ranked)
              have ended : walk key next limit fuel (visit key limit (next node) found).1
                  (queue ++ (visit key limit (next node) found).2) =
                    (visit key limit (next node) found).1 :=
                walk_of_full (Nat.le_of_eq cut.symm)
              dsimp only
              rw [ended]
              refine ⟨finds_of_full leading ?_, fit⟩
              rw [List.length_map, cut]

theorem breadthFirst_finds {root : α} (follows : ∀ node, (next node).map key = adj (key node))
    (passes : ∀ d node, Q d node → ∀ other ∈ next node,
      Distance id adj (key root) (d + 1) (key other) → Q (d + 1) other)
    (positive : 0 < limit) (ranked : Q 0 root) :
    Finds adj (key root) limit ((breadthFirst key next limit root).map key) ∧
      ∀ node ∈ breadthFirst key next limit root,
        ∃ d, Distance id adj (key root) d (key node) ∧ Q d node := by
  apply walk_finds follows passes (Standing.initial rfl ranked)
  · rw [List.length_singleton]
  · exact positive

end Queue

/-! ### What the first nodes of the levels are -/

omit [DecidableEq κ] in
theorem exists_distance {adj : κ → List κ} {start x : κ} (walks : ∃ d, Walk id adj start d x) :
    ∃ d, Distance id adj start d x := by
  classical
  refine ⟨Nat.find walks, Nat.find_spec walks, ?_⟩
  intro shorter less
  exact Nat.find_min walks less

section Finds

variable {adj : κ → List κ} {start : κ} {limit : Nat} {keys : List κ}

theorem Finds.nodup (finds : Finds adj start limit keys) : keys.Nodup := by
  obtain ⟨depth, same⟩ := finds
  rw [same depth (Nat.le_refl _)]
  exact (front_spec depth).1.sublist (List.take_sublist _ _)

theorem Finds.head (finds : Finds adj start limit keys) (positive : 0 < limit) :
    keys.head? = some start := by
  obtain ⟨depth, same⟩ := finds
  obtain ⟨more, isSeen⟩ : (front id adj start 0).seen <+: (front id adj start depth).seen :=
    front_seen_leading (Nat.zero_le depth)
  obtain ⟨n, rfl⟩ : ∃ n, limit = n + 1 := ⟨limit - 1, by omega⟩
  rw [same depth (Nat.le_refl _), ← isSeen]
  rfl

theorem Finds.walks (finds : Finds adj start limit keys) :
    ∀ x ∈ keys, ∃ d, Walk id adj start d x := by
  obtain ⟨depth, same⟩ := finds
  intro x member
  rw [same depth (Nat.le_refl _)] at member
  obtain ⟨d, _, walk⟩ := ((front_spec depth).2.1 x).mp (List.mem_of_mem_take member)
  exact ⟨d, walk⟩

/-- Every node found was come to through nodes found. -/
theorem Finds.connected (finds : Finds adj start limit keys) :
    ∀ x ∈ keys, Relation.ReflTransGen (fun a b => a ∈ keys ∧ b ∈ adj a ∧ b ∈ keys) start x := by
  have ranked : ∀ d x, Distance id adj start d x → x ∈ keys →
      Relation.ReflTransGen (fun a b => a ∈ keys ∧ b ∈ adj a ∧ b ∈ keys) start x := by
    intro d
    induction d with
    | zero =>
        intro x distance _
        cases distance.1
        exact .refl
    | succ d ih =>
        intro x distance member
        obtain ⟨walk, shortest⟩ := distance
        cases walk with
        | @step _ y e walk edge =>
            have before : Distance id adj start d y := by
              refine ⟨walk, ?_⟩
              intro shorter less earlier
              exact shortest (shorter + 1) (Nat.succ_lt_succ less) (.step earlier edge)
            -- the earlier level stands before the node's own
            have inside : y ∈ keys := by
              obtain ⟨depth, same⟩ := finds
              have large := same (max depth d) (Nat.le_max_left _ _)
              obtain ⟨more, isSeen⟩ :
                  (front id adj start d).seen <+: (front id adj start (max depth d)).seen :=
                front_seen_leading (Nat.le_max_right depth d)
              rw [← isSeen] at large
              have notYet : id e ∉ (front id adj start d).seen := by
                intro early
                obtain ⟨d', le, walk'⟩ := ((front_spec d).2.1 _).mp early
                exact shortest d' (Nat.lt_succ_of_le le) walk'
              have fits : (front id adj start d).seen.length ≤ limit := by
                by_contra many
                rw [large, List.take_append_of_le_length (by omega)] at member
                exact notYet (List.mem_of_mem_take member)
              rw [large, List.take_append, List.take_of_length_le fits]
              exact List.mem_append_left _ (((front_spec d).2.1 y).mpr ⟨d, Nat.le_refl _, walk⟩)
            exact (ih y before inside).tail ⟨inside, edge, member⟩
  intro x member
  obtain ⟨d, distance⟩ := exists_distance (finds.walks x member)
  exact ranked d x distance member

/-! ### The whole component -/

variable {component : Finset κ}

/-- Far enough down the levels hold the whole component. -/
theorem exists_front_component (isComponent : ∀ x, x ∈ component ↔ ∃ d, Walk id adj start d x) :
    ∃ m, ∀ k, m ≤ k → (front id adj start k).seen.toFinset = component := by
  have bounded : ∃ m, ∀ x ∈ component, ∃ d ≤ m, Walk id adj start d x := by
    choose! depth walks using fun x => (isComponent x).mp
    exact ⟨component.sup depth, fun x member => ⟨depth x, Finset.le_sup member, walks x member⟩⟩
  obtain ⟨m, shallow⟩ := bounded
  refine ⟨m, ?_⟩
  intro k le
  ext x
  rw [List.mem_toFinset, (front_spec k).2.1, isComponent]
  constructor
  · rintro ⟨d, _, walk⟩
    exact ⟨d, walk⟩
  · intro walks
    obtain ⟨d, small, walk⟩ := shallow x ((isComponent x).mpr walks)
    exact ⟨d, Nat.le_trans small le, walk⟩

theorem Finds.whole (finds : Finds adj start limit keys)
    (isComponent : ∀ x, x ∈ component ↔ ∃ d, Walk id adj start d x) :
    (component.card ≤ limit → keys.toFinset = component) ∧
      (limit < component.card → keys.length = limit) := by
  obtain ⟨m, all⟩ := exists_front_component isComponent
  obtain ⟨depth, same⟩ := finds
  have isAll := all (max m depth) (Nat.le_max_left _ _)
  have isKeys := same (max m depth) (Nat.le_max_right _ _)
  have count : (front id adj start (max m depth)).seen.length = component.card := by
    rw [← isAll, List.toFinset_card_of_nodup (front_spec _).1]
  constructor
  · intro few
    rw [isKeys, List.take_of_length_le (by omega), isAll]
  · intro many
    rw [isKeys, List.length_take]
    omega

end Finds

end FolioLattice.Relational
