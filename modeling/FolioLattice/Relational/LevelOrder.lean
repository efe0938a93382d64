/-
Searches of a graph level by level.

The levels say which nodes a search comes to and when; the queue says how it gets
there.  A search that stops after `limit` edges takes the first edges of the whole
sequence.
-/

import Mathlib.Data.List.Flatten
import Mathlib.Data.List.Nodup
import Mathlib.Data.List.Sublists

namespace FolioLattice.Relational

variable {ν ε : Type}

/-! ### Distances -/

section Walks

variable (target : ε → ν) (out : ν → List ε) (start : ν)

/-- Some walk of this many edges leads from the start to the node. -/
inductive Walk : Nat → ν → Prop where
  | start : Walk 0 start
  | step {n : Nat} {x : ν} {e : ε} (walk : Walk n x) (edge : e ∈ out x) : Walk (n + 1) (target e)

/-- The length of a shortest walk. -/
def Distance (d : Nat) (x : ν) : Prop :=
  Walk target out start d x ∧ ∀ shorter < d, ¬Walk target out start shorter x

end Walks

theorem Distance.unique {target : ε → ν} {out : ν → List ε} {start : ν} {d d' : Nat} {x : ν}
    (first : Distance target out start d x) (second : Distance target out start d' x) : d = d' := by
  rcases Nat.lt_trichotomy d d' with less | same | more
  · exact absurd first.1 (second.2 d less)
  · exact same
  · exact absurd second.1 (first.2 d' more)

/-! ### New nodes -/

section New

variable [DecidableEq ν] (target : ε → ν)

/-- The targets of the edges that were not seen before, each once. -/
def newTargets : List ε → List ν → List ν
  | [], _ => []
  | e :: rest, seen =>
      if target e ∈ seen then newTargets rest seen
      else target e :: newTargets rest (seen ++ [target e])

variable {target}

theorem newTargets_append (edges more : List ε) (seen : List ν) :
    newTargets target (edges ++ more) seen =
      newTargets target edges seen ++
        newTargets target more (seen ++ newTargets target edges seen) := by
  induction edges generalizing seen with
  | nil =>
      rw [newTargets, List.append_nil]
      rfl
  | cons e rest ih =>
      rw [List.cons_append, newTargets, newTargets]
      split
      · exact ih seen
      · rw [ih, List.cons_append, List.append_assoc, List.singleton_append]

theorem mem_newTargets {edges : List ε} {seen : List ν} {x : ν} :
    x ∈ newTargets target edges seen ↔ x ∉ seen ∧ ∃ e ∈ edges, target e = x := by
  induction edges generalizing seen with
  | nil => simp [newTargets]
  | cons e rest ih =>
      rw [newTargets]
      split
      · rename_i known
        rw [ih]
        constructor
        · rintro ⟨isNew, other, member, same⟩
          exact ⟨isNew, other, List.mem_cons_of_mem _ member, same⟩
        · rintro ⟨isNew, other, member, same⟩
          rcases List.mem_cons.mp member with first | later
          · rw [← same, first] at isNew
            exact absurd known isNew
          · exact ⟨isNew, other, later, same⟩
      · rename_i fresh
        rw [List.mem_cons, ih, List.mem_append, List.mem_singleton]
        constructor
        · rintro (same | ⟨isNew, other, member, same⟩)
          · rw [same]
            exact ⟨fresh, e, List.mem_cons_self, rfl⟩
          · exact ⟨fun old => isNew (Or.inl old), other, List.mem_cons_of_mem _ member, same⟩
        · rintro ⟨isNew, other, member, same⟩
          by_cases first : x = target e
          · exact Or.inl first
          · right
            refine ⟨fun old => old.elim isNew first, other, ?_, same⟩
            rcases List.mem_cons.mp member with isFirst | later
            · rw [isFirst] at same
              exact absurd same.symm first
            · exact later

theorem nodup_newTargets (edges : List ε) {seen : List ν} (nodup : seen.Nodup) :
    (seen ++ newTargets target edges seen).Nodup := by
  induction edges generalizing seen with
  | nil =>
      rw [newTargets, List.append_nil]
      exact nodup
  | cons e rest ih =>
      rw [newTargets]
      split
      · exact ih nodup
      · rename_i fresh
        have longer : (seen ++ [target e]).Nodup :=
          List.nodup_append.mpr ⟨nodup, List.nodup_singleton _, by
            intro a member b isTarget same
            rw [List.mem_singleton.mp isTarget] at same
            rw [same] at member
            exact fresh member⟩
        have whole := ih longer
        rw [List.append_assoc, List.singleton_append] at whole
        exact whole

theorem newTargets_length_le (edges : List ε) (seen : List ν) :
    (newTargets target edges seen).length ≤ edges.length := by
  induction edges generalizing seen with
  | nil => exact Nat.le_refl 0
  | cons e rest ih =>
      rw [newTargets]
      split
      · exact Nat.le_succ_of_le (ih seen)
      · exact Nat.succ_le_succ (ih _)

end New

/-! ### Levels -/

section Levels

variable [DecidableEq ν] (target : ε → ν) (out : ν → List ε) (start : ν)

/-- The nodes up to a level, and those of the level. -/
structure Front (ν : Type) where
  seen : List ν
  nodes : List ν

def front : Nat → Front ν
  | 0 => ⟨[start], [start]⟩
  | k + 1 =>
      let earlier := front k
      let new := newTargets target (earlier.nodes.flatMap out) earlier.seen
      ⟨earlier.seen ++ new, new⟩

/-- The edges out of the first levels with their depths, level by level. -/
def levelEdges (k : Nat) : List (ε × Nat) :=
  (front target out start k).nodes.flatMap (fun x => (out x).map (fun e => (e, k + 1)))

def edgeSequence (maxDepth : Nat) : List (ε × Nat) :=
  (List.range maxDepth).flatMap (levelEdges target out start)

variable {target out start}

theorem front_spec (k : Nat) :
    (front target out start k).seen.Nodup ∧
      (∀ x, x ∈ (front target out start k).seen ↔ ∃ d ≤ k, Walk target out start d x) ∧
      ∀ x, x ∈ (front target out start k).nodes ↔ Distance target out start k x := by
  induction k with
  | zero =>
      refine ⟨List.nodup_singleton _, ?_, ?_⟩
      · intro x
        rw [front, List.mem_singleton]
        constructor
        · intro same
          rw [same]
          exact ⟨0, Nat.le_refl 0, .start⟩
        · rintro ⟨d, zero, walk⟩
          obtain rfl := Nat.le_zero.mp zero
          cases walk
          rfl
      · intro x
        rw [front, List.mem_singleton]
        constructor
        · intro same
          rw [same]
          exact ⟨.start, fun shorter less => absurd less (Nat.not_lt_zero _)⟩
        · rintro ⟨walk, _⟩
          cases walk
          rfl
  | succ k ih =>
      obtain ⟨nodup, seen, nodes⟩ := ih
      have isNew : ∀ x, x ∈ (front target out start (k + 1)).nodes ↔
          Distance target out start (k + 1) x := by
        intro x
        rw [front, mem_newTargets, seen]
        constructor
        · rintro ⟨notSeen, e, member, same⟩
          obtain ⟨y, inside, edge⟩ := List.mem_flatMap.mp member
          rw [← same]
          refine ⟨.step ((nodes y).mp inside).1 edge, ?_⟩
          intro shorter less walk
          rw [same] at walk
          exact notSeen ⟨shorter, Nat.le_of_lt_succ less, walk⟩
        · rintro ⟨walk, shortest⟩
          refine ⟨?_, ?_⟩
          · rintro ⟨d, small, shorter⟩
            exact shortest d (Nat.lt_succ_of_le small) shorter
          · cases walk with
            | @step _ y e walk edge =>
                refine ⟨e, List.mem_flatMap.mpr ⟨y, (nodes y).mpr ⟨walk, ?_⟩, edge⟩, rfl⟩
                -- a shorter walk to the last node but one is a shorter walk to the node
                intro shorter less earlier
                exact shortest (shorter + 1) (Nat.succ_lt_succ less) (.step earlier edge)
      refine ⟨nodup_newTargets _ nodup, ?_, isNew⟩
      intro x
      have split : (front target out start (k + 1)).seen =
          (front target out start k).seen ++ (front target out start (k + 1)).nodes := rfl
      rw [split, List.mem_append, isNew, seen]
      constructor
      · rintro (⟨d, small, walk⟩ | ⟨walk, _⟩)
        · exact ⟨d, Nat.le_succ_of_le small, walk⟩
        · exact ⟨k + 1, Nat.le_refl _, walk⟩
      · rintro ⟨d, small, walk⟩
        rcases Nat.lt_or_ge d (k + 1) with less | equal
        · exact Or.inl ⟨d, Nat.le_of_lt_succ less, walk⟩
        · obtain rfl := Nat.le_antisymm small equal
          by_cases earlier : ∃ d ≤ k, Walk target out start d x
          · exact Or.inl earlier
          · right
            refine ⟨walk, ?_⟩
            intro shorter less also
            exact earlier ⟨shorter, Nat.le_of_lt_succ less, also⟩

theorem mem_front_nodes {k : Nat} {x : ν} :
    x ∈ (front target out start k).nodes ↔ Distance target out start k x :=
  (front_spec k).2.2 x

theorem nodup_front_nodes (k : Nat) : (front target out start k).nodes.Nodup := by
  have nodup : (front target out start k).seen.Nodup := (front_spec k).1
  cases k with
  | zero => exact List.nodup_singleton _
  | succ k => exact (List.nodup_append.mp nodup).2.1

theorem mem_levelEdges {k : Nat} {entry : ε × Nat} :
    entry ∈ levelEdges target out start k ↔
      ∃ x, Distance target out start k x ∧ entry.1 ∈ out x ∧ entry.2 = k + 1 := by
  unfold levelEdges
  rw [List.mem_flatMap]
  apply exists_congr
  intro x
  rw [mem_front_nodes, List.mem_map]
  constructor
  · rintro ⟨distance, e, edge, same⟩
    rw [← same]
    exact ⟨distance, edge, rfl⟩
  · rintro ⟨distance, edge, depth⟩
    exact ⟨distance, entry.1, edge, by rw [← depth]⟩

theorem mem_edgeSequence {maxDepth : Nat} {entry : ε × Nat} :
    entry ∈ edgeSequence target out start maxDepth ↔
      ∃ d x, d < maxDepth ∧ Distance target out start d x ∧ entry.1 ∈ out x ∧ entry.2 = d + 1 := by
  unfold edgeSequence
  simp only [List.mem_flatMap, List.mem_range, mem_levelEdges]
  constructor
  · rintro ⟨d, small, x, found⟩
    exact ⟨d, x, small, found⟩
  · rintro ⟨d, x, small, found⟩
    exact ⟨d, small, x, found⟩

/-- The depths never fall along the sequence. -/
theorem edgeSequence_levels (maxDepth : Nat) :
    (edgeSequence target out start maxDepth).Pairwise (fun a b => a.2 ≤ b.2) := by
  unfold edgeSequence
  rw [List.pairwise_flatMap]
  constructor
  · intro k _
    rw [List.pairwise_iff_forall_sublist]
    intro a b both
    have first := both.subset List.mem_cons_self
    have second := both.subset (List.mem_cons_of_mem _ List.mem_cons_self)
    obtain ⟨_, _, _, aDepth⟩ := mem_levelEdges.mp first
    obtain ⟨_, _, _, bDepth⟩ := mem_levelEdges.mp second
    omega
  · apply List.pairwise_lt_range.imp
    intro k l less a aMember b bMember
    obtain ⟨_, _, _, aDepth⟩ := mem_levelEdges.mp aMember
    obtain ⟨_, _, _, bDepth⟩ := mem_levelEdges.mp bMember
    omega

/-- The edges out of one node stand in the order in which the node has them. -/
theorem edgeSequence_ordered (source : ε → ν) {r : ε → ε → Prop}
    (fromNode : ∀ x, ∀ e ∈ out x, source e = x) (ordered : ∀ x, (out x).Pairwise r)
    (maxDepth : Nat) :
    (edgeSequence target out start maxDepth).Pairwise
      (fun a b => source a.1 = source b.1 → r a.1 b.1) := by
  unfold edgeSequence
  rw [List.pairwise_flatMap]
  constructor
  · intro k _
    unfold levelEdges
    rw [List.pairwise_flatMap]
    constructor
    · intro x _
      apply List.pairwise_map.mpr
      apply (ordered x).imp
      intro a b inOrder _
      exact inOrder
    · apply (nodup_front_nodes k).imp
      intro x y different a aMember b bMember same
      obtain ⟨e, aEdge, isA⟩ := List.mem_map.mp aMember
      obtain ⟨e', bEdge, isB⟩ := List.mem_map.mp bMember
      rw [← isA, ← isB, fromNode x e aEdge, fromNode y e' bEdge] at same
      exact absurd same different
  · apply List.pairwise_lt_range.imp
    intro k l less a aMember b bMember same
    obtain ⟨x, atK, aEdge, _⟩ := mem_levelEdges.mp aMember
    obtain ⟨y, atL, bEdge, _⟩ := mem_levelEdges.mp bMember
    rw [fromNode x a.1 aEdge, fromNode y b.1 bEdge] at same
    rw [same] at atK
    exact absurd (atK.unique atL) (Nat.ne_of_lt less)

theorem edgeSequence_succ (k : Nat) :
    edgeSequence target out start (k + 1) =
      edgeSequence target out start k ++ levelEdges target out start k := by
  unfold edgeSequence
  rw [List.range_succ, List.flatMap_append, List.flatMap_singleton]

theorem edgeSequence_leading {k m : Nat} (le : k ≤ m) :
    edgeSequence target out start k <+: edgeSequence target out start m := by
  induction m, le using Nat.le_induction with
  | base => exact List.prefix_refl _
  | succ m _ ih =>
      rw [edgeSequence_succ]
      exact ih.trans (List.prefix_append _ _)

/-- After an empty level there is nothing more. -/
theorem edgeSequence_of_empty {k m : Nat} (empty : (front target out start k).nodes = [])
    (le : k ≤ m) : edgeSequence target out start m = edgeSequence target out start k := by
  have nothing : (front target out start m).nodes = [] ∧
      edgeSequence target out start m = edgeSequence target out start k := by
    induction m, le using Nat.le_induction with
    | base => exact ⟨empty, rfl⟩
    | succ m _ ih =>
        obtain ⟨noNodes, same⟩ := ih
        constructor
        · rw [front, noNodes]
          rfl
        · rw [edgeSequence_succ, same]
          unfold levelEdges
          rw [noNodes, List.flatMap_nil, List.append_nil]
  exact nothing.2

end Levels

/-! ### The queue -/

section Queue

variable [DecidableEq ν] (target : ε → ν) (out : ν → List ε)

structure Search (ν ε : Type) where
  results : List (ε × Nat)
  seen : List ν
  queue : List (ν × Nat)

/-- An edge out of a node at this depth; its target is queued unless it was seen. -/
def Search.add (depth : Nat) (search : Search ν ε) (e : ε) : Search ν ε :=
  if target e ∈ search.seen then { search with results := search.results ++ [(e, depth + 1)] }
  else
    ⟨search.results ++ [(e, depth + 1)], search.seen ++ [target e],
      search.queue ++ [(target e, depth + 1)]⟩

/-- The edges of one node, up to that which reaches the limit. -/
def searchRow (limit depth : Nat) : List ε → Search ν ε → Search ν ε
  | [], search => search
  | e :: rest, search =>
      let search := search.add target depth e
      if limit ≤ search.results.length then search else searchRow limit depth rest search

def searchLoop (maxDepth limit : Nat) : Nat → Search ν ε → List (ε × Nat)
  | 0, search => search.results
  | fuel + 1, search =>
      match search.queue with
      | [] => search.results
      | (current, depth) :: queue =>
          if limit ≤ search.results.length then search.results
          else if maxDepth ≤ depth then searchLoop maxDepth limit fuel { search with queue := queue }
          else
            searchLoop maxDepth limit fuel
              (searchRow target limit depth (out current) { search with queue := queue })

variable {target out}

theorem foldl_add (depth : Nat) (edges : List ε) (search : Search ν ε) :
    edges.foldl (Search.add target depth) search =
      ⟨search.results ++ edges.map (fun e => (e, depth + 1)),
        search.seen ++ newTargets target edges search.seen,
        search.queue ++ (newTargets target edges search.seen).map (fun x => (x, depth + 1))⟩ := by
  induction edges generalizing search with
  | nil => simp [newTargets]
  | cons e rest ih =>
      rw [List.foldl_cons, ih, newTargets]
      unfold Search.add
      split
      · simp only [List.append_assoc, List.singleton_append, List.map_cons]
      · simp only [List.append_assoc, List.singleton_append, List.map_cons]

theorem Search.add_results (depth : Nat) (search : Search ν ε) (e : ε) :
    (search.add target depth e).results = search.results ++ [(e, depth + 1)] := by
  unfold Search.add
  split <;> rfl

/-- Where the limit leaves room for all, all are added. -/
theorem searchRow_of_fits {limit depth : Nat} {edges : List ε} {search : Search ν ε}
    (fits : search.results.length + edges.length ≤ limit) :
    searchRow target limit depth edges search = edges.foldl (Search.add target depth) search := by
  induction edges generalizing search with
  | nil => rfl
  | cons e rest ih =>
      rw [searchRow, List.foldl_cons]
      have longer : (search.add target depth e).results.length = search.results.length + 1 := by
        rw [Search.add_results, List.length_append, List.length_singleton]
      rw [List.length_cons] at fits
      split
      · rename_i full
        have last : rest = [] := List.eq_nil_of_length_eq_zero (by omega)
        rw [last]
        rfl
      · exact ih (by omega)

theorem searchRow_results {limit depth : Nat} {edges : List ε} {search : Search ν ε}
    (room : search.results.length < limit) :
    (searchRow target limit depth edges search).results =
      (search.results ++ edges.map (fun e => (e, depth + 1))).take limit := by
  induction edges generalizing search with
  | nil =>
      rw [List.map_nil, List.append_nil, List.take_of_length_le (Nat.le_of_lt room)]
      rfl
  | cons e rest ih =>
      have longer : (search.add target depth e).results.length = search.results.length + 1 := by
        rw [Search.add_results, List.length_append, List.length_singleton]
      have joined : search.results ++ (e :: rest).map (fun e => (e, depth + 1)) =
          (search.add target depth e).results ++ rest.map (fun e => (e, depth + 1)) := by
        rw [Search.add_results, List.append_assoc, List.map_cons, List.singleton_append]
      rw [searchRow, joined]
      split
      · rename_i full
        rw [List.take_append_of_le_length full,
          List.take_of_length_le (by omega : (search.add target depth e).results.length ≤ limit)]
      · rename_i more
        exact ih (Nat.lt_of_not_le more)

/-- Once the limit is reached the search ends. -/
theorem searchLoop_of_full {maxDepth limit fuel : Nat} {search : Search ν ε}
    (full : limit ≤ search.results.length) :
    searchLoop target out maxDepth limit fuel search = search.results := by
  cases fuel with
  | zero => rfl
  | succ fuel =>
      rw [searchLoop]
      split
      · rfl
      · rw [if_pos full]

/-- Nodes that are too deep add nothing. -/
theorem searchLoop_of_deep {maxDepth limit fuel : Nat} {search : Search ν ε}
    (deep : ∀ entry ∈ search.queue, maxDepth ≤ entry.2) :
    searchLoop target out maxDepth limit fuel search = search.results := by
  induction fuel generalizing search with
  | zero => rfl
  | succ fuel ih =>
      rw [searchLoop]
      split
      · rfl
      · rename_i current depth queue isQueue
        rw [isQueue] at deep
        split
        · rfl
        · rw [if_pos (deep (current, depth) List.mem_cons_self)]
          exact ih (fun entry member => deep entry (List.mem_cons_of_mem _ member))

/-- The search stands in a level: of its nodes some are done, the rest is queued
before the new nodes of the next level. -/
structure AtLevel (target : ε → ν) (out : ν → List ε) (start : ν) (k : Nat) (done rest : List ν)
    (search : Search ν ε) : Prop where
  split : (front target out start k).nodes = done ++ rest
  seen : search.seen = (front target out start k).seen ++
    newTargets target (done.flatMap out) (front target out start k).seen
  queue : search.queue = rest.map (fun x => (x, k)) ++
    (newTargets target (done.flatMap out) (front target out start k).seen).map (fun x => (x, k + 1))
  results : search.results = edgeSequence target out start k ++
    done.flatMap (fun x => (out x).map (fun e => (e, k + 1)))

/-- How deep the search may stand: no node as deep as the bound is done. -/
def InDepth (maxDepth k : Nat) (done : List ν) : Prop := k < maxDepth ∨ (k = maxDepth ∧ done = [])

section Run

variable {start : ν} {k maxDepth limit fuel : Nat} {done rest : List ν} {search : Search ν ε}

theorem AtLevel.initial (target : ε → ν) (out : ν → List ε) (start : ν) :
    AtLevel target out start 0 [] [start] ⟨[], [start], [(start, 0)]⟩ :=
  ⟨rfl, rfl, rfl, rfl⟩

/-- With all nodes of a level done, the search stands at the beginning of the next. -/
theorem AtLevel.next (stands : AtLevel target out start k done [] search) :
    AtLevel target out start (k + 1) [] (front target out start (k + 1)).nodes search := by
  have all : (front target out start k).nodes = done := by
    rw [stands.split, List.append_nil]
  constructor
  · rfl
  · rw [stands.seen, List.flatMap_nil, newTargets, List.append_nil, front, all]
  · rw [stands.queue, List.flatMap_nil, newTargets, List.map_nil, List.map_nil, List.append_nil,
      List.nil_append, front, all]
  · rw [stands.results, edgeSequence_succ, List.flatMap_nil, List.append_nil, levelEdges, all]

/-- The step: one more node of the level is done. -/
theorem AtLevel.step {x : ν} {queue : List (ν × Nat)}
    (stands : AtLevel target out start k done (x :: rest) search)
    (isQueue : search.queue = (x, k) :: queue) :
    AtLevel target out start k (done ++ [x]) rest
      ((out x).foldl (Search.add target k) { search with queue := queue }) := by
  have tail := isQueue.symm.trans stands.queue
  rw [List.map_cons, List.cons_append] at tail
  have grown : newTargets target ((done ++ [x]).flatMap out) (front target out start k).seen =
      newTargets target (done.flatMap out) (front target out start k).seen ++
        newTargets target (out x) search.seen := by
    rw [List.flatMap_append, List.flatMap_singleton, newTargets_append, stands.seen]
  rw [foldl_add]
  constructor
  · rw [stands.split, List.append_assoc, List.singleton_append]
  · rw [grown]
    simp only [stands.seen, List.append_assoc]
  · rw [grown, List.map_append]
    simp only [(List.cons.inj tail).2, List.append_assoc]
  · rw [List.flatMap_append, List.flatMap_singleton]
    simp only [stands.results, List.append_assoc]

/-- What is found so far begins the whole sequence. -/
theorem AtLevel.prefix_sequence (stands : AtLevel target out start k done rest search)
    (inDepth : InDepth maxDepth k done) :
    search.results <+: edgeSequence target out start maxDepth := by
  rw [stands.results]
  rcases inDepth with below | ⟨same, nothing⟩
  · refine List.IsPrefix.trans ?_ (edgeSequence_leading (Nat.succ_le_of_lt below))
    rw [edgeSequence_succ, levelEdges, stands.split, List.flatMap_append]
    apply (List.prefix_append_right_inj _).mpr
    exact List.prefix_append _ _
  · rw [nothing, same, List.flatMap_nil]
    exact ⟨[], by rw [List.append_nil, List.append_nil]⟩

/-- An empty queue means that the sequence is complete. -/
theorem AtLevel.complete (stands : AtLevel target out start k done rest search)
    (inDepth : InDepth maxDepth k done) (empty : search.queue = []) :
    search.results = edgeSequence target out start maxDepth := by
  have both := stands.queue
  rw [empty] at both
  obtain ⟨noRest, noNew⟩ := List.append_eq_nil_iff.mp both.symm
  have restNil : rest = [] := List.map_eq_nil_iff.mp noRest
  subst restNil
  have later := stands.next
  rcases inDepth with below | ⟨same, nothing⟩
  · have noNodes : (front target out start (k + 1)).nodes = [] := by
      have queued := later.queue
      rw [empty, List.flatMap_nil, newTargets, List.map_nil, List.append_nil] at queued
      exact List.map_eq_nil_iff.mp queued.symm
    rw [edgeSequence_of_empty noNodes (Nat.succ_le_of_lt below), later.results, List.flatMap_nil,
      List.append_nil]
  · rw [stands.results, nothing, same, List.flatMap_nil, List.append_nil]

/-- While the queue is not empty the search stands before a node. -/
theorem AtLevel.before_node (stands : AtLevel target out start k done rest search)
    (inDepth : InDepth maxDepth k done) (queued : search.queue ≠ []) :
    ∃ k' done' x rest', AtLevel target out start k' done' (x :: rest') search ∧
      InDepth maxDepth k' done' := by
  cases rest with
  | cons x rest => exact ⟨k, done, x, rest, stands, inDepth⟩
  | nil =>
      have later := stands.next
      cases nodes : (front target out start (k + 1)).nodes with
      | nil =>
          have noQueue := later.queue
          rw [nodes, List.flatMap_nil, newTargets] at noQueue
          exact absurd noQueue queued
      | cons x rest =>
          rw [nodes] at later
          refine ⟨k + 1, [], x, rest, later, ?_⟩
          rcases inDepth with below | ⟨_, nothing⟩
          · rcases Nat.lt_or_ge (k + 1) maxDepth with less | equal
            · exact Or.inl less
            · exact Or.inr ⟨Nat.le_antisymm (Nat.succ_le_of_lt below) equal, rfl⟩
          · have noNew := stands.queue
            have noNodes : (front target out start k).nodes = [] := by
              rw [stands.split, nothing, List.append_nil]
            rw [nothing, List.flatMap_nil, newTargets] at noNew
            exact absurd noNew queued

/-- The queue finds the levels' edges in their order, up to the limit.  Every node
queued after the start came with an edge of its own, so the fuel lasts. -/
theorem searchLoop_eq (stands : AtLevel target out start k done rest search)
    (inDepth : InDepth maxDepth k done)
    (counted : limit + 1 + search.queue.length ≤ fuel + search.seen.length)
    (few : search.seen.length ≤ search.results.length + 1)
    (bounded : search.results.length ≤ limit) :
    searchLoop target out maxDepth limit fuel search =
      (edgeSequence target out start maxDepth).take limit := by
  induction fuel generalizing k done rest search with
  | zero =>
      have full : search.results.length = limit := by omega
      rw [searchLoop, ← full]
      exact List.prefix_iff_eq_take.mp (stands.prefix_sequence inDepth)
  | succ fuel ih =>
      by_cases full : limit ≤ search.results.length
      · rw [searchLoop_of_full full, ← Nat.le_antisymm bounded full]
        exact List.prefix_iff_eq_take.mp (stands.prefix_sequence inDepth)
      · cases isQueue : search.queue with
        | nil =>
            rw [searchLoop, isQueue]
            have complete := stands.complete inDepth isQueue
            rw [complete] at bounded ⊢
            exact (List.take_of_length_le bounded).symm
        | cons entry queue =>
            obtain ⟨k, done, x, rest, stands, inDepth⟩ :=
              stands.before_node inDepth (by rw [isQueue]; exact List.cons_ne_nil _ _)
            have head := isQueue.symm.trans stands.queue
            rw [List.map_cons, List.cons_append] at head
            have isFirst : entry = (x, k) := (List.cons.inj head).1
            subst isFirst
            rcases inDepth with below | ⟨same, nothing⟩
            · have step := stands.step isQueue
              have fresh : (newTargets target (out x) search.seen).length ≤ (out x).length :=
                newTargets_length_le _ _
              rw [isQueue, List.length_cons] at counted
              rw [searchLoop, isQueue]
              simp only [if_neg full, if_neg (Nat.not_le_of_lt below)]
              by_cases fits : search.results.length + (out x).length ≤ limit
              · have added : searchRow target limit k (out x) { search with queue := queue } =
                    (out x).foldl (Search.add target k) { search with queue := queue } :=
                  searchRow_of_fits fits
                rw [added]
                apply ih step (Or.inl below)
                · rw [foldl_add]
                  simp only [List.length_append, List.length_map]
                  omega
                · rw [foldl_add]
                  simp only [List.length_append, List.length_map]
                  omega
                · rw [foldl_add]
                  simp only [List.length_append, List.length_map]
                  omega
              · -- the limit cuts the edges of this node
                have cut : (searchRow target limit k (out x)
                    { search with queue := queue }).results =
                      (search.results ++ (out x).map (fun e => (e, k + 1))).take limit :=
                  searchRow_results (Nat.lt_of_not_le full)
                have length : (searchRow target limit k (out x)
                    { search with queue := queue }).results.length = limit := by
                  rw [cut, List.length_take, List.length_append, List.length_map]
                  omega
                rw [searchLoop_of_full (Nat.le_of_eq length.symm), cut]
                have whole : search.results ++ (out x).map (fun e => (e, k + 1)) <+:
                    edgeSequence target out start maxDepth := by
                  have ends := step.prefix_sequence
                    (Or.inl below : InDepth maxDepth k (done ++ [x]))
                  rw [foldl_add] at ends
                  exact ends
                obtain ⟨more, joined⟩ := whole
                have enough : limit ≤
                    (search.results ++ (out x).map (fun e => (e, k + 1))).length := by
                  rw [List.length_append, List.length_map]
                  omega
                rw [← joined]
                exact (List.take_append_of_le_length enough).symm
            · -- the nodes of the last level are only taken off the queue
              have complete : search.results = edgeSequence target out start maxDepth := by
                rw [stands.results, nothing, same, List.flatMap_nil, List.append_nil]
              have deep : ∀ entry ∈ search.queue, maxDepth ≤ entry.2 := by
                intro entry member
                rw [stands.queue] at member
                rcases List.mem_append.mp member with here | later
                · obtain ⟨y, _, isEntry⟩ := List.mem_map.mp here
                  rw [← isEntry, same]
                · obtain ⟨y, _, isEntry⟩ := List.mem_map.mp later
                  rw [← isEntry, same]
                  exact Nat.le_succ _
              rw [searchLoop_of_deep deep]
              rw [complete] at bounded ⊢
              exact (List.take_of_length_le bounded).symm

/-- A search of at least `limit + 1` rounds finds the first edges of the sequence. -/
theorem searchLoop_start (maxDepth : Nat) {limit fuel : Nat} (enough : limit + 1 ≤ fuel) :
    searchLoop target out maxDepth limit fuel ⟨[], [start], [(start, 0)]⟩ =
      (edgeSequence target out start maxDepth).take limit := by
  apply searchLoop_eq (AtLevel.initial target out start)
  · rcases Nat.eq_zero_or_pos maxDepth with zero | positive
    · exact Or.inr ⟨zero.symm, rfl⟩
    · exact Or.inl positive
  · simp only [List.length_singleton]
    omega
  · simp only [List.length_singleton, List.length_nil]
    omega
  · exact Nat.zero_le limit

end Run

end Queue

end FolioLattice.Relational
