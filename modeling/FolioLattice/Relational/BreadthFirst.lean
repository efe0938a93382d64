/-
Breadth-first search up to a bound on the number of nodes found.

A node carries its key and whatever the search collects on the way to it.  The
search takes the next nodes of the oldest one in the queue, in their given
order, and leaves out those whose key it has found before.
-/

import Mathlib.Data.List.Basic

namespace FolioLattice.Relational

variable {α κ : Type} [DecidableEq κ]

/-- The nodes of one row that are new, up to the bound, after `found`. -/
def visit (key : α → κ) (limit : Nat) : List α → List α → List α × List α
  | [], found => (found, [])
  | node :: rest, found =>
      if key node ∈ found.map key then visit key limit rest found
      else if limit ≤ found.length + 1 then (found ++ [node], [node])
      else
        let (found, added) := visit key limit rest (found ++ [node])
        (found, node :: added)

/-- Each round takes one node off the queue; a node is queued when it is found,
so as many rounds as nodes may be found are enough. -/
def walk (key : α → κ) (next : α → List α) (limit : Nat) : Nat → List α → List α → List α
  | 0, found, _ => found
  | _ + 1, found, [] => found
  | fuel + 1, found, node :: queue =>
      if limit ≤ found.length then found
      else
        let (found, added) := visit key limit (next node) found
        walk key next limit fuel found (queue ++ added)

def breadthFirst (key : α → κ) (next : α → List α) (limit : Nat) (root : α) : List α :=
  walk key next limit limit [root] [root]

/-! ### What is found -/

theorem visit_spec (key : α → κ) (limit : Nat) (row found : List α) :
    (visit key limit row found).1 = found ++ (visit key limit row found).2 ∧
      (∀ node ∈ (visit key limit row found).2, node ∈ row) := by
  induction row generalizing found with
  | nil => exact ⟨(List.append_nil found).symm, fun node member => by cases member⟩
  | cons node rest ih =>
      rw [visit]
      split
      · obtain ⟨joined, inside⟩ := ih found
        exact ⟨joined, fun other member => List.mem_cons_of_mem _ (inside other member)⟩
      · split
        · refine ⟨rfl, ?_⟩
          intro other member
          rw [List.mem_singleton.mp member]
          exact List.mem_cons_self
        · obtain ⟨joined, inside⟩ := ih (found ++ [node])
          refine ⟨?_, ?_⟩
          · simp only [joined, List.append_assoc, List.singleton_append]
          · intro other member
            rcases List.mem_cons.mp member with same | later
            · rw [same]
              exact List.mem_cons_self
            · exact List.mem_cons_of_mem _ (inside other later)

theorem visit_length {key : α → κ} {limit : Nat} {row found : List α}
    (room : found.length < limit) : (visit key limit row found).1.length ≤ limit := by
  induction row generalizing found with
  | nil => exact Nat.le_of_lt room
  | cons node rest ih =>
      rw [visit]
      split
      · exact ih room
      · split
        · rw [List.length_append, List.length_singleton]
          omega
        · apply ih
          rw [List.length_append, List.length_singleton]
          omega

/-- More fuel than there are rounds left changes nothing. -/
theorem walk_of_enough {key : α → κ} {next : α → List α} {limit fuel more : Nat}
    {found queue : List α} (bounded : found.length ≤ limit)
    (enough : limit - found.length + queue.length ≤ fuel) (larger : fuel ≤ more) :
    walk key next limit more found queue = walk key next limit fuel found queue := by
  induction fuel generalizing more found queue with
  | zero =>
      have empty : queue = [] := List.eq_nil_of_length_eq_zero (by omega)
      subst empty
      cases more <;> rfl
  | succ fuel ih =>
      obtain ⟨more, rfl⟩ : ∃ less, more = less + 1 := ⟨more - 1, by omega⟩
      cases queue with
      | nil => rfl
      | cons node queue =>
          simp only [walk]
          split
          · rfl
          · rename_i room
            have joined := (visit_spec key limit (next node) found).1
            have total : (visit key limit (next node) found).1.length ≤ limit :=
              visit_length (Nat.lt_of_not_le room)
            have lengths : (visit key limit (next node) found).1.length =
                found.length + (visit key limit (next node) found).2.length := by
              conv_lhs => rw [joined]
              exact List.length_append
            rw [List.length_cons] at enough
            apply ih total
            · rw [List.length_append]
              omega
            · omega

/-- The search's fuel is enough: it ends because the queue is empty or the bound
is reached. -/
theorem breadthFirst_fuel {key : α → κ} {next : α → List α} {limit fuel : Nat} {root : α}
    (positive : 0 < limit) (enough : limit ≤ fuel) :
    walk key next limit fuel [root] [root] = breadthFirst key next limit root := by
  apply walk_of_enough
  · exact positive
  · simp only [List.length_singleton]
    omega
  · exact enough

/-- `P` holds of every node found when it holds of the root and passes on. -/
theorem walk_forall {key : α → κ} {next : α → List α} {limit : Nat} {P : α → Prop}
    (passes : ∀ node, P node → ∀ other ∈ next node, P other) (fuel : Nat) {found queue : List α}
    (foundHold : ∀ node ∈ found, P node) (queueHold : ∀ node ∈ queue, P node) :
    ∀ node ∈ walk key next limit fuel found queue, P node := by
  induction fuel generalizing found queue with
  | zero => exact foundHold
  | succ fuel ih =>
      cases queue with
      | nil => exact foundHold
      | cons node queue =>
          rw [walk]
          split
          · exact foundHold
          · obtain ⟨joined, inside⟩ := visit_spec key limit (next node) found
            have added : ∀ other ∈ (visit key limit (next node) found).2, P other :=
              fun other member =>
                passes node (queueHold node List.mem_cons_self) other (inside other member)
            apply ih
            · intro other member
              rw [joined] at member
              rcases List.mem_append.mp member with old | new
              · exact foundHold other old
              · exact added other new
            · intro other member
              rcases List.mem_append.mp member with old | new
              · exact queueHold other (List.mem_cons_of_mem _ old)
              · exact added other new

/-- Two searches that go on alike from the nodes they share find the same. -/
theorem walk_congr {key : α → κ} {left right : α → List α} {limit : Nat} {P : α → Prop}
    (same : ∀ node, P node → left node = right node)
    (passes : ∀ node, P node → ∀ other ∈ left node, P other) (fuel : Nat) {found queue : List α}
    (queueHold : ∀ node ∈ queue, P node) :
    walk key left limit fuel found queue = walk key right limit fuel found queue := by
  induction fuel generalizing found queue with
  | zero => rfl
  | succ fuel ih =>
      cases queue with
      | nil => rfl
      | cons node queue =>
          have holds := queueHold node List.mem_cons_self
          rw [walk, walk, ← same node holds]
          split
          · rfl
          · apply ih
            intro other member
            rcases List.mem_append.mp member with old | new
            · exact queueHold other (List.mem_cons_of_mem _ old)
            · exact passes node holds other ((visit_spec key limit (left node) found).2 other new)

theorem breadthFirst_congr {key : α → κ} {left right : α → List α} {limit : Nat} {P : α → Prop}
    (same : ∀ node, P node → left node = right node)
    (passes : ∀ node, P node → ∀ other ∈ left node, P other) {root : α} (rootHolds : P root) :
    breadthFirst key left limit root = breadthFirst key right limit root := by
  apply walk_congr same passes
  intro node member
  rw [List.mem_singleton.mp member]
  exact rootHolds

theorem breadthFirst_forall {key : α → κ} {next : α → List α} {limit : Nat} {P : α → Prop}
    (passes : ∀ node, P node → ∀ other ∈ next node, P other) {root : α} (rootHolds : P root) :
    ∀ node ∈ breadthFirst key next limit root, P node := by
  have rootOnly : ∀ node ∈ [root], P node := by
    intro node member
    rw [List.mem_singleton.mp member]
    exact rootHolds
  exact walk_forall passes limit rootOnly rootOnly

end FolioLattice.Relational
