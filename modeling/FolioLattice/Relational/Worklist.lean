/-
A search with a stack that refuses what it cannot visit, what lies too deep and what
comes after too many nodes.
-/

import Mathlib.Logic.Relation
import Mathlib.Data.List.Basic

namespace FolioLattice.Relational

variable {α : Type}

/-- How many nodes are visited, and how deep. -/
structure ScanBudget where
  maxNodes : Nat
  maxDepth : Nat

/-- The nodes that a node leads to, in the order in which they are pushed; `none` refuses it. -/
abbrev Visit (α : Type) := α → Option (List α)

/-- `while stack`: the top is the head of the list, and `some true` is a refusal. -/
def scanFrom (budget : ScanBudget) (visit : Visit α) :
    (fuel : Nat) → List (α × Nat) → (nodes : Nat) → Option Bool
  | 0, _, _ => none
  | _ + 1, [], _ => some false
  | fuel + 1, (node, depth) :: rest, nodes =>
      if budget.maxNodes < nodes + 1 ∨ budget.maxDepth < depth then some true
      else
        match visit node with
        | none => some true
        | some items =>
            scanFrom budget visit fuel (items.reverse.map (fun item => (item, depth + 1)) ++ rest)
              (nodes + 1)

/-- What is reached from a node in so many levels, with the depths. -/
def reachedIn (visit : Visit α) : Nat → α × Nat → List (α × Nat)
  | 0, node => [node]
  | levels + 1, node => node :: ((visit node.1).getD []).flatMap (fun item =>
      reachedIn visit levels (item, node.2 + 1))

/-- What is reached from a node, to one level below the deepest that is visited. -/
def ScanBudget.reached (budget : ScanBudget) (visit : Visit α) (node : α × Nat) :
    List (α × Nat) :=
  reachedIn visit (budget.maxDepth + 1 - node.2) node

/-- A search that starts from these nodes is refused. -/
def ScanBudget.Refuses (budget : ScanBudget) (visit : Visit α) (nodes : Nat)
    (reached : List (α × Nat)) : Prop :=
  budget.maxNodes < nodes + reached.length ∨
    ∃ node ∈ reached, budget.maxDepth < node.2 ∨ visit node.1 = none

instance ScanBudget.decidableRefuses (budget : ScanBudget) (visit : Visit α) (nodes : Nat)
    (reached : List (α × Nat)) : Decidable (budget.Refuses visit nodes reached) :=
  inferInstanceAs (Decidable (_ ∨ ∃ node ∈ reached, _ ∨ visit node.1 = none))

variable {budget : ScanBudget} {visit : Visit α}

theorem reached_some {node : α} {depth : Nat} {items : List α} (shallow : depth ≤ budget.maxDepth)
    (visited : visit node = some items) :
    budget.reached visit (node, depth) = (node, depth) :: items.flatMap (fun item =>
      budget.reached visit (item, depth + 1)) := by
  have levels : budget.maxDepth + 1 - depth = budget.maxDepth + 1 - (depth + 1) + 1 := by omega
  unfold ScanBudget.reached
  simp only [levels, reachedIn, visited, Option.getD_some]

theorem mem_reached_self (node : α × Nat) : node ∈ budget.reached visit node := by
  unfold ScanBudget.reached
  cases budget.maxDepth + 1 - node.2 with
  | zero => exact List.mem_singleton.mpr rfl
  | succ levels => exact List.mem_cons_self

/-- What is on the stack after a visit is reached by as many nodes, less the visited one. -/
theorem reached_pushed {node : α} {depth : Nat} {items : List α}
    (shallow : depth ≤ budget.maxDepth) (visited : visit node = some items)
    (rest : List (α × Nat)) :
    ((node, depth) :: (items.reverse.map (fun item => (item, depth + 1)) ++ rest).flatMap
      (budget.reached visit)).Perm (((node, depth) :: rest).flatMap (budget.reached visit)) := by
  rw [List.flatMap_cons, reached_some shallow visited, List.flatMap_append, List.cons_append]
  refine List.Perm.cons _ (List.Perm.append_right _ ?_)
  rw [List.flatMap_map]
  exact (List.reverse_perm items).flatMap_right _

/-- The search ends, and is refused as the nodes that it reaches say. -/
theorem scanFrom_eq {fuel nodes : Nat} (within : nodes ≤ budget.maxNodes)
    (enough : budget.maxNodes < fuel + nodes) (stack : List (α × Nat)) :
    scanFrom budget visit fuel stack nodes =
      some (decide (budget.Refuses visit nodes (stack.flatMap (budget.reached visit)))) := by
  induction fuel generalizing stack nodes with
  | zero => omega
  | succ fuel ih =>
      cases stack with
      | nil =>
          have accepted : ¬budget.Refuses visit nodes [] := by
            rintro (many | ⟨_, member, _⟩)
            · rw [List.length_nil] at many
              omega
            · cases member
          rw [scanFrom, List.flatMap_nil, decide_eq_false accepted]
      | cons top rest =>
          obtain ⟨node, depth⟩ := top
          have inside : (node, depth) ∈
              ((node, depth) :: rest).flatMap (budget.reached visit) := by
            rw [List.flatMap_cons]
            exact List.mem_append_left _ (mem_reached_self _)
          rw [scanFrom]
          by_cases spent : budget.maxNodes < nodes + 1 ∨ budget.maxDepth < depth
          · rw [if_pos spent, decide_eq_true]
            rcases spent with many | deep
            · have some' := List.length_pos_of_mem inside
              exact Or.inl (by omega)
            · exact Or.inr ⟨_, inside, Or.inl deep⟩
          · rw [if_neg spent]
            cases visited : visit node with
            | none =>
                have refused : budget.Refuses visit nodes
                    (((node, depth) :: rest).flatMap (budget.reached visit)) :=
                  Or.inr ⟨_, inside, Or.inr visited⟩
                rw [decide_eq_true refused]
            | some items =>
                have shallow : depth ≤ budget.maxDepth := by omega
                have same := reached_pushed shallow visited rest
                simp only
                rw [ih (by omega) (by omega)]
                congr 1
                rw [decide_eq_decide]
                unfold ScanBudget.Refuses
                rw [← same.length_eq, List.length_cons, Nat.add_assoc, Nat.add_comm 1]
                refine or_congr Iff.rfl ?_
                constructor
                · rintro ⟨other, member, bad⟩
                  exact ⟨other, same.mem_iff.mp (List.mem_cons_of_mem _ member), bad⟩
                · rintro ⟨other, member, bad⟩
                  rcases List.mem_cons.mp (same.mem_iff.mpr member) with here | later
                  · rw [here, visited] at bad
                    rcases bad with deep | none'
                    · exact absurd (Or.inr deep) spent
                    · cases none'
                  · exact ⟨other, later, bad⟩

/-- One node leads to another. -/
def LeadsTo (visit : Visit α) (node item : α) : Prop := ∃ items, visit node = some items ∧ item ∈ items

/-- A search that is not refused has visited everything that its start leads to. -/
theorem visited_of_accepted {start : α} {depth : Nat}
    (accepted : ∀ node ∈ budget.reached visit (start, depth),
      node.2 ≤ budget.maxDepth ∧ visit node.1 ≠ none)
    {node : α} (leads : Relation.ReflTransGen (LeadsTo visit) start node) : visit node ≠ none := by
  induction leads using Relation.ReflTransGen.head_induction_on generalizing depth with
  | refl => exact (accepted _ (mem_reached_self _)).2
  | @head _ next step _ ih =>
      obtain ⟨items, visited, member⟩ := step
      have shallow := (accepted _ (mem_reached_self _)).1
      have below : ∀ other ∈ budget.reached visit (next, depth + 1),
          other.2 ≤ budget.maxDepth ∧ visit other.1 ≠ none := by
        intro other inside
        apply accepted
        rw [reached_some shallow visited]
        exact List.mem_cons_of_mem _ (List.mem_flatMap.mpr ⟨_, member, inside⟩)
      exact ih below

end FolioLattice.Relational
