/-
The ways that a breadth-first search collects are shortest.
-/

import Mathlib.Data.List.Chain
import FolioLattice.Relational.NodeOrder

namespace FolioLattice.Relational

variable {κ : Type}

/-! ### Ways -/

section Ways

variable (adj : κ → List κ) (start : κ)

/-- A way to `x`, each key of which stands in the level after the one before. -/
structure LeadsAlong (d : Nat) (keys : List κ) (x : κ) : Prop where
  length : keys.length = d + 1
  first : keys.head? = some start
  last : keys.getLast? = some x
  levels : ∀ i y, keys[i]? = some y → Distance id adj start i y
  chain : keys.IsChain (fun a b => b ∈ adj a)

variable {adj start} {d : Nat} {keys : List κ} {x y : κ}

theorem LeadsAlong.root : LeadsAlong adj start 0 [start] start where
  length := rfl
  first := rfl
  last := rfl
  levels := by
    intro i y isAt
    cases i with
    | zero =>
        cases isAt
        exact ⟨.start, fun shorter less => absurd less (Nat.not_lt_zero _)⟩
    | succ i => cases isAt
  chain := .singleton _

theorem LeadsAlong.extend (way : LeadsAlong adj start d keys x) (edge : y ∈ adj x)
    (distance : Distance id adj start (d + 1) y) :
    LeadsAlong adj start (d + 1) (keys ++ [y]) y where
  length := by rw [List.length_append, way.length, List.length_singleton]
  first := by
    rw [List.head?_append, way.first]
    rfl
  last := List.getLast?_concat
  levels := by
    intro i z isAt
    by_cases before : i < keys.length
    · rw [List.getElem?_append_left before] at isAt
      exact way.levels i z isAt
    · have here := (List.getElem?_eq_some_iff.mp isAt).1
      rw [List.length_append, List.length_singleton] at here
      have isLast : i = keys.length := by omega
      rw [isLast, List.getElem?_concat_length] at isAt
      cases isAt
      rw [isLast, way.length]
      exact distance
  chain := by
    rw [List.isChain_append]
    refine ⟨way.chain, .singleton _, ?_⟩
    intro a isLast b isFirst
    rw [way.last] at isLast
    cases isLast
    cases isFirst
    exact edge

theorem LeadsAlong.nodup (way : LeadsAlong adj start d keys x) : keys.Nodup := by
  rw [List.nodup_iff_injective_get]
  intro i j same
  have atI : keys[i.val]? = some (keys.get i) := List.getElem?_eq_getElem i.isLt
  have atJ : keys[j.val]? = some (keys.get j) := List.getElem?_eq_getElem j.isLt
  rw [same] at atI
  exact Fin.ext ((way.levels _ _ atI).unique (way.levels _ _ atJ))

/-- A chain from the start is a walk. -/
theorem walk_of_chain {keys : List κ} (chain : keys.IsChain (fun a b => b ∈ adj a))
    (first : keys.head? = some start) (last : keys.getLast? = some x) :
    Walk id adj start (keys.length - 1) x := by
  induction keys using List.reverseRecOn generalizing x with
  | nil => cases first
  | append_singleton keys y ih =>
      rw [List.getLast?_concat] at last
      cases last
      rw [List.length_append, List.length_singleton, Nat.add_sub_cancel]
      cases keys using List.reverseRecOn with
      | nil =>
          cases first
          exact .start
      | append_singleton keys z =>
          obtain ⟨before, _, edge⟩ := List.isChain_append.mp chain
          have walked : Walk id adj start ((keys ++ [z]).length - 1) z := by
            apply ih before
            · rw [List.head?_append] at first
              cases begun : (keys ++ [z]).head? with
              | none => exact absurd (List.head?_eq_none_iff.mp begun) (by simp)
              | some w =>
                  rw [begun] at first
                  exact first
            · exact List.getLast?_concat
          have step : y ∈ adj z := edge z List.getLast?_concat y rfl
          have length : (keys ++ [z]).length = (keys ++ [z]).length - 1 + 1 := by
            rw [List.length_append, List.length_singleton]
            rfl
          rw [length]
          exact .step walked step

/-- No chain to the same key is shorter. -/
theorem LeadsAlong.shortest (way : LeadsAlong adj start d keys x) {other : List κ}
    (chain : other.IsChain (fun a b => b ∈ adj a)) (first : other.head? = some start)
    (last : other.getLast? = some x) : keys.length ≤ other.length := by
  have walked := walk_of_chain chain first last
  have isAt : keys[d]? = some x := by
    have whole := way.last
    rw [List.getLast?_eq_getElem?, way.length, Nat.add_sub_cancel] at whole
    exact whole
  have nonempty : other ≠ [] := by
    intro empty
    rw [empty] at first
    cases first
  have positive := List.length_pos_of_ne_nil nonempty
  have least : ¬other.length - 1 < d := fun less => (way.levels d x isAt).2 _ less walked
  have length := way.length
  omega

end Ways

/-! ### The search -/

variable {α : Type} [DecidableEq κ]

/-- Two results that find the first nodes of the same levels are one. -/
theorem Finds.eq {adj : κ → List κ} {start : κ} {limit : Nat} {keys keys' : List κ}
    (finds : Finds adj start limit keys) (finds' : Finds adj start limit keys') : keys = keys' := by
  obtain ⟨depth, same⟩ := finds
  obtain ⟨depth', same'⟩ := finds'
  rw [same _ (Nat.le_max_left depth depth'), same' _ (Nat.le_max_right depth depth')]

/-- A search whose nodes collect the keys on their way finds shortest ways. -/
theorem breadthFirst_ways {key : α → κ} {way : α → List κ} {next : α → List α}
    {adj : κ → List κ} {limit : Nat} {root : α}
    (follows : ∀ node, (next node).map key = adj (key node)) (starts : way root = [key root])
    (collects : ∀ node, ∀ other ∈ next node, way other = way node ++ [key other])
    (positive : 0 < limit) :
    Finds adj (key root) limit ((breadthFirst key next limit root).map key) ∧
      ∀ node ∈ breadthFirst key next limit root,
        ∃ d, LeadsAlong adj (key root) d (way node) (key node) := by
  obtain ⟨finds, fits⟩ := breadthFirst_finds
    (Q := fun d node => LeadsAlong adj (key root) d (way node) (key node)) follows
    (fun d node along other member distance => by
      rw [collects node other member]
      refine along.extend ?_ distance
      rw [← follows]
      exact List.mem_map_of_mem member)
    positive (by
      rw [starts]
      exact .root)
  refine ⟨finds, ?_⟩
  intro node member
  obtain ⟨d, _, along⟩ := fits node member
  exact ⟨d, along⟩

end FolioLattice.Relational
