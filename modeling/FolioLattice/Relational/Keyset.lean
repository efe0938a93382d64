/-
Reading a table page by page, each page from the last key of the one before.

The table may change between two pages.  What is read is strictly in order however
it changes, and a key that stays in the table is read.
-/

import FolioLattice.Relational.Rows

namespace FolioLattice.Relational

variable {κ : Type} [LinearOrder κ]

/-- The keys after a position, in order. -/
def keysAfter (cursor : Option κ) (keys : List κ) : List κ :=
  orderBy id (keys.filter (fun k => cursor.all (· < k)))

def keyPage (limit : Nat) (cursor : Option κ) (keys : List κ) : List κ :=
  (keysAfter cursor keys).take limit

/-- Pages of tables, each beside the table it was read from; the last one is empty. -/
inductive KeyPages : Option κ → List (List κ × List κ) → Prop where
  | last {limit : Nat} {cursor : Option κ} {keys : List κ} (distinct : keys.Nodup)
      (positive : 0 < limit) (empty : keyPage limit cursor keys = []) :
      KeyPages cursor [(keys, [])]
  | more {limit : Nat} {cursor : Option κ} {keys : List κ} {k : κ} {pages : List (List κ × List κ)}
      (distinct : keys.Nodup) (isLast : (keyPage limit cursor keys).getLast? = some k)
      (rest : KeyPages (some k) pages) :
      KeyPages cursor ((keys, keyPage limit cursor keys) :: pages)

variable {limit : Nat} {cursor : Option κ} {keys : List κ}

theorem mem_keysAfter {k : κ} :
    k ∈ keysAfter cursor keys ↔ k ∈ keys ∧ ∀ c, cursor = some c → c < k := by
  unfold keysAfter
  rw [mem_orderBy, List.mem_filter]
  cases cursor with
  | none => simp
  | some c => simp

theorem keysAfter_strict (distinct : keys.Nodup) : (keysAfter cursor keys).Pairwise (· < ·) := by
  have keyed : KeyedBy id (keys.filter (fun k => cursor.all (· < k))) := by
    unfold KeyedBy
    rw [List.map_id]
    exact distinct.filter _
  exact orderBy_strict keyed

/-- Lists in strict order with the same members are one list. -/
theorem strict_ext {left right : List κ} (leftSorted : left.Pairwise (· < ·))
    (rightSorted : right.Pairwise (· < ·)) (same : ∀ k, k ∈ left ↔ k ∈ right) : left = right := by
  have irreflexive : Std.Irrefl (fun a b : κ => a < b) := ⟨lt_irrefl⟩
  have asymmetric : Std.Asymm (fun a b : κ => a < b) := ⟨fun _ _ => lt_asymm⟩
  exact List.Pairwise.eq_of_mem_iff leftSorted rightSorted same

/-- Only one list in order has these members. -/
theorem keysAfter_unique (distinct : keys.Nodup) {ordered : List κ}
    (sorted : ordered.Pairwise (· < ·)) (same : ∀ k, k ∈ ordered ↔ k ∈ keysAfter cursor keys) :
    ordered = keysAfter cursor keys :=
  strict_ext sorted (keysAfter_strict distinct) same

theorem keysAfter_of_empty_page (positive : 0 < limit) (empty : keyPage limit cursor keys = []) :
    keysAfter cursor keys = [] := by
  unfold keyPage at empty
  rcases List.take_eq_nil_iff.mp empty with zero | nothing
  · exact absurd zero (Nat.ne_of_gt positive)
  · exact nothing

/-- A page holds the keys up to its last one. -/
theorem mem_keyPage_iff (distinct : keys.Nodup) {last : κ}
    (isLast : (keyPage limit cursor keys).getLast? = some last) {k : κ} :
    k ∈ keyPage limit cursor keys ↔ k ∈ keysAfter cursor keys ∧ k ≤ last := by
  have split : keyPage limit cursor keys ++ (keysAfter cursor keys).drop limit =
      keysAfter cursor keys := List.take_append_drop _ _
  have strict : (keysAfter cursor keys).Pairwise (· < ·) := keysAfter_strict distinct
  rw [← split] at strict
  obtain ⟨page, _, apart⟩ := List.pairwise_append.mp strict
  have within : last ∈ keyPage limit cursor keys := List.mem_of_getLast? isLast
  constructor
  · intro member
    refine ⟨List.mem_of_mem_take member, ?_⟩
    obtain ⟨front, whole⟩ := List.getLast?_eq_some_iff.mp isLast
    rw [whole] at page member
    rcases List.mem_append.mp member with earlier | same
    · exact le_of_lt ((List.pairwise_append.mp page).2.2 k earlier last (List.mem_singleton_self _))
    · exact le_of_eq (List.mem_singleton.mp same)
  · rintro ⟨member, bounded⟩
    rw [← split] at member
    rcases List.mem_append.mp member with inPage | later
    · exact inPage
    · exact absurd (apart last within k later) (not_lt_of_ge bounded)

/-- What follows the last key of a page is what the page left out. -/
theorem keysAfter_last (distinct : keys.Nodup) {last : κ}
    (isLast : (keyPage limit cursor keys).getLast? = some last) :
    keysAfter (some last) keys = (keysAfter cursor keys).drop limit := by
  have split : keyPage limit cursor keys ++ (keysAfter cursor keys).drop limit =
      keysAfter cursor keys := List.take_append_drop _ _
  have strict : (keysAfter cursor keys).Pairwise (· < ·) := keysAfter_strict distinct
  have within : last ∈ keyPage limit cursor keys := List.mem_of_getLast? isLast
  symm
  apply keysAfter_unique distinct
  · exact strict.sublist (List.drop_sublist _ _)
  · intro k
    rw [← split] at strict
    have apart := (List.pairwise_append.mp strict).2.2
    rw [mem_keysAfter]
    constructor
    · intro later
      refine ⟨(mem_keysAfter.mp (List.mem_of_mem_drop later)).1, ?_⟩
      intro c isCursor
      rw [← Option.some.inj isCursor]
      exact apart last within k later
    · rintro ⟨inside, after⟩
      have less := after last rfl
      have member : k ∈ keysAfter cursor keys := by
        refine mem_keysAfter.mpr ⟨inside, ?_⟩
        intro c isCursor
        exact lt_trans ((mem_keysAfter.mp (List.mem_of_mem_take within)).2 c isCursor) less
      rw [← split] at member
      rcases List.mem_append.mp member with inPage | later
      · exact absurd ((mem_keyPage_iff distinct isLast).mp inPage).2 (not_le_of_gt less)
      · exact later

theorem keysAfter_append_length (cursor : Option κ) (keys more : List κ) :
    (keysAfter cursor (keys ++ more)).length =
      (keysAfter cursor keys).length + (keysAfter cursor more).length := by
  unfold keysAfter
  rw [(orderBy_perm _ _).length_eq, (orderBy_perm _ _).length_eq, (orderBy_perm _ _).length_eq,
    List.filter_append, List.length_append]

/-- Fewer keys are left after a page that has a last key. -/
theorem keysAfter_length_lt (distinct : keys.Nodup) {last : κ}
    (isLast : (keyPage limit cursor keys).getLast? = some last) :
    (keysAfter (some last) keys).length < (keysAfter cursor keys).length := by
  have some : keyPage limit cursor keys ≠ [] := by
    intro empty
    rw [empty] at isLast
    cases isLast
  have positive := List.length_pos_of_ne_nil some
  unfold keyPage at positive
  rw [List.length_take] at positive
  rw [keysAfter_last distinct isLast, List.length_drop]
  omega

/-- What the pages hold comes in order, each key once, whatever happened between them. -/
theorem KeyPages.sorted {pages : List (List κ × List κ)} (read : KeyPages cursor pages) :
    (pages.flatMap (·.2)).Pairwise (· < ·) ∧
      ∀ k ∈ pages.flatMap (·.2), ∀ c, cursor = some c → c < k := by
  induction read with
  | last => exact ⟨.nil, fun k member => absurd member List.not_mem_nil⟩
  | @more limit cursor keys last pages distinct isLast rest ih =>
      obtain ⟨sorted, later⟩ := ih
      have within : last ∈ keysAfter cursor keys :=
        List.mem_of_mem_take (List.mem_of_getLast? isLast)
      rw [List.flatMap_cons]
      constructor
      · apply List.pairwise_append.mpr
        refine ⟨(keysAfter_strict distinct).sublist (List.take_sublist _ _), sorted, ?_⟩
        intro a aMember b bMember
        exact lt_of_le_of_lt ((mem_keyPage_iff distinct isLast).mp aMember).2
          (later b bMember last rfl)
      · intro k member c isCursor
        rcases List.mem_append.mp member with here | there
        · exact (mem_keysAfter.mp (List.mem_of_mem_take here)).2 c isCursor
        · exact lt_trans ((mem_keysAfter.mp within).2 c isCursor) (later k there last rfl)

theorem KeyPages.sound {pages : List (List κ × List κ)} (read : KeyPages cursor pages) :
    ∀ page ∈ pages, ∀ k ∈ page.2, k ∈ page.1 := by
  induction read with
  | last =>
      intro page member k inside
      rw [List.mem_singleton.mp member] at inside
      cases inside
  | more _ _ _ ih =>
      intro page member k inside
      rcases List.mem_cons.mp member with first | later
      · rw [first] at inside ⊢
        exact (mem_keysAfter.mp (List.mem_of_mem_take inside)).1
      · exact ih page later k inside

/-- A key that every table has is read. -/
theorem KeyPages.complete {pages : List (List κ × List κ)} (read : KeyPages cursor pages) {k : κ}
    (after : ∀ c, cursor = some c → c < k) (stays : ∀ page ∈ pages, k ∈ page.1) :
    k ∈ pages.flatMap (·.2) := by
  induction read with
  | @last limit cursor keys distinct positive empty =>
      have left := mem_keysAfter.mpr ⟨stays _ (List.mem_singleton_self _), after⟩
      rw [keysAfter_of_empty_page positive empty] at left
      cases left
  | @more limit cursor keys last pages distinct isLast rest ih =>
      rw [List.flatMap_cons, List.mem_append]
      rcases le_or_gt k last with before | later
      · left
        exact (mem_keyPage_iff distinct isLast).mpr
          ⟨mem_keysAfter.mpr ⟨stays _ List.mem_cons_self, after⟩, before⟩
      · right
        apply ih
        · intro c isCursor
          rw [← Option.some.inj isCursor]
          exact later
        · intro page member
          exact stays page (List.mem_cons_of_mem _ member)

omit [LinearOrder κ] in
/-- Items of one value with one key between them, under distinct keys, are one item. -/
theorem count_eq_one_of_key {α β : Type} [DecidableEq β] {items : List α} {f : α → β}
    {key : α → κ} {x : β} {k : κ} (distinct : items.Pairwise (fun a b => key a ≠ key b))
    (isKey : ∀ item ∈ items, f item = x → key item = k)
    (present : ∃ item ∈ items, f item = x) : (items.map f).count x = 1 := by
  induction items with
  | nil =>
      obtain ⟨item, member, _⟩ := present
      cases member
  | cons a rest ih =>
      obtain ⟨first, later⟩ := List.pairwise_cons.mp distinct
      rw [List.map_cons]
      by_cases same : f a = x
      · have none : (rest.map f).count x = 0 := by
          apply List.count_eq_zero.mpr
          intro found
          obtain ⟨b, member, isX⟩ := List.mem_map.mp found
          have aKey := isKey a List.mem_cons_self same
          have bKey := isKey b (List.mem_cons_of_mem _ member) isX
          exact first b member (aKey.trans bKey.symm)
        rw [same, List.count_cons_self, none]
      · rw [List.count_cons_of_ne same]
        apply ih later
        · intro item member
          exact isKey item (List.mem_cons_of_mem _ member)
        · obtain ⟨item, member, isX⟩ := present
          rcases List.mem_cons.mp member with isFirst | inRest
          · rw [isFirst] at isX
            exact absurd isX same
          · exact ⟨item, inRest, isX⟩

omit [LinearOrder κ] in
/-- Lists with the same keys are related item by item when items of one key are. -/
theorem forall₂_of_keys {α β : Type} {R : α → β → Prop} {f : α → κ} {g : β → κ} {as : List α}
    {bs : List β} (same : as.map f = bs.map g)
    (related : ∀ a ∈ as, ∀ b ∈ bs, f a = g b → R a b) : List.Forall₂ R as bs := by
  induction as generalizing bs with
  | nil =>
      rw [List.map_nil, eq_comm, List.map_eq_nil_iff] at same
      rw [same]
      exact .nil
  | cons a as ih =>
      obtain ⟨b, bs', isBs, first, rest⟩ := List.map_eq_cons_iff.mp same.symm
      subst isBs
      refine .cons (related a List.mem_cons_self b List.mem_cons_self first.symm) ?_
      apply ih rest.symm
      intro x xMember y yMember
      exact related x (List.mem_cons_of_mem _ xMember) y (List.mem_cons_of_mem _ yMember)

end FolioLattice.Relational
