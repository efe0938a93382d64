/-
Tables as lists of rows in insertion order: keys, lookups, updates and ORDER BY.
A query with a key that tells its rows apart depends on which rows there are and
not on when they were inserted.
-/

import Mathlib.Data.List.Sort
import Mathlib.Data.List.Nodup

namespace FolioLattice.Relational

variable {α κ : Type}

/-! ### Keys -/

/-- No two rows share a key. -/
def KeyedBy (key : α → κ) (rows : List α) : Prop := (rows.map key).Nodup

theorem KeyedBy.nil (key : α → κ) : KeyedBy key [] := List.nodup_nil

theorem KeyedBy.eq {key : α → κ} {rows : List α} (keyed : KeyedBy key rows) {a b : α}
    (aMember : a ∈ rows) (bMember : b ∈ rows) (same : key a = key b) : a = b :=
  List.inj_on_of_nodup_map keyed aMember bMember same

/-- Lists of the rows are told apart by their keys. -/
theorem KeyedBy.eq_of_map_eq {key : α → κ} {rows left right : List α} (keyed : KeyedBy key rows)
    (leftMembers : ∀ row ∈ left, row ∈ rows) (rightMembers : ∀ row ∈ right, row ∈ rows)
    (same : left.map key = right.map key) : left = right := by
  induction left generalizing right with
  | nil =>
      rw [List.map_nil] at same
      exact (List.map_eq_nil_iff.mp same.symm).symm
  | cons a rest ih =>
      cases right with
      | nil => cases same
      | cons b others =>
          obtain ⟨sameKey, sameRest⟩ := List.cons.inj same
          rw [keyed.eq (leftMembers a List.mem_cons_self) (rightMembers b List.mem_cons_self) sameKey,
            ih (fun row member => leftMembers row (List.mem_cons_of_mem _ member))
              (fun row member => rightMembers row (List.mem_cons_of_mem _ member)) sameRest]

theorem KeyedBy.nodup {key : α → κ} {rows : List α} (keyed : KeyedBy key rows) : rows.Nodup :=
  List.Nodup.of_map key keyed

theorem KeyedBy.filter {key : α → κ} {rows : List α} (keyed : KeyedBy key rows) (p : α → Bool) :
    KeyedBy key (rows.filter p) :=
  List.Nodup.sublist (List.Sublist.map key List.filter_sublist) keyed

theorem KeyedBy.append {key : α → κ} {rows : List α} (keyed : KeyedBy key rows) {row : α}
    (fresh : ∀ old ∈ rows, key old ≠ key row) : KeyedBy key (rows ++ [row]) := by
  unfold KeyedBy
  rw [List.map_append, List.nodup_append]
  refine ⟨keyed, List.nodup_singleton _, ?_⟩
  intro a known b new same
  obtain ⟨old, member, isOld⟩ := List.mem_map.mp known
  rw [List.map_cons, List.map_nil, List.mem_singleton] at new
  exact fresh old member (by rw [isOld, same, new])

theorem KeyedBy.appendAll {key : α → κ} {rows more : List α} (keyed : KeyedBy key rows)
    (moreKeyed : KeyedBy key more) (fresh : ∀ old ∈ rows, ∀ new ∈ more, key old ≠ key new) :
    KeyedBy key (rows ++ more) := by
  unfold KeyedBy
  rw [List.map_append, List.nodup_append]
  refine ⟨keyed, moreKeyed, ?_⟩
  intro a known b new same
  obtain ⟨old, oldMember, isOld⟩ := List.mem_map.mp known
  obtain ⟨added, newMember, isNew⟩ := List.mem_map.mp new
  exact fresh old oldMember added newMember (by rw [isOld, isNew, same])

/-- A join that finds at most one partner for a row keeps the row's key. -/
theorem KeyedBy.flatMap {β : Type} {key : α → κ} {key' : β → κ} {rows : List α} {f : α → List β}
    (keyed : KeyedBy key rows) (single : ∀ row ∈ rows, (f row).length ≤ 1)
    (kept : ∀ row ∈ rows, ∀ joined ∈ f row, key' joined = key row) :
    KeyedBy key' (rows.flatMap f) := by
  have inside : ((rows.flatMap f).map key').Sublist (rows.map key) := by
    clear keyed
    induction rows with
    | nil => exact List.Sublist.refl []
    | cons row rest ih =>
        have others := ih (fun other member => single other (List.mem_cons_of_mem _ member))
          (fun other member => kept other (List.mem_cons_of_mem _ member))
        have one := single row List.mem_cons_self
        have same := kept row List.mem_cons_self
        rw [List.flatMap_cons, List.map_append, List.map_cons]
        match joined : f row with
        | [] => exact others.cons (key row)
        | [partner] =>
            rw [joined] at same
            rw [List.map_singleton, same partner List.mem_cons_self]
            exact others.cons_cons (key row)
        | _ :: _ :: _ =>
            rw [joined, List.length_cons, List.length_cons] at one
            omega
  exact keyed.sublist inside

theorem KeyedBy.filterMap {β : Type} {key : α → κ} {key' : β → κ} {rows : List α}
    {f : α → Option β} (keyed : KeyedBy key rows)
    (kept : ∀ row joined, f row = some joined → key' joined = key row) :
    KeyedBy key' (rows.filterMap f) := by
  rw [List.filterMap_eq_flatMap_toList]
  apply keyed.flatMap
  · intro row _
    cases f row <;> simp
  · intro row _ joined member
    exact kept row joined (Option.mem_toList.mp member)

/-! ### Lookups -/

/-- The only row that satisfies a condition is the one a lookup finds. -/
theorem find?_of_unique {p : α → Bool} {rows : List α} {row : α} (member : row ∈ rows)
    (holds : p row = true) (unique : ∀ other ∈ rows, p other = true → other = row) :
    rows.find? p = some row := by
  cases found : rows.find? p with
  | none =>
      have fails := List.find?_eq_none.mp found row member
      exact absurd holds fails
  | some other =>
      have same := unique other (List.mem_of_find?_eq_some found) (List.find?_some found)
      rw [same]

theorem KeyedBy.find? {key : α → κ} {p : α → Bool} {rows : List α} {row : α}
    (keyed : KeyedBy key rows) (member : row ∈ rows) (holds : p row = true)
    (decided : ∀ other, p other = true → key other = key row) :
    rows.find? p = some row :=
  find?_of_unique member holds
    (fun other inside also => keyed.eq inside member (decided other also))

/-- A lookup by key and another condition looks up the key and tests the row. -/
theorem KeyedBy.find?_and {key : α → κ} {p q : α → Bool} {rows : List α}
    (keyed : KeyedBy key rows) (decided : ∀ a b, p a = true → p b = true → key a = key b) :
    rows.find? (fun row => p row && q row) = (rows.find? p).filter q := by
  cases found : rows.find? p with
  | none =>
      apply List.find?_eq_none.mpr
      intro row member both
      rw [Bool.and_eq_true] at both
      exact List.find?_eq_none.mp found row member both.1
  | some row =>
      have member := List.mem_of_find?_eq_some found
      have holds := List.find?_some found
      rw [Option.filter_some]
      split
      · rename_i alsoHolds
        apply keyed.find? member
        · rw [holds, alsoHolds]
          rfl
        · intro other both
          rw [Bool.and_eq_true] at both
          exact decided other row both.1 holds
      · rename_i fails
        apply List.find?_eq_none.mpr
        intro other otherMember both
        rw [Bool.and_eq_true] at both
        have same := keyed.eq otherMember member (decided other row both.1 holds)
        rw [same] at both
        exact fails both.2

/-- A condition that only one row can satisfy keeps one row at most. -/
theorem filter_length_le_one {p : α → Bool} {rows : List α} (nodup : rows.Nodup)
    (unique : ∀ a b, a ∈ rows → b ∈ rows → p a = true → p b = true → a = b) :
    (rows.filter p).length ≤ 1 := by
  have distinct := nodup.filter p
  have inside : ∀ row ∈ rows.filter p, row ∈ rows ∧ p row = true :=
    fun row member => List.mem_filter.mp member
  cases kept : rows.filter p with
  | nil => exact Nat.zero_le 1
  | cons a rest =>
      rw [kept] at distinct inside
      cases rest with
      | nil => exact Nat.le_refl 1
      | cons b rest =>
          have first := inside a List.mem_cons_self
          have second := inside b (List.mem_cons_of_mem _ List.mem_cons_self)
          have same := unique a b first.1 second.1 first.2 second.2
          rw [same] at distinct
          exact absurd List.mem_cons_self (List.nodup_cons.mp distinct).1

/-- Lookups agree when the rows that satisfy their conditions do. -/
theorem find?_congr {p q : α → Bool} {left right : List α}
    (same : ∀ row, (row ∈ left ∧ p row = true) ↔ (row ∈ right ∧ q row = true))
    (unique : ∀ a b, a ∈ left → b ∈ left → p a = true → p b = true → a = b) :
    left.find? p = right.find? q := by
  cases found : left.find? p with
  | none =>
      symm
      apply List.find?_eq_none.mpr
      intro row member holds
      obtain ⟨inLeft, holdsLeft⟩ := (same row).mpr ⟨member, holds⟩
      exact List.find?_eq_none.mp found row inLeft holdsLeft
  | some row =>
      have member := List.mem_of_find?_eq_some found
      have holds := List.find?_some found
      obtain ⟨inRight, holdsRight⟩ := (same row).mp ⟨member, holds⟩
      symm
      apply find?_of_unique inRight holdsRight
      intro other otherMember otherHolds
      obtain ⟨otherLeft, otherLeftHolds⟩ := (same other).mpr ⟨otherMember, otherHolds⟩
      exact unique other row otherLeft member otherLeftHolds holds

/-! ### Updates -/

/-- `UPDATE … SET … WHERE …` -/
def updateWhere (p : α → Bool) (f : α → α) (rows : List α) : List α :=
  rows.map (fun row => if p row then f row else row)

theorem mem_updateWhere {p : α → Bool} {f : α → α} {rows : List α} {row : α} :
    row ∈ updateWhere p f rows ↔
      (∃ old ∈ rows, p old = true ∧ f old = row) ∨ (row ∈ rows ∧ p row = false) := by
  unfold updateWhere
  rw [List.mem_map]
  constructor
  · rintro ⟨old, member, result⟩
    cases holds : p old with
    | true =>
        rw [holds, if_pos rfl] at result
        exact Or.inl ⟨old, member, holds, result⟩
    | false =>
        rw [holds, if_neg Bool.false_ne_true] at result
        subst result
        exact Or.inr ⟨member, holds⟩
  · rintro (⟨old, member, holds, result⟩ | ⟨member, holds⟩)
    · exact ⟨old, member, by rw [holds, if_pos rfl, result]⟩
    · exact ⟨row, member, by rw [holds, if_neg Bool.false_ne_true]⟩

theorem map_updateWhere {key : α → κ} {p : α → Bool} {f : α → α} (kept : ∀ row, key (f row) = key row)
    (rows : List α) : (updateWhere p f rows).map key = rows.map key := by
  unfold updateWhere
  rw [List.map_map]
  apply List.map_congr_left
  intro row _
  simp only [Function.comp_apply]
  split
  · exact kept row
  · rfl

theorem KeyedBy.updateWhere {key : α → κ} {p : α → Bool} {f : α → α} {rows : List α}
    (keyed : KeyedBy key rows) (kept : ∀ row, key (f row) = key row) :
    KeyedBy key (updateWhere p f rows) := by
  unfold KeyedBy
  rw [map_updateWhere kept]
  exact keyed

/-! ### ORDER BY -/

section OrderBy

variable [LinearOrder κ]

def orderBy (key : α → κ) (rows : List α) : List α :=
  rows.insertionSort (fun a b => key a ≤ key b)

theorem orderBy_perm (key : α → κ) (rows : List α) : (orderBy key rows).Perm rows :=
  List.perm_insertionSort _ rows

theorem mem_orderBy {key : α → κ} {rows : List α} {row : α} :
    row ∈ orderBy key rows ↔ row ∈ rows :=
  (orderBy_perm key rows).mem_iff

theorem orderBy_sorted (key : α → κ) (rows : List α) :
    (orderBy key rows).Pairwise (fun a b => key a ≤ key b) := by
  have total : Std.Total (fun a b : α => key a ≤ key b) := ⟨fun a b => le_total (key a) (key b)⟩
  have trans : IsTrans α (fun a b => key a ≤ key b) := ⟨fun _ _ _ => le_trans⟩
  exact List.pairwise_insertionSort _ rows

theorem orderBy_keyedBy {key : α → κ} {rows : List α} (keyed : KeyedBy key rows) :
    KeyedBy key (orderBy key rows) :=
  ((orderBy_perm key rows).map key).nodup_iff.mpr keyed

theorem orderBy_strict {key : α → κ} {rows : List α} (keyed : KeyedBy key rows) :
    (orderBy key rows).Pairwise (fun a b => key a < key b) := by
  have distinct : (orderBy key rows).Pairwise (fun a b => key a ≠ key b) :=
    List.pairwise_map.mp (orderBy_keyedBy keyed)
  exact (orderBy_sorted key rows).imp₂ (fun _ _ le ne => lt_of_le_of_ne le ne) distinct

/-- The order of insertion does not show under a key that tells the rows apart. -/
theorem orderBy_congr {key : α → κ} {left right : List α} (leftKeyed : KeyedBy key left)
    (rightKeyed : KeyedBy key right) (same : ∀ row, row ∈ left ↔ row ∈ right) :
    orderBy key left = orderBy key right := by
  have members : ∀ row, row ∈ orderBy key left ↔ row ∈ orderBy key right := by
    intro row
    rw [mem_orderBy, mem_orderBy]
    exact same row
  have irreflexive : Std.Irrefl (fun a b : α => key a < key b) := ⟨fun a => lt_irrefl (key a)⟩
  have asymmetric : Std.Asymm (fun a b : α => key a < key b) := ⟨fun _ _ => lt_asymm⟩
  exact List.Pairwise.eq_of_mem_iff (orderBy_strict leftKeyed) (orderBy_strict rightKeyed) members

/-- The first row in order is the one with the least key. -/
theorem orderBy_head?_eq_some_iff {key : α → κ} {rows : List α} (keyed : KeyedBy key rows)
    {row : α} :
    (orderBy key rows).head? = some row ↔ row ∈ rows ∧ ∀ other ∈ rows, key row ≤ key other := by
  have sorted := orderBy_sorted key rows
  have members : ∀ other, other ∈ orderBy key rows ↔ other ∈ rows := fun _ => mem_orderBy
  cases ordered : orderBy key rows with
  | nil =>
      rw [ordered] at members
      constructor
      · intro impossible
        cases impossible
      · intro least
        exact absurd ((members row).mpr least.1) List.not_mem_nil
  | cons first rest =>
      rw [ordered] at members sorted
      have least : ∀ other ∈ rows, key first ≤ key other := by
        intro other member
        rcases List.mem_cons.mp ((members other).mpr member) with same | later
        · rw [same]
        · exact (List.pairwise_cons.mp sorted).1 other later
      rw [List.head?_cons, Option.some.injEq]
      constructor
      · intro same
        rw [← same]
        exact ⟨(members first).mp List.mem_cons_self, least⟩
      · rintro ⟨member, alsoLeast⟩
        have inside := (members first).mp List.mem_cons_self
        exact keyed.eq inside member (le_antisymm (least row member) (alsoLeast first inside))

/-- The last row in order is the one with the greatest key. -/
theorem orderBy_getLast?_eq_some_iff {key : α → κ} {rows : List α} (keyed : KeyedBy key rows)
    {row : α} :
    (orderBy key rows).getLast? = some row ↔ row ∈ rows ∧ ∀ other ∈ rows, key other ≤ key row := by
  have sorted := orderBy_sorted key rows
  have members : ∀ other, other ∈ orderBy key rows ↔ other ∈ rows := fun _ => mem_orderBy
  rcases List.eq_nil_or_concat (orderBy key rows) with ordered | ⟨front, last, ordered⟩
  · rw [ordered] at members
    rw [ordered]
    constructor
    · intro impossible
      cases impossible
    · intro greatest
      exact absurd ((members row).mpr greatest.1) List.not_mem_nil
  · rw [List.concat_eq_append] at ordered
    rw [ordered] at members sorted
    have greatest : ∀ other ∈ rows, key other ≤ key last := by
      intro other member
      rcases List.mem_append.mp ((members other).mpr member) with earlier | same
      · exact (List.pairwise_append.mp sorted).2.2 other earlier last (List.mem_singleton_self _)
      · rw [List.mem_singleton.mp same]
    have inside := (members last).mp (List.mem_append_right _ (List.mem_singleton_self _))
    rw [ordered, List.getLast?_concat, Option.some.injEq]
    constructor
    · intro same
      rw [← same]
      exact ⟨inside, greatest⟩
    · rintro ⟨member, alsoGreatest⟩
      exact keyed.eq inside member (le_antisymm (alsoGreatest last inside) (greatest row member))

/-- Rows that stand in order, each before all the rest, stay in front. -/
theorem orderBy_append {key : α → κ} {front rest : List α} (keyed : KeyedBy key (front ++ rest))
    (sorted : front.Pairwise (fun a b => key a < key b))
    (before : ∀ a ∈ front, ∀ b ∈ rest, key a < key b) :
    orderBy key (front ++ rest) = front ++ orderBy key rest := by
  have restKeyed : KeyedBy key rest := by
    unfold KeyedBy at keyed ⊢
    rw [List.map_append, List.nodup_append] at keyed
    exact keyed.2.1
  have strict : (front ++ orderBy key rest).Pairwise (fun a b => key a < key b) := by
    apply List.pairwise_append.mpr
    refine ⟨sorted, orderBy_strict restKeyed, ?_⟩
    intro a aMember b bMember
    exact before a aMember b (mem_orderBy.mp bMember)
  have members : ∀ row, row ∈ orderBy key (front ++ rest) ↔ row ∈ front ++ orderBy key rest := by
    intro row
    rw [mem_orderBy, List.mem_append, List.mem_append, mem_orderBy]
  have irreflexive : Std.Irrefl (fun a b : α => key a < key b) := ⟨fun a => lt_irrefl (key a)⟩
  have asymmetric : Std.Asymm (fun a b : α => key a < key b) := ⟨fun _ _ => lt_asymm⟩
  exact List.Pairwise.eq_of_mem_iff (orderBy_strict keyed) strict members

/-- New rows that sort after the first ones leave these where they are. -/
theorem orderBy_onward {key : α → κ} {rows front left more : List α}
    (keyed : KeyedBy key (rows ++ more)) (ordered : orderBy key rows = front ++ left)
    (after : ∀ a ∈ front, ∀ b ∈ more, key a < key b) :
    orderBy key (rows ++ more) = front ++ orderBy key (left ++ more) := by
  have rowsKeyed : KeyedBy key rows := keyed.sublist (List.Sublist.map key (List.sublist_append_left _ _))
  have same : (front ++ (left ++ more)).Perm (rows ++ more) := by
    rw [← List.append_assoc, ← ordered]
    exact (orderBy_perm key rows).append_right more
  have strict := orderBy_strict rowsKeyed
  rw [ordered] at strict
  have wholeKeyed : KeyedBy key (front ++ (left ++ more)) := (same.map key).nodup_iff.mpr keyed
  obtain ⟨sorted, _, apart⟩ := List.pairwise_append.mp strict
  rw [orderBy_congr keyed wholeKeyed (fun row => same.mem_iff.symm)]
  apply orderBy_append wholeKeyed sorted
  intro a aMember b bMember
  rcases List.mem_append.mp bMember with old | new
  · exact apart a aMember b old
  · exact after a aMember b new

/-- The first rows come first in order exactly when each of them precedes all the
rows that stand after it. -/
theorem orderBy_take_eq_iff {key : α → κ} {rows : List α} (keyed : KeyedBy key rows) (n : Nat) :
    (orderBy key rows).take n = rows.take n ↔
      (rows.take n).Pairwise (fun a b => key a < key b) ∧
        ∀ a ∈ rows.take n, ∀ b ∈ rows.drop n, key a < key b := by
  constructor
  · intro same
    have split : rows.take n ++ (orderBy key rows).drop n = orderBy key rows := by
      rw [← same, List.take_append_drop]
    have strict := orderBy_strict keyed
    have rest : ((orderBy key rows).drop n).Perm (rows.drop n) := by
      apply (List.perm_append_left_iff (rows.take n)).mp
      rw [split, List.take_append_drop]
      exact orderBy_perm key rows
    rw [← split, List.pairwise_append] at strict
    refine ⟨strict.1, ?_⟩
    intro a aMember b bMember
    exact strict.2.2 a aMember b (rest.mem_iff.mpr bMember)
  · rintro ⟨sorted, before⟩
    rw [← List.take_append_drop n rows] at keyed
    have ordered := orderBy_append keyed sorted before
    rw [List.take_append_drop] at ordered
    rw [ordered]
    rcases Nat.le_total n rows.length with enough | few
    · rw [List.take_append_of_le_length (by rw [List.length_take]; omega), List.take_take,
        Nat.min_self]
    · rw [List.drop_of_length_le few]
      have nothing : orderBy key ([] : List α) = [] := rfl
      rw [nothing, List.append_nil, List.take_take, Nat.min_self]

/-- The order depends on the keys of these rows alone. -/
theorem orderBy_key_congr {key key' : α → κ} {rows : List α}
    (same : ∀ row ∈ rows, key row = key' row) : orderBy key rows = orderBy key' rows := by
  have sorted := List.map_insertionSort (fun a b : α => key a ≤ key b)
    (fun a b : α => key' a ≤ key' b) id rows (by
      intro a aMember b bMember
      rw [same a aMember, same b bMember]
      rfl)
  rw [List.map_id, List.map_id] at sorted
  exact sorted

end OrderBy

end FolioLattice.Relational
