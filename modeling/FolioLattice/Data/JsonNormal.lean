/-
Values a reader can produce: keys distinct, surrogate pairs joined.  On them the
printed text determines the value up to the order of keys.
-/

import FolioLattice.Data.JsonRoundTrip
import FolioLattice.Effects.Fallible
import Mathlib.Algebra.Order.BigOperators.Group.List
import Mathlib.Algebra.Order.Ring.Nat

namespace FolioLattice.Data

open FolioLattice.Effects (except_map_ok)

/-! ### Induction on a value -/

-- The nested lists are walked by the companion recursions.
mutual
theorem Json.structural {F : Type} {motive : Json F → Prop}
    (leaf : ∀ value, (∀ items, value ≠ .arr items) → (∀ entries, value ≠ .obj entries) →
      motive value)
    (arr : ∀ items, (∀ item ∈ items, motive item) → motive (.arr items))
    (obj : ∀ entries, (∀ entry ∈ entries, motive entry.2) → motive (.obj entries))
    (value : Json F) : motive value := by
  cases value with
  | arr items => exact arr items (structural_items leaf arr obj items)
  | obj entries => exact obj entries (structural_entries leaf arr obj entries)
  | null => exact leaf _ nofun nofun
  | bool b => exact leaf _ nofun nofun
  | int n => exact leaf _ nofun nofun
  | float x => exact leaf _ nofun nofun
  | str text => exact leaf _ nofun nofun

theorem structural_items {F : Type} {motive : Json F → Prop}
    (leaf : ∀ value, (∀ items, value ≠ .arr items) → (∀ entries, value ≠ .obj entries) →
      motive value)
    (arr : ∀ items, (∀ item ∈ items, motive item) → motive (.arr items))
    (obj : ∀ entries, (∀ entry ∈ entries, motive entry.2) → motive (.obj entries))
    (items : List (Json F)) : ∀ item ∈ items, motive item := by
  cases items with
  | nil => intro item member; cases member
  | cons first rest =>
      intro item member
      rcases List.mem_cons.mp member with same | later
      · rw [same]
        exact Json.structural leaf arr obj first
      · exact structural_items leaf arr obj rest item later

theorem structural_entries {F : Type} {motive : Json F → Prop}
    (leaf : ∀ value, (∀ items, value ≠ .arr items) → (∀ entries, value ≠ .obj entries) →
      motive value)
    (arr : ∀ items, (∀ item ∈ items, motive item) → motive (.arr items))
    (obj : ∀ entries, (∀ entry ∈ entries, motive entry.2) → motive (.obj entries))
    (entries : List (PyStr × Json F)) : ∀ entry ∈ entries, motive entry.2 := by
  cases entries with
  | nil => intro entry member; cases member
  | cons first rest =>
      obtain ⟨key, value⟩ := first
      intro entry member
      rcases List.mem_cons.mp member with same | later
      · rw [same]
        exact Json.structural leaf arr obj value
      · exact structural_entries leaf arr obj rest entry later
end

/-! ### The companion recursions as maps -/

theorem sortItems_eq {F : Type} (items : List (Json F)) :
    sortItems items = items.map Json.sortKeys := by
  induction items with
  | nil => rfl
  | cons item rest ih => rw [sortItems, ih, List.map_cons]

theorem sortEntries_eq {F : Type} (entries : List (PyStr × Json F)) :
    sortEntries entries = entries.map (fun e => (e.1, e.2.sortKeys)) := by
  induction entries with
  | nil => rfl
  | cons entry rest ih => rw [sortEntries, ih, List.map_cons]

theorem rereadItems_eq {F : Type} (items : List (Json F)) :
    rereadItems items = items.map Json.reread := by
  induction items with
  | nil => rfl
  | cons item rest ih => rw [rereadItems, ih, List.map_cons]

theorem rereadEntries_eq {F : Type} (entries : List (PyStr × Json F)) :
    rereadEntries entries = entries.map (fun e => (joinPairs e.1, e.2.reread)) := by
  induction entries with
  | nil => rfl
  | cons entry rest ih => rw [rereadEntries, ih, List.map_cons]

theorem encodableItems_iff {F : Type} (allowNan : Bool) (items : List (Json F)) :
    encodableItems allowNan items = true ↔ ∀ item ∈ items, item.encodable allowNan = true := by
  induction items with
  | nil => simp [encodableItems]
  | cons item rest ih => simp [encodableItems, ih]

theorem encodableEntries_iff {F : Type} (allowNan : Bool) (entries : List (PyStr × Json F)) :
    encodableEntries allowNan entries = true ↔
      ∀ entry ∈ entries, entry.2.encodable allowNan = true := by
  induction entries with
  | nil => simp [encodableEntries]
  | cons entry rest ih =>
      obtain ⟨key, value⟩ := entry
      simp [encodableEntries, ih]

/-! ### Sorting keys -/

theorem sortByKey_perm {V : Type} (entries : List (PyStr × V)) :
    (sortByKey entries).Perm entries :=
  List.perm_insertionSort _ entries

theorem sortByKey_mem {V : Type} {entry : PyStr × V} {entries : List (PyStr × V)} :
    entry ∈ sortByKey entries ↔ entry ∈ entries :=
  (sortByKey_perm entries).mem_iff

theorem sortByKey_sorted {V : Type} (entries : List (PyStr × V)) :
    (sortByKey entries).Pairwise (fun a b => a.1 ≤ b.1) := by
  have total : Std.Total (fun a b : PyStr × V => a.1 ≤ b.1) := ⟨fun a b => le_total a.1 b.1⟩
  have trans : IsTrans (PyStr × V) (fun a b => a.1 ≤ b.1) := ⟨fun _ _ _ => le_trans⟩
  exact List.pairwise_insertionSort _ entries

theorem sortByKey_of_sorted {V : Type} {entries : List (PyStr × V)}
    (sorted : entries.Pairwise (fun a b => a.1 ≤ b.1)) : sortByKey entries = entries :=
  sorted.insertionSort_eq

theorem sortByKey_map {V W : Type} (f : V → W) (entries : List (PyStr × V)) :
    sortByKey (entries.map (fun e => (e.1, f e.2))) =
      (sortByKey entries).map (fun e => (e.1, f e.2)) :=
  (List.map_insertionSort (fun a b : PyStr × V => a.1 ≤ b.1) (fun a b : PyStr × W => a.1 ≤ b.1)
    (fun e => (e.1, f e.2)) entries (fun _ _ _ _ => Iff.rfl)).symm

theorem sortByKey_sortByKey {V : Type} (entries : List (PyStr × V)) :
    sortByKey (sortByKey entries) = sortByKey entries :=
  sortByKey_of_sorted (sortByKey_sorted entries)

theorem Json.sortKeys_sortKeys {F : Type} (value : Json F) :
    value.sortKeys.sortKeys = value.sortKeys := by
  induction value using Json.structural with
  | leaf value notArr notObj =>
    cases value <;> first
      | rfl
      | exact absurd rfl (notArr _)
      | exact absurd rfl (notObj _)
  | arr items ih =>
    simp only [Json.sortKeys, sortItems_eq, List.map_map, Json.arr.injEq]
    exact List.map_congr_left ih
  | obj entries ih =>
    simp only [Json.sortKeys, sortEntries_eq, Json.obj.injEq]
    rw [sortByKey_map, sortByKey_map, sortByKey_map, sortByKey_sortByKey, List.map_map]
    apply List.map_congr_left
    intro entry member
    exact Prod.ext rfl (ih entry (sortByKey_mem.mp member))

theorem Json.encodable_sortKeys {F : Type} (allowNan : Bool) (value : Json F) :
    value.sortKeys.encodable allowNan = value.encodable allowNan := by
  induction value using Json.structural with
  | leaf value notArr notObj =>
    cases value <;> first
      | rfl
      | exact absurd rfl (notArr _)
      | exact absurd rfl (notObj _)
  | arr items ih =>
    rw [Bool.eq_iff_iff]
    simp only [Json.sortKeys, Json.encodable, sortItems_eq, encodableItems_iff, List.mem_map,
      forall_exists_index, and_imp, forall_apply_eq_imp_iff₂]
    exact forall₂_congr fun item member => by rw [ih item member]
  | obj entries ih =>
    rw [Bool.eq_iff_iff]
    simp only [Json.sortKeys, Json.encodable, sortEntries_eq, encodableEntries_iff, sortByKey_mem,
      List.mem_map, forall_exists_index, and_imp, forall_apply_eq_imp_iff₂]
    exact forall₂_congr fun entry member => by rw [ih entry member]

/-! ### Well-keyed and joined values -/

mutual
/-- In every object the keys are distinct and hold no unjoined pair. -/
def Json.WellKeyed {F : Type} : Json F → Prop
  | .arr items => WellKeyedItems items
  | .obj entries =>
      (entries.map (·.1)).Nodup ∧ (∀ key ∈ entries.map (·.1), joinPairs key = key) ∧
        WellKeyedEntries entries
  | _ => True

def WellKeyedItems {F : Type} : List (Json F) → Prop
  | [] => True
  | item :: rest => item.WellKeyed ∧ WellKeyedItems rest

def WellKeyedEntries {F : Type} : List (PyStr × Json F) → Prop
  | [] => True
  | (_, value) :: rest => value.WellKeyed ∧ WellKeyedEntries rest
end

mutual
/-- No string of the value holds an unjoined pair. -/
def Json.Joined {F : Type} : Json F → Prop
  | .str text => joinPairs text = text
  | .arr items => JoinedItems items
  | .obj entries => JoinedEntries entries
  | _ => True

def JoinedItems {F : Type} : List (Json F) → Prop
  | [] => True
  | item :: rest => item.Joined ∧ JoinedItems rest

def JoinedEntries {F : Type} : List (PyStr × Json F) → Prop
  | [] => True
  | (_, value) :: rest => value.Joined ∧ JoinedEntries rest
end

theorem wellKeyedItems_iff {F : Type} (items : List (Json F)) :
    WellKeyedItems items ↔ ∀ item ∈ items, item.WellKeyed := by
  induction items with
  | nil => simp [WellKeyedItems]
  | cons item rest ih => simp [WellKeyedItems, ih]

theorem wellKeyedEntries_iff {F : Type} (entries : List (PyStr × Json F)) :
    WellKeyedEntries entries ↔ ∀ entry ∈ entries, entry.2.WellKeyed := by
  induction entries with
  | nil => simp [WellKeyedEntries]
  | cons entry rest ih =>
      obtain ⟨key, value⟩ := entry
      simp [WellKeyedEntries, ih]

theorem joinedItems_iff {F : Type} (items : List (Json F)) :
    JoinedItems items ↔ ∀ item ∈ items, item.Joined := by
  induction items with
  | nil => simp [JoinedItems]
  | cons item rest ih => simp [JoinedItems, ih]

theorem joinedEntries_iff {F : Type} (entries : List (PyStr × Json F)) :
    JoinedEntries entries ↔ ∀ entry ∈ entries, entry.2.Joined := by
  induction entries with
  | nil => simp [JoinedEntries]
  | cons entry rest ih =>
      obtain ⟨key, value⟩ := entry
      simp [JoinedEntries, ih]

/-! ### Objects as dictionaries -/

theorem setEntry_new {V : Type} {key : PyStr} {value : V} {entries : List (PyStr × V)}
    (fresh : key ∉ entries.map (·.1)) : setEntry key value entries = entries ++ [(key, value)] := by
  induction entries with
  | nil => rfl
  | cons entry rest ih =>
      obtain ⟨known, old⟩ := entry
      rw [List.map_cons, List.mem_cons, not_or] at fresh
      rw [setEntry, if_neg (Ne.symm fresh.1), ih fresh.2, List.cons_append]

theorem foldl_setEntry_of_nodup {V : Type} (pairs entries : List (PyStr × V))
    (distinct : ((entries ++ pairs).map (·.1)).Nodup) :
    pairs.foldl (fun entries pair => setEntry pair.1 pair.2 entries) entries =
      entries ++ pairs := by
  induction pairs generalizing entries with
  | nil => rw [List.foldl_nil, List.append_nil]
  | cons pair rest ih =>
      have fresh : pair.1 ∉ entries.map (·.1) := by
        rw [List.map_append, List.nodup_append] at distinct
        intro member
        exact distinct.2.2 pair.1 member pair.1 (List.mem_cons_self) rfl
      rw [List.foldl_cons, setEntry_new fresh]
      have regroup : entries ++ [(pair.1, pair.2)] ++ rest = entries ++ pair :: rest := by
        rw [List.append_assoc]
        rfl
      rw [ih, regroup]
      rw [regroup]
      exact distinct

theorem dictOf_of_nodup {V : Type} {pairs : List (PyStr × V)}
    (distinct : (pairs.map (·.1)).Nodup) : dictOf pairs = pairs :=
  foldl_setEntry_of_nodup pairs [] distinct

theorem setEntry_keys {V : Type} (key : PyStr) (value : V) (entries : List (PyStr × V)) :
    (setEntry key value entries).map (·.1) =
      if key ∈ entries.map (·.1) then entries.map (·.1) else entries.map (·.1) ++ [key] := by
  induction entries with
  | nil => rfl
  | cons entry rest ih =>
      obtain ⟨known, old⟩ := entry
      by_cases same : known = key
      · subst same
        simp [setEntry]
      · rw [setEntry, if_neg same, List.map_cons, ih]
        by_cases later : key ∈ rest.map (·.1)
        · have present : key ∈ (((known, old) :: rest).map (·.1)) := List.mem_cons_of_mem _ later
          rw [if_pos later, if_pos present, List.map_cons]
        · have missing : key ∉ (List.map (fun x => x.1) ((known, old) :: rest)) := by
            rw [List.map_cons, List.mem_cons, not_or]
            exact ⟨Ne.symm same, later⟩
          rw [if_neg later, if_neg missing, List.map_cons, List.cons_append]

theorem setEntry_mem {V : Type} {key : PyStr} {value : V} {entries : List (PyStr × V)}
    {entry : PyStr × V} (member : entry ∈ setEntry key value entries) :
    entry = (key, value) ∨ entry ∈ entries := by
  induction entries with
  | nil => exact Or.inl (List.mem_singleton.mp member)
  | cons first rest ih =>
      obtain ⟨known, old⟩ := first
      rw [setEntry] at member
      split at member
      · rcases List.mem_cons.mp member with same | later
        · exact Or.inl same
        · exact Or.inr (List.mem_cons_of_mem _ later)
      · rcases List.mem_cons.mp member with same | later
        · rw [same]
          exact Or.inr List.mem_cons_self
        · rcases ih later with new | old
          · exact Or.inl new
          · exact Or.inr (List.mem_cons_of_mem _ old)

theorem foldl_setEntry_spec {V : Type} (pairs entries : List (PyStr × V))
    (distinct : (entries.map (·.1)).Nodup) :
    ((pairs.foldl (fun entries pair => setEntry pair.1 pair.2 entries) entries).map (·.1)).Nodup ∧
      ∀ entry ∈ pairs.foldl (fun entries pair => setEntry pair.1 pair.2 entries) entries,
        entry ∈ pairs ∨ entry ∈ entries := by
  induction pairs generalizing entries with
  | nil => exact ⟨distinct, fun entry member => Or.inr member⟩
  | cons pair rest ih =>
      have stillDistinct : ((setEntry pair.1 pair.2 entries).map (·.1)).Nodup := by
        rw [setEntry_keys]
        split
        · exact distinct
        · rename_i fresh
          rw [List.nodup_append]
          refine ⟨distinct, List.nodup_singleton _, ?_⟩
          intro a known b new same
          rw [List.mem_singleton.mp new] at same
          exact fresh (same ▸ known)
      obtain ⟨nodup, members⟩ := ih _ stillDistinct
      refine ⟨nodup, ?_⟩
      intro entry member
      rcases members entry member with later | earlier
      · exact Or.inl (List.mem_cons_of_mem _ later)
      · rcases setEntry_mem earlier with new | old
        · rw [new]
          exact Or.inl List.mem_cons_self
        · exact Or.inr old

theorem dictOf_spec {V : Type} (pairs : List (PyStr × V)) :
    ((dictOf pairs).map (·.1)).Nodup ∧ ∀ entry ∈ dictOf pairs, entry ∈ pairs := by
  obtain ⟨nodup, members⟩ := foldl_setEntry_spec pairs [] List.nodup_nil
  refine ⟨nodup, ?_⟩
  intro entry member
  rcases members entry member with inside | impossible
  · exact inside
  · cases impossible

/-! ### Rereading a printed value -/

theorem joinPair_val {high low : CodePoint} (highUnit : isHigh high = true)
    (lowUnit : isLow low = true) :
    (joinPair high low).val = 0x10000 + (high.val - 0xd800) * 0x400 + (low.val - 0xdc00) := by
  simp only [isHigh, isLow, Bool.and_eq_true, decide_eq_true_eq] at highUnit lowUnit
  simp only [joinPair, Fin.ofNat]
  exact Nat.mod_eq_of_lt (by omega)

theorem joinPairs_head {c : CodePoint} {rest joined : PyStr} {first : CodePoint}
    (split : joinPairs (c :: rest) = first :: joined) :
    first = c ∨ (isHigh first = false ∧ isLow first = false) := by
  cases rest with
  | nil =>
      cases split
      exact Or.inl rfl
  | cons d tail =>
      rw [joinPairs] at split
      split at split
      · rename_i pair
        rw [Bool.and_eq_true] at pair
        have value := joinPair_val pair.1 pair.2
        right
        injection split with same _
        rw [← same]
        simp only [isHigh, isLow, value, Bool.and_eq_false_iff, decide_eq_false_iff_not]
        omega
      · injection split with same _
        exact Or.inl same.symm

theorem joinPairs_joinPairs (text : PyStr) : joinPairs (joinPairs text) = joinPairs text := by
  induction text using joinPairs.induct with
  | case1 => rfl
  | case2 c => rfl
  | case3 high low rest pair ih =>
      rw [joinPairs, if_pos pair]
      rw [Bool.and_eq_true] at pair
      have notHigh : isHigh (joinPair high low) = false := by
        have split : joinPairs (high :: low :: []) = joinPair high low :: [] := by
          simp [joinPairs, pair]
        rcases joinPairs_head split with same | plain
        · have value := joinPair_val pair.1 pair.2
          rw [same] at value
          simp only [isHigh, isLow, Bool.and_eq_true, decide_eq_true_eq] at pair
          omega
        · exact plain.1
      rw [joinPairs_cons_of_not_high notHigh, ih]
  | case4 c d rest pair ih =>
      rw [joinPairs, if_neg pair]
      cases split : joinPairs (d :: rest) with
      | nil => rfl
      | cons first joined =>
          rw [split] at ih
          have apart : ¬(isHigh c && isLow first) = true := by
            rcases joinPairs_head split with same | plain
            · rw [same]
              exact pair
            · rw [plain.2, Bool.and_false]
              exact Bool.false_ne_true
          rw [joinPairs, if_neg apart, ih]

theorem joinPairs_chars (text : List Char) :
    joinPairs (text.map codePoint) = text.map codePoint := by
  induction text with
  | nil => rfl
  | cons c rest ih =>
      have notHigh : isHigh (codePoint c) = false := by
        have bound : c.toNat < 0x110000 := by
          rcases c.valid with low | high
          · exact Nat.lt_trans low (by decide)
          · exact high.2
        have value : (codePoint c).val = c.toNat := Nat.mod_eq_of_lt bound
        unfold isHigh
        rw [value, Bool.and_eq_false_iff, decide_eq_false_iff_not, decide_eq_false_iff_not]
        rcases c.valid with low | high
        · left
          have below : c.toNat < 0xd800 := low
          omega
        · right
          have above : 0xdfff < c.toNat := high.1
          omega
      rw [List.map_cons, joinPairs_cons_of_not_high notHigh, ih]

theorem codePoint_toNat (c : Char) : (codePoint c).val = c.toNat := by
  apply Nat.mod_eq_of_lt
  rcases c.valid with low | high
  · exact Nat.lt_trans low (by decide)
  · exact high.2

theorem codePoint_injective : Function.Injective codePoint := by
  intro left right same
  apply Char.toNat_inj.mp
  rw [← codePoint_toNat, ← codePoint_toNat, same]

theorem pyStr_injective : Function.Injective pyStr := by
  intro left right same
  exact String.toList_inj.mp (List.map_injective_iff.mpr codePoint_injective same)

/-- The characters of a text; a surrogate is none. -/
def charsOf (text : PyStr) : Option (List Char) :=
  if text.all (fun c => c.val.isValidChar) then some (text.map (fun c => Char.ofNat c.val))
  else none

theorem charsOf_some {text : PyStr} {chars : List Char} (found : charsOf text = some chars) :
    chars.map codePoint = text := by
  unfold charsOf at found
  split at found
  · rename_i valid
    cases found
    rw [List.map_map]
    have each : ∀ c ∈ text, (codePoint ∘ fun c : CodePoint => Char.ofNat c.val) c = c := by
      intro c member
      have isChar : c.val.isValidChar := of_decide_eq_true (List.all_eq_true.mp valid c member)
      have value : (Char.ofNat c.val).toNat = c.val := by
        unfold Char.ofNat
        rw [dif_pos isChar]
        rfl
      apply Fin.ext
      rw [Function.comp_apply, codePoint_toNat, value]
    exact (List.map_congr_left (g := id) each).trans (List.map_id text)
  · cases found

theorem charsOf_chars (chars : List Char) : charsOf (chars.map codePoint) = some chars := by
  unfold charsOf
  rw [if_pos]
  · rw [List.map_map]
    have each : ∀ c ∈ chars, ((fun c : CodePoint => Char.ofNat c.val) ∘ codePoint) c = c := by
      intro c _
      rw [Function.comp_apply, codePoint_toNat, Char.ofNat_toNat]
    rw [List.map_congr_left (g := id) each, List.map_id]
  · rw [List.all_map, List.all_eq_true]
    intro c _
    rw [Function.comp_apply, codePoint_toNat]
    exact decide_eq_true c.valid

theorem joinPairs_charsOf {text : PyStr} {chars : List Char} (found : charsOf text = some chars) :
    joinPairs text = text := by
  rw [← charsOf_some found]
  exact joinPairs_chars chars

theorem shortEscape_of_large {c : Nat} (large : 0x7e < c) : shortEscape c = none := by
  unfold shortEscape
  rw [if_neg (by omega), if_neg (by omega), if_neg (by omega), if_neg (by omega),
    if_neg (by omega), if_neg (by omega), if_neg (by omega)]

theorem escapeChar_unit {c : CodePoint} (large : 0x7e < c.val) (small : c.val < 0x10000) :
    escapeChar c = escapeUnit c.val := by
  have notPrintable : ¬(0x20 ≤ c.val ∧ c.val ≤ 0x7e) := by omega
  simp only [escapeChar, shortEscape_of_large large, if_neg notPrintable, if_pos small]

theorem escapeChar_astral {c : CodePoint} (large : ¬c.val < 0x10000) :
    escapeChar c = escapeUnit (0xd800 + (c.val - 0x10000) / 0x400) ++
      escapeUnit (0xdc00 + (c.val - 0x10000) % 0x400) := by
  have notPrintable : ¬(0x20 ≤ c.val ∧ c.val ≤ 0x7e) := by omega
  have notShort : shortEscape c.val = none := shortEscape_of_large (by omega)
  simp only [escapeChar, notShort, if_neg notPrintable, if_neg large]

theorem escapeChar_joinPair {high low : CodePoint} (highUnit : isHigh high = true)
    (lowUnit : isLow low = true) :
    escapeChar (joinPair high low) = escapeChar high ++ escapeChar low := by
  have value := joinPair_val highUnit lowUnit
  simp only [isHigh, isLow, Bool.and_eq_true, decide_eq_true_eq] at highUnit lowUnit
  have upper : 0xd800 + ((joinPair high low).val - 0x10000) / 0x400 = high.val := by
    omega
  have lower : 0xdc00 + ((joinPair high low).val - 0x10000) % 0x400 = low.val := by
    omega
  rw [escapeChar_astral (by omega), upper, lower, escapeChar_unit (by omega) (by omega),
    escapeChar_unit (by omega) (by omega)]

theorem flatMap_escapeChar_joinPairs (text : PyStr) :
    (joinPairs text).flatMap escapeChar = text.flatMap escapeChar := by
  induction text using joinPairs.induct with
  | case1 => rfl
  | case2 c => rfl
  | case3 high low rest pair ih =>
      rw [joinPairs, if_pos pair]
      rw [Bool.and_eq_true] at pair
      rw [List.flatMap_cons, ih, escapeChar_joinPair pair.1 pair.2, List.flatMap_cons,
        List.flatMap_cons, List.append_assoc]
  | case4 c d rest pair ih =>
      rw [joinPairs, if_neg pair, List.flatMap_cons, ih]
      rfl

theorem rereadEntries_of_wellKeyed {F : Type} {entries : List (PyStr × Json F)}
    (keyed : (Json.obj entries).WellKeyed) :
    rereadEntries entries = entries.map (fun e => (e.1, e.2.reread)) := by
  rw [Json.WellKeyed] at keyed
  rw [rereadEntries_eq]
  apply List.map_congr_left
  intro entry member
  rw [keyed.2.1 entry.1 (List.mem_map_of_mem member)]

theorem reread_obj {F : Type} {entries : List (PyStr × Json F)}
    (keyed : (Json.obj entries).WellKeyed) :
    (Json.obj entries).reread = .obj (entries.map (fun e => (e.1, e.2.reread))) := by
  have nodup := keyed
  rw [Json.WellKeyed] at nodup
  have keys : (entries.map (fun e => (e.1, e.2.reread))).map (·.1) = entries.map (·.1) := by
    rw [List.map_map]
    rfl
  rw [Json.reread, rereadEntries_of_wellKeyed keyed, dictOf_of_nodup]
  rw [keys]
  exact nodup.1

theorem printItems_congr {F : Type} [FloatFormat F] (f : Json F → Json F)
    (items : List (Json F)) (same : ∀ item ∈ items, (f item).print = item.print) :
    printItems (items.map f) = printItems items ∧
      printMoreItems (items.map f) = printMoreItems items := by
  induction items with
  | nil => exact ⟨rfl, rfl⟩
  | cons item rest ih =>
      have first := same item List.mem_cons_self
      have more := (ih (fun other member => same other (List.mem_cons_of_mem _ member))).2
      simp only [List.map_cons, printItems, printMoreItems, first, more, and_self]

theorem printEntries_congr {F : Type} [FloatFormat F] (f : Json F → Json F)
    (entries : List (PyStr × Json F)) (same : ∀ entry ∈ entries, (f entry.2).print = entry.2.print) :
    printEntries (entries.map (fun e => (e.1, f e.2))) = printEntries entries ∧
      printMoreEntries (entries.map (fun e => (e.1, f e.2))) = printMoreEntries entries := by
  induction entries with
  | nil => exact ⟨rfl, rfl⟩
  | cons entry rest ih =>
      have first := same entry List.mem_cons_self
      have more := (ih (fun other member => same other (List.mem_cons_of_mem _ member))).2
      simp only [List.map_cons, printEntries, printMoreEntries, first, more, and_self]

/-- Printing does not see whether pairs are joined. -/
theorem Json.print_reread {F : Type} [FloatFormat F] {value : Json F}
    (keyed : value.WellKeyed) : value.reread.print = value.print := by
  induction value using Json.structural with
  | leaf value notArr notObj =>
      cases value with
      | str text => simp only [Json.reread, Json.print, printString, flatMap_escapeChar_joinPairs]
      | arr items => exact absurd rfl (notArr items)
      | obj entries => exact absurd rfl (notObj entries)
      | _ => rfl
  | arr items ih =>
      rw [Json.WellKeyed, wellKeyedItems_iff] at keyed
      have same := printItems_congr Json.reread items
        (fun item member => ih item member (keyed item member))
      simp only [Json.reread, rereadItems_eq, Json.print, same.1]
  | obj entries ih =>
      rw [reread_obj keyed]
      rw [Json.WellKeyed, wellKeyedEntries_iff] at keyed
      have same := printEntries_congr Json.reread entries
        (fun entry member => ih entry member (keyed.2.2 entry member))
      simp only [Json.print, same.1]

theorem Json.reread_of_joined {F : Type} {value : Json F} (keyed : value.WellKeyed)
    (joined : value.Joined) : value.reread = value := by
  induction value using Json.structural with
  | leaf value notArr notObj =>
      cases value with
      | str text =>
          rw [Json.Joined] at joined
          rw [Json.reread, joined]
      | arr items => exact absurd rfl (notArr items)
      | obj entries => exact absurd rfl (notObj entries)
      | _ => rfl
  | arr items ih =>
      rw [Json.WellKeyed, wellKeyedItems_iff] at keyed
      rw [Json.Joined, joinedItems_iff] at joined
      rw [Json.reread, rereadItems_eq]
      congr 1
      conv_rhs => rw [← List.map_id items]
      apply List.map_congr_left
      intro item member
      exact ih item member (keyed item member) (joined item member)
  | obj entries ih =>
      rw [reread_obj keyed]
      rw [Json.WellKeyed, wellKeyedEntries_iff] at keyed
      rw [Json.Joined, joinedEntries_iff] at joined
      congr 1
      conv_rhs => rw [← List.map_id entries]
      apply List.map_congr_left
      intro entry member
      exact Prod.ext rfl (ih entry member (keyed.2.2 entry member) (joined entry member))

theorem Json.sortKeys_wellKeyed {F : Type} {value : Json F} (keyed : value.WellKeyed) :
    value.sortKeys.WellKeyed := by
  induction value using Json.structural with
  | leaf value notArr notObj =>
      cases value with
      | arr items => exact absurd rfl (notArr items)
      | obj entries => exact absurd rfl (notObj entries)
      | _ => exact trivial
  | arr items ih =>
      rw [Json.WellKeyed, wellKeyedItems_iff] at keyed
      rw [Json.sortKeys, sortItems_eq, Json.WellKeyed, wellKeyedItems_iff]
      intro sorted member
      obtain ⟨item, inside, same⟩ := List.mem_map.mp member
      rw [← same]
      exact ih item inside (keyed item inside)
  | obj entries ih =>
      rw [Json.WellKeyed, wellKeyedEntries_iff] at keyed
      rw [Json.sortKeys, sortEntries_eq, sortByKey_map, Json.WellKeyed, wellKeyedEntries_iff]
      have keys : ((sortByKey entries).map (fun e => (e.1, e.2.sortKeys))).map (·.1) =
          (sortByKey entries).map (·.1) := by
        rw [List.map_map]
        rfl
      have permuted := (sortByKey_perm entries).map (·.1)
      rw [keys]
      refine ⟨permuted.nodup_iff.mpr keyed.1, ?_, ?_⟩
      · intro key member
        exact keyed.2.1 key (permuted.mem_iff.mp member)
      · intro sorted member
        obtain ⟨entry, inside, same⟩ := List.mem_map.mp member
        rw [← same]
        have original := sortByKey_mem.mp inside
        exact ih entry original (keyed.2.2 entry original)

theorem Json.sortKeys_joined {F : Type} {value : Json F} (joined : value.Joined) :
    value.sortKeys.Joined := by
  induction value using Json.structural with
  | leaf value notArr notObj =>
      cases value with
      | arr items => exact absurd rfl (notArr items)
      | obj entries => exact absurd rfl (notObj entries)
      | _ => exact joined
  | arr items ih =>
      rw [Json.Joined, joinedItems_iff] at joined
      rw [Json.sortKeys, sortItems_eq, Json.Joined, joinedItems_iff]
      intro sorted member
      obtain ⟨item, inside, same⟩ := List.mem_map.mp member
      rw [← same]
      exact ih item inside (joined item inside)
  | obj entries ih =>
      rw [Json.Joined, joinedEntries_iff] at joined
      rw [Json.sortKeys, sortEntries_eq, sortByKey_map, Json.Joined, joinedEntries_iff]
      intro sorted member
      obtain ⟨entry, inside, same⟩ := List.mem_map.mp member
      rw [← same]
      have original := sortByKey_mem.mp inside
      exact ih entry original (joined entry original)

/-- Sorting and rereading commute: both leave the keys of a well-keyed value. -/
theorem Json.sortKeys_reread {F : Type} {value : Json F} (keyed : value.WellKeyed) :
    value.reread.sortKeys = value.sortKeys.reread := by
  induction value using Json.structural with
  | leaf value notArr notObj =>
      cases value with
      | arr items => exact absurd rfl (notArr items)
      | obj entries => exact absurd rfl (notObj entries)
      | _ => rfl
  | arr items ih =>
      rw [Json.WellKeyed, wellKeyedItems_iff] at keyed
      simp only [Json.reread, Json.sortKeys, rereadItems_eq, sortItems_eq, List.map_map]
      congr 1
      exact List.map_congr_left (fun item member => ih item member (keyed item member))
  | obj entries ih =>
      have sortedKeyed := Json.sortKeys_wellKeyed keyed
      rw [Json.sortKeys, sortEntries_eq, sortByKey_map] at sortedKeyed
      simp only [reread_obj keyed, Json.sortKeys, sortEntries_eq, sortByKey_map,
        reread_obj sortedKeyed]
      rw [List.map_map, List.map_map]
      rw [Json.WellKeyed, wellKeyedEntries_iff] at keyed
      congr 1
      apply List.map_congr_left
      intro entry member
      have original := sortByKey_mem.mp member
      exact Prod.ext rfl (ih entry original (keyed.2.2 entry original))

theorem Json.encodable_reread {F : Type} (allowNan : Bool) {value : Json F}
    (keyed : value.WellKeyed) : value.reread.encodable allowNan = value.encodable allowNan := by
  induction value using Json.structural with
  | leaf value notArr notObj =>
      cases value with
      | arr items => exact absurd rfl (notArr items)
      | obj entries => exact absurd rfl (notObj entries)
      | _ => rfl
  | arr items ih =>
      rw [Json.WellKeyed, wellKeyedItems_iff] at keyed
      rw [Bool.eq_iff_iff]
      simp only [Json.reread, Json.encodable, rereadItems_eq, encodableItems_iff, List.mem_map,
        forall_exists_index, and_imp, forall_apply_eq_imp_iff₂]
      exact forall₂_congr fun item member => by rw [ih item member (keyed item member)]
  | obj entries ih =>
      rw [reread_obj keyed]
      rw [Json.WellKeyed, wellKeyedEntries_iff] at keyed
      rw [Bool.eq_iff_iff]
      simp only [Json.encodable, encodableEntries_iff, List.mem_map, forall_exists_index, and_imp,
        forall_apply_eq_imp_iff₂]
      exact forall₂_congr fun entry member => by rw [ih entry member (keyed.2.2 entry member)]

theorem Json.reread_normal {F : Type} {value : Json F} (keyed : value.WellKeyed) :
    value.reread.WellKeyed ∧ value.reread.Joined := by
  induction value using Json.structural with
  | leaf value notArr notObj =>
      cases value with
      | str text => exact ⟨trivial, joinPairs_joinPairs text⟩
      | arr items => exact absurd rfl (notArr items)
      | obj entries => exact absurd rfl (notObj entries)
      | _ => exact ⟨trivial, trivial⟩
  | arr items ih =>
      rw [Json.WellKeyed, wellKeyedItems_iff] at keyed
      rw [Json.reread, rereadItems_eq, Json.WellKeyed, Json.Joined, wellKeyedItems_iff,
        joinedItems_iff]
      constructor
      · intro again member
        obtain ⟨item, inside, same⟩ := List.mem_map.mp member
        rw [← same]
        exact (ih item inside (keyed item inside)).1
      · intro again member
        obtain ⟨item, inside, same⟩ := List.mem_map.mp member
        rw [← same]
        exact (ih item inside (keyed item inside)).2
  | obj entries ih =>
      rw [reread_obj keyed]
      rw [Json.WellKeyed, wellKeyedEntries_iff] at keyed
      have keys : (entries.map (fun e => (e.1, e.2.reread))).map (·.1) = entries.map (·.1) := by
        rw [List.map_map]
        rfl
      rw [Json.WellKeyed, Json.Joined, wellKeyedEntries_iff, joinedEntries_iff, keys]
      refine ⟨⟨keyed.1, keyed.2.1, ?_⟩, ?_⟩
      · intro again member
        obtain ⟨entry, inside, same⟩ := List.mem_map.mp member
        rw [← same]
        exact (ih entry inside (keyed.2.2 entry inside)).1
      · intro again member
        obtain ⟨entry, inside, same⟩ := List.mem_map.mp member
        rw [← same]
        exact (ih entry inside (keyed.2.2 entry inside)).2

/-! ### Everything read is normal -/

/-- What a reader produces: keys distinct and every string joined. -/
def Json.Normal {F : Type} (value : Json F) : Prop := value.WellKeyed ∧ value.Joined

theorem Json.normal_arr_iff {F : Type} {items : List (Json F)} :
    (Json.arr items).Normal ↔ ∀ item ∈ items, item.Normal := by
  unfold Json.Normal
  rw [Json.WellKeyed, Json.Joined, wellKeyedItems_iff, joinedItems_iff]
  exact ⟨fun normal item member => ⟨normal.1 item member, normal.2 item member⟩,
    fun normal => ⟨fun item member => (normal item member).1,
      fun item member => (normal item member).2⟩⟩

theorem Json.normal_obj_iff {F : Type} {entries : List (PyStr × Json F)} :
    (Json.obj entries).Normal ↔ (entries.map (·.1)).Nodup ∧
      (∀ key ∈ entries.map (·.1), joinPairs key = key) ∧ ∀ entry ∈ entries, entry.2.Normal := by
  unfold Json.Normal
  rw [Json.WellKeyed, Json.Joined, wellKeyedEntries_iff, joinedEntries_iff]
  constructor
  · rintro ⟨⟨distinct, keys, keyed⟩, joined⟩
    exact ⟨distinct, keys, fun entry member => ⟨keyed entry member, joined entry member⟩⟩
  · rintro ⟨distinct, keys, normal⟩
    exact ⟨⟨distinct, keys, fun entry member => (normal entry member).1⟩,
      fun entry member => (normal entry member).2⟩

theorem Json.Normal.sortKeys {F : Type} {value : Json F} (normal : value.Normal) :
    value.sortKeys.Normal :=
  ⟨Json.sortKeys_wellKeyed normal.1, Json.sortKeys_joined normal.2⟩

mutual
def Json.decidableWellKeyed {F : Type} : (value : Json F) → Decidable value.WellKeyed
  | .null => .isTrue trivial
  | .bool _ => .isTrue trivial
  | .int _ => .isTrue trivial
  | .float _ => .isTrue trivial
  | .str _ => .isTrue trivial
  | .arr items => decidableWellKeyedItems items
  | .obj entries =>
      have := decidableWellKeyedEntries entries
      inferInstanceAs (Decidable ((entries.map (·.1)).Nodup ∧
        (∀ key ∈ entries.map (·.1), joinPairs key = key) ∧ WellKeyedEntries entries))

def decidableWellKeyedItems {F : Type} : (items : List (Json F)) → Decidable (WellKeyedItems items)
  | [] => .isTrue trivial
  | item :: rest =>
      have := item.decidableWellKeyed
      have := decidableWellKeyedItems rest
      inferInstanceAs (Decidable (item.WellKeyed ∧ WellKeyedItems rest))

def decidableWellKeyedEntries {F : Type} :
    (entries : List (PyStr × Json F)) → Decidable (WellKeyedEntries entries)
  | [] => .isTrue trivial
  | (_, value) :: rest =>
      have := value.decidableWellKeyed
      have := decidableWellKeyedEntries rest
      inferInstanceAs (Decidable (value.WellKeyed ∧ WellKeyedEntries rest))
end

mutual
def Json.decidableJoined {F : Type} : (value : Json F) → Decidable value.Joined
  | .null => .isTrue trivial
  | .bool _ => .isTrue trivial
  | .int _ => .isTrue trivial
  | .float _ => .isTrue trivial
  | .str text => inferInstanceAs (Decidable (joinPairs text = text))
  | .arr items => decidableJoinedItems items
  | .obj entries => decidableJoinedEntries entries

def decidableJoinedItems {F : Type} : (items : List (Json F)) → Decidable (JoinedItems items)
  | [] => .isTrue trivial
  | item :: rest =>
      have := item.decidableJoined
      have := decidableJoinedItems rest
      inferInstanceAs (Decidable (item.Joined ∧ JoinedItems rest))

def decidableJoinedEntries {F : Type} :
    (entries : List (PyStr × Json F)) → Decidable (JoinedEntries entries)
  | [] => .isTrue trivial
  | (_, value) :: rest =>
      have := value.decidableJoined
      have := decidableJoinedEntries rest
      inferInstanceAs (Decidable (value.Joined ∧ JoinedEntries rest))
end

instance decidableNormal {F : Type} (value : Json F) : Decidable value.Normal :=
  have := value.decidableWellKeyed
  have := value.decidableJoined
  inferInstanceAs (Decidable (value.WellKeyed ∧ value.Joined))

theorem scanString_joined {text rest : List Char} {joined : PyStr}
    (scanned : scanString text = .ok (joined, rest)) : joinPairs joined = joined := by
  unfold scanString at scanned
  cases units : scanUnits text with
  | error e =>
      rw [units] at scanned
      cases scanned
  | ok found =>
      rw [units] at scanned
      cases scanned
      exact joinPairs_joinPairs found.1

theorem parseConstant_normal {F : Type} {text rest : List Char} {value : Json F}
    (parsed : parseConstant text = some (value, rest)) : value.Normal := by
  unfold parseConstant at parsed
  repeat' split at parsed
  all_goals first
    | cases parsed; exact ⟨trivial, trivial⟩
    | cases parsed

theorem parseNumber_normal {F : Type} [FloatFormat F] {text rest : List Char} {value : Json F}
    (parsed : parseNumber text = .ok (value, rest)) : value.Normal := by
  unfold parseNumber at parsed
  split at parsed
  · cases parsed
  · split at parsed
    · cases parsed
      exact ⟨trivial, trivial⟩
    · split at parsed
      · cases parsed
      · cases parsed
        exact ⟨trivial, trivial⟩

theorem obj_normal {F : Type} {pairs : List (PyStr × Json F)}
    (normal : ∀ pair ∈ pairs, joinPairs pair.1 = pair.1 ∧ pair.2.Normal) :
    (Json.obj (dictOf pairs)).Normal := by
  obtain ⟨nodup, members⟩ := dictOf_spec pairs
  unfold Json.Normal
  rw [Json.WellKeyed, Json.Joined, wellKeyedEntries_iff, joinedEntries_iff]
  refine ⟨⟨nodup, ?_, ?_⟩, ?_⟩
  · intro key member
    obtain ⟨entry, inside, same⟩ := List.mem_map.mp member
    rw [← same]
    exact (normal entry (members entry inside)).1
  · intro entry inside
    exact (normal entry (members entry inside)).2.1
  · intro entry inside
    exact (normal entry (members entry inside)).2.2

-- By recursion on the fuel, as the reader.
mutual
theorem parseValue_normal {F : Type} [FloatFormat F] (fuel : Nat) {text rest : List Char}
    {value : Json F} (parsed : parseValue fuel text = .ok (value, rest)) : value.Normal := by
  match fuel with
  | 0 => simp [parseValue] at parsed
  | fuel + 1 =>
      unfold parseValue at parsed
      split at parsed
      · obtain ⟨found, scanned, same⟩ := except_map_ok parsed
        cases same
        exact ⟨trivial, scanString_joined scanned⟩
      · split at parsed
        · cases parsed
          exact ⟨trivial, trivial⟩
        · obtain ⟨found, scanned, same⟩ := except_map_ok parsed
          cases same
          have items := parseItems_normal fuel scanned
          unfold Json.Normal
          rw [Json.WellKeyed, Json.Joined, wellKeyedItems_iff, joinedItems_iff]
          exact ⟨fun item member => (items item member).1, fun item member => (items item member).2⟩
      · split at parsed
        · cases parsed
          have nothing : ∀ pair ∈ ([] : List (PyStr × Json F)),
              joinPairs pair.1 = pair.1 ∧ pair.2.Normal := by
            intro pair member
            cases member
          exact obj_normal nothing
        · obtain ⟨found, scanned, same⟩ := except_map_ok parsed
          cases same
          exact obj_normal (parseEntries_normal fuel scanned)
      · split at parsed
        · rename_i constant
          cases parsed
          exact parseConstant_normal constant
        · exact parseNumber_normal parsed

theorem parseItems_normal {F : Type} [FloatFormat F] (fuel : Nat) {text rest : List Char}
    {items : List (Json F)} (parsed : parseItems fuel text = .ok (items, rest)) :
    ∀ item ∈ items, item.Normal := by
  match fuel with
  | 0 => simp [parseItems] at parsed
  | fuel + 1 =>
      unfold parseItems at parsed
      split at parsed
      · cases parsed
      · rename_i value_read
        have first := parseValue_normal fuel value_read
        split at parsed
        · cases parsed
          intro item member
          rw [List.mem_singleton.mp member]
          exact first
        · obtain ⟨found, scanned, same⟩ := except_map_ok parsed
          cases same
          intro item member
          rcases List.mem_cons.mp member with same | later
          · rw [same]
            exact first
          · exact parseItems_normal fuel scanned item later
        · cases parsed

theorem parseEntries_normal {F : Type} [FloatFormat F] (fuel : Nat) {text rest : List Char}
    {pairs : List (PyStr × Json F)} (parsed : parseEntries fuel text = .ok (pairs, rest)) :
    ∀ pair ∈ pairs, joinPairs pair.1 = pair.1 ∧ pair.2.Normal := by
  match fuel with
  | 0 => simp [parseEntries] at parsed
  | fuel + 1 =>
      unfold parseEntries at parsed
      split at parsed
      · cases parsed
      · rename_i sameFuel
        cases sameFuel
        split at parsed
        · cases parsed
        · rename_i key_read
          have key := scanString_joined key_read
          split at parsed
          · split at parsed
            · cases parsed
            · rename_i value_read
              have value := parseValue_normal fuel value_read
              split at parsed
              · cases parsed
                intro pair member
                rw [List.mem_singleton.mp member]
                exact ⟨key, value⟩
              · obtain ⟨found, scanned, same⟩ := except_map_ok parsed
                cases same
                intro pair member
                rcases List.mem_cons.mp member with same | later
                · rw [same]
                  exact ⟨key, value⟩
                · exact parseEntries_normal fuel scanned pair later
              · cases parsed
          · cases parsed
      · cases parsed
end

theorem loads_normal {F : Type} [FloatFormat F] {text : List Char} {value : Json F}
    (loaded : loads text = .ok value) : value.Normal := by
  unfold loads at loaded
  split at loaded
  · cases loaded
  · rename_i parsed
    split at loaded
    · cases loaded
      exact parseValue_normal _ parsed
    · cases loaded

/-! ### The two directions -/

theorem Json.encodable_of_strict {F : Type} {value : Json F} {allowNan : Bool}
    (strict : value.encodable allowNan = true) : value.encodable true = true := by
  induction value using Json.structural with
  | leaf value notArr notObj =>
      cases value with
      | arr items => exact absurd rfl (notArr items)
      | obj entries => exact absurd rfl (notObj entries)
      | float x => cases x <;> rfl
      | _ => exact strict
  | arr items ih =>
      rw [Json.encodable, encodableItems_iff] at strict ⊢
      exact fun item member => ih item member (strict item member)
  | obj entries ih =>
      rw [Json.encodable, encodableEntries_iff] at strict ⊢
      exact fun entry member => ih entry member (strict entry member)

/-- `loads` inverts `dumps` up to the order of keys and the joining of pairs. -/
theorem loads_dumps {F : Type} [FloatFormat F] {allowNan : Bool} {value : Json F}
    {text : List Char} (dumped : dumps allowNan value = some text) :
    loads text = .ok value.sortKeys.reread := by
  unfold dumps at dumped
  split at dumped
  · rename_i encodable
    cases dumped
    apply loads_print
    rw [Json.encodable_sortKeys]
    exact Json.encodable_of_strict encodable
  · cases dumped

theorem loads_dumps_normal {F : Type} [FloatFormat F] {allowNan : Bool} {value : Json F}
    {text : List Char} (normal : value.Normal) (dumped : dumps allowNan value = some text) :
    loads text = .ok value.sortKeys := by
  rw [loads_dumps dumped, Json.reread_of_joined (Json.sortKeys_wellKeyed normal.1)
    (Json.sortKeys_joined normal.2)]

/-- Equal texts come from values equal up to the order of keys. -/
theorem dumps_injective {F : Type} [FloatFormat F] {allowNan : Bool} {left right : Json F}
    {text : List Char} (leftNormal : left.Normal) (rightNormal : right.Normal)
    (leftDumped : dumps allowNan left = some text)
    (rightDumped : dumps allowNan right = some text) : left.sortKeys = right.sortKeys := by
  have fromLeft := loads_dumps_normal leftNormal leftDumped
  rw [loads_dumps_normal rightNormal rightDumped] at fromLeft
  exact (Except.ok.inj fromLeft).symm

/-- Values equal up to the order of keys have equal texts. -/
theorem dumps_congr {F : Type} [FloatFormat F] {allowNan : Bool} {left right : Json F}
    (same : left.sortKeys = right.sortKeys) : dumps allowNan left = dumps allowNan right := by
  unfold dumps
  rw [← Json.encodable_sortKeys, ← Json.encodable_sortKeys allowNan right, same]

/-! ### Lists of strings -/

theorem reread_strings {F : Type} {texts : List PyStr}
    (joined : ∀ text ∈ texts, joinPairs text = text) :
    (Json.arr (texts.map (fun text => (.str text : Json F)))).sortKeys.reread =
      .arr (texts.map .str) := by
  rw [Json.sortKeys, Json.reread, rereadItems_eq, sortItems_eq, List.map_map, List.map_map]
  congr 1
  apply List.map_congr_left
  intro text member
  simp only [Function.comp_apply, Json.sortKeys, Json.reread, joined text member]

theorem encodable_strings {F : Type} (texts : List PyStr) :
    (Json.arr (texts.map (fun text => (.str text : Json F)))).encodable true = true := by
  rw [Json.encodable, encodableItems_iff]
  intro item member
  obtain ⟨text, _, same⟩ := List.mem_map.mp member
  rw [← same]
  rfl

/-! ### Looking up in a reread object -/

theorem lookup_of_mem {V : Type} {key : PyStr} {value : V} {entries : List (PyStr × V)}
    (distinct : (entries.map (·.1)).Nodup) (member : (key, value) ∈ entries) :
    lookup key entries = some value := by
  induction entries with
  | nil => cases member
  | cons entry rest ih =>
      rw [List.map_cons, List.nodup_cons] at distinct
      unfold lookup
      rcases List.mem_cons.mp member with same | later
      · rw [← same, List.find?_cons_of_pos (by simp)]
        rfl
      · have other : entry.1 ≠ key := by
          intro same
          apply distinct.1
          rw [same]
          exact List.mem_map_of_mem later
        rw [List.find?_cons_of_neg (by simpa using other)]
        exact ih distinct.2 later

theorem lookup_none {V : Type} {key : PyStr} {entries : List (PyStr × V)}
    (missing : key ∉ entries.map (·.1)) : lookup key entries = none := by
  unfold lookup
  rw [Option.map_eq_none_iff, List.find?_eq_none]
  intro entry member same
  exact missing (of_decide_eq_true same ▸ List.mem_map_of_mem member)

theorem lookup_of_perm {V : Type} {left right : List (PyStr × V)} (perm : left.Perm right)
    (distinct : (left.map (·.1)).Nodup) (key : PyStr) : lookup key left = lookup key right := by
  have distinct' : (right.map (·.1)).Nodup := (perm.map (·.1)).nodup_iff.mp distinct
  by_cases known : key ∈ left.map (·.1)
  · obtain ⟨⟨_, value⟩, member, same⟩ := List.mem_map.mp known
    subst same
    rw [lookup_of_mem distinct member, lookup_of_mem distinct' (perm.subset member)]
  · have known' : key ∉ right.map (·.1) := fun there =>
      known ((perm.map (·.1)).symm.subset there)
    rw [lookup_none known, lookup_none known']

theorem lookup_map {V W : Type} (f : V → W) (key : PyStr) (entries : List (PyStr × V)) :
    lookup key (entries.map (fun e => (e.1, f e.2))) = (lookup key entries).map f := by
  unfold lookup
  rw [List.find?_map, Option.map_map, Option.map_map]
  rfl

theorem mem_of_lookup {V : Type} {key : PyStr} {value : V} {entries : List (PyStr × V)}
    (found : lookup key entries = some value) : (key, value) ∈ entries := by
  unfold lookup at found
  obtain ⟨⟨known, _⟩, isFound, same⟩ := Option.map_eq_some_iff.mp found
  have isKey := List.find?_some isFound
  subst same
  cases (of_decide_eq_true isKey : known = key)
  exact List.mem_of_find?_eq_some isFound

/-- Sorted by key, dictionaries with the same content are the same list. -/
theorem sortByKey_of_lookup {V : Type} {left right : List (PyStr × V)}
    (distinct : (left.map (·.1)).Nodup) (distinct' : (right.map (·.1)).Nodup)
    (same : ∀ key, lookup key left = lookup key right) : sortByKey left = sortByKey right := by
  have within {left right : List (PyStr × V)} (distinct : (left.map (·.1)).Nodup)
      (same : ∀ key, lookup key left = lookup key right) (entry : PyStr × V)
      (member : entry ∈ left) : entry ∈ right := by
    apply mem_of_lookup
    rw [← same]
    exact lookup_of_mem distinct member
  have perm : left.Perm right :=
    (List.perm_ext_iff_of_nodup distinct.of_map distinct'.of_map).mpr fun entry =>
      ⟨within distinct same entry, within distinct' (fun key => (same key).symm) entry⟩
  have whole : (sortByKey left).Perm (sortByKey right) :=
    (sortByKey_perm left).trans (perm.trans (sortByKey_perm right).symm)
  apply List.Perm.eq_of_pairwise _ (sortByKey_sorted left) (sortByKey_sorted right) whole
  intro first second inLeft inRight le ge
  have inRight' := (sortByKey_mem.mp inRight)
  have inLeft' := perm.subset (sortByKey_mem.mp inLeft)
  have keys : first.1 = second.1 := le_antisymm le ge
  have found := lookup_of_mem distinct' inLeft'
  rw [keys, lookup_of_mem distinct' inRight'] at found
  exact Prod.ext keys (Option.some.inj found).symm

theorem printEntries_eq {F : Type} [FloatFormat F] {left right : List (PyStr × Json F)}
    (same : left.map (fun e => (e.1, e.2.print)) = right.map (fun e => (e.1, e.2.print))) :
    printEntries left = printEntries right ∧ printMoreEntries left = printMoreEntries right := by
  induction left generalizing right with
  | nil =>
      rw [List.map_eq_nil_iff.mp same.symm]
      exact ⟨rfl, rfl⟩
  | cons entry rest ih =>
      cases right with
      | nil => cases same
      | cons entry' rest' =>
          rw [List.map_cons, List.map_cons] at same
          obtain ⟨first, later⟩ := List.cons.inj same
          obtain ⟨key, printed⟩ := Prod.mk.inj first
          simp only [printEntries, printMoreEntries, key, printed, (ih later).2, and_self]

/-- Objects whose values print alike under each key print alike. -/
theorem print_obj_of_lookup {F : Type} [FloatFormat F] {left right : List (PyStr × Json F)}
    (distinct : (left.map (·.1)).Nodup) (distinct' : (right.map (·.1)).Nodup)
    (same : ∀ key, (lookup key left).map (fun value => value.sortKeys.print) =
      (lookup key right).map (fun value => value.sortKeys.print)) :
    (Json.obj left).sortKeys.print = (Json.obj right).sortKeys.print := by
  have printed (entries : List (PyStr × Json F)) :
      (sortByKey (sortEntries entries)).map (fun e => (e.1, e.2.print)) =
        sortByKey (entries.map (fun e => (e.1, e.2.sortKeys.print))) := by
    rw [← sortByKey_map, sortEntries_eq, List.map_map]
    rfl
  have sorted : sortByKey (left.map (fun e => (e.1, e.2.sortKeys.print))) =
      sortByKey (right.map (fun e => (e.1, e.2.sortKeys.print))) := by
    apply sortByKey_of_lookup
    · rw [List.map_map]
      exact distinct
    · rw [List.map_map]
      exact distinct'
    · intro key
      rw [lookup_map (fun value : Json F => value.sortKeys.print),
        lookup_map (fun value : Json F => value.sortKeys.print)]
      exact same key
  rw [← printed, ← printed] at sorted
  rw [Json.sortKeys, Json.sortKeys, Json.print, Json.print, (printEntries_eq sorted).1]

/-- An object printed with sorted keys and reread holds its values reread. -/
theorem reread_sortKeys_lookup {F : Type} {entries : List (PyStr × Json F)}
    (distinct : (entries.map (·.1)).Nodup) (joined : ∀ key ∈ entries.map (·.1), joinPairs key = key) :
    ∃ entries', (Json.obj entries).sortKeys.reread = .obj entries' ∧
      ∀ key, lookup key entries' = (lookup key entries).map (fun value => value.sortKeys.reread) := by
  have sortedKeys : ((sortEntries entries).map (·.1)) = entries.map (·.1) := by
    rw [sortEntries_eq, List.map_map]
    rfl
  have perm := sortByKey_perm (sortEntries entries)
  have keysPerm := (perm.map (·.1)).trans (List.Perm.of_eq sortedKeys)
  have reread : rereadEntries (sortByKey (sortEntries entries)) =
      (sortByKey (sortEntries entries)).map (fun e => (e.1, e.2.reread)) := by
    rw [rereadEntries_eq]
    apply List.map_congr_left
    intro entry member
    rw [joined entry.1 (keysPerm.subset (List.mem_map_of_mem member))]
  have sorted : ((sortByKey (sortEntries entries)).map (·.1)).Nodup :=
    keysPerm.nodup_iff.mpr distinct
  have nodup : ((rereadEntries (sortByKey (sortEntries entries))).map (·.1)).Nodup := by
    rw [reread, List.map_map]
    exact sorted
  refine ⟨rereadEntries (sortByKey (sortEntries entries)), ?_, ?_⟩
  · rw [Json.sortKeys, Json.reread, dictOf_of_nodup nodup]
  · intro key
    rw [reread, lookup_map Json.reread, lookup_of_perm perm sorted, sortEntries_eq,
      lookup_map Json.sortKeys, Option.map_map]
    rfl

theorem reread_sortKeys_mem {F : Type} {entries : List (PyStr × Json F)}
    (distinct : (entries.map (·.1)).Nodup) (joined : ∀ key ∈ entries.map (·.1), joinPairs key = key) :
    ∃ entries', (Json.obj entries).sortKeys.reread = .obj entries' ∧
      ∀ key value, (key, value) ∈ entries →
        lookup key entries' = some value.sortKeys.reread := by
  obtain ⟨entries', same, found⟩ := reread_sortKeys_lookup distinct joined
  refine ⟨entries', same, ?_⟩
  intro key value member
  rw [found, lookup_of_mem distinct member, Option.map_some]

/-! ### The length of printed values -/

theorem escapeChar_length (c : CodePoint) : (escapeChar c).length ≤ 12 := by
  unfold escapeChar
  split
  · exact Nat.le_of_ble_eq_true rfl
  · split
    · exact Nat.le_of_ble_eq_true rfl
    · split
      · exact Nat.le_of_ble_eq_true rfl
      · exact Nat.le_of_ble_eq_true rfl

theorem printString_length (text : PyStr) : (printString text).length ≤ 12 * text.length + 2 := by
  have escaped : (text.flatMap escapeChar).length ≤ 12 * text.length := by
    induction text with
    | nil => exact Nat.le_refl 0
    | cons c rest ih =>
        have first := escapeChar_length c
        rw [List.flatMap_cons, List.length_append, List.length_cons]
        omega
  unfold printString
  rw [List.length_append, List.length_cons, List.length_singleton]
  omega

theorem printEntries_length {F : Type} [FloatFormat F] (entries : List (PyStr × Json F)) :
    (printEntries entries).length ≤
        (entries.map (fun e => (printString e.1).length + 2 + e.2.print.length)).sum ∧
      (printMoreEntries entries).length ≤
        (entries.map (fun e => (printString e.1).length + 2 + e.2.print.length)).sum := by
  induction entries with
  | nil => exact ⟨Nat.le_refl 0, Nat.le_refl 0⟩
  | cons entry rest ih =>
      obtain ⟨key, value⟩ := entry
      rw [List.map_cons, List.sum_cons]
      constructor
      · rw [printEntries]
        simp only [List.length_append, List.length_cons]
        omega
      · rw [printMoreEntries]
        simp only [List.length_append, List.length_cons]
        omega

/-- The order of the keys does not change the length. -/
theorem print_obj_length_le {F : Type} [FloatFormat F] (entries : List (PyStr × Json F)) :
    (Json.obj entries).sortKeys.print.length ≤
      (entries.map (fun e => (printString e.1).length + 2 + e.2.sortKeys.print.length)).sum + 2 := by
  have printed := (printEntries_length (sortByKey (sortEntries entries))).1
  have total : ((sortByKey (sortEntries entries)).map
      (fun e => (printString e.1).length + 2 + e.2.print.length)).sum =
        (entries.map (fun e => (printString e.1).length + 2 + e.2.sortKeys.print.length)).sum := by
    rw [((sortByKey_perm (sortEntries entries)).map _).sum_eq, sortEntries_eq, List.map_map]
    rfl
  rw [total] at printed
  rw [Json.sortKeys, Json.print, List.length_append, List.length_cons, List.length_singleton]
  omega

theorem print_obj_length {F : Type} [FloatFormat F] {entries : List (PyStr × Json F)} {bound : Nat}
    (short : ∀ e ∈ entries, (printString e.1).length + 2 + e.2.sortKeys.print.length ≤ bound) :
    (Json.obj entries).sortKeys.print.length ≤ entries.length * bound + 2 := by
  have printed := print_obj_length_le entries
  have each := List.sum_le_card_nsmul (entries.map
    (fun e => (printString e.1).length + 2 + e.2.sortKeys.print.length)) bound (by
      intro size member
      obtain ⟨e, inside, same⟩ := List.mem_map.mp member
      rw [← same]
      exact short e inside)
  rw [List.length_map, nsmul_eq_mul, Nat.cast_id] at each
  omega

theorem escapeChar_ne_nil (c : CodePoint) : escapeChar c ≠ [] := by
  unfold escapeChar
  split
  · exact List.cons_ne_nil _ _
  · split
    · exact List.cons_ne_nil _ _
    · split
      · exact List.cons_ne_nil _ _
      · exact List.cons_ne_nil _ _

theorem printString_length_ge (text : PyStr) : text.length ≤ (printString text).length := by
  have escaped : text.length ≤ (text.flatMap escapeChar).length := by
    induction text with
    | nil => exact Nat.le_refl 0
    | cons c rest ih =>
        have first := List.length_pos_of_ne_nil (escapeChar_ne_nil c)
        rw [List.flatMap_cons, List.length_append, List.length_cons]
        omega
  unfold printString
  rw [List.length_append, List.length_cons, List.length_singleton]
  omega

theorem printEntries_length_ge {F : Type} [FloatFormat F] {entries : List (PyStr × Json F)}
    {key : PyStr} {value : Json F} (member : (key, value) ∈ entries) :
    value.print.length ≤ (printEntries entries).length ∧
      value.print.length ≤ (printMoreEntries entries).length := by
  induction entries with
  | nil => cases member
  | cons first rest ih =>
      obtain ⟨firstKey, firstValue⟩ := first
      rw [printEntries, printMoreEntries]
      simp only [List.length_append, List.length_cons]
      rcases List.mem_cons.mp member with same | later
      · cases same
        exact ⟨by omega, by omega⟩
      · have inside := (ih later).2
        omega

/-- An object is no shorter than any of its values. -/
theorem print_obj_length_ge {F : Type} [FloatFormat F] {entries : List (PyStr × Json F)}
    {key : PyStr} {value : Json F} (member : (key, value) ∈ entries) :
    value.sortKeys.print.length ≤ (Json.obj entries).sortKeys.print.length := by
  have sorted : (key, value.sortKeys) ∈ sortByKey (sortEntries entries) := by
    rw [sortByKey_mem, sortEntries_eq]
    exact List.mem_map.mpr ⟨(key, value), member, rfl⟩
  have printed := (printEntries_length_ge sorted).1
  rw [Json.sortKeys, Json.print, List.length_append, List.length_cons]
  omega

end FolioLattice.Data
