/-
Dictionaries as lists of entries in insertion order: reading, writing and deleting a
key, next to a restriction to some of the keys.
-/

import Mathlib.Data.List.Basic
import Mathlib.Data.List.Nodup

namespace FolioLattice.Relational

variable {κ V : Type} [DecidableEq κ]

/-- `entries.get(key)` -/
def getEntry (key : κ) (entries : List (κ × V)) : Option V :=
  (entries.find? (fun entry => entry.1 = key)).map (·.2)

/-- `entries[key] = value` -/
def putEntry (key : κ) (value : V) : List (κ × V) → List (κ × V)
  | [] => [(key, value)]
  | entry :: rest => if entry.1 = key then (key, value) :: rest else entry :: putEntry key value rest

/-- `entries.pop(key, None)` -/
def popEntry (key : κ) (entries : List (κ × V)) : List (κ × V) :=
  entries.eraseP (fun entry => entry.1 = key)

/-- The entries of some of the keys. -/
def restrict (keep : κ → Bool) (entries : List (κ × V)) : List (κ × V) :=
  entries.filter (fun entry => keep entry.1)

section Cons

variable {key : κ} {entry : κ × V} (rest : List (κ × V))

theorem getEntry_cons_of_eq (same : entry.1 = key) :
    getEntry key (entry :: rest) = some entry.2 := by
  have found : (entry :: rest).find? (fun other => decide (other.1 = key)) = some entry :=
    List.find?_cons_of_pos (decide_eq_true same)
  unfold getEntry
  rw [found]
  rfl

theorem getEntry_cons_of_ne (differs : entry.1 ≠ key) :
    getEntry key (entry :: rest) = getEntry key rest := by
  unfold getEntry
  rw [List.find?_cons_of_neg]
  exact fun same => differs (of_decide_eq_true same)

theorem popEntry_cons_of_eq (same : entry.1 = key) : popEntry key (entry :: rest) = rest :=
  List.eraseP_cons_of_pos (decide_eq_true same)

theorem popEntry_cons_of_ne (differs : entry.1 ≠ key) :
    popEntry key (entry :: rest) = entry :: popEntry key rest :=
  List.eraseP_cons_of_neg (fun same => differs (of_decide_eq_true same))

omit [DecidableEq κ] in
theorem restrict_cons_of_keep {keep : κ → Bool} (kept : keep entry.1 = true) :
    restrict keep (entry :: rest) = entry :: restrict keep rest :=
  List.filter_cons_of_pos kept

omit [DecidableEq κ] in
theorem restrict_cons_of_not {keep : κ → Bool} (dropped : ¬keep entry.1 = true) :
    restrict keep (entry :: rest) = restrict keep rest :=
  List.filter_cons_of_neg dropped

end Cons

theorem mem_of_getEntry {key : κ} {value : V} {entries : List (κ × V)}
    (found : getEntry key entries = some value) : (key, value) ∈ entries := by
  induction entries with
  | nil => cases found
  | cons entry rest ih =>
      by_cases same : entry.1 = key
      · rw [getEntry_cons_of_eq _ same] at found
        rw [← same, ← Option.some.inj found]
        exact List.mem_cons_self
      · rw [getEntry_cons_of_ne _ same] at found
        exact List.mem_cons_of_mem _ (ih found)

/-- Among distinct keys, every entry is found. -/
theorem getEntry_of_mem {entries : List (κ × V)} (distinct : (entries.map (·.1)).Nodup)
    {entry : κ × V} (member : entry ∈ entries) : getEntry entry.1 entries = some entry.2 := by
  induction entries with
  | nil => cases member
  | cons first rest ih =>
      obtain ⟨fresh, others⟩ := List.nodup_cons.mp distinct
      rcases List.mem_cons.mp member with here | later
      · rw [here, getEntry_cons_of_eq _ rfl]
      · have apart : first.1 ≠ entry.1 :=
          fun same => fresh (List.mem_map.mpr ⟨entry, later, same.symm⟩)
        rw [getEntry_cons_of_ne _ apart, ih others later]

theorem getEntry_putEntry_self (key : κ) (value : V) (entries : List (κ × V)) :
    getEntry key (putEntry key value entries) = some value := by
  induction entries with
  | nil =>
      have same : (key, value).1 = key := rfl
      exact getEntry_cons_of_eq [] same
  | cons entry rest ih =>
      rw [putEntry]
      by_cases same : entry.1 = key
      · rw [if_pos same]
        have placed : (key, value).1 = key := rfl
        exact getEntry_cons_of_eq rest placed
      · rw [if_neg same, getEntry_cons_of_ne _ same, ih]

theorem getEntry_putEntry_other {key other : κ} (differ : key ≠ other) (value : V)
    (entries : List (κ × V)) :
    getEntry other (putEntry key value entries) = getEntry other entries := by
  induction entries with
  | nil =>
      have apart : (key, value).1 ≠ other := differ
      exact getEntry_cons_of_ne [] apart
  | cons entry rest ih =>
      rw [putEntry]
      by_cases same : entry.1 = key
      · have apart : (key, value).1 ≠ other := differ
        rw [if_pos same, getEntry_cons_of_ne _ apart, getEntry_cons_of_ne _ (same ▸ differ)]
      · rw [if_neg same]
        by_cases found : entry.1 = other
        · rw [getEntry_cons_of_eq _ found, getEntry_cons_of_eq _ found]
        · rw [getEntry_cons_of_ne _ found, getEntry_cons_of_ne _ found, ih]

theorem mem_putEntry {key : κ} {value : V} {entries : List (κ × V)} {entry : κ × V}
    (member : entry ∈ putEntry key value entries) : entry = (key, value) ∨ entry ∈ entries := by
  induction entries with
  | nil => exact Or.inl (List.mem_singleton.mp member)
  | cons first rest ih =>
      rw [putEntry] at member
      split at member
      · rcases List.mem_cons.mp member with same | later
        · exact Or.inl same
        · exact Or.inr (List.mem_cons_of_mem _ later)
      · rcases List.mem_cons.mp member with same | later
        · exact Or.inr (same ▸ List.mem_cons_self)
        · exact (ih later).imp_right (List.mem_cons_of_mem _)

/-- Writing a key keeps the keys distinct. -/
theorem putEntry_nodup (key : κ) (value : V) {entries : List (κ × V)}
    (distinct : (entries.map (·.1)).Nodup) : ((putEntry key value entries).map (·.1)).Nodup := by
  induction entries with
  | nil => exact List.nodup_cons.mpr ⟨List.not_mem_nil, List.nodup_nil⟩
  | cons first rest ih =>
      obtain ⟨fresh, others⟩ := List.nodup_cons.mp distinct
      rw [putEntry]
      split
      · rename_i same
        rw [List.map_cons, List.nodup_cons, ← same]
        exact ⟨fresh, others⟩
      · rename_i differs
        rw [List.map_cons, List.nodup_cons]
        refine ⟨?_, ih others⟩
        intro member
        obtain ⟨entry, inside, sameKey⟩ := List.mem_map.mp member
        rcases mem_putEntry inside with written | old
        · rw [written] at sameKey
          exact differs sameKey.symm
        · exact fresh (List.mem_map.mpr ⟨entry, old, sameKey⟩)

theorem length_putEntry (key : κ) (value : V) (entries : List (κ × V)) :
    (putEntry key value entries).length =
      entries.length + if getEntry key entries = none then 1 else 0 := by
  induction entries with
  | nil => rfl
  | cons entry rest ih =>
      rw [putEntry]
      by_cases same : entry.1 = key
      · rw [if_pos same, getEntry_cons_of_eq rest same, if_neg (Option.some_ne_none _)]
        rfl
      · rw [if_neg same, getEntry_cons_of_ne rest same, List.length_cons, ih, List.length_cons]
        omega

/-- Among distinct keys, what is left of an entry that was kept. -/
theorem getEntry_filter (keep : κ × V → Bool) (key : κ) {entries : List (κ × V)}
    (distinct : (entries.map (·.1)).Nodup) :
    getEntry key (entries.filter keep) =
      (getEntry key entries).filter (fun value => keep (key, value)) := by
  induction entries with
  | nil => rfl
  | cons entry rest ih =>
      obtain ⟨fresh, others⟩ := List.nodup_cons.mp distinct
      by_cases same : entry.1 = key
      · have absent : getEntry key (rest.filter keep) = none := by
          rw [ih others]
          cases found : getEntry key rest with
          | none => rfl
          | some value =>
              exact absurd (List.mem_map.mpr ⟨(key, value), mem_of_getEntry found, same.symm⟩) fresh
        have whole : (key, entry.2) = entry := Prod.ext same.symm rfl
        rw [getEntry_cons_of_eq rest same, Option.filter_some, whole]
        by_cases kept : keep entry = true
        · rw [List.filter_cons_of_pos kept, getEntry_cons_of_eq _ same, if_pos kept]
        · rw [List.filter_cons_of_neg kept, absent, if_neg kept]
      · rw [getEntry_cons_of_ne rest same, ← ih others]
        by_cases kept : keep entry = true
        · rw [List.filter_cons_of_pos kept, getEntry_cons_of_ne _ same]
        · rw [List.filter_cons_of_neg kept]

section Restrict

variable {keep : κ → Bool} {key : κ} (entries : List (κ × V))

theorem getEntry_restrict (kept : keep key = true) :
    getEntry key (restrict keep entries) = getEntry key entries := by
  induction entries with
  | nil => rfl
  | cons entry rest ih =>
      by_cases same : entry.1 = key
      · rw [restrict_cons_of_keep rest (same ▸ kept), getEntry_cons_of_eq _ same,
          getEntry_cons_of_eq _ same]
      · rw [getEntry_cons_of_ne _ same]
        by_cases inside : keep entry.1 = true
        · rw [restrict_cons_of_keep rest inside, getEntry_cons_of_ne _ same, ih]
        · rw [restrict_cons_of_not rest inside, ih]

theorem getEntry_restrict_none (dropped : ¬keep key = true) :
    getEntry key (restrict keep entries) = none := by
  induction entries with
  | nil => rfl
  | cons entry rest ih =>
      by_cases inside : keep entry.1 = true
      · have apart : entry.1 ≠ key := fun same => dropped (same ▸ inside)
        rw [restrict_cons_of_keep rest inside, getEntry_cons_of_ne _ apart, ih]
      · rw [restrict_cons_of_not rest inside, ih]

theorem restrict_putEntry (kept : keep key = true) (value : V) :
    restrict keep (putEntry key value entries) = putEntry key value (restrict keep entries) := by
  induction entries with
  | nil => exact restrict_cons_of_keep [] kept
  | cons entry rest ih =>
      rw [putEntry]
      by_cases same : entry.1 = key
      · have written : restrict keep ((key, value) :: rest) = (key, value) :: restrict keep rest :=
          restrict_cons_of_keep rest kept
        rw [if_pos same, written, restrict_cons_of_keep rest (same ▸ kept), putEntry, if_pos same]
      · rw [if_neg same]
        by_cases inside : keep entry.1 = true
        · rw [restrict_cons_of_keep _ inside, restrict_cons_of_keep _ inside, putEntry,
            if_neg same, ih]
        · rw [restrict_cons_of_not _ inside, restrict_cons_of_not _ inside, ih]

theorem restrict_putEntry_other (dropped : ¬keep key = true) (value : V) :
    restrict keep (putEntry key value entries) = restrict keep entries := by
  induction entries with
  | nil => exact restrict_cons_of_not [] dropped
  | cons entry rest ih =>
      rw [putEntry]
      by_cases same : entry.1 = key
      · have written : restrict keep ((key, value) :: rest) = restrict keep rest :=
          restrict_cons_of_not rest dropped
        rw [if_pos same, written, restrict_cons_of_not rest (same ▸ dropped)]
      · rw [if_neg same]
        by_cases inside : keep entry.1 = true
        · rw [restrict_cons_of_keep _ inside, restrict_cons_of_keep _ inside, ih]
        · rw [restrict_cons_of_not _ inside, restrict_cons_of_not _ inside, ih]

theorem restrict_popEntry (kept : keep key = true) :
    restrict keep (popEntry key entries) = popEntry key (restrict keep entries) := by
  induction entries with
  | nil => rfl
  | cons entry rest ih =>
      by_cases same : entry.1 = key
      · rw [popEntry_cons_of_eq _ same, restrict_cons_of_keep rest (same ▸ kept),
          popEntry_cons_of_eq _ same]
      · rw [popEntry_cons_of_ne _ same]
        by_cases inside : keep entry.1 = true
        · rw [restrict_cons_of_keep _ inside, restrict_cons_of_keep _ inside,
            popEntry_cons_of_ne _ same, ih]
        · rw [restrict_cons_of_not _ inside, restrict_cons_of_not _ inside, ih]

theorem restrict_popEntry_other (dropped : ¬keep key = true) :
    restrict keep (popEntry key entries) = restrict keep entries := by
  induction entries with
  | nil => rfl
  | cons entry rest ih =>
      by_cases same : entry.1 = key
      · rw [popEntry_cons_of_eq _ same, restrict_cons_of_not rest (same ▸ dropped)]
      · rw [popEntry_cons_of_ne _ same]
        by_cases inside : keep entry.1 = true
        · rw [restrict_cons_of_keep _ inside, restrict_cons_of_keep _ inside, ih]
        · rw [restrict_cons_of_not _ inside, restrict_cons_of_not _ inside, ih]

end Restrict

/-! ### Deleting -/

theorem popEntry_sublist (key : κ) (entries : List (κ × V)) :
    (popEntry key entries).Sublist entries := List.eraseP_sublist

/-- Among distinct keys, one that was deleted is not there any more. -/
theorem getEntry_popEntry_self (key : κ) {entries : List (κ × V)}
    (distinct : (entries.map (·.1)).Nodup) : getEntry key (popEntry key entries) = none := by
  induction entries with
  | nil => rfl
  | cons entry rest ih =>
      obtain ⟨fresh, others⟩ := List.nodup_cons.mp distinct
      by_cases same : entry.1 = key
      · rw [popEntry_cons_of_eq _ same]
        cases found : getEntry key rest with
        | none => rfl
        | some value =>
            have member : key ∈ rest.map (·.1) := List.mem_map_of_mem (mem_of_getEntry found)
            rw [← same] at member
            exact absurd member fresh
      · rw [popEntry_cons_of_ne _ same, getEntry_cons_of_ne _ same, ih others]

theorem getEntry_popEntry_other {key other : κ} (differ : key ≠ other) (entries : List (κ × V)) :
    getEntry other (popEntry key entries) = getEntry other entries := by
  induction entries with
  | nil => rfl
  | cons entry rest ih =>
      by_cases same : entry.1 = key
      · rw [popEntry_cons_of_eq _ same, getEntry_cons_of_ne _ (same ▸ differ)]
      · rw [popEntry_cons_of_ne _ same]
        by_cases found : entry.1 = other
        · rw [getEntry_cons_of_eq _ found, getEntry_cons_of_eq _ found]
        · rw [getEntry_cons_of_ne _ found, getEntry_cons_of_ne _ found, ih]

/-- `for key in keys: del entries[key]` -/
def deleteAll (keys : List κ) (entries : List (κ × V)) : List (κ × V) :=
  keys.foldl (fun left key => popEntry key left) entries

/-- Among distinct keys, deleting one leaves the others. -/
theorem popEntry_eq_filter (key : κ) {entries : List (κ × V)}
    (distinct : (entries.map (·.1)).Nodup) :
    popEntry key entries = entries.filter (fun entry => entry.1 ≠ key) := by
  induction entries with
  | nil => rfl
  | cons entry rest ih =>
      obtain ⟨fresh, others⟩ := List.nodup_cons.mp distinct
      by_cases same : entry.1 = key
      · have kept : rest.filter (fun other => other.1 ≠ key) = rest := by
          apply List.filter_eq_self.mpr
          intro other member
          apply decide_eq_true
          intro again
          exact fresh (List.mem_map.mpr ⟨other, member, again.trans same.symm⟩)
        rw [popEntry_cons_of_eq _ same, List.filter_cons_of_neg (by simp [same]), kept]
      · rw [popEntry_cons_of_ne _ same, List.filter_cons_of_pos (by simp [same]), ih others]

theorem deleteAll_eq_filter (keys : List κ) {entries : List (κ × V)}
    (distinct : (entries.map (·.1)).Nodup) :
    deleteAll keys entries = entries.filter (fun entry => entry.1 ∉ keys) := by
  induction keys generalizing entries with
  | nil => exact (List.filter_eq_self.mpr (fun _ _ => decide_eq_true List.not_mem_nil)).symm
  | cons key rest ih =>
      have left : ((popEntry key entries).map (·.1)).Nodup :=
        ((popEntry_sublist key entries).map _).nodup distinct
      change deleteAll rest (popEntry key entries) = _
      rw [ih left, popEntry_eq_filter key distinct, List.filter_filter]
      apply List.filter_congr
      intro entry _
      simp [Bool.and_comm]

/-- Deleting the keys of some entries leaves the other entries. -/
theorem deleteAll_keys (drop : κ × V → Bool) {entries : List (κ × V)}
    (distinct : (entries.map (·.1)).Nodup) :
    deleteAll ((entries.filter drop).map (·.1)) entries =
      entries.filter (fun entry => !drop entry) := by
  rw [deleteAll_eq_filter _ distinct]
  apply List.filter_congr
  intro entry member
  have deleted : entry.1 ∈ (entries.filter drop).map (·.1) ↔ drop entry = true := by
    constructor
    · intro inside
      obtain ⟨other, kept, same⟩ := List.mem_map.mp inside
      obtain ⟨there, dropped⟩ := List.mem_filter.mp kept
      rw [List.inj_on_of_nodup_map distinct member there same.symm]
      exact dropped
    · intro dropped
      exact List.mem_map_of_mem (List.mem_filter.mpr ⟨member, dropped⟩)
  cases dropped : drop entry <;> simp [deleted, dropped]

/-! ### Other keys -/

section Rename

variable {κ' : Type} [DecidableEq κ'] {rename : κ → κ'}

/-- The entries under other keys. -/
def renameKeys (rename : κ → κ') (entries : List (κ × V)) : List (κ' × V) :=
  entries.map (fun entry => (rename entry.1, entry.2))

theorem getEntry_renameKeys (distinct : Function.Injective rename) (key : κ)
    (entries : List (κ × V)) :
    getEntry (rename key) (renameKeys rename entries) = getEntry key entries := by
  induction entries with
  | nil => rfl
  | cons entry rest ih =>
      change getEntry (rename key) ((rename entry.1, entry.2) :: renameKeys rename rest) = _
      by_cases same : entry.1 = key
      · have renamed : (rename entry.1, entry.2).1 = rename key := congrArg rename same
        rw [getEntry_cons_of_eq _ same, getEntry_cons_of_eq _ renamed]
      · have renamed : (rename entry.1, entry.2).1 ≠ rename key := fun again =>
          same (distinct again)
        rw [getEntry_cons_of_ne _ same, getEntry_cons_of_ne _ renamed, ih]

theorem putEntry_renameKeys (distinct : Function.Injective rename) (key : κ) (value : V)
    (entries : List (κ × V)) :
    putEntry (rename key) value (renameKeys rename entries) =
      renameKeys rename (putEntry key value entries) := by
  induction entries with
  | nil => rfl
  | cons entry rest ih =>
      change putEntry (rename key) value ((rename entry.1, entry.2) :: renameKeys rename rest) = _
      rw [putEntry, putEntry]
      by_cases same : entry.1 = key
      · rw [if_pos same, if_pos (congrArg rename same)]
        rfl
      · rw [if_neg same, if_neg (fun again => same (distinct again)), ih]
        rfl

omit [DecidableEq κ] [DecidableEq κ'] in
theorem filter_renameKeys (keep : κ × V → Bool) (keep' : κ' × V → Bool)
    (same : ∀ entry, keep' (rename entry.1, entry.2) = keep entry) (entries : List (κ × V)) :
    (renameKeys rename entries).filter keep' = renameKeys rename (entries.filter keep) := by
  unfold renameKeys
  rw [List.filter_map]
  congr 1
  exact List.filter_congr (fun entry _ => same entry)

end Rename

/-! ### Counters -/

/-- The sum of the counters. -/
def total : List (κ × Nat) → Nat
  | [] => 0
  | entry :: rest => entry.2 + total rest

omit [DecidableEq κ] in
theorem total_cons (entry : κ × Nat) (rest : List (κ × Nat)) :
    total (entry :: rest) = entry.2 + total rest := rfl

theorem total_putEntry (key : κ) (value : Nat) (entries : List (κ × Nat)) :
    total (putEntry key value entries) + (getEntry key entries).getD 0 = total entries + value := by
  induction entries with
  | nil =>
      change value + 0 + 0 = 0 + value
      omega
  | cons entry rest ih =>
      rw [putEntry]
      by_cases same : entry.1 = key
      · rw [if_pos same, getEntry_cons_of_eq _ same, total_cons, total_cons, Option.getD_some]
        omega
      · rw [if_neg same, getEntry_cons_of_ne _ same, total_cons, total_cons]
        omega

theorem total_popEntry (key : κ) (entries : List (κ × Nat)) :
    total (popEntry key entries) + (getEntry key entries).getD 0 = total entries := by
  induction entries with
  | nil => rfl
  | cons entry rest ih =>
      by_cases same : entry.1 = key
      · rw [popEntry_cons_of_eq _ same, getEntry_cons_of_eq _ same, total_cons, Option.getD_some]
        omega
      · rw [popEntry_cons_of_ne _ same, getEntry_cons_of_ne _ same, total_cons, total_cons]
        omega

omit [DecidableEq κ] in
theorem total_restrict_le (keep : κ → Bool) (entries : List (κ × Nat)) :
    total (restrict keep entries) ≤ total entries := by
  induction entries with
  | nil => exact Nat.le_refl _
  | cons entry rest ih =>
      rw [total_cons]
      by_cases inside : keep entry.1 = true
      · rw [restrict_cons_of_keep _ inside, total_cons]
        omega
      · rw [restrict_cons_of_not _ inside]
        omega

end FolioLattice.Relational
