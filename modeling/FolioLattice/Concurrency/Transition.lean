/-
Systems of states and labelled steps, and the rules that lift facts about one
step to whole traces.
-/

import Mathlib.Order.Defs.Unbundled

namespace FolioLattice.Concurrency

variable {σ ε α : Type}

/-- A step of the whole system: from a state, under a label, to the next state. -/
abbrev Transition (σ ε : Type) := σ → ε → σ → Prop

/-- The traces from `start`: every label taken with the state it was taken in. -/
inductive Trace (step : Transition σ ε) (start : σ) : List (σ × ε) → σ → Prop where
  | start : Trace step start [] start
  | next {past : List (σ × ε)} {s s' : σ} {e : ε} (trace : Trace step start past s)
      (taken : step s e s') : Trace step start (past ++ [(s, e)]) s'

variable {step : Transition σ ε} {start s : σ} {past : List (σ × ε)}

/-- What every step preserves holds at the end of every trace. -/
theorem Trace.invariant {P : σ → Prop} (trace : Trace step start past s)
    (kept : ∀ s e s', P s → step s e s' → P s') (initial : P start) : P s := by
  induction trace with
  | start => exact initial
  | next _ taken ih => exact kept _ _ _ ih taken

/-- What every step may do to a state, a trace may do. -/
theorem Trace.preorder {P : σ → Prop} {R : σ → σ → Prop} (trace : Trace step start past s)
    (refl : ∀ s, R s s) (trans : ∀ s s' s'', R s s' → R s' s'' → R s s'')
    (kept : ∀ s e s', P s → step s e s' → P s')
    (moved : ∀ s e s', P s → step s e s' → R s s') (initial : P start) : R start s := by
  induction trace with
  | start => exact refl start
  | next earlier taken ih =>
      exact trans _ _ _ ih (moved _ _ _ (earlier.invariant kept initial) taken)

theorem Trace.append {mid : σ} {earlier later : List (σ × ε)} (first : Trace step start earlier mid)
    (second : Trace step mid later s) : Trace step start (earlier ++ later) s := by
  induction second with
  | start =>
      rw [List.append_nil]
      exact first
  | next _ taken ih =>
      rw [← List.append_assoc]
      exact ih.next taken

/-- A trace passes through the state at the end of each of its beginnings. -/
theorem Trace.split {earlier later : List (σ × ε)}
    (trace : Trace step start (earlier ++ later) s) :
    ∃ mid, Trace step start earlier mid ∧ Trace step mid later s := by
  generalize whole : earlier ++ later = all at trace
  induction trace generalizing later with
  | start =>
      obtain ⟨nothing, nothing'⟩ := List.append_eq_nil_iff.mp whole
      subst nothing nothing'
      exact ⟨start, .start, .start⟩
  | @next past s s' e trace taken ih =>
      rcases List.eq_nil_or_concat later with nothing | ⟨init, last, same⟩
      · subst nothing
        rw [List.append_nil] at whole
        subst whole
        exact ⟨s', trace.next taken, .start⟩
      · subst same
        rw [List.concat_eq_append, ← List.append_assoc] at whole
        obtain ⟨same, sameLast⟩ := List.append_inj' whole rfl
        obtain ⟨mid, before, after⟩ := ih same
        rw [List.cons.inj sameLast |>.1, List.concat_eq_append]
        exact ⟨mid, before, after.next taken⟩

theorem Trace.of_nil (trace : Trace step start [] s) : s = start := by
  generalize whole : ([] : List (σ × ε)) = past at trace
  cases trace with
  | start => rfl
  | next _ _ => exact absurd whole.symm (by simp)

/-- The first step of a trace. -/
theorem Trace.head {first : σ × ε} {rest : List (σ × ε)}
    (trace : Trace step start (first :: rest) s) :
    first.1 = start ∧ ∃ next, step start first.2 next ∧ Trace step next rest s := by
  have whole : Trace step start ([first] ++ rest) s := trace
  obtain ⟨mid, before, after⟩ := whole.split
  generalize whole : [first] = past at before
  cases before with
  | start => cases whole
  | @next past s₁ s₂ e earlier taken =>
      rcases List.append_eq_singleton_iff.mp whole.symm with ⟨nothing, last⟩ | ⟨_, impossible⟩
      · subst nothing
        cases List.cons.inj last |>.1
        rw [earlier.of_nil] at taken ⊢
        exact ⟨rfl, _, taken, after⟩
      · cases impossible

/-- Every label of a trace was taken in the state it stands with. -/
theorem Trace.taken {moment : σ × ε} (trace : Trace step start past s) (member : moment ∈ past) :
    ∃ next, step moment.1 moment.2 next := by
  induction trace with
  | start => cases member
  | next _ taken ih =>
      rcases List.mem_append.mp member with earlier | last
      · exact ih earlier
      · rw [List.mem_singleton.mp last]
        exact ⟨_, taken⟩

/-- The abstract state that a trace computes, label by label. -/
def replay (next : σ → ε → α → α) (initial : α) (past : List (σ × ε)) : α :=
  past.foldl (fun a moment => next moment.1 moment.2 a) initial

theorem replay_append (next : σ → ε → α → α) (initial : α) (past : List (σ × ε))
    (s : σ) (e : ε) :
    replay next initial (past ++ [(s, e)]) = next s e (replay next initial past) := by
  unfold replay
  rw [List.foldl_append]
  rfl

/-- A relation to an abstract machine that every step keeps holds throughout:
the system simulates the machine. -/
theorem Trace.simulates {P : σ → Prop} {R : σ → α → Prop} {next : σ → ε → α → α} {initial : α}
    (trace : Trace step start past s) (kept : ∀ s e s', P s → step s e s' → P s')
    (related : ∀ s e s' a, P s → R s a → step s e s' → R s' (next s e a))
    (invariant : P start) (first : R start initial) : R s (replay next initial past) := by
  induction trace with
  | start => exact first
  | @next past s s' e trace taken ih =>
      rw [replay_append]
      exact related _ _ _ _ (trace.invariant kept invariant) ih taken

end FolioLattice.Concurrency
