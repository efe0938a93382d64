/-
Threads that take atomic steps on one shared state, in any order.

A thread's step sees the shared state and its own local state.  The rules below
lift facts about one step to every interleaving: facts about the shared state,
facts about one thread that other threads' steps respect, and facts about two
threads.
-/

import Mathlib.Logic.Function.Basic
import Mathlib.Logic.Relation

namespace FolioLattice.Concurrency

variable {ι σ ℓ : Type}

structure Config (ι σ ℓ : Type) where
  shared : σ
  threads : ι → ℓ

/-- One step taken: by whom, and the shared state around it. -/
structure Event (ι σ : Type) where
  thread : ι
  before : σ
  after : σ

/-- A thread's step, from a shared and a local state to the next ones. -/
abbrev ThreadStep (σ ℓ : Type) := σ → ℓ → σ → ℓ → Prop

/-- The runs from `start`, with the events taken so far. -/
inductive Run [DecidableEq ι] (step : ThreadStep σ ℓ) (start : Config ι σ ℓ) :
    List (Event ι σ) → Config ι σ ℓ → Prop where
  | start : Run step start [] start
  | next {events : List (Event ι σ)} {config : Config ι σ ℓ} (run : Run step start events config)
      {i : ι} {shared : σ} {thread : ℓ}
      (taken : step config.shared (config.threads i) shared thread) :
      Run step start (events ++ [⟨i, config.shared, shared⟩])
        ⟨shared, Function.update config.threads i thread⟩

variable [DecidableEq ι] {step : ThreadStep σ ℓ} {start config : Config ι σ ℓ}
  {events : List (Event ι σ)}

theorem Run.append {mid : Config ι σ ℓ} {earlier later : List (Event ι σ)}
    (first : Run step start earlier mid) (second : Run step mid later config) :
    Run step start (earlier ++ later) config := by
  induction second with
  | start =>
      rw [List.append_nil]
      exact first
  | next _ taken ih =>
      rw [← List.append_assoc]
      exact ih.next taken

theorem Run.mono {step' : ThreadStep σ ℓ} (more : ∀ s l s' l', step s l s' l' → step' s l s' l')
    (run : Run step start events config) : Run step' start events config := by
  induction run with
  | start => exact .start
  | next _ taken ih => exact ih.next (more _ _ _ _ taken)

/-- What every step preserves holds of the shared state throughout. -/
theorem Run.shared {P : σ → Prop}
    (kept : ∀ s l s' l', P s → step s l s' l' → P s')
    (run : Run step start events config) (initial : P start.shared) : P config.shared := by
  induction run with
  | start => exact initial
  | next _ taken ih => exact kept _ _ _ _ ih taken

/-- What one thread's own steps keep of its local state. -/
theorem Run.own {P : σ → Prop} {L : ℓ → Prop}
    (kept : ∀ s l s' l', P s → step s l s' l' → P s')
    (own : ∀ s l s' l', P s → L l → step s l s' l' → L l')
    (run : Run step start events config) (initial : P start.shared) {i : ι}
    (initialThread : L (start.threads i)) : L (config.threads i) := by
  induction run with
  | start => exact initialThread
  | @next events config run j shared thread taken ih =>
      change L (Function.update config.threads j thread i)
      by_cases same : i = j
      · subst same
        rw [Function.update_self]
        exact own _ _ _ _ (run.shared kept initial) ih taken
      · rw [Function.update_of_ne same]
        exact ih

/-- A thread's own steps establish `L`, and whatever another thread's step does
to the shared state (`G`) leaves `L` alone. -/
theorem Run.thread {P : σ → Prop} {G : σ → σ → Prop} {L : σ → ℓ → Prop}
    (kept : ∀ s l s' l', P s → step s l s' l' → P s')
    (guarantee : ∀ s l s' l', P s → L s l → step s l s' l' → G s s' ∧ L s' l')
    (stable : ∀ s s' l, P s → G s s' → L s l → L s' l)
    (run : Run step start events config) (initial : P start.shared)
    (initialThreads : ∀ i, L start.shared (start.threads i)) :
    ∀ i, L config.shared (config.threads i) := by
  induction run with
  | start => exact initialThreads
  | @next events config run i shared thread taken ih =>
      have invariant := run.shared kept initial
      obtain ⟨effect, own⟩ := guarantee _ _ _ _ invariant (ih i) taken
      intro j
      change L shared (Function.update config.threads i thread j)
      by_cases same : j = i
      · subst same
        rw [Function.update_self]
        exact own
      · rw [Function.update_of_ne same]
        exact stable _ _ _ invariant effect (ih j)

/-- A relation between any two threads: the step of either one keeps it. -/
theorem Run.pairwise {P : σ → Prop} {L : σ → ℓ → Prop} {R : ℓ → ℓ → Prop}
    (symmetric : ∀ {l m}, R l m → R m l)
    (kept : ∀ s l s' l' m, P s → L s l → L s m → R l m → step s l s' l' → R l' m)
    (run : Run step start events config)
    (invariant : ∀ {events config}, Run step start events config →
      P config.shared ∧ ∀ i, L config.shared (config.threads i))
    (initial : ∀ i j, i ≠ j → R (start.threads i) (start.threads j)) :
    ∀ i j, i ≠ j → R (config.threads i) (config.threads j) := by
  induction run with
  | start => exact initial
  | @next events config run i shared thread taken ih =>
      obtain ⟨holds, threads⟩ := invariant run
      intro j k distinct
      change R (Function.update config.threads i thread j) (Function.update config.threads i thread k)
      by_cases first : j = i
      · subst first
        rw [Function.update_self, Function.update_of_ne (Ne.symm distinct)]
        exact kept _ _ _ _ _ holds (threads j) (threads k) (ih j k distinct) taken
      · rw [Function.update_of_ne first]
        by_cases second : k = i
        · subst second
          rw [Function.update_self]
          exact symmetric (kept _ _ _ _ _ holds (threads k) (threads j)
            (ih k j (Ne.symm distinct)) taken)
        · rw [Function.update_of_ne second]
          exact ih j k distinct

/-- What is known of every thread throughout may be used in every step. -/
theorem Run.knowing {K : σ → ℓ → Prop}
    (known : ∀ {events config}, Run step start events config →
      ∀ i, K config.shared (config.threads i))
    (run : Run step start events config) :
    Run (fun s l s' l' => step s l s' l' ∧ K s l) start events config := by
  induction run with
  | start => exact .start
  | next run taken ih => exact ih.next ⟨taken, known run _⟩

/-- What the shared state holds was put there by a thread that still tells of it. -/
theorem Run.provenance {β : Type} {H : σ → β → Prop} {S : ℓ → β → Prop}
    (stays : ∀ s l s' l' b, step s l s' l' → S l b → S l' b)
    (enters : ∀ s l s' l' b, step s l s' l' → H s' b → H s b ∨ S l' b)
    (run : Run step start events config) (empty : ∀ b, ¬H start.shared b) {b : β}
    (held : H config.shared b) : ∃ i, S (config.threads i) b := by
  induction run with
  | start => exact absurd held (empty b)
  | @next events config run i shared thread taken ih =>
      rcases enters _ _ _ _ b taken held with earlier | here
      · obtain ⟨j, told⟩ := ih earlier
        refine ⟨j, ?_⟩
        change S (Function.update config.threads i thread j) b
        by_cases same : j = i
        · subst same
          rw [Function.update_self]
          exact stays _ _ _ _ b taken told
        · rw [Function.update_of_ne same]
          exact told
      · refine ⟨i, ?_⟩
        change S (Function.update config.threads i thread i) b
        rw [Function.update_self]
        exact here

/-- The steps of one thread after another, while the others stand still. -/
theorem Run.solo {i : ι} {s : σ} {l : ℓ}
    (path : Relation.ReflTransGen (fun x y : σ × ℓ => step x.1 x.2 y.1 y.2)
      (start.shared, start.threads i) (s, l)) :
    ∃ events, Run step start events ⟨s, Function.update start.threads i l⟩ := by
  suffices reaches : ∀ x : σ × ℓ, Relation.ReflTransGen
      (fun x y : σ × ℓ => step x.1 x.2 y.1 y.2) (start.shared, start.threads i) x →
        ∃ events, Run step start events ⟨x.1, Function.update start.threads i x.2⟩ from
    reaches (s, l) path
  intro x path
  induction path with
  | refl =>
      refine ⟨[], ?_⟩
      rw [Function.update_eq_self]
      exact .start
  | @tail y z _ taken ih =>
      obtain ⟨events, run⟩ := ih
      have here : step (⟨y.1, Function.update start.threads i y.2⟩ : Config ι σ ℓ).shared
          ((⟨y.1, Function.update start.threads i y.2⟩ : Config ι σ ℓ).threads i) z.1 z.2 := by
        change step y.1 (Function.update start.threads i y.2 i) z.1 z.2
        rw [Function.update_self]
        exact taken
      have next := run.next here
      rw [Function.update_idem] at next
      exact ⟨_, next⟩

/-- A lock on a part of the shared state, its `view`: it is taken when it is free,
and while it is held nobody else lets it go or changes the view. -/
structure Lock {τ : Type} (step : ThreadStep σ ℓ) (locked : σ → Prop) (holds : ℓ → Prop)
    (view : σ → τ) : Prop where
  taken : ∀ s l s' l', step s l s' l' → ¬holds l → holds l' → ¬locked s
  held : ∀ s l s' l', step s l s' l' → locked s → holds l' → locked s'
  shut : ∀ s l s' l', step s l s' l' → ¬holds l → holds l' → locked s'
  others : ∀ s l s' l', step s l s' l' → ¬holds l → locked s → locked s'
  guarded : ∀ s l s' l', step s l s' l' → ¬holds l → view s' = view s

/-- The holder is the only one, and what it knows of the view stays true until its
own next step. -/
theorem Run.locked {τ : Type} {locked : σ → Prop} {holds : ℓ → Prop} {view : σ → τ}
    {L : τ → ℓ → Prop} (lock : Lock step locked holds view)
    (own : ∀ s l s' l', (holds l → locked s ∧ L (view s) l) → step s l s' l' → holds l' →
      L (view s') l')
    (run : Run step start events config) (initial : ∀ i, ¬holds (start.threads i)) :
    (∀ i, holds (config.threads i) →
      locked config.shared ∧ L (view config.shared) (config.threads i)) ∧
      ∀ i j, holds (config.threads i) → holds (config.threads j) → i = j := by
  induction run with
  | start => exact ⟨fun i held => absurd held (initial i), fun i _ held => absurd held (initial i)⟩
  | @next events config run i shared thread taken ih =>
      obtain ⟨known, alone⟩ := ih
      -- whoever else holds the lock held it before this step, so the step is not the holder's
      have bystander : ∀ j, j ≠ i → holds (config.threads j) →
          ¬holds (config.threads i) ∧ ¬holds thread := by
        intro j different held
        have idle : ¬holds (config.threads i) := fun also => different (alone j i held also)
        exact ⟨idle, fun now => lock.taken _ _ _ _ taken idle now (known j held).1⟩
      constructor
      · intro j held
        change holds (Function.update config.threads i thread j) at held
        change locked shared ∧ L (view shared) (Function.update config.threads i thread j)
        by_cases same : j = i
        · subst same
          rw [Function.update_self] at held ⊢
          refine ⟨?_, own _ _ _ _ (known j) taken held⟩
          by_cases before : holds (config.threads j)
          · exact lock.held _ _ _ _ taken (known j before).1 held
          · exact lock.shut _ _ _ _ taken before held
        · rw [Function.update_of_ne same] at held ⊢
          obtain ⟨idle, _⟩ := bystander j same held
          rw [lock.guarded _ _ _ _ taken idle]
          exact ⟨lock.others _ _ _ _ taken idle (known j held).1, (known j held).2⟩
      · intro j k first second
        change holds (Function.update config.threads i thread j) at first
        change holds (Function.update config.threads i thread k) at second
        by_cases isFirst : j = i
        · subst isFirst
          by_cases isSecond : k = j
          · exact isSecond.symm
          · rw [Function.update_self] at first
            rw [Function.update_of_ne isSecond] at second
            exact absurd first (bystander k isSecond second).2
        · rw [Function.update_of_ne isFirst] at first
          by_cases isSecond : k = i
          · subst isSecond
            rw [Function.update_self] at second
            exact absurd second (bystander j isFirst first).2
          · rw [Function.update_of_ne isSecond] at second
            exact alone j k first second

/-- What a thread's local state says of the steps the thread has taken.  Only its
own step adds to them. -/
theorem Run.history {P : σ → Prop} {L : σ → ℓ → Prop} {H : List (Event ι σ) → ℓ → Prop}
    (invariant : ∀ {events config}, Run step start events config →
      P config.shared ∧ ∀ i, L config.shared (config.threads i))
    (kept : ∀ s l s' l' i own, P s → L s l → H own l → step s l s' l' →
      H (own ++ [⟨i, s, s'⟩]) l')
    (run : Run step start events config) (initial : ∀ i, H [] (start.threads i)) :
    ∀ i, H (events.filter (fun e => e.thread = i)) (config.threads i) := by
  induction run with
  | start => exact initial
  | @next events config run i shared thread taken ih =>
      obtain ⟨holds, threads⟩ := invariant run
      intro j
      rw [List.filter_append]
      by_cases same : j = i
      · subst same
        have own : [(⟨j, config.shared, shared⟩ : Event ι σ)].filter (fun e => e.thread = j) =
            [⟨j, config.shared, shared⟩] := by
          simp
        change H (events.filter (fun e => e.thread = j) ++ _)
          (Function.update config.threads j thread j)
        rw [own, Function.update_self]
        exact kept _ _ _ _ _ _ holds (threads j) (ih j) taken
      · have other : [(⟨i, config.shared, shared⟩ : Event ι σ)].filter (fun e => e.thread = j) =
            [] := by
          simp [Ne.symm same]
        change H (events.filter (fun e => e.thread = j) ++ _)
          (Function.update config.threads i thread j)
        rw [other, List.append_nil, Function.update_of_ne same]
        exact ih j

end FolioLattice.Concurrency
