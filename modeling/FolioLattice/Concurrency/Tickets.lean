/-
Tickets: one thread puts a ticket into the shared state and another one takes it out.

Every ticket that was taken can be traced to the thread that issued it, and no two
threads that took one are traced to the same issue, whatever the order of the steps.
-/

import FolioLattice.Concurrency.Interleaving

namespace FolioLattice.Concurrency

variable {ι σ ℓ α : Type}

/-- What is read of a system with tickets: which the state holds, which a thread has
issued and which it has taken. -/
structure TicketView (σ ℓ α : Type) where
  held : σ → α → Prop
  issued : ℓ → Option α
  taken : ℓ → Option α

/-- What one step does to the tickets.  Tickets may get lost, and so may the memory of
having taken one. -/
inductive TicketMove (view : TicketView σ ℓ α) (s : σ) (l : ℓ) (s' : σ) (l' : ℓ) : Prop where
  | kept (fewer : ∀ x, view.held s' x → view.held s x) (issuer : view.issued l' = view.issued l)
      (taker : view.taken l' = none ∨ view.taken l' = view.taken l)
  | issue (x : α) (more : ∀ y, view.held s' y → view.held s y ∨ y = x)
      (before : view.issued l = none) (now : view.issued l' = some x)
      (taker : view.taken l' = none)
  | take (x : α) (found : view.held s x) (gone : ¬view.held s' x)
      (fewer : ∀ y, view.held s' y → view.held s y) (issuer : view.issued l' = view.issued l)
      (now : view.taken l' = some x)

/-- Where the tickets of a configuration come from: those that were taken from the issues
of `origin`, those that are held from others. -/
structure Traced (view : TicketView σ ℓ α) (config : Config ι σ ℓ) (origin : ι → ι) : Prop where
  issued : ∀ i x, view.taken (config.threads i) = some x →
    view.issued (config.threads (origin i)) = some x
  once : ∀ i j, (view.taken (config.threads i)).isSome = true →
    (view.taken (config.threads j)).isSome = true → origin i = origin j → i = j
  held : ∀ x, view.held config.shared x → ∃ owner, view.issued (config.threads owner) = some x ∧
    ∀ i, (view.taken (config.threads i)).isSome = true → origin i ≠ owner

variable [DecidableEq ι] {view : TicketView σ ℓ α} {config : Config ι σ ℓ} {origin : ι → ι}
  {i : ι} {s : σ} {l : ℓ}

theorem issued_update (same : view.issued (config.threads i) = none ∨
      view.issued l = view.issued (config.threads i)) {j : ι} {x : α}
    (issued : view.issued (config.threads j) = some x) :
    view.issued (Function.update config.threads i l j) = some x := by
  by_cases own : j = i
  · subst own
    rw [Function.update_self]
    rcases same with none | same
    · rw [none] at issued
      cases issued
    · exact same.trans issued
  · rw [Function.update_of_ne own]
    exact issued

/-- Where a step takes no ticket, every one that is taken after it was taken before. -/
theorem taken_update (same : view.taken l = none ∨ view.taken l = view.taken (config.threads i))
    {j : ι} {x : α} (taken : view.taken (Function.update config.threads i l j) = some x) :
    view.taken (config.threads j) = some x := by
  by_cases own : j = i
  · subst own
    rw [Function.update_self] at taken
    rcases same with none | same
    · rw [none] at taken
      cases taken
    · exact same.symm.trans taken
  · rwa [Function.update_of_ne own] at taken

theorem isSome_update (same : view.taken l = none ∨ view.taken l = view.taken (config.threads i))
    {j : ι} (taken : (view.taken (Function.update config.threads i l j)).isSome = true) :
    (view.taken (config.threads j)).isSome = true := by
  obtain ⟨x, isTaken⟩ := Option.isSome_iff_exists.mp taken
  rw [taken_update same isTaken]
  rfl

theorem Traced.kept (traced : Traced view config origin)
    (fewer : ∀ x, view.held s x → view.held config.shared x)
    (issuer : view.issued l = view.issued (config.threads i))
    (taker : view.taken l = none ∨ view.taken l = view.taken (config.threads i)) :
    Traced view ⟨s, Function.update config.threads i l⟩ origin where
  issued j x taken :=
    issued_update (Or.inr issuer) (traced.issued j x (taken_update taker taken))
  once j k first second := traced.once j k (isSome_update taker first) (isSome_update taker second)
  held x inside := by
    obtain ⟨owner, issued, apart⟩ := traced.held x (fewer x inside)
    exact ⟨owner, issued_update (Or.inr issuer) issued,
      fun j taken => apart j (isSome_update taker taken)⟩

theorem Traced.issue (traced : Traced view config origin) {x : α}
    (more : ∀ y, view.held s y → view.held config.shared y ∨ y = x)
    (before : view.issued (config.threads i) = none) (now : view.issued l = some x)
    (taker : view.taken l = none) :
    Traced view ⟨s, Function.update config.threads i l⟩ origin where
  issued j y taken :=
    issued_update (Or.inl before) (traced.issued j y (taken_update (Or.inl taker) taken))
  once j k first second :=
    traced.once j k (isSome_update (Or.inl taker) first) (isSome_update (Or.inl taker) second)
  held y inside := by
    rcases more y inside with earlier | same
    · obtain ⟨owner, issued, apart⟩ := traced.held y earlier
      exact ⟨owner, issued_update (Or.inl before) issued,
        fun j taken => apart j (isSome_update (Or.inl taker) taken)⟩
    · subst same
      refine ⟨i, ?_, ?_⟩
      · change view.issued (Function.update config.threads i l i) = some y
        rw [Function.update_self]
        exact now
      · -- the thread had issued nothing, so nothing was traced to it
        intro j taken here
        obtain ⟨z, isTaken⟩ := Option.isSome_iff_exists.mp (isSome_update (Or.inl taker) taken)
        have issued := traced.issued j z isTaken
        rw [here, before] at issued
        cases issued

theorem Traced.take (traced : Traced view config origin) {x : α}
    (found : view.held config.shared x) (gone : ¬view.held s x)
    (fewer : ∀ y, view.held s y → view.held config.shared y)
    (issuer : view.issued l = view.issued (config.threads i)) (now : view.taken l = some x) :
    ∃ origin', Traced view ⟨s, Function.update config.threads i l⟩ origin' := by
  obtain ⟨owner, owned, apart⟩ := traced.held x found
  -- the taker's own entry is the only one that changes
  have earlier : ∀ j, j ≠ i → (view.taken (Function.update config.threads i l j)).isSome = true →
      (view.taken (config.threads j)).isSome = true := by
    intro j different taken
    rwa [Function.update_of_ne different] at taken
  refine ⟨Function.update origin i owner, ?_, ?_, ?_⟩
  · intro j y taken
    change view.taken (Function.update config.threads i l j) = some y at taken
    by_cases own : j = i
    · subst own
      rw [Function.update_self, now] at taken
      rw [Function.update_self, ← taken]
      exact issued_update (Or.inr issuer) owned
    · rw [Function.update_of_ne own] at taken ⊢
      exact issued_update (Or.inr issuer) (traced.issued j y taken)
  · intro j k first second same
    by_cases isFirst : j = i
    · by_cases isSecond : k = i
      · rw [isFirst, isSecond]
      · subst isFirst
        rw [Function.update_of_ne isSecond, Function.update_self] at same
        exact absurd same.symm (apart k (earlier k isSecond second))
    · by_cases isSecond : k = i
      · subst isSecond
        rw [Function.update_of_ne isFirst, Function.update_self] at same
        exact absurd same (apart j (earlier j isFirst first))
      · rw [Function.update_of_ne isFirst, Function.update_of_ne isSecond] at same
        exact traced.once j k (earlier j isFirst first) (earlier k isSecond second) same
  · intro y inside
    obtain ⟨other, issued, distinct⟩ := traced.held y (fewer y inside)
    refine ⟨other, issued_update (Or.inr issuer) issued, ?_⟩
    intro j taken
    by_cases own : j = i
    · subst own
      rw [Function.update_self]
      -- one thread issues one ticket, and this one is held no more
      intro same
      subst same
      rw [issued] at owned
      cases owned
      exact gone inside
    · rw [Function.update_of_ne own]
      exact distinct j (earlier j own taken)

/-- In every run there is an injective assignment of the threads that took a ticket to the
threads that issued it. -/
theorem Run.tickets {step : ThreadStep σ ℓ} {start : Config ι σ ℓ} {events : List (Event ι σ)}
    (moves : ∀ s l s' l', step s l s' l' → TicketMove view s l s' l')
    (run : Run step start events config) (empty : ∀ x, ¬view.held start.shared x)
    (untaken : ∀ i, view.taken (start.threads i) = none) :
    ∃ origin : ι → ι,
      (∀ i x, view.taken (config.threads i) = some x →
        view.issued (config.threads (origin i)) = some x) ∧
      ∀ i j, (view.taken (config.threads i)).isSome = true →
        (view.taken (config.threads j)).isSome = true → origin i = origin j → i = j := by
  suffices traced : ∃ origin, Traced view config origin by
    obtain ⟨origin, traced⟩ := traced
    exact ⟨origin, traced.issued, traced.once⟩
  induction run with
  | start =>
      have nobody : ∀ i, ¬(view.taken (start.threads i)).isSome = true := by
        intro i isSome
        rw [untaken i] at isSome
        cases isSome
      refine ⟨id, ?_, fun i _ first => absurd first (nobody i), fun x held => absurd held (empty x)⟩
      intro i x taken
      rw [untaken i] at taken
      cases taken
  | next run taken ih =>
      obtain ⟨origin, traced⟩ := ih
      cases moves _ _ _ _ taken with
      | kept fewer issuer taker => exact ⟨origin, traced.kept fewer issuer taker⟩
      | issue x more before now taker => exact ⟨origin, traced.issue more before now taker⟩
      | take x found gone fewer issuer now => exact traced.take found gone fewer issuer now

end FolioLattice.Concurrency
