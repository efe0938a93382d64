/-
Programs that change a state and may fail.

A failure keeps the state it happened in, so that a handler goes on from there.
The rules say what a program leaves behind, one postcondition for its returns and
one for its failures.
-/

import Mathlib.Logic.Basic

namespace FolioLattice.Effects

variable {σ ε δ α β : Type}

/-- From a state to the result and the state that is left. -/
def Script (σ ε α : Type) := σ → Except ε α × σ

namespace Script

protected def pure (value : α) : Script σ ε α := fun s => (.ok value, s)

protected def bind (first : Script σ ε α) (next : α → Script σ ε β) : Script σ ε β := fun s =>
  match first s with
  | (.ok value, s') => next value s'
  | (.error error, s') => (.error error, s')

instance monad : Monad (Script σ ε) where
  pure := Script.pure
  bind := Script.bind

def fail (error : ε) : Script σ ε α := fun s => (.error error, s)

def get : Script σ ε σ := fun s => (.ok s, s)

def modify (change : σ → σ) : Script σ ε Unit := fun s => (.ok (), change s)

/-- A change that fails where it has no result. -/
def attempt (error : ε) (change : σ → Option σ) : Script σ ε Unit := fun s =>
  match change s with
  | some s' => (.ok (), s')
  | none => (.error error, s)

def when (condition : σ → Bool) (body : Script σ ε Unit) : Script σ ε Unit := fun s =>
  if condition s then body s else (.ok (), s)

/-- `try … except`: the handler goes on from the state of the failure. -/
def rescue (body : Script σ ε α) (handler : ε → Script σ δ α) : Script σ δ α := fun s =>
  match body s with
  | (.ok value, s') => (.ok value, s')
  | (.error error, s') => handler error s'

/-- `try … finally`: the last part always runs, and its failure replaces the result. -/
def ensure (body : Script σ ε α) (last : Script σ ε Unit) : Script σ ε α := fun s =>
  match last (body s).2 with
  | (.ok _, s') => ((body s).1, s')
  | (.error error, s') => (.error error, s')

/-- A program on a part of the state. -/
def zoom {τ : Type} (part : σ → τ) (put : τ → σ → σ) (error : ε → δ) (body : Script τ ε α) :
    Script σ δ α := fun s =>
  match body (part s) with
  | (.ok value, t) => (.ok value, put t s)
  | (.error e, t) => (.error (error e), put t s)

/-- A result that depends on the state only. -/
def result (read : σ → Except ε α) : Script σ ε α := fun s => (read s, s)

end Script

/-! ### Triples -/

/-- The end of a run meets the postcondition for its result. -/
def Ends (Q : α → σ → Prop) (E : ε → σ → Prop) : Except ε α × σ → Prop
  | (.ok value, s) => Q value s
  | (.error error, s) => E error s

theorem Ends.cases {Q : α → σ → Prop} {E : ε → σ → Prop} {ended : Except ε α × σ}
    (ends : Ends Q E ended) :
    (∃ value, ended.1 = .ok value ∧ Q value ended.2) ∨
      ∃ error, ended.1 = .error error ∧ E error ended.2 := by
  rcases ended with ⟨result, s⟩
  cases result with
  | ok value => exact Or.inl ⟨value, rfl, ends⟩
  | error error => exact Or.inr ⟨error, rfl, ends⟩

def Triple (P : σ → Prop) (script : Script σ ε α) (Q : α → σ → Prop) (E : ε → σ → Prop) : Prop :=
  ∀ s, P s → Ends Q E (script s)

namespace Triple

variable {P P' : σ → Prop} {Q Q' : α → σ → Prop} {E E' : ε → σ → Prop}

theorem weaken {script : Script σ ε α} (triple : Triple P script Q E) (pre : ∀ s, P' s → P s)
    (post : ∀ a s, Q a s → Q' a s) (failed : ∀ e s, E e s → E' e s) : Triple P' script Q' E' := by
  intro s holds
  have ends := triple s (pre s holds)
  revert ends
  rcases script s with ⟨result, s'⟩
  cases result with
  | ok value => exact post value s'
  | error error => exact failed error s'

theorem pre {script : Script σ ε α} (triple : Triple P script Q E) (weaker : ∀ s, P' s → P s) :
    Triple P' script Q E :=
  fun s holds => triple s (weaker s holds)

theorem pure {value : α} (post : ∀ s, P s → Q value s) :
    Triple P (Pure.pure value : Script σ ε α) Q E :=
  fun s holds => post s holds

theorem bind {R : β → σ → Prop} {first : Script σ ε β} {next : β → Script σ ε α}
    (one : Triple P first R E) (two : ∀ value, Triple (R value) (next value) Q E) :
    Triple P (first >>= next) Q E := by
  intro s holds
  have ends := one s holds
  change Ends Q E (Script.bind first next s)
  unfold Script.bind
  revert ends
  rcases first s with ⟨result, s'⟩
  cases result with
  | ok value => exact two value s'
  | error error => exact id

theorem fail {error : ε} (failed : ∀ s, P s → E error s) :
    Triple P (Script.fail error : Script σ ε α) Q E :=
  fun s holds => failed s holds

theorem get {Q : σ → σ → Prop} (post : ∀ s, P s → Q s s) :
    Triple P (Script.get : Script σ ε σ) Q E :=
  fun s holds => post s holds

theorem modify {Q : Unit → σ → Prop} {change : σ → σ} (post : ∀ s, P s → Q () (change s)) :
    Triple P (Script.modify change : Script σ ε Unit) Q E :=
  fun s holds => post s holds

theorem attempt {Q : Unit → σ → Prop} {error : ε} {change : σ → Option σ}
    (post : ∀ s s', P s → change s = some s' → Q () s')
    (failed : ∀ s, P s → change s = none → E error s) :
    Triple P (Script.attempt error change) Q E := by
  intro s holds
  unfold Script.attempt
  cases changed : change s with
  | some s' => exact post s s' holds changed
  | none => exact failed s holds changed

theorem when {Q : Unit → σ → Prop} {condition : σ → Bool} {body : Script σ ε Unit}
    (taken : Triple (fun s => P s ∧ condition s = true) body Q E)
    (skipped : ∀ s, P s → condition s = false → Q () s) :
    Triple P (Script.when condition body) Q E := by
  intro s holds
  unfold Script.when
  cases test : condition s with
  | true => exact taken s ⟨holds, test⟩
  | false => exact skipped s holds test

theorem rescue {F : δ → σ → Prop} {body : Script σ ε α} {handler : ε → Script σ δ α}
    (one : Triple P body Q E) (two : ∀ error, Triple (E error) (handler error) Q F) :
    Triple P (Script.rescue body handler) Q F := by
  intro s holds
  have ends := one s holds
  unfold Script.rescue
  revert ends
  rcases body s with ⟨result, s'⟩
  cases result with
  | ok value => exact id
  | error error => exact two error s'

theorem ensure {R : α → σ → Prop} {G : ε → σ → Prop} {body : Script σ ε α}
    {last : Script σ ε Unit} (one : Triple P body R G)
    (returned : ∀ value, Triple (R value) last (fun _ => Q value) E)
    (raised : ∀ error, Triple (G error) last (fun _ => E error) E) :
    Triple P (Script.ensure body last) Q E := by
  intro s holds
  have ends := one s holds
  unfold Script.ensure
  revert ends
  rcases body s with ⟨result, s'⟩
  cases result with
  | ok value =>
      intro ends
      have after := returned value s' ends
      revert after
      dsimp only
      rcases last s' with ⟨result, s''⟩
      cases result <;> exact id
  | error error =>
      intro ends
      have after := raised error s' ends
      revert after
      dsimp only
      rcases last s' with ⟨result, s''⟩
      cases result <;> exact id

/-- Nothing is said of the end. -/
theorem any (script : Script σ ε α) : Triple P script (fun _ _ => True) (fun _ _ => True) := by
  intro s _
  rcases script s with ⟨result, s'⟩
  cases result <;> trivial

theorem zoom {τ : Type} {part : σ → τ} {put : τ → σ → σ}
    {error : δ → ε} {body : Script τ δ α}
    (inner : ∀ s, P s → Ends (fun a t => Q a (put t s)) (fun e t => E (error e) (put t s))
      (body (part s))) : Triple P (Script.zoom part put error body) Q E := by
  intro s holds
  have ends := inner s holds
  unfold Script.zoom
  revert ends
  rcases body (part s) with ⟨result, t⟩
  cases result with
  | ok value => exact id
  | error e => exact id

theorem result {read : σ → Except ε α} (post : ∀ s a, P s → read s = .ok a → Q a s)
    (failed : ∀ s e, P s → read s = .error e → E e s) : Triple P (Script.result read) Q E := by
  intro s holds
  unfold Script.result
  cases isResult : read s with
  | ok value => exact post s value holds isResult
  | error error => exact failed s error holds isResult

theorem forM {f : β → Script σ ε Unit} {I : List β → σ → Prop}
    (each : ∀ item rest, Triple (I (item :: rest)) (f item) (fun _ => I rest) E) (items : List β) :
    Triple (I items) (items.forM f) (fun _ => I []) E := by
  induction items with
  | nil => exact pure (fun _ holds => holds)
  | cons item rest ih => exact bind (each item rest) (fun _ => ih)

end Triple

end FolioLattice.Effects
