/-
Clients of a server that others use too, and the rules to reason about them.

A client is a program of calls.  A run of it may be cut off anywhere, a call may fail before or
after the server has acted on it, and the others may act before any call.  Runs of one client,
one after another, make a history.
-/

import Mathlib.Logic.Relation

namespace FolioLattice.Concurrency

variable {Op : Type} {Answer : Op → Type} {φ ε α β σ : Type}

/-! ### Clients -/

/-- A program of calls; a call that fails gives `φ` in place of its answer. -/
inductive Client (Answer : Op → Type) (φ ε α : Type) where
  | ret (value : α)
  | raise (error : ε)
  | call (op : Op) (next : Except φ (Answer op) → Client Answer φ ε α)

def Client.bind : Client Answer φ ε α → (α → Client Answer φ ε β) → Client Answer φ ε β
  | .ret value, following => following value
  | .raise error, _ => .raise error
  | .call op next, following => .call op (fun answer => (next answer).bind following)

instance : Monad (Client Answer φ ε) where
  pure := .ret
  bind := .bind

def Client.ofExcept : Except ε α → Client Answer φ ε α
  | .ok value => .ret value
  | .error error => .raise error

/-- A call whose failure is raised. -/
def Client.request (op : Op) (failed : φ → ε) : Client Answer φ ε (Answer op) :=
  .call op (fun answer => .ofExcept (answer.mapError failed))

/-! ### Runs -/

/-- What a server may do with a call, and what others may do to it. -/
structure Server (Answer : Op → Type) (φ σ : Type) where
  serve : (op : Op) → σ → Except φ (Answer op) → σ → Prop
  others : σ → σ → Prop

inductive Ending (ε α : Type) where
  | returned (value : α)
  | raised (error : ε)
  | cutOff

inductive Runs (server : Server Answer φ σ) :
    Client Answer φ ε α → σ → Ending ε α → σ → Prop where
  | ret {s : σ} (value : α) : Runs server (.ret value) s (.returned value) s
  | raise {s : σ} (error : ε) : Runs server (.raise error) s (.raised error) s
  | cutOff {s : σ} (client : Client Answer φ ε α) : Runs server client s .cutOff s
  /-- the others act first -/
  | others {s s' s'' : σ} {op : Op} {next : Except φ (Answer op) → Client Answer φ ε α}
      {ending : Ending ε α} (moved : server.others s s')
      (rest : Runs server (.call op next) s' ending s'') : Runs server (.call op next) s ending s''
  | answered {s s' s'' : σ} {op : Op} {next : Except φ (Answer op) → Client Answer φ ε α}
      {answer : Except φ (Answer op)} {ending : Ending ε α} (served : server.serve op s answer s')
      (rest : Runs server (next answer) s' ending s'') : Runs server (.call op next) s ending s''
  /-- the server has acted, and the client is gone -/
  | unseen {s s' : σ} {op : Op} {next : Except φ (Answer op) → Client Answer φ ε α}
      {answer : Except φ (Answer op)} (served : server.serve op s answer s') :
      Runs server (.call op next) s .cutOff s'
  /-- the server has acted, and the client sees a failure -/
  | lost {s s' s'' : σ} {op : Op} {next : Except φ (Answer op) → Client Answer φ ε α}
      {answer : Except φ (Answer op)} {ending : Ending ε α} (served : server.serve op s answer s')
      (failure : φ) (rest : Runs server (next (.error failure)) s' ending s'') :
      Runs server (.call op next) s ending s''
  /-- the call does not get to the server -/
  | failed {s s' : σ} {op : Op} {next : Except φ (Answer op) → Client Answer φ ε α}
      {ending : Ending ε α} (failure : φ) (rest : Runs server (next (.error failure)) s ending s') :
      Runs server (.call op next) s ending s'

/-- Runs of a client from `start`, each of which has ended before the next one begins. -/
inductive History (server : Server Answer φ σ) (client : Client Answer φ ε α) (start : σ) :
    List (Ending ε α) → σ → Prop where
  | start : History server client start [] start
  | others {past : List (Ending ε α)} {s s' : σ} (history : History server client start past s)
      (moved : server.others s s') : History server client start past s'
  | run {past : List (Ending ε α)} {s s' : σ} {ending : Ending ε α}
      (history : History server client start past s) (runs : Runs server client s ending s') :
      History server client start (past ++ [ending]) s'

/-! ### What the server keeps -/

/-- No call and no act of the others ends what holds. -/
structure Server.Keeps (server : Server Answer φ σ) (holds : σ → Prop) : Prop where
  serve : ∀ op s answer s', holds s → server.serve op s answer s' → holds s'
  others : ∀ s s', holds s → server.others s s' → holds s'

section Keeps

variable {server : Server Answer φ σ} {holds holds' : σ → Prop} {start s s' : σ}

theorem Server.Keeps.and (keeps : server.Keeps holds) (keeps' : server.Keeps holds') :
    server.Keeps (fun s => holds s ∧ holds' s) where
  serve op s answer s' both served :=
    ⟨keeps.serve op s answer s' both.1 served, keeps'.serve op s answer s' both.2 served⟩
  others s s' both moved := ⟨keeps.others s s' both.1 moved, keeps'.others s s' both.2 moved⟩

theorem kept_later {moves : σ → σ → Prop} (kept : ∀ s s', holds s → moves s s' → holds s')
    (initial : holds s) (moved : Relation.ReflTransGen moves s s') : holds s' := by
  induction moved with
  | refl => exact initial
  | tail _ last ih => exact kept _ _ ih last

theorem Server.Keeps.runs (keeps : server.Keeps holds) {client : Client Answer φ ε α}
    {ending : Ending ε α} (runs : Runs server client s ending s') (initial : holds s) :
    holds s' := by
  induction runs with
  | ret value => exact initial
  | raise error => exact initial
  | cutOff client => exact initial
  | others moved _ ih => exact ih (keeps.others _ _ initial moved)
  | answered served _ ih => exact ih (keeps.serve _ _ _ _ initial served)
  | unseen served => exact keeps.serve _ _ _ _ initial served
  | lost served _ _ ih => exact ih (keeps.serve _ _ _ _ initial served)
  | failed _ _ ih => exact ih initial

end Keeps

/-! ### What a client meets -/

/-- However a run from `s` ends, it ends in a state that is `safe`, and what it returns is so
`after` it. -/
def Client.Meets (server : Server Answer φ σ) (safe : σ → Prop) (after : α → σ → Prop) :
    Client Answer φ ε α → σ → Prop
  | .ret value, s => safe s ∧ after value s
  | .raise _, s => safe s
  | .call op next, s => safe s ∧ ∀ s', Relation.ReflTransGen server.others s s' →
      safe s' ∧ (∀ failure, (next (.error failure)).Meets server safe after s') ∧
      ∀ answer s'', server.serve op s' answer s'' →
        (next answer).Meets server safe after s'' ∧
          ∀ failure, (next (.error failure)).Meets server safe after s''

section Meets

variable {server : Server Answer φ σ} {safe holds : σ → Prop} {after after' : α → σ → Prop}
  {client : Client Answer φ ε α} {start s s' : σ}

theorem Client.Meets.here (meets : client.Meets server safe after s) : safe s := by
  cases client with
  | ret value => exact meets.1
  | raise error => exact meets
  | call op next => exact meets.1

/-- What is met holds of every run. -/
theorem Client.Meets.sound {ending : Ending ε α} (meets : client.Meets server safe after s)
    (runs : Runs server client s ending s') :
    safe s' ∧ ∀ value, ending = .returned value → after value s' := by
  induction runs with
  | ret value => exact ⟨meets.1, fun _ same => Ending.returned.inj same ▸ meets.2⟩
  | raise error => exact ⟨meets, fun _ same => by cases same⟩
  | cutOff client => exact ⟨meets.here, fun _ same => by cases same⟩
  | others moved _ ih =>
      apply ih
      exact ⟨(meets.2 _ (.single moved)).1, fun s' later => meets.2 s' (.head moved later)⟩
  | answered served _ ih => exact ih ((meets.2 _ .refl).2.2 _ _ served).1
  | unseen served =>
      exact ⟨((meets.2 _ .refl).2.2 _ _ served).1.here, fun _ same => by cases same⟩
  | lost served failure _ ih => exact ih (((meets.2 _ .refl).2.2 _ _ served).2 failure)
  | failed failure _ ih => exact ih ((meets.2 _ .refl).2.1 failure)

theorem Client.Meets.mono (meets : client.Meets server safe after s)
    (weaker : ∀ value s, safe s → after value s → after' value s) :
    client.Meets server safe after' s := by
  induction client generalizing s with
  | ret value => exact ⟨meets.1, weaker value s meets.1 meets.2⟩
  | raise error => exact meets
  | call op next ih =>
      refine ⟨meets.1, fun s' moved => ?_⟩
      obtain ⟨here, failing, serving⟩ := meets.2 s' moved
      refine ⟨here, fun failure => ih _ (failing failure), fun answer s'' served => ?_⟩
      obtain ⟨answered, lost⟩ := serving answer s'' served
      exact ⟨ih _ answered, fun failure => ih _ (lost failure)⟩

/-- The second part starts where the first one returns. -/
theorem Client.Meets.bind {following : α → Client Answer φ ε β} {last : β → σ → Prop}
    (meets : client.Meets server safe after s)
    (next : ∀ value s, safe s → after value s → (following value).Meets server safe last s) :
    (client >>= following).Meets server safe last s := by
  change (client.bind following).Meets server safe last s
  induction client generalizing s with
  | ret value => exact next value s meets.1 meets.2
  | raise error => exact meets
  | call op client ih =>
      refine ⟨meets.1, fun s' moved => ?_⟩
      obtain ⟨here, failing, serving⟩ := meets.2 s' moved
      refine ⟨here, fun failure => ih _ (failing failure), fun answer s'' served => ?_⟩
      obtain ⟨answered, lost⟩ := serving answer s'' served
      exact ⟨ih _ answered, fun failure => ih _ (lost failure)⟩

/-- What the server keeps holds still when a client returns. -/
theorem Client.Meets.frame (meets : client.Meets server safe after s) (keeps : server.Keeps holds)
    (initial : holds s) : client.Meets server safe (fun value s => after value s ∧ holds s) s := by
  induction client generalizing s with
  | ret value => exact ⟨meets.1, meets.2, initial⟩
  | raise error => exact meets
  | call op next ih =>
      refine ⟨meets.1, fun s' moved => ?_⟩
      obtain ⟨here, failing, serving⟩ := meets.2 s' moved
      have holds' := kept_later keeps.others initial moved
      refine ⟨here, fun failure => ih _ (failing failure) holds', fun answer s'' served => ?_⟩
      obtain ⟨answered, lost⟩ := serving answer s'' served
      have holds'' := keeps.serve op s' answer s'' holds' served
      exact ⟨ih _ answered holds'', fun failure => ih _ (lost failure) holds''⟩

theorem Client.Meets.ofExcept {result : Except ε α} (here : safe s)
    (returned : ∀ value, result = .ok value → after value s) :
    (Client.ofExcept result : Client Answer φ ε α).Meets server safe after s := by
  cases result with
  | ok value => exact ⟨here, returned value rfl⟩
  | error error => exact here

/-- A check between two calls leaves the state as it is. -/
theorem Client.Meets.check {result : Except ε α} {following : α → Client Answer φ ε β}
    {last : β → σ → Prop} (here : safe s)
    (next : ∀ value, result = .ok value → (following value).Meets server safe last s) :
    (Client.ofExcept result >>= following).Meets server safe last s := by
  cases result with
  | ok value => exact next value rfl
  | error error => exact here

/-- The rule of a call: what holds before it may only be ended by the call. -/
theorem Client.Meets.request {op : Op} {failed : φ → ε} (after : Answer op → σ → Prop)
    (initial : holds s) (implies : ∀ s, holds s → safe s)
    (kept : ∀ s s', holds s → server.others s s' → holds s')
    (serves : ∀ s answer s', holds s → server.serve op s answer s' →
      safe s' ∧ ∀ value, answer = .ok value → after value s') :
    (Client.request op failed : Client Answer φ ε (Answer op)).Meets server safe after s := by
  refine ⟨implies s initial, fun s' moved => ?_⟩
  have here := kept_later kept initial moved
  refine ⟨implies s' here, fun failure => implies s' here, fun answer s'' served => ?_⟩
  obtain ⟨ends, returns⟩ := serves s' answer s'' here served
  refine ⟨.ofExcept ends ?_, fun failure => ends⟩
  intro value same
  cases answer with
  | ok value' => exact returns value (by cases same; rfl)
  | error failure => cases same

/-- A history passes through safe states, and what a run in it returned stays so. -/
theorem History.meets {past : List (Ending ε α)} (history : History server client start past s)
    (kept : ∀ s s', safe s → server.others s s' → safe s')
    (meets : ∀ s, safe s → client.Meets server safe after s)
    (keeps : ∀ value, server.Keeps (after value)) (initial : safe start) :
    safe s ∧ ∀ value, .returned value ∈ past → after value s := by
  induction history with
  | start => exact ⟨initial, fun value member => by cases member⟩
  | others _ moved ih =>
      exact ⟨kept _ _ ih.1 moved, fun value member =>
        (keeps value).others _ _ (ih.2 value member) moved⟩
  | run _ runs ih =>
      obtain ⟨ends, returns⟩ := (meets _ ih.1).sound runs
      refine ⟨ends, fun value member => ?_⟩
      rcases List.mem_append.mp member with earlier | last
      · exact (keeps value).runs runs (ih.2 value earlier)
      · exact returns value (List.mem_singleton.mp last).symm

end Meets

end FolioLattice.Concurrency
