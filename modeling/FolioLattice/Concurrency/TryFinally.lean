/-
Threads that run statements with `try`, `except` and `finally`, and that take slots of a
shared pool and give them back.

A statement is neat when every slot that it takes is given back by the `finally` of a `try`
that is entered at once.  Threads that run neat statements give back what they took, however
their work ends.
-/

import FolioLattice.Concurrency.Interleaving

namespace FolioLattice.Concurrency

/-! ### Statements -/

inductive Stmt (κ : Type) where
  /-- any statements and waits that leave the pool alone -/
  | work
  | ret
  | fail
  | seq (first second : Stmt κ)
  /-- a branch on what is left open -/
  | choose (first second : Stmt κ)
  | tryFinally (body last : Stmt κ)
  | tryExcept (body handler : Stmt κ)
  | tryAcquire (key : κ) (taken refused : Stmt κ)
  | release (key : κ)

/-- How a statement is left; a cancellation is raised like any other exception. -/
inductive Completion where
  | normal
  | returned
  | raised
  deriving DecidableEq

inductive Frame (κ : Type) where
  | next (stmt : Stmt κ)
  | last (stmt : Stmt κ)
  | handler (stmt : Stmt κ)
  | resume (completion : Completion)

inductive Control (κ : Type) where
  | run (stmt : Stmt κ)
  | leave (completion : Completion)

/-- A thread; `held` is the slot that it has taken and not given back. -/
structure Runner (κ : Type) where
  control : Control κ
  frames : List (Frame κ)
  held : Option κ

def Stmt.runner {κ : Type} (stmt : Stmt κ) : Runner κ := ⟨.run stmt, [], none⟩

def Runner.ended {κ : Type} (runner : Runner κ) : Prop :=
  ∃ completion, runner.control = .leave completion ∧ runner.frames = []

/-- What is taken from the pool, if there is something left, and what is given back. -/
structure Pool (σ κ : Type) where
  acquire : σ → κ → Option σ
  release : σ → κ → σ

variable {σ κ : Type}

/-- A statement that leaves the pool alone is entered. -/
inductive Enters : Stmt κ → Control κ → List (Frame κ) → Prop where
  | waits : Enters .work (.run .work) []
  | worked (completion : Completion) : Enters .work (.leave completion) []
  | ret : Enters .ret (.leave .returned) []
  | fail : Enters .fail (.leave .raised) []
  | seq (first second : Stmt κ) : Enters (.seq first second) (.run first) [.next second]
  | first (first second : Stmt κ) : Enters (.choose first second) (.run first) []
  | second (first second : Stmt κ) : Enters (.choose first second) (.run second) []
  | tryFinally (body last : Stmt κ) : Enters (.tryFinally body last) (.run body) [.last last]
  | tryExcept (body handler : Stmt κ) : Enters (.tryExcept body handler) (.run body) [.handler handler]

/-- A statement that was left goes on with the frame around it. -/
inductive Pops : Completion → Frame κ → Control κ → List (Frame κ) → Prop where
  | next (stmt : Stmt κ) : Pops .normal (.next stmt) (.run stmt) []
  | skipped {completion : Completion} (early : completion ≠ .normal) (stmt : Stmt κ) :
      Pops completion (.next stmt) (.leave completion) []
  | last (completion : Completion) (stmt : Stmt κ) :
      Pops completion (.last stmt) (.run stmt) [.resume completion]
  | caught (stmt : Stmt κ) : Pops .raised (.handler stmt) (.run stmt) []
  | passed (completion : Completion) (stmt : Stmt κ) :
      Pops completion (.handler stmt) (.leave completion) []
  | resumed (completion : Completion) : Pops .normal (.resume completion) (.leave completion) []
  | overridden {completion : Completion} (early : completion ≠ .normal) (before : Completion) :
      Pops completion (.resume before) (.leave completion) []

inductive TryStep (pool : Pool σ κ) : ThreadStep σ (Runner κ) where
  | enter {s : σ} {stmt : Stmt κ} {control : Control κ} {more frames : List (Frame κ)}
      {held : Option κ} (enters : Enters stmt control more) :
      TryStep pool s ⟨.run stmt, frames, held⟩ s ⟨control, more ++ frames, held⟩
  | leave {s : σ} {completion : Completion} {frame : Frame κ} {control : Control κ}
      {more frames : List (Frame κ)} {held : Option κ} (pops : Pops completion frame control more) :
      TryStep pool s ⟨.leave completion, frame :: frames, held⟩ s ⟨control, more ++ frames, held⟩
  | taken {s s' : σ} {key : κ} {taken refused : Stmt κ} {frames : List (Frame κ)} {held : Option κ}
      (acquired : pool.acquire s key = some s') :
      TryStep pool s ⟨.run (.tryAcquire key taken refused), frames, held⟩ s'
        ⟨.run taken, frames, some key⟩
  | refused {s : σ} {key : κ} {taken refused : Stmt κ} {frames : List (Frame κ)} {held : Option κ}
      (full : pool.acquire s key = none) :
      TryStep pool s ⟨.run (.tryAcquire key taken refused), frames, held⟩ s
        ⟨.run refused, frames, held⟩
  | released {s : σ} {key : κ} {frames : List (Frame κ)} {held : Option κ} :
      TryStep pool s ⟨.run (.release key), frames, held⟩ (pool.release s key)
        ⟨.leave .normal, frames, none⟩

/-! ### Neat statements -/

/-- The pool is left alone. -/
def Stmt.quiet : Stmt κ → Bool
  | .work => true
  | .ret => true
  | .fail => true
  | .seq first second => first.quiet && second.quiet
  | .choose first second => first.quiet && second.quiet
  | .tryFinally body last => body.quiet && last.quiet
  | .tryExcept body handler => body.quiet && handler.quiet
  | .tryAcquire _ _ _ => false
  | .release _ => false

mutual
inductive Neat : Stmt κ → Prop where
  | quiet {stmt : Stmt κ} (quiet : stmt.quiet = true) : Neat stmt
  | seq {first second : Stmt κ} (one : Neat first) (two : Neat second) : Neat (.seq first second)
  | choose {first second : Stmt κ} (one : Neat first) (two : Neat second) :
      Neat (.choose first second)
  | tryFinally {body last : Stmt κ} (one : Neat body) (two : Neat last) :
      Neat (.tryFinally body last)
  | tryExcept {body handler : Stmt κ} (one : Neat body) (two : Neat handler) :
      Neat (.tryExcept body handler)
  | tryAcquire {key : κ} {taken refused : Stmt κ} (one : Closes key taken) (two : Neat refused) :
      Neat (.tryAcquire key taken refused)

/-- The slot is given back by the `finally` of a `try` that comes first. -/
inductive Closes : κ → Stmt κ → Prop where
  | tryFinally {key : κ} {body : Stmt κ} (quiet : body.quiet = true) :
      Closes key (.tryFinally body (.release key))
  | seq {key : κ} {first second : Stmt κ} (one : Closes key first) (two : Neat second) :
      Closes key (.seq first second)
end

def Frame.Neat : Frame κ → Prop
  | .next stmt => Concurrency.Neat stmt
  | .last stmt => Concurrency.Neat stmt
  | .handler stmt => Concurrency.Neat stmt
  | .resume _ => True

def Frame.quiet : Frame κ → Bool
  | .next stmt => stmt.quiet
  | .last stmt => stmt.quiet
  | .handler stmt => stmt.quiet
  | .resume _ => true

def Control.Neat : Control κ → Prop
  | .run stmt => Concurrency.Neat stmt
  | .leave _ => True

def Control.quiet : Control κ → Bool
  | .run stmt => stmt.quiet
  | .leave _ => true

/-- What a thread holds, from where it is. -/
inductive Accounted : Runner κ → Prop where
  | free {control : Control κ} {frames : List (Frame κ)} (neat : control.Neat)
      (around : ∀ frame ∈ frames, frame.Neat) : Accounted ⟨control, frames, none⟩
  | opening {key : κ} {stmt : Stmt κ} {frames : List (Frame κ)} (closes : Closes key stmt)
      (around : ∀ frame ∈ frames, frame.Neat) : Accounted ⟨.run stmt, frames, some key⟩
  | guarded {key : κ} {control : Control κ} {within frames : List (Frame κ)}
      (quiet : control.quiet = true) (inside : ∀ frame ∈ within, frame.quiet = true)
      (around : ∀ frame ∈ frames, frame.Neat) :
      Accounted ⟨control, within ++ .last (.release key) :: frames, some key⟩
  | closing {key : κ} {completion : Completion} {frames : List (Frame κ)}
      (around : ∀ frame ∈ frames, frame.Neat) :
      Accounted ⟨.run (.release key), .resume completion :: frames, some key⟩

/-! ### One step -/

theorem Enters.quiet {stmt : Stmt κ} {control : Control κ} {more : List (Frame κ)}
    (enters : Enters stmt control more) (quiet : stmt.quiet = true) :
    control.quiet = true ∧ ∀ frame ∈ more, frame.quiet = true := by
  cases enters with
  | waits => exact ⟨rfl, List.forall_mem_nil _⟩
  | worked completion => exact ⟨rfl, List.forall_mem_nil _⟩
  | ret => exact ⟨rfl, List.forall_mem_nil _⟩
  | fail => exact ⟨rfl, List.forall_mem_nil _⟩
  | seq first second =>
      obtain ⟨one, two⟩ := Bool.and_eq_true_iff.mp quiet
      exact ⟨one, List.forall_mem_singleton.mpr two⟩
  | first first second => exact ⟨(Bool.and_eq_true_iff.mp quiet).1, List.forall_mem_nil _⟩
  | second first second => exact ⟨(Bool.and_eq_true_iff.mp quiet).2, List.forall_mem_nil _⟩
  | tryFinally body last =>
      obtain ⟨one, two⟩ := Bool.and_eq_true_iff.mp quiet
      exact ⟨one, List.forall_mem_singleton.mpr two⟩
  | tryExcept body handler =>
      obtain ⟨one, two⟩ := Bool.and_eq_true_iff.mp quiet
      exact ⟨one, List.forall_mem_singleton.mpr two⟩

theorem Control.neat_of_quiet {control : Control κ} (quiet : control.quiet = true) :
    control.Neat := by
  cases control with
  | run stmt => exact .quiet quiet
  | leave completion => trivial

theorem Frame.neat_of_quiet {frame : Frame κ} (quiet : frame.quiet = true) : frame.Neat := by
  cases frame with
  | next stmt => exact .quiet quiet
  | last stmt => exact .quiet quiet
  | handler stmt => exact .quiet quiet
  | resume completion => trivial

theorem Enters.neat {stmt : Stmt κ} {control : Control κ} {more : List (Frame κ)}
    (enters : Enters stmt control more) (neat : Neat stmt) :
    control.Neat ∧ ∀ frame ∈ more, frame.Neat := by
  cases neat with
  | quiet quiet =>
      obtain ⟨one, two⟩ := enters.quiet quiet
      exact ⟨Control.neat_of_quiet one, fun frame member => Frame.neat_of_quiet (two frame member)⟩
  | seq one two =>
      cases enters
      exact ⟨one, List.forall_mem_singleton.mpr two⟩
  | choose one two =>
      cases enters with
      | first => exact ⟨one, List.forall_mem_nil _⟩
      | second => exact ⟨two, List.forall_mem_nil _⟩
  | tryFinally one two =>
      cases enters
      exact ⟨one, List.forall_mem_singleton.mpr two⟩
  | tryExcept one two =>
      cases enters
      exact ⟨one, List.forall_mem_singleton.mpr two⟩
  | tryAcquire one two => cases enters

theorem Pops.quiet {completion : Completion} {frame : Frame κ} {control : Control κ}
    {more : List (Frame κ)} (pops : Pops completion frame control more)
    (quiet : frame.quiet = true) : control.quiet = true ∧ ∀ frame ∈ more, frame.quiet = true := by
  cases pops with
  | last => exact ⟨quiet, List.forall_mem_singleton.mpr rfl⟩
  | next => exact ⟨quiet, List.forall_mem_nil _⟩
  | caught => exact ⟨quiet, List.forall_mem_nil _⟩
  | _ => exact ⟨rfl, List.forall_mem_nil _⟩

theorem Pops.neat {completion : Completion} {frame : Frame κ} {control : Control κ}
    {more : List (Frame κ)} (pops : Pops completion frame control more) (neat : frame.Neat) :
    control.Neat ∧ ∀ frame ∈ more, frame.Neat := by
  cases pops with
  | last => exact ⟨neat, List.forall_mem_singleton.mpr trivial⟩
  | next => exact ⟨neat, List.forall_mem_nil _⟩
  | caught => exact ⟨neat, List.forall_mem_nil _⟩
  | _ => exact ⟨trivial, List.forall_mem_nil _⟩

/-- What a step does to the pool, against what the thread holds. -/
inductive PoolEffect (pool : Pool σ κ) (s : σ) : Option κ → σ → Option κ → Prop where
  | same (held : Option κ) : PoolEffect pool s held s held
  | took {key : κ} {s' : σ} (acquired : pool.acquire s key = some s') :
      PoolEffect pool s none s' (some key)
  | gave (key : κ) : PoolEffect pool s (some key) (pool.release s key) none

/-- A thread takes a slot only while it holds none, and gives back only what it holds. -/
theorem Accounted.step {pool : Pool σ κ} {s s' : σ} {runner runner' : Runner κ}
    (accounted : Accounted runner) (taken : TryStep pool s runner s' runner') :
    Accounted runner' ∧ PoolEffect pool s runner.held s' runner'.held := by
  cases accounted with
  | free neat around =>
      cases taken with
      | enter enters =>
          obtain ⟨control, more⟩ := enters.neat neat
          exact ⟨.free control (List.forall_mem_append.mpr ⟨more, around⟩), .same _⟩
      | leave pops =>
          obtain ⟨first, rest⟩ := List.forall_mem_cons.mp around
          obtain ⟨control, more⟩ := pops.neat first
          exact ⟨.free control (List.forall_mem_append.mpr ⟨more, rest⟩), .same _⟩
      | taken acquired =>
          cases neat with
          | quiet quiet => cases quiet
          | tryAcquire one two => exact ⟨.opening one around, .took acquired⟩
      | refused full =>
          cases neat with
          | quiet quiet => cases quiet
          | tryAcquire one two => exact ⟨.free two around, .same _⟩
      | released =>
          cases neat with
          | quiet quiet => cases quiet
  | opening closes around =>
      cases taken with
      | enter enters =>
          cases closes with
          | @tryFinally key body quiet =>
              cases enters
              have entered : (Control.run body).quiet = true := quiet
              exact ⟨.guarded entered (List.forall_mem_nil _) around, .same _⟩
          | seq one two =>
              cases enters
              exact ⟨.opening one (List.forall_mem_cons.mpr ⟨two, around⟩), .same _⟩
      | taken acquired => cases closes
      | refused full => cases closes
      | released => cases closes
  | @guarded key control within frames quiet inside around =>
      -- `within` are the frames of the body, which leave the pool alone
      generalize whole : within ++ Frame.last (.release key) :: frames = all at taken
      cases taken with
      | enter enters =>
          obtain ⟨first, more⟩ := enters.quiet quiet
          rw [← whole, ← List.append_assoc]
          exact ⟨.guarded first (List.forall_mem_append.mpr ⟨more, inside⟩) around, .same _⟩
      | @leave _ completion frame control more rest _ pops =>
          cases within with
          | nil =>
              cases whole
              cases pops
              exact ⟨.closing around, .same _⟩
          | cons first within =>
              obtain ⟨same, others⟩ := List.cons.inj whole
              obtain ⟨here, inside⟩ := List.forall_mem_cons.mp inside
              rw [same] at here
              obtain ⟨left, more⟩ := pops.quiet here
              change within ++ Frame.last (.release key) :: frames = rest at others
              rw [← others, ← List.append_assoc]
              exact ⟨.guarded left (List.forall_mem_append.mpr ⟨more, inside⟩) around, .same _⟩
      | taken acquired => cases quiet
      | refused full => cases quiet
      | released => cases quiet
  | closing around =>
      cases taken with
      | enter enters => cases enters
      | released => exact ⟨.free trivial (List.forall_mem_cons.mpr ⟨trivial, around⟩), .gave _⟩

/-! ### Runs -/

section Runs

variable {ι : Type} [DecidableEq ι] {pool : Pool σ κ} {start config : Config ι σ (Runner κ)}
  {events : List (Event ι σ)}

theorem Run.accounted (run : Run (TryStep pool) start events config)
    (initial : ∀ i, Accounted (start.threads i)) (i : ι) : Accounted (config.threads i) :=
  run.own (P := fun _ => True) (fun _ _ _ _ _ _ => trivial)
    (fun _ _ _ _ _ accounted taken => (accounted.step taken).1) trivial (initial i)

/-- What is kept by every slot that is taken and given back by the thread that holds it
holds of the pool and what the threads hold, throughout. -/
theorem Run.slots {A : σ → (ι → Option κ) → Prop}
    (took : ∀ s held i key s', A s held → held i = none → pool.acquire s key = some s' →
      A s' (Function.update held i (some key)))
    (gave : ∀ s held i key, A s held → held i = some key →
      A (pool.release s key) (Function.update held i none))
    (run : Run (TryStep pool) start events config) (initial : ∀ i, Accounted (start.threads i))
    (before : A start.shared (fun i => (start.threads i).held)) :
    A config.shared (fun i => (config.threads i).held) := by
  induction run with
  | start => exact before
  | @next events config run i shared thread taken ih =>
      have effect := ((run.accounted initial i).step taken).2
      have updated : (fun j => (Function.update config.threads i thread j).held) =
          Function.update (fun j => (config.threads j).held) i thread.held := by
        funext j
        by_cases same : j = i
        · rw [same, Function.update_self, Function.update_self]
        · rw [Function.update_of_ne same, Function.update_of_ne same]
      change A shared (fun j => (Function.update config.threads i thread j).held)
      rw [updated]
      generalize here : (config.threads i).held = held at effect
      generalize thread.held = held' at effect
      cases effect with
      | same =>
          rw [← here, Function.update_eq_self i (fun j => (config.threads j).held)]
          exact ih
      | took acquired => exact took _ _ _ _ _ ih here acquired
      | gave key => exact gave _ _ _ _ ih here

/-- A thread that has ended holds nothing. -/
theorem Accounted.ended {runner : Runner κ} (accounted : Accounted runner) (ended : runner.ended) :
    runner.held = none := by
  obtain ⟨completion, control, frames⟩ := ended
  cases accounted with
  | free neat around => rfl
  | opening closes around => cases control
  | guarded quiet inside around => exact absurd frames (List.append_ne_nil_of_right_ne_nil _
      (List.cons_ne_nil _ _))
  | closing around => cases control

theorem Neat.accounted {stmt : Stmt κ} (neat : Neat stmt) : Accounted stmt.runner :=
  .free neat (List.forall_mem_nil _)

end Runs

end FolioLattice.Concurrency
