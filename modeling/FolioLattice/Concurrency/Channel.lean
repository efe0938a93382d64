/-
A channel of messages, some of which were received ahead and are given out again first.
-/

import Mathlib.Data.Seq.Basic
import FolioLattice.Concurrency.Lockstep

namespace FolioLattice.Concurrency

open Stream' (Seq)

variable {μ : Type}

/-- Waiting for a message; `none` is a wait without end, after the last one. -/
def receiveLive (channel : Seq μ) (_ : Unit) : Seq μ × Option μ := (channel.tail, channel.head)

/-- The messages that were received ahead, and what is left of the channel. -/
structure Replay (μ : Type) where
  messages : List μ
  live : Seq μ

def Replay.receive : Replay μ → Unit → Replay μ × Option μ
  | ⟨message :: rest, live⟩, _ => (⟨rest, live⟩, some message)
  | ⟨[], live⟩, _ => (⟨[], live.tail⟩, live.head)

/-- The channel before anything was received ahead. -/
def Replay.whole (replay : Replay μ) : Seq μ := (Seq.ofList replay.messages).append replay.live

theorem Replay.whole_nil (live : Seq μ) : Replay.whole ⟨[], live⟩ = live := by
  unfold Replay.whole
  rw [Seq.ofList_nil, Seq.nil_append]

theorem Replay.whole_cons (message : μ) (rest : List μ) (live : Seq μ) :
    Replay.whole ⟨message :: rest, live⟩ = Seq.cons message (Replay.whole ⟨rest, live⟩) := by
  unfold Replay.whole
  rw [Seq.ofList_cons, Seq.cons_append]

/-- One more message received ahead. -/
theorem Replay.whole_append (messages : List μ) (message : μ) (live : Seq μ) :
    Replay.whole ⟨messages ++ [message], live⟩ = Replay.whole ⟨messages, Seq.cons message live⟩ := by
  unfold Replay.whole
  rw [Seq.ofList_append, Seq.append_assoc, Seq.ofList_cons, Seq.ofList_nil, Seq.cons_append,
    Seq.nil_append]

/-- Who receives cannot tell a replay from the channel that it began as. -/
theorem replay_lockstep :
    Lockstep (receiveLive (μ := μ)) Replay.receive (fun _ => True)
      (fun channel replay => channel = replay.whole) where
  answer channel replay _ same _ := by
    rw [same]
    obtain ⟨messages, live⟩ := replay
    cases messages with
    | nil =>
        rw [Replay.whole_nil]
        rfl
    | cons message rest =>
        rw [Replay.whole_cons]
        rfl
  next channel replay _ same _ := by
    rw [same]
    obtain ⟨messages, live⟩ := replay
    cases messages with
    | nil =>
        rw [Replay.whole_nil]
        exact (Replay.whole_nil live.tail).symm
    | cons message rest =>
        rw [Replay.whole_cons]
        rfl

/-- A channel gives out its messages in order. -/
theorem outputs_receiveLive (channel : Seq μ) (count : Nat) :
    outputs receiveLive channel (List.replicate count ()) =
      (List.range count).map channel.get? := by
  induction count generalizing channel with
  | zero => rfl
  | succ count ih =>
      change channel.head :: outputs receiveLive channel.tail (List.replicate count ()) = _
      rw [ih, List.range_succ_eq_map, List.map_cons, List.map_map]
      rfl

theorem Replay.outputs_receive (replay : Replay μ) (count : Nat) :
    outputs Replay.receive replay (List.replicate count ()) =
      (List.range count).map replay.whole.get? := by
  rw [← outputs_receiveLive]
  exact (replay_lockstep.outputs_eq rfl (fun _ _ => trivial)).symm

end FolioLattice.Concurrency
