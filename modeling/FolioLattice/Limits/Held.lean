/-
The slots of the three limiters of concurrent calls, against the operations that hold them,
over every interleaving of the operations.
-/

import FolioLattice.Concurrency.TryFinally
import FolioLattice.Limits.Keys
import Mathlib.Data.Set.Card

namespace FolioLattice.Limits

open FolioLattice.Data FolioLattice.Relational FolioLattice.Concurrency

/-! ### Operations -/

/-- The broker's limiter, the inspection application's and the one of `/mcp`. -/
inductive Limiter where
  | broker
  | inspection
  | publicMcp
  deriving DecidableEq

/-- A limiter and a key of it. -/
abbrev Slot := Limiter × String

/-- `key = self._admit(...)`, then `try: ... finally: self._release(key)`; a refusal raises. -/
def admitted (call : BrokerCall) (body : Stmt Slot) : Stmt Slot :=
  .seq .work (.tryAcquire (.broker, broker.slot call)
    (.tryFinally body (.release (.broker, broker.slot call))) .fail)

/-- Work, and a `return` of its result. -/
def returns : Stmt Slot := .seq .work .ret

/-- `register`: the bounds are checked before the admission. -/
def register (tenantId actor name : String) : Stmt Slot :=
  .seq .work (admitted ⟨tenantId, actor, name, "register"⟩
    (.seq (.tryExcept .work .work) (.seq (.choose .fail .work) returns)))

def listConnections (tenantId actor : String) : Stmt Slot :=
  admitted ⟨tenantId, actor, "list", "list"⟩ returns

def status (tenantId actor connectionId : String) : Stmt Slot :=
  admitted ⟨tenantId, actor, connectionId, "status"⟩ returns

/-- `health`: without a probe it returns at once; the probe has its own handlers. -/
def health (tenantId actor connectionId : String) : Stmt Slot :=
  admitted ⟨tenantId, actor, connectionId, "health"⟩
    (.seq .work (.choose returns
      (.seq (.choose .fail (.tryFinally (.tryExcept .work .work) .work))
        (.seq (.choose .fail .work) returns))))

def revoke (tenantId actor connectionId : String) : Stmt Slot :=
  admitted ⟨tenantId, actor, connectionId, "revoke"⟩ returns

/-- `audit`; the key has `"audit"` in place of an id that is empty or missing. -/
def audit (tenantId actor : String) (connectionId : Option String) : Stmt Slot :=
  admitted ⟨tenantId, actor,
    (match connectionId with
      | some id => if id.isEmpty then "audit" else id
      | none => "audit"), "audit"⟩ returns

/-- `call_tool`: the size of the arguments is checked before the admission. -/
def callTool (tenantId actor connectionId : String) : Stmt Slot :=
  .seq .work (admitted ⟨tenantId, actor, connectionId, "tool"⟩
    (.seq .work
      (.seq (.tryFinally (.tryExcept .work .work) .work) (.seq (.choose .fail .work) returns))))

/-- `read_resource`: the length of the URI is checked before the admission. -/
def readResource (tenantId actor connectionId : String) : Stmt Slot :=
  .seq .work (admitted ⟨tenantId, actor, connectionId, "resource"⟩
    (.seq .work
      (.seq (.tryFinally (.tryExcept .work .work) .work) (.seq (.choose .fail .work) returns))))

/-- `InspectionApp._api`: the rate limiter, then the slot; the request under its deadline,
whose `TimeoutError` is answered before the slot is given back. -/
def api (app : AppIdentity) (request : ApiRequest) : Stmt Slot :=
  .seq .work (.choose returns
    (.tryAcquire (.inspection, (inspectionApp app).slot request)
      (.tryFinally (.tryExcept .work .work)
        (.release (.inspection, (inspectionApp app).slot request)))
      returns))

/-- `FolioHttpApp.__call__` at `/mcp`, inside the `try` whose `finally` resets the context. -/
def mcp (caller : PublicCaller) : Stmt Slot :=
  .tryFinally
    (.seq .work (.choose returns
      (.tryAcquire (.publicMcp, publicMcpKey caller)
        (.seq
          (.tryFinally (.seq .work (.tryExcept .work .work))
            (.release (.publicMcp, publicMcpKey caller)))
          .ret)
        returns)))
    .work

/-- An operation of the program, with what its key is made of. -/
inductive Operation where
  | register (tenantId actor name : String)
  | listConnections (tenantId actor : String)
  | status (tenantId actor connectionId : String)
  | health (tenantId actor connectionId : String)
  | revoke (tenantId actor connectionId : String)
  | audit (tenantId actor : String) (connectionId : Option String)
  | callTool (tenantId actor connectionId : String)
  | readResource (tenantId actor connectionId : String)
  | api (app : AppIdentity) (request : ApiRequest)
  | mcp (caller : PublicCaller)

def Operation.stmt : Operation → Stmt Slot
  | .register tenantId actor name => Limits.register tenantId actor name
  | .listConnections tenantId actor => Limits.listConnections tenantId actor
  | .status tenantId actor connectionId => Limits.status tenantId actor connectionId
  | .health tenantId actor connectionId => Limits.health tenantId actor connectionId
  | .revoke tenantId actor connectionId => Limits.revoke tenantId actor connectionId
  | .audit tenantId actor connectionId => Limits.audit tenantId actor connectionId
  | .callTool tenantId actor connectionId => Limits.callTool tenantId actor connectionId
  | .readResource tenantId actor connectionId => Limits.readResource tenantId actor connectionId
  | .api app request => Limits.api app request
  | .mcp caller => Limits.mcp caller

/-! ### The limiters -/

/-- `try_acquire` and `release` of each limiter, each atomic under its lock. -/
def limiters (limits : Limiter → SlotLimits) : Pool (Limiter → Slots) Slot where
  acquire slots slot :=
    if ((limits slot.1).tryAcquire (slots slot.1) slot.2).2 then
      some (Function.update slots slot.1 ((limits slot.1).tryAcquire (slots slot.1) slot.2).1)
    else none
  release slots slot := Function.update slots slot.1 ((slots slot.1).release slot.2)

/-- No slot is taken. -/
def Slots.fresh : Slots := ⟨[], 0⟩

variable {ι : Type}

/-- The counters of a limiter, against the keys that the operations hold at it. -/
structure Balanced (limits : SlotLimits) (slots : Slots) (held : ι → Option String) : Prop where
  finite : {i | held i ≠ none}.Finite
  total_keys : slots.total = Relational.total slots.active
  total_held : slots.total = {i | held i ≠ none}.ncard
  key_held : ∀ key, (getEntry key slots.active).getD 0 = {i | held i = some key}.ncard
  total_le : slots.total ≤ limits.limit
  counts : ∀ entry ∈ slots.active, 0 < entry.2 ∧ entry.2 ≤ limits.perKeyLimit
  keys_le : slots.active.length ≤ limits.maxKeys
  distinct : (slots.active.map (·.1)).Nodup

/-- The key that an operation holds at a limiter. -/
def heldAt (limiter : Limiter) : Option Slot → Option String
  | some slot => if slot.1 = limiter then some slot.2 else none
  | none => none

/-! ### Counting the operations -/

section Counting

variable [DecidableEq ι] {held : ι → Option String} {i : ι} {key : String}

theorem update_ne_none :
    {j | Function.update held i (some key) j ≠ none} = insert i {j | held j ≠ none} := by
  ext j
  by_cases same : j = i
  · rw [same]
    simp
  · simp [same]

theorem update_eq_self :
    {j | Function.update held i (some key) j = some key} = insert i {j | held j = some key} := by
  ext j
  by_cases same : j = i
  · rw [same]
    simp
  · simp [same]

theorem update_eq_other (free : held i = none) {other : String} (differ : key ≠ other) :
    {j | Function.update held i (some key) j = some other} = {j | held j = some other} := by
  ext j
  by_cases same : j = i
  · rw [same]
    simp [free, differ]
  · simp [Function.update_of_ne same]

omit [DecidableEq ι] in
theorem finite_held (finite : {j | held j ≠ none}.Finite) (key : String) :
    {j | held j = some key}.Finite := by
  refine finite.subset (fun j member none => ?_)
  have some : held j = some key := member
  rw [some] at none
  cases none

theorem ncard_taken (key : String) (finite : {j | held j ≠ none}.Finite) (free : held i = none) :
    {j | Function.update held i (some key) j ≠ none}.ncard = {j | held j ≠ none}.ncard + 1 := by
  have absent : i ∉ {j | held j ≠ none} := by simp [free]
  rw [update_ne_none, Set.ncard_insert_of_notMem absent finite]

theorem ncard_key_taken (key : String) (finite : {j | held j ≠ none}.Finite) (free : held i = none)
    (other : String) :
    {j | Function.update held i (some key) j = some other}.ncard =
      {j | held j = some other}.ncard + if key = other then 1 else 0 := by
  by_cases same : key = other
  · subst same
    have absent : i ∉ {j | held j = some key} := by simp [free]
    rw [update_eq_self, Set.ncard_insert_of_notMem absent (finite_held finite key), if_pos rfl]
  · rw [update_eq_other free same, if_neg same, Nat.add_zero]

end Counting

/-! ### A slot is taken, a slot is given back -/

section Balance

variable [DecidableEq ι] {limits : SlotLimits} {slots : Slots} {held : ι → Option String} {i : ι}
  {key : String}

theorem SlotLimits.tryAcquire_taken (taken : (limits.tryAcquire slots key).2 = true) :
    slots.total < limits.limit ∧ (getEntry key slots.active).getD 0 < limits.perKeyLimit ∧
      ((getEntry key slots.active).getD 0 = 0 → slots.active.length < limits.maxKeys) ∧
      (limits.tryAcquire slots key).1 =
        ⟨putEntry key ((getEntry key slots.active).getD 0 + 1) slots.active, slots.total + 1⟩ := by
  unfold SlotLimits.tryAcquire at taken ⊢
  dsimp only at taken ⊢
  split at taken
  · cases taken
  · rename_i room
    rw [if_neg room]
    rw [not_or, not_or, not_and, Nat.not_le, Nat.not_le] at room
    exact ⟨room.1, room.2.1, fun none => Nat.lt_of_not_le (room.2.2 none), rfl⟩

theorem Balanced.take (balanced : Balanced limits slots held) (free : held i = none)
    (taken : (limits.tryAcquire slots key).2 = true) :
    Balanced limits (limits.tryAcquire slots key).1 (Function.update held i (some key)) := by
  obtain ⟨room, keyRoom, keysRoom, same⟩ := SlotLimits.tryAcquire_taken taken
  rw [same]
  have total := total_putEntry key ((getEntry key slots.active).getD 0 + 1) slots.active
  constructor
  · rw [update_ne_none]
    exact balanced.finite.insert i
  · have known := balanced.total_keys
    dsimp only
    omega
  · rw [ncard_taken key balanced.finite free, ← balanced.total_held]
  · intro other
    rw [ncard_key_taken key balanced.finite free, ← balanced.key_held other]
    dsimp only
    by_cases here : key = other
    · subst here
      rw [getEntry_putEntry_self, if_pos rfl, Option.getD_some]
    · rw [getEntry_putEntry_other here, if_neg here, Nat.add_zero]
  · exact room
  · intro entry member
    rcases mem_putEntry member with written | old
    · rw [written]
      exact ⟨Nat.succ_pos _, keyRoom⟩
    · exact balanced.counts entry old
  · dsimp only
    rw [length_putEntry]
    split
    · rename_i none
      rw [none] at keysRoom
      exact keysRoom rfl
    · exact balanced.keys_le
  · exact putEntry_nodup _ _ balanced.distinct

theorem Slots.release_eq (slots : Slots) (key : String)
    (held : 0 < (getEntry key slots.active).getD 0) (some : 0 < slots.total) :
    slots.release key =
      ⟨if (getEntry key slots.active).getD 0 ≤ 1 then popEntry key slots.active
        else putEntry key ((getEntry key slots.active).getD 0 - 1) slots.active,
        slots.total - 1⟩ := by
  unfold Slots.release
  dsimp only
  rw [if_neg (Nat.ne_of_gt held), if_pos some]

/-- What is left when a slot is given back, from what was there while it was held. -/
theorem Balanced.give (balanced : Balanced limits slots held) (holds : held i = some key) :
    Balanced limits (slots.release key) (Function.update held i none) := by
  have free : Function.update held i none i = none := Function.update_self _ _ _
  have back : Function.update (Function.update held i none) i (some key) = held := by
    rw [Function.update_idem, ← holds, Function.update_eq_self]
  have finite : {j | Function.update held i none j ≠ none}.Finite := by
    refine balanced.finite.subset (fun j member none => member ?_)
    by_cases same : j = i
    · rw [same, free]
    · rw [Function.update_of_ne same, none]
  have all := ncard_taken key finite free
  have each := ncard_key_taken key finite free
  rw [back] at all each
  have count := each key
  rw [if_pos rfl, ← balanced.key_held key] at count
  rw [← balanced.total_held] at all
  have popped := total_popEntry key slots.active
  have put := total_putEntry key ((getEntry key slots.active).getD 0 - 1) slots.active
  have known := balanced.total_keys
  rw [Slots.release_eq slots key (by omega) (by omega)]
  by_cases last : (getEntry key slots.active).getD 0 ≤ 1
  · rw [if_pos last]
    have sub := popEntry_sublist key slots.active
    constructor
    · exact finite
    · dsimp only
      omega
    · dsimp only
      omega
    · intro other
      dsimp only
      have here := each other
      rw [← balanced.key_held other] at here
      by_cases same : key = other
      · subst same
        rw [getEntry_popEntry_self key balanced.distinct, Option.getD_none]
        omega
      · rw [getEntry_popEntry_other same]
        rw [if_neg same] at here
        exact here
    · exact (Nat.sub_le _ _).trans balanced.total_le
    · exact fun entry member => balanced.counts entry (sub.subset member)
    · exact sub.length_le.trans balanced.keys_le
    · exact (sub.map _).nodup balanced.distinct
  · rw [if_neg last]
    have present : getEntry key slots.active ≠ none := by
      intro none
      rw [none] at last
      exact last (Nat.zero_le 1)
    constructor
    · exact finite
    · dsimp only
      omega
    · dsimp only
      omega
    · intro other
      dsimp only
      have here := each other
      rw [← balanced.key_held other] at here
      by_cases same : key = other
      · subst same
        rw [getEntry_putEntry_self, Option.getD_some]
        omega
      · rw [getEntry_putEntry_other same]
        rw [if_neg same] at here
        exact here
    · exact (Nat.sub_le _ _).trans balanced.total_le
    · intro entry member
      rcases mem_putEntry member with written | old
      · obtain ⟨value, found⟩ := Option.ne_none_iff_exists'.mp present
        have bound := (balanced.counts _ (mem_of_getEntry found)).2
        rw [written, found, Option.getD_some]
        rw [found, Option.getD_some] at last
        dsimp only at bound ⊢
        omega
      · exact balanced.counts entry old
    · dsimp only
      rw [length_putEntry, if_neg present]
      exact balanced.keys_le
    · exact putEntry_nodup _ _ balanced.distinct

end Balance

/-! ### Every operation is neat -/

theorem neat_admitted (call : BrokerCall) {body : Stmt Slot} (quiet : body.quiet = true) :
    Neat (admitted call body) :=
  .seq (.quiet rfl) (.tryAcquire (.tryFinally quiet) (.quiet rfl))

theorem neat_api (app : AppIdentity) (request : ApiRequest) : Neat (api app request) :=
  .seq (.quiet rfl) (.choose (.quiet rfl) (.tryAcquire (.tryFinally rfl) (.quiet rfl)))

theorem neat_mcp (caller : PublicCaller) : Neat (mcp caller) :=
  .tryFinally
    (.seq (.quiet rfl)
      (.choose (.quiet rfl)
        (.tryAcquire (.seq (.tryFinally rfl) (.quiet rfl)) (.quiet rfl))))
    (.quiet rfl)

theorem Operation.neat (operation : Operation) : Neat operation.stmt := by
  cases operation with
  | register tenantId actor name => exact .seq (.quiet rfl) (neat_admitted _ rfl)
  | listConnections tenantId actor => exact neat_admitted _ rfl
  | status tenantId actor connectionId => exact neat_admitted _ rfl
  | health tenantId actor connectionId => exact neat_admitted _ rfl
  | revoke tenantId actor connectionId => exact neat_admitted _ rfl
  | audit tenantId actor connectionId => exact neat_admitted _ rfl
  | callTool tenantId actor connectionId => exact .seq (.quiet rfl) (neat_admitted _ rfl)
  | readResource tenantId actor connectionId => exact .seq (.quiet rfl) (neat_admitted _ rfl)
  | api app request => exact neat_api app request
  | mcp caller => exact neat_mcp caller

/-! ### Every interleaving -/

section Interleavings

variable [DecidableEq ι]

/-- All slots are free, and every operation is at its beginning. -/
def operationsStart (operations : ι → Operation) : Config ι (Limiter → Slots) (Runner Slot) :=
  ⟨fun _ => Slots.fresh, fun i => (operations i).stmt.runner⟩

omit [DecidableEq ι] in
theorem fresh_balanced (limits : SlotLimits) :
    Balanced limits Slots.fresh (fun _ : ι => none) where
  finite := by simp
  total_keys := rfl
  total_held := by simp [Slots.fresh]
  key_held := by simp [Slots.fresh, getEntry]
  total_le := Nat.zero_le _
  counts := List.forall_mem_nil _
  keys_le := Nat.zero_le _
  distinct := List.nodup_nil

omit [DecidableEq ι] in
theorem Balanced.fresh {limits : SlotLimits} {slots : Slots} {held : ι → Option String}
    (balanced : Balanced limits slots held) (none : ∀ i, held i = none) : slots = Slots.fresh := by
  have nobody : {i | held i ≠ Option.none}.ncard = 0 := by
    simp [none]
  have total := balanced.total_held
  have keys := balanced.total_keys
  have counts := balanced.counts
  rw [nobody] at total
  obtain ⟨active, count⟩ := slots
  dsimp only at total keys counts
  cases active with
  | nil => rw [total]; rfl
  | cons entry rest =>
      have positive := (counts entry List.mem_cons_self).1
      rw [total_cons] at keys
      omega

theorem heldAt_update (limiter : Limiter) (held : ι → Option Slot) (i : ι) (slot : Option Slot) :
    (fun j => heldAt limiter (Function.update held i slot j)) =
      Function.update (fun j => heldAt limiter (held j)) i (heldAt limiter slot) :=
  Function.comp_update (heldAt limiter) held i slot

theorem heldAt_other {limiter : Limiter} {slot : Slot} (differ : slot.1 ≠ limiter) :
    heldAt limiter (some slot) = none := if_neg differ

/-- In every limiter the counters are those of the operations that hold a slot of it, and
within its bounds; when no operation is under way, it is as it was at the beginning. -/
theorem slots_balanced (limits : Limiter → SlotLimits) (operations : ι → Operation)
    {events : List (Event ι (Limiter → Slots))} {config : Config ι (Limiter → Slots) (Runner Slot)}
    (run : Run (TryStep (limiters limits)) (operationsStart operations) events config)
    (limiter : Limiter) :
    Balanced (limits limiter) (config.shared limiter)
        (fun i => heldAt limiter (config.threads i).held) ∧
      ((∀ i, (config.threads i).ended ∨ config.threads i = (operations i).stmt.runner) →
        config.shared limiter = Slots.fresh) := by
  have initial : ∀ i, Accounted ((operationsStart operations).threads i) :=
    fun i => (operations i).neat.accounted
  have all : ∀ limiter, Balanced (limits limiter) (config.shared limiter)
      (fun i => heldAt limiter (config.threads i).held) := by
    refine run.slots (A := fun slots held => ∀ limiter, Balanced (limits limiter) (slots limiter)
      (fun i => heldAt limiter (held i))) ?_ ?_ initial (fun limiter => fresh_balanced _)
    · intro slots held i slot slots' balanced free acquired other
      unfold limiters at acquired
      dsimp only at acquired
      split at acquired
      · rename_i taken
        cases acquired
        rw [heldAt_update]
        by_cases here : other = slot.1
        · rw [here, Function.update_self]
          have own : heldAt slot.1 (some slot) = some slot.2 := if_pos rfl
          rw [own]
          refine (balanced slot.1).take ?_ taken
          rw [free]
          rfl
        · have unchanged : heldAt other (some slot) = heldAt other (held i) := by
            rw [heldAt_other (Ne.symm here), free]
            rfl
          rw [Function.update_of_ne here, unchanged,
            Function.update_eq_self i (fun j => heldAt other (held j))]
          exact balanced other
      · cases acquired
    · intro slots held i slot balanced holds other
      unfold limiters
      dsimp only
      rw [heldAt_update]
      by_cases here : other = slot.1
      · rw [here, Function.update_self]
        refine (balanced slot.1).give ?_
        rw [holds]
        exact if_pos rfl
      · have unchanged : heldAt other none = heldAt other (held i) := by
          rw [holds, heldAt_other (Ne.symm here)]
          rfl
        rw [Function.update_of_ne here, unchanged,
          Function.update_eq_self i (fun j => heldAt other (held j))]
        exact balanced other
  refine ⟨all limiter, fun done => (all limiter).fresh (fun i => ?_)⟩
  have nothing : (config.threads i).held = none := by
    rcases done i with ended | idle
    · exact (run.accounted initial i).ended ended
    · rw [idle]
      rfl
  rw [nothing]
  rfl

end Interleavings

/-! ### A status that is asked for -/

theorem slot_positive : 1 ≤ 1 := Nat.le_refl 1

/-- One slot at every limiter. -/
def oneSlot : Limiter → SlotLimits := fun _ =>
  ⟨1, 1, 1, slot_positive, slot_positive, slot_positive⟩

def oneStatus : Unit → Operation := fun _ => .status "acme" "ann" "extconn_1"

def statusKey : String := broker.slot ⟨"acme", "ann", "extconn_1", "status"⟩

/-- The slots while the status is read. -/
def statusSlots : Limiter → Slots :=
  Function.update (fun _ => Slots.fresh) .broker ⟨[(statusKey, 1)], 1⟩

/-- The status in its `try`. -/
def statusTaken : Runner Slot :=
  ⟨.run (.tryFinally returns (.release (.broker, statusKey))), [], some (.broker, statusKey)⟩

theorem oneStatus_run : ∃ events threads,
    Run (TryStep (limiters oneSlot)) (operationsStart oneStatus) events ⟨statusSlots, threads⟩ ∧
      threads () = statusTaken := by
  have begun : Run (TryStep (limiters oneSlot)) (operationsStart oneStatus) []
    (operationsStart oneStatus) := .start
  have first := begun.next (i := ()) (.enter (.seq _ _))
  have second := first.next (i := ()) (.enter (.worked .normal))
  have third := second.next (i := ()) (.leave (.next _))
  have acquired : (limiters oneSlot).acquire (fun _ => Slots.fresh) (.broker, statusKey) =
      some statusSlots := rfl
  exact ⟨_, _, third.next (i := ()) (.taken acquired), Function.update_self _ _ _⟩

theorem slots_balanced_status : ∃ events threads,
    Run (TryStep (limiters oneSlot)) (operationsStart oneStatus) events ⟨statusSlots, threads⟩ ∧
      Balanced (oneSlot .broker) (statusSlots .broker)
        (fun i => heldAt .broker (threads i).held) ∧
      heldAt .broker (threads ()).held = some statusKey := by
  obtain ⟨events, threads, run, taken⟩ := oneStatus_run
  refine ⟨events, threads, run, (slots_balanced oneSlot oneStatus run .broker).1, ?_⟩
  rw [taken]
  rfl

end FolioLattice.Limits
