/-
What one tenant's calls are answered, next to a run in which the calls of all other
tenants are deleted.
-/

import FolioLattice.Limits.Limiters
import Mathlib.Algebra.Ring.Int.Defs

namespace FolioLattice.Limits

open FolioLattice.Data FolioLattice.Relational FolioLattice.Concurrency

variable {τ : Type} [LinearOrder τ] [Sub τ] [Zero τ] [ClockTime τ]

/-! ### Windows of some of the buckets -/

namespace RateLimits

variable (limits : RateLimits τ) {keep : Bucket → Bool}

theorem live_antitone {now later : τ} (order : now ≤ later) {entry : Bucket × Window τ}
    (alive : limits.live later entry = true) : limits.live now entry = true := by
  unfold live at alive ⊢
  rw [Bool.not_eq_true', decide_eq_false_iff_not] at alive ⊢
  exact fun expired => alive (le_trans expired (ClockTime.sub_mono _ order))

theorem sweep_sweep {now later : τ} (order : now ≤ later) (windows : Windows τ) :
    limits.sweep later (limits.sweep now windows) = limits.sweep later windows := by
  unfold sweep
  rw [List.filter_filter]
  apply List.filter_congr
  intro entry _
  cases alive : limits.live later entry with
  | false => rfl
  | true => rw [limits.live_antitone order alive, Bool.and_self]

omit [ClockTime τ] in
theorem sweep_restrict (now : τ) (windows : Windows τ) :
    limits.sweep now (restrict keep windows) = restrict keep (limits.sweep now windows) :=
  List.filter_comm _ _ _

omit [LinearOrder τ] [Sub τ] [Zero τ] [ClockTime τ] in
theorem countOf_restrict_le (name : String) (windows : Windows τ) :
    countOf name (restrict keep windows) ≤ countOf name windows :=
  (List.Sublist.filter _ List.filter_sublist).length_le

/-- Some buckets are refused as if there were no others. -/
theorem refusal_restrict (windows : Windows τ) (now : τ) {buckets : List Bucket}
    (kept : ∀ bucket ∈ buckets, keep bucket = true)
    (room : ∀ bucket ∈ buckets, countOf bucket.1 windows < limits.maxKeys) :
    limits.refusal (restrict keep windows) now buckets = limits.refusal windows now buckets := by
  induction buckets with
  | nil => rfl
  | cons bucket rest ih =>
      have later := ih (fun other member => kept other (List.mem_cons_of_mem _ member))
        (fun other member => room other (List.mem_cons_of_mem _ member))
      have here := room bucket List.mem_cons_self
      have fewer : countOf bucket.1 (restrict keep windows) ≤ countOf bucket.1 windows :=
        countOf_restrict_le _ _
      rw [refusal, refusal, getEntry_restrict _ (kept bucket List.mem_cons_self), later]
      cases getEntry bucket windows with
      | some window => rfl
      | none =>
          simp only
          rw [if_neg (by omega), if_neg (by omega)]

omit [LinearOrder τ] [Sub τ] [Zero τ] [ClockTime τ] in
theorem charge_restrict (now : τ) {buckets : List Bucket}
    (kept : ∀ bucket ∈ buckets, keep bucket = true) (windows : Windows τ) :
    buckets.foldl (charge now) (restrict keep windows) =
      restrict keep (buckets.foldl (charge now) windows) := by
  induction buckets generalizing windows with
  | nil => rfl
  | cons bucket rest ih =>
      have isKept := kept bucket List.mem_cons_self
      rw [List.foldl_cons, List.foldl_cons, ← ih (fun other member =>
        kept other (List.mem_cons_of_mem _ member))]
      congr 1
      unfold charge
      rw [getEntry_restrict _ isKept, restrict_putEntry _ isKept]

omit [LinearOrder τ] [Sub τ] [Zero τ] [ClockTime τ] in
theorem charge_restrict_other (now : τ) {buckets : List Bucket}
    (dropped : ∀ bucket ∈ buckets, ¬keep bucket = true) (windows : Windows τ) :
    restrict keep (buckets.foldl (charge now) windows) = restrict keep windows := by
  induction buckets generalizing windows with
  | nil => rfl
  | cons bucket rest ih =>
      rw [List.foldl_cons, ih (fun other member => dropped other (List.mem_cons_of_mem _ member))]
      exact restrict_putEntry_other _ (dropped bucket List.mem_cons_self) _

/-- What others charge is swept away or lies in other buckets. -/
theorem allow_other {now later : τ} (order : now ≤ later) (windows : Windows τ)
    {dimensions : List Bucket}
    (dropped : ∀ bucket ∈ limits.candidates dimensions, ¬keep bucket = true) :
    restrict keep (limits.sweep later (limits.allow windows now dimensions).1) =
      restrict keep (limits.sweep later windows) := by
  unfold allow
  simp only
  split
  · rfl
  · split
    · rw [limits.sweep_sweep order]
    · rw [← limits.sweep_restrict, charge_restrict_other now dropped, limits.sweep_restrict,
        limits.sweep_sweep order]

/-- A call that is charged to some buckets is answered as if there were no others. -/
theorem allow_own {now : τ} {windows own : Windows τ} {dimensions : List Bucket}
    (same : limits.sweep now own = restrict keep (limits.sweep now windows))
    (kept : ∀ bucket ∈ limits.candidates dimensions, keep bucket = true)
    (room : ∀ name, countOf name (limits.sweep now windows) < limits.maxKeys) :
    (limits.allow own now dimensions).2 = (limits.allow windows now dimensions).2 ∧
      ∀ later, now ≤ later →
        limits.sweep later own = restrict keep (limits.sweep later windows) →
        limits.sweep later (limits.allow own now dimensions).1 =
          restrict keep (limits.sweep later (limits.allow windows now dimensions).1) := by
  unfold allow
  simp only
  split
  · exact ⟨rfl, fun later _ known => known⟩
  · rw [same, limits.refusal_restrict _ now kept (fun bucket _ => room bucket.1)]
    cases limits.refusal (limits.sweep now windows) now (limits.candidates dimensions) with
    | some seconds =>
        exact ⟨rfl, fun later _ _ => limits.sweep_restrict later _⟩
    | none =>
        refine ⟨rfl, ?_⟩
        intro later _ _
        simp only
        rw [charge_restrict now kept, limits.sweep_restrict]

end RateLimits

/-! ### Slots of some of the keys -/

structure Slots.Sound (slots : Slots) : Prop where
  total : slots.total = Relational.total slots.active

/-- `own` are the slots of some of the keys. -/
structure SlotsOf (keep : String → Bool) (slots own : Slots) : Prop where
  active : own.active = restrict keep slots.active
  sound : slots.Sound
  ownSound : own.Sound

section Slots

variable {keep : String → Bool} {slots own : Slots} {key : String}

theorem Slots.Sound.put (sound : slots.Sound) (key : String) :
    (⟨putEntry key ((getEntry key slots.active).getD 0 + 1) slots.active,
      slots.total + 1⟩ : Slots).Sound := by
  have sum := total_putEntry key ((getEntry key slots.active).getD 0 + 1) slots.active
  have known := sound.total
  refine ⟨?_⟩
  simp only
  omega

theorem Slots.Sound.release (sound : slots.Sound) (key : String) : (slots.release key).Sound := by
  have known := sound.total
  have popped := total_popEntry key slots.active
  have put := total_putEntry key ((getEntry key slots.active).getD 0 - 1) slots.active
  unfold Slots.release
  simp only
  split
  · exact sound
  · refine ⟨?_⟩
    simp only
    split <;> split <;> omega

theorem SlotsOf.release (related : SlotsOf keep slots own) (kept : keep key = true) :
    SlotsOf keep (slots.release key) (own.release key) where
  active := by
    have same := getEntry_restrict slots.active kept
    unfold Slots.release
    rw [related.active, same]
    simp only
    split
    · exact related.active
    · split
      · exact (restrict_popEntry slots.active kept).symm
      · exact (restrict_putEntry slots.active kept _).symm
  sound := related.sound.release key
  ownSound := related.ownSound.release key

theorem SlotsOf.release_other (related : SlotsOf keep slots own) (dropped : ¬keep key = true) :
    SlotsOf keep (slots.release key) own where
  active := by
    unfold Slots.release
    simp only
    split
    · exact related.active
    · simp only
      split
      · rw [restrict_popEntry_other _ dropped]
        exact related.active
      · rw [restrict_putEntry_other _ dropped]
        exact related.active
  sound := related.sound.release key
  ownSound := related.ownSound

theorem tryAcquire_sound (limits : SlotLimits) (sound : slots.Sound) (key : String) :
    (limits.tryAcquire slots key).1.Sound := by
  unfold SlotLimits.tryAcquire
  simp only
  split
  · exact sound
  · exact sound.put key

theorem SlotsOf.tryAcquire_other (related : SlotsOf keep slots own) (limits : SlotLimits)
    (dropped : ¬keep key = true) : SlotsOf keep (limits.tryAcquire slots key).1 own where
  active := by
    unfold SlotLimits.tryAcquire
    simp only
    split
    · exact related.active
    · rw [restrict_putEntry_other _ dropped]
      exact related.active
  sound := tryAcquire_sound limits related.sound key
  ownSound := related.ownSound

/-- While there is room, a key gets its slot as if there were no others. -/
theorem SlotsOf.tryAcquire (related : SlotsOf keep slots own) (limits : SlotLimits)
    (kept : keep key = true) (free : slots.total < limits.limit)
    (room : slots.active.length < limits.maxKeys) :
    (limits.tryAcquire own key).2 = (limits.tryAcquire slots key).2 ∧
      SlotsOf keep (limits.tryAcquire slots key).1 (limits.tryAcquire own key).1 := by
  have same := getEntry_restrict slots.active kept
  have fewer := total_restrict_le keep slots.active
  have shorter : (restrict keep slots.active).length ≤ slots.active.length :=
    List.length_filter_le _ _
  have sum := related.sound.total
  have ownSum := related.ownSound.total
  rw [related.active] at ownSum
  have agree : (limits.limit ≤ own.total ∨ limits.perKeyLimit ≤ (getEntry key own.active).getD 0 ∨
      ((getEntry key own.active).getD 0 = 0 ∧ limits.maxKeys ≤ own.active.length)) ↔
      (limits.limit ≤ slots.total ∨ limits.perKeyLimit ≤ (getEntry key slots.active).getD 0 ∨
        ((getEntry key slots.active).getD 0 = 0 ∧ limits.maxKeys ≤ slots.active.length)) := by
    rw [related.active, same]
    omega
  refine ⟨?_, ?_, tryAcquire_sound limits related.sound key,
    tryAcquire_sound limits related.ownSound key⟩
  · unfold SlotLimits.tryAcquire
    simp only [agree]
    split <;> rfl
  · unfold SlotLimits.tryAcquire
    simp only [agree]
    split
    · exact related.active
    · simp only
      rw [related.active, same]
      exact (restrict_putEntry slots.active kept _).symm

end Slots

/-! ### Two runs -/

section Runs

variable {γ ρ : Type}

def GateEvent.reading : GateEvent γ τ → Option τ
  | .attempt _ now => some now
  | .release _ => none

/-- The calls come in the order in which they read the clock. -/
def Chronological (events : List (GateEvent γ τ)) : Prop :=
  events.Pairwise (fun first second => ∀ now ∈ first.reading, ∀ later ∈ second.reading, now ≤ later)

/-- The buckets and the slot that a call is charged to. -/
def Front.buckets (front : Front γ ρ) (limits : GateLimits τ) (call : γ) : List Bucket :=
  limits.rates.candidates (front.dimensions call)

/-- The tenant's calls and the others' are charged to different buckets and slots. -/
def Separate (front : Front γ ρ) (limits : GateLimits τ) (tenant : String)
    (events : List (GateEvent γ τ)) : Prop :=
  ∀ mine ∈ events, ∀ other ∈ events, front.tenant mine.of = tenant →
    front.tenant other.of ≠ tenant →
    (∀ bucket ∈ front.buckets limits mine.of, bucket ∉ front.buckets limits other.of) ∧
      front.slot mine.of ≠ front.slot other.of

/-- No dimension has as many live windows as it may have keys. -/
def Uncrowded (limits : GateLimits τ) (gate : Gate τ) : GateEvent γ τ → Prop
  | .attempt _ now => ∀ name, RateLimits.countOf name (limits.rates.sweep now gate.windows) <
      limits.rates.maxKeys
  | .release _ => True

/-- The tenant's call finds a slot free of those that all tenants share. -/
def Roomy (front : Front γ ρ) (limits : GateLimits τ) (tenant : String) (gate : Gate τ) :
    GateEvent γ τ → Prop
  | .attempt call _ => front.tenant call = tenant → gate.slots.total < limits.slots.limit ∧
      gate.slots.active.length < limits.slots.maxKeys
  | .release _ => True

/-- The gate of the tenant's own run, next to the gate of everyone's. -/
structure Mirrors (limits : GateLimits τ) (keepBucket : Bucket → Bool) (keepSlot : String → Bool)
    (events : List (GateEvent γ τ)) (gate own : Gate τ) : Prop where
  chronological : Chronological events
  windows : ∀ event ∈ events, ∀ now ∈ event.reading, limits.rates.sweep now own.windows =
    restrict keepBucket (limits.rates.sweep now gate.windows)
  slots : SlotsOf keepSlot gate.slots own.slots

variable {front : Front γ ρ} {limits : GateLimits τ} {keepBucket : Bucket → Bool}
  {keepSlot : String → Bool} {rest : List (GateEvent γ τ)} {gate own : Gate τ}

omit [Sub τ] [Zero τ] [ClockTime τ] in
theorem Chronological.later {call : γ} {now : τ} (order : Chronological (.attempt call now :: rest))
    {event : GateEvent γ τ} (member : event ∈ rest) {later : τ} (reading : later ∈ event.reading) :
    now ≤ later :=
  (List.pairwise_cons.mp order).1 event member now rfl later reading

omit [Sub τ] [Zero τ] [ClockTime τ] in
theorem Chronological.tail {event : GateEvent γ τ} (order : Chronological (event :: rest)) :
    Chronological rest :=
  (List.pairwise_cons.mp order).2

/-- The gate after a call, by the two limiters. -/
theorem Front.attempt_windows (front : Front γ ρ) (limits : GateLimits τ) (gate : Gate τ) (now : τ)
    (call : γ) : (front.attempt limits gate now call).1.windows =
      (limits.rates.allow gate.windows now (front.dimensions call)).1 := by
  unfold Front.attempt
  cases limits.rates.allow gate.windows now (front.dimensions call) with
  | mk windows seconds =>
      cases seconds with
      | some _ => rfl
      | none =>
          cases limits.slots.tryAcquire gate.slots (front.slot call) with
          | mk slots granted => cases granted <;> rfl

theorem Front.attempt_slots (front : Front γ ρ) (limits : GateLimits τ) (gate : Gate τ) (now : τ)
    (call : γ) : (front.attempt limits gate now call).1.slots =
      if (limits.rates.allow gate.windows now (front.dimensions call)).2 = none then
        (limits.slots.tryAcquire gate.slots (front.slot call)).1
      else gate.slots := by
  unfold Front.attempt
  cases limits.rates.allow gate.windows now (front.dimensions call) with
  | mk windows seconds =>
      cases seconds with
      | some _ => rfl
      | none =>
          cases limits.slots.tryAcquire gate.slots (front.slot call) with
          | mk slots granted => cases granted <;> rfl

theorem Front.attempt_answer (front : Front γ ρ) (limits : GateLimits τ) (gate own : Gate τ) (now : τ)
    (call : γ)
    (rates : (limits.rates.allow own.windows now (front.dimensions call)).2 =
      (limits.rates.allow gate.windows now (front.dimensions call)).2)
    (slots : (limits.slots.tryAcquire own.slots (front.slot call)).2 =
      (limits.slots.tryAcquire gate.slots (front.slot call)).2) :
    (front.attempt limits own now call).2 = (front.attempt limits gate now call).2 := by
  unfold Front.attempt
  cases allowed : limits.rates.allow gate.windows now (front.dimensions call) with
  | mk windows seconds =>
      cases allowed' : limits.rates.allow own.windows now (front.dimensions call) with
      | mk windows' seconds' =>
          rw [allowed, allowed'] at rates
          cases rates
          cases seconds with
          | some _ => rfl
          | none =>
              simp only
              cases acquired : limits.slots.tryAcquire gate.slots (front.slot call) with
              | mk next granted =>
                  cases acquired' : limits.slots.tryAcquire own.slots (front.slot call) with
                  | mk next' granted' =>
                      rw [acquired, acquired'] at slots
                      cases slots
                      cases granted <;> rfl

/-- Another tenant's call leaves the buckets and slots of this one alone. -/
theorem Mirrors.other {event : GateEvent γ τ}
    (mirrors : Mirrors limits keepBucket keepSlot (event :: rest) gate own)
    (buckets : ∀ bucket ∈ front.buckets limits event.of, ¬keepBucket bucket = true)
    (slot : ¬keepSlot (front.slot event.of) = true) :
    Mirrors limits keepBucket keepSlot rest (front.step limits gate event).1 own where
  chronological := mirrors.chronological.tail
  windows := by
    intro later member time reading
    have known := mirrors.windows later (List.mem_cons_of_mem _ member) time reading
    cases event with
    | release call => exact known
    | attempt call now =>
        rw [known]
        change _ = restrict keepBucket (limits.rates.sweep time
          (front.attempt limits gate now call).1.windows)
        rw [front.attempt_windows]
        exact (limits.rates.allow_other (mirrors.chronological.later member reading) _ buckets).symm
  slots := by
    cases event with
    | release call => exact mirrors.slots.release_other slot
    | attempt call now =>
        change SlotsOf keepSlot (front.attempt limits gate now call).1.slots own.slots
        rw [front.attempt_slots]
        split
        · exact mirrors.slots.tryAcquire_other limits.slots slot
        · exact mirrors.slots

/-- The tenant's own call is answered alike in both runs. -/
theorem Mirrors.mine {tenant : String} {event : GateEvent γ τ}
    (mirrors : Mirrors limits keepBucket keepSlot (event :: rest) gate own)
    (isOwn : front.tenant event.of = tenant)
    (buckets : ∀ bucket ∈ front.buckets limits event.of, keepBucket bucket = true)
    (slot : keepSlot (front.slot event.of) = true) (uncrowded : Uncrowded limits gate event)
    (roomy : Roomy front limits tenant gate event) :
    Mirrors limits keepBucket keepSlot rest (front.step limits gate event).1
        (front.step limits own event).1 ∧
      (front.step limits gate event).2 = (front.step limits own event).2 := by
  cases event with
  | release call =>
      refine ⟨⟨mirrors.chronological.tail, ?_, mirrors.slots.release slot⟩, rfl⟩
      intro later member time reading
      exact mirrors.windows later (List.mem_cons_of_mem _ member) time reading
  | attempt call now =>
      obtain ⟨free, room⟩ := roomy isOwn
      obtain ⟨rates, next⟩ := limits.rates.allow_own
        (mirrors.windows _ List.mem_cons_self now rfl) buckets uncrowded
      obtain ⟨granted, slots⟩ := mirrors.slots.tryAcquire limits.slots slot free room
      refine ⟨⟨mirrors.chronological.tail, ?_, ?_⟩, ?_⟩
      · intro later member time reading
        change limits.rates.sweep time (front.attempt limits own now call).1.windows =
          restrict keepBucket (limits.rates.sweep time (front.attempt limits gate now call).1.windows)
        rw [front.attempt_windows, front.attempt_windows]
        exact next time (mirrors.chronological.later member reading)
          (mirrors.windows later (List.mem_cons_of_mem _ member) time reading)
      · change SlotsOf keepSlot (front.attempt limits gate now call).1.slots
          (front.attempt limits own now call).1.slots
        have sameRates : (limits.rates.allow own.windows now (front.dimensions call)).2 =
          (limits.rates.allow gate.windows now (front.dimensions call)).2 := rates
        rw [front.attempt_slots, front.attempt_slots, sameRates]
        split
        · exact slots
        · exact mirrors.slots
      · exact congrArg some (front.attempt_answer limits gate own now call rates granted).symm

/-- With separate buckets and slots and room in what all share, a tenant's calls are
answered as if there were no other tenants. -/
theorem Front.fair (front : Front γ ρ) (limits : GateLimits τ) (tenant : String)
    (events : List (GateEvent γ τ)) (chronological : Chronological events)
    (separate : Separate front limits tenant events)
    (along : Along (front.step limits) (fun gate event => Uncrowded limits gate event ∧
      Roomy front limits tenant gate event) .fresh events) :
    (answers (front.step limits) .fresh events).filter
        (fun answer => front.tenant answer.1.of = tenant) =
      answers (front.step limits) .fresh
        (events.filter (fun event => front.tenant event.of = tenant)) := by
  -- the buckets and slots that the tenant's own calls are charged to
  let keepBucket : Bucket → Bool := fun bucket => events.any (fun event =>
    front.tenant event.of = tenant && bucket ∈ front.buckets limits event.of)
  let keepSlot : String → Bool := fun key => events.any (fun event =>
    front.tenant event.of = tenant && front.slot event.of = key)
  have start : Mirrors limits keepBucket keepSlot events Gate.fresh (Gate.fresh : Gate τ) :=
    ⟨chronological, fun _ _ _ _ => rfl, rfl, ⟨rfl⟩, ⟨rfl⟩⟩
  refine answers_purge (fun event => front.tenant event.of = tenant) (R := fun later gate own => (∀ event ∈ later, event ∈ events) ∧
    Mirrors limits keepBucket keepSlot later gate own) ?_ ?_ events _ _
    ⟨fun _ member => member, start⟩ along
  · intro event rest gate own ⟨inside, mirrors⟩ _ foreign
    have isOther : front.tenant event.of ≠ tenant := of_decide_eq_false foreign
    have member := inside event List.mem_cons_self
    refine ⟨fun later isLater => inside later (List.mem_cons_of_mem _ isLater),
      mirrors.other ?_ ?_⟩
    · intro bucket charged kept
      obtain ⟨mine, isMine, both⟩ := List.any_eq_true.mp kept
      rw [Bool.and_eq_true, decide_eq_true_eq, decide_eq_true_eq] at both
      exact (separate mine isMine event member both.1 isOther).1 bucket both.2 charged
    · intro kept
      obtain ⟨mine, isMine, both⟩ := List.any_eq_true.mp kept
      rw [Bool.and_eq_true, decide_eq_true_eq, decide_eq_true_eq] at both
      exact (separate mine isMine event member both.1 isOther).2 both.2
  · intro event rest gate own ⟨inside, mirrors⟩ ⟨uncrowded, roomy⟩ isMine
    have isOwn : front.tenant event.of = tenant := of_decide_eq_true isMine
    have member := inside event List.mem_cons_self
    obtain ⟨next, same⟩ := mirrors.mine isOwn (fun bucket charged =>
      List.any_eq_true.mpr ⟨event, member, by simp [isOwn, charged]⟩)
      (List.any_eq_true.mpr ⟨event, member, by simp [isOwn]⟩) uncrowded roomy
    exact ⟨⟨fun later isLater => inside later (List.mem_cons_of_mem _ isLater), next⟩, same⟩

end Runs

/-- In a trace of the broker, and in one of the gateway for artifacts, in which the
tenant's calls share no bucket and no slot with another tenant's and find room in what
all tenants share, they are answered as in the trace without the other tenants. -/
theorem admission_fair (limits : GateLimits τ) (app : AppIdentity) (tenant : String) :
    (∀ events : List (GateEvent BrokerCall τ), Chronological events →
      Separate broker limits tenant events →
      Along (broker.step limits) (fun gate event => Uncrowded limits gate event ∧
        Roomy broker limits tenant gate event) .fresh events →
      (answers (broker.step limits) .fresh events).filter
          (fun answer => answer.1.of.tenantId = tenant) =
        answers (broker.step limits) .fresh
          (events.filter (fun event => event.of.tenantId = tenant))) ∧
      ∀ events : List (GateEvent ApiRequest τ), Chronological events →
        Separate (inspectionApp app) limits tenant events →
        Along ((inspectionApp app).step limits) (fun gate event => Uncrowded limits gate event ∧
          Roomy (inspectionApp app) limits tenant gate event) .fresh events →
        (answers ((inspectionApp app).step limits) .fresh events).filter
            (fun answer => resourceTenant app answer.1.of = tenant) =
          answers ((inspectionApp app).step limits) .fresh
            (events.filter (fun event => resourceTenant app event.of = tenant)) :=
  ⟨broker.fair limits tenant, (inspectionApp app).fair limits tenant⟩

/-! ### One actor id in two tenants -/

omit [ClockTime τ] in
theorem uncrowded_of_few {γ : Type} {limits : GateLimits τ} {gate : Gate τ}
    (few : gate.windows.length < limits.rates.maxKeys) (event : GateEvent γ τ) :
    Uncrowded limits gate event := by
  cases event with
  | release call => exact trivial
  | attempt call now =>
      intro name
      have swept := List.length_filter_le (limits.rates.live now) gate.windows
      have counted := List.length_filter_le (fun entry => decide (entry.1.1 = name))
        (limits.rates.sweep now gate.windows)
      unfold RateLimits.sweep at counted
      unfold RateLimits.countOf RateLimits.sweep
      omega

instance secondsClock : ClockTime Int where
  ceil n := n
  sub_mono c order := by omega

/-- One call a minute in each dimension. -/
def onceAMinute : GateLimits Int where
  rates :=
    { limits := [("tenant", 1), ("actor", 1), ("connection", 1)]
      windowSeconds := 60
      maxKeys := 4096
      limits_ne := List.cons_ne_nil _ _
      limits_pos := by decide
      windowSeconds_pos := by decide
      maxKeys_pos := by decide }
  slots := ⟨32, 4, 4096, by decide, by decide, by decide⟩

/-- A call of one tenant, and a second later one of another tenant. -/
def twoCalls (first second : BrokerCall) : List (GateEvent BrokerCall Int) :=
  [.attempt first 0, .release first, .attempt second 1]

def acmeStatus : BrokerCall := ⟨"acme", "bob", "extconn_1", "status"⟩

def otherBob : BrokerCall := ⟨"globex", "bob", "extconn_2", "status"⟩

def otherEve : BrokerCall := ⟨"globex", "eve", "extconn_2", "status"⟩

theorem twoCalls_chronological (first second : BrokerCall) :
    Chronological (twoCalls first second) := by
  simp [Chronological, twoCalls, GateEvent.reading]

theorem admission_fair_separate :
    (answers (broker.step onceAMinute) .fresh (twoCalls acmeStatus otherEve)).filter
        (fun answer => answer.1.of.tenantId = "globex") =
      answers (broker.step onceAMinute) .fresh
        ((twoCalls acmeStatus otherEve).filter (fun event => event.of.tenantId = "globex")) :=
  (admission_fair onceAMinute ⟨"globex", "eve"⟩ "globex").1 (twoCalls acmeStatus otherEve)
    (twoCalls_chronological _ _) (by unfold Separate; decide)
    ⟨⟨uncrowded_of_few (by decide) _, fun foreign => absurd foreign (by decide)⟩,
      ⟨uncrowded_of_few (by decide) _, trivial⟩,
      ⟨uncrowded_of_few (by decide) _, fun _ => by decide⟩, trivial⟩

/-- The call of the other tenant uses up what its namesake may do. -/
theorem admission_not_fair :
    ¬∀ (limits : GateLimits Int) (tenant : String) (events : List (GateEvent BrokerCall Int)),
      Chronological events →
      Along (broker.step limits) (fun gate event => Uncrowded limits gate event) .fresh events →
      (answers (broker.step limits) .fresh events).filter
          (fun answer => answer.1.of.tenantId = tenant) =
        answers (broker.step limits) .fresh
          (events.filter (fun event => event.of.tenantId = tenant)) := by
  intro always
  have same := always onceAMinute "globex" (twoCalls acmeStatus otherBob)
    (twoCalls_chronological _ _) ⟨uncrowded_of_few (by decide) _, uncrowded_of_few (by decide) _,
      uncrowded_of_few (by decide) _, trivial⟩
  have granted := congrArg (List.map (fun answer => answer.2.any Except.isOk)) same
  revert granted
  decide

end FolioLattice.Limits
