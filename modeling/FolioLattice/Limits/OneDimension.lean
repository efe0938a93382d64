/-
The three rate limiters: the one with a key for each call, the server's own, and the one over
dimensions where there is a single one.
-/

import FolioLattice.Concurrency.Lockstep
import FolioLattice.Limits.RetryAfter

namespace FolioLattice.Limits

open FolioLattice.Relational
open FolioLattice.Concurrency (Lockstep outputs stateAfter)

variable {τ : Type} [LinearOrder τ] [Sub τ] [Zero τ] [ElapsedTime τ]

namespace KeyRates

variable (limits : KeyRates τ)

/-! ### The server's limiter -/

/-- The keys whose windows have expired. -/
def expired (now : τ) (windows : KeyWindows τ) : List String :=
  (windows.filter (fun entry => decide (limits.windowSeconds ≤ now - entry.2.startedAt))).map (·.1)

/-- What the loop over the expired keys leaves. -/
def serverSweep (now : τ) (windows : KeyWindows τ) : KeyWindows τ :=
  deleteAll (limits.expired now windows) windows

/-- The server's `_BoundedRateLimiter.allow`, with an answer as that of `BoundedRateLimiter`. -/
def serverAllow (windows : KeyWindows τ) (now : τ) (key : String) : KeyWindows τ × Option Int :=
  let left := limits.serverSweep now windows
  match getEntry key left with
  | none =>
      if limits.maxKeys ≤ left.length then
        (left, some (RateLimits.retryAfter limits.windowSeconds))
      else (putEntry key ⟨now, 1⟩ left, none)
  | some window =>
      if limits.limit ≤ window.count then
        (left, some (RateLimits.retryAfter (limits.windowSeconds - (now - window.startedAt))))
      else (putEntry key ⟨window.startedAt, window.count + 1⟩ left, none)

/-! ### A single dimension -/

/-- The arguments of `DimensionRateLimiter` for one dimension with these bounds. -/
def dimension (name : String) : RateLimits τ where
  limits := [(name, limits.limit)]
  windowSeconds := limits.windowSeconds
  maxKeys := limits.maxKeys
  limits_ne := List.cons_ne_nil _ _
  limits_pos limit member := by
    rw [List.mem_singleton.mp member]
    exact limits.limit_pos
  windowSeconds_pos := limits.windowSeconds_pos
  maxKeys_pos := limits.maxKeys_pos

/-! ### Calls -/

/-- A call is a reading of the clock and a key. -/
def boundedStep (windows : KeyWindows τ) (call : τ × String) : KeyWindows τ × Option Int :=
  limits.allow windows call.1 call.2

def serverStep (windows : KeyWindows τ) (call : τ × String) : KeyWindows τ × Option Int :=
  limits.serverAllow windows call.1 call.2

def dimensionStep (name : String) (windows : Windows τ) (call : τ × String) :
    Windows τ × Option Int :=
  (limits.dimension name).allow windows call.1 [(name, call.2)]

variable {limits} {windows : KeyWindows τ} (now : τ) (key : String) {name : String}

/-! ### The server's limiter does the same -/

omit [ElapsedTime τ] in
theorem serverSweep_eq (bounded : limits.Bounded windows) :
    limits.serverSweep now windows = limits.sweep now windows :=
  deleteAll_keys _ bounded.distinct

theorem serverAllow_eq (bounded : limits.Bounded windows) :
    limits.serverAllow windows now key = limits.allow windows now key := by
  unfold serverAllow
  rw [serverSweep_eq now bounded]
  rfl

theorem server_lockstep :
    Lockstep limits.boundedStep limits.serverStep (fun _ => True)
      (fun windows windows' => limits.Bounded windows ∧ windows' = windows) where
  answer windows windows' call both _ := by
    rw [both.2]
    exact (congrArg Prod.snd (serverAllow_eq call.1 call.2 both.1)).symm
  next windows windows' call both _ := by
    rw [both.2]
    exact ⟨both.1.allow call.1 call.2, congrArg Prod.fst (serverAllow_eq call.1 call.2 both.1)⟩

/-! ### One dimension does the same -/

/-- The windows of the keys as those of a dimension. -/
def inDimension (name : String) (windows : KeyWindows τ) : Windows τ :=
  renameKeys (Prod.mk name) windows

omit [LinearOrder τ] [Sub τ] [Zero τ] [ElapsedTime τ] in
theorem getEntry_inDimension (windows : KeyWindows τ) :
    getEntry (name, key) (inDimension name windows) = getEntry key windows :=
  getEntry_renameKeys (Prod.mk_right_injective name) key windows

omit [LinearOrder τ] [Sub τ] [Zero τ] [ElapsedTime τ] in
theorem countOf_inDimension (windows : KeyWindows τ) :
    RateLimits.countOf name (inDimension name windows) = windows.length := by
  unfold RateLimits.countOf inDimension
  rw [filter_renameKeys (fun _ => true) _ (fun _ => decide_eq_true rfl), List.filter_true]
  exact List.length_map _

omit [ElapsedTime τ] in
theorem sweep_inDimension :
    (limits.dimension name).sweep now (inDimension name windows) =
      inDimension name (limits.sweep now windows) :=
  filter_renameKeys _ _ (fun _ => rfl) windows

omit [Sub τ] [ElapsedTime τ] in
theorem candidates_dimension (keyed : key ≠ "") :
    (limits.dimension name).candidates [(name, key)] = [(name, key)] := by
  have configured : getEntry name [(name, limits.limit)] = some limits.limit :=
    getEntry_cons_of_eq [] rfl
  apply List.filter_eq_self.mpr
  intro bucket member
  rw [List.mem_singleton.mp member]
  change ((getEntry name [(name, limits.limit)]).isSome && !key.isEmpty) = true
  rw [configured, Option.isSome_some, Bool.true_and]
  simpa using keyed

/-- What stops a call of the one dimension. -/
theorem refusal_dimension :
    (limits.dimension name).refusal (inDimension name windows) now [(name, key)] =
      match getEntry key windows with
      | some window =>
          if limits.limit ≤ window.count then
            some (RateLimits.retryAfter (limits.windowSeconds - (now - window.startedAt)))
          else none
      | none =>
          if limits.maxKeys ≤ windows.length then some (RateLimits.retryAfter limits.windowSeconds)
          else none := by
  have bound : (getEntry name (limits.dimension name).limits).getD 0 = limits.limit := by
    change (getEntry name [(name, limits.limit)]).getD 0 = limits.limit
    have configured : getEntry name [(name, limits.limit)] = some limits.limit :=
      getEntry_cons_of_eq [] rfl
    rw [configured, Option.getD_some]
  unfold RateLimits.refusal RateLimits.refusal
  rw [getEntry_inDimension, countOf_inDimension, bound]
  rfl

/-- A call of the one dimension, on the windows of the keys. -/
theorem dimension_allow (keyed : key ≠ "") :
    (limits.dimension name).allow (inDimension name windows) now [(name, key)] =
      (inDimension name (limits.allow windows now key).1, (limits.allow windows now key).2) := by
  have usable : ¬([(name, key)] : List Bucket).isEmpty := Bool.false_ne_true
  unfold RateLimits.allow
  dsimp only
  rw [candidates_dimension key keyed, if_neg usable, sweep_inDimension, refusal_dimension]
  have charged : [(name, key)].foldl (RateLimits.charge now)
      (inDimension name (limits.sweep now windows)) =
        let window := (getEntry key (limits.sweep now windows)).getD ⟨now, 0⟩
        inDimension name (putEntry key ⟨window.startedAt, window.count + 1⟩
          (limits.sweep now windows)) := by
    change RateLimits.charge now _ (name, key) = _
    unfold RateLimits.charge
    rw [getEntry_inDimension]
    exact putEntry_renameKeys (Prod.mk_right_injective name) key _ _
  rw [charged]
  cases found : getEntry key (limits.sweep now windows) with
  | none =>
      rw [allow_absent found]
      by_cases full : limits.maxKeys ≤ (limits.sweep now windows).length
      · simp only [if_pos full]
      · simp only [if_neg full, Option.getD_none, Nat.zero_add]
  | some window =>
      rw [allow_window found]
      by_cases full : limits.limit ≤ window.count
      · simp only [if_pos full]
      · simp only [if_neg full, Option.getD_some]

theorem dimension_lockstep (name : String) :
    Lockstep limits.boundedStep (limits.dimensionStep name) (fun call => call.2 ≠ "")
      (fun windows windows' => windows' = inDimension name windows) where
  answer windows windows' call same keyed := by
    rw [same]
    exact (congrArg Prod.snd (dimension_allow call.1 call.2 keyed)).symm
  next windows windows' call same keyed := by
    rw [same]
    exact congrArg Prod.fst (dimension_allow call.1 call.2 keyed)

/-- The three limiters answer every run of calls alike, and at any time the unexpired windows of
the one are those of the others, which the third has under its dimension's name. -/
theorem limiters_agree (limits : KeyRates τ) (name : String) (calls : List (τ × String))
    (keyed : ∀ call ∈ calls, call.2 ≠ "") :
    outputs limits.serverStep [] calls = outputs limits.boundedStep [] calls ∧
      outputs (limits.dimensionStep name) [] calls = outputs limits.boundedStep [] calls ∧
      ∀ now,
        limits.serverSweep now (stateAfter limits.serverStep [] calls) =
          limits.sweep now (stateAfter limits.boundedStep [] calls) ∧
        (limits.dimension name).sweep now (stateAfter (limits.dimensionStep name) [] calls) =
          (limits.sweep now (stateAfter limits.boundedStep [] calls)).map
            (fun entry => ((name, entry.1), entry.2)) := by
  have server : Lockstep limits.boundedStep limits.serverStep _ _ := server_lockstep
  have dimension : Lockstep limits.boundedStep (limits.dimensionStep name) _ _ :=
    dimension_lockstep name
  have fresh : ([] : Windows τ) = inDimension name [] := rfl
  have every : ∀ call ∈ calls, True := fun _ _ => trivial
  obtain ⟨bounded, sameServer⟩ := server.related_after ⟨bounded_nil, rfl⟩ every
  refine ⟨(server.outputs_eq ⟨bounded_nil, rfl⟩ every).symm,
    (dimension.outputs_eq fresh keyed).symm, fun now => ⟨?_, ?_⟩⟩
  · rw [sameServer, serverSweep_eq now bounded]
  · rw [dimension.related_after fresh keyed, sweep_inDimension]
    rfl

end KeyRates

theorem limiters_agree_three_calls :
    outputs (twoKeys.dimensionStep "tenant") [] [(0, "ann"), (30, "ann"), (60, "ann")] =
        outputs twoKeys.boundedStep [] [(0, "ann"), (30, "ann"), (60, "ann")] ∧
      outputs twoKeys.boundedStep [] [(0, "ann"), (30, "ann"), (60, "ann")] =
        [none, some 30, none] :=
  ⟨(KeyRates.limiters_agree twoKeys "tenant" [(0, "ann"), (30, "ann"), (60, "ann")]
    (by simp)).2.1, by decide +kernel⟩

end FolioLattice.Limits
