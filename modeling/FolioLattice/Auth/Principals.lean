/-
Verified principals, their scopes and the digest of a capability's arguments.
-/

import FolioLattice.Data.Hmac
import FolioLattice.Data.JsonNormal
import FolioLattice.Effects.Fallible
import FolioLattice.Text.Strings
import Mathlib.Data.List.Dedup

namespace FolioLattice.Auth

open FolioLattice.Text FolioLattice.Data
open FolioLattice.Effects (except_bind_ok)

/-! ### Scopes -/

/-- A `frozenset` of strings, by its sorted members. -/
structure Scopes where
  sorted : List PyStr
  strict : sorted.Pairwise (· < ·)
  deriving DecidableEq

def Scopes.ofList (items : List PyStr) : Scopes where
  sorted := items.dedup.insertionSort (· ≤ ·)
  strict := by
    have ordered := List.pairwise_insertionSort (α := PyStr) (· ≤ ·) items.dedup
    have distinct : (items.dedup.insertionSort (· ≤ ·)).Nodup :=
      (List.perm_insertionSort (· ≤ ·) items.dedup).nodup_iff.mpr (List.nodup_dedup items)
    exact ordered.imp₂ (fun _ _ le ne => lt_of_le_of_ne le ne) distinct

def Scopes.empty : Scopes := ⟨[], List.Pairwise.nil⟩

theorem Scopes.ofList_sorted (scopes : Scopes) : Scopes.ofList scopes.sorted = scopes := by
  have distinct : scopes.sorted.Nodup := scopes.strict.imp (fun lt => ne_of_lt lt)
  have ordered : scopes.sorted.Pairwise (· ≤ ·) := scopes.strict.imp (fun lt => le_of_lt lt)
  obtain ⟨items, strict⟩ := scopes
  unfold Scopes.ofList
  congr 1
  rw [List.dedup_eq_self.mpr distinct]
  exact List.Pairwise.insertionSort_eq ordered

/-! ### Principals -/

structure Principal where
  tenantId : PyStr
  actorId : PyStr
  issuer : PyStr
  subject : PyStr
  scopes : Scopes
  deriving DecidableEq

/-- A request-scoped capability. -/
structure CapabilityBinding where
  tool : PyStr
  argumentsDigest : PyStr
  deriving DecidableEq

/-! ### Arguments -/

/-- A `ValueError` with its message. -/
structure ValueError where
  message : String
  deriving DecidableEq

section Arguments

variable {F : Type} [FloatFormat F]

/-- A non-empty string, or the error for anything else. -/
def nonEmptyText (message : String) : Option (Json F) → Except ValueError Unit
  | some (.str text) => if text.isEmpty then .error ⟨message⟩ else .ok ()
  | _ => .error ⟨message⟩

/-- `capability_arguments_digest`; only strings are printed, so `json.dumps` does
not raise. -/
def capabilityArgumentsDigest (arguments : List (PyStr × Json F)) : Except ValueError PyStr := do
  if arguments.any (fun e => e.1 ≠ pyStr "artifact_id" ∧ e.1 ≠ pyStr "version_id") then
    .error ⟨"renderer capability arguments contain unsupported fields"⟩
  else
    nonEmptyText "renderer capability requires artifact_id" (lookup (pyStr "artifact_id") arguments)
    if (lookup (pyStr "version_id") arguments).isSome then
      nonEmptyText "renderer capability version_id must be a non-empty string"
        (lookup (pyStr "version_id") arguments)
    match dumps false (.obj arguments) with
    | some encoded => .ok ((sha256Hex (encodeUtf8 encoded)).map codePoint)
    | none => .error ⟨"Out of range float values are not JSON compliant"⟩

/-- What is digested is the text of the arguments. -/
theorem capabilityArgumentsDigest_ok {arguments : List (PyStr × Json F)} {digest : PyStr}
    (digested : capabilityArgumentsDigest arguments = .ok digest) :
    ∃ encoded, dumps false (.obj arguments) = some encoded ∧
      digest = (sha256Hex (encodeUtf8 encoded)).map codePoint := by
  unfold capabilityArgumentsDigest at digested
  split at digested
  · cases digested
  · obtain ⟨_, _, digested⟩ := except_bind_ok digested
    split at digested
    · rename_i encoded dumped
      refine ⟨encoded, dumped, ?_⟩
      dsimp only at digested
      split at digested
      · obtain ⟨_, _, digested⟩ := except_bind_ok digested
        cases digested
        rfl
      · cases digested
        rfl
    · dsimp only at digested
      split at digested
      · obtain ⟨_, _, digested⟩ := except_bind_ok digested
        cases digested
      · cases digested

end Arguments

end FolioLattice.Auth
