/-
The rate limiter over several dimensions and the limiter of concurrent calls, and
what the broker of external calls and the gateway for artifacts charge them with.
-/

import FolioLattice.Data.Json
import FolioLattice.Relational.Entries
import FolioLattice.Concurrency.Purge

namespace FolioLattice.Limits

open FolioLattice.Data FolioLattice.Relational

/-! ### The clock -/

/-- What `time.monotonic` returns.  Differences are rounded, so all that is known of
them is that a later reading has not a smaller one. -/
class ClockTime (τ : Type) [LinearOrder τ] [Sub τ] where
  /-- `math.ceil` -/
  ceil : τ → Int
  sub_mono : ∀ {a b : τ} (c : τ), a ≤ b → a - c ≤ b - c

variable {τ : Type} [LinearOrder τ] [Sub τ] [Zero τ] [ClockTime τ]

/-! ### Rates -/

structure Window (τ : Type) where
  startedAt : τ
  count : Nat
  deriving DecidableEq

/-- A dimension's name and the value that is charged. -/
abbrev Bucket := String × String

abbrev Windows (τ : Type) := List (Bucket × Window τ)

/-- The arguments that `DimensionRateLimiter` accepts. -/
structure RateLimits (τ : Type) [LinearOrder τ] [Zero τ] where
  limits : List (String × Nat)
  windowSeconds : τ
  maxKeys : Nat
  limits_ne : limits ≠ []
  limits_pos : ∀ limit ∈ limits, 1 ≤ limit.2
  windowSeconds_pos : 0 < windowSeconds
  maxKeys_pos : 1 ≤ maxKeys

namespace RateLimits

variable (limits : RateLimits τ)

def retryAfter (seconds : τ) : Int := max 1 (ClockTime.ceil seconds)

/-- `(name, value) for name, value in dimensions.items() if name in self.limits and value` -/
def candidates (dimensions : List Bucket) : List Bucket :=
  dimensions.filter (fun bucket => (getEntry bucket.1 limits.limits).isSome && !bucket.2.isEmpty)

def live (now : τ) (entry : Bucket × Window τ) : Bool :=
  !decide (limits.windowSeconds ≤ now - entry.2.startedAt)

/-- What is left when the expired windows are deleted. -/
def sweep (now : τ) (windows : Windows τ) : Windows τ := windows.filter (limits.live now)

/-- The windows of one dimension. -/
def countOf (name : String) (windows : Windows τ) : Nat :=
  (windows.filter (fun entry => entry.1.1 = name)).length

/-- The first candidate that is refused, as the seconds to wait. -/
def refusal (windows : Windows τ) (now : τ) : List Bucket → Option Int
  | [] => none
  | bucket :: rest =>
      match getEntry bucket windows with
      | some window =>
          if (getEntry bucket.1 limits.limits).getD 0 ≤ window.count then
            some (retryAfter (limits.windowSeconds - (now - window.startedAt)))
          else refusal windows now rest
      | none =>
          if limits.maxKeys ≤ countOf bucket.1 windows then some (retryAfter limits.windowSeconds)
          else refusal windows now rest

def charge (now : τ) (windows : Windows τ) (bucket : Bucket) : Windows τ :=
  let window := (getEntry bucket windows).getD ⟨now, 0⟩
  putEntry bucket ⟨window.startedAt, window.count + 1⟩ windows

/-- `DimensionRateLimiter.allow`: `none` for `(True, 0)`, the seconds for `(False, seconds)`. -/
def allow (windows : Windows τ) (now : τ) (dimensions : List Bucket) : Windows τ × Option Int :=
  let candidates := limits.candidates dimensions
  if candidates.isEmpty then (windows, some (retryAfter limits.windowSeconds))
  else
    let swept := limits.sweep now windows
    match limits.refusal swept now candidates with
    | some seconds => (swept, some seconds)
    | none => (candidates.foldl (charge now) swept, none)

end RateLimits

/-! ### Concurrent calls -/

/-- The arguments that `BoundedConcurrencyLimiter` accepts. -/
structure SlotLimits where
  limit : Nat
  perKeyLimit : Nat
  maxKeys : Nat
  limit_pos : 1 ≤ limit
  perKeyLimit_pos : 1 ≤ perKeyLimit
  maxKeys_pos : 1 ≤ maxKeys

structure Slots where
  active : List (String × Nat)
  total : Nat
  deriving DecidableEq

def SlotLimits.tryAcquire (limits : SlotLimits) (slots : Slots) (key : String) : Slots × Bool :=
  let active := (getEntry key slots.active).getD 0
  if limits.limit ≤ slots.total ∨ limits.perKeyLimit ≤ active ∨
      (active = 0 ∧ limits.maxKeys ≤ slots.active.length) then (slots, false)
  else (⟨putEntry key (active + 1) slots.active, slots.total + 1⟩, true)

def Slots.release (slots : Slots) (key : String) : Slots :=
  let active := (getEntry key slots.active).getD 0
  if active = 0 then slots
  else
    ⟨if active ≤ 1 then popEntry key slots.active else putEntry key (active - 1) slots.active,
      if 0 < slots.total then slots.total - 1 else slots.total⟩

/-! ### Admission -/

structure GateLimits (τ : Type) [LinearOrder τ] [Zero τ] where
  rates : RateLimits τ
  slots : SlotLimits

structure Gate (τ : Type) where
  windows : Windows τ
  slots : Slots

def Gate.fresh : Gate τ := ⟨[], ⟨[], 0⟩⟩

inductive Admission where
  | rateLimited (retryAfter : Int)
  | busy
  | admitted
  deriving DecidableEq, Repr

/-- What a component charges for one of its calls, and how it answers. -/
structure Front (γ ρ : Type) where
  tenant : γ → String
  dimensions : γ → List Bucket
  slot : γ → String
  answer : γ → Admission → ρ

variable {γ ρ : Type}

def Front.attempt (front : Front γ ρ) (limits : GateLimits τ) (gate : Gate τ) (now : τ) (call : γ) :
    Gate τ × ρ :=
  match limits.rates.allow gate.windows now (front.dimensions call) with
  | (windows, some seconds) => (⟨windows, gate.slots⟩, front.answer call (.rateLimited seconds))
  | (windows, none) =>
      match limits.slots.tryAcquire gate.slots (front.slot call) with
      | (slots, true) => (⟨windows, slots⟩, front.answer call .admitted)
      | (slots, false) => (⟨windows, slots⟩, front.answer call .busy)

/-- A call at a reading of the clock, or the end of one that was admitted. -/
inductive GateEvent (γ τ : Type) where
  | attempt (call : γ) (now : τ)
  | release (call : γ)

def GateEvent.of : GateEvent γ τ → γ
  | .attempt call _ => call
  | .release call => call

def Front.step (front : Front γ ρ) (limits : GateLimits τ) (gate : Gate τ) :
    GateEvent γ τ → Gate τ × Option ρ
  | .attempt call now => ((front.attempt limits gate now call).1, some (front.attempt limits gate now call).2)
  | .release call => (⟨gate.windows, gate.slots.release (front.slot call)⟩, none)

/-! ### The broker -/

structure BrokerCall where
  tenantId : String
  actor : String
  connectionId : String
  operation : String
  deriving DecidableEq

/-- `ExternalMcpBroker._admit`: the key to release, or the text of its `ExternalMcpError`. -/
def broker : Front BrokerCall (Except String String) where
  tenant call := call.tenantId
  dimensions call :=
    [("tenant", call.tenantId), ("actor", call.actor), ("connection", call.connectionId)]
  slot call := String.intercalate "\x1f" [call.tenantId, call.actor, call.connectionId, call.operation]
  answer call
    | .rateLimited seconds =>
        .error ("external MCP rate limited; retry after " ++ toString seconds ++ " seconds")
    | .busy => .error "external MCP concurrency limit exceeded"
    | .admitted => .ok
        (String.intercalate "\x1f" [call.tenantId, call.actor, call.connectionId, call.operation])

/-! ### The gateway for artifacts -/

/-- The principal of a request, as tenant and actor, and the client's address. -/
structure ApiRequest where
  principal : Option (String × String)
  client : Option String
  deriving DecidableEq

structure AppIdentity where
  organization : String
  actor : String

structure ApiError where
  statusCode : Nat
  code : String
  message : String
  retryAfter : Int
  deriving DecidableEq

/-- `text or "unknown"` -/
def orUnknown (text : String) : String := if text.isEmpty then "unknown" else text

def resourceTenant (app : AppIdentity) (request : ApiRequest) : String :=
  orUnknown ((request.principal.map (·.1)).getD app.organization)

def resourceActor (app : AppIdentity) (request : ApiRequest) : String :=
  orUnknown ((request.principal.map (·.2)).getD app.actor)

def resourceIp (request : ApiRequest) : String := request.client.getD "unknown"

/-- `InspectionApp._api`, to the point where a request is admitted. -/
def inspectionApp (app : AppIdentity) : Front ApiRequest (Option ApiError) where
  tenant request := resourceTenant app request
  dimensions request :=
    [("tenant", resourceTenant app request), ("actor", resourceActor app request),
      ("ip", resourceIp request)]
  slot request := String.ofList (Json.print (.arr [.str (pyStr (resourceTenant app request)),
    .str (pyStr (resourceActor app request)), .str (pyStr (resourceIp request))] : Json Empty))
  answer _
    | .rateLimited seconds =>
        some ⟨429, "resource_rate_limited", "Too many requests. Try again later.", max 0 seconds⟩
    | .busy => some ⟨429, "resource_concurrency_limited", "Service is busy. Try again later.", 1⟩
    | .admitted => none

end FolioLattice.Limits
