/-
What is recorded of calls to an upstream: every call that a slot was given to has one
row in the audit, which says that it was allowed exactly where it returned the answer.
-/

import FolioLattice.External.Standing

namespace FolioLattice.External

open FolioLattice.Text FolioLattice.Data FolioLattice.Store FolioLattice.Concurrency
open FolioLattice.Effects (except_bind_ok)

/-! ### Rows -/

/-- The row is one of the call. -/
structure ExternalAuditRow.Records {F : Type} (row : ExternalAuditRow) (call : BrokerCall F) :
    Prop where
  tenantId : row.tenantId = call.caller.tenantId
  connectionId : row.connectionId = call.caller.connectionId
  actorId : row.actorId = call.caller.actor
  action : row.action = call.target.action
  resourceUri : row.resourceUri = none

/-- What a row says of how the thread ended. -/
def Ending.RecordedBy {F : Type} (row : ExternalAuditRow) : Ending F → Prop
  | .registered => True
  | .returned ask _ _ => row.Records ask.call ∧ row.outcome = "allowed"
  | .raised call _ => row.Records call ∧ (row.outcome = "denied" ∨ row.outcome = "failed")
  | _ => False

/-- The rows that a thread has written are those that its end asks for. -/
def Ending.Accounted {F : Type} (rows : List ExternalAuditRow) : Ending F → Prop
  | .turnedAway _ | .lost _ _ | .unregistered => rows = []
  | .unrecorded _ _ => False
  | ending => ∃ row, rows = [row] ∧ ending.RecordedBy row

def BrokerThread.Accounted {F : Type} (rows : List ExternalAuditRow) : BrokerThread F → Prop
  | .service _ => True
  | .committing _ _ failed => rows = [] ∧ failed.Accounted []
  | .ended ending => ending.Accounted rows
  | _ => rows = []

/-- The rows that a step commits. -/
def rowsOf {ι : Type} (event : Event ι ExternalDb) : List ExternalAuditRow :=
  event.after.registry.audit.drop event.before.registry.audit.length

theorem rowsOf_same {ι : Type} {i : ι} {before after : ExternalDb}
    (same : after.registry = before.registry) : rowsOf ⟨i, before, after⟩ = [] := by
  unfold rowsOf
  rw [same, List.drop_length]

section Steps

variable {F : Type} [FloatFormat F] {host : Host F}

omit [FloatFormat F] in
theorem Target.failureEntry_outcome (target : Target F) (error : CallError) :
    (target.failureEntry error).action = target.action ∧
      ((target.failureEntry error).outcome = "denied" ∨
        (target.failureEntry error).outcome = "failed") := by
  cases target with
  | tool name arguments =>
      cases error with
      | validation error =>
          refine ⟨rfl, ?_⟩
          change error.outcome.name = "denied" ∨ error.outcome.name = "failed"
          cases error.outcome with
          | denied => exact Or.inl rfl
          | failed => exact Or.inr rfl
      | external message => exact ⟨rfl, Or.inr rfl⟩
      | folio message => exact ⟨rfl, Or.inr rfl⟩
      | other => exact ⟨rfl, Or.inr rfl⟩
  | resource uri =>
      cases error with
      | validation error => exact ⟨rfl, Or.inr rfl⟩
      | external message => exact ⟨rfl, Or.inr rfl⟩
      | folio message => exact ⟨rfl, Or.inr rfl⟩
      | other => exact ⟨rfl, Or.inr rfl⟩

/-- A transaction that is to be committed has the one row of its call. -/
def Written (registry : Registry) : BrokerThread F → Prop
  | .committing draft done failed =>
      (∃ row, draft.audit = registry.audit ++ [row] ∧ done.RecordedBy row) ∧
        failed.Accounted []
  | _ => True

theorem registered_audit {draw : RegisterDraw} {request : Registration} {before after : Database}
    {registry registry' : Registry}
    (done : registerExternalConnection F draw request before registry = .ok (after, registry')) :
    ∃ row, registry'.audit = registry.audit ++ [row] := by
  unfold registerExternalConnection at done
  obtain ⟨row, _, done⟩ := except_bind_ok done
  obtain ⟨db, _, done⟩ := except_bind_ok done
  split at done
  · cases done
  · split at done
    · cases done
    · rename_i audited written
      rw [← (Prod.mk.inj (Except.ok.inj done)).2, writeExternalAudit_ok written]
      exact ⟨_, rfl⟩

omit [FloatFormat F] in
theorem Ending.accounted_one {ending : Ending F} {row : ExternalAuditRow}
    (recorded : ending.RecordedBy row) : ending.Accounted [row] := by
  cases ending with
  | registered => exact ⟨row, rfl, recorded⟩
  | returned ask connection answer => exact ⟨row, rfl, recorded⟩
  | raised call error => exact ⟨row, rfl, recorded⟩
  | _ => exact recorded.elim

theorem written_audit {registry registry' : Registry} {c : Caller} {entry : AuditEntry}
    {uuid : Uuid} {now : String}
    (written : writeExternalAudit registry c entry uuid now = .ok registry') :
    registry'.audit = registry.audit ++ [.of c entry uuid now] := by
  rw [writeExternalAudit_ok written]

theorem Written.step {db db' : ExternalDb} {thread thread' : BrokerThread F}
    (known : thread.holds = true → Written db.registry thread)
    (step : BrokerStep host db thread db' thread') (held : thread'.holds = true) :
    Written db'.registry thread' := by
  cases step with
  | register _ done =>
      obtain ⟨row, isRow⟩ := registered_audit done
      exact ⟨⟨row, isRow, trivial⟩, rfl⟩
  | recordDenial uuid now _ written =>
      refine ⟨⟨_, written_audit written, ?_⟩, rfl⟩
      exact ⟨⟨rfl, rfl, rfl, rfl, rfl⟩, Or.inl rfl⟩
  | recordAllowed uuid now _ written =>
      refine ⟨⟨_, written_audit written, ?_⟩, rfl⟩
      exact ⟨⟨rfl, rfl, rfl, rfl, rfl⟩, rfl⟩
  | @recordFailure _ call error _ uuid now _ written =>
      obtain ⟨action, outcome⟩ := call.target.failureEntry_outcome error
      refine ⟨⟨_, written_audit written, ?_⟩, rfl⟩
      exact ⟨⟨rfl, rfl, rfl, action, rfl⟩, outcome⟩
  | service _ => exact trivial
  | fenceBegin _ => exact trivial
  | fenceSelect _ _ => exact trivial
  | start => exact trivial
  | _ => cases held

/-- A call that was given a slot was not too large. -/
def Fits : BrokerThread F → Prop
  | .admitted call => call.target.checkSize = .ok ()
  | _ => True

theorem Accounted.step {ι : Type} {db db' : ExternalDb} {thread thread' : BrokerThread F} {i : ι}
    {own : List (Event ι ExternalDb)}
    (written : thread.holds = true → Written db.registry thread)
    (accounted : thread.Accounted (own.flatMap rowsOf) ∧ Fits thread)
    (step : BrokerStep host db thread db' thread') :
    thread'.Accounted ((own ++ [(⟨i, db, db'⟩ : Event ι ExternalDb)]).flatMap rowsOf) ∧ Fits thread' := by
  obtain ⟨rows, fits⟩ := accounted
  have unchanged : db'.registry = db.registry →
      (own ++ [(⟨i, db, db'⟩ : Event ι ExternalDb)]).flatMap rowsOf = own.flatMap rowsOf := by
    intro same
    rw [List.flatMap_append, List.flatMap_singleton, rowsOf_same same, List.append_nil]
  cases step with
  | service step => exact ⟨trivial, trivial⟩
  | @commit _ draft done failed =>
      obtain ⟨⟨row, isDraft, recorded⟩, _⟩ := written rfl
      have none : own.flatMap rowsOf = [] := rows.1
      have one : rowsOf (⟨i, db, ⟨draft, false⟩⟩ : Event ι ExternalDb) = [row] := by
        unfold rowsOf
        change draft.audit.drop db.registry.audit.length = [row]
        rw [isDraft, List.drop_left]
      rw [List.flatMap_append, List.flatMap_singleton, none, one, List.nil_append]
      exact ⟨Ending.accounted_one recorded, trivial⟩
  | @rollback _ draft done failed =>
      have none : own.flatMap rowsOf = [] := rows.1
      rw [unchanged rfl, none]
      exact ⟨rows.2, trivial⟩
  | refuse verdict => exact absurd verdict ((BrokerCall.authorize_ends fits).1 _)
  | «break» verdict => exact absurd verdict (BrokerCall.authorize_ends fits).2
  | giveSlot small =>
      rw [unchanged rfl]
      exact ⟨rows, small⟩
  | register _ _ | recordDenial _ _ _ _ | recordAllowed _ _ _ _ | recordFailure _ _ _ _ =>
      rw [unchanged rfl]
      exact ⟨⟨rows, rfl⟩, trivial⟩
  | stop pending =>
      rw [unchanged rfl]
      refine ⟨?_, trivial⟩
      cases thread with
      | service _ | registering _ | called _ | committing _ _ _ | ended _ => cases pending
      | _ => exact rows
  | _ =>
      rw [unchanged rfl]
      exact ⟨rows, trivial⟩

/-! ### Answers -/

/-- What holds of an answer that is given out. -/
structure Checked (host : Host F) (ask : Ask F) (connection : Connection F) (answer : PyValue F) :
    Prop where
  active : connection.row.status = .active
  approved : ask.call.target.approvedBy connection
  credential : CredentialFor connection ask.credential
  bounded : boundedResult host.interpreter answer ask.credential = .ok ()

def Ending.Checked (host : Host F) : Ending F → Prop
  | .returned ask connection answer => External.Checked host ask connection answer
  | _ => True

def BrokerThread.Checked (host : Host F) : BrokerThread F → Prop
  | .fenced ask connection | .upstream ask connection => connection.row.status = .active ∧
      ask.call.target.approvedBy connection ∧ CredentialFor connection ask.credential
  | .answered ask connection answer => External.Checked host ask connection answer
  | .committing _ done failed => done.Checked host ∧ failed.Checked host
  | .ended ending => ending.Checked host
  | _ => True

theorem Checked.step {db db' : ExternalDb} {thread thread' : BrokerThread F}
    (known : Known db.registry thread) (checked : thread.Checked host)
    (step : BrokerStep host db thread db' thread') : thread'.Checked host := by
  cases step with
  | fenceSelect read active =>
      obtain ⟨row, found, terms⟩ := known.authorized.row
      rw [externalRow_ok read] at found
      rw [← Option.some.inj found] at terms
      exact ⟨active, Target.approvedBy_congr known.authorized.parsed (externalRow_parsed read) terms
        known.authorized.approved, known.credential.terms terms⟩
  | start => exact checked
  | answer bounded => exact ⟨checked.1, checked.2.1, checked.2.2, bounded⟩
  | recordAllowed _ _ _ _ => exact ⟨checked, trivial⟩
  | recordDenial _ _ _ _ | recordFailure _ _ _ _ | register _ _ => exact ⟨trivial, trivial⟩
  | commit => exact checked.1
  | rollback => exact checked.2
  | _ => exact trivial

end Steps

/-! ### Runs -/

section Runs

variable {ι F : Type} [DecidableEq ι] [FloatFormat F] {host : Host F} {registry : Registry}
  {requests : ι → BrokerRequest F} {config : Config ι ExternalDb (BrokerThread F)}
  {events : List (Event ι ExternalDb)}

theorem written (run : Run (BrokerStep host) (brokerStart registry requests) events config)
    (i : ι) (held : (config.threads i).holds = true) :
    Written config.shared.registry (config.threads i) :=
  ((Run.locked BrokerStep.lock
    (fun _ _ _ _ known step held => Written.step (fun now => (known now).2) step held) run
    (fun i => (requests i).idle)).1 i held).2

theorem accounted (run : Run (BrokerStep host) (brokerStart registry requests) events config) :
    ∀ i, (config.threads i).Accounted
      ((events.filter (fun e => e.thread = i)).flatMap rowsOf) := by
  intro i
  apply And.left (b := Fits (config.threads i))
  apply Run.history (P := fun _ => True)
    (L := fun s l => l.holds = true → Written s.registry l)
    (H := fun own l => l.Accounted (own.flatMap rowsOf) ∧ Fits l) _ _ run
  · intro i
    change (requests i).begin.Accounted [] ∧ Fits (requests i).begin
    cases requests i with
    | service call => exact ⟨trivial, trivial⟩
    | register _ => exact ⟨rfl, trivial⟩
    | ask _ => exact ⟨rfl, trivial⟩
  · intro events config run
    exact ⟨trivial, fun i held => written run i held⟩
  · intro s l s' l' i own _ known accounted step
    exact Accounted.step known accounted step

theorem checked (run : Run (BrokerStep host) (brokerStart registry requests) events config)
    (i : ι) : (config.threads i).Checked host := by
  have informed := Run.knowing (K := fun s l => Known s.registry l) known run
  apply Run.own (P := fun _ => True) (L := fun l => l.Checked host) _ _ informed trivial
  · change (requests i).begin.Checked host
    cases requests i with
    | service call => exact trivial
    | register _ => exact trivial
    | ask _ => exact trivial
  · intro _ _ _ _ _ _
    exact trivial
  · rintro s l s' l' _ checked ⟨step, known⟩
    exact Checked.step known checked step

end Runs

end FolioLattice.External
