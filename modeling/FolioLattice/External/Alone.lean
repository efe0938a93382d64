/-
A tool call that runs by itself goes through the steps: whatever the broker's parts do,
what the call computes is how its thread ends.
-/

import FolioLattice.External.Accounting

namespace FolioLattice.External

open FolioLattice.Text FolioLattice.Data FolioLattice.Store FolioLattice.Concurrency
open FolioLattice.Effects (except_bind_ok except_bind_error)

section Alone

variable {F σ : Type} [FloatFormat F] {host : Host F}

/-- The steps of one thread, one after another. -/
abbrev Path (host : Host F) :=
  Relation.ReflTransGen (fun x y : ExternalDb × BrokerThread F => BrokerStep host x.1 x.2 y.1 y.2)

/-- What the caller gets. -/
def Ending.result : Ending F → Option (Except CallError (PyValue F))
  | .returned _ _ answer => some (.ok answer)
  | .raised _ error => some (.error error)
  | .lost _ (some error) => some (.error error)
  | .unrecorded _ error => some (.error error)
  | _ => none

/-- The thread's steps lead to an end with this registry and this result. -/
def EndsWith (host : Host F) (registry : Registry) (thread : BrokerThread F) (registry' : Registry)
    (result : Except CallError (PyValue F)) : Prop :=
  ∃ ending, Path host (⟨registry, false⟩, thread) (⟨registry', false⟩, .ended ending) ∧
    ending.result = some result

variable {registry registry' : Registry} {thread thread' : BrokerThread F}
  {result : Except CallError (PyValue F)}

theorem EndsWith.first
    (step : BrokerStep host ⟨registry, false⟩ thread ⟨registry, false⟩ thread')
    (rest : EndsWith host registry thread' registry' result) :
    EndsWith host registry thread registry' result := by
  obtain ⟨ending, path, isResult⟩ := rest
  exact ⟨ending, .head step path, isResult⟩

theorem EndsWith.here {ending : Ending F}
    (step : BrokerStep host ⟨registry, false⟩ thread ⟨registry, false⟩ (.ended ending))
    (isResult : ending.result = some result) :
    EndsWith host registry thread registry result :=
  ⟨ending, .single step, isResult⟩

/-- A record that succeeds is committed; one that fails leaves the registry. -/
theorem EndsWith.record {draw : CallDraw} {caller : Caller} {entry : AuditEntry}
    {done failed : Ending F}
    (written : ∀ draft, writeExternalAudit registry caller entry draw.uuid draw.now = .ok draft →
      BrokerStep host ⟨registry, false⟩ thread ⟨registry, true⟩ (.committing draft done failed))
    (lost : BrokerStep host ⟨registry, false⟩ thread ⟨registry, false⟩ (.ended failed))
    {success failure : Except CallError (PyValue F)} (ok : done.result = some success)
    (error : failed.result = some failure) :
    EndsWith host registry thread (draw.record registry caller entry).1
      (if (draw.record registry caller entry).2 then success else failure) := by
  unfold CallDraw.record
  split
  · split
    · rename_i draft isWritten
      refine ⟨done, ?_, ok⟩
      exact .head (b := (⟨registry, true⟩, .committing draft done failed))
        (written draft isWritten) (.single .commit)
    · exact ⟨failed, .single lost, error⟩
  · exact ⟨failed, .single lost, error⟩

theorem EndsWith.failing (draw : CallDraw) (call : BrokerCall F) (error : CallError) :
    EndsWith host registry (.failing call error)
      (draw.record registry call.caller (call.target.failureEntry error)).1
      (.error (.external (call.target.failureMessage error))) := by
  have ends : EndsWith host registry (.failing call error)
      (draw.record registry call.caller (call.target.failureEntry error)).1
      (if (draw.record registry call.caller (call.target.failureEntry error)).2 then
        .error (.external (call.target.failureMessage error))
      else .error (.external (call.target.failureMessage error))) :=
    EndsWith.record (fun draft written => .recordFailure draw.uuid draw.now rfl written)
      .failureFails rfl rfl
  rw [ite_self] at ends
  exact ends

/-- Through the fence: from the lock to the upstream, and what is left of it. -/
theorem EndsWith.fenced {ask : Ask F} {connection : Connection F}
    (read : externalRow F registry ask.call.caller.tenantId ask.call.caller.connectionId =
      .ok connection)
    (active : connection.row.status = .active)
    (step : BrokerStep host ⟨registry, true⟩ (.upstream ask connection) ⟨registry, false⟩ thread')
    (rest : EndsWith host registry thread' registry' result) :
    EndsWith host registry (.issued ask) registry' result := by
  obtain ⟨ending, path, isResult⟩ := rest
  refine ⟨ending, ?_, isResult⟩
  exact .head (b := (⟨registry, true⟩, .fenceBegun ask)) (.fenceBegin rfl)
    (.head (b := (⟨registry, true⟩, .fenced ask connection)) (.fenceSelect read active)
      (.head (b := (⟨registry, true⟩, .upstream ask connection)) .start (.head step path)))

theorem EndsWith.unfenced {ask : Ask F}
    (step : BrokerStep host ⟨registry, true⟩ (.fenceBegun ask) ⟨registry, false⟩ thread')
    (rest : EndsWith host registry thread' registry' result) :
    EndsWith host registry (.issued ask) registry' result := by
  obtain ⟨ending, path, isResult⟩ := rest
  exact ⟨ending, .head (b := (⟨registry, true⟩, .fenceBegun ask)) (.fenceBegin rfl)
    (.head step path), isResult⟩

/-! ### A tool call -/

variable {broker : Broker F} {draw : CallDraw} {caller : Caller} {tool : String}
  {arguments : ToolArguments F} {validators : Validators F σ} {connection : Connection F}

/-- An upstream that fails or whose answer is refused. -/
theorem Broker.ask_error {error : CallError}
    (failed : broker.ask draw registry caller tool arguments connection = .error error)
    (same : host.interpreter = broker.interpreter) {result : Except CallError (PyValue F)}
    {registry' : Registry}
    (rest : EndsWith host registry (.failing ⟨caller, .tool tool arguments⟩ error) registry' result) :
    EndsWith host registry (.authorized ⟨caller, .tool tool arguments⟩ connection) registry'
      result := by
  rcases except_bind_error failed with unissued | ⟨credential, given, failed⟩
  · exact .first (.issueFails broker unissued) rest
  · apply EndsWith.first (.issue broker given)
    rcases except_bind_error failed with unheld | ⟨fenced, held, failed⟩
    · unfold CallDraw.fence at unheld
      split at unheld
      · cases unheld
        exact .first .fenceBusy rest
      · split at unheld
        · rename_i failure read
          cases unheld
          exact .unfenced (.fenceFails read) rest
        · rename_i fenced read
          split at unheld
          · rename_i gone
            cases unheld
            exact .unfenced (.fenceRevoked read gone) rest
          · cases unheld
    · unfold CallDraw.fence at held
      split at held
      · cases held
      · split at held
        · cases held
        · rename_i found read
          split at held
          · cases held
          · rename_i active
            cases held
            rcases except_bind_error failed with unanswered | ⟨answer, _, failed⟩
            · exact .fenced read (not_not.mp active) (.upstreamFails error) rest
            · split at failed
              · rename_i message unbounded
                cases failed
                rw [← same] at unbounded
                exact .fenced read (not_not.mp active) (.reject answer unbounded) rest
              · cases failed

theorem Broker.ask_held {answer : PyValue F}
    (asked : broker.ask draw registry caller tool arguments connection = .ok answer) :
    ∃ credential fenced, broker.credential connection = .ok credential ∧
      externalRow F registry caller.tenantId caller.connectionId = .ok fenced ∧
      fenced.row.status = .active ∧
      boundedResult broker.interpreter answer credential = .ok () := by
  obtain ⟨credential, given, asked⟩ := except_bind_ok asked
  obtain ⟨fenced, held, asked⟩ := except_bind_ok asked
  obtain ⟨result, _, asked⟩ := except_bind_ok asked
  refine ⟨credential, fenced, given, ?_⟩
  unfold CallDraw.fence at held
  split at held
  · cases held
  · split at held
    · cases held
    · rename_i found read
      split at held
      · cases held
      · rename_i active
        cases held
        split at asked
        · cases asked
        · rename_i bounded
          cases asked
          exact ⟨read, not_not.mp active, bounded⟩

omit [FloatFormat F] in
theorem runCallback_error {α : Type} {callback : Option (σ → α → σ × Except CallError Unit)}
    {message reason outcome : String} {state after : σ} {value : α} {error : CallError}
    (raised : runCallback callback message reason outcome state value = (after, .error error)) :
    ∃ first, error = adapterError message reason outcome first := by
  unfold runCallback at raised
  split at raised
  · cases raised
  · rename_i callback
    have failed := (Prod.mk.inj raised).2
    cases result : (callback state value).2 with
    | ok _ =>
        rw [result] at failed
        cases failed
    | error first =>
        rw [result] at failed
        exact ⟨first, (Except.error.inj failed).symm⟩

/-- Whatever fails after the authorization, the call goes on to record it. -/
theorem Broker.attempt_error {state after : σ} {error : CallError}
    (same : host.interpreter = broker.interpreter)
    (failed : broker.attempt draw registry caller tool arguments validators connection state =
      (after, .error error))
    (rest : EndsWith host registry (.failing ⟨caller, .tool tool arguments⟩ error) registry'
      result) :
    EndsWith host registry (.authorized ⟨caller, .tool tool arguments⟩ connection) registry'
      result := by
  unfold Broker.attempt at failed
  split at failed
  · rename_i vetoed
    obtain ⟨first, isError⟩ := runCallback_error vetoed
    rw [← Except.error.inj (Prod.mk.inj failed).2, isError] at rest
    exact .first (.veto rfl first) rest
  · split at failed
    · rename_i unasked
      cases failed
      exact Broker.ask_error unasked same rest
    · rename_i answer asked
      obtain ⟨credential, fenced, given, read, active, bounded⟩ := Broker.ask_held asked
      apply EndsWith.first (.issue broker given)
      split at failed
      · rename_i invalid
        obtain ⟨first, isError⟩ := runCallback_error invalid
        rw [← Except.error.inj (Prod.mk.inj failed).2, isError] at rest
        exact .fenced read active (.invalidate rfl first) rest
      · have uncommitted := (Prod.mk.inj failed).2
        split at uncommitted
        · cases uncommitted
        · rw [← Except.error.inj uncommitted] at rest
          exact .fenced read active .commitFails rest

theorem Broker.attempt_answers {state after : σ} {answer : PyValue F}
    (same : host.interpreter = broker.interpreter)
    (passed : broker.attempt draw registry caller tool arguments validators connection state =
      (after, .ok answer))
    (rest : ∀ credential fenced, EndsWith host registry
      (.answered ⟨⟨caller, .tool tool arguments⟩, connection, credential⟩ fenced answer) registry'
        result) :
    EndsWith host registry (.authorized ⟨caller, .tool tool arguments⟩ connection) registry'
      result := by
  unfold Broker.attempt at passed
  split at passed
  · cases passed
  · split at passed
    · cases passed
    · rename_i found asked
      obtain ⟨credential, fenced, given, read, active, bounded⟩ := Broker.ask_held asked
      rw [← same] at bounded
      split at passed
      · cases passed
      · have committed := (Prod.mk.inj passed).2
        split at committed
        · rw [← Except.ok.inj committed] at rest
          exact .first (.issue broker given)
            (.fenced read active (.answer bounded) (rest credential fenced))
        · cases committed

/-- What `_call_tool_admitted` computes, whatever its parts do, is the end of a run of its
thread: with the registry and the result that it leaves. -/
theorem Broker.callToolAdmitted_ends (broker : Broker F) (draw : CallDraw) (registry : Registry)
    (caller : Caller) (tool : String) (arguments : ToolArguments F) (validators : Validators F σ)
    (state : σ) (same : host.interpreter = broker.interpreter) (out : ToolCall F σ)
    (isOut : broker.callToolAdmitted draw registry caller tool arguments validators state = out) :
    EndsWith host registry (.admitted ⟨caller, .tool tool arguments⟩) out.registry out.result := by
  have ofCall : (⟨caller, .tool tool arguments⟩ : BrokerCall F).authorize host.isUnsafe registry =
      authorizeTool registry caller tool arguments := rfl
  unfold Broker.callToolAdmitted at isOut
  rw [authorizeExternalTool_eq] at isOut
  by_cases readable : draw.readable = true
  · rw [if_neg (by rw [readable]; exact Bool.false_ne_true)] at isOut
    cases verdict : authorizeTool registry caller tool arguments with
    | denied reason message =>
        rw [verdict] at isOut
        rw [← isOut]
        apply EndsWith.first (.deny (ofCall.trans verdict))
        have ends : EndsWith host registry
            (.denying ⟨caller, .tool tool arguments⟩ reason message)
            (draw.record registry caller
              ((Target.tool tool arguments).entry "denied" reason)).1
            (if (draw.record registry caller
              ((Target.tool tool arguments).entry "denied" reason)).2 then
                .error (.folio message) else .error (.folio message)) :=
          EndsWith.record (fun draft written => .recordDenial draw.uuid draw.now rfl written)
            .denialFails rfl rfl
        rw [ite_self] at ends
        exact ends
    | refused message =>
        rw [verdict] at isOut
        rw [← isOut]
        exact .here (.refuse (ofCall.trans verdict)) rfl
    | «broken» =>
        rw [verdict] at isOut
        rw [← isOut]
        exact .here (.break (ofCall.trans verdict)) rfl
    | authorized connection =>
        rw [verdict] at isOut
        dsimp only at isOut
        apply EndsWith.first (.authorize (ofCall.trans verdict))
        split at isOut
        · rename_i after error failed
          rw [← isOut]
          exact Broker.attempt_error same failed (EndsWith.failing draw _ error)
        · rename_i after answer passed
          apply Broker.attempt_answers same passed
          intro credential fenced
          have ends : EndsWith host registry
              (.answered ⟨⟨caller, .tool tool arguments⟩, connection, credential⟩ fenced answer)
              (draw.record registry caller ⟨toolCall, "allowed", "completed", some tool⟩).1
              (if (draw.record registry caller ⟨toolCall, "allowed", "completed", some tool⟩).2
                then .ok answer else .error (.external callFailed)) :=
            EndsWith.record (fun draft written => .recordAllowed draw.uuid draw.now rfl written)
              .allowedFails rfl rfl
          split at isOut
          · rename_i recorded
            rw [recorded] at ends
            rw [← isOut]
            exact ends
          · rename_i recorded
            rw [recorded] at ends
            rw [← isOut]
            exact ends
  · rw [if_pos (by rw [(Bool.not_eq_true _).mp readable]; rfl)] at isOut
    rw [← isOut]
    exact .here .readFails rfl

/-- In any state of the system where nobody has the lock: the call as it is computed in one
go, with whatever its parts do, is a run of its thread while the others stand still, to the
same registry and the same result. -/
theorem callToolAdmitted_is_run {ι : Type} [DecidableEq ι] (broker : Broker F) (draw : CallDraw)
    (caller : Caller) (tool : String) (arguments : ToolArguments F) (validators : Validators F σ)
    (state : σ) (same : host.interpreter = broker.interpreter)
    (config : Config ι ExternalDb (BrokerThread F)) (i : ι) (free : config.shared.locked = false)
    (admitted : config.threads i = .admitted ⟨caller, .tool tool arguments⟩) :
    ∃ events ending,
      Run (BrokerStep host) config events
        ⟨⟨(broker.callToolAdmitted draw config.shared.registry caller tool arguments validators
          state).registry, false⟩, Function.update config.threads i (.ended ending)⟩ ∧
      ending.result = some (broker.callToolAdmitted draw config.shared.registry caller tool
        arguments validators state).result := by
  obtain ⟨ending, path, isResult⟩ := Broker.callToolAdmitted_ends broker draw
    config.shared.registry caller tool arguments validators state same _ rfl
  have shared : config.shared = ⟨config.shared.registry, false⟩ := by
    rw [← free]
  rw [← shared, ← admitted] at path
  obtain ⟨events, run⟩ := Run.solo path
  exact ⟨events, ending, run, isResult⟩

end Alone

def docsDraw : CallDraw := ⟨.ok (), true, true, true, true, Uuid.nil, revocationTime⟩

theorem callToolAdmitted_is_run_docs : ∃ events ending,
    Run (BrokerStep docsHost)
      (⟨⟨docsRegistry, false⟩, fun _ => .admitted docsSearch⟩ :
        Config Bool ExternalDb (BrokerThread Empty)) events
      ⟨⟨(silentBroker.callToolAdmitted docsDraw docsRegistry docsCaller "search" []
        (⟨none, none⟩ : Validators Empty Unit) ()).registry, false⟩,
          Function.update (fun _ => .admitted docsSearch) true (.ended ending)⟩ ∧
      ending.result = some (silentBroker.callToolAdmitted docsDraw docsRegistry docsCaller "search" []
        (⟨none, none⟩ : Validators Empty Unit) ()).result :=
  callToolAdmitted_is_run silentBroker docsDraw docsCaller "search" [] ⟨none, none⟩ () rfl
    ⟨⟨docsRegistry, false⟩, fun _ => .admitted docsSearch⟩ true rfl rfl

end FolioLattice.External
