/-
What stays of a connection while calls, registrations, health checks and revocations
run: its terms, and that it is revoked.  Whoever is before the upstream has the write
lock and the row as it is.
-/

import FolioLattice.External.Interleaved

namespace FolioLattice.External

open FolioLattice.Text FolioLattice.Data FolioLattice.Store FolioLattice.Concurrency
open FolioLattice.Effects (except_bind_ok)

/-! ### What a transaction may change -/

/-- The row but for its status and its health. -/
def ConnectionRow.terms (row : ConnectionRow) : ConnectionRow :=
  { row with
    status := .active
    healthStatus := .unknown
    lastHealthAt := none
    revokedBy := none
    revokedAt := none }

/-- Every connection keeps its terms, and a revoked one is revoked; rows are added to the
audit alone. -/
structure Evolves (old new : Registry) : Prop where
  rows : ∀ tenantId connectionId row, old.select tenantId connectionId = some row →
    ∃ row', new.select tenantId connectionId = some row' ∧ row'.terms = row.terms ∧
      (row.status = .revoked → row'.status = .revoked)
  audit : old.audit <+: new.audit

theorem Evolves.refl (registry : Registry) : Evolves registry registry where
  rows := fun _ _ row found => ⟨row, found, rfl, id⟩
  audit := List.prefix_rfl

theorem Evolves.trans {first second third : Registry} (one : Evolves first second)
    (two : Evolves second third) : Evolves first third where
  rows := by
    intro tenantId connectionId row found
    obtain ⟨row', found', terms, revoked⟩ := one.rows _ _ _ found
    obtain ⟨row'', found'', terms', revoked'⟩ := two.rows _ _ _ found'
    exact ⟨row'', found'', terms'.trans terms, fun gone => revoked' (revoked gone)⟩
  audit := one.audit.trans two.audit

/-- An UPDATE of status or health. -/
theorem Evolves.update {registry : Registry} {tenantId connectionId : String}
    {change : ConnectionRow → ConnectionRow} (terms : ∀ row, (change row).terms = row.terms)
    (revoked : ∀ row, row.status = .revoked → (change row).status = .revoked) :
    Evolves registry (registry.update tenantId connectionId change) where
  rows := by
    have sameKey : ∀ row, (change row).id = row.id ∧ (change row).tenantId = row.tenantId := by
      intro row
      have sameId : (change row).terms.id = row.terms.id := by rw [terms]
      have sameTenant : (change row).terms.tenantId = row.terms.tenantId := by rw [terms]
      exact ⟨sameId, sameTenant⟩
    intro tenantId' connectionId' row found
    by_cases target : tenantId = tenantId' ∧ connectionId = connectionId'
    · obtain ⟨rfl, rfl⟩ := target
      refine ⟨change row, ?_, terms row, revoked row⟩
      rw [registry.select_update sameKey, found]
      rfl
    · refine ⟨row, ?_, rfl, id⟩
      rw [registry.select_update_other sameKey target]
      exact found
  audit := by
    rw [Registry.update_audit]

theorem Evolves.setHealth (registry : Registry) (c : Caller) (status : HealthStatus)
    (now : String) : Evolves registry (registry.setHealth c status now) :=
  Evolves.update (fun _ => rfl) (fun _ revoked => revoked)

theorem Evolves.setRevoked (registry : Registry) (c : Caller) (now : String) :
    Evolves registry (registry.setRevoked c now) :=
  Evolves.update (fun _ => rfl) (fun _ _ => rfl)

theorem Evolves.audited {registry registry' : Registry} {c : Caller} {entry : AuditEntry}
    {uuid : Uuid} {now : String}
    (written : writeExternalAudit registry c entry uuid now = .ok registry') :
    Evolves registry registry' := by
  rw [writeExternalAudit_ok written]
  exact ⟨fun _ _ row found => ⟨row, found, rfl, id⟩, List.prefix_append _ _⟩

section Registering

variable {F : Type} [FloatFormat F]

theorem Evolves.registered {draw : RegisterDraw} {request : Registration} {before after : Database}
    {registry registry' : Registry}
    (done : registerExternalConnection F draw request before registry = .ok (after, registry')) :
    Evolves registry registry' := by
  unfold registerExternalConnection at done
  obtain ⟨row, _, done⟩ := except_bind_ok done
  obtain ⟨db, _, done⟩ := except_bind_ok done
  split at done
  · cases done
  · rename_i connections inserted
    split at done
    · cases done
    · rename_i audited written
      rw [← (Prod.mk.inj (Except.ok.inj done)).2]
      refine Evolves.trans ?_ (Evolves.audited written)
      refine ⟨?_, List.prefix_rfl⟩
      intro tenantId connectionId old found
      refine ⟨old, ?_, rfl, id⟩
      unfold Registry.select at found ⊢
      rw [(insertUnique_ok inserted).1, List.find?_append, found]
      rfl

end Registering

/-! ### Holders of the lock -/

/-- The registry has the caller's connection, revoked. -/
def Registry.Revoked (registry : Registry) (c : Caller) : Prop :=
  ∃ row, registry.select c.tenantId c.connectionId = some row ∧ row.status = .revoked

theorem Evolves.revoked {old new : Registry} (evolves : Evolves old new) {c : Caller}
    (gone : old.Revoked c) : new.Revoked c := by
  obtain ⟨row, found, revoked⟩ := gone
  obtain ⟨row', found', _, revoked'⟩ := evolves.rows _ _ _ found
  exact ⟨row', found', revoked' revoked⟩

theorem setRevoked_revoked {registry : Registry} {c : Caller} {row : ConnectionRow}
    (found : registry.select c.tenantId c.connectionId = some row) (now : String) :
    (registry.setRevoked c now).Revoked c := by
  refine ⟨{ row with status := .revoked, revokedBy := some c.actor, revokedAt := some now }, ?_, rfl⟩
  rw [registry.select_setRevoked, found]
  rfl

section Holders

variable (F : Type) [FloatFormat F]

/-- The SELECT of a fence found the caller's row, active. -/
def ActiveRow (registry : Registry) (c : Caller) (connection : Connection F) : Prop :=
  externalRow F registry c.tenantId c.connectionId = .ok connection ∧
    connection.row.status = .active

/-- What a service's transaction knows of the committed registry. -/
def Draft (registry : Registry) : ExternalThread → Prop
  | .fenced _ c => ∃ connection, ActiveRow F registry c connection
  | .recordUpdated _ _ _ draft | .recordAudited _ _ draft => Evolves registry draft
  | .revokeRead c => ∃ row, registry.select c.tenantId c.connectionId = some row
  | .revokeUpdated c _ draft | .revokeAudited c _ draft | .revokeReported c _ draft _ =>
      Evolves registry draft ∧ draft.Revoked c
  | _ => True

/-- What the holder of the lock knows of the committed registry. -/
def Holding (registry : Registry) : BrokerThread F → Prop
  | .service thread => Draft F registry thread
  | .fenced ask connection | .upstream ask connection =>
      ActiveRow F registry ask.call.caller connection
  | .committing draft _ _ => Evolves registry draft
  | _ => True

variable {F}

theorem Draft.step {db db' : ExternalDb} {thread thread' : ExternalThread}
    (known : thread.holds = true → Draft F db.registry thread)
    (step : ExternalStep F db thread db' thread') (held : thread'.holds = true) :
    Draft F db'.registry thread' := by
  cases step with
  | fenceSelect read active => exact ⟨_, read, active⟩
  | @recordUpdate _ _ c status now _ => exact Evolves.setHealth db.registry c status now
  | recordAudit uuid now written =>
      have before : Evolves db.registry _ := known rfl
      exact before.trans (Evolves.audited written)
  | revokeSelect read _ => exact ⟨_, externalRow_ok read⟩
  | revokeAlready read gone => exact ⟨Evolves.refl _, _, externalRow_ok read, gone⟩
  | @revokeUpdate _ c now =>
      obtain ⟨row, found⟩ := known rfl
      exact ⟨Evolves.setRevoked db.registry c now, setRevoked_revoked found now⟩
  | revokeAudit uuid now inserted =>
      obtain ⟨before, gone⟩ := known rfl
      exact ⟨before.trans (Evolves.audited inserted), (Evolves.audited inserted).revoked gone⟩
  | revokeReread read => exact known rfl
  | fenceBegin _ => exact trivial
  | revokeBegin _ _ _ => exact trivial
  | _ => cases held

/-- What a step of a service does to the committed registry. -/
theorem Draft.evolves {db db' : ExternalDb} {thread thread' : ExternalThread}
    (known : thread.holds = true → Draft F db.registry thread)
    (step : ExternalStep F db thread db' thread') : Evolves db.registry db'.registry := by
  cases step with
  | recordCommit => exact known rfl
  | recordCommitBroker => exact known rfl
  | revokeCommit => exact (known rfl).1
  | _ => exact Evolves.refl _

variable {host : Host F}

theorem BrokerStep.lock :
    Lock (BrokerStep host) (fun db => db.locked = true) (fun thread => thread.holds = true)
      ExternalDb.registry where
  taken := by
    intro db thread db' thread' step idle held
    cases step with
    | service step => exact ExternalStep.lock.taken _ _ _ _ step idle held
    | register free _ | recordDenial _ _ free _ | fenceBegin free | recordAllowed _ _ free _
    | recordFailure _ _ free _ => simp [free]
    | _ => first | exact absurd rfl idle | cases held
  held := by
    intro db thread db' thread' step locked held
    cases step with
    | service step => exact ExternalStep.lock.held _ _ _ _ step locked held
    | _ => first | exact locked | exact rfl | cases held
  shut := by
    intro db thread db' thread' step idle held
    cases step with
    | service step => exact ExternalStep.lock.shut _ _ _ _ step idle held
    | _ => first | exact rfl | exact absurd rfl idle | cases held
  others := by
    intro db thread db' thread' step idle locked
    cases step with
    | service step => exact ExternalStep.lock.others _ _ _ _ step idle locked
    | stop _ =>
        change (db.locked && !thread.holds) = true
        rw [locked, (Bool.not_eq_true _).mp idle]
        rfl
    | _ => first | exact locked | exact rfl | exact absurd rfl idle
  guarded := by
    intro db thread db' thread' step idle
    cases step with
    | service step => exact ExternalStep.lock.guarded _ _ _ _ step idle
    | _ => first | rfl | exact absurd rfl idle

theorem Holding.step {db db' : ExternalDb} {thread thread' : BrokerThread F}
    (known : thread.holds = true → Holding F db.registry thread)
    (step : BrokerStep host db thread db' thread') (held : thread'.holds = true) :
    Holding F db'.registry thread' := by
  cases step with
  | service step => exact Draft.step known step held
  | register _ done => exact Evolves.registered done
  | recordDenial _ _ _ written => exact Evolves.audited written
  | recordAllowed _ _ _ written => exact Evolves.audited written
  | recordFailure _ _ _ written => exact Evolves.audited written
  | fenceBegin _ => exact trivial
  | fenceSelect read active => exact ⟨read, active⟩
  | start => exact known rfl
  | _ => cases held

theorem BrokerStep.evolves {db db' : ExternalDb} {thread thread' : BrokerThread F}
    (known : thread.holds = true → Holding F db.registry thread)
    (step : BrokerStep host db thread db' thread') : Evolves db.registry db'.registry := by
  cases step with
  | service step => exact Draft.evolves known step
  | commit => exact known rfl
  | _ => exact Evolves.refl _

end Holders

/-! ### Runs -/

section Runs

variable {ι F : Type} [DecidableEq ι] [FloatFormat F] {host : Host F} {registry : Registry}
  {requests : ι → BrokerRequest F} {config mid : Config ι ExternalDb (BrokerThread F)}
  {past later : List (Event ι ExternalDb)}

omit [FloatFormat F] in
theorem BrokerRequest.idle (request : BrokerRequest F) : ¬request.begin.holds = true := by
  cases request with
  | service call => exact begin_idle call
  | register _ => exact Bool.false_ne_true
  | ask _ => exact Bool.false_ne_true

/-- Who holds the lock is alone, and knows the registry. -/
theorem holding (run : Run (BrokerStep host) (brokerStart registry requests) past config) :
    (∀ i, (config.threads i).holds = true → config.shared.locked = true ∧
      Holding F config.shared.registry (config.threads i)) ∧
      ∀ i j, (config.threads i).holds = true → (config.threads j).holds = true → i = j :=
  Run.locked BrokerStep.lock
    (fun _ _ _ _ known step held => Holding.step (fun now => (known now).2) step held) run
    (fun i => (requests i).idle)

def Parsed (connection : Connection F) : Prop :=
  externalJsonList F connection.row.approvedTools = .ok connection.approvedTools ∧
    externalJsonList F connection.row.approvedResources = .ok connection.approvedResources

theorem externalRow_parsed {tenantId connectionId : String} {connection : Connection F}
    (read : externalRow F registry tenantId connectionId = .ok connection) :
    Parsed connection := by
  unfold externalRow at read
  split at read
  · cases read
  · obtain ⟨tools, toolsRead, read⟩ := except_bind_ok read
    obtain ⟨resources, resourcesRead, read⟩ := except_bind_ok read
    obtain ⟨_, _, read⟩ := except_bind_ok read
    obtain ⟨_, _, read⟩ := except_bind_ok read
    cases read
    exact ⟨toolsRead, resourcesRead⟩

/-- Under the same terms the same is approved. -/
theorem Target.approvedBy_congr {target : Target F} {connection connection' : Connection F}
    (parsed : Parsed connection) (parsed' : Parsed connection')
    (terms : connection'.row.terms = connection.row.terms)
    (approved : target.approvedBy connection) : target.approvedBy connection' := by
  have sameTools : connection'.row.approvedTools = connection.row.approvedTools := by
    change connection'.row.terms.approvedTools = connection.row.terms.approvedTools
    rw [terms]
  have sameResources : connection'.row.approvedResources = connection.row.approvedResources := by
    change connection'.row.terms.approvedResources = connection.row.terms.approvedResources
    rw [terms]
  have tools := parsed'.1
  have resources := parsed'.2
  rw [sameTools, parsed.1] at tools
  rw [sameResources, parsed.2] at resources
  cases target with
  | tool name arguments =>
      change pyStr name ∈ connection'.approvedTools
      rw [← Except.ok.inj tools]
      exact approved
  | resource uri =>
      change pyStr uri ∈ connection'.approvedResources
      rw [← Except.ok.inj resources]
      exact approved

/-- The call was authorized on terms that the caller's connection still has. -/
structure AuthorizedOn (registry : Registry) (call : BrokerCall F) (connection : Connection F) :
    Prop where
  row : ∃ row, registry.select call.caller.tenantId call.caller.connectionId = some row ∧
    row.terms = connection.row.terms
  parsed : Parsed connection
  approved : call.target.approvedBy connection

theorem AuthorizedOn.evolve {old new : Registry} {call : BrokerCall F} {connection : Connection F}
    (authorized : AuthorizedOn old call connection) (evolves : Evolves old new) :
    AuthorizedOn new call connection where
  row := by
    obtain ⟨row, found, terms⟩ := authorized.row
    obtain ⟨row', found', terms', _⟩ := evolves.rows _ _ _ found
    exact ⟨row', found', terms'.trans terms⟩
  parsed := authorized.parsed
  approved := authorized.approved

/-- A credential was issued where the connection names one, and is not empty. -/
def CredentialFor (connection : Connection F) (credential : Option PyStr) : Prop :=
  (credential = none ↔ connection.row.credentialRef = none) ∧ credential ≠ some []

omit [FloatFormat F] in
theorem Broker.credential_for {broker : Broker F} {connection : Connection F}
    {credential : Option PyStr} (given : broker.credential connection = .ok credential) :
    CredentialFor connection credential := by
  unfold Broker.credential at given
  split at given
  · rename_i unnamed
    cases given
    exact ⟨iff_of_true rfl unnamed, fun same => (by cases same)⟩
  · rename_i reference named
    split at given
    · cases given
    · rename_i text _
      split at given
      · cases given
      · rename_i present
        cases given
        refine ⟨iff_of_false (fun same => (by cases same)) ?_, ?_⟩
        · rw [named]
          exact fun same => (by cases same)
        · intro empty
          rw [Option.some.inj empty] at present
          exact present rfl
    · cases given

omit [FloatFormat F] in
theorem CredentialFor.terms {connection connection' : Connection F} {credential : Option PyStr}
    (issued : CredentialFor connection credential)
    (terms : connection'.row.terms = connection.row.terms) :
    CredentialFor connection' credential := by
  have sameReference : connection'.row.credentialRef = connection.row.credentialRef := by
    change connection'.row.terms.credentialRef = connection.row.terms.credentialRef
    rw [terms]
  unfold CredentialFor
  rw [sameReference]
  exact issued

structure Ask.Sound (registry : Registry) (ask : Ask F) : Prop where
  authorized : AuthorizedOn registry ask.call ask.connection
  credential : CredentialFor ask.connection ask.credential

/-- What a call knows from its authorization on. -/
def Known (registry : Registry) : BrokerThread F → Prop
  | .authorized call connection => AuthorizedOn registry call connection
  | .issued ask | .fenceBegun ask | .fenced ask _ | .upstream ask _ | .answered ask _ _ =>
      ask.Sound registry
  | _ => True

theorem Known.evolve {old new : Registry} {thread : BrokerThread F} (known : Known old thread)
    (evolves : Evolves old new) : Known new thread := by
  cases thread with
  | authorized call connection => exact AuthorizedOn.evolve known evolves
  | issued ask => exact ⟨known.authorized.evolve evolves, known.credential⟩
  | fenceBegun ask => exact ⟨known.authorized.evolve evolves, known.credential⟩
  | fenced ask connection => exact ⟨known.authorized.evolve evolves, known.credential⟩
  | upstream ask connection => exact ⟨known.authorized.evolve evolves, known.credential⟩
  | answered ask connection answer => exact ⟨known.authorized.evolve evolves, known.credential⟩
  | _ => exact trivial

theorem Known.step {db db' : ExternalDb} {thread thread' : BrokerThread F}
    (known : Known db.registry thread) (step : BrokerStep host db thread db' thread') :
    Known db'.registry thread' := by
  cases step with
  | authorize verdict =>
      obtain ⟨read, _, approved⟩ := BrokerCall.authorize_authorized verdict
      exact ⟨⟨_, externalRow_ok read, rfl⟩, externalRow_parsed read, approved⟩
  | issue broker given => exact ⟨known, Broker.credential_for given⟩
  | fenceBegin _ => exact known
  | fenceSelect _ _ => exact known
  | start => exact known
  | answer _ => exact known
  | _ => exact trivial

theorem known (run : Run (BrokerStep host) (brokerStart registry requests) past config) :
    ∀ i, Known config.shared.registry (config.threads i) := by
  have informed := Run.knowing (K := fun s l => l.holds = true → Holding F s.registry l)
    (fun run i held => ((holding run).1 i held).2) run
  apply Run.thread (P := fun _ => True) (G := fun s s' => Evolves s.registry s'.registry)
    (L := fun s l => Known s.registry l) _ _ _ informed trivial
  · intro i
    change Known registry (requests i).begin
    cases requests i with
    | service call => exact trivial
    | register _ => exact trivial
    | ask _ => exact trivial
  · intro _ _ _ _ _ _
    exact trivial
  · rintro s l s' l' _ known ⟨step, held⟩
    exact ⟨step.evolves held, known.step step⟩
  · intro s s' l _ evolves known
    exact known.evolve evolves

/-! ### Before the upstream -/

/-- The connection whose upstream is being asked, or is just about to be. -/
def BrokerThread.asking : BrokerThread F → Option Caller
  | .service (.fenced _ c) => some c
  | .fenced ask _ | .upstream ask _ => some ask.call.caller
  | _ => none

omit [FloatFormat F] in
theorem BrokerThread.asking_holds {thread : BrokerThread F} {c : Caller}
    (asks : thread.asking = some c) : thread.holds = true := by
  cases thread with
  | service thread =>
      cases thread with
      | fenced mode caller => rfl
      | _ => cases asks
  | fenced ask connection => rfl
  | upstream ask connection => rfl
  | _ => cases asks

theorem Holding.active {thread : BrokerThread F} {c : Caller} (holds : Holding F registry thread)
    (asks : thread.asking = some c) : ∃ connection, ActiveRow F registry c connection := by
  cases thread with
  | service thread =>
      cases thread with
      | fenced mode caller =>
          rw [← Option.some.inj asks]
          exact holds
      | _ => cases asks
  | fenced ask connection =>
      rw [← Option.some.inj asks]
      exact ⟨connection, holds⟩
  | upstream ask connection =>
      rw [← Option.some.inj asks]
      exact ⟨connection, holds⟩
  | _ => cases asks

/-- While an upstream is asked, the connection is the one that is stored for the caller's
tenant at that moment, active; it approves the target, and its terms are those that the call
was authorized on and the credential issued for.  Nobody else is asking any upstream. -/
theorem upstream_asked_as_stored
    (run : Run (BrokerStep host) (brokerStart registry requests) past config) {i : ι} {ask : Ask F}
    {connection : Connection F} (asked : config.threads i = .upstream ask connection) :
    config.shared.registry.select ask.call.caller.tenantId ask.call.caller.connectionId =
        some connection.row ∧
      connection.row.status = .active ∧ ask.call.target.approvedBy connection ∧
      connection.row.terms = ask.connection.row.terms ∧
      CredentialFor connection ask.credential ∧
      ∀ j c, (config.threads j).asking = some c → j = i := by
  have atHand := known run i
  obtain ⟨holds, alone⟩ := holding run
  have isHolder : (config.threads i).holds = true := by
    rw [asked]
    rfl
  have held := (holds i isHolder).2
  rw [asked] at held atHand
  obtain ⟨read, active⟩ := held
  obtain ⟨row, found, terms⟩ := atHand.authorized.row
  have stored := externalRow_ok read
  rw [stored] at found
  rw [← Option.some.inj found] at terms
  refine ⟨stored, active, ?_, terms, atHand.credential.terms terms, ?_⟩
  · exact Target.approvedBy_congr atHand.authorized.parsed (externalRow_parsed read) terms
      atHand.authorized.approved
  · intro j c asks
    exact alone j i (BrokerThread.asking_holds asks) isHolder

end Runs

/-! ### A search that is overtaken -/

def docsHost : Host Empty := ⟨roomyInterpreter, fun _ => false⟩

def docsSearch : BrokerCall Empty := ⟨docsCaller, .tool "search" []⟩

def docsAsk : Ask Empty := ⟨docsSearch, docsConnection docsRow, none⟩

/-- A broker whose issuer and upstream answer nothing. -/
def silentBroker : Broker Empty := ⟨roomyInterpreter, fun _ _ _ _ => none, fun _ _ _ _ => .error .other⟩

def docsRequests : Bool → BrokerRequest Empty
  | false => .service (.revoke docsCaller "left the company")
  | true => .ask docsSearch

/-- The search has what it needs and is about to take the lock. -/
theorem docs_issued : ∃ events config, Run (BrokerStep docsHost)
      (brokerStart docsRegistry docsRequests) events config ∧
    config.shared = ⟨docsRegistry, false⟩ ∧ config.threads true = .issued docsAsk ∧
    config.threads false = .service (.revoking docsCaller "left the company") := by
  have encoded : encodeArguments ([] : ToolArguments Empty) = some ['{', '}'] := rfl
  have verdict : docsSearch.authorize docsHost.isUnsafe docsRegistry =
      .authorized (docsConnection docsRow) := by
    have read : connectionForBroker docsRegistry docsCaller = .ok (docsConnection docsRow) := by
      rw [connectionForBroker_valid (by decide)]
      exact docs_active
    unfold docsSearch
    rw [BrokerCall.authorize_tool]
    unfold authorizeTool
    rw [read, encoded]
    dsimp only
    rw [if_neg (by decide), if_neg (by decide), if_neg (by decide)]
  have fits : docsSearch.target.checkSize = .ok () := by
    change checkRequestSize ([] : ToolArguments Empty) = .ok ()
    unfold checkRequestSize
    rw [encoded]
    exact if_neg (by decide)
  have one : Run (BrokerStep docsHost) (brokerStart docsRegistry docsRequests) _ _ :=
    .next .start (i := true) (.giveSlot fits)
  have two := one.next (i := true) (.authorize verdict)
  have three := two.next (i := true) (.issue silentBroker rfl)
  exact ⟨_, _, three, rfl, rfl, rfl⟩

theorem docs_begins (registry : Registry) : BrokerStep docsHost ⟨registry, false⟩ (.issued docsAsk)
    ⟨registry, true⟩ (.fenceBegun docsAsk) := .fenceBegin rfl

theorem upstream_asked_as_stored_docs : ∃ (events : List (Event Bool ExternalDb))
    (config : Config Bool ExternalDb (BrokerThread Empty)),
    Run (BrokerStep docsHost) (brokerStart docsRegistry docsRequests) events config ∧
      config.threads true = .upstream docsAsk (docsConnection docsRow) ∧
      config.shared.registry.select "acme" docsRow.id = some docsRow := by
  obtain ⟨events, config, run, shared, searching, _⟩ := docs_issued
  have selects : BrokerStep docsHost ⟨docsRegistry, true⟩ (.fenceBegun docsAsk)
      ⟨docsRegistry, true⟩ (.fenced docsAsk (docsConnection docsRow)) :=
    .fenceSelect docs_active rfl
  have starts : BrokerStep docsHost ⟨docsRegistry, true⟩ (.fenced docsAsk (docsConnection docsRow))
      ⟨docsRegistry, true⟩ (.upstream docsAsk (docsConnection docsRow)) := .start
  have asks : Relation.ReflTransGen
      (fun x y : ExternalDb × BrokerThread Empty => BrokerStep docsHost x.1 x.2 y.1 y.2)
      (config.shared, config.threads true) (⟨docsRegistry, true⟩,
        .upstream docsAsk (docsConnection docsRow)) := by
    rw [shared, searching]
    exact .head (b := (⟨docsRegistry, true⟩, .fenceBegun docsAsk)) (docs_begins docsRegistry)
      (.head (b := (⟨docsRegistry, true⟩, .fenced docsAsk (docsConnection docsRow))) selects
        (.single starts))
  obtain ⟨more, asked⟩ := Run.solo asks
  have whole := run.append asked
  have upstream : (Function.update config.threads true
      (.upstream docsAsk (docsConnection docsRow))) true =
        .upstream docsAsk (docsConnection docsRow) := Function.update_self ..
  have stored := upstream_asked_as_stored whole (i := true) upstream
  exact ⟨_, _, whole, upstream, stored.1⟩

section Runs

variable {ι F : Type} [DecidableEq ι] [FloatFormat F] {host : Host F} {registry : Registry}
  {requests : ι → BrokerRequest F} {config mid : Config ι ExternalDb (BrokerThread F)}
  {past later : List (Event ι ExternalDb)}

/-! ### After a revocation -/

/-- What a revocation returned is in the registry. -/
theorem Draft.revoked {db db' : ExternalDb} {thread : ExternalThread} {c : Caller}
    {written : Option String} {row : ConnectionRow}
    (known : thread.holds = true → Draft F db.registry thread)
    (step : ExternalStep F db thread db' (.revoked c written row)) : db'.registry.Revoked c := by
  cases step with
  | revokeCommit => exact (known rfl).2

end Runs

end FolioLattice.External
