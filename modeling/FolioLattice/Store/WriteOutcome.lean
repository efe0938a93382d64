/-
What a caller of `write_version` is told.  The result is read back after the
commit under a check of its own, so others may come in between.
-/

import FolioLattice.Store.Progress
import FolioLattice.Store.Texts
import FolioLattice.Store.Writers

namespace FolioLattice.Store

open FolioLattice.Text FolioLattice.Data FolioLattice.Relational FolioLattice.Concurrency

variable {F : Type} [FloatFormat F]

/-! ### The call -/

/-- `write_version` up to its commit; it yields the new version's id. -/
def WriteRequest.transaction (request : WriteRequest F) (settings : Settings) (draw : VersionDraw)
    (disk : Disk) : Disk × Except Failure String :=
  match request.validate settings with
  | .error e => (disk, .error e)
  | .ok context => commit disk (writeBody settings draw request context disk)

/-- The last step: the result is read in the state that there is by then. -/
def WriteRequest.readBack (request : WriteRequest F) (committed : Except Failure String)
    (later : Disk) : Except Failure (VersionView F) := do
  let versionId ← committed
  versionMetadata later.db request.tenantId (some versionId) request.requestActor .write

/-- The arguments of the `artifact_write` tool, and who calls it. -/
structure ArtifactWrite (F : Type) where
  requestTenant : String
  requestActor : String
  /-- `policy_actor(request_actor)` -/
  policyActor : Option String
  artifactId : String
  parentVersionId : String
  contentBase64 : String
  mediaType : Option String := none
  reason : String := "update"
  sourceContext : List (PyStr × Json F) := []

/-- What the tool passes on: it reads the artifact first and decodes the content
with `decode`. -/
def ArtifactWrite.request (call : ArtifactWrite F) (decode : String → Option Bytes) (disk : Disk) :
    Except Failure (WriteRequest F) := do
  let artifact ← getArtifact disk.db call.requestTenant call.artifactId call.policyActor .write
  match decode call.contentBase64 with
  | none => .error (.folio "content_base64 is not valid base64")
  | some data =>
      .ok {
        tenantId := call.requestTenant
        artifactId := call.artifactId
        data := data
        mediaType := (call.mediaType.filter (fun t => !t.isEmpty)).getD artifact.mediaType
        actor := call.requestActor
        reason := call.reason
        sourceContext := call.sourceContext
        parentVersionId := some call.parentVersionId
        authorizationActor := .given call.policyActor }

inductive WriteCall (F : Type) where
  | direct (request : WriteRequest F)
  | tool (call : ArtifactWrite F)

def WriteCall.request (call : WriteCall F) (decode : String → Option Bytes) (start : Disk) :
    Except Failure (WriteRequest F) :=
  match call with
  | .direct request => .ok request
  | .tool call => call.request decode start

/-- The call started at `start` and has its transaction at `disk`. -/
def WriteCall.transaction (call : WriteCall F) (settings : Settings) (decode : String → Option Bytes)
    (draw : VersionDraw) (start disk : Disk) : Disk × Except Failure String :=
  match call.request decode start with
  | .error e => (disk, .error e)
  | .ok request => request.transaction settings draw disk

/-- What the caller is told when the result is read back at `later`. -/
def WriteCall.outcome (call : WriteCall F) (settings : Settings) (decode : String → Option Bytes)
    (draw : VersionDraw) (start disk later : Disk) : Except Failure (VersionView F) :=
  match call.request decode start with
  | .error e => .error e
  | .ok request => request.readBack (request.transaction settings draw disk).2 later

/-! ### Whether it commits -/

/-- All that the transaction asks for: valid input, the permission, the current
version as parent, and ids that are new. -/
structure WriteRequest.Accepted (request : WriteRequest F) (settings : Settings)
    (draw : VersionDraw) (db : Database) : Prop where
  valid : ∃ context, request.validate settings = .ok context ∧
    Apart ChunkRow.clashes (db.chunks ++ (request.input context).chunkRows draw)
  authorized : authorize db request.tenantId request.artifactId request.requestActor .write = .ok ()
  child : ∃ artifact, db.findArtifact request.tenantId request.artifactId = some artifact ∧
    request.parentVersionId = artifact.currentVersionId
  fresh : ∀ old ∈ db.versions, old.id ≠ newId "ver" draw.versionId

theorem WriteRequest.transaction_accepted {settings : Settings} {draw : VersionDraw}
    {request : WriteRequest F} {disk : Disk} (accepted : request.Accepted settings draw disk.db) :
    ∃ context, request.validate settings = .ok context ∧
      (request.transaction settings draw disk).1.db =
        disk.db.addVersion ((request.input context).row settings draw)
          ((request.input context).chunkRows draw) ∧
      (request.transaction settings draw disk).2 = .ok (newId "ver" draw.versionId) := by
  obtain ⟨context, valid, apart⟩ := accepted.valid
  obtain ⟨artifact, found, isChild⟩ := accepted.child
  have rows := insertVersionRows_of_fresh settings (request.input context) disk.db accepted.fresh
    apart
  have inserted : (insertVersion settings draw (request.input context) disk.db disk.files).2 =
      .ok (disk.db.addVersion ((request.input context).row settings draw)
        ((request.input context).chunkRows draw), newId "ver" draw.versionId) := by
    have found' : disk.db.findArtifact (request.input context).tenantId
        (request.input context).artifactId = some artifact := found
    have isChild' : ¬(request.input context).parentVersionId ≠ artifact.currentVersionId :=
      not_not.mpr isChild
    unfold insertVersion
    simp only [found', if_neg isChild', rows]
    rfl
  have done : (writeBody settings draw request context disk).2 =
      .ok (disk.db.addVersion ((request.input context).row settings draw)
        ((request.input context).chunkRows draw), newId "ver" draw.versionId) := by
    unfold writeBody
    simp only [accepted.authorized]
    exact inserted
  refine ⟨context, valid, ?_⟩
  unfold WriteRequest.transaction
  simp only [valid]
  unfold commit
  simp only [done, and_self]

theorem WriteRequest.transaction_refused {settings : Settings} {draw : VersionDraw}
    {request : WriteRequest F} {disk : Disk} (sound : StoreSound disk.db)
    (refused : ¬request.Accepted settings draw disk.db) :
    (request.transaction settings draw disk).1.db = disk.db ∧
      ∃ e, (request.transaction settings draw disk).2 = .error e := by
  unfold WriteRequest.transaction
  cases valid : request.validate settings with
  | error e => exact ⟨rfl, e, rfl⟩
  | ok context =>
      rcases commit_cases disk (writeBody settings draw request context disk) with
        ⟨db, versionId, committed, _⟩ | ⟨e, _, failed⟩
      · obtain ⟨_, authorized, fresh, apart, _, child⟩ :=
          writeBody_ok committed sound.versions.chunksApart
        exact absurd ⟨⟨context, valid, apart⟩, authorized, child, fresh⟩ refused
      · simp only [failed]
        exact ⟨trivial, e, rfl⟩

/-- The transaction is the step of the store that writes the version. -/
theorem WriteRequest.transaction_perform (request : WriteRequest F) (settings : Settings)
    (draw : VersionDraw) (disk : Disk) :
    perform settings (.write draw request) disk =
      ((request.transaction settings draw disk).1,
        (request.transaction settings draw disk).2.map .written) := by
  have body : Call.body settings disk (.write draw request) =
      checked disk.files (request.validate settings) (fun context =>
        reply .written (writeBody settings draw request context disk)) := rfl
  unfold perform WriteRequest.transaction
  rw [body]
  cases request.validate settings with
  | error e => rfl
  | ok context =>
      change commit disk (reply .written (writeBody settings draw request context disk)) =
        ((commit disk (writeBody settings draw request context disk)).1,
          (commit disk (writeBody settings draw request context disk)).2.map .written)
      obtain ⟨files, result⟩ := writeBody settings draw request context disk
      cases result with
      | error e => rfl
      | ok pair => rfl

/-! ### What the caller is told -/

/-- The version row of the call is there after its transaction. -/
def WroteVersion (draw : VersionDraw) (before after : Database) : Prop :=
  ∃ row, row.id = newId "ver" draw.versionId ∧ after.versions = before.versions ++ [row]

/-- The caller is told of a success exactly when its version was committed, and
of a failure only when its transaction changed no table. -/
structure WriteCall.Reported (call : WriteCall F) (settings : Settings)
    (decode : String → Option Bytes) (draw : VersionDraw) (start disk later : Disk) : Prop where
  iff : (∃ view, call.outcome settings decode draw start disk later = .ok view) ↔
    WroteVersion draw disk.db (call.transaction settings decode draw start disk).1.db
  raised : ∀ e, call.outcome settings decode draw start disk later = .error e →
    (call.transaction settings decode draw start disk).1.db = disk.db

/-- The actor still has its write permission when the result is read back. -/
def WriteCall.StillPermitted (call : WriteCall F) (settings : Settings)
    (decode : String → Option Bytes) (draw : VersionDraw) (start disk later : Disk) : Prop :=
  ∀ request, call.request decode start = .ok request → request.Accepted settings draw disk.db →
    authorize later.db request.tenantId request.artifactId request.requestActor .write = .ok ()

theorem append_singleton_ne {α : Type} (rows : List α) (row : α) : rows ≠ rows ++ [row] := by
  intro same
  have lengths := congrArg List.length same
  rw [List.length_append, List.length_singleton] at lengths
  omega

omit [FloatFormat F] in
theorem not_wroteVersion {draw : VersionDraw} {before after : Database} (same : after = before) :
    ¬WroteVersion draw before after := by
  rintro ⟨row, _, appended⟩
  rw [same] at appended
  exact append_singleton_ne _ _ appended

/-- A version that is there reads back for exactly those who may write. -/
theorem versionMetadata_write_iff {db : Database} (keyed : KeyedBy (·.id) db.versions)
    {tenantId artifactId versionId : String} {parent : Option String} {actor : Option String}
    (stored : HasVersion F db tenantId artifactId versionId parent) :
    (∃ view : VersionView F, versionMetadata db tenantId (some versionId) actor .write = .ok view) ↔
      authorize db tenantId artifactId actor .write = .ok () := by
  constructor
  · rintro ⟨view, done⟩
    obtain ⟨version, member, sameId, sameTenant, sameArtifact, _⟩ := stored
    have found : db.findVersion tenantId (some versionId) none = some version := by
      apply keyed.find? member
      · simp [sameId, sameTenant]
      · intro other holds
        simp only [Option.some.injEq, Option.all_none, Bool.and_true, Bool.and_eq_true,
          decide_eq_true_eq] at holds
        rw [sameId, holds.1]
    unfold versionMetadata at done
    rw [found] at done
    obtain ⟨_, authorized, _⟩ := Effects.except_bind_ok done
    rw [sameArtifact] at authorized
    unfold renameNotFound at authorized
    split at authorized
    · cases authorized
    · rename_i allowed
      exact allowed
  · exact versionMetadata_of_authorized keyed stored

/-- The version is there in every state that comes after its commit. -/
theorem WriteRequest.hasVersion {settings : Settings} {draw : VersionDraw}
    {request : WriteRequest F} {disk later : Disk} (reachable : Reachable F settings disk)
    (accepted : request.Accepted settings draw disk.db) {more : List (Disk × Occurrence F)}
    (after : Trace (StoreStep settings) (request.transaction settings draw disk).1 more later) :
    StoreSound later.db ∧ HasVersion F later.db request.tenantId request.artifactId
      (newId "ver" draw.versionId) request.parentVersionId := by
  obtain ⟨initial, past, trace⟩ := reachable
  obtain ⟨context, _, _, committed⟩ := WriteRequest.transaction_accepted accepted
  have performed := request.transaction_perform settings draw disk
  have step : StoreStep settings disk
      (.finished (.write draw request) (.ok (.written (newId "ver" draw.versionId))))
      (request.transaction settings draw disk).1 := by
    have taken : StoreStep settings disk
        (.finished (.write draw request) (perform settings (.write draw request) disk).2)
        (perform settings (.write draw request) disk).1 := .call disk (.write draw request)
    rw [performed, committed] at taken
    exact taken
  have whole := (trace.next step).append after
  refine ⟨StoreTrace.sound whole, ?_⟩
  obtain ⟨row, inside, stored⟩ := (StoreTrace.held whole _ (List.mem_filterMap.mpr
    ⟨_, List.mem_append_left _ (List.mem_append_right _ (List.mem_singleton_self _)), rfl⟩)).row
  exact ⟨row, inside, stored.id, stored.tenantId, stored.artifactId, stored.parentVersionId, _,
    stored.sourceContext⟩

variable {settings : Settings} {decode : String → Option Bytes} {draw : VersionDraw}
  {start disk later : Disk}

/-- A call that gets to its transaction and is accepted there. -/
theorem WriteRequest.Accepted.reported {call : WriteCall F} {request : WriteRequest F}
    (made : call.request decode start = .ok request) (reachable : Reachable F settings disk)
    (accepted : request.Accepted settings draw disk.db) {more : List (Disk × Occurrence F)}
    (after : Trace (StoreStep settings) (call.transaction settings decode draw start disk).1 more
      later) :
    call.Reported settings decode draw start disk later ↔
      authorize later.db request.tenantId request.artifactId request.requestActor .write =
        .ok () := by
  have transaction : call.transaction settings decode draw start disk =
      request.transaction settings draw disk := by
    unfold WriteCall.transaction
    rw [made]
  rw [transaction] at after
  obtain ⟨sound, stored⟩ := request.hasVersion reachable accepted after
  obtain ⟨context, _, written, committed⟩ := WriteRequest.transaction_accepted accepted
  have outcome : call.outcome settings decode draw start disk later =
      versionMetadata later.db request.tenantId (some (newId "ver" draw.versionId))
        request.requestActor .write := by
    unfold WriteCall.outcome
    rw [made]
    unfold WriteRequest.readBack
    simp only [committed]
    rfl
  have wrote : WroteVersion draw disk.db (call.transaction settings decode draw start disk).1.db := by
    rw [transaction, written]
    exact ⟨(request.input context).row settings draw, rfl, rfl⟩
  rw [← versionMetadata_write_iff sound.versions.versionIds stored, ← outcome]
  constructor
  · intro reported
    exact reported.iff.mpr wrote
  · intro told
    refine ⟨⟨fun _ => wrote, fun _ => told⟩, ?_⟩
    intro e failed
    obtain ⟨view, done⟩ := told
    rw [done] at failed
    cases failed

/-- A call that is refused is told so, and changes no table. -/
theorem WriteCall.reported_of_refused {call : WriteCall F}
    (unchanged : (call.transaction settings decode draw start disk).1.db = disk.db)
    (failed : ∃ e, call.outcome settings decode draw start disk later = .error e) :
    call.Reported settings decode draw start disk later := by
  obtain ⟨e, told⟩ := failed
  refine ⟨⟨?_, ?_⟩, fun _ _ => unchanged⟩
  · rintro ⟨view, done⟩
    rw [told] at done
    cases done
  · intro wrote
    exact absurd wrote (not_wroteVersion unchanged)

/-- A caller is told what happened exactly when the actor may still write once
the result is read back. -/
theorem write_reported_iff (call : WriteCall F) (reachable : Reachable F settings start)
    {past more : List (Disk × Occurrence F)} (before : Trace (StoreStep settings) start past disk)
    (after : Trace (StoreStep settings) (call.transaction settings decode draw start disk).1 more
      later) :
    call.Reported settings decode draw start disk later ↔
      call.StillPermitted settings decode draw start disk later := by
  obtain ⟨initial, earlier, trace⟩ := reachable
  have reached : Reachable F settings disk := ⟨initial, earlier ++ past, trace.append before⟩
  unfold WriteCall.StillPermitted
  cases made : call.request decode start with
  | error e =>
      have refused : call.Reported settings decode draw start disk later := by
        apply WriteCall.reported_of_refused
        · unfold WriteCall.transaction
          rw [made]
        · unfold WriteCall.outcome
          rw [made]
          exact ⟨e, rfl⟩
      refine iff_of_true refused ?_
      intro request impossible
      cases impossible
  | ok request =>
      simp only [Except.ok.injEq, forall_eq']
      by_cases accepted : request.Accepted settings draw disk.db
      · rw [WriteRequest.Accepted.reported made reached accepted after]
        exact ⟨fun permitted _ => permitted, fun permitted => permitted accepted⟩
      · have refused : call.Reported settings decode draw start disk later := by
          obtain ⟨unchanged, e, failed⟩ :=
            WriteRequest.transaction_refused reached.sound accepted
          apply WriteCall.reported_of_refused
          · unfold WriteCall.transaction
            rw [made]
            exact unchanged
          · unfold WriteCall.outcome
            rw [made]
            unfold WriteRequest.readBack
            simp only [failed]
            exact ⟨e, rfl⟩
        exact iff_of_true refused (fun also => absurd also accepted)

/-! ### A revocation in between -/

def retractedCreate : CreateRequest Empty where
  tenantId := "t"
  name := "n"
  data := [104]
  actor := "ann"

def retractedShare : ShareRequest where
  tenantId := "t"
  artifactId := newId "art" Uuid.nil
  actor := "ann"
  subjectActorId := "bob"
  action := "write"

def retractedWrite : WriteRequest Empty where
  tenantId := "t"
  artifactId := newId "art" Uuid.nil
  data := [105]
  mediaType := "text/plain"
  actor := "bob"
  reason := "edit"
  sourceContext := []
  parentVersionId := some (newId "ver" Uuid.nil)

def retractedRevoke : RevokeRequest where
  tenantId := "t"
  artifactId := newId "art" Uuid.nil
  actor := "ann"
  grantId := newId "grt" Uuid.nil

def retractedCalls : List (Call Empty) :=
  [.create (CreateDraw.epoch Uuid.nil) retractedCreate,
    .share ⟨Uuid.nil, Timestamp.epoch⟩ retractedShare]

def retractedStart : Disk :=
  performAll Settings.standard retractedCalls (freshDisk Settings.standard InitializeDraw.epoch)

def retractedDraw : VersionDraw := VersionDraw.epoch Uuid.one

def retractedAfter : List (Call Empty) := [.revoke Timestamp.epoch retractedRevoke]

/-- `ann` revokes the share of `bob` right after the commit of its write. -/
def retractedLater : Disk :=
  performAll Settings.standard retractedAfter
    (retractedWrite.transaction Settings.standard retractedDraw retractedStart).1

theorem write_reported_iff_retracted :
    (WriteCall.direct retractedWrite).Reported Settings.standard (fun _ => none) retractedDraw
        retractedStart retractedStart retractedLater ↔
      (WriteCall.direct retractedWrite).StillPermitted Settings.standard (fun _ => none)
        retractedDraw retractedStart retractedStart retractedLater :=
  write_reported_iff (.direct retractedWrite)
    ⟨InitializeDraw.epoch, _, performAll_trace .start retractedCalls⟩ .start
    (performAll_trace .start retractedAfter)

/-- `bob` is told that the version is not found, and it was written. -/
theorem write_not_reported :
    ¬(WriteCall.direct retractedWrite).Reported Settings.standard (fun _ => none) retractedDraw
      retractedStart retractedStart retractedLater := by
  intro reported
  have told : ((WriteCall.direct retractedWrite).outcome Settings.standard (fun _ => none)
      retractedDraw retractedStart retractedStart retractedLater).map (fun _ => ()) =
        .error (.folio "version not found") := by
    decide
  have versions : ((WriteCall.direct retractedWrite).transaction Settings.standard (fun _ => none)
      retractedDraw retractedStart retractedStart).1.db.versions.length = 2 := by
    decide
  have before : retractedStart.db.versions.length = 1 := by
    decide
  cases outcome : (WriteCall.direct retractedWrite).outcome Settings.standard (fun _ => none)
      retractedDraw retractedStart retractedStart retractedLater with
  | ok view =>
      rw [outcome] at told
      cases told
  | error e =>
      rw [reported.raised e outcome, before] at versions
      cases versions

end FolioLattice.Store
