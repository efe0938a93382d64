/-
Concurrent calls of `create_artifact` and `write_version`: each runs its
transaction in one step and reads its result back in later ones.
-/

import FolioLattice.Concurrency.Interleaving
import FolioLattice.Store.Chain

namespace FolioLattice.Store

open FolioLattice.Text FolioLattice.Data FolioLattice.Relational FolioLattice.Concurrency

/-! ### Reading back what was committed -/

/-- The rows that later calls keep: artifacts with their owners, versions and
grants. -/
structure Grows (db db' : Database) : Prop where
  artifacts : ∀ a ∈ db.artifacts, ∃ a' ∈ db'.artifacts,
    a'.id = a.id ∧ a'.tenantId = a.tenantId ∧ a'.ownerActorId = a.ownerActorId
  versions : ∀ v ∈ db.versions, v ∈ db'.versions
  grants : ∀ g ∈ db.aclGrants, g ∈ db'.aclGrants

theorem Grows.refl (db : Database) : Grows db db where
  artifacts := fun a member => ⟨a, member, rfl, rfl, rfl⟩
  versions := fun _ member => member
  grants := fun _ member => member

theorem Grows.addVersion (db : Database) (row : VersionRow) (chunks : List ChunkRow) :
    Grows db (db.addVersion row chunks) where
  artifacts := by
    intro a member
    cases target : isTarget row a with
    | true => exact ⟨_, addVersion_target chunks member target, rfl, rfl, rfl⟩
    | false => exact ⟨a, addVersion_other chunks member target, rfl, rfl, rfl⟩
  versions := fun _ member => List.mem_append_left _ member
  grants := fun _ member => member

theorem Grows.addArtifact (db : Database) (tenants : List TenantRow) (artifact : ArtifactRow)
    (grants : List GrantRow) : Grows db (db.addArtifact tenants artifact grants) where
  artifacts := fun a member => ⟨a, List.mem_append_left _ member, rfl, rfl, rfl⟩
  versions := fun _ member => member
  grants := fun _ member => List.mem_append_left _ member

theorem Grows.trans {db db' db'' : Database} (first : Grows db db') (second : Grows db' db'') :
    Grows db db'' where
  artifacts := by
    intro a member
    obtain ⟨a', inside, id', tenant', owner'⟩ := first.artifacts a member
    obtain ⟨a'', inside', id'', tenant'', owner''⟩ := second.artifacts a' inside
    exact ⟨a'', inside', id''.trans id', tenant''.trans tenant', owner''.trans owner'⟩
  versions := fun v member => second.versions v (first.versions v member)
  grants := fun g member => second.grants g (first.grants g member)

theorem Grows.permits {db db' : Database} (grows : Grows db db') {artifact artifact' : ArtifactRow}
    (sameId : artifact'.id = artifact.id) (sameTenant : artifact'.tenantId = artifact.tenantId)
    (sameOwner : artifact'.ownerActorId = artifact.ownerActorId) {actor : String} {action : Action}
    (permitted : db.permits artifact actor action = true) :
    db'.permits artifact' actor action = true := by
  unfold Database.permits at permitted ⊢
  rw [sameId, sameTenant, sameOwner]
  rw [Bool.or_eq_true, List.any_eq_true] at permitted ⊢
  rcases permitted with owner | ⟨grant, member, active⟩
  · exact Or.inl owner
  · exact Or.inr ⟨grant, grows.grants grant member, active⟩

theorem Grows.authorize {db db' : Database} (grows : Grows db db')
    (keyed : KeyedBy (·.id) db'.artifacts) {tenantId artifactId : String} {actor : Option String}
    {action : Action} (authorized : authorize db tenantId artifactId actor action = .ok ()) :
    authorize db' tenantId artifactId actor action = .ok () := by
  obtain ⟨artifact, found, allowed⟩ := authorize_ok_iff.mp authorized
  obtain ⟨member, sameId, sameTenant⟩ := findArtifact_some found
  obtain ⟨artifact', member', id', tenant', owner'⟩ := grows.artifacts artifact member
  apply authorize_ok_iff.mpr
  refine ⟨artifact', ?_, ?_⟩
  · rw [← sameId, ← sameTenant, ← id', ← tenant']
    exact findArtifact_of_mem keyed member'
  · intro x isActor
    obtain ⟨valid, permitted⟩ := allowed x isActor
    exact ⟨valid, grows.permits id' tenant' owner' permitted⟩

/-- The version is stored, with a source context that parses. -/
def HasVersion (F : Type) [FloatFormat F] (db : Database)
    (tenantId artifactId versionId : String) (parent : Option String) : Prop :=
  ∃ version ∈ db.versions, version.id = versionId ∧ version.tenantId = tenantId ∧
    version.artifactId = artifactId ∧ version.parentVersionId = parent ∧
    ∃ context : Json F, loadText version.sourceContext = .ok context

section Calls

variable {F : Type} [FloatFormat F]

theorem HasVersion.grows {db db' : Database} (grows : Grows db db')
    {tenantId artifactId versionId : String} {parent : Option String}
    (stored : HasVersion F db tenantId artifactId versionId parent) :
    HasVersion F db' tenantId artifactId versionId parent := by
  obtain ⟨version, member, rest⟩ := stored
  exact ⟨version, grows.versions version member, rest⟩

theorem versionMetadata_of_authorized {db : Database} (keyed : KeyedBy (·.id) db.versions)
    {tenantId artifactId versionId : String} {parent : Option String} {actor : Option String}
    {action : Action} (stored : HasVersion F db tenantId artifactId versionId parent)
    (authorized : authorize db tenantId artifactId actor action = .ok ()) :
    ∃ view : VersionView F, versionMetadata db tenantId (some versionId) actor action = .ok view := by
  obtain ⟨version, member, sameId, sameTenant, sameArtifact, _, context, loaded⟩ := stored
  have found : db.findVersion tenantId (some versionId) none = some version := by
    apply keyed.find? member
    · simp [sameId, sameTenant]
    · intro other holds
      simp only [Option.some.injEq, Option.all_none, Bool.and_true, Bool.and_eq_true,
        decide_eq_true_eq] at holds
      rw [sameId, holds.1]
  unfold versionMetadata
  rw [found]
  simp only [sameArtifact, authorized, renameNotFound, VersionRow.view, loaded]
  exact ⟨_, rfl⟩

/-! ### The threads -/

inductive WriterState (F : Type) where
  | creating (request : CreateRequest F)
  | createCommitted (request : CreateRequest F) (artifactId versionId : String)
  | createViewed (request : CreateRequest F) (artifact : ArtifactView) (versionId : String)
  | created (artifact : ArtifactView) (version : VersionView F)
  | writing (request : WriteRequest F)
  | writeCommitted (request : WriteRequest F) (versionId : String)
  | written (request : WriteRequest F) (versionId : String) (version : VersionView F)
  | raised (failure : Failure)

/-- A call goes on with a result, or raises. -/
def continueWith {α : Type} (result : Except Failure α) (next : α → WriterState F) :
    WriterState F :=
  match result with
  | .ok value => next value
  | .error e => .raised e

inductive WriterStep (settings : Settings) : ThreadStep Disk (WriterState F) where
  | createRefused {disk : Disk} {request : CreateRequest F} {failure : Failure}
      (refused : request.validate settings = .error failure) :
      WriterStep settings disk (.creating request) disk (.raised failure)
  | createTransaction {disk : Disk} {request : CreateRequest F} (json : String)
      (draw : CreateDraw) (valid : request.validate settings = .ok json) :
      WriterStep settings disk (.creating request)
        (commit disk (createBody settings draw request json disk)).1
        (continueWith (commit disk (createBody settings draw request json disk)).2
          (fun ids => .createCommitted request ids.1 ids.2))
  | createInterrupted {disk : Disk} {request : CreateRequest F} {files : Files}
      (interrupted : BlobInterrupted disk.files request.data
        (settings.sha256 request.data).hex files) :
      WriterStep settings disk (.creating request) ⟨disk.db, files⟩ (.raised .interrupted)
  | createView {disk : Disk} {request : CreateRequest F} {artifactId versionId : String} :
      WriterStep settings disk (.createCommitted request artifactId versionId) disk
        (continueWith (getArtifact disk.db request.tenantId artifactId (some request.actor))
          (fun artifact => .createViewed request artifact versionId))
  | createReturn {disk : Disk} {request : CreateRequest F} {artifact : ArtifactView}
      {versionId : String} :
      WriterStep settings disk (.createViewed request artifact versionId) disk
        (continueWith
          (versionMetadata disk.db request.tenantId (some versionId) (some request.actor))
          (fun version => .created artifact version))
  | writeRefused {disk : Disk} {request : WriteRequest F} {failure : Failure}
      (refused : request.validate settings = .error failure) :
      WriterStep settings disk (.writing request) disk (.raised failure)
  | writeTransaction {disk : Disk} {request : WriteRequest F} (json : String)
      (draw : VersionDraw) (valid : request.validate settings = .ok json) :
      WriterStep settings disk (.writing request)
        (commit disk (writeBody settings draw request json disk)).1
        (continueWith (commit disk (writeBody settings draw request json disk)).2
          (fun versionId => .writeCommitted request versionId))
  | writeInterrupted {disk : Disk} {request : WriteRequest F} {files : Files}
      (interrupted : BlobInterrupted disk.files request.data
        (settings.sha256 request.data).hex files) :
      WriterStep settings disk (.writing request) ⟨disk.db, files⟩ (.raised .interrupted)
  | writeReturn {disk : Disk} {request : WriteRequest F} {versionId : String} :
      WriterStep settings disk (.writeCommitted request versionId) disk
        (continueWith
          (versionMetadata disk.db request.tenantId (some versionId) request.requestActor .write)
          (fun version => .written request versionId version))

/-! ### The shared invariant -/

/-- The tables are sound and grants do not clash. -/
structure WritersSound (db : Database) : Prop where
  versions : VersionsSound db
  grants : Apart GrantRow.clashes db.aclGrants

/-- What a thread knows of the tables. -/
def Knows (db : Database) : WriterState F → Prop
  | .creating _ => True
  | .createCommitted request artifactId versionId =>
      authorize db request.tenantId artifactId (some request.actor) .read = .ok () ∧
        HasVersion F db request.tenantId artifactId versionId none
  | .createViewed request artifact versionId =>
      authorize db request.tenantId artifact.id (some request.actor) .read = .ok () ∧
        HasVersion F db request.tenantId artifact.id versionId none
  | .created _ _ => True
  | .writing _ => True
  | .writeCommitted request versionId =>
      authorize db request.tenantId request.artifactId request.requestActor .write = .ok () ∧
        HasVersion F db request.tenantId request.artifactId versionId request.parentVersionId
  | .written request versionId _ =>
      HasVersion F db request.tenantId request.artifactId versionId request.parentVersionId
  | .raised _ => True

theorem Knows.grows {db db' : Database} (grows : Grows db db')
    (keyed : KeyedBy (·.id) db'.artifacts) {state : WriterState F} (knows : Knows db state) :
    Knows db' state := by
  cases state with
  | createCommitted request artifactId versionId =>
      exact ⟨grows.authorize keyed knows.1, knows.2.grows grows⟩
  | createViewed request artifact versionId =>
      exact ⟨grows.authorize keyed knows.1, knows.2.grows grows⟩
  | writeCommitted request versionId =>
      exact ⟨grows.authorize keyed knows.1, knows.2.grows grows⟩
  | written request versionId version => exact HasVersion.grows grows knows
  | _ => trivial

omit [FloatFormat F] in
theorem createBody_grows {settings : Settings} {draw : CreateDraw} {request : CreateRequest F}
    {sourceContextJson : String} {disk : Disk} {db' : Database} {ids : String × String}
    (sound : WritersSound disk.db)
    (committed : (createBody settings draw request sourceContextJson disk).2 = .ok (db', ids)) :
    Grows disk.db db' ∧ WritersSound db' := by
  obtain ⟨_, _, _, _, grantsApart, _, tenants, result⟩ :=
    createBody_ok committed sound.grants sound.versions.chunksApart
  have sound' := sound.versions.create sound.grants committed
  rw [result] at sound' ⊢
  exact ⟨(Grows.addArtifact _ _ _ _).trans (Grows.addVersion _ _ _), sound', grantsApart⟩

omit [FloatFormat F] in
theorem writeBody_grows {settings : Settings} {draw : VersionDraw} {request : WriteRequest F}
    {sourceContextJson : String} {disk : Disk} {db' : Database} {versionId : String}
    (sound : WritersSound disk.db)
    (committed : (writeBody settings draw request sourceContextJson disk).2 =
      .ok (db', versionId)) : Grows disk.db db' ∧ WritersSound db' := by
  have sound' := sound.versions.write committed
  obtain ⟨_, _, _, _, result, _⟩ := writeBody_ok committed sound.versions.chunksApart
  rw [result] at sound' ⊢
  exact ⟨Grows.addVersion _ _ _, sound', sound.grants⟩

/-- A committed `create_artifact` can read its result back. -/
theorem createBody_knows {settings : Settings} {draw : CreateDraw} {request : CreateRequest F}
    {json' : String} {disk : Disk} {db' : Database} {ids : String × String}
    (sound : WritersSound disk.db) (valid : request.validate settings = .ok json')
    (committed : (createBody settings draw request json' disk).2 = .ok (db', ids)) :
    Knows db' (.createCommitted request ids.1 ids.2) := by
  have keyed := (createBody_grows sound committed).2.versions.artifactIds
  obtain ⟨sameIds, _, _, _, _, _, tenants, result⟩ :=
    createBody_ok committed sound.grants sound.versions.chunksApart
  obtain ⟨_, inputValid⟩ := CreateRequest.validate_ok valid
  obtain ⟨_, _, actorValid, _, encoded⟩ := validateVersionInput_ok inputValid
  rw [result] at keyed ⊢
  rw [sameIds]
  constructor
  · apply authorize_ok_iff.mpr
    have target : isTarget ((request.firstVersion settings draw json').row settings draw.version)
        (request.artifactRow settings draw) = true := by
      rw [isTarget_eq]
      exact ofArtifact_iff.mpr ⟨rfl, rfl⟩
    have inside : request.artifactRow settings draw ∈
        (disk.db.addArtifact tenants (request.artifactRow settings draw)
          (request.ownerGrants draw)).artifacts :=
      List.mem_append_right _ (List.mem_singleton_self _)
    refine ⟨_, findArtifact_of_mem keyed (addVersion_target _ inside target), ?_⟩
    intro x isActor
    cases isActor
    refine ⟨actorValid, ?_⟩
    unfold Database.permits
    rw [Bool.or_eq_true]
    exact Or.inl (decide_eq_true rfl)
  · exact ⟨_, List.mem_append_right _ (List.mem_singleton_self _), rfl, rfl, rfl, rfl, _,
      loadText_json encoded⟩

theorem writeBody_knows {settings : Settings} {draw : VersionDraw} {request : WriteRequest F}
    {json' : String} {disk : Disk} {db' : Database} {versionId : String}
    (sound : WritersSound disk.db) (valid : request.validate settings = .ok json')
    (committed : (writeBody settings draw request json' disk).2 = .ok (db', versionId)) :
    Knows db' (.writeCommitted request versionId) := by
  obtain ⟨grows, sound'⟩ := writeBody_grows sound committed
  obtain ⟨sameId, authorized, _, _, result, _⟩ := writeBody_ok committed sound.versions.chunksApart
  obtain ⟨_, _, _, _, encoded⟩ := validateVersionInput_ok valid
  refine ⟨grows.authorize sound'.versions.artifactIds authorized, ?_⟩
  rw [result, sameId]
  exact ⟨_, List.mem_append_right _ (List.mem_singleton_self _), rfl, rfl, rfl, rfl, _,
    loadText_json encoded⟩

/-- One step: the tables stay sound and grow. -/
theorem WriterStep.sound {settings : Settings} {disk disk' : Disk} {state state' : WriterState F}
    (taken : WriterStep settings disk state disk' state') (sound : WritersSound disk.db) :
    Grows disk.db disk'.db ∧ WritersSound disk'.db := by
  cases taken with
  | @createTransaction _ request json draw valid =>
      rcases commit_cases disk (createBody settings draw request json disk) with
        ⟨db, ids, committed, result⟩ | ⟨e, _, result⟩
      · rw [result]
        exact createBody_grows sound committed
      · rw [result]
        exact ⟨Grows.refl _, sound⟩
  | @writeTransaction _ request json draw valid =>
      rcases commit_cases disk (writeBody settings draw request json disk) with
        ⟨db, versionId, committed, result⟩ | ⟨e, _, result⟩
      · rw [result]
        exact writeBody_grows sound committed
      · rw [result]
        exact ⟨Grows.refl _, sound⟩
  | _ => exact ⟨Grows.refl _, sound⟩

/-- One step: a thread that commits knows its result, and one that reads it back
succeeds. -/
theorem WriterStep.knows {settings : Settings} {disk disk' : Disk} {state state' : WriterState F}
    (taken : WriterStep settings disk state disk' state') (sound : WritersSound disk.db)
    (knows : Knows disk.db state) : Knows disk'.db state' := by
  cases taken with
  | @createTransaction _ request json draw valid =>
      rcases commit_cases disk (createBody settings draw request json disk) with
        ⟨db, ids, committed, result⟩ | ⟨e, _, result⟩
      · rw [result]
        exact createBody_knows sound valid committed
      · rw [result]
        exact trivial
  | @createView request artifactId versionId =>
      obtain ⟨view, done, sameId⟩ := getArtifact_of_authorized knows.1
      rw [done]
      change authorize _ _ view.id _ _ = _ ∧ HasVersion F _ _ view.id _ _
      rw [sameId]
      exact knows
  | createReturn =>
      obtain ⟨view, done⟩ := versionMetadata_of_authorized sound.versions.versionIds knows.2 knows.1
      rw [done]
      exact trivial
  | @writeTransaction _ request json draw valid =>
      rcases commit_cases disk (writeBody settings draw request json disk) with
        ⟨db, versionId, committed, result⟩ | ⟨e, _, result⟩
      · rw [result]
        exact writeBody_knows sound valid committed
      · rw [result]
        exact trivial
  | writeReturn =>
      obtain ⟨view, done⟩ := versionMetadata_of_authorized sound.versions.versionIds knows.2 knows.1
      rw [done]
      exact knows.2
  | _ => exact trivial

/-! ### Runs -/

inductive WriterCall (F : Type) where
  | create (request : CreateRequest F)
  | write (request : WriteRequest F)

def WriterCall.begin : WriterCall F → WriterState F
  | .create request => .creating request
  | .write request => .writing request

theorem WriterCall.begin_knows (call : WriterCall F) (db : Database) : Knows db call.begin := by
  cases call <;> exact trivial

/-- Any number of calls on a new store. -/
def writersStart {ι : Type} (settings : Settings) (draw : InitializeDraw)
    (calls : ι → WriterCall F) : Config ι Disk (WriterState F) :=
  ⟨⟨freshDatabase settings draw, fun _ => none⟩, fun i => (calls i).begin⟩

omit [FloatFormat F] in
theorem WritersSound.fresh (settings : Settings) (draw : InitializeDraw) :
    WritersSound (freshDatabase settings draw) where
  versions := VersionsSound.created.congr rfl rfl rfl rfl rfl
  grants := List.Pairwise.nil

variable {ι : Type} [DecidableEq ι] {settings : Settings} {draw : InitializeDraw}
  {calls : ι → WriterCall F} {events : List (Event ι Disk)}
  {config : Config ι Disk (WriterState F)}

theorem writers_sound
    (run : Run (WriterStep settings) (writersStart settings draw calls) events config) :
    WritersSound config.shared.db :=
  Run.shared (P := fun disk => WritersSound disk.db)
    (fun _ _ _ _ sound taken => (WriterStep.sound taken sound).2) run
    (WritersSound.fresh settings draw)

theorem writers_know
    (run : Run (WriterStep settings) (writersStart settings draw calls) events config) :
    ∀ i, Knows config.shared.db (config.threads i) := by
  refine Run.thread (P := fun disk => WritersSound disk.db)
    (G := fun disk disk' => Grows disk.db disk'.db ∧ WritersSound disk'.db)
    (L := fun disk state => Knows disk.db state) ?_ ?_ ?_ run (WritersSound.fresh settings draw) ?_
  · exact fun _ _ _ _ sound taken => (WriterStep.sound taken sound).2
  · exact fun _ _ _ _ sound knows taken =>
      ⟨WriterStep.sound taken sound, WriterStep.knows taken sound knows⟩
  · exact fun _ _ _ _ effect knows => knows.grows effect.1 effect.2.versions.artifactIds
  · exact fun i => (calls i).begin_knows _

/-- The request of a `write_version` that has committed, and its version. -/
def WriterState.wrote : WriterState F → Option (WriteRequest F × String)
  | .writeCommitted request versionId => some (request, versionId)
  | .written request versionId _ => some (request, versionId)
  | _ => none

omit [FloatFormat F] in
theorem WriterCall.begin_wrote (call : WriterCall F) : call.begin.wrote = none := by
  cases call <;> rfl

omit [FloatFormat F] in
theorem continueWith_wrote {α : Type} {result : Except Failure α} {next : α → WriterState F}
    {pair : WriteRequest F × String} (wrote : (continueWith result next).wrote = some pair) :
    ∃ value, result = .ok value ∧ (next value).wrote = some pair := by
  cases result with
  | error e => cases wrote
  | ok value => exact ⟨value, rfl, wrote⟩

theorem Knows.wrote {db : Database} {state : WriterState F} {request : WriteRequest F}
    {versionId : String} (knows : Knows db state) (wrote : state.wrote = some (request, versionId)) :
    HasVersion F db request.tenantId request.artifactId versionId request.parentVersionId := by
  cases state with
  | writeCommitted r v =>
      cases wrote
      exact knows.2
  | written r v view =>
      cases wrote
      exact knows
  | _ => cases wrote

/-- A step that ends in a committed write commits a new version, unless the write
had committed before. -/
theorem WriterStep.wrote {disk disk' : Disk} {state state' : WriterState F}
    (taken : WriterStep settings disk state disk' state') (sound : WritersSound disk.db)
    {request : WriteRequest F} {versionId : String}
    (wrote : state'.wrote = some (request, versionId)) :
    state.wrote = some (request, versionId) ∨ ∀ old ∈ disk.db.versions, old.id ≠ versionId := by
  cases taken with
  | createTransaction _ _ _ =>
      obtain ⟨_, _, impossible⟩ := continueWith_wrote wrote
      cases impossible
  | createView =>
      obtain ⟨_, _, impossible⟩ := continueWith_wrote wrote
      cases impossible
  | createReturn =>
      obtain ⟨_, _, impossible⟩ := continueWith_wrote wrote
      cases impossible
  | @writeTransaction _ _ json d _ =>
      obtain ⟨v, done, same⟩ := continueWith_wrote wrote
      cases same
      right
      rcases commit_cases disk (writeBody settings d request json disk) with
        ⟨db, v, committed, result⟩ | ⟨e, _, result⟩
      · rw [result] at done
        cases done
        obtain ⟨sameId, _, fresh, _⟩ := writeBody_ok committed sound.versions.chunksApart
        rw [sameId]
        exact fresh
      · rw [result] at done
        cases done
  | writeReturn =>
      obtain ⟨_, _, same⟩ := continueWith_wrote wrote
      exact Or.inl same
  | _ => cases wrote

/-- Two calls that have committed wrote different versions. -/
theorem writers_distinct
    (run : Run (WriterStep settings) (writersStart settings draw calls) events config) {i j : ι}
    (distinct : i ≠ j) {first second : WriteRequest F} {firstId secondId : String}
    (wroteFirst : (config.threads i).wrote = some (first, firstId))
    (wroteSecond : (config.threads j).wrote = some (second, secondId)) : firstId ≠ secondId := by
  have apart := Run.pairwise (P := fun disk => WritersSound disk.db)
    (L := fun disk state => Knows disk.db state)
    (R := fun l m : WriterState F => ∀ r v r' v', l.wrote = some (r, v) → m.wrote = some (r', v') →
      v ≠ v')
    (fun apart r v r' v' one two => (apart r' v' r v two one).symm)
    (fun s l s' l' m sound _ knows apart taken r v r' v' one two => by
      rcases WriterStep.wrote taken sound one with before | fresh
      · exact apart r v r' v' before two
      · obtain ⟨version, member, sameId, _⟩ := knows.wrote two
        intro same
        exact fresh version member (sameId.trans same.symm))
    run (fun run => ⟨writers_sound run, writers_know run⟩)
    (fun i _ _ _ _ _ _ one => by
      have none := (calls i).begin_wrote
      exact absurd (none.symm.trans one) (by simp))
  exact apart i j distinct first firstId second secondId wroteFirst wroteSecond

/-- A call that has not committed, or has raised, changed no table. -/
def Unchanged (own : List (Event ι Disk)) : WriterState F → Prop
  | .creating _ => ∀ e ∈ own, e.after.db = e.before.db
  | .writing _ => ∀ e ∈ own, e.after.db = e.before.db
  | .raised _ => ∀ e ∈ own, e.after.db = e.before.db
  | _ => True

omit [FloatFormat F] [DecidableEq ι] in
theorem WriterCall.begin_unchanged (call : WriterCall F) :
    Unchanged ([] : List (Event ι Disk)) call.begin := by
  cases call with
  | create request => intro e member; cases member
  | write request => intro e member; cases member

omit [FloatFormat F] [DecidableEq ι] in
theorem unchanged_append {own : List (Event ι Disk)} {event : Event ι Disk}
    (before : ∀ e ∈ own, e.after.db = e.before.db) (same : event.after.db = event.before.db) :
    ∀ e ∈ own ++ [event], e.after.db = e.before.db := by
  intro e member
  rcases List.mem_append.mp member with old | new
  · exact before e old
  · rw [List.mem_singleton.mp new]
    exact same

omit [DecidableEq ι] in
theorem WriterStep.unchanged {disk disk' : Disk} {state state' : WriterState F}
    (taken : WriterStep settings disk state disk' state') (sound : WritersSound disk.db)
    (knows : Knows disk.db state) {i : ι} {own : List (Event ι Disk)}
    (history : Unchanged own state) : Unchanged (own ++ [⟨i, disk, disk'⟩]) state' := by
  cases taken with
  | createRefused _ => exact unchanged_append history rfl
  | @createTransaction _ request json draw valid =>
      rcases commit_cases disk (createBody settings draw request json disk) with
        ⟨db, ids, _, result⟩ | ⟨e, _, result⟩
      · rw [result]
        exact trivial
      · rw [result]
        exact unchanged_append history rfl
  | createInterrupted _ => exact unchanged_append history rfl
  | createView =>
      obtain ⟨view, done, _⟩ := getArtifact_of_authorized knows.1
      rw [done]
      exact trivial
  | createReturn =>
      obtain ⟨view, done⟩ := versionMetadata_of_authorized sound.versions.versionIds knows.2 knows.1
      rw [done]
      exact trivial
  | writeRefused _ => exact unchanged_append history rfl
  | @writeTransaction _ request json draw valid =>
      rcases commit_cases disk (writeBody settings draw request json disk) with
        ⟨db, versionId, _, result⟩ | ⟨e, _, result⟩
      · rw [result]
        exact trivial
      · rw [result]
        exact unchanged_append history rfl
  | writeInterrupted _ => exact unchanged_append history rfl
  | writeReturn =>
      obtain ⟨view, done⟩ := versionMetadata_of_authorized sound.versions.versionIds knows.2 knows.1
      rw [done]
      exact trivial

theorem writers_unchanged
    (run : Run (WriterStep settings) (writersStart settings draw calls) events config) :
    ∀ i, Unchanged (events.filter (fun e => e.thread = i)) (config.threads i) := by
  refine Run.history (P := fun disk => WritersSound disk.db)
    (L := fun disk state => Knows disk.db state) (H := Unchanged)
    (fun run => ⟨writers_sound run, writers_know run⟩)
    (fun _ _ _ _ _ _ sound knows history taken => WriterStep.unchanged taken sound knows history)
    run (fun i => (calls i).begin_unchanged)

/-! ### One linear history -/

/-- The versions that name the artifact form one chain in its tenant: one has no
parent, parents are versions of the artifact and not shared, and the artifact
points to the only one that is nobody's parent. -/
structure LinearHistory (db : Database) (artifact : ArtifactRow) : Prop where
  root : ∃ first ∈ db.versions, first.artifactId = artifact.id ∧ first.parentVersionId = none ∧
    ∀ v ∈ db.versions, v.artifactId = artifact.id → v.parentVersionId = none → v = first
  parent : ∀ v ∈ db.versions, v.artifactId = artifact.id → v.tenantId = artifact.tenantId ∧
    ∀ parentId, v.parentVersionId = some parentId →
      ∃ p ∈ db.versions, p.id = parentId ∧ p.artifactId = artifact.id ∧
        p.tenantId = artifact.tenantId
  unshared : ∀ v ∈ db.versions, ∀ w ∈ db.versions, v.artifactId = artifact.id →
    w.artifactId = artifact.id → v.parentVersionId = w.parentVersionId → v = w
  current : ∃ last ∈ db.versions, last.artifactId = artifact.id ∧
    artifact.currentVersionId = some last.id ∧ artifact.mediaType = last.mediaType ∧
    ∀ v ∈ db.versions, v.artifactId = artifact.id →
      ((∀ w ∈ db.versions, w.parentVersionId ≠ some v.id) ↔ v = last)

omit [FloatFormat F] [DecidableEq ι] in
theorem VersionsKeyed.mem_history {db : Database} (keyed : VersionsKeyed db)
    {artifact : ArtifactRow} (member : artifact ∈ db.artifacts) {version : VersionRow} :
    version ∈ db.history artifact ↔ version ∈ db.versions ∧ version.artifactId = artifact.id := by
  unfold Database.history
  rw [List.mem_filter]
  constructor
  · rintro ⟨inside, belongs⟩
    exact ⟨inside, (ofArtifact_iff.mp belongs).1⟩
  · rintro ⟨inside, names⟩
    obtain ⟨home, homeMember, belongs⟩ := keyed.versionHome version inside
    have same : home = artifact := by
      apply keyed.artifactIds.eq homeMember member
      rw [← names, (ofArtifact_iff.mp belongs).1]
    rw [← same]
    exact ⟨inside, belongs⟩

omit [FloatFormat F] [DecidableEq ι] in
/-- A parent is a version of the child's own artifact. -/
theorem VersionsSound.parent_home {db : Database} (sound : VersionsSound db)
    {child parent : VersionRow} (childMember : child ∈ db.versions)
    (parentMember : parent ∈ db.versions) (names : child.parentVersionId = some parent.id) :
    child.artifactId = parent.artifactId := by
  obtain ⟨home, homeMember, belongs⟩ := sound.versionHome child childMember
  have inHistory : child ∈ db.history home := List.mem_filter.mpr ⟨childMember, belongs⟩
  rcases (sound.chain home homeMember).linked.parent inHistory with ⟨_, noParent⟩ | ⟨p, pIn, isParent⟩
  · rw [noParent] at names
    cases names
  · obtain ⟨pMember, pBelongs⟩ := List.mem_filter.mp pIn
    rw [isParent] at names
    have same : p = parent :=
      sound.versionIds.eq pMember parentMember (Option.some.inj names)
    rw [(ofArtifact_iff.mp belongs).1, ← same, (ofArtifact_iff.mp pBelongs).1]

omit [FloatFormat F] [DecidableEq ι] in
theorem VersionsSound.linear {db : Database} (sound : VersionsSound db) {artifact : ArtifactRow}
    (member : artifact ∈ db.artifacts) : LinearHistory db artifact := by
  obtain ⟨linked, last, isLast, points, sameType⟩ := sound.chain artifact member
  have inHistory : ∀ v, v ∈ db.history artifact ↔ v ∈ db.versions ∧ v.artifactId = artifact.id :=
    fun v => sound.toVersionsKeyed.mem_history member
  have ids : KeyedBy (·.id) (db.history artifact) := sound.versionIds.filter _
  have parents := linked.parents_nodup ids
  have lastMember := (inHistory last).mp (List.mem_of_getLast? isLast)
  constructor
  · cases split : db.history artifact with
    | nil =>
        rw [split] at isLast
        cases isLast
    | cons first rest =>
        have firstIn : first ∈ db.history artifact := by
          rw [split]
          exact List.mem_cons_self
        have noParent : first.parentVersionId = none := by
          rw [split] at linked
          exact linked.1
        obtain ⟨inside, names⟩ := (inHistory first).mp firstIn
        refine ⟨first, inside, names, noParent, ?_⟩
        intro v vMember vNames vRoot
        exact parents.eq ((inHistory v).mpr ⟨vMember, vNames⟩) firstIn (vRoot.trans noParent.symm)
  · intro v vMember vNames
    have vIn := (inHistory v).mpr ⟨vMember, vNames⟩
    refine ⟨(ofArtifact_iff.mp (List.mem_filter.mp vIn).2).2, ?_⟩
    intro parentId isChild
    rcases linked.parent vIn with ⟨_, noParent⟩ | ⟨p, pIn, isParent⟩
    · rw [noParent] at isChild
      cases isChild
    · rw [isParent] at isChild
      obtain ⟨pMember, pBelongs⟩ := List.mem_filter.mp pIn
      exact ⟨p, pMember, Option.some.inj isChild, ofArtifact_iff.mp pBelongs⟩
  · intro v vMember w wMember vNames wNames same
    exact parents.eq ((inHistory v).mpr ⟨vMember, vNames⟩) ((inHistory w).mpr ⟨wMember, wNames⟩)
      same
  · refine ⟨last, lastMember.1, lastMember.2, points, sameType, ?_⟩
    intro v vMember vNames
    have vIn := (inHistory v).mpr ⟨vMember, vNames⟩
    have childless := linked.childless ids vIn
    rw [isLast, Option.some.injEq, eq_comm] at childless
    rw [← childless]
    constructor
    · intro nobody w wIn
      exact nobody w ((inHistory w).mp wIn).1
    · intro nobody w wMember isChild
      refine nobody w ((inHistory w).mpr ⟨wMember, ?_⟩) isChild
      rw [sound.parent_home wMember vMember isChild, vNames]

/-- Two committed writes of one artifact never name the same parent. -/
theorem writers_parents
    (run : Run (WriterStep settings) (writersStart settings draw calls) events config) {i j : ι}
    (distinct : i ≠ j) {first second : WriteRequest F} {firstId secondId : String}
    (wroteFirst : (config.threads i).wrote = some (first, firstId))
    (wroteSecond : (config.threads j).wrote = some (second, secondId))
    (sameArtifact : first.artifactId = second.artifactId) :
    first.parentVersionId ≠ second.parentVersionId := by
  intro sameParent
  have sound := (writers_sound run).versions
  obtain ⟨v, vMember, vId, _, vArtifact, vParent, _⟩ := (writers_know run i).wrote wroteFirst
  obtain ⟨w, wMember, wId, _, wArtifact, wParent, _⟩ := (writers_know run j).wrote wroteSecond
  obtain ⟨artifact, member, belongs⟩ := sound.versionHome v vMember
  have vNames := (ofArtifact_iff.mp belongs).1
  have same : v = w := by
    apply (sound.linear member).unshared v vMember w wMember vNames
    · rw [wArtifact, ← sameArtifact, ← vArtifact, vNames]
    · rw [vParent, wParent, sameParent]
  apply writers_distinct run distinct wroteFirst wroteSecond
  rw [← vId, ← wId, same]

/-- Whatever the order of the calls' steps, every artifact has one linear history,
of the writes that name one parent at most one commits, and a call that raised
changed nothing. -/
theorem version_history_is_linear
    (run : Run (WriterStep settings) (writersStart settings draw calls) events config) :
    (∀ artifact ∈ config.shared.db.artifacts, LinearHistory config.shared.db artifact) ∧
      (∀ i j, i ≠ j → ∀ first second firstId secondId,
        (config.threads i).wrote = some (first, firstId) →
        (config.threads j).wrote = some (second, secondId) →
        first.artifactId = second.artifactId →
        first.parentVersionId ≠ second.parentVersionId) ∧
      ∀ i failure, config.threads i = .raised failure →
        ∀ e ∈ events, e.thread = i → e.after.db = e.before.db := by
  refine ⟨?_, ?_, ?_⟩
  · exact fun artifact member => (writers_sound run).versions.linear member
  · exact fun i j distinct _ _ _ _ one two sameArtifact =>
      writers_parents run distinct one two sameArtifact
  · intro i failure raised e member own
    have unchanged := writers_unchanged run i
    rw [raised] at unchanged
    exact unchanged e (List.mem_filter.mpr ⟨member, decide_eq_true own⟩)

end Calls

def raceCreate : CreateRequest Empty where
  tenantId := "acme"
  name := "notes"
  data := []

def raceWrite : WriteRequest Empty where
  tenantId := "acme"
  artifactId := newId "art" Uuid.nil
  data := []
  mediaType := "text/plain"
  actor := "dev"
  reason := "edit"
  sourceContext := []
  parentVersionId := some (newId "ver" Uuid.nil)

/-- One call creates an artifact, two write a child of its first version. -/
def raceCalls : Fin 3 → WriterCall Empty
  | 0 => .create raceCreate
  | 1 => .write raceWrite
  | 2 => .write raceWrite

theorem version_history_is_linear_race :
    ∃ events config,
      Run (WriterStep Settings.standard) (writersStart Settings.standard InitializeDraw.epoch raceCalls)
        events config ∧
      (config.threads 1).wrote = some (raceWrite, newId "ver" Uuid.one) ∧
      config.threads 2 = .raised (parentMismatch (some (newId "ver" Uuid.one))) ∧
      (∀ artifact ∈ config.shared.db.artifacts, LinearHistory config.shared.db artifact) ∧
      ∀ e ∈ events, e.thread = 2 → e.after.db = e.before.db := by
  have created : Run (WriterStep Settings.standard)
      (writersStart Settings.standard InitializeDraw.epoch raceCalls) _ _ :=
    .next (i := 0) .start (.createTransaction "{}" (CreateDraw.epoch Uuid.nil) rfl)
  have wrote := created.next (i := 1) (.writeTransaction "{}" (VersionDraw.epoch Uuid.one) rfl)
  have lost := wrote.next (i := 2) (.writeTransaction "{}" (VersionDraw.epoch Uuid.nil) rfl)
  have linear := version_history_is_linear lost
  exact ⟨_, _, lost, rfl, rfl, linear.1, linear.2.2 2 _ rfl⟩

end FolioLattice.Store
