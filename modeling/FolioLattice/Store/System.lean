/-
The artifact store as a system: every call is one transaction, and calls that end
early leave what they wrote to files.
-/

import FolioLattice.Concurrency.Transition
import FolioLattice.Store.Chain
import FolioLattice.Store.Grants

namespace FolioLattice.Store

open FolioLattice.Text FolioLattice.Data FolioLattice.Relational FolioLattice.Concurrency
open FolioLattice.Effects (except_map_ok)

variable {F : Type} [FloatFormat F]

inductive Call (F : Type) where
  | create (draw : CreateDraw) (request : CreateRequest F)
  | write (draw : VersionDraw) (request : WriteRequest F)
  | link (draw : EdgeDraw) (request : LinkRequest F)
  | share (draw : GrantDraw) (request : ShareRequest)
  | revoke (now : Timestamp) (request : RevokeRequest)
  /-- `initialize`, which every start of a service runs -/
  | restart (draw : InitializeDraw)

inductive Reply where
  | created (artifactId versionId : String)
  | written (versionId : String)
  | linked (edge : EdgeRow)
  | shared (grant : GrantRow)
  | revoked (grant : GrantRow)
  | initialized

/-- What a transaction yields, as the reply of its call. -/
def reply {α : Type} (make : α → Reply) (body : Files × Except Failure (Database × α)) :
    Files × Except Failure (Database × Reply) :=
  (body.1, body.2.map (fun done => (done.1, make done.2)))

/-- A call after its checks, or the error of the check that fails. -/
def checked {α β : Type} (files : Files) (check : Except Failure α)
    (body : α → Files × Except Failure β) : Files × Except Failure β :=
  match check with
  | .error e => (files, .error e)
  | .ok value => body value

def Call.body (settings : Settings) (disk : Disk) :
    Call F → Files × Except Failure (Database × Reply)
  | .create draw request =>
      checked disk.files (request.validate settings) (fun context =>
        reply (fun ids => .created ids.1 ids.2) (createBody settings draw request context disk))
  | .write draw request =>
      checked disk.files (request.validate settings) (fun context =>
        reply .written (writeBody settings draw request context disk))
  | .link draw request =>
      checked disk.files request.validate (fun metadata =>
        reply .linked (disk.files, linkBody draw request metadata disk.db))
  | .share draw request => reply .shared (disk.files, shareArtifact draw request disk.db)
  | .revoke now request => reply .revoked (disk.files, revokeShare now request disk.db)
  | .restart draw =>
      (disk.files, (initializeStore F settings draw disk.db).map (fun db => (db, .initialized)))

def perform (settings : Settings) (call : Call F) (disk : Disk) : Disk × Except Failure Reply :=
  commit disk (call.body settings disk)

inductive Occurrence (F : Type) where
  /-- a call that ran to its end -/
  | finished (call : Call F) (result : Except Failure Reply)
  /-- a call that was storing `data` and ended early -/
  | interrupted (data : Bytes)
  /-- the identity service wrote to its own table -/
  | memberships

inductive StoreStep (settings : Settings) : Transition Disk (Occurrence F) where
  | call (disk : Disk) (call : Call F) :
      StoreStep settings disk (.finished call (perform settings call disk).2)
        (perform settings call disk).1
  | interrupted (disk : Disk) (data : Bytes) (files : Files)
      (left : BlobInterrupted disk.files data (settings.sha256 data).hex files) :
      StoreStep settings disk (.interrupted data) ⟨disk.db, files⟩
  | memberships (disk : Disk) (members : Option (List MembershipRow)) :
      StoreStep settings disk .memberships
        ⟨{ disk.db with oidcMemberships := members }, disk.files⟩

/-- A new database beside an empty blob directory. -/
def freshDisk (settings : Settings) (draw : InitializeDraw) : Disk :=
  ⟨freshDatabase settings draw, fun _ => none⟩

abbrev StoreTrace (settings : Settings) (draw : InitializeDraw) :
    List (Disk × Occurrence F) → Disk → Prop :=
  Trace (StoreStep settings) (freshDisk settings draw)

/-- The states that some trace reaches. -/
def Reachable (F : Type) [FloatFormat F] (settings : Settings) (disk : Disk) : Prop :=
  ∃ (draw : InitializeDraw) (past : List (Disk × Occurrence F)), StoreTrace settings draw past disk

/-! ### Runs of calls -/

/-- The state after the calls, one by one. -/
def performAll (settings : Settings) : List (Call F) → Disk → Disk
  | [], disk => disk
  | call :: rest, disk => performAll settings rest (perform settings call disk).1

def moments (settings : Settings) : List (Call F) → Disk → List (Disk × Occurrence F)
  | [], _ => []
  | call :: rest, disk =>
      (disk, .finished call (perform settings call disk).2) ::
        moments settings rest (perform settings call disk).1

theorem performAll_trace {settings : Settings} {start disk : Disk}
    {past : List (Disk × Occurrence F)} (trace : Trace (StoreStep settings) start past disk)
    (calls : List (Call F)) :
    Trace (StoreStep settings) start (past ++ moments settings calls disk)
      (performAll settings calls disk) := by
  induction calls generalizing past disk with
  | nil =>
      rw [moments, performAll, List.append_nil]
      exact trace
  | cons call rest ih =>
      have more := ih (trace.next (.call disk call))
      rw [List.append_assoc] at more
      exact more

/-! ### What a call does -/

/-- The change that a call commits, with all that its checks let through. -/
inductive Effect (settings : Settings) (db : Database) : Call F → Reply → Database → Prop where
  | created {draw : CreateDraw} {request : CreateRequest F} {context : String}
      {tenants : List TenantRow} (valid : request.validate settings = .ok context)
      (tenantValid : ValidText request.tenantId maxNameLength)
      (fresh : ∀ old ∈ db.artifacts, old.id ≠ newId "art" draw.artifactId)
      (freshVersion : ∀ old ∈ db.versions, old.id ≠ newId "ver" draw.version.versionId)
      (grantsApart : Apart GrantRow.clashes (db.aclGrants ++ request.ownerGrants draw))
      (chunksApart : Apart ChunkRow.clashes (db.chunks ++
        (request.firstVersion settings draw context).chunkRows draw.version)) :
      Effect settings db (.create draw request)
        (.created (newId "art" draw.artifactId) (newId "ver" draw.version.versionId))
        ((db.addArtifact tenants (request.artifactRow settings draw)
            (request.ownerGrants draw)).addVersion
          ((request.firstVersion settings draw context).row settings draw.version)
          ((request.firstVersion settings draw context).chunkRows draw.version))
  | written {draw : VersionDraw} {request : WriteRequest F} {context : String}
      {artifact : ArtifactRow} (valid : request.validate settings = .ok context)
      (authorized :
        authorize db request.tenantId request.artifactId request.requestActor .write = .ok ())
      (found : db.findArtifact request.tenantId request.artifactId = some artifact)
      (isChild : request.parentVersionId = artifact.currentVersionId)
      (freshVersion : ∀ old ∈ db.versions, old.id ≠ newId "ver" draw.versionId)
      (chunksApart : Apart ChunkRow.clashes (db.chunks ++ (request.input context).chunkRows draw)) :
      Effect settings db (.write draw request) (.written (newId "ver" draw.versionId))
        (db.addVersion ((request.input context).row settings draw)
          ((request.input context).chunkRows draw))
  | linkedAgain {draw : EdgeDraw} {request : LinkRequest F} {edge : EdgeRow}
      (present : edge ∈ db.edges) : Effect settings db (.link draw request) (.linked edge) db
  | linked {draw : EdgeDraw} {request : LinkRequest F} {metadata : String}
      (valid : request.validate = .ok metadata)
      (source : linkEnd db request.tenantId request.sourceArtifactId request.actor = .ok ())
      (target : linkEnd db request.tenantId request.targetArtifactId request.actor = .ok ())
      (fresh : ∀ old ∈ db.edges, EdgeRow.clashes (request.edgeRow metadata draw) old = false) :
      Effect settings db (.link draw request) (.linked (request.edgeRow metadata draw))
        { db with edges := db.edges ++ [request.edgeRow metadata draw] }
  | sharedAgain {draw : GrantDraw} {request : ShareRequest} {action : Action} {grant : GrantRow}
      (parsed : Action.parse request.action = some action) (present : grant ∈ db.aclGrants)
      (active : grant.isActiveFor request.tenantId request.artifactId request.subjectActorId
        action = true) :
      Effect settings db (.share draw request) (.shared grant) db
  | shared {draw : GrantDraw} {request : ShareRequest} {action : Action}
      (parsed : Action.parse request.action = some action)
      (subject : ValidText request.subjectActorId maxNameLength)
      (authorized : authorize db request.tenantId request.artifactId
        (request.authorizationActor.resolve request.actor) .share = .ok ())
      (fresh : ∀ old ∈ db.aclGrants, GrantRow.clashes (request.grantRow action draw) old = false) :
      Effect settings db (.share draw request) (.shared (request.grantRow action draw))
        { db with aclGrants := db.aclGrants ++ [request.grantRow action draw] }
  | revokedAgain {now : Timestamp} {request : RevokeRequest} {grant : GrantRow}
      (present : grant ∈ db.aclGrants) (named : grant.id = request.grantId)
      (inactive : grant.status = .revoked) :
      Effect settings db (.revoke now request) (.revoked grant) db
  | revoked {now : Timestamp} {request : RevokeRequest} {grant : GrantRow}
      (present : grant ∈ db.aclGrants) (named : grant.id = request.grantId)
      (active : grant.status = .active)
      (notOwner : grant.id ≠ ownerGrantId grant.artifactId grant.action) :
      Effect settings db (.revoke now request) (.revoked (grant.revoke request now))
        { db with aclGrants := revokeIn request now db.aclGrants }
  | initialized {draw : InitializeDraw} {db' : Database} (same : SameContent db db')
      (layout : db'.layout = Layout.complete) :
      Effect settings db (.restart draw) .initialized db'

theorem checked_ok {α β : Type} {files : Files} {check : Except Failure α}
    {body : α → Files × Except Failure β} {result : β}
    (done : (checked files check body).2 = .ok result) :
    ∃ value, check = .ok value ∧ (body value).2 = .ok result := by
  cases check with
  | error e => cases done
  | ok value => exact ⟨value, rfl, done⟩

theorem reply_ok {α : Type} {make : α → Reply} {body : Files × Except Failure (Database × α)}
    {db' : Database} {answer : Reply} (done : (reply make body).2 = .ok (db', answer)) :
    ∃ value, body.2 = .ok (db', value) ∧ answer = make value := by
  obtain ⟨pair, committed, same⟩ := except_map_ok done
  obtain ⟨sameDb, sameAnswer⟩ := Prod.mk.inj same
  exact ⟨pair.2, by rw [committed, ← sameDb], sameAnswer.symm⟩

/-- What the effects of calls depend on. -/
structure Ready (db : Database) : Prop where
  grantsApart : Apart GrantRow.clashes db.aclGrants
  chunksApart : Apart ChunkRow.clashes db.chunks
  substringIndexed : db.chunkSubstringFts = db.chunks.map ChunkRow.fts
  owners : OwnersGranted db
  layout : db.layout = Layout.complete

theorem Call.effect {settings : Settings} {disk : Disk} {call : Call F} {db' : Database}
    {answer : Reply} (ready : Ready disk.db)
    (done : (call.body settings disk).2 = .ok (db', answer)) :
    Effect settings disk.db call answer db' := by
  cases call with
  | create draw request =>
      obtain ⟨context, valid, done⟩ := checked_ok done
      obtain ⟨ids, committed, same⟩ := reply_ok done
      obtain ⟨sameIds, tenantValid, fresh, freshVersion, grantsApart, chunksApart, tenants, result⟩ :=
        createBody_ok committed ready.grantsApart ready.chunksApart
      subst same sameIds result
      exact .created valid tenantValid fresh freshVersion grantsApart chunksApart
  | write draw request =>
      obtain ⟨context, valid, done⟩ := checked_ok done
      obtain ⟨versionId, committed, same⟩ := reply_ok done
      obtain ⟨sameId, authorized, freshVersion, chunksApart, result, artifact, found, isChild⟩ :=
        writeBody_ok committed ready.chunksApart
      subst same sameId result
      exact .written valid authorized found isChild freshVersion chunksApart
  | link draw request =>
      obtain ⟨metadata, valid, done⟩ := checked_ok done
      obtain ⟨edge, committed, same⟩ := reply_ok done
      obtain ⟨source, target, ⟨result, present⟩ | ⟨isNew, result, fresh⟩⟩ := linkBody_ok committed
      · subst same result
        exact .linkedAgain present
      · subst same result isNew
        exact .linked valid source target fresh
  | share draw request =>
      obtain ⟨grant, committed, same⟩ := reply_ok done
      obtain ⟨action, parsed, subject, authorized, active, ⟨result, present⟩ | ⟨isNew, result, fresh⟩⟩ :=
        shareArtifact_ok committed
      · subst same result
        exact .sharedAgain parsed present active
      · subst same result isNew
        exact .shared parsed subject authorized fresh
  | revoke now request =>
      obtain ⟨row, committed, same⟩ := reply_ok done
      obtain ⟨grant, present, named, _, sameArtifact, notOwner, revoked | again⟩ :=
        revokeShare_ok committed
      · obtain ⟨active, sameRow, result⟩ := revoked
        subst same sameRow result
        rw [← sameArtifact] at notOwner
        exact .revoked present named active notOwner
      · obtain ⟨inactive, sameRow, result⟩ := again
        subst same sameRow result
        exact .revokedAgain present named inactive
  | restart draw =>
      obtain ⟨db, initialized, same⟩ := except_map_ok done
      obtain ⟨sameDb, sameAnswer⟩ := Prod.mk.inj same
      subst sameDb sameAnswer
      obtain ⟨content, layout⟩ := initializeStore_ok initialized ready.layout ready.substringIndexed
        ready.owners
      exact .initialized content layout

/-! ### Sound stores -/

structure EdgesSound (db : Database) : Prop where
  apart : Apart EdgeRow.clashes db.edges
  sources : ∀ edge ∈ db.edges, ∃ artifact ∈ db.artifacts,
    artifact.id = edge.sourceArtifactId ∧ artifact.tenantId = edge.tenantId
  targets : ∀ edge ∈ db.edges, ∃ artifact ∈ db.artifacts,
    artifact.id = edge.targetArtifactId ∧ artifact.tenantId = edge.tenantId

/-- What holds of the tables in every reachable state. -/
structure StoreSound (db : Database) : Prop where
  versions : VersionsSound db
  grants : GrantsSound db
  edges : EdgesSound db
  tenants : ∀ artifact ∈ db.artifacts, ValidText artifact.tenantId maxNameLength
  layout : db.layout = Layout.complete

theorem StoreSound.ready {db : Database} (sound : StoreSound db) : Ready db where
  grantsApart := sound.grants.apart
  chunksApart := sound.versions.chunksApart
  substringIndexed := sound.versions.substringIndexed
  owners := by
    intro artifact member
    obtain ⟨owner, owned, _, granted⟩ := sound.grants.owners artifact member
    refine ⟨owner, owned, ?_⟩
    intro action
    obtain ⟨grant, inside, isOwners, _⟩ := granted action
    exact ⟨grant, inside, isOwners⟩
  layout := sound.layout

theorem StoreSound.fresh (settings : Settings) (draw : InitializeDraw) :
    StoreSound (freshDatabase settings draw) where
  versions := VersionsSound.created.congr rfl rfl rfl rfl rfl
  grants := by constructor <;> simp [freshDatabase, Database.created, KeyedBy, Apart]
  edges := by constructor <;> simp [freshDatabase, Database.created, Apart]
  tenants := by simp [freshDatabase, Database.created]
  layout := rfl

/-- Edges and tenants hang on the artifacts' identities alone. -/
theorem EdgesSound.kept {db db' : Database} (sound : EdgesSound db) (edges : db'.edges = db.edges)
    (kept : ArtifactsKept db db') : EdgesSound db' where
  apart := by rw [edges]; exact sound.apart
  sources := by
    rw [edges]
    intro edge member
    obtain ⟨artifact, inside, sameId, sameTenant⟩ := sound.sources edge member
    obtain ⟨artifact', inside', same⟩ := kept artifact inside
    obtain ⟨id, rest⟩ := Prod.mk.inj same
    exact ⟨artifact', inside', id.trans sameId, (Prod.mk.inj rest).1.trans sameTenant⟩
  targets := by
    rw [edges]
    intro edge member
    obtain ⟨artifact, inside, sameId, sameTenant⟩ := sound.targets edge member
    obtain ⟨artifact', inside', same⟩ := kept artifact inside
    obtain ⟨id, rest⟩ := Prod.mk.inj same
    exact ⟨artifact', inside', id.trans sameId, (Prod.mk.inj rest).1.trans sameTenant⟩

theorem SameOwners.tenants {db db' : Database} (same : SameOwners db db')
    (valid : ∀ artifact ∈ db.artifacts, ValidText artifact.tenantId maxNameLength) :
    ∀ artifact ∈ db'.artifacts, ValidText artifact.tenantId maxNameLength := by
  intro artifact' inside'
  obtain ⟨artifact, inside, identity⟩ := same.symm.kept artifact' inside'
  obtain ⟨_, rest⟩ := Prod.mk.inj identity
  rw [← (Prod.mk.inj rest).1]
  exact valid artifact inside

theorem ArtifactsKept.addArtifact (db : Database) (tenants : List TenantRow)
    (artifact : ArtifactRow) (grants : List GrantRow) :
    ArtifactsKept db (db.addArtifact tenants artifact grants) :=
  fun old member => ⟨old, List.mem_append_left _ member, rfl⟩

theorem StoreSound.create {settings : Settings} {db : Database} (sound : StoreSound db)
    {draw : CreateDraw} {request : CreateRequest F} {context : String} {tenants : List TenantRow}
    (valid : request.validate settings = .ok context)
    (tenantValid : ValidText request.tenantId maxNameLength)
    (fresh : ∀ old ∈ db.artifacts, old.id ≠ newId "art" draw.artifactId)
    (freshVersion : ∀ old ∈ db.versions, old.id ≠ newId "ver" draw.version.versionId)
    (grantsApart : Apart GrantRow.clashes (db.aclGrants ++ request.ownerGrants draw))
    (chunksApart : Apart ChunkRow.clashes (db.chunks ++
      (request.firstVersion settings draw context).chunkRows draw.version)) :
    StoreSound ((db.addArtifact tenants (request.artifactRow settings draw)
        (request.ownerGrants draw)).addVersion
      ((request.firstVersion settings draw context).row settings draw.version)
      ((request.firstVersion settings draw context).chunkRows draw.version)) where
  versions := sound.versions.newArtifact tenants fresh freshVersion chunksApart
  grants := by
    obtain ⟨_, inputValid⟩ := CreateRequest.validate_ok valid
    obtain ⟨_, _, actorValid, _⟩ := validateVersionInput_ok inputValid
    exact (sound.grants.addArtifact tenants actorValid fresh grantsApart).congr
      (SameOwners.addVersion _ _ _) rfl
  edges := sound.edges.kept rfl
    ((ArtifactsKept.addArtifact db tenants _ _).trans (SameOwners.addVersion _ _ _).kept)
  tenants := by
    apply (SameOwners.addVersion _ _ _).tenants
    intro artifact member
    rcases List.mem_append.mp member with old | new
    · exact sound.tenants artifact old
    · rw [List.mem_singleton.mp new]
      exact tenantValid
  layout := sound.layout

/-- A change that leaves artifacts, versions and chunks alone. -/
theorem StoreSound.congr {db db' : Database} (sound : StoreSound db)
    (artifacts : db'.artifacts = db.artifacts) (versions : db'.versions = db.versions)
    (chunks : db'.chunks = db.chunks) (fts : db'.chunkFts = db.chunkFts)
    (substrings : db'.chunkSubstringFts = db.chunkSubstringFts) (grants : GrantsSound db')
    (edges : EdgesSound db') (layout : db'.layout = db.layout) : StoreSound db' where
  versions := sound.versions.congr artifacts versions chunks fts substrings
  grants := grants
  edges := edges
  tenants := by rw [artifacts]; exact sound.tenants
  layout := layout.trans sound.layout

theorem StoreSound.effect {settings : Settings} {db db' : Database} {call : Call F}
    {answer : Reply} (sound : StoreSound db) (effect : Effect settings db call answer db') :
    StoreSound db' := by
  cases effect with
  | created valid tenantValid fresh freshVersion grantsApart chunksApart =>
      exact sound.create valid tenantValid fresh freshVersion grantsApart chunksApart
  | written _ _ found isChild freshVersion chunksApart =>
      exact {
        versions := sound.versions.newVersion found isChild freshVersion chunksApart
        grants := sound.grants.congr (SameOwners.addVersion _ _ _) rfl
        edges := sound.edges.kept rfl (SameOwners.addVersion _ _ _).kept
        tenants := (SameOwners.addVersion _ _ _).tenants sound.tenants
        layout := sound.layout }
  | linkedAgain _ => exact sound
  | @linked draw request metadata _ source target fresh =>
      refine sound.congr rfl rfl rfl rfl rfl (sound.grants.congr rfl rfl) ?_ rfl
      constructor
      · exact sound.edges.apart.append fresh
      · intro edge member
        rcases List.mem_append.mp member with old | new
        · exact sound.edges.sources edge old
        · rw [List.mem_singleton.mp new]
          exact linkEnd_ok source
      · intro edge member
        rcases List.mem_append.mp member with old | new
        · exact sound.edges.targets edge old
        · rw [List.mem_singleton.mp new]
          exact linkEnd_ok target
  | sharedAgain _ _ _ => exact sound
  | shared _ subject authorized fresh =>
      refine sound.congr rfl rfl rfl rfl rfl ?_ (sound.edges.kept rfl (ArtifactsKept.refl db)) rfl
      obtain ⟨artifact, found, _⟩ := authorize_ok_iff.mp authorized
      exact sound.grants.share fresh ⟨artifact, findArtifact_some found⟩ subject
  | revokedAgain _ _ _ => exact sound
  | @revoked now request grant present named _ notOwner =>
      refine sound.congr rfl rfl rfl rfl rfl ?_ (sound.edges.kept rfl (ArtifactsKept.refl db)) rfl
      apply sound.grants.revoke
      intro artifact member action isOwners
      -- the grant of that id is the owner's, which is not to be revoked
      obtain ⟨owner, _, _, granted⟩ := sound.grants.owners artifact member
      obtain ⟨ownGrant, inside, sameId, active⟩ := granted action
      have same : grant = ownGrant :=
        sound.grants.grantIds.eq present inside (named.trans (isOwners.trans sameId.symm))
      obtain ⟨_, sameArtifact, _, sameAction, _⟩ := GrantRow.isActiveFor_iff.mp active
      rw [same, sameArtifact, sameAction] at notOwner
      exact notOwner sameId
  | initialized same layout =>
      have grants : GrantsSound _ :=
        sound.grants.congr (congrArg (List.map ArtifactRow.identity) same.artifacts) same.aclGrants
      have sameOwners : SameOwners db db' :=
        congrArg (List.map ArtifactRow.identity) same.artifacts
      exact sound.congr same.artifacts same.versions same.chunks same.chunkFts
        same.chunkSubstringFts grants (sound.edges.kept same.edges sameOwners.kept)
        (layout.trans sound.layout.symm)

/-- What a step leaves of the tables: the effect of a call, or what was there. -/
theorem storeStep_cases {settings : Settings} {disk disk' : Disk} {occurrence : Occurrence F}
    (sound : StoreSound disk.db) (step : StoreStep settings disk occurrence disk') :
    (∃ call answer, occurrence = .finished call (.ok answer) ∧
        Effect settings disk.db call answer disk'.db) ∨
      ((∀ call answer, occurrence ≠ .finished call (.ok answer)) ∧
        ∃ members, disk'.db = { disk.db with oidcMemberships := members }) := by
  cases step with
  | call _ call =>
      rcases commit_cases disk (call.body settings disk) with
        ⟨db, answer, done, committed⟩ | ⟨e, _, failed⟩
      · left
        have result : perform settings call disk = (⟨db, (call.body settings disk).1⟩, .ok answer) :=
          committed
        rw [result]
        exact ⟨call, answer, rfl, Call.effect sound.ready done⟩
      · right
        have result : perform settings call disk =
            (⟨disk.db, (call.body settings disk).1⟩, .error e) := failed
        rw [result]
        exact ⟨(fun _ _ same => by cases same), disk.db.oidcMemberships, rfl⟩
  | interrupted _ _ files left =>
      right
      exact ⟨(fun _ _ same => by cases same), disk.db.oidcMemberships, rfl⟩
  | memberships _ members =>
      right
      exact ⟨(fun _ _ same => by cases same), members, rfl⟩

theorem StoreSound.step {settings : Settings} {disk disk' : Disk} {occurrence : Occurrence F}
    (sound : StoreSound disk.db) (step : StoreStep settings disk occurrence disk') :
    StoreSound disk'.db := by
  rcases storeStep_cases sound step with ⟨call, answer, _, effect⟩ | ⟨_, members, same⟩
  · exact sound.effect effect
  · rw [same]
    exact sound.congr rfl rfl rfl rfl rfl (sound.grants.congr rfl rfl)
      (sound.edges.kept rfl (ArtifactsKept.refl disk.db)) rfl

theorem StoreTrace.sound {settings : Settings} {draw : InitializeDraw}
    {past : List (Disk × Occurrence F)} {disk : Disk}
    (trace : StoreTrace settings draw past disk) : StoreSound disk.db :=
  trace.invariant (P := fun disk => StoreSound disk.db) (fun _ _ _ sound step => sound.step step)
    (StoreSound.fresh settings draw)

theorem Reachable.sound {settings : Settings} {disk : Disk} (reachable : Reachable F settings disk) :
    StoreSound disk.db := by
  obtain ⟨draw, past, trace⟩ := reachable
  exact StoreTrace.sound trace

end FolioLattice.Store
