/-
What a call that commits can do to the tables, once for each call.
-/

import FolioLattice.Effects.Fallible
import FolioLattice.Store.Graph
import FolioLattice.Store.Initialize
import FolioLattice.Store.Sharing

namespace FolioLattice.Store

open FolioLattice.Text FolioLattice.Data FolioLattice.Relational
open FolioLattice.Effects (except_bind_ok except_map_ok except_mapM_fixed)

/-! ### Sequencing -/

theorem commit_cases {α : Type} (disk : Disk) (body : Files × Except Failure (Database × α)) :
    (∃ db value, body.2 = .ok (db, value) ∧ commit disk body = (⟨db, body.1⟩, .ok value)) ∨
      ∃ e, body.2 = .error e ∧ commit disk body = (⟨disk.db, body.1⟩, .error e) := by
  unfold commit
  cases body.2 with
  | ok pair => exact Or.inl ⟨pair.1, pair.2, rfl, rfl⟩
  | error e => exact Or.inr ⟨e, rfl, rfl⟩

/-! ### Lookups -/

theorem findArtifact_some {db : Database} {tenantId artifactId : String} {artifact : ArtifactRow}
    (found : db.findArtifact tenantId artifactId = some artifact) :
    artifact ∈ db.artifacts ∧ artifact.id = artifactId ∧ artifact.tenantId = tenantId := by
  unfold Database.findArtifact at found
  have holds := List.find?_some found
  rw [Bool.and_eq_true, decide_eq_true_eq, decide_eq_true_eq] at holds
  exact ⟨List.mem_of_find?_eq_some found, holds⟩

theorem findArtifact_of_mem {db : Database} (keyed : KeyedBy (·.id) db.artifacts)
    {artifact : ArtifactRow} (member : artifact ∈ db.artifacts) :
    db.findArtifact artifact.tenantId artifact.id = some artifact := by
  apply keyed.find? member
  · rw [Bool.and_eq_true, decide_eq_true_eq, decide_eq_true_eq]
    exact ⟨rfl, rfl⟩
  · intro other holds
    rw [Bool.and_eq_true, decide_eq_true_eq, decide_eq_true_eq] at holds
    exact holds.1

/-! ### Authorization -/

theorem authorize_ok_iff {db : Database} {tenantId artifactId : String} {actor : Option String}
    {action : Action} :
    authorize db tenantId artifactId actor action = .ok () ↔
      ∃ artifact, db.findArtifact tenantId artifactId = some artifact ∧
        ∀ x, actor = some x → ValidText x maxNameLength ∧ db.permits artifact x action = true := by
  unfold authorize
  cases found : db.findArtifact tenantId artifactId with
  | none => simp
  | some artifact =>
      obtain ⟨_, sameId, sameTenant⟩ := findArtifact_some found
      cases actor with
      | none => simp
      | some actor =>
          simp only [Option.some.injEq, forall_eq', exists_eq_left']
          cases checked : validateText "actor" actor maxNameLength with
          | error e =>
              have invalid : ¬ValidText actor maxNameLength := by
                intro valid
                rw [validateText_of_valid valid] at checked
                cases checked
              constructor
              · intro done
                obtain ⟨_, impossible, _⟩ := except_bind_ok done
                cases impossible
              · intro both
                exact absurd both.1 invalid
          | ok _ =>
              have valid := validateText_ok_iff.mp checked
              simp only [valid, true_and, Database.permits, sameId, sameTenant, Bool.or_eq_true,
                decide_eq_true_eq]
              change (if artifact.ownerActorId = some actor then _ else _) = _ ↔ _
              split
              · rename_i owner
                simp [owner]
              · rename_i other
                simp only [other, false_or]
                split
                · rename_i granted
                  simp [granted]
                · rename_i refused
                  simp [refused]

theorem getArtifact_of_authorized {db : Database} {tenantId artifactId : String}
    {actor : Option String} {action : Action}
    (authorized : authorize db tenantId artifactId actor action = .ok ()) :
    ∃ view, getArtifact db tenantId artifactId actor action = .ok view ∧ view.id = artifactId := by
  obtain ⟨artifact, found, _⟩ := authorize_ok_iff.mp authorized
  refine ⟨artifact.view, ?_, (findArtifact_some found).2.1⟩
  unfold getArtifact
  rw [found, authorized]
  rfl

/-! ### Checked requests -/

section Checks

variable {F : Type} [FloatFormat F]

theorem validateVersionInput_ok {settings : Settings} {data : Bytes}
    {mediaType actor reason json' : String} {context : List (PyStr × Json F)}
    (valid : validateVersionInput settings data mediaType actor reason context = .ok json') :
    data.length ≤ settings.maxArtifactBytes ∧ ValidText mediaType maxMediaTypeLength ∧
      ValidText actor maxNameLength ∧ ValidText reason maxReasonLength ∧
      json (.obj context) "source_context" = .ok json' := by
  unfold validateVersionInput at valid
  split at valid
  · cases valid
  · rename_i small
    obtain ⟨_, mediaValid, valid⟩ := except_bind_ok valid
    obtain ⟨_, actorValid, valid⟩ := except_bind_ok valid
    obtain ⟨_, reasonValid, valid⟩ := except_bind_ok valid
    exact ⟨by omega, validateText_ok_iff.mp mediaValid, validateText_ok_iff.mp actorValid,
      validateText_ok_iff.mp reasonValid, valid⟩

theorem CreateRequest.validate_ok {settings : Settings} {request : CreateRequest F}
    {json' : String} (valid : request.validate settings = .ok json') :
    ValidText request.name maxNameLength ∧
      validateVersionInput settings request.data
        (resolveType settings request.mediaType request.name) request.actor request.reason
        request.sourceContext = .ok json' := by
  unfold CreateRequest.validate at valid
  obtain ⟨_, nameValid, valid⟩ := except_bind_ok valid
  exact ⟨validateText_ok_iff.mp nameValid, valid⟩

end Checks

/-! ### A new version -/

theorem insertChunks_ok {chunks : List ChunkRow} {db db' : Database}
    (inserted : insertChunks chunks db = .ok db') (apart : Apart ChunkRow.clashes db.chunks) :
    Apart ChunkRow.clashes (db.chunks ++ chunks) ∧
      db' = { db with
        chunks := db.chunks ++ chunks
        chunkFts := db.chunkFts ++ chunks.map ChunkRow.fts
        chunkSubstringFts := db.chunkSubstringFts ++ chunks.map ChunkRow.fts } := by
  induction chunks generalizing db with
  | nil =>
      rw [insertChunks] at inserted
      cases inserted
      simp only [List.append_nil, List.map_nil, and_true]
      exact apart
  | cons chunk rest ih =>
      rw [insertChunks] at inserted
      obtain ⟨rows, one, more⟩ := except_bind_ok inserted
      obtain ⟨appended, fresh⟩ := insertUnique_ok one
      subst appended
      obtain ⟨stillApart, result⟩ := ih more (apart.append fresh)
      simp only [List.append_assoc, List.singleton_append] at stillApart result
      simp only [List.map_cons]
      exact ⟨stillApart, result⟩

/-- The rows a version adds and the pointer it moves. -/
def Database.addVersion (db : Database) (row : VersionRow) (chunks : List ChunkRow) : Database :=
  Database.pointTo
    { db with
      versions := db.versions ++ [row]
      chunks := db.chunks ++ chunks
      chunkFts := db.chunkFts ++ chunks.map ChunkRow.fts
      chunkSubstringFts := db.chunkSubstringFts ++ chunks.map ChunkRow.fts }
    row.tenantId row.artifactId row.id row.mediaType

def sameVersionId (new old : VersionRow) : Bool := new.id = old.id

theorem insertVersionRows_ok {settings : Settings} {draw : VersionDraw} {input : VersionInput}
    {db db' : Database} (inserted : insertVersionRows settings draw input db = .ok db')
    (apart : Apart ChunkRow.clashes db.chunks) :
    db' = db.addVersion (input.row settings draw) (input.chunkRows draw) ∧
      (∀ old ∈ db.versions, old.id ≠ (input.row settings draw).id) ∧
      Apart ChunkRow.clashes (db.chunks ++ input.chunkRows draw) := by
  unfold insertVersionRows at inserted
  obtain ⟨rows, one, more⟩ := except_bind_ok inserted
  obtain ⟨appended, fresh⟩ := insertUnique_ok one
  subst appended
  obtain ⟨mid, chunked, pointed⟩ := except_bind_ok more
  obtain ⟨stillApart, result⟩ := insertChunks_ok chunked apart
  subst result
  refine ⟨(Except.ok.inj pointed).symm, ?_, stillApart⟩
  intro old member same
  have noClash := fresh old member
  rw [decide_eq_false_iff_not] at noClash
  exact noClash same.symm

theorem insertVersion_ok {settings : Settings} {draw : VersionDraw} {input : VersionInput}
    {db db' : Database} {files : Files} {versionId : String}
    (inserted : (insertVersion settings draw input db files).2 = .ok (db', versionId)) :
    versionId = newId "ver" draw.versionId ∧
      insertVersionRows settings draw input db = .ok db' ∧
      ∃ artifact, db.findArtifact input.tenantId input.artifactId = some artifact ∧
        input.parentVersionId = artifact.currentVersionId := by
  unfold insertVersion at inserted
  cases found : db.findArtifact input.tenantId input.artifactId with
  | none =>
      rw [found] at inserted
      cases inserted
  | some artifact =>
      rw [found] at inserted
      simp only at inserted
      split at inserted
      · cases inserted
      · rename_i matching
        rw [not_not] at matching
        obtain ⟨rows, one, pair⟩ := except_map_ok inserted
        obtain ⟨sameDb, sameId⟩ := Prod.mk.inj pair
        subst sameDb
        exact ⟨sameId.symm, one, artifact, rfl, matching⟩

/-- Files change only once the version is known to be a child of the current one. -/
theorem insertVersion_files (settings : Settings) (draw : VersionDraw) (input : VersionInput)
    (db : Database) (files : Files) :
    (insertVersion settings draw input db files).1 = files ∨
      (insertVersion settings draw input db files).1 =
        storeBlob files input.data (settings.sha256 input.data).hex draw.temporary := by
  unfold insertVersion
  split
  · exact Or.inl rfl
  · split
    · exact Or.inl rfl
    · exact Or.inr rfl

/-! ### A new artifact -/

theorem ensureTenant_ok {db db' : Database} {tenantId : String} {now : Timestamp}
    (ensured : ensureTenant db tenantId now = .ok db') :
    ValidText tenantId maxNameLength ∧
      ∃ tenants, db' = { db with tenants := tenants } := by
  unfold ensureTenant at ensured
  obtain ⟨_, valid, rest⟩ := except_bind_ok ensured
  refine ⟨validateText_ok_iff.mp valid, ?_⟩
  split at rest
  · exact ⟨db.tenants, (Except.ok.inj rest).symm⟩
  · exact ⟨_, (Except.ok.inj rest).symm⟩

theorem insertGrants_ok {grants : List GrantRow} {db db' : Database}
    (inserted : insertGrants grants db = .ok db') (apart : Apart GrantRow.clashes db.aclGrants) :
    Apart GrantRow.clashes (db.aclGrants ++ grants) ∧
      db' = { db with aclGrants := db.aclGrants ++ grants } := by
  induction grants generalizing db with
  | nil =>
      rw [insertGrants] at inserted
      cases inserted
      rw [List.append_nil]
      exact ⟨apart, rfl⟩
  | cons grant rest ih =>
      rw [insertGrants] at inserted
      obtain ⟨rows, one, more⟩ := except_bind_ok inserted
      obtain ⟨appended, fresh⟩ := insertUnique_ok one
      subst appended
      obtain ⟨stillApart, result⟩ := ih more (apart.append fresh)
      simp only [List.append_assoc, List.singleton_append] at stillApart result
      exact ⟨stillApart, result⟩

section Create

variable {F : Type}

def CreateRequest.ownerGrants (request : CreateRequest F) (draw : CreateDraw) : List GrantRow :=
  aclActions.map (fun action =>
    ownerGrant request.tenantId (newId "art" draw.artifactId) request.actor action
      (draw.grantAt action))

/-- The rows of a new artifact; `tenants` has gained its tenant if that was new. -/
def Database.addArtifact (db : Database) (tenants : List TenantRow) (artifact : ArtifactRow)
    (grants : List GrantRow) : Database :=
  { db with
    tenants := tenants
    artifacts := db.artifacts ++ [artifact]
    aclGrants := db.aclGrants ++ grants }

theorem createRows_ok {settings : Settings} {draw : CreateDraw} {request : CreateRequest F}
    {db db' : Database} (created : createRows settings draw request db = .ok db')
    (apart : Apart GrantRow.clashes db.aclGrants) :
    ValidText request.tenantId maxNameLength ∧
      (∀ old ∈ db.artifacts, old.id ≠ newId "art" draw.artifactId) ∧
      Apart GrantRow.clashes (db.aclGrants ++ request.ownerGrants draw) ∧
      ∃ tenants, db' = db.addArtifact tenants (request.artifactRow settings draw)
        (request.ownerGrants draw) := by
  unfold createRows at created
  obtain ⟨mid, ensured, rest⟩ := except_bind_ok created
  obtain ⟨valid, tenants, sameMid⟩ := ensureTenant_ok ensured
  subst sameMid
  obtain ⟨rows, one, more⟩ := except_bind_ok rest
  obtain ⟨appended, fresh⟩ := insertUnique_ok one
  subst appended
  obtain ⟨stillApart, result⟩ := insertGrants_ok more apart
  refine ⟨valid, ?_, stillApart, tenants, result⟩
  intro old member same
  have noClash := fresh old member
  rw [decide_eq_false_iff_not] at noClash
  exact noClash same.symm

/-- A committed `create_artifact`: the artifact, its owner's grants and its first
version. -/
theorem createBody_ok {settings : Settings} {draw : CreateDraw} {request : CreateRequest F}
    {sourceContextJson : String} {disk : Disk} {db' : Database} {ids : String × String}
    (committed : (createBody settings draw request sourceContextJson disk).2 = .ok (db', ids))
    (grantsApart : Apart GrantRow.clashes disk.db.aclGrants)
    (chunksApart : Apart ChunkRow.clashes disk.db.chunks) :
    ids = (newId "art" draw.artifactId, newId "ver" draw.version.versionId) ∧
      ValidText request.tenantId maxNameLength ∧
      (∀ old ∈ disk.db.artifacts, old.id ≠ newId "art" draw.artifactId) ∧
      (∀ old ∈ disk.db.versions, old.id ≠ newId "ver" draw.version.versionId) ∧
      Apart GrantRow.clashes (disk.db.aclGrants ++ request.ownerGrants draw) ∧
      Apart ChunkRow.clashes (disk.db.chunks ++
        (request.firstVersion settings draw sourceContextJson).chunkRows draw.version) ∧
      ∃ tenants, db' = (disk.db.addArtifact tenants (request.artifactRow settings draw)
          (request.ownerGrants draw)).addVersion
        ((request.firstVersion settings draw sourceContextJson).row settings draw.version)
        ((request.firstVersion settings draw sourceContextJson).chunkRows draw.version) := by
  unfold createBody at committed
  split at committed
  · cases committed
  · rename_i mid created
    obtain ⟨valid, fresh, apart, tenants, sameMid⟩ := createRows_ok created grantsApart
    obtain ⟨pair, inserted, result⟩ := except_map_ok committed
    obtain ⟨sameId, rows, _⟩ := insertVersion_ok inserted
    subst sameMid
    obtain ⟨added, freshVersion, stillApart⟩ := insertVersionRows_ok rows chunksApart
    obtain ⟨sameDb, sameIds⟩ := Prod.mk.inj result
    refine ⟨?_, valid, fresh, freshVersion, apart, stillApart, tenants, ?_⟩
    · rw [← sameIds, sameId]
    · rw [← sameDb, added]

/-- A committed `write_version`: the version is a child of the current one. -/
theorem writeBody_ok {settings : Settings} {draw : VersionDraw} {request : WriteRequest F}
    {sourceContextJson : String} {disk : Disk} {db' : Database} {versionId : String}
    (committed : (writeBody settings draw request sourceContextJson disk).2 = .ok (db', versionId))
    (chunksApart : Apart ChunkRow.clashes disk.db.chunks) :
    versionId = newId "ver" draw.versionId ∧
      authorize disk.db request.tenantId request.artifactId request.requestActor .write = .ok () ∧
      (∀ old ∈ disk.db.versions, old.id ≠ newId "ver" draw.versionId) ∧
      Apart ChunkRow.clashes (disk.db.chunks ++
        (request.input sourceContextJson).chunkRows draw) ∧
      db' = disk.db.addVersion ((request.input sourceContextJson).row settings draw)
        ((request.input sourceContextJson).chunkRows draw) ∧
      ∃ artifact, disk.db.findArtifact request.tenantId request.artifactId = some artifact ∧
        request.parentVersionId = artifact.currentVersionId := by
  unfold writeBody at committed
  split at committed
  · cases committed
  · rename_i authorized
    obtain ⟨sameId, rows, found⟩ := insertVersion_ok committed
    obtain ⟨added, fresh, apart⟩ := insertVersionRows_ok rows chunksApart
    exact ⟨sameId, authorized, fresh, apart, added, found⟩

end Create

/-! ### Links, shares and revocations -/

theorem linkBody_ok {F : Type} {draw : EdgeDraw} {request : LinkRequest F} {metadataJson : String}
    {db db' : Database} {row : EdgeRow}
    (linked : linkBody draw request metadataJson db = .ok (db', row)) :
    linkEnd db request.tenantId request.sourceArtifactId request.actor = .ok () ∧
      linkEnd db request.tenantId request.targetArtifactId request.actor = .ok () ∧
      ((db' = db ∧ row ∈ db.edges) ∨
        (row = request.edgeRow metadataJson draw ∧ db' = { db with edges := db.edges ++ [row] } ∧
          ∀ old ∈ db.edges, EdgeRow.clashes row old = false)) := by
  unfold linkBody at linked
  obtain ⟨_, sourceEnd, linked⟩ := except_bind_ok linked
  obtain ⟨_, targetEnd, linked⟩ := except_bind_ok linked
  refine ⟨sourceEnd, targetEnd, ?_⟩
  simp only at linked
  split at linked
  · rename_i existing found
    split at linked
    · cases linked
    · cases linked
      exact Or.inl ⟨rfl, List.mem_of_find?_eq_some found⟩
  · obtain ⟨edges, one, result⟩ := except_bind_ok linked
    obtain ⟨appended, fresh⟩ := insertUnique_ok one
    obtain ⟨sameDb, sameRow⟩ := Prod.mk.inj (Except.ok.inj result)
    subst appended sameDb
    rw [sameRow] at fresh
    refine Or.inr ⟨sameRow.symm, ?_, fresh⟩
    rw [sameRow]

theorem linkEnd_ok {db : Database} {tenantId artifactId : String} {actor : Option String}
    (done : linkEnd db tenantId artifactId actor = .ok ()) :
    ∃ artifact ∈ db.artifacts, artifact.id = artifactId ∧ artifact.tenantId = tenantId := by
  unfold linkEnd at done
  split at done
  · cases done
  · rename_i artifact found
    exact ⟨artifact, findArtifact_some found⟩

theorem shareArtifact_ok {draw : GrantDraw} {request : ShareRequest} {db db' : Database}
    {row : GrantRow} (shared : shareArtifact draw request db = .ok (db', row)) :
    ∃ action, Action.parse request.action = some action ∧
      ValidText request.subjectActorId maxNameLength ∧
      authorize db request.tenantId request.artifactId
        (request.authorizationActor.resolve request.actor) .share = .ok () ∧
      row.isActiveFor request.tenantId request.artifactId request.subjectActorId action = true ∧
      ((db' = db ∧ row ∈ db.aclGrants) ∨
        (row = request.grantRow action draw ∧
          db' = { db with aclGrants := db.aclGrants ++ [row] } ∧
          ∀ old ∈ db.aclGrants, GrantRow.clashes row old = false)) := by
  unfold shareArtifact at shared
  obtain ⟨action, valid, shared⟩ := except_bind_ok shared
  have checked : Action.parse request.action = some action ∧
      ValidText request.subjectActorId maxNameLength := by
    unfold ShareRequest.validate at valid
    obtain ⟨_, subjectValid, valid⟩ := except_bind_ok valid
    obtain ⟨_, _, valid⟩ := except_bind_ok valid
    split at valid
    · cases valid
    · split at valid
      · cases valid
      · rename_i parsed
        cases valid
        exact ⟨parsed, validateText_ok_iff.mp subjectValid⟩
  unfold shareBody at shared
  obtain ⟨_, authorized, shared⟩ := except_bind_ok shared
  refine ⟨action, checked.1, checked.2, authorized, ?_⟩
  split at shared
  · cases shared
  · split at shared
    · rename_i existing found
      cases shared
      have active := List.find?_some found
      exact ⟨active, Or.inl ⟨rfl, List.mem_of_find?_eq_some found⟩⟩
    · obtain ⟨grants, one, result⟩ := except_bind_ok shared
      obtain ⟨appended, fresh⟩ := insertUnique_ok one
      cases result
      subst appended
      refine ⟨?_, Or.inr ⟨rfl, rfl, fresh⟩⟩
      simp [GrantRow.isActiveFor, ShareRequest.grantRow]

theorem revokeShare_ok {now : Timestamp} {request : RevokeRequest} {db db' : Database}
    {row : GrantRow} (revoked : revokeShare now request db = .ok (db', row)) :
    ∃ grant ∈ db.aclGrants, grant.id = request.grantId ∧ grant.tenantId = request.tenantId ∧
      grant.artifactId = request.artifactId ∧
      grant.id ≠ ownerGrantId request.artifactId grant.action ∧
      ((grant.status = .active ∧ row = grant.revoke request now ∧
          db' = { db with
            aclGrants := updateWhere (fun g => g.id = request.grantId && g.status = .active)
              (fun g => g.revoke request now) db.aclGrants }) ∨
        (grant.status = .revoked ∧ row = grant ∧ db' = db)) := by
  unfold revokeShare at revoked
  obtain ⟨_, _, revoked⟩ := except_bind_ok revoked
  unfold revokeBody at revoked
  obtain ⟨_, _, revoked⟩ := except_bind_ok revoked
  split at revoked
  · cases revoked
  · rename_i grant found
    have holds := List.find?_some found
    rw [Bool.and_eq_true, Bool.and_eq_true, decide_eq_true_eq, decide_eq_true_eq,
      decide_eq_true_eq] at holds
    refine ⟨grant, List.mem_of_find?_eq_some found, holds.1.1, holds.1.2, holds.2, ?_⟩
    split at revoked
    · cases revoked
    · rename_i notOwner
      refine ⟨notOwner, ?_⟩
      split at revoked
      · rename_i active
        obtain ⟨sameDb, sameRow⟩ := Prod.mk.inj (Except.ok.inj revoked)
        exact Or.inl ⟨active, sameRow.symm, sameDb.symm⟩
      · rename_i inactive
        obtain ⟨sameDb, sameRow⟩ := Prod.mk.inj (Except.ok.inj revoked)
        cases status : grant.status with
        | active => exact absurd status inactive
        | revoked => exact Or.inr ⟨rfl, sameRow.symm, sameDb.symm⟩

/-! ### Restarts -/

theorem foldl_insertOrIgnore {α : Type} {clash : α → α → Bool} {rows : List α} (new : List α)
    (present : ∀ row ∈ new, ∃ old ∈ rows, clash row old = true) :
    new.foldl (insertOrIgnore clash) rows = rows := by
  induction new with
  | nil => rfl
  | cons row rest ih =>
      have ignored : insertOrIgnore clash rows row = rows := by
        unfold insertOrIgnore
        rw [if_pos]
        exact List.any_eq_true.mpr (present row List.mem_cons_self)
      rw [List.foldl_cons, ignored]
      exact ih (fun other member => present other (List.mem_cons_of_mem _ member))

/-- Every artifact has an owner, and the owner's three grants are there. -/
def OwnersGranted (db : Database) : Prop :=
  ∀ artifact ∈ db.artifacts, ∃ owner, artifact.ownerActorId = some owner ∧
    ∀ action, ∃ grant ∈ db.aclGrants, grant.id = ownerGrantId artifact.id action

/-- The two databases differ in audit events, the ledger and the layout alone. -/
structure SameContent (db db' : Database) : Prop where
  tenants : db'.tenants = db.tenants
  artifacts : db'.artifacts = db.artifacts
  versions : db'.versions = db.versions
  chunks : db'.chunks = db.chunks
  chunkFts : db'.chunkFts = db.chunkFts
  chunkSubstringFts : db'.chunkSubstringFts = db.chunkSubstringFts
  edges : db'.edges = db.edges
  aclGrants : db'.aclGrants = db.aclGrants
  oidcMemberships : db'.oidcMemberships = db.oidcMemberships

/-- A backfill of a complete index adds nothing. -/
theorem backfillSubstrings_complete {db : Database}
    (complete : ∀ chunk ∈ db.chunks, ∃ row ∈ db.chunkSubstringFts, row.chunkId = chunk.id) :
    db.backfillSubstrings = db := by
  have nothing : db.chunks.filter
      (fun c => !db.chunkSubstringFts.any (fun s => s.chunkId = c.id)) = [] := by
    apply List.filter_eq_nil_iff.mpr
    intro chunk member missing
    obtain ⟨row, inside, same⟩ := complete chunk member
    rw [Bool.not_eq_true', List.any_eq_false] at missing
    exact missing row inside (decide_eq_true same)
  unfold Database.backfillSubstrings
  simp only [nothing, List.map_nil, List.append_nil]

theorem migrateOwner_owned {db : Database} {artifact : ArtifactRow}
    (owned : artifact.ownerActorId ≠ none) : db.migrateOwner artifact = .ok artifact := by
  unfold Database.migrateOwner
  split
  · rfl
  · rename_i missing
    exact absurd missing owned

/-- Where every grant of an owner is there, restoring them changes nothing. -/
theorem restoreOwnerGrants_present {db : Database} {now : String → Action → Timestamp}
    (present : ∀ row ∈ db.ownerGrants now, ∃ old ∈ db.aclGrants, GrantRow.clashes row old = true) :
    db.restoreOwnerGrants now = db := by
  unfold Database.restoreOwnerGrants
  rw [foldl_insertOrIgnore _ present]

theorem OwnersGranted.present {db : Database} (owners : OwnersGranted db)
    (now : String → Action → Timestamp) :
    ∀ row ∈ db.ownerGrants now, ∃ old ∈ db.aclGrants, GrantRow.clashes row old = true := by
  intro row member
  obtain ⟨artifact, inside, ofArtifact⟩ := List.mem_flatMap.mp member
  obtain ⟨owner, owned, granted⟩ := owners artifact inside
  rw [owned] at ofArtifact
  obtain ⟨action, _, same⟩ := List.mem_map.mp ofArtifact
  obtain ⟨grant, grantMember, sameId⟩ := granted action
  refine ⟨grant, grantMember, ?_⟩
  unfold GrantRow.clashes
  rw [Bool.or_eq_true]
  left
  rw [← same]
  exact decide_eq_true sameId.symm

theorem ensureMigrationLedger_ok {settings : Settings} {now : Nat → Timestamp} {db db' : Database}
    (ensured : ensureMigrationLedger settings now db = .ok db') :
    SameContent db db' ∧ db'.layout = db.layout ∧ db'.auditEvents = db.auditEvents := by
  unfold ensureMigrationLedger at ensured
  split at ensured
  · cases ensured
  · obtain ⟨rows, _, result⟩ := except_bind_ok ensured
    cases result
    exact ⟨⟨rfl, rfl, rfl, rfl, rfl, rfl, rfl, rfl, rfl⟩, rfl, rfl⟩

theorem upgradeAudit_ok {F : Type} [FloatFormat F] {settings : Settings} {db db' : Database}
    (upgraded : db.upgradeAudit F settings = .ok db') :
    SameContent db db' ∧
      db'.layout = { db.layout with traceId := true, spanId := true } := by
  unfold Database.upgradeAudit at upgraded
  simp only at upgraded
  split at upgraded
  · cases upgraded
    exact ⟨⟨rfl, rfl, rfl, rfl, rfl, rfl, rfl, rfl, rfl⟩, rfl⟩
  · obtain ⟨events, _, result⟩ := except_bind_ok upgraded
    cases result
    exact ⟨⟨rfl, rfl, rfl, rfl, rfl, rfl, rfl, rfl, rfl⟩, rfl⟩

/-- On a database of the present release a restart changes no content. -/
theorem initializeStore_ok {F : Type} [FloatFormat F] {settings : Settings} {draw : InitializeDraw}
    {db db' : Database} (initialized : initializeStore F settings draw db = .ok db')
    (layout : db.layout = Layout.complete)
    (indexed : db.chunkSubstringFts = db.chunks.map ChunkRow.fts) (owners : OwnersGranted db) :
    SameContent db db' ∧ db'.layout = Layout.complete := by
  unfold initializeStore at initialized
  have complete : db.backfillSubstrings = db := by
    apply backfillSubstrings_complete
    intro chunk member
    rw [indexed]
    exact ⟨chunk.fts, List.mem_map_of_mem member, rfl⟩
  simp only [complete] at initialized
  obtain ⟨audited, upgraded, initialized⟩ := except_bind_ok initialized
  obtain ⟨sameAudited, auditLayout⟩ := upgradeAudit_ok upgraded
  obtain ⟨owned, ownersDone, initialized⟩ := except_bind_ok initialized
  have auditedLayout : audited.layout = Layout.complete := by
    rw [auditLayout]
    simp only [layout]
    rfl
  have sameOwned : SameContent audited owned ∧ owned.layout = Layout.complete := by
    unfold Database.upgradeOwners at ownersDone
    simp only [auditedLayout, Layout.complete, if_true, List.map_id'] at ownersDone
    obtain ⟨artifacts, mapped, result⟩ := except_bind_ok ownersDone
    have unchanged : artifacts = audited.artifacts := by
      rw [except_mapM_fixed] at mapped
      · exact (Except.ok.inj mapped).symm
      · intro artifact member
        rw [sameAudited.artifacts] at member
        obtain ⟨owner, isOwned, _⟩ := owners artifact member
        apply migrateOwner_owned
        rw [isOwned]
        exact Option.some_ne_none owner
    cases result
    exact ⟨⟨rfl, unchanged, rfl, rfl, rfl, rfl, rfl, rfl, rfl⟩, rfl⟩
  have ownersStill : OwnersGranted owned := by
    unfold OwnersGranted
    rw [sameOwned.1.artifacts, sameOwned.1.aclGrants, sameAudited.artifacts, sameAudited.aclGrants]
    exact owners
  have current : owned.upgradeCurrentVersions = owned := by
    unfold Database.upgradeCurrentVersions
    rw [sameOwned.2]
    rfl
  rw [current, restoreOwnerGrants_present (ownersStill.present _)] at initialized
  obtain ⟨sameLedger, ledgerLayout, _⟩ := ensureMigrationLedger_ok initialized
  refine ⟨?_, ledgerLayout.trans sameOwned.2⟩
  constructor
  · rw [sameLedger.tenants, sameOwned.1.tenants, sameAudited.tenants]
  · rw [sameLedger.artifacts, sameOwned.1.artifacts, sameAudited.artifacts]
  · rw [sameLedger.versions, sameOwned.1.versions, sameAudited.versions]
  · rw [sameLedger.chunks, sameOwned.1.chunks, sameAudited.chunks]
  · rw [sameLedger.chunkFts, sameOwned.1.chunkFts, sameAudited.chunkFts]
  · rw [sameLedger.chunkSubstringFts, sameOwned.1.chunkSubstringFts,
      sameAudited.chunkSubstringFts]
  · rw [sameLedger.edges, sameOwned.1.edges, sameAudited.edges]
  · rw [sameLedger.aclGrants, sameOwned.1.aclGrants, sameAudited.aclGrants]
  · rw [sameLedger.oidcMemberships, sameOwned.1.oidcMemberships, sameAudited.oidcMemberships]

end FolioLattice.Store
