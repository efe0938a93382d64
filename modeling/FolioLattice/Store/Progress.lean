/-
A call whose checks pass and whose drawn ids are new commits.
-/

import FolioLattice.Store.System

namespace FolioLattice.Store

open FolioLattice.Text FolioLattice.Data FolioLattice.Relational

/-! ### Ids -/

theorem ownerGrantId_action {artifactId : String} {action action' : Action}
    (same : ownerGrantId artifactId action = ownerGrantId artifactId action') : action = action' := by
  unfold ownerGrantId at same
  have names := congrArg String.toList same
  simp only [String.toList_append, List.append_cancel_left_eq] at names
  cases action <;> cases action' <;> first | rfl | exact absurd names (by decide)

theorem ownerGrants_apart (tenantId artifactId owner : String) (grantAt : Action → Timestamp) :
    Apart GrantRow.clashes (aclActions.map (fun action =>
      ownerGrant tenantId artifactId owner action (grantAt action))) := by
  apply List.pairwise_map.mpr
  have distinct : aclActions.Pairwise (fun a b => a ≠ b) := by decide
  refine distinct.imp ?_
  intro old new different
  unfold GrantRow.clashes
  rw [Bool.or_eq_false_iff]
  constructor
  · rw [decide_eq_false_iff_not]
    intro same
    exact different (ownerGrantId_action same).symm
  · simp [ownerGrant, Ne.symm different]

/-! ### Inserts -/

theorem Apart.left {α : Type} {clash : α → α → Bool} {rows more : List α}
    (apart : Apart clash (rows ++ more)) : Apart clash rows :=
  (List.pairwise_append.mp apart).1

theorem Apart.fresh {α : Type} {clash : α → α → Bool} {rows more : List α} {row : α}
    (apart : Apart clash (rows ++ row :: more)) : ∀ old ∈ rows, clash row old = false :=
  fun old member => (List.pairwise_append.mp apart).2.2 old member row List.mem_cons_self

theorem insertGrants_of_apart (grants : List GrantRow) (db : Database)
    (apart : Apart GrantRow.clashes (db.aclGrants ++ grants)) :
    insertGrants grants db = .ok { db with aclGrants := db.aclGrants ++ grants } := by
  induction grants generalizing db with
  | nil => rw [insertGrants, List.append_nil]
  | cons grant rest ih =>
      rw [insertGrants, insertUnique_of_fresh apart.fresh]
      have more := ih { db with aclGrants := db.aclGrants ++ [grant] } (by
        rw [List.append_assoc]
        exact apart)
      simp only [List.append_assoc, List.singleton_append] at more
      exact more

theorem insertChunks_of_apart (chunks : List ChunkRow) (db : Database)
    (apart : Apart ChunkRow.clashes (db.chunks ++ chunks)) :
    insertChunks chunks db = .ok { db with
      chunks := db.chunks ++ chunks
      chunkFts := db.chunkFts ++ chunks.map ChunkRow.fts
      chunkSubstringFts := db.chunkSubstringFts ++ chunks.map ChunkRow.fts } := by
  induction chunks generalizing db with
  | nil => simp only [insertChunks, List.append_nil, List.map_nil]
  | cons chunk rest ih =>
      rw [insertChunks, insertUnique_of_fresh apart.fresh]
      have more := ih { db with
        chunks := db.chunks ++ [chunk]
        chunkFts := db.chunkFts ++ [chunk.fts]
        chunkSubstringFts := db.chunkSubstringFts ++ [chunk.fts] } (by
        rw [List.append_assoc]
        exact apart)
      simp only [List.append_assoc, List.singleton_append] at more
      exact more

theorem insertVersionRows_of_fresh (settings : Settings) {draw : VersionDraw}
    (input : VersionInput) (db : Database)
    (fresh : ∀ old ∈ db.versions, old.id ≠ newId "ver" draw.versionId)
    (apart : Apart ChunkRow.clashes (db.chunks ++ input.chunkRows draw)) :
    insertVersionRows settings draw input db =
      .ok (db.addVersion (input.row settings draw) (input.chunkRows draw)) := by
  have noClash : ∀ old ∈ db.versions,
      decide ((input.row settings draw).id = old.id) = false :=
    fun old member => decide_eq_false (fun same => fresh old member same.symm)
  have added : insertUnique (fun new old : VersionRow => new.id = old.id)
      (input.row settings draw) db.versions = .ok (db.versions ++ [input.row settings draw]) :=
    insertUnique_of_fresh noClash
  unfold insertVersionRows
  rw [added]
  have chunked := insertChunks_of_apart (input.chunkRows draw)
    { db with versions := db.versions ++ [input.row settings draw] } apart
  simp only [bind, Except.bind, chunked]
  rfl

theorem VersionInput.chunkRows_text {input : VersionInput} {text : List Char}
    (hasText : textFor input.data input.mediaType = some text) (draw : VersionDraw) :
    input.chunkRows draw = (chunks text).map (input.chunkRow draw) := by
  unfold VersionInput.chunkRows
  rw [hasText]

/-! ### Creating -/

section Create

variable {F : Type} [FloatFormat F]

theorem validateVersionInput_of_valid {settings : Settings} {data : Bytes}
    {mediaType actor reason encoded : String} {context : List (PyStr × Json F)}
    (small : data.length ≤ settings.maxArtifactBytes) (media : ValidText mediaType maxMediaTypeLength)
    (actorValid : ValidText actor maxNameLength) (reasonValid : ValidText reason maxReasonLength)
    (context_ok : json (.obj context) "source_context" = .ok encoded) :
    validateVersionInput settings data mediaType actor reason context = .ok encoded := by
  unfold validateVersionInput
  rw [if_neg (by omega), validateText_of_valid media, validateText_of_valid actorValid,
    validateText_of_valid reasonValid]
  exact context_ok

theorem CreateRequest.validate_of_valid {settings : Settings} {request : CreateRequest F}
    {encoded : String} (name : ValidText request.name maxNameLength)
    (input : validateVersionInput settings request.data
      (resolveType settings request.mediaType request.name) request.actor request.reason
      request.sourceContext = .ok encoded) : request.validate settings = .ok encoded := by
  unfold CreateRequest.validate
  rw [validateText_of_valid name]
  exact input

omit [FloatFormat F] in
theorem createRows_of_fresh (settings : Settings) {draw : CreateDraw} {request : CreateRequest F}
    {db : Database} (valid : ValidText request.tenantId maxNameLength)
    (fresh : ∀ old ∈ db.artifacts, old.id ≠ newId "art" draw.artifactId)
    (apart : Apart GrantRow.clashes (db.aclGrants ++ request.ownerGrants draw)) :
    ∃ tenants, createRows settings draw request db =
      .ok (db.addArtifact tenants (request.artifactRow settings draw)
        (request.ownerGrants draw)) := by
  have noClash : ∀ old ∈ db.artifacts,
      decide ((request.artifactRow settings draw).id = old.id) = false :=
    fun old member => decide_eq_false (fun same => fresh old member same.symm)
  have added : insertUnique (fun new old : ArtifactRow => new.id = old.id)
      (request.artifactRow settings draw) db.artifacts =
        .ok (db.artifacts ++ [request.artifactRow settings draw]) :=
    insertUnique_of_fresh noClash
  unfold createRows ensureTenant
  rw [validateText_of_valid valid]
  have granted := fun tenants => insertGrants_of_apart (request.ownerGrants draw)
    { db with
      tenants := tenants
      artifacts := db.artifacts ++ [request.artifactRow settings draw] } apart
  by_cases known : (db.tenants.any (fun t => t.id = request.tenantId)) = true
  · refine ⟨db.tenants, ?_⟩
    simp only [bind, Except.bind, known, if_true, added]
    exact granted db.tenants
  · refine ⟨db.tenants ++ [⟨request.tenantId, draw.tenantAt.isoformat⟩], ?_⟩
    simp only [bind, Except.bind, known, if_false, Bool.false_eq_true, added]
    exact granted _

/-- `create_artifact` commits, with new ids, whatever it checks being in order. -/
theorem perform_create {settings : Settings} {draw : CreateDraw} {request : CreateRequest F}
    {context : String} {disk : Disk} (valid : request.validate settings = .ok context)
    (tenantValid : ValidText request.tenantId maxNameLength)
    (fresh : ∀ old ∈ disk.db.artifacts, old.id ≠ newId "art" draw.artifactId)
    (freshVersion : ∀ old ∈ disk.db.versions, old.id ≠ newId "ver" draw.version.versionId)
    (grantsApart : Apart GrantRow.clashes (disk.db.aclGrants ++ request.ownerGrants draw))
    (chunksApart : Apart ChunkRow.clashes (disk.db.chunks ++
      (request.firstVersion settings draw context).chunkRows draw.version)) :
    ∃ tenants, perform settings (.create draw request) disk =
      (⟨(disk.db.addArtifact tenants (request.artifactRow settings draw)
            (request.ownerGrants draw)).addVersion
          ((request.firstVersion settings draw context).row settings draw.version)
          ((request.firstVersion settings draw context).chunkRows draw.version),
        storeBlob disk.files request.data (settings.sha256 request.data).hex
          draw.version.temporary⟩,
        .ok (.created (newId "art" draw.artifactId) (newId "ver" draw.version.versionId))) := by
  obtain ⟨tenants, rows⟩ := createRows_of_fresh settings tenantValid fresh grantsApart
  refine ⟨tenants, ?_⟩
  have home : (disk.db.addArtifact tenants (request.artifactRow settings draw)
      (request.ownerGrants draw)).findArtifact request.tenantId (newId "art" draw.artifactId) =
        some (request.artifactRow settings draw) := by
    unfold Database.findArtifact Database.addArtifact
    rw [List.find?_append]
    have missing : disk.db.artifacts.find? (fun a => a.id = newId "art" draw.artifactId &&
        a.tenantId = request.tenantId) = none := by
      apply List.find?_eq_none.mpr
      intro old member holds
      rw [Bool.and_eq_true, decide_eq_true_eq] at holds
      exact fresh old member holds.1
    rw [missing, Option.none_or]
    simp [CreateRequest.artifactRow]
  have inserted : insertVersion settings draw.version (request.firstVersion settings draw context)
      (disk.db.addArtifact tenants (request.artifactRow settings draw) (request.ownerGrants draw))
      disk.files = (storeBlob disk.files request.data (settings.sha256 request.data).hex
        draw.version.temporary, .ok (((disk.db.addArtifact tenants
          (request.artifactRow settings draw) (request.ownerGrants draw)).addVersion
          ((request.firstVersion settings draw context).row settings draw.version)
          ((request.firstVersion settings draw context).chunkRows draw.version)),
          newId "ver" draw.version.versionId)) := by
    have versionRows := insertVersionRows_of_fresh settings
      (request.firstVersion settings draw context)
      (disk.db.addArtifact tenants (request.artifactRow settings draw)
        (request.ownerGrants draw)) freshVersion chunksApart
    unfold insertVersion
    have sameHome : (disk.db.addArtifact tenants (request.artifactRow settings draw)
        (request.ownerGrants draw)).findArtifact
          (request.firstVersion settings draw context).tenantId
          (request.firstVersion settings draw context).artifactId =
        some (request.artifactRow settings draw) := home
    rw [sameHome, versionRows]
    rfl
  unfold perform Call.body
  simp only [checked, valid]
  unfold createBody
  simp only [rows, inserted]
  rfl

end Create

end FolioLattice.Store
