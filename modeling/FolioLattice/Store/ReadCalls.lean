/-
The calls that read, taken together, and for which actors they do not interfere.
-/

import FolioLattice.Store.Noninterference
import FolioLattice.Store.Progress

namespace FolioLattice.Store

open FolioLattice.Text FolioLattice.Data FolioLattice.Relational FolioLattice.Concurrency

variable {F : Type} [FloatFormat F] {tenantId actor : String} {disk disk' : Disk}

/-! ### All reads -/

inductive ReadCall where
  | listArtifacts (limit : Int) (filter : ListFilter)
  | getArtifact (artifactId : String)
  | readArtifact (artifactId : String) (versionId : Option String)
  | versionMetadata (versionId : String) (artifactId : Option String)
  | versions (artifactId : String) (limit : Int)
  | chunkDescriptors (artifactId versionId : String)
  | readChunk (chunkId : String)
  | grep (pattern : String) (limit : Int)
  | traverse (startArtifactId : String) (maxDepth limit : Int)
  | graphComponent (startArtifactId : String) (limit : Int)

inductive ReadReply (F : Type) where
  | listed (items : List ArtifactListItem)
  | artifact (view : ArtifactView)
  | content (content : ArtifactContent F)
  | version (view : VersionView F)
  | versions (views : List (VersionView F))
  | chunks (places : List ChunkDescriptor)
  | chunk (view : ChunkView)
  | found (found : List GrepMatch)
  | traversed (items : List (TraverseItem F))
  | component (items : List ComponentItem)

def ReadCall.run (call : ReadCall) (disk : Disk) (tenantId actor : String) :
    Except Failure (ReadReply F) :=
  match call with
  | .listArtifacts limit filter =>
      (Store.listArtifacts disk.db tenantId limit (some actor) filter).map .listed
  | .getArtifact artifactId => (Store.getArtifact disk.db tenantId artifactId (some actor)).map .artifact
  | .readArtifact artifactId versionId =>
      (Store.readArtifact (ReadSnapshots.of disk) tenantId artifactId versionId (some actor)).map .content
  | .versionMetadata versionId artifactId =>
      (Store.versionMetadata disk.db tenantId (some versionId) (some actor) .read artifactId).map .version
  | .versions artifactId limit =>
      (Store.versions disk.db tenantId artifactId limit (some actor)).map .versions
  | .chunkDescriptors artifactId versionId =>
      (Store.chunkDescriptors disk.db tenantId artifactId (some versionId) (some actor)).map .chunks
  | .readChunk chunkId => (Store.readChunk disk.db tenantId chunkId (some actor)).map .chunk
  | .grep pattern limit => (Store.grep disk.db tenantId pattern limit (some actor)).map .found
  | .traverse startArtifactId maxDepth limit =>
      (Store.traverse disk.db tenantId startArtifactId maxDepth limit (some actor)).map .traversed
  | .graphComponent startArtifactId limit =>
      (Store.graphComponent disk.db tenantId startArtifactId limit (some actor)).map .component

/-- Any two reachable states that agree on what the actor may see answer it alike. -/
def ReadsNoninterfering (F : Type) [FloatFormat F] (settings : Settings)
    (tenantId actor : String) : Prop :=
  ∀ disk disk', Reachable F settings disk → Reachable F settings disk' →
    Agree tenantId actor disk disk' →
      ∀ call : ReadCall, (call.run disk tenantId actor : Except Failure (ReadReply F)) =
        call.run disk' tenantId actor

theorem Twins.run (twins : Twins tenantId actor disk disk') (call : ReadCall) :
    (call.run disk tenantId actor : Except Failure (ReadReply F)) =
      call.run disk' tenantId actor := by
  cases call with
  | listArtifacts limit filter => rw [ReadCall.run, ReadCall.run, twins.listArtifacts limit filter]
  | getArtifact artifactId => rw [ReadCall.run, ReadCall.run, twins.getArtifact artifactId]
  | readArtifact artifactId versionId => rw [ReadCall.run, ReadCall.run, twins.readArtifact artifactId versionId]
  | versionMetadata versionId artifactId =>
      rw [ReadCall.run, ReadCall.run, twins.versionMetadata (some versionId) artifactId]
  | versions artifactId limit => rw [ReadCall.run, ReadCall.run, twins.versions artifactId limit]
  | chunkDescriptors artifactId versionId =>
      rw [ReadCall.run, ReadCall.run, twins.chunkDescriptors artifactId (some versionId)]
  | readChunk chunkId => rw [ReadCall.run, ReadCall.run, twins.readChunk chunkId]
  | grep pattern limit => rw [ReadCall.run, ReadCall.run, twins.grep pattern limit]
  | traverse startArtifactId maxDepth limit =>
      rw [ReadCall.run, ReadCall.run, twins.traverse startArtifactId maxDepth limit]
  | graphComponent startArtifactId limit =>
      rw [ReadCall.run, ReadCall.run, twins.graphComponent startArtifactId limit]

/-! ### Tenants without artifacts -/

/-- A tenant of which no artifact can be created. -/
def Barren (tenantId : String) (db : Database) : Prop :=
  ∀ artifact ∈ db.artifacts, artifact.tenantId ≠ tenantId

theorem StoreSound.barren {db : Database} (sound : StoreSound db)
    (invalid : ¬ValidText tenantId maxNameLength) : Barren tenantId db := by
  intro artifact member same
  rw [← same] at invalid
  exact invalid (sound.tenants artifact member)

theorem Barren.findArtifact {db : Database} (barren : Barren tenantId db) (artifactId : String) :
    db.findArtifact tenantId artifactId = none := by
  apply List.find?_eq_none.mpr
  intro artifact member holds
  rw [Bool.and_eq_true, decide_eq_true_eq, decide_eq_true_eq] at holds
  exact barren artifact member holds.2

theorem Barren.versionTenant {db : Database} (sound : StoreSound db) (barren : Barren tenantId db) :
    ∀ version ∈ db.versions, version.tenantId ≠ tenantId := by
  intro version member same
  obtain ⟨artifact, inside, belongs⟩ := sound.versions.versionHome version member
  exact barren artifact inside ((ofArtifact_iff.mp belongs).2.symm.trans same)

theorem Barren.chunkTenant {db : Database} (sound : StoreSound db) (barren : Barren tenantId db) :
    ∀ chunk ∈ db.chunks, chunk.tenantId ≠ tenantId := by
  intro chunk member same
  obtain ⟨version, inside, _, _, sameTenant⟩ := sound.versions.chunkHome chunk member
  exact barren.versionTenant sound version inside (sameTenant.trans same)

theorem accessClause_invalid (invalid : ¬ValidText actor maxNameLength) :
    ∃ e, ∀ db : Database, accessClause db (some actor) .read = .error e := by
  cases checked : validateText "actor" actor maxNameLength with
  | ok _ => exact absurd (validateText_ok_iff.mp checked) invalid
  | error e =>
      refine ⟨e, ?_⟩
      intro db
      unfold accessClause
      simp only [checked]
      rfl

/-- What an inadmissible actor is told of a tenant without artifacts. -/
theorem Barren.run (invalid : ¬ValidText actor maxNameLength) (sound : StoreSound disk.db)
    (sound' : StoreSound disk'.db) (barren : Barren tenantId disk.db)
    (barren' : Barren tenantId disk'.db) (call : ReadCall) :
    (call.run disk tenantId actor : Except Failure (ReadReply F)) =
      call.run disk' tenantId actor := by
  obtain ⟨e, refused⟩ := accessClause_invalid invalid
  have noArtifact : ∀ {d : Disk}, Barren tenantId d.db → ∀ artifactId,
      getArtifact d.db tenantId artifactId (some actor) = .error notFound := by
    intro d none artifactId
    unfold Store.getArtifact
    rw [none.findArtifact]
  have notAuthorized : ∀ {d : Disk}, Barren tenantId d.db → ∀ artifactId,
      authorize d.db tenantId artifactId (some actor) .read = .error notFound := by
    intro d none artifactId
    unfold Store.authorize
    rw [none.findArtifact]
  have noVersion : ∀ {d : Disk}, StoreSound d.db → Barren tenantId d.db →
      ∀ versionId artifactId, (versionMetadata d.db tenantId versionId (some actor) .read artifactId :
        Except Failure (VersionView F)) = .error (.folio "version not found") := by
    intro d sound none versionId artifactId
    have missing : d.db.findVersion tenantId versionId artifactId = Option.none := by
      apply List.find?_eq_none.mpr
      intro version member holds
      simp only [Bool.and_eq_true, decide_eq_true_eq] at holds
      exact none.versionTenant sound version member holds.1.2
    unfold Store.versionMetadata
    rw [missing]
  have noChunk : ∀ {d : Disk}, StoreSound d.db → Barren tenantId d.db → ∀ chunkId,
      readChunk d.db tenantId chunkId (some actor) = .error (.folio "chunk not found") := by
    intro d sound none chunkId
    have missing : d.db.chunks.find? (fun c => c.id = chunkId && c.tenantId = tenantId) =
        Option.none := by
      apply List.find?_eq_none.mpr
      intro chunk member holds
      rw [Bool.and_eq_true, decide_eq_true_eq, decide_eq_true_eq] at holds
      exact none.chunkTenant sound chunk member holds.2
    unfold Store.readChunk
    rw [missing]
  cases call with
  | listArtifacts limit filter => simp only [ReadCall.run, Store.listArtifacts, refused]; rfl
  | getArtifact artifactId => simp only [ReadCall.run, noArtifact barren, noArtifact barren']
  | readArtifact artifactId versionId =>
      simp only [ReadCall.run, Store.readArtifact, ReadSnapshots.of, noArtifact barren,
        noArtifact barren']
      rfl
  | versionMetadata versionId artifactId =>
      simp only [ReadCall.run, noVersion sound barren, noVersion sound' barren']
  | versions artifactId limit =>
      simp only [ReadCall.run, Store.versions, noArtifact barren, noArtifact barren']
      rfl
  | chunkDescriptors artifactId versionId =>
      simp only [ReadCall.run, Store.chunkDescriptors, notAuthorized barren, notAuthorized barren']
      rfl
  | readChunk chunkId => simp only [ReadCall.run, noChunk sound barren, noChunk sound' barren']
  | grep pattern limit => simp only [ReadCall.run, Store.grep, refused]; rfl
  | traverse startArtifactId maxDepth limit =>
      simp only [ReadCall.run, Store.traverse, noArtifact barren, noArtifact barren']
      rfl
  | graphComponent startArtifactId limit =>
      simp only [ReadCall.run, Store.graphComponent, Store.componentIds, notAuthorized barren,
        notAuthorized barren']
      rfl

/-! ### An actor that the checks refuse -/

theorem StoreSound.hidden {db : Database} (sound : StoreSound db)
    (invalid : ¬ValidText actor maxNameLength) {artifact : ArtifactRow}
    (member : artifact ∈ db.artifacts) : db.visible tenantId actor artifact = false := by
  rw [← Bool.not_eq_true]
  intro visible
  exact invalid (sound.grants.valid_of_permits member (visible_iff.mp visible).2)

theorem StoreSound.unseen {db : Database} (sound : StoreSound db)
    (invalid : ¬ValidText actor maxNameLength) (artifactId : String) :
    db.sees tenantId actor artifactId = false := by
  rw [← Bool.not_eq_true]
  intro seen
  obtain ⟨artifact, member, _, visible⟩ := sees_iff.mp seen
  rw [sound.hidden invalid member] at visible
  cases visible

/-- It sees nothing, so any two states agree. -/
theorem Agree.of_invalid (invalid : ¬ValidText actor maxNameLength) (sound : StoreSound disk.db)
    (sound' : StoreSound disk'.db) : Agree tenantId actor disk disk' where
  artifacts := by
    intro artifact
    constructor
    · rintro ⟨member, visible⟩
      rw [sound.hidden invalid member] at visible
      cases visible
    · rintro ⟨member, visible⟩
      rw [sound'.hidden invalid member] at visible
      cases visible
  versions := by
    intro version
    rw [sound.unseen invalid, sound'.unseen invalid]
    simp
  chunks := by
    intro chunk
    rw [sound.unseen invalid, sound'.unseen invalid]
    simp
  edges := by
    intro edge
    rw [seesEdge_iff, seesEdge_iff, sound.unseen invalid, sound'.unseen invalid]
    simp
  blobs := by
    intro version _ _ seen
    rw [sound.unseen invalid] at seen
    cases seen

def emptyNote (tenantId : String) : CreateRequest F where
  tenantId := tenantId
  name := "note"
  data := []
  mediaType := some "text/plain"

theorem emptyNote_valid (settings : Settings) (tenantId : String) :
    (emptyNote tenantId : CreateRequest F).validate settings = .ok "{}" := by
  apply CreateRequest.validate_of_valid
  · change ValidText "note" maxNameLength
    decide
  · apply validateVersionInput_of_valid
    · exact Nat.zero_le _
    · change ValidText "text/plain" maxMediaTypeLength
      decide
    · change ValidText "dev" maxNameLength
      decide
    · change ValidText "initial artifact" maxReasonLength
      decide
    · rfl

theorem perform_emptyNote (settings : Settings) (draw : InitializeDraw)
    (valid : ValidText tenantId maxNameLength) :
    ∃ artifact ∈ (perform settings (.create (CreateDraw.epoch Uuid.nil)
        (emptyNote tenantId : CreateRequest F)) (freshDisk settings draw)).1.db.artifacts,
      artifact.id = newId "art" Uuid.nil ∧ artifact.tenantId = tenantId := by
  have noChunks : ((emptyNote tenantId : CreateRequest F).firstVersion settings
      (CreateDraw.epoch Uuid.nil) "{}").chunkRows (CreateDraw.epoch Uuid.nil).version = [] := by
    have noText : textFor [] "text/plain" = some [] := by
      unfold textFor
      rw [if_neg (by decide)]
      rfl
    rw [VersionInput.chunkRows_text noText]
    rfl
  obtain ⟨tenants, performed⟩ := perform_create (emptyNote_valid (F := F) settings tenantId) valid
    (fun old (member : old ∈ (freshDisk settings draw).db.artifacts) => by cases member)
    (fun old member => by cases member) (ownerGrants_apart _ _ _ _) (by
      rw [noChunks]
      exact List.Pairwise.nil)
  rw [performed]
  have target : isTarget (((emptyNote tenantId : CreateRequest F).firstVersion settings
      (CreateDraw.epoch Uuid.nil) "{}").row settings (CreateDraw.epoch Uuid.nil).version)
      ((emptyNote tenantId : CreateRequest F).artifactRow settings (CreateDraw.epoch Uuid.nil)) =
        true := by
    rw [isTarget_eq]
    exact ofArtifact_iff.mpr ⟨rfl, rfl⟩
  exact ⟨_, addVersion_target _ (List.mem_append_right _ (List.mem_singleton_self _)) target,
    rfl, rfl⟩

theorem getArtifact_invalid {db : Database} (invalid : ¬ValidText actor maxNameLength)
    {artifact : ArtifactRow} {artifactId : String}
    (found : db.findArtifact tenantId artifactId = some artifact) :
    getArtifact db tenantId artifactId (some actor) ≠ .error notFound := by
  unfold getArtifact authorize
  rw [found]
  cases checked : validateText "actor" actor maxNameLength with
  | ok _ => exact absurd (validateText_ok_iff.mp checked) invalid
  | error e =>
      intro same
      simp only [checked] at same
      have isNotFound : e = notFound := Except.error.inj same
      rw [isNotFound] at checked
      rcases validateText_error checked with empty | long
      · exact absurd empty (by decide)
      · exact absurd long (by decide)

/-- It can tell an artifact it may not see from one that is not there. -/
theorem reads_interfere (settings : Settings) (tenantValid : ValidText tenantId maxNameLength)
    (invalid : ¬ValidText actor maxNameLength) : ¬ReadsNoninterfering F settings tenantId actor := by
  intro noninterfering
  have before : Reachable F settings (freshDisk settings InitializeDraw.epoch) :=
    ⟨InitializeDraw.epoch, [], .start⟩
  have after : Reachable F settings (perform settings (.create (CreateDraw.epoch Uuid.nil)
      (emptyNote tenantId : CreateRequest F)) (freshDisk settings InitializeDraw.epoch)).1 :=
    ⟨InitializeDraw.epoch, _, .next .start (.call _ _)⟩
  obtain ⟨artifact, member, sameId, sameTenant⟩ :=
    perform_emptyNote (F := F) settings InitializeDraw.epoch tenantValid
  have found := findArtifact_of_mem after.sound.grants.artifactIds member
  rw [sameId, sameTenant] at found
  have same := noninterfering _ _ before after
    (Agree.of_invalid invalid before.sound after.sound) (.getArtifact (newId "art" Uuid.nil))
  have missing : getArtifact (freshDisk settings InitializeDraw.epoch).db tenantId
      (newId "art" Uuid.nil) (some actor) = .error notFound := rfl
  rw [ReadCall.run, ReadCall.run, missing] at same
  cases told : getArtifact (perform settings (.create (CreateDraw.epoch Uuid.nil)
      (emptyNote tenantId : CreateRequest F)) (freshDisk settings InitializeDraw.epoch)).1.db
      tenantId (newId "art" Uuid.nil) (some actor) with
  | ok view =>
      rw [told] at same
      cases same
  | error e =>
      rw [told] at same
      have isNotFound : notFound = e := Except.error.inj same
      rw [← isNotFound] at told
      exact getArtifact_invalid invalid found told

/-- The reads of an actor do not interfere exactly when its name passes the check
that is made once an artifact is found, or none can be. -/
theorem reads_noninterfering_iff (settings : Settings) (tenantId actor : String) :
    ReadsNoninterfering F settings tenantId actor ↔
      (ValidText actor maxNameLength ∨ ¬ValidText tenantId maxNameLength) := by
  constructor
  · intro noninterfering
    by_contra neither
    rw [not_or, not_not] at neither
    exact reads_interfere settings neither.2 neither.1 noninterfering
  · intro admissible disk disk' reachable reachable' agree call
    by_cases valid : ValidText actor maxNameLength
    · exact Twins.run ⟨reachable.sound, reachable'.sound, valid, agree⟩ call
    · have barren := admissible.resolve_left valid
      exact Barren.run valid reachable.sound reachable'.sound (reachable.sound.barren barren)
        (reachable'.sound.barren barren) call

/-- An actor of 256 characters. -/
def longActor : String := String.ofList (List.replicate 256 'a')

theorem reads_interfere_long :
    ¬ReadsNoninterfering Empty Settings.standard "acme" longActor := by
  apply reads_interfere Settings.standard (by decide)
  rintro ⟨_, short⟩
  unfold longActor maxNameLength at short
  rw [String.length_ofList, List.length_replicate] at short
  omega

end FolioLattice.Store
