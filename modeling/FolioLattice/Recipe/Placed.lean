/-
What holds of a bundle between any two calls: of each role there is one version at most, and
it is the current version of an artifact that the caller's list finds.
-/

import FolioLattice.Recipe.Serving

namespace FolioLattice.Recipe

open FolioLattice.Text FolioLattice.Data FolioLattice.Store FolioLattice.Concurrency
  FolioLattice.Relational
open FolioLattice.Effects (except_bind_ok)
open Relation (ReflTransGen)

variable {F : Type} [FloatFormat F]

/-! ### The context of a version -/

theorem AssetRole.name_injective : Function.Injective AssetRole.name := by
  intro role role' same
  cases role <;> cases role' <;> first | rfl | exact absurd same (by decide)

omit [FloatFormat F] in
theorem holdsText_iff {context : List (PyStr × Json F)} {key : String} {text : PyStr} :
    holdsText context key text = true ↔ lookup (pyStr key) context = some (.str text) := by
  unfold holdsText
  split
  · rename_i held found
    rw [found, decide_eq_true_eq, Option.some.injEq, Json.str.injEq]
  · rename_i other
    constructor
    · intro impossible
      cases impossible
    · intro found
      exact absurd found (other text)

omit [FloatFormat F] in
/-- The context that is stored with an asset is one of its role alone. -/
theorem context_isBundleContext {bundleId role name : PyStr} {chars : List Char}
    (encodable : charsOf bundleId = some chars) (assetRole : AssetRole) (body : Bytes) :
    isBundleContext bundleId role
        ((Json.obj (context bundleId assetRole name body)).sortKeys.reread : Json F) = true ↔
      role = pyStr assetRole.name := by
  have keys : ((context bundleId assetRole name body : List (PyStr × Json F)).map (·.1)) =
      ["schema", "bundle_id", "role", "relative_path", "content_sha256"].map pyStr := rfl
  have distinct : ((context bundleId assetRole name body : List (PyStr × Json F)).map
      (·.1)).Nodup := by
    rw [keys]
    decide
  have joined : ∀ key ∈ (context bundleId assetRole name body : List (PyStr × Json F)).map (·.1),
      joinPairs key = key := by
    intro key member
    rw [keys] at member
    obtain ⟨plain, _, isKey⟩ := List.mem_map.mp member
    rw [← isKey]
    exact joinPairs_chars _
  obtain ⟨entries, same, found⟩ := reread_sortKeys_mem distinct joined
  have schema := found (pyStr "schema") (.str bundleSchema) (by simp [context])
  have bundle := found (pyStr "bundle_id") (.str bundleId) (by simp [context])
  have ofRole := found (pyStr "role") (.str (pyStr assetRole.name)) (by simp [context])
  rw [Json.sortKeys, Json.reread] at schema bundle ofRole
  rw [show joinPairs bundleSchema = bundleSchema from joinPairs_chars _] at schema
  rw [joinPairs_charsOf encodable] at bundle
  rw [show joinPairs (pyStr assetRole.name) = pyStr assetRole.name from joinPairs_chars _] at ofRole
  rw [same]
  unfold isBundleContext
  simp only [Bool.and_eq_true, holdsText_iff, schema, bundle, ofRole, Option.some.injEq,
    Json.str.injEq, true_and]
  exact eq_comm

theorem Bundle.has_iff {bundle : Bundle} {role : PyStr} {row : VersionRow} {context : Json F}
    (loaded : loadText row.sourceContext = .ok context) :
    bundle.Has F role row ↔
      row.tenantId = bundle.tenantId ∧ isBundleContext bundle.bundleId role context = true := by
  constructor
  · rintro ⟨tenant, context', loaded', holds⟩
    rw [loaded] at loaded'
    cases loaded'
    exact ⟨tenant, holds⟩
  · intro both
    exact ⟨both.1, context, loaded, both.2⟩

/-! ### What steps keep -/

/-- No row of these tables is changed or deleted. -/
structure Grows (db db' : Database) : Prop where
  versions : ∀ row ∈ db.versions, row ∈ db'.versions
  edges : ∀ edge ∈ db.edges, edge ∈ db'.edges

theorem Grows.refl (db : Database) : Grows db db := ⟨fun _ member => member, fun _ member => member⟩

theorem Grows.trans {db db' db'' : Database} (first : Grows db db') (second : Grows db' db'') :
    Grows db db'' where
  versions row member := second.versions row (first.versions row member)
  edges edge member := second.edges edge (first.edges edge member)

section Steps

variable {settings : Settings} {service service' : Service}

theorem step_versionsKept {event : ServiceEvent F} (sound : ServiceSound settings service)
    (step : ServiceStep settings service event service') :
    ∀ row ∈ service.disk.db.versions, row ∈ service'.disk.db.versions := by
  intro row member
  cases step with
  | @store _ _ disk step =>
      rcases storeStep_cases sound.store step with ⟨call, answer, _, effect⟩ | ⟨_, members, same⟩
      · exact effect.versions_kept row member
      · change row ∈ disk.db.versions
        rw [same]
        exact member
  | audit _ call =>
      obtain ⟨tenants, events, same⟩ : TrailOnly service.tables.store.db
        (call.after settings service.tables.store).db :=
          AuditCall.after_trailOnly call service.tables.store
      change row ∈ (call.after settings service.tables.store).db.versions
      rw [same]
      exact member
  | external _ tenants registry => exact member
  | start _ draw =>
      rw [sound.settled.fixed]
      exact member

theorem step_grows {event : ServiceEvent F} (sound : ServiceSound settings service)
    (step : ServiceStep settings service event service') :
    Grows service.disk.db service'.disk.db where
  versions := step_versionsKept sound step
  edges := by
    intro edge member
    rcases step.edgesGrow sound with same | ⟨new, _, added⟩
    · rw [same]
      exact member
    · rw [added]
      exact List.mem_append_left _ member

/-- A call of the store is a step of the service. -/
theorem perform_step {call : Call F} {disk : Disk} {result : Except Failure Reply}
    (performed : perform settings call service.disk = (disk, result)) :
    ServiceStep settings service (.store (.finished call result)) (service.withDisk disk) := by
  have step : StoreStep settings service.disk _ _ := .call service.disk call
  rw [performed] at step
  exact .store step

theorem perform_error {call : Call F} {disk disk' : Disk} {failure : Failure}
    (performed : perform settings call disk = (disk', .error failure)) : disk'.db = disk.db := by
  unfold perform at performed
  rcases commit_cases disk (call.body settings disk) with ⟨db, value, _, committed⟩ | ⟨e, _, kept⟩
  · rw [committed] at performed
    cases (Prod.mk.inj performed).2
  · rw [kept] at performed
    rw [← (Prod.mk.inj performed).1]

theorem perform_effect {call : Call F} {disk disk' : Disk} {answer : Reply}
    (sound : StoreSound disk.db) (performed : perform settings call disk = (disk', .ok answer)) :
    Effect settings disk.db call answer disk'.db := by
  unfold perform at performed
  rcases commit_cases disk (call.body settings disk) with ⟨db, value, yields, committed⟩ | ⟨e, _, kept⟩
  · rw [committed] at performed
    obtain ⟨sameDisk, sameAnswer⟩ := Prod.mk.inj performed
    rw [← sameDisk, ← Except.ok.inj sameAnswer]
    exact Call.effect sound.ready yields
  · rw [kept] at performed
    cases (Prod.mk.inj performed).2

end Steps

/-! ### A placed bundle -/

def Caller.bundle (caller : Caller) (args : RecipeArguments) : Bundle :=
  ⟨caller.tenantId, args.bundleId⟩

/-- The row is the current version of the caller's artifact for this role. -/
structure Stands (caller : Caller) (args : RecipeArguments) (role : AssetRole) (row : VersionRow)
    (artifact : ArtifactRow) : Prop where
  id : artifact.id = row.artifactId
  tenant : artifact.tenantId = caller.tenantId
  owner : artifact.ownerActorId = some caller.actor
  current : artifact.currentVersionId = some row.id
  name : pyStr artifact.name = args.name role
  mediaType : artifact.mediaType = role.mediaType

structure Placed (F : Type) [FloatFormat F] (settings : Settings) (caller : Caller)
    (args : RecipeArguments) (service : Service) : Prop where
  sound : ServiceSound settings service
  oneEach : ∀ role, ∀ row ∈ service.disk.db.versions, ∀ row' ∈ service.disk.db.versions,
    (caller.bundle args).Has F role row → (caller.bundle args).Has F role row' → row = row'
  stands : ∀ role, ∀ row ∈ service.disk.db.versions, (caller.bundle args).Has F role row →
    ∃ assetRole : AssetRole, role = pyStr assetRole.name ∧
      ∃ artifact ∈ service.disk.db.artifacts, Stands caller args assetRole row artifact

section Placed

variable {settings : Settings} {caller : Caller} {args : RecipeArguments}
  {service service' service'' : Service}

/-- A bundle that stays as it is stays placed. -/
theorem Placed.untouched (placed : Placed F settings caller args service)
    (sound : ServiceSound settings service')
    (untouched : (caller.bundle args).Untouched F service.disk.db service'.disk.db) :
    Placed F settings caller args service' where
  sound := sound
  oneEach role row member row' member' has has' :=
    placed.oneEach role row (untouched.versions role row member has) row'
      (untouched.versions role row' member' has') has has'
  stands role row member has := by
    have before := untouched.versions role row member has
    obtain ⟨assetRole, isRole, artifact, inside, stands⟩ := placed.stands role row before has
    exact ⟨assetRole, isRole, artifact,
      untouched.artifacts role row before has artifact inside stands.id, stands⟩

/-- What is so after some acts of others. -/
structure Later (F : Type) [FloatFormat F] (settings : Settings) (caller : Caller)
    (args : RecipeArguments) (service service' : Service) : Prop where
  placed : Placed F settings caller args service'
  grows : Grows service.disk.db service'.disk.db
  gained : ∀ role, ∀ row ∈ service'.disk.db.versions, (caller.bundle args).Has F role row →
    row ∈ service.disk.db.versions

theorem Later.refl (placed : Placed F settings caller args service) :
    Later F settings caller args service service :=
  ⟨placed, .refl _, fun _ _ member _ => member⟩

theorem Later.trans (first : Later F settings caller args service service')
    (second : Later F settings caller args service' service'') :
    Later F settings caller args service service'' where
  placed := second.placed
  grows := first.grows.trans second.grows
  gained role row member has := first.gained role row (second.gained role row member has) has

theorem Placed.others (placed : Placed F settings caller args service)
    (moved : (caller.bundle args).Others F settings service service') :
    Later F settings caller args service service' := by
  obtain ⟨event, step, untouched⟩ := moved
  exact ⟨placed.untouched (placed.sound.step step) untouched, step_grows placed.sound step,
    untouched.versions⟩

theorem Placed.later (placed : Placed F settings caller args service)
    (moved : ReflTransGen ((caller.bundle args).Others F settings) service service') :
    Later F settings caller args service service' := by
  induction moved with
  | refl => exact .refl placed
  | tail _ last ih => exact ih.trans (ih.placed.others last)

/-! ### The calls -/

/-- The version of the role is listed, unless the list is full. -/
theorem Placed.listed (placed : Placed F settings caller args service) {role : AssetRole}
    {chars : List Char} (isName : charsOf (args.name role) = some chars)
    {items : List ArtifactListItem}
    (listed : listArtifacts service.disk.db caller.tenantId maxIdempotencyCandidates
      caller.policyActor { name := some (String.ofList chars), mediaType := some role.mediaType } =
        .ok items)
    {row : VersionRow} (member : row ∈ service.disk.db.versions)
    (has : (caller.bundle args).Has F (pyStr role.name) row) :
    (∃ item ∈ items, item.id = row.artifactId) ∨ maxIdempotencyCandidates ≤ items.length := by
  obtain ⟨role', sameRole, artifact, inside, stands⟩ := placed.stands _ row member has
  have isRole : role' = role := (AssetRole.name_injective (pyStr_injective sameRole)).symm
  subst isRole
  unfold listArtifacts at listed
  obtain ⟨_, _, listed⟩ := except_bind_ok listed
  obtain ⟨_, _, listed⟩ := except_bind_ok listed
  obtain ⟨cursor, noCursor, listed⟩ := except_bind_ok listed
  obtain ⟨access, granted, listed⟩ := except_bind_ok listed
  cases noCursor
  have readable : access artifact = true := by
    rw [(accessClause_ok_iff.mp granted).2]
    rcases caller.policy with fixed | given
    · rw [fixed]
      rfl
    · rw [given]
      change service.disk.db.permits artifact caller.actor .read = true
      unfold Database.permits
      rw [stands.owner, decide_eq_true rfl, Bool.true_or]
  have named : String.ofList chars = artifact.name := by
    have encoded : charsOf (pyStr artifact.name) = some artifact.name.toList := charsOf_chars _
    rw [stands.name, isName] at encoded
    rw [Option.some.inj encoded, String.ofList_toList]
  have found : artifact ∈ service.disk.db.listed caller.tenantId access none
      { name := some (String.ofList chars), mediaType := some role'.mediaType } := by
    apply List.mem_filter.mpr
    refine ⟨inside, ?_⟩
    simp [readable, afterCursor, ListFilter.matches, named, stands.tenant, stands.mediaType]
  have ordered : artifact ∈ orderBy service.disk.db.listKey _ := mem_orderBy.mpr found
  rw [← Except.ok.inj listed]
  by_cases short : (orderBy service.disk.db.listKey (service.disk.db.listed caller.tenantId access
      none { name := some (String.ofList chars), mediaType := some role'.mediaType })).length ≤
        clampLimit maxIdempotencyCandidates 100
  · left
    rw [List.take_of_length_le short]
    exact ⟨_, List.mem_map_of_mem ordered, stands.id⟩
  · right
    rw [List.length_map, List.length_take_of_le (Nat.le_of_not_le short)]
    decide

/-- A read shows a version that is current at its start. -/
theorem readArtifact_ok {snapshots : ReadSnapshots} {tenantId artifactId : String}
    {actor : Option String} {content : ArtifactContent F}
    (read : readArtifact snapshots tenantId artifactId none actor = .ok content) :
    (∃ artifact ∈ snapshots.artifact.db.artifacts, artifact.id = artifactId ∧
      artifact.view = content.artifact) ∧
    ∃ row ∈ snapshots.version.db.versions, some row.id = content.artifact.currentVersionId ∧
      row.tenantId = tenantId ∧ row.artifactId = artifactId ∧ row.view = .ok content.version := by
  obtain ⟨view, shown, read⟩ := except_bind_ok read
  obtain ⟨metadata, described, read⟩ := except_bind_ok read
  obtain ⟨data, _, read⟩ := except_bind_ok read
  obtain ⟨chunks, _, read⟩ := except_bind_ok read
  rw [← Except.ok.inj read]
  obtain ⟨artifact, inside, isId, _, isView⟩ := getArtifact_ok shown
  obtain ⟨row, member, isCurrent, ofTenant, ofArtifact, viewed⟩ := versionMetadata_ok described
  exact ⟨⟨artifact, inside, isId, isView⟩,
    row, member, isCurrent, ofTenant, ofArtifact artifactId rfl, viewed⟩

theorem versionView_ok {row : VersionRow} {view : VersionView F} (viewed : row.view = .ok view) :
    view.id = row.id ∧ loadText row.sourceContext = .ok view.sourceContext := by
  obtain ⟨context, loaded, same⟩ := except_bind_ok viewed
  rw [← Except.ok.inj same]
  exact ⟨rfl, loaded⟩

/-- A candidate that is read as one of the bundle has the version of the role, and one that is
not does not have it. -/
theorem Placed.read (placed : Placed F settings caller args service)
    (toVersion : Later F settings caller args service service') {bytes chunks : Disk}
    {artifactId : String} {content : ArtifactContent F}
    (read : readArtifact ⟨service.disk, service'.disk, bytes, chunks⟩ caller.tenantId artifactId none
      caller.policyActor = .ok content) (role : PyStr) :
    if isBundleContext args.bundleId role content.version.sourceContext then
      ∃ row ∈ service'.disk.db.versions, (caller.bundle args).Has F role row ∧
        content.artifact.id = row.artifactId ∧ content.version.id = row.id
    else ∀ row ∈ service'.disk.db.versions, (caller.bundle args).Has F role row →
      row.artifactId ≠ artifactId := by
  obtain ⟨⟨artifact, inside, isId, isView⟩, row, member, isCurrent, ofTenant, ofArtifact, viewed⟩ :=
    readArtifact_ok read
  obtain ⟨sameId, loaded⟩ := versionView_ok viewed
  have has_iff : (caller.bundle args).Has F role row ↔
      isBundleContext args.bundleId role content.version.sourceContext = true := by
    rw [Bundle.has_iff loaded]
    exact and_iff_right ofTenant
  split
  · rename_i isContext
    refine ⟨row, member, has_iff.mpr isContext, ?_, sameId⟩
    rw [← isView, ofArtifact]
    exact isId
  · rename_i other
    intro row' member' has' sameArtifact
    -- the version would be the current one, and so the one that was read
    obtain ⟨_, _, artifact', inside', stands⟩ :=
      placed.stands role row' (toVersion.gained role row' member' has') has'
    have one : artifact' = artifact :=
      placed.sound.store.versions.artifactIds.eq inside' inside
        (stands.id.trans (sameArtifact.trans isId.symm))
    rw [← isView] at isCurrent
    change some row.id = artifact.currentVersionId at isCurrent
    rw [← one, stands.current] at isCurrent
    have same : row = row' := toVersion.placed.sound.store.versions.versionIds.eq member member'
      (Option.some.inj isCurrent)
    rw [same] at has_iff
    exact other (has_iff.mp has')

/-- Calls that leave versions and artifacts alone leave every bundle alone. -/
theorem Bundle.untouched_of_eq {bundle : Bundle} {db db' : Database}
    (versions : db'.versions = db.versions) (artifacts : db'.artifacts = db.artifacts) :
    bundle.Untouched F db db' where
  versions role row member _ := versions ▸ member
  artifacts role row _ _ artifact inside _ := by
    rw [artifacts]
    exact inside

theorem Placed.failed (placed : Placed F settings caller args service) {call : Call F} {disk : Disk}
    {failure : Failure} (performed : perform settings call service.disk = (disk, .error failure)) :
    Placed F settings caller args (service.withDisk disk) := by
  have same : (service.withDisk disk).disk.db = service.disk.db := perform_error performed
  exact placed.untouched (placed.sound.step (perform_step performed))
    (Bundle.untouched_of_eq (congrArg Database.versions same) (congrArg Database.artifacts same))

/-- A link leaves the bundle alone. -/
theorem Placed.linked (placed : Placed F settings caller args service) {draw : EdgeDraw}
    {request : LinkRequest F} {disk : Disk} {result : Except Failure Reply}
    (performed : perform settings (.link draw request) service.disk = (disk, result)) :
    Placed F settings caller args (service.withDisk disk) := by
  cases result with
  | error failure => exact placed.failed performed
  | ok answer =>
      have effect := perform_effect placed.sound.store performed
      apply placed.untouched (placed.sound.step (perform_step performed))
      change (caller.bundle args).Untouched F service.disk.db disk.db
      generalize disk.db = db at effect
      cases effect with
      | linkedAgain present => exact Bundle.untouched_of_eq rfl rfl
      | linked valid source target fresh => exact Bundle.untouched_of_eq rfl rfl

/-- The edge that a link shows is there. -/
theorem linkShown_ok {draw : EdgeDraw} {request : LinkRequest F} {disk disk' : Disk}
    {result : Except Failure Reply} {view : EdgeView F}
    (performed : perform settings (.link draw request) disk = (disk', result))
    (shown : linkShown result = .ok view) :
    ∃ edge ∈ disk'.db.edges, edge.linkKey = request.linkKey ∧ view.id = edge.id := by
  cases result with
  | error failure => cases shown
  | ok answer =>
      obtain ⟨metadata, edge, _, isEdge, linked⟩ := perform_link_ok performed
      rw [isEdge] at shown
      obtain ⟨stored, joins, _⟩ := linkBody_stored linked
      obtain ⟨value, _, same⟩ := except_bind_ok shown
      exact ⟨edge, stored, joins, by rw [← Except.ok.inj same]⟩

/-- The request that creates the asset of a role. -/
structure Requests (caller : Caller) (args : RecipeArguments) (role : AssetRole) (body : Bytes)
    (request : CreateRequest F) : Prop where
  tenant : request.tenantId = caller.tenantId
  actor : request.actor = caller.actor
  name : pyStr request.name = args.name role
  mediaType : request.mediaType = some role.mediaType
  context : request.sourceContext = context args.bundleId role (args.name role) body

theorem resolveType_role (settings : Settings) (role : AssetRole) (name : String) :
    resolveType settings (some role.mediaType) name = role.mediaType := by
  cases role <;> rfl

/-- Where the role has no version, one more for it is placed. -/
theorem Placed.added (placed : Placed F settings caller args service)
    (sound : ServiceSound settings service') {role : AssetRole} {row : VersionRow}
    (missing : ∀ old ∈ service.disk.db.versions,
      ¬(caller.bundle args).Has F (pyStr role.name) old)
    (versions : service'.disk.db.versions = service.disk.db.versions ++ [row])
    (kept : ∀ artifact ∈ service.disk.db.artifacts, artifact ∈ service'.disk.db.artifacts)
    (ofRole : ∀ role', (caller.bundle args).Has F role' row ↔ role' = pyStr role.name)
    (stands : ∃ artifact ∈ service'.disk.db.artifacts, Stands caller args role row artifact) :
    Placed F settings caller args service' := by
  have known : ∀ role', ∀ old ∈ service'.disk.db.versions,
      (caller.bundle args).Has F role' old →
        old ∈ service.disk.db.versions ∧ role' ≠ pyStr role.name ∨
          old = row ∧ role' = pyStr role.name := by
    intro role' old member has
    rw [versions] at member
    rcases List.mem_append.mp member with before | new
    · left
      refine ⟨before, fun same => ?_⟩
      rw [same] at has
      exact missing old before has
    · right
      have isRow := List.mem_singleton.mp new
      exact ⟨isRow, (ofRole role').mp (isRow ▸ has)⟩
  refine ⟨sound, ?_, ?_⟩
  · intro role' one member one' member' has has'
    rcases known role' one member has with ⟨before, other⟩ | ⟨isRow, sameRole⟩
    · rcases known role' one' member' has' with ⟨before', _⟩ | ⟨_, sameRole⟩
      · exact placed.oneEach role' one before one' before' has has'
      · exact absurd sameRole other
    · rcases known role' one' member' has' with ⟨_, other⟩ | ⟨isRow', _⟩
      · exact absurd sameRole other
      · exact isRow.trans isRow'.symm
  · intro role' old member has
    rcases known role' old member has with ⟨before, _⟩ | ⟨isRow, sameRole⟩
    · obtain ⟨assetRole, isRole, artifact, inside, standing⟩ := placed.stands role' old before has
      exact ⟨assetRole, isRole, artifact, kept artifact inside, standing⟩
    · rw [isRow]
      exact ⟨role, sameRole, stands⟩

theorem Placed.created (placed : Placed F settings caller args service) {role : AssetRole}
    {body : Bytes} {draw : CreateDraw} {request : CreateRequest F} {disk : Disk} {chars : List Char}
    {artifactId versionId : String} (encodable : charsOf args.bundleId = some chars)
    (requests : Requests caller args role body request)
    (missing : ∀ old ∈ service.disk.db.versions,
      ¬(caller.bundle args).Has F (pyStr role.name) old)
    (performed : perform settings (.create draw request) service.disk =
      (disk, .ok (.created artifactId versionId))) :
    Placed F settings caller args (service.withDisk disk) ∧
      ∃ row ∈ (service.withDisk disk).disk.db.versions,
        (caller.bundle args).Has F (pyStr role.name) row ∧
          row.artifactId = artifactId ∧ row.id = versionId := by
  have sound := placed.sound.step (perform_step performed)
  have effect := perform_effect placed.sound.store performed
  have isDb : (service.withDisk disk).disk.db = disk.db := rfl
  generalize disk.db = db at effect isDb
  cases effect with
  | @created _ _ text tenants valid tenantValid fresh freshVersion grantsApart chunksApart =>
      let row := (request.firstVersion settings draw text).row settings draw.version
      obtain ⟨_, inputValid⟩ := CreateRequest.validate_ok valid
      obtain ⟨_, _, _, _, encoded⟩ := validateVersionInput_ok inputValid
      have ofRole : ∀ role', (caller.bundle args).Has F role' row ↔ role' = pyStr role.name := by
        intro role'
        have loaded : loadText row.sourceContext = .ok _ := loadText_json encoded
        rw [Bundle.has_iff loaded, requests.context, ← context_isBundleContext encodable role body]
        exact and_iff_right requests.tenant
      have versions : (service.withDisk disk).disk.db.versions =
          service.disk.db.versions ++ [row] := congrArg Database.versions isDb
      refine ⟨placed.added sound missing versions ?_ ofRole ?_, row, ?_, (ofRole _).mpr rfl, rfl, rfl⟩
      · intro artifact inside
        have other : artifact.id ≠ row.artifactId := fresh artifact inside
        rw [isDb]
        apply addVersion_other _ (List.mem_append_left _ inside)
        unfold isTarget
        rw [decide_eq_false other, Bool.false_and]
      · refine ⟨{ request.artifactRow settings draw with
          currentVersionId := some row.id, mediaType := row.mediaType }, ?_, ?_⟩
        · have target : isTarget row (request.artifactRow settings draw) = true :=
            Bool.and_eq_true_iff.mpr ⟨decide_eq_true rfl, decide_eq_true rfl⟩
          rw [isDb]
          exact addVersion_target _ (List.mem_append_right _ (List.mem_singleton_self _)) target
        · refine ⟨rfl, requests.tenant, congrArg some requests.actor, rfl, requests.name, ?_⟩
          change resolveType settings request.mediaType request.name = role.mediaType
          rw [requests.mediaType, resolveType_role]
      · rw [versions]
        exact List.mem_append_right _ (List.mem_singleton_self _)

end Placed

end FolioLattice.Recipe
