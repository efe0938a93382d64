/-
Runs of the recipe one after another, each of which may be cut off: they place one artifact of
each role, and those that return name the same artifacts, versions and links.
-/

import FolioLattice.Recipe.Placed
import FolioLattice.Store.SearchSound

namespace FolioLattice.Recipe

open FolioLattice.Text FolioLattice.Data FolioLattice.Store FolioLattice.Concurrency
  FolioLattice.Relational
open FolioLattice.Effects (except_bind_ok)
open Relation (ReflTransGen)

variable {F : Type} [FloatFormat F] {settings : Settings} {engine : SearchEngine F}
  {caller : Caller} {args : RecipeArguments} {service service' : Service}

/-! ### What the server keeps -/

/-- What every call and every act of others leads to. -/
structure Onward (settings : Settings) (service service' : Service) : Prop where
  sound : ServiceSound settings service'
  grows : Grows service.disk.db service'.disk.db

theorem Onward.trans {service'' : Service} (first : Onward settings service service')
    (second : Onward settings service' service'') : Onward settings service service'' :=
  ⟨second.sound, first.grows.trans second.grows⟩

theorem onward_of_step {event : ServiceEvent F} (sound : ServiceSound settings service)
    (step : ServiceStep settings service event service') : Onward settings service service' :=
  ⟨sound.step step, step_grows sound step⟩

theorem onward_of_others {bundle : Bundle} (sound : ServiceSound settings service)
    (moved : ReflTransGen (bundle.Others F settings) service service') :
    Onward settings service service' := by
  induction moved with
  | refl => exact ⟨sound, .refl _⟩
  | tail _ last ih =>
      obtain ⟨event, step, _⟩ := last
      exact ih.trans (onward_of_step ih.sound step)

theorem onward_of_creates {bundle : Bundle} {request : CreateRequest F}
    {answer : Except CallFailure (CreatedArtifact F)} (sound : ServiceSound settings service)
    (creates : Creates settings (bundle.Others F settings) request service answer service') :
    Onward settings service service' := by
  cases creates with
  | refused draw disk failure performed _ => exact onward_of_step sound (perform_step performed)
  | created draw disk artifactId versionId performed toArtifact toVersion _ =>
      have committed := onward_of_step sound (perform_step performed)
      exact committed.trans (onward_of_others committed.sound (toArtifact.trans toVersion))

theorem onward_of_serve {bundle : Bundle} {call : RecipeCall F}
    {answer : Except CallFailure call.Answer} (sound : ServiceSound settings service)
    (served : serve settings engine caller (bundle.Others F settings) call service answer service') :
    Onward settings service service' := by
  have stays : service' = service → Onward settings service service' := by
    intro same
    rw [same]
    exact ⟨sound, .refl _⟩
  cases call with
  | artifactList name mediaType limit => exact stays served.1
  | artifactRead artifactId versionId =>
      obtain ⟨version, bytes, file, toVersion, toBytes, toFile, toChunks, _⟩ := served
      exact onward_of_others sound (((toVersion.trans toBytes).trans toFile).trans toChunks)
  | artifactCreate name mediaType contentBase64 reason sourceContext =>
      change serveCreate settings caller _ name mediaType contentBase64 reason sourceContext
        service answer service' at served
      unfold serveCreate at served
      split at served
      · exact stays served.1
      · exact onward_of_creates sound served
  | graphLink sourceArtifactId targetArtifactId edgeType =>
      obtain ⟨draw, disk, result, performed, same, _⟩ := served
      rw [same]
      exact onward_of_step sound (perform_step performed)
  | artifactSearch query => exact stays served.1
  | artifactVersions artifactId => exact stays served.1
  | graphTraverse startArtifactId => exact stays served.1

/-- What grows with the tables is kept. -/
theorem keeps_of_grows {bundleId : PyStr} {holds : Database → Prop}
    (mono : ∀ db db', Grows db db' → holds db → holds db') :
    (recipeServer settings engine caller bundleId).Keeps
      (fun service => ServiceSound settings service ∧ holds service.disk.db) where
  serve call service answer service' both served := by
    have onward := onward_of_serve both.1 served
    exact ⟨onward.sound, mono _ _ onward.grows both.2⟩
  others service service' both moved := by
    have onward := onward_of_others both.1 (.single moved)
    exact ⟨onward.sound, mono _ _ onward.grows both.2⟩

/-- The asset has the ids of a version of its role. -/
def Names (F : Type) [FloatFormat F] (caller : Caller) (args : RecipeArguments)
    (asset : BundleAsset) (db : Database) : Prop :=
  ∃ row ∈ db.versions, (caller.bundle args).Has F (pyStr asset.role.name) row ∧
    asset.artifactId = row.artifactId ∧ asset.versionId = row.id

theorem Names.grows {asset : BundleAsset} {db db' : Database} (grows : Grows db db')
    (names : Names F caller args asset db) : Names F caller args asset db' := by
  obtain ⟨row, member, has, ids⟩ := names
  exact ⟨row, grows.versions row member, has, ids⟩

/-- The id is that of the link from the one asset to the other. -/
def LinksTo (caller : Caller) (html target : BundleAsset) (linkId : String) (db : Database) : Prop :=
  ∃ edge ∈ db.edges, edge.id = linkId ∧
    edge.linkKey = (caller.tenantId, html.artifactId, target.artifactId, referencesType)

theorem LinksTo.grows {html target : BundleAsset} {linkId : String} {db db' : Database}
    (grows : Grows db db') (links : LinksTo caller html target linkId db) :
    LinksTo caller html target linkId db' := by
  obtain ⟨edge, member, isLink⟩ := links
  exact ⟨edge, grows.edges edge member, isLink⟩

/-! ### One asset -/

/-- What the candidates that are left and the matches so far say of the role. -/
structure Searched (F : Type) [FloatFormat F] (settings : Settings) (caller : Caller)
    (args : RecipeArguments) (role : AssetRole) (full : Prop) (rest : List ArtifactListItem)
    (found : List BundleAsset) (service : Service) : Prop where
  placed : Placed F settings caller args service
  covered : ∀ row ∈ service.disk.db.versions, (caller.bundle args).Has F (pyStr role.name) row →
    (∃ item ∈ rest, item.id = row.artifactId) ∨ found ≠ [] ∨ full
  named : ∀ asset ∈ found, asset.role = role ∧ Names F caller args asset service.disk.db

section Ensure

variable {role : AssetRole} {full : Prop} {rest : List ArtifactListItem} {found : List BundleAsset}

theorem Searched.later (searched : Searched F settings caller args role full rest found service)
    (later : Later F settings caller args service service') :
    Searched F settings caller args role full rest found service' where
  placed := later.placed
  covered row member has := searched.covered row (later.gained _ row member has) has
  named asset member := ⟨(searched.named asset member).1,
    (searched.named asset member).2.grows later.grows⟩

theorem text_ok {value field result : String} (checked : text value field = .ok result) :
    result = value := by
  unfold text at checked
  split at checked
  · cases checked
  · exact (Except.ok.inj checked).symm

omit [FloatFormat F] in
theorem asset_ok {artifact : ArtifactView} {version : VersionView F} {result : BundleAsset}
    (made : asset artifact version role = .ok result) :
    result.role = role ∧ result.artifactId = artifact.id ∧ result.versionId = version.id := by
  obtain ⟨artifactId, isArtifact, made⟩ := except_bind_ok made
  obtain ⟨versionId, isVersion, made⟩ := except_bind_ok made
  obtain ⟨name, _, made⟩ := except_bind_ok made
  obtain ⟨mediaType, _, made⟩ := except_bind_ok made
  rw [← Except.ok.inj made]
  exact ⟨rfl, text_ok isArtifact, text_ok isVersion⟩

theorem sent_ok {tool result : String} {given : PyStr} (carried : sent tool given = .ok result) :
    ∃ chars, charsOf given = some chars ∧ result = String.ofList chars := by
  unfold sent at carried
  split at carried
  · rename_i chars isChars
    exact ⟨chars, isChars, (Except.ok.inj carried).symm⟩
  · cases carried

/-- A read of the first candidate decides whether it has the version of the role. -/
theorem Searched.read {candidate : ArtifactListItem}
    (searched : Searched F settings caller args role full (candidate :: rest) found service)
    {answer : Except CallFailure (ArtifactContent F)}
    (served : (recipeServer settings engine caller args.bundleId).serve
      (.artifactRead candidate.id none) service answer service') :
    Placed F settings caller args service' ∧ ∀ content, answer = .ok content →
      if isBundleContext args.bundleId (pyStr role.name) content.version.sourceContext then
        Searched F settings caller args role full (candidate :: rest) found service' ∧
          ∃ row ∈ service'.disk.db.versions, (caller.bundle args).Has F (pyStr role.name) row ∧
            content.artifact.id = row.artifactId ∧ content.version.id = row.id
      else Searched F settings caller args role full rest found service' := by
  obtain ⟨version, bytes, file, toVersion, toBytes, toFile, toChunks, answers⟩ := served
  have described := searched.placed.later toVersion
  have ended := described.placed.later ((toBytes.trans toFile).trans toChunks)
  refine ⟨ended.placed, ?_⟩
  intro content isContent
  have shown := searched.placed.read described (answers.value isContent) (pyStr role.name)
  have whole := searched.later (described.trans ended)
  split at shown
  · rename_i isContext
    rw [if_pos isContext]
    obtain ⟨row, member, has, ids⟩ := shown
    exact ⟨whole, row, ended.grows.versions row member, has, ids⟩
  · rename_i other
    rw [if_neg other]
    refine ⟨whole.placed, ?_, whole.named⟩
    intro row member has
    rcases whole.covered row member has with ⟨item, inside, same⟩ | done
    · rcases List.mem_cons.mp inside with first | later
      · rw [first] at same
        exact absurd same.symm (shown row (ended.gained _ row member has) has)
      · exact Or.inl ⟨item, later, same⟩
    · exact Or.inr done

theorem findMatches_meets {expectedHash : Digest} {completed : List BundleAsset}
    (searched : Searched F settings caller args role full rest found service) :
    (findMatches args.bundleId role expectedHash completed rest found).Meets
      (recipeServer settings engine caller args.bundleId) (Placed F settings caller args)
      (fun result service => Searched F settings caller args role full [] result service)
      service := by
  induction rest generalizing found service with
  | nil => exact ⟨searched.placed, searched⟩
  | cons candidate rest ih =>
      unfold findMatches
      apply Client.Meets.check searched.placed
      intro candidateId checked
      rw [text_ok checked]
      refine Client.Meets.bind (.request _ searched (fun _ here => here.placed)
        (fun _ _ here moved => here.later (here.placed.others moved))
        (fun _ _ _ here served => here.read served)) ?_
      intro content service placed read
      split
      · rename_i isContext
        rw [if_pos isContext] at read
        obtain ⟨searched, row, member, has, isArtifact, isVersion⟩ := read
        apply Client.Meets.check placed
        intro _ _
        apply Client.Meets.check placed
        intro match' made
        obtain ⟨isRole, sameArtifact, sameVersion⟩ := asset_ok made
        apply ih
        refine ⟨placed, ?_, ?_⟩
        · intro _ _ _
          exact Or.inr (Or.inl (List.append_ne_nil_of_right_ne_nil _ (List.cons_ne_nil _ _)))
        · intro asset inside
          rcases List.mem_append.mp inside with before | new
          · exact searched.named asset before
          · rw [List.mem_singleton.mp new]
            exact ⟨isRole, row, member, isRole ▸ has, sameArtifact.trans isArtifact,
              sameVersion.trans isVersion⟩
      · rename_i other
        rw [if_neg other] at read
        exact ih read

/-- A creation that the bundle lacks: what the server does, and what it answers. -/
theorem Placed.creates (placed : Placed F settings caller args service) {body : Bytes}
    {request : CreateRequest F} {chars : List Char} (encodable : charsOf args.bundleId = some chars)
    (requests : Requests caller args role body request)
    (missing : ∀ old ∈ service.disk.db.versions,
      ¬(caller.bundle args).Has F (pyStr role.name) old)
    {answer : Except CallFailure (CreatedArtifact F)}
    (creates : Creates settings ((caller.bundle args).Others F settings) request service answer
      service') :
    Placed F settings caller args service' ∧ ∀ created, answer = .ok created →
      ∃ row ∈ service'.disk.db.versions, (caller.bundle args).Has F (pyStr role.name) row ∧
        created.artifact.id = row.artifactId ∧ created.version.id = row.id := by
  cases creates with
  | refused draw disk failure performed answers =>
      refine ⟨placed.failed performed, fun created isOk => ?_⟩
      cases answers.value isOk
  | created draw disk artifactId versionId performed toArtifact toVersion answers =>
      obtain ⟨committed, row, member, has, sameArtifact, sameVersion⟩ :=
        placed.created encodable requests missing performed
      have ended := committed.later (toArtifact.trans toVersion)
      refine ⟨ended.placed, fun created isOk => ?_⟩
      obtain ⟨artifact, shown, rest⟩ := except_bind_ok (answers.value isOk)
      obtain ⟨version, described, same⟩ := except_bind_ok rest
      obtain ⟨_, _, isArtifact, _, isView⟩ := getArtifact_ok shown
      obtain ⟨_, _, isVersion, _, _, viewed⟩ := versionMetadata_ok described
      refine ⟨row, ended.grows.versions row member, has, ?_, ?_⟩
      · rw [← Except.ok.inj same, ← isView, sameArtifact]
        exact isArtifact
      · rw [← Except.ok.inj same, (versionView_ok viewed).1, sameVersion]
        exact Option.some.inj isVersion

/-- The role has no version. -/
structure Missing (F : Type) [FloatFormat F] (settings : Settings) (caller : Caller)
    (args : RecipeArguments) (role : AssetRole) (service : Service) : Prop where
  placed : Placed F settings caller args service
  missing : ∀ row ∈ service.disk.db.versions, ¬(caller.bundle args).Has F (pyStr role.name) row

theorem createAsset_meets {body : Bytes} (missing : Missing F settings caller args role service) :
    (createAsset args.bundleId role (args.name role) body : RecipeClient F BundleAsset).Meets
      (recipeServer settings engine caller args.bundleId) (Placed F settings caller args)
      (fun asset service => asset.role = role ∧ Names F caller args asset service.disk.db)
      service := by
  unfold createAsset
  apply Client.Meets.check missing.placed
  intro name carried
  obtain ⟨nameChars, isName, sameName⟩ := sent_ok carried
  apply Client.Meets.check missing.placed
  intro _ carried
  obtain ⟨chars, encodable, _⟩ := sent_ok carried
  refine Client.Meets.bind (.request (fun created service =>
    ∃ row ∈ service.disk.db.versions, (caller.bundle args).Has F (pyStr role.name) row ∧
      created.artifact.id = row.artifactId ∧ created.version.id = row.id)
    missing (fun _ here => here.placed) ?_ ?_) ?_
  · intro service service' here moved
    have later := here.placed.others moved
    exact ⟨later.placed, fun row member has => here.missing row (later.gained _ row member has) has⟩
  · intro service answer service' here served
    change serveCreate settings caller _ name role.mediaType _ _ _ service answer service' at served
    unfold serveCreate at served
    rw [String.toList_ofList, b64decode_b64encode] at served
    refine here.placed.creates encodable ⟨rfl, rfl, ?_, rfl, rfl⟩ here.missing served
    change pyStr name = args.name role
    rw [sameName, ← charsOf_some isName]
    unfold pyStr
    rw [String.toList_ofList]
  · rintro created service placed ⟨row, member, has, sameArtifact, sameVersion⟩
    apply Client.Meets.ofExcept placed
    intro asset made
    obtain ⟨isRole, isArtifact, isVersion⟩ := asset_ok made
    exact ⟨isRole, row, member, isRole ▸ has, isArtifact.trans sameArtifact,
      isVersion.trans sameVersion⟩

theorem ensure_meets (role : AssetRole) {body : Bytes} {completed : List BundleAsset}
    (placed : Placed F settings caller args service) :
    (ensure args.bundleId role (args.name role) body completed : RecipeClient F BundleAsset).Meets
      (recipeServer settings engine caller args.bundleId) (Placed F settings caller args)
      (fun asset service => asset.role = role ∧ Names F caller args asset service.disk.db)
      service := by
  unfold ensure
  apply Client.Meets.check placed
  intro name carried
  obtain ⟨chars, isName, sameName⟩ := sent_ok carried
  refine Client.Meets.bind (.request (fun items service => Searched F settings caller args
    role (maxIdempotencyCandidates ≤ items.length) items [] service) placed (fun _ here => here)
    (fun _ _ here moved => (here.others moved).placed) ?_) ?_
  · intro service answer service' here served
    obtain ⟨same, answers⟩ := served
    rw [same]
    refine ⟨here, fun items isOk => ⟨here, ?_, List.forall_mem_nil _⟩⟩
    intro row member has
    have listed := answers.value isOk
    rw [sameName] at listed
    rcases here.listed isName listed member has with found | full
    · exact Or.inl found
    · exact Or.inr (Or.inr full)
  · intro items service _ searched
    refine Client.Meets.bind (findMatches_meets searched) ?_
    intro found service placed searched
    cases found with
    | nil =>
        dsimp only
        split
        · exact placed
        · rename_i notFull
          apply createAsset_meets
          refine ⟨placed, fun row member has => ?_⟩
          rcases searched.covered row member has with ⟨_, inside, _⟩ | nonempty | full
          · cases inside
          · exact nonempty rfl
          · exact notFull full
    | cons first rest =>
        cases rest with
        | nil => exact ⟨placed, searched.named first (List.mem_singleton_self _)⟩
        | cons second rest => exact placed

end Ensure

/-! ### The recipe -/

/-- The assets are those of the three roles. -/
structure NamesAll (F : Type) [FloatFormat F] (caller : Caller) (args : RecipeArguments)
    (css javascript html : BundleAsset) (db : Database) : Prop where
  css : css.role = .css ∧ Names F caller args css db
  javascript : javascript.role = .js ∧ Names F caller args javascript db
  html : html.role = .html ∧ Names F caller args html db

theorem NamesAll.grows {css javascript html : BundleAsset} {db db' : Database}
    (grows : Grows db db') (names : NamesAll F caller args css javascript html db) :
    NamesAll F caller args css javascript html db' where
  css := ⟨names.css.1, names.css.2.grows grows⟩
  javascript := ⟨names.javascript.1, names.javascript.2.grows grows⟩
  html := ⟨names.html.1, names.html.2.grows grows⟩

/-- The ids of the result are those of the three assets and of the two links. -/
def NamesResult (caller : Caller) (args : RecipeArguments) (result : AgentRecipeResult F)
    (db : Database) : Prop :=
  ∃ css javascript html cssLink jsLink, NamesAll F caller args css javascript html db ∧
    LinksTo caller html css cssLink db ∧ LinksTo caller html javascript jsLink db ∧
    result.artifactIds = [(.html, html.artifactId), (.css, css.artifactId),
      (.js, javascript.artifactId)] ∧
    result.versionIds = [(.html, html.versionId), (.css, css.versionId),
      (.js, javascript.versionId)] ∧
    result.linkIds = [cssLink, jsLink]

theorem NamesResult.grows {result : AgentRecipeResult F} {db db' : Database}
    (grows : Grows db db') (names : NamesResult caller args result db) :
    NamesResult caller args result db' := by
  obtain ⟨css, javascript, html, cssLink, jsLink, all, toCss, toJs, ids⟩ := names
  exact ⟨css, javascript, html, cssLink, jsLink, all.grows grows, toCss.grows grows,
    toJs.grows grows, ids⟩

section Recipe

variable {α : Type} {client : RecipeClient F α} {after : α → Service → Prop}

/-- What grows with the tables is still there after a part of the recipe. -/
theorem meets_with {holds : Database → Prop}
    (meets : client.Meets (recipeServer settings engine caller args.bundleId)
      (Placed F settings caller args) after service)
    (mono : ∀ db db', Grows db db' → holds db → holds db') (here : holds service.disk.db) :
    client.Meets (recipeServer settings engine caller args.bundleId) (Placed F settings caller args)
      (fun value service => after value service ∧ holds service.disk.db) service :=
  (meets.frame (keeps_of_grows mono) ⟨meets.here.sound, here⟩).mono
    (fun _ _ _ both => ⟨both.1, both.2.2⟩)

theorem ensureAssets_meets (placed : Placed F settings caller args service) :
    (ensureAssets args : RecipeClient F (BundleAsset × BundleAsset × BundleAsset)).Meets
      (recipeServer settings engine caller args.bundleId) (Placed F settings caller args)
      (fun assets service =>
        NamesAll F caller args assets.1 assets.2.1 assets.2.2 service.disk.db) service := by
  unfold ensureAssets
  refine Client.Meets.bind (ensure_meets .css placed) ?_
  intro css service placed isCss
  have cssKept : ∀ db db', Grows db db' → css.role = .css ∧ Names F caller args css db →
      css.role = .css ∧ Names F caller args css db' :=
    fun _ _ grows both => ⟨both.1, both.2.grows grows⟩
  refine Client.Meets.bind (meets_with (ensure_meets .js placed) cssKept isCss) ?_
  intro javascript service placed both
  apply Client.Meets.check placed
  intro htmlBody _
  have bothKept : ∀ db db', Grows db db' →
      ((javascript.role = .js ∧ Names F caller args javascript db) ∧
        css.role = .css ∧ Names F caller args css db) →
      (javascript.role = .js ∧ Names F caller args javascript db') ∧
        css.role = .css ∧ Names F caller args css db' :=
    fun _ _ grows both => ⟨⟨both.1.1, both.1.2.grows grows⟩, both.2.1, both.2.2.grows grows⟩
  refine Client.Meets.bind (meets_with (ensure_meets .html placed) bothKept both) ?_
  intro html service placed all
  exact ⟨placed, all.2.2, all.2.1, all.1⟩

theorem linkAsset_meets {html target : BundleAsset} (placed : Placed F settings caller args service) :
    (linkAsset html target : RecipeClient F (EdgeView F)).Meets
      (recipeServer settings engine caller args.bundleId) (Placed F settings caller args)
      (fun link service => LinksTo caller html target link.id service.disk.db) service := by
  refine .request _ placed (fun _ here => here) (fun _ _ here moved => (here.others moved).placed) ?_
  intro service answer service' here served
  obtain ⟨draw, disk, result, performed, same, answers⟩ := served
  rw [same]
  refine ⟨here.linked performed, fun link isOk => ?_⟩
  obtain ⟨edge, member, joins, sameId⟩ := linkShown_ok performed (answers.value isOk)
  exact ⟨edge, member, sameId.symm, joins⟩

/-- The calls that write nothing. -/
def readOnly : RecipeCall F → Bool
  | .artifactCreate _ _ _ _ _ => false
  | .graphLink _ _ _ => false
  | _ => true

theorem Placed.readOnly (placed : Placed F settings caller args service) {call : RecipeCall F}
    {answer : Except CallFailure call.Answer} (quiet : Recipe.readOnly call = true)
    (served : (recipeServer settings engine caller args.bundleId).serve call service answer
      service') : Placed F settings caller args service' := by
  have stays : service' = service → Placed F settings caller args service' := fun same =>
    same ▸ placed
  cases call with
  | artifactList name mediaType limit => exact stays served.1
  | artifactRead artifactId versionId =>
      obtain ⟨version, bytes, file, toVersion, toBytes, toFile, toChunks, _⟩ := served
      exact (placed.later (((toVersion.trans toBytes).trans toFile).trans toChunks)).placed
  | artifactCreate name mediaType contentBase64 reason sourceContext => cases quiet
  | graphLink sourceArtifactId targetArtifactId edgeType => cases quiet
  | artifactSearch query => exact stays served.1
  | artifactVersions artifactId => exact stays served.1
  | graphTraverse startArtifactId => exact stays served.1

/-- A call that writes nothing, before the rest of the recipe. -/
theorem readOnly_meets {holds : Database → Prop} {call : RecipeCall F}
    {following : call.Answer → RecipeClient F α} (quiet : Recipe.readOnly call = true)
    (mono : ∀ db db', Grows db db' → holds db → holds db')
    (placed : Placed F settings caller args service) (here : holds service.disk.db)
    (rest : ∀ answer service, Placed F settings caller args service → holds service.disk.db →
      (following answer).Meets (recipeServer settings engine caller args.bundleId)
        (Placed F settings caller args) after service) :
    (callTool call >>= following).Meets (recipeServer settings engine caller args.bundleId)
      (Placed F settings caller args) after service := by
  have called : (callTool call).Meets (recipeServer settings engine caller args.bundleId)
      (Placed F settings caller args) (fun _ _ => True) service :=
    .request _ placed (fun _ here => here) (fun _ _ here moved => (here.others moved).placed)
      (fun _ _ _ here served => ⟨here.readOnly quiet served, fun _ _ => trivial⟩)
  exact (meets_with called mono here).bind (fun answer service placed both =>
    rest answer service placed both.2)

omit [FloatFormat F] in
theorem linkIds_ok {left right : EdgeView F} {linkIds : List String}
    (checked : [left, right].mapM (fun link => text link.id "link.id") = .ok linkIds) :
    linkIds = [left.id, right.id] := by
  rw [List.mapM_cons, List.mapM_cons, List.mapM_nil] at checked
  obtain ⟨first, isFirst, checked⟩ := except_bind_ok checked
  obtain ⟨others, rest, same⟩ := except_bind_ok checked
  obtain ⟨second, isSecond, last⟩ := except_bind_ok rest
  rw [← Except.ok.inj same, ← Except.ok.inj last, text_ok isFirst, text_ok isSecond]

theorem runRecipe_meets (placed : Placed F settings caller args service) :
    (runRecipe args : RecipeClient F (AgentRecipeResult F)).Meets
      (recipeServer settings engine caller args.bundleId) (Placed F settings caller args)
      (fun result service => NamesResult caller args result service.disk.db) service := by
  unfold runRecipe
  apply Client.Meets.check placed
  intro _ _
  refine Client.Meets.bind (ensureAssets_meets placed) ?_
  rintro ⟨css, javascript, html⟩ service placed all
  dsimp only at all ⊢
  refine Client.Meets.bind (meets_with (linkAsset_meets placed)
    (fun _ _ grows (names : NamesAll F caller args css javascript html _) => names.grows grows) all) ?_
  intro cssLink service placed linked
  let Linked : Database → Prop := fun db =>
    LinksTo caller html css cssLink.id db ∧ NamesAll F caller args css javascript html db
  have linkedKept : ∀ db db', Grows db db' → Linked db → Linked db' :=
    fun _ _ grows both => ⟨both.1.grows grows, both.2.grows grows⟩
  refine Client.Meets.bind (meets_with (linkAsset_meets placed) linkedKept linked) ?_
  intro jsLink service placed linked
  let Done : Database → Prop := fun db => LinksTo caller html javascript jsLink.id db ∧ Linked db
  have kept : ∀ db db', Grows db db' → Done db → Done db' :=
    fun db db' grows both => ⟨both.1.grows grows, linkedKept db db' grows both.2⟩
  refine readOnly_meets rfl kept placed linked ?_
  intro nameSearch service placed done
  refine readOnly_meets rfl kept placed done ?_
  intro typeSearch service placed done
  refine readOnly_meets rfl kept placed done ?_
  intro read service placed done
  refine readOnly_meets rfl kept placed done ?_
  intro versions service placed done
  refine readOnly_meets rfl kept placed done ?_
  intro traversal service placed done
  apply Client.Meets.check placed
  intro assets _
  apply Client.Meets.check placed
  intro linkIds checked
  obtain ⟨toJs, toCss, all⟩ := done
  refine ⟨placed, css, javascript, html, cssLink.id, jsLink.id, all, toCss, toJs, ?_, ?_,
    linkIds_ok checked⟩
  · change [(html.role, html.artifactId), (css.role, css.artifactId),
      (javascript.role, javascript.artifactId)] = _
    rw [all.html.1, all.css.1, all.javascript.1]
  · change [(html.role, html.versionId), (css.role, css.versionId),
      (javascript.role, javascript.versionId)] = _
    rw [all.html.1, all.css.1, all.javascript.1]

end Recipe

/-! ### Histories -/

/-- The artifact has a version of this role of the bundle. -/
def Bundle.HasArtifact (F : Type) [FloatFormat F] (bundle : Bundle) (role : PyStr) (db : Database)
    (artifact : ArtifactRow) : Prop :=
  artifact ∈ db.artifacts ∧ ∃ row ∈ db.versions, ofArtifact artifact row = true ∧
    bundle.Has F role row

/-- The bundle is there once: one artifact of each role, and one link from its page to each. -/
structure Bundle.Once (F : Type) [FloatFormat F] (bundle : Bundle) (db : Database) : Prop where
  artifacts : ∀ role artifact artifact', bundle.HasArtifact F role db artifact →
    bundle.HasArtifact F role db artifact' → artifact = artifact'
  links : ∀ html, bundle.HasArtifact F (pyStr AssetRole.html.name) db html →
    ∀ role target, bundle.HasArtifact F role db target →
    ∀ edge ∈ db.edges, ∀ edge' ∈ db.edges,
      edge.sourceArtifactId = html.id → edge'.sourceArtifactId = html.id →
      edge.targetArtifactId = target.id → edge'.targetArtifactId = target.id →
      edge.edgeType = referencesType → edge'.edgeType = referencesType → edge = edge'

/-- The two results name the same artifacts, versions and links. -/
structure SameIds (result result' : AgentRecipeResult F) : Prop where
  artifactIds : result.artifactIds = result'.artifactIds
  versionIds : result.versionIds = result'.versionIds
  linkIds : result.linkIds = result'.linkIds

theorem Placed.once (placed : Placed F settings caller args service) :
    (caller.bundle args).Once F service.disk.db where
  artifacts role artifact artifact' has has' := by
    obtain ⟨inside, row, member, home, isRole⟩ := has
    obtain ⟨inside', row', member', home', isRole'⟩ := has'
    have same := placed.oneEach role row member row' member' isRole isRole'
    apply placed.sound.store.versions.artifactIds.eq inside inside'
    rw [← (ofArtifact_iff.mp home).1, ← (ofArtifact_iff.mp home').1, same]
  links html _ role target _ edge member edge' member' source source' isTarget isTarget' isType
      isType' := by
    -- the tenant of an edge is that of the artifact that it starts at
    have edges := placed.sound.store.edges
    obtain ⟨start, inside, isStart, ofTenant⟩ := edges.sources edge member
    obtain ⟨start', inside', isStart', ofTenant'⟩ := edges.sources edge' member'
    have one : start = start' := placed.sound.store.versions.artifactIds.eq inside inside'
      (by rw [isStart, isStart', source, source'])
    apply edges.linkKeys.eq member member'
    unfold EdgeRow.linkKey
    rw [← ofTenant, ← ofTenant', one, source, source', isTarget, isTarget', isType, isType']

theorem Names.eq (placed : Placed F settings caller args service) {asset asset' : BundleAsset}
    (sameRole : asset.role = asset'.role) (names : Names F caller args asset service.disk.db)
    (names' : Names F caller args asset' service.disk.db) :
    asset.artifactId = asset'.artifactId ∧ asset.versionId = asset'.versionId := by
  obtain ⟨row, member, has, isArtifact, isVersion⟩ := names
  obtain ⟨row', member', has', isArtifact', isVersion'⟩ := names'
  rw [← sameRole] at has'
  have same := placed.oneEach _ row member row' member' has has'
  rw [isArtifact, isVersion, isArtifact', isVersion', same]
  exact ⟨rfl, rfl⟩

theorem NamesResult.sameIds (placed : Placed F settings caller args service)
    {result result' : AgentRecipeResult F} (names : NamesResult caller args result service.disk.db)
    (names' : NamesResult caller args result' service.disk.db) : SameIds result result' := by
  obtain ⟨css, javascript, html, cssLink, jsLink, all, toCss, toJs, artifacts, versions, links⟩ :=
    names
  obtain ⟨css', javascript', html', cssLink', jsLink', all', toCss', toJs', artifacts', versions',
    links'⟩ := names'
  have sameCss := all.css.2.eq placed (all.css.1.trans all'.css.1.symm) all'.css.2
  have sameJs := all.javascript.2.eq placed (all.javascript.1.trans all'.javascript.1.symm)
    all'.javascript.2
  have sameHtml := all.html.2.eq placed (all.html.1.trans all'.html.1.symm) all'.html.2
  have linkKeys := placed.sound.store.edges.linkKeys
  have sameCssLink : cssLink = cssLink' := by
    obtain ⟨edge, member, isLink, joins⟩ := toCss
    obtain ⟨edge', member', isLink', joins'⟩ := toCss'
    rw [← isLink, ← isLink', linkKeys.eq member member' (by
      rw [joins, joins', sameHtml.1, sameCss.1])]
  have sameJsLink : jsLink = jsLink' := by
    obtain ⟨edge, member, isLink, joins⟩ := toJs
    obtain ⟨edge', member', isLink', joins'⟩ := toJs'
    rw [← isLink, ← isLink', linkKeys.eq member member' (by
      rw [joins, joins', sameHtml.1, sameJs.1])]
  constructor
  · rw [artifacts, artifacts', sameHtml.1, sameCss.1, sameJs.1]
  · rw [versions, versions', sameHtml.2, sameCss.2, sameJs.2]
  · rw [links, links', sameCssLink, sameJsLink]

/-! ### A caller alone -/

theorem perform_create_reply {draw : CreateDraw} {request : CreateRequest F} {disk disk' : Disk}
    {answer : Reply} (done : perform settings (.create draw request) disk = (disk', .ok answer)) :
    ∃ artifactId versionId, answer = .created artifactId versionId := by
  unfold perform at done
  rcases commit_cases disk ((Call.create draw request).body settings disk) with
    ⟨db, value, yields, committed⟩ | ⟨e, _, failed⟩
  · rw [committed] at done
    obtain ⟨_, _, replied⟩ := checked_ok yields
    obtain ⟨ids, _, isReply⟩ := reply_ok replied
    exact ⟨ids.1, ids.2, (Except.ok.inj (Prod.mk.inj done).2).symm.trans isReply⟩
  · rw [failed] at done
    cases (Prod.mk.inj done).2

section Alone

variable (settings engine caller)

/-- An error is shown without a text. -/
def answered {α : Type} : Except Failure α → Except CallFailure α
  | .ok value => .ok value
  | .error _ => .error (.rejected [])

theorem answered_answers {α : Type} (result : Except Failure α) :
    Answers result (answered result) := by
  cases result with
  | ok value => exact .ok value
  | error failure => exact .error failure []

-- the id that is drawn when there are so many rows
variable (drawn : Nat → Uuid)

def respondCreate (request : CreateRequest F) (service : Service) :
    Except CallFailure (CreatedArtifact F) × Service :=
  let draw := CreateDraw.epoch (drawn service.disk.db.artifacts.length)
  match perform settings (.create draw request) service.disk with
  | (disk, .ok (.created artifactId versionId)) =>
      (answered (do
        let artifact ← getArtifact disk.db request.tenantId artifactId (some request.actor)
        let version ← versionMetadata disk.db request.tenantId (some versionId) (some request.actor)
        .ok ⟨artifact, version⟩), service.withDisk disk)
  | (disk, .ok _) => (.error .transport, service.withDisk disk)
  | (disk, .error failure) => (answered (.error failure), service.withDisk disk)

/-- What the server does and answers where no other uses it. -/
def respond : (call : RecipeCall F) → Service → Except CallFailure call.Answer × Service
  | .artifactList name mediaType limit, service =>
      (answered (listArtifacts service.disk.db caller.tenantId limit caller.policyActor
        { name := some name, mediaType := some mediaType }), service)
  | .artifactRead artifactId versionId, service =>
      (answered (readArtifact (ReadSnapshots.of service.disk) caller.tenantId artifactId versionId
        caller.policyActor), service)
  | .artifactCreate name mediaType contentBase64 reason sourceContext, service =>
      match b64decode contentBase64.toList with
      | none => (answered (.error invalidBase64), service)
      | some data =>
          respondCreate settings drawn {
            tenantId := caller.tenantId
            name := name
            data := data
            mediaType := some mediaType
            actor := caller.actor
            reason := reason
            sourceContext := sourceContext } service
  | .graphLink sourceArtifactId targetArtifactId edgeType, service =>
      let done := perform settings (.link ⟨drawn service.disk.db.edges.length, Timestamp.epoch⟩
        (F := F) {
          tenantId := caller.tenantId
          sourceArtifactId := sourceArtifactId
          targetArtifactId := targetArtifactId
          edgeType := edgeType
          actor := caller.policyActor }) service.disk
      (answered (linkShown done.2), service.withDisk done.1)
  | .artifactSearch query, service =>
      (answered (search engine service.disk.db caller.tenantId query 20 caller.policyActor none
        none), service)
  | .artifactVersions artifactId, service =>
      (answered (versions service.disk.db caller.tenantId artifactId 100 caller.policyActor),
        service)
  | .graphTraverse startArtifactId, service =>
      (answered (traverse service.disk.db caller.tenantId startArtifactId 2 100 caller.policyActor),
        service)

/-- A run that is cut off after so many calls. -/
def runFor {α : Type} : Nat → RecipeClient F α → Service → Ending RecipeFailure α × Service
  | 0, _, service => (.cutOff, service)
  | _ + 1, .ret value, service => (.returned value, service)
  | _ + 1, .raise error, service => (.raised error, service)
  | calls + 1, .call op next, service =>
      let done := respond settings engine caller drawn op service
      runFor calls (next done.1) done.2

theorem respondCreate_creates (others : Service → Service → Prop) (request : CreateRequest F)
    (service : Service) :
    Creates settings others request service (respondCreate settings drawn request service).1
      (respondCreate settings drawn request service).2 := by
  unfold respondCreate
  dsimp only
  split
  · rename_i disk artifactId versionId performed
    exact .created _ disk artifactId versionId performed .refl .refl (answered_answers _)
  · rename_i disk other notCreated performed
    obtain ⟨artifactId, versionId, same⟩ := perform_create_reply performed
    exact absurd (same ▸ rfl) (notCreated artifactId versionId)
  · rename_i disk failure performed
    exact .refused _ disk failure performed (answered_answers _)

theorem respond_serves {others : Service → Service → Prop} (call : RecipeCall F)
    (service : Service) :
    serve settings engine caller others call service
      (respond settings engine caller drawn call service).1
      (respond settings engine caller drawn call service).2 := by
  cases call with
  | artifactList name mediaType limit => exact ⟨rfl, answered_answers _⟩
  | artifactRead artifactId versionId =>
      exact ⟨service, service, service, .refl, .refl, .refl, .refl, answered_answers _⟩
  | artifactCreate name mediaType contentBase64 reason sourceContext =>
      change serveCreate settings caller others name mediaType contentBase64 reason sourceContext
        service _ _
      unfold serveCreate respond
      dsimp only
      cases b64decode contentBase64.toList with
      | none => exact ⟨rfl, answered_answers _⟩
      | some data => exact respondCreate_creates settings drawn others _ service
  | graphLink sourceArtifactId targetArtifactId edgeType =>
      exact ⟨_, _, _, rfl, rfl, answered_answers _⟩
  | artifactSearch query => exact ⟨rfl, answered_answers _⟩
  | artifactVersions artifactId => exact ⟨rfl, answered_answers _⟩
  | graphTraverse startArtifactId => exact ⟨rfl, answered_answers _⟩

theorem runFor_runs {α : Type} (bundleId : PyStr) (calls : Nat) (client : RecipeClient F α)
    (service : Service) :
    Runs (recipeServer settings engine caller bundleId) client service
      (runFor settings engine caller drawn calls client service).1
      (runFor settings engine caller drawn calls client service).2 := by
  induction calls generalizing client service with
  | zero => exact .cutOff client
  | succ calls ih =>
      cases client with
      | ret value => exact .ret value
      | raise error => exact .raise error
      | call op next => exact .answered (respond_serves settings engine caller drawn op service) (ih _ _)

end Alone

/-- Where nobody has written the bundle, runs of the recipe that are cut off anywhere place it
once, and all that return name the same artifacts, versions and links. -/
theorem recipe_resumes {start : Service}
    {past : List (Ending RecipeFailure (AgentRecipeResult F))}
    (reachable : ServiceReachable F settings start)
    (unwritten : ∀ role, ∀ row ∈ start.disk.db.versions, ¬(caller.bundle args).Has F role row)
    (history : History (recipeServer settings engine caller args.bundleId) (runRecipe args) start
      past service) :
    (caller.bundle args).Once F service.disk.db ∧
      ∀ result result', .returned result ∈ past → .returned result' ∈ past →
        SameIds result result' := by
  have placed : Placed F settings caller args start :=
    ⟨reachable.sound, fun role row member _ _ has _ => absurd has (unwritten role row member),
      fun role row member has => absurd has (unwritten role row member)⟩
  have meets : ∀ service, Placed F settings caller args service →
      (runRecipe args : RecipeClient F (AgentRecipeResult F)).Meets
        (recipeServer settings engine caller args.bundleId) (Placed F settings caller args)
        (fun result service => ServiceSound settings service ∧
          NamesResult caller args result service.disk.db) service :=
    fun _ placed => (runRecipe_meets placed).mono (fun _ _ placed names => ⟨placed.sound, names⟩)
  obtain ⟨ended, returned⟩ := history.meets (fun _ _ placed moved => (placed.others moved).placed)
    meets (fun _ => keeps_of_grows (fun _ _ grows names => names.grows grows)) placed
  exact ⟨ended.once, fun result result' member member' =>
    (returned result member).2.sameIds ended (returned result' member').2⟩

def placedArguments : RecipeArguments where
  bundleId := pyStr "b"
  renderBaseUrl := pyStr "h"
  cssBody := [1]
  jsBody := [2]

def placedIds : Nat → Uuid
  | 0 => Uuid.nil
  | 1 => Uuid.one
  | _ => ⟨"00000000000000000000000000000002", by decide⟩

def placedRun (calls : Nat) (service : Service) :
    Ending RecipeFailure (AgentRecipeResult Empty) × Service :=
  runFor Settings.standard silentEngine ⟨"t", "a", none, Or.inl rfl⟩ placedIds calls
    (runRecipe placedArguments) service

/-- The first run is cut off when its style sheet is stored, the other two run to their end. -/
theorem recipe_resumes_after_style_sheet :
    let first := placedRun 2 (newService Empty Settings.standard InitializeDraw.epoch)
    let second := placedRun 100 first.2
    let third := placedRun 100 second.2
    first.2.disk.db.versions.length = 1 ∧
      (Caller.bundle ⟨"t", "a", none, Or.inl rfl⟩ placedArguments).Once Empty third.2.disk.db ∧
      ∀ result result', .returned result ∈ [first.1, second.1, third.1] →
        .returned result' ∈ [first.1, second.1, third.1] → SameIds result result' := by
  have runs (calls : Nat) (service : Service) :=
    runFor_runs Settings.standard silentEngine ⟨"t", "a", none, Or.inl rfl⟩ placedIds
      placedArguments.bundleId calls (runRecipe placedArguments) service
  exact ⟨by decide +kernel, recipe_resumes ⟨InitializeDraw.epoch, [], .start⟩
    (fun _ row member => absurd member (List.not_mem_nil))
    (((History.start.run (runs 2 _)).run (runs 100 _)).run (runs 100 _))⟩

end FolioLattice.Recipe
