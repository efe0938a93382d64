/-
The artifact list read page by page, each page from the cursor of the last item of
the one before, while other calls go on.
-/

import FolioLattice.Relational.Keyset
import FolioLattice.Store.Noninterference
import FolioLattice.Store.Readers
import FolioLattice.Store.Texts

namespace FolioLattice.Store

open FolioLattice.Text FolioLattice.Data FolioLattice.Relational FolioLattice.Concurrency
open FolioLattice.Effects (except_bind_ok)

/-! ### Cursors -/

/-- What orders the list: the time and id of each item, the newest first. -/
abbrev ListKey : Type := (String ×ₗ String)ᵒᵈ

def listKeyOf (updatedAt id : String) : ListKey := OrderDual.toDual (toLex (updatedAt, id))

/-- `f"{item['updated_at']}|{item['id']}"` -/
def ArtifactListItem.cursor (item : ArtifactListItem) : String :=
  item.updatedAt.getD "None" ++ "|" ++ item.id

def ArtifactListItem.key (item : ArtifactListItem) : ListKey :=
  listKeyOf (item.updatedAt.getD "None") item.id

/-- The cursor of an item with this key. -/
def cursorText (key : ListKey) : String :=
  (ofLex (OrderDual.ofDual key)).1 ++ "|" ++ (ofLex (OrderDual.ofDual key)).2

/-- A clock reading and a generated id. -/
def Stamped (key : ListKey) : Prop :=
  ∃ (t : Timestamp) (uuid : Uuid), key = listKeyOf t.isoformat (newId "art" uuid)

/-- A cursor made of an item is read back as the item's time and id. -/
theorem parse_cursorText {key : ListKey} (stamped : Stamped key) :
    parseArtifactListCursor (cursorText key) = .ok (ofLex (OrderDual.ofDual key)) := by
  obtain ⟨t, uuid, isKey⟩ := stamped
  subst isKey
  exact parse_newId_cursor t (by decide) (by decide) uuid

/-! ### Times and ids -/

section Stamps

variable {F : Type} [FloatFormat F]

def GeneratedIds (db : Database) : Prop :=
  ∀ artifact ∈ db.artifacts, ∃ uuid, artifact.id = newId "art" uuid

theorem GeneratedIds.congr {db db' : Database} (generated : GeneratedIds db)
    (same : SameOwners db db') : GeneratedIds db' := by
  intro artifact member
  obtain ⟨earlier, inside, identity⟩ := same.symm.kept artifact member
  obtain ⟨uuid, isId⟩ := generated earlier inside
  exact ⟨uuid, (Prod.mk.inj identity).1.symm.trans isId⟩

theorem Effect.generatedIds {settings : Settings} {db db' : Database} {call : Call F}
    {answer : Reply} (effect : Effect settings db call answer db') (generated : GeneratedIds db) :
    GeneratedIds db' := by
  cases effect with
  | @created draw request context tenants _ _ _ _ _ _ =>
      have added : GeneratedIds (db.addArtifact tenants (request.artifactRow settings draw)
          (request.ownerGrants draw)) := by
        intro artifact member
        rcases List.mem_append.mp member with old | new
        · exact generated artifact old
        · rw [List.mem_singleton.mp new]
          exact ⟨draw.artifactId, rfl⟩
      exact added.congr (SameOwners.addVersion _ _ _)
  | written _ _ _ _ _ _ => exact generated.congr (SameOwners.addVersion _ _ _)
  | initialized same _ =>
      intro artifact member
      rw [same.artifacts] at member
      exact generated artifact member
  | _ => exact generated

theorem StoreTrace.generatedIds {settings : Settings} {draw : InitializeDraw}
    {past : List (Disk × Occurrence F)} {disk : Disk}
    (trace : StoreTrace settings draw past disk) : GeneratedIds disk.db := by
  have both : StoreSound disk.db ∧ GeneratedIds disk.db := by
    apply trace.invariant (P := fun disk => StoreSound disk.db ∧ GeneratedIds disk.db)
    · intro disk disk' occurrence holds step
      refine ⟨holds.1.step step, ?_⟩
      rcases storeStep_cases holds.1 step with ⟨call, answer, _, effect⟩ | ⟨_, members, same⟩
      · exact effect.generatedIds holds.2
      · rw [same]
        exact holds.2
    · refine ⟨StoreSound.fresh settings draw, ?_⟩
      intro artifact member
      exact absurd member List.not_mem_nil
  exact both.2

/-- Every artifact is listed under a clock reading and a generated id. -/
theorem StoreTrace.stamped {settings : Settings} {draw : InitializeDraw}
    {past : List (Disk × Occurrence F)} {disk : Disk} (trace : StoreTrace settings draw past disk)
    {artifact : ArtifactRow} (member : artifact ∈ disk.db.artifacts) :
    Stamped (disk.db.listKey artifact) := by
  obtain ⟨version, stored, _, _, _, found⟩ :=
    currentVersion_of_chain (StoreTrace.sound trace).versions member
  obtain ⟨written, _, storedAs⟩ := (StoreTrace.recorded trace).rows version stored
  obtain ⟨uuid, isId⟩ := StoreTrace.generatedIds trace artifact member
  refine ⟨written.createdAt, uuid, ?_⟩
  unfold Database.listKey Database.updatedAt listKeyOf
  rw [found, Option.map_some, Option.getD_some, storedAs.createdAt, isId]

end Stamps

/-! ### One page -/

structure ListRequest where
  tenantId : String
  actor : Option String
  name : Option String := none
  mediaType : Option String := none

def ListRequest.page (request : ListRequest) (db : Database) (limit : Int)
    (cursor : Option String) : Except Failure (List ArtifactListItem) :=
  listArtifacts db request.tenantId limit request.actor
    ⟨request.name, request.mediaType, cursor⟩

/-- The actor and the filters pass the checks of the call. -/
structure ListRequest.Accepted (request : ListRequest) : Prop where
  actor : ∀ actor, request.actor = some actor → ValidText actor maxNameLength
  name : ∀ name, request.name = some name → ValidText name maxNameLength
  mediaType : ∀ type, request.mediaType = some type → ValidText type maxMediaTypeLength

/-- A readable artifact that matches the filters. -/
structure ListRequest.Selects (request : ListRequest) (db : Database) (artifact : ArtifactRow) :
    Prop where
  tenantId : artifact.tenantId = request.tenantId
  readable : MayRead db request.actor artifact
  name : ∀ name, request.name = some name → artifact.name = name
  mediaType : ∀ type, request.mediaType = some type → artifact.mediaType = type

structure ShowsArtifact (db : Database) (artifact : ArtifactRow) (item : ArtifactListItem) :
    Prop where
  id : item.id = artifact.id
  name : item.name = artifact.name
  mediaType : item.mediaType = artifact.mediaType
  createdAt : item.createdAt = artifact.createdAt
  currentVersionId : item.currentVersionId = artifact.currentVersionId
  updatedAt : item.updatedAt = some (db.updatedAt artifact)

theorem ListRequest.selects_iff {request : ListRequest} {db : Database} {artifact : ArtifactRow} :
    request.Selects db artifact ↔
      (artifact.tenantId = request.tenantId ∧ MayRead db request.actor artifact) ∧
        (ListFilter.mk request.name request.mediaType none).matches artifact = true := by
  unfold ListFilter.matches
  simp only [Bool.and_eq_true, Option.all_eq_true, decide_eq_true_eq]
  constructor
  · intro selected
    exact ⟨⟨selected.tenantId, selected.readable⟩, fun x same => (selected.name x same).symm,
      fun x same => (selected.mediaType x same).symm⟩
  · rintro ⟨⟨inTenant, readable⟩, name, type⟩
    exact ⟨inTenant, readable, fun x same => (name x same).symm, fun x same => (type x same).symm⟩

instance (request : ListRequest) (db : Database) (artifact : ArtifactRow) :
    Decidable (request.Selects db artifact) :=
  decidable_of_iff _ ListRequest.selects_iff.symm

/-- The keys of the artifacts that the request selects. -/
def ListRequest.keys (request : ListRequest) (db : Database) : List ListKey :=
  (db.artifacts.filter (fun artifact => request.Selects db artifact)).map db.listKey

section Page

variable {request : ListRequest} {db : Database}

theorem mem_keys {key : ListKey} :
    key ∈ request.keys db ↔
      ∃ artifact ∈ db.artifacts, request.Selects db artifact ∧ db.listKey artifact = key := by
  unfold ListRequest.keys
  simp only [List.mem_map, List.mem_filter, decide_eq_true_eq, and_assoc]

theorem keys_nodup (sound : StoreSound db) : (request.keys db).Nodup :=
  listKey_keyedBy (sound.grants.artifactIds.filter _)

theorem listItem_shows (sound : StoreSound db) (access : ArtifactRow → Bool)
    {artifact : ArtifactRow} (member : artifact ∈ db.artifacts) :
    ShowsArtifact db artifact (artifact.listItem db access) := by
  obtain ⟨version, _, _, _, _, found⟩ := currentVersion_of_chain sound.versions member
  refine ⟨rfl, rfl, rfl, rfl, rfl, ?_⟩
  show (db.currentVersion artifact).map (·.createdAt) = some (db.updatedAt artifact)
  unfold Database.updatedAt
  rw [found]
  rfl

theorem ShowsArtifact.key {artifact : ArtifactRow} {item : ArtifactListItem}
    (shows' : ShowsArtifact db artifact item) : item.key = db.listKey artifact := by
  unfold ArtifactListItem.key Database.listKey listKeyOf
  rw [shows'.updatedAt, shows'.id]
  rfl

theorem afterCursor_iff {cursor : Option ListKey} {artifact : ArtifactRow} :
    afterCursor (cursor.map (fun key => ofLex (OrderDual.ofDual key))) (db.updatedAt artifact)
        artifact.id = true ↔
      ∀ key, cursor = some key → key < db.listKey artifact := by
  cases cursor with
  | none => simp [afterCursor]
  | some key =>
      simp only [Option.map_some, afterCursor, Bool.or_eq_true, Bool.and_eq_true,
        decide_eq_true_eq, Option.some.injEq, forall_eq']
      show _ ↔ toLex (db.updatedAt artifact, artifact.id) < OrderDual.ofDual key
      rw [Prod.Lex.lt_iff]
      rfl

theorem optionally_ok {check : String → Except Failure Unit} {value : Option String}
    (passes : ∀ x, value = some x → check x = .ok ()) : optionally check value = .ok () := by
  cases value with
  | none => rfl
  | some x => exact passes x rfl

/-- A page is the items of the first keys after its cursor. -/
theorem page_eq (sound : StoreSound db) (accepted : request.Accepted) (limit : Int)
    {cursor : Option ListKey} (stamped : ∀ key, cursor = some key → Stamped key) :
    ∃ items, request.page db limit (cursor.map cursorText) = .ok items ∧
      items.map ArtifactListItem.key = keyPage (clampLimit limit 100) cursor (request.keys db) ∧
      ∀ item ∈ items, ∃ artifact ∈ db.artifacts, request.Selects db artifact ∧
        ShowsArtifact db artifact item := by
  obtain ⟨access, granted⟩ : ∃ access, accessClause db request.actor .read = .ok access :=
    ⟨_, accessClause_ok_iff.mpr ⟨accepted.actor, rfl⟩⟩
  have rows : ∀ artifact, artifact ∈ db.listed request.tenantId access
        (cursor.map (fun key => ofLex (OrderDual.ofDual key)))
        ⟨request.name, request.mediaType, cursor.map cursorText⟩ ↔
      artifact ∈ db.artifacts ∧ request.Selects db artifact ∧
        ∀ key, cursor = some key → key < db.listKey artifact := by
    intro artifact
    have sameFilter : (ListFilter.mk request.name request.mediaType
        (cursor.map cursorText)).matches artifact =
          (ListFilter.mk request.name request.mediaType none).matches artifact := rfl
    unfold Database.listed
    rw [List.mem_filter, ListRequest.selects_iff]
    simp only [Bool.and_eq_true, decide_eq_true_eq, afterCursor_iff, sameFilter]
    constructor
    · rintro ⟨member, ⟨⟨inTenant, permitted⟩, after⟩, filtered⟩
      exact ⟨member, ⟨⟨inTenant, (access_iff sound granted member).mp permitted⟩, filtered⟩, after⟩
    · rintro ⟨member, ⟨⟨inTenant, readable⟩, filtered⟩, after⟩
      exact ⟨member, ⟨⟨inTenant, (access_iff sound granted member).mpr readable⟩, after⟩, filtered⟩
  have name : optionally (fun name => validateText "name" name maxNameLength) request.name =
      .ok () :=
    optionally_ok (fun x same => validateText_of_valid (accepted.name x same) _)
  have mediaType : optionally (fun type => validateText "media_type" type maxMediaTypeLength)
      request.mediaType = .ok () :=
    optionally_ok (fun x same => validateText_of_valid (accepted.mediaType x same) _)
  refine ⟨((orderBy db.listKey (db.listed request.tenantId access
    (cursor.map (fun key => ofLex (OrderDual.ofDual key)))
    ⟨request.name, request.mediaType, cursor.map cursorText⟩)).take (clampLimit limit 100)).map
      (fun artifact => artifact.listItem db access), ?_, ?_, ?_⟩
  · unfold ListRequest.page listArtifacts
    dsimp only
    rw [name, mediaType, granted]
    cases cursor with
    | none => rfl
    | some key =>
        simp only [Option.map_some, parse_cursorText (stamped key rfl)]
        rfl
  · have sameKeys : ∀ artifact ∈ (orderBy db.listKey (db.listed request.tenantId access
        (cursor.map (fun key => ofLex (OrderDual.ofDual key)))
        ⟨request.name, request.mediaType, cursor.map cursorText⟩)).take (clampLimit limit 100),
        (ArtifactListItem.key ∘ fun artifact => artifact.listItem db access) artifact =
          db.listKey artifact := by
      intro artifact taken
      have member := ((rows artifact).mp (mem_orderBy.mp (List.mem_of_mem_take taken))).1
      exact (listItem_shows sound access member).key
    rw [List.map_map, List.map_congr_left sameKeys, List.map_take]
    unfold keyPage
    congr 1
    apply keysAfter_unique (keys_nodup sound)
    · apply List.pairwise_map.mpr
      exact orderBy_strict (listKey_keyedBy (sound.grants.artifactIds.filter _))
    · intro key
      rw [mem_keysAfter, mem_keys, List.mem_map]
      constructor
      · rintro ⟨artifact, listed, isKey⟩
        obtain ⟨member, selected, after⟩ := (rows artifact).mp (mem_orderBy.mp listed)
        rw [isKey] at after
        exact ⟨⟨artifact, member, selected, isKey⟩, after⟩
      · rintro ⟨⟨artifact, member, selected, isKey⟩, after⟩
        rw [← isKey] at after
        exact ⟨artifact, mem_orderBy.mpr ((rows artifact).mpr ⟨member, selected, after⟩), isKey⟩
  · intro item inside
    obtain ⟨artifact, taken, isItem⟩ := List.mem_map.mp inside
    obtain ⟨member, selected, _⟩ := (rows artifact).mp (mem_orderBy.mp (List.mem_of_mem_take taken))
    rw [← isItem]
    exact ⟨artifact, member, selected, listItem_shows sound access member⟩

end Page

/-! ### Pages while the store goes on -/

section Run

variable {F : Type} [FloatFormat F]

/-- Some steps lead from one state to the other. -/
def Later (F : Type) [FloatFormat F] (settings : Settings) (disk disk' : Disk) : Prop :=
  ∃ between : List (Disk × Occurrence F), Trace (StoreStep settings) disk between disk'

/-- Pages, each beside the state it was read in.  The next page starts from the last
item, after any steps; an empty page is the last one. -/
inductive Paging (F : Type) [FloatFormat F] (settings : Settings) (request : ListRequest)
    (limits : Nat → Int) : Nat → Disk → Option String → List (Disk × List ArtifactListItem) → Prop
    where
  | last {n : Nat} {disk : Disk} {cursor : Option String}
      (shown : request.page disk.db (limits n) cursor = .ok []) :
      Paging F settings request limits n disk cursor [(disk, [])]
  | more {n : Nat} {disk disk' : Disk} {cursor : Option String} {items : List ArtifactListItem}
      {item : ArtifactListItem} {pages : List (Disk × List ArtifactListItem)}
      (shown : request.page disk.db (limits n) cursor = .ok items)
      (isLast : items.getLast? = some item) (meanwhile : Later F settings disk disk')
      (rest : Paging F settings request limits (n + 1) disk' (some item.cursor) pages) :
      Paging F settings request limits n disk cursor ((disk, items) :: pages)

def Newer (a b : ArtifactListItem) : Prop :=
  ∃ t u, a.updatedAt = some t ∧ b.updatedAt = some u ∧ toLex (u, b.id) < toLex (t, a.id)

/-- The items are the selected artifacts, each once, the newest first. -/
structure ListsAll (request : ListRequest) (db : Database) (items : List ArtifactListItem) :
    Prop where
  descending : items.Pairwise Newer
  once : (items.map (·.id)).Nodup
  complete : ∀ artifact ∈ db.artifacts, request.Selects db artifact →
    ∃ item ∈ items, ShowsArtifact db artifact item
  sound : ∀ item ∈ items, ∃ artifact ∈ db.artifacts, request.Selects db artifact ∧
    ShowsArtifact db artifact item

/-- The artifact is selected, and its current version is what it was. -/
def ListRequest.StillSelects (request : ListRequest) (artifact : ArtifactRow) (db : Database) :
    Prop :=
  ∃ row ∈ db.artifacts, row.id = artifact.id ∧
    row.currentVersionId = artifact.currentVersionId ∧ request.Selects db row

variable {settings : Settings} {draw : InitializeDraw} {past : List (Disk × Occurrence F)}
  {disk : Disk} {request : ListRequest} {limits : Nat → Int}

theorem Later.versions_kept (trace : StoreTrace settings draw past disk) {disk' : Disk}
    (later : Later F settings disk disk') :
    ∀ version ∈ disk.db.versions, version ∈ disk'.db.versions := by
  obtain ⟨between, steps⟩ := later
  apply steps.preorder (P := fun disk => StoreSound disk.db)
    (R := fun disk disk' => ∀ version ∈ disk.db.versions, version ∈ disk'.db.versions)
  · intro _ _ member
    exact member
  · intro _ _ _ first second version member
    exact second version (first version member)
  · intro _ _ _ sound step
    exact sound.step step
  · intro disk _ disk' sound step version member
    rcases storeStep_cases sound step with ⟨call, answer, _, effect⟩ | ⟨_, members, same⟩
    · exact effect.versions_kept version member
    · rw [same]
      exact member
  · exact StoreTrace.sound trace

theorem Later.trace (trace : StoreTrace settings draw past disk) {disk' : Disk}
    (later : Later F settings disk disk') :
    ∃ past' : List (Disk × Occurrence F), StoreTrace settings draw past' disk' := by
  obtain ⟨between, steps⟩ := later
  exact ⟨past ++ between, trace.append steps⟩

theorem ShowsArtifact.stamped (trace : StoreTrace settings draw past disk) {artifact : ArtifactRow}
    (member : artifact ∈ disk.db.artifacts) {item : ArtifactListItem}
    (shown : ShowsArtifact disk.db artifact item) : Stamped item.key := by
  rw [shown.key]
  exact StoreTrace.stamped trace member

/-- The pages of the list are pages of keys. -/
theorem Paging.keyPages (trace : StoreTrace settings draw past disk) (accepted : request.Accepted)
    {n : Nat} {cursor : Option ListKey} (stamped : ∀ key, cursor = some key → Stamped key)
    {pages : List (Disk × List ArtifactListItem)}
    (paging : Paging F settings request limits n disk (cursor.map cursorText) pages) :
    KeyPages cursor
      (pages.map (fun page => (request.keys page.1.db, page.2.map ArtifactListItem.key))) := by
  generalize isText : cursor.map cursorText = text at paging
  induction paging generalizing cursor past with
  | @last n disk _ shown =>
      have sound := StoreTrace.sound trace
      obtain ⟨items, done, keys, _⟩ := page_eq sound accepted (limits n) stamped
      rw [isText, shown] at done
      rw [← Except.ok.inj done] at keys
      exact .last (keys_nodup sound) (clampLimit_pos _ _) keys.symm
  | @more n disk disk' _ items item pages shown isLast meanwhile rest ih =>
      have sound := StoreTrace.sound trace
      obtain ⟨items', done, keys, rows⟩ := page_eq sound accepted (limits n) stamped
      rw [isText, shown] at done
      rw [← Except.ok.inj done] at keys rows
      obtain ⟨artifact, member, _, shows'⟩ := rows item (List.mem_of_getLast? isLast)
      obtain ⟨past', trace'⟩ := meanwhile.trace trace
      have stamped' : ∀ key, some item.key = some key → Stamped key := by
        intro key same
        rw [← Option.some.inj same]
        exact shows'.stamped trace member
      rw [List.map_cons, keys]
      apply KeyPages.more (keys_nodup sound) ?_ (ih trace' stamped' rfl)
      rw [← keys, List.getLast?_map, isLast]
      rfl

/-- Every page was read later, and holds items of artifacts selected there. -/
theorem Paging.rows (trace : StoreTrace settings draw past disk) (accepted : request.Accepted)
    {n : Nat} {cursor : Option ListKey} (stamped : ∀ key, cursor = some key → Stamped key)
    {pages : List (Disk × List ArtifactListItem)}
    (paging : Paging F settings request limits n disk (cursor.map cursorText) pages) :
    ∀ page ∈ pages, Later F settings disk page.1 ∧
      ∀ item ∈ page.2, ∃ artifact ∈ page.1.db.artifacts, request.Selects page.1.db artifact ∧
        ShowsArtifact page.1.db artifact item := by
  generalize isText : cursor.map cursorText = text at paging
  induction paging generalizing cursor past with
  | last shown =>
      intro page member
      rw [List.mem_singleton.mp member]
      exact ⟨⟨[], .start⟩, fun item inside => absurd inside List.not_mem_nil⟩
  | @more n disk disk' _ items item pages shown isLast meanwhile rest ih =>
      obtain ⟨items', done, _, rows⟩ :=
        page_eq (StoreTrace.sound trace) accepted (limits n) stamped
      rw [isText, shown] at done
      rw [← Except.ok.inj done] at rows
      obtain ⟨artifact, member, _, shows'⟩ := rows item (List.mem_of_getLast? isLast)
      have stamped' : ∀ key, some item.key = some key → Stamped key := by
        intro key same
        rw [← Option.some.inj same]
        exact shows'.stamped trace member
      intro page inside
      rcases List.mem_cons.mp inside with first | later
      · rw [first]
        exact ⟨⟨[], .start⟩, rows⟩
      · obtain ⟨past', trace'⟩ := meanwhile.trace trace
        obtain ⟨⟨between', after⟩, shown'⟩ := ih trace' stamped' rfl page later
        obtain ⟨between, before⟩ := meanwhile
        exact ⟨⟨between ++ between', before.append after⟩, shown'⟩

/-- On a state that stays as it is the pages come to an end. -/
theorem exists_paging (trace : StoreTrace settings draw past disk) (accepted : request.Accepted)
    (limits : Nat → Int) (n : Nat) {cursor : Option ListKey}
    (stamped : ∀ key, cursor = some key → Stamped key) :
    ∃ pages, Paging F settings request limits n disk (cursor.map cursorText) pages ∧
      ∀ page ∈ pages, page.1 = disk := by
  have sound := StoreTrace.sound trace
  generalize size : (keysAfter cursor (request.keys disk.db)).length = left
  induction left using Nat.strong_induction_on generalizing cursor n with
  | _ left ih =>
      obtain ⟨items, done, keys, rows⟩ := page_eq sound accepted (limits n) stamped
      cases isLast : items.getLast? with
      | none =>
          rw [List.getLast?_eq_none_iff.mp isLast] at done
          refine ⟨_, .last done, ?_⟩
          intro page member
          rw [List.mem_singleton.mp member]
      | some item =>
          obtain ⟨artifact, member, _, shows'⟩ := rows item (List.mem_of_getLast? isLast)
          have stamped' : ∀ key, some item.key = some key → Stamped key := by
            intro key same
            rw [← Option.some.inj same]
            exact shows'.stamped trace member
          have lastKey : (keyPage (clampLimit (limits n) 100) cursor
              (request.keys disk.db)).getLast? = some item.key := by
            rw [← keys, List.getLast?_map, isLast]
            rfl
          have fewer := keysAfter_length_lt (keys_nodup sound) lastKey
          rw [size] at fewer
          obtain ⟨pages, paging, fixed⟩ := ih _ fewer (n + 1) stamped' rfl
          refine ⟨_, .more done isLast ⟨[], .start⟩ paging, ?_⟩
          intro page inside
          rcases List.mem_cons.mp inside with first | later
          · rw [first]
          · exact fixed page later

theorem newer_of_key_lt {a b : ArtifactListItem} {t u : String} (aTime : a.updatedAt = some t)
    (bTime : b.updatedAt = some u) (less : a.key < b.key) : Newer a b := by
  refine ⟨t, u, aTime, bTime, ?_⟩
  unfold ArtifactListItem.key at less
  rw [aTime, bTime] at less
  exact less

/-- Pages of one and the same state list what it has. -/
theorem Paging.listsAll (trace : StoreTrace settings draw past disk) (accepted : request.Accepted)
    {pages : List (Disk × List ArtifactListItem)}
    (paging : Paging F settings request limits 0 disk none pages)
    (fixed : ∀ page ∈ pages, page.1 = disk) :
    ListsAll request disk.db (pages.flatMap (·.2)) := by
  have sound := StoreTrace.sound trace
  have stamped : ∀ key, (none : Option ListKey) = some key → Stamped key := by
    intro key impossible
    cases impossible
  have keyPages := Paging.keyPages trace accepted stamped paging
  have rows : ∀ item ∈ pages.flatMap (·.2), ∃ artifact ∈ disk.db.artifacts,
      request.Selects disk.db artifact ∧ ShowsArtifact disk.db artifact item := by
    intro item member
    obtain ⟨page, inside, isItem⟩ := List.mem_flatMap.mp member
    have shown := (Paging.rows trace accepted stamped paging page inside).2 item isItem
    rw [fixed page inside] at shown
    exact shown
  have keys : (pages.map (fun page =>
      (request.keys page.1.db, page.2.map ArtifactListItem.key))).flatMap (·.2) =
        (pages.flatMap (·.2)).map ArtifactListItem.key := by
    rw [List.flatMap_map, List.map_flatMap]
  have inOrder : (pages.flatMap (·.2)).Pairwise (fun a b => a.key < b.key) := by
    have sorted := keyPages.sorted.1
    rw [keys] at sorted
    exact List.pairwise_map.mp sorted
  refine ⟨?_, ?_, ?_, rows⟩
  · apply inOrder.imp_of_mem
    intro a b aMember bMember less
    obtain ⟨_, _, _, aShows⟩ := rows a aMember
    obtain ⟨_, _, _, bShows⟩ := rows b bMember
    exact newer_of_key_lt aShows.updatedAt bShows.updatedAt less
  · apply List.pairwise_map.mpr
    apply inOrder.imp_of_mem
    intro a b aMember bMember less same
    obtain ⟨x, xMember, _, aShows⟩ := rows a aMember
    obtain ⟨y, yMember, _, bShows⟩ := rows b bMember
    have sameRow : x = y := by
      apply sound.grants.artifactIds.eq xMember yMember
      rw [← aShows.id, ← bShows.id]
      exact same
    rw [aShows.key, bShows.key, sameRow] at less
    exact lt_irrefl _ less
  · intro artifact member selected
    have found : disk.db.listKey artifact ∈ (pages.flatMap (·.2)).map ArtifactListItem.key := by
      rw [← keys]
      apply keyPages.complete
      · intro c impossible
        cases impossible
      · intro page inside
        obtain ⟨listed, isListed, same⟩ := List.mem_map.mp inside
        rw [← same, fixed listed isListed]
        exact mem_keys.mpr ⟨artifact, member, selected, rfl⟩
    obtain ⟨item, inside, sameKey⟩ := List.mem_map.mp found
    obtain ⟨other, otherMember, _, shows'⟩ := rows item inside
    rw [shows'.key] at sameKey
    have sameRow : other = artifact :=
      (listKey_keyedBy sound.grants.artifactIds).eq otherMember member sameKey
    rw [← sameRow]
    exact ⟨item, inside, shows'⟩

/-- An artifact whose current version stays is listed under the same key. -/
theorem StillSelects.key (trace : StoreTrace settings draw past disk) {artifact : ArtifactRow}
    (member : artifact ∈ disk.db.artifacts) {disk' : Disk} (later : Later F settings disk disk')
    {row : ArtifactRow} (inside : row ∈ disk'.db.artifacts) (sameId : row.id = artifact.id)
    (sameVersion : row.currentVersionId = artifact.currentVersionId) :
    disk'.db.listKey row = disk.db.listKey artifact := by
  obtain ⟨past', trace'⟩ := later.trace trace
  have sound' := StoreTrace.sound trace'
  obtain ⟨version, stored, _, points, _, found⟩ :=
    currentVersion_of_chain (StoreTrace.sound trace).versions member
  obtain ⟨version', stored', _, points', _, found'⟩ :=
    currentVersion_of_chain sound'.versions inside
  have same : version' = version := by
    apply sound'.versions.versionIds.eq stored' (later.versions_kept trace version stored)
    rw [sameVersion, points] at points'
    exact (Option.some.inj points').symm
  unfold Database.listKey Database.updatedAt
  rw [found, found', same, sameId]
  rfl

/-- An artifact that stays as it is comes once, whatever else happens between the pages. -/
theorem Paging.count_eq_one (trace : StoreTrace settings draw past disk)
    (accepted : request.Accepted) {pages : List (Disk × List ArtifactListItem)}
    (paging : Paging F settings request limits 0 disk none pages) {artifact : ArtifactRow}
    (member : artifact ∈ disk.db.artifacts)
    (stays : ∀ page ∈ pages, request.StillSelects artifact page.1.db) :
    ((pages.flatMap (·.2)).map (·.id)).count artifact.id = 1 := by
  have stamped : ∀ key, (none : Option ListKey) = some key → Stamped key := by
    intro key impossible
    cases impossible
  have keyPages := Paging.keyPages trace accepted stamped paging
  have rows := Paging.rows trace accepted stamped paging
  have keys : (pages.map (fun page =>
      (request.keys page.1.db, page.2.map ArtifactListItem.key))).flatMap (·.2) =
        (pages.flatMap (·.2)).map ArtifactListItem.key := by
    rw [List.flatMap_map, List.map_flatMap]
  have isKey : ∀ item ∈ pages.flatMap (·.2),
      item.id = artifact.id → item.key = disk.db.listKey artifact := by
    intro item isItem sameId
    obtain ⟨page, inside, inPage⟩ := List.mem_flatMap.mp isItem
    obtain ⟨later, shown⟩ := rows page inside
    obtain ⟨other, otherMember, _, shows'⟩ := shown item inPage
    obtain ⟨row, rowMember, rowId, rowVersion, _⟩ := stays page inside
    obtain ⟨past', trace'⟩ := later.trace trace
    have sameRow : other = row := by
      apply (StoreTrace.sound trace').grants.artifactIds.eq otherMember rowMember
      rw [← shows'.id, sameId, rowId]
    rw [shows'.key, sameRow]
    exact StillSelects.key trace member later rowMember rowId rowVersion
  have distinct : (pages.flatMap (·.2)).Pairwise (fun a b => a.key ≠ b.key) := by
    have sorted := keyPages.sorted.1
    rw [keys] at sorted
    exact (List.pairwise_map.mp sorted).imp ne_of_lt
  have found : disk.db.listKey artifact ∈ (pages.flatMap (·.2)).map ArtifactListItem.key := by
    rw [← keys]
    apply keyPages.complete
    · intro c impossible
      cases impossible
    · intro listed isListed
      obtain ⟨page, inside, same⟩ := List.mem_map.mp isListed
      obtain ⟨row, rowMember, rowId, rowVersion, selected⟩ := stays page inside
      rw [← same]
      exact mem_keys.mpr ⟨row, rowMember, selected,
        StillSelects.key trace member (rows page inside).1 rowMember rowId rowVersion⟩
  obtain ⟨item, inside, sameKey⟩ := List.mem_map.mp found
  have sameId : item.id = artifact.id :=
    congrArg (fun key : ListKey => (ofLex (OrderDual.ofDual key)).2) sameKey
  exact count_eq_one_of_key distinct isKey ⟨item, inside, sameId⟩

omit [FloatFormat F] in
/-- Whatever its cursor, a page holds items of artifacts of the store. -/
theorem page_items {db : Database} {limit : Int} {cursor : Option String}
    {items : List ArtifactListItem} (shown : request.page db limit cursor = .ok items) :
    ∀ item ∈ items, ∃ artifact ∈ db.artifacts, ∃ access, artifact.listItem db access = item := by
  have rows : ∀ parsed access, items = ((orderBy db.listKey (db.listed request.tenantId access
      parsed ⟨request.name, request.mediaType, cursor⟩)).take (clampLimit limit 100)).map
        (fun a => a.listItem db access) →
      ∀ item ∈ items, ∃ artifact ∈ db.artifacts, ∃ access, artifact.listItem db access = item := by
    intro parsed access same item inside
    rw [same] at inside
    obtain ⟨artifact, taken, isItem⟩ := List.mem_map.mp inside
    exact ⟨artifact, (List.mem_filter.mp (mem_orderBy.mp (List.mem_of_mem_take taken))).1, access,
      isItem⟩
  unfold ListRequest.page listArtifacts at shown
  obtain ⟨_, _, shown⟩ := except_bind_ok shown
  obtain ⟨_, _, shown⟩ := except_bind_ok shown
  cases cursor with
  | none =>
      obtain ⟨parsed, _, shown⟩ := except_bind_ok shown
      obtain ⟨access, _, shown⟩ := except_bind_ok shown
      exact rows parsed access (Except.ok.inj shown).symm
  | some text =>
      obtain ⟨parsed, _, shown⟩ := except_bind_ok shown
      obtain ⟨access, _, shown⟩ := except_bind_ok shown
      exact rows parsed access (Except.ok.inj shown).symm

/-- A page from the cursor of an item listed earlier is not refused. -/
theorem page_after (trace : StoreTrace settings draw past disk) (accepted : request.Accepted)
    {limit : Int} {cursor : Option String} {items : List ArtifactListItem}
    (shown : request.page disk.db limit cursor = .ok items) {item : ArtifactListItem}
    (inside : item ∈ items) {disk' : Disk} (later : Later F settings disk disk') (limit' : Int) :
    ∃ items', request.page disk'.db limit' (some item.cursor) = .ok items' := by
  obtain ⟨artifact, member, access, isItem⟩ := page_items shown item inside
  have shows' := listItem_shows (StoreTrace.sound trace) access member
  rw [isItem] at shows'
  have stamped : ∀ key, some item.key = some key → Stamped key := by
    intro key same
    rw [← Option.some.inj same]
    exact shows'.stamped trace member
  obtain ⟨past', trace'⟩ := later.trace trace
  obtain ⟨items', done, _⟩ := page_eq (StoreTrace.sound trace') accepted limit' stamped
  exact ⟨items', done⟩

/-- The artifact list, page by page: on a fixed state the pages come to an end and hold
every selected artifact once, the newest first; while the store goes on no page is
refused, and what stays as it is comes exactly once. -/
theorem artifact_list_pages (trace : StoreTrace settings draw past disk)
    (accepted : request.Accepted) (limits : Nat → Int) :
    (∃ pages, Paging F settings request limits 0 disk none pages ∧
      ∀ page ∈ pages, page.1 = disk) ∧
    (∀ pages, Paging F settings request limits 0 disk none pages →
      (∀ page ∈ pages, page.1 = disk) → ListsAll request disk.db (pages.flatMap (·.2))) ∧
    (∀ pages, Paging F settings request limits 0 disk none pages →
      ∀ artifact ∈ disk.db.artifacts,
        (∀ page ∈ pages, request.StillSelects artifact page.1.db) →
          ((pages.flatMap (·.2)).map (·.id)).count artifact.id = 1) ∧
    ∀ disk', Later F settings disk disk' → ∀ limit cursor items,
      request.page disk'.db limit cursor = .ok items → ∀ item ∈ items,
        ∀ disk'', Later F settings disk' disk'' → ∀ limit',
          ∃ items', request.page disk''.db limit' (some item.cursor) = .ok items' := by
  refine ⟨?_, ?_, ?_, ?_⟩
  · have stamped : ∀ key, (none : Option ListKey) = some key → Stamped key := by
      intro key impossible
      cases impossible
    exact exists_paging trace accepted limits 0 stamped
  · intro pages paging fixed
    exact paging.listsAll trace accepted fixed
  · intro pages paging artifact member stays
    exact paging.count_eq_one trace accepted member stays
  · intro disk' later limit cursor items shown item inside disk'' later' limit'
    obtain ⟨past', trace'⟩ := later.trace trace
    exact page_after trace' accepted shown inside later' limit'

end Run

/-! ### Two artifacts created in one millisecond -/

def pagedCreate (name : String) : CreateRequest Empty where
  tenantId := "t"
  name := name
  data := [104]
  actor := "ann"

def pagedCalls : List (Call Empty) :=
  [.create (CreateDraw.epoch Uuid.nil) (pagedCreate "a"),
    .create (CreateDraw.epoch Uuid.one) (pagedCreate "b")]

def pagedDisk : Disk :=
  performAll Settings.standard pagedCalls (freshDisk Settings.standard InitializeDraw.epoch)

def pagedRequest : ListRequest := ⟨"t", some "ann", none, none⟩

example : (pagedRequest.page pagedDisk.db 1 none).map (fun items => items.map (·.cursor)) =
    .ok ["1970-01-01T00:00:00.000+00:00|art_00000000000000000000000000000001"] := by
  decide

theorem artifact_list_pages_two :
    (∃ pages, Paging Empty Settings.standard pagedRequest (fun _ => 1) 0 pagedDisk none pages ∧
      ∀ page ∈ pages, page.1 = pagedDisk) ∧
    (∀ pages, Paging Empty Settings.standard pagedRequest (fun _ => 1) 0 pagedDisk none pages →
      (∀ page ∈ pages, page.1 = pagedDisk) →
        ListsAll pagedRequest pagedDisk.db (pages.flatMap (·.2))) ∧
    (∀ pages, Paging Empty Settings.standard pagedRequest (fun _ => 1) 0 pagedDisk none pages →
      ∀ artifact ∈ pagedDisk.db.artifacts,
        (∀ page ∈ pages, pagedRequest.StillSelects artifact page.1.db) →
          ((pages.flatMap (·.2)).map (·.id)).count artifact.id = 1) ∧
    ∀ disk', Later Empty Settings.standard pagedDisk disk' → ∀ limit cursor items,
      pagedRequest.page disk'.db limit cursor = .ok items → ∀ item ∈ items,
        ∀ disk'', Later Empty Settings.standard disk' disk'' → ∀ limit',
          ∃ items', pagedRequest.page disk''.db limit' (some item.cursor) = .ok items' := by
  apply artifact_list_pages
    (performAll_trace (.start : StoreTrace Settings.standard InitializeDraw.epoch [] _) pagedCalls)
  constructor
  · intro actor isActor
    rw [← Option.some.inj isActor]
    decide
  · intro name impossible
    cases impossible
  · intro type impossible
    cases impossible

end FolioLattice.Store
