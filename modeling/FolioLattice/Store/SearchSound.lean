/-
What a search returns: in whatever order the rows arrive, the merged items fit
together and speak of artifacts that the actor may read.
-/

import FolioLattice.Store.Search
import FolioLattice.Store.Traversal

namespace FolioLattice.Store

open FolioLattice.Text FolioLattice.Data FolioLattice.Relational
open FolioLattice.Effects (except_bind_ok except_map_ok except_mapM_ok forall₂_mem_right)

variable {F : Type}

/-! ### What an item says -/

section Says

variable (db : Database) (tenantId : String) (actor : Option String)

/-- The readable artifacts that edges of the tenant join with the root. -/
inductive ReadablyConnected (rootId : String) : String → Prop where
  | root (readable : Readable db tenantId actor rootId) : ReadablyConnected rootId rootId
  | step {edge : EdgeRow} {current other : String} (connected : ReadablyConnected rootId current)
      (stored : edge ∈ db.edges) (inTenant : edge.tenantId = tenantId)
      (joins : edge.touches current = true ∧ edge.touches other = true)
      (readable : Readable db tenantId actor other) : ReadablyConnected rootId other

structure SoundItem (query : List Char) (graphRoot cursor : Option String) (item : SearchItem F) :
    Prop where
  artifact : ∃ artifact ∈ db.artifacts, artifact.id = item.artifactId ∧
    artifact.tenantId = tenantId ∧ MayRead db actor artifact ∧
    item.versionId = artifact.currentVersionId ∧ item.artifactName = artifact.name ∧
    item.mediaType = artifact.mediaType
  version : ∃ version ∈ db.versions, item.versionId = some version.id ∧
    version.artifactId = item.artifactId ∧ version.tenantId = tenantId
  after : ∃ parsed, parseSearchCursor cursor = .ok parsed ∧
    afterCursor parsed item.updatedAt item.artifactId = true
  inside : ∀ root, graphRoot = some root → ReadablyConnected db tenantId actor root item.artifactId
  name : MatchKind.name ∈ item.matchKinds ↔ searchMatches item.artifactName.toList query = true
  mediaType : MatchKind.mediaType ∈ item.matchKinds ↔
    searchMatches item.mediaType.toList query = true
  body : MatchKind.body ∈ item.matchKinds ↔ item.chunkId.isSome = true
  chunk : ∀ chunkId, item.chunkId = some chunkId → ∃ chunk ∈ db.chunks, chunk.id = chunkId ∧
    chunk.tenantId = tenantId ∧ chunk.artifactId = item.artifactId ∧
    item.versionId = some chunk.versionId ∧ searchMatches chunk.content.toList query = true

end Says

/-! ### Merging -/

section Merge

variable {query : List Char} {current : CurrentRow} {item : SearchItem F} {row : SearchRow F}

theorem mem_foldl_addKind {kinds old : List MatchKind} {kind : MatchKind} :
    kind ∈ kinds.foldl addKind old ↔ kind ∈ old ∨ kind ∈ kinds := by
  induction kinds generalizing old with
  | nil => simp only [List.foldl_nil, List.not_mem_nil, or_false]
  | cons first rest ih =>
      rw [List.foldl_cons, ih]
      have added : kind ∈ addKind old first ↔ kind ∈ old ∨ kind = first := by
        unfold addKind
        split
        · rename_i known
          constructor
          · exact Or.inl
          · rintro (before | same)
            · exact before
            · rw [same]
              exact known
        · rw [List.mem_append, List.mem_singleton]
      rw [added, List.mem_cons, or_assoc]

theorem SearchRow.name_kind :
    MatchKind.name ∈ row.kinds query ↔
      searchMatches row.current.artifact.name.toList query = true := by
  unfold SearchRow.kinds
  cases searchMatches row.current.artifact.name.toList query <;>
    cases searchMatches row.current.artifact.mediaType.toList query <;>
      cases row.bodyMatches query <;> decide

theorem SearchRow.mediaType_kind :
    MatchKind.mediaType ∈ row.kinds query ↔
      searchMatches row.current.artifact.mediaType.toList query = true := by
  unfold SearchRow.kinds
  cases searchMatches row.current.artifact.name.toList query <;>
    cases searchMatches row.current.artifact.mediaType.toList query <;>
      cases row.bodyMatches query <;> decide

theorem SearchRow.body_kind :
    MatchKind.body ∈ row.kinds query ↔ row.bodyMatches query = true := by
  unfold SearchRow.kinds
  cases searchMatches row.current.artifact.name.toList query <;>
    cases searchMatches row.current.artifact.mediaType.toList query <;>
      cases row.bodyMatches query <;> decide

/-- An item of this row's artifact; its body match is that of a row of `rows`. -/
structure Merging (current : CurrentRow) (query : List Char) (rows : SearchRow F → Prop)
    (item : SearchItem F) : Prop where
  artifactId : item.artifactId = current.artifact.id
  versionId : item.versionId = current.artifact.currentVersionId
  artifactName : item.artifactName = current.artifact.name
  itsMediaType : item.mediaType = current.artifact.mediaType
  name : MatchKind.name ∈ item.matchKinds →
    searchMatches current.artifact.name.toList query = true
  mediaType : MatchKind.mediaType ∈ item.matchKinds →
    searchMatches current.artifact.mediaType.toList query = true
  body : MatchKind.body ∈ item.matchKinds ↔ item.chunkId.isSome = true
  chunk : ∀ chunkId, item.chunkId = some chunkId → ∃ row, rows row ∧ row.current = current ∧
    row.chunkId = some chunkId ∧ row.bodyMatches query = true

/-- An item that has taken a row in. -/
structure Merged (current : CurrentRow) (query : List Char) (rows : SearchRow F → Prop)
    (item : SearchItem F) : Prop extends Merging current query rows item where
  allNames : searchMatches current.artifact.name.toList query = true →
    MatchKind.name ∈ item.matchKinds
  allMediaTypes : searchMatches current.artifact.mediaType.toList query = true →
    MatchKind.mediaType ∈ item.matchKinds

/-- Which of the two chunks the item has after a row. -/
theorem merge_fields (item : SearchItem F) (query : List Char) (row : SearchRow F) :
    (item.merge query row).artifactId = item.artifactId ∧
      (item.merge query row).versionId = item.versionId ∧
      (item.merge query row).artifactName = item.artifactName ∧
      (item.merge query row).mediaType = item.mediaType ∧
      (item.merge query row).matchKinds = (row.kinds query).foldl addKind item.matchKinds ∧
      ((row.bodyMatches query = true ∧ (item.merge query row).chunkId = row.chunkId) ∨
        ((row.bodyMatches query = true → MatchKind.body ∈ item.matchKinds) ∧
          (item.merge query row).chunkId = item.chunkId)) := by
  unfold SearchItem.merge
  dsimp only
  split
  · rename_i first
    exact ⟨rfl, rfl, rfl, rfl, rfl, Or.inl ⟨first.1, rfl⟩⟩
  · rename_i notFirst
    have had : row.bodyMatches query = true → MatchKind.body ∈ item.matchKinds := by
      intro matched
      by_contra missing
      exact notFirst ⟨matched, missing⟩
    split
    · rename_i again
      exact ⟨rfl, rfl, rfl, rfl, rfl, Or.inl ⟨again.1, rfl⟩⟩
    · split
      · exact ⟨rfl, rfl, rfl, rfl, rfl, Or.inr ⟨had, rfl⟩⟩
      · exact ⟨rfl, rfl, rfl, rfl, rfl, Or.inr ⟨had, rfl⟩⟩

theorem SearchRow.chunk_of_body (bare : row.chunkId = none → row.content = none)
    (matched : row.bodyMatches query = true) : row.chunkId.isSome = true := by
  cases noChunk : row.chunkId with
  | some chunkId => rfl
  | none =>
      unfold SearchRow.bodyMatches SearchRow.body at matched
      rw [bare noChunk] at matched
      cases matched

/-- Each row keeps the parts of its artifact's item together. -/
theorem Merging.merge {rows : SearchRow F → Prop} (merging : Merging row.current query rows item)
    (isRow : rows row) (bare : row.chunkId = none → row.content = none) :
    Merged row.current query rows (item.merge query row) := by
  obtain ⟨sameId, sameVersion, sameName, sameType, kinds, chunk⟩ := merge_fields item query row
  have mem : ∀ kind, kind ∈ (item.merge query row).matchKinds ↔
      kind ∈ item.matchKinds ∨ kind ∈ row.kinds query := by
    intro kind
    rw [kinds]
    exact mem_foldl_addKind
  refine ⟨⟨sameId.trans merging.artifactId, sameVersion.trans merging.versionId,
    sameName.trans merging.artifactName, sameType.trans merging.itsMediaType, ?_, ?_, ?_, ?_⟩,
    ?_, ?_⟩
  · intro member
    rcases (mem _).mp member with old | new
    · exact merging.name old
    · exact SearchRow.name_kind.mp new
  · intro member
    rcases (mem _).mp member with old | new
    · exact merging.mediaType old
    · exact SearchRow.mediaType_kind.mp new
  · rw [mem, SearchRow.body_kind]
    rcases chunk with ⟨matched, isChunk⟩ | ⟨had, isChunk⟩
    · rw [isChunk, SearchRow.chunk_of_body bare matched]
      exact ⟨fun _ => rfl, fun _ => Or.inr matched⟩
    · rw [isChunk, ← merging.body]
      exact ⟨fun either => either.elim id had, Or.inl⟩
  · intro chunkId isSome
    rcases chunk with ⟨matched, isChunk⟩ | ⟨_, isChunk⟩
    · exact ⟨row, isRow, rfl, isChunk ▸ isSome, matched⟩
    · exact merging.chunk chunkId (isChunk ▸ isSome)
  · intro matched
    exact (mem _).mpr (Or.inr (SearchRow.name_kind.mpr matched))
  · intro matched
    exact (mem _).mpr (Or.inr (SearchRow.mediaType_kind.mpr matched))

/-! ### All rows -/

variable [FloatFormat F]

theorem newSearchItem_merging {graphRoot : Option String}
    {paths : List (String × List (PathNode F))} {rows : SearchRow F → Prop}
    (made : newSearchItem graphRoot paths row = .ok item) :
    Merging row.current query rows item := by
  obtain ⟨path, _, isItem⟩ := except_bind_ok made
  rw [← Except.ok.inj isItem]
  refine ⟨rfl, rfl, rfl, rfl, ?_, ?_, ?_, ?_⟩
  · intro impossible
    cases impossible
  · intro impossible
    cases impossible
  · constructor
    · intro impossible
      cases impossible
    · intro impossible
      cases impossible
  · intro chunkId impossible
    cases impossible

/-- The dictionary of items: one for each of its artifacts, each of a readable one. -/
structure MergedAll (readable : List CurrentRow) (query : List Char) (rows : SearchRow F → Prop)
    (byArtifact : List (String × SearchItem F)) : Prop where
  keys : (byArtifact.map (·.1)).Nodup
  items : ∀ entry ∈ byArtifact, ∃ current ∈ readable, current.artifact.id = entry.1 ∧
    Merged current query rows entry.2

theorem MergedAll.step {readable : List CurrentRow} {rows : SearchRow F → Prop}
    {graphRoot : Option String} {paths : List (String × List (PathNode F))}
    {byArtifact after : List (String × SearchItem F)}
    (distinct : ∀ a ∈ readable, ∀ b ∈ readable, a.artifact.id = b.artifact.id → a = b)
    (merged : MergedAll readable query rows byArtifact) (isRow : rows row)
    (isReadable : row.current ∈ readable) (bare : row.chunkId = none → row.content = none)
    (done : searchStep query graphRoot paths byArtifact row = .ok after) :
    MergedAll readable query rows after := by
  unfold searchStep at done
  split at done
  · rw [← Except.ok.inj done]
    exact merged
  · obtain ⟨item, isItem, isAfter⟩ := except_bind_ok done
    have merging : Merging row.current query rows item := by
      unfold itemOf at isItem
      cases known : getEntry row.current.artifact.id byArtifact with
      | none =>
          rw [known] at isItem
          exact newSearchItem_merging isItem
      | some old =>
          rw [known] at isItem
          obtain ⟨current, inside, sameId, was⟩ := merged.items _ (mem_of_getEntry known)
          rw [distinct current inside row.current isReadable sameId] at was
          rw [← Except.ok.inj isItem]
          exact was.toMerging
    rw [← Except.ok.inj isAfter]
    refine ⟨putEntry_nodup _ _ merged.keys, ?_⟩
    intro entry member
    rcases mem_putEntry member with same | old
    · rw [same]
      exact ⟨row.current, isReadable, rfl, merging.merge isRow bare⟩
    · exact merged.items entry old

theorem MergedAll.run {readable : List CurrentRow} {rows : SearchRow F → Prop}
    {graphRoot : Option String} {paths : List (String × List (PathNode F))}
    {arrived : List (SearchRow F)} {byArtifact after : List (String × SearchItem F)}
    (distinct : ∀ a ∈ readable, ∀ b ∈ readable, a.artifact.id = b.artifact.id → a = b)
    (merged : MergedAll readable query rows byArtifact)
    (each : ∀ row ∈ arrived, rows row ∧ row.current ∈ readable ∧
      (row.chunkId = none → row.content = none))
    (done : arrived.foldlM (searchStep query graphRoot paths) byArtifact = .ok after) :
    MergedAll readable query rows after := by
  induction arrived generalizing byArtifact with
  | nil =>
      rw [List.foldlM_nil] at done
      rw [← Except.ok.inj done]
      exact merged
  | cons row rest ih =>
      rw [List.foldlM_cons] at done
      obtain ⟨next, stepped, done⟩ := except_bind_ok done
      obtain ⟨isRow, isReadable, bare⟩ := each row List.mem_cons_self
      apply ih (merged.step distinct isRow isReadable bare stepped) ?_ done
      intro other member
      exact each other (List.mem_cons_of_mem _ member)

end Merge

/-! ### Where the rows come from -/

section Rows

variable {db : Database} {tenantId : String} {actor : Option String} {query : List Char}
  {readable : List CurrentRow} {row : SearchRow F}

/-- A row of a readable artifact, with a chunk of its current version or with none. -/
structure SourceRow (db : Database) (readable : List CurrentRow) (row : SearchRow F) : Prop where
  readable : row.current ∈ readable
  bare : row.chunkId = none → row.content = none
  chunk : ∀ chunkId, row.chunkId = some chunkId → ∃ chunk ∈ db.chunks, chunk.id = chunkId ∧
    chunk.tenantId = row.current.artifact.tenantId ∧ chunk.artifactId = row.current.artifact.id ∧
    row.current.artifact.currentVersionId = some chunk.versionId ∧
    row.content = some chunk.content

theorem mem_current {artifacts : List ArtifactRow} {r : CurrentRow} :
    r ∈ db.current artifacts ↔ r.artifact ∈ artifacts ∧
      db.currentVersion r.artifact = some r.version := by
  unfold Database.current
  rw [List.mem_filterMap]
  constructor
  · rintro ⟨artifact, inside, isRow⟩
    obtain ⟨version, isCurrent, same⟩ := Option.map_eq_some_iff.mp isRow
    rw [← same]
    exact ⟨inside, isCurrent⟩
  · rintro ⟨inside, isCurrent⟩
    refine ⟨r.artifact, inside, ?_⟩
    rw [isCurrent]
    rfl

theorem mem_searchable {access : ArtifactRow → Bool} {component : Option (List String)}
    {cursor : Option (String × String)} {r : CurrentRow} :
    r ∈ db.searchable tenantId access component cursor ↔
      (r.artifact ∈ db.artifacts ∧ r.artifact.tenantId = tenantId ∧
        (∀ ids, component = some ids → r.artifact.id ∈ ids) ∧ access r.artifact = true ∧
          db.currentVersion r.artifact = some r.version) ∧
        afterCursor cursor r.version.createdAt r.artifact.id = true := by
  unfold Database.searchable
  rw [List.mem_filter, mem_current, List.mem_filter]
  simp only [Bool.and_eq_true, decide_eq_true_eq, Option.all_eq_true, and_assoc]

end Rows

/-! ### The component of the root -/

section Component

variable [FloatFormat F] {db : Database} {tenantId rootId : String} {actor : Option String}
  {access : ArtifactRow → Bool}

theorem mem_adjacent {current : String} {artifact : ArtifactRow}
    (member : artifact ∈ db.adjacent tenantId access current) :
    artifact ∈ db.artifacts ∧ artifact.tenantId = tenantId ∧ access artifact = true ∧
      ∃ edge ∈ db.edges, edge.tenantId = tenantId ∧ edge.touches current = true ∧
        edge.touches artifact.id = true := by
  unfold Database.adjacent at member
  obtain ⟨row, inside, same⟩ := List.mem_map.mp member
  obtain ⟨edge, follows, ends⟩ := List.mem_flatMap.mp (mem_orderBy.mp inside)
  obtain ⟨other, isOther, isRow⟩ := List.mem_map.mp ends
  simp only [List.mem_filter, Bool.and_eq_true, Bool.or_eq_true, decide_eq_true_eq] at follows isOther
  obtain ⟨stored, inTenant, touches⟩ := follows
  obtain ⟨known, ⟨⟨sameTenant, _⟩, isEnd⟩, permitted⟩ := isOther
  have isArtifact : other = artifact := by
    rw [← same, ← isRow]
  rw [← isArtifact]
  refine ⟨known, sameTenant.trans inTenant, permitted, edge, stored, inTenant, touches, ?_⟩
  unfold EdgeRow.touches
  rw [Bool.or_eq_true, decide_eq_true_eq, decide_eq_true_eq]
  exact isEnd.imp Eq.symm Eq.symm

end Component

/-! ### The result -/

section Result

variable [FloatFormat F] {db : Database} {engine : SearchEngine F} {tenantId : String}
  {query : List Char} {limit : Int} {actor graphRoot cursor : Option String}
  {items : List (SearchItem F)}

omit [FloatFormat F] in
/-- A merged item says what its artifact and its chunk bear out. -/
theorem Merged.sound (sound : StoreSound db) {access : ArtifactRow → Bool}
    (granted : accessClause db actor .read = .ok access) {component : Option (List String)}
    {parsed : Option (String × String)} (isParsed : parseSearchCursor cursor = .ok parsed)
    {rows : List (SearchRow F)} {current : CurrentRow} {item : SearchItem F}
    (sources : ∀ row ∈ rows, SourceRow db (db.searchable tenantId access component parsed) row)
    (readable : current ∈ db.searchable tenantId access component parsed)
    (inside : (∀ ids, component = some ids → current.artifact.id ∈ ids) →
      ∀ root, graphRoot = some root → ReadablyConnected db tenantId actor root current.artifact.id)
    (merged : Merged current query (· ∈ rows) item)
    (after : afterCursor parsed item.updatedAt item.artifactId = true) :
    SoundItem db tenantId actor query graphRoot cursor item := by
  obtain ⟨⟨stored, inTenant, inComponent, permitted, isCurrent⟩, _⟩ := mem_searchable.mp readable
  have mayRead := (access_iff sound granted stored).mp permitted
  constructor
  · exact ⟨current.artifact, stored, merged.artifactId.symm, inTenant, mayRead, merged.versionId,
      merged.artifactName, merged.itsMediaType⟩
  · obtain ⟨version, isStored, belongs, points, _⟩ := currentVersion_of_chain sound.versions stored
    obtain ⟨sameArtifact, sameTenant⟩ := ofArtifact_iff.mp belongs
    exact ⟨version, isStored, merged.versionId.trans points,
      sameArtifact.trans merged.artifactId.symm, sameTenant.trans inTenant⟩
  · exact ⟨parsed, isParsed, after⟩
  · rw [merged.artifactId]
    exact inside inComponent
  · rw [merged.artifactName]
    exact ⟨merged.name, merged.allNames⟩
  · rw [merged.itsMediaType]
    exact ⟨merged.mediaType, merged.allMediaTypes⟩
  · exact merged.body
  · intro chunkId isChunk
    obtain ⟨row, member, ofCurrent, rowChunk, matched⟩ := merged.chunk chunkId isChunk
    obtain ⟨chunk, inChunks, sameId, sameTenant, sameArtifact, sameVersion, content⟩ :=
      (sources row member).chunk chunkId rowChunk
    rw [ofCurrent] at sameTenant sameArtifact sameVersion
    unfold SearchRow.bodyMatches SearchRow.body at matched
    rw [content, Bool.and_eq_true] at matched
    refine ⟨chunk, inChunks, sameId, sameTenant.trans inTenant,
      sameArtifact.trans merged.artifactId.symm, merged.versionId.trans sameVersion, matched.2⟩

omit [FloatFormat F] in
/-- The items of the dictionary, in the order of the result. -/
theorem MergedAll.ordered {readable : List CurrentRow} {rows : SearchRow F → Prop}
    {byArtifact : List (String × SearchItem F)}
    (merged : MergedAll readable query rows byArtifact) :
    ((byArtifact.map (·.2)).map (·.artifactId)).Nodup ∧
      (orderBy SearchItem.key (byArtifact.map (·.2))).Pairwise (fun a b =>
        toLex (b.updatedAt, b.artifactId) < toLex (a.updatedAt, a.artifactId)) := by
  have keys : (byArtifact.map (·.2)).map (·.artifactId) = byArtifact.map (·.1) := by
    rw [List.map_map]
    apply List.map_congr_left
    intro entry member
    obtain ⟨current, _, sameId, was⟩ := merged.items entry member
    exact was.artifactId.trans sameId
  have once : ((byArtifact.map (·.2)).map (·.artifactId)).Nodup := by
    rw [keys]
    exact merged.keys
  have keyed : KeyedBy SearchItem.key (byArtifact.map (·.2)) := by
    apply List.Nodup.of_map (fun key => (ofLex (OrderDual.ofDual key)).2)
    rw [List.map_map]
    exact once
  exact ⟨once, orderBy_strict keyed⟩

end Result

/-! ### A note that two characters are found in -/

/-- Full-text tables that match nothing. -/
def silentEngine : SearchEngine Empty where
  tokenMatches _ _ := some []
  substringMatches _ _ := some []
  arrange rows := orderBy SearchRow.key rows
  token_mem := by
    intro _ _ found isFound hit member
    rw [← Option.some.inj isFound] at member
    cases member
  substring_mem := by
    intro _ _ found isFound hit member
    rw [← Option.some.inj isFound] at member
    cases member
  arrange_perm rows := orderBy_perm _ rows
  arrange_sorted rows := orderBy_sorted _ rows

end FolioLattice.Store
