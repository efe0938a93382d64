/-
The literal search scans the text chunk by chunk.  It finds a text exactly when
some occurrence of the pattern lies within one chunk.
-/

import FolioLattice.Store.Readers
import FolioLattice.Store.Texts

namespace FolioLattice.Store

open FolioLattice.Text FolioLattice.Data FolioLattice.Relational FolioLattice.Concurrency
open FolioLattice.Effects (except_bind_ok)

/-! ### Places in a text -/

/-- The needle stands at this position. -/
def OccursAt (needle text : List Char) (position : Nat) : Prop := needle <+: text.drop position

instance (needle text : List Char) (position : Nat) : Decidable (OccursAt needle text position) :=
  inferInstanceAs (Decidable (_ <+: _))

/-- No boundary between chunks cuts an occurrence at this position. -/
def Uncut (needle : List Char) (position : Nat) : Prop :=
  position % chunkSize + needle.length ≤ chunkSize

theorem infix_iff_occursAt {needle text : List Char} :
    needle <:+: text ↔ ∃ position, OccursAt needle text position := by
  unfold OccursAt
  constructor
  · rintro ⟨before, after, joined⟩
    refine ⟨before.length, after, ?_⟩
    rw [← joined, List.append_assoc, List.drop_left]
  · rintro ⟨position, starts⟩
    exact starts.isInfix.trans (List.drop_suffix position text).isInfix

theorem occursAt_take_drop {needle text : List Char} {start size offset : Nat}
    (nonempty : needle ≠ []) :
    OccursAt needle ((text.drop start).take size) offset ↔
      OccursAt needle text (start + offset) ∧ offset + needle.length ≤ size := by
  unfold OccursAt
  rw [List.drop_take, List.drop_drop, List.prefix_take_iff]
  apply and_congr Iff.rfl
  have positive : 0 < needle.length := List.length_pos_of_ne_nil nonempty
  omega

theorem chunkAt_content (text : List Char) (ordinal : Nat) :
    (chunkAt text ordinal).content.toList = (text.drop (ordinal * chunkSize)).take chunkSize := by
  unfold chunkAt
  simp only [String.toList_ofList]
  apply List.take_eq_take_iff.mpr
  rw [List.length_drop]
  omega

theorem mem_chunks {text : List Char} {piece : Chunk} :
    piece ∈ chunks text ↔
      ∃ ordinal, ordinal * chunkSize < text.length ∧ piece = chunkAt text ordinal := by
  have positive : 0 < chunkSize := by decide
  unfold chunks
  rw [List.mem_map]
  apply exists_congr
  intro ordinal
  rw [List.mem_range, Nat.lt_div_iff_mul_lt positive]
  constructor
  · rintro ⟨inRange, same⟩
    exact ⟨by omega, same.symm⟩
  · rintro ⟨inText, same⟩
    exact ⟨by omega, same.symm⟩

/-- A match within a piece is an uncut occurrence in the text. -/
theorem occursAt_of_piece {needle text : List Char} {piece : Chunk} {offset : Nat}
    (nonempty : needle ≠ []) (member : piece ∈ chunks text)
    (inside : OccursAt needle piece.content.toList offset) :
    OccursAt needle text (piece.start + offset) ∧ Uncut needle (piece.start + offset) := by
  obtain ⟨ordinal, _, same⟩ := mem_chunks.mp member
  have start : piece.start = ordinal * chunkSize := by
    rw [same]
    rfl
  rw [same, chunkAt_content, occursAt_take_drop nonempty] at inside
  refine ⟨by rw [start]; exact inside.1, ?_⟩
  have positive : 0 < needle.length := List.length_pos_of_ne_nil nonempty
  have small : offset < chunkSize := by omega
  unfold Uncut
  rw [start, Nat.add_comm (ordinal * chunkSize), Nat.add_mul_mod_self_right,
    Nat.mod_eq_of_lt small]
  exact inside.2

/-- An uncut occurrence is a match within a piece. -/
theorem exists_piece {needle text : List Char} {position : Nat} (nonempty : needle ≠ [])
    (occurs : OccursAt needle text position) (uncut : Uncut needle position) :
    ∃ piece ∈ chunks text, needle <:+: piece.content.toList := by
  have positive : 0 < needle.length := List.length_pos_of_ne_nil nonempty
  have split : position / chunkSize * chunkSize + position % chunkSize = position :=
    Nat.div_add_mod' position chunkSize
  have inText : position < text.length := by
    have longer := occurs.length_le
    rw [List.length_drop] at longer
    omega
  refine ⟨chunkAt text (position / chunkSize), mem_chunks.mpr ⟨_, by omega, rfl⟩, ?_⟩
  apply infix_iff_occursAt.mpr
  refine ⟨position % chunkSize, ?_⟩
  rw [chunkAt_content, occursAt_take_drop nonempty, split]
  exact ⟨occurs, uncut⟩

/-! ### Matching rows -/

/-- What `grep` finds, before it is cut to the limit. -/
def Database.grepMatches (db : Database) (tenantId pattern : String) (actor : Option String) :
    List GrepMatch :=
  match accessClause db actor .read with
  | .error _ => []
  | .ok access =>
      (orderBy grepKey (db.currentChunks tenantId access)).filterMap (fun row =>
        (find row.1.content.toList pattern.toList).map
          (fun offset => ⟨row.1, row.2, pattern, offset⟩))

theorem grep_eq {db : Database} {tenantId pattern : String} {limit : Int} {actor : Option String}
    {access : ArtifactRow → Bool} (nonempty : pattern ≠ "") (short : pattern.length ≤ maxQueryLength)
    (granted : accessClause db actor .read = .ok access) :
    grep db tenantId pattern limit actor =
      .ok ((db.grepMatches tenantId pattern actor).take (clampLimit limit 500)) := by
  have notEmpty : ¬pattern.isEmpty = true := by
    rw [String.isEmpty_iff]
    exact nonempty
  unfold grep Database.grepMatches
  rw [if_neg notEmpty, if_neg (by omega), granted]
  rfl

theorem grep_ok {db : Database} {tenantId pattern : String} {limit : Int} {actor : Option String}
    {found : List GrepMatch} (nonempty : pattern ≠ "") (short : pattern.length ≤ maxQueryLength)
    (done : grep db tenantId pattern limit actor = .ok found) :
    found = (db.grepMatches tenantId pattern actor).take (clampLimit limit 500) := by
  cases granted : accessClause db actor .read with
  | ok access =>
      rw [grep_eq nonempty short granted] at done
      exact (Except.ok.inj done).symm
  | error e =>
      have notEmpty : ¬pattern.isEmpty = true := by
        rw [String.isEmpty_iff]
        exact nonempty
      unfold grep at done
      rw [if_neg notEmpty, if_neg (by omega), granted] at done
      cases done

/-- A row matches: it is a chunk of the current version of a readable artifact. -/
theorem mem_grepMatches {db : Database} (sound : StoreSound db) {tenantId pattern : String}
    {actor : Option String} {item : GrepMatch} :
    item ∈ db.grepMatches tenantId pattern actor ↔
      item.chunk ∈ db.chunks ∧ item.matched = pattern ∧
        find item.chunk.content.toList pattern.toList = some item.matchOffset ∧
        ∃ artifact ∈ db.artifacts, artifact.tenantId = tenantId ∧ MayRead db actor artifact ∧
          item.chunk.artifactId = artifact.id ∧ item.chunk.tenantId = tenantId ∧
          artifact.currentVersionId = some item.chunk.versionId ∧
          item.artifactName = artifact.name := by
  unfold Database.grepMatches
  cases granted : accessClause db actor .read with
  | error e =>
      simp only [List.not_mem_nil, false_iff]
      rintro ⟨_, _, _, artifact, member, _, mayRead, _⟩
      obtain ⟨access, impossible⟩ := mayRead.accessClause sound member
      rw [granted] at impossible
      cases impossible
  | ok access =>
      simp only [List.mem_filterMap, mem_orderBy, Database.currentChunks, List.mem_filter,
        decide_eq_true_eq, Option.map_eq_some_iff]
      constructor
      · rintro ⟨row, ⟨chunk, ⟨inside, inTenant⟩, artifact, found, sameRow⟩, offset, placed, same⟩
        subst sameRow same
        have holds := List.find?_some found
        simp only [Bool.and_eq_true, decide_eq_true_eq] at holds
        obtain ⟨⟨⟨sameId, sameTenant⟩, current⟩, permitted⟩ := holds
        have member := List.mem_of_find?_eq_some found
        exact ⟨inside, rfl, placed, artifact, member, sameTenant.trans inTenant,
          (access_iff sound granted member).mp permitted, sameId.symm, inTenant, current, rfl⟩
      · rintro ⟨inside, sameText, placed, artifact, member, ofTenant, mayRead, sameId, inTenant,
          current, sameName⟩
        refine ⟨(item.chunk, artifact.name), ⟨item.chunk, ⟨inside, inTenant⟩, artifact, ?_, rfl⟩,
          item.matchOffset, placed, ?_⟩
        · apply sound.versions.artifactIds.find? member
          · simp only [Bool.and_eq_true, decide_eq_true_eq]
            exact ⟨⟨⟨sameId.symm, ofTenant.trans inTenant.symm⟩, current⟩,
              (access_iff sound granted member).mpr mayRead⟩
          · intro other holds
            simp only [Bool.and_eq_true, decide_eq_true_eq] at holds
            exact holds.1.1.1.trans sameId
        · rw [← sameText, ← sameName]

/-! ### The scan -/

section Scan

variable {F : Type} [FloatFormat F]

/-- The row is found in the text that its artifact now has. -/
def GrepMatch.InText (item : GrepMatch) (committed : List (CommittedVersion F)) (db : Database)
    (actor : Option String) (pattern : String) : Prop :=
  ∃ artifact ∈ db.artifacts, item.chunk.artifactId = artifact.id ∧ MayRead db actor artifact ∧
    ∃ version, Current committed artifact version ∧ ∃ text, version.text = some text ∧
      OccursAt pattern.toList text (item.chunk.startOffset + item.matchOffset)

/-- Unless the limit cuts the result, every readable current text that contains
the pattern is in it; and every item's position is a place of the pattern. -/
structure CompleteScan (committed : List (CommittedVersion F)) (db : Database)
    (tenantId pattern : String) (limit : Int) (actor : Option String) : Prop where
  found : (db.grepMatches tenantId pattern actor).length < clampLimit limit 500 →
    ∀ artifact ∈ db.artifacts, artifact.tenantId = tenantId → MayRead db actor artifact →
    ∀ version, Current committed artifact version → ∀ text, version.text = some text →
      pattern.toList <:+: text →
      ∃ items, grep db tenantId pattern limit actor = .ok items ∧
        ∃ item ∈ items, item.chunk.artifactId = artifact.id
  placed : ∀ items, grep db tenantId pattern limit actor = .ok items →
    ∀ item ∈ items, item.InText committed db actor pattern

/-- Unless the limit cuts the result, every readable current text that contains
the pattern contains it within one chunk. -/
def UncutTexts (committed : List (CommittedVersion F)) (db : Database)
    (tenantId pattern : String) (limit : Int) (actor : Option String) : Prop :=
  (db.grepMatches tenantId pattern actor).length < clampLimit limit 500 →
    ∀ artifact ∈ db.artifacts, artifact.tenantId = tenantId → MayRead db actor artifact →
    ∀ version, Current committed artifact version → ∀ text, version.text = some text →
      pattern.toList <:+: text →
      ∃ position, OccursAt pattern.toList text position ∧ Uncut pattern.toList position

variable {settings : Settings} {draw : InitializeDraw} {past : List (Disk × Occurrence F)}
  {disk : Disk} {tenantId pattern : String} {actor : Option String}

/-- A matching row shows an uncut occurrence in its artifact's text. -/
theorem mem_grepMatches_uncut (trace : StoreTrace settings draw past disk) (nonempty : pattern ≠ "")
    {item : GrepMatch} (member : item ∈ disk.db.grepMatches tenantId pattern actor)
    {artifact : ArtifactRow} (inside : artifact ∈ disk.db.artifacts)
    (sameId : item.chunk.artifactId = artifact.id) {version : CommittedVersion F}
    (current : Current (versionsCommitted settings past) artifact version) :
    ∃ text, version.text = some text ∧
      OccursAt pattern.toList text (item.chunk.startOffset + item.matchOffset) ∧
      Uncut pattern.toList (item.chunk.startOffset + item.matchOffset) := by
  have sound := StoreTrace.sound trace
  obtain ⟨chunkMember, _, placed, other, otherMember, _, _, isOthers, _, points, _⟩ :=
    (mem_grepMatches sound).mp member
  have same : other = artifact :=
    sound.versions.artifactIds.eq otherMember inside (isOthers.symm.trans sameId)
  subst same
  have ofVersion : item.chunk.versionId = version.versionId :=
    Option.some.inj (points.symm.trans current.2)
  obtain ⟨piece, pieceMember, held⟩ :=
    ((StoreTrace.recorded trace).chunked version current.1).only item.chunk chunkMember ofVersion
  unfold CommittedVersion.pieces at pieceMember
  have notNil : pattern.toList ≠ [] := by
    rw [Ne, String.toList_eq_nil_iff]
    exact nonempty
  cases readable : version.text with
  | none =>
      rw [readable] at pieceMember
      cases pieceMember
  | some text =>
      rw [readable] at pieceMember
      have occurs := find_some placed
      rw [held.content] at occurs
      rw [held.startOffset]
      exact ⟨text, rfl, occursAt_of_piece notNil pieceMember occurs⟩

/-- An uncut occurrence makes a row match. -/
theorem exists_grepMatch (trace : StoreTrace settings draw past disk) (nonempty : pattern ≠ "")
    {artifact : ArtifactRow} (member : artifact ∈ disk.db.artifacts)
    (ofTenant : artifact.tenantId = tenantId) (mayRead : MayRead disk.db actor artifact)
    {version : CommittedVersion F}
    (current : Current (versionsCommitted settings past) artifact version) {text : List Char}
    (readable : version.text = some text) {position : Nat}
    (occurs : OccursAt pattern.toList text position) (uncut : Uncut pattern.toList position) :
    ∃ item ∈ disk.db.grepMatches tenantId pattern actor, item.chunk.artifactId = artifact.id := by
  have sound := StoreTrace.sound trace
  have notNil : pattern.toList ≠ [] := by
    rw [Ne, String.toList_eq_nil_iff]
    exact nonempty
  obtain ⟨piece, pieceMember, inside⟩ := exists_piece notNil occurs uncut
  have ofVersion : piece ∈ version.pieces := by
    unfold CommittedVersion.pieces
    rw [readable]
    exact pieceMember
  obtain ⟨row, rowMember, held⟩ :=
    ((StoreTrace.recorded trace).chunked version current.1).stored piece ofVersion
  obtain ⟨sameArtifact, sameTenant⟩ := current.home trace member
  rw [← held.content, ← contains_iff] at inside
  obtain ⟨offset, placed⟩ := Option.isSome_iff_exists.mp inside
  refine ⟨⟨row, artifact.name, pattern, offset⟩, ?_, held.artifactId.trans sameArtifact⟩
  apply (mem_grepMatches sound).mpr
  refine ⟨rowMember, rfl, placed, artifact, member, ofTenant, mayRead,
    held.artifactId.trans sameArtifact, held.tenantId.trans (sameTenant.trans ofTenant), ?_, rfl⟩
  rw [current.2, held.versionId]

/-- What the scan returns is always in place. -/
theorem grep_inText (trace : StoreTrace settings draw past disk) (nonempty : pattern ≠ "")
    (short : pattern.length ≤ maxQueryLength) {limit : Int} {items : List GrepMatch}
    (done : grep disk.db tenantId pattern limit actor = .ok items) {item : GrepMatch}
    (member : item ∈ items) :
    item.InText (versionsCommitted settings past) disk.db actor pattern := by
  rw [grep_ok nonempty short done] at member
  have matching := List.mem_of_mem_take member
  obtain ⟨_, _, _, artifact, inside, _, mayRead, sameId, _⟩ :=
    (mem_grepMatches (StoreTrace.sound trace)).mp matching
  obtain ⟨version, current⟩ := StoreTrace.current trace inside
  obtain ⟨text, readable, occurs, _⟩ :=
    mem_grepMatches_uncut trace nonempty matching inside sameId current
  exact ⟨artifact, inside, sameId, mayRead, version, current, text, readable, occurs⟩

/-- A text of which every occurrence is cut is not found. -/
theorem grep_misses (trace : StoreTrace settings draw past disk) (nonempty : pattern ≠ "")
    (short : pattern.length ≤ maxQueryLength) {limit : Int} {items : List GrepMatch}
    (done : grep disk.db tenantId pattern limit actor = .ok items) {artifact : ArtifactRow}
    (inside : artifact ∈ disk.db.artifacts) {version : CommittedVersion F}
    (current : Current (versionsCommitted settings past) artifact version)
    (cut : ∀ text, version.text = some text → ∀ position, OccursAt pattern.toList text position →
      ¬Uncut pattern.toList position) :
    ∀ item ∈ items, item.chunk.artifactId ≠ artifact.id := by
  intro item member sameId
  rw [grep_ok nonempty short done] at member
  obtain ⟨text, readable, occurs, uncut⟩ := mem_grepMatches_uncut trace nonempty
    (List.mem_of_mem_take member) inside sameId current
  exact cut text readable _ occurs uncut

/-- The scan is complete exactly when no readable text has the pattern across
chunk boundaries only. -/
theorem complete_scan_iff (trace : StoreTrace settings draw past disk) (nonempty : pattern ≠ "")
    (short : pattern.length ≤ maxQueryLength) (limit : Int) :
    CompleteScan (versionsCommitted settings past) disk.db tenantId pattern limit actor ↔
      UncutTexts (versionsCommitted settings past) disk.db tenantId pattern limit actor := by
  constructor
  · intro scan few artifact inside ofTenant mayRead version current text readable contained
    by_contra allCut
    obtain ⟨items, done, item, member, sameId⟩ :=
      scan.found few artifact inside ofTenant mayRead version current text readable contained
    refine grep_misses trace nonempty short done inside current ?_ item member sameId
    intro other sameText position occurs uncut
    rw [readable] at sameText
    cases sameText
    exact allCut ⟨position, occurs, uncut⟩
  · intro uncutTexts
    constructor
    · intro few artifact inside ofTenant mayRead version current text readable contained
      obtain ⟨position, occurs, uncut⟩ :=
        uncutTexts few artifact inside ofTenant mayRead version current text readable contained
      obtain ⟨item, member, sameId⟩ :=
        exists_grepMatch trace nonempty inside ofTenant mayRead current readable occurs uncut
      obtain ⟨access, granted⟩ := mayRead.accessClause (StoreTrace.sound trace) inside
      refine ⟨_, grep_eq nonempty short granted, item, ?_, sameId⟩
      rw [List.take_of_length_le (Nat.le_of_lt few)]
      exact member
    · intro items done item member
      exact grep_inText trace nonempty short done member

end Scan

/-- A note in which `bc` lies across the end of the first chunk. -/
def cutNote : CreateRequest Empty where
  tenantId := "t"
  name := "n"
  data := List.replicate 1199 97 ++ [98, 99]
  mediaType := some "text/plain"
  actor := "ann"

def cutNoteDraw : CreateDraw :=
  { CreateDraw.epoch Uuid.nil with
    version :=
      { VersionDraw.epoch Uuid.nil with
        chunkId := fun ordinal => if ordinal = 0 then Uuid.nil else Uuid.one } }

def cutNoteDisk : Disk :=
  performAll Settings.standard [.create cutNoteDraw cutNote]
    (freshDisk Settings.standard InitializeDraw.epoch)

def cutNotePast : List (Disk × Occurrence Empty) :=
  moments Settings.standard [.create cutNoteDraw cutNote]
    (freshDisk Settings.standard InitializeDraw.epoch)

theorem cutNote_trace :
    StoreTrace Settings.standard InitializeDraw.epoch cutNotePast cutNoteDisk :=
  performAll_trace .start [.create cutNoteDraw cutNote]

/-- The rule at the note. -/
theorem complete_scan_iff_cut_note :
    CompleteScan (versionsCommitted Settings.standard cutNotePast) cutNoteDisk.db "t" "bc" 100
        (some "ann") ↔
      UncutTexts (versionsCommitted Settings.standard cutNotePast) cutNoteDisk.db "t" "bc" 100
        (some "ann") :=
  complete_scan_iff cutNote_trace (by decide) (by decide) 100

theorem cutNote_text :
    textFor cutNote.data "text/plain" = some (List.replicate 1199 'a' ++ ['b', 'c']) := by
  decide +kernel

theorem cutNote_artifacts : cutNoteDisk.db.artifacts =
    [⟨newId "art" Uuid.nil, "t", some "ann", "n", "text/plain", some (newId "ver" Uuid.nil),
      Timestamp.epoch.isoformat⟩] := by
  decide +kernel

theorem cutNote_committed :
    (versionsCommitted Settings.standard cutNotePast).map
        (fun version => (version.versionId, version.data, version.mediaType)) =
      [(newId "ver" Uuid.nil, cutNote.data, "text/plain")] := by
  decide +kernel

/-- The only place of `bc` in the note is cut. -/
theorem cutNote_cut {position : Nat}
    (occurs : OccursAt ['b', 'c'] (List.replicate 1199 'a' ++ ['b', 'c']) position) :
    ¬Uncut ['b', 'c'] position := by
  unfold OccursAt at occurs
  rcases Nat.lt_trichotomy position 1199 with before | atEnd | after
  · -- an `a` stands there
    rw [List.drop_append_of_le_length (by rw [List.length_replicate]; omega),
      List.drop_replicate] at occurs
    obtain ⟨more, split⟩ : ∃ more, 1199 - position = more + 1 := ⟨1198 - position, by omega⟩
    rw [split, List.replicate_succ, List.cons_append, List.cons_prefix_cons] at occurs
    exact absurd occurs.1 (by decide)
  · unfold Uncut chunkSize
    rw [atEnd]
    decide
  · have short := occurs.length_le
    rw [List.length_drop, List.length_append, List.length_replicate] at short
    simp only [List.length_cons, List.length_nil] at short
    omega

/-- The note contains the text, and a search for it misses the note. -/
theorem grep_misses_cut_note :
    ¬CompleteScan (versionsCommitted Settings.standard cutNotePast) cutNoteDisk.db "t" "bc" 100
      (some "ann") := by
  intro scan
  have trace := cutNote_trace
  obtain ⟨version, committed, shown⟩ := List.mem_map.mp
    (show (newId "ver" Uuid.nil, cutNote.data, "text/plain") ∈ _ from
      cutNote_committed ▸ List.mem_singleton_self _)
  obtain ⟨sameId, sameRest⟩ := Prod.mk.inj shown
  obtain ⟨sameData, sameType⟩ := Prod.mk.inj sameRest
  have text : version.text = some (List.replicate 1199 'a' ++ ['b', 'c']) := by
    unfold CommittedVersion.text
    rw [sameData, sameType]
    exact cutNote_text
  have only : ∀ artifact ∈ cutNoteDisk.db.artifacts,
      artifact.tenantId = "t" ∧ artifact.ownerActorId = some "ann" ∧
        artifact.currentVersionId = some version.versionId := by
    rw [cutNote_artifacts, sameId]
    intro artifact member
    rw [List.mem_singleton.mp member]
    exact ⟨rfl, rfl, rfl⟩
  obtain ⟨artifact, inside⟩ : ∃ artifact, artifact ∈ cutNoteDisk.db.artifacts := by
    rw [cutNote_artifacts]
    exact ⟨_, List.mem_singleton_self _⟩
  obtain ⟨ofTenant, owned, points⟩ := only artifact inside
  have mayRead : MayRead cutNoteDisk.db (some "ann") artifact := by
    apply (mayRead_iff (StoreTrace.sound trace) inside).mpr
    intro x same
    cases same
    refine ⟨by decide, ?_⟩
    unfold Database.permits
    rw [owned]
    rfl
  have cut : ∀ text, version.text = some text → ∀ position,
      OccursAt "bc".toList text position → ¬Uncut "bc".toList position := by
    intro other same position occurs
    rw [text] at same
    cases same
    exact cutNote_cut occurs
  have nothing : cutNoteDisk.db.grepMatches "t" "bc" (some "ann") = [] := by
    apply List.eq_nil_iff_forall_not_mem.mpr
    intro item member
    obtain ⟨_, _, _, other, otherInside, _, _, isOthers, _⟩ :=
      (mem_grepMatches (StoreTrace.sound trace)).mp member
    obtain ⟨found, readable, occurs, uncut⟩ := mem_grepMatches_uncut trace (by decide) member
      otherInside isOthers ⟨committed, (only other otherInside).2.2⟩
    exact cut found readable _ occurs uncut
  obtain ⟨items, done, item, member, sameArtifact⟩ := scan.found (by rw [nothing]; decide) artifact
    inside ofTenant mayRead version ⟨committed, points⟩ _ text
    ⟨List.replicate 1199 'a', [], List.append_nil _⟩
  exact grep_misses trace (by decide) (by decide) done inside ⟨committed, points⟩ cut item member
    sameArtifact

end FolioLattice.Store
