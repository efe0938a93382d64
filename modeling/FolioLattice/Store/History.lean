/-
The listed history of an artifact: it is ordered by time and id, the versions
themselves by their parents.
-/

import FolioLattice.Store.Readers
import FolioLattice.Store.Texts

namespace FolioLattice.Store

open FolioLattice.Text FolioLattice.Data FolioLattice.Relational FolioLattice.Concurrency
open FolioLattice.Effects (except_mapM_keys)

/-- All versions of the artifact, from the first one on, each after its parent. -/
structure ParentChain (db : Database) (artifact : ArtifactRow) (chain : List VersionRow) : Prop where
  linked : Linked none chain
  all : chain.Perm (db.history artifact)

theorem StoreSound.parentChain {db : Database} (sound : StoreSound db) {artifact : ArtifactRow}
    (member : artifact ∈ db.artifacts) : ParentChain db artifact (db.history artifact) where
  linked := (sound.versions.chain artifact member).linked
  all := List.Perm.refl _

section Listing

variable {F : Type} [FloatFormat F]

/-- The listing is the beginning of the parent chain. -/
def ListsChain (F : Type) [FloatFormat F] (db : Database) (artifact : ArtifactRow) (limit : Int)
    (actor : Option String) : Prop :=
  ∃ views : List (VersionView F),
    versions db artifact.tenantId artifact.id limit actor = .ok views ∧
      views.map (·.id) = ((db.history artifact).take (clampLimit limit 500)).map (·.id)

def VersionRow.timeKey (version : VersionRow) : String ×ₗ String :=
  toLex (version.createdAt, version.id)

/-- Each of the first `n` versions of the chain has a smaller time and id than
every version written after it. -/
def TimesFollowChain (db : Database) (artifact : ArtifactRow) (n : Nat) : Prop :=
  ((db.history artifact).take n).Pairwise (fun a b => a.timeKey < b.timeKey) ∧
    ∀ a ∈ (db.history artifact).take n, ∀ b ∈ (db.history artifact).drop n, a.timeKey < b.timeKey

instance (db : Database) (artifact : ArtifactRow) (n : Nat) :
    Decidable (TimesFollowChain db artifact n) :=
  inferInstanceAs (Decidable (_ ∧ _))

theorem mapM_view {settings : Settings} {rows : List VersionRow}
    (recorded : ∀ row ∈ rows, ∃ version : CommittedVersion F, version.StoredAs settings row) :
    ∃ views : List (VersionView F), rows.mapM VersionRow.view = .ok views ∧
      views.map (·.id) = rows.map (·.id) := by
  apply except_mapM_keys
  intro row member
  obtain ⟨version, stored⟩ := recorded row member
  exact ⟨version.view settings, stored.viewed, stored.id.symm⟩

/-- What `versions` lists: the first rows by time and id. -/
theorem versions_eq {settings : Settings} {draw : InitializeDraw}
    {past : List (Disk × Occurrence F)} {disk : Disk} (trace : StoreTrace settings draw past disk)
    {artifact : ArtifactRow} {actor : Option String} (mayRead : MayRead disk.db actor artifact)
    (limit : Int) :
    ∃ views : List (VersionView F),
      versions disk.db artifact.tenantId artifact.id limit actor = .ok views ∧
        views.map (·.id) = ((orderBy VersionRow.timeKey (disk.db.history artifact)).take
          (clampLimit limit 500)).map (·.id) := by
  obtain ⟨view, shown, _⟩ := getArtifact_of_authorized mayRead
  have rows : disk.db.versions.filter
      (fun v => v.tenantId = artifact.tenantId && v.artifactId = artifact.id) =
        disk.db.history artifact := by
    unfold Database.history
    apply List.filter_congr
    intro version _
    unfold ofArtifact
    rw [Bool.and_comm]
  unfold versions
  rw [shown]
  simp only [bind, Except.bind, rows]
  apply mapM_view
  intro row member
  have inside := (List.mem_filter.mp (mem_orderBy.mp (List.mem_of_mem_take member))).1
  obtain ⟨version, _, stored⟩ := (StoreTrace.recorded trace).rows row inside
  exact ⟨version, stored⟩

/-- The listing is in chain order exactly when time and id follow the chain. -/
theorem versions_in_chain_order_iff {settings : Settings} {draw : InitializeDraw}
    {past : List (Disk × Occurrence F)} {disk : Disk} (trace : StoreTrace settings draw past disk)
    {artifact : ArtifactRow} (member : artifact ∈ disk.db.artifacts) {actor : Option String}
    (mayRead : MayRead disk.db actor artifact) (limit : Int) :
    ParentChain disk.db artifact (disk.db.history artifact) ∧
      (ListsChain F disk.db artifact limit actor ↔
        TimesFollowChain disk.db artifact (clampLimit limit 500)) := by
  have sound := StoreTrace.sound trace
  have ids : KeyedBy (·.id) (disk.db.history artifact) := sound.versions.versionIds.filter _
  have keyed : KeyedBy VersionRow.timeKey (disk.db.history artifact) := timeKey_keyedBy ids
  refine ⟨sound.parentChain member, ?_⟩
  obtain ⟨views, done, listed⟩ := versions_eq trace mayRead limit
  have first : ListsChain F disk.db artifact limit actor ↔
      (orderBy VersionRow.timeKey (disk.db.history artifact)).take (clampLimit limit 500) =
        (disk.db.history artifact).take (clampLimit limit 500) := by
    constructor
    · rintro ⟨views', done', chain⟩
      rw [done] at done'
      cases done'
      rw [listed] at chain
      apply ids.eq_of_map_eq ?_ ?_ chain
      · intro version inside
        exact mem_orderBy.mp (List.mem_of_mem_take inside)
      · intro version inside
        exact List.mem_of_mem_take inside
    · intro same
      exact ⟨views, done, by rw [listed, same]⟩
  rw [first]
  exact orderBy_take_eq_iff keyed _

end Listing

def swappedCreate : CreateRequest Empty where
  tenantId := "t"
  name := "n"
  data := [104]
  actor := "ann"

def swappedWrite : WriteRequest Empty where
  tenantId := "t"
  artifactId := newId "art" Uuid.one
  data := [105]
  mediaType := "text/plain"
  actor := "ann"
  reason := "edit"
  sourceContext := []
  parentVersionId := some (newId "ver" Uuid.one)

/-- Two writes in one millisecond; the second draws the smaller id. -/
def swappedCalls : List (Call Empty) :=
  [.create (CreateDraw.epoch Uuid.one) swappedCreate,
    .write (VersionDraw.epoch Uuid.nil) swappedWrite]

def swappedDisk : Disk :=
  performAll Settings.standard swappedCalls (freshDisk Settings.standard InitializeDraw.epoch)

def swappedArtifact : ArtifactRow :=
  ⟨newId "art" Uuid.one, "t", some "ann", "n", "text/plain", some (newId "ver" Uuid.nil),
    Timestamp.epoch.isoformat⟩

theorem versions_in_chain_order_iff_swapped :
    ParentChain swappedDisk.db swappedArtifact (swappedDisk.db.history swappedArtifact) ∧
      (ListsChain Empty swappedDisk.db swappedArtifact 100 (some "ann") ↔
        TimesFollowChain swappedDisk.db swappedArtifact (clampLimit 100 500)) :=
  versions_in_chain_order_iff
    (performAll_trace (.start : StoreTrace Settings.standard InitializeDraw.epoch [] _) swappedCalls)
    (by decide) (by decide) 100

/-- The second version is listed before the first. -/
theorem versions_swapped : ¬ListsChain Empty swappedDisk.db swappedArtifact 100 (some "ann") := by
  rintro ⟨views, done, chain⟩
  have listed : (versions swappedDisk.db swappedArtifact.tenantId swappedArtifact.id 100
      (some "ann") : Except Failure (List (VersionView Empty))).map (fun views => views.map (·.id)) =
        .ok [newId "ver" Uuid.nil, newId "ver" Uuid.one] := by
    decide
  have chained : ((swappedDisk.db.history swappedArtifact).take (clampLimit 100 500)).map (·.id) =
      [newId "ver" Uuid.one, newId "ver" Uuid.nil] := by
    decide
  rw [done, chained] at *
  rw [Except.map, chain] at listed
  exact absurd (Except.ok.inj listed) (by decide)

end FolioLattice.Store
