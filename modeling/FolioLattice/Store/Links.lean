/-
The edges as a map that is written once: a link keeps its id and its metadata through
every later call, and is linked again only with metadata of the same JSON value.
-/

import FolioLattice.Store.Startup
import FolioLattice.Store.Traversal

namespace FolioLattice.Store

open FolioLattice.Text FolioLattice.Data FolioLattice.Relational FolioLattice.Concurrency
open FolioLattice.Effects (except_bind_ok)

variable {F : Type} [FloatFormat F]

/-! ### JSON values -/

/-- Equal JSON values: the strings name the same characters, and keys have no order. -/
def JsonEqual (left right : Json F) : Prop := left.reread.sortKeys = right.reread.sortKeys

/-- The canonical text is one of the JSON value. -/
theorem dumps_eq_of_jsonEqual {left right : Json F} (leftKeyed : left.WellKeyed)
    (rightKeyed : right.WellKeyed) (equal : JsonEqual left right) (allowNan : Bool) :
    dumps allowNan left = dumps allowNan right := by
  have canonical : ∀ value : Json F, value.WellKeyed → dumps allowNan value =
      if value.reread.sortKeys.encodable allowNan then some value.reread.sortKeys.print
      else none := by
    intro value keyed
    unfold dumps
    rw [Json.encodable_sortKeys, Json.encodable_reread allowNan keyed, Json.sortKeys_reread keyed,
      Json.print_reread (Json.sortKeys_wellKeyed keyed)]
  rw [canonical left leftKeyed, canonical right rightKeyed, equal]

theorem jsonEqual_of_dumps {left right : Json F} (leftKeyed : left.WellKeyed)
    (rightKeyed : right.WellKeyed) {allowNan : Bool} {text : List Char}
    (leftDumped : dumps allowNan left = some text)
    (rightDumped : dumps allowNan right = some text) : JsonEqual left right := by
  have fromLeft := loads_dumps leftDumped
  rw [loads_dumps rightDumped] at fromLeft
  unfold JsonEqual
  rw [Json.sortKeys_reread leftKeyed, Json.sortKeys_reread rightKeyed]
  exact (Except.ok.inj fromLeft).symm

/-- What was written for one value is written for another exactly if they are equal. -/
theorem json_eq_iff {left right : Json F} {field text : String} (leftKeyed : left.WellKeyed)
    (rightKeyed : right.WellKeyed) (written : json left field = .ok text) :
    json right field = .ok text ↔ JsonEqual left right := by
  constructor
  · intro again
    obtain ⟨printed, leftDumped, same⟩ := json_ok written
    obtain ⟨printed', rightDumped, same'⟩ := json_ok again
    have one : printed' = printed := String.ofList_injective (same'.symm.trans same)
    exact jsonEqual_of_dumps leftKeyed rightKeyed leftDumped (one ▸ rightDumped)
  · intro equal
    unfold json at written ⊢
    rw [← dumps_eq_of_jsonEqual leftKeyed rightKeyed equal]
    exact written

/-- What was written reads back as an equal value. -/
theorem loadText_jsonEqual {value : Json F} {field text : String} (keyed : value.WellKeyed)
    (written : json value field = .ok text) :
    ∃ stored : Json F, loadText text = .ok stored ∧ JsonEqual stored value := by
  refine ⟨_, loadText_json written, ?_⟩
  unfold JsonEqual
  have sortedKeyed := Json.sortKeys_wellKeyed keyed
  have normal := Json.reread_normal sortedKeyed
  rw [Json.reread_of_joined normal.1 normal.2, ← Json.sortKeys_reread keyed,
    Json.sortKeys_sortKeys]

/-! ### One link -/

/-- The columns of the edges' unique constraint. -/
def EdgeRow.linkKey (edge : EdgeRow) : String × String × String × String :=
  (edge.tenantId, edge.sourceArtifactId, edge.targetArtifactId, edge.edgeType)

def LinkRequest.linkKey (request : LinkRequest F) : String × String × String × String :=
  (request.tenantId, request.sourceArtifactId, request.targetArtifactId, request.edgeType)

/-- The actor may write both ends. -/
def LinkRequest.Authorized (request : LinkRequest F) (db : Database) : Prop :=
  linkEnd db request.tenantId request.sourceArtifactId request.actor = .ok () ∧
    linkEnd db request.tenantId request.targetArtifactId request.actor = .ok ()

def linkDiffers : Failure := .folio "edge already exists with different immutable metadata"

section Link

variable {draw : EdgeDraw} {request : LinkRequest F} {metadataJson : String} {db db' : Database}
  {edge row : EdgeRow}

theorem sameLink_iff {a b : EdgeRow} : a.sameLink b = true ↔ a.linkKey = b.linkKey := by
  unfold EdgeRow.sameLink EdgeRow.linkKey
  simp only [Bool.and_eq_true, decide_eq_true_eq, Prod.mk.injEq, and_assoc]

theorem EdgesSound.linkKeys (sound : EdgesSound db) : KeyedBy EdgeRow.linkKey db.edges := by
  apply sound.apart.keyedBy
  intro new old same
  unfold EdgeRow.clashes
  rw [sameLink_iff.mpr same, Bool.or_true]

omit [FloatFormat F] in
/-- A link whose edge is there compares the texts of the metadata. -/
theorem linkBody_present (sound : EdgesSound db) (authorized : request.Authorized db)
    (present : edge ∈ db.edges) (joins : edge.linkKey = request.linkKey) :
    linkBody draw request metadataJson db =
      if edge.metadataJson = metadataJson then .ok (db, edge) else .error linkDiffers := by
  have found : db.edges.find? (request.edgeRow metadataJson draw).sameLink = some edge := by
    have here : (request.edgeRow metadataJson draw).sameLink edge = true :=
      sameLink_iff.mpr joins.symm
    cases first : db.edges.find? (request.edgeRow metadataJson draw).sameLink with
    | none => exact absurd here (List.find?_eq_none.mp first edge present)
    | some other =>
        have same := sameLink_iff.mp (List.find?_some first)
        rw [sound.linkKeys.eq (List.mem_of_find?_eq_some first) present (same.symm.trans joins.symm)]
  unfold linkBody
  rw [authorized.1, authorized.2]
  dsimp only [bind, Except.bind]
  rw [found]
  change (if edge.metadataJson ≠ metadataJson then Except.error linkDiffers
    else Except.ok (db, edge)) = _
  by_cases same : edge.metadataJson = metadataJson
  · rw [if_neg (not_not.mpr same), if_pos same]
  · rw [if_pos same, if_neg same]

omit [FloatFormat F] in
/-- The edge that a link answers is stored, for its ends and with its text. -/
theorem linkBody_stored (linked : linkBody draw request metadataJson db = .ok (db', row)) :
    row ∈ db'.edges ∧ row.linkKey = request.linkKey ∧ row.metadataJson = metadataJson := by
  obtain ⟨_, _, ⟨same, present⟩ | ⟨isNew, added, _⟩⟩ := linkBody_ok linked
  · have found := linked
    unfold linkBody at found
    obtain ⟨_, _, found⟩ := except_bind_ok found
    obtain ⟨_, _, found⟩ := except_bind_ok found
    simp only at found
    split at found
    · rename_i existing isFirst
      split at found
      · cases found
      · rename_i sameText
        cases found
        rw [not_not] at sameText
        exact ⟨present, (sameLink_iff.mp (List.find?_some isFirst)).symm, sameText⟩
    · rename_i absent
      obtain ⟨edges, one, result⟩ := except_bind_ok found
      obtain ⟨_, fresh⟩ := insertUnique_ok one
      obtain ⟨_, isRow⟩ := Prod.mk.inj (Except.ok.inj result)
      rw [isRow] at fresh
      have alone := fresh row (same ▸ present)
      unfold EdgeRow.clashes at alone
      simp at alone
  · rw [added]
    refine ⟨List.mem_append_right _ (List.mem_singleton.mpr rfl), ?_, ?_⟩ <;> rw [isNew] <;> rfl

end Link

/-! ### The edges of a service -/

section Runs

variable {settings : Settings} {draw : InitializeDraw} {service service' : Service}

/-- No edge joins an artifact to itself. -/
def NoSelfLinks (db : Database) : Prop :=
  ∀ edge ∈ db.edges, edge.sourceArtifactId ≠ edge.targetArtifactId

theorem NoSelfLinks.grow {db db' : Database} (noSelf : NoSelfLinks db)
    (grown : db'.edges = db.edges ∨ ∃ edge : EdgeRow,
      edge.sourceArtifactId ≠ edge.targetArtifactId ∧ db'.edges = db.edges ++ [edge]) :
    NoSelfLinks db' := by
  intro edge member
  rcases grown with same | ⟨new, differ, added⟩
  · rw [same] at member
    exact noSelf edge member
  · rw [added] at member
    rcases List.mem_append.mp member with old | last
    · exact noSelf edge old
    · rw [List.mem_singleton.mp last]
      exact differ

theorem LinkRequest.validate_of {request : LinkRequest F} {text : String}
    (differ : request.sourceArtifactId ≠ request.targetArtifactId)
    (edgeType : ValidText request.edgeType maxEdgeTypeLength)
    (encoded : json (.obj request.metadata) "metadata" = .ok text) :
    request.validate = .ok text := by
  unfold LinkRequest.validate
  rw [if_neg differ, validateText_ok_iff.mpr edgeType]
  exact encoded

/-- A call keeps the edges, or adds one between two artifacts. -/
theorem Effect.edgesGrow {db db' : Database} {call : Call F} {answer : Reply}
    (effect : Effect settings db call answer db') :
    db'.edges = db.edges ∨ ∃ edge : EdgeRow, edge.sourceArtifactId ≠ edge.targetArtifactId ∧
      db'.edges = db.edges ++ [edge] := by
  cases effect with
  | linked valid _ _ _ => exact Or.inr ⟨_, (LinkRequest.validate_ok valid).1, rfl⟩
  | initialized same _ => exact Or.inl same.edges
  | _ => exact Or.inl rfl

theorem Effect.noSelfLinks {db db' : Database} {call : Call F} {answer : Reply}
    (effect : Effect settings db call answer db') (noSelf : NoSelfLinks db) : NoSelfLinks db' :=
  NoSelfLinks.grow noSelf effect.edgesGrow

/-- What one step of a service may do to the edges. -/
theorem ServiceStep.edgesGrow {event : ServiceEvent F} (sound : ServiceSound settings service)
    (step : ServiceStep settings service event service') :
    service'.disk.db.edges = service.disk.db.edges ∨
      ∃ edge : EdgeRow, edge.sourceArtifactId ≠ edge.targetArtifactId ∧
        service'.disk.db.edges = service.disk.db.edges ++ [edge] := by
  cases step with
  | @store _ _ disk step =>
      rcases storeStep_cases sound.store step with ⟨call, answer, _, effect⟩ | ⟨_, members, same⟩
      · exact effect.edgesGrow
      · left
        change disk.db.edges = _
        rw [same]
  | audit _ call =>
      obtain ⟨tenants, events, same⟩ : TrailOnly service.tables.store.db
        (call.after settings service.tables.store).db :=
          AuditCall.after_trailOnly call service.tables.store
      left
      change (call.after settings service.tables.store).db.edges = _
      rw [same]
      rfl
  | external _ tenants registry => exact Or.inl rfl
  | start _ draw =>
      rw [sound.settled.fixed]
      exact Or.inl rfl

/-- No edge is ever changed or deleted. -/
theorem edges_kept {past : List (Service × ServiceEvent F)} (sound : ServiceSound settings service)
    (trace : Trace (ServiceStep settings) service past service') :
    service.disk.db.edges <+: service'.disk.db.edges := by
  apply trace.preorder (P := ServiceSound settings)
    (R := fun one two => one.disk.db.edges <+: two.disk.db.edges)
  · exact fun _ => List.prefix_rfl
  · exact fun _ _ _ first second => first.trans second
  · exact fun _ _ _ sound step => sound.step step
  · intro one event two sound step
    rcases step.edgesGrow sound with same | ⟨edge, _, added⟩
    · rw [same]
    · rw [added]
      exact List.prefix_append _ _
  · exact sound

theorem ServiceSound.noSelfLinks {event : ServiceEvent F} (sound : ServiceSound settings service)
    (noSelf : NoSelfLinks service.disk.db) (step : ServiceStep settings service event service') :
    NoSelfLinks service'.disk.db :=
  noSelf.grow (step.edgesGrow sound)

/-- What holds of the edges at every moment. -/
structure EdgeMap (db : Database) : Prop where
  oneEach : KeyedBy EdgeRow.linkKey db.edges
  noSelf : NoSelfLinks db
  sources : ∀ edge ∈ db.edges, ∃ artifact ∈ db.artifacts,
    artifact.id = edge.sourceArtifactId ∧ artifact.tenantId = edge.tenantId
  targets : ∀ edge ∈ db.edges, ∃ artifact ∈ db.artifacts,
    artifact.id = edge.targetArtifactId ∧ artifact.tenantId = edge.tenantId

theorem EdgeMap.of (sound : ServiceSound settings service) (none' : NoSelfLinks service.disk.db) :
    EdgeMap service.disk.db where
  oneEach := sound.store.edges.linkKeys
  noSelf := none'
  sources := sound.store.edges.sources
  targets := sound.store.edges.targets

/-- The service after a call of the store. -/
def Service.withDisk (service : Service) (disk : Disk) : Service :=
  ⟨service.tables.withDb disk.db, disk.files⟩

/-- What a link call answers, and what every later one for the same ends and type does. -/
structure LinkAnswers (settings : Settings) (service : Service) (request : LinkRequest F)
    (disk : Disk) (edge : EdgeRow) : Prop where
  stored : edge ∈ disk.db.edges
  joins : edge.linkKey = request.linkKey
  shown : ∃ view : EdgeView F, edge.view = .ok view ∧
    JsonEqual view.metadata (.obj request.metadata)
  again : ∀ (later : List (Service × ServiceEvent F)) (service' : Service),
    Trace (ServiceStep settings) (service.withDisk disk) later service' →
    ∀ (draw : EdgeDraw) (other : LinkRequest F), other.linkKey = request.linkKey →
      (Json.obj other.metadata).WellKeyed → other.Authorized service'.disk.db →
      JsonEqual (.obj other.metadata) (.obj request.metadata) →
      (perform settings (.link draw other) service'.disk).2 = .ok (.linked edge)
  different : ∀ (later : List (Service × ServiceEvent F)) (service' : Service),
    Trace (ServiceStep settings) (service.withDisk disk) later service' →
    ∀ (draw : EdgeDraw) (other : LinkRequest F), other.linkKey = request.linkKey →
      (Json.obj other.metadata).WellKeyed →
      ¬JsonEqual (.obj other.metadata) (.obj request.metadata) →
      ∃ e, (perform settings (.link draw other) service'.disk).2 = .error e

theorem perform_link_ok {linkDraw : EdgeDraw} {request : LinkRequest F} {disk disk' : Disk}
    {answer : Reply} (done : perform settings (.link linkDraw request) disk = (disk', .ok answer)) :
    ∃ metadata row, request.validate = .ok metadata ∧ answer = .linked row ∧
      linkBody linkDraw request metadata disk.db = .ok (disk'.db, row) := by
  unfold perform at done
  rcases commit_cases disk ((Call.link linkDraw request).body settings disk) with
    ⟨db, value, yields, committed⟩ | ⟨e, _, failed⟩
  · rw [committed] at done
    obtain ⟨sameDisk, sameAnswer⟩ := Prod.mk.inj done
    obtain ⟨metadata, valid, replied⟩ := checked_ok yields
    obtain ⟨row, linked, isRow⟩ := reply_ok replied
    refine ⟨metadata, row, valid, (Except.ok.inj sameAnswer).symm.trans isRow, ?_⟩
    rw [← sameDisk]
    exact linked
  · rw [failed] at done
    cases (Prod.mk.inj done).2

theorem perform_link_of {linkDraw : EdgeDraw} {request : LinkRequest F} {disk : Disk}
    {metadata : String} {row : EdgeRow} (valid : request.validate = .ok metadata)
    (linked : linkBody linkDraw request metadata disk.db = .ok (disk.db, row)) :
    (perform settings (.link linkDraw request) disk).2 = .ok (.linked row) := by
  have body : (Call.link linkDraw request).body settings disk =
      (disk.files, .ok (disk.db, .linked row)) := by
    unfold Call.body
    dsimp only
    unfold checked reply
    rw [valid]
    dsimp only
    rw [linked]
    rfl
  unfold perform
  rw [body]
  rfl

/-- The link that was answered, through the calls that follow it. -/
theorem linkAnswers_of {linkDraw : EdgeDraw} {request : LinkRequest F} {disk : Disk}
    {answer : Reply} (sound : ServiceSound settings service)
    (done : perform settings (.link linkDraw request) service.disk = (disk, .ok answer))
    (keyed : (Json.obj request.metadata).WellKeyed) :
    ∃ edge, answer = .linked edge ∧ LinkAnswers settings service request disk edge := by
  obtain ⟨metadata, edge, valid, isEdge, linked⟩ := perform_link_ok done
  obtain ⟨differ, edgeType, written⟩ := LinkRequest.validate_ok valid
  obtain ⟨stored, joins, sameText⟩ := linkBody_stored linked
  have next : ServiceSound settings (service.withDisk disk) := by
    have step : StoreStep settings service.disk _ _ := .call service.disk (.link linkDraw request)
    rw [done] at step
    exact sound.step (.store step)
  -- the edge of a later request with the same ends and type is this one
  have kept : ∀ (later : List (Service × ServiceEvent F)) (service' : Service),
      Trace (ServiceStep settings) (service.withDisk disk) later service' →
      ServiceSound settings service' ∧ edge ∈ service'.disk.db.edges := by
    intro later service' trace
    exact ⟨trace.invariant (P := ServiceSound settings) (fun _ _ _ holds step => holds.step step) next,
      (edges_kept next trace).subset stored⟩
  refine ⟨edge, isEdge, stored, joins, ?_, ?_, ?_⟩
  · obtain ⟨value, read, equal⟩ := loadText_jsonEqual keyed written
    refine ⟨⟨edge.id, edge.sourceArtifactId, edge.targetArtifactId, edge.edgeType, value,
      edge.createdAt⟩, ?_, equal⟩
    unfold EdgeRow.view
    rw [sameText, read]
    rfl
  · intro later service' trace draw other sameKey otherKeyed authorized equal
    obtain ⟨later', present⟩ := kept later service' trace
    have again := (json_eq_iff keyed otherKeyed written).mpr equal.symm
    have ends := Prod.mk.inj (Prod.mk.inj sameKey).2
    have types := Prod.mk.inj ends.2
    have otherValid : other.validate = .ok metadata := by
      apply LinkRequest.validate_of
      · rw [ends.1, types.1]
        exact differ
      · rw [types.2]
        exact edgeType
      · exact again
    apply perform_link_of otherValid
    have edges : EdgesSound service'.disk.db := later'.store.edges
    rw [linkBody_present edges authorized present (joins.trans sameKey.symm), if_pos sameText]
  · intro later service' trace draw other sameKey otherKeyed unequal
    obtain ⟨later', present⟩ := kept later service' trace
    cases result : perform settings (.link draw other) service'.disk with
    | mk disk' reply =>
        cases reply with
        | error e => exact ⟨e, rfl⟩
        | ok answer' =>
            obtain ⟨text, row, otherValid, _, otherLinked⟩ := perform_link_ok result
            obtain ⟨_, rowJoins, rowText⟩ := linkBody_stored otherLinked
            obtain ⟨source, target, _⟩ := linkBody_ok otherLinked
            have edges : EdgesSound service'.disk.db := later'.store.edges
            rw [linkBody_present edges ⟨source, target⟩ present (joins.trans sameKey.symm)]
              at otherLinked
            split at otherLinked
            · rename_i same
              rw [← same, sameText] at otherValid
              have again := (LinkRequest.validate_ok otherValid).2.2
              exact absurd ((json_eq_iff keyed otherKeyed written).mp again).symm unequal
            · cases otherLinked

end Runs

/-- At every moment of a service the edges are a map; none is ever changed or deleted; a
link call that fails leaves them, and one that returns answers a stored edge with metadata
of the same JSON value, which every later link with that value answers again. -/
theorem edge_store_write_once {settings : Settings} {draw : InitializeDraw}
    {past : List (Service × ServiceEvent F)} {service : Service}
    (trace : Trace (ServiceStep settings) (newService F settings draw) past service) :
    EdgeMap service.disk.db ∧
    (∀ (later : List (Service × ServiceEvent F)) (service' : Service),
      Trace (ServiceStep settings) service later service' →
      service.disk.db.edges <+: service'.disk.db.edges) ∧
    ∀ (linkDraw : EdgeDraw) (request : LinkRequest F) (disk : Disk) (result : Except Failure Reply),
      perform settings (.link linkDraw request) service.disk = (disk, result) →
      (∀ e, result = .error e → disk.db.edges = service.disk.db.edges) ∧
      ∀ answer, result = .ok answer → (Json.obj request.metadata).WellKeyed →
        ∃ edge, answer = .linked edge ∧ LinkAnswers settings service request disk edge := by
  have sound := ServiceReachable.sound ⟨draw, past, trace⟩
  have both : ServiceSound settings service ∧ NoSelfLinks service.disk.db := by
    apply trace.invariant (P := fun service => ServiceSound settings service ∧
      NoSelfLinks service.disk.db)
    · exact fun _ _ _ holds step => ⟨holds.1.step step, holds.1.noSelfLinks holds.2 step⟩
    · refine ⟨ServiceSound.fresh F settings draw, ?_⟩
      intro edge member
      unfold Service.disk at member
      rw [(newService_tables F settings draw).1] at member
      cases member
  refine ⟨.of sound both.2, fun _ _ later => edges_kept sound later, ?_⟩
  intro linkDraw request disk result done
  constructor
  · intro e failed
    rw [failed] at done
    unfold perform at done
    rcases commit_cases service.disk ((Call.link linkDraw request).body settings service.disk) with
      ⟨db, value, _, committed⟩ | ⟨e', _, kept⟩
    · rw [committed] at done
      cases (Prod.mk.inj done).2
    · rw [kept] at done
      rw [← (Prod.mk.inj done).1]
  · intro answer returned keyed
    rw [returned] at done
    exact linkAnswers_of sound done keyed

/-! ### Keys that hold a surrogate pair -/

/-- The service after some calls of the store. -/
def callAll (settings : Settings) : List (Call F) → Service → Service
  | [], service => service
  | call :: rest, service =>
      callAll settings rest (service.withDisk (perform settings call service.disk).1)

theorem callAll_trace {settings : Settings} {start service : Service}
    {past : List (Service × ServiceEvent F)}
    (trace : Trace (ServiceStep settings) start past service) (calls : List (Call F)) :
    ∃ past' : List (Service × ServiceEvent F),
      Trace (ServiceStep settings) start past' (callAll settings calls service) := by
  induction calls generalizing past service with
  | nil => exact ⟨past, trace⟩
  | cons call rest ih => exact ih (trace.next (.store (.call service.disk call)))

/-- A service with two artifacts. -/
def twoArtifacts : Service :=
  callAll Settings.standard (cycleCalls.take 2)
    (newService Empty Settings.standard InitializeDraw.epoch)

theorem twoArtifacts_trace : ∃ past : List (Service × ServiceEvent Empty),
    Trace (ServiceStep Settings.standard)
      (newService Empty Settings.standard InitializeDraw.epoch) past twoArtifacts :=
  callAll_trace .start _

def metadataLink (metadata : List (PyStr × Json Empty)) : LinkRequest Empty :=
  { cycleLink Uuid.nil Uuid.one with metadata := metadata }

/-- One key is a surrogate pair, which is sorted as its first half. -/
def splitKeys : List (PyStr × Json Empty) := [([0xd83d, 0xde00], .int 1), ([0xffff], .int 2)]

def joinedKeys : List (PyStr × Json Empty) := [([0x1f600], .int 1), ([0xffff], .int 2)]

theorem splitKeys_equal : JsonEqual (.obj joinedKeys) (.obj splitKeys : Json Empty) := by
  rfl

theorem edge_store_write_once_two :
    EdgeMap twoArtifacts.disk.db ∧
    (∀ (later : List (Service × ServiceEvent Empty)) (service' : Service),
      Trace (ServiceStep Settings.standard) twoArtifacts later service' →
      twoArtifacts.disk.db.edges <+: service'.disk.db.edges) ∧
    ∀ (linkDraw : EdgeDraw) (request : LinkRequest Empty) (disk : Disk)
      (result : Except Failure Reply),
      perform Settings.standard (.link linkDraw request) twoArtifacts.disk = (disk, result) →
      (∀ e, result = .error e → disk.db.edges = twoArtifacts.disk.db.edges) ∧
      ∀ answer, result = .ok answer → (Json.obj request.metadata).WellKeyed →
        ∃ edge, answer = .linked edge ∧
          LinkAnswers Settings.standard twoArtifacts request disk edge := by
  obtain ⟨past, trace⟩ := twoArtifacts_trace
  exact edge_store_write_once trace

def isLinked : Except Failure Reply → Bool
  | .ok (.linked _) => true
  | _ => false

/-- Of two equal JSON values one is refused after the other, when a key is spelled as a
surrogate pair in one of them. -/
theorem edge_store_compares_texts :
    ¬∀ (past : List (Service × ServiceEvent Empty)) (service : Service),
      Trace (ServiceStep Settings.standard)
        (newService Empty Settings.standard InitializeDraw.epoch) past service →
      ∀ (draw : EdgeDraw) (request : LinkRequest Empty) (disk : Disk) (edge : EdgeRow),
        perform Settings.standard (.link draw request) service.disk = (disk, .ok (.linked edge)) →
        ∀ (draw' : EdgeDraw) (other : LinkRequest Empty), other.linkKey = request.linkKey →
          (request.metadata.map (·.1)).Nodup → (other.metadata.map (·.1)).Nodup →
          other.Authorized disk.db →
          JsonEqual (.obj other.metadata) (.obj request.metadata) →
          (perform Settings.standard (.link draw' other) disk).2 = .ok (.linked edge) := by
  intro always
  obtain ⟨past, trace⟩ := twoArtifacts_trace
  let first := perform Settings.standard (.link ⟨Uuid.nil, Timestamp.epoch⟩
    (metadataLink splitKeys)) twoArtifacts.disk
  have linked : ∃ edge, first.2 = .ok (.linked edge) := by
    have answers : isLinked first.2 = true := by decide
    unfold isLinked at answers
    split at answers
    · rename_i edge isEdge
      exact ⟨edge, isEdge⟩
    · cases answers
  obtain ⟨edge, isEdge⟩ := linked
  have again := always past twoArtifacts trace ⟨Uuid.nil, Timestamp.epoch⟩ (metadataLink splitKeys)
    first.1 edge (Prod.ext rfl isEdge) ⟨Uuid.one, Timestamp.epoch⟩ (metadataLink joinedKeys) rfl
    (by decide) (by decide) ⟨by decide, by decide⟩ splitKeys_equal
  have refused : isLinked (perform Settings.standard (.link ⟨Uuid.one, Timestamp.epoch⟩
      (metadataLink joinedKeys)) first.1).2 = false := by decide
  rw [again] at refused
  cases refused

end FolioLattice.Store
