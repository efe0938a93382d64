/-
What the trace-context migration leaves of a row: unless its details are keyed by
numbers, a row that passes the integrity check, whatever its old hash was.
-/

import FolioLattice.Store.Effects

namespace FolioLattice.Audit

open FolioLattice.Text FolioLattice.Data FolioLattice.Store
open FolioLattice.Effects (except_bind_ok)

variable {F : Type}

/-! ### The mappings that `dict` builds -/

/-- Texts occur once as keys, and every text reads back as it is. -/
structure MappingNormal (mapping : Mapping F) : Prop where
  distinct : mapping.Pairwise (fun e later => ∀ text, e.1 = .str text → later.1 ≠ .str text)
  keys : ∀ e ∈ mapping, e.1.Joined ∧ hashable e.1 = true
  values : ∀ e ∈ mapping, e.2.Normal

theorem MappingNormal.nil : MappingNormal ([] : Mapping F) := by
  refine ⟨List.Pairwise.nil, ?_, ?_⟩
  · intro e member
    cases member
  · intro e member
    cases member

theorem MappingNormal.sublist {mapping mapping' : Mapping F} (normal : MappingNormal mapping)
    (kept : mapping'.Sublist mapping) : MappingNormal mapping' :=
  ⟨normal.distinct.sublist kept, fun e member => normal.keys e (kept.subset member),
    fun e member => normal.values e (kept.subset member)⟩

theorem pairOf_normal {item : Json F} {pair : Json F × Json F} (normal : item.Normal)
    (paired : pairOf item = some pair) : pair.1.Normal ∧ pair.2.Normal := by
  unfold pairOf at paired
  split at paired
  · cases paired
    rw [Json.normal_arr_iff] at normal
    exact ⟨normal _ List.mem_cons_self, normal _ (List.mem_cons_of_mem _ List.mem_cons_self)⟩
  · cases paired
    exact ⟨⟨trivial, rfl⟩, ⟨trivial, rfl⟩⟩
  · cases paired
    rw [Json.normal_obj_iff] at normal
    exact ⟨⟨trivial, normal.2.1 _ List.mem_cons_self⟩,
      ⟨trivial, normal.2.1 _ (List.mem_cons_of_mem _ List.mem_cons_self)⟩⟩
  · cases paired

theorem toJson_encodable (event : AuditEvent F) :
    event.toJson.encodable true = event.details.encodable true := by
  cases resource : event.resourceId <;>
    simp [AuditEvent.toJson, Json.encodable, encodableEntries, text, resource]

variable [FloatFormat F]

theorem setKey_mem {key value : Json F} {mapping : Mapping F} {e : Json F × Json F}
    (member : e ∈ setKey key value mapping) :
    e = (key, value) ∨ e ∈ mapping ∨ e.2 = value ∧ ∃ old, (e.1, old) ∈ mapping := by
  induction mapping with
  | nil => exact .inl (List.mem_singleton.mp member)
  | cons first rest ih =>
      obtain ⟨known, old⟩ := first
      unfold setKey at member
      split at member
      · rcases List.mem_cons.mp member with replaced | later
        · rw [replaced]
          exact .inr (.inr ⟨rfl, old, List.mem_cons_self⟩)
        · exact .inr (.inl (List.mem_cons_of_mem _ later))
      · rcases List.mem_cons.mp member with kept | later
        · rw [kept]
          exact .inr (.inl List.mem_cons_self)
        · rcases ih later with added | kept | ⟨sameValue, old', kept⟩
          · exact .inl added
          · exact .inr (.inl (List.mem_cons_of_mem _ kept))
          · exact .inr (.inr ⟨sameValue, old', List.mem_cons_of_mem _ kept⟩)

theorem MappingNormal.setKey {mapping : Mapping F} (normal : MappingNormal mapping)
    {key value : Json F} (keyJoined : key.Joined ∧ hashable key = true) (valueNormal : value.Normal) :
    MappingNormal (setKey key value mapping) := by
  refine ⟨?_, ?_, ?_⟩
  · have distinct := normal.distinct
    clear normal
    induction mapping with
    | nil => exact List.pairwise_singleton _ _
    | cons first rest ih =>
        obtain ⟨known, old⟩ := first
        rw [List.pairwise_cons] at distinct
        unfold Audit.setKey
        split
        · exact List.pairwise_cons.mpr distinct
        · rename_i other
          apply List.pairwise_cons.mpr
          refine ⟨?_, ih distinct.2⟩
          intro e member text isText
          rcases setKey_mem member with added | kept | ⟨_, old', kept⟩
          · rw [added]
            intro same
            apply other
            simp only at isText same
            rw [isText, same]
            exact decide_eq_true rfl
          · exact distinct.1 e kept text isText
          · exact distinct.1 (e.1, old') kept text isText
  · intro e member
    rcases setKey_mem member with added | kept | ⟨_, old, kept⟩
    · rw [added]
      exact keyJoined
    · exact normal.keys e kept
    · exact normal.keys (e.1, old) kept
  · intro e member
    rcases setKey_mem member with added | kept | ⟨sameValue, _⟩
    · rw [added]
      exact valueNormal
    · exact normal.values e kept
    · rw [sameValue]
      exact valueNormal

theorem mappingOf_normal {pairs : List (Json F × Json F)}
    (normal : ∀ pair ∈ pairs, pair.1.Normal ∧ pair.2.Normal)
    (keys : ∀ pair ∈ pairs, hashable pair.1 = true) : MappingNormal (mappingOf pairs) := by
  have step : ∀ mapping : Mapping F, MappingNormal mapping →
      MappingNormal (pairs.foldl (fun mapping pair => setKey pair.1 pair.2 mapping) mapping) := by
    induction pairs with
    | nil => exact fun mapping start => start
    | cons pair rest ih =>
        intro mapping start
        have here := normal pair List.mem_cons_self
        exact ih (fun other member => normal other (List.mem_cons_of_mem _ member))
          (fun other member => keys other (List.mem_cons_of_mem _ member)) _
          (start.setKey ⟨here.1.2, keys pair List.mem_cons_self⟩ here.2)
  exact step [] MappingNormal.nil

omit [FloatFormat F] in
theorem mapM_pairOf_normal {items : List (Json F)} {pairs : List (Json F × Json F)}
    (normal : ∀ item ∈ items, item.Normal) (paired : items.mapM pairOf = some pairs) :
    ∀ pair ∈ pairs, pair.1.Normal ∧ pair.2.Normal := by
  induction items generalizing pairs with
  | nil =>
      cases paired
      intro pair member
      cases member
  | cons item rest ih =>
      rw [List.mapM_cons] at paired
      obtain ⟨first, firstPaired, paired⟩ := Option.bind_eq_some_iff.mp paired
      obtain ⟨others, othersPaired, same⟩ := Option.bind_eq_some_iff.mp paired
      cases same
      intro pair member
      rcases List.mem_cons.mp member with isFirst | later
      · rw [isFirst]
        exact pairOf_normal (normal item List.mem_cons_self) firstPaired
      · exact ih (fun other inside => normal other (List.mem_cons_of_mem _ inside)) othersPaired
          pair later

theorem toMapping_normal {value : Json F} {mapping : Mapping F} (normal : value.Normal)
    (read : toMapping value = some mapping) : MappingNormal mapping := by
  unfold toMapping at read
  split at read
  · cases read
    rw [Json.normal_obj_iff] at normal
    refine ⟨?_, ?_, ?_⟩
    · apply List.pairwise_map.mpr
      apply (List.pairwise_map.mp normal.1).imp
      intro e later other text isText same
      apply other
      simp only [Json.str.injEq] at isText same
      rw [isText, same]
    · intro e member
      obtain ⟨entry, inside, same⟩ := List.mem_map.mp member
      rw [← same]
      exact ⟨normal.2.1 _ (List.mem_map_of_mem inside), rfl⟩
    · intro e member
      obtain ⟨entry, inside, same⟩ := List.mem_map.mp member
      rw [← same]
      exact normal.2.2 entry inside
  · obtain ⟨pairs, paired, built⟩ := Option.bind_eq_some_iff.mp read
    split at built
    · rename_i keys
      cases built
      exact mappingOf_normal (mapM_pairOf_normal (Json.normal_arr_iff.mp normal) paired)
        (List.all_eq_true.mp keys)
    · cases built
  · cases read
    exact MappingNormal.nil
  · cases read

theorem migrateIdentifier_sublist (length : Nat) (key stored legacy : String)
    (mapping : Mapping F) :
    (migrateIdentifier length key stored legacy mapping).2.Sublist mapping := by
  unfold migrateIdentifier
  split
  · exact List.Sublist.refl _
  · exact List.filter_sublist

theorem migrateIdentifiers_sublist (settings : Settings) (row : AuditEventRow)
    (mapping : Mapping F) : (migrateIdentifiers settings row mapping).2.2.Sublist mapping :=
  (migrateIdentifier_sublist _ _ _ _ _).trans (migrateIdentifier_sublist _ _ _ _ _)

/-! ### The order of the keys -/

theorem texts_normal {mapping : Mapping F} (normal : MappingNormal mapping)
    (texts : mapping.all (fun e => isText e.1) = true) : (Json.obj mapping.texts).Normal := by
  have isStr : ∀ e ∈ mapping, e.1 = .str (keyText e.1) := by
    intro e member
    have text := List.all_eq_true.mp texts e member
    obtain ⟨key, value⟩ := e
    cases key with
    | str text => rfl
    | _ => cases text
  rw [Json.normal_obj_iff]
  unfold Mapping.texts
  rw [List.map_map]
  refine ⟨?_, ?_, ?_⟩
  · apply List.pairwise_map.mpr
    refine normal.distinct.imp_of_mem ?_
    intro e later eMember laterMember other same
    apply other (keyText e.1) (isStr e eMember)
    rw [isStr later laterMember]
    exact congrArg Json.str same.symm
  · intro key member
    obtain ⟨e, inside, same⟩ := List.mem_map.mp member
    have joined := (normal.keys e inside).1
    rw [isStr e inside] at joined
    rw [← same]
    exact joined
  · intro entry member
    obtain ⟨e, inside, same⟩ := List.mem_map.mp member
    rw [← same]
    exact normal.values e inside

/-- `None` can be a key only where there is no other. -/
theorem single_normal {mapping : Mapping F} (normal : MappingNormal mapping)
    (notTexts : mapping.all (fun e => isText e.1) ≠ true) (notNumbers : mapping.numbered = false)
    (short : mapping.length ≤ 1) : (Json.obj mapping.texts).Normal := by
  match mapping, normal, notTexts, notNumbers, short with
  | [], _, notTexts, _, _ => exact absurd rfl notTexts
  | [(key, value)], normal, notTexts, notNumbers, _ =>
      have isNull : key = .null := by
        have hashed := (normal.keys _ List.mem_cons_self).2
        cases key with
        | null => rfl
        | str text => exact absurd rfl notTexts
        | arr items => cases hashed
        | obj entries => cases hashed
        | _ => cases notNumbers
      rw [isNull, Json.normal_obj_iff]
      refine ⟨List.nodup_singleton _, ?_, ?_⟩
      · intro text member
        rw [List.mem_singleton.mp member]
        change joinPairs ("null".toList.map codePoint) = "null".toList.map codePoint
        decide
      · intro entry member
        rw [List.mem_singleton.mp member]
        exact normal.values (key, value) List.mem_cons_self

/-- Details that are not keyed by numbers are printed as they read back. -/
theorem ordered_normal {mapping : Mapping F} {details : Json F} (normal : MappingNormal mapping)
    (notNumbers : mapping.numbered = false) (ordered : mapping.ordered = some details) :
    details.Normal ∧ details.sortKeys = details := by
  have sorted : ∀ value : Json F, value.Normal →
      value.sortKeys.Normal ∧ value.sortKeys.sortKeys = value.sortKeys :=
    fun value valueNormal => ⟨valueNormal.sortKeys, Json.sortKeys_sortKeys value⟩
  unfold Mapping.ordered at ordered
  rw [notNumbers] at ordered
  split at ordered
  · rename_i texts
    cases ordered
    exact sorted _ (texts_normal normal texts)
  · rename_i notTexts
    simp only [Bool.false_eq_true, if_false] at ordered
    split at ordered
    · rename_i short
      cases ordered
      exact sorted _ (single_normal normal notTexts notNumbers short)
    · cases ordered

/-! ### The migrated row -/

/-- The details `_audit_row` reads are a `dict` whose keys are numbers. -/
def NumberKeyed (F : Type) [FloatFormat F] (settings : Settings) (row : AuditEventRow) : Prop :=
  ∃ (value : Json F) (mapping : Mapping F), readDetails row.detailsJson = .ok value ∧
    toMapping value = some mapping ∧ (migrateIdentifiers settings row mapping).2.2.numbered = true

theorem readDetails_normal {detailsJson : String} {value : Json F}
    (read : readDetails detailsJson = .ok value) : value.Normal := by
  unfold readDetails at read
  split at read
  · rename_i loaded
    cases read
    exact loads_normal loaded
  · cases read
    exact Json.normal_obj_iff.mpr ⟨List.nodup_nil, fun key member => absurd member List.not_mem_nil,
      fun entry member => absurd member List.not_mem_nil⟩
  · cases read

theorem auditRow_ok {row : AuditEventRow} {event : AuditEvent F} (read : auditRow row = .ok event) :
    readDetails row.detailsJson = .ok event.details := by
  unfold auditRow at read
  obtain ⟨details, detailsRead, same⟩ := except_bind_ok read
  cases same
  exact detailsRead

/-- What `migratedEvent` has read and built. -/
theorem migratedEvent_ok {settings : Settings} {row : AuditEventRow} {event : AuditEvent F}
    (done : migratedEvent F settings row = .ok event) :
    ∃ (read : AuditEvent F) (mapping : Mapping F), auditRow row = .ok read ∧
      toMapping read.details = some mapping ∧
      (migrateIdentifiers settings row mapping).2.2.ordered = some event.details ∧
      event = { read with
        traceId := event.traceId, spanId := event.spanId, details := event.details } := by
  unfold migratedEvent at done
  obtain ⟨read, isRead, done⟩ := except_bind_ok done
  split at done
  · cases done
  · rename_i mapping isMapping
    simp only at done
    split at done
    · cases done
    · rename_i details isOrdered
      cases done
      exact ⟨read, mapping, isRead, isMapping, isOrdered, rfl⟩

theorem migratedEvent_details {settings : Settings} {row : AuditEventRow} {event : AuditEvent F}
    (done : migratedEvent F settings row = .ok event) (notNumbers : ¬NumberKeyed F settings row) :
    event.details.Normal ∧ event.details.sortKeys = event.details := by
  obtain ⟨read, mapping, isRead, isMapping, isOrdered, _⟩ := migratedEvent_ok done
  have detailsRead := auditRow_ok isRead
  have normal := (toMapping_normal (readDetails_normal detailsRead) isMapping).sublist
    (migrateIdentifiers_sublist settings row mapping)
  refine ordered_normal normal ?_ isOrdered
  rw [← Bool.not_eq_true]
  intro numbered
  exact notNumbers ⟨read.details, mapping, detailsRead, isMapping, numbered⟩

/-- A record whose details are in order is hashed as it is printed. -/
theorem orderedText_eq {event : AuditEvent F} (ordered : event.details.sortKeys = event.details) :
    event.orderedText = event.toJson.sortKeys.print := by
  unfold AuditEvent.orderedText
  cases resource : event.resourceId <;>
    simp [AuditEvent.toJson, Json.sortKeys, sortEntries, text, resource, ordered]

theorem integrityHash_ordered (settings : Settings) {event : AuditEvent F}
    (ordered : event.details.sortKeys = event.details)
    (encodable : event.details.encodable true = true) :
    integrityHash settings event = some (orderedHash settings event) := by
  unfold integrityHash canonicalEvent dumps orderedHash
  rw [toJson_encodable, encodable, orderedText_eq ordered]
  rfl

/-- The event as the migrated row reads back. -/
def AuditEvent.readBack (event : AuditEvent F) : AuditEvent F :=
  { event with details := event.details.reread }

theorem auditRow_migrated {settings : Settings} {row migrated : AuditEventRow}
    (done : migrateRow F settings row = .ok migrated) :
    ∃ event : AuditEvent F, migratedEvent F settings row = .ok event ∧
      event.details.encodable true = true ∧ auditRow migrated = .ok event.readBack ∧
      migrated.integrityHash = orderedHash settings event := by
  unfold migrateRow at done
  obtain ⟨event, isEvent, done⟩ := except_bind_ok done
  split at done
  · rename_i encodable
    obtain ⟨read, mapping, isRead, _, _, same⟩ := migratedEvent_ok isEvent
    cases done
    refine ⟨event, isEvent, encodable, ?_, rfl⟩
    unfold auditRow at isRead ⊢
    obtain ⟨details, _, read⟩ := except_bind_ok isRead
    cases read
    have reread : readDetails (String.ofList event.details.print) = .ok event.details.reread := by
      unfold readDetails
      rw [String.toList_ofList, loads_print encodable]
    rw [reread, same]
    rfl
  · cases done

end FolioLattice.Audit
