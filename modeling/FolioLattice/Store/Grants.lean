/-
The grants of a store: who holds them, and that an owner's are never lost.
-/

import FolioLattice.Store.Effects

namespace FolioLattice.Store

open FolioLattice.Text FolioLattice.Data FolioLattice.Relational

/-! ### Artifacts and their owners -/

/-- What no call changes in an artifact. -/
def ArtifactRow.identity (artifact : ArtifactRow) : String × String × Option String :=
  (artifact.id, artifact.tenantId, artifact.ownerActorId)

/-- The artifacts of the first are artifacts of the second, with the same owners. -/
def ArtifactsKept (db db' : Database) : Prop :=
  ∀ artifact ∈ db.artifacts, ∃ artifact' ∈ db'.artifacts, artifact'.identity = artifact.identity

theorem ArtifactsKept.refl (db : Database) : ArtifactsKept db db :=
  fun artifact member => ⟨artifact, member, rfl⟩

theorem ArtifactsKept.trans {db db' db'' : Database} (first : ArtifactsKept db db')
    (second : ArtifactsKept db' db'') : ArtifactsKept db db'' := by
  intro artifact member
  obtain ⟨artifact', member', same⟩ := first artifact member
  obtain ⟨artifact'', member'', same'⟩ := second artifact' member'
  exact ⟨artifact'', member'', same'.trans same⟩

/-- Two databases with the same artifacts up to versions and media types. -/
def SameOwners (db db' : Database) : Prop :=
  db'.artifacts.map ArtifactRow.identity = db.artifacts.map ArtifactRow.identity

theorem SameOwners.symm {db db' : Database} (same : SameOwners db db') : SameOwners db' db :=
  Eq.symm same

theorem SameOwners.kept {db db' : Database} (same : SameOwners db db') : ArtifactsKept db db' := by
  intro artifact member
  have inside : artifact.identity ∈ db'.artifacts.map ArtifactRow.identity := by
    rw [same]
    exact List.mem_map_of_mem member
  exact List.mem_map.mp inside

theorem SameOwners.keyed {db db' : Database} (same : SameOwners db db')
    (keyed : KeyedBy (·.id) db.artifacts) : KeyedBy (·.id) db'.artifacts := by
  have ids : db'.artifacts.map (·.id) = db.artifacts.map (·.id) := by
    have firsts := congrArg (List.map Prod.fst) same
    rw [List.map_map, List.map_map] at firsts
    exact firsts
  unfold KeyedBy
  rw [ids]
  exact keyed

theorem SameOwners.addVersion (db : Database) (row : VersionRow) (chunks : List ChunkRow) :
    SameOwners db (db.addVersion row chunks) := by
  unfold SameOwners
  have moved : ∀ a : ArtifactRow, ArtifactRow.identity
      { a with currentVersionId := some row.id, mediaType := row.mediaType } = a.identity :=
    fun _ => rfl
  exact map_updateWhere moved db.artifacts

/-! ### Sound grants -/

/-- The artifact's owner holds its three grants. -/
def OwnerHolds (db : Database) (artifact : ArtifactRow) : Prop :=
  ∃ owner, artifact.ownerActorId = some owner ∧ ValidText owner maxNameLength ∧
    ∀ action, ∃ grant ∈ db.aclGrants, grant.id = ownerGrantId artifact.id action ∧
      grant.isActiveFor artifact.tenantId artifact.id owner action = true

structure GrantsSound (db : Database) : Prop where
  artifactIds : KeyedBy (·.id) db.artifacts
  apart : Apart GrantRow.clashes db.aclGrants
  located : ∀ grant ∈ db.aclGrants, ∃ artifact ∈ db.artifacts,
    artifact.id = grant.artifactId ∧ artifact.tenantId = grant.tenantId
  subjects : ∀ grant ∈ db.aclGrants, ValidText grant.subjectId maxNameLength
  owners : ∀ artifact ∈ db.artifacts, OwnerHolds db artifact

theorem GrantRow.isActiveFor_iff {grant : GrantRow} {tenantId artifactId actor : String}
    {action : Action} :
    grant.isActiveFor tenantId artifactId actor action = true ↔
      grant.tenantId = tenantId ∧ grant.artifactId = artifactId ∧ grant.subjectId = actor ∧
        grant.action = action ∧ grant.status = .active := by
  have onlyActors : grant.subjectType = aclSubjectType := by
    cases grant.subjectType
    rfl
  unfold GrantRow.isActiveFor
  simp only [Bool.and_eq_true, decide_eq_true_eq, onlyActors, and_true, and_assoc]

theorem GrantRow.clashes_of_active {new old : GrantRow} {tenantId artifactId actor : String}
    {action : Action} (newActive : new.isActiveFor tenantId artifactId actor action = true)
    (oldActive : old.isActiveFor tenantId artifactId actor action = true) :
    GrantRow.clashes new old = true := by
  obtain ⟨tenant, artifact, subject, act, active⟩ := GrantRow.isActiveFor_iff.mp newActive
  obtain ⟨tenant', artifact', subject', act', active'⟩ := GrantRow.isActiveFor_iff.mp oldActive
  have sameType : new.subjectType = old.subjectType := by
    cases new.subjectType
    cases old.subjectType
    rfl
  unfold GrantRow.clashes
  rw [Bool.or_eq_true]
  right
  simp only [tenant, tenant', artifact, artifact', subject, subject', act, act', active, active',
    sameType, decide_true, Bool.and_self]

theorem GrantsSound.grantIds {db : Database} (sound : GrantsSound db) :
    KeyedBy (·.id) db.aclGrants := by
  apply sound.apart.keyedBy
  intro new old same
  unfold GrantRow.clashes
  rw [Bool.or_eq_true]
  exact Or.inl (decide_eq_true same)

/-- One active grant at most for an actor and an action. -/
theorem GrantsSound.active_unique {db : Database} (sound : GrantsSound db)
    {tenantId artifactId actor : String} {action : Action} {a b : GrantRow}
    (aMember : a ∈ db.aclGrants) (bMember : b ∈ db.aclGrants)
    (aActive : a.isActiveFor tenantId artifactId actor action = true)
    (bActive : b.isActiveFor tenantId artifactId actor action = true) : a = b :=
  sound.apart.eq aMember bMember (GrantRow.clashes_of_active aActive bActive)
    (GrantRow.clashes_of_active bActive aActive)

theorem GrantsSound.valid_of_permits {db : Database} (sound : GrantsSound db)
    {artifact : ArtifactRow} (inside : artifact ∈ db.artifacts) {actor : String} {action : Action}
    (permitted : db.permits artifact actor action = true) : ValidText actor maxNameLength := by
  unfold Database.permits at permitted
  rw [Bool.or_eq_true, decide_eq_true_eq, List.any_eq_true] at permitted
  rcases permitted with isOwner | ⟨grant, member, active⟩
  · obtain ⟨owner, owned, valid, _⟩ := sound.owners artifact inside
    rw [owned] at isOwner
    rw [← Option.some.inj isOwner]
    exact valid
  · obtain ⟨_, _, subject, _⟩ := GrantRow.isActiveFor_iff.mp active
    rw [← subject]
    exact sound.subjects grant member

/-! ### Steps -/

/-- Grants do not depend on versions. -/
theorem GrantsSound.congr {db db' : Database} (sound : GrantsSound db) (same : SameOwners db db')
    (grants : db'.aclGrants = db.aclGrants) : GrantsSound db' where
  artifactIds := same.keyed sound.artifactIds
  apart := by rw [grants]; exact sound.apart
  located := by
    rw [grants]
    intro grant member
    obtain ⟨artifact, inside, sameId, sameTenant⟩ := sound.located grant member
    obtain ⟨artifact', inside', identity⟩ := same.kept artifact inside
    obtain ⟨id, rest⟩ := Prod.mk.inj identity
    exact ⟨artifact', inside', id.trans sameId, (Prod.mk.inj rest).1.trans sameTenant⟩
  subjects := by rw [grants]; exact sound.subjects
  owners := by
    intro artifact' inside'
    obtain ⟨artifact, inside, identity⟩ := same.symm.kept artifact' inside'
    obtain ⟨id, rest⟩ := Prod.mk.inj identity
    obtain ⟨tenant, owner⟩ := Prod.mk.inj rest
    have holds := sound.owners artifact inside
    unfold OwnerHolds at holds ⊢
    rw [grants, ← id, ← tenant, ← owner]
    exact holds

theorem OwnerHolds.mono {db db' : Database} {artifact : ArtifactRow} (holds : OwnerHolds db artifact)
    (kept : ∀ grant ∈ db.aclGrants, grant ∈ db'.aclGrants) : OwnerHolds db' artifact := by
  obtain ⟨owner, owned, valid, granted⟩ := holds
  refine ⟨owner, owned, valid, ?_⟩
  intro action
  obtain ⟨grant, member, rest⟩ := granted action
  exact ⟨grant, kept grant member, rest⟩

theorem ownerGrant_isActiveFor (tenantId artifactId owner : String) (action : Action)
    (now : Timestamp) :
    (ownerGrant tenantId artifactId owner action now).isActiveFor tenantId artifactId owner action =
      true :=
  GrantRow.isActiveFor_iff.mpr ⟨rfl, rfl, rfl, rfl, rfl⟩

theorem GrantsSound.addArtifact {F : Type} {settings : Settings} {draw : CreateDraw}
    {request : CreateRequest F} {db : Database} (sound : GrantsSound db)
    (tenants : List TenantRow) (valid : ValidText request.actor maxNameLength)
    (fresh : ∀ old ∈ db.artifacts, old.id ≠ newId "art" draw.artifactId)
    (apart : Apart GrantRow.clashes (db.aclGrants ++ request.ownerGrants draw)) :
    GrantsSound (db.addArtifact tenants (request.artifactRow settings draw)
      (request.ownerGrants draw)) where
  artifactIds := sound.artifactIds.append fresh
  apart := apart
  located := by
    intro grant member
    rcases List.mem_append.mp member with old | new
    · obtain ⟨artifact, inside, same⟩ := sound.located grant old
      exact ⟨artifact, List.mem_append_left _ inside, same⟩
    · obtain ⟨action, _, same⟩ := List.mem_map.mp new
      rw [← same]
      exact ⟨_, List.mem_append_right _ (List.mem_singleton_self _), rfl, rfl⟩
  subjects := by
    intro grant member
    rcases List.mem_append.mp member with old | new
    · exact sound.subjects grant old
    · obtain ⟨action, _, same⟩ := List.mem_map.mp new
      rw [← same]
      exact valid
  owners := by
    intro artifact member
    rcases List.mem_append.mp member with old | new
    · exact (sound.owners artifact old).mono (fun grant inside => List.mem_append_left _ inside)
    · rw [List.mem_singleton.mp new]
      refine ⟨request.actor, rfl, valid, ?_⟩
      intro action
      have listed : action ∈ aclActions := by cases action <;> decide
      exact ⟨_, List.mem_append_right _ (List.mem_map_of_mem listed), rfl,
        ownerGrant_isActiveFor _ _ _ _ _⟩

theorem GrantsSound.share {db : Database} (sound : GrantsSound db) {row : GrantRow}
    (fresh : ∀ old ∈ db.aclGrants, GrantRow.clashes row old = false)
    (located : ∃ artifact ∈ db.artifacts,
      artifact.id = row.artifactId ∧ artifact.tenantId = row.tenantId)
    (subject : ValidText row.subjectId maxNameLength) :
    GrantsSound { db with aclGrants := db.aclGrants ++ [row] } where
  artifactIds := sound.artifactIds
  apart := sound.apart.append fresh
  located := by
    intro grant member
    rcases List.mem_append.mp member with old | new
    · exact sound.located grant old
    · rw [List.mem_singleton.mp new]
      exact located
  subjects := by
    intro grant member
    rcases List.mem_append.mp member with old | new
    · exact sound.subjects grant old
    · rw [List.mem_singleton.mp new]
      exact subject
  owners := by
    intro artifact member
    exact (sound.owners artifact member).mono (fun grant inside => List.mem_append_left _ inside)

section Revoke

variable {request : RevokeRequest} {now : Timestamp}

/-- The table after the grant named in the request is revoked. -/
def revokeIn (request : RevokeRequest) (now : Timestamp) (grants : List GrantRow) :
    List GrantRow :=
  updateWhere (fun g => g.id = request.grantId && g.status = .active)
    (fun g => g.revoke request now) grants

theorem mem_revokeIn {grants : List GrantRow} {grant : GrantRow} :
    grant ∈ revokeIn request now grants ↔
      (∃ old ∈ grants, old.id = request.grantId ∧ old.status = .active ∧
        grant = old.revoke request now) ∨
      (grant ∈ grants ∧ ¬(grant.id = request.grantId ∧ grant.status = .active)) := by
  unfold revokeIn
  rw [mem_updateWhere]
  apply or_congr
  · constructor
    · rintro ⟨old, member, holds, same⟩
      rw [Bool.and_eq_true, decide_eq_true_eq, decide_eq_true_eq] at holds
      exact ⟨old, member, holds.1, holds.2, same.symm⟩
    · rintro ⟨old, member, sameId, active, same⟩
      refine ⟨old, member, ?_, same.symm⟩
      rw [Bool.and_eq_true, decide_eq_true_eq, decide_eq_true_eq]
      exact ⟨sameId, active⟩
  · apply and_congr_right
    intro _
    rw [← Bool.not_eq_true, Bool.and_eq_true, decide_eq_true_eq, decide_eq_true_eq]

/-- A grant that is active afterwards was so before, and is not the one revoked. -/
theorem active_revokeIn {grants : List GrantRow} {grant : GrantRow} :
    (grant ∈ revokeIn request now grants ∧ grant.status = .active) ↔
      grant ∈ grants ∧ grant.status = .active ∧ grant.id ≠ request.grantId := by
  rw [mem_revokeIn]
  constructor
  · rintro ⟨⟨old, _, _, _, same⟩ | ⟨member, other⟩, active⟩
    · rw [same] at active
      cases active
    · exact ⟨member, active, fun sameId => other ⟨sameId, active⟩⟩
  · rintro ⟨member, active, other⟩
    exact ⟨Or.inr ⟨member, fun both => other both.1⟩, active⟩

theorem Apart.revokeIn {grants : List GrantRow} (apart : Apart GrantRow.clashes grants) :
    Apart GrantRow.clashes (revokeIn request now grants) := by
  apply Apart.map apart
  intro new old noClash
  unfold GrantRow.clashes at noClash ⊢
  split <;> split <;> simp_all [GrantRow.revoke]

theorem GrantsSound.revoke {db : Database} (sound : GrantsSound db)
    (notOwner : ∀ artifact ∈ db.artifacts, ∀ action,
      request.grantId ≠ ownerGrantId artifact.id action) :
    GrantsSound { db with aclGrants := revokeIn request now db.aclGrants } where
  artifactIds := sound.artifactIds
  apart := sound.apart.revokeIn
  located := by
    intro grant member
    rcases mem_revokeIn.mp member with ⟨old, inside, _, _, same⟩ | ⟨inside, _⟩
    · rw [same]
      exact sound.located old inside
    · exact sound.located grant inside
  subjects := by
    intro grant member
    rcases mem_revokeIn.mp member with ⟨old, inside, _, _, same⟩ | ⟨inside, _⟩
    · rw [same]
      exact sound.subjects old inside
    · exact sound.subjects grant inside
  owners := by
    intro artifact member
    obtain ⟨owner, owned, valid, granted⟩ := sound.owners artifact member
    refine ⟨owner, owned, valid, ?_⟩
    intro action
    obtain ⟨grant, inside, isOwners, active⟩ := granted action
    refine ⟨grant, mem_revokeIn.mpr (Or.inr ⟨inside, ?_⟩), isOwners, active⟩
    rintro ⟨sameId, _⟩
    exact notOwner artifact member action (sameId.symm.trans isOwners)

end Revoke

end FolioLattice.Store
