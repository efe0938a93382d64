/-
The grants as sets of pairs: for each artifact, which actor may do what besides
its owner.
-/

import FolioLattice.Store.System
import Mathlib.Data.Set.Insert

namespace FolioLattice.Store

open FolioLattice.Text FolioLattice.Data FolioLattice.Relational FolioLattice.Concurrency

/-! ### The abstract store -/

/-- For each artifact, the pairs of actor and action it is shared with. -/
abbrev Sharing := String → Set (String × Action)

def Sharing.none : Sharing := fun _ => ∅

def Sharing.add (shares : Sharing) (artifactId : String) (pair : String × Action) : Sharing :=
  fun other => if other = artifactId then insert pair (shares other) else shares other

def Sharing.remove (shares : Sharing) (artifactId : String) (pair : String × Action) : Sharing :=
  fun other => if other = artifactId then shares other \ {pair} else shares other

theorem Sharing.mem_add {shares : Sharing} {artifactId other : String} {pair pair' : String × Action} :
    pair' ∈ shares.add artifactId pair other ↔
      (other = artifactId ∧ pair' = pair) ∨ pair' ∈ shares other := by
  unfold Sharing.add
  split
  · rename_i same
    rw [Set.mem_insert_iff]
    simp only [same, true_and]
  · rename_i different
    simp only [different, false_and, false_or]

theorem Sharing.mem_remove {shares : Sharing} {artifactId other : String}
    {pair pair' : String × Action} :
    pair' ∈ shares.remove artifactId pair other ↔
      pair' ∈ shares other ∧ ¬(other = artifactId ∧ pair' = pair) := by
  unfold Sharing.remove
  split
  · rename_i same
    rw [Set.mem_sdiff, Set.mem_singleton_iff]
    simp only [same, true_and]
  · rename_i different
    simp only [different, false_and, not_false_eq_true, and_true]

section Calls

variable {F : Type} [FloatFormat F]

/-- A share that returns adds its pair, a revocation that returns removes the
pair of its grant if that grant was still active; nothing else counts. -/
def sharingStep (before : Disk) (occurrence : Occurrence F) (shares : Sharing) : Sharing :=
  match occurrence with
  | .finished (.share _ request) (.ok _) =>
      match Action.parse request.action with
      | some action => shares.add request.artifactId (request.subjectActorId, action)
      | none => shares
  | .finished (.revoke _ request) (.ok _) =>
      match before.db.aclGrants.find? (fun g => g.id = request.grantId) with
      | some grant =>
          if grant.status = .active then
            shares.remove grant.artifactId (grant.subjectId, grant.action)
          else shares
      | none => shares
  | _ => shares

/-- The sharing that a trace amounts to. -/
def sharing (past : List (Disk × Occurrence F)) : Sharing := replay sharingStep Sharing.none past

/-! ### Refinement -/

/-- The active grants of others than the owner are the pairs of the set. -/
structure SharesMatch (db : Database) (shares : Sharing) : Prop where
  held : ∀ artifact ∈ db.artifacts, ∀ actor action, artifact.ownerActorId ≠ some actor →
    ((actor, action) ∈ shares artifact.id ↔
      ∃ grant ∈ db.aclGrants,
        grant.isActiveFor artifact.tenantId artifact.id actor action = true)
  known : ∀ artifactId pair, pair ∈ shares artifactId →
    ∃ artifact ∈ db.artifacts, artifact.id = artifactId

theorem SharesMatch.congr {db db' : Database} {shares : Sharing} (matching : SharesMatch db shares)
    (same : SameOwners db db') (grants : db'.aclGrants = db.aclGrants) : SharesMatch db' shares where
  held := by
    rw [grants]
    intro artifact' inside' actor action
    obtain ⟨artifact, inside, identity⟩ := same.symm.kept artifact' inside'
    obtain ⟨id, rest⟩ := Prod.mk.inj identity
    obtain ⟨tenant, owner⟩ := Prod.mk.inj rest
    rw [← id, ← tenant, ← owner]
    exact matching.held artifact inside actor action
  known := by
    intro artifactId pair member
    obtain ⟨artifact, inside, sameId⟩ := matching.known artifactId pair member
    obtain ⟨artifact', inside', identity⟩ := same.kept artifact inside
    exact ⟨artifact', inside', (Prod.mk.inj identity).1.trans sameId⟩

omit [FloatFormat F] in
theorem SharesMatch.create {settings : Settings} {db : Database} {shares : Sharing}
    (sound : StoreSound db) (matching : SharesMatch db shares) {draw : CreateDraw}
    {request : CreateRequest F} (tenants : List TenantRow)
    (fresh : ∀ old ∈ db.artifacts, old.id ≠ newId "art" draw.artifactId) :
    SharesMatch (db.addArtifact tenants (request.artifactRow settings draw)
      (request.ownerGrants draw)) shares where
  held := by
    intro artifact member actor action notOwner
    rcases List.mem_append.mp member with old | new
    · rw [matching.held artifact old actor action notOwner]
      constructor
      · rintro ⟨grant, inside, active⟩
        exact ⟨grant, List.mem_append_left _ inside, active⟩
      · rintro ⟨grant, inside, active⟩
        rcases List.mem_append.mp inside with oldGrant | newGrant
        · exact ⟨grant, oldGrant, active⟩
        · obtain ⟨act, _, same⟩ := List.mem_map.mp newGrant
          obtain ⟨_, sameArtifact, _⟩ := GrantRow.isActiveFor_iff.mp active
          rw [← same] at sameArtifact
          exact absurd sameArtifact.symm (fresh artifact old)
    · rw [List.mem_singleton.mp new] at notOwner ⊢
      constructor
      · intro shared
        obtain ⟨old, inside, same⟩ := matching.known _ _ shared
        exact absurd same (fresh old inside)
      · rintro ⟨grant, inside, active⟩
        obtain ⟨_, sameArtifact, sameSubject, _⟩ := GrantRow.isActiveFor_iff.mp active
        rcases List.mem_append.mp inside with oldGrant | newGrant
        · obtain ⟨old, oldInside, sameId, _⟩ := sound.grants.located grant oldGrant
          exact absurd (sameId.trans sameArtifact) (fresh old oldInside)
        · obtain ⟨act, _, same⟩ := List.mem_map.mp newGrant
          rw [← same] at sameSubject
          exact absurd (congrArg some sameSubject) notOwner
  known := by
    intro artifactId pair member
    obtain ⟨artifact, inside, sameId⟩ := matching.known artifactId pair member
    exact ⟨artifact, List.mem_append_left _ inside, sameId⟩

/-- A share of which the grant is there already. -/
theorem SharesMatch.sharedAgain {db : Database} {shares : Sharing} (sound : StoreSound db)
    (matching : SharesMatch db shares) {grant : GrantRow} (present : grant ∈ db.aclGrants)
    {tenantId artifactId actor : String} {action : Action}
    (active : grant.isActiveFor tenantId artifactId actor action = true) :
    SharesMatch db (shares.add artifactId (actor, action)) := by
  obtain ⟨sameTenant, sameArtifact, _⟩ := GrantRow.isActiveFor_iff.mp active
  obtain ⟨home, homeInside, homeId, homeTenant⟩ := sound.grants.located grant present
  constructor
  · intro artifact inside other act notOwner
    rw [Sharing.mem_add, matching.held artifact inside other act notOwner]
    constructor
    · rintro (⟨sameId, samePair⟩ | held)
      · obtain ⟨sameActor, sameAction⟩ := Prod.mk.inj samePair
        have same : artifact = home :=
          sound.grants.artifactIds.eq inside homeInside
            (sameId.trans (sameArtifact.symm.trans homeId.symm))
        refine ⟨grant, present, ?_⟩
        rw [same, sameActor, sameAction, homeId, homeTenant, sameArtifact, sameTenant]
        exact active
      · exact held
    · intro held
      exact Or.inr held
  · intro other pair member
    rcases Sharing.mem_add.mp member with ⟨same, _⟩ | old
    · exact ⟨home, homeInside, homeId.trans (sameArtifact.trans same.symm)⟩
    · exact matching.known other pair old

theorem SharesMatch.share {db : Database} {shares : Sharing} (matching : SharesMatch db shares)
    {row : GrantRow} (active : row.status = .active)
    (located : ∃ artifact ∈ db.artifacts,
      artifact.id = row.artifactId ∧ artifact.tenantId = row.tenantId) (keyed : KeyedBy (·.id) db.artifacts) :
    SharesMatch { db with aclGrants := db.aclGrants ++ [row] }
      (shares.add row.artifactId (row.subjectId, row.action)) := by
  obtain ⟨home, homeInside, homeId, homeTenant⟩ := located
  constructor
  · intro artifact inside actor action notOwner
    rw [Sharing.mem_add, matching.held artifact inside actor action notOwner]
    constructor
    · rintro (⟨sameId, samePair⟩ | ⟨grant, member, held⟩)
      · obtain ⟨sameActor, sameAction⟩ := Prod.mk.inj samePair
        have same : artifact = home := keyed.eq inside homeInside (sameId.trans homeId.symm)
        refine ⟨row, List.mem_append_right _ (List.mem_singleton_self _), ?_⟩
        rw [same, homeTenant, homeId, sameActor, sameAction]
        exact GrantRow.isActiveFor_iff.mpr ⟨rfl, rfl, rfl, rfl, active⟩
      · exact ⟨grant, List.mem_append_left _ member, held⟩
    · rintro ⟨grant, member, held⟩
      rcases List.mem_append.mp member with old | new
      · exact Or.inr ⟨grant, old, held⟩
      · rw [List.mem_singleton.mp new] at held
        obtain ⟨_, sameArtifact, sameSubject, sameAction, _⟩ := GrantRow.isActiveFor_iff.mp held
        exact Or.inl ⟨sameArtifact.symm, by rw [sameSubject, sameAction]⟩
  · intro other pair member
    rcases Sharing.mem_add.mp member with ⟨same, _⟩ | old
    · exact ⟨home, homeInside, homeId.trans same.symm⟩
    · exact matching.known other pair old

/-- Revoking the one active grant of a pair removes the pair. -/
theorem SharesMatch.revoke {db : Database} {shares : Sharing} (sound : StoreSound db)
    (matching : SharesMatch db shares) {now : Timestamp} {request : RevokeRequest}
    {grant : GrantRow} (present : grant ∈ db.aclGrants) (named : grant.id = request.grantId)
    (active : grant.status = .active) :
    SharesMatch { db with aclGrants := revokeIn request now db.aclGrants }
      (shares.remove grant.artifactId (grant.subjectId, grant.action)) := by
  have own : grant.isActiveFor grant.tenantId grant.artifactId grant.subjectId grant.action = true :=
    GrantRow.isActiveFor_iff.mpr ⟨rfl, rfl, rfl, rfl, active⟩
  obtain ⟨home, homeInside, homeId, homeTenant⟩ := sound.grants.located grant present
  constructor
  · intro artifact inside actor action notOwner
    rw [Sharing.mem_remove, matching.held artifact inside actor action notOwner]
    constructor
    · rintro ⟨⟨other, member, held⟩, notRemoved⟩
      obtain ⟨_, sameArtifact, sameSubject, sameAction, stillActive⟩ :=
        GrantRow.isActiveFor_iff.mp held
      refine ⟨other, ?_, held⟩
      apply (active_revokeIn.mpr ⟨member, stillActive, ?_⟩).1
      intro isNamed
      have same : other = grant :=
        sound.grants.grantIds.eq member present (isNamed.trans named.symm)
      rw [same] at sameArtifact sameSubject sameAction
      exact notRemoved ⟨sameArtifact.symm, by rw [sameSubject, sameAction]⟩
    · rintro ⟨other, member, held⟩
      obtain ⟨_, _, _, _, stillActive⟩ := GrantRow.isActiveFor_iff.mp held
      obtain ⟨old, _, notNamed⟩ := active_revokeIn.mp ⟨member, stillActive⟩
      refine ⟨⟨other, old, held⟩, ?_⟩
      rintro ⟨sameId, samePair⟩
      -- two active grants of one pair are one grant
      obtain ⟨sameActor, sameAction⟩ := Prod.mk.inj samePair
      have same : artifact = home :=
        sound.grants.artifactIds.eq inside homeInside (sameId.trans homeId.symm)
      rw [same, homeTenant, homeId, sameActor, sameAction] at held
      exact notNamed ((congrArg GrantRow.id
        (sound.grants.active_unique old present held own)).trans named)
  · intro other pair member
    exact matching.known other pair (Sharing.mem_remove.mp member).1

theorem SharesMatch.effect {settings : Settings} {disk : Disk} {db' : Database} {call : Call F}
    {answer : Reply} {shares : Sharing} (sound : StoreSound disk.db)
    (matching : SharesMatch disk.db shares) (effect : Effect settings disk.db call answer db') :
    SharesMatch db' (sharingStep disk (.finished call (.ok answer)) shares) := by
  cases effect with
  | created _ _ fresh _ _ _ =>
      exact (matching.create sound _ fresh).congr (SameOwners.addVersion _ _ _) rfl
  | written _ _ _ _ _ _ => exact matching.congr (SameOwners.addVersion _ _ _) rfl
  | linkedAgain _ => exact matching
  | linked _ _ _ _ => exact matching.congr rfl rfl
  | sharedAgain parsed present active =>
      simp only [sharingStep, parsed]
      exact matching.sharedAgain sound present active
  | shared parsed _ authorized _ =>
      simp only [sharingStep, parsed]
      obtain ⟨artifact, found, _⟩ := authorize_ok_iff.mp authorized
      exact matching.share rfl ⟨artifact, findArtifact_some found⟩ sound.grants.artifactIds
  | @revokedAgain now request grant present named inactive =>
      have found : disk.db.aclGrants.find? (fun g => g.id = request.grantId) = some grant := by
        apply sound.grants.grantIds.find? present (decide_eq_true named)
        intro other isNamed
        exact (of_decide_eq_true isNamed).trans named.symm
      simp only [sharingStep, found, inactive]
      exact matching
  | @revoked now request grant present named active _ =>
      have found : disk.db.aclGrants.find? (fun g => g.id = request.grantId) = some grant := by
        apply sound.grants.grantIds.find? present (decide_eq_true named)
        intro other isNamed
        exact (of_decide_eq_true isNamed).trans named.symm
      simp only [sharingStep, found, active, if_true]
      exact matching.revoke sound present named active
  | initialized same _ =>
      exact matching.congr (congrArg (List.map ArtifactRow.identity) same.artifacts) same.aclGrants

theorem SharesMatch.step {settings : Settings} {disk disk' : Disk} {occurrence : Occurrence F}
    {shares : Sharing} (sound : StoreSound disk.db) (matching : SharesMatch disk.db shares)
    (step : StoreStep settings disk occurrence disk') :
    SharesMatch disk'.db (sharingStep disk occurrence shares) := by
  rcases storeStep_cases sound step with ⟨call, answer, same, effect⟩ | ⟨notDone, members, same⟩
  · rw [same]
    exact matching.effect sound effect
  · have unchanged : sharingStep disk occurrence shares = shares := by
      unfold sharingStep
      split
      · exact absurd rfl (notDone _ _)
      · exact absurd rfl (notDone _ _)
      · rfl
    rw [unchanged]
    apply matching.congr
    · rw [SameOwners, same]
    · rw [same]

/-! ### What the table says -/

structure AclState (db : Database) (shares : Sharing) : Prop where
  authorized : ∀ tenantId artifactId actor action,
    authorize db tenantId artifactId (some actor) action = .ok () ↔
      ∃ artifact ∈ db.artifacts, artifact.id = artifactId ∧ artifact.tenantId = tenantId ∧
        (artifact.ownerActorId = some actor ∨ (actor, action) ∈ shares artifactId)
  oneActive : ∀ artifactId actor action,
    (db.aclGrants.filter (fun g => g.artifactId = artifactId && g.subjectId = actor &&
      g.action = action && g.status = .active)).length ≤ 1
  ownerHolds : ∀ artifact ∈ db.artifacts, OwnerHolds db artifact

theorem SharesMatch.permits_iff {db : Database} {shares : Sharing}
    (matching : SharesMatch db shares) {artifact : ArtifactRow} (inside : artifact ∈ db.artifacts)
    (actor : String) (action : Action) :
    db.permits artifact actor action = true ↔
      artifact.ownerActorId = some actor ∨ (actor, action) ∈ shares artifact.id := by
  unfold Database.permits
  rw [Bool.or_eq_true, decide_eq_true_eq, List.any_eq_true]
  by_cases owner : artifact.ownerActorId = some actor
  · simp only [owner, true_or]
  · simp only [owner, false_or]
    exact (matching.held artifact inside actor action owner).symm

theorem GrantsSound.oneActive {db : Database} (sound : GrantsSound db)
    (artifactId actor : String) (action : Action) :
    (db.aclGrants.filter (fun g => g.artifactId = artifactId && g.subjectId = actor &&
      g.action = action && g.status = .active)).length ≤ 1 := by
  apply filter_length_le_one sound.grantIds.nodup
  intro a b aInside bInside aHolds bHolds
  simp only [Bool.and_eq_true, decide_eq_true_eq] at aHolds bHolds
  obtain ⟨⟨⟨aArtifact, aSubject⟩, aAction⟩, aActive⟩ := aHolds
  obtain ⟨⟨⟨bArtifact, bSubject⟩, bAction⟩, bActive⟩ := bHolds
  -- the grants are in the one tenant that has the artifact
  obtain ⟨home, homeInside, homeId, homeTenant⟩ := sound.located a aInside
  obtain ⟨home', homeInside', homeId', homeTenant'⟩ := sound.located b bInside
  have sameHome : home = home' := sound.artifactIds.eq homeInside homeInside'
    (homeId.trans (aArtifact.trans (bArtifact.symm.trans homeId'.symm)))
  have sameTenant : b.tenantId = a.tenantId := by
    rw [← homeTenant, ← homeTenant', sameHome]
  exact sound.active_unique aInside bInside
    (GrantRow.isActiveFor_iff.mpr ⟨rfl, aArtifact, aSubject, aAction, aActive⟩)
    (GrantRow.isActiveFor_iff.mpr ⟨sameTenant, bArtifact, bSubject, bAction, bActive⟩)

theorem SharesMatch.state {db : Database} {shares : Sharing} (sound : StoreSound db)
    (matching : SharesMatch db shares) : AclState db shares where
  authorized := by
    intro tenantId artifactId actor action
    rw [authorize_ok_iff]
    simp only [Option.some.injEq, forall_eq']
    constructor
    · rintro ⟨artifact, found, _, permitted⟩
      obtain ⟨inside, sameId, sameTenant⟩ := findArtifact_some found
      refine ⟨artifact, inside, sameId, sameTenant, ?_⟩
      rw [← sameId]
      exact (matching.permits_iff inside actor action).mp permitted
    · rintro ⟨artifact, inside, sameId, sameTenant, allowed⟩
      have permitted : db.permits artifact actor action = true := by
        rw [matching.permits_iff inside, sameId]
        exact allowed
      refine ⟨artifact, ?_, sound.grants.valid_of_permits inside permitted, permitted⟩
      rw [← sameId, ← sameTenant]
      exact findArtifact_of_mem sound.grants.artifactIds inside
  oneActive := sound.grants.oneActive
  ownerHolds := sound.grants.owners

/-! ### What later calls keep -/

structure AclKept (db db' : Database) : Prop where
  artifacts : ArtifactsKept db db'
  revoked : ∀ grant ∈ db.aclGrants, grant.status = .revoked → grant ∈ db'.aclGrants

theorem AclKept.refl (db : Database) : AclKept db db :=
  ⟨ArtifactsKept.refl db, fun _ member _ => member⟩

theorem AclKept.trans {db db' db'' : Database} (first : AclKept db db') (second : AclKept db' db'') :
    AclKept db db'' :=
  ⟨first.artifacts.trans second.artifacts, fun grant member isRevoked =>
    second.revoked grant (first.revoked grant member isRevoked) isRevoked⟩

theorem AclKept.of_same {db db' : Database} (same : SameOwners db db')
    (grants : db'.aclGrants = db.aclGrants) : AclKept db db' where
  artifacts := same.kept
  revoked := by
    rw [grants]
    exact fun _ member _ => member

theorem AclKept.effect {settings : Settings} {db db' : Database} {call : Call F} {answer : Reply}
    (effect : Effect settings db call answer db') : AclKept db db' := by
  cases effect with
  | created _ _ _ _ _ _ =>
      refine AclKept.trans ⟨ArtifactsKept.addArtifact _ _ _ _, ?_⟩
        (AclKept.of_same (SameOwners.addVersion _ _ _) rfl)
      exact fun _ member _ => List.mem_append_left _ member
  | written _ _ _ _ _ _ => exact AclKept.of_same (SameOwners.addVersion _ _ _) rfl
  | linkedAgain _ => exact AclKept.refl _
  | linked _ _ _ _ => exact AclKept.of_same rfl rfl
  | sharedAgain _ _ _ => exact AclKept.refl _
  | shared _ _ _ _ =>
      exact ⟨ArtifactsKept.refl _, fun _ member _ => List.mem_append_left _ member⟩
  | revokedAgain _ _ _ => exact AclKept.refl _
  | revoked _ _ _ _ =>
      refine ⟨ArtifactsKept.refl _, ?_⟩
      intro grant member isRevoked
      refine mem_revokeIn.mpr (Or.inr ⟨member, ?_⟩)
      rintro ⟨_, active⟩
      rw [isRevoked] at active
      cases active
  | initialized same _ =>
      exact AclKept.of_same (congrArg (List.map ArtifactRow.identity) same.artifacts) same.aclGrants

theorem AclKept.step {settings : Settings} {disk disk' : Disk} {occurrence : Occurrence F}
    (sound : StoreSound disk.db) (step : StoreStep settings disk occurrence disk') :
    AclKept disk.db disk'.db := by
  rcases storeStep_cases sound step with ⟨call, answer, _, effect⟩ | ⟨_, members, same⟩
  · exact AclKept.effect effect
  · rw [same]
    exact AclKept.of_same rfl rfl

/-- The grants say of every actor and action what the calls so far amount to, and
what is revoked stays as it was. -/
theorem acl_refines_sharing {settings : Settings} {draw : InitializeDraw}
    {past : List (Disk × Occurrence F)} {disk : Disk} (trace : StoreTrace settings draw past disk) :
    AclState disk.db (sharing past) ∧
      ∀ later disk', Trace (StoreStep (F := F) settings) disk later disk' →
        (∀ artifact ∈ disk.db.artifacts, ∃ artifact' ∈ disk'.db.artifacts,
          artifact'.id = artifact.id ∧ artifact'.tenantId = artifact.tenantId ∧
            artifact'.ownerActorId = artifact.ownerActorId) ∧
        ∀ grant ∈ disk.db.aclGrants, grant.status = .revoked →
          grant ∈ disk'.db.aclGrants ∧
            ∀ other ∈ disk'.db.aclGrants, other.id = grant.id → other = grant := by
  have sound := StoreTrace.sound trace
  constructor
  · have matching := trace.simulates (P := fun disk => StoreSound disk.db)
      (R := fun disk shares => SharesMatch disk.db shares)
      (fun _ _ _ sound step => sound.step step)
      (fun _ _ _ _ sound matching step => matching.step sound step)
      (StoreSound.fresh settings draw)
      ⟨by simp [freshDisk, freshDatabase, Database.created],
        fun _ _ member => absurd member (Set.notMem_empty _)⟩
    exact SharesMatch.state sound matching
  · intro later disk' continued
    have sound' : StoreSound disk'.db := continued.invariant (P := fun disk => StoreSound disk.db)
      (fun _ _ _ sound step => sound.step step) sound
    have kept : AclKept disk.db disk'.db := continued.preorder
      (P := fun disk => StoreSound disk.db) (R := fun disk disk' => AclKept disk.db disk'.db)
      (fun disk => AclKept.refl disk.db) (fun disk mid last (first : AclKept disk.db mid.db) second => first.trans second)
      (fun _ _ _ sound step => sound.step step) (fun _ _ _ sound step => AclKept.step sound step)
      sound
    constructor
    · intro artifact inside
      obtain ⟨artifact', inside', identity⟩ := kept.artifacts artifact inside
      obtain ⟨id, rest⟩ := Prod.mk.inj identity
      obtain ⟨tenant, owner⟩ := Prod.mk.inj rest
      exact ⟨artifact', inside', id, tenant, owner⟩
    · intro grant member isRevoked
      have still := kept.revoked grant member isRevoked
      exact ⟨still, fun other inside sameId => sound'.grants.grantIds.eq inside still sameId⟩

end Calls

/-! ### Sharing, revoking and sharing again -/

def aclCreate : CreateRequest Empty where
  tenantId := "t"
  name := "n"
  data := []
  actor := "ann"

def aclShare : ShareRequest where
  tenantId := "t"
  artifactId := newId "art" Uuid.nil
  actor := "ann"
  subjectActorId := "bob"

def aclRevoke : RevokeRequest where
  tenantId := "t"
  artifactId := newId "art" Uuid.nil
  actor := "ann"
  grantId := newId "grt" Uuid.nil

def aclCalls : List (Call Empty) :=
  [.create (CreateDraw.epoch Uuid.nil) aclCreate, .share ⟨Uuid.nil, Timestamp.epoch⟩ aclShare,
    .revoke Timestamp.epoch aclRevoke, .share ⟨Uuid.one, Timestamp.epoch⟩ aclShare,
    .revoke Timestamp.epoch aclRevoke]

/-- The grant of the first share is revoked twice; that of the second stays. -/
theorem acl_refines_sharing_again :
    ("bob", Action.read) ∈ sharing (moments Settings.standard aclCalls
      (freshDisk Settings.standard InitializeDraw.epoch)) (newId "art" Uuid.nil) := by
  have trace := performAll_trace (.start : StoreTrace Settings.standard InitializeDraw.epoch [] _)
    aclCalls
  have notOwner : ∀ artifact ∈ (performAll Settings.standard aclCalls
      (freshDisk Settings.standard InitializeDraw.epoch)).db.artifacts,
      artifact.ownerActorId ≠ some "bob" := by
    decide
  obtain ⟨artifact, inside, _, _, allowed⟩ := ((acl_refines_sharing trace).1.authorized "t"
    (newId "art" Uuid.nil) "bob" .read).mp (by decide)
  exact allowed.resolve_left (notOwner artifact inside)

end FolioLattice.Store
