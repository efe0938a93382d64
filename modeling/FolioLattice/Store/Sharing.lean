/-
Sharing an artifact and revoking a share.
-/

import FolioLattice.Store.Artifacts

namespace FolioLattice.Store

open FolioLattice.Text FolioLattice.Data FolioLattice.Relational

/-! ### Sharing -/

structure ShareRequest where
  tenantId : String
  artifactId : String
  actor : String
  subjectActorId : String
  action : String := "read"
  reason : String := "shared artifact"
  authorizationActor : AuthorizationActor := .useCaller

structure GrantDraw where
  grantId : Uuid
  now : Timestamp

/-- `reason.strip().casefold() == OWNER_GRANT_REASON.casefold()` -/
def isReservedReason (reason : String) : Bool :=
  casefold (strip reason.toList) = casefold ownerGrantReason.toList

def ShareRequest.validate (request : ShareRequest) : Except Failure Action := do
  validateText "subject_actor_id" request.subjectActorId maxNameLength
  validateText "reason" request.reason maxReasonLength
  if isReservedReason request.reason then .error (.folio "share reason is reserved")
  else
    match Action.parse request.action with
    | none => .error (.folio "share action is invalid")
    | some action => .ok action

/-- Without the identity service's table any actor may be a subject. -/
def Database.isActiveMember (db : Database) (tenantId actor : String) : Bool :=
  match db.oidcMemberships with
  | none => true
  | some members =>
      members.any (fun m => m.tenantId = tenantId && m.actorId = actor && m.active)

def ShareRequest.grantRow (request : ShareRequest) (action : Action) (draw : GrantDraw) :
    GrantRow where
  id := newId "grt" draw.grantId
  tenantId := request.tenantId
  artifactId := request.artifactId
  subjectType := aclSubjectType
  subjectId := request.subjectActorId
  action := action
  status := .active
  createdBy := request.actor
  createdAt := draw.now.isoformat
  reason := request.reason
  revokedBy := none
  revokedAt := none
  revocationReason := none

/-- The transaction of `share_artifact`; the row it returns is the active grant. -/
def shareBody (draw : GrantDraw) (request : ShareRequest) (action : Action) (db : Database) :
    Except Failure (Database × GrantRow) := do
  authorize db request.tenantId request.artifactId
    (request.authorizationActor.resolve request.actor) .share
  if !db.isActiveMember request.tenantId request.subjectActorId then
    .error (.folio "share target is not an active tenant member")
  else
    match db.aclGrants.find? (fun g =>
        g.isActiveFor request.tenantId request.artifactId request.subjectActorId action) with
    | some existing => .ok (db, existing)
    | none =>
        let row := request.grantRow action draw
        let grants ← insertUnique GrantRow.clashes row db.aclGrants
        .ok ({ db with aclGrants := grants }, row)

def shareArtifact (draw : GrantDraw) (request : ShareRequest) (db : Database) :
    Except Failure (Database × GrantRow) := do
  let action ← request.validate
  shareBody draw request action db

/-! ### Revoking -/

structure RevokeRequest where
  tenantId : String
  artifactId : String
  actor : String
  grantId : String
  reason : String := "revoked share"
  authorizationActor : AuthorizationActor := .useCaller

def RevokeRequest.validate (request : RevokeRequest) : Except Failure Unit := do
  validateText "grant_id" request.grantId maxNameLength
  validateText "reason" request.reason maxReasonLength

def GrantRow.revoke (grant : GrantRow) (request : RevokeRequest) (now : Timestamp) : GrantRow :=
  { grant with
    status := .revoked
    revokedBy := some request.actor
    revokedAt := some now.isoformat
    revocationReason := some request.reason }

/-- The transaction of `revoke_share`; it returns the row as it then is. -/
def revokeBody (now : Timestamp) (request : RevokeRequest) (db : Database) :
    Except Failure (Database × GrantRow) := do
  authorize db request.tenantId request.artifactId
    (request.authorizationActor.resolve request.actor) .share
  match db.aclGrants.find? (fun g =>
      g.id = request.grantId && g.tenantId = request.tenantId &&
        g.artifactId = request.artifactId) with
  | none => .error (.folio "grant not found")
  | some row =>
      if row.id = ownerGrantId request.artifactId row.action then
        .error (.folio "artifact owner grant cannot be revoked")
      else if row.status = .active then
        .ok ({ db with
            aclGrants := updateWhere (fun g => g.id = request.grantId && g.status = .active)
              (fun g => g.revoke request now) db.aclGrants },
          row.revoke request now)
      else .ok (db, row)

def revokeShare (now : Timestamp) (request : RevokeRequest) (db : Database) :
    Except Failure (Database × GrantRow) := do
  request.validate
  revokeBody now request db

end FolioLattice.Store
