import Manbaa.Workspaces.Directory

/-!
# Organizations and their people

An organization has users, which the service of the legacy roles invites, promotes and
revokes, and members, which the service of version one manages.  The two roles of a person
are independent.
-/

namespace Manbaa.Organizations

open Manbaa.Lib Manbaa.Lib.Program Manbaa.Workspaces
open Manbaa.Auth (OrganizationRole)

/-! ## Accounts -/

/-- The identifiers of a registration and the name of its organization. -/
structure Registration where
  organizationId : Uuid
  userId : Uuid
  memberId : Uuid
  name : String
  email : String
  passwordHash : String

/-- The first member of an organization. -/
def Registration.member (dto : Registration) : OrganizationMembership where
  organizationId := dto.organizationId
  userId := dto.userId
  active := true
  id := dto.memberId
  role := .owner

/-- The transaction of a registration. -/
def insertAccount (dto : Registration) (email : String) (db : Directory) :
    Except Exception (Unit × Directory) := do
  let organization : Organization := ⟨dto.organizationId, dto.name⟩
  let user : User :=
    { id := dto.userId
      email := email
      passwordHash := dto.passwordHash
      role := .admin
      orgId := organization.id
      isVerified := false
      isActive := true
      inviteTokenHash := none
      inviteExpiresAt := none }
  db.admitsOrganization organization
  db.admitsUser user
  db.admitsMember dto.member
  pure ((),
    { db with
      organizations := db.organizations ++ [organization]
      users := db.users ++ [user]
      organizationMembers := db.organizationMembers ++ [dto.member] })

/-- `AuthService.register`, as far as it fills the directory. -/
def register (runtime : Runtime) (dto : Registration) : Statements Unit := do
  let email := runtime.toLowerCase (runtime.trim dto.email)
  let taken ← query fun db => db.users.any fun user => user.email == email
  ensure (!taken) (.conflict "Email is already registered")
  write (insertAccount dto email)

/-! ## `OrganizationsV1Service` -/

/-- `CreateOrganizationDto`, and the identifiers that the database draws. -/
structure CreateOrganization where
  name : String
  organizationId : Uuid
  memberId : Uuid

/-- The first member of an organization. -/
def CreateOrganization.member (dto : CreateOrganization) (userId : Uuid) :
    OrganizationMembership where
  organizationId := dto.organizationId
  userId := userId
  active := true
  id := dto.memberId
  role := .owner

/-- The transaction of a new organization: the organization and its first member. -/
def insertOrganization (dto : CreateOrganization) (userId : Uuid) (db : Directory) :
    Except Exception (Organization × Directory) := do
  let organization : Organization := ⟨dto.organizationId, dto.name⟩
  db.admitsOrganization organization
  db.admitsMember (dto.member userId)
  pure (organization,
    { db with
      organizations := db.organizations ++ [organization]
      organizationMembers := db.organizationMembers ++ [dto.member userId] })

/-- `create`. -/
def createOrganization (dto : CreateOrganization) (userId : Uuid) : Statements Organization :=
  write (insertOrganization dto userId)

/-- `OrganizationPermissionService.requireRole`. -/
def requireRole (db : Directory) (userId organizationId : Uuid) (roles : List OrganizationRole) :
    Except Exception OrganizationMembership :=
  lookUp
    (db.organizationMembers.find? fun member =>
      member.userId == userId && member.organizationId == organizationId && member.active &&
        roles.contains member.role)
    (.forbidden "Organization role required")

/-- The roles that manage the members of an organization. -/
def managers : List OrganizationRole := [.owner, .admin]

/-- `findMember`. -/
def findMember (organizationId id : Uuid) : Statements OrganizationMembership :=
  ask fun db =>
    lookUp
      (db.organizationMembers.find? fun member =>
        member.id == id && member.organizationId == organizationId && member.active)
      (.notFound "Organization member not found")

/-- The member is an active owner of the organization. -/
def isActiveOwner (organizationId : Uuid) (member : OrganizationMembership) : Bool :=
  member.organizationId == organizationId && member.role == .owner && member.active

/-- How many other active owners the organization has. -/
def otherOwners (db : Directory) (organizationId excludingId : Uuid) : Nat :=
  db.organizationMembers.countP fun member =>
    isActiveOwner organizationId member && member.id != excludingId

/-- `assertAnotherOwner`. -/
def assertAnotherOwner (organizationId excludingId : Uuid) : Statements Unit :=
  ask fun db =>
    check (otherOwners db organizationId excludingId != 0)
      (.badRequest "Cannot remove or downgrade the last organization owner")

/-- The save of the row of a member that has been read before. -/
def saveMember (member : OrganizationMembership) : Statements OrganizationMembership :=
  write fun db => .ok (member,
    { db with organizationMembers :=
        Table.save OrganizationMembership.id db.organizationMembers member })

/-- `updateMember`. -/
def updateMember (id memberId : Uuid) (role : OrganizationRole) (userId : Uuid) :
    Statements OrganizationMembership := do
  let caller ← ask fun db => requireRole db userId id managers
  let member ← findMember id memberId
  ensure (!(caller.role == .admin && member.role == .owner))
    (.forbidden "Admins cannot modify owners")
  onlyIf (member.role == .owner && role != .owner) (assertAnotherOwner id member.id)
  saveMember { member with role := role }

/-- `removeMember`. -/
def removeMember (id memberId userId : Uuid) : Statements Unit := do
  let caller ← ask fun db => requireRole db userId id managers
  let member ← findMember id memberId
  ensure (!(caller.role == .admin && member.role == .owner))
    (.forbidden "Admins cannot remove owners")
  onlyIf (member.role == .owner) (assertAnotherOwner id member.id)
  let _ ← saveMember { member with active := false }
  pure ()

/-! ## `OrganizationsService` -/

/-- `assertAdmin`. -/
def assertAdmin (caller : RequestUser) : Statements Unit := do
  ensure (caller.orgId.text != "") (.forbidden "Organization scope is required")
  ensure (caller.role == UserRole.text .admin) (.forbidden "Admin role is required")

/-- `findOrgUserOrThrow`. -/
def findOrgUser (userId orgId : Uuid) : Statements User :=
  ask fun db =>
    lookUp (db.users.find? fun user => user.id == userId && user.orgId == orgId)
      (.notFound "User not found")

/-- The user is an active administrator of the organization. -/
def isActiveAdmin (orgId : Uuid) (user : User) : Bool :=
  user.orgId == orgId && user.role == .admin && user.isActive

/-- `assertNotLastActiveAdmin`. -/
def assertNotLastActiveAdmin (userId orgId : Uuid) : Statements Unit := do
  let activeAdminCount ← query fun db => db.users.countP (isActiveAdmin orgId)
  onlyIf (decide (activeAdminCount ≤ 1)) do
    let user ← query fun db => db.users.find? fun user => user.id == userId && user.orgId == orgId
    ensure (!user.any fun user => user.role == .admin)
      (.badRequest "Cannot downgrade or revoke the last active admin")

/-- The save of the row of a user that has been read before. -/
def saveUser (user : User) : Statements User :=
  write fun db => .ok (user, { db with users := Table.save User.id db.users user })

/-- `auditService.log`. -/
def logAudit (entry : AuditLog) : Statements Unit :=
  write fun db => .ok ((), { db with auditLogs := db.auditLogs ++ [entry] })

/-- `InviteUserDto`, and what the service draws. -/
structure InviteUser where
  email : String
  role : Option UserRole
  userId : Uuid
  inviteToken : String
  now : Nat

/-- The row of an invited user. -/
def InviteUser.user (runtime : Runtime) (dto : InviteUser) (orgId : Uuid) : User where
  id := dto.userId
  email := runtime.toLowerCase dto.email
  passwordHash := "pending-invite:" ++ runtime.sha256 dto.inviteToken
  role := dto.role.getD .viewer
  orgId := orgId
  isVerified := false
  isActive := true
  inviteTokenHash := some (runtime.sha256 dto.inviteToken)
  inviteExpiresAt := some (dto.now + 7 * 24 * 60 * 60 * 1000)

/-- `inviteUser`; the mailer only writes to the log. -/
def inviteUser (runtime : Runtime) (dto : InviteUser) (caller : RequestUser) :
    Statements User := do
  assertAdmin caller
  let user := dto.user runtime caller.orgId
  let existing ← query fun db => db.users.any fun other => other.email == user.email
  ensure (!existing) (.conflict "User already exists")
  write fun db => do
    db.admitsUser user
    pure ((), { db with users := db.users ++ [user] })
  logAudit ⟨caller.id, "ORG_USER_INVITED", none, user⟩
  pure user

/-- `updateUserRole`. -/
def updateUserRole (userId : Uuid) (role : UserRole) (caller : RequestUser) :
    Statements User := do
  assertAdmin caller
  let user ← findOrgUser userId caller.orgId
  if user.role == role then
    pure user
  else do
    onlyIf (user.role == .admin && role != .admin)
      (assertNotLastActiveAdmin user.id caller.orgId)
    let saved ← saveUser { user with role := role }
    logAudit ⟨caller.id, "ORG_USER_ROLE_UPDATED", some user, saved⟩
    pure saved

/-- `revokeUser`. -/
def revokeUser (userId : Uuid) (caller : RequestUser) : Statements Unit := do
  assertAdmin caller
  let user ← findOrgUser userId caller.orgId
  onlyIf (user.role == .admin) (assertNotLastActiveAdmin user.id caller.orgId)
  let saved ← saveUser { user with isActive := false }
  write fun db => .ok ((),
    { db with refreshTokens := db.refreshTokens.map fun token =>
        if token.userId == user.id then { token with revoked := true } else token })
  logAudit ⟨caller.id, "ORG_USER_REVOKED", some { user with isActive := true }, saved⟩

end Manbaa.Organizations
