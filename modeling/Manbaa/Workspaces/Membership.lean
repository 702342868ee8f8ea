import Manbaa.Workspaces.Directory

/-!
# The members of a workspace

The services that create a workspace, manage its members and invite new ones.  Every read and
every save is a statement of its own; what a transaction has read is kept, and what it
writes shows when it commits.
-/

namespace Manbaa.Workspaces

open Manbaa.Lib Manbaa.Lib.Program

/-! ## Reads and saves -/

/-- `WorkspacePermissionService.requireRole`, as a statement. -/
def permitted (userId workspaceId : Uuid) (roles : List WorkspaceRole) :
    Statements WorkspaceMember :=
  ask fun db => requireRole db.members userId workspaceId roles

/-- The roles that manage the members of a workspace. -/
def managers : List WorkspaceRole := [.owner, .admin]

/-- The save of the row of a member that has been read before: every column is written as the
caller holds it. -/
def saveMember (member : WorkspaceMembership) : Statements WorkspaceMembership :=
  write fun db => .ok (member,
    { db with workspaceMembers :=
        Table.save WorkspaceMembership.id db.workspaceMembers member })

/-- The save of an invitation. -/
def saveInvitation (invitation : WorkspaceInvitation) : Statements WorkspaceInvitation :=
  write fun db => .ok (invitation,
    { db with invitations := Table.save WorkspaceInvitation.id db.invitations invitation })

/-- The row of a member of a workspace. -/
def Directory.workspaceMember? (db : Directory) (workspaceId userId : Uuid) :
    Option WorkspaceMembership :=
  db.workspaceMembers.find? fun member =>
    member.workspaceId == workspaceId && member.userId == userId

/-- The member is an active owner of the workspace. -/
def WorkspaceMembership.isActiveOwner (workspaceId : Uuid) (member : WorkspaceMembership) : Bool :=
  member.workspaceId == workspaceId && member.role == .owner && member.status == .active

/-! ## `WorkspacesService` -/

/-- `CreateWorkspaceDto`, and the identifiers that the database draws. -/
structure CreateWorkspace where
  name : String
  description : Option String
  workspaceId : Uuid
  memberId : Uuid
  now : Nat

/-- The first member of a workspace. -/
def CreateWorkspace.member (dto : CreateWorkspace) (userId organizationId : Uuid) :
    WorkspaceMembership where
  organizationId := organizationId
  workspaceId := dto.workspaceId
  userId := userId
  role := .owner
  status := .active
  id := dto.memberId
  invitedBy := none
  joinedAt := some dto.now

/-- The transaction of a new workspace: the workspace and its first member. -/
def insertWorkspace (dto : CreateWorkspace) (userId organizationId : Uuid) (db : Directory) :
    Except Exception (Workspace × Directory) := do
  let workspace : Workspace :=
    { id := dto.workspaceId
      organizationId := organizationId
      name := dto.name
      description := dto.description
      createdBy := userId }
  db.admitsWorkspace workspace
  db.admitsWorkspaceMember (dto.member userId organizationId)
  pure (workspace,
    { db with
      workspaces := db.workspaces ++ [workspace]
      workspaceMembers := db.workspaceMembers ++ [dto.member userId organizationId] })

/-- `WorkspacesService.create`. -/
def createWorkspace (dto : CreateWorkspace) (userId organizationId : Uuid) :
    Statements Workspace := do
  let orgMember ← query fun db => db.organizationMembers.any fun member =>
    member.organizationId == organizationId && member.userId == userId && member.active
  ensure orgMember (.notFound "Organization not found")
  write (insertWorkspace dto userId organizationId)

/-! ## `WorkspaceMembershipService` -/

/-- `find`. -/
def findMember (workspaceId memberId : Uuid) : Statements WorkspaceMembership :=
  ask fun db =>
    lookUp
      (db.workspaceMembers.find? fun member =>
        member.id == memberId && member.workspaceId == workspaceId)
      (.notFound "Workspace member not found")

/-- `assertCanManage`. -/
def assertCanManage (caller : WorkspaceMember) (target : WorkspaceMembership) : Statements Unit :=
  ensure (!(caller.role == .admin && target.role == .owner))
    (.forbidden "Admins cannot modify owners")

/-- How many other active owners the workspace has. -/
def Directory.otherOwners (db : Directory) (workspaceId excludingId : Uuid) : Nat :=
  db.workspaceMembers.countP fun member =>
    member.isActiveOwner workspaceId && member.id != excludingId

/-- `assertAnotherOwner`. -/
def assertAnotherOwner (workspaceId excludingId : Uuid) : Statements Unit :=
  ask fun db =>
    check (db.otherOwners workspaceId excludingId != 0)
      (.badRequest "Cannot modify the last workspace owner")

/-- `changeRole`. -/
def changeRole (workspaceId memberId : Uuid) (role : WorkspaceRole) (userId : Uuid) :
    Statements WorkspaceMembership := do
  let caller ← permitted userId workspaceId managers
  let target ← findMember workspaceId memberId
  assertCanManage caller target
  onlyIf (target.role == .owner && role != .owner) (assertAnotherOwner workspaceId target.id)
  ensure (!(role == .owner && caller.role != .owner))
    (.forbidden "Only owners can transfer ownership")
  saveMember { target with role := role }

/-- `setStatus`; the sockets of a member who loses access are closed afterwards. -/
def setStatus (workspaceId memberId userId : Uuid) (status : WorkspaceMemberStatus) :
    Statements WorkspaceMembership := do
  let caller ← permitted userId workspaceId managers
  let target ← findMember workspaceId memberId
  assertCanManage caller target
  onlyIf (target.role == .owner && status != .active) (assertAnotherOwner workspaceId target.id)
  saveMember { target with status := status }

/-- `suspend`. -/
def suspend (workspaceId memberId userId : Uuid) : Statements WorkspaceMembership :=
  setStatus workspaceId memberId userId .suspended

/-- `restore`. -/
def restore (workspaceId memberId userId : Uuid) : Statements WorkspaceMembership :=
  setStatus workspaceId memberId userId .active

/-- `remove`. -/
def remove (workspaceId memberId userId : Uuid) : Statements WorkspaceMembership :=
  setStatus workspaceId memberId userId .removed

/-! ## `WorkspaceInvitationsService` -/

/-- `CreateWorkspaceInvitationDto`, and what the service draws. -/
structure CreateInvitation where
  email : String
  role : WorkspaceRole
  invitationId : Uuid
  token : String
  now : Nat

/-- `invitations.save` of a new row. -/
def insertInvitation (invitation : WorkspaceInvitation) : Statements WorkspaceInvitation :=
  write fun db => do
    db.admitsInvitation invitation
    pure (invitation, { db with invitations := db.invitations ++ [invitation] })

/-- Seven days in milliseconds. -/
def invitationTtl : Nat := 7 * 24 * 60 * 60000

/-- `create`. -/
def createInvitation (runtime : Runtime) (workspaceId : Uuid) (dto : CreateInvitation)
    (userId : Uuid) : Statements WorkspaceInvitation := do
  let caller ← permitted userId workspaceId managers
  ensure (!(dto.role == .owner && caller.role != .owner))
    (.conflict "Only owners can invite owners")
  let email := runtime.toLowerCase (runtime.trim dto.email)
  let pending ← query fun db => db.invitations.any fun invitation =>
    invitation.workspaceId == workspaceId && invitation.email == email &&
      invitation.status == .pending
  ensure (!pending) (.conflict "A pending invitation already exists")
  insertInvitation
    { id := dto.invitationId
      organizationId := caller.organizationId
      workspaceId := workspaceId
      email := email
      role := dto.role
      tokenHash := runtime.sha256 dto.token
      invitedBy := userId
      expiresAt := dto.now + invitationTtl
      acceptedAt := none
      revokedAt := none
      status := .pending }

/-- `revoke`. -/
def revokeInvitation (workspaceId id userId : Uuid) (now : Nat) : Statements Unit := do
  let _ ← permitted userId workspaceId managers
  let invitation ← ask fun db =>
    lookUp
      (db.invitations.find? fun invitation =>
        invitation.id == id && invitation.workspaceId == workspaceId &&
          invitation.status == .pending)
      (.notFound "Pending invitation not found")
  let _ ← saveInvitation { invitation with status := .revoked, revokedAt := some now }
  pure ()

/-- The row of the member that an invitation makes of a user. -/
def WorkspaceInvitation.member (invitation : WorkspaceInvitation) (userId memberId : Uuid)
    (now : Nat) : Option WorkspaceMembership → WorkspaceMembership
  | some member => { member with role := invitation.role, status := .active }
  | none =>
      { organizationId := invitation.organizationId
        workspaceId := invitation.workspaceId
        userId := userId
        role := invitation.role
        status := .active
        id := memberId
        invitedBy := some invitation.invitedBy
        joinedAt := some now }

/-- A row that an acceptance inserts is new. -/
def Directory.admitsAcceptance (db : Directory) (existing : Option WorkspaceMembership)
    (member : WorkspaceMembership) : Except Exception Unit :=
  if existing.isNone then db.admitsWorkspaceMember member else .ok ()

/-- The two saves of an acceptance and its commit. -/
def commitAcceptance (invitation : WorkspaceInvitation) (existing : Option WorkspaceMembership)
    (member : WorkspaceMembership) (now : Nat) (db : Directory) :
    Except Exception (WorkspaceMembership × Directory) := do
  db.admitsAcceptance existing member
  pure (member,
    { db with
      workspaceMembers := Table.save WorkspaceMembership.id db.workspaceMembers member
      invitations := Table.save WorkspaceInvitation.id db.invitations
        { invitation with status := .accepted, acceptedAt := some now } })

/-- What an acceptance does once the invitation is known to be for its user.  The status
`expired` is written in the transaction that the exception then undoes. -/
def acceptPending (invitation : WorkspaceInvitation) (userId memberId : Uuid) (now : Nat) :
    Statements WorkspaceMembership := do
  ensure (invitation.status == .pending) (.gone "Invitation is no longer valid")
  ensure (decide (now < invitation.expiresAt)) (.gone "Invitation expired")
  let existing ← query fun db => db.workspaceMember? invitation.workspaceId userId
  write (commitAcceptance invitation existing (invitation.member userId memberId now existing) now)

/-- `accept`. -/
def accept (runtime : Runtime) (token : String) (userId memberId : Uuid) (now : Nat) :
    Statements WorkspaceMembership := do
  let invitation ← ask fun db =>
    lookUp
      (db.invitations.find? fun invitation => invitation.tokenHash == runtime.sha256 token)
      (.notFound "Invitation not found")
  let user ← ask fun db =>
    lookUp (db.users.find? fun user => user.id == userId)
      (.error "Could not find any entity of type \"User\"")
  ensure (runtime.toLowerCase user.email == runtime.toLowerCase invitation.email)
    (.conflict "Invitation email does not match current user")
  match invitation.status with
  | .accepted => do
      let existing ← query fun db => db.workspaceMember? invitation.workspaceId userId
      match existing with
      | some member => pure member
      | none => acceptPending invitation userId memberId now
  | _ => acceptPending invitation userId memberId now

end Manbaa.Workspaces
