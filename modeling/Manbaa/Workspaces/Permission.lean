import Manbaa.Core.Http
import Manbaa.Lib.Except

/-!
# Workspace permissions

The membership rows and the editor guard that every canvas mutation of a bound
canvas passes.
-/

namespace Manbaa.Workspaces

open Manbaa.Lib

/-- Roles inside a workspace. -/
inductive WorkspaceRole where
  | owner
  | admin
  | editor
  | commenter
  | viewer
  deriving DecidableEq

/-- Status of a workspace membership. -/
inductive WorkspaceMemberStatus where
  | active
  | suspended
  | removed
  deriving DecidableEq

/-- A row of `workspace_member`, as far as the guards read it. -/
structure WorkspaceMember where
  organizationId : Uuid
  workspaceId : Uuid
  userId : Uuid
  role : WorkspaceRole
  status : WorkspaceMemberStatus
  deriving DecidableEq

/-- A row of `organization_member`, as far as the guards read it. -/
structure OrganizationMember where
  organizationId : Uuid
  userId : Uuid
  active : Bool
  deriving DecidableEq

/-- The membership tables. -/
structure Members where
  organizationMembers : List OrganizationMember
  workspaceMembers : List WorkspaceMember
  deriving DecidableEq

/-- Roles that may edit. -/
def edit : List WorkspaceRole := [.owner, .admin, .editor]

/-- `WorkspacePermissionService.requireEditor`: an active member of the
organization who is an active member of the workspace with an editing role. -/
def requireEditor (members : Members) (userId workspaceId organizationId : Uuid) :
    Except Exception WorkspaceMember := do
  let member ← lookUp
    (members.workspaceMembers.find? fun member =>
      member.userId == userId && member.workspaceId == workspaceId &&
        member.organizationId == organizationId && member.status == .active &&
        edit.contains member.role)
    (.forbidden "Workspace access denied")
  check
    (members.organizationMembers.any fun member =>
      member.userId == userId && member.organizationId == organizationId && member.active)
    (.forbidden "Workspace access denied")
  pure member

/-- `WorkspacePermissionService.requireRole`: an active member of the workspace
with one of the roles. -/
def requireRole (members : Members) (userId workspaceId : Uuid) (roles : List WorkspaceRole) :
    Except Exception WorkspaceMember :=
  lookUp
    (members.workspaceMembers.find? fun member =>
      member.userId == userId && member.workspaceId == workspaceId && member.status == .active &&
        roles.contains member.role)
    (.forbidden "Workspace access denied")

/-- `WorkspacePermissionService.can`. -/
def can (members : Members) (userId workspaceId : Uuid) (roles : List WorkspaceRole) : Bool :=
  members.workspaceMembers.any fun member =>
    member.userId == userId && member.workspaceId == workspaceId && member.status == .active &&
      roles.contains member.role

/-- `WorkspacePermissionService.canEdit`. -/
def canEdit (members : Members) (userId workspaceId : Uuid) : Bool :=
  can members userId workspaceId edit

end Manbaa.Workspaces
