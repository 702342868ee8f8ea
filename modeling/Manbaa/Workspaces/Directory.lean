import Manbaa.Auth.Service
import Manbaa.Lib.Program
import Manbaa.Lib.Table
import Manbaa.Workspaces.Permission

/-!
# The directory of organizations and workspaces

The rows that say who belongs to what: users, organizations, workspaces, the members of
both, and the invitations to workspaces.  The rows of members extend what the guards of a
workspace read.
-/

namespace Manbaa.Workspaces

open Manbaa.Lib
open Manbaa.Auth (OrganizationRole)

/-! ## Rows -/

/-- A row of `user`, as far as the services of organizations and workspaces read and write
it. -/
structure User where
  id : Uuid
  email : String
  passwordHash : String
  role : UserRole
  orgId : Uuid
  isVerified : Bool
  isActive : Bool
  inviteTokenHash : Option String
  inviteExpiresAt : Option Nat
  deriving DecidableEq

/-- A row of `organization`. -/
structure Organization where
  id : Uuid
  name : String
  deriving DecidableEq

/-- A row of `organization_member`. -/
structure OrganizationMembership extends OrganizationMember where
  id : Uuid
  role : OrganizationRole
  deriving DecidableEq

/-- A row of `workspace`, as far as it says what it belongs to. -/
structure Workspace where
  id : Uuid
  organizationId : Uuid
  name : String
  description : Option String
  createdBy : Uuid
  deriving DecidableEq

/-- A row of `workspace_member`. -/
structure WorkspaceMembership extends WorkspaceMember where
  id : Uuid
  invitedBy : Option Uuid
  joinedAt : Option Nat
  deriving DecidableEq

/-- Status of an invitation. -/
inductive InvitationStatus where
  | pending
  | accepted
  | expired
  | revoked
  deriving DecidableEq

/-- A row of `workspace_invitation`. -/
structure WorkspaceInvitation where
  id : Uuid
  organizationId : Uuid
  workspaceId : Uuid
  email : String
  role : WorkspaceRole
  tokenHash : String
  invitedBy : Uuid
  expiresAt : Nat
  acceptedAt : Option Nat
  revokedAt : Option Nat
  status : InvitationStatus
  deriving DecidableEq

/-- A row of the audit log about a user of an organization. -/
structure AuditLog where
  actorId : Uuid
  eventType : String
  before : Option User
  after : User
  deriving DecidableEq

/-- A row of `refresh_token`, as far as a revoked user loses it. -/
structure UserToken where
  userId : Uuid
  revoked : Bool
  deriving DecidableEq

/-- The tables.  Foreign keys are left out: none of the services deletes a row. -/
structure Directory where
  users : List User
  organizations : List Organization
  organizationMembers : List OrganizationMembership
  workspaces : List Workspace
  workspaceMembers : List WorkspaceMembership
  invitations : List WorkspaceInvitation
  refreshTokens : List UserToken
  auditLogs : List AuditLog
  deriving DecidableEq

/-- What the guards of workspaces read. -/
def Directory.members (db : Directory) : Members where
  organizationMembers := db.organizationMembers.map OrganizationMembership.toOrganizationMember
  workspaceMembers := db.workspaceMembers.map WorkspaceMembership.toWorkspaceMember

/-- What the services take from the runtime: the case of a text, its ends without blanks,
and its digest. -/
structure Runtime where
  toLowerCase : String → String
  trim : String → String
  sha256 : String → String

/-- The statements of a request. -/
abbrev Statements := Program Directory Exception

/-! ## Constraints -/

/-- No row has the identifiers of a new member of an organization. -/
def Directory.admitsMember (db : Directory) (row : OrganizationMembership) :
    Except Exception Unit := do
  check (!db.organizationMembers.any fun other => other.id == row.id)
    (.queryFailed (.uniqueViolation "organization_member_pkey"))
  check
    (!db.organizationMembers.any fun other =>
      other.organizationId == row.organizationId && other.userId == row.userId)
    (.queryFailed (.uniqueViolation "uq_organization_member"))

/-- No row has the identifiers of a new member of a workspace. -/
def Directory.admitsWorkspaceMember (db : Directory) (row : WorkspaceMembership) :
    Except Exception Unit := do
  check (!db.workspaceMembers.any fun other => other.id == row.id)
    (.queryFailed (.uniqueViolation "workspace_member_pkey"))
  check
    (!db.workspaceMembers.any fun other =>
      other.workspaceId == row.workspaceId && other.userId == row.userId)
    (.queryFailed (.uniqueViolation "uq_workspace_member"))

/-- No row has the identifier or the email of a new user. -/
def Directory.admitsUser (db : Directory) (row : User) : Except Exception Unit := do
  check (!db.users.any fun other => other.id == row.id)
    (.queryFailed (.uniqueViolation "user_pkey"))
  check (!db.users.any fun other => other.email == row.email)
    (.queryFailed (.uniqueViolation "user_email_key"))

/-- No row has the identifier or the name of a new organization. -/
def Directory.admitsOrganization (db : Directory) (row : Organization) :
    Except Exception Unit := do
  check (!db.organizations.any fun other => other.id == row.id)
    (.queryFailed (.uniqueViolation "organization_pkey"))
  check (!db.organizations.any fun other => other.name == row.name)
    (.queryFailed (.uniqueViolation "organization_name_key"))

/-- No row has the identifier of a new workspace. -/
def Directory.admitsWorkspace (db : Directory) (row : Workspace) : Except Exception Unit :=
  check (!db.workspaces.any fun other => other.id == row.id)
    (.queryFailed (.uniqueViolation "workspace_pkey"))

/-- No row has the identifiers of a new invitation, and no other one is pending for its
email. -/
def Directory.admitsInvitation (db : Directory) (row : WorkspaceInvitation) :
    Except Exception Unit := do
  check (!db.invitations.any fun other => other.id == row.id)
    (.queryFailed (.uniqueViolation "workspace_invitation_pkey"))
  check (!db.invitations.any fun other => other.tokenHash == row.tokenHash)
    (.queryFailed (.uniqueViolation "workspace_invitation_token_hash_key"))
  check
    (!db.invitations.any fun other =>
      other.status == .pending && other.workspaceId == row.workspaceId &&
        other.email == row.email)
    (.queryFailed (.uniqueViolation "uq_workspace_invitation_pending"))

end Manbaa.Workspaces
