import Manbaa.Lib.Holders
import Manbaa.Organizations.Service
import Manbaa.Workspaces.Membership

/-!
# The requests that change the directory

Every request is a program; whatever it is, each of its statements saves one row of a table
at most.
-/

namespace Manbaa.Organizations

open Manbaa.Lib Manbaa.Lib.Program Manbaa.Workspaces
open Manbaa.Auth (OrganizationRole)

/-- A call of a service with its arguments. -/
inductive Request where
  | register (dto : Registration)
  | createOrganization (dto : CreateOrganization) (userId : Uuid)
  | updateMember (id memberId : Uuid) (role : OrganizationRole) (userId : Uuid)
  | removeMember (id memberId userId : Uuid)
  | inviteUser (dto : InviteUser) (caller : RequestUser)
  | updateUserRole (userId : Uuid) (role : UserRole) (caller : RequestUser)
  | revokeUser (userId : Uuid) (caller : RequestUser)
  | createWorkspace (dto : CreateWorkspace) (userId organizationId : Uuid)
  | changeRole (workspaceId memberId : Uuid) (role : WorkspaceRole) (userId : Uuid)
  | suspend (workspaceId memberId userId : Uuid)
  | restore (workspaceId memberId userId : Uuid)
  | remove (workspaceId memberId userId : Uuid)
  | createInvitation (workspaceId : Uuid) (dto : CreateInvitation) (userId : Uuid)
  | revokeInvitation (workspaceId id userId : Uuid) (now : Nat)
  | accept (token : String) (userId memberId : Uuid) (now : Nat)

/-- The program without its result. -/
def finish {α : Type} (body : Statements α) : Statements Unit := do
  let _ ← body
  pure ()

/-- The program that answers a request. -/
def answer (runtime : Runtime) : Request → Statements Unit
  | .register dto => register runtime dto
  | .createOrganization dto userId => finish (createOrganization dto userId)
  | .updateMember id memberId role userId => finish (updateMember id memberId role userId)
  | .removeMember id memberId userId => removeMember id memberId userId
  | .inviteUser dto caller => finish (inviteUser runtime dto caller)
  | .updateUserRole userId role caller => finish (updateUserRole userId role caller)
  | .revokeUser userId caller => revokeUser userId caller
  | .createWorkspace dto userId organizationId => finish (createWorkspace dto userId organizationId)
  | .changeRole workspaceId memberId role userId =>
      finish (changeRole workspaceId memberId role userId)
  | .suspend workspaceId memberId userId => finish (suspend workspaceId memberId userId)
  | .restore workspaceId memberId userId => finish (restore workspaceId memberId userId)
  | .remove workspaceId memberId userId => finish (remove workspaceId memberId userId)
  | .createInvitation workspaceId dto userId =>
      finish (createInvitation runtime workspaceId dto userId)
  | .revokeInvitation workspaceId id userId now => revokeInvitation workspaceId id userId now
  | .accept token userId memberId now => finish (accept runtime token userId memberId now)

/-! ## What one statement does -/

/-- One row of each table of people is saved at most. -/
structure SavesRows (before after : Directory) : Prop where
  users : Table.SavesOne User.id before.users after.users
  organizationMembers : Table.SavesOne OrganizationMembership.id before.organizationMembers
    after.organizationMembers
  workspaceMembers : Table.SavesOne WorkspaceMembership.id before.workspaceMembers
    after.workspaceMembers

variable {runtime : Runtime} {db target : Directory}

theorem savesRows_refl (db : Directory) : SavesRows db db :=
  ⟨Table.savesOne_refl, Table.savesOne_refl, Table.savesOne_refl⟩

/-- No row has a key that a constraint keeps unique. -/
theorem fresh_of_check {ρ : Type} {key : ρ → Uuid} {rows : List ρ} {row : ρ} {error : Exception}
    (admitted : check (!rows.any fun other => key other == key row) error = .ok ()) :
    ∀ other ∈ rows, key other ≠ key row := by
  rw [check_eq_ok_iff, Bool.not_eq_true', List.any_eq_false] at admitted
  intro other otherMem same
  exact admitted other otherMem (beq_iff_eq.mpr same)

theorem each_saveMember {member : OrganizationMembership} :
    (saveMember member).Each SavesRows := by
  apply each_write savesRows_refl
  rintro found value changed ⟨⟩
  exact ⟨Table.savesOne_refl, Table.savesOne_save, Table.savesOne_refl⟩

theorem each_saveWorkspaceMember {member : WorkspaceMembership} :
    (Workspaces.saveMember member).Each SavesRows := by
  apply each_write savesRows_refl
  rintro found value changed ⟨⟩
  exact ⟨Table.savesOne_refl, Table.savesOne_refl, Table.savesOne_save⟩

theorem each_saveUser {user : User} : (saveUser user).Each SavesRows := by
  apply each_write savesRows_refl
  rintro found value changed ⟨⟩
  exact ⟨Table.savesOne_save, Table.savesOne_refl, Table.savesOne_refl⟩

theorem each_saveInvitation {invitation : WorkspaceInvitation} :
    (saveInvitation invitation).Each SavesRows := by
  apply each_write savesRows_refl
  rintro found value changed ⟨⟩
  exact ⟨Table.savesOne_refl, Table.savesOne_refl, Table.savesOne_refl⟩

theorem each_logAudit {entry : AuditLog} : (logAudit entry).Each SavesRows := by
  apply each_write savesRows_refl
  rintro found value changed ⟨⟩
  exact ⟨Table.savesOne_refl, Table.savesOne_refl, Table.savesOne_refl⟩

/-! ## What the constraints of new rows say -/

theorem fresh_of_admitsUser {user : User} (admitted : db.admitsUser user = .ok ()) :
    ∀ other ∈ db.users, other.id ≠ user.id := by
  obtain ⟨_, idEq, _⟩ := except_bind_eq_ok_iff.mp admitted
  exact fresh_of_check idEq

theorem fresh_of_admitsMember {member : OrganizationMembership}
    (admitted : db.admitsMember member = .ok ()) :
    ∀ other ∈ db.organizationMembers, other.id ≠ member.id := by
  obtain ⟨_, idEq, _⟩ := except_bind_eq_ok_iff.mp admitted
  exact fresh_of_check idEq

theorem fresh_of_admitsWorkspaceMember {member : WorkspaceMembership}
    (admitted : db.admitsWorkspaceMember member = .ok ()) :
    ∀ other ∈ db.workspaceMembers, other.id ≠ member.id := by
  obtain ⟨_, idEq, _⟩ := except_bind_eq_ok_iff.mp admitted
  exact fresh_of_check idEq

/-! ## What the statements of every program do -/

theorem each_register {dto : Registration} : (register runtime dto).Each SavesRows := by
  apply (each_query savesRows_refl).bind
  intro taken
  apply each_ensure.bind
  intro _
  apply each_write savesRows_refl
  intro found value changed inserted
  obtain ⟨_, organizationEq, inserted⟩ := except_bind_eq_ok_iff.mp inserted
  obtain ⟨_, userEq, inserted⟩ := except_bind_eq_ok_iff.mp inserted
  obtain ⟨_, memberEq, inserted⟩ := except_bind_eq_ok_iff.mp inserted
  cases inserted
  constructor
  · exact Table.savesOne_append (fresh_of_admitsUser userEq)
  · exact Table.savesOne_append (fresh_of_admitsMember memberEq)
  · exact Table.savesOne_refl

theorem each_createOrganization {dto : CreateOrganization} {userId : Uuid} :
    (createOrganization dto userId).Each SavesRows := by
  apply each_write savesRows_refl
  intro found value changed inserted
  obtain ⟨_, organizationEq, inserted⟩ := except_bind_eq_ok_iff.mp inserted
  obtain ⟨_, memberEq, inserted⟩ := except_bind_eq_ok_iff.mp inserted
  cases inserted
  constructor
  · exact Table.savesOne_refl
  · exact Table.savesOne_append (fresh_of_admitsMember memberEq)
  · exact Table.savesOne_refl

theorem each_updateMember {id memberId userId : Uuid} {role : OrganizationRole} :
    (updateMember id memberId role userId).Each SavesRows := by
  apply (each_ask savesRows_refl).bind
  intro caller
  apply Each.bind (each_ask savesRows_refl)
  intro member
  apply each_ensure.bind
  intro _
  apply Each.bind (Each.onlyIf (each_ask savesRows_refl))
  intro _
  exact each_saveMember

theorem each_removeMember {id memberId userId : Uuid} :
    (removeMember id memberId userId).Each SavesRows := by
  apply (each_ask savesRows_refl).bind
  intro caller
  apply Each.bind (each_ask savesRows_refl)
  intro member
  apply each_ensure.bind
  intro _
  apply Each.bind (Each.onlyIf (each_ask savesRows_refl))
  intro _
  apply each_saveMember.bind
  intro _
  exact each_pure

theorem each_assertAdmin {caller : RequestUser} : (assertAdmin caller).Each SavesRows := by
  apply each_ensure.bind
  intro _
  exact each_ensure

theorem each_assertNotLastActiveAdmin {userId orgId : Uuid} :
    (assertNotLastActiveAdmin userId orgId).Each SavesRows := by
  apply (each_query savesRows_refl).bind
  intro count
  apply Each.onlyIf
  apply (each_query savesRows_refl).bind
  intro user
  exact each_ensure

theorem each_inviteUser {dto : InviteUser} {caller : RequestUser} :
    (inviteUser runtime dto caller).Each SavesRows := by
  apply each_assertAdmin.bind
  intro _
  apply (each_query savesRows_refl).bind
  intro existing
  apply each_ensure.bind
  intro _
  apply Each.bind
  · apply each_write savesRows_refl
    intro found value changed inserted
    obtain ⟨_, userEq, inserted⟩ := except_bind_eq_ok_iff.mp inserted
    cases inserted
    constructor
    · exact Table.savesOne_append (fresh_of_admitsUser userEq)
    · exact Table.savesOne_refl
    · exact Table.savesOne_refl
  · intro _
    apply each_logAudit.bind
    intro _
    exact each_pure

theorem each_updateUserRole {userId : Uuid} {role : UserRole} {caller : RequestUser} :
    (updateUserRole userId role caller).Each SavesRows := by
  apply each_assertAdmin.bind
  intro _
  apply Each.bind (each_ask savesRows_refl)
  intro user
  split
  · exact each_pure
  · apply Each.bind (Each.onlyIf each_assertNotLastActiveAdmin)
    intro _
    apply each_saveUser.bind
    intro saved
    apply each_logAudit.bind
    intro _
    exact each_pure

theorem each_revokeUser {userId : Uuid} {caller : RequestUser} :
    (revokeUser userId caller).Each SavesRows := by
  apply each_assertAdmin.bind
  intro _
  apply Each.bind (each_ask savesRows_refl)
  intro user
  apply Each.bind (Each.onlyIf each_assertNotLastActiveAdmin)
  intro _
  apply each_saveUser.bind
  intro saved
  apply Each.bind
  · apply each_write savesRows_refl
    rintro found value changed ⟨⟩
    exact ⟨Table.savesOne_refl, Table.savesOne_refl, Table.savesOne_refl⟩
  · intro _
    exact each_logAudit

theorem each_createWorkspace {dto : CreateWorkspace} {userId organizationId : Uuid} :
    (createWorkspace dto userId organizationId).Each SavesRows := by
  apply (each_query savesRows_refl).bind
  intro orgMember
  apply each_ensure.bind
  intro _
  apply each_write savesRows_refl
  intro found value changed inserted
  obtain ⟨_, workspaceEq, inserted⟩ := except_bind_eq_ok_iff.mp inserted
  obtain ⟨_, memberEq, inserted⟩ := except_bind_eq_ok_iff.mp inserted
  cases inserted
  constructor
  · exact Table.savesOne_refl
  · exact Table.savesOne_refl
  · exact Table.savesOne_append (fresh_of_admitsWorkspaceMember memberEq)

theorem each_changeRole {workspaceId memberId userId : Uuid} {role : WorkspaceRole} :
    (changeRole workspaceId memberId role userId).Each SavesRows := by
  apply Each.bind (each_ask savesRows_refl)
  intro caller
  apply Each.bind (each_ask savesRows_refl)
  intro target
  apply each_ensure.bind
  intro _
  apply Each.bind (Each.onlyIf (each_ask savesRows_refl))
  intro _
  apply each_ensure.bind
  intro _
  exact each_saveWorkspaceMember

theorem each_setStatus {workspaceId memberId userId : Uuid} {status : WorkspaceMemberStatus} :
    (setStatus workspaceId memberId userId status).Each SavesRows := by
  apply Each.bind (each_ask savesRows_refl)
  intro caller
  apply Each.bind (each_ask savesRows_refl)
  intro target
  apply each_ensure.bind
  intro _
  apply Each.bind (Each.onlyIf (each_ask savesRows_refl))
  intro _
  exact each_saveWorkspaceMember

theorem each_createInvitation {workspaceId userId : Uuid} {dto : CreateInvitation} :
    (createInvitation runtime workspaceId dto userId).Each SavesRows := by
  apply Each.bind (each_ask savesRows_refl)
  intro caller
  apply each_ensure.bind
  intro _
  apply (each_query savesRows_refl).bind
  intro pending
  apply each_ensure.bind
  intro _
  apply each_write savesRows_refl
  intro found value changed inserted
  obtain ⟨_, _, inserted⟩ := except_bind_eq_ok_iff.mp inserted
  cases inserted
  exact ⟨Table.savesOne_refl, Table.savesOne_refl, Table.savesOne_refl⟩

theorem each_revokeInvitation {workspaceId id userId : Uuid} {now : Nat} :
    (revokeInvitation workspaceId id userId now).Each SavesRows := by
  apply Each.bind (each_ask savesRows_refl)
  intro caller
  apply (each_ask savesRows_refl).bind
  intro invitation
  apply each_saveInvitation.bind
  intro _
  exact each_pure

theorem each_acceptPending {invitation : WorkspaceInvitation} {userId memberId : Uuid}
    {now : Nat} : (acceptPending invitation userId memberId now).Each SavesRows := by
  apply each_ensure.bind
  intro _
  apply each_ensure.bind
  intro _
  apply (each_query savesRows_refl).bind
  intro existing
  apply each_write savesRows_refl
  intro found value changed committed
  obtain ⟨_, _, committed⟩ := except_bind_eq_ok_iff.mp committed
  cases committed
  exact ⟨Table.savesOne_refl, Table.savesOne_refl, Table.savesOne_save⟩

theorem each_accept {token : String} {userId memberId : Uuid} {now : Nat} :
    (accept runtime token userId memberId now).Each SavesRows := by
  apply (each_ask savesRows_refl).bind
  intro invitation
  apply (each_ask savesRows_refl).bind
  intro user
  apply each_ensure.bind
  intro _
  cases invitation.status with
  | accepted =>
      apply (each_query savesRows_refl).bind
      intro existing
      cases existing with
      | some member => exact each_pure
      | none => exact each_acceptPending
  | pending | expired | revoked => exact each_acceptPending

/-- Whatever the request, each of its statements saves one row of a table at most. -/
theorem each_answer (request : Request) : (answer runtime request).Each SavesRows := by
  cases request with
  | register => exact each_register
  | createOrganization => exact each_createOrganization.bind fun _ => each_pure
  | updateMember => exact each_updateMember.bind fun _ => each_pure
  | removeMember => exact each_removeMember
  | inviteUser => exact each_inviteUser.bind fun _ => each_pure
  | updateUserRole => exact each_updateUserRole.bind fun _ => each_pure
  | revokeUser => exact each_revokeUser
  | createWorkspace => exact each_createWorkspace.bind fun _ => each_pure
  | changeRole => exact each_changeRole.bind fun _ => each_pure
  | suspend => exact each_setStatus.bind fun _ => each_pure
  | restore => exact each_setStatus.bind fun _ => each_pure
  | remove => exact each_setStatus.bind fun _ => each_pure
  | createInvitation => exact each_createInvitation.bind fun _ => each_pure
  | revokeInvitation => exact each_revokeInvitation
  | accept => exact each_accept.bind fun _ => each_pure

end Manbaa.Organizations
