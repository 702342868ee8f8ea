import Manbaa.Organizations.Requests

/-!
# What a request does when it runs alone

For every request, what it may have found and what it leaves: the members, the workspaces and
the invitations after it, with the facts that its checks have established.
-/

namespace Manbaa.Organizations

open Manbaa.Lib Manbaa.Lib.Program Manbaa.Workspaces
open Manbaa.Auth (OrganizationRole)

/-! ## What the checks establish -/

/-- The member whom the guard of a workspace has let manage it. -/
structure ManagesWorkspace (db : Directory) (workspaceId userId : Uuid)
    (caller : WorkspaceMember) : Prop where
  row : ∃ row ∈ db.workspaceMembers, row.toWorkspaceMember = caller
  user : caller.userId = userId
  workspace : caller.workspaceId = workspaceId
  active : caller.status = .active
  role : caller.role = .owner ∨ caller.role = .admin

/-- The member whom the guard of an organization has let manage it. -/
structure ManagesOrganization (db : Directory) (organizationId userId : Uuid)
    (caller : OrganizationMembership) : Prop where
  row : caller ∈ db.organizationMembers
  user : caller.userId = userId
  organization : caller.organizationId = organizationId
  active : caller.active = true
  role : caller.role = .owner ∨ caller.role = .admin

/-- The member of a workspace that a request is about. -/
structure IsMember (db : Directory) (workspaceId memberId : Uuid)
    (target : WorkspaceMembership) : Prop where
  row : target ∈ db.workspaceMembers
  id : target.id = memberId
  workspace : target.workspaceId = workspaceId

/-- The active member of an organization that a request is about. -/
structure IsOrganizationMember (db : Directory) (organizationId memberId : Uuid)
    (target : OrganizationMembership) : Prop where
  row : target ∈ db.organizationMembers
  id : target.id = memberId
  organization : target.organizationId = organizationId
  active : target.active = true

/-- What a request leaves as it was when it is not about members. -/
structure SameMembers (before after : Directory) : Prop where
  organizationMembers : after.organizationMembers = before.organizationMembers
  workspaces : after.workspaces = before.workspaces
  workspaceMembers : after.workspaceMembers = before.workspaceMembers
  invitations : after.invitations = before.invitations

/-- The requests to the service of the legacy roles. -/
def Request.OnUsers : Request → Prop
  | .inviteUser _ _ | .updateUserRole _ _ _ | .revokeUser _ _ => True
  | _ => False

/-- The request gives a member of a workspace a status. -/
def Request.SetsStatus (request : Request) (workspaceId memberId userId : Uuid)
    (status : WorkspaceMemberStatus) : Prop :=
  (request = .suspend workspaceId memberId userId ∧ status = .suspended) ∨
    (request = .restore workspaceId memberId userId ∧ status = .active) ∨
    request = .remove workspaceId memberId userId ∧ status = .removed

/-! ## Outcomes -/

/-- What a request returns and leaves.  The facts are those that its checks establish. -/
inductive Outcome (runtime : Runtime) (db : Directory) :
    Request → Except Exception Unit → Directory → Prop
  | refused {request error after} (same : SameMembers db after) :
      Outcome runtime db request (.error error) after
  | onUsers {request after} (about : request.OnUsers) (same : SameMembers db after) :
      Outcome runtime db request (.ok ()) after
  | registered {dto after} (admitted : db.admitsMember dto.member = .ok ())
      (members : after.organizationMembers = db.organizationMembers ++ [dto.member])
      (workspaces : after.workspaces = db.workspaces)
      (workspaceMembers : after.workspaceMembers = db.workspaceMembers)
      (invitations : after.invitations = db.invitations) :
      Outcome runtime db (.register dto) (.ok ()) after
  | organizationCreated {dto userId after}
      (admitted : db.admitsMember (dto.member userId) = .ok ())
      (members : after.organizationMembers = db.organizationMembers ++ [dto.member userId])
      (workspaces : after.workspaces = db.workspaces)
      (workspaceMembers : after.workspaceMembers = db.workspaceMembers)
      (invitations : after.invitations = db.invitations) :
      Outcome runtime db (.createOrganization dto userId) (.ok ()) after
  | memberUpdated {id memberId role userId caller member}
      (manages : ManagesOrganization db id userId caller)
      (target : IsOrganizationMember db id memberId member)
      (allowed : caller.role = .admin → member.role ≠ .owner) :
      Outcome runtime db (.updateMember id memberId role userId) (.ok ())
        { db with
          organizationMembers := Table.save OrganizationMembership.id db.organizationMembers
            { member with role := role } }
  | memberRemoved {id memberId userId caller member}
      (manages : ManagesOrganization db id userId caller)
      (target : IsOrganizationMember db id memberId member)
      (allowed : caller.role = .admin → member.role ≠ .owner) :
      Outcome runtime db (.removeMember id memberId userId) (.ok ())
        { db with
          organizationMembers := Table.save OrganizationMembership.id db.organizationMembers
            { member with active := false } }
  | workspaceCreated {dto userId organizationId after}
      (member : ∃ row ∈ db.organizationMembers, row.organizationId = organizationId ∧
        row.userId = userId ∧ row.active = true)
      (fresh : ∀ workspace ∈ db.workspaces, workspace.id ≠ dto.workspaceId)
      (admitted : db.admitsWorkspaceMember (dto.member userId organizationId) = .ok ())
      (members : after.organizationMembers = db.organizationMembers)
      (workspaces : after.workspaces = db.workspaces ++
        [⟨dto.workspaceId, organizationId, dto.name, dto.description, userId⟩])
      (workspaceMembers : after.workspaceMembers = db.workspaceMembers ++
        [dto.member userId organizationId])
      (invitations : after.invitations = db.invitations) :
      Outcome runtime db (.createWorkspace dto userId organizationId) (.ok ()) after
  | roleChanged {workspaceId memberId role userId caller target}
      (manages : ManagesWorkspace db workspaceId userId caller)
      (isMember : IsMember db workspaceId memberId target)
      (allowed : caller.role = .admin → target.role ≠ .owner)
      (another : target.role = .owner → role ≠ .owner → db.otherOwners workspaceId target.id ≠ 0)
      (conferred : role = .owner → caller.role = .owner) :
      Outcome runtime db (.changeRole workspaceId memberId role userId) (.ok ())
        { db with
          workspaceMembers := Table.save WorkspaceMembership.id db.workspaceMembers
            { target with role := role } }
  | statusSet {request workspaceId memberId userId status caller target}
      (sets : request.SetsStatus workspaceId memberId userId status)
      (manages : ManagesWorkspace db workspaceId userId caller)
      (isMember : IsMember db workspaceId memberId target)
      (allowed : caller.role = .admin → target.role ≠ .owner)
      (another : target.role = .owner → status ≠ .active →
        db.otherOwners workspaceId target.id ≠ 0) :
      Outcome runtime db request (.ok ())
        { db with
          workspaceMembers := Table.save WorkspaceMembership.id db.workspaceMembers
            { target with status := status } }
  | invited {workspaceId dto userId caller invitation}
      (manages : ManagesWorkspace db workspaceId userId caller)
      (conferred : dto.role = .owner → caller.role = .owner)
      (organization : invitation.organizationId = caller.organizationId)
      (workspace : invitation.workspaceId = workspaceId)
      (id : invitation.id = dto.invitationId)
      (role : invitation.role = dto.role)
      (issuer : invitation.invitedBy = userId) :
      Outcome runtime db (.createInvitation workspaceId dto userId) (.ok ())
        { db with invitations := db.invitations ++ [invitation] }
  | invitationRevoked {workspaceId id userId now invitation}
      (found : invitation ∈ db.invitations) :
      Outcome runtime db (.revokeInvitation workspaceId id userId now) (.ok ())
        { db with
          invitations := Table.save WorkspaceInvitation.id db.invitations
            { invitation with status := .revoked, revokedAt := some now } }
  | repeated {token userId memberId now invitation}
      (found : db.invitations.find? (fun invitation =>
        invitation.tokenHash == runtime.sha256 token) = some invitation)
      (before : invitation.status = .accepted) :
      Outcome runtime db (.accept token userId memberId now) (.ok ()) db
  | accepted {token userId memberId now invitation existing}
      (found : db.invitations.find? (fun invitation =>
        invitation.tokenHash == runtime.sha256 token) = some invitation)
      (pending : invitation.status = .pending)
      (existingEq : db.workspaceMember? invitation.workspaceId userId = existing)
      (admitted : db.admitsAcceptance existing
        (invitation.member userId memberId now existing) = .ok ()) :
      Outcome runtime db (.accept token userId memberId now) (.ok ())
        { db with
          workspaceMembers := Table.save WorkspaceMembership.id db.workspaceMembers
            (invitation.member userId memberId now existing)
          invitations := Table.save WorkspaceInvitation.id db.invitations
            { invitation with status := .accepted, acceptedAt := some now } }

variable {runtime : Runtime} {db after : Directory} {result : Except Exception Unit}

theorem sameMembers_refl (db : Directory) : SameMembers db db :=
  ⟨rfl, rfl, rfl, rfl⟩

theorem SameMembers.trans {first second third : Directory} (former : SameMembers first second)
    (latter : SameMembers second third) : SameMembers first third where
  organizationMembers := latter.organizationMembers.trans former.organizationMembers
  workspaces := latter.workspaces.trans former.workspaces
  workspaceMembers := latter.workspaceMembers.trans former.workspaceMembers
  invitations := latter.invitations.trans former.invitations

theorem finish_cases {α : Type} {body : Statements α}
    (runEq : (finish body).alone db = (result, after)) :
    ∃ ended, body.alone db = (ended, after) ∧ result = ended.map fun _ => () := by
  rcases bodyEq : body.alone db with ⟨error | value, reached⟩
  · have : (finish body).alone db = (.error error, reached) := by
      rw [finish, alone_bind]
      exact Effect.bind_eq_error_iff.mpr (Or.inl bodyEq)
    cases this.symm.trans runEq
    exact ⟨.error error, rfl, rfl⟩
  · have : (finish body).alone db = (.ok (), reached) := by
      rw [finish, alone_bind]
      exact Effect.bind_of_ok bodyEq
    cases this.symm.trans runEq
    exact ⟨.ok value, rfl, rfl⟩

theorem managesWorkspace_of_requireRole {workspaceId userId : Uuid} {caller : WorkspaceMember}
    (required : Workspaces.requireRole db.members userId workspaceId Workspaces.managers =
      .ok caller) : ManagesWorkspace db workspaceId userId caller := by
  have found := lookUp_eq_ok_iff.mp required
  have facts := List.find?_some found
  obtain ⟨row, rowMem, rowEq⟩ := List.mem_map.mp (List.mem_of_find?_eq_some found)
  simp only [Bool.and_eq_true, beq_iff_eq] at facts
  obtain ⟨⟨⟨user, workspace⟩, active⟩, role⟩ := facts
  refine ⟨⟨row, rowMem, rowEq⟩, user, workspace, active, ?_⟩
  simpa [Workspaces.managers] using role

theorem managesOrganization_of_requireRole {organizationId userId : Uuid}
    {caller : OrganizationMembership}
    (required : requireRole db userId organizationId managers = .ok caller) :
    ManagesOrganization db organizationId userId caller := by
  have found := lookUp_eq_ok_iff.mp required
  have facts := List.find?_some found
  simp only [Bool.and_eq_true, beq_iff_eq] at facts
  obtain ⟨⟨⟨user, organization⟩, active⟩, role⟩ := facts
  refine ⟨List.mem_of_find?_eq_some found, user, organization, active, ?_⟩
  simpa [managers] using role

theorem isMember_of_findMember {workspaceId memberId : Uuid} {target : WorkspaceMembership}
    {error : Exception}
    (foundEq : lookUp (db.workspaceMembers.find? fun member =>
      member.id == memberId && member.workspaceId == workspaceId) error = .ok target) :
    IsMember db workspaceId memberId target := by
  have found := lookUp_eq_ok_iff.mp foundEq
  have facts := List.find?_some found
  simp only [Bool.and_eq_true, beq_iff_eq] at facts
  exact ⟨List.mem_of_find?_eq_some found, facts.1, facts.2⟩

theorem isOrganizationMember_of_findMember {organizationId memberId : Uuid}
    {target : OrganizationMembership} {error : Exception}
    (foundEq : lookUp (db.organizationMembers.find? fun member =>
      member.id == memberId && member.organizationId == organizationId && member.active) error =
        .ok target) : IsOrganizationMember db organizationId memberId target := by
  have found := lookUp_eq_ok_iff.mp foundEq
  have facts := List.find?_some found
  simp only [Bool.and_eq_true, beq_iff_eq] at facts
  exact ⟨List.mem_of_find?_eq_some found, facts.1.1, facts.1.2, facts.2⟩

/-- Admins do not manage owners. -/
theorem allowed_of_check {ρ : Type} [DecidableEq ρ] {caller target admin owner : ρ}
    (allowed : (!(caller == admin && target == owner)) = true) :
    caller = admin → target ≠ owner := by
  intro callerEq targetEq
  simp [callerEq, targetEq] at allowed

/-- Only owners confer ownership. -/
theorem conferred_of_check {ρ : Type} [DecidableEq ρ] {caller role owner : ρ}
    (allowed : (!(role == owner && caller != owner)) = true) : role = owner → caller = owner := by
  intro roleEq
  simpa [roleEq] using allowed

/-- The last owner stays. -/
theorem another_of_check {ρ τ : Type} [DecidableEq ρ] [DecidableEq τ] {target owner : ρ}
    {next kept : τ} {others : Nat} {error : Exception}
    (checked : (target == owner && next != kept) = true → check (others != 0) error = .ok ()) :
    target = owner → next ≠ kept → others ≠ 0 := by
  intro targetEq nextNe
  have passed := check_eq_ok_iff.mp (checked (by simp [targetEq, nextNe]))
  simpa using passed

/-! ## The requests -/

theorem changeRole_outcome {workspaceId memberId userId : Uuid} {role : WorkspaceRole}
    {ended : Except Exception WorkspaceMembership}
    (runEq : (changeRole workspaceId memberId role userId).alone db = (ended, after)) :
    Outcome runtime db (.changeRole workspaceId memberId role userId) (ended.map fun _ => ())
      after := by
  rcases alone_ask_cases runEq with ⟨error, rfl, rfl⟩ | ⟨caller, callerEq, runEq⟩
  · exact .refused (sameMembers_refl _)
  rcases alone_ask_cases runEq with ⟨error, rfl, rfl⟩ | ⟨target, targetEq, runEq⟩
  · exact .refused (sameMembers_refl _)
  rcases alone_ensure_cases runEq with ⟨error, rfl, rfl⟩ | ⟨allowed, runEq⟩
  · exact .refused (sameMembers_refl _)
  rcases alone_onlyIf_cases runEq with ⟨error, rfl, rfl⟩ | ⟨another, runEq⟩
  · exact .refused (sameMembers_refl _)
  rcases alone_ensure_cases runEq with ⟨error, rfl, rfl⟩ | ⟨conferred, runEq⟩
  · exact .refused (sameMembers_refl _)
  cases runEq
  exact .roleChanged (managesWorkspace_of_requireRole callerEq) (isMember_of_findMember targetEq)
    (allowed_of_check allowed) (another_of_check another) (conferred_of_check conferred)

theorem setStatus_outcome {request : Request} {workspaceId memberId userId : Uuid}
    {status : WorkspaceMemberStatus} {ended : Except Exception WorkspaceMembership}
    (sets : request.SetsStatus workspaceId memberId userId status)
    (runEq : (setStatus workspaceId memberId userId status).alone db = (ended, after)) :
    Outcome runtime db request (ended.map fun _ => ()) after := by
  rcases alone_ask_cases runEq with ⟨error, rfl, rfl⟩ | ⟨caller, callerEq, runEq⟩
  · exact .refused (sameMembers_refl _)
  rcases alone_ask_cases runEq with ⟨error, rfl, rfl⟩ | ⟨target, targetEq, runEq⟩
  · exact .refused (sameMembers_refl _)
  rcases alone_ensure_cases runEq with ⟨error, rfl, rfl⟩ | ⟨allowed, runEq⟩
  · exact .refused (sameMembers_refl _)
  rcases alone_onlyIf_cases runEq with ⟨error, rfl, rfl⟩ | ⟨another, runEq⟩
  · exact .refused (sameMembers_refl _)
  cases runEq
  exact .statusSet sets (managesWorkspace_of_requireRole callerEq)
    (isMember_of_findMember targetEq) (allowed_of_check allowed) (another_of_check another)

theorem updateMember_outcome {id memberId userId : Uuid} {role : OrganizationRole}
    {ended : Except Exception OrganizationMembership}
    (runEq : (updateMember id memberId role userId).alone db = (ended, after)) :
    Outcome runtime db (.updateMember id memberId role userId) (ended.map fun _ => ())
      after := by
  rcases alone_ask_cases runEq with ⟨error, rfl, rfl⟩ | ⟨caller, callerEq, runEq⟩
  · exact .refused (sameMembers_refl _)
  rcases alone_ask_cases runEq with ⟨error, rfl, rfl⟩ | ⟨member, memberEq, runEq⟩
  · exact .refused (sameMembers_refl _)
  rcases alone_ensure_cases runEq with ⟨error, rfl, rfl⟩ | ⟨allowed, runEq⟩
  · exact .refused (sameMembers_refl _)
  rcases alone_onlyIf_cases runEq with ⟨error, rfl, rfl⟩ | ⟨_, runEq⟩
  · exact .refused (sameMembers_refl _)
  cases runEq
  exact .memberUpdated (managesOrganization_of_requireRole callerEq)
    (isOrganizationMember_of_findMember memberEq) (allowed_of_check allowed)

theorem removeMember_outcome {id memberId userId : Uuid} {ended : Except Exception Unit}
    (runEq : (removeMember id memberId userId).alone db = (ended, after)) :
    Outcome runtime db (.removeMember id memberId userId) ended after := by
  rcases alone_ask_cases runEq with ⟨error, rfl, rfl⟩ | ⟨caller, callerEq, runEq⟩
  · exact .refused (sameMembers_refl _)
  rcases alone_ask_cases runEq with ⟨error, rfl, rfl⟩ | ⟨member, memberEq, runEq⟩
  · exact .refused (sameMembers_refl _)
  rcases alone_ensure_cases runEq with ⟨error, rfl, rfl⟩ | ⟨allowed, runEq⟩
  · exact .refused (sameMembers_refl _)
  rcases alone_onlyIf_cases runEq with ⟨error, rfl, rfl⟩ | ⟨_, runEq⟩
  · exact .refused (sameMembers_refl _)
  cases runEq
  exact .memberRemoved (managesOrganization_of_requireRole callerEq)
    (isOrganizationMember_of_findMember memberEq) (allowed_of_check allowed)

theorem register_outcome {dto : Registration} {ended : Except Exception Unit}
    (runEq : (register runtime dto).alone db = (ended, after)) :
    Outcome runtime db (.register dto) ended after := by
  rw [register, alone_query_bind] at runEq
  rcases alone_ensure_cases runEq with ⟨error, rfl, rfl⟩ | ⟨_, runEq⟩
  · exact .refused (sameMembers_refl _)
  rcases alone_write_cases runEq with ⟨error, rfl, rfl⟩ | ⟨_, rfl, inserted⟩
  · exact .refused (sameMembers_refl _)
  obtain ⟨_, _, inserted⟩ := except_bind_eq_ok_iff.mp inserted
  obtain ⟨_, _, inserted⟩ := except_bind_eq_ok_iff.mp inserted
  obtain ⟨_, admitted, inserted⟩ := except_bind_eq_ok_iff.mp inserted
  cases inserted
  exact .registered admitted rfl rfl rfl rfl

theorem createOrganization_outcome {dto : CreateOrganization} {userId : Uuid}
    {ended : Except Exception Organization}
    (runEq : (createOrganization dto userId).alone db = (ended, after)) :
    Outcome runtime db (.createOrganization dto userId) (ended.map fun _ => ()) after := by
  rcases alone_write_cases runEq with ⟨error, rfl, rfl⟩ | ⟨_, rfl, inserted⟩
  · exact .refused (sameMembers_refl _)
  obtain ⟨_, _, inserted⟩ := except_bind_eq_ok_iff.mp inserted
  obtain ⟨_, admitted, inserted⟩ := except_bind_eq_ok_iff.mp inserted
  cases inserted
  exact .organizationCreated admitted rfl rfl rfl rfl

theorem createWorkspace_outcome {dto : CreateWorkspace} {userId organizationId : Uuid}
    {ended : Except Exception Workspace}
    (runEq : (createWorkspace dto userId organizationId).alone db = (ended, after)) :
    Outcome runtime db (.createWorkspace dto userId organizationId) (ended.map fun _ => ())
      after := by
  rw [createWorkspace, alone_query_bind] at runEq
  rcases alone_ensure_cases runEq with ⟨error, rfl, rfl⟩ | ⟨member, runEq⟩
  · exact .refused (sameMembers_refl _)
  rcases alone_write_cases runEq with ⟨error, rfl, rfl⟩ | ⟨_, rfl, inserted⟩
  · exact .refused (sameMembers_refl _)
  obtain ⟨_, fresh, inserted⟩ := except_bind_eq_ok_iff.mp inserted
  obtain ⟨_, admitted, inserted⟩ := except_bind_eq_ok_iff.mp inserted
  cases inserted
  have present : ∃ row ∈ db.organizationMembers, row.organizationId = organizationId ∧
      row.userId = userId ∧ row.active = true := by
    simpa [and_assoc] using member
  exact .workspaceCreated present (fresh_of_check fresh) admitted rfl rfl rfl rfl

theorem createInvitation_outcome {workspaceId userId : Uuid} {dto : CreateInvitation}
    {ended : Except Exception WorkspaceInvitation}
    (runEq : (createInvitation runtime workspaceId dto userId).alone db = (ended, after)) :
    Outcome runtime db (.createInvitation workspaceId dto userId) (ended.map fun _ => ())
      after := by
  rcases alone_ask_cases runEq with ⟨error, rfl, rfl⟩ | ⟨caller, callerEq, runEq⟩
  · exact .refused (sameMembers_refl _)
  rcases alone_ensure_cases runEq with ⟨error, rfl, rfl⟩ | ⟨conferred, runEq⟩
  · exact .refused (sameMembers_refl _)
  rw [alone_query_bind] at runEq
  rcases alone_ensure_cases runEq with ⟨error, rfl, rfl⟩ | ⟨_, runEq⟩
  · exact .refused (sameMembers_refl _)
  rcases alone_write_cases runEq with ⟨error, rfl, rfl⟩ | ⟨_, rfl, inserted⟩
  · exact .refused (sameMembers_refl _)
  obtain ⟨_, _, inserted⟩ := except_bind_eq_ok_iff.mp inserted
  cases inserted
  exact .invited (managesWorkspace_of_requireRole callerEq) (conferred_of_check conferred) rfl rfl
    rfl rfl rfl

theorem revokeInvitation_outcome {workspaceId id userId : Uuid} {now : Nat}
    {ended : Except Exception Unit}
    (runEq : (revokeInvitation workspaceId id userId now).alone db = (ended, after)) :
    Outcome runtime db (.revokeInvitation workspaceId id userId now) ended after := by
  rcases alone_ask_cases runEq with ⟨error, rfl, rfl⟩ | ⟨caller, callerEq, runEq⟩
  · exact .refused (sameMembers_refl _)
  rcases alone_ask_cases runEq with ⟨error, rfl, rfl⟩ | ⟨invitation, found, runEq⟩
  · exact .refused (sameMembers_refl _)
  cases runEq
  exact .invitationRevoked (List.mem_of_find?_eq_some (lookUp_eq_ok_iff.mp found))

theorem acceptPending_outcome {invitation : WorkspaceInvitation} {token : String}
    {userId memberId : Uuid} {now : Nat} {ended : Except Exception WorkspaceMembership}
    (found : db.invitations.find? (fun invitation =>
      invitation.tokenHash == runtime.sha256 token) = some invitation)
    (runEq : (acceptPending invitation userId memberId now).alone db = (ended, after)) :
    Outcome runtime db (.accept token userId memberId now) (ended.map fun _ => ()) after := by
  rcases alone_ensure_cases runEq with ⟨error, rfl, rfl⟩ | ⟨pending, runEq⟩
  · exact .refused (sameMembers_refl _)
  rcases alone_ensure_cases runEq with ⟨error, rfl, rfl⟩ | ⟨_, runEq⟩
  · exact .refused (sameMembers_refl _)
  rw [alone_query_bind] at runEq
  rcases alone_write_cases runEq with ⟨error, rfl, rfl⟩ | ⟨_, rfl, committed⟩
  · exact .refused (sameMembers_refl _)
  obtain ⟨_, admitted, committed⟩ := except_bind_eq_ok_iff.mp committed
  cases committed
  exact .accepted found (beq_iff_eq.mp pending) rfl admitted

theorem accept_outcome {token : String} {userId memberId : Uuid} {now : Nat}
    {ended : Except Exception WorkspaceMembership}
    (runEq : (accept runtime token userId memberId now).alone db = (ended, after)) :
    Outcome runtime db (.accept token userId memberId now) (ended.map fun _ => ()) after := by
  rcases alone_ask_cases runEq with ⟨error, rfl, rfl⟩ | ⟨invitation, invitationEq, runEq⟩
  · exact .refused (sameMembers_refl _)
  rcases alone_ask_cases runEq with ⟨error, rfl, rfl⟩ | ⟨user, userEq, runEq⟩
  · exact .refused (sameMembers_refl _)
  rcases alone_ensure_cases runEq with ⟨error, rfl, rfl⟩ | ⟨_, runEq⟩
  · exact .refused (sameMembers_refl _)
  have found := lookUp_eq_ok_iff.mp invitationEq
  cases statusEq : invitation.status with
  | accepted =>
      rw [statusEq] at runEq
      dsimp only at runEq
      rw [alone_query_bind] at runEq
      cases existingEq : db.workspaceMember? invitation.workspaceId userId with
      | some member =>
          rw [existingEq] at runEq
          cases runEq
          exact .repeated found statusEq
      | none =>
          rw [existingEq] at runEq
          exact acceptPending_outcome found runEq
  | pending | expired | revoked =>
      rw [statusEq] at runEq
      exact acceptPending_outcome found runEq

/-! ## The requests about users -/

theorem each_sameMembers_onUsers {request : Request} (about : request.OnUsers) :
    (answer runtime request).Each SameMembers := by
  have written : ∀ {α : Type} {change : Directory → Except Exception (α × Directory)},
      (∀ found value changed, change found = .ok (value, changed) → SameMembers found changed) →
      (write change).Each SameMembers := each_write sameMembers_refl
  have admin : ∀ caller, (assertAdmin caller).Each SameMembers :=
    fun caller => each_ensure.bind fun _ => each_ensure
  have notLast : ∀ userId orgId, (assertNotLastActiveAdmin userId orgId).Each SameMembers :=
    fun userId orgId => (each_query sameMembers_refl).bind fun _ =>
      Each.onlyIf ((each_query sameMembers_refl).bind fun _ => each_ensure)
  have logged : ∀ entry, (logAudit entry).Each SameMembers := by
    intro entry
    apply written
    rintro found value changed ⟨⟩
    exact ⟨rfl, rfl, rfl, rfl⟩
  have saved : ∀ user, (saveUser user).Each SameMembers := by
    intro user
    apply written
    rintro found value changed ⟨⟩
    exact ⟨rfl, rfl, rfl, rfl⟩
  cases request with
  | inviteUser dto caller =>
      apply Each.bind _ fun _ => each_pure
      apply (admin caller).bind
      intro _
      apply (each_query sameMembers_refl).bind
      intro existing
      apply each_ensure.bind
      intro _
      apply Each.bind
      · apply written
        intro found value changed inserted
        obtain ⟨_, _, inserted⟩ := except_bind_eq_ok_iff.mp inserted
        cases inserted
        exact ⟨rfl, rfl, rfl, rfl⟩
      · intro _
        exact (logged _).bind fun _ => each_pure
  | updateUserRole userId role caller =>
      apply Each.bind _ fun _ => each_pure
      apply (admin caller).bind
      intro _
      apply Each.bind (each_ask sameMembers_refl)
      intro user
      split
      · exact each_pure
      · apply Each.bind (Each.onlyIf (notLast _ _))
        intro _
        apply (saved _).bind
        intro _
        exact (logged _).bind fun _ => each_pure
  | revokeUser userId caller =>
      apply (admin caller).bind
      intro _
      apply Each.bind (each_ask sameMembers_refl)
      intro user
      apply Each.bind (Each.onlyIf (notLast _ _))
      intro _
      apply (saved _).bind
      intro _
      apply Each.bind
      · apply written
        rintro found value changed ⟨⟩
        exact ⟨rfl, rfl, rfl, rfl⟩
      · intro _
        exact logged _
  | _ => exact about.elim

theorem onUsers_outcome {request : Request} (about : request.OnUsers)
    (runEq : (answer runtime request).alone db = (result, after)) :
    Outcome runtime db request result after := by
  have same : SameMembers db after := by
    have kept : SameMembers db ((answer runtime request).alone db).2 :=
      (each_sameMembers_onUsers about).alone sameMembers_refl fun _ _ _ => SameMembers.trans
    rw [runEq] at kept
    exact kept
  cases result with
  | error error => exact .refused same
  | ok value => exact .onUsers about same

/-- What a request does when it runs alone. -/
theorem answer_outcome {request : Request}
    (runEq : (answer runtime request).alone db = (result, after)) :
    Outcome runtime db request result after := by
  cases request with
  | register => exact register_outcome runEq
  | createOrganization =>
      obtain ⟨ended, bodyEq, rfl⟩ := finish_cases runEq
      exact createOrganization_outcome bodyEq
  | updateMember =>
      obtain ⟨ended, bodyEq, rfl⟩ := finish_cases runEq
      exact updateMember_outcome bodyEq
  | removeMember => exact removeMember_outcome runEq
  | inviteUser | updateUserRole | revokeUser => exact onUsers_outcome trivial runEq
  | createWorkspace =>
      obtain ⟨ended, bodyEq, rfl⟩ := finish_cases runEq
      exact createWorkspace_outcome bodyEq
  | changeRole =>
      obtain ⟨ended, bodyEq, rfl⟩ := finish_cases runEq
      exact changeRole_outcome bodyEq
  | suspend =>
      obtain ⟨ended, bodyEq, rfl⟩ := finish_cases runEq
      exact setStatus_outcome (Or.inl ⟨rfl, rfl⟩) bodyEq
  | restore =>
      obtain ⟨ended, bodyEq, rfl⟩ := finish_cases runEq
      exact setStatus_outcome (Or.inr (Or.inl ⟨rfl, rfl⟩)) bodyEq
  | remove =>
      obtain ⟨ended, bodyEq, rfl⟩ := finish_cases runEq
      exact setStatus_outcome (Or.inr (Or.inr ⟨rfl, rfl⟩)) bodyEq
  | createInvitation =>
      obtain ⟨ended, bodyEq, rfl⟩ := finish_cases runEq
      exact createInvitation_outcome bodyEq
  | revokeInvitation => exact revokeInvitation_outcome runEq
  | accept =>
      obtain ⟨ended, bodyEq, rfl⟩ := finish_cases runEq
      exact accept_outcome bodyEq

end Manbaa.Organizations
