import Manbaa.Organizations.Outcomes

/-!
# The last owner and the last administrator

The services count the other holders of a role before they save the row of one.  The count is
not locked, and an acceptance counts nothing: a role that is held stays held exactly as long
as the count would still find another holder when a row that loses the role is saved.
-/

namespace Manbaa.Organizations

open Manbaa.Lib Manbaa.Lib.Program Manbaa.Workspaces
open Manbaa.Auth (OrganizationRole)

/-- The requests beside each other. -/
abbrev requests (runtime : Runtime) : Step (Sessions.State Directory (Statements Unit))
    (Sessions.Action Request Unit) :=
  (beside (answer runtime)).step

/-- The directory before any request has arrived. -/
def idle (db : Directory) : Sessions.State Directory (Statements Unit) := ⟨db, []⟩

variable {runtime : Runtime} {db : Directory} {workspaceId organizationId : Uuid}
  {target : Sessions.State Directory (Statements Unit)}
  {actions : List (Sessions.Action Request Unit)}

/-! ## Owners of a workspace -/

/-- The workspace has an active owner. -/
def Owned (workspaceId : Uuid) (db : Directory) : Prop :=
  ∃ member ∈ db.workspaceMembers, member.isActiveOwner workspaceId

/-- A statement that takes the role or the status from an active owner of the workspace is one
at which `assertAnotherOwner` would pass. -/
def SparesOwner (workspaceId : Uuid) (db : Directory) (_ : List (Statements Unit))
    (program : Statements Unit) (_ : Unit) : Prop :=
  ∀ member ∈ db.workspaceMembers, member.isActiveOwner workspaceId →
    (∃ kept ∈ (program.upcoming db).workspaceMembers,
      kept.isActiveOwner workspaceId ∧ kept.id = member.id) ∨
    db.otherOwners workspaceId member.id ≠ 0

theorem otherOwners_ne_zero_iff {excludingId : Uuid} :
    db.otherOwners workspaceId excludingId ≠ 0 ↔
      ∃ other ∈ db.workspaceMembers, other.isActiveOwner workspaceId ∧ other.id ≠ excludingId := by
  rw [Directory.otherOwners, ← Nat.pos_iff_ne_zero, List.countP_pos_iff]
  simp

theorem sparesOwner_iff {others : List (Statements Unit)} {program : Statements Unit}
    {choice : Unit} :
    SparesOwner workspaceId db others program choice ↔
      Table.Relieves Directory.workspaceMembers WorkspaceMembership.id
        (WorkspaceMembership.isActiveOwner workspaceId) db others program choice := by
  simp only [SparesOwner, otherOwners_ne_zero_iff]
  exact Iff.rfl

theorem owned_of_createWorkspace {dto : CreateWorkspace} {userId : Uuid} {workspace : Workspace}
    {created : Directory}
    (createEq : (createWorkspace dto userId organizationId).alone db = (.ok workspace, created)) :
    Owned workspace.id created := by
  rw [createWorkspace, alone_query_bind] at createEq
  rcases alone_ensure_cases createEq with ⟨_, thrown, _⟩ | ⟨_, writeEq⟩
  · cases thrown
  rcases alone_write_cases writeEq with ⟨_, thrown, _⟩ | ⟨_, returned, inserted⟩
  · cases thrown
  cases returned
  obtain ⟨_, _, inserted⟩ := except_bind_eq_ok_iff.mp inserted
  obtain ⟨_, _, inserted⟩ := except_bind_eq_ok_iff.mp inserted
  cases inserted
  refine ⟨dto.member userId organizationId, List.mem_append_right _ (List.mem_singleton_self _), ?_⟩
  simp [WorkspaceMembership.isActiveOwner, CreateWorkspace.member]

/-- An acceptance that would take the role of the last active owner. -/
def Request.Deposes (runtime : Runtime) (db : Directory) (workspaceId : Uuid) : Request → Prop
  | .accept token userId _ _ => ∃ invitation existing,
      db.invitations.find? (fun invitation =>
        invitation.tokenHash == runtime.sha256 token) = some invitation ∧
      db.workspaceMember? invitation.workspaceId userId = some existing ∧
      existing.isActiveOwner workspaceId ∧ invitation.role ≠ .owner ∧
      db.otherOwners workspaceId existing.id = 0
  | _ => False

/-- A save of the row of a member leaves the workspace an owner, if it counts the others
before it takes the role or the status from one. -/
theorem owned_save {member saved : WorkspaceMembership}
    (keyed : Table.Keyed WorkspaceMembership.id db.workspaceMembers)
    (memberMem : member ∈ db.workspaceMembers) (same : saved.id = member.id)
    (spares : member.isActiveOwner workspaceId → ¬ saved.isActiveOwner workspaceId →
      db.otherOwners workspaceId member.id ≠ 0)
    (owned : Owned workspaceId db) :
    ∃ kept ∈ Table.save WorkspaceMembership.id db.workspaceMembers saved,
      kept.isActiveOwner workspaceId := by
  obtain ⟨owner, ownerMem, ownerIs⟩ := owned
  by_cases idEq : owner.id = saved.id
  · obtain rfl := keyed.eq ownerMem memberMem (idEq.trans same)
    by_cases kept : saved.isActiveOwner workspaceId
    · exact ⟨saved, Table.mem_save_iff.mpr (Or.inl rfl), kept⟩
    · obtain ⟨other, otherMem, otherIs, ne⟩ := otherOwners_ne_zero_iff.mp (spares ownerIs kept)
      exact ⟨other, Table.mem_save_iff.mpr (Or.inr ⟨otherMem, same ▸ ne⟩), otherIs⟩
  · exact ⟨owner, Table.mem_save_iff.mpr (Or.inr ⟨ownerMem, idEq⟩), ownerIs⟩

/-- A request that runs alone leaves the workspace an active owner, unless the last one accepts
an invitation for another role. -/
theorem owned_alone {request : Request} {result : Except Exception Unit} {after : Directory}
    (keyed : Table.Keyed WorkspaceMembership.id db.workspaceMembers)
    (owned : Owned workspaceId db) (stays : ¬ request.Deposes runtime db workspaceId)
    (runEq : (answer runtime request).alone db = (result, after)) :
    Owned workspaceId after := by
  obtain ⟨owner, ownerMem, ownerIs⟩ := owned
  cases answer_outcome runEq with
  | refused same | onUsers _ same => exact ⟨owner, same.workspaceMembers ▸ ownerMem, ownerIs⟩
  | registered _ _ _ same | organizationCreated _ _ _ same =>
      exact ⟨owner, same ▸ ownerMem, ownerIs⟩
  | memberUpdated | memberRemoved | invited | invitationRevoked | repeated =>
      exact ⟨owner, ownerMem, ownerIs⟩
  | workspaceCreated _ _ _ _ _ appended =>
      exact ⟨owner, appended ▸ List.mem_append_left _ ownerMem, ownerIs⟩
  | @roleChanged workspace _ role _ caller target manages isMember allowed another conferred =>
      refine owned_save keyed isMember.row rfl ?_ ⟨owner, ownerMem, ownerIs⟩
      intro targetIs lost
      simp only [WorkspaceMembership.isActiveOwner, Bool.and_eq_true, beq_iff_eq] at targetIs lost
      obtain ⟨⟨workspaceEq, roleEq⟩, statusEq⟩ := targetIs
      have own : workspace = workspaceId := isMember.workspace.symm.trans workspaceEq
      rw [← own]
      apply another roleEq
      rintro rfl
      exact lost ⟨⟨workspaceEq, rfl⟩, statusEq⟩
  | @statusSet _ workspace _ _ status caller target sets manages isMember allowed another =>
      refine owned_save keyed isMember.row rfl ?_ ⟨owner, ownerMem, ownerIs⟩
      intro targetIs lost
      simp only [WorkspaceMembership.isActiveOwner, Bool.and_eq_true, beq_iff_eq] at targetIs lost
      obtain ⟨⟨workspaceEq, roleEq⟩, _⟩ := targetIs
      have own : workspace = workspaceId := isMember.workspace.symm.trans workspaceEq
      rw [← own]
      apply another roleEq
      rintro rfl
      exact lost ⟨⟨workspaceEq, roleEq⟩, rfl⟩
  | @accepted token userId memberId now invitation existing found _ existingEq admitted =>
      cases existing with
      | none =>
          have fresh : ∀ other ∈ db.workspaceMembers, other.id ≠ memberId :=
            fresh_of_admitsWorkspaceMember admitted
          exact ⟨owner, Table.mem_save_iff.mpr (Or.inr ⟨ownerMem, fresh owner ownerMem⟩), ownerIs⟩
      | some member =>
          refine owned_save keyed (List.mem_of_find?_eq_some existingEq) rfl ?_
            ⟨owner, ownerMem, ownerIs⟩
          intro memberIs lost none
          apply stays
          refine ⟨invitation, member, found, existingEq, memberIs, ?_, none⟩
          intro roleEq
          simp only [WorkspaceMembership.isActiveOwner, Bool.and_eq_true, beq_iff_eq]
            at memberIs lost
          exact lost ⟨⟨memberIs.1.1, roleEq⟩, rfl⟩

/-! ## Administrators and owners of an organization -/

/-- The organization has an active administrator among its users. -/
def Administered (organizationId : Uuid) (db : Directory) : Prop :=
  ∃ user ∈ db.users, isActiveAdmin organizationId user

/-- The organization has an active owner among its members. -/
def OrganizationOwned (organizationId : Uuid) (db : Directory) : Prop :=
  ∃ member ∈ db.organizationMembers, isActiveOwner organizationId member

/-- A statement that takes the role or the status from an active administrator is run while
there are others. -/
def SparesAdmin (organizationId : Uuid) (db : Directory) (_ : List (Statements Unit))
    (program : Statements Unit) (_ : Unit) : Prop :=
  ∀ user ∈ db.users, isActiveAdmin organizationId user →
    (∃ kept ∈ (program.upcoming db).users,
      isActiveAdmin organizationId kept ∧ kept.id = user.id) ∨
    ∃ other ∈ db.users, isActiveAdmin organizationId other ∧ other.id ≠ user.id

/-- A statement that takes the role or the status from an active owner of the organization is
one at which `assertAnotherOwner` would pass. -/
def SparesOrganizationOwner (organizationId : Uuid) (db : Directory) (_ : List (Statements Unit))
    (program : Statements Unit) (_ : Unit) : Prop :=
  ∀ member ∈ db.organizationMembers, isActiveOwner organizationId member →
    (∃ kept ∈ (program.upcoming db).organizationMembers,
      isActiveOwner organizationId kept ∧ kept.id = member.id) ∨
    otherOwners db organizationId member.id ≠ 0

theorem otherOrganizationOwners_ne_zero_iff {excludingId : Uuid} :
    otherOwners db organizationId excludingId ≠ 0 ↔
      ∃ other ∈ db.organizationMembers,
        isActiveOwner organizationId other ∧ other.id ≠ excludingId := by
  rw [otherOwners, ← Nat.pos_iff_ne_zero, List.countP_pos_iff]
  simp

/-- The state that a registration or the creation of an organization leaves, with an active
administrator and an active owner. -/
inductive Founded (runtime : Runtime) : Uuid → Directory → Prop
  | registered {db start : Directory} {dto : Registration}
      (registerEq : (register runtime dto).alone db = (.ok (), start)) :
      Founded runtime dto.organizationId start
  | created {db start : Directory} {dto : CreateOrganization} {userId : Uuid}
      {organization : Organization}
      (createEq : (createOrganization dto userId).alone db = (.ok organization, start))
      (administered : Administered organization.id start) :
      Founded runtime organization.id start

theorem held_of_founded {start : Directory} (founded : Founded runtime organizationId start) :
    Administered organizationId start ∧ OrganizationOwned organizationId start := by
  cases founded with
  | @registered _ _ dto registerEq =>
      rw [register, alone_query_bind] at registerEq
      rcases alone_ensure_cases registerEq with ⟨_, thrown, _⟩ | ⟨_, writeEq⟩
      · cases thrown
      rcases alone_write_cases writeEq with ⟨_, thrown, _⟩ | ⟨_, _, inserted⟩
      · cases thrown
      obtain ⟨_, _, inserted⟩ := except_bind_eq_ok_iff.mp inserted
      obtain ⟨_, _, inserted⟩ := except_bind_eq_ok_iff.mp inserted
      obtain ⟨_, _, inserted⟩ := except_bind_eq_ok_iff.mp inserted
      cases inserted
      constructor
      · refine ⟨_, List.mem_append_right _ (List.mem_singleton_self _), ?_⟩
        simp [isActiveAdmin]
      · refine ⟨_, List.mem_append_right _ (List.mem_singleton_self _), ?_⟩
        simp [isActiveOwner, Registration.member]
  | created createEq administered =>
      rcases alone_write_cases createEq with ⟨_, thrown, _⟩ | ⟨_, returned, inserted⟩
      · cases thrown
      cases returned
      obtain ⟨_, _, inserted⟩ := except_bind_eq_ok_iff.mp inserted
      obtain ⟨_, _, inserted⟩ := except_bind_eq_ok_iff.mp inserted
      cases inserted
      constructor
      · exact administered
      · refine ⟨_, List.mem_append_right _ (List.mem_singleton_self _), ?_⟩
        simp [isActiveOwner, CreateOrganization.member]

/-- Texts are taken as they are. -/
def exampleRuntime : Runtime where
  toLowerCase := id
  trim := id
  sha256 := id

/-- The registration of the first user. -/
def exampleRegistration : Registration where
  organizationId := uuid "organization"
  userId := uuid "first"
  memberId := uuid "first member"
  name := "organization"
  email := "first@example.com"
  passwordHash := "hash"

/-- The directory after the registration. -/
def exampleDirectory : Directory :=
  ((register exampleRuntime exampleRegistration).alone ⟨[], [], [], [], [], [], [], []⟩).2

/-- A workspace of the first user. -/
def exampleWorkspace : CreateWorkspace where
  name := "workspace"
  description := none
  workspaceId := uuid "workspace"
  memberId := uuid "owner"
  now := 1

/-- The directory after the creation of the workspace. -/
def exampleCreated : Directory :=
  ((createWorkspace exampleWorkspace (uuid "first") (uuid "organization")).alone
    exampleDirectory).2

example : exampleCreated.workspaceMembers.length = 1 := by decide +kernel

theorem exampleCreated_eq :
    (createWorkspace exampleWorkspace (uuid "first") (uuid "organization")).alone
        exampleDirectory =
      (.ok ⟨uuid "workspace", uuid "organization", "workspace", none, uuid "first"⟩,
        exampleCreated) := by
  have returned : ((createWorkspace exampleWorkspace (uuid "first") (uuid "organization")).alone
      exampleDirectory).1.toOption =
        some ⟨uuid "workspace", uuid "organization", "workspace", none, uuid "first"⟩ := by
    decide +kernel
  rcases bodyEq : (createWorkspace exampleWorkspace (uuid "first") (uuid "organization")).alone
    exampleDirectory with ⟨_ | workspace, created⟩
  · rw [bodyEq] at returned
    cases returned
  · rw [bodyEq] at returned
    cases returned
    rw [exampleCreated, bodyEq]

/-- A request and its statements. -/
def exampleRequest (index statements : Nat) (request : Request) :
    List (Sessions.Action Request Unit) :=
  .start request :: List.replicate statements (.advance index ())

/-- The owner tries to suspend himself. -/
def exampleSuspension : List (Sessions.Action Request Unit) :=
  exampleRequest 0 3 (.suspend (uuid "workspace") (uuid "owner") (uuid "first"))

/-- The owner invites himself for another role, and accepts. -/
def exampleAcceptance : List (Sessions.Action Request Unit) :=
  exampleRequest 0 3 (.createInvitation (uuid "workspace")
      ⟨"first@example.com", .viewer, uuid "invitation", "token", 1⟩ (uuid "first")) ++
    exampleRequest 1 4 (.accept "token" (uuid "first") (uuid "second member") 2)

example : exampleDirectory.users.length = 1 := by decide +kernel

/-- A second administrator is invited. -/
def exampleInvitation : List (Sessions.Action Request Unit) :=
  exampleRequest 0 3 (.inviteUser ⟨"second@example.com", some .admin, uuid "second", "token", 1⟩
    ⟨uuid "first", uuid "organization", "admin"⟩)

theorem exampleDirectory_founded :
    Founded exampleRuntime exampleRegistration.organizationId exampleDirectory := by
  have returned : ((register exampleRuntime exampleRegistration).alone
      ⟨[], [], [], [], [], [], [], []⟩).1.isOk := by
    decide +kernel
  have registerEq : (register exampleRuntime exampleRegistration).alone
      ⟨[], [], [], [], [], [], [], []⟩ = (.ok (), exampleDirectory) := by
    rcases bodyEq : (register exampleRuntime exampleRegistration).alone
      ⟨[], [], [], [], [], [], [], []⟩ with ⟨_ | ⟨⟨⟩⟩, created⟩
    · rw [bodyEq] at returned
      cases returned
    · rw [exampleDirectory, bodyEq]
  exact .registered registerEq

/-- Two administrators take the role from each other; both have been counted before either is
saved. -/
def exampleDemotions : List (Sessions.Action Request Unit) :=
  exampleInvitation ++
    [.start (.updateUserRole (uuid "second") .viewer
        ⟨uuid "first", uuid "organization", "admin"⟩),
      .start (.updateUserRole (uuid "first") .viewer
        ⟨uuid "second", uuid "organization", "admin"⟩),
      .advance 1 (), .advance 2 (), .advance 1 (), .advance 2 (), .advance 1 (), .advance 2 ()]

end Manbaa.Organizations
