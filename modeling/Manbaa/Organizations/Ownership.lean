import Manbaa.Organizations.Outcomes
import Mathlib.Data.List.Induction

/-!
# Who confers ownership

Whoever becomes an active owner of a workspace is made one by an active owner, at once or
through an invitation.  In an organization, administrators can do the same.
-/

namespace Manbaa.Organizations

open Manbaa.Lib Manbaa.Lib.Program Manbaa.Workspaces
open Manbaa.Auth (OrganizationRole)

/-! ## Runs of requests -/

/-- The pair that `uq_organization_member` keeps unique. -/
def pair (member : OrganizationMembership) : Uuid × Uuid := (member.organizationId, member.userId)

/-- The directory as the migrations leave it: every user is a member of his organization, the
administrators as owners, and there are no workspaces yet. -/
structure Migrated (start : Directory) : Prop where
  ids : Table.Keyed OrganizationMembership.id start.organizationMembers
  pairs : Table.Keyed pair start.organizationMembers
  members : ∀ member ∈ start.organizationMembers, ∃ user ∈ start.users,
    member.organizationId = user.orgId ∧ member.userId = user.id ∧ member.active = true ∧
      member.role = if user.role = .admin then .owner else .member
  workspaces : start.workspaces = []
  workspaceMembers : start.workspaceMembers = []
  invitations : start.invitations = []

/-- The directory after a request that runs alone. -/
def serve (runtime : Runtime) (db : Directory) (request : Request) : Directory :=
  ((answer runtime request).alone db).2

/-- The directory after some requests, one after the other. -/
def reached (runtime : Runtime) (start : Directory) (past : List Request) : Directory :=
  past.foldl (serve runtime) start

variable {runtime : Runtime} {start db : Directory} {past : List Request} {request : Request}

theorem reached_concat :
    reached runtime start (past ++ [request]) = serve runtime (reached runtime start past) request := by
  rw [reached, List.foldl_append]
  rfl

theorem serve_outcome (runtime : Runtime) (db : Directory) (request : Request) :
    Outcome runtime db request ((answer runtime request).alone db).1 (serve runtime db request) :=
  answer_outcome rfl

/-- The rule for what holds after every run of requests. -/
theorem reached_induction {holds : List Request → Directory → Prop}
    (first : holds [] start)
    (step : ∀ past request result after, holds past (reached runtime start past) →
      Outcome runtime (reached runtime start past) request result after →
      holds (past ++ [request]) after) (past : List Request) :
    holds past (reached runtime start past) := by
  induction past using List.reverseRecOn with
  | nil => exact first
  | append_singleton past request ih =>
      rw [reached_concat]
      exact step past request _ _ ih (serve_outcome runtime _ request)

/-! ## Owners -/

/-- The user is an active owner of the organization. -/
def OrganizationOwner (db : Directory) (organizationId userId : Uuid) : Prop :=
  ∃ member ∈ db.organizationMembers, member.organizationId = organizationId ∧
    member.userId = userId ∧ member.role = .owner ∧ member.active = true

/-- The user is an active owner of the workspace. -/
def WorkspaceOwner (db : Directory) (workspaceId userId : Uuid) : Prop :=
  ∃ member ∈ db.workspaceMembers, member.workspaceId = workspaceId ∧
    member.userId = userId ∧ member.role = .owner ∧ member.status = .active

/-- The user who manages members with a request. -/
def Request.manager : Request → Option Uuid
  | .updateMember _ _ _ userId | .removeMember _ _ userId | .changeRole _ _ _ userId
  | .suspend _ _ userId | .restore _ _ userId | .remove _ _ userId => some userId
  | _ => none

/-- The request creates the organization for the user. -/
def Request.FoundsOrganization (organizationId userId : Uuid) : Request → Prop
  | .register dto => dto.organizationId = organizationId ∧ dto.userId = userId
  | .createOrganization dto creator => dto.organizationId = organizationId ∧ creator = userId
  | _ => False

/-- The request creates the workspace for the user. -/
def Request.FoundsWorkspace (workspaceId userId : Uuid) : Request → Prop
  | .createWorkspace dto creator _ => dto.workspaceId = workspaceId ∧ creator = userId
  | _ => False

/-- The invitation was issued by a user who was then an active owner of the workspace. -/
def IssuedByOwner (runtime : Runtime) (start : Directory) (past : List Request)
    (invitation : WorkspaceInvitation) :
    Prop :=
  ∃ first dto second,
    past = first ++ .createInvitation invitation.workspaceId dto invitation.invitedBy :: second ∧
      dto.invitationId = invitation.id ∧
      WorkspaceOwner (reached runtime start first) invitation.workspaceId invitation.invitedBy

/-- The request accepts an invitation to the workspace that an owner has issued. -/
def Request.AcceptsOwner (runtime : Runtime) (start : Directory) (past : List Request)
    (workspaceId userId : Uuid) (request : Request) : Prop :=
  ∃ token memberId now invitation, request = .accept token userId memberId now ∧
    (reached runtime start past).invitations.find? (fun invitation =>
      invitation.tokenHash == runtime.sha256 token) = some invitation ∧
    invitation.workspaceId = workspaceId ∧ IssuedByOwner runtime start past invitation

/-- Whoever becomes an active owner by a request is the creator, or is made one by an active
owner. -/
structure Conferred (runtime : Runtime) (start : Directory) (past : List Request)
    (request : Request) : Prop where
  organization : ∀ organizationId userId,
    OrganizationOwner (serve runtime (reached runtime start past) request) organizationId userId →
    ¬ OrganizationOwner (reached runtime start past) organizationId userId →
    request.FoundsOrganization organizationId userId ∨
      ∃ manager ∈ request.manager,
        OrganizationOwner (reached runtime start past) organizationId manager
  workspace : ∀ workspaceId userId,
    WorkspaceOwner (serve runtime (reached runtime start past) request) workspaceId userId →
    ¬ WorkspaceOwner (reached runtime start past) workspaceId userId →
    request.FoundsWorkspace workspaceId userId ∨
      (∃ manager ∈ request.manager, WorkspaceOwner (reached runtime start past) workspaceId manager) ∨
      request.AcceptsOwner runtime start past workspaceId userId

/-- An administrator of an organization makes nobody an owner. -/
def Request.ByOwner (db : Directory) : Request → Prop
  | .updateMember id memberId .owner userId => ∀ caller member,
      ManagesOrganization db id userId caller → IsOrganizationMember db id memberId member →
      member.role ≠ .owner → caller.role = .owner
  | _ => True

/-! ## Unique members -/

/-- The keys of the members of organizations are unique. -/
structure UniqueMembers (db : Directory) : Prop where
  ids : Table.Keyed OrganizationMembership.id db.organizationMembers
  pairs : Table.Keyed pair db.organizationMembers

theorem uniqueMembers_append {member : OrganizationMembership} {after : Directory}
    (unique : UniqueMembers db) (admitted : db.admitsMember member = .ok ())
    (membersEq : after.organizationMembers = db.organizationMembers ++ [member]) :
    UniqueMembers after := by
  obtain ⟨_, _, pairFree⟩ := except_bind_eq_ok_iff.mp admitted
  rw [check_eq_ok_iff, Bool.not_eq_true', List.any_eq_false] at pairFree
  constructor
  · rw [membersEq]
    exact Table.keyed_append unique.ids
      (Table.get?_eq_none_iff.mpr (fresh_of_admitsMember admitted))
  · rw [membersEq]
    apply Table.keyed_append unique.pairs (Table.get?_eq_none_iff.mpr _)
    intro other otherMem same
    have pairEq := Prod.mk.inj same
    exact pairFree other otherMem (by simp [pairEq.1, pairEq.2])

/-- A save that keeps the identifier and the pair of a member. -/
theorem uniqueMembers_save {member saved : OrganizationMembership} (unique : UniqueMembers db)
    (memberMem : member ∈ db.organizationMembers) (idEq : saved.id = member.id)
    (pairEq : pair saved = pair member) :
    UniqueMembers { db with
      organizationMembers :=
        Table.save OrganizationMembership.id db.organizationMembers saved } := by
  have found : Table.get? OrganizationMembership.id db.organizationMembers saved.id =
      some member := idEq ▸ unique.ids.get?_of_mem memberMem
  constructor
  · exact Table.keyed_save unique.ids
  · rw [Table.Keyed]
    have columns : (Table.save OrganizationMembership.id db.organizationMembers saved).map pair =
        db.organizationMembers.map pair := by
      rw [Table.save_of_get?_eq_some found]
      apply Table.map_put_of_eq
      intro other otherMem same
      rw [unique.ids.eq otherMem memberMem (same.trans idEq), pairEq]
    dsimp only
    rw [columns]
    exact unique.pairs

theorem uniqueMembers_step {result : Except Exception Unit} {after : Directory}
    (unique : UniqueMembers db) (outcome : Outcome runtime db request result after) :
    UniqueMembers after := by
  cases outcome with
  | refused same | onUsers _ same =>
      exact ⟨same.organizationMembers ▸ unique.ids, same.organizationMembers ▸ unique.pairs⟩
  | registered admitted membersEq | organizationCreated admitted membersEq =>
      exact uniqueMembers_append unique admitted membersEq
  | memberUpdated _ target | memberRemoved _ target =>
      exact uniqueMembers_save unique target.row rfl rfl
  | workspaceCreated _ _ _ same => exact ⟨same ▸ unique.ids, same ▸ unique.pairs⟩
  | roleChanged | statusSet | invited | invitationRevoked | repeated | accepted =>
      exact ⟨unique.ids, unique.pairs⟩

theorem uniqueMembers_reached (runtime : Runtime) (migrated : Migrated start)
    (past : List Request) : UniqueMembers (reached runtime start past) := by
  have rule := @reached_induction runtime start fun _ db => UniqueMembers db
  apply rule
  · exact ⟨migrated.ids, migrated.pairs⟩
  · intro past request result after unique outcome
    exact uniqueMembers_step unique outcome

/-! ## Invitations -/

theorem workspaceOwner_of_manages {workspaceId userId : Uuid} {caller : WorkspaceMember}
    (manages : ManagesWorkspace db workspaceId userId caller) (owner : caller.role = .owner) :
    WorkspaceOwner db workspaceId userId := by
  obtain ⟨row, rowMem, rfl⟩ := manages.row
  exact ⟨row, rowMem, manages.workspace, manages.user, owner, manages.active⟩

/-- Invitations for owners are issued by owners. -/
def OwnersIssue (runtime : Runtime) (start : Directory) (past : List Request) (db : Directory) :
    Prop :=
  ∀ invitation ∈ db.invitations, invitation.role = .owner → IssuedByOwner runtime start past invitation

theorem IssuedByOwner.later {invitation : WorkspaceInvitation}
    (issued : IssuedByOwner runtime start past invitation) (request : Request) :
    IssuedByOwner runtime start (past ++ [request]) invitation := by
  obtain ⟨first, dto, second, pastEq, idEq, owner⟩ := issued
  refine ⟨first, dto, second ++ [request], ?_, idEq, owner⟩
  rw [pastEq, List.append_assoc, List.cons_append]

/-- A save of an invitation that does not touch what it offers. -/
theorem ownersIssue_save {found saved : WorkspaceInvitation}
    (issue : OwnersIssue runtime start past db) (foundMem : found ∈ db.invitations)
    (idEq : saved.id = found.id) (workspaceEq : saved.workspaceId = found.workspaceId)
    (roleEq : saved.role = found.role) (issuerEq : saved.invitedBy = found.invitedBy) :
    ∀ invitation ∈ Table.save WorkspaceInvitation.id db.invitations saved,
      invitation.role = .owner → IssuedByOwner runtime start past invitation := by
  intro invitation invitationMem owner
  rcases Table.mem_save_iff.mp invitationMem with rfl | ⟨old, _⟩
  · have issued := issue found foundMem (roleEq ▸ owner)
    rw [IssuedByOwner, workspaceEq, issuerEq, idEq]
    exact issued
  · exact issue invitation old owner

theorem ownersIssue_reached (runtime : Runtime) (migrated : Migrated start)
    (past : List Request) : OwnersIssue runtime start past (reached runtime start past) := by
  have rule := @reached_induction runtime start (OwnersIssue runtime start)
  apply rule
  · rw [OwnersIssue, migrated.invitations]
    exact nofun
  · intro past request result after issue outcome
    have later : ∀ invitation, IssuedByOwner runtime start past invitation →
        IssuedByOwner runtime start (past ++ [request]) invitation :=
      fun invitation issued => issued.later request
    have kept : OwnersIssue runtime start (past ++ [request]) (reached runtime start past) :=
      fun invitation invitationMem owner => later _ (issue invitation invitationMem owner)
    cases outcome with
    | refused same | onUsers _ same => exact fun invitation mem => kept _ (same.invitations ▸ mem)
    | registered _ _ _ _ same | organizationCreated _ _ _ _ same
    | workspaceCreated _ _ _ _ _ _ same => exact fun invitation mem => kept _ (same ▸ mem)
    | memberUpdated | memberRemoved | roleChanged | statusSet | repeated => exact kept
    | @invited workspaceId dto userId caller new manages conferred _ workspace idEq roleEq issuer =>
        intro invitation invitationMem owner
        rcases List.mem_append.mp invitationMem with old | added
        · exact kept invitation old owner
        · obtain rfl := List.mem_singleton.mp added
          subst workspace issuer
          exact ⟨past, dto, [], rfl, idEq.symm,
            workspaceOwner_of_manages manages (conferred (roleEq ▸ owner))⟩
    | invitationRevoked found =>
        intro invitation invitationMem owner
        refine later _ (ownersIssue_save issue found ?_ ?_ ?_ ?_ invitation invitationMem owner) <;>
          rfl
    | accepted found =>
        intro invitation invitationMem owner
        have foundMem := List.mem_of_find?_eq_some found
        refine later _ (ownersIssue_save issue foundMem ?_ ?_ ?_ ?_ invitation invitationMem owner)
          <;> rfl

/-! ## Who makes an owner -/

theorem organizationOwner_of_manages {organizationId userId : Uuid}
    {caller : OrganizationMembership}
    (manages : ManagesOrganization db organizationId userId caller)
    (owner : caller.role = .owner) : OrganizationOwner db organizationId userId :=
  ⟨caller, manages.row, manages.organization, manages.user, owner, manages.active⟩

/-- A new owner after a save is the saved row. -/
theorem organizationOwner_save {organizationId userId : Uuid} {saved : OrganizationMembership}
    (owner : ∃ member ∈ Table.save OrganizationMembership.id db.organizationMembers saved,
      member.organizationId = organizationId ∧ member.userId = userId ∧ member.role = .owner ∧
        member.active = true)
    (new : ¬ OrganizationOwner db organizationId userId) :
    saved.organizationId = organizationId ∧ saved.userId = userId ∧ saved.role = .owner ∧
      saved.active = true := by
  obtain ⟨member, memberMem, facts⟩ := owner
  rcases Table.mem_save_iff.mp memberMem with rfl | ⟨old, _⟩
  · exact facts
  · exact absurd ⟨member, old, facts⟩ new

/-- A new owner after a save is the saved row. -/
theorem workspaceOwner_save {workspaceId userId : Uuid} {saved : WorkspaceMembership}
    (owner : ∃ member ∈ Table.save WorkspaceMembership.id db.workspaceMembers saved,
      member.workspaceId = workspaceId ∧ member.userId = userId ∧ member.role = .owner ∧
        member.status = .active)
    (new : ¬ WorkspaceOwner db workspaceId userId) :
    saved.workspaceId = workspaceId ∧ saved.userId = userId ∧ saved.role = .owner ∧
      saved.status = .active := by
  obtain ⟨member, memberMem, facts⟩ := owner
  rcases Table.mem_save_iff.mp memberMem with rfl | ⟨old, _⟩
  · exact facts
  · exact absurd ⟨member, old, facts⟩ new

/-- Who becomes an owner of an organization. -/
theorem organization_conferred {result : Except Exception Unit} {after : Directory}
    {organizationId userId : Uuid} (byOwner : request.ByOwner db)
    (outcome : Outcome runtime db request result after)
    (owner : OrganizationOwner after organizationId userId)
    (new : ¬ OrganizationOwner db organizationId userId) :
    request.FoundsOrganization organizationId userId ∨
      ∃ manager ∈ request.manager, OrganizationOwner db organizationId manager := by
  cases outcome with
  | refused same | onUsers _ same =>
      rw [OrganizationOwner, same.organizationMembers] at owner
      exact absurd owner new
  | registered _ membersEq | organizationCreated _ membersEq =>
      rw [OrganizationOwner, membersEq] at owner
      obtain ⟨member, memberMem, organizationEq, userEq, facts⟩ := owner
      rcases List.mem_append.mp memberMem with old | added
      · exact absurd ⟨member, old, organizationEq, userEq, facts⟩ new
      · obtain rfl := List.mem_singleton.mp added
        exact Or.inl ⟨organizationEq, userEq⟩
  | @memberUpdated id memberId role managerId caller member manages target allowed =>
      obtain ⟨organizationEq, userEq, roleEq, active⟩ := organizationOwner_save owner new
      right
      refine ⟨managerId, rfl, ?_⟩
      have own : id = organizationId := target.organization.symm.trans organizationEq
      subst own
      dsimp only at roleEq
      subst roleEq
      apply organizationOwner_of_manages manages
      apply byOwner caller member manages target
      intro before
      exact new ⟨member, target.row, organizationEq, userEq, before, active⟩
  | memberRemoved =>
      obtain ⟨_, _, _, active⟩ := organizationOwner_save owner new
      cases active
  | workspaceCreated _ _ _ same =>
      rw [OrganizationOwner, same] at owner
      exact absurd owner new
  | roleChanged | statusSet | invited | invitationRevoked | repeated | accepted =>
      exact absurd owner new

/-- Who becomes an owner of a workspace. -/
theorem workspace_conferred {result : Except Exception Unit} {after : Directory}
    {workspaceId userId : Uuid} (migrated : Migrated start)
    (outcome : Outcome runtime (reached runtime start past) request result after)
    (owner : WorkspaceOwner after workspaceId userId)
    (new : ¬ WorkspaceOwner (reached runtime start past) workspaceId userId) :
    request.FoundsWorkspace workspaceId userId ∨
      (∃ manager ∈ request.manager, WorkspaceOwner (reached runtime start past) workspaceId manager) ∨
      request.AcceptsOwner runtime start past workspaceId userId := by
  cases outcome with
  | refused same | onUsers _ same =>
      rw [WorkspaceOwner, same.workspaceMembers] at owner
      exact absurd owner new
  | registered _ _ _ same | organizationCreated _ _ _ same =>
      rw [WorkspaceOwner, same] at owner
      exact absurd owner new
  | memberUpdated | memberRemoved | invited | invitationRevoked | repeated =>
      exact absurd owner new
  | workspaceCreated _ _ _ _ _ membersEq =>
      rw [WorkspaceOwner, membersEq] at owner
      obtain ⟨member, memberMem, workspaceEq, userEq, facts⟩ := owner
      rcases List.mem_append.mp memberMem with old | added
      · exact absurd ⟨member, old, workspaceEq, userEq, facts⟩ new
      · obtain rfl := List.mem_singleton.mp added
        exact Or.inl ⟨workspaceEq, userEq⟩
  | @roleChanged workspace memberId role managerId caller target manages isMember _ _ conferred =>
      obtain ⟨workspaceEq, _, roleEq, _⟩ := workspaceOwner_save owner new
      have own : workspace = workspaceId := isMember.workspace.symm.trans workspaceEq
      subst own
      right
      left
      exact ⟨managerId, rfl, workspaceOwner_of_manages manages (conferred roleEq)⟩
  | @statusSet _ workspace memberId managerId status caller target sets manages isMember allowed =>
      obtain ⟨workspaceEq, userEq, roleEq, statusEq⟩ := workspaceOwner_save owner new
      have own : workspace = workspaceId := isMember.workspace.symm.trans workspaceEq
      subst own
      have callerOwner : caller.role = .owner := by
        rcases manages.role with owns | administers
        · exact owns
        · exact absurd roleEq (allowed administers)
      have managerEq : request.manager = some managerId := by
        rcases sets with ⟨rfl, _⟩ | ⟨rfl, _⟩ | ⟨rfl, _⟩ <;> rfl
      right
      left
      exact ⟨managerId, managerEq, workspaceOwner_of_manages manages callerOwner⟩
  | @accepted token acceptor memberId now invitation existing found pending existingEq =>
      obtain ⟨workspaceEq, userEq, roleEq, _⟩ := workspaceOwner_save owner new
      have facts : invitation.workspaceId = workspaceId ∧ acceptor = userId ∧
          invitation.role = .owner := by
        cases existing with
        | none => exact ⟨workspaceEq, userEq, roleEq⟩
        | some member =>
            have matched := List.find?_some existingEq
            simp only [Bool.and_eq_true, beq_iff_eq] at matched
            exact ⟨matched.1.symm.trans workspaceEq, matched.2.symm.trans userEq, roleEq⟩
      obtain ⟨invitedTo, rfl, ownerRole⟩ := facts
      right
      right
      exact ⟨token, memberId, now, invitation, rfl, found, invitedTo,
        ownersIssue_reached runtime migrated past invitation (List.mem_of_find?_eq_some found) ownerRole⟩

/-- What `updateMember` does for a member who manages the organization. -/
theorem updateMember_serve {id memberId userId : Uuid} {role : OrganizationRole}
    {caller member : OrganizationMembership} (unique : UniqueMembers db)
    (manages : ManagesOrganization db id userId caller)
    (target : IsOrganizationMember db id memberId member) (notOwner : member.role ≠ .owner) :
    serve runtime db (.updateMember id memberId role userId) =
      { db with
        organizationMembers := Table.save OrganizationMembership.id db.organizationMembers
          { member with role := role } } := by
  have callerEq : requireRole db userId id managers = .ok caller := by
    apply lookUp_eq_ok_iff.mpr
    apply Table.find?_eq_some_of_unique manages.row
    · simp [manages.user, manages.organization, manages.active, managers]
      exact manages.role
    · intro other otherMem matched
      simp only [Bool.and_eq_true, beq_iff_eq] at matched
      apply unique.pairs.eq otherMem manages.row
      rw [pair, pair, matched.1.1.1, matched.1.1.2, manages.user, manages.organization]
  have memberEq : lookUp (db.organizationMembers.find? fun member =>
      member.id == memberId && member.organizationId == id && member.active)
        (Exception.notFound "Organization member not found") = .ok member := by
    apply lookUp_eq_ok_iff.mpr
    apply Table.find?_eq_some_of_unique target.row
    · simp [target.id, target.organization, target.active]
    · intro other otherMem matched
      simp only [Bool.and_eq_true, beq_iff_eq] at matched
      exact unique.ids.eq otherMem target.row (matched.1.1.trans target.id.symm)
  have updated : (updateMember id memberId role userId).alone db =
      (.ok { member with role := role },
        { db with
          organizationMembers := Table.save OrganizationMembership.id db.organizationMembers
            { member with role := role } }) := by
    have notBoth : (member.role == .owner) = false := by
      simpa using notOwner
    have callerRun : (ask fun db => requireRole db userId id managers).alone db =
        (.ok caller, db) := alone_ask_of_ok callerEq
    have memberRun : (findMember id memberId).alone db = (.ok member, db) :=
      alone_ask_of_ok memberEq
    rw [updateMember, alone_bind, Effect.bind_of_ok callerRun, alone_bind,
      Effect.bind_of_ok memberRun, notBoth, Bool.and_false, Bool.false_and]
    rfl
  have finished : (finish (updateMember id memberId role userId)).alone db =
      (.ok (), { db with
        organizationMembers := Table.save OrganizationMembership.id db.organizationMembers
          { member with role := role } }) := by
    rw [finish, alone_bind]
    exact Effect.bind_of_ok updated
  exact congrArg Prod.snd finished

/-- After any run of requests, the next one makes owners as it should, unless an administrator
of an organization makes one by `updateMember`. -/
theorem ownership_conferred_iff (runtime : Runtime) {start : Directory}
    (migrated : Migrated start) (past : List Request) (request : Request) :
    Conferred runtime start past request ↔ request.ByOwner (reached runtime start past) := by
  constructor
  · intro conferred
    cases request with
    | updateMember id memberId role userId =>
        cases role with
        | owner =>
            intro caller member manages target notOwner
            have unique := uniqueMembers_reached runtime migrated past
            have made : OrganizationOwner (serve runtime (reached runtime start past)
                (.updateMember id memberId .owner userId)) id member.userId := by
              rw [updateMember_serve unique manages target notOwner]
              exact ⟨_, Table.mem_save_iff.mpr (Or.inl rfl), target.organization, rfl, rfl,
                target.active⟩
            have new : ¬ OrganizationOwner (reached runtime start past) id member.userId := by
              rintro ⟨other, otherMem, organizationEq, userEq, owner, _⟩
              have same : other = member := by
                apply unique.pairs.eq otherMem target.row
                rw [pair, pair, organizationEq, userEq, target.organization]
              exact notOwner (same ▸ owner)
            rcases conferred.organization id member.userId made new with founds |
              ⟨manager, managerEq, other, otherMem, organizationEq, userEq, owner, _⟩
            · exact founds.elim
            · cases managerEq
              have same : other = caller := by
                apply unique.pairs.eq otherMem manages.row
                rw [pair, pair, organizationEq, userEq, manages.organization, manages.user]
              exact same ▸ owner
        | _ => trivial
    | _ => trivial
  · intro byOwner
    constructor
    · intro organizationId userId owner new
      exact organization_conferred byOwner (serve_outcome runtime _ request) owner new
    · intro workspaceId userId owner new
      exact workspace_conferred migrated (serve_outcome runtime _ request) owner new

/-! ## An organization with two members -/

/-- Texts are taken as they are. -/
def plainRuntime : Runtime where
  toLowerCase := id
  trim := id
  sha256 := id

/-- A user of an organization before the migrations. -/
def legacyUser (name : String) (role : UserRole) : User where
  id := uuid name
  email := name
  passwordHash := "hash"
  role := role
  orgId := uuid "organization"
  isVerified := true
  isActive := true
  inviteTokenHash := none
  inviteExpiresAt := none

/-- An administrator and a viewer after the migrations. -/
def exampleMigrated : Directory where
  users := [legacyUser "first" .admin, legacyUser "second" .viewer]
  organizations := [⟨uuid "organization", "organization"⟩]
  organizationMembers :=
    [⟨⟨uuid "organization", uuid "first", true⟩, uuid "first member", .owner⟩,
      ⟨⟨uuid "organization", uuid "second", true⟩, uuid "second member", .member⟩]
  workspaces := []
  workspaceMembers := []
  invitations := []
  refreshTokens := []
  auditLogs := []

theorem exampleMigrated_migrated : Migrated exampleMigrated where
  ids := by decide +kernel
  pairs := by decide +kernel
  members := by decide +kernel
  workspaces := rfl
  workspaceMembers := rfl
  invitations := rfl

/-- The owner makes the member an administrator. -/
def examplePromotion : List Request :=
  [.updateMember (uuid "organization") (uuid "second member") .admin (uuid "first")]

theorem ownership_conferred_iff_example :
    Conferred plainRuntime exampleMigrated [] (.updateMember (uuid "organization")
        (uuid "second member") .owner (uuid "first")) ↔
      (Request.updateMember (uuid "organization") (uuid "second member") .owner
        (uuid "first")).ByOwner exampleMigrated :=
  ownership_conferred_iff plainRuntime exampleMigrated_migrated [] _

/-- The administrator makes himself an owner. -/
theorem owner_by_admin :
    ¬ Conferred plainRuntime exampleMigrated examplePromotion (.updateMember (uuid "organization")
      (uuid "second member") .owner (uuid "second")) := by
  intro conferred
  have made : OrganizationOwner (serve plainRuntime
      (reached plainRuntime exampleMigrated examplePromotion) (.updateMember (uuid "organization")
        (uuid "second member") .owner (uuid "second"))) (uuid "organization") (uuid "second") := by
    unfold OrganizationOwner
    decide +kernel
  have new : ¬ OrganizationOwner (reached plainRuntime exampleMigrated examplePromotion)
      (uuid "organization") (uuid "second") := by
    unfold OrganizationOwner
    decide +kernel
  rcases conferred.organization _ _ made new with founds | ⟨manager, managerEq, owner⟩
  · exact founds
  · cases managerEq
    exact new owner

end Manbaa.Organizations
