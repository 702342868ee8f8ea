import Manbaa.Lib.Contract
import Manbaa.Workspaces.Permission

/-!
# Access to what a workspace holds

The services of a workspace ask for a role in it, and that the workspace is one of the
organization, before they read or write.
-/

namespace Manbaa.Workspaces

open Manbaa.Lib Manbaa.Lib.Program

universe u

variable {σ : Type u}

/-- `requireWorkspaceRole`, of a service whose store has memberships. -/
def requireWorkspaceRole (members : σ → Members) (organizationId workspaceId userId : Uuid)
    (roles : List WorkspaceRole) : Program σ Exception WorkspaceMember := do
  let member ← ask fun store => requireRole (members store) userId workspaceId roles
  ensure (member.organizationId == organizationId) (.forbidden "Workspace access denied")
  pure member

/-- The user has one of the roles in the workspace, which is one of the organization. -/
def Members.Admits (members : Members) (organizationId workspaceId userId : Uuid)
    (roles : List WorkspaceRole) : Prop :=
  ∃ member, requireRole members userId workspaceId roles = .ok member ∧
    member.organizationId = organizationId

/-- What follows on the check may rely on it, as no other call changes memberships. -/
theorem safe_requireWorkspaceRole_bind {α : Type} {members : σ → Members} {contract : Contract σ}
    {right : α → σ → Prop} {seen : σ} {organizationId workspaceId userId : Uuid}
    {roles : List WorkspaceRole} {rest : WorkspaceMember → Program σ Exception α}
    (fixed : ∀ before after, contract.grows before after → members after = members before)
    (valid : contract.valid seen)
    (goesOn : ∀ member found, contract.valid found →
      (members found).Admits organizationId workspaceId userId roles →
      (rest member).Safe contract right found) :
    (requireWorkspaceRole members organizationId workspaceId userId roles >>= rest).Safe contract
      right seen := by
  have checked : (requireWorkspaceRole members organizationId workspaceId userId roles).Safe contract
      (fun member store => requireRole (members store) userId workspaceId roles = .ok member ∧
        member.organizationId = organizationId) seen := by
    apply safe_ask_bind
    intro found member _ _ memberEq
    apply safe_ensure_bind
    intro sameOrganization
    apply safe_pure
    intro later _ since
    exact ⟨fixed found later since ▸ memberEq, beq_iff_eq.mp sameOrganization⟩
  exact checked.bind valid fun member found isValid _ admits =>
    goesOn member found isValid ⟨member, admits⟩

end Manbaa.Workspaces
