import Manbaa.Organizations.Ownership

/-!
# Whether the guards of a workspace agree

`requireEditor` asks for an active membership of the organization as well, `requireRole` and
`canEdit` do not.  They agree exactly if every active editor of a workspace is an active member
of its organization, which the services do not see to.
-/

namespace Manbaa.Organizations

open Manbaa.Lib Manbaa.Lib.Program Manbaa.Workspaces
open Manbaa.Auth (OrganizationRole)

/-! ## Agreement -/

/-- The three guards give every user the same answer in every workspace. -/
def GuardsAgree (db : Directory) : Prop :=
  ∀ userId, ∀ workspace ∈ db.workspaces,
    ((requireEditor db.members userId workspace.id workspace.organizationId).isOk ↔
      (Workspaces.requireRole db.members userId workspace.id edit).isOk) ∧
    ((Workspaces.requireRole db.members userId workspace.id edit).isOk ↔
      canEdit db.members userId workspace.id)

/-- The user is an active member of the organization. -/
def Enrolled (db : Directory) (organizationId userId : Uuid) : Prop :=
  ∃ member ∈ db.organizationMembers, member.organizationId = organizationId ∧
    member.userId = userId ∧ member.active = true

/-- The member is an active editor of the workspace. -/
def IsEditor (member : WorkspaceMembership) : Prop := member.status = .active ∧ member.role ∈ edit

/-- Every active editor of a workspace is an active member of its organization. -/
def EditorsEnrolled (db : Directory) : Prop :=
  ∀ member ∈ db.workspaceMembers, IsEditor member →
    Enrolled db member.organizationId member.userId

/-- There is the workspace, and it belongs to the organization. -/
def Placed (db : Directory) (workspaceId organizationId : Uuid) : Prop :=
  ∃ workspace ∈ db.workspaces, workspace.id = workspaceId ∧
    workspace.organizationId = organizationId

/-- Members and invitations belong to the organization of their workspace. -/
structure Linked (db : Directory) : Prop where
  unique : UniqueMembers db
  workspaceIds : Table.Keyed Workspace.id db.workspaces
  memberIds : Table.Keyed WorkspaceMembership.id db.workspaceMembers
  members : ∀ member ∈ db.workspaceMembers, Placed db member.workspaceId member.organizationId
  invitations : ∀ invitation ∈ db.invitations,
    Placed db invitation.workspaceId invitation.organizationId

variable {runtime : Runtime} {start db after : Directory} {request : Request}
  {result : Except Exception Unit} {userId workspaceId organizationId : Uuid}

theorem requireRole_isOk_iff :
    (Workspaces.requireRole db.members userId workspaceId edit).isOk ↔
      ∃ member ∈ db.workspaceMembers, member.userId = userId ∧
        member.workspaceId = workspaceId ∧ IsEditor member := by
  rw [Workspaces.requireRole, lookUp_isOk, List.find?_isSome]
  simp [Directory.members, IsEditor, and_assoc]

theorem canEdit_iff :
    canEdit db.members userId workspaceId ↔
      ∃ member ∈ db.workspaceMembers, member.userId = userId ∧
        member.workspaceId = workspaceId ∧ IsEditor member := by
  simp [canEdit, can, Directory.members, IsEditor, and_assoc]

theorem requireEditor_isOk_iff :
    (requireEditor db.members userId workspaceId organizationId).isOk ↔
      (∃ member ∈ db.workspaceMembers, member.userId = userId ∧
        member.workspaceId = workspaceId ∧ member.organizationId = organizationId ∧
        IsEditor member) ∧ Enrolled db organizationId userId := by
  have returns : (requireEditor db.members userId workspaceId organizationId).isOk ↔
      (db.members.workspaceMembers.find? fun member =>
        member.userId == userId && member.workspaceId == workspaceId &&
          member.organizationId == organizationId && member.status == .active &&
          edit.contains member.role).isSome ∧
      db.members.organizationMembers.any fun member =>
        member.userId == userId && member.organizationId == organizationId && member.active := by
    rw [requireEditor, bind_isOk_iff]
    constructor
    · rintro ⟨member, memberEq, restOk⟩
      obtain ⟨_, enrolled, _⟩ := bind_isOk_iff.mp restOk
      exact ⟨by rw [lookUp_eq_ok_iff.mp memberEq]; rfl, check_eq_ok_iff.mp enrolled⟩
    · rintro ⟨found, enrolled⟩
      obtain ⟨member, memberEq⟩ := Option.isSome_iff_exists.mp found
      refine ⟨member, lookUp_eq_ok_iff.mpr memberEq, ?_⟩
      rw [bind_isOk_iff]
      exact ⟨(), check_eq_ok_iff.mpr enrolled, rfl⟩
  rw [returns, List.find?_isSome]
  simp [Directory.members, IsEditor, Enrolled, and_assoc, and_left_comm]

/-- The guards agree exactly if the editors are enrolled. -/
theorem guardsAgree_iff (linked : Linked db) : GuardsAgree db ↔ EditorsEnrolled db := by
  constructor
  · intro agree member memberMem editor
    obtain ⟨workspace, workspaceMem, idEq, organizationEq⟩ := linked.members member memberMem
    have admitted : (Workspaces.requireRole db.members member.userId workspace.id edit).isOk :=
      requireRole_isOk_iff.mpr ⟨member, memberMem, rfl, idEq.symm, editor⟩
    have edits := (agree member.userId workspace workspaceMem).1.mpr admitted
    rw [← organizationEq]
    exact (requireEditor_isOk_iff.mp edits).2
  · intro enrolled userId workspace workspaceMem
    rw [requireRole_isOk_iff, requireEditor_isOk_iff, canEdit_iff]
    refine ⟨?_, Iff.rfl⟩
    constructor
    · rintro ⟨⟨member, memberMem, userEq, workspaceEq, _, editor⟩, _⟩
      exact ⟨member, memberMem, userEq, workspaceEq, editor⟩
    · rintro ⟨member, memberMem, userEq, workspaceEq, editor⟩
      obtain ⟨own, ownMem, idEq, organizationEq⟩ := linked.members member memberMem
      have same : own = workspace :=
        linked.workspaceIds.eq ownMem workspaceMem (idEq.trans workspaceEq)
      rw [same] at organizationEq
      refine ⟨⟨member, memberMem, userEq, workspaceEq, organizationEq.symm, editor⟩, ?_⟩
      rw [organizationEq, ← userEq]
      exact enrolled member memberMem editor

/-! ## What a request keeps linked -/

theorem Placed.congr (placed : Placed db workspaceId organizationId)
    (workspacesEq : after.workspaces = db.workspaces) :
    Placed after workspaceId organizationId := by
  rw [Placed, workspacesEq]
  exact placed

theorem Linked.congr (linked : Linked db) (unique : UniqueMembers after)
    (workspacesEq : after.workspaces = db.workspaces)
    (membersEq : after.workspaceMembers = db.workspaceMembers)
    (invitationsEq : after.invitations = db.invitations) : Linked after where
  unique := unique
  workspaceIds := workspacesEq ▸ linked.workspaceIds
  memberIds := membersEq ▸ linked.memberIds
  members := by
    rw [membersEq]
    exact fun member memberMem => (linked.members member memberMem).congr workspacesEq
  invitations := by
    rw [invitationsEq]
    exact fun invitation mem => (linked.invitations invitation mem).congr workspacesEq

/-- A save of a member or an invitation that stays where it was. -/
theorem placed_save {ρ : Type} {key workspaceOf organizationOf : ρ → Uuid} {rows : List ρ}
    {saved : ρ} (placed : ∀ row ∈ rows, Placed db (workspaceOf row) (organizationOf row))
    (own : Placed db (workspaceOf saved) (organizationOf saved)) :
    ∀ row ∈ Table.save key rows saved, Placed db (workspaceOf row) (organizationOf row) := by
  intro row rowMem
  rcases Table.mem_save_iff.mp rowMem with rfl | ⟨old, _⟩
  · exact own
  · exact placed row old

/-- The member that an acceptance saves belongs where the invitation does. -/
theorem placed_accepted {invitation : WorkspaceInvitation} {memberId : Uuid} {now : Nat}
    {existing : Option WorkspaceMembership} (linked : Linked db)
    (invitationMem : invitation ∈ db.invitations)
    (existingEq : db.workspaceMember? invitation.workspaceId userId = existing) :
    (invitation.member userId memberId now existing).workspaceId = invitation.workspaceId ∧
      (invitation.member userId memberId now existing).organizationId =
        invitation.organizationId ∧
      (invitation.member userId memberId now existing).userId = userId := by
  cases existing with
  | none => exact ⟨rfl, rfl, rfl⟩
  | some member =>
      have matched := List.find?_some existingEq
      simp only [Bool.and_eq_true, beq_iff_eq] at matched
      obtain ⟨workspace, workspaceMem, idEq, organizationEq⟩ :=
        linked.members member (List.mem_of_find?_eq_some existingEq)
      obtain ⟨other, otherMem, otherId, otherOrganization⟩ :=
        linked.invitations invitation invitationMem
      have same : workspace = other := linked.workspaceIds.eq workspaceMem otherMem
        (idEq.trans (matched.1.trans otherId.symm))
      refine ⟨matched.1, ?_, matched.2⟩
      exact organizationEq.symm.trans (same ▸ otherOrganization)

theorem linked_step (linked : Linked db) (outcome : Outcome runtime db request result after) :
    Linked after := by
  have unique := uniqueMembers_step linked.unique outcome
  cases outcome with
  | refused same | onUsers _ same =>
      exact linked.congr unique same.workspaces same.workspaceMembers same.invitations
  | registered _ _ workspacesEq membersEq invitationsEq
  | organizationCreated _ _ workspacesEq membersEq invitationsEq =>
      exact linked.congr unique workspacesEq membersEq invitationsEq
  | memberUpdated | memberRemoved => exact linked.congr unique rfl rfl rfl
  | repeated => exact linked
  | workspaceCreated _ fresh admitted _ workspacesEq membersEq invitationsEq =>
      have grown : ∀ {workspaceId organizationId : Uuid},
          Placed db workspaceId organizationId → Placed after workspaceId organizationId := by
        rintro workspaceId organizationId ⟨workspace, workspaceMem, facts⟩
        exact ⟨workspace, workspacesEq ▸ List.mem_append_left _ workspaceMem, facts⟩
      constructor
      · exact unique
      · rw [workspacesEq]
        exact Table.keyed_append linked.workspaceIds (Table.get?_eq_none_iff.mpr fresh)
      · rw [membersEq]
        exact Table.keyed_append linked.memberIds
          (Table.get?_eq_none_iff.mpr (fresh_of_admitsWorkspaceMember admitted))
      · rw [membersEq]
        intro member memberMem
        rcases List.mem_append.mp memberMem with old | new
        · exact grown (linked.members member old)
        · rw [List.mem_singleton.mp new]
          exact ⟨_, workspacesEq ▸ List.mem_append_right _ (List.mem_singleton_self _), rfl, rfl⟩
      · rw [invitationsEq]
        exact fun invitation mem => grown (linked.invitations invitation mem)
  | roleChanged _ isMember | statusSet _ _ isMember =>
      have own := linked.members _ isMember.row
      exact ⟨unique, linked.workspaceIds, Table.keyed_save linked.memberIds,
        placed_save linked.members own, linked.invitations⟩
  | @invited workspace dto userId caller invitation manages _ organizationEq workspaceEq =>
      obtain ⟨row, rowMem, rowEq⟩ := manages.row
      have placed : Placed db invitation.workspaceId invitation.organizationId := by
        have callerPlaced := linked.members row rowMem
        rw [rowEq, manages.workspace] at callerPlaced
        rw [workspaceEq, organizationEq]
        exact callerPlaced
      refine ⟨unique, linked.workspaceIds, linked.memberIds, linked.members, ?_⟩
      intro other otherMem
      rcases List.mem_append.mp otherMem with old | new
      · exact linked.invitations other old
      · rw [List.mem_singleton.mp new]
        exact placed
  | invitationRevoked found =>
      have own := linked.invitations _ found
      exact ⟨unique, linked.workspaceIds, linked.memberIds, linked.members,
        placed_save linked.invitations own⟩
  | accepted found _ existingEq =>
      have invitationMem := List.mem_of_find?_eq_some found
      have own := linked.invitations _ invitationMem
      refine ⟨unique, linked.workspaceIds, Table.keyed_save linked.memberIds,
        placed_save linked.members ?_, placed_save linked.invitations own⟩
      obtain ⟨workspaceEq, organizationEq, _⟩ := placed_accepted linked invitationMem existingEq
      rw [workspaceEq, organizationEq]
      exact own

/-! ## What a request does to the agreement -/

/-- A request makes nobody an editor who is not an active member of the organization, and takes
the membership of the organization from no editor. -/
def Request.Enrolls (runtime : Runtime) (db : Directory) : Request → Prop
  | .removeMember id memberId _ => ∀ target, IsOrganizationMember db id memberId target →
      ∀ member ∈ db.workspaceMembers, member.organizationId = id →
        member.userId = target.userId → ¬ IsEditor member
  | .changeRole workspaceId memberId role _ => ∀ target, IsMember db workspaceId memberId target →
      target.status = .active → role ∈ edit → Enrolled db target.organizationId target.userId
  | .restore workspaceId memberId _ => ∀ target, IsMember db workspaceId memberId target →
      target.role ∈ edit → Enrolled db target.organizationId target.userId
  | .accept token userId _ _ => ∀ invitation,
      db.invitations.find? (fun invitation =>
        invitation.tokenHash == runtime.sha256 token) = some invitation →
      invitation.status = .pending → invitation.role ∈ edit →
      Enrolled db invitation.organizationId userId
  | _ => True

/-- The condition on a request that is not refused. -/
def Request.EnrollsUnlessRefused (runtime : Runtime) (db : Directory) (request : Request) : Prop :=
  ((answer runtime request).alone db).1 = .ok () → request.Enrolls runtime db

theorem Enrolled.mono (enrolled : Enrolled db organizationId userId)
    (grown : ∀ member ∈ db.organizationMembers, member ∈ after.organizationMembers) :
    Enrolled after organizationId userId := by
  obtain ⟨member, memberMem, facts⟩ := enrolled
  exact ⟨member, grown member memberMem, facts⟩

/-- The editors stay enrolled if nobody becomes one and the organizations keep their
members. -/
theorem EditorsEnrolled.mono (enrolled : EditorsEnrolled db)
    (membersEq : after.workspaceMembers = db.workspaceMembers)
    (grown : ∀ member ∈ db.organizationMembers, member ∈ after.organizationMembers) :
    EditorsEnrolled after := by
  intro member memberMem editor
  rw [membersEq] at memberMem
  exact (enrolled member memberMem editor).mono grown

/-- After the save of a member, the editors are enrolled exactly if he is. -/
theorem editorsEnrolled_save_iff {saved : WorkspaceMembership}
    {invitations : List WorkspaceInvitation} (enrolled : EditorsEnrolled db) :
    EditorsEnrolled { db with
        workspaceMembers := Table.save WorkspaceMembership.id db.workspaceMembers saved
        invitations := invitations } ↔
      (IsEditor saved → Enrolled db saved.organizationId saved.userId) := by
  constructor
  · intro all editor
    exact all saved (Table.mem_save_iff.mpr (Or.inl rfl)) editor
  · intro own member memberMem editor
    rcases Table.mem_save_iff.mp memberMem with rfl | ⟨old, _⟩
    · exact own editor
    · exact enrolled member old editor

/-- A member who is updated stays as active as he was. -/
theorem enrolled_save {member saved : OrganizationMembership} (linked : Linked db)
    (memberMem : member ∈ db.organizationMembers) (idEq : saved.id = member.id)
    (pairEq : pair saved = pair member) (active : saved.active = true)
    (enrolled : Enrolled db organizationId userId) :
    Enrolled { db with
        organizationMembers :=
          Table.save OrganizationMembership.id db.organizationMembers saved }
      organizationId userId := by
  obtain ⟨own, ownMem, organizationEq, userEq, ownActive⟩ := enrolled
  by_cases same : own.id = saved.id
  · obtain rfl := linked.unique.ids.eq ownMem memberMem (same.trans idEq)
    have parts := Prod.mk.inj pairEq
    exact ⟨saved, Table.mem_save_iff.mpr (Or.inl rfl), parts.1.trans organizationEq,
      parts.2.trans userEq, active⟩
  · exact ⟨own, Table.mem_save_iff.mpr (Or.inr ⟨ownMem, same⟩), organizationEq, userEq,
      ownActive⟩

/-- After the removal of a member of an organization, the editors are enrolled exactly if he was
none. -/
theorem editorsEnrolled_remove_iff {id memberId : Uuid} {target : OrganizationMembership}
    (linked : Linked db) (enrolled : EditorsEnrolled db)
    (isMember : IsOrganizationMember db id memberId target) :
    EditorsEnrolled { db with
        organizationMembers := Table.save OrganizationMembership.id db.organizationMembers
          { target with active := false } } ↔
      ∀ member ∈ db.workspaceMembers, member.organizationId = id →
        member.userId = target.userId → ¬ IsEditor member := by
  constructor
  · intro all member memberMem organizationEq userEq editor
    obtain ⟨own, ownMem, ownOrganization, ownUser, active⟩ := all member memberMem editor
    rcases Table.mem_save_iff.mp ownMem with rfl | ⟨old, ne⟩
    · cases active
    · apply ne
      have same : own = target := by
        apply linked.unique.pairs.eq old isMember.row
        rw [pair, pair, ownOrganization, ownUser, organizationEq, userEq, isMember.organization]
      rw [same]
  · intro none member memberMem editor
    obtain ⟨own, ownMem, ownOrganization, ownUser, active⟩ := enrolled member memberMem editor
    refine ⟨own, Table.mem_save_iff.mpr (Or.inr ⟨ownMem, ?_⟩), ownOrganization, ownUser, active⟩
    intro same
    obtain rfl := linked.unique.ids.eq ownMem isMember.row same
    exact none member memberMem (ownOrganization.symm.trans isMember.organization) ownUser.symm
      editor

/-- The row of a member is found by its identifier. -/
theorem IsMember.eq {memberId : Uuid} {first second : WorkspaceMembership} (linked : Linked db)
    (isFirst : IsMember db workspaceId memberId first)
    (isSecond : IsMember db workspaceId memberId second) : first = second :=
  linked.memberIds.eq isFirst.row isSecond.row (isFirst.id.trans isSecond.id.symm)

/-- What a request does to the agreement of the guards: they agree after it exactly if it meets
the condition or is refused. -/
theorem editorsEnrolled_step (linked : Linked db) (enrolled : EditorsEnrolled db)
    (outcome : Outcome runtime db request result after) :
    EditorsEnrolled after ↔ (result = .ok () → request.Enrolls runtime db) := by
  cases outcome with
  | refused same =>
      apply iff_of_true _ nofun
      exact enrolled.mono same.workspaceMembers
        (fun member memberMem => same.organizationMembers ▸ memberMem)
  | onUsers about same =>
      apply iff_of_true
      · exact enrolled.mono same.workspaceMembers
          (fun member memberMem => same.organizationMembers ▸ memberMem)
      · intro _
        cases request <;> trivial
  | registered _ membersEq _ same | organizationCreated _ membersEq _ same =>
      apply iff_of_true _ fun _ => trivial
      exact enrolled.mono same
        (fun member memberMem => membersEq ▸ List.mem_append_left _ memberMem)
  | memberUpdated _ target =>
      apply iff_of_true _ fun _ => trivial
      intro member memberMem editor
      refine enrolled_save linked target.row ?_ ?_ ?_ (enrolled member memberMem editor)
      · rfl
      · rfl
      · exact target.active
  | @memberRemoved id memberId userId caller target manages isMember =>
      rw [editorsEnrolled_remove_iff linked enrolled isMember]
      constructor
      · intro none _ other otherIs
        have same : other = target :=
          linked.unique.ids.eq otherIs.row isMember.row (otherIs.id.trans isMember.id.symm)
        rw [same]
        exact none
      · intro met
        exact met rfl target isMember
  | workspaceCreated present _ _ sameEq _ membersEq =>
      apply iff_of_true _ fun _ => trivial
      intro member memberMem editor
      rw [Enrolled, sameEq]
      rw [membersEq] at memberMem
      rcases List.mem_append.mp memberMem with old | new
      · exact enrolled member old editor
      · rw [List.mem_singleton.mp new]
        exact present
  | @roleChanged workspace memberId role userId caller target manages isMember =>
      rw [editorsEnrolled_save_iff enrolled]
      constructor
      · intro own _ other otherIs active edits
        rw [otherIs.eq linked isMember] at active ⊢
        exact own ⟨active, edits⟩
      · intro met editor
        exact met rfl target isMember editor.1 editor.2
  | @statusSet _ workspace memberId userId status caller target sets manages isMember =>
      rw [editorsEnrolled_save_iff enrolled]
      rcases sets with ⟨rfl, rfl⟩ | ⟨rfl, rfl⟩ | ⟨rfl, rfl⟩
      · exact iff_of_true (fun editor => nomatch editor.1) fun _ => trivial
      · constructor
        · intro own _ other otherIs edits
          rw [otherIs.eq linked isMember] at edits ⊢
          exact own ⟨rfl, edits⟩
        · intro met editor
          exact met rfl target isMember editor.2
      · exact iff_of_true (fun editor => nomatch editor.1) fun _ => trivial
  | invited | invitationRevoked => exact iff_of_true enrolled fun _ => trivial
  | @repeated token userId memberId now invitation found before =>
      apply iff_of_true enrolled
      intro _ other otherFound pending
      cases found.symm.trans otherFound
      cases before.symm.trans pending
  | @accepted token userId memberId now invitation existing found pending existingEq =>
      obtain ⟨_, organizationEq, userEq⟩ :=
        @placed_accepted db userId invitation memberId now existing linked
          (List.mem_of_find?_eq_some found) existingEq
      have savedEditor : IsEditor (invitation.member userId memberId now existing) ↔
          invitation.role ∈ edit := by
        cases existing <;> exact and_iff_right rfl
      rw [editorsEnrolled_save_iff enrolled, savedEditor, organizationEq, userEq]
      constructor
      · intro own _ other otherFound _ edits
        cases found.symm.trans otherFound
        exact own edits
      · intro met edits
        exact met rfl invitation found pending edits

/-! ## Runs of requests -/

/-- The requests, one after the other. -/
def serving (runtime : Runtime) : Step Directory Request := Step.ofTotal (serve runtime)

theorem linked_migrated (migrated : Migrated start) : Linked start where
  unique := ⟨migrated.ids, migrated.pairs⟩
  workspaceIds := by
    rw [migrated.workspaces]
    exact Table.keyed_nil
  memberIds := by
    rw [migrated.workspaceMembers]
    exact Table.keyed_nil
  members := by
    rw [migrated.workspaceMembers]
    exact nofun
  invitations := by
    rw [migrated.invitations]
    exact nofun

/-- The guards of every workspace agree in every state that a run of requests reaches, exactly
if every request that is not refused meets the condition. -/
theorem guards_agree_iff (runtime : Runtime) {start : Directory} (migrated : Migrated start)
    (requests : List Request) :
    (serving runtime).Always GuardsAgree start requests ↔
      (serving runtime).Meets (Request.EnrollsUnlessRefused runtime) start requests := by
  let inv := fun db => Linked db ∧ EditorsEnrolled db
  have stepIff : ∀ db request after, inv db → serving runtime db request = some after →
      Linked after ∧ (EditorsEnrolled after ↔ request.EnrollsUnlessRefused runtime db) := by
    rintro db request after ⟨linked, enrolled⟩ stepEq
    cases stepEq
    have outcome := serve_outcome runtime db request
    exact ⟨linked_step linked outcome, editorsEnrolled_step linked enrolled outcome⟩
  have sound : ∀ db, inv db → GuardsAgree db :=
    fun db invariant => (guardsAgree_iff invariant.1).mpr invariant.2
  have preserved : ∀ db request after, inv db → request.EnrollsUnlessRefused runtime db →
      serving runtime db request = some after → inv after := by
    intro db request after invariant met stepEq
    obtain ⟨linked, enrolledIff⟩ := stepIff db request after invariant stepEq
    exact ⟨linked, enrolledIff.mpr met⟩
  have violated : ∀ db request after, inv db → ¬ request.EnrollsUnlessRefused runtime db →
      serving runtime db request = some after → ¬ GuardsAgree after := by
    intro db request after invariant broken stepEq agree
    obtain ⟨linked, enrolledIff⟩ := stepIff db request after invariant stepEq
    exact broken (enrolledIff.mp ((guardsAgree_iff linked).mp agree))
  have begins : inv start := by
    refine ⟨linked_migrated migrated, ?_⟩
    rw [EditorsEnrolled, migrated.workspaceMembers]
    exact nofun
  exact Step.always_iff_meets sound (fun db request => preserved db request)
    (fun db request => violated db request) begins (Step.run_ofTotal _ _ _)

/-- Two users register, and the first creates a workspace. -/
def exampleRegistrations : List Request :=
  [.register ⟨uuid "organization", uuid "first", uuid "first member", "organization", "first",
      "hash"⟩,
    .register ⟨uuid "other", uuid "second", uuid "second member", "other", "second", "hash"⟩,
    .createWorkspace ⟨"workspace", none, uuid "workspace", uuid "owner", 1⟩ (uuid "first")
      (uuid "organization")]

/-- No rows. -/
def exampleEmpty : Directory := ⟨[], [], [], [], [], [], [], []⟩

theorem exampleEmpty_migrated : Migrated exampleEmpty :=
  ⟨Table.keyed_nil, Table.keyed_nil, nofun, rfl, rfl, rfl⟩

theorem guards_agree_iff_example :
    (serving plainRuntime).Always GuardsAgree exampleEmpty exampleRegistrations ↔
      (serving plainRuntime).Meets (Request.EnrollsUnlessRefused plainRuntime) exampleEmpty
        exampleRegistrations :=
  guards_agree_iff plainRuntime exampleEmpty_migrated exampleRegistrations

/-- The second user accepts an invitation as an editor. -/
def exampleEditor : List Request :=
  exampleRegistrations ++
    [.createInvitation (uuid "workspace") ⟨"second", .editor, uuid "invitation", "token", 1⟩
        (uuid "first"),
      .accept "token" (uuid "second") (uuid "editor") 2]

/-- `canEdit` admits the editor, and `requireEditor` does not. -/
theorem editor_refused :
    canEdit (reached plainRuntime exampleEmpty exampleEditor).members (uuid "second")
        (uuid "workspace") = true ∧
      (requireEditor (reached plainRuntime exampleEmpty exampleEditor).members (uuid "second")
        (uuid "workspace") (uuid "organization")).isOk = false := by
  decide +kernel

/-- The guards do not agree in every state that is reached. -/
theorem guards_disagree :
    ¬ GuardsAgree (reached plainRuntime exampleEmpty exampleEditor) := by
  intro agree
  have present : ∃ workspace ∈ (reached plainRuntime exampleEmpty exampleEditor).workspaces,
      workspace.id = uuid "workspace" ∧ workspace.organizationId = uuid "organization" := by
    decide +kernel
  obtain ⟨workspace, workspaceMem, idEq, organizationEq⟩ := present
  have answers := agree (uuid "second") workspace workspaceMem
  rw [idEq, organizationEq] at answers
  have edits := answers.1.mpr (answers.2.mpr editor_refused.1)
  rw [editor_refused.2] at edits
  cases edits

end Manbaa.Organizations
