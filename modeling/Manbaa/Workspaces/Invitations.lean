import Manbaa.Workspaces.Membership

/-!
# The life of an invitation

Invitations are created, revoked and accepted.  An acceptance is one transaction that holds the
row of its invitation; the read and the save of a revocation are statements of their own.  An
acceptance that comes too late writes that the invitation is expired, and then throws in the same
transaction.
-/

namespace Manbaa.Workspaces

open Manbaa.Lib Manbaa.Lib.Effect

/-! ## Requests -/

/-- A call of `accept`. -/
structure Acceptance where
  token : String
  userId : Uuid
  memberId : Uuid
  now : Nat
  deriving DecidableEq

/-- A call of `revoke`. -/
structure Revocation where
  workspaceId : Uuid
  id : Uuid
  userId : Uuid
  now : Nat
  deriving DecidableEq

/-- A call of the service. -/
inductive InvitationRequest where
  | create (workspaceId : Uuid) (dto : CreateInvitation) (userId : Uuid)
  | revoke (request : Revocation)
  | accept (request : Acceptance)

/-! ## The transaction of an acceptance -/

/-- The invitation that a token is for. -/
def Directory.invited? (runtime : Runtime) (token : String) (db : Directory) :
    Option WorkspaceInvitation :=
  db.invitations.find? fun invitation => invitation.tokenHash == runtime.sha256 token

/-- The row of a user. -/
def Directory.user? (userId : Uuid) (db : Directory) : Option User :=
  db.users.find? fun user => user.id == userId

/-- What an acceptance does with an invitation that is not accepted by a member yet. -/
def acceptOpen (request : Acceptance) (invitation : WorkspaceInvitation)
    (existing : Option WorkspaceMembership) : Effect Directory Exception WorkspaceMembership := do
  require (invitation.status == .pending) (.gone "Invitation is no longer valid")
  if invitation.expiresAt ≤ request.now then do
    writing fun db =>
      { db with
        invitations := Table.save WorkspaceInvitation.id db.invitations
          { invitation with status := .expired } }
    throwing (.gone "Invitation expired")
  else
    let member := invitation.member request.userId request.memberId request.now existing
    (Program.write (commitAcceptance invitation existing member request.now)).alone

/-- The callback of the transaction. -/
def acceptLocked (runtime : Runtime) (request : Acceptance) :
    Effect Directory Exception WorkspaceMembership := do
  let found ← reading (Directory.invited? runtime request.token)
  let invitation ← orThrow found (.notFound "Invitation not found")
  let found ← reading (Directory.user? request.userId)
  let user ← orThrow found (.error "Could not find any entity of type \"User\"")
  require (runtime.toLowerCase user.email == runtime.toLowerCase invitation.email)
    (.conflict "Invitation email does not match current user")
  let existing ← reading fun db => db.workspaceMember? invitation.workspaceId request.userId
  match invitation.status, existing with
  | .accepted, some member => pure member
  | _, _ => acceptOpen request invitation existing

/-- `accept`. -/
def acceptInvitation (runtime : Runtime) (request : Acceptance) :
    Effect Directory Exception WorkspaceMembership :=
  transaction (acceptLocked runtime request)

/-! ## Calls beside each other -/

/-- The next step of a call, with what it has read. -/
inductive InvitationStage where
  | creating (rest : Statements WorkspaceInvitation)
  | permit (request : Revocation)
  | find (request : Revocation)
  | save (invitation : WorkspaceInvitation) (now : Nat)
  | accept (request : Acceptance)
  | accepted (result : Except Exception WorkspaceMembership)
  | ended

/-- How a call begins. -/
def InvitationStage.start (runtime : Runtime) : InvitationRequest → InvitationStage
  | .create workspaceId dto userId => .creating (createInvitation runtime workspaceId dto userId)
  | .revoke request => .permit request
  | .accept request => .accept request

/-- The pending invitation of a revocation. -/
def Directory.revocable? (db : Directory) (request : Revocation) : Option WorkspaceInvitation :=
  db.invitations.find? fun invitation =>
    invitation.id == request.id && invitation.workspaceId == request.workspaceId &&
      invitation.status == .pending

/-- The database with a revoked invitation. -/
def Directory.saveRevoked (db : Directory) (invitation : WorkspaceInvitation) (now : Nat) :
    Directory :=
  { db with
    invitations := Table.save WorkspaceInvitation.id db.invitations
      { invitation with status := .revoked, revokedAt := some now } }

/-- The next step of a call. -/
def InvitationStage.advance (runtime : Runtime) (db : Directory) :
    InvitationStage → Option (Directory × InvitationStage)
  | .creating (.step statement next) => some (statement db, .creating (next db))
  | .permit request =>
      match requireRole db.members request.userId request.workspaceId managers with
      | .ok _ => some (db, .find request)
      | .error _ => some (db, .ended)
  | .find request =>
      match db.revocable? request with
      | some invitation => some (db, .save invitation request.now)
      | none => some (db, .ended)
  | .save invitation now => some (db.saveRevoked invitation now, .ended)
  | .accept request =>
      let (result, reached) := acceptInvitation runtime request db
      some (reached, .accepted result)
  | .creating (.done _) | .accepted _ | .ended => none

/-- The calls of the service. -/
def invitationCalls (runtime : Runtime) :
    Sessions Directory InvitationStage InvitationRequest Unit where
  start db request := (db, some (.start runtime request))
  advance db _ stage _ := stage.advance runtime db

/-! ## What is promised -/

/-- The row of an invitation. -/
def Directory.invitation? (db : Directory) (id : Uuid) : Option WorkspaceInvitation :=
  Table.get? WorkspaceInvitation.id db.invitations id

/-- The pending invitation that an acceptance finds past its expiry. -/
def Directory.expired? (runtime : Runtime) (request : Acceptance) (db : Directory) :
    Option WorkspaceInvitation := do
  let invitation ← db.invited? runtime request.token
  let user ← db.user? request.userId
  if runtime.toLowerCase user.email = runtime.toLowerCase invitation.email ∧
      invitation.status = .pending ∧ invitation.expiresAt ≤ request.now then some invitation
  else none

/-- The workspace can invite the email of an invitation once more. -/
def Directory.Reopens (runtime : Runtime) (db : Directory) (invitation : WorkspaceInvitation) :
    Prop :=
  ∀ dto userId caller, requireRole db.members userId invitation.workspaceId managers = .ok caller →
    (dto.role = .owner → caller.role = .owner) →
    runtime.toLowerCase (runtime.trim dto.email) = invitation.email →
    (∀ other ∈ db.invitations, other.id ≠ dto.invitationId ∧
      other.tokenHash ≠ runtime.sha256 dto.token) →
    ∃ created, ((createInvitation runtime invitation.workspaceId dto userId).alone db).1 =
      .ok created

/-- A state of the calls. -/
abbrev InvitationState := Sessions.State Directory InvitationStage

/-- A step respects the life of invitations: an acceptance that comes too late leaves its
invitation expired, and the email can be invited again; what is decided stays; and an
acceptance that throws changes no member. -/
structure SoundStep (runtime : Runtime) (state : InvitationState)
    (action : Sessions.Action InvitationRequest Unit) : Prop where
  expires : ∀ next index request invitation, action = .advance index () →
    state.sessions[index]? = some (.accept request) →
    state.store.expired? runtime request = some invitation →
    (invitationCalls runtime).step state action = some next →
    (∃ row, next.store.invitation? invitation.id = some row ∧ row.status = .expired) ∧
      next.store.Reopens runtime invitation
  final : ∀ next id row, (invitationCalls runtime).step state action = some next →
    state.store.invitation? id = some row → row.status ≠ .pending →
    ∃ kept, next.store.invitation? id = some kept ∧ kept.status = row.status
  members : ∀ next index request exception, action = .advance index () →
    state.sessions[index]? = some (.accept request) →
    (invitationCalls runtime).step state action = some next →
    next.sessions[index]? = some (.accepted (.error exception)) →
    next.store.workspaceMembers = state.store.workspaceMembers

/-- No acceptance finds a pending invitation past its expiry, and no revocation is saved over an
invitation that was accepted or has expired. -/
def InvitationStage.Timely (runtime : Runtime) (db : Directory) : InvitationStage → Prop
  | .accept request => db.expired? runtime request = none
  | .save invitation _ => ∀ row ∈ db.invitation? invitation.id,
      row.status = .pending ∨ row.status = .revoked
  | _ => True

instance (runtime : Runtime) (db : Directory) (stage : InvitationStage) :
    Decidable (stage.Timely runtime db) :=
  match stage with
  | .accept request => inferInstanceAs (Decidable (db.expired? runtime request = none))
  | .save invitation _ => inferInstanceAs (Decidable (∀ row ∈ db.invitation? invitation.id,
      row.status = .pending ∨ row.status = .revoked))
  | .creating _ | .permit _ | .find _ | .accepted _ | .ended => .isTrue trivial

variable {runtime : Runtime} {db target : Directory} {request : Acceptance}
  {invitation : WorkspaceInvitation} {id : Uuid} {stage next : InvitationStage}
  {state reached : InvitationState} {action : Sessions.Action InvitationRequest Unit}

/-! ## What an acceptance does -/

theorem expired?_eq_some_iff :
    db.expired? runtime request = some invitation ↔
      ∃ user, db.invited? runtime request.token = some invitation ∧
        db.user? request.userId = some user ∧
        runtime.toLowerCase user.email = runtime.toLowerCase invitation.email ∧
        invitation.status = .pending ∧ invitation.expiresAt ≤ request.now := by
  constructor
  · intro expired
    obtain ⟨found, foundEq, expired⟩ := Option.bind_eq_some_iff.mp expired
    obtain ⟨user, userEq, expired⟩ := Option.bind_eq_some_iff.mp expired
    split at expired
    · rename_i late
      cases expired
      exact ⟨user, foundEq, userEq, late⟩
    · cases expired
  · rintro ⟨user, foundEq, userEq, late⟩
    exact Option.bind_eq_some_iff.mpr ⟨invitation, foundEq,
      Option.bind_eq_some_iff.mpr ⟨user, userEq, if_pos late⟩⟩

/-- An acceptance that comes too late throws, and the rollback undoes what it wrote. -/
theorem acceptInvitation_expired (expired : db.expired? runtime request = some invitation) :
    acceptInvitation runtime request db = (.error (.gone "Invitation expired"), db) := by
  obtain ⟨user, foundEq, userEq, sameEmail, pending, late⟩ := expired?_eq_some_iff.mp expired
  apply transaction_eq_error_iff.mpr
  refine ⟨rfl, { db with
    invitations := Table.save WorkspaceInvitation.id db.invitations
      { invitation with status := .expired } }, ?_⟩
  have emailEq : (runtime.toLowerCase user.email == runtime.toLowerCase invitation.email) = true :=
    beq_iff_eq.mpr sameEmail
  have pendingEq : (invitation.status == .pending) = true := beq_iff_eq.mpr pending
  rw [acceptLocked, bind_of_ok (reading_eq_ok_iff.mpr ⟨foundEq, rfl⟩),
    bind_of_ok (orThrow_eq_ok_iff.mpr ⟨rfl, rfl⟩),
    bind_of_ok (reading_eq_ok_iff.mpr ⟨userEq, rfl⟩),
    bind_of_ok (orThrow_eq_ok_iff.mpr ⟨rfl, rfl⟩), emailEq, pending]
  change acceptOpen request invitation _ db = _
  rw [acceptOpen, pendingEq, if_pos late]
  rfl

/-- What an acceptance does with an invitation that is not accepted yet, as a program. -/
theorem acceptPending_alone :
    (acceptPending invitation request.userId request.memberId request.now).alone db =
      transaction (acceptOpen request invitation
        (db.workspaceMember? invitation.workspaceId request.userId)) db := by
  rw [transaction, acceptOpen, acceptPending]
  cases pendingEq : (invitation.status == .pending) with
  | false => rfl
  | true =>
      by_cases late : invitation.expiresAt ≤ request.now
      · rw [if_pos late, decide_eq_false (Nat.not_lt.mpr late)]
        rfl
      · rw [if_neg late, decide_eq_true (Nat.lt_of_not_le late)]
        exact (congrFun Program.transaction_write db).symm

/-- The program of an acceptance does alone what the transaction does. -/
theorem accept_alone :
    (accept runtime request.token request.userId request.memberId request.now).alone db =
      acceptInvitation runtime request db := by
  rw [accept, acceptInvitation, transaction, acceptLocked]
  cases foundEq : db.invited? runtime request.token with
  | none =>
      rw [Directory.invited?] at foundEq
      simp [Directory.invited?, foundEq, Bind.bind, Program.andThen, Program.ask, lookUp, reading,
        orThrow, Program.alone]
  | some invitation =>
      rw [Directory.invited?] at foundEq
      cases userEq : db.user? request.userId with
      | none =>
          rw [Directory.user?] at userEq
          simp [Directory.invited?, Directory.user?, foundEq, userEq, Bind.bind, Program.andThen,
            Program.ask, lookUp, reading, orThrow, Program.alone]
      | some user =>
          rw [Directory.user?] at userEq
          by_cases sameEmail : runtime.toLowerCase user.email = runtime.toLowerCase invitation.email
          · simp only [Directory.invited?, Directory.user?, foundEq, userEq, Bind.bind, id,
              Program.andThen, Program.ask, lookUp, reading, orThrow, Program.alone,
              Program.ensure, sameEmail, BEq.rfl, if_true, require]
            cases statusEq : invitation.status with
            | pending | expired | revoked => exact acceptPending_alone
            | accepted =>
                cases existingEq : db.workspaceMember? invitation.workspaceId request.userId with
                | none =>
                    have pendingEq : (acceptPending invitation request.userId request.memberId
                        request.now).alone db = _ := acceptPending_alone
                    rw [existingEq] at pendingEq
                    refine Eq.trans ?_ pendingEq
                    simp only [Program.query, Program.andThen, Program.alone, existingEq, id]
                | some existing =>
                    simp only [Program.query, Program.andThen, Program.alone, existingEq, id]
                    rfl
          · simp [Directory.invited?, Directory.user?, foundEq, userEq, Bind.bind, id,
              Program.andThen, Program.ask, lookUp, reading, orThrow, Program.alone,
              Program.ensure, sameEmail, require]

/-- An acceptance leaves the directory as it is, or a pending invitation accepted. -/
inductive Accepts (db : Directory) : Directory → Prop where
  | nothing : Accepts db db
  | saves (target : Directory) (invitation : WorkspaceInvitation) (now : Nat)
      (found : invitation ∈ db.invitations) (pending : invitation.status = .pending)
      (saved : target.invitations = Table.save WorkspaceInvitation.id db.invitations
        { invitation with status := .accepted, acceptedAt := some now }) : Accepts db target

theorem acceptOpen_accepts {existing : Option WorkspaceMembership} {member : WorkspaceMembership}
    (found : invitation ∈ db.invitations)
    (acceptEq : acceptOpen request invitation existing db = (.ok member, target)) :
    Accepts db target := by
  obtain ⟨_, _, requireEq, restEq⟩ := bind_eq_ok_iff.mp acceptEq
  obtain ⟨pending, rfl⟩ := require_eq_ok_iff.mp requireEq
  split at restEq
  · obtain ⟨_, _, _, throwEq⟩ := bind_eq_ok_iff.mp restEq
    cases throwEq
  · have commitEq := Program.alone_write_eq_ok_iff.mp restEq
    obtain ⟨_, _, pureEq⟩ := except_bind_eq_ok_iff.mp commitEq
    cases pureEq
    exact .saves _ invitation request.now found (beq_iff_eq.mp pending) rfl

/-- What an acceptance leaves. -/
theorem acceptInvitation_accepts {result : Except Exception WorkspaceMembership}
    (acceptEq : acceptInvitation runtime request db = (result, target)) : Accepts db target := by
  cases result with
  | error exception =>
      obtain rfl := atomic_transaction _ _ _ acceptEq
      exact .nothing
  | ok member =>
      obtain ⟨_, _, readEq, restEq⟩ := bind_eq_ok_iff.mp (transaction_eq_ok_iff.mp acceptEq)
      obtain ⟨rfl, rfl⟩ := reading_eq_ok_iff.mp readEq
      obtain ⟨invitation, _, orEq, restEq⟩ := bind_eq_ok_iff.mp restEq
      obtain ⟨foundEq, rfl⟩ := orThrow_eq_ok_iff.mp orEq
      have found := List.mem_of_find?_eq_some foundEq
      obtain ⟨_, _, readEq, restEq⟩ := bind_eq_ok_iff.mp restEq
      obtain ⟨rfl, rfl⟩ := reading_eq_ok_iff.mp readEq
      obtain ⟨user, _, orEq, restEq⟩ := bind_eq_ok_iff.mp restEq
      obtain ⟨_, rfl⟩ := orThrow_eq_ok_iff.mp orEq
      obtain ⟨_, _, requireEq, restEq⟩ := bind_eq_ok_iff.mp restEq
      obtain ⟨_, rfl⟩ := require_eq_ok_iff.mp requireEq
      obtain ⟨existing, _, readEq, restEq⟩ := bind_eq_ok_iff.mp restEq
      obtain ⟨rfl, rfl⟩ := reading_eq_ok_iff.mp readEq
      cases statusEq : invitation.status with
      | pending | expired | revoked =>
          rw [statusEq] at restEq
          exact acceptOpen_accepts found restEq
      | accepted =>
          rw [statusEq] at restEq
          cases existingEq : db.workspaceMember? invitation.workspaceId request.userId with
          | none =>
              rw [existingEq] at restEq
              exact acceptOpen_accepts found restEq
          | some existing =>
              rw [existingEq] at restEq
              obtain ⟨_, rfl⟩ := pure_eq_ok_iff.mp restEq
              exact .nothing

/-! ## What every step keeps -/

/-- A statement of `create` adds one invitation at most, under a new identifier. -/
inductive Appends (db : Directory) : Directory → Prop where
  | nothing : Appends db db
  | row (invitation : WorkspaceInvitation)
      (fresh : Table.get? WorkspaceInvitation.id db.invitations invitation.id = none) :
      Appends db { db with invitations := db.invitations ++ [invitation] }

theorem createInvitation_each {workspaceId userId : Uuid} {dto : CreateInvitation} :
    (createInvitation runtime workspaceId dto userId).Each Appends := by
  apply Program.Each.bind (Program.each_ask fun _ => Appends.nothing)
  intro caller
  apply Program.Each.bind Program.each_ensure
  intro _
  apply Program.Each.bind (Program.each_query fun _ => Appends.nothing)
  intro pending
  apply Program.Each.bind Program.each_ensure
  intro _
  apply Program.each_write fun _ => Appends.nothing
  intro found created changed changeEq
  obtain ⟨_, admitsEq, pureEq⟩ := except_bind_eq_ok_iff.mp changeEq
  obtain ⟨_, idEq, _⟩ := except_bind_eq_ok_iff.mp admitsEq
  cases pureEq
  apply Appends.row
  apply Table.get?_eq_none_iff.mpr
  intro other otherMem sameId
  have absent := check_eq_ok_iff.mp idEq
  rw [Bool.not_eq_true', List.any_eq_false] at absent
  exact absent other otherMem (beq_iff_eq.mpr sameId)

/-- What is left of a call of `create` is made of its statements. -/
def InvitationStage.Appending : InvitationStage → Prop
  | .creating rest => rest.Each Appends
  | _ => True

/-- Identifiers are unique, and the calls of `create` only add rows. -/
abbrev Kept : InvitationState → Prop :=
  Sessions.Invariant (fun db : Directory => Table.Keyed WorkspaceInvitation.id db.invitations)
    (fun _ stage => stage.Appending) (fun _ _ => True)

theorem Accepts.keyed (accepts : Accepts db target)
    (keyed : Table.Keyed WorkspaceInvitation.id db.invitations) :
    Table.Keyed WorkspaceInvitation.id target.invitations := by
  cases accepts with
  | nothing => exact keyed
  | saves _ invitation now found pending saved =>
      rw [saved]
      exact Table.keyed_save keyed

/-- A step keeps what identifies the invitations. -/
theorem advance_kept (keyed : Table.Keyed WorkspaceInvitation.id db.invitations)
    (appending : stage.Appending)
    (advanceEq : stage.advance runtime db = some (target, next)) :
    Table.Keyed WorkspaceInvitation.id target.invitations ∧ next.Appending := by
  cases stage with
  | creating rest =>
      cases rest with
      | done result => cases advanceEq
      | step statement rest =>
          cases advanceEq
          refine ⟨?_, appending.2 db⟩
          have appends := appending.1 db
          revert appends
          generalize statement db = left
          rintro (_ | ⟨invitation, fresh⟩)
          · exact keyed
          · exact Table.keyed_append keyed fresh
  | permit request =>
      simp only [InvitationStage.advance] at advanceEq
      split at advanceEq
      · cases advanceEq
        exact ⟨keyed, trivial⟩
      · cases advanceEq
        exact ⟨keyed, trivial⟩
  | find request =>
      simp only [InvitationStage.advance] at advanceEq
      split at advanceEq
      · cases advanceEq
        exact ⟨keyed, trivial⟩
      · cases advanceEq
        exact ⟨keyed, trivial⟩
  | save invitation now =>
      cases advanceEq
      exact ⟨Table.keyed_save keyed, trivial⟩
  | accept request =>
      cases advanceEq
      exact ⟨(acceptInvitation_accepts rfl).keyed keyed, trivial⟩
  | accepted result => cases advanceEq
  | ended => cases advanceEq

theorem kept_step (kept : Kept state)
    (stepEq : (invitationCalls runtime).step state action = some reached) : Kept reached := by
  have keeps : Sessions.Keeps (invitationCalls runtime) (fun _ => True) (fun _ _ _ _ => True)
      (fun db : Directory => Table.Keyed WorkspaceInvitation.id db.invitations)
      (fun _ stage => stage.Appending) (fun _ _ => True) := by
    constructor
    · intro db request keyed _
      refine ⟨keyed, fun _ appending => appending, ?_⟩
      intro stage startEq
      cases Option.mem_some.mp startEq
      refine ⟨?_, fun _ => ⟨trivial, trivial⟩⟩
      cases request with
      | create workspaceId dto userId => exact createInvitation_each
      | revoke request => trivial
      | accept request => trivial
    · intro db others stage _ target next leaves _ advanceEq
      obtain ⟨keyed, appending⟩ := advance_kept leaves.holds leaves.owns advanceEq
      exact ⟨keyed, appending, leaves.beside, fun _ _ => ⟨trivial, trivial⟩⟩
  apply keeps.step kept ?_ stepEq
  cases action with
  | start request => trivial
  | advance index choice => exact fun _ _ => trivial

/-! ## What is decided stays -/

theorem Appends.final {row : WorkspaceInvitation} (appends : Appends db target)
    (rowEq : db.invitation? id = some row) : target.invitation? id = some row := by
  cases appends with
  | nothing => exact rowEq
  | row invitation fresh =>
      rw [Directory.invitation?] at rowEq ⊢
      rw [Table.get?_append, rowEq]
      rfl

theorem Accepts.final {row : WorkspaceInvitation} (accepts : Accepts db target)
    (keyed : Table.Keyed WorkspaceInvitation.id db.invitations)
    (rowEq : db.invitation? id = some row) (decided : row.status ≠ .pending) :
    target.invitation? id = some row := by
  cases accepts with
  | nothing => exact rowEq
  | saves _ invitation now found pending saved =>
      rw [Directory.invitation?, saved, Table.get?_save, if_neg]
      · exact rowEq
      · rintro rfl
        have same := (keyed.get?_of_mem found).symm.trans rowEq
        cases same
        exact decided pending

/-- A revocation that is saved in time moves nothing that is decided. -/
theorem saveRevoked_final {row : WorkspaceInvitation} {now : Nat}
    (timely : (InvitationStage.save invitation now).Timely runtime db)
    (rowEq : db.invitation? id = some row) (decided : row.status ≠ .pending) :
    ∃ kept, (db.saveRevoked invitation now).invitation? id = some kept ∧
      kept.status = row.status := by
  rw [Directory.invitation?, Directory.saveRevoked, Table.get?_save]
  split
  · rename_i sameId
    have sameId : invitation.id = id := sameId
    subst sameId
    rcases timely row rowEq with pending | revoked
    · exact absurd pending decided
    · exact ⟨_, rfl, revoked.symm⟩
  · exact ⟨row, rowEq, rfl⟩

/-- A step of a call that is in time moves nothing that is decided. -/
theorem advance_final {row : WorkspaceInvitation}
    (keyed : Table.Keyed WorkspaceInvitation.id db.invitations) (appending : stage.Appending)
    (timely : stage.Timely runtime db)
    (advanceEq : stage.advance runtime db = some (target, next))
    (rowEq : db.invitation? id = some row) (decided : row.status ≠ .pending) :
    ∃ kept, target.invitation? id = some kept ∧ kept.status = row.status := by
  cases stage with
  | creating rest =>
      cases rest with
      | done result => cases advanceEq
      | step statement rest =>
          cases advanceEq
          exact ⟨row, (appending.1 db).final rowEq, rfl⟩
  | permit request =>
      simp only [InvitationStage.advance] at advanceEq
      split at advanceEq
      · cases advanceEq
        exact ⟨row, rowEq, rfl⟩
      · cases advanceEq
        exact ⟨row, rowEq, rfl⟩
  | find request =>
      simp only [InvitationStage.advance] at advanceEq
      split at advanceEq
      · cases advanceEq
        exact ⟨row, rowEq, rfl⟩
      · cases advanceEq
        exact ⟨row, rowEq, rfl⟩
  | save invitation now =>
      cases advanceEq
      exact saveRevoked_final timely rowEq decided
  | accept request =>
      cases advanceEq
      exact ⟨row, (acceptInvitation_accepts rfl).final keyed rowEq decided, rfl⟩
  | accepted result => cases advanceEq
  | ended => cases advanceEq

/-- A step that is in time respects the life of invitations. -/
theorem soundStep_of_timely (kept : Kept state)
    (timely : Sessions.Guard (fun _ => True)
      (fun db _ stage _ => InvitationStage.Timely runtime db stage) state action) :
    SoundStep runtime state action where
  expires := by
    rintro next index request invitation rfl sessionEq expired _
    have late := timely _ sessionEq
    cases late.symm.trans expired
  final := by
    intro next id row stepEq rowEq decided
    rcases Sessions.step_cases stepEq with ⟨request, rfl, rfl⟩ |
      ⟨index, choice, stage, store, session', rfl, sessionEq, advanceEq, rfl⟩
    · exact ⟨row, rowEq, rfl⟩
    · have appending := kept.owns stage (List.mem_of_getElem? sessionEq)
      exact advance_final kept.holds appending (timely stage sessionEq) advanceEq rowEq decided
  members := by
    rintro next index request exception rfl sessionEq stepEq thrownEq
    rcases Sessions.step_cases stepEq with ⟨_, startEq, _⟩ |
      ⟨_, _, stage, store, session', actionEq, stageEq, advanceEq, rfl⟩
    · cases startEq
    · cases actionEq
      cases sessionEq.symm.trans stageEq
      have inside := (List.getElem?_eq_some_iff.mp sessionEq).1
      cases advanceEq
      rw [List.getElem?_set_self inside] at thrownEq
      have failed := InvitationStage.accepted.inj (Option.some.inj thrownEq)
      have same := atomic_transaction _ _ _ (Prod.ext failed rfl)
      exact congrArg Directory.workspaceMembers same.symm

/-- An acceptance that comes too late does not respect the life of its invitation. -/
theorem timely_of_soundStep (kept : Kept state) (sound : SoundStep runtime state action) :
    Sessions.Guard (fun _ => True)
      (fun db _ stage _ => InvitationStage.Timely runtime db stage) state action := by
  cases action with
  | start request => trivial
  | advance index choice =>
      intro stage sessionEq
      cases stage with
      | accept request =>
          by_contra late
          obtain ⟨invitation, expired⟩ := Option.ne_none_iff_exists'.mp late
          obtain ⟨user, foundEq, _, _, pending, _⟩ := expired?_eq_some_iff.mp expired
          have stepEq : (invitationCalls runtime).step state (.advance index choice) =
              some ⟨state.store, state.sessions.set index
                (.accepted (.error (.gone "Invitation expired")))⟩ := by
            apply Option.bind_eq_some_iff.mpr
            refine ⟨_, sessionEq, ?_⟩
            apply Option.map_eq_some_iff.mpr
            refine ⟨(state.store, .accepted (.error (.gone "Invitation expired"))), ?_, rfl⟩
            exact congrArg (fun ended => some (ended.2, InvitationStage.accepted ended.1))
              (acceptInvitation_expired expired)
          obtain ⟨⟨row, rowEq, isExpired⟩, _⟩ :=
            sound.expires _ index request invitation rfl sessionEq expired stepEq
          have found := kept.holds.get?_of_mem (List.mem_of_find?_eq_some foundEq)
          cases found.symm.trans rowEq
          cases pending.symm.trans isExpired
      | save invitation now =>
          intro row rowEq
          by_contra decided
          push Not at decided
          have stepEq : (invitationCalls runtime).step state (.advance index choice) =
              some ⟨state.store.saveRevoked invitation now, state.sessions.set index .ended⟩ := by
            apply Option.bind_eq_some_iff.mpr
            exact ⟨_, sessionEq, rfl⟩
          obtain ⟨kept, keptEq, same⟩ := sound.final _ _ row stepEq rowEq decided.1
          rw [Directory.invitation?, Directory.saveRevoked, Table.get?_save] at keptEq
          rw [if_pos rfl] at keptEq
          cases keptEq
          exact decided.2 same.symm
      | creating _ | permit _ | find _ | accepted _ | ended => trivial

/-- Runs respect the life of invitations when no acceptance finds a pending invitation past its
expiry and no revocation is saved over an invitation that is decided otherwise. -/
theorem invitation_lifecycle
    (keyed : Table.Keyed WorkspaceInvitation.id state.store.invitations)
    (idle : state.sessions = []) {actions : List (Sessions.Action InvitationRequest Unit)} :
    (invitationCalls runtime).step.Meets (SoundStep runtime) state actions ↔
      (invitationCalls runtime).step.Meets (Sessions.Guard (fun _ => True)
        fun db _ stage _ => InvitationStage.Timely runtime db stage) state actions := by
  have start : Kept state := Sessions.Invariant.of_no_sessions keyed idle
  apply Step.meets_iff_of_invariant ?_ ?_ start
  · intro state action next kept stepEq
    exact kept_step kept stepEq
  · intro state action kept
    exact ⟨timely_of_soundStep kept, soundStep_of_timely kept⟩

/-! ## Examples -/

/-- A runtime in which texts are plain and every token is its own digest. -/
def invitationRuntime : Runtime := ⟨fun text => text, fun text => text, fun text => text⟩

/-- A user of the example, by name. -/
def exampleUser (name : String) : User where
  id := uuid name
  email := name
  passwordHash := ""
  role := .viewer
  orgId := uuid "organization"
  isVerified := true
  isActive := true
  inviteTokenHash := none
  inviteExpiresAt := none

/-- A workspace with its owner, a user who is not a member, and no call. -/
def exampleInvitations : InvitationState where
  store :=
    { users := [exampleUser "owner", exampleUser "guest"]
      organizations := []
      organizationMembers := []
      workspaces := []
      workspaceMembers :=
        [{ organizationId := uuid "organization"
           workspaceId := uuid "workspace"
           userId := uuid "owner"
           role := .owner
           status := .active
           id := uuid "member"
           invitedBy := none
           joinedAt := none }]
      invitations := []
      refreshTokens := []
      auditLogs := [] }
  sessions := []

/-- The guest is invited, at time zero. -/
def exampleInvite (id : String) : CreateInvitation where
  email := "guest"
  role := .editor
  invitationId := uuid id
  token := id
  now := 0

/-- The guest accepts the first invitation. -/
def exampleAccept (now : Nat) : Sessions.Action InvitationRequest Unit :=
  .start (.accept ⟨"first", uuid "guest", uuid "guest member", now⟩)

/-- The owner invites the guest. -/
def exampleInvited : List (Sessions.Action InvitationRequest Unit) :=
  [.start (.create (uuid "workspace") (exampleInvite "first") (uuid "owner")),
    .advance 0 (), .advance 0 (), .advance 0 ()]

/-- An invitation that is accepted in time. -/
theorem invitation_lifecycle_example :
    (invitationCalls invitationRuntime).step.Meets (SoundStep invitationRuntime) exampleInvitations
      (exampleInvited ++ [exampleAccept 1, .advance 1 ()]) :=
  (invitation_lifecycle (by decide) rfl).mpr (by decide +kernel)

/-- An invitation that is accepted too late stays pending, and the guest cannot be invited once
more; and a revocation is saved over an invitation that was accepted. -/
theorem invitation_not_final :
    (∃ state, (invitationCalls invitationRuntime).step.run exampleInvitations
        (exampleInvited ++ [exampleAccept (invitationTtl + 1), .advance 1 ()]) = some state ∧
      (state.store.invitation? (uuid "first")).map WorkspaceInvitation.status = some .pending ∧
      ((createInvitation invitationRuntime (uuid "workspace") (exampleInvite "second")
        (uuid "owner")).alone state.store).1 =
          .error (.conflict "A pending invitation already exists")) ∧
    ∃ state next, (invitationCalls invitationRuntime).step.run exampleInvitations
        (exampleInvited ++
          [.start (.revoke ⟨uuid "workspace", uuid "first", uuid "owner", 1⟩), .advance 1 (),
            .advance 1 (), exampleAccept 1, .advance 2 ()]) = some state ∧
      (state.store.invitation? (uuid "first")).map WorkspaceInvitation.status = some .accepted ∧
      (invitationCalls invitationRuntime).step state (.advance 1 ()) = some next ∧
      (next.store.invitation? (uuid "first")).map WorkspaceInvitation.status = some .revoked := by
  constructor
  · exact ⟨_, rfl, by decide +kernel, by decide +kernel⟩
  · exact ⟨_, _, rfl, by decide +kernel, rfl, by decide +kernel⟩

end Manbaa.Workspaces
