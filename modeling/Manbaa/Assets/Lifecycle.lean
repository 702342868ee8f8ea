import Manbaa.Assets.Families
import Manbaa.Lib.SoundRows
import Manbaa.Workspaces.Access

/-!
# How far an asset comes

An asset is drafted, stored or requested, and may be changed, approved or rejected.  A call reads
its row, checks the status that it has read and saves the whole row, whatever has been saved since.

The columns of an approval are those that the families of assets do not look at.
-/

namespace Manbaa.Assets

open Manbaa.Lib Manbaa.Lib.Program
open Manbaa.Workspaces (Members WorkspaceMember WorkspaceRole edit)

/-! ## Rows and calls -/

/-- A row of `asset`, with the columns of its approval. -/
structure AssetRow extends Asset where
  approvedBy : Option Uuid
  approvedAt : Option Nat
  deriving DecidableEq

/-- A new row, which nobody has approved. -/
def Asset.row (asset : Asset) : AssetRow := { asset with approvedBy := none, approvedAt := none }

/-- The tables, and the time. -/
structure AssetStore where
  members : Members
  rows : List AssetRow
  now : Nat
  deriving DecidableEq

/-- The statements of a call. -/
abbrev AssetMethod := Program AssetStore Exception

/-- The tables as the queries on families see them. -/
def AssetStore.db (store : AssetStore) : AssetsDb :=
  ⟨store.members, store.rows.map AssetRow.toAsset⟩

/-- The row of an asset. -/
def AssetStore.row? (store : AssetStore) (assetId : Uuid) : Option AssetRow :=
  Table.get? (fun row : AssetRow => row.id) store.rows assetId

/-- `requireWorkspaceRole`. -/
def requireRoleOf : Uuid → Uuid → Uuid → List WorkspaceRole → AssetMethod WorkspaceMember :=
  Workspaces.requireWorkspaceRole AssetStore.members

/-- `get`. -/
def getRow (organizationId workspaceId assetId : Uuid) : AssetMethod AssetRow :=
  ask fun store =>
    lookUp
      ((store.row? assetId).filter fun row =>
        row.organizationId == organizationId && row.workspaceId == workspaceId)
      (.notFound "Asset not found")

/-- The insertion of a new row. -/
def insertRow (asset : Asset) : AssetMethod AssetRow :=
  write fun store => do
    store.db.admits asset
    pure (asset.row, { store with rows := store.rows ++ [asset.row] })

/-- The save of a row that was read. -/
def saveRow (row : AssetRow) : AssetMethod AssetRow :=
  write fun store =>
    .ok (row, { store with rows := Table.save (fun row : AssetRow => row.id) store.rows row })

/-- `UpdateAssetDto`: what is undefined, or null, or a value. -/
structure UpdateAssetDto where
  title : Option (Option String)
  metadata : Option (Option Json)
  storageKey : Option (Option String)
  thumbnailKey : Option (Option String)

/-- What `update` makes of a row that it has read; a title of null is refused by the column. -/
def UpdateAssetDto.apply (dto : UpdateAssetDto) (row : AssetRow) : Except Exception AssetRow := do
  let title ← lookUp (dto.title.getD (some row.title)) (.queryFailed (.notNullViolation "title"))
  let stored := dto.storageKey.isSome && (row.status == .draft || row.status == .failed)
  pure { row with
    title := title
    metadata := dto.metadata.getD row.metadata
    storageKey := dto.storageKey.getD row.storageKey
    status := if stored then .generated else row.status
    thumbnailKey := dto.thumbnailKey.getD row.thumbnailKey }

/-- `update`. -/
def update (call : AssetCall) (dto : UpdateAssetDto) : AssetMethod AssetRow := do
  let _ ← requireRoleOf call.organizationId call.workspaceId call.userId edit
  let row ← getRow call.organizationId call.workspaceId call.assetId
  let changed ← Program.done (dto.apply row)
  saveRow changed

/-- `approve`. -/
def approve (call : AssetCall) : AssetMethod AssetRow := do
  let _ ← requireRoleOf call.organizationId call.workspaceId call.userId edit
  let row ← getRow call.organizationId call.workspaceId call.assetId
  ensure (row.status == .generated) (.forbidden "Only generated assets can be approved")
  let now ← query AssetStore.now
  saveRow { row with status := .approved, approvedBy := some call.userId, approvedAt := some now }

/-- `reject`. -/
def reject (call : AssetCall) : AssetMethod AssetRow := do
  let _ ← requireRoleOf call.organizationId call.workspaceId call.userId edit
  let row ← getRow call.organizationId call.workspaceId call.assetId
  ensure (row.status == .generated) (.forbidden "Only generated assets can be rejected")
  saveRow { row with status := .rejected }

/-- `create`, with the columns of an approval. -/
def createRow (call : AssetCall) (dto : CreateAssetDto) : AssetMethod AssetRow := do
  let _ ← requireRoleOf call.organizationId call.workspaceId call.userId edit
  insertRow (dto.asset call)

/-- `requestGeneration`, with the columns of an approval. -/
def requestGenerationRow (call : AssetCall) (dto : GenerateAssetDto) : AssetMethod AssetRow := do
  let _ ← requireRoleOf call.organizationId call.workspaceId call.userId edit
  insertRow (dto.asset call)

/-- `requestVariation`, with the columns of an approval. -/
def requestVariationRow (call : AssetCall) (assetId : Uuid) (dto : VariationsAssetDto) :
    AssetMethod AssetRow := do
  let _ ← requireRoleOf call.organizationId call.workspaceId call.userId edit
  let parent ← getRow call.organizationId call.workspaceId assetId
  let latestVersion ← query fun store =>
    store.db.maximumVersion call.organizationId call.workspaceId parent.toAsset.rootId
  insertRow (dto.asset call parent.toAsset latestVersion)

/-- Time passes, or a method is called. -/
inductive LifecycleRequest where
  | wait (elapsed : Nat)
  | create (call : AssetCall) (dto : CreateAssetDto)
  | requestGeneration (call : AssetCall) (dto : GenerateAssetDto)
  | requestVariation (call : AssetCall) (assetId : Uuid) (dto : VariationsAssetDto)
  | update (call : AssetCall) (dto : UpdateAssetDto)
  | approve (call : AssetCall)
  | reject (call : AssetCall)

/-- How a request is answered. -/
def LifecycleRequest.answer : LifecycleRequest → AssetMethod (Option AssetRow)
  | .wait elapsed => do
      write fun store => .ok ((), { store with now := store.now + elapsed })
      pure none
  | .create call dto => do
      let row ← createRow call dto
      pure (some row)
  | .requestGeneration call dto => do
      let row ← requestGenerationRow call dto
      pure (some row)
  | .requestVariation call assetId dto => do
      let row ← requestVariationRow call assetId dto
      pure (some row)
  | .update call dto => do
      let row ← Assets.update call dto
      pure (some row)
  | .approve call => do
      let row ← Assets.approve call
      pure (some row)
  | .reject call => do
      let row ← Assets.reject call
      pure (some row)

/-! ## What a row can have become -/

/-- The call may be made: its user is an editor of the workspace, which is one of the
organization. -/
def AssetCall.IsEditor (call : AssetCall) (members : Members) : Prop :=
  members.Admits call.organizationId call.workspaceId call.userId edit

/-- A call is about the asset. -/
def AssetCall.Concerns (call : AssetCall) (row : AssetRow) : Prop :=
  call.assetId = row.id ∧ call.workspaceId = row.workspaceId ∧
    call.organizationId = row.organizationId

/-- What was asked for accounts for the status of a row: one that was requested stays requested,
one is approved by the editor who is named, with a time, and one is rejected by an editor. -/
structure AssetRow.Accounted (asked : LifecycleRequest → Prop) (members : Members)
    (row : AssetRow) : Prop where
  requested : row.prompt.isSome = true ↔ row.status = .generating
  notFailed : row.status ≠ .failed
  approved : row.status = .approved → row.approvedAt.isSome = true ∧ ∃ call, asked (.approve call) ∧
    call.Concerns row ∧ call.IsEditor members ∧ row.approvedBy = some call.userId
  rejected : row.status = .rejected → ∃ call, asked (.reject call) ∧ call.Concerns row ∧
    call.IsEditor members
  unapproved : row.status ≠ .approved → row.approvedBy = none ∧ row.approvedAt = none

/-- The table of the assets. -/
def assetSheet : Sheet AssetStore Members AssetRow Uuid where
  fixed := AssetStore.members
  rows := AssetStore.rows
  key row := row.id

variable {asked : LifecycleRequest → Prop} {store seen : AssetStore} {row changed : AssetRow}
  {call : AssetCall} {α : Type} {right : α → AssetStore → Prop}

/-- What calls agree on. -/
def assetContract (asked : LifecycleRequest → Prop) : Contract AssetStore :=
  assetSheet.contract (AssetRow.Accounted asked)

/-- What is in the way of an editor: the role, and nothing else. -/
theorem safe_editor_bind {rest : WorkspaceMember → AssetMethod α}
    (valid : (assetContract asked).valid seen)
    (goesOn : ∀ member found, (assetContract asked).valid found → call.IsEditor found.members →
      (rest member).Safe (assetContract asked) right found) :
    (requireRoleOf call.organizationId call.workspaceId call.userId edit >>= rest).Safe
      (assetContract asked) right seen :=
  Workspaces.safe_requireWorkspaceRole_bind (fun _ _ => id) valid goesOn

/-- A row that is read is accounted for, and stays so. -/
theorem safe_getRow_bind {assetId : Uuid} {rest : AssetRow → AssetMethod α}
    (goesOn : ∀ row found, (assetContract asked).valid found → found.members = seen.members →
      row.Accounted asked found.members → row.id = assetId →
      row.organizationId = call.organizationId → row.workspaceId = call.workspaceId →
      (rest row).Safe (assetContract asked) right found) :
    (getRow call.organizationId call.workspaceId assetId >>= rest).Safe (assetContract asked) right
      seen := by
  apply safe_ask_bind
  intro found row valid since readEq
  obtain ⟨rowEq, kept⟩ := Option.filter_eq_some_iff.mp (lookUp_eq_ok_iff.mp readEq)
  obtain ⟨sameOrganization, sameWorkspace⟩ := Bool.and_eq_true_iff.mp kept
  have isIt : assetSheet.key row = assetId := Table.key_of_get? rowEq
  exact goesOn row found valid since (Sheet.Sound.rows valid row (Table.mem_of_get? rowEq))
    isIt (beq_iff_eq.mp sameOrganization) (beq_iff_eq.mp sameWorkspace)

/-- A row that is accounted for may be saved. -/
theorem saveRow_safe (accounted : row.Accounted asked seen.members) :
    (saveRow row).Safe (assetContract asked) (fun _ _ => True) seen := by
  apply safe_write
  rintro found _ _ valid since ⟨⟩
  have sameMembers : found.members = seen.members := since
  refine ⟨Sheet.Sound.save valid rfl rfl ?_, fun _ _ _ => trivial⟩
  change row.Accounted asked found.members
  rw [sameMembers]
  exact accounted

/-- A new row that is accounted for may be inserted. -/
theorem insertRow_safe {asset : Asset} (accounted : asset.row.Accounted asked seen.members) :
    (insertRow asset).Safe (assetContract asked) (fun _ _ => True) seen := by
  apply safe_write
  intro found inserted changed valid since changeEq
  obtain ⟨_, admitted, pairEq⟩ := except_bind_eq_ok_iff.mp changeEq
  cases pairEq
  have sameMembers : found.members = seen.members := since
  refine ⟨Sheet.Sound.append valid rfl rfl ?_ ?_, fun _ _ _ => trivial⟩
  · obtain ⟨_, isNew, _⟩ := except_bind_eq_ok_iff.mp admitted
    have noneTaken := Bool.not_eq_true' _ ▸ check_eq_ok_iff.mp isNew
    apply Table.get?_eq_none_iff.mpr
    intro other otherMem same
    have differs := List.any_eq_false.mp noneTaken other.toAsset (List.mem_map_of_mem otherMem)
    exact differs (beq_iff_eq.mpr same)
  · change asset.row.Accounted asked found.members
    rw [sameMembers]
    exact accounted

/-- A row that is new and not approved is accounted for by what it is. -/
theorem accounted_of_new {asset : Asset} {members : Members}
    (requested : asset.prompt.isSome = true ↔ asset.status = .generating)
    (open_ : asset.status = .draft ∨ asset.status = .generated ∨ asset.status = .generating) :
    asset.row.Accounted asked members := by
  have other : asset.status ≠ .failed ∧ asset.status ≠ .approved ∧ asset.status ≠ .rejected := by
    rcases open_ with status | status | status <;> simp [status]
  exact ⟨requested, other.1, fun isApproved => absurd isApproved other.2.1,
    fun isRejected => absurd isRejected other.2.2, fun _ => ⟨rfl, rfl⟩⟩

/-- What an update makes of a row that is accounted for. -/
theorem UpdateAssetDto.apply_accounted {dto : UpdateAssetDto} {members : Members}
    (accounted : row.Accounted asked members) (applyEq : dto.apply row = .ok changed) :
    changed.Accounted asked members := by
  obtain ⟨title, _, restEq⟩ := except_bind_eq_ok_iff.mp applyEq
  cases stores : dto.storageKey.isSome && (row.status == .draft || row.status == .failed) with
  | false =>
      rw [stores] at restEq
      cases restEq
      exact ⟨accounted.requested, accounted.notFailed, accounted.approved, accounted.rejected,
        accounted.unapproved⟩
  | true =>
      rw [stores] at restEq
      cases restEq
      have isDraft : row.status = .draft := by
        rcases Bool.or_eq_true_iff.mp (Bool.and_eq_true_iff.mp stores).2 with draft | failed
        · exact beq_iff_eq.mp draft
        · exact absurd (beq_iff_eq.mp failed) accounted.notFailed
      have unapproved : row.approvedBy = none ∧ row.approvedAt = none :=
        accounted.unapproved (by simp [isDraft])
      have notRequested : ¬ row.prompt.isSome = true := by
        rw [accounted.requested, isDraft]
        exact nofun
      exact ⟨iff_of_false notRequested nofun, nofun, nofun, nofun, fun _ => unapproved⟩

theorem update_safe {dto : UpdateAssetDto} (valid : (assetContract asked).valid seen) :
    (update call dto).Safe (assetContract asked) (fun _ _ => True) seen := by
  apply safe_editor_bind valid
  intro _ checked _ _
  apply safe_getRow_bind
  intro row found _ _ accounted _ _ _
  cases applyEq : dto.apply row with
  | error error => exact safe_throw
  | ok changed => exact saveRow_safe (UpdateAssetDto.apply_accounted accounted applyEq)

theorem approve_safe (isAsked : asked (.approve call)) (valid : (assetContract asked).valid seen) :
    (approve call).Safe (assetContract asked) (fun _ _ => True) seen := by
  apply safe_editor_bind valid
  intro _ checked _ isEditor
  apply safe_getRow_bind
  intro row found _ sameMembers accounted isIt sameOrganization sameWorkspace
  apply safe_ensure_bind
  intro isGenerated
  have generated : row.status = .generated := beq_iff_eq.mp isGenerated
  apply safe_query_bind
  intro reader _ since
  have readerMembers : reader.members = found.members := since
  apply saveRow_safe
  rw [readerMembers, sameMembers]
  refine ⟨iff_of_false ?_ nofun, nofun, ?_, nofun, fun notApproved => absurd rfl notApproved⟩
  · rw [accounted.requested, generated]
    exact nofun
  · intro _
    exact ⟨rfl, call, isAsked, ⟨isIt.symm, sameWorkspace.symm, sameOrganization.symm⟩, isEditor, rfl⟩

theorem reject_safe (isAsked : asked (.reject call)) (valid : (assetContract asked).valid seen) :
    (reject call).Safe (assetContract asked) (fun _ _ => True) seen := by
  apply safe_editor_bind valid
  intro _ checked _ isEditor
  apply safe_getRow_bind
  intro row found _ sameMembers accounted isIt sameOrganization sameWorkspace
  apply safe_ensure_bind
  intro isGenerated
  have generated : row.status = .generated := beq_iff_eq.mp isGenerated
  apply saveRow_safe
  rw [sameMembers]
  have unapproved : row.approvedBy = none ∧ row.approvedAt = none :=
    accounted.unapproved (by simp [generated])
  refine ⟨iff_of_false ?_ nofun, nofun, nofun, ?_, fun _ => unapproved⟩
  · rw [accounted.requested, generated]
    exact nofun
  · intro _
    exact ⟨call, isAsked, ⟨isIt.symm, sameWorkspace.symm, sameOrganization.symm⟩, isEditor⟩

theorem createRow_safe {dto : CreateAssetDto} (valid : (assetContract asked).valid seen) :
    (createRow call dto).Safe (assetContract asked) (fun _ _ => True) seen := by
  apply safe_editor_bind valid
  intro _ checked _ _
  apply insertRow_safe
  have status : (dto.asset call).status = .generated ∨ (dto.asset call).status = .draft := by
    rw [CreateAssetDto.asset]
    split
    · exact Or.inl rfl
    · exact Or.inr rfl
  apply accounted_of_new
  · refine iff_of_false nofun ?_
    rcases status with status | status <;> simp [status]
  · rcases status with status | status
    · exact Or.inr (Or.inl status)
    · exact Or.inl status

theorem requestGenerationRow_safe {dto : GenerateAssetDto}
    (valid : (assetContract asked).valid seen) :
    (requestGenerationRow call dto).Safe (assetContract asked) (fun _ _ => True) seen := by
  apply safe_editor_bind valid
  intro _ checked _ _
  exact insertRow_safe (accounted_of_new (iff_of_true rfl rfl) (Or.inr (Or.inr rfl)))

theorem requestVariationRow_safe {assetId : Uuid} {dto : VariationsAssetDto}
    (valid : (assetContract asked).valid seen) :
    (requestVariationRow call assetId dto).Safe (assetContract asked) (fun _ _ => True) seen := by
  apply safe_editor_bind valid
  intro _ checked _ _
  apply safe_getRow_bind
  intro parent found _ _ _ _ _ _
  apply safe_query_bind
  intro reader _ _
  exact insertRow_safe (accounted_of_new (iff_of_true rfl rfl) (Or.inr (Or.inr rfl)))

/-- Every request is answered by the contract. -/
theorem lifecycle_safe {request : LifecycleRequest} (isAsked : asked request)
    (valid : (assetContract asked).valid seen) :
    request.answer.Safe (assetContract asked) (fun _ _ => True) seen := by
  have returns : ∀ row? : Option AssetRow, ∀ found, (pure row? : AssetMethod _).Safe
      (assetContract asked) (fun _ _ => True) found :=
    fun _ _ => safe_pure fun _ _ _ => trivial
  cases request with
  | wait elapsed =>
      apply safe_write_bind
      rintro found _ _ foundValid _ ⟨⟩
      exact ⟨Sheet.Sound.same foundValid rfl rfl, returns _ _⟩
  | create call dto => exact (createRow_safe valid).bind valid fun _ _ _ _ _ => returns _ _
  | requestGeneration call dto =>
      exact (requestGenerationRow_safe valid).bind valid fun _ _ _ _ _ => returns _ _
  | requestVariation call assetId dto =>
      exact (requestVariationRow_safe valid).bind valid fun _ _ _ _ _ => returns _ _
  | update call dto => exact (update_safe valid).bind valid fun _ _ _ _ _ => returns _ _
  | approve call => exact (approve_safe isAsked valid).bind valid fun _ _ _ _ _ => returns _ _
  | reject call => exact (reject_safe isAsked valid).bind valid fun _ _ _ _ _ => returns _ _

/-- **How far an asset comes.**  However calls run beside each other and save what they have read
over what others have saved, an asset is approved only by an editor of its workspace who asked for
it and is named with a time, and is rejected only by one; an asset that is not approved names
nobody.  An asset whose generation or variation was requested stays requested for good. -/
theorem asset_lifecycle {state reached : Sessions.State AssetStore (AssetMethod (Option AssetRow))}
    {actions : List (Sessions.Action LifecycleRequest Unit)} (idle : state.sessions = [])
    (empty : state.store.rows = [])
    (runEq : (beside LifecycleRequest.answer).step.run state actions = some reached) :
    ∀ row ∈ reached.store.rows,
      row.Accounted (fun request => .start request ∈ actions) reached.store.members := by
  let asked : LifecycleRequest → Prop := fun request => .start request ∈ actions
  have noRows : assetSheet.Sound (AssetRow.Accounted asked) state.store :=
    Sheet.sound_of_empty empty
  have start : AllSafe (assetContract asked) asked
      (fun _ (_ : Option AssetRow) _ => True) state :=
    allSafe_of_idle idle noRows
  have kept := (start.run (fun _ requested _ => lifecycle_safe requested) (fun _ => id) runEq).1
  exact Sheet.Sound.rows kept.valid

/-! ## Examples -/

/-- A workspace with an editor. -/
def exampleMembers : Members where
  organizationMembers := []
  workspaceMembers := [⟨uuid "org", uuid "workspace", uuid "editor", .editor, .active⟩]

/-- A stored logo, which the editor approves while a mockup is requested. -/
def exampleApproval : List (Sessions.Action LifecycleRequest Unit) :=
  let call (assetId : String) : AssetCall :=
    ⟨uuid "org", uuid "workspace", uuid "editor", uuid assetId⟩
  .start (.create (call "logo")
      ⟨"Logo", .image, none, some "logo.png", none, none, none, none, none, none⟩) ::
    List.replicate 2 (.advance 0 ()) ++
    [.start (.approve (call "logo")),
      .start (.requestGeneration (call "mockup") ⟨"A mockup", .mockup, none⟩)] ++
    (List.replicate 2 [.advance 1 (), .advance 2 ()]).flatten ++ List.replicate 2 (.advance 1 ())

/-- The logo is approved, and the mockup requested. -/
theorem asset_lifecycle_example :
    ∃ reached, (beside LifecycleRequest.answer).step.run ⟨⟨exampleMembers, [], 5⟩, []⟩
        exampleApproval = some reached ∧
      reached.store.rows.map (fun row => (row.status, row.approvedBy)) =
        [(.approved, some (uuid "editor")), (.generating, none)] ∧
      ∀ row ∈ reached.store.rows,
        row.Accounted (fun request => .start request ∈ exampleApproval) reached.store.members := by
  have taken : ((beside LifecycleRequest.answer).step.run ⟨⟨exampleMembers, [], 5⟩, []⟩
      exampleApproval).map (fun reached =>
        reached.store.rows.map fun row => (row.status, row.approvedBy)) =
      some [(.approved, some (uuid "editor")), (.generating, none)] := by
    decide +kernel
  obtain ⟨reached, runEq, rowsEq⟩ := Option.map_eq_some_iff.mp taken
  exact ⟨reached, runEq, rowsEq, asset_lifecycle rfl rfl runEq⟩

end Manbaa.Assets
