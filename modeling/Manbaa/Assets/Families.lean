import Manbaa.Lib.Json
import Manbaa.Lib.Program
import Manbaa.Lib.Table
import Manbaa.Workspaces.Permission

/-!
# Families of assets

An asset is a root, or a later version of one.  A new asset may name a parent, and a request for a
variation looks for the largest version of the family before it inserts the next one.  The queries
and the insertions are statements of their own.
-/

namespace Manbaa.Assets

open Manbaa.Lib Manbaa.Lib.Program
open Manbaa.Workspaces (Members WorkspaceMember WorkspaceRole requireRole edit)

/-! ## Rows -/

/-- The type of an asset. -/
inductive AssetType where
  | image
  | svg
  | mockup
  | thumbnail
  | document
  deriving DecidableEq

/-- The status of an asset. -/
inductive AssetStatus where
  | draft
  | generating
  | generated
  | failed
  | approved
  | rejected
  deriving DecidableEq

/-- A row of `asset`. -/
structure Asset where
  id : Uuid
  organizationId : Uuid
  workspaceId : Uuid
  title : String
  type : AssetType
  status : AssetStatus
  prompt : Option String
  generationParams : Option Json
  storageKey : Option String
  mimeType : Option String
  fileSize : Option Nat
  width : Option Nat
  height : Option Nat
  thumbnailKey : Option String
  metadata : Option Json
  version : Nat
  createdBy : Uuid
  parentId : Option Uuid
  deriving DecidableEq

/-- The tables. -/
structure AssetsDb where
  members : Members
  assets : List Asset
  deriving DecidableEq

/-- The statements of a request. -/
abbrev Statements := Program AssetsDb Exception

/-- The asset that a family starts with. -/
def Asset.rootId (asset : Asset) : Uuid := asset.parentId.getD asset.id

/-! ## Statements -/

/-- `requireWorkspaceRole`. -/
def requireWorkspaceRole (organizationId workspaceId userId : Uuid) (roles : List WorkspaceRole) :
    Statements WorkspaceMember := do
  let member ← ask fun db => requireRole db.members userId workspaceId roles
  ensure (member.organizationId == organizationId) (.forbidden "Workspace access denied")
  pure member

/-- `get`. -/
def get (organizationId workspaceId assetId : Uuid) : Statements Asset :=
  ask fun db =>
    lookUp
      (db.assets.find? fun asset =>
        asset.id == assetId && asset.organizationId == organizationId &&
          asset.workspaceId == workspaceId)
      (.notFound "Asset not found")

/-- The constraints on a new row: its identifier is new, its parent exists, and its title is not
too long. -/
def AssetsDb.admits (db : AssetsDb) (asset : Asset) : Except Exception Unit := do
  check (!db.assets.any fun other => other.id == asset.id)
    (.queryFailed (.uniqueViolation "asset_pkey"))
  check (asset.parentId.all fun parentId => db.assets.any fun other => other.id == parentId)
    (.queryFailed (.foreignKeyViolation "asset_parent_id_fkey"))
  check (decide (asset.title.length ≤ 255)) (.queryFailed (.valueTooLong "title"))

/-- `repo.save` of a new row. -/
def insertAsset (asset : Asset) : Statements Asset :=
  write fun db => do
    db.admits asset
    pure (asset, { db with assets := db.assets ++ [asset] })

/-- `maximum('version', …)` over the children of an asset. -/
def AssetsDb.maximumVersion (db : AssetsDb) (organizationId workspaceId parentId : Uuid) :
    Option Nat :=
  ((db.assets.filter fun asset =>
    asset.organizationId == organizationId && asset.workspaceId == workspaceId &&
      asset.parentId == some parentId).map Asset.version).max?

/-! ## Requests -/

/-- `CreateAssetDto`. -/
structure CreateAssetDto where
  title : String
  type : AssetType
  metadata : Option Json
  storageKey : Option String
  mimeType : Option String
  fileSize : Option Nat
  width : Option Nat
  height : Option Nat
  thumbnailKey : Option String
  parentId : Option Uuid

/-- `GenerateAssetDto`. -/
structure GenerateAssetDto where
  prompt : String
  type : AssetType
  params : Option Json

/-- `VariationsAssetDto`. -/
structure VariationsAssetDto where
  prompt : String
  params : Option Json

/-- Whose call it is, and the identifier that the database generates. -/
structure AssetCall where
  organizationId : Uuid
  workspaceId : Uuid
  userId : Uuid
  assetId : Uuid

/-- `slice(0, limit)`, as the column receives it: a surrogate that is cut off from its pair is
replaced. -/
def slice : Nat → List Char → List Char
  | _, [] => []
  | limit, char :: rest =>
      let units := if char.toNat < 0x10000 then 1 else 2
      if units ≤ limit then char :: slice (limit - units) rest
      else if limit = 1 then ['\uFFFD'] else []

/-- The row of a new asset. -/
def CreateAssetDto.asset (dto : CreateAssetDto) (call : AssetCall) : Asset where
  id := call.assetId
  organizationId := call.organizationId
  workspaceId := call.workspaceId
  title := dto.title
  type := dto.type
  status := if dto.storageKey.any (· != "") then .generated else .draft
  prompt := none
  generationParams := none
  storageKey := dto.storageKey
  mimeType := dto.mimeType
  fileSize := dto.fileSize
  width := dto.width
  height := dto.height
  thumbnailKey := dto.thumbnailKey
  metadata := dto.metadata
  version := 1
  createdBy := call.userId
  parentId := dto.parentId

/-- The row of an asset that is to be generated. -/
def GenerateAssetDto.asset (dto : GenerateAssetDto) (call : AssetCall) : Asset where
  id := call.assetId
  organizationId := call.organizationId
  workspaceId := call.workspaceId
  title := String.ofList (slice 255 dto.prompt.toList)
  type := dto.type
  status := .generating
  prompt := some dto.prompt
  generationParams := dto.params
  storageKey := none
  mimeType := none
  fileSize := none
  width := none
  height := none
  thumbnailKey := none
  metadata := none
  version := 1
  createdBy := call.userId
  parentId := none

/-- The row of a variation. -/
def VariationsAssetDto.asset (dto : VariationsAssetDto) (call : AssetCall) (parent : Asset)
    (latestVersion : Option Nat) : Asset where
  id := call.assetId
  organizationId := call.organizationId
  workspaceId := call.workspaceId
  title := parent.title ++ " variation"
  type := parent.type
  status := .generating
  prompt := some dto.prompt
  generationParams := dto.params
  storageKey := none
  mimeType := none
  fileSize := none
  width := none
  height := none
  thumbnailKey := none
  metadata := none
  version := max parent.version (latestVersion.getD 1) + 1
  createdBy := call.userId
  parentId := some parent.rootId

/-- `create`. -/
def create (call : AssetCall) (dto : CreateAssetDto) : Statements Asset := do
  let _ ← requireWorkspaceRole call.organizationId call.workspaceId call.userId edit
  insertAsset (dto.asset call)

/-- `requestGeneration`. -/
def requestGeneration (call : AssetCall) (dto : GenerateAssetDto) : Statements Asset := do
  let _ ← requireWorkspaceRole call.organizationId call.workspaceId call.userId edit
  insertAsset (dto.asset call)

/-- `requestVariation`. -/
def requestVariation (call : AssetCall) (assetId : Uuid) (dto : VariationsAssetDto) :
    Statements Asset := do
  let _ ← requireWorkspaceRole call.organizationId call.workspaceId call.userId edit
  let parent ← get call.organizationId call.workspaceId assetId
  let latestVersion ← query fun db =>
    db.maximumVersion call.organizationId call.workspaceId parent.rootId
  insertAsset (dto.asset call parent latestVersion)

/-- A call of the service. -/
inductive AssetRequest where
  | create (call : AssetCall) (dto : CreateAssetDto)
  | requestGeneration (call : AssetCall) (dto : GenerateAssetDto)
  | requestVariation (call : AssetCall) (assetId : Uuid) (dto : VariationsAssetDto)

/-- What a call does. -/
def AssetRequest.answer : AssetRequest → Statements Asset
  | .create call dto => Assets.create call dto
  | .requestGeneration call dto => Assets.requestGeneration call dto
  | .requestVariation call assetId dto => Assets.requestVariation call assetId dto

/-! ## What is promised -/

/-- The asset is the root that another one names as its parent, in the same workspace. -/
def Asset.IsParentOf (parent asset : Asset) : Prop :=
  asset.parentId = some parent.id ∧ parent.workspaceId = asset.workspaceId ∧
    parent.parentId = none

instance (parent asset : Asset) : Decidable (parent.IsParentOf asset) :=
  inferInstanceAs (Decidable (_ ∧ _))

/-- Two assets of one family have different versions. -/
def Asset.Differs (first second : Asset) : Prop :=
  first.rootId = second.rootId → first.version ≠ second.version

instance (first second : Asset) : Decidable (first.Differs second) :=
  inferInstanceAs (Decidable (_ → _))

/-- The parent of an asset is a root of its workspace; the versions of a family are distinct, and
no version of it is smaller than that of its root. -/
structure Families (assets : List Asset) : Prop where
  parents : ∀ asset ∈ assets, asset.parentId = none ∨ ∃ parent ∈ assets, parent.IsParentOf asset
  distinct : assets.Pairwise Asset.Differs
  least : ∀ root ∈ assets, ∀ asset ∈ assets, asset.parentId = some root.id →
    root.version ≤ asset.version

/-- A row joins the assets as a root, or with a root of its workspace as its parent and a version
that is new to the family and not smaller than that of the root. -/
def Asset.Joins (assets : List Asset) (asset : Asset) : Prop :=
  asset.parentId = none ∨ (∃ parent ∈ assets, parent.IsParentOf asset) ∧
    (∀ root ∈ assets, asset.parentId = some root.id → root.version ≤ asset.version) ∧
    ∀ other ∈ assets, other.Differs asset

instance (assets : List Asset) (asset : Asset) : Decidable (asset.Joins assets) :=
  inferInstanceAs (Decidable (_ ∨ (∃ parent ∈ assets, _) ∧ (∀ root ∈ assets, _ → _) ∧
    ∀ other ∈ assets, _))

/-- Every row that is added joins the families. -/
def Joined (before after : AssetsDb) : Prop :=
  ∀ asset ∈ after.assets, asset ∉ before.assets → asset.Joins before.assets

instance (before after : AssetsDb) : Decidable (Joined before after) :=
  inferInstanceAs (Decidable (∀ asset ∈ after.assets, asset ∉ before.assets →
    asset.Joins before.assets))

variable {assets : List Asset} {asset : Asset} {before after : AssetsDb}

/-! ## Insertions -/

theorem families_nil : Families [] where
  parents := by simp
  distinct := List.Pairwise.nil
  least := by simp

/-- A new row is the root of nothing yet. -/
theorem Families.rootId_ne (families : Families assets)
    (fresh : ∀ other ∈ assets, other.id ≠ asset.id) :
    ∀ other ∈ assets, other.rootId ≠ asset.id := by
  intro other otherMem sameRoot
  rcases families.parents other otherMem with root | ⟨parent, parentMem, isParent⟩
  · rw [Asset.rootId, root] at sameRoot
    exact fresh other otherMem sameRoot
  · rw [Asset.rootId, isParent.1] at sameRoot
    exact fresh parent parentMem sameRoot

theorem joins_of_families (families : Families (assets ++ [asset])) : asset.Joins assets := by
  have asLast : asset ∈ assets ++ [asset] := List.mem_append_right _ List.mem_cons_self
  rcases families.parents asset asLast with root | ⟨parent, parentMem, isParent⟩
  · exact Or.inl root
  · refine Or.inr ⟨⟨parent, ?_, isParent⟩, ?_, ?_⟩
    · rcases List.mem_append.mp parentMem with old | new
      · exact old
      · rw [List.mem_singleton.mp new] at isParent
        cases isParent.2.2.symm.trans isParent.1
    · intro root rootMem own
      exact families.least root (List.mem_append_left _ rootMem) asset asLast own
    · intro other otherMem
      have distinct := (List.pairwise_append.mp families.distinct).2.2
      exact distinct other otherMem asset List.mem_cons_self

/-- A family starts with a new row that has no parent. -/
theorem families_of_root (families : Families assets)
    (fresh : ∀ other ∈ assets, other.id ≠ asset.id) (root : asset.parentId = none) :
    Families (assets ++ [asset]) where
  parents := by
    intro other otherMem
    rcases List.mem_append.mp otherMem with old | new
    · rcases families.parents other old with isRoot | ⟨parent, parentMem, isParent⟩
      · exact Or.inl isRoot
      · exact Or.inr ⟨parent, List.mem_append_left _ parentMem, isParent⟩
    · rw [List.mem_singleton.mp new]
      exact Or.inl root
  distinct := by
    apply List.pairwise_append.mpr
    refine ⟨families.distinct, List.pairwise_singleton _ _, ?_⟩
    intro other otherMem last lastMem sameRoot
    rw [List.mem_singleton.mp lastMem] at sameRoot
    have rootEq : asset.rootId = asset.id := by rw [Asset.rootId, root, Option.getD_none]
    exact absurd (sameRoot.trans rootEq) (families.rootId_ne fresh other otherMem)
  least := by
    intro first firstMem other otherMem own
    rcases List.mem_append.mp otherMem with old | new
    · rcases List.mem_append.mp firstMem with oldFirst | newFirst
      · exact families.least first oldFirst other old own
      · rw [List.mem_singleton.mp newFirst] at own
        have rootEq : other.rootId = asset.id := by rw [Asset.rootId, own, Option.getD_some]
        exact absurd rootEq (families.rootId_ne fresh other old)
    · rw [List.mem_singleton.mp new, root] at own
      cases own

/-- A family gets another version. -/
theorem families_of_version (families : Families assets)
    (fresh : ∀ other ∈ assets, other.id ≠ asset.id)
    (parented : ∃ parent ∈ assets, parent.IsParentOf asset)
    (least : ∀ root ∈ assets, asset.parentId = some root.id → root.version ≤ asset.version)
    (differs : ∀ other ∈ assets, other.Differs asset) : Families (assets ++ [asset]) where
  parents := by
    intro other otherMem
    rcases List.mem_append.mp otherMem with old | new
    · rcases families.parents other old with isRoot | ⟨parent, parentMem, isParent⟩
      · exact Or.inl isRoot
      · exact Or.inr ⟨parent, List.mem_append_left _ parentMem, isParent⟩
    · rw [List.mem_singleton.mp new]
      obtain ⟨parent, parentMem, isParent⟩ := parented
      exact Or.inr ⟨parent, List.mem_append_left _ parentMem, isParent⟩
  distinct := by
    apply List.pairwise_append.mpr
    refine ⟨families.distinct, List.pairwise_singleton _ _, ?_⟩
    intro other otherMem last lastMem
    rw [List.mem_singleton.mp lastMem]
    exact differs other otherMem
  least := by
    intro first firstMem other otherMem own
    rcases List.mem_append.mp firstMem with oldFirst | newFirst
    · rcases List.mem_append.mp otherMem with old | new
      · exact families.least first oldFirst other old own
      · rw [List.mem_singleton.mp new] at own ⊢
        exact least first oldFirst own
    · rw [List.mem_singleton.mp newFirst] at own ⊢
      rcases List.mem_append.mp otherMem with old | new
      · have rootEq : other.rootId = asset.id := by rw [Asset.rootId, own, Option.getD_some]
        exact absurd rootEq (families.rootId_ne fresh other old)
      · rw [List.mem_singleton.mp new]

/-- A new row keeps the families exactly if it joins them. -/
theorem families_append_iff (families : Families assets)
    (fresh : ∀ other ∈ assets, other.id ≠ asset.id) :
    Families (assets ++ [asset]) ↔ asset.Joins assets := by
  constructor
  · exact joins_of_families
  · rintro (root | ⟨parented, least, differs⟩)
    · exact families_of_root families fresh root
    · exact families_of_version families fresh parented least differs

/-! ## What the service does -/

/-- A statement adds one row at most, under a new identifier. -/
inductive Appends (before : AssetsDb) : AssetsDb → Prop where
  | nothing : Appends before before
  | row (asset : Asset) (fresh : ∀ other ∈ before.assets, other.id ≠ asset.id) :
      Appends before { before with assets := before.assets ++ [asset] }

theorem insertAsset_each : (insertAsset asset).Each Appends := by
  apply each_write fun _ => Appends.nothing
  intro found inserted changed changeEq
  obtain ⟨_, admitsEq, pureEq⟩ := except_bind_eq_ok_iff.mp changeEq
  obtain ⟨_, idEq, _⟩ := except_bind_eq_ok_iff.mp admitsEq
  cases pureEq
  apply Appends.row
  intro other otherMem sameId
  have absent := check_eq_ok_iff.mp idEq
  rw [Bool.not_eq_true', List.any_eq_false] at absent
  exact absent other otherMem (beq_iff_eq.mpr sameId)

theorem requireWorkspaceRole_each {organizationId workspaceId userId : Uuid}
    {roles : List WorkspaceRole} :
    (requireWorkspaceRole organizationId workspaceId userId roles).Each Appends := by
  apply Each.bind (each_ask fun _ => Appends.nothing)
  intro member
  apply Each.bind each_ensure
  intro _
  exact each_pure

/-- What every statement of every call does. -/
theorem answer_each (request : AssetRequest) : request.answer.Each Appends := by
  cases request with
  | create call dto =>
      apply Each.bind requireWorkspaceRole_each
      intro _
      exact insertAsset_each
  | requestGeneration call dto =>
      apply Each.bind requireWorkspaceRole_each
      intro _
      exact insertAsset_each
  | requestVariation call assetId dto =>
      apply Each.bind requireWorkspaceRole_each
      intro _
      apply Each.bind (each_ask fun _ => Appends.nothing)
      intro parent
      apply Each.bind (each_query fun _ => Appends.nothing)
      intro latestVersion
      exact insertAsset_each

theorem families_iff_joined (families : Families before.assets) (appends : Appends before after) :
    Families after.assets ↔ Joined before after := by
  cases appends with
  | nothing => exact iff_of_true families fun _ old new => absurd old new
  | row asset fresh =>
      refine (families_append_iff families fresh).trans ⟨?_, ?_⟩
      · intro joins other otherMem new
        rcases List.mem_append.mp otherMem with old | added
        · exact absurd old new
        · rw [List.mem_singleton.mp added]
          exact joins
      · intro joined
        apply joined asset (List.mem_append_right _ List.mem_cons_self)
        intro old
        exact fresh asset old rfl

/-- An asset that a client gives a parent never joins: it has the version of its root. -/
theorem not_joins_of_create {call : AssetCall} {dto : CreateAssetDto}
    (rows : ∀ other ∈ assets, 1 ≤ other.version) (parented : dto.parentId ≠ none) :
    ¬ (dto.asset call).Joins assets := by
  rintro (root | ⟨⟨parent, parentMem, own, _, isRoot⟩, least, differs⟩)
  · exact parented root
  · have most : parent.version ≤ 1 := least parent parentMem own
    have sameRoot : parent.rootId = (dto.asset call).rootId := by
      rw [Asset.rootId, Asset.rootId, isRoot, own, Option.getD_none, Option.getD_some]
    exact differs parent parentMem sameRoot (Nat.le_antisymm most (rows parent parentMem))

/-! ## Examples -/

/-- An editor of a workspace without assets, and no call. -/
def exampleAssets : Sessions.State AssetsDb (Statements Asset) where
  store :=
    { members :=
        { organizationMembers := []
          workspaceMembers := [⟨uuid "org", uuid "workspace", uuid "editor", .editor, .active⟩] }
      assets := [] }
  sessions := []

/-- A call of the editor. -/
def exampleCall (assetId : String) : AssetCall :=
  ⟨uuid "org", uuid "workspace", uuid "editor", uuid assetId⟩

/-- An image that a client uploads. -/
def exampleCreate (assetId : String) (parentId : Option Uuid) :
    Sessions.Action AssetRequest Unit :=
  .start <| .create (exampleCall assetId)
    ⟨assetId, .image, none, some "key", none, none, none, none, none, parentId⟩

/-- A variation of an asset. -/
def exampleVariation (assetId parentId : String) : Sessions.Action AssetRequest Unit :=
  .start (.requestVariation (exampleCall assetId) (uuid parentId) ⟨"bolder", none⟩)

/-- A call takes its next statements. -/
def advances (index steps : Nat) : List (Sessions.Action AssetRequest Unit) :=
  List.replicate steps (.advance index ())

/-- Two variations of an image, one after the other. -/
def exampleVariations : List (Sessions.Action AssetRequest Unit) :=
  exampleCreate "root" none :: advances 0 2 ++ exampleVariation "second" "root" :: advances 1 4 ++
    exampleVariation "third" "second" :: advances 2 4

end Manbaa.Assets
