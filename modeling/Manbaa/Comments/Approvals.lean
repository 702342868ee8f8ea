import Manbaa.Core.Http
import Manbaa.Lib.Except
import Manbaa.Lib.Json
import Manbaa.Lib.Sessions
import Manbaa.Lib.Table
import Mathlib.Algebra.Order.Floor.Ring
import Mathlib.Data.Rat.Floor
import Mathlib.Tactic.Linarith

/-!
# Approvals of elements

The approvals of a version are fields of its elements, and the elements are one document.  A call
reads the document in one statement, and overwrites it as a whole in a later one, with what it has
approved; nothing is locked.  The progress of a review is a rounded percentage.
-/

namespace Manbaa.Comments

open Manbaa.Lib

/-! ## Elements -/

/-- An element of a version: its identifier and its other fields. -/
structure Element where
  id : String
  fields : List (String × Json)
  deriving DecidableEq

/-- A field of an element. -/
def Element.field? (element : Element) (key : String) : Option Json :=
  (Table.get? Prod.fst element.fields key).map Prod.snd

/-- An element with a field written. -/
def Element.set (element : Element) (key : String) (value : Json) : Element :=
  { element with fields := Table.save Prod.fst element.fields (key, value) }

/-- `el.approved === true`. -/
def Element.approved (element : Element) : Bool := element.field? "approved" == some (.bool true)

/-- `el.archived === true`. -/
def Element.archived (element : Element) : Bool := element.field? "archived" == some (.bool true)

/-- An element that has been approved. -/
def Element.approve (element : Element) (userId : Uuid) (now : String) : Element :=
  ((element.set "approved" (.bool true)).set "approved_by" (.str userId.text)).set "approved_at"
    (.str now)

/-! ## Rows -/

/-- A row of `workflow`, as far as it says whose it is. -/
structure Workflow where
  id : Uuid
  orgId : Uuid
  deriving DecidableEq

/-- A row of `workflow_version` whose elements are an array. -/
structure WorkflowVersion where
  id : Uuid
  workflowId : Uuid
  versionNumber : Int
  elementsJson : List Element
  deriving DecidableEq

/-- A row of the audit log. -/
structure AuditLog where
  workflowId : Uuid
  actorId : Uuid
  eventType : String
  elementId : Option String
  elementIds : Option (List String)
  deriving DecidableEq

/-- The tables. -/
structure ReviewDb where
  workflows : List Workflow
  versions : List WorkflowVersion
  auditLogs : List AuditLog
  deriving DecidableEq

/-- The row of a workflow of an organization. -/
def ReviewDb.workflow? (db : ReviewDb) (workflowId orgId : Uuid) : Option Workflow :=
  db.workflows.find? fun workflow => workflow.id == workflowId && workflow.orgId == orgId

/-- The version with the largest number. -/
def ReviewDb.latestVersion? (db : ReviewDb) (workflowId : Uuid) : Option WorkflowVersion :=
  Table.largest? WorkflowVersion.versionNumber
    (db.versions.filter fun version => version.workflowId == workflowId)

/-- `UPDATE workflow_version SET elements_json = $1 WHERE id = $2`. -/
def ReviewDb.updateElements (db : ReviewDb) (versionId : Uuid) (elements : List Element) :
    ReviewDb :=
  { db with
    versions := db.versions.map fun version =>
      if version.id = versionId then { version with elementsJson := elements } else version }

/-! ## Progress -/

/-- What a review has reached. -/
structure ReviewProgress where
  approvedCount : Nat
  totalCount : Nat
  completionPct : Int
  deriving DecidableEq

/-- The elements that count. -/
def nonArchived (elements : List Element) : List Element := elements.filter fun element =>
  !element.archived

/-- `Math.round`. -/
def mathRound (number : ℚ) : Int := ⌊number + 1 / 2⌋

/-- The progress of a list of elements. -/
def reviewProgress (elements : List Element) : ReviewProgress :=
  let totalCount := (nonArchived elements).length
  let approvedCount := (nonArchived elements).countP Element.approved
  { approvedCount := approvedCount
    totalCount := totalCount
    completionPct :=
      if 0 < totalCount then mathRound ((approvedCount : ℚ) / totalCount * 100) else 0 }

/-- `getReviewProgress`. -/
def getReviewProgress (db : ReviewDb) (workflowId orgId : Uuid) :
    Except Exception ReviewProgress := do
  let _ ← lookUp (db.workflow? workflowId orgId) (.notFound "Workflow not found")
  pure (reviewProgress ((db.latestVersion? workflowId).elim [] WorkflowVersion.elementsJson))

/-! ## Calls -/

/-- A call of `approveElement`, or of `bulkApproveElements` with or without a list. -/
inductive Target where
  | element (elementId : String)
  | elements (elementIds : Option (List String))
  deriving DecidableEq

/-- A call that approves elements. -/
structure Approval where
  workflowId : Uuid
  target : Target
  userId : Uuid
  userRole : UserRole
  orgId : Uuid
  now : String
  deriving DecidableEq

/-- The identifiers that a call approves; without a list, those that are not approved yet. -/
def Target.ids (elements : List Element) : Target → List String
  | .element elementId => [elementId]
  | .elements (some elementIds) => elementIds
  | .elements none => (elements.filter fun element => !element.approved).map Element.id

/-- The checks before the version is read. -/
def Approval.admitted (db : ReviewDb) (request : Approval) : Except Exception Unit := do
  let _ ← lookUp (db.workflow? request.workflowId request.orgId) (.notFound "Workflow not found")
  match request.target with
  | .element _ => pure ()
  | .elements _ =>
      check (request.userRole == .admin || request.userRole == .processOwner)
        (.forbidden "Only Admin or Process Owner can bulk approve")

/-- The elements that a call writes. -/
def Approval.updated (request : Approval) (elements : List Element) : List Element :=
  elements.map fun element =>
    if element.id ∈ request.target.ids elements then element.approve request.userId request.now
    else element

/-- The elements that a call approves. -/
def Approval.approvedIds (request : Approval) (elements : List Element) : List String :=
  (elements.map Element.id).filter (· ∈ request.target.ids elements)

/-- What a call logs. -/
def Approval.entry (request : Approval) (elements : List Element) : AuditLog :=
  match request.target with
  | .element elementId =>
      ⟨request.workflowId, request.userId, "ELEMENT_APPROVED", some elementId, none⟩
  | .elements _ =>
      ⟨request.workflowId, request.userId, "ELEMENTS_BULK_APPROVED", none,
        some (request.approvedIds elements)⟩

/-! ## Calls beside each other -/

/-- The next statement of a call, with what it has read. -/
inductive ReviewStage where
  | findWorkflow (request : Approval)
  | readVersion (request : Approval)
  | update (request : Approval) (versionId : Uuid) (elements : List Element)
  | log (entry : AuditLog) (versionId : Uuid) (approvedIds : List String)
  | acknowledged (versionId : Uuid) (approvedIds : List String)
  | failed (exception : Exception)
  deriving DecidableEq

/-- The next statement of a call. -/
def ReviewStage.advance (db : ReviewDb) : ReviewStage → Option (ReviewDb × ReviewStage)
  | .findWorkflow request =>
      match request.admitted db with
      | .ok _ => some (db, .readVersion request)
      | .error exception => some (db, .failed exception)
  | .readVersion request =>
      match db.latestVersion? request.workflowId with
      | some version => some (db, .update request version.id version.elementsJson)
      | none => some (db, .failed (.notFound "No version found for workflow"))
  | .update request versionId elements =>
      some (db.updateElements versionId (request.updated elements),
        .log (request.entry elements) versionId (request.approvedIds elements))
  | .log entry versionId approvedIds =>
      some ({ db with auditLogs := db.auditLogs ++ [entry] }, .acknowledged versionId approvedIds)
  | .acknowledged _ _ | .failed _ => none

/-- The calls of the service. -/
def approvals : Sessions ReviewDb ReviewStage Approval Unit where
  start db request := (db, some (.findWorkflow request))
  advance db _ stage _ := stage.advance db

/-! ## What is promised -/

/-- The fields that an approval writes. -/
def approvalKeys : List String := ["approved", "approved_by", "approved_at"]

/-- Two elements differ by their approval at most. -/
def Element.SameContent (element other : Element) : Prop :=
  element.id = other.id ∧ ∀ key, key ∉ approvalKeys → element.field? key = other.field? key

/-- The element is approved, if it is there. -/
def ApprovedIn (elements : List Element) (id : String) : Prop :=
  ∀ element ∈ elements, element.id = id → element.approved = true

/-- A hundred percent are reported exactly if no element is missing. -/
def ExactProgress (elements : List Element) (progress : ReviewProgress) : Prop :=
  nonArchived elements ≠ [] →
    (progress.completionPct = 100 ↔ ∀ element ∈ nonArchived elements, element.approved = true)

/-- The review of a version: what was approved is approved, the elements are those of the version
but for their approvals, and the progress is exact. -/
structure Reviewed (versionId : Uuid) (original : List Element)
    (state : Sessions.State ReviewDb ReviewStage) : Prop where
  approvals : ∀ approvedIds, .acknowledged versionId approvedIds ∈ state.sessions →
    ∀ version ∈ state.store.versions, version.id = versionId →
      ∀ id ∈ approvedIds, ApprovedIn version.elementsJson id
  content : ∀ version ∈ state.store.versions, version.id = versionId →
    List.Forall₂ Element.SameContent original version.elementsJson
  progress : ∀ version workflowId orgId progress,
    state.store.latestVersion? workflowId = some version → version.id = versionId →
    getReviewProgress state.store workflowId orgId = .ok progress →
    ExactProgress version.elementsJson progress

/-- How many elements that count are not approved. -/
def missing (elements : List Element) : Nat := (nonArchived elements).countP fun element =>
  !element.approved

/-- The rounding does not hide the elements that are not approved. -/
def RoundsDown (elements : List Element) : Prop :=
  missing elements = 0 ∨ (nonArchived elements).length < 200 * missing elements

instance (elements : List Element) : Decidable (RoundsDown elements) :=
  inferInstanceAs (Decidable (_ ∨ _))

instance (elements : List Element) (id : String) : Decidable (ApprovedIn elements id) :=
  inferInstanceAs (Decidable (∀ element ∈ elements, _ → _))

/-- What a call writes contains every approval of the version that it overwrites, and leaves no
element or more than one of two hundred to be approved. -/
def ReviewStage.Preserves (db : ReviewDb) : ReviewStage → Prop
  | .update request versionId elements =>
      (∀ version ∈ db.versions, version.id = versionId →
        ∀ element ∈ version.elementsJson, element.approved = true →
          ApprovedIn (request.updated elements) element.id) ∧
      RoundsDown (request.updated elements)
  | _ => True

instance (db : ReviewDb) (stage : ReviewStage) : Decidable (stage.Preserves db) :=
  match stage with
  | .update _ _ _ => inferInstanceAs (Decidable (_ ∧ _))
  | .findWorkflow _ | .readVersion _ | .log _ _ _ | .acknowledged _ _ | .failed _ => .isTrue trivial

variable {db target : ReviewDb} {stage next : ReviewStage} {request : Approval}
  {elements original : List Element} {element other : Element} {versionId : Uuid}

/-! ## Progress is exact where the rounding hides nothing -/

theorem missing_eq_zero_iff :
    missing elements = 0 ↔ ∀ element ∈ nonArchived elements, element.approved = true := by
  rw [missing, List.countP_eq_zero]
  simp

/-- A hundred percent: at most one of two hundred elements is missing. -/
theorem completionPct_eq_hundred_iff (counted : nonArchived elements ≠ []) :
    (reviewProgress elements).completionPct = 100 ↔
      200 * missing elements ≤ (nonArchived elements).length := by
  have positive : 0 < (nonArchived elements).length := List.length_pos_of_ne_nil counted
  have total : (nonArchived elements).length =
      (nonArchived elements).countP Element.approved + missing elements := by
    rw [List.length_eq_countP_add_countP Element.approved, missing]
    simp
  have rationals : (0 : ℚ) < (nonArchived elements).length := by exact_mod_cast positive
  rw [reviewProgress]
  dsimp only
  rw [if_pos positive, mathRound, Int.floor_eq_iff]
  generalize (nonArchived elements).length = totalCount at *
  generalize (nonArchived elements).countP Element.approved = approvedCount at *
  have cleared : (approvedCount : ℚ) / totalCount * 100 = approvedCount * 100 / totalCount := by
    rw [div_mul_eq_mul_div]
  have totalEq : (totalCount : ℚ) = approvedCount + missing elements := by exact_mod_cast total
  rw [cleared]
  constructor
  · rintro ⟨least, _⟩
    have half : (199 / 2 : ℚ) ≤ approvedCount * 100 / totalCount := by
      push_cast at least
      linarith
    rw [le_div_iff₀ rationals] at half
    have bound : (200 * missing elements : ℚ) ≤ totalCount := by linarith
    exact_mod_cast bound
  · intro bound
    have bound : (200 * missing elements : ℚ) ≤ totalCount := by exact_mod_cast bound
    have nonneg : (0 : ℚ) ≤ missing elements := Nat.cast_nonneg _
    constructor
    · have half : (199 / 2 : ℚ) ≤ approvedCount * 100 / totalCount := by
        rw [le_div_iff₀ rationals]
        linarith
      push_cast
      linarith
    · have most : (approvedCount * 100 / totalCount : ℚ) ≤ 100 := by
        rw [div_le_iff₀ rationals]
        linarith
      push_cast
      linarith

/-- The progress of elements is exact exactly if the rounding hides nothing. -/
theorem exactProgress_iff (counted : nonArchived elements ≠ []) :
    ExactProgress elements (reviewProgress elements) ↔ RoundsDown elements := by
  rw [ExactProgress, completionPct_eq_hundred_iff counted, ← missing_eq_zero_iff, RoundsDown]
  constructor
  · intro exact
    have same := exact counted
    by_cases none : missing elements = 0
    · exact Or.inl none
    · exact Or.inr (Nat.lt_of_not_le fun bound => none (same.mp bound))
  · rintro (none | more) _
    · rw [none]
      exact iff_of_true (Nat.zero_le _) rfl
    · refine iff_of_false (Nat.not_le.mpr more) ?_
      intro none
      rw [none] at more
      cases more

theorem exactProgress_of_roundsDown (rounds : RoundsDown elements) :
    ExactProgress elements (reviewProgress elements) := by
  intro counted
  exact (exactProgress_iff counted).mpr rounds counted

/-- What is reported is the progress of the latest version. -/
theorem getReviewProgress_eq {workflowId orgId : Uuid} {progress : ReviewProgress}
    {version : WorkflowVersion} (latestEq : db.latestVersion? workflowId = some version)
    (progressEq : getReviewProgress db workflowId orgId = .ok progress) :
    progress = reviewProgress version.elementsJson := by
  obtain ⟨_, _, pureEq⟩ := except_bind_eq_ok_iff.mp progressEq
  cases pureEq
  rw [latestEq]
  rfl

/-! ## What an approval writes -/

theorem field?_set {key wanted : String} {value : Json} :
    (element.set key value).field? wanted =
      if key = wanted then some value else element.field? wanted := by
  rw [Element.field?, Element.set, Table.get?_save]
  split
  · rfl
  · rfl

theorem approved_approve {userId : Uuid} {now : String} :
    (element.approve userId now).approved = true := by
  rw [Element.approved, Element.approve, field?_set, field?_set, field?_set]
  rfl

theorem sameContent_refl (element : Element) : element.SameContent element :=
  ⟨rfl, fun _ _ => rfl⟩

theorem sameContent_approve {userId : Uuid} {now : String} (same : other.SameContent element) :
    other.SameContent (element.approve userId now) := by
  refine ⟨same.1, ?_⟩
  intro key otherKey
  simp only [approvalKeys, List.mem_cons, List.not_mem_nil, or_false, not_or] at otherKey
  rw [Element.approve, field?_set, field?_set, field?_set, if_neg (Ne.symm otherKey.2.2),
    if_neg (Ne.symm otherKey.2.1), if_neg (Ne.symm otherKey.1)]
  exact same.2 key (by simp [approvalKeys, otherKey])

/-- A call leaves the elements as they are, but for its approvals. -/
theorem content_updated (content : List.Forall₂ Element.SameContent original elements) :
    List.Forall₂ Element.SameContent original (request.updated elements) := by
  rw [Approval.updated, List.forall₂_map_right_iff]
  apply content.imp
  intro first second same
  split
  · exact sameContent_approve same
  · exact same

/-- A call approves the elements that it says it has approved. -/
theorem approvedIn_updated {id : String} (idMem : id ∈ request.approvedIds elements) :
    ApprovedIn (request.updated elements) id := by
  intro written writtenMem sameId
  obtain ⟨element, elementMem, rfl⟩ := List.mem_map.mp writtenMem
  have isTarget := of_decide_eq_true (List.mem_filter.mp idMem).2
  by_cases own : element.id ∈ request.target.ids elements
  · rw [if_pos own]
    exact approved_approve
  · rw [if_neg own] at sameId
    rw [sameId] at own
    exact absurd isTarget own

/-- Lists with the same content have the same identifiers. -/
theorem ids_eq_of_content (content : List.Forall₂ Element.SameContent original elements) :
    original.map Element.id = elements.map Element.id := by
  induction content with
  | nil => rfl
  | cons same _ ih => rw [List.map_cons, List.map_cons, same.1, ih]

/-! ## Versions -/

theorem mem_updateElements_iff {version : WorkflowVersion} :
    version ∈ (db.updateElements versionId elements).versions ↔
      (version.id = versionId ∧ version.elementsJson = elements ∧
        ∃ old ∈ db.versions, { old with elementsJson := elements } = version) ∨
      (version.id ≠ versionId ∧ version ∈ db.versions) := by
  rw [ReviewDb.updateElements, List.mem_map]
  constructor
  · rintro ⟨old, oldMem, rfl⟩
    by_cases own : old.id = versionId
    · rw [if_pos own]
      exact Or.inl ⟨own, rfl, old, oldMem, rfl⟩
    · rw [if_neg own]
      exact Or.inr ⟨own, oldMem⟩
  · rintro (⟨own, _, old, oldMem, rfl⟩ | ⟨ne, versionMem⟩)
    · exact ⟨old, oldMem, if_pos own⟩
    · exact ⟨version, versionMem, if_neg ne⟩

theorem mem_of_latestVersion? {workflowId : Uuid} {version : WorkflowVersion}
    (latestEq : db.latestVersion? workflowId = some version) : version ∈ db.versions :=
  List.mem_of_mem_filter (Table.mem_of_largest? latestEq)

/-! ## What calls rely on -/

/-- The versions with an identifier have the content of the original, and their progress is
exact. -/
structure Unchanged (versionId : Uuid) (original : List Element) (db : ReviewDb) : Prop where
  content : ∀ version ∈ db.versions, version.id = versionId →
    List.Forall₂ Element.SameContent original version.elementsJson
  rounds : ∀ version ∈ db.versions, version.id = versionId → RoundsDown version.elementsJson

/-- The elements that a call has approved are approved. -/
def Holds (versionId : Uuid) (db : ReviewDb) (approvedIds : List String) : Prop :=
  ∀ version ∈ db.versions, version.id = versionId →
    ∀ id ∈ approvedIds, ApprovedIn version.elementsJson id

/-- What a call may rely on. -/
def ReviewStage.Owns (versionId : Uuid) (original : List Element) (db : ReviewDb) :
    ReviewStage → Prop
  | .update _ id elements => id = versionId → List.Forall₂ Element.SameContent original elements
  | .log _ id approvedIds | .acknowledged id approvedIds => id = versionId →
      Holds versionId db approvedIds
  | _ => True

/-- An approval that was there is still there after another call has written its own. -/
theorem holds_update {approvedIds : List String} (unchanged : Unchanged versionId original db)
    (content : List.Forall₂ Element.SameContent original (request.updated elements))
    (preserves : (ReviewStage.update request versionId elements).Preserves db)
    (holds : Holds versionId db approvedIds) :
    Holds versionId (db.updateElements versionId (request.updated elements)) approvedIds := by
  intro version versionMem own id idMem written writtenMem sameId
  rcases mem_updateElements_iff.mp versionMem with ⟨_, elementsEq, old, oldMem, oldEq⟩ | ⟨ne, _⟩
  · rw [elementsEq] at writtenMem
    have oldOwn : old.id = versionId := by
      rw [← own, ← oldEq]
    -- The element that is written stands in the place of one of the version before.
    have sameIds := (ids_eq_of_content (unchanged.content old oldMem oldOwn)).symm.trans
      (ids_eq_of_content content)
    have present : id ∈ old.elementsJson.map Element.id := by
      rw [sameIds]
      exact List.mem_map.mpr ⟨written, writtenMem, sameId⟩
    obtain ⟨element, elementMem, elementId⟩ := List.mem_map.mp present
    have approved := holds old oldMem oldOwn id idMem element elementMem elementId
    have kept := preserves.1 old oldMem oldOwn element elementMem approved
    rw [elementId] at kept
    exact kept written writtenMem sameId
  · exact absurd own ne

/-- A call that writes another version leaves this one alone. -/
theorem mem_updateElements_of_ne {id : Uuid} {version : WorkflowVersion} (ne : id ≠ versionId)
    (versionMem : version ∈ (db.updateElements id elements).versions)
    (own : version.id = versionId) : version ∈ db.versions := by
  rcases mem_updateElements_iff.mp versionMem with ⟨other, _⟩ | ⟨_, old⟩
  · exact absurd (other.symm.trans own) ne
  · exact old

theorem owns_update {id : Uuid} (unchanged : Unchanged versionId original db)
    (content : id = versionId →
      List.Forall₂ Element.SameContent original (request.updated elements))
    (preserves : (ReviewStage.update request id elements).Preserves db)
    (owns : stage.Owns versionId original db) :
    stage.Owns versionId original (db.updateElements id (request.updated elements)) := by
  have transfer : ∀ approvedIds, Holds versionId db approvedIds →
      Holds versionId (db.updateElements id (request.updated elements)) approvedIds := by
    intro approvedIds holds
    by_cases same : id = versionId
    · subst same
      exact holds_update unchanged (content rfl) preserves holds
    · intro version versionMem own
      exact holds version (mem_updateElements_of_ne same versionMem own) own
  cases stage with
  | update _ _ _ => exact owns
  | log entry other approvedIds | acknowledged other approvedIds =>
      exact fun same => transfer approvedIds (owns same)
  | findWorkflow _ | readVersion _ | failed _ => trivial

theorem unchanged_update {id : Uuid} (unchanged : Unchanged versionId original db)
    (content : id = versionId →
      List.Forall₂ Element.SameContent original (request.updated elements))
    (rounds : RoundsDown (request.updated elements)) :
    Unchanged versionId original (db.updateElements id (request.updated elements)) := by
  constructor
  · intro version versionMem own
    rcases mem_updateElements_iff.mp versionMem with ⟨written, elementsEq, _⟩ | ⟨_, old⟩
    · rw [elementsEq]
      exact content (written.symm.trans own)
    · exact unchanged.content version old own
  · intro version versionMem own
    rcases mem_updateElements_iff.mp versionMem with ⟨_, elementsEq, _⟩ | ⟨_, old⟩
    · rw [elementsEq]
      exact rounds
    · exact unchanged.rounds version old own

/-- The calls keep the review of a version. -/
theorem keeps_review (versionId : Uuid) (original : List Element) :
    approvals.Keeps (fun _ => True) (fun db _ stage _ => stage.Preserves db)
      (Unchanged versionId original) (ReviewStage.Owns versionId original) (fun _ _ => True) where
  started := by
    intro db request unchanged _
    refine ⟨unchanged, fun _ owns => owns, ?_⟩
    intro stage startEq
    cases Option.mem_some.mp startEq
    exact ⟨trivial, fun _ => ⟨trivial, trivial⟩⟩
  advanced := by
    intro db others stage _ target next leaves preserves advanceEq
    have advanceEq : stage.advance db = some (target, next) := advanceEq
    cases stage with
    | findWorkflow request =>
        rw [ReviewStage.advance] at advanceEq
        split at advanceEq
        · cases advanceEq
          exact ⟨leaves.holds, trivial, leaves.beside, leaves.parts⟩
        · cases advanceEq
          exact ⟨leaves.holds, trivial, leaves.beside, leaves.parts⟩
    | readVersion request =>
        rw [ReviewStage.advance] at advanceEq
        split at advanceEq
        · rename_i version latestEq
          cases advanceEq
          have versionMem := mem_of_latestVersion? latestEq
          exact ⟨leaves.holds, leaves.holds.content version versionMem, leaves.beside,
            leaves.parts⟩
        · cases advanceEq
          exact ⟨leaves.holds, trivial, leaves.beside, leaves.parts⟩
    | update request id elements =>
        cases advanceEq
        have content : id = versionId →
            List.Forall₂ Element.SameContent original (request.updated elements) :=
          fun same => content_updated (leaves.owns same)
        refine ⟨unchanged_update leaves.holds content preserves.2, ?_, ?_, leaves.parts⟩
        · rintro rfl version versionMem own approvedId approvedMem
          rcases mem_updateElements_iff.mp versionMem with ⟨_, elementsEq, _⟩ | ⟨ne, _⟩
          · rw [elementsEq]
            exact approvedIn_updated approvedMem
          · exact absurd own ne
        · intro other otherMem
          exact owns_update leaves.holds content preserves (leaves.beside other otherMem)
    | log entry id approvedIds =>
        cases advanceEq
        refine ⟨⟨leaves.holds.content, leaves.holds.rounds⟩, leaves.owns, ?_, leaves.parts⟩
        intro other otherMem
        have owns := leaves.beside other otherMem
        cases other with
        | update _ _ _ => exact owns
        | log _ _ _ | acknowledged _ _ => exact owns
        | findWorkflow _ | readVersion _ | failed _ => trivial
    | acknowledged id approvedIds => cases advanceEq
    | failed exception => cases advanceEq

/-- In runs in which every call writes a document that contains the approvals of the version, and
the rounding hides nothing, no approval of a version is lost, and its progress is exact. -/
theorem approvals_reviewed {state reached : Sessions.State ReviewDb ReviewStage}
    {actions : List (Sessions.Action Approval Unit)}
    (start : ∀ version ∈ state.store.versions, version.id = versionId →
      version.elementsJson = original ∧ RoundsDown original)
    (idle : state.sessions = [])
    (met : approvals.step.Meets
      (Sessions.Guard (fun _ => True) fun db _ stage _ => stage.Preserves db) state actions)
    (runEq : approvals.step.run state actions = some reached) :
    Reviewed versionId original reached := by
  have unchanged : Unchanged versionId original state.store := by
    constructor
    · intro version versionMem own
      rw [(start version versionMem own).1]
      exact List.forall₂_same.mpr fun element _ => sameContent_refl element
    · intro version versionMem own
      obtain ⟨elementsEq, rounds⟩ := start version versionMem own
      rw [elementsEq]
      exact rounds
  have invariant := (keeps_review versionId original).run
    (Sessions.Invariant.of_no_sessions unchanged idle) met runEq
  constructor
  · intro approvedIds acknowledged version versionMem own
    exact invariant.owns _ acknowledged rfl version versionMem own
  · exact invariant.holds.content
  · intro version workflowId orgId progress latestEq own progressEq
    rw [getReviewProgress_eq latestEq progressEq]
    exact exactProgress_of_roundsDown
      (invariant.holds.rounds version (mem_of_latestVersion? latestEq) own)

/-! ## Examples -/

/-- A version with some elements, and no call. -/
def exampleReview (elements : List Element) : Sessions.State ReviewDb ReviewStage where
  store :=
    { workflows := [⟨uuid "workflow", uuid "org"⟩]
      versions := [⟨uuid "version", uuid "workflow", 1, elements⟩]
      auditLogs := [] }
  sessions := []

/-- A call of a process owner. -/
def exampleApproval (target : Target) : Sessions.Action Approval Unit :=
  .start ⟨uuid "workflow", target, uuid "owner", .processOwner, uuid "org", "now"⟩

/-- Two tasks that nobody has approved yet. -/
def exampleElements : List Element := [⟨"a", []⟩, ⟨"b", []⟩]

/-- Many elements that have been approved. -/
def exampleApproved : List Element :=
  (List.range 198).map fun n => ⟨toString n, [("approved", .bool true)]⟩

/-- Two approvals, one after the other. -/
def exampleApprovals : List (Sessions.Action Approval Unit) :=
  exampleApproval (.element "a") :: List.replicate 4 (.advance 0 ()) ++
    exampleApproval (.elements none) :: List.replicate 4 (.advance 1 ())

/-- Approvals that do not overlap are kept. -/
theorem approvals_reviewed_example :
    ∃ reached, approvals.step.run (exampleReview exampleElements) exampleApprovals =
        some reached ∧ Reviewed (uuid "version") exampleElements reached := by
  have start : ∀ version ∈ (exampleReview exampleElements).store.versions,
      version.id = uuid "version" →
        version.elementsJson = exampleElements ∧ RoundsDown exampleElements := by
    decide +kernel
  have met : approvals.step.Meets
      (Sessions.Guard (fun _ => True) fun db _ stage _ => stage.Preserves db)
      (exampleReview exampleElements) exampleApprovals := by
    decide +kernel
  have taken : (approvals.step.run (exampleReview exampleElements) exampleApprovals).isSome := by
    decide +kernel
  obtain ⟨reached, runEq⟩ := Option.isSome_iff_exists.mp taken
  exact ⟨reached, runEq, approvals_reviewed start rfl met runEq⟩

/-- Of two approvals that overlap, the one that is written first is lost; and a review reports a
hundred percent when one of two hundred elements is missing. -/
theorem approvals_lost :
    (approvals.step.run (exampleReview exampleElements)
        [exampleApproval (.element "a"), exampleApproval (.element "b"), .advance 0 (),
          .advance 0 (), .advance 1 (), .advance 1 (), .advance 0 (), .advance 0 (),
          .advance 1 (), .advance 1 ()]).map (fun state =>
        (state.sessions, state.store.versions.map fun version =>
          version.elementsJson.map Element.approved)) =
      some ([.acknowledged (uuid "version") ["a"], .acknowledged (uuid "version") ["b"]],
        [[false, true]]) ∧
    (approvals.step.run (exampleReview (exampleApproved ++ exampleElements))
        (exampleApproval (.element "a") :: List.replicate 4 (.advance 0 ()))).map
        (fun state => getReviewProgress state.store (uuid "workflow") (uuid "org")) =
      some (.ok ⟨199, 200, 100⟩) := by
  decide +kernel

end Manbaa.Comments
