import Manbaa.Assets.Families
import Manbaa.Lib.SoundRows
import Manbaa.Workspaces.Access

/-!
# How far a concept comes

A concept is drafted or requested, and may be changed, evaluated, approved, rejected or archived.
A call reads its row, checks the status that it has read and saves the whole row, whatever has been
saved since.

Only a generated concept can be evaluated, approved or rejected, and nothing generates one.
-/

namespace Manbaa.Concepts

open Manbaa.Lib Manbaa.Lib.Program
open Manbaa.Assets (slice)
open Manbaa.Workspaces (Members WorkspaceMember WorkspaceRole edit)

/-! ## Rows and calls -/

/-- `ConceptStatus`. -/
inductive ConceptStatus where
  | draft
  | generating
  | generated
  | failed
  | evaluating
  | evaluated
  | approved
  | rejected
  | archived
  deriving DecidableEq

/-- A row of `concept`. -/
structure Concept where
  id : Uuid
  organizationId : Uuid
  workspaceId : Uuid
  title : String
  description : Option String
  status : ConceptStatus
  prompt : Option String
  generationParams : Option Json
  resultData : Option Json
  evaluationScore : Option ℚ
  evaluationFeedback : Option String
  version : Nat
  createdBy : Uuid
  approvedBy : Option Uuid
  approvedAt : Option Nat
  deriving DecidableEq

/-- The tables, and the time. -/
structure ConceptStore where
  members : Members
  concepts : List Concept
  now : Nat
  deriving DecidableEq

/-- The statements of a call. -/
abbrev ConceptMethod := Program ConceptStore Exception

/-- Whose call it is, and the concept it is about; a new one gets its id from the database. -/
structure ConceptCall where
  organizationId : Uuid
  workspaceId : Uuid
  userId : Uuid
  conceptId : Uuid
  deriving DecidableEq

/-- `requireWorkspaceRole`. -/
def requireWorkspaceRole : Uuid → Uuid → Uuid → List WorkspaceRole → ConceptMethod WorkspaceMember :=
  Workspaces.requireWorkspaceRole ConceptStore.members

/-- `get`. -/
def get (organizationId workspaceId conceptId : Uuid) : ConceptMethod Concept :=
  ask fun store =>
    lookUp
      ((Table.get? Concept.id store.concepts conceptId).filter fun concept =>
        concept.organizationId == organizationId && concept.workspaceId == workspaceId)
      (.notFound "Concept not found")

/-- `repo.save` of a new concept. -/
def insertConcept (concept : Concept) : ConceptMethod Concept :=
  write fun store => do
    check (Table.get? Concept.id store.concepts concept.id).isNone
      (.queryFailed (.uniqueViolation "concept_pkey"))
    check (decide (concept.title.length ≤ 255)) (.queryFailed (.valueTooLong "title"))
    pure (concept, { store with concepts := store.concepts ++ [concept] })

/-- `repo.save` of a concept that was read. -/
def saveConcept (concept : Concept) : ConceptMethod Concept :=
  write fun store =>
    .ok (concept, { store with concepts := Table.save Concept.id store.concepts concept })

/-- `CreateConceptDto`. -/
structure CreateConceptDto where
  title : String
  description : Option String

/-- `GenerateConceptDto`. -/
structure GenerateConceptDto where
  prompt : String
  params : Option Json

/-- `UpdateConceptDto`: what is undefined, or null, or a value. -/
structure UpdateConceptDto where
  title : Option (Option String)
  description : Option (Option String)

/-- `EvaluateConceptDto`. -/
structure EvaluateConceptDto where
  feedback : String
  score : Option ℚ

/-- A new concept, with the defaults of its columns. -/
def ConceptCall.concept (call : ConceptCall) (title : String) (status : ConceptStatus) : Concept where
  id := call.conceptId
  organizationId := call.organizationId
  workspaceId := call.workspaceId
  title := title
  description := none
  status := status
  prompt := none
  generationParams := none
  resultData := none
  evaluationScore := none
  evaluationFeedback := none
  version := 1
  createdBy := call.userId
  approvedBy := none
  approvedAt := none

/-- What an editor does: the check of the role, and the rest. -/
def ConceptCall.edits {α : Type} (call : ConceptCall) (rest : ConceptMethod α) : ConceptMethod α := do
  let _ ← requireWorkspaceRole call.organizationId call.workspaceId call.userId edit
  rest

/-- The concept that a call is about. -/
def ConceptCall.get (call : ConceptCall) : ConceptMethod Concept :=
  Concepts.get call.organizationId call.workspaceId call.conceptId

/-- `create`. -/
def create (call : ConceptCall) (dto : CreateConceptDto) : ConceptMethod Concept :=
  call.edits (insertConcept { call.concept dto.title .draft with description := dto.description })

/-- `requestGeneration`. -/
def requestGeneration (call : ConceptCall) (dto : GenerateConceptDto) : ConceptMethod Concept :=
  let title := String.ofList (slice 255 dto.prompt.toList)
  call.edits
    (insertConcept
      { call.concept title .generating with
        prompt := some dto.prompt
        generationParams := dto.params })

/-- What `update` makes of a concept that it has read; a title of null is refused by its column. -/
def UpdateConceptDto.apply (dto : UpdateConceptDto) (concept : Concept) : Except Exception Concept := do
  let title ← lookUp (dto.title.getD (some concept.title))
    (.queryFailed (.notNullViolation "title"))
  pure { concept with title := title, description := dto.description.getD concept.description }

/-- `update`. -/
def update (call : ConceptCall) (dto : UpdateConceptDto) : ConceptMethod Concept :=
  call.edits do
    let concept ← call.get
    let changed ← Program.done (dto.apply concept)
    saveConcept changed

/-- `evaluate`. -/
def evaluate (call : ConceptCall) (dto : EvaluateConceptDto) : ConceptMethod Concept :=
  call.edits do
    let concept ← call.get
    ensure (concept.status == .generated) (.forbidden "Only generated concepts can be evaluated")
    saveConcept
      { concept with
        evaluationScore := dto.score
        evaluationFeedback := some dto.feedback
        status := .evaluated }

/-- `approve`. -/
def approve (call : ConceptCall) : ConceptMethod Concept :=
  call.edits do
    let concept ← call.get
    ensure (concept.status == .generated || concept.status == .evaluated)
      (.forbidden "Concept cannot be approved in current state")
    let now ← query ConceptStore.now
    saveConcept
      { concept with status := .approved, approvedBy := some call.userId, approvedAt := some now }

/-- `reject`. -/
def reject (call : ConceptCall) : ConceptMethod Concept :=
  call.edits do
    let concept ← call.get
    ensure (concept.status == .generated || concept.status == .evaluated)
      (.forbidden "Concept cannot be rejected in current state")
    saveConcept { concept with status := .rejected }

/-- `archive`. -/
def archive (call : ConceptCall) : ConceptMethod Concept :=
  call.edits do
    let concept ← call.get
    saveConcept { concept with status := .archived }

/-- Time passes, or a method is called. -/
inductive ConceptRequest where
  | wait (elapsed : Nat)
  | create (call : ConceptCall) (dto : CreateConceptDto)
  | requestGeneration (call : ConceptCall) (dto : GenerateConceptDto)
  | update (call : ConceptCall) (dto : UpdateConceptDto)
  | evaluate (call : ConceptCall) (dto : EvaluateConceptDto)
  | approve (call : ConceptCall)
  | reject (call : ConceptCall)
  | archive (call : ConceptCall)

/-- The concept that a call returns. -/
def returning (method : ConceptMethod Concept) : ConceptMethod (Option Concept) := do
  let concept ← method
  pure (some concept)

/-- What is done for a request. -/
def ConceptRequest.perform : ConceptRequest → ConceptMethod (Option Concept)
  | .wait elapsed => write fun store => .ok (none, { store with now := store.now + elapsed })
  | .create call dto => returning (Concepts.create call dto)
  | .requestGeneration call dto => returning (Concepts.requestGeneration call dto)
  | .update call dto => returning (Concepts.update call dto)
  | .evaluate call dto => returning (Concepts.evaluate call dto)
  | .approve call => returning (Concepts.approve call)
  | .reject call => returning (Concepts.reject call)
  | .archive call => returning (Concepts.archive call)

/-- How a request is answered, and which one it was. -/
def ConceptRequest.answer (request : ConceptRequest) :
    ConceptMethod (ConceptRequest × Option Concept) := do
  let concept? ← request.perform
  pure (request, concept?)

/-- The request is to evaluate, approve or reject. -/
def ConceptRequest.Decides : ConceptRequest → Prop
  | .evaluate _ _ | .approve _ | .reject _ => True
  | .wait _ | .create _ _ | .requestGeneration _ _ | .update _ _ | .archive _ => False

/-! ## What a row can have become -/

/-- A call is about the concept, and its user is an editor of the workspace. -/
structure ConceptCall.MayEdit (call : ConceptCall) (members : Members) (concept : Concept) : Prop where
  id : call.conceptId = concept.id
  organization : call.organizationId = concept.organizationId
  workspace : call.workspaceId = concept.workspaceId
  editor : members.Admits call.organizationId call.workspaceId call.userId edit

/-- A concept is a draft, or requested, or archived by an editor; it has no result, and nobody has
evaluated or approved it. -/
structure Concept.Undecided (asked : ConceptRequest → Prop) (members : Members) (concept : Concept) :
    Prop where
  status : concept.status = .draft ∧ concept.prompt = none ∨
    concept.status = .generating ∧ concept.prompt.isSome = true ∨
    concept.status = .archived ∧
      ∃ call, asked (.archive call) ∧ call.MayEdit members concept
  noResult : concept.resultData = none
  unevaluated : concept.evaluationScore = none ∧ concept.evaluationFeedback = none
  unapproved : concept.approvedBy = none ∧ concept.approvedAt = none

/-- The table of the concepts. -/
def conceptSheet : Sheet ConceptStore Members Concept Uuid where
  fixed := ConceptStore.members
  rows := ConceptStore.concepts
  key := Concept.id

variable {asked : ConceptRequest → Prop} {seen : ConceptStore} {concept changed : Concept}
  {call : ConceptCall} {members : Members} {α : Type} {right : α → ConceptStore → Prop}

/-- What calls agree on. -/
def conceptContract (asked : ConceptRequest → Prop) : Contract ConceptStore :=
  conceptSheet.contract (Concept.Undecided asked)

theorem Concept.Undecided.status_ne (undecided : concept.Undecided asked members) :
    concept.status ≠ .generated ∧ concept.status ≠ .evaluated := by
  rcases undecided.status with ⟨status, _⟩ | ⟨status, _⟩ | ⟨status, _⟩ <;> simp [status]

/-- What follows on the check of the role. -/
theorem safe_edits {rest : ConceptMethod α} (valid : (conceptContract asked).valid seen)
    (goesOn : ∀ found, (conceptContract asked).valid found →
      found.members.Admits call.organizationId call.workspaceId call.userId edit →
      rest.Safe (conceptContract asked) right found) :
    (call.edits rest).Safe (conceptContract asked) right seen :=
  Workspaces.safe_requireWorkspaceRole_bind (fun _ _ => id) valid fun _ => goesOn

/-- A concept that is read is undecided, and stays so. -/
theorem safe_get_bind {rest : Concept → ConceptMethod α}
    (goesOn : ∀ concept found, found.members = seen.members →
      concept.Undecided asked found.members →
      (found.members.Admits call.organizationId call.workspaceId call.userId edit →
        call.MayEdit found.members concept) →
      (rest concept).Safe (conceptContract asked) right found) :
    (call.get >>= rest).Safe (conceptContract asked) right seen := by
  apply safe_ask_bind
  intro found concept valid since readEq
  obtain ⟨conceptEq, kept⟩ := Option.filter_eq_some_iff.mp (lookUp_eq_ok_iff.mp readEq)
  obtain ⟨sameOrganization, sameWorkspace⟩ := Bool.and_eq_true_iff.mp kept
  apply goesOn concept found since (Sheet.Sound.rows valid concept (Table.mem_of_get? conceptEq))
  intro admitted
  exact ⟨(Table.key_of_get? conceptEq).symm, (beq_iff_eq.mp sameOrganization).symm,
    (beq_iff_eq.mp sameWorkspace).symm, admitted⟩

/-- An undecided concept may be saved. -/
theorem saveConcept_safe (undecided : concept.Undecided asked seen.members) :
    (saveConcept concept).Safe (conceptContract asked) (fun _ _ => True) seen := by
  apply safe_write
  rintro found _ _ valid since ⟨⟩
  have sameMembers : found.members = seen.members := since
  refine ⟨Sheet.Sound.save valid rfl rfl ?_, fun _ _ _ => trivial⟩
  change concept.Undecided asked found.members
  rw [sameMembers]
  exact undecided

/-- A new concept that is undecided may be inserted. -/
theorem insertConcept_safe (undecided : concept.Undecided asked seen.members) :
    (insertConcept concept).Safe (conceptContract asked) (fun _ _ => True) seen := by
  apply safe_write
  intro found inserted changed valid since changeEq
  obtain ⟨_, isNew, restEq⟩ := except_bind_eq_ok_iff.mp changeEq
  obtain ⟨_, _, pairEq⟩ := except_bind_eq_ok_iff.mp restEq
  cases pairEq
  have sameMembers : found.members = seen.members := since
  have fresh := Option.isNone_iff_eq_none.mp (check_eq_ok_iff.mp isNew)
  refine ⟨Sheet.Sound.append valid rfl rfl fresh ?_, fun _ _ _ => trivial⟩
  change concept.Undecided asked found.members
  rw [sameMembers]
  exact undecided

theorem create_safe {dto : CreateConceptDto} (valid : (conceptContract asked).valid seen) :
    (create call dto).Safe (conceptContract asked) (fun _ _ => True) seen := by
  apply safe_edits valid
  intro found _ _
  exact insertConcept_safe ⟨Or.inl ⟨rfl, rfl⟩, rfl, ⟨rfl, rfl⟩, ⟨rfl, rfl⟩⟩

theorem requestGeneration_safe {dto : GenerateConceptDto}
    (valid : (conceptContract asked).valid seen) :
    (requestGeneration call dto).Safe (conceptContract asked) (fun _ _ => True) seen := by
  apply safe_edits valid
  intro found _ _
  exact insertConcept_safe ⟨Or.inr (Or.inl ⟨rfl, rfl⟩), rfl, ⟨rfl, rfl⟩, ⟨rfl, rfl⟩⟩

theorem update_safe {dto : UpdateConceptDto} (valid : (conceptContract asked).valid seen) :
    (update call dto).Safe (conceptContract asked) (fun _ _ => True) seen := by
  apply safe_edits valid
  intro _ _ _
  apply safe_get_bind
  intro concept found _ undecided _
  cases applyEq : dto.apply concept with
  | error error => exact safe_throw
  | ok changed =>
      obtain ⟨title, _, pairEq⟩ := except_bind_eq_ok_iff.mp applyEq
      cases pairEq
      apply saveConcept_safe
      refine ⟨?_, undecided.noResult, undecided.unevaluated, undecided.unapproved⟩
      rcases undecided.status with draft | requested | ⟨archived, call, isAsked, mayEdit⟩
      · exact Or.inl draft
      · exact Or.inr (Or.inl requested)
      · exact Or.inr (Or.inr ⟨archived, call, isAsked, mayEdit.1, mayEdit.2, mayEdit.3, mayEdit.4⟩)

theorem archive_safe (isAsked : asked (.archive call)) (valid : (conceptContract asked).valid seen) :
    (archive call).Safe (conceptContract asked) (fun _ _ => True) seen := by
  apply safe_edits valid
  intro checked _ admitted
  apply safe_get_bind
  intro concept found sameMembers undecided mayEdit
  have byEditor := mayEdit (sameMembers ▸ admitted)
  apply saveConcept_safe
  refine ⟨Or.inr (Or.inr ⟨rfl, call, isAsked, ?_⟩), undecided.noResult, undecided.unevaluated,
    undecided.unapproved⟩
  exact ⟨byEditor.id, byEditor.organization, byEditor.workspace, byEditor.editor⟩

/-- A call that decides is refused, by the status that it has read. -/
theorem decision_safe {rest : Concept → Unit → ConceptMethod Concept} {refusal : Exception}
    {allows : ConceptStatus → Bool}
    (undecidable : ∀ status, allows status = true → status = .generated ∨ status = .evaluated)
    (valid : (conceptContract asked).valid seen) :
    (call.edits do
      let concept ← call.get
      ensure (allows concept.status) refusal >>= rest concept).Safe (conceptContract asked)
        (fun _ _ => False) seen := by
  apply safe_edits valid
  intro _ _ _
  apply safe_get_bind
  intro concept found _ undecided _
  apply safe_ensure_bind
  intro isAllowed
  obtain ⟨notGenerated, notEvaluated⟩ := undecided.status_ne
  rcases undecidable concept.status isAllowed with generated | evaluated
  · exact absurd generated notGenerated
  · exact absurd evaluated notEvaluated

theorem isUndecidable {status : ConceptStatus}
    (allowed : (status == .generated || status == .evaluated) = true) :
    status = .generated ∨ status = .evaluated := by
  rcases Bool.or_eq_true_iff.mp allowed with generated | evaluated
  · exact Or.inl (beq_iff_eq.mp generated)
  · exact Or.inr (beq_iff_eq.mp evaluated)

/-- A call that returns was not one that decides. -/
theorem returning_safe {method : ConceptMethod Concept} {Decides : Prop}
    {found : Concept → ConceptStore → Prop} (valid : (conceptContract asked).valid seen)
    (safe : method.Safe (conceptContract asked) found seen)
    (undecided : ∀ concept store, found concept store → ¬ Decides) :
    (returning method).Safe (conceptContract asked) (fun _ _ => ¬ Decides) seen :=
  safe.bind valid fun concept store _ _ isFound =>
    safe_pure fun _ _ _ => undecided concept store isFound

theorem perform_safe {request : ConceptRequest} (isAsked : asked request)
    (valid : (conceptContract asked).valid seen) :
    request.perform.Safe (conceptContract asked) (fun _ _ => ¬ request.Decides) seen := by
  have generatedOnly : ∀ status : ConceptStatus, (status == .generated) = true →
      status = .generated ∨ status = .evaluated :=
    fun _ generated => Or.inl (beq_iff_eq.mp generated)
  cases request with
  | wait elapsed =>
      rw [ConceptRequest.perform]
      apply safe_write
      rintro found _ _ foundValid _ ⟨⟩
      exact ⟨Sheet.Sound.same foundValid rfl rfl, fun _ _ _ => not_false⟩
  | create call dto => exact returning_safe valid (create_safe valid) fun _ _ _ => not_false
  | requestGeneration call dto =>
      exact returning_safe valid (requestGeneration_safe valid) fun _ _ _ => not_false
  | update call dto => exact returning_safe valid (update_safe valid) fun _ _ _ => not_false
  | evaluate call dto =>
      exact returning_safe valid (decision_safe generatedOnly valid) fun _ _ => False.elim
  | approve call =>
      exact returning_safe valid (decision_safe (fun _ => isUndecidable) valid) fun _ _ => False.elim
  | reject call =>
      exact returning_safe valid (decision_safe (fun _ => isUndecidable) valid) fun _ _ => False.elim
  | archive call => exact returning_safe valid (archive_safe isAsked valid) fun _ _ _ => not_false

/-- **How far a concept comes.**  However calls run beside each other, a concept is a draft, or
requested, or archived by an editor of its workspace who asked for it; it never has a result, and no
call to evaluate, approve or reject one ever succeeds. -/
theorem concept_lifecycle
    {state reached : Sessions.State ConceptStore (ConceptMethod (ConceptRequest × Option Concept))}
    {actions : List (Sessions.Action ConceptRequest Unit)} (idle : state.sessions = [])
    (empty : state.store.concepts = [])
    (runEq : (beside ConceptRequest.answer).step.run state actions = some reached) :
    (∀ concept ∈ reached.store.concepts,
      concept.Undecided (fun request => .start request ∈ actions) reached.store.members) ∧
    ∀ ended ∈ reached.sessions.filterMap returned, ¬ ended.1.Decides := by
  let asked : ConceptRequest → Prop := fun request => .start request ∈ actions
  have start : AllSafe (conceptContract asked) asked
      (fun _ (ended : ConceptRequest × Option Concept) _ => ¬ ended.1.Decides) state :=
    allSafe_of_idle idle (Sheet.sound_of_empty empty)
  have answers : ∀ request, asked request → ∀ store, (conceptContract asked).valid store →
      request.answer.Safe (conceptContract asked) (fun ended _ => ¬ ended.1.Decides) store := by
    intro request isAsked store valid
    exact (perform_safe isAsked valid).bind valid fun _ _ _ _ undecided =>
      safe_pure fun _ _ _ => undecided
  have kept := (start.run answers (fun _ => id) runEq).1
  refine ⟨Sheet.Sound.rows kept.valid, ?_⟩
  intro ended returnedMem
  obtain ⟨_, _, undecided⟩ := kept.right_of_returned returnedMem
  exact undecided

/-! ## Examples -/

/-- A workspace with an editor. -/
def exampleMembers : Members where
  organizationMembers := []
  workspaceMembers := [⟨uuid "org", uuid "workspace", uuid "editor", .editor, .active⟩]

/-- An editor requests a concept, tries to approve it and archives it. -/
def exampleConcept : List (Sessions.Action ConceptRequest Unit) :=
  let call : ConceptCall := ⟨uuid "org", uuid "workspace", uuid "editor", uuid "logo"⟩
  .start (.requestGeneration call ⟨"A logo", none⟩) :: List.replicate 2 (.advance 0 ()) ++
    [.start (.approve call), .start (.archive call)] ++
    (List.replicate 2 [.advance 1 (), .advance 2 ()]).flatten ++ [.advance 2 ()]

/-- The concept is archived, and not approved. -/
theorem concept_lifecycle_example :
    ∃ reached, (beside ConceptRequest.answer).step.run ⟨⟨exampleMembers, [], 5⟩, []⟩
        exampleConcept = some reached ∧
      reached.store.concepts.map Concept.status = [.archived] ∧
      ∀ ended ∈ reached.sessions.filterMap returned, ¬ ended.1.Decides := by
  have taken : ((beside ConceptRequest.answer).step.run ⟨⟨exampleMembers, [], 5⟩, []⟩
      exampleConcept).map (fun reached => reached.store.concepts.map Concept.status) =
      some [.archived] := by
    decide +kernel
  obtain ⟨reached, runEq, statusEq⟩ := Option.map_eq_some_iff.mp taken
  exact ⟨reached, runEq, statusEq, (concept_lifecycle rfl rfl runEq).2⟩

end Manbaa.Concepts
