import Manbaa.Canvases.Log

/-!
# The tables of a deployed service

A deployed service runs on the constraints of the migrations.  Its tables stay
sound: identifiers are unique, every canvas has its workflow, a bound canvas is
bound to a workspace of the organization of its workflow, and every object is a
row that the object table accepts.

The removal of an object never commits on a deployed service: the operation
that records it refers to the object that is gone.
-/

namespace Manbaa.Canvases

open Manbaa.Lib Manbaa.Lib.Effect

/-- The tables hold what the constraints and the service let in. -/
structure Db.Sound (db : Db) : Prop where
  workflowsKeyed : Table.Keyed Workflow.id db.workflows
  canvasesKeyed : Table.Keyed Canvas.id db.canvases
  workflowMem : ∀ canvas ∈ db.canvases, ∃ workflow ∈ db.workflows, workflow.id = canvas.workflowId
  workspaceMem : ∀ canvas ∈ db.canvases, ∀ workspaceId, canvas.workspaceId = some workspaceId →
    ∀ workflow ∈ db.workflows, workflow.id = canvas.workflowId →
      ⟨workspaceId, workflow.orgId⟩ ∈ db.workspaces
  objects : ∀ object ∈ db.objects, checkObject db object = .ok ()
  scopes : ∀ operation ∈ db.operations, operation.phase04Scope = true

variable {numberText : Number → String} {ids : GeneratedIds} {world target : World}
  {canvas : Canvas} {operation : CanvasOperation} {db next : Db}

/-- A database without canvases, objects and operations is sound. -/
theorem sound_of_empty (workflowsKeyed : Table.Keyed Workflow.id db.workflows)
    (canvases : db.canvases = []) (objects : db.objects = []) (operations : db.operations = []) :
    db.Sound where
  workflowsKeyed := workflowsKeyed
  canvasesKeyed := by
    rw [canvases]
    exact Table.keyed_nil
  workflowMem := by simp [canvases]
  workspaceMem := by simp [canvases]
  objects := by simp [objects]
  scopes := by simp [operations]

/-- A row stays acceptable while no canvas or user goes. -/
theorem checkObject_mono {object : CanvasObject} (accepted : checkObject db object = .ok ())
    (users : next.users = db.users)
    (canvases : ∀ id, (db.canvas? id).isSome → (next.canvas? id).isSome) :
    checkObject next object = .ok () := by
  rw [checkObject_eq_ok_iff] at accepted ⊢
  obtain ⟨type, elsaType, label, properties, style, canvasEq, createdBy⟩ := accepted
  rw [users]
  exact ⟨type, elsaType, label, properties, style, canvases _ canvasEq, createdBy⟩

theorem isSome_canvas?_of_save {saved : Canvas} (id : Uuid)
    (found : (db.canvas? id).isSome) :
    (Table.get? Canvas.id (Table.save Canvas.id db.canvases saved) id).isSome := by
  rw [Table.get?_save]
  split
  · rfl
  · exact found

/-- A canvas is replaced by one with the same identity. -/
theorem Db.Sound.save {saved : Canvas} (sound : db.Sound)
    (workflowMem : ∃ workflow ∈ db.workflows, workflow.id = saved.workflowId)
    (workspaceMem : ∀ workspaceId, saved.workspaceId = some workspaceId →
      ∀ workflow ∈ db.workflows, workflow.id = saved.workflowId →
        ⟨workspaceId, workflow.orgId⟩ ∈ db.workspaces) :
    Db.Sound { db with canvases := Table.save Canvas.id db.canvases saved } where
  workflowsKeyed := sound.workflowsKeyed
  canvasesKeyed := Table.keyed_save sound.canvasesKeyed
  workflowMem := by
    intro other otherMem
    rcases Table.mem_save_iff.mp otherMem with rfl | ⟨otherMem, _⟩
    · exact workflowMem
    · exact sound.workflowMem other otherMem
  workspaceMem := by
    intro other otherMem
    rcases Table.mem_save_iff.mp otherMem with rfl | ⟨otherMem, _⟩
    · exact workspaceMem
    · exact sound.workspaceMem other otherMem
  objects := by
    intro object objectMem
    exact checkObject_mono (sound.objects object objectMem) rfl isSome_canvas?_of_save
  scopes := sound.scopes

theorem Opened.sound (step : Opened db next) (sound : db.Sound) : next.Sound := by
  cases step with
  | found => exact sound
  | created id workflow workflowMem fresh unused =>
      refine ⟨sound.workflowsKeyed, Table.keyed_append sound.canvasesKeyed fresh, ?_, ?_, ?_,
        sound.scopes⟩
      · intro other otherMem
        rcases List.mem_append.mp otherMem with otherMem | new
        · exact sound.workflowMem other otherMem
        · obtain rfl := List.mem_singleton.mp new
          exact ⟨workflow, workflowMem, rfl⟩
      · intro other otherMem workspaceId bound
        rcases List.mem_append.mp otherMem with otherMem | new
        · exact sound.workspaceMem other otherMem workspaceId bound
        · obtain rfl := List.mem_singleton.mp new
          cases bound
      · intro object objectMem
        refine checkObject_mono (sound.objects object objectMem) rfl ?_
        intro other found
        rw [Db.canvas?] at found ⊢
        rw [Table.get?_append, Option.isSome_or, found]
        rfl

@[simp]
theorem phase04Scope_forget (gone : Uuid) (operation : CanvasOperation) :
    (operation.forget gone).phase04Scope = operation.phase04Scope := by
  unfold CanvasOperation.forget
  split <;> rfl

theorem Edited.sound (step : Edited (deployed numberText) operation db next)
    (sound : db.Sound) : next.Sound := by
  cases step with
  | kept => exact sound
  | inserted object fresh accepted onCanvas =>
      refine ⟨sound.workflowsKeyed, sound.canvasesKeyed, sound.workflowMem, sound.workspaceMem, ?_,
        sound.scopes⟩
      intro other otherMem
      rcases List.mem_append.mp otherMem with otherMem | new
      · exact sound.objects other otherMem
      · rw [List.mem_singleton.mp new]
        exact accepted
  | saved old object oldMem sameId sameCanvas accepted onCanvas =>
      refine ⟨sound.workflowsKeyed, sound.canvasesKeyed, sound.workflowMem, sound.workspaceMem, ?_,
        sound.scopes⟩
      intro other otherMem
      rcases Table.mem_save_iff.mp otherMem with rfl | ⟨otherMem, _⟩
      · exact accepted
      · exact sound.objects other otherMem
  | removed object objectMem recorded onCanvas =>
      refine ⟨sound.workflowsKeyed, sound.canvasesKeyed, sound.workflowMem, sound.workspaceMem, ?_,
        ?_⟩
      · intro other otherMem
        exact sound.objects other (Table.mem_delete_iff.mp otherMem).1
      · intro other otherMem
        obtain ⟨old, oldMem, rfl⟩ := List.mem_map.mp otherMem
        rw [phase04Scope_forget]
        exact sound.scopes old oldMem

theorem Appended.sound (step : Appended (deployed numberText) canvas operation db next)
    (sound : db.Sound) : next.Sound := by
  have canvasMem : canvas ∈ db.canvases := Table.mem_of_get? step.canvasEq
  have saved : Db.Sound { db with canvases := Table.save Canvas.id db.canvases canvas.advance } :=
    sound.save (sound.workflowMem canvas canvasMem) (sound.workspaceMem canvas canvasMem)
  have scope := (checkOperation_eq_ok_iff.mp step.accepted).2.2.2.1
  rw [step.nextEq]
  refine ⟨saved.workflowsKeyed, saved.canvasesKeyed, saved.workflowMem, saved.workspaceMem,
    saved.objects, ?_⟩
  intro other otherMem
  rcases List.mem_append.mp otherMem with otherMem | new
  · exact sound.scopes other otherMem
  · rw [List.mem_singleton.mp new]
    exact scope

theorem Committed.sound (step : Committed (deployed numberText) canvas operation db next)
    (sound : db.Sound) : next.Sound := by
  obtain ⟨opened, edited, openStep, editStep, appendStep⟩ := step.steps
  exact appendStep.sound (editStep.sound (openStep.sound sound))

theorem bindWorkspace_sound {canvasId workspaceId : Uuid} (sound : db.Sound) :
    (db.bindWorkspace canvasId workspaceId).Sound := by
  rcases bindWorkspace_cases db canvasId workspaceId with
    same | ⟨canvas, workflow, canvasEq, _, workflowEq, workspaceMem, bound⟩
  · rw [same]
    exact sound
  · rw [bound]
    apply sound.save
    · exact ⟨workflow, Table.mem_of_get? workflowEq, Table.key_of_get? workflowEq⟩
    · intro given givenEq other otherMem otherEq
      obtain rfl := Option.some.inj givenEq
      have sameWorkflow : other = workflow :=
        sound.workflowsKeyed.eq otherMem (Table.mem_of_get? workflowEq)
          (otherEq.trans (Table.key_of_get? workflowEq).symm)
      rw [sameWorkflow]
      exact workspaceMem

/-- Every action keeps the tables sound. -/
theorem act_sound (numberText : Number → String) (action : Action) (sound : db.Sound) :
    (act (deployed numberText) db action).Sound := by
  rcases act_cases (deployed numberText) db action with
    opened | ⟨_, _, committed⟩ | ⟨_, _, bound⟩ | ⟨members, set⟩
  · exact opened.sound sound
  · exact committed.sound sound
  · rw [bound]
    exact bindWorkspace_sound sound
  · rw [set]
    exact ⟨sound.workflowsKeyed, sound.canvasesKeyed, sound.workflowMem, sound.workspaceMem,
      fun object objectMem => checkObject_mono (sound.objects object objectMem) rfl fun _ => id,
      sound.scopes⟩

theorem sound_of_run {start : Db} {actions : List Action} (sound : start.Sound)
    (reached : (system (deployed numberText)).run start actions = some db) : db.Sound := by
  apply Step.invariant_of_run _ sound reached
  intro state action later stateSound stepEq
  cases stepEq
  exact act_sound numberText action stateSound

/-! ## The canvas that a call opens -/

/-- The canvas of a workflow exists and is bound to a workspace. -/
def Db.bound (db : Db) (workflowId : Uuid) : Bool :=
  (db.canvasOf? workflowId).any fun canvas => canvas.workspaceId.isSome

/-- What is known of the canvas that a call opened. -/
structure Opens (ids : GeneratedIds) (workflowId : String) (orgId : Uuid) (world opened : World)
    (canvas : Canvas) : Prop where
  openEq : getOrCreateCanvas ids workflowId orgId world = (.ok canvas, opened)
  step : Opened world.db opened.db
  canvasEq : opened.db.canvas? canvas.id = some canvas
  workflowEq : ∃ workflow ∈ world.db.workflows, workflow.id = canvas.workflowId ∧
    workflow.orgId = orgId
  ofEq : opened.db.canvasOf? (uuid workflowId) = some canvas
  boundEq : canvas.workspaceId.isSome = world.db.bound (uuid workflowId)

theorem workflowInOrg?_eq_some {workflowId orgId : Uuid} {workflow : Workflow}
    (found : db.workflowInOrg? workflowId orgId = some workflow) :
    workflow ∈ db.workflows ∧ workflow.id = workflowId ∧ workflow.orgId = orgId := by
  have matched := List.find?_some found
  simp only [Bool.and_eq_true, beq_iff_eq] at matched
  exact ⟨List.mem_of_find?_eq_some found, matched⟩

theorem canvasOf?_eq_some {workflowId : Uuid} (found : db.canvasOf? workflowId = some canvas) :
    canvas ∈ db.canvases ∧ canvas.workflowId = workflowId := by
  have matched := List.find?_some found
  simp only [beq_iff_eq] at matched
  exact ⟨List.mem_of_find?_eq_some found, matched⟩

theorem objectOn?_eq_some {objectId canvasId : Uuid} {object : CanvasObject}
    (found : db.objectOn? objectId canvasId = some object) :
    object ∈ db.objects ∧ object.id = objectId ∧ object.canvasId = canvasId := by
  have matched := List.find?_some found
  simp only [Bool.and_eq_true, beq_iff_eq] at matched
  exact ⟨List.mem_of_find?_eq_some found, matched⟩

/-- A canvas that was opened is found, in the organization of the caller. -/
theorem opens_of_eq {workflowId : String} {orgId : Uuid} (sound : world.db.Sound)
    (openEq : getOrCreateCanvas ids workflowId orgId world = (.ok canvas, target)) :
    Opens ids workflowId orgId world target canvas := by
  obtain ⟨workflow, found, cases⟩ := getOrCreateCanvas_eq_ok_iff.mp openEq
  obtain ⟨workflowMem, workflowIdEq, orgIdEq⟩ := workflowInOrg?_eq_some found
  rcases cases with ⟨existing, rfl⟩ | ⟨missing, rfl, db, insertEq, rfl⟩
  · obtain ⟨canvasMem, canvasWorkflow⟩ := canvasOf?_eq_some existing
    refine ⟨openEq, Opened.found, sound.canvasesKeyed.get?_of_mem canvasMem,
      ⟨workflow, workflowMem, canvasWorkflow.symm, orgIdEq⟩, workflowIdEq ▸ existing, ?_⟩
    rw [Db.bound, ← workflowIdEq, existing]
    rfl
  · have step := opened_of_getOrCreateCanvas openEq
    obtain ⟨fresh, unused, rfl⟩ := insertCanvas_eq_ok_iff.mp insertEq
    refine ⟨openEq, step, ?_, ⟨workflow, workflowMem, rfl, orgIdEq⟩, ?_, ?_⟩
    · rw [Db.canvas?] at fresh ⊢
      rw [Table.get?_append, fresh]
      simp
    · rw [Db.canvasOf?] at missing ⊢
      rw [← workflowIdEq, List.find?_append, missing]
      simp [newCanvas]
    · rw [Db.bound, ← workflowIdEq, missing]
      rfl

/-! ## Removals never commit -/

/-- An operation that records a removal refers to nothing. -/
theorem not_accepted_of_removed (object : CanvasObject)
    (recorded : operation.canvasObjectId.map uuid = some object.id)
    (gone : db.object? object.id = none) :
    checkOperation db operation.stored ≠ .ok () := by
  intro accepted
  obtain ⟨text, textEq, uuidEq⟩ := Option.map_eq_some_iff.mp recorded
  have refers := (checkOperation_eq_ok_iff.mp accepted).2.2.2.2.2.1 (lowerCase text) (by
    simp [CanvasOperation.stored, textEq])
  have sameId : uuid (lowerCase text) = object.id := by
    rw [← uuidEq]
    exact uuid_text (uuid text)
  rw [sameId, gone] at refers
  cases refers

/-- On a deployed service an operation never records a removal. -/
theorem Committed.not_removed (step : Committed (deployed numberText) canvas operation db next) :
    ∃ opened edited, Opened db opened ∧ Edited (deployed numberText) operation opened edited ∧
      Appended (deployed numberText) canvas operation edited next ∧
      edited.operations = opened.operations := by
  obtain ⟨opened, edited, openStep, editStep, appendStep⟩ := step.steps
  refine ⟨opened, edited, openStep, editStep, appendStep, ?_⟩
  cases editStep with
  | removed object objectMem recorded onCanvas =>
      refine absurd appendStep.accepted (not_accepted_of_removed object recorded ?_)
      simp [Db.object?, Table.get?_eq_none_iff]
  | _ => rfl

end Manbaa.Canvases
