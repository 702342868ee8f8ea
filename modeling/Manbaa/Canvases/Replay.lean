import Manbaa.Canvases.Refusal

/-!
# Client operations are applied once

A client operation that was accepted keeps its row: on a deployed service no
later action changes an operation, and the canvas stays bound to its workspace.
A request that gets as far as the lookup of its identifier is therefore compared
with the row that the first request left, whatever happened in between.

The comparison of the object reference is one of texts, so a request is
recognised when it names its object in lower case, as the row does.
-/

namespace Manbaa.Canvases

open Manbaa.Lib Manbaa.Lib.Effect

variable {numberText : Number → String} {ids : GeneratedIds} {caller : RequestUser}
  {canvas : Canvas} {operation stored : CanvasOperation} {dto : CreateCanvasOperationDto}
  {db next : Db} {world target : World}

/-- The request names its object, if any, in lower case. -/
def CreateCanvasOperationDto.Canonical (dto : CreateCanvasOperationDto) : Prop :=
  ∀ text, dto.canvasObjectId = some text → lowerCase text = text

/-- Two requests ask for the same operation: on the same canvas and object, by
the same caller, and with the same content as JSON values. -/
structure SameRequest (workflowId : String) (dto : CreateCanvasOperationDto)
    (caller : RequestUser) (otherWorkflowId : String) (other : CreateCanvasOperationDto)
    (otherCaller : RequestUser) : Prop where
  workflow : uuid otherWorkflowId = uuid workflowId
  object : other.canvasObjectId.map uuid = dto.canvasObjectId.map uuid
  user : otherCaller.id = caller.id
  organization : otherCaller.orgId = caller.orgId
  opType : other.opType = dto.opType
  clientRevision : other.clientRevision = dto.clientRevision
  opPayload : Json.Same (.obj other.opPayload) (.obj dto.opPayload)
  versionVector : Json.Same (orNull other.versionVector) (orNull dto.versionVector)

/-- The caller is authorised on the canvas of the workflow. -/
def Db.Authorised (db : Db) (workflowId : Uuid) (caller : RequestUser) : Prop :=
  ∀ canvas, db.canvasOf? workflowId = some canvas → mutationPermission canvas caller db = .ok ()

/-- The request gets as far as the lookup of its operation identifier: its
workflow is found, the caller may change its canvas and the payload is within
its bound. -/
def GuardsPass (host : Host) (ids : GeneratedIds) (workflowId : String)
    (dto : CreateCanvasOperationDto) (caller : RequestUser) (db : Db) : Prop :=
  ∃ canvas opened, getOrCreateCanvas ids workflowId caller.orgId ⟨db, []⟩ = (.ok canvas, opened) ∧
    mutationPermission canvas caller opened.db = .ok () ∧
    payloadBounded host dto.opPayload = true

/-! ## What stays -/

theorem operation?_append {other : CanvasOperation} {id : Uuid}
    (found : db.operation? id = some stored) :
    Table.get? CanvasOperation.id (db.operations ++ [other]) id.text = some stored := by
  rw [Db.operation?] at found
  rw [Table.get?_append, found, Option.some_or]

/-- A stored operation is never changed. -/
theorem act_operation? (numberText : Number → String) (action : Action) {id : Uuid}
    (found : db.operation? id = some stored) :
    (act (deployed numberText) db action).operation? id = some stored := by
  rcases act_cases (deployed numberText) db action with
    opened | ⟨_, _, committed⟩ | ⟨_, _, bound⟩ | ⟨_, set⟩
  · rw [opened.operation?]
    exact found
  · obtain ⟨opened, edited, openStep, _, appendStep, sameOperations⟩ := committed.not_removed
    have before : edited.operation? id = some stored := by
      rw [Db.operation?, sameOperations, openStep.operations]
      exact found
    rw [appendStep.nextEq]
    exact operation?_append before
  · rw [bound, Db.operation?, bindWorkspace_operations]
    exact found
  · rw [set]
    exact found

/-- The workflow has its canvas, which is bound to the workspace. -/
def Db.Binds (db : Db) (workflowId canvasId workspaceId : Uuid) : Prop :=
  ∃ canvas, db.canvasOf? workflowId = some canvas ∧ canvas.id = canvasId ∧
    canvas.workspaceId = some workspaceId

/-- Saving a canvas that keeps its workflow saves it in its place. -/
theorem canvasOf?_save {old saved : Canvas} (keyed : Table.Keyed Canvas.id db.canvases)
    (oldEq : db.canvas? saved.id = some old) (sameWorkflow : saved.workflowId = old.workflowId)
    (workflowId : Uuid) :
    Db.canvasOf? { db with canvases := Table.save Canvas.id db.canvases saved } workflowId =
      (db.canvasOf? workflowId).map fun canvas => if canvas.id = saved.id then saved else canvas := by
  have replaced : ∀ canvas ∈ db.canvases,
      (if canvas.id = saved.id then saved else canvas).workflowId = canvas.workflowId := by
    intro canvas canvasMem
    by_cases h : canvas.id = saved.id
    · have same : canvas = old := keyed.eq canvasMem (Table.mem_of_get? oldEq)
        (h.trans (Table.key_of_get? oldEq).symm)
      rw [if_pos h, sameWorkflow, same]
    · rw [if_neg h]
  rw [Db.canvasOf?, Db.canvasOf?, Table.save_of_get?_eq_some oldEq, Table.put, List.find?_map]
  congr 1
  rw [← List.head?_filter, ← List.head?_filter]
  congr 1
  apply List.filter_congr
  intro canvas canvasMem
  simp [replaced canvas canvasMem]

theorem Opened.binds (step : Opened db next) {workflowId canvasId workspaceId : Uuid}
    (binds : db.Binds workflowId canvasId workspaceId) :
    next.Binds workflowId canvasId workspaceId := by
  obtain ⟨canvas, found, rest⟩ := binds
  refine ⟨canvas, ?_, rest⟩
  cases step with
  | found => exact found
  | created newId workflow _ _ _ =>
      rw [Db.canvasOf?] at found ⊢
      rw [List.find?_append, found, Option.some_or]

theorem binds_save (old saved : Canvas) (keyed : Table.Keyed Canvas.id db.canvases)
    (oldEq : db.canvas? saved.id = some old) (sameWorkflow : saved.workflowId = old.workflowId)
    (keeps : ∀ workspaceId, old.workspaceId = some workspaceId →
      saved.workspaceId = some workspaceId) {workflowId canvasId workspaceId : Uuid}
    (binds : db.Binds workflowId canvasId workspaceId) :
    Db.Binds { db with canvases := Table.save Canvas.id db.canvases saved } workflowId canvasId
      workspaceId := by
  obtain ⟨canvas, found, rfl, bound⟩ := binds
  refine ⟨if canvas.id = saved.id then saved else canvas, ?_, ?_⟩
  · rw [canvasOf?_save keyed oldEq sameWorkflow, found]
    rfl
  by_cases h : canvas.id = saved.id
  · have canvasMem : canvas ∈ db.canvases := List.mem_of_find?_eq_some found
    have same : canvas = old := keyed.eq canvasMem (Table.mem_of_get? oldEq)
      (h.trans (Table.key_of_get? oldEq).symm)
    rw [if_pos h]
    exact ⟨h.symm, keeps workspaceId (same ▸ bound)⟩
  · rw [if_neg h]
    exact ⟨rfl, bound⟩

/-- A bound canvas stays bound to its workspace. -/
theorem act_binds (numberText : Number → String) (action : Action) (sound : db.Sound)
    {workflowId canvasId workspaceId : Uuid} (binds : db.Binds workflowId canvasId workspaceId) :
    (act (deployed numberText) db action).Binds workflowId canvasId workspaceId := by
  rcases act_cases (deployed numberText) db action with
    opened | ⟨changed, _, committed⟩ | ⟨id, boundTo, bound⟩ | ⟨_, set⟩
  · exact opened.binds binds
  · obtain ⟨opened, edited, openStep, editStep, appendStep⟩ := committed.steps
    have before : edited.Binds workflowId canvasId workspaceId := by
      obtain ⟨canvas, found, rest⟩ := openStep.binds binds
      refine ⟨canvas, ?_, rest⟩
      rw [Db.canvasOf?, editStep.canvases]
      exact found
    have keyed := (editStep.sound (openStep.sound sound)).canvasesKeyed
    have saved : Db.Binds { edited with
        canvases := Table.save Canvas.id edited.canvases changed.advance }
        workflowId canvasId workspaceId := by
      exact binds_save changed changed.advance keyed appendStep.canvasEq rfl (fun _ => id) before
    rw [appendStep.nextEq]
    exact saved
  · rw [bound]
    rcases bindWorkspace_cases db id boundTo with same | ⟨unbound, _, canvasEq, free, _, _, savedEq⟩
    · rw [same]
      exact binds
    · rw [savedEq]
      refine binds_save unbound { unbound with workspaceId := some boundTo } sound.canvasesKeyed
        canvasEq rfl ?_ binds
      intro other otherEq
      rw [free] at otherEq
      cases otherEq
  · rw [set]
    exact binds

theorem act_workflows (host : Host) (db : Db) (action : Action) :
    (act host db action).workflows = db.workflows := by
  rcases act_cases host db action with opened | ⟨_, _, committed⟩ | ⟨id, boundTo, bound⟩ | ⟨_, set⟩
  · rw [opened.toTenancy]
  · obtain ⟨opened, edited, openStep, editStep, appendStep⟩ := committed.steps
    rw [appendStep.toTenancy, editStep.toTenancy, openStep.toTenancy]
  · rw [bound]
    rcases bindWorkspace_cases db id boundTo with same | ⟨_, _, _, _, _, _, savedEq⟩
    · rw [same]
    · rw [savedEq]
  · rw [set]

/-! ## The comparison with the stored row -/

/-- The stored row is the one that the request describes, on a canvas of a
workspace. -/
structure Records (stored : CanvasOperation) (canvasId workspaceId : Uuid)
    (dto : CreateCanvasOperationDto) (caller : RequestUser) : Prop where
  canvasId : stored.canvasId = canvasId
  objectId : stored.canvasObjectId.map uuid = dto.canvasObjectId.map uuid
  objectText : dto.Canonical → stored.canvasObjectId = dto.canvasObjectId
  userId : stored.userId = caller.id
  opType : stored.opType = dto.opType
  number : stored.sequenceNumber = dto.clientRevision + 1
  organizationId : stored.organizationId = some caller.orgId
  workspaceId : stored.workspaceId = some workspaceId
  clientRevision : stored.clientRevision.getD 0 = dto.clientRevision
  opPayload : Json.Same stored.opPayload (.obj dto.opPayload)
  versionVector : Json.Same stored.versionVector (orNull dto.versionVector)

theorem sameLogicalOperation_iff :
    sameLogicalOperation stored canvas dto caller = true ↔
      stored.canvasId = canvas.id ∧ stored.canvasObjectId = dto.canvasObjectId ∧
        stored.userId = caller.id ∧ stored.opType = dto.opType ∧
        stored.sequenceNumber = dto.clientRevision + 1 ∧
        stored.organizationId = some caller.orgId ∧ stored.workspaceId = canvas.workspaceId ∧
        stored.clientRevision.getD 0 = dto.clientRevision ∧
        Json.Same stored.opPayload (.obj dto.opPayload) ∧
        Json.Same stored.versionVector (orNull dto.versionVector) := by
  simp [sameLogicalOperation, and_assoc]

/-- A canonical request is recognised by its row. -/
theorem Records.same {workspaceId : Uuid}
    (records : Records stored canvas.id workspaceId dto caller) (canonical : dto.Canonical)
    (bound : canvas.workspaceId = some workspaceId) :
    sameLogicalOperation stored canvas dto caller = true := by
  rw [sameLogicalOperation_iff, bound]
  exact ⟨records.canvasId, records.objectText canonical, records.userId, records.opType,
    records.number, records.organizationId, records.workspaceId, records.clientRevision,
    records.opPayload, records.versionVector⟩

/-- Only the same request is recognised by the row of a request. -/
theorem Records.sameRequest {canvasId workspaceId : Uuid} {other : CreateCanvasOperationDto}
    {otherCaller : RequestUser} {workflowId otherWorkflowId : String}
    (records : Records stored canvasId workspaceId dto caller)
    (same : sameLogicalOperation stored canvas other otherCaller = true)
    (workflow : canvas.id = canvasId → uuid otherWorkflowId = uuid workflowId) :
    SameRequest workflowId dto caller otherWorkflowId other otherCaller := by
  obtain ⟨canvasEq, object, user, opType, _, organization, _, revision, payload, vector⟩ :=
    sameLogicalOperation_iff.mp same
  constructor
  · exact workflow (canvasEq.symm.trans records.canvasId)
  · rw [← object]
    exact records.objectId
  · exact user.symm.trans records.userId
  · exact Option.some.inj (organization.symm.trans records.organizationId)
  · exact opType.symm.trans records.opType
  · exact revision.symm.trans records.clientRevision
  · exact payload.symm.trans records.opPayload
  · exact vector.symm.trans records.versionVector

theorem getOrCreateCanvas_broadcasts {workflowId : String} {orgId : Uuid}
    (openEq : getOrCreateCanvas ids workflowId orgId world = (.ok canvas, target)) :
    target.broadcasts = world.broadcasts := by
  obtain ⟨_, _, ⟨_, rfl⟩ | ⟨_, _, _, _, rfl⟩⟩ := getOrCreateCanvas_eq_ok_iff.mp openEq
  · rfl
  · rfl

/-- A request whose identifier is stored is answered by comparing it with the
row, and does nothing else. -/
theorem createOperation_of_stored {host : Host} {workflowId : String} {opened : World}
    (openEq : getOrCreateCanvas ids workflowId caller.orgId world = (.ok canvas, opened))
    (permitted : mutationPermission canvas caller opened.db = .ok ())
    (bounded : payloadBounded host dto.opPayload = true)
    (lockEq : opened.db.canvas? canvas.id = some canvas)
    (storedEq : opened.db.operation? (uuid dto.operationId) = some stored) :
    createOperation host ids workflowId dto caller world =
      (if sameLogicalOperation stored canvas dto caller then .ok stored
        else .error (.conflict "Operation ID is already used by a different operation"),
      opened) := by
  cases same : sameLogicalOperation stored canvas dto caller with
  | true =>
      refine createOperation_eq_ok_iff.mpr ⟨canvas, opened, ⟨stored, true, canvas⟩, opened, openEq,
        permitted, bounded, createOperationTransaction_eq_ok_iff.mpr ⟨canvas, lockEq, Or.inl
          ⟨stored, storedEq, same, rfl, rfl⟩⟩, rfl, ?_⟩
      simp
  | false =>
      have body : createOperationTransaction host canvas dto caller opened =
          (.error (.conflict "Operation ID is already used by a different operation"),
            opened) := by
        refine bind_eq_error_iff.mpr (Or.inr ⟨canvas, opened,
          findCanvasOrThrow_eq_ok_iff.mpr ⟨lockEq, rfl⟩, bind_eq_error_iff.mpr (Or.inr
            ⟨some stored, opened, reading_eq_ok_iff.mpr ⟨storedEq, rfl⟩,
              bind_eq_error_iff.mpr (Or.inl (require_eq_error_iff.mpr ⟨same, rfl, rfl⟩))⟩)⟩)
      refine bind_eq_error_iff.mpr (Or.inr ⟨canvas, opened, openEq, bind_eq_error_iff.mpr
        (Or.inr ⟨(), opened, requireCanvasMutationPermission_eq_ok_iff.mpr ⟨permitted, rfl⟩,
          bind_eq_error_iff.mpr (Or.inr ⟨(), opened, require_eq_ok_iff.mpr ⟨bounded, rfl⟩, ?_⟩)⟩)⟩)
      exact catching_eq_error_iff.mpr ⟨_, opened, bind_eq_error_iff.mpr (Or.inl
        (transaction_eq_error_iff.mpr ⟨rfl, opened, body⟩)), rfl⟩

/-! ## From the acceptance to any later state -/

/-- What an accepted request leaves behind and no action takes away. -/
structure Kept (db : Db) (stored : CanvasOperation) (operationId workflowId canvasId
    workspaceId : Uuid) (workflows : List Workflow) : Prop where
  sound : db.Sound
  row : db.operation? operationId = some stored
  binds : db.Binds workflowId canvasId workspaceId
  workflows : db.workflows = workflows

theorem Kept.act {operationId workflowId canvasId workspaceId : Uuid}
    {workflows : List Workflow} (numberText : Number → String) (action : Action)
    (kept : Kept db stored operationId workflowId canvasId workspaceId workflows) :
    Kept (act (deployed numberText) db action) stored operationId workflowId canvasId workspaceId
      workflows where
  sound := act_sound numberText action kept.sound
  row := act_operation? numberText action kept.row
  binds := act_binds numberText action kept.sound kept.binds
  workflows := (act_workflows _ db action).trans kept.workflows

theorem Kept.run {operationId workflowId canvasId workspaceId : Uuid}
    {workflows : List Workflow} {actions : List Action}
    (kept : Kept db stored operationId workflowId canvasId workspaceId workflows)
    (continued : (system (deployed numberText)).run db actions = some next) :
    Kept next stored operationId workflowId canvasId workspaceId workflows := by
  have preserved : ∀ (state : Db) (action : Action) (later : Db),
      Kept state stored operationId workflowId canvasId workspaceId workflows →
      system (deployed numberText) state action = some later →
      Kept later stored operationId workflowId canvasId workspaceId workflows := by
    intro state action later stateKept stepEq
    cases stepEq
    exact stateKept.act numberText action
  exact Step.invariant_of_run preserved kept continued

/-- An accepted request leaves a row that describes it, on a bound canvas. -/
theorem kept_of_accepted {workflowId : String} (sound : db.Sound)
    (accepted : createOperation (deployed numberText) ids workflowId dto caller ⟨db, []⟩ =
      (.ok operation, target)) :
    ∃ canvasId workspaceId stored, Records stored canvasId workspaceId dto caller ∧
      Kept target.db stored (uuid dto.operationId) (uuid workflowId) canvasId workspaceId
        db.workflows ∧
      (∃ workflow, db.workflowInOrg? (uuid workflowId) caller.orgId = some workflow) ∧
      payloadBounded (deployed numberText) dto.opPayload = true := by
  have targetSound : target.db.Sound := by
    have stepSound := act_sound numberText
      (.call ids (.createOperation workflowId dto caller)) sound
    have stepEq : act (deployed numberText) db (.call ids (.createOperation workflowId dto
        caller)) = target.db := by
      rw [act, Call.perform, bind_of_ok accepted]
      rfl
    rwa [stepEq] at stepSound
  obtain ⟨canvas, opened, created, committed, openEq, _, bounded, bodyEq, _, rfl⟩ :=
    createOperation_eq_ok_iff.mp accepted
  have opens := opens_of_eq sound openEq
  obtain ⟨workflow, found, _⟩ := getOrCreateCanvas_eq_ok_iff.mp openEq
  have workflows : opened.db.workflows = db.workflows :=
    congrArg Tenancy.workflows opens.step.toTenancy
  obtain ⟨locked, lockEq, cases⟩ := createOperationTransaction_eq_ok_iff.mp bodyEq
  obtain rfl := Option.some.inj (opens.canvasEq.symm.trans lockEq)
  rcases cases with ⟨stored, storedEq, same, rfl, rfl⟩ | ⟨rfl, next, applies, rfl⟩
  · obtain ⟨canvasId, object, user, opType, number, organization, workspace, revision, payload,
      vector⟩ := sameLogicalOperation_iff.mp same
    -- a row with an organization has a workspace
    obtain ⟨workspaceId, bound⟩ : ∃ workspaceId, stored.workspaceId = some workspaceId := by
      have scope := (opens.step.sound sound).scopes stored (Table.mem_of_get? storedEq)
      rw [CanvasOperation.phase04Scope, organization] at scope
      cases boundEq : stored.workspaceId with
      | none => simp [boundEq] at scope
      | some workspaceId => exact ⟨workspaceId, rfl⟩
    refine ⟨canvas.id, workspaceId, stored, ?_, ⟨targetSound, storedEq, ?_, workflows⟩,
      ⟨workflow, found⟩, bounded⟩
    · exact ⟨canvasId, congrArg _ object, fun _ => object, user, opType, number, organization,
        bound, revision, payload, vector⟩
    · exact ⟨canvas, opens.ofEq, rfl, workspace.symm.trans bound⟩
  · have scope := (checkOperation_eq_ok_iff.mp applies.accepted).2.2.2.1
    obtain ⟨workspaceId, bound⟩ : ∃ workspaceId, canvas.workspaceId = some workspaceId := by
      cases boundEq : canvas.workspaceId with
      | none =>
          simp [CanvasOperation.phase04Scope, CreateCanvasOperationDto.operation,
            CanvasOperation.stored, boundEq] at scope
      | some workspaceId => exact ⟨workspaceId, rfl⟩
    refine ⟨canvas.id, workspaceId, (dto.operation canvas caller).stored, ?_,
      ⟨targetSound, ?_, ?_, ?_⟩, ⟨workflow, found⟩, bounded⟩
    · constructor
      · rfl
      · cases objectEq : dto.canvasObjectId with
        | none => simp [CreateCanvasOperationDto.operation, CanvasOperation.stored, objectEq]
        | some text =>
            simp only [CreateCanvasOperationDto.operation, CanvasOperation.stored, objectEq,
              Option.map_some, Option.some.injEq]
            exact uuid_text (uuid text)
      · intro canonical
        cases objectEq : dto.canvasObjectId with
        | none => simp [CreateCanvasOperationDto.operation, CanvasOperation.stored, objectEq]
        | some text =>
            simp [CreateCanvasOperationDto.operation, CanvasOperation.stored, objectEq,
              canonical text objectEq]
      · rfl
      · rfl
      · rw [applies.revisionEq]
        rfl
      · rfl
      · exact bound
      · rfl
      · exact Json.jsonb_same _
      · exact Json.jsonb_same _
    · have fresh := applies.fresh
      rw [Db.operation?] at fresh
      rw [applies.nextEq, Db.operation?, Table.get?_append, fresh]
      simp [CreateCanvasOperationDto.operation, CanvasOperation.stored, uuid]
    · have before : opened.db.Binds (uuid workflowId) canvas.id workspaceId :=
        ⟨canvas, opens.ofEq, rfl, bound⟩
      rw [applies.nextEq]
      exact binds_save canvas canvas.advance (opens.step.sound sound).canvasesKeyed opens.canvasEq
        rfl (fun _ => id) before
    · rw [applies.nextEq]
      exact workflows

/-! ## Answers to a repeated identifier -/

/-- The canvas of a bound workflow is opened as it is. -/
theorem open_of_binds (ids : GeneratedIds) {workflowId : String} {orgId canvasId workspaceId : Uuid}
    {workflow : Workflow} (found : db.workflowInOrg? (uuid workflowId) orgId = some workflow)
    (binds : db.Binds (uuid workflowId) canvasId workspaceId) :
    ∃ canvas, db.canvasOf? (uuid workflowId) = some canvas ∧ canvas.id = canvasId ∧
      canvas.workspaceId = some workspaceId ∧
      getOrCreateCanvas ids workflowId orgId ⟨db, []⟩ = (.ok canvas, ⟨db, []⟩) := by
  obtain ⟨canvas, canvasEq, canvasId, bound⟩ := binds
  have workflowId := (workflowInOrg?_eq_some found).2.1
  refine ⟨canvas, canvasEq, canvasId, bound, getOrCreateCanvas_eq_ok_iff.mpr
    ⟨workflow, found, Or.inl ⟨?_, rfl⟩⟩⟩
  rw [workflowId]
  exact canvasEq

/-- A canonical request that is repeated gets its row, and does nothing. -/
theorem Kept.replay {host : Host} {workflowId : String} {canvasId workspaceId : Uuid}
    {workflow : Workflow}
    (kept : Kept db stored (uuid dto.operationId) (uuid workflowId) canvasId workspaceId
      db.workflows)
    (records : Records stored canvasId workspaceId dto caller) (canonical : dto.Canonical)
    (found : db.workflowInOrg? (uuid workflowId) caller.orgId = some workflow)
    (bounded : payloadBounded host dto.opPayload = true)
    (authorised : db.Authorised (uuid workflowId) caller) :
    createOperation host ids workflowId dto caller ⟨db, []⟩ = (.ok stored, ⟨db, []⟩) := by
  obtain ⟨canvas, canvasEq, canvasIdEq, bound, openEq⟩ :=
    open_of_binds ids found kept.binds
  have lockEq : db.canvas? canvas.id = some canvas :=
    kept.sound.canvasesKeyed.get?_of_mem (canvasOf?_eq_some canvasEq).1
  have same : sameLogicalOperation stored canvas dto caller = true := by
    apply Records.same _ canonical bound
    rw [canvasIdEq]
    exact records
  rw [createOperation_of_stored openEq (authorised canvas canvasEq) bounded lockEq kept.row,
    if_pos same]

/-- Another request under the same identifier gets a conflict, and changes
nothing. -/
theorem Kept.reuse {host : Host} {workflowId otherWorkflowId : String}
    {canvasId workspaceId : Uuid} {workflows : List Workflow}
    {other : CreateCanvasOperationDto} {otherCaller : RequestUser}
    (kept : Kept db stored (uuid dto.operationId) (uuid workflowId) canvasId workspaceId
      workflows)
    (records : Records stored canvasId workspaceId dto caller)
    (reused : uuid other.operationId = uuid dto.operationId)
    (differs : ¬ SameRequest workflowId dto caller otherWorkflowId other otherCaller)
    (passes : GuardsPass host ids otherWorkflowId other otherCaller db) :
    ∃ after, createOperation host ids otherWorkflowId other otherCaller ⟨db, []⟩ =
        (.error (.conflict "Operation ID is already used by a different operation"), after) ∧
      after.broadcasts = [] ∧ Unchanged db after.db := by
  obtain ⟨canvas, opened, openEq, permitted, bounded⟩ := passes
  have opens := opens_of_eq kept.sound openEq
  have row : opened.db.operation? (uuid other.operationId) = some stored := by
    rw [reused, opens.step.operation?]
    exact kept.row
  have workflow : canvas.id = canvasId → uuid otherWorkflowId = uuid workflowId := by
    intro sameId
    obtain ⟨bound, boundEq, boundId, _⟩ := opens.step.binds kept.binds
    obtain ⟨boundMem, boundWorkflow⟩ := canvasOf?_eq_some boundEq
    have openedSound := opens.step.sound kept.sound
    have sameCanvas : canvas = bound :=
      openedSound.canvasesKeyed.eq (Table.mem_of_get? opens.canvasEq) boundMem
        (sameId.trans boundId.symm)
    rw [← boundWorkflow, ← sameCanvas, (canvasOf?_eq_some opens.ofEq).2]
  have different : ¬ sameLogicalOperation stored canvas other otherCaller = true := by
    intro same
    exact differs (records.sameRequest same workflow)
  refine ⟨opened, ?_, getOrCreateCanvas_broadcasts openEq, opens.step.unchanged⟩
  rw [createOperation_of_stored openEq permitted bounded opens.canvasEq row, if_neg different]

/-- Client operations are applied exactly once.  After a request was accepted
and any further actions, the same request, if it names its object in lower case
and its caller is authorised, returns the row that the first left, changes
nothing and broadcasts nothing; any other request under the same identifier
that gets as far as the lookup of its identifier is refused with a conflict, and
changes no canvas, object or operation. -/
theorem operation_applied_once (numberText : Number → String) {start db later : Db}
    {actions continued : List Action} (sound : start.Sound)
    (reached : (system (deployed numberText)).run start actions = some db)
    {ids : GeneratedIds} {workflowId : String} {dto : CreateCanvasOperationDto}
    {caller : RequestUser} {operation : CanvasOperation} {target : World}
    (accepted : createOperation (deployed numberText) ids workflowId dto caller ⟨db, []⟩ =
      (.ok operation, target))
    (went : (system (deployed numberText)).run target.db continued = some later) :
    ∃ stored, target.db.operation? (uuid dto.operationId) = some stored ∧
      (dto.Canonical → later.Authorised (uuid workflowId) caller → ∀ ids,
        createOperation (deployed numberText) ids workflowId dto caller ⟨later, []⟩ =
          (.ok stored, ⟨later, []⟩)) ∧
      (∀ ids otherWorkflowId other otherCaller, uuid other.operationId = uuid dto.operationId →
        ¬ SameRequest workflowId dto caller otherWorkflowId other otherCaller →
        GuardsPass (deployed numberText) ids otherWorkflowId other otherCaller later →
        ∃ after, createOperation (deployed numberText) ids otherWorkflowId other otherCaller
            ⟨later, []⟩ =
            (.error (.conflict "Operation ID is already used by a different operation"), after) ∧
          after.broadcasts = [] ∧ Unchanged later after.db) := by
  obtain ⟨canvasId, workspaceId, stored, records, kept, ⟨workflow, found⟩, bounded⟩ :=
    kept_of_accepted (sound_of_run sound reached) accepted
  have keptLater := kept.run went
  have workflows : later.workflows = db.workflows := keptLater.workflows
  have foundLater : later.workflowInOrg? (uuid workflowId) caller.orgId = some workflow := by
    rw [Db.workflowInOrg?, workflows]
    exact found
  refine ⟨stored, kept.row, ?_, ?_⟩
  · intro canonical authorised ids
    rw [← workflows] at keptLater
    exact keptLater.replay records canonical foundLater bounded authorised
  · intro ids otherWorkflowId other otherCaller reused differs passes
    exact keptLater.reuse records reused differs passes

/-! ## An example -/

/-- A client moves the object of the canvas. -/
def exampleRequest : CreateCanvasOperationDto where
  operationId := "request"
  clientRevision := 1
  canvasObjectId := some "object"
  opType := "object_move"
  opPayload := [("position_x", .num 3)]
  versionVector := none

/-- The canvas bound to its workspace. -/
def exampleBoundDb : Db :=
  act exampleHost exampleDb (.bindWorkspace (uuid "canvas") (uuid "workspace"))

/-- The service answers the request. -/
def exampleAnswer : Except Exception CanvasOperation × World :=
  createOperation exampleHost exampleIds "workflow" exampleRequest exampleCaller
    ⟨exampleBoundDb, []⟩

/-- A member of another organization. -/
def exampleStranger : RequestUser := ⟨uuid "stranger", uuid "other-org", "admin"⟩

theorem exampleBound_reached :
    (system exampleHost).run exampleStart
      [exampleCreation, .bindWorkspace (uuid "canvas") (uuid "workspace")] = some exampleBoundDb :=
  rfl

theorem exampleStart_sound : exampleStart.Sound :=
  sound_of_empty (List.nodup_singleton _) rfl rfl rfl

theorem operation_applied_once_example :
    ∃ stored, exampleAnswer.2.db.operation? (uuid "request") = some stored ∧
      createOperation exampleHost exampleNextIds "workflow" exampleRequest exampleCaller
          ⟨exampleAnswer.2.db, []⟩ =
        (.ok stored, ⟨exampleAnswer.2.db, []⟩) := by
  have accepted : exampleAnswer =
      (.ok (exampleRequest.operation
        ⟨uuid "canvas", uuid "workflow", some (uuid "workspace"), 1, 1440, 1024, "#FFFFFF"⟩
        exampleCaller), exampleAnswer.2) := by decide
  have went : (system exampleHost).run exampleAnswer.2.db [] = some exampleAnswer.2.db := rfl
  obtain ⟨stored, storedEq, replay, _⟩ :=
    operation_applied_once exampleText exampleStart_sound exampleBound_reached accepted went
  refine ⟨stored, storedEq, replay ?_ ?_ exampleNextIds⟩
  · intro text textEq
    cases textEq
    decide
  · intro canvas canvasEq
    cases canvasEq
    decide

/-- A request that reuses an identifier is not always refused with a conflict:
a caller of another organization does not find the workflow. -/
theorem reuse_not_conflict :
    exampleAnswer.1.isOk = true ∧ exampleStranger.orgId ≠ exampleCaller.orgId ∧
      createOperation exampleHost exampleNextIds "workflow" exampleRequest exampleStranger
          ⟨exampleAnswer.2.db, []⟩ =
        (.error (.notFound "Workflow not found"), ⟨exampleAnswer.2.db, []⟩) :=
  ⟨by decide, by decide, rfl⟩

end Manbaa.Canvases
