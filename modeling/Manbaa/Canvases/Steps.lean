import Manbaa.Canvases.Service

/-!
# What a call does to the database

Every call of the service does one of two things.  It opens the canvas of a
workflow and stops there, which at most creates an empty canvas; or it opens a
canvas, edits one object of it or none, and appends one operation to its log.
Calls that throw, and client operations that were applied before, do the first;
all others do the second.

The invariants of the canvas tables are derived from this alone.
-/

namespace Manbaa.Canvases

open Manbaa.Lib Manbaa.Lib.Effect Manbaa.Workspaces

/-! ## Changes of the database -/

/-- The canvas of a workflow is opened: it exists, or it is created. -/
inductive Opened (db : Db) : Db → Prop where
  | found : Opened db db
  | created (id : Uuid) (workflow : Workflow) (workflowMem : workflow ∈ db.workflows)
      (fresh : db.canvas? id = none)
      (unused : ∀ other ∈ db.canvases, other.workflowId ≠ workflow.id) :
      Opened db { db with canvases := db.canvases ++ [newCanvas id workflow.id] }

/-- The change of an object that an operation records, on the canvas of the
operation. -/
inductive Edited (host : Host) (operation : CanvasOperation) (db : Db) : Db → Prop where
  | kept : Edited host operation db db
  | inserted (object : CanvasObject) (fresh : db.object? object.id = none)
      (accepted : host.schema.object db object.stored = .ok ())
      (onCanvas : object.canvasId = operation.canvasId) :
      Edited host operation db { db with objects := db.objects ++ [object.stored] }
  | saved (old object : CanvasObject) (oldMem : old ∈ db.objects) (sameId : old.id = object.id)
      (sameCanvas : old.canvasId = object.canvasId)
      (accepted : host.schema.object db object.stored = .ok ())
      (onCanvas : object.canvasId = operation.canvasId) :
      Edited host operation db
        { db with objects := Table.save CanvasObject.id db.objects object.stored }
  | removed (object : CanvasObject) (objectMem : object ∈ db.objects)
      (recorded : operation.canvasObjectId.map uuid = some object.id)
      (onCanvas : object.canvasId = operation.canvasId) :
      Edited host operation db
        { db with
          objects := Table.delete CanvasObject.id db.objects object.id
          operations := db.operations.map (CanvasOperation.forget object.id) }

/-- The operation is appended to the log of the canvas, whose revision becomes
the number of the operation. -/
structure Appended (host : Host) (canvas : Canvas) (operation : CanvasOperation)
    (db next : Db) : Prop where
  canvasEq : db.canvas? canvas.id = some canvas
  canvasIdEq : operation.canvasId = canvas.id
  workspaceIdEq : operation.workspaceId = canvas.workspaceId
  numberEq : operation.sequenceNumber = canvas.revision + 1
  fresh : db.operation? (uuid operation.id) = none
  accepted : host.schema.operation db operation.stored = .ok ()
  nextEq : next =
    { db with
      operations := db.operations ++ [operation.stored]
      canvases := Table.save Canvas.id db.canvases canvas.advance }

/-- A call that changed a canvas. -/
structure Committed (host : Host) (canvas : Canvas) (operation : CanvasOperation)
    (db next : Db) : Prop where
  steps : ∃ opened edited, Opened db opened ∧ Edited host operation opened edited ∧
    Appended host canvas operation edited next

theorem Opened.toTenancy {db opened : Db} (step : Opened db opened) :
    opened.toTenancy = db.toTenancy := by
  cases step <;> rfl

theorem Opened.objects {db opened : Db} (step : Opened db opened) :
    opened.objects = db.objects := by
  cases step <;> rfl

theorem Opened.operations {db opened : Db} (step : Opened db opened) :
    opened.operations = db.operations := by
  cases step <;> rfl

theorem Opened.operation? {db opened : Db} (step : Opened db opened) (id : Uuid) :
    opened.operation? id = db.operation? id := by
  rw [Db.operation?, Db.operation?, step.operations]

/-- Opening a canvas changes no canvas that exists. -/
theorem Opened.canvas? {db opened : Db} (step : Opened db opened) {id : Uuid} {canvas : Canvas}
    (canvasEq : db.canvas? id = some canvas) : opened.canvas? id = some canvas := by
  cases step with
  | found => exact canvasEq
  | created newId workflow workflowMem fresh unused =>
      rw [Db.canvas?] at canvasEq ⊢
      rw [Table.get?_append, canvasEq, Option.some_or]

theorem Edited.toTenancy {host : Host} {operation : CanvasOperation} {db edited : Db}
    (step : Edited host operation db edited) : edited.toTenancy = db.toTenancy := by
  cases step <;> rfl

theorem Edited.canvases {host : Host} {operation : CanvasOperation} {db edited : Db}
    (step : Edited host operation db edited) : edited.canvases = db.canvases := by
  cases step <;> rfl

theorem Appended.toTenancy {host : Host} {canvas : Canvas} {operation : CanvasOperation}
    {db next : Db} (step : Appended host canvas operation db next) :
    next.toTenancy = db.toTenancy := by
  rw [step.nextEq]

/-- Appending advances the canvas and leaves the others alone. -/
theorem Appended.canvas? {host : Host} {canvas : Canvas} {operation : CanvasOperation}
    {db next : Db} (step : Appended host canvas operation db next) (id : Uuid) :
    next.canvas? id = if canvas.id = id then some canvas.advance else db.canvas? id := by
  rw [step.nextEq]
  exact Table.get?_save

/-- The workflow of a canvas never changes. -/
theorem Appended.workflowOf {host : Host} {canvas : Canvas} {operation : CanvasOperation}
    {db next : Db} (step : Appended host canvas operation db next) (id orgId : Uuid) :
    next.workflowOf id orgId = db.workflowOf id orgId := by
  have workflows : ∀ workflowId, next.workflow? workflowId = db.workflow? workflowId := by
    intro workflowId
    rw [step.nextEq]
    rfl
  simp only [Db.workflowOf, step.canvas? id]
  by_cases h : canvas.id = id
  · subst id
    simp [step.canvasEq, Canvas.advance, workflows]
  · simp [h, workflows]

theorem Edited.workflowOf {host : Host} {operation : CanvasOperation} {db edited : Db}
    (step : Edited host operation db edited) (id orgId : Uuid) :
    edited.workflowOf id orgId = db.workflowOf id orgId := by
  cases step <;> rfl

/-! ## Statements -/

@[simp]
theorem execute_eq_ok_iff {statement : Db → Except Refusal Db} {world target : World}
    {done : Unit} :
    execute statement world = (.ok done, target) ↔
      ∃ db, statement world.db = .ok db ∧ target = { world with db := db } := by
  rw [execute]
  cases statement world.db with
  | error refusal => simp
  | ok db => simp [eq_comm]

@[simp]
theorem execute_eq_error_iff {statement : Db → Except Refusal Db} {world target : World}
    {exception : Exception} :
    execute statement world = (.error exception, target) ↔
      (∃ refusal, statement world.db = .error refusal ∧ exception = .queryFailed refusal) ∧
        world = target := by
  rw [execute]
  cases statement world.db with
  | error refusal => simp [eq_comm]
  | ok db => simp

theorem insertCanvas_eq_ok_iff {canvas : Canvas} {db next : Db} :
    db.insertCanvas canvas = .ok next ↔
      db.canvas? canvas.id = none ∧ (∀ other ∈ db.canvases, other.workflowId ≠ canvas.workflowId) ∧
        { db with canvases := db.canvases ++ [canvas] } = next := by
  simp [Db.insertCanvas, except_bind_eq_ok_iff, pure_eq_ok]

theorem insertObject_eq_ok_iff {schema : Schema} {object : CanvasObject} {db next : Db} :
    db.insertObject schema object = .ok next ↔
      db.object? object.id = none ∧ schema.object db object.stored = .ok () ∧
        { db with objects := db.objects ++ [object.stored] } = next := by
  simp [Db.insertObject, except_bind_eq_ok_iff, pure_eq_ok]

theorem saveObject_eq_ok_iff {schema : Schema} {object : CanvasObject} {db next : Db} :
    db.saveObject schema object = .ok next ↔
      schema.object db object.stored = .ok () ∧
        { db with objects := Table.save CanvasObject.id db.objects object.stored } = next := by
  simp [Db.saveObject, except_bind_eq_ok_iff, pure_eq_ok]

theorem insertOperation_eq_ok_iff {schema : Schema} {operation : CanvasOperation} {db next : Db} :
    db.insertOperation schema operation = .ok next ↔
      db.operation? (uuid operation.id) = none ∧
        schema.operation db operation.stored = .ok () ∧
        { db with operations := db.operations ++ [operation.stored] } = next := by
  simp [Db.insertOperation, except_bind_eq_ok_iff, pure_eq_ok]

theorem saveOperation_eq_ok_iff {schema : Schema} {operation : CanvasOperation} {db next : Db} :
    db.saveOperation schema operation = .ok next ↔
      schema.operation db operation.stored = .ok () ∧
        { db with
          operations := Table.save CanvasOperation.id db.operations operation.stored } = next := by
  simp [Db.saveOperation, except_bind_eq_ok_iff, pure_eq_ok]

@[simp]
theorem saveCanvas_eq_ok_iff {canvas : Canvas} {db next : Db} :
    db.saveCanvas canvas = .ok next ↔
      { db with canvases := Table.save Canvas.id db.canvases canvas } = next := by
  simp [Db.saveCanvas, pure_eq_ok]

@[simp]
theorem removeObject_eq_ok_iff {object : CanvasObject} {db next : Db} :
    db.removeObject object = .ok next ↔
      { db with
        objects := Table.delete CanvasObject.id db.objects object.id
        operations := db.operations.map (CanvasOperation.forget object.id) } = next := by
  simp [Db.removeObject, pure_eq_ok]

theorem broadcastIn_eq_ok_iff {workspaceId : Option Uuid} {event : Uuid → Broadcast}
    {world target : World} {done : Unit} :
    broadcastIn workspaceId event world = (.ok done, target) ↔
      { world with broadcasts := world.broadcasts ++ workspaceId.toList.map event } = target := by
  cases workspaceId with
  | none => simp [broadcastIn]
  | some workspaceId => simp [broadcastIn, broadcast]

@[simp]
theorem broadcastIn_ne_error {workspaceId : Option Uuid} {event : Uuid → Broadcast}
    {world target : World} {exception : Exception} :
    broadcastIn workspaceId event world ≠ (.error exception, target) := by
  cases workspaceId with
  | none => simp [broadcastIn]
  | some workspaceId => simp [broadcastIn, broadcast]

/-! ## Lookups and guards -/

theorem readOnly_findWorkflowInOrgOrThrow {workflowId : String} {orgId : Uuid} :
    ReadOnly (findWorkflowInOrgOrThrow workflowId orgId) :=
  readOnly_reading.bind fun _ => readOnly_orThrow

theorem readOnly_findCanvasOrThrow {canvasId : Uuid} : ReadOnly (findCanvasOrThrow canvasId) :=
  readOnly_reading.bind fun _ => readOnly_orThrow

theorem readOnly_resolveWorkflowId {canvasId orgId : Uuid} :
    ReadOnly (resolveWorkflowId canvasId orgId) :=
  readOnly_reading.bind fun _ => readOnly_orThrow

theorem readOnly_findObjectInOrgOrThrow {objectId : String} {orgId : Uuid} :
    ReadOnly (findObjectInOrgOrThrow objectId orgId) :=
  readOnly_reading.bind fun _ => readOnly_orThrow.bind fun _ =>
    readOnly_resolveWorkflowId.bind fun _ => readOnly_pure

theorem readOnly_requireCanvasMutationPermission {canvas : Canvas} {caller : RequestUser} :
    ReadOnly (requireCanvasMutationPermission canvas caller) :=
  readOnly_asking

@[simp]
theorem findCanvasOrThrow_eq_ok_iff {canvasId : Uuid} {canvas : Canvas} {world target : World} :
    findCanvasOrThrow canvasId world = (.ok canvas, target) ↔
      world.db.canvas? canvasId = some canvas ∧ world = target := by
  simp [findCanvasOrThrow, bind_eq_ok_iff]

@[simp]
theorem resolveWorkflowId_eq_ok_iff {canvasId orgId workflowId : Uuid} {world target : World} :
    resolveWorkflowId canvasId orgId world = (.ok workflowId, target) ↔
      world.db.workflowOf canvasId orgId = some workflowId ∧ world = target := by
  simp [resolveWorkflowId, bind_eq_ok_iff]

@[simp]
theorem resolveWorkflowId_eq_error_iff {canvasId orgId : Uuid} {exception : Exception}
    {world target : World} :
    resolveWorkflowId canvasId orgId world = (.error exception, target) ↔
      world.db.workflowOf canvasId orgId = none ∧
        .notFound "Canvas not found" = exception ∧ world = target := by
  simp [resolveWorkflowId, bind_eq_error_iff]

@[simp]
theorem findObjectInOrgOrThrow_eq_ok_iff {objectId : String} {orgId : Uuid}
    {object : CanvasObject} {world target : World} :
    findObjectInOrgOrThrow objectId orgId world = (.ok object, target) ↔
      world.db.object? (uuid objectId) = some object ∧
        (world.db.workflowOf object.canvasId orgId).isSome ∧ world = target := by
  simp only [findObjectInOrgOrThrow, bind_eq_ok_iff, reading_eq_ok_iff,
    orThrow_eq_ok_iff, resolveWorkflowId_eq_ok_iff, pure_eq_ok_iff, Option.isSome_iff_exists]
  constructor
  · rintro ⟨_, _, ⟨rfl, rfl⟩, _, _, ⟨found, rfl⟩, workflowId, _, ⟨resolved, rfl⟩, rfl, rfl⟩
    exact ⟨found, ⟨workflowId, resolved⟩, rfl⟩
  · rintro ⟨found, ⟨workflowId, resolved⟩, rfl⟩
    exact ⟨_, _, ⟨rfl, rfl⟩, _, _, ⟨found, rfl⟩, workflowId, _, ⟨resolved, rfl⟩, rfl, rfl⟩

@[simp]
theorem requireCanvasMutationPermission_eq_ok_iff {canvas : Canvas} {caller : RequestUser}
    {world target : World} {done : Unit} :
    requireCanvasMutationPermission canvas caller world = (.ok done, target) ↔
      mutationPermission canvas caller world.db = .ok () ∧ world = target := by
  simp [requireCanvasMutationPermission]

/-- How a canvas is opened. -/
theorem getOrCreateCanvas_eq_ok_iff {ids : GeneratedIds} {workflowId : String} {orgId : Uuid}
    {canvas : Canvas} {world target : World} :
    getOrCreateCanvas ids workflowId orgId world = (.ok canvas, target) ↔
      ∃ workflow, world.db.workflowInOrg? (uuid workflowId) orgId = some workflow ∧
        (world.db.canvasOf? workflow.id = some canvas ∧ world = target ∨
          world.db.canvasOf? workflow.id = none ∧ canvas = newCanvas ids.canvas workflow.id ∧
            ∃ db, world.db.insertCanvas canvas = .ok db ∧ { world with db := db } = target) := by
  simp only [getOrCreateCanvas, findWorkflowInOrgOrThrow, bind_eq_ok_iff,
    reading_eq_ok_iff, orThrow_eq_ok_iff]
  constructor
  · rintro ⟨workflow, _, ⟨_, _, ⟨rfl, rfl⟩, found, rfl⟩, existing, _, ⟨rfl, rfl⟩, rest⟩
    refine ⟨workflow, found, ?_⟩
    cases existing : world.db.canvasOf? workflow.id with
    | some other =>
        rw [existing] at rest
        obtain ⟨rfl, rfl⟩ := pure_eq_ok_iff.mp rest
        exact Or.inl ⟨rfl, rfl⟩
    | none =>
        rw [existing] at rest
        obtain ⟨done, _, inserted, returned⟩ := bind_eq_ok_iff.mp rest
        obtain ⟨rfl, rfl⟩ := pure_eq_ok_iff.mp returned
        obtain ⟨db, insertEq, rfl⟩ := execute_eq_ok_iff.mp inserted
        exact Or.inr ⟨rfl, rfl, db, insertEq, rfl⟩
  · rintro ⟨workflow, found, ⟨existing, rfl⟩ | ⟨existing, rfl, db, insertEq, rfl⟩⟩
    · refine ⟨workflow, world, ⟨_, _, ⟨rfl, rfl⟩, found, rfl⟩, _, _, ⟨rfl, rfl⟩, ?_⟩
      rw [existing]
      exact pure_eq_ok_iff.mpr ⟨rfl, rfl⟩
    · refine ⟨workflow, world, ⟨_, _, ⟨rfl, rfl⟩, found, rfl⟩, _, _, ⟨rfl, rfl⟩, ?_⟩
      rw [existing]
      exact bind_eq_ok_iff.mpr
        ⟨(), _, execute_eq_ok_iff.mpr ⟨db, insertEq, rfl⟩, pure_eq_ok_iff.mpr ⟨rfl, rfl⟩⟩

/-! ## Appending to the log -/

/-- The operation that a locked canvas gets, and the database afterwards. -/
theorem appendOperationWithLockedCanvas_eq_ok_iff {host : Host} {ids : GeneratedIds}
    {canvas : Canvas} {canvasObjectId : Option String} {userId : Uuid} {opType : String}
    {opPayload : Json.Fields} {versionVector : Option Json.Fields} {world target : World}
    {operation : CanvasOperation} :
    appendOperationWithLockedCanvas host ids canvas canvasObjectId userId opType opPayload
        versionVector world = (.ok operation, target) ↔
      (canvas.workspaceId.isNone || (world.db.workflowOfBound? canvas).isSome) = true ∧
      operation = nextOperation ids canvas (world.db.workflowOfBound? canvas) canvasObjectId
        userId opType opPayload versionVector ∧
      world.db.operation? (uuid operation.id) = none ∧
      host.schema.operation world.db operation.stored = .ok () ∧
      { world with
        db :=
          { world.db with
            operations := world.db.operations ++ [operation.stored]
            canvases := Table.save Canvas.id world.db.canvases canvas.advance } } = target := by
  simp only [appendOperationWithLockedCanvas, bind_eq_ok_iff, reading_eq_ok_iff,
    require_eq_ok_iff, execute_eq_ok_iff, insertOperation_eq_ok_iff, saveCanvas_eq_ok_iff,
    pure_eq_ok_iff]
  constructor
  · rintro ⟨_, _, ⟨rfl, rfl⟩, _, _, ⟨found, rfl⟩, _, _, ⟨_, ⟨fresh, accepted, rfl⟩, rfl⟩, _, _,
      ⟨_, rfl, rfl⟩, rfl, rfl⟩
    exact ⟨found, rfl, fresh, accepted, rfl⟩
  · rintro ⟨found, rfl, fresh, accepted, rfl⟩
    exact ⟨_, _, ⟨rfl, rfl⟩, (), _, ⟨found, rfl⟩, (), _, ⟨_, ⟨fresh, accepted, rfl⟩, rfl⟩, (), _,
      ⟨_, rfl, rfl⟩, rfl, rfl⟩

/-- Appending to the log of the canvas that is locked. -/
theorem appended_of_append {host : Host} {ids : GeneratedIds} {canvas : Canvas}
    {canvasObjectId : Option String} {userId : Uuid} {opType : String}
    {opPayload : Json.Fields} {versionVector : Option Json.Fields} {world target : World}
    {operation : CanvasOperation}
    (appendEq : appendOperationWithLockedCanvas host ids canvas canvasObjectId userId opType
      opPayload versionVector world = (.ok operation, target))
    (canvasEq : world.db.canvas? canvas.id = some canvas) :
    Appended host canvas operation world.db target.db ∧
      operation.canvasObjectId = canvasObjectId := by
  obtain ⟨_, operationEq, fresh, accepted, rfl⟩ :=
    appendOperationWithLockedCanvas_eq_ok_iff.mp appendEq
  have fields : operation.canvasId = canvas.id ∧ operation.workspaceId = canvas.workspaceId ∧
      operation.sequenceNumber = canvas.revision + 1 ∧
      operation.canvasObjectId = canvasObjectId := by
    rw [operationEq]
    exact ⟨rfl, rfl, rfl, rfl⟩
  obtain ⟨canvasIdEq, workspaceIdEq, numberEq, objectEq⟩ := fields
  exact ⟨⟨canvasEq, canvasIdEq, workspaceIdEq, numberEq, fresh, accepted, rfl⟩, objectEq⟩

theorem id_of_canvas? {db : Db} {id : Uuid} {canvas : Canvas}
    (canvasEq : db.canvas? id = some canvas) : canvas.id = id :=
  Table.key_of_get? canvasEq

/-- A canvas that was found is found under its own identifier. -/
theorem canvas?_id {db : Db} {id : Uuid} {canvas : Canvas}
    (canvasEq : db.canvas? id = some canvas) : db.canvas? canvas.id = some canvas := by
  rw [id_of_canvas? canvasEq]
  exact canvasEq

/-- Opening a canvas, seen from the database. -/
theorem opened_of_getOrCreateCanvas {ids : GeneratedIds} {workflowId : String} {orgId : Uuid}
    {canvas : Canvas} {world target : World}
    (openEq : getOrCreateCanvas ids workflowId orgId world = (.ok canvas, target)) :
    Opened world.db target.db := by
  obtain ⟨workflow, found, opened⟩ := getOrCreateCanvas_eq_ok_iff.mp openEq
  rcases opened with ⟨_, rfl⟩ | ⟨_, rfl, db, insertEq, rfl⟩
  · exact Opened.found
  · obtain ⟨fresh, unused, rfl⟩ := insertCanvas_eq_ok_iff.mp insertEq
    exact Opened.created ids.canvas workflow (List.mem_of_find?_eq_some found) fresh unused

theorem atomic_getOrCreateCanvas {ids : GeneratedIds} {workflowId : String} {orgId : Uuid} :
    Atomic (getOrCreateCanvas ids workflowId orgId) := by
  apply readOnly_findWorkflowInOrgOrThrow.bind_atomic
  intro workflow
  apply readOnly_reading.bind_atomic
  intro existing
  cases existing with
  | some canvas => exact readOnly_pure.atomic
  | none =>
      intro world exception target bodyEq
      rcases bind_eq_error_iff.mp bodyEq with insertEq | ⟨_, _, _, returned⟩
      · exact (execute_eq_error_iff.mp insertEq).2
      · exact absurd returned pure_ne_error

/-! ## Calls -/

section

variable {host : Host} {ids : GeneratedIds} {caller : RequestUser} {world target : World}

theorem createObject_committed {workflowId : String} {dto : CreateCanvasObjectDto}
    {saved : CanvasObject}
    (callEq : createObject host ids workflowId dto caller world = (.ok saved, target)) :
    ∃ canvas operation, Committed host canvas operation world.db target.db := by
  simp only [createObject, bind_eq_ok_iff, requireCanvasMutationPermission_eq_ok_iff,
    transaction_eq_ok_iff, findCanvasOrThrow_eq_ok_iff, execute_eq_ok_iff,
    insertObject_eq_ok_iff, pure_eq_ok_iff, broadcast, writing_eq_ok_iff] at callEq
  obtain ⟨canvas, opened, openEq, _, _, ⟨_, rfl⟩, object, appended,
    ⟨locked, _, ⟨lockEq, rfl⟩, _, edited, ⟨db, ⟨fresh, accepted, rfl⟩, rfl⟩, operation, _,
      appendEq, rfl, rfl⟩, _, _, rfl, rfl, rfl⟩ := callEq
  have step := (appended_of_append appendEq (canvas?_id lockEq)).1
  have onCanvas : canvas.id = operation.canvasId :=
    (id_of_canvas? lockEq).symm.trans step.canvasIdEq.symm
  exact ⟨locked, operation,
    ⟨_, _, opened_of_getOrCreateCanvas openEq, Edited.inserted _ fresh accepted onCanvas, step⟩⟩

theorem appendOperation_committed {canvasId : String} {canvasObjectId : Option String}
    {userId : Uuid} {opType : String} {opPayload : Json.Fields}
    {versionVector : Option Json.Fields} {operation : CanvasOperation}
    (callEq : appendOperation host ids canvasId canvasObjectId userId opType opPayload
      versionVector world = (.ok operation, target)) :
    ∃ canvas, Committed host canvas operation world.db target.db := by
  simp only [appendOperation, transaction_eq_ok_iff, bind_eq_ok_iff,
    findCanvasOrThrow_eq_ok_iff] at callEq
  obtain ⟨canvas, _, ⟨lockEq, rfl⟩, appendEq⟩ := callEq
  have step := (appended_of_append appendEq (canvas?_id lockEq)).1
  exact ⟨canvas, ⟨_, _, Opened.found, Edited.kept, step⟩⟩

/-- The change of a locked object edits that object and appends one operation
to the log of the canvas. -/
def Changes (host : Host) (objectId : String)
    (change : Canvas → CanvasObject → Service CanvasObject) : Prop :=
  ∀ canvas object before result later,
    before.db.canvas? canvas.id = some canvas → object ∈ before.db.objects →
    object.id = uuid objectId → object.canvasId = canvas.id → change canvas object before = (.ok result, later) →
    ∃ operation edited, Edited host operation before.db edited ∧
      Appended host canvas operation edited later.db

/-- An object that is found is found on its canvas. -/
theorem objectOn?_of_object? {db : Db} {objectId : Uuid} {object : CanvasObject}
    (found : db.object? objectId = some object) :
    db.objectOn? objectId object.canvasId = some object := by
  rw [Db.object?, Table.get?, List.find?_eq_some_iff_append] at found
  rw [Db.objectOn?, List.find?_eq_some_iff_append]
  obtain ⟨matched, before, after, rowsEq, others⟩ := found
  refine ⟨?_, before, after, rowsEq, ?_⟩
  · simpa using matched
  · intro other otherMem
    have differs := others other otherMem
    simp only [Bool.not_eq_true', decide_eq_false_iff_not] at differs
    simp [differs]

/-- The caller may change the object: the guards of `mutateObject` pass. -/
structure Permits (db : Db) (objectId : String) (caller : RequestUser) (canvas : Canvas)
    (object : CanvasObject) : Prop where
  objectEq : db.object? (uuid objectId) = some object
  resolved : (db.workflowOf object.canvasId caller.orgId).isSome
  canvasEq : db.canvas? object.canvasId = some canvas
  permitted : mutationPermission canvas caller db = .ok ()
  unlocked : (!object.isLocked || caller.role == UserRole.admin.text) = true

theorem Permits.lockEq {db : Db} {objectId : String} {canvas : Canvas} {object : CanvasObject}
    (permits : Permits db objectId caller canvas object) :
    db.canvas? canvas.id = some canvas :=
  canvas?_id permits.canvasEq

theorem Permits.found {db : Db} {objectId : String} {canvas : Canvas} {object : CanvasObject}
    (permits : Permits db objectId caller canvas object) :
    db.objectOn? (uuid objectId) canvas.id = some object := by
  rw [id_of_canvas? permits.canvasEq]
  exact objectOn?_of_object? permits.objectEq

theorem Permits.objectMem {db : Db} {objectId : String} {canvas : Canvas}
    {object : CanvasObject} (permits : Permits db objectId caller canvas object) :
    object ∈ db.objects :=
  Table.mem_of_get? permits.objectEq

theorem Permits.onCanvas {db : Db} {objectId : String} {canvas : Canvas}
    {object : CanvasObject} (permits : Permits db objectId caller canvas object) :
    object.canvasId = canvas.id :=
  (id_of_canvas? permits.canvasEq).symm

theorem Permits.objectIdEq {db : Db} {objectId : String} {canvas : Canvas}
    {object : CanvasObject} (permits : Permits db objectId caller canvas object) :
    object.id = uuid objectId :=
  Table.key_of_get? permits.objectEq

/-- The transaction of a mutation, once the object and its canvas were found. -/
theorem changeLocked_eq_ok_iff {canvas : Canvas} {object changed : CanvasObject}
    {objectId lockedMessage : String} {change : Canvas → CanvasObject → Service CanvasObject}
    (lockEq : world.db.canvas? canvas.id = some canvas)
    (found : world.db.objectOn? (uuid objectId) canvas.id = some object) :
    changeLocked canvas objectId caller lockedMessage change world = (.ok changed, target) ↔
      (!object.isLocked || caller.role == UserRole.admin.text) = true ∧
        change canvas object world = (.ok changed, target) := by
  simp only [changeLocked, bind_eq_ok_iff, findCanvasOrThrow_eq_ok_iff, reading_eq_ok_iff,
    orThrow_eq_ok_iff, require_eq_ok_iff, lockEq, Option.some.injEq]
  constructor
  · rintro ⟨_, _, ⟨rfl, rfl⟩, _, _, ⟨rfl, rfl⟩, other, _, ⟨otherEq, rfl⟩, _, _, ⟨unlocked, rfl⟩,
      changeEq⟩
    cases found.symm.trans otherEq
    exact ⟨unlocked, changeEq⟩
  · rintro ⟨unlocked, changeEq⟩
    exact ⟨_, _, ⟨rfl, rfl⟩, _, _, ⟨rfl, rfl⟩, object, _, ⟨found, rfl⟩, (), _, ⟨unlocked, rfl⟩,
      changeEq⟩

/-- When a mutation returns: its guards pass, the change returns and the
workflow of the canvas is found afterwards. -/
theorem mutateObject_eq_ok_iff {objectId lockedMessage : String}
    {change : Canvas → CanvasObject → Service CanvasObject}
    {event : Uuid → Uuid → CanvasObject → Broadcast} {changed : CanvasObject} :
    mutateObject objectId caller lockedMessage change event world = (.ok changed, target) ↔
      ∃ canvas object later workflowId, Permits world.db objectId caller canvas object ∧
        change canvas object world = (.ok changed, later) ∧
        later.db.workflowOf object.canvasId caller.orgId = some workflowId ∧
        { later with
          broadcasts := later.broadcasts ++ [event object.canvasId workflowId changed] } =
            target := by
  simp only [mutateObject, bind_eq_ok_iff, findObjectInOrgOrThrow_eq_ok_iff,
    findCanvasOrThrow_eq_ok_iff, requireCanvasMutationPermission_eq_ok_iff,
    transaction_eq_ok_iff, resolveWorkflowId_eq_ok_iff, broadcast, writing_eq_ok_iff,
    pure_eq_ok_iff]
  constructor
  · rintro ⟨object, _, ⟨objectEq, resolved, rfl⟩, canvas, _, ⟨canvasEq, rfl⟩, _, _,
      ⟨permitted, rfl⟩, result, later, bodyEq, workflowId, _, ⟨found, rfl⟩, _, _, rfl, rfl, rfl⟩
    have foundOn : world.db.objectOn? (uuid objectId) canvas.id = some object := by
      rw [id_of_canvas? canvasEq]
      exact objectOn?_of_object? objectEq
    obtain ⟨unlocked, changeEq⟩ :=
      (changeLocked_eq_ok_iff (canvas?_id canvasEq) foundOn).mp bodyEq
    exact ⟨canvas, object, later, workflowId,
      ⟨objectEq, resolved, canvasEq, permitted, unlocked⟩, changeEq, found, rfl⟩
  · rintro ⟨canvas, object, later, workflowId, permits, changeEq, found, rfl⟩
    have bodyEq : changeLocked canvas objectId caller lockedMessage change world =
        (.ok changed, later) :=
      (changeLocked_eq_ok_iff permits.lockEq permits.found).mpr ⟨permits.unlocked, changeEq⟩
    exact ⟨object, _, ⟨permits.objectEq, permits.resolved, rfl⟩, canvas, _,
      ⟨permits.canvasEq, rfl⟩, (), _, ⟨permits.permitted, rfl⟩, changed, later, bodyEq,
      workflowId, _, ⟨found, rfl⟩, (), _, rfl, rfl, rfl⟩

theorem mutateObject_committed {objectId lockedMessage : String}
    {change : Canvas → CanvasObject → Service CanvasObject}
    {event : Uuid → Uuid → CanvasObject → Broadcast} {changed : CanvasObject}
    (changes : Changes host objectId change)
    (callEq : mutateObject objectId caller lockedMessage change event world =
      (.ok changed, target)) :
    ∃ canvas operation, Committed host canvas operation world.db target.db := by
  obtain ⟨canvas, object, later, _, permits, changeEq, _, rfl⟩ := mutateObject_eq_ok_iff.mp callEq
  obtain ⟨operation, edited, editStep, appendStep⟩ := changes canvas object world changed later
    permits.lockEq permits.objectMem permits.objectIdEq permits.onCanvas changeEq
  exact ⟨canvas, operation, ⟨_, edited, Opened.found, editStep, appendStep⟩⟩

/-- The workflow that was found before the change is found after it. -/
theorem Changes.resolved {objectId : String}
    {change : Canvas → CanvasObject → Service CanvasObject} {canvas : Canvas}
    {object changed : CanvasObject} (changes : Changes host objectId change)
    (permits : Permits world.db objectId caller canvas object)
    (changeEq : change canvas object world = (.ok changed, target)) :
    (target.db.workflowOf object.canvasId caller.orgId).isSome := by
  obtain ⟨operation, edited, editStep, appendStep⟩ := changes canvas object world changed target
    permits.lockEq permits.objectMem permits.objectIdEq permits.onCanvas changeEq
  rw [appendStep.workflowOf, editStep.workflowOf]
  exact permits.resolved

/-- Before the object is changed nothing is changed, and afterwards nothing
throws. -/
theorem atomic_mutateObject {objectId lockedMessage : String}
    {change : Canvas → CanvasObject → Service CanvasObject}
    {event : Uuid → Uuid → CanvasObject → Broadcast} (changes : Changes host objectId change) :
    Atomic (mutateObject objectId caller lockedMessage change event) := by
  intro world exception target callEq
  rcases bind_eq_error_iff.mp callEq with findEq | ⟨object, _, findEq, callEq⟩
  · exact readOnly_findObjectInOrgOrThrow _ _ _ findEq
  obtain ⟨objectEq, resolved, rfl⟩ := findObjectInOrgOrThrow_eq_ok_iff.mp findEq
  rcases bind_eq_error_iff.mp callEq with missing | ⟨canvas, _, readEq, callEq⟩
  · exact readOnly_findCanvasOrThrow _ _ _ missing
  obtain ⟨canvasEq, rfl⟩ := findCanvasOrThrow_eq_ok_iff.mp readEq
  rcases bind_eq_error_iff.mp callEq with denied | ⟨_, _, allowed, callEq⟩
  · exact readOnly_requireCanvasMutationPermission _ _ _ denied
  obtain ⟨permitted, rfl⟩ := requireCanvasMutationPermission_eq_ok_iff.mp allowed
  rcases bind_eq_error_iff.mp callEq with aborted | ⟨result, later, bodyEq, callEq⟩
  · exact atomic_transaction _ _ _ aborted
  rcases bind_eq_error_iff.mp callEq with unresolved | ⟨_, _, _, callEq⟩
  · have foundOn : world.db.objectOn? (uuid objectId) canvas.id = some object := by
      rw [id_of_canvas? canvasEq]
      exact objectOn?_of_object? objectEq
    obtain ⟨unlocked, changeEq⟩ := (changeLocked_eq_ok_iff (canvas?_id canvasEq) foundOn).mp
      (transaction_eq_ok_iff.mp bodyEq)
    have still := changes.resolved ⟨objectEq, resolved, canvasEq, permitted, unlocked⟩ changeEq
    rw [(resolveWorkflowId_eq_error_iff.mp unresolved).1] at still
    cases still
  · rcases bind_eq_error_iff.mp callEq with silent | ⟨_, _, _, returned⟩
    · exact absurd silent writing_ne_error
    · exact absurd returned pure_ne_error

/-- The patch does not set null. -/
def Patch.given {α : Type} : Patch α → Bool
  | .clear => false
  | _ => true

theorem required_eq_ok_iff {α : Type} {patch : Patch α} {old value : α} {column : String} :
    patch.required old column world = (.ok value, target) ↔
      patch.given = true ∧ patch.apply old old = value ∧ world = target := by
  cases patch with
  | keep => simp [Patch.required, Patch.given, Patch.apply]
  | clear => simp [Patch.required, Patch.given]
  | set given => simp [Patch.required, Patch.given, Patch.apply]

/-- The object that an update leaves when it sets no required column to null. -/
def UpdateCanvasObjectDto.patched (dto : UpdateCanvasObjectDto) (object : CanvasObject) :
    CanvasObject :=
  { object with
    label := dto.label.nullable object.label
    elsaType := dto.elsaType.nullable object.elsaType
    properties := (dto.properties.map Json.obj).apply object.properties object.properties
    positionX := dto.positionX.apply object.positionX object.positionX
    positionY := dto.positionY.apply object.positionY object.positionY
    width := dto.width.nullable object.width
    height := dto.height.nullable object.height
    style := (dto.style.map Json.obj).apply object.style .null }

theorem apply_eq_ok_iff {dto : UpdateCanvasObjectDto} {object saved : CanvasObject} :
    dto.apply object world = (.ok saved, target) ↔
      (dto.properties.map Json.obj).given = true ∧ dto.positionX.given = true ∧
        dto.positionY.given = true ∧ dto.patched object = saved ∧ world = target := by
  simp only [UpdateCanvasObjectDto.apply, bind_eq_ok_iff, required_eq_ok_iff, pure_eq_ok_iff]
  constructor
  · rintro ⟨_, _, ⟨properties, rfl, rfl⟩, _, _, ⟨positionX, rfl, rfl⟩, _, _,
      ⟨positionY, rfl, rfl⟩, rfl, rfl⟩
    exact ⟨properties, positionX, positionY, rfl, rfl⟩
  · rintro ⟨properties, positionX, positionY, rfl, rfl⟩
    exact ⟨_, _, ⟨properties, rfl, rfl⟩, _, _, ⟨positionX, rfl, rfl⟩, _, _,
      ⟨positionY, rfl, rfl⟩, rfl, rfl⟩

theorem saveAndRecord_steps {canvas : Canvas} {old object saved : CanvasObject}
    {opType : String} {opPayload : Json.Fields}
    (bodyEq : saveAndRecord host ids canvas object caller opType opPayload world =
      (.ok saved, target))
    (canvasEq : world.db.canvas? canvas.id = some canvas) (oldMem : old ∈ world.db.objects)
    (onCanvas : old.canvasId = canvas.id)
    (sameId : old.id = object.id) (sameCanvas : old.canvasId = object.canvasId) :
    ∃ operation edited, Edited host operation world.db edited ∧
      Appended host canvas operation edited target.db := by
  simp only [saveAndRecord, bind_eq_ok_iff, execute_eq_ok_iff, saveObject_eq_ok_iff,
    pure_eq_ok_iff] at bodyEq
  obtain ⟨_, _, ⟨_, ⟨accepted, rfl⟩, rfl⟩, operation, _, appendEq, rfl, rfl⟩ := bodyEq
  have step := (appended_of_append appendEq canvasEq).1
  exact ⟨operation, _, Edited.saved old _ oldMem sameId sameCanvas accepted
    (sameCanvas.symm.trans (onCanvas.trans step.canvasIdEq.symm)), step⟩

theorem changes_update {objectId : String} {dto : UpdateCanvasObjectDto} :
    Changes host objectId (fun lockedCanvas object => do
      let saved ← dto.apply object
      saveAndRecord host ids lockedCanvas saved caller "object_update" (updatePayload saved)) := by
  intro canvas object before result later canvasEq objectMem _ onCanvas changeEq
  obtain ⟨saved, _, applyEq, changeEq⟩ := bind_eq_ok_iff.mp changeEq
  obtain ⟨_, _, _, rfl, rfl⟩ := apply_eq_ok_iff.mp applyEq
  exact saveAndRecord_steps changeEq canvasEq objectMem onCanvas rfl rfl

theorem changes_move {objectId : String} {dto : MoveCanvasObjectDto} :
    Changes host objectId (fun lockedCanvas object =>
      saveAndRecord host ids lockedCanvas (dto.apply object) caller "object_move"
        (movePayload (dto.apply object))) := by
  intro canvas object before result later canvasEq objectMem _ onCanvas changeEq
  exact saveAndRecord_steps changeEq canvasEq objectMem onCanvas rfl rfl

theorem changes_delete {objectId : String} :
    Changes host objectId (fun lockedCanvas object =>
      removeAndRecord host ids lockedCanvas objectId object caller) := by
  intro canvas object before result later canvasEq objectMem objectIdEq onCanvas changeEq
  simp only [removeAndRecord, bind_eq_ok_iff, execute_eq_ok_iff, removeObject_eq_ok_iff,
    pure_eq_ok_iff] at changeEq
  obtain ⟨_, _, ⟨_, rfl, rfl⟩, operation, _, appendEq, rfl, rfl⟩ := changeEq
  obtain ⟨step, recorded⟩ := appended_of_append appendEq canvasEq
  have refers : operation.canvasObjectId.map uuid = some object.id := by
    rw [recorded, objectIdEq]
    rfl
  exact ⟨operation, _, Edited.removed object objectMem refers
    (onCanvas.trans step.canvasIdEq.symm), step⟩

@[simp]
theorem requireObjectOnCanvas_eq_ok_iff {canvasObjectId : Option String} {canvasId : Uuid}
    {done : Unit} :
    requireObjectOnCanvas canvasObjectId canvasId world = (.ok done, target) ↔
      (∀ id, canvasObjectId = some id → (world.db.objectOn? (uuid id) canvasId).isSome) ∧
        world = target := by
  cases canvasObjectId with
  | none => simp [requireObjectOnCanvas]
  | some id => simp [requireObjectOnCanvas, bind_eq_ok_iff, and_comm]

theorem save_of_fresh {db : Db} {operation : CanvasOperation}
    (fresh : db.operation? (uuid operation.id) = none) :
    Table.save CanvasOperation.id db.operations operation.stored =
      db.operations ++ [operation.stored] :=
  Table.save_of_get?_eq_none fresh

/-- A client operation that was not applied before, in the canvas that is
locked. -/
structure Applies (host : Host) (dto : CreateCanvasOperationDto) (caller : RequestUser)
    (locked : Canvas) (db next : Db) : Prop where
  fresh : db.operation? (uuid dto.operationId) = none
  revisionEq : dto.clientRevision = locked.revision
  objectOn : ∀ id, dto.canvasObjectId = some id → (db.objectOn? (uuid id) locked.id).isSome
  accepted : host.schema.operation db (dto.operation locked caller).stored = .ok ()
  nextEq : next =
    { db with
      operations := db.operations ++ [(dto.operation locked caller).stored]
      canvases := Table.save Canvas.id db.canvases locked.advance }

/-- What the transaction of `createOperation` returns. -/
theorem createOperationTransaction_eq_ok_iff {canvas : Canvas} {dto : CreateCanvasOperationDto}
    {created : CreatedOperation} :
    createOperationTransaction host canvas dto caller world = (.ok created, target) ↔
      ∃ locked, world.db.canvas? canvas.id = some locked ∧
        ((∃ existing, world.db.operation? (uuid dto.operationId) = some existing ∧
            sameLogicalOperation existing canvas dto caller = true ∧
            created = ⟨existing, true, locked⟩ ∧ world = target) ∨
          (created = ⟨dto.operation locked caller, false, locked.advance⟩ ∧
            ∃ next, Applies host dto caller locked world.db next ∧
              { world with db := next } = target)) := by
  simp only [createOperationTransaction, bind_eq_ok_iff, findCanvasOrThrow_eq_ok_iff,
    reading_eq_ok_iff]
  constructor
  · rintro ⟨locked, _, ⟨lockEq, rfl⟩, existing, _, ⟨rfl, rfl⟩, rest⟩
    refine ⟨locked, lockEq, ?_⟩
    cases existing : world.db.operation? (uuid dto.operationId) with
    | some stored =>
        rw [existing] at rest
        simp only [bind_eq_ok_iff, require_eq_ok_iff, pure_eq_ok_iff] at rest
        obtain ⟨_, _, ⟨same, rfl⟩, rfl, rfl⟩ := rest
        exact Or.inl ⟨stored, rfl, same, rfl, rfl⟩
    | none =>
        rw [existing] at rest
        simp only [bind_eq_ok_iff, require_eq_ok_iff, pure_eq_ok_iff, beq_iff_eq,
          requireObjectOnCanvas_eq_ok_iff, execute_eq_ok_iff, saveOperation_eq_ok_iff,
          saveCanvas_eq_ok_iff] at rest
        obtain ⟨_, _, ⟨revisionEq, rfl⟩, _, _, ⟨objectOn, rfl⟩, _, _, ⟨_, ⟨accepted, rfl⟩, rfl⟩,
          _, _, ⟨_, rfl, rfl⟩, rfl, rfl⟩ := rest
        rw [← id_of_canvas? lockEq] at objectOn
        refine Or.inr ⟨rfl, _, ⟨existing, revisionEq, objectOn, accepted, rfl⟩, ?_⟩
        have fresh : world.db.operation? (uuid (dto.operation locked caller).id) = none :=
          existing
        rw [save_of_fresh fresh]
  · rintro ⟨locked, lockEq, ⟨existing, existingEq, same, rfl, rfl⟩ | ⟨rfl, _, applies, rfl⟩⟩
    · refine ⟨locked, world, ⟨lockEq, rfl⟩, _, world, ⟨existingEq, rfl⟩, ?_⟩
      simp only [bind_eq_ok_iff, require_eq_ok_iff, pure_eq_ok_iff]
      exact ⟨(), world, ⟨same, rfl⟩, trivial, rfl⟩
    · refine ⟨locked, world, ⟨lockEq, rfl⟩, _, world, ⟨applies.fresh, rfl⟩, ?_⟩
      have objectOn := applies.objectOn
      rw [id_of_canvas? lockEq] at objectOn
      simp only [bind_eq_ok_iff, require_eq_ok_iff, pure_eq_ok_iff, beq_iff_eq,
        requireObjectOnCanvas_eq_ok_iff, execute_eq_ok_iff, saveOperation_eq_ok_iff,
        saveCanvas_eq_ok_iff]
      refine ⟨(), _, ⟨applies.revisionEq, rfl⟩, (), _, ⟨objectOn, rfl⟩, (), _,
        ⟨_, ⟨applies.accepted, rfl⟩, rfl⟩, (), _, ⟨_, rfl, rfl⟩, trivial, ?_⟩
      have fresh : world.db.operation? (uuid (dto.operation locked caller).id) = none :=
        applies.fresh
      rw [applies.nextEq, save_of_fresh fresh]

theorem rejectOperation_ne_ok {canvas : Canvas} {dto : CreateCanvasOperationDto}
    {exception : Exception} {operation : CanvasOperation} :
    rejectOperation canvas dto caller exception world ≠ (.ok operation, target) := by
  intro returned
  cases exception with
  | canvasRevisionConflict currentRevision =>
      obtain ⟨_, _, _, thrown⟩ := bind_eq_ok_iff.mp returned
      exact throwing_ne_ok thrown
  | _ => exact throwing_ne_ok returned

/-- Answering an exception broadcasts at most. -/
theorem rejectOperation_db {canvas : Canvas} {dto : CreateCanvasOperationDto}
    {exception thrown : Exception}
    (rejectEq : rejectOperation canvas dto caller exception world = (.error thrown, target)) :
    target.db = world.db := by
  cases exception with
  | canvasRevisionConflict currentRevision =>
      rcases bind_eq_error_iff.mp rejectEq with silent | ⟨_, _, announced, thrownEq⟩
      · exact absurd silent broadcastIn_ne_error
      · cases thrownEq
        rw [← broadcastIn_eq_ok_iff.mp announced]
  | _ =>
      cases rejectEq
      rfl

/-- When `createOperation` returns: the canvas is opened, the guards pass and
the transaction returns. -/
theorem createOperation_eq_ok_iff {workflowId : String} {dto : CreateCanvasOperationDto}
    {operation : CanvasOperation} :
    createOperation host ids workflowId dto caller world = (.ok operation, target) ↔
      ∃ canvas opened created committed,
        getOrCreateCanvas ids workflowId caller.orgId world = (.ok canvas, opened) ∧
        mutationPermission canvas caller opened.db = .ok () ∧
        payloadBounded host dto.opPayload = true ∧
        createOperationTransaction host canvas dto caller opened = (.ok created, committed) ∧
        operation = created.operation ∧
        target =
          { committed with
            broadcasts := committed.broadcasts ++
              (if created.duplicate then none else created.canvas.workspaceId).toList.map
                fun workspaceId =>
                  .operationAccepted caller.orgId workspaceId canvas.id created.operation.id
                    caller.id created.operation.sequenceNumber } := by
  simp only [createOperation, assertOperationPayloadBounded, bind_eq_ok_iff,
    requireCanvasMutationPermission_eq_ok_iff, require_eq_ok_iff, catching_eq_ok_iff,
    transaction_eq_ok_iff, broadcastIn_eq_ok_iff, pure_eq_ok_iff]
  constructor
  · rintro ⟨canvas, opened, openEq, _, _, ⟨permitted, rfl⟩, _, _, ⟨bounded, rfl⟩,
      ⟨created, committed, bodyEq, _, _, rfl, rfl, rfl⟩ | ⟨_, _, _, rejected⟩⟩
    · exact ⟨canvas, opened, created, committed, openEq, permitted, bounded, bodyEq, rfl, rfl⟩
    · exact absurd rejected rejectOperation_ne_ok
  · rintro ⟨canvas, opened, created, committed, openEq, permitted, bounded, bodyEq, rfl, rfl⟩
    exact ⟨canvas, opened, openEq, (), _, ⟨permitted, rfl⟩, (), _, ⟨bounded, rfl⟩,
      Or.inl ⟨created, committed, bodyEq, (), _, rfl, rfl, rfl⟩⟩

theorem Applies.appended {dto : CreateCanvasOperationDto} {locked : Canvas} {db next : Db}
    (canvasEq : db.canvas? locked.id = some locked)
    (applies : Applies host dto caller locked db next) :
    Appended host locked (dto.operation locked caller) db next where
  canvasEq := canvasEq
  canvasIdEq := rfl
  workspaceIdEq := rfl
  numberEq := rfl
  fresh := applies.fresh
  accepted := applies.accepted
  nextEq := applies.nextEq

/-- A call that throws leaves the database as opening its canvas left it. -/
theorem createOperation_throws {workflowId : String} {dto : CreateCanvasOperationDto}
    {exception : Exception}
    (callEq : createOperation host ids workflowId dto caller world = (.error exception, target)) :
    Opened world.db target.db := by
  rcases bind_eq_error_iff.mp callEq with openEq | ⟨canvas, opened, openEq, callEq⟩
  · rw [atomic_getOrCreateCanvas _ _ _ openEq]
    exact Opened.found
  have step := opened_of_getOrCreateCanvas openEq
  have unchanged : target.db = opened.db := by
    rcases bind_eq_error_iff.mp callEq with denied | ⟨_, _, permitted, callEq⟩
    · rw [readOnly_requireCanvasMutationPermission _ _ _ denied]
    obtain ⟨_, rfl⟩ := requireCanvasMutationPermission_eq_ok_iff.mp permitted
    rcases bind_eq_error_iff.mp callEq with oversized | ⟨_, _, bounded, callEq⟩
    · exact congrArg World.db (readOnly_require _ _ _ oversized).symm
    obtain ⟨_, rfl⟩ := require_eq_ok_iff.mp bounded
    obtain ⟨thrown, middle, bodyEq, rejectEq⟩ := catching_eq_error_iff.mp callEq
    rw [rejectOperation_db rejectEq]
    rcases bind_eq_error_iff.mp bodyEq with aborted | ⟨_, _, _, announceEq⟩
    · rw [atomic_transaction _ _ _ aborted]
    · rcases bind_eq_error_iff.mp announceEq with silent | ⟨_, _, _, returned⟩
      · exact absurd silent broadcastIn_ne_error
      · exact absurd returned pure_ne_error
  rw [unchanged]
  exact step

theorem createObject_throws {workflowId : String} {dto : CreateCanvasObjectDto}
    {exception : Exception}
    (callEq : createObject host ids workflowId dto caller world = (.error exception, target)) :
    Opened world.db target.db := by
  rcases bind_eq_error_iff.mp callEq with openEq | ⟨canvas, opened, openEq, callEq⟩
  · rw [atomic_getOrCreateCanvas _ _ _ openEq]
    exact Opened.found
  have step := opened_of_getOrCreateCanvas openEq
  have unchanged : opened = target := by
    rcases bind_eq_error_iff.mp callEq with denied | ⟨_, _, permitted, callEq⟩
    · exact readOnly_requireCanvasMutationPermission _ _ _ denied
    obtain ⟨_, rfl⟩ := requireCanvasMutationPermission_eq_ok_iff.mp permitted
    rcases bind_eq_error_iff.mp callEq with aborted | ⟨_, _, _, callEq⟩
    · exact atomic_transaction _ _ _ aborted
    · rcases bind_eq_error_iff.mp callEq with silent | ⟨_, _, _, returned⟩
      · exact absurd silent writing_ne_error
      · exact absurd returned pure_ne_error
  rw [← unchanged]
  exact step

theorem createOperation_committed {workflowId : String} {dto : CreateCanvasOperationDto}
    {operation : CanvasOperation}
    (callEq : createOperation host ids workflowId dto caller world = (.ok operation, target)) :
    ((world.db.operation? (uuid dto.operationId)).isSome ∧ Opened world.db target.db) ∨
      ((world.db.operation? (uuid dto.operationId)).isSome = false ∧
        ∃ canvas operation, Committed host canvas operation world.db target.db) := by
  obtain ⟨canvas, opened, created, committed, openEq, _, _, bodyEq, rfl, rfl⟩ :=
    createOperation_eq_ok_iff.mp callEq
  have step := opened_of_getOrCreateCanvas openEq
  obtain ⟨locked, lockEq, ⟨existing, existingEq, _, rfl, rfl⟩ | ⟨rfl, next, applies, rfl⟩⟩ :=
    createOperationTransaction_eq_ok_iff.mp bodyEq
  · rw [step.operation?] at existingEq
    exact Or.inl ⟨Option.isSome_iff_exists.mpr ⟨existing, existingEq⟩, step⟩
  · have fresh := applies.fresh
    rw [step.operation?] at fresh
    refine Or.inr ⟨by rw [fresh]; rfl, locked, dto.operation locked caller, ?_⟩
    exact ⟨_, _, step, Edited.kept, applies.appended (canvas?_id lockEq)⟩

/-- A call that returns replays an operation or commits one. -/
theorem Call.perform_returns {call : Call} {reply : Reply}
    (callEq : call.perform host ids world = (.ok reply, target)) :
    (call.isReplay world.db = true ∧ Opened world.db target.db) ∨
      (call.isReplay world.db = false ∧
        ∃ canvas operation, Committed host canvas operation world.db target.db) := by
  cases call with
  | createObject workflowId dto caller =>
      obtain ⟨object, _, bodyEq, returned⟩ := bind_eq_ok_iff.mp callEq
      obtain ⟨_, rfl⟩ := pure_eq_ok_iff.mp returned
      exact Or.inr ⟨rfl, createObject_committed bodyEq⟩
  | updateObject objectId dto caller =>
      obtain ⟨object, _, bodyEq, returned⟩ := bind_eq_ok_iff.mp callEq
      obtain ⟨_, rfl⟩ := pure_eq_ok_iff.mp returned
      exact Or.inr ⟨rfl, mutateObject_committed changes_update bodyEq⟩
  | moveObject objectId dto caller =>
      obtain ⟨object, _, bodyEq, returned⟩ := bind_eq_ok_iff.mp callEq
      obtain ⟨_, rfl⟩ := pure_eq_ok_iff.mp returned
      exact Or.inr ⟨rfl, mutateObject_committed changes_move bodyEq⟩
  | deleteObject objectId caller =>
      obtain ⟨deleted, _, deleteEq, returned⟩ := bind_eq_ok_iff.mp callEq
      obtain ⟨_, rfl⟩ := pure_eq_ok_iff.mp returned
      obtain ⟨object, _, bodyEq, answered⟩ := bind_eq_ok_iff.mp deleteEq
      obtain ⟨_, rfl⟩ := pure_eq_ok_iff.mp answered
      exact Or.inr ⟨rfl, mutateObject_committed changes_delete bodyEq⟩
  | appendOperation canvasId canvasObjectId userId opType opPayload versionVector =>
      obtain ⟨operation, _, bodyEq, returned⟩ := bind_eq_ok_iff.mp callEq
      obtain ⟨_, rfl⟩ := pure_eq_ok_iff.mp returned
      obtain ⟨canvas, committed⟩ := appendOperation_committed bodyEq
      exact Or.inr ⟨rfl, canvas, operation, committed⟩
  | createOperation workflowId dto caller =>
      obtain ⟨operation, _, bodyEq, returned⟩ := bind_eq_ok_iff.mp callEq
      obtain ⟨_, rfl⟩ := pure_eq_ok_iff.mp returned
      exact createOperation_committed bodyEq

/-- A call that throws opens its canvas at most. -/
theorem Call.perform_throws {call : Call} {exception : Exception}
    (callEq : call.perform host ids world = (.error exception, target)) :
    Opened world.db target.db := by
  cases call with
  | createObject workflowId dto caller =>
      rcases bind_eq_error_iff.mp callEq with thrown | ⟨_, _, _, returned⟩
      · exact createObject_throws thrown
      · exact absurd returned pure_ne_error
  | updateObject objectId dto caller =>
      rcases bind_eq_error_iff.mp callEq with thrown | ⟨_, _, _, returned⟩
      · rw [atomic_mutateObject changes_update _ _ _ thrown]
        exact Opened.found
      · exact absurd returned pure_ne_error
  | moveObject objectId dto caller =>
      rcases bind_eq_error_iff.mp callEq with thrown | ⟨_, _, _, returned⟩
      · rw [atomic_mutateObject changes_move _ _ _ thrown]
        exact Opened.found
      · exact absurd returned pure_ne_error
  | deleteObject objectId caller =>
      rcases bind_eq_error_iff.mp callEq with thrown | ⟨_, _, _, returned⟩
      · rcases bind_eq_error_iff.mp thrown with thrown | ⟨_, _, _, returned⟩
        · rw [atomic_mutateObject changes_delete _ _ _ thrown]
          exact Opened.found
        · exact absurd returned pure_ne_error
      · exact absurd returned pure_ne_error
  | appendOperation canvasId canvasObjectId userId opType opPayload versionVector =>
      rcases bind_eq_error_iff.mp callEq with thrown | ⟨_, _, _, returned⟩
      · rw [atomic_transaction _ _ _ thrown]
        exact Opened.found
      · exact absurd returned pure_ne_error
  | createOperation workflowId dto caller =>
      rcases bind_eq_error_iff.mp callEq with thrown | ⟨_, _, _, returned⟩
      · exact createOperation_throws thrown
      · exact absurd returned pure_ne_error

end

end Manbaa.Canvases
