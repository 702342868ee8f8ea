import Manbaa.Canvases.Schema
import Manbaa.Lib.Effect

/-!
# The canvas service

The six mutations of the canvas service, over the database that it works on and
the events that it broadcasts.  A transaction of the service is a transaction
of the model: what it did is undone when it throws.

Audit rows are left out.  The service resolves the workflow of an object once
for the audit row and once for the event; the model resolves it once.
-/

namespace Manbaa.Canvases

open Manbaa.Lib Manbaa.Lib.Effect Manbaa.Workspaces

/-- What the service runs on: the constraints of the tables and the text of
numbers. -/
structure Host where
  schema : Schema
  numberText : Number → String

/-- The service on the constraints of the migrations. -/
def deployed (numberText : Number → String) : Host := ⟨migrations, numberText⟩

/-- The service on tables that accept every row. -/
def alone (numberText : Number → String) : Host := ⟨unconstrained, numberText⟩

/-- The identifiers that the database generates for the rows of one call. -/
structure GeneratedIds where
  canvas : Uuid
  object : Uuid
  operation : Uuid

/-- The events that the service broadcasts. -/
inductive Broadcast where
  | objectCreated (canvasId : Uuid) (workflowId : String) (object : CanvasObject)
  | objectUpdated (canvasId workflowId : Uuid) (object : CanvasObject)
  | objectMoved (canvasId workflowId : Uuid) (object : CanvasObject)
  | objectDeleted (canvasId workflowId : Uuid) (objectId : String)
  | operationAccepted (organizationId workspaceId canvasId : Uuid) (operationId : String)
      (actorId : Uuid) (canvasRevision : Nat)
  | operationRejected (organizationId workspaceId canvasId : Uuid) (operationId : String)
      (actorId : Uuid) (clientRevision currentRevision : Nat) (code : String)
  deriving DecidableEq

/-- The database and the events broadcast so far. -/
structure World where
  db : Db
  broadcasts : List Broadcast
  deriving DecidableEq

/-- A computation of the service. -/
abbrev Service := Effect World Exception

/-! ## Statements -/

/-- Send a statement to the database. -/
def execute (statement : Db → Except Refusal Db) : Service Unit := fun world =>
  match statement world.db with
  | .ok db => (.ok (), { world with db := db })
  | .error refusal => (.error (.queryFailed refusal), world)

/-- Broadcast an event. -/
def broadcast (event : Broadcast) : Service Unit :=
  writing fun world => { world with broadcasts := world.broadcasts ++ [event] }

/-- Broadcast an event of a workspace, if there is one. -/
def broadcastIn (workspaceId : Option Uuid) (event : Uuid → Broadcast) : Service Unit :=
  match workspaceId with
  | some workspaceId => broadcast (event workspaceId)
  | none => pure ()

/-- What the columns of an object hold once it is saved. -/
def CanvasObject.stored (object : CanvasObject) : CanvasObject :=
  { object with properties := object.properties.jsonb, style := object.style.jsonb }

/-- What the columns of an operation hold once it is saved. -/
def CanvasOperation.stored (operation : CanvasOperation) : CanvasOperation :=
  { operation with
    id := lowerCase operation.id
    canvasObjectId := operation.canvasObjectId.map lowerCase
    opPayload := operation.opPayload.jsonb
    versionVector := operation.versionVector.jsonb }

/-- Insert a canvas. -/
def Db.insertCanvas (canvas : Canvas) (db : Db) : Except Refusal Db := do
  check (db.canvas? canvas.id).isNone (.uniqueViolation "canvas_pkey")
  check (db.canvases.all fun other => other.workflowId != canvas.workflowId)
    (.uniqueViolation "uq_canvas_workflow_id")
  pure { db with canvases := db.canvases ++ [canvas] }

/-- Save a canvas that was read before. -/
def Db.saveCanvas (canvas : Canvas) (db : Db) : Except Refusal Db :=
  pure { db with canvases := Table.save Canvas.id db.canvases canvas }

/-- Insert an object. -/
def Db.insertObject (schema : Schema) (object : CanvasObject) (db : Db) :
    Except Refusal Db := do
  check (db.object? object.id).isNone (.uniqueViolation "canvas_object_pkey")
  schema.object db object.stored
  pure { db with objects := db.objects ++ [object.stored] }

/-- Save an object that was read before. -/
def Db.saveObject (schema : Schema) (object : CanvasObject) (db : Db) :
    Except Refusal Db := do
  schema.object db object.stored
  pure { db with objects := Table.save CanvasObject.id db.objects object.stored }

/-- The operation without its reference to a removed object. -/
def CanvasOperation.forget (gone : Uuid) (operation : CanvasOperation) : CanvasOperation :=
  if operation.canvasObjectId = some gone.text then operation.entry else operation

/-- Remove an object; operations that refer to it lose the reference. -/
def Db.removeObject (object : CanvasObject) (db : Db) : Except Refusal Db :=
  pure { db with
    objects := Table.delete CanvasObject.id db.objects object.id
    operations := db.operations.map (CanvasOperation.forget object.id) }

/-- Insert an operation. -/
def Db.insertOperation (schema : Schema) (operation : CanvasOperation) (db : Db) :
    Except Refusal Db := do
  check (db.operation? (uuid operation.id)).isNone
    (.uniqueViolation "canvas_operation_pkey")
  schema.operation db operation.stored
  pure { db with operations := db.operations ++ [operation.stored] }

/-- Save an operation under an identifier that the client chose: the row that
has it is updated, otherwise a row is inserted. -/
def Db.saveOperation (schema : Schema) (operation : CanvasOperation) (db : Db) :
    Except Refusal Db := do
  schema.operation db operation.stored
  pure { db with operations := Table.save CanvasOperation.id db.operations operation.stored }

/-! ## Lookups and guards -/

/-- The workflow of an organization. -/
def Db.workflowInOrg? (db : Db) (workflowId orgId : Uuid) : Option Workflow :=
  db.workflows.find? fun workflow => workflow.id == workflowId && workflow.orgId == orgId

/-- `findWorkflowInOrgOrThrow`. -/
def findWorkflowInOrgOrThrow (workflowId : String) (orgId : Uuid) : Service Workflow := do
  let workflow ← reading fun world => world.db.workflowInOrg? (uuid workflowId) orgId
  orThrow workflow (.notFound "Workflow not found")

/-- The canvas of a workflow. -/
def Db.canvasOf? (db : Db) (workflowId : Uuid) : Option Canvas :=
  db.canvases.find? fun canvas => canvas.workflowId == workflowId

/-- The canvas that a workflow gets at its first use, with the defaults of the
table. -/
def newCanvas (id workflowId : Uuid) : Canvas :=
  { id := id
    workflowId := workflowId
    workspaceId := none
    revision := 0
    width := 1440
    height := 1024
    background := "#FFFFFF" }

/-- `getOrCreateCanvas`: the canvas of a workflow, created empty at its first
use. -/
def getOrCreateCanvas (ids : GeneratedIds) (workflowId : String) (orgId : Uuid) :
    Service Canvas := do
  let workflow ← findWorkflowInOrgOrThrow workflowId orgId
  let existing ← reading fun world => world.db.canvasOf? workflow.id
  match existing with
  | some canvas => pure canvas
  | none => do
      let canvas := newCanvas ids.canvas workflow.id
      execute (Db.insertCanvas canvas)
      pure canvas

/-- `findCanvasOrThrow` and, inside a transaction, `lockCanvas`. -/
def findCanvasOrThrow (canvasId : Uuid) : Service Canvas := do
  let canvas ← reading fun world => world.db.canvas? canvasId
  orThrow canvas (.notFound "Canvas not found")

/-- The workflow of a canvas in the organization, if both exist. -/
def Db.workflowOf (db : Db) (canvasId orgId : Uuid) : Option Uuid := do
  let canvas ← db.canvas? canvasId
  let workflow ← db.workflow? canvas.workflowId
  if workflow.orgId = orgId then some workflow.id else none

/-- `resolveWorkflowId`. -/
def resolveWorkflowId (canvasId orgId : Uuid) : Service Uuid := do
  let workflowId ← reading fun world => world.db.workflowOf canvasId orgId
  orThrow workflowId (.notFound "Canvas not found")

/-- The row of an object of a canvas. -/
def Db.objectOn? (db : Db) (objectId canvasId : Uuid) : Option CanvasObject :=
  db.objects.find? fun object => object.id == objectId && object.canvasId == canvasId

/-- `findObjectInOrgOrThrow`. -/
def findObjectInOrgOrThrow (objectId : String) (orgId : Uuid) : Service CanvasObject := do
  let found ← reading fun world => world.db.object? (uuid objectId)
  let object ← orThrow found (.notFound "Canvas object not found")
  let _ ← resolveWorkflowId object.canvasId orgId
  pure object

/-- The legacy roles that may change an unbound canvas. -/
def legacyMutationRoles : List String :=
  [UserRole.admin.text, UserRole.processOwner.text, UserRole.businessAnalyst.text]

/-- Whether `requireCanvasMutationPermission` lets the caller change the
canvas. -/
def mutationPermission (canvas : Canvas) (caller : RequestUser) (db : Db) :
    Except Exception Unit :=
  match canvas.workspaceId with
  | some workspaceId => do
      let _ ← requireEditor db.members caller.id workspaceId caller.orgId
      pure ()
  | none =>
      check (legacyMutationRoles.contains caller.role)
        (.forbidden "Canvas mutation access denied")

/-- `requireCanvasMutationPermission`. -/
def requireCanvasMutationPermission (canvas : Canvas) (caller : RequestUser) : Service Unit :=
  asking fun world => mutationPermission canvas caller world.db

/-- The payload of a client operation is within its bound. -/
def payloadBounded (host : Host) (payload : Json.Fields) : Bool :=
  decide ((Json.stringify host.numberText (.obj payload)).utf8ByteSize
    ≤ maxCanvasOperationPayloadBytes)

/-- `assertOperationPayloadBounded`. -/
def assertOperationPayloadBounded (host : Host) (payload : Json.Fields) : Service Unit :=
  require (payloadBounded host payload)
    (.badRequest "Canvas operation payload exceeds 65536 bytes")

/-! ## Appending to the log -/

/-- The workflow that decides the organization of an operation of a bound
canvas. -/
def Db.workflowOfBound? (db : Db) (canvas : Canvas) : Option Workflow :=
  if canvas.workspaceId.isSome then db.workflow? canvas.workflowId else none

/-- The operation that follows the revision of a canvas. -/
def nextOperation (ids : GeneratedIds) (canvas : Canvas) (workflow : Option Workflow)
    (canvasObjectId : Option String) (userId : Uuid) (opType : String)
    (opPayload : Json.Fields) (versionVector : Option Json.Fields) : CanvasOperation :=
  { id := ids.operation.text
    canvasId := canvas.id
    organizationId := workflow.map Workflow.orgId
    workspaceId := canvas.workspaceId
    canvasObjectId := canvasObjectId
    userId := userId
    opType := opType
    opPayload := .obj opPayload
    versionVector := orNull versionVector
    sequenceNumber := canvas.revision + 1
    clientRevision := if canvas.workspaceId.isSome then some canvas.revision else none }

/-- The canvas after one more operation. -/
def Canvas.advance (canvas : Canvas) : Canvas := { canvas with revision := canvas.revision + 1 }

/-- `appendOperationWithLockedCanvas`. -/
def appendOperationWithLockedCanvas (host : Host) (ids : GeneratedIds) (canvas : Canvas)
    (canvasObjectId : Option String) (userId : Uuid) (opType : String)
    (opPayload : Json.Fields) (versionVector : Option Json.Fields) :
    Service CanvasOperation := do
  let workflow ← reading fun world => world.db.workflowOfBound? canvas
  require (canvas.workspaceId.isNone || workflow.isSome) (.notFound "Canvas workflow not found")
  let operation :=
    nextOperation ids canvas workflow canvasObjectId userId opType opPayload versionVector
  execute (Db.insertOperation host.schema operation)
  execute (Db.saveCanvas canvas.advance)
  pure operation

/-- `appendOperation`. -/
def appendOperation (host : Host) (ids : GeneratedIds) (canvasId : String)
    (canvasObjectId : Option String) (userId : Uuid) (opType : String)
    (opPayload : Json.Fields) (versionVector : Option Json.Fields) :
    Service CanvasOperation :=
  transaction do
    let canvas ← findCanvasOrThrow (uuid canvasId)
    appendOperationWithLockedCanvas host ids canvas canvasObjectId userId opType opPayload
      versionVector

/-! ## Mutations of objects -/

/-- A text or `null`. -/
def textOrNull (text : Option String) : Json := text.elim .null .str

/-- A number or `null`. -/
def numberOrNull (number : Option Number) : Json := number.elim .null .num

/-- The payload of an `object_create` operation. -/
def createPayload (object : CanvasObject) : Json.Fields :=
  [("type", .str object.type), ("elsa_type", textOrNull object.elsaType),
    ("label", textOrNull object.label), ("position_x", .num object.positionX),
    ("position_y", .num object.positionY)]

/-- The payload of an `object_update` operation. -/
def updatePayload (object : CanvasObject) : Json.Fields :=
  [("label", textOrNull object.label), ("position_x", .num object.positionX),
    ("position_y", .num object.positionY), ("width", numberOrNull object.width),
    ("height", numberOrNull object.height)]

/-- The payload of an `object_move` operation. -/
def movePayload (object : CanvasObject) : Json.Fields :=
  [("position_x", .num object.positionX), ("position_y", .num object.positionY)]

/-- The payload of an `object_delete` operation. -/
def deletePayload (object : CanvasObject) : Json.Fields :=
  [("type", .str object.type), ("label", textOrNull object.label)]

/-- The object that a creation request describes. -/
def CreateCanvasObjectDto.object (dto : CreateCanvasObjectDto) (id canvasId : Uuid)
    (caller : RequestUser) : CanvasObject :=
  { id := id
    canvasId := canvasId
    type := dto.type
    elsaType := dto.elsaType
    label := dto.label
    properties := .obj (dto.properties.getD [])
    positionX := dto.positionX
    positionY := dto.positionY
    width := dto.width
    height := dto.height
    style := orNull dto.style
    isLocked := false
    createdBy := some caller.id }

/-- `createObject`. -/
def createObject (host : Host) (ids : GeneratedIds) (workflowId : String)
    (dto : CreateCanvasObjectDto) (caller : RequestUser) : Service CanvasObject := do
  let canvas ← getOrCreateCanvas ids workflowId caller.orgId
  requireCanvasMutationPermission canvas caller
  let saved ← transaction do
    let lockedCanvas ← findCanvasOrThrow canvas.id
    let object := dto.object ids.object canvas.id caller
    execute (Db.insertObject host.schema object)
    let _ ← appendOperationWithLockedCanvas host ids lockedCanvas (some object.id.text) caller.id
      "object_create" (createPayload object) none
    pure object
  broadcast (.objectCreated canvas.id workflowId saved)
  pure saved

/-- The transaction that `updateObject`, `moveObject` and `deleteObject` share:
lock the canvas and the object, and change the object unless it is locked. -/
def changeLocked (canvas : Canvas) (objectId : String) (caller : RequestUser)
    (lockedMessage : String) (change : Canvas → CanvasObject → Service CanvasObject) :
    Service CanvasObject := do
  let lockedCanvas ← findCanvasOrThrow canvas.id
  let found ← reading fun world => world.db.objectOn? (uuid objectId) canvas.id
  let object ← orThrow found (.notFound "Canvas object not found")
  require (!object.isLocked || caller.role == UserRole.admin.text) (.forbidden lockedMessage)
  change lockedCanvas object

/-- What `updateObject`, `moveObject` and `deleteObject` share: find the object
and its canvas, change the object and announce the change. -/
def mutateObject (objectId : String) (caller : RequestUser) (lockedMessage : String)
    (change : Canvas → CanvasObject → Service CanvasObject)
    (event : Uuid → Uuid → CanvasObject → Broadcast) : Service CanvasObject := do
  let existing ← findObjectInOrgOrThrow objectId caller.orgId
  let canvas ← findCanvasOrThrow existing.canvasId
  requireCanvasMutationPermission canvas caller
  let changed ← transaction (changeLocked canvas objectId caller lockedMessage change)
  let workflowId ← resolveWorkflowId existing.canvasId caller.orgId
  broadcast (event existing.canvasId workflowId changed)
  pure changed

/-- A patch of a column that must not be null. -/
def Patch.required {α : Type} (patch : Patch α) (old : α) (column : String) : Service α :=
  match patch with
  | .keep => pure old
  | .clear => throwing (.queryFailed (.notNullViolation column))
  | .set value => pure value

/-- The object that an update leaves. -/
def UpdateCanvasObjectDto.apply (dto : UpdateCanvasObjectDto) (object : CanvasObject) :
    Service CanvasObject := do
  let properties ← (dto.properties.map Json.obj).required object.properties "properties"
  let positionX ← dto.positionX.required object.positionX "position_x"
  let positionY ← dto.positionY.required object.positionY "position_y"
  pure { object with
    label := dto.label.nullable object.label
    elsaType := dto.elsaType.nullable object.elsaType
    properties := properties
    positionX := positionX
    positionY := positionY
    width := dto.width.nullable object.width
    height := dto.height.nullable object.height
    style := (dto.style.map Json.obj).apply object.style .null }

/-- Save a changed object and append the operation that records it. -/
def saveAndRecord (host : Host) (ids : GeneratedIds) (lockedCanvas : Canvas)
    (object : CanvasObject) (caller : RequestUser) (opType : String)
    (opPayload : Json.Fields) : Service CanvasObject := do
  execute (Db.saveObject host.schema object)
  let _ ← appendOperationWithLockedCanvas host ids lockedCanvas (some object.id.text) caller.id
    opType opPayload none
  pure object

/-- `updateObject`. -/
def updateObject (host : Host) (ids : GeneratedIds) (objectId : String)
    (dto : UpdateCanvasObjectDto) (caller : RequestUser) : Service CanvasObject :=
  mutateObject objectId caller "Cannot modify a locked object"
    (fun lockedCanvas object => do
      let saved ← dto.apply object
      saveAndRecord host ids lockedCanvas saved caller "object_update" (updatePayload saved))
    .objectUpdated

/-- The object that a move leaves. -/
def MoveCanvasObjectDto.apply (dto : MoveCanvasObjectDto) (object : CanvasObject) :
    CanvasObject :=
  { object with positionX := dto.positionX, positionY := dto.positionY }

/-- `moveObject`. -/
def moveObject (host : Host) (ids : GeneratedIds) (objectId : String)
    (dto : MoveCanvasObjectDto) (caller : RequestUser) : Service CanvasObject :=
  mutateObject objectId caller "Cannot move a locked object"
    (fun lockedCanvas object =>
      saveAndRecord host ids lockedCanvas (dto.apply object) caller "object_move"
        (movePayload (dto.apply object)))
    .objectMoved

/-- The change of `deleteObject`.  The operation that records the removal refers
to the object that the same transaction has just removed. -/
def removeAndRecord (host : Host) (ids : GeneratedIds) (lockedCanvas : Canvas)
    (objectId : String) (object : CanvasObject) (caller : RequestUser) :
    Service CanvasObject := do
  execute (Db.removeObject object)
  let _ ← appendOperationWithLockedCanvas host ids lockedCanvas (some objectId) caller.id
    "object_delete" (deletePayload object) none
  pure object

/-- `deleteObject`. -/
def deleteObject (host : Host) (ids : GeneratedIds) (objectId : String)
    (caller : RequestUser) : Service Bool := do
  let _ ← mutateObject objectId caller "Cannot delete a locked object"
    (fun lockedCanvas object => removeAndRecord host ids lockedCanvas objectId object caller)
    (fun canvasId workflowId _ => .objectDeleted canvasId workflowId objectId)
  pure true

/-! ## Client operations -/

/-- The stored operation is the one that the request describes. -/
def sameLogicalOperation (existing : CanvasOperation) (canvas : Canvas)
    (dto : CreateCanvasOperationDto) (caller : RequestUser) : Bool :=
  existing.canvasId == canvas.id &&
    existing.canvasObjectId == dto.canvasObjectId &&
    existing.userId == caller.id &&
    existing.opType == dto.opType &&
    existing.sequenceNumber == dto.clientRevision + 1 &&
    existing.organizationId == some caller.orgId &&
    existing.workspaceId == canvas.workspaceId &&
    existing.clientRevision.getD 0 == dto.clientRevision &&
    Json.isDeepStrictEqual existing.opPayload (.obj dto.opPayload) &&
    Json.isDeepStrictEqual existing.versionVector (orNull dto.versionVector)

/-- What the transaction of `createOperation` returns. -/
structure CreatedOperation where
  operation : CanvasOperation
  duplicate : Bool
  canvas : Canvas

/-- The object that a client operation names belongs to the canvas. -/
def requireObjectOnCanvas (canvasObjectId : Option String) (canvasId : Uuid) : Service Unit :=
  match canvasObjectId with
  | none => pure ()
  | some objectId => do
      let found ← reading fun world => world.db.objectOn? (uuid objectId) canvasId
      require found.isSome (.badRequest "Canvas object does not belong to this canvas")

/-- The operation that a request describes, at the revision it was made for. -/
def CreateCanvasOperationDto.operation (dto : CreateCanvasOperationDto) (canvas : Canvas)
    (caller : RequestUser) : CanvasOperation :=
  { id := dto.operationId
    canvasId := canvas.id
    organizationId := some caller.orgId
    workspaceId := canvas.workspaceId
    canvasObjectId := dto.canvasObjectId
    userId := caller.id
    opType := dto.opType
    opPayload := .obj dto.opPayload
    versionVector := orNull dto.versionVector
    sequenceNumber := canvas.revision + 1
    clientRevision := some dto.clientRevision }

/-- The transaction of `createOperation`. -/
def createOperationTransaction (host : Host) (canvas : Canvas)
    (dto : CreateCanvasOperationDto) (caller : RequestUser) : Service CreatedOperation := do
  let locked ← findCanvasOrThrow canvas.id
  let existing ← reading fun world => world.db.operation? (uuid dto.operationId)
  match existing with
  | some existing => do
      require (sameLogicalOperation existing canvas dto caller)
        (.conflict "Operation ID is already used by a different operation")
      pure { operation := existing, duplicate := true, canvas := locked }
  | none => do
      require (dto.clientRevision == locked.revision) (.canvasRevisionConflict locked.revision)
      requireObjectOnCanvas dto.canvasObjectId canvas.id
      let operation := dto.operation locked caller
      execute (Db.saveOperation host.schema operation)
      execute (Db.saveCanvas locked.advance)
      pure { operation := operation, duplicate := false, canvas := locked.advance }

/-- How `createOperation` answers an exception of its transaction. -/
def rejectOperation (canvas : Canvas) (dto : CreateCanvasOperationDto) (caller : RequestUser) :
    Exception → Service CanvasOperation
  | .canvasRevisionConflict currentRevision => do
      broadcastIn canvas.workspaceId fun workspaceId =>
        .operationRejected caller.orgId workspaceId canvas.id dto.operationId caller.id
          dto.clientRevision currentRevision "CANVAS_REVISION_CONFLICT"
      throwing (.revisionStale "CANVAS_REVISION_CONFLICT" "Canvas revision is stale"
        currentRevision)
  | exception => throwing exception

/-- `createOperation`. -/
def createOperation (host : Host) (ids : GeneratedIds) (workflowId : String)
    (dto : CreateCanvasOperationDto) (caller : RequestUser) : Service CanvasOperation := do
  let canvas ← getOrCreateCanvas ids workflowId caller.orgId
  requireCanvasMutationPermission canvas caller
  assertOperationPayloadBounded host dto.opPayload
  catching
    (do
      let result ← transaction (createOperationTransaction host canvas dto caller)
      broadcastIn (if result.duplicate then none else result.canvas.workspaceId)
        fun workspaceId =>
          .operationAccepted caller.orgId workspaceId canvas.id result.operation.id caller.id
            result.operation.sequenceNumber
      pure result.operation)
    (rejectOperation canvas dto caller)

/-! ## Calls -/

/-- A call of one of the six mutations. -/
inductive Call where
  | createObject (workflowId : String) (dto : CreateCanvasObjectDto) (caller : RequestUser)
  | updateObject (objectId : String) (dto : UpdateCanvasObjectDto) (caller : RequestUser)
  | moveObject (objectId : String) (dto : MoveCanvasObjectDto) (caller : RequestUser)
  | deleteObject (objectId : String) (caller : RequestUser)
  | appendOperation (canvasId : String) (canvasObjectId : Option String) (userId : Uuid)
      (opType : String) (opPayload : Json.Fields) (versionVector : Option Json.Fields)
  | createOperation (workflowId : String) (dto : CreateCanvasOperationDto)
      (caller : RequestUser)

/-- What a call returns. -/
inductive Reply where
  | object (object : CanvasObject)
  | deleted (deleted : Bool)
  | operation (operation : CanvasOperation)
  deriving DecidableEq

/-- Perform a call. -/
def Call.perform (host : Host) (ids : GeneratedIds) : Call → Service Reply
  | .createObject workflowId dto caller => do
      let object ← Canvases.createObject host ids workflowId dto caller
      pure (.object object)
  | .updateObject objectId dto caller => do
      let object ← Canvases.updateObject host ids objectId dto caller
      pure (.object object)
  | .moveObject objectId dto caller => do
      let object ← Canvases.moveObject host ids objectId dto caller
      pure (.object object)
  | .deleteObject objectId caller => do
      let deleted ← Canvases.deleteObject host ids objectId caller
      pure (.deleted deleted)
  | .appendOperation canvasId canvasObjectId userId opType opPayload versionVector => do
      let operation ← Canvases.appendOperation host ids canvasId canvasObjectId userId opType
        opPayload versionVector
      pure (.operation operation)
  | .createOperation workflowId dto caller => do
      let operation ← Canvases.createOperation host ids workflowId dto caller
      pure (.operation operation)

/-- The call repeats the identifier of an operation that is stored. -/
def Call.isReplay (db : Db) : Call → Bool
  | .createOperation _ dto _ => (db.operation? (uuid dto.operationId)).isSome
  | _ => false

/-- Bind an unbound canvas to a workspace of its organization, as the first
preview request for the canvas does. -/
def Db.bindWorkspace (db : Db) (canvasId workspaceId : Uuid) : Db :=
  match db.canvas? canvasId with
  | none => db
  | some canvas =>
      if canvas.workspaceId.isNone ∧
          (db.workflow? canvas.workflowId).any fun workflow =>
            db.workspaces.contains ⟨workspaceId, workflow.orgId⟩ then
        { db with
          canvases := Table.save Canvas.id db.canvases
            { canvas with workspaceId := some workspaceId } }
      else db

/-- What happens to the canvases of a running system. -/
inductive Action where
  | call (ids : GeneratedIds) (call : Call)
  | bindWorkspace (canvasId workspaceId : Uuid)
  | setMembers (members : Members)

/-- The database after an action. -/
def act (host : Host) (db : Db) : Action → Db
  | .call ids call => (call.perform host ids ⟨db, []⟩).2.db
  | .bindWorkspace canvasId workspaceId => db.bindWorkspace canvasId workspaceId
  | .setMembers members => { db with members := members }

end Manbaa.Canvases
