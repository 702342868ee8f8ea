import Manbaa.AiGateway.Entities
import Manbaa.Canvases.Service

/-!
# Versions that users make

An update of a workflow may bring a version, and so does the commit of its canvas.
Both read the workflow first; the version and the counter are written in a
transaction, and an update saves the workflow that it read after that.
-/

namespace Manbaa.AiGateway

open Manbaa.Lib Manbaa.Lib.Effect

/-- Set the counter of a workflow, if it is there. -/
def setCurrentVersion (id : Uuid) (number : Int) : Statements Unit := do
  let found ← reading fun db => db.workflow? id
  match found with
  | none => pure ()
  | some row => saveWorkflow { row with currentVersion := number }

/-! ## Updates -/

/-- `UpdateWorkflowWithVersionDto`, without its source, which is only published.  A
description or a domain may be absent or null. -/
structure UpdateWorkflowDto where
  title : Option String
  description : Option (Option String)
  domain : Option (Option String)
  tags : Option (List String)
  status : Option WorkflowStatus
  elementsJson : Option (List Json)
  deriving DecidableEq

/-- A call of `update`, with the identifier that the database generates for the
version. -/
structure UpdateRequest where
  id : Uuid
  dto : UpdateWorkflowDto
  orgId : Uuid
  callerId : Uuid
  callerRole : String
  versionId : Uuid
  deriving DecidableEq

/-- The workflow that a call updates. -/
def findForUpdate (request : UpdateRequest) : Statements Workflow := do
  let found ← reading fun db =>
    (db.workflow? request.id).filter fun workflow => workflow.orgId == request.orgId
  let workflow ← orThrow found (.notFound ("Workflow " ++ request.id.text ++ " not found"))
  require (workflow.ownerId == request.callerId || request.callerRole == UserRole.admin.text)
    (.forbidden "Only owner or admin can update this workflow")
  pure workflow

/-- The workflow with the fields of a body. -/
def Workflow.edit (workflow : Workflow) (dto : UpdateWorkflowDto) : Workflow :=
  { workflow with
    title := (dto.title.filter (· != "")).getD workflow.title
    description := dto.description.getD workflow.description
    domain := dto.domain.getD workflow.domain
    tags := dto.tags.getD workflow.tags
    status := dto.status.getD workflow.status }

/-- The version that an update makes. -/
def UpdateRequest.version (request : UpdateRequest) (number : Int) (elementsJson : List Json) :
    WorkflowVersion :=
  { id := request.versionId
    workflowId := request.id
    versionNumber := number
    elementsJson := .arr elementsJson
    elsaJson := none
    confidenceScore := none
    createdBy := some request.callerId }

/-- The transaction of an update: the counter is read again. -/
def addUpdateVersion (request : UpdateRequest) (elementsJson : List Json) : Statements Unit :=
  transaction do
    let currentVersion ← reading fun db => db.workflow? request.id
    let newVersionNumber := currentVersion.elim 0 Workflow.currentVersion + 1
    insertVersion (request.version newVersionNumber elementsJson)
    setCurrentVersion request.id newVersionNumber

/-- `update`, up to the audit row. -/
def update (request : UpdateRequest) : Statements Unit := do
  let workflow ← findForUpdate request
  let edited := workflow.edit request.dto
  match request.dto.elementsJson with
  | none => saveWorkflow edited
  | some elementsJson => do
      addUpdateVersion request elementsJson
      saveWorkflow { edited with currentVersion := edited.currentVersion + 1 }

/-! ## Commits -/

/-- A call of `commitCanvas`, with the identifiers that the database generates. -/
structure CommitRequest where
  workflowId : Uuid
  label : Option String
  caller : RequestUser
  snapshotId : Uuid
  versionId : Uuid
  canvasVersionId : Uuid
  deriving DecidableEq

/-- What a commit has read. -/
structure Committing where
  workflow : Workflow
  canvas : Canvases.Canvas
  objects : List Canvases.CanvasObject
  deriving DecidableEq

/-- `findWorkflowInOrgOrThrow`. -/
def findWorkflowInOrgOrThrow (workflowId orgId : Uuid) : Statements Workflow := do
  let found ← reading fun db =>
    (db.workflow? workflowId).filter fun workflow => workflow.orgId == orgId
  orThrow found (.notFound "Workflow not found")

/-- `getCanvas`. -/
def getCanvas (workflowId orgId : Uuid) : Statements Canvases.Canvas := do
  let workflow ← findWorkflowInOrgOrThrow workflowId orgId
  let found ← reading fun db => db.canvases.find? fun canvas => canvas.workflowId == workflow.id
  orThrow found (.notFound "Canvas not found for this workflow")

/-- What a commit reads. -/
def findForCommit (request : CommitRequest) : Statements Committing := do
  let workflow ← findWorkflowInOrgOrThrow request.workflowId request.caller.orgId
  require
    (workflow.ownerId == request.caller.id || request.caller.role == UserRole.admin.text)
    (.forbidden "Only owner or admin can commit the canvas")
  let canvas ← getCanvas request.workflowId request.caller.orgId
  let objects ← reading fun db => db.objects.filter fun object => object.canvasId == canvas.id
  pure ⟨workflow, canvas, objects⟩

/-- A number that may be null. -/
def numberOrNull (number : Option ℚ) : Json := number.elim .null .num

/-- An object in `buildSnapshotData`. -/
def snapshotObject (object : Canvases.CanvasObject) : Json :=
  .obj
    [("id", .str object.id.text), ("type", .str object.type),
      ("elsa_type", Canvases.textOrNull object.elsaType), ("label", Canvases.textOrNull object.label),
      ("properties", object.properties), ("position_x", .num object.positionX),
      ("position_y", .num object.positionY), ("width", numberOrNull object.width),
      ("height", numberOrNull object.height), ("style", object.style),
      ("is_locked", .bool object.isLocked)]

/-- An object in the elements of a version. -/
def elementObject (object : Canvases.CanvasObject) : Json :=
  .obj
    [("id", .str object.id.text), ("type", .str object.type),
      ("elsa_type", Canvases.textOrNull object.elsaType), ("label", Canvases.textOrNull object.label),
      ("properties", object.properties),
      ("position", .obj [("x", .num object.positionX), ("y", .num object.positionY)]),
      ("width", numberOrNull object.width), ("height", numberOrNull object.height),
      ("style", object.style)]

/-- The snapshot that a commit takes. -/
def CommitRequest.snapshot (request : CommitRequest) (found : Committing) : CanvasSnapshot :=
  { id := request.snapshotId
    canvasId := found.canvas.id
    snapshotData := .obj [("objects", .arr (found.objects.map snapshotObject))]
    createdBy := request.caller.id
    trigger := "pre-commit" }

/-- The version that a commit makes: its number follows that of the workflow that was
read. -/
def CommitRequest.version (request : CommitRequest) (found : Committing) : WorkflowVersion :=
  { id := request.versionId
    workflowId := found.workflow.id
    versionNumber := found.workflow.currentVersion + 1
    elementsJson := .obj [("elements", .arr (found.objects.map elementObject))]
    elsaJson := none
    confidenceScore := none
    createdBy := some request.caller.id }

/-- The row that links a canvas, its snapshot and the version. -/
def CommitRequest.canvasVersion (request : CommitRequest) (found : Committing) : CanvasVersion :=
  { id := request.canvasVersionId
    canvasId := found.canvas.id
    workflowVersionId := request.versionId
    snapshotId := request.snapshotId
    label := request.label
    type := "committed"
    createdBy := request.caller.id }

/-- The transaction of a commit. -/
def commitVersion (request : CommitRequest) (found : Committing) : Statements Unit :=
  transaction do
    writing fun db =>
      { db with canvasSnapshots := db.canvasSnapshots ++ [request.snapshot found] }
    insertVersion (request.version found)
    setCurrentVersion found.workflow.id (found.workflow.currentVersion + 1)
    writing fun db =>
      { db with canvasVersions := db.canvasVersions ++ [request.canvasVersion found] }

/-- `commitCanvas`, up to the audit row. -/
def commitCanvas (request : CommitRequest) : Statements Unit := do
  let found ← findForCommit request
  commitVersion request found

end Manbaa.AiGateway
