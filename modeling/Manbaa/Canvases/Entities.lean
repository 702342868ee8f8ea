import Manbaa.Core.Http
import Manbaa.Lib.Json
import Manbaa.Lib.Table
import Manbaa.Workspaces.Permission

/-!
# Canvas entities and requests

The rows of the canvas tables, the bodies of the mutating requests and the
database that the canvas service works on.  Timestamps are left out: nothing
that is modelled reads them.
-/

namespace Manbaa.Canvases

open Manbaa.Lib Manbaa.Workspaces

/-- A number of the language, as far as JSON can carry it. -/
abbrev Number := ℚ

/-! ## Rows -/

/-- A row of `workflow`, as far as the canvas services read it. -/
structure Workflow where
  id : Uuid
  orgId : Uuid
  projectId : Option Uuid
  deriving DecidableEq

/-- A row of `workspace`, as far as foreign keys refer to it. -/
structure Workspace where
  id : Uuid
  organizationId : Uuid
  deriving DecidableEq

/-- A row of `canvas`.  A canvas that predates workspaces is unbound. -/
structure Canvas where
  id : Uuid
  workflowId : Uuid
  workspaceId : Option Uuid
  revision : Nat
  width : Nat
  height : Nat
  background : String
  deriving DecidableEq

/-- A row of `canvas_object`.  A JSON column that holds nothing reads as
`null`. -/
structure CanvasObject where
  id : Uuid
  canvasId : Uuid
  type : String
  elsaType : Option String
  label : Option String
  properties : Json
  positionX : Number
  positionY : Number
  width : Option Number
  height : Option Number
  style : Json
  isLocked : Bool
  createdBy : Option Uuid
  deriving DecidableEq

/-- A row of `canvas_operation`.  The identifiers that a client may choose are
the text it wrote until the row is stored. -/
structure CanvasOperation where
  id : String
  canvasId : Uuid
  organizationId : Option Uuid
  workspaceId : Option Uuid
  canvasObjectId : Option String
  userId : Uuid
  opType : String
  opPayload : Json
  versionVector : Json
  sequenceNumber : Nat
  clientRevision : Option Nat
  deriving DecidableEq

/-- The operation without its object reference, the one column that another
statement may clear. -/
def CanvasOperation.entry (operation : CanvasOperation) : CanvasOperation :=
  { operation with canvasObjectId := none }

@[simp]
theorem CanvasOperation.entry_canvasId (operation : CanvasOperation) :
    operation.entry.canvasId = operation.canvasId :=
  rfl

@[simp]
theorem CanvasOperation.entry_sequenceNumber (operation : CanvasOperation) :
    operation.entry.sequenceNumber = operation.sequenceNumber :=
  rfl

/-- The tables that the canvas service reads only. -/
structure Tenancy where
  workflows : List Workflow
  workspaces : List Workspace
  users : List Uuid
  members : Members
  deriving DecidableEq

/-- The tables that the canvas service reads and writes. -/
structure Db extends Tenancy where
  canvases : List Canvas
  objects : List CanvasObject
  operations : List CanvasOperation
  deriving DecidableEq

/-- The operations of one canvas, oldest first. -/
def Db.log (db : Db) (canvasId : Uuid) : List CanvasOperation :=
  db.operations.filter fun operation => operation.canvasId == canvasId

/-- The row of a canvas. -/
def Db.canvas? (db : Db) (id : Uuid) : Option Canvas := Table.get? Canvas.id db.canvases id

/-- The row of an object. -/
def Db.object? (db : Db) (id : Uuid) : Option CanvasObject :=
  Table.get? CanvasObject.id db.objects id

/-- The row of an operation. -/
def Db.operation? (db : Db) (id : Uuid) : Option CanvasOperation :=
  Table.get? CanvasOperation.id db.operations id.text

/-- The row of a workflow. -/
def Db.workflow? (db : Db) (id : Uuid) : Option Workflow :=
  Table.get? Workflow.id db.workflows id

/-! ## Requests

The bodies as they arrive after validation: a field that must be an object is
the list of its properties.
-/

/-- `CreateCanvasObjectDto`.  An optional field that is absent or null is
`none`. -/
structure CreateCanvasObjectDto where
  type : String
  elsaType : Option String
  label : Option String
  properties : Option Json.Fields
  positionX : Number
  positionY : Number
  width : Option Number
  height : Option Number
  style : Option Json.Fields

/-- An optional field of an update: absent, null or given. -/
inductive Patch (α : Type) where
  | keep
  | clear
  | set (value : α)

/-- Change what the patch sets. -/
def Patch.map {α β : Type} (patch : Patch α) (f : α → β) : Patch β :=
  match patch with
  | .keep => .keep
  | .clear => .clear
  | .set value => .set (f value)

/-- What the patch leaves in a column, given what stands for null in it. -/
def Patch.apply {α : Type} (patch : Patch α) (old null : α) : α :=
  match patch with
  | .keep => old
  | .clear => null
  | .set value => value

/-- What the patch leaves in a column that may be null. -/
def Patch.nullable {α : Type} (patch : Patch α) (old : Option α) : Option α :=
  (patch.map some).apply old none

/-- `UpdateCanvasObjectDto`. -/
structure UpdateCanvasObjectDto where
  label : Patch String
  elsaType : Patch String
  properties : Patch Json.Fields
  positionX : Patch Number
  positionY : Patch Number
  width : Patch Number
  height : Patch Number
  style : Patch Json.Fields

/-- `MoveCanvasObjectDto`. -/
structure MoveCanvasObjectDto where
  positionX : Number
  positionY : Number

/-- `CreateCanvasOperationDto`; identifiers are the text that the client
wrote. -/
structure CreateCanvasOperationDto where
  operationId : String
  clientRevision : Nat
  canvasObjectId : Option String
  opType : String
  opPayload : Json.Fields
  versionVector : Option Json.Fields
  deriving DecidableEq

/-- Operation types that a request may name. -/
def canvasOperationTypes : List String :=
  ["object_create", "object_move", "object_resize", "object_delete", "object_relabel",
    "property_update", "edge_create", "edge_delete", "edge_reroute", "bulk_paste"]

/-- The largest payload of a client operation, in bytes of its JSON text. -/
def maxCanvasOperationPayloadBytes : Nat := 65536

/-- An optional object as a JSON value, `null` when it is not there. -/
def orNull (fields : Option Json.Fields) : Json := fields.elim .null .obj

end Manbaa.Canvases
