import Manbaa.Canvases.Entities
import Manbaa.Lib.Except

/-!
# What the canvas tables accept

The constraints that the migrations put on the rows that the canvas service
writes.  Reference constraints are checked at the end of the statement, so in
the state that the statement finds.

A schema that accepts every row stands for the service alone: what a request
does under it is decided by the checks of the service.
-/

namespace Manbaa.Canvases

open Manbaa.Lib

/-- Which rows the tables accept. -/
structure Schema where
  object : Db → CanvasObject → Except Refusal Unit
  operation : Db → CanvasOperation → Except Refusal Unit

/-- A text that a column of bounded length can hold. -/
def textFits (limit : Nat) (text : String) : Bool :=
  Json.zeroFree text && decide (text.length ≤ limit)

/-- A text column of bounded length. -/
def varchar (limit : Nat) (column : String) (text : String) : Except Refusal Unit := do
  check (Json.zeroFree text) (.untranslatableCharacter column)
  check (decide (text.length ≤ limit)) (.valueTooLong column)

/-- A text column of bounded length that may be null. -/
def nullableVarchar (limit : Nat) (column : String) : Option String → Except Refusal Unit
  | none => .ok ()
  | some text => varchar limit column text

/-- A binary JSON column. -/
def jsonbColumn (column : String) (value : Json) : Except Refusal Unit :=
  check value.storable (.untranslatableCharacter column)

/-- The constraints of `canvas_object`. -/
def checkObject (db : Db) (object : CanvasObject) : Except Refusal Unit := do
  varchar 64 "type" object.type
  nullableVarchar 128 "elsa_type" object.elsaType
  nullableVarchar 256 "label" object.label
  jsonbColumn "properties" object.properties
  jsonbColumn "style" object.style
  check (db.canvas? object.canvasId).isSome
    (.foreignKeyViolation "canvas_object_canvas_id_fkey")
  check (object.createdBy.all fun user => db.users.contains user)
    (.foreignKeyViolation "canvas_object_created_by_fkey")

/-- The scope columns are all null or all given. -/
def CanvasOperation.phase04Scope (operation : CanvasOperation) : Bool :=
  (operation.organizationId.isNone && operation.workspaceId.isNone &&
      operation.clientRevision.isNone) ||
    (operation.organizationId.isSome && operation.workspaceId.isSome &&
      operation.clientRevision.isSome)

/-- The workspace of the row exists in the organization of the row, if both are
given. -/
def Db.tenantWorkspace (db : Db) (operation : CanvasOperation) : Bool :=
  match operation.workspaceId, operation.organizationId with
  | some workspaceId, some organizationId => db.workspaces.contains ⟨workspaceId, organizationId⟩
  | _, _ => true

/-- The canvas of the row is bound to the workspace of the row, if it is
given. -/
def Db.canvasWorkspace (db : Db) (operation : CanvasOperation) : Bool :=
  match operation.workspaceId with
  | some workspaceId =>
      (db.canvas? operation.canvasId).any fun canvas => canvas.workspaceId == some workspaceId
  | none => true

/-- The constraints of `canvas_operation`. -/
def checkOperation (db : Db) (operation : CanvasOperation) : Except Refusal Unit := do
  varchar 64 "op_type" operation.opType
  jsonbColumn "op_payload" operation.opPayload
  jsonbColumn "version_vector" operation.versionVector
  check operation.phase04Scope (.checkViolation "ck_canvas_operation_phase04_scope")
  check (db.canvas? operation.canvasId).isSome
    (.foreignKeyViolation "canvas_operation_canvas_id_fkey")
  check (operation.canvasObjectId.all fun object => (db.object? (uuid object)).isSome)
    (.foreignKeyViolation "canvas_operation_canvas_object_id_fkey")
  check (db.users.contains operation.userId)
    (.foreignKeyViolation "canvas_operation_user_id_fkey")
  check (db.tenantWorkspace operation)
    (.foreignKeyViolation "fk_canvas_operation_tenant_workspace")
  check (db.canvasWorkspace operation)
    (.foreignKeyViolation "fk_canvas_operation_canvas_workspace")

/-- The constraints of the migrations. -/
def migrations : Schema := ⟨checkObject, checkOperation⟩

/-- No constraints: the service on its own. -/
def unconstrained : Schema := ⟨fun _ _ => .ok (), fun _ _ => .ok ()⟩

variable {db : Db} {object : CanvasObject} {operation : CanvasOperation}

@[simp]
theorem varchar_eq_ok_iff {limit : Nat} {column text : String} {done : Unit} :
    varchar limit column text = .ok done ↔ textFits limit text = true := by
  simp [varchar, textFits, except_bind_eq_ok_iff]

@[simp]
theorem nullableVarchar_eq_ok_iff {limit : Nat} {column : String} {text : Option String}
    {done : Unit} :
    nullableVarchar limit column text = .ok done ↔
      text.all (textFits limit) = true := by
  cases text <;> simp [nullableVarchar]

@[simp]
theorem jsonbColumn_eq_ok_iff {column : String} {value : Json} {done : Unit} :
    jsonbColumn column value = .ok done ↔ value.storable = true := by
  simp [jsonbColumn]

/-- The rows that `canvas_object` accepts. -/
theorem checkObject_eq_ok_iff {done : Unit} :
    checkObject db object = .ok done ↔
      textFits 64 object.type = true ∧ object.elsaType.all (textFits 128) = true ∧
      object.label.all (textFits 256) = true ∧
      object.properties.storable = true ∧ object.style.storable = true ∧
      (db.canvas? object.canvasId).isSome ∧
      ∀ user, object.createdBy = some user → user ∈ db.users := by
  simp only [checkObject, except_bind_eq_ok_iff, varchar_eq_ok_iff, nullableVarchar_eq_ok_iff,
    jsonbColumn_eq_ok_iff, check_eq_ok_iff, exists_and_left, exists_const]
  simp [Option.all_eq_true]

/-- The rows that `canvas_operation` accepts. -/
theorem checkOperation_eq_ok_iff {done : Unit} :
    checkOperation db operation = .ok done ↔
      textFits 64 operation.opType = true ∧
      operation.opPayload.storable = true ∧ operation.versionVector.storable = true ∧
      operation.phase04Scope = true ∧ (db.canvas? operation.canvasId).isSome ∧
      (∀ id, operation.canvasObjectId = some id → (db.object? (uuid id)).isSome) ∧
      operation.userId ∈ db.users ∧ db.tenantWorkspace operation = true ∧
      db.canvasWorkspace operation = true := by
  simp [checkOperation, except_bind_eq_ok_iff, Option.all_eq_true]

end Manbaa.Canvases
