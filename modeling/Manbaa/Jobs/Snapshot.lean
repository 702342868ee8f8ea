import Manbaa.Jobs.Serializer
import Manbaa.Lib.Double
import Manbaa.Lib.Utf8

/-!
# Snapshots of canvases

What the serializer reads of the rows of a canvas and of its objects, the document that it makes
of them and the bytes that are stored.  The rows hold what the columns may hold, so the measures
of an object may be no numbers and the revision comes as a text.
-/

namespace Manbaa.Jobs

open Manbaa.Lib Manbaa.Canvases

/-! ## Rows -/

/-- A row of `canvas`, as far as the serializer reads it. -/
structure CanvasRow where
  id : Uuid
  revision : Int
  width : Int
  height : Int
  background : String
  deriving DecidableEq

/-- A row of `canvas_object`, as far as the serializer reads it. -/
structure ObjectRow where
  id : Uuid
  type : String
  label : Option String
  properties : Json
  positionX : Double
  positionY : Double
  width : Option Double
  height : Option Double
  style : Json
  isLocked : Bool
  deriving DecidableEq

/-- What the serializer reads of a canvas. -/
def canvasRow (canvas : Canvas) : CanvasRow where
  id := canvas.id
  revision := canvas.revision
  width := canvas.width
  height := canvas.height
  background := canvas.background

/-- What the serializer reads of an object. -/
def objectRow (object : CanvasObject) : ObjectRow where
  id := object.id
  type := object.type
  label := object.label
  properties := object.properties
  positionX := .finite object.positionX
  positionY := .finite object.positionY
  width := object.width.map .finite
  height := object.height.map .finite
  style := object.style
  isLocked := object.isLocked

/-! ## The document -/

/-- `CanvasSnapshotBounds`. -/
structure CanvasSnapshotBounds where
  x : Number
  y : Number
  width : Number
  height : Number
  deriving DecidableEq

/-- `CanvasSnapshotElement`. -/
structure CanvasSnapshotElement where
  id : Uuid
  type : String
  bounds : CanvasSnapshotBounds
  rotation : Number
  zIndex : Int
  visible : Bool
  locked : Bool
  text : Option String
  fill : Option String
  stroke : Option String
  assetRef : Option String
  deriving DecidableEq

/-- What a document says of the canvas. -/
structure CanvasSnapshotCanvas where
  id : Uuid
  revision : Int
  width : Int
  height : Int
  background : String
  deriving DecidableEq

/-- `CanvasSnapshotDocument`; relationships, groups and metadata are empty. -/
structure CanvasSnapshotDocument where
  canvas : CanvasSnapshotCanvas
  elements : List CanvasSnapshotElement
  deriving DecidableEq

/-- An element as a JSON value. -/
def CanvasSnapshotElement.json (element : CanvasSnapshotElement) : Json :=
  .obj
    [("id", .str element.id.text), ("type", .str element.type),
      ("bounds", .obj [("x", .num element.bounds.x), ("y", .num element.bounds.y),
        ("width", .num element.bounds.width), ("height", .num element.bounds.height)]),
      ("rotation", .num element.rotation), ("z_index", .num element.zIndex),
      ("visible", .bool element.visible), ("locked", .bool element.locked),
      ("text", textOrNull element.text), ("fill", textOrNull element.fill),
      ("stroke", textOrNull element.stroke), ("asset_ref", textOrNull element.assetRef)]

/-- What is said of the canvas as a JSON value. -/
def CanvasSnapshotCanvas.json (canvas : CanvasSnapshotCanvas) : Json :=
  .obj
    [("id", .str canvas.id.text), ("revision", .num canvas.revision),
      ("width", .num canvas.width), ("height", .num canvas.height),
      ("background", .str canvas.background)]

/-- A document as a JSON value. -/
def CanvasSnapshotDocument.json (document : CanvasSnapshotDocument) : Json :=
  .obj
    [("schema_version", .str "1"), ("canvas", document.canvas.json),
      ("elements", .arr (document.elements.map CanvasSnapshotElement.json)),
      ("relationships", .arr []), ("groups", .arr []), ("metadata", .obj [])]

/-! ## The serializer -/

/-- What the serializer runs on: the text of numbers, the validation of identifiers, the order of
texts in the language of the host and the digest. -/
structure SnapshotHost where
  numberText : Number → String
  validateUuid : String → Bool
  localeCompare : String → String → Int
  sha256 : List UInt8 → String

/-- `readFiniteNumber`, of a column. -/
def readFinite (value : Double) (field : String) : Except Exception Number :=
  match value with
  | .finite number => .ok number
  | _ => .error (.badRequest (field ++ " must be a finite number"))

/-- The checks of `serializeElement` on what an object contains. -/
def assertSafe (object : ObjectRow) : Except Exception Unit := do
  check (canvasSnapshotElementTypes.contains object.type)
    (.badRequest ("Unknown canvas element type: " ++ object.type))
  assertNoExecutableOrSecret "properties" object.properties
  assertNoExecutableOrSecret "style" object.style
  assertNoExecutableOrSecret "label" (textOrNull object.label)

/-- What `serializeElement` reads of an object after its checks. -/
def readElement (validateUuid : String → Bool) (object : ObjectRow) :
    Except Exception CanvasSnapshotElement := do
  let properties := asRecord object.properties
  let style := asRecord object.style
  let x ← readFinite object.positionX "position_x"
  let y ← readFinite object.positionY "position_y"
  validateCoordinate x "position_x"
  validateCoordinate y "position_y"
  let width ← readFinite (object.width.getD (.finite 0)) "width"
  let height ← readFinite (object.height.getD (.finite 0)) "height"
  validateDimension width "width" 0
  validateDimension height "height" 0
  let rotation ←
    readOptionalNumber ((given style "rotation").or (given properties "rotation")) 0 "rotation"
  check (decide (|rotation| ≤ 360000))
    (.badRequest "rotation is outside the supported range")
  let zIndex ← toSafeInteger
    (((given style "z_index").or (given style "zIndex")).or (given properties "z_index")
      |>.getD (.num 0)) "z_index"
  check (decide (|zIndex| ≤ 1000000)) (.badRequest "z_index is outside the supported range")
  let text ← readVisibleText object.label (given properties "text")
  let fill ← readColor ((given style "fill").or (given properties "fill")) "fill" true
  let stroke ← readColor ((given style "stroke").or (given properties "stroke")) "stroke" true
  let assetRef ← readAssetReference validateUuid
    ((given properties "asset_ref").or (given properties "assetRef"))
  let visible ←
    readBoolean ((given properties "visible").or (given style "visible")) true "visible"
  pure
    { id := object.id
      type := object.type
      bounds := ⟨x, y, width, height⟩
      rotation := rotation
      zIndex := zIndex
      visible := visible
      locked := object.isLocked
      text := text
      fill := fill
      stroke := stroke
      assetRef := assetRef }

/-- `serializeElement`, of a row. -/
def serializeObject (validateUuid : String → Bool) (object : ObjectRow) :
    Except Exception CanvasSnapshotElement := do
  assertSafe object
  readElement validateUuid object

/-- What a snapshot is: the document, the bytes that are stored, their digest and number. -/
structure Snapshot where
  document : CanvasSnapshotDocument
  jsonBytes : List UInt8
  checksumSha256 : String
  sizeBytes : Nat
  deriving DecidableEq

/-- The order in which elements stand. -/
def SnapshotHost.le (host : SnapshotHost) (left right : CanvasSnapshotElement) : Bool :=
  decide (host.localeCompare left.id.text right.id.text ≤ 0)

/-- The bytes of a document. -/
def SnapshotHost.bytes (host : SnapshotHost) (document : Json) : List UInt8 :=
  Utf8.bytesOf ((canonicalize document).chars host.numberText)

/-- `serialize`, given the canvas that is found and its objects in the order of the database. -/
def serializeSnapshot (host : SnapshotHost) (canvas? : Option CanvasRow)
    (objects : List ObjectRow) (expectedRevision : Option Number) :
    Except Exception Snapshot := do
  let canvas ← lookUp canvas? (.badRequest "Canvas not found")
  check (decide (objects.length ≤ maxElementCount))
    (.badRequest ("Canvas exceeds maximum element count of " ++ toString maxElementCount))
  let revision ← toSafeInteger (.str (toString canvas.revision)) "canvas.revision"
  check (decide (0 ≤ revision)) (.badRequest "canvas.revision must not be negative")
  check (decide (∀ expected ∈ expectedRevision, (revision : Number) = expected))
    (.badRequest ("Canvas revision changed: expected " ++
      expectedRevision.elim "" host.numberText ++ ", received " ++ host.numberText revision))
  let width ← toSafeInteger (.num canvas.width) "canvas.width"
  let height ← toSafeInteger (.num canvas.height) "canvas.height"
  validateDimension width "canvas.width" 1
  validateDimension height "canvas.height" 1
  let background ← readColor (some (.str canvas.background)) "canvas.background" false
  let background ← lookUp background (.badRequest "canvas.background must be a color")
  let elements ← objects.mapM (serializeObject host.validateUuid)
  let document : CanvasSnapshotDocument :=
    { canvas := ⟨canvas.id, revision, width, height, background⟩
      elements := elements.mergeSort host.le }
  let jsonBytes := host.bytes document.json
  pure ⟨document, jsonBytes, host.sha256 jsonBytes, jsonBytes.length⟩

/-! ## The columns that other modules read -/

theorem except_map_bind {ε α β γ : Type} (first : Except ε α) (next : α → Except ε β)
    (change : β → γ) :
    (first >>= next).map change = first >>= fun value => (next value).map change := by
  cases first <;> rfl

/-- The serializer makes of a row what it makes of the object. -/
theorem serializeElement_eq (validateUuid : String → Bool) (object : CanvasObject) :
    serializeElement validateUuid object =
      (serializeObject validateUuid (objectRow object)).map CanvasSnapshotElement.json := by
  have width : (objectRow object).width.getD (.finite 0) = .finite (object.width.getD 0) := by
    cases h : object.width <;> simp [objectRow, h]
  have height : (objectRow object).height.getD (.finite 0) = .finite (object.height.getD 0) := by
    cases h : object.height <;> simp [objectRow, h]
  rw [serializeObject, assertSafe, readElement, width, height, serializeElement]
  simp only [objectRow, readFinite, except_map_bind, bind_assoc, ok_bind]
  rfl

end Manbaa.Jobs
