import Manbaa.Jobs.Preview
import Manbaa.Jobs.Tasks
import Manbaa.Lib.Pattern

/-!
# The snapshot serializer

What a snapshot says of a canvas: its measures and, for every object, the
attributes that a worker may see.  Objects of unknown types, attributes out of
their range, executable content and credentials are refused.  The keys of the
document are sorted, so that a canvas has one text.
-/

namespace Manbaa.Jobs

open Manbaa.Lib Manbaa.Canvases

/-! ## Checks of values -/

/-- The largest measure. -/
def maxDimension : Nat := 65536

/-- The largest coordinate. -/
def maxCoordinateMagnitude : Number := 1000000

/-- The largest number of characters of a visible text. -/
def maxVisibleTextCharacters : Nat := 10000

/-- The types that an element may have. -/
def canvasSnapshotElementTypes : List String :=
  ["text", "rectangle", "ellipse", "image", "line", "frame", "group", "activity", "gateway",
    "event", "connector", "annotation"]

/-- `asRecord`. -/
def asRecord : Json → Json.Fields
  | .obj fields => fields
  | _ => []

/-- `readFiniteNumber`; all numbers are finite. -/
def readFiniteNumber (value : Json) (field : String) : Except Exception Number :=
  match value with
  | .num number => .ok number
  | _ => .error (.badRequest (field ++ " must be a finite number"))

/-- `readOptionalNumber`. -/
def readOptionalNumber (value : Option Json) (fallback : Number) (field : String) :
    Except Exception Number :=
  value.elim (.ok fallback) fun value => readFiniteNumber value field

/-- The number that a text of digits denotes. -/
def numberOfDigits (text : String) : Option Number :=
  if text.toList ≠ [] ∧ text.toList.all Char.isDigit then
    some (text.toList.foldl (fun number digit => 10 * number + (digit.toNat - '0'.toNat)) 0 : Nat)
  else none

/-- `toSafeInteger`. -/
def toSafeInteger (value : Json) (field : String) : Except Exception Int :=
  let normalized : Option Number :=
    match value with
    | .str text => numberOfDigits text
    | .num number => some number
    | _ => none
  match normalized.filter fun number =>
      decide (number.den = 1) && decide (number.num.natAbs ≤ maxSafeInteger) with
  | some number => .ok number.num
  | none => .error (.badRequest (field ++ " must be a safe integer"))

/-- `validateCoordinate`. -/
def validateCoordinate (value : Number) (field : String) : Except Exception Unit :=
  check (decide (|value| ≤ maxCoordinateMagnitude))
    (.badRequest (field ++ " is outside the supported range"))

/-- `validateDimension`. -/
def validateDimension (value : Number) (field : String) (minimum : Nat) :
    Except Exception Unit :=
  check (decide ((minimum : Number) ≤ value) && decide (value ≤ (maxDimension : Number)))
    (.badRequest (field ++ " must be between " ++ toString minimum ++ " and " ++
      toString maxDimension))

/-- A hexadecimal digit. -/
def isHexDigit (char : Char) : Bool :=
  char.isDigit || ('a' ≤ char && char ≤ 'f') || ('A' ≤ char && char ≤ 'F')

/-- A color with or without an alpha channel. -/
def colorPattern : Pattern :=
  .all [.one (· == '#'), .times 6 isHexDigit, .optional (.times 2 isHexDigit)]

/-- `readColor`. -/
def readColor (value : Option Json) (field : String) (nullable : Bool) :
    Except Exception (Option String) :=
  match value with
  | none =>
      if nullable then .ok none else .error (.badRequest (field ++ " must be a color"))
  | some (.str text) =>
      if colorPattern.fits text then .ok (some text)
      else .error (.badRequest (field ++ " must be a hexadecimal color"))
  | some _ => .error (.badRequest (field ++ " must be a hexadecimal color"))

/-- `readBoolean`. -/
def readBoolean (value : Option Json) (fallback : Bool) (field : String) :
    Except Exception Bool :=
  match value with
  | none => .ok fallback
  | some (.bool value) => .ok value
  | some _ => .error (.badRequest (field ++ " must be a boolean"))

/-- `readVisibleText`. -/
def readVisibleText (label : Option String) (propertyText : Option Json) :
    Except Exception (Option String) :=
  match (label.map Json.str).or propertyText with
  | none => .ok none
  | some (.str text) =>
      if text.length ≤ maxVisibleTextCharacters then .ok (some text)
      else .error (.badRequest "Visible text exceeds the snapshot limit")
  | some _ => .error (.badRequest "Visible text must be a string")

/-- What a reference to an asset starts with. -/
def assetPrefix : String := "asset://"

/-- `readAssetReference`. -/
def readAssetReference (validateUuid : String → Bool) :
    Option Json → Except Exception (Option String)
  | none => .ok none
  | some value =>
      match value with
      | .str text =>
          let assetId := String.ofList (text.toList.drop assetPrefix.length)
          if text = assetPrefix ++ assetId ∧ validateUuid assetId then .ok (some text)
          else .error (.badRequest "asset_ref must be null or an asset:// UUID reference")
      | _ => .error (.badRequest "asset_ref must be null or an asset:// UUID reference")

/-! ## Executable content and credentials -/

/-- Two characters are one letter, in either case. -/
def sameLetter (first second : Char) : Bool := first.toLower == second.toLower

/-- The white space of the language. -/
def isSpace (char : Char) : Bool :=
  [9, 10, 11, 12, 13, 32, 160, 5760, 8232, 8233, 8239, 8287, 12288, 65279].contains char.toNat ||
    (8192 ≤ char.toNat && char.toNat ≤ 8202)

/-- A character of a credential. -/
def isKeyChar (char : Char) : Bool := Pattern.isWord char || char == '-'

/-- A word, its letters in either case. -/
def anyCase (text : String) : Pattern := .word sameLetter text

/-- A word as it is written. -/
def exactly (text : String) : Pattern := .word (· == ·) text

/-- Content that a browser would execute. -/
def executablePattern : Pattern :=
  .oneOf (.seq (anyCase "<script") .edge)
    [.all [anyCase "javascript", .many isSpace, anyCase ":"],
      .all [anyCase "data", .many isSpace, anyCase ":", .many isSpace, anyCase "text/html"]]

/-- The head of a private key. -/
def privateKeyPattern : Pattern :=
  .all [exactly "-----BEGIN ",
    .optional (.oneOf (exactly "RSA ") [exactly "EC ", exactly "OPENSSH "]),
    exactly "PRIVATE KEY-----"]

/-- A secret or a publishable key. -/
def secretKeyPattern : Pattern :=
  .all [.edge, .oneOf (exactly "sk") [exactly "pk"], exactly "_", .times 20 isKeyChar,
    .many isKeyChar, .edge]

/-- An access key. -/
def accessKeyPattern : Pattern :=
  .all [.edge, exactly "AKIA", .times 16 fun char => char.isDigit || char.isUpper, .edge]

/-- A key whose value is not for a snapshot. -/
def forbiddenKeyPattern : Pattern :=
  let joint : Pattern := .optional (.one fun char => char == '_' || char == '-')
  .oneOf (anyCase "password")
    [anyCase "passwd", anyCase "secret", anyCase "token",
      .all [anyCase "api", joint, anyCase "key"], .all [anyCase "private", joint, anyCase "key"]]

mutual

/-- `assertNoExecutableOrSecret`. -/
def assertNoExecutableOrSecret (path : String) : Json → Except Exception Unit
  | .str text =>
      check
        (!(executablePattern.finds text || privateKeyPattern.finds text ||
          secretKeyPattern.finds text || accessKeyPattern.finds text))
        (.badRequest (path ++ " contains executable content or a credential"))
  | .arr items => assertItems path 0 items
  | .obj fields => assertFields path fields
  | _ => .ok ()

/-- The items of an array. -/
def assertItems (path : String) (index : Nat) : List Json → Except Exception Unit
  | [] => .ok ()
  | item :: rest => do
      assertNoExecutableOrSecret (path ++ "[" ++ toString index ++ "]") item
      assertItems path (index + 1) rest

/-- The properties of an object. -/
def assertFields (path : String) : Json.Fields → Except Exception Unit
  | [] => .ok ()
  | (key, child) :: rest => do
      check (!forbiddenKeyPattern.fits key)
        (.badRequest (path ++ "." ++ key ++ " is not allowed in a snapshot"))
      assertNoExecutableOrSecret (path ++ "." ++ key) child
      assertFields path rest

end

/-! ## The document -/

/-- `serializeElement`, as the JSON value of the element. -/
def serializeElement (validateUuid : String → Bool) (object : CanvasObject) :
    Except Exception Json := do
  check (canvasSnapshotElementTypes.contains object.type)
    (.badRequest ("Unknown canvas element type: " ++ object.type))
  assertNoExecutableOrSecret "properties" object.properties
  assertNoExecutableOrSecret "style" object.style
  assertNoExecutableOrSecret "label" (textOrNull object.label)
  let properties := asRecord object.properties
  let style := asRecord object.style
  validateCoordinate object.positionX "position_x"
  validateCoordinate object.positionY "position_y"
  let width := object.width.getD 0
  let height := object.height.getD 0
  validateDimension width "width" 0
  validateDimension height "height" 0
  let rotation ←
    readOptionalNumber ((given style "rotation").or (given properties "rotation")) 0 "rotation"
  check (decide (|rotation| ≤ 360000))
    (.badRequest "rotation is outside the supported range")
  let zIndex ← toSafeInteger
    (((given style "z_index").or (given style "zIndex")).or (given properties "z_index")
      |>.getD (.num 0)) "z_index"
  check (decide (|zIndex| ≤ 1000000)) (.badRequest "z_index is outside the supported range")
  let text ← readVisibleText object.label (given properties "text")
  let fill ← readColor ((given style "fill").or (given properties "fill")) "fill" true
  let stroke ← readColor ((given style "stroke").or (given properties "stroke")) "stroke" true
  let assetRef ← readAssetReference validateUuid
    ((given properties "asset_ref").or (given properties "assetRef"))
  let visible ←
    readBoolean ((given properties "visible").or (given style "visible")) true "visible"
  pure <| .obj
    [("id", .str object.id.text), ("type", .str object.type),
      ("bounds", .obj [("x", .num object.positionX), ("y", .num object.positionY),
        ("width", .num width), ("height", .num height)]),
      ("rotation", .num rotation), ("z_index", .num zIndex), ("visible", .bool visible),
      ("locked", .bool object.isLocked), ("text", textOrNull text), ("fill", textOrNull fill),
      ("stroke", textOrNull stroke), ("asset_ref", textOrNull assetRef)]

mutual

/-- `canonicalize`: the keys of all objects in their order. -/
def canonicalize : Json → Json
  | .arr items => .arr (canonicalizeItems items)
  | .obj fields =>
      .obj ((canonicalizeFields fields).insertionSort fun first second => first.1 ≤ second.1)
  | value => value

/-- The items of an array. -/
def canonicalizeItems : List Json → List Json
  | [] => []
  | item :: rest => canonicalize item :: canonicalizeItems rest

/-- The properties of an object. -/
def canonicalizeFields : Json.Fields → Json.Fields
  | [] => []
  | (key, value) :: rest => (key, canonicalize value) :: canonicalizeFields rest

end

/-- The text of a snapshot, given the objects in the order of their
identifiers. -/
def snapshotDocument (numberText : Number → String) (validateUuid : String → Bool)
    (canvas : Canvas) (objects : List CanvasObject) : Except Exception String := do
  let width ← toSafeInteger (.num canvas.width) "canvas.width"
  let height ← toSafeInteger (.num canvas.height) "canvas.height"
  validateDimension width "canvas.width" 1
  validateDimension height "canvas.height" 1
  let background ← readColor (some (.str canvas.background)) "canvas.background" false
  let elements ← objects.mapM (serializeElement validateUuid)
  let document : Json := .obj
    [("schema_version", .str "1"),
      ("canvas", .obj [("id", .str canvas.id.text), ("revision", .num canvas.revision),
        ("width", .num width), ("height", .num height), ("background", textOrNull background)]),
      ("elements", .arr elements), ("relationships", .arr []), ("groups", .arr []),
      ("metadata", .obj [])]
  pure ((canonicalize document).stringify numberText)

/-- The host, with the serializer of the source. -/
def Host.serializing (host : Host) : Host :=
  { host with document := snapshotDocument host.numberText host.validateUuid }

end Manbaa.Jobs
