import Manbaa.Jobs.SnapshotContents
import Manbaa.Lib.NumberText
import Mathlib.Data.Bool.AllAny

/-!
# Which canvases have a snapshot

The serializer refuses the objects that are not safe and no others: what an object contains is
clean, and the attributes that a worker sees are in their ranges, each taken from the first place
that gives it.
-/

namespace Manbaa.Jobs

open Manbaa.Lib Manbaa.Canvases

/-! ## Safe objects -/

/-- What an object says of an attribute, its style first. -/
def ObjectRow.styleFirst (object : ObjectRow) (key : String) : Option Json :=
  (given (asRecord object.style) key).or (given (asRecord object.properties) key)

/-- What an object says of an attribute, its properties first. -/
def ObjectRow.propertiesFirst (object : ObjectRow) (key : String) : Option Json :=
  (given (asRecord object.properties) key).or (given (asRecord object.style) key)

/-- What an object says of its place in the stack. -/
def ObjectRow.stackPlace (object : ObjectRow) : Option Json :=
  ((given (asRecord object.style) "z_index").or (given (asRecord object.style) "zIndex")).or
    (given (asRecord object.properties) "z_index")

/-- What an object says of its text. -/
def ObjectRow.shownText (object : ObjectRow) : Option Json :=
  (object.label.map Json.str).or (given (asRecord object.properties) "text")

/-- What an object says of its asset. -/
def ObjectRow.asset (object : ObjectRow) : Option Json :=
  (given (asRecord object.properties) "asset_ref").or
    (given (asRecord object.properties) "assetRef")

/-- A column holds a number in a range. -/
def InRange (value : Double) (least most : Number) : Prop :=
  ∃ number, value = .finite number ∧ least ≤ number ∧ number ≤ most

/-- A value is an integer, or the digits of one. -/
def Denotes (value : Json) (integer : Int) : Prop :=
  value = .num integer ∨ ∃ text, value = .str text ∧ numberOfDigits text = some (integer : Number)

/-- An object of which the serializer makes an element. -/
structure SafeObject (validateUuid : String → Bool) (object : ObjectRow) : Prop where
  type : object.type ∈ canvasSnapshotElementTypes
  properties : Clean object.properties
  style : Clean object.style
  label : ∀ text ∈ object.label, Harmless text
  positionX : InRange object.positionX (-1000000) 1000000
  positionY : InRange object.positionY (-1000000) 1000000
  width : ∀ value ∈ object.width, InRange value 0 65536
  height : ∀ value ∈ object.height, InRange value 0 65536
  rotation : ∀ value ∈ object.styleFirst "rotation",
    ∃ number : Number, value = .num number ∧ |number| ≤ 360000
  zIndex : ∀ value ∈ object.stackPlace, ∃ integer, Denotes value integer ∧ |integer| ≤ 1000000
  text : ∀ value ∈ object.shownText, ∃ text, value = .str text ∧ text.length ≤ 10000
  fill : ∀ value ∈ object.styleFirst "fill", ∃ text, value = .str text ∧ IsColor text
  stroke : ∀ value ∈ object.styleFirst "stroke", ∃ text, value = .str text ∧ IsColor text
  assetRef : ∀ value ∈ object.asset,
    ∃ assetId, value = .str ("asset://" ++ assetId) ∧ validateUuid assetId = true
  visible : ∀ value ∈ object.propertiesFirst "visible", ∃ visible, value = .bool visible

/-- A canvas whose measures and background a snapshot can say. -/
structure SafeCanvas (canvas : CanvasRow) : Prop where
  width : 1 ≤ canvas.width ∧ canvas.width ≤ 65536
  height : 1 ≤ canvas.height ∧ canvas.height ≤ 65536
  background : IsColor canvas.background

/-! ## What the readers accept -/

variable {validateUuid : String → Bool} {field : String} {value : Option Json}

theorem readFinite_eq_ok_iff {column : Double} {number : Number} :
    readFinite column field = .ok number ↔ column = .finite number := by
  cases column <;> simp [readFinite]

theorem validateCoordinate_eq_ok_iff {number : Number} :
    validateCoordinate number field = .ok () ↔ -1000000 ≤ number ∧ number ≤ 1000000 := by
  rw [validateCoordinate, check_eq_ok_iff, decide_eq_true_iff, maxCoordinateMagnitude, abs_le]

theorem validateDimension_eq_ok_iff {number : Number} {minimum : Nat} :
    validateDimension number field minimum = .ok () ↔
      (minimum : Number) ≤ number ∧ number ≤ 65536 := by
  rw [validateDimension, check_eq_ok_iff, Bool.and_eq_true_iff, decide_eq_true_iff,
    decide_eq_true_iff]
  rfl

theorem readOptionalNumber_eq_ok_iff {number fallback : Number} :
    readOptionalNumber value fallback field = .ok number ↔
      (value = none ∧ number = fallback) ∨ value = some (.num number) := by
  rcases value with _ | value
  · simp [readOptionalNumber, eq_comm]
  · cases value <;> simp [readOptionalNumber, readFiniteNumber, eq_comm]

/-- The number that a value denotes, if it does. -/
def normalized : Json → Option Number
  | .str text => numberOfDigits text
  | .num number => some number
  | _ => none

theorem denotes_iff {value : Json} {integer : Int} :
    Denotes value integer ↔ normalized value = some (integer : Number) := by
  cases value <;> simp [Denotes, normalized]

/-- A number is read from what `filter` leaves. -/
theorem toSafeInteger_eq_elim {value : Json} {found : Option Number}
    (foundEq : ((normalized value).filter fun number =>
      decide (number.den = 1) && decide (number.num.natAbs ≤ maxSafeInteger)) = found) :
    toSafeInteger value field = found.elim
      (.error (.badRequest (field ++ " must be a safe integer")))
      (fun number => .ok number.num) := by
  cases value <;> simp only [toSafeInteger, normalized] at foundEq ⊢ <;> rw [foundEq] <;>
    cases found <;> rfl

theorem toSafeInteger_eq_ok_iff {value : Json} {integer : Int} :
    toSafeInteger value field = .ok integer ↔
      Denotes value integer ∧ integer.natAbs ≤ maxSafeInteger := by
  rw [toSafeInteger_eq_elim rfl, denotes_iff]
  constructor
  · intro read
    cases found : (normalized value).filter fun number =>
        decide (number.den = 1) && decide (number.num.natAbs ≤ maxSafeInteger) with
    | none =>
        rw [found] at read
        cases read
    | some number =>
        rw [found] at read
        obtain ⟨denoted, safe⟩ := Option.filter_eq_some_iff.mp found
        rw [Bool.and_eq_true_iff, decide_eq_true_iff, decide_eq_true_iff] at safe
        cases read
        rw [denoted, (Rat.den_eq_one_iff number).mp safe.1]
        exact ⟨rfl, safe.2⟩
  · rintro ⟨denoted, small⟩
    have safe : (decide ((integer : Number).den = 1) &&
        decide ((integer : Number).num.natAbs ≤ maxSafeInteger)) = true := by
      rw [Bool.and_eq_true_iff, decide_eq_true_iff, decide_eq_true_iff]
      exact ⟨Rat.den_intCast integer, small⟩
    rw [denoted, Option.filter_some, if_pos safe]
    rfl

/-- A text is read if it passes a test. -/
theorem readText_eq_ok_iff {holds : String → Prop} {passed : Prop} [Decidable passed]
    {text : String} {result : Option String} {error : Exception}
    (passed_iff : passed ↔ holds text) :
    (if passed then Except.ok (some text) else Except.error error) = .ok result ↔
      some (Json.str text) = result.map Json.str ∧ ∀ shown ∈ result, holds shown := by
  cases result with
  | none => split <;> simp
  | some shown =>
      rw [Option.map_some, Option.some_inj, Json.str.injEq]
      constructor
      · intro read
        split at read
        · rename_i isPassed
          cases read
          exact ⟨rfl, fun other mem => by cases mem; exact passed_iff.mp isPassed⟩
        · cases read
      · rintro ⟨rfl, all⟩
        rw [if_pos (passed_iff.mpr (all text rfl))]

theorem readVisibleText_eq_ok_iff {label text : Option String} :
    readVisibleText label value = .ok text ↔
      (label.map Json.str).or value = text.map Json.str ∧
        ∀ shown ∈ text, shown.length ≤ 10000 := by
  rw [readVisibleText]
  generalize (label.map Json.str).or value = shown
  rcases shown with _ | shown
  · cases text <;> simp
  · cases shown with
    | str shown =>
        exact readText_eq_ok_iff Iff.rfl
    | _ => cases text <;> simp

theorem readColor_eq_ok_iff {color : Option String} :
    readColor value field true = .ok color ↔
      value = color.map Json.str ∧ ∀ text ∈ color, IsColor text := by
  rcases value with _ | value
  · cases color <;> simp [readColor]
  · cases value with
    | str text =>
        exact readText_eq_ok_iff colorPattern_iff
    | _ => cases color <;> simp [readColor]

theorem readBackground_eq_ok_iff {text : String} {color : Option String} :
    readColor (some (.str text)) field false = .ok color ↔
      some (Json.str text) = color.map Json.str ∧ ∀ shown ∈ color, IsColor shown :=
  readText_eq_ok_iff colorPattern_iff

theorem readBoolean_eq_ok_iff {visible fallback : Bool} :
    readBoolean value fallback field = .ok visible ↔
      (value = none ∧ visible = fallback) ∨ value = some (.bool visible) := by
  rcases value with _ | value
  · simp [readBoolean, eq_comm]
  · cases value <;> simp [readBoolean, eq_comm]

theorem readAssetReference_eq_ok_iff {assetRef : Option String} :
    readAssetReference validateUuid value = .ok assetRef ↔
      value = assetRef.map Json.str ∧ ∀ text ∈ assetRef,
        ∃ assetId, text = "asset://" ++ assetId ∧ validateUuid assetId = true := by
  rcases value with _ | value
  · cases assetRef <;> simp [readAssetReference]
  · cases value with
    | str text =>
        have accepted : (text = assetPrefix ++ String.ofList (text.toList.drop assetPrefix.length) ∧
            validateUuid (String.ofList (text.toList.drop assetPrefix.length)) = true) ↔
              ∃ assetId, text = "asset://" ++ assetId ∧ validateUuid assetId = true := by
          constructor
          · intro parts
            exact ⟨_, parts⟩
          · rintro ⟨assetId, rfl, valid⟩
            have dropped : ("asset://" ++ assetId).toList.drop assetPrefix.length =
                assetId.toList := by
              rw [String.toList_append]
              exact List.drop_left
            rw [dropped, String.ofList_toList]
            exact ⟨rfl, valid⟩
        exact readText_eq_ok_iff accepted
    | _ => cases assetRef <;> simp [readAssetReference]

/-! ## What an element says of its object -/

/-- An element says of its object what the object says, in the ranges of the attributes. -/
structure Reads (validateUuid : String → Bool) (object : ObjectRow)
    (element : CanvasSnapshotElement) : Prop where
  id : element.id = object.id
  type : element.type = object.type
  locked : element.locked = object.isLocked
  x : object.positionX = .finite element.bounds.x
  y : object.positionY = .finite element.bounds.y
  xRange : -1000000 ≤ element.bounds.x ∧ element.bounds.x ≤ 1000000
  yRange : -1000000 ≤ element.bounds.y ∧ element.bounds.y ≤ 1000000
  width : object.width.getD (.finite 0) = .finite element.bounds.width
  height : object.height.getD (.finite 0) = .finite element.bounds.height
  widthRange : ((0 : Nat) : Number) ≤ element.bounds.width ∧ element.bounds.width ≤ 65536
  heightRange : ((0 : Nat) : Number) ≤ element.bounds.height ∧ element.bounds.height ≤ 65536
  rotation : (object.styleFirst "rotation" = none ∧ element.rotation = 0) ∨
    object.styleFirst "rotation" = some (.num element.rotation)
  rotationRange : |element.rotation| ≤ 360000
  zIndex : Denotes (object.stackPlace.getD (.num 0)) element.zIndex
  zIndexRange : |element.zIndex| ≤ 1000000
  text : object.shownText = element.text.map Json.str ∧
    ∀ text ∈ element.text, text.length ≤ 10000
  fill : object.styleFirst "fill" = element.fill.map Json.str ∧
    ∀ text ∈ element.fill, IsColor text
  stroke : object.styleFirst "stroke" = element.stroke.map Json.str ∧
    ∀ text ∈ element.stroke, IsColor text
  assetRef : object.asset = element.assetRef.map Json.str ∧ ∀ text ∈ element.assetRef,
    ∃ assetId, text = "asset://" ++ assetId ∧ validateUuid assetId = true
  visible : (object.propertiesFirst "visible" = none ∧ element.visible = true) ∨
    object.propertiesFirst "visible" = some (.bool element.visible)

variable {object : ObjectRow} {element : CanvasSnapshotElement}

theorem safe_of_small {integer : Int} (small : |integer| ≤ 1000000) :
    integer.natAbs ≤ maxSafeInteger := by
  rw [abs_le] at small
  rw [maxSafeInteger]
  omega

/-- **An element is read** just when it says what its object says. -/
theorem readElement_eq_ok_iff :
    readElement validateUuid object = .ok element ↔ Reads validateUuid object element := by
  simp only [readElement, except_bind_eq_ok_iff, readFinite_eq_ok_iff, exists_done,
    validateCoordinate_eq_ok_iff, validateDimension_eq_ok_iff, readOptionalNumber_eq_ok_iff,
    check_eq_ok_iff, decide_eq_true_iff, toSafeInteger_eq_ok_iff, readVisibleText_eq_ok_iff,
    readColor_eq_ok_iff, readAssetReference_eq_ok_iff, readBoolean_eq_ok_iff, pure_eq_ok,
    Except.ok.injEq]
  constructor
  · rintro ⟨x, xEq, y, yEq, xRange, yRange, width, widthEq, height, heightEq, widthRange,
      heightRange, rotation, rotationEq, rotationRange, zIndex, ⟨zIndexEq, _⟩, zIndexRange, text,
      textEq, fill, fillEq, stroke, strokeEq, assetRef, assetRefEq, visible, visibleEq, rfl⟩
    exact ⟨rfl, rfl, rfl, xEq, yEq, xRange, yRange, widthEq, heightEq, widthRange, heightRange,
      rotationEq, rotationRange, zIndexEq, zIndexRange, textEq, fillEq, strokeEq, assetRefEq,
      visibleEq⟩
  · intro reads
    refine ⟨_, reads.x, _, reads.y, reads.xRange, reads.yRange, _, reads.width, _, reads.height,
      reads.widthRange, reads.heightRange, _, reads.rotation, reads.rotationRange, _,
      ⟨reads.zIndex, safe_of_small reads.zIndexRange⟩, reads.zIndexRange, _, reads.text, _,
      reads.fill, _, reads.stroke, _, reads.assetRef, _, reads.visible, ?_⟩
    rw [← reads.id, ← reads.type, ← reads.locked]

theorem clean_label_iff {label : Option String} :
    Clean (textOrNull label) ↔ ∀ text ∈ label, Harmless text := by
  cases label with
  | none =>
      exact ⟨fun _ text mem => (by cases mem),
        fun _ => ⟨fun text mem => (by cases mem), fun key mem => (by cases mem)⟩⟩
  | some label =>
      constructor
      · intro clean text mem
        cases mem
        exact clean.strings label (List.mem_singleton.mpr rfl)
      · intro harmless
        refine ⟨fun text mem => ?_, fun key mem => (by cases mem)⟩
        rw [List.mem_singleton.mp mem]
        exact harmless label rfl

theorem assertSafe_eq_ok_iff :
    assertSafe object = .ok () ↔ object.type ∈ canvasSnapshotElementTypes ∧
      Clean object.properties ∧ Clean object.style ∧ ∀ text ∈ object.label, Harmless text := by
  rw [assertSafe, except_bind_eq_ok_iff, exists_done, check_eq_ok_iff, List.contains_iff_mem,
    except_bind_eq_ok_iff, exists_done, assertNoExecutableOrSecret_eq_ok_iff,
    except_bind_eq_ok_iff, exists_done, assertNoExecutableOrSecret_eq_ok_iff,
    assertNoExecutableOrSecret_eq_ok_iff, clean_label_iff]

theorem serializeObject_eq_ok_iff :
    serializeObject validateUuid object = .ok element ↔
      assertSafe object = .ok () ∧ Reads validateUuid object element := by
  rw [serializeObject, except_bind_eq_ok_iff, exists_done, readElement_eq_ok_iff]

/-- What an element says of a measure that the column may leave open. -/
theorem measure_of_column {column : Option Double}
    (safe : ∀ value ∈ column, InRange value 0 65536) :
    ∃ number, column.getD (.finite 0) = .finite number ∧ ((0 : Nat) : Number) ≤ number ∧
      number ≤ 65536 := by
  cases column with
  | none => exact ⟨0, rfl, le_rfl, by norm_num⟩
  | some value =>
      obtain ⟨number, rfl, low, high⟩ := safe value rfl
      exact ⟨number, rfl, by simpa using low, high⟩

theorem column_of_measure {column : Option Double} {number : Number}
    (read : column.getD (.finite 0) = .finite number)
    (range : ((0 : Nat) : Number) ≤ number ∧ number ≤ 65536) :
    ∀ value ∈ column, InRange value 0 65536 := by
  rintro value mem
  rw [Option.mem_def.mp mem, Option.getD_some] at read
  exact ⟨number, read, by simpa using range.1, range.2⟩

/-- What an element says where its object may say a text. -/
theorem text_of_value {holds : String → Prop}
    (safe : ∀ found ∈ value, ∃ text, found = Json.str text ∧ holds text) :
    ∃ text : Option String, value = text.map Json.str ∧ ∀ shown ∈ text, holds shown := by
  cases value with
  | none => exact ⟨none, rfl, fun shown mem => (by cases mem)⟩
  | some found =>
      obtain ⟨text, rfl, isHeld⟩ := safe found rfl
      exact ⟨some text, rfl, fun shown mem => by cases mem; exact isHeld⟩

theorem value_of_text {holds : String → Prop} {text : Option String}
    (told : value = text.map Json.str ∧ ∀ shown ∈ text, holds shown) :
    ∀ found ∈ value, ∃ text, found = Json.str text ∧ holds text := by
  intro found mem
  rw [told.1, Option.mem_map] at mem
  obtain ⟨shown, shownMem, rfl⟩ := mem
  exact ⟨shown, rfl, told.2 shown shownMem⟩

/-- What is said of an asset. -/
theorem isReference_iff {found : Json} :
    (∃ text, found = .str text ∧
      ∃ assetId, text = "asset://" ++ assetId ∧ validateUuid assetId = true) ↔
        ∃ assetId, found = .str ("asset://" ++ assetId) ∧ validateUuid assetId = true := by
  constructor
  · rintro ⟨_, rfl, assetId, rfl, valid⟩
    exact ⟨assetId, rfl, valid⟩
  · rintro ⟨assetId, rfl, valid⟩
    exact ⟨_, rfl, assetId, rfl, valid⟩

/-- What an element says is the safe part of its object. -/
theorem safe_of_reads (asserted : assertSafe object = .ok ())
    (reads : Reads validateUuid object element) : SafeObject validateUuid object := by
  obtain ⟨type, properties, style, label⟩ := assertSafe_eq_ok_iff.mp asserted
  refine
    { type := type
      properties := properties
      style := style
      label := label
      positionX := ⟨_, reads.x, reads.xRange⟩
      positionY := ⟨_, reads.y, reads.yRange⟩
      width := column_of_measure reads.width reads.widthRange
      height := column_of_measure reads.height reads.heightRange
      rotation := ?_
      zIndex := ?_
      text := value_of_text reads.text
      fill := value_of_text reads.fill
      stroke := value_of_text reads.stroke
      assetRef := fun found mem => isReference_iff.mp (value_of_text reads.assetRef found mem)
      visible := ?_ }
  · intro value mem
    rcases reads.rotation with ⟨absent, _⟩ | told
    · rw [absent] at mem
      cases mem
    · rw [told] at mem
      cases mem
      exact ⟨_, rfl, reads.rotationRange⟩
  · intro value mem
    refine ⟨_, ?_, reads.zIndexRange⟩
    have denotes := reads.zIndex
    rw [Option.mem_def.mp mem] at denotes
    exact denotes
  · intro value mem
    rcases reads.visible with ⟨absent, _⟩ | told
    · rw [absent] at mem
      cases mem
    · rw [told] at mem
      cases mem
      exact ⟨_, rfl⟩

/-- A safe object has an element. -/
theorem exists_reads (safe : SafeObject validateUuid object) :
    ∃ element, Reads validateUuid object element := by
  obtain ⟨x, xEq, xRange⟩ := safe.positionX
  obtain ⟨y, yEq, yRange⟩ := safe.positionY
  obtain ⟨width, widthEq, widthRange⟩ := measure_of_column safe.width
  obtain ⟨height, heightEq, heightRange⟩ := measure_of_column safe.height
  have hasRotation : ∃ rotation, ((object.styleFirst "rotation" = none ∧ rotation = 0) ∨
      object.styleFirst "rotation" = some (.num rotation)) ∧ |rotation| ≤ 360000 := by
    cases found : object.styleFirst "rotation" with
    | none => exact ⟨0, Or.inl ⟨rfl, rfl⟩, by norm_num⟩
    | some value =>
        obtain ⟨rotation, rfl, range⟩ := safe.rotation value found
        exact ⟨rotation, Or.inr rfl, range⟩
  have hasZIndex : ∃ zIndex, Denotes (object.stackPlace.getD (.num 0)) zIndex ∧
      |zIndex| ≤ 1000000 := by
    cases found : object.stackPlace with
    | none => exact ⟨0, Or.inl rfl, by norm_num⟩
    | some value => exact safe.zIndex value found
  have hasVisible : ∃ visible, (object.propertiesFirst "visible" = none ∧ visible = true) ∨
      object.propertiesFirst "visible" = some (.bool visible) := by
    cases found : object.propertiesFirst "visible" with
    | none => exact ⟨true, Or.inl ⟨rfl, rfl⟩⟩
    | some value =>
        obtain ⟨visible, rfl⟩ := safe.visible value found
        exact ⟨visible, Or.inr rfl⟩
  obtain ⟨rotation, rotationEq, rotationRange⟩ := hasRotation
  obtain ⟨zIndex, zIndexEq, zIndexRange⟩ := hasZIndex
  obtain ⟨visible, visibleEq⟩ := hasVisible
  obtain ⟨text, textEq⟩ := text_of_value safe.text
  obtain ⟨fill, fillEq⟩ := text_of_value safe.fill
  obtain ⟨stroke, strokeEq⟩ := text_of_value safe.stroke
  obtain ⟨assetRef, assetRefEq⟩ := text_of_value fun found mem =>
    isReference_iff.mpr (safe.assetRef found mem)
  exact ⟨⟨object.id, object.type, ⟨x, y, width, height⟩, rotation, zIndex, visible,
    object.isLocked, text, fill, stroke, assetRef⟩, rfl, rfl, rfl, xEq, yEq, xRange, yRange,
    widthEq, heightEq, widthRange, heightRange, rotationEq, rotationRange, zIndexEq, zIndexRange,
    textEq, fillEq, strokeEq, assetRefEq, visibleEq⟩

/-- **The safe objects** are those of which the serializer makes an element. -/
theorem exists_element_iff :
    (∃ element, serializeObject validateUuid object = .ok element) ↔
      SafeObject validateUuid object := by
  constructor
  · rintro ⟨element, made⟩
    obtain ⟨asserted, reads⟩ := serializeObject_eq_ok_iff.mp made
    exact safe_of_reads asserted reads
  · intro safe
    obtain ⟨element, reads⟩ := exists_reads safe
    exact ⟨element, serializeObject_eq_ok_iff.mpr ⟨assertSafe_eq_ok_iff.mpr
      ⟨safe.type, safe.properties, safe.style, safe.label⟩, reads⟩⟩

/-! ## The canvas -/

/-- The text of an integer consists of digits just when it is not negative. -/
theorem numberOfDigits_toString (value : Int) :
    numberOfDigits (toString value) = if 0 ≤ value then some (value : Number) else none := by
  change numberOfDigits value.repr = _
  rw [Int.repr_eq_if]
  split
  · rename_i nonneg
    have isDigits : value.toNat.repr.toList ≠ [] ∧
        value.toNat.repr.toList.all Char.isDigit = true := by
      rw [Nat.toList_repr]
      exact ⟨Nat.toDigits_ne_nil, List.all_eq_true.mpr fun char mem =>
        Nat.isDigit_of_mem_toDigits (by decide) (by decide) mem⟩
    have natural : ((value.toNat : Nat) : Number) = (value : Number) := by
      rw [← Int.cast_natCast, Int.toNat_of_nonneg nonneg]
    rw [numberOfDigits, if_pos isDigits, ← Nat.ofDigitChars_eq_foldl, Nat.toList_repr,
      Nat.ofDigitChars_ten_toDigits, natural]
  · rw [numberOfDigits, if_neg]
    rintro ⟨_, all⟩
    rw [String.toList_append] at all
    exact absurd (List.all_eq_true.mp all '-' (List.mem_append_left _ (List.mem_singleton.mpr rfl)))
      (by decide)

theorem readRevision_eq_ok_iff {value integer : Int} :
    toSafeInteger (.str (toString value)) field = .ok integer ↔
      integer = value ∧ 0 ≤ value ∧ value ≤ maxSafeInteger := by
  rw [toSafeInteger_eq_ok_iff, denotes_iff, normalized, numberOfDigits_toString]
  constructor
  · rintro ⟨denoted, small⟩
    split at denoted
    · rename_i nonneg
      have same : value = integer := Int.cast_inj.mp (Option.some.inj denoted)
      exact ⟨same.symm, nonneg, by omega⟩
    · cases denoted
  · rintro ⟨rfl, nonneg, small⟩
    exact ⟨if_pos nonneg, by omega⟩

theorem readMeasure_eq_ok_iff {value integer : Int} :
    toSafeInteger (.num value) field = .ok integer ↔
      integer = value ∧ value.natAbs ≤ maxSafeInteger := by
  rw [toSafeInteger_eq_ok_iff, denotes_iff, normalized, Option.some_inj, Int.cast_inj]
  constructor
  · rintro ⟨rfl, small⟩
    exact ⟨rfl, small⟩
  · rintro ⟨rfl, small⟩
    exact ⟨rfl, small⟩

/-- The document of a canvas with some elements. -/
def SnapshotHost.document (host : SnapshotHost) (canvas : CanvasRow)
    (elements : List CanvasSnapshotElement) : CanvasSnapshotDocument where
  canvas := ⟨canvas.id, canvas.revision, canvas.width, canvas.height, canvas.background⟩
  elements := elements.mergeSort host.le

/-- The snapshot with a document. -/
def SnapshotHost.snapshot (host : SnapshotHost) (document : CanvasSnapshotDocument) : Snapshot where
  document := document
  jsonBytes := host.bytes document.json
  checksumSha256 := host.sha256 (host.bytes document.json)
  sizeBytes := (host.bytes document.json).length

/-- The revision of a canvas is one that a snapshot can say, and the expected one. -/
structure RevisionMatches (canvas : CanvasRow) (expectedRevision : Option Number) : Prop where
  nonneg : 0 ≤ canvas.revision
  safe : canvas.revision ≤ 9007199254740991
  expected : ∀ expected ∈ expectedRevision, (canvas.revision : Number) = expected

variable {host : SnapshotHost} {canvas : CanvasRow} {objects : List ObjectRow}
  {expectedRevision : Option Number} {snapshot : Snapshot}

theorem validateMeasure_eq_ok_iff {value : Int} :
    validateDimension (value : Number) field 1 = .ok () ↔ 1 ≤ value ∧ value ≤ 65536 := by
  rw [validateDimension_eq_ok_iff]
  norm_cast

/-- **A snapshot is made** of a safe canvas whose objects have elements. -/
theorem serializeSnapshot_eq_ok_iff :
    serializeSnapshot host (some canvas) objects expectedRevision = .ok snapshot ↔
      objects.length ≤ 1000 ∧ RevisionMatches canvas expectedRevision ∧ SafeCanvas canvas ∧
        ∃ elements, objects.mapM (serializeObject host.validateUuid) = .ok elements ∧
          snapshot = host.snapshot (host.document canvas elements) := by
  simp only [serializeSnapshot, except_bind_eq_ok_iff, lookUp_eq_ok_iff, exists_done,
    check_eq_ok_iff, decide_eq_true_iff, readRevision_eq_ok_iff, readMeasure_eq_ok_iff,
    validateMeasure_eq_ok_iff, readBackground_eq_ok_iff, pure_eq_ok, Except.ok.injEq,
    Option.some_inj]
  constructor
  · rintro ⟨_, rfl, few, revision, ⟨rfl, nonneg, safe⟩, _, expected, width, ⟨rfl, _⟩, height,
      ⟨rfl, _⟩, widthRange, heightRange, color, ⟨colorEq, isColor⟩, background, backgroundEq,
      elements, made, rfl⟩
    subst backgroundEq
    rw [Option.map_some, Option.some_inj, Json.str.injEq] at colorEq
    subst colorEq
    exact ⟨few, ⟨nonneg, safe, expected⟩, ⟨widthRange, heightRange, isColor _ rfl⟩, elements, made,
      rfl⟩
  · rintro ⟨few, revision, safe, elements, made, rfl⟩
    have small : ∀ value : Int, 1 ≤ value ∧ value ≤ 65536 → value.natAbs ≤ maxSafeInteger := by
      intro value range
      rw [maxSafeInteger]
      omega
    refine ⟨canvas, rfl, few, canvas.revision, ⟨rfl, revision.nonneg, revision.safe⟩,
      revision.nonneg, revision.expected, canvas.width, ⟨rfl, small _ safe.width⟩, canvas.height,
      ⟨rfl, small _ safe.height⟩, safe.width, safe.height, some canvas.background, ⟨rfl, ?_⟩,
      canvas.background, rfl, elements, made, rfl⟩
    intro shown mem
    cases mem
    exact safe.background

/-! ## What a document contains -/

/-- A computation over a list returns when it does so for each item. -/
theorem mapM_eq_ok_iff {α β ε : Type} {compute : α → Except ε β} {items : List α}
    {results : List β} :
    items.mapM compute = .ok results ↔
      List.Forall₂ (fun item result => compute item = .ok result) items results := by
  induction items generalizing results with
  | nil =>
      rw [List.mapM_nil, pure_eq_ok, Except.ok.injEq, List.forall₂_nil_left_iff, eq_comm]
  | cons item rest ih =>
      rw [List.mapM_cons, except_bind_eq_ok_iff]
      constructor
      · rintro ⟨result, made, others⟩
        obtain ⟨results, restMade, done⟩ := except_bind_eq_ok_iff.mp others
        cases done
        exact List.Forall₂.cons made (ih.mp restMade)
      · intro all
        cases all with
        | cons made others =>
            exact ⟨_, made, except_bind_eq_ok_iff.mpr ⟨_, ih.mpr others, rfl⟩⟩

/-- Every result is that of an item. -/
theorem exists_of_mem_results {α β : Type} {related : α → β → Prop} {items : List α}
    {results : List β} (pairs : List.Forall₂ related items results) {result : β}
    (mem : result ∈ results) : ∃ item ∈ items, related item result := by
  induction pairs with
  | nil => cases mem
  | cons isRelated _ ih =>
      rcases List.mem_cons.mp mem with rfl | later
      · exact ⟨_, List.mem_cons_self .., isRelated⟩
      · obtain ⟨item, itemMem, found⟩ := ih later
        exact ⟨item, List.mem_cons_of_mem _ itemMem, found⟩

theorem exists_elements_iff :
    (∃ elements, objects.mapM (serializeObject validateUuid) = .ok elements) ↔
      ∀ object ∈ objects, SafeObject validateUuid object := by
  simp only [mapM_eq_ok_iff]
  induction objects with
  | nil => exact ⟨fun _ object mem => (by cases mem), fun _ => ⟨[], List.Forall₂.nil⟩⟩
  | cons object rest ih =>
      rw [List.forall_mem_cons, ← ih, ← exists_element_iff]
      constructor
      · rintro ⟨elements, all⟩
        cases all with
        | cons made others => exact ⟨⟨_, made⟩, _, others⟩
      · rintro ⟨⟨element, made⟩, elements, others⟩
        exact ⟨element :: elements, List.Forall₂.cons made others⟩

/-- The keys of documents. -/
def documentKeys : List String :=
  ["schema_version", "canvas", "id", "revision", "width", "height", "background", "elements",
    "type", "bounds", "x", "y", "rotation", "z_index", "visible", "locked", "text", "fill",
    "stroke", "asset_ref", "relationships", "groups", "metadata"]

theorem documentKeys_clean : ∀ key ∈ documentKeys, Harmless key ∧ ¬ IsSecretName key := by
  decide +kernel

example : "token" ∉ documentKeys := by decide +kernel

theorem strings_textOrNull (text : Option String) : (textOrNull text).strings = text.toList := by
  cases text <;> rfl

theorem keys_textOrNull (text : Option String) : (textOrNull text).keys = [] := by
  cases text <;> rfl

theorem strings_element (element : CanvasSnapshotElement) :
    element.json.strings = element.id.text :: element.type ::
      (element.text.toList ++ (element.fill.toList ++
        (element.stroke.toList ++ element.assetRef.toList))) := by
  simp [CanvasSnapshotElement.json, Json.strings, Json.stringsFields, strings_textOrNull]

theorem keys_element (element : CanvasSnapshotElement) :
    ∀ key ∈ element.json.keys, key ∈ documentKeys := by
  simp only [CanvasSnapshotElement.json, Json.keys, Json.keysFields, keys_textOrNull,
    List.append_nil]
  simp [documentKeys]

/-- What an object says in words is one of its texts. -/
theorem mem_strings_of_given {fields : Json} {key text : String}
    (told : given (asRecord fields) key = some (.str text)) : text ∈ fields.strings := by
  obtain ⟨found, _⟩ := Option.filter_eq_some_iff.mp told
  cases fields with
  | obj fields =>
      obtain ⟨front, back, split, _⟩ := List.lookup_eq_some_iff.mp found
      rw [Json.strings, Json.stringsFields_eq]
      change fields = _ at split
      rw [split, List.flatMap_append, List.flatMap_cons]
      exact List.mem_append_right _ (List.mem_append_left _ (List.mem_singleton.mpr rfl))
  | _ => cases found

/-- What is said in the first of two places is said in one of them. -/
theorem harmless_of_either {first second : Option Json} {text : String}
    (told : first.or second = some (.str text))
    (isFirst : first = some (.str text) → Harmless text)
    (isSecond : second = some (.str text) → Harmless text) : Harmless text := by
  rcases Option.or_eq_some_iff.mp told with here | ⟨_, there⟩
  · exact isFirst here
  · exact isSecond there

theorem harmless_of_reads (safe : SafeObject validateUuid object)
    (reads : Reads validateUuid object element) (isUuid : IsUuid object.id.text) :
    ∀ text ∈ element.json.strings, Harmless text := by
  have inProperties : ∀ {key text : String},
      given (asRecord object.properties) key = some (.str text) → Harmless text :=
    fun told => safe.properties.strings _ (mem_strings_of_given told)
  have inStyle : ∀ {key text : String},
      given (asRecord object.style) key = some (.str text) → Harmless text :=
    fun told => safe.style.strings _ (mem_strings_of_given told)
  have types : ∀ type ∈ canvasSnapshotElementTypes, Harmless type := by decide +kernel
  rw [strings_element]
  intro text mem
  simp only [List.mem_cons, List.mem_append, Option.mem_toList] at mem
  rcases mem with rfl | rfl | shown | fill | stroke | asset
  · rw [reads.id]
    exact harmless_of_uuid isUuid
  · rw [reads.type]
    exact types _ safe.type
  · have told := reads.text.1
    rw [Option.mem_def.mp shown] at told
    refine harmless_of_either told (fun labelled => ?_) inProperties
    obtain ⟨label, labelEq, same⟩ := Option.map_eq_some_iff.mp labelled
    cases same
    exact safe.label _ labelEq
  · have told := reads.fill.1
    rw [Option.mem_def.mp fill] at told
    exact harmless_of_either told inStyle inProperties
  · have told := reads.stroke.1
    rw [Option.mem_def.mp stroke] at told
    exact harmless_of_either told inStyle inProperties
  · have told := reads.assetRef.1
    rw [Option.mem_def.mp asset] at told
    exact harmless_of_either told inProperties inProperties

theorem strings_document (document : CanvasSnapshotDocument) :
    document.json.strings = "1" :: document.canvas.id.text :: document.canvas.background ::
      document.elements.flatMap fun element => element.json.strings := by
  simp [CanvasSnapshotDocument.json, CanvasSnapshotCanvas.json, Json.strings,
    Json.stringsFields, Json.stringsItems_eq, Json.stringsItems, List.flatMap_map]

theorem keys_document (document : CanvasSnapshotDocument) :
    ∀ key ∈ document.json.keys, key ∈ documentKeys := by
  have items : ∀ elements : List CanvasSnapshotElement,
      ∀ key ∈ Json.keysItems (elements.map CanvasSnapshotElement.json), key ∈ documentKeys := by
    intro elements
    induction elements with
    | nil => exact fun key mem => (by cases mem)
    | cons element rest ih => exact List.forall_mem_append.mpr ⟨keys_element element, ih⟩
  intro key mem
  simp only [CanvasSnapshotDocument.json, CanvasSnapshotCanvas.json, Json.keys, Json.keysFields,
    Json.keysItems, List.nil_append, List.append_nil, List.cons_append, List.mem_cons,
    List.mem_append, List.not_mem_nil, or_false] at mem
  rcases mem with rfl | rfl | rfl | rfl | rfl | rfl | rfl | rfl | inElements | rfl | rfl | rfl
  case inr.inr.inr.inr.inr.inr.inr.inr.inl => exact items _ key inElements
  all_goals simp [documentKeys]

theorem document_harmless (made : serializeSnapshot host (some canvas) objects expectedRevision =
      .ok snapshot) (isUuid : IsUuid canvas.id.text)
    (areUuids : ∀ object ∈ objects, IsUuid object.id.text) :
    ∀ text ∈ snapshot.document.json.strings, Harmless text := by
  obtain ⟨_, _, safe, elements, elementsMade, rfl⟩ := serializeSnapshot_eq_ok_iff.mp made
  have pairs := mapM_eq_ok_iff.mp elementsMade
  rw [strings_document, SnapshotHost.snapshot, SnapshotHost.document]
  refine List.forall_mem_cons.mpr ⟨harmless_of_plain (List.all_iff_forall_prop.mp (by decide +kernel)),
    List.forall_mem_cons.mpr ⟨harmless_of_uuid isUuid,
      List.forall_mem_cons.mpr ⟨harmless_of_color safe.background, ?_⟩⟩⟩
  intro text mem
  obtain ⟨element, elementMem, inElement⟩ := List.mem_flatMap.mp mem
  have isMade := (List.mergeSort_perm elements host.le).mem_iff.mp elementMem
  obtain ⟨object, objectMem, madeOf⟩ := exists_of_mem_results pairs isMade
  obtain ⟨asserted, reads⟩ := serializeObject_eq_ok_iff.mp madeOf
  exact harmless_of_reads (safe_of_reads asserted reads) reads (areUuids object objectMem) text
    inElement

/-- **The serializer refuses the unsafe canvases and no others**, and every text and key of a
document is harmless, the identifiers of the rows being those of `uuid` columns. -/
theorem serialize_iff_safe (host : SnapshotHost) (canvas : CanvasRow) (objects : List ObjectRow)
    (expectedRevision : Option Number) :
    ((∃ snapshot, serializeSnapshot host (some canvas) objects expectedRevision = .ok snapshot) ↔
      RevisionMatches canvas expectedRevision ∧ SafeCanvas canvas ∧ objects.length ≤ 1000 ∧
        ∀ object ∈ objects, SafeObject host.validateUuid object) ∧
    (IsUuid canvas.id.text → (∀ object ∈ objects, IsUuid object.id.text) → ∀ snapshot,
      serializeSnapshot host (some canvas) objects expectedRevision = .ok snapshot →
        ∀ text ∈ snapshot.document.json.strings ++ snapshot.document.json.keys,
          Harmless text) := by
  constructor
  · simp only [serializeSnapshot_eq_ok_iff]
    constructor
    · rintro ⟨_, few, revision, safe, elements, made, _⟩
      exact ⟨revision, safe, few, exists_elements_iff.mp ⟨elements, made⟩⟩
    · rintro ⟨revision, safe, few, safeObjects⟩
      obtain ⟨elements, made⟩ := exists_elements_iff.mpr safeObjects
      exact ⟨_, few, revision, safe, elements, made, rfl⟩
  · intro isUuid areUuids snapshot made
    refine List.forall_mem_append.mpr ⟨document_harmless made isUuid areUuids, ?_⟩
    intro key mem
    exact (documentKeys_clean key (keys_document snapshot.document key mem)).1

/-- A host that writes integers as the runtime does. -/
def exampleSnapshotHost : SnapshotHost where
  numberText := NumberText.text
  validateUuid := fun text => (UuidText.read? text).isSome
  localeCompare := fun first second =>
    if first < second then -1 else if first = second then 0 else 1
  sha256 := fun bytes => toString bytes.length

/-- A canvas at a revision. -/
def exampleCanvasRow (revision : Int) : CanvasRow where
  id := uuid "11111111-1111-4111-8111-111111111111"
  revision := revision
  width := 1440
  height := 1024
  background := "#FFFFFF"

example : (exampleCanvasRow 0).background ∉ documentKeys := by decide +kernel

theorem exampleCanvasRow_safe (revision : Int) : SafeCanvas (exampleCanvasRow revision) where
  width := by
    change (1 : Int) ≤ 1440 ∧ (1440 : Int) ≤ 65536
    decide
  height := by
    change (1 : Int) ≤ 1024 ∧ (1024 : Int) ≤ 65536
    decide
  background := by
    change IsColor "#FFFFFF"
    exact ⟨"FFFFFF".toList, by decide +kernel, Or.inl (by decide +kernel),
      List.all_iff_forall_prop.mp (by decide +kernel)⟩

theorem serialize_iff_safe_example :
    ∃ snapshot, serializeSnapshot exampleSnapshotHost (some (exampleCanvasRow 148)) [] (some 148) =
      .ok snapshot :=
  ((serialize_iff_safe exampleSnapshotHost (exampleCanvasRow 148) [] (some 148)).1).mpr
    ⟨⟨by decide, by decide, fun expected mem => by cases mem; rfl⟩, exampleCanvasRow_safe 148,
      by decide, fun object mem => (by cases mem)⟩

/-- A revision that is no safe integer is refused even if it is the expected one. -/
theorem unsafe_revision_refused :
    ((exampleCanvasRow 9007199254740992).revision : Number) = 9007199254740992 ∧
      SafeCanvas (exampleCanvasRow 9007199254740992) ∧
      ¬ ∃ snapshot, serializeSnapshot exampleSnapshotHost
        (some (exampleCanvasRow 9007199254740992)) [] (some 9007199254740992) = .ok snapshot := by
  refine ⟨by rfl, exampleCanvasRow_safe _, ?_⟩
  rintro ⟨snapshot, made⟩
  obtain ⟨_, revision, _⟩ := serializeSnapshot_eq_ok_iff.mp made
  exact absurd revision.safe (by decide)

end Manbaa.Jobs
