import Manbaa.Jobs.Canonical
import Manbaa.Jobs.SnapshotSafety
import Mathlib.Data.Set.List

/-!
# The bytes of snapshots

The bytes of a snapshot do not depend on the order of the objects nor on the order of their
properties.  They are read back as the document, so they differ when the documents do.
-/

namespace Manbaa.Jobs

open Manbaa.Lib Manbaa.Lib.JsonText Manbaa.Canvases

/-! ## Rows in another form -/

/-- A row with the stored form of its JSON columns. -/
def ObjectRow.stored (object : ObjectRow) : ObjectRow :=
  { object with
    properties := object.properties.normal
    style := object.style.normal }

/-- The numbers of a column that may be open. -/
def columnNumbers (column : Option Double) : List Number := (column.bind Double.finite?).toList

/-- The numbers of an object. -/
def ObjectRow.numbers (object : ObjectRow) : List Number :=
  object.properties.numbers ++ object.style.numbers ++
    [some object.positionX, some object.positionY, object.width, object.height].flatMap
      columnNumbers

/-- A row as the driver returns it: its identifier is that of a `uuid` column, the objects in its
JSON columns have distinct keys, and its numbers are doubles. -/
structure ObjectRow.WellFormed (object : ObjectRow) : Prop where
  isUuid : IsUuid object.id.text
  properties : object.properties.Distinct
  style : object.style.Distinct
  numbers : ∀ number ∈ object.numbers, IsDouble number

/-- The order of texts in the language of the host is one of all identifiers. -/
structure OrdersUuids (localeCompare : String → String → Int) : Prop where
  antisymm : ∀ first second, IsUuid first → IsUuid second → localeCompare first second ≤ 0 →
    localeCompare second first ≤ 0 → first = second
  trans : ∀ first second third, IsUuid first → IsUuid second → IsUuid third →
    localeCompare first second ≤ 0 → localeCompare second third ≤ 0 →
      localeCompare first third ≤ 0
  total : ∀ first second, IsUuid first → IsUuid second →
    localeCompare first second ≤ 0 ∨ localeCompare second first ≤ 0

/-! ### The order of keys does not matter -/

mutual

theorem mem_strings_normal : ∀ (value : Json) (text : String), value.Distinct →
    (text ∈ value.normal.strings ↔ text ∈ value.strings)
  | .null, _, _ | .bool _, _, _ | .num _, _, _ | .str _, _, _ => Iff.rfl
  | .arr items, text, distinct => mem_strings_normalItems items text distinct
  | .obj fields, text, distinct => by
      rw [Json.normal, Json.strings, Json.strings,
        ← mem_strings_normalFields fields text distinct.2, Json.stringsFields_eq,
        Json.stringsFields_eq]
      exact ((Json.normalFields_perm distinct.1).flatMap_right _).mem_iff

theorem mem_strings_normalItems : ∀ (items : List Json) (text : String),
    Json.DistinctItems items →
      (text ∈ Json.stringsItems (Json.normalItems items) ↔ text ∈ Json.stringsItems items)
  | [], _, _ => Iff.rfl
  | item :: rest, text, distinct => by
      rw [Json.normalItems, Json.stringsItems, Json.stringsItems, List.mem_append, List.mem_append,
        mem_strings_normal item text distinct.1, mem_strings_normalItems rest text distinct.2]

theorem mem_strings_normalFields : ∀ (fields : Json.Fields) (text : String),
    Json.DistinctFields fields →
      (text ∈ Json.stringsFields (fields.map fun field => (field.1, field.2.normal)) ↔
        text ∈ Json.stringsFields fields)
  | [], _, _ => Iff.rfl
  | (_, value) :: rest, text, distinct => by
      rw [List.map_cons, Json.stringsFields, Json.stringsFields, List.mem_append, List.mem_append,
        mem_strings_normal value text distinct.1, mem_strings_normalFields rest text distinct.2]

end

mutual

theorem mem_keys_normal : ∀ (value : Json) (key : String), value.Distinct →
    (key ∈ value.normal.keys ↔ key ∈ value.keys)
  | .null, _, _ | .bool _, _, _ | .num _, _, _ | .str _, _, _ => Iff.rfl
  | .arr items, key, distinct => mem_keys_normalItems items key distinct
  | .obj fields, key, distinct => by
      rw [Json.normal, Json.keys, Json.keys, ← mem_keys_normalFields fields key distinct.2,
        Json.keysFields_eq, Json.keysFields_eq]
      exact ((Json.normalFields_perm distinct.1).flatMap_right _).mem_iff

theorem mem_keys_normalItems : ∀ (items : List Json) (key : String),
    Json.DistinctItems items →
      (key ∈ Json.keysItems (Json.normalItems items) ↔ key ∈ Json.keysItems items)
  | [], _, _ => Iff.rfl
  | item :: rest, key, distinct => by
      rw [Json.normalItems, Json.keysItems, Json.keysItems, List.mem_append, List.mem_append,
        mem_keys_normal item key distinct.1, mem_keys_normalItems rest key distinct.2]

theorem mem_keys_normalFields : ∀ (fields : Json.Fields) (key : String),
    Json.DistinctFields fields →
      (key ∈ Json.keysFields (fields.map fun field => (field.1, field.2.normal)) ↔
        key ∈ Json.keysFields fields)
  | [], _, _ => Iff.rfl
  | (name, value) :: rest, key, distinct => by
      rw [List.map_cons, Json.keysFields, Json.keysFields, List.cons_append, List.cons_append,
        List.mem_cons, List.mem_cons, List.mem_append, List.mem_append,
        mem_keys_normal value key distinct.1, mem_keys_normalFields rest key distinct.2]

end

/-- What is clean does not depend on the order of keys. -/
theorem clean_normal_iff {value : Json} (distinct : value.Distinct) :
    Clean value.normal ↔ Clean value := by
  constructor
  · intro clean
    exact ⟨fun text mem => clean.strings text ((mem_strings_normal value text distinct).mpr mem),
      fun key mem => clean.keys key ((mem_keys_normal value key distinct).mpr mem)⟩
  · intro clean
    exact ⟨fun text mem => clean.strings text ((mem_strings_normal value text distinct).mp mem),
      fun key mem => clean.keys key ((mem_keys_normal value key distinct).mp mem)⟩

theorem normal_eq_num_iff {value : Json} {number : Number} :
    value.normal = .num number ↔ value = .num number := by
  cases value <;> simp [Json.normal]

theorem normal_eq_str_iff {value : Json} {text : String} :
    value.normal = .str text ↔ value = .str text := by
  cases value <;> simp [Json.normal]

theorem normal_eq_bool_iff {value : Json} {truth : Bool} :
    value.normal = .bool truth ↔ value = .bool truth := by
  cases value <;> simp [Json.normal]

theorem normal_eq_null_iff {value : Json} : value.normal = .null ↔ value = .null := by
  cases value <;> simp [Json.normal]

theorem given_normal (value : Json) (key : String) :
    given (asRecord value.normal) key = (given (asRecord value) key).map Json.normal := by
  cases value with
  | obj fields =>
      change given (Json.normalFields fields) key = (given fields key).map Json.normal
      rw [given, given, Json.lookup_normalFields]
      cases fields.lookup key with
      | none => rfl
      | some found =>
          by_cases isNull : found = .null
          · rw [isNull]
            rfl
          · have notNull : found.normal ≠ .null := mt normal_eq_null_iff.mp isNull
            rw [Option.map_some, Option.filter_some, Option.filter_some,
              if_pos (bne_iff_ne.mpr notNull), if_pos (bne_iff_ne.mpr isNull), Option.map_some]
  | _ => rfl

theorem map_or {first second : Option Json} :
    (first.map Json.normal).or (second.map Json.normal) = (first.or second).map Json.normal := by
  cases first <;> rfl

theorem styleFirst_stored (object : ObjectRow) (key : String) :
    object.stored.styleFirst key = (object.styleFirst key).map Json.normal := by
  rw [ObjectRow.styleFirst, ObjectRow.styleFirst, ← map_or, ← given_normal, ← given_normal]
  rfl

theorem propertiesFirst_stored (object : ObjectRow) (key : String) :
    object.stored.propertiesFirst key = (object.propertiesFirst key).map Json.normal := by
  rw [ObjectRow.propertiesFirst, ObjectRow.propertiesFirst, ← map_or, ← given_normal,
    ← given_normal]
  rfl

theorem stackPlace_stored (object : ObjectRow) :
    object.stored.stackPlace = object.stackPlace.map Json.normal := by
  rw [ObjectRow.stackPlace, ObjectRow.stackPlace, ← map_or, ← map_or, ← given_normal,
    ← given_normal, ← given_normal]
  rfl

theorem asset_stored (object : ObjectRow) :
    object.stored.asset = object.asset.map Json.normal := by
  rw [ObjectRow.asset, ObjectRow.asset, ← map_or, ← given_normal, ← given_normal]
  rfl

theorem shownText_stored (object : ObjectRow) :
    object.stored.shownText = object.shownText.map Json.normal := by
  rw [ObjectRow.shownText, ObjectRow.shownText, ← map_or, ← given_normal, Option.map_map]
  rfl

/-- A text is told by the stored form when it is told. -/
theorem map_normal_eq_texts_iff {value : Option Json} {text : Option String} :
    value.map Json.normal = text.map Json.str ↔ value = text.map Json.str := by
  cases value with
  | none => rfl
  | some value => cases text <;> simp [normal_eq_str_iff]

theorem denotes_normal_iff {value : Option Json} {integer : Int} :
    Denotes ((value.map Json.normal).getD (.num 0)) integer ↔
      Denotes (value.getD (.num 0)) integer := by
  cases value with
  | none => rfl
  | some value =>
      simp only [Option.map_some, Option.getD_some, Denotes, normal_eq_num_iff,
        normal_eq_str_iff]

theorem map_normal_eq_num_iff {value : Option Json} {number : Number} :
    value.map Json.normal = some (.num number) ↔ value = some (.num number) := by
  cases value <;> simp [normal_eq_num_iff]

theorem map_normal_eq_bool_iff {value : Option Json} {truth : Bool} :
    value.map Json.normal = some (.bool truth) ↔ value = some (.bool truth) := by
  cases value <;> simp [normal_eq_bool_iff]

variable {validateUuid : String → Bool} {object other : ObjectRow}
  {element : CanvasSnapshotElement}

/-- An element is read from the stored form as it is read. -/
theorem reads_stored_iff :
    Reads validateUuid object.stored element ↔ Reads validateUuid object element := by
  constructor <;> intro reads
  all_goals
    exact
      { id := reads.id
        type := reads.type
        locked := reads.locked
        x := reads.x
        y := reads.y
        xRange := reads.xRange
        yRange := reads.yRange
        width := reads.width
        height := reads.height
        widthRange := reads.widthRange
        heightRange := reads.heightRange
        rotation := by
          simpa only [styleFirst_stored, Option.map_eq_none_iff, map_normal_eq_num_iff]
            using reads.rotation
        rotationRange := reads.rotationRange
        zIndex := by simpa only [stackPlace_stored, denotes_normal_iff] using reads.zIndex
        zIndexRange := reads.zIndexRange
        text := by simpa only [shownText_stored, map_normal_eq_texts_iff] using reads.text
        fill := by simpa only [styleFirst_stored, map_normal_eq_texts_iff] using reads.fill
        stroke := by simpa only [styleFirst_stored, map_normal_eq_texts_iff] using reads.stroke
        assetRef := by simpa only [asset_stored, map_normal_eq_texts_iff] using reads.assetRef
        visible := by
          simpa only [propertiesFirst_stored, Option.map_eq_none_iff, map_normal_eq_bool_iff]
            using reads.visible }

/-- **The order of keys does not matter** to the element that is made of an object. -/
theorem serializeObject_stored_iff (wellFormed : object.WellFormed) :
    serializeObject validateUuid object.stored = .ok element ↔
      serializeObject validateUuid object = .ok element := by
  have properties : Clean object.stored.properties ↔ Clean object.properties :=
    clean_normal_iff wellFormed.properties
  have style : Clean object.stored.style ↔ Clean object.style := clean_normal_iff wellFormed.style
  rw [serializeObject_eq_ok_iff, serializeObject_eq_ok_iff, reads_stored_iff, assertSafe_eq_ok_iff,
    assertSafe_eq_ok_iff, properties, style]
  rfl

/-! ## The order of objects -/

/-- A comparison that orders the items of a list sorts it. -/
theorem pairwise_mergeSort_of_all {α : Type} {le : α → α → Bool} {among : α → Prop}
    (trans : ∀ first second third, among first → among second → among third →
      le first second = true → le second third = true → le first third = true)
    (total : ∀ first second, among first → among second →
      le first second = true ∨ le second first = true)
    {items : List α} (all : ∀ item ∈ items, among item) :
    (items.mergeSort le).Pairwise fun first second => le first second = true := by
  lift items to List { item // among item } using all
  rw [← List.map_mergeSort (r := fun first second => le first.val second.val)
    fun _ _ _ _ => rfl]
  rw [List.pairwise_map]
  apply List.pairwise_mergeSort
  · intro first second third
    exact trans first second third first.property second.property third.property
  · intro first second
    rw [Bool.or_eq_true_iff]
    exact total first second first.property second.property

variable {host : SnapshotHost} {elements others : List CanvasSnapshotElement}

theorem pairwise_elements (ordered : OrdersUuids host.localeCompare)
    (areUuids : ∀ element ∈ elements, IsUuid element.id.text) :
    (elements.mergeSort host.le).Pairwise fun left right => host.le left right = true := by
  apply pairwise_mergeSort_of_all ?_ ?_ areUuids
  · intro first second third isFirst isSecond isThird le le'
    exact decide_eq_true (ordered.trans _ _ _ isFirst isSecond isThird (of_decide_eq_true le)
      (of_decide_eq_true le'))
  · intro first second isFirst isSecond
    exact (ordered.total _ _ isFirst isSecond).imp decide_eq_true decide_eq_true

theorem id_of_text {first second : Uuid} (same : first.text = second.text) : first = second := by
  rw [← uuid_text first, same, uuid_text]

/-- **Elements are sorted into one order**, whatever order they come in. -/
theorem sorted_of_perm (ordered : OrdersUuids host.localeCompare)
    (areUuids : ∀ element ∈ elements, IsUuid element.id.text)
    (distinct : (elements.map CanvasSnapshotElement.id).Nodup) (permuted : elements.Perm others) :
    elements.mergeSort host.le = others.mergeSort host.le := by
  have otherUuids : ∀ element ∈ others, IsUuid element.id.text :=
    fun element mem => areUuids element (permuted.mem_iff.mpr mem)
  have between := (List.mergeSort_perm elements host.le).trans
    (permuted.trans (List.mergeSort_perm others host.le).symm)
  refine List.Perm.eq_of_pairwise ?_ (pairwise_elements ordered areUuids)
    (pairwise_elements ordered otherUuids) between
  intro first second firstMem secondMem le le'
  have firstIn := (List.mergeSort_perm elements host.le).mem_iff.mp firstMem
  have secondIn := permuted.mem_iff.mpr
    ((List.mergeSort_perm others host.le).mem_iff.mp secondMem)
  have sameText := ordered.antisymm _ _ (areUuids _ firstIn) (areUuids _ secondIn)
    (of_decide_eq_true le) (of_decide_eq_true le')
  exact List.inj_on_of_nodup_map distinct firstIn secondIn (id_of_text sameText)

/-- The element is the one of the object. -/
def MadeOf (validateUuid : String → Bool) (object : ObjectRow) (element : CanvasSnapshotElement) :
    Prop :=
  serializeObject validateUuid object = .ok element

variable {objects otherObjects : List ObjectRow}

theorem madeOf_stored_iff (wellFormed : ∀ object ∈ objects, object.WellFormed) :
    List.Forall₂ (MadeOf validateUuid) (objects.map ObjectRow.stored) elements ↔
      List.Forall₂ (MadeOf validateUuid) objects elements := by
  induction objects generalizing elements with
  | nil => rfl
  | cons object rest ih =>
      obtain ⟨isWell, restWell⟩ := List.forall_mem_cons.mp wellFormed
      have same (element : CanvasSnapshotElement) :
          MadeOf validateUuid object.stored element ↔ MadeOf validateUuid object element :=
        serializeObject_stored_iff isWell
      cases elements with
      | nil => exact ⟨fun all => (by cases all), fun all => (by cases all)⟩
      | cons element elements =>
          rw [List.map_cons, List.forall₂_cons, List.forall₂_cons, same, ih restWell]

/-- The elements of permuted objects are permuted. -/
theorem exists_elements_of_perm (wellFormed : ∀ object ∈ objects, object.WellFormed)
    (otherWell : ∀ object ∈ otherObjects, object.WellFormed)
    (permuted : (objects.map ObjectRow.stored).Perm (otherObjects.map ObjectRow.stored))
    (made : objects.mapM (serializeObject validateUuid) = .ok elements) :
    ∃ others, otherObjects.mapM (serializeObject validateUuid) = .ok others ∧
      elements.Perm others := by
  have pairs : List.Forall₂ (MadeOf validateUuid) (objects.map ObjectRow.stored) elements :=
    (madeOf_stored_iff wellFormed).mpr (mapM_eq_ok_iff.mp made)
  obtain ⟨others, otherPairs, permutedElements⟩ := List.perm_comp_forall₂ permuted.symm pairs
  have otherMade : List.Forall₂ (MadeOf validateUuid) otherObjects others :=
    (madeOf_stored_iff otherWell).mp otherPairs
  exact ⟨others, mapM_eq_ok_iff.mpr otherMade, permutedElements.symm⟩

theorem ids_of_made (made : objects.mapM (serializeObject validateUuid) = .ok elements) :
    elements.map CanvasSnapshotElement.id = objects.map ObjectRow.id := by
  have pairs := mapM_eq_ok_iff.mp made
  clear made
  induction pairs with
  | nil => rfl
  | cons isMade _ ih =>
      rw [List.map_cons, List.map_cons, ih, (serializeObject_eq_ok_iff.mp isMade).2.id]

variable {canvas : CanvasRow} {expectedRevision : Option Number} {snapshot : Snapshot}

theorem elementUuids (wellFormed : ∀ object ∈ objects, object.WellFormed)
    (made : objects.mapM (serializeObject validateUuid) = .ok elements) :
    ∀ element ∈ elements, IsUuid element.id.text := by
  intro element mem
  have idMem : element.id ∈ objects.map ObjectRow.id := by
    rw [← ids_of_made made]
    exact List.mem_map_of_mem mem
  obtain ⟨object, objectMem, same⟩ := List.mem_map.mp idMem
  rw [← same]
  exact (wellFormed object objectMem).isUuid

/-- A snapshot of permuted objects is the same. -/
theorem snapshot_of_perm (ordered : OrdersUuids host.localeCompare)
    (wellFormed : ∀ object ∈ objects, object.WellFormed)
    (otherWell : ∀ object ∈ otherObjects, object.WellFormed)
    (distinct : (objects.map ObjectRow.id).Nodup)
    (permuted : (objects.map ObjectRow.stored).Perm (otherObjects.map ObjectRow.stored))
    (made : serializeSnapshot host (some canvas) objects expectedRevision = .ok snapshot) :
    serializeSnapshot host (some canvas) otherObjects expectedRevision = .ok snapshot := by
  obtain ⟨few, revision, safe, elements, elementsMade, rfl⟩ := serializeSnapshot_eq_ok_iff.mp made
  obtain ⟨others, othersMade, permutedElements⟩ :=
    exists_elements_of_perm wellFormed otherWell permuted elementsMade
  have otherFew : otherObjects.length ≤ 1000 := by
    have lengths := permuted.length_eq
    rw [List.length_map, List.length_map] at lengths
    exact lengths ▸ few
  have distinctIds : (elements.map CanvasSnapshotElement.id).Nodup := by
    rw [ids_of_made elementsMade]
    exact distinct
  have sorted := sorted_of_perm ordered (elementUuids wellFormed elementsMade) distinctIds
    permutedElements
  refine serializeSnapshot_eq_ok_iff.mpr ⟨otherFew, revision, safe, others, othersMade, ?_⟩
  rw [SnapshotHost.document, SnapshotHost.document, sorted]

/-! ## The document is read back -/

theorem distinct_textOrNull (text : Option String) : (textOrNull text).Distinct := by
  cases text <;> trivial

theorem distinct_element (element : CanvasSnapshotElement) : element.json.Distinct := by
  have keys : ["id", "type", "bounds", "rotation", "z_index", "visible", "locked", "text", "fill",
      "stroke", "asset_ref"].Nodup := by decide
  have bounds : ["x", "y", "width", "height"].Nodup := by decide
  exact ⟨keys, trivial, trivial, ⟨bounds, trivial, trivial, trivial, trivial, trivial⟩, trivial,
    trivial, trivial, trivial, distinct_textOrNull _, distinct_textOrNull _,
    distinct_textOrNull _, distinct_textOrNull _, trivial⟩

theorem distinctItems_map {α : Type} {json : α → Json} (distinct : ∀ item, (json item).Distinct)
    (items : List α) : Json.DistinctItems (items.map json) := by
  induction items with
  | nil => trivial
  | cons item rest ih => exact ⟨distinct item, ih⟩

theorem distinct_document (document : CanvasSnapshotDocument) : document.json.Distinct := by
  have keys : ["schema_version", "canvas", "elements", "relationships", "groups",
      "metadata"].Nodup := by decide
  have canvas : ["id", "revision", "width", "height", "background"].Nodup := by decide
  exact ⟨keys, trivial, ⟨canvas, trivial, trivial, trivial, trivial, trivial, trivial⟩,
    distinctItems_map distinct_element document.elements, trivial, trivial,
    ⟨List.nodup_nil, trivial⟩, trivial⟩

theorem textOrNull_injective {first second : Option String}
    (same : (textOrNull first).normal = (textOrNull second).normal) : first = second := by
  cases first <;> cases second <;> simp_all [textOrNull, Json.normal]

/-- The values of one key in objects that are the same. -/
theorem value_of_same {fields others : Json.Fields} (same : Json.Same (.obj fields) (.obj others))
    (key : String) : (fields.lookup key).map Json.normal = (others.lookup key).map Json.normal :=
  Json.same_obj_iff.mp same key

theorem bounds_injective {first second : CanvasSnapshotBounds}
    (same : Json.Same
      (.obj [("x", .num first.x), ("y", .num first.y), ("width", .num first.width),
        ("height", .num first.height)])
      (.obj [("x", .num second.x), ("y", .num second.y), ("width", .num second.width),
        ("height", .num second.height)])) : first = second := by
  have x : some (Json.num first.x) = some (.num second.x) := value_of_same same "x"
  have y : some (Json.num first.y) = some (.num second.y) := value_of_same same "y"
  have width : some (Json.num first.width) = some (.num second.width) := value_of_same same "width"
  have height : some (Json.num first.height) = some (.num second.height) :=
    value_of_same same "height"
  cases first
  cases second
  cases x
  cases y
  cases width
  cases height
  rfl

/-- Elements that are the same as values are equal. -/
theorem element_injective {first second : CanvasSnapshotElement}
    (same : first.json.Same second.json) : first = second := by
  have id : some (Json.str first.id.text) = some (.str second.id.text) := value_of_same same "id"
  have type : some (Json.str first.type) = some (.str second.type) := value_of_same same "type"
  have bounds : first.bounds = second.bounds :=
    bounds_injective (Option.some.inj (value_of_same same "bounds"))
  have rotation : some (Json.num first.rotation) = some (.num second.rotation) :=
    value_of_same same "rotation"
  have zIndex : some (Json.num first.zIndex) = some (.num second.zIndex) :=
    value_of_same same "z_index"
  have visible : some (Json.bool first.visible) = some (.bool second.visible) :=
    value_of_same same "visible"
  have locked : some (Json.bool first.locked) = some (.bool second.locked) :=
    value_of_same same "locked"
  have text : first.text = second.text :=
    textOrNull_injective (Option.some.inj (value_of_same same "text"))
  have fill : first.fill = second.fill :=
    textOrNull_injective (Option.some.inj (value_of_same same "fill"))
  have stroke : first.stroke = second.stroke :=
    textOrNull_injective (Option.some.inj (value_of_same same "stroke"))
  have assetRef : first.assetRef = second.assetRef :=
    textOrNull_injective (Option.some.inj (value_of_same same "asset_ref"))
  rw [Option.some_inj, Json.str.injEq] at id type
  rw [Option.some_inj, Json.num.injEq] at rotation zIndex
  rw [Option.some_inj, Json.bool.injEq] at visible locked
  have sameId : first.id = second.id := id_of_text id
  have sameIndex : first.zIndex = second.zIndex := Int.cast_inj.mp zIndex
  cases first
  cases second
  simp_all

/-- Documents that are the same as values are equal. -/
theorem document_injective {first second : CanvasSnapshotDocument}
    (same : first.json.Same second.json) : first = second := by
  have canvas : first.canvas.json.Same second.canvas.json :=
    Option.some.inj (value_of_same same "canvas")
  have elements : Json.Same (.arr (first.elements.map CanvasSnapshotElement.json))
      (.arr (second.elements.map CanvasSnapshotElement.json)) :=
    Option.some.inj (value_of_same same "elements")
  have id : some (Json.str first.canvas.id.text) = some (.str second.canvas.id.text) :=
    value_of_same canvas "id"
  have revision : some (Json.num first.canvas.revision) = some (.num second.canvas.revision) :=
    value_of_same canvas "revision"
  have width : some (Json.num first.canvas.width) = some (.num second.canvas.width) :=
    value_of_same canvas "width"
  have height : some (Json.num first.canvas.height) = some (.num second.canvas.height) :=
    value_of_same canvas "height"
  have background : some (Json.str first.canvas.background) =
      some (.str second.canvas.background) := value_of_same canvas "background"
  rw [Json.same_arr_iff, List.map_map, List.map_map] at elements
  have sameElements : first.elements = second.elements :=
    List.map_injective_iff.mpr (fun _ _ same => element_injective same) elements
  rw [Option.some_inj, Json.str.injEq] at id background
  rw [Option.some_inj, Json.num.injEq, Int.cast_inj] at revision width height
  have sameId := id_of_text id
  have sameCanvas : first.canvas = second.canvas := by
    generalize first.canvas = left at *
    generalize second.canvas = right at *
    cases left
    cases right
    simp_all
  cases first
  cases second
  simp_all

/-! ### Numbers -/

theorem mem_numbers_of_given {fields : Json} {key : String} {number : Number}
    (told : given (asRecord fields) key = some (.num number)) : number ∈ fields.numbers := by
  obtain ⟨found, _⟩ := Option.filter_eq_some_iff.mp told
  cases fields with
  | obj fields =>
      obtain ⟨front, back, split, _⟩ := List.lookup_eq_some_iff.mp found
      rw [Json.numbers, Json.numbersFields_eq]
      change fields = _ at split
      rw [split, List.flatMap_append, List.flatMap_cons]
      exact List.mem_append_right _ (List.mem_append_left _ (List.mem_singleton.mpr rfl))
  | _ => cases found

theorem mem_columnNumbers {value : Double} {number : Number} (is : value = .finite number) :
    number ∈ columnNumbers (some value) := by
  rw [is]
  exact List.mem_singleton.mpr rfl

/-- The measures of an object are among its numbers. -/
theorem mem_numbers_of_column {column : Option Double} {number : Number}
    (among : column ∈ [some object.positionX, some object.positionY, object.width, object.height])
    (isNumber : number ∈ columnNumbers column) : number ∈ object.numbers :=
  List.mem_append_right _ (List.mem_flatMap.mpr ⟨column, among, isNumber⟩)

theorem isDouble_of_column (column : Option Double) {number : Number}
    (wellFormed : object.WellFormed)
    (among : column ∈ [some object.positionX, some object.positionY, object.width, object.height])
    (read : column.getD (.finite 0) = .finite number) : IsDouble number := by
  cases column with
  | none =>
      cases read
      exact isDouble_zero
  | some value =>
      rw [Option.getD_some] at read
      exact wellFormed.numbers _ (mem_numbers_of_column among (mem_columnNumbers read))

/-- The numbers of an element are doubles. -/
theorem isDouble_element (wellFormed : object.WellFormed)
    (reads : Reads validateUuid object element) :
    ∀ number ∈ element.json.numbers, IsDouble number := by
  have numbers : element.json.numbers = [element.bounds.x, element.bounds.y, element.bounds.width,
      element.bounds.height, element.rotation, (element.zIndex : Number)] := by
    have noText : ∀ text : Option String, (textOrNull text).numbers = [] := by
      intro text
      cases text <;> rfl
    simp [CanvasSnapshotElement.json, Json.numbers, Json.numbersFields, noText]
  have zIndex : element.zIndex.natAbs < 2 ^ 53 :=
    Nat.lt_of_le_of_lt (safe_of_small reads.zIndexRange) (by decide)
  rw [numbers]
  refine List.forall_mem_cons.mpr ⟨?_, List.forall_mem_cons.mpr ⟨?_, List.forall_mem_cons.mpr
    ⟨?_, List.forall_mem_cons.mpr ⟨?_, List.forall_mem_cons.mpr ⟨?_, List.forall_mem_singleton.mpr
      (isDouble_int zIndex)⟩⟩⟩⟩⟩
  · exact isDouble_of_column (some object.positionX) wellFormed (by simp) reads.x
  · exact isDouble_of_column (some object.positionY) wellFormed (by simp) reads.y
  · exact isDouble_of_column _ wellFormed (by simp) reads.width
  · exact isDouble_of_column _ wellFormed (by simp) reads.height
  · rcases reads.rotation with ⟨_, isZero⟩ | told
    · rw [isZero]
      exact isDouble_zero
    · rcases Option.or_eq_some_iff.mp told with inStyle | ⟨_, inProperties⟩
      · exact wellFormed.numbers _ (List.mem_append_left _
          (List.mem_append_right _ (mem_numbers_of_given inStyle)))
      · exact wellFormed.numbers _ (List.mem_append_left _
          (List.mem_append_left _ (mem_numbers_of_given inProperties)))

theorem numbersItems_map {α : Type} {json : α → Json} {isNumber : Number → Prop} {items : List α}
    (each : ∀ item ∈ items, ∀ number ∈ (json item).numbers, isNumber number) :
    ∀ number ∈ Json.numbersItems (items.map json), isNumber number := by
  induction items with
  | nil => exact fun number mem => (by cases mem)
  | cons item rest ih =>
      obtain ⟨first, others⟩ := List.forall_mem_cons.mp each
      exact List.forall_mem_append.mpr ⟨first, ih others⟩

/-- The numbers of a document are doubles. -/
theorem isDouble_document (wellFormed : ∀ object ∈ objects, object.WellFormed)
    (made : serializeSnapshot host (some canvas) objects expectedRevision = .ok snapshot) :
    ∀ number ∈ snapshot.document.json.numbers, IsDouble number := by
  obtain ⟨_, revision, safe, elements, elementsMade, rfl⟩ := serializeSnapshot_eq_ok_iff.mp made
  have pairs := mapM_eq_ok_iff.mp elementsMade
  have inElements : ∀ element ∈ elements.mergeSort host.le, ∀ number ∈ element.json.numbers,
      IsDouble number := by
    intro element mem
    have isMade := (List.mergeSort_perm elements host.le).mem_iff.mp mem
    obtain ⟨object, objectMem, madeOf⟩ := exists_of_mem_results pairs isMade
    exact isDouble_element (wellFormed object objectMem) (serializeObject_eq_ok_iff.mp madeOf).2
  have numbers : (host.document canvas elements).json.numbers =
      (canvas.revision : Number) :: (canvas.width : Number) :: (canvas.height : Number) ::
        Json.numbersItems ((elements.mergeSort host.le).map CanvasSnapshotElement.json) := by
    simp [SnapshotHost.document, CanvasSnapshotDocument.json, CanvasSnapshotCanvas.json,
      Json.numbers, Json.numbersFields, Json.numbersItems]
  have nonneg := revision.nonneg
  have small := revision.safe
  have width := safe.width
  have height := safe.height
  rw [SnapshotHost.snapshot, numbers]
  exact List.forall_mem_cons.mpr ⟨isDouble_int (by omega), List.forall_mem_cons.mpr
    ⟨isDouble_int (by omega), List.forall_mem_cons.mpr ⟨isDouble_int (by omega),
      numbersItems_map inElements⟩⟩⟩

/-! ### Bytes -/

variable {readNumber : String → Option Number} {otherCanvas : CanvasRow}
  {otherRevision : Option Number} {otherSnapshot : Snapshot}

/-- The bytes of a snapshot are read as its canonical document. -/
theorem parse_bytes (reads : ReadsNumbers host.numberText readNumber IsDouble)
    (wellFormed : ∀ object ∈ objects, object.WellFormed)
    (made : serializeSnapshot host (some canvas) objects expectedRevision = .ok snapshot) :
    parseValue readNumber (Utf8.textOf snapshot.jsonBytes) =
      some (canonicalize snapshot.document.json) := by
  have doubles := isDouble_document wellFormed made
  obtain ⟨_, _, _, elements, _, rfl⟩ := serializeSnapshot_eq_ok_iff.mp made
  rw [SnapshotHost.snapshot, SnapshotHost.bytes, Utf8.textOf_bytesOf]
  refine parseValue_chars reads (distinct_canonicalize _ (distinct_document _)) ?_
  intro number mem
  rw [canonicalize_eq_arrange] at mem
  exact doubles number ((Json.mem_numbers_arrange _ number).mp mem)

theorem bytes_eq_iff (reads : ReadsNumbers host.numberText readNumber IsDouble)
    (wellFormed : ∀ object ∈ objects, object.WellFormed)
    (made : serializeSnapshot host (some canvas) objects expectedRevision = .ok snapshot)
    (otherWell : ∀ object ∈ otherObjects, object.WellFormed)
    (otherMade : serializeSnapshot host (some otherCanvas) otherObjects otherRevision =
      .ok otherSnapshot) :
    snapshot.jsonBytes = otherSnapshot.jsonBytes ↔ snapshot.document = otherSnapshot.document := by
  constructor
  · intro sameBytes
    have parsed := parse_bytes reads wellFormed made
    rw [sameBytes, parse_bytes reads otherWell otherMade] at parsed
    have canonical := (canonicalize_eq_iff (distinct_document _) (distinct_document _)).mp
      (Option.some.inj parsed)
    exact (document_injective canonical).symm
  · intro sameDocument
    obtain ⟨_, _, _, elements, _, rfl⟩ := serializeSnapshot_eq_ok_iff.mp made
    obtain ⟨_, _, _, others, _, rfl⟩ := serializeSnapshot_eq_ok_iff.mp otherMade
    exact congrArg (fun document => host.bytes document.json) sameDocument

theorem toOption_eq_of_imp {ε α : Type} {first second : Except ε α}
    (left : ∀ value, first = .ok value → second = .ok value)
    (right : ∀ value, second = .ok value → first = .ok value) :
    first.toOption = second.toOption := by
  cases first with
  | ok value => rw [left value rfl]
  | error error =>
      cases second with
      | ok value => cases right value rfl
      | error _ => rfl

/-- **The bytes of snapshots are canonical and faithful.**  The order of the objects and of the
keys of their properties does not matter; the bytes are read as the document, which has one
element for each object, and writing what is read gives the same bytes; two snapshots have the
same bytes just when their documents are equal. -/
theorem snapshot_bytes_canonical (reads : ReadsNumbers host.numberText readNumber IsDouble)
    (ordered : OrdersUuids host.localeCompare) :
    (∀ (canvas? : Option CanvasRow) (objects others : List ObjectRow)
        (expectedRevision : Option Number), (∀ object ∈ objects, object.WellFormed) →
      (∀ object ∈ others, object.WellFormed) → (objects.map ObjectRow.id).Nodup →
      (objects.map ObjectRow.stored).Perm (others.map ObjectRow.stored) →
        (serializeSnapshot host canvas? objects expectedRevision).toOption =
          (serializeSnapshot host canvas? others expectedRevision).toOption) ∧
    (∀ (canvas : CanvasRow) (objects : List ObjectRow) (expectedRevision : Option Number)
        (snapshot : Snapshot), (∀ object ∈ objects, object.WellFormed) →
      serializeSnapshot host (some canvas) objects expectedRevision = .ok snapshot →
        ∃ parsed, parseValue readNumber (Utf8.textOf snapshot.jsonBytes) = some parsed ∧
          parsed.Same snapshot.document.json ∧ host.bytes parsed = snapshot.jsonBytes ∧
          (snapshot.document.elements.map CanvasSnapshotElement.id).Perm
            (objects.map ObjectRow.id) ∧
          snapshot.checksumSha256 = host.sha256 snapshot.jsonBytes ∧
          snapshot.sizeBytes = snapshot.jsonBytes.length) ∧
    (∀ (canvas otherCanvas : CanvasRow) (objects others : List ObjectRow)
        (expectedRevision otherRevision : Option Number) (snapshot otherSnapshot : Snapshot),
      (∀ object ∈ objects, object.WellFormed) → (∀ object ∈ others, object.WellFormed) →
      serializeSnapshot host (some canvas) objects expectedRevision = .ok snapshot →
      serializeSnapshot host (some otherCanvas) others otherRevision = .ok otherSnapshot →
        (snapshot.jsonBytes = otherSnapshot.jsonBytes ↔
          snapshot.document = otherSnapshot.document)) := by
  refine ⟨?_, ?_, ?_⟩
  · intro canvas? objects others expectedRevision wellFormed otherWell distinct permuted
    have otherDistinct : (others.map ObjectRow.id).Nodup := by
      have ids := permuted.map ObjectRow.id
      rw [List.map_map, List.map_map] at ids
      exact ids.nodup_iff.mp distinct
    cases canvas? with
    | none => rfl
    | some canvas =>
        exact toOption_eq_of_imp
          (fun _ made => snapshot_of_perm ordered wellFormed otherWell distinct permuted made)
          (fun _ made =>
            snapshot_of_perm ordered otherWell wellFormed otherDistinct permuted.symm made)
  · intro canvas objects expectedRevision snapshot wellFormed made
    have parsed := parse_bytes reads wellFormed made
    obtain ⟨_, _, _, elements, elementsMade, rfl⟩ := serializeSnapshot_eq_ok_iff.mp made
    have distinct := distinct_document (host.document canvas elements)
    refine ⟨_, parsed, normal_canonicalize _ distinct, ?_, ?_, rfl, rfl⟩
    · change host.bytes (canonicalize (host.document canvas elements).json) =
        host.bytes (host.document canvas elements).json
      rw [SnapshotHost.bytes, SnapshotHost.bytes, canonicalize_canonicalize distinct]
    · rw [← ids_of_made elementsMade]
      exact (List.mergeSort_perm elements host.le).map _
  · intro canvas otherCanvas objects others expectedRevision otherRevision snapshot otherSnapshot
      wellFormed otherWell made otherMade
    exact bytes_eq_iff reads wellFormed made otherWell otherMade

/-! ## The document that the preview service stores -/

theorem elements_of_documents {rows : List CanvasObject} {documents : List Json}
    (made : rows.mapM (serializeElement validateUuid) = .ok documents) :
    ∃ elements, (rows.map objectRow).mapM (serializeObject validateUuid) = .ok elements ∧
      documents = elements.map CanvasSnapshotElement.json := by
  have pairs := mapM_eq_ok_iff.mp made
  simp only [mapM_eq_ok_iff]
  clear made
  induction pairs with
  | nil => exact ⟨[], List.Forall₂.nil, rfl⟩
  | cons isMade _ ih =>
      obtain ⟨elements, others, rfl⟩ := ih
      rw [serializeElement_eq] at isMade
      obtain ⟨element, elementMade, rfl⟩ := except_map_eq_ok_iff.mp isMade
      exact ⟨element :: elements, List.Forall₂.cons elementMade others, rfl⟩

/-- **The text that is stored** for a canvas whose objects come in order is that of its
snapshot. -/
theorem snapshotDocument_bytes {row : Canvas} {rows : List CanvasObject} {text : String}
    (few : rows.length ≤ 1000) (safe : row.revision ≤ maxSafeInteger)
    (inOrder : rows.Pairwise fun left right =>
      host.localeCompare left.id.text right.id.text ≤ 0)
    (made : snapshotDocument host.numberText host.validateUuid row rows = .ok text) :
    ∃ snapshot, serializeSnapshot host (some (canvasRow row)) (rows.map objectRow) none =
      .ok snapshot ∧ snapshot.jsonBytes = Utf8.bytesOf text.toList := by
  have width : (row.width : Number) = ((canvasRow row).width : Number) :=
    (Int.cast_natCast row.width).symm
  have height : (row.height : Number) = ((canvasRow row).height : Number) :=
    (Int.cast_natCast row.height).symm
  have revision : (row.revision : Number) = ((canvasRow row).revision : Number) :=
    (Int.cast_natCast row.revision).symm
  simp only [snapshotDocument, width, height, revision, except_bind_eq_ok_iff, exists_done,
    readMeasure_eq_ok_iff, readBackground_eq_ok_iff, pure_eq_ok, Except.ok.injEq] at made
  obtain ⟨_, ⟨rfl, _⟩, _, ⟨rfl, _⟩, widthRange, heightRange, color, ⟨colorEq, isColor⟩, documents,
    documentsMade, rfl⟩ := made
  obtain ⟨elements, elementsMade, rfl⟩ := elements_of_documents documentsMade
  rw [validateMeasure_eq_ok_iff] at widthRange heightRange
  cases color with
  | none => cases colorEq
  | some background =>
      rw [Option.map_some, Option.some_inj, Json.str.injEq] at colorEq
      subst colorEq
      have sorted : elements.mergeSort host.le = elements := by
        apply List.mergeSort_of_pairwise
        have ids := ids_of_made elementsMade
        rw [List.map_map] at ids
        have texts : (elements.map CanvasSnapshotElement.id).Pairwise fun left right =>
            host.localeCompare left.text right.text ≤ 0 := by
          rw [ids, List.pairwise_map]
          exact inOrder
        exact (List.pairwise_map.mp texts).imp decide_eq_true
      refine ⟨_, serializeSnapshot_eq_ok_iff.mpr ⟨by rw [List.length_map]; exact few,
        ⟨Int.natCast_nonneg _, ?_, fun expected mem => (by cases mem)⟩,
        ⟨widthRange, heightRange, isColor _ rfl⟩, elements, elementsMade, rfl⟩, ?_⟩
      · exact Int.ofNat_le.mpr safe
      · rw [SnapshotHost.snapshot, SnapshotHost.document, sorted]
        change Utf8.bytesOf _ = Utf8.bytesOf _
        rw [Json.stringify, String.toList_ofList]
        rfl

theorem exampleOrdersUuids : OrdersUuids exampleSnapshotHost.localeCompare := by
  have le_iff : ∀ first second : String,
      exampleSnapshotHost.localeCompare first second ≤ 0 ↔ first ≤ second := by
    intro first second
    change (if first < second then (-1 : Int) else if first = second then 0 else 1) ≤ 0 ↔ _
    split_ifs with lt same
    · exact iff_of_true (by decide) (le_of_lt lt)
    · exact iff_of_true le_rfl (le_of_eq same)
    · refine iff_of_false (by decide) fun le => ?_
      rcases lt_or_eq_of_le le with isLt | isEq
      · exact lt isLt
      · exact same isEq
  constructor
  · intro first second _ _ le le'
    exact le_antisymm ((le_iff _ _).mp le) ((le_iff _ _).mp le')
  · intro first second third _ _ _ le le'
    exact (le_iff _ _).mpr (le_trans ((le_iff _ _).mp le) ((le_iff _ _).mp le'))
  · intro first second _ _
    rw [le_iff, le_iff]
    exact le_total first second

/-- An object with the given properties. -/
def exampleObjectRow (id : UuidText.Value) (properties : Json.Fields) : ObjectRow where
  id := uuid id.text
  type := "text"
  label := some "Hisn"
  properties := .obj properties
  positionX := .finite 120
  positionY := .finite 80
  width := some (.finite 380)
  height := none
  style := .null
  isLocked := false

/-- An identifier that repeats a digit. -/
def exampleUuid (digit : Fin 16) : UuidText.Value :=
  ⟨[List.replicate 8 digit, List.replicate 4 digit, List.replicate 4 digit,
    List.replicate 4 digit, List.replicate 12 digit], rfl⟩

theorem exampleObjectRow_wellFormed {digit : Fin 16} {properties : Json.Fields}
    (isLower : lowerCase (exampleUuid digit).text = (exampleUuid digit).text)
    (distinct : (Json.obj properties).Distinct)
    (numbers : ∀ number ∈ (Json.obj properties).numbers, IsDouble number) :
    (exampleObjectRow (exampleUuid digit) properties).WellFormed where
  isUuid := ⟨exampleUuid digit, isLower.symm⟩
  properties := distinct
  style := trivial
  numbers := by
    have measures : ∀ number ∈ [(120 : Number), 80, 380], IsDouble number := by
      intro number mem
      have integer : ∃ value : ℤ, value.natAbs < 2 ^ 53 ∧ number = value := by
        simp only [List.mem_cons, List.not_mem_nil, or_false] at mem
        rcases mem with rfl | rfl | rfl
        · exact ⟨120, by decide, by norm_num⟩
        · exact ⟨80, by decide, by norm_num⟩
        · exact ⟨380, by decide, by norm_num⟩
      obtain ⟨value, small, rfl⟩ := integer
      exact isDouble_int small
    exact List.forall_mem_append.mpr ⟨List.forall_mem_append.mpr
      ⟨numbers, fun number mem => (by cases mem)⟩, measures⟩

/-- Two objects in either order, the keys of one of them too, have one snapshot. -/
theorem snapshot_bytes_canonical_example :
    (serializeSnapshot exampleSnapshotHost (some (exampleCanvasRow 148))
        [exampleObjectRow (exampleUuid 1) [("fill", .str "#111111"), ("text", .str "a")],
          exampleObjectRow (exampleUuid 2) []] (some 148)).toOption =
      (serializeSnapshot exampleSnapshotHost (some (exampleCanvasRow 148))
        [exampleObjectRow (exampleUuid 2) [],
          exampleObjectRow (exampleUuid 1) [("text", .str "a"), ("fill", .str "#111111")]]
        (some 148)).toOption := by
  have noNumbers : ∀ number ∈ ([] : List Number), IsDouble number :=
    fun number mem => (by cases mem)
  have first : (exampleObjectRow (exampleUuid 1)
      [("fill", .str "#111111"), ("text", .str "a")]).WellFormed :=
    exampleObjectRow_wellFormed (by decide +kernel)
      ⟨by decide, trivial, trivial, trivial⟩ noNumbers
  have turned : (exampleObjectRow (exampleUuid 1)
      [("text", .str "a"), ("fill", .str "#111111")]).WellFormed :=
    exampleObjectRow_wellFormed (by decide +kernel)
      ⟨by decide, trivial, trivial, trivial⟩ noNumbers
  have second : (exampleObjectRow (exampleUuid 2) []).WellFormed :=
    exampleObjectRow_wellFormed (by decide +kernel) ⟨List.nodup_nil, trivial⟩ noNumbers
  refine (snapshot_bytes_canonical NumberText.reads exampleOrdersUuids).1 _ _ _ _
    (List.forall_mem_cons.mpr ⟨first, List.forall_mem_singleton.mpr second⟩)
    (List.forall_mem_cons.mpr ⟨second, List.forall_mem_singleton.mpr turned⟩)
    (by decide +kernel) ?_
  have stored : ([exampleObjectRow (exampleUuid 1) [("fill", .str "#111111"), ("text", .str "a")],
      exampleObjectRow (exampleUuid 2) []].map ObjectRow.stored) =
      [(exampleObjectRow (exampleUuid 1) [("text", .str "a"), ("fill", .str "#111111")]).stored,
        (exampleObjectRow (exampleUuid 2) []).stored] := by decide +kernel
  rw [stored]
  exact List.Perm.swap ..

end Manbaa.Jobs
