import Manbaa.AiGateway.Readers
import Manbaa.Lib.Double
import Manbaa.Lib.JsonOrder
import Manbaa.Lib.NumberText
import Manbaa.Workflows.Export
import Mathlib.Data.List.Find

/-!
# The difference of versions

Elements are told apart by their ids, and compared by their text forms.  Of stored elements the
text forms agree just when the elements do, so a difference turns one version into the other.
-/

namespace Manbaa.Workflows

open Manbaa.Lib Manbaa.Lib.Effect Manbaa.Lib.JsonText Manbaa.AiGateway

/-! ## The difference -/

/-- What `computeDiff` returns. -/
structure WorkflowDiff where
  added : List Json
  removed : List Json
  modified : List Json
  deriving DecidableEq

/-- `extractElements`. -/
def extractElements : Json → List Json
  | .obj fields =>
      match fields.lookup "elements" with
      | some (.arr elements) => elements
      | _ => []
  | _ => []

/-- The id of an element that is not `null`, if it has one. -/
def idOf : Json → Option Json
  | .obj fields => fields.lookup "id"
  | _ => none

/-- An id is the one of another element.  An object or an array is none but itself, and the
elements of two versions share none. -/
def sameId (first second : Option Json) : Bool :=
  match first with
  | some (.arr _) | some (.obj _) => false
  | _ => first == second

/-- The text form of a stored element. -/
def elementText (numberText : ℚ → String) (element : Json) : String :=
  element.asRead.stringify numberText

/-- `computeDiff`, once it has the versions. -/
def diffElements (numberText : ℚ → String) (elements1 elements2 : List Json) :
    Except Exception WorkflowDiff := do
  let ids1 ← elements1.mapM fun element => property element "id"
  let ids2 ← elements2.mapM fun element => property element "id"
  pure
    { added := elements2.filter fun element => !ids1.any (sameId · (idOf element))
      removed := elements1.filter fun element => !ids2.any (sameId · (idOf element))
      modified := elements2.filter fun element =>
        ids1.any (sameId · (idOf element)) &&
          let old := elements1.find? fun other => sameId (idOf other) (idOf element)
          old.map (elementText numberText) != some (elementText numberText element) }

/-- The row of a version. -/
def version? (db : AiDb) (workflowId : Uuid) (versionNumber : Int) : Option WorkflowVersion :=
  db.versions.find? fun version =>
    version.workflowId == workflowId && version.versionNumber == versionNumber

/-- `computeDiff`. -/
def computeDiff (numberText : ℚ → String) (workflowId : Uuid) (v1 v2 : Int) (orgId : Uuid) :
    Statements WorkflowDiff := do
  let found ← reading fun db =>
    (db.workflow? workflowId).filter fun workflow => workflow.orgId == orgId
  let _ ← orThrow found (.notFound ("Workflow " ++ workflowId.text ++ " not found"))
  let found1 ← reading fun db => version? db workflowId v1
  let found2 ← reading fun db => version? db workflowId v2
  let version1 ← orThrow found1 (.notFound "One or both versions not found")
  let version2 ← orThrow found2 (.notFound "One or both versions not found")
  asking fun _ => diffElements numberText (extractElements version1.elementsJson)
    (extractElements version2.elementsJson)

/-! ## Elements by their ids -/

/-- An id is a text, a number, a truth value or nothing. -/
def IsPlainId (id : Option Json) : Prop :=
  ∀ value ∈ id, (∀ items, value ≠ .arr items) ∧ ∀ fields, value ≠ .obj fields

/-- Elements that their ids tell apart. -/
structure Identified (elements : List Json) : Prop where
  present : ∀ element ∈ elements, element ≠ .null
  plain : ∀ element ∈ elements, IsPlainId (idOf element)
  keyed : Table.Keyed idOf elements

/-- The elements after a difference: the removed ones are left out, the modified ones replaced and
the added ones inserted. -/
def patch (elements : List Json) (diff : WorkflowDiff) : List Json :=
  let kept := elements.filter fun element => decide (idOf element ∉ diff.removed.map idOf)
  kept.map (fun element => (Table.get? idOf diff.modified (idOf element)).getD element) ++ diff.added

variable {numberText : ℚ → String} {readNumber : String → Option ℚ}
  {elements elements1 elements2 : List Json} {element other : Json} {id : Option Json}

theorem sameId_iff {first second : Option Json} (plain : IsPlainId first) :
    sameId first second = true ↔ first = second := by
  cases first with
  | none => exact beq_iff_eq
  | some value =>
      cases value with
      | arr items => exact absurd rfl ((plain _ rfl).1 items)
      | obj fields => exact absurd rfl ((plain _ rfl).2 fields)
      | _ => exact beq_iff_eq

theorem ids_of_present (present : ∀ element ∈ elements, element ≠ .null) :
    elements.mapM (fun element => property element "id") = .ok (elements.map idOf) := by
  induction elements with
  | nil => rfl
  | cons element rest ih =>
      obtain ⟨first, others⟩ := List.forall_mem_cons.mp present
      have read : property element "id" = .ok (idOf element) := by
        cases element with
        | null => exact absurd rfl first
        | _ => rfl
      rw [List.mapM_cons, read, ok_bind, ih others]
      rfl

theorem any_sameId_iff (identified : Identified elements) :
    (elements.map idOf).any (sameId · id) = true ↔ id ∈ elements.map idOf := by
  rw [List.any_eq_true]
  constructor
  · rintro ⟨found, mem, same⟩
    obtain ⟨element, elementMem, rfl⟩ := List.mem_map.mp mem
    rwa [← (sameId_iff (identified.plain element elementMem)).mp same]
  · intro mem
    obtain ⟨element, elementMem, rfl⟩ := List.mem_map.mp mem
    exact ⟨_, mem, (sameId_iff (identified.plain element elementMem)).mpr rfl⟩

/-! ## Text forms -/

/-- An element as the database stores it. -/
structure Stored (element : Json) : Prop where
  normal : element.normal = element
  numbers : ∀ number ∈ element.numbers, IsDouble number

/-- The elements of a stored value are stored ones. -/
theorem Stored.extractElements {value : Json} (stored : Stored value) :
    ∀ element ∈ extractElements value, Stored element := by
  intro element mem
  cases value with
  | obj fields =>
      cases found : fields.lookup "elements" with
      | none =>
          rw [Workflows.extractElements, found] at mem
          cases mem
      | some held =>
          rw [Workflows.extractElements, found] at mem
          cases held with
          | arr elements =>
              refine ⟨?_, fun number numberMem => stored.numbers number ?_⟩
              · have fieldsNormal : Json.normalFields fields = fields := Json.obj.inj stored.normal
                have itemsNormal := Json.lookup_normalFields fields "elements"
                rw [fieldsNormal, found, Option.map_some] at itemsNormal
                have normal := Json.arr.inj (Option.some.inj itemsNormal)
                rw [Json.normalItems_eq_map] at normal
                have same : elements.map Json.normal = elements.map id :=
                  normal.symm.trans (List.map_id elements).symm
                exact List.map_inj_left.mp same element mem
              · obtain ⟨before, after, split, _⟩ := List.lookup_eq_some_iff.mp found
                rw [Json.numbers, Json.numbersFields_eq, List.mem_flatMap]
                refine ⟨("elements", .arr elements), ?_, ?_⟩
                · rw [split]
                  exact List.mem_append_right _ (List.mem_cons_self ..)
                · rw [Json.numbers, Json.numbersItems_eq, List.mem_flatMap]
                  exact ⟨element, mem, numberMem⟩
          | _ => cases mem
  | _ => cases mem

/-- **The text forms of stored elements** agree just when the elements do. -/
theorem elementText_eq_iff (reads : ReadsNumbers numberText readNumber IsDouble)
    (stored : Stored element) (otherStored : Stored other) :
    elementText numberText element = elementText numberText other ↔ element = other := by
  constructor
  · intro same
    have parsed (element : Json) (stored : Stored element) :
        parseValue readNumber (element.asRead.chars numberText) = some element.asRead := by
      have distinct := Json.distinct_normal element
      rw [stored.normal] at distinct
      refine parseValue_chars reads (Json.distinct_arrange element distinct) ?_
      intro number mem
      exact stored.numbers number ((Json.mem_numbers_arrange element number).mp mem)
    have chars : element.asRead.chars numberText = other.asRead.chars numberText :=
      String.ofList_injective same
    have read := parsed element stored
    rw [chars, parsed other otherStored] at read
    exact (Json.asRead_injective otherStored.normal stored.normal (Option.some.inj read)).symm
  · rintro rfl
    rfl

/-! ## What the difference of identified elements is -/

/-- The difference of two lists of elements, by ids and equality. -/
def difference (elements1 elements2 : List Json) : WorkflowDiff where
  added := elements2.filter fun element => decide (idOf element ∉ elements1.map idOf)
  removed := elements1.filter fun element => decide (idOf element ∉ elements2.map idOf)
  modified := elements2.filter fun element =>
    decide (∃ old ∈ elements1, idOf old = idOf element ∧ old ≠ element)

theorem filter_not_any (identified : Identified elements1) :
    elements2.filter (fun element => !(elements1.map idOf).any (sameId · (idOf element))) =
      elements2.filter fun element => decide (idOf element ∉ elements1.map idOf) := by
  apply List.filter_congr
  intro element _
  rw [Bool.eq_iff_iff, Bool.not_eq_true', decide_eq_true_iff, ← any_sameId_iff identified,
    Bool.not_eq_true]

/-- The element under the id of another one. -/
theorem find?_sameId (identified : Identified elements) :
    elements.find? (fun found => sameId (idOf found) id) = Table.get? idOf elements id := by
  rw [Table.get?]
  apply List.find?_congr
  intro found mem
  rw [Bool.eq_iff_iff, sameId_iff (identified.plain found mem), decide_eq_true_iff]

theorem modified_iff (reads : ReadsNumbers numberText readNumber IsDouble)
    (identified : Identified elements) (stored : ∀ element ∈ elements, Stored element)
    (elementStored : Stored element) :
    ((elements.map idOf).any (sameId · (idOf element)) &&
      (elements.find? fun found => sameId (idOf found) (idOf element)).map
        (elementText numberText) != some (elementText numberText element)) = true ↔
      ∃ old ∈ elements, idOf old = idOf element ∧ old ≠ element := by
  rw [Bool.and_eq_true_iff, any_sameId_iff identified, find?_sameId identified, bne_iff_ne]
  constructor
  · rintro ⟨mem, differs⟩
    obtain ⟨old, oldMem, same⟩ := List.mem_map.mp mem
    refine ⟨old, oldMem, same, ?_⟩
    rintro rfl
    rw [identified.keyed.get?_of_mem oldMem] at differs
    exact differs rfl
  · rintro ⟨old, oldMem, same, ne⟩
    refine ⟨List.mem_map.mpr ⟨old, oldMem, same⟩, ?_⟩
    rw [← same, identified.keyed.get?_of_mem oldMem, Option.map_some]
    intro texts
    exact ne ((elementText_eq_iff reads (stored old oldMem) elementStored).mp
      (Option.some.inj texts))

/-- **The computed difference** is the one by ids and equality. -/
theorem diffElements_eq (reads : ReadsNumbers numberText readNumber IsDouble)
    (identified1 : Identified elements1) (identified2 : Identified elements2)
    (stored1 : ∀ element ∈ elements1, Stored element)
    (stored2 : ∀ element ∈ elements2, Stored element) :
    diffElements numberText elements1 elements2 = .ok (difference elements1 elements2) := by
  rw [diffElements, ids_of_present identified1.present, ids_of_present identified2.present, ok_bind,
    ok_bind, filter_not_any identified1, filter_not_any identified2]
  have modified : elements2.filter (fun element =>
      (elements1.map idOf).any (sameId · (idOf element)) &&
        (elements1.find? fun found => sameId (idOf found) (idOf element)).map
          (elementText numberText) != some (elementText numberText element)) =
      (difference elements1 elements2).modified := by
    apply List.filter_congr
    intro element mem
    rw [Bool.eq_iff_iff, modified_iff reads identified1 stored1 (stored2 element mem),
      decide_eq_true_iff]
  exact congrArg (fun modified => Except.ok (WorkflowDiff.mk _ _ modified)) modified

theorem mem_added_iff :
    element ∈ (difference elements1 elements2).added ↔
      element ∈ elements2 ∧ idOf element ∉ elements1.map idOf := by
  rw [difference, List.mem_filter, decide_eq_true_iff]

theorem mem_removed_iff :
    element ∈ (difference elements1 elements2).removed ↔
      element ∈ elements1 ∧ idOf element ∉ elements2.map idOf := by
  rw [difference, List.mem_filter, decide_eq_true_iff]

theorem mem_modified_iff :
    element ∈ (difference elements1 elements2).modified ↔
      element ∈ elements2 ∧ ∃ old ∈ elements1, idOf old = idOf element ∧ old ≠ element := by
  rw [difference, List.mem_filter, decide_eq_true_iff]

/-- The difference of elements with themselves is empty. -/
theorem difference_self (keyed : Table.Keyed idOf elements) :
    difference elements elements = ⟨[], [], []⟩ := by
  have none_left : elements.filter (fun element => decide (idOf element ∉ elements.map idOf)) = [] :=
    List.filter_eq_nil_iff.mpr fun element mem isNew =>
      of_decide_eq_true isNew (List.mem_map_of_mem mem)
  have none_modified : elements.filter (fun element =>
      decide (∃ old ∈ elements, idOf old = idOf element ∧ old ≠ element)) = [] := by
    refine List.filter_eq_nil_iff.mpr fun element mem isModified => ?_
    obtain ⟨old, oldMem, same, ne⟩ := of_decide_eq_true isModified
    exact ne (keyed.eq oldMem mem same)
  rw [difference, none_left, none_modified]

/-- Elements are modified in either direction under the same ids. -/
theorem ids_modified_perm (keyed1 : Table.Keyed idOf elements1)
    (keyed2 : Table.Keyed idOf elements2) :
    ((difference elements2 elements1).modified.map idOf).Perm
      ((difference elements1 elements2).modified.map idOf) := by
  have nodup : ∀ {first second : List Json}, Table.Keyed idOf second →
      ((difference first second).modified.map idOf).Nodup := fun keyed =>
    List.Nodup.sublist (List.filter_sublist.map idOf) keyed
  refine (List.perm_ext_iff_of_nodup (nodup keyed1) (nodup keyed2)).mpr fun id => ?_
  have turned : ∀ {first second : List Json},
      id ∈ (difference first second).modified.map idOf →
        id ∈ (difference second first).modified.map idOf := by
    intro first second mem
    obtain ⟨element, elementMem, rfl⟩ := List.mem_map.mp mem
    obtain ⟨inSecond, old, inFirst, same, ne⟩ := mem_modified_iff.mp elementMem
    exact List.mem_map.mpr ⟨old,
      mem_modified_iff.mpr ⟨inFirst, element, inSecond, same.symm, ne.symm⟩, same⟩
  exact ⟨turned, turned⟩

/-! ## Patching -/

/-- What a kept element becomes. -/
def renewed (diff : WorkflowDiff) (element : Json) : Json :=
  (Table.get? idOf diff.modified (idOf element)).getD element

/-- A kept element becomes the one of the other version. -/
theorem renewed_eq (keyed1 : Table.Keyed idOf elements1) (keyed2 : Table.Keyed idOf elements2)
    (mem : element ∈ elements1) (otherMem : other ∈ elements2) (same : idOf element = idOf other) :
    renewed (difference elements1 elements2) element = other := by
  have keyed : Table.Keyed idOf (difference elements1 elements2).modified :=
    List.Nodup.sublist (List.filter_sublist.map idOf) keyed2
  rw [renewed]
  by_cases equal : element = other
  · have unmodified : Table.get? idOf (difference elements1 elements2).modified (idOf element) =
        none := by
      refine Table.get?_eq_none_iff.mpr fun changed changedMem sameId => ?_
      obtain ⟨inSecond, old, oldMem, oldSame, ne⟩ := mem_modified_iff.mp changedMem
      have isOld := keyed1.eq oldMem mem (oldSame.trans sameId)
      have isChanged := keyed2.eq inSecond otherMem (sameId.trans same)
      exact ne (isOld.trans (equal.trans isChanged.symm))
    rw [unmodified]
    exact equal
  · have isModified : other ∈ (difference elements1 elements2).modified :=
      mem_modified_iff.mpr ⟨otherMem, element, mem, same, equal⟩
    rw [same, keyed.get?_of_mem isModified]
    rfl

theorem idOf_renewed (diff : WorkflowDiff) (element : Json) :
    idOf (renewed diff element) = idOf element := by
  rw [renewed]
  cases found : Table.get? idOf diff.modified (idOf element) with
  | none => rfl
  | some other => exact Table.key_of_get? found

theorem patch_eq (elements : List Json) (diff : WorkflowDiff) :
    patch elements diff =
      (elements.filter fun element => decide (idOf element ∉ diff.removed.map idOf)).map
        (renewed diff) ++ diff.added :=
  rfl

/-- An element is kept when the other version has its id. -/
theorem kept_iff (mem : element ∈ elements1) :
    idOf element ∉ (difference elements1 elements2).removed.map idOf ↔
      idOf element ∈ elements2.map idOf := by
  constructor
  · intro kept
    by_contra gone
    exact kept (List.mem_map.mpr ⟨element, mem_removed_iff.mpr ⟨mem, gone⟩, rfl⟩)
  · intro isThere removed
    obtain ⟨other, otherMem, same⟩ := List.mem_map.mp removed
    exact (mem_removed_iff.mp otherMem).2 (same ▸ isThere)

/-- The patched elements are those of the other version. -/
theorem mem_patch_iff (keyed1 : Table.Keyed idOf elements1)
    (keyed2 : Table.Keyed idOf elements2) :
    element ∈ patch elements1 (difference elements1 elements2) ↔ element ∈ elements2 := by
  rw [patch_eq, List.mem_append, List.mem_map, mem_added_iff]
  constructor
  · rintro (⟨old, oldMem, rfl⟩ | ⟨mem, _⟩)
    · obtain ⟨inFirst, isKept⟩ := List.mem_filter.mp oldMem
      obtain ⟨other, otherMem, same⟩ :=
        List.mem_map.mp ((kept_iff inFirst).mp (of_decide_eq_true isKept))
      rw [renewed_eq keyed1 keyed2 inFirst otherMem same.symm]
      exact otherMem
    · exact mem
  · intro mem
    by_cases isOld : idOf element ∈ elements1.map idOf
    · obtain ⟨old, oldMem, same⟩ := List.mem_map.mp isOld
      have isKept := (kept_iff oldMem).mpr (List.mem_map.mpr ⟨element, mem, same.symm⟩)
      exact Or.inl ⟨old, List.mem_filter.mpr ⟨oldMem, decide_eq_true isKept⟩,
        renewed_eq keyed1 keyed2 oldMem mem same⟩
    · exact Or.inr ⟨mem, isOld⟩

theorem keyed_patch (keyed1 : Table.Keyed idOf elements1) (keyed2 : Table.Keyed idOf elements2) :
    Table.Keyed idOf (patch elements1 (difference elements1 elements2)) := by
  have keptIds : ((elements1.filter fun element =>
      decide (idOf element ∉ (difference elements1 elements2).removed.map idOf)).map
        (renewed (difference elements1 elements2))).map idOf =
      (elements1.filter fun element =>
        decide (idOf element ∉ (difference elements1 elements2).removed.map idOf)).map idOf := by
    rw [List.map_map]
    exact List.map_congr_left fun element _ => idOf_renewed _ element
  rw [Table.Keyed, patch_eq, List.map_append, keptIds]
  refine List.Nodup.append (List.Nodup.sublist (List.filter_sublist.map idOf) keyed1)
    (List.Nodup.sublist (List.filter_sublist.map idOf) keyed2) ?_
  intro id isOld isAdded
  obtain ⟨old, oldMem, rfl⟩ := List.mem_map.mp isOld
  obtain ⟨added, addedMem, same⟩ := List.mem_map.mp isAdded
  exact (mem_added_iff.mp addedMem).2
    (same ▸ List.mem_map_of_mem (List.mem_filter.mp oldMem).1)

/-- **A difference turns one version into the other**, by their ids. -/
theorem get?_patch (keyed1 : Table.Keyed idOf elements1) (keyed2 : Table.Keyed idOf elements2)
    (id : Option Json) :
    Table.get? idOf (patch elements1 (difference elements1 elements2)) id =
      Table.get? idOf elements2 id := by
  ext element
  rw [(keyed_patch keyed1 keyed2).get?_eq_some_iff, keyed2.get?_eq_some_iff,
    mem_patch_iff keyed1 keyed2]

/-! ## The computed difference -/

/-- What a difference of elements is for. -/
structure IsDifference (elements1 elements2 : List Json) (diff : WorkflowDiff) : Prop where
  added : ∀ element, element ∈ diff.added ↔
    element ∈ elements2 ∧ idOf element ∉ elements1.map idOf
  removed : ∀ element, element ∈ diff.removed ↔
    element ∈ elements1 ∧ idOf element ∉ elements2.map idOf
  modified : ∀ element, element ∈ diff.modified ↔
    element ∈ elements2 ∧ ∃ old ∈ elements1, idOf old = idOf element ∧ old ≠ element
  added_sublist : diff.added.Sublist elements2
  removed_sublist : diff.removed.Sublist elements1
  modified_sublist : diff.modified.Sublist elements2
  patched : ∀ id, Table.get? idOf (patch elements1 diff) id = Table.get? idOf elements2 id

theorem isDifference (keyed1 : Table.Keyed idOf elements1) (keyed2 : Table.Keyed idOf elements2) :
    IsDifference elements1 elements2 (difference elements1 elements2) where
  added _ := mem_added_iff
  removed _ := mem_removed_iff
  modified _ := mem_modified_iff
  added_sublist := List.filter_sublist
  removed_sublist := List.filter_sublist
  modified_sublist := List.filter_sublist
  patched := get?_patch keyed1 keyed2

variable {db : AiDb} {workflowId orgId : Uuid} {v1 v2 : Int} {workflow : Workflow}
  {version1 version2 : WorkflowVersion}

/-- A call that finds its rows returns what their elements give. -/
theorem computeDiff_eq (workflowFound : db.workflow? workflowId = some workflow)
    (owned : workflow.orgId = orgId) (found1 : version? db workflowId v1 = some version1)
    (found2 : version? db workflowId v2 = some version2) :
    computeDiff numberText workflowId v1 v2 orgId db =
      (diffElements numberText (extractElements version1.elementsJson)
        (extractElements version2.elementsJson), db) := by
  have ownFound : (db.workflow? workflowId).filter (fun workflow => workflow.orgId == orgId) =
      some workflow := by
    rw [workflowFound, Option.filter_some, if_pos (beq_iff_eq.mpr owned)]
  have readWorkflow : (reading fun db : AiDb =>
      (db.workflow? workflowId).filter fun workflow => workflow.orgId == orgId) db =
        ((.ok (some workflow) : Except Exception (Option Workflow)), db) :=
    reading_eq_ok_iff.mpr ⟨ownFound, rfl⟩
  have readVersion {number : Int} {version : WorkflowVersion}
      (found : version? db workflowId number = some version) :
      (reading fun db : AiDb => version? db workflowId number) db =
        ((.ok (some version) : Except Exception (Option WorkflowVersion)), db) :=
    reading_eq_ok_iff.mpr ⟨found, rfl⟩
  rw [computeDiff, bind_of_ok readWorkflow, bind_of_ok (orThrow_eq_ok_iff.mpr ⟨rfl, rfl⟩),
    bind_of_ok (readVersion found1), bind_of_ok (readVersion found2),
    bind_of_ok (orThrow_eq_ok_iff.mpr ⟨rfl, rfl⟩), bind_of_ok (orThrow_eq_ok_iff.mpr ⟨rfl, rfl⟩)]
  rfl

/-- **The difference of versions** tells what was added, removed and modified, it turns the one
into the other, and the one of the versions in the other order is its inverse. -/
theorem computeDiff_correct (reads : ReadsNumbers numberText readNumber IsDouble)
    (workflowFound : db.workflow? workflowId = some workflow) (owned : workflow.orgId = orgId)
    (found1 : version? db workflowId v1 = some version1)
    (found2 : version? db workflowId v2 = some version2)
    (stored1 : Stored version1.elementsJson) (stored2 : Stored version2.elementsJson)
    (identified1 : Identified (extractElements version1.elementsJson))
    (identified2 : Identified (extractElements version2.elementsJson)) :
    ∃ diff swapped,
      computeDiff numberText workflowId v1 v2 orgId db = (.ok diff, db) ∧
      computeDiff numberText workflowId v2 v1 orgId db = (.ok swapped, db) ∧
      IsDifference (extractElements version1.elementsJson)
        (extractElements version2.elementsJson) diff ∧
      (v1 = v2 → diff = ⟨[], [], []⟩) ∧
      swapped.added = diff.removed ∧ swapped.removed = diff.added ∧
      (swapped.modified.map idOf).Perm (diff.modified.map idOf) := by
  refine ⟨difference (extractElements version1.elementsJson)
      (extractElements version2.elementsJson),
    difference (extractElements version2.elementsJson)
      (extractElements version1.elementsJson), ?_, ?_,
    isDifference identified1.keyed identified2.keyed, ?_, rfl, rfl,
    ids_modified_perm identified1.keyed identified2.keyed⟩
  · rw [computeDiff_eq workflowFound owned found1 found2, diffElements_eq reads identified1
      identified2 stored1.extractElements stored2.extractElements]
  · rw [computeDiff_eq workflowFound owned found2 found1, diffElements_eq reads identified2
      identified1 stored2.extractElements stored1.extractElements]
  · rintro rfl
    obtain rfl : version1 = version2 := Option.some.inj (found1.symm.trans found2)
    exact difference_self identified1.keyed

/-- Two versions: a task is renamed, a gateway left out and an event put in. -/
def exampleVersion (number : Int) (elements : List Json) : WorkflowVersion where
  id := uuid "v"
  workflowId := uuid "w"
  versionNumber := number
  elementsJson := .obj [("elements", .arr elements)]
  elsaJson := none
  confidenceScore := none
  createdBy := none

def exampleBefore : List Json :=
  [.obj [("id", .str "task"), ("name", .str "Screen")],
    .obj [("x", .num 40), ("id", .str "gateway")]]

def exampleAfter : List Json :=
  [.obj [("x", .num 40), ("id", .str "event")],
    .obj [("id", .str "task"), ("name", .str "Interview")]]

def exampleVersionsDb : AiDb :=
  { exampleCanvasDb with versions := [exampleVersion 1 exampleBefore, exampleVersion 2 exampleAfter] }

theorem stored_example {number : Int} {elements : List Json}
    (normal : (exampleVersion number elements).elementsJson.normal =
      (exampleVersion number elements).elementsJson)
    (numbers : (exampleVersion number elements).elementsJson.numbers = [40]) :
    Stored (exampleVersion number elements).elementsJson := by
  refine ⟨normal, fun value mem => ?_⟩
  obtain rfl := List.mem_singleton.mp (numbers ▸ mem)
  have small : (40 : ℤ).natAbs < 2 ^ 53 := by decide
  exact_mod_cast isDouble_int small

theorem identified_example {elements : List Json} {first second : String}
    (present : ∀ element ∈ elements, element ≠ .null)
    (ids : elements.map idOf = [some (.str first), some (.str second)]) (ne : first ≠ second) :
    Identified elements := by
  refine ⟨present, fun element mem value valueMem => ?_, ?_⟩
  · have idMem := List.mem_map_of_mem (f := idOf) mem
    rw [ids, valueMem] at idMem
    rcases List.mem_cons.mp idMem with same | mem
    · cases same
      exact ⟨fun _ same => (by cases same), fun _ same => (by cases same)⟩
    · cases List.mem_singleton.mp mem
      exact ⟨fun _ same => (by cases same), fun _ same => (by cases same)⟩
  · rw [Table.Keyed, ids]
    simp [ne]

theorem computeDiff_correct_example :
    ∃ diff swapped,
      computeDiff NumberText.text (uuid "w") 1 2 (uuid "o") exampleVersionsDb =
        (.ok diff, exampleVersionsDb) ∧
      computeDiff NumberText.text (uuid "w") 2 1 (uuid "o") exampleVersionsDb =
        (.ok swapped, exampleVersionsDb) ∧
      IsDifference exampleBefore exampleAfter diff ∧
      ((1 : Int) = 2 → diff = ⟨[], [], []⟩) ∧
      swapped.added = diff.removed ∧ swapped.removed = diff.added ∧
      (swapped.modified.map idOf).Perm (diff.modified.map idOf) :=
  have found1 : version? exampleVersionsDb (uuid "w") 1 =
      some (exampleVersion 1 exampleBefore) := rfl
  have found2 : version? exampleVersionsDb (uuid "w") 2 =
      some (exampleVersion 2 exampleAfter) := rfl
  computeDiff_correct NumberText.reads rfl rfl found1 found2
    (stored_example (by decide +kernel) (by decide +kernel))
    (stored_example (by decide +kernel) (by decide +kernel))
    (identified_example (by decide +kernel) rfl (by decide))
    (identified_example (by decide +kernel) rfl (by decide))

end Manbaa.Workflows
