import Manbaa.Applications.SchemaRules

/-!
# Schemas in their stored form

A binary JSON column gives back a schema with its keys in another order and without those that are
shadowed.  The forest of components is the same but for that form, nothing is inside of it that was
not, and so the rules hold of it.
-/

namespace Manbaa.Applications

open Manbaa.Lib

variable {value : Json} {fields : Json.Fields} {key : String}

/-! ## Properties -/

theorem isObject_normal (value : Json) : isObject value.normal = isObject value := by
  cases value <;> rfl

theorem property_normal (value : Json) (key : String) :
    property value.normal key = (property value key).map Json.normal := by
  cases value with
  | obj fields => exact Json.lookup_normalFields fields key
  | null | bool _ | num _ | str _ | arr _ => rfl

theorem textOf_normal (value : Json) (key : String) :
    textOf value.normal key = textOf value key := by
  rw [textOf, property_normal, textOf]
  cases property value key with
  | none => rfl
  | some found => cases found <;> rfl

/-- A stored object has no other keys. -/
theorem mem_keys_of_normalFields (mem : key ∈ (Json.normalFields fields).map Prod.fst) :
    key ∈ fields.map Prod.fst := by
  induction fields with
  | nil => exact mem
  | cons field rest ih =>
      obtain ⟨field', fieldMem, rfl⟩ := List.mem_map.mp mem
      rcases Json.mem_insertField fieldMem with rfl | later
      · exact List.mem_cons_self ..
      · exact List.mem_cons_of_mem _ (ih (List.mem_map_of_mem later))

theorem mem_keys_of_normal (mem : key ∈ keys value.normal) : key ∈ keys value := by
  cases value with
  | obj fields => exact mem_keys_of_normalFields mem
  | arr items =>
      rw [Json.normal, keys, Json.normalItems_eq_map, List.length_map] at mem
      exact mem
  | null | bool _ | num _ | str _ => exact mem

/-! ## What is inside of a value -/

theorem append_subset_of_subset {first second left right : List Content} (firstIn : first ⊆ left)
    (secondIn : second ⊆ right) : first ++ second ⊆ left ++ right :=
  List.append_subset.mpr ⟨List.subset_append_of_subset_left _ firstIn,
    List.subset_append_of_subset_right _ secondIn⟩

theorem contentFields_insertField_subset (key : String) (value : Json) (fields : Json.Fields) :
    contentFields (Json.insertField key value fields) ⊆
      .key key :: (contentValue value ++ contentFields fields) := by
  induction fields with
  | nil => exact List.Subset.refl _
  | cons field rest ih =>
      obtain ⟨other, found⟩ := field
      rw [Json.insertField]
      split
      · rw [contentFields, contentFields]
        refine List.cons_subset_cons _ (append_subset_of_subset (List.Subset.refl _) ?_)
        exact List.Subset.trans (List.subset_append_right _ _) (List.subset_cons_self _ _)
      · split
        · exact List.Subset.refl _
        · intro inside mem
          rw [contentFields, List.mem_cons, List.mem_append] at mem
          rw [List.mem_cons, List.mem_append, contentFields, List.mem_cons, List.mem_append]
          rcases mem with head | under | later
          · exact Or.inr (Or.inr (Or.inl head))
          · exact Or.inr (Or.inr (Or.inr (Or.inl under)))
          · rcases List.mem_cons.mp (ih later) with own | rest
            · exact Or.inl own
            · rcases List.mem_append.mp rest with ownValue | rest
              · exact Or.inr (Or.inl ownValue)
              · exact Or.inr (Or.inr (Or.inr (Or.inr rest)))

mutual

/-- Nothing is inside of a stored value that was not inside of it. -/
theorem contentValue_normal_subset : ∀ value : Json,
    contentValue value.normal ⊆ contentValue value
  | .null | .bool _ | .num _ | .str _ => List.Subset.refl _
  | .arr items => contentItems_normalItems_subset items
  | .obj fields => contentFields_normalFields_subset fields

theorem contentFields_normalFields_subset : ∀ fields : Json.Fields,
    contentFields (Json.normalFields fields) ⊆ contentFields fields
  | [] => List.Subset.refl _
  | (key, value) :: rest => by
      rw [Json.normalFields, contentFields]
      refine List.Subset.trans (contentFields_insertField_subset _ _ _)
        (List.cons_subset_cons _ ?_)
      exact append_subset_of_subset (contentValue_normal_subset value)
        (contentFields_normalFields_subset rest)

theorem contentEntries_normalItems_subset : ∀ items : List Json,
    contentEntries (Json.normalItems items) ⊆ contentEntries items
  | [] => List.Subset.refl _
  | item :: rest => by
      rw [Json.normalItems, contentEntries, contentEntries]
      exact append_subset_of_subset (contentValue_normal_subset item)
        (contentEntries_normalItems_subset rest)

theorem contentItems_normalItems_subset : ∀ items : List Json,
    contentItems (Json.normalItems items) ⊆ contentItems items
  | [] => List.Subset.refl _
  | .obj fields :: rest =>
      append_subset_of_subset (contentFields_normalFields_subset fields)
        (contentItems_normalItems_subset rest)
  | .arr items :: rest =>
      append_subset_of_subset (contentEntries_normalItems_subset items)
        (contentItems_normalItems_subset rest)
  | .str _ :: rest => List.cons_subset_cons _ (contentItems_normalItems_subset rest)
  | .null :: rest => contentItems_normalItems_subset rest
  | .bool _ :: rest => contentItems_normalItems_subset rest
  | .num _ :: rest => contentItems_normalItems_subset rest

end

theorem content_normal_subset (value : Json) : content value.normal ⊆ content value := by
  cases value with
  | obj fields => exact contentFields_normalFields_subset fields
  | arr items => exact contentEntries_normalItems_subset items
  | null | bool _ | num _ | str _ => exact List.Subset.refl _

/-! ## The forest -/

/-- A component in its stored form, at its depth. -/
def storedEntry (entry : Nat × Json) : Nat × Json := (entry.1, entry.2.normal)

/-- The components under what stands as the children of a component. -/
def underChildren (depth : Nat) : Json → List (Nat × Json)
  | .arr items => itemComponents depth items
  | _ => []

theorem childComponents_cons (depth : Nat) (key : String) (value : Json) (rest : Json.Fields) :
    childComponents depth ((key, value) :: rest) =
      if key = "children" then underChildren depth value else childComponents depth rest := by
  cases value <;> rfl

/-- The children are found wherever their property stands. -/
theorem childComponents_insertField (depth : Nat) (key : String) (value : Json)
    (fields : Json.Fields) :
    childComponents depth (Json.insertField key value fields) =
      if key = "children" then underChildren depth value else childComponents depth fields := by
  induction fields with
  | nil => exact childComponents_cons ..
  | cons field rest ih =>
      obtain ⟨other, found⟩ := field
      rw [Json.insertField]
      split
      · rename_i same
        subst other
        rw [childComponents_cons, childComponents_cons]
        split <;> rfl
      · rename_i differs
        split
        · exact childComponents_cons ..
        · rw [childComponents_cons, childComponents_cons, ih]
          split
          · rename_i others
            rw [if_neg fun own => differs (own.trans others.symm)]
          · rfl

mutual

/-- The components of a stored tree are those of the tree, in their stored form. -/
theorem components_normal (depth : Nat) : ∀ value : Json,
    components depth value.normal = (components depth value).map storedEntry
  | .null | .bool _ | .num _ | .str _ | .arr _ => rfl
  | .obj fields => congrArg _ (childComponents_normalFields depth fields)

theorem childComponents_normalFields (depth : Nat) : ∀ fields : Json.Fields,
    childComponents depth (Json.normalFields fields) =
      (childComponents depth fields).map storedEntry
  | [] => rfl
  | (key, value) :: rest => by
      rw [Json.normalFields, childComponents_insertField, childComponents_cons,
        childComponents_normalFields depth rest, underChildren_normal depth value]
      split <;> rfl

theorem underChildren_normal (depth : Nat) : ∀ value : Json,
    underChildren depth value.normal = (underChildren depth value).map storedEntry
  | .null | .bool _ | .num _ | .str _ | .obj _ => rfl
  | .arr items => itemComponents_normalItems depth items

theorem itemComponents_normalItems (depth : Nat) : ∀ items : List Json,
    itemComponents depth (Json.normalItems items) = (itemComponents depth items).map storedEntry
  | [] => rfl
  | item :: rest => by
      rw [Json.normalItems, itemComponents, itemComponents, components_normal (depth + 1) item,
        itemComponents_normalItems depth rest, List.map_append]

end

theorem pageComponents_normal (page : Json) :
    pageComponents page.normal = (pageComponents page).map storedEntry := by
  rw [pageComponents, property_normal, pageComponents]
  cases property page "root" with
  | none => rfl
  | some root => exact components_normal 0 root

/-- The forest of stored pages is that of the pages, in its stored form. -/
theorem forest_normal (pages : List Json) :
    forest (pages.map Json.normal) = (forest pages).map storedEntry := by
  rw [forest, forest, List.flatMap_map, List.map_flatMap]
  exact List.flatMap_congr fun page _ => pageComponents_normal page

/-! ## The rules -/

theorem NodeOk.normal (ok : NodeOk value) : NodeOk value.normal where
  keys := fun key mem => ok.keys key (mem_keys_of_normal mem)
  id := by
    rw [textOf_normal]
    exact ok.id
  type := by
    rw [textOf_normal]
    exact ok.type
  props := by
    intro props propsMem
    rw [property_normal] at propsMem
    obtain ⟨given, givenMem, rfl⟩ := Option.map_eq_some_iff.mp propsMem
    obtain ⟨object, clean⟩ := ok.props given givenMem
    rw [isObject_normal]
    exact ⟨object, fun inside mem => clean inside (content_normal_subset given mem)⟩
  styles := by
    intro styles stylesMem
    rw [property_normal] at stylesMem
    obtain ⟨given, givenMem, rfl⟩ := Option.map_eq_some_iff.mp stylesMem
    rw [isObject_normal]
    exact ok.styles given givenMem

theorem ComponentOk.normal {depth : Nat} (ok : ComponentOk depth value) :
    ComponentOk depth value.normal where
  toNodeOk := ok.toNodeOk.normal
  object := by
    obtain ⟨fields, rfl⟩ := ok.object
    exact ⟨_, rfl⟩
  shallow := ok.shallow
  children := by
    intro children childrenMem
    rw [property_normal] at childrenMem
    obtain ⟨given, givenMem, rfl⟩ := Option.map_eq_some_iff.mp childrenMem
    obtain ⟨items, rfl⟩ := ok.children given givenMem
    exact ⟨_, rfl⟩

theorem PageOk.normal (ok : PageOk value) : PageOk value.normal where
  object := by
    obtain ⟨fields, rfl⟩ := ok.object
    exact ⟨_, rfl⟩
  keys := fun key mem => ok.keys key (mem_keys_of_normal mem)
  id := by
    rw [textOf_normal]
    exact ok.id
  name := by
    rw [textOf_normal]
    exact ok.name
  route := by
    rw [textOf_normal]
    exact ok.route
  root := by
    rw [property_normal]
    obtain ⟨root, rootEq⟩ := ok.root
    exact ⟨root.normal, by rw [rootEq, Option.map_some]⟩

/-- The texts under a key of stored values are those of the values. -/
theorem filterMap_textOf_normal (values : List Json) (key : String) :
    (values.map Json.normal).filterMap (textOf · key) = values.filterMap (textOf · key) := by
  rw [List.filterMap_map]
  exact List.filterMap_congr fun value _ => textOf_normal value key

theorem PagesOk.normal {pages : List Json} (ok : PagesOk pages) :
    PagesOk (pages.map Json.normal) where
  few := by
    rw [List.length_map]
    exact ok.few
  page := by
    intro page mem
    obtain ⟨given, givenMem, rfl⟩ := List.mem_map.mp mem
    exact (ok.page given givenMem).normal
  pageIds := by
    rw [filterMap_textOf_normal]
    exact ok.pageIds
  routes := by
    rw [filterMap_textOf_normal]
    exact ok.routes
  component := by
    intro entry mem
    rw [forest_normal] at mem
    obtain ⟨given, givenMem, rfl⟩ := List.mem_map.mp mem
    exact (ok.component given givenMem).normal
  nodeIds := by
    rw [forest_normal, List.filterMap_map]
    have same : ((forest pages).filterMap fun entry => textOf (storedEntry entry).2 "id") =
        (forest pages).filterMap fun entry => textOf entry.2 "id" :=
      List.filterMap_congr fun entry _ => textOf_normal entry.2 "id"
    exact same ▸ ok.nodeIds
  nodes := by
    rw [forest_normal, List.length_map]
    exact ok.nodes

/-- **A schema that meets the rules meets them in its stored form.** -/
theorem WellFormed.normal {schema : Json} (ok : WellFormed schema) : WellFormed schema.normal where
  keys := fun key mem => ok.keys key (mem_keys_of_normal mem)
  version := by
    rw [textOf_normal]
    exact ok.version
  metadata := by
    obtain ⟨metadata, metadataEq, id, name⟩ := ok.metadata
    refine ⟨Json.normalFields metadata, by rw [property_normal, metadataEq]; rfl, ?_, ?_⟩
    · obtain ⟨id, idEq⟩ := id
      exact ⟨id, (textOf_normal (.obj metadata) "applicationId").trans idEq⟩
    · obtain ⟨name, nameEq⟩ := name
      exact ⟨name, (textOf_normal (.obj metadata) "name").trans nameEq⟩
  pages := by
    intro value mem
    rw [property_normal] at mem
    obtain ⟨given, givenMem, rfl⟩ := Option.map_eq_some_iff.mp mem
    obtain ⟨pages, rfl, pagesOk⟩ := ok.pages given givenMem
    refine ⟨pages.map Json.normal, congrArg Json.arr (Json.normalItems_eq_map pages), ?_⟩
    exact pagesOk.normal

/-- A schema that the validator accepts is accepted in its stored form. -/
theorem valid_normal (accepted : (validateApplicationSchema (.obj fields)).valid = true) :
    (validateApplicationSchema (Json.obj fields).normal).valid = true :=
  (valid_iff_wellFormed _).mpr ((valid_iff_wellFormed _).mp accepted).normal

end Manbaa.Applications
