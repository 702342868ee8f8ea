import Manbaa.Applications.SchemaValidator

/-!
# What the validator of application schemas accepts

The rules of a schema, said of its pages and of the forest of components under them,
and what the scan of properties finds, said of the keys and texts in a value.  Every
part of the validator decides a part of the rules, given what it has seen before.
-/

namespace Manbaa.Applications

open Manbaa.Lib

/-! ## What is inside a value -/

/-- A key or a text inside of a value: a text that is the value of an entry, or an item of
an array that is the value of an entry. -/
inductive Content where
  | key (name : String)
  | text (value : String)
  | item (value : String)
  deriving DecidableEq

mutual

/-- What is inside of the entries of an object. -/
def contentFields : Json.Fields → List Content
  | [] => []
  | (key, value) :: rest => .key key :: (contentValue value ++ contentFields rest)

/-- What is inside of the entries of an array. -/
def contentEntries : List Json → List Content
  | [] => []
  | value :: rest => contentValue value ++ contentEntries rest

/-- What is inside of the value of an entry. -/
def contentValue : Json → List Content
  | .str text => [.text text]
  | .arr items => contentItems items
  | .obj fields => contentFields fields
  | _ => []

/-- What is inside of the items of an array that is the value of an entry. -/
def contentItems : List Json → List Content
  | [] => []
  | .obj fields :: rest => contentFields fields ++ contentItems rest
  | .arr items :: rest => contentEntries items ++ contentItems rest
  | .str text :: rest => .item text :: contentItems rest
  | _ :: rest => contentItems rest

end

/-- What is inside of properties. -/
def content : Json → List Content
  | .obj fields => contentFields fields
  | .arr items => contentEntries items
  | _ => []

/-- The patterns that are looked for find nothing. -/
def Content.Clean : Content → Prop
  | .key name => name ∉ prohibitedKeys
  | .text value => test executablePatterns value = false ∧ test sqlPatterns value = false ∧
      test secretPatterns value = false
  | .item value => test executablePatterns value = false ∧ test sqlPatterns value = false

instance (content : Content) : Decidable content.Clean :=
  match content with
  | .key name => inferInstanceAs (Decidable (name ∉ prohibitedKeys))
  | .text value => inferInstanceAs (Decidable (test executablePatterns value = false ∧
      test sqlPatterns value = false ∧ test secretPatterns value = false))
  | .item value => inferInstanceAs (Decidable (test executablePatterns value = false ∧
      test sqlPatterns value = false))

/-! ## The rules -/

mutual

/-- The components of a tree, each with its depth. -/
def components (depth : Nat) : Json → List (Nat × Json)
  | .obj fields => (depth, .obj fields) :: childComponents depth fields
  | value => [(depth, value)]

/-- The components under the children of a component. -/
def childComponents (depth : Nat) : Json.Fields → List (Nat × Json)
  | [] => []
  | (key, .arr items) :: rest =>
      if key = "children" then itemComponents depth items else childComponents depth rest
  | (key, _) :: rest => if key = "children" then [] else childComponents depth rest

/-- The components under some children. -/
def itemComponents (depth : Nat) : List Json → List (Nat × Json)
  | [] => []
  | child :: rest => components (depth + 1) child ++ itemComponents depth rest

end

/-- The components under the root of a page. -/
def pageComponents (page : Json) : List (Nat × Json) :=
  ((property page "root").map (components 0)).getD []

/-- The components of all pages. -/
def forest (pages : List Json) : List (Nat × Json) := pages.flatMap pageComponents

/-- The rules of a component but those of its place. -/
structure NodeOk (node : Json) : Prop where
  keys : ∀ key ∈ keys node, key ∉ prohibitedKeys
  id : ∃ id, textOf node "id" = some id ∧ id ≠ ""
  type : ∃ type, textOf node "type" = some type ∧ type ≠ ""
  props : ∀ props ∈ property node "props", isObject props = true ∧ ∀ inside ∈ content props,
    inside.Clean
  styles : ∀ styles ∈ property node "styles", isObject styles = true

/-- The rules of a component at a depth. -/
structure ComponentOk (depth : Nat) (node : Json) : Prop extends NodeOk node where
  object : ∃ fields, node = .obj fields
  shallow : depth ≤ maxNestingDepth
  children : ∀ children ∈ property node "children", ∃ items, children = .arr items

/-- The rules of a page. -/
structure PageOk (page : Json) : Prop where
  object : ∃ fields, page = .obj fields
  keys : ∀ key ∈ keys page, key ∉ prohibitedKeys
  id : ∃ id, textOf page "id" = some id ∧ id ≠ ""
  name : ∃ name, textOf page "name" = some name
  route : ∃ route, textOf page "route" = some route ∧ route.startsWith "/" = true
  root : ∃ root, property page "root" = some root

/-- The rules of the pages of a schema. -/
structure PagesOk (pages : List Json) : Prop where
  few : pages.length ≤ maxPages
  page : ∀ page ∈ pages, PageOk page
  pageIds : (pages.filterMap (textOf · "id")).Nodup
  routes : (pages.filterMap (textOf · "route")).Nodup
  component : ∀ entry ∈ forest pages, ComponentOk entry.1 entry.2
  nodeIds : ((forest pages).filterMap fun entry => textOf entry.2 "id").Nodup
  nodes : (forest pages).length ≤ maxNodes

/-- The rules of a schema. -/
structure WellFormed (schema : Json) : Prop where
  keys : ∀ key ∈ keys schema, key ∉ prohibitedKeys
  version : ∃ version ∈ supportedSchemaVersions, textOf schema "schemaVersion" = some version
  metadata : ∃ metadata, property schema "metadata" = some (.obj metadata) ∧
    (∃ id, textOf (.obj metadata) "applicationId" = some id) ∧
    ∃ name, textOf (.obj metadata) "name" = some name
  pages : ∀ value ∈ property schema "pages", ∃ pages, value = .arr pages ∧ PagesOk pages

/-! ## The scan finds what is not clean -/

theorem errorIf_eq_nil_iff {wrong : Bool} {error : ValidationError} :
    errorIf wrong error = [] ↔ wrong = false := by
  cases wrong <;> simp [errorIf]

theorem keyErrors_eq_nil_iff {value : Json} {error : String → ValidationError} :
    keyErrors value error = [] ↔ ∀ key ∈ keys value, key ∉ prohibitedKeys := by
  simp [keyErrors, List.filter_eq_nil_iff]

theorem textErrors_eq_nil_iff {text path : String} :
    textErrors text path = [] ↔ (Content.text text).Clean := by
  simp [textErrors, errorIf_eq_nil_iff, Content.Clean]

theorem itemTextErrors_eq_nil_iff {text path : String} :
    itemTextErrors text path = [] ↔ (Content.item text).Clean := by
  simp [itemTextErrors, errorIf_eq_nil_iff, Content.Clean]

mutual

theorem scanFields_eq_nil_iff (path : String) (fields : Json.Fields) :
    scanFields path fields = [] ↔ ∀ inside ∈ contentFields fields, inside.Clean := by
  cases fields with
  | nil => simp [scanFields, contentFields]
  | cons field rest =>
      obtain ⟨key, value⟩ := field
      simp only [scanFields, contentFields, List.append_eq_nil_iff, List.forall_mem_cons,
        List.forall_mem_append, errorIf_eq_nil_iff, scanValue_eq_nil_iff, scanFields_eq_nil_iff,
        and_assoc]
      simp [Content.Clean]

theorem scanEntries_eq_nil_iff (path : String) (index : Nat) (items : List Json) :
    scanEntries path index items = [] ↔ ∀ inside ∈ contentEntries items, inside.Clean := by
  cases items with
  | nil => simp [scanEntries, contentEntries]
  | cons value rest =>
      rw [scanEntries, contentEntries, List.append_eq_nil_iff, List.forall_mem_append,
        scanValue_eq_nil_iff, scanEntries_eq_nil_iff]

theorem scanValue_eq_nil_iff (path : String) (value : Json) :
    scanValue path value = [] ↔ ∀ inside ∈ contentValue value, inside.Clean := by
  cases value with
  | str text =>
      rw [scanValue, contentValue, textErrors_eq_nil_iff, List.forall_mem_singleton]
  | arr items => rw [scanValue, contentValue, scanItems_eq_nil_iff]
  | obj fields => rw [scanValue, contentValue, scanFields_eq_nil_iff]
  | null | bool _ | num _ => simp [scanValue, contentValue]

theorem scanItems_eq_nil_iff (path : String) (index : Nat) (items : List Json) :
    scanItems path index items = [] ↔ ∀ inside ∈ contentItems items, inside.Clean := by
  cases items with
  | nil => simp [scanItems, contentItems]
  | cons item rest =>
      cases item with
      | str text =>
          rw [scanItems, contentItems, List.append_eq_nil_iff, List.forall_mem_cons,
            itemTextErrors_eq_nil_iff, scanItems_eq_nil_iff]
      | arr items =>
          rw [scanItems, contentItems, List.append_eq_nil_iff, List.forall_mem_append,
            scanEntries_eq_nil_iff, scanItems_eq_nil_iff]
      | obj fields =>
          rw [scanItems, contentItems, List.append_eq_nil_iff, List.forall_mem_append,
            scanFields_eq_nil_iff, scanItems_eq_nil_iff]
      | null | bool _ | num _ => exact scanItems_eq_nil_iff path (index + 1) rest

end

/-- The scan of properties finds exactly what is not clean in them. -/
theorem scanForDangerousValues_eq_nil_iff {path : String} {props : Json} :
    scanForDangerousValues path props = [] ↔ ∀ inside ∈ content props, inside.Clean := by
  cases props with
  | obj fields => exact scanFields_eq_nil_iff path fields
  | arr items => exact scanEntries_eq_nil_iff path 0 items
  | null | bool _ | num _ | str _ => simp [scanForDangerousValues, content]

/-! ## What a part of the validator decides -/

/-- Values that are apart from each other and from those that have been seen. -/
def Fresh (seen new : List String) : Prop := new.Nodup ∧ ∀ value ∈ new, value ∉ seen

theorem fresh_append_iff {seen first second : List String} :
    Fresh seen (first ++ second) ↔ Fresh seen first ∧ Fresh (seen ++ first) second := by
  simp only [Fresh, List.nodup_append, List.mem_append, not_or]
  constructor
  · rintro ⟨⟨firstNodup, secondNodup, apart⟩, unseen⟩
    exact ⟨⟨firstNodup, fun value valueMem => unseen value (Or.inl valueMem)⟩, secondNodup,
      fun value valueMem => ⟨unseen value (Or.inr valueMem),
        fun firstMem => apart value firstMem value valueMem rfl⟩⟩
  · rintro ⟨⟨firstNodup, firstUnseen⟩, secondNodup, unseen⟩
    refine ⟨⟨firstNodup, secondNodup, ?_⟩, ?_⟩
    · rintro value firstMem _ secondMem rfl
      exact (unseen value secondMem).2 firstMem
    · rintro value (firstMem | secondMem)
      · exact firstUnseen value firstMem
      · exact (unseen value secondMem).1

theorem fresh_nil (seen : List String) : Fresh seen [] :=
  ⟨List.nodup_nil, fun _ valueMem => absurd valueMem List.not_mem_nil⟩

theorem fresh_singleton_iff {seen : List String} {value : String} :
    Fresh seen [value] ↔ value ∉ seen := by
  simp [Fresh]

theorem nil_fresh_iff {new : List String} : Fresh [] new ↔ new.Nodup := by
  simp [Fresh]

namespace Tally

/-- Nothing. -/
def none : Tally := ⟨[], [], [], 0⟩

/-- What has been seen, and more. -/
def add (seen new : Tally) : Tally :=
  ⟨seen.routes ++ new.routes, seen.pageIds ++ new.pageIds, seen.nodeIds ++ new.nodeIds,
    seen.nodeCount + new.nodeCount⟩

/-- Nothing new has been seen. -/
structure Apart (seen new : Tally) : Prop where
  routes : Fresh seen.routes new.routes
  pageIds : Fresh seen.pageIds new.pageIds
  nodeIds : Fresh seen.nodeIds new.nodeIds

variable {seen first second : Tally}

theorem add_none : seen.add none = seen := by
  simp [add, none]

theorem none_add : none.add seen = seen := by
  simp [add, none]

theorem add_assoc : seen.add (first.add second) = (seen.add first).add second := by
  simp [add, Nat.add_assoc]

theorem apart_none (seen : Tally) : seen.Apart none :=
  ⟨fresh_nil _, fresh_nil _, fresh_nil _⟩

theorem apart_add_iff :
    seen.Apart (first.add second) ↔ seen.Apart first ∧ (seen.add first).Apart second := by
  constructor
  · rintro ⟨routes, pageIds, nodeIds⟩
    obtain ⟨firstRoutes, secondRoutes⟩ := fresh_append_iff.mp routes
    obtain ⟨firstPages, secondPages⟩ := fresh_append_iff.mp pageIds
    obtain ⟨firstNodes, secondNodes⟩ := fresh_append_iff.mp nodeIds
    exact ⟨⟨firstRoutes, firstPages, firstNodes⟩, secondRoutes, secondPages, secondNodes⟩
  · rintro ⟨firstApart, secondApart⟩
    exact ⟨fresh_append_iff.mpr ⟨firstApart.routes, secondApart.routes⟩,
      fresh_append_iff.mpr ⟨firstApart.pageIds, secondApart.pageIds⟩,
      fresh_append_iff.mpr ⟨firstApart.nodeIds, secondApart.nodeIds⟩⟩

end Tally

/-- A part of the validator goes through without an error exactly if none was reported
before, what it checks holds, and what it sees is apart from what has been seen. -/
def Decides (part : Progress → Progress) (new : Tally) (ok : Prop) : Prop :=
  ∀ progress, ((part progress).errors = [] ↔
      progress.errors = [] ∧ ok ∧ progress.seen.Apart new) ∧
    ((part progress).errors = [] → (part progress).seen = progress.seen.add new)

section
variable {part next : Progress → Progress} {new later : Tally} {ok good : Prop}

theorem decides_report (errors : List ValidationError) :
    Decides (fun progress => progress.report errors) Tally.none (errors = []) := by
  intro progress
  refine ⟨?_, fun _ => Tally.add_none.symm⟩
  simp [Progress.report, Tally.apart_none]

/-- A part that reports an error decides what does not hold. -/
theorem decides_wrong (error : ValidationError) (wrong : ¬ ok) :
    Decides (fun progress => progress.report [error]) new ok := by
  intro progress
  have reported : (progress.report [error]).errors ≠ [] := by
    simp [Progress.report]
  exact ⟨iff_of_false reported fun holds => wrong holds.2.1, fun none => absurd none reported⟩

theorem Decides.congr (decides : Decides part new ok) (same : ok ↔ good) :
    Decides part new good := by
  intro progress
  rw [← same]
  exact decides progress

/-- What does not hold is decided whatever is seen. -/
theorem Decides.of_not (decides : Decides part new ok) (wrong : ¬ ok) (other : ¬ good) :
    Decides part later good := by
  intro progress
  have reported : (part progress).errors ≠ [] := fun none => wrong ((decides progress).1.mp none).2.1
  exact ⟨iff_of_false reported fun holds => other holds.2.1, fun none => absurd none reported⟩

/-- Two parts, one after the other. -/
theorem Decides.andThen (first : Decides part new ok) (second : Decides next later good) :
    Decides (fun progress => next (part progress)) (new.add later) (ok ∧ good) := by
  intro progress
  obtain ⟨firstIff, firstSeen⟩ := first progress
  obtain ⟨secondIff, secondSeen⟩ := second (part progress)
  refine ⟨?_, ?_⟩
  · rw [secondIff, Tally.apart_add_iff]
    constructor
    · rintro ⟨passed, goodHolds, apart⟩
      obtain ⟨clean, okHolds, before⟩ := firstIff.mp passed
      rw [firstSeen passed] at apart
      exact ⟨clean, ⟨okHolds, goodHolds⟩, before, apart⟩
    · rintro ⟨clean, ⟨okHolds, goodHolds⟩, before, apart⟩
      have passed := firstIff.mpr ⟨clean, okHolds, before⟩
      rw [← firstSeen passed] at apart
      exact ⟨passed, goodHolds, apart⟩
  · intro passed
    have before := (secondIff.mp passed).1
    rw [secondSeen passed, firstSeen before, Tally.add_assoc]

end

/-! ## Components -/

/-- What is seen of components. -/
def nodeTally (entries : List (Nat × Json)) : Tally :=
  ⟨[], [], entries.filterMap fun entry => textOf entry.2 "id", entries.length⟩

theorem nodeTally_nil : nodeTally [] = Tally.none :=
  rfl

theorem nodeTally_append (first second : List (Nat × Json)) :
    nodeTally (first ++ second) = (nodeTally first).add (nodeTally second) := by
  simp [nodeTally, Tally.add]

theorem decides_checkNodeId (node : Json) (path : String) :
    Decides (checkNodeId node path) ⟨[], [], (textOf node "id").toList, 0⟩
      (∃ id, textOf node "id" = some id ∧ id ≠ "") := by
  intro progress
  rw [checkNodeId]
  cases idEq : textOf node "id" with
  | none => exact decides_wrong _ (by simp) progress
  | some id =>
      dsimp only
      by_cases empty : id = ""
      · rw [if_pos empty]
        exact decides_wrong _ (by simp [empty]) progress
      · rw [if_neg empty]
        have apartIff : progress.seen.Apart ⟨[], [], [id], 0⟩ ↔ id ∉ progress.seen.nodeIds := by
          constructor
          · exact fun apart => fresh_singleton_iff.mp apart.nodeIds
          · exact fun unseen => ⟨fresh_nil _, fresh_nil _, fresh_singleton_iff.mpr unseen⟩
        by_cases seen : id ∈ progress.seen.nodeIds
        · rw [if_pos seen]
          simp [Progress.report, apartIff, seen]
        · rw [if_neg seen]
          simp [apartIff, seen, empty, Tally.add]

theorem typeErrors_eq_nil_iff {node : Json} {error : ValidationError} :
    errorIf ((textOf node "type").all (· == "")) error = [] ↔
      ∃ type, textOf node "type" = some type ∧ type ≠ "" := by
  rw [errorIf_eq_nil_iff]
  cases textOf node "type" <;> simp

theorem propsErrors_eq_nil_iff {node : Json} {path : String} :
    propsErrors node path = [] ↔ ∀ props ∈ property node "props", isObject props = true ∧
      ∀ inside ∈ content props, inside.Clean := by
  rw [propsErrors]
  cases property node "props" with
  | none => simp
  | some props =>
      dsimp only
      by_cases object : isObject props = true
      · rw [if_pos object, scanForDangerousValues_eq_nil_iff]
        simp [object]
      · rw [if_neg object]
        simp [object]

theorem stylesErrors_eq_nil_iff {node : Json} {path : String} :
    stylesErrors node path = [] ↔ ∀ styles ∈ property node "styles", isObject styles = true := by
  rw [stylesErrors, errorIf_eq_nil_iff]
  cases property node "styles" <;> simp

/-- What is checked of a component before its children are the rules of it but those of
its place. -/
theorem decides_checkNode (node : Json) (path : String) :
    Decides (checkNode node path) ⟨[], [], (textOf node "id").toList, 1⟩ (NodeOk node) := by
  have counted : Decides (fun progress => { progress with
      seen := { progress.seen with nodeCount := progress.seen.nodeCount + 1 } })
      ⟨[], [], [], 1⟩ True := by
    intro progress
    have apart : progress.seen.Apart ⟨[], [], [], 1⟩ := ⟨fresh_nil _, fresh_nil _, fresh_nil _⟩
    simp [Tally.add, apart]
  have parts := (((((decides_report (keyErrors node fun key =>
      err (path ++ "." ++ key) ("Prohibited key \"" ++ key ++ "\"") "PROHIBITED_KEY")).andThen
    (decides_checkNodeId node path)).andThen
    (decides_report (errorIf ((textOf node "type").all (· == ""))
      (err (path ++ ".type") "Component type is required" "NODE_TYPE_REQUIRED")))).andThen
    counted).andThen (decides_report (propsErrors node path))).andThen
    (decides_report (stylesErrors node path))
  have tally : ((((Tally.none.add ⟨[], [], (textOf node "id").toList, 0⟩).add Tally.none).add
      ⟨[], [], [], 1⟩).add Tally.none).add Tally.none =
      ⟨[], [], (textOf node "id").toList, 1⟩ := by
    simp [Tally.add, Tally.none]
  rw [tally, keyErrors_eq_nil_iff, typeErrors_eq_nil_iff, propsErrors_eq_nil_iff,
    stylesErrors_eq_nil_iff] at parts
  apply parts.congr
  constructor
  · rintro ⟨⟨⟨⟨⟨keys, id⟩, type⟩, _⟩, props⟩, styles⟩
    exact ⟨keys, id, type, props, styles⟩
  · intro node
    exact ⟨⟨⟨⟨⟨node.keys, node.id⟩, node.type⟩, trivial⟩, node.props⟩, node.styles⟩

/-- The children of a component are an array, if there are any. -/
def ChildrenOk (fields : Json.Fields) : Prop :=
  ∀ children ∈ fields.lookup "children", ∃ items, children = .arr items

theorem mem_components_self (depth : Nat) (node : Json) :
    (depth, node) ∈ components depth node := by
  cases node <;> simp [components]

/-- A component that is too deep is an error, whatever it is. -/
theorem decides_deep {path : String} {depth : Nat} {node : Json} (deep : maxNestingDepth < depth) :
    Decides (validateComponentNode path depth node) (nodeTally (components depth node))
      (∀ entry ∈ components depth node, ComponentOk entry.1 entry.2) := by
  have part : validateComponentNode path depth node =
      fun progress => progress.report [depthError path] := by
    funext progress
    cases node <;> simp [validateComponentNode, deep]
  rw [part]
  apply decides_wrong
  intro every
  have shallow := (every (depth, node) (mem_components_self depth node)).shallow
  omega

/-- A component that is no object is an error. -/
theorem decides_leaf {path : String} {depth : Nat} {node : Json} (deep : ¬ maxNestingDepth < depth)
    (leaf : ¬ isObject node = true) :
    Decides (validateComponentNode path depth node) (nodeTally (components depth node))
      (∀ entry ∈ components depth node, ComponentOk entry.1 entry.2) := by
  have part : validateComponentNode path depth node =
      fun progress => progress.report [nodeError path] := by
    funext progress
    cases node with
    | obj _ | arr _ => exact absurd rfl leaf
    | null | bool _ | num _ | str _ => simp [validateComponentNode, deep]
  rw [part]
  apply decides_wrong
  intro every
  obtain ⟨fields, shape⟩ := (every (depth, node) (mem_components_self depth node)).object
  dsimp only at shape
  subst shape
  exact leaf rfl

/-- Children that are no array are an error. -/
theorem decides_childless {path : String} {depth : Nat} {value : Json} {rest : Json.Fields}
    (shapeless : ∀ items, value ≠ .arr items) :
    Decides (validateChildren path depth (("children", value) :: rest))
      (nodeTally (childComponents depth (("children", value) :: rest)))
      (ChildrenOk (("children", value) :: rest) ∧
        ∀ entry ∈ childComponents depth (("children", value) :: rest),
          ComponentOk entry.1 entry.2) := by
  have part : validateChildren path depth (("children", value) :: rest) = fun progress =>
      progress.report
        [err (path ++ ".children") "Children must be an array" "CHILDREN_TYPE"] := by
    funext progress
    cases value with
    | arr items => exact absurd rfl (shapeless items)
    | null | bool _ | num _ | str _ | obj _ => simp [validateChildren]
  rw [part]
  apply decides_wrong
  rintro ⟨children, _⟩
  obtain ⟨items, itemsEq⟩ := children value (by simp)
  exact shapeless items itemsEq

mutual

/-- The validator of a tree decides the rules of its components. -/
theorem decides_validateComponentNode (path : String) (depth : Nat) (node : Json) :
    Decides (validateComponentNode path depth node) (nodeTally (components depth node))
      (∀ entry ∈ components depth node, ComponentOk entry.1 entry.2) := by
  by_cases deep : maxNestingDepth < depth
  · exact decides_deep deep
  · cases node with
    | obj fields =>
        have part : validateComponentNode path depth (.obj fields) = fun progress =>
            validateChildren path depth fields (checkNode (.obj fields) path progress) := by
          funext progress
          rw [validateComponentNode, if_neg deep]
        have tally : nodeTally (components depth (.obj fields)) =
            Tally.add ⟨[], [], (textOf (.obj fields) "id").toList, 1⟩
              (nodeTally (childComponents depth fields)) := by
          rw [components, nodeTally, nodeTally, Tally.add]
          cases idEq : textOf (.obj fields) "id" <;>
            simp [idEq, Nat.add_comm]
        rw [part, tally]
        apply ((decides_checkNode (.obj fields) path).andThen
          (decides_validateChildren path depth fields)).congr
        rw [components, List.forall_mem_cons]
        constructor
        · rintro ⟨node, children, rest⟩
          exact ⟨⟨node, ⟨fields, rfl⟩, Nat.le_of_not_lt deep, children⟩, rest⟩
        · rintro ⟨node, rest⟩
          exact ⟨node.toNodeOk, node.children, rest⟩
    | arr items =>
        have part : validateComponentNode path depth (.arr items) =
            checkNode (.arr items) path := by
          funext progress
          rw [validateComponentNode, if_neg deep]
        have wrong : ¬ NodeOk (.arr items) := by
          intro ok
          obtain ⟨_, idEq, _⟩ := ok.id
          cases idEq
        rw [part]
        apply (decides_checkNode (.arr items) path).of_not wrong
        intro every
        exact wrong (every (depth, .arr items) (mem_components_self depth _)).toNodeOk
    | null | bool _ | num _ | str _ => exact decides_leaf deep (by simp [isObject])

theorem decides_validateChildren (path : String) (depth : Nat) (fields : Json.Fields) :
    Decides (validateChildren path depth fields) (nodeTally (childComponents depth fields))
      (ChildrenOk fields ∧ ∀ entry ∈ childComponents depth fields,
        ComponentOk entry.1 entry.2) := by
  cases fields with
  | nil =>
      have part : validateChildren path depth [] = fun progress => progress.report [] := by
        funext progress
        simp [validateChildren, Progress.report]
      rw [part, childComponents, nodeTally_nil]
      exact (decides_report []).congr (by simp [ChildrenOk])
  | cons field rest =>
      obtain ⟨key, value⟩ := field
      by_cases named : key = "children"
      · subst named
        cases value with
        | arr items =>
            have part : validateChildren path depth (("children", .arr items) :: rest) =
                validateItems path depth 0 items := by
              funext progress
              simp [validateChildren]
            have under : childComponents depth (("children", .arr items) :: rest) =
                itemComponents depth items := by
              simp [childComponents]
            rw [part, under]
            exact (decides_validateItems path depth 0 items).congr (by simp [ChildrenOk])
        | null | bool _ | num _ | str _ | obj _ => exact decides_childless (by simp)
      · have part : validateChildren path depth ((key, value) :: rest) =
            validateChildren path depth rest := by
          funext progress
          cases value <;> simp [validateChildren, named]
        have under : childComponents depth ((key, value) :: rest) = childComponents depth rest := by
          cases value <;> simp [childComponents, named]
        have children : ChildrenOk ((key, value) :: rest) ↔ ChildrenOk rest := by
          rw [ChildrenOk, ChildrenOk, Json.lookup_cons_of_ne (Ne.symm named)]
        rw [part, under, children]
        exact decides_validateChildren path depth rest

theorem decides_validateItems (path : String) (depth index : Nat) (items : List Json) :
    Decides (validateItems path depth index items) (nodeTally (itemComponents depth items))
      (∀ entry ∈ itemComponents depth items, ComponentOk entry.1 entry.2) := by
  cases items with
  | nil =>
      have part : validateItems path depth index [] = fun progress => progress.report [] := by
        funext progress
        simp [validateItems, Progress.report]
      rw [part, itemComponents, nodeTally_nil]
      exact (decides_report []).congr (by simp)
  | cons child rest =>
      have part : validateItems path depth index (child :: rest) = fun progress =>
          validateItems path depth (index + 1) rest (validateComponentNode
            (path ++ ".children[" ++ toString index ++ "]") (depth + 1) child progress) := by
        funext progress
        rw [validateItems]
      rw [part, itemComponents, nodeTally_append, List.forall_mem_append]
      exact (decides_validateComponentNode _ (depth + 1) child).andThen
        (decides_validateItems path depth (index + 1) rest)

end

/-! ## Pages -/

theorem decides_checkPageId (page : Json) (pagePath : String) :
    Decides (checkPageId page pagePath) ⟨[], (textOf page "id").toList, [], 0⟩
      (∃ id, textOf page "id" = some id ∧ id ≠ "") := by
  intro progress
  rw [checkPageId]
  cases idEq : textOf page "id" with
  | none => exact decides_wrong _ (by simp) progress
  | some id =>
      dsimp only
      by_cases empty : id = ""
      · rw [if_pos empty]
        exact decides_wrong _ (by simp [empty]) progress
      · rw [if_neg empty]
        have apartIff : progress.seen.Apart ⟨[], [id], [], 0⟩ ↔ id ∉ progress.seen.pageIds := by
          constructor
          · exact fun apart => fresh_singleton_iff.mp apart.pageIds
          · exact fun unseen => ⟨fresh_nil _, fresh_singleton_iff.mpr unseen, fresh_nil _⟩
        by_cases seen : id ∈ progress.seen.pageIds
        · rw [if_pos seen]
          simp [Progress.report, apartIff, seen]
        · rw [if_neg seen]
          simp [apartIff, seen, empty, Tally.add]

theorem decides_checkRoute (page : Json) (pagePath : String) :
    Decides (checkRoute page pagePath) ⟨(textOf page "route").toList, [], [], 0⟩
      (∃ route, textOf page "route" = some route ∧ route.startsWith "/" = true) := by
  intro progress
  rw [checkRoute]
  cases routeEq : textOf page "route" with
  | none => exact decides_wrong _ (by simp) progress
  | some route =>
      dsimp only
      have apartIff : progress.seen.Apart ⟨[route], [], [], 0⟩ ↔ route ∉ progress.seen.routes := by
        constructor
        · exact fun apart => fresh_singleton_iff.mp apart.routes
        · exact fun unseen => ⟨fresh_singleton_iff.mpr unseen, fresh_nil _, fresh_nil _⟩
      by_cases seen : route ∈ progress.seen.routes
      · simp [Progress.report, apartIff, seen]
      · simp [Progress.report, apartIff, seen, Tally.add, errorIf_eq_nil_iff]

theorem decides_checkRoot (page : Json) (pagePath : String) :
    Decides (checkRoot page pagePath) (nodeTally (pageComponents page))
      ((∃ root, property page "root" = some root) ∧
        ∀ entry ∈ pageComponents page, ComponentOk entry.1 entry.2) := by
  cases rootEq : property page "root" with
  | none =>
      have part : checkRoot page pagePath = fun progress => progress.report
          [err (pagePath ++ ".root") "Root component is required" "ROOT_REQUIRED"] := by
        funext progress
        simp [checkRoot, rootEq]
      rw [part]
      exact decides_wrong _ (by simp)
  | some root =>
      have under : pageComponents page = components 0 root := by
        simp [pageComponents, rootEq]
      rw [under]
      by_cases there : truthy root = true
      · have part : checkRoot page pagePath = validateComponentNode (pagePath ++ ".root") 0 root := by
          funext progress
          simp [checkRoot, rootEq, Option.filter, there]
        rw [part]
        exact (decides_validateComponentNode _ 0 root).congr (by simp)
      · have part : checkRoot page pagePath = fun progress => progress.report
            [err (pagePath ++ ".root") "Root component is required" "ROOT_REQUIRED"] := by
          funext progress
          simp [checkRoot, rootEq, Option.filter, there]
        rw [part]
        apply decides_wrong
        rintro ⟨_, every⟩
        obtain ⟨fields, shape⟩ := (every (0, root) (mem_components_self 0 root)).object
        dsimp only at shape
        subst shape
        exact there rfl

/-- What is seen of a page. -/
def pageTally (page : Json) : Tally :=
  ⟨(textOf page "route").toList, (textOf page "id").toList,
    (pageComponents page).filterMap fun entry => textOf entry.2 "id", (pageComponents page).length⟩

/-- The validator of a page decides the rules of the page and of its components. -/
theorem decides_validatePage (pagePath : String) (page : Json) :
    Decides (validatePage pagePath page) (pageTally page)
      (PageOk page ∧ ∀ entry ∈ pageComponents page, ComponentOk entry.1 entry.2) := by
  by_cases object : isObject page = true
  · have parts := ((((decides_report (keyErrors page fun key =>
        err (pagePath ++ "." ++ key) ("Prohibited key \"" ++ key ++ "\"") "PROHIBITED_KEY")).andThen
      (decides_checkPageId page pagePath)).andThen
      (decides_report (errorIf (textOf page "name").isNone
        (err (pagePath ++ ".name") "Page name is required" "PAGE_NAME_REQUIRED")))).andThen
      (decides_checkRoute page pagePath)).andThen (decides_checkRoot page pagePath)
    have part : validatePage pagePath page = fun progress =>
        checkRoot page pagePath (checkRoute page pagePath ((checkPageId page pagePath
          (progress.report (keyErrors page fun key => err (pagePath ++ "." ++ key)
            ("Prohibited key \"" ++ key ++ "\"") "PROHIBITED_KEY"))).report
          (errorIf (textOf page "name").isNone
            (err (pagePath ++ ".name") "Page name is required" "PAGE_NAME_REQUIRED")))) := by
      funext progress
      simp [validatePage, object]
    have tally : (((Tally.none.add ⟨[], (textOf page "id").toList, [], 0⟩).add Tally.none).add
        ⟨(textOf page "route").toList, [], [], 0⟩).add (nodeTally (pageComponents page)) =
        pageTally page := by
      simp [Tally.add, Tally.none, nodeTally, pageTally]
    rw [tally, keyErrors_eq_nil_iff, errorIf_eq_nil_iff] at parts
    rw [part]
    apply parts.congr
    constructor
    · rintro ⟨⟨⟨⟨keys, id⟩, name⟩, route⟩, root, rest⟩
      have shape : ∃ fields, page = .obj fields := by
        obtain ⟨_, idEq, _⟩ := id
        cases page with
        | obj fields => exact ⟨fields, rfl⟩
        | null | bool _ | num _ | str _ | arr _ => cases idEq
      exact ⟨⟨shape, keys, id, Option.isSome_iff_exists.mp (by simpa using name), route, root⟩, rest⟩
    · rintro ⟨ok, rest⟩
      obtain ⟨name, nameEq⟩ := ok.name
      exact ⟨⟨⟨⟨ok.keys, ok.id⟩, by simp [nameEq]⟩, ok.route⟩, ok.root, rest⟩
  · have part : validatePage pagePath page = fun progress =>
        progress.report [err pagePath "Page must be an object" "PAGE_TYPE"] := by
      funext progress
      simp [validatePage, object]
    rw [part]
    apply decides_wrong
    rintro ⟨ok, _⟩
    obtain ⟨fields, shape⟩ := ok.object
    exact object (shape ▸ rfl)

/-- What is seen of some pages. -/
def pagesTally (pages : List Json) : Tally :=
  ⟨pages.filterMap (textOf · "route"), pages.filterMap (textOf · "id"),
    (forest pages).filterMap fun entry => textOf entry.2 "id", (forest pages).length⟩

theorem pagesTally_cons (page : Json) (rest : List Json) :
    pagesTally (page :: rest) = (pageTally page).add (pagesTally rest) := by
  cases routeEq : textOf page "route" <;> cases idEq : textOf page "id" <;>
    simp [pagesTally, pageTally, Tally.add, forest, routeEq, idEq]

/-- The validator of pages decides the rules of every page and component. -/
theorem decides_validatePages (index : Nat) (pages : List Json) :
    Decides (validatePages index pages) (pagesTally pages)
      (∀ page ∈ pages, PageOk page ∧
        ∀ entry ∈ pageComponents page, ComponentOk entry.1 entry.2) := by
  induction pages generalizing index with
  | nil =>
      have part : validatePages index [] = fun progress => progress.report [] := by
        funext progress
        simp [validatePages, Progress.report]
      rw [part]
      exact (decides_report []).congr (by simp)
  | cons page rest ih =>
      have part : validatePages index (page :: rest) = fun progress =>
          validatePages (index + 1) rest
            (validatePage ("pages[" ++ toString index ++ "]") page progress) := by
        funext progress
        rw [validatePages]
      rw [part, pagesTally_cons, List.forall_mem_cons]
      exact (decides_validatePage _ page).andThen (ih (index + 1))

/-- The pages of a schema go through exactly if they meet the rules of pages. -/
theorem validatedPages_iff {pages : List Json} :
    ((validatePages 0 pages ⟨[], Tally.none⟩).errors = [] ∧
        (validatePages 0 pages ⟨[], Tally.none⟩).seen.nodeCount ≤ maxNodes) ∧
      pages.length ≤ maxPages ↔ PagesOk pages := by
  obtain ⟨passedIff, seenEq⟩ := decides_validatePages 0 pages ⟨[], Tally.none⟩
  have apartIff : Tally.none.Apart (pagesTally pages) ↔
      (pages.filterMap (textOf · "route")).Nodup ∧ (pages.filterMap (textOf · "id")).Nodup ∧
        ((forest pages).filterMap fun entry => textOf entry.2 "id").Nodup := by
    constructor
    · rintro ⟨routes, pageIds, nodeIds⟩
      exact ⟨nil_fresh_iff.mp routes, nil_fresh_iff.mp pageIds, nil_fresh_iff.mp nodeIds⟩
    · rintro ⟨routes, pageIds, nodeIds⟩
      exact ⟨nil_fresh_iff.mpr routes, nil_fresh_iff.mpr pageIds, nil_fresh_iff.mpr nodeIds⟩
  have count : (validatePages 0 pages ⟨[], Tally.none⟩).errors = [] →
      (validatePages 0 pages ⟨[], Tally.none⟩).seen.nodeCount = (forest pages).length := by
    intro passed
    rw [seenEq passed, Tally.none_add]
    rfl
  constructor
  · rintro ⟨⟨passed, nodes⟩, few⟩
    obtain ⟨_, every, apart⟩ := passedIff.mp passed
    obtain ⟨routes, pageIds, nodeIds⟩ := apartIff.mp apart
    refine ⟨few, fun page pageMem => (every page pageMem).1, pageIds, routes, ?_, nodeIds,
      count passed ▸ nodes⟩
    intro entry entryMem
    obtain ⟨page, pageMem, under⟩ := List.mem_flatMap.mp entryMem
    exact (every page pageMem).2 entry under
  · intro ok
    have passed : (validatePages 0 pages ⟨[], Tally.none⟩).errors = [] := by
      apply passedIff.mpr
      refine ⟨rfl, ?_, apartIff.mpr ⟨ok.routes, ok.pageIds, ok.nodeIds⟩⟩
      intro page pageMem
      refine ⟨ok.page page pageMem, fun entry under => ?_⟩
      exact ok.component entry (List.mem_flatMap.mpr ⟨page, pageMem, under⟩)
    exact ⟨⟨passed, (count passed).symm ▸ ok.nodes⟩, ok.few⟩

/-! ## Schemas -/

theorem versionErrors_eq_nil_iff {schema : Json} :
    versionErrors schema = [] ↔
      ∃ version ∈ supportedSchemaVersions, textOf schema "schemaVersion" = some version := by
  rw [versionErrors]
  cases textOf schema "schemaVersion" with
  | none => simp
  | some version =>
      by_cases empty : version = ""
      · subst empty
        simp [Option.filter, supportedSchemaVersions]
      · simp [Option.filter, empty, errorIf_eq_nil_iff]

theorem metadataErrors_eq_nil_iff {schema : Json} :
    metadataErrors schema = [] ↔ ∃ metadata, property schema "metadata" = some (.obj metadata) ∧
      (∃ id, textOf (.obj metadata) "applicationId" = some id) ∧
      ∃ name, textOf (.obj metadata) "name" = some name := by
  have present : ∀ found : Option String, found.isNone = false ↔ ∃ text, found = some text := by
    intro found
    cases found <;> simp
  rw [metadataErrors]
  cases property schema "metadata" with
  | none => simp
  | some metadata =>
      cases metadata with
      | obj fields => simp [Option.filter, isObject, errorIf_eq_nil_iff, present]
      | arr items => simp [Option.filter, isObject, errorIf_eq_nil_iff, textOf, property]
      | null | bool _ | num _ | str _ => simp [Option.filter, isObject]

theorem pagesErrors_eq_nil_iff {schema : Json} :
    pagesErrors schema = [] ↔
      ∀ value ∈ property schema "pages", ∃ pages, value = .arr pages ∧ PagesOk pages := by
  rw [pagesErrors]
  cases property schema "pages" with
  | none => simp
  | some value =>
      cases value with
      | arr pages =>
          simp only [List.append_eq_nil_iff, errorIf_eq_nil_iff, decide_eq_false_iff_not, not_lt,
            Option.mem_def, Option.some.injEq, forall_eq', Json.arr.injEq, exists_eq_left']
          rw [← validatedPages_iff]
          exact ⟨fun ⟨⟨few, passed⟩, nodes⟩ => ⟨⟨passed, nodes⟩, few⟩,
            fun ⟨⟨passed, nodes⟩, few⟩ => ⟨⟨few, passed⟩, nodes⟩⟩
      | null | bool _ | num _ | str _ | obj _ => simp

/-- The validator finds no error exactly if the schema meets the rules. -/
theorem errors_eq_nil_iff {fields : Json.Fields} :
    (validateApplicationSchema (.obj fields)).errors = [] ↔ WellFormed (.obj fields) := by
  rw [validateApplicationSchema, if_neg (by simp [isObject])]
  simp only [List.append_eq_nil_iff, keyErrors_eq_nil_iff, versionErrors_eq_nil_iff,
    metadataErrors_eq_nil_iff, pagesErrors_eq_nil_iff]
  constructor
  · rintro ⟨⟨⟨keys, version⟩, metadata⟩, pages⟩
    exact ⟨keys, version, metadata, pages⟩
  · intro ok
    exact ⟨⟨⟨ok.keys, ok.version⟩, ok.metadata⟩, ok.pages⟩

/-- A result is valid when it has no error. -/
theorem valid_iff_errors {schema : Json} :
    (validateApplicationSchema schema).valid = true ↔
      (validateApplicationSchema schema).errors = [] := by
  rw [validateApplicationSchema]
  split <;> simp

/-- The validator accepts a schema exactly if it meets the rules. -/
theorem valid_iff_wellFormed (fields : Json.Fields) :
    (validateApplicationSchema (.obj fields)).valid = true ↔ WellFormed (.obj fields) :=
  valid_iff_errors.trans errors_eq_nil_iff

end Manbaa.Applications
