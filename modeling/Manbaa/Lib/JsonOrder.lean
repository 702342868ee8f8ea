import Manbaa.Lib.JsonParse

/-!
# The order of properties

Properties with distinct keys may stand in any order: what is found under a key is the same, and
so is the stored form.  A value is arranged when the properties of all its objects are put into
some order.
-/

namespace Manbaa.Lib.Json

variable {value : Json} {fields others : Fields} {key : String}

/-! ## Properties in another order -/

/-- Of properties with distinct keys, each is the one that is found. -/
theorem lookup_of_mem (distinct : (fields.map Prod.fst).Nodup) (mem : (key, value) ∈ fields) :
    fields.lookup key = some value := by
  induction fields with
  | nil => cases mem
  | cons field rest ih =>
      obtain ⟨first, found⟩ := field
      rw [List.map_cons, List.nodup_cons] at distinct
      rcases List.mem_cons.mp mem with same | later
      · cases same
        rw [List.lookup_cons_self]
      · have differs : key ≠ first := by
          intro same
          exact distinct.1 (same ▸ List.mem_map.mpr ⟨_, later, rfl⟩)
        rw [Json.lookup_cons_of_ne differs, ih distinct.2 later]

/-- The order of properties with distinct keys does not matter to what is found. -/
theorem lookup_of_perm (distinct : (fields.map Prod.fst).Nodup) (permuted : fields.Perm others)
    (key : String) : fields.lookup key = others.lookup key := by
  have otherDistinct := (permuted.map Prod.fst).nodup_iff.mp distinct
  cases found : fields.lookup key with
  | some value =>
      obtain ⟨front, back, split, _⟩ := List.lookup_eq_some_iff.mp found
      have mem : (key, value) ∈ fields := by
        rw [split]
        exact List.mem_append_right _ (List.mem_cons_self ..)
      exact (lookup_of_mem otherDistinct (permuted.mem_iff.mp mem)).symm
  | none =>
      cases otherFound : others.lookup key with
      | none => rfl
      | some value =>
          obtain ⟨front, back, split, _⟩ := List.lookup_eq_some_iff.mp otherFound
          have mem : (key, value) ∈ others := by
            rw [split]
            exact List.mem_append_right _ (List.mem_cons_self ..)
          rw [lookup_of_mem distinct (permuted.mem_iff.mpr mem)] at found
          cases found

/-- The order of properties with distinct keys does not matter to the stored form. -/
theorem normalFields_of_perm (distinct : (fields.map Prod.fst).Nodup)
    (permuted : fields.Perm others) : Json.normalFields fields = Json.normalFields others := by
  apply (Json.sorted_normalFields fields).eq_of_lookup_eq (Json.sorted_normalFields others)
  intro key
  rw [Json.lookup_normalFields, Json.lookup_normalFields, lookup_of_perm distinct permuted]

theorem insertField_perm {value : Json} (fresh : key ∉ fields.map Prod.fst) :
    (Json.insertField key value fields).Perm ((key, value) :: fields) := by
  induction fields with
  | nil => exact List.Perm.refl _
  | cons field rest ih =>
      obtain ⟨other, found⟩ := field
      rw [List.map_cons, List.mem_cons, not_or] at fresh
      rw [Json.insertField, if_neg fresh.1]
      split
      · exact List.Perm.refl _
      · exact ((ih fresh.2).cons _).trans (List.Perm.swap ..)

/-- The stored form of properties with distinct keys, in some order. -/
theorem normalFields_perm (distinct : (fields.map Prod.fst).Nodup) :
    (Json.normalFields fields).Perm (fields.map fun field => (field.1, field.2.normal)) := by
  induction fields with
  | nil => exact List.Perm.refl _
  | cons field rest ih =>
      obtain ⟨key, value⟩ := field
      rw [List.map_cons, List.nodup_cons] at distinct
      have restPerm := ih distinct.2
      have fresh : key ∉ (Json.normalFields rest).map Prod.fst := by
        rw [(restPerm.map Prod.fst).mem_iff, List.map_map]
        exact distinct.1
      rw [Json.normalFields]
      exact (insertField_perm fresh).trans (restPerm.cons _)

theorem keys_normalFields_nodup (distinct : (fields.map Prod.fst).Nodup) :
    ((Json.normalFields fields).map Prod.fst).Nodup := by
  rw [((normalFields_perm distinct).map Prod.fst).nodup_iff, List.map_map]
  exact distinct

theorem distinctFields_iff : Json.DistinctFields fields ↔ ∀ field ∈ fields, field.2.Distinct := by
  induction fields with
  | nil => exact ⟨fun _ _ mem => (by cases mem), fun _ => trivial⟩
  | cons field rest ih =>
      rw [Json.DistinctFields, ih, List.forall_mem_cons]

theorem distinctFields_of_perm (permuted : fields.Perm others)
    (distinct : Json.DistinctFields fields) : Json.DistinctFields others :=
  distinctFields_iff.mpr fun field mem =>
    distinctFields_iff.mp distinct field (permuted.mem_iff.mpr mem)

theorem numbersItems_eq (items : List Json) : numbersItems items = items.flatMap numbers := by
  induction items with
  | nil => rfl
  | cons item rest ih => rw [numbersItems, ih, List.flatMap_cons]

theorem numbersFields_eq (fields : Fields) :
    numbersFields fields = fields.flatMap fun field => field.2.numbers := by
  induction fields with
  | nil => rfl
  | cons field rest ih => rw [numbersFields, ih, List.flatMap_cons]

/-! ## Stored values -/

theorem keys_of_sorted (sorted : Sorted fields) : (fields.map Prod.fst).Nodup := by
  rw [List.nodup_iff_pairwise_ne, List.pairwise_map]
  refine List.Pairwise.imp ?_ sorted
  intro left right lt same
  rw [same] at lt
  exact keyLt_irrefl _ lt

mutual

/-- The objects of a stored value have distinct keys. -/
theorem distinct_normal : ∀ value : Json, value.normal.Distinct
  | .null | .bool _ | .num _ | .str _ => trivial
  | .arr items => distinctItems_normalItems items
  | .obj fields =>
      ⟨keys_of_sorted (sorted_normalFields fields),
        distinctFields_iff.mpr (distinct_of_mem_normalFields fields)⟩

theorem distinctItems_normalItems : ∀ items : List Json, DistinctItems (normalItems items)
  | [] => trivial
  | item :: rest => ⟨distinct_normal item, distinctItems_normalItems rest⟩

theorem distinct_of_mem_normalFields : ∀ fields : Fields,
    ∀ field ∈ normalFields fields, field.2.Distinct
  | [], field, mem => by cases mem
  | (key, value) :: rest, field, mem => by
      rw [normalFields] at mem
      rcases mem_insertField mem with rfl | later
      · exact distinct_normal value
      · exact distinct_of_mem_normalFields rest field later

end

/-! ## Values in another order -/

/-- An order of properties. -/
structure FieldOrder where
  order : Fields → Fields
  perm : ∀ fields, (order fields).Perm fields

mutual

/-- A value whose objects have their properties in some order. -/
def arrange (sorted : FieldOrder) : Json → Json
  | .arr items => .arr (arrangeItems sorted items)
  | .obj fields => .obj (sorted.order (arrangeFields sorted fields))
  | value => value

/-- The items of an array. -/
def arrangeItems (sorted : FieldOrder) : List Json → List Json
  | [] => []
  | item :: rest => item.arrange sorted :: arrangeItems sorted rest

/-- The properties of an object. -/
def arrangeFields (sorted : FieldOrder) : Fields → Fields
  | [] => []
  | (key, value) :: rest => (key, value.arrange sorted) :: arrangeFields sorted rest

end

variable {sorted : FieldOrder}

theorem keys_arrangeFields (fields : Fields) :
    (arrangeFields sorted fields).map Prod.fst = fields.map Prod.fst := by
  induction fields with
  | nil => rfl
  | cons field rest ih => rw [arrangeFields, List.map_cons, List.map_cons, ih]

theorem keys_arranged_nodup (distinct : (fields.map Prod.fst).Nodup) :
    ((sorted.order (arrangeFields sorted fields)).map Prod.fst).Nodup := by
  rw [((sorted.perm _).map Prod.fst).nodup_iff, keys_arrangeFields]
  exact distinct

mutual

/-- Distinct keys stay distinct. -/
theorem distinct_arrange : ∀ value : Json, value.Distinct → (value.arrange sorted).Distinct
  | .null, _ | .bool _, _ | .num _, _ | .str _, _ => trivial
  | .arr items, distinct => distinctItems_arrangeItems items distinct
  | .obj fields, distinct =>
      ⟨keys_arranged_nodup distinct.1,
        distinctFields_of_perm (sorted.perm _).symm (distinctFields_arrangeFields fields distinct.2)⟩

theorem distinctItems_arrangeItems : ∀ items : List Json, DistinctItems items →
    DistinctItems (arrangeItems sorted items)
  | [], _ => trivial
  | item :: rest, distinct =>
      ⟨distinct_arrange item distinct.1, distinctItems_arrangeItems rest distinct.2⟩

theorem distinctFields_arrangeFields : ∀ fields : Fields, DistinctFields fields →
    DistinctFields (arrangeFields sorted fields)
  | [], _ => trivial
  | (_, value) :: rest, distinct =>
      ⟨distinct_arrange value distinct.1, distinctFields_arrangeFields rest distinct.2⟩

end

mutual

/-- The stored form does not depend on the order. -/
theorem normal_arrange : ∀ value : Json, value.Distinct →
    (value.arrange sorted).normal = value.normal
  | .null, _ | .bool _, _ | .num _, _ | .str _, _ => rfl
  | .arr items, distinct => congrArg Json.arr (normalItems_arrangeItems items distinct)
  | .obj fields, distinct => by
      rw [arrange, normal, normalFields_of_perm (keys_arranged_nodup distinct.1) (sorted.perm _),
        normalFields_arrangeFields fields distinct.2, normal]

theorem normalItems_arrangeItems : ∀ items : List Json, DistinctItems items →
    normalItems (arrangeItems sorted items) = normalItems items
  | [], _ => rfl
  | item :: rest, distinct => by
      rw [arrangeItems, normalItems, normalItems, normal_arrange item distinct.1,
        normalItems_arrangeItems rest distinct.2]

theorem normalFields_arrangeFields : ∀ fields : Fields, DistinctFields fields →
    normalFields (arrangeFields sorted fields) = normalFields fields
  | [], _ => rfl
  | (key, value) :: rest, distinct => by
      rw [arrangeFields, normalFields, normalFields, normal_arrange value distinct.1,
        normalFields_arrangeFields rest distinct.2]

end

mutual

/-- The numbers are the same ones. -/
theorem mem_numbers_arrange : ∀ (value : Json) (number : ℚ),
    number ∈ (value.arrange sorted).numbers ↔ number ∈ value.numbers
  | .null, _ | .bool _, _ | .num _, _ | .str _, _ => Iff.rfl
  | .arr items, number => mem_numbers_arrangeItems items number
  | .obj fields, number => by
      rw [arrange, numbers, numbers, ← mem_numbers_arrangeFields fields number, numbersFields_eq,
        numbersFields_eq]
      exact ((sorted.perm _).flatMap_right _).mem_iff

theorem mem_numbers_arrangeItems : ∀ (items : List Json) (number : ℚ),
    number ∈ numbersItems (arrangeItems sorted items) ↔ number ∈ numbersItems items
  | [], _ => Iff.rfl
  | item :: rest, number => by
      rw [arrangeItems, numbersItems, numbersItems, List.mem_append, List.mem_append,
        mem_numbers_arrange item number, mem_numbers_arrangeItems rest number]

theorem mem_numbers_arrangeFields : ∀ (fields : Fields) (number : ℚ),
    number ∈ numbersFields (arrangeFields sorted fields) ↔ number ∈ numbersFields fields
  | [], _ => Iff.rfl
  | (_, value) :: rest, number => by
      rw [arrangeFields, numbersFields, numbersFields, List.mem_append, List.mem_append,
        mem_numbers_arrange value number, mem_numbers_arrangeFields rest number]

end

/-! ## The order of the runtime -/

/-- A key that is an index of arrays: a canonical number below the largest length. -/
def isIndex (key : String) : Bool :=
  key.toList.all Char.isDigit && key != "" && (key == "0" || key.toList.head? != some '0') &&
    decide (Nat.ofDigitChars 10 key.toList 0 < 4294967295)

/-- The properties whose keys are indices come first. -/
def indicesFirst (fields : Fields) : Fields :=
  fields.filter (fun field => isIndex field.1) ++ fields.filter fun field => !isIndex field.1

/-- The order in which the runtime keeps properties. -/
def runtimeOrder : FieldOrder := ⟨indicesFirst, fun fields => List.filter_append_perm _ fields⟩

/-- A stored value as the runtime reads it: indices come before the other keys.  Among themselves
indices are in the order of the database already. -/
def asRead (value : Json) : Json := value.arrange runtimeOrder

/-- Stored values that are read as one are one. -/
theorem asRead_injective {other : Json} (stored : value.normal = value)
    (otherStored : other.normal = other) (same : value.asRead = other.asRead) : value = other := by
  have distinct := distinct_normal value
  have otherDistinct := distinct_normal other
  rw [stored] at distinct
  rw [otherStored] at otherDistinct
  have normals := congrArg normal same
  rw [asRead, asRead, normal_arrange value distinct, normal_arrange other otherDistinct, stored,
    otherStored] at normals
  exact normals

end Manbaa.Lib.Json
