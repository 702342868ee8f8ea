import Manbaa.Jobs.Serializer
import Manbaa.Lib.JsonOrder

/-!
# Canonical documents

What sorting the keys of all objects does to values whose objects have distinct keys: it changes
nothing but the order of keys, and of two values that differ in nothing else it makes one.
-/

namespace Manbaa.Jobs

open Manbaa.Lib

variable {value other : Json} {fields others : Json.Fields} {key : String}

/-! ## Properties in another order -/

theorem canonicalizeItems_eq_map (items : List Json) :
    canonicalizeItems items = items.map canonicalize := by
  induction items with
  | nil => rfl
  | cons item rest ih => rw [canonicalizeItems, ih, List.map_cons]

theorem canonicalizeFields_eq_map (fields : Json.Fields) :
    canonicalizeFields fields = fields.map fun field => (field.1, canonicalize field.2) := by
  induction fields with
  | nil => rfl
  | cons field rest ih =>
      obtain ⟨key, value⟩ := field
      rw [canonicalizeFields, ih, List.map_cons]

theorem keys_canonicalizeFields (fields : Json.Fields) :
    (canonicalizeFields fields).map Prod.fst = fields.map Prod.fst := by
  rw [canonicalizeFields_eq_map, List.map_map]
  rfl

/-- Properties that are sorted by their keys. -/
def sortFields (fields : Json.Fields) : Json.Fields :=
  fields.insertionSort fun first second => first.1 ≤ second.1

theorem canonicalize_obj (fields : Json.Fields) :
    canonicalize (.obj fields) = .obj (sortFields (canonicalizeFields fields)) := by
  rw [canonicalize, sortFields]

theorem sortFields_perm (fields : Json.Fields) : (sortFields fields).Perm fields :=
  List.perm_insertionSort _ fields

theorem sortFields_pairwise (fields : Json.Fields) :
    (sortFields fields).Pairwise fun first second => first.1 ≤ second.1 := by
  have total : Std.Total fun first second : String × Json => first.1 ≤ second.1 :=
    ⟨fun first second => le_total first.1 second.1⟩
  have trans : IsTrans (String × Json) fun first second => first.1 ≤ second.1 :=
    ⟨fun _ _ _ => le_trans⟩
  exact List.pairwise_insertionSort _ fields

/-- Sorted properties with distinct keys do not depend on their order. -/
theorem sortFields_of_perm (distinct : (fields.map Prod.fst).Nodup)
    (permuted : fields.Perm others) : sortFields fields = sortFields others := by
  have between := (sortFields_perm fields).trans (permuted.trans (sortFields_perm others).symm)
  refine List.Perm.eq_of_pairwise ?_ (sortFields_pairwise fields) (sortFields_pairwise others)
    between
  intro first second firstMem secondMem le ge
  have same : first.1 = second.1 := le_antisymm le ge
  have firstIn := (sortFields_perm fields).mem_iff.mp firstMem
  have secondIn := permuted.mem_iff.mpr ((sortFields_perm others).mem_iff.mp secondMem)
  have found := Json.lookup_of_mem distinct firstIn
  rw [same, Json.lookup_of_mem distinct secondIn] at found
  exact Prod.ext same (Option.some.inj found).symm

/-! ## Values -/

/-- The order by keys. -/
def keyOrder : Json.FieldOrder := ⟨sortFields, sortFields_perm⟩

mutual

/-- A canonical value is one whose keys are sorted. -/
theorem canonicalize_eq_arrange : ∀ value : Json, canonicalize value = value.arrange keyOrder
  | .null | .bool _ | .num _ | .str _ => rfl
  | .arr items => congrArg Json.arr (canonicalizeItems_eq_arrange items)
  | .obj fields => by
      rw [canonicalize_obj, canonicalizeFields_eq_arrange fields]
      rfl

theorem canonicalizeItems_eq_arrange : ∀ items : List Json,
    canonicalizeItems items = Json.arrangeItems keyOrder items
  | [] => rfl
  | item :: rest => by
      rw [canonicalizeItems, Json.arrangeItems, canonicalize_eq_arrange item,
        canonicalizeItems_eq_arrange rest]

theorem canonicalizeFields_eq_arrange : ∀ fields : Json.Fields,
    canonicalizeFields fields = Json.arrangeFields keyOrder fields
  | [] => rfl
  | (_, value) :: rest => by
      rw [canonicalizeFields, Json.arrangeFields, canonicalize_eq_arrange value,
        canonicalizeFields_eq_arrange rest]

end

/-- Sorting keys leaves them distinct. -/
theorem distinct_canonicalize (value : Json) (distinct : value.Distinct) :
    (canonicalize value).Distinct := by
  rw [canonicalize_eq_arrange]
  exact Json.distinct_arrange value distinct

/-- Sorting keys changes nothing but their order. -/
theorem normal_canonicalize (value : Json) (distinct : value.Distinct) :
    (canonicalize value).normal = value.normal := by
  rw [canonicalize_eq_arrange, Json.normal_arrange value distinct]

mutual

/-- Sorting keys makes the same of a value and of its stored form. -/
theorem canonicalize_normal : ∀ value : Json, value.Distinct →
    canonicalize value.normal = canonicalize value
  | .null, _ | .bool _, _ | .num _, _ | .str _, _ => rfl
  | .arr items, distinct => congrArg Json.arr (canonicalizeItems_normalItems items distinct)
  | .obj fields, distinct => by
      have keys : ((canonicalizeFields (Json.normalFields fields)).map Prod.fst).Nodup := by
        rw [keys_canonicalizeFields]
        exact Json.keys_normalFields_nodup distinct.1
      have permuted : (canonicalizeFields (Json.normalFields fields)).Perm
          (canonicalizeFields fields) := by
        rw [canonicalizeFields_eq_map, ← canonicalizeFields_normal fields distinct.2]
        exact (Json.normalFields_perm distinct.1).map _
      rw [Json.normal, canonicalize_obj, canonicalize_obj, sortFields_of_perm keys permuted]

theorem canonicalizeItems_normalItems : ∀ items : List Json, Json.DistinctItems items →
    canonicalizeItems (Json.normalItems items) = canonicalizeItems items
  | [], _ => rfl
  | item :: rest, distinct => by
      rw [Json.normalItems, canonicalizeItems, canonicalizeItems,
        canonicalize_normal item distinct.1, canonicalizeItems_normalItems rest distinct.2]

theorem canonicalizeFields_normal : ∀ fields : Json.Fields, Json.DistinctFields fields →
    (fields.map fun field => (field.1, field.2.normal)).map
      (fun field => (field.1, canonicalize field.2)) = canonicalizeFields fields
  | [], _ => rfl
  | (key, value) :: rest, distinct => by
      rw [List.map_cons, List.map_cons, canonicalizeFields_normal rest distinct.2,
        canonicalizeFields, canonicalize_normal value distinct.1]

end

/-- **Canonical forms are equal** just for values that differ in the order of keys only. -/
theorem canonicalize_eq_iff (distinct : value.Distinct) (otherDistinct : other.Distinct) :
    canonicalize value = canonicalize other ↔ value.Same other := by
  constructor
  · intro same
    rw [Json.Same, ← normal_canonicalize value distinct, same,
      normal_canonicalize other otherDistinct]
  · intro same
    rw [← canonicalize_normal value distinct, same, canonicalize_normal other otherDistinct]

/-- Sorting keys again changes nothing. -/
theorem canonicalize_canonicalize (distinct : value.Distinct) :
    canonicalize (canonicalize value) = canonicalize value :=
  (canonicalize_eq_iff (distinct_canonicalize value distinct) distinct).mpr
    (normal_canonicalize value distinct)

end Manbaa.Jobs
