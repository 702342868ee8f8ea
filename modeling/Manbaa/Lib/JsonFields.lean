import Manbaa.Lib.JsonOrder

/-!
# Properties that are set

What an object holds when one of its properties has been set: this value under the key, and under
every other key what it held before.  No key occurs twice if none did.
-/

namespace Manbaa.Lib.Json

variable {fields : Fields} {key wanted : String} {value found : Json}

theorem lookup_append (others : Fields) :
    (fields ++ others).lookup wanted = (fields.lookup wanted).or (others.lookup wanted) := by
  induction fields with
  | nil => rfl
  | cons field rest ih =>
      rw [List.cons_append, List.lookup_cons, List.lookup_cons, ih]
      cases wanted == field.1 <;> rfl

theorem lookup_eq_none_of_any (absent : (fields.any fun field => field.1 == wanted) = false) :
    fields.lookup wanted = none := by
  rw [List.lookup_eq_none_iff]
  intro field fieldMem
  have other := List.any_eq_false.mp absent field fieldMem
  exact bne_iff_ne.mpr fun same => other (beq_iff_eq.mpr same.symm)

/-- What is in place of the properties under a key. -/
theorem lookup_map_set (fields : Fields) :
    (fields.map fun field => if field.1 = key then (key, value) else field).lookup wanted =
      if wanted = key then (fields.lookup key).map fun _ => value else fields.lookup wanted := by
  induction fields with
  | nil => simp
  | cons field rest ih =>
      rw [List.map_cons, List.lookup_cons, List.lookup_cons, List.lookup_cons, ih]
      by_cases isKey : field.1 = key
      · subst isKey
        by_cases same : wanted = field.1
        · simp [same]
        · simp [same, beq_eq_false_iff_ne.mpr same]
      · by_cases same : wanted = key
        · subst same
          cases other : wanted == field.1 with
          | true => exact absurd (beq_iff_eq.mp other).symm isKey
          | false => simp [isKey, other]
        · simp [isKey, same]

/-- **What an object holds when a property is set.** -/
theorem lookup_setField : (setField fields key value).lookup wanted =
    if wanted = key then some value else fields.lookup wanted := by
  rw [setField]
  cases present : fields.any fun field => field.1 == key with
  | true =>
      obtain ⟨field, fieldMem, isKey⟩ := List.any_eq_true.mp present
      have isSome : (fields.lookup key).isSome = true := by
        rw [Option.isSome_iff_ne_none, ne_eq, List.lookup_eq_none_iff]
        intro none
        simpa [beq_iff_eq.mp isKey] using none field fieldMem
      obtain ⟨held, heldEq⟩ := Option.isSome_iff_exists.mp isSome
      rw [if_pos rfl, lookup_map_set, heldEq]
      rfl
  | false =>
      rw [if_neg Bool.false_ne_true, lookup_append]
      by_cases same : wanted = key
      · subst same
        rw [lookup_eq_none_of_any present, if_pos rfl]
        simp
      · rw [if_neg same, List.lookup_cons, beq_eq_false_iff_ne.mpr same]
        exact Option.or_none

theorem mem_setField {field : String × Json} (fieldMem : field ∈ setField fields key value) :
    field ∈ fields ∨ field = (key, value) := by
  rw [setField] at fieldMem
  split at fieldMem
  · obtain ⟨old, oldMem, rfl⟩ := List.mem_map.mp fieldMem
    split
    · exact Or.inr rfl
    · exact Or.inl oldMem
  · rcases List.mem_append.mp fieldMem with old | new
    · exact Or.inl old
    · exact Or.inr (List.mem_singleton.mp new)

theorem keys_setField_nodup (distinct : (fields.map Prod.fst).Nodup) :
    ((setField fields key value).map Prod.fst).Nodup := by
  rw [setField]
  cases present : fields.any fun field => field.1 == key with
  | true =>
      have sameKeys : (fields.map fun field => if field.1 = key then (key, value) else field).map
          Prod.fst = fields.map Prod.fst := by
        rw [List.map_map]
        apply List.map_congr_left
        intro field _
        by_cases set : field.1 = key
        · simp [set]
        · simp [set]
      rw [if_pos rfl, sameKeys]
      exact distinct
  | false =>
      rw [if_neg Bool.false_ne_true, List.map_append, List.map_singleton, List.nodup_append]
      refine ⟨distinct, List.pairwise_singleton _ key, ?_⟩
      rintro other otherMem _ fresh rfl
      obtain ⟨field, fieldMem, isKey⟩ := List.mem_map.mp otherMem
      have differs := List.any_eq_false.mp present field fieldMem
      rw [List.mem_singleton.mp fresh] at isKey
      exact differs (beq_iff_eq.mpr isKey)

/-- A property that is found is there. -/
theorem mem_of_lookup (foundEq : fields.lookup wanted = some found) : (wanted, found) ∈ fields := by
  induction fields with
  | nil => cases foundEq
  | cons field rest ih =>
      rw [List.lookup_cons] at foundEq
      cases same : wanted == field.1 with
      | true =>
          rw [same] at foundEq
          cases foundEq
          rw [beq_iff_eq.mp same]
          exact List.mem_cons_self
      | false =>
          rw [same] at foundEq
          exact List.mem_cons_of_mem _ (ih foundEq)

end Manbaa.Lib.Json
