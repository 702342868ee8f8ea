import Mathlib.Algebra.BigOperators.Group.List.Basic
import Mathlib.Data.Int.Order.Basic
import Mathlib.Data.List.MinMax
import Mathlib.Data.List.Nodup

/-!
# Keyed tables as lists of rows

A table keeps its rows in insertion order; a key is unique when no two rows
have it.  `save` writes a row under its own key: it replaces the row that has
the key, or appends the row if none has it.
-/

namespace Manbaa.Lib.Table

universe u v

variable {ρ : Type u} {κ : Type v} [DecidableEq κ] (key : ρ → κ)

/-- The row under a key. -/
def get? (rows : List ρ) (wanted : κ) : Option ρ :=
  rows.find? fun row => decide (key row = wanted)

/-- Replace the row that has the key of `row`. -/
def put (rows : List ρ) (row : ρ) : List ρ :=
  rows.map fun old => if key old = key row then row else old

/-- Replace the row that has the key of `row`, or append `row`. -/
def save (rows : List ρ) (row : ρ) : List ρ :=
  if (get? key rows (key row)).isSome then put key rows row else rows ++ [row]

/-- Remove the row under a key. -/
def delete (rows : List ρ) (gone : κ) : List ρ :=
  rows.filter fun row => decide (key row ≠ gone)

/-- The key is unique. -/
def Keyed (rows : List ρ) : Prop := (rows.map key).Nodup

variable {key} {rows : List ρ} {row other : ρ} {wanted : κ}

instance : Decidable (Keyed key rows) := inferInstanceAs (Decidable (rows.map key).Nodup)

theorem key_of_get? (found : get? key rows wanted = some row) : key row = wanted := by
  simpa using List.find?_some found

theorem mem_of_get? (found : get? key rows wanted = some row) : row ∈ rows :=
  List.mem_of_find?_eq_some found

theorem get?_eq_none_iff : get? key rows wanted = none ↔ ∀ row ∈ rows, key row ≠ wanted := by
  simp [get?]

theorem get?_isSome_iff : (get? key rows wanted).isSome ↔ ∃ row ∈ rows, key row = wanted := by
  simp [get?]

omit [DecidableEq κ] in
@[simp]
theorem keyed_nil : Keyed key ([] : List ρ) :=
  List.nodup_nil

omit [DecidableEq κ] in
theorem Keyed.eq (keyed : Keyed key rows) (rowMem : row ∈ rows) (otherMem : other ∈ rows)
    (same : key row = key other) : row = other :=
  List.inj_on_of_nodup_map keyed rowMem otherMem same

/-- A row is found under its own key when keys are unique. -/
theorem Keyed.get?_of_mem (keyed : Keyed key rows) (rowMem : row ∈ rows) :
    get? key rows (key row) = some row := by
  have present : (get? key rows (key row)).isSome := get?_isSome_iff.mpr ⟨row, rowMem, rfl⟩
  obtain ⟨found, foundEq⟩ := Option.isSome_iff_exists.mp present
  rw [foundEq]
  exact congrArg some (keyed.eq (mem_of_get? foundEq) rowMem (key_of_get? foundEq))

theorem Keyed.get?_eq_some_iff (keyed : Keyed key rows) :
    get? key rows wanted = some row ↔ row ∈ rows ∧ key row = wanted := by
  constructor
  · exact fun found => ⟨mem_of_get? found, key_of_get? found⟩
  · rintro ⟨rowMem, rfl⟩
    exact keyed.get?_of_mem rowMem

omit [DecidableEq κ] in
/-- The only row that meets a condition is the one found. -/
theorem find?_eq_some_of_unique {meets : ρ → Bool} (rowMem : row ∈ rows) (rowMeets : meets row)
    (unique : ∀ other ∈ rows, meets other → other = row) : rows.find? meets = some row := by
  have present : (rows.find? meets).isSome := List.find?_isSome.mpr ⟨row, rowMem, rowMeets⟩
  obtain ⟨found, foundEq⟩ := Option.isSome_iff_exists.mp present
  rw [foundEq, unique found (List.mem_of_find?_eq_some foundEq) (List.find?_some foundEq)]

/-- One row of a table is under a key that has one. -/
theorem Keyed.filter_eq (keyed : Keyed key rows) (found : get? key rows wanted = some row) :
    rows.filter (fun row => decide (key row = wanted)) = [row] := by
  obtain rfl := key_of_get? found
  have rowMem := mem_of_get? found
  induction rows with
  | nil => cases rowMem
  | cons head rest ih =>
      have restKeyed : Keyed key rest := (List.nodup_cons.mp keyed).2
      have headNew : ∀ other ∈ rest, key other ≠ key head :=
        fun other otherMem same =>
          (List.nodup_cons.mp keyed).1 (same ▸ List.mem_map_of_mem otherMem)
      rcases List.mem_cons.mp rowMem with rfl | restMem
      · have none : rest.filter (fun other => decide (key other = key row)) = [] :=
          List.filter_eq_nil_iff.mpr fun other otherMem => by simp [headNew other otherMem]
        rw [List.filter_cons, if_pos (by simp), none]
      · have other : key head ≠ key row := (headNew row restMem).symm
        rw [List.filter_cons, if_neg (by simpa using other)]
        exact ih restKeyed (restKeyed.get?_of_mem restMem) restMem

theorem get?_append :
    get? key (rows ++ [row]) wanted =
      (get? key rows wanted).or (if key row = wanted then some row else none) := by
  rw [get?, List.find?_append]
  by_cases h : key row = wanted <;> simp [get?, h]

theorem keyed_append (keyed : Keyed key rows) (fresh : get? key rows (key row) = none) :
    Keyed key (rows ++ [row]) := by
  rw [Keyed, List.map_append, List.map_singleton]
  refine List.Nodup.append keyed (List.nodup_singleton _) ?_
  rw [List.disjoint_singleton]
  intro member
  obtain ⟨old, oldMem, same⟩ := List.mem_map.mp member
  exact get?_eq_none_iff.mp fresh old oldMem same

@[simp]
theorem map_key_put : (put key rows row).map key = rows.map key := by
  rw [put, List.map_map]
  refine List.map_congr_left fun old _ => ?_
  by_cases h : key old = key row <;> simp [h]

theorem keyed_put (keyed : Keyed key rows) : Keyed key (put key rows row) := by
  rw [Keyed, map_key_put]
  exact keyed

theorem mem_put_iff : other ∈ put key rows row ↔
    (other = row ∧ ∃ old ∈ rows, key old = key row) ∨ (other ∈ rows ∧ key other ≠ key row) := by
  simp only [put, List.mem_map]
  constructor
  · rintro ⟨old, oldMem, rfl⟩
    by_cases h : key old = key row
    · exact Or.inl ⟨if_pos h, old, oldMem, h⟩
    · rw [if_neg h]
      exact Or.inr ⟨oldMem, h⟩
  · rintro (⟨rfl, old, oldMem, h⟩ | ⟨otherMem, h⟩)
    · exact ⟨old, oldMem, if_pos h⟩
    · exact ⟨other, otherMem, if_neg h⟩

omit [DecidableEq κ] in
/-- Keys stay unique if every row is replaced by one with its key. -/
theorem keyed_map {change : ρ → ρ} (same : ∀ row, key (change row) = key row)
    (keyed : Keyed key rows) : Keyed key (rows.map change) := by
  have keys : (rows.map change).map key = rows.map key := by
    rw [List.map_map]
    exact List.map_congr_left fun row _ => same row
  rw [Keyed, keys]
  exact keyed

/-- Mapping a column that the new row shares with the old one is unaffected by
`put`. -/
theorem map_put_of_eq {β : Type*} {column : ρ → β}
    (same : ∀ old ∈ rows, key old = key row → column row = column old) :
    (put key rows row).map column = rows.map column := by
  rw [put, List.map_map]
  refine List.map_congr_left fun old oldMem => ?_
  by_cases h : key old = key row
  · simp [h, same old oldMem h]
  · simp [h]

theorem keyed_delete (keyed : Keyed key rows) : Keyed key (delete key rows wanted) :=
  List.Nodup.sublist (List.Sublist.map key List.filter_sublist) keyed

@[simp]
theorem mem_delete_iff : row ∈ delete key rows wanted ↔ row ∈ rows ∧ key row ≠ wanted := by
  simp [delete]

/-- A deletion leaves what is under other keys. -/
theorem get?_delete_of_ne {gone : κ} (ne : gone ≠ wanted) :
    get? key (delete key rows gone) wanted = get? key rows wanted := by
  rw [get?, delete, List.find?_filter, get?]
  congr
  funext row
  by_cases same : key row = wanted
  · simp [same, Ne.symm ne]
  · simp [same]

theorem save_of_get?_eq_none (fresh : get? key rows (key row) = none) :
    save key rows row = rows ++ [row] := by
  simp [save, fresh]

theorem save_of_get?_eq_some (found : get? key rows (key row) = some other) :
    save key rows row = put key rows row := by
  simp [save, found]

theorem get?_put : get? key (put key rows row) wanted =
    if key row = wanted then (get? key rows wanted).map fun _ => row else get? key rows wanted := by
  have same : (fun old => decide (key (if key old = key row then row else old) = wanted)) =
      fun old => decide (key old = wanted) := by
    funext old
    by_cases h : key old = key row <;> simp [h]
  rw [get?, put, List.find?_map, Function.comp_def, same, get?]
  cases found : rows.find? fun old => decide (key old = wanted) with
  | none => simp
  | some old =>
      have oldKey : key old = wanted := key_of_get? found
      subst wanted
      by_cases h : key old = key row
      · simp [h]
      · simp [h, Ne.symm h]

/-- After a save, the row is under its key and every other key has what it
had. -/
theorem get?_save : get? key (save key rows row) wanted =
    if key row = wanted then some row else get? key rows wanted := by
  rw [save]
  split
  · rename_i found
    rw [get?_put]
    by_cases h : key row = wanted
    · subst wanted
      obtain ⟨old, oldEq⟩ := Option.isSome_iff_exists.mp found
      simp [oldEq]
    · simp [h]
  · rename_i fresh
    rw [get?_append]
    by_cases h : key row = wanted
    · subst wanted
      simp [Option.not_isSome_iff_eq_none.mp fresh]
    · simp [h]

theorem keyed_save (keyed : Keyed key rows) : Keyed key (save key rows row) := by
  rw [save]
  split
  · exact keyed_put keyed
  · rename_i fresh
    exact keyed_append keyed (by simpa using fresh)

/-- A saved row is the row under its key. -/
theorem mem_save_iff : other ∈ save key rows row ↔
    other = row ∨ (other ∈ rows ∧ key other ≠ key row) := by
  rw [save]
  split
  · rename_i found
    rw [mem_put_iff]
    exact or_congr_left (and_iff_left (get?_isSome_iff.mp found))
  · rename_i fresh
    have absent := get?_eq_none_iff.mp (by simpa using fresh)
    rw [List.mem_append, List.mem_singleton]
    constructor
    · rintro (otherMem | equal)
      · exact Or.inr ⟨otherMem, absent other otherMem⟩
      · exact Or.inl equal
    · rintro (equal | ⟨otherMem, _⟩)
      · exact Or.inr equal
      · exact Or.inl otherMem

/-- A save replaces the row that was appended last. -/
theorem save_append (fresh : get? key rows (key row) = none) (same : key other = key row) :
    save key (rows ++ [row]) other = rows ++ [other] := by
  have found : get? key (rows ++ [row]) (key other) = some row := by
    rw [get?_append, same, fresh, if_pos rfl]
    rfl
  have kept : ∀ old ∈ rows, (if key old = key other then other else old) = old := by
    intro old oldMem
    rw [same, if_neg (get?_eq_none_iff.mp fresh old oldMem)]
  rw [save_of_get?_eq_some found, put, List.map_append, List.map_congr_left kept, List.map_id',
    List.map_singleton, if_pos same.symm]

/-- A save that changes nothing saves a row of the table. -/
theorem mem_of_save_eq (same : save key rows row = rows) : row ∈ rows := by
  rw [← same]
  exact mem_save_iff.mpr (Or.inl rfl)

/-- A save of a row that is there changes nothing. -/
theorem Keyed.save_of_mem (keyed : Keyed key rows) (rowMem : row ∈ rows) :
    save key rows row = rows := by
  rw [save_of_get?_eq_some (keyed.get?_of_mem rowMem), put]
  have each : ∀ old ∈ rows, (if key old = key row then row else old) = old := by
    intro old oldMem
    split
    · rename_i sameKey
      exact (keyed.eq oldMem rowMem sameKey).symm
    · rfl
  rw [List.map_congr_left each, List.map_id']

/-! ## Rows that a write does not touch -/

/-- A save of a row that does not count, over rows that do not, leaves those that
do. -/
theorem filter_save {counts : ρ → Bool} (old : ∀ other ∈ rows, key other = key row →
    counts other = false) (new : counts row = false) :
    (save key rows row).filter counts = rows.filter counts := by
  have replaced : (put key rows row).filter counts = rows.filter counts := by
    induction rows with
    | nil => rfl
    | cons head rest ih =>
        have restEq := ih fun other otherMem => old other (List.mem_cons_of_mem _ otherMem)
        rw [put, List.map_cons, List.filter_cons, List.filter_cons]
        rw [put] at restEq
        rw [restEq]
        by_cases same : key head = key row
        · simp [same, new, old head List.mem_cons_self same]
        · simp [same]
  rw [save]
  split
  · exact replaced
  · rw [List.filter_append, List.filter_cons, new]
    simp

/-- A deletion of rows that do not count leaves those that do. -/
theorem filter_delete {counts : ρ → Bool}
    (old : ∀ other ∈ rows, key other = wanted → counts other = false) :
    (delete key rows wanted).filter counts = rows.filter counts := by
  rw [delete, List.filter_filter]
  refine List.filter_congr fun other otherMem => ?_
  by_cases same : key other = wanted
  · rw [old other otherMem same, Bool.false_and]
  · simp [same]

/-! ## The row under a key and the rest of the table -/

omit [DecidableEq κ] in
theorem Keyed.nodup (keyed : Keyed key rows) : rows.Nodup :=
  List.Nodup.of_map key keyed

theorem nodup_cons_delete (keyed : Keyed key rows) :
    (row :: delete key rows (key row)).Nodup := by
  rw [List.nodup_cons]
  refine ⟨?_, (keyed_delete keyed).nodup⟩
  intro rowMem
  exact (mem_delete_iff.mp rowMem).2 rfl

/-- A table is the row under a key and the rows under other keys. -/
theorem Keyed.perm_cons_delete (keyed : Keyed key rows) (found : get? key rows wanted = some row) :
    rows.Perm (row :: delete key rows wanted) := by
  obtain rfl := key_of_get? found
  rw [List.perm_ext_iff_of_nodup keyed.nodup (nodup_cons_delete keyed)]
  intro other
  rw [List.mem_cons, mem_delete_iff]
  constructor
  · intro otherMem
    by_cases same : key other = key row
    · exact Or.inl (keyed.eq otherMem (mem_of_get? found) same)
    · exact Or.inr ⟨otherMem, same⟩
  · rintro (rfl | ⟨otherMem, _⟩)
    · exact mem_of_get? found
    · exact otherMem

/-- A save changes the row under the key and nothing else. -/
theorem Keyed.save_perm (keyed : Keyed key rows) :
    (save key rows row).Perm (row :: delete key rows (key row)) := by
  rw [List.perm_ext_iff_of_nodup (keyed_save keyed).nodup (nodup_cons_delete keyed)]
  intro other
  rw [List.mem_cons, mem_delete_iff, mem_save_iff]

/-- A save changes the sum over the rows that count by what the new row and the
old one count for. -/
theorem Keyed.sum_save {ν : Type*} [AddCommMonoid ν] (keyed : Keyed key rows)
    (found : get? key rows (key row) = some other) (counts : ρ → Bool) (amount : ρ → ν) :
    (((save key rows row).filter counts).map amount).sum +
        (if counts other then amount other else 0) =
      ((rows.filter counts).map amount).sum + if counts row then amount row else 0 := by
  have sum : ∀ (first : ρ) (rest : List ρ), (((first :: rest).filter counts).map amount).sum =
      (if counts first then amount first else 0) + ((rest.filter counts).map amount).sum := by
    intro first rest
    by_cases counted : counts first = true
    · simp [counted]
    · simp [counted]
  have before := ((keyed.perm_cons_delete found).filter counts).map amount |>.sum_eq
  have after := ((keyed.save_perm : (save key rows row).Perm _).filter counts).map amount |>.sum_eq
  rw [before, after, sum, sum]
  ac_rfl

/-! ## The row with the largest number -/

/-- The row with the largest number, the first one of several. -/
def largest? (number : ρ → Int) (rows : List ρ) : Option ρ :=
  -- the order is named, since another one on the integers does not compute
  @List.argmax ρ Int Int.instLinearOrder.toPreorder Int.instLinearOrder.toDecidableLT number rows

variable {number : ρ → Int} {largest : ρ}

theorem largest?_eq_none_iff : largest? number rows = none ↔ rows = [] :=
  @List.argmax_eq_none ρ Int Int.instLinearOrder.toPreorder Int.instLinearOrder.toDecidableLT
    number rows

theorem mem_of_largest? (largestEq : largest? number rows = some largest) : largest ∈ rows :=
  @List.argmax_mem ρ Int Int.instLinearOrder.toPreorder Int.instLinearOrder.toDecidableLT
    number rows largest largestEq

theorem le_of_largest? (rowMem : row ∈ rows) (largestEq : largest? number rows = some largest) :
    number row ≤ number largest :=
  @List.le_of_mem_argmax ρ Int Int.instLinearOrder number rows row largest rowMem largestEq

end Manbaa.Lib.Table
