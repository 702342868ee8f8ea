import Manbaa.Lib.Contract
import Manbaa.Lib.Table

/-!
# Tables whose rows stay sound

Programs read rows of a table, check and change them, and save them as they hold them, whatever
others have saved in between.  If each of them adds and saves sound rows only, all rows stay sound.

Whether a row is sound may depend on a part of the store that no program changes.
-/

namespace Manbaa.Lib.Program

universe u v w x y

/-- A table in a store, and the part of the store that is fixed. -/
structure Sheet (σ : Type u) (τ : Type v) (ρ : Type w) (κ : Type x) where
  fixed : σ → τ
  rows : σ → List ρ
  key : ρ → κ

variable {σ : Type u} {τ : Type v} {ρ : Type w} {κ : Type x} [DecidableEq κ]
  {sheet : Sheet σ τ ρ κ} {sound : τ → ρ → Prop} {found changed : σ} {row : ρ}

/-- The rows have keys of their own, and are sound. -/
structure Sheet.Sound (sheet : Sheet σ τ ρ κ) (sound : τ → ρ → Prop) (store : σ) : Prop where
  keyed : Table.Keyed sheet.key (sheet.rows store)
  rows : ∀ row ∈ sheet.rows store, sound (sheet.fixed store) row

/-- What programs agree on. -/
def Sheet.contract (sheet : Sheet σ τ ρ κ) (sound : τ → ρ → Prop) : Contract σ where
  valid := sheet.Sound sound
  grows before after := sheet.fixed after = sheet.fixed before
  refl _ := rfl
  trans before after := after.trans before

/-- A sound row may be saved. -/
theorem Sheet.Sound.save (valid : sheet.Sound sound found)
    (rowsEq : sheet.rows changed = Table.save sheet.key (sheet.rows found) row)
    (fixedEq : sheet.fixed changed = sheet.fixed found)
    (isSound : sound (sheet.fixed found) row) :
    sheet.Sound sound changed ∧ sheet.fixed changed = sheet.fixed found := by
  refine ⟨⟨rowsEq ▸ Table.keyed_save valid.keyed, ?_⟩, fixedEq⟩
  intro other otherMem
  rw [rowsEq] at otherMem
  rw [fixedEq]
  rcases Table.mem_save_iff.mp otherMem with rfl | ⟨old, _⟩
  · exact isSound
  · exact valid.rows other old

/-- A sound row with a new key may be added. -/
theorem Sheet.Sound.append (valid : sheet.Sound sound found)
    (rowsEq : sheet.rows changed = sheet.rows found ++ [row])
    (fixedEq : sheet.fixed changed = sheet.fixed found)
    (fresh : Table.get? sheet.key (sheet.rows found) (sheet.key row) = none)
    (isSound : sound (sheet.fixed found) row) :
    sheet.Sound sound changed ∧ sheet.fixed changed = sheet.fixed found := by
  refine ⟨⟨rowsEq ▸ Table.keyed_append valid.keyed fresh, ?_⟩, fixedEq⟩
  intro other otherMem
  rw [rowsEq] at otherMem
  rw [fixedEq]
  rcases List.mem_append.mp otherMem with old | new
  · exact valid.rows other old
  · rw [List.mem_singleton.mp new]
    exact isSound

omit [DecidableEq κ] in
/-- What changes neither the rows nor what is fixed leaves the rows sound. -/
theorem Sheet.Sound.same (valid : sheet.Sound sound found)
    (rowsEq : sheet.rows changed = sheet.rows found)
    (fixedEq : sheet.fixed changed = sheet.fixed found) :
    sheet.Sound sound changed ∧ sheet.fixed changed = sheet.fixed found := by
  refine ⟨⟨rowsEq ▸ valid.keyed, ?_⟩, fixedEq⟩
  rw [rowsEq, fixedEq]
  exact valid.rows

omit [DecidableEq κ] in
/-- No rows are sound. -/
theorem Sheet.sound_of_empty (empty : sheet.rows found = []) : sheet.Sound sound found := by
  constructor
  · rw [empty]
    exact Table.keyed_nil
  · rw [empty]
    exact fun _ rowMem => absurd rowMem List.not_mem_nil

end Manbaa.Lib.Program
