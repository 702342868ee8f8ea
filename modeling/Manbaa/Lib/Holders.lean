import Manbaa.Lib.Program
import Manbaa.Lib.Table

/-!
# The last holder of a role

Some rows of a table hold a role, and programs that run beside each other save rows, one at
a time.  The role stays held exactly as long as every save that takes it from a row finds
another holder in the table.
-/

namespace Manbaa.Lib.Table

universe u v w

variable {ρ : Type u} {κ : Type v} [DecidableEq κ] (key : ρ → κ) (holder : ρ → Bool)

/-- A row holds the role. -/
def Held (rows : List ρ) : Prop := ∃ row ∈ rows, holder row

/-- Every row that holds the role keeps it, or another row holds it. -/
def Relieved (before after : List ρ) : Prop :=
  ∀ row ∈ before, holder row → (∃ kept ∈ after, holder kept ∧ key kept = key row) ∨
    ∃ other ∈ before, holder other ∧ key other ≠ key row

/-- One row is saved, or none. -/
def SavesOne (before after : List ρ) : Prop :=
  after = before ∨ ∃ row, after = save key before row

instance (rows : List ρ) : Decidable (Held holder rows) :=
  inferInstanceAs (Decidable (∃ row ∈ rows, holder row = true))

instance (before after : List ρ) : Decidable (Relieved key holder before after) :=
  inferInstanceAs (Decidable (∀ row ∈ before, holder row = true →
    (∃ kept ∈ after, holder kept = true ∧ key kept = key row) ∨
      ∃ other ∈ before, holder other = true ∧ key other ≠ key row))

variable {key holder} {before after rows : List ρ} {row : ρ}

theorem savesOne_refl : SavesOne key rows rows :=
  Or.inl rfl

theorem savesOne_save : SavesOne key rows (save key rows row) :=
  Or.inr ⟨row, rfl⟩

/-- A new row is saved. -/
theorem savesOne_append (fresh : ∀ other ∈ rows, key other ≠ key row) :
    SavesOne key rows (rows ++ [row]) := by
  right
  use row
  rw [save_of_get?_eq_none (get?_eq_none_iff.mpr fresh)]

theorem held_save_iff :
    Held holder (save key rows row) ↔
      holder row ∨ ∃ other ∈ rows, holder other ∧ key other ≠ key row := by
  constructor
  · rintro ⟨found, foundMem, holds⟩
    rcases mem_save_iff.mp foundMem with rfl | ⟨other, ne⟩
    · exact Or.inl holds
    · exact Or.inr ⟨found, other, holds, ne⟩
  · rintro (holds | ⟨other, otherMem, holds, ne⟩)
    · exact ⟨row, mem_save_iff.mpr (Or.inl rfl), holds⟩
    · exact ⟨other, mem_save_iff.mpr (Or.inr ⟨otherMem, ne⟩), holds⟩

/-- A role that is held stays held exactly if the save relieves its holders. -/
theorem held_iff_relieved (held : Held holder before) (saves : SavesOne key before after) :
    Held holder after ↔ Relieved key holder before after := by
  rcases saves with rfl | ⟨saved, rfl⟩
  · constructor
    · intro _ row rowMem holds
      exact Or.inl ⟨row, rowMem, holds, rfl⟩
    · intro _
      exact held
  · constructor
    · intro after row rowMem holds
      by_cases same : key row = key saved
      · rcases held_save_iff.mp after with kept | ⟨other, otherMem, otherHolds, ne⟩
        · exact Or.inl ⟨saved, mem_save_iff.mpr (Or.inl rfl), kept, same.symm⟩
        · exact Or.inr ⟨other, otherMem, otherHolds, same ▸ ne⟩
      · exact Or.inl ⟨row, mem_save_iff.mpr (Or.inr ⟨rowMem, same⟩), holds, rfl⟩
    · intro relieved
      obtain ⟨row, rowMem, holds⟩ := held
      rcases relieved row rowMem holds with ⟨kept, keptMem, keptHolds, _⟩ |
        ⟨other, otherMem, otherHolds, ne⟩
      · exact ⟨kept, keptMem, keptHolds⟩
      · by_cases same : key row = key saved
        · exact held_save_iff.mpr (Or.inr ⟨other, otherMem, otherHolds, same ▸ ne⟩)
        · exact ⟨row, mem_save_iff.mpr (Or.inr ⟨rowMem, same⟩), holds⟩

/-! ## Programs beside each other -/

section

variable {σ : Type*} {ε α requests : Type*} (column : σ → List ρ)

/-- The statement that a program takes relieves the holders. -/
def Relieves (key : ρ → κ) (holder : ρ → Bool) (store : σ) (_ : List (Program σ ε α))
    (program : Program σ ε α) (_ : Unit) : Prop :=
  Relieved key holder (column store) (column (program.upcoming store))

instance (store : σ) (others : List (Program σ ε α)) (program : Program σ ε α) (choice : Unit) :
    Decidable (Relieves column key holder store others program choice) :=
  inferInstanceAs (Decidable (Relieved key holder _ _))

variable {column}

/-- Beside each other, programs that save one row at a time keep a role held exactly as long
as every statement relieves the holders. -/
theorem always_held_iff {answer : requests → Program σ ε α}
    (each : ∀ request, (answer request).Each fun before after =>
      SavesOne key (column before) (column after))
    {state target : Sessions.State σ (Program σ ε α)}
    {actions : List (Sessions.Action requests Unit)} (held : Held holder (column state.store))
    (idle : state.sessions = [])
    (runEq : (Program.beside answer).step.run state actions = some target) :
    (Program.beside answer).step.Always (fun state => Held holder (column state.store)) state
        actions ↔
      (Program.beside answer).step.Meets
        (Sessions.Guard (fun _ => True) (Relieves column key holder)) state actions := by
  have same : ∀ before after, Held holder (column before) →
      SavesOne key (column before) (column after) →
      (Held holder (column after) ↔ Relieved key holder (column before) (column after)) :=
    fun _ _ held saves => held_iff_relieved held saves
  exact Program.always_iff_meets each same held idle runEq

end

end Manbaa.Lib.Table
