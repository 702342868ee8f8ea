import Mathlib.Logic.Function.Basic
import Mathlib.Data.List.Range

/-!
# Numbered journals

A family of journals keeps for every key a list of entries that only grows at
its end.  An entry carries a number; a family is numbered when the entries of
every key are numbered from one without gaps.  A system whose every step is
silent or appends one entry under the next number keeps its journals numbered
and never rewrites them.

Journals are often the groups of one flat list of rows, which `ofRows` takes
apart.
-/

namespace Manbaa.Lib

universe u v

/-- For every key its entries, oldest first. -/
def Journals (κ : Type u) (ε : Type v) := κ → List ε

namespace Journals

variable {κ : Type u} {ε : Type v} [DecidableEq κ]

/-- Append an entry to the journal of one key. -/
def append (journals : Journals κ ε) (key : κ) (entry : ε) : Journals κ ε :=
  Function.update journals key (journals key ++ [entry])

/-- One step of a system that only appends. -/
inductive Next (number : ε → Nat) (journals : Journals κ ε) : Journals κ ε → Prop where
  | silent : Next number journals journals
  | append (key : κ) (entry : ε) (numberEq : number entry = (journals key).length + 1) :
      Next number journals (journals.append key entry)

/-- The entries of every key are numbered from one without gaps. -/
def Numbered (number : ε → Nat) (journals : Journals κ ε) : Prop :=
  ∀ key, (journals key).map number = List.range' 1 (journals key).length

/-- The rows of a flat list, grouped by their key. -/
def ofRows (keyOf : ε → κ) (rows : List ε) : Journals κ ε :=
  fun key => rows.filter fun row => decide (keyOf row = key)

variable {number : ε → Nat} {journals later : Journals κ ε} {key other : κ} {entry : ε}

@[simp]
theorem append_self : journals.append key entry key = journals key ++ [entry] :=
  Function.update_self _ _ _

theorem append_of_ne (ne : other ≠ key) : journals.append key entry other = journals other :=
  Function.update_of_ne ne _ _

theorem Numbered.append (numbered : Numbered number journals)
    (numberEq : number entry = (journals key).length + 1) :
    Numbered number (journals.append key entry) := by
  intro other
  by_cases h : other = key
  · subst other
    rw [append_self, List.map_append, List.length_append, numbered key]
    simp [List.range'_concat, numberEq, Nat.add_comm]
  · rw [append_of_ne h]
    exact numbered other

/-- A step of an appending system keeps its journals numbered. -/
theorem Numbered.next (numbered : Numbered number journals)
    (step : Next number journals later) : Numbered number later := by
  cases step with
  | silent => exact numbered
  | append key entry numberEq => exact numbered.append numberEq

/-- A step of an appending system rewrites nothing. -/
theorem Next.isPrefix (step : Next number journals later) (key : κ) :
    journals key <+: later key := by
  cases step with
  | silent => exact List.prefix_refl _
  | append changed entry numberEq =>
      by_cases h : key = changed
      · subst key
        rw [append_self]
        exact List.prefix_append _ _
      · exact append_of_ne h ▸ List.prefix_refl _

@[simp]
theorem ofRows_nil {keyOf : ε → κ} : ofRows keyOf ([] : List ε) key = [] :=
  rfl

theorem ofRows_append {keyOf : ε → κ} {rows : List ε} {row : ε} :
    ofRows keyOf (rows ++ [row]) = (ofRows keyOf rows).append (keyOf row) row := by
  funext key
  by_cases h : key = keyOf row
  · subst key
    simp [ofRows]
  · rw [append_of_ne h]
    simp [ofRows, Ne.symm h]

end Journals

end Manbaa.Lib
