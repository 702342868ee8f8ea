import Mathlib.Data.Rat.Defs
import Mathlib.Algebra.Order.Ring.Rat
import Mathlib.Tactic.NormNum

/-!
# Doubles

The values of a double-precision column, and the numbers that a double holds.
-/

namespace Manbaa.Lib

/-- The value of a double. -/
inductive Double where
  | finite (value : ℚ)
  | infinite (negative : Bool)
  | nan
  deriving DecidableEq

/-- The finite value of a double. -/
def Double.finite? : Double → Option ℚ
  | .finite value => some value
  | _ => none

/-- The numbers that a double holds. -/
def IsDouble (value : ℚ) : Prop :=
  ∃ mantissa exponent : ℤ, mantissa.natAbs < 2 ^ 53 ∧ -1074 ≤ exponent ∧ exponent ≤ 971 ∧
    value = mantissa * 2 ^ exponent

/-- Small integers are doubles. -/
theorem isDouble_int {value : ℤ} (small : value.natAbs < 2 ^ 53) : IsDouble value :=
  ⟨value, 0, small, by decide, by decide, by rw [zpow_zero, mul_one]⟩

theorem isDouble_zero : IsDouble 0 := by
  have small : (0 : ℤ).natAbs < 2 ^ 53 := by decide
  exact_mod_cast isDouble_int small

end Manbaa.Lib
