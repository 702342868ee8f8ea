import Manbaa.Lib.Double
import Manbaa.Lib.JsonParse
import Mathlib.Data.Rat.Lemmas

/-!
# Texts of numbers

A text of numbers that is read back: integers are written as the runtime writes them, other
numbers by their two parts.
-/

namespace Manbaa.Lib.NumberText

open Manbaa.Lib.JsonText

/-- The text of a number. -/
def text (number : ℚ) : String :=
  if number.den = 1 then toString number.num
  else toString number.num ++ "e" ++ toString number.den

/-- The natural number of some digits. -/
def naturalOf (chars : List Char) : Nat := Nat.ofDigitChars 10 chars 0

/-- The integer of a text. -/
def integerOf (chars : List Char) : Int :=
  match chars with
  | '-' :: digits => -(naturalOf digits : Int)
  | digits => naturalOf digits

/-- The number of a text that `text` writes. -/
def read? (text : String) : Option ℚ :=
  let front := text.toList.takeWhile (· != 'e')
  match text.toList.dropWhile (· != 'e') with
  | [] => some (integerOf front : ℚ)
  | _ :: digits => some ((integerOf front : ℚ) / (naturalOf digits : ℚ))

theorem naturalOf_repr (value : Nat) : naturalOf value.repr.toList = value := by
  rw [naturalOf, Nat.toList_repr, Nat.ofDigitChars_ten_toDigits]

theorem digits_of_repr {value : Nat} {char : Char} (mem : char ∈ value.repr.toList) :
    char.isDigit = true := by
  rw [Nat.toList_repr] at mem
  exact Nat.isDigit_of_mem_toDigits (by decide) (by decide) mem

theorem toList_repr_int (value : Int) :
    value.repr.toList = if 0 ≤ value then value.toNat.repr.toList
      else '-' :: (-value).toNat.repr.toList := by
  rw [Int.repr_eq_if]
  split
  · rfl
  · rw [String.toList_append]
    rfl

theorem integerOf_repr (value : Int) : integerOf value.repr.toList = value := by
  rw [toList_repr_int]
  split
  · rename_i nonneg
    have digits : integerOf value.toNat.repr.toList =
        (naturalOf value.toNat.repr.toList : Int) := by
      rw [integerOf]
      intro digits split
      have mem : '-' ∈ value.toNat.repr.toList := by
        rw [split]
        exact List.mem_cons_self ..
      exact absurd (digits_of_repr mem) (by decide)
    rw [digits, naturalOf_repr, Int.toNat_of_nonneg nonneg]
  · rename_i negative
    rw [integerOf, naturalOf_repr, Int.toNat_of_nonneg (by omega), neg_neg]

theorem chars_of_int {value : Int} {char : Char} (mem : char ∈ value.repr.toList) :
    char.isDigit = true ∨ char = '-' := by
  rw [toList_repr_int] at mem
  split at mem
  · exact Or.inl (digits_of_repr mem)
  · rcases List.mem_cons.mp mem with isSign | isDigit
    · exact Or.inr isSign
    · exact Or.inl (digits_of_repr isDigit)

theorem toList_text (number : ℚ) :
    (text number).toList = number.num.repr.toList ++
      if number.den = 1 then [] else 'e' :: number.den.repr.toList := by
  rw [text]
  split
  · exact (List.append_nil _).symm
  · rw [String.toList_append, String.toList_append, List.append_assoc]
    rfl

theorem reads :
    ReadsNumbers text read? IsDouble where
  nonempty := by
    intro number _
    rw [toList_text, toList_repr_int]
    intro isNil
    have front := (List.append_eq_nil_iff.mp isNil).1
    split at front
    · rw [Nat.toList_repr] at front
      exact Nat.toDigits_ne_nil front
    · cases front
  chars := by
    intro number _ char mem
    have isDigitChar : ∀ char : Char, char.isDigit = true → isNumberChar char = true := by
      intro char isDigit
      rw [isNumberChar, isDigit, Bool.true_or]
    rw [toList_text] at mem
    rcases List.mem_append.mp mem with inFront | inBack
    · rcases chars_of_int inFront with isDigit | rfl
      · exact isDigitChar char isDigit
      · decide
    · split at inBack
      · cases inBack
      · rcases List.mem_cons.mp inBack with rfl | isDigit
        · decide
        · exact isDigitChar char (digits_of_repr isDigit)
  read := by
    intro number _
    have noMark : ∀ char ∈ number.num.repr.toList, (char != 'e') = true := by
      intro char mem
      rcases chars_of_int mem with isDigit | rfl
      · rw [bne_iff_ne]
        rintro rfl
        exact absurd isDigit (by decide)
      · decide
    have marked : ∀ digits : List Char,
        ('e' :: digits).takeWhile (· != 'e') = [] ∧
          ('e' :: digits).dropWhile (· != 'e') = 'e' :: digits := fun digits => ⟨rfl, rfl⟩
    simp only [read?, toList_text, List.takeWhile_append_of_pos noMark,
      List.dropWhile_append_of_pos noMark]
    split_ifs with isInteger
    · rw [List.takeWhile_nil, List.dropWhile_nil, List.append_nil, integerOf_repr]
      exact congrArg some ((Rat.den_eq_one_iff number).mp isInteger)
    · rw [(marked _).1, (marked _).2, List.append_nil, integerOf_repr]
      change some ((number.num : ℚ) / (naturalOf number.den.repr.toList : ℚ)) = _
      rw [naturalOf_repr, Rat.num_div_den]

end Manbaa.Lib.NumberText
