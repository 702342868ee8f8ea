import Mathlib.Tactic.IntervalCases

/-!
# Base64 for addresses

Bytes as characters that may stand in an address, without padding.  What is written is
read back; a reader takes the characters of the other alphabet as well, skips those of
neither and stops at padding.
-/

namespace Manbaa.Lib.Base64

/-- The characters of the alphabet. -/
def alphabet : List Char :=
  "ABCDEFGHIJKLMNOPQRSTUVWXYZabcdefghijklmnopqrstuvwxyz0123456789-_".toList

/-- The character of six bits. -/
def symbol (value : Nat) : Char := alphabet.getD value 'A'

/-- The six bits of a character. -/
def value? (char : Char) : Option Nat :=
  if char = '+' then some 62
  else if char = '/' then some 63
  else alphabet.findIdx? (· == char)

/-- The characters of bytes. -/
def encode : List UInt8 → List Char
  | [] => []
  | [a] => [symbol (a.toNat / 4), symbol (a.toNat % 4 * 16)]
  | [a, b] =>
      [symbol (a.toNat / 4), symbol (a.toNat % 4 * 16 + b.toNat / 16), symbol (b.toNat % 16 * 4)]
  | a :: b :: c :: rest =>
      symbol (a.toNat / 4) :: symbol (a.toNat % 4 * 16 + b.toNat / 16) ::
        symbol (b.toNat % 16 * 4 + c.toNat / 64) :: symbol (c.toNat % 64) :: encode rest

/-- The bytes of groups of six bits. -/
def join : List Nat → List UInt8
  | a :: b :: c :: d :: rest =>
      .ofNat (a * 4 + b / 16) :: .ofNat (b % 16 * 16 + c / 4) :: .ofNat (c % 4 * 64 + d) :: join rest
  | [a, b, c] => [.ofNat (a * 4 + b / 16), .ofNat (b % 16 * 16 + c / 4)]
  | [a, b] => [.ofNat (a * 4 + b / 16)]
  | _ => []

/-- The bytes of characters. -/
def decode (chars : List Char) : List UInt8 :=
  join ((chars.takeWhile (· != '=')).filterMap value?)

theorem value?_symbol {value : Nat} (small : value < 64) : value? (symbol value) = some value := by
  interval_cases value <;> decide

theorem symbol_ne_padding {value : Nat} (small : value < 64) : (symbol value != '=') = true := by
  interval_cases value <;> decide

/-- A written character gives its six bits, and the reader goes on. -/
theorem sextets_cons {value : Nat} (small : value < 64) (rest : List Char) :
    ((symbol value :: rest).takeWhile (· != '=')).filterMap value? =
      value :: (rest.takeWhile (· != '=')).filterMap value? := by
  rw [List.takeWhile_cons, if_pos (symbol_ne_padding small),
    List.filterMap_cons_some (value?_symbol small)]

/-- A byte is what its bits give. -/
theorem byte_eq {byte : UInt8} {value : Nat} (same : value = byte.toNat) :
    UInt8.ofNat value = byte := by
  rw [same, UInt8.ofNat_toNat]

/-- What is written is read back. -/
@[simp]
theorem decode_encode (bytes : List UInt8) : decode (encode bytes) = bytes := by
  have small : ∀ byte : UInt8, byte.toNat < 256 := UInt8.toNat_lt
  induction bytes using encode.induct with
  | case1 => rfl
  | case2 a =>
      have := small a
      rw [decode, encode, sextets_cons (by omega), sextets_cons (by omega)]
      exact List.cons_eq_cons.mpr ⟨byte_eq (by omega), rfl⟩
  | case3 a b =>
      have := small a
      have := small b
      rw [decode, encode, sextets_cons (by omega), sextets_cons (by omega), sextets_cons (by omega)]
      exact List.cons_eq_cons.mpr ⟨byte_eq (by omega), List.cons_eq_cons.mpr ⟨byte_eq (by omega), rfl⟩⟩
  | case4 a b c rest ih =>
      have := small a
      have := small b
      have := small c
      rw [decode, encode, sextets_cons (by omega), sextets_cons (by omega), sextets_cons (by omega),
        sextets_cons (by omega)]
      rw [decode] at ih
      rw [join, ih, byte_eq (by omega : a.toNat / 4 * 4 + _ = a.toNat),
        byte_eq (by omega : _ = b.toNat), byte_eq (by omega : _ = c.toNat)]

end Manbaa.Lib.Base64
