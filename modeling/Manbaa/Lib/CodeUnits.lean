import Mathlib.Algebra.GroupWithZero.Nat
import Mathlib.Data.List.Basic

/-!
# Strings as UTF-16 code units

The strings of the runtime are sequences of code units, in which a surrogate may stand alone.
A client chooses them, so a model of what is done with them must not assume that they are
well-formed Unicode.
-/

namespace Manbaa.Lib

/-- A string of the runtime. -/
abbrev CodeUnits := List UInt16

namespace CodeUnits

/-- `UTF16EncodeCodePoint`. -/
def ofCode (code : Nat) : CodeUnits :=
  if code < 0x10000 then [UInt16.ofNat code]
  else
    [UInt16.ofNat (0xD800 + (code - 0x10000) / 0x400),
      UInt16.ofNat (0xDC00 + (code - 0x10000) % 0x400)]

/-- The code units of a well-formed text. -/
def ofString (text : String) : CodeUnits := text.toList.flatMap fun char => ofCode char.toNat

/-- The first half of a pair of surrogates. -/
def isHigh (unit : UInt16) : Bool := 0xD800 ≤ unit && unit < 0xDC00

/-- The second half of a pair of surrogates. -/
def isLow (unit : UInt16) : Bool := 0xDC00 ≤ unit && unit < 0xE000

/-- `Array.from`: the characters, with the pairs of surrogates kept together. -/
def characters : CodeUnits → List CodeUnits
  | [] => []
  | [unit] => [[unit]]
  | high :: low :: rest =>
      if isHigh high && isLow low then [high, low] :: characters rest
      else [high] :: characters (low :: rest)

/-- The bytes of one character in UTF-8, where a lone surrogate is written as U+FFFD. -/
def characterSize : CodeUnits → Nat
  | [unit] => if unit < 0x80 then 1 else if unit < 0x800 then 2 else 3
  | _ => 4

/-- `Buffer.byteLength(text, "utf8")`. -/
def byteLength (text : CodeUnits) : Nat := ((characters text).map characterSize).sum

/-- The white space of the language. -/
def isSpace (unit : UInt16) : Bool :=
  [9, 10, 11, 12, 13, 32, 160, 5760, 8232, 8233, 8239, 8287, 12288, 65279].contains unit ||
    (8192 ≤ unit && unit ≤ 8202)

/-- `trim`. -/
def trim (text : CodeUnits) : CodeUnits :=
  ((text.dropWhile isSpace).reverse.dropWhile isSpace).reverse

/-- The code units of a class that stand in a row, replaced by one code unit; the row may have
begun before the text. -/
def replaceRunsFrom (among : UInt16 → Bool) (replacement : UInt16) : Bool → CodeUnits → CodeUnits
  | _, [] => []
  | inside, unit :: rest =>
      if among unit then
        if inside then replaceRunsFrom among replacement true rest
        else replacement :: replaceRunsFrom among replacement true rest
      else unit :: replaceRunsFrom among replacement false rest

/-- `replace(/[...]+/g, ...)`. -/
def replaceRuns (among : UInt16 → Bool) (replacement : UInt16) (text : CodeUnits) : CodeUnits :=
  replaceRunsFrom among replacement false text

/-- The characters make up the text again. -/
theorem flatten_characters (text : CodeUnits) : (characters text).flatten = text := by
  induction text using characters.induct with
  | case1 => rfl
  | case2 unit => rfl
  | case3 high low rest paired ih => simp [characters, paired, ih]
  | case4 high low rest alone ih =>
      rw [characters, if_neg alone, List.flatten_cons, ih]
      rfl

/-- A character is one code unit, or a pair of surrogates. -/
theorem character_cases {text character : CodeUnits} (mem : character ∈ characters text) :
    (∃ unit, character = [unit]) ∨
      ∃ high low, character = [high, low] ∧ isHigh high = true ∧ isLow low = true := by
  induction text using characters.induct with
  | case1 => cases mem
  | case2 unit => exact Or.inl ⟨unit, List.mem_singleton.mp mem⟩
  | case3 high low rest paired ih =>
      rw [characters, if_pos paired] at mem
      rcases List.mem_cons.mp mem with rfl | later
      · exact Or.inr ⟨high, low, rfl, Bool.and_eq_true_iff.mp paired⟩
      · exact ih later
  | case4 high low rest alone ih =>
      rw [characters, if_neg alone] at mem
      rcases List.mem_cons.mp mem with rfl | later
      · exact Or.inl ⟨high, rfl⟩
      · exact ih later

/-- What is replaced is gone, and the rest is what was there. -/
theorem mem_replaceRunsFrom {among : UInt16 → Bool} {replacement unit : UInt16} {inside : Bool}
    {text : CodeUnits} (mem : unit ∈ replaceRunsFrom among replacement inside text) :
    unit = replacement ∨ unit ∈ text ∧ among unit = false := by
  induction text generalizing inside with
  | nil => cases mem
  | cons first rest ih =>
      rw [replaceRunsFrom] at mem
      have later {within : Bool} (mem : unit ∈ replaceRunsFrom among replacement within rest) :
          unit = replacement ∨ unit ∈ first :: rest ∧ among unit = false :=
        (ih mem).imp_right fun kept => ⟨List.mem_cons_of_mem _ kept.1, kept.2⟩
      split at mem
      · split at mem
        · exact later mem
        · rcases List.mem_cons.mp mem with same | mem
          · exact Or.inl same
          · exact later mem
      · rename_i other
        rcases List.mem_cons.mp mem with rfl | mem
        · exact Or.inr ⟨List.mem_cons_self .., Bool.eq_false_iff.mpr other⟩
        · exact later mem

/-! ## ASCII -/

/-- Code units of ASCII are characters by themselves. -/
theorem characters_of_ascii {text : CodeUnits} (plain : ∀ unit ∈ text, unit < 0x80) :
    characters text = text.map fun unit => [unit] := by
  induction text using characters.induct with
  | case1 => rfl
  | case2 unit => rfl
  | case3 high low rest paired ih =>
      have isSmall := plain high (List.mem_cons_self ..)
      have isLarge : 0xD800 ≤ high := by
        simp only [isHigh, Bool.and_eq_true, decide_eq_true_eq] at paired
        exact paired.1.1
      grind
  | case4 high low rest alone ih =>
      rw [characters, if_neg alone, ih fun unit mem => plain unit (List.mem_cons_of_mem _ mem)]
      rfl

/-- A code unit of ASCII is a byte. -/
theorem byteLength_of_ascii {text : CodeUnits} (plain : ∀ unit ∈ text, unit < 0x80) :
    byteLength text = text.length := by
  rw [byteLength, characters_of_ascii plain, List.map_map]
  induction text with
  | nil => rfl
  | cons unit rest ih =>
      have single : characterSize [unit] = 1 := if_pos (plain unit (List.mem_cons_self ..))
      rw [List.map_cons, List.sum_cons, ih fun unit mem => plain unit (List.mem_cons_of_mem _ mem),
        Function.comp_apply, single, List.length_cons, Nat.add_comm]

/-- The code units of a character beyond ASCII are no ASCII. -/
theorem toNat_lt_of_ofCode {code : Nat} (isCode : code < 0x110000)
    (plain : ∀ unit ∈ ofCode code, unit < 0x80) : code < 0x80 := by
  unfold ofCode at plain
  split at plain
  · rename_i basic
    have small := UInt16.lt_iff_toNat_lt.mp (plain _ (List.mem_singleton_self _))
    rwa [UInt16.toNat_ofNat_of_lt' basic] at small
  · have small := UInt16.lt_iff_toNat_lt.mp (plain _ (List.mem_cons_self ..))
    have isUnit : 0xD800 + (code - 0x10000) / 0x400 < UInt16.size := by
      rw [UInt16.size]
      omega
    rw [UInt16.toNat_ofNat_of_lt' isUnit] at small
    exact absurd (Nat.lt_of_le_of_lt (Nat.le_add_right _ _) small) (by decide)

/-- A text whose code units are ASCII has ASCII characters. -/
theorem ascii_of_ofString {text : String} (plain : ∀ unit ∈ ofString text, unit < 0x80) :
    ∀ char ∈ text.toList, char.toNat < 0x80 := by
  intro char charMem
  have isCode : char.toNat < 0x110000 := by
    rcases char.valid with small | ⟨_, bound⟩
    · exact Nat.lt_trans small (by decide)
    · exact bound
  refine toNat_lt_of_ofCode isCode fun unit mem => plain unit ?_
  exact List.mem_flatMap.mpr ⟨char, charMem, mem⟩

/-- ASCII characters are code units by themselves. -/
theorem ofString_of_ascii {text : String} (plain : ∀ char ∈ text.toList, char.toNat < 0x80) :
    ofString text = text.toList.map fun char => UInt16.ofNat char.toNat := by
  rw [ofString, List.map_eq_flatMap]
  refine List.flatMap_congr fun char charMem => ?_
  have basic : char.toNat < 0x10000 := Nat.lt_of_lt_of_le (plain char charMem) (by decide)
  rw [ofCode, if_pos basic]

theorem ofString_append (first second : String) :
    ofString (first ++ second) = ofString first ++ ofString second := by
  rw [ofString, String.toList_append, List.flatMap_append, ofString, ofString]

/-- ASCII texts are determined by their code units. -/
theorem toList_of_ascii {text : String} (plain : ∀ unit ∈ ofString text, unit < 0x80) :
    text.toList = (ofString text).map fun unit => Char.ofNat unit.toNat := by
  have small := ascii_of_ofString plain
  have back : ∀ char ∈ text.toList, Char.ofNat (UInt16.ofNat char.toNat).toNat = char := by
    intro char charMem
    have isUnit : char.toNat < UInt16.size := Nat.lt_of_lt_of_le (small char charMem) (by decide)
    rw [UInt16.toNat_ofNat_of_lt' isUnit, Char.ofNat_toNat]
  rw [ofString_of_ascii small, List.map_map]
  exact (List.map_id _).symm.trans (List.map_congr_left fun char mem => (back char mem).symm)

theorem ofString_injective_of_ascii {first second : String}
    (plain : ∀ unit ∈ ofString first, unit < 0x80) (same : ofString first = ofString second) :
    first = second := by
  apply String.toList_inj.mp
  rw [toList_of_ascii plain, toList_of_ascii (same ▸ plain), same]

end CodeUnits

end Manbaa.Lib
