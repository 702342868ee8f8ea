import Mathlib.Data.List.Basic

/-!
# Decoding of UTF-8

A decoder that never fails: where the bytes are not those of a character, it writes U+FFFD and
goes on.  What it reads well are the texts of scalar values, and a text that is cut within a
character is not read well.
-/

namespace Manbaa.Lib.Utf8

/-! ## Characters -/

/-- A Unicode scalar value. -/
def isScalar (code : Nat) : Bool := code < 0xD800 || (0xE000 ≤ code && code < 0x110000)

/-- The bytes of a character. -/
def encodeCode (code : Nat) : List UInt8 :=
  if code < 0x80 then [.ofNat code]
  else if code < 0x800 then [.ofNat (0xC0 + code / 0x40), .ofNat (0x80 + code % 0x40)]
  else if code < 0x10000 then
    [.ofNat (0xE0 + code / 0x1000), .ofNat (0x80 + code / 0x40 % 0x40),
      .ofNat (0x80 + code % 0x40)]
  else
    [.ofNat (0xF0 + code / 0x40000), .ofNat (0x80 + code / 0x1000 % 0x40),
      .ofNat (0x80 + code / 0x40 % 0x40), .ofNat (0x80 + code % 0x40)]

/-- The bytes of a text. -/
def encode (codes : List Nat) : List UInt8 := codes.flatMap encodeCode

/-- The bytes are those of a text, in which some characters may not stand. -/
def WellFormed (without : List Nat) (bytes : List UInt8) : Prop :=
  ∃ codes, (∀ code ∈ codes, isScalar code = true ∧ code ∉ without) ∧ bytes = encode codes

/-- A byte that does not begin a character. -/
def isContinuation (byte : UInt8) : Bool := byte.toNat / 0x40 == 2

/-! ## The decoder -/

/-- The replacement character. -/
def replacement : Nat := 0xFFFD

/-- A character of which bytes are still to come, with the bounds of the next one. -/
structure Pending where
  owed : Nat
  code : Nat
  least : Nat
  most : Nat
  deriving DecidableEq

/-- A byte between characters: what is written, and what is still to come. -/
def first (byte : Nat) : List Nat × Option Pending :=
  if byte < 0x80 then ([byte], none)
  else if byte < 0xC2 then ([replacement], none)
  else if byte < 0xE0 then ([], some ⟨1, byte - 0xC0, 0x80, 0xBF⟩)
  else if byte < 0xF0 then
    ([], some ⟨2, byte - 0xE0, if byte = 0xE0 then 0xA0 else 0x80,
      if byte = 0xED then 0x9F else 0xBF⟩)
  else if byte < 0xF5 then
    ([], some ⟨3, byte - 0xF0, if byte = 0xF0 then 0x90 else 0x80,
      if byte = 0xF4 then 0x8F else 0xBF⟩)
  else ([replacement], none)

/-- A byte within a character.  A byte that does not belong there is read again as the first one
of a character. -/
def next (pending : Pending) (byte : Nat) : List Nat × Option Pending :=
  if pending.least ≤ byte ∧ byte ≤ pending.most then
    let code := pending.code * 0x40 + (byte - 0x80)
    if pending.owed = 1 then ([code], none) else ([], some ⟨pending.owed - 1, code, 0x80, 0xBF⟩)
  else (replacement :: (first byte).1, (first byte).2)

/-- What is read of some bytes. -/
def decodeFrom : Option Pending → List UInt8 → List Nat
  | none, [] => []
  | some _, [] => [replacement]
  | none, byte :: rest => (first byte.toNat).1 ++ decodeFrom (first byte.toNat).2 rest
  | some pending, byte :: rest =>
      (next pending byte.toNat).1 ++ decodeFrom (next pending byte.toNat).2 rest

/-- `toString("utf8")`, by its characters. -/
def decode (bytes : List UInt8) : List Nat := decodeFrom none bytes

variable {code owed : Nat} {codes without : List Nat} {bytes rest : List UInt8} {pending : Pending}
  {byte : UInt8}

/-! ## One byte after the other -/

theorem toNat_ofNat {value : Nat} (small : value < 256) : (UInt8.ofNat value).toNat = value :=
  UInt8.toNat_ofNat_of_lt' small

/-- A byte that belongs to a character that owes it alone ends the character. -/
theorem decodeFrom_last {least most : Nat} (low : least ≤ byte.toNat) (high : byte.toNat ≤ most) :
    decodeFrom (some ⟨1, code, least, most⟩) (byte :: rest) =
      (code * 0x40 + (byte.toNat - 0x80)) :: decodeFrom none rest := by
  rw [decodeFrom, next, if_pos ⟨low, high⟩]
  rfl

/-- A byte that belongs to a character that owes more. -/
theorem decodeFrom_more {least most : Nat} (low : least ≤ byte.toNat) (high : byte.toNat ≤ most) :
    decodeFrom (some ⟨owed + 2, code, least, most⟩) (byte :: rest) =
      decodeFrom (some ⟨owed + 1, code * 0x40 + (byte.toNat - 0x80), 0x80, 0xBF⟩) rest := by
  rw [decodeFrom, next, if_pos ⟨low, high⟩]
  rfl

/-- A byte that does not belong to a character. -/
theorem replacement_mem_of_stray {least most : Nat}
    (stray : ¬ (least ≤ byte.toNat ∧ byte.toNat ≤ most)) :
    replacement ∈ decodeFrom (some ⟨owed, code, least, most⟩) (byte :: rest) := by
  rw [decodeFrom, next, if_neg stray]
  exact List.mem_cons_self ..

theorem decodeFrom_ascii (small : byte.toNat < 0x80) :
    decodeFrom none (byte :: rest) = byte.toNat :: decodeFrom none rest := by
  rw [decodeFrom, first, if_pos small]
  rfl

/-- A character that owes bytes is read well only if one that belongs to it follows. -/
theorem exists_of_owed {least most : Nat}
    (read : replacement ∉ decodeFrom (some ⟨owed, code, least, most⟩) bytes) :
    ∃ byte rest, bytes = byte :: rest ∧ least ≤ byte.toNat ∧ byte.toNat ≤ most := by
  cases bytes with
  | nil => exact absurd (List.mem_singleton.mpr rfl) read
  | cons byte rest =>
    by_cases belongs : least ≤ byte.toNat ∧ byte.toNat ≤ most
    · exact ⟨byte, rest, rfl, belongs.1, belongs.2⟩
    · exact absurd (replacement_mem_of_stray belongs) read

/-- The first byte of a character of two bytes. -/
theorem decodeFrom_two (low : 0xC2 ≤ byte.toNat) (high : byte.toNat < 0xE0) :
    decodeFrom none (byte :: rest) =
      decodeFrom (some ⟨1, byte.toNat - 0xC0, 0x80, 0xBF⟩) rest := by
  rw [decodeFrom, first, if_neg (by omega), if_neg (by omega), if_pos high]
  rfl

/-- The first byte of a character of three bytes. -/
theorem decodeFrom_three (low : 0xE0 ≤ byte.toNat) (high : byte.toNat < 0xF0) :
    decodeFrom none (byte :: rest) =
      decodeFrom (some ⟨2, byte.toNat - 0xE0, if byte.toNat = 0xE0 then 0xA0 else 0x80,
        if byte.toNat = 0xED then 0x9F else 0xBF⟩) rest := by
  rw [decodeFrom, first, if_neg (by omega), if_neg (by omega), if_neg (by omega), if_pos high]
  rfl

/-- The first byte of a character of four bytes. -/
theorem decodeFrom_four (low : 0xF0 ≤ byte.toNat) (high : byte.toNat < 0xF5) :
    decodeFrom none (byte :: rest) =
      decodeFrom (some ⟨3, byte.toNat - 0xF0, if byte.toNat = 0xF0 then 0x90 else 0x80,
        if byte.toNat = 0xF4 then 0x8F else 0xBF⟩) rest := by
  rw [decodeFrom, first, if_neg (by omega), if_neg (by omega), if_neg (by omega),
    if_neg (by omega), if_pos high]
  rfl

/-- A byte that begins no character. -/
theorem replacement_mem_of_first (alien : ¬ byte.toNat < 0x80)
    (noLead : byte.toNat < 0xC2 ∨ 0xF5 ≤ byte.toNat) :
    replacement ∈ decodeFrom none (byte :: rest) := by
  have written : first byte.toNat = ([replacement], none) := by
    rcases noLead with low | high
    · rw [first, if_neg alien, if_pos low]
    · rw [first, if_neg alien, if_neg (by omega), if_neg (by omega), if_neg (by omega),
        if_neg (by omega)]
  rw [decodeFrom, written]
  exact List.mem_cons_self ..

/-! ## Characters are read back -/

/-- A character of two bytes. -/
theorem encodeCode_two (low : 0x80 ≤ code) (high : code < 0x800) :
    encodeCode code = [.ofNat (0xC0 + code / 0x40), .ofNat (0x80 + code % 0x40)] := by
  rw [encodeCode, if_neg (by omega), if_pos high]

/-- A character of three bytes. -/
theorem encodeCode_three (low : 0x800 ≤ code) (high : code < 0x10000) :
    encodeCode code =
      [.ofNat (0xE0 + code / 0x1000), .ofNat (0x80 + code / 0x40 % 0x40),
        .ofNat (0x80 + code % 0x40)] := by
  rw [encodeCode, if_neg (by omega), if_neg (by omega), if_pos high]

/-- A character of four bytes. -/
theorem encodeCode_four (low : 0x10000 ≤ code) :
    encodeCode code =
      [.ofNat (0xF0 + code / 0x40000), .ofNat (0x80 + code / 0x1000 % 0x40),
        .ofNat (0x80 + code / 0x40 % 0x40), .ofNat (0x80 + code % 0x40)] := by
  rw [encodeCode, if_neg (by omega), if_neg (by omega), if_neg (by omega)]

theorem isScalar_iff : isScalar code = true ↔
    code < 0xD800 ∨ (0xE000 ≤ code ∧ code < 0x110000) := by
  rw [isScalar, Bool.or_eq_true, Bool.and_eq_true, decide_eq_true_iff, decide_eq_true_iff,
    decide_eq_true_iff]

/-- The sizes of a scalar value. -/
theorem size_cases (scalar : isScalar code = true) :
    code < 0x80 ∨ (0x80 ≤ code ∧ code < 0x800) ∨ (0x800 ≤ code ∧ code < 0x10000) ∨
      (0x10000 ≤ code ∧ code < 0x110000) := by
  have bounds := isScalar_iff.mp scalar
  omega

/-- A byte after the first one of a character. -/
theorem toNat_tail (value : Nat) : (UInt8.ofNat (0x80 + value % 0x40)).toNat =
    0x80 + value % 0x40 :=
  toNat_ofNat (by omega)

/-- The second byte of a character of three bytes is within its bounds. -/
theorem second_of_three (scalar : isScalar code = true) (low : 0x800 ≤ code)
    (high : code < 0x10000) :
    (if 0xE0 + code / 0x1000 = 0xE0 then 0xA0 else 0x80) ≤ 0x80 + code / 0x40 % 0x40 ∧
      0x80 + code / 0x40 % 0x40 ≤ if 0xE0 + code / 0x1000 = 0xED then 0x9F else 0xBF := by
  have bounds := isScalar_iff.mp scalar
  constructor
  · split <;> omega
  · split <;> omega

/-- The second byte of a character of four bytes is within its bounds. -/
theorem second_of_four (low : 0x10000 ≤ code) (high : code < 0x110000) :
    (if 0xF0 + code / 0x40000 = 0xF0 then 0x90 else 0x80) ≤ 0x80 + code / 0x1000 % 0x40 ∧
      0x80 + code / 0x1000 % 0x40 ≤ if 0xF0 + code / 0x40000 = 0xF4 then 0x8F else 0xBF := by
  constructor
  · split <;> omega
  · split <;> omega

/-- **A character is read back** before what follows it. -/
theorem decodeFrom_encodeCode (scalar : isScalar code = true) :
    decodeFrom none (encodeCode code ++ rest) = code :: decodeFrom none rest := by
  rcases size_cases scalar with one | ⟨low, high⟩ | ⟨low, high⟩ | ⟨low, high⟩
  · have lead : (UInt8.ofNat code).toNat = code := toNat_ofNat (by omega)
    rw [encodeCode, if_pos one, List.singleton_append, decodeFrom_ascii (by omega), lead]
  · have lead : (UInt8.ofNat (0xC0 + code / 0x40)).toNat = 0xC0 + code / 0x40 :=
      toNat_ofNat (by omega)
    have tail := toNat_tail code
    rw [encodeCode_two low high, List.cons_append, List.singleton_append,
      decodeFrom_two (by omega) (by omega), decodeFrom_last (by omega) (by omega), lead, tail]
    exact congrArg (· :: decodeFrom none rest) (by omega)
  · have lead : (UInt8.ofNat (0xE0 + code / 0x1000)).toNat = 0xE0 + code / 0x1000 :=
      toNat_ofNat (by omega)
    have tail := toNat_tail code
    have middle := toNat_tail (code / 0x40)
    have bounds := second_of_three scalar low high
    rw [encodeCode_three low high, List.cons_append, List.cons_append, List.singleton_append,
      decodeFrom_three (by omega) (by omega), lead,
      decodeFrom_more (by rw [middle]; exact bounds.1) (by rw [middle]; exact bounds.2),
      decodeFrom_last (by omega) (by omega), middle, tail]
    exact congrArg (· :: decodeFrom none rest) (by omega)
  · have lead : (UInt8.ofNat (0xF0 + code / 0x40000)).toNat = 0xF0 + code / 0x40000 :=
      toNat_ofNat (by omega)
    have tail := toNat_tail code
    have third := toNat_tail (code / 0x40)
    have second := toNat_tail (code / 0x1000)
    have bounds := second_of_four low high
    rw [encodeCode_four low, List.cons_append, List.cons_append, List.cons_append,
      List.singleton_append, decodeFrom_four (by omega) (by omega), lead,
      decodeFrom_more (by rw [second]; exact bounds.1) (by rw [second]; exact bounds.2),
      decodeFrom_more (by omega) (by omega), decodeFrom_last (by omega) (by omega), second, third,
      tail]
    exact congrArg (· :: decodeFrom none rest) (by omega)

/-- **A text of scalar values is read back.** -/
theorem decode_encode (scalars : ∀ code ∈ codes, isScalar code = true) :
    decode (encode codes) = codes := by
  rw [decode]
  induction codes with
  | nil => rfl
  | cons code codes ih =>
    rw [encode, List.flatMap_cons, decodeFrom_encodeCode (scalars code (List.mem_cons_self ..)),
      ← encode, ih fun other mem => scalars other (List.mem_cons_of_mem _ mem)]

/-! ## What is read well is a text -/

/-- A byte is the one of a number that is read from it. -/
theorem ofNat_eq {value : Nat} (is : value = byte.toNat) : UInt8.ofNat value = byte := by
  rw [is, UInt8.ofNat_toNat]

/-- Two bytes that are read as a character are its bytes. -/
theorem encodeCode_of_two {second : UInt8} (is : code = (byte.toNat - 0xC0) * 0x40 +
    (second.toNat - 0x80)) (low : 0xC2 ≤ byte.toNat) (high : byte.toNat < 0xE0)
    (least : 0x80 ≤ second.toNat) (most : second.toNat ≤ 0xBF) :
    encodeCode code = [byte, second] := by
  rw [encodeCode_two (by omega) (by omega), ofNat_eq (by omega : _ = byte.toNat),
    ofNat_eq (by omega : _ = second.toNat)]

/-- Three bytes that are read as a character are its bytes. -/
theorem encodeCode_of_three {second third : UInt8}
    (is : code = ((byte.toNat - 0xE0) * 0x40 + (second.toNat - 0x80)) * 0x40 +
      (third.toNat - 0x80))
    (low : 0x800 ≤ code) (lead : 0xE0 ≤ byte.toNat) (high : byte.toNat < 0xF0)
    (least : 0x80 ≤ second.toNat) (most : second.toNat ≤ 0xBF)
    (thirdLeast : 0x80 ≤ third.toNat) (thirdMost : third.toNat ≤ 0xBF) :
    encodeCode code = [byte, second, third] := by
  rw [encodeCode_three low (by omega), ofNat_eq (by omega : _ = byte.toNat),
    ofNat_eq (by omega : _ = second.toNat), ofNat_eq (by omega : _ = third.toNat)]

/-- Four bytes that are read as a character are its bytes. -/
theorem encodeCode_of_four {second third fourth : UInt8}
    (is : code = (((byte.toNat - 0xF0) * 0x40 + (second.toNat - 0x80)) * 0x40 +
      (third.toNat - 0x80)) * 0x40 + (fourth.toNat - 0x80))
    (low : 0x10000 ≤ code) (lead : 0xF0 ≤ byte.toNat)
    (least : 0x80 ≤ second.toNat) (most : second.toNat ≤ 0xBF)
    (thirdLeast : 0x80 ≤ third.toNat) (thirdMost : third.toNat ≤ 0xBF)
    (fourthLeast : 0x80 ≤ fourth.toNat) (fourthMost : fourth.toNat ≤ 0xBF) :
    encodeCode code = [byte, second, third, fourth] := by
  rw [encodeCode_four low, ofNat_eq (by omega : _ = byte.toNat),
    ofNat_eq (by omega : _ = second.toNat), ofNat_eq (by omega : _ = third.toNat),
    ofNat_eq (by omega : _ = fourth.toNat)]

/-- A character before a text. -/
theorem WellFormed.cons (text : WellFormed without rest) (scalar : isScalar code = true)
    (allowed : code ∉ without) : WellFormed without (encodeCode code ++ rest) := by
  obtain ⟨codes, scalars, rfl⟩ := text
  refine ⟨code :: codes, fun other mem => ?_, by rw [encode, encode, List.flatMap_cons]⟩
  cases mem with
  | head => exact ⟨scalar, allowed⟩
  | tail _ mem => exact scalars other mem

/-- Bytes that are read well begin with a character of two bytes, where the first one says so. -/
theorem character_of_two (low : 0xC2 ≤ byte.toNat) (high : byte.toNat < 0xE0)
    (read : replacement ∉ decodeFrom none (byte :: rest)) :
    ∃ code others, isScalar code = true ∧ byte :: rest = encodeCode code ++ others := by
  rw [decodeFrom_two low high] at read
  obtain ⟨second, others, rfl, least, most⟩ := exists_of_owed read
  have bytes := encodeCode_of_two rfl low high least most
  refine ⟨_, others, isScalar_iff.mpr ?_, (congrArg (· ++ others) bytes).symm⟩
  omega

/-- The same of a character of three bytes. -/
theorem character_of_three (low : 0xE0 ≤ byte.toNat) (high : byte.toNat < 0xF0)
    (read : replacement ∉ decodeFrom none (byte :: rest)) :
    ∃ code others, isScalar code = true ∧ byte :: rest = encodeCode code ++ others := by
  rw [decodeFrom_three low high] at read
  obtain ⟨second, others, rfl, least, most⟩ := exists_of_owed read
  rw [decodeFrom_more least most] at read
  obtain ⟨third, others, rfl, thirdLeast, thirdMost⟩ := exists_of_owed read
  have least' : 0x80 ≤ second.toNat := by split at least <;> omega
  have most' : second.toNat ≤ 0xBF := by split at most <;> omega
  have bytes := encodeCode_of_three rfl (by split at least <;> omega) low high least' most'
    thirdLeast thirdMost
  refine ⟨_, others, isScalar_iff.mpr ?_, (congrArg (· ++ others) bytes).symm⟩
  split at most <;> omega

/-- The same of a character of four bytes. -/
theorem character_of_four (low : 0xF0 ≤ byte.toNat) (high : byte.toNat < 0xF5)
    (read : replacement ∉ decodeFrom none (byte :: rest)) :
    ∃ code others, isScalar code = true ∧ byte :: rest = encodeCode code ++ others := by
  rw [decodeFrom_four low high] at read
  obtain ⟨second, others, rfl, least, most⟩ := exists_of_owed read
  rw [decodeFrom_more least most] at read
  obtain ⟨third, others, rfl, thirdLeast, thirdMost⟩ := exists_of_owed read
  rw [decodeFrom_more thirdLeast thirdMost] at read
  obtain ⟨fourth, others, rfl, fourthLeast, fourthMost⟩ := exists_of_owed read
  have least' : 0x80 ≤ second.toNat := by split at least <;> omega
  have most' : second.toNat ≤ 0xBF := by split at most <;> omega
  have bytes := encodeCode_of_four rfl (by split at least <;> omega) low least' most' thirdLeast
    thirdMost fourthLeast fourthMost
  refine ⟨_, others, isScalar_iff.mpr ?_, (congrArg (· ++ others) bytes).symm⟩
  split at most <;> split at least <;> omega

/-- Bytes that are read well begin with a character. -/
theorem exists_character (read : replacement ∉ decodeFrom none (byte :: rest)) :
    ∃ code others, isScalar code = true ∧ byte :: rest = encodeCode code ++ others := by
  rcases Nat.lt_or_ge byte.toNat 0x80 with one | many
  · refine ⟨byte.toNat, rest, isScalar_iff.mpr (by omega), ?_⟩
    rw [encodeCode, if_pos one, UInt8.ofNat_toNat]
    rfl
  · rcases Nat.lt_or_ge byte.toNat 0xC2 with stray | lead
    · exact absurd (replacement_mem_of_first (by omega) (Or.inl stray)) read
    · rcases Nat.lt_or_ge byte.toNat 0xE0 with two | more
      · exact character_of_two lead two read
      · rcases Nat.lt_or_ge byte.toNat 0xF0 with three | more
        · exact character_of_three more three read
        · rcases Nat.lt_or_ge byte.toNat 0xF5 with four | none
          · exact character_of_four more four read
          · exact absurd (replacement_mem_of_first (by omega) (Or.inr none)) read

theorem encodeCode_ne_nil : encodeCode code ≠ [] := by
  unfold encodeCode
  split
  · exact List.cons_ne_nil _ _
  · split
    · exact List.cons_ne_nil _ _
    · split <;> exact List.cons_ne_nil _ _

/-- **What is read without a replacement is a text.** -/
theorem wellFormed_of_read (read : replacement ∉ decodeFrom none bytes) :
    WellFormed [replacement] bytes := by
  -- On the length: a character is taken off, and what follows it is shorter.
  induction size : bytes.length using Nat.strongRecOn generalizing bytes with
  | ind length ih =>
    cases bytes with
    | nil => exact ⟨[], fun code mem => absurd mem List.not_mem_nil, rfl⟩
    | cons byte rest =>
      obtain ⟨code, others, scalar, split⟩ := exists_character read
      rw [split, decodeFrom_encodeCode scalar, List.mem_cons, not_or] at read
      have shorter : others.length < length := by
        have positive := List.length_pos_of_ne_nil (@encodeCode_ne_nil code)
        rw [← size, split, List.length_append]
        omega
      rw [split]
      exact (ih _ shorter read.2 rfl).cons scalar
        fun mem => read.1 (List.mem_singleton.mp mem).symm

/-- What is read without a replacement is just the texts in which none stands. -/
theorem read_iff : replacement ∉ decode bytes ↔ WellFormed [replacement] bytes := by
  constructor
  · exact wellFormed_of_read
  · rintro ⟨codes, scalars, rfl⟩ mem
    rw [decode_encode fun code mem => (scalars code mem).1] at mem
    exact (scalars _ mem).2 (List.mem_singleton.mpr rfl)

/-! ## Texts that are cut -/

variable {count : Nat}

/-- What is left of a character that is cut is replaced. -/
theorem decodeFrom_take_encodeCode (scalar : isScalar code = true) (begun : 0 < count)
    (cut : count < (encodeCode code).length) :
    decodeFrom none ((encodeCode code).take count) = [replacement] := by
  rcases size_cases scalar with one | ⟨low, high⟩ | ⟨low, high⟩ | ⟨low, high⟩
  · rw [encodeCode, if_pos one, List.length_singleton] at cut
    omega
  · have lead : (UInt8.ofNat (0xC0 + code / 0x40)).toNat = 0xC0 + code / 0x40 :=
      toNat_ofNat (by omega)
    rw [encodeCode_two low high] at cut ⊢
    obtain rfl : count = 1 := by
      simp only [List.length_cons, List.length_nil] at cut
      omega
    rw [List.take_succ_cons, decodeFrom_two (by omega) (by omega)]
    rfl
  · have lead : (UInt8.ofNat (0xE0 + code / 0x1000)).toNat = 0xE0 + code / 0x1000 :=
      toNat_ofNat (by omega)
    have middle := toNat_tail (code / 0x40)
    have bounds := second_of_three scalar low high
    rw [encodeCode_three low high] at cut ⊢
    have counts : count = 1 ∨ count = 2 := by
      simp only [List.length_cons, List.length_nil] at cut
      omega
    rcases counts with rfl | rfl
    · rw [List.take_succ_cons, decodeFrom_three (by omega) (by omega)]
      rfl
    · rw [List.take_succ_cons, List.take_succ_cons, decodeFrom_three (by omega) (by omega), lead,
        decodeFrom_more (by rw [middle]; exact bounds.1) (by rw [middle]; exact bounds.2)]
      rfl
  · have lead : (UInt8.ofNat (0xF0 + code / 0x40000)).toNat = 0xF0 + code / 0x40000 :=
      toNat_ofNat (by omega)
    have third := toNat_tail (code / 0x40)
    have second := toNat_tail (code / 0x1000)
    have bounds := second_of_four low high
    rw [encodeCode_four low] at cut ⊢
    have counts : count = 1 ∨ count = 2 ∨ count = 3 := by
      simp only [List.length_cons, List.length_nil] at cut
      omega
    rcases counts with rfl | rfl | rfl
    · rw [List.take_succ_cons, decodeFrom_four (by omega) (by omega)]
      rfl
    · rw [List.take_succ_cons, List.take_succ_cons, decodeFrom_four (by omega) (by omega), lead,
        decodeFrom_more (by rw [second]; exact bounds.1) (by rw [second]; exact bounds.2)]
      rfl
    · rw [List.take_succ_cons, List.take_succ_cons, List.take_succ_cons,
        decodeFrom_four (by omega) (by omega), lead,
        decodeFrom_more (by rw [second]; exact bounds.1) (by rw [second]; exact bounds.2),
        decodeFrom_more (by omega) (by omega)]
      rfl

/-- All bytes of a character but the first one continue it. -/
theorem isContinuation_encodeCode (scalar : isScalar code = true)
    (at? : (encodeCode code)[count]? = some byte) : isContinuation byte = true ↔ 0 < count := by
  have tail : ∀ value, isContinuation (UInt8.ofNat (0x80 + value % 0x40)) = true := by
    intro value
    rw [isContinuation, toNat_tail, beq_iff_eq]
    omega
  have head : ∀ {value}, value < 0x80 ∨ (0xC0 ≤ value ∧ value < 0x100) →
      ¬ isContinuation (UInt8.ofNat value) = true := by
    intro value bounds
    rw [isContinuation, toNat_ofNat (by omega), beq_iff_eq]
    omega
  rcases size_cases scalar with one | ⟨low, high⟩ | ⟨low, high⟩ | ⟨low, high⟩
  · rw [encodeCode, if_pos one] at at?
    rcases count with _ | count
    · cases at?
      exact iff_of_false (head (by omega)) (by omega)
    · cases at?
  · rw [encodeCode_two low high] at at?
    rcases count with _ | _ | count
    · cases at?
      exact iff_of_false (head (by omega)) (by omega)
    · cases at?
      exact iff_of_true (tail _) (by omega)
    · cases at?
  · rw [encodeCode_three low high] at at?
    rcases count with _ | _ | _ | count
    · cases at?
      exact iff_of_false (head (by omega)) (by omega)
    · cases at?
      exact iff_of_true (tail _) (by omega)
    · cases at?
      exact iff_of_true (tail _) (by omega)
    · cases at?
  · rw [encodeCode_four low] at at?
    rcases count with _ | _ | _ | _ | count
    · cases at?
      exact iff_of_false (head (by omega)) (by omega)
    · cases at?
      exact iff_of_true (tail _) (by omega)
    · cases at?
      exact iff_of_true (tail _) (by omega)
    · cases at?
      exact iff_of_true (tail _) (by omega)
    · cases at?

/-- **A text is read well up to a byte just where no character is cut there.** -/
theorem read_take_iff (scalars : ∀ code ∈ codes, isScalar code = true ∧ code ≠ replacement) :
    replacement ∈ decode ((encode codes).take count) ↔
      ∃ byte, (encode codes)[count]? = some byte ∧ isContinuation byte = true := by
  induction codes generalizing count with
  | nil =>
    rw [encode, List.flatMap_nil, List.take_nil, List.getElem?_nil]
    exact iff_of_false List.not_mem_nil fun ⟨_, at?, _⟩ => by cases at?
  | cons code codes ih =>
    obtain ⟨scalar, isOther⟩ := scalars code (List.mem_cons_self ..)
    have others := fun other mem => scalars other (List.mem_cons_of_mem _ mem)
    rw [encode, List.flatMap_cons, ← encode, decode]
    rcases Nat.lt_or_ge count (encodeCode code).length with within | beyond
    · rw [List.take_append_of_le_length (Nat.le_of_lt within), List.getElem?_append_left within]
      rcases Nat.eq_zero_or_pos count with rfl | begun
      · refine iff_of_false List.not_mem_nil ?_
        rintro ⟨byte, at?, continues⟩
        exact absurd ((isContinuation_encodeCode scalar at?).mp continues) (Nat.lt_irrefl 0)
      · rw [decodeFrom_take_encodeCode scalar begun within]
        refine iff_of_true (List.mem_singleton.mpr rfl)
          ⟨_, List.getElem?_eq_getElem within, ?_⟩
        exact (isContinuation_encodeCode scalar (List.getElem?_eq_getElem within)).mpr begun
    · rw [List.take_append, List.take_of_length_le beyond, List.getElem?_append_right beyond,
        decodeFrom_encodeCode scalar, List.mem_cons, ← decode, ih others]
      exact or_iff_right fun same => isOther same.symm

/-! ## Texts of characters -/

/-- The bytes of a text. -/
def bytesOf (chars : List Char) : List UInt8 := encode (chars.map Char.toNat)

/-- The text of some bytes, as the runtime decodes them. -/
def textOf (bytes : List UInt8) : List Char := (decode bytes).map Char.ofNat

/-- **The bytes of a text are decoded as the text.** -/
theorem textOf_bytesOf (chars : List Char) : textOf (bytesOf chars) = chars := by
  have scalars : ∀ code ∈ chars.map Char.toNat, isScalar code = true := by
    intro code mem
    obtain ⟨char, _, rfl⟩ := List.mem_map.mp mem
    rw [isScalar_iff]
    exact char.valid
  rw [textOf, bytesOf, decode_encode scalars, List.map_map]
  have inverse : Char.ofNat ∘ Char.toNat = id := funext Char.ofNat_toNat
  rw [inverse, List.map_id]

end Manbaa.Lib.Utf8
