import Manbaa.Lib.Json

/-!
# Reading objects of texts

A reader of JSON texts that are objects all of whose values are texts; any other text is
not read.  White space may stand between the parts, and the last value of a key counts.
What `stringify` writes for such an object is read back.
-/

namespace Manbaa.Lib.JsonText

/-- Drop white space. -/
def trimLeft (chars : List Char) : List Char :=
  chars.dropWhile fun char => [' ', '\n', '\r', '\t'].contains char

/-- The value of a hexadecimal digit. -/
def hexValue? (char : Char) : Option Nat :=
  (List.range 16).find? fun value =>
    Nat.digitChar value == char || (Nat.digitChar value).toUpper == char

/-- The character of a short escape. -/
def unescape? (char : Char) : Option Char :=
  [('"', '"'), ('\\', '\\'), ('/', '/'), ('b', Char.ofNat 8), ('f', Char.ofNat 12), ('n', '\n'),
    ('r', '\r'), ('t', '\t')].lookup char

/-- The character of four hexadecimal digits; half of a pair is none. -/
def codeUnit? (a b c d : Char) : Option Char := do
  let code := (((← hexValue? a) * 16 + (← hexValue? b)) * 16 + (← hexValue? c)) * 16 + (← hexValue? d)
  if 0xd800 ≤ code ∧ code ≤ 0xdfff then none else some (Char.ofNat code)

/-- Read a text up to its closing quote. -/
def readText : List Char → Option (List Char × List Char)
  | [] => none
  | char :: rest =>
      if char = '"' then some ([], rest)
      else if char = '\\' then
        match rest with
        | [] => none
        | kind :: rest =>
            if kind = 'u' then
              match rest with
              | a :: b :: c :: d :: rest => do
                  let unit ← codeUnit? a b c d
                  let (text, rest) ← readText rest
                  some (unit :: text, rest)
              | _ => none
            else do
              let escaped ← unescape? kind
              let (text, rest) ← readText rest
              some (escaped :: text, rest)
      else if char.toNat < 32 then none
      else do
        let (text, rest) ← readText rest
        some (char :: text, rest)

/-- Read one wanted character after white space. -/
def expect (wanted : Char) (chars : List Char) : Option (List Char) :=
  match trimLeft chars with
  | [] => none
  | char :: rest => if char = wanted then some rest else none

/-- Read a text in quotes. -/
def readQuoted (chars : List Char) : Option (List Char × List Char) :=
  (expect '"' chars).bind readText

/-- Read so many properties, the last one first, and the end of the object. -/
def readFields : Nat → List (String × String) → List Char →
    Option (List (String × String) × List Char)
  | 0, _, _ => none
  | fuel + 1, read, chars => do
      let (key, rest) ← readQuoted chars
      let rest ← expect ':' rest
      let (value, rest) ← readQuoted rest
      let read := (String.ofList key, String.ofList value) :: read
      match trimLeft rest with
      | ',' :: rest => readFields fuel read rest
      | '}' :: rest => some (read, rest)
      | _ => none

/-- Read the properties of an object and its end. -/
def readObject (chars : List Char) : Option (List (String × String) × List Char) :=
  match trimLeft chars with
  | '}' :: rest => some ([], rest)
  | _ => readFields chars.length [] chars

/-- The properties of an object of texts, the last one first. -/
def parse (text : String) : Option (List (String × String)) := do
  let rest ← expect '{' text.toList
  let (fields, rest) ← readObject rest
  if trimLeft rest = [] then some fields else none

/-! ## What is written is read back -/

/-- A text goes on after a character. -/
def goOn (char : Char) (found : Option (List Char × List Char)) : Option (List Char × List Char) :=
  found.map fun (text, rest) => (char :: text, rest)

theorem readText_short {kind char : Char} (notUnit : kind ≠ 'u')
    (escaped : unescape? kind = some char) (rest : List Char) :
    readText ('\\' :: kind :: rest) = goOn char (readText rest) := by
  rw [readText.eq_def]
  simp only [notUnit, escaped, if_true, if_false, Char.reduceEq]
  cases readText rest <;> rfl

theorem readText_unit {a b c d char : Char} (unit : codeUnit? a b c d = some char)
    (rest : List Char) :
    readText ('\\' :: 'u' :: a :: b :: c :: d :: rest) = goOn char (readText rest) := by
  rw [readText.eq_def]
  simp only [unit, if_true, if_false, Char.reduceEq]
  cases readText rest <;> rfl

theorem readText_plain {char : Char} (notQuote : char ≠ '"') (notSlash : char ≠ '\\')
    (large : ¬ char.toNat < 32) (rest : List Char) :
    readText (char :: rest) = goOn char (readText rest) := by
  rw [readText.eq_def]
  simp only [notQuote, notSlash, large, if_false]
  cases readText rest <;> rfl

theorem readText_end (rest : List Char) : readText ('"' :: rest) = some ([], rest) := by
  rw [readText.eq_def]
  rfl

/-- One escaped character is read back. -/
theorem readText_escape (char : Char) (rest : List Char) :
    readText (Json.escape char ++ rest) = goOn char (readText rest) := by
  rw [Json.escape]
  split
  · rename_i same
    subst same
    exact readText_short (by decide) (by decide) rest
  split
  · rename_i same
    subst same
    exact readText_short (by decide) (by decide) rest
  split
  · rename_i same
    subst same
    exact readText_short (by decide) (by decide) rest
  split
  · rename_i same
    subst same
    exact readText_short (by decide) (by decide) rest
  split
  · rename_i same
    subst same
    exact readText_short (by decide) (by decide) rest
  split
  · rename_i code
    have same : char = Char.ofNat 8 := by
      rw [← code, Char.ofNat_toNat]
    subst same
    exact readText_short (by decide) (by decide) rest
  split
  · rename_i code
    have same : char = Char.ofNat 12 := by
      rw [← code, Char.ofNat_toNat]
    subst same
    exact readText_short (by decide) (by decide) rest
  split
  · rename_i small
    have units : ∀ code : Fin 32, codeUnit? '0' '0' (Json.hexDigit (code / 16))
        (Json.hexDigit (code % 16)) = some (Char.ofNat code) := by
      decide
    have unit := units ⟨char.toNat, small⟩
    rw [Char.ofNat_toNat] at unit
    exact readText_unit unit rest
  · rename_i notQuote notSlash _ _ _ _ _ large
    exact readText_plain notQuote notSlash large rest

/-- A quoted text is read back. -/
theorem readQuoted_quote (text : String) (rest : List Char) :
    readQuoted (Json.quote text ++ rest) = some (text.toList, rest) := by
  have inside : ∀ chars : List Char,
      readText (chars.flatMap Json.escape ++ ('"' :: rest)) = some (chars, rest) := by
    intro chars
    induction chars with
    | nil => exact readText_end rest
    | cons char chars ih =>
        rw [List.flatMap_cons, List.append_assoc, readText_escape, ih]
        rfl
  have opened : expect '"' (Json.quote text ++ rest) =
      some (text.toList.flatMap Json.escape ++ ('"' :: rest)) := by
    simp [expect, Json.quote, trimLeft]
  rw [readQuoted, opened, Option.bind_some, inside]

/-- A property whose value is a text. -/
def textField (field : String × String) : String × Json := (field.1, .str field.2)

/-- An object of texts. -/
def object (fields : List (String × String)) : Json := .obj (fields.map textField)

variable {numberText : ℚ → String}

theorem expect_colon (rest : List Char) : expect ':' (':' :: rest) = some rest :=
  rfl

/-- Properties with distinct keys are read back, the last one first. -/
theorem readFields_chars {key value : String} {rest : List (String × String)} {seen : List String}
    (distinct : ((key, value) :: rest).Pairwise fun first second => first.1 ≠ second.1)
    (unseen : ∀ field ∈ rest, field.1 ∉ seen) {fuel : Nat} (enough : rest.length < fuel)
    (read : List (String × String)) (tail : List Char) :
    readFields fuel read (Json.quote key ++ (':' :: (Json.quote value ++
      (Json.charsFields numberText (key :: seen) (rest.map textField) ++
        '}' :: tail)))) = some (rest.reverse ++ (key, value) :: read, tail) := by
  induction rest generalizing key value seen fuel read with
  | nil =>
      obtain ⟨fuel, rfl⟩ := Nat.exists_eq_succ_of_ne_zero (Nat.ne_of_gt enough)
      rw [List.map_nil, Json.charsFields, List.nil_append, readFields]
      simp only [readQuoted_quote, expect_colon, Option.bind_eq_bind, Option.bind_some,
        String.ofList_toList]
      rfl
  | cons field rest ih =>
      obtain ⟨nextKey, nextValue⟩ := field
      obtain ⟨fuel, rfl⟩ := Nat.exists_eq_succ_of_ne_zero (Nat.ne_of_gt (Nat.zero_lt_of_lt enough))
      obtain ⟨apart, restDistinct⟩ := List.pairwise_cons.mp distinct
      have fresh : nextKey ∉ key :: seen := by
        intro keyMem
        rcases List.mem_cons.mp keyMem with same | old
        · exact apart (nextKey, nextValue) List.mem_cons_self same.symm
        · exact unseen (nextKey, nextValue) List.mem_cons_self old
      have restUnseen : ∀ field ∈ rest, field.1 ∉ key :: seen := by
        intro field fieldMem keyMem
        rcases List.mem_cons.mp keyMem with same | old
        · exact apart field (List.mem_cons_of_mem _ fieldMem) same.symm
        · exact unseen field (List.mem_cons_of_mem _ fieldMem) old
      have restEq := ih restDistinct restUnseen (Nat.lt_of_succ_lt_succ enough)
        ((key, value) :: read)
      have separator : ∀ rest, trimLeft (',' :: rest) = ',' :: rest := fun _ => rfl
      rw [List.map_cons, textField, Json.charsFields, if_neg fresh, if_neg (List.cons_ne_nil key seen), readFields]
      simp only [readQuoted_quote, expect_colon, Option.bind_eq_bind, Option.bind_some,
        String.ofList_toList, List.append_assoc, List.cons_append, List.nil_append, separator,
        Json.chars, restEq]
      simp

/-- Every property takes a character. -/
theorem length_le_charsFields {fields : List (String × String)} {seen : List String}
    (distinct : fields.Pairwise fun first second => first.1 ≠ second.1)
    (unseen : ∀ field ∈ fields, field.1 ∉ seen) :
    fields.length ≤ (Json.charsFields numberText seen
      (fields.map textField)).length := by
  induction fields generalizing seen with
  | nil => exact Nat.zero_le _
  | cons field rest ih =>
      obtain ⟨key, value⟩ := field
      obtain ⟨apart, restDistinct⟩ := List.pairwise_cons.mp distinct
      have restUnseen : ∀ field ∈ rest, field.1 ∉ key :: seen := by
        intro field fieldMem keyMem
        rcases List.mem_cons.mp keyMem with same | old
        · exact apart field fieldMem same.symm
        · exact unseen field (List.mem_cons_of_mem _ fieldMem) old
      have restLe := ih restDistinct restUnseen
      rw [List.map_cons, textField, Json.charsFields, if_neg (unseen (key, value) List.mem_cons_self)]
      simp only [List.length_append, List.length_cons]
      omega

/-- An object of texts with distinct keys is read back, the last property first. -/
theorem parse_stringify {fields : List (String × String)}
    (distinct : fields.Pairwise fun first second => first.1 ≠ second.1) :
    parse ((object fields).stringify numberText) = some fields.reverse := by
  have opened : ∀ rest, expect '{' ('{' :: rest) = some rest := fun _ => rfl
  rw [parse, Json.stringify, String.toList_ofList, object, Json.chars, List.cons_append, opened,
    Option.bind_eq_bind, Option.bind_some]
  cases fields with
  | nil => rfl
  | cons field rest =>
      obtain ⟨key, value⟩ := field
      obtain ⟨apart, restDistinct⟩ := List.pairwise_cons.mp distinct
      have unseen : ∀ field ∈ rest, field.1 ∉ [key] := by
        intro field fieldMem keyMem
        exact apart field fieldMem (List.mem_singleton.mp keyMem).symm
      have text : Json.charsFields numberText [] (((key, value) :: rest).map textField) ++
          ['}'] = Json.quote key ++ (':' :: (Json.quote value ++
            (Json.charsFields numberText [key] (rest.map textField) ++
              ['}']))) := by
        rw [List.map_cons, textField, Json.charsFields, if_neg List.not_mem_nil, if_pos rfl]
        simp [Json.chars]
      have body : ∀ tail, readObject (Json.quote key ++ tail) =
          readFields (Json.quote key ++ tail).length [] (Json.quote key ++ tail) := fun _ => rfl
      have enough : ∀ tail : List Char, rest.length ≤ tail.length →
          rest.length < (Json.quote key ++ (':' :: (Json.quote value ++ (tail ++ ['}'])))).length := by
        intro tail le
        simp only [List.length_append, List.length_cons]
        omega
      rw [text, body, readFields_chars distinct (fun _ _ => List.not_mem_nil)
        (enough _ (length_le_charsFields restDistinct unseen)) [] [], Option.bind_eq_bind,
        Option.bind_some, List.reverse_cons]
      exact if_pos rfl

end Manbaa.Lib.JsonText
