import Manbaa.Lib.JsonText
import Mathlib.Data.Bool.AllAny

/-!
# Reading JSON texts

A reader of JSON texts, given how the runtime writes and reads the literals of numbers.  White
space may stand between the parts; of the properties with one key, the last one counts, in the
place of the first one.  Escaped halves of surrogate pairs, which `stringify` does not write, are
not read.  What `stringify` writes of a value whose objects have distinct keys is read back.
-/

namespace Manbaa.Lib

namespace Json

mutual

/-- Every object inside of the value has distinct keys, as the objects of the language have. -/
def Distinct : Json → Prop
  | .arr items => DistinctItems items
  | .obj fields => (fields.map Prod.fst).Nodup ∧ DistinctFields fields
  | _ => True

/-- The same of the items of an array. -/
def DistinctItems : List Json → Prop
  | [] => True
  | item :: rest => item.Distinct ∧ DistinctItems rest

/-- The same of the values of properties. -/
def DistinctFields : Fields → Prop
  | [] => True
  | (_, value) :: rest => value.Distinct ∧ DistinctFields rest

end

mutual

/-- The numbers inside of a value. -/
def numbers : Json → List ℚ
  | .num value => [value]
  | .arr items => numbersItems items
  | .obj fields => numbersFields fields
  | _ => []

/-- The numbers inside of the items of an array. -/
def numbersItems : List Json → List ℚ
  | [] => []
  | item :: rest => item.numbers ++ numbersItems rest

/-- The numbers inside of the values of properties. -/
def numbersFields : Fields → List ℚ
  | [] => []
  | (_, value) :: rest => value.numbers ++ numbersFields rest

end

/-- Set a property of an object: in its place, if it is there. -/
def setField (fields : Fields) (key : String) (value : Json) : Fields :=
  if fields.any fun field => field.1 == key then
    fields.map fun field => if field.1 = key then (key, value) else field
  else fields ++ [(key, value)]

/-- The object with properties that are set one after the other. -/
def assemble (fields : Fields) : Fields :=
  fields.foldl (fun object field => setField object field.1 field.2) []

end Json

namespace JsonText

/-- A character of the literal of a number. -/
def isNumberChar (char : Char) : Bool := char.isDigit || ['+', '-', '.', 'e', 'E'].contains char

/-- A character of a literal without quotes. -/
def isLiteralChar (char : Char) : Bool := char.isAlpha || isNumberChar char

/-- Read a literal without quotes, given how the literal of a number is read. -/
def readLiteral (readNumber : String → Option ℚ) (chars : List Char) :
    Option (Json × List Char) :=
  let literal := String.ofList (chars.takeWhile isLiteralChar)
  let rest := chars.dropWhile isLiteralChar
  if literal = "null" then some (.null, rest)
  else if literal = "true" then some (.bool true, rest)
  else if literal = "false" then some (.bool false, rest)
  else (readNumber literal).map fun value => (.num value, rest)

mutual

/-- Read a value, in so many steps at most. -/
def readValue (readNumber : String → Option ℚ) : Nat → List Char → Option (Json × List Char)
  | 0, _ => none
  | fuel + 1, chars =>
      match trimLeft chars with
      | [] => none
      | char :: rest =>
          if char = '"' then
            (readText rest).map fun (text, rest) => (.str (String.ofList text), rest)
          else if char = '[' then
            match expect ']' rest with
            | some rest => some (.arr [], rest)
            | none => (readItems readNumber fuel rest).map fun (items, rest) => (.arr items, rest)
          else if char = '{' then
            match expect '}' rest with
            | some rest => some (.obj [], rest)
            | none => (readMembers readNumber fuel rest).map fun (fields, rest) =>
                (.obj (Json.assemble fields), rest)
          else readLiteral readNumber (char :: rest)

/-- Read the items of an array and its end. -/
def readItems (readNumber : String → Option ℚ) : Nat → List Char → Option (List Json × List Char)
  | 0, _ => none
  | fuel + 1, chars => do
      let (item, rest) ← readValue readNumber fuel chars
      match expect ',' rest with
      | some rest => do
          let (items, rest) ← readItems readNumber fuel rest
          some (item :: items, rest)
      | none => do
          let rest ← expect ']' rest
          some ([item], rest)

/-- Read the properties of an object and its end. -/
def readMembers (readNumber : String → Option ℚ) : Nat → List Char →
    Option (Json.Fields × List Char)
  | 0, _ => none
  | fuel + 1, chars => do
      let (key, rest) ← readQuoted chars
      let rest ← expect ':' rest
      let (value, rest) ← readValue readNumber fuel rest
      match expect ',' rest with
      | some rest => do
          let (fields, rest) ← readMembers readNumber fuel rest
          some ((String.ofList key, value) :: fields, rest)
      | none => do
          let rest ← expect '}' rest
          some ([(String.ofList key, value)], rest)

end

/-- `JSON.parse`, of a text by its characters. -/
def parseValue (readNumber : String → Option ℚ) (chars : List Char) : Option Json := do
  let (value, rest) ← readValue readNumber (chars.length + 1) chars
  if trimLeft rest = [] then some value else none

/-- The runtime reads the numbers that it writes. -/
structure ReadsNumbers (numberText : ℚ → String) (readNumber : String → Option ℚ)
    (isNumber : ℚ → Prop) : Prop where
  nonempty : ∀ value, isNumber value → (numberText value).toList ≠ []
  chars : ∀ value, isNumber value → ∀ char ∈ (numberText value).toList, isNumberChar char = true
  read : ∀ value, isNumber value → readNumber (numberText value) = some value

example : parseValue (fun _ => none) "\x7b\"a\": [\x7b\"b\": null\x7d], \"a\": true\x7d".toList =
    some (.obj [("a", .bool true)]) := by
  decide +kernel

variable {numberText : ℚ → String} {readNumber : String → Option ℚ} {isNumber : ℚ → Prop}
  {rest : List Char} {fuel : Nat}

/-! ## Literals are read back -/

/-- No literal goes on here. -/
def Ends (rest : List Char) : Prop := ∀ char ∈ rest.head?, isLiteralChar char = false

theorem ends_cons {char : Char} (ends : isLiteralChar char = false) : Ends (char :: rest) := by
  intro other mem
  cases mem
  exact ends

/-- A literal is as long as its characters go. -/
theorem takeWhile_literal {literal : List Char}
    (all : ∀ char ∈ literal, isLiteralChar char = true) (ends : Ends rest) :
    (literal ++ rest).takeWhile isLiteralChar = literal ∧
      (literal ++ rest).dropWhile isLiteralChar = rest := by
  induction literal with
  | nil =>
      cases rest with
      | nil => exact ⟨rfl, rfl⟩
      | cons char rest =>
          have stop := ends char rfl
          exact ⟨by rw [List.nil_append, List.takeWhile_cons_of_neg (by simp [stop])],
            by rw [List.nil_append, List.dropWhile_cons_of_neg (by simp [stop])]⟩
  | cons char literal ih =>
      have own := all char (List.mem_cons_self ..)
      obtain ⟨taken, dropped⟩ := ih fun other mem => all other (List.mem_cons_of_mem _ mem)
      rw [List.cons_append, List.takeWhile_cons_of_pos own, List.dropWhile_cons_of_pos own, taken,
        dropped]
      exact ⟨rfl, rfl⟩

/-- What is read of a literal. -/
theorem readLiteral_append {literal : String}
    (all : ∀ char ∈ literal.toList, isLiteralChar char = true) (ends : Ends rest) :
    readLiteral readNumber (literal.toList ++ rest) =
      if literal = "null" then some (.null, rest)
      else if literal = "true" then some (.bool true, rest)
      else if literal = "false" then some (.bool false, rest)
      else (readNumber literal).map fun value => (.num value, rest) := by
  obtain ⟨taken, dropped⟩ := takeWhile_literal all ends
  rw [readLiteral, taken, dropped, String.ofList_toList]

/-- White space does not begin with a character of a literal. -/
theorem trimLeft_literal {char : Char} (isLiteral : isLiteralChar char = true) :
    trimLeft (char :: rest) = char :: rest := by
  rw [trimLeft, List.dropWhile_cons_of_neg]
  intro space
  have spaces : ∀ other ∈ [' ', '\n', '\r', '\t'], isLiteralChar other = false :=
    List.all_iff_forall_prop.mp (by decide)
  rw [spaces char (List.contains_iff_mem.mp space)] at isLiteral
  cases isLiteral

/-- A literal is read as a value. -/
theorem readValue_literal {literal : String} (nonempty : literal.toList ≠ [])
    (all : ∀ char ∈ literal.toList, isLiteralChar char = true) :
    readValue readNumber (fuel + 1) (literal.toList ++ rest) =
      readLiteral readNumber (literal.toList ++ rest) := by
  obtain ⟨char, others, split⟩ := List.exists_cons_of_ne_nil nonempty
  have isLiteral := all char (by rw [split]; exact List.mem_cons_self ..)
  have notOther : ∀ other ∈ ['"', '[', '{'], char ≠ other := by
    have others : ∀ other ∈ ['"', '[', '{'], isLiteralChar other = false :=
      List.all_iff_forall_prop.mp (by decide)
    intro other mem same
    rw [← same] at mem
    rw [others char mem] at isLiteral
    cases isLiteral
  rw [split, List.cons_append, readValue, trimLeft_literal isLiteral]
  simp only
  rw [if_neg (notOther '"' (by decide)), if_neg (notOther '[' (by decide)),
    if_neg (notOther '{' (by decide))]

theorem isLiteralChar_of_number {char : Char} (isNumber : isNumberChar char = true) :
    isLiteralChar char = true := by
  rw [isLiteralChar, isNumber, Bool.or_true]

/-- The literal of a number is none of the words. -/
theorem ne_word_of_number {literal word : String}
    (all : ∀ char ∈ literal.toList, isNumberChar char = true)
    (other : ∃ char ∈ word.toList, isNumberChar char = false) : literal ≠ word := by
  rintro rfl
  obtain ⟨char, mem, notNumber⟩ := other
  rw [all char mem] at notNumber
  cases notNumber

/-- The literal of a number is read back. -/
theorem readValue_number (reads : ReadsNumbers numberText readNumber isNumber) {value : ℚ}
    (number : isNumber value) (ends : Ends rest) :
    readValue readNumber (fuel + 1) ((numberText value).toList ++ rest) =
      some (.num value, rest) := by
  have all := reads.chars value number
  have literal := fun char mem => isLiteralChar_of_number (all char mem)
  have notNull : numberText value ≠ "null" :=
    ne_word_of_number all ⟨'n', by decide +kernel, by decide⟩
  have notTrue : numberText value ≠ "true" :=
    ne_word_of_number all ⟨'t', by decide +kernel, by decide⟩
  have notFalse : numberText value ≠ "false" :=
    ne_word_of_number all ⟨'f', by decide +kernel, by decide⟩
  rw [readValue_literal (reads.nonempty value number) literal, readLiteral_append literal ends,
    if_neg notNull, if_neg notTrue, if_neg notFalse, reads.read value number, Option.map_some]

/-! ## Arrays and objects -/

/-- Items with commas between them. -/
def itemsText (numberText : ℚ → String) : List Json → List Char
  | [] => []
  | item :: rest => item.chars numberText ++
      if rest = [] then [] else ',' :: itemsText numberText rest

/-- Properties with commas between them. -/
def membersText (numberText : ℚ → String) : Json.Fields → List Char
  | [] => []
  | (key, value) :: rest => Json.quote key ++ ':' :: (value.chars numberText ++
      if rest = [] then [] else ',' :: membersText numberText rest)

theorem charsItems_eq {items : List Json} (first : Bool) (nonempty : items ≠ []) :
    Json.charsItems numberText first items =
      (if first then [] else [',']) ++ itemsText numberText items := by
  induction items generalizing first with
  | nil => exact absurd rfl nonempty
  | cons item rest ih =>
      rw [Json.charsItems, itemsText]
      by_cases last : rest = []
      · rw [last, Json.charsItems, if_pos rfl, List.append_assoc]
      · rw [ih false last, if_neg last, List.append_assoc]
        rfl

/-- Properties with distinct keys are all visible. -/
theorem charsFields_eq {fields : Json.Fields} {seen : List String} (nonempty : fields ≠ [])
    (distinct : (fields.map Prod.fst).Nodup) (unseen : ∀ key ∈ fields.map Prod.fst, key ∉ seen) :
    Json.charsFields numberText seen fields =
      (if seen = [] then [] else [',']) ++ membersText numberText fields := by
  induction fields generalizing seen with
  | nil => exact absurd rfl nonempty
  | cons field rest ih =>
      obtain ⟨key, value⟩ := field
      rw [List.map_cons, List.nodup_cons] at distinct
      rw [Json.charsFields, if_neg (unseen key (List.mem_cons_self ..)), membersText]
      by_cases last : rest = []
      · rw [last, Json.charsFields, if_pos rfl]
        simp
      · have later : ∀ other ∈ rest.map Prod.fst, other ∉ key :: seen := by
          intro other mem inSeen
          rcases List.mem_cons.mp inSeen with rfl | old
          · exact distinct.1 mem
          · exact unseen other (List.mem_cons_of_mem _ mem) old
        rw [ih last distinct.2 later, if_neg (List.cons_ne_nil key seen), if_neg last]
        simp

/-- Properties with distinct keys are set one after the other. -/
theorem assemble_eq {fields : Json.Fields} (distinct : (fields.map Prod.fst).Nodup) :
    Json.assemble fields = fields := by
  have onTop : ∀ object : Json.Fields, ((object ++ fields).map Prod.fst).Nodup →
      fields.foldl (fun object field => Json.setField object field.1 field.2) object =
        object ++ fields := by
    clear distinct
    induction fields with
    | nil => exact fun object _ => (List.append_nil object).symm
    | cons field rest ih =>
        intro object distinct
        have absent : (object.any fun other => other.1 == field.1) = false := by
          rw [List.map_append, List.map_cons, List.nodup_append] at distinct
          rw [List.any_eq_false]
          intro other otherMem same
          exact distinct.2.2 other.1 (List.mem_map_of_mem otherMem) field.1
            (List.mem_cons_self ..) (beq_iff_eq.mp same)
        rw [List.foldl_cons, Json.setField, absent, if_neg Bool.false_ne_true, ih _ ?_,
          List.append_assoc, List.singleton_append]
        rw [List.append_assoc, List.singleton_append]
        exact distinct
  exact onTop [] distinct

/-! ## Values are read back -/

/-- A character with which a value begins. -/
def Begins (char : Char) : Prop :=
  char = '"' ∨ char = '[' ∨ char = '{' ∨ isLiteralChar char = true

/-- White space does not begin with it, and the end of an array or an object neither. -/
theorem expect_of_begins {char wanted : Char} (begins : Begins char)
    (isEnd : wanted = ']' ∨ wanted = '}') : expect wanted (char :: rest) = none := by
  have trimmed : trimLeft (char :: rest) = char :: rest := by
    rcases begins with rfl | rfl | rfl | isLiteral
    · rfl
    · rfl
    · rfl
    · exact trimLeft_literal isLiteral
  have other : char ≠ wanted := by
    rintro rfl
    rcases isEnd with rfl | rfl <;> exact absurd begins (by unfold Begins; decide)
  rw [expect, trimmed]
  exact if_neg other

/-- A value begins with such a character. -/
theorem exists_begins (reads : ReadsNumbers numberText readNumber isNumber) {value : Json}
    (numbers : ∀ number ∈ value.numbers, isNumber number) :
    ∃ char others, value.chars numberText = char :: others ∧ Begins char := by
  cases value with
  | null => exact ⟨'n', _, rfl, Or.inr (Or.inr (Or.inr (by decide)))⟩
  | bool value =>
      cases value with
      | true => exact ⟨'t', _, rfl, Or.inr (Or.inr (Or.inr (by decide)))⟩
      | false => exact ⟨'f', _, rfl, Or.inr (Or.inr (Or.inr (by decide)))⟩
  | num value =>
      have number := numbers value (List.mem_singleton.mpr rfl)
      obtain ⟨char, others, split⟩ := List.exists_cons_of_ne_nil (reads.nonempty value number)
      refine ⟨char, others, split, Or.inr (Or.inr (Or.inr (isLiteralChar_of_number ?_)))⟩
      exact reads.chars value number char (by rw [split]; exact List.mem_cons_self ..)
  | str text => exact ⟨'"', _, rfl, Or.inl rfl⟩
  | arr items => exact ⟨'[', _, rfl, Or.inr (Or.inl rfl)⟩
  | obj fields => exact ⟨'{', _, rfl, Or.inr (Or.inr (Or.inl rfl))⟩

/-- A text is read as a value. -/
theorem readValue_quote (text : String) :
    readValue readNumber (fuel + 1) (Json.quote text ++ rest) = some (.str text, rest) := by
  have inside : readText (text.toList.flatMap Json.escape ++ ['"'] ++ rest) =
      some (text.toList, rest) := readQuoted_quote text rest
  have read : readValue readNumber (fuel + 1) (Json.quote text ++ rest) =
      (readText (text.toList.flatMap Json.escape ++ ['"'] ++ rest)).map fun found =>
        (.str (String.ofList found.1), found.2) := by
    rw [Json.quote, List.cons_append, List.cons_append, readValue]
    rfl
  rw [read, inside]
  exact congrArg (fun text => some (Json.str text, rest)) String.ofList_toList

/-- An array that does not end at once. -/
theorem readValue_array (opened : expect ']' rest = none) :
    readValue readNumber (fuel + 1) ('[' :: rest) =
      (readItems readNumber fuel rest).map fun found => (.arr found.1, found.2) := by
  have trimmed : trimLeft ('[' :: rest) = '[' :: rest := rfl
  rw [readValue, trimmed]
  simp only [Char.reduceEq, if_false, if_true, opened]

/-- An object that does not end at once. -/
theorem readValue_object (opened : expect '}' rest = none) :
    readValue readNumber (fuel + 1) ('{' :: rest) =
      (readMembers readNumber fuel rest).map fun found =>
        (.obj (Json.assemble found.1), found.2) := by
  have trimmed : trimLeft ('{' :: rest) = '{' :: rest := rfl
  rw [readValue, trimmed]
  simp only [Char.reduceEq, if_false, if_true, opened]

/-- An array is read by its items. -/
theorem readValue_items (reads : ReadsNumbers numberText readNumber isNumber) {items : List Json}
    (numbers : ∀ number ∈ Json.numbersItems items, isNumber number)
    (itemsRead : items ≠ [] → readItems readNumber fuel
      (itemsText numberText items ++ ']' :: rest) = some (items, rest)) :
    readValue readNumber (fuel + 1) ((Json.arr items).chars numberText ++ rest) =
      some (.arr items, rest) := by
  by_cases nonempty : items = []
  · subst items
    rfl
  · have text : (Json.arr items).chars numberText ++ rest =
        '[' :: (itemsText numberText items ++ ']' :: rest) := by
      rw [Json.chars, charsItems_eq true nonempty]
      simp
    have opened : expect ']' (itemsText numberText items ++ ']' :: rest) = none := by
      obtain ⟨item, others, rfl⟩ := List.exists_cons_of_ne_nil nonempty
      obtain ⟨char, chars, charsEq, begins⟩ := exists_begins reads fun number mem =>
        numbers number (List.mem_append_left _ mem)
      rw [itemsText, charsEq, List.cons_append, List.cons_append]
      exact expect_of_begins begins (Or.inl rfl)
    rw [text, readValue_array opened, itemsRead nonempty]
    rfl

/-- An object is read by its properties. -/
theorem readValue_members {fields : Json.Fields} (distinct : (fields.map Prod.fst).Nodup)
    (membersRead : fields ≠ [] → readMembers readNumber fuel
      (membersText numberText fields ++ '}' :: rest) = some (fields, rest)) :
    readValue readNumber (fuel + 1) ((Json.obj fields).chars numberText ++ rest) =
      some (.obj fields, rest) := by
  by_cases nonempty : fields = []
  · subst fields
    rfl
  · have text : (Json.obj fields).chars numberText ++ rest =
        '{' :: (membersText numberText fields ++ '}' :: rest) := by
      rw [Json.chars, charsFields_eq nonempty distinct fun _ _ => List.not_mem_nil, if_pos rfl]
      simp
    have opened : expect '}' (membersText numberText fields ++ '}' :: rest) = none := by
      obtain ⟨field, others, rfl⟩ := List.exists_cons_of_ne_nil nonempty
      rw [membersText, Json.quote]
      exact expect_of_begins (Or.inl rfl) (Or.inr rfl)
    rw [text, readValue_object opened, membersRead nonempty]
    exact congrArg (fun fields => some (Json.obj fields, rest)) (assemble_eq distinct)

/-- What follows an item or a property. -/
theorem ends_after (end_ : Char) (isEnd : end_ = ']' ∨ end_ = '}') (more : List Char) (last : Prop)
    [Decidable last] : Ends ((if last then [] else ',' :: more) ++ end_ :: rest) := by
  split
  · rcases isEnd with rfl | rfl
    · exact ends_cons (by decide)
    · exact ends_cons (by decide)
  · exact ends_cons (by decide)

/-- A word is read back. -/
theorem readValue_of_word {word : String} {value : Json} {chars : List Char}
    (is : word.toList = chars) (nonempty : chars ≠ [])
    (all : ∀ char ∈ word.toList, isLiteralChar char = true)
    (read : readLiteral readNumber (word.toList ++ rest) = some (value, rest))
    (enough : chars.length ≤ fuel) :
    readValue readNumber fuel (chars ++ rest) = some (value, rest) := by
  subst is
  have positive := List.length_pos_of_ne_nil nonempty
  obtain ⟨fuel, rfl⟩ := Nat.exists_eq_succ_of_ne_zero (by omega : fuel ≠ 0)
  rw [readValue_literal nonempty all, read]

mutual

/-- A value is read back, where no literal goes on after it. -/
theorem readValue_chars (reads : ReadsNumbers numberText readNumber isNumber) :
    ∀ (value : Json), value.Distinct → (∀ number ∈ value.numbers, isNumber number) →
    ∀ (fuel : Nat) (rest : List Char), (value.chars numberText).length ≤ fuel → Ends rest →
      readValue readNumber fuel (value.chars numberText ++ rest) = some (value, rest)
  | .null, _, _, fuel, rest, enough, ends => by
      have is : "null".toList = ['n', 'u', 'l', 'l'] := by decide +kernel
      have all : ∀ char ∈ "null".toList, isLiteralChar char = true :=
        List.all_iff_forall_prop.mp (by decide +kernel)
      have read : readLiteral readNumber ("null".toList ++ rest) = some (.null, rest) := by
        rw [readLiteral_append all ends, if_pos rfl]
      exact readValue_of_word is (List.cons_ne_nil _ _) all read enough
  | .bool true, _, _, fuel, rest, enough, ends => by
      have is : "true".toList = ['t', 'r', 'u', 'e'] := by decide +kernel
      have all : ∀ char ∈ "true".toList, isLiteralChar char = true :=
        List.all_iff_forall_prop.mp (by decide +kernel)
      have read : readLiteral readNumber ("true".toList ++ rest) = some (.bool true, rest) := by
        rw [readLiteral_append all ends, if_neg (by decide), if_pos rfl]
      exact readValue_of_word is (List.cons_ne_nil _ _) all read enough
  | .bool false, _, _, fuel, rest, enough, ends => by
      have is : "false".toList = ['f', 'a', 'l', 's', 'e'] := by decide +kernel
      have all : ∀ char ∈ "false".toList, isLiteralChar char = true :=
        List.all_iff_forall_prop.mp (by decide +kernel)
      have read : readLiteral readNumber ("false".toList ++ rest) = some (.bool false, rest) := by
        rw [readLiteral_append all ends, if_neg (by decide), if_neg (by decide), if_pos rfl]
      exact readValue_of_word is (List.cons_ne_nil _ _) all read enough
  | .num value, _, numbers, fuel, rest, enough, ends => by
      have number := numbers value (List.mem_singleton.mpr rfl)
      have positive := List.length_pos_of_ne_nil (reads.nonempty value number)
      rw [Json.chars] at enough ⊢
      obtain ⟨fuel, rfl⟩ := Nat.exists_eq_succ_of_ne_zero (by omega : fuel ≠ 0)
      exact readValue_number reads number ends
  | .str text, _, _, fuel, rest, enough, _ => by
      rw [Json.chars] at enough ⊢
      have positive : 0 < (Json.quote text).length := Nat.zero_lt_succ _
      obtain ⟨fuel, rfl⟩ := Nat.exists_eq_succ_of_ne_zero (by omega : fuel ≠ 0)
      exact readValue_quote text
  | .arr items, distinct, numbers, fuel, rest, enough, _ => by
      rw [Json.chars, List.length_append, List.length_cons, List.length_singleton] at enough
      obtain ⟨fuel, rfl⟩ := Nat.exists_eq_succ_of_ne_zero (by omega : fuel ≠ 0)
      apply readValue_items reads numbers
      intro nonempty
      rw [charsItems_eq true nonempty, if_pos rfl, List.nil_append] at enough
      exact readItems_chars reads items distinct numbers nonempty fuel rest (by omega)
  | .obj fields, distinct, numbers, fuel, rest, enough, _ => by
      rw [Json.chars, List.length_append, List.length_cons, List.length_singleton] at enough
      obtain ⟨fuel, rfl⟩ := Nat.exists_eq_succ_of_ne_zero (by omega : fuel ≠ 0)
      apply readValue_members distinct.1
      intro nonempty
      rw [charsFields_eq nonempty distinct.1 fun _ _ => List.not_mem_nil, if_pos rfl,
        List.nil_append] at enough
      exact readMembers_chars reads fields distinct.2 numbers nonempty fuel rest (by omega)

/-- The items of an array are read back. -/
theorem readItems_chars (reads : ReadsNumbers numberText readNumber isNumber) :
    ∀ (items : List Json), Json.DistinctItems items →
    (∀ number ∈ Json.numbersItems items, isNumber number) → items ≠ [] →
    ∀ (fuel : Nat) (rest : List Char), (itemsText numberText items).length + 1 ≤ fuel →
      readItems readNumber fuel (itemsText numberText items ++ ']' :: rest) = some (items, rest)
  | [], _, _, nonempty, _, _, _ => absurd rfl nonempty
  | item :: later, distinct, numbers, _, fuel, rest, enough => by
      obtain ⟨fuel, rfl⟩ := Nat.exists_eq_succ_of_ne_zero (by omega : fuel ≠ 0)
      rw [itemsText, List.length_append] at enough
      have itemRead := readValue_chars reads item distinct.1
        (fun number mem => numbers number (List.mem_append_left _ mem)) fuel
        ((if later = [] then [] else ',' :: itemsText numberText later) ++ ']' :: rest)
        (by omega) (ends_after ']' (Or.inl rfl) _ _)
      rw [itemsText, List.append_assoc, readItems, itemRead, Option.bind_eq_bind,
        Option.bind_some]
      by_cases last : later = []
      · subst later
        rfl
      · have laterRead := readItems_chars reads later distinct.2
          (fun number mem => numbers number (List.mem_append_right _ mem)) last fuel rest
          (by rw [if_neg last, List.length_cons] at enough; omega)
        have comma : expect ',' (',' :: (itemsText numberText later ++ ']' :: rest)) =
            some (itemsText numberText later ++ ']' :: rest) := rfl
        rw [if_neg last, List.cons_append]
        simp only [comma, laterRead, Option.bind_eq_bind, Option.bind_some]

/-- The properties of an object are read back. -/
theorem readMembers_chars (reads : ReadsNumbers numberText readNumber isNumber) :
    ∀ (fields : Json.Fields), Json.DistinctFields fields →
    (∀ number ∈ Json.numbersFields fields, isNumber number) → fields ≠ [] →
    ∀ (fuel : Nat) (rest : List Char), (membersText numberText fields).length + 1 ≤ fuel →
      readMembers readNumber fuel (membersText numberText fields ++ '}' :: rest) =
        some (fields, rest)
  | [], _, _, nonempty, _, _, _ => absurd rfl nonempty
  | (key, value) :: later, distinct, numbers, _, fuel, rest, enough => by
      obtain ⟨fuel, rfl⟩ := Nat.exists_eq_succ_of_ne_zero (by omega : fuel ≠ 0)
      rw [membersText, List.length_append, List.length_cons, List.length_append] at enough
      have valueRead := readValue_chars reads value distinct.1
        (fun number mem => numbers number (List.mem_append_left _ mem)) fuel
        ((if later = [] then [] else ',' :: membersText numberText later) ++ '}' :: rest)
        (by omega) (ends_after '}' (Or.inr rfl) _ _)
      rw [membersText, List.append_assoc, List.cons_append, List.append_assoc, readMembers,
        readQuoted_quote, Option.bind_eq_bind, Option.bind_some]
      simp only [expect_colon, valueRead, Option.bind_eq_bind, Option.bind_some,
        String.ofList_toList]
      by_cases last : later = []
      · subst later
        rfl
      · have laterRead := readMembers_chars reads later distinct.2
          (fun number mem => numbers number (List.mem_append_right _ mem)) last fuel rest
          (by rw [if_neg last, List.length_cons] at enough; omega)
        have comma : expect ',' (',' :: (membersText numberText later ++ '}' :: rest)) =
            some (membersText numberText later ++ '}' :: rest) := rfl
        rw [if_neg last, List.cons_append]
        simp only [comma, laterRead, Option.bind_some]

end

/-- **A value is read back** from the text that is written of it, if its objects have distinct
keys. -/
theorem parseValue_chars (reads : ReadsNumbers numberText readNumber isNumber) {value : Json}
    (distinct : value.Distinct) (numbers : ∀ number ∈ value.numbers, isNumber number) :
    parseValue readNumber (value.chars numberText) = some value := by
  have read := readValue_chars reads value distinct numbers
    ((value.chars numberText).length + 1) [] (Nat.le_succ _) fun char mem => by cases mem
  rw [List.append_nil] at read
  rw [parseValue, read, Option.bind_eq_bind, Option.bind_some]
  exact if_pos rfl

end JsonText

end Manbaa.Lib
