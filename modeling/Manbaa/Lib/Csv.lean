import Mathlib.Data.List.Forall2
import Mathlib.Data.List.TakeWhile

/-!
# Comma-separated values

The grammar of records separated by line feeds and of fields separated by commas.  A field in
quotes may hold any character, a quote being written twice; a field without quotes holds none of
the four characters that have a meaning.  A reader is shown to read what the grammar derives and
nothing else, so a text has one reading, up to a line feed at its end.
-/

namespace Manbaa.Lib.Csv

/-- A character without a meaning of its own. -/
def isTextData (char : Char) : Bool := !(['"', ',', '\r', '\n'].contains char)

/-! ## The grammar -/

/-- The rest of a field in quotes stands at the front of a text, with what comes after it. -/
inductive Escaped : List Char → List Char → List Char → Prop where
  | done (rest : List Char) : Escaped ('"' :: rest) [] rest
  | quote {text value rest : List Char} (more : Escaped text value rest) :
      Escaped ('"' :: '"' :: text) ('"' :: value) rest
  | char {char : Char} {text value rest : List Char} (ne : char ≠ '"')
      (more : Escaped text value rest) : Escaped (char :: text) (char :: value) rest

/-- A field stands at the front of a text. -/
inductive Field : List Char → List Char → List Char → Prop where
  | escaped {text value rest : List Char} (inside : Escaped text value rest) :
      Field ('"' :: text) value rest
  | plain {value : List Char} (isData : ∀ char ∈ value, isTextData char = true)
      (rest : List Char) : Field (value ++ rest) value rest

/-- A record stands at the front of a text. -/
inductive Record : List Char → List (List Char) → List Char → Prop where
  | last {text value rest : List Char} (field : Field text value rest) : Record text [value] rest
  | more {text value next rest : List Char} {values : List (List Char)}
      (field : Field text value (',' :: next)) (others : Record next values rest) :
      Record text (value :: values) rest

/-- A text is a file of records; a line feed may end it. -/
inductive File : List Char → List (List (List Char)) → Prop where
  | last {text : List Char} {values : List (List Char)} (record : Record text values []) :
      File text [values]
  | ended {text : List Char} {values : List (List Char)} (record : Record text values ['\n']) :
      File text [values]
  | more {text next : List Char} {values : List (List Char)} {records : List (List (List Char))}
      (record : Record text values ('\n' :: next)) (others : File next records) :
      File text (values :: records)

/-! ## The reader -/

/-- Read the rest of a field in quotes, given whether the character before is a quote that may end
it. -/
def readEscaped : Bool → List Char → Option (List Char × List Char)
  | false, [] => none
  | true, [] => some ([], [])
  | false, char :: rest =>
      if char = '"' then readEscaped true rest
      else (readEscaped false rest).map fun found => (char :: found.1, found.2)
  | true, char :: rest =>
      if char = '"' then (readEscaped false rest).map fun found => ('"' :: found.1, found.2)
      else some ([], char :: rest)

/-- Read a field. -/
def readField (chars : List Char) : Option (List Char × List Char) :=
  if chars.head? = some '"' then readEscaped false chars.tail
  else some (chars.takeWhile isTextData, chars.dropWhile isTextData)

/-- Read a record. -/
def readRecord : Nat → List Char → Option (List (List Char) × List Char)
  | 0, _ => none
  | fuel + 1, chars => (readField chars).bind fun found =>
      if found.2.head? = some ',' then
        (readRecord fuel found.2.tail).map fun others => (found.1 :: others.1, others.2)
      else some ([found.1], found.2)

/-- Read the records of a file. -/
def readRecords : Nat → List Char → Option (List (List (List Char)))
  | 0, _ => none
  | fuel + 1, chars => (readRecord (chars.length + 1) chars).bind fun found =>
      if found.2 = [] ∨ found.2 = ['\n'] then some [found.1]
      else if found.2.head? = some '\n' then
        (readRecords fuel found.2.tail).map fun records => found.1 :: records
      else none

/-- Read a file. -/
def parse (chars : List Char) : Option (List (List (List Char))) :=
  readRecords (chars.length + 1) chars

variable {text value rest next : List Char} {values : List (List Char)}
  {records : List (List (List Char))} {fuel : Nat}

/-! ## What is derived is read -/

/-- What comes after a field begins with a separator, if there is any. -/
def Delimited (rest : List Char) : Prop := ∀ char ∈ rest.head?, char = ',' ∨ char = '\n'

theorem readEscaped_of_escaped (escaped : Escaped text value rest) (delimited : Delimited rest) :
    readEscaped false text = some (value, rest) := by
  induction escaped with
  | done rest =>
      rw [readEscaped, if_pos rfl]
      cases rest with
      | nil => rfl
      | cons next later =>
          have notQuote : next ≠ '"' := by
            rintro rfl
            rcases delimited '"' rfl with same | same <;> cases same
          rw [readEscaped, if_neg notQuote]
  | quote more ih =>
      rw [readEscaped, if_pos rfl, readEscaped, if_pos rfl, ih delimited]
      rfl
  | char ne more ih =>
      rw [readEscaped, if_neg ne, ih delimited]
      rfl

theorem readField_of_field (field : Field text value rest) (delimited : Delimited rest) :
    readField text = some (value, rest) := by
  cases field with
  | escaped inside => exact readEscaped_of_escaped inside delimited
  | plain isData =>
      have notData : ∀ char ∈ rest.head?, isTextData char = false := by
        intro char mem
        rcases delimited char mem with rfl | rfl <;> rfl
      have noQuote : (value ++ rest).head? ≠ some '"' := by
        intro isQuote
        cases value with
        | nil => rcases delimited '"' isQuote with same | same <;> cases same
        | cons char value =>
            cases isQuote
            cases isData '"' (List.mem_cons_self ..)
      have stops : rest.takeWhile isTextData = [] ∧ rest.dropWhile isTextData = rest := by
        cases rest with
        | nil => exact ⟨rfl, rfl⟩
        | cons char rest =>
            have isOther := notData char rfl
            exact ⟨List.takeWhile_cons_of_neg (by rw [isOther]; exact Bool.false_ne_true),
              List.dropWhile_cons_of_neg (by rw [isOther]; exact Bool.false_ne_true)⟩
      rw [readField, if_neg noQuote, List.takeWhile_append_of_pos isData,
        List.dropWhile_append_of_pos isData, stops.1, stops.2, List.append_nil]

theorem Escaped.split (escaped : Escaped text value rest) : ∃ front, text = front ++ rest := by
  induction escaped with
  | done rest => exact ⟨['"'], rfl⟩
  | quote more ih =>
      obtain ⟨front, rfl⟩ := ih
      exact ⟨'"' :: '"' :: front, rfl⟩
  | @char char _ _ _ ne more ih =>
      obtain ⟨front, rfl⟩ := ih
      exact ⟨char :: front, rfl⟩

theorem Field.split (field : Field text value rest) : ∃ front, text = front ++ rest := by
  cases field with
  | escaped inside =>
      obtain ⟨front, rfl⟩ := inside.split
      exact ⟨'"' :: front, rfl⟩
  | plain isData => exact ⟨value, rfl⟩

theorem Record.split (record : Record text values rest) : ∃ front, text = front ++ rest := by
  induction record with
  | last field => exact field.split
  | more field others ih =>
      obtain ⟨back, rfl⟩ := ih
      obtain ⟨front, rfl⟩ := field.split
      exact ⟨front ++ ',' :: back, by rw [List.append_assoc, List.cons_append]⟩

theorem exists_succ_of_lt {least : Nat} (enough : least < fuel) : ∃ less, fuel = less + 1 :=
  Nat.exists_eq_add_one_of_ne_zero (Nat.ne_of_gt (Nat.zero_lt_of_lt enough))

theorem readRecord_of_record (record : Record text values rest)
    (ends : ∀ char ∈ rest.head?, char = '\n') (enough : text.length < fuel) :
    readRecord fuel text = some (values, rest) := by
  induction record generalizing fuel with
  | @last text value rest field =>
      obtain ⟨fuel, rfl⟩ := exists_succ_of_lt enough
      have noComma : rest.head? ≠ some ',' := fun isComma => by cases ends ',' isComma
      rw [readRecord, readField_of_field field fun char mem => Or.inr (ends char mem),
        Option.bind_some, if_neg noComma]
  | @more text value next rest values field others ih =>
      obtain ⟨fuel, rfl⟩ := exists_succ_of_lt enough
      obtain ⟨front, split⟩ := field.split
      have shorter : next.length < fuel := by
        rw [split, List.length_append, List.length_cons] at enough
        omega
      have delimited : Delimited (',' :: next) := by
        intro char mem
        cases mem
        exact Or.inl rfl
      have comma : (',' :: next).head? = some ',' := rfl
      rw [readRecord, readField_of_field field delimited, Option.bind_some, if_pos comma,
        List.tail_cons, ih ends shorter]
      rfl

theorem readRecords_of_file (file : File text records) (open_ : ∀ front, text ≠ front ++ ['\n'])
    (enough : text.length < fuel) : readRecords fuel text = some records := by
  induction file generalizing fuel with
  | @last text values record =>
      obtain ⟨fuel, rfl⟩ := exists_succ_of_lt enough
      rw [readRecords, readRecord_of_record record (fun char mem => (by cases mem))
        (Nat.lt_succ_self _), Option.bind_some, if_pos (Or.inl rfl)]
  | ended record =>
      obtain ⟨front, split⟩ := record.split
      exact absurd split (open_ front)
  | @more text next values records record others ih =>
      obtain ⟨fuel, rfl⟩ := exists_succ_of_lt enough
      obtain ⟨front, split⟩ := record.split
      have shorter : next.length < fuel := by
        rw [split, List.length_append, List.length_cons] at enough
        omega
      have stillOpen : ∀ front, next ≠ front ++ ['\n'] := by
        rintro inner rfl
        exact open_ (front ++ '\n' :: inner) (by rw [split, List.append_assoc, List.cons_append])
      have notEmpty : next ≠ [] := by
        rintro rfl
        exact open_ front split
      have notLast : ¬ ('\n' :: next = [] ∨ '\n' :: next = ['\n']) := by
        rintro (isNil | isEnd)
        · cases isNil
        · exact notEmpty (List.cons.inj isEnd).2
      have read := readRecord_of_record record (fun char mem => by cases mem; rfl)
        (Nat.lt_succ_self text.length)
      have lineFeed : ('\n' :: next).head? = some '\n' := rfl
      rw [readRecords, read, Option.bind_some, if_neg notLast, if_pos lineFeed, List.tail_cons,
        ih stillOpen shorter]
      rfl

/-! ## What is read is derived -/

theorem escaped_of_readEscaped : ∀ {text : List Char} {value rest : List Char},
    readEscaped false text = some (value, rest) → Escaped text value rest
  | [], _, _, read => by cases read
  | char :: text, value, rest, read => by
      rw [readEscaped] at read
      split at read
      · rename_i isQuote
        subst isQuote
        cases text with
        | nil =>
            cases read
            exact Escaped.done []
        | cons next text =>
            rw [readEscaped] at read
            split at read
            · rename_i isQuote
              subst isQuote
              obtain ⟨found, later, same⟩ := Option.map_eq_some_iff.mp read
              cases same
              exact Escaped.quote (escaped_of_readEscaped later)
            · cases read
              exact Escaped.done _
      · rename_i ne
        obtain ⟨found, later, same⟩ := Option.map_eq_some_iff.mp read
        cases same
        exact Escaped.char ne (escaped_of_readEscaped later)

theorem field_of_readField (read : readField text = some (value, rest)) :
    Field text value rest := by
  rw [readField] at read
  split at read
  · rename_i isQuote
    cases text with
    | nil => cases isQuote
    | cons char text =>
        cases isQuote
        exact Field.escaped (escaped_of_readEscaped read)
  · cases read
    have isData : ∀ char ∈ text.takeWhile isTextData, isTextData char = true :=
      fun char mem => List.mem_takeWhile_imp mem
    have field := Field.plain isData (text.dropWhile isTextData)
    rwa [List.takeWhile_append_dropWhile] at field

theorem eq_cons_of_head? {char : Char} (head : rest.head? = some char) :
    rest = char :: rest.tail := by
  cases rest with
  | nil => cases head
  | cons first rest =>
      cases head
      rfl

theorem record_of_readRecord (read : readRecord fuel text = some (values, rest)) :
    Record text values rest := by
  induction fuel generalizing text values with
  | zero => cases read
  | succ fuel ih =>
      rw [readRecord] at read
      obtain ⟨found, fieldRead, others⟩ := Option.bind_eq_some_iff.mp read
      have field := field_of_readField fieldRead
      split at others
      · rename_i comma
        obtain ⟨later, laterRead, same⟩ := Option.map_eq_some_iff.mp others
        cases same
        rw [eq_cons_of_head? comma] at field
        exact Record.more field (ih laterRead)
      · cases others
        exact Record.last field

theorem file_of_readRecords (read : readRecords fuel text = some records) : File text records := by
  induction fuel generalizing text records with
  | zero => cases read
  | succ fuel ih =>
      rw [readRecords] at read
      obtain ⟨found, recordRead, others⟩ := Option.bind_eq_some_iff.mp read
      have record := record_of_readRecord recordRead
      split at others
      · rename_i isLast
        cases others
        rcases isLast with isNil | isEnd
        · rw [isNil] at record
          exact File.last record
        · rw [isEnd] at record
          exact File.ended record
      · split at others
        · rename_i lineFeed
          obtain ⟨later, laterRead, same⟩ := Option.map_eq_some_iff.mp others
          cases same
          rw [eq_cons_of_head? lineFeed] at record
          exact File.more record (ih laterRead)
        · cases others

/-- **The reader reads what the grammar derives**, of a text without a line feed at its end. -/
theorem parse_eq_some_iff (noEnd : ∀ front, text ≠ front ++ ['\n']) :
    parse text = some records ↔ File text records :=
  ⟨file_of_readRecords, fun file => readRecords_of_file file noEnd (Nat.lt_succ_self _)⟩

/-! ## Records that are written -/

/-- A value between quotes. -/
def quote (value : List Char) : List Char :=
  '"' :: (value.flatMap fun char => if char = '"' then ['"', '"'] else [char]) ++ ['"']

/-- Fields with commas between them. -/
def joinFields (fields : List (List Char)) : List Char := [','].intercalate fields

theorem escaped_quote (value rest : List Char) :
    Escaped ((value.flatMap fun char => if char = '"' then ['"', '"'] else [char]) ++ '"' :: rest)
      value rest := by
  induction value with
  | nil => exact Escaped.done rest
  | cons char value ih =>
      rw [List.flatMap_cons]
      by_cases isQuote : char = '"'
      · rw [isQuote, if_pos rfl]
        exact Escaped.quote ih
      · rw [if_neg isQuote]
        exact Escaped.char isQuote ih

theorem field_quote (value rest : List Char) : Field (quote value ++ rest) value rest := by
  have whole : quote value ++ rest =
      '"' :: ((value.flatMap fun char => if char = '"' then ['"', '"'] else [char]) ++
        '"' :: rest) := by
    rw [quote, List.cons_append, List.cons_append, List.append_assoc, List.singleton_append]
  rw [whole]
  exact Field.escaped (escaped_quote value rest)

/-- Fields that are derived one by one make a record. -/
theorem record_of_fields (written : List Char → List Char) {values : List (List Char)}
    (derived : ∀ value ∈ values, ∀ rest, Field (written value ++ rest) value rest)
    (nonempty : values ≠ []) (rest : List Char) :
    Record (joinFields (values.map written) ++ rest) values rest := by
  induction values with
  | nil => exact absurd rfl nonempty
  | cons value values ih =>
      obtain ⟨first, others⟩ := List.forall_mem_cons.mp derived
      cases values with
      | nil =>
          have single : joinFields [written value] = written value := by
            rw [joinFields, List.intercalate_singleton]
          rw [List.map_cons, List.map_nil, single]
          exact Record.last (first rest)
      | cons next values =>
          have joined : joinFields ((value :: next :: values).map written) ++ rest =
              written value ++ ',' :: (joinFields ((next :: values).map written) ++ rest) := by
            rw [joinFields, List.map_cons, List.map_cons, List.intercalate_cons_cons,
              List.append_assoc, List.append_assoc, List.singleton_append, ← List.map_cons,
              joinFields]
          rw [joined]
          exact Record.more (first _) (ih others (List.cons_ne_nil _ _))

/-- Lines from which records are derived one by one make a file. -/
theorem file_of_lines {lines : List (List Char)}
    (derived : List.Forall₂ (fun line values => ∀ rest, Record (line ++ rest) values rest) lines
      records) (nonempty : lines ≠ []) : File (['\n'].intercalate lines) records := by
  induction derived with
  | nil => exact absurd rfl nonempty
  | @cons line values lines records first others ih =>
      cases others with
      | nil =>
          have last := first []
          rw [List.append_nil] at last
          rw [List.intercalate_singleton]
          exact File.last last
      | cons next others =>
          rw [List.intercalate_cons_cons, List.append_assoc, List.singleton_append]
          exact File.more (first _) (ih (List.cons_ne_nil _ _))

/-! ### No line feed at the end -/

/-- A text ends with a character that is no line feed. -/
def EndsOpen (text : List Char) : Prop := ∃ front char, text = front ++ [char] ∧ char ≠ '\n'

theorem EndsOpen.ne (ends : EndsOpen text) (front : List Char) : text ≠ front ++ ['\n'] := by
  obtain ⟨start, char, rfl, ne⟩ := ends
  intro same
  exact ne (List.singleton_inj.mp (List.append_inj_right' same rfl))

theorem EndsOpen.append (ends : EndsOpen text) (front : List Char) : EndsOpen (front ++ text) := by
  obtain ⟨start, char, rfl, ne⟩ := ends
  exact ⟨front ++ start, char, (List.append_assoc ..).symm, ne⟩

theorem endsOpen_quote (value : List Char) : EndsOpen (quote value) :=
  ⟨_, '"', rfl, by decide⟩

theorem endsOpen_intercalate {parts : List (List Char)} (separator : List Char)
    (each : ∀ part ∈ parts, EndsOpen part) (nonempty : parts ≠ []) :
    EndsOpen (separator.intercalate parts) := by
  induction parts with
  | nil => exact absurd rfl nonempty
  | cons part parts ih =>
      obtain ⟨first, others⟩ := List.forall_mem_cons.mp each
      cases parts with
      | nil =>
          rw [List.intercalate_singleton]
          exact first
      | cons next parts =>
          rw [List.intercalate_cons_cons]
          exact (ih others (List.cons_ne_nil _ _)).append _

end Manbaa.Lib.Csv
