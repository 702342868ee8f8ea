import Mathlib.Algebra.GroupWithZero.Nat
import Mathlib.Data.List.Basic
import Mathlib.Data.List.FinRange
import Mathlib.Data.List.Forall2

/-!
# Texts of UUIDs

A UUID is written in five groups of hexadecimal digits, in either case.  Its value is what the
digits stand for, and its canonical text writes them in lower case.
-/

namespace Manbaa.Lib.UuidText

/-- The lengths of the groups. -/
def groupLengths : List Nat := [8, 4, 4, 4, 12]

/-- The canonical digit of a value. -/
def hexChar (digit : Fin 16) : Char := Nat.digitChar digit.val

/-- The value of a digit, in either case. -/
def hexValue? (char : Char) : Option (Fin 16) :=
  (List.finRange 16).find? fun digit => hexChar digit == char.toLower

/-- A UUID, by the digits of its groups. -/
structure Value where
  groups : List (List (Fin 16))
  shape : groups.map List.length = groupLengths
  deriving DecidableEq

/-- The digits of some groups of characters, if they are digits. -/
def readGroups : List (List Char) → Option (List (List (Fin 16)))
  | [] => some []
  | group :: rest => do
      let digits ← group.mapM hexValue?
      let others ← readGroups rest
      some (digits :: others)

/-- The UUID of a text. -/
def read? (text : String) : Option Value :=
  (readGroups (text.toList.splitOn '-')).bind fun groups =>
    if shape : groups.map List.length = groupLengths then some ⟨groups, shape⟩ else none

/-- The canonical text of a UUID. -/
def Value.text (value : Value) : String :=
  String.ofList (['-'].intercalate (value.groups.map (List.map hexChar)))

variable {text : String} {value : Value} {group : List Char} {digits : List (Fin 16)}

theorem hexChar_of_hexValue? {char : Char} {digit : Fin 16} (valueEq : hexValue? char = some digit) :
    hexChar digit = char.toLower := by
  have same := List.find?_some valueEq
  exact eq_of_beq same

theorem map_hexChar_of_mapM (digitsEq : group.mapM hexValue? = some digits) :
    digits.map hexChar = group.map Char.toLower := by
  induction group generalizing digits with
  | nil =>
      cases digitsEq
      rfl
  | cons char rest ih =>
      rw [List.mapM_cons] at digitsEq
      obtain ⟨digit, digitEq, laterEq⟩ := Option.bind_eq_some_iff.mp digitsEq
      obtain ⟨later, restEq, doneEq⟩ := Option.bind_eq_some_iff.mp laterEq
      cases doneEq
      rw [List.map_cons, List.map_cons, hexChar_of_hexValue? digitEq, ih restEq]

theorem map_hexChar_of_readGroups {groups : List (List Char)} {read : List (List (Fin 16))}
    (readEq : readGroups groups = some read) :
    read.map (List.map hexChar) = groups.map (List.map Char.toLower) := by
  induction groups generalizing read with
  | nil =>
      cases readEq
      rfl
  | cons group rest ih =>
      obtain ⟨digits, digitsEq, laterEq⟩ := Option.bind_eq_some_iff.mp readEq
      obtain ⟨later, restEq, doneEq⟩ := Option.bind_eq_some_iff.mp laterEq
      cases doneEq
      rw [List.map_cons, List.map_cons, map_hexChar_of_mapM digitsEq, ih restEq]

theorem map_intercalate_hyphen (groups : List (List Char)) :
    ['-'].intercalate (groups.map (List.map Char.toLower)) =
      (['-'].intercalate groups).map Char.toLower := by
  induction groups with
  | nil => rfl
  | cons group rest ih =>
      cases rest with
      | nil => simp [List.intercalate]
      | cons other rest =>
          simp only [List.map_cons, List.intercalate_cons_cons, List.map_append] at ih ⊢
          rw [ih]
          rfl

/-- The canonical text of the UUID that a text denotes is the text in lower case. -/
theorem text_of_read? (readEq : read? text = some value) :
    value.text.toList = text.toList.map Char.toLower := by
  obtain ⟨groups, groupsEq, checked⟩ := Option.bind_eq_some_iff.mp readEq
  split at checked
  · cases checked
    rw [Value.text, String.toList_ofList, map_hexChar_of_readGroups groupsEq,
      map_intercalate_hyphen, List.intercalate_splitOn]
  · cases checked

/-! ## Canonical texts -/

theorem hexChar_injective : Function.Injective hexChar := by
  have apart : ∀ first second : Fin 16, hexChar first = hexChar second → first = second := by
    decide
  exact fun first second => apart first second

/-- Groups of the same lengths that are written the same are the same. -/
theorem intercalate_injective {first second : List (List Char)}
    (shape : first.map List.length = second.map List.length)
    (same : ['-'].intercalate first = ['-'].intercalate second) : first = second := by
  induction first generalizing second with
  | nil => exact (List.map_eq_nil_iff.mp shape.symm).symm
  | cons group rest ih =>
      obtain ⟨other, others, rfl⟩ : ∃ other others, second = other :: others := by
        cases second with
        | nil => cases shape
        | cons other others => exact ⟨other, others, rfl⟩
      obtain ⟨length, shape⟩ := List.cons.inj shape
      cases rest with
      | nil =>
          obtain rfl := List.map_eq_nil_iff.mp shape.symm
          simpa [List.intercalate] using same
      | cons next rest =>
          obtain ⟨nextOther, later, rfl⟩ : ∃ nextOther later, others = nextOther :: later := by
            cases others with
            | nil => cases shape
            | cons nextOther later => exact ⟨nextOther, later, rfl⟩
          rw [List.intercalate_cons_cons, List.intercalate_cons_cons, List.append_assoc,
            List.append_assoc] at same
          obtain ⟨sameGroup, sameRest⟩ := List.append_inj same length
          rw [sameGroup, ih shape (List.append_cancel_left sameRest)]

theorem text_injective : Function.Injective Value.text := by
  intro first second same
  have lists := String.ofList_injective same
  have shape : (first.groups.map (List.map hexChar)).map List.length =
      (second.groups.map (List.map hexChar)).map List.length := by
    simp only [List.map_map, Function.comp_def, List.length_map]
    exact first.shape.trans second.shape.symm
  have groups := List.map_injective_iff.mpr (List.map_injective_iff.mpr hexChar_injective)
    (intercalate_injective shape lists)
  cases first
  cases second
  cases groups
  rfl

/-- A canonical text consists of hyphens and digits. -/
theorem mem_text {char : Char} (charMem : char ∈ value.text.toList) :
    char = '-' ∨ ∃ digit, char = hexChar digit := by
  rw [Value.text, String.toList_ofList] at charMem
  generalize value.groups = groups at charMem
  induction groups with
  | nil => cases charMem
  | cons group rest ih =>
      cases rest with
      | nil =>
          obtain ⟨digit, _, digitEq⟩ := List.mem_map.mp (by simpa [List.intercalate] using charMem)
          exact Or.inr ⟨digit, digitEq.symm⟩
      | cons next rest =>
          rw [List.map_cons, List.map_cons, List.intercalate_cons_cons, List.append_assoc] at charMem
          rcases List.mem_append.mp charMem with inGroup | charMem
          · obtain ⟨digit, _, digitEq⟩ := List.mem_map.mp inGroup
            exact Or.inr ⟨digit, digitEq.symm⟩
          · rcases List.mem_append.mp charMem with isHyphen | inRest
            · exact Or.inl (List.mem_singleton.mp isHyphen)
            · exact ih inRest

theorem text_ne_empty : value.text ≠ "" := by
  intro isEmpty
  have noChars : ['-'].intercalate (value.groups.map (List.map hexChar)) = [] :=
    String.ofList_injective isEmpty
  have lengths := value.shape
  rcases groupsEq : value.groups with _ | ⟨group, _ | ⟨next, rest⟩⟩
  · simp [groupsEq, groupLengths] at lengths
  · simp [groupsEq, groupLengths] at lengths
  · rw [groupsEq, List.map_cons, List.map_cons, List.intercalate_cons_cons] at noChars
    simp at noChars

/-- Groups that are joined are as long as they are, and a hyphen goes between any two. -/
theorem length_intercalate {groups : List (List Char)} (some : groups ≠ []) :
    (['-'].intercalate groups).length + 1 = ((groups.map List.length).map (· + 1)).sum := by
  induction groups with
  | nil => exact absurd rfl some
  | cons first rest ih =>
      cases rest with
      | nil => simp [List.intercalate]
      | cons second rest =>
          have later := ih (List.cons_ne_nil second rest)
          rw [List.intercalate_cons_cons, List.length_append, List.length_append,
            List.length_singleton, List.map_cons, List.map_cons, List.sum_cons]
          omega

/-- All canonical texts are as long. -/
theorem length_text (value : Value) : value.text.toList.length = 36 := by
  have lengths : (value.groups.map (List.map hexChar)).map List.length = groupLengths := by
    rw [List.map_map, ← value.shape]
    exact List.map_congr_left fun group _ => List.length_map _
  have some : value.groups.map (List.map hexChar) ≠ [] := by
    intro none
    rw [none] at lengths
    cases lengths
  have joined := length_intercalate some
  rw [lengths] at joined
  rw [Value.text, String.toList_ofList]
  exact Nat.succ.inj joined

end Manbaa.Lib.UuidText
