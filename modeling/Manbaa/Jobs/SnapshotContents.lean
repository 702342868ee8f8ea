import Manbaa.Jobs.Snapshot
import Manbaa.Lib.JsonContents
import Manbaa.Lib.PatternLanguage
import Manbaa.Lib.UuidText
import Mathlib.Data.Bool.AllAny

/-!
# What a snapshot must not contain

The texts and the keys that the serializer refuses, wherever they stand in an object.
-/

namespace Manbaa.Jobs

open Manbaa.Lib Manbaa.Canvases

/-- The names of secrets, in lower case. -/
def secretNames : List String :=
  ["password", "passwd", "secret", "token", "api_key", "api-key", "apikey", "private_key",
    "private-key", "privatekey"]

/-- The name of a secret, its letters in either case. -/
def IsSecretName (key : String) : Prop :=
  key.toList.map Char.toLower ∈ secretNames.map String.toList

/-- A text without executable content and without a credential. -/
def Harmless (text : String) : Prop :=
  executablePattern.finds text = false ∧ privateKeyPattern.finds text = false ∧
    secretKeyPattern.finds text = false ∧ accessKeyPattern.finds text = false

instance (key : String) : Decidable (IsSecretName key) :=
  inferInstanceAs (Decidable (_ ∈ _))

instance (text : String) : Decidable (Harmless text) :=
  inferInstanceAs (Decidable (_ ∧ _))

/-- A value with harmless texts and without names of secrets, at any depth. -/
structure Clean (value : Json) : Prop where
  strings : ∀ text ∈ value.strings, Harmless text
  keys : ∀ key ∈ value.keys, ¬ IsSecretName key

/-! ## Names of secrets -/

theorem spells_anyCase (text : String) :
    (anyCase text).Spells [text.toList.map Char.toLower] :=
  Pattern.spells_word fun _ _ => rfl

/-- What may join the parts of a name. -/
theorem spells_joint :
    (Pattern.optional (.one fun char => char == '_' || char == '-')).Spells [['_'], ['-'], []] := by
  have mark : (Pattern.one fun char => char == '_' || char == '-').Spells
      (['_', '-'].map fun mark => [mark]) := by
    apply Pattern.spells_mark
    · intro char
      rw [Bool.or_eq_true_iff, beq_iff_eq, beq_iff_eq, List.mem_pair]
    · exact List.all_iff_forall_prop.mp (by decide)
  exact mark.either Pattern.spells_empty

/-- **The forbidden keys are the names of secrets.** -/
theorem forbiddenKeyPattern_iff {key : String} :
    forbiddenKeyPattern.fits key = true ↔ IsSecretName key := by
  have joined (front : String) := (spells_anyCase front).seq
    (spells_joint.seq ((spells_anyCase "key").seq Pattern.spells_empty))
  have spells := (((((spells_anyCase "password").either (spells_anyCase "passwd")).either
    (spells_anyCase "secret")).either (spells_anyCase "token")).either (joined "api")).either
    (joined "private")
  have fits : forbiddenKeyPattern.Language key.toList ↔ _ := spells key.toList
  rw [Pattern.fits_iff (by decide), fits, IsSecretName]
  refine iff_of_eq (congrArg (key.toList.map Char.toLower ∈ ·) ?_)
  decide +kernel

/-! ## The check -/

theorem check_strings_eq_ok_iff {text : String} {error : Exception} :
    check (!(executablePattern.finds text || privateKeyPattern.finds text ||
      secretKeyPattern.finds text || accessKeyPattern.finds text)) error = .ok () ↔
        Harmless text := by
  rw [check_eq_ok_iff, Bool.not_eq_true', Bool.or_eq_false_iff, Bool.or_eq_false_iff,
    Bool.or_eq_false_iff, and_assoc, and_assoc, Harmless]

theorem clean_arr_iff {items : List Json} :
    Clean (.arr items) ↔ (∀ text ∈ Json.stringsItems items, Harmless text) ∧
      ∀ key ∈ Json.keysItems items, ¬ IsSecretName key :=
  ⟨fun clean => ⟨clean.strings, clean.keys⟩, fun parts => ⟨parts.1, parts.2⟩⟩

mutual

/-- **The check passes clean values.** -/
theorem assertNoExecutableOrSecret_eq_ok_iff : ∀ (value : Json) (path : String),
    assertNoExecutableOrSecret path value = .ok () ↔ Clean value
  | .null, path | .bool _, path | .num _, path =>
      ⟨fun _ => ⟨fun text mem => (by cases mem), fun key mem => (by cases mem)⟩, fun _ => rfl⟩
  | .str text, path => by
      rw [assertNoExecutableOrSecret, check_strings_eq_ok_iff]
      constructor
      · intro harmless
        refine ⟨fun other mem => ?_, fun key mem => (by cases mem)⟩
        rw [List.mem_singleton.mp mem]
        exact harmless
      · intro clean
        exact clean.strings text (List.mem_singleton.mpr rfl)
  | .arr items, path => by
      rw [assertNoExecutableOrSecret, assertItems_eq_ok_iff items path 0, clean_arr_iff]
  | .obj fields, path => by
      rw [assertNoExecutableOrSecret, assertFields_eq_ok_iff fields path]
      exact ⟨fun parts => ⟨parts.1, parts.2⟩, fun clean => ⟨clean.strings, clean.keys⟩⟩

theorem assertItems_eq_ok_iff : ∀ (items : List Json) (path : String) (index : Nat),
    assertItems path index items = .ok () ↔ (∀ text ∈ Json.stringsItems items, Harmless text) ∧
      ∀ key ∈ Json.keysItems items, ¬ IsSecretName key
  | [], path, index => ⟨fun _ => ⟨fun text mem => (by cases mem), fun key mem => (by cases mem)⟩,
      fun _ => rfl⟩
  | item :: rest, path, index => by
      rw [assertItems, except_bind_eq_ok_iff, exists_done,
        assertNoExecutableOrSecret_eq_ok_iff item, assertItems_eq_ok_iff rest, Json.stringsItems,
        Json.keysItems]
      constructor
      · rintro ⟨⟨strings, keys⟩, otherStrings, otherKeys⟩
        exact ⟨List.forall_mem_append.mpr ⟨strings, otherStrings⟩,
          List.forall_mem_append.mpr ⟨keys, otherKeys⟩⟩
      · rintro ⟨strings, keys⟩
        obtain ⟨itemStrings, otherStrings⟩ := List.forall_mem_append.mp strings
        obtain ⟨itemKeys, otherKeys⟩ := List.forall_mem_append.mp keys
        exact ⟨⟨itemStrings, itemKeys⟩, otherStrings, otherKeys⟩

theorem assertFields_eq_ok_iff : ∀ (fields : Json.Fields) (path : String),
    assertFields path fields = .ok () ↔ (∀ text ∈ Json.stringsFields fields, Harmless text) ∧
      ∀ key ∈ Json.keysFields fields, ¬ IsSecretName key
  | [], path => ⟨fun _ => ⟨fun text mem => (by cases mem), fun key mem => (by cases mem)⟩,
      fun _ => rfl⟩
  | (key, child) :: rest, path => by
      have allowed : (!forbiddenKeyPattern.fits key) = true ↔ ¬ IsSecretName key := by
        rw [← forbiddenKeyPattern_iff, Bool.not_eq_true', Bool.not_eq_true]
      rw [assertFields, except_bind_eq_ok_iff, exists_done, check_eq_ok_iff, allowed,
        except_bind_eq_ok_iff, exists_done, assertNoExecutableOrSecret_eq_ok_iff child,
        assertFields_eq_ok_iff rest, Json.stringsFields, Json.keysFields]
      constructor
      · rintro ⟨notSecret, ⟨strings, keys⟩, otherStrings, otherKeys⟩
        refine ⟨List.forall_mem_append.mpr ⟨strings, otherStrings⟩, ?_⟩
        exact List.forall_mem_cons.mpr
          ⟨notSecret, List.forall_mem_append.mpr ⟨keys, otherKeys⟩⟩
      · rintro ⟨strings, keys⟩
        obtain ⟨childStrings, otherStrings⟩ := List.forall_mem_append.mp strings
        obtain ⟨notSecret, others⟩ := List.forall_mem_cons.mp keys
        obtain ⟨childKeys, otherKeys⟩ := List.forall_mem_append.mp others
        exact ⟨notSecret, ⟨childStrings, childKeys⟩, otherStrings, otherKeys⟩

end

/-! ## Texts that are harmless by their characters -/

/-- The characters of identifiers, of colors and of the words of the document. -/
def plainChars : List Char :=
  "0123456789abcdefghijklmnopqrstuvwxyzABCDEF#-".toList

theorem harmless_of_plain {text : String} (plain : ∀ char ∈ text.toList, char ∈ plainChars) :
    Harmless text :=
  ⟨Pattern.finds_of_excludes (by decide +kernel) plain,
    Pattern.finds_of_excludes (by decide +kernel) plain,
    Pattern.finds_of_excludes (by decide +kernel) plain,
    Pattern.finds_of_excludes (by decide +kernel) plain⟩

/-- The text of an identifier, as a `uuid` column returns it. -/
def IsUuid (text : String) : Prop := ∃ value : UuidText.Value, value.text = text

theorem harmless_of_uuid {text : String} (isUuid : IsUuid text) : Harmless text := by
  obtain ⟨value, rfl⟩ := isUuid
  apply harmless_of_plain
  intro char mem
  rcases UuidText.mem_text mem with rfl | ⟨digit, rfl⟩
  · decide +kernel
  · have digits : ∀ digit : Fin 16, UuidText.hexChar digit ∈ plainChars := by decide +kernel
    exact digits digit

/-- A color with or without an alpha channel: six or eight digits after the sign. -/
def IsColor (text : String) : Prop :=
  ∃ digits, text.toList = '#' :: digits ∧ (digits.length = 6 ∨ digits.length = 8) ∧
    ∀ digit ∈ digits, isHexDigit digit = true

theorem colorPattern_iff {text : String} : colorPattern.fits text = true ↔ IsColor text := by
  rw [Pattern.fits_iff (by decide)]
  constructor
  · rintro ⟨_, rest, ⟨sign, isSign, rfl⟩, ⟨front, tail, isFront, ⟨back, _, isBack, rfl, rfl⟩, rfl⟩,
      split⟩
    obtain ⟨frontLength, frontDigits⟩ := Pattern.language_times_iff.mp isFront
    rw [beq_iff_eq] at isSign
    rw [isSign, List.append_nil, List.singleton_append] at split
    refine ⟨front ++ back, split, ?_⟩
    rcases isBack with more | rfl
    · obtain ⟨backLength, backDigits⟩ := Pattern.language_times_iff.mp more
      rw [List.length_append, frontLength, backLength]
      exact ⟨Or.inr rfl, List.forall_mem_append.mpr ⟨frontDigits, backDigits⟩⟩
    · rw [List.append_nil, frontLength]
      exact ⟨Or.inl rfl, frontDigits⟩
  · rintro ⟨digits, split, lengths, isDigit⟩
    have parts : ∀ digit ∈ digits.take 6 ++ digits.drop 6, isHexDigit digit = true := by
      rw [List.take_append_drop]
      exact isDigit
    obtain ⟨frontDigits, backDigits⟩ := List.forall_mem_append.mp parts
    have frontLength : (digits.take 6).length = 6 := by
      rw [List.length_take]
      omega
    refine ⟨['#'], digits, ⟨'#', rfl, rfl⟩, ⟨digits.take 6, digits.drop 6,
      Pattern.language_times_iff.mpr ⟨frontLength, frontDigits⟩,
      ⟨digits.drop 6, [], ?_, rfl, (List.append_nil _).symm⟩,
      (List.take_append_drop 6 digits).symm⟩, split⟩
    rcases lengths with short | long
    · exact Or.inr (List.drop_eq_nil_of_le (Nat.le_of_eq short))
    · refine Or.inl (Pattern.language_times_iff.mpr ⟨?_, backDigits⟩)
      rw [List.length_drop, long]

example : isHexDigit 'F' = true := by decide +kernel

theorem plain_of_hexDigit {char : Char} (isDigit : isHexDigit char = true) :
    char ∈ plainChars := by
  have low : char.toNat < 128 := by
    rw [isHexDigit, Bool.or_eq_true_iff, Bool.or_eq_true_iff, Char.isDigit,
      Bool.and_eq_true_iff, Bool.and_eq_true_iff, Bool.and_eq_true_iff] at isDigit
    rcases isDigit with (⟨_, high⟩ | ⟨_, high⟩) | ⟨_, high⟩
    · exact Nat.lt_of_le_of_lt (of_decide_eq_true high) (by decide)
    · exact Nat.lt_of_le_of_lt (of_decide_eq_true high) (by decide)
    · exact Nat.lt_of_le_of_lt (of_decide_eq_true high) (by decide)
  have every : ∀ code : Fin 128, isHexDigit (Char.ofNat code) = true →
      Char.ofNat code ∈ plainChars := by decide +kernel
  have whole := every ⟨char.toNat, low⟩
  rw [Char.ofNat_toNat] at whole
  exact whole isDigit

theorem harmless_of_color {text : String} (isColor : IsColor text) : Harmless text := by
  obtain ⟨digits, split, _, isDigit⟩ := isColor
  apply harmless_of_plain
  intro char mem
  rw [split] at mem
  rcases List.mem_cons.mp mem with rfl | mem
  · decide +kernel
  · exact plain_of_hexDigit (isDigit char mem)

end Manbaa.Jobs
