import Manbaa.Lib.Pattern
import Mathlib.Data.List.Forall2

/-!
# Languages of patterns

The words that a pattern without edges matches, and the characters without which a pattern matches
nothing.
-/

namespace Manbaa.Lib.Pattern

variable {pattern first second : Pattern} {among : Char → Bool} {position final : Position}
  {word : List Char}

/-- The words of a pattern; an edge has none of its own. -/
def Language : Pattern → List Char → Prop
  | .empty, word => word = []
  | .one among, word => ∃ char, among char = true ∧ word = [char]
  | .many among, word => ∀ char ∈ word, among char = true
  | .edge, _ => False
  | .seq first second, word =>
      ∃ front back, Language first front ∧ Language second back ∧ word = front ++ back
  | .either first second, word => Language first word ∨ Language second word

/-- The pattern does not look at the edges of words. -/
def edgeFree : Pattern → Bool
  | .edge => false
  | .seq first second => first.edgeFree && second.edgeFree
  | .either first second => first.edgeFree && second.edgeFree
  | _ => true

/-! ## Where a match ends -/

theorem mem_passing {before : Option Char} {rest : List Char} :
    final ∈ passing among before rest →
      ∃ word, rest = word ++ final.rest ∧ ∀ char ∈ word, among char = true := by
  induction rest generalizing before with
  | nil =>
      intro mem
      rw [passing, List.mem_singleton] at mem
      exact ⟨[], by rw [mem]; rfl, fun char charMem => (by cases charMem)⟩
  | cons char rest ih =>
      intro mem
      rw [passing] at mem
      rcases List.mem_cons.mp mem with rfl | later
      · exact ⟨[], rfl, fun char charMem => (by cases charMem)⟩
      · split at later
        · obtain ⟨word, split, all⟩ := ih later
          refine ⟨char :: word, by rw [split]; rfl, ?_⟩
          intro other otherMem
          rcases List.mem_cons.mp otherMem with rfl | otherMem
          · assumption
          · exact all other otherMem
        · cases later

theorem exists_mem_passing (all : ∀ char ∈ word, among char = true) (rest : List Char)
    (before : Option Char) :
    ∃ final ∈ passing among before (word ++ rest), final.rest = rest := by
  induction word generalizing before with
  | nil => cases rest <;> exact ⟨_, List.mem_cons_self .., rfl⟩
  | cons char word ih =>
      obtain ⟨final, mem, ends⟩ :=
        ih (fun other otherMem => all other (List.mem_cons_of_mem _ otherMem)) (some char)
      refine ⟨final, ?_, ends⟩
      rw [List.cons_append, passing, if_pos (all char (List.mem_cons_self ..))]
      exact List.mem_cons_of_mem _ mem

/-- A match takes characters from the front of the rest. -/
theorem exists_of_mem_ends : ∀ {pattern : Pattern} {position final : Position},
    final ∈ pattern.ends position → ∃ word, position.rest = word ++ final.rest
  | .empty, position, final, mem => by
      rw [ends, List.mem_singleton] at mem
      exact ⟨[], by rw [mem]; rfl⟩
  | .one among, ⟨_, []⟩, final, mem => by cases mem
  | .one among, ⟨_, char :: rest⟩, final, mem => by
      rw [ends] at mem
      split at mem
      · rw [List.mem_singleton.mp mem]
        exact ⟨[char], rfl⟩
      · cases mem
  | .many among, ⟨_, rest⟩, final, mem => by
      obtain ⟨word, split, _⟩ := mem_passing mem
      exact ⟨word, split⟩
  | .edge, position, final, mem => by
      rw [ends] at mem
      split at mem
      · rw [List.mem_singleton.mp mem]
        exact ⟨[], rfl⟩
      · cases mem
  | .seq first second, position, final, mem => by
      rw [ends] at mem
      obtain ⟨middle, firstMem, secondMem⟩ := List.mem_flatMap.mp mem
      obtain ⟨front, frontSplit⟩ := exists_of_mem_ends firstMem
      obtain ⟨back, backSplit⟩ := exists_of_mem_ends secondMem
      exact ⟨front ++ back, by rw [frontSplit, backSplit, List.append_assoc]⟩
  | .either first second, position, final, mem => by
      rw [ends] at mem
      rcases List.mem_append.mp mem with firstMem | secondMem
      · exact exists_of_mem_ends firstMem
      · exact exists_of_mem_ends secondMem

/-- Without edges, what a match takes is a word of the pattern. -/
theorem language_of_mem_ends : ∀ {pattern : Pattern} {position final : Position},
    pattern.edgeFree = true → final ∈ pattern.ends position →
      ∃ word, pattern.Language word ∧ position.rest = word ++ final.rest
  | .empty, position, final, _, mem => by
      rw [ends, List.mem_singleton] at mem
      exact ⟨[], rfl, by rw [mem]; rfl⟩
  | .one among, ⟨_, []⟩, final, _, mem => by cases mem
  | .one among, ⟨_, char :: rest⟩, final, _, mem => by
      rw [ends] at mem
      split at mem
      · rename_i isAmong
        rw [List.mem_singleton.mp mem]
        exact ⟨[char], ⟨char, isAmong, rfl⟩, rfl⟩
      · cases mem
  | .many among, ⟨_, rest⟩, final, _, mem => by
      obtain ⟨word, split, all⟩ := mem_passing mem
      exact ⟨word, all, split⟩
  | .seq first second, position, final, free, mem => by
      obtain ⟨firstFree, secondFree⟩ := Bool.and_eq_true_iff.mp free
      rw [ends] at mem
      obtain ⟨middle, firstMem, secondMem⟩ := List.mem_flatMap.mp mem
      obtain ⟨front, isFront, frontSplit⟩ := language_of_mem_ends firstFree firstMem
      obtain ⟨back, isBack, backSplit⟩ := language_of_mem_ends secondFree secondMem
      exact ⟨front ++ back, ⟨front, back, isFront, isBack, rfl⟩,
        by rw [frontSplit, backSplit, List.append_assoc]⟩
  | .either first second, position, final, free, mem => by
      obtain ⟨firstFree, secondFree⟩ := Bool.and_eq_true_iff.mp free
      rw [ends] at mem
      rcases List.mem_append.mp mem with firstMem | secondMem
      · obtain ⟨word, isWord, split⟩ := language_of_mem_ends firstFree firstMem
        exact ⟨word, Or.inl isWord, split⟩
      · obtain ⟨word, isWord, split⟩ := language_of_mem_ends secondFree secondMem
        exact ⟨word, Or.inr isWord, split⟩

/-- A word of the pattern can be taken. -/
theorem exists_mem_ends : ∀ {pattern : Pattern} {word : List Char} (rest : List Char)
    (before : Option Char), pattern.Language word →
      ∃ final ∈ pattern.ends ⟨before, word ++ rest⟩, final.rest = rest
  | .empty, word, rest, before, isWord => by
      rw [Language] at isWord
      rw [isWord]
      exact ⟨⟨before, rest⟩, List.mem_singleton.mpr rfl, rfl⟩
  | .one among, word, rest, before, isWord => by
      obtain ⟨char, isAmong, rfl⟩ := isWord
      refine ⟨⟨some char, rest⟩, ?_, rfl⟩
      rw [List.singleton_append, ends, if_pos isAmong]
      exact List.mem_singleton.mpr rfl
  | .many among, word, rest, before, isWord => by
      rw [ends]
      exact exists_mem_passing isWord rest before
  | .seq first second, word, rest, before, isWord => by
      obtain ⟨front, back, isFront, isBack, rfl⟩ := isWord
      obtain ⟨middle, middleMem, middleRest⟩ := exists_mem_ends (back ++ rest) before isFront
      obtain ⟨final, finalMem, finalRest⟩ := exists_mem_ends rest middle.before isBack
      refine ⟨final, ?_, finalRest⟩
      rw [ends, List.append_assoc]
      rw [← middleRest] at finalMem
      exact List.mem_flatMap.mpr ⟨middle, middleMem, finalMem⟩
  | .either first second, word, rest, before, isWord => by
      rw [ends]
      rcases isWord with isFirst | isSecond
      · obtain ⟨final, mem, finalRest⟩ := exists_mem_ends rest before isFirst
        exact ⟨final, List.mem_append_left _ mem, finalRest⟩
      · obtain ⟨final, mem, finalRest⟩ := exists_mem_ends rest before isSecond
        exact ⟨final, List.mem_append_right _ mem, finalRest⟩

/-- **A pattern without edges fits its words.** -/
theorem fits_iff {text : String} (free : pattern.edgeFree = true) :
    pattern.fits text = true ↔ pattern.Language text.toList := by
  rw [fits, List.any_eq_true]
  constructor
  · rintro ⟨final, mem, isEnd⟩
    obtain ⟨word, isWord, split⟩ := language_of_mem_ends free mem
    rw [List.isEmpty_iff.mp isEnd, List.append_nil] at split
    have whole : text.toList = word := split
    exact whole ▸ isWord
  · intro isWord
    obtain ⟨final, mem, finalRest⟩ := exists_mem_ends [] none isWord
    rw [List.append_nil] at mem
    exact ⟨final, mem, List.isEmpty_iff.mpr finalRest⟩

/-! ## Words and classes -/

/-- The words of a word, compared in some way. -/
theorem language_word_iff {same : Char → Char → Bool} {text : String} :
    (Pattern.word same text).Language word ↔
      List.Forall₂ (fun wanted char => same wanted char = true) text.toList word := by
  rw [Pattern.word, Pattern.all]
  induction text.toList generalizing word with
  | nil =>
      rw [List.map_nil, List.foldr_nil, Language]
      constructor
      · rintro rfl
        exact List.Forall₂.nil
      · intro all
        cases all
        rfl
  | cons wanted rest ih =>
      rw [List.map_cons, List.foldr_cons, Language]
      constructor
      · rintro ⟨front, back, ⟨char, isSame, rfl⟩, isBack, rfl⟩
        exact List.Forall₂.cons isSame (ih.mp isBack)
      · intro all
        cases all with
        | cons isSame others =>
            exact ⟨[_], _, ⟨_, isSame, rfl⟩, ih.mpr others, rfl⟩

/-- The words of a number of characters. -/
theorem language_times_iff {count : Nat} :
    (Pattern.times count among).Language word ↔
      word.length = count ∧ ∀ char ∈ word, among char = true := by
  rw [Pattern.times, Pattern.all]
  induction count generalizing word with
  | zero =>
      rw [List.replicate_zero, List.foldr_nil, Language]
      constructor
      · rintro rfl
        exact ⟨rfl, fun char mem => (by cases mem)⟩
      · rintro ⟨isNil, _⟩
        exact List.eq_nil_of_length_eq_zero isNil
  | succ count ih =>
      rw [List.replicate_succ, List.foldr_cons, Language]
      constructor
      · rintro ⟨front, back, ⟨char, isAmong, rfl⟩, isBack, rfl⟩
        obtain ⟨length, all⟩ := ih.mp isBack
        refine ⟨congrArg Nat.succ length, ?_⟩
        intro other mem
        rcases List.mem_cons.mp mem with rfl | mem
        · exact isAmong
        · exact all other mem
      · rintro ⟨length, all⟩
        cases word with
        | nil => cases length
        | cons char rest =>
            exact ⟨[char], rest, ⟨char, all char (List.mem_cons_self ..), rfl⟩,
              ih.mpr ⟨Nat.succ.inj length,
                fun other mem => all other (List.mem_cons_of_mem _ mem)⟩, rfl⟩

/-! ## Words in either case -/

/-- The pattern matches some words, their letters in either case. -/
def Spells (pattern : Pattern) (words : List (List Char)) : Prop :=
  ∀ word, pattern.Language word ↔ word.map Char.toLower ∈ words

variable {words others : List (List Char)}

theorem Spells.either (isFirst : first.Spells words) (isSecond : second.Spells others) :
    (Pattern.either first second).Spells (words ++ others) := by
  intro word
  rw [Language, isFirst, isSecond, List.mem_append]

theorem Spells.seq (isFirst : first.Spells words) (isSecond : second.Spells others) :
    (Pattern.seq first second).Spells
      (words.flatMap fun front => others.map fun back => front ++ back) := by
  intro word
  rw [Language, List.mem_flatMap]
  constructor
  · rintro ⟨front, back, frontIn, backIn, rfl⟩
    refine ⟨_, (isFirst front).mp frontIn, List.mem_map.mpr ⟨_, (isSecond back).mp backIn, ?_⟩⟩
    rw [List.map_append]
  · rintro ⟨front, frontMem, joined⟩
    obtain ⟨back, backMem, whole⟩ := List.mem_map.mp joined
    obtain ⟨start, rest, split, startEq, restEq⟩ := List.map_eq_append_iff.mp whole.symm
    exact ⟨start, rest, (isFirst start).mpr (startEq ▸ frontMem),
      (isSecond rest).mpr (restEq ▸ backMem), split⟩

theorem spells_empty : Pattern.empty.Spells [[]] := by
  intro word
  rw [Language, List.mem_singleton, List.map_eq_nil_iff]

theorem spells_word {same : Char → Char → Bool} {text : String}
    (caseless : ∀ wanted char, same wanted char = (wanted.toLower == char.toLower)) :
    (Pattern.word same text).Spells [text.toList.map Char.toLower] := by
  intro word
  have pairs : (fun wanted char => same wanted char = true) =
      fun wanted char : Char => wanted.toLower = char.toLower := by
    funext wanted char
    rw [caseless, beq_iff_eq]
  rw [language_word_iff, pairs, List.mem_singleton, eq_comm, ← List.forall₂_eq_eq_eq,
    List.forall₂_map_left_iff, List.forall₂_map_right_iff]

/-- A mark that is no letter has one spelling. -/
theorem toLower_eq_iff {char mark : Char} (below : mark.toNat < 97)
    (outside : mark.toNat < 65 ∨ 90 < mark.toNat) : char.toLower = mark ↔ char = mark := by
  delta Char.toLower
  split
  · rename_i upper
    have low : 65 ≤ char.toNat := upper.1
    have high : char.toNat ≤ 90 := upper.2
    have sum : (char.val + ('a'.val - 'A'.val)).toNat = char.toNat + 32 := by
      rw [UInt32.toNat_add]
      exact Nat.mod_eq_of_lt (Nat.lt_of_le_of_lt (Nat.add_le_add_right high 32) (by decide))
    constructor
    · intro same
      have shifted : char.toNat + 32 = mark.toNat := by
        rw [← sum, ← same]
        rfl
      omega
    · rintro rfl
      omega
  · rfl

theorem spells_mark {marks : List Char} (among_iff : ∀ char, among char = true ↔ char ∈ marks)
    (plain : ∀ mark ∈ marks, mark.toNat < 97 ∧ (mark.toNat < 65 ∨ 90 < mark.toNat)) :
    (Pattern.one among).Spells (marks.map fun mark => [mark]) := by
  intro word
  rw [Language, List.mem_map]
  constructor
  · rintro ⟨char, isAmong, rfl⟩
    have isMark := (among_iff char).mp isAmong
    refine ⟨char, isMark, ?_⟩
    rw [List.map_singleton, (toLower_eq_iff (plain char isMark).1 (plain char isMark).2).mpr rfl]
  · rintro ⟨mark, isMark, lower⟩
    have length : word.length = 1 := by
      rw [← List.length_map Char.toLower, ← lower, List.length_singleton]
    obtain ⟨char, rfl⟩ := List.length_eq_one_iff.mp length
    have same : char.toLower = mark := (List.singleton_inj.mp lower).symm
    rw [toLower_eq_iff (plain mark isMark).1 (plain mark isMark).2] at same
    exact ⟨char, (among_iff char).mpr (same ▸ isMark), rfl⟩

/-! ## Characters that a match needs -/

/-- Some characters alone do not make a match. -/
def excludes (chars : List Char) : Pattern → Bool
  | .one among => chars.all fun char => !among char
  | .seq first second => first.excludes chars || second.excludes chars
  | .either first second => first.excludes chars && second.excludes chars
  | _ => false

theorem ends_of_excludes {chars : List Char} : ∀ {pattern : Pattern} {position : Position},
    pattern.excludes chars = true → (∀ char ∈ position.rest, char ∈ chars) →
      pattern.ends position = []
  | .one among, ⟨_, []⟩, _, _ => rfl
  | .one among, ⟨_, char :: rest⟩, excluded, inside => by
      have isOther := List.all_eq_true.mp excluded char (inside char (List.mem_cons_self ..))
      rw [ends, if_neg]
      intro isAmong
      rw [isAmong] at isOther
      cases isOther
  | .seq first second, position, excluded, inside => by
      rw [ends]
      rcases Bool.or_eq_true_iff.mp excluded with firstExcluded | secondExcluded
      · rw [ends_of_excludes firstExcluded inside, List.flatMap_nil]
      · rw [List.flatMap_eq_nil_iff]
        intro middle mem
        obtain ⟨word, split⟩ := exists_of_mem_ends mem
        apply ends_of_excludes secondExcluded
        intro char charMem
        exact inside char (split ▸ List.mem_append_right _ charMem)
  | .either first second, position, excluded, inside => by
      obtain ⟨firstExcluded, secondExcluded⟩ := Bool.and_eq_true_iff.mp excluded
      rw [ends, ends_of_excludes firstExcluded inside, ends_of_excludes secondExcluded inside]
      rfl

/-- **Characters that exclude a match** make a text in which the pattern is not found. -/
theorem finds_of_excludes {chars : List Char} {text : String}
    (excluded : pattern.excludes chars = true) (inside : ∀ char ∈ text.toList, char ∈ chars) :
    pattern.finds text = false := by
  have none_found : ∀ (rest : List Char) (before : Option Char),
      (∀ char ∈ rest, char ∈ chars) → pattern.findsFrom before rest = false := by
    intro rest
    induction rest with
    | nil =>
        intro before inside
        rw [findsFrom, ends_of_excludes excluded inside]
        rfl
    | cons char rest ih =>
        intro before inside
        rw [findsFrom, ends_of_excludes excluded inside,
          ih (some char) fun other mem => inside other (List.mem_cons_of_mem _ mem)]
        rfl
  exact none_found text.toList none inside

end Manbaa.Lib.Pattern
