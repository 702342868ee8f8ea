import Mathlib.Logic.Basic

/-!
# Patterns of characters

Regular expressions as far as searching a text needs them: single characters of
a class, any number of them, sequences, alternatives and edges of words.  A
pattern is matched at a position by all the positions at which it may end, so a
search needs no fuel.
-/

namespace Manbaa.Lib

/-- A regular expression. -/
inductive Pattern where
  | empty
  | one (among : Char → Bool)
  | many (among : Char → Bool)
  | edge
  | seq (first second : Pattern)
  | either (first second : Pattern)

namespace Pattern

/-- A position in a text: the character before it and what comes after it. -/
structure Position where
  before : Option Char
  rest : List Char

/-- A character of a word. -/
def isWord (char : Char) : Bool := char.isAlphanum || char == '_'

/-- The positions after some characters of a class. -/
def passing (among : Char → Bool) : Option Char → List Char → List Position
  | before, [] => [⟨before, []⟩]
  | before, char :: rest =>
      ⟨before, char :: rest⟩ :: if among char then passing among (some char) rest else []

/-- The positions at which a match that starts at a position may end. -/
def ends : Pattern → Position → List Position
  | .empty, position => [position]
  | .one among, ⟨_, rest⟩ =>
      match rest with
      | [] => []
      | char :: rest => if among char then [⟨some char, rest⟩] else []
  | .many among, ⟨before, rest⟩ => passing among before rest
  | .edge, position =>
      if position.before.any isWord != position.rest.head?.any isWord then [position] else []
  | .seq first second, position => (first.ends position).flatMap second.ends
  | .either first second, position => first.ends position ++ second.ends position

/-- The pattern matches somewhere after a position. -/
def findsFrom (pattern : Pattern) : Option Char → List Char → Bool
  | before, [] => !(pattern.ends ⟨before, []⟩).isEmpty
  | before, char :: rest =>
      !(pattern.ends ⟨before, char :: rest⟩).isEmpty || findsFrom pattern (some char) rest

/-- The pattern matches somewhere in the text. -/
def finds (pattern : Pattern) (text : String) : Bool := pattern.findsFrom none text.toList

/-- The pattern matches the whole text. -/
def fits (pattern : Pattern) (text : String) : Bool :=
  (pattern.ends ⟨none, text.toList⟩).any fun position => position.rest.isEmpty

/-- One pattern after another. -/
def all (patterns : List Pattern) : Pattern := patterns.foldr .seq .empty

/-- The characters of a word, compared in some way. -/
def word (same : Char → Char → Bool) (text : String) : Pattern :=
  all (text.toList.map fun char => .one (same char))

/-- A number of characters of a class. -/
def times (count : Nat) (among : Char → Bool) : Pattern := all (List.replicate count (.one among))

/-- One of some patterns. -/
def oneOf (first : Pattern) (others : List Pattern) : Pattern := others.foldl .either first

/-- The pattern or nothing. -/
def optional (pattern : Pattern) : Pattern := .either pattern .empty

/-- At least one character of a class. -/
def atLeastOne (among : Char → Bool) : Pattern := .seq (.one among) (.many among)

/-- The white space of the language. -/
def isSpace (char : Char) : Bool :=
  [9, 10, 11, 12, 13, 32, 160, 5760, 8232, 8233, 8239, 8287, 12288, 65279].contains char.toNat ||
    (8192 ≤ char.toNat && char.toNat ≤ 8202)

/-- A word, its letters in either case. -/
def anyCase (text : String) : Pattern :=
  .word (fun first second => first.toLower == second.toLower) text

/-- A word as it is written. -/
def exactly (text : String) : Pattern := .word (· == ·) text

end Pattern

end Manbaa.Lib
