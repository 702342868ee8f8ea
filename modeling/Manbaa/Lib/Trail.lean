import Mathlib.Data.List.Chain

/-!
# Trails of a value

A trail is a list of entries, each of which may say what a value was before a change and what it is
after it.  It tells the value if each entry goes on from the one before, and the last one says what
the value is now.  A value that is not there has no trail.
-/

namespace Manbaa.Lib

universe u v

variable {ε : Type u} {ν : Type v}

/-- Each entry starts from what the one before it has left, and the last one has left the current
value. -/
structure Tells (before after : ε → Option ν) (entries : List ε) (current : Option ν) : Prop where
  chain : entries.IsChain fun first second => before second = after first
  last : ∀ entry ∈ entries.getLast?, ∃ value, after entry = some value ∧ current = some value

variable {before after : ε → Option ν} {entries : List ε} {current next : Option ν} {entry : ε}
  {value : ν}

theorem Tells.nil : Tells before after [] current :=
  ⟨List.isChain_nil, fun entry mem => by cases mem⟩

/-- A value that is not there has no trail. -/
theorem Tells.eq_nil (tells : Tells before after entries none) : entries = [] := by
  cases lastEq : entries.getLast? with
  | none => exact List.getLast?_eq_none_iff.mp lastEq
  | some entry =>
      obtain ⟨value, _, absent⟩ := tells.last entry lastEq
      cases absent

/-- The trail tells a value that stays what it is, if it is there. -/
theorem Tells.kept (tells : Tells before after entries current)
    (same : current = none ∨ next = current) : Tells before after entries next := by
  rcases same with rfl | rfl
  · rw [tells.eq_nil]
    exact Tells.nil
  · exact tells

/-- An entry that goes on from the current value. -/
theorem Tells.append (tells : Tells before after entries current)
    (goesOn : current = none ∨ before entry = current) (left : after entry = some value) :
    Tells before after (entries ++ [entry]) (some value) := by
  refine ⟨tells.chain.append (List.isChain_singleton _) ?_, ?_⟩
  · intro first firstMem second secondMem
    obtain rfl : entry = second := by simpa using secondMem
    obtain ⟨old, leftOld, currentEq⟩ := tells.last first firstMem
    rcases goesOn with absent | goesOn
    · rw [absent] at currentEq
      cases currentEq
    · rw [goesOn, currentEq, leftOld]
  · intro last lastMem
    rw [List.getLast?_concat] at lastMem
    cases lastMem
    exact ⟨value, left, rfl⟩

end Manbaa.Lib
