import Mathlib.Data.List.Basic

/-!
# Streams that drop duplicates

A stream stores a message under an identifier, unless it has stored one under the same identifier
within a window of time.  Where messages about different things have different identifiers, what a
message is about reaches the stream even if the message is dropped.

Identifiers put together of parts tell the parts apart, if the separator is in none of the last
ones.
-/

namespace Manbaa.Lib.Deduplication

universe u v w

/-! ## Streams -/

/-- A message under its identifier, and when it was stored. -/
structure Entry (ι : Type u) (μ : Type v) where
  id : ι
  message : μ
  time : Nat

/-- What is stored, and the time. -/
structure MessageStream (ι : Type u) (μ : Type v) where
  entries : List (Entry ι μ)
  now : Nat

variable {ι : Type u} {μ : Type v} {β : Type w} [DecidableEq ι]

/-- A message with this identifier is a duplicate. -/
def MessageStream.Seen (window : Nat) (stream : MessageStream ι μ) (id : ι) : Prop :=
  ∃ entry ∈ stream.entries, entry.id = id ∧ stream.now < entry.time + window

instance (window : Nat) (stream : MessageStream ι μ) (id : ι) : Decidable (stream.Seen window id) :=
  inferInstanceAs (Decidable (∃ entry ∈ stream.entries, _))

/-- A message is published. -/
def MessageStream.publish (window : Nat) (stream : MessageStream ι μ) (id : ι) (message : μ) : MessageStream ι μ :=
  if stream.Seen window id then stream
  else { stream with entries := stream.entries ++ [⟨id, message, stream.now⟩] }

/-- Time passes. -/
def MessageStream.wait (stream : MessageStream ι μ) (duration : Nat) : MessageStream ι μ :=
  { stream with now := stream.now + duration }

variable {window : Nat} {stream : MessageStream ι μ} {id : ι} {message : μ} {entry : Entry ι μ}

/-- A message that is published is stored, or one with its identifier has been stored before. -/
theorem publish_cases (window : Nat) (stream : MessageStream ι μ) (id : ι) (message : μ) :
    (stream.publish window id message).entries = stream.entries ++ [⟨id, message, stream.now⟩] ∨
      (stream.publish window id message).entries = stream.entries ∧
        ∃ entry ∈ stream.entries, entry.id = id := by
  rw [MessageStream.publish]
  split
  · rename_i seen
    obtain ⟨entry, entryMem, sameId, _⟩ := seen
    exact Or.inr ⟨rfl, entry, entryMem, sameId⟩
  · exact Or.inl rfl

theorem mem_publish (entryMem : entry ∈ stream.entries) :
    entry ∈ (stream.publish window id message).entries := by
  rcases publish_cases window stream id message with stored | ⟨same, _⟩
  · rw [stored]
    exact List.mem_append_left _ entryMem
  · rw [same]
    exact entryMem

/-! ## Identifiers of parts -/

/-- A list is cut at its first separator in one way. -/
theorem append_cons_injective {α : Type u} {separator : α} {first second : List α}
    {before after : List α} (notBefore : separator ∉ before) (notAfter : separator ∉ after)
    (same : before ++ separator :: first = after ++ separator :: second) :
    before = after ∧ first = second := by
  induction before generalizing after with
  | nil =>
      cases after with
      | nil => exact ⟨rfl, (List.cons.inj same).2⟩
      | cons head rest =>
          have head := (List.cons.inj same).1
          exact absurd List.mem_cons_self (head ▸ notAfter)
  | cons head rest ih =>
      cases after with
      | nil =>
          have head := (List.cons.inj same).1
          exact absurd List.mem_cons_self (head ▸ notBefore)
      | cons other later =>
          obtain ⟨rfl, sameRest⟩ := List.cons.inj same
          obtain ⟨rfl, rfl⟩ := ih (fun inRest => notBefore (List.mem_cons_of_mem _ inRest))
            (fun inLater => notAfter (List.mem_cons_of_mem _ inLater)) sameRest
          exact ⟨rfl, rfl⟩

/-- A list is cut at its last separator in one way. -/
theorem append_cons_injective_last {α : Type u} {separator : α} {first second : List α}
    {before after : List α} (notFirst : separator ∉ first) (notSecond : separator ∉ second)
    (same : before ++ separator :: first = after ++ separator :: second) :
    before = after ∧ first = second := by
  have reversed : first.reverse ++ separator :: before.reverse =
      second.reverse ++ separator :: after.reverse := by
    simpa using congrArg List.reverse same
  obtain ⟨sameLast, sameBefore⟩ := append_cons_injective
    (fun inFirst => notFirst (List.mem_reverse.mp inFirst))
    (fun inSecond => notSecond (List.mem_reverse.mp inSecond)) reversed
  exact ⟨List.reverse_injective sameBefore, List.reverse_injective sameLast⟩

end Manbaa.Lib.Deduplication
