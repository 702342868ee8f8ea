import Mathlib.Data.List.Basic

/-!
# Keys that expire

A keyspace holds values under keys, each until its time is over.  A key is set whatever it
holds, or only if it holds nothing.

A key that is held until a deadline cannot be set as an absent one before the deadline, and
what is set under other keys leaves it held.
-/

namespace Manbaa.Lib.Expiring

universe u v

/-- A value under its key, and the time from which it is gone. -/
structure Entry (κ : Type u) (ν : Type v) where
  key : κ
  value : ν
  expiresAt : Nat

/-- What has been set, the newest entry first. -/
abbrev Keyspace (κ : Type u) (ν : Type v) := List (Entry κ ν)

namespace Keyspace

variable {κ : Type u} {ν : Type v} [DecidableEq κ]

/-- The value under a key, if its time is not over. -/
def get? (space : Keyspace κ ν) (now : Nat) (key : κ) : Option ν :=
  ((space.find? fun entry => entry.key = key).filter fun entry => now < entry.expiresAt).map
    Entry.value

/-- Set a key, whatever it holds. -/
def put (space : Keyspace κ ν) (key : κ) (value : ν) (expiresAt : Nat) : Keyspace κ ν :=
  ⟨key, value, expiresAt⟩ :: space

/-- Set a key only if it holds nothing. -/
def putIfAbsent (space : Keyspace κ ν) (now : Nat) (key : κ) (value : ν) (expiresAt : Nat) :
    Option (Keyspace κ ν) :=
  if (space.get? now key).isSome then none else some (space.put key value expiresAt)

/-- The key holds something from now on, up to the deadline. -/
def HeldUntil (space : Keyspace κ ν) (now : Nat) (key : κ) (deadline : Nat) : Prop :=
  ∀ time, now ≤ time → time < deadline → (space.get? time key).isSome = true

variable {space target : Keyspace κ ν} {now future expiresAt deadline : Nat} {key other : κ}
  {value found : ν}

theorem get?_put : (space.put key value expiresAt).get? now other =
    if key = other then (if now < expiresAt then some value else none)
    else space.get? now other := by
  by_cases same : key = other
  · by_cases isLive : now < expiresAt
    · simp [get?, put, same, isLive]
    · simpa [get?, put, same, isLive] using Nat.not_lt.mp isLive
  · simp [get?, put, same]

/-- What a key holds is the value of an entry that is not over. -/
theorem exists_of_get? (foundEq : space.get? now key = some found) :
    ∃ entry ∈ space, entry.key = key ∧ entry.value = found ∧ now < entry.expiresAt := by
  obtain ⟨entry, kept, rfl⟩ := Option.map_eq_some_iff.mp foundEq
  obtain ⟨first, isLive⟩ := Option.filter_eq_some_iff.mp kept
  have sameKey := List.find?_some first
  exact ⟨entry, List.mem_of_find?_eq_some first, of_decide_eq_true sameKey, rfl,
    of_decide_eq_true isLive⟩

theorem putIfAbsent_eq_some_iff : space.putIfAbsent now key value expiresAt = some target ↔
    space.get? now key = none ∧ target = space.put key value expiresAt := by
  rw [putIfAbsent]
  cases space.get? now key with
  | none => simp [eq_comm]
  | some held => simp

theorem HeldUntil.later (held : space.HeldUntil now key deadline) (since : now ≤ future) :
    space.HeldUntil future key deadline :=
  fun time after before => held time (Nat.le_trans since after) before

theorem heldUntil_put (covers : deadline ≤ expiresAt) :
    (space.put key value expiresAt).HeldUntil now key deadline := by
  intro time _ before
  rw [get?_put, if_pos rfl, if_pos (Nat.lt_of_lt_of_le before covers)]
  rfl

theorem HeldUntil.put_of_ne (held : space.HeldUntil now key deadline) (ne : other ≠ key) :
    (space.put other value expiresAt).HeldUntil now key deadline := by
  intro time after before
  rw [get?_put, if_neg ne]
  exact held time after before

/-- What is set as an absent key leaves a key held that is. -/
theorem HeldUntil.putIfAbsent (held : space.HeldUntil now key deadline)
    (setEq : space.putIfAbsent now other value expiresAt = some target) :
    target.HeldUntil now key deadline := by
  obtain ⟨absent, rfl⟩ := putIfAbsent_eq_some_iff.mp setEq
  by_cases same : other = key
  · subst same
    intro time after before
    have isHeld := held now (Nat.le_refl now) (Nat.lt_of_le_of_lt after before)
    rw [absent] at isHeld
    cases isHeld
  · exact held.put_of_ne same

end Keyspace

end Manbaa.Lib.Expiring
