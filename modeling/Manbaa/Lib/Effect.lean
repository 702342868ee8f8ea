import Mathlib.Logic.Basic

/-!
# Stateful computations that may throw

A computation takes a state to a result and a next state; a state reached
before an exception is thrown is kept.  `transaction` is the computation that
keeps nothing of a failed one.

The equations take a computation apart: what it means for a sequence, a check,
a lookup or a transaction to return a value, and where it can have thrown.
-/

namespace Manbaa.Lib

universe u v w

/-- A computation on `σ` that returns an `α` or throws an `ε`. -/
def Effect (σ : Type u) (ε : Type v) (α : Type w) := σ → Except ε α × σ

namespace Effect

variable {σ : Type u} {ε : Type v} {α β : Type w}

instance : Monad (Effect σ ε) where
  pure value := fun state => (.ok value, state)
  bind first next := fun state =>
    match first state with
    | (.ok value, middle) => next value middle
    | (.error error, middle) => (.error error, middle)

/-- Throw. -/
def throwing (error : ε) : Effect σ ε α := fun state => (.error error, state)

/-- Read the state. -/
def reading (query : σ → α) : Effect σ ε α := fun state => (.ok (query state), state)

/-- A query that may throw. -/
def asking (query : σ → Except ε α) : Effect σ ε α := fun state => (query state, state)

/-- Change the state. -/
def writing (change : σ → σ) : Effect σ ε Unit := fun state => (.ok (), change state)

/-- Continue when the condition holds, throw otherwise. -/
def require (condition : Bool) (error : ε) : Effect σ ε Unit := fun state =>
  (if condition then .ok () else .error error, state)

/-- The value that is there, or the error that says that it is not. -/
def orThrow (value : Option α) (error : ε) : Effect σ ε α := fun state =>
  match value with
  | some value => (.ok value, state)
  | none => (.error error, state)

/-- Run a computation; if it throws, undo what it did and throw on. -/
def transaction (body : Effect σ ε α) : Effect σ ε α := fun state =>
  match body state with
  | (.ok value, next) => (.ok value, next)
  | (.error error, _) => (.error error, state)

/-- Run a computation and handle what it throws. -/
def catching (body : Effect σ ε α) (handler : ε → Effect σ ε α) : Effect σ ε α := fun state =>
  match body state with
  | (.ok value, next) => (.ok value, next)
  | (.error error, next) => handler error next

variable {state middle target : σ} {error : ε} {value : α} {result : β}

@[simp]
theorem pure_eq_ok_iff {returned : α} :
    (pure returned : Effect σ ε α) state = (.ok value, target) ↔
      returned = value ∧ state = target := by
  simp [pure]

@[simp]
theorem pure_ne_error {returned : α} :
    (pure returned : Effect σ ε α) state ≠ (.error error, target) := by
  simp [pure]

theorem bind_eq_ok_iff {first : Effect σ ε α} {next : α → Effect σ ε β} :
    (first >>= next) state = (.ok result, target) ↔
      ∃ value middle, first state = (.ok value, middle) ∧
        next value middle = (.ok result, target) := by
  change (match first state with
    | (.ok value, middle) => next value middle
    | (.error error, middle) => (.error error, middle)) = _ ↔ _
  rcases first state with ⟨_ | value, middle⟩ <;> simp [and_assoc]

theorem bind_eq_error_iff {first : Effect σ ε α} {next : α → Effect σ ε β} :
    (first >>= next) state = (.error error, target) ↔
      first state = (.error error, target) ∨
        ∃ value middle, first state = (.ok value, middle) ∧
          next value middle = (.error error, target) := by
  change (match first state with
    | (.ok value, middle) => next value middle
    | (.error error, middle) => (.error error, middle)) = _ ↔ _
  rcases first state with ⟨_ | value, middle⟩ <;> simp [and_assoc]

/-- A sequence whose first part is known to return goes on with the second. -/
theorem bind_of_ok {first : Effect σ ε α} {next : α → Effect σ ε β}
    (firstEq : first state = (.ok value, middle)) :
    (first >>= next) state = next value middle := by
  change (match first state with
    | (.ok value, middle) => next value middle
    | (.error error, middle) => (.error error, middle)) = _
  rw [firstEq]

theorem pure_then (value : α) (next : α → Effect σ ε β) :
    (pure value : Effect σ ε α) >>= next = next value :=
  rfl

theorem bind_bind {γ : Type w} (first : Effect σ ε α) (second : α → Effect σ ε β)
    (last : β → Effect σ ε γ) :
    first >>= second >>= last = first >>= fun value => second value >>= last := by
  funext state
  rcases firstEq : first state with ⟨thrown | value, middle⟩
  · rw [bind_eq_error_iff.mpr (Or.inl firstEq),
      bind_eq_error_iff.mpr (Or.inl (bind_eq_error_iff.mpr (Or.inl firstEq)))]
  · rw [bind_of_ok firstEq]
    rcases secondEq : second value middle with ⟨thrown | result, after⟩
    · rw [bind_eq_error_iff.mpr (Or.inl secondEq),
        bind_eq_error_iff.mpr (Or.inl ((bind_of_ok firstEq).trans secondEq))]
    · rw [bind_of_ok secondEq, bind_of_ok ((bind_of_ok firstEq).trans secondEq)]

theorem ite_bind (condition : Prop) [Decidable condition] (first second : Effect σ ε α)
    (next : α → Effect σ ε β) :
    (if condition then first else second) >>= next =
      if condition then first >>= next else second >>= next :=
  apply_ite (· >>= next) condition first second

/-- Renaming the result of a computation does not decide whether it returns. -/
theorem bind_pure_returns_iff {γ : Type w} {body : Effect σ ε α} {name : α → γ} :
    (∃ named target, (body >>= fun value => pure (name value)) state = (.ok named, target)) ↔
      ∃ value target, body state = (.ok value, target) := by
  constructor
  · rintro ⟨named, target, bodyEq⟩
    obtain ⟨value, middle, firstEq, _⟩ := bind_eq_ok_iff.mp bodyEq
    exact ⟨value, middle, firstEq⟩
  · rintro ⟨value, target, bodyEq⟩
    exact ⟨name value, target, bind_of_ok bodyEq⟩

@[simp]
theorem throwing_ne_ok : (throwing error : Effect σ ε α) state ≠ (.ok value, target) := by
  simp [throwing]

@[simp]
theorem reading_eq_ok_iff {query : σ → α} :
    (reading query : Effect σ ε α) state = (.ok value, target) ↔
      query state = value ∧ state = target := by
  simp [reading]

@[simp]
theorem reading_ne_error {query : σ → α} :
    (reading query : Effect σ ε α) state ≠ (.error error, target) := by
  simp [reading]

@[simp]
theorem asking_eq_ok_iff {query : σ → Except ε α} :
    asking query state = (.ok value, target) ↔ query state = .ok value ∧ state = target := by
  simp [asking]

@[simp]
theorem asking_eq_error_iff {query : σ → Except ε α} :
    asking query state = (.error error, target) ↔
      query state = .error error ∧ state = target := by
  simp [asking]

@[simp]
theorem writing_eq_ok_iff {change : σ → σ} {done : Unit} :
    (writing change : Effect σ ε Unit) state = (.ok done, target) ↔ change state = target := by
  simp [writing]

@[simp]
theorem writing_ne_error {change : σ → σ} :
    (writing change : Effect σ ε Unit) state ≠ (.error error, target) := by
  simp [writing]

@[simp]
theorem require_eq_ok_iff {condition : Bool} {done : Unit} :
    require condition error state = (.ok done, target) ↔ condition = true ∧ state = target := by
  cases condition <;> simp [require]

@[simp]
theorem require_eq_error_iff {condition : Bool} {thrown : ε} :
    require condition error state = (.error thrown, target) ↔
      condition = false ∧ error = thrown ∧ state = target := by
  cases condition <;> simp [require]

@[simp]
theorem orThrow_eq_ok_iff {present : Option α} :
    orThrow present error state = (.ok value, target) ↔ present = some value ∧ state = target := by
  cases present <;> simp [orThrow]

@[simp]
theorem orThrow_eq_error_iff {present : Option α} {thrown : ε} :
    (orThrow present error : Effect σ ε α) state = (.error thrown, target) ↔
      present = none ∧ error = thrown ∧ state = target := by
  cases present <;> simp [orThrow]

@[simp]
theorem transaction_eq_ok_iff {body : Effect σ ε α} :
    transaction body state = (.ok value, target) ↔ body state = (.ok value, target) := by
  rcases bodyEq : body state with ⟨_ | _, _⟩ <;> simp [transaction, bodyEq]

/-- A transaction that throws leaves the state as it found it. -/
@[simp]
theorem transaction_eq_error_iff {body : Effect σ ε α} :
    transaction body state = (.error error, target) ↔
      state = target ∧ ∃ reached, body state = (.error error, reached) := by
  rcases bodyEq : body state with ⟨_ | _, _⟩ <;> simp [transaction, bodyEq, and_comm]

@[simp]
theorem catching_eq_ok_iff {body : Effect σ ε α} {handler : ε → Effect σ ε α} :
    catching body handler state = (.ok value, target) ↔
      body state = (.ok value, target) ∨
        ∃ error middle, body state = (.error error, middle) ∧
          handler error middle = (.ok value, target) := by
  rcases bodyEq : body state with ⟨_ | _, _⟩ <;> simp [catching, bodyEq, and_assoc]

@[simp]
theorem catching_eq_error_iff {body : Effect σ ε α} {handler : ε → Effect σ ε α} :
    catching body handler state = (.error error, target) ↔
      ∃ thrown middle, body state = (.error thrown, middle) ∧
        handler thrown middle = (.error error, target) := by
  rcases bodyEq : body state with ⟨_ | _, _⟩ <;> simp [catching, bodyEq, and_assoc]

/-! ## Computations that leave the state alone -/

/-- The computation never changes the state. -/
def ReadOnly (body : Effect σ ε α) : Prop :=
  ∀ state result target, body state = (result, target) → state = target

/-- The computation changes nothing when it throws. -/
def Atomic (body : Effect σ ε α) : Prop :=
  ∀ state error target, body state = (.error error, target) → state = target

theorem ReadOnly.state_eq {body : Effect σ ε α} (reads : ReadOnly body) :
    (body state).2 = state :=
  (reads state (body state).1 (body state).2 rfl).symm

/-- What holds after a sequence: after its first part if that throws, and after the
second one otherwise. -/
theorem after_bind {first : Effect σ ε α} {next : α → Effect σ ε β} {holds : σ → Prop}
    (thrown : ∀ error middle, first state = (.error error, middle) → holds middle)
    (returned : ∀ value middle, first state = (.ok value, middle) → holds (next value middle).2) :
    holds ((first >>= next) state).2 := by
  change holds (match first state with
    | (.ok value, middle) => next value middle
    | (.error error, middle) => (.error error, middle)).2
  rcases firstEq : first state with ⟨error | value, middle⟩
  · exact thrown error middle firstEq
  · exact returned value middle firstEq

/-- A part that only reads may be skipped. -/
theorem ReadOnly.after_bind {first : Effect σ ε α} {next : α → Effect σ ε β} {holds : σ → Prop}
    (reads : ReadOnly first) (before : holds state)
    (returned : ∀ value, first state = (.ok value, state) → holds (next value state).2) :
    holds ((first >>= next) state).2 := by
  apply Effect.after_bind
  · intro error middle firstEq
    rw [← reads _ _ _ firstEq]
    exact before
  · intro value middle firstEq
    have same := reads _ _ _ firstEq
    subst same
    exact returned value firstEq

theorem readOnly_reading {query : σ → α} : ReadOnly (reading query : Effect σ ε α) := by
  intro state result target bodyEq
  exact (Prod.mk.inj bodyEq).2

theorem readOnly_asking {query : σ → Except ε α} : ReadOnly (asking query) := by
  intro state result target bodyEq
  exact (Prod.mk.inj bodyEq).2

theorem readOnly_require {condition : Bool} :
    ReadOnly (require condition error : Effect σ ε Unit) := by
  intro state result target bodyEq
  exact (Prod.mk.inj bodyEq).2

theorem readOnly_orThrow {present : Option α} :
    ReadOnly (orThrow present error : Effect σ ε α) := by
  intro state result target bodyEq
  cases present with
  | none => exact (Prod.mk.inj bodyEq).2
  | some value => exact (Prod.mk.inj bodyEq).2

theorem readOnly_pure : ReadOnly (pure value : Effect σ ε α) := by
  intro state result target bodyEq
  exact (Prod.mk.inj bodyEq).2

theorem ReadOnly.bind {first : Effect σ ε α} {next : α → Effect σ ε β}
    (firstReads : ReadOnly first) (nextReads : ∀ value, ReadOnly (next value)) :
    ReadOnly (first >>= next) := by
  intro state result target bodyEq
  cases result with
  | error thrown =>
      rcases bind_eq_error_iff.mp bodyEq with firstEq | ⟨value, middle, firstEq, nextEq⟩
      · exact firstReads _ _ _ firstEq
      · exact (firstReads _ _ _ firstEq).trans (nextReads value _ _ _ nextEq)
  | ok returned =>
      obtain ⟨value, middle, firstEq, nextEq⟩ := bind_eq_ok_iff.mp bodyEq
      exact (firstReads _ _ _ firstEq).trans (nextReads value _ _ _ nextEq)

theorem ReadOnly.atomic {body : Effect σ ε α} (reads : ReadOnly body) : Atomic body := by
  intro state thrown target bodyEq
  exact reads _ _ _ bodyEq

theorem atomic_writing {change : σ → σ} : Atomic (writing change : Effect σ ε Unit) := by
  intro state thrown target bodyEq
  cases bodyEq

theorem atomic_transaction {body : Effect σ ε α} : Atomic (transaction body) := by
  intro state thrown target bodyEq
  exact (transaction_eq_error_iff.mp bodyEq).1

/-- A transaction leaves what its computation leaves, or everything as it
was. -/
theorem transaction_state (body : Effect σ ε α) (state : σ) :
    (transaction body state).2 = (body state).2 ∨ (transaction body state).2 = state := by
  rcases bodyEq : body state with ⟨thrown | returned, target⟩
  · exact Or.inr (by simp [transaction, bodyEq])
  · exact Or.inl (by simp [transaction, bodyEq])

/-- What a transaction leaves has a property that it found, if its computation
keeps it when it returns. -/
theorem transaction_keeps {inv : σ → Prop} {body : Effect σ ε α} (holds : inv state)
    (keeps : ∀ value target, body state = (.ok value, target) → inv target) :
    inv (transaction body state).2 := by
  rcases bodyEq : body state with ⟨thrown | returned, target⟩
  · simp only [transaction, bodyEq]
    exact holds
  · simp only [transaction, bodyEq]
    exact keeps returned target bodyEq

/-- What a sequence leaves has a property, if its first part leaves it where it
throws and the second part where the first returns. -/
theorem bind_keeps {inv : σ → Prop} {first : Effect σ ε α} {next : α → Effect σ ε β}
    (left : inv (first state).2)
    (keeps : ∀ value middle, first state = (.ok value, middle) → inv (next value middle).2) :
    inv ((first >>= next) state).2 := by
  rcases firstEq : first state with ⟨thrown | value, middle⟩
  · have bindEq : (first >>= next) state = (.error thrown, middle) :=
      bind_eq_error_iff.mpr (Or.inl firstEq)
    rw [firstEq] at left
    rw [bindEq]
    exact left
  · rw [bind_of_ok firstEq]
    exact keeps value middle firstEq

/-- Two sequences whose first parts only read return the same, if their parts do. -/
theorem ReadOnly.bind_result {first second : Effect σ ε α} {next after : α → Effect σ ε β}
    {other : σ} (firstReads : ReadOnly first) (secondReads : ReadOnly second)
    (same : (first state).1 = (second other).1)
    (rest : ∀ value, (next value state).1 = (after value other).1) :
    ((first >>= next) state).1 = ((second >>= after) other).1 := by
  have firstEq : first state = ((second other).1, state) := Prod.ext same firstReads.state_eq
  have secondEq : second other = ((second other).1, other) := Prod.ext rfl secondReads.state_eq
  cases resultEq : (second other).1 with
  | ok value =>
      rw [resultEq] at firstEq secondEq
      rw [bind_of_ok firstEq, bind_of_ok secondEq]
      exact rest value
  | error thrown =>
      rw [resultEq] at firstEq secondEq
      rw [bind_eq_error_iff.mpr (Or.inl firstEq), bind_eq_error_iff.mpr (Or.inl secondEq)]

/-- What a sequence leaves, when its first part only reads. -/
theorem ReadOnly.bind_keeps {inv : σ → Prop} {first : Effect σ ε α} {next : α → Effect σ ε β}
    (reads : ReadOnly first) (holds : inv state)
    (keeps : ∀ value, first state = (.ok value, state) → inv (next value state).2) :
    inv ((first >>= next) state).2 := by
  apply Effect.bind_keeps
  · rw [reads.state_eq]
    exact holds
  · intro value middle firstEq
    obtain rfl := reads _ _ _ firstEq
    exact keeps value firstEq

/-- Reading first keeps a computation atomic. -/
theorem ReadOnly.bind_atomic {first : Effect σ ε α} {next : α → Effect σ ε β}
    (firstReads : ReadOnly first) (nextAtomic : ∀ value, Atomic (next value)) :
    Atomic (first >>= next) := by
  intro state thrown target bodyEq
  rcases bind_eq_error_iff.mp bodyEq with firstEq | ⟨value, middle, firstEq, nextEq⟩
  · exact firstReads _ _ _ firstEq
  · exact (firstReads _ _ _ firstEq).trans (nextAtomic value _ _ _ nextEq)

/-! ## Computations on a part of the state -/

section
variable {τ : Type u} {get : σ → τ} {set : τ → σ → σ}

/-- A computation on a part of the state, as one on the whole. -/
def zoom (get : σ → τ) (set : τ → σ → σ) (body : Effect τ ε α) : Effect σ ε α := fun state =>
  match body (get state) with
  | (result, part) => (result, set part state)

theorem zoom_eq_iff {body : Effect τ ε α} {result : Except ε α} :
    zoom get set body state = (result, target) ↔
      ∃ part, body (get state) = (result, part) ∧ set part state = target := by
  rcases bodyEq : body (get state) with ⟨returned, part⟩
  simp only [zoom, bodyEq, Prod.mk.injEq]
  constructor
  · rintro ⟨rfl, rfl⟩
    exact ⟨part, ⟨rfl, rfl⟩, rfl⟩
  · rintro ⟨_, ⟨rfl, rfl⟩, rfl⟩
    exact ⟨rfl, rfl⟩

/-- What only reads the part only reads the whole. -/
theorem ReadOnly.zoom {body : Effect τ ε α} (reads : ReadOnly body)
    (law : ∀ state, set (get state) state = state) : ReadOnly (zoom get set body) := by
  intro state result target bodyEq
  obtain ⟨part, partEq, rfl⟩ := zoom_eq_iff.mp bodyEq
  rw [← reads _ _ _ partEq, law]

end

/-! ## Loops -/

section
variable {ι : Type v}

/-- A computation for each item of a list, from the first to the last. -/
def each : List ι → (ι → Effect σ ε PUnit) → Effect σ ε PUnit
  | [], _ => pure ⟨⟩
  | item :: rest, body => do
      body item
      each rest body

/-- The invariant rule for loops: the invariant speaks of the items that are left
and of the state. -/
theorem each_invariant {body : ι → Effect σ ε PUnit} {inv : List ι → σ → Prop}
    (keeps : ∀ item rest state target, inv (item :: rest) state →
      body item state = (.ok ⟨⟩, target) → inv rest target)
    {items : List ι} {state target : σ} (start : inv items state)
    (done : each items body state = (.ok ⟨⟩, target)) : inv [] target := by
  induction items generalizing state with
  | nil =>
      obtain ⟨_, rfl⟩ := pure_eq_ok_iff.mp done
      exact start
  | cons item rest ih =>
      obtain ⟨_, middle, itemEq, restEq⟩ := bind_eq_ok_iff.mp done
      exact ih (keeps item rest state middle start itemEq) restEq

end

/-! ## Properties that are kept -/

/-- A computation keeps a property of the state, however it ends. -/
def Preserves (inv : σ → Prop) (body : Effect σ ε α) : Prop :=
  ∀ state, inv state → inv (body state).2

section
variable {inv : σ → Prop}

theorem ReadOnly.preserves {body : Effect σ ε α} (reads : ReadOnly body) :
    Preserves inv body := by
  intro state holds
  rw [reads.state_eq]
  exact holds

theorem preserves_throwing : Preserves inv (throwing error : Effect σ ε α) :=
  fun _ holds => holds

theorem Preserves.bind {first : Effect σ ε α} {next : α → Effect σ ε β}
    (firstKeeps : Preserves inv first) (nextKeeps : ∀ value, Preserves inv (next value)) :
    Preserves inv (first >>= next) := by
  intro state holds
  apply bind_keeps (firstKeeps state holds)
  intro value middle firstEq
  have middleHolds := firstKeeps state holds
  rw [firstEq] at middleHolds
  exact nextKeeps value middle middleHolds

theorem Preserves.transaction {body : Effect σ ε α} (keeps : Preserves inv body) :
    Preserves inv (transaction body) := by
  intro state holds
  rcases transaction_state body state with sameEq | sameEq
  · rw [sameEq]
    exact keeps state holds
  · rw [sameEq]
    exact holds

end

/-! ## Which exceptions are thrown -/

/-- Started in this state, the computation throws allowed exceptions only. -/
def OnlyThrows (allowed : ε → Prop) (body : Effect σ ε α) (state : σ) : Prop :=
  ∀ error target, body state = (.error error, target) → allowed error

variable {allowed : ε → Prop}

/-- Both parts of a sequence throw what the sequence may throw. -/
theorem OnlyThrows.of_bind {first : Effect σ ε α} {next : α → Effect σ ε β}
    (only : OnlyThrows allowed (first >>= next) state) :
    OnlyThrows allowed first state ∧
      ∀ value middle, first state = (.ok value, middle) →
        OnlyThrows allowed (next value) middle := by
  constructor
  · intro error target firstEq
    exact only error target (bind_eq_error_iff.mpr (Or.inl firstEq))
  · intro value middle firstEq error target nextEq
    exact only error target (bind_eq_error_iff.mpr (Or.inr ⟨value, middle, firstEq, nextEq⟩))

/-- A computation that throws nothing that is allowed returns. -/
theorem OnlyThrows.returns {body : Effect σ ε α} (only : OnlyThrows allowed body state)
    (never : ∀ error target, body state = (.error error, target) → ¬ allowed error) :
    ∃ value target, body state = (.ok value, target) := by
  rcases bodyEq : body state with ⟨error | value, target⟩
  · exact absurd (only error target bodyEq) (never error target bodyEq)
  · exact ⟨value, target, rfl⟩

end Effect

end Manbaa.Lib
