import Manbaa.Lib.Program

/-!
# Programs that keep a contract

Programs beside each other keep a contract: each statement of theirs that finds a valid store
leaves a valid one, which the store has grown into.  A program may rely on the others for that,
and what it has ended with stays right however the store grows.

A program is safe, from a store that it has seen, if it keeps the contract and ends with what is
right.  Whatever the order of their statements, safe programs beside each other keep the store
valid, and all that have ended have ended with what is right.
-/

namespace Manbaa.Lib.Program

universe u v w

/-- Which stores are valid, and which stores a store may grow into. -/
structure Contract (σ : Type u) where
  valid : σ → Prop
  grows : σ → σ → Prop
  refl : ∀ store, grows store store
  trans : ∀ {first second third}, grows first second → grows second third → grows first third

variable {σ : Type u} {ε : Type v} {α β : Type w}

/-- From a store it has seen, the program keeps the contract, and what it returns is right. -/
def Safe (contract : Contract σ) (right : α → σ → Prop) : σ → Program σ ε α → Prop
  | _, done (.error _) => True
  | seen, done (.ok value) =>
      ∀ found, contract.valid found → contract.grows seen found → right value found
  | seen, step statement next => ∀ found, contract.valid found → contract.grows seen found →
      (contract.valid (statement found) ∧ contract.grows found (statement found)) ∧
        (next found).Safe contract right (statement found)

section

variable {contract : Contract σ} {right : α → σ → Prop} {seen future : σ}

/-- A program that is safe is safe later. -/
theorem Safe.later {program : Program σ ε α} (safe : program.Safe contract right seen)
    (since : contract.grows seen future) : program.Safe contract right future := by
  cases program with
  | done ended =>
      cases ended with
      | error error => trivial
      | ok value => exact fun found valid onwards => safe found valid (contract.trans since onwards)
  | step statement next =>
      exact fun found valid onwards => safe found valid (contract.trans since onwards)

/-- What is right may be less. -/
theorem Safe.weaken {program : Program σ ε α} {other : α → σ → Prop}
    (safe : program.Safe contract right seen)
    (implies : ∀ value found, contract.valid found → right value found → other value found) :
    program.Safe contract other seen := by
  induction program generalizing seen with
  | done ended =>
      cases ended with
      | error error => trivial
      | ok value => exact fun found valid since => implies value found valid (safe found valid since)
  | step statement next ih =>
      intro found valid since
      exact ⟨(safe found valid since).1, ih found (safe found valid since).2⟩

theorem safe_pure {value : α}
    (isRight : ∀ found, contract.valid found → contract.grows seen found → right value found) :
    (pure value : Program σ ε α).Safe contract right seen :=
  isRight

theorem safe_throw {error : ε} : (done (.error error) : Program σ ε α).Safe contract right seen :=
  trivial

variable {rest : β → Program σ ε α}

/-- A part of a program ends with what the rest of it relies on. -/
theorem Safe.bind {first : Program σ ε β} {middle : β → σ → Prop}
    (safe : first.Safe contract middle seen) (valid : contract.valid seen)
    (goesOn : ∀ value found, contract.valid found → contract.grows seen found →
      middle value found → (rest value).Safe contract right found) :
    (first >>= rest).Safe contract right seen := by
  change (first.andThen rest).Safe contract right seen
  induction first generalizing seen with
  | done ended =>
      cases ended with
      | error error => trivial
      | ok value =>
          exact goesOn value seen valid (contract.refl seen) (safe seen valid (contract.refl seen))
  | step statement next ih =>
      intro found isValid since
      have kept := (safe found isValid since).1
      refine ⟨kept, ih found (safe found isValid since).2 kept.1 ?_⟩
      intro value later laterValid onwards
      exact goesOn value later laterValid
        (contract.trans since (contract.trans kept.2 onwards))

theorem safe_query_bind {read : σ → β}
    (goesOn : ∀ found, contract.valid found → contract.grows seen found →
      (rest (read found)).Safe contract right found) :
    (query read >>= rest).Safe contract right seen :=
  fun found valid since => ⟨⟨valid, contract.refl found⟩, goesOn found valid since⟩

theorem safe_ask_bind {read : σ → Except ε β}
    (goesOn : ∀ found value, contract.valid found → contract.grows seen found →
      read found = .ok value → (rest value).Safe contract right found) :
    (ask read >>= rest).Safe contract right seen := by
  intro found valid since
  refine ⟨⟨valid, contract.refl found⟩, ?_⟩
  change ((done (read found)).andThen rest).Safe contract right found
  cases readEq : read found with
  | error error => trivial
  | ok value => exact goesOn found value valid since readEq

theorem safe_ask {read : σ → Except ε α}
    (isRight : ∀ found value later, contract.valid found → contract.grows seen found →
      read found = .ok value → contract.valid later → contract.grows found later →
      right value later) :
    (ask read).Safe contract right seen := by
  intro found valid since
  refine ⟨⟨valid, contract.refl found⟩, ?_⟩
  change (done (read found)).Safe contract right found
  cases readEq : read found with
  | error error => trivial
  | ok value => exact fun later => isRight found value later valid since readEq

theorem safe_ensure_bind {γ : Type} {right : γ → σ → Prop} {condition : Bool} {error : ε}
    {rest : Unit → Program σ ε γ} (goesOn : condition = true → (rest ()).Safe contract right seen) :
    (ensure condition error >>= rest).Safe contract right seen := by
  cases condition with
  | false => trivial
  | true => exact goesOn rfl

/-- A write that the store does not refuse keeps the contract. -/
theorem safe_write_bind {change : σ → Except ε (β × σ)}
    (goesOn : ∀ found value changed, contract.valid found → contract.grows seen found →
      change found = .ok (value, changed) →
        (contract.valid changed ∧ contract.grows found changed) ∧
          (rest value).Safe contract right changed) :
    (write change >>= rest).Safe contract right seen := by
  intro found valid since
  change _ ∧ ((done ((change found).map Prod.fst)).andThen rest).Safe contract right _
  dsimp only
  cases changeEq : change found with
  | error error => exact ⟨⟨valid, contract.refl found⟩, trivial⟩
  | ok changed => exact goesOn found changed.1 changed.2 valid since changeEq

theorem safe_write {change : σ → Except ε (α × σ)}
    (keeps : ∀ found value changed, contract.valid found → contract.grows seen found →
      change found = .ok (value, changed) →
        (contract.valid changed ∧ contract.grows found changed) ∧
          ∀ later, contract.valid later → contract.grows changed later → right value later) :
    (write change).Safe contract right seen := by
  intro found valid since
  change _ ∧ (done ((change found).map Prod.fst)).Safe contract right _
  dsimp only
  cases changeEq : change found with
  | error error => exact ⟨⟨valid, contract.refl found⟩, trivial⟩
  | ok changed => exact keeps found changed.1 changed.2 valid since changeEq

end

/-! ## Safe programs beside each other -/

variable {ρ : Type*} {answer : ρ → Program σ ε α} {contract : Contract σ} {asked : ρ → Prop}
  {right : ρ → α → σ → Prop}

/-- The store is valid, and every session is what is left of the safe answer to a request. -/
structure AllSafe (contract : Contract σ) (asked : ρ → Prop) (right : ρ → α → σ → Prop)
    (state : Sessions.State σ (Program σ ε α)) : Prop where
  valid : contract.valid state.store
  safe : ∀ program ∈ state.sessions, ∃ request, asked request ∧
    program.Safe contract (right request) state.store

/-- What a program has returned. -/
def returned : Program σ ε α → Option α
  | done (.ok value) => some value
  | _ => none

/-- What a session has returned is right of a request that was made. -/
theorem AllSafe.right_of_returned {state : Sessions.State σ (Program σ ε α)}
    (allSafe : AllSafe contract asked right state) {value : α}
    (ended : value ∈ state.sessions.filterMap returned) :
    ∃ request, asked request ∧ right request value state.store := by
  obtain ⟨program, programMem, returnedEq⟩ := List.mem_filterMap.mp ended
  obtain ⟨request, isAsked, safe⟩ := allSafe.safe program programMem
  refine ⟨request, isAsked, ?_⟩
  unfold returned at returnedEq
  split at returnedEq
  · cases returnedEq
    exact safe state.store allSafe.valid (contract.refl _)
  · cases returnedEq

theorem AllSafe.step {state reached : Sessions.State σ (Program σ ε α)}
    {action : Sessions.Action ρ Unit} (allSafe : AllSafe contract asked right state)
    (answers : ∀ request, asked request → ∀ store, contract.valid store →
      (answer request).Safe contract (right request) store)
    (isAsked : ∀ request, action = .start request → asked request)
    (stepEq : (beside answer).step state action = some reached) :
    AllSafe contract asked right reached ∧ contract.grows state.store reached.store := by
  rcases beside_step stepEq with ⟨request, rfl, rfl⟩ | ⟨index, statement, rest, rfl, found, rfl⟩
  · refine ⟨⟨allSafe.valid, ?_⟩, contract.refl _⟩
    intro program programMem
    rcases List.mem_append.mp programMem with old | new
    · exact allSafe.safe program old
    · rw [List.mem_singleton.mp new]
      exact ⟨request, isAsked request rfl, answers request (isAsked request rfl) _ allSafe.valid⟩
  · obtain ⟨request, requested, safe⟩ := allSafe.safe _ (List.mem_of_getElem? found)
    have kept := safe state.store allSafe.valid (contract.refl _)
    refine ⟨⟨kept.1.1, ?_⟩, kept.1.2⟩
    intro program programMem
    rcases List.mem_or_eq_of_mem_set programMem with old | rfl
    · obtain ⟨other, otherAsked, otherSafe⟩ := allSafe.safe program old
      exact ⟨other, otherAsked, otherSafe.later kept.1.2⟩
    · exact ⟨request, requested, kept.2⟩

/-- **Safe programs beside each other keep the contract**, whatever the order of their
statements. -/
theorem AllSafe.run {state reached : Sessions.State σ (Program σ ε α)}
    {actions : List (Sessions.Action ρ Unit)} (allSafe : AllSafe contract asked right state)
    (answers : ∀ request, asked request → ∀ store, contract.valid store →
      (answer request).Safe contract (right request) store)
    (isAsked : ∀ request, .start request ∈ actions → asked request)
    (runEq : (beside answer).step.run state actions = some reached) :
    AllSafe contract asked right reached ∧ contract.grows state.store reached.store := by
  induction actions generalizing state with
  | nil =>
      cases runEq
      exact ⟨allSafe, contract.refl _⟩
  | cons action rest ih =>
      obtain ⟨next, stepEq, restEq⟩ := Step.run_cons_eq_some_iff.mp runEq
      obtain ⟨nextSafe, grown⟩ := allSafe.step answers
        (fun request same => isAsked request (same ▸ List.mem_cons_self)) stepEq
      obtain ⟨reachedSafe, onwards⟩ := ih nextSafe
        (fun request mem => isAsked request (List.mem_cons_of_mem _ mem)) restEq
      exact ⟨reachedSafe, contract.trans grown onwards⟩

/-- Where no session runs yet, a valid store is all that is needed. -/
theorem allSafe_of_idle {state : Sessions.State σ (Program σ ε α)} (idle : state.sessions = [])
    (valid : contract.valid state.store) : AllSafe contract asked right state := by
  refine ⟨valid, ?_⟩
  rw [idle]
  exact nofun

end Manbaa.Lib.Program
