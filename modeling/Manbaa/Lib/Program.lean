import Manbaa.Lib.Effect
import Manbaa.Lib.Sessions

/-!
# Programs of statements

A program runs statements on a store, one after the other; how it goes on may depend on
what a statement has found.  One program can run alone, or any number of them beside each
other, one statement at a time and in any order.

What every statement of a program does to the store is proved once, along the way in which
the program is put together.
-/

namespace Manbaa.Lib

universe u v w

/-- A program that has ended, or the statement that it runs next: what the statement does to
the store, and how the program goes on from the store that the statement found. -/
inductive Program (σ : Type u) (ε : Type v) (α : Type w) where
  | done (result : Except ε α)
  | step (statement : σ → σ) (next : σ → Program σ ε α)

namespace Program

variable {σ : Type u} {ε : Type v} {α β : Type w}

/-- Go on with another program, unless this one throws. -/
def andThen : Program σ ε α → (α → Program σ ε β) → Program σ ε β
  | done (.ok value), rest => rest value
  | done (.error error), _ => done (.error error)
  | step statement next, rest => step statement fun found => (next found).andThen rest

instance : Monad (Program σ ε) where
  pure value := done (.ok value)
  bind := andThen

/-- Read the store. -/
def query (read : σ → α) : Program σ ε α := step id fun found => done (.ok (read found))

/-- A query that may throw. -/
def ask (read : σ → Except ε α) : Program σ ε α := step id fun found => done (read found)

/-- Write to the store, unless the store refuses the statement. -/
def write (change : σ → Except ε (α × σ)) : Program σ ε α :=
  step
    (fun found =>
      match change found with
      | .ok (_, changed) => changed
      | .error _ => found)
    fun found => done ((change found).map Prod.fst)

/-- Throw if the condition fails. -/
def ensure (condition : Bool) (error : ε) : Program σ ε Unit :=
  done (if condition then .ok () else .error error)

/-- Run a program only if the condition holds. -/
def onlyIf (condition : Bool) (body : Program σ ε Unit) : Program σ ε Unit :=
  if condition then body else done (.ok ())

/-! ## One program alone -/

/-- Run a program to its end, with nothing beside it. -/
def alone : Program σ ε α → Effect σ ε α
  | done result => fun store => (result, store)
  | step statement next => fun store => (next store).alone (statement store)

variable {store target : σ} {value : α} {result : β} {error : ε}

@[simp]
theorem alone_bind {first : Program σ ε α} {rest : α → Program σ ε β} :
    (first >>= rest).alone = first.alone >>= fun value => (rest value).alone := by
  funext store
  change (first.andThen rest).alone store = _
  induction first generalizing store with
  | done ended => cases ended <;> rfl
  | step statement next ih => exact ih store (statement store)

@[simp]
theorem alone_pure : (pure value : Program σ ε α).alone = pure value :=
  rfl

@[simp]
theorem alone_query {read : σ → α} : (query read : Program σ ε α).alone = Effect.reading read :=
  rfl

@[simp]
theorem alone_ask {read : σ → Except ε α} : (ask read).alone = Effect.asking read :=
  rfl

theorem alone_ask_of_ok {read : σ → Except ε α} (readEq : read store = .ok value) :
    (ask read).alone store = (.ok value, store) :=
  Prod.ext readEq rfl

@[simp]
theorem alone_ensure {condition : Bool} :
    (ensure condition error : Program σ ε Unit).alone = Effect.require condition error :=
  rfl

theorem alone_write_eq_ok_iff {change : σ → Except ε (α × σ)} :
    (write change).alone store = (.ok value, target) ↔ change store = .ok (value, target) := by
  cases changeEq : change store with
  | ok changed => simp [write, alone, changeEq, Except.map, Prod.ext_iff]
  | error error => simp [write, alone, changeEq, Except.map]

theorem alone_write_eq_error_iff {change : σ → Except ε (α × σ)} :
    (write change).alone store = (.error error, target) ↔
      change store = .error error ∧ store = target := by
  cases changeEq : change store with
  | ok changed => simp [write, alone, changeEq, Except.map]
  | error error => simp [write, alone, changeEq, Except.map]

variable {first : Program σ ε α} {rest : α → Program σ ε β} {ended : Except ε β}

/-- What a program does that starts with a query. -/
@[simp]
theorem alone_query_bind {read : σ → α} :
    (query read >>= rest).alone store = (rest (read store)).alone store :=
  rfl

/-- A query that may throw: the program ends there, or it goes on. -/
theorem alone_ask_cases {read : σ → Except ε α}
    (runEq : (ask read >>= rest).alone store = (ended, target)) :
    (∃ error, ended = .error error ∧ target = store) ∨
      ∃ value, read store = .ok value ∧ (rest value).alone store = (ended, target) := by
  change ((done (read store)).andThen rest).alone store = _ at runEq
  cases readEq : read store with
  | error error =>
      rw [readEq] at runEq
      cases runEq
      exact Or.inl ⟨error, rfl, rfl⟩
  | ok value =>
      rw [readEq] at runEq
      exact Or.inr ⟨value, rfl, runEq⟩

/-- A check: the program ends there, or it goes on. -/
theorem alone_ensure_cases {γ : Type} {rest : Unit → Program σ ε γ} {ended : Except ε γ}
    {condition : Bool}
    (runEq : (ensure condition error >>= rest).alone store = (ended, target)) :
    (∃ error, ended = .error error ∧ target = store) ∨
      condition = true ∧ (rest ()).alone store = (ended, target) := by
  cases condition with
  | false =>
      cases runEq
      exact Or.inl ⟨error, rfl, rfl⟩
  | true => exact Or.inr ⟨rfl, runEq⟩

/-- A query that is only made on a condition: the program ends there, or it goes on. -/
theorem alone_onlyIf_cases {γ : Type} {rest : Unit → Program σ ε γ} {ended : Except ε γ}
    {condition : Bool} {read : σ → Except ε Unit}
    (runEq : (onlyIf condition (ask read) >>= rest).alone store = (ended, target)) :
    (∃ error, ended = .error error ∧ target = store) ∨
      (condition = true → read store = .ok ()) ∧ (rest ()).alone store = (ended, target) := by
  cases condition with
  | false => exact Or.inr ⟨nofun, runEq⟩
  | true =>
      rcases alone_ask_cases runEq with thrown | ⟨_, readEq, restEq⟩
      · exact Or.inl thrown
      · exact Or.inr ⟨fun _ => readEq, restEq⟩

/-- A write: it is refused, or it is done. -/
theorem alone_write_cases {change : σ → Except ε (β × σ)}
    (runEq : (write change).alone store = (ended, target)) :
    (∃ error, ended = .error error ∧ target = store) ∨
      ∃ value, ended = .ok value ∧ change store = .ok (value, target) := by
  cases ended with
  | error error => exact Or.inl ⟨error, rfl, (alone_write_eq_error_iff.mp runEq).2.symm⟩
  | ok value => exact Or.inr ⟨value, rfl, alone_write_eq_ok_iff.mp runEq⟩

/-- A write that the store refuses has done nothing. -/
theorem transaction_write {change : σ → Except ε (α × σ)} :
    Effect.transaction (write change).alone = (write change).alone := by
  funext store
  cases changeEq : change store with
  | ok changed => simp [write, alone, Effect.transaction, changeEq, Except.map]
  | error error => simp [write, alone, Effect.transaction, changeEq, Except.map]

/-! ## What every statement does -/

/-- Every statement of a program relates the store that it finds to the one that it leaves. -/
def Each (related : σ → σ → Prop) : Program σ ε α → Prop
  | done _ => True
  | step statement next =>
      (∀ found, related found (statement found)) ∧ ∀ found, (next found).Each related

variable {related : σ → σ → Prop}

theorem Each.mono {other : σ → σ → Prop} {program : Program σ ε α} (each : program.Each related)
    (implied : ∀ before after, related before after → other before after) :
    program.Each other := by
  induction program with
  | done ended => trivial
  | step statement next ih =>
      exact ⟨fun found => implied _ _ (each.1 found), fun found => ih found (each.2 found)⟩

theorem each_pure : (pure value : Program σ ε α).Each related :=
  trivial

theorem Each.bind {first : Program σ ε α} {rest : α → Program σ ε β}
    (firstEach : first.Each related) (restEach : ∀ value, (rest value).Each related) :
    (first >>= rest).Each related := by
  change (first.andThen rest).Each related
  induction first with
  | done ended =>
      cases ended with
      | ok value => exact restEach value
      | error error => trivial
  | step statement next ih =>
      exact ⟨firstEach.1, fun found => ih found (firstEach.2 found)⟩

theorem each_ensure {condition : Bool} :
    (ensure condition error : Program σ ε Unit).Each related :=
  trivial

theorem Each.onlyIf {condition : Bool} {body : Program σ ε Unit} (bodyEach : body.Each related) :
    (onlyIf condition body).Each related := by
  cases condition with
  | false => trivial
  | true => exact bodyEach

theorem each_query (refl : ∀ store, related store store) {read : σ → α} :
    (query read : Program σ ε α).Each related :=
  ⟨refl, fun _ => trivial⟩

theorem each_ask (refl : ∀ store, related store store) {read : σ → Except ε α} :
    (ask read).Each related :=
  ⟨refl, fun _ => trivial⟩

/-- A write does what it does when the store does not refuse it. -/
theorem each_write (refl : ∀ store, related store store) {change : σ → Except ε (α × σ)}
    (changes : ∀ found value changed, change found = .ok (value, changed) →
      related found changed) : (write change).Each related := by
  constructor
  · intro found
    dsimp only
    split
    · exact changes found _ _ ‹_›
    · exact refl found
  · intro found
    trivial

/-- What relates a store to the next one relates the two ends of a program that runs
alone. -/
theorem Each.alone {program : Program σ ε α} (each : program.Each related)
    (refl : ∀ store, related store store)
    (trans : ∀ first second third, related first second → related second third →
      related first third) : related store (program.alone store).2 := by
  induction program generalizing store with
  | done ended => exact refl store
  | step statement next ih =>
      exact trans _ _ _ (each.1 store) (ih store (each.2 store))

/-! ## Programs beside each other -/

/-- Requests are answered by programs, which take their statements in any order. -/
def beside {ρ : Type*} (answer : ρ → Program σ ε α) : Sessions σ (Program σ ε α) ρ Unit where
  start := fun store request => (store, some (answer request))
  advance := fun store _ program _ =>
    match program with
    | done _ => none
    | step statement next => some (statement store, next store)

/-- What a program does next to the store. -/
def upcoming : Program σ ε α → σ → σ
  | done _ => id
  | step statement _ => statement

section

variable {requests : Type*} {answer : requests → Program σ ε α}
  {state reached : Sessions.State σ (Program σ ε α)} {action : Sessions.Action requests Unit}

/-- What programs beside each other do in a step. -/
theorem beside_step (stepEq : (beside answer).step state action = some reached) :
    (∃ request, action = .start request ∧
      reached = ⟨state.store, state.sessions ++ [answer request]⟩) ∨
    ∃ index statement rest, action = .advance index () ∧
      state.sessions[index]? = some (.step statement rest) ∧
      reached = ⟨statement state.store, state.sessions.set index (rest state.store)⟩ := by
  rcases Sessions.step_cases stepEq with ⟨request, actionEq, reachedEq⟩ |
    ⟨index, choice, program, store, program', actionEq, programEq, advanceEq, reachedEq⟩
  · exact Or.inl ⟨request, actionEq, reachedEq⟩
  · cases program with
    | done ended => cases advanceEq
    | step statement rest =>
        cases advanceEq
        exact Or.inr ⟨index, statement, rest, actionEq, programEq, reachedEq⟩

/-- What every statement of every program does holds of what runs. -/
theorem each_beside (each : ∀ request, (answer request).Each related)
    (running : ∀ program ∈ state.sessions, program.Each related)
    (stepEq : (beside answer).step state action = some reached) :
    ∀ program ∈ reached.sessions, program.Each related := by
  rcases beside_step stepEq with ⟨request, rfl, rfl⟩ | ⟨index, statement, rest, rfl, found, rfl⟩
  · intro program programMem
    rcases List.mem_append.mp programMem with old | new
    · exact running program old
    · rw [List.mem_singleton.mp new]
      exact each request
  · intro program programMem
    rcases List.mem_or_eq_of_mem_set programMem with old | rfl
    · exact running program old
    · exact (running _ (List.mem_of_getElem? found)).2 state.store

/-- The next statement of a program does what is needed to the store. -/
def NextMeets (needed : σ → σ → Prop) (store : σ) (_ : List (Program σ ε α))
    (program : Program σ ε α) (_ : Unit) : Prop :=
  needed store (program.upcoming store)

instance {needed : σ → σ → Prop} [∀ before after, Decidable (needed before after)] (store : σ)
    (others : List (Program σ ε α)) (program : Program σ ε α) (choice : Unit) :
    Decidable (NextMeets needed store others program choice) :=
  inferInstanceAs (Decidable (needed _ _))

/-- Where a statement leaves a good store exactly if it does what is needed, the store stays good
exactly as long as every statement does. -/
theorem always_iff_meets {good : σ → Prop} {needed : σ → σ → Prop}
    (each : ∀ request, (answer request).Each related)
    (same : ∀ before after, good before → related before after →
      (good after ↔ needed before after))
    {actions : List (Sessions.Action requests Unit)} (holds : good state.store)
    (idle : state.sessions = [])
    (runEq : (beside answer).step.run state actions = some reached) :
    (beside answer).step.Always (fun state => good state.store) state actions ↔
      (beside answer).step.Meets (Sessions.Guard (fun _ => True) (NextMeets needed)) state
        actions := by
  let inv := fun state : Sessions.State σ (Program σ ε α) =>
    good state.store ∧ ∀ program ∈ state.sessions, program.Each related
  have stepGood : ∀ state action next, inv state →
      (beside answer).step state action = some next →
      (good next.store ↔ Sessions.Guard (fun _ => True) (NextMeets needed) state action) := by
    intro state action next invariant stepEq
    rcases beside_step stepEq with ⟨request, rfl, rfl⟩ | ⟨index, statement, rest, rfl, found, rfl⟩
    · exact iff_of_true invariant.1 trivial
    · have relates : related state.store (statement state.store) :=
        (invariant.2 _ (List.mem_of_getElem? found)).1 state.store
      refine (same _ _ invariant.1 relates).trans ⟨?_, ?_⟩
      · intro met program programEq
        cases found.symm.trans programEq
        exact met
      · intro guarded
        exact guarded _ found
  have start : inv state := by
    constructor
    · exact holds
    · rw [idle]
      exact nofun
  apply Step.always_iff_meets ?_ ?_ ?_ start runEq
  · intro state invariant
    exact invariant.1
  · intro state action next invariant met stepEq
    exact ⟨(stepGood state action next invariant stepEq).mpr met,
      each_beside each invariant.2 stepEq⟩
  · intro state action next invariant broken stepEq goodNext
    exact broken ((stepGood state action next invariant stepEq).mp goodNext)

end

end Program

end Manbaa.Lib
