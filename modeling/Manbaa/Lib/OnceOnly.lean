import Manbaa.Lib.Program

/-!
# What is taken once

Programs beside each other want to take the same thing.  A program takes it by its last
statement, which finds the thing free and leaves it taken, for good or up to some deadline.

As long as what is taken is taken before the deadline, it is taken once.
-/

namespace Manbaa.Lib.Program

universe u v w

variable {σ : Type u} {ε : Type v} {α : Type w}

/-- When a thing counts as taken, when it stays taken up to its deadline, and when the deadline
is still ahead. -/
structure Ticket (σ : Type u) where
  taken : σ → Prop
  kept : σ → Prop
  live : σ → Prop
  taken_of_kept : ∀ store, kept store → live store → taken store

/-- The program ends without the thing, unless its last statement finds the thing free and
leaves it taken.  The statements find a store that comes after the one seen before. -/
def Takes (ticket : Ticket σ) (after : σ → σ → Prop) (owns : Except ε α → Bool) :
    σ → Program σ ε α → Prop
  | _, done result => owns result = false
  | seen, step statement next => ∀ found, after seen found →
      (next found).Takes ticket after owns (statement found) ∨
        (∃ result, next found = done result) ∧ ¬ ticket.taken found ∧
          ticket.taken (statement found) ∧ ticket.kept (statement found)

/-- The program has ended with the thing. -/
def Owns (owns : Except ε α → Bool) : Program σ ε α → Bool
  | done result => owns result
  | step _ _ => false

/-- A thing that is taken is taken before the deadline. -/
def Ticket.Early (ticket : Ticket σ) (before reached : σ) : Prop :=
  ¬ ticket.taken before → ticket.taken reached → ticket.live before

section

variable {ticket : Ticket σ} {after : σ → σ → Prop} {owns : Except ε α → Bool}
  {store future : σ} {program : Program σ ε α}

theorem Takes.not_owns (takes : program.Takes ticket after owns store) :
    program.Owns owns = false := by
  cases program with
  | done result => exact takes
  | step statement next => rfl

/-- What a program that wants the thing does, it does later too. -/
theorem Takes.later (trans : ∀ {first second third}, after first second → after second third →
      after first third)
    (takes : program.Takes ticket after owns store) (since : after store future) :
    program.Takes ticket after owns future := by
  cases program with
  | done result => exact takes
  | step statement next => exact fun found reached => takes found (trans since reached)

/-- Statements that only look leave a program wanting the thing. -/
theorem Takes.bind {β : Type w} {first : Program σ ε β} {rest : β → Program σ ε α}
    (refl : ∀ store, after store store)
    (trans : ∀ {first second third}, after first second → after second third →
      after first third)
    (throws : ∀ error, owns (.error error) = false)
    (looks : first.Each fun before reached => reached = before)
    (takes : ∀ value found, after store found → (rest value).Takes ticket after owns found) :
    (first >>= rest).Takes ticket after owns store := by
  change (first.andThen rest).Takes ticket after owns store
  induction first generalizing store with
  | done ended =>
      cases ended with
      | ok value => exact takes value store (refl store)
      | error error => exact throws error
  | step statement next ih =>
      intro found since
      left
      rw [looks.1 found]
      exact ih found (looks.2 found) fun value reached onwards =>
        takes value reached (trans since onwards)

/-- A program that only names its result afterwards takes the thing as it does without. -/
theorem Takes.map {β : Type w} {name : α → β} {ownsNamed : Except ε β → Bool}
    (same : ∀ result, ownsNamed (Except.map name result) = owns result)
    (takes : program.Takes ticket after owns store) :
    (program >>= fun value => pure (name value)).Takes ticket after ownsNamed store := by
  change (program.andThen fun value => done (.ok (name value))).Takes ticket after ownsNamed store
  induction program generalizing store with
  | done result =>
      have named := (same result).trans takes
      cases result with
      | ok value => exact named
      | error error => exact named
  | step statement next ih =>
      intro found since
      rcases takes found since with wants | ⟨⟨result, isOver⟩, effect⟩
      · exact Or.inl (ih found wants)
      · refine Or.inr ⟨?_, effect⟩
        change ∃ ended, (next found).andThen (fun value => done (.ok (name value))) = done ended
        rw [isOver]
        cases result with
        | ok value => exact ⟨_, rfl⟩
        | error error => exact ⟨_, rfl⟩

end

/-! ## Programs beside each other -/

variable {requests : Type*} {answer : requests → Program σ ε α} {ticket : Ticket σ}
  {after : σ → σ → Prop} {owns : Except ε α → Bool}

/-- At most one program has ended with the thing, which is kept from then on. -/
structure OnceTaken (ticket : Ticket σ) (after : σ → σ → Prop) (owns : Except ε α → Bool)
    (state : Sessions.State σ (Program σ ε α)) : Prop where
  once : state.sessions.countP (Owns owns) ≤ 1
  kept : 0 < state.sessions.countP (Owns owns) → ticket.kept state.store
  running : ∀ program ∈ state.sessions,
    program.Takes ticket after owns state.store ∨ program.Owns owns = true
  each : ∀ program ∈ state.sessions,
    program.Each fun before reached =>
      after before reached ∧ (ticket.kept before → ticket.kept reached)

theorem countP_owns_set (owns : Except ε α → Bool) {sessions : List (Program σ ε α)}
    {index : Nat} {statement : σ → σ} {rest : σ → Program σ ε α}
    (found : sessions[index]? = some (.step statement rest)) (next : Program σ ε α) :
    (sessions.set index next).countP (Owns owns) =
      sessions.countP (Owns owns) + if next.Owns owns then 1 else 0 := by
  obtain ⟨bound, isAt⟩ := List.getElem?_eq_some_iff.mp found
  rw [List.countP_set bound, isAt]
  rfl

/-- What a step leaves of it. -/
theorem OnceTaken.step {state reached : Sessions.State σ (Program σ ε α)}
    {action : Sessions.Action requests Unit} (invariant : OnceTaken ticket after owns state)
    (refl : ∀ store, after store store)
    (trans : ∀ {first second third}, after first second → after second third →
      after first third)
    (answers : ∀ request store, (answer request).Takes ticket after owns store)
    (each : ∀ request, (answer request).Each fun before reached =>
      after before reached ∧ (ticket.kept before → ticket.kept reached))
    (early : Sessions.Guard (fun _ => True) (NextMeets ticket.Early) state action)
    (stepEq : (beside answer).step state action = some reached) :
    OnceTaken ticket after owns reached := by
  have eachAfter := each_beside each invariant.each stepEq
  rcases beside_step stepEq with ⟨request, rfl, rfl⟩ | ⟨index, statement, rest, rfl, found, rfl⟩
  · have countEq : (state.sessions ++ [answer request]).countP (Owns owns) =
        state.sessions.countP (Owns owns) := by
      rw [List.countP_append, List.countP_singleton, (answers request state.store).not_owns]
      rfl
    refine ⟨Nat.le_trans (Nat.le_of_eq countEq) invariant.once,
      fun some => invariant.kept (countEq ▸ some), ?_, eachAfter⟩
    intro program programMem
    rcases List.mem_append.mp programMem with old | new
    · exact invariant.running program old
    · rw [List.mem_singleton.mp new]
      exact Or.inl (answers request state.store)
  · have stepMem := List.mem_of_getElem? found
    have effect := (invariant.each _ stepMem).1 state.store
    have pending : (Program.step statement rest).Takes ticket after owns state.store := by
      rcases invariant.running _ stepMem with pending | ended
      · exact pending
      · cases ended
    have othersRunning : ∀ program ∈ state.sessions,
        program.Takes ticket after owns (statement state.store) ∨ program.Owns owns = true :=
      fun program programMem => (invariant.running program programMem).imp_left
        fun takes => takes.later trans effect.1
    have running (next : (rest state.store).Takes ticket after owns (statement state.store) ∨
        (rest state.store).Owns owns = true) :
        ∀ program ∈ state.sessions.set index (rest state.store),
          program.Takes ticket after owns (statement state.store) ∨
            program.Owns owns = true := by
      intro program programMem
      rcases List.mem_or_eq_of_mem_set programMem with old | rfl
      · exact othersRunning program old
      · exact next
    have countEq := countP_owns_set owns found (rest state.store)
    rcases pending state.store (refl _) with wants | ⟨⟨result, isOver⟩, isFree, isTaken, isKept⟩
    · rw [wants.not_owns, if_neg Bool.false_ne_true, Nat.add_zero] at countEq
      refine ⟨Nat.le_trans (Nat.le_of_eq countEq) invariant.once,
        fun some => effect.2 (invariant.kept (countEq ▸ some)), running (Or.inl wants), eachAfter⟩
    · have isLive : ticket.live state.store := early _ found isFree isTaken
      have noneBefore : state.sessions.countP (Owns owns) = 0 := by
        by_contra some
        exact isFree (ticket.taken_of_kept _ (invariant.kept (Nat.pos_of_ne_zero some)) isLive)
      have next : (rest state.store).Takes ticket after owns (statement state.store) ∨
          (rest state.store).Owns owns = true := by
        rw [isOver]
        cases ends : owns result with
        | false => exact Or.inl ends
        | true => exact Or.inr ends
      refine ⟨?_, fun _ => isKept, running next, eachAfter⟩
      rw [countEq, noneBefore]
      split <;> decide

/-- **What is taken before its deadline is taken once**: of the programs that answer requests
beside each other, at most one ends with the thing. -/
theorem taken_once (refl : ∀ store, after store store)
    (trans : ∀ {first second third}, after first second → after second third →
      after first third)
    (answers : ∀ request store, (answer request).Takes ticket after owns store)
    (each : ∀ request, (answer request).Each fun before reached =>
      after before reached ∧ (ticket.kept before → ticket.kept reached))
    {state reached : Sessions.State σ (Program σ ε α)}
    {actions : List (Sessions.Action requests Unit)} (idle : state.sessions = [])
    (early : (beside answer).step.Meets
      (Sessions.Guard (fun _ => True) (NextMeets ticket.Early)) state actions)
    (runEq : (beside answer).step.run state actions = some reached) :
    reached.sessions.countP (Owns owns) ≤ 1 := by
  have start : OnceTaken ticket after owns state := by
    constructor
    all_goals simp [idle]
  have preserved : ∀ state action next, OnceTaken ticket after owns state →
      Sessions.Guard (fun _ => True) (NextMeets ticket.Early) state action →
      (beside answer).step state action = some next → OnceTaken ticket after owns next :=
    fun _ _ _ invariant guarded stepEq =>
      invariant.step refl trans answers each guarded stepEq
  exact (Step.invariant_of_meets preserved start early runEq).once

end Manbaa.Lib.Program
