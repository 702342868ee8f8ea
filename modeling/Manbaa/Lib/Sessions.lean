import Manbaa.Lib.Run
import Mathlib.Data.List.Perm.Basic

/-!
# Sessions beside each other

Sessions work on one store, one statement at a time and in any order.  A
statement sees the store, its own session and the sessions that run beside it,
of which it reads no more than the locks they hold.

An invariant of such a system has three parts: what holds of the store, what the
store owes each session, and what keeps two sessions apart.  The rule asks for
one step what it leaves of the parts, for the session that takes it and for one
other session.  Where the store may wait for one of the sessions, an invariant is
one of the store and all of them, and the rule asks for one step with the session
that takes it in front.
-/

namespace Manbaa.Lib

universe u v w x

/-- How a request is taken up, and how a session goes on.  A request may be
answered at once, without a session; a session that cannot go on is blocked or
over. -/
structure Sessions (σ : Type u) (τ : Type v) (ρ : Type w) (κ : Type x) where
  start : σ → ρ → σ × Option τ
  advance : σ → List τ → τ → κ → Option (σ × τ)

namespace Sessions

/-- The store and the sessions, in the order in which they started. -/
structure State (σ : Type u) (τ : Type v) where
  store : σ
  sessions : List τ

/-- A request arrives, or a session takes its next step in some way. -/
inductive Action (ρ : Type w) (κ : Type x) where
  | start (request : ρ)
  | advance (index : Nat) (choice : κ)

variable {σ : Type u} {τ : Type v} {ρ : Type w} {κ : Type x}

/-- One step of the system. -/
def step (system : Sessions σ τ ρ κ) : Step (State σ τ) (Action ρ κ)
  | state, .start request =>
      let (store, session) := system.start state.store request
      some ⟨store, state.sessions ++ session.toList⟩
  | state, .advance index choice =>
      (state.sessions[index]?).bind fun session =>
        (system.advance state.store (state.sessions.eraseIdx index) session choice).map
          fun (store, next) => ⟨store, state.sessions.set index next⟩

/-- A session goes on by itself, in one way, as far as it can. -/
def alone (system : Sessions σ τ ρ κ) (choice : κ) : Nat → σ × τ → σ × τ
  | 0, last => last
  | steps + 1, (store, session) =>
      match system.advance store [] session choice with
      | some next => alone system choice steps next
      | none => (store, session)

theorem alone_succ (system : Sessions σ τ ρ κ) (choice : κ) {steps : Nat} {store : σ}
    {session : τ} {next : σ × τ} (advanceEq : system.advance store [] session choice = some next) :
    system.alone choice (steps + 1) (store, session) = system.alone choice steps next := by
  simp [alone, advanceEq]

/-- A condition on the requests and one on the statements of sessions, as one on
the actions. -/
def Guard (admits : ρ → Prop) (guard : σ → List τ → τ → κ → Prop) (state : State σ τ) :
    Action ρ κ → Prop
  | .start request => admits request
  | .advance index choice => ∀ session, state.sessions[index]? = some session →
      guard state.store (state.sessions.eraseIdx index) session choice

instance {admits : ρ → Prop} {guard : σ → List τ → τ → κ → Prop}
    [∀ request, Decidable (admits request)]
    [∀ store others session choice, Decidable (guard store others session choice)]
    (state : State σ τ) (action : Action ρ κ) : Decidable (Guard admits guard state action) :=
  match action with
  | .start request => inferInstanceAs (Decidable (admits request))
  | .advance index choice =>
      match sessionEq : state.sessions[index]? with
      | none => .isTrue fun _ given => nomatch sessionEq.symm.trans given
      | some session =>
          decidable_of_iff
            (guard state.store (state.sessions.eraseIdx index) session choice)
            ⟨fun met _ given => Option.some.inj (sessionEq.symm.trans given) ▸ met,
              fun met => met session sessionEq⟩

/-- The three parts of an invariant. -/
structure Invariant (shared : σ → Prop) (own : σ → τ → Prop) (apart : τ → τ → Prop)
    (state : State σ τ) : Prop where
  holds : shared state.store
  owns : ∀ session ∈ state.sessions, own state.store session
  parts : ∀ (i j : Nat) (first second : τ), i ≠ j → state.sessions[i]? = some first →
    state.sessions[j]? = some second → apart first second

/-- What a step leaves to the session that took it and to another one. -/
structure Leaves (shared : σ → Prop) (own : σ → τ → Prop) (apart : τ → τ → Prop)
    (store : σ) (session : τ) (others : List τ) : Prop where
  holds : shared store
  owns : own store session
  beside : ∀ other ∈ others, own store other
  parts : ∀ other ∈ others, apart session other ∧ apart other session

variable {system : Sessions σ τ ρ κ} {admits : ρ → Prop} {guard : σ → List τ → τ → κ → Prop}
  {shared : σ → Prop} {own : σ → τ → Prop} {apart : τ → τ → Prop} {state next : State σ τ}

/-- What a session may rely on before it takes a step. -/
theorem Invariant.leaves (invariant : Invariant shared own apart state) {index : Nat}
    {session : τ} (sessionEq : state.sessions[index]? = some session) :
    Leaves shared own apart state.store session (state.sessions.eraseIdx index) where
  holds := invariant.holds
  owns := invariant.owns session (List.mem_of_getElem? sessionEq)
  beside := by
    intro other otherMem
    exact invariant.owns other (List.mem_of_mem_eraseIdx otherMem)
  parts := by
    intro other otherMem
    obtain ⟨i, ne, otherEq⟩ := List.mem_eraseIdx_iff_getElem?.mp otherMem
    exact ⟨invariant.parts index i session other (Ne.symm ne) sessionEq otherEq,
      invariant.parts i index other session ne otherEq sessionEq⟩

/-- The parts that a step leaves make up the invariant. -/
theorem Leaves.invariant {session : τ} {others : List τ}
    (leaves : Leaves shared own apart next.store session others)
    (invariant : Invariant shared own apart state) {index : Nat}
    (othersEq : others = state.sessions.eraseIdx index)
    (nextEq : next.sessions = state.sessions.set index session) :
    Invariant shared own apart next where
  holds := leaves.holds
  owns := by
    intro other otherMem
    rw [nextEq] at otherMem
    obtain ⟨i, otherEq⟩ := List.mem_iff_getElem?.mp otherMem
    rw [List.getElem?_set] at otherEq
    split at otherEq
    · split at otherEq
      · rw [← Option.some.inj otherEq]
        exact leaves.owns
      · cases otherEq
    · apply leaves.beside
      rw [othersEq]
      exact List.mem_eraseIdx_iff_getElem?.mpr ⟨i, by omega, otherEq⟩
  parts := by
    have beside : ∀ i other, i ≠ index → state.sessions[i]? = some other → other ∈ others := by
      intro i other ne otherEq
      rw [othersEq]
      exact List.mem_eraseIdx_iff_getElem?.mpr ⟨i, ne, otherEq⟩
    intro i j first second ne firstEq secondEq
    rw [nextEq, List.getElem?_set] at firstEq secondEq
    by_cases atFirst : index = i <;> by_cases atSecond : index = j
    · omega
    · rw [if_pos atFirst] at firstEq
      rw [if_neg atSecond] at secondEq
      split at firstEq
      · rw [← Option.some.inj firstEq]
        exact (leaves.parts second (beside j second (Ne.symm atSecond) secondEq)).1
      · cases firstEq
    · rw [if_neg atFirst] at firstEq
      rw [if_pos atSecond] at secondEq
      split at secondEq
      · rw [← Option.some.inj secondEq]
        exact (leaves.parts first (beside i first (Ne.symm atFirst) firstEq)).2
      · cases secondEq
    · rw [if_neg atFirst] at firstEq
      rw [if_neg atSecond] at secondEq
      exact invariant.parts i j first second ne firstEq secondEq

/-- The sessions beside each other keep an invariant. -/
structure Keeps (system : Sessions σ τ ρ κ) (admits : ρ → Prop)
    (guard : σ → List τ → τ → κ → Prop) (shared : σ → Prop) (own : σ → τ → Prop)
    (apart : τ → τ → Prop) : Prop where
  started : ∀ store request, shared store → admits request →
    shared (system.start store request).1 ∧
    (∀ other, own store other → own (system.start store request).1 other) ∧
    ∀ session ∈ (system.start store request).2,
      own (system.start store request).1 session ∧
      ∀ other, apart session other ∧ apart other session
  advanced : ∀ store others session choice store' session',
    Leaves shared own apart store session others → guard store others session choice →
    system.advance store others session choice = some (store', session') →
    Leaves shared own apart store' session' others

/-- A step of the system, of either kind. -/
theorem step_cases {action : Action ρ κ} (stepEq : system.step state action = some next) :
    (∃ request, action = .start request ∧
      next = ⟨(system.start state.store request).1,
        state.sessions ++ (system.start state.store request).2.toList⟩) ∨
    (∃ index choice session store session', action = .advance index choice ∧
      state.sessions[index]? = some session ∧
      system.advance state.store (state.sessions.eraseIdx index) session choice =
        some (store, session') ∧
      next = ⟨store, state.sessions.set index session'⟩) := by
  cases action with
  | start request => exact Or.inl ⟨request, rfl, (Option.some.inj stepEq).symm⟩
  | advance index choice =>
      obtain ⟨session, sessionEq, restEq⟩ := Option.bind_eq_some_iff.mp stepEq
      obtain ⟨⟨store, session'⟩, advanceEq, nextEq⟩ := Option.map_eq_some_iff.mp restEq
      exact Or.inr ⟨index, choice, session, store, session', rfl, sessionEq, advanceEq,
        nextEq.symm⟩

/-- The rule for one step. -/
theorem Keeps.step (keeps : Keeps system admits guard shared own apart) {action : Action ρ κ}
    (invariant : Invariant shared own apart state) (met : Guard admits guard state action)
    (stepEq : system.step state action = some next) :
    Invariant shared own apart next := by
  rcases step_cases stepEq with ⟨request, rfl, rfl⟩ |
    ⟨index, choice, session, store, session', rfl, sessionEq, advanceEq, rfl⟩
  · obtain ⟨sharedNext, ownNext, sessionNext⟩ :=
      keeps.started state.store request invariant.holds met
    refine ⟨sharedNext, ?_, ?_⟩
    · intro other otherMem
      rcases List.mem_append.mp otherMem with otherMem | new
      · exact ownNext other (invariant.owns other otherMem)
      · exact (sessionNext other (by simpa using new)).1
    · intro i j first second ne firstEq secondEq
      have new : ∀ k other, state.sessions.length ≤ k →
          (state.sessions ++ (system.start state.store request).2.toList)[k]? = some other →
          k = state.sessions.length ∧ other ∈ (system.start state.store request).2 := by
        intro k other late otherEq
        rw [List.getElem?_append_right late] at otherEq
        cases startEq : (system.start state.store request).2 with
        | none => simp [startEq] at otherEq
        | some session =>
            rw [startEq, Option.toList_some, List.getElem?_singleton] at otherEq
            split at otherEq
            · exact ⟨by omega, otherEq⟩
            · cases otherEq
      by_cases firstLate : state.sessions.length ≤ i
      · exact ((sessionNext first (new i first firstLate firstEq).2).2 second).1
      · by_cases secondLate : state.sessions.length ≤ j
        · exact ((sessionNext second (new j second secondLate secondEq).2).2 first).2
        · rw [List.getElem?_append_left (by omega)] at firstEq secondEq
          exact invariant.parts i j first second ne firstEq secondEq
  · have leaves := keeps.advanced _ _ _ _ _ _ (invariant.leaves sessionEq)
      (met session sessionEq) advanceEq
    exact leaves.invariant invariant rfl rfl

/-- The rule for runs. -/
theorem Keeps.run (keeps : Keeps system admits guard shared own apart) {actions : List (Action ρ κ)}
    (invariant : Invariant shared own apart state)
    (met : system.step.Meets (Guard admits guard) state actions)
    (runEq : system.step.run state actions = some next) :
    Invariant shared own apart next :=
  Step.invariant_of_meets (fun _ _ _ => keeps.step) invariant met runEq

/-- Where a statement that does not meet its condition leaves a bad store, the store stays good
exactly as long as every statement meets its condition. -/
theorem Keeps.always_iff_meets {good : σ → Prop}
    (keeps : Keeps system (fun _ => True) guard shared own apart)
    (sound : ∀ store, shared store → good store)
    (violated : ∀ store others session choice store' session',
      Leaves shared own apart store session others → ¬ guard store others session choice →
      system.advance store others session choice = some (store', session') → ¬ good store')
    {actions : List (Action ρ κ)} (invariant : Invariant shared own apart state)
    (runEq : system.step.run state actions = some next) :
    system.step.Always (fun state => good state.store) state actions ↔
      system.step.Meets (Guard (fun _ => True) guard) state actions := by
  apply Step.always_iff_meets ?_ ?_ ?_ invariant runEq
  · intro state invariant
    exact sound state.store invariant.holds
  · intro state action next invariant met stepEq
    exact keeps.step invariant met stepEq
  · intro state action next invariant broken stepEq
    rcases step_cases stepEq with ⟨request, rfl, rfl⟩ |
      ⟨index, choice, session, store, session', rfl, sessionEq, advanceEq, rfl⟩
    · exact absurd trivial broken
    · apply violated _ _ _ _ _ _ (invariant.leaves sessionEq) ?_ advanceEq
      intro met
      apply broken
      intro other otherEq
      cases sessionEq.symm.trans otherEq
      exact met

/-- Without sessions, the invariant is that of the store. -/
theorem Invariant.of_no_sessions (holds : shared state.store) (none : state.sessions = []) :
    Invariant shared own apart state := by
  refine ⟨holds, ?_, ?_⟩
  · simp [none]
  · simp [none]

/-! ## Invariants of the store and all sessions -/

/-- The sessions beside each other keep an invariant of the store and all of them,
in which their order does not matter. -/
structure KeepsAll (system : Sessions σ τ ρ κ) (admits : ρ → Prop)
    (guard : σ → List τ → τ → κ → Prop) (inv : σ → List τ → Prop) : Prop where
  perm : ∀ {store sessions others}, sessions.Perm others → inv store sessions → inv store others
  started : ∀ {store sessions request}, inv store sessions → admits request →
    inv (system.start store request).1 ((system.start store request).2.toList ++ sessions)
  advanced : ∀ {store others session choice store' session'}, inv store (session :: others) →
    guard store others session choice →
    system.advance store others session choice = some (store', session') →
    inv store' (session' :: others)

/-- The rule for one step. -/
theorem KeepsAll.step {inv : σ → List τ → Prop} (keeps : KeepsAll system admits guard inv)
    {action : Action ρ κ} (holds : inv state.store state.sessions)
    (met : Guard admits guard state action) (stepEq : system.step state action = some next) :
    inv next.store next.sessions := by
  rcases step_cases stepEq with ⟨request, rfl, rfl⟩ |
    ⟨index, choice, session, store, session', rfl, sessionEq, advanceEq, rfl⟩
  · exact keeps.perm List.perm_append_comm (keeps.started holds met)
  · obtain ⟨inside, rfl⟩ := List.getElem?_eq_some_iff.mp sessionEq
    have focused := keeps.perm (List.getElem_cons_eraseIdx_perm inside).symm holds
    have advanced := keeps.advanced focused (met _ sessionEq) advanceEq
    exact keeps.perm (List.set_perm_cons_eraseIdx inside session').symm advanced

/-- The rule for runs. -/
theorem KeepsAll.run {inv : σ → List τ → Prop} (keeps : KeepsAll system admits guard inv)
    {actions : List (Action ρ κ)} (holds : inv state.store state.sessions)
    (met : system.step.Meets (Guard admits guard) state actions)
    (runEq : system.step.run state actions = some next) :
    inv next.store next.sessions :=
  have preserved : ∀ before action after, inv before.store before.sessions →
      Guard admits guard before action → system.step before action = some after →
      inv after.store after.sessions := fun _ _ _ => keeps.step
  Step.invariant_of_meets preserved holds met runEq

/-! ## Locks -/

section
variable {lock : Type x} {held : τ → List lock} {store store' : σ} {session session' : τ}
  {others : List τ}

/-- Two sessions hold no lock in common. -/
def Disjoint (held : τ → List lock) (first second : τ) : Prop :=
  ∀ taken ∈ held first, taken ∉ held second

theorem Disjoint.symm {first second : τ} (disjoint : Disjoint held first second) :
    Disjoint held second first :=
  fun taken inSecond inFirst => disjoint taken inFirst inSecond

/-- A session that takes no lock but free ones shares none. -/
theorem Leaves.disjoint (leaves : Leaves shared own (Disjoint held) store session others)
    (taken : ∀ lock ∈ held session', lock ∈ held session ∨ ∀ other ∈ others, lock ∉ held other) :
    ∀ other ∈ others, Disjoint held session' other ∧ Disjoint held other session' := by
  intro other otherMem
  have disjoint : Disjoint held session' other := by
    intro lock inSession
    rcases taken lock inSession with before | free
    · exact (leaves.parts other otherMem).1 lock before
    · exact free other otherMem
  exact ⟨disjoint, disjoint.symm⟩

end

end Sessions

end Manbaa.Lib
