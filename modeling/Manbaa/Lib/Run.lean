import Mathlib.Logic.Basic

/-!
# Runs of partial labelled transitions

A transition is a partial function of a state and an action: `none` means that
the action is not enabled.  Runs are finite lists of actions, so a concrete run
can be executed, while invariants are proved once for all runs.

The guarded rules are for systems that keep an invariant only along the runs
whose every step meets a condition on the state before it.
-/

namespace Manbaa.Lib

universe u v

/-- A partial labelled transition. -/
abbrev Step (σ : Type u) (α : Type v) := σ → α → Option σ

namespace Step

variable {σ : Type u} {α : Type v}

/-- Execute a list of actions, failing at the first one that is not enabled. -/
def run (step : Step σ α) : σ → List α → Option σ
  | state, [] => some state
  | state, action :: rest => (step state action).bind fun next => run step next rest

/-- Every action of the list meets `guard` in the state it is taken in. -/
def Meets (step : Step σ α) (guard : σ → α → Prop) : σ → List α → Prop
  | _, [] => True
  | state, action :: rest =>
      guard state action ∧ ∀ next, step state action = some next → Meets step guard next rest

/-- `good` holds in every state of the run, the first and the last included. -/
def Always (step : Step σ α) (good : σ → Prop) : σ → List α → Prop
  | state, [] => good state
  | state, action :: rest =>
      good state ∧ ∀ next, step state action = some next → Always step good next rest

/-- A total transition, as a partial one that is always enabled. -/
def ofTotal (next : σ → α → σ) : Step σ α := fun state action => some (next state action)

variable {step : Step σ α} {guard : σ → α → Prop} {good inv : σ → Prop}

@[simp]
theorem run_nil (state : σ) : step.run state [] = some state :=
  rfl

@[simp]
theorem run_cons (state : σ) (action : α) (rest : List α) :
    step.run state (action :: rest) = (step state action).bind fun next => step.run next rest :=
  rfl

theorem run_cons_eq_some_iff {state target : σ} {action : α} {rest : List α} :
    step.run state (action :: rest) = some target ↔
      ∃ next, step state action = some next ∧ step.run next rest = some target := by
  rw [run_cons, Option.bind_eq_some_iff]

/-- A run splits at any point of its list of actions. -/
theorem run_append (state : σ) (first second : List α) :
    step.run state (first ++ second) =
      (step.run state first).bind fun middle => step.run middle second := by
  induction first generalizing state with
  | nil => rfl
  | cons action rest ih =>
      simp only [List.cons_append, run_cons, Option.bind_assoc]
      exact congrArg _ (funext fun next => ih next)

@[simp]
theorem run_ofTotal (next : σ → α → σ) (state : σ) (actions : List α) :
    (ofTotal next).run state actions = some (actions.foldl next state) := by
  induction actions generalizing state with
  | nil => rfl
  | cons action rest ih => simpa [ofTotal] using ih (next state action)

@[simp]
theorem meets_nil (state : σ) : step.Meets guard state [] :=
  trivial

/-- Whether a concrete run meets a condition can be computed. -/
instance decidableMeets [∀ state action, Decidable (guard state action)] :
    ∀ state actions, Decidable (step.Meets guard state actions)
  | _, [] => .isTrue trivial
  | state, action :: rest =>
      match stepEq : step state action with
      | none =>
          decidable_of_iff (guard state action) ⟨fun met => ⟨met, by simp [stepEq]⟩, And.left⟩
      | some next =>
          have := decidableMeets next rest
          decidable_of_iff (guard state action ∧ step.Meets guard next rest) <| by
            simp [Meets, stepEq]

/-- The condition of a longer run is the condition of its first part and, from
every state that part ends in, of its second part. -/
theorem meets_append {state : σ} {first second : List α} :
    step.Meets guard state (first ++ second) ↔
      step.Meets guard state first ∧
        ∀ middle, step.run state first = some middle → step.Meets guard middle second := by
  induction first generalizing state with
  | nil => simp
  | cons action rest ih =>
      simp only [List.cons_append, Meets, ih, run_cons_eq_some_iff]
      constructor
      · rintro ⟨met, later⟩
        refine ⟨⟨met, fun next stepEq => (later next stepEq).1⟩, ?_⟩
        rintro middle ⟨next, stepEq, runEq⟩
        exact (later next stepEq).2 middle runEq
      · rintro ⟨⟨met, first⟩, second⟩
        exact ⟨met, fun next stepEq =>
          ⟨first next stepEq, fun middle runEq => second middle ⟨next, stepEq, runEq⟩⟩⟩

/-- A run meets a condition if every action does in the state that the actions before it
reach. -/
theorem meets_iff_forall {state : σ} {actions : List α} :
    step.Meets guard state actions ↔
      ∀ before action after, actions = before ++ action :: after →
        ∀ reached, step.run state before = some reached → guard reached action := by
  induction actions generalizing state with
  | nil =>
      apply iff_of_true trivial
      intro before action after split
      exact absurd split.symm (List.append_ne_nil_of_right_ne_nil _ (List.cons_ne_nil _ _))
  | cons first rest ih =>
      constructor
      · rintro ⟨met, later⟩ before action after split reached runEq
        cases before with
        | nil =>
            cases split
            cases runEq
            exact met
        | cons head before =>
            cases split
            obtain ⟨next, stepEq, restEq⟩ := run_cons_eq_some_iff.mp runEq
            exact ih.mp (later next stepEq) before action after rfl reached restEq
      · intro every
        refine ⟨every [] first rest rfl state rfl, ?_⟩
        intro next stepEq
        apply ih.mpr
        rintro before action after rfl reached runEq
        exact every (first :: before) action after rfl reached
          (run_cons_eq_some_iff.mpr ⟨next, stepEq, runEq⟩)

/-- The invariant rule for guarded runs. -/
theorem invariant_of_meets
    (preserved : ∀ state action next, inv state → guard state action →
      step state action = some next → inv next)
    {state target : σ} {actions : List α} (start : inv state)
    (met : step.Meets guard state actions)
    (runEq : step.run state actions = some target) : inv target := by
  induction actions generalizing state with
  | nil =>
      cases runEq
      exact start
  | cons action rest ih =>
      obtain ⟨next, stepEq, restEq⟩ := run_cons_eq_some_iff.mp runEq
      exact ih (preserved state action next start met.1 stepEq) (met.2 next stepEq) restEq

/-- Under an invariant that guarded steps keep, the steps meet what follows from the
invariant and the guard. -/
theorem meets_of_meets {other : σ → α → Prop}
    (preserved : ∀ state action next, inv state → guard state action →
      step state action = some next → inv next)
    (implied : ∀ state action, inv state → guard state action → other state action)
    {state : σ} {actions : List α} (start : inv state) (met : step.Meets guard state actions) :
    step.Meets other state actions := by
  induction actions generalizing state with
  | nil => trivial
  | cons action rest ih =>
      refine ⟨implied state action start met.1, ?_⟩
      intro next stepEq
      exact ih (preserved state action next start met.1 stepEq) (met.2 next stepEq)

/-- Conditions that an invariant makes equivalent are met by the same runs, if the steps that meet
them keep the invariant. -/
theorem meets_iff_of_guarded {other : σ → α → Prop}
    (preserved : ∀ state action next, inv state → guard state action →
      step state action = some next → inv next)
    (same : ∀ state action, inv state → (guard state action ↔ other state action))
    {state : σ} {actions : List α} (start : inv state) :
    step.Meets guard state actions ↔ step.Meets other state actions := by
  constructor
  · apply meets_of_meets preserved ?_ start
    intro state action holds met
    exact (same state action holds).mp met
  · apply meets_of_meets ?_ ?_ start
    · intro state action next holds met stepEq
      exact preserved state action next holds ((same state action holds).mpr met) stepEq
    · intro state action holds met
      exact (same state action holds).mpr met

/-- Conditions that an invariant of all runs makes equivalent are met by the same runs. -/
theorem meets_iff_of_invariant {other : σ → α → Prop}
    (preserved : ∀ state action next, inv state → step state action = some next → inv next)
    (same : ∀ state action, inv state → (guard state action ↔ other state action))
    {state : σ} {actions : List α} (start : inv state) :
    step.Meets guard state actions ↔ step.Meets other state actions := by
  apply meets_iff_of_guarded ?_ same start
  intro state action next holds _ stepEq
  exact preserved state action next holds stepEq

/-- The invariant rule for runs without a guard. -/
theorem invariant_of_run
    (preserved : ∀ state action next, inv state → step state action = some next → inv next)
    {state target : σ} {actions : List α} (start : inv state)
    (runEq : step.run state actions = some target) : inv target := by
  induction actions generalizing state with
  | nil =>
      cases runEq
      exact start
  | cons action rest ih =>
      obtain ⟨next, stepEq, restEq⟩ := run_cons_eq_some_iff.mp runEq
      exact ih (preserved state action next start stepEq) restEq

/-- A reflexive and transitive relation that relates the two sides of every
guarded step relates the two ends of every guarded run. -/
theorem related_of_meets {related : σ → σ → Prop}
    (refl : ∀ state, related state state)
    (trans : ∀ first second third, related first second → related second third →
      related first third)
    (preserved : ∀ state action next, inv state → guard state action →
      step state action = some next → inv next ∧ related state next)
    {state target : σ} {actions : List α} (start : inv state)
    (met : step.Meets guard state actions)
    (runEq : step.run state actions = some target) : related state target := by
  induction actions generalizing state with
  | nil =>
      cases runEq
      exact refl _
  | cons action rest ih =>
      obtain ⟨next, stepEq, restEq⟩ := run_cons_eq_some_iff.mp runEq
      obtain ⟨nextInv, stepRelated⟩ := preserved state action next start met.1 stepEq
      exact trans _ _ _ stepRelated (ih nextInv (met.2 next stepEq) restEq)

/-- A reflexive and transitive relation holds between any two moments of a run just when it holds
between the two sides of every step. -/
theorem related_iff_meets (related : σ → σ → Prop)
    (refl : ∀ state, related state state)
    (trans : ∀ first second third, related first second → related second third →
      related first third)
    {state : σ} {actions : List α} :
    (∀ before between after middle target, actions = before ++ (between ++ after) →
      step.run state before = some middle → step.run middle between = some target →
        related middle target) ↔
      step.Meets (fun state action => ∀ next, step state action = some next → related state next)
        state actions := by
  constructor
  · intro moments
    apply meets_iff_forall.mpr
    intro before action after split middle middleEq next stepEq
    apply moments before [action] after middle next split middleEq
    rw [run_cons, stepEq]
    rfl
  · intro met before between after middle target split middleEq runEq
    subst split
    have metBetween := (meets_append.mp ((meets_append.mp met).2 middle middleEq)).1
    have preserved : ∀ state action next, True →
        (∀ next, step state action = some next → related state next) →
        step state action = some next → True ∧ related state next :=
      fun _ _ next _ stepRelated stepEq => ⟨trivial, stepRelated next stepEq⟩
    exact related_of_meets refl trans preserved trivial metBetween runEq

/-- Where a step keeps the invariant if it meets the guard and reaches a bad
state if it does not, a run stays good exactly when all its steps meet the
guard. -/
theorem always_iff_meets
    (sound : ∀ state, inv state → good state)
    (preserved : ∀ state action next, inv state → guard state action →
      step state action = some next → inv next)
    (violated : ∀ state action next, inv state → ¬ guard state action →
      step state action = some next → ¬ good next)
    {state target : σ} {actions : List α} (start : inv state)
    (runEq : step.run state actions = some target) :
    step.Always good state actions ↔ step.Meets guard state actions := by
  induction actions generalizing state with
  | nil => exact ⟨fun _ => trivial, fun _ => sound state start⟩
  | cons action rest ih =>
      obtain ⟨next, stepEq, restEq⟩ := run_cons_eq_some_iff.mp runEq
      constructor
      · rintro ⟨_, later⟩
        have nextGood : good next := by
          cases rest with
          | nil => exact later next stepEq
          | cons => exact (later next stepEq).1
        have met : guard state action := by
          refine Classical.byContradiction fun broken => ?_
          exact violated state action next start broken stepEq nextGood
        refine ⟨met, fun other otherEq => ?_⟩
        cases stepEq.symm.trans otherEq
        exact (ih (preserved state action next start met stepEq) restEq).mp (later next stepEq)
      · rintro ⟨met, later⟩
        refine ⟨sound state start, fun other otherEq => ?_⟩
        cases stepEq.symm.trans otherEq
        exact (ih (preserved state action next start met stepEq) restEq).mpr (later next stepEq)

theorem always_and_iff {other : σ → Prop} {state : σ} {actions : List α} :
    step.Always (fun state => good state ∧ other state) state actions ↔
      step.Always good state actions ∧ step.Always other state actions := by
  induction actions generalizing state with
  | nil => exact Iff.rfl
  | cons action rest ih =>
      simp only [Always, ih]
      constructor
      · rintro ⟨⟨holds, otherHolds⟩, later⟩
        exact ⟨⟨holds, fun next stepEq => (later next stepEq).1⟩,
          otherHolds, fun next stepEq => (later next stepEq).2⟩
      · rintro ⟨⟨holds, later⟩, otherHolds, otherLater⟩
        exact ⟨⟨holds, otherHolds⟩,
          fun next stepEq => ⟨later next stepEq, otherLater next stepEq⟩⟩

theorem meets_and_iff {other : σ → α → Prop} {state : σ} {actions : List α} :
    step.Meets (fun state action => guard state action ∧ other state action) state actions ↔
      step.Meets guard state actions ∧ step.Meets other state actions := by
  induction actions generalizing state with
  | nil => exact (and_iff_left trivial).symm
  | cons action rest ih =>
      simp only [Meets, ih]
      constructor
      · rintro ⟨⟨met, otherMet⟩, later⟩
        exact ⟨⟨met, fun next stepEq => (later next stepEq).1⟩,
          otherMet, fun next stepEq => (later next stepEq).2⟩
      · rintro ⟨⟨met, later⟩, otherMet, otherLater⟩
        exact ⟨⟨met, otherMet⟩, fun next stepEq => ⟨later next stepEq, otherLater next stepEq⟩⟩

/-- A condition may be replaced by an equivalent one. -/
theorem meets_congr {other : σ → α → Prop} (same : ∀ state action,
    guard state action ↔ other state action) {state : σ} {actions : List α} :
    step.Meets guard state actions ↔ step.Meets other state actions := by
  have guardEq : guard = other :=
    funext fun state => funext fun action => propext (same state action)
  rw [guardEq]

end Step

end Manbaa.Lib
