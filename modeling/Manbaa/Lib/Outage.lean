import Manbaa.Lib.Effect

/-!
# Calls that may fail

A computation that calls other systems, one of whose calls may fail before it has
done anything.  Which one is part of what the computation starts with, so that a
statement about every start is one about every point of failure.

`Moves` says what a computation does to the state however it ends, and `Leaves`
what it leaves when it starts from one state.
-/

namespace Manbaa.Lib

universe u v w

/-- A state, and how many calls succeed before one fails, if one does. -/
structure Faulty (σ : Type u) where
  state : σ
  left : Option Nat

/-- So many calls succeed. -/
def Allows (left : Option Nat) (cost : Nat) : Prop := ∀ calls ∈ left, cost ≤ calls

instance (left : Option Nat) (cost : Nat) : Decidable (Allows left cost) :=
  inferInstanceAs (Decidable (∀ calls ∈ left, cost ≤ calls))

theorem allows_zero (left : Option Nat) : Allows left 0 :=
  fun calls _ => Nat.zero_le calls

theorem Allows.mono {left : Option Nat} {least most : Nat} (allows : Allows left most)
    (le : least ≤ most) : Allows left least :=
  fun calls callsEq => Nat.le_trans le (allows calls callsEq)

/-- What is allowed after some calls have been made. -/
theorem Allows.after_iff {left : Option Nat} {cost rest : Nat} (allows : Allows left cost) :
    Allows (left.map (· - cost)) rest ↔ Allows left (cost + rest) := by
  cases left with
  | none => simp [Allows]
  | some calls =>
      have enough : cost ≤ calls := allows calls rfl
      simp only [Allows, Option.map_some, Option.mem_some_iff, forall_eq']
      omega

namespace Faulty

variable {σ : Type u} {world middle reached : Faulty σ} {cost rest : Nat}

/-- So many calls have succeeded. -/
def Spends (world reached : Faulty σ) (cost : Nat) : Prop :=
  (∀ calls ∈ world.left, cost ≤ calls) ∧ reached.left = world.left.map (· - cost)

theorem spends_zero (same : world.left = reached.left) : world.Spends reached 0 :=
  ⟨fun calls _ => Nat.zero_le calls, by simp [same]⟩

theorem Spends.trans (first : world.Spends middle cost) (second : middle.Spends reached rest) :
    world.Spends reached (cost + rest) := by
  obtain ⟨firstEnough, middleEq⟩ := first
  obtain ⟨secondEnough, reachedEq⟩ := second
  rw [middleEq] at secondEnough reachedEq
  constructor
  · intro calls callsEq
    have spent := firstEnough calls callsEq
    have left := secondEnough (calls - cost) (by rw [callsEq]; rfl)
    omega
  · rw [reachedEq, Option.map_map]
    congr
    funext calls
    exact Nat.sub_sub calls cost rest

/-- Without a failing call there is none left. -/
theorem Spends.none (spends : world.Spends reached cost) (calm : world.left = none) :
    reached.left = none := by
  rw [spends.2, calm]
  rfl

end Faulty

namespace Effect

variable {σ : Type u} {ε : Type v} {α β : Type w}

/-- A call of another system. -/
def calling (outage : ε) (body : Effect σ ε α) : Effect (Faulty σ) ε α := fun world =>
  if world.left = some 0 then (.error outage, ⟨world.state, none⟩)
  else ((body world.state).1, ⟨(body world.state).2, world.left.map Nat.pred⟩)

/-- A computation of the caller's own. -/
def locally (body : Effect σ ε α) : Effect (Faulty σ) ε α := fun world =>
  ((body world.state).1, ⟨(body world.state).2, world.left⟩)

variable {state : σ} {world reached : Faulty σ} {outage error : ε} {value : α}
  {body : Effect σ ε α}

theorem calling_eq_ok_iff : calling outage body world = (.ok value, reached) ↔
    body world.state = (.ok value, reached.state) ∧ world.Spends reached 1 := by
  obtain ⟨state, left⟩ := world
  obtain ⟨last, remaining⟩ := reached
  rcases bodyEq : body state with ⟨result, target⟩
  cases left with
  | none => simp [calling, Faulty.Spends, bodyEq, eq_comm, and_assoc]
  | some calls =>
      cases calls with
      | zero => simp [calling, Faulty.Spends]
      | succ calls => simp [calling, Faulty.Spends, bodyEq, eq_comm, and_assoc]

/-- A call that throws has failed, or its statement has thrown. -/
theorem calling_throws (thrown : calling outage body world = (.error error, reached)) :
    (reached.state = world.state ∧ world.left = some 0) ∨
      body world.state = (.error error, reached.state) := by
  rw [calling] at thrown
  split at thrown
  · rename_i failing
    cases thrown
    exact Or.inl ⟨rfl, failing⟩
  · obtain ⟨resultEq, rfl⟩ := Prod.mk.inj thrown
    exact Or.inr (Prod.ext resultEq rfl)

/-- A call that is allowed is the call without a failure. -/
theorem calling_of_allows {left : Option Nat} (allows : Allows left 1) :
    calling outage body ⟨state, left⟩ =
      ((body state).1, ⟨(body state).2, left.map (· - 1)⟩) := by
  have some_ne : left ≠ some 0 := by
    rintro rfl
    exact absurd (allows 0 rfl) (by decide)
  exact if_neg some_ne

/-- A call that is not allowed has done nothing. -/
theorem calling_of_not_allows {left : Option Nat} (fails : ¬ Allows left 1) :
    calling outage body ⟨state, left⟩ = (.error outage, ⟨state, none⟩) := by
  have failing : left = some 0 := by
    cases left with
    | none => exact absurd nofun fails
    | some calls => simpa [Allows] using fails
  exact if_pos failing

theorem locally_eq_ok_iff : locally body world = (.ok value, reached) ↔
    body world.state = (.ok value, reached.state) ∧ world.left = reached.left := by
  rcases bodyEq : body world.state with ⟨result, target⟩
  obtain ⟨last, left⟩ := reached
  simp [locally, bodyEq, and_assoc]

/-! ## What a computation does to the state -/

/-- However it ends, the computation relates the states before and after it. -/
def Moves (related : σ → σ → Prop) (body : Effect σ ε α) : Prop :=
  ∀ state, related state (body state).2

/-- The states of two worlds are related. -/
def Within (related : σ → σ → Prop) (world reached : Faulty σ) : Prop :=
  related world.state reached.state

variable {related first second : σ → σ → Prop}

theorem ReadOnly.moves (reads : ReadOnly body) (refl : ∀ state, related state state) :
    Moves related body := by
  intro state
  rw [reads.state_eq]
  exact refl state

theorem moves_pure (refl : ∀ state, related state state) :
    Moves related (pure value : Effect σ ε α) :=
  readOnly_pure.moves refl

/-- Two parts of a sequence move the state one after the other. -/
theorem Moves.bind {part : Effect σ ε α} {next : α → Effect σ ε β} (partMoves : Moves first part)
    (nextMoves : ∀ value, Moves second (next value))
    (alone : ∀ state target, first state target → related state target)
    (both : ∀ state middle target, first state middle → second middle target →
      related state target) :
    Moves related (part >>= next) := by
  intro state
  have moved := partMoves state
  rcases partEq : part state with ⟨thrown | value, middle⟩
  · rw [bind_eq_error_iff.mpr (Or.inl partEq)]
    rw [partEq] at moved
    exact alone state middle moved
  · rw [bind_of_ok partEq]
    rw [partEq] at moved
    exact both state middle _ moved (nextMoves value middle)

/-- Two parts of a sequence move the state along a transitive relation. -/
theorem Moves.andThen {part : Effect σ ε α} {next : α → Effect σ ε β}
    (trans : ∀ state middle target, related state middle → related middle target →
      related state target) (partMoves : Moves related part)
    (nextMoves : ∀ value, Moves related (next value)) : Moves related (part >>= next) :=
  partMoves.bind nextMoves (fun _ _ moved => moved) trans

/-- What follows a value that is there or not moves the state, if it does when the
value is there. -/
theorem moves_asking {result : Except ε α} {next : α → Effect σ ε β}
    (refl : ∀ state, related state state)
    (nextMoves : ∀ value, result = .ok value → Moves related (next value)) :
    Moves related (asking (fun _ => result) >>= next) := by
  intro state
  cases result with
  | error thrown => exact refl state
  | ok value => exact nextMoves value rfl state

/-- A family of relations in which costs add up. -/
structure Graded (related : Nat → σ → σ → Prop) : Prop where
  refl : ∀ state, related 0 state state
  weaken : ∀ {least most : Nat} {state target : σ}, least ≤ most → related least state target →
    related most state target
  trans : ∀ {cost rest : Nat} {state middle target : σ}, related cost state middle →
    related rest middle target → related (cost + rest) state target

/-- The costs of the parts of a sequence add up. -/
theorem Graded.bind {related : Nat → σ → σ → Prop} (graded : Graded related) {cost rest : Nat}
    {part : Effect σ ε α} {next : α → Effect σ ε β} (partMoves : Moves (related cost) part)
    (nextMoves : ∀ value, Moves (related rest) (next value)) :
    Moves (related (cost + rest)) (part >>= next) :=
  partMoves.bind nextMoves (fun _ _ => graded.weaken (Nat.le_add_right cost rest))
    fun _ _ _ => graded.trans

/-- A part that costs nothing. -/
theorem Graded.bind_free {related : Nat → σ → σ → Prop} (graded : Graded related) {cost : Nat}
    {part : Effect σ ε α} {next : α → Effect σ ε β} (partMoves : Moves (related 0) part)
    (nextMoves : ∀ value, Moves (related cost) (next value)) :
    Moves (related cost) (part >>= next) := by
  have moves := graded.bind partMoves nextMoves
  rw [Nat.zero_add] at moves
  exact moves

/-- A part that nothing with a cost follows. -/
theorem Graded.bind_last {related : Nat → σ → σ → Prop} (graded : Graded related) {cost : Nat}
    {part : Effect σ ε α} {next : α → Effect σ ε β} (partMoves : Moves (related cost) part)
    (nextMoves : ∀ value, Moves (related 0) (next value)) :
    Moves (related cost) (part >>= next) :=
  graded.bind partMoves nextMoves

theorem moves_calling (refl : ∀ state, related state state) (moves : Moves related body) :
    Moves (Within related) (calling outage body) := by
  intro world
  rw [calling]
  split
  · exact refl world.state
  · exact moves world.state

theorem moves_locally (moves : Moves related body) :
    Moves (Within related) (locally body) :=
  fun world => moves world.state

/-! ## Computations that leave the state alone -/

/-- However it ends, the computation leaves the state as it was. -/
def Quiet (body : Effect (Faulty σ) ε α) : Prop := Moves (Within Eq) body

theorem quiet_of_readOnly {body : Effect (Faulty σ) ε α} (reads : ReadOnly body) : Quiet body :=
  reads.moves fun _ => rfl

/-- What is quiet moves the state along every reflexive relation. -/
theorem Quiet.moves {body : Effect (Faulty σ) ε α} (quiet : Quiet body)
    (refl : ∀ state, related state state) : Moves (Within related) body := by
  intro world
  have same : world.state = (body world).2.state := quiet world
  rw [Within, ← same]
  exact refl world.state

theorem quiet_calling (reads : ReadOnly body) : Quiet (calling outage body) :=
  moves_calling (fun _ => rfl) (reads.moves fun _ => rfl)

theorem quiet_locally (reads : ReadOnly body) : Quiet (locally body) :=
  moves_locally (reads.moves fun _ => rfl)

theorem Quiet.bind {part : Effect (Faulty σ) ε α} {next : α → Effect (Faulty σ) ε β}
    (partQuiet : Quiet part) (nextQuiet : ∀ value, Quiet (next value)) : Quiet (part >>= next) :=
  partQuiet.andThen (fun _ _ _ => Eq.trans) nextQuiet

theorem Quiet.state_eq {part : Effect (Faulty σ) ε α} {result : Except ε α} (quiet : Quiet part)
    (partEq : part world = (result, reached)) : reached.state = world.state := by
  have same : world.state = (part world).2.state := quiet world
  rw [partEq] at same
  exact same.symm

/-- What is quiet leaves what the part before it left. -/
theorem state_bind_quiet {part : Effect (Faulty σ) ε α} {next : α → Effect (Faulty σ) ε β}
    (quiet : ∀ value, Quiet (next value)) :
    ((part >>= next) world).2.state = (part world).2.state := by
  rcases partEq : part world with ⟨thrown | value, middle⟩
  · rw [bind_eq_error_iff.mpr (Or.inl partEq)]
  · rw [bind_of_ok partEq]
    exact (quiet value).state_eq rfl

/-! ## What a computation leaves -/

/-- What the computation leaves, however it ends, has a property. -/
def Leaves (inv : σ → Prop) (body : Effect (Faulty σ) ε α) (world : Faulty σ) : Prop :=
  inv (body world).2.state

variable {inv : σ → Prop}

theorem Leaves.bind {part : Effect (Faulty σ) ε α} {next : α → Effect (Faulty σ) ε β}
    (left : Leaves inv part world)
    (keeps : ∀ value middle, part world = (.ok value, middle) → Leaves inv (next value) middle) :
    Leaves inv (part >>= next) world := by
  rw [Leaves] at left ⊢
  rcases partEq : part world with ⟨thrown | value, middle⟩
  · rw [partEq] at left
    rw [bind_eq_error_iff.mpr (Or.inl partEq)]
    exact left
  · rw [bind_of_ok partEq]
    exact keeps value middle partEq

/-- A quiet part may stop a sequence; what follows it sees the same state. -/
theorem Leaves.afterQuiet {part : Effect (Faulty σ) ε α} {next : α → Effect (Faulty σ) ε β}
    (quiet : Quiet part) (holds : inv world.state)
    (keeps : ∀ value middle, part world = (.ok value, middle) → middle.state = world.state →
      Leaves inv (next value) middle) :
    Leaves inv (part >>= next) world := by
  apply Leaves.bind
  · rw [Leaves, quiet.state_eq rfl]
    exact holds
  · exact fun value middle partEq => keeps value middle partEq (quiet.state_eq partEq)

/-! ## Computations none of whose calls fails -/

/-- If no call fails before the computation, none does in it. -/
def Calm (body : Effect (Faulty σ) ε α) : Prop :=
  ∀ world, world.left = none → (body world).2.left = none

theorem calm_of_readOnly {body : Effect (Faulty σ) ε α} (reads : ReadOnly body) : Calm body := by
  intro world calm
  rw [reads.state_eq]
  exact calm

theorem calm_calling (body : Effect σ ε α) : Calm (calling outage body) := by
  intro world calm
  simp [calling, calm]

theorem calm_locally (body : Effect σ ε α) : Calm (locally body) :=
  fun _ calm => calm

theorem Calm.bind {part : Effect (Faulty σ) ε α} {next : α → Effect (Faulty σ) ε β}
    (partCalm : Calm part) (nextCalm : ∀ value, Calm (next value)) : Calm (part >>= next) := by
  intro world calm
  have middleCalm := partCalm world calm
  rcases partEq : part world with ⟨thrown | value, middle⟩
  · rw [partEq] at middleCalm
    rw [bind_eq_error_iff.mpr (Or.inl partEq)]
    exact middleCalm
  · rw [partEq] at middleCalm
    rw [bind_of_ok partEq]
    exact nextCalm value middle middleCalm

/-- A sequence whose first part is quiet and calm leaves what its second part leaves from
the same state. -/
theorem Leaves.afterCalm {state : σ} {part : Effect (Faulty σ) ε α}
    {next : α → Effect (Faulty σ) ε β} (quiet : Quiet part) (calm : Calm part) (holds : inv state)
    (keeps : ∀ value, part ⟨state, none⟩ = (.ok value, ⟨state, none⟩) →
      Leaves inv (next value) ⟨state, none⟩) :
    Leaves inv (part >>= next) ⟨state, none⟩ := by
  apply Leaves.afterQuiet quiet holds
  intro value middle partEq stateEq
  have leftEq : middle.left = none := by
    have left := calm ⟨state, none⟩ rfl
    rw [partEq] at left
    exact left
  obtain ⟨reached, left⟩ := middle
  cases stateEq
  cases leftEq
  exact keeps value partEq

/-! ## Parts that answer from a state -/

/-- From a state, the computation reads: it returns the value, if there is one and its calls are
allowed, and otherwise throws. -/
def Answers (body : Effect (Faulty σ) ε α) (state : σ) (cost : Nat) (value? : Option α) : Prop :=
  ∀ left,
    (∀ value ∈ value?, Allows left cost →
      body ⟨state, left⟩ = (.ok value, ⟨state, left.map (· - cost)⟩)) ∧
    ((∀ value ∈ value?, ¬ Allows left cost) →
      ∃ thrown after, body ⟨state, left⟩ = (.error thrown, ⟨state, after⟩))

section
variable {state : σ} {cost rest : Nat} {value? : Option α} {next? : Option β}
  {part : Effect (Faulty σ) ε α} {next : α → Effect (Faulty σ) ε β}

theorem Answers.ok {left : Option Nat} (answers : Answers part state cost (some value))
    (allows : Allows left cost) :
    part ⟨state, left⟩ = (.ok value, ⟨state, left.map (· - cost)⟩) :=
  (answers left).1 value rfl allows

theorem Answers.fails {left : Option Nat} (answers : Answers part state cost value?)
    (fails : value? = none ∨ ¬ Allows left cost) :
    ∃ thrown after, part ⟨state, left⟩ = (.error thrown, ⟨state, after⟩) := by
  apply (answers left).2
  intro value valueEq
  rcases fails with rfl | short
  · cases valueEq
  · exact short

theorem answers_pure (value : α) : Answers (pure value : Effect (Faulty σ) ε α) state 0
    (some value) := by
  intro left
  refine ⟨?_, fun short => absurd (allows_zero left) (short value rfl)⟩
  rintro _ ⟨⟩ _
  rw [pure_eq_ok_iff]
  exact ⟨rfl, by simp⟩

theorem answers_throwing (error : ε) (cost : Nat) :
    Answers (throwing error : Effect (Faulty σ) ε α) state cost none :=
  fun left => ⟨fun _ absent => (by cases absent), fun _ => ⟨error, left, rfl⟩⟩

/-- What always throws does so at any cost. -/
theorem Answers.anyCost (answers : Answers part state cost none) (other : Nat) :
    Answers part state other none :=
  fun left => ⟨fun _ absent => (by cases absent), fun _ => answers.fails (Or.inl rfl)⟩

/-- A query of the caller's own. -/
theorem answers_asking (result : Except ε α) :
    Answers (asking fun _ => result) state 0 result.toOption := by
  intro left
  cases result with
  | error thrown => exact ⟨fun _ absent => (by cases absent), fun _ => ⟨thrown, left, rfl⟩⟩
  | ok value =>
      refine ⟨?_, fun short => absurd (allows_zero left) (short value rfl)⟩
      rintro _ ⟨⟩ _
      rw [asking_eq_ok_iff]
      exact ⟨rfl, by simp⟩

theorem answers_require (condition : Bool) (error : ε) :
    Answers (require condition error : Effect (Faulty σ) ε Unit) state 0
      (if condition then some () else none) := by
  cases condition with
  | false => exact fun left => ⟨fun _ absent => (by cases absent), fun _ => ⟨error, left, rfl⟩⟩
  | true => exact answers_pure ()

theorem answers_orThrow (present : Option α) (error : ε) :
    Answers (orThrow present error : Effect (Faulty σ) ε α) state 0 present := by
  cases present with
  | none => exact fun left => ⟨fun _ absent => (by cases absent), fun _ => ⟨error, left, rfl⟩⟩
  | some value => exact answers_pure value

/-- A call that reads. -/
theorem answers_calling {query : σ → α} :
    Answers (calling outage (reading query)) state 1 (some (query state)) := by
  intro left
  constructor
  · rintro _ ⟨⟩ allows
    exact calling_of_allows allows
  · intro short
    exact ⟨outage, none, calling_of_not_allows (short (query state) rfl)⟩

/-- What follows an answer sees the same state. -/
theorem Answers.andThen {value : α} (first : Answers part state cost (some value))
    (second : Answers (next value) state rest next?) :
    Answers (part >>= next) state (cost + rest) next? := by
  intro left
  constructor
  · intro result resultEq allows
    have allowsFirst := allows.mono (Nat.le_add_right cost rest)
    rw [bind_of_ok (first.ok allowsFirst)]
    have returned := (second _).1 result resultEq (allowsFirst.after_iff.mpr allows)
    rw [returned, Option.map_map]
    congr 3
    funext calls
    exact Nat.sub_sub calls cost rest
  · intro short
    by_cases allowsFirst : Allows left cost
    · rw [bind_of_ok (first.ok allowsFirst)]
      apply (second _).2
      intro result resultEq allows
      exact short result resultEq (allowsFirst.after_iff.mp allows)
    · obtain ⟨thrown, after, thrownEq⟩ := first.fails (Or.inr allowsFirst)
      exact ⟨thrown, after, bind_eq_error_iff.mpr (Or.inl thrownEq)⟩

/-- A part without calls comes first. -/
theorem Answers.freeThen {value : α} (first : Answers part state 0 (some value))
    (second : Answers (next value) state cost next?) : Answers (part >>= next) state cost next? := by
  have both := first.andThen second
  rw [Nat.zero_add] at both
  exact both

/-- A part without calls comes last. -/
theorem Answers.thenFree {value : α} (first : Answers part state cost (some value))
    (second : Answers (next value) state 0 next?) : Answers (part >>= next) state cost next? :=
  first.andThen second

/-- Nothing follows what throws. -/
theorem Answers.stops (first : Answers part state cost none) (other : Nat) :
    Answers (part >>= next) state other none := by
  intro left
  obtain ⟨thrown, after, thrownEq⟩ := (first left).2 fun _ absent => (by cases absent)
  exact ⟨fun _ absent => (by cases absent), fun _ =>
    ⟨thrown, after, bind_eq_error_iff.mpr (Or.inl thrownEq)⟩⟩

/-- What comes after a check. -/
theorem Answers.afterRequire {γ : Type} {condition answer : Bool} {error : ε} {value : γ}
    {following : Effect (Faulty σ) ε γ}
    (rest : Answers following state cost (if answer then some value else none)) :
    Answers (require condition error >>= fun _ => following) state cost
      (if condition && answer then some value else none) := by
  have checked : Answers (require condition error) state 0 (if condition then some () else none) :=
    answers_require condition error
  cases condition with
  | false => exact checked.stops cost
  | true => exact checked.freeThen rest

end

end Effect

end Manbaa.Lib
