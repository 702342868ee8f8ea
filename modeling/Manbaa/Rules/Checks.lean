import Manbaa.Rules.Conflicts

/-!
# What the checks of the rules service let through

The parts of the methods that come before a write: they leave the state as it is, and
what they return says what they have found.  A call that no other call fails goes
through its parts one after the other.
-/

namespace Manbaa.Rules

open Manbaa.Lib Manbaa.Lib.Effect

variable {host : Host} {caller : RequestUser} {state : RulesState} {world reached : Faulty RulesState}
  {candidate rule other : Rule}

/-! ## Queries -/

section
variable {α : Type}

theorem quiet_query {body : Statements α} (reads : ReadOnly body) : Quiet (query body) :=
  quiet_calling (reads.zoom fun _ => rfl)

theorem quiet_reading (read : RulesDb → α) : Quiet (query (reading read)) :=
  quiet_query readOnly_reading

theorem calm_query (body : Statements α) : Calm (query body) :=
  calm_calling _

/-- A query that no failure stops. -/
theorem query_calm (body : Statements α) (state : RulesState) :
    query body ⟨state, none⟩ =
      ((body state.db).1, ⟨{ state with db := (body state.db).2 }, none⟩) :=
  rfl

theorem reading_ok {read : RulesDb → α} {found : α}
    (queryEq : query (reading read) world = (.ok found, reached)) :
    read world.state.db = found ∧ reached.state = world.state := by
  obtain ⟨zoomEq, _⟩ := calling_eq_ok_iff.mp queryEq
  obtain ⟨db, readEq, stateEq⟩ := zoom_eq_iff.mp zoomEq
  obtain ⟨rfl, rfl⟩ := reading_eq_ok_iff.mp readEq
  exact ⟨rfl, stateEq.symm⟩

end

/-! ## Who may write -/

theorem quiet_assertRuleManager (caller : RequestUser) : Quiet (assertRuleManager caller) :=
  (quiet_of_readOnly readOnly_require).bind fun _ => quiet_of_readOnly readOnly_require

theorem calm_assertRuleManager (caller : RequestUser) : Calm (assertRuleManager caller) :=
  (calm_of_readOnly readOnly_require).bind fun _ => calm_of_readOnly readOnly_require

theorem quiet_assertScopeConsistency (scope : RuleScope) (workflowId : Option Uuid)
    (targetAgent : Option AgentType) (orgId : Uuid) :
    Quiet (assertScopeConsistency scope workflowId targetAgent orgId) := by
  refine (quiet_of_readOnly readOnly_require).bind fun _ =>
    (quiet_of_readOnly readOnly_require).bind fun _ =>
      (quiet_of_readOnly readOnly_require).bind fun _ => ?_
  cases workflowId with
  | none => exact quiet_of_readOnly readOnly_pure
  | some id =>
      exact (quiet_reading _).bind fun _ => (quiet_of_readOnly readOnly_orThrow).bind fun _ =>
        quiet_of_readOnly readOnly_pure

theorem calm_assertScopeConsistency (scope : RuleScope) (workflowId : Option Uuid)
    (targetAgent : Option AgentType) (orgId : Uuid) :
    Calm (assertScopeConsistency scope workflowId targetAgent orgId) := by
  refine (calm_of_readOnly readOnly_require).bind fun _ =>
    (calm_of_readOnly readOnly_require).bind fun _ =>
      (calm_of_readOnly readOnly_require).bind fun _ => ?_
  cases workflowId with
  | none => exact calm_of_readOnly readOnly_pure
  | some id =>
      exact (calm_query _).bind fun _ => (calm_of_readOnly readOnly_orThrow).bind fun _ =>
        calm_of_readOnly readOnly_pure

/-! ## The rule that is meant -/

theorem quiet_findRuleOrThrow (id orgId : Uuid) : Quiet (findRuleOrThrow id orgId) :=
  (quiet_reading _).bind fun _ => quiet_of_readOnly readOnly_orThrow

theorem calm_findRuleOrThrow (id orgId : Uuid) : Calm (findRuleOrThrow id orgId) :=
  (calm_query _).bind fun _ => calm_of_readOnly readOnly_orThrow

/-- A rule that is found is the row under its identifier, in the organization. -/
theorem findRuleOrThrow_ok {id orgId : Uuid}
    (findEq : findRuleOrThrow id orgId world = (.ok rule, reached)) :
    world.state.db.rule? id = some rule ∧ rule.orgId = orgId := by
  obtain ⟨found, middle, queryEq, orEq⟩ := bind_eq_ok_iff.mp findEq
  obtain ⟨foundEq, _⟩ := reading_ok queryEq
  obtain ⟨presentEq, _⟩ := orThrow_eq_ok_iff.mp orEq
  rw [presentEq, Option.filter_eq_some_iff] at foundEq
  exact ⟨foundEq.1, beq_iff_eq.mp foundEq.2⟩

/-! ## Rules that are compared -/

theorem quiet_findCandidates (candidate : Rule) (rulePool : Option (List Rule)) :
    Quiet (findCandidates candidate rulePool) := by
  cases rulePool with
  | none => exact quiet_reading _
  | some rules => exact quiet_of_readOnly readOnly_pure

theorem calm_findCandidates (candidate : Rule) (rulePool : Option (List Rule)) :
    Calm (findCandidates candidate rulePool) := by
  cases rulePool with
  | none => exact calm_query _
  | some rules => exact calm_of_readOnly readOnly_pure

theorem findCandidates_ok {rulePool : Option (List Rule)} {candidates : List Rule}
    (findEq : findCandidates candidate rulePool world = (.ok candidates, reached)) :
    candidates = rulePool.getD (world.state.db.besides candidate) := by
  cases rulePool with
  | none => exact (reading_ok findEq).1.symm
  | some rules => exact (pure_eq_ok_iff.mp findEq).1.symm

theorem quiet_ensureNoConflict (host : Host) (candidate : Rule) (excludeRuleId : Option Uuid)
    (rulePool : Option (List Rule)) :
    Quiet (ensureNoConflict host candidate excludeRuleId rulePool) := by
  rw [ensureNoConflict]
  split
  · exact quiet_of_readOnly readOnly_pure
  · apply (quiet_findCandidates candidate rulePool).bind
    intro candidates
    dsimp only
    split
    · exact quiet_of_readOnly readOnly_pure
    · apply (quiet_calling readOnly_pure).bind
      intro _ world
      rfl

theorem calm_ensureNoConflict (host : Host) (candidate : Rule) (excludeRuleId : Option Uuid)
    (rulePool : Option (List Rule)) :
    Calm (ensureNoConflict host candidate excludeRuleId rulePool) := by
  rw [ensureNoConflict]
  split
  · exact calm_of_readOnly readOnly_pure
  · apply (calm_findCandidates candidate rulePool).bind
    intro candidates
    dsimp only
    split
    · exact calm_of_readOnly readOnly_pure
    · apply (calm_calling _).bind
      intro _ world calm
      exact calm

/-- An active candidate of a contradictable type that is let through contradicts none of
the rules that it is compared with. -/
theorem ensureNoConflict_ok {excludeRuleId : Option Uuid} {rulePool : Option (List Rule)}
    (ensureEq : ensureNoConflict host candidate excludeRuleId rulePool world = (.ok (), reached))
    (isActive : candidate.isActive = true)
    (contradictable : candidate.ruleType ∈ contradictableRuleTypes)
    (compared : other ∈ rulePool.getD (world.state.db.besides candidate))
    (kept : excludeRuleId ≠ some other.id) : conflicts host candidate other = false := by
  rw [ensureNoConflict, if_neg (by simp [isActive, contradictable])] at ensureEq
  obtain ⟨candidates, middle, findEq, rest⟩ := bind_eq_ok_iff.mp ensureEq
  rw [← findCandidates_ok findEq] at compared
  cases foundEq : candidates.find? fun existingRule =>
      excludeRuleId != some existingRule.id && conflicts host candidate existingRule with
  | none =>
      have passed := List.find?_eq_none.mp foundEq other compared
      rw [bne_iff_ne.mpr kept, Bool.true_and] at passed
      exact Bool.eq_false_iff.mpr passed
  | some conflicting =>
      rw [foundEq] at rest
      obtain ⟨_, _, _, thrown⟩ := bind_eq_ok_iff.mp rest
      exact absurd thrown throwing_ne_ok

/-! ## What the checks answer -/

/-- The caller may change rules. -/
def managesRules (caller : RequestUser) : Bool :=
  caller.orgId.text != "" &&
    [UserRole.admin.text, UserRole.businessAnalyst.text].contains caller.role

/-- The scope of a rule goes with its workflow and its agent, and the workflow is there. -/
def RulesDb.scopeConsistent (db : RulesDb) (scope : RuleScope) (workflowId : Option Uuid)
    (targetAgent : Option AgentType) (orgId : Uuid) : Bool :=
  !(scope == .workflow && workflowId.isNone) && !(scope == .org && workflowId.isSome) &&
    !(scope == .agent && targetAgent.isNone) &&
    workflowId.all fun id => db.workflows.any fun workflow =>
      workflow.id == id && workflow.orgId == orgId

/-- `ensureNoConflict` compares a rule with others. -/
def Rule.isCompared (rule : Rule) : Bool :=
  rule.isActive && contradictableRuleTypes.contains rule.ruleType

/-- A rule that is compared contradicts none of the others, the excluded one apart. -/
def passes (host : Host) (candidate : Rule) (excludeRuleId : Option Uuid) (compared : List Rule) :
    Bool :=
  !candidate.isCompared || compared.all fun other =>
    !(excludeRuleId != some other.id && conflicts host candidate other)

theorem answers_query {α : Type} (read : RulesDb → α) :
    Answers (query (reading read)) state 1 (some (read state.db)) :=
  answers_calling

theorem answers_assertRuleManager (state : RulesState) (caller : RequestUser) :
    Answers (assertRuleManager caller) state 0 (if managesRules caller then some () else none) :=
  Answers.afterRequire (answers_require _ _)

theorem answers_findRuleOrThrow (state : RulesState) (id orgId : Uuid) :
    Answers (findRuleOrThrow id orgId) state 1
      ((state.db.rule? id).filter fun rule => rule.orgId == orgId) :=
  (answers_query _).thenFree (answers_orThrow _ _)

theorem answers_assertScopeConsistency (state : RulesState) (scope : RuleScope)
    (workflowId : Option Uuid) (targetAgent : Option AgentType) (orgId : Uuid) :
    Answers (assertScopeConsistency scope workflowId targetAgent orgId) state
      (if workflowId.isSome then 1 else 0)
      (if state.db.scopeConsistent scope workflowId targetAgent orgId then some () else none) := by
  rw [RulesDb.scopeConsistent, Bool.and_assoc, Bool.and_assoc]
  refine Answers.afterRequire (Answers.afterRequire (Answers.afterRequire ?_))
  cases workflowId with
  | none => exact answers_pure ()
  | some id =>
      refine (answers_query _).thenFree ?_
      cases found : state.db.workflows.find? fun workflow =>
          workflow.id == id && workflow.orgId == orgId with
      | none =>
          have absent : (state.db.workflows.any fun workflow =>
              workflow.id == id && workflow.orgId == orgId) = false := by
            rw [List.any_eq_false]
            exact List.find?_eq_none.mp found
          rw [Option.all_some, absent]
          exact (answers_orThrow none _).stops 0
      | some workflow =>
          have present : (state.db.workflows.any fun workflow =>
              workflow.id == id && workflow.orgId == orgId) = true := by
            rw [List.any_eq_true]
            have meets := List.find?_some found
            exact ⟨workflow, List.mem_of_find?_eq_some found, meets⟩
          rw [Option.all_some, present]
          exact (answers_orThrow (some workflow) _).thenFree (answers_pure ())

/-- What `ensureNoConflict` does with what it compares. -/
theorem answers_compared (candidate : Rule) (excludeRuleId : Option Uuid) (compared : List Rule) :
    Answers (match compared.find? fun existingRule =>
        excludeRuleId != some existingRule.id && conflicts host candidate existingRule with
      | none => pure ()
      | some conflictingRule => do
          external
          throwing (.ruleConflict conflictingRule.id conflictingRule.name
            (buildConflictDetail host candidate conflictingRule)) : Calls Unit) state 0
      (if compared.all fun other =>
        !(excludeRuleId != some other.id && conflicts host candidate other) then some ()
      else none) := by
  cases found : compared.find? fun other =>
      excludeRuleId != some other.id && conflicts host candidate other with
  | none =>
      have passed : (compared.all fun other =>
          !(excludeRuleId != some other.id && conflicts host candidate other)) = true := by
        rw [List.all_eq_true]
        intro other otherMem
        rw [Bool.not_eq_true']
        exact Bool.eq_false_iff.mpr (List.find?_eq_none.mp found other otherMem)
      rw [if_pos passed]
      exact answers_pure ()
  | some other =>
      have opposed : ¬ (compared.all fun other =>
          !(excludeRuleId != some other.id && conflicts host candidate other)) = true := by
        intro passed
        have passes := List.all_eq_true.mp passed other (List.mem_of_find?_eq_some found)
        have meets := List.find?_some found
        rw [meets] at passes
        cases passes
      rw [if_neg opposed]
      have emitted : Answers external state 1 (some ()) := answers_calling
      exact Answers.anyCost (emitted.andThen (answers_throwing _ 0)) 0

/-- What is compared is let through when it contradicts nothing. -/
theorem answers_ensureNoConflict (host : Host) (state : RulesState) (candidate : Rule)
    (excludeRuleId : Option Uuid) (rulePool : Option (List Rule)) :
    Answers (ensureNoConflict host candidate excludeRuleId rulePool) state
      (if candidate.isCompared && rulePool.isNone then 1 else 0)
      (if passes host candidate excludeRuleId (rulePool.getD (state.db.besides candidate)) then
        some () else none) := by
  rw [ensureNoConflict, passes]
  cases isCompared : candidate.isCompared with
  | false =>
      rw [if_pos (by rw [← Bool.not_and, ← Rule.isCompared, isCompared]; rfl)]
      exact answers_pure ()
  | true =>
      rw [if_neg (by rw [← Bool.not_and, ← Rule.isCompared, isCompared]; decide)]
      cases rulePool with
      | none => exact (answers_query _).thenFree (answers_compared candidate excludeRuleId _)
      | some rules =>
          have given : Answers (findCandidates candidate (some rules)) state 0 (some rules) :=
            answers_pure rules
          exact given.thenFree (answers_compared candidate excludeRuleId rules)

/-- The rules that a candidate is compared with are the active ones beside it. -/
theorem mem_besides_iff {db : RulesDb} :
    other ∈ db.besides candidate ↔
      other ∈ db.rules ∧ other.isActive = true ∧ candidate.Beside other := by
  rw [RulesDb.besides, List.mem_insertionSort, List.mem_filter, Bool.and_eq_true,
    decide_eq_true_iff]

/-- The active rules of an organization are its rows that are active. -/
theorem mem_activeRules_iff {db : RulesDb} {orgId : Uuid} :
    rule ∈ db.activeRules orgId ↔
      rule ∈ db.rules ∧ rule.orgId = orgId ∧ rule.isActive = true := by
  rw [RulesDb.activeRules, List.mem_insertionSort, List.mem_filter, Bool.and_eq_true, beq_iff_eq]

/-! ## Writes -/

/-- A save writes the row if its columns take the values. -/
theorem saveRule_ok_iff {now : Nat} {db target : RulesDb} :
    saveRule host rule now db = (.ok (), target) ↔ rule.fits = .ok () ∧
      target = { db with rules := Table.save Rule.id db.rules (host.row rule now) } := by
  rw [saveRule, bind_eq_ok_iff]
  constructor
  · rintro ⟨_, middle, askEq, writeEq⟩
    obtain ⟨fitsEq, rfl⟩ := asking_eq_ok_iff.mp askEq
    exact ⟨fitsEq, (writing_eq_ok_iff.mp writeEq).symm⟩
  · rintro ⟨fitsEq, rfl⟩
    exact ⟨(), db, asking_eq_ok_iff.mpr ⟨fitsEq, rfl⟩, writing_eq_ok_iff.mpr rfl⟩

theorem atomic_saveRule (host : Host) (rule : Rule) (now : Nat) :
    Atomic (saveRule host rule now) :=
  readOnly_asking.bind_atomic fun _ => atomic_writing

/-- Inserting one rule is a save under an identifier that no rule has. -/
theorem insertRules_cons_ok_iff {now : Nat} {rest : List Rule} {db target : RulesDb} :
    insertRules host now (rule :: rest) db = (.ok (), target) ↔
      db.rule? rule.id = none ∧ rule.fits = .ok () ∧ insertRules host now rest
        { db with rules := Table.save Rule.id db.rules (host.row rule now) } = (.ok (), target) := by
  rw [insertRules, bind_eq_ok_iff]
  constructor
  · rintro ⟨_, middle, askEq, saveRest⟩
    obtain ⟨checkEq, rfl⟩ := asking_eq_ok_iff.mp askEq
    obtain ⟨_, saved, saveEq, restEq⟩ := bind_eq_ok_iff.mp saveRest
    obtain ⟨fitsEq, rfl⟩ := saveRule_ok_iff.mp saveEq
    exact ⟨Option.isNone_iff_eq_none.mp (check_eq_ok_iff.mp checkEq), fitsEq, restEq⟩
  · rintro ⟨isNew, fitsEq, restEq⟩
    refine ⟨(), db, asking_eq_ok_iff.mpr ⟨?_, rfl⟩, ?_⟩
    · exact check_eq_ok_iff.mpr (Option.isNone_iff_eq_none.mpr isNew)
    · exact bind_eq_ok_iff.mpr ⟨(), _, saveRule_ok_iff.mpr ⟨fitsEq, rfl⟩, restEq⟩

theorem insertRules_cons_ok {now : Nat} {rest : List Rule} {db target : RulesDb}
    (insertEq : insertRules host now (rule :: rest) db = (.ok (), target)) :
    db.rule? rule.id = none ∧ insertRules host now rest
      { db with rules := Table.save Rule.id db.rules (host.row rule now) } = (.ok (), target) := by
  obtain ⟨isNew, _, restEq⟩ := insertRules_cons_ok_iff.mp insertEq
  exact ⟨isNew, restEq⟩

theorem atomic_insertRules_singleton (host : Host) (rule : Rule) (now : Nat) :
    Atomic (insertRules host now [rule]) := by
  apply readOnly_asking.bind_atomic
  intro _ db error target thrown
  rcases bind_eq_error_iff.mp thrown with saveEq | ⟨_, _, _, pureEq⟩
  · exact atomic_saveRule host rule now _ _ _ saveEq
  · exact absurd pureEq pure_ne_error

end Manbaa.Rules
