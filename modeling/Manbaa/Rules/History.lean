import Manbaa.Rules.Freshness

/-!
# The history of a rule

Calls that change one rule keep what the rule was before they save it, in two writes of their own.
The kept versions of the rule are complete as long as no save fails after a version has been kept,
and none leaves the rule as it was.
-/

namespace Manbaa.Rules

open Manbaa.Lib Manbaa.Lib.Effect

/-! ## What a call saves -/

/-- A call that changes a rule. -/
inductive RuleChange where
  | update (dto : UpdateRuleDto)
  | activate
  | deactivate
  | softDelete

/-- The call, for a rule. -/
def RuleChange.mutation (id : Uuid) (caller : RequestUser) : RuleChange → Mutation
  | .update dto => .update id dto caller
  | .activate => .activate id caller
  | .deactivate => .deactivate id caller
  | .softDelete => .softDelete id caller

/-- What a call saves of a rule, if it changes anything. -/
def RuleChange.next (host : Host) (rule : Rule) : RuleChange → Except Exception (Option Rule)
  | .update dto =>
      (nextInstruction rule dto).map fun instruction =>
        if !hasChanges host rule (rule.edit dto instruction) then none
        else some { rule.edit dto instruction with version := rule.version + 1 }
  | .activate => .ok (if rule.isActive then none else some (rule.switch true))
  | .deactivate => .ok (if !rule.isActive then none else some (rule.switch false))
  | .softDelete => .ok (if rule.isActive then some (rule.switch false) else none)

/-- What is left to write when nothing changes. -/
def RuleChange.otherwise : RuleChange → Option Writing
  | .softDelete => some .nothing
  | _ => none

/-- So many queries `ensureNoConflict` makes before it lets a rule through. -/
def Rule.comparisons (rule : Rule) : Nat := if rule.isCompared then 1 else 0

/-- A rule contradicts none of those that it is compared with, itself apart. -/
def RulesDb.unopposed (host : Host) (db : RulesDb) (rule : Rule) : Bool :=
  passes host rule (some rule.id) (db.besides rule)

/-- The rule that a call finds, and what it saves of it. -/
def RuleChange.plan (host : Host) (id : Uuid) (caller : RequestUser) (change : RuleChange) :
    Calls (Rule × Option Rule) := do
  assertRuleManager caller
  let rule ← findRuleOrThrow id caller.orgId
  let saved? ← asking fun _ => change.next host rule
  match saved? with
  | none => pure (rule, none)
  | some saved => do
      ensureNoConflict host saved (some rule.id) none
      pure (rule, some saved)

/-- What is written of a plan: the rule as it was, and then the rule. -/
def keepVersion (changedBy : Uuid) (otherwise : Option Writing) (planned : Rule × Option Rule) :
    Calls (Option Writing) :=
  match planned.2 with
  | none => pure otherwise
  | some saved => do
      snapshotRuleVersion planned.1 changedBy
      pure (some (.save saved))

/-- What a call changes if none of its calls fails: the rule as it is, and as it will be. -/
def RuleChange.planned (host : Host) (db : RulesDb) (id : Uuid) (caller : RequestUser)
    (change : RuleChange) : Option (Rule × Rule) :=
  if managesRules caller then
    ((db.rule? id).filter fun rule => rule.orgId == caller.orgId).bind fun rule =>
      ((change.next host rule).toOption.join.filter (db.unopposed host)).map fun saved =>
        (rule, saved)
  else none

variable {host : Host} {now : Nat} {id : Uuid} {caller : RequestUser} {change : RuleChange}
  {state next : RulesState} {db target : RulesDb} {rule saved later : Rule} {left : Option Nat}

/-! ## Every call is planned, kept and saved -/

theorem asking_ok_then {α β : Type} (value : α) (following : α → Calls β) :
    (asking fun _ => Except.ok value) >>= following = following value :=
  rfl

theorem asking_map_then {α β γ : Type} (result : Except Exception α) (name : α → β)
    (following : β → Calls γ) :
    (asking fun _ => result.map name) >>= following =
      (asking fun _ => result) >>= fun value => following (name value) := by
  cases result with
  | error thrown => rfl
  | ok value => rfl

/-- A rule that is not active is not compared. -/
theorem ensureNoConflict_inactive (isInactive : saved.isActive = false)
    (excludeRuleId : Option Uuid) (rulePool : Option (List Rule)) :
    ensureNoConflict host saved excludeRuleId rulePool = pure () := by
  rw [ensureNoConflict, isInactive]
  rfl

/-- The version of a rule does not count when it is compared. -/
theorem ensureNoConflict_version (version : Int) (excludeRuleId : Option Uuid)
    (rulePool : Option (List Rule)) :
    ensureNoConflict host { rule with version := version } excludeRuleId rulePool =
      ensureNoConflict host rule excludeRuleId rulePool :=
  rfl

theorem prepare_eq_plan (change : RuleChange) :
    (change.mutation id caller).prepare host now =
      change.plan host id caller >>= keepVersion caller.id change.otherwise := by
  rw [RuleChange.plan]
  cases change with
  | update dto =>
      simp only [RuleChange.mutation, Mutation.prepare, bind_bind, RuleChange.next,
        asking_map_then]
      congr 1; funext _; congr 1; funext rule; congr 1; funext instruction
      split
      · rfl
      · dsimp only
        split
        · rw [bind_bind]
          rfl
        · rename_i isInactive
          rw [ensureNoConflict_version, ensureNoConflict_inactive (Bool.eq_false_iff.mpr isInactive)]
          rfl
  | activate =>
      simp only [RuleChange.mutation, Mutation.prepare, bind_bind, RuleChange.next, asking_ok_then]
      congr 1; funext _; congr 1; funext rule
      split
      · rfl
      · rw [bind_bind]
        rfl
  | deactivate =>
      simp only [RuleChange.mutation, Mutation.prepare, bind_bind, RuleChange.next, asking_ok_then]
      congr 1; funext _; congr 1; funext rule
      split
      · rfl
      · rfl
  | softDelete =>
      simp only [RuleChange.mutation, Mutation.prepare, bind_bind, RuleChange.next, asking_ok_then]
      congr 1; funext _; congr 1; funext rule
      split
      · rfl
      · rfl

/-! ## When a plan is made -/

/-- A rule keeps its identifier, and its version counts on. -/
theorem next_ok (nextEq : change.next host rule = .ok (some saved)) :
    saved.id = rule.id ∧ saved.version = rule.version + 1 := by
  cases change with
  | update dto =>
      obtain ⟨instruction, _, editEq⟩ := except_map_eq_ok_iff.mp nextEq
      split at editEq
      · cases editEq
      · cases editEq
        exact ⟨rfl, rfl⟩
  | activate =>
      have savedEq := Except.ok.inj nextEq
      split at savedEq
      · cases savedEq
      · cases savedEq
        exact ⟨rfl, rfl⟩
  | deactivate =>
      have savedEq := Except.ok.inj nextEq
      split at savedEq
      · cases savedEq
      · cases savedEq
        exact ⟨rfl, rfl⟩
  | softDelete =>
      have savedEq := Except.ok.inj nextEq
      split at savedEq
      · cases savedEq
        exact ⟨rfl, rfl⟩
      · cases savedEq

/-- What a planned call has found, and what it saves. -/
theorem planned_eq_some_iff : change.planned host db id caller = some (rule, saved) ↔
    managesRules caller = true ∧ db.rule? id = some rule ∧ rule.orgId = caller.orgId ∧
      change.next host rule = .ok (some saved) ∧ db.unopposed host saved = true := by
  have join_iff : (change.next host rule).toOption.join = some saved ↔
      change.next host rule = .ok (some saved) := by
    cases change.next host rule with
    | error thrown => exact iff_of_false nofun nofun
    | ok saved? => exact ⟨congrArg Except.ok, Except.ok.inj⟩
  rw [RuleChange.planned]
  split
  · rename_i manages
    simp only [Option.bind_eq_some_iff, Option.map_eq_some_iff, Option.filter_eq_some_iff,
      beq_iff_eq, Prod.mk.injEq]
    constructor
    · rintro ⟨_, ⟨found, inOrg⟩, _, ⟨joined, unopposed⟩, rfl, rfl⟩
      exact ⟨manages, found, inOrg, join_iff.mp joined, unopposed⟩
    · rintro ⟨_, found, inOrg, nextEq, unopposed⟩
      exact ⟨rule, ⟨found, inOrg⟩, saved, ⟨join_iff.mpr nextEq, unopposed⟩, rfl, rfl⟩
  · rename_i refused
    exact iff_of_false nofun fun both => refused both.1

theorem answers_plan (state : RulesState) (nextEq : change.next host rule = .ok (some saved)) :
    Answers (ensureNoConflict host saved (some rule.id) none >>= fun _ => pure (rule, some saved))
      state saved.comparisons
      (if state.db.unopposed host saved then some (rule, some saved) else none) := by
  have checked : Answers (ensureNoConflict host saved (some saved.id) none) state saved.comparisons
      (if state.db.unopposed host saved then some () else none) := by
    rw [Rule.comparisons, ← Bool.and_true saved.isCompared]
    exact answers_ensureNoConflict host state saved (some saved.id) none
  rw [(next_ok nextEq).1] at checked
  split
  · rename_i unopposed
    rw [if_pos unopposed] at checked
    exact checked.thenFree (answers_pure _)
  · rename_i opposed
    rw [if_neg opposed] at checked
    exact checked.stops _


/-- What a call that finds its rule plans. -/
theorem plan_found {decided? : Option Rule} (manages : managesRules caller = true)
    (found : (state.db.rule? id).filter (fun rule => rule.orgId == caller.orgId) = some rule)
    (nextEq : change.next host rule = .ok decided?) {cost : Nat}
    {value? : Option (Rule × Option Rule)}
    (rest : Answers (match decided? with
      | none => pure (rule, none)
      | some saved => do
          ensureNoConflict host saved (some rule.id) none
          pure (rule, some saved)) state cost value?) :
    Answers (change.plan host id caller) state (1 + cost) value? := by
  have managed := answers_assertRuleManager state caller
  rw [if_pos manages] at managed
  have looked := answers_findRuleOrThrow state id caller.orgId
  rw [found] at looked
  have asked : Answers (asking fun _ => change.next host rule : Calls (Option Rule)) state 0
      (some decided?) := by
    rw [nextEq]
    exact answers_asking _
  exact managed.freeThen (looked.andThen (asked.freeThen rest))

/-- The plan of a call that changes its rule. -/
theorem plan_some (planned : change.planned host state.db id caller = some (rule, saved)) :
    Answers (change.plan host id caller) state (1 + saved.comparisons)
      (some (rule, some saved)) := by
  obtain ⟨manages, found, inOrg, nextEq, unopposed⟩ := planned_eq_some_iff.mp planned
  have checked := answers_plan state nextEq
  rw [if_pos unopposed] at checked
  exact plan_found manages (Option.filter_eq_some_iff.mpr ⟨found, beq_iff_eq.mpr inOrg⟩) nextEq
    checked

/-- The plan of a call that does not. -/
theorem plan_none (unplanned : change.planned host state.db id caller = none) :
    ∃ value?, Answers (change.plan host id caller) state 1 value? ∧
      ∀ value ∈ value?, value.2 = none := by
  have managed := answers_assertRuleManager state caller
  have looked := answers_findRuleOrThrow state id caller.orgId
  have nothing : ∀ value ∈ (none : Option (Rule × Option Rule)), value.2 = none :=
    fun _ absent => (by cases absent)
  rw [RuleChange.planned] at unplanned
  by_cases manages : managesRules caller = true
  · rw [if_pos manages] at managed unplanned
    cases foundEq : (state.db.rule? id).filter fun rule => rule.orgId == caller.orgId with
    | none =>
        rw [foundEq] at looked
        exact ⟨none, managed.freeThen (looked.stops 1), nothing⟩
    | some rule =>
        rw [foundEq, Option.bind_some, Option.map_eq_none_iff] at unplanned
        cases nextEq : change.next host rule with
        | error thrown =>
            rw [foundEq] at looked
            have asked : Answers (asking fun _ => change.next host rule : Calls (Option Rule)) state
                0 none := by
              rw [nextEq]
              exact answers_asking _
            exact ⟨none, managed.freeThen (looked.thenFree (asked.stops 0)), nothing⟩
        | ok saved? =>
            cases saved? with
            | none =>
                refine ⟨some (rule, none), plan_found manages foundEq nextEq (answers_pure _), ?_⟩
                intro _ valueEq
                cases valueEq
                rfl
            | some saved =>
                have opposed : ¬ state.db.unopposed host saved = true := by
                  intro unopposed
                  rw [nextEq] at unplanned
                  cases (Option.filter_eq_some_iff.mpr ⟨rfl, unopposed⟩).symm.trans unplanned
                have checked := answers_plan state nextEq
                rw [if_neg opposed] at checked
                exact ⟨none, plan_found manages foundEq nextEq (checked.anyCost 0), nothing⟩
  · rw [if_neg manages] at managed
    exact ⟨none, managed.stops 1, nothing⟩

/-! ## What a call leaves -/

/-- The rule as it was has been kept. -/
def RulesDb.keep (db : RulesDb) (rule : Rule) (changedBy : Uuid) : RulesDb :=
  { db with ruleVersions := db.ruleVersions ++ [rule.snapshot changedBy] }

/-- What a call leaves that keeps a rule and saves another one: the save may fail. -/
def RulesDb.keepAndSave (host : Host) (now : Nat) (db : RulesDb) (rule saved : Rule)
    (changedBy : Uuid) (isSaved : Bool) : RulesDb :=
  if isSaved then
    { db.keep rule changedBy with
      rules := Table.save Rule.id db.rules (host.row saved now) }
  else db.keep rule changedBy

/-- The call that follows the kept version is allowed, and the row takes the values. -/
def Saves (left : Option Nat) (saved : Rule) : Prop :=
  Allows left (3 + saved.comparisons) ∧ saved.fits = .ok ()

instance (left : Option Nat) (saved : Rule) : Decidable (Saves left saved) :=
  inferInstanceAs (Decidable (_ ∧ _))

theorem finishNext_db (orgId : Uuid) (wrote : Bool) (world : Faulty RulesState) :
    (finishNext orgId wrote world).2.state.db = world.state.db := by
  cases wrote with
  | false => rfl
  | true =>
      rw [finishNext, if_pos rfl, finishRule_state]
      split
      · rfl
      · rfl

/-- What a call leaves is decided before its audit row. -/
theorem body_db (mutation : Mutation) (world : Faulty RulesState) :
    ((mutation.call now).body host world).2.state.db =
      (mutation.write host now world).2.state.db := by
  rw [Mutation.body_eq]
  rcases writeEq : mutation.write host now world with ⟨thrown | wrote, middle⟩
  · rw [bind_eq_error_iff.mpr (Or.inl writeEq)]
  · rw [bind_of_ok writeEq, finishNext_db]

/-- A query that is not allowed leaves the state, and what follows it does not happen. -/
theorem query_then_of_not_allows {α β : Type} {body : Statements α} {following : α → Calls β}
    (fails : ¬ Allows left 1) : ((query body >>= following) ⟨state, left⟩).2.state = state := by
  have failed : query body ⟨state, left⟩ = (.error outage, ⟨state, none⟩) :=
    calling_of_not_allows fails
  rw [bind_eq_error_iff.mpr (Or.inl failed)]

/-- A query that is allowed is its statements. -/
theorem query_of_allows {α : Type} (state : RulesState) (body : Statements α)
    (allows : Allows left 1) :
    query body ⟨state, left⟩ = ((body state.db).1,
      ⟨{ state with db := (body state.db).2 }, left.map (· - 1)⟩) :=
  calling_of_allows allows

/-- The save of a rule, when it may fail. -/
theorem save_db (saved : Rule) :
    ((query (saveRule host saved now) >>= fun _ => pure true : Calls Bool) ⟨state, left⟩).2.state.db =
      if Allows left 1 ∧ saved.fits = .ok () then
        { state.db with rules := Table.save Rule.id state.db.rules (host.row saved now) }
      else state.db := by
  by_cases allows : Allows left 1
  · have queryEq := query_of_allows state (saveRule host saved now) allows
    cases fitsEq : saved.fits with
    | error thrown =>
        have saveEq : saveRule host saved now state.db = (.error thrown, state.db) :=
          bind_eq_error_iff.mpr (Or.inl (asking_eq_error_iff.mpr ⟨fitsEq, rfl⟩))
        rw [saveEq] at queryEq
        rw [bind_eq_error_iff.mpr (Or.inl queryEq), if_neg (fun fits => by cases fits.2)]
    | ok done =>
        have saveEq : saveRule host saved now state.db = (.ok (), { state.db with
            rules := Table.save Rule.id state.db.rules (host.row saved now) }) :=
          saveRule_ok_iff.mpr ⟨fitsEq, rfl⟩
        rw [saveEq] at queryEq
        rw [bind_of_ok queryEq, if_pos ⟨allows, rfl⟩]
        rfl
  · rw [query_then_of_not_allows allows, if_neg (fun fits => allows fits.1)]

/-- What a call leaves: it keeps the rule as it was once it has come so far, and saves the rule
unless that fails; otherwise it leaves everything as it was. -/
theorem change_db (host : Host) (now : Nat) (id : Uuid) (caller : RequestUser)
    (change : RuleChange) (state : RulesState) (left : Option Nat) :
    (∃ rule saved, change.planned host state.db id caller = some (rule, saved) ∧
      Allows left (2 + saved.comparisons) ∧
      (((change.mutation id caller).call now).body host ⟨state, left⟩).2.state.db =
        state.db.keepAndSave host now rule saved caller.id (decide (Saves left saved))) ∨
    ((∀ rule saved, change.planned host state.db id caller = some (rule, saved) →
        ¬ Allows left (2 + saved.comparisons)) ∧
      (((change.mutation id caller).call now).body host ⟨state, left⟩).2.state.db = state.db) := by
  rw [body_db, Mutation.write, prepare_eq_plan, bind_bind]
  cases planned : change.planned host state.db id caller with
  | none =>
      refine Or.inr ⟨fun _ _ absent => (by cases absent), ?_⟩
      obtain ⟨value?, answers, unchanged⟩ := plan_none planned
      by_cases returns : ∃ value, value? = some value ∧ Allows left 1
      · obtain ⟨value, rfl, allows⟩ := returns
        rw [bind_of_ok (answers.ok allows), keepVersion, unchanged value rfl]
        cases change <;> rfl
      · obtain ⟨thrown, after, thrownEq⟩ := (answers left).2 fun value valueEq allows =>
          returns ⟨value, valueEq, allows⟩
        rw [bind_eq_error_iff.mpr (Or.inl thrownEq)]
  | some pair =>
      obtain ⟨rule, saved⟩ := pair
      have answers := plan_some planned
      have short : ¬ Allows left (2 + saved.comparisons) → ∀ found next,
          some (rule, saved) = some (found, next) → ¬ Allows left (2 + next.comparisons) := by
        rintro fails _ _ ⟨⟩
        exact fails
      by_cases allows : Allows left (1 + saved.comparisons)
      · have further (calls : Nat) : Allows (left.map (· - (1 + saved.comparisons))) calls ↔
            Allows left (calls + 1 + saved.comparisons) := by
          rw [allows.after_iff, Nat.add_comm, Nat.add_assoc]
        have keepEq : keepVersion caller.id change.otherwise (rule, some saved) >>=
            writeNext host now = snapshotRuleVersion rule caller.id >>= fun _ =>
              query (saveRule host saved now) >>= fun _ => pure true :=
          bind_bind _ _ _
        rw [bind_of_ok (answers.ok allows), keepEq]
        by_cases kept : Allows left (2 + saved.comparisons)
        · refine Or.inl ⟨rule, saved, rfl, kept, ?_⟩
          have keptEq : snapshotRuleVersion rule caller.id
              ⟨state, left.map (· - (1 + saved.comparisons))⟩ =
              (.ok (), ⟨{ state with db := state.db.keep rule caller.id },
                (left.map (· - (1 + saved.comparisons))).map (· - 1)⟩) :=
            calling_of_allows ((further 1).mpr kept)
          have last : Allows ((left.map (· - (1 + saved.comparisons))).map (· - 1)) 1 ↔
              Allows left (3 + saved.comparisons) := by
            rw [((further 1).mpr kept).after_iff]
            exact further 2
          rw [bind_of_ok keptEq, save_db, RulesDb.keepAndSave]
          by_cases isSaved : Saves left saved
          · rw [if_pos ⟨last.mpr isSaved.1, isSaved.2⟩, if_pos (decide_eq_true isSaved)]
            rfl
          · rw [if_neg (fun both => isSaved ⟨last.mp both.1, both.2⟩),
              if_neg (by simpa using isSaved)]
        · refine Or.inr ⟨short kept, ?_⟩
          rw [snapshotRuleVersion, query_then_of_not_allows (fun more => kept ((further 1).mp more))]
      · have fails : ¬ Allows left (2 + saved.comparisons) := by
          intro more
          exact allows (more.mono (by omega))
        obtain ⟨thrown, after, thrownEq⟩ := answers.fails (Or.inr allows)
        refine Or.inr ⟨short fails, ?_⟩
        rw [bind_eq_error_iff.mpr (Or.inl thrownEq)]

/-! ## What is kept of a rule -/

/-- What a kept version says of its rule. -/
structure Content where
  instruction : String
  condition : Condition
  priority : Int
  isActive : Bool
  deriving DecidableEq

def Rule.content (rule : Rule) : Content :=
  ⟨rule.instruction, rule.condition, rule.priority, rule.isActive⟩

def RuleVersion.content (row : RuleVersion) : Content :=
  ⟨row.instruction, row.condition, row.priority, row.isActive⟩

/-- The kept versions of a rule. -/
def RulesDb.history (db : RulesDb) (id : Uuid) : List RuleVersion :=
  db.ruleVersions.filter fun row => row.ruleId == id

/-- The kept versions of a rule are numbered from one to the version before its own, each once. -/
def RulesDb.Numbered (id : Uuid) (db : RulesDb) : Prop :=
  ∃ rule, db.rule? id = some rule ∧ 1 ≤ rule.version ∧
    ((db.history id).map RuleVersion.version).Nodup ∧
      ∀ version, version ∈ (db.history id).map RuleVersion.version ↔
        1 ≤ version ∧ version < rule.version

/-- What the rule was is kept: it still is the same, or its version has a row that says it. -/
structure Kept (id : Uuid) (db later : RulesDb) : Prop where
  rows : ∀ row ∈ db.history id, row ∈ later.history id
  rule : ∀ rule, db.rule? id = some rule → ∃ next, later.rule? id = some next ∧
    ((next.version = rule.version ∧ next.content = rule.content) ∨
      (rule.version < next.version ∧
        ∃ row ∈ later.history id, row.version = rule.version ∧ row.content = rule.content))

/-- A call that changes nothing adds no row. -/
def AddsNothing (id : Uuid) (db later : RulesDb) : Prop :=
  (later.rule? id).map Rule.content = (db.rule? id).map Rule.content →
    later.history id = db.history id

/-- A call of a rule, who makes it and when, and so many of its calls succeed before one fails, if
one does. -/
structure ChangeCall where
  change : RuleChange
  caller : RequestUser
  now : Nat
  left : Option Nat

/-- One call of a rule after the other. -/
def historySystem (host : Host) (id : Uuid) : Step RulesState ChangeCall :=
  Step.ofTotal fun state call =>
    (((call.change.mutation id call.caller).call call.now).body host ⟨state, call.left⟩).2.state

/-- The history of a rule is complete along a run of calls. -/
structure HistoryComplete (host : Host) (id : Uuid) (start : RulesState)
    (calls : List ChangeCall) : Prop where
  complete : ∀ before between after middle target, calls = before ++ (between ++ after) →
    (historySystem host id).run start before = some middle →
    (historySystem host id).run middle between = some target →
      target.db.Numbered id ∧ Kept id middle.db target.db
  quiet : (historySystem host id).Meets (fun state call => ∀ next,
    historySystem host id state call = some next → AddsNothing id state.db next.db) start calls

/-- A call that has kept the rule saves it, and what it saves is another rule. -/
def KeepsComplete (host : Host) (id : Uuid) (state : RulesState) (call : ChangeCall) : Prop :=
  ∀ planned ∈ call.change.planned host state.db id call.caller,
    Allows call.left (2 + planned.2.comparisons) →
      Saves call.left planned.2 ∧ (host.row planned.2 call.now).content ≠ planned.1.content

theorem kept_refl (id : Uuid) (db : RulesDb) : Kept id db db :=
  ⟨fun _ rowMem => rowMem, fun rule found => ⟨rule, found, Or.inl ⟨rfl, rfl⟩⟩⟩

theorem Kept.trans {db middle target : RulesDb} (first : Kept id db middle)
    (second : Kept id middle target) : Kept id db target := by
  refine ⟨fun row rowMem => second.rows row (first.rows row rowMem), fun rule found => ?_⟩
  obtain ⟨next, nextFound, same | ⟨later, row, rowMem, ofVersion, holds⟩⟩ := first.rule rule found
  · obtain ⟨last, lastFound, still | ⟨later, row, rowMem, ofVersion, holds⟩⟩ :=
      second.rule next nextFound
    · exact ⟨last, lastFound, Or.inl ⟨still.1.trans same.1, still.2.trans same.2⟩⟩
    · exact ⟨last, lastFound, Or.inr ⟨same.1 ▸ later, row, rowMem, ofVersion.trans same.1,
        holds.trans same.2⟩⟩
  · obtain ⟨last, lastFound, still | ⟨further, _⟩⟩ := second.rule next nextFound
    · exact ⟨last, lastFound, Or.inr ⟨still.1 ▸ later, row, second.rows row rowMem, ofVersion,
        holds⟩⟩
    · exact ⟨last, lastFound, Or.inr ⟨later.trans further, row, second.rows row rowMem, ofVersion,
        holds⟩⟩

theorem history_keep (sameId : rule.id = id) (changedBy : Uuid) :
    (db.keep rule changedBy).history id = db.history id ++ [rule.snapshot changedBy] := by
  have own : [rule.snapshot changedBy].filter (fun row => row.ruleId == id) =
      [rule.snapshot changedBy] := by
    apply List.filter_eq_self.mpr
    intro row rowMem
    rw [List.mem_singleton.mp rowMem]
    exact beq_iff_eq.mpr sameId
  rw [RulesDb.history, RulesDb.keep, List.filter_append, own]
  rfl

theorem history_keepAndSave (sameId : rule.id = id) (changedBy : Uuid) (isSaved : Bool) :
    (db.keepAndSave host now rule saved changedBy isSaved).history id =
      db.history id ++ [rule.snapshot changedBy] := by
  rw [← history_keep sameId]
  cases isSaved <;> rfl

/-- A rule that has been kept and saved has the next version, and its history the last one. -/
theorem numbered_saved (host : Host) (now : Nat) (numbered : db.Numbered id) (found : db.rule? id = some rule)
    (savedId : saved.id = rule.id) (nextVersion : saved.version = rule.version + 1)
    (changedBy : Uuid) :
    (db.keepAndSave host now rule saved changedBy true).Numbered id ∧
      (db.keepAndSave host now rule saved changedBy true).rule? id =
        some (host.row saved now) := by
  obtain ⟨other, otherFound, positive, distinct, numbers⟩ := numbered
  obtain rfl := Option.some.inj (found.symm.trans otherFound)
  have sameId : rule.id = id := Table.key_of_get? found
  have savedFound : (db.keepAndSave host now rule saved changedBy true).rule? id =
      some (host.row saved now) := by
    have own : (host.row saved now).id = id := savedId.trans sameId
    rw [RulesDb.keepAndSave, if_pos rfl, RulesDb.rule?, Table.get?_save, if_pos own]
  refine ⟨⟨_, savedFound, ?_, ?_, ?_⟩, savedFound⟩
  · change 1 ≤ saved.version
    omega
  · rw [history_keepAndSave sameId, List.map_append, List.nodup_append]
    refine ⟨distinct, List.nodup_singleton _, ?_⟩
    intro version versionMem last lastMem same
    obtain rfl := List.mem_singleton.mp lastMem
    have before := ((numbers version).mp versionMem).2
    rw [same] at before
    exact absurd before (lt_irrefl _)
  · intro version
    rw [history_keepAndSave sameId, List.map_append, List.mem_append, numbers]
    change _ ∨ version ∈ [rule.version] ↔ 1 ≤ version ∧ version < saved.version
    rw [List.mem_singleton, nextVersion]
    omega

/-- A rule that has been kept but not saved has a row for its own version. -/
theorem not_numbered_unsaved (found : db.rule? id = some rule) (changedBy : Uuid) :
    ¬ (db.keepAndSave host now rule saved changedBy false).Numbered id := by
  rintro ⟨other, otherFound, _, _, numbers⟩
  have sameId : rule.id = id := Table.key_of_get? found
  obtain rfl := Option.some.inj (found.symm.trans otherFound)
  have own : rule.version ∈ ((db.keepAndSave host now rule saved changedBy false).history id).map
      RuleVersion.version := by
    rw [history_keepAndSave sameId, List.map_append]
    exact List.mem_append_right _ (List.mem_singleton.mpr rfl)
  exact absurd ((numbers _).mp own).2 (lt_irrefl _)

/-! ## One call -/

variable {call : ChangeCall}

theorem keepsComplete_iff
    (planned : call.change.planned host state.db id call.caller = some (rule, saved))
    (allows : Allows call.left (2 + saved.comparisons)) :
    KeepsComplete host id state call ↔
      Saves call.left saved ∧ (host.row saved call.now).content ≠ rule.content := by
  rw [KeepsComplete, planned]
  constructor
  · exact fun keeps => keeps _ rfl allows
  · rintro holds _ ⟨⟩ _
    exact holds

/-- A call that adds a row changes the rule. -/
theorem addsNothing_saved_iff (found : db.rule? id = some rule) (changedBy : Uuid)
    (savedFound : (db.keepAndSave host now rule saved changedBy true).rule? id =
      some (host.row saved now)) :
    AddsNothing id db (db.keepAndSave host now rule saved changedBy true) ↔
      (host.row saved now).content ≠ rule.content := by
  rw [AddsNothing, savedFound, found, history_keepAndSave (Table.key_of_get? found),
    Option.map_some, Option.map_some, Option.some.injEq]
  constructor
  · intro nothing same
    exact List.cons_ne_nil _ _ (List.append_right_eq_self.mp (nothing same))
  · exact fun differs same => absurd same differs

/-- A call leaves a complete history and adds no row for nothing, just when it saves what it has
kept, and changes the rule. -/
theorem step_complete_iff (numbered : state.db.Numbered id)
    (stepEq : historySystem host id state call = some next) :
    KeepsComplete host id state call ↔
      next.db.Numbered id ∧ AddsNothing id state.db next.db := by
  cases stepEq
  rcases change_db host call.now id call.caller call.change state call.left with
    ⟨rule, saved, planned, allows, dbEq⟩ | ⟨stops, dbEq⟩
  · obtain ⟨_, found, _, nextEq, _⟩ := planned_eq_some_iff.mp planned
    obtain ⟨savedId, nextVersion⟩ := next_ok nextEq
    rw [dbEq, keepsComplete_iff planned allows]
    by_cases isSaved : Saves call.left saved
    · obtain ⟨nextNumbered, savedFound⟩ := numbered_saved host call.now numbered
        found savedId nextVersion call.caller.id
      rw [decide_eq_true isSaved, addsNothing_saved_iff found _ savedFound]
      exact ⟨fun holds => ⟨nextNumbered, holds.2⟩, fun holds => ⟨isSaved, holds.2⟩⟩
    · rw [decide_eq_false isSaved]
      exact iff_of_false (fun holds => isSaved holds.1)
        (fun holds => not_numbered_unsaved found _ holds.1)
  · rw [dbEq]
    refine iff_of_true ?_ ⟨numbered, fun _ => rfl⟩
    intro planned plannedEq allows
    exact absurd allows (stops planned.1 planned.2 plannedEq)

/-- What the rule was is kept by a call that saves what it has kept. -/
theorem step_kept (numbered : state.db.Numbered id) (keeps : KeepsComplete host id state call)
    (stepEq : historySystem host id state call = some next) : Kept id state.db next.db := by
  cases stepEq
  rcases change_db host call.now id call.caller call.change state call.left with
    ⟨rule, saved, planned, allows, dbEq⟩ | ⟨_, dbEq⟩
  · obtain ⟨_, found, _, nextEq, _⟩ := planned_eq_some_iff.mp planned
    obtain ⟨savedId, nextVersion⟩ := next_ok nextEq
    have isSaved := ((keepsComplete_iff planned allows).mp keeps).1
    obtain ⟨_, savedFound⟩ := numbered_saved host call.now numbered
        found savedId nextVersion call.caller.id
    have sameId : rule.id = id := Table.key_of_get? found
    rw [dbEq, decide_eq_true isSaved]
    constructor
    · intro row rowMem
      rw [history_keepAndSave sameId]
      exact List.mem_append_left _ rowMem
    · intro other otherFound
      obtain rfl := Option.some.inj (found.symm.trans otherFound)
      refine ⟨_, savedFound, Or.inr ⟨?_, rule.snapshot call.caller.id, ?_, rfl, rfl⟩⟩
      · change rule.version < saved.version
        omega
      · rw [history_keepAndSave sameId]
        exact List.mem_append_right _ (List.mem_singleton.mpr rfl)
  · rw [dbEq]
    exact kept_refl id state.db

/-! ## Runs -/

/-- A rule that `create` has made has version one, and no row. -/
theorem create_numbered (host : Host) (dto : CreateRuleDto) (maker : RequestUser) (madeAt : Nat)
    (left : Option Nat) (isNew : state.db.rule? id = none) (noRows : ∀ row ∈ state.db.ruleVersions, row.ruleId ≠ id) :
    Leaves (fun made => made.db.rule? id ≠ none → made.db.Numbered id)
      (create host dto maker id madeAt) ⟨state, left⟩ := by
  have before : state.db.rule? id ≠ none → state.db.Numbered id := fun isOld => absurd isNew isOld
  apply Leaves.afterQuiet (quiet_assertRuleManager maker) before
  intro _ first _ firstEq
  apply Leaves.afterQuiet (quiet_assertScopeConsistency _ _ _ _) (firstEq ▸ before)
  intro _ second _ secondEq
  apply Leaves.afterQuiet (quiet_ensureNoConflict _ _ _ _) (secondEq ▸ firstEq ▸ before)
  intro _ third _ thirdEq
  have same : third.state = state := thirdEq.trans (secondEq.trans firstEq)
  rcases queryEq : query (insertRules host madeAt [dto.rule maker id 1 true]) third with
    ⟨thrown | done, made⟩
  · rw [Leaves, bind_eq_error_iff.mpr (Or.inl queryEq),
      query_throws (atomic_insertRules_singleton _ _ _) queryEq, same]
    exact before
  · obtain ⟨target, insertEq, madeEq⟩ := query_ok queryEq
    obtain ⟨_, restEq⟩ := insertRules_cons_ok insertEq
    obtain ⟨_, rfl⟩ := pure_eq_ok_iff.mp restEq
    intro _
    have leftDb : ((query (insertRules host madeAt [dto.rule maker id 1 true]) >>= fun _ =>
        finishRule maker.orgId) third).2.state.db = made.state.db := by
      rw [bind_of_ok queryEq]
      exact finishNext_db maker.orgId true made
    rw [leftDb, madeEq]
    have noHistory : third.state.db.history id = [] := by
      apply List.filter_eq_nil_iff.mpr
      intro row rowMem
      rw [same] at rowMem
      simpa using noRows row rowMem
    refine ⟨host.row (dto.rule maker id 1 true) madeAt, ?_, le_refl _, ?_, ?_⟩
    · rw [RulesDb.rule?, Table.get?_save]
      exact if_pos rfl
    · change ((third.state.db.history id).map RuleVersion.version).Nodup
      rw [noHistory]
      exact List.nodup_nil
    · intro version
      change version ∈ (third.state.db.history id).map RuleVersion.version ↔
        1 ≤ version ∧ version < 1
      rw [noHistory]
      exact iff_of_false List.not_mem_nil (by omega)

theorem historyComplete_of_meets {start : RulesState} {calls : List ChangeCall}
    (numbered : start.db.Numbered id)
    (met : (historySystem host id).Meets (KeepsComplete host id) start calls) :
    HistoryComplete host id start calls := by
  have preserved : ∀ state call next, state.db.Numbered id → KeepsComplete host id state call →
      historySystem host id state call = some next → next.db.Numbered id :=
    fun _ _ _ holds keeps stepEq => ((step_complete_iff holds stepEq).mp keeps).1
  constructor
  · intro before between after middle target split middleEq targetEq
    subst split
    obtain ⟨metBefore, metAfter⟩ := Step.meets_append.mp met
    have metBetween := (Step.meets_append.mp (metAfter middle middleEq)).1
    have middleNumbered := Step.invariant_of_meets preserved numbered metBefore middleEq
    refine ⟨Step.invariant_of_meets preserved middleNumbered metBetween targetEq, ?_⟩
    have related : ∀ state call next, state.db.Numbered id → KeepsComplete host id state call →
        historySystem host id state call = some next →
          next.db.Numbered id ∧ Kept id state.db next.db :=
      fun state call next holds keeps stepEq =>
        ⟨preserved state call next holds keeps stepEq, step_kept holds keeps stepEq⟩
    apply Step.related_of_meets ?_ ?_ related middleNumbered metBetween targetEq
    · exact fun state => kept_refl id state.db
    · exact fun _ _ _ => Kept.trans
  · apply Step.meets_of_meets preserved ?_ numbered met
    intro state call holds keeps next stepEq
    exact ((step_complete_iff holds stepEq).mp keeps).2

/-- **The history of a rule is complete** along every run of calls of a rule that `create` has
made, just when every call that keeps the rule saves it, and changes it. -/
theorem history_complete_iff {before start : RulesState} {dto : CreateRuleDto}
    {maker : RequestUser} {madeAt : Nat} {calls : List ChangeCall}
    (isNew : before.db.rule? id = none) (noRows : ∀ row ∈ before.db.ruleVersions, row.ruleId ≠ id)
    (made : (create host dto maker id madeAt ⟨before, left⟩).2.state = start)
    (isMade : start.db.rule? id ≠ none) :
    HistoryComplete host id start calls ↔
      (historySystem host id).Meets (KeepsComplete host id) start calls := by
  have numbered : start.db.Numbered id := by
    have leaves := create_numbered host dto maker madeAt left isNew noRows
    rw [Leaves, made] at leaves
    exact leaves isMade
  constructor
  · intro complete
    have good : (historySystem host id).Meets (fun state call => ∀ next,
        historySystem host id state call = some next →
          next.db.Numbered id ∧ AddsNothing id state.db next.db) start calls := by
      apply Step.meets_iff_forall.mpr
      intro earlier call after split state runEq next stepEq
      refine ⟨?_, Step.meets_iff_forall.mp complete.quiet earlier call after split state runEq next
        stepEq⟩
      apply (complete.complete earlier [call] after state next split runEq ?_).1
      rw [Step.run_cons, stepEq]
      rfl
    have implied : ∀ state call, state.db.Numbered id → (∀ next,
        historySystem host id state call = some next →
          next.db.Numbered id ∧ AddsNothing id state.db next.db) →
        KeepsComplete host id state call :=
      fun _ _ holds steps => (step_complete_iff holds rfl).mpr (steps _ rfl)
    exact Step.meets_of_meets (fun _ _ next _ steps stepEq => (steps next stepEq).1) implied
      numbered good
  · exact historyComplete_of_meets numbered

/-! ## Examples -/

instance (state : RulesState) (call : ChangeCall) : Decidable (KeepsComplete host id state call) :=
  inferInstanceAs (Decidable (∀ planned ∈ call.change.planned host state.db id call.caller,
    Allows call.left (2 + planned.2.comparisons) →
      Saves call.left planned.2 ∧ (host.row planned.2 call.now).content ≠ planned.1.content))

/-- The state with one rule, which has just been made. -/
def exampleMade : RulesState :=
  (create exampleHost (exampleRule none "Keep the names.") exampleManager (uuid "1") 0
    ⟨exampleState, none⟩).2.state

/-- A rule is given another priority, deactivated while the audit log fails, activated by a call
whose check fails, and activated. -/
def exampleChanges : List ChangeCall :=
  [⟨.update ⟨none, none, some 5, none⟩, exampleManager, 1, none⟩,
    ⟨.deactivate, exampleManager, 2, some 3⟩, ⟨.activate, exampleManager, 3, some 1⟩,
    ⟨.activate, exampleManager, 4, none⟩]

theorem history_complete_iff_example :
    HistoryComplete exampleHost (uuid "1") exampleMade exampleChanges := by
  have met : (historySystem exampleHost (uuid "1")).Meets
      (KeepsComplete exampleHost (uuid "1")) exampleMade exampleChanges := by
    decide +kernel
  have isMade : exampleMade.db.rule? (uuid "1") ≠ none := by decide +kernel
  have noRows : ∀ row ∈ exampleState.db.ruleVersions, row.ruleId ≠ uuid "1" :=
    fun _ rowMem => (by cases rowMem)
  exact (history_complete_iff rfl noRows rfl isMade).mpr met

/-- The save of a deactivated rule fails, and the client retries. -/
def exampleRetried : List ChangeCall :=
  [⟨.deactivate, exampleManager, 1, some 2⟩, ⟨.deactivate, exampleManager, 2, none⟩]

/-- **The first version has two rows.** -/
theorem first_version_twice :
    (((historySystem exampleHost (uuid "1")).run exampleMade exampleRetried).map fun target =>
      (target.db.history (uuid "1")).map RuleVersion.version) = some [1, 1] ∧
    ¬ HistoryComplete exampleHost (uuid "1") exampleMade exampleRetried := by
  have twice : (((historySystem exampleHost (uuid "1")).run exampleMade exampleRetried).map
      fun target => (target.db.history (uuid "1")).map RuleVersion.version) = some [1, 1] := by
    decide +kernel
  refine ⟨twice, fun complete => ?_⟩
  obtain ⟨target, runEq, versionsEq⟩ := Option.map_eq_some_iff.mp twice
  have numbered := (complete.complete [] exampleRetried [] exampleMade target rfl rfl runEq).1
  obtain ⟨_, _, _, distinct, _⟩ := numbered
  rw [versionsEq] at distinct
  exact absurd distinct (by decide)

end Manbaa.Rules
