import Manbaa.AiGateway.Entities
import Manbaa.Rules.Checks

/-!
# The rules of a session

The active rules of an organization that hold for a session: those of its workflow or of none,
whose condition the session and the workflow meet.  They are taken from the remembered ones, if
these have not expired.
-/

namespace Manbaa.AiGateway

/-- The text of a mode. -/
def SessionMode.text : SessionMode → String
  | .auto => "auto"
  | .interactive => "interactive"

/-- The text of a status. -/
def WorkflowStatus.text : WorkflowStatus → String
  | .draft => "draft"
  | .inElicitation => "in_elicitation"
  | .pendingReview => "pending_review"
  | .validated => "validated"
  | .exported => "exported"
  | .archived => "archived"

end Manbaa.AiGateway

namespace Manbaa.Rules

open Manbaa.Lib Manbaa.Lib.Effect

/-! ## The context of a session -/

/-- The rows of sessions and of workflows. -/
structure SessionTables where
  sessions : List AiGateway.Session
  workflows : List AiGateway.Workflow

/-- `buildSessionContext`. -/
def buildSessionContext (session : AiGateway.Session) (workflow : AiGateway.Workflow) :
    Json.Fields :=
  [("org_id", .str workflow.orgId.text),
    ("workflow_id", .str workflow.id.text),
    ("session_id", .str session.id.text),
    ("session_mode", .str session.mode.text),
    ("session_status", .str session.status.text),
    ("workflow_status", .str workflow.status.text),
    ("workflow_domain", workflow.domain.elim .null .str),
    ("workflow_tags", .arr (workflow.tags.map .str)),
    ("user_id", .str session.userId.text)]

/-- What a context has under a key.  Its prototype is an object without properties of its own; what
else it inherits are functions, which no value of a condition is the same as. -/
def contextValue (context : Json.Fields) (key : String) : Option Json :=
  if key = "__proto__" then some (.obj []) else context.lookup key

/-- `Array.prototype.includes`: arrays and objects of different values are different ones. -/
def includes (items : List Json) (value : Json) : Bool :=
  match value with
  | .arr _ | .obj _ => false
  | _ => items.contains value

/-- What the context has under a key meets what a condition expects of it. -/
def matchesExpected (host : Host) (actual : Option Json) (expected : Json) : Bool :=
  match actual with
  | none => false
  | some actual =>
      match expected, actual with
      | .arr expected, .arr actual => expected.any (includes actual)
      | .arr expected, _ => includes expected actual
      | _, .arr actual => includes actual expected
      | _, _ => deepEqual host actual expected

/-- `matchesRuleCondition`. -/
def matchesRuleCondition (host : Host) (condition : Condition) (context : Json.Fields) : Bool :=
  condition.all fun fields =>
    fields.all fun field => matchesExpected host (contextValue context field.1) field.2

/-- `matchesSessionScope`. -/
def matchesSessionScope (rule : Rule) (workflowId : Uuid) : Bool :=
  if rule.scope = .workflow then rule.workflowId == some workflowId
  else rule.workflowId.all (· == workflowId)

/-! ## Reading the rules of a session -/

/-- The rules that hold for a session, in their order. -/
def selectRules (host : Host) (session : AiGateway.Session) (workflow : AiGateway.Workflow)
    (rules : List Rule) : List Rule :=
  let context := buildSessionContext session workflow
  ((rules.filter fun rule => matchesSessionScope rule session.workflowId).filter fun rule =>
    matchesRuleCondition host rule.condition context).insertionSort Rule.Before

/-- The session that a read names. -/
def findSession (tables : SessionTables) (sessionId : Uuid) : Calls AiGateway.Session := do
  let session ← query (reading fun _ => tables.sessions.find? fun session =>
    session.id == sessionId)
  orThrow session (.notFound "Session not found")

/-- The workflow of a session, in the organization. -/
def findWorkflow (tables : SessionTables) (session : AiGateway.Session) (orgId : Uuid) :
    Calls AiGateway.Workflow := do
  let workflow ← query (reading fun _ => tables.workflows.find? fun workflow =>
    workflow.id == session.workflowId && workflow.orgId == orgId)
  orThrow workflow (.notFound "Session not found")

/-- What `getSessionContextRules` returns. -/
structure SessionRules where
  session : AiGateway.Session
  workflow : AiGateway.Workflow
  rules : List Rule
  deriving DecidableEq

/-- `getSessionContextRules`. -/
def getSessionContextRules (host : Host) (tables : SessionTables) (sessionId orgId : Uuid)
    (now : Nat) : Calls SessionRules := do
  let session ← findSession tables sessionId
  let workflow ← findWorkflow tables session orgId
  let rules ← getCachedActiveRules orgId now
  pure ⟨session, workflow, selectRules host session workflow rules⟩

/-- What a read returns, given the active rules of the organization. -/
def expectedRules (host : Host) (tables : SessionTables) (sessionId orgId : Uuid)
    (activeRules : List Rule) : Except Exception SessionRules := do
  let session ← (tables.sessions.find? fun session => session.id == sessionId).elim
    (.error (.notFound "Session not found")) .ok
  let workflow ← (tables.workflows.find? fun workflow => workflow.id == session.workflowId &&
    workflow.orgId == orgId).elim (.error (.notFound "Session not found")) .ok
  pure ⟨session, workflow, selectRules host session workflow activeRules⟩

/-! ## What holds for a session -/

/-- The rule holds for a session of the organization. -/
def HoldsFor (host : Host) (orgId : Uuid) (session : AiGateway.Session)
    (workflow : AiGateway.Workflow) (rule : Rule) : Prop :=
  rule.orgId = orgId ∧ rule.isActive = true ∧
    matchesSessionScope rule session.workflowId = true ∧
    matchesRuleCondition host rule.condition (buildSessionContext session workflow) = true

instance (host : Host) (orgId : Uuid) (session : AiGateway.Session)
    (workflow : AiGateway.Workflow) (rule : Rule) :
    Decidable (HoldsFor host orgId session workflow rule) :=
  inferInstanceAs (Decidable (_ ∧ _ ∧ _ ∧ _))

/-- What is read is the session, its workflow, and the rules of the database that hold for it, in
their order. -/
structure Reads (host : Host) (db : RulesDb) (tables : SessionTables) (sessionId orgId : Uuid)
    (read : SessionRules) : Prop where
  session : tables.sessions.find? (fun session => session.id == sessionId) = some read.session
  workflow : tables.workflows.find? (fun workflow => workflow.id == read.session.workflowId &&
    workflow.orgId == orgId) = some read.workflow
  rules : read.rules.Perm (db.rules.filter fun rule =>
    decide (HoldsFor host orgId read.session read.workflow rule))
  sorted : read.rules.Pairwise Rule.Before

variable {host : Host} {tables : SessionTables} {sessionId orgId : Uuid} {now : Nat}
  {session : AiGateway.Session} {workflow : AiGateway.Workflow} {db : RulesDb}
  {world reached : Faulty RulesState}

instance : Std.Total Rule.Before where
  total first second := by
    rw [Rule.Before, Rule.Before]
    omega

instance : IsTrans Rule Rule.Before where
  trans first second third := by
    intro firstBefore secondBefore
    rw [Rule.Before] at *
    omega

/-- The rules that hold for a session are selected from the active ones. -/
theorem selectRules_perm : (selectRules host session workflow (db.activeRules orgId)).Perm
    (db.rules.filter fun rule => decide (HoldsFor host orgId session workflow rule)) := by
  rw [selectRules, List.filter_filter]
  refine (List.perm_insertionSort _ _).trans ?_
  refine ((List.perm_insertionSort _ _).filter _).trans ?_
  rw [List.filter_filter]
  apply List.Perm.of_eq
  apply List.filter_congr
  intro rule _
  rw [Bool.eq_iff_iff, decide_eq_true_iff, HoldsFor]
  simp only [Bool.and_eq_true, beq_iff_eq]
  tauto

theorem selectRules_sorted (rules : List Rule) :
    (selectRules host session workflow rules).Pairwise Rule.Before :=
  List.pairwise_insertionSort Rule.Before _

theorem quiet_findSession (tables : SessionTables) (sessionId : Uuid) :
    Quiet (findSession tables sessionId) :=
  (quiet_reading _).bind fun _ => quiet_of_readOnly readOnly_orThrow

theorem quiet_findWorkflow (tables : SessionTables) (session : AiGateway.Session) (orgId : Uuid) :
    Quiet (findWorkflow tables session orgId) :=
  (quiet_reading _).bind fun _ => quiet_of_readOnly readOnly_orThrow

theorem findSession_ok (findEq : findSession tables sessionId world = (.ok session, reached)) :
    tables.sessions.find? (fun session => session.id == sessionId) = some session := by
  obtain ⟨found, middle, queryEq, orEq⟩ := bind_eq_ok_iff.mp findEq
  obtain ⟨foundEq, _⟩ := reading_ok queryEq
  exact foundEq.trans (orThrow_eq_ok_iff.mp orEq).1

theorem findWorkflow_ok
    (findEq : findWorkflow tables session orgId world = (.ok workflow, reached)) :
    tables.workflows.find? (fun workflow => workflow.id == session.workflowId &&
      workflow.orgId == orgId) = some workflow := by
  obtain ⟨found, middle, queryEq, orEq⟩ := bind_eq_ok_iff.mp findEq
  obtain ⟨foundEq, _⟩ := reading_ok queryEq
  exact foundEq.trans (orThrow_eq_ok_iff.mp orEq).1

/-- Without a failing call the active rules are there. -/
theorem getCachedActiveRules_calm (orgId : Uuid) (now : Nat) (state : RulesState) :
    (getCachedActiveRules orgId now ⟨state, none⟩).1 =
      .ok ((state.cached? orgId now).getD (state.db.activeRules orgId)) := by
  have readEq : locally (reading fun state : RulesState => state.cached? orgId now)
      ⟨state, none⟩ = ((.ok (state.cached? orgId now) : Except Exception _), ⟨state, none⟩) := rfl
  rw [getCachedActiveRules, bind_of_ok readEq]
  cases state.cached? orgId now <;> rfl

/-- Without a failing call a read returns what the active rules give. -/
theorem getSessionContextRules_calm (state : RulesState) :
    (getSessionContextRules host tables sessionId orgId now ⟨state, none⟩).1 =
      expectedRules host tables sessionId orgId
        ((state.cached? orgId now).getD (state.db.activeRules orgId)) := by
  rw [getSessionContextRules, expectedRules]
  cases sessionFound : tables.sessions.find? fun session => session.id == sessionId with
  | none =>
      have findEq : findSession tables sessionId ⟨state, none⟩ =
          (.error (.notFound "Session not found"), ⟨state, none⟩) := by
        rw [findSession, sessionFound]
        rfl
      rw [bind_eq_error_iff.mpr (Or.inl findEq)]
      rfl
  | some session =>
      have findEq : findSession tables sessionId ⟨state, none⟩ =
          (.ok session, ⟨state, none⟩) := by
        rw [findSession, sessionFound]
        rfl
      rw [bind_of_ok findEq, Option.elim_some, ok_bind]
      cases workflowFound : tables.workflows.find? fun workflow =>
          workflow.id == session.workflowId && workflow.orgId == orgId with
      | none =>
          have findEq : findWorkflow tables session orgId ⟨state, none⟩ =
              (.error (.notFound "Session not found"), ⟨state, none⟩) := by
            rw [findWorkflow, workflowFound]
            rfl
          rw [bind_eq_error_iff.mpr (Or.inl findEq)]
          rfl
      | some workflow =>
          have findEq : findWorkflow tables session orgId ⟨state, none⟩ =
              (.ok workflow, ⟨state, none⟩) := by
            rw [findWorkflow, workflowFound]
            rfl
          rw [bind_of_ok findEq, Option.elim_some, ok_bind]
          rcases cachedEq : getCachedActiveRules orgId now ⟨state, none⟩ with ⟨result, after⟩
          have resultEq := getCachedActiveRules_calm orgId now state
          rw [cachedEq] at resultEq
          obtain rfl : result = _ := resultEq
          rw [bind_of_ok cachedEq]
          rfl

end Manbaa.Rules
