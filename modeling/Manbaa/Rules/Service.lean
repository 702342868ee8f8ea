import Manbaa.Lib.Outage
import Manbaa.Rules.Entities

/-!
# The rules service

The methods that write rules.  A rule that is created, changed or activated is
compared with the active rules beside it, an imported one with all active rules of
the organization, which the process remembers for a minute, and with the rules of
the bundle that come before it.  What a rule was is kept before it changes; the two
writes are calls of their own.
-/

namespace Manbaa.Rules

open Manbaa.Lib Manbaa.Lib.Effect

/-! ## The process -/

/-- Active rules that are remembered until they expire. -/
structure CachedRules where
  expiresAt : Nat
  rules : List Rule

/-- The database and the remembered rules of organizations. -/
structure RulesState where
  db : RulesDb
  activeRuleCache : List (Uuid × CachedRules)

/-- A computation of the process that calls other systems. -/
abbrev Calls := Effect (Faulty RulesState) Exception

/-- What a failing call throws. -/
def outage : Exception := .error "The call failed"

/-- A call of the database. -/
def query {α : Type} (body : Statements α) : Calls α :=
  calling outage (zoom RulesState.db (fun db state => { state with db := db }) body)

/-- A call of the audit log or of the gateway of the clients, of whose state nothing is
modelled. -/
def external : Calls Unit := calling outage (pure ())

/-! ## Requests -/

/-- `CreateRuleDto`. -/
structure CreateRuleDto where
  name : String
  description : Option String
  type : RuleType
  scope : RuleScope
  workflowId : Option Uuid
  targetAgent : Option AgentType
  condition : Condition
  instruction : String
  priority : Option Int
  deriving DecidableEq

/-- `UpdateRuleDto`.  An instruction or a condition may be absent or null. -/
structure UpdateRuleDto where
  instruction : Option (Option String)
  condition : Option Condition
  priority : Option Int
  isActive : Option Bool
  deriving DecidableEq

/-- `RuleBundleRuleDto`: the fields of a new rule, and its version and whether it is
active. -/
structure RuleBundleRuleDto where
  rule : CreateRuleDto
  version : Option Int
  isActive : Option Bool
  deriving DecidableEq

/-- A rule of a bundle, with the identifier that the database generates for it. -/
structure BundleItem where
  dto : RuleBundleRuleDto
  id : Uuid
  deriving DecidableEq

/-! ## Checks -/

/-- `assertRuleManager`. -/
def assertRuleManager (caller : RequestUser) : Calls Unit := do
  require (caller.orgId.text != "") (.forbidden "Organization scope is required")
  require ([UserRole.admin.text, UserRole.businessAnalyst.text].contains caller.role)
    (.forbidden "Admin or Business Analyst role is required")

/-- `assertScopeConsistency`. -/
def assertScopeConsistency (scope : RuleScope) (workflowId : Option Uuid)
    (targetAgent : Option AgentType) (orgId : Uuid) : Calls Unit := do
  require (!(scope == .workflow && workflowId.isNone))
    (.badRequest "workflow_id is required for WORKFLOW scoped rules")
  require (!(scope == .org && workflowId.isSome))
    (.badRequest "workflow_id must be omitted for ORG scoped rules")
  require (!(scope == .agent && targetAgent.isNone))
    (.badRequest "target_agent is required for AGENT scoped rules")
  match workflowId with
  | none => pure ()
  | some id => do
      let workflow ← query (reading fun db => db.workflows.find? fun workflow =>
        workflow.id == id && workflow.orgId == orgId)
      let _ ← orThrow workflow (.notFound "Workflow not found")

/-- `findRuleOrThrow`. -/
def findRuleOrThrow (id orgId : Uuid) : Calls Rule := do
  let rule ← query (reading fun db => (db.rule? id).filter fun rule => rule.orgId == orgId)
  orThrow rule (.notFound "Rule not found")

/-- The rules that a candidate is compared with. -/
def findCandidates (candidate : Rule) (rulePool : Option (List Rule)) : Calls (List Rule) :=
  match rulePool with
  | some rules => pure rules
  | none => query (reading fun db => db.besides candidate)

/-- `ensureNoConflict`. -/
def ensureNoConflict (host : Host) (candidate : Rule) (excludeRuleId : Option Uuid)
    (rulePool : Option (List Rule)) : Calls Unit :=
  if !candidate.isActive || !contradictableRuleTypes.contains candidate.ruleType then pure ()
  else do
    let candidates ← findCandidates candidate rulePool
    let conflictingRule := candidates.find? fun existingRule =>
      excludeRuleId != some existingRule.id && conflicts host candidate existingRule
    match conflictingRule with
    | none => pure ()
    | some conflictingRule => do
        external
        throwing (.ruleConflict conflictingRule.id conflictingRule.name
          (buildConflictDetail host candidate conflictingRule))

/-! ## The remembered rules -/

/-- How long rules are remembered, in milliseconds. -/
def activeRuleCacheTtlMs : Nat := 60000

/-- The remembered rules of an organization that have not expired. -/
def RulesState.cached? (state : RulesState) (orgId : Uuid) (now : Nat) : Option (List Rule) :=
  ((state.activeRuleCache.lookup orgId).filter fun cached => now < cached.expiresAt).map
    CachedRules.rules

/-- Remember the rules of an organization. -/
def RulesState.remember (state : RulesState) (orgId : Uuid) (cached : CachedRules) : RulesState :=
  { state with activeRuleCache :=
      (orgId, cached) :: state.activeRuleCache.filter fun entry => entry.1 != orgId }

/-- Forget the rules of an organization. -/
def RulesState.forget (state : RulesState) (orgId : Uuid) : RulesState :=
  { state with activeRuleCache := state.activeRuleCache.filter fun entry => entry.1 != orgId }

/-- `getCachedActiveRules`. -/
def getCachedActiveRules (orgId : Uuid) (now : Nat) : Calls (List Rule) := do
  let cached ← locally (reading fun state => state.cached? orgId now)
  match cached with
  | some rules => pure rules
  | none => do
      let rules ← query (reading fun db => db.activeRules orgId)
      locally (writing fun state => state.remember orgId ⟨now + activeRuleCacheTtlMs, rules⟩)
      pure rules

/-- `invalidateOrgRuleCache`. -/
def invalidateOrgRuleCache (orgId : Uuid) : Calls Unit :=
  locally (writing fun state => state.forget orgId)

/-! ## Writing one rule -/

/-- A rule that is made of a body. -/
def CreateRuleDto.rule (dto : CreateRuleDto) (caller : RequestUser) (id : Uuid) (version : Int)
    (isActive : Bool) : Rule :=
  { id := id
    orgId := caller.orgId
    workflowId := dto.workflowId
    name := trim dto.name
    description := dto.description.map trim
    ruleType := dto.type
    scope := dto.scope
    targetAgent := dto.targetAgent
    condition := dto.condition
    instruction := trim dto.instruction
    priority := dto.priority.getD 100
    version := version
    isActive := isActive
    createdBy := caller.id
    updatedAt := 0 }

/-- What follows the save of a rule: the audit row, and the remembered rules are
forgotten. -/
def finishRule (orgId : Uuid) : Calls Unit := do
  external
  invalidateOrgRuleCache orgId

/-- `create`, with the identifier that the database generates, at a time. -/
def create (host : Host) (dto : CreateRuleDto) (caller : RequestUser) (id : Uuid) (now : Nat) :
    Calls Unit := do
  assertRuleManager caller
  assertScopeConsistency dto.scope dto.workflowId dto.targetAgent caller.orgId
  let candidate := dto.rule caller id 1 true
  ensureNoConflict host candidate none none
  query (insertRules host now [candidate])
  finishRule caller.orgId

/-- What a rule was, as it is kept. -/
def Rule.snapshot (rule : Rule) (changedBy : Uuid) : RuleVersion :=
  { ruleId := rule.id
    version := rule.version
    instruction := rule.instruction
    condition := rule.condition
    priority := rule.priority
    isActive := rule.isActive
    changedBy := changedBy }

/-- `snapshotRuleVersion`. -/
def snapshotRuleVersion (rule : Rule) (changedBy : Uuid) : Calls Unit :=
  query (insertRuleVersion (rule.snapshot changedBy))

/-- The next instruction of an update; a null has no `trim`. -/
def nextInstruction (rule : Rule) (dto : UpdateRuleDto) : Except Exception String :=
  match dto.instruction with
  | none => .ok rule.instruction
  | some (some text) => .ok (trim text)
  | some none => .error (.error "Cannot read properties of null (reading 'trim')")

/-- A rule with the fields of an update. -/
def Rule.edit (rule : Rule) (dto : UpdateRuleDto) (instruction : String) : Rule :=
  { rule with
    instruction := instruction
    condition := dto.condition.getD rule.condition
    priority := dto.priority.getD rule.priority
    isActive := dto.isActive.getD rule.isActive }

/-- An update changes a rule: `hasChanges`, and `requiresVersionSnapshot` as well. -/
def hasChanges (host : Host) (rule nextRule : Rule) : Bool :=
  nextRule.instruction != rule.instruction ||
    !deepEqual host (conditionJson nextRule.condition) (conditionJson rule.condition) ||
    nextRule.priority != rule.priority || nextRule.isActive != rule.isActive

/-- `update`. -/
def update (host : Host) (id : Uuid) (dto : UpdateRuleDto) (caller : RequestUser) (now : Nat) :
    Calls Unit := do
  assertRuleManager caller
  let rule ← findRuleOrThrow id caller.orgId
  let instruction ← asking fun _ => nextInstruction rule dto
  let nextRule := rule.edit dto instruction
  if !hasChanges host rule nextRule then pure ()
  else do
    if nextRule.isActive then ensureNoConflict host nextRule (some rule.id) none else pure ()
    snapshotRuleVersion rule caller.id
    query (saveRule host { nextRule with version := rule.version + 1 } now)
    finishRule caller.orgId

/-- A rule that is activated or deactivated. -/
def Rule.switch (rule : Rule) (isActive : Bool) : Rule :=
  { rule with isActive := isActive, version := rule.version + 1 }

/-- `activate`. -/
def activate (host : Host) (id : Uuid) (caller : RequestUser) (now : Nat) : Calls Unit := do
  assertRuleManager caller
  let rule ← findRuleOrThrow id caller.orgId
  if rule.isActive then pure ()
  else do
    ensureNoConflict host { rule with isActive := true } (some rule.id) none
    snapshotRuleVersion rule caller.id
    query (saveRule host (rule.switch true) now)
    finishRule caller.orgId

/-- `deactivate`. -/
def deactivate (host : Host) (id : Uuid) (caller : RequestUser) (now : Nat) : Calls Unit := do
  assertRuleManager caller
  let rule ← findRuleOrThrow id caller.orgId
  if !rule.isActive then pure ()
  else do
    snapshotRuleVersion rule caller.id
    query (saveRule host (rule.switch false) now)
    finishRule caller.orgId

/-- `softDelete`. -/
def softDelete (host : Host) (id : Uuid) (caller : RequestUser) (now : Nat) : Calls Unit := do
  assertRuleManager caller
  let rule ← findRuleOrThrow id caller.orgId
  if rule.isActive then do
    snapshotRuleVersion rule caller.id
    query (saveRule host (rule.switch false) now)
  else pure ()
  finishRule caller.orgId

/-! ## Importing a bundle -/

/-- `buildImportedRule`. -/
def buildImportedRule (item : BundleItem) (caller : RequestUser) : Calls Rule := do
  let dto := item.dto.rule
  assertScopeConsistency dto.scope dto.workflowId dto.targetAgent caller.orgId
  pure (dto.rule caller item.id (item.dto.version.getD 1) (item.dto.isActive.getD true))

/-- The loop over the rules of a bundle. -/
def stageRules (host : Host) (caller : RequestUser) (activeRules : List Rule) :
    List BundleItem → List Rule → Calls (List Rule)
  | [], stagedRules => pure stagedRules
  | item :: rest, stagedRules => do
      let candidate ← buildImportedRule item caller
      if candidate.isActive then
        ensureNoConflict host candidate none (some (activeRules ++ stagedRules))
      else pure ()
      stageRules host caller activeRules rest (stagedRules ++ [candidate])

/-- `importRules`. -/
def importRules (host : Host) (bundle : List BundleItem) (caller : RequestUser) (now : Nat) :
    Calls Unit := do
  assertRuleManager caller
  let activeRules ← getCachedActiveRules caller.orgId now
  let stagedRules ← stageRules host caller activeRules bundle []
  query (transaction (insertRules host now stagedRules))
  finishRule caller.orgId

end Manbaa.Rules
