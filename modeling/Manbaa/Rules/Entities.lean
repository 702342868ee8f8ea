import Manbaa.Core.Http
import Manbaa.Lib.Effect
import Manbaa.Lib.Except
import Manbaa.Lib.Json
import Manbaa.Lib.Table
import Mathlib.Data.List.Sort

/-!
# Rules and when they contradict each other

The rows of the rules module, and the pure functions by which two rules are
compared.  The condition of a rule is kept in a binary JSON column: what is read
back is the same JSON value, with its keys in an order of the database.  The
comparisons look at the text of values, in which the order of keys counts.
-/

namespace Manbaa.Rules

open Manbaa.Lib Manbaa.Lib.Effect

/-! ## Rows -/

/-- What a rule is about. -/
inductive RuleType where
  | extraction
  | actorMapping
  | structuralConstraint
  | validation
  | namingConvention
  | promptInjection
  deriving DecidableEq

/-- The text of a type. -/
def RuleType.text : RuleType → String
  | .extraction => "EXTRACTION"
  | .actorMapping => "ACTOR_MAPPING"
  | .structuralConstraint => "STRUCTURAL_CONSTRAINT"
  | .validation => "VALIDATION"
  | .namingConvention => "NAMING_CONVENTION"
  | .promptInjection => "PROMPT_INJECTION"

/-- Where a rule holds. -/
inductive RuleScope where
  | org
  | workflow
  | agent
  deriving DecidableEq

/-- The text of a scope. -/
def RuleScope.text : RuleScope → String
  | .org => "ORG"
  | .workflow => "WORKFLOW"
  | .agent => "AGENT"

/-- The agents of the AI service. -/
inductive AgentType where
  | orchestrator
  | intake
  | extraction
  | pattern
  | gapDetection
  | qa
  | validation
  | export
  | divergence
  | rulesSkillsLoader
  deriving DecidableEq

/-- The condition of a rule. -/
abbrev Condition := Option Json.Fields

/-- A row of `rule`. -/
structure Rule where
  id : Uuid
  orgId : Uuid
  workflowId : Option Uuid
  name : String
  description : Option String
  ruleType : RuleType
  scope : RuleScope
  targetAgent : Option AgentType
  condition : Condition
  instruction : String
  priority : Int
  version : Int
  isActive : Bool
  createdBy : Uuid
  updatedAt : Nat
  deriving DecidableEq

/-- A row of `rule_version`, without its own identifier. -/
structure RuleVersion where
  ruleId : Uuid
  version : Int
  instruction : String
  condition : Condition
  priority : Int
  isActive : Bool
  changedBy : Uuid
  deriving DecidableEq

/-- A row of `workflow`, as far as rules refer to it. -/
structure Workflow where
  id : Uuid
  orgId : Uuid
  deriving DecidableEq

/-- The tables. -/
structure RulesDb where
  rules : List Rule
  ruleVersions : List RuleVersion
  workflows : List Workflow

/-- A computation on the database. -/
abbrev Statements := Effect RulesDb Exception

/-! ## The host -/

/-- What the service relies on: the text of numbers, and what a binary JSON column
returns for an object, which is the same JSON value and does not change any more. -/
structure Host where
  numberText : ℚ → String
  readBack : Json.Fields → Json.Fields
  same : ∀ fields, Json.Same (.obj (readBack fields)) (.obj fields)
  stable : ∀ fields, readBack (readBack fields) = readBack fields

/-- A condition as its column returns it. -/
def Host.stored (host : Host) (condition : Condition) : Condition :=
  condition.map host.readBack

/-! ## Texts -/

/-- White space and line ends. -/
def isSpace (char : Char) : Bool :=
  (9 ≤ char.toNat && char.toNat ≤ 13) || (0x2000 ≤ char.toNat && char.toNat ≤ 0x200a) ||
    [0x20, 0xa0, 0x1680, 0x2028, 0x2029, 0x202f, 0x205f, 0x3000, 0xfeff].contains char.toNat

/-- `String.prototype.trim`. -/
def trim (text : String) : String :=
  String.ofList ((text.toList.dropWhile isSpace).reverse.dropWhile isSpace).reverse

/-! ## Comparing rules -/

/-- `CONTRADICTABLE_RULE_TYPES`. -/
def contradictableRuleTypes : List RuleType := [.actorMapping, .structuralConstraint]

/-- `deepEqual`: the texts are the same. -/
def deepEqual (host : Host) (left right : Json) : Bool :=
  left.stringify host.numberText == right.stringify host.numberText

/-- A condition as a value. -/
def conditionJson (condition : Condition) : Json := condition.elim .null .obj

/-- Two conditions have a key in common, and its value. -/
def sharesValue (host : Host) (left right : Json.Fields) (key : String) : Bool :=
  match left.lookup key, right.lookup key with
  | some first, some second => deepEqual host first second
  | _, _ => false

/-- `conditionsOverlap`. -/
def conditionsOverlap (host : Host) (left right : Condition) : Bool :=
  match left, right with
  | none, none => true
  | some left, some right => (left.map Prod.fst).any (sharesValue host left right)
  | _, _ => false

/-- `extractOverlappingConditionKeys`. -/
def extractOverlappingConditionKeys (host : Host) (left right : Condition) : List String :=
  match left, right with
  | some left, some right => (left.map Prod.fst).filter (sharesValue host left right)
  | _, _ => []

/-- A value that is a text with something in it. -/
def textValue : Json → Option String
  | .str text => if trim text = "" then none else some (trim text)
  | _ => none

/-- `pickFirstValue`. -/
def pickFirstValue (condition : Condition) (keys : List String) : Option String :=
  condition.bind fun fields => keys.findSome? fun key => (fields.lookup key).bind textValue

/-- Two conditions that speak of one subject: whether they say different things of it.
Nothing is decided if a subject or what is said of it is missing, or if the subjects
differ. -/
def saysOtherwise (subjects sayings : List String) (left right : Condition) : Option Bool := do
  let subjectLeft ← pickFirstValue left subjects
  let subjectRight ← pickFirstValue right subjects
  let sayingLeft ← pickFirstValue left sayings
  let sayingRight ← pickFirstValue right sayings
  if subjectLeft = subjectRight then some (sayingLeft != sayingRight) else none

/-- What the conditions of two rules decide, by the type of the first. -/
def typeSpecific (ruleType : RuleType) (left right : Condition) : Option Bool :=
  match ruleType with
  | .actorMapping => saysOtherwise ["source_label", "source", "actor", "alias"]
      ["canonical", "canonical_actor", "target", "mapped_actor"] left right
  | .structuralConstraint => saysOtherwise ["structure", "pattern", "element"]
      ["mode", "constraint", "requirement"] left right
  | _ => none

/-- `hasTypeSpecificConflict`. -/
def hasTypeSpecificConflict (candidate existingRule : Rule) : Bool :=
  (typeSpecific candidate.ruleType candidate.condition existingRule.condition).getD
    (trim candidate.instruction != trim existingRule.instruction)

/-- What `ensureNoConflict` looks for among the rules that it compares with. -/
def conflicts (host : Host) (candidate existingRule : Rule) : Bool :=
  conditionsOverlap host candidate.condition existingRule.condition &&
    hasTypeSpecificConflict candidate existingRule

/-- `buildConflictDetail`. -/
def buildConflictDetail (host : Host) (candidate conflictingRule : Rule) : String :=
  let overlapKeys :=
    extractOverlappingConditionKeys host candidate.condition conflictingRule.condition
  let overlapSegment :=
    if overlapKeys.isEmpty then ""
    else " overlapping condition keys: " ++ ", ".intercalate overlapKeys
  "Conflicting " ++ candidate.ruleType.text ++ " rule in " ++ candidate.scope.text ++
    " scope for the same target agent/workflow." ++ overlapSegment

/-! ## Statements -/

/-- The range of a small integer. -/
def isSmallint (value : Int) : Bool := decide (-32768 ≤ value ∧ value ≤ 32767)

/-- The columns of a rule take its values. -/
def Rule.fits (rule : Rule) : Except Exception Unit := do
  check (decide (rule.name.length ≤ 256)) (.queryFailed (.valueTooLong "name"))
  check (Json.zeroFree rule.name) (.queryFailed (.untranslatableCharacter "name"))
  check (rule.description.all Json.zeroFree) (.queryFailed (.untranslatableCharacter "description"))
  check (conditionJson rule.condition).storable
    (.queryFailed (.untranslatableCharacter "condition"))
  check (Json.zeroFree rule.instruction) (.queryFailed (.untranslatableCharacter "instruction"))
  check (isSmallint rule.priority) (.queryFailed (.outOfRange "priority"))
  check (isSmallint rule.version) (.queryFailed (.outOfRange "version"))

/-- A rule as its row holds it. -/
def Host.row (host : Host) (rule : Rule) (now : Nat) : Rule :=
  { rule with condition := host.stored rule.condition, updatedAt := now }

/-- The row of a rule. -/
def RulesDb.rule? (db : RulesDb) (id : Uuid) : Option Rule := Table.get? Rule.id db.rules id

/-- Save a rule under its identifier. -/
def saveRule (host : Host) (rule : Rule) (now : Nat) : Statements Unit := do
  asking fun _ => rule.fits
  writing fun db => { db with rules := Table.save Rule.id db.rules (host.row rule now) }

/-- Insert rules whose identifiers the database generates. -/
def insertRules (host : Host) (now : Nat) : List Rule → Statements Unit
  | [] => pure ()
  | rule :: rest => do
      asking fun db => check (db.rule? rule.id).isNone
        (.queryFailed (.uniqueViolation "rule_pkey"))
      saveRule host rule now
      insertRules host now rest

/-- Insert the row that keeps what a rule was. -/
def insertRuleVersion (version : RuleVersion) : Statements Unit :=
  writing fun db => { db with ruleVersions := db.ruleVersions ++ [version] }

/-- The order in which rules are found: the higher priority first, and the later change
among equals. -/
def Rule.Before (first second : Rule) : Prop :=
  second.priority < first.priority ∨
    (first.priority = second.priority ∧ second.updatedAt ≤ first.updatedAt)

instance (first second : Rule) : Decidable (first.Before second) :=
  inferInstanceAs (Decidable (_ ∨ _))

/-- The active rules of an organization. -/
def RulesDb.activeRules (db : RulesDb) (orgId : Uuid) : List Rule :=
  (db.rules.filter fun rule => rule.orgId == orgId && rule.isActive).insertionSort Rule.Before

/-- Two rules belong together: they have one type, scope, agent and workflow in one
organization. -/
def Rule.Beside (first second : Rule) : Prop :=
  first.orgId = second.orgId ∧ first.ruleType = second.ruleType ∧ first.scope = second.scope ∧
    first.targetAgent = second.targetAgent ∧ first.workflowId = second.workflowId

instance (first second : Rule) : Decidable (first.Beside second) :=
  inferInstanceAs (Decidable (_ ∧ _))

/-- The active rules beside a candidate. -/
def RulesDb.besides (db : RulesDb) (candidate : Rule) : List Rule :=
  (db.rules.filter fun rule => rule.isActive && decide (candidate.Beside rule)).insertionSort
    Rule.Before

end Manbaa.Rules
