import Manbaa.AiGateway.SessionFsm
import Manbaa.Canvases.Entities
import Manbaa.Lib.Effect
import Manbaa.Lib.Outage

/-!
# Workflows, sessions and what the AI service makes of them

The rows that a result of the AI service reads or writes.  The tables keep their
rows in the order in which they were inserted, which is that of their creation
times.
-/

namespace Manbaa.AiGateway

open Manbaa.Lib Manbaa.Lib.Effect

/-! ## Rows -/

/-- The status of a workflow. -/
inductive WorkflowStatus where
  | draft
  | inElicitation
  | pendingReview
  | validated
  | exported
  | archived
  deriving DecidableEq

/-- A row of `workflow`, without the columns of its share link. -/
structure Workflow where
  id : Uuid
  orgId : Uuid
  ownerId : Uuid
  title : String
  description : Option String
  domain : Option String
  tags : List String
  status : WorkflowStatus
  currentVersion : Int
  deriving DecidableEq

/-- A row of `workflow_version`. -/
structure WorkflowVersion where
  id : Uuid
  workflowId : Uuid
  versionNumber : Int
  elementsJson : Json
  elsaJson : Option Json
  confidenceScore : Option ℚ
  createdBy : Option Uuid
  deriving DecidableEq

/-- A row of `session`. -/
structure Session where
  id : Uuid
  workflowId : Uuid
  userId : Uuid
  mode : SessionMode
  status : SessionStatus
  confidenceScore : ℚ
  finalizedAt : Option Nat
  archivedAt : Option Nat
  deriving DecidableEq

/-- The status of a pipeline. -/
inductive PipelineStatus where
  | pending
  | running
  | paused
  | completed
  | failed
  | cancelled
  deriving DecidableEq

/-- A row of `pipeline_execution`, as far as it is read. -/
structure PipelineExecution where
  id : Uuid
  sessionId : Uuid
  mode : SessionMode
  status : PipelineStatus
  inputPayload : Json
  triggeredBy : Option Uuid
  natsMessageId : Option String
  completedAt : Option Nat
  finalConfidence : Option ℚ
  errorSummary : Option String
  archivedAt : Option Nat
  deriving DecidableEq

/-- Who wrote a message. -/
inductive MessageRole where
  | user
  | ai
  | system
  deriving DecidableEq

/-- The type of a message. -/
inductive MessageType where
  | userInput
  | aiQuestion
  | aiResponse
  | aiSummary
  | aiUpdate
  | aiConfidenceReport
  | systemNote
  | systemStatus
  deriving DecidableEq

/-- A row of `message`. -/
structure Message where
  id : Uuid
  sessionId : Uuid
  role : MessageRole
  type : MessageType
  content : String
  metadata : Json
  archivedAt : Option Nat
  deriving DecidableEq

/-- What a graph shows. -/
inductive GraphType where
  | intent
  | generated
  | executed
  | reconciled
  deriving DecidableEq

/-- Where a graph comes from. -/
inductive GraphSource where
  | aiExtraction
  | aiGeneration
  | elsaImport
  | manualMerge
  deriving DecidableEq

/-- A row of `workflow_graph_snapshot`. -/
structure WorkflowGraphSnapshot where
  id : Uuid
  workflowId : Uuid
  workflowVersionId : Option Uuid
  sessionId : Option Uuid
  graphType : GraphType
  source : GraphSource
  nodes : Json
  edges : Json
  nodeCount : Nat
  edgeCount : Nat
  createdBy : Option Uuid
  deriving DecidableEq

/-- Which graphs are compared. -/
inductive ComparisonType where
  | intentVsGenerated
  | generatedVsExecuted
  | intentVsExecuted
  deriving DecidableEq

/-- The status of a report. -/
inductive DivergenceReportStatus where
  | pending
  | running
  | completed
  | failed
  deriving DecidableEq

/-- A row of `divergence_report`, without the counts that the worker fills in. -/
structure DivergenceReport where
  id : Uuid
  workflowId : Uuid
  graphAId : Uuid
  graphBId : Uuid
  comparisonType : ComparisonType
  status : DivergenceReportStatus
  overallSimilarity : Option ℚ
  autoTriggered : Bool
  pipelineExecutionId : Option Uuid
  deriving DecidableEq

/-- A row of `kg_node`, as far as the intent graph shows it. -/
structure KgNode where
  id : Uuid
  sessionId : Uuid
  type : String
  label : String
  inferred : Bool
  deriving DecidableEq

/-- A row of `kg_edge`, as far as the intent graph shows it. -/
structure KgEdge where
  id : Uuid
  sessionId : Uuid
  fromNodeId : Uuid
  toNodeId : Uuid
  relationType : String
  deriving DecidableEq

/-- A row of `canvas_snapshot`. -/
structure CanvasSnapshot where
  id : Uuid
  canvasId : Uuid
  snapshotData : Json
  createdBy : Uuid
  trigger : String
  deriving DecidableEq

/-- A row of `canvas_version`. -/
structure CanvasVersion where
  id : Uuid
  canvasId : Uuid
  workflowVersionId : Uuid
  snapshotId : Uuid
  label : Option String
  type : String
  createdBy : Uuid
  deriving DecidableEq

/-- A row of `dead_letter`. -/
structure DeadLetter where
  subject : String
  payload : Json
  reason : String
  deliveryCount : Nat
  lastError : Option String
  deriving DecidableEq

/-! ## The database -/

/-- The tables. -/
structure AiDb where
  workflows : List Workflow
  versions : List WorkflowVersion
  sessions : List Session
  pipelines : List PipelineExecution
  messages : List Message
  graphs : List WorkflowGraphSnapshot
  reports : List DivergenceReport
  nodes : List KgNode
  edges : List KgEdge
  canvases : List Canvases.Canvas
  objects : List Canvases.CanvasObject
  canvasSnapshots : List CanvasSnapshot
  canvasVersions : List CanvasVersion
  deadLetters : List DeadLetter

/-- A computation on the database. -/
abbrev Statements := Effect AiDb Exception

/-- The row of a workflow. -/
def AiDb.workflow? (db : AiDb) (id : Uuid) : Option Workflow :=
  Table.get? Workflow.id db.workflows id

/-- The row of a session. -/
def AiDb.session? (db : AiDb) (id : Uuid) : Option Session :=
  Table.get? Session.id db.sessions id

/-- The version with the largest number. -/
def AiDb.latestVersion? (db : AiDb) (workflowId : Uuid) : Option WorkflowVersion :=
  Table.largest? WorkflowVersion.versionNumber
    (db.versions.filter fun version => version.workflowId == workflowId)

/-- The largest number of a version, zero if there is none. -/
def AiDb.maxVersion (db : AiDb) (workflowId : Uuid) : Int :=
  (db.latestVersion? workflowId).elim 0 WorkflowVersion.versionNumber

/-- No number of a version exceeds the largest one. -/
theorem le_maxVersion {db : AiDb} {version : WorkflowVersion}
    (versionMem : version ∈ db.versions) :
    version.versionNumber ≤ db.maxVersion version.workflowId := by
  have counted : version ∈ db.versions.filter fun other =>
      other.workflowId == version.workflowId := by simp [versionMem]
  rw [AiDb.maxVersion]
  cases latestEq : db.latestVersion? version.workflowId with
  | none =>
      rw [AiDb.latestVersion?, Table.largest?_eq_none_iff] at latestEq
      rw [latestEq] at counted
      cases counted
  | some latest => exact Table.le_of_largest? counted latestEq

/-- The database with a workflow written under its identifier. -/
def AiDb.writeWorkflow (db : AiDb) (workflow : Workflow) : AiDb :=
  { db with workflows := Table.save Workflow.id db.workflows workflow }

/-- The database with a session written under its identifier. -/
def AiDb.writeSession (db : AiDb) (session : Session) : AiDb :=
  { db with sessions := Table.save Session.id db.sessions session }

/-- The database with a pipeline written under its identifier. -/
def AiDb.writePipeline (db : AiDb) (pipeline : PipelineExecution) : AiDb :=
  { db with pipelines := Table.save PipelineExecution.id db.pipelines pipeline }

/-- The database with another version. -/
def AiDb.addVersion (db : AiDb) (version : WorkflowVersion) : AiDb :=
  { db with versions := db.versions ++ [version] }

/-! ## Statements -/

/-- The number of a version is taken. -/
def AiDb.taken (db : AiDb) (version : WorkflowVersion) : Bool :=
  db.versions.any fun other =>
    other.workflowId == version.workflowId && other.versionNumber == version.versionNumber

/-- Insert a version.  Its number must be new to the workflow. -/
def insertVersion (version : WorkflowVersion) : Statements Unit := do
  asking fun db => check (!db.taken version)
    (.queryFailed (.uniqueViolation "uq_workflow_version_number"))
  writing fun db => db.addVersion version

/-- The trigger on the counter of a workflow: a new value must not exceed the
largest number of a version. -/
def AiDb.enforceCurrentVersion (db : AiDb) (workflow : Workflow) : Except Exception Unit :=
  check
    ((db.workflow? workflow.id).any (·.currentVersion == workflow.currentVersion) ||
      decide (workflow.currentVersion ≤ db.maxVersion workflow.id))
    (.queryFailed (.checkViolation "trg_enforce_workflow_current_version"))

/-- Save a workflow: every column in which the entity differs from its row is
written. -/
def saveWorkflow (workflow : Workflow) : Statements Unit := do
  asking fun db => db.enforceCurrentVersion workflow
  writing fun db => db.writeWorkflow workflow

theorem taken_eq_false_iff {db : AiDb} {version : WorkflowVersion} :
    db.taken version = false ↔ ∀ other ∈ db.versions,
      other.workflowId = version.workflowId → other.versionNumber ≠ version.versionNumber := by
  simp [AiDb.taken]

theorem insertVersion_eq_ok_iff {version : WorkflowVersion} {db target : AiDb} {done : Unit} :
    insertVersion version db = (.ok done, target) ↔
      db.taken version = false ∧ db.addVersion version = target := by
  constructor
  · intro insertEq
    obtain ⟨_, _, checkEq, writeEq⟩ := bind_eq_ok_iff.mp insertEq
    obtain ⟨checked, rfl⟩ := asking_eq_ok_iff.mp checkEq
    exact ⟨by simpa using check_eq_ok_iff.mp checked, writing_eq_ok_iff.mp writeEq⟩
  · rintro ⟨fresh, rfl⟩
    have checked : check (!db.taken version)
        (Exception.queryFailed (.uniqueViolation "uq_workflow_version_number")) = .ok () := by
      rw [fresh]
      rfl
    exact bind_eq_ok_iff.mpr ⟨(), db, asking_eq_ok_iff.mpr ⟨checked, rfl⟩, rfl⟩

theorem saveWorkflow_eq_ok_iff {workflow : Workflow} {db target : AiDb} {done : Unit} :
    saveWorkflow workflow db = (.ok done, target) ↔
      ((∃ row, db.workflow? workflow.id = some row ∧
          row.currentVersion = workflow.currentVersion) ∨
        workflow.currentVersion ≤ db.maxVersion workflow.id) ∧
      db.writeWorkflow workflow = target := by
  constructor
  · intro saveEq
    obtain ⟨_, _, checkEq, writeEq⟩ := bind_eq_ok_iff.mp saveEq
    obtain ⟨checked, rfl⟩ := asking_eq_ok_iff.mp checkEq
    have allowed := check_eq_ok_iff.mp checked
    simp only [Bool.or_eq_true, Option.any_eq_true, beq_iff_eq, decide_eq_true_eq] at allowed
    exact ⟨allowed, writing_eq_ok_iff.mp writeEq⟩
  · rintro ⟨allowed, rfl⟩
    have checked : db.enforceCurrentVersion workflow = .ok () := by
      apply check_eq_ok_iff.mpr
      simp only [Bool.or_eq_true, Option.any_eq_true, beq_iff_eq, decide_eq_true_eq]
      exact allowed
    exact bind_eq_ok_iff.mpr ⟨(), db, asking_eq_ok_iff.mpr ⟨checked, rfl⟩, rfl⟩

theorem atomic_insertVersion (version : WorkflowVersion) : Atomic (insertVersion version) :=
  readOnly_asking.bind_atomic fun _ => atomic_writing

theorem atomic_saveWorkflow (workflow : Workflow) : Atomic (saveWorkflow workflow) :=
  readOnly_asking.bind_atomic fun _ => atomic_writing

end Manbaa.AiGateway
