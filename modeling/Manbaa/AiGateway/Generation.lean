import Manbaa.AiGateway.Entities

/-!
# Results of the AI service

The handler of a result looks up what the result is about, stores a version of the
workflow, and then goes on with one call after the other: the workflow, the
session, the pipeline, a message, an audit row, an event, two graphs, a report and
two more events.  No transaction holds the calls together, and only a result whose
last call has succeeded is remembered as handled.
-/

namespace Manbaa.AiGateway

open Manbaa.Lib Manbaa.Lib.Effect

/-! ## The process -/

/-- The database, and the keys of the results that the process has handled, from
the oldest on. -/
structure Gateway where
  db : AiDb
  handledIds : List String

/-- A computation of the process that calls other systems. -/
abbrev Calls := Effect (Faulty Gateway) Exception

/-- What a failing call throws. -/
def outage : Exception := .error "The call failed"

/-- A computation on the database, as one of the process. -/
def onDb {α : Type} (body : Statements α) : Effect Gateway Exception α :=
  zoom Gateway.db (fun db gateway => { gateway with db := db }) body

/-- A call of the database. -/
def query {α : Type} (body : Statements α) : Calls α := calling outage (onDb body)

/-- A call of another system, of whose state nothing is modelled: the audit log, the
message broker or the gateway of the clients. -/
def external : Calls Unit := calling outage (pure ())

/-! ## Messages that were handled -/

/-- `idempotencyKey`. -/
def idempotencyKey (msgId : Option String) (correlationId subject : String) : String :=
  msgId.getD "" ++ ":" ++ correlationId ++ ":" ++ subject

/-- How many keys are remembered. -/
def maxHandledIds : Nat := 10000

/-- `markHandled`: the oldest key is forgotten when there are too many. -/
def markHandled (handledIds : List String) (key : String) : List String :=
  let added := if handledIds.contains key then handledIds else handledIds ++ [key]
  if maxHandledIds < added.length then added.tail else added

/-! ## The handler -/

/-- `AiTaskResultEvent`, without its source, which is not used. -/
structure AiTaskResultEvent where
  correlationId : String
  sessionId : Uuid
  orgId : String
  pipelineExecutionId : String
  workflowJson : Option Json
  elsaJson : Option Json
  confidence : ℚ
  summary : Option String
  versionNumber : Option Int
  deriving DecidableEq

/-- The identifiers that the database generates for the rows of a result. -/
structure ResultIds where
  version : Uuid
  message : Uuid
  intentGraph : Uuid
  generatedGraph : Uuid
  report : Uuid
  deriving DecidableEq

/-- `assertOrgMatch`. -/
def assertOrgMatch (orgId : String) (sessionId : Uuid) : Calls Unit :=
  if orgId = "" then pure ()
  else do
    let found ← query (reading fun db => db.session? sessionId)
    let session ← orThrow found (.error "Session not found for org validation")
    let found ← query (reading fun db => db.workflow? session.workflowId)
    let workflow ← orThrow found (.error "Workflow not found for org validation")
    require (workflow.orgId.text == orgId) (.error "org_id mismatch in NATS payload")

/-- The pipeline of a result. -/
def AiDb.pipeline? (db : AiDb) (payload : AiTaskResultEvent) : Option PipelineExecution :=
  db.pipelines.find? fun pipeline =>
    pipeline.id.text == payload.pipelineExecutionId && pipeline.sessionId == payload.sessionId

/-- What a result is about. -/
def locate (payload : AiTaskResultEvent) : Calls (PipelineExecution × Session × Workflow) := do
  let found ← query (reading fun db => db.pipeline? payload)
  let pipelineExecution ← orThrow found (.error "Pipeline execution not found for ai.tasks.result")
  let found ← query (reading fun db => db.session? payload.sessionId)
  let session ← orThrow found (.error "Session not found for ai.tasks.result")
  assertOrgMatch payload.orgId session.id
  let found ← query (reading fun db => db.workflow? session.workflowId)
  let workflow ← orThrow found (.error "Workflow not found for ai.tasks.result")
  pure (pipelineExecution, session, workflow)

/-- The version that a result makes. -/
def AiTaskResultEvent.version (payload : AiTaskResultEvent) (ids : ResultIds)
    (workflow : Workflow) (session : Session) (latest : Option WorkflowVersion) :
    WorkflowVersion :=
  { id := ids.version
    workflowId := workflow.id
    versionNumber :=
      payload.versionNumber.getD (latest.elim 0 WorkflowVersion.versionNumber + 1)
    elementsJson := payload.workflowJson.getD (.obj [])
    elsaJson := payload.elsaJson
    confidenceScore := some payload.confidence
    createdBy := some session.userId }

/-- `createWorkflowVersionFromResult`. -/
def createWorkflowVersionFromResult (ids : ResultIds) (payload : AiTaskResultEvent)
    (workflow : Workflow) (session : Session) : Calls WorkflowVersion := do
  let currentVersion ← query (reading fun db => db.latestVersion? workflow.id)
  let created := payload.version ids workflow session currentVersion
  query (insertVersion created)
  pure created

/-- The workflow with the version of a result. -/
def Workflow.withResult (workflow : Workflow) (created : WorkflowVersion) : Workflow :=
  { workflow with currentVersion := created.versionNumber, status := .pendingReview }

/-- The session with a result. -/
def Session.withResult (session : Session) (payload : AiTaskResultEvent)
    (status : SessionStatus) : Session :=
  { session with confidenceScore := payload.confidence, status := status }

/-- The pipeline with a result. -/
def PipelineExecution.withResult (pipeline : PipelineExecution) (payload : AiTaskResultEvent)
    (now : Nat) : PipelineExecution :=
  { pipeline with
    status := .completed
    finalConfidence := some payload.confidence
    completedAt := some now
    errorSummary := none }

/-- The message that announces a result. -/
def AiTaskResultEvent.message (payload : AiTaskResultEvent) (ids : ResultIds)
    (created : WorkflowVersion) : Message :=
  { id := ids.message
    sessionId := payload.sessionId
    role := .ai
    type := .aiUpdate
    content := payload.summary.getD "AI pipeline completed and workflow updated"
    metadata := .obj
      [("correlation_id", .str payload.correlationId),
        ("version_number", .num created.versionNumber)]
    archivedAt := none }

/-- The items of a property that should be an array. -/
def itemsOf (value : Json) (key : String) : List Json :=
  match value with
  | .obj fields =>
      match fields.lookup key with
      | some (.arr items) => items
      | _ => []
  | _ => []

/-- A node of the intent graph. -/
def KgNode.json (node : KgNode) : Json :=
  .obj
    [("id", .str node.id.text), ("type", .str node.type), ("label", .str node.label),
      ("inferred", .bool node.inferred)]

/-- An edge of the intent graph. -/
def KgEdge.json (edge : KgEdge) : Json :=
  .obj
    [("id", .str edge.id.text), ("from", .str edge.fromNodeId.text),
      ("to", .str edge.toNodeId.text), ("relationType", .str edge.relationType)]

/-- Insert a graph. -/
def insertGraph (graph : WorkflowGraphSnapshot) : Statements Unit :=
  writing fun db => { db with graphs := db.graphs ++ [graph] }

/-- `buildIntentSnapshot`. -/
def buildIntentSnapshot (ids : ResultIds) (session : Session) (workflowId : Uuid) :
    Calls WorkflowGraphSnapshot := do
  let nodes ← query (reading fun db => db.nodes.filter fun node => node.sessionId == session.id)
  let edges ← query (reading fun db => db.edges.filter fun edge => edge.sessionId == session.id)
  let graph : WorkflowGraphSnapshot :=
    { id := ids.intentGraph
      workflowId := workflowId
      workflowVersionId := none
      sessionId := some session.id
      graphType := .intent
      source := .aiExtraction
      nodes := .arr (nodes.map KgNode.json)
      edges := .arr (edges.map KgEdge.json)
      nodeCount := nodes.length
      edgeCount := edges.length
      createdBy := some session.userId }
  query (insertGraph graph)
  pure graph

/-- `buildGeneratedSnapshot`. -/
def buildGeneratedSnapshot (ids : ResultIds) (session : Session) (workflowId : Uuid)
    (version : WorkflowVersion) : Calls WorkflowGraphSnapshot := do
  let nodes := itemsOf version.elementsJson "nodes"
  let edges := itemsOf version.elementsJson "edges"
  let graph : WorkflowGraphSnapshot :=
    { id := ids.generatedGraph
      workflowId := workflowId
      workflowVersionId := some version.id
      sessionId := some session.id
      graphType := .generated
      source := .aiGeneration
      nodes := .arr nodes
      edges := .arr edges
      nodeCount := nodes.length
      edgeCount := edges.length
      createdBy := some session.userId }
  query (insertGraph graph)
  pure graph

/-- `createDivergenceReport`. -/
def createDivergenceReport (ids : ResultIds) (workflowId pipelineExecutionId graphAId
    graphBId : Uuid) : Calls Uuid := do
  let report : DivergenceReport :=
    { id := ids.report
      workflowId := workflowId
      graphAId := graphAId
      graphBId := graphBId
      comparisonType := .intentVsGenerated
      status := .pending
      overallSimilarity := none
      autoTriggered := true
      pipelineExecutionId := some pipelineExecutionId }
  query (writing fun db => { db with reports := db.reports ++ [report] })
  pure report.id

/-- What follows the workflow: the session and the pipeline are saved, a message and
an audit row are inserted, the event of the workflow is published, and the graphs
are compared. -/
def recordResult (ids : ResultIds) (now : Nat) (payload : AiTaskResultEvent)
    (pipelineExecution : PipelineExecution) (session : Session) (workflow : Workflow)
    (createdVersion : WorkflowVersion) : Calls Unit := do
  let status ← asking fun _ =>
    transitionSessionStatus session.status .aiResultReceived session.mode
  query (writing fun db => db.writeSession (session.withResult payload status))
  query (writing fun db => db.writePipeline (pipelineExecution.withResult payload now))
  query (writing fun db =>
    { db with messages := db.messages ++ [payload.message ids createdVersion] })
  external
  external
  let intentSnapshot ← buildIntentSnapshot ids session workflow.id
  let generatedSnapshot ← buildGeneratedSnapshot ids session workflow.id createdVersion
  let _ ← createDivergenceReport ids workflow.id pipelineExecution.id intentSnapshot.id
    generatedSnapshot.id
  external
  external

/-- What follows the version. -/
def applyResult (ids : ResultIds) (now : Nat) (payload : AiTaskResultEvent)
    (pipelineExecution : PipelineExecution) (session : Session) (workflow : Workflow)
    (createdVersion : WorkflowVersion) : Calls Unit := do
  query (saveWorkflow (workflow.withResult createdVersion))
  recordResult ids now payload pipelineExecution session workflow createdVersion

/-- The subject of the results. -/
def aiTasksResult : String := "ai.tasks.result"

/-- `GenerationCompleteHandler.handle`. -/
def handle (ids : ResultIds) (now : Nat) (payload : AiTaskResultEvent) (msgId : Option String) :
    Calls Unit := do
  let key := idempotencyKey msgId payload.correlationId aiTasksResult
  let handledIds ← locally (reading Gateway.handledIds)
  if handledIds.contains key then pure ()
  else do
    let (pipelineExecution, session, workflow) ← locate payload
    let createdVersion ← createWorkflowVersionFromResult ids payload workflow session
    applyResult ids now payload pipelineExecution session workflow createdVersion
    locally (writing fun gateway =>
      { gateway with handledIds := markHandled gateway.handledIds key })

end Manbaa.AiGateway
