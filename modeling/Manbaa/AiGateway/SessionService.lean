import Manbaa.AiGateway.GenerationSteps

/-!
# The calls that change a session

The methods of the sessions service that write a session, and the handler of
divergence results.  Each reads the session, writes it once and goes on with calls
that do not touch sessions.
-/

namespace Manbaa.AiGateway

open Manbaa.Lib Manbaa.Lib.Effect

/-! ## Lookups and checks -/

/-- `findWorkflowInOrgOrThrow` of the sessions service. -/
def findSessionWorkflow (workflowId orgId : Uuid) (message : String) : Calls Workflow := do
  let found ← query (reading fun db =>
    (db.workflow? workflowId).filter fun workflow => workflow.orgId == orgId)
  orThrow found (.notFound message)

/-- `findSessionInOrgOrThrow`. -/
def findSessionInOrgOrThrow (sessionId orgId : Uuid) : Calls Session := do
  let found ← query (reading fun db => db.session? sessionId)
  let session ← orThrow found (.notFound "Session not found")
  let _ ← findSessionWorkflow session.workflowId orgId "Session not found"
  pure session

/-- `assertOwnerOrAdmin`. -/
def assertOwnerOrAdmin (session : Session) (caller : RequestUser) : Calls Unit :=
  require (caller.role == UserRole.admin.text || session.userId == caller.id)
    (.forbidden "Only the session owner or an admin can manage this session")

/-- `assertAdmin`. -/
def assertAdmin (caller : RequestUser) : Calls Unit :=
  require (caller.role == UserRole.admin.text) (.forbidden "Admin role is required")

/-- Save a session. -/
def saveSession (session : Session) : Calls Unit :=
  query (writing fun db => db.writeSession session)

/-! ## The sessions service -/

/-- A call of `createSession`, with the identifier that the database generates. -/
structure CreateSession where
  workflowId : Uuid
  mode : SessionMode
  caller : RequestUser
  sessionId : Uuid

/-- A new session. -/
def CreateSession.session (request : CreateSession) (workflow : Workflow) : Session :=
  { id := request.sessionId
    workflowId := workflow.id
    userId := request.caller.id
    mode := request.mode
    status := .created
    confidenceScore := 0
    finalizedAt := none
    archivedAt := none }

/-- `createSession`. -/
def createSession (request : CreateSession) : Calls Unit := do
  let workflow ← findSessionWorkflow request.workflowId request.caller.orgId "Workflow not found"
  query (writing fun db => { db with sessions := db.sessions ++ [request.session workflow] })

/-- A call about a session, at a time. -/
structure SessionCall where
  sessionId : Uuid
  caller : RequestUser
  now : Nat

/-- `finalize`. -/
def finalize (request : SessionCall) : Calls Unit := do
  let session ← findSessionInOrgOrThrow request.sessionId request.caller.orgId
  assertOwnerOrAdmin session request.caller
  let _ ← findSessionWorkflow session.workflowId request.caller.orgId "Workflow not found"
  let status ← asking fun _ => transitionSessionStatus session.status .userFinalizes session.mode
  saveSession { session with status := status, finalizedAt := some request.now }
  let _ ← query (reading fun db => db.latestVersion? session.workflowId)
  external
  external

/-- A call of `dispatchAiTask`, with the identifier that the database generates for the
pipeline and the correlation of the request. -/
structure DispatchAiTask where
  sessionId : Uuid
  input : Json
  caller : RequestUser
  pipelineId : Uuid
  correlationId : String

/-- The pipeline that a task starts. -/
def DispatchAiTask.pipeline (request : DispatchAiTask) (session : Session) : PipelineExecution :=
  { id := request.pipelineId
    sessionId := session.id
    mode := session.mode
    status := .pending
    inputPayload := request.input
    triggeredBy := some request.caller.id
    natsMessageId := none
    completedAt := none
    finalConfidence := none
    errorSummary := none
    archivedAt := none }

/-- The identifier of the message of a task. -/
def DispatchAiTask.natsMessageId (request : DispatchAiTask) : String :=
  request.correlationId ++ ":ai.tasks.new:" ++ request.pipelineId.text

/-- `publishAiTask`.  The rules and skills that are loaded go into the messages only. -/
def publishAiTask (request : DispatchAiTask) (session : Session) : Calls Unit := do
  let found ← query (reading fun db => db.session? session.id)
  let stored ← orThrow found (.error "Session not found when publishing ai task")
  let found ← query (reading fun db => db.workflow? stored.workflowId)
  let _ ← orThrow found (.error "Unable to resolve orgId from session")
  let pipelineExecution := request.pipeline session
  query (writing fun db => { db with pipelines := db.pipelines ++ [pipelineExecution] })
  external
  external
  external
  external
  query (writing fun db =>
    db.writePipeline { pipelineExecution with natsMessageId := some request.natsMessageId })

/-- The session after a task has been published: the first task of a session counts as
its first message as well. -/
def saveDispatched (session : Session) : Calls Unit :=
  if session.status = .created then do
    let status ← asking fun _ =>
      transitionSessionStatus session.status .firstUserMessage session.mode
    let published ← asking fun _ => transitionSessionStatus status .aiTaskPublished session.mode
    saveSession { session with status := published }
  else if session.status = .awaitingInput ∨ session.status = .inElicitation then do
    let published ← asking fun _ =>
      transitionSessionStatus session.status .aiTaskPublished session.mode
    saveSession { session with status := published }
  else pure ()

/-- `dispatchAiTask`. -/
def dispatchAiTask (request : DispatchAiTask) : Calls Unit := do
  let session ← findSessionInOrgOrThrow request.sessionId request.caller.orgId
  assertOwnerOrAdmin session request.caller
  publishAiTask request session
  saveDispatched session
  external

/-- The messages and pipelines of a session are archived with it. -/
def AiDb.archiveRows (db : AiDb) (sessionId : Uuid) (archivedAt : Option Nat) : AiDb :=
  { db with
    messages := db.messages.map fun message =>
      if message.sessionId = sessionId then { message with archivedAt := archivedAt } else message
    pipelines := db.pipelines.map fun pipeline =>
      if pipeline.sessionId = sessionId then { pipeline with archivedAt := archivedAt }
      else pipeline }

/-- `archive`. -/
def archive (request : SessionCall) : Calls Unit := do
  let session ← findSessionInOrgOrThrow request.sessionId request.caller.orgId
  assertOwnerOrAdmin session request.caller
  let status ← asking fun _ => transitionSessionStatus session.status .userDeletes session.mode
  saveSession { session with status := status, archivedAt := some request.now }
  query (writing fun db => db.archiveRows session.id (some request.now))
  external

/-- `UpdateSessionStatusDto`, without its reason, which only goes into the audit log. -/
structure UpdateSessionStatusDto where
  status : SessionStatus
  force : Bool
  deriving DecidableEq

/-- A session whose status is overridden. -/
def Session.override (session : Session) (status : SessionStatus) (now : Nat) : Session :=
  { session with
    status := status
    archivedAt := if status = .archived then some now else session.archivedAt
    finalizedAt :=
      if status = .draftReady ∧ session.finalizedAt = none then some now else session.finalizedAt }

/-- `overrideStatus`. -/
def overrideStatus (request : SessionCall) (dto : UpdateSessionStatusDto) : Calls Unit := do
  assertAdmin request.caller
  let session ← findSessionInOrgOrThrow request.sessionId request.caller.orgId
  require (dto.force || canTransitionTo session.status dto.status session.mode)
    (.conflict "Target status violates the session FSM")
  saveSession (session.override dto.status request.now)
  external

/-! ## Divergence results -/

/-- `PipelineDivergenceResultEvent`, as far as it is read. -/
structure PipelineDivergenceResultEvent where
  correlationId : String
  reportId : Uuid
  sessionId : Uuid
  similarityScore : ℚ
  deriving DecidableEq

/-- The subject of the divergence results. -/
def aiTasksDivergenceResult : String := "ai.tasks.divergence.result"

/-- The database with a report written under its identifier. -/
def AiDb.writeReport (db : AiDb) (report : DivergenceReport) : AiDb :=
  { db with reports := Table.save DivergenceReport.id db.reports report }

/-- A session whose graphs differ too much is put into reconciliation, whatever its
status. -/
def reconcile (payload : PipelineDivergenceResultEvent) : Calls Unit := do
  let found ← query (reading fun db => db.session? payload.sessionId)
  match found with
  | none => pure ()
  | some session => do
      saveSession { session with status := .needsReconciliation }
      external

/-- `DivergenceResultHandler.handle`; the process remembers the divergence results that
it has handled. -/
def handleDivergence (threshold : ℚ) (payload : PipelineDivergenceResultEvent)
    (msgId : Option String) : Calls Unit := do
  let key := idempotencyKey msgId payload.correlationId aiTasksDivergenceResult
  let handledIds ← locally (reading Gateway.handledIds)
  if handledIds.contains key then pure ()
  else do
    let found ← query (reading fun db => db.reports.find? fun report =>
      report.id == payload.reportId)
    let report ← orThrow found (.error "Divergence report not found")
    query (writing fun db =>
      db.writeReport { report with overallSimilarity := some payload.similarityScore })
    if payload.similarityScore < threshold then reconcile payload else pure ()
    locally (writing fun gateway =>
      { gateway with handledIds := markHandled gateway.handledIds key })

end Manbaa.AiGateway
