import Manbaa.Jobs.Entities
import Mathlib.Algebra.Order.Ring.Rat

/-!
# The task services

The service through which users create and cancel AI tasks, and the handler of
the events that workers send about them.  The handler reads a task, decides what
the event makes of it, and saves the whole row; when the task ends, its usage is
settled in the same transaction.
-/

namespace Manbaa.Jobs

open Manbaa.Lib Manbaa.Lib.Effect Manbaa.Workspaces Manbaa.Canvases Manbaa.Usage

/-! ## Creating and cancelling -/

/-- `CreateAiTaskDto`. -/
structure CreateAiTaskDto where
  taskType : String
  payload : Json.Fields
  idempotencyKey : Option String

/-- A call of `create`, with the random key, the identifiers that the database
generates and the time. -/
structure AiTaskRequest where
  workspaceId : Uuid
  dto : CreateAiTaskDto
  userId : Uuid
  correlationId : String
  randomKey : String
  taskId : Uuid
  reservationId : Uuid
  now : Nat

/-- The key of the task. -/
def AiTaskRequest.key (request : AiTaskRequest) : String :=
  request.dto.idempotencyKey.getD request.randomKey

/-- The usage that a task reserves. -/
def AiTaskRequest.usage (request : AiTaskRequest) (organizationId : Uuid) : ReserveUsageInput ℚ :=
  { organizationId := organizationId
    workspaceId := request.workspaceId
    dimension := .aiInputTokens
    amount := 1
    idempotencyKey := "ai-task:" ++ request.key
    limit := none }

/-- The task that a call creates. -/
def AiTaskRequest.task (request : AiTaskRequest) (organizationId usageReservationId : Uuid) :
    AiTask :=
  { id := request.taskId
    organizationId := organizationId
    workspaceId := request.workspaceId
    userId := request.userId
    taskType := request.dto.taskType
    status := .queued
    progress := 0
    currentStep := none
    requestPayload := (Json.obj request.dto.payload).jsonb
    resultPayload := none
    errorCode := none
    errorMessage := none
    correlationId := request.correlationId
    idempotencyKey := request.key
    usageReservationId := usageReservationId
    canvasId := none
    snapshotId := none
    snapshotVersion := none
    canvasRevision := none
    supersededByTaskId := none
    startedAt := none
    completedAt := none
    cancelledAt := none }

/-- Insert a task under a generated identifier. -/
def insertTask (task : AiTask) : Statements Unit := do
  let taken ← reading fun db => db.task? task.id
  require taken.isNone (.queryFailed (.uniqueViolation "ai_task_pkey"))
  saveTask task

/-- The transaction of `create`. -/
def createTaskTransaction (request : AiTaskRequest) (organizationId : Uuid) :
    Statements AiTask := do
  let reservation ←
    usageService (reserveUsage (request.usage organizationId) request.reservationId request.now)
  insertTask (request.task organizationId reservation.id)
  pure (request.task organizationId reservation.id)

/-- `create`. -/
def createTask (request : AiTaskRequest) : Statements AiTask := do
  let member ← asking fun db =>
    requireRole db.members request.userId request.workspaceId edit
  let existing ← reading fun db => db.tasks.find? fun task =>
    task.idempotencyKey == request.key && task.workspaceId == request.workspaceId &&
      task.userId == request.userId
  match existing with
  | some task => pure task
  | none => transaction (createTaskTransaction request member.organizationId)

/-- The task, cancelled. -/
def AiTask.cancel (task : AiTask) (now : Nat) : AiTask :=
  { task with status := .cancelled, cancelledAt := some now }

/-- The transaction of `cancel`. -/
def cancelTransaction (workspaceId id : Uuid) (now : Nat) : Statements AiTask := do
  let found ← reading fun db => (db.task? id).filter fun task => task.workspaceId == workspaceId
  let locked ← orThrow found (.notFound "AI task not found")
  if locked.status = .cancelled then pure locked
  else do
    require locked.active (.conflict "AI task cannot be cancelled")
    saveTask (locked.cancel now)
    let _ ← usageService (releaseUsage locked.usageReservationId)
    pure (locked.cancel now)

/-- `cancel`. -/
def cancelTask (workspaceId id userId : Uuid) (now : Nat) : Statements AiTask := do
  let _ ← asking fun db => requireRole db.members userId workspaceId edit
  transaction (cancelTransaction workspaceId id now)

/-! ## Events of workers -/

/-- What an event says about its task. -/
inductive TaskEventKind where
  | started
  | progress
  | completed
  | failed
  | cancelled
  deriving DecidableEq

/-- The text of a kind, in subjects and in the actions of a token. -/
def TaskEventKind.text : TaskEventKind → String
  | .started => "started"
  | .progress => "progress"
  | .completed => "completed"
  | .failed => "failed"
  | .cancelled => "cancelled"

/-- `InternalServiceClaims`, as far as the handler reads them. -/
structure InternalServiceClaims where
  organizationId : Uuid
  workspaceId : Option Uuid
  taskId : Option Uuid
  allowedActions : List String

/-- An event whose token has been verified, with the identifier that the database
generates for a suggestion and the time.  The column of the progress holds
integers. -/
structure TaskEvent where
  organizationId : Uuid
  workspaceId : Uuid
  taskId : Uuid
  claims : InternalServiceClaims
  progress : Option Int
  currentStep : Option String
  result : Option Json.Fields
  errorCode : Option String
  errorMessage : Option String
  actualUsage : Option ℚ
  suggestionId : Uuid
  now : Nat

/-- The token allows the event. -/
def TaskEvent.authorized (event : TaskEvent) (kind : TaskEventKind) : Bool :=
  event.claims.organizationId == event.organizationId &&
    event.claims.workspaceId == some event.workspaceId &&
    event.claims.taskId == some event.taskId &&
    event.claims.allowedActions.contains ("ai.task." ++ kind.text)

/-- What happens to the usage of a task that ends. -/
inductive Settlement where
  | commit (actual : ℚ)
  | release

/-- What the handler does with a task. -/
inductive Reaction where
  | ignored
  | saves (entity : AiTask)
  | settles (entity : AiTask) (settlement : Settlement)

/-- The task, started. -/
def AiTask.start (task : AiTask) (event : TaskEvent) : AiTask :=
  { task with
    status := .running
    startedAt := some event.now
    currentStep := event.currentStep }

/-- The task, further on. -/
def AiTask.advance (task : AiTask) (event : TaskEvent) : AiTask :=
  { task with
    progress := max task.progress (min 99 (event.progress.getD task.progress))
    currentStep := event.currentStep.or task.currentStep }

/-- The task, whose result comes after it was superseded. -/
def AiTask.expire (task : AiTask) (event : TaskEvent) : AiTask :=
  { task with
    status := .stale
    resultPayload := none
    errorCode := some "STALE_RESULT"
    errorMessage := some "A late worker result was ignored after supersession"
    completedAt := some event.now }

/-- The task, completed. -/
def AiTask.complete (task : AiTask) (event : TaskEvent) : AiTask :=
  { task with
    status := .completed
    progress := 100
    resultPayload := some (Json.obj (event.result.getD [])).jsonb
    errorCode := none
    errorMessage := none
    completedAt := some event.now }

/-- The first characters of a text. -/
def firstChars (length : Nat) (text : String) : String := String.ofList (text.toList.take length)

/-- The task, failed. -/
def AiTask.fail (task : AiTask) (event : TaskEvent) : AiTask :=
  { task with
    status := .failed
    resultPayload := none
    errorCode := some (firstChars 100 (event.errorCode.getD "WORKER_FAILED"))
    errorMessage := some (firstChars 1000 (event.errorMessage.getD "Worker task failed"))
    completedAt := some event.now }

/-- The statuses of a task that is over for good. -/
def endedStatuses : List JobStatus := [.completed, .failed, .cancelled, .stale]

/-- `finish`. -/
def AiTask.finish (task : AiTask) (event : TaskEvent) (success : Bool) : Reaction :=
  if task.status = .superseded then .saves (task.expire event)
  else if task.status ∈ endedStatuses then .ignored
  else if success then .settles (task.complete event) (.commit (event.actualUsage.getD 1))
  else .settles (task.fail event) .release

/-- What an event makes of the task that the handler has read. -/
def AiTask.react (task : AiTask) (event : TaskEvent) : TaskEventKind → Reaction
  | .started =>
      if task.status = .queued then .saves (task.start event) else .ignored
  | .progress =>
      if task.status ∈ [JobStatus.running, .waitingForUser] then .saves (task.advance event)
      else .ignored
  | .cancelled =>
      if task.status ∈ endedStatuses then .ignored
      else .settles (task.cancel event.now) .release
  | .completed => task.finish event true
  | .failed => task.finish event false

/-- Settle the usage of a task. -/
def Settlement.settle (settlement : Settlement) (usageReservationId : Uuid) :
    UsageService ℚ (UsageReservation ℚ) :=
  match settlement with
  | .commit actual => commitUsage usageReservationId actual
  | .release => releaseUsage usageReservationId

/-- The transaction that saves a task and settles its usage. -/
def settleTask (entity : AiTask) (settlement : Settlement) : Statements Unit := do
  saveTask entity
  let _ ← usageService (settlement.settle entity.usageReservationId)
  pure ()

/-- The write of the handler: a save, or a transaction that also settles. -/
def Reaction.perform : Reaction → Statements Unit
  | .ignored => pure ()
  | .saves entity => saveTask entity
  | .settles entity settlement => transaction (settleTask entity settlement)

/-! ## Suggestions -/

/-- A value that counts as true in a condition. -/
def truthy : Option Json → Bool
  | none | some .null | some (.bool false) => false
  | some (.num value) => value != 0
  | some (.str text) => text != ""
  | some _ => true

/-- A field of a result, `null` being as good as none. -/
def given (fields : Json.Fields) (key : String) : Option Json :=
  (fields.lookup key).filter fun value => value != .null

/-- `createSuggestionFromResult`: the suggestion that a result makes. -/
def AiTask.suggestion (task : AiTask) (event : TaskEvent) (canvasId : Uuid) : CanvasAiSuggestion :=
  let result := event.result.getD []
  { id := event.suggestionId
    taskId := task.id
    organizationId := task.organizationId
    workspaceId := task.workspaceId
    canvasId := canvasId
    snapshotId := task.snapshotId
    snapshotVersion := task.snapshotVersion
    canvasRevision := task.canvasRevision
    resultType :=
      if truthy (result.lookup "componentSpec") then "component"
      else if truthy (result.lookup "assetId") then "image" else "unknown"
    componentSpec := given result "componentSpec"
    assetId := given result "assetId"
    assetVersionId := given result "assetVersionId"
    enhancedPrompt := given result "enhancedPrompt"
    evidenceIds := given result "evidenceIds"
    status := .ready
    stale := false }

/-- The suggestion that is stored for a task. -/
def PlatformDb.suggestionOf? (db : PlatformDb) (input : CanvasAiSuggestion) :
    Option CanvasAiSuggestion :=
  db.suggestions.find? fun suggestion =>
    suggestion.taskId == input.taskId && suggestion.organizationId == input.organizationId &&
      suggestion.workspaceId == input.workspaceId

/-- `createOrUpdate`: what is saved, given the suggestion that was found. -/
def CanvasAiSuggestion.refresh (input : CanvasAiSuggestion) :
    Option CanvasAiSuggestion → CanvasAiSuggestion
  | none => input
  | some existing =>
      { existing with
        status := .ready
        componentSpec := input.componentSpec
        assetId := input.assetId
        assetVersionId := input.assetVersionId
        enhancedPrompt := input.enhancedPrompt
        evidenceIds := input.evidenceIds
        resultType := input.resultType
        snapshotId := input.snapshotId.or existing.snapshotId
        snapshotVersion := input.snapshotVersion.or existing.snapshotVersion
        canvasRevision := input.canvasRevision.or existing.canvasRevision }

/-- The database with a suggestion written under its identifier. -/
def PlatformDb.writeSuggestion (db : PlatformDb) (suggestion : CanvasAiSuggestion) : PlatformDb :=
  { db with suggestions := Table.save CanvasAiSuggestion.id db.suggestions suggestion }

/-- `createOrUpdate`. -/
def createOrUpdate (input : CanvasAiSuggestion) : Statements Unit := do
  let existing ← reading fun db => db.suggestionOf? input
  writing fun db => db.writeSuggestion (input.refresh existing)

/-- The suggestion that the handler makes after its write, if it makes one. -/
def Reaction.suggests (event : TaskEvent) : Reaction → Option CanvasAiSuggestion
  | .settles entity (.commit _) => entity.canvasId.map fun canvasId =>
      entity.suggestion event canvasId
  | _ => none

/-- The task of an event. -/
def PlatformDb.eventTask? (db : PlatformDb) (event : TaskEvent) : Option AiTask :=
  (db.task? event.taskId).filter fun task =>
    task.organizationId == event.organizationId && task.workspaceId == event.workspaceId

/-- `handle`, without its audit rows, notifications and broadcasts. -/
def handle (kind : TaskEventKind) (event : TaskEvent) : Statements Unit := do
  require (event.authorized kind) (.internalServerError "Worker event authorization mismatch")
  let found ← reading fun db => db.eventTask? event
  let task ← orThrow found (.internalServerError "AI task scope mismatch")
  let reaction := task.react event kind
  reaction.perform
  match reaction.suggests event with
  | none => pure ()
  | some suggestion => createOrUpdate suggestion

end Manbaa.Jobs
