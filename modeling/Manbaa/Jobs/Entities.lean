import Manbaa.Canvases.Entities
import Manbaa.Lib.Effect
import Manbaa.Usage.Service

/-!
# Task and preview entities

The rows of the AI tasks and of what they work on, the frozen snapshots of a
canvas and the suggestions made from results, and the database that the services
of this part share.  Outbox, audit and notification rows are left out, and so
are the preview columns of a snapshot: nothing that is modelled reads them.
-/

namespace Manbaa.Jobs

open Manbaa.Lib Manbaa.Lib.Effect Manbaa.Canvases Manbaa.Usage

/-! ## Rows -/

/-- How far a task has come. -/
inductive JobStatus where
  | queued
  | running
  | waitingForUser
  | completed
  | failed
  | cancelled
  | superseded
  | stale
  deriving DecidableEq

/-- The statuses of a task that is not over. -/
def activeStatuses : List JobStatus := [.queued, .running, .waitingForUser]

/-- A row of `ai_task`.  A task of a canvas preview names the snapshot that it
works on. -/
structure AiTask where
  id : Uuid
  organizationId : Uuid
  workspaceId : Uuid
  userId : Uuid
  taskType : String
  status : JobStatus
  progress : Int
  currentStep : Option String
  requestPayload : Json
  resultPayload : Option Json
  errorCode : Option String
  errorMessage : Option String
  correlationId : String
  idempotencyKey : String
  usageReservationId : Uuid
  canvasId : Option Uuid
  snapshotId : Option Uuid
  snapshotVersion : Option Nat
  canvasRevision : Option Nat
  supersededByTaskId : Option Uuid
  startedAt : Option Nat
  completedAt : Option Nat
  cancelledAt : Option Nat
  deriving DecidableEq

/-- The task is not over. -/
def AiTask.active (task : AiTask) : Bool := activeStatuses.contains task.status

/-- Whether a snapshot may be used. -/
inductive AiPreviewSnapshotStatus where
  | pending
  | available
  | superseded
  | failed
  deriving DecidableEq

/-- The path of a snapshot object, by its parts.  No part of a path that is
stored holds a slash, so the text of a path determines them. -/
structure SnapshotPath where
  organizationId : String
  workspaceId : String
  canvasId : String
  snapshotId : String
  snapshotVersion : Nat
  deriving DecidableEq

/-- The text of a path. -/
def SnapshotPath.text (path : SnapshotPath) : String :=
  "organizations/" ++ path.organizationId ++ "/workspaces/" ++ path.workspaceId ++ "/canvases/" ++
    path.canvasId ++ "/snapshots/" ++ path.snapshotId ++ "/snapshot-v" ++
    toString path.snapshotVersion ++ ".json"

/-- A row of `ai_preview_snapshot`. -/
structure AiPreviewSnapshot where
  id : Uuid
  organizationId : Uuid
  workspaceId : Uuid
  projectId : Option Uuid
  canvasId : Uuid
  snapshotVersion : Nat
  canvasRevision : Nat
  status : AiPreviewSnapshotStatus
  storageBucket : String
  storageKey : SnapshotPath
  checksumSha256 : String
  contentType : String
  sizeBytes : Nat
  createdBy : Uuid
  supersededBySnapshotId : Option Uuid
  deriving DecidableEq

/-- What a user can do with a suggestion. -/
inductive AiSuggestionStatus where
  | queued
  | processing
  | ready
  | stale
  | accepted
  | rejected
  | failed
  | cancelled
  | superseded
  deriving DecidableEq

/-- A row of `canvas_ai_suggestion`. -/
structure CanvasAiSuggestion where
  id : Uuid
  taskId : Uuid
  organizationId : Uuid
  workspaceId : Uuid
  canvasId : Uuid
  snapshotId : Option Uuid
  snapshotVersion : Option Nat
  canvasRevision : Option Nat
  resultType : String
  componentSpec : Option Json
  assetId : Option Json
  assetVersionId : Option Json
  enhancedPrompt : Option Json
  evidenceIds : Option Json
  status : AiSuggestionStatus
  stale : Bool
  deriving DecidableEq

/-- A row of `source`, as far as previews read it. -/
structure Source where
  id : Uuid
  organizationId : Uuid
  workspaceId : Uuid
  deleted : Bool
  deriving DecidableEq

/-! ## The database -/

/-- The tables of the canvases, of the tasks and of usage. -/
structure PlatformDb extends Canvases.Db where
  sources : List Source
  tasks : List AiTask
  snapshots : List AiPreviewSnapshot
  suggestions : List CanvasAiSuggestion
  usage : UsageDb ℚ

/-- A computation on the database. -/
abbrev Statements := Effect PlatformDb Exception

/-- The row of a task. -/
def PlatformDb.task? (db : PlatformDb) (id : Uuid) : Option AiTask :=
  Table.get? AiTask.id db.tasks id

/-- The row of a snapshot. -/
def PlatformDb.snapshot? (db : PlatformDb) (id : Uuid) : Option AiPreviewSnapshot :=
  Table.get? AiPreviewSnapshot.id db.snapshots id

/-- The database with other canvases. -/
def PlatformDb.setCanvases (db : PlatformDb) (canvases : List Canvas) : PlatformDb :=
  { db with canvases := canvases }

/-- The database with other tables of usage. -/
def PlatformDb.setUsage (db : PlatformDb) (usage : UsageDb ℚ) : PlatformDb :=
  { db with usage := usage }

/-- A call of the usage service in the transaction of another service. -/
def usageService {α : Type} (body : UsageService ℚ α) : Statements α :=
  zoom PlatformDb.usage (fun usage db => db.setUsage usage) body

/-- The database with a task written under its identifier. -/
def PlatformDb.writeTask (db : PlatformDb) (task : AiTask) : PlatformDb :=
  { db with tasks := Table.save AiTask.id db.tasks task }

/-- Save a task: the row with its identifier is updated, otherwise a row is
inserted.  A key of another task is refused. -/
def saveTask (task : AiTask) : Statements Unit := do
  let taken ← reading fun db => db.tasks.any fun other =>
    other.id != task.id && other.idempotencyKey == task.idempotencyKey
  require (!taken) (.queryFailed (.uniqueViolation "ai_task_idempotency_key_key"))
  writing fun db => db.writeTask task

@[simp]
theorem saveTask_eq_ok_iff {task : AiTask} {db target : PlatformDb} {done : Unit} :
    saveTask task db = (.ok done, target) ↔
      (∀ other ∈ db.tasks, other.idempotencyKey = task.idempotencyKey → other.id = task.id) ∧
        db.writeTask task = target := by
  have free : (!db.tasks.any fun other =>
      other.id != task.id && other.idempotencyKey == task.idempotencyKey) = true ↔
      ∀ other ∈ db.tasks, other.idempotencyKey = task.idempotencyKey → other.id = task.id := by
    simp only [Bool.not_eq_true', List.any_eq_false, Bool.and_eq_true, bne_iff_ne, beq_iff_eq,
      not_and]
    exact forall₂_congr fun other _ => not_imp_not
  rw [← free]
  simp only [saveTask, bind_eq_ok_iff, reading_eq_ok_iff, require_eq_ok_iff, writing_eq_ok_iff,
    exists_done]
  constructor
  · rintro ⟨_, _, ⟨rfl, rfl⟩, _, ⟨unused, rfl⟩, written⟩
    exact ⟨unused, written⟩
  · rintro ⟨unused, written⟩
    exact ⟨_, _, ⟨rfl, rfl⟩, _, ⟨unused, rfl⟩, written⟩

/-- A save writes the task or nothing. -/
theorem saveTask_keeps {task : AiTask} {db : PlatformDb} {inv : PlatformDb → Prop} (holds : inv db)
    (written : inv (db.writeTask task)) : inv (saveTask task db).2 := by
  refine readOnly_reading.bind_keeps holds fun taken _ => ?_
  exact readOnly_require.bind_keeps holds fun _ _ => written

theorem usageService_eq_iff {α : Type} {body : UsageService ℚ α} {db target : PlatformDb}
    {result : Except Exception α} :
    usageService body db = (result, target) ↔
      ∃ usage, body db.usage = (result, usage) ∧ db.setUsage usage = target :=
  zoom_eq_iff

end Manbaa.Jobs
