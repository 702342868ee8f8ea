import Manbaa.Canvases.Service
import Manbaa.Jobs.Entities
import Mathlib.Algebra.Order.Ring.Rat
import Mathlib.Data.List.MinMax
import Mathlib.Data.List.Sort

/-!
# The canvas AI preview service

A preview request freezes the canvas at its revision, reserves usage and queues
a task for a worker.  Three lookups may answer it with a task that exists
already; otherwise the tasks of older revisions are superseded.

The snapshot is put into the bucket inside the database transaction, which does
not undo it: a call that throws after it deletes the object.
-/

namespace Manbaa.Jobs

open Manbaa.Lib Manbaa.Lib.Effect Manbaa.Workspaces Manbaa.Canvases Manbaa.Usage

/-- What the service runs on: the text of numbers, the digest, the name-based
identifiers of its own namespace, the validation of identifiers, what the
serializer makes of a canvas and its elements, and the configuration. -/
structure Host where
  numberText : Number → String
  sha256 : String → String
  uuidv5 : String → Uuid
  validateUuid : String → Bool
  document : Canvas → List CanvasObject → Except Exception String
  snapshotBucket : String
  aiEnabled : Bool

/-! ## Requests -/

/-- What is asked of the worker. -/
inductive CanvasAiPreviewOperation where
  | improveCanvas
  | improveSelection
  | generateComponent
  | generateImage
  deriving DecidableEq

/-- The text of an operation. -/
def CanvasAiPreviewOperation.text : CanvasAiPreviewOperation → String
  | .improveCanvas => "improve_canvas"
  | .improveSelection => "improve_selection"
  | .generateComponent => "generate_component"
  | .generateImage => "generate_image"

/-- `CanvasAiPreviewRequestDto`. -/
structure CanvasAiPreviewRequestDto where
  operation : CanvasAiPreviewOperation
  userPrompt : String
  selectedElementIds : List String
  lockedElementIds : List String
  editableElementIds : List String
  sourceIds : List String
  desiredWidth : Nat
  desiredHeight : Nat
  autoApply : Bool
  deriving DecidableEq

/-- `NormalizedPreviewTarget`; `autoApply` is always false. -/
structure NormalizedPreviewTarget where
  operation : CanvasAiPreviewOperation
  selectedElementIds : List String
  lockedElementIds : List String
  editableElementIds : List String
  sourceIds : List String
  userPrompt : String
  desiredWidth : Nat
  desiredHeight : Nat
  deriving DecidableEq

/-- A call of the service, with the identifier that the database generates for
its reservation and the time. -/
structure PreviewRequest where
  workspaceId : String
  canvasId : String
  dto : CanvasAiPreviewRequestDto
  idempotencyKey : Option String
  user : RequestUser
  correlationId : String
  reservationId : Uuid
  now : Nat
  deriving DecidableEq

/-- `CanvasAiPreviewResponseDto`. -/
structure CanvasAiPreviewResponseDto where
  taskId : Uuid
  snapshotId : Uuid
  snapshotVersion : Nat
  canvasRevision : Nat
  status : JobStatus
  deriving DecidableEq

/-- `normalizeTarget`. -/
def normalizeTarget (dto : CanvasAiPreviewRequestDto) : NormalizedPreviewTarget where
  operation := dto.operation
  selectedElementIds := dto.selectedElementIds.insertionSort (· ≤ ·)
  lockedElementIds := dto.lockedElementIds.insertionSort (· ≤ ·)
  editableElementIds := dto.editableElementIds.insertionSort (· ≤ ·)
  sourceIds := dto.sourceIds.insertionSort (· ≤ ·)
  userPrompt := dto.userPrompt
  desiredWidth := dto.desiredWidth
  desiredHeight := dto.desiredHeight

/-- A target as a JSON value, its keys in the order of the literal. -/
def NormalizedPreviewTarget.json (target : NormalizedPreviewTarget) : Json :=
  let texts (items : List String) : Json := .arr (items.map .str)
  .obj
    [("operation", .str target.operation.text),
      ("selectedElementIds", texts target.selectedElementIds),
      ("lockedElementIds", texts target.lockedElementIds),
      ("editableElementIds", texts target.editableElementIds),
      ("sourceIds", texts target.sourceIds),
      ("userPrompt", .str target.userPrompt),
      ("desiredWidth", .num target.desiredWidth),
      ("desiredHeight", .num target.desiredHeight),
      ("autoApply", .bool false)]

/-- The length of the longest key that a client may send. -/
def maxIdempotencyKeyLength : Nat := 160

/-- `normalizeIdempotencyKey`. -/
def normalizeIdempotencyKey (host : Host) (workspaceId canvasId : String) (userId : Uuid)
    (raw : Option String) : Except Exception String := do
  let refused := Exception.badRequest
    "Idempotency-Key must contain 1-160 printable non-space ASCII characters"
  let raw ← lookUp raw refused
  check
    (raw != "" && decide (raw.length ≤ maxIdempotencyKeyLength) &&
      raw.toList.all fun char => decide (0x21 ≤ char.toNat ∧ char.toNat ≤ 0x7e))
    refused
  pure ("canvas-preview:" ++
    host.sha256 (workspaceId ++ ":" ++ canvasId ++ ":" ++ userId.text ++ ":" ++ raw))

/-- No element is locked and editable. -/
def NormalizedPreviewTarget.lockedEditableDisjoint (target : NormalizedPreviewTarget) : Bool :=
  !target.editableElementIds.any target.lockedElementIds.contains

/-- A request that has passed the checks before the first lookup. -/
structure PreviewCall where
  workspaceId : String
  canvasId : String
  user : RequestUser
  correlationId : String
  idempotencyKey : String
  target : NormalizedPreviewTarget
  reservationId : Uuid
  now : Nat
  deriving DecidableEq

/-- The checks before the first lookup. -/
def prepare (host : Host) (request : PreviewRequest) : Statements PreviewCall := do
  let idempotencyKey ← asking fun _ =>
    normalizeIdempotencyKey host request.workspaceId request.canvasId request.user.id
      request.idempotencyKey
  require (host.validateUuid request.correlationId)
    (.badRequest "Correlation ID must be a UUID")
  require (!request.dto.autoApply) (.badRequest "auto_apply must be false")
  require host.aiEnabled (.serviceUnavailable "AI_SERVICE_DISABLED")
  let target := normalizeTarget request.dto
  require target.lockedEditableDisjoint
    (.badRequest "locked_element_ids and editable_element_ids must not overlap")
  let _ ← asking fun db => requireEditor db.members request.user.id
    (uuid request.workspaceId) request.user.orgId
  pure
    { workspaceId := request.workspaceId
      canvasId := request.canvasId
      user := request.user
      correlationId := request.correlationId
      idempotencyKey := idempotencyKey
      target := target
      reservationId := request.reservationId
      now := request.now }

/-! ## Lookups -/

/-- The text that the identifiers of a call are made from. -/
def PreviewCall.stableSeed (call : PreviewCall) : String :=
  call.idempotencyKey ++ ":" ++ call.user.orgId.text ++ ":" ++ call.workspaceId ++ ":" ++
    call.canvasId

/-- The identifier of the task that the call creates. -/
def PreviewCall.taskId (host : Host) (call : PreviewCall) : Uuid :=
  host.uuidv5 ("task:" ++ call.stableSeed)

/-- The identifier of the snapshot that the call creates. -/
def PreviewCall.snapshotId (host : Host) (call : PreviewCall) : Uuid :=
  host.uuidv5 ("snapshot:" ++ call.stableSeed)

/-- The task is one of the canvas of the call. -/
def PreviewCall.scopes (call : PreviewCall) (task : AiTask) : Bool :=
  task.organizationId == call.user.orgId && task.workspaceId == uuid call.workspaceId &&
    task.canvasId == some (uuid call.canvasId)

/-- The task under the key of the call. -/
def PlatformDb.previewTask? (db : PlatformDb) (call : PreviewCall) : Option AiTask :=
  db.tasks.find? fun task => task.idempotencyKey == call.idempotencyKey && call.scopes task

/-- The active tasks of the canvas at a revision. -/
def PlatformDb.activeAtRevision (db : PlatformDb) (call : PreviewCall) (canvasRevision : Nat) :
    List AiTask :=
  db.tasks.filter fun task =>
    call.scopes task && task.canvasRevision == some canvasRevision && task.active

/-- The newest of some snapshots. -/
def newest (snapshots : List AiPreviewSnapshot) : Option AiPreviewSnapshot :=
  snapshots.argmax AiPreviewSnapshot.snapshotVersion

/-- The newest usable snapshot of the canvas at a revision. -/
def PlatformDb.availableSnapshot? (db : PlatformDb) (call : PreviewCall) (canvasRevision : Nat) :
    Option AiPreviewSnapshot :=
  newest <| db.snapshots.filter fun snapshot =>
    snapshot.organizationId == call.user.orgId &&
      snapshot.workspaceId == uuid call.workspaceId &&
      snapshot.canvasId == uuid call.canvasId && snapshot.canvasRevision == canvasRevision &&
      snapshot.status == .available

/-- The version of the next snapshot of a canvas. -/
def PlatformDb.nextSnapshotVersion (db : PlatformDb) (canvasId : Uuid) : Nat :=
  let latest := newest <| db.snapshots.filter fun snapshot => snapshot.canvasId == canvasId
  latest.elim 0 AiPreviewSnapshot.snapshotVersion + 1

/-- `sameTarget`. -/
def sameTarget (host : Host) (payload : Json) (target : NormalizedPreviewTarget) : Bool :=
  payload.stringify host.numberText == target.json.stringify host.numberText

/-- `requireTaskSnapshot`. -/
def requireTaskSnapshot (task : AiTask) : Statements AiPreviewSnapshot := do
  let snapshotId ← orThrow task.snapshotId
    (.internalServerError "Canvas preview task is missing snapshot lineage")
  let found ← reading fun db => (db.snapshot? snapshotId).filter fun snapshot =>
    snapshot.organizationId == task.organizationId && snapshot.workspaceId == task.workspaceId
  orThrow found (.internalServerError "Canvas preview snapshot lineage is missing")

/-- `responseFromTask`. -/
def responseFromTask (task : AiTask) : Except Exception CanvasAiPreviewResponseDto :=
  match task.snapshotId, task.snapshotVersion, task.canvasRevision with
  | some snapshotId, some snapshotVersion, some canvasRevision =>
      .ok ⟨task.id, snapshotId, snapshotVersion, canvasRevision, task.status⟩
  | _, _, _ =>
      .error (.internalServerError "Canvas preview task is missing snapshot lineage")

/-- `assertSourcesInTenant`. -/
def assertSourcesInTenant (call : PreviewCall) : Statements Unit := do
  let sourceIds := call.target.sourceIds
  let count ← reading fun db => (db.sources.filter fun source =>
    (sourceIds.map uuid).contains source.id && source.organizationId == call.user.orgId &&
      source.workspaceId == uuid call.workspaceId && !source.deleted).length
  require (sourceIds.isEmpty || count == sourceIds.length)
    (.badRequest "Every source_id must belong to the requested workspace")

/-! ## The frozen canvas -/

/-- `SerializationResult`, as far as the service reads it. -/
structure SerializationResult where
  elementIds : List String
  json : String
  checksumSha256 : String
  sizeBytes : Nat

/-- The largest number of elements in a snapshot. -/
def maxElementCount : Nat := 1000

/-- The largest integer that is safe. -/
def maxSafeInteger : Nat := 9007199254740991

/-- `serialize`. -/
def serialize (host : Host) (canvasId : Uuid) (expectedRevision : Nat) :
    Statements SerializationResult := do
  let found ← reading fun db => db.canvas? canvasId
  let canvas ← orThrow found (.badRequest "Canvas not found")
  let objects ← reading fun db => (db.objects.filter fun object => object.canvasId == canvasId)
    |>.insertionSort fun first second => first.id.text ≤ second.id.text
  require (decide (objects.length ≤ maxElementCount))
    (.badRequest "Canvas exceeds maximum element count of 1000")
  require (decide (canvas.revision ≤ maxSafeInteger))
    (.badRequest "canvas.revision must be a safe integer")
  require (decide (canvas.revision = expectedRevision))
    (.badRequest ("Canvas revision changed: expected " ++ toString expectedRevision ++
      ", received " ++ toString canvas.revision))
  let json ← asking fun _ => host.document canvas objects
  pure ⟨objects.map fun object => object.id.text, json, host.sha256 json, json.utf8ByteSize⟩

/-- The elements that a target names. -/
def NormalizedPreviewTarget.requested (target : NormalizedPreviewTarget) : List String :=
  target.selectedElementIds ++ target.lockedElementIds ++ target.editableElementIds

/-- `assertElementReferences`. -/
def assertElementReferences (elementIds : List String) (target : NormalizedPreviewTarget) :
    Statements Unit :=
  match (target.requested.filter fun id => !elementIds.contains id).insertionSort (· ≤ ·) with
  | [] => pure ()
  | unknown :: _ => throwing (.badRequest ("Unknown canvas element ID: " ++ unknown))

/-- An object of the bucket store, with the checksum in its metadata. -/
structure StoredObject where
  bucket : String
  key : SnapshotPath
  content : String
  checksumSha256 : String
  deriving DecidableEq

/-- Objects are told apart by bucket and key. -/
def StoredObject.place (object : StoredObject) : String × SnapshotPath :=
  (object.bucket, object.key)

/-- `StoredWorkspaceSnapshot`. -/
structure StoredWorkspaceSnapshot where
  bucket : String
  key : SnapshotPath
  checksumSha256 : String
  contentType : String
  sizeBytes : Nat
  deriving DecidableEq

/-- The database and the objects in the buckets. -/
structure Platform where
  db : PlatformDb
  objects : List StoredObject

/-- The object under a key. -/
def Platform.object? (platform : Platform) (bucket : String) (key : SnapshotPath) :
    Option StoredObject :=
  Table.get? StoredObject.place platform.objects (bucket, key)

/-- `buildSnapshotObjectPath`; the identifiers are UUIDs, which pass its checks. -/
def PreviewCall.snapshotPath (host : Host) (call : PreviewCall) (snapshotVersion : Nat) :
    SnapshotPath :=
  ⟨call.user.orgId.text, call.workspaceId, call.canvasId, (call.snapshotId host).text,
    snapshotVersion⟩

/-- The object that `storeSnapshot` puts into the bucket. -/
def PreviewCall.object (host : Host) (call : PreviewCall) (snapshotVersion : Nat)
    (content : String) : StoredObject :=
  ⟨host.snapshotBucket, call.snapshotPath host snapshotVersion, content, host.sha256 content⟩

/-- What `storeSnapshot` returns. -/
def StoredObject.stored (object : StoredObject) : StoredWorkspaceSnapshot :=
  ⟨object.bucket, object.key, object.checksumSha256, "application/json",
    object.content.utf8ByteSize⟩

/-- Put an object in its place. -/
def Platform.put (platform : Platform) (object : StoredObject) : Platform :=
  { platform with objects := Table.save StoredObject.place platform.objects object }

/-- `deleteObject`. -/
def Platform.deleteObject (platform : Platform) (stored : StoredWorkspaceSnapshot) : Platform :=
  { platform with
    objects := Table.delete StoredObject.place platform.objects (stored.bucket, stored.key) }

/-! ## Rows -/

/-- The columns of a snapshot that say what is frozen, without the two that may
change. -/
def AiPreviewSnapshot.artefact (snapshot : AiPreviewSnapshot) : AiPreviewSnapshot :=
  { snapshot with status := .available, supersededBySnapshotId := none }

/-- The constraints of `ai_preview_snapshot`. -/
def PlatformDb.checkSnapshot (db : PlatformDb) (snapshot : AiPreviewSnapshot) :
    Except Refusal Unit := do
  check ((db.snapshot? snapshot.id).all fun old => old.artefact == snapshot.artefact)
    (.checkViolation "trg_ai_preview_snapshot_immutable")
  check (!db.snapshots.any fun other => other.id != snapshot.id &&
      other.canvasId == snapshot.canvasId && other.snapshotVersion == snapshot.snapshotVersion)
    (.uniqueViolation "uq_ai_preview_snapshot_canvas_version")
  check (!db.snapshots.any fun other => other.id != snapshot.id &&
      other.storageBucket == snapshot.storageBucket && other.storageKey == snapshot.storageKey)
    (.uniqueViolation "uq_ai_preview_snapshot_storage")
  check (decide (0 < snapshot.snapshotVersion))
    (.checkViolation "ck_ai_preview_snapshot_version_positive")
  check (snapshot.storageBucket == "workspace-snapshots")
    (.checkViolation "ck_ai_preview_snapshot_storage_bucket")
  check
    (snapshot.storageKey ==
      ⟨snapshot.organizationId.text, snapshot.workspaceId.text, snapshot.canvasId.text,
        snapshot.id.text, snapshot.snapshotVersion⟩)
    (.checkViolation "ck_ai_preview_snapshot_storage_key")
  check (snapshot.supersededBySnapshotId != some snapshot.id)
    (.checkViolation "ck_ai_preview_snapshot_not_self_superseded")

/-- The database with a snapshot written under its identifier. -/
def PlatformDb.writeSnapshot (db : PlatformDb) (snapshot : AiPreviewSnapshot) : PlatformDb :=
  { db with snapshots := Table.save AiPreviewSnapshot.id db.snapshots snapshot }

/-- Save a snapshot. -/
def saveSnapshot (snapshot : AiPreviewSnapshot) : Statements Unit := do
  asking fun db => (db.checkSnapshot snapshot).mapError .queryFailed
  writing fun db => db.writeSnapshot snapshot

/-- The snapshot that a call inserts. -/
def PreviewCall.snapshot (host : Host) (call : PreviewCall) (canvas : Canvas)
    (workflow : Workflow) (snapshotVersion : Nat) (stored : StoredWorkspaceSnapshot) :
    AiPreviewSnapshot :=
  { id := call.snapshotId host
    organizationId := call.user.orgId
    workspaceId := uuid call.workspaceId
    projectId := workflow.projectId
    canvasId := uuid call.canvasId
    snapshotVersion := snapshotVersion
    canvasRevision := canvas.revision
    status := .available
    storageBucket := stored.bucket
    storageKey := stored.key
    checksumSha256 := stored.checksumSha256
    contentType := stored.contentType
    sizeBytes := stored.sizeBytes
    createdBy := call.user.id
    supersededBySnapshotId := none }

/-- The task that a call queues. -/
def PreviewCall.task (host : Host) (call : PreviewCall) (snapshot : AiPreviewSnapshot)
    (canvasRevision : Nat) (usageReservationId : Uuid) : AiTask :=
  { id := call.taskId host
    organizationId := call.user.orgId
    workspaceId := uuid call.workspaceId
    userId := call.user.id
    taskType := "canvas.ai.preview.validate"
    status := .queued
    progress := 0
    currentStep := some "snapshot_queued"
    requestPayload := call.target.json.jsonb
    resultPayload := none
    errorCode := none
    errorMessage := none
    correlationId := call.correlationId
    idempotencyKey := call.idempotencyKey
    usageReservationId := usageReservationId
    canvasId := some (uuid call.canvasId)
    snapshotId := some snapshot.id
    snapshotVersion := some snapshot.snapshotVersion
    canvasRevision := some canvasRevision
    supersededByTaskId := none
    startedAt := none
    completedAt := none
    cancelledAt := none }

/-- The usage that a call reserves. -/
def PreviewCall.usage (host : Host) (call : PreviewCall) : ReserveUsageInput ℚ :=
  { organizationId := call.user.orgId
    workspaceId := uuid call.workspaceId
    dimension := .aiInputTokens
    amount := 1
    idempotencyKey := "canvas-preview:" ++ (call.taskId host).text
    limit := none }

/-! ## The transaction -/

/-- What the transaction has found once it holds the lock of the canvas. -/
inductive Opened where
  | duplicate (task : AiTask) (snapshot : AiPreviewSnapshot)
  | reuse (canvas : Canvas) (workflow : Workflow) (snapshot : AiPreviewSnapshot)
  | store (canvas : Canvas) (workflow : Workflow) (snapshotVersion : Nat)
      (serialized : SerializationResult)

/-- Lock the canvas and bind it to the workspace, if it is unbound. -/
def lockCanvas (call : PreviewCall) : Statements (Canvas × Workflow) := do
  let found ← reading fun db => db.canvas? (uuid call.canvasId)
  let canvas ← orThrow found (.notFound "Canvas not found")
  let owned ← reading fun db => db.workflowInOrg? canvas.workflowId call.user.orgId
  let workflow ← orThrow owned (.notFound "Canvas not found")
  match canvas.workspaceId with
  | some workspaceId => do
      require (workspaceId.text == call.workspaceId)
        (.forbidden "Canvas belongs to another workspace")
      pure (canvas, workflow)
  | none => do
      let bound := { canvas with workspaceId := some (uuid call.workspaceId) }
      writing fun db => db.setCanvases (Table.save Canvas.id db.canvases bound)
      pure (bound, workflow)

/-- The transaction up to the snapshot. -/
def openPreview (host : Host) (call : PreviewCall) : Statements Opened := do
  let (canvas, workflow) ← lockCanvas call
  let duplicate ← reading fun db => db.previewTask? call
  match duplicate with
  | some task => do
      let snapshot ← requireTaskSnapshot task
      pure (.duplicate task snapshot)
  | none => do
      require (decide (canvas.revision ≤ maxSafeInteger))
        (.badRequest "Canvas revision is invalid")
      assertSourcesInTenant call
      let activeAtRevision ← reading fun db => db.activeAtRevision call canvas.revision
      match activeAtRevision.find? fun task => sameTarget host task.requestPayload call.target with
      | some task => do
          let snapshot ← requireTaskSnapshot task
          pure (.duplicate task snapshot)
      | none => do
          let available ← reading fun db => db.availableSnapshot? call canvas.revision
          let snapshotVersion ← reading fun db => db.nextSnapshotVersion (uuid call.canvasId)
          let serialized ← serialize host (uuid call.canvasId) canvas.revision
          assertElementReferences serialized.elementIds call.target
          match available with
          | some snapshot => pure (.reuse canvas workflow snapshot)
          | none => pure (.store canvas workflow snapshotVersion serialized)

/-- `PersistedPreview`. -/
structure PersistedPreview where
  task : AiTask
  snapshot : AiPreviewSnapshot
  createdSnapshot : Bool
  duplicate : Bool

/-- The task, superseded by another one. -/
def AiTask.supersede (task : AiTask) (replacement : Uuid) : AiTask :=
  { task with status := .superseded, supersededByTaskId := some replacement }

/-- The active tasks of the canvas that are older than a revision. -/
def PlatformDb.olderActive (db : PlatformDb) (call : PreviewCall) (taskId : Uuid)
    (canvasRevision : Nat) : List AiTask :=
  db.tasks.filter fun task =>
    call.scopes task && task.active && task.id != taskId &&
      task.canvasRevision.any fun revision => decide (revision < canvasRevision)

/-- Supersede a task and release what is reserved for it. -/
def supersedeTask (replacement : Uuid) (older : AiTask) : Statements Unit := do
  saveTask (older.supersede replacement)
  let _ ← usageService (releaseUsage older.usageReservationId)
  pure ()

/-- Supersede a snapshot, if it is one of the canvas. -/
def supersedeSnapshot (call : PreviewCall) (replacement snapshotId : Uuid) : Statements Unit := do
  let found ← reading fun db => (db.snapshot? snapshotId).filter fun snapshot =>
    snapshot.organizationId == call.user.orgId && snapshot.workspaceId == uuid call.workspaceId &&
      snapshot.canvasId == uuid call.canvasId
  match found with
  | none => pure ()
  | some snapshot =>
      saveSnapshot
        { snapshot with status := .superseded, supersededBySnapshotId := some replacement }

/-- The transaction from the snapshot on. -/
def completePreview (host : Host) (call : PreviewCall) (canvas : Canvas)
    (snapshot : AiPreviewSnapshot) (createdSnapshot : Bool) : Statements PersistedPreview := do
  let reservation ←
    usageService (reserveUsage (call.usage host) call.reservationId call.now)
  let task := call.task host snapshot canvas.revision reservation.id
  saveTask task
  let olderActive ← reading fun db => db.olderActive call task.id canvas.revision
  each olderActive (supersedeTask task.id)
  each (olderActive.filterMap AiTask.snapshotId).dedup (supersedeSnapshot call snapshot.id)
  pure ⟨task, snapshot, createdSnapshot, false⟩

/-- Insert the snapshot that was stored, and complete the transaction. -/
def insertPreview (host : Host) (call : PreviewCall) (canvas : Canvas) (workflow : Workflow)
    (snapshotVersion : Nat) (serialized : SerializationResult) (stored : StoredWorkspaceSnapshot) :
    Statements PersistedPreview := do
  require
    (stored.bucket == "workspace-snapshots" &&
      stored.checksumSha256 == serialized.checksumSha256 &&
      stored.sizeBytes == serialized.sizeBytes && stored.contentType == "application/json")
    (.internalServerError "Stored snapshot metadata does not match the frozen bytes")
  let snapshot := call.snapshot host canvas workflow snapshotVersion stored
  saveSnapshot snapshot
  completePreview host call canvas snapshot true

/-- How the transaction ended, and what it had stored by then. -/
structure Attempt where
  result : Except Exception PersistedPreview
  stored : Option StoredWorkspaceSnapshot

/-- What a database computation leaves of the platform: a transaction that
throws is rolled back, and the objects stay. -/
def Platform.end (platform : Platform) {α : Type} : Except Exception α × PlatformDb → Platform
  | (.ok _, db) => { platform with db := db }
  | (.error _, _) => platform

/-- The transaction of `create`, once it is open. -/
def closePreview (host : Host) (call : PreviewCall) (platform : Platform) (db : PlatformDb) :
    Opened → Attempt × Platform
  | .duplicate task snapshot =>
      (⟨.ok ⟨task, snapshot, false, true⟩, none⟩, { platform with db := db })
  | .reuse canvas _ snapshot =>
      let completed := completePreview host call canvas snapshot false db
      (⟨completed.1, none⟩, platform.end completed)
  | .store canvas workflow snapshotVersion serialized =>
      let object := call.object host snapshotVersion serialized.json
      let completed :=
        insertPreview host call canvas workflow snapshotVersion serialized object.stored db
      (⟨completed.1, some object.stored⟩, (platform.put object).end completed)

/-- The transaction of `create`. -/
def attempt (host : Host) (call : PreviewCall) (platform : Platform) : Attempt × Platform :=
  match openPreview host call platform.db with
  | (.error exception, _) => (⟨.error exception, none⟩, platform)
  | (.ok opened, db) => closePreview host call platform db opened

/-- `create`.  Broadcasts are left out: they read no state. -/
def create (host : Host) (request : PreviewRequest) :
    Effect Platform Exception CanvasAiPreviewResponseDto := fun platform =>
  match (prepare host request platform.db).1 with
  | .error exception => (.error exception, platform)
  | .ok call =>
      match platform.db.previewTask? call with
      | some preexisting => (responseFromTask preexisting, platform)
      | none =>
          let (attempted, reached) := attempt host call platform
          match attempted.result.bind fun persisted => responseFromTask persisted.task with
          | .ok response => (.ok response, reached)
          | .error exception =>
              (.error exception, attempted.stored.elim reached reached.deleteObject)

/-! ## An example -/

/-- The organization of the examples. -/
def exampleOrg : Uuid := uuid "org"

/-- The workspace. -/
def exampleWorkspace : Uuid := uuid "workspace"

/-- The canvas. -/
def exampleCanvas : Uuid := uuid "canvas"

/-- The workflow of the canvas. -/
def exampleWorkflow : Uuid := uuid "workflow"

/-- An editor. -/
def exampleAlice : Uuid := uuid "alice"

/-- Another editor. -/
def exampleBob : Uuid := uuid "bob"

/-- A host that digests a text to itself and freezes the revision of a canvas. -/
def exampleHost : Host where
  numberText := fun number => toString number.num
  sha256 := fun text => text
  uuidv5 := uuid
  validateUuid := fun _ => true
  document := fun canvas _ => .ok (toString canvas.revision)
  snapshotBucket := "workspace-snapshots"
  aiEnabled := true

/-- An editor of the workspace. -/
def exampleMember (userId : Uuid) : WorkspaceMember :=
  ⟨exampleOrg, exampleWorkspace, userId, .editor, .active⟩

/-- A canvas without elements, and no tasks. -/
def exampleDb : PlatformDb where
  workflows := [⟨exampleWorkflow, exampleOrg, none⟩]
  workspaces := [⟨exampleWorkspace, exampleOrg⟩]
  users := [exampleAlice, exampleBob]
  members :=
    ⟨[⟨exampleOrg, exampleAlice, true⟩, ⟨exampleOrg, exampleBob, true⟩],
      [exampleMember exampleAlice, exampleMember exampleBob]⟩
  canvases :=
    [⟨exampleCanvas, exampleWorkflow, some exampleWorkspace, 0, 1440, 1024, "#FFFFFF"⟩]
  objects := []
  operations := []
  sources := []
  tasks := []
  snapshots := []
  suggestions := []
  usage := ⟨[], []⟩

/-- A platform without tasks. -/
def examplePlatform : Platform := ⟨exampleDb, []⟩

/-- A body. -/
def exampleDto : CanvasAiPreviewRequestDto where
  operation := .improveCanvas
  userPrompt := "Improve this canvas"
  selectedElementIds := []
  lockedElementIds := []
  editableElementIds := []
  sourceIds := []
  desiredWidth := 1440
  desiredHeight := 1024
  autoApply := false

/-- A request of a user. -/
def exampleRequest (userId : Uuid) (key : String) : PreviewRequest where
  workspaceId := exampleWorkspace.text
  canvasId := exampleCanvas.text
  dto := exampleDto
  idempotencyKey := some key
  user := ⟨userId, exampleOrg, "viewer"⟩
  correlationId := "correlation"
  reservationId := uuid ("reservation-" ++ key)
  now := 0

end Manbaa.Jobs
