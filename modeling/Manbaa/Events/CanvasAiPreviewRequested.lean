import Manbaa.Events.Assertions
import Mathlib.Data.List.DropRight
import Mathlib.Data.List.Nodup
import Mathlib.Data.List.TakeWhile

/-!
# The canvas preview event

The event by which the backend asks a worker for a preview of a frozen canvas.  Its assertion
checks what the caller has put into it once more, with rules of its own.
-/

namespace Manbaa.Events

open Manbaa.Lib

/-- `CANVAS_AI_PREVIEW_OPERATIONS`. -/
def canvasAiPreviewOperations : List String :=
  ["improve_canvas", "improve_selection", "generate_component", "generate_image"]

/-- `SUBJECTS_V2.CANVAS_AI_PREVIEW_REQUESTED`. -/
def canvasAiPreviewRequested : String := "workspace.canvas.ai.preview.requested"

/-- `MAX_CANVAS_AI_ELEMENT_IDS`. -/
def maxCanvasAiElementIds : Nat := 100

/-- `MAX_CANVAS_AI_SOURCE_IDS`. -/
def maxCanvasAiSourceIds : Nat := 100

/-- `MAX_CANVAS_AI_PROMPT_CHARACTERS`. -/
def maxCanvasAiPromptCharacters : Nat := 4000

/-- `MAX_CANVAS_AI_DIMENSION`. -/
def maxCanvasAiDimension : Nat := 65536

/-- `CanvasAiPreviewRequestedEvent["payload"]`. -/
structure CanvasAiPreviewPayload where
  taskId : String
  canvasId : String
  canvasRevision : Int
  snapshotId : String
  snapshotVersion : Int
  storageBucket : String
  storageKey : String
  checksumSha256 : String
  previewStatus : String
  previewBucket : Option String
  previewKey : Option String
  previewChecksumSha256 : Option String
  operation : String
  selectedElementIds : List String
  lockedElementIds : List String
  editableElementIds : List String
  sourceIds : List String
  userPrompt : String
  desiredWidth : Int
  desiredHeight : Int
  deriving DecidableEq

/-- `CanvasAiPreviewRequestedEvent`. -/
structure CanvasAiPreviewRequestedEvent where
  eventId : String
  eventType : String
  occurredAt : String
  organizationId : String
  workspaceId : String
  projectId : Option String
  correlationId : String
  causationId : Option String
  actor : Actor
  payload : CanvasAiPreviewPayload
  deriving DecidableEq

/-! ## Field assertions -/

/-- White space and line terminators: what `\s` matches and `trim` removes. -/
def isSpace (char : Char) : Bool :=
  [0x09, 0x0A, 0x0B, 0x0C, 0x0D, 0x20, 0xA0, 0x1680, 0x2028, 0x2029, 0x202F, 0x205F, 0x3000,
    0xFEFF].contains char.toNat || (0x2000 ≤ char.toNat && char.toNat ≤ 0x200A)

/-- `value.trim()`. -/
def trim (value : String) : String :=
  String.ofList ((value.toList.dropWhile isSpace).rdropWhile isSpace)

/-- Which control characters a text may not have. -/
inductive ControlPolicy where
  | all
  | null
  deriving DecidableEq

/-- A text that passes `assertBoundedString`. -/
def isBoundedString (value : String) (maximumCharacters : Nat) (policy : ControlPolicy) : Bool :=
  !(trim value).isEmpty && value.length ≤ maximumCharacters &&
    match policy with
    | .all => !hasControlCharacter value
    | .null => !value.toList.contains (Char.ofNat 0)

/-- `assertBoundedString`. -/
def assertBoundedString (value field : String) (maximumCharacters : Nat) (policy : ControlPolicy) :
    Except Exception Unit :=
  check (isBoundedString value maximumCharacters policy)
    (.error (field ++ " must be a safe string of at most " ++ toString maximumCharacters ++
      " characters"))

/-- The pattern of element ids. -/
def isElementId (item : String) : Bool :=
  match item.toList with
  | [] => false
  | first :: rest =>
      first.isAlphanum && rest.length ≤ 127 &&
        rest.all fun char => char.isAlphanum || ['_', '.', ':', '-'].contains char

/-- `assertElementIds`. -/
def assertElementIds (value : List String) (field : String) : Except Exception Unit := do
  check (value.length ≤ maxCanvasAiElementIds)
    (.error (field ++ " must be an array of at most " ++ toString maxCanvasAiElementIds ++ " IDs"))
  check (value.all isElementId) (.error (field ++ " contains an unsafe element ID"))
  check (decide value.Nodup) (.error (field ++ " must not contain duplicate IDs"))

/-- The items from a position on pass `assertUuid`. -/
def assertUuidsFrom (host : Host) (field : String) : Nat → List String → Except Exception Unit
  | _, [] => .ok ()
  | index, item :: rest => do
      assertUuid host item (field ++ "[" ++ toString index ++ "]")
      assertUuidsFrom host field (index + 1) rest

/-- `assertSourceIds`. -/
def assertSourceIds (host : Host) (value : List String) (field : String) :
    Except Exception Unit := do
  check (value.length ≤ maxCanvasAiSourceIds)
    (.error (field ++ " must be an array of at most " ++ toString maxCanvasAiSourceIds ++ " IDs"))
  assertUuidsFrom host field 0 value
  check (decide value.Nodup) (.error (field ++ " must not contain duplicate IDs"))

/-- `assertDimension`. -/
def assertDimension (value : Int) (field : String) : Except Exception Unit :=
  check (1 ≤ value && value ≤ maxCanvasAiDimension)
    (.error (field ++ " must be an integer between 1 and " ++ toString maxCanvasAiDimension))

/-- `assertPositiveSafeInteger`. -/
def assertPositiveSafeInteger (value : Int) (field : String) : Except Exception Unit :=
  check (value.natAbs ≤ maxSafeInteger && 0 < value)
    (.error (field ++ " must be a positive safe integer"))

/-- `assertNonnegativeSafeInteger`. -/
def assertNonnegativeSafeInteger (value : Int) (field : String) : Except Exception Unit :=
  check (value.natAbs ≤ maxSafeInteger && 0 ≤ value)
    (.error (field ++ " must be a non-negative safe integer"))

/-- `assertSha256`. -/
def assertSha256 (value field : String) : Except Exception Unit :=
  check (isSha256 value) (.error (field ++ " must be a lowercase SHA-256 hex digest"))

/-- `snapshotKey`. -/
def snapshotKey (organizationId workspaceId canvasId snapshotId : String) (snapshotVersion : Int) :
    String :=
  "organizations/" ++ (organizationId ++ ("/workspaces/" ++ (workspaceId ++ ("/canvases/" ++
    (canvasId ++ ("/snapshots/" ++ (snapshotId ++ ("/snapshot-v" ++
      (toString snapshotVersion ++ ".json")))))))))

/-- `previewKey`. -/
def previewKey (organizationId workspaceId canvasId snapshotId : String) (snapshotVersion : Int) :
    String :=
  "organizations/" ++ (organizationId ++ ("/workspaces/" ++ (workspaceId ++ ("/canvases/" ++
    (canvasId ++ ("/snapshots/" ++ (snapshotId ++ ("/preview-v" ++
      (toString snapshotVersion ++ ".png")))))))))

/-- `assertPreviewFields`. -/
def assertPreviewFields (event : CanvasAiPreviewRequestedEvent) : Except Exception Unit :=
  let payload := event.payload
  if payload.previewStatus = "pending" then
    check (payload.previewBucket == none && payload.previewKey == none &&
        payload.previewChecksumSha256 == none)
      (.error "pending preview fields must not claim an unavailable artifact")
  else do
    check (payload.previewStatus == "available")
      (.error "payload.preview_status must be available or pending")
    check (payload.previewBucket == some "workspace-previews")
      (.error "available payload.preview_bucket must be workspace-previews")
    check (payload.previewKey == some (previewKey event.organizationId event.workspaceId
        payload.canvasId payload.snapshotId payload.snapshotVersion))
      (.error "payload.preview_key must exactly match the canonical tenant preview path")
    check (payload.previewChecksumSha256.any isSha256)
      (.error "payload.preview_checksum_sha256 must be a lowercase SHA-256 hex digest")

/-! ## The assertion -/

/-- `assertCanvasAiPreviewRequestedEvent`, of a value that has the fields of an event and their
types. -/
def assertCanvasAiPreviewRequestedEvent (host : Host) (event : CanvasAiPreviewRequestedEvent) :
    Except Exception Unit := do
  assertUuid host event.eventId "event_id"
  check (event.eventType == canvasAiPreviewRequested)
    (.error ("event_type must be " ++ canvasAiPreviewRequested))
  assertTimezoneAwareTimestamp host event.occurredAt "occurred_at"
  assertUuid host event.organizationId "organization_id"
  assertUuid host event.workspaceId "workspace_id"
  assertNullableUuid host event.projectId "project_id"
  assertUuid host event.correlationId "correlation_id"
  assertNullableUuid host event.causationId "causation_id"
  assertActorType event.actor.type
  assertBoundedString event.actor.id "actor.id" 255 .all
  let payload := event.payload
  assertUuid host payload.taskId "payload.task_id"
  assertUuid host payload.canvasId "payload.canvas_id"
  assertNonnegativeSafeInteger payload.canvasRevision "payload.canvas_revision"
  assertUuid host payload.snapshotId "payload.snapshot_id"
  assertPositiveSafeInteger payload.snapshotVersion "payload.snapshot_version"
  check (payload.storageBucket == "workspace-snapshots")
    (.error "payload.storage_bucket must be workspace-snapshots")
  check (payload.storageKey == snapshotKey event.organizationId event.workspaceId payload.canvasId
      payload.snapshotId payload.snapshotVersion)
    (.error "payload.storage_key must exactly match the canonical tenant snapshot path")
  assertSha256 payload.checksumSha256 "payload.checksum_sha256"
  assertPreviewFields event
  check (canvasAiPreviewOperations.contains payload.operation)
    (.error "payload.operation is not supported")
  assertElementIds payload.selectedElementIds "payload.selected_element_ids"
  assertElementIds payload.lockedElementIds "payload.locked_element_ids"
  assertElementIds payload.editableElementIds "payload.editable_element_ids"
  check (!payload.editableElementIds.any payload.lockedElementIds.contains)
    (.error ("payload.locked_element_ids and payload.editable_element_ids must not overlap"))
  assertSourceIds host payload.sourceIds "payload.source_ids"
  assertBoundedString payload.userPrompt "payload.user_prompt" maxCanvasAiPromptCharacters .null
  assertDimension payload.desiredWidth "payload.desired_width"
  assertDimension payload.desiredHeight "payload.desired_height"

variable {host : Host} {event : CanvasAiPreviewRequestedEvent}

/-! ## Texts -/

/-- A text is blank exactly if it has no character but white space. -/
theorem trim_isEmpty_iff {value : String} :
    (trim value).isEmpty = true ↔ ∀ char ∈ value.toList, isSpace char = true := by
  have emptyIff : (trim value).isEmpty = true ↔
      (value.toList.dropWhile isSpace).rdropWhile isSpace = [] := by
    rw [trim, String.isEmpty_iff, ← String.toList_eq_nil_iff, String.toList_ofList]
  have nilIff : value.toList.dropWhile isSpace = [] ↔ ∀ char ∈ value.toList, isSpace char = true :=
    List.dropWhile_eq_nil_iff
  rw [emptyIff, List.rdropWhile_eq_nil_iff, ← nilIff]
  constructor
  · intro allSpace
    by_contra nonEmpty
    have notSpace := List.head_dropWhile_not isSpace nonEmpty
    rw [allSpace _ (List.head_mem nonEmpty)] at notSpace
    cases notSpace
  · intro isNil char mem
    rw [isNil] at mem
    cases mem

theorem assertUuidsFrom_eq_ok_iff {field : String} {index : Nat} {items : List String} :
    assertUuidsFrom host field index items = .ok () ↔
      ∀ item ∈ items, host.validateUuid item = true := by
  induction items generalizing index with
  | nil => exact iff_of_true rfl nofun
  | cons item rest ih =>
      rw [assertUuidsFrom, except_bind_eq_ok_iff]
      simp only [assertUuid, check_eq_ok_iff, exists_done, ih, List.forall_mem_cons]

/-- Paths of one organization and snapshot are compared id by id where the ids are equally
long. -/
theorem snapshotKey_eq_iff {organizationId workspaceId canvasId workspaceId' canvasId' snapshotId :
    String} {snapshotVersion : Int} (workspace : workspaceId.length = workspaceId'.length)
    (canvas : canvasId.length = canvasId'.length) :
    snapshotKey organizationId workspaceId canvasId snapshotId snapshotVersion =
        snapshotKey organizationId workspaceId' canvasId' snapshotId snapshotVersion ↔
      workspaceId = workspaceId' ∧ canvasId = canvasId' := by
  rw [snapshotKey, snapshotKey, String.append_right_inj, String.append_right_inj,
    String.append_right_inj, append_eq_append_iff workspace, String.append_right_inj,
    append_eq_append_iff canvas, eq_self_iff_true, and_true]

/-! ## What the assertion finds -/

/-- The ids of a list of elements pass their assertion. -/
structure ElementIds (ids : List String) : Prop where
  count : ids.length ≤ maxCanvasAiElementIds
  safe : ∀ id ∈ ids, isElementId id = true
  nodup : ids.Nodup

/-- An event with a preview to come passes its assertion. -/
structure PendingPreview (host : Host) (event : CanvasAiPreviewRequestedEvent) : Prop where
  eventId : host.validateUuid event.eventId = true
  eventType : event.eventType = canvasAiPreviewRequested
  occurredAt : (host.dateParse event.occurredAt).isSome ∧ endsWithZone event.occurredAt = true
  organizationId : host.validateUuid event.organizationId = true
  workspaceId : host.validateUuid event.workspaceId = true
  projectId : event.projectId.all host.validateUuid = true
  correlationId : host.validateUuid event.correlationId = true
  causationId : event.causationId.all host.validateUuid = true
  actorType : event.actor.type = "user" ∨ event.actor.type = "service"
  actorId : isBoundedString event.actor.id 255 .all = true
  taskId : host.validateUuid event.payload.taskId = true
  canvasId : host.validateUuid event.payload.canvasId = true
  canvasRevision : event.payload.canvasRevision.natAbs ≤ maxSafeInteger ∧
    0 ≤ event.payload.canvasRevision
  snapshotId : host.validateUuid event.payload.snapshotId = true
  snapshotVersion : event.payload.snapshotVersion.natAbs ≤ maxSafeInteger ∧
    0 < event.payload.snapshotVersion
  storageBucket : event.payload.storageBucket = "workspace-snapshots"
  storageKey : event.payload.storageKey = snapshotKey event.organizationId event.workspaceId
    event.payload.canvasId event.payload.snapshotId event.payload.snapshotVersion
  checksumSha256 : isSha256 event.payload.checksumSha256 = true
  preview : event.payload.previewBucket = none ∧ event.payload.previewKey = none ∧
    event.payload.previewChecksumSha256 = none
  operation : event.payload.operation ∈ canvasAiPreviewOperations
  selectedElementIds : ElementIds event.payload.selectedElementIds
  lockedElementIds : ElementIds event.payload.lockedElementIds
  editableElementIds : ElementIds event.payload.editableElementIds
  disjoint : event.payload.editableElementIds.any event.payload.lockedElementIds.contains = false
  sourceIds : event.payload.sourceIds.length ≤ maxCanvasAiSourceIds ∧
    (∀ id ∈ event.payload.sourceIds, host.validateUuid id = true) ∧ event.payload.sourceIds.Nodup
  userPrompt : isBoundedString event.payload.userPrompt maxCanvasAiPromptCharacters .null = true
  desiredWidth : 1 ≤ event.payload.desiredWidth ∧ event.payload.desiredWidth ≤ maxCanvasAiDimension
  desiredHeight : 1 ≤ event.payload.desiredHeight ∧
    event.payload.desiredHeight ≤ maxCanvasAiDimension

theorem assertElementIds_eq_ok_iff {ids : List String} {field : String} :
    assertElementIds ids field = .ok () ↔ ElementIds ids := by
  simp only [assertElementIds, except_bind_eq_ok_iff, check_eq_ok_iff, exists_done,
    decide_eq_true_eq, List.all_eq_true]
  constructor
  · rintro ⟨count, safe, nodup⟩
    exact ⟨count, safe, nodup⟩
  · rintro ⟨count, safe, nodup⟩
    exact ⟨count, safe, nodup⟩

theorem assertSourceIds_eq_ok_iff {ids : List String} {field : String} :
    assertSourceIds host ids field = .ok () ↔
      ids.length ≤ maxCanvasAiSourceIds ∧ (∀ id ∈ ids, host.validateUuid id = true) ∧ ids.Nodup := by
  simp only [assertSourceIds, except_bind_eq_ok_iff, check_eq_ok_iff, exists_done,
    assertUuidsFrom_eq_ok_iff, decide_eq_true_eq]

theorem assertPreviewFields_eq_ok_iff (pending : event.payload.previewStatus = "pending") :
    assertPreviewFields event = .ok () ↔
      event.payload.previewBucket = none ∧ event.payload.previewKey = none ∧
        event.payload.previewChecksumSha256 = none := by
  simp only [assertPreviewFields, pending, if_true, check_eq_ok_iff, Bool.and_eq_true, beq_iff_eq,
    and_assoc]

/-- An event with a preview to come is accepted exactly if it passes every part of the
assertion. -/
theorem assertCanvasAiPreviewRequestedEvent_eq_ok_iff
    (pending : event.payload.previewStatus = "pending") :
    assertCanvasAiPreviewRequestedEvent host event = .ok () ↔ PendingPreview host event := by
  simp only [assertCanvasAiPreviewRequestedEvent, assertUuid, assertNullableUuid,
    assertTimezoneAwareTimestamp, assertActorType, assertBoundedString,
    assertNonnegativeSafeInteger, assertPositiveSafeInteger, assertSha256, assertDimension,
    except_bind_eq_ok_iff, check_eq_ok_iff, exists_done, assertElementIds_eq_ok_iff,
    assertSourceIds_eq_ok_iff, assertPreviewFields_eq_ok_iff pending, Bool.and_eq_true,
    Bool.or_eq_true, beq_iff_eq, decide_eq_true_eq, List.contains_iff_mem, Bool.not_eq_true']
  constructor
  · rintro ⟨eventId, eventType, occurredAt, organizationId, workspaceId, projectId, correlationId,
      causationId, actorType, actorId, taskId, canvasId, canvasRevision, snapshotId,
      snapshotVersion, storageBucket, storageKey, checksumSha256, preview, operation,
      selectedElementIds, lockedElementIds, editableElementIds, disjoint, sourceIds, userPrompt,
      desiredWidth, desiredHeight⟩
    exact ⟨eventId, eventType, occurredAt, organizationId, workspaceId, projectId, correlationId,
      causationId, actorType, actorId, taskId, canvasId, canvasRevision, snapshotId,
      snapshotVersion, storageBucket, storageKey, checksumSha256, preview, operation,
      selectedElementIds, lockedElementIds, editableElementIds, disjoint, sourceIds, userPrompt,
      desiredWidth, desiredHeight⟩
  · rintro ⟨eventId, eventType, occurredAt, organizationId, workspaceId, projectId, correlationId,
      causationId, actorType, actorId, taskId, canvasId, canvasRevision, snapshotId,
      snapshotVersion, storageBucket, storageKey, checksumSha256, preview, operation,
      selectedElementIds, lockedElementIds, editableElementIds, disjoint, sourceIds, userPrompt,
      desiredWidth, desiredHeight⟩
    exact ⟨eventId, eventType, occurredAt, organizationId, workspaceId, projectId, correlationId,
      causationId, actorType, actorId, taskId, canvasId, canvasRevision, snapshotId,
      snapshotVersion, storageBucket, storageKey, checksumSha256, preview, operation,
      selectedElementIds, lockedElementIds, editableElementIds, disjoint, sourceIds, userPrompt,
      desiredWidth, desiredHeight⟩

end Manbaa.Events
