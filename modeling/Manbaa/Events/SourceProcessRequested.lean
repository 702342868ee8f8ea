import Manbaa.Events.Assertions
import Manbaa.Lib.Json

/-!
# The source processing event

The event by which the backend asks a worker to process an uploaded source.  It is created from
the ids as the caller has them, and asserted before it is emitted.
-/

namespace Manbaa.Events

open Manbaa.Lib

/-- `SOURCE_PROCESS_MIME_TYPES`. -/
def sourceProcessMimeTypes : List String :=
  ["text/plain", "text/markdown", "application/pdf",
    "application/vnd.openxmlformats-officedocument.wordprocessingml.document"]

/-- `SUBJECTS_V2.SOURCE_PROCESS_REQUESTED`. -/
def sourceProcessRequested : String := "workspace.source.process.requested"

/-- `SourceProcessRequestedEvent["payload"]`. -/
structure SourceProcessPayload where
  sourceId : String
  sourceVersionId : String
  storageBucket : String
  storageKey : String
  filename : String
  mimeType : String
  sizeBytes : ℚ
  checksumSha256 : String
  deriving DecidableEq

/-- `SourceProcessRequestedEvent`. -/
structure SourceProcessRequestedEvent where
  eventId : String
  eventType : String
  occurredAt : String
  organizationId : String
  workspaceId : String
  projectId : Option String
  correlationId : String
  causationId : Option String
  actor : Actor
  payload : SourceProcessPayload
  deriving DecidableEq

/-- `CreateSourceProcessRequestedEventInput`.  A size that is no finite number fails its
assertion. -/
structure CreateSourceProcessRequestedEventInput where
  eventId : Option String
  occurredAt : Option String
  organizationId : String
  workspaceId : String
  projectId : Option String
  correlationId : String
  causationId : Option String
  actor : Actor
  payload : SourceProcessPayload
  deriving DecidableEq

/-- The canonical path of a source version. -/
def sourceKey (organizationId workspaceId sourceId sourceVersionId filename : String) : String :=
  "organizations/" ++ (organizationId ++ ("/workspaces/" ++ (workspaceId ++ ("/sources/" ++
    (sourceId ++ ("/versions/" ++ (sourceVersionId ++ ("/" ++ filename))))))))

/-- The name of a file, and of nothing else. -/
def isSafeFilename (filename : String) : Bool :=
  filename != "" && filename.utf8ByteSize ≤ 255 && filename != "." && filename != ".." &&
    !filename.toList.contains '/' && !filename.toList.contains '\\' &&
    !hasControlCharacter filename

/-- `assertStorageKey`. -/
def assertStorageKey (value expectedKey : String) : Except Exception Unit := do
  check (value != "") (.error "payload.storage_key must be a non-empty string")
  check (value.utf8ByteSize ≤ 1024)
    (.error "payload.storage_key must be at most 1024 UTF-8 bytes")
  check (value == expectedKey)
    (.error "payload.storage_key must exactly match the canonical tenant source path")

/-- `assertSourceProcessRequestedEvent`, of a value that has the fields of an event and their
types. -/
def assertSourceProcessRequestedEvent (host : Host) (event : SourceProcessRequestedEvent) :
    Except Exception Unit := do
  assertUuid host event.eventId "event_id"
  check (event.eventType == sourceProcessRequested)
    (.error ("event_type must be " ++ sourceProcessRequested))
  assertTimezoneAwareTimestamp host event.occurredAt "occurred_at"
  assertUuid host event.organizationId "organization_id"
  assertUuid host event.workspaceId "workspace_id"
  assertNullableUuid host event.projectId "project_id"
  assertUuid host event.correlationId "correlation_id"
  assertNullableUuid host event.causationId "causation_id"
  assertActorType event.actor.type
  check (event.actor.id != "" && utf16Length event.actor.id ≤ 255)
    (.error "actor.id must be a non-empty string of at most 255 characters")
  let payload := event.payload
  assertUuid host payload.sourceId "payload.source_id"
  assertUuid host payload.sourceVersionId "payload.source_version_id"
  check (payload.storageBucket == "workspace-sources")
    (.error "payload.storage_bucket must be workspace-sources")
  check (isSafeFilename payload.filename)
    (.error "payload.filename must be a safe non-empty filename")
  assertStorageKey payload.storageKey
    (sourceKey event.organizationId event.workspaceId payload.sourceId payload.sourceVersionId
      payload.filename)
  check (sourceProcessMimeTypes.contains payload.mimeType)
    (.error "payload.mime_type is not supported")
  check (isSafeInteger payload.sizeBytes && 0 ≤ payload.sizeBytes)
    (.error "payload.size_bytes must be a non-negative safe integer")
  check (isSha256 payload.checksumSha256)
    (.error "payload.checksum_sha256 must be a lowercase SHA-256 hex digest")

/-- The event that is made of an input. -/
def CreateSourceProcessRequestedEventInput.event (host : Host)
    (input : CreateSourceProcessRequestedEventInput) : SourceProcessRequestedEvent where
  eventId := input.eventId.getD host.randomUuid
  eventType := sourceProcessRequested
  occurredAt := input.occurredAt.getD host.toISOStringNow
  organizationId := input.organizationId
  workspaceId := input.workspaceId
  projectId := input.projectId
  correlationId := input.correlationId
  causationId := input.causationId
  actor := input.actor
  payload := input.payload

/-- `createSourceProcessRequestedEvent`. -/
def createSourceProcessRequestedEvent (host : Host)
    (input : CreateSourceProcessRequestedEventInput) :
    Except Exception SourceProcessRequestedEvent := do
  assertSourceProcessRequestedEvent host (input.event host)
  return input.event host

/-- A text or null. -/
def nullable (value : Option String) : Json := value.elim .null .str

/-- The payload as a JSON value. -/
def SourceProcessPayload.json (payload : SourceProcessPayload) : Json :=
  .obj
    [("source_id", .str payload.sourceId),
      ("source_version_id", .str payload.sourceVersionId),
      ("storage_bucket", .str payload.storageBucket),
      ("storage_key", .str payload.storageKey),
      ("filename", .str payload.filename),
      ("mime_type", .str payload.mimeType),
      ("size_bytes", .num payload.sizeBytes),
      ("checksum_sha256", .str payload.checksumSha256)]

/-- The JSON of an event. -/
def SourceProcessRequestedEvent.json (event : SourceProcessRequestedEvent) : Json :=
  .obj
    [("event_id", .str event.eventId),
      ("event_type", .str event.eventType),
      ("occurred_at", .str event.occurredAt),
      ("organization_id", .str event.organizationId),
      ("workspace_id", .str event.workspaceId),
      ("project_id", nullable event.projectId),
      ("correlation_id", .str event.correlationId),
      ("causation_id", nullable event.causationId),
      ("actor", .obj [("type", .str event.actor.type), ("id", .str event.actor.id)]),
      ("payload", event.payload.json)]

variable {host : Host} {event : SourceProcessRequestedEvent}

/-- What the assertion has found. -/
structure Asserted (host : Host) (event : SourceProcessRequestedEvent) : Prop where
  eventId : host.validateUuid event.eventId = true
  eventType : event.eventType = sourceProcessRequested
  organizationId : host.validateUuid event.organizationId = true
  workspaceId : host.validateUuid event.workspaceId = true
  projectId : event.projectId.all host.validateUuid = true
  correlationId : host.validateUuid event.correlationId = true
  causationId : event.causationId.all host.validateUuid = true
  actorType : event.actor.type = "user" ∨ event.actor.type = "service"
  actorId : event.actor.id ≠ "" ∧ utf16Length event.actor.id ≤ 255
  sourceId : host.validateUuid event.payload.sourceId = true
  sourceVersionId : host.validateUuid event.payload.sourceVersionId = true
  storageBucket : event.payload.storageBucket = "workspace-sources"
  filename : isSafeFilename event.payload.filename = true
  storageKey : event.payload.storageKey ≠ "" ∧ event.payload.storageKey.utf8ByteSize ≤ 1024 ∧
    event.payload.storageKey = sourceKey event.organizationId event.workspaceId
      event.payload.sourceId event.payload.sourceVersionId event.payload.filename
  mimeType : event.payload.mimeType ∈ sourceProcessMimeTypes
  sizeBytes : isSafeInteger event.payload.sizeBytes = true ∧ 0 ≤ event.payload.sizeBytes
  checksumSha256 : isSha256 event.payload.checksumSha256 = true

theorem asserted_of_ok (ok : assertSourceProcessRequestedEvent host event = .ok ()) :
    Asserted host event := by
  simp only [assertSourceProcessRequestedEvent, assertUuid, assertNullableUuid,
    assertTimezoneAwareTimestamp, assertActorType, assertStorageKey, except_bind_eq_ok_iff,
    check_eq_ok_iff, exists_done, Bool.and_eq_true, Bool.or_eq_true, beq_iff_eq, bne_iff_ne,
    decide_eq_true_eq, List.contains_iff_mem] at ok
  obtain ⟨eventId, eventType, _, organizationId, workspaceId, projectId, correlationId, causationId,
    actorType, actorId, sourceId, sourceVersionId, storageBucket, filename,
    storageKey, mimeType, sizeBytes, checksumSha256⟩ := ok
  exact ⟨eventId, eventType, organizationId, workspaceId, projectId, correlationId, causationId,
    actorType, actorId, sourceId, sourceVersionId, storageBucket, filename, storageKey, mimeType,
    sizeBytes, checksumSha256⟩

/-- An event that is created has been asserted. -/
theorem asserted_of_created {input : CreateSourceProcessRequestedEventInput}
    (created : createSourceProcessRequestedEvent host input = .ok event) : Asserted host event := by
  obtain ⟨⟨⟩, ok, returned⟩ := except_bind_eq_ok_iff.mp created
  cases returned
  exact asserted_of_ok ok

/-- Paths of ids that are equally long are compared id by id. -/
theorem sourceKey_eq_iff {organizationId workspaceId sourceId sourceVersionId filename
    organizationId' workspaceId' sourceId' sourceVersionId' : String}
    (organization : organizationId.length = organizationId'.length)
    (workspace : workspaceId.length = workspaceId'.length)
    (source : sourceId.length = sourceId'.length)
    (version : sourceVersionId.length = sourceVersionId'.length) :
    sourceKey organizationId workspaceId sourceId sourceVersionId filename =
        sourceKey organizationId' workspaceId' sourceId' sourceVersionId' filename ↔
      organizationId = organizationId' ∧ workspaceId = workspaceId' ∧ sourceId = sourceId' ∧
        sourceVersionId = sourceVersionId' := by
  rw [sourceKey, sourceKey, String.append_right_inj, append_eq_append_iff organization,
    String.append_right_inj, append_eq_append_iff workspace, String.append_right_inj,
    append_eq_append_iff source, String.append_right_inj, append_eq_append_iff version,
    eq_self_iff_true, and_true]

end Manbaa.Events
