import Manbaa.Core.Http
import Manbaa.Lib.Effect
import Manbaa.Lib.Except
import Manbaa.Lib.Json
import Manbaa.Lib.Table

/-!
# The lifecycle of a source

A source is uploaded with its first version, and the worker reports in events how the
processing of the version goes on.  The handler of an event reads the receipts of earlier
events, asks what the token says, and then, in one transaction, reads the receipts again,
leaves a receipt and moves the version and its source.

The identifiers in an event are texts that a client wrote; those of the tables are what the
columns return.  The outbox row of an upload and the notifications that follow a
transaction are left out.
-/

namespace Manbaa.Sources

open Manbaa.Lib Manbaa.Lib.Effect

/-! ## Entities -/

/-- How far the processing of a version has come. -/
inductive SourceProcessingStatus where
  | pending
  | processing
  | extracted
  | indexed
  | failed
  deriving DecidableEq

/-- The status of a source. -/
inductive SourceStatus where
  | pending
  | processing
  | extracted
  | indexed
  | failed
  deriving DecidableEq

/-- A row of `source`. -/
structure Source where
  id : Uuid
  organizationId : Uuid
  workspaceId : Uuid
  projectId : Option Uuid
  name : String
  status : SourceStatus
  currentVersionId : Option Uuid
  createdBy : Uuid
  deletedAt : Option Nat
  deriving DecidableEq

/-- A row of `source_version`. -/
structure SourceVersion where
  id : Uuid
  sourceId : Uuid
  organizationId : Uuid
  workspaceId : Uuid
  versionNumber : Nat
  storageBucket : String
  storageKey : String
  filename : String
  mimeType : String
  sizeBytes : Nat
  checksumSha256 : String
  processingStatus : SourceProcessingStatus
  extractedAt : Option Nat
  indexedAt : Option Nat
  failureCode : Option String
  failureMessage : Option String
  createdBy : Uuid
  deriving DecidableEq

/-- A row of `source_lifecycle_event`: the receipt of an event. -/
structure SourceLifecycleEvent where
  eventId : Uuid
  eventType : String
  organizationId : Uuid
  workspaceId : Uuid
  sourceId : Uuid
  sourceVersionId : Uuid
  tokenJti : String
  deriving DecidableEq

/-- The tables of the sources. -/
structure SourceDb where
  sources : List Source
  versions : List SourceVersion
  receipts : List SourceLifecycleEvent
  deriving DecidableEq

/-- A computation on the tables of the sources. -/
abbrev Statements := Effect SourceDb Exception

/-- The row of a source. -/
def SourceDb.source? (db : SourceDb) (id : Uuid) : Option Source :=
  Table.get? Source.id db.sources id

/-- The row of a version. -/
def SourceDb.version? (db : SourceDb) (id : Uuid) : Option SourceVersion :=
  Table.get? SourceVersion.id db.versions id

/-- The receipt of an event. -/
def SourceDb.receipt? (db : SourceDb) (eventId : Uuid) : Option SourceLifecycleEvent :=
  Table.get? SourceLifecycleEvent.eventId db.receipts eventId

/-- Save a source. -/
def saveSource (source : Source) : Statements Unit :=
  writing fun db => { db with sources := Table.save Source.id db.sources source }

/-- Save a version. -/
def saveVersion (version : SourceVersion) : Statements Unit :=
  writing fun db => { db with versions := Table.save SourceVersion.id db.versions version }

/-- Save a receipt.  A token has one receipt. -/
def saveReceipt (receipt : SourceLifecycleEvent) : Statements Unit := do
  let taken ← reading fun db => db.receipts.any fun other =>
    other.eventId != receipt.eventId && other.tokenJti == receipt.tokenJti
  require (!taken) (.queryFailed (.uniqueViolation "uq_source_lifecycle_token_jti"))
  writing fun db =>
    { db with receipts := Table.save SourceLifecycleEvent.eventId db.receipts receipt }

/-! ## Uploads -/

/-- What `upload` stores, when the file has been checked and put into the object storage,
with the identifiers that it makes. -/
structure Upload where
  user : RequestUser
  workspaceId : Uuid
  projectId : Option Uuid
  filename : String
  mimeType : String
  sizeBytes : Nat
  bucket : String
  key : String
  checksumSha256 : String
  sourceId : Uuid
  sourceVersionId : Uuid

/-- The source of an upload. -/
def Upload.source (request : Upload) (currentVersionId : Option Uuid) : Source :=
  { id := request.sourceId
    organizationId := request.user.orgId
    workspaceId := request.workspaceId
    projectId := request.projectId
    name := request.filename
    status := .pending
    currentVersionId := currentVersionId
    createdBy := request.user.id
    deletedAt := none }

/-- The version of an upload. -/
def Upload.version (request : Upload) : SourceVersion :=
  { id := request.sourceVersionId
    sourceId := request.sourceId
    organizationId := request.user.orgId
    workspaceId := request.workspaceId
    versionNumber := 1
    storageBucket := request.bucket
    storageKey := request.key
    filename := request.filename
    mimeType := request.mimeType
    sizeBytes := request.sizeBytes
    checksumSha256 := request.checksumSha256
    processingStatus := .pending
    extractedAt := none
    indexedAt := none
    failureCode := none
    failureMessage := none
    createdBy := request.user.id }

/-- The transaction of `upload`. -/
def upload (request : Upload) : Statements Unit := do
  require (request.bucket == "workspace-sources")
    (.badRequest "Source storage bucket must be workspace-sources")
  transaction do
    saveSource (request.source none)
    saveVersion request.version
    saveSource (request.source (some request.sourceVersionId))

/-! ## Events -/

/-- What an event says about a version. -/
inductive SourceLifecycleKind where
  | processing
  | extracted
  | indexed
  | failed
  deriving DecidableEq

/-- The text of a kind, in the actions of a token. -/
def SourceLifecycleKind.text : SourceLifecycleKind → String
  | .processing => "processing"
  | .extracted => "extracted"
  | .indexed => "indexed"
  | .failed => "failed"

/-- `LIFECYCLE_SUBJECTS`. -/
def SourceLifecycleKind.subject : SourceLifecycleKind → String
  | .processing => "workspace.source.processing"
  | .extracted => "workspace.source.extracted"
  | .indexed => "workspace.source.indexed"
  | .failed => "workspace.source.failed"

/-- An event that has passed the assertions of the handler. -/
structure LifecycleEvent where
  eventId : String
  eventType : String
  organizationId : String
  workspaceId : String
  correlationId : String
  timestamp : Nat
  sourceId : String
  sourceVersionId : String
  internalToken : String
  errorCode : Option String
  errorMessage : Option String
  deriving DecidableEq

/-- `validate` of the `uuid` package, and `Date.parse`. -/
structure Host where
  validateUuid : String → Bool
  parseDate : String → Option Nat

/-- The fields of an object. -/
def asObject (value : Option Json) (message : String) : Except Exception Json.Fields :=
  match value with
  | some (.obj fields) => .ok fields
  | _ => .error (.error message)

/-- A field that `assertDomainEvent` requires. -/
def requiredString (event : Json.Fields) (field : String) : Except Exception String :=
  match event.lookup field with
  | some (.str text) =>
      if text = "" then .error (.error ("Domain event " ++ field ++ " must be a non-empty string"))
      else .ok text
  | _ => .error (.error ("Domain event " ++ field ++ " must be a non-empty string"))

/-- An integer that is not below a bound. -/
def isIntegerFrom (least : Int) : Option Json → Bool
  | some (.num value) => value.den == 1 && decide (least ≤ value.num)
  | _ => false

/-- `assertUuid`, for a value of any kind. -/
def assertUuid (host : Host) (value : Option Json) (field : String) : Except Exception String :=
  match value with
  | some (.str text) =>
      if host.validateUuid text then .ok text
      else .error (.error ("Source lifecycle " ++ field ++ " must be a UUID"))
  | _ => .error (.error ("Source lifecycle " ++ field ++ " must be a UUID"))

/-- The fields that a payload may have. -/
def allowedFields : List String :=
  ["sourceId", "sourceVersionId", "internalToken", "projectId", "actor", "chunkCount",
    "indexedCount", "deliveryCount", "errorCode", "errorMessage"]

/-- The actor of a payload is absent or well formed. -/
def actorValid : Option Json → Bool
  | none => true
  | some (.obj fields) =>
      (fields.lookup "type" == some (.str "user") || fields.lookup "type" == some (.str "service")) &&
        (match fields.lookup "id" with
          | some (.str id) => id != ""
          | _ => false) &&
        fields.all fun field => field.1 == "type" || field.1 == "id"
  | some _ => false

/-- The largest safe integer. -/
def maxSafeInteger : Int := 9007199254740991

/-- A count of a payload is absent or a safe integer that is not negative. -/
def assertCount (payload : Json.Fields) (field : String) : Except Exception Unit :=
  let value := payload.lookup field
  let safe := match value with
    | some (.num count) => decide (count.num ≤ maxSafeInteger)
    | _ => false
  check (value.isNone || isIntegerFrom 0 value && safe)
    (.error ("Source lifecycle " ++ field ++ " must be a non-negative integer"))

/-- A text of a payload is absent or a text. -/
def optionalString (payload : Json.Fields) (field : String) : Except Exception (Option String) :=
  match payload.lookup field with
  | none => .ok none
  | some (.str text) => .ok (some text)
  | some _ => .error (.error ("Source lifecycle " ++ field ++ " must be a string"))

/-- The token of a payload. -/
def readToken (payload : Json.Fields) : Except Exception String :=
  match payload.lookup "internalToken" with
  | some (.str token) =>
      if token = "" then .error (.error "Source lifecycle event requires internalToken")
      else .ok token
  | _ => .error (.error "Source lifecycle event requires internalToken")

/-- `assertPayload`, which returns what the handler reads of the payload. -/
def assertPayload (host : Host) (payload : Json.Fields) :
    Except Exception (String × Option String × Option String) := do
  check (payload.all fun field => allowedFields.contains field.1)
    (.error "Source lifecycle payload contains an unknown field")
  let token ← readToken payload
  if (payload.lookup "projectId").any fun value => value != .null then
    let _ ← assertUuid host (payload.lookup "projectId") "projectId"
  check (actorValid (payload.lookup "actor")) (.error "Source lifecycle actor is invalid")
  assertCount payload "chunkCount"
  assertCount payload "indexedCount"
  assertCount payload "deliveryCount"
  let errorCode ← optionalString payload "errorCode"
  let errorMessage ← optionalString payload "errorMessage"
  pure (token, errorCode, errorMessage)

/-- A value that counts as true in a condition. -/
def truthy : Option Json → Bool
  | none | some .null | some (.bool false) => false
  | some (.num value) => value != 0
  | some (.str text) => text != ""
  | some _ => true

/-- `assertDomainEvent`, which returns the payload and the date. -/
def assertDomainEvent (host : Host) (event : Json.Fields) :
    Except Exception (Json.Fields × Nat) := do
  let _ ← requiredString event "eventId"
  let _ ← requiredString event "eventType"
  let _ ← requiredString event "organizationId"
  let _ ← requiredString event "userId"
  let _ ← requiredString event "correlationId"
  let timestamp ← requiredString event "timestamp"
  check (isIntegerFrom 1 (event.lookup "schemaVersion"))
    (.error "Domain event schemaVersion must be a positive integer")
  let payload ← asObject (event.lookup "payload") "Domain event payload must be an object"
  let date ← lookUp (host.parseDate timestamp)
    (.error "Domain event timestamp must be ISO-8601 compatible")
  pure (payload, date)

/-- What the handler asserts about an event before it reads anything. -/
def readEvent (host : Host) (kind : SourceLifecycleKind) (value : Json) :
    Except Exception LifecycleEvent := do
  let event ← asObject (some value) "Domain event must be an object"
  let (payload, date) ← assertDomainEvent host event
  let eventType ← requiredString event "eventType"
  check (eventType == kind.subject) (.error "Source lifecycle event type mismatch")
  check (truthy (event.lookup "workspaceId"))
    (.error "Source lifecycle event requires workspace scope")
  let eventId ← assertUuid host (event.lookup "eventId") "eventId"
  let organizationId ← assertUuid host (event.lookup "organizationId") "organizationId"
  let workspaceId ← assertUuid host (event.lookup "workspaceId") "workspaceId"
  let sourceId ← assertUuid host (payload.lookup "sourceId") "sourceId"
  let sourceVersionId ← assertUuid host (payload.lookup "sourceVersionId") "sourceVersionId"
  let (token, errorCode, errorMessage) ← assertPayload host payload
  let correlationId ← requiredString event "correlationId"
  pure
    { eventId := eventId
      eventType := eventType
      organizationId := organizationId
      workspaceId := workspaceId
      correlationId := correlationId
      timestamp := date
      sourceId := sourceId
      sourceVersionId := sourceVersionId
      internalToken := token
      errorCode := errorCode
      errorMessage := errorMessage }

/-! ## The handler -/

/-- `InternalServiceClaims`, as far as the handler reads them. -/
structure InternalServiceClaims where
  service : String
  organizationId : String
  workspaceId : Option String
  correlationId : String
  allowedActions : List String
  jti : Option String
  deriving DecidableEq

/-- The token allows the event. -/
def LifecycleEvent.authorized (event : LifecycleEvent) (kind : SourceLifecycleKind)
    (claims : InternalServiceClaims) : Bool :=
  claims.service == "document-worker" && claims.organizationId == event.organizationId &&
    claims.workspaceId == some event.workspaceId && claims.correlationId == event.correlationId &&
    claims.allowedActions.contains ("source." ++ kind.text)

/-- The identifier of a token, if it is valid. -/
def validJti (claims : InternalServiceClaims) : Option String :=
  claims.jti.filter fun jti => jti != "" && decide (jti.length ≤ 255)

/-- `assertReceiptScope`. -/
def SourceLifecycleEvent.matches (receipt : SourceLifecycleEvent) (event : LifecycleEvent) :
    Bool :=
  receipt.eventType == event.eventType && receipt.organizationId.text == event.organizationId &&
    receipt.workspaceId.text == event.workspaceId && receipt.sourceId.text == event.sourceId &&
    receipt.sourceVersionId.text == event.sourceVersionId

/-- The receipt of an event. -/
def LifecycleEvent.receipt (event : LifecycleEvent) (jti : String) : SourceLifecycleEvent :=
  { eventId := uuid event.eventId
    eventType := event.eventType
    organizationId := uuid event.organizationId
    workspaceId := uuid event.workspaceId
    sourceId := uuid event.sourceId
    sourceVersionId := uuid event.sourceVersionId
    tokenJti := jti }

/-- What becomes of an event. -/
inductive TransitionOutcome where
  | changed
  | ignored
  | retry
  deriving DecidableEq

/-- `statusFor`. -/
def SourceLifecycleKind.status : SourceLifecycleKind → SourceProcessingStatus
  | .processing => .processing
  | .extracted => .extracted
  | .indexed => .indexed
  | .failed => .failed

/-- `sourceStatusFor`. -/
def SourceLifecycleKind.sourceStatus : SourceLifecycleKind → SourceStatus
  | .processing => .processing
  | .extracted => .extracted
  | .indexed => .indexed
  | .failed => .failed

/-- The order of the statuses. -/
def order : List SourceProcessingStatus := [.pending, .processing, .extracted, .indexed]

/-- What `applyTransition` decides from the status of the current version. -/
def transitionFor (kind : SourceLifecycleKind) (current : SourceProcessingStatus) :
    TransitionOutcome :=
  if current = kind.status then .ignored
  else if kind = .failed then
    if current = .failed ∨ current = .indexed then .ignored else .changed
  else if current = .failed then .ignored
  else if order.idxOf kind.status < order.idxOf current then .ignored
  else if order.idxOf kind.status > order.idxOf current + 1 then .retry
  else .changed

/-- `applyTransition`, without its changes. -/
def applyTransition (kind : SourceLifecycleKind) (source : Source) (version : SourceVersion) :
    TransitionOutcome :=
  if source.currentVersionId ≠ some version.id then .ignored
  else transitionFor kind version.processingStatus

/-- The first characters of a text. -/
def firstChars (length : Nat) (text : String) : String := String.ofList (text.toList.take length)

/-- What a change makes of the version. -/
def SourceVersion.move (version : SourceVersion) (kind : SourceLifecycleKind)
    (event : LifecycleEvent) : SourceVersion :=
  let moved := { version with processingStatus := kind.status }
  match kind with
  | .processing => moved
  | .extracted => { moved with extractedAt := some event.timestamp }
  | .indexed => { moved with indexedAt := some event.timestamp }
  | .failed =>
      { moved with
        failureCode := some (firstChars 100 (event.errorCode.getD "SOURCE_PROCESSING_FAILED"))
        failureMessage :=
          some (firstChars 1000 (event.errorMessage.getD "Source processing failed")) }

/-- What a change makes of the source. -/
def Source.move (source : Source) (kind : SourceLifecycleKind) : Source :=
  { source with status := kind.sourceStatus }

/-- The source that an event is about. -/
def SourceDb.eventSource? (db : SourceDb) (event : LifecycleEvent) : Option Source :=
  (db.source? (uuid event.sourceId)).filter fun source =>
    source.organizationId == uuid event.organizationId &&
      source.workspaceId == uuid event.workspaceId && source.deletedAt.isNone

/-- The version that an event is about. -/
def SourceDb.eventVersion? (db : SourceDb) (event : LifecycleEvent) : Option SourceVersion :=
  (db.version? (uuid event.sourceVersionId)).filter fun version =>
    version.sourceId == uuid event.sourceId &&
      version.organizationId == uuid event.organizationId &&
      version.workspaceId == uuid event.workspaceId

/-- An event that has been admitted to the transaction of the handler. -/
structure Admitted where
  kind : SourceLifecycleKind
  event : LifecycleEvent
  jti : String
  deriving DecidableEq

/-- `handle` up to its transaction: nothing is left to do if there is a receipt. -/
def admission (host : Host) (kind : SourceLifecycleKind) (value : Json)
    (verified : Except Exception InternalServiceClaims) : Statements (Option Admitted) := do
  let event ← asking fun _ => readEvent host kind value
  let existing ← reading fun db => db.receipt? (uuid event.eventId)
  match existing with
  | some receipt => do
      require (receipt.matches event) (.error "Source lifecycle event ID scope mismatch")
      pure none
  | none => do
      let claims ← asking fun _ => verified
      require (event.authorized kind claims)
        (.error "Source lifecycle event authorization mismatch")
      let jti ← orThrow (validJti claims) (.error "Source lifecycle token jti is invalid")
      pure (some ⟨kind, event, jti⟩)

/-- What the transaction does with the rows that it has found, and whether it has changed
them. -/
def applyEvent (admitted : Admitted) (source : Source) (version : SourceVersion) :
    Statements Bool :=
  match applyTransition admitted.kind source version with
  | .retry => throwing (.error "Source lifecycle event arrived before its prerequisite")
  | .ignored => do
      saveReceipt (admitted.event.receipt admitted.jti)
      pure false
  | .changed => do
      saveReceipt (admitted.event.receipt admitted.jti)
      saveVersion (version.move admitted.kind admitted.event)
      saveSource (source.move admitted.kind)
      pure true

/-- The body of the transaction of `handle`. -/
def settleEvent (admitted : Admitted) : Statements Bool := do
  let racedReceipt ← reading fun db => db.receipt? (uuid admitted.event.eventId)
  match racedReceipt with
  | some receipt => do
      require (receipt.matches admitted.event) (.error "Source lifecycle event ID scope mismatch")
      pure false
  | none => do
      let source ← reading fun db => db.eventSource? admitted.event
      let version ← reading fun db => db.eventVersion? admitted.event
      match source, version with
      | some source, some version => applyEvent admitted source version
      | _, _ => pure false

/-- The transaction of `handle`. -/
def settle (admitted : Admitted) : Statements Bool := transaction (settleEvent admitted)

/-- `handle`. -/
def handle (host : Host) (kind : SourceLifecycleKind) (value : Json)
    (verified : Except Exception InternalServiceClaims) : Statements Bool := do
  let admitted ← admission host kind value verified
  match admitted with
  | none => pure false
  | some admitted => settle admitted

/-! ## What the transaction does -/

variable {kind : SourceLifecycleKind} {current : SourceProcessingStatus} {source : Source}
  {version : SourceVersion} {admitted : Admitted} {db target : SourceDb} {changed : Bool}

/-- A change takes the next status in the order, or fails what has not ended. -/
theorem transitionFor_eq_changed_iff : transitionFor kind current = .changed ↔
    kind = .processing ∧ current = .pending ∨ kind = .extracted ∧ current = .processing ∨
      kind = .indexed ∧ current = .extracted ∨
      kind = .failed ∧ current ≠ .indexed ∧ current ≠ .failed := by
  cases kind <;> cases current <;> decide

/-- An event is tried again as long as a status before its own is not reached. -/
theorem transitionFor_eq_retry_iff : transitionFor kind current = .retry ↔
    kind = .extracted ∧ current = .pending ∨
      kind = .indexed ∧ (current = .pending ∨ current = .processing) := by
  cases kind <;> cases current <;> decide

theorem applyTransition_of_current (same : source.currentVersionId = some version.id) :
    applyTransition kind source version = transitionFor kind version.processingStatus :=
  if_neg (not_not.mpr same)

/-- The receipt that a save writes is new if the event has none. -/
theorem saveReceipt_eq_ok_iff {receipt : SourceLifecycleEvent} {done : Unit} :
    saveReceipt receipt db = (.ok done, target) ↔
      (∀ other ∈ db.receipts, other.tokenJti = receipt.tokenJti →
        other.eventId = receipt.eventId) ∧
        { db with receipts :=
            Table.save SourceLifecycleEvent.eventId db.receipts receipt } = target := by
  have free : (!db.receipts.any fun other =>
      other.eventId != receipt.eventId && other.tokenJti == receipt.tokenJti) = true ↔
      ∀ other ∈ db.receipts, other.tokenJti = receipt.tokenJti →
        other.eventId = receipt.eventId := by
    simp only [Bool.not_eq_true', List.any_eq_false, Bool.and_eq_true, bne_iff_ne, beq_iff_eq,
      not_and]
    exact forall₂_congr fun other _ => not_imp_not
  rw [← free]
  simp only [saveReceipt, bind_eq_ok_iff, reading_eq_ok_iff, require_eq_ok_iff, writing_eq_ok_iff,
    exists_done]
  constructor
  · rintro ⟨_, _, ⟨rfl, rfl⟩, _, ⟨unused, rfl⟩, written⟩
    exact ⟨unused, written⟩
  · rintro ⟨unused, written⟩
    exact ⟨_, _, ⟨rfl, rfl⟩, _, ⟨unused, rfl⟩, written⟩

/-- What the transaction of an event can do: nothing, for an event that has a receipt or
whose rows are not there; or leave a receipt; or leave one and move the rows. -/
inductive Settles (db : SourceDb) (admitted : Admitted) : Bool → SourceDb → Prop where
  | known (receipt : SourceLifecycleEvent)
      (found : db.receipt? (uuid admitted.event.eventId) = some receipt)
      (same : receipt.matches admitted.event = true) : Settles db admitted false db
  | dropped (fresh : db.receipt? (uuid admitted.event.eventId) = none)
      (missing : db.eventSource? admitted.event = none ∨ db.eventVersion? admitted.event = none) :
      Settles db admitted false db
  | ignored (source : Source) (version : SourceVersion)
      (fresh : db.receipt? (uuid admitted.event.eventId) = none)
      (sourceEq : db.eventSource? admitted.event = some source)
      (versionEq : db.eventVersion? admitted.event = some version)
      (outcome : applyTransition admitted.kind source version = .ignored) :
      Settles db admitted false
        { db with receipts := db.receipts ++ [admitted.event.receipt admitted.jti] }
  | moved (source : Source) (version : SourceVersion)
      (fresh : db.receipt? (uuid admitted.event.eventId) = none)
      (sourceEq : db.eventSource? admitted.event = some source)
      (versionEq : db.eventVersion? admitted.event = some version)
      (outcome : applyTransition admitted.kind source version = .changed) :
      Settles db admitted true
        { sources := Table.save Source.id db.sources (source.move admitted.kind)
          versions := Table.save SourceVersion.id db.versions
            (version.move admitted.kind admitted.event)
          receipts := db.receipts ++ [admitted.event.receipt admitted.jti] }

theorem settles_of_ok (settleEq : settle admitted db = (.ok changed, target)) :
    Settles db admitted changed target := by
  obtain ⟨_, _, readEq, restEq⟩ := bind_eq_ok_iff.mp (transaction_eq_ok_iff.mp settleEq)
  obtain ⟨rfl, rfl⟩ := reading_eq_ok_iff.mp readEq
  cases receiptEq : db.receipt? (uuid admitted.event.eventId) with
  | some receipt =>
      rw [receiptEq] at restEq
      obtain ⟨_, _, requireEq, pureEq⟩ := bind_eq_ok_iff.mp restEq
      obtain ⟨same, rfl⟩ := require_eq_ok_iff.mp requireEq
      obtain ⟨rfl, rfl⟩ := pure_eq_ok_iff.mp pureEq
      exact .known receipt receiptEq same
  | none =>
      rw [receiptEq] at restEq
      obtain ⟨_, _, sourceEq, restEq⟩ := bind_eq_ok_iff.mp restEq
      obtain ⟨rfl, rfl⟩ := reading_eq_ok_iff.mp sourceEq
      obtain ⟨_, _, versionEq, restEq⟩ := bind_eq_ok_iff.mp restEq
      obtain ⟨rfl, rfl⟩ := reading_eq_ok_iff.mp versionEq
      have appended : Table.save SourceLifecycleEvent.eventId db.receipts
          (admitted.event.receipt admitted.jti) =
          db.receipts ++ [admitted.event.receipt admitted.jti] :=
        Table.save_of_get?_eq_none receiptEq
      cases sourceEq : db.eventSource? admitted.event with
      | none =>
          rw [sourceEq] at restEq
          obtain ⟨rfl, rfl⟩ := pure_eq_ok_iff.mp restEq
          exact .dropped receiptEq (Or.inl sourceEq)
      | some source =>
          cases versionEq : db.eventVersion? admitted.event with
          | none =>
              rw [sourceEq, versionEq] at restEq
              obtain ⟨rfl, rfl⟩ := pure_eq_ok_iff.mp restEq
              exact .dropped receiptEq (Or.inr versionEq)
          | some version =>
              rw [sourceEq, versionEq] at restEq
              dsimp only at restEq
              rw [applyEvent] at restEq
              cases outcome : applyTransition admitted.kind source version with
              | retry =>
                  rw [outcome] at restEq
                  exact absurd restEq throwing_ne_ok
              | ignored =>
                  rw [outcome] at restEq
                  obtain ⟨_, _, saveEq, pureEq⟩ := bind_eq_ok_iff.mp restEq
                  obtain ⟨_, rfl⟩ := saveReceipt_eq_ok_iff.mp saveEq
                  obtain ⟨rfl, rfl⟩ := pure_eq_ok_iff.mp pureEq
                  rw [appended]
                  exact .ignored source version receiptEq sourceEq versionEq outcome
              | changed =>
                  rw [outcome] at restEq
                  obtain ⟨_, _, saveEq, restEq⟩ := bind_eq_ok_iff.mp restEq
                  obtain ⟨_, rfl⟩ := saveReceipt_eq_ok_iff.mp saveEq
                  obtain ⟨_, _, versionSaved, restEq⟩ := bind_eq_ok_iff.mp restEq
                  obtain rfl := writing_eq_ok_iff.mp versionSaved
                  obtain ⟨_, _, sourceSaved, pureEq⟩ := bind_eq_ok_iff.mp restEq
                  obtain rfl := writing_eq_ok_iff.mp sourceSaved
                  obtain ⟨rfl, rfl⟩ := pure_eq_ok_iff.mp pureEq
                  rw [appended]
                  exact .moved source version receiptEq sourceEq versionEq outcome

/-- A transaction that throws leaves the tables as they were. -/
theorem settle_cases (admitted : Admitted) (db : SourceDb) :
    (settle admitted db).2 = db ∨
      ∃ changed, Settles db admitted changed (settle admitted db).2 := by
  rcases settleEq : settle admitted db with ⟨thrown | changed, target⟩
  · left
    exact (transaction_eq_error_iff.mp settleEq).1.symm
  · exact Or.inr ⟨changed, settles_of_ok settleEq⟩

/-- An authentic event without a receipt is admitted. -/
theorem handle_fresh {host : Host} {value : Json} {claims : InternalServiceClaims}
    {event : LifecycleEvent} {jti : String} (read : readEvent host kind value = .ok event)
    (fresh : db.receipt? (uuid event.eventId) = none)
    (authorized : event.authorized kind claims = true) (valid : validJti claims = some jti) :
    handle host kind value (.ok claims) db = settle ⟨kind, event, jti⟩ db := by
  have admitEq : admission host kind value (.ok claims) db = (.ok (some ⟨kind, event, jti⟩), db) := by
    have readEq : (asking fun _ => readEvent host kind value : Statements LifecycleEvent) db =
        (.ok event, db) := asking_eq_ok_iff.mpr ⟨read, rfl⟩
    have lookEq : (reading fun db => db.receipt? (uuid event.eventId) :
        Statements (Option SourceLifecycleEvent)) db = (.ok none, db) :=
      reading_eq_ok_iff.mpr ⟨fresh, rfl⟩
    have askEq : (asking fun _ => .ok claims : Statements InternalServiceClaims) db =
        (.ok claims, db) := asking_eq_ok_iff.mpr ⟨rfl, rfl⟩
    have allowed : (require (event.authorized kind claims)
        (.error "Source lifecycle event authorization mismatch") : Statements Unit) db =
        (.ok (), db) := require_eq_ok_iff.mpr ⟨authorized, rfl⟩
    rw [admission, bind_of_ok readEq, bind_of_ok lookEq]
    dsimp only
    rw [bind_of_ok askEq, bind_of_ok allowed, bind_of_ok (orThrow_eq_ok_iff.mpr ⟨valid, rfl⟩)]
    rfl
  rw [handle, bind_of_ok admitEq]

/-- The transaction of an event whose rows are there. -/
theorem settle_found (fresh : db.receipt? (uuid admitted.event.eventId) = none)
    (sourceEq : db.eventSource? admitted.event = some source)
    (versionEq : db.eventVersion? admitted.event = some version) :
    settle admitted db = transaction (applyEvent admitted source version) db := by
  have body : settleEvent admitted db = applyEvent admitted source version db := by
    have lookEq : (reading fun db => db.receipt? (uuid admitted.event.eventId) :
        Statements (Option SourceLifecycleEvent)) db = (.ok none, db) :=
      reading_eq_ok_iff.mpr ⟨fresh, rfl⟩
    have sourceRead : (reading fun db => db.eventSource? admitted.event :
        Statements (Option Source)) db = (.ok (some source), db) :=
      reading_eq_ok_iff.mpr ⟨sourceEq, rfl⟩
    have versionRead : (reading fun db => db.eventVersion? admitted.event :
        Statements (Option SourceVersion)) db = (.ok (some version), db) :=
      reading_eq_ok_iff.mpr ⟨versionEq, rfl⟩
    rw [settleEvent, bind_of_ok lookEq]
    dsimp only
    rw [bind_of_ok sourceRead, bind_of_ok versionRead]
  rw [settle, transaction, transaction, body]

/-- An event that comes too early throws, and nothing changes. -/
theorem settle_retry (fresh : db.receipt? (uuid admitted.event.eventId) = none)
    (sourceEq : db.eventSource? admitted.event = some source)
    (versionEq : db.eventVersion? admitted.event = some version)
    (outcome : applyTransition admitted.kind source version = .retry) :
    settle admitted db =
      (.error (.error "Source lifecycle event arrived before its prerequisite"), db) := by
  rw [settle_found fresh sourceEq versionEq]
  apply transaction_eq_error_iff.mpr
  refine ⟨rfl, db, ?_⟩
  rw [applyEvent, outcome]
  rfl

/-- An event that moves its version resolves if its token has no other receipt. -/
theorem settle_changed (fresh : db.receipt? (uuid admitted.event.eventId) = none)
    (unused : ∀ receipt ∈ db.receipts, receipt.tokenJti ≠ admitted.jti)
    (sourceEq : db.eventSource? admitted.event = some source)
    (versionEq : db.eventVersion? admitted.event = some version)
    (outcome : applyTransition admitted.kind source version = .changed) :
    ∃ target, settle admitted db = (.ok true, target) := by
  rw [settle_found fresh sourceEq versionEq]
  have saved : saveReceipt (admitted.event.receipt admitted.jti) db = (.ok (),
      { db with
        receipts := Table.save SourceLifecycleEvent.eventId db.receipts
          (admitted.event.receipt admitted.jti) }) :=
    saveReceipt_eq_ok_iff.mpr
      ⟨fun receipt receiptMem same => absurd same (unused receipt receiptMem), rfl⟩
  have applied : ∃ target, applyEvent admitted source version db = (.ok true, target) := by
    rw [applyEvent, outcome]
    dsimp only
    rw [bind_of_ok saved]
    exact ⟨_, rfl⟩
  obtain ⟨target, appliedEq⟩ := applied
  exact ⟨target, transaction_eq_ok_iff.mpr appliedEq⟩

end Manbaa.Sources
