import Manbaa.Documents.MimeType
import Manbaa.Documents.ObjectKeys
import Manbaa.Documents.Quota
import Manbaa.Lib.Contract

/-!
# Documents and what they stand for

An upload puts the file into the bucket and inserts a row with its URL; reprocessing inserts
another row with the same URL; the calls that rewrite a row save the whole copy that they have
read.  The bucket, the broker and the tables are changed by statements of their own, and every
request to the bucket or the broker can fail, before or after it was served.

Where no identifier is drawn twice, each row stands for one upload all the same, and whoever gets
a URL for a document gets one for the file that somebody of the same organization uploaded.
-/

namespace Manbaa.Documents

open Manbaa.Lib Manbaa.Lib.Program

/-! ## The bucket and the tables -/

/-- An object of the bucket. -/
structure StoredObject where
  key : String
  contentType : String
  buffer : List UInt8
  deriving DecidableEq

/-- `DocumentPreprocessEvent`. -/
structure DocumentPreprocessEvent where
  documentId : Uuid
  fileType : String
  storageUrl : String
  deriving DecidableEq

/-- The tables, the objects of the bucket, and what the broker has got. -/
structure DocumentsStore extends FilesDb where
  objects : List StoredObject
  published : List DocumentPreprocessEvent

/-- What is configured, and what is not part of the backend. -/
structure DocumentsHost where
  bucketName : String
  detectFileType : List UInt8 → Option String
  presignedGetObject : (bucketName objectKey : String) → (seconds : Nat) → Except Exception String

/-- `DOCUMENT_PRESIGNED_URL_TTL_SECONDS`. -/
def documentPresignedUrlTtlSeconds : Nat := 60 * 15

/-- What a call throws. -/
inductive Failure where
  | threw (exception : Exception)
  | unsupportedMediaType (exception : UnsupportedMediaTypeException)

/-- The statements of a call. -/
abbrev DocumentsMethod := Program DocumentsStore Failure

/-- What becomes of a request to the bucket or the broker. -/
inductive Fate where
  | served
  | lost (exception : Exception)
  | refused (exception : Exception)
  deriving DecidableEq

/-- A request that is served changes the store; the caller need not learn of it. -/
def Fate.apply (fate : Fate) (change : DocumentsStore → DocumentsStore) : DocumentsMethod Unit :=
  match fate with
  | .served => write fun store => .ok ((), change store)
  | .lost exception => do
      write fun store => .ok ((), change store)
      done (.error (.threw exception))
  | .refused exception => done (.error (.threw exception))

/-- A computation that throws an exception of HTTP. -/
def throwing {α : Type} (result : Except Exception α) : Except Failure α := result.mapError .threw

/-! ## The service -/

/-- The bucket with an object put into it. -/
def DocumentsStore.putObject (store : DocumentsStore) (object : StoredObject) : DocumentsStore :=
  { store with objects := Table.save StoredObject.key store.objects object }

/-- `storeDocument`: the URL to be kept, and the one to be handed out. -/
def storeDocument (host : DocumentsHost) (fate : Fate) (object : StoredObject) :
    DocumentsMethod (String × String) := do
  fate.apply fun store => store.putObject object
  let presignedUrl ← done (throwing
    (host.presignedGetObject host.bucketName object.key documentPresignedUrlTtlSeconds))
  pure (buildMinioStorageUrl host.bucketName object.key, presignedUrl)

/-- `createPresignedUrl`. -/
def createPresignedUrl (host : DocumentsHost) (storageUrl : String) : DocumentsMethod String :=
  done (throwing do
    let objectKey ← extractObjectKeyFromStorageUrl storageUrl host.bucketName
    host.presignedGetObject host.bucketName objectKey documentPresignedUrlTtlSeconds)

/-- `DocumentResponseDto`. -/
structure DocumentResponse where
  id : Uuid
  workflowId : Option Uuid
  sessionId : Option Uuid
  filename : String
  fileType : String
  storageUrl : String
  fileSizeBytes : Nat
  docVersion : Nat
  presignedUrl : Option String
  deletedAt : Option Nat

/-- `toDocumentResponse`. -/
def toDocumentResponse (document : Document) (presignedUrl : Option String) : DocumentResponse where
  id := document.id
  workflowId := document.workflowId
  sessionId := document.sessionId
  filename := document.filename
  fileType := document.fileType
  storageUrl := document.storageUrl
  fileSizeBytes := document.fileSizeBytes
  docVersion := document.docVersion
  presignedUrl := presignedUrl
  deletedAt := document.deletedAt

/-- The event that asks for the processing of a document. -/
def Document.preprocessEvent (document : Document) : DocumentPreprocessEvent :=
  ⟨document.id, document.fileType, document.storageUrl⟩

/-- `publishDocumentPreprocess`. -/
def publishDocumentPreprocess (fate : Fate) (document : Document) : DocumentsMethod Unit :=
  fate.apply fun store => { store with published := store.published ++ [document.preprocessEvent] }

/-- The insertion of a new row. -/
def insertDocument (document : Document) : DocumentsMethod Document :=
  write fun store =>
    if store.fresh document then
      .ok (document, { store with toFilesDb := store.toFilesDb.insert document })
    else .error (.threw (.queryFailed (.uniqueViolation "document_pkey")))

/-- `uploadDocument`, where `uniqueId` is what `uuidv4` draws. -/
def uploadDocument (host : DocumentsHost) (request : Upload) (uniqueId : UuidText.Value)
    (put publish : Fate) : DocumentsMethod DocumentResponse := do
  let file ← done (lookUp request.file
    (.threw (.badRequest "A multipart file is required under the \"file\" field.")))
  done (throwing (assertDocumentFileSizeWithinLimit file.size))
  let fileType ← done
    ((validateDocumentMimeType host.detectFileType file.originalname file.buffer).mapError
      .unsupportedMediaType)
  let session ← ask fun store =>
    lookUp (store.ownedSession? request.sessionId request.currentUser.orgId)
      (.threw (.notFound "Session not found."))
  ensure (request.workflowId.all (· == session.workflowId)) (.threw (.badRequest
    "The provided workflowId does not match the workflow linked to the session."))
  ask fun store => throwing
    (assertSessionDocumentSizeWithinLimit (store.sessionDocumentBytes session.id) file.size)
  let nextVersion ← query fun store => store.nextDocumentVersion session.id file.originalname
  let stored ← storeDocument host put
    ⟨buildSafeObjectKey request.currentUser.orgId session.workflowId session.id nextVersion uniqueId
      file.originalname, fileType.text, file.buffer⟩
  let document ← insertDocument
    (request.document ⟨file, fileType.text, session⟩ nextVersion stored.1)
  publishDocumentPreprocess publish document
  pure (toDocumentResponse document (some stored.2))

/-- `findActiveOwnedDocument`, or the answer that there is none. -/
def findDocument (documentId orgId : Uuid) : DocumentsMethod Document :=
  ask fun store =>
    lookUp (store.activeOwned? documentId orgId) (.threw (.notFound "Document not found."))

/-- `getDocument`. -/
def getDocument (host : DocumentsHost) (documentId : Uuid) (currentUser : RequestUser) :
    DocumentsMethod DocumentResponse := do
  let document ← findDocument documentId currentUser.orgId
  let presignedUrl ← createPresignedUrl host document.storageUrl
  pure (toDocumentResponse document (some presignedUrl))

/-- `reprocessDocument`. -/
def reprocessDocument (host : DocumentsHost) (request : Reprocess) (publish : Fate) :
    DocumentsMethod DocumentResponse := do
  let found ← ask fun store => throwing (request.find store.toFilesDb)
  let nextVersion ← query fun store =>
    store.nextDocumentVersion found.sessionId found.document.filename
  let document ← insertDocument (request.document found nextVersion)
  publishDocumentPreprocess publish document
  let presignedUrl ← createPresignedUrl host document.storageUrl
  pure (toDocumentResponse document (some presignedUrl))

/-- `softDeleteDocument`, `updateExtractedText` or `handlePreprocessResult`. -/
def rewriteDocument (call : Call) : DocumentsMethod Unit := do
  let copy? ← ask fun store => throwing (call.read store.toDocumentsDb)
  match copy? with
  | none => pure ()
  | some copy => do
      write fun store =>
        .ok ((), { store with toFilesDb := store.toFilesDb.save (call.change copy) })
      match call.audit copy (call.change copy) with
      | none => pure ()
      | some entry => write fun store => .ok ((), { store with auditLogs := store.auditLogs ++ [entry] })

/-- A call of the service, or a message for it. -/
inductive DocumentsRequest where
  | uploadDocument (request : Upload) (uniqueId : UuidText.Value) (put publish : Fate)
  | getDocument (documentId : Uuid) (currentUser : RequestUser)
  | reprocessDocument (request : Reprocess) (publish : Fate)
  | rewriteDocument (call : Call)

/-- The organization of the caller who asks for a document. -/
def DocumentsRequest.orgId? : DocumentsRequest → Option Uuid
  | .uploadDocument request _ _ _ => some request.currentUser.orgId
  | .getDocument _ currentUser => some currentUser.orgId
  | .reprocessDocument request _ => some request.currentUser.orgId
  | .rewriteDocument _ => none

/-- How a request is answered. -/
def DocumentsRequest.answer (host : DocumentsHost) (request : DocumentsRequest) :
    DocumentsMethod (DocumentsRequest × Option DocumentResponse) :=
  match request with
  | .uploadDocument upload uniqueId put publish => do
      let response ← Documents.uploadDocument host upload uniqueId put publish
      pure (request, some response)
  | .getDocument documentId currentUser => do
      let response ← Documents.getDocument host documentId currentUser
      pure (request, some response)
  | .reprocessDocument reprocess publish => do
      let response ← Documents.reprocessDocument host reprocess publish
      pure (request, some response)
  | .rewriteDocument call => do
      Documents.rewriteDocument call
      pure (request, none)

/-! ## What a row stands for -/

/-- An upload that has come as far as storing its file. -/
structure Storing where
  request : Upload
  uniqueId : UuidText.Value
  file : File
  fileType : AllowedDocumentMimeType
  session : Session
  version : Nat

/-- The key under which the file is stored. -/
def Storing.objectKey (storing : Storing) : String :=
  buildSafeObjectKey storing.request.currentUser.orgId storing.session.workflowId storing.session.id
    storing.version storing.uniqueId storing.file.originalname

/-- The object that is stored. -/
def Storing.object (storing : Storing) : StoredObject :=
  ⟨storing.objectKey, storing.fileType.text, storing.file.buffer⟩

/-- The upload was asked for, and has passed its checks. -/
structure Storing.Asked (host : DocumentsHost) (asked : DocumentsRequest → Prop) (db : FilesDb)
    (storing : Storing) : Prop where
  asked : ∃ put publish, asked (.uploadDocument storing.request storing.uniqueId put publish)
  file : storing.request.file = some storing.file
  fileType : validateDocumentMimeType host.detectFileType storing.file.originalname
    storing.file.buffer = .ok storing.fileType
  session : db.ownedSession? storing.request.sessionId storing.request.currentUser.orgId =
    some storing.session

/-- The row is one of the file that an upload stored. -/
structure Storing.Describes (host : DocumentsHost) (storing : Storing) (document : Document) :
    Prop where
  workflowId : document.workflowId = some storing.session.workflowId
  sessionId : document.sessionId = some storing.session.id
  filename : document.filename = storing.file.originalname
  fileType : document.fileType = storing.fileType.text
  storageUrl : document.storageUrl = buildMinioStorageUrl host.bucketName storing.objectKey
  fileSizeBytes : document.fileSizeBytes = storing.file.size

/-- The file of a document is in the bucket, as it was uploaded. -/
def Document.IsStored (host : DocumentsHost) (asked : DocumentsRequest → Prop)
    (store : DocumentsStore) (document : Document) : Prop :=
  ∃ storing : Storing, storing.Asked host asked store.toFilesDb ∧
    storing.object ∈ store.objects ∧ storing.Describes host document

/-- What a caller of an organization gets with a document is a URL for the file that somebody of
the organization uploaded, and what is said about the file is true. -/
def DocumentResponse.Grants (host : DocumentsHost) (asked : DocumentsRequest → Prop) (orgId : Uuid)
    (store : DocumentsStore) (response : DocumentResponse) : Prop :=
  ∃ storing : Storing, storing.Asked host asked store.toFilesDb ∧
    storing.request.currentUser.orgId = orgId ∧ storing.object ∈ store.objects ∧
    response.filename = storing.file.originalname ∧
    response.fileType = storing.object.contentType ∧
    ∃ presignedUrl ∈ response.presignedUrl,
      host.presignedGetObject host.bucketName storing.object.key documentPresignedUrlTtlSeconds =
        .ok presignedUrl

/-- Every answer with a document is one for the organization of the caller. -/
def Answered (host : DocumentsHost) (asked : DocumentsRequest → Prop)
    (answer : DocumentsRequest × Option DocumentResponse) (store : DocumentsStore) : Prop :=
  ∀ response ∈ answer.2, ∃ orgId ∈ answer.1.orgId?, response.Grants host asked orgId store

/-- The columns that are written once. -/
def Document.origin (document : Document) : Document :=
  { document with extractedText := none, preprocessingConfidence := none, deletedAt := none }

/-- Rows have identifiers of their own; every object was uploaded, every row has its object, and
every event is about a row. -/
structure Accounted (host : DocumentsHost) (asked : DocumentsRequest → Prop)
    (store : DocumentsStore) : Prop where
  keyed : Table.Keyed Document.id store.documents
  owned : Table.Keyed Workflow.id store.workflows
  objects : ∀ object ∈ store.objects, ∃ storing : Storing,
    storing.Asked host asked store.toFilesDb ∧ storing.object = object
  documents : ∀ document ∈ store.documents, document.IsStored host asked store
  published : ∀ event ∈ store.published, ∃ document ∈ store.documents,
    event = document.preprocessEvent

/-- Objects stay as they are, and rows are only added, and keep the columns that are written
once. -/
structure Grown (before after : DocumentsStore) : Prop where
  sessions : after.sessions = before.sessions
  workflows : after.workflows = before.workflows
  objects : ∀ object ∈ before.objects, object ∈ after.objects
  origins : before.documents.map Document.origin <+: after.documents.map Document.origin

/-- What calls agree on. -/
def documentsContract (host : DocumentsHost) (asked : DocumentsRequest → Prop) :
    Contract DocumentsStore where
  valid := Accounted host asked
  grows := Grown
  refl _ := ⟨rfl, rfl, fun _ => id, List.prefix_refl _⟩
  trans before after :=
    ⟨after.sessions.trans before.sessions, after.workflows.trans before.workflows,
      fun object objectMem => after.objects object (before.objects object objectMem),
      before.origins.trans after.origins⟩

/-- No identifier is drawn for two uploads. -/
def DrawnOnce (asked : DocumentsRequest → Prop) : Prop :=
  ∀ request other uniqueId put publish otherPut otherPublish,
    asked (.uploadDocument request uniqueId put publish) →
    asked (.uploadDocument other uniqueId otherPut otherPublish) → request = other

variable {host : DocumentsHost} {asked : DocumentsRequest → Prop}
  {store found seen future : DocumentsStore} {storing other : Storing} {row copy : Document}
  {orgId : Uuid} {α β : Type} {right : α → DocumentsStore → Prop}

/-! ## Objects -/

theorem Storing.Asked.later (isAsked : storing.Asked host asked seen.toFilesDb)
    (since : Grown seen future) : storing.Asked host asked future.toFilesDb := by
  refine ⟨isAsked.asked, isAsked.file, isAsked.fileType, ?_⟩
  have session := isAsked.session
  rw [FilesDb.ownedSession?] at session ⊢
  rw [since.sessions, since.workflows]
  exact session

/-- Uploads that store under one key store the same. -/
theorem Storing.Asked.object_eq (drawnOnce : DrawnOnce asked)
    (isAsked : storing.Asked host asked store.toFilesDb)
    (otherAsked : other.Asked host asked store.toFilesDb)
    (sameKey : storing.objectKey = other.objectKey) : storing.object = other.object := by
  obtain ⟨_, sameId, _⟩ := buildSafeObjectKey_injective sameKey
  obtain ⟨put, publish, uploaded⟩ := isAsked.asked
  obtain ⟨otherPut, otherPublish, otherUploaded⟩ := otherAsked.asked
  rw [sameId] at uploaded
  have sameRequest := drawnOnce _ _ _ _ _ _ _ uploaded otherUploaded
  have sameFile : storing.file = other.file := by
    have file := isAsked.file
    rw [sameRequest, otherAsked.file] at file
    exact (Option.some.inj file).symm
  have sameType : storing.fileType = other.fileType := by
    have fileType := isAsked.fileType
    rw [sameFile, otherAsked.fileType] at fileType
    exact (Except.ok.inj fileType).symm
  rw [Storing.object, Storing.object, sameKey, sameFile, sameType]

/-- A file is put where nothing is overwritten by anything else. -/
theorem Accounted.putObject (drawnOnce : DrawnOnce asked) (valid : Accounted host asked found)
    (isAsked : storing.Asked host asked found.toFilesDb) :
    Accounted host asked (found.putObject storing.object) ∧
      Grown found (found.putObject storing.object) := by
  have kept : ∀ object ∈ found.objects, object ∈ (found.putObject storing.object).objects := by
    intro object objectMem
    apply Table.mem_save_iff.mpr
    by_cases same : object.key = storing.object.key
    · obtain ⟨other, otherAsked, rfl⟩ := valid.objects object objectMem
      exact Or.inl (otherAsked.object_eq drawnOnce isAsked same)
    · exact Or.inr ⟨objectMem, same⟩
  have grown : Grown found (found.putObject storing.object) :=
    ⟨rfl, rfl, kept, List.prefix_refl _⟩
  refine ⟨⟨valid.keyed, valid.owned, ?_, ?_, valid.published⟩, grown⟩
  · intro object objectMem
    rcases Table.mem_save_iff.mp objectMem with rfl | ⟨old, _⟩
    · exact ⟨storing, isAsked, rfl⟩
    · exact valid.objects object old
  · intro document documentMem
    obtain ⟨other, otherAsked, objectMem, describes⟩ := valid.documents document documentMem
    exact ⟨other, otherAsked, kept _ objectMem, describes⟩

/-! ## Rows -/

theorem Document.IsStored.later (isStored : row.IsStored host asked seen)
    (since : Grown seen future) : row.IsStored host asked future := by
  obtain ⟨storing, isAsked, objectMem, describes⟩ := isStored
  exact ⟨storing, isAsked.later since, since.objects _ objectMem, describes⟩

theorem Call.origin_change (call : Call) : (call.change copy).origin = copy.origin := by
  cases call <;> rfl

/-- Only the columns that are written once say what a row stands for. -/
theorem Storing.Describes.of_origin (describes : storing.Describes host copy)
    (same : row.origin = copy.origin) : storing.Describes host row := by
  simp only [Document.origin, Document.mk.injEq] at same
  obtain ⟨_, workflowId, sessionId, filename, fileType, storageUrl, fileSizeBytes, _⟩ := same
  exact ⟨workflowId.trans describes.workflowId, sessionId.trans describes.sessionId,
    filename.trans describes.filename, fileType.trans describes.fileType,
    storageUrl.trans describes.storageUrl, fileSizeBytes.trans describes.fileSizeBytes⟩

theorem id_of_origin (same : row.origin = copy.origin) : row.id = copy.id := by
  change row.origin.id = copy.origin.id
  rw [same]

theorem preprocessEvent_of_origin (same : row.origin = copy.origin) :
    row.preprocessEvent = copy.preprocessEvent := by
  simp only [Document.origin, Document.mk.injEq] at same
  rw [Document.preprocessEvent, Document.preprocessEvent, same.1, same.2.2.2.2.1,
    same.2.2.2.2.2.1]

/-- A row that has been seen is still there, with the columns that are written once. -/
theorem Grown.exists_row (since : Grown seen future) (rowMem : row ∈ seen.documents) :
    ∃ current ∈ future.documents, current.origin = row.origin :=
  List.mem_map.mp (since.origins.subset (List.mem_map_of_mem rowMem))

/-- Objects stay accounted for. -/
theorem Accounted.objects_later (valid : Accounted host asked found) (since : Grown found future)
    (same : future.objects = found.objects) :
    ∀ object ∈ future.objects, ∃ storing : Storing,
      storing.Asked host asked future.toFilesDb ∧ storing.object = object := by
  intro object objectMem
  rw [same] at objectMem
  obtain ⟨storing, isAsked, isIt⟩ := valid.objects object objectMem
  exact ⟨storing, isAsked.later since, isIt⟩

/-- A copy of a row that has been seen may be saved over it. -/
theorem Accounted.save (valid : Accounted host asked found) (since : Grown seen found)
    (rowMem : copy ∈ seen.documents) (origin : row.origin = copy.origin) :
    Accounted host asked { found with toFilesDb := found.toFilesDb.save row } ∧
      Grown found { found with toFilesDb := found.toFilesDb.save row } := by
  obtain ⟨current, currentMem, currentOrigin⟩ := since.exists_row rowMem
  have sameOrigin : current.origin = row.origin := currentOrigin.trans origin.symm
  have sameId : current.id = row.id := id_of_origin sameOrigin
  have present : Table.get? Document.id found.documents row.id = some current :=
    sameId ▸ valid.keyed.get?_of_mem currentMem
  have savedEq : (found.toFilesDb.save row).documents =
      Table.put Document.id found.documents row := Table.save_of_get?_eq_some present
  have originsEq : (found.toFilesDb.save row).documents.map Document.origin =
      found.documents.map Document.origin := by
    rw [savedEq]
    apply Table.map_put_of_eq
    intro old oldMem isIt
    rw [valid.keyed.eq oldMem currentMem (isIt.trans sameId.symm), sameOrigin]
  have grown : Grown found { found with toFilesDb := found.toFilesDb.save row } :=
    ⟨rfl, rfl, fun _ => id, originsEq ▸ List.prefix_refl _⟩
  refine ⟨⟨Table.keyed_save valid.keyed, valid.owned, valid.objects_later grown rfl, ?_, ?_⟩, grown⟩
  · intro document documentMem
    have sameDocument : document.origin ∈ found.documents.map Document.origin :=
      originsEq ▸ List.mem_map_of_mem documentMem
    obtain ⟨old, oldMem, oldOrigin⟩ := List.mem_map.mp sameDocument
    obtain ⟨storing, isAsked, objectMem, describes⟩ := valid.documents old oldMem
    exact ⟨storing, isAsked.later grown, objectMem, describes.of_origin oldOrigin.symm⟩
  · intro event eventMem
    obtain ⟨document, documentMem, rfl⟩ := valid.published event eventMem
    obtain ⟨saved, savedMem, savedOrigin⟩ := grown.exists_row documentMem
    exact ⟨saved, savedMem, (preprocessEvent_of_origin savedOrigin).symm⟩

/-- A row of a stored file may be added. -/
theorem Accounted.insert (valid : Accounted host asked found)
    (fresh : found.fresh row = true) (isStored : row.IsStored host asked found) :
    Accounted host asked { found with toFilesDb := found.toFilesDb.insert row } ∧
      Grown found { found with toFilesDb := found.toFilesDb.insert row } := by
  have grown : Grown found { found with toFilesDb := found.toFilesDb.insert row } := by
    refine ⟨rfl, rfl, fun _ => id, ?_⟩
    change _ <+: (found.documents ++ [row]).map Document.origin
    rw [List.map_append]
    exact List.prefix_append _ _
  refine ⟨⟨Table.keyed_append valid.keyed (fresh_eq_true_iff.mp fresh), valid.owned,
    valid.objects_later grown rfl, ?_, ?_⟩, grown⟩
  · intro document documentMem
    rcases List.mem_append.mp documentMem with old | new
    · exact (valid.documents document old).later grown
    · rw [List.mem_singleton.mp new]
      exact isStored.later grown
  · intro event eventMem
    obtain ⟨document, documentMem, rfl⟩ := valid.published event eventMem
    exact ⟨document, List.mem_append_left _ documentMem, rfl⟩

/-- What is asked about a row that was seen may be published. -/
theorem Accounted.publish (valid : Accounted host asked found) (since : Grown seen found)
    (rowMem : row ∈ seen.documents) :
    Accounted host asked { found with published := found.published ++ [row.preprocessEvent] } ∧
      Grown found { found with published := found.published ++ [row.preprocessEvent] } := by
  refine ⟨⟨valid.keyed, valid.owned, valid.objects, valid.documents, ?_⟩,
    ⟨rfl, rfl, fun _ => id, List.prefix_refl _⟩⟩
  intro event eventMem
  rcases List.mem_append.mp eventMem with old | new
  · exact valid.published event old
  · obtain ⟨current, currentMem, origin⟩ := since.exists_row rowMem
    rw [List.mem_singleton.mp new]
    exact ⟨current, currentMem, (preprocessEvent_of_origin origin).symm⟩

/-- The audit log is not looked at. -/
theorem Accounted.log {entry : AuditLog} (valid : Accounted host asked found) :
    Accounted host asked { found with auditLogs := found.auditLogs ++ [entry] } ∧
      Grown found { found with auditLogs := found.auditLogs ++ [entry] } := by
  have grown : Grown found { found with auditLogs := found.auditLogs ++ [entry] } :=
    ⟨rfl, rfl, fun _ => id, List.prefix_refl _⟩
  exact ⟨⟨valid.keyed, valid.owned, valid.objects_later grown rfl,
    fun document documentMem => (valid.documents document documentMem).later grown,
    valid.published⟩, grown⟩

/-! ## What is handed out -/

/-- The organization of a workflow is known by the row of the workflow. -/
theorem Accounted.sameOrganization (valid : Accounted host asked store)
    (isAsked : storing.Asked host asked store.toFilesDb)
    (describes : storing.Describes host row)
    (owned : store.workflows.any (fun workflow =>
      some workflow.id == row.workflowId && workflow.orgId == orgId) = true) :
    storing.request.currentUser.orgId = orgId := by
  have isOwned := List.find?_some isAsked.session
  obtain ⟨workflow, workflowMem, isIt⟩ := List.any_eq_true.mp (Bool.and_eq_true_iff.mp isOwned).2
  obtain ⟨other, otherMem, isOther⟩ := List.any_eq_true.mp owned
  simp only [Bool.and_eq_true, beq_iff_eq] at isIt isOther
  rw [describes.workflowId, ← isIt.1] at isOther
  have same := valid.owned.eq otherMem workflowMem (Option.some.inj isOther.1)
  rw [← isIt.2, ← isOther.2, same]

/-- The URL that a row is answered with is one for its file. -/
theorem grants_of_describes {presignedUrl : String}
    (isAsked : storing.Asked host asked store.toFilesDb) (objectMem : storing.object ∈ store.objects)
    (describes : storing.Describes host row)
    (sameOrganization : storing.request.currentUser.orgId = orgId)
    (presignedEq : host.presignedGetObject host.bucketName storing.object.key
      documentPresignedUrlTtlSeconds = .ok presignedUrl) :
    (toDocumentResponse row (some presignedUrl)).Grants host asked orgId store :=
  ⟨storing, isAsked, sameOrganization, objectMem, describes.filename, describes.fileType,
    presignedUrl, rfl, presignedEq⟩

theorem DocumentResponse.Grants.later {response : DocumentResponse}
    (grants : response.Grants host asked orgId seen) (since : Grown seen future) :
    response.Grants host asked orgId future := by
  obtain ⟨storing, isAsked, sameOrganization, objectMem, rest⟩ := grants
  exact ⟨storing, isAsked.later since, sameOrganization, since.objects _ objectMem, rest⟩

/-! ## Calls beside each other -/

theorem safe_done_bind {result : Except Failure β} {rest : β → DocumentsMethod α}
    (goesOn : ∀ value, result = .ok value →
      (rest value).Safe (documentsContract host asked) right seen) :
    (done result >>= rest).Safe (documentsContract host asked) right seen := by
  cases result with
  | error failure => exact safe_throw
  | ok value => exact goesOn value rfl

/-- A request that keeps the contract when it is served. -/
theorem safe_apply_bind {fate : Fate} {change : DocumentsStore → DocumentsStore}
    {rest : Unit → DocumentsMethod α}
    (keeps : ∀ found, Accounted host asked found → Grown seen found →
      Accounted host asked (change found) ∧ Grown found (change found))
    (goesOn : ∀ found, Accounted host asked found → Grown seen found →
      (rest ()).Safe (documentsContract host asked) right (change found)) :
    (fate.apply change >>= rest).Safe (documentsContract host asked) right seen := by
  cases fate with
  | served =>
      rw [Fate.apply]
      apply safe_write_bind
      rintro found _ _ valid since ⟨⟩
      exact ⟨keeps found valid since, goesOn found valid since⟩
  | lost exception =>
      refine fun found valid since => ⟨keeps found valid since, safe_throw⟩
  | refused exception => exact safe_throw

/-- A file is stored, and the URLs are for it. -/
theorem storeDocument_safe {fate : Fate} (storing : Storing) (drawnOnce : DrawnOnce asked)
    (isAsked : storing.Asked host asked seen.toFilesDb) :
    (storeDocument host fate storing.object).Safe (documentsContract host asked)
      (fun urls store => storing.object ∈ store.objects ∧
        urls.1 = buildMinioStorageUrl host.bucketName storing.objectKey ∧
        host.presignedGetObject host.bucketName storing.object.key documentPresignedUrlTtlSeconds =
          .ok urls.2) seen := by
  apply safe_apply_bind
  · intro found valid since
    exact valid.putObject drawnOnce (isAsked.later since)
  · intro found valid since
    apply safe_done_bind
    intro presignedUrl presignedEq
    apply safe_pure
    intro later _ onwards
    have isThere : storing.object ∈ (found.putObject storing.object).objects :=
      Table.mem_save_iff.mpr (Or.inl rfl)
    exact ⟨onwards.objects _ isThere, rfl, mapError_eq_ok_iff.mp presignedEq⟩

/-- A URL for a row is a URL for its file. -/
theorem createPresignedUrl_eq_ok {presignedUrl : String} (describes : storing.Describes host row)
    (createdEq : (throwing do
      let objectKey ← extractObjectKeyFromStorageUrl row.storageUrl host.bucketName
      host.presignedGetObject host.bucketName objectKey documentPresignedUrlTtlSeconds) =
        .ok presignedUrl) :
    host.presignedGetObject host.bucketName storing.object.key documentPresignedUrlTtlSeconds =
      .ok presignedUrl := by
  obtain ⟨objectKey, keyEq, presignedEq⟩ :=
    except_bind_eq_ok_iff.mp (mapError_eq_ok_iff.mp createdEq)
  rw [describes.storageUrl, extractObjectKey_buildUrl] at keyEq
  cases keyEq
  exact presignedEq

/-- A row of a stored file is inserted, and can be found from then on. -/
theorem safe_insertDocument_bind {rest : Document → DocumentsMethod α}
    (isStored : row.IsStored host asked seen)
    (goesOn : ∀ found, Accounted host asked found → Grown seen found → row ∈ found.documents →
      (rest row).Safe (documentsContract host asked) right found) :
    (insertDocument row >>= rest).Safe (documentsContract host asked) right seen := by
  apply safe_write_bind
  intro found inserted changed valid since changeEq
  split at changeEq
  · rename_i fresh
    cases changeEq
    have kept := Accounted.insert valid fresh (isStored.later since)
    exact ⟨kept, goesOn _ kept.1 ((documentsContract host asked).trans since kept.2)
      (List.mem_append_right _ (List.mem_singleton_self row))⟩
  · cases changeEq

theorem safe_publish_bind {fate : Fate} {rest : Unit → DocumentsMethod α}
    (rowMem : row ∈ seen.documents)
    (goesOn : ∀ found, Accounted host asked found → Grown seen found →
      (rest ()).Safe (documentsContract host asked) right found) :
    (publishDocumentPreprocess fate row >>= rest).Safe (documentsContract host asked) right
      seen := by
  apply safe_apply_bind
  · exact fun found valid since => valid.publish since rowMem
  · intro found valid since
    have kept := valid.publish since rowMem
    exact goesOn _ kept.1 ((documentsContract host asked).trans since kept.2)

/-- What a response has to be. -/
abbrev Granting (host : DocumentsHost) (asked : DocumentsRequest → Prop) (orgId : Uuid)
    (response : DocumentResponse) (store : DocumentsStore) : Prop :=
  response.Grants host asked orgId store

theorem uploadDocument_safe {request : Upload} {uniqueId : UuidText.Value} {put publish : Fate}
    (drawnOnce : DrawnOnce asked)
    (isAsked : asked (.uploadDocument request uniqueId put publish)) :
    (uploadDocument host request uniqueId put publish).Safe (documentsContract host asked)
      (Granting host asked request.currentUser.orgId) seen := by
  apply safe_done_bind
  intro file fileEq
  apply safe_done_bind
  intro _ _
  -- the type is checked by the bytes of the file, which are not known here
  generalize checkedEq :
    validateDocumentMimeType host.detectFileType file.originalname file.buffer = checked
  apply safe_done_bind
  intro fileType typeEq
  rw [mapError_eq_ok_iff.mp typeEq] at checkedEq
  apply safe_ask_bind
  intro owning session owningValid _ sessionEq
  apply safe_ensure_bind
  intro _
  apply safe_ask_bind
  intro summed _ _ summedSince _
  apply safe_query_bind
  intro numbered numberedValid numberedSince
  let storing : Storing := ⟨request, uniqueId, file, fileType, session,
    numbered.nextDocumentVersion session.id file.originalname⟩
  have owningAsked : storing.Asked host asked owning.toFilesDb :=
    ⟨⟨put, publish, isAsked⟩, lookUp_eq_ok_iff.mp fileEq, checkedEq,
      lookUp_eq_ok_iff.mp sessionEq⟩
  have numberedAsked : storing.Asked host asked numbered.toFilesDb :=
    (owningAsked.later summedSince).later numberedSince
  apply (storeDocument_safe storing drawnOnce numberedAsked).bind numberedValid
  rintro ⟨_, presignedUrl⟩ stored _ storedSince ⟨objectMem, rfl, presignedEq⟩
  have storedAsked := numberedAsked.later storedSince
  have describes : storing.Describes host (request.document ⟨file, fileType.text, session⟩
      (numbered.nextDocumentVersion session.id file.originalname)
      (buildMinioStorageUrl host.bucketName storing.objectKey)) := ⟨rfl, rfl, rfl, rfl, rfl, rfl⟩
  apply safe_insertDocument_bind ⟨storing, storedAsked, objectMem, describes⟩
  intro inserted _ insertedSince rowMem
  apply safe_publish_bind rowMem
  intro published _ publishedSince
  apply safe_pure
  intro last _ lastSince
  exact (((grants_of_describes storedAsked objectMem describes rfl presignedEq).later
    insertedSince).later publishedSince).later lastSince

/-- A row that is found is one of a stored file, and of the caller's organization. -/
theorem found_of_activeOwned {documentId : Uuid} (valid : Accounted host asked found)
    (foundEq : found.activeOwned? documentId orgId = some row) :
    row ∈ found.documents ∧ ∃ storing : Storing, storing.Asked host asked found.toFilesDb ∧
      storing.object ∈ found.objects ∧ storing.Describes host row ∧
      storing.request.currentUser.orgId = orgId := by
  obtain ⟨rowEq, kept⟩ := Option.filter_eq_some_iff.mp foundEq
  have rowMem : row ∈ found.documents := Table.mem_of_get? rowEq
  obtain ⟨storing, isAsked, objectMem, describes⟩ := valid.documents row rowMem
  exact ⟨rowMem, storing, isAsked, objectMem, describes,
    valid.sameOrganization isAsked describes (Bool.and_eq_true_iff.mp kept).2⟩

theorem getDocument_safe {documentId : Uuid} {currentUser : RequestUser} :
    (getDocument host documentId currentUser).Safe (documentsContract host asked)
      (Granting host asked currentUser.orgId) seen := by
  apply safe_ask_bind
  intro found document valid _ foundEq
  obtain ⟨_, storing, isAsked, objectMem, describes, sameOrganization⟩ :=
    found_of_activeOwned valid (lookUp_eq_ok_iff.mp foundEq)
  apply safe_done_bind
  intro presignedUrl createdEq
  apply safe_pure
  intro later _ since
  exact (grants_of_describes isAsked objectMem describes sameOrganization
    (createPresignedUrl_eq_ok describes createdEq)).later since

/-- The next version of a document is one of its file. -/
theorem reprocess_describes {request : Reprocess} {reprocessing : Reprocessing} {db : FilesDb}
    (version : Nat) (findEq : request.find db = .ok reprocessing) :
    db.activeOwned? request.documentId request.currentUser.orgId = some reprocessing.document ∧
      ∀ storing : Storing, storing.Describes host reprocessing.document →
        storing.Describes host (request.document reprocessing version) := by
  obtain ⟨document, documentEq, restEq⟩ := except_bind_eq_ok_iff.mp findEq
  split at restEq
  · rename_i sessionId workflowId sessionEq workflowEq
    cases restEq
    refine ⟨lookUp_eq_ok_iff.mp documentEq, fun storing describes => ?_⟩
    exact ⟨workflowEq.symm.trans describes.workflowId, sessionEq.symm.trans describes.sessionId,
      describes.filename, describes.fileType, describes.storageUrl, describes.fileSizeBytes⟩
  · cases restEq

theorem reprocessDocument_safe {request : Reprocess} {publish : Fate} :
    (reprocessDocument host request publish).Safe (documentsContract host asked)
      (Granting host asked request.currentUser.orgId) seen := by
  apply safe_ask_bind
  intro found reprocessing valid _ findEq
  have findEq := mapError_eq_ok_iff.mp findEq
  apply safe_query_bind
  intro numbered _ numberedSince
  obtain ⟨foundEq, goesOver⟩ := reprocess_describes
    (numbered.nextDocumentVersion reprocessing.sessionId reprocessing.document.filename) findEq
  obtain ⟨_, storing, isAsked, objectMem, describes, sameOrganization⟩ :=
    found_of_activeOwned valid foundEq
  have numberedAsked := isAsked.later numberedSince
  have numberedMem := numberedSince.objects _ objectMem
  have describes := goesOver storing describes
  apply safe_insertDocument_bind ⟨storing, numberedAsked, numberedMem, describes⟩
  intro inserted _ insertedSince rowMem
  apply safe_publish_bind rowMem
  intro published _ publishedSince
  apply safe_done_bind
  intro presignedUrl createdEq
  apply safe_pure
  intro last _ lastSince
  exact (((grants_of_describes numberedAsked numberedMem describes sameOrganization
    (createPresignedUrl_eq_ok describes createdEq)).later insertedSince).later
      publishedSince).later lastSince

theorem rewriteDocument_safe {call : Call} :
    (rewriteDocument call).Safe (documentsContract host asked) (fun _ _ => True) seen := by
  apply safe_ask_bind
  intro found copy? valid _ readEq
  have readEq := mapError_eq_ok_iff.mp readEq
  cases copy? with
  | none => exact safe_pure fun _ _ _ => trivial
  | some copy =>
      have copyMem : copy ∈ found.documents := Table.mem_of_get? (read_eq_some readEq).1
      apply safe_write_bind
      rintro saving _ _ savingValid savingSince ⟨⟩
      refine ⟨savingValid.save savingSince copyMem call.origin_change, ?_⟩
      cases call.audit copy (call.change copy) with
      | none => exact safe_pure fun _ _ _ => trivial
      | some entry =>
          apply safe_write
          rintro logging _ _ loggingValid _ ⟨⟩
          exact ⟨loggingValid.log, fun _ _ _ => trivial⟩

theorem answer_safe {request : DocumentsRequest} (drawnOnce : DrawnOnce asked)
    (isAsked : asked request) (valid : Accounted host asked seen) :
    (request.answer host).Safe (documentsContract host asked) (Answered host asked) seen := by
  have answers : ∀ response found (orgId : Uuid), request.orgId? = some orgId →
      DocumentResponse.Grants host asked orgId found response →
      (pure (request, some response) : DocumentsMethod _).Safe (documentsContract host asked)
        (Answered host asked) found := by
    intro response found orgId isCaller grants
    apply safe_pure
    intro later _ since other isResponse
    cases isResponse
    exact ⟨orgId, isCaller, grants.later since⟩
  cases request with
  | uploadDocument upload uniqueId put publish =>
      exact (uploadDocument_safe drawnOnce isAsked).bind valid
        fun response found _ _ grants => answers response found _ rfl grants
  | getDocument documentId currentUser =>
      exact getDocument_safe.bind valid
        fun response found _ _ grants => answers response found _ rfl grants
  | reprocessDocument reprocess publish =>
      exact reprocessDocument_safe.bind valid
        fun response found _ _ grants => answers response found _ rfl grants
  | rewriteDocument call =>
      exact rewriteDocument_safe.bind valid
        fun _ _ _ _ _ => safe_pure fun _ _ _ _ isResponse => nomatch isResponse

/-- **Every document stands for the file that was uploaded.**  Whatever fails on the way and
however calls run beside each other, objects are never overwritten, every row keeps the URL of an
object with the bytes of an upload, every event is about a row, and whoever gets a URL gets it for
a file of the own organization. -/
theorem documents_stored {state reached : Sessions.State DocumentsStore
      (DocumentsMethod (DocumentsRequest × Option DocumentResponse))}
    {actions : List (Sessions.Action DocumentsRequest Unit)} (drawnOnce : DrawnOnce asked)
    (isAsked : ∀ request, .start request ∈ actions → asked request)
    (idle : state.sessions = []) (accounted : Accounted host asked state.store)
    (runEq : (beside (DocumentsRequest.answer host)).step.run state actions = some reached) :
    Accounted host asked reached.store ∧ Grown state.store reached.store ∧
      ∀ answer ∈ reached.sessions.filterMap returned,
        Answered host asked answer reached.store := by
  have start : AllSafe (documentsContract host asked) asked (fun _ => Answered host asked) state :=
    allSafe_of_idle idle accounted
  obtain ⟨kept, grown⟩ := start.run
    (fun _ requested _ valid => answer_safe drawnOnce requested valid) isAsked runEq
  refine ⟨kept.valid, grown, ?_⟩
  intro answer answerMem
  obtain ⟨_, _, isRight⟩ := kept.right_of_returned answerMem
  exact isRight

/-! ## Examples -/

/-- A host that finds a PDF in every file. -/
def exampleHost : DocumentsHost where
  bucketName := "documents"
  detectFileType _ := some "application/pdf"
  presignedGetObject _ objectKey _ := .ok ("https://files/" ++ objectKey)

/-- A user of an organization with a session. -/
def exampleUser : RequestUser := ⟨uuid "user", uuid "org", "process_owner"⟩

/-- The tables before anything is uploaded. -/
def exampleStore : DocumentsStore where
  documents := []
  workflows := [⟨uuid "flow", uuid "org"⟩]
  auditLogs := []
  sessions := [⟨uuid "talk", uuid "flow"⟩]
  objects := []
  published := []

/-- An identifier of one digit. -/
def drawn (digit : Fin 16) : UuidText.Value :=
  ⟨UuidText.groupLengths.map fun length => List.replicate length digit, rfl⟩

/-- An upload of a report. -/
def exampleReport (documentId : String) (buffer : List UInt8) : Upload :=
  ⟨uuid "talk", none, some ⟨"Q1 report.pdf", buffer.length, buffer⟩, exampleUser, uuid documentId⟩

/-- Two reports of one name are uploaded at once, and the first one is asked for. -/
def exampleReports : List (Sessions.Action DocumentsRequest Unit) :=
  [.start (.uploadDocument (exampleReport "first" [37, 80]) (drawn (Fin.last 15)) .served
      (.lost (.error "timeout"))),
    .start (.uploadDocument (exampleReport "second" [37, 81]) (drawn (Fin.last 14).castSucc) .served
      (.lost (.error "timeout"))),
    .start (.getDocument (uuid "first") exampleUser)] ++
    (List.replicate 6 [.advance 0 (), .advance 1 ()]).flatten ++ [.advance 2 ()]

/-- Both reports are in the bucket, and the first one is handed out. -/
theorem documents_stored_example :
    ∃ reached, (beside (DocumentsRequest.answer exampleHost)).step.run ⟨exampleStore, []⟩
        exampleReports = some reached ∧
      reached.store.objects.map StoredObject.buffer = [[37, 80], [37, 81]] ∧
      (reached.sessions.filterMap returned).map (fun answer => answer.2.bind
        DocumentResponse.presignedUrl) = [some
          "https://files/org/flow/talk/v1-ffffffff-ffff-ffff-ffff-ffffffffffff-Q1-report.pdf"] ∧
      ∀ answer ∈ reached.sessions.filterMap returned,
        Answered exampleHost (fun request => .start request ∈ exampleReports) answer
          reached.store := by
  have drawnOnce : DrawnOnce fun request => .start request ∈ exampleReports := by
    intro request other uniqueId put publish otherPut otherPublish isAsked otherAsked
    have digits : drawn (Fin.last 15) ≠ drawn (Fin.last 14).castSucc := by decide +kernel
    simp [exampleReports] at isAsked otherAsked
    grind
  have accounted : Accounted exampleHost (fun request => .start request ∈ exampleReports)
      exampleStore :=
    ⟨Table.keyed_nil, by decide +kernel, fun _ mem => absurd mem List.not_mem_nil,
      fun _ mem => absurd mem List.not_mem_nil, fun _ mem => absurd mem List.not_mem_nil⟩
  have taken : ((beside (DocumentsRequest.answer exampleHost)).step.run ⟨exampleStore, []⟩
      exampleReports).map (fun reached =>
        (reached.store.objects.map StoredObject.buffer,
          (reached.sessions.filterMap returned).map fun answer => answer.2.bind
            DocumentResponse.presignedUrl)) =
      some ([[37, 80], [37, 81]], [some
        "https://files/org/flow/talk/v1-ffffffff-ffff-ffff-ffff-ffffffffffff-Q1-report.pdf"]) := by
    decide +kernel
  obtain ⟨reached, runEq, seenEq⟩ := Option.map_eq_some_iff.mp taken
  obtain ⟨objectsEq, answersEq⟩ := Prod.mk.inj seenEq
  exact ⟨reached, runEq, objectsEq, answersEq,
    (documents_stored drawnOnce (fun _ => id) rfl accounted runEq).2.2⟩

end Manbaa.Documents
