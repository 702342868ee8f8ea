import Manbaa.Documents.Entities
import Mathlib.Algebra.GroupWithZero.Nat

/-!
# The documents of a session

An upload asks how much the session holds and which number comes next, and inserts the document
after it has been stored.  Reprocessing inserts another version of a document, and asks only for
the number.  A deletion is a read and a save.  Every query, insert and save is a statement of its
own, and nothing is locked.
-/

namespace Manbaa.Documents

open Manbaa.Lib

/-! ## Limits -/

/-- `MAX_DOCUMENT_FILE_SIZE_BYTES`. -/
def maxDocumentFileSizeBytes : Nat := 50 * 1024 * 1024

/-- `MAX_SESSION_DOCUMENT_TOTAL_SIZE_BYTES`. -/
def maxSessionDocumentTotalSizeBytes : Nat := 200 * 1024 * 1024

/-- `assertDocumentFileSizeWithinLimit`. -/
def assertDocumentFileSizeWithinLimit (fileSizeBytes : Nat) : Except Exception Unit :=
  check (decide (fileSizeBytes ≤ maxDocumentFileSizeBytes))
    (.payloadTooLarge ("Uploaded file exceeds the 50 MB limit (" ++ toString fileSizeBytes ++
      " bytes received)."))

/-- `assertSessionDocumentSizeWithinLimit`. -/
def assertSessionDocumentSizeWithinLimit (currentSessionBytes incomingFileBytes : Nat) :
    Except Exception Unit :=
  check (decide (currentSessionBytes + incomingFileBytes ≤ maxSessionDocumentTotalSizeBytes))
    (.payloadTooLarge "Uploading this file would exceed the 200 MB document limit for the session.")

/-! ## Rows and queries -/

/-- A row of `session`, as far as it says what it belongs to. -/
structure Session where
  id : Uuid
  workflowId : Uuid
  deriving DecidableEq

/-- The tables of documents, with the sessions. -/
structure FilesDb extends DocumentsDb where
  sessions : List Session

/-- `findOwnedSession`. -/
def FilesDb.ownedSession? (db : FilesDb) (sessionId orgId : Uuid) : Option Session :=
  db.sessions.find? fun session => session.id == sessionId && db.workflows.any fun workflow =>
    workflow.id == session.workflowId && workflow.orgId == orgId

/-- `getSessionDocumentBytes`: deleted documents count. -/
def FilesDb.sessionDocumentBytes (db : FilesDb) (sessionId : Uuid) : Nat :=
  ((db.documents.filter fun document => document.sessionId == some sessionId).map
    Document.fileSizeBytes).sum

/-- `getNextDocumentVersion`. -/
def FilesDb.nextDocumentVersion (db : FilesDb) (sessionId : Uuid) (filename : String) : Nat :=
  ((db.documents.filter fun document =>
    document.sessionId == some sessionId && document.filename == filename).map
      Document.docVersion).foldr max 0 + 1

/-! ## Requests -/

/-- A file in the body of a request. -/
structure File where
  originalname : String
  size : Nat
  buffer : List UInt8
  deriving DecidableEq

/-- A call of `uploadDocument`, with the identifier that the database generates. -/
structure Upload where
  sessionId : Uuid
  workflowId : Option Uuid
  file : Option File
  currentUser : RequestUser
  documentId : Uuid
  deriving DecidableEq

/-- A call of `reprocessDocument`, with the identifier that the database generates. -/
structure Reprocess where
  documentId : Uuid
  currentUser : RequestUser
  nextId : Uuid
  deriving DecidableEq

/-- A call of `softDeleteDocument`. -/
structure SoftDelete where
  documentId : Uuid
  currentUser : RequestUser
  now : Nat
  deriving DecidableEq

/-- A call of the service. -/
inductive FilesRequest where
  | upload (request : Upload)
  | reprocess (request : Reprocess)
  | softDelete (request : SoftDelete)

/-- What the service takes from outside: the type of a file, and the address under which a
version of it is stored. -/
structure FilesHost where
  validateDocumentMimeType : File → Except Exception String
  storeDocument : Upload → File → Nat → Except Exception String

/-- The deletion, as one of the calls that rewrite a document. -/
def SoftDelete.call (request : SoftDelete) : Call :=
  .softDeleteDocument request.documentId request.currentUser request.now

/-- What an upload has found before it asks for numbers. -/
structure Uploading where
  file : File
  fileType : String
  session : Session

/-- The checks of an upload, and its session. -/
def Upload.find (host : FilesHost) (db : FilesDb) (request : Upload) :
    Except Exception Uploading := do
  let file ← lookUp request.file
    (.badRequest "A multipart file is required under the \"file\" field.")
  assertDocumentFileSizeWithinLimit file.size
  let fileType ← host.validateDocumentMimeType file
  let session ← lookUp (db.ownedSession? request.sessionId request.currentUser.orgId)
    (.notFound "Session not found.")
  check (request.workflowId.all (· == session.workflowId))
    (.badRequest "The provided workflowId does not match the workflow linked to the session.")
  pure ⟨file, fileType, session⟩

/-- The row of an upload. -/
def Upload.document (request : Upload) (found : Uploading) (version : Nat) (storageUrl : String) :
    Document :=
  { id := request.documentId
    workflowId := some found.session.workflowId
    sessionId := some found.session.id
    filename := found.file.originalname
    fileType := found.fileType
    storageUrl := storageUrl
    fileSizeBytes := found.file.size
    extractedText := none
    preprocessingConfidence := none
    docVersion := version
    deletedAt := none
    archivedAt := none }

/-- A document of a session, that can be processed once more. -/
structure Reprocessing where
  document : Document
  sessionId : Uuid
  workflowId : Uuid

/-- The document of a call of `reprocessDocument`. -/
def Reprocess.find (db : FilesDb) (request : Reprocess) : Except Exception Reprocessing := do
  let document ← lookUp (db.activeOwned? request.documentId request.currentUser.orgId)
    (.notFound "Document not found.")
  match document.sessionId, document.workflowId with
  | some sessionId, some workflowId => pure ⟨document, sessionId, workflowId⟩
  | _, _ => .error (.badRequest "Only workflow session documents can be reprocessed.")

/-- The row of the next version. -/
def Reprocess.document (request : Reprocess) (found : Reprocessing) (version : Nat) : Document :=
  { id := request.nextId
    workflowId := some found.workflowId
    sessionId := some found.sessionId
    filename := found.document.filename
    fileType := found.document.fileType
    storageUrl := found.document.storageUrl
    fileSizeBytes := found.document.fileSizeBytes
    extractedText := none
    preprocessingConfidence := none
    docVersion := version
    deletedAt := none
    archivedAt := none }

/-! ## Calls beside each other -/

/-- The next statement of a call, with what it has read. -/
inductive FilesStage where
  | findSession (request : Upload)
  | sumBytes (request : Upload) (found : Uploading)
  | number (request : Upload) (found : Uploading)
  | store (request : Upload) (found : Uploading) (version : Nat)
  | findDocument (request : Reprocess)
  | numberAgain (request : Reprocess) (found : Reprocessing)
  | insert (document : Document)
  | findDeleted (request : SoftDelete)
  | delete (request : SoftDelete) (copy : Document)
  | ended (result : Except Exception Unit)

/-- How a call begins. -/
def FilesStage.start : FilesRequest → FilesStage
  | .upload request => .findSession request
  | .reprocess request => .findDocument request
  | .softDelete request => .findDeleted request

/-- How a call goes on with what it has asked for. -/
def FilesStage.after {α : Type} (next : α → FilesStage) : Except Exception α → FilesStage
  | .ok value => next value
  | .error exception => .ended (.error exception)

/-- The identifier of a row is new. -/
def FilesDb.fresh (db : FilesDb) (document : Document) : Bool :=
  !db.documents.any fun other => other.id == document.id

/-- The tables with a new document. -/
def FilesDb.insert (db : FilesDb) (document : Document) : FilesDb :=
  { db with documents := db.documents ++ [document] }

/-- The tables with a document saved. -/
def FilesDb.save (db : FilesDb) (document : Document) : FilesDb :=
  { db with toDocumentsDb := db.toDocumentsDb.save document }

/-- The next statement of a call. -/
def FilesStage.advance (host : FilesHost) (db : FilesDb) :
    FilesStage → Option (FilesDb × FilesStage)
  | .findSession request => some (db, .after (.sumBytes request) (request.find host db))
  | .sumBytes request found =>
      some (db, .after (fun _ => .number request found)
        (assertSessionDocumentSizeWithinLimit (db.sessionDocumentBytes found.session.id)
          found.file.size))
  | .number request found =>
      some (db, .store request found
        (db.nextDocumentVersion found.session.id found.file.originalname))
  | .store request found version =>
      some (db, .after (fun storageUrl => .insert (request.document found version storageUrl))
        (host.storeDocument request found.file version))
  | .findDocument request => some (db, .after (.numberAgain request) (request.find db))
  | .numberAgain request found =>
      some (db, .insert (request.document found
        (db.nextDocumentVersion found.sessionId found.document.filename)))
  | .insert document =>
      if db.fresh document then some (db.insert document, .ended (.ok ()))
      else some (db, .ended (.error (.queryFailed (.uniqueViolation "document_pkey"))))
  | .findDeleted request =>
      some (db, .after (fun copy => copy.elim (.ended (.ok ())) (.delete request))
        (request.call.read db.toDocumentsDb))
  | .delete request copy => some (db.save (request.call.change copy), .ended (.ok ()))
  | .ended _ => none

/-- The calls of the service. -/
def filesCalls (host : FilesHost) : Sessions FilesDb FilesStage FilesRequest Unit where
  start db request := (db, some (.start request))
  advance db _ stage _ := stage.advance host db

/-! ## What is promised -/

/-- How much the live documents of a session take. -/
def FilesDb.liveBytes (db : FilesDb) (sessionId : Uuid) : Nat :=
  ((db.documents.filter fun document =>
    document.sessionId == some sessionId && document.deletedAt.isNone).map
      Document.fileSizeBytes).sum

/-- The documents are of one session and have one name. -/
def Document.SameFile (document other : Document) : Prop :=
  document.sessionId.isSome ∧ document.sessionId = other.sessionId ∧
    document.filename = other.filename

instance (document other : Document) : Decidable (document.SameFile other) :=
  inferInstanceAs (Decidable (_ ∧ _))

/-- A document that comes before another version of it has a smaller number. -/
def Document.Precedes (earlier later : Document) : Prop :=
  earlier.SameFile later → earlier.docVersion < later.docVersion

instance (earlier later : Document) : Decidable (earlier.Precedes later) :=
  inferInstanceAs (Decidable (_ → _))

/-- No session holds too much, and the numbers of a document grow with its versions. -/
structure WithinLimits (db : FilesDb) : Prop where
  quota : ∀ sessionId, db.liveBytes sessionId ≤ maxSessionDocumentTotalSizeBytes
  numbered : db.documents.Pairwise Document.Precedes

/-- A row that is inserted fits beside the live documents of its session, and has a larger
number than every other version. -/
def FilesStage.Fits (db : FilesDb) : FilesStage → Prop
  | .insert document => db.fresh document = true →
      (∀ sessionId ∈ document.sessionId,
        db.liveBytes sessionId + document.fileSizeBytes ≤ maxSessionDocumentTotalSizeBytes) ∧
      ∀ earlier ∈ db.documents, earlier.Precedes document
  | _ => True

instance (db : FilesDb) (stage : FilesStage) : Decidable (stage.Fits db) :=
  match stage with
  | .insert _ => inferInstanceAs (Decidable (_ → _ ∧ _))
  | .findSession _ | .sumBytes _ _ | .number _ _ | .store _ _ _ | .findDocument _
  | .numberAgain _ _ | .findDeleted _ | .delete _ _ | .ended _ => .isTrue trivial

variable {host : FilesHost} {db target : FilesDb} {document copy row : Document} {sessionId : Uuid}
  {stage next : FilesStage} {others : List FilesStage}

/-! ## Insertions -/

theorem fresh_eq_true_iff :
    db.fresh document = true ↔ Table.get? Document.id db.documents document.id = none := by
  rw [Table.get?_eq_none_iff, FilesDb.fresh, Bool.not_eq_true', List.any_eq_false]
  simp

theorem liveBytes_insert (live : document.deletedAt = none) :
    (db.insert document).liveBytes sessionId =
      db.liveBytes sessionId +
        if document.sessionId = some sessionId then document.fileSizeBytes else 0 := by
  rw [FilesDb.liveBytes, FilesDb.insert, List.filter_append, List.map_append, List.sum_append]
  by_cases own : document.sessionId = some sessionId
  · simp [own, live, FilesDb.liveBytes]
  · simp [own, FilesDb.liveBytes]

/-- An insertion stays within the limits exactly if the row fits. -/
theorem withinLimits_insert_iff (within : WithinLimits db) (live : document.deletedAt = none)
    (fresh : db.fresh document = true) :
    WithinLimits (db.insert document) ↔ (FilesStage.insert document).Fits db := by
  constructor
  · intro after _
    constructor
    · intro sessionId own
      have quota := after.quota sessionId
      rw [liveBytes_insert live, if_pos (Option.mem_def.mp own)] at quota
      exact quota
    · intro earlier earlierMem
      have numbered := (List.pairwise_append.mp after.numbered).2.2
      exact numbered earlier earlierMem document List.mem_cons_self
  · intro fits
    obtain ⟨quota, numbered⟩ := fits fresh
    constructor
    · intro sessionId
      rw [liveBytes_insert live]
      split
      · rename_i own
        exact quota sessionId own
      · exact within.quota sessionId
    · apply List.pairwise_append.mpr
      refine ⟨within.numbered, List.pairwise_singleton _ _, ?_⟩
      intro earlier earlierMem later laterMem
      rw [List.mem_singleton.mp laterMem]
      exact numbered earlier earlierMem

/-! ## Deletions -/

/-- What the number of a document is about. -/
def Document.numbering (document : Document) : Option Uuid × String × Nat :=
  (document.sessionId, document.filename, document.docVersion)

/-- The copy of a deletion has a row, with the same number. -/
def FilesDb.HasRow (db : FilesDb) (copy : Document) : Prop :=
  ∃ row, db.document? copy.id = some row ∧ row.numbering = copy.numbering

theorem precedes_of_numbering {other last : Document} {later : Document}
    (firstEq : row.numbering = other.numbering) (secondEq : later.numbering = last.numbering)
    (precedes : row.Precedes later) : other.Precedes last := by
  simp only [Document.numbering, Prod.mk.injEq] at firstEq secondEq
  rw [Document.Precedes, Document.SameFile] at precedes ⊢
  rw [← firstEq.1, ← firstEq.2.1, ← firstEq.2.2, ← secondEq.1, ← secondEq.2.1, ← secondEq.2.2]
  exact precedes

/-- Numbers grow in tables whose columns of numbers are the same. -/
theorem pairwise_of_numbering {rows others : List Document}
    (same : rows.map Document.numbering = others.map Document.numbering)
    (numbered : rows.Pairwise Document.Precedes) : others.Pairwise Document.Precedes := by
  rw [List.pairwise_iff_getElem] at numbered ⊢
  have lengthEq : rows.length = others.length := by
    simpa using congrArg List.length same
  have columnEq : ∀ i (inRows : i < rows.length) (inOthers : i < others.length),
      rows[i].numbering = others[i].numbering := by
    intro i inRows inOthers
    have cell := congrArg (fun column => column[i]?) same
    simpa [inRows, inOthers] using cell
  intro i j inFirst inSecond before
  exact precedes_of_numbering (columnEq i (by omega) inFirst) (columnEq j (by omega) inSecond)
    (numbered i j (by omega) (by omega) before)

/-- A save puts the row in the place of the one under its identifier. -/
theorem documents_save (found : db.HasRow document) :
    (db.save document).documents = Table.put Document.id db.documents document := by
  obtain ⟨row, rowEq, _⟩ := found
  exact Table.save_of_get?_eq_some rowEq

/-- A deletion takes a document from those that count. -/
theorem sum_put_le {rows : List Document} (deleted : document.deletedAt ≠ none) :
    (((Table.put Document.id rows document).filter fun row =>
        row.sessionId == some sessionId && row.deletedAt.isNone).map Document.fileSizeBytes).sum ≤
      ((rows.filter fun row => row.sessionId == some sessionId && row.deletedAt.isNone).map
        Document.fileSizeBytes).sum := by
  have gone : document.deletedAt.isNone = false := by
    simpa [Option.isSome_iff_ne_none] using deleted
  induction rows with
  | nil => exact le_rfl
  | cons head rest ih =>
      rw [Table.put] at ih ⊢
      rw [List.map_cons, List.filter_cons, List.filter_cons]
      by_cases same : head.id = document.id
      · rw [if_pos same, gone, Bool.and_false, if_neg Bool.false_ne_true]
        split
        · rw [List.map_cons, List.sum_cons]
          exact ih.trans (Nat.le_add_left _ _)
        · exact ih
      · rw [if_neg same]
        split
        · rw [List.map_cons, List.map_cons, List.sum_cons, List.sum_cons]
          exact Nat.add_le_add_left ih _
        · exact ih

/-- A deletion stays within the limits. -/
theorem withinLimits_save (keyed : Table.Keyed Document.id db.documents)
    (within : WithinLimits db) (deleted : document.deletedAt ≠ none) (found : db.HasRow document) :
    WithinLimits (db.save document) := by
  have savedEq := documents_save found
  constructor
  · intro sessionId
    rw [FilesDb.liveBytes, savedEq]
    exact (sum_put_le deleted).trans (within.quota sessionId)
  · rw [savedEq]
    apply pairwise_of_numbering ?_ within.numbered
    apply (Table.map_put_of_eq ?_).symm
    intro old oldMem sameId
    obtain ⟨row, rowEq, numberingEq⟩ := found
    have oldEq := keyed.get?_of_mem oldMem
    rw [sameId] at oldEq
    cases rowEq.symm.trans oldEq
    exact numberingEq.symm

/-! ## What calls rely on -/

/-- What a call may rely on. -/
def FilesStage.Owns (db : FilesDb) : FilesStage → Prop
  | .insert document => document.deletedAt = none
  | .delete _ copy => db.HasRow copy
  | _ => True

theorem hasRow_insert (found : db.HasRow copy) : (db.insert document).HasRow copy := by
  obtain ⟨row, rowEq, numberingEq⟩ := found
  refine ⟨row, ?_, numberingEq⟩
  rw [DocumentsDb.document?] at rowEq ⊢
  rw [FilesDb.insert, Table.get?_append, rowEq]
  rfl

theorem hasRow_save (saved : db.HasRow document) (found : db.HasRow copy) :
    (db.save document).HasRow copy := by
  obtain ⟨row, rowEq, numberingEq⟩ := found
  rw [FilesDb.HasRow, DocumentsDb.document?, FilesDb.save, DocumentsDb.save, Table.get?_save]
  split
  · rename_i sameId
    obtain ⟨other, otherEq, otherNumbering⟩ := saved
    rw [sameId] at otherEq
    cases otherEq.symm.trans rowEq
    exact ⟨document, rfl, otherNumbering.symm.trans numberingEq⟩
  · exact ⟨row, rowEq, numberingEq⟩

/-- The tables are within the limits, and identifiers are unique. -/
structure FilesDb.Kept (db : FilesDb) : Prop where
  keyed : Table.Keyed Document.id db.documents
  within : WithinLimits db

/-- What a statement of a call does: nothing, an insertion, or a deletion. -/
inductive Writes (stage next : FilesStage) (db : FilesDb) : FilesDb → Prop where
  | nothing (quiet : ∀ document, stage = .insert document → db.fresh document = false)
      (owns : next.Owns db) : Writes stage next db db
  | inserts (document : Document) (stageEq : stage = .insert document)
      (fresh : db.fresh document = true) (nextEq : next = .ended (.ok ())) :
      Writes stage next db (db.insert document)
  | deletes (request : SoftDelete) (copy : Document) (stageEq : stage = .delete request copy)
      (nextEq : next = .ended (.ok ())) : Writes stage next db (db.save (request.call.change copy))

theorem hasRow_change {request : SoftDelete} (found : db.HasRow copy) :
    db.HasRow (request.call.change copy) :=
  found

/-- The copy that a deletion reads is a row. -/
theorem owns_after_read {request : SoftDelete} {copied : Option Document}
    (readEq : request.call.read db.toDocumentsDb = .ok copied) :
    (copied.elim (FilesStage.ended (.ok ())) (FilesStage.delete request)).Owns db := by
  cases copied with
  | none => trivial
  | some copy =>
      have rowEq := (read_eq_some readEq).1
      have sameId := Table.key_of_get? rowEq
      rw [← sameId] at rowEq
      exact ⟨copy, rowEq, rfl⟩

theorem owns_after {α : Type} {rest : α → FilesStage} {asked : Except Exception α}
    (owns : ∀ value, asked = .ok value → (rest value).Owns db) :
    (FilesStage.after rest asked).Owns db := by
  cases asked with
  | error exception => trivial
  | ok value => exact owns value rfl

/-- The statements of the calls. -/
theorem advance_writes (advanceEq : stage.advance host db = some (target, next)) :
    Writes stage next db target := by
  cases stage with
  | findSession request =>
      cases advanceEq
      exact .nothing (by intro _ same; cases same) (owns_after fun _ _ => trivial)
  | sumBytes request found =>
      cases advanceEq
      exact .nothing (by intro _ same; cases same) (owns_after fun _ _ => trivial)
  | number request found =>
      cases advanceEq
      exact .nothing (by intro _ same; cases same) trivial
  | store request found version =>
      cases advanceEq
      exact .nothing (by intro _ same; cases same) (owns_after fun _ _ => rfl)
  | findDocument request =>
      cases advanceEq
      exact .nothing (by intro _ same; cases same) (owns_after fun _ _ => trivial)
  | numberAgain request found =>
      cases advanceEq
      exact .nothing (by intro _ same; cases same) rfl
  | insert document =>
      rw [FilesStage.advance] at advanceEq
      split at advanceEq
      · rename_i fresh
        cases advanceEq
        exact .inserts document rfl fresh rfl
      · rename_i taken
        cases advanceEq
        refine .nothing ?_ trivial
        intro other same
        cases same
        exact Bool.eq_false_iff.mpr taken
  | findDeleted request =>
      cases advanceEq
      exact .nothing (by intro _ same; cases same) (owns_after fun _ readEq => owns_after_read readEq)
  | delete request copy =>
      cases advanceEq
      exact .deletes request copy rfl rfl
  | ended result => cases advanceEq

theorem deletedAt_change_ne_none {request : SoftDelete} :
    (request.call.change copy).deletedAt ≠ none :=
  nofun

/-- The calls stay within the limits as long as the rows that they insert fit. -/
theorem keeps_withinLimits : (filesCalls host).Keeps (fun _ => True)
    (fun db _ stage _ => stage.Fits db) FilesDb.Kept (fun db stage => stage.Owns db)
    (fun _ _ => True) where
  started := by
    intro db request kept _
    refine ⟨kept, fun _ owns => owns, ?_⟩
    intro stage startEq
    cases Option.mem_some.mp startEq
    refine ⟨?_, fun _ => ⟨trivial, trivial⟩⟩
    cases request with
    | upload request | reprocess request | softDelete request => trivial
  advanced := by
    intro db others stage _ target next leaves fits advanceEq
    have kept := leaves.holds
    cases advance_writes advanceEq with
    | nothing quiet owns => exact ⟨kept, owns, leaves.beside, fun _ _ => ⟨trivial, trivial⟩⟩
    | inserts document stageEq fresh nextEq =>
        subst stageEq
        subst nextEq
        have within := (withinLimits_insert_iff kept.within leaves.owns fresh).mpr fits
        have keyed := Table.keyed_append kept.keyed (fresh_eq_true_iff.mp fresh)
        refine ⟨⟨keyed, within⟩, trivial, ?_, fun _ _ => ⟨trivial, trivial⟩⟩
        intro other otherMem
        have owns := leaves.beside other otherMem
        cases other with
        | insert other => exact owns
        | delete request copy => exact hasRow_insert owns
        | _ => trivial
    | deletes request copy stageEq nextEq =>
        subst stageEq
        subst nextEq
        have found : db.HasRow (request.call.change copy) := hasRow_change leaves.owns
        have within := withinLimits_save kept.keyed kept.within deletedAt_change_ne_none found
        refine ⟨⟨Table.keyed_save kept.keyed, within⟩, trivial, ?_, fun _ _ => ⟨trivial, trivial⟩⟩
        intro other otherMem
        have owns := leaves.beside other otherMem
        cases other with
        | insert other => exact owns
        | delete request copy => exact hasRow_save found owns
        | _ => trivial

/-- A host that takes every file. -/
def exampleFilesHost : FilesHost where
  validateDocumentMimeType _ := .ok "text/plain"
  storeDocument _ file _ := .ok file.originalname

/-- A session without documents, and no call. -/
def exampleFiles : Sessions.State FilesDb FilesStage where
  store :=
    { documents := []
      workflows := [⟨uuid "workflow", uuid "org"⟩]
      auditLogs := []
      sessions := [⟨uuid "session", uuid "workflow"⟩] }
  sessions := []

/-- The owner of the session. -/
def exampleOwner : RequestUser := ⟨uuid "owner", uuid "org", "process_owner"⟩

/-- An upload of a file of the largest size. -/
def exampleUpload (filename id : String) : Sessions.Action FilesRequest Unit :=
  .start <| .upload
    { sessionId := uuid "session"
      workflowId := none
      file := some ⟨filename, maxDocumentFileSizeBytes, []⟩
      currentUser := exampleOwner
      documentId := uuid id }

/-- A call takes its next statements. -/
def advances (index steps : Nat) : List (Sessions.Action FilesRequest Unit) :=
  List.replicate steps (.advance index ())

/-- Four files are uploaded, one after the other. -/
def exampleUploads : List (Sessions.Action FilesRequest Unit) :=
  exampleUpload "a" "first" :: advances 0 5 ++ exampleUpload "b" "second" :: advances 1 5 ++
    exampleUpload "c" "third" :: advances 2 5 ++ exampleUpload "d" "fourth" :: advances 3 5

end Manbaa.Documents
