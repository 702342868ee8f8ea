import Manbaa.Core.Http
import Manbaa.Lib.Except
import Manbaa.Lib.Sessions
import Manbaa.Lib.Table
import Mathlib.Data.Rat.Defs

/-!
# Documents and the calls that rewrite them

A user deletes a document or corrects its text, and the worker's results fill it in.  Every
call reads the row of the document and saves the copy that it has read, with its own change:
the two are statements of their own, and nothing is locked.
-/

namespace Manbaa.Documents

open Manbaa.Lib

/-! ## Rows -/

/-- A row of `document`. -/
structure Document where
  id : Uuid
  workflowId : Option Uuid
  sessionId : Option Uuid
  filename : String
  fileType : String
  storageUrl : String
  fileSizeBytes : Nat
  extractedText : Option String
  preprocessingConfidence : Option ℚ
  docVersion : Nat
  deletedAt : Option Nat
  archivedAt : Option Nat
  deriving DecidableEq

/-- A row of `workflow`, as far as it says who owns a document. -/
structure Workflow where
  id : Uuid
  orgId : Uuid
  deriving DecidableEq

/-- A row of the audit log about the text of a document. -/
structure AuditLog where
  workflowId : Option Uuid
  actorId : Uuid
  eventType : String
  elementId : Uuid
  beforeText : Option String
  beforeConfidence : Option ℚ
  afterText : Option String
  afterConfidence : Option ℚ
  deriving DecidableEq

/-- The tables. -/
structure DocumentsDb where
  documents : List Document
  workflows : List Workflow
  auditLogs : List AuditLog
  deriving DecidableEq

/-- The row of a document. -/
def DocumentsDb.document? (db : DocumentsDb) (id : Uuid) : Option Document :=
  Table.get? Document.id db.documents id

/-- `save`: every column of the copy is written. -/
def DocumentsDb.save (db : DocumentsDb) (document : Document) : DocumentsDb :=
  { db with documents := Table.save Document.id db.documents document }

/-- `findActiveOwnedDocument`. -/
def DocumentsDb.activeOwned? (db : DocumentsDb) (documentId orgId : Uuid) : Option Document :=
  (db.document? documentId).filter fun document =>
    document.deletedAt.isNone && db.workflows.any fun workflow =>
      some workflow.id == document.workflowId && workflow.orgId == orgId

/-! ## Calls -/

/-- `DocumentPreprocessResultEvent`. -/
structure PreprocessResult where
  documentId : Uuid
  extractedText : String
  preprocessingConfidence : Option ℚ
  deriving DecidableEq

/-- A call of `softDeleteDocument` or `updateExtractedText`, or the delivery of a result to
`handlePreprocessResult`. -/
inductive Call where
  | softDeleteDocument (documentId : Uuid) (currentUser : RequestUser) (now : Nat)
  | updateExtractedText (documentId : Uuid) (extractedText : String) (currentUser : RequestUser)
  | handlePreprocessResult (payload : PreprocessResult)
  deriving DecidableEq

/-- The document that a call is about. -/
def Call.documentId : Call → Uuid
  | .softDeleteDocument documentId _ _ | .updateExtractedText documentId _ _ => documentId
  | .handlePreprocessResult payload => payload.documentId

/-- What the read of a call finds: the row, an exception, or no reason to go on. -/
def Call.read (db : DocumentsDb) : Call → Except Exception (Option Document)
  | .softDeleteDocument documentId currentUser _ | .updateExtractedText documentId _ currentUser =>
      (lookUp (db.activeOwned? documentId currentUser.orgId)
        (.notFound "Document not found.")).map some
  | .handlePreprocessResult payload =>
      .ok ((db.document? payload.documentId).filter fun document =>
        document.deletedAt.isNone && document.archivedAt.isNone)

/-- What a call makes of the copy that it has read. -/
def Call.change : Call → Document → Document
  | .softDeleteDocument _ _ now, document => { document with deletedAt := some now }
  | .updateExtractedText _ extractedText _, document =>
      { document with extractedText := some extractedText }
  | .handlePreprocessResult payload, document =>
      { document with
        extractedText := some payload.extractedText
        preprocessingConfidence := payload.preprocessingConfidence }

/-- What a call logs after its save. -/
def Call.audit (before saved : Document) : Call → Option AuditLog
  | .updateExtractedText _ _ currentUser => some
      { workflowId := saved.workflowId
        actorId := currentUser.id
        eventType := "DOCUMENT_EXTRACTED_TEXT_UPDATED"
        elementId := saved.id
        beforeText := before.extractedText
        beforeConfidence := before.preprocessingConfidence
        afterText := saved.extractedText
        afterConfidence := saved.preprocessingConfidence }
  | _ => none

/-! ## Calls beside each other -/

/-- The next statement of a call, with the copy that it has read by then. -/
inductive Stage where
  | reading
  | saving (copy : Document)
  | logging (entry : AuditLog)
  | returned
  | dropped
  | threw (exception : Exception)
  deriving DecidableEq

/-- A call and how far it has come. -/
structure Running where
  call : Call
  stage : Stage
  deriving DecidableEq

/-- One statement of a call. -/
def Running.next (db : DocumentsDb) (running : Running) : Option (DocumentsDb × Running) :=
  match running.stage with
  | .reading =>
      match running.call.read db with
      | .ok (some copy) => some (db, ⟨running.call, .saving copy⟩)
      | .ok none => some (db, ⟨running.call, .dropped⟩)
      | .error exception => some (db, ⟨running.call, .threw exception⟩)
  | .saving copy =>
      let saved := running.call.change copy
      some (db.save saved,
        ⟨running.call, (running.call.audit copy saved).elim .returned .logging⟩)
  | .logging entry =>
      some ({ db with auditLogs := db.auditLogs ++ [entry] }, ⟨running.call, .returned⟩)
  | .returned | .dropped | .threw _ => none

/-- The calls beside each other. -/
def calls : Sessions DocumentsDb Running Call Unit where
  start := fun db call => (db, some ⟨call, .reading⟩)
  advance := fun db _ running _ => running.next db

/-- The state in which no call has started. -/
def idle (db : DocumentsDb) : Sessions.State DocumentsDb Running := ⟨db, []⟩

/-- The call deletes a document. -/
def Call.Deletes (documentId : Uuid) : Call → Prop
  | .softDeleteDocument id _ _ => id = documentId
  | _ => False

/-- The call corrects the text of a document. -/
def Call.Corrects (documentId : Uuid) : Call → Prop
  | .updateExtractedText id _ _ => id = documentId
  | _ => False

instance (documentId : Uuid) (call : Call) : Decidable (call.Deletes documentId) :=
  match call with
  | .softDeleteDocument id _ _ => inferInstanceAs (Decidable (id = documentId))
  | .updateExtractedText _ _ _ | .handlePreprocessResult _ => .isFalse id

instance (documentId : Uuid) (call : Call) : Decidable (call.Corrects documentId) :=
  match call with
  | .updateExtractedText id _ _ => inferInstanceAs (Decidable (id = documentId))
  | .softDeleteDocument _ _ _ | .handlePreprocessResult _ => .isFalse id

variable {db : DocumentsDb} {call : Call} {copy : Document} {documentId : Uuid}

/-- What a call has read is the row of its document, not deleted. -/
theorem read_eq_some (readEq : call.read db = .ok (some copy)) :
    db.document? call.documentId = some copy ∧ copy.deletedAt = none := by
  cases call with
  | softDeleteDocument id user now | updateExtractedText id text user =>
      cases foundEq : db.activeOwned? id user.orgId with
      | none =>
          rw [Call.read, foundEq] at readEq
          cases readEq
      | some found =>
          rw [Call.read, foundEq] at readEq
          cases readEq
          obtain ⟨rowEq, facts⟩ := Option.filter_eq_some_iff.mp foundEq
          simp only [Bool.and_eq_true, Option.isNone_iff_eq_none] at facts
          exact ⟨rowEq, facts.1⟩
  | handlePreprocessResult payload =>
      obtain ⟨rowEq, facts⟩ := Option.filter_eq_some_iff.mp (Except.ok.inj readEq)
      simp only [Bool.and_eq_true, Option.isNone_iff_eq_none] at facts
      exact ⟨rowEq, facts.1⟩

@[simp]
theorem Call.change_id : (call.change copy).id = copy.id := by
  cases call <;> rfl

/-- A deletion sets the date, and the other calls write the date of their copy. -/
theorem Call.change_deletedAt :
    (call.change copy).deletedAt =
      match call with
      | .softDeleteDocument _ _ now => some now
      | _ => copy.deletedAt := by
  cases call <;> rfl

end Manbaa.Documents
