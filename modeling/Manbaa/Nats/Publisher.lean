import Manbaa.Lib.Deduplication
import Manbaa.Lib.Json
import Manbaa.Lib.Run
import Manbaa.Lib.UuidText

/-!
# The publisher

Messages of the legacy subjects carry an identifier put together of a correlation, the subject and
the execution that they are about, by which the broker drops duplicates.  The callers fill the
correlation in in different ways, and one of them leaves it empty.
-/

namespace Manbaa.Nats

open Manbaa.Lib Manbaa.Lib.Deduplication

/-! ## Messages -/

/-- The identifier of a row, and of what `uuidv4` draws. -/
abbrev Id := UuidText.Value

/-- `AiTaskNewEvent`. -/
structure AiTaskNewEvent where
  correlationId : String
  sessionId : String
  orgId : String
  taskType : String
  mode : String
  input : Json
  pipelineExecutionId : String
  resumeFromCheckpoint : Option String
  scopedTarget : Option Json
  triggeredBy : Option String

/-- `AiTaskDivergenceEvent`. -/
structure AiTaskDivergenceEvent where
  correlationId : String
  reportId : String
  graphAId : String
  graphBId : String
  comparisonType : String
  sessionId : String

/-- `AiContextLoadEvent`. -/
structure AiContextLoadEvent where
  correlationId : String
  sessionId : String
  orgId : String
  activeRules : List Json
  skillIds : List String

/-- `DocumentPreprocessEvent`. -/
structure DocumentPreprocessEvent where
  documentId : String
  fileType : String
  storageUrl : String

/-- `WorkflowUpdatedEvent`. -/
structure WorkflowUpdatedEvent where
  workflowId : String
  versionNumber : Int
  changedElements : List Json
  source : String
  correlationId : String

/-- `SessionFinalizedEvent`. -/
structure SessionFinalizedEvent where
  sessionId : String
  workflowId : String
  finalVersionNumber : Int
  finalConfidence : Json
  finalizedAt : String

/-- What a message carries. -/
inductive Payload where
  | aiTaskNew (event : AiTaskNewEvent)
  | aiTaskDivergence (event : AiTaskDivergenceEvent)
  | aiContextLoad (event : AiContextLoadEvent)
  | documentPreprocess (event : DocumentPreprocessEvent)
  | workflowUpdated (event : WorkflowUpdatedEvent)
  | sessionFinalized (event : SessionFinalizedEvent)

/-- The subjects on which the callers publish. -/
inductive Subject where
  | aiTasksNew
  | aiTasksDivergence
  | aiContextLoad
  | documentPreprocess
  | workflowUpdated
  | sessionFinalized
  deriving DecidableEq

/-- The texts of `SUBJECTS`. -/
def Subject.text : Subject → String
  | .aiTasksNew => "ai.tasks.new"
  | .aiTasksDivergence => "ai.tasks.divergence"
  | .aiContextLoad => "ai.context.load"
  | .documentPreprocess => "document.preprocess"
  | .workflowUpdated => "workflow.events.updated"
  | .sessionFinalized => "session.events.finalized"

/-- What the client publishes. -/
structure Message where
  subject : String
  payload : Payload
  msgId : String

/-- `buildMsgId`. -/
def buildMsgId (correlationId subject : String) (pipelineExecutionId : Option String) : String :=
  correlationId ++ ":" ++ subject ++ ":" ++ pipelineExecutionId.getD ""

/-- A message of a subject. -/
def Message.on (subject : Subject) (payload : Payload) (correlationId : String)
    (pipelineExecutionId : Option String) : Message :=
  ⟨subject.text, payload, buildMsgId correlationId subject.text pipelineExecutionId⟩

namespace NatsPublisherService

def publishAiTaskNew (event : AiTaskNewEvent) : Message :=
  .on .aiTasksNew (.aiTaskNew event) event.correlationId (some event.pipelineExecutionId)

def publishAiTaskDivergence (event : AiTaskDivergenceEvent) : Message :=
  .on .aiTasksDivergence (.aiTaskDivergence event) event.correlationId (some event.reportId)

def publishAiContextLoad (event : AiContextLoadEvent) : Message :=
  .on .aiContextLoad (.aiContextLoad event) event.correlationId none

def publishDocumentPreprocess (event : DocumentPreprocessEvent) : Message :=
  .on .documentPreprocess (.documentPreprocess event) event.documentId none

def publishWorkflowUpdated (event : WorkflowUpdatedEvent) : Message :=
  .on .workflowUpdated (.workflowUpdated event) event.correlationId none

def publishSessionFinalized (event : SessionFinalizedEvent) : Message :=
  .on .sessionFinalized (.sessionFinalized event) event.sessionId none

end NatsPublisherService

/-! ## Callers -/

/-- `getCorrelationId` of the context of a request; the identifier in it comes from the client. -/
def getCorrelationId : Option String → String
  | some "" | none => "system"
  | some correlationId => correlationId

/-- What `publishAiTask` is called with, and what it reads and draws. -/
structure PublishAiTask where
  context : Option String
  sessionId : Id
  orgId : Id
  taskType : String
  mode : String
  input : Json
  resumeFromCheckpoint : Option String
  triggeredBy : Option Id
  activeRules : List Json
  skillIds : List Id
  executionId : Id

/-- A place at which a message is published, with what it has read and drawn. -/
inductive Publication where
  /-- `publishAiTask` loads the context. -/
  | contextLoad (call : PublishAiTask)
  /-- `publishAiTask` dispatches the task. -/
  | taskNew (call : PublishAiTask)
  /-- `injectToAi` of a comment dispatches a task. -/
  | commentTask (commentId sessionId orgId userId executionId : Id) (content elementId : Json)
  /-- `GenerationCompleteHandler` asks for a comparison. -/
  | divergence (correlationId : String) (reportId graphAId graphBId sessionId : Id)
  /-- `update` of a workflow by a user, with the identifier that `uuidv4` draws. -/
  | workflowUpdate (workflowId : Id) (versionNumber : Int) (source : String) (drawn : Id)
  /-- `markWorkflowUpdated` of `GenerationCompleteHandler`. -/
  | markWorkflowUpdated (workflowId : Id) (versionNumber : Int) (changedElements : List Json)
  /-- A document is uploaded, or uploaded again for another run. -/
  | document (documentId : Id) (fileType storageUrl : String)
  /-- `finalize` of a session. -/
  | finalize (sessionId workflowId : Id) (finalVersionNumber : Int) (finalConfidence : Json)
      (finalizedAt : String)

/-- The message that is published. -/
def Publication.message : Publication → Message
  | .contextLoad call =>
      NatsPublisherService.publishAiContextLoad
        { correlationId := getCorrelationId call.context
          sessionId := call.sessionId.text
          orgId := call.orgId.text
          activeRules := call.activeRules
          skillIds := call.skillIds.map UuidText.Value.text }
  | .taskNew call =>
      NatsPublisherService.publishAiTaskNew
        { correlationId := getCorrelationId call.context
          sessionId := call.sessionId.text
          orgId := call.orgId.text
          taskType := call.taskType
          mode := call.mode
          input := call.input
          pipelineExecutionId := call.executionId.text
          resumeFromCheckpoint := call.resumeFromCheckpoint
          scopedTarget := none
          triggeredBy := call.triggeredBy.map UuidText.Value.text }
  | .commentTask commentId sessionId orgId userId executionId content elementId =>
      NatsPublisherService.publishAiTaskNew
        { correlationId := "comment-" ++ commentId.text
          sessionId := sessionId.text
          orgId := orgId.text
          taskType := "SCOPED_REPROCESS"
          mode := "auto"
          input := .obj [("comment_text", content), ("target_element_id", elementId)]
          pipelineExecutionId := executionId.text
          resumeFromCheckpoint := none
          scopedTarget :=
            some (.obj [("comment_id", .str commentId.text), ("element_id", elementId)])
          triggeredBy := some userId.text }
  | .divergence correlationId reportId graphAId graphBId sessionId =>
      NatsPublisherService.publishAiTaskDivergence
        { correlationId := correlationId
          reportId := reportId.text
          graphAId := graphAId.text
          graphBId := graphBId.text
          comparisonType := "INTENT_VS_GENERATED"
          sessionId := sessionId.text }
  | .workflowUpdate workflowId versionNumber source drawn =>
      NatsPublisherService.publishWorkflowUpdated
        { workflowId := workflowId.text
          versionNumber := versionNumber
          changedElements := []
          source := source
          correlationId := drawn.text }
  | .markWorkflowUpdated workflowId versionNumber changedElements =>
      NatsPublisherService.publishWorkflowUpdated
        { workflowId := workflowId.text
          versionNumber := versionNumber
          changedElements := changedElements
          source := "ai"
          correlationId := "" }
  | .document documentId fileType storageUrl =>
      NatsPublisherService.publishDocumentPreprocess
        { documentId := documentId.text
          fileType := fileType
          storageUrl := storageUrl }
  | .finalize sessionId workflowId finalVersionNumber finalConfidence finalizedAt =>
      NatsPublisherService.publishSessionFinalized
        { sessionId := sessionId.text
          workflowId := workflowId.text
          finalVersionNumber := finalVersionNumber
          finalConfidence := finalConfidence
          finalizedAt := finalizedAt }

/-! ## Runs -/

/-- What a message is about: the task of an execution, its context, a report, a version of a
workflow, a document, or one finalisation. -/
inductive LogicalEvent where
  | contextLoaded (executionId : Id)
  | taskRequested (executionId : Id)
  | comparisonRequested (reportId : Id)
  | workflowUpdated (workflowId : Id) (versionNumber : Int)
  | documentSubmitted (documentId : Id)
  | sessionFinalized (sessionId : Id) (occurrence : Nat)
  deriving DecidableEq

/-- The event of a publication after so many others; every finalisation is one of its own. -/
def Publication.event (occurrence : Nat) : Publication → LogicalEvent
  | .contextLoad call => .contextLoaded call.executionId
  | .taskNew call => .taskRequested call.executionId
  | .commentTask _ _ _ _ executionId _ _ => .taskRequested executionId
  | .divergence _ reportId _ _ _ => .comparisonRequested reportId
  | .workflowUpdate workflowId versionNumber _ _ => .workflowUpdated workflowId versionNumber
  | .markWorkflowUpdated workflowId versionNumber _ => .workflowUpdated workflowId versionNumber
  | .document documentId _ _ => .documentSubmitted documentId
  | .finalize sessionId _ _ _ _ => .sessionFinalized sessionId occurrence

/-- What has been published, and what it was about. -/
structure Published where
  publication : Publication
  event : LogicalEvent

/-- The stream, and everything that has been published. -/
structure Backend where
  broker : MessageStream String Published
  published : List Published

/-- Something is published, or time passes. -/
inductive BackendAction where
  | publish (publication : Publication)
  | wait (duration : Nat)

/-- What `uuidv4` draws for a publication. -/
def Publication.drawn? : Publication → Option Id
  | .workflowUpdate _ _ _ drawn => some drawn
  | _ => none

/-- `uuidv4` draws nothing twice. -/
def Backend.Draws (backend : Backend) (publication : Publication) : Prop :=
  ∀ drawn ∈ publication.drawn?, ∀ earlier ∈ backend.published,
    earlier.publication.drawn? ≠ some drawn

instance (backend : Backend) (publication : Publication) :
    Decidable (backend.Draws publication) :=
  inferInstanceAs (Decidable (∀ drawn ∈ publication.drawn?, _))

/-- The publication as it is logged. -/
def Backend.record (backend : Backend) (publication : Publication) : Published :=
  ⟨publication, publication.event backend.published.length⟩

/-- The backend after a publication, with a stream that has a window for duplicates. -/
def Backend.publish (window : Nat) (backend : Backend) (publication : Publication) : Backend where
  broker :=
    backend.broker.publish window publication.message.msgId (backend.record publication)
  published := backend.published ++ [backend.record publication]

/-- One step. -/
def publisherSystem (window : Nat) : Step Backend BackendAction
  | backend, .publish publication =>
      if backend.Draws publication then some (backend.publish window publication) else none
  | backend, .wait duration => some { backend with broker := backend.broker.wait duration }

/-- Messages about different events have different identifiers, and every event that has been
published has reached the stream. -/
structure NoLoss (backend : Backend) : Prop where
  distinct : ∀ first ∈ backend.published, ∀ second ∈ backend.published,
    first.event ≠ second.event →
      first.publication.message.msgId ≠ second.publication.message.msgId
  reached : ∀ published ∈ backend.published, ∃ entry ∈ backend.broker.entries,
    entry.message.event = published.event

/-- Two publications that the broker cannot tell apart: of the contexts of two executions in
requests with one correlation, of two versions that the AI service made, or of two finalisations of
one session. -/
def Publication.Collides : Publication → Publication → Prop
  | .contextLoad first, .contextLoad second =>
      getCorrelationId first.context = getCorrelationId second.context ∧
        first.executionId ≠ second.executionId
  | .markWorkflowUpdated firstId firstNumber _, .markWorkflowUpdated secondId secondNumber _ =>
      ¬ (firstId = secondId ∧ firstNumber = secondNumber)
  | .finalize firstId _ _ _ _, .finalize secondId _ _ _ _ => firstId = secondId
  | _, _ => False

instance (first second : Publication) : Decidable (first.Collides second) := by
  unfold Publication.Collides
  split <;> infer_instance

/-- Nothing has been published that the broker cannot tell from the next publication. -/
def Tellable (backend : Backend) : BackendAction → Prop
  | .publish publication =>
      ∀ earlier ∈ backend.published, ¬ earlier.publication.Collides publication
  | .wait _ => True

instance (backend : Backend) (action : BackendAction) : Decidable (Tellable backend action) :=
  match action with
  | .publish publication => inferInstanceAs (Decidable
      (∀ earlier ∈ backend.published, ¬ earlier.publication.Collides publication))
  | .wait _ => .isTrue trivial

/-! ## Identifiers of messages -/

theorem colon_not_mem_text (value : Id) : ':' ∉ value.text.toList := by
  intro colonMem
  rcases UuidText.mem_text colonMem with isHyphen | ⟨digit, digitEq⟩
  · cases isHyphen
  · revert digitEq
    revert digit
    decide

/-- The last part of an identifier, which is empty where there is none. -/
def lastPart (part : Option Id) : String := (part.map UuidText.Value.text).getD ""

theorem colon_not_mem_lastPart (part : Option Id) : ':' ∉ (lastPart part).toList := by
  cases part with
  | none => exact List.not_mem_nil
  | some value => exact colon_not_mem_text value

theorem lastPart_injective : Function.Injective lastPart := by
  intro first second same
  cases first with
  | none =>
      cases second with
      | none => rfl
      | some value => exact absurd same.symm UuidText.text_ne_empty
  | some value =>
      cases second with
      | none => exact absurd same UuidText.text_ne_empty
      | some other => exact congrArg some (UuidText.text_injective same)

theorem colon_not_mem_subject (subject : Subject) : ':' ∉ subject.text.toList := by
  cases subject <;> decide +kernel

theorem subject_text_injective : Function.Injective Subject.text := by
  intro first second same
  revert same
  cases first <;> cases second <;> decide +kernel

/-- The correlation, the subject and the last part of an identifier. -/
def Publication.parts : Publication → String × Subject × Option Id
  | .contextLoad call => (getCorrelationId call.context, .aiContextLoad, none)
  | .taskNew call => (getCorrelationId call.context, .aiTasksNew, some call.executionId)
  | .commentTask commentId _ _ _ executionId _ _ =>
      ("comment-" ++ commentId.text, .aiTasksNew, some executionId)
  | .divergence correlationId reportId _ _ _ => (correlationId, .aiTasksDivergence, some reportId)
  | .workflowUpdate _ _ _ drawn => (drawn.text, .workflowUpdated, none)
  | .markWorkflowUpdated _ _ _ => ("", .workflowUpdated, none)
  | .document documentId _ _ => (documentId.text, .documentPreprocess, none)
  | .finalize sessionId _ _ _ _ => (sessionId.text, .sessionFinalized, none)

theorem msgId_eq (publication : Publication) :
    publication.message.msgId = buildMsgId publication.parts.1 publication.parts.2.1.text
      (publication.parts.2.2.map UuidText.Value.text) := by
  cases publication <;> rfl

/-- An identifier determines its parts. -/
theorem buildMsgId_injective {first second : String} {subject other : Subject}
    {last later : Option Id}
    (same : buildMsgId first subject.text (last.map UuidText.Value.text) =
      buildMsgId second other.text (later.map UuidText.Value.text)) :
    first = second ∧ subject = other ∧ last = later := by
  have shape : ∀ (correlation text : String) (part : Option Id),
      (buildMsgId correlation text (part.map UuidText.Value.text)).toList =
        (correlation.toList ++ ':' :: text.toList) ++ ':' :: (lastPart part).toList := by
    intro correlation text part
    simp [buildMsgId, lastPart]
  have lists := congrArg String.toList same
  rw [shape, shape] at lists
  obtain ⟨sameFront, sameLast⟩ := append_cons_injective_last (colon_not_mem_lastPart last)
    (colon_not_mem_lastPart later) lists
  obtain ⟨sameCorrelation, sameSubject⟩ := append_cons_injective_last
    (colon_not_mem_subject subject) (colon_not_mem_subject other) sameFront
  exact ⟨String.toList_injective sameCorrelation,
    subject_text_injective (String.toList_injective sameSubject),
    lastPart_injective (String.toList_injective sameLast)⟩

theorem msgId_eq_iff {first second : Publication} :
    first.message.msgId = second.message.msgId ↔ first.parts = second.parts := by
  rw [msgId_eq, msgId_eq]
  constructor
  · intro same
    obtain ⟨sameCorrelation, sameSubject, sameLast⟩ := buildMsgId_injective same
    exact Prod.ext sameCorrelation (Prod.ext sameSubject sameLast)
  · intro same
    rw [same]

/-- Where `uuidv4` draws nothing twice, publications of different events collide exactly if their
messages have the same identifier. -/
theorem collides_iff {first second : Publication} {before after : Nat} (later : before < after)
    (fresh : ∀ drawn ∈ second.drawn?, first.drawn? ≠ some drawn) :
    first.Collides second ↔
      first.event before ≠ second.event after ∧
        first.message.msgId = second.message.msgId := by
  rw [msgId_eq_iff]
  -- publications of different subjects have different parts, and are of different events
  cases first <;> cases second <;>
    simp [Publication.Collides, Publication.event, Publication.parts, Publication.drawn?]
      at fresh ⊢
  case contextLoad.contextLoad => exact and_comm
  case finalize.finalize =>
    constructor
    · intro same
      exact ⟨fun _ => Nat.ne_of_lt later, congrArg UuidText.Value.text same⟩
    · rintro ⟨_, same⟩
      exact UuidText.text_injective same
  case taskNew.taskNew | taskNew.commentTask | commentTask.taskNew | commentTask.commentTask =>
    intro apart _
    exact apart
  case divergence.divergence =>
    intro apart _
    exact apart
  case workflowUpdate.workflowUpdate =>
    intro _ same
    exact fresh (UuidText.text_injective same)
  case workflowUpdate.markWorkflowUpdated =>
    intro _
    exact UuidText.text_ne_empty
  case markWorkflowUpdated.workflowUpdate =>
    intro _
    exact UuidText.text_ne_empty
  case document.document =>
    intro apart same
    exact apart (UuidText.text_injective same)

/-! ## Steps -/

/-- What is known of a backend: its messages can be told apart, each of them is about what it was
when it was published, and what they are about has reached the stream. -/
structure Sound (backend : Backend) : Prop where
  noLoss : NoLoss backend
  logged : ∀ published ∈ backend.published, ∃ before < backend.published.length,
    published.event = published.publication.event before
  stored : ∀ entry ∈ backend.broker.entries, entry.message ∈ backend.published ∧
    entry.id = entry.message.publication.message.msgId

variable {backend next : Backend} {publication : Publication} {window : Nat}

/-- An earlier publication that the broker cannot tell from the next one. -/
theorem collides_record_iff (sound : Sound backend) (draws : backend.Draws publication)
    {earlier : Published} (earlierMem : earlier ∈ backend.published) :
    earlier.publication.Collides publication ↔
      earlier.event ≠ (backend.record publication).event ∧
        earlier.publication.message.msgId = publication.message.msgId := by
  obtain ⟨before, isBefore, eventEq⟩ := sound.logged earlier earlierMem
  rw [eventEq]
  apply collides_iff isBefore
  intro drawn drawnEq
  exact draws drawn drawnEq earlier earlierMem

/-- The next message can be told from the others exactly if none of them collides with it. -/
theorem distinct_publish_iff (sound : Sound backend) (draws : backend.Draws publication) :
    (∀ first ∈ backend.published ++ [backend.record publication],
      ∀ second ∈ backend.published ++ [backend.record publication],
        first.event ≠ second.event →
          first.publication.message.msgId ≠ second.publication.message.msgId) ↔
      ∀ earlier ∈ backend.published, ¬ earlier.publication.Collides publication := by
  constructor
  · intro distinct earlier earlierMem collides
    obtain ⟨apart, same⟩ := (collides_record_iff sound draws earlierMem).mp collides
    exact distinct earlier (List.mem_append_left _ earlierMem) (backend.record publication)
      (List.mem_append_right _ List.mem_cons_self) apart same
  · intro tellable first firstMem second secondMem apart same
    rcases List.mem_append.mp firstMem with firstOld | firstNew
    · rcases List.mem_append.mp secondMem with secondOld | secondNew
      · exact sound.noLoss.distinct first firstOld second secondOld apart same
      · rw [List.mem_singleton.mp secondNew] at apart same
        exact tellable first firstOld
          ((collides_record_iff sound draws firstOld).mpr ⟨apart, same⟩)
    · rw [List.mem_singleton.mp firstNew] at apart same
      rcases List.mem_append.mp secondMem with secondOld | secondNew
      · exact tellable second secondOld
          ((collides_record_iff sound draws secondOld).mpr ⟨apart.symm, same.symm⟩)
      · rw [List.mem_singleton.mp secondNew] at apart
        exact apart rfl

theorem logged_publish (sound : Sound backend) :
    ∀ published ∈ backend.published ++ [backend.record publication],
      ∃ before < (backend.published ++ [backend.record publication]).length,
        published.event = published.publication.event before := by
  have longer : (backend.published ++ [backend.record publication]).length =
      backend.published.length + 1 := by
    rw [List.length_append, List.length_singleton]
  rw [longer]
  intro published publishedMem
  rcases List.mem_append.mp publishedMem with old | new
  · obtain ⟨before, isBefore, eventEq⟩ := sound.logged published old
    exact ⟨before, Nat.lt_succ_of_lt isBefore, eventEq⟩
  · rw [List.mem_singleton.mp new]
    exact ⟨backend.published.length, Nat.lt_succ_self _, rfl⟩

/-- What the next message is about is in the stream, which may have dropped it. -/
theorem reached_publish (sound : Sound backend)
    (distinct : ∀ first ∈ backend.published ++ [backend.record publication],
      ∀ second ∈ backend.published ++ [backend.record publication],
        first.event ≠ second.event →
          first.publication.message.msgId ≠ second.publication.message.msgId) :
    ∃ entry ∈ (backend.publish window publication).broker.entries,
      entry.message.event = (backend.record publication).event := by
  rcases publish_cases window backend.broker publication.message.msgId
    (backend.record publication) with isStored | ⟨dropped, entry, entryMem, sameId⟩
  · refine ⟨⟨publication.message.msgId, backend.record publication, backend.broker.now⟩, ?_, rfl⟩
    rw [Backend.publish, isStored]
    exact List.mem_append_right _ List.mem_cons_self
  · refine ⟨entry, ?_, ?_⟩
    · rw [Backend.publish, dropped]
      exact entryMem
    · obtain ⟨messageMem, idEq⟩ := sound.stored entry entryMem
      by_contra apart
      exact distinct entry.message (List.mem_append_left _ messageMem) (backend.record publication)
        (List.mem_append_right _ List.mem_cons_self) apart (idEq.symm.trans sameId)

theorem stored_publish (sound : Sound backend) :
    ∀ entry ∈ (backend.publish window publication).broker.entries,
      entry.message ∈ backend.published ++ [backend.record publication] ∧
        entry.id = entry.message.publication.message.msgId := by
  intro entry entryMem
  rcases publish_cases window backend.broker publication.message.msgId
    (backend.record publication) with isStored | ⟨dropped, _⟩
  · rw [Backend.publish, isStored] at entryMem
    rcases List.mem_append.mp entryMem with old | new
    · obtain ⟨messageMem, idEq⟩ := sound.stored entry old
      exact ⟨List.mem_append_left _ messageMem, idEq⟩
    · rw [List.mem_singleton.mp new]
      exact ⟨List.mem_append_right _ List.mem_cons_self, rfl⟩
  · rw [Backend.publish, dropped] at entryMem
    obtain ⟨messageMem, idEq⟩ := sound.stored entry entryMem
    exact ⟨List.mem_append_left _ messageMem, idEq⟩

/-- A publication that can be told from the earlier ones keeps what is known. -/
theorem sound_publish (sound : Sound backend) (draws : backend.Draws publication)
    (tellable : ∀ earlier ∈ backend.published, ¬ earlier.publication.Collides publication) :
    Sound (backend.publish window publication) := by
  have distinct := (distinct_publish_iff sound draws).mpr tellable
  refine ⟨⟨distinct, ?_⟩, logged_publish sound, stored_publish sound⟩
  intro published publishedMem
  rcases List.mem_append.mp publishedMem with old | new
  · obtain ⟨entry, entryMem, eventEq⟩ := sound.noLoss.reached published old
    exact ⟨entry, mem_publish entryMem, eventEq⟩
  · rw [List.mem_singleton.mp new]
    exact reached_publish sound distinct

theorem sound_wait (sound : Sound backend) (duration : Nat) :
    Sound { backend with broker := backend.broker.wait duration } where
  noLoss := ⟨sound.noLoss.distinct, sound.noLoss.reached⟩
  logged := sound.logged
  stored := sound.stored

/-- A step that is taken. -/
theorem publisher_step_cases {action : BackendAction}
    (stepEq : publisherSystem window backend action = some next) :
    (∃ publication, action = .publish publication ∧ backend.Draws publication ∧
      next = backend.publish window publication) ∨
    (∃ duration, action = .wait duration ∧
      next = { backend with broker := backend.broker.wait duration }) := by
  cases action with
  | publish publication =>
      obtain ⟨draws, nextEq⟩ := Option.ite_none_right_eq_some.mp stepEq
      exact Or.inl ⟨publication, rfl, draws, (Option.some.inj nextEq).symm⟩
  | wait duration => exact Or.inr ⟨duration, rfl, (Option.some.inj stepEq).symm⟩

/-- Nothing has been published. -/
def Backend.start (now : Nat) : Backend := ⟨⟨[], now⟩, []⟩

theorem sound_start (now : Nat) : Sound (.start now) where
  noLoss := ⟨fun _ none => absurd none List.not_mem_nil, fun _ none => absurd none List.not_mem_nil⟩
  logged := fun _ none => absurd none List.not_mem_nil
  stored := fun _ none => absurd none List.not_mem_nil

/-- In every run, messages about different events have different identifiers, and every event
reaches the stream, exactly if no publication collides with an earlier one. -/
theorem noLoss_iff {now : Nat} {actions : List BackendAction}
    (runEq : (publisherSystem window).run (.start now) actions = some next) :
    (publisherSystem window).Always NoLoss (.start now) actions ↔
      (publisherSystem window).Meets Tellable (.start now) actions := by
  apply Step.always_iff_meets ?_ ?_ ?_ (sound_start now) runEq
  · intro backend sound
    exact sound.noLoss
  · intro backend action next sound tellable stepEq
    rcases publisher_step_cases stepEq with ⟨publication, rfl, draws, rfl⟩ | ⟨duration, rfl, rfl⟩
    · exact sound_publish sound draws tellable
    · exact sound_wait sound duration
  · intro backend action next sound confused stepEq noLoss
    rcases publisher_step_cases stepEq with ⟨publication, rfl, draws, rfl⟩ | ⟨duration, rfl, rfl⟩
    · exact confused ((distinct_publish_iff sound draws).mp noLoss.distinct)
    · exact confused trivial

/-! ## Examples -/

/-- An identifier that ends in a digit. -/
def exampleId (digit : Fin 16) : Id where
  groups := [List.replicate 8 0, List.replicate 4 0, List.replicate 4 0, List.replicate 4 0,
    List.replicate 11 0 ++ [digit]]
  shape := rfl

/-- A task of a session, dispatched in a request of a client. -/
def exampleTask (correlationId : String) (execution : Fin 16) : PublishAiTask where
  context := some correlationId
  sessionId := exampleId 1
  orgId := exampleId 2
  taskType := "FULL_GENERATION"
  mode := "auto"
  input := .obj []
  resumeFromCheckpoint := none
  triggeredBy := none
  activeRules := []
  skillIds := []
  executionId := exampleId execution

/-- The AI service has made a version of a workflow. -/
def exampleVersion (workflow : Fin 16) : BackendAction :=
  .publish (.markWorkflowUpdated (exampleId workflow) 2 [])

/-- A session is finalised. -/
def exampleFinalisation (finalizedAt : String) : BackendAction :=
  .publish (.finalize (exampleId 1) (exampleId 3) 2 (.num 1) finalizedAt)

/-- How long the stream remembers identifiers, in milliseconds. -/
def exampleWindow : Nat := 120000

/-- A user saves two versions, two requests dispatch tasks, and the session is finalised. -/
def examplePublications : List BackendAction :=
  [.publish (.workflowUpdate (exampleId 3) 1 "user" (exampleId 4)),
    .publish (.workflowUpdate (exampleId 3) 2 "user" (exampleId 5)),
    .publish (.contextLoad (exampleTask "first" 6)), .publish (.taskNew (exampleTask "first" 6)),
    .wait 10, .publish (.contextLoad (exampleTask "second" 7)),
    .publish (.taskNew (exampleTask "second" 7)), exampleVersion 3,
    exampleFinalisation "2026-01-01T00:00:00.000Z"]

theorem noLoss_iff_example :
    (publisherSystem exampleWindow).Always NoLoss (.start 0) examplePublications := by
  have taken : ((publisherSystem exampleWindow).run (.start 0) examplePublications).isSome := by
    decide +kernel
  obtain ⟨reached, runEq⟩ := Option.isSome_iff_exists.mp taken
  have met : (publisherSystem exampleWindow).Meets Tellable (.start 0) examplePublications := by
    decide +kernel
  exact (noLoss_iff runEq).mpr met

/-- An event of a run has not reached the stream, and its message has the identifier of a message
about another one. -/
def ExampleLoss (actions : List BackendAction) : Prop :=
  ∃ reached, (publisherSystem exampleWindow).run (.start 0) actions = some reached ∧
    ¬ NoLoss reached ∧ ∃ published ∈ reached.published,
      ∀ entry ∈ reached.broker.entries, entry.message.event ≠ published.event

/-- The AI service makes versions of two workflows, a client sends two requests with one
correlation, and a session is finalised twice. -/
theorem event_lost :
    ExampleLoss [exampleVersion 3, exampleVersion 8] ∧
      ExampleLoss [.publish (.contextLoad (exampleTask "first" 6)), .wait 10,
        .publish (.contextLoad (exampleTask "first" 7))] ∧
      ExampleLoss [exampleFinalisation "2026-01-01T00:00:00.000Z", .wait 10,
        exampleFinalisation "2026-01-01T00:00:00.010Z"] := by
  have lost : ∀ actions,
      ((publisherSystem exampleWindow).run (.start 0) actions).any (fun reached =>
        reached.published.any fun published =>
          reached.broker.entries.all fun entry =>
            decide (entry.message.event ≠ published.event)) = true → ExampleLoss actions := by
    intro actions found
    obtain ⟨reached, runEq, found⟩ := (Option.any_eq_true _ _).mp found
    obtain ⟨published, publishedMem, missing⟩ := List.any_eq_true.mp found
    have missing : ∀ entry ∈ reached.broker.entries, entry.message.event ≠ published.event := by
      intro entry entryMem
      exact of_decide_eq_true (List.all_eq_true.mp missing entry entryMem)
    refine ⟨reached, runEq, ?_, published, publishedMem, missing⟩
    intro noLoss
    obtain ⟨entry, entryMem, eventEq⟩ := noLoss.reached published publishedMem
    exact missing entry entryMem eventEq
  refine ⟨lost _ ?_, lost _ ?_, lost _ ?_⟩ <;> decide +kernel

end Manbaa.Nats
