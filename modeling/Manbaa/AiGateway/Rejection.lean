import Manbaa.AiGateway.GenerationSteps
import Manbaa.Lib.Run

/-!
# Results that the session rejects

The session is asked for its next status after the version has been stored and the
workflow has been saved.  A result that it rejects leaves both behind, once for
every delivery, unless the result stops before.
-/

namespace Manbaa.AiGateway

open Manbaa.Lib Manbaa.Lib.Effect

variable {ids : ResultIds} {now : Nat} {payload : AiTaskResultEvent} {msgId : Option String}
  {gateway : Gateway}

/-! ## Deliveries -/

/-- A delivery of a result, none of whose calls fails: the identifiers that the
database generates and the time. -/
structure ResultDelivery where
  ids : ResultIds
  now : Nat

/-- One result, delivered again and again. -/
def redelivery (payload : AiTaskResultEvent) (msgId : Option String) :
    Step Gateway ResultDelivery :=
  Step.ofTotal fun gateway delivery =>
    (handle delivery.ids delivery.now payload msgId ⟨gateway, none⟩).2.state

/-- What a rejected result must not change. -/
structure Untouched (gateway reached : Gateway) : Prop where
  workflows : reached.db.workflows = gateway.db.workflows
  versions : reached.db.versions = gateway.db.versions
  sessions : reached.db.sessions = gateway.db.sessions
  pipelines : reached.db.pipelines = gateway.db.pipelines

/-- However often the result is delivered, each delivery throws and nothing is
changed. -/
def Rejected (payload : AiTaskResultEvent) (msgId : Option String) (gateway : Gateway) : Prop :=
  ∀ deliveries reached, (redelivery payload msgId).run gateway deliveries = some reached →
    Untouched gateway reached ∧ ∀ ids now, ∃ exception,
      (handle ids now payload msgId ⟨reached, none⟩).1 = .error exception

/-- The number that a result asks for is the number of a version already. -/
def AiDb.Numbered (db : AiDb) (payload : AiTaskResultEvent) (workflow : Workflow) : Prop :=
  ∃ number, payload.versionNumber = some number ∧ ∃ version ∈ db.versions,
    version.workflowId = workflow.id ∧ version.versionNumber = number

/-- A result stops before its version is stored: it is not known, and it is about
nothing or asks for a number that is taken. -/
def StopsBefore (payload : AiTaskResultEvent) (msgId : Option String) (gateway : Gateway) : Prop :=
  payload.key msgId ∉ gateway.handledIds ∧ ∀ pipelineExecution session workflow,
    gateway.db.subject? payload = some (pipelineExecution, session, workflow) →
      gateway.db.Numbered payload workflow

/-! ## When a rejected result changes nothing -/

/-- The number after the largest one is new. -/
theorem next_fresh {workflow : Workflow} {session : Session}
    (unnumbered : payload.versionNumber = none) :
    gateway.db.taken (gateway.db.resultVersion ids payload workflow session) = false := by
  rw [taken_eq_false_iff]
  intro other otherMem sameWorkflow sameNumber
  have le := le_maxVersion otherMem
  have numberEq : (gateway.db.resultVersion ids payload workflow session).versionNumber =
      gateway.db.maxVersion workflow.id + 1 := by
    simp only [AiDb.resultVersion, AiTaskResultEvent.version, unnumbered, Option.getD_none]
    rfl
  have workflowEq : other.workflowId = workflow.id := sameWorkflow
  rw [workflowEq, sameNumber, numberEq] at le
  omega

/-- The version of a result has the number of another one exactly if the result asks
for such a number. -/
theorem taken_iff_numbered {workflow : Workflow} {session : Session} :
    gateway.db.taken (gateway.db.resultVersion ids payload workflow session) = true ↔
      gateway.db.Numbered payload workflow := by
  constructor
  · intro taken
    cases numberEq : payload.versionNumber with
    | none =>
        rw [next_fresh numberEq] at taken
        cases taken
    | some number =>
        simp only [AiDb.taken, List.any_eq_true, Bool.and_eq_true, beq_iff_eq] at taken
        obtain ⟨version, versionMem, workflowEq, sameNumber⟩ := taken
        refine ⟨number, numberEq, version, versionMem, workflowEq, sameNumber.trans ?_⟩
        simp [AiDb.resultVersion, AiTaskResultEvent.version, numberEq]
  · rintro ⟨number, numberEq, version, versionMem, workflowEq, sameNumber⟩
    simp only [AiDb.taken, List.any_eq_true, Bool.and_eq_true, beq_iff_eq]
    refine ⟨version, versionMem, workflowEq, sameNumber.trans ?_⟩
    simp [AiDb.resultVersion, AiTaskResultEvent.version, numberEq]

/-- A result that stops before its version is stored throws and changes nothing. -/
theorem stops_before (stops : StopsBefore payload msgId gateway) (ids : ResultIds) (now : Nat) :
    (∃ exception, (handle ids now payload msgId ⟨gateway, none⟩).1 = .error exception) ∧
      (handle ids now payload msgId ⟨gateway, none⟩).2.state = gateway := by
  obtain ⟨unknown, numbered⟩ := stops
  rcases handleEq : handle ids now payload msgId ⟨gateway, none⟩ with ⟨result, reached⟩
  cases handle_outcome handleEq with
  | known knownMem => exact absurd knownMem unknown
  | stopped exception _ _ stateEq _ => exact ⟨⟨exception, rfl⟩, stateEq⟩
  | stored pipelineExecution session workflow created _ _ _ _ subjectEq createdEq fresh =>
      have numbered := numbered pipelineExecution session workflow subjectEq
      subst createdEq
      rw [taken_iff_numbered.mpr numbered] at fresh
      cases fresh

/-- The statements after the version leave the versions alone. -/
theorem versions_resultMoves (ids : ResultIds) (payload : AiTaskResultEvent) (session : Session)
    (created : WorkflowVersion) :
    ResultMoves ids payload session created 0 0 0 fun _ db target =>
      target.versions = db.versions where
  refl := fun _ => rfl
  weaken := fun _ same => same
  trans := fun first second => second.trans first
  workflow := fun _ _ => rfl
  session := fun _ _ _ => rfl
  pipeline := fun _ _ => rfl
  message := fun _ => rfl
  graph := fun _ _ => rfl
  report := fun _ _ _ => rfl

/-- A result that the session rejects does not get past the session. -/
theorem finishResult_rejects {pipelineExecution : PipelineExecution} {session : Session}
    {workflow : Workflow} {created : WorkflowVersion} {middle reached : Faulty Gateway}
    {result : Except Exception Unit} {rejection : Exception}
    (rejects : transitionSessionStatus session.status .aiResultReceived session.mode =
      .error rejection)
    (restEq : finishResult ids now payload msgId pipelineExecution session workflow created
      middle = (result, reached)) : ∃ exception, result = .error exception := by
  cases result with
  | error exception => exact ⟨exception, rfl⟩
  | ok done =>
      obtain ⟨_, _, applyEq, _⟩ := bind_eq_ok_iff.mp restEq
      obtain ⟨_, _, _, restEq⟩ := bind_eq_ok_iff.mp applyEq
      obtain ⟨status, _, statusEq, _⟩ := bind_eq_ok_iff.mp restEq
      obtain ⟨accepted, _⟩ := asking_eq_ok_iff.mp statusEq
      rw [rejects] at accepted
      cases accepted

/-- A result that changes nothing stops before its version is stored. -/
theorem stops_of_rejected (rejected : Rejected payload msgId gateway) (ids : ResultIds)
    (now : Nat) : StopsBefore payload msgId gateway := by
  obtain ⟨_, throws⟩ := rejected [] gateway rfl
  obtain ⟨thrown, throwsEq⟩ := throws ids now
  have runEq : (redelivery payload msgId).run gateway [⟨ids, now⟩] =
      some (handle ids now payload msgId ⟨gateway, none⟩).2.state := rfl
  have untouched := (rejected _ _ runEq).1
  rcases handleEq : handle ids now payload msgId ⟨gateway, none⟩ with ⟨result, reached⟩
  rw [handleEq] at throwsEq untouched
  cases handle_outcome handleEq with
  | known => cases throwsEq
  | stopped _ _ unknown _ why =>
      refine ⟨unknown, fun pipelineExecution session workflow subjectEq => ?_⟩
      exact taken_iff_numbered.mp (why rfl pipelineExecution session workflow subjectEq)
  | stored _ session _ created _ _ _ _ _ _ _ middleEq _ restEq =>
      obtain ⟨versionsEq, _⟩ :=
        (versions_resultMoves ids payload session created).finishResult restEq
      have grown := versionsEq.symm.trans untouched.versions
      rw [middleEq] at grown
      have lengths := congrArg List.length grown
      simp [Gateway.addVersion, AiDb.addVersion] at lengths

/-- A result that the session rejects throws whenever it is not known.  It throws and
changes nothing, however often it is delivered, exactly if it stops before its
version is stored. -/
theorem rejected_iff_stopsBefore {session : Session}
    (sessionEq : gateway.db.session? payload.sessionId = some session)
    (rejects : ∃ exception, transitionSessionStatus session.status .aiResultReceived session.mode =
      .error exception) :
    (payload.key msgId ∉ gateway.handledIds → ∀ ids now, ∃ exception,
      (handle ids now payload msgId ⟨gateway, none⟩).1 = .error exception) ∧
    (Rejected payload msgId gateway ↔ StopsBefore payload msgId gateway) := by
  constructor
  · intro unknown ids now
    rcases handleEq : handle ids now payload msgId ⟨gateway, none⟩ with ⟨result, reached⟩
    cases handle_outcome handleEq with
    | known knownMem => exact absurd knownMem unknown
    | stopped exception => exact ⟨exception, rfl⟩
    | stored _ other _ _ _ _ _ _ subjectEq _ _ _ _ restEq =>
        obtain ⟨_, otherEq, _⟩ := subject?_eq_some_iff.mp subjectEq
        cases sessionEq.symm.trans otherEq
        obtain ⟨rejection, rejects⟩ := rejects
        exact finishResult_rejects rejects restEq
  · constructor
    · intro rejected
      exact stops_of_rejected rejected
        ⟨session.id, session.id, session.id, session.id, session.id⟩ 0
    · intro stops deliveries reached runEq
      have kept : ∀ state delivery next, state = gateway →
          redelivery payload msgId state delivery = some next → next = gateway := by
        rintro state delivery next rfl stepEq
        cases stepEq
        exact (stops_before stops delivery.ids delivery.now).2
      obtain rfl := Step.invariant_of_run kept rfl runEq
      exact ⟨⟨rfl, rfl, rfl, rfl⟩, fun ids now => (stops_before stops ids now).1⟩

/-! ## Examples -/

/-- The owner of the workflow. -/
def exampleUser : Uuid := uuid "user"

/-- A workflow without versions. -/
def exampleWorkflow : Workflow where
  id := uuid "workflow"
  orgId := uuid "org"
  ownerId := exampleUser
  title := "Orders"
  description := none
  domain := none
  tags := []
  status := .draft
  currentVersion := 0

/-- A session of the workflow. -/
def exampleSession (status : SessionStatus) : Session where
  id := uuid "session"
  workflowId := uuid "workflow"
  userId := exampleUser
  mode := .auto
  status := status
  confidenceScore := 0
  finalizedAt := none
  archivedAt := none

/-- A pipeline of the session. -/
def examplePipeline : PipelineExecution where
  id := uuid "pipeline"
  sessionId := uuid "session"
  mode := .auto
  status := .pending
  inputPayload := .obj []
  triggeredBy := some exampleUser
  natsMessageId := some "task"
  completedAt := none
  finalConfidence := none
  errorSummary := none
  archivedAt := none

/-- One session in a status. -/
def exampleDb (status : SessionStatus) : AiDb where
  workflows := [exampleWorkflow]
  versions := []
  sessions := [exampleSession status]
  pipelines := [examplePipeline]
  messages := []
  graphs := []
  reports := []
  nodes := []
  edges := []
  canvases := []
  objects := []
  canvasSnapshots := []
  canvasVersions := []
  deadLetters := []

/-- A process that has handled nothing. -/
def exampleGateway (status : SessionStatus) : Gateway := ⟨exampleDb status, []⟩

/-- A result for a pipeline of the session. -/
def exampleResult (pipelineExecutionId : String) : AiTaskResultEvent where
  correlationId := "c"
  sessionId := uuid "session"
  orgId := "org"
  pipelineExecutionId := pipelineExecutionId
  workflowJson := none
  elsaJson := none
  confidence := 1
  summary := none
  versionNumber := none

/-- Identifiers for the rows of a result. -/
def exampleIds : ResultIds := ⟨uuid "v", uuid "m", uuid "i", uuid "g", uuid "r"⟩

/-- A result that is about no pipeline changes nothing in an archived session. -/
theorem rejected_iff_stopsBefore_example :
    Rejected (exampleResult "none") none (exampleGateway .archived) := by
  have sessionEq : (exampleGateway .archived).db.session? (exampleResult "none").sessionId =
      some (exampleSession .archived) := by decide
  have stops : StopsBefore (exampleResult "none") none (exampleGateway .archived) := by
    refine ⟨List.not_mem_nil, fun _ _ _ subjectEq => ?_⟩
    have nothing : (exampleGateway .archived).db.subject? (exampleResult "none") = none := by
      decide
    rw [nothing] at subjectEq
    cases subjectEq
  exact (rejected_iff_stopsBefore sessionEq ⟨_, rfl⟩).2.mpr stops

/-- A result for the pipeline of an archived session stores a version. -/
theorem rejected_leaves_version :
    transitionSessionStatus .archived .aiResultReceived .auto =
        .error (.unprocessableEntity "Invalid session transition: archived + ai_result_received") ∧
      ¬ Rejected (exampleResult "pipeline") none (exampleGateway .archived) := by
  refine ⟨rfl, fun rejected => ?_⟩
  have stored : (handle exampleIds 0 (exampleResult "pipeline") none
      ⟨exampleGateway .archived, none⟩).2.state.db.versions.length = 1 := by
    decide +kernel
  have runEq : (redelivery (exampleResult "pipeline") none).run (exampleGateway .archived)
      [⟨exampleIds, 0⟩] = some (handle exampleIds 0 (exampleResult "pipeline") none
        ⟨exampleGateway .archived, none⟩).2.state := rfl
  rw [(rejected _ _ runEq).1.versions] at stored
  cases stored

end Manbaa.AiGateway
