import Manbaa.AiGateway.Rejection

/-!
# Deliveries of a result

The broker delivers a result until it is acknowledged, three times at most.  Each
delivery completes the payload from the database, and the key by which a result is
known is made of what was completed; it is remembered when the last call of the
handler has succeeded.  Pipelines that are started in the meantime, and whatever
else happens to the workflows and sessions, may change what is completed.
-/

namespace Manbaa.AiGateway

open Manbaa.Lib Manbaa.Lib.Effect

/-! ## The subscriber -/

/-- What the AI service sends, as far as it is read. -/
structure ResultMessage where
  sessionId : Uuid
  correlationId : Option String
  pipelineExecutionId : Option String
  elementsJson : Option Json
  workflowJson : Option Json
  confidence : Option ℚ
  aiSummary : Option String
  summary : Option String
  deriving DecidableEq

/-- The pipeline of a session that was started last. -/
def AiDb.latestPipeline? (db : AiDb) (sessionId : Uuid) : Option PipelineExecution :=
  (db.pipelines.filter fun pipeline => pipeline.sessionId == sessionId).getLast?

/-- The payload that is made of a message and of what is found. -/
def ResultMessage.complete (message : ResultMessage) (now : Nat)
    (latestPipeline : Option PipelineExecution) (orgId : String) : AiTaskResultEvent :=
  { correlationId := (message.correlationId <|>
      latestPipeline.bind PipelineExecution.natsMessageId).getD ("enriched-" ++ toString now)
    sessionId := message.sessionId
    orgId := orgId
    pipelineExecutionId := (message.pipelineExecutionId <|>
      latestPipeline.map fun pipeline => pipeline.id.text).getD ""
    workflowJson := some ((message.elementsJson <|> message.workflowJson).getD (.obj []))
    elsaJson := message.workflowJson
    confidence := message.confidence.getD 0
    summary := some ((message.aiSummary <|> message.summary).getD "AI pipeline completed")
    versionNumber := none }

/-- The organization of a session. -/
def findOrgId (session : Option Session) : Calls String :=
  match session with
  | none => pure ""
  | some session => do
      let workflow ← query (reading fun db => db.workflow? session.workflowId)
      pure (workflow.elim "" fun workflow => workflow.orgId.text)

/-- `enrichResultPayload`. -/
def enrichResultPayload (message : ResultMessage) (now : Nat) : Calls AiTaskResultEvent := do
  let latestPipeline ← query (reading fun db => db.latestPipeline? message.sessionId)
  let session ← query (reading fun db => db.session? message.sessionId)
  let orgId ← findOrgId session
  pure (message.complete now latestPipeline orgId)

/-- A pipeline that has failed. -/
def PipelineExecution.exhausted (pipeline : PipelineExecution) (now : Nat) (lastError : String) :
    PipelineExecution :=
  { pipeline with
    status := .failed
    errorSummary := some lastError
    completedAt := some now }

/-- The pipeline of a message that names one fails. -/
def failPipeline (message : ResultMessage) (now : Nat) (lastError : String) : Calls Unit :=
  match message.pipelineExecutionId.filter (· != "") with
  | none => pure ()
  | some id => do
      let found ← query (reading fun db => db.pipelines.find? fun pipeline => pipeline.id.text == id)
      match found with
      | none => pure ()
      | some pipeline =>
          query (writing fun db => db.writePipeline (pipeline.exhausted now lastError))

/-- The fields of a message. -/
def ResultMessage.json (message : ResultMessage) : Json :=
  let text := fun (key : String) (value : Option String) =>
    value.toList.map fun value => (key, Json.str value)
  let json := fun (key : String) (value : Option Json) => value.toList.map fun value => (key, value)
  .obj ([("session_id", .str message.sessionId.text)] ++
    text "correlation_id" message.correlationId ++
    text "pipeline_execution_id" message.pipelineExecutionId ++
    json "elements_json" message.elementsJson ++ json "workflow_json" message.workflowJson ++
    json "confidence" (message.confidence.map .num) ++
    text "ai_summary" message.aiSummary ++ text "summary" message.summary)

/-- `RetryExhaustedHandler.handle`. -/
def retryExhausted (message : ResultMessage) (now deliveryCount : Nat) (lastError : String) :
    Calls Unit := do
  failPipeline message now lastError
  external
  query (writing fun db =>
    { db with
      deadLetters := db.deadLetters ++
        [{ subject := aiTasksResult
           payload := message.json
           reason := "max deliveries reached for " ++ aiTasksResult
           deliveryCount := deliveryCount
           lastError := some lastError }] })

/-- What becomes of a delivery. -/
inductive Settlement where
  | ack
  | nak
  | term
  deriving DecidableEq

/-- One delivery: the identifiers that the database would generate, the time, how often
the message has been delivered, and which call fails, if one does. -/
structure Delivered where
  ids : ResultIds
  now : Nat
  deliveryCount : Nat
  left : Option Nat

/-- The handler that the subscriber registers for results. -/
def handleResult (message : ResultMessage) (delivery : Delivered) : Calls Unit := do
  let enriched ← enrichResultPayload message delivery.now
  handle delivery.ids delivery.now enriched none

/-- The loop of `subscribeDurable`, for one delivery. -/
def consume (messageOf : Exception → String) (message : ResultMessage) (delivery : Delivered) :
    Calls Settlement :=
  catching (do
      handleResult message delivery
      pure .ack)
    fun error =>
      if 3 ≤ delivery.deliveryCount then do
        retryExhausted message delivery.now delivery.deliveryCount (messageOf error)
        pure .term
      else pure .nak

/-- A delivery, or other calls that start pipelines and change workflows and
sessions. -/
inductive DeliveryAction where
  | deliver (delivery : Delivered)
  | others (workflows : List Workflow) (sessions : List Session)
      (pipelines : List PipelineExecution)

/-- The deliveries of one message, and what happens in the meantime. -/
def deliverySystem (messageOf : Exception → String) (message : ResultMessage) :
    Step Gateway DeliveryAction :=
  Step.ofTotal fun gateway action =>
    match action with
    | .deliver delivery => (consume messageOf message delivery ⟨gateway, delivery.left⟩).2.state
    | .others workflows sessions pipelines =>
        { gateway with
          db := { gateway.db with
            workflows := workflows
            sessions := sessions
            pipelines := pipelines } }

/-! ## What a delivery completes -/

/-- The payload that is completed from a database. -/
def AiDb.enriched (db : AiDb) (message : ResultMessage) (now : Nat) : AiTaskResultEvent :=
  message.complete now (db.latestPipeline? message.sessionId)
    ((db.session? message.sessionId).elim "" fun session =>
      (db.workflow? session.workflowId).elim "" fun workflow => workflow.orgId.text)

variable {message : ResultMessage} {now : Nat} {world reached : Faulty Gateway}
  {gateway : Gateway} {delivery : Delivered}

theorem findOrgId_ok {session : Option Session} {orgId : String}
    (findEq : findOrgId session world = (.ok orgId, reached)) :
    (orgId = session.elim "" fun session =>
        (world.state.db.workflow? session.workflowId).elim "" fun workflow =>
          workflow.orgId.text) ∧
      reached.state = world.state ∧ world.Spends reached session.toList.length := by
  cases session with
  | none =>
      obtain ⟨rfl, rfl⟩ := pure_eq_ok_iff.mp findEq
      exact ⟨rfl, rfl, Faulty.spends_zero rfl⟩
  | some session =>
      obtain ⟨workflow, _, queryEq, pureEq⟩ := bind_eq_ok_iff.mp findEq
      obtain ⟨rfl, stateEq, spends⟩ := query_reading_ok queryEq
      obtain ⟨rfl, rfl⟩ := pure_eq_ok_iff.mp pureEq
      exact ⟨rfl, stateEq, spends⟩

/-- A payload that is completed has been completed from the database. -/
theorem enrich_ok {enriched : AiTaskResultEvent}
    (enrichEq : enrichResultPayload message now world = (.ok enriched, reached)) :
    enriched = world.state.db.enriched message now ∧ reached.state = world.state ∧
      world.Spends reached (2 + (world.state.db.session? message.sessionId).toList.length) := by
  obtain ⟨_, _, pipelineEq, restEq⟩ := bind_eq_ok_iff.mp enrichEq
  obtain ⟨rfl, pipelineState, pipelineSpends⟩ := query_reading_ok pipelineEq
  obtain ⟨_, _, sessionEq, restEq⟩ := bind_eq_ok_iff.mp restEq
  obtain ⟨rfl, sessionState, sessionSpends⟩ := query_reading_ok sessionEq
  obtain ⟨_, _, orgEq, pureEq⟩ := bind_eq_ok_iff.mp restEq
  obtain ⟨rfl, orgState, orgSpends⟩ := findOrgId_ok orgEq
  obtain ⟨rfl, rfl⟩ := pure_eq_ok_iff.mp pureEq
  have total := (pipelineSpends.trans sessionSpends).trans orgSpends
  rw [pipelineState] at sessionState
  rw [sessionState] at orgState
  refine ⟨?_, orgState, ?_⟩
  · rw [pipelineState, sessionState, AiDb.enriched]
  · rw [pipelineState] at total
    exact total

theorem quiet_enrich (message : ResultMessage) (now : Nat) :
    Quiet (enrichResultPayload message now) := by
  have orgId : ∀ session, Quiet (findOrgId session) := by
    intro session
    cases session with
    | none => exact quiet_of_readOnly readOnly_pure
    | some session => exact (quiet_reading _).bind fun _ => quiet_of_readOnly readOnly_pure
  exact (quiet_reading _).bind fun _ => (quiet_reading _).bind fun session =>
    (orgId session).bind fun _ => quiet_of_readOnly readOnly_pure

/-! ## What a delivery stores -/

/-- A delivery does not get as far as the insert of a version: its key is known, it is
about nothing, or one of the calls up to there fails. -/
def Stops (message : ResultMessage) (gateway : Gateway) (delivery : Delivered) : Prop :=
  let enriched := gateway.db.enriched message delivery.now
  enriched.key none ∈ gateway.handledIds ∨ gateway.db.subject? enriched = none ∨
    ∃ calls ∈ delivery.left, calls < enriched.lookups + 5

instance (message : ResultMessage) (gateway : Gateway) (delivery : Delivered) :
    Decidable (Stops message gateway delivery) :=
  inferInstanceAs (Decidable
    ((gateway.db.enriched message delivery.now).key none ∈ gateway.handledIds ∨
      gateway.db.subject? (gateway.db.enriched message delivery.now) = none ∨
      ∃ calls ∈ delivery.left, calls < (gateway.db.enriched message delivery.now).lookups + 5))

/-- The versions, messages and reports are the same. -/
structure SameResults (db target : AiDb) : Prop where
  versions : target.versions = db.versions
  messages : target.messages = db.messages
  reports : target.reports = db.reports

theorem SameResults.refl (db : AiDb) : SameResults db db := ⟨rfl, rfl, rfl⟩

theorem SameResults.trans {db middle target : AiDb} (first : SameResults db middle)
    (second : SameResults middle target) : SameResults db target :=
  ⟨second.versions.trans first.versions, second.messages.trans first.messages,
    second.reports.trans first.reports⟩

/-- One version has been stored, and at most one message and one report. -/
structure OneResult (db target : AiDb) : Prop where
  versions : target.versions.length = db.versions.length + 1
  messages : target.messages.length ≤ db.messages.length + 1
  reports : target.reports.length ≤ db.reports.length + 1

theorem OneResult.trans {db middle target : AiDb} (one : OneResult db middle)
    (same : SameResults middle target) : OneResult db target := by
  constructor
  · rw [same.versions]
    exact one.versions
  · rw [same.messages]
    exact one.messages
  · rw [same.reports]
    exact one.reports

theorem SameResults.one {db middle target : AiDb} (same : SameResults db middle)
    (one : OneResult middle target) : OneResult db target := by
  constructor
  · rw [← same.versions]
    exact one.versions
  · rw [← same.messages]
    exact one.messages
  · rw [← same.reports]
    exact one.reports

/-- The statements after the version insert one message. -/
theorem messages_resultMoves (ids : ResultIds) (payload : AiTaskResultEvent) (session : Session)
    (created : WorkflowVersion) :
    ResultMoves ids payload session created 0 1 0 fun added db target =>
      target.messages.length ≤ db.messages.length + added where
  refl := fun _ => le_rfl
  weaken := fun least most => by omega
  trans := fun first second => by omega
  workflow := fun _ _ => le_rfl
  session := fun _ _ _ => le_rfl
  pipeline := fun _ _ => le_rfl
  message := fun db => by simp
  graph := fun _ _ => le_rfl
  report := fun _ _ _ => le_rfl

/-- The statements after the version insert one report. -/
theorem reports_resultMoves (ids : ResultIds) (payload : AiTaskResultEvent) (session : Session)
    (created : WorkflowVersion) :
    ResultMoves ids payload session created 0 0 1 fun added db target =>
      target.reports.length ≤ db.reports.length + added where
  refl := fun _ => le_rfl
  weaken := fun least most => by omega
  trans := fun first second => by omega
  workflow := fun _ _ => le_rfl
  session := fun _ _ _ => le_rfl
  pipeline := fun _ _ => le_rfl
  message := fun _ => le_rfl
  graph := fun _ _ => le_rfl
  report := fun db _ _ => by simp

/-- A delivery stores nothing, or one result if it does not stop before that. -/
theorem handleResult_stores {result : Except Exception Unit}
    (handleEq : handleResult message delivery ⟨gateway, delivery.left⟩ = (result, reached)) :
    SameResults gateway.db reached.state.db ∨
      (¬ Stops message gateway delivery ∧ OneResult gateway.db reached.state.db) := by
  rcases enrichEq : enrichResultPayload message delivery.now ⟨gateway, delivery.left⟩ with
    ⟨thrown | enriched, middle⟩
  · rw [handleResult, bind_eq_error_iff.mpr (Or.inl enrichEq)] at handleEq
    cases handleEq
    have quiet := quiet_enrich message delivery.now ⟨gateway, delivery.left⟩
    rw [enrichEq] at quiet
    rw [← quiet]
    exact Or.inl (SameResults.refl _)
  · rw [handleResult, bind_of_ok enrichEq] at handleEq
    obtain ⟨enrichedEq, stateEq, enrichSpends⟩ := enrich_ok enrichEq
    cases handle_outcome handleEq with
    | known _ =>
        rw [stateEq]
        exact Or.inl (SameResults.refl _)
    | stopped _ _ _ stoppedEq _ =>
        rw [stoppedEq, stateEq]
        exact Or.inl (SameResults.refl _)
    | stored pipelineExecution session workflow created inserted _ _ unknown subjectEq createdEq
        fresh insertedEq spends restEq =>
        right
        rw [stateEq] at unknown subjectEq insertedEq
        dsimp only at enrichedEq
        constructor
        · rintro (known | nothing | ⟨calls, callsMem, few⟩)
          · rw [← enrichedEq] at known
            exact unknown known
          · rw [← enrichedEq, subjectEq] at nothing
            cases nothing
          · have present : (gateway.db.session? message.sessionId).toList.length = 1 := by
              obtain ⟨_, sessionEq, _⟩ := subject?_eq_some_iff.mp subjectEq
              have sameId : enriched.sessionId = message.sessionId := by
                rw [enrichedEq]
                rfl
              rw [sameId] at sessionEq
              rw [sessionEq]
              rfl
            have enough := (enrichSpends.trans spends).1 calls callsMem
            dsimp only at enough
            rw [present] at enough
            rw [← enrichedEq] at few
            omega
        · have versions := ((versions_resultMoves _ _ _ _).finishResult restEq).1
          have messages := ((messages_resultMoves _ _ _ _).finishResult restEq).1
          have reports := ((reports_resultMoves _ _ _ _).finishResult restEq).1
          rw [insertedEq] at versions messages reports
          constructor
          · rw [versions]
            simp [Gateway.addVersion, AiDb.addVersion]
          · exact messages
          · exact reports

/-- What is done when deliveries are exhausted touches no result. -/
theorem moves_retryExhausted (message : ResultMessage) (now deliveryCount : Nat)
    (lastError : String) :
    Moves (Within (OnDb SameResults)) (retryExhausted message now deliveryCount lastError) := by
  have trans : ∀ first second third : Faulty Gateway, Within (OnDb SameResults) first second →
      Within (OnDb SameResults) second third → Within (OnDb SameResults) first third :=
    fun _ _ _ first second => ⟨second.1.trans first.1, first.2.trans second.2⟩
  have quiet : ∀ {α : Type} {body : Calls α}, ReadOnly body →
      Moves (Within (OnDb SameResults)) body :=
    fun reads => reads.moves fun world => ⟨rfl, SameResults.refl world.state.db⟩
  have write : ∀ change : AiDb → AiDb, (∀ db, SameResults db (change db)) →
      Moves (Within (OnDb SameResults)) (query (writing change)) :=
    fun _ same => moves_query SameResults.refl same
  have failed : Moves (Within (OnDb SameResults)) (failPipeline message now lastError) := by
    rw [failPipeline]
    split
    · exact quiet readOnly_pure
    · apply Moves.andThen trans (moves_query SameResults.refl fun db => SameResults.refl db)
      intro found
      cases found with
      | none => exact quiet readOnly_pure
      | some pipeline => exact write _ fun db => ⟨rfl, rfl, rfl⟩
  apply Moves.andThen trans failed
  intro _
  apply Moves.andThen trans (moves_calling (fun gateway => ⟨rfl, SameResults.refl gateway.db⟩)
    fun gateway => ⟨rfl, SameResults.refl gateway.db⟩)
  intro _
  exact write _ fun db => ⟨rfl, rfl, rfl⟩

/-- A delivery and its settlement store nothing, or one result. -/
theorem consume_stores (messageOf : Exception → String) :
    SameResults gateway.db
        (consume messageOf message delivery ⟨gateway, delivery.left⟩).2.state.db ∨
      (¬ Stops message gateway delivery ∧ OneResult gateway.db
        (consume messageOf message delivery ⟨gateway, delivery.left⟩).2.state.db) := by
  rcases handleEq : handleResult message delivery ⟨gateway, delivery.left⟩ with
    ⟨thrown | done, reached⟩
  · have stores := handleResult_stores handleEq
    have settled : SameResults reached.state.db
        (consume messageOf message delivery ⟨gateway, delivery.left⟩).2.state.db := by
      have bodyEq : (do
          handleResult message delivery
          pure Settlement.ack : Calls Settlement) ⟨gateway, delivery.left⟩ =
            (.error thrown, reached) := bind_eq_error_iff.mpr (Or.inl handleEq)
      rw [consume, catching, bodyEq]
      dsimp only
      split
      · have moves : Moves (Within (OnDb SameResults)) (do
            retryExhausted message delivery.now delivery.deliveryCount (messageOf thrown)
            pure Settlement.term : Calls Settlement) :=
          (moves_retryExhausted _ _ _ _).andThen
            (fun _ _ _ first second => ⟨second.1.trans first.1, first.2.trans second.2⟩)
            (fun _ => readOnly_pure.moves fun world => ⟨rfl, SameResults.refl world.state.db⟩)
        exact (moves reached).2
      · exact SameResults.refl _
    rcases stores with same | ⟨goesOn, one⟩
    · exact Or.inl (same.trans settled)
    · exact Or.inr ⟨goesOn, one.trans settled⟩
  · have stores := handleResult_stores handleEq
    have consumeEq : consume messageOf message delivery ⟨gateway, delivery.left⟩ =
        (.ok .ack, reached) := by
      have bodyEq : (do
          handleResult message delivery
          pure Settlement.ack : Calls Settlement) ⟨gateway, delivery.left⟩ =
            (.ok .ack, reached) := bind_of_ok handleEq
      rw [consume, catching, bodyEq]
    rw [consumeEq]
    exact stores

/-! ## Results that are known -/

/-- A new key is remembered. -/
theorem mem_markHandled {handledIds : List String} {key : String} (unknown : key ∉ handledIds) :
    key ∈ markHandled handledIds key := by
  have added : (if handledIds.contains key then handledIds else handledIds ++ [key]) =
      handledIds ++ [key] := by
    rw [if_neg]
    rwa [List.contains_iff_mem]
  rw [markHandled, added]
  split
  · rename_i long
    cases handledIds with
    | nil => simp [maxHandledIds] at long
    | cons oldest rest => simp
  · simp

/-- A result whose handler returns is known by the key that was completed for it. -/
theorem handleResult_known
    (handleEq : handleResult message delivery ⟨gateway, delivery.left⟩ = (.ok (), reached)) :
    (gateway.db.enriched message delivery.now).key none ∈ reached.state.handledIds := by
  obtain ⟨enriched, middle, enrichEq, restEq⟩ := bind_eq_ok_iff.mp handleEq
  obtain ⟨rfl, stateEq, _⟩ := enrich_ok enrichEq
  generalize resultEq : (Except.ok () : Except Exception Unit) = result at restEq
  cases handle_outcome restEq with
  | known knownMem =>
      rw [stateEq] at knownMem ⊢
      exact knownMem
  | stopped => cases resultEq
  | stored pipelineExecution session workflow created inserted _ _ unknown subjectEq createdEq
      fresh insertedEq spends restEq =>
      rcases ((versions_resultMoves _ _ _ _).finishResult restEq).2 with
        ⟨_, markedEq⟩ | ⟨⟨_, thrown⟩, _⟩
      · rw [markedEq, insertedEq]
        exact mem_markHandled unknown
      · rw [thrown] at resultEq
        cases resultEq

/-- A message that carries its correlation, and whose handler has returned once, is not
applied again. -/
theorem stops_of_returned (carries : message.correlationId.isSome)
    (handleEq : handleResult message delivery ⟨gateway, delivery.left⟩ = (.ok (), reached))
    {later : Gateway} (kept : later.handledIds = reached.state.handledIds) (next : Delivered) :
    Stops message later next := by
  have known := handleResult_known handleEq
  obtain ⟨correlationId, carriesEq⟩ := Option.isSome_iff_exists.mp carries
  have sameKey : ∀ (db : AiDb) (now : Nat), (db.enriched message now).key none =
      idempotencyKey none correlationId aiTasksResult := by
    intro db now
    simp [AiDb.enriched, ResultMessage.complete, AiTaskResultEvent.key, carriesEq]
  rw [sameKey] at known
  left
  rw [sameKey, kept]
  exact known

/-! ## Runs -/

/-- At most one version, one message and one report have been added. -/
structure AppliedOnce (start : AiDb) (gateway : Gateway) : Prop where
  versions : gateway.db.versions.length ≤ start.versions.length + 1
  messages : gateway.db.messages.length ≤ start.messages.length + 1
  reports : gateway.db.reports.length ≤ start.reports.length + 1

/-- As soon as a version has been stored, a delivery stops before it inserts another
one. -/
def StopsAfterFirst (start : AiDb) (message : ResultMessage) (gateway : Gateway) :
    DeliveryAction → Prop
  | .deliver delivery =>
      gateway.db.versions.length = start.versions.length ∨ Stops message gateway delivery
  | .others _ _ _ => True

instance (start : AiDb) (message : ResultMessage) (gateway : Gateway) (action : DeliveryAction) :
    Decidable (StopsAfterFirst start message gateway action) :=
  match action with
  | .deliver delivery => inferInstanceAs (Decidable
      (gateway.db.versions.length = start.versions.length ∨ Stops message gateway delivery))
  | .others _ _ _ => .isTrue trivial

/-- In runs in which a delivery that comes after a version stops, the result is applied
at most once. -/
theorem applied_once (messageOf : Exception → String) (message : ResultMessage)
    {start target : Gateway} {actions : List DeliveryAction}
    (met : (deliverySystem messageOf message).Meets (StopsAfterFirst start.db message) start actions)
    (runEq : (deliverySystem messageOf message).run start actions = some target) :
    AppliedOnce start.db target := by
  have preserved : ∀ gateway action next,
      SameResults start.db gateway.db ∨ OneResult start.db gateway.db →
      StopsAfterFirst start.db message gateway action →
      deliverySystem messageOf message gateway action = some next →
      SameResults start.db next.db ∨ OneResult start.db next.db := by
    intro gateway action next stored guard stepEq
    cases action with
    | others workflows sessions pipelines =>
        cases stepEq
        rcases stored with same | one
        · exact Or.inl (same.trans ⟨rfl, rfl, rfl⟩)
        · exact Or.inr (one.trans ⟨rfl, rfl, rfl⟩)
    | deliver delivery =>
        cases stepEq
        rcases consume_stores messageOf with unchanged | ⟨goesOn, applied⟩
        · rcases stored with same | one
          · exact Or.inl (same.trans unchanged)
          · exact Or.inr (one.trans unchanged)
        · have first := guard.resolve_right goesOn
          rcases stored with same | one
          · exact Or.inr (same.one applied)
          · have versions := one.versions
            omega
  rcases Step.invariant_of_meets preserved (Or.inl (SameResults.refl start.db)) met runEq with
    same | one
  · constructor
    · rw [same.versions]
      omega
    · rw [same.messages]
      omega
    · rw [same.reports]
      omega
  · exact ⟨one.versions.le, one.messages, one.reports⟩

/-! ## Examples -/

/-- A message that carries nothing but its session and a workflow. -/
def exampleMessage : ResultMessage where
  sessionId := uuid "session"
  correlationId := none
  pipelineExecutionId := none
  elementsJson := none
  workflowJson := some (.obj [])
  confidence := some 1
  aiSummary := none
  summary := none

/-- A delivery, one of whose calls may fail. -/
def exampleDelivery (deliveryCount : Nat) (left : Option Nat) : DeliveryAction :=
  .deliver ⟨exampleIds, deliveryCount, deliveryCount, left⟩

example : ((deliverySystem (fun _ => "") exampleMessage).run (exampleGateway .processing)
    [exampleDelivery 1 none]).isSome := by decide +kernel

/-- A delivery that succeeds and is repeated stores one version. -/
theorem applied_once_example :
    ∃ target, (deliverySystem (fun _ => "") exampleMessage).run (exampleGateway .processing)
        [exampleDelivery 1 none, exampleDelivery 2 none] = some target ∧
      target.db.versions.length = 1 ∧ AppliedOnce (exampleDb .processing) target := by
  have stored : ((deliverySystem (fun _ => "") exampleMessage).run (exampleGateway .processing)
      [exampleDelivery 1 none, exampleDelivery 2 none]).any fun target =>
        target.db.versions.length == 1 := by
    decide +kernel
  have met : (deliverySystem (fun _ => "") exampleMessage).Meets
      (StopsAfterFirst (exampleDb .processing) exampleMessage) (exampleGateway .processing)
      [exampleDelivery 1 none, exampleDelivery 2 none] := by
    decide +kernel
  obtain ⟨target, runEq, once⟩ := Option.any_eq_true _ _ |>.mp stored
  exact ⟨target, runEq, beq_iff_eq.mp once, applied_once _ _ met runEq⟩

/-- A delivery whose call fails after the version has been stored is followed by one
that stores another. -/
theorem applied_twice :
    ∃ target, (deliverySystem (fun _ => "") exampleMessage).run (exampleGateway .processing)
        [exampleDelivery 1 (some 10), exampleDelivery 2 none] = some target ∧
      ¬ AppliedOnce (exampleDb .processing) target := by
  have stored : ((deliverySystem (fun _ => "") exampleMessage).run (exampleGateway .processing)
      [exampleDelivery 1 (some 10), exampleDelivery 2 none]).any fun target =>
        target.db.versions.length == 2 := by
    decide +kernel
  obtain ⟨target, runEq, twice⟩ := Option.any_eq_true _ _ |>.mp stored
  refine ⟨target, runEq, ?_⟩
  intro once
  have versions := once.versions
  rw [beq_iff_eq.mp twice] at versions
  exact absurd versions (by decide)

end Manbaa.AiGateway
