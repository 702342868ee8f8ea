import Manbaa.AiGateway.Generation

/-!
# How a result ends

A result that is not known is looked up; what it is about decides whether its
version is stored.  From then on nothing is undone: each of the calls that follow
may be the last one.
-/

namespace Manbaa.AiGateway

open Manbaa.Lib Manbaa.Lib.Effect

variable {α : Type} {body : Statements α} {value : α} {world reached : Faulty Gateway}
  {gateway : Gateway} {payload : AiTaskResultEvent} {exception : Exception}

/-! ## Calls of the database -/

theorem query_eq_ok_iff : query body world = (.ok value, reached) ↔
    ∃ db, body world.state.db = (.ok value, db) ∧
      reached.state = { world.state with db := db } ∧ world.Spends reached 1 := by
  rw [query, calling_eq_ok_iff, onDb, zoom_eq_iff]
  constructor
  · rintro ⟨⟨db, bodyEq, stateEq⟩, spends⟩
    exact ⟨db, bodyEq, stateEq.symm, spends⟩
  · rintro ⟨db, bodyEq, stateEq, spends⟩
    exact ⟨⟨db, bodyEq, stateEq.symm⟩, spends⟩

/-- A lookup. -/
theorem query_reading_ok {read : AiDb → α}
    (queryEq : query (reading read) world = (.ok value, reached)) :
    read world.state.db = value ∧ reached.state = world.state ∧ world.Spends reached 1 := by
  obtain ⟨db, readEq, stateEq, spends⟩ := query_eq_ok_iff.mp queryEq
  obtain ⟨valueEq, rfl⟩ := reading_eq_ok_iff.mp readEq
  exact ⟨valueEq, stateEq, spends⟩

/-- A call of the database that throws has failed, or its statement has thrown. -/
theorem query_throws (thrown : query body world = (.error exception, reached)) :
    (reached.state = world.state ∧ world.left = some 0) ∨
      ∃ db, body world.state.db = (.error exception, db) ∧
        reached.state = { world.state with db := db } := by
  rcases calling_throws thrown with failed | bodyThrows
  · exact Or.inl failed
  · rw [onDb, zoom_eq_iff] at bodyThrows
    obtain ⟨db, bodyEq, stateEq⟩ := bodyThrows
    exact Or.inr ⟨db, bodyEq, stateEq.symm⟩

theorem returns_query {db : AiDb} (bodyEq : body gateway.db = (.ok value, db)) :
    query body ⟨gateway, none⟩ = (.ok value, ⟨{ gateway with db := db }, none⟩) :=
  query_eq_ok_iff.mpr ⟨db, bodyEq, rfl, nofun, rfl⟩

/-- The handled results stay, and the tables before and after are related. -/
def OnDb (related : AiDb → AiDb → Prop) (gateway target : Gateway) : Prop :=
  target.handledIds = gateway.handledIds ∧ related gateway.db target.db

theorem moves_query {related : AiDb → AiDb → Prop} (refl : ∀ db, related db db)
    (moves : Moves related body) : Moves (Within (OnDb related)) (query body) := by
  apply moves_calling
  · exact fun gateway => ⟨rfl, refl gateway.db⟩
  · exact fun gateway => ⟨rfl, moves gateway.db⟩

theorem graded_onDb {related : Nat → AiDb → AiDb → Prop} (graded : Graded related) :
    Graded fun cost => Within (OnDb (related cost)) where
  refl := fun world => ⟨rfl, graded.refl world.state.db⟩
  weaken := fun le moved => ⟨moved.1, graded.weaken le moved.2⟩
  trans := fun first second =>
    ⟨second.1.trans first.1, graded.trans first.2 second.2⟩

/-! ## What a result is about -/

/-- The pipeline, the session and the workflow of a result, if the organization is
the right one. -/
def AiDb.subject? (db : AiDb) (payload : AiTaskResultEvent) :
    Option (PipelineExecution × Session × Workflow) :=
  (db.pipeline? payload).bind fun pipelineExecution =>
    (db.session? payload.sessionId).bind fun session =>
      (db.workflow? session.workflowId).bind fun workflow =>
        if payload.orgId = "" ∨ workflow.orgId.text = payload.orgId then
          some (pipelineExecution, session, workflow)
        else none

theorem subject?_eq_some_iff {db : AiDb} {pipelineExecution : PipelineExecution}
    {session : Session} {workflow : Workflow} :
    db.subject? payload = some (pipelineExecution, session, workflow) ↔
      db.pipeline? payload = some pipelineExecution ∧
        db.session? payload.sessionId = some session ∧
        db.workflow? session.workflowId = some workflow ∧
        (payload.orgId = "" ∨ workflow.orgId.text = payload.orgId) := by
  constructor
  · intro subjectEq
    obtain ⟨_, pipelineEq, restEq⟩ := Option.bind_eq_some_iff.mp subjectEq
    obtain ⟨_, sessionEq, restEq⟩ := Option.bind_eq_some_iff.mp restEq
    obtain ⟨_, workflowEq, restEq⟩ := Option.bind_eq_some_iff.mp restEq
    obtain ⟨sameOrg, tupleEq⟩ := Option.ite_none_right_eq_some.mp restEq
    cases tupleEq
    exact ⟨pipelineEq, sessionEq, workflowEq, sameOrg⟩
  · rintro ⟨pipelineEq, sessionEq, workflowEq, sameOrg⟩
    simp [AiDb.subject?, pipelineEq, sessionEq, workflowEq, sameOrg]

/-- How many calls look a result up. -/
def AiTaskResultEvent.lookups (payload : AiTaskResultEvent) : Nat :=
  if payload.orgId = "" then 3 else 5

theorem assertOrgMatch_ok {sessionId : Uuid} {done : Unit}
    (assertEq : assertOrgMatch payload.orgId sessionId world = (.ok done, reached)) :
    reached.state = world.state ∧ world.Spends reached (payload.lookups - 3) ∧
      (payload.orgId = "" ∨ ∃ session workflow, world.state.db.session? sessionId = some session ∧
        world.state.db.workflow? session.workflowId = some workflow ∧
        workflow.orgId.text = payload.orgId) := by
  rw [assertOrgMatch] at assertEq
  rw [AiTaskResultEvent.lookups]
  split at assertEq
  · rename_i unknown
    obtain ⟨_, rfl⟩ := pure_eq_ok_iff.mp assertEq
    rw [if_pos unknown]
    exact ⟨rfl, Faulty.spends_zero rfl, Or.inl unknown⟩
  · rename_i known
    rw [if_neg known]
    obtain ⟨_, _, queryEq, restEq⟩ := bind_eq_ok_iff.mp assertEq
    obtain ⟨sessionEq, stateEq, spends⟩ := query_reading_ok queryEq
    obtain ⟨session, _, orEq, restEq⟩ := bind_eq_ok_iff.mp restEq
    obtain ⟨rfl, rfl⟩ := orThrow_eq_ok_iff.mp orEq
    obtain ⟨_, _, queryEq, restEq⟩ := bind_eq_ok_iff.mp restEq
    obtain ⟨workflowEq, nextEq, nextSpends⟩ := query_reading_ok queryEq
    obtain ⟨workflow, _, orEq, restEq⟩ := bind_eq_ok_iff.mp restEq
    obtain ⟨rfl, rfl⟩ := orThrow_eq_ok_iff.mp orEq
    obtain ⟨sameOrg, rfl⟩ := require_eq_ok_iff.mp restEq
    rw [stateEq] at workflowEq
    exact ⟨nextEq.trans stateEq, spends.trans nextSpends,
      Or.inr ⟨session, workflow, sessionEq, workflowEq, beq_iff_eq.mp sameOrg⟩⟩

theorem locate_ok {found : PipelineExecution × Session × Workflow}
    (locateEq : locate payload world = (.ok found, reached)) :
    world.state.db.subject? payload = some found ∧ reached.state = world.state ∧
      world.Spends reached payload.lookups := by
  obtain ⟨_, _, queryEq, restEq⟩ := bind_eq_ok_iff.mp locateEq
  obtain ⟨pipelineEq, pipelineState, pipelineSpends⟩ := query_reading_ok queryEq
  obtain ⟨pipelineExecution, _, orEq, restEq⟩ := bind_eq_ok_iff.mp restEq
  obtain ⟨rfl, rfl⟩ := orThrow_eq_ok_iff.mp orEq
  obtain ⟨_, _, queryEq, restEq⟩ := bind_eq_ok_iff.mp restEq
  obtain ⟨sessionEq, sessionState, sessionSpends⟩ := query_reading_ok queryEq
  obtain ⟨session, _, orEq, restEq⟩ := bind_eq_ok_iff.mp restEq
  obtain ⟨rfl, rfl⟩ := orThrow_eq_ok_iff.mp orEq
  obtain ⟨_, _, assertEq, restEq⟩ := bind_eq_ok_iff.mp restEq
  obtain ⟨orgState, orgSpends, sameOrg⟩ := assertOrgMatch_ok assertEq
  obtain ⟨_, _, queryEq, restEq⟩ := bind_eq_ok_iff.mp restEq
  obtain ⟨workflowEq, workflowState, workflowSpends⟩ := query_reading_ok queryEq
  obtain ⟨workflow, _, orEq, restEq⟩ := bind_eq_ok_iff.mp restEq
  obtain ⟨rfl, rfl⟩ := orThrow_eq_ok_iff.mp orEq
  obtain ⟨rfl, rfl⟩ := pure_eq_ok_iff.mp restEq
  rw [pipelineState] at sessionEq
  rw [sessionState, pipelineState] at sameOrg
  rw [orgState, sessionState, pipelineState] at workflowEq
  have sessionId : session.id = payload.sessionId := Table.key_of_get? sessionEq
  refine ⟨subject?_eq_some_iff.mpr ⟨pipelineEq, sessionEq, workflowEq, ?_⟩, ?_, ?_⟩
  · rcases sameOrg with unknown | ⟨other, owner, otherEq, ownerEq, matching⟩
    · exact Or.inl unknown
    · rw [sessionId] at otherEq
      cases sessionEq.symm.trans otherEq
      cases workflowEq.symm.trans ownerEq
      exact Or.inr matching
  · exact ((workflowState.trans orgState).trans sessionState).trans pipelineState
  · have spends := (pipelineSpends.trans sessionSpends).trans (orgSpends.trans workflowSpends)
    have total : 1 + 1 + (payload.lookups - 3 + 1) = payload.lookups := by
      rw [AiTaskResultEvent.lookups]
      split <;> rfl
    exact total ▸ spends

theorem quiet_reading (read : AiDb → α) : Quiet (query (reading read)) :=
  moves_calling (fun _ => rfl) fun _ => rfl

theorem quiet_assertOrgMatch (orgId : String) (sessionId : Uuid) :
    Quiet (assertOrgMatch orgId sessionId) := by
  rw [assertOrgMatch]
  split
  · exact quiet_of_readOnly readOnly_pure
  · exact (quiet_reading _).bind fun _ => (quiet_of_readOnly readOnly_orThrow).bind fun _ =>
      (quiet_reading _).bind fun _ => (quiet_of_readOnly readOnly_orThrow).bind fun _ =>
        quiet_of_readOnly readOnly_require

theorem quiet_locate (payload : AiTaskResultEvent) : Quiet (locate payload) :=
  (quiet_reading _).bind fun _ => (quiet_of_readOnly readOnly_orThrow).bind fun _ =>
    (quiet_reading _).bind fun _ => (quiet_of_readOnly readOnly_orThrow).bind fun _ =>
      (quiet_assertOrgMatch _ _).bind fun _ => (quiet_reading _).bind fun _ =>
        (quiet_of_readOnly readOnly_orThrow).bind fun _ => quiet_of_readOnly readOnly_pure

/-- Without a failing call, a result that is about something is located. -/
theorem locate_returns {found : PipelineExecution × Session × Workflow}
    (subjectEq : gateway.db.subject? payload = some found) :
    locate payload ⟨gateway, none⟩ = (.ok found, ⟨gateway, none⟩) := by
  obtain ⟨pipelineExecution, session, workflow⟩ := found
  obtain ⟨pipelineEq, sessionEq, workflowEq, sameOrg⟩ := subject?_eq_some_iff.mp subjectEq
  have sessionId : session.id = payload.sessionId := Table.key_of_get? sessionEq
  have read : ∀ {α : Type} {read : AiDb → α} {value : α}, read gateway.db = value →
      query (reading read) ⟨gateway, none⟩ = (.ok value, ⟨gateway, none⟩) :=
    fun readEq => returns_query (reading_eq_ok_iff.mpr ⟨readEq, rfl⟩)
  have found : ∀ {α : Type} {found : Option α} {value : α} {error : Exception},
      found = some value → (orThrow found error : Calls α) ⟨gateway, none⟩ =
        (.ok value, ⟨gateway, none⟩) :=
    fun foundEq => orThrow_eq_ok_iff.mpr ⟨foundEq, rfl⟩
  have asserted : assertOrgMatch payload.orgId session.id ⟨gateway, none⟩ =
      (.ok (), ⟨gateway, none⟩) := by
    rw [assertOrgMatch]
    split
    · rfl
    · rename_i known
      rw [bind_of_ok (read (sessionId ▸ sessionEq)), bind_of_ok (found rfl),
        bind_of_ok (read workflowEq), bind_of_ok (found rfl)]
      exact require_eq_ok_iff.mpr ⟨beq_iff_eq.mpr (sameOrg.resolve_left known), rfl⟩
  rw [locate, bind_of_ok (read pipelineEq), bind_of_ok (found rfl), bind_of_ok (read sessionEq),
    bind_of_ok (found rfl), bind_of_ok asserted, bind_of_ok (read workflowEq),
    bind_of_ok (found rfl)]
  rfl

/-! ## What a result stores -/

/-- The version that a result makes, as the tables stand. -/
def AiDb.resultVersion (db : AiDb) (ids : ResultIds) (payload : AiTaskResultEvent)
    (workflow : Workflow) (session : Session) : WorkflowVersion :=
  payload.version ids workflow session (db.latestVersion? workflow.id)

/-- The process with another version in its database. -/
def Gateway.addVersion (gateway : Gateway) (version : WorkflowVersion) : Gateway :=
  { gateway with db := gateway.db.addVersion version }

variable {ids : ResultIds} {now : Nat} {msgId : Option String} {workflow : Workflow}
  {session : Session} {created : WorkflowVersion} {pipelineExecution : PipelineExecution}

theorem create_ok
    (createEq : createWorkflowVersionFromResult ids payload workflow session world =
      (.ok created, reached)) :
    created = world.state.db.resultVersion ids payload workflow session ∧
      world.state.db.taken created = false ∧ reached.state = world.state.addVersion created ∧
      world.Spends reached 2 := by
  obtain ⟨_, _, queryEq, restEq⟩ := bind_eq_ok_iff.mp createEq
  obtain ⟨latestEq, stateEq, spends⟩ := query_reading_ok queryEq
  obtain ⟨_, _, insertEq, pureEq⟩ := bind_eq_ok_iff.mp restEq
  obtain ⟨db, bodyEq, insertedEq, insertSpends⟩ := query_eq_ok_iff.mp insertEq
  obtain ⟨fresh, rfl⟩ := insertVersion_eq_ok_iff.mp bodyEq
  obtain ⟨rfl, rfl⟩ := pure_eq_ok_iff.mp pureEq
  rw [stateEq] at fresh insertedEq
  subst latestEq
  exact ⟨rfl, fresh, insertedEq, spends.trans insertSpends⟩

theorem create_throws
    (createEq : createWorkflowVersionFromResult ids payload workflow session world =
      (.error exception, reached)) :
    reached.state = world.state := by
  rcases bind_eq_error_iff.mp createEq with queryEq | ⟨latest, middle, queryEq, restEq⟩
  · have quiet := quiet_reading (fun db => db.latestVersion? workflow.id) world
    rw [queryEq] at quiet
    exact quiet.symm
  · obtain ⟨_, stateEq, _⟩ := query_reading_ok queryEq
    rcases bind_eq_error_iff.mp restEq with insertEq | ⟨_, _, _, pureEq⟩
    · rcases query_throws insertEq with ⟨failedEq, _⟩ | ⟨db, bodyEq, thrownEq⟩
      · exact failedEq.trans stateEq
      · rw [thrownEq, ← atomic_insertVersion _ _ _ _ bodyEq]
        exact stateEq
    · exact absurd pureEq pure_ne_error

/-- Without a failing call, a version with a new number is stored. -/
theorem create_returns
    (fresh : gateway.db.taken (gateway.db.resultVersion ids payload workflow session) = false) :
    createWorkflowVersionFromResult ids payload workflow session ⟨gateway, none⟩ =
      (.ok (gateway.db.resultVersion ids payload workflow session),
        ⟨gateway.addVersion (gateway.db.resultVersion ids payload workflow session), none⟩) := by
  have latestEq : query (reading fun db => db.latestVersion? workflow.id) ⟨gateway, none⟩ =
      (.ok (gateway.db.latestVersion? workflow.id), ⟨gateway, none⟩) :=
    returns_query (reading_eq_ok_iff.mpr ⟨rfl, rfl⟩)
  have insertEq : query (insertVersion (gateway.db.resultVersion ids payload workflow session))
      ⟨gateway, none⟩ = (.ok (),
        ⟨gateway.addVersion (gateway.db.resultVersion ids payload workflow session), none⟩) :=
    returns_query (insertVersion_eq_ok_iff.mpr ⟨fresh, rfl⟩)
  rw [createWorkflowVersionFromResult, bind_of_ok latestEq]
  exact bind_of_ok insertEq

/-! ## How a result ends -/

/-- The key of a result. -/
def AiTaskResultEvent.key (payload : AiTaskResultEvent) (msgId : Option String) : String :=
  idempotencyKey msgId payload.correlationId aiTasksResult

/-- What follows the version, the marking of the result included. -/
def finishResult (ids : ResultIds) (now : Nat) (payload : AiTaskResultEvent)
    (msgId : Option String) (pipelineExecution : PipelineExecution) (session : Session)
    (workflow : Workflow) (created : WorkflowVersion) : Calls Unit := do
  applyResult ids now payload pipelineExecution session workflow created
  locally (writing fun gateway =>
    { gateway with handledIds := markHandled gateway.handledIds (payload.key msgId) })

/-- How a result may end: it is known, it stops before its version is stored, or its
version is stored.  It stops because a call fails, because it is about nothing, or
because the number of its version is taken. -/
inductive Handled (ids : ResultIds) (now : Nat) (payload : AiTaskResultEvent)
    (msgId : Option String) (world : Faulty Gateway) :
    Except Exception Unit → Faulty Gateway → Prop where
  | known (knownMem : payload.key msgId ∈ world.state.handledIds) :
      Handled ids now payload msgId world (.ok ()) world
  | stopped (exception : Exception) (reached : Faulty Gateway)
      (unknown : payload.key msgId ∉ world.state.handledIds)
      (stateEq : reached.state = world.state)
      (why : world.left = none → ∀ pipelineExecution session workflow,
        world.state.db.subject? payload = some (pipelineExecution, session, workflow) →
          world.state.db.taken
            (world.state.db.resultVersion ids payload workflow session) = true) :
      Handled ids now payload msgId world (.error exception) reached
  | stored (pipelineExecution : PipelineExecution) (session : Session) (workflow : Workflow)
      (created : WorkflowVersion) (middle reached : Faulty Gateway)
      (result : Except Exception Unit) (unknown : payload.key msgId ∉ world.state.handledIds)
      (subjectEq : world.state.db.subject? payload = some (pipelineExecution, session, workflow))
      (createdEq : created = world.state.db.resultVersion ids payload workflow session)
      (fresh : world.state.db.taken created = false)
      (middleEq : middle.state = world.state.addVersion created)
      (spends : world.Spends middle (payload.lookups + 2))
      (restEq : finishResult ids now payload msgId pipelineExecution session workflow created
        middle = (result, reached)) :
      Handled ids now payload msgId world result reached

theorem handle_outcome {result : Except Exception Unit}
    (handleEq : handle ids now payload msgId world = (result, reached)) :
    Handled ids now payload msgId world result reached := by
  have readEq : (locally (reading Gateway.handledIds) : Calls _) world =
      (.ok world.state.handledIds, world) := rfl
  rw [handle, bind_of_ok readEq] at handleEq
  split at handleEq
  · rename_i known
    cases handleEq
    exact .known (List.contains_iff_mem.mp known)
  · rename_i unknown
    rw [List.contains_iff_mem] at unknown
    rcases locateEq : locate payload world with ⟨thrown | found, located⟩
    · rw [bind_eq_error_iff.mpr (Or.inl locateEq)] at handleEq
      cases handleEq
      have quiet := quiet_locate payload world
      rw [locateEq] at quiet
      refine .stopped _ _ unknown quiet.symm fun calm _ _ _ subjectEq => ?_
      have worldEq : world = ⟨world.state, none⟩ := congrArg (Faulty.mk world.state) calm
      rw [worldEq, locate_returns subjectEq] at locateEq
      cases locateEq
    · obtain ⟨pipelineExecution, session, workflow⟩ := found
      obtain ⟨subjectEq, stateEq, spends⟩ := locate_ok locateEq
      rw [bind_of_ok locateEq] at handleEq
      dsimp only at handleEq
      rcases createEq : createWorkflowVersionFromResult ids payload workflow session located with
        ⟨thrown | created, middle⟩
      · rw [bind_eq_error_iff.mpr (Or.inl createEq)] at handleEq
        cases handleEq
        refine .stopped _ _ unknown ((create_throws createEq).trans stateEq) ?_
        intro calm other owner aim otherEq
        cases subjectEq.symm.trans otherEq
        have locatedEq : located = ⟨world.state, none⟩ := by
          rw [← stateEq, ← spends.none calm]
        by_contra fresh
        rw [Bool.not_eq_true] at fresh
        rw [locatedEq, create_returns fresh] at createEq
        cases createEq
      · rw [bind_of_ok createEq] at handleEq
        obtain ⟨createdEq, fresh, middleEq, createSpends⟩ := create_ok createEq
        rw [stateEq] at createdEq fresh middleEq
        exact .stored pipelineExecution session workflow created middle _ _ unknown subjectEq
          createdEq fresh middleEq (spends.trans createSpends) handleEq

/-! ## What follows the version -/

/-- What the statements after the workflow do to the tables.  Writes of sessions,
messages and reports have a cost; the other writes have none. -/
structure RecordMoves (ids : ResultIds) (payload : AiTaskResultEvent) (session : Session)
    (created : WorkflowVersion) (saved said reported : Nat)
    (related : Nat → AiDb → AiDb → Prop) : Prop extends Graded related where
  session : ∀ db status,
    transitionSessionStatus session.status .aiResultReceived session.mode = .ok status →
      related saved db (db.writeSession (session.withResult payload status))
  pipeline : ∀ db row, related 0 db (db.writePipeline row)
  message : ∀ db, related said db
    { db with messages := db.messages ++ [payload.message ids created] }
  graph : ∀ db graph, related 0 db { db with graphs := db.graphs ++ [graph] }
  report : ∀ db report, report.id = ids.report →
    related reported db { db with reports := db.reports ++ [report] }

/-- What the statements after the version do to the tables: a workflow is saved as
well. -/
structure ResultMoves (ids : ResultIds) (payload : AiTaskResultEvent) (session : Session)
    (created : WorkflowVersion) (saved said reported : Nat)
    (related : Nat → AiDb → AiDb → Prop) : Prop extends
    RecordMoves ids payload session created saved said reported related where
  workflow : ∀ db row, related 0 db (db.writeWorkflow row)

variable {saved said reported : Nat} {related : Nat → AiDb → AiDb → Prop}

/-- A read costs nothing. -/
theorem moves_reading (graded : Graded related) (read : AiDb → α) :
    Moves (Within (OnDb (related 0))) (query (reading read)) :=
  moves_query graded.refl fun db => graded.refl db

/-- A write costs what it costs in every database. -/
theorem moves_writing (graded : Graded related) {cost : Nat} {write : AiDb → AiDb}
    (moves : ∀ db, related cost db (write db)) :
    Moves (Within (OnDb (related cost))) (query (writing write)) :=
  moves_query (fun db => graded.weaken (Nat.zero_le cost) (graded.refl db)) moves

theorem moves_external (graded : Graded related) :
    Moves (Within (OnDb (related 0))) external :=
  moves_calling (fun gateway => ⟨rfl, graded.refl gateway.db⟩)
    fun gateway => ⟨rfl, graded.refl gateway.db⟩

theorem moves_readOnly (graded : Graded related) {body : Calls α} (reads : ReadOnly body) :
    Moves (Within (OnDb (related 0))) body :=
  reads.moves fun world => ⟨rfl, graded.refl world.state.db⟩

/-- Saving a workflow writes its row or nothing. -/
theorem moves_saveWorkflow (graded : Graded related) {row : Workflow}
    (moves : ∀ db, related 0 db (db.writeWorkflow row)) :
    Moves (related 0) (saveWorkflow row) := by
  intro db
  rcases saveEq : saveWorkflow row db with ⟨thrown | done, target⟩
  · rw [atomic_saveWorkflow row _ _ _ saveEq]
    exact graded.refl target
  · obtain ⟨_, rfl⟩ := saveWorkflow_eq_ok_iff.mp saveEq
    exact moves db

section
variable (moves : RecordMoves ids payload session created saved said reported related)
include moves

theorem RecordMoves.buildIntentSnapshot (workflowId : Uuid) :
    Moves (Within (OnDb (related 0))) (buildIntentSnapshot ids session workflowId) := by
  have graded := moves.toGraded
  apply (graded_onDb graded).bind_free (moves_reading graded _)
  intro nodes
  apply (graded_onDb graded).bind_free (moves_reading graded _)
  intro edges
  apply (graded_onDb graded).bind_free (moves_writing graded fun db => moves.graph db _)
  exact fun _ => moves_readOnly graded readOnly_pure

theorem RecordMoves.buildGeneratedSnapshot (workflowId : Uuid) (version : WorkflowVersion) :
    Moves (Within (OnDb (related 0))) (buildGeneratedSnapshot ids session workflowId version) := by
  have graded := moves.toGraded
  apply (graded_onDb graded).bind_free (moves_writing graded fun db => moves.graph db _)
  exact fun _ => moves_readOnly graded readOnly_pure

theorem RecordMoves.createDivergenceReport (workflowId pipelineExecutionId graphAId
    graphBId : Uuid) :
    Moves (Within (OnDb (related reported)))
      (createDivergenceReport ids workflowId pipelineExecutionId graphAId graphBId) := by
  have graded := moves.toGraded
  apply (graded_onDb graded).bind_last (moves_writing graded fun db => moves.report db _ rfl)
  exact fun _ => moves_readOnly graded readOnly_pure

/-- What follows the workflow costs no more than a session, a message and a report. -/
theorem RecordMoves.recordResult :
    Moves (Within (OnDb (related (saved + (said + reported)))))
      (recordResult ids now payload pipelineExecution session workflow created) := by
  have graded := moves.toGraded
  have onDb := graded_onDb graded
  apply moves_asking fun world => onDb.weaken (Nat.zero_le _) (onDb.refl world)
  intro status statusEq
  apply onDb.bind (moves_writing graded fun db => moves.session db status statusEq)
  intro _
  apply onDb.bind_free (moves_writing graded fun db => moves.pipeline db _)
  intro _
  apply onDb.bind (moves_writing graded moves.message)
  intro _
  apply onDb.bind_free (moves_external graded)
  intro _
  apply onDb.bind_free (moves_external graded)
  intro _
  apply onDb.bind_free (moves.buildIntentSnapshot _)
  intro intentSnapshot
  apply onDb.bind_free (moves.buildGeneratedSnapshot _ _)
  intro generatedSnapshot
  apply onDb.bind_last (moves.createDivergenceReport _ _ _ _)
  intro _
  apply onDb.bind_free (moves_external graded)
  exact fun _ => moves_external graded

end

section
variable (moves : ResultMoves ids payload session created saved said reported related)
include moves

theorem ResultMoves.applyResult :
    Moves (Within (OnDb (related (saved + (said + reported)))))
      (applyResult ids now payload pipelineExecution session workflow created) := by
  have graded := moves.toGraded
  apply (graded_onDb graded).bind_free
  · apply moves_query graded.refl
    exact moves_saveWorkflow graded fun db => moves.workflow db _
  · exact fun _ => moves.recordResult

/-- A result is marked if all that follows the version succeeds, and only then. -/
theorem ResultMoves.finishResult {middle : Faulty Gateway} {result : Except Exception Unit}
    (restEq : finishResult ids now payload msgId pipelineExecution session workflow created
      middle = (result, reached)) :
    related (saved + (said + reported)) middle.state.db reached.state.db ∧
      ((result = .ok () ∧ reached.state.handledIds =
          markHandled middle.state.handledIds (payload.key msgId)) ∨
        ((∃ exception, result = .error exception) ∧
          reached.state.handledIds = middle.state.handledIds)) := by
  have moved : OnDb (related (saved + (said + reported))) middle.state
      (AiGateway.applyResult ids now payload pipelineExecution session workflow created
        middle).2.state := moves.applyResult middle
  rcases result with thrown | done
  · rcases bind_eq_error_iff.mp restEq with applyEq | ⟨_, _, _, markEq⟩
    · rw [applyEq] at moved
      exact ⟨moved.2, Or.inr ⟨⟨thrown, rfl⟩, moved.1⟩⟩
    · cases markEq
  · obtain ⟨_, last, applyEq, markEq⟩ := bind_eq_ok_iff.mp restEq
    rw [applyEq] at moved
    obtain ⟨markedEq, _⟩ := locally_eq_ok_iff.mp markEq
    have stateEq := writing_eq_ok_iff.mp markedEq
    rw [← stateEq]
    refine ⟨moved.2, Or.inl ⟨rfl, ?_⟩⟩
    dsimp only
    rw [moved.1]

end

end Manbaa.AiGateway
