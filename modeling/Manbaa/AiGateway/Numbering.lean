import Manbaa.AiGateway.GenerationSteps
import Manbaa.AiGateway.Workflows
import Manbaa.Lib.Sessions

/-!
# The numbers of versions

Updates, commits and results beside each other.  A transaction is one step, and so
is every other statement; in between a call keeps what it has read.  An update
reads the counter again before it numbers its version, a commit relies on the
workflow that it read, a result on the latest version; the constraint on the
numbers stops all who come too late.  What may go wrong is the counter: an update
and a result save the workflow that they read a while ago.
-/

namespace Manbaa.AiGateway

open Manbaa.Lib Manbaa.Lib.Effect

/-! ## Calls, statement by statement -/

/-- A result that arrives. -/
structure ResultRequest where
  payload : AiTaskResultEvent
  ids : ResultIds
  now : Nat

/-- A call. -/
inductive NumberingRequest where
  | update (request : UpdateRequest)
  | commitCanvas (request : CommitRequest)
  | handle (request : ResultRequest)

/-- The next step of a call, with what it has read. -/
inductive NumberingStage where
  | findForUpdate (request : UpdateRequest)
  | addVersion (request : UpdateRequest) (edited : Workflow) (elementsJson : List Json)
  | saveUpdate (workflow : Workflow)
  | findForCommit (request : CommitRequest)
  | commit (request : CommitRequest) (found : Committing)
  | locate (request : ResultRequest)
  | latest (request : ResultRequest) (pipelineExecution : PipelineExecution) (session : Session)
      (workflow : Workflow)
  | insert (request : ResultRequest) (pipelineExecution : PipelineExecution) (session : Session)
      (workflow : Workflow) (latest : Option WorkflowVersion)
  | saveResult (request : ResultRequest) (pipelineExecution : PipelineExecution)
      (session : Session) (workflow : Workflow) (created : WorkflowVersion)
  | record (request : ResultRequest) (pipelineExecution : PipelineExecution)
      (session : Session) (workflow : Workflow) (created : WorkflowVersion)
  | ended

/-- How a call begins. -/
def NumberingStage.start : NumberingRequest → NumberingStage
  | .update request => .findForUpdate request
  | .commitCanvas request => .findForCommit request
  | .handle request => .locate request

/-- How a call goes on after a statement: it is over if the statement throws. -/
def NumberingStage.after {α : Type} (next : α → NumberingStage) :
    Except Exception α × AiDb → AiDb × NumberingStage
  | (.ok value, db) => (db, next value)
  | (.error _, db) => (db, .ended)

/-- What an update does once it has read the workflow. -/
def NumberingStage.edited (request : UpdateRequest) (workflow : Workflow) : NumberingStage :=
  match request.dto.elementsJson with
  | none => .saveUpdate (workflow.edit request.dto)
  | some elementsJson => .addVersion request (workflow.edit request.dto) elementsJson

/-- The next step of a call. -/
def NumberingStage.advance (db : AiDb) : NumberingStage → Option (AiDb × NumberingStage)
  | .findForUpdate request => some (NumberingStage.after (.edited request) (AiGateway.findForUpdate request db))
  | .addVersion request edited elementsJson =>
      some (NumberingStage.after
        (fun _ => .saveUpdate { edited with currentVersion := edited.currentVersion + 1 })
        (addUpdateVersion request elementsJson db))
  | .saveUpdate workflow => some (NumberingStage.after (fun _ => .ended) (saveWorkflow workflow db))
  | .findForCommit request => some (NumberingStage.after (.commit request) (AiGateway.findForCommit request db))
  | .commit request found => some (NumberingStage.after (fun _ => .ended) (commitVersion request found db))
  | .locate request =>
      some (db,
        match db.subject? request.payload with
        | some (pipelineExecution, session, workflow) =>
            .latest request pipelineExecution session workflow
        | none => .ended)
  | .latest request pipelineExecution session workflow =>
      some (db,
        .insert request pipelineExecution session workflow (db.latestVersion? workflow.id))
  | .insert request pipelineExecution session workflow found =>
      let created := request.payload.version request.ids workflow session found
      some (NumberingStage.after (fun _ => .saveResult request pipelineExecution session workflow created)
        (insertVersion created db))
  | .saveResult request pipelineExecution session workflow created =>
      some (NumberingStage.after (fun _ => .record request pipelineExecution session workflow created)
        (saveWorkflow (workflow.withResult created) db))
  | .record request pipelineExecution session workflow created =>
      some ((recordResult request.ids request.now request.payload pipelineExecution session
        workflow created ⟨⟨db, []⟩, none⟩).2.state.db, .ended)
  | .ended => none

/-- Calls beside each other. -/
def numberingSystem : Sessions AiDb NumberingStage NumberingRequest Unit where
  start db request := (db, some (.start request))
  advance db _ stage _ := stage.advance db

/-! ## Numbers -/

/-- The numbers of the versions of a workflow. -/
def AiDb.numbers (db : AiDb) (id : Uuid) : List Int :=
  (db.versions.filter fun version => version.workflowId == id).map WorkflowVersion.versionNumber

/-- Each number from one to the last, once. -/
structure Consecutive (numbers : List Int) (last : Int) : Prop where
  nodup : numbers.Nodup
  nonneg : 0 ≤ last
  mem_iff : ∀ number, number ∈ numbers ↔ 1 ≤ number ∧ number ≤ last

variable {db target : AiDb} {id : Uuid} {last : Int} {version : WorkflowVersion}
  {workflow row : Workflow} {stage next : NumberingStage} {others : List NumberingStage}

theorem Consecutive.maxVersion_eq (consecutive : Consecutive (db.numbers id) last) :
    db.maxVersion id = last := by
  have nonneg := consecutive.nonneg
  rw [AiDb.maxVersion]
  cases latestEq : db.latestVersion? id with
  | none =>
      rw [AiDb.latestVersion?, Table.largest?_eq_none_iff] at latestEq
      have absent : ¬ 1 ≤ last := by
        intro positive
        have lastMem := (consecutive.mem_iff last).mpr ⟨positive, le_rfl⟩
        rw [AiDb.numbers, latestEq] at lastMem
        cases lastMem
      change (0 : Int) = last
      omega
  | some latest =>
      have latestMem := Table.mem_of_largest? latestEq
      have bounds := (consecutive.mem_iff _).mp (List.mem_map_of_mem latestMem)
      have lastMem := (consecutive.mem_iff last).mpr ⟨by omega, le_rfl⟩
      obtain ⟨other, otherMem, otherEq⟩ := List.mem_map.mp lastMem
      have most : other.versionNumber ≤ latest.versionNumber :=
        Table.le_of_largest? otherMem latestEq
      change latest.versionNumber = last
      omega

/-- A number that is not there, not below one and not far above the last one, is the
next one. -/
theorem Consecutive.eq_next {numbers : List Int} {number : Int}
    (consecutive : Consecutive numbers last) (fresh : number ∉ numbers) (least : 1 ≤ number)
    (most : number ≤ last + 1) : number = last + 1 := by
  rw [consecutive.mem_iff] at fresh
  omega

theorem Consecutive.snoc {numbers : List Int} (consecutive : Consecutive numbers last) :
    Consecutive (numbers ++ [last + 1]) (last + 1) := by
  have fresh : last + 1 ∉ numbers := by
    rw [consecutive.mem_iff]
    omega
  have nonneg := consecutive.nonneg
  constructor
  · rw [← List.concat_eq_append]
    exact consecutive.nodup.concat fresh
  · omega
  · intro number
    rw [List.mem_append, List.mem_singleton, consecutive.mem_iff]
    omega

theorem workflow?_writeWorkflow :
    (db.writeWorkflow workflow).workflow? id =
      if workflow.id = id then some workflow else db.workflow? id :=
  Table.get?_save

theorem numbers_addVersion :
    (db.addVersion version).numbers id =
      if version.workflowId = id then db.numbers id ++ [version.versionNumber]
      else db.numbers id := by
  by_cases same : version.workflowId = id
  · simp [AiDb.numbers, AiDb.addVersion, same]
  · simp [AiDb.numbers, AiDb.addVersion, same]

theorem maxVersion_addVersion_of_ne (ne : version.workflowId ≠ id) :
    (db.addVersion version).maxVersion id = db.maxVersion id := by
  simp [AiDb.maxVersion, AiDb.latestVersion?, AiDb.addVersion, ne]

theorem taken_eq_false_iff_numbers :
    db.taken version = false ↔ version.versionNumber ∉ db.numbers version.workflowId := by
  simp [taken_eq_false_iff, AiDb.numbers]

/-! ## Counters that do not exceed the numbers -/

/-- The numbers of a workflow are consecutive, and its counter is one of them or
zero. -/
structure Counted (db : AiDb) : Prop where
  keyed : Table.Keyed Workflow.id db.workflows
  numbered : ∀ id row, db.workflow? id = some row → Consecutive (db.numbers id) (db.maxVersion id)
  bounded : ∀ id row, db.workflow? id = some row →
    0 ≤ row.currentVersion ∧ row.currentVersion ≤ db.maxVersion id

/-- Workflows stay, and neither their counters nor their numbers go down. -/
def Grows (db target : AiDb) : Prop :=
  ∀ id row, db.workflow? id = some row → ∃ next, target.workflow? id = some next ∧
    row.currentVersion ≤ next.currentVersion ∧ db.maxVersion id ≤ target.maxVersion id

theorem Grows.trans {middle : AiDb} (first : Grows db middle) (second : Grows middle target) :
    Grows db target := by
  intro id row rowEq
  obtain ⟨next, nextEq, rowLe, maxLe⟩ := first id row rowEq
  obtain ⟨reached, reachedEq, nextLe, nextMaxLe⟩ := second id next nextEq
  exact ⟨reached, reachedEq, rowLe.trans nextLe, maxLe.trans nextMaxLe⟩

/-- A save that does not lower the counter, and does not raise it over the
numbers. -/
theorem Counted.save (counted : Counted db) (rowEq : db.workflow? workflow.id = some row)
    (least : row.currentVersion ≤ workflow.currentVersion)
    (most : workflow.currentVersion ≤ db.maxVersion workflow.id) :
    Counted (db.writeWorkflow workflow) ∧ Grows db (db.writeWorkflow workflow) := by
  have nonneg := (counted.bounded _ _ rowEq).1
  refine ⟨⟨Table.keyed_save counted.keyed, ?_, ?_⟩, ?_⟩
  · intro id other otherEq
    rw [workflow?_writeWorkflow] at otherEq
    split at otherEq
    · rename_i same
      rw [← same]
      exact counted.numbered _ _ rowEq
    · exact counted.numbered _ _ otherEq
  · intro id other otherEq
    rw [workflow?_writeWorkflow] at otherEq
    split at otherEq
    · rename_i same
      cases otherEq
      rw [← same]
      exact ⟨nonneg.trans least, most⟩
    · exact counted.bounded _ _ otherEq
  · intro id old oldEq
    rw [workflow?_writeWorkflow]
    split
    · rename_i same
      rw [← same] at oldEq
      cases rowEq.symm.trans oldEq
      exact ⟨workflow, rfl, least, le_rfl⟩
    · exact ⟨old, oldEq, le_rfl, le_rfl⟩

/-- A version whose number is new to the workflow and not far above the others has the
next number. -/
theorem Counted.insert (counted : Counted db)
    (rowEq : db.workflow? version.workflowId = some row) (fresh : db.taken version = false)
    (least : 1 ≤ version.versionNumber)
    (most : version.versionNumber ≤ db.maxVersion version.workflowId + 1) :
    Counted (db.addVersion version) ∧ Grows db (db.addVersion version) ∧
      (db.addVersion version).maxVersion version.workflowId = version.versionNumber := by
  have consecutive := counted.numbered _ _ rowEq
  have numberEq := consecutive.eq_next (taken_eq_false_iff_numbers.mp fresh) least most
  have extended : Consecutive ((db.addVersion version).numbers version.workflowId)
      version.versionNumber := by
    rw [numbers_addVersion, if_pos rfl, numberEq]
    exact consecutive.snoc
  have maxEq := extended.maxVersion_eq
  refine ⟨⟨counted.keyed, ?_, ?_⟩, ?_, maxEq⟩
  · intro id other otherEq
    by_cases same : version.workflowId = id
    · rw [← same, maxEq]
      exact extended
    · rw [numbers_addVersion, if_neg same, maxVersion_addVersion_of_ne same]
      exact counted.numbered id other otherEq
  · intro id other otherEq
    have bounds := counted.bounded id other otherEq
    by_cases same : version.workflowId = id
    · rw [← same, maxEq]
      rw [← same] at bounds
      omega
    · rw [maxVersion_addVersion_of_ne same]
      exact bounds
  · intro id old oldEq
    refine ⟨old, oldEq, le_rfl, ?_⟩
    by_cases same : version.workflowId = id
    · rw [← same, maxEq]
      omega
    · rw [maxVersion_addVersion_of_ne same]

/-! ## What calls know and owe -/

/-- The call is about to raise the counter of a workflow to a number. -/
def NumberingStage.Awaits (id : Uuid) (number : Int) : NumberingStage → Prop
  | .saveResult _ _ _ workflow created => workflow.id = id ∧ created.versionNumber = number
  | _ => False

/-- What a call may rely on. -/
def NumberingStage.Owns (db : AiDb) : NumberingStage → Prop
  | .addVersion request edited _ => edited.id = request.id ∧ (db.workflow? request.id).isSome
  | .saveUpdate workflow => (db.workflow? workflow.id).isSome
  | .commit _ found => 0 ≤ found.workflow.currentVersion ∧
      ∃ row, db.workflow? found.workflow.id = some row ∧
        found.workflow.currentVersion ≤ row.currentVersion
  | .latest _ _ _ workflow => (db.workflow? workflow.id).isSome
  | .insert _ _ _ workflow found => (db.workflow? workflow.id).isSome ∧
      0 ≤ found.elim 0 WorkflowVersion.versionNumber ∧
      found.elim 0 WorkflowVersion.versionNumber ≤ db.maxVersion workflow.id
  | .saveResult _ _ _ workflow created => (db.workflow? workflow.id).isSome ∧
      created.versionNumber ≤ db.maxVersion workflow.id
  | _ => True

theorem Grows.isSome (grows : Grows db target) (found : (db.workflow? id).isSome) :
    (target.workflow? id).isSome := by
  obtain ⟨row, rowEq⟩ := Option.isSome_iff_exists.mp found
  obtain ⟨next, nextEq, _⟩ := grows id row rowEq
  exact Option.isSome_iff_exists.mpr ⟨next, nextEq⟩

theorem Grows.maxVersion_le (grows : Grows db target) (found : (db.workflow? id).isSome) :
    db.maxVersion id ≤ target.maxVersion id := by
  obtain ⟨row, rowEq⟩ := Option.isSome_iff_exists.mp found
  obtain ⟨_, _, _, maxLe⟩ := grows id row rowEq
  exact maxLe

/-- What a call relies on survives the steps of the others. -/
theorem Grows.owns (grows : Grows db target) (owns : stage.Owns db) : stage.Owns target := by
  cases stage with
  | findForUpdate | findForCommit | locate | record | ended => trivial
  | addVersion request edited elementsJson => exact ⟨owns.1, grows.isSome owns.2⟩
  | saveUpdate workflow => exact grows.isSome owns
  | commit request found =>
      obtain ⟨nonneg, row, rowEq, le⟩ := owns
      obtain ⟨next, nextEq, nextLe, _⟩ := grows _ row rowEq
      exact ⟨nonneg, next, nextEq, le.trans nextLe⟩
  | latest request pipelineExecution session workflow => exact grows.isSome owns
  | insert request pipelineExecution session workflow found =>
      obtain ⟨present, nonneg, le⟩ := owns
      exact ⟨grows.isSome present, nonneg, le.trans (grows.maxVersion_le present)⟩
  | saveResult request pipelineExecution session workflow created =>
      exact ⟨grows.isSome owns.1, owns.2.trans (grows.maxVersion_le owns.1)⟩

/-- What holds while calls are in progress: a counter that is not the largest number
waits for a call that raises it. -/
structure Numbered (db : AiDb) (stages : List NumberingStage) : Prop where
  counted : Counted db
  awaited : ∀ id row, db.workflow? id = some row →
    row.currentVersion = db.maxVersion id ∨
      ∃ stage ∈ stages, stage.Awaits id (db.maxVersion id)
  owns : ∀ stage ∈ stages, stage.Owns db

/-- What a step has to leave of one workflow: its counter is right, or waits for the
call, or is as right as it was. -/
def Settles (db : AiDb) (stage : NumberingStage) (target : AiDb) (next : NumberingStage) : Prop :=
  ∀ id row, target.workflow? id = some row →
    row.currentVersion = target.maxVersion id ∨ next.Awaits id (target.maxVersion id) ∨
      (∃ old, db.workflow? id = some old ∧ db.maxVersion id = target.maxVersion id ∧
        (old.currentVersion = db.maxVersion id → row.currentVersion = target.maxVersion id) ∧
        ¬ stage.Awaits id (db.maxVersion id))

/-- One call goes on. -/
theorem Numbered.advance (numbered : Numbered db (stage :: others)) (counted : Counted target)
    (grows : Grows db target) (owns : next.Owns target) (settles : Settles db stage target next) :
    Numbered target (next :: others) := by
  constructor
  · exact counted
  · intro id row rowEq
    rcases settles id row rowEq with right | awaits | ⟨old, oldEq, same, stays, notAwaits⟩
    · exact Or.inl right
    · exact Or.inr ⟨next, List.mem_cons_self, awaits⟩
    · rcases numbered.awaited id old oldEq with right | ⟨waiting, waitingMem, awaits⟩
      · exact Or.inl (stays right)
      · rcases List.mem_cons.mp waitingMem with rfl | otherMem
        · exact absurd awaits notAwaits
        · rw [same] at awaits
          exact Or.inr ⟨waiting, List.mem_cons_of_mem _ otherMem, awaits⟩
  · intro other otherMem
    rcases List.mem_cons.mp otherMem with rfl | otherMem
    · exact owns
    · exact grows.owns (numbered.owns other (List.mem_cons_of_mem _ otherMem))

/-- The workflows and the versions are the same. -/
def SameNumbers (db target : AiDb) : Prop :=
  target.workflows = db.workflows ∧ target.versions = db.versions

theorem SameNumbers.workflow?_eq (same : SameNumbers db target) :
    target.workflow? = db.workflow? := by
  funext id
  rw [AiDb.workflow?, AiDb.workflow?, same.1]

theorem SameNumbers.maxVersion_eq (same : SameNumbers db target) :
    target.maxVersion = db.maxVersion := by
  funext id
  rw [AiDb.maxVersion, AiDb.maxVersion, AiDb.latestVersion?, AiDb.latestVersion?, same.2]

theorem SameNumbers.grows (same : SameNumbers db target) : Grows db target := by
  intro id row rowEq
  rw [same.workflow?_eq, same.maxVersion_eq]
  exact ⟨row, rowEq, le_rfl, le_rfl⟩

theorem Counted.congr (counted : Counted db) (same : SameNumbers db target) : Counted target := by
  have numbersEq : target.numbers = db.numbers := by
    funext id
    rw [AiDb.numbers, AiDb.numbers, same.2]
  constructor
  · rw [same.1]
    exact counted.keyed
  · rw [same.workflow?_eq, same.maxVersion_eq, numbersEq]
    exact counted.numbered
  · rw [same.workflow?_eq, same.maxVersion_eq]
    exact counted.bounded

/-- A call goes on without writing a workflow or a version. -/
theorem Numbered.quiet (numbered : Numbered db (stage :: others)) (same : SameNumbers db target)
    (awaitsNone : ∀ id number, ¬ stage.Awaits id number) (owns : next.Owns db) :
    Numbered target (next :: others) := by
  apply numbered.advance (numbered.counted.congr same) same.grows (same.grows.owns owns)
  intro id row rowEq
  rw [same.workflow?_eq] at rowEq
  rw [same.maxVersion_eq]
  exact Or.inr (Or.inr ⟨row, rowEq, rfl, fun right => right, awaitsNone _ _⟩)

/-- A call saves a workflow without lowering its counter. -/
theorem Numbered.save (numbered : Numbered db (stage :: others))
    (rowEq : db.workflow? workflow.id = some row)
    (least : row.currentVersion ≤ workflow.currentVersion)
    (most : workflow.currentVersion ≤ db.maxVersion workflow.id)
    (awaits : ∀ id number, stage.Awaits id number → workflow.id = id ∧
      workflow.currentVersion = number)
    (owns : next.Owns db) : Numbered (db.writeWorkflow workflow) (next :: others) := by
  obtain ⟨counted, grows⟩ := numbered.counted.save rowEq least most
  apply numbered.advance counted grows (grows.owns owns)
  intro id other otherEq
  rw [workflow?_writeWorkflow] at otherEq
  change other.currentVersion = db.maxVersion id ∨ next.Awaits id (db.maxVersion id) ∨ _
  by_cases waiting : stage.Awaits id (db.maxVersion id)
  · obtain ⟨same, raised⟩ := awaits id _ waiting
    rw [if_pos same] at otherEq
    cases otherEq
    exact Or.inl raised
  · split at otherEq
    · rename_i same
      cases otherEq
      rw [← same] at waiting ⊢
      refine Or.inr (Or.inr ⟨row, rowEq, rfl, ?_, waiting⟩)
      intro right
      change workflow.currentVersion = db.maxVersion workflow.id
      omega
    · exact Or.inr (Or.inr ⟨other, otherEq, rfl, fun right => right, waiting⟩)

/-- A call inserts a version and is about to raise the counter. -/
theorem Numbered.insert (numbered : Numbered db (stage :: others))
    (rowEq : db.workflow? version.workflowId = some row) (fresh : db.taken version = false)
    (least : 1 ≤ version.versionNumber)
    (most : version.versionNumber ≤ db.maxVersion version.workflowId + 1)
    (awaitsNone : ∀ id number, ¬ stage.Awaits id number)
    (awaits : next.Awaits version.workflowId version.versionNumber)
    (owns : next.Owns (db.addVersion version)) :
    Numbered (db.addVersion version) (next :: others) := by
  obtain ⟨counted, grows, maxEq⟩ := numbered.counted.insert rowEq fresh least most
  apply numbered.advance counted grows owns
  intro id other otherEq
  by_cases same : version.workflowId = id
  · rw [← same, maxEq]
    exact Or.inr (Or.inl awaits)
  · rw [maxVersion_addVersion_of_ne same]
    exact Or.inr (Or.inr ⟨other, otherEq, rfl, fun right => right, awaitsNone _ _⟩)

/-- A transaction inserts a version and raises the counter. -/
theorem Numbered.bump (numbered : Numbered db (stage :: others))
    (rowEq : db.workflow? version.workflowId = some row) (fresh : db.taken version = false)
    (least : 1 ≤ version.versionNumber) (most : version.versionNumber ≤ row.currentVersion + 1)
    (awaitsNone : ∀ id number, ¬ stage.Awaits id number)
    (owns : next.Owns db) :
    Numbered ((db.addVersion version).writeWorkflow
      { row with currentVersion := version.versionNumber }) (next :: others) := by
  have rowId : row.id = version.workflowId := Table.key_of_get? rowEq
  have bounds := numbered.counted.bounded _ _ rowEq
  have consecutive := numbered.counted.numbered _ _ rowEq
  have numberEq := consecutive.eq_next (taken_eq_false_iff_numbers.mp fresh) least (by omega)
  obtain ⟨inserted, insertGrows, maxEq⟩ :=
    numbered.counted.insert rowEq fresh least (by omega)
  have raisedEq : (db.addVersion version).workflow? row.id = some row := by
    rw [rowId]
    exact rowEq
  have most' : version.versionNumber ≤ (db.addVersion version).maxVersion row.id := by
    rw [rowId, maxEq]
  have least' : row.currentVersion ≤ version.versionNumber := by omega
  have saved : Counted ((db.addVersion version).writeWorkflow
        { row with currentVersion := version.versionNumber }) ∧
      Grows (db.addVersion version) ((db.addVersion version).writeWorkflow
        { row with currentVersion := version.versionNumber }) :=
    inserted.save raisedEq least' most'
  obtain ⟨counted, saveGrows⟩ := saved
  have grows := insertGrows.trans saveGrows
  apply numbered.advance counted grows (grows.owns owns)
  intro id other otherEq
  rw [workflow?_writeWorkflow] at otherEq
  change other.currentVersion = (db.addVersion version).maxVersion id ∨
    next.Awaits id ((db.addVersion version).maxVersion id) ∨ _
  split at otherEq
  · rename_i same
    cases otherEq
    rw [← same]
    dsimp only
    rw [rowId]
    exact Or.inl maxEq.symm
  · rename_i differ
    have ne : version.workflowId ≠ id := by
      rw [← rowId]
      exact differ
    refine Or.inr (Or.inr ⟨other, otherEq, (maxVersion_addVersion_of_ne ne).symm, ?_,
      awaitsNone _ _⟩)
    intro right
    exact right.trans (maxVersion_addVersion_of_ne ne).symm

end Manbaa.AiGateway
