import Manbaa.AiGateway.Numbering
import Manbaa.AiGateway.Rejection

/-!
# Runs of updates, commits and results

What each statement does to the numbers, and what a run of the calls leaves when
none of them is in progress.
-/

namespace Manbaa.AiGateway

open Manbaa.Lib Manbaa.Lib.Effect

variable {db target : AiDb} {id : Uuid} {version : WorkflowVersion} {workflow row : Workflow}
  {stage next : NumberingStage} {others : List NumberingStage}

/-! ## What the statements do -/

/-- A statement returns and the call goes on, or it throws and the call is over. -/
theorem after_cases {α : Type} {go : α → NumberingStage} {result : Except Exception α × AiDb}
    (afterEq : NumberingStage.after go result = (target, next)) :
    (∃ value, result = (.ok value, target) ∧ next = go value) ∨
      (∃ exception, result = (.error exception, target) ∧ next = .ended) := by
  obtain ⟨thrown | value, db⟩ := result
  · cases afterEq
    exact Or.inr ⟨thrown, rfl, rfl⟩
  · cases afterEq
    exact Or.inl ⟨value, rfl, rfl⟩

theorem readOnly_findForUpdate (request : UpdateRequest) : ReadOnly (findForUpdate request) :=
  readOnly_reading.bind fun _ => readOnly_orThrow.bind fun _ =>
    readOnly_require.bind fun _ => readOnly_pure

theorem findForUpdate_ok {request : UpdateRequest}
    (findEq : findForUpdate request db = (.ok workflow, target)) :
    target = db ∧ db.workflow? request.id = some workflow := by
  obtain ⟨_, _, readEq, restEq⟩ := bind_eq_ok_iff.mp findEq
  obtain ⟨rfl, rfl⟩ := reading_eq_ok_iff.mp readEq
  obtain ⟨_, _, orEq, restEq⟩ := bind_eq_ok_iff.mp restEq
  obtain ⟨found, rfl⟩ := orThrow_eq_ok_iff.mp orEq
  obtain ⟨_, _, requireEq, pureEq⟩ := bind_eq_ok_iff.mp restEq
  obtain ⟨_, rfl⟩ := require_eq_ok_iff.mp requireEq
  obtain ⟨rfl, rfl⟩ := pure_eq_ok_iff.mp pureEq
  exact ⟨rfl, (Option.filter_eq_some_iff.mp found).1⟩

/-- Where the workflow is there, its counter is set. -/
theorem setCurrentVersion_ok {number : Int} {done : Unit}
    (setEq : setCurrentVersion id number db = (.ok done, target))
    (rowEq : db.workflow? id = some row) :
    target = db.writeWorkflow { row with currentVersion := number } := by
  obtain ⟨_, _, readEq, saveEq⟩ := bind_eq_ok_iff.mp setEq
  obtain ⟨rfl, rfl⟩ := reading_eq_ok_iff.mp readEq
  rw [rowEq] at saveEq
  exact (saveWorkflow_eq_ok_iff.mp saveEq).2.symm

theorem addUpdateVersion_ok {request : UpdateRequest} {elementsJson : List Json} {done : Unit}
    (addEq : addUpdateVersion request elementsJson db = (.ok done, target))
    (rowEq : db.workflow? request.id = some row) :
    db.taken (request.version (row.currentVersion + 1) elementsJson) = false ∧
      target = (db.addVersion (request.version (row.currentVersion + 1) elementsJson)).writeWorkflow
        { row with currentVersion := row.currentVersion + 1 } := by
  have bodyEq := transaction_eq_ok_iff.mp addEq
  obtain ⟨_, _, readEq, restEq⟩ := bind_eq_ok_iff.mp bodyEq
  obtain ⟨rfl, rfl⟩ := reading_eq_ok_iff.mp readEq
  obtain ⟨_, _, insertEq, setEq⟩ := bind_eq_ok_iff.mp restEq
  rw [rowEq] at insertEq setEq
  obtain ⟨fresh, rfl⟩ := insertVersion_eq_ok_iff.mp insertEq
  exact ⟨fresh, setCurrentVersion_ok setEq rowEq⟩

theorem readOnly_findForCommit (request : CommitRequest) : ReadOnly (findForCommit request) := by
  have found : ∀ workflowId orgId, ReadOnly (findWorkflowInOrgOrThrow workflowId orgId) :=
    fun _ _ => readOnly_reading.bind fun _ => readOnly_orThrow
  have canvas : ∀ workflowId orgId, ReadOnly (getCanvas workflowId orgId) :=
    fun _ _ => (found _ _).bind fun _ => readOnly_reading.bind fun _ => readOnly_orThrow
  exact (found _ _).bind fun _ => readOnly_require.bind fun _ => (canvas _ _).bind fun _ =>
    readOnly_reading.bind fun _ => readOnly_pure

/-- A commit has read the workflow of its organization. -/
theorem findForCommit_visible {request : CommitRequest} {found : Committing}
    (findEq : findForCommit request db = (.ok found, target)) :
    (db.workflow? request.workflowId).filter
      (fun workflow => workflow.orgId == request.caller.orgId) = some found.workflow := by
  obtain ⟨workflow, _, foundEq, restEq⟩ := bind_eq_ok_iff.mp findEq
  obtain ⟨_, _, readEq, orEq⟩ := bind_eq_ok_iff.mp foundEq
  obtain ⟨rfl, rfl⟩ := reading_eq_ok_iff.mp readEq
  obtain ⟨present, rfl⟩ := orThrow_eq_ok_iff.mp orEq
  obtain ⟨_, _, _, restEq⟩ := bind_eq_ok_iff.mp restEq
  obtain ⟨_, _, _, restEq⟩ := bind_eq_ok_iff.mp restEq
  obtain ⟨_, _, _, pureEq⟩ := bind_eq_ok_iff.mp restEq
  obtain ⟨rfl, _⟩ := pure_eq_ok_iff.mp pureEq
  exact present

theorem findForCommit_ok {request : CommitRequest} {found : Committing}
    (findEq : findForCommit request db = (.ok found, target)) :
    target = db ∧ db.workflow? request.workflowId = some found.workflow :=
  ⟨(readOnly_findForCommit request _ _ _ findEq).symm,
    (Option.filter_eq_some_iff.mp (findForCommit_visible findEq)).1⟩

theorem commitVersion_ok {request : CommitRequest} {found : Committing} {done : Unit}
    (commitEq : commitVersion request found db = (.ok done, target))
    (rowEq : db.workflow? found.workflow.id = some row) :
    db.taken (request.version found) = false ∧
      SameNumbers ((db.addVersion (request.version found)).writeWorkflow
        { row with currentVersion := found.workflow.currentVersion + 1 }) target := by
  have bodyEq := transaction_eq_ok_iff.mp commitEq
  obtain ⟨_, _, snapshotEq, restEq⟩ := bind_eq_ok_iff.mp bodyEq
  obtain rfl := writing_eq_ok_iff.mp snapshotEq
  obtain ⟨_, _, insertEq, restEq⟩ := bind_eq_ok_iff.mp restEq
  obtain ⟨fresh, rfl⟩ := insertVersion_eq_ok_iff.mp insertEq
  obtain ⟨_, _, setEq, linkEq⟩ := bind_eq_ok_iff.mp restEq
  obtain rfl := setCurrentVersion_ok setEq rowEq
  obtain rfl := writing_eq_ok_iff.mp linkEq
  exact ⟨fresh, rfl, rfl⟩

/-- What follows the workflow writes no workflow and no version. -/
theorem recordResult_sameNumbers {ids : ResultIds} {now : Nat} {payload : AiTaskResultEvent}
    {pipelineExecution : PipelineExecution} {session : Session} {created : WorkflowVersion}
    (world : Faulty Gateway) :
    SameNumbers world.state.db (recordResult ids now payload pipelineExecution session workflow
      created world).2.state.db := by
  have moves : RecordMoves ids payload session created 0 0 0 fun _ => SameNumbers := {
    refl := fun _ => ⟨rfl, rfl⟩
    weaken := fun _ same => same
    trans := fun first second => ⟨second.1.trans first.1, second.2.trans first.2⟩
    session := fun _ _ _ => ⟨rfl, rfl⟩
    pipeline := fun _ _ => ⟨rfl, rfl⟩
    message := fun _ => ⟨rfl, rfl⟩
    graph := fun _ _ => ⟨rfl, rfl⟩
    report := fun _ _ _ => ⟨rfl, rfl⟩ }
  exact (moves.recordResult world).2

/-! ## Runs -/

/-- No save lowers the counter that is stored, and a result that brings a number
brings the next one. -/
def NumberingStage.UpToDate (db : AiDb) : NumberingStage → Prop
  | .saveUpdate workflow => ∀ row ∈ db.workflow? workflow.id,
      row.currentVersion ≤ workflow.currentVersion
  | .insert request _ _ workflow _ => ∀ number ∈ request.payload.versionNumber,
      1 ≤ number ∧ number ≤ db.maxVersion workflow.id + 1
  | .saveResult _ _ _ workflow created => ∀ row ∈ db.workflow? workflow.id,
      row.currentVersion ≤ created.versionNumber
  | _ => True

instance (db : AiDb) (stage : NumberingStage) : Decidable (stage.UpToDate db) :=
  match stage with
  | .saveUpdate workflow => inferInstanceAs
      (Decidable (∀ row ∈ db.workflow? workflow.id, row.currentVersion ≤ workflow.currentVersion))
  | .insert request _ _ workflow _ => inferInstanceAs
      (Decidable (∀ number ∈ request.payload.versionNumber,
        1 ≤ number ∧ number ≤ db.maxVersion workflow.id + 1))
  | .saveResult _ _ _ workflow created => inferInstanceAs
      (Decidable (∀ row ∈ db.workflow? workflow.id, row.currentVersion ≤ created.versionNumber))
  | .findForUpdate _ | .addVersion _ _ _ | .findForCommit _ | .commit _ _ | .locate _
  | .latest _ _ _ _ | .record _ _ _ _ _ | .ended => .isTrue trivial

/-- The call is over. -/
def NumberingStage.isOver : NumberingStage → Bool
  | .ended => true
  | _ => false

theorem eq_over (ends : stage.isOver = true) : stage = .ended := by
  cases stage with
  | ended => rfl
  | _ => cases ends

/-- The condition on a step of a run. -/
def KeepsUp : Sessions.State AiDb NumberingStage → Sessions.Action NumberingRequest Unit → Prop :=
  Sessions.Guard (fun _ => True) fun db _ stage _ => stage.UpToDate db

instance (state : Sessions.State AiDb NumberingStage)
    (action : Sessions.Action NumberingRequest Unit) : Decidable (KeepsUp state action) :=
  inferInstanceAs (Decidable (Sessions.Guard (fun _ => True)
    (fun db _ stage _ => stage.UpToDate db) state action))

theorem SameNumbers.refl (db : AiDb) : SameNumbers db db := ⟨rfl, rfl⟩

/-- A call ends without a write. -/
theorem Numbered.stop (numbered : Numbered db (stage :: others))
    (awaitsNone : ∀ id number, ¬ stage.Awaits id number) : Numbered db (.ended :: others) :=
  numbered.quiet (SameNumbers.refl db) awaitsNone trivial

theorem Numbered.findForUpdate {request : UpdateRequest}
    (numbered : Numbered db (.findForUpdate request :: others))
    (afterEq : NumberingStage.after (.edited request) (AiGateway.findForUpdate request db) =
      (target, next)) : Numbered target (next :: others) := by
  have awaitsNone : ∀ id number,
      ¬ (NumberingStage.findForUpdate request).Awaits id number := fun _ _ => not_false
  rcases after_cases afterEq with ⟨workflow, findEq, rfl⟩ | ⟨exception, findEq, rfl⟩
  · obtain ⟨rfl, rowEq⟩ := findForUpdate_ok findEq
    have idEq : workflow.id = request.id := Table.key_of_get? rowEq
    have present : (target.workflow? request.id).isSome := Option.isSome_iff_exists.mpr ⟨_, rowEq⟩
    apply numbered.quiet (SameNumbers.refl target) awaitsNone
    rw [NumberingStage.edited]
    split
    · change (target.workflow? workflow.id).isSome
      rw [idEq]
      exact present
    · exact ⟨idEq, present⟩
  · obtain rfl := readOnly_findForUpdate request _ _ _ findEq
    exact numbered.stop awaitsNone

theorem Numbered.addUpdateVersion {request : UpdateRequest} {edited : Workflow}
    {elementsJson : List Json}
    (numbered : Numbered db (.addVersion request edited elementsJson :: others))
    (afterEq : NumberingStage.after
        (fun _ => .saveUpdate { edited with currentVersion := edited.currentVersion + 1 })
        (AiGateway.addUpdateVersion request elementsJson db) = (target, next)) : Numbered target (next :: others) := by
  have awaitsNone : ∀ id number,
      ¬ (NumberingStage.addVersion request edited elementsJson).Awaits id number :=
    fun _ _ => not_false
  obtain ⟨idEq, present⟩ := numbered.owns _ List.mem_cons_self
  obtain ⟨row, rowEq⟩ := Option.isSome_iff_exists.mp present
  rcases after_cases afterEq with ⟨done, addEq, rfl⟩ | ⟨exception, addEq, rfl⟩
  · obtain ⟨fresh, rfl⟩ := addUpdateVersion_ok addEq rowEq
    have nonneg := (numbered.counted.bounded _ _ rowEq).1
    have least : 1 ≤ (request.version (row.currentVersion + 1) elementsJson).versionNumber := by
      change 1 ≤ row.currentVersion + 1
      omega
    refine numbered.bump rowEq fresh least le_rfl awaitsNone ?_
    change (db.workflow? edited.id).isSome
    rw [idEq]
    exact present
  · obtain rfl := atomic_transaction _ _ _ addEq
    exact numbered.stop awaitsNone

theorem Numbered.saveUpdate (numbered : Numbered db (.saveUpdate workflow :: others))
    (upToDate : (NumberingStage.saveUpdate workflow).UpToDate db)
    (afterEq : NumberingStage.after (fun _ => .ended) (saveWorkflow workflow db) =
      (target, next)) : Numbered target (next :: others) := by
  have awaitsNone : ∀ id number, ¬ (NumberingStage.saveUpdate workflow).Awaits id number :=
    fun _ _ => not_false
  have present := numbered.owns _ List.mem_cons_self
  obtain ⟨row, rowEq⟩ := Option.isSome_iff_exists.mp present
  rcases after_cases afterEq with ⟨done, saveEq, rfl⟩ | ⟨exception, saveEq, rfl⟩
  · obtain ⟨allowed, rfl⟩ := saveWorkflow_eq_ok_iff.mp saveEq
    have most : workflow.currentVersion ≤ db.maxVersion workflow.id := by
      rcases allowed with ⟨other, otherEq, same⟩ | le
      · rw [← same]
        exact (numbered.counted.bounded _ _ otherEq).2
      · exact le
    exact numbered.save rowEq (upToDate row rowEq) most
      (fun id number awaits => absurd awaits (awaitsNone id number)) trivial
  · obtain rfl := atomic_saveWorkflow workflow _ _ _ saveEq
    exact numbered.stop awaitsNone

theorem Numbered.findForCommit {request : CommitRequest}
    (numbered : Numbered db (.findForCommit request :: others))
    (afterEq : NumberingStage.after (.commit request) (AiGateway.findForCommit request db) =
      (target, next)) : Numbered target (next :: others) := by
  have awaitsNone : ∀ id number,
      ¬ (NumberingStage.findForCommit request).Awaits id number := fun _ _ => not_false
  rcases after_cases afterEq with ⟨found, findEq, rfl⟩ | ⟨exception, findEq, rfl⟩
  · obtain ⟨rfl, rowEq⟩ := findForCommit_ok findEq
    have idEq : found.workflow.id = request.workflowId := Table.key_of_get? rowEq
    apply numbered.quiet (SameNumbers.refl target) awaitsNone
    rw [← idEq] at rowEq
    exact ⟨(numbered.counted.bounded _ _ rowEq).1, found.workflow, rowEq, le_rfl⟩
  · obtain rfl := readOnly_findForCommit request _ _ _ findEq
    exact numbered.stop awaitsNone

theorem Numbered.commitVersion {request : CommitRequest} {found : Committing}
    (numbered : Numbered db (.commit request found :: others))
    (afterEq : NumberingStage.after (fun _ => .ended) (AiGateway.commitVersion request found db) =
      (target, next)) : Numbered target (next :: others) := by
  have awaitsNone : ∀ id number, ¬ (NumberingStage.commit request found).Awaits id number :=
    fun _ _ => not_false
  obtain ⟨nonneg, row, rowEq, le⟩ := numbered.owns _ List.mem_cons_self
  rcases after_cases afterEq with ⟨done, commitEq, rfl⟩ | ⟨exception, commitEq, rfl⟩
  · obtain ⟨fresh, same⟩ := commitVersion_ok commitEq rowEq
    have least : 1 ≤ (request.version found).versionNumber := by
      change 1 ≤ found.workflow.currentVersion + 1
      omega
    have most : (request.version found).versionNumber ≤ row.currentVersion + 1 := by
      change found.workflow.currentVersion + 1 ≤ row.currentVersion + 1
      omega
    have bumped : Numbered ((db.addVersion (request.version found)).writeWorkflow
        { row with currentVersion := found.workflow.currentVersion + 1 }) (.ended :: others) :=
      numbered.bump rowEq fresh least most awaitsNone trivial
    exact bumped.quiet same (fun _ _ => not_false) trivial
  · obtain rfl := atomic_transaction _ _ _ commitEq
    exact numbered.stop awaitsNone

theorem Numbered.insertResult {request : ResultRequest} {pipelineExecution : PipelineExecution}
    {session : Session} {found : Option WorkflowVersion} {created : WorkflowVersion}
    (numbered : Numbered db (.insert request pipelineExecution session workflow found :: others))
    (upToDate : (NumberingStage.insert request pipelineExecution session workflow found).UpToDate db)
    (createdEq : created = request.payload.version request.ids workflow session found)
    (afterEq : NumberingStage.after
        (fun _ => .saveResult request pipelineExecution session workflow created)
        (insertVersion created db) = (target, next)) : Numbered target (next :: others) := by
  have awaitsNone : ∀ id number,
      ¬ (NumberingStage.insert request pipelineExecution session workflow found).Awaits id number :=
    fun _ _ => not_false
  obtain ⟨present, nonneg, le⟩ := numbered.owns _ List.mem_cons_self
  obtain ⟨row, rowEq⟩ := Option.isSome_iff_exists.mp present
  have workflowId : created.workflowId = workflow.id := by
    rw [createdEq]
    rfl
  have bounds : 1 ≤ created.versionNumber ∧
      created.versionNumber ≤ db.maxVersion workflow.id + 1 := by
    rw [createdEq]
    change 1 ≤ request.payload.versionNumber.getD _ ∧ request.payload.versionNumber.getD _ ≤ _
    cases numberEq : request.payload.versionNumber with
    | none =>
        dsimp only [Option.getD]
        omega
    | some number => exact upToDate number numberEq
  rw [← workflowId] at present rowEq bounds
  rcases after_cases afterEq with ⟨done, insertEq, rfl⟩ | ⟨exception, insertEq, rfl⟩
  · obtain ⟨fresh, rfl⟩ := insertVersion_eq_ok_iff.mp insertEq
    refine numbered.insert rowEq fresh bounds.1 bounds.2 awaitsNone ⟨workflowId.symm, rfl⟩ ?_
    obtain ⟨_, grows, maxEq⟩ := numbered.counted.insert rowEq fresh bounds.1 bounds.2
    change ((db.addVersion created).workflow? workflow.id).isSome ∧
      created.versionNumber ≤ (db.addVersion created).maxVersion workflow.id
    rw [← workflowId]
    exact ⟨grows.isSome present, maxEq.ge⟩
  · obtain rfl := atomic_insertVersion created _ _ _ insertEq
    exact numbered.stop awaitsNone

theorem Numbered.saveResult {request : ResultRequest} {pipelineExecution : PipelineExecution}
    {session : Session} {created : WorkflowVersion}
    (numbered : Numbered db
      (.saveResult request pipelineExecution session workflow created :: others))
    (upToDate :
      (NumberingStage.saveResult request pipelineExecution session workflow created).UpToDate db)
    (afterEq : NumberingStage.after
        (fun _ => .record request pipelineExecution session workflow created)
        (saveWorkflow (workflow.withResult created) db) = (target, next)) :
    Numbered target (next :: others) := by
  obtain ⟨present, most⟩ := numbered.owns _ List.mem_cons_self
  obtain ⟨row, rowEq⟩ := Option.isSome_iff_exists.mp present
  have savedEq : saveWorkflow (workflow.withResult created) db =
      (.ok (), db.writeWorkflow (workflow.withResult created)) :=
    saveWorkflow_eq_ok_iff.mpr ⟨Or.inr most, rfl⟩
  rw [savedEq] at afterEq
  cases afterEq
  have savedRow : db.workflow? (workflow.withResult created).id = some row := rowEq
  exact numbered.save savedRow (upToDate row rowEq) most (fun _ _ awaits => awaits) trivial

/-- The invariant is kept by each step that meets the condition. -/
theorem keepsAll_numbered :
    numberingSystem.KeepsAll (fun _ => True) (fun db _ stage _ => stage.UpToDate db) Numbered where
  perm := by
    intro db stages others perm numbered
    constructor
    · exact numbered.counted
    · intro id row rowEq
      rcases numbered.awaited id row rowEq with right | ⟨stage, stageMem, awaits⟩
      · exact Or.inl right
      · exact Or.inr ⟨stage, perm.mem_iff.mp stageMem, awaits⟩
    · exact fun stage stageMem => numbered.owns stage (perm.mem_iff.mpr stageMem)
  started := by
    intro db stages request numbered _
    constructor
    · exact numbered.counted
    · intro id row rowEq
      rcases numbered.awaited id row rowEq with right | ⟨stage, stageMem, awaits⟩
      · exact Or.inl right
      · exact Or.inr ⟨stage, List.mem_cons_of_mem _ stageMem, awaits⟩
    · intro stage stageMem
      rcases List.mem_cons.mp stageMem with rfl | stageMem
      · cases request <;> trivial
      · exact numbered.owns stage stageMem
  advanced := by
    intro db others stage _ target next numbered upToDate advanceEq
    cases stage with
    | findForUpdate request => exact numbered.findForUpdate (Option.some.inj advanceEq)
    | addVersion request edited elementsJson =>
        exact numbered.addUpdateVersion (Option.some.inj advanceEq)
    | saveUpdate workflow => exact numbered.saveUpdate upToDate (Option.some.inj advanceEq)
    | findForCommit request => exact numbered.findForCommit (Option.some.inj advanceEq)
    | commit request found => exact numbered.commitVersion (Option.some.inj advanceEq)
    | locate request =>
        obtain ⟨rfl, rfl⟩ := Prod.mk.inj (Option.some.inj advanceEq)
        apply numbered.quiet (SameNumbers.refl _) (fun _ _ => not_false)
        cases subjectEq : db.subject? request.payload with
        | none => trivial
        | some found =>
            obtain ⟨pipelineExecution, session, workflow⟩ := found
            obtain ⟨_, _, rowEq, _⟩ := subject?_eq_some_iff.mp subjectEq
            have idEq : workflow.id = session.workflowId := Table.key_of_get? rowEq
            rw [← idEq] at rowEq
            exact Option.isSome_iff_exists.mpr ⟨workflow, rowEq⟩
    | latest request pipelineExecution session workflow =>
        obtain ⟨rfl, rfl⟩ := Prod.mk.inj (Option.some.inj advanceEq)
        have present := numbered.owns _ List.mem_cons_self
        obtain ⟨row, rowEq⟩ := Option.isSome_iff_exists.mp present
        have nonneg := (numbered.counted.numbered _ _ rowEq).nonneg
        exact numbered.quiet (SameNumbers.refl _) (fun _ _ => not_false) ⟨present, nonneg, le_rfl⟩
    | insert request pipelineExecution session workflow found =>
        exact numbered.insertResult upToDate rfl (Option.some.inj advanceEq)
    | saveResult request pipelineExecution session workflow created =>
        exact numbered.saveResult upToDate (Option.some.inj advanceEq)
    | record request pipelineExecution session workflow created =>
        obtain ⟨rfl, rfl⟩ := Prod.mk.inj (Option.some.inj advanceEq)
        exact numbered.quiet (recordResult_sameNumbers ⟨⟨db, []⟩, none⟩) (fun _ _ => not_false)
          trivial
    | ended => cases advanceEq

/-- The counter of each workflow is the largest number of its versions, and their
numbers are those from one to the counter. -/
def AiDb.Consistent (db : AiDb) : Prop :=
  ∀ row ∈ db.workflows, row.currentVersion = db.maxVersion row.id ∧
    (db.numbers row.id).Nodup ∧
    ∀ number, number ∈ db.numbers row.id ↔ 1 ≤ number ∧ number ≤ row.currentVersion

theorem Counted.of_consistent (keyed : Table.Keyed Workflow.id db.workflows)
    (consistent : db.Consistent) : Counted db := by
  have facts : ∀ id row, db.workflow? id = some row →
      Consecutive (db.numbers id) (db.maxVersion id) ∧ row.currentVersion = db.maxVersion id := by
    intro id row rowEq
    obtain ⟨currentEq, nodup, memIff⟩ := consistent row (Table.mem_of_get? rowEq)
    obtain rfl : row.id = id := Table.key_of_get? rowEq
    rw [currentEq] at memIff
    refine ⟨⟨nodup, ?_, memIff⟩, currentEq⟩
    by_contra negative
    have empty : db.latestVersion? row.id = none := by
      rw [AiDb.latestVersion?, Table.largest?_eq_none_iff, List.eq_nil_iff_forall_not_mem]
      intro version versionMem
      have bounds := (memIff _).mp (List.mem_map_of_mem versionMem)
      omega
    rw [AiDb.maxVersion, empty] at negative
    exact negative le_rfl
  constructor
  · exact keyed
  · exact fun id row rowEq => (facts id row rowEq).1
  · intro id row rowEq
    obtain ⟨consecutive, currentEq⟩ := facts id row rowEq
    rw [currentEq]
    exact ⟨consecutive.nonneg, le_rfl⟩

/-- In runs without a stale save, the numbers are right whenever no call is in
progress. -/
theorem numbering_consistent {actions : List (Sessions.Action NumberingRequest Unit)}
    {state : Sessions.State AiDb NumberingStage}
    (keyed : Table.Keyed Workflow.id db.workflows) (consistent : db.Consistent)
    (met : numberingSystem.step.Meets KeepsUp ⟨db, []⟩ actions)
    (runEq : numberingSystem.step.run ⟨db, []⟩ actions = some state)
    (idle : ∀ stage ∈ state.sessions, stage.isOver = true) : state.store.Consistent := by
  have start : Numbered db [] := by
    constructor
    · exact Counted.of_consistent keyed consistent
    · intro id row rowEq
      obtain rfl : row.id = id := Table.key_of_get? rowEq
      exact Or.inl (consistent row (Table.mem_of_get? rowEq)).1
    · simp
  have numbered := keepsAll_numbered.run start met runEq
  intro row rowMem
  have rowEq : state.store.workflow? row.id = some row := numbered.counted.keyed.get?_of_mem rowMem
  have consecutive := numbered.counted.numbered _ _ rowEq
  have currentEq : row.currentVersion = state.store.maxVersion row.id := by
    rcases numbered.awaited _ _ rowEq with right | ⟨stage, stageMem, awaits⟩
    · exact right
    · obtain rfl := eq_over (idle stage stageMem)
      cases awaits
  rw [currentEq]
  exact ⟨rfl, consecutive.nodup, consecutive.mem_iff⟩

/-! ## A call by itself -/

theorem alone_advance {steps : Nat} {reached : AiDb × NumberingStage}
    (advanceEq : stage.advance db = some reached) :
    numberingSystem.alone () (steps + 1) (db, stage) = numberingSystem.alone () steps reached :=
  numberingSystem.alone_succ () advanceEq

theorem alone_over (steps : Nat) : numberingSystem.alone () steps (db, .ended) = (db, .ended) := by
  cases steps <;> rfl

/-- A call goes on as a computation does, if it goes on so after its next statement. -/
theorem alone_bind {α : Type} {body : Statements α} {rest : α → Statements Unit}
    {go : α → NumberingStage} {steps : Nat}
    (advanceEq : stage.advance db = some (NumberingStage.after go (body db)))
    (goOn : ∀ value found, body db = (.ok value, found) →
      (numberingSystem.alone () steps (found, go value)).1 = (rest value found).2) :
    (numberingSystem.alone () (steps + 1) (db, stage)).1 = ((body >>= rest) db).2 := by
  rw [alone_advance advanceEq]
  rcases bodyEq : body db with ⟨thrown | value, found⟩
  · rw [bind_eq_error_iff.mpr (Or.inl bodyEq)]
    exact congrArg Prod.fst (alone_over steps)
  · rw [bind_of_ok bodyEq]
    exact goOn value found bodyEq

/-- The last statement of a call. -/
theorem alone_last {body : Statements Unit} {steps : Nat}
    (advanceEq : stage.advance db =
      some (NumberingStage.after (fun _ => .ended) (body db))) :
    (numberingSystem.alone () (steps + 1) (db, stage)).1 = (body db).2 := by
  rw [alone_advance advanceEq]
  rcases body db with ⟨thrown | done, found⟩
  · exact congrArg Prod.fst (alone_over steps)
  · exact congrArg Prod.fst (alone_over steps)

/-- Without other calls, an update does what `update` does. -/
theorem alone_update (request : UpdateRequest) :
    (numberingSystem.alone () 3 (db, .start (.update request))).1 = (update request db).2 := by
  apply alone_bind rfl
  intro workflow found _
  rw [NumberingStage.edited]
  cases request.dto.elementsJson with
  | none => exact alone_last rfl
  | some elementsJson =>
      apply alone_bind rfl
      intro _ _ _
      exact alone_last rfl

/-- Without other calls, a commit does what `commitCanvas` does. -/
theorem alone_commitCanvas (request : CommitRequest) :
    (numberingSystem.alone () 2 (db, .start (.commitCanvas request))).1 =
      (commitCanvas request db).2 := by
  apply alone_bind rfl
  intro found target _
  exact alone_last rfl

section
variable {request : ResultRequest} {msgId : Option String} {pipelineExecution : PipelineExecution}
  {session : Session} {created : WorkflowVersion} {saved : AiDb}

/-- Marking a result does not touch the tables. -/
theorem finishResult_db (world : Faulty Gateway) :
    (finishResult request.ids request.now request.payload msgId pipelineExecution session workflow
        created world).2.state.db =
      (applyResult request.ids request.now request.payload pipelineExecution session workflow
        created world).2.state.db := by
  rw [finishResult]
  rcases applyEq : applyResult request.ids request.now request.payload pipelineExecution session
    workflow created world with ⟨thrown | done, target⟩
  · rw [bind_eq_error_iff.mpr (Or.inl applyEq)]
  · rw [bind_of_ok applyEq]
    rfl

/-- A call whose version has been inserted goes on as the handler does. -/
theorem alone_saveResult :
    (numberingSystem.alone () 2
        (db, .saveResult request pipelineExecution session workflow created)).1 =
      (applyResult request.ids request.now request.payload pipelineExecution session workflow
        created ⟨⟨db, []⟩, none⟩).2.state.db := by
  rw [alone_advance rfl]
  rcases savedEq : saveWorkflow (workflow.withResult created) db with ⟨thrown | done, saved⟩
  · have queryEq : query (saveWorkflow (workflow.withResult created)) ⟨⟨db, []⟩, none⟩ =
        (.error thrown, ⟨⟨saved, []⟩, none⟩) := by
      simp [query, calling, onDb, zoom, savedEq]
    rw [applyResult, bind_eq_error_iff.mpr (Or.inl queryEq)]
    exact congrArg Prod.fst (alone_over 1)
  · have queryEq : query (saveWorkflow (workflow.withResult created)) ⟨⟨db, []⟩, none⟩ =
        (.ok done, ⟨⟨saved, []⟩, none⟩) := returns_query savedEq
    rw [applyResult, bind_of_ok queryEq]
    rfl

/-- A call goes on from its lookup with the version that it makes. -/
theorem alone_locate
    (subjectEq : db.subject? request.payload = some (pipelineExecution, session, workflow))
    (createdEq : created = db.resultVersion request.ids request.payload workflow session) :
    numberingSystem.alone () 5 (db, .locate request) =
      numberingSystem.alone () 2 (NumberingStage.after
        (fun _ => .saveResult request pipelineExecution session workflow created)
        (insertVersion created db)) := by
  have locateEq : (NumberingStage.locate request).advance db =
      some (db, .latest request pipelineExecution session workflow) := by
    rw [NumberingStage.advance, subjectEq]
  rw [createdEq, alone_advance locateEq, alone_advance rfl,
    alone_advance rfl]
  rfl

/-- Without other calls, a result does what `handle` does. -/
theorem alone_handle :
    (numberingSystem.alone () 5 (db, .start (.handle request))).1 =
      (handle request.ids request.now request.payload msgId ⟨⟨db, []⟩, none⟩).2.state.db := by
  rcases handleEq : handle request.ids request.now request.payload msgId ⟨⟨db, []⟩, none⟩ with
    ⟨result, reached⟩
  rw [NumberingStage.start]
  cases handle_outcome handleEq with
  | known knownMem => cases knownMem
  | stopped exception reached unknown stateEq why =>
      have dbEq : reached.state.db = db := congrArg Gateway.db stateEq
      rw [dbEq]
      cases subjectEq : db.subject? request.payload with
      | none =>
          have locateEq : (NumberingStage.locate request).advance db = some (db, .ended) := by
            rw [NumberingStage.advance, subjectEq]
          rw [alone_advance locateEq]
          exact congrArg Prod.fst (alone_over 4)
      | some found =>
          obtain ⟨pipelineExecution, session, workflow⟩ := found
          have taken := why rfl _ _ _ subjectEq
          rw [alone_locate subjectEq rfl]
          rcases insertEq : insertVersion
            (db.resultVersion request.ids request.payload workflow session) db with
            ⟨thrown | done, target⟩
          · obtain rfl := atomic_insertVersion _ _ _ _ insertEq
            exact congrArg Prod.fst (alone_over 2)
          · have fresh := (insertVersion_eq_ok_iff.mp insertEq).1
            rw [taken] at fresh
            cases fresh
  | stored pipelineExecution session workflow created middle _ _ unknown subjectEq createdEq fresh
      middleEq spends restEq =>
      have worldEq : middle = ⟨⟨db.addVersion created, []⟩, none⟩ :=
        congrArg₂ Faulty.mk middleEq (spends.none rfl)
      have insertEq : insertVersion created db = (.ok (), db.addVersion created) :=
        insertVersion_eq_ok_iff.mpr ⟨fresh, rfl⟩
      have reachedEq : reached.state.db = (finishResult request.ids request.now request.payload
          msgId pipelineExecution session workflow created middle).2.state.db := by rw [restEq]
      rw [alone_locate subjectEq createdEq, insertEq, NumberingStage.after, alone_saveResult,
        ← worldEq, reachedEq, finishResult_db]

end

/-! ## Examples -/

/-- An update of the example workflow by its owner. -/
def exampleUpdate (title : Option String) (elementsJson : Option (List Json)) :
    Sessions.Action NumberingRequest Unit :=
  .start <| .update
    { id := uuid "workflow"
      dto := ⟨title, none, none, none, none, elementsJson⟩
      orgId := uuid "org"
      callerId := exampleUser
      callerRole := "user"
      versionId := uuid "v1" }

/-- The example workflow, and no call. -/
def exampleCalls : Sessions.State AiDb NumberingStage := ⟨exampleDb .processing, []⟩

example : exampleCalls.store.numbers (uuid "workflow") = [] := by decide +kernel

theorem exampleDb_consistent (status : SessionStatus) : (exampleDb status).Consistent := by
  intro row rowMem
  obtain rfl := List.mem_singleton.mp rowMem
  refine ⟨rfl, List.nodup_nil, ?_⟩
  intro number
  change number ∈ [] ↔ 1 ≤ number ∧ number ≤ 0
  simp
  omega

/-- An update adds a version, and a result that comes after it the next one. -/
theorem numbering_consistent_example :
    ∃ state, numberingSystem.step.run exampleCalls
        ([exampleUpdate none (some []), .advance 0 (), .advance 0 (), .advance 0 (),
          .start (.handle ⟨exampleResult "pipeline", exampleIds, 0⟩)] ++
          List.replicate 5 (.advance 1 ())) = some state ∧
      state.store.numbers (uuid "workflow") = [1, 2] ∧ state.store.Consistent := by
  have taken : (numberingSystem.step.run exampleCalls
      ([exampleUpdate none (some []), .advance 0 (), .advance 0 (), .advance 0 (),
        .start (.handle ⟨exampleResult "pipeline", exampleIds, 0⟩)] ++
        List.replicate 5 (.advance 1 ()))).any fun state =>
          state.store.numbers (uuid "workflow") == [1, 2] &&
            state.sessions.all NumberingStage.isOver := by
    decide +kernel
  have met : numberingSystem.step.Meets KeepsUp exampleCalls
      ([exampleUpdate none (some []), .advance 0 (), .advance 0 (), .advance 0 (),
        .start (.handle ⟨exampleResult "pipeline", exampleIds, 0⟩)] ++
        List.replicate 5 (.advance 1 ())) := by
    decide +kernel
  obtain ⟨state, runEq, found⟩ := Option.any_eq_true _ _ |>.mp taken
  obtain ⟨numbers, idle⟩ := (Bool.and_eq_true _ _).mp found
  have keyed : Table.Keyed Workflow.id (exampleDb .processing).workflows :=
    List.nodup_singleton _
  exact ⟨state, runEq, beq_iff_eq.mp numbers,
    numbering_consistent keyed (exampleDb_consistent _) met runEq (List.all_eq_true.mp idle)⟩

/-- A change of the title that was read before another update added the first version
sets the counter back. -/
theorem numbering_rewound :
    (exampleDb .processing).Consistent ∧
    ∃ state, numberingSystem.step.run exampleCalls
        [exampleUpdate (some "Deliveries") none, .advance 0 (), exampleUpdate none (some []),
          .advance 1 (), .advance 1 (), .advance 1 (), .advance 0 ()] = some state ∧
      (∀ stage ∈ state.sessions, stage.isOver = true) ∧ ¬ state.store.Consistent := by
  have taken : (numberingSystem.step.run exampleCalls
      [exampleUpdate (some "Deliveries") none, .advance 0 (), exampleUpdate none (some []),
        .advance 1 (), .advance 1 (), .advance 1 (), .advance 0 ()]).any fun state =>
          state.sessions.all NumberingStage.isOver && state.store.workflows.any fun row =>
            row.currentVersion != state.store.maxVersion row.id := by
    decide +kernel
  refine ⟨exampleDb_consistent _, ?_⟩
  obtain ⟨state, runEq, found⟩ := Option.any_eq_true _ _ |>.mp taken
  obtain ⟨idle, found⟩ := (Bool.and_eq_true _ _).mp found
  obtain ⟨row, rowMem, differs⟩ := List.any_eq_true.mp found
  refine ⟨state, runEq, List.all_eq_true.mp idle, ?_⟩
  intro consistent
  exact bne_iff_ne.mp differs (consistent row rowMem).1

end Manbaa.AiGateway
