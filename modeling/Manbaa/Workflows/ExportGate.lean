import Manbaa.Workflows.Export

/-!
# What the gate lets through

An export covers what was validated as long as no workflow that stays validated gets another
version, and none gets another one between the validation of an export request and its choice of
the version.
-/

namespace Manbaa.Workflows

open Manbaa.Lib Manbaa.Lib.Effect Manbaa.AiGateway

/-! ## What is promised -/

/-- The workflow is validated. -/
def isValidated (db : AiDb) (id : Uuid) : Bool :=
  (db.workflow? id).any fun row => row.status == .validated

/-- The newest report about the workflow has no unresolved critical point. -/
def isReconciled (points : List DivergencePoint) (db : AiDb) (id : Uuid) : Bool :=
  (latestReport? db id).all fun report => criticalUnresolved points report == 0

/-- The version that was the current one when the status was last set to validated, given what
the database has been, from the newest state on. -/
def lastValidated (id : Uuid) : List AiDb → Option Int
  | [] => none
  | db :: older =>
      if isValidated db id && !older.head?.any fun before => isValidated before id then
        (db.workflow? id).map Workflow.currentVersion
      else lastValidated id older

/-- All states of the database, from the newest on. -/
def GateStore.states (store : GateStore) : List AiDb := store.db :: store.history

/-- The states since the database had seen some changes. -/
def GateStore.since (store : GateStore) (since : Nat) : List AiDb :=
  store.states.take (store.history.length + 1 - since)

/-- At a moment since then, the workflow was validated and reconciled. -/
def GateStore.Passed (store : GateStore) (id : Uuid) (since : Nat) : Prop :=
  ∃ db ∈ store.since since, isValidated db id = true ∧ isReconciled store.points db id = true

/-- The gate covers the export of a version by a request that has arrived at some time. -/
structure Covered (store : GateStore) (request : ExportRequest) (since : Nat)
    (versionNumber : Int) : Prop where
  passed : store.Passed request.id since
  validated : lastValidated request.id store.states = some versionNumber

/-! ## The condition -/

/-- The row of a workflow that a statement writes. -/
def writtenBy (db : AiDb) : NumberingStage → Option Workflow
  | .addVersion request _ _ => (db.workflow? request.id).map fun row =>
      { row with currentVersion := row.currentVersion + 1 }
  | .commit _ found => (db.workflow? found.workflow.id).map fun row =>
      { row with currentVersion := found.workflow.currentVersion + 1 }
  | .saveUpdate workflow => some workflow
  | .saveResult _ _ _ workflow created => some (workflow.withResult created)
  | _ => none

/-- The row of a workflow that a call writes next. -/
def GateStage.written? (db : AiDb) : GateStage → Option Workflow
  | .numbering stage => writtenBy db stage
  | .produce request _ _ => (db.workflow? request.id).map fun row =>
      { row with status := .exported }
  | _ => none

/-- The request is validated and has not chosen a version yet. -/
def GateStage.chooses (id : Uuid) : GateStage → Bool
  | .choose request _ => request.id == id
  | _ => false

/-- The version that the request has chosen. -/
def GateStage.chosen? (id : Uuid) : GateStage → Option Int
  | .produce request _ versionNumber => if request.id = id then some versionNumber else none
  | _ => none

/-- The row has the version of the one that it replaces. -/
def keepsVersion (db : AiDb) (written : Workflow) : Bool :=
  (db.workflow? written.id).all fun row => row.currentVersion == written.currentVersion

/-- The row sets the status of the workflow to validated. -/
def validates (db : AiDb) (written : Workflow) : Bool :=
  written.status == .validated && !isValidated db written.id

/-- A workflow that stays validated keeps its version; so does one with a request that is to
choose a version, unless it is validated anew; and it is not validated with another version than
a request has chosen. -/
def WritesSafely (db : AiDb) (others : List GateStage) (written : Workflow) : Prop :=
  (written.status = .validated → isValidated db written.id = true →
    keepsVersion db written = true) ∧
  (others.any (GateStage.chooses written.id) = true →
    keepsVersion db written = true ∨ validates db written = true) ∧
  (validates db written = true → ∀ other ∈ others, ∀ chosen ∈ other.chosen? written.id,
    chosen = written.currentVersion)

instance (db : AiDb) (others : List GateStage) (written : Workflow) :
    Decidable (WritesSafely db others written) :=
  inferInstanceAs (Decidable (_ ∧ _ ∧ _))

/-- A step writes safely, and where a validated workflow without sessions is checked for an
export, it is reconciled. -/
def GateStage.Safe (store : GateStore) (others : List GateStage) : GateStage → Prop
  | .validate request _ => isValidated store.db request.id = true →
      latestSession? store.db request.id = none →
      isReconciled store.points store.db request.id = true
  | stage => ∀ written ∈ stage.written? store.db, WritesSafely store.db others written

instance (store : GateStore) (others : List GateStage) (stage : GateStage) :
    Decidable (stage.Safe store others) :=
  match stage with
  | .validate request _ => inferInstanceAs (Decidable (isValidated store.db request.id = true →
      latestSession? store.db request.id = none →
      isReconciled store.points store.db request.id = true))
  | .numbering stage => inferInstanceAs (Decidable (∀ written ∈ writtenBy store.db stage,
      WritesSafely store.db others written))
  | .produce request since versionNumber => inferInstanceAs (Decidable
      (∀ written ∈ (GateStage.produce request since versionNumber).written? store.db,
        WritesSafely store.db others written))
  | .findReport _ | .saveReport _ _ | .findSession _ | .saveSession _ | .choose _ _
  | .exported _ _ | .ended => .isTrue nofun

/-- The condition on a step of a run. -/
def GateSafe : Sessions.State GateStore GateStage → Sessions.Action GateRequest Unit → Prop :=
  Sessions.Guard (fun _ => True) fun store others stage _ => stage.Safe store others

instance (state : Sessions.State GateStore GateStage) (action : Sessions.Action GateRequest Unit) :
    Decidable (GateSafe state action) :=
  inferInstanceAs (Decidable (Sessions.Guard (fun _ => True)
    (fun store others stage _ => stage.Safe store others) state action))

variable {db target : AiDb} {id : Uuid} {host : ExportHost} {store : GateStore}
  {written : Workflow} {request : ExportRequest} {since : Nat}

/-! ## What statements write -/

/-- A statement leaves the workflows as they are, or writes one. -/
def Writes (db target : AiDb) (written : Option Workflow) : Prop :=
  (∀ id, target.workflow? id = db.workflow? id) ∨
    ∃ row ∈ written, ∀ id, target.workflow? id = if row.id = id then some row else db.workflow? id

theorem writes_nothing {written : Option Workflow} (same : target = db) : Writes db target written :=
  Or.inl fun _ => congrArg (AiDb.workflow? · _) same

theorem writes_row (written : Workflow) : Writes db (db.writeWorkflow written) (some written) :=
  Or.inr ⟨written, rfl, fun _ => workflow?_writeWorkflow⟩

theorem setCurrentVersion_writes {number : Int} {done : Unit}
    (setEq : setCurrentVersion id number db = (.ok done, target)) :
    Writes db target ((db.workflow? id).map fun row => { row with currentVersion := number }) := by
  cases rowEq : db.workflow? id with
  | none =>
      obtain ⟨_, _, readEq, restEq⟩ := bind_eq_ok_iff.mp setEq
      obtain ⟨rfl, rfl⟩ := reading_eq_ok_iff.mp readEq
      rw [rowEq] at restEq
      obtain ⟨_, rfl⟩ := pure_eq_ok_iff.mp restEq
      exact writes_nothing rfl
  | some row =>
      obtain rfl := setCurrentVersion_ok setEq rowEq
      exact writes_row _

theorem addUpdateVersion_writes {update : UpdateRequest} {elementsJson : List Json} {done : Unit}
    (addEq : addUpdateVersion update elementsJson db = (.ok done, target)) :
    Writes db target ((db.workflow? update.id).map fun row =>
      { row with currentVersion := row.currentVersion + 1 }) := by
  obtain ⟨_, _, readEq, restEq⟩ := bind_eq_ok_iff.mp (transaction_eq_ok_iff.mp addEq)
  obtain ⟨rfl, rfl⟩ := reading_eq_ok_iff.mp readEq
  obtain ⟨_, _, insertEq, setEq⟩ := bind_eq_ok_iff.mp restEq
  obtain ⟨_, rfl⟩ := insertVersion_eq_ok_iff.mp insertEq
  have writes := setCurrentVersion_writes setEq
  change Writes db target ((db.workflow? update.id).map _) at writes
  cases rowEq : db.workflow? update.id with
  | none =>
      rw [rowEq] at writes
      exact writes
  | some row =>
      rw [rowEq] at writes
      exact writes

theorem commitVersion_writes {commit : CommitRequest} {found : Committing} {done : Unit}
    (commitEq : commitVersion commit found db = (.ok done, target)) :
    Writes db target ((db.workflow? found.workflow.id).map fun row =>
      { row with currentVersion := found.workflow.currentVersion + 1 }) := by
  obtain ⟨_, _, snapshotEq, restEq⟩ := bind_eq_ok_iff.mp (transaction_eq_ok_iff.mp commitEq)
  obtain rfl := writing_eq_ok_iff.mp snapshotEq
  obtain ⟨_, _, insertEq, restEq⟩ := bind_eq_ok_iff.mp restEq
  obtain ⟨_, rfl⟩ := insertVersion_eq_ok_iff.mp insertEq
  obtain ⟨_, _, setEq, linkEq⟩ := bind_eq_ok_iff.mp restEq
  obtain rfl := writing_eq_ok_iff.mp linkEq
  have writes := setCurrentVersion_writes setEq
  exact writes

/-- A statement of an update, a commit or a result writes the row that it is about to write. -/
theorem numbering_writes {stage next : NumberingStage}
    (advanceEq : stage.advance db = some (target, next)) : Writes db target (writtenBy db stage) := by
  cases stage with
  | findForUpdate update =>
      rcases after_cases (Option.some.inj advanceEq) with ⟨_, findEq, _⟩ | ⟨_, findEq, _⟩
      · exact writes_nothing (readOnly_findForUpdate update _ _ _ findEq).symm
      · exact writes_nothing (readOnly_findForUpdate update _ _ _ findEq).symm
  | addVersion update edited elementsJson =>
      rcases after_cases (Option.some.inj advanceEq) with ⟨_, addEq, _⟩ | ⟨_, addEq, _⟩
      · exact addUpdateVersion_writes addEq
      · exact writes_nothing (atomic_transaction _ _ _ addEq).symm
  | saveUpdate workflow =>
      rcases after_cases (Option.some.inj advanceEq) with ⟨_, saveEq, _⟩ | ⟨_, saveEq, _⟩
      · obtain ⟨_, rfl⟩ := saveWorkflow_eq_ok_iff.mp saveEq
        exact writes_row workflow
      · exact writes_nothing (atomic_saveWorkflow workflow _ _ _ saveEq).symm
  | findForCommit commit =>
      rcases after_cases (Option.some.inj advanceEq) with ⟨_, findEq, _⟩ | ⟨_, findEq, _⟩
      · exact writes_nothing (readOnly_findForCommit commit _ _ _ findEq).symm
      · exact writes_nothing (readOnly_findForCommit commit _ _ _ findEq).symm
  | commit commit found =>
      rcases after_cases (Option.some.inj advanceEq) with ⟨_, commitEq, _⟩ | ⟨_, commitEq, _⟩
      · exact commitVersion_writes commitEq
      · exact writes_nothing (atomic_transaction _ _ _ commitEq).symm
  | locate result => exact writes_nothing (Prod.mk.inj (Option.some.inj advanceEq)).1.symm
  | latest result pipelineExecution session workflow =>
      exact writes_nothing (Prod.mk.inj (Option.some.inj advanceEq)).1.symm
  | insert result pipelineExecution session workflow found =>
      rcases after_cases (Option.some.inj advanceEq) with ⟨_, insertEq, _⟩ | ⟨_, insertEq, _⟩
      · obtain ⟨_, rfl⟩ := insertVersion_eq_ok_iff.mp insertEq
        exact Or.inl fun _ => rfl
      · exact writes_nothing (atomic_insertVersion _ _ _ _ insertEq).symm
  | saveResult result pipelineExecution session workflow created =>
      rcases after_cases (Option.some.inj advanceEq) with ⟨_, saveEq, _⟩ | ⟨_, saveEq, _⟩
      · obtain ⟨_, rfl⟩ := saveWorkflow_eq_ok_iff.mp saveEq
        exact writes_row (workflow.withResult created)
      · exact writes_nothing (atomic_saveWorkflow _ _ _ _ saveEq).symm
  | record result pipelineExecution session workflow created =>
      obtain ⟨rfl, _⟩ := Prod.mk.inj (Option.some.inj advanceEq)
      refine Or.inl fun id => ?_
      exact congrFun (recordResult_sameNumbers ⟨⟨db, []⟩, none⟩).workflow?_eq id
  | ended => cases advanceEq

/-! ## What an export request reads -/

theorem readOnly_findOneWithLatestVersion (id orgId : Uuid) :
    ReadOnly (findOneWithLatestVersion id orgId) :=
  readOnly_reading.bind fun _ => readOnly_orThrow

theorem findOneWithLatestVersion_ok {orgId : Uuid} {workflow : Workflow}
    (findEq : findOneWithLatestVersion id orgId db = (.ok workflow, target)) :
    db.workflow? id = some workflow := by
  obtain ⟨_, _, readEq, orEq⟩ := bind_eq_ok_iff.mp findEq
  obtain ⟨rfl, rfl⟩ := reading_eq_ok_iff.mp readEq
  exact (Option.filter_eq_some_iff.mp (orThrow_eq_ok_iff.mp orEq).1).1

theorem readOnly_validateExportability (points : List DivergencePoint) (request : ExportRequest) :
    ReadOnly (validateExportability points request) := by
  refine (readOnly_findOneWithLatestVersion _ _).bind fun _ => readOnly_reading.bind fun refused => ?_
  cases refused with
  | none => exact readOnly_pure
  | some refusal =>
      intro state result reached bodyEq
      exact (Prod.mk.inj bodyEq).2

/-- Nothing is said against workflows that are validated, and reconciled if they have a
session. -/
theorem refusal?_eq_none {points : List DivergencePoint} {caller : RequestUser}
    {workflow : Workflow} (passes : refusal? points caller workflow db = none) :
    workflow.status = .validated ∧
      (latestSession? db workflow.id = none ∨ isReconciled points db workflow.id = true) := by
  rw [refusal?] at passes
  split at passes
  · cases passes
  · split at passes
    · cases passes
    · rename_i _ validated
      refine ⟨Classical.not_not.mp validated, ?_⟩
      split at passes
      · rename_i noSession
        exact Or.inl noSession
      · rw [isReconciled]
        split at passes
        · cases passes
        · split at passes
          · rename_i noReport
            rw [noReport]
            exact Or.inr rfl
          · rename_i report reportEq
            dsimp only at passes
            split at passes
            · cases passes
            · rename_i nothing
              rw [reportEq]
              exact Or.inr (beq_iff_eq.mpr (Nat.eq_zero_of_not_pos nothing))

/-- What passes the validation is validated, and reconciled if it has a session. -/
theorem validateExportability_ok {points : List DivergencePoint} {done : Unit}
    (validateEq : validateExportability points request db = (.ok done, target)) :
    isValidated db request.id = true ∧
      (latestSession? db request.id = none ∨ isReconciled points db request.id = true) := by
  obtain ⟨workflow, _, findEq, restEq⟩ := bind_eq_ok_iff.mp validateEq
  obtain rfl := readOnly_findOneWithLatestVersion _ _ _ _ _ findEq
  obtain ⟨refused, _, readEq, restEq⟩ := bind_eq_ok_iff.mp restEq
  obtain ⟨refusedEq, rfl⟩ := reading_eq_ok_iff.mp readEq
  have rowEq := findOneWithLatestVersion_ok findEq
  have idEq : workflow.id = request.id := Table.key_of_get? rowEq
  cases refused with
  | some refusal => cases restEq
  | none =>
      obtain ⟨validated, reconciled⟩ := refusal?_eq_none refusedEq
      rw [idEq] at reconciled
      refine ⟨?_, reconciled⟩
      rw [isValidated, rowEq]
      exact beq_iff_eq.mpr validated

theorem readOnly_chooseVersion (request : ExportRequest) : ReadOnly (chooseVersion request) :=
  (readOnly_findOneWithLatestVersion _ _).bind fun _ => readOnly_pure

theorem chooseVersion_ok {versionNumber : Int}
    (chooseEq : chooseVersion request db = (.ok versionNumber, target)) :
    ∃ row, db.workflow? request.id = some row ∧ row.currentVersion = versionNumber := by
  obtain ⟨workflow, _, findEq, pureEq⟩ := bind_eq_ok_iff.mp chooseEq
  exact ⟨workflow, findOneWithLatestVersion_ok findEq, (pure_eq_ok_iff.mp pureEq).1⟩

/-- An export writes the status, or nothing. -/
theorem exportToElsa_writes {versionNumber : Int} {result : Except Exception ElsaExport}
    (exportEq : exportToElsa host request versionNumber db = (result, target)) :
    Writes db target ((db.workflow? request.id).map fun row =>
      { row with status := .exported }) := by
  have atomic : Atomic (exportToElsa host request versionNumber) := by
    refine readOnly_reading.bind_atomic fun _ => readOnly_orThrow.bind_atomic fun _ =>
      readOnly_reading.bind_atomic fun _ => readOnly_orThrow.bind_atomic fun _ =>
        readOnly_asking.bind_atomic fun _ => ?_
    intro state thrown reached bodyEq
    cases bodyEq
  cases result with
  | error thrown => exact writes_nothing (atomic _ _ _ exportEq).symm
  | ok answer =>
      obtain ⟨_, _, readEq, restEq⟩ := bind_eq_ok_iff.mp exportEq
      obtain ⟨rfl, rfl⟩ := reading_eq_ok_iff.mp readEq
      obtain ⟨_, _, orEq, restEq⟩ := bind_eq_ok_iff.mp restEq
      obtain ⟨_, rfl⟩ := orThrow_eq_ok_iff.mp orEq
      obtain ⟨_, _, readEq, restEq⟩ := bind_eq_ok_iff.mp restEq
      obtain ⟨rfl, rfl⟩ := reading_eq_ok_iff.mp readEq
      obtain ⟨workflow, _, orEq, restEq⟩ := bind_eq_ok_iff.mp restEq
      obtain ⟨rowEq, rfl⟩ := orThrow_eq_ok_iff.mp orEq
      obtain ⟨_, _, askEq, restEq⟩ := bind_eq_ok_iff.mp restEq
      obtain ⟨_, rfl⟩ := asking_eq_ok_iff.mp askEq
      obtain ⟨_, _, writeEq, pureEq⟩ := bind_eq_ok_iff.mp restEq
      obtain rfl := writing_eq_ok_iff.mp writeEq
      obtain ⟨_, rfl⟩ := pure_eq_ok_iff.mp pureEq
      rw [rowEq]
      exact writes_row _

theorem after_target {α : Type} {go : α → GateStage} {body : Except Exception α × AiDb}
    {reached : GateStore} {next : GateStage}
    (afterEq : GateStage.after store go body = (reached, next)) :
    ∃ target result, body = (result, target) ∧ reached = store.write target := by
  obtain ⟨thrown | value, target⟩ := body
  · cases afterEq
    exact ⟨target, _, rfl, rfl⟩
  · cases afterEq
    exact ⟨target, _, rfl, rfl⟩

/-- A step of a call writes the row that it is about to write. -/
theorem advance_writes {stage next : GateStage} {reached : GateStore}
    (advanceEq : stage.advance host store = some (reached, next)) :
    ∃ target, reached = store.write target ∧ Writes store.db target (stage.written? store.db) := by
  cases stage with
  | numbering stage =>
      obtain ⟨⟨target, _⟩, numberingEq, pairEq⟩ := Option.map_eq_some_iff.mp advanceEq
      cases pairEq
      exact ⟨target, rfl, numbering_writes numberingEq⟩
  | findReport payload =>
      cases advanceEq
      exact ⟨_, rfl, writes_nothing rfl⟩
  | saveReport payload report =>
      cases advanceEq
      exact ⟨_, rfl, Or.inl fun _ => rfl⟩
  | findSession payload =>
      cases advanceEq
      exact ⟨_, rfl, writes_nothing rfl⟩
  | saveSession session =>
      cases advanceEq
      exact ⟨_, rfl, Or.inl fun _ => rfl⟩
  | validate request since =>
      obtain ⟨target, result, resultEq, rfl⟩ := after_target (Option.some.inj advanceEq)
      exact ⟨target, rfl,
        writes_nothing (readOnly_validateExportability _ _ _ _ _ resultEq).symm⟩
  | choose request since =>
      obtain ⟨target, result, resultEq, rfl⟩ := after_target (Option.some.inj advanceEq)
      exact ⟨target, rfl, writes_nothing (readOnly_chooseVersion _ _ _ _ resultEq).symm⟩
  | produce request since versionNumber =>
      obtain ⟨target, result, resultEq, rfl⟩ := after_target (Option.some.inj advanceEq)
      exact ⟨target, rfl, exportToElsa_writes resultEq⟩
  | exported request answer => cases advanceEq
  | ended => cases advanceEq

/-! ## The invariant -/

/-- What a request relies on. -/
def GateStage.Holds (store : GateStore) : GateStage → Prop
  | .validate _ since => since ≤ store.history.length
  | .choose request since => store.Passed request.id since ∧
      ∃ row, store.db.workflow? request.id = some row ∧
        lastValidated request.id store.states = some row.currentVersion
  | .produce request since versionNumber => (store.db.workflow? request.id).isSome ∧
      Covered store request since versionNumber
  | _ => True

/-- The version of a validated workflow is the one that was validated. -/
def GateStore.Current (store : GateStore) : Prop :=
  ∀ id row, store.db.workflow? id = some row → row.status = .validated →
    lastValidated id store.states = some row.currentVersion

theorem lastValidated_write :
    lastValidated id (store.write target).states =
      if isValidated target id && !isValidated store.db id then
        (target.workflow? id).map Workflow.currentVersion
      else lastValidated id store.states :=
  rfl

/-- What has passed has passed. -/
theorem passed_write (passed : store.Passed id since) : (store.write target).Passed id since := by
  obtain ⟨db, dbMem, both⟩ := passed
  refine ⟨db, ?_, both⟩
  rw [GateStore.since] at dbMem ⊢
  obtain ⟨index, inside, rfl⟩ := List.mem_take_iff_getElem.mp dbMem
  apply List.mem_take_iff_getElem.mpr
  have bound : index + 1 < min ((store.write target).history.length + 1 - since)
      (store.write target).states.length := by
    simp only [GateStore.write, GateStore.states, List.length_cons] at inside ⊢
    omega
  exact ⟨index + 1, bound, rfl⟩

/-- A workflow that a statement does not write is what it was, and the one that it writes is the
written row. -/
theorem workflow?_of_writes {written : Option Workflow} (writes : Writes db target written) (id : Uuid) :
    target.workflow? id = db.workflow? id ∨
      ∃ row ∈ written, row.id = id ∧ target.workflow? id = some row := by
  rcases writes with same | ⟨row, rowMem, rows⟩
  · exact Or.inl (same id)
  · by_cases hit : row.id = id
    · rw [rows id, if_pos hit]
      exact Or.inr ⟨row, rowMem, hit, rfl⟩
    · rw [rows id, if_neg hit]
      exact Or.inl rfl

theorem isValidated_eq {row : Workflow} (rowEq : db.workflow? id = some row) :
    isValidated db id = (row.status == .validated) := by
  rw [isValidated, rowEq, Option.any_some]

/-- Where a workflow stays what it is, so does the version that was validated. -/
theorem lastValidated_of_same (same : target.workflow? id = store.db.workflow? id) :
    lastValidated id (store.write target).states = lastValidated id store.states := by
  rw [lastValidated_write, isValidated, isValidated, same, Bool.and_not_self]
  exact if_neg Bool.false_ne_true

/-- A row that is written is validated with it, or leaves what was validated. -/
theorem lastValidated_of_written (rowEq : target.workflow? id = some written)
    (idEq : written.id = id) :
    lastValidated id (store.write target).states =
      if validates store.db written then some written.currentVersion
      else lastValidated id store.states := by
  rw [lastValidated_write, isValidated_eq rowEq, rowEq, validates, idEq]
  rfl

variable {others : List GateStage} {next : GateStage}

theorem current_write {row? : Option Workflow} (current : store.Current)
    (writes : Writes store.db target row?)
    (safe : ∀ written ∈ row?, WritesSafely store.db others written) :
    (store.write target).Current := by
  intro id row rowEq validated
  rcases workflow?_of_writes writes id with same | ⟨written, writtenMem, idEq, writtenEq⟩
  · rw [lastValidated_of_same same]
    exact current id row (same.symm.trans rowEq) validated
  · cases writtenEq.symm.trans rowEq
    rw [lastValidated_of_written writtenEq idEq]
    split
    · rfl
    · rename_i notAnew
      have before : isValidated store.db id = true := by
        rw [validates, validated, idEq] at notAnew
        simpa using notAnew
      obtain ⟨old, oldEq, oldValidated⟩ := (Option.any_eq_true _ _).mp before
      have kept : keepsVersion store.db row = true := by
        apply (safe row writtenMem).1 validated
        rw [idEq]
        exact before
      rw [keepsVersion, idEq, oldEq, Option.all_some, beq_iff_eq] at kept
      rw [← kept]
      exact current id old oldEq (beq_iff_eq.mp oldValidated)

/-- What a request relies on survives the statements of the others. -/
theorem holds_write {row? : Option Workflow} {other : GateStage} (holds : other.Holds store)
    (writes : Writes store.db target row?)
    (safe : ∀ written ∈ row?, WritesSafely store.db others written) (otherMem : other ∈ others) :
    other.Holds (store.write target) := by
  cases other with
  | numbering | findReport | saveReport | findSession | saveSession | exported | ended => trivial
  | validate request since => exact Nat.le_succ_of_le holds
  | choose request since =>
      obtain ⟨passed, row, rowEq, lastEq⟩ := holds
      refine ⟨passed_write passed, ?_⟩
      rcases workflow?_of_writes writes request.id with same | ⟨written, writtenMem, idEq, writtenEq⟩
      · refine ⟨row, same.trans rowEq, ?_⟩
        rw [lastValidated_of_same same]
        exact lastEq
      · refine ⟨written, writtenEq, ?_⟩
        rw [lastValidated_of_written writtenEq idEq]
        split
        · rfl
        · rename_i notAnew
          have chooses : others.any (GateStage.chooses written.id) = true :=
            List.any_eq_true.mpr ⟨_, otherMem, beq_iff_eq.mpr idEq.symm⟩
          rcases (safe written writtenMem).2.1 chooses with kept | anew
          · rw [keepsVersion, idEq, rowEq, Option.all_some, beq_iff_eq] at kept
            rw [← kept]
            exact lastEq
          · exact absurd anew notAnew
  | produce request since versionNumber =>
      obtain ⟨present, passed, lastEq⟩ := holds
      rcases workflow?_of_writes writes request.id with same | ⟨written, writtenMem, idEq, writtenEq⟩
      · refine ⟨?_, passed_write passed, ?_⟩
        · change (target.workflow? request.id).isSome
          rw [same]
          exact present
        · rw [lastValidated_of_same same]
          exact lastEq
      · refine ⟨Option.isSome_iff_exists.mpr ⟨written, writtenEq⟩, passed_write passed, ?_⟩
        rw [lastValidated_of_written writtenEq idEq]
        split
        · rename_i anew
          have chosen : versionNumber ∈ (GateStage.produce request since versionNumber).chosen?
              written.id := by
            rw [GateStage.chosen?, if_pos idEq.symm]
            rfl
          rw [(safe written writtenMem).2.2 anew _ otherMem versionNumber chosen]
        · exact lastEq

/-- A statement returns and the call goes on, or it throws and the call is over. -/
theorem gate_after_cases {α : Type} {go : α → GateStage} {body : Except Exception α × AiDb}
    {reached : GateStore} (afterEq : GateStage.after store go body = (reached, next)) :
    (∃ value target, body = (.ok value, target) ∧ reached = store.write target ∧
      next = go value) ∨ next = .ended := by
  obtain ⟨thrown | value, target⟩ := body
  · cases afterEq
    exact Or.inr rfl
  · cases afterEq
    exact Or.inl ⟨value, target, rfl, rfl, rfl⟩

/-- The database of a step is among the states since its request arrived. -/
theorem passed_now (arrived : since ≤ store.history.length)
    (validated : isValidated store.db id = true)
    (reconciled : isReconciled store.points store.db id = true) : store.Passed id since := by
  refine ⟨store.db, ?_, validated, reconciled⟩
  rw [GateStore.since, GateStore.states, Nat.succ_sub arrived, List.take_succ_cons]
  exact List.mem_cons_self

/-- What a call relies on after its own step. -/
theorem holds_advance {stage : GateStage} {reached : GateStore} (current : store.Current)
    (holds : stage.Holds store) (safe : stage.Safe store others)
    (advanceEq : stage.advance host store = some (reached, next)) : next.Holds reached := by
  cases stage with
  | numbering stage =>
      obtain ⟨_, _, pairEq⟩ := Option.map_eq_some_iff.mp advanceEq
      cases pairEq
      trivial
  | findReport payload =>
      cases advanceEq
      cases store.db.reports.find? fun report => report.id == payload.reportId <;> trivial
  | saveReport payload report =>
      cases advanceEq
      rw [GateStage.reconciling]
      split <;> trivial
  | findSession payload =>
      cases advanceEq
      cases store.db.session? payload.sessionId <;> trivial
  | saveSession session =>
      cases advanceEq
      trivial
  | validate request since =>
      rcases gate_after_cases (Option.some.inj advanceEq) with
        ⟨_, target, validateEq, rfl, rfl⟩ | rfl
      · obtain ⟨validated, reconciled⟩ := validateExportability_ok validateEq
        obtain rfl := readOnly_validateExportability _ _ _ _ _ validateEq
        have clear : isReconciled store.points store.db request.id = true :=
          reconciled.elim (safe validated) fun reconciled => reconciled
        obtain ⟨row, rowEq, rowValidated⟩ := (Option.any_eq_true _ _).mp validated
        refine ⟨passed_write (passed_now holds validated clear), row, rowEq, ?_⟩
        rw [lastValidated_of_same rfl]
        exact current request.id row rowEq (beq_iff_eq.mp rowValidated)
      · trivial
  | choose request since =>
      rcases gate_after_cases (Option.some.inj advanceEq) with
        ⟨versionNumber, target, chooseEq, rfl, rfl⟩ | rfl
      · obtain ⟨passed, row, rowEq, lastEq⟩ := holds
        obtain ⟨found, foundEq, rfl⟩ := chooseVersion_ok chooseEq
        obtain rfl := readOnly_chooseVersion _ _ _ _ chooseEq
        cases rowEq.symm.trans foundEq
        refine ⟨Option.isSome_iff_exists.mpr ⟨row, rowEq⟩, passed_write passed, ?_⟩
        rw [lastValidated_of_same rfl]
        exact lastEq
      · trivial
  | produce request since versionNumber =>
      rcases gate_after_cases (Option.some.inj advanceEq) with ⟨_, _, _, _, rfl⟩ | rfl
      · trivial
      · trivial
  | exported request answer => cases advanceEq
  | ended => cases advanceEq

/-- A safe step writes safely. -/
theorem writesSafely_of_safe {stage : GateStage} (safe : stage.Safe store others) :
    ∀ written ∈ stage.written? store.db, WritesSafely store.db others written := by
  cases stage with
  | validate request since => exact nofun
  | _ => exact safe

/-- The invariant is kept by each step that meets the condition. -/
theorem keeps_covered : (gateSystem host).Keeps (fun _ => True)
    (fun store others stage _ => stage.Safe store others) GateStore.Current
    (fun store stage => stage.Holds store) (fun _ _ => True) where
  started := by
    intro store request current _
    refine ⟨current, fun other holds => holds, ?_⟩
    intro stage stageMem
    obtain rfl : GateStage.start store request = stage := Option.some.inj stageMem
    refine ⟨?_, fun _ => ⟨trivial, trivial⟩⟩
    cases request with
    | numbering request => trivial
    | divergence payload => trivial
    | exportToElsa request => exact Nat.le_refl _
  advanced := by
    intro store others stage _ reached next leaves safe advanceEq
    obtain ⟨target, rfl, writes⟩ := advance_writes advanceEq
    have writesSafely := writesSafely_of_safe safe
    constructor
    · exact current_write leaves.holds writes writesSafely
    · exact holds_advance leaves.holds leaves.owns safe advanceEq
    · intro other otherMem
      exact holds_write (leaves.beside other otherMem) writes writesSafely otherMem
    · exact fun _ _ => ⟨trivial, trivial⟩

/-- A database that has not been changed yet. -/
def GateStore.fresh (db : AiDb) (points : List DivergencePoint) : GateStore := ⟨db, points, []⟩

theorem current_fresh (db : AiDb) (points : List DivergencePoint) :
    (GateStore.fresh db points).Current := by
  intro id row rowEq validated
  change db.workflow? id = some row at rowEq
  have isValid : isValidated db id = true := by
    rw [isValidated_eq rowEq, validated]
    rfl
  change (if isValidated db id && true then (db.workflow? id).map Workflow.currentVersion
    else none) = some row.currentVersion
  rw [isValid, rowEq]
  rfl

/-- In runs whose steps meet the condition, the gate covers each version that an export request
has chosen, until the export is produced. -/
theorem export_covered {points : List DivergencePoint}
    {actions : List (Sessions.Action GateRequest Unit)} {state : Sessions.State GateStore GateStage}
    {versionNumber : Int}
    (met : (gateSystem host).step.Meets GateSafe ⟨.fresh db points, []⟩ actions)
    (runEq : (gateSystem host).step.run ⟨.fresh db points, []⟩ actions = some state)
    (chosen : .produce request since versionNumber ∈ state.sessions) :
    Covered state.store request since versionNumber := by
  have start : Sessions.Invariant GateStore.Current (fun store stage => stage.Holds store)
      (fun _ _ => True) (⟨.fresh db points, []⟩ : Sessions.State GateStore GateStage) :=
    Sessions.Invariant.of_no_sessions (current_fresh db points) rfl
  have invariant := keeps_covered.run start met runEq
  exact (invariant.owns _ chosen).2

/-! ## Examples -/

/-- An update of the example workflow by its owner, with elements and maybe a status. -/
def exampleChange (versionId : String) (status : Option WorkflowStatus) :
    Sessions.Action GateRequest Unit :=
  .start <| .numbering <| .update
    { id := uuid "workflow"
      dto := ⟨none, none, none, none, status, some []⟩
      orgId := uuid "org"
      callerId := exampleUser
      callerRole := "user"
      versionId := uuid versionId }

/-- An export request of the owner. -/
def exampleExport : ExportRequest := ⟨uuid "workflow", ⟨exampleUser, uuid "org", "user"⟩, "now"⟩

/-- A mapping service that keeps the elements. -/
def exampleExportHost : ExportHost := ⟨7 / 10, fun elements _ _ _ => .ok elements⟩

/-- The example workflow, and no call. -/
def exampleGate : Sessions.State GateStore GateStage := ⟨.fresh (exampleDb .processing) [], []⟩

/-- The first version is validated and chosen for an export. -/
def exampleValidated : List (Sessions.Action GateRequest Unit) :=
  [exampleChange "v1" (some .validated), .advance 0 (), .advance 0 (), .advance 0 (),
    .start (.exportToElsa exampleExport), .advance 1 (), .advance 1 ()]

example : ((gateSystem exampleExportHost).step.run exampleGate exampleValidated).isSome := by
  decide +kernel

/-- The gate covers the export of the version that was validated. -/
theorem export_covered_example :
    ∃ state since, (gateSystem exampleExportHost).step.run exampleGate exampleValidated =
        some state ∧ Covered state.store exampleExport since 1 := by
  have met : (gateSystem exampleExportHost).step.Meets GateSafe exampleGate exampleValidated := by
    decide +kernel
  have taken : ((gateSystem exampleExportHost).step.run exampleGate exampleValidated).any
      fun state => state.sessions.any fun stage =>
        match stage with
        | .produce request _ versionNumber => request == exampleExport && versionNumber == 1
        | _ => false := by
    decide +kernel
  obtain ⟨state, runEq, found⟩ := (Option.any_eq_true _ _).mp taken
  obtain ⟨stage, stageMem, chosen⟩ := List.any_eq_true.mp found
  cases stage with
  | produce request since versionNumber =>
      obtain ⟨rfl, rfl⟩ : request = exampleExport ∧ versionNumber = 1 := by simpa using chosen
      exact ⟨state, since, runEq, export_covered met runEq stageMem⟩
  | _ => cases chosen

/-- A version that is added to the validated workflow is exported, although the status was set
for the one before it. -/
theorem export_uncovered :
    ∃ state reached request since answer,
      (gateSystem exampleExportHost).step.run exampleGate
        [exampleChange "v1" (some .validated), .advance 0 (), .advance 0 (), .advance 0 (),
          exampleChange "v2" none, .advance 1 (), .advance 1 (), .advance 1 (),
          .start (.exportToElsa exampleExport), .advance 2 (), .advance 2 ()] = some state ∧
      state.sessions[2]? = some (.produce request since 2) ∧
      (gateSystem exampleExportHost).step state (.advance 2 ()) = some reached ∧
      reached.sessions[2]? = some (.exported request answer) ∧
      ¬ Covered state.store request since 2 := by
  have taken : ((gateSystem exampleExportHost).step.run exampleGate
        [exampleChange "v1" (some .validated), .advance 0 (), .advance 0 (), .advance 0 (),
          exampleChange "v2" none, .advance 1 (), .advance 1 (), .advance 1 (),
          .start (.exportToElsa exampleExport), .advance 2 (), .advance 2 ()]).any fun state =>
      (state.sessions[2]?).any fun stage =>
        ((gateSystem exampleExportHost).step state (.advance 2 ())).any fun reached =>
          (reached.sessions[2]?).any fun next =>
            match stage, next with
            | .produce request _ versionNumber, .exported other _ =>
                versionNumber == 2 && request == other &&
                  lastValidated request.id state.store.states != some 2
            | _, _ => false := by
    decide +kernel
  obtain ⟨state, runEq, found⟩ := (Option.any_eq_true _ _).mp taken
  obtain ⟨stage, stageEq, found⟩ := (Option.any_eq_true _ _).mp found
  obtain ⟨reached, reachedEq, found⟩ := (Option.any_eq_true _ _).mp found
  obtain ⟨next, nextEq, found⟩ := (Option.any_eq_true _ _).mp found
  cases stage with
  | produce request since versionNumber =>
      cases next with
      | exported other answer =>
          simp only [Bool.and_eq_true, beq_iff_eq, bne_iff_ne] at found
          obtain ⟨⟨rfl, rfl⟩, uncovered⟩ := found
          refine ⟨state, reached, request, since, answer, runEq, stageEq, reachedEq, nextEq, ?_⟩
          intro covered
          exact uncovered covered.validated
      | _ => cases found
  | _ => cases found

end Manbaa.Workflows
