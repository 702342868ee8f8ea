import Manbaa.Core.Http
import Manbaa.Lib.Effect
import Manbaa.Lib.ForeignKeys
import Manbaa.Lib.Run

/-!
# Deletion of projects

A project is deleted with the versions of its workflows and its workflows, in one transaction.
The database takes along what refers to a workflow by a cascading key, and refuses a statement
that would delete an entry of the audit log or leave a reference behind.
-/

namespace Manbaa.Projects

open Manbaa.Lib Manbaa.Lib.Effect Manbaa.Lib.Relational

/-! ## The schema -/

/-- The tables that refer to projects, directly or through others. -/
inductive Entity where
  | project
  | workflow
  | workflowVersion
  | session
  | message
  | document
  | comment
  | auditLog
  | kgNode
  | kgEdge
  | pipelineExecution
  | agentExecution
  | agentLog
  | workflowGraphSnapshot
  | divergenceReport
  | divergencePoint
  | reconciliationAction
  | rule
  | ruleApplication
  | skillApplication
  | canvas
  | canvasObject
  | canvasOperation
  | canvasSnapshot
  | canvasVersion
  | source
  | aiPreviewSnapshot
  | aiTask
  deriving DecidableEq

/-- Their columns that name rows, and the organization of a project. -/
inductive Column where
  | orgId
  | projectId
  | workflowId
  | workflowVersionId
  | sessionId
  | parentId
  | fromNodeId
  | toNodeId
  | pipelineExecutionId
  | agentExecutionId
  | graphAId
  | graphBId
  | reportId
  | divergencePointId
  | resultGraphSnapshotId
  | ruleId
  | canvasId
  | canvasObjectId
  | snapshotId
  | supersededBySnapshotId
  | supersededByTaskId
  deriving DecidableEq

/-- A row. -/
abbrev Record := Row Entity Column Uuid

/-- The tables. -/
abbrev Records := List Record

/-- The foreign keys of the migrations.  A key of several columns is the one that names the row;
`project_id` of a workflow is not a key. -/
def foreignKeys : List (ForeignKey Entity Column) :=
  [⟨.workflowVersion, .workflowId, .workflow, .cascade⟩,
    ⟨.session, .workflowId, .workflow, .cascade⟩,
    ⟨.message, .sessionId, .session, .cascade⟩,
    ⟨.document, .workflowId, .workflow, .cascade⟩,
    ⟨.document, .sessionId, .session, .cascade⟩,
    ⟨.comment, .workflowId, .workflow, .cascade⟩,
    ⟨.comment, .parentId, .comment, .cascade⟩,
    ⟨.auditLog, .workflowId, .workflow, .cascade⟩,
    ⟨.kgNode, .sessionId, .session, .cascade⟩,
    ⟨.kgEdge, .sessionId, .session, .cascade⟩,
    ⟨.kgEdge, .fromNodeId, .kgNode, .cascade⟩,
    ⟨.kgEdge, .toNodeId, .kgNode, .cascade⟩,
    ⟨.pipelineExecution, .sessionId, .session, .cascade⟩,
    ⟨.agentExecution, .pipelineExecutionId, .pipelineExecution, .cascade⟩,
    ⟨.agentLog, .agentExecutionId, .agentExecution, .cascade⟩,
    ⟨.workflowGraphSnapshot, .workflowId, .workflow, .cascade⟩,
    ⟨.workflowGraphSnapshot, .workflowVersionId, .workflowVersion, .noAction⟩,
    ⟨.workflowGraphSnapshot, .sessionId, .session, .noAction⟩,
    ⟨.divergenceReport, .workflowId, .workflow, .cascade⟩,
    ⟨.divergenceReport, .graphAId, .workflowGraphSnapshot, .noAction⟩,
    ⟨.divergenceReport, .graphBId, .workflowGraphSnapshot, .noAction⟩,
    ⟨.divergenceReport, .pipelineExecutionId, .pipelineExecution, .noAction⟩,
    ⟨.divergencePoint, .reportId, .divergenceReport, .cascade⟩,
    ⟨.reconciliationAction, .divergencePointId, .divergencePoint, .cascade⟩,
    ⟨.reconciliationAction, .resultGraphSnapshotId, .workflowGraphSnapshot, .noAction⟩,
    ⟨.rule, .workflowId, .workflow, .noAction⟩,
    ⟨.ruleApplication, .ruleId, .rule, .cascade⟩,
    ⟨.ruleApplication, .agentExecutionId, .agentExecution, .cascade⟩,
    ⟨.skillApplication, .agentExecutionId, .agentExecution, .cascade⟩,
    ⟨.canvas, .workflowId, .workflow, .cascade⟩,
    ⟨.canvasObject, .canvasId, .canvas, .cascade⟩,
    ⟨.canvasOperation, .canvasId, .canvas, .cascade⟩,
    ⟨.canvasOperation, .canvasObjectId, .canvasObject, .setNull⟩,
    ⟨.canvasSnapshot, .canvasId, .canvas, .cascade⟩,
    ⟨.canvasVersion, .canvasId, .canvas, .cascade⟩,
    ⟨.canvasVersion, .workflowVersionId, .workflowVersion, .setNull⟩,
    ⟨.canvasVersion, .snapshotId, .canvasSnapshot, .setNull⟩,
    ⟨.source, .projectId, .project, .setNull⟩,
    ⟨.aiPreviewSnapshot, .projectId, .project, .setNull⟩,
    ⟨.aiPreviewSnapshot, .canvasId, .canvas, .cascade⟩,
    ⟨.aiPreviewSnapshot, .supersededBySnapshotId, .aiPreviewSnapshot, .restrict⟩,
    ⟨.aiTask, .canvasId, .canvas, .restrict⟩,
    ⟨.aiTask, .snapshotId, .aiPreviewSnapshot, .restrict⟩,
    ⟨.aiTask, .supersededByTaskId, .aiTask, .restrict⟩]

/-- The keys and the triggers of the migrations: an entry of the audit log is neither deleted nor
changed, and the artifact of a preview snapshot, its project included, is not changed. -/
def migrations : Schema Entity Column where
  keys := foreignKeys
  undeletable := fun table => table == .auditLog
  frozen := fun table column =>
    table == .auditLog ||
      table == .aiPreviewSnapshot && (column == .projectId || column == .canvasId)

/-! ## Operations -/

/-- Why an operation fails. -/
inductive Failure where
  | notFound (message : String)
  | refused (obstacle : Obstacle)
  | invalidRow
  | unavailable
  deriving DecidableEq

/-- A computation on the tables. -/
abbrev Statements := Effect Records Failure

/-- The row of a project. -/
def isProject (id : Uuid) (row : Record) : Bool := row.table == .project && row.id == id

/-- The row of a workflow of a project. -/
def isWorkflowOf (projectId : Uuid) (row : Record) : Bool :=
  row.table == .workflow && row.value .projectId == some projectId

/-- The row of a version of some workflows. -/
def isVersionOf (workflowIds : List Uuid) (row : Record) : Bool :=
  row.table == .workflowVersion &&
    (row.value .workflowId).any fun workflowId => workflowIds.contains workflowId

/-- The workflows of a project. -/
def Records.workflowsOf (rows : Records) (projectId : Uuid) : List Uuid :=
  (rows.filter (isWorkflowOf projectId)).map Row.id

/-- A statement that may not get through to the database. -/
def statement {α : Type} (fails : Bool) (body : Statements α) : Statements α :=
  if fails then throwing .unavailable else body

/-- The statement that deletes rows. -/
def deleteWhere (target : Record → Bool) : Statements Unit := fun rows =>
  match migrations.delete rows target with
  | .ok left => (.ok (), left)
  | .error obstacle => (.error (.refused obstacle), rows)

/-- The rows that a row refers to are there. -/
def Records.Satisfies (rows : Records) (row : Record) : Prop :=
  ∀ key ∈ foreignKeys, key.source = row.table → ∀ id ∈ row.value key.column,
    ∃ other ∈ rows, other.table = key.target ∧ other.id = id

instance (rows : Records) (row : Record) : Decidable (rows.Satisfies row) :=
  inferInstanceAs (Decidable (∀ key ∈ foreignKeys, _ → ∀ id ∈ row.value key.column, _))

/-- The statement that inserts a row. -/
def insert (row : Record) : Statements Unit := fun rows =>
  if (Table.get? Row.key rows row.key).isNone ∧ rows.Satisfies row then (.ok (), rows ++ [row])
  else (.error .invalidRow, rows)

/-- `findOne`. -/
def findOne (id orgId : Uuid) : Statements Record := fun rows =>
  orThrow (rows.find? fun row => isProject id row && row.value .orgId == some orgId)
    (.notFound ("Project " ++ id.text ++ " not found")) rows

/-- The statement that deletes the versions of some workflows, if there are any. -/
def deleteVersions (fails : Bool) (workflowIds : List Uuid) : Statements Unit :=
  if workflowIds.isEmpty then pure ()
  else statement fails (deleteWhere (isVersionOf workflowIds))

/-- The transaction of `delete`. -/
def remove (fails : Nat → Bool) (project : Record) : Statements Unit :=
  transaction do
    let workflowIds ← statement (fails 0) (reading (Records.workflowsOf · project.id))
    deleteVersions (fails 1) workflowIds
    statement (fails 2) (deleteWhere (isWorkflowOf project.id))
    statement (fails 3) (deleteWhere (isProject project.id))

/-- An entry of the audit log. -/
def auditEntry (id : Uuid) (workflowId : Option Uuid) : Record where
  table := .auditLog
  id := id
  value := fun column => if column = .workflowId then workflowId else none

/-- `delete` of a project.  The database draws the identifier of the entry. -/
def ProjectsService.delete (fails : Nat → Bool) (id orgId entryId : Uuid) : Statements Unit := do
  let project ← findOne id orgId
  remove fails project
  insert (auditEntry entryId none)

/-- A workflow. -/
def workflowRow (id projectId orgId : Uuid) : Record where
  table := .workflow
  id := id
  value := fun column =>
    if column = .projectId then some projectId else if column = .orgId then some orgId else none

/-- A version of a workflow. -/
def versionRow (id workflowId : Uuid) : Record where
  table := .workflowVersion
  id := id
  value := fun column => if column = .workflowId then some workflowId else none

/-- The identifiers that the database draws while a workflow is created. -/
structure DrawnIds where
  workflow : Uuid
  version : Uuid
  entry : Uuid

/-- `create` of a workflow.  The third statement sets the number of the current version, which is
not a key. -/
def WorkflowsService.create (fails : Nat → Bool) (ids : DrawnIds) (projectId orgId : Uuid) :
    Statements Unit := do
  statement (fails 0) (insert (workflowRow ids.workflow projectId orgId))
  statement (fails 1) (insert (versionRow ids.version ids.workflow))
  statement (fails 2) (pure ())
  statement (fails 3) (insert (auditEntry ids.entry (some ids.workflow)))

/-- The tables whose rows keep the columns that name rows: no operation moves a workflow to another
project, and a trigger keeps the entries of the audit log. -/
def fixedTables : List Entity := [.project, .workflow, .auditLog]

/-- A row may take the place of an old one. -/
def Records.Admits (rows : Records) (row old : Record) : Prop :=
  row.table ∉ fixedTables ∧ rows.Satisfies row ∧
    (row.table = .aiPreviewSnapshot →
      row.value .projectId = old.value .projectId ∧ row.value .canvasId = old.value .canvasId)

instance (rows : Records) (row old : Record) : Decidable (rows.Admits row old) :=
  inferInstanceAs (Decidable (_ ∧ _ ∧ _))

/-- The statement that updates a row. -/
def update (row : Record) : Statements Unit := fun rows =>
  match Table.get? Row.key rows row.key with
  | some old =>
      if rows.Admits row old then (.ok (), Table.put Row.key rows row)
      else (.error .invalidRow, rows)
  | none => (.error .invalidRow, rows)

/-- The row with a key. -/
def hasKey (table : Entity) (id : Uuid) (row : Record) : Bool := row.table == table && row.id == id

/-- A request: a workflow is created, a project is deleted, or another operation inserts, changes
or deletes a row. -/
inductive Request where
  | createWorkflow (fails : Nat → Bool) (ids : DrawnIds) (projectId orgId : Uuid)
  | deleteProject (fails : Nat → Bool) (id orgId entryId : Uuid)
  | insert (row : Record)
  | update (row : Record)
  | deleteRow (table : Entity) (id : Uuid)

/-- A request is handled. -/
def Request.handle : Request → Statements Unit
  | .createWorkflow fails ids projectId orgId =>
      WorkflowsService.create fails ids projectId orgId
  | .deleteProject fails id orgId entryId => ProjectsService.delete fails id orgId entryId
  | .insert row => Projects.insert row
  | .update row => Projects.update row
  | .deleteRow table id => deleteWhere (hasKey table id)

/-- Requests after each other. -/
def apiSystem : Step Records Request :=
  Step.ofTotal fun rows request => (request.handle rows).2

/-! ## What is promised -/

/-- The identifier of an entry is free. -/
def Records.Draws (rows : Records) (entryId : Uuid) : Prop :=
  Table.get? Row.key rows (.auditLog, entryId) = none

/-- No row of a project, of the workflows it had or of their versions. -/
structure Gone (rows : Records) (id : Uuid) (left : Records) : Prop where
  project : ∀ row ∈ left, isProject id row = false
  workflows : ∀ row ∈ left, isWorkflowOf id row = false
  versions : ∀ row ∈ left, isVersionOf (rows.workflowsOf id) row = false

/-- The deletion of a project by a member of its organization commits and leaves nothing of it,
and one whose transaction fails deletes nothing. -/
structure Deletable (rows : Records) (id orgId entryId : Uuid) : Prop where
  commits : ∃ left, ProjectsService.delete (fun _ => false) id orgId entryId rows =
    (.ok (), left) ∧ Gone rows id left
  atomic : ∀ fails project failure after, remove fails project rows = (.error failure, after) →
    after = rows

/-- Nothing holds the workflows of a project: no entry of the audit log is about one of them, no
graph snapshot is of one of their versions, every row that does not let a row under a workflow go
is itself under one, and so is every preview snapshot of the project. -/
structure Unencumbered (rows : Records) (id : Uuid) : Prop where
  unlogged : ∀ entry ∈ rows, entry.table = .auditLog → ∀ workflow ∈ rows,
    isWorkflowOf id workflow = true → entry.value .workflowId ≠ some workflow.id
  unsnapshotted : ∀ snapshot ∈ rows, snapshot.table = .workflowGraphSnapshot →
    ∀ version ∈ rows, isVersionOf (rows.workflowsOf id) version = true →
      snapshot.value .workflowVersionId ≠ some version.id
  unheld : ∀ row ∈ rows, ∀ other, Under migrations rows (isWorkflowOf id) other →
    migrations.Hinders row other → Under migrations rows (isWorkflowOf id) row
  unpreviewed : ∀ snapshot ∈ rows, snapshot.table = .aiPreviewSnapshot →
    snapshot.value .projectId = some id → Under migrations rows (isWorkflowOf id) snapshot

variable {rows left : Records} {row other origin : Record} {removed : Record → Prop}
  {id orgId : Uuid}

/-! ## Keys of the schema -/

theorem migrations_functional : migrations.Functional := by decide

theorem versions_cascade_nothing :
    ∀ key ∈ foreignKeys, key.onDelete = .cascade → key.target ≠ .workflowVersion := by
  decide

theorem projects_cascade_nothing :
    ∀ key ∈ foreignKeys, key.onDelete = .cascade → key.target ≠ .project := by
  decide

theorem versions_held_by :
    ∀ key ∈ foreignKeys, migrations.Refuses key → key.target = .workflowVersion →
      key.source = .workflowGraphSnapshot ∧ key.column = .workflowVersionId := by
  decide

theorem projects_held_by :
    ∀ key ∈ foreignKeys, migrations.Refuses key → key.target = .project →
      key.source = .aiPreviewSnapshot ∧ key.column = .projectId := by
  decide

theorem entries_refer_to :
    ∀ key ∈ foreignKeys, key.source = .auditLog →
      key.column = .workflowId ∧ key.target = .workflow := by
  decide

theorem workflows_refer_to_nothing : ∀ key ∈ foreignKeys, key.source ≠ .workflow := by
  decide

theorem projects_refer_to_nothing : ∀ key ∈ foreignKeys, key.source ≠ .project := by
  decide

/-- The tables whose rows keep their columns. -/
def keptTables : List Entity := [.project, .workflow, .workflowVersion, .auditLog]

theorem kept_not_nulled :
    ∀ key ∈ foreignKeys, key.onDelete = .setNull → key.source ∉ keptTables := by
  decide

/-- A row of such a table is left as it was. -/
theorem image_value (image : Image migrations removed origin row)
    (kept : origin.table ∈ keptTables) (column : Column) :
    row.value column = origin.value column := by
  rcases image.value column with same | ⟨_, gone, _, key, keyMem, ⟨setNull, _⟩, refers⟩
  · exact same
  · have notKept := kept_not_nulled key keyMem setNull
    rw [← refers.1] at notKept
    exact absurd kept notKept

theorem image_isProject (image : Image migrations removed origin row) :
    isProject id row = isProject id origin := by
  rw [isProject, isProject, image.table, image.id]

theorem image_isWorkflowOf (image : Image migrations removed origin row) :
    isWorkflowOf id row = isWorkflowOf id origin := by
  rw [isWorkflowOf, isWorkflowOf, image.table]
  by_cases isWorkflow : origin.table = .workflow
  · rw [image_value image (by rw [isWorkflow]; decide)]
  · have isOther : (origin.table == .workflow) = false := beq_eq_false_iff_ne.mpr isWorkflow
    rw [isOther, Bool.false_and, Bool.false_and]

theorem image_isVersionOf (image : Image migrations removed origin row) {workflowIds : List Uuid} :
    isVersionOf workflowIds row = isVersionOf workflowIds origin := by
  rw [isVersionOf, isVersionOf, image.table]
  by_cases isVersion : origin.table = .workflowVersion
  · rw [image_value image (by rw [isVersion]; decide)]
  · have isOther : (origin.table == .workflowVersion) = false := beq_eq_false_iff_ne.mpr isVersion
    rw [isOther, Bool.false_and, Bool.false_and]

/-! ## What hangs under the rows of a project -/

theorem isProject_iff : isProject id row = true ↔ row.table = .project ∧ row.id = id := by
  simp [isProject]

theorem isWorkflowOf_iff :
    isWorkflowOf id row = true ↔ row.table = .workflow ∧ row.value .projectId = some id := by
  simp [isWorkflowOf]

theorem isVersionOf_iff :
    isVersionOf (rows.workflowsOf id) row = true ↔ row.table = .workflowVersion ∧
      ∃ workflow ∈ rows, isWorkflowOf id workflow = true ∧
        row.value .workflowId = some workflow.id := by
  simp only [isVersionOf, Records.workflowsOf, Bool.and_eq_true, beq_iff_eq, Option.any_eq_true,
    List.contains_iff_mem, List.mem_map, List.mem_filter]
  constructor
  · rintro ⟨table, _, valueEq, workflow, ⟨workflowMem, isWorkflow⟩, rfl⟩
    exact ⟨table, workflow, workflowMem, isWorkflow, valueEq⟩
  · rintro ⟨table, workflow, workflowMem, isWorkflow, valueEq⟩
    exact ⟨table, workflow.id, valueEq, workflow, ⟨workflowMem, isWorkflow⟩, rfl⟩

/-- Nothing hangs under the versions of workflows. -/
theorem under_versions_iff {workflowIds : List Uuid} :
    Under migrations rows (isVersionOf workflowIds) row ↔
      row ∈ rows ∧ isVersionOf workflowIds row = true := by
  constructor
  · intro under
    induction under with
    | asked rowMem asked => exact ⟨rowMem, asked⟩
    | cascades _ _ cascades ih =>
        obtain ⟨key, keyMem, cascade, refers⟩ := cascades
        have isVersion := ((Bool.and_eq_true _ _).mp ih.2).1
        exact absurd (refers.2.1.symm.trans (beq_iff_eq.mp isVersion))
          (versions_cascade_nothing key keyMem cascade)
  · rintro ⟨rowMem, asked⟩
    exact .asked rowMem asked

/-- Nothing hangs under a project. -/
theorem under_project_iff :
    Under migrations rows (isProject id) row ↔ row ∈ rows ∧ isProject id row = true := by
  constructor
  · intro under
    induction under with
    | asked rowMem asked => exact ⟨rowMem, asked⟩
    | cascades _ _ cascades ih =>
        obtain ⟨key, keyMem, cascade, refers⟩ := cascades
        exact absurd (refers.2.1.symm.trans (isProject_iff.mp ih.2).1)
          (projects_cascade_nothing key keyMem cascade)
  · rintro ⟨rowMem, asked⟩
    exact .asked rowMem asked

/-- The workflows among what hangs under the workflows of a project. -/
theorem workflow_of_under (under : Under migrations rows (isWorkflowOf id) row)
    (isWorkflow : row.table = .workflow) : isWorkflowOf id row = true := by
  cases under with
  | asked _ asked => exact asked
  | cascades _ _ cascades =>
      obtain ⟨key, keyMem, _, refers⟩ := cascades
      exact absurd (refers.1.symm.trans isWorkflow) (workflows_refer_to_nothing key keyMem)

theorem not_under_of_project (isProjectRow : row.table = .project) :
    ¬ Under migrations rows (isWorkflowOf id) row := by
  intro under
  cases under with
  | asked _ asked => cases isProjectRow.symm.trans (isWorkflowOf_iff.mp asked).1
  | cascades _ _ cascades =>
      obtain ⟨key, keyMem, _, refers⟩ := cascades
      exact projects_refer_to_nothing key keyMem (refers.1.symm.trans isProjectRow)

/-- The entries of the audit log that hang under the workflows of a project. -/
theorem under_entry_iff (isEntry : row.table = .auditLog) :
    Under migrations rows (isWorkflowOf id) row ↔
      row ∈ rows ∧ ∃ workflow ∈ rows, isWorkflowOf id workflow = true ∧
        row.value .workflowId = some workflow.id := by
  constructor
  · intro under
    refine ⟨under.mem, ?_⟩
    cases under with
    | asked _ asked => cases isEntry.symm.trans (isWorkflowOf_iff.mp asked).1
    | @cascades _ workflow _ under cascades =>
        obtain ⟨key, keyMem, _, refers⟩ := cascades
        obtain ⟨column, target⟩ := entries_refer_to key keyMem (refers.1.symm.trans isEntry)
        have isWorkflow := workflow_of_under under (refers.2.1.trans target)
        exact ⟨workflow, under.mem, isWorkflow, column ▸ refers.2.2⟩
  · rintro ⟨rowMem, workflow, workflowMem, isWorkflow, valueEq⟩
    apply Under.cascades rowMem (.asked workflowMem isWorkflow)
    refine ⟨⟨.auditLog, .workflowId, .workflow, .cascade⟩, by decide, rfl, isEntry, ?_, valueEq⟩
    exact (isWorkflowOf_iff.mp isWorkflow).1

/-- The versions of the workflows of a project hang under them. -/
theorem under_of_version (rowMem : row ∈ rows)
    (isVersion : isVersionOf (rows.workflowsOf id) row = true) :
    Under migrations rows (isWorkflowOf id) row := by
  obtain ⟨table, workflow, workflowMem, isWorkflow, valueEq⟩ := isVersionOf_iff.mp isVersion
  apply Under.cascades rowMem (.asked workflowMem isWorkflow)
  refine ⟨⟨.workflowVersion, .workflowId, .workflow, .cascade⟩, by decide, rfl, table, ?_, valueEq⟩
  exact (isWorkflowOf_iff.mp isWorkflow).1

/-! ## Statements of the transaction -/

/-- The first statement goes through exactly if no graph snapshot is of a version. -/
theorem versions_removable_iff :
    Removable migrations rows (fun _ => False) (isVersionOf (rows.workflowsOf id)) ↔
      ∀ snapshot ∈ rows, snapshot.table = .workflowGraphSnapshot →
        ∀ version ∈ rows, isVersionOf (rows.workflowsOf id) version = true →
          snapshot.value .workflowVersionId ≠ some version.id := by
  constructor
  · intro removable snapshot snapshotMem isSnapshot version versionMem isVersion valueEq
    have hinders : migrations.Hinders snapshot version :=
      ⟨⟨.workflowGraphSnapshot, .workflowVersionId, .workflowVersion, .noAction⟩, by decide,
        Or.inl rfl, isSnapshot, (isVersionOf_iff.mp isVersion).1, valueEq⟩
    have under := removable.unhindered snapshot snapshotMem version (fun isFalse => isFalse)
      (fun isFalse => isFalse) (.asked versionMem isVersion) hinders
    have isOther := (isVersionOf_iff.mp (under_versions_iff.mp under).2).1
    cases isSnapshot.symm.trans isOther
  · intro unsnapshotted
    constructor
    · intro version under _
      rw [(isVersionOf_iff.mp (under_versions_iff.mp under).2).1]
      rfl
    · intro snapshot snapshotMem version _ _ under hinders
      obtain ⟨versionMem, isVersion⟩ := under_versions_iff.mp under
      obtain ⟨key, keyMem, refuses, table, target, valueEq⟩ := hinders
      obtain ⟨source, column⟩ := versions_held_by key keyMem refuses
        (target.symm.trans (isVersionOf_iff.mp isVersion).1)
      rw [source] at table
      rw [column] at valueEq
      exact absurd valueEq (unsnapshotted snapshot snapshotMem table version versionMem isVersion)

/-- The second one goes through, after the first one, exactly if no entry of the audit log is about
a workflow and every row that holds what hangs under one hangs under one too. -/
theorem workflows_removable_iff
    (unsnapshotted : Removable migrations rows (fun _ => False)
      (isVersionOf (rows.workflowsOf id))) :
    Removable migrations rows
        (fun row => False ∨ Under migrations rows (isVersionOf (rows.workflowsOf id)) row)
        (isWorkflowOf id) ↔
      (∀ entry ∈ rows, entry.table = .auditLog → ∀ workflow ∈ rows,
        isWorkflowOf id workflow = true → entry.value .workflowId ≠ some workflow.id) ∧
      ∀ row ∈ rows, ∀ other, Under migrations rows (isWorkflowOf id) other →
        migrations.Hinders row other → Under migrations rows (isWorkflowOf id) row := by
  have versionTable : ∀ row, Under migrations rows (isVersionOf (rows.workflowsOf id)) row →
      row.table = .workflowVersion := by
    intro row under
    exact (isVersionOf_iff.mp (under_versions_iff.mp under).2).1
  have under_of_removed : ∀ row,
      Under migrations rows (isVersionOf (rows.workflowsOf id)) row →
        Under migrations rows (isWorkflowOf id) row := by
    intro row under
    exact under_of_version under.mem (under_versions_iff.mp under).2
  constructor
  · intro removable
    constructor
    · intro entry entryMem isEntry workflow workflowMem isWorkflow valueEq
      have under : Under migrations rows (isWorkflowOf id) entry :=
        (under_entry_iff isEntry).mpr ⟨entryMem, workflow, workflowMem, isWorkflow, valueEq⟩
      have deletable := removable.deletable entry under ?_
      · rw [isEntry] at deletable
        cases deletable
      · rintro (isFalse | isVersion)
        · exact isFalse
        · cases isEntry.symm.trans (versionTable entry isVersion)
    · intro row rowMem other under hinders
      by_cases rowVersion : Under migrations rows (isVersionOf (rows.workflowsOf id)) row
      · exact under_of_removed row rowVersion
      · by_cases otherVersion : Under migrations rows (isVersionOf (rows.workflowsOf id)) other
        · exact absurd (unsnapshotted.unhindered row rowMem other (fun isFalse => isFalse)
            (fun isFalse => isFalse) otherVersion hinders) rowVersion
        · apply removable.unhindered row rowMem other ?_ ?_ under hinders
          · exact fun gone => rowVersion (gone.resolve_left (fun isFalse => isFalse))
          · exact fun gone => otherVersion (gone.resolve_left (fun isFalse => isFalse))
  · rintro ⟨unlogged, unheld⟩
    constructor
    · intro row under _
      apply beq_eq_false_iff_ne.mpr
      intro isEntry
      obtain ⟨rowMem, workflow, workflowMem, isWorkflow, valueEq⟩ :=
        (under_entry_iff isEntry).mp under
      exact unlogged row rowMem isEntry workflow workflowMem isWorkflow valueEq
    · intro row rowMem other _ _ under hinders
      exact unheld row rowMem other under hinders

/-- The third one goes through, after the others, exactly if every preview snapshot of the project
is gone. -/
theorem project_removable_iff {project : Record} (projectMem : project ∈ rows)
    (isProjectRow : isProject id project = true)
    (gone : ∀ row, removed row ↔ Under migrations rows (isWorkflowOf id) row) :
    Removable migrations rows removed (isProject id) ↔
      ∀ snapshot ∈ rows, snapshot.table = .aiPreviewSnapshot →
        snapshot.value .projectId = some id →
          Under migrations rows (isWorkflowOf id) snapshot := by
  obtain ⟨projectTable, projectId⟩ := isProject_iff.mp isProjectRow
  constructor
  · intro removable snapshot snapshotMem isSnapshot valueEq
    by_contra notUnder
    have hinders : migrations.Hinders snapshot project :=
      ⟨⟨.aiPreviewSnapshot, .projectId, .project, .setNull⟩, by decide,
        Or.inr (Or.inr ⟨rfl, rfl⟩), isSnapshot, projectTable, valueEq.trans (by rw [projectId])⟩
    have stays : ¬ removed project := by
      intro isRemoved
      exact not_under_of_project projectTable ((gone project).mp isRemoved)
    have under := removable.unhindered snapshot snapshotMem project
      (fun isRemoved => notUnder ((gone snapshot).mp isRemoved)) stays
      (.asked projectMem isProjectRow) hinders
    cases isSnapshot.symm.trans (isProject_iff.mp (under_project_iff.mp under).2).1
  · intro unpreviewed
    constructor
    · intro row under _
      rw [(isProject_iff.mp (under_project_iff.mp under).2).1]
      rfl
    · intro snapshot snapshotMem other stays _ under hinders
      obtain ⟨_, isOther⟩ := under_project_iff.mp under
      obtain ⟨otherTable, otherId⟩ := isProject_iff.mp isOther
      obtain ⟨key, keyMem, refuses, table, target, valueEq⟩ := hinders
      obtain ⟨source, column⟩ := projects_held_by key keyMem refuses (target.symm.trans otherTable)
      rw [source] at table
      rw [column, otherId] at valueEq
      exact absurd ((gone snapshot).mpr (unpreviewed snapshot snapshotMem table valueEq)) stays

/-! ## The transaction -/

theorem deleteWhere_eq_ok_iff {target : Record → Bool} {done : Unit} :
    deleteWhere target rows = (.ok done, left) ↔ migrations.delete rows target = .ok left := by
  rw [deleteWhere]
  cases migrations.delete rows target with
  | ok next => simp
  | error obstacle => simp

/-- The first statement would delete nothing where it is left out. -/
theorem deleteVersions_eq_ok_iff {done : Unit} :
    deleteVersions false (rows.workflowsOf id) rows = (.ok done, left) ↔
      migrations.delete rows (isVersionOf (rows.workflowsOf id)) = .ok left := by
  rw [deleteVersions]
  split
  · rename_i isEmpty
    have none : ∀ row ∈ rows, isVersionOf (rows.workflowsOf id) row = false := by
      intro row _
      rw [List.isEmpty_iff.mp isEmpty, isVersionOf]
      simp
    rw [delete_of_none none]
    simp
  · exact deleteWhere_eq_ok_iff

theorem remove_eq_ok_iff {project : Record} :
    remove (fun _ => false) project rows = (.ok (), left) ↔
      ∃ first second,
        migrations.delete rows (isVersionOf (rows.workflowsOf project.id)) = .ok first ∧
          migrations.delete first (isWorkflowOf project.id) = .ok second ∧
            migrations.delete second (isProject project.id) = .ok left := by
  have read : statement false (reading (Records.workflowsOf · project.id)) rows =
      (.ok (rows.workflowsOf project.id), rows) := rfl
  rw [remove, transaction_eq_ok_iff, bind_of_ok read]
  constructor
  · intro removeEq
    obtain ⟨_, first, firstEq, restEq⟩ := bind_eq_ok_iff.mp removeEq
    obtain ⟨_, second, secondEq, lastEq⟩ := bind_eq_ok_iff.mp restEq
    exact ⟨first, second, deleteVersions_eq_ok_iff.mp firstEq,
      deleteWhere_eq_ok_iff.mp secondEq, deleteWhere_eq_ok_iff.mp lastEq⟩
  · rintro ⟨first, second, firstEq, secondEq, lastEq⟩
    apply bind_eq_ok_iff.mpr
    refine ⟨(), first, deleteVersions_eq_ok_iff.mpr firstEq, ?_⟩
    apply bind_eq_ok_iff.mpr
    exact ⟨(), second, deleteWhere_eq_ok_iff.mpr secondEq, deleteWhere_eq_ok_iff.mpr lastEq⟩

/-- What is gone after the transaction. -/
def Removed (rows : Records) (id : Uuid) (row : Record) : Prop :=
  ((False ∨ Under migrations rows (isVersionOf (rows.workflowsOf id)) row) ∨
    Under migrations rows (isWorkflowOf id) row) ∨ Under migrations rows (isProject id) row

/-- What the transaction leaves. -/
theorem remains_of_remove {project : Record} (keyed : Table.Keyed Row.key rows)
    (removeEq : remove (fun _ => false) project rows = (.ok (), left)) :
    Remains migrations rows (Removed rows project.id) left := by
  obtain ⟨first, second, firstEq, secondEq, lastEq⟩ := remove_eq_ok_iff.mp removeEq
  have afterFirst := (remains_refl keyed).delete migrations_functional
    (fun _ _ image => image_isVersionOf image) firstEq
  have afterSecond := afterFirst.delete migrations_functional
    (fun _ _ image => image_isWorkflowOf image) secondEq
  exact afterSecond.delete migrations_functional (fun _ _ image => image_isProject image) lastEq

/-- The transaction commits exactly if nothing holds the workflows of the project. -/
theorem remove_commits_iff {project : Record} (keyed : Table.Keyed Row.key rows)
    (projectMem : project ∈ rows) (isProjectRow : isProject project.id project = true) :
    (∃ left, remove (fun _ => false) project rows = (.ok (), left)) ↔
      Unencumbered rows project.id := by
  have start : Remains migrations rows (fun _ => False) rows := remains_refl keyed
  have versions :
      (∃ first, migrations.delete rows (isVersionOf (rows.workflowsOf project.id)) = .ok first) ↔
        Removable migrations rows (fun _ => False)
          (isVersionOf (rows.workflowsOf project.id)) :=
    start.delete_isOk_iff migrations_functional (fun _ _ image => image_isVersionOf image)
  have gone : ∀ row,
      (False ∨ Under migrations rows (isVersionOf (rows.workflowsOf project.id)) row) ∨
          Under migrations rows (isWorkflowOf project.id) row ↔
        Under migrations rows (isWorkflowOf project.id) row := by
    intro row
    apply or_iff_right_of_imp
    rintro (isFalse | isVersion)
    · exact isFalse.elim
    · exact under_of_version isVersion.mem (under_versions_iff.mp isVersion).2
  constructor
  · rintro ⟨left, removeEq⟩
    obtain ⟨first, second, firstEq, secondEq, lastEq⟩ := remove_eq_ok_iff.mp removeEq
    have firstRemovable := versions.mp ⟨first, firstEq⟩
    have afterFirst := start.delete migrations_functional
      (fun _ _ image => image_isVersionOf image) firstEq
    have secondRemovable := (afterFirst.delete_isOk_iff migrations_functional
      (fun _ _ image => image_isWorkflowOf image)).mp ⟨second, secondEq⟩
    have afterSecond := afterFirst.delete migrations_functional
      (fun _ _ image => image_isWorkflowOf image) secondEq
    have lastRemovable := (afterSecond.delete_isOk_iff migrations_functional
      (fun _ _ image => image_isProject image)).mp ⟨left, lastEq⟩
    obtain ⟨unlogged, unheld⟩ := (workflows_removable_iff firstRemovable).mp secondRemovable
    exact ⟨unlogged, versions_removable_iff.mp firstRemovable, unheld,
      (project_removable_iff projectMem isProjectRow gone).mp lastRemovable⟩
  · intro unencumbered
    have firstRemovable := versions_removable_iff.mpr unencumbered.unsnapshotted
    obtain ⟨first, firstEq⟩ := versions.mpr firstRemovable
    have afterFirst := start.delete migrations_functional
      (fun _ _ image => image_isVersionOf image) firstEq
    have secondRemovable := (workflows_removable_iff firstRemovable).mpr
      ⟨unencumbered.unlogged, unencumbered.unheld⟩
    obtain ⟨second, secondEq⟩ := (afterFirst.delete_isOk_iff migrations_functional
      (fun _ _ image => image_isWorkflowOf image)).mpr secondRemovable
    have afterSecond := afterFirst.delete migrations_functional
      (fun _ _ image => image_isWorkflowOf image) secondEq
    have lastRemovable :=
      (project_removable_iff projectMem isProjectRow gone).mpr unencumbered.unpreviewed
    obtain ⟨left, lastEq⟩ := (afterSecond.delete_isOk_iff migrations_functional
      (fun _ _ image => image_isProject image)).mpr lastRemovable
    exact ⟨left, remove_eq_ok_iff.mpr ⟨first, second, firstEq, secondEq, lastEq⟩⟩

/-- Nothing of the project is left. -/
theorem gone_of_remains (remains : Remains migrations rows (Removed rows id) left) :
    Gone rows id left := by
  constructor
  · intro row rowMem
    obtain ⟨origin, originMem, stays, image⟩ := remains.origin row rowMem
    apply Bool.eq_false_of_not_eq_true
    intro isProjectRow
    exact stays (Or.inr (.asked originMem ((image_isProject image).symm.trans isProjectRow)))
  · intro row rowMem
    obtain ⟨origin, originMem, stays, image⟩ := remains.origin row rowMem
    apply Bool.eq_false_of_not_eq_true
    intro isWorkflow
    exact stays
      (Or.inl (Or.inr (.asked originMem ((image_isWorkflowOf image).symm.trans isWorkflow))))
  · intro row rowMem
    obtain ⟨origin, originMem, stays, image⟩ := remains.origin row rowMem
    apply Bool.eq_false_of_not_eq_true
    intro isVersion
    exact stays (Or.inl (Or.inl
      (Or.inr (.asked originMem ((image_isVersionOf image).symm.trans isVersion)))))

theorem Gone.append_entry (gone : Gone rows id left) (entryId : Uuid) :
    Gone rows id (left ++ [auditEntry entryId none]) := by
  constructor
  · intro row rowMem
    rcases List.mem_append.mp rowMem with old | new
    · exact gone.project row old
    · rw [List.mem_singleton.mp new]
      rfl
  · intro row rowMem
    rcases List.mem_append.mp rowMem with old | new
    · exact gone.workflows row old
    · rw [List.mem_singleton.mp new]
      rfl
  · intro row rowMem
    rcases List.mem_append.mp rowMem with old | new
    · exact gone.versions row old
    · rw [List.mem_singleton.mp new]
      rfl

/-- An entry that is about no workflow can be inserted where its identifier is free. -/
theorem insert_entry (draws : rows.Draws id) :
    insert (auditEntry id none) rows = (.ok (), rows ++ [auditEntry id none]) := by
  apply if_pos
  constructor
  · exact Option.isNone_iff_eq_none.mpr draws
  · intro key keyMem source other otherMem
    rw [(entries_refer_to key keyMem source).1] at otherMem
    cases otherMem

theorem draws_of_remains (remains : Remains migrations rows removed left) (draws : rows.Draws id) :
    Records.Draws left id := by
  apply Table.get?_eq_none_iff.mpr
  intro row rowMem keyEq
  obtain ⟨origin, originMem, _, image⟩ := remains.origin row rowMem
  apply Table.get?_eq_none_iff.mp draws origin originMem
  rw [← keyEq, Row.key, Row.key, image.table, image.id]

/-- Where the rows have distinct keys, a project can be deleted exactly if nothing holds its
workflows. -/
theorem deletable_iff_of_keyed {project : Record} (keyed : Table.Keyed Row.key rows)
    (projectMem : project ∈ rows) (isProjectRow : project.table = .project)
    (authorised : project.value .orgId = some orgId) {entryId : Uuid}
    (draws : rows.Draws entryId) :
    Deletable rows project.id orgId entryId ↔ Unencumbered rows project.id := by
  have named : isProject project.id project = true := isProject_iff.mpr ⟨isProjectRow, rfl⟩
  have found : findOne project.id orgId rows = (.ok project, rows) := by
    have foundEq : (rows.find? fun row => isProject project.id row &&
        row.value .orgId == some orgId) = some project := by
      apply Table.find?_eq_some_of_unique projectMem
      · simp [named, authorised]
      · intro other otherMem meets
        obtain ⟨isOther, _⟩ := (Bool.and_eq_true _ _).mp meets
        obtain ⟨table, sameId⟩ := isProject_iff.mp isOther
        exact keyed.eq otherMem projectMem (Prod.ext (table.trans isProjectRow.symm) sameId)
    rw [findOne, foundEq]
    rfl
  rw [← remove_commits_iff keyed projectMem named]
  constructor
  · intro deletable
    obtain ⟨left, deleteEq, _⟩ := deletable.commits
    rw [ProjectsService.delete, bind_of_ok found] at deleteEq
    obtain ⟨_, middle, removeEq, _⟩ := bind_eq_ok_iff.mp deleteEq
    exact ⟨middle, removeEq⟩
  · rintro ⟨left, removeEq⟩
    have remains := remains_of_remove keyed removeEq
    constructor
    · refine ⟨left ++ [auditEntry entryId none], ?_,
        (gone_of_remains remains).append_entry entryId⟩
      rw [ProjectsService.delete, bind_of_ok found, bind_of_ok removeEq]
      exact insert_entry (draws_of_remains remains draws)
    · intro fails other failure after failed
      exact (transaction_eq_error_iff.mp failed).1.symm

/-! ## Runs -/

/-- A condition on the tables that every statement keeps. -/
structure Stable (inv : Records → Prop) : Prop where
  inserts : ∀ row, Preserves inv (insert row)
  updates : ∀ row, Preserves inv (update row)
  deletes : ∀ target,
    (∀ removed origin row, Image migrations removed origin row → target row = target origin) →
      Preserves inv (deleteWhere target)

variable {inv : Records → Prop}

theorem preserves_statement {α : Type} {fails : Bool} {body : Statements α}
    (keeps : Preserves inv body) : Preserves inv (statement fails body) := by
  cases fails with
  | true => exact preserves_throwing
  | false => exact keeps

theorem Stable.preserves_remove (stable : Stable inv) {fails : Nat → Bool} {project : Record} :
    Preserves inv (remove fails project) := by
  apply Preserves.transaction
  refine Preserves.bind (preserves_statement readOnly_reading.preserves) ?_
  intro workflowIds
  apply Preserves.bind
  · rw [deleteVersions]
    split
    · exact readOnly_pure.preserves
    · exact preserves_statement (stable.deletes _ fun _ _ _ image => image_isVersionOf image)
  · intro _
    apply Preserves.bind
    · exact preserves_statement (stable.deletes _ fun _ _ _ image => image_isWorkflowOf image)
    · intro _
      exact preserves_statement (stable.deletes _ fun _ _ _ image => image_isProject image)

/-- Every request keeps what every statement keeps. -/
theorem Stable.preserves_handle (stable : Stable inv) (request : Request) :
    Preserves inv request.handle := by
  cases request with
  | createWorkflow fails ids projectId orgId =>
      apply Preserves.bind (preserves_statement (stable.inserts _))
      intro _
      apply Preserves.bind (preserves_statement (stable.inserts _))
      intro _
      refine Preserves.bind (preserves_statement readOnly_pure.preserves) ?_
      intro _
      exact preserves_statement (stable.inserts _)
  | deleteProject fails id orgId entryId =>
      apply Preserves.bind
      · intro rows holds
        rw [findOne]
        exact readOnly_orThrow.preserves rows holds
      · intro project
        apply Preserves.bind stable.preserves_remove
        intro _
        exact stable.inserts _
  | insert row => exact stable.inserts row
  | update row => exact stable.updates row
  | deleteRow table id =>
      apply stable.deletes
      intro removed origin row image
      rw [hasKey, hasKey, image.table, image.id]

/-- So does every run. -/
theorem Stable.run (stable : Stable inv) {requests : List Request} (holds : inv rows)
    (runEq : apiSystem.run rows requests = some left) : inv left := by
  apply Step.invariant_of_run ?_ holds runEq
  intro rows request next holds stepEq
  rw [← Option.some.inj stepEq]
  exact stable.preserves_handle request rows holds

theorem insert_eq (row : Record) :
    (insert row rows).2 = rows ∨
      (insert row rows).2 = rows ++ [row] ∧ Table.get? Row.key rows row.key = none := by
  rw [insert]
  split
  · rename_i inserted
    exact Or.inr ⟨rfl, Option.isNone_iff_eq_none.mp inserted.1⟩
  · exact Or.inl rfl

theorem update_eq (row : Record) :
    (update row rows).2 = rows ∨
      (update row rows).2 = Table.put Row.key rows row ∧ row.table ∉ fixedTables := by
  rw [update]
  split
  · split
    · rename_i admitted
      exact Or.inr ⟨rfl, admitted.1⟩
    · exact Or.inl rfl
  · exact Or.inl rfl

theorem deleteWhere_eq (target : Record → Bool) :
    (deleteWhere target rows).2 = rows ∨
      migrations.delete rows target = .ok (deleteWhere target rows).2 := by
  cases deleteEq : migrations.delete rows target with
  | ok next => exact Or.inr (by simp [deleteWhere, deleteEq])
  | error obstacle => exact Or.inl (by simp [deleteWhere, deleteEq])

/-- The rows have distinct keys in every run. -/
theorem stable_keyed : Stable (Table.Keyed Row.key) where
  inserts := by
    intro row rows keyed
    rcases insert_eq row with same | ⟨inserted, fresh⟩
    · rw [same]
      exact keyed
    · rw [inserted]
      exact Table.keyed_append keyed fresh
  updates := by
    intro row rows keyed
    rcases update_eq row with same | ⟨updated, _⟩
    · rw [same]
      exact keyed
    · rw [updated]
      exact Table.keyed_put keyed
  deletes := by
    intro target stable rows keyed
    rcases deleteWhere_eq target with same | deleteEq
    · rw [same]
      exact keyed
    · exact ((remains_refl keyed).delete migrations_functional (stable _) deleteEq).leftKeyed

/-- In every run, a project can be deleted by a member of its organization exactly if nothing holds
its workflows. -/
theorem deletable_iff {requests : List Request} (runEq : apiSystem.run [] requests = some rows)
    {project : Record} (projectMem : project ∈ rows) (isProjectRow : project.table = .project)
    (authorised : project.value .orgId = some orgId) {entryId : Uuid}
    (draws : rows.Draws entryId) :
    Deletable rows project.id orgId entryId ↔ Unencumbered rows project.id :=
  deletable_iff_of_keyed (stable_keyed.run Table.keyed_nil runEq) projectMem isProjectRow
    authorised draws

/-! ## Workflows that are created -/

/-- An entry of the audit log is about a workflow of the project. -/
def Logged (projectId : Uuid) (rows : Records) : Prop :=
  ∃ workflow ∈ rows, isWorkflowOf projectId workflow = true ∧
    ∃ entry ∈ rows, entry.table = .auditLog ∧ entry.value .workflowId = some workflow.id

theorem image_eq_of_fixed (image : Image migrations removed origin row)
    (fixed : origin.table ∈ fixedTables) : row = origin := by
  have values : row.value = origin.value := by
    funext column
    apply image_value image
    revert fixed
    cases origin.table <;> decide
  cases row
  cases origin
  simp only [Row.mk.injEq]
  exact ⟨image.table, image.id, values⟩

/-- A row of such a table stays as it is, unless it is deleted. -/
theorem mem_put_of_fixed (rowMem : row ∈ rows) (fixed : row.table ∈ fixedTables)
    (otherFree : other.table ∉ fixedTables) : row ∈ Table.put Row.key rows other := by
  apply Table.mem_put_iff.mpr
  right
  refine ⟨rowMem, ?_⟩
  intro sameKey
  have sameTable : row.table = other.table := congrArg Prod.fst sameKey
  exact otherFree (sameTable ▸ fixed)

/-- An entry of the audit log that is about a workflow of a project stays, and so does the
workflow. -/
theorem stable_logged {projectId : Uuid} :
    Stable (fun rows => Table.Keyed Row.key rows ∧ Logged projectId rows) where
  inserts := by
    rintro row rows ⟨keyed, workflow, workflowMem, isWorkflow, entry, entryMem, isEntry⟩
    refine ⟨stable_keyed.inserts row rows keyed, ?_⟩
    rcases insert_eq row with same | ⟨inserted, _⟩
    · rw [same]
      exact ⟨workflow, workflowMem, isWorkflow, entry, entryMem, isEntry⟩
    · rw [inserted]
      exact ⟨workflow, List.mem_append_left _ workflowMem, isWorkflow, entry,
        List.mem_append_left _ entryMem, isEntry⟩
  updates := by
    rintro row rows ⟨keyed, workflow, workflowMem, isWorkflow, entry, entryMem, isEntry⟩
    refine ⟨stable_keyed.updates row rows keyed, ?_⟩
    rcases update_eq row with same | ⟨updated, free⟩
    · rw [same]
      exact ⟨workflow, workflowMem, isWorkflow, entry, entryMem, isEntry⟩
    · rw [updated]
      have workflowFixed : workflow.table ∈ fixedTables := by
        rw [(isWorkflowOf_iff.mp isWorkflow).1]
        decide
      have entryFixed : entry.table ∈ fixedTables := by
        rw [isEntry.1]
        decide
      exact ⟨workflow, mem_put_of_fixed workflowMem workflowFixed free, isWorkflow, entry,
        mem_put_of_fixed entryMem entryFixed free, isEntry⟩
  deletes := by
    rintro target stable rows ⟨keyed, workflow, workflowMem, isWorkflow, entry, entryMem, isEntry⟩
    refine ⟨stable_keyed.deletes target stable rows keyed, ?_⟩
    rcases deleteWhere_eq target with same | deleteEq
    · rw [same]
      exact ⟨workflow, workflowMem, isWorkflow, entry, entryMem, isEntry⟩
    · have removable := ((delete_eq_ok_iff keyed.nodup).mp deleteEq).1
      have remains := (remains_refl keyed).delete migrations_functional (stable _) deleteEq
      -- the entry cannot be deleted, and it would be deleted with the workflow
      have entryStays : ¬ (False ∨ Under migrations rows target entry) := by
        rintro (isFalse | under)
        · exact isFalse
        · have deletable := removable.deletable entry under (fun isFalse => isFalse)
          rw [isEntry.1] at deletable
          cases deletable
      have workflowStays : ¬ (False ∨ Under migrations rows target workflow) := by
        rintro (isFalse | under)
        · exact isFalse
        · apply entryStays
          right
          apply Under.cascades entryMem under
          exact ⟨⟨.auditLog, .workflowId, .workflow, .cascade⟩, by decide, rfl, isEntry.1,
            (isWorkflowOf_iff.mp isWorkflow).1, isEntry.2⟩
      have workflowFixed : workflow.table ∈ fixedTables := by
        rw [(isWorkflowOf_iff.mp isWorkflow).1]
        decide
      have entryFixed : entry.table ∈ fixedTables := by
        rw [isEntry.1]
        decide
      obtain ⟨keptWorkflow, keptWorkflowMem, workflowImage⟩ :=
        remains.image workflow workflowMem workflowStays
      obtain ⟨keptEntry, keptEntryMem, entryImage⟩ := remains.image entry entryMem entryStays
      rw [image_eq_of_fixed workflowImage workflowFixed] at keptWorkflowMem
      rw [image_eq_of_fixed entryImage entryFixed] at keptEntryMem
      exact ⟨workflow, keptWorkflowMem, isWorkflow, entry, keptEntryMem, isEntry⟩

theorem of_statement_ok {fails : Bool} {α : Type} {body : Statements α} {result : α}
    (statementEq : statement fails body rows = (.ok result, left)) :
    body rows = (.ok result, left) := by
  cases fails with
  | true => cases statementEq
  | false => exact statementEq

theorem of_insert_ok {done : Unit} (insertEq : insert row rows = (.ok done, left)) :
    rows ++ [row] = left := by
  rw [insert] at insertEq
  split at insertEq
  · exact congrArg Prod.snd insertEq
  · cases insertEq

/-- A creation that returns has written an entry of the audit log. -/
theorem logged_of_create {fails : Nat → Bool} {ids : DrawnIds} {projectId : Uuid}
    (createEq : WorkflowsService.create fails ids projectId orgId rows = (.ok (), left)) :
    Logged projectId left := by
  obtain ⟨_, first, firstEq, restEq⟩ := bind_eq_ok_iff.mp createEq
  obtain ⟨_, second, secondEq, restEq⟩ := bind_eq_ok_iff.mp restEq
  obtain ⟨_, third, thirdEq, lastEq⟩ := bind_eq_ok_iff.mp restEq
  obtain rfl := of_insert_ok (of_statement_ok firstEq)
  obtain rfl := of_insert_ok (of_statement_ok secondEq)
  obtain ⟨_, rfl⟩ := pure_eq_ok_iff.mp (of_statement_ok thirdEq)
  obtain rfl := of_insert_ok (of_statement_ok lastEq)
  refine ⟨workflowRow ids.workflow projectId orgId, ?_, ?_,
    auditEntry ids.entry (some ids.workflow), ?_, rfl, rfl⟩
  · simp
  · exact isWorkflowOf_iff.mpr ⟨rfl, rfl⟩
  · simp

/-- A project in which a workflow has been created can never be deleted again. -/
theorem never_deletable {fails : Nat → Bool} {ids : DrawnIds} {projectId : Uuid}
    {before after : List Request} {created : Records}
    (beforeEq : apiSystem.run [] before = some rows)
    (createEq : WorkflowsService.create fails ids projectId orgId rows = (.ok (), created))
    (afterEq : apiSystem.run created after = some left) : ¬ Unencumbered left projectId := by
  have keyed := stable_keyed.run Table.keyed_nil beforeEq
  have createdKeyed := stable_keyed.preserves_handle
    (.createWorkflow fails ids projectId orgId) rows keyed
  have createdEq : ((Request.createWorkflow fails ids projectId orgId).handle rows).2 = created :=
    congrArg Prod.snd createEq
  rw [createdEq] at createdKeyed
  obtain ⟨_, workflow, workflowMem, isWorkflow, entry, entryMem, isEntry, about⟩ :=
    stable_logged.run ⟨createdKeyed, logged_of_create createEq⟩ afterEq
  intro unencumbered
  exact unencumbered.unlogged entry entryMem isEntry workflow workflowMem isWorkflow about

/-! ## Examples -/

/-- A project of an organization. -/
def exampleProject : Record where
  table := .project
  id := uuid "project"
  value := fun column => if column = .orgId then some (uuid "org") else none

/-- The identifiers that the database draws for the workflow of the examples. -/
def exampleIds : DrawnIds := ⟨uuid "workflow", uuid "version", uuid "entry"⟩

/-- A workflow is created in the project, up to a statement that fails. -/
def exampleCreation (fails : Nat → Bool) : List Request :=
  [.insert exampleProject, .createWorkflow fails exampleIds (uuid "project") (uuid "org")]

/-- A row with one reference. -/
def exampleReference (table : Entity) (column : Column) (id : Uuid) : Record where
  table := table
  id := uuid "reference"
  value := fun other => if other = column then some id else none

/-- The tables after some requests. -/
def exampleRows (requests : List Request) : Records :=
  requests.foldl (fun rows request => (request.handle rows).2) []

theorem exampleRows_run (requests : List Request) :
    apiSystem.run [] requests = some (exampleRows requests) :=
  Step.run_ofTotal _ _ _

/-- The creation of the workflow has failed at its last statement, and a session has been opened:
the project can be deleted. -/
def exampleUnlogged : List Request :=
  exampleCreation (fun index => index == 3) ++
    [.insert (exampleReference .session .workflowId (uuid "workflow"))]

/-- The result of the deletion of the project. -/
def exampleDeletion (requests : List Request) : Except Failure Unit × Records :=
  ProjectsService.delete (fun _ => false) (uuid "project") (uuid "org") (uuid "deletion")
    (exampleRows requests)

/-- The project is among some rows. -/
def Records.exampleListed (rows : Records) : Bool :=
  rows.any fun row => isProject (uuid "project") row && row.value .orgId == some (uuid "org")

theorem example_mem (listed : rows.exampleListed = true) :
    ∃ project ∈ rows, project.table = .project ∧ project.id = uuid "project" ∧
      project.value .orgId = some (uuid "org") := by
  obtain ⟨project, projectMem, meets⟩ := List.any_eq_true.mp listed
  obtain ⟨named, authorised⟩ := (Bool.and_eq_true _ _).mp meets
  obtain ⟨table, sameId⟩ := isProject_iff.mp named
  exact ⟨project, projectMem, table, sameId, beq_iff_eq.mp authorised⟩

theorem deletable_iff_example :
    Deletable (exampleRows exampleUnlogged) (uuid "project") (uuid "org") (uuid "deletion") := by
  have draws : (exampleRows exampleUnlogged).Draws (uuid "deletion") := by
    apply Option.isNone_iff_eq_none.mp
    decide +kernel
  have listed : (exampleRows exampleUnlogged).exampleListed = true := by decide +kernel
  obtain ⟨project, projectMem, table, sameId, authorised⟩ := example_mem listed
  have commits : ∃ left, remove (fun _ => false) project (exampleRows exampleUnlogged) =
      (.ok (), left) := by
    have isOk : (remove (fun _ => false) exampleProject
        (exampleRows exampleUnlogged)).1.isOk = true := by
      decide +kernel
    have same : remove (fun _ => false) project = remove (fun _ => false) exampleProject := by
      rw [remove, remove, sameId]
      rfl
    rw [same]
    rcases removeEq : remove (fun _ => false) exampleProject (exampleRows exampleUnlogged) with
      ⟨failure | done, left⟩
    · rw [removeEq] at isOk
      cases isOk
    · exact ⟨left, rfl⟩
  have keyed : Table.Keyed Row.key (exampleRows exampleUnlogged) :=
    stable_keyed.run Table.keyed_nil (exampleRows_run exampleUnlogged)
  have unencumbered : Unencumbered (exampleRows exampleUnlogged) project.id :=
    (remove_commits_iff keyed projectMem (isProject_iff.mpr ⟨table, rfl⟩)).mp commits
  rw [← sameId]
  exact (deletable_iff (exampleRows_run exampleUnlogged) projectMem table authorised draws).mpr
    unencumbered

/-- After some requests, a member of its organization cannot delete the project. -/
def ExampleStays (requests : List Request) : Prop :=
  ∃ rows, apiSystem.run [] requests = some rows ∧ ∃ project ∈ rows, project.table = .project ∧
    project.value .orgId = some (uuid "org") ∧
      ¬ Deletable rows project.id (uuid "org") (uuid "deletion")

/-- A workflow whose creation is logged stays in the way of the deletion, and so do a rule for a
workflow and a graph snapshot of one of its versions. -/
theorem project_stays :
    ExampleStays (exampleCreation fun _ => false) ∧
      ExampleStays (exampleCreation (fun index => index == 3) ++
        [.insert (exampleReference .rule .workflowId (uuid "workflow"))]) ∧
      ExampleStays (exampleCreation (fun index => index == 3) ++
        [.insert (exampleReference .workflowGraphSnapshot .workflowVersionId
          (uuid "version"))]) := by
  have stays : ∀ requests, (exampleRows requests).exampleListed = true →
      (exampleDeletion requests).1.isOk = false → ExampleStays requests := by
    intro requests listed failed
    obtain ⟨project, projectMem, table, sameId, authorised⟩ := example_mem listed
    refine ⟨_, exampleRows_run requests, project, projectMem, table, authorised, ?_⟩
    rintro ⟨⟨left, deleteEq, _⟩, _⟩
    rw [sameId] at deleteEq
    rw [exampleDeletion, deleteEq] at failed
    cases failed
  refine ⟨stays _ ?_ ?_, stays _ ?_ ?_, stays _ ?_ ?_⟩ <;> decide +kernel

end Manbaa.Projects
