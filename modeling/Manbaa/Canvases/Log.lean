import Manbaa.Canvases.Steps
import Manbaa.Lib.Journal
import Manbaa.Lib.Run

/-!
# The operation log of a canvas

The canvases of a running system are a family of numbered journals: a call that
commits appends one operation under the next number, and every other action is
silent.  The revision of a canvas is the length of its journal.

An operation is compared without its object reference, which the removal of an
object clears.
-/

namespace Manbaa.Canvases

open Manbaa.Lib

/-- The running system. -/
def system (host : Host) : Step Db Action := Step.ofTotal (act host)

/-- The revision of a canvas; a canvas that does not exist is at zero. -/
def Db.revision (db : Db) (id : Uuid) : Nat := (db.canvas? id).elim 0 Canvas.revision

/-- The journals that the operation table keeps. -/
def Db.journals (db : Db) : Journals Uuid CanvasOperation :=
  Journals.ofRows CanvasOperation.canvasId (db.operations.map CanvasOperation.entry)

/-- Every log is numbered without gaps, up to the revision of its canvas. -/
structure Db.Journalled (db : Db) : Prop where
  keyed : Table.Keyed Canvas.id db.canvases
  numbered : db.journals.Numbered CanvasOperation.sequenceNumber
  length : ∀ id, (db.journals id).length = db.revision id

/-- No canvas has been changed yet. -/
structure Db.Initial (db : Db) : Prop where
  keyed : Table.Keyed Canvas.id db.canvases
  unrevised : ∀ canvas ∈ db.canvases, canvas.revision = 0
  unlogged : db.operations = []

/-- One operation is appended to the log of one canvas, under the number that
follows its revision, and nothing else happens to any log or revision. -/
structure AppendsOne (db next : Db) (canvasId : Uuid) (operation : CanvasOperation) : Prop where
  canvasIdEq : operation.canvasId = canvasId
  numberEq : operation.sequenceNumber = db.revision canvasId + 1
  operations : next.operations.map CanvasOperation.entry =
    db.operations.map CanvasOperation.entry ++ [operation.entry]
  revisionEq : next.revision canvasId = operation.sequenceNumber
  others : ∀ other canvas, other ≠ canvasId → db.canvas? other = some canvas →
    next.canvas? other = some canvas

/-- No canvas, object or operation that exists is changed, and a canvas that is
new is empty. -/
structure Unchanged (db next : Db) : Prop where
  objects : next.objects = db.objects
  operations : next.operations = db.operations
  canvases : db.canvases <+: next.canvases
  revision : ∀ id, next.revision id = db.revision id

variable {host : Host} {canvas : Canvas} {operation : CanvasOperation} {db next : Db}

/-! ## What the steps do to the journals -/

theorem journals_apply (db : Db) (id : Uuid) :
    db.journals id = (db.log id).map CanvasOperation.entry := by
  rw [Db.journals, Journals.ofRows, Db.log, List.filter_map]
  rfl

theorem map_sequenceNumber_log (db : Db) (id : Uuid) :
    (db.log id).map CanvasOperation.sequenceNumber =
      (db.journals id).map CanvasOperation.sequenceNumber := by
  rw [journals_apply, List.map_map]
  rfl

@[simp]
theorem entry_forget (gone : Uuid) (operation : CanvasOperation) :
    (operation.forget gone).entry = operation.entry := by
  unfold CanvasOperation.forget
  split <;> rfl

theorem Opened.revision (step : Opened db next) (id : Uuid) :
    next.revision id = db.revision id := by
  cases step with
  | found => rfl
  | created newId workflow _ fresh _ =>
      rw [Db.revision, Db.canvas?, Table.get?_append]
      by_cases h : newId = id
      · subst id
        rw [Db.canvas?] at fresh
        simp [Db.revision, Db.canvas?, fresh, newCanvas]
      · simp [Db.revision, Db.canvas?, newCanvas, h]

theorem Opened.keyed (step : Opened db next) (keyed : Table.Keyed Canvas.id db.canvases) :
    Table.Keyed Canvas.id next.canvases := by
  cases step with
  | found => exact keyed
  | created newId workflow _ fresh _ => exact Table.keyed_append keyed fresh

theorem Opened.isPrefix (step : Opened db next) : db.canvases <+: next.canvases := by
  cases step with
  | found => exact List.prefix_refl _
  | created => exact List.prefix_append _ _

theorem Opened.unchanged (step : Opened db next) : Unchanged db next :=
  ⟨step.objects, step.operations, step.isPrefix, step.revision⟩

theorem Edited.entries (step : Edited host operation db next) :
    next.operations.map CanvasOperation.entry = db.operations.map CanvasOperation.entry := by
  cases step with
  | removed object =>
      rw [List.map_map]
      exact List.map_congr_left fun old _ => entry_forget object.id old
  | _ => rfl

theorem Edited.revision (step : Edited host operation db next) (id : Uuid) :
    next.revision id = db.revision id := by
  rw [Db.revision, Db.canvas?, step.canvases]
  rfl

theorem Appended.revision (step : Appended host canvas operation db next) :
    next.revision canvas.id = operation.sequenceNumber := by
  rw [Db.revision, step.canvas?, if_pos rfl, step.numberEq]
  rfl

theorem Appended.entries (step : Appended host canvas operation db next) :
    next.operations.map CanvasOperation.entry =
      db.operations.map CanvasOperation.entry ++ [operation.stored.entry] := by
  rw [step.nextEq, List.map_append, List.map_singleton]

/-- A committed call appends one operation. -/
theorem Committed.appendsOne (step : Committed host canvas operation db next) :
    AppendsOne db next canvas.id operation.stored := by
  obtain ⟨opened, edited, openStep, editStep, appendStep⟩ := step.steps
  have before : edited.revision canvas.id = canvas.revision := by
    rw [Db.revision, appendStep.canvasEq]
    rfl
  constructor
  · exact appendStep.canvasIdEq
  · rw [← openStep.revision, ← editStep.revision, before]
    exact appendStep.numberEq
  · rw [appendStep.entries, editStep.entries, openStep.operations]
  · exact appendStep.revision
  · intro other old ne oldEq
    rw [appendStep.canvas?, if_neg (Ne.symm ne), Db.canvas?, editStep.canvases]
    exact openStep.canvas? oldEq

theorem journals_of_entries
    (entries : next.operations.map CanvasOperation.entry =
      db.operations.map CanvasOperation.entry) : next.journals = db.journals := by
  rw [Db.journals, entries]
  rfl

/-- An appended operation is one entry more in the journal of its canvas. -/
theorem AppendsOne.journals {canvasId : Uuid} (step : AppendsOne db next canvasId operation) :
    next.journals = db.journals.append canvasId operation.entry := by
  rw [Db.journals, step.operations, Journals.ofRows_append, CanvasOperation.entry_canvasId,
    step.canvasIdEq]
  rfl

theorem Committed.revision_of_ne (step : Committed host canvas operation db next) {id : Uuid}
    (ne : id ≠ canvas.id) : next.revision id = db.revision id := by
  obtain ⟨opened, edited, openStep, editStep, appendStep⟩ := step.steps
  rw [← openStep.revision, ← editStep.revision, Db.revision, appendStep.canvas?,
    if_neg (Ne.symm ne)]
  rfl

theorem Committed.keyed (step : Committed host canvas operation db next)
    (keyed : Table.Keyed Canvas.id db.canvases) : Table.Keyed Canvas.id next.canvases := by
  obtain ⟨opened, edited, openStep, editStep, appendStep⟩ := step.steps
  have editedKeyed : Table.Keyed Canvas.id edited.canvases := by
    rw [editStep.canvases]
    exact openStep.keyed keyed
  rw [appendStep.nextEq]
  exact Table.keyed_save editedKeyed

/-! ## The service refines the journals -/

/-- A silent step: neither an entry nor a revision changes. -/
theorem Db.Journalled.silent (journalled : db.Journalled)
    (keyed : Table.Keyed Canvas.id next.canvases)
    (entries : next.operations.map CanvasOperation.entry =
      db.operations.map CanvasOperation.entry)
    (revision : ∀ id, next.revision id = db.revision id) : next.Journalled where
  keyed := keyed
  numbered := by
    rw [journals_of_entries entries]
    exact journalled.numbered
  length := by
    intro id
    rw [journals_of_entries entries, revision]
    exact journalled.length id

theorem Opened.journalled (step : Opened db next) (journalled : db.Journalled) :
    next.Journalled := by
  apply journalled.silent (step.keyed journalled.keyed)
  · rw [step.operations]
  · exact step.revision

theorem Committed.journalStep (step : Committed host canvas operation db next)
    (journalled : db.Journalled) :
    Journals.Next CanvasOperation.sequenceNumber db.journals next.journals := by
  rw [step.appendsOne.journals]
  apply Journals.Next.append
  rw [journalled.length]
  exact step.appendsOne.numberEq

theorem Committed.journalled (step : Committed host canvas operation db next)
    (journalled : db.Journalled) : next.Journalled where
  keyed := step.keyed journalled.keyed
  numbered := journalled.numbered.next (step.journalStep journalled)
  length := by
    intro id
    rw [step.appendsOne.journals]
    by_cases h : id = canvas.id
    · subst id
      rw [Journals.append_self, List.length_append, journalled.length,
        step.appendsOne.revisionEq, step.appendsOne.numberEq]
      rfl
    · rw [Journals.append_of_ne h, journalled.length, step.revision_of_ne h]

/-- What an action does: a call opens its canvas or commits, and the other
actions touch neither log nor revision. -/
theorem act_cases (host : Host) (db : Db) (action : Action) :
    Opened db (act host db action) ∨
      (∃ canvas operation, Committed host canvas operation db (act host db action)) ∨
      (∃ canvasId workspaceId, act host db action = db.bindWorkspace canvasId workspaceId) ∨
      ∃ members, act host db action = { db with members := members } := by
  cases action with
  | call ids call =>
      rcases callEq : call.perform host ids ⟨db, []⟩ with ⟨result, target⟩
      have actEq : act host db (.call ids call) = target.db := by
        rw [act, callEq]
      rw [actEq]
      cases result with
      | error exception => exact Or.inl (call.perform_throws callEq)
      | ok reply =>
          rcases call.perform_returns callEq with ⟨_, opened⟩ | ⟨_, committed⟩
          · exact Or.inl opened
          · exact Or.inr (Or.inl committed)
  | bindWorkspace canvasId workspaceId => exact Or.inr (Or.inr (Or.inl ⟨_, _, rfl⟩))
  | setMembers members => exact Or.inr (Or.inr (Or.inr ⟨_, rfl⟩))

theorem bindWorkspace_cases (db : Db) (canvasId workspaceId : Uuid) :
    db.bindWorkspace canvasId workspaceId = db ∨
      ∃ canvas workflow, db.canvas? canvas.id = some canvas ∧ canvas.workspaceId = none ∧
        db.workflow? canvas.workflowId = some workflow ∧
        ⟨workspaceId, workflow.orgId⟩ ∈ db.workspaces ∧
        db.bindWorkspace canvasId workspaceId =
          { db with
            canvases := Table.save Canvas.id db.canvases
              { canvas with workspaceId := some workspaceId } } := by
  unfold Db.bindWorkspace
  cases canvasEq : db.canvas? canvasId with
  | none => exact Or.inl rfl
  | some canvas =>
      dsimp only
      split
      · rename_i bindable
        obtain ⟨unbound, inOrganization⟩ := bindable
        obtain ⟨workflow, workflowEq, workspaceMem⟩ := Option.any_eq_true .. |>.mp inOrganization
        refine Or.inr ⟨canvas, workflow, canvas?_id canvasEq, ?_, workflowEq, ?_, rfl⟩
        · simpa using unbound
        · simpa using workspaceMem
      · exact Or.inl rfl

theorem bindWorkspace_revision (db : Db) (canvasId workspaceId id : Uuid) :
    (db.bindWorkspace canvasId workspaceId).revision id = db.revision id := by
  rcases bindWorkspace_cases db canvasId workspaceId with same | ⟨canvas, _, canvasEq, _, _, _, bound⟩
  · rw [same]
  · rw [bound, Db.revision, Db.canvas?, Table.get?_save]
    by_cases h : canvas.id = id
    · subst id
      simp [Db.revision, canvasEq]
    · simp [Db.revision, Db.canvas?, h]

theorem bindWorkspace_keyed {canvasId workspaceId : Uuid}
    (keyed : Table.Keyed Canvas.id db.canvases) :
    Table.Keyed Canvas.id (db.bindWorkspace canvasId workspaceId).canvases := by
  rcases bindWorkspace_cases db canvasId workspaceId with same | ⟨_, _, _, _, _, _, bound⟩
  · rw [same]
    exact keyed
  · rw [bound]
    exact Table.keyed_save keyed

theorem bindWorkspace_operations (db : Db) (canvasId workspaceId : Uuid) :
    (db.bindWorkspace canvasId workspaceId).operations = db.operations := by
  rcases bindWorkspace_cases db canvasId workspaceId with same | ⟨_, _, _, _, _, _, bound⟩
  · rw [same]
  · rw [bound]

/-- Every action is one step of the journals. -/
theorem act_journalStep (host : Host) (action : Action) (journalled : db.Journalled) :
    Journals.Next CanvasOperation.sequenceNumber db.journals (act host db action).journals := by
  rcases act_cases host db action with opened | ⟨_, _, committed⟩ | ⟨_, _, bound⟩ | ⟨_, set⟩
  · rw [journals_of_entries (congrArg _ opened.operations)]
    exact Journals.Next.silent
  · exact committed.journalStep journalled
  · rw [bound, journals_of_entries (congrArg _ (bindWorkspace_operations db _ _))]
    exact Journals.Next.silent
  · rw [set]
    exact Journals.Next.silent

theorem act_journalled (host : Host) (action : Action) (journalled : db.Journalled) :
    (act host db action).Journalled := by
  rcases act_cases host db action with opened | ⟨_, _, committed⟩ | ⟨_, _, bound⟩ | ⟨_, set⟩
  · exact opened.journalled journalled
  · exact committed.journalled journalled
  · rw [bound]
    apply journalled.silent (bindWorkspace_keyed journalled.keyed)
    · rw [bindWorkspace_operations]
    · exact bindWorkspace_revision db _ _
  · rw [set]
    exact ⟨journalled.keyed, journalled.numbered, journalled.length⟩

theorem Db.Initial.journalled (initial : db.Initial) : db.Journalled := by
  have empty : ∀ id, db.journals id = [] := by
    intro id
    rw [journals_apply, Db.log, initial.unlogged]
    rfl
  refine ⟨initial.keyed, ?_, ?_⟩
  · intro id
    rw [empty]
    rfl
  · intro id
    rw [empty, Db.revision]
    cases canvasEq : db.canvas? id with
    | none => rfl
    | some canvas => exact (initial.unrevised canvas (Table.mem_of_get? canvasEq)).symm

theorem journalled_of_run {start : Db} {actions : List Action} (initial : start.Initial)
    (reached : (system host).run start actions = some db) : db.Journalled := by
  apply Step.invariant_of_run _ initial.journalled reached
  intro state action later journalled stepEq
  cases stepEq
  exact act_journalled host action journalled

/-- A log is never rewritten. -/
theorem log_isPrefix_of_run {later : Db} {actions : List Action} (journalled : db.Journalled)
    (reached : (system host).run db actions = some later) (id : Uuid) :
    (db.log id).map CanvasOperation.entry <+: (later.log id).map CanvasOperation.entry := by
  induction actions generalizing db with
  | nil =>
      cases reached
      exact List.prefix_refl _
  | cons action rest ih =>
      have restEq : (system host).run (act host db action) rest = some later := reached
      have step := (act_journalStep host action journalled).isPrefix id
      rw [journals_apply, journals_apply] at step
      exact step.trans (ih (act_journalled host action journalled) restEq)

/-- The log of every canvas is gapless and agrees with the revision counter: in
every state that a system without operations reaches, the operations of a canvas
are numbered from one to its revision; a call that returns, unless it repeats a
stored operation, appends one operation under the number that follows the
revision; a call that throws changes nothing. -/
theorem log_gapless (host : Host) {start db : Db} {actions : List Action}
    (initial : start.Initial) (reached : (system host).run start actions = some db) :
    (∀ canvas ∈ db.canvases,
      (db.log canvas.id).map CanvasOperation.sequenceNumber = List.range' 1 canvas.revision) ∧
    (∀ (ids : GeneratedIds) (call : Call) (reply : Reply) (target : World),
      call.perform host ids ⟨db, []⟩ = (.ok reply, target) → call.isReplay db = false →
      ∃ canvasId operation, AppendsOne db target.db canvasId operation) ∧
    (∀ (ids : GeneratedIds) (call : Call) (exception : Exception) (target : World),
      call.perform host ids ⟨db, []⟩ = (.error exception, target) → Unchanged db target.db) := by
  have journalled := journalled_of_run initial reached
  refine ⟨?_, ?_, ?_⟩
  · intro canvas canvasMem
    have canvasEq : db.canvas? canvas.id = some canvas := journalled.keyed.get?_of_mem canvasMem
    rw [map_sequenceNumber_log, journalled.numbered, journalled.length, Db.revision, canvasEq]
    rfl
  · intro ids call reply target callEq notReplay
    rcases call.perform_returns callEq with ⟨replay, _⟩ | ⟨_, canvas, operation, committed⟩
    · rw [replay] at notReplay
      cases notReplay
    · exact ⟨_, _, committed.appendsOne⟩
  · intro ids call exception target callEq
    exact (call.perform_throws callEq).unchanged

/-! ## An example -/

/-- The text of a whole number. -/
def exampleText (number : Number) : String := toString number.num

/-- A deployed service. -/
def exampleHost : Host := deployed exampleText

/-- A caller with an editing legacy role. -/
def exampleCaller : RequestUser := ⟨uuid "user", uuid "org", "admin"⟩

/-- Identifiers for the rows of one call. -/
def exampleIds : GeneratedIds := ⟨uuid "canvas", uuid "object", uuid "operation"⟩

/-- One workflow of one organization, with no canvas yet. -/
def exampleStart : Db where
  workflows := [⟨uuid "workflow", uuid "org", none⟩]
  workspaces := [⟨uuid "workspace", uuid "org"⟩]
  users := [uuid "user"]
  members :=
    ⟨[⟨uuid "org", uuid "user", true⟩],
      [⟨uuid "org", uuid "workspace", uuid "user", .editor, .active⟩]⟩
  canvases := []
  objects := []
  operations := []

/-- The creation of an activity on the canvas of the workflow. -/
def exampleCreation : Action :=
  .call exampleIds (.createObject "workflow" ⟨"activity", none, none, none, 1, 2, none, none, none⟩
    exampleCaller)

/-- The database after the creation. -/
def exampleDb : Db := act exampleHost exampleStart exampleCreation

theorem exampleStart_initial : exampleStart.Initial :=
  ⟨List.nodup_nil, by decide, rfl⟩

theorem log_gapless_example :
    exampleDb.operations.length = 1 ∧
    ∀ canvas ∈ exampleDb.canvases,
      (exampleDb.log canvas.id).map CanvasOperation.sequenceNumber =
        List.range' 1 canvas.revision := by
  have reached : (system exampleHost).run exampleStart [exampleCreation] = some exampleDb := rfl
  exact ⟨by decide, (log_gapless exampleHost exampleStart_initial reached).1⟩

end Manbaa.Canvases
