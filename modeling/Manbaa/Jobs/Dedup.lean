import Manbaa.Jobs.PreviewSteps
import Manbaa.Lib.Run

/-!
# Which task answers a preview request

A request is answered with the task under its key, with an active task of its
target at the same revision, or with a new task.  The second lookup compares the
text of a stored target with the text of a literal: a stored target starts with
another key than a literal, so the two never agree and the lookup finds nothing.
The first one compares keys alone.
-/

namespace Manbaa.Jobs

open Manbaa.Lib Manbaa.Lib.Effect Manbaa.Workspaces Manbaa.Canvases Manbaa.Usage

/-! ## Stored targets -/

/-- The first key of a stored target. -/
theorem jsonb_target (target : NormalizedPreviewTarget) :
    ∃ rest, target.json.jsonb = .obj (("autoApply", .bool false) :: rest) :=
  ⟨_, rfl⟩

/-- The text of an object starts with its first key. -/
theorem chars_obj (numberText : ℚ → String) (key : String) (value : Json) (rest : Json.Fields) :
    ∃ tail, Json.chars numberText (.obj ((key, value) :: rest)) =
      '{' :: '"' :: (key.toList.flatMap Json.escape ++ tail) := by
  simp only [Json.chars, Json.charsFields, Json.quote, List.not_mem_nil, if_false, if_true,
    List.nil_append, List.cons_append, List.append_assoc]
  exact ⟨_, rfl⟩

/-- A stored target is never recognised, whatever it is. -/
theorem sameTarget_stored (host : Host) (stored target : NormalizedPreviewTarget) :
    sameTarget host stored.json.jsonb target = false := by
  obtain ⟨rest, storedEq⟩ := jsonb_target stored
  obtain ⟨storedTail, storedChars⟩ :=
    chars_obj host.numberText "autoApply" (.bool false) rest
  obtain ⟨targetTail, targetChars⟩ :=
    chars_obj host.numberText "operation" (.str target.operation.text) _
  have storedKey : "autoApply".toList.flatMap Json.escape = "autoApply".toList := by decide
  have targetKey : "operation".toList.flatMap Json.escape = "operation".toList := by decide
  rw [sameTarget, storedEq, beq_eq_false_iff_ne]
  intro same
  have chars := String.ofList_injective same
  rw [storedChars, NormalizedPreviewTarget.json, targetChars, storedKey, targetKey] at chars
  simp at chars

/-! ## Histories -/

/-- What happens on a platform: a preview request, a change of a canvas, or an
event of a task that is not over. -/
inductive PreviewAction where
  | create (request : PreviewRequest)
  | edit (canvasId : Uuid)
  | move (taskId : Uuid) (status : JobStatus)

/-- The task has another status, if it was not over. -/
def AiTask.move (task : AiTask) (taskId : Uuid) (status : JobStatus) : AiTask :=
  if task.id = taskId ∧ task.active then { task with status := status } else task

/-- The platform after an action. -/
def Platform.after (host : Host) (platform : Platform) : PreviewAction → Platform
  | .create request => (create host request platform).2
  | .edit canvasId =>
      { platform with
        db := platform.db.setCanvases (platform.db.canvases.map fun canvas =>
          if canvas.id = canvasId then canvas.advance else canvas) }
  | .move taskId status =>
      { platform with
        db := { platform.db with
          tasks := platform.db.tasks.map fun task => task.move taskId status } }

/-- Histories of the service. -/
def previewSystem (host : Host) : Step Platform PreviewAction :=
  Step.ofTotal (Platform.after host)

/-- Two active tasks of a canvas have the same revision and the same target. -/
def AiTask.Repeats (first second : AiTask) : Prop :=
  first.active = true ∧ second.active = true ∧ first.canvasId.isSome = true ∧
    first.canvasId = second.canvasId ∧ first.canvasRevision = second.canvasRevision ∧
    Json.Same first.requestPayload second.requestPayload

instance (first second : AiTask) : Decidable (first.Repeats second) :=
  inferInstanceAs (Decidable (_ ∧ _))

/-- No active task repeats another one. -/
def PlatformDb.Deduplicated (db : PlatformDb) : Prop :=
  ∀ first ∈ db.tasks, ∀ second ∈ db.tasks, first ≠ second → ¬ first.Repeats second

instance (db : PlatformDb) : Decidable db.Deduplicated :=
  inferInstanceAs (Decidable (∀ first ∈ db.tasks, ∀ second ∈ db.tasks, _))

/-- The request does not reuse its key for another target, and under a new key it
does not ask for what an active task of the canvas does at its revision. -/
def PreviewCall.Distinct (db : PlatformDb) (call : PreviewCall) : Prop :=
  match db.previewTask? call with
  | some task => Json.Same task.requestPayload call.target.json
  | none => ∀ canvas ∈ db.canvas? (uuid call.canvasId), ∀ task ∈ db.tasks,
      task.active = true → task.canvasId = some (uuid call.canvasId) →
      task.canvasRevision = some canvas.revision →
      ¬ Json.Same task.requestPayload call.target.json

instance (db : PlatformDb) (call : PreviewCall) : Decidable (call.Distinct db) :=
  match keyEq : db.previewTask? call with
  | some task =>
      decidable_of_iff (Json.Same task.requestPayload call.target.json) <| by
        simp [PreviewCall.Distinct, keyEq]
  | none =>
      decidable_of_iff (∀ canvas ∈ db.canvas? (uuid call.canvasId), ∀ task ∈ db.tasks,
          task.active = true → task.canvasId = some (uuid call.canvasId) →
          task.canvasRevision = some canvas.revision →
          ¬ Json.Same task.requestPayload call.target.json) <| by
        simp [PreviewCall.Distinct, keyEq]

/-- The condition on histories: every request that passes the first checks is
distinct. -/
def DistinctRequests (host : Host) (platform : Platform) : PreviewAction → Prop
  | .create request => ∀ call, (prepare host request platform.db).1 = .ok call →
      call.Distinct platform.db
  | _ => True

instance (host : Host) (platform : Platform) (action : PreviewAction) :
    Decidable (DistinctRequests host platform action) :=
  match action with
  | .create request =>
      match prepareEq : (prepare host request platform.db).1 with
      | .ok call =>
          decidable_of_iff (call.Distinct platform.db) <| by
            simp [DistinctRequests, prepareEq]
      | .error _ => .isTrue fun _ given => nomatch prepareEq.symm.trans given
  | .edit _ => .isTrue trivial
  | .move _ _ => .isTrue trivial

/-! ## What histories keep -/

/-- Tasks are told apart by their identifiers, those of a canvas hold a target,
and none repeats another. -/
structure PlatformDb.Exact (db : PlatformDb) : Prop where
  keyed : Table.Keyed AiTask.id db.tasks
  targets : ∀ task ∈ db.tasks, task.canvasId.isSome = true →
    ∃ target : NormalizedPreviewTarget, task.requestPayload = target.json.jsonb
  deduplicated : db.Deduplicated

variable {host : Host} {db : PlatformDb} {call : PreviewCall}

theorem AiTask.Repeats.symm {first second : AiTask} (repeats : first.Repeats second) :
    second.Repeats first := by
  obtain ⟨firstActive, secondActive, isSome, canvas, revision, payload⟩ := repeats
  exact ⟨secondActive, firstActive, canvas ▸ isSome, canvas.symm, revision.symm, payload.symm⟩

/-- Writing a task keeps the invariant if no other task repeats it. -/
theorem exact_writeTask (exact : db.Exact) {task : AiTask}
    (target : task.canvasId.isSome = true →
      ∃ target : NormalizedPreviewTarget, task.requestPayload = target.json.jsonb)
    (distinct : ∀ other ∈ db.tasks, other.id ≠ task.id → ¬ task.Repeats other) :
    (db.writeTask task).Exact where
  keyed := Table.keyed_save exact.keyed
  targets := by
    intro other otherMem
    rcases Table.mem_save_iff.mp otherMem with rfl | ⟨otherMem, _⟩
    · exact target
    · exact exact.targets other otherMem
  deduplicated := by
    intro first firstMem second secondMem ne
    rcases Table.mem_save_iff.mp firstMem with firstEq | ⟨firstOld, firstKey⟩
    · rcases Table.mem_save_iff.mp secondMem with secondEq | ⟨secondOld, secondKey⟩
      · exact absurd (firstEq.trans secondEq.symm) ne
      · rw [firstEq]
        exact distinct second secondOld secondKey
    · rcases Table.mem_save_iff.mp secondMem with secondEq | ⟨secondOld, secondKey⟩
      · rw [secondEq]
        exact fun repeats => distinct first firstOld firstKey repeats.symm
      · exact exact.deduplicated first firstOld second secondOld ne

/-- The parts of a distinct call keep the invariant. -/
theorem exact_previewKeeps (distinct : call.Distinct db) :
    PreviewKeeps host call db PlatformDb.Exact where
  keyed := fun _ exact => exact.keyed
  bound := by
    intro reached found canvas locked exact locks
    rw [locks.setCanvases]
    exact ⟨exact.keyed, exact.targets, exact.deduplicated⟩
  inserted := fun _ _ exact => ⟨exact.keyed, exact.targets, exact.deduplicated⟩
  frozen := fun _ _ _ exact _ _ => ⟨exact.keyed, exact.targets, exact.deduplicated⟩
  queued := by
    intro reached usage reservation snapshot found exact tasksEq _ canvasEq unanswered _ _
    have reserved : (reached.setUsage usage).Exact :=
      ⟨exact.keyed, exact.targets, exact.deduplicated⟩
    refine exact_writeTask reserved (fun _ => ⟨call.target, rfl⟩) ?_
    intro other otherMem _ repeats
    obtain ⟨_, active, _, canvas, revision, payload⟩ := repeats
    rw [PreviewCall.Distinct, unanswered.1] at distinct
    have otherStart : other ∈ db.tasks := tasksEq ▸ otherMem
    refine distinct found canvasEq other otherStart active canvas.symm revision.symm ?_
    exact payload.symm.trans (Json.jsonb_same _)
  superseded := by
    intro reached task replacement exact taskMem _
    have isOver : (task.supersede replacement).active = false := rfl
    have written : (reached.writeTask (task.supersede replacement)).Exact := by
      refine exact_writeTask exact (fun onCanvas => exact.targets task taskMem onCanvas) ?_
      intro other _ _ repeats
      exact Bool.false_ne_true (isOver.symm.trans repeats.1)
    exact ⟨written.keyed, written.targets, written.deduplicated⟩

/-- A move keeps a task, up to its status, and revives none. -/
theorem AiTask.move_cases (task : AiTask) (taskId : Uuid) (status : JobStatus) :
    task.move taskId status = task ∨
      task.active = true ∧ task.move taskId status = { task with status := status } := by
  rw [AiTask.move]
  split
  · rename_i moved
    exact Or.inr ⟨moved.2, rfl⟩
  · exact Or.inl rfl

theorem AiTask.repeats_of_move {first second : AiTask} {taskId : Uuid} {status : JobStatus}
    (repeats : (first.move taskId status).Repeats (second.move taskId status)) :
    first.Repeats second := by
  have same : ∀ task : AiTask, (task.move taskId status).canvasId = task.canvasId ∧
      (task.move taskId status).canvasRevision = task.canvasRevision ∧
      (task.move taskId status).requestPayload = task.requestPayload ∧
      ((task.move taskId status).active = true → task.active = true) := by
    intro task
    rcases task.move_cases taskId status with moveEq | ⟨active, moveEq⟩
    · rw [moveEq]
      exact ⟨rfl, rfl, rfl, fun active => active⟩
    · rw [moveEq]
      exact ⟨rfl, rfl, rfl, fun _ => active⟩
  obtain ⟨firstCanvas, firstRevision, firstPayload, firstActive⟩ := same first
  obtain ⟨secondCanvas, secondRevision, secondPayload, secondActive⟩ := same second
  rw [AiTask.Repeats, firstCanvas, secondCanvas, firstRevision, secondRevision, firstPayload,
    secondPayload] at repeats
  obtain ⟨first, second, rest⟩ := repeats
  exact ⟨firstActive first, secondActive second, rest⟩

/-- Every action of a history of distinct requests keeps the invariant. -/
theorem exact_after {platform : Platform} {action : PreviewAction} (exact : platform.db.Exact)
    (distinct : DistinctRequests host platform action) :
    (platform.after host action).db.Exact := by
  cases action with
  | create request =>
      exact (create_keeps (fun call prepareEq => exact_previewKeeps (distinct call prepareEq))
        exact).1
  | edit canvasId => exact ⟨exact.keyed, exact.targets, exact.deduplicated⟩
  | move taskId status =>
      have columns : ∀ task : AiTask, (task.move taskId status).id = task.id ∧
          (task.move taskId status).canvasId = task.canvasId ∧
          (task.move taskId status).requestPayload = task.requestPayload := by
        intro task
        rcases task.move_cases taskId status with moveEq | ⟨_, moveEq⟩
        · rw [moveEq]
          exact ⟨rfl, rfl, rfl⟩
        · rw [moveEq]
          exact ⟨rfl, rfl, rfl⟩
      refine ⟨?_, ?_, ?_⟩
      · have ids : (platform.db.tasks.map fun task => task.move taskId status).map AiTask.id =
            platform.db.tasks.map AiTask.id := by
          rw [List.map_map]
          exact List.map_congr_left fun task _ => (columns task).1
        rw [Table.Keyed]
        exact ids.symm ▸ exact.keyed
      · intro moved movedMem onCanvas
        obtain ⟨task, taskMem, rfl⟩ := List.mem_map.mp movedMem
        rw [(columns task).2.1] at onCanvas
        rw [(columns task).2.2]
        exact exact.targets task taskMem onCanvas
      · intro first firstMem second secondMem ne repeats
        obtain ⟨firstOld, firstOldMem, rfl⟩ := List.mem_map.mp firstMem
        obtain ⟨secondOld, secondOldMem, rfl⟩ := List.mem_map.mp secondMem
        refine exact.deduplicated firstOld firstOldMem secondOld secondOldMem ?_
          (AiTask.repeats_of_move repeats)
        rintro rfl
        exact ne rfl

/-! ## The answers -/

/-- The task that answers a distinct request has its target. -/
theorem answer_same {task : AiTask} (exact : db.Exact) (distinct : call.Distinct db)
    (answered : AnsweredBy host call db task) :
    Json.Same task.requestPayload call.target.json := by
  cases answered with
  | byKey _ keyEq =>
      rw [PreviewCall.Distinct, keyEq] at distinct
      exact distinct
  | byTarget _ canvasRevision taskMem same =>
      -- no stored target is recognised, so this lookup has found nothing
      obtain ⟨inTable, found⟩ := List.mem_filter.mp taskMem
      simp only [PreviewCall.scopes, Bool.and_eq_true, beq_iff_eq] at found
      have onCanvas : task.canvasId.isSome = true := by
        rw [found.1.1.2]
        rfl
      obtain ⟨target, payloadEq⟩ := exact.targets task inTable onCanvas
      rw [payloadEq, sameTarget_stored] at same
      cases same
  | queued => exact Json.jsonb_same _

/-- In a history of distinct requests, from a platform without tasks on canvases,
no active task ever repeats another one, and a request that is answered is
answered with a task that holds its target. -/
theorem preview_deduplicated {host : Host} {start platform : Platform}
    {actions : List PreviewAction} (keyed : Table.Keyed AiTask.id start.db.tasks)
    (fresh : ∀ task ∈ start.db.tasks, task.canvasId = none)
    (met : (previewSystem host).Meets (DistinctRequests host) start actions)
    (reached : (previewSystem host).run start actions = some platform) :
    platform.db.Deduplicated ∧
      ∀ request response, DistinctRequests host platform (.create request) →
        (create host request platform).1 = .ok response →
        ∃ task, (create host request platform).2.db.task? response.taskId = some task ∧
          Json.Same task.requestPayload (normalizeTarget request.dto).json := by
  have offCanvas : ∀ task ∈ start.db.tasks, task.canvasId.isSome = true → False := by
    intro task taskMem onCanvas
    rw [fresh task taskMem] at onCanvas
    cases onCanvas
  have startExact : start.db.Exact := by
    refine ⟨keyed, fun task taskMem onCanvas => (offCanvas task taskMem onCanvas).elim, ?_⟩
    intro first firstMem second secondMem ne repeats
    exact offCanvas first firstMem repeats.2.2.1
  have exact : platform.db.Exact := by
    let inv (platform : Platform) : Prop := platform.db.Exact
    have preserved : ∀ state action next, inv state → DistinctRequests host state action →
        previewSystem host state action = some next → inv next := by
      rintro state action next exact distinct ⟨⟩
      exact exact_after exact distinct
    exact Step.invariant_of_meets preserved startExact met reached
  refine ⟨exact.deduplicated, ?_⟩
  intro request response distinct responseEq
  have keeps : ∀ call, (prepare host request platform.db).1 = .ok call →
      PreviewKeeps host call platform.db PlatformDb.Exact :=
    fun call prepareEq => exact_previewKeeps (distinct call prepareEq)
  obtain ⟨kept, answers⟩ := create_keeps keeps exact
  obtain ⟨call, task, prepareEq, answered, idEq⟩ := answers response responseEq
  obtain ⟨stored, storedMem, storedId, payloadEq⟩ := answered.held
  have targetEq : call.target = normalizeTarget request.dto := (prepare_ok prepareEq).2.2.2.1
  have same := answer_same exact (distinct call prepareEq) answered.answered
  refine ⟨stored, ?_, ?_⟩
  · rw [idEq, ← storedId]
    exact kept.keyed.get?_of_mem storedMem
  · rw [payloadEq, ← targetEq]
    exact same

/-! ## Examples -/

/-- A request that is repeated, and the request of another user after an edit. -/
def exampleHistory : List PreviewAction :=
  [.create (exampleRequest exampleAlice "key-1"), .create (exampleRequest exampleAlice "key-1"),
    .edit exampleCanvas, .create (exampleRequest exampleBob "key-2")]

theorem preview_deduplicated_example :
    ∃ platform, (previewSystem exampleHost).run examplePlatform exampleHistory = some platform ∧
      platform.db.Deduplicated := by
  have reached := Step.run_ofTotal (Platform.after exampleHost) examplePlatform exampleHistory
  refine ⟨_, reached, ?_⟩
  have met : (previewSystem exampleHost).Meets (DistinctRequests exampleHost) examplePlatform
      exampleHistory := by decide +kernel
  exact (preview_deduplicated (by simp [examplePlatform, exampleDb])
    (by simp [examplePlatform, exampleDb]) met reached).1

/-- Another request under the first key. -/
def exampleReuse : PreviewRequest :=
  { exampleRequest exampleAlice "key-1" with
    dto := { exampleDto with userPrompt := "Improve something else" } }

/-- The platform after the first request. -/
def exampleQueued : Platform := examplePlatform.after exampleHost
  (.create (exampleRequest exampleAlice "key-1"))

example : exampleQueued.db.tasks.length = 1 := by decide +kernel

/-- The platform after the same request of another user. -/
def exampleTwice : Platform := exampleQueued.after exampleHost
  (.create (exampleRequest exampleBob "key-2"))

/-- The same request of two users queues two active tasks, and a key that is used
again for another target is answered with the old task. -/
theorem preview_repeated :
    ((previewSystem exampleHost).run examplePlatform
        [.create (exampleRequest exampleAlice "key-1"),
          .create (exampleRequest exampleBob "key-2")] = some exampleTwice ∧
      ¬ exampleTwice.db.Deduplicated) ∧
    (previewSystem exampleHost).run examplePlatform
        [.create (exampleRequest exampleAlice "key-1")] = some exampleQueued ∧
      ∃ response ∈ (create exampleHost exampleReuse exampleQueued).1.toOption,
        ∃ task ∈ exampleQueued.db.tasks, task.id = response.taskId ∧
          ¬ Json.Same task.requestPayload (normalizeTarget exampleReuse.dto).json := by
  refine ⟨⟨Step.run_ofTotal _ _ _, ?_⟩, Step.run_ofTotal _ _ _, ?_⟩
  · decide +kernel
  · decide +kernel

end Manbaa.Jobs
