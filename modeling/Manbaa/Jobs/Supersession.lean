import Manbaa.Jobs.Settlement
import Manbaa.Lib.Sessions

/-!
# Superseded tasks

Preview requests and the events of workers beside each other, one read, save or
transaction at a time.  The transaction of a request supersedes the older tasks
of its canvas.  The handler of an event reads its task without a lock and later
saves the whole row, so it may write back what a task was before it was
superseded.
-/

namespace Manbaa.Jobs

open Manbaa.Lib Manbaa.Lib.Effect Manbaa.Workspaces Manbaa.Canvases Manbaa.Usage

/-! ## Sessions -/

/-- The next read, save or transaction of a call, with what the call knows by
then. -/
inductive TaskStage where
  | findTask (kind : TaskEventKind) (event : TaskEvent)
  | writeTask (event : TaskEvent) (task : AiTask) (reaction : Reaction)
  | findSuggestion (task : AiTask) (input : CanvasAiSuggestion)
  | saveSuggestion (task : AiTask) (input : CanvasAiSuggestion)
      (existing : Option CanvasAiSuggestion)
  | findExisting (call : PreviewCall)
  | transact (call : PreviewCall)
  | deleteObject (stored : StoredWorkspaceSnapshot) (exception : Exception)
  | handled (result : Except Exception Unit)
  | answered (result : Except Exception CanvasAiPreviewResponseDto)

/-- An event of a worker, a preview request, or a change of the canvases. -/
inductive TaskRequest where
  | event (kind : TaskEventKind) (event : TaskEvent)
  | preview (request : PreviewRequest)
  | edit (canvases : List Canvas)

/-- How a call begins. -/
def TaskStage.start (host : Host) (platform : Platform) :
    TaskRequest → Platform × Option TaskStage
  | .event kind event =>
      (platform, some <|
        if event.authorized kind then .findTask kind event
        else .handled (.error (.internalServerError "Worker event authorization mismatch")))
  | .preview request =>
      (platform, some <|
        match (prepare host request platform.db).1 with
        | .ok call => .findExisting call
        | .error exception => .answered (.error exception))
  | .edit canvases => (platform.setDb (platform.db.setCanvases canvases), none)

/-- What the handler does with the task that it has read. -/
def TaskStage.found (kind : TaskEventKind) (event : TaskEvent) : Option AiTask → TaskStage
  | none => .handled (.error (.internalServerError "AI task scope mismatch"))
  | some task =>
      match task.react event kind with
      | .ignored => .handled (.ok ())
      | reaction => .writeTask event task reaction

/-- How the handler goes on after its write. -/
def TaskStage.written (event : TaskEvent) (task : AiTask) (reaction : Reaction) :
    Except Exception Unit → TaskStage
  | .error exception => .handled (.error exception)
  | .ok () =>
      match reaction.suggests event with
      | none => .handled (.ok ())
      | some input => .findSuggestion task input

/-- How a preview request goes on after its transaction. -/
def TaskStage.closed (attempted : Attempt) : TaskStage :=
  match attempted.result.bind fun persisted => responseFromTask persisted.task with
  | .ok response => .answered (.ok response)
  | .error exception =>
      match attempted.stored with
      | none => .answered (.error exception)
      | some stored => .deleteObject stored exception

instance (host : Host) (db : PlatformDb) (call : PreviewCall) : Decidable (call.Named host db) :=
  inferInstanceAs (Decidable (_ → _))

/-- The next step of a call.  A transaction whose task would get the name of
another task is left out. -/
def TaskStage.advance (host : Host) (platform : Platform) : TaskStage → Option (Platform × TaskStage)
  | .findTask kind event => some (platform, .found kind event (platform.db.eventTask? event))
  | .writeTask event task reaction =>
      let (result, db) := reaction.perform platform.db
      some (platform.setDb db, .written event task reaction result)
  | .findSuggestion task input =>
      some (platform, .saveSuggestion task input (platform.db.suggestionOf? input))
  | .saveSuggestion _ input existing =>
      some (platform.setDb (platform.db.writeSuggestion (input.refresh existing)),
        .handled (.ok ()))
  | .findExisting call =>
      some (platform,
        match platform.db.previewTask? call with
        | some preexisting => .answered (responseFromTask preexisting)
        | none => .transact call)
  | .transact call =>
      if call.Named host platform.db then
        let (attempted, reached) := attempt host call platform
        some (reached, .closed attempted)
      else none
  | .deleteObject stored exception =>
      some (platform.deleteObject stored, .answered (.error exception))
  | .handled _ | .answered _ => none

/-- Events and preview requests beside each other. -/
def supersedingSystem (host : Host) : Sessions Platform TaskStage TaskRequest Unit where
  start := TaskStage.start host
  advance := fun platform _ stage _ => stage.advance host platform

/-- A call that is over stays over. -/
theorem alone_of_over {host : Host} {platform : Platform} {stage : TaskStage}
    (isOver : stage.advance host platform = none) (steps : Nat) :
    (supersedingSystem host).alone () steps (platform, stage) = (platform, stage) := by
  cases steps with
  | zero => rfl
  | succ steps =>
      have blocked : (supersedingSystem host).advance platform [] stage () = none := isOver
      simp [Sessions.alone, blocked]

theorem alone_of_advance {host : Host} {platform reached : Platform} {stage next : TaskStage}
    (advanced : stage.advance host platform = some (reached, next)) (steps : Nat) :
    (supersedingSystem host).alone () (steps + 1) (platform, stage) =
      (supersedingSystem host).alone () steps (reached, next) :=
  Sessions.alone_succ _ _ advanced

/-- The handler by what it finds. -/
theorem handle_apply (kind : TaskEventKind) (event : TaskEvent) (db : PlatformDb) :
    handle kind event db =
      if event.authorized kind then
        match db.eventTask? event with
        | none => (.error (.internalServerError "AI task scope mismatch"), db)
        | some task =>
            match (task.react event kind).perform db with
            | (.error exception, reached) => (.error exception, reached)
            | (.ok (), reached) =>
                match (task.react event kind).suggests event with
                | none => (.ok (), reached)
                | some input =>
                    (.ok (), reached.writeSuggestion (input.refresh (reached.suggestionOf? input)))
      else (.error (.internalServerError "Worker event authorization mismatch"), db) := by
  by_cases authorized : event.authorized kind = true
  · rw [if_pos authorized]
    have allowed : (require (event.authorized kind)
        (.internalServerError "Worker event authorization mismatch") : Statements Unit) db =
        (.ok (), db) := require_eq_ok_iff.mpr ⟨authorized, rfl⟩
    have read : (reading fun db => db.eventTask? event : Statements (Option AiTask)) db =
        (.ok (db.eventTask? event), db) := rfl
    rw [handle, bind_of_ok allowed, bind_of_ok read]
    cases db.eventTask? event with
    | none => rfl
    | some task =>
        rw [bind_of_ok (orThrow_eq_ok_iff.mpr ⟨rfl, rfl⟩)]
        dsimp only
        rcases performEq : (task.react event kind).perform db with ⟨exception | done, reached⟩
        · exact bind_eq_error_iff.mpr (Or.inl performEq)
        · rw [bind_of_ok performEq]
          cases (task.react event kind).suggests event with
          | none => rfl
          | some input => rfl
  · rw [if_neg authorized]
    apply bind_eq_error_iff.mpr
    exact Or.inl (require_eq_error_iff.mpr ⟨Bool.eq_false_iff.mpr authorized, rfl, rfl⟩)

/-- A handler that runs alone does what the handler does. -/
theorem alone_handle (host : Host) (platform : Platform) (kind : TaskEventKind)
    (event : TaskEvent) :
    ∃ stage, (TaskStage.start host platform (.event kind event)).2 = some stage ∧
      (supersedingSystem host).alone () 4 (platform, stage) =
        (platform.setDb (handle kind event platform.db).2,
          .handled (handle kind event platform.db).1) := by
  refine ⟨_, rfl, ?_⟩
  rw [handle_apply]
  by_cases authorized : event.authorized kind = true
  · rw [if_pos authorized, if_pos authorized]
    rw [alone_of_advance rfl]
    cases platform.db.eventTask? event with
    | none => exact alone_of_over rfl 3
    | some task =>
        rw [TaskStage.found]
        split
        · rename_i ignored
          simp only [ignored]
          exact alone_of_over rfl 3
        · have advanced : TaskStage.advance host platform
              (.writeTask event task (task.react event kind)) =
              some (platform.setDb ((task.react event kind).perform platform.db).2,
                .written event task (task.react event kind)
                  ((task.react event kind).perform platform.db).1) := rfl
          rw [alone_of_advance advanced]
          dsimp only
          rcases (task.react event kind).perform platform.db with ⟨exception | ⟨⟩, reached⟩
          · apply alone_of_over
            rfl
          · dsimp only [TaskStage.written]
            cases (task.react event kind).suggests event with
            | none =>
                apply alone_of_over
                rfl
            | some input =>
                rw [alone_of_advance rfl, alone_of_advance rfl]
                rfl
  · rw [if_neg authorized, if_neg authorized]
    exact alone_of_over rfl 4

/-- A preview request that runs alone does what `create` does. -/
theorem alone_create {host : Host} {platform : Platform} {request : PreviewRequest}
    (named : ∀ call, (prepare host request platform.db).1 = .ok call →
      call.Named host platform.db) :
    ∃ stage, (TaskStage.start host platform (.preview request)).2 = some stage ∧
      (supersedingSystem host).alone () 3 (platform, stage) =
        ((create host request platform).2, .answered (create host request platform).1) := by
  refine ⟨_, rfl, ?_⟩
  rw [create]
  cases prepareEq : (prepare host request platform.db).1 with
  | error exception => exact alone_of_over rfl 3
  | ok call =>
      rw [alone_of_advance rfl]
      dsimp only
      cases platform.db.previewTask? call with
      | some preexisting =>
          apply alone_of_over
          rfl
      | none =>
          have advanced : TaskStage.advance host platform (.transact call) =
              some ((attempt host call platform).2, .closed (attempt host call platform).1) :=
            if_pos (named call prepareEq)
          rw [alone_of_advance advanced]
          rcases attempt host call platform with ⟨⟨result, stored⟩, reached⟩
          dsimp only [TaskStage.closed]
          cases result.bind fun persisted => responseFromTask persisted.task with
          | ok response =>
              apply alone_of_over
              rfl
          | error exception =>
              cases stored with
              | none =>
                  apply alone_of_over
                  rfl
              | some stored =>
                  apply alone_of_advance
                  rfl

/-! ## Lineage -/

/-- What the status of a task says of its result and of its replacement. -/
structure AiTask.Consistent (task : AiTask) : Prop where
  active : task.active = true → task.supersededByTaskId = none ∧ task.resultPayload = none
  superseded : task.status = .superseded → task.supersededByTaskId ≠ none
  lineage : task.supersededByTaskId ≠ none →
    task.status ∈ [JobStatus.superseded, .stale, .cancelled] ∧ task.resultPayload = none

/-- The task that a reaction writes. -/
def Reaction.entity? : Reaction → Option AiTask
  | .ignored => none
  | .saves entity | .settles entity _ => some entity

/-- A task and what an event makes of it have one replacement, or none. -/
structure AiTask.Continues (task entity : AiTask) : Prop where
  id : entity.id = task.id
  supersededByTaskId : entity.supersededByTaskId = task.supersededByTaskId
  consistent : entity.Consistent

variable {host : Host} {db middle : PlatformDb} {task entity : AiTask} {event : TaskEvent}
  {kind : TaskEventKind} {reaction : Reaction}

/-- A task that is not superseded may be written with any status but that one,
and with a result only if it is over. -/
theorem consistent_of_unsuperseded (unsuperseded : task.supersededByTaskId = none)
    (status : task.status ≠ .superseded) (result : task.active = true → task.resultPayload = none) :
    task.Consistent :=
  ⟨fun active => ⟨unsuperseded, result active⟩, fun same => absurd same status,
    fun given => absurd unsuperseded given⟩

/-- A task that is stale or cancelled and shows no result is consistent. -/
theorem consistent_of_over (status : task.status = .stale ∨ task.status = .cancelled)
    (result : task.resultPayload = none) : task.Consistent where
  active := by
    intro active
    rcases status with status | status <;> simp [AiTask.active, status, activeStatuses] at active
  superseded := by
    intro same
    rcases status with status | status <;> simp [status] at same
  lineage := by
    intro _
    refine ⟨?_, result⟩
    rcases status with status | status <;> simp [status]

/-- What an event makes of a consistent task. -/
theorem react_continues (consistent : task.Consistent)
    (reactEq : (task.react event kind).entity? = some entity) : task.Continues entity := by
  have finished : ∀ success, (task.finish event success).entity? = some entity →
      task.Continues entity := by
    intro success finishEq
    rw [AiTask.finish] at finishEq
    split at finishEq
    · cases finishEq
      exact ⟨rfl, rfl, consistent_of_over (Or.inl rfl) rfl⟩
    · rename_i running
      split at finishEq
      · cases finishEq
      · rename_i lasting
        have active : task.active = true := by
          rw [AiTask.active_iff]
          revert running lasting
          cases task.status <;> decide
        have unsuperseded := (consistent.active active).1
        split at finishEq
        · cases finishEq
          refine ⟨rfl, rfl, consistent_of_unsuperseded unsuperseded ?_ ?_⟩ <;> intro ended <;>
            cases ended
        · cases finishEq
          refine ⟨rfl, rfl, consistent_of_unsuperseded unsuperseded ?_ ?_⟩ <;> intro ended <;>
            cases ended
  cases kind with
  | started =>
      rw [AiTask.react] at reactEq
      split at reactEq
      · rename_i queued
        cases reactEq
        obtain ⟨unsuperseded, result⟩ := consistent.active (AiTask.active_iff.mpr (Or.inl queued))
        exact ⟨rfl, rfl, consistent_of_unsuperseded unsuperseded (by simp [AiTask.start]) fun _ => result⟩
      · cases reactEq
  | progress =>
      rw [AiTask.react] at reactEq
      split at reactEq
      · rename_i running
        cases reactEq
        have active : task.active = true := by
          rw [AiTask.active_iff]
          exact Or.inr (by simpa using running)
        have status : task.status ≠ .superseded := by
          intro same
          simp [same] at running
        obtain ⟨unsuperseded, result⟩ := consistent.active active
        exact ⟨rfl, rfl, consistent_of_unsuperseded unsuperseded status fun _ => result⟩
      · cases reactEq
  | cancelled =>
      rw [AiTask.react] at reactEq
      split at reactEq
      · cases reactEq
      · rename_i lasting
        cases reactEq
        refine ⟨rfl, rfl, consistent_of_over (Or.inr rfl) ?_⟩
        by_cases active : task.active = true
        · exact (consistent.active active).2
        · have status : task.status = .superseded := by
            rw [AiTask.active_iff] at active
            revert active lasting
            cases task.status <;> decide
          exact (consistent.lineage (consistent.superseded status)).2
  | completed => exact finished true reactEq
  | failed => exact finished false reactEq

/-- The write of the handler writes the task of its reaction, and usage. -/
theorem perform_keeps {inv : PlatformDb → Prop} (holds : inv db)
    (written : ∀ entity ∈ reaction.entity?, ∀ usage, inv ((db.writeTask entity).setUsage usage)) :
    inv (reaction.perform db).2 := by
  cases reaction with
  | ignored => exact holds
  | saves entity => exact saveTask_keeps holds (written entity rfl db.usage)
  | settles entity settlement =>
      refine transaction_keeps holds fun done target settleEq => ?_
      rw [settleTask_ok settleEq]
      exact written entity rfl _

/-- From a middle state on: tasks that were superseded there have their
replacement, and no suggestion has been made from them. -/
structure PlatformDb.Follows (db middle : PlatformDb) : Prop where
  keyed : Table.Keyed AiTask.id db.tasks
  consistent : ∀ task ∈ db.tasks, task.Consistent
  lineage : ∀ task ∈ middle.tasks, task.status = .superseded → ∃ later,
    db.task? task.id = some later ∧ later.supersededByTaskId = task.supersededByTaskId
  unsuggested : ∀ task ∈ middle.tasks, task.status = .superseded → ∀ suggestion ∈ db.suggestions,
    suggestion.taskId = task.id → suggestion ∈ middle.suggestions

theorem follows_congr (follows : db.Follows middle) {other : PlatformDb}
    (tasks : other.tasks = db.tasks) (suggestions : other.suggestions = db.suggestions) :
    other.Follows middle := by
  have rows : ∀ id, other.task? id = db.task? id := by
    intro id
    rw [PlatformDb.task?, tasks]
    rfl
  refine ⟨tasks ▸ follows.keyed, tasks ▸ follows.consistent, ?_, ?_⟩
  · intro task taskMem status
    rw [rows]
    exact follows.lineage task taskMem status
  · rw [suggestions]
    exact follows.unsuggested

/-- A consistent task may be written over one that has no replacement yet, or the
same. -/
theorem follows_writeTask (follows : db.Follows middle)
    (middleConsistent : ∀ task ∈ middle.tasks, task.Consistent) (consistent : entity.Consistent)
    (current : ∀ stored ∈ db.task? entity.id, stored.supersededByTaskId = none ∨
      stored.supersededByTaskId = entity.supersededByTaskId) (usage : UsageDb ℚ) :
    ((db.writeTask entity).setUsage usage).Follows middle where
  keyed := Table.keyed_save follows.keyed
  consistent := by
    intro task taskMem
    rcases mem_writeTask.mp taskMem with rfl | ⟨taskOld, _⟩
    · exact consistent
    · exact follows.consistent task taskOld
  lineage := by
    intro task taskMem status
    obtain ⟨later, laterEq, lineageEq⟩ := follows.lineage task taskMem status
    by_cases same : entity.id = task.id
    · refine ⟨entity, Table.get?_save.trans (if_pos same), ?_⟩
      rw [← same] at laterEq
      rcases current later laterEq with unsuperseded | equal
      · rw [unsuperseded] at lineageEq
        exact absurd lineageEq.symm ((middleConsistent task taskMem).superseded status)
      · exact equal.symm.trans lineageEq
    · exact ⟨later, (Table.get?_save.trans (if_neg same)).trans laterEq, lineageEq⟩
  unsuggested := follows.unsuggested

/-- A suggestion may be written for a task without a replacement. -/
theorem follows_writeSuggestion (follows : db.Follows middle)
    (middleConsistent : ∀ task ∈ middle.tasks, task.Consistent) {suggestion : CanvasAiSuggestion}
    (current : ∀ stored ∈ db.task? suggestion.taskId, stored.supersededByTaskId = none) :
    (db.writeSuggestion suggestion).Follows middle where
  keyed := follows.keyed
  consistent := follows.consistent
  lineage := follows.lineage
  unsuggested := by
    intro task taskMem status other otherMem otherTask
    rcases Table.mem_save_iff.mp otherMem with rfl | ⟨otherOld, _⟩
    · obtain ⟨later, laterEq, lineageEq⟩ := follows.lineage task taskMem status
      rw [otherTask] at current
      rw [current later laterEq] at lineageEq
      exact absurd lineageEq.symm ((middleConsistent task taskMem).superseded status)
    · exact follows.unsuggested task taskMem status other otherOld otherTask

theorem follows_previewKeeps {call : PreviewCall} (named : call.Named host db)
    (middleConsistent : ∀ task ∈ middle.tasks, task.Consistent) :
    PreviewKeeps host call db fun reached => reached.Follows middle where
  keyed := fun _ follows => follows.keyed
  bound := by
    intro reached found canvas locked follows locks
    rw [locks.setCanvases]
    exact follows_congr follows rfl rfl
  inserted := fun _ _ follows => follows_congr follows rfl rfl
  frozen := fun _ _ _ follows _ _ => follows_congr follows rfl rfl
  queued := by
    intro reached usage reservation snapshot found follows tasksEq _ _ unanswered _ _
    have fresh : reached.task? (call.taskId host) = none := by
      rw [PlatformDb.task?, tasksEq]
      exact named unanswered.1
    have consistent : (call.task host snapshot found.revision reservation.id).Consistent :=
      consistent_of_unsuperseded rfl (by simp [PreviewCall.task]) fun _ => rfl
    have current : ∀ stored ∈ reached.task? (call.taskId host),
        stored.supersededByTaskId = none ∨ stored.supersededByTaskId = none := by
      intro stored storedEq
      rw [fresh] at storedEq
      cases storedEq
    exact follows_congr (follows_writeTask follows middleConsistent consistent current usage) rfl rfl
  superseded := by
    intro reached task replacement follows taskMem active
    have before := (follows.consistent task taskMem).active active
    have consistent : (task.supersede replacement).Consistent := by
      refine ⟨fun active => ?_, by simp [AiTask.supersede], fun _ =>
        ⟨by simp [AiTask.supersede], before.2⟩⟩
      simp [AiTask.active, AiTask.supersede, activeStatuses] at active
    apply follows_writeTask follows middleConsistent consistent
    intro stored storedEq
    have found : reached.task? task.id = some task := follows.keyed.get?_of_mem taskMem
    cases storedEq.symm.trans found
    exact Or.inl before.1

/-! ## Runs -/

/-- A write of the handler finds its task with the replacement, or without one, as
the handler has read it. -/
def TaskStage.Current (platform : Platform) (_ : List TaskStage) (stage : TaskStage) (_ : Unit) :
    Prop :=
  match stage with
  | .writeTask _ task _ | .saveSuggestion task _ _ =>
      ∀ stored ∈ platform.db.task? task.id, stored.supersededByTaskId = task.supersededByTaskId
  | _ => True

instance (platform : Platform) (others : List TaskStage) (stage : TaskStage) (choice : Unit) :
    Decidable (stage.Current platform others choice) :=
  match stage with
  | .writeTask _ task _ | .saveSuggestion task _ _ =>
      inferInstanceAs <| Decidable <| ∀ stored ∈ platform.db.task? task.id,
        stored.supersededByTaskId = task.supersededByTaskId
  | .findTask _ _ | .findSuggestion _ _ | .findExisting _ | .transact _ | .deleteObject _ _
  | .handled _ | .answered _ => .isTrue trivial

/-- What a call knows of the task that it has read. -/
def TaskStage.Sound : TaskStage → Prop
  | .writeTask event task reaction => task.Consistent ∧ ∃ kind, task.react event kind = reaction
  | .findSuggestion task input => task.supersededByTaskId = none ∧ input.taskId = task.id
  | .saveSuggestion task input existing =>
      task.supersededByTaskId = none ∧ (input.refresh existing).taskId = task.id
  | _ => True

/-- A reaction that makes a suggestion completes a task that is active. -/
theorem suggests_active {input : CanvasAiSuggestion} (reactEq : task.react event kind = reaction)
    (suggestsEq : reaction.suggests event = some input) :
    task.active = true ∧ input.taskId = task.id := by
  have reacts := task.react_reacts event kind
  rw [reactEq] at reacts
  cases reacts with
  | ignores => cases suggestsEq
  | saves => cases suggestsEq
  | releases => cases suggestsEq
  | commits active =>
      obtain ⟨canvasId, _, rfl⟩ := Option.map_eq_some_iff.mp suggestsEq
      exact ⟨active, rfl⟩

/-- A suggestion keeps its task when it is refreshed. -/
theorem refresh_taskId (input : CanvasAiSuggestion) :
    (input.refresh (db.suggestionOf? input)).taskId = input.taskId := by
  cases found : db.suggestionOf? input with
  | none => rfl
  | some existing =>
      have same := List.find?_some found
      simp only [Bool.and_eq_true, beq_iff_eq] at same
      exact same.1.1

theorem found_sound (consistent : ∀ task ∈ db.tasks, task.Consistent) :
    (TaskStage.found kind event (db.eventTask? event)).Sound := by
  cases found : db.eventTask? event with
  | none => trivial
  | some task =>
      have taskMem : task ∈ db.tasks := Table.mem_of_get? (Option.filter_eq_some_iff.mp found).1
      rw [TaskStage.found]
      split
      · trivial
      · exact ⟨consistent task taskMem, kind, rfl⟩

theorem written_sound (consistent : task.Consistent) (reactEq : task.react event kind = reaction)
    (result : Except Exception Unit) : (TaskStage.written event task reaction result).Sound := by
  cases result with
  | error exception => trivial
  | ok done =>
      rw [TaskStage.written]
      split
      · trivial
      · rename_i input suggestsEq
        obtain ⟨active, sameTask⟩ := suggests_active reactEq suggestsEq
        exact ⟨(consistent.active active).1, sameTask⟩

theorem closed_sound (attempted : Attempt) : (TaskStage.closed attempted).Sound := by
  rw [TaskStage.closed]
  split
  · trivial
  · split <;> trivial

/-- The calls beside each other keep what a middle state says of superseded
tasks, as long as no write is out of date. -/
theorem supersedingSystem_keeps (host : Host)
    (middleConsistent : ∀ task ∈ middle.tasks, task.Consistent) :
    Sessions.Keeps (supersedingSystem host) (fun _ => True) TaskStage.Current
      (fun platform => platform.db.Follows middle) (fun _ stage => stage.Sound)
      (fun _ _ => True) where
  started := by
    intro platform request follows _
    cases request with
    | event kind event =>
        refine ⟨follows, fun _ sound => sound, fun stage stageEq => ⟨?_, fun _ => ⟨trivial, trivial⟩⟩⟩
        cases stageEq
        split <;> trivial
    | preview request =>
        refine ⟨follows, fun _ sound => sound, fun stage stageEq => ⟨?_, fun _ => ⟨trivial, trivial⟩⟩⟩
        cases stageEq
        split <;> trivial
    | edit canvases =>
        refine ⟨follows_congr follows rfl rfl, fun _ sound => sound, fun stage stageEq => ?_⟩
        cases stageEq
  advanced := by
    intro platform others stage choice platform' stage' leaves current advanceEq
    have follows := leaves.holds
    have sound := leaves.owns
    suffices next : platform'.db.Follows middle ∧ stage'.Sound from
      ⟨next.1, next.2, leaves.beside, fun _ _ => ⟨trivial, trivial⟩⟩
    cases stage with
    | findTask kind event =>
        cases advanceEq
        exact ⟨follows, found_sound follows.consistent⟩
    | writeTask event task reaction =>
        cases advanceEq
        obtain ⟨consistent, kind, reactEq⟩ := sound
        let inv (db : PlatformDb) : Prop := db.Follows middle
        have holds : inv platform.db := follows
        have performed : inv (reaction.perform platform.db).2 := by
          refine perform_keeps holds fun entity entityEq usage => ?_
          rw [← reactEq] at entityEq
          have continues := react_continues consistent entityEq
          apply follows_writeTask follows middleConsistent continues.consistent
          intro stored storedEq
          rw [continues.id] at storedEq
          exact Or.inr ((current stored storedEq).trans continues.supersededByTaskId.symm)
        exact ⟨performed, written_sound consistent reactEq _⟩
    | findSuggestion task input =>
        cases advanceEq
        exact ⟨follows, sound.1, (refresh_taskId input).trans sound.2⟩
    | saveSuggestion task input existing =>
        cases advanceEq
        refine ⟨follows_writeSuggestion follows middleConsistent fun stored storedEq => ?_, trivial⟩
        rw [sound.2] at storedEq
        exact (current stored storedEq).trans sound.1
    | findExisting call =>
        cases advanceEq
        refine ⟨follows, ?_⟩
        split <;> trivial
    | transact call =>
        have enabled : (if call.Named host platform.db then
            some ((attempt host call platform).2, TaskStage.closed (attempt host call platform).1)
            else none) = some (platform', stage') := advanceEq
        obtain ⟨named, taken⟩ := Option.ite_none_right_eq_some.mp enabled
        cases taken
        exact ⟨((follows_previewKeeps named middleConsistent).attempt follows rfl).1,
          closed_sound _⟩
    | deleteObject stored exception =>
        cases advanceEq
        exact ⟨follows, trivial⟩
    | handled result => cases advanceEq
    | answered result => cases advanceEq

/-- In every run in which no write of the handler is out of date: a task that is
superseded stays so or becomes stale or cancelled, has no result and keeps its
replacement, and no suggestion is made from it. -/
theorem superseded_stays (host : Host) {start middle last : Sessions.State Platform TaskStage}
    {first second : List (Sessions.Action TaskRequest Unit)} (noSessions : start.sessions = [])
    (keyed : Table.Keyed AiTask.id start.store.db.tasks)
    (consistent : ∀ task ∈ start.store.db.tasks, task.Consistent)
    (met : (supersedingSystem host).step.Meets (Sessions.Guard (fun _ => True) TaskStage.Current)
      start (first ++ second))
    (firstEq : (supersedingSystem host).step.run start first = some middle)
    (secondEq : (supersedingSystem host).step.run middle second = some last) :
    ∀ task ∈ middle.store.db.tasks, task.status = .superseded →
      (∃ later, last.store.db.task? task.id = some later ∧
        later.status ∈ [JobStatus.superseded, .stale, .cancelled] ∧
        later.resultPayload = none ∧ later.supersededByTaskId = task.supersededByTaskId) ∧
      ∀ suggestion ∈ last.store.db.suggestions, suggestion.taskId = task.id →
        suggestion ∈ middle.store.db.suggestions := by
  obtain ⟨firstMet, secondMet⟩ := Step.meets_append.mp met
  -- before the middle state nothing is asked of the tasks that are superseded
  have startFollows : start.store.db.Follows { start.store.db with tasks := [] } :=
    ⟨keyed, consistent, fun _ none => absurd none List.not_mem_nil,
      fun _ none => absurd none List.not_mem_nil⟩
  have reached := (supersedingSystem_keeps host fun _ none => absurd none List.not_mem_nil).run
    (Sessions.Invariant.of_no_sessions startFollows noSessions) firstMet firstEq
  have middleFollows : middle.store.db.Follows middle.store.db := by
    refine ⟨reached.holds.keyed, reached.holds.consistent, ?_, fun _ _ _ _ mem _ => mem⟩
    exact fun task taskMem _ => ⟨task, reached.holds.keyed.get?_of_mem taskMem, rfl⟩
  have later := (supersedingSystem_keeps host reached.holds.consistent).run
    ⟨middleFollows, reached.owns, fun _ _ _ _ _ _ _ => trivial⟩ (secondMet middle firstEq) secondEq
  intro task taskMem status
  refine ⟨?_, later.holds.unsuggested task taskMem status⟩
  obtain ⟨stored, storedEq, lineageEq⟩ := later.holds.lineage task taskMem status
  have replaced : stored.supersededByTaskId ≠ none := by
    rw [lineageEq]
    exact (reached.holds.consistent task taskMem).superseded status
  obtain ⟨isOver, result⟩ :=
    (later.holds.consistent stored (Table.mem_of_get? storedEq)).lineage replaced
  exact ⟨stored, storedEq, isOver, result, lineageEq⟩

/-! ## Examples -/

/-- The platform before anything has happened. -/
def exampleIdle : Sessions.State Platform TaskStage := ⟨examplePlatform, []⟩

/-- The task of the first request. -/
def exampleTaskId : Uuid :=
  ((create exampleHost (exampleRequest exampleAlice "key-1") examplePlatform).2.db.tasks.head?.map
    AiTask.id).getD (uuid "")

/-- An event of the first task. -/
def exampleEvent (kind : TaskEventKind) : Sessions.Action TaskRequest Unit :=
  .start <| .event kind
    { exampleResult exampleTaskId with
      claims := ⟨exampleOrg, some exampleWorkspace, some exampleTaskId,
        ["ai.task." ++ kind.text]⟩ }

/-- The first request is answered, and its task is running. -/
def exampleRunning : List (Sessions.Action TaskRequest Unit) :=
  [.start (.preview (exampleRequest exampleAlice "key-1")), .advance 0 (), .advance 0 (),
    exampleEvent .started, .advance 1 (), .advance 1 ()]

example : ((supersedingSystem exampleHost).step.run exampleIdle exampleRunning).isSome := by
  decide +kernel

/-- The canvas has changed, and another request has superseded the task. -/
def exampleSuperseding (index : Nat) : List (Sessions.Action TaskRequest Unit) :=
  [.start (.edit (exampleDb.canvases.map Canvas.advance)),
    .start (.preview (exampleRequest exampleAlice "key-2")), .advance index (), .advance index ()]

/-- The result of the task comes after that. -/
def exampleLateResult : List (Sessions.Action TaskRequest Unit) :=
  [exampleEvent .completed, .advance 3 (), .advance 3 ()]

theorem superseded_stays_example :
    ∃ middle last task,
      (supersedingSystem exampleHost).step.run exampleIdle
          (exampleRunning ++ exampleSuperseding 2) = some middle ∧
        (supersedingSystem exampleHost).step.run middle exampleLateResult = some last ∧
        task ∈ middle.store.db.tasks ∧ task.status = .superseded ∧
        ∃ later, last.store.db.task? task.id = some later ∧
          later.status ∈ [JobStatus.superseded, .stale, .cancelled] := by
  have taken : ((supersedingSystem exampleHost).step.run exampleIdle
      (exampleRunning ++ exampleSuperseding 2)).any fun middle =>
        ((supersedingSystem exampleHost).step.run middle exampleLateResult).isSome &&
          middle.store.db.tasks.any fun task => task.status == .superseded := by
    decide +kernel
  have met : (supersedingSystem exampleHost).step.Meets
      (Sessions.Guard (fun _ => True) TaskStage.Current) exampleIdle
      ((exampleRunning ++ exampleSuperseding 2) ++ exampleLateResult) := by
    decide +kernel
  obtain ⟨middle, firstEq, found⟩ := Option.any_eq_true _ _ |>.mp taken
  obtain ⟨goesOn, found⟩ := (Bool.and_eq_true _ _).mp found
  obtain ⟨last, secondEq⟩ := Option.isSome_iff_exists.mp goesOn
  obtain ⟨task, taskMem, status⟩ := List.any_eq_true.mp found
  have keyed : Table.Keyed AiTask.id exampleIdle.store.db.tasks := List.nodup_nil
  have consistent : ∀ task ∈ exampleIdle.store.db.tasks, task.Consistent :=
    fun _ none => absurd none List.not_mem_nil
  have stays := superseded_stays exampleHost rfl keyed consistent met firstEq secondEq task taskMem
    (beq_iff_eq.mp status)
  obtain ⟨⟨later, laterEq, isOver, _⟩, _⟩ := stays
  exact ⟨middle, last, task, firstEq, secondEq, taskMem, beq_iff_eq.mp status, later, laterEq, isOver⟩

/-- A progress event that was read before the task was superseded brings it
back. -/
theorem superseded_returns :
    ∃ middle last task,
      (supersedingSystem exampleHost).step.run exampleIdle
          (exampleRunning ++ [exampleEvent .progress, .advance 2 ()] ++ exampleSuperseding 3) =
            some middle ∧
        (supersedingSystem exampleHost).step.run middle [.advance 2 ()] = some last ∧
        task ∈ middle.store.db.tasks ∧ task.status = .superseded ∧
        ∃ later, last.store.db.task? task.id = some later ∧
          later.status = .running ∧ later.supersededByTaskId = none := by
  have taken : ((supersedingSystem exampleHost).step.run exampleIdle
      (exampleRunning ++ [exampleEvent .progress, .advance 2 ()] ++ exampleSuperseding 3)).any
      fun middle => ((supersedingSystem exampleHost).step.run middle [.advance 2 ()]).any
        fun last => middle.store.db.tasks.any fun task => task.status == .superseded &&
          (last.store.db.task? task.id).any fun later =>
            later.status == .running && later.supersededByTaskId == none := by
    decide +kernel
  obtain ⟨middle, firstEq, found⟩ := Option.any_eq_true _ _ |>.mp taken
  obtain ⟨last, secondEq, found⟩ := Option.any_eq_true _ _ |>.mp found
  obtain ⟨task, taskMem, found⟩ := List.any_eq_true.mp found
  obtain ⟨status, found⟩ := (Bool.and_eq_true _ _).mp found
  obtain ⟨later, laterEq, found⟩ := Option.any_eq_true _ _ |>.mp found
  obtain ⟨running, unsuperseded⟩ := (Bool.and_eq_true _ _).mp found
  exact ⟨middle, last, task, firstEq, secondEq, taskMem, beq_iff_eq.mp status, later, laterEq,
    beq_iff_eq.mp running, beq_iff_eq.mp unsuperseded⟩

end Manbaa.Jobs
