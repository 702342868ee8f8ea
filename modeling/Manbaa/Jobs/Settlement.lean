import Manbaa.Jobs.PreviewSteps
import Manbaa.Jobs.Tasks
import Manbaa.Lib.Run
import Manbaa.Usage.Conservation

/-!
# The usage of a task and its outcome

Every task has a reservation of its own, and a reservation is settled once.  A
task that completes commits what it reserved, and any other end releases it.
The reservation also has a time of its own: it may be over before the worker
answers, and then the task completes although nothing is left to commit.
-/

namespace Manbaa.Jobs

open Manbaa.Lib Manbaa.Lib.Effect Manbaa.Workspaces Manbaa.Canvases Manbaa.Usage

/-! ## Reservations of tasks -/

/-- The key under which the usage of a task is reserved. -/
def AiTask.reservationKey (task : AiTask) : String :=
  match task.canvasId with
  | none => "ai-task:" ++ task.idempotencyKey
  | some _ => "canvas-preview:" ++ task.id.text

theorem reservationKeys_ne (first second : String) :
    "ai-task:" ++ first ≠ "canvas-preview:" ++ second := by
  intro same
  have chars := congrArg (fun text => text.toList.head?) same
  simp at chars

theorem uuid_ext {first second : Uuid} (same : first.text = second.text) : first = second := by
  rw [← uuid_text first, ← uuid_text second, same]

/-- Tasks whose usage is reserved under one key are one task. -/
theorem reservationKey_inj {tasks : List AiTask} {first second : AiTask}
    (keyed : Table.Keyed AiTask.id tasks) (keys : Table.Keyed AiTask.idempotencyKey tasks)
    (firstMem : first ∈ tasks) (secondMem : second ∈ tasks)
    (same : first.reservationKey = second.reservationKey) : first = second := by
  rw [AiTask.reservationKey, AiTask.reservationKey] at same
  cases firstCanvas : first.canvasId with
  | none =>
      cases secondCanvas : second.canvasId with
      | none =>
          rw [firstCanvas, secondCanvas] at same
          exact keys.eq firstMem secondMem (String.append_right_inj _ |>.mp same)
      | some _ =>
          rw [firstCanvas, secondCanvas] at same
          exact absurd same (reservationKeys_ne _ _)
  | some _ =>
      cases secondCanvas : second.canvasId with
      | none =>
          rw [firstCanvas, secondCanvas] at same
          exact absurd same.symm (reservationKeys_ne _ _)
      | some _ =>
          rw [firstCanvas, secondCanvas] at same
          exact keyed.eq firstMem secondMem (uuid_ext (String.append_right_inj _ |>.mp same))

/-- The reservation of a task. -/
def PlatformDb.reservationOf? (db : PlatformDb) (task : AiTask) :
    Option (UsageReservation ℚ) :=
  db.usage.reservation? task.usageReservationId

/-- Every task has its reservation, every reservation its task, and what is
committed belongs to the tasks that are completed. -/
structure PlatformDb.Matched (db : PlatformDb) : Prop where
  keyed : Table.Keyed AiTask.id db.tasks
  keys : Table.Keyed AiTask.idempotencyKey db.tasks
  reservations : Table.Keyed UsageReservation.id db.usage.reservations
  reserved : ∀ task ∈ db.tasks, ∃ reservation, db.reservationOf? task = some reservation ∧
    reservation.idempotencyKey = task.reservationKey ∧
    (task.status = .completed ↔ reservation.status = .committed)
  covered : ∀ reservation ∈ db.usage.reservations, ∃ task ∈ db.tasks,
    reservation.idempotencyKey = task.reservationKey

variable {db : PlatformDb} {task entity : AiTask} {host : Host}

/-- Tasks that share a reservation are one task. -/
theorem PlatformDb.Matched.owner (matched : db.Matched) {first second : AiTask}
    (firstMem : first ∈ db.tasks) (secondMem : second ∈ db.tasks)
    (same : first.usageReservationId = second.usageReservationId) : first = second := by
  obtain ⟨firstRow, firstEq, firstKey, _⟩ := matched.reserved first firstMem
  obtain ⟨secondRow, secondEq, secondKey, _⟩ := matched.reserved second secondMem
  rw [reservationOf?, same] at firstEq
  cases firstEq.symm.trans secondEq
  exact reservationKey_inj matched.keyed matched.keys firstMem secondMem
    (firstKey.symm.trans secondKey)

/-- The entity is the task in all that ties it to its reservation. -/
structure AiTask.SameOwner (task entity : AiTask) : Prop where
  id : entity.id = task.id
  idempotencyKey : entity.idempotencyKey = task.idempotencyKey
  usageReservationId : entity.usageReservationId = task.usageReservationId
  canvasId : entity.canvasId = task.canvasId

theorem AiTask.SameOwner.reservationKey (same : task.SameOwner entity) :
    entity.reservationKey = task.reservationKey := by
  rw [AiTask.reservationKey, AiTask.reservationKey, same.canvasId, same.id, same.idempotencyKey]

/-- The tasks after a write of one of them. -/
theorem mem_writeTask {other : AiTask} :
    other ∈ (db.writeTask entity).tasks ↔ other = entity ∨ other ∈ db.tasks ∧ other.id ≠ entity.id :=
  Table.mem_save_iff

theorem keys_writeTask (matched : db.Matched) (taskMem : task ∈ db.tasks)
    (same : task.SameOwner entity) :
    Table.Keyed AiTask.idempotencyKey (db.writeTask entity).tasks := by
  have found : Table.get? AiTask.id db.tasks entity.id = some task := by
    rw [same.id]
    exact matched.keyed.get?_of_mem taskMem
  have column : ∀ old ∈ db.tasks, old.id = entity.id →
      entity.idempotencyKey = old.idempotencyKey := by
    intro old oldMem sameId
    rw [matched.keyed.eq oldMem taskMem (sameId.trans same.id), same.idempotencyKey]
  have written : (db.writeTask entity).tasks = Table.put AiTask.id db.tasks entity :=
    Table.save_of_get?_eq_some found
  rw [Table.Keyed, written, Table.map_put_of_eq column]
  exact matched.keys

/-- Writing a task and its reservation keeps the invariant if the two agree. -/
theorem matched_write (matched : db.Matched) (taskMem : task ∈ db.tasks)
    (same : task.SameOwner entity) {usage : UsageDb ℚ}
    (keyed : Table.Keyed UsageReservation.id usage.reservations)
    (kept : ∀ id, id ≠ task.usageReservationId → usage.reservation? id = db.usage.reservation? id)
    (own : ∃ reservation, usage.reservation? task.usageReservationId = some reservation ∧
      reservation.idempotencyKey = task.reservationKey ∧
      (entity.status = .completed ↔ reservation.status = .committed))
    (covered : ∀ reservation ∈ usage.reservations, ∃ old ∈ db.usage.reservations,
      old.idempotencyKey = reservation.idempotencyKey) :
    ((db.writeTask entity).setUsage usage).Matched where
  keyed := Table.keyed_save matched.keyed
  keys := keys_writeTask matched taskMem same
  reservations := keyed
  reserved := by
    intro other otherMem
    rcases mem_writeTask.mp otherMem with rfl | ⟨otherOld, ne⟩
    · obtain ⟨reservation, reservationEq, keyEq, agree⟩ := own
      refine ⟨reservation, ?_, keyEq.trans same.reservationKey.symm, agree⟩
      rw [PlatformDb.reservationOf?, same.usageReservationId]
      exact reservationEq
    · obtain ⟨reservation, reservationEq, keyEq, agree⟩ := matched.reserved other otherOld
      refine ⟨reservation, ?_, keyEq, agree⟩
      have apart : other.usageReservationId ≠ task.usageReservationId := by
        intro shared
        rw [matched.owner otherOld taskMem shared, same.id] at ne
        exact ne rfl
      rw [PlatformDb.reservationOf?] at reservationEq ⊢
      rw [← reservationEq]
      exact kept _ apart
  covered := by
    intro reservation reservationMem
    obtain ⟨old, oldMem, keyEq⟩ := covered reservation reservationMem
    obtain ⟨owner, ownerMem, ownerKey⟩ := matched.covered old oldMem
    by_cases own : owner.id = task.id
    · rw [matched.keyed.eq ownerMem taskMem own] at ownerKey
      refine ⟨entity, mem_writeTask.mpr (Or.inl rfl), ?_⟩
      rw [same.reservationKey, ← ownerKey, keyEq]
    · refine ⟨owner, mem_writeTask.mpr (Or.inr ⟨ownerMem, ?_⟩), keyEq.symm.trans ownerKey⟩
      rw [same.id]
      exact own

/-- Writing a task alone keeps the invariant if its end stays what it was. -/
theorem matched_writeTask (matched : db.Matched) (taskMem : task ∈ db.tasks)
    (same : task.SameOwner entity)
    (status : entity.status = .completed ↔ task.status = .completed) :
    (db.writeTask entity).Matched := by
  obtain ⟨reservation, reservationEq, keyEq, agree⟩ := matched.reserved task taskMem
  have kept : ((db.writeTask entity).setUsage db.usage).Matched :=
    matched_write matched taskMem same matched.reservations (fun _ _ => rfl)
      ⟨reservation, reservationEq, keyEq, status.trans agree⟩ fun row rowMem => ⟨row, rowMem, rfl⟩
  exact ⟨kept.keyed, kept.keys, kept.reservations, kept.reserved, kept.covered⟩

/-- Writing a task and finishing its reservation keeps the invariant if the two
agree. -/
theorem matched_finish (matched : db.Matched) (taskMem : task ∈ db.tasks)
    (same : task.SameOwner entity) (status : UsageReservationStatus) (actual : ℚ)
    (agree : ∀ reservation, db.reservationOf? task = some reservation →
      (entity.status = .completed ↔
        (if reservation.status = .reserved then status else reservation.status) = .committed)) :
    ((db.writeTask entity).setUsage
      (finish task.usageReservationId status actual db.usage).2).Matched := by
  obtain ⟨reservation, reservationEq, keyEq, _⟩ := matched.reserved task taskMem
  have idEq : reservation.id = task.usageReservationId := Table.key_of_get? reservationEq
  have settled := agree reservation reservationEq
  have found : db.usage.reservation? task.usageReservationId = some reservation := reservationEq
  rw [finish_apply, found]
  by_cases open' : reservation.status = .reserved
  · simp only [open', if_true] at settled ⊢
    refine matched_write matched taskMem same (Table.keyed_save matched.reservations) ?_
      ⟨reservation.settle status actual, ?_, keyEq, settled⟩ ?_
    · intro id ne
      have other : reservation.id ≠ id := fun equal => ne (equal.symm.trans idEq)
      exact Table.get?_save.trans (if_neg other)
    · exact Table.get?_save.trans (if_pos idEq)
    · intro row rowMem
      rcases Table.mem_save_iff.mp rowMem with rfl | ⟨rowOld, _⟩
      · exact ⟨reservation, Table.mem_of_get? found, rfl⟩
      · exact ⟨row, rowOld, rfl⟩
  · simp only [open', if_false] at settled ⊢
    exact matched_write matched taskMem same matched.reservations (fun _ _ => rfl)
      ⟨reservation, found, keyEq, settled⟩ fun row rowMem => ⟨row, rowMem, rfl⟩

/-- A task that is over without a result, and whose reservation is released. -/
theorem matched_release (matched : db.Matched) (taskMem : task ∈ db.tasks)
    (same : task.SameOwner entity) (running : task.status ≠ .completed)
    (isOver : entity.status ≠ .completed) :
    ((db.writeTask entity).setUsage (releaseUsage task.usageReservationId db.usage).2).Matched := by
  apply matched_finish matched taskMem same
  intro reservation reservationEq
  obtain ⟨other, otherEq, _, agree⟩ := matched.reserved task taskMem
  cases reservationEq.symm.trans otherEq
  refine iff_of_false isOver ?_
  split
  · exact nofun
  · exact fun committed => running (agree.mpr committed)

/-! ## New tasks -/

/-- What `reserveUsage` returns: what was reserved under the key, or a new
reservation. -/
theorem reserveUsage_cases {input : ReserveUsageInput ℚ} {id : Uuid} {now : Nat}
    {usage reached : UsageDb ℚ} {reservation : UsageReservation ℚ}
    (reserveEq : reserveUsage input id now usage = (.ok reservation, reached)) :
    usage.byKey? input.idempotencyKey = some reservation ∨
      usage.byKey? input.idempotencyKey = none ∧ usage.reservation? id = none ∧
        reservation = input.reservation id now ∧
        reached = { usage with reservations := usage.reservations ++ [reservation] } := by
  rw [reserveUsage_apply] at reserveEq
  cases existingEq : usage.byKey? input.idempotencyKey with
  | some existing =>
      simp only [existingEq, Prod.mk.injEq, Except.ok.injEq] at reserveEq
      exact Or.inl (congrArg some reserveEq.1)
  | none =>
      simp only [existingEq] at reserveEq
      split at reserveEq
      · cases reserveEq
      · split at reserveEq
        · split at reserveEq
          · rename_i unused
            simp only [Prod.mk.injEq, Except.ok.injEq] at reserveEq
            obtain ⟨rfl, rfl⟩ := reserveEq
            exact Or.inr ⟨rfl, Option.isNone_iff_eq_none.mp unused, rfl, rfl⟩
          · cases reserveEq
        · cases reserveEq

/-- A new task with a new reservation keeps the invariant. -/
theorem matched_queue (matched : db.Matched) {input : ReserveUsageInput ℚ} {id : Uuid} {now : Nat}
    {usage : UsageDb ℚ} {reservation : UsageReservation ℚ}
    (reserveEq : reserveUsage input id now db.usage = (.ok reservation, usage))
    (freshId : db.task? task.id = none)
    (freshKey : ∀ other ∈ db.tasks, other.idempotencyKey = task.idempotencyKey →
      other.id = task.id)
    (owns : task.usageReservationId = reservation.id)
    (key : task.reservationKey = input.idempotencyKey) (status : task.status ≠ .completed) :
    ((db.setUsage usage).writeTask task).Matched := by
  have absent := Table.get?_eq_none_iff.mp freshId
  have appended : ((db.setUsage usage).writeTask task).tasks = db.tasks ++ [task] :=
    Table.save_of_get?_eq_none freshId
  have newKey : Table.get? AiTask.idempotencyKey db.tasks task.idempotencyKey = none := by
    rw [Table.get?_eq_none_iff]
    intro other otherMem same
    exact absent other otherMem (freshKey other otherMem same)
  have keys : Table.Keyed AiTask.idempotencyKey (db.tasks ++ [task]) :=
    Table.keyed_append matched.keys newKey
  have keyed : Table.Keyed AiTask.id (db.tasks ++ [task]) :=
    Table.keyed_append matched.keyed freshId
  -- a reservation under the key would belong to a task, which would be this one
  have unreserved : db.usage.byKey? input.idempotencyKey ≠ some reservation := by
    intro existing
    obtain ⟨owner, ownerMem, ownerKey⟩ :=
      matched.covered reservation (Table.mem_of_get? existing)
    have shared : owner.reservationKey = task.reservationKey := by
      rw [key, ← ownerKey]
      exact Table.key_of_get? existing
    have same := reservationKey_inj keyed keys (List.mem_append_left _ ownerMem)
      (List.mem_append_right _ List.mem_cons_self) shared
    exact absent owner ownerMem (congrArg AiTask.id same)
  rcases reserveUsage_cases reserveEq with existing | ⟨unused, freshRow, rowEq, usageEq⟩
  · exact absurd existing unreserved
  · have rowId : reservation.id = id := by rw [rowEq]; rfl
    have rowKey : reservation.idempotencyKey = input.idempotencyKey := by rw [rowEq]; rfl
    have rowStatus : reservation.status = .reserved := by rw [rowEq]; rfl
    have lookup : ∀ wanted, usage.reservation? wanted =
        (db.usage.reservation? wanted).or (if id = wanted then some reservation else none) := by
      intro wanted
      rw [usageEq, UsageDb.reservation?, Table.get?_append, rowId]
      rfl
    refine ⟨appended ▸ keyed, appended ▸ keys, ?_, ?_, ?_⟩
    · rw [PlatformDb.writeTask, PlatformDb.setUsage, usageEq]
      exact Table.keyed_append matched.reservations (rowId ▸ freshRow)
    · intro other otherMem
      rw [appended] at otherMem
      rcases List.mem_append.mp otherMem with otherOld | new
      · obtain ⟨row, found, rest⟩ := matched.reserved other otherOld
        refine ⟨row, ?_, rest⟩
        have foundRow : db.usage.reservation? other.usageReservationId = some row := found
        exact (lookup _).trans (by rw [foundRow]; rfl)
      · rw [List.mem_singleton.mp new]
        refine ⟨reservation, ?_, rowKey.trans key.symm, iff_of_false status ?_⟩
        · have own : usage.reservation? task.usageReservationId = some reservation := by
            rw [lookup, owns, rowId, freshRow]
            simp
          exact own
        · rw [rowStatus]
          exact nofun
    · intro row rowMem
      have rowCases : row ∈ db.usage.reservations ++ [reservation] := by
        rw [PlatformDb.writeTask, PlatformDb.setUsage, usageEq] at rowMem
        exact rowMem
      rw [appended]
      rcases List.mem_append.mp rowCases with rowOld | new
      · obtain ⟨owner, ownerMem, ownerKey⟩ := matched.covered row rowOld
        exact ⟨owner, List.mem_append_left _ ownerMem, ownerKey⟩
      · rw [List.mem_singleton.mp new]
        exact ⟨task, List.mem_append_right _ List.mem_cons_self, rowKey.trans key.symm⟩

/-! ## Runs -/

/-- A call of the task services, an event of a worker, or the expiry of
reservations. -/
inductive TaskAction where
  | create (request : AiTaskRequest)
  | cancel (workspaceId id userId : Uuid) (now : Nat)
  | preview (request : PreviewRequest)
  | event (kind : TaskEventKind) (event : TaskEvent)
  | cleanupExpired (now : Nat)

/-- The platform with another database. -/
def Platform.setDb (platform : Platform) (db : PlatformDb) : Platform :=
  { platform with db := db }

/-- The platform after an action. -/
def Platform.act (host : Host) (platform : Platform) : TaskAction → Platform
  | .create request => platform.setDb (createTask request platform.db).2
  | .cancel workspaceId id userId now =>
      platform.setDb (cancelTask workspaceId id userId now platform.db).2
  | .preview request => (create host request platform).2
  | .event kind event => platform.setDb (handle kind event platform.db).2
  | .cleanupExpired now => platform.setDb (usageService (cleanupExpired now) platform.db).2

/-- The name that a preview request makes for its task is not the name of another
task. -/
def PreviewCall.Named (host : Host) (db : PlatformDb) (call : PreviewCall) : Prop :=
  db.previewTask? call = none → db.task? (call.taskId host) = none

/-- The condition on the names that an action makes. -/
def TaskAction.Named (host : Host) (db : PlatformDb) : TaskAction → Prop
  | .preview request => ∀ call, (prepare host request db).1 = .ok call → call.Named host db
  | _ => True

instance (host : Host) (db : PlatformDb) (action : TaskAction) : Decidable (action.Named host db) :=
  match action with
  | .preview request =>
      match prepareEq : (prepare host request db).1 with
      | .ok call =>
          decidable_of_iff (db.previewTask? call = none → db.task? (call.taskId host) = none) <| by
            simp [TaskAction.Named, PreviewCall.Named, prepareEq]
      | .error _ => .isTrue fun _ given => nomatch prepareEq.symm.trans given
  | .create _ | .cancel _ _ _ _ | .event _ _ | .cleanupExpired _ => .isTrue trivial

/-- The services on a platform.  Names of different requests do not collide. -/
def taskSystem (host : Host) : Step Platform TaskAction := fun platform action =>
  if action.Named host platform.db then some (platform.act host action) else none

/-- An action finds the usage of a task that completes still reserved. -/
def InTime (platform : Platform) : TaskAction → Prop
  | .event .completed event => event.authorized .completed = true →
      ∀ task ∈ platform.db.eventTask? event, task.active = true →
        ∀ reservation ∈ platform.db.reservationOf? task, reservation.status = .reserved
  | _ => True

instance (platform : Platform) (action : TaskAction) : Decidable (InTime platform action) :=
  match action with
  | .event .completed event =>
      inferInstanceAs <| Decidable <| event.authorized .completed = true →
        ∀ task ∈ platform.db.eventTask? event, task.active = true →
          ∀ reservation ∈ platform.db.reservationOf? task, reservation.status = .reserved
  | .create _ | .cancel _ _ _ _ | .preview _ | .cleanupExpired _ | .event .started _
  | .event .progress _ | .event .failed _ | .event .cancelled _ => .isTrue trivial

/-- The usage of every task is committed exactly if the task is completed. -/
def Platform.Settled (platform : Platform) : Prop :=
  ∀ task ∈ platform.db.tasks, ∃ reservation, platform.db.reservationOf? task = some reservation ∧
    (task.status = .completed ↔ reservation.status = .committed) ∧
    (task.status ∈ [JobStatus.cancelled, .failed, .superseded] → reservation.status ≠ .committed)

/-! ## What an action keeps -/

theorem matched_congr (matched : db.Matched) {other : PlatformDb} (tasks : other.tasks = db.tasks)
    (usage : other.usage = db.usage) : other.Matched := by
  have rows : ∀ task, other.reservationOf? task = db.reservationOf? task := by
    intro task
    rw [PlatformDb.reservationOf?, usage]
    rfl
  refine ⟨tasks ▸ matched.keyed, tasks ▸ matched.keys, usage ▸ matched.reservations, ?_, ?_⟩
  · intro task taskMem
    rw [rows]
    exact matched.reserved task (tasks ▸ taskMem)
  · intro reservation reservationMem
    rw [tasks]
    exact matched.covered reservation (usage ▸ reservationMem)

/-- An active task is none of the others. -/
theorem AiTask.active_iff : task.active = true ↔
    task.status = .queued ∨ task.status = .running ∨ task.status = .waitingForUser := by
  simp [AiTask.active, activeStatuses]

theorem AiTask.not_completed_of_active (active : task.active = true) :
    task.status ≠ .completed := by
  rcases AiTask.active_iff.mp active with status | status | status <;> simp [status]

theorem matched_previewKeeps {call : PreviewCall} (named : call.Named host db) :
    PreviewKeeps host call db PlatformDb.Matched where
  keyed := fun _ matched => matched.keyed
  bound := by
    intro reached found canvas locked matched locks
    rw [locks.setCanvases]
    exact matched_congr matched rfl rfl
  inserted := fun _ _ matched => matched_congr matched rfl rfl
  frozen := fun _ _ _ matched _ _ => matched_congr matched rfl rfl
  queued := by
    intro reached usage reservation snapshot found matched tasksEq usageEq _ unanswered reserveEq
      free
    have fresh : reached.task? (call.taskId host) = none := by
      rw [PlatformDb.task?, tasksEq]
      exact named unanswered.1
    exact matched_queue matched (usageEq ▸ reserveEq) fresh (tasksEq ▸ free) rfl rfl nofun
  superseded := by
    intro reached task replacement matched taskMem active
    exact matched_release matched taskMem ⟨rfl, rfl, rfl, rfl⟩
      (AiTask.not_completed_of_active active) nofun

theorem matched_createTask (matched : db.Matched) (request : AiTaskRequest) :
    (createTask request db).2.Matched := by
  refine readOnly_asking.bind_keeps matched fun member _ => ?_
  refine readOnly_reading.bind_keeps matched fun existing _ => ?_
  cases existing with
  | some task => exact matched
  | none =>
      refine transaction_keeps matched fun created target bodyEq => ?_
      obtain ⟨reservation, _, serviceEq, restEq⟩ := bind_eq_ok_iff.mp bodyEq
      obtain ⟨usage, reserveEq, rfl⟩ := usageService_eq_iff.mp serviceEq
      obtain ⟨_, _, insertEq, pureEq⟩ := bind_eq_ok_iff.mp restEq
      obtain ⟨_, rfl⟩ := pure_eq_ok_iff.mp pureEq
      obtain ⟨taken, _, readEq, restEq⟩ := bind_eq_ok_iff.mp insertEq
      obtain ⟨takenEq, rfl⟩ := reading_eq_ok_iff.mp readEq
      obtain ⟨_, _, requireEq, saveEq⟩ := bind_eq_ok_iff.mp restEq
      obtain ⟨unused, rfl⟩ := require_eq_ok_iff.mp requireEq
      obtain ⟨free, rfl⟩ := saveTask_eq_ok_iff.mp saveEq
      have fresh : db.task? request.taskId = none :=
        takenEq.trans (Option.isNone_iff_eq_none.mp unused)
      exact matched_queue matched reserveEq fresh free rfl rfl nofun

theorem matched_cancelTask (matched : db.Matched) (workspaceId id userId : Uuid) (now : Nat) :
    (cancelTask workspaceId id userId now db).2.Matched := by
  refine readOnly_asking.bind_keeps matched fun member _ => ?_
  refine transaction_keeps matched fun cancelled target bodyEq => ?_
  obtain ⟨found, _, readEq, restEq⟩ := bind_eq_ok_iff.mp bodyEq
  obtain ⟨foundEq, rfl⟩ := reading_eq_ok_iff.mp readEq
  obtain ⟨locked, _, orEq, restEq⟩ := bind_eq_ok_iff.mp restEq
  obtain ⟨rfl, rfl⟩ := orThrow_eq_ok_iff.mp orEq
  have lockedMem : locked ∈ db.tasks :=
    Table.mem_of_get? (Option.filter_eq_some_iff.mp foundEq).1
  by_cases already : locked.status = .cancelled
  · rw [if_pos already] at restEq
    obtain ⟨_, rfl⟩ := pure_eq_ok_iff.mp restEq
    exact matched
  · rw [if_neg already] at restEq
    obtain ⟨_, _, requireEq, restEq⟩ := bind_eq_ok_iff.mp restEq
    obtain ⟨active, rfl⟩ := require_eq_ok_iff.mp requireEq
    obtain ⟨_, _, saveEq, restEq⟩ := bind_eq_ok_iff.mp restEq
    obtain ⟨_, rfl⟩ := saveTask_eq_ok_iff.mp saveEq
    obtain ⟨_, _, serviceEq, pureEq⟩ := bind_eq_ok_iff.mp restEq
    obtain ⟨usage, releaseEq, rfl⟩ := usageService_eq_iff.mp serviceEq
    obtain ⟨_, rfl⟩ := pure_eq_ok_iff.mp pureEq
    have released : usage = (releaseUsage locked.usageReservationId db.usage).2 :=
      (congrArg Prod.snd releaseEq).symm
    rw [released]
    exact matched_release matched lockedMem ⟨rfl, rfl, rfl, rfl⟩
      (AiTask.not_completed_of_active active) nofun

/-- What the handler does with a task, and what is true of the task then. -/
inductive AiTask.Reacts (task : AiTask) (event : TaskEvent) : TaskEventKind → Reaction → Prop where
  | ignores (kind : TaskEventKind) : Reacts task event kind .ignored
  | saves (kind : TaskEventKind) (entity : AiTask) (same : task.SameOwner entity)
      (open' : task.status ≠ .completed) (still : entity.status ≠ .completed) :
      Reacts task event kind (.saves entity)
  | releases (kind : TaskEventKind) (entity : AiTask) (same : task.SameOwner entity)
      (open' : task.status ≠ .completed) (isOver : entity.status ≠ .completed) :
      Reacts task event kind (.settles entity .release)
  | commits (active : task.active = true) :
      Reacts task event .completed
        (.settles (task.complete event) (.commit (event.actualUsage.getD 1)))

theorem AiTask.finish_reacts (task : AiTask) (event : TaskEvent) :
    task.Reacts event .completed (task.finish event true) ∧
      task.Reacts event .failed (task.finish event false) := by
  by_cases superseded : task.status = .superseded
  · have open' : task.status ≠ .completed := by simp [superseded]
    simp only [AiTask.finish, superseded, if_true]
    exact ⟨.saves _ _ ⟨rfl, rfl, rfl, rfl⟩ open' nofun,
      .saves _ _ ⟨rfl, rfl, rfl, rfl⟩ open' nofun⟩
  · by_cases ended : task.status ∈ endedStatuses
    · simp only [AiTask.finish, superseded, ended, if_true, if_false]
      exact ⟨.ignores _, .ignores _⟩
    · have active : task.active = true := by
        rw [AiTask.active_iff]
        revert superseded ended
        cases task.status <;> decide
      simp only [AiTask.finish, superseded, ended, if_true, if_false, Bool.false_eq_true]
      exact ⟨.commits active, .releases _ _ ⟨rfl, rfl, rfl, rfl⟩
        (AiTask.not_completed_of_active active) nofun⟩

theorem AiTask.react_reacts (task : AiTask) (event : TaskEvent) (kind : TaskEventKind) :
    task.Reacts event kind (task.react event kind) := by
  cases kind with
  | started =>
      rw [AiTask.react]
      split
      · rename_i queued
        exact .saves _ _ ⟨rfl, rfl, rfl, rfl⟩ (by simp [queued]) nofun
      · exact .ignores _
  | progress =>
      rw [AiTask.react]
      split
      · rename_i running
        have open' : task.status ≠ .completed := by
          intro completed
          simp [completed] at running
        exact .saves _ _ ⟨rfl, rfl, rfl, rfl⟩ open' open'
      · exact .ignores _
  | cancelled =>
      rw [AiTask.react]
      split
      · exact .ignores _
      · rename_i running
        have open' : task.status ≠ .completed := by
          intro completed
          simp [completed, endedStatuses] at running
        exact .releases _ _ ⟨rfl, rfl, rfl, rfl⟩ open' nofun
  | completed => exact (task.finish_reacts event).1
  | failed => exact (task.finish_reacts event).2

theorem settleTask_ok {settlement : Settlement} {target : PlatformDb} {done : Unit}
    (settleEq : settleTask entity settlement db = (.ok done, target)) :
    target = (db.writeTask entity).setUsage
      (settlement.settle entity.usageReservationId db.usage).2 := by
  obtain ⟨_, _, saveEq, restEq⟩ := bind_eq_ok_iff.mp settleEq
  obtain ⟨_, rfl⟩ := saveTask_eq_ok_iff.mp saveEq
  obtain ⟨_, _, serviceEq, pureEq⟩ := bind_eq_ok_iff.mp restEq
  obtain ⟨usage, settledEq, rfl⟩ := usageService_eq_iff.mp serviceEq
  obtain ⟨_, rfl⟩ := pure_eq_ok_iff.mp pureEq
  have usageEq : usage = (settlement.settle entity.usageReservationId db.usage).2 :=
    (congrArg Prod.snd settledEq).symm
  rw [usageEq]

/-- The write of the handler keeps the invariant, if a task that completes finds
its usage reserved. -/
theorem matched_perform (matched : db.Matched) (taskMem : task ∈ db.tasks) {event : TaskEvent}
    {kind : TaskEventKind} {reaction : Reaction} (reacts : task.Reacts event kind reaction)
    (inTime : kind = .completed → task.active = true →
      ∀ reservation ∈ db.reservationOf? task, reservation.status = .reserved) :
    (reaction.perform db).2.Matched := by
  cases reacts with
  | ignores => exact matched
  | saves _ entity same open' still =>
      exact saveTask_keeps matched
        (matched_writeTask matched taskMem same (iff_of_false still open'))
  | releases _ entity same open' isOver =>
      refine transaction_keeps matched fun done target settleEq => ?_
      rw [settleTask_ok settleEq, same.usageReservationId]
      exact matched_release matched taskMem same open' isOver
  | commits active =>
      refine transaction_keeps matched fun done target settleEq => ?_
      rw [settleTask_ok settleEq]
      have same : task.SameOwner (task.complete event) := ⟨rfl, rfl, rfl, rfl⟩
      refine matched_finish matched taskMem same .committed _ fun reservation reservationEq => ?_
      rw [if_pos (inTime rfl active reservation reservationEq)]
      exact iff_of_true rfl rfl

theorem matched_handle (matched : db.Matched) {kind : TaskEventKind} {event : TaskEvent}
    (inTime : kind = .completed → event.authorized .completed = true →
      ∀ task ∈ db.eventTask? event, task.active = true →
        ∀ reservation ∈ db.reservationOf? task, reservation.status = .reserved) :
    (handle kind event db).2.Matched := by
  refine readOnly_require.bind_keeps matched fun _ requireEq => ?_
  obtain ⟨authorized, _⟩ := require_eq_ok_iff.mp requireEq
  refine readOnly_reading.bind_keeps matched fun found readEq => ?_
  obtain ⟨foundEq, _⟩ := reading_eq_ok_iff.mp readEq
  refine readOnly_orThrow.bind_keeps matched fun task orEq => ?_
  obtain ⟨rfl, _⟩ := orThrow_eq_ok_iff.mp orEq
  have taskMem : task ∈ db.tasks := Table.mem_of_get? (Option.filter_eq_some_iff.mp foundEq).1
  have performed : ((task.react event kind).perform db).2.Matched :=
    matched_perform matched taskMem (task.react_reacts event kind) fun completes active =>
      inTime completes (completes ▸ authorized) task foundEq active
  refine bind_keeps performed fun done target performEq => ?_
  rw [performEq] at performed
  cases (task.react event kind).suggests event with
  | none => exact performed
  | some suggestion => exact matched_congr performed rfl rfl

/-- Every action in time keeps the invariant. -/
theorem matched_act {platform : Platform} {action : TaskAction} (matched : platform.db.Matched)
    (named : action.Named host platform.db) (inTime : InTime platform action) :
    (platform.act host action).db.Matched := by
  cases action with
  | create request => exact matched_createTask matched request
  | cancel workspaceId id userId now => exact matched_cancelTask matched workspaceId id userId now
  | preview request =>
      exact (create_keeps (fun call prepareEq => matched_previewKeeps (named call prepareEq))
        matched).1
  | event kind event =>
      refine matched_handle matched fun completes authorized => ?_
      subst completes
      exact inTime authorized
  | cleanupExpired now =>
      have keyed : Table.Keyed UsageReservation.id
          (platform.db.usage.reservations.map (UsageReservation.expire now)) :=
        Table.keyed_map (expire_id now) matched.reservations
      refine ⟨matched.keyed, matched.keys, keyed, ?_, ?_⟩
      · intro task taskMem
        obtain ⟨reservation, found, keyEq, agree⟩ := matched.reserved task taskMem
        have idEq : reservation.id = task.usageReservationId := Table.key_of_get? found
        refine ⟨reservation.expire now, ?_, (expire_idempotencyKey now _).trans keyEq,
          agree.trans (expire_committed_iff now _).symm⟩
        apply keyed.get?_eq_some_iff.mpr
        exact ⟨List.mem_map_of_mem (Table.mem_of_get? found), (expire_id now _).trans idEq⟩
      · intro row rowMem
        obtain ⟨reservation, reservationMem, rfl⟩ := List.mem_map.mp rowMem
        obtain ⟨task, taskMem, keyEq⟩ := matched.covered reservation reservationMem
        exact ⟨task, taskMem, (expire_idempotencyKey now _).trans keyEq⟩

/-! ## Settled reservations stay -/

/-- Reservations that are not reserved any more are the same later, and the keys
of the tables stay unique. -/
structure KeepsSettled (before after : PlatformDb) : Prop where
  tasks : Table.Keyed AiTask.id before.tasks → Table.Keyed AiTask.id after.tasks
  reservations : Table.Keyed UsageReservation.id before.usage.reservations →
    Table.Keyed UsageReservation.id after.usage.reservations
  stays : Table.Keyed UsageReservation.id before.usage.reservations →
    ∀ reservation ∈ before.usage.reservations, reservation.status ≠ .reserved →
      reservation ∈ after.usage.reservations

theorem keepsSettled_refl (db : PlatformDb) : KeepsSettled db db :=
  ⟨id, id, fun _ _ mem _ => mem⟩

theorem KeepsSettled.trans {first second third : PlatformDb} (left : KeepsSettled first second)
    (right : KeepsSettled second third) : KeepsSettled first third where
  tasks := fun keyed => right.tasks (left.tasks keyed)
  reservations := fun keyed => right.reservations (left.reservations keyed)
  stays := fun keyed reservation mem settled =>
    right.stays (left.reservations keyed) reservation (left.stays keyed reservation mem settled)
      settled

theorem keepsSettled_writeTask (db : PlatformDb) (entity : AiTask) :
    KeepsSettled db (db.writeTask entity) :=
  ⟨Table.keyed_save, id, fun _ _ mem _ => mem⟩

/-- A call of the usage service settles no reservation twice. -/
theorem keepsSettled_of_usageStep {usage : UsageDb ℚ} (step : UsageStep db.usage usage) :
    KeepsSettled db (db.setUsage usage) := by
  cases step with
  | kept => exact keepsSettled_refl db
  | reserved reservation _ freshId _ =>
      exact ⟨id, fun keyed => Table.keyed_append keyed freshId,
        fun _ row mem _ => List.mem_append_left _ mem⟩
  | settled reservation status actual found reserved =>
      refine ⟨id, fun keyed => Table.keyed_save keyed, fun keyed row mem isOver => ?_⟩
      refine Table.mem_save_iff.mpr (Or.inr ⟨mem, fun same => isOver ?_⟩)
      rw [keyed.eq mem (Table.mem_of_get? found) same]
      exact reserved
  | expired now =>
      refine ⟨id, Table.keyed_map (expire_id now), fun _ row mem isOver => ?_⟩
      refine List.mem_map.mpr ⟨row, mem, ?_⟩
      rw [UsageReservation.expire, if_neg]
      exact fun expired => isOver expired.1

/-- Whatever a computation does, it settles no reservation twice. -/
def SettlesOnce {α : Type} (body : Statements α) : Prop :=
  ∀ db, KeepsSettled db (body db).2

section
variable {α β : Type}

theorem settlesOnce_readOnly {body : Statements α} (reads : ReadOnly body) : SettlesOnce body := by
  intro db
  rw [reads.state_eq]
  exact keepsSettled_refl db

theorem SettlesOnce.bind {first : Statements α} {next : α → Statements β}
    (firstOnce : SettlesOnce first) (nextOnce : ∀ value, SettlesOnce (next value)) :
    SettlesOnce (first >>= next) := by
  intro db
  have left : KeepsSettled db (first db).2 := firstOnce db
  refine bind_keeps left fun value middle firstEq => ?_
  rw [firstEq] at left
  exact left.trans (nextOnce value middle)

theorem SettlesOnce.transaction {body : Statements α} (once : SettlesOnce body) :
    SettlesOnce (Effect.transaction body) := by
  intro db
  rcases transaction_state body db with kept | undone
  · rw [kept]
    exact once db
  · rw [undone]
    exact keepsSettled_refl db

theorem settlesOnce_usage {body : UsageService ℚ α}
    (steps : ∀ usage, UsageStep usage (body usage).2) : SettlesOnce (usageService body) :=
  fun db => keepsSettled_of_usageStep (steps db.usage)

end

theorem settlesOnce_saveTask (entity : AiTask) : SettlesOnce (saveTask entity) := by
  refine (settlesOnce_readOnly readOnly_reading).bind fun _ => ?_
  refine (settlesOnce_readOnly readOnly_require).bind fun _ => ?_
  exact fun db => keepsSettled_writeTask db entity

theorem settlesOnce_createTask (request : AiTaskRequest) : SettlesOnce (createTask request) := by
  refine (settlesOnce_readOnly readOnly_asking).bind fun member => ?_
  refine (settlesOnce_readOnly readOnly_reading).bind fun existing => ?_
  cases existing with
  | some task => exact settlesOnce_readOnly readOnly_pure
  | none =>
      apply SettlesOnce.transaction
      refine (settlesOnce_usage fun usage => usageStep_reserve _ _ _).bind fun reservation => ?_
      refine SettlesOnce.bind ?_ fun _ => settlesOnce_readOnly readOnly_pure
      refine (settlesOnce_readOnly readOnly_reading).bind fun taken => ?_
      exact (settlesOnce_readOnly readOnly_require).bind fun _ => settlesOnce_saveTask _

theorem settlesOnce_cancelTask (workspaceId id userId : Uuid) (now : Nat) :
    SettlesOnce (cancelTask workspaceId id userId now) := by
  refine (settlesOnce_readOnly readOnly_asking).bind fun member => SettlesOnce.transaction ?_
  refine (settlesOnce_readOnly readOnly_reading).bind fun found => ?_
  refine (settlesOnce_readOnly readOnly_orThrow).bind fun locked => ?_
  split
  · exact settlesOnce_readOnly readOnly_pure
  · refine (settlesOnce_readOnly readOnly_require).bind fun _ => ?_
    refine (settlesOnce_saveTask _).bind fun _ => ?_
    refine (settlesOnce_usage fun usage => usageStep_finish _ _ _).bind fun _ => ?_
    exact settlesOnce_readOnly readOnly_pure

theorem settlesOnce_handle (kind : TaskEventKind) (event : TaskEvent) :
    SettlesOnce (handle kind event) := by
  refine (settlesOnce_readOnly readOnly_require).bind fun _ => ?_
  refine (settlesOnce_readOnly readOnly_reading).bind fun found => ?_
  refine (settlesOnce_readOnly readOnly_orThrow).bind fun task => ?_
  refine SettlesOnce.bind ?_ fun _ => ?_
  · cases task.react event kind with
    | ignored => exact settlesOnce_readOnly readOnly_pure
    | saves entity => exact settlesOnce_saveTask entity
    | settles entity settlement =>
        apply SettlesOnce.transaction
        refine (settlesOnce_saveTask entity).bind fun _ => ?_
        refine SettlesOnce.bind ?_ fun _ => settlesOnce_readOnly readOnly_pure
        cases settlement with
        | commit actual => exact settlesOnce_usage fun usage => usageStep_finish _ _ _
        | release => exact settlesOnce_usage fun usage => usageStep_finish _ _ _
  · cases (task.react event kind).suggests event with
    | none => exact settlesOnce_readOnly readOnly_pure
    | some suggestion =>
        refine (settlesOnce_readOnly readOnly_reading).bind fun existing => ?_
        exact fun db => ⟨id, id, fun _ _ mem _ => mem⟩

/-- What a preview request does to the tables of usage. -/
theorem keepsSettled_previewKeeps {call : PreviewCall} (keyed : Table.Keyed AiTask.id db.tasks) :
    PreviewKeeps host call db (KeepsSettled db) where
  keyed := fun _ kept => kept.tasks keyed
  bound := by
    intro reached found canvas locked kept locks
    rw [locks.setCanvases]
    exact kept.trans ⟨id, id, fun _ _ mem _ => mem⟩
  inserted := fun _ _ kept => kept.trans ⟨id, id, fun _ _ mem _ => mem⟩
  frozen := fun _ _ _ kept _ _ => kept.trans ⟨id, id, fun _ _ mem _ => mem⟩
  queued := by
    intro reached usage reservation snapshot found kept _ usageEq _ _ reserveEq _
    have step : UsageStep reached.usage usage := by
      have reserved : UsageStep db.usage
          (reserveUsage (call.usage host) call.reservationId call.now db.usage).2 :=
        usageStep_reserve _ _ _
      rw [reserveEq] at reserved
      rw [usageEq]
      exact reserved
    exact (kept.trans (keepsSettled_of_usageStep step)).trans (keepsSettled_writeTask _ _)
  superseded := by
    intro reached task replacement kept _ _
    have step : UsageStep (reached.writeTask (task.supersede replacement)).usage
        (releaseUsage task.usageReservationId reached.usage).2 := usageStep_finish _ _ _
    exact (kept.trans (keepsSettled_writeTask _ _)).trans (keepsSettled_of_usageStep step)

/-- No action settles a reservation twice. -/
theorem keepsSettled_act {platform : Platform} (keyed : Table.Keyed AiTask.id platform.db.tasks)
    (action : TaskAction) : KeepsSettled platform.db (platform.act host action).db := by
  cases action with
  | create request => exact settlesOnce_createTask request platform.db
  | cancel workspaceId id userId now =>
      exact settlesOnce_cancelTask workspaceId id userId now platform.db
  | preview request =>
      exact (create_keeps (fun _ _ => keepsSettled_previewKeeps keyed)
        (keepsSettled_refl platform.db)).1
  | event kind event => exact settlesOnce_handle kind event platform.db
  | cleanupExpired now => exact keepsSettled_of_usageStep (.expired now)

/-! ## Results that come too late -/

/-- A result that finds the usage of its task settled completes the task and
commits nothing. -/
theorem unsettled_late {platform : Platform} {event : TaskEvent} {task : AiTask}
    {reservation : UsageReservation ℚ} (matched : platform.db.Matched)
    (authorized : event.authorized .completed = true)
    (taskEq : platform.db.eventTask? event = some task) (active : task.active = true)
    (reservationEq : platform.db.reservationOf? task = some reservation)
    (late : reservation.status ≠ .reserved) :
    ¬ (platform.act host (.event .completed event)).Settled := by
  have taskMem : task ∈ platform.db.tasks :=
    Table.mem_of_get? (Option.filter_eq_some_iff.mp taskEq).1
  have running := AiTask.not_completed_of_active active
  have uncommitted : reservation.status ≠ .committed := by
    obtain ⟨other, otherEq, _, agree⟩ := matched.reserved task taskMem
    cases reservationEq.symm.trans otherEq
    exact fun committed => running (agree.mpr committed)
  have reactEq : task.react event .completed =
      .settles (task.complete event) (.commit (event.actualUsage.getD 1)) := by
    rw [AiTask.react, AiTask.finish]
    rcases AiTask.active_iff.mp active with status | status | status <;>
      simp [status, endedStatuses]
  have free : ∀ other ∈ platform.db.tasks,
      other.idempotencyKey = (task.complete event).idempotencyKey →
        other.id = (task.complete event).id := by
    intro other otherMem sameKey
    rw [matched.keys.eq otherMem taskMem sameKey]
    rfl
  have finished : commitUsage task.usageReservationId (event.actualUsage.getD 1)
      platform.db.usage = (.ok reservation, platform.db.usage) := by
    have found : platform.db.usage.reservation? task.usageReservationId = some reservation :=
      reservationEq
    rw [commitUsage, finish_apply, found]
    simp only [late, if_false]
  have performed : (task.react event .completed).perform platform.db =
      (.ok (), platform.db.writeTask (task.complete event)) := by
    rw [reactEq, Reaction.perform, transaction_eq_ok_iff, settleTask]
    refine bind_eq_ok_iff.mpr ⟨(), _, saveTask_eq_ok_iff.mpr ⟨free, rfl⟩, ?_⟩
    refine bind_eq_ok_iff.mpr ⟨reservation, _, ?_, rfl⟩
    exact usageService_eq_iff.mpr ⟨platform.db.usage, finished, rfl⟩
  have handled : (handle .completed event platform.db).2.tasks =
        (platform.db.writeTask (task.complete event)).tasks ∧
      (handle .completed event platform.db).2.usage = platform.db.usage := by
    have read : (reading fun db => db.eventTask? event : Statements (Option AiTask)) platform.db =
        (.ok (some task), platform.db) := reading_eq_ok_iff.mpr ⟨taskEq, rfl⟩
    have allowed : (require (event.authorized .completed)
        (.internalServerError "Worker event authorization mismatch") : Statements Unit)
        platform.db = (.ok (), platform.db) := require_eq_ok_iff.mpr ⟨authorized, rfl⟩
    rw [handle, bind_of_ok allowed, bind_of_ok read,
      bind_of_ok (orThrow_eq_ok_iff.mpr ⟨rfl, rfl⟩), bind_of_ok performed]
    cases (task.react event .completed).suggests event with
    | none => exact ⟨rfl, rfl⟩
    | some suggestion => exact ⟨rfl, rfl⟩
  intro settled
  have completedMem : task.complete event ∈
      (platform.act host (.event .completed event)).db.tasks := by
    have written : task.complete event ∈ (handle .completed event platform.db).2.tasks := by
      rw [handled.1]
      exact mem_writeTask.mpr (Or.inl rfl)
    exact written
  obtain ⟨other, otherEq, agree, _⟩ := settled _ completedMem
  have same : platform.db.reservationOf? task = some other := by
    have read : (handle .completed event platform.db).2.reservationOf? (task.complete event) =
      some other := otherEq
    rw [PlatformDb.reservationOf?, handled.2] at read
    exact read
  cases reservationEq.symm.trans same
  exact uncommitted (agree.mp rfl)

/-- A platform that is matched is settled. -/
theorem PlatformDb.Matched.settled {platform : Platform} (matched : platform.db.Matched) :
    platform.Settled := by
  intro task taskMem
  obtain ⟨reservation, reservationEq, _, agree⟩ := matched.reserved task taskMem
  refine ⟨reservation, reservationEq, agree, fun isOver committed => ?_⟩
  rw [agree.mpr committed] at isOver
  simp at isOver

/-- An action out of time leaves a platform that is not settled. -/
theorem unsettled_of_not_inTime {platform : Platform} {action : TaskAction}
    (matched : platform.db.Matched) (late : ¬ InTime platform action) :
    ¬ (platform.act host action).Settled := by
  cases action with
  | event kind event =>
      cases kind with
      | completed =>
          simp only [InTime, Classical.not_imp, not_forall] at late
          obtain ⟨authorized, task, taskEq, active, reservation, reservationEq, settled⟩ := late
          exact unsettled_late matched authorized taskEq active reservationEq settled
      | _ => exact absurd trivial late
  | _ => exact absurd trivial late

/-! ## Usage and outcome -/

/-- From a platform without tasks and reservations, in every run: usage matches
the outcome of the tasks in all states exactly if every result that completes a
task finds its usage still reserved; and a reservation that has left `reserved`
is the same ever after. -/
theorem usage_settled (host : Host) {start platform : Platform} {actions : List TaskAction}
    (noTasks : start.db.tasks = []) (noReservations : start.db.usage.reservations = [])
    (runEq : (taskSystem host).run start actions = some platform) :
    ((taskSystem host).Always Platform.Settled start actions ↔
        (taskSystem host).Meets InTime start actions) ∧
      ∀ first second middle, actions = first ++ second →
        (taskSystem host).run start first = some middle →
        ∀ reservation ∈ middle.db.usage.reservations, reservation.status ≠ .reserved →
          platform.db.usage.reservation? reservation.id = some reservation := by
  have matched : start.db.Matched := by
    refine ⟨?_, ?_, ?_, ?_, ?_⟩ <;> simp [noTasks, noReservations]
  have stepEq : ∀ {state : Platform} {action : TaskAction} {next : Platform},
      taskSystem host state action = some next →
        action.Named host state.db ∧ next = state.act host action := by
    intro state action next taken
    rw [taskSystem, Option.ite_none_right_eq_some] at taken
    exact ⟨taken.1, (Option.some.inj taken.2).symm⟩
  constructor
  · let inv (platform : Platform) : Prop := platform.db.Matched
    have preserved : ∀ state action next, inv state → InTime state action →
        taskSystem host state action = some next → inv next := by
      intro state action next holds inTime taken
      obtain ⟨named, rfl⟩ := stepEq taken
      exact matched_act holds named inTime
    have violated : ∀ state action next, inv state → ¬ InTime state action →
        taskSystem host state action = some next → ¬ next.Settled := by
      intro state action next holds late taken
      obtain ⟨_, rfl⟩ := stepEq taken
      exact unsettled_of_not_inTime holds late
    exact Step.always_iff_meets (fun _ => PlatformDb.Matched.settled) preserved violated matched
      runEq
  · intro first second middle splits firstEq reservation reservationMem settled
    let keyed (platform : Platform) : Prop := Table.Keyed AiTask.id platform.db.tasks ∧
      Table.Keyed UsageReservation.id platform.db.usage.reservations
    have keeps : ∀ state action next, keyed state → taskSystem host state action = some next →
        keyed next ∧ KeepsSettled state.db next.db := by
      intro state action next holds taken
      obtain ⟨_, rfl⟩ := stepEq taken
      have kept : KeepsSettled state.db (state.act host action).db :=
        keepsSettled_act holds.1 action
      exact ⟨⟨kept.tasks holds.1, kept.reservations holds.2⟩, kept⟩
    have middleKeyed : keyed middle :=
      Step.invariant_of_run (fun state action next holds taken =>
        (keeps state action next holds taken).1) ⟨matched.keyed, matched.reservations⟩ firstEq
    have secondEq : (taskSystem host).run middle second = some platform := by
      rw [splits, Step.run_append, firstEq] at runEq
      exact runEq
    have later : keyed platform ∧ KeepsSettled middle.db platform.db := by
      let inv (platform : Platform) : Prop := keyed platform ∧ KeepsSettled middle.db platform.db
      have preserved : ∀ state action next, inv state →
          taskSystem host state action = some next → inv next := by
        intro state action next holds taken
        obtain ⟨nextKeyed, kept⟩ := keeps state action next holds.1 taken
        exact ⟨nextKeyed, holds.2.trans kept⟩
      have start : inv middle := ⟨middleKeyed, keepsSettled_refl middle.db⟩
      exact Step.invariant_of_run preserved start secondEq
    apply later.1.2.get?_of_mem
    exact later.2.stays middleKeyed.2 reservation reservationMem settled

/-! ## Examples -/

/-- A request for a task. -/
def exampleTaskRequest : AiTaskRequest where
  workspaceId := exampleWorkspace
  dto := ⟨"chat", [], some "chat"⟩
  userId := exampleAlice
  correlationId := "correlation"
  randomKey := "random"
  taskId := uuid "task"
  reservationId := uuid "reservation"
  now := 0

/-- The result of a task. -/
def exampleResult (taskId : Uuid) : TaskEvent where
  organizationId := exampleOrg
  workspaceId := exampleWorkspace
  taskId := taskId
  claims := ⟨exampleOrg, some exampleWorkspace, some taskId, ["ai.task.completed"]⟩
  progress := none
  currentStep := none
  result := some []
  errorCode := none
  errorMessage := none
  actualUsage := some 2
  suggestionId := uuid "suggestion"
  now := 1

/-- A preview and a task that is completed in time. -/
def exampleActions : List TaskAction :=
  [.preview (exampleRequest exampleAlice "key"), .create exampleTaskRequest,
    .event .completed (exampleResult (uuid "task")), .cleanupExpired 1800001]

/-- The states of the example are settled. -/
theorem usage_settled_example :
    ∃ platform, (taskSystem exampleHost).run examplePlatform exampleActions = some platform ∧
      (taskSystem exampleHost).Always Platform.Settled examplePlatform exampleActions := by
  have enabled : ((taskSystem exampleHost).run examplePlatform exampleActions).isSome := by
    decide +kernel
  obtain ⟨platform, runEq⟩ := Option.isSome_iff_exists.mp enabled
  have met : (taskSystem exampleHost).Meets InTime examplePlatform exampleActions := by
    decide +kernel
  exact ⟨platform, runEq, (usage_settled exampleHost rfl rfl runEq).1.mpr met⟩

/-- The result of the task comes after its reservation has expired. -/
def exampleLate : List TaskAction :=
  [.create exampleTaskRequest, .cleanupExpired 1800001,
    .event .completed (exampleResult (uuid "task"))]

/-- A task that is completed after half an hour commits no usage. -/
theorem usage_uncommitted :
    ∃ platform, (taskSystem exampleHost).run examplePlatform exampleLate = some platform ∧
      ¬ platform.Settled := by
  have late : ((taskSystem exampleHost).run examplePlatform exampleLate).any fun platform =>
      platform.db.tasks.any fun task => task.status == .completed &&
        (platform.db.reservationOf? task).all fun reservation =>
          reservation.status != .committed := by
    decide +kernel
  obtain ⟨platform, runEq, found⟩ := Option.any_eq_true _ _ |>.mp late
  obtain ⟨task, taskMem, completed⟩ := List.any_eq_true.mp found
  obtain ⟨status, uncommitted⟩ := (Bool.and_eq_true _ _).mp completed
  refine ⟨platform, runEq, fun settled => ?_⟩
  obtain ⟨reservation, reservationEq, agree, _⟩ := settled task taskMem
  rw [reservationEq, Option.all_some, bne_iff_ne] at uncommitted
  exact uncommitted (agree.mp (beq_iff_eq.mp status))

end Manbaa.Jobs
