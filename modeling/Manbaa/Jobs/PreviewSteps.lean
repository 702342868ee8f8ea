import Manbaa.Jobs.Preview

/-!
# What a preview request does to the database

A call leaves the tasks as they are, or it queues one task and supersedes older
ones.  The rule for calls asks what binding a canvas, writing snapshots, queueing
a task and superseding a task preserve.
-/

namespace Manbaa.Jobs

open Manbaa.Lib Manbaa.Lib.Effect Manbaa.Workspaces Manbaa.Canvases Manbaa.Usage

variable {host : Host} {call : PreviewCall} {db target : PlatformDb}

/-! ## Checks that change nothing -/

theorem readOnly_requireTaskSnapshot (task : AiTask) : ReadOnly (requireTaskSnapshot task) :=
  readOnly_orThrow.bind fun _ => readOnly_reading.bind fun _ => readOnly_orThrow

theorem readOnly_assertSourcesInTenant : ReadOnly (assertSourcesInTenant call) :=
  readOnly_reading.bind fun _ => readOnly_require

theorem readOnly_serialize (canvasId : Uuid) (expectedRevision : Nat) :
    ReadOnly (serialize host canvasId expectedRevision) :=
  readOnly_reading.bind fun _ => readOnly_orThrow.bind fun _ => readOnly_reading.bind fun _ =>
    readOnly_require.bind fun _ => readOnly_require.bind fun _ => readOnly_require.bind fun _ =>
      readOnly_asking.bind fun _ => readOnly_pure

theorem readOnly_assertElementReferences (elementIds : List String)
    (target : NormalizedPreviewTarget) : ReadOnly (assertElementReferences elementIds target) := by
  rw [assertElementReferences]
  split
  · exact readOnly_pure
  · intro state result reached bodyEq
    exact (Prod.mk.inj bodyEq).2

/-! ## The locked canvas -/

/-- The canvas that a call locks and the database after that: an unbound canvas is
bound to the workspace of the call. -/
inductive Locks (call : PreviewCall) (db : PlatformDb) (found : Canvas) :
    Canvas → PlatformDb → Prop where
  | bound (canvasEq : db.canvas? (uuid call.canvasId) = some found) : Locks call db found found db
  | binds (canvasEq : db.canvas? (uuid call.canvasId) = some found) :
      Locks call db found { found with workspaceId := some (uuid call.workspaceId) }
        (db.setCanvases (Table.save Canvas.id db.canvases
          { found with workspaceId := some (uuid call.workspaceId) }))

theorem Locks.foundEq {found canvas : Canvas} (locks : Locks call db found canvas target) :
    db.canvas? (uuid call.canvasId) = some found := by
  cases locks <;> assumption

/-- The canvas is bound at most. -/
theorem Locks.binding {found canvas : Canvas} (locks : Locks call db found canvas target) :
    ∃ workspaceId, canvas = { found with workspaceId := workspaceId } := by
  cases locks with
  | bound => exact ⟨found.workspaceId, rfl⟩
  | binds => exact ⟨_, rfl⟩

/-- The lock leaves all but the canvases alone. -/
theorem Locks.setCanvases {found canvas : Canvas} (locks : Locks call db found canvas target) :
    target = db.setCanvases target.canvases := by
  cases locks <;> rfl

theorem lockCanvas_ok {canvas : Canvas} {workflow : Workflow}
    (lockEq : lockCanvas call db = (.ok (canvas, workflow), target)) :
    ∃ found, Locks call db found canvas target := by
  obtain ⟨_, _, readEq, restEq⟩ := bind_eq_ok_iff.mp lockEq
  obtain ⟨rfl, rfl⟩ := reading_eq_ok_iff.mp readEq
  obtain ⟨found, _, orEq, restEq⟩ := bind_eq_ok_iff.mp restEq
  obtain ⟨canvasEq, rfl⟩ := orThrow_eq_ok_iff.mp orEq
  obtain ⟨_, _, readEq, restEq⟩ := bind_eq_ok_iff.mp restEq
  obtain ⟨rfl, rfl⟩ := reading_eq_ok_iff.mp readEq
  obtain ⟨owned, _, orEq, restEq⟩ := bind_eq_ok_iff.mp restEq
  obtain ⟨_, rfl⟩ := orThrow_eq_ok_iff.mp orEq
  cases bindingEq : found.workspaceId with
  | some workspaceId =>
      simp only [bindingEq] at restEq
      obtain ⟨_, _, requireEq, pureEq⟩ := bind_eq_ok_iff.mp restEq
      obtain ⟨_, rfl⟩ := require_eq_ok_iff.mp requireEq
      obtain ⟨pairEq, rfl⟩ := pure_eq_ok_iff.mp pureEq
      cases pairEq
      exact ⟨_, .bound canvasEq⟩
  | none =>
      simp only [bindingEq] at restEq
      obtain ⟨_, _, writeEq, pureEq⟩ := bind_eq_ok_iff.mp restEq
      obtain rfl := writing_eq_ok_iff.mp writeEq
      obtain ⟨pairEq, rfl⟩ := pure_eq_ok_iff.mp pureEq
      cases pairEq
      exact ⟨_, .binds canvasEq⟩

/-- The canvas that is serialized after the lock is the locked one. -/
theorem Locks.canvas? {found canvas : Canvas} (locks : Locks call db found canvas target) :
    target.canvas? (uuid call.canvasId) = some canvas := by
  cases locks with
  | bound canvasEq => exact canvasEq
  | binds canvasEq => exact Table.get?_save.trans (if_pos (Table.key_of_get? canvasEq))

/-! ## The frozen canvas -/

/-- The objects of a canvas, in the order of their identifiers. -/
def elements (db : Db) (canvasId : Uuid) : List CanvasObject :=
  (db.objects.filter fun object => object.canvasId == canvasId).insertionSort
    fun first second => first.id.text ≤ second.id.text

/-- What the serializer returns is the document of the canvas at its revision. -/
theorem serialize_ok {canvasId : Uuid} {expectedRevision : Nat}
    {serialized : SerializationResult}
    (serializeEq : serialize host canvasId expectedRevision db = (.ok serialized, target)) :
    ∃ canvas, db.canvas? canvasId = some canvas ∧ canvas.revision = expectedRevision ∧
      canvas.revision ≤ maxSafeInteger ∧
      host.document canvas (elements db.toDb canvasId) = .ok serialized.json := by
  obtain ⟨_, _, readEq, restEq⟩ := bind_eq_ok_iff.mp serializeEq
  obtain ⟨rfl, rfl⟩ := reading_eq_ok_iff.mp readEq
  obtain ⟨canvas, _, orEq, restEq⟩ := bind_eq_ok_iff.mp restEq
  obtain ⟨canvasEq, rfl⟩ := orThrow_eq_ok_iff.mp orEq
  obtain ⟨_, _, readEq, restEq⟩ := bind_eq_ok_iff.mp restEq
  obtain ⟨rfl, rfl⟩ := reading_eq_ok_iff.mp readEq
  obtain ⟨_, _, countEq, restEq⟩ := bind_eq_ok_iff.mp restEq
  obtain ⟨_, rfl⟩ := require_eq_ok_iff.mp countEq
  obtain ⟨_, _, safeEq, restEq⟩ := bind_eq_ok_iff.mp restEq
  obtain ⟨safe, rfl⟩ := require_eq_ok_iff.mp safeEq
  obtain ⟨_, _, revisionEq, restEq⟩ := bind_eq_ok_iff.mp restEq
  obtain ⟨sameRevision, rfl⟩ := require_eq_ok_iff.mp revisionEq
  obtain ⟨json, _, askEq, pureEq⟩ := bind_eq_ok_iff.mp restEq
  obtain ⟨documentEq, rfl⟩ := asking_eq_ok_iff.mp askEq
  obtain ⟨rfl, _⟩ := pure_eq_ok_iff.mp pureEq
  exact ⟨canvas, canvasEq, of_decide_eq_true sameRevision, of_decide_eq_true safe, documentEq⟩

/-! ## The open transaction -/

/-- Nothing answers the call: no task is under its key, and no active one at the
revision has its target. -/
def PlatformDb.Unanswered (db : PlatformDb) (host : Host) (call : PreviewCall)
    (canvasRevision : Nat) : Prop :=
  db.previewTask? call = none ∧
    ∀ task ∈ db.activeAtRevision call canvasRevision,
      sameTarget host task.requestPayload call.target = false

/-- What the transaction may have found, given the database before it. -/
inductive Opened.Found (host : Host) (call : PreviewCall) (db : PlatformDb) : Opened → Prop where
  | byKey (task : AiTask) (snapshot : AiPreviewSnapshot)
      (keyEq : db.previewTask? call = some task) : Found host call db (.duplicate task snapshot)
  | byTarget (task : AiTask) (snapshot : AiPreviewSnapshot) (canvasRevision : Nat)
      (taskMem : task ∈ db.activeAtRevision call canvasRevision)
      (same : sameTarget host task.requestPayload call.target = true) :
      Found host call db (.duplicate task snapshot)
  | reuse (found canvas : Canvas) (workflow : Workflow) (snapshot : AiPreviewSnapshot)
      (canvasEq : db.canvas? (uuid call.canvasId) = some found)
      (revisionEq : canvas.revision = found.revision)
      (unanswered : db.Unanswered host call found.revision)
      (available : db.availableSnapshot? call found.revision = some snapshot) :
      Found host call db (.reuse canvas workflow snapshot)
  | store (found canvas : Canvas) (workflow : Workflow) (snapshotVersion : Nat)
      (serialized : SerializationResult)
      (canvasEq : db.canvas? (uuid call.canvasId) = some found)
      (revisionEq : canvas.revision = found.revision)
      (unanswered : db.Unanswered host call found.revision)
      (versionEq : snapshotVersion = db.nextSnapshotVersion (uuid call.canvasId))
      (frozen : host.document canvas (elements db.toDb (uuid call.canvasId)) =
        .ok serialized.json) :
      Found host call db (.store canvas workflow snapshotVersion serialized)

/-- The canvas that an open transaction works on. -/
def Opened.canvas? : Opened → Option Canvas
  | .duplicate _ _ => none
  | .reuse canvas _ _ | .store canvas _ _ _ => some canvas

/-- What an open transaction has found, and the canvas that it has locked and
serialized. -/
theorem openPreview_ok {opened : Opened}
    (openEq : openPreview host call db = (.ok opened, target)) :
    Opened.Found host call db opened ∧ ∃ found canvas, Locks call db found canvas target ∧
      ∀ locked ∈ opened.canvas?, locked = canvas ∧ ∃ serialized,
        serialize host (uuid call.canvasId) canvas.revision target = (.ok serialized, target) := by
  obtain ⟨⟨canvas, workflow⟩, locked, lockEq, restEq⟩ := bind_eq_ok_iff.mp openEq
  obtain ⟨found, locks⟩ := lockCanvas_ok lockEq
  have canvasEq := locks.foundEq
  have revisionEq : canvas.revision = found.revision := by
    obtain ⟨_, rfl⟩ := locks.binding
    rfl
  obtain ⟨canvases, lockedEq⟩ : ∃ canvases, locked = db.setCanvases canvases :=
    ⟨_, locks.setCanvases⟩
  subst lockedEq
  have kept : ∀ {α : Type} {body : Statements α} {value : α} {reached : PlatformDb},
      ReadOnly body → body (db.setCanvases canvases) = (.ok value, reached) →
        reached = db.setCanvases canvases := fun reads bodyEq => (reads _ _ _ bodyEq).symm
  obtain ⟨duplicate, _, readEq, restEq⟩ := bind_eq_ok_iff.mp restEq
  obtain ⟨duplicateEq, rfl⟩ := reading_eq_ok_iff.mp readEq
  cases duplicate with
  | some task =>
      obtain ⟨snapshot, _, requireEq, pureEq⟩ := bind_eq_ok_iff.mp restEq
      obtain rfl := kept (readOnly_requireTaskSnapshot task) requireEq
      obtain ⟨rfl, rfl⟩ := pure_eq_ok_iff.mp pureEq
      exact ⟨.byKey task snapshot duplicateEq, found, canvas, locks, nofun⟩
  | none =>
      obtain ⟨_, _, requireEq, restEq⟩ := bind_eq_ok_iff.mp restEq
      obtain rfl := kept readOnly_require requireEq
      obtain ⟨_, _, sourcesEq, restEq⟩ := bind_eq_ok_iff.mp restEq
      obtain rfl := kept readOnly_assertSourcesInTenant sourcesEq
      obtain ⟨active, _, readEq, restEq⟩ := bind_eq_ok_iff.mp restEq
      obtain ⟨activeEq, rfl⟩ := reading_eq_ok_iff.mp readEq
      have activeEq : db.activeAtRevision call found.revision = active := revisionEq ▸ activeEq
      cases equivalentEq : active.find? fun task =>
          sameTarget host task.requestPayload call.target with
      | some task =>
          simp only [equivalentEq] at restEq
          obtain ⟨snapshot, _, requireEq, pureEq⟩ := bind_eq_ok_iff.mp restEq
          obtain rfl := kept (readOnly_requireTaskSnapshot task) requireEq
          obtain ⟨rfl, rfl⟩ := pure_eq_ok_iff.mp pureEq
          refine ⟨.byTarget task snapshot found.revision ?_ ?_, found, canvas, locks, nofun⟩
          · rw [activeEq]
            exact List.mem_of_find?_eq_some equivalentEq
          · simpa using List.find?_some equivalentEq
      | none =>
          have unanswered : db.Unanswered host call found.revision := by
            refine ⟨duplicateEq, ?_⟩
            rw [activeEq]
            simpa using equivalentEq
          simp only [equivalentEq] at restEq
          obtain ⟨available, _, readEq, restEq⟩ := bind_eq_ok_iff.mp restEq
          obtain ⟨availableEq, rfl⟩ := reading_eq_ok_iff.mp readEq
          obtain ⟨snapshotVersion, _, readEq, restEq⟩ := bind_eq_ok_iff.mp restEq
          obtain ⟨versionEq, rfl⟩ := reading_eq_ok_iff.mp readEq
          obtain ⟨serialized, _, serializeEq, restEq⟩ := bind_eq_ok_iff.mp restEq
          obtain rfl := kept (readOnly_serialize _ _) serializeEq
          obtain ⟨_, _, assertEq, restEq⟩ := bind_eq_ok_iff.mp restEq
          obtain rfl := kept (readOnly_assertElementReferences _ _) assertEq
          cases available with
          | some snapshot =>
              obtain ⟨rfl, rfl⟩ := pure_eq_ok_iff.mp restEq
              have availableEq : db.availableSnapshot? call found.revision = some snapshot :=
                revisionEq ▸ availableEq
              exact ⟨.reuse found canvas workflow snapshot canvasEq revisionEq unanswered
                availableEq, found, canvas, locks,
                fun _ same => ⟨(Option.some.inj same).symm, serialized, serializeEq⟩⟩
          | none =>
              obtain ⟨rfl, rfl⟩ := pure_eq_ok_iff.mp restEq
              have frozen : host.document canvas (elements db.toDb (uuid call.canvasId)) =
                  .ok serialized.json := by
                obtain ⟨read, readEq, _, _, documentEq⟩ := serialize_ok serializeEq
                cases locks.canvas?.symm.trans readEq
                exact documentEq
              exact ⟨.store found canvas workflow snapshotVersion serialized canvasEq revisionEq
                unanswered versionEq.symm frozen, found, canvas, locks,
                fun _ same => ⟨(Option.some.inj same).symm, serialized, serializeEq⟩⟩

/-! ## The loops -/

/-- The database once a task is superseded and what was reserved for it is
released. -/
def PlatformDb.supersede (db : PlatformDb) (replacement : Uuid) (task : AiTask) : PlatformDb :=
  (db.writeTask (task.supersede replacement)).setUsage
    (releaseUsage task.usageReservationId db.usage).2

theorem supersedeTask_ok {replacement : Uuid} {older : AiTask} {done : Unit}
    (supersedeEq : supersedeTask replacement older db = (.ok done, target)) :
    target = db.supersede replacement older := by
  obtain ⟨_, written, saveEq, restEq⟩ := bind_eq_ok_iff.mp supersedeEq
  obtain ⟨_, rfl⟩ := saveTask_eq_ok_iff.mp saveEq
  obtain ⟨released, _, usageEq, pureEq⟩ := bind_eq_ok_iff.mp restEq
  obtain ⟨usage, releaseEq, rfl⟩ := usageService_eq_iff.mp usageEq
  obtain ⟨_, rfl⟩ := pure_eq_ok_iff.mp pureEq
  have usageEq : usage = (releaseUsage older.usageReservationId db.usage).2 :=
    (congrArg Prod.snd releaseEq).symm
  rw [usageEq]
  rfl

theorem saveSnapshot_ok {snapshot : AiPreviewSnapshot} {done : Unit}
    (saveEq : saveSnapshot snapshot db = (.ok done, target)) :
    db.checkSnapshot snapshot = .ok () ∧ target = db.writeSnapshot snapshot := by
  obtain ⟨_, _, checkEq, writeEq⟩ := bind_eq_ok_iff.mp saveEq
  obtain ⟨checked, rfl⟩ := asking_eq_ok_iff.mp checkEq
  exact ⟨mapError_eq_ok_iff.mp checked, (writing_eq_ok_iff.mp writeEq).symm⟩

/-- What superseding tasks and snapshots preserves. -/
structure SupersedingKeeps (inv : PlatformDb → Prop) : Prop where
  keyed : ∀ db, inv db → Table.Keyed AiTask.id db.tasks
  frozen : ∀ db old snapshot, inv db → old ∈ db.snapshots → snapshot.artefact = old.artefact →
    inv (db.writeSnapshot snapshot)
  superseded : ∀ db task replacement, inv db → task ∈ db.tasks → task.active = true →
    inv (db.supersede replacement task)

/-- What queueing the task of a call and superseding older ones preserves, after a
transaction that started in a database. -/
structure QueueingKeeps (host : Host) (call : PreviewCall) (start : PlatformDb)
    (inv : PlatformDb → Prop) : Prop extends SupersedingKeeps inv where
  queued : ∀ db usage reservation snapshot found, inv db → db.tasks = start.tasks →
    db.usage = start.usage → start.canvas? (uuid call.canvasId) = some found →
    start.Unanswered host call found.revision →
    reserveUsage (call.usage host) call.reservationId call.now start.usage =
      (.ok reservation, usage) →
    (∀ other ∈ start.tasks, other.idempotencyKey = call.idempotencyKey →
      other.id = call.taskId host) →
    inv ((db.setUsage usage).writeTask (call.task host snapshot found.revision reservation.id))

/-- What the parts of a call preserve, started in a database. -/
structure PreviewKeeps (host : Host) (call : PreviewCall) (start : PlatformDb)
    (inv : PlatformDb → Prop) : Prop extends QueueingKeeps host call start inv where
  bound : ∀ db found canvas locked, inv db → Locks call db found canvas locked → inv locked
  inserted : ∀ db snapshot, inv db → inv (db.writeSnapshot snapshot)

variable {inv : PlatformDb → Prop} {start : PlatformDb} {platform : Platform}

/-- Superseding some tasks of a table, one by one. -/
theorem SupersedingKeeps.tasks (keeps : SupersedingKeeps inv) {replacement : Uuid}
    {olderActive : List AiTask} (holds : inv db) (keyed : Table.Keyed AiTask.id olderActive)
    (mem : ∀ task ∈ olderActive, task ∈ db.tasks ∧ task.active = true)
    (loopEq : each olderActive (supersedeTask replacement) db = (.ok (), target)) : inv target := by
  let loopInv (left : List AiTask) (db : PlatformDb) : Prop :=
    inv db ∧ Table.Keyed AiTask.id left ∧ ∀ task ∈ left, task ∈ db.tasks ∧ task.active = true
  have step : ∀ older rest db next, loopInv (older :: rest) db →
      supersedeTask replacement older db = (.ok (), next) → loopInv rest next := by
    rintro older rest db next ⟨holds, keyed, mem⟩ supersedeEq
    obtain rfl := supersedeTask_ok supersedeEq
    obtain ⟨olderMem, olderActive⟩ := mem older List.mem_cons_self
    obtain ⟨absent, restKeyed⟩ := List.nodup_cons.mp keyed
    refine ⟨keeps.superseded db older replacement holds olderMem olderActive, restKeyed, ?_⟩
    intro task taskMem
    obtain ⟨inTable, active⟩ := mem task (List.mem_cons_of_mem _ taskMem)
    refine ⟨Table.mem_save_iff.mpr (Or.inr ⟨inTable, ?_⟩), active⟩
    intro same
    exact absent (List.mem_map.mpr ⟨task, taskMem, same⟩)
  exact (each_invariant step ⟨holds, keyed, mem⟩ loopEq).1

theorem SupersedingKeeps.snapshots (keeps : SupersedingKeeps inv) {replacement : Uuid}
    {snapshotIds : List Uuid} (holds : inv db)
    (loopEq : each snapshotIds (supersedeSnapshot call replacement) db = (.ok (), target)) :
    inv target := by
  let loopInv (_ : List Uuid) (db : PlatformDb) : Prop := inv db
  have step : ∀ snapshotId rest db next, loopInv (snapshotId :: rest) db →
      supersedeSnapshot call replacement snapshotId db = (.ok (), next) →
      loopInv rest next := by
    intro snapshotId rest db next holds supersedeEq
    obtain ⟨found, _, readEq, restEq⟩ := bind_eq_ok_iff.mp supersedeEq
    obtain ⟨foundEq, rfl⟩ := reading_eq_ok_iff.mp readEq
    cases found with
    | none =>
        obtain ⟨_, rfl⟩ := pure_eq_ok_iff.mp restEq
        exact holds
    | some snapshot =>
        obtain ⟨_, rfl⟩ := saveSnapshot_ok restEq
        have snapshotMem : snapshot ∈ db.snapshots :=
          Table.mem_of_get? (Option.filter_eq_some_iff.mp foundEq).1
        exact keeps.frozen db snapshot _ holds snapshotMem rfl
  exact each_invariant step holds loopEq

/-- A row has the identifier and the payload of the task. -/
def PlatformDb.Holds (db : PlatformDb) (task : AiTask) : Prop :=
  ∃ stored ∈ db.tasks, stored.id = task.id ∧ stored.requestPayload = task.requestPayload

/-- A task stays, whatever is superseded. -/
theorem supersedingKeeps_holds (task : AiTask) :
    SupersedingKeeps fun db => Table.Keyed AiTask.id db.tasks ∧ db.Holds task where
  keyed := fun _ holds => holds.1
  frozen := fun _ _ _ holds _ _ => holds
  superseded := by
    rintro db older replacement ⟨keyed, stored, storedMem, idEq, payloadEq⟩ olderMem _
    refine ⟨Table.keyed_save keyed, ?_⟩
    by_cases same : stored.id = older.id
    · obtain rfl := keyed.eq storedMem olderMem same
      exact ⟨stored.supersede replacement, Table.mem_save_iff.mpr (Or.inl rfl), idEq, payloadEq⟩
    · exact ⟨stored, Table.mem_save_iff.mpr (Or.inr ⟨storedMem, same⟩), idEq, payloadEq⟩

/-! ## Whole calls -/

/-- The transaction from the snapshot on, in a database that differs from the one
before the transaction in its canvases and snapshots. -/
theorem QueueingKeeps.complete (keeps : QueueingKeeps host call start inv) {found canvas : Canvas}
    {snapshot : AiPreviewSnapshot} {createdSnapshot : Bool} {persisted : PersistedPreview}
    (canvasEq : start.canvas? (uuid call.canvasId) = some found)
    (revisionEq : canvas.revision = found.revision)
    (unanswered : start.Unanswered host call found.revision) (holds : inv db)
    (tasksEq : db.tasks = start.tasks) (usageEq : db.usage = start.usage)
    (completeEq : completePreview host call canvas snapshot createdSnapshot db =
      (.ok persisted, target)) :
    inv target ∧ target.Holds persisted.task ∧ ∃ reservation,
      persisted.task = call.task host snapshot found.revision reservation := by
  obtain ⟨reservation, _, serviceEq, restEq⟩ := bind_eq_ok_iff.mp completeEq
  obtain ⟨usage, reserveEq, rfl⟩ := usageService_eq_iff.mp serviceEq
  obtain ⟨_, _, saveEq, restEq⟩ := bind_eq_ok_iff.mp restEq
  obtain ⟨free, rfl⟩ := saveTask_eq_ok_iff.mp saveEq
  obtain ⟨older, _, readEq, restEq⟩ := bind_eq_ok_iff.mp restEq
  obtain ⟨olderEq, rfl⟩ := reading_eq_ok_iff.mp readEq
  obtain ⟨_, superseded, tasksLoop, restEq⟩ := bind_eq_ok_iff.mp restEq
  obtain ⟨_, _, snapshotsLoop, pureEq⟩ := bind_eq_ok_iff.mp restEq
  obtain ⟨rfl, rfl⟩ := pure_eq_ok_iff.mp pureEq
  have queued : inv ((db.setUsage usage).writeTask
      (call.task host snapshot canvas.revision reservation.id)) := by
    rw [revisionEq]
    exact keeps.queued db usage reservation snapshot found holds tasksEq usageEq canvasEq
      unanswered (usageEq ▸ reserveEq) (tasksEq ▸ free)
  have olderKeyed : Table.Keyed AiTask.id older := by
    rw [← olderEq]
    exact (List.filter_sublist.map AiTask.id).nodup (keeps.keyed _ queued)
  have olderMem : ∀ task ∈ older, task ∈ ((db.setUsage usage).writeTask
      (call.task host snapshot canvas.revision reservation.id)).tasks ∧ task.active = true := by
    intro task taskMem
    rw [← olderEq] at taskMem
    obtain ⟨inTable, counts⟩ := List.mem_filter.mp taskMem
    simp only [Bool.and_eq_true] at counts
    exact ⟨inTable, counts.1.1.2⟩
  have stored := (supersedingKeeps_holds _).snapshots
    ((supersedingKeeps_holds (call.task host snapshot canvas.revision reservation.id)).tasks
      ⟨keeps.keyed _ queued, _, Table.mem_save_iff.mpr (Or.inl rfl), rfl, rfl⟩
      olderKeyed olderMem tasksLoop) snapshotsLoop
  refine ⟨keeps.snapshots (keeps.tasks queued olderKeyed olderMem tasksLoop) snapshotsLoop,
    stored.2, reservation.id, ?_⟩
  rw [revisionEq]

theorem PreviewKeeps.insert (keeps : PreviewKeeps host call start inv) {found canvas : Canvas}
    {workflow : Workflow} {snapshotVersion : Nat} {serialized : SerializationResult}
    {stored : StoredWorkspaceSnapshot} {persisted : PersistedPreview}
    (canvasEq : start.canvas? (uuid call.canvasId) = some found)
    (revisionEq : canvas.revision = found.revision)
    (unanswered : start.Unanswered host call found.revision) (holds : inv db)
    (tasksEq : db.tasks = start.tasks) (usageEq : db.usage = start.usage)
    (insertEq : insertPreview host call canvas workflow snapshotVersion serialized stored db =
      (.ok persisted, target)) :
    inv target ∧ target.Holds persisted.task ∧ ∃ snapshot reservation,
      persisted.task = call.task host snapshot found.revision reservation := by
  obtain ⟨_, _, requireEq, restEq⟩ := bind_eq_ok_iff.mp insertEq
  obtain ⟨_, rfl⟩ := require_eq_ok_iff.mp requireEq
  obtain ⟨_, _, saveEq, completeEq⟩ := bind_eq_ok_iff.mp restEq
  obtain ⟨_, rfl⟩ := saveSnapshot_ok saveEq
  obtain ⟨kept, stored, reservation, taskEq⟩ := keeps.complete canvasEq revisionEq unanswered
    (keeps.inserted _ _ holds) tasksEq usageEq completeEq
  exact ⟨kept, stored, _, reservation, taskEq⟩

/-- What may answer a call: a task under its key, an active one with its target,
or the one that it queues. -/
inductive AnsweredBy (host : Host) (call : PreviewCall) (db : PlatformDb) : AiTask → Prop where
  | byKey (task : AiTask) (keyEq : db.previewTask? call = some task) : AnsweredBy host call db task
  | byTarget (task : AiTask) (canvasRevision : Nat)
      (taskMem : task ∈ db.activeAtRevision call canvasRevision)
      (same : sameTarget host task.requestPayload call.target = true) :
      AnsweredBy host call db task
  | queued (snapshot : AiPreviewSnapshot) (canvasRevision : Nat) (reservation : Uuid) :
      AnsweredBy host call db (call.task host snapshot canvasRevision reservation)

/-- The task may answer the call, and is stored after it. -/
structure Answers (host : Host) (call : PreviewCall) (db reached : PlatformDb) (task : AiTask) :
    Prop where
  answered : AnsweredBy host call db task
  held : reached.Holds task

/-- The rule for open transactions. -/
theorem PreviewKeeps.close (keeps : PreviewKeeps host call platform.db inv) {opened : Opened}
    {found canvas : Canvas} {locked : PlatformDb}
    (locks : Locks call platform.db found canvas locked)
    (foundOpened : Opened.Found host call platform.db opened)
    (holds : inv platform.db) {closed : Attempt × Platform}
    (closeEq : closePreview host call platform locked opened = closed) :
    inv closed.2.db ∧ ∀ persisted, closed.1.result = .ok persisted →
      Answers host call platform.db closed.2.db persisted.task := by
  have bound := keeps.bound _ _ _ _ holds locks
  obtain ⟨canvases, lockedEq⟩ : ∃ canvases, locked = platform.db.setCanvases canvases :=
    ⟨_, locks.setCanvases⟩
  subst lockedEq
  cases foundOpened with
  | byKey task snapshot keyEq =>
      subst closeEq
      refine ⟨bound, fun persisted resultEq => ?_⟩
      rw [← Except.ok.inj resultEq]
      exact ⟨.byKey task keyEq, task, List.mem_of_find?_eq_some keyEq, rfl, rfl⟩
  | byTarget task snapshot canvasRevision taskMem same =>
      subst closeEq
      refine ⟨bound, fun persisted resultEq => ?_⟩
      rw [← Except.ok.inj resultEq]
      exact ⟨.byTarget task canvasRevision taskMem same, task, List.mem_of_mem_filter taskMem,
        rfl, rfl⟩
  | reuse found canvas workflow snapshot canvasEq revisionEq unanswered available =>
      rcases completeEq : completePreview host call canvas snapshot false
        (platform.db.setCanvases canvases) with ⟨exception | persisted, reached⟩
      · simp only [closePreview, completeEq] at closeEq
        subst closeEq
        refine ⟨holds, fun persisted resultEq => ?_⟩
        cases resultEq
      · simp only [closePreview, completeEq] at closeEq
        subst closeEq
        obtain ⟨kept, stored, reservation, taskEq⟩ :=
          keeps.complete canvasEq revisionEq unanswered bound rfl rfl completeEq
        refine ⟨kept, fun other resultEq => ?_⟩
        rw [← Except.ok.inj resultEq]
        refine ⟨?_, stored⟩
        rw [taskEq]
        exact .queued snapshot found.revision reservation
  | store found canvas workflow snapshotVersion serialized canvasEq revisionEq unanswered
      versionEq frozen =>
      rcases insertEq : insertPreview host call canvas workflow snapshotVersion serialized
        (call.object host snapshotVersion serialized.json).stored
        (platform.db.setCanvases canvases) with ⟨exception | persisted, reached⟩
      · simp only [closePreview, insertEq] at closeEq
        subst closeEq
        refine ⟨holds, fun persisted resultEq => ?_⟩
        cases resultEq
      · simp only [closePreview, insertEq] at closeEq
        subst closeEq
        obtain ⟨kept, stored, snapshot, reservation, taskEq⟩ :=
          keeps.insert canvasEq revisionEq unanswered bound rfl rfl insertEq
        refine ⟨kept, fun other resultEq => ?_⟩
        rw [← Except.ok.inj resultEq]
        refine ⟨?_, stored⟩
        rw [taskEq]
        exact .queued snapshot found.revision reservation

/-- The rule for transactions. -/
theorem PreviewKeeps.attempt (keeps : PreviewKeeps host call platform.db inv)
    (holds : inv platform.db) {closed : Attempt × Platform}
    (attemptEq : Jobs.attempt host call platform = closed) :
    inv closed.2.db ∧ ∀ persisted, closed.1.result = .ok persisted →
      Answers host call platform.db closed.2.db persisted.task := by
  rcases openEq : openPreview host call platform.db with ⟨exception | opened, reached⟩
  · simp only [Jobs.attempt, openEq] at attemptEq
    subst attemptEq
    refine ⟨holds, fun persisted resultEq => ?_⟩
    cases resultEq
  · simp only [Jobs.attempt, openEq] at attemptEq
    obtain ⟨foundOpened, found, canvas, locks, _⟩ := openPreview_ok openEq
    exact keeps.close locks foundOpened holds attemptEq

/-! ## The answer of a call -/

theorem prepare_ok {request : PreviewRequest}
    (prepareEq : (prepare host request db).1 = .ok call) :
    call.workspaceId = request.workspaceId ∧ call.canvasId = request.canvasId ∧
      call.user = request.user ∧ call.target = normalizeTarget request.dto ∧
      call.reservationId = request.reservationId ∧ call.now = request.now ∧
      normalizeIdempotencyKey host request.workspaceId request.canvasId request.user.id
        request.idempotencyKey = .ok call.idempotencyKey ∧
      host.validateUuid call.correlationId = true ∧
      call.target.lockedEditableDisjoint = true := by
  have preparedEq : prepare host request db = (.ok call, (prepare host request db).2) :=
    Prod.ext prepareEq rfl
  obtain ⟨key, _, keyEq, restEq⟩ := bind_eq_ok_iff.mp preparedEq
  obtain ⟨keyEq, _⟩ := asking_eq_ok_iff.mp keyEq
  obtain ⟨_, _, correlationEq, restEq⟩ := bind_eq_ok_iff.mp restEq
  obtain ⟨correlation, _⟩ := require_eq_ok_iff.mp correlationEq
  obtain ⟨_, _, _, restEq⟩ := bind_eq_ok_iff.mp restEq
  obtain ⟨_, _, _, restEq⟩ := bind_eq_ok_iff.mp restEq
  obtain ⟨_, _, disjointEq, restEq⟩ := bind_eq_ok_iff.mp restEq
  obtain ⟨disjoint, _⟩ := require_eq_ok_iff.mp disjointEq
  obtain ⟨_, _, _, pureEq⟩ := bind_eq_ok_iff.mp restEq
  obtain ⟨rfl, _⟩ := pure_eq_ok_iff.mp pureEq
  exact ⟨rfl, rfl, rfl, rfl, rfl, rfl, keyEq, correlation, disjoint⟩

theorem responseFromTask_taskId {task : AiTask} {response : CanvasAiPreviewResponseDto}
    (responseEq : responseFromTask task = .ok response) : response.taskId = task.id := by
  rw [responseFromTask] at responseEq
  split at responseEq
  · rw [← Except.ok.inj responseEq]
  · cases responseEq

/-- The rule for calls: a property of the database that the parts of a call
preserve holds after it, and its answer names a task that may answer it. -/
theorem create_keeps {request : PreviewRequest}
    (keeps : ∀ call, (prepare host request platform.db).1 = .ok call →
      PreviewKeeps host call platform.db inv)
    (holds : inv platform.db) :
    inv (create host request platform).2.db ∧
      ∀ response, (create host request platform).1 = .ok response →
        ∃ call task, (prepare host request platform.db).1 = .ok call ∧
          Answers host call platform.db (create host request platform).2.db task ∧
          response.taskId = task.id := by
  rw [create]
  split
  · exact ⟨holds, nofun⟩
  · rename_i call prepareEq
    split
    · rename_i preexisting keyEq
      refine ⟨holds, fun response responseEq => ?_⟩
      exact ⟨call, preexisting, prepareEq,
        ⟨.byKey _ keyEq, _, List.mem_of_find?_eq_some keyEq, rfl, rfl⟩,
        responseFromTask_taskId responseEq⟩
    · rcases attemptEq : attempt host call platform with ⟨⟨result, stored⟩, reached⟩
      obtain ⟨kept, answered⟩ := (keeps call prepareEq).attempt holds attemptEq
      cases resultEq : result.bind fun persisted => responseFromTask persisted.task with
      | error exception =>
          simp only [resultEq]
          constructor
          · cases stored with
            | none => exact kept
            | some => exact kept
          · intro response responseEq
            cases responseEq
      | ok response =>
          simp only [resultEq]
          refine ⟨kept, fun answer answerEq => ?_⟩
          obtain ⟨persisted, persistedEq, responseEq⟩ := except_bind_eq_ok_iff.mp resultEq
          rw [← Except.ok.inj answerEq]
          exact ⟨call, persisted.task, prepareEq, answered persisted persistedEq,
            responseFromTask_taskId responseEq⟩

end Manbaa.Jobs
