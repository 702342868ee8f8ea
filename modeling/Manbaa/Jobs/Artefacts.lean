import Manbaa.Jobs.PreviewSteps
import Manbaa.Lib.Sessions

/-!
# The objects of the snapshots

Preview requests of one canvas beside each other, step by step, any of which may
fail.  The transaction of a request holds the lock of the canvas; within it the
frozen canvas is put into the bucket, under a key that the same request makes
again when it is repeated.  When a request fails later on, its object is deleted
after the lock has been released, whether or not the transaction was committed.
-/

namespace Manbaa.Jobs

open Manbaa.Lib Manbaa.Lib.Effect Manbaa.Workspaces Manbaa.Canvases Manbaa.Usage

/-! ## Sessions -/

/-- The next step of a request, with what it knows by then.  `db` is the database
as the open transaction sees it. -/
inductive PreviewStage where
  | findExisting (call : PreviewCall)
  | lock (call : PreviewCall)
  | put (call : PreviewCall) (db : PlatformDb) (canvas : Canvas) (workflow : Workflow)
      (snapshotVersion : Nat) (serialized : SerializationResult)
  | insert (call : PreviewCall) (db : PlatformDb) (canvas : Canvas) (workflow : Workflow)
      (snapshotVersion : Nat) (serialized : SerializationResult) (stored : StoredWorkspaceSnapshot)
  | complete (call : PreviewCall) (db : PlatformDb) (canvas : Canvas) (snapshot : AiPreviewSnapshot)
  | commit (db : PlatformDb) (persisted : PersistedPreview)
      (stored : Option StoredWorkspaceSnapshot)
  | respond (persisted : PersistedPreview) (stored : Option StoredWorkspaceSnapshot)
  | cleanUp (stored : StoredWorkspaceSnapshot) (exception : Exception)
  | edit (canvases : List Canvas)
  | ended (result : Except Exception CanvasAiPreviewResponseDto)
  | edited

/-- A preview request, or a change of the canvas. -/
inductive ArtefactRequest where
  | preview (request : PreviewRequest)
  | edit (canvases : List Canvas)

/-- How a step ends. -/
inductive Fate where
  | succeeds
  | fails

/-- The transaction is open and holds the lock of the canvas. -/
def PreviewStage.locked : PreviewStage → Bool
  | .put .. | .insert .. | .complete .. | .commit .. => true
  | _ => false

/-- How a request begins.  Requests for other canvases are left out. -/
def PreviewStage.start (host : Host) (canvasId : Uuid) (platform : Platform) :
    ArtefactRequest → Platform × Option PreviewStage
  | .preview request =>
      (platform,
        if uuid request.canvasId = canvasId then
          match (prepare host request platform.db).1 with
          | .ok call => some (.findExisting call)
          | .error exception => some (.ended (.error exception))
        else none)
  | .edit canvases => (platform, some (.edit canvases))

/-- How a request goes on once its transaction is open. -/
def PreviewStage.opened (call : PreviewCall) (db : PlatformDb) : Opened → PreviewStage
  | .duplicate task snapshot => .commit db ⟨task, snapshot, false, true⟩ none
  | .reuse canvas _ snapshot => .complete call db canvas snapshot
  | .store canvas workflow snapshotVersion serialized =>
      .put call db canvas workflow snapshotVersion serialized

/-- How a request goes on with an exception: what it has stored is deleted. -/
def PreviewStage.caught (exception : Exception) : Option StoredWorkspaceSnapshot → PreviewStage
  | none => .ended (.error exception)
  | some stored => .cleanUp stored exception

/-- How a request goes on after the last statement of its transaction. -/
def PreviewStage.persisted (stored : Option StoredWorkspaceSnapshot) :
    Except Exception PersistedPreview × PlatformDb → PreviewStage
  | (.ok persisted, db) => .commit db persisted stored
  | (.error exception, _) => .caught exception stored

/-- The exception of a step that fails for a reason outside the model. -/
def outage : Exception := .internalServerError "Internal server error"

/-- The next step of a request, if it succeeds. -/
def PreviewStage.succeed (host : Host) (platform : Platform) (others : List PreviewStage) :
    PreviewStage → Option (Platform × PreviewStage)
  | .findExisting call =>
      some (platform,
        match platform.db.previewTask? call with
        | some preexisting => .ended (responseFromTask preexisting)
        | none => .lock call)
  | .lock call =>
      if others.any PreviewStage.locked then none
      else
        some (platform,
          match openPreview host call platform.db with
          | (.ok opened, db) => .opened call db opened
          | (.error exception, _) => .ended (.error exception))
  | .put call db canvas workflow snapshotVersion serialized =>
      let object := call.object host snapshotVersion serialized.json
      some (platform.put object,
        .insert call db canvas workflow snapshotVersion serialized object.stored)
  | .insert call db canvas workflow snapshotVersion serialized stored =>
      some (platform,
        .persisted (some stored)
          (insertPreview host call canvas workflow snapshotVersion serialized stored db))
  | .complete call db canvas snapshot =>
      some (platform, .persisted none (completePreview host call canvas snapshot false db))
  | .commit db persisted stored => some ({ platform with db := db }, .respond persisted stored)
  | .respond persisted stored =>
      some (platform,
        match responseFromTask persisted.task with
        | .ok response => .ended (.ok response)
        | .error exception => .caught exception stored)
  | .cleanUp stored exception => some (platform.deleteObject stored, .ended (.error exception))
  | .edit canvases =>
      if others.any PreviewStage.locked then none
      else some ({ platform with db := platform.db.setCanvases canvases }, .edited)
  | .ended _ | .edited => none

/-- How a request goes on after a step that failed and changed nothing. -/
def PreviewStage.fail : PreviewStage → Option PreviewStage
  | .findExisting _ | .lock _ | .put .. | .complete .. => some (.ended (.error outage))
  | .insert _ _ _ _ _ _ stored => some (.caught outage (some stored))
  | .commit _ _ stored | .respond _ stored => some (.caught outage stored)
  | .cleanUp _ exception => some (.ended (.error exception))
  | .edit _ => some .edited
  | .ended _ | .edited => none

/-- The next step of a request. -/
def PreviewStage.advance (host : Host) (platform : Platform) (others : List PreviewStage)
    (stage : PreviewStage) : Fate → Option (Platform × PreviewStage)
  | .succeeds => stage.succeed host platform others
  | .fails => stage.fail.map fun failed => (platform, failed)

/-- Requests for one canvas beside each other. -/
def artefactSystem (host : Host) (canvasId : Uuid) :
    Sessions Platform PreviewStage ArtefactRequest Fate where
  start := PreviewStage.start host canvasId
  advance := PreviewStage.advance host

variable {host : Host} {platform : Platform} {canvasId : Uuid}

theorem artefact_over {stage : PreviewStage} (isOver : stage.succeed host platform [] = none)
    (steps : Nat) :
    (artefactSystem host canvasId).alone .succeeds steps (platform, stage) = (platform, stage) := by
  cases steps with
  | zero => rfl
  | succ steps =>
      have blocked : (artefactSystem host canvasId).advance platform [] stage .succeeds = none :=
        isOver
      simp [Sessions.alone, blocked]

theorem artefact_next {reached : Platform} {stage next : PreviewStage}
    (advanced : stage.succeed host platform [] = some (reached, next)) (steps : Nat) :
    (artefactSystem host canvasId).alone .succeeds (steps + 1) (platform, stage) =
      (artefactSystem host canvasId).alone .succeeds steps (reached, next) :=
  Sessions.alone_succ _ _ advanced

/-- How a call ends, given how its transaction ended. -/
def Attempt.finish (attempted : Attempt) (reached : Platform) : Platform × PreviewStage :=
  match attempted.result.bind fun persisted => responseFromTask persisted.task with
  | .ok response => (reached, .ended (.ok response))
  | .error exception =>
      (attempted.stored.elim reached reached.deleteObject, .ended (.error exception))

theorem artefact_caught (exception : Exception) (stored : Option StoredWorkspaceSnapshot)
    (steps : Nat) :
    (artefactSystem host canvasId).alone .succeeds (steps + 1)
        (platform, .caught exception stored) =
      (stored.elim platform platform.deleteObject, .ended (.error exception)) := by
  cases stored with
  | none => exact artefact_over rfl (steps + 1)
  | some stored => exact (artefact_next rfl steps).trans (artefact_over rfl steps)

theorem artefact_persisted (stored : Option StoredWorkspaceSnapshot)
    (completed : Except Exception PersistedPreview × PlatformDb) (steps : Nat) :
    (artefactSystem host canvasId).alone .succeeds (steps + 3)
        (platform, .persisted stored completed) =
      Attempt.finish ⟨completed.1, stored⟩ (platform.end completed) := by
  rcases completed with ⟨exception | persisted, db⟩
  · exact artefact_caught exception stored (steps + 2)
  · dsimp only [PreviewStage.persisted]
    rw [artefact_next rfl, artefact_next rfl]
    have bound : (Except.ok persisted : Except Exception PersistedPreview).bind
        (fun persisted => responseFromTask persisted.task) = responseFromTask persisted.task := rfl
    dsimp only [Attempt.finish]
    rw [bound]
    cases responseFromTask persisted.task with
    | ok response => exact artefact_over rfl (steps + 1)
    | error exception => exact artefact_caught exception stored steps

theorem artefact_attempt (call : PreviewCall) (steps : Nat) :
    (artefactSystem host canvasId).alone .succeeds (steps + 6) (platform, .lock call) =
      (attempt host call platform).1.finish (attempt host call platform).2 := by
  rw [artefact_next rfl, attempt]
  rcases openPreview host call platform.db with ⟨exception | opened, db⟩
  · exact artefact_over rfl (steps + 5)
  · cases opened with
    | duplicate task snapshot =>
        exact artefact_persisted none (.ok ⟨task, snapshot, false, true⟩, db) (steps + 2)
    | reuse canvas workflow snapshot =>
        dsimp only [PreviewStage.opened]
        rw [artefact_next rfl]
        exact artefact_persisted none _ (steps + 1)
    | store canvas workflow snapshotVersion serialized =>
        dsimp only [PreviewStage.opened]
        rw [artefact_next rfl, artefact_next rfl]
        exact artefact_persisted (some _) _ steps

/-- A request that runs alone, all its steps succeeding, does what `create`
does. -/
theorem alone_preview {request : PreviewRequest} (same : uuid request.canvasId = canvasId) :
    ∃ stage, (PreviewStage.start host canvasId platform (.preview request)).2 = some stage ∧
      (artefactSystem host canvasId).alone .succeeds 7 (platform, stage) =
        ((create host request platform).2, .ended (create host request platform).1) := by
  rw [PreviewStage.start, if_pos same, create]
  cases (prepare host request platform.db).1 with
  | error exception => exact ⟨_, rfl, artefact_over rfl 7⟩
  | ok call =>
      refine ⟨_, rfl, ?_⟩
      rw [artefact_next rfl]
      dsimp only
      cases platform.db.previewTask? call with
      | some preexisting => exact artefact_over rfl 6
      | none =>
          rw [artefact_attempt call 0]
          rcases attempt host call platform with ⟨⟨result, stored⟩, reached⟩
          dsimp only [Attempt.finish]
          cases result.bind fun persisted => responseFromTask persisted.task with
          | ok response => rfl
          | error exception => rfl

/-! ## Rows and objects -/

/-- The path that the table demands of a row. -/
def AiPreviewSnapshot.path (snapshot : AiPreviewSnapshot) : SnapshotPath :=
  ⟨snapshot.organizationId.text, snapshot.workspaceId.text, snapshot.canvasId.text,
    snapshot.id.text, snapshot.snapshotVersion⟩

/-- The place of the object of a row. -/
def AiPreviewSnapshot.place (snapshot : AiPreviewSnapshot) : String × SnapshotPath :=
  (snapshot.storageBucket, snapshot.storageKey)

/-- The object of a row is in its place, with the checksum that the row records. -/
def Platform.Holds (host : Host) (platform : Platform) (snapshot : AiPreviewSnapshot) : Prop :=
  ∃ object, platform.object? snapshot.storageBucket snapshot.storageKey = some object ∧
    object.checksumSha256 = snapshot.checksumSha256 ∧
    host.sha256 object.content = snapshot.checksumSha256

/-- Every row has the path that the table demands, and its object. -/
structure Platform.Preserved (host : Host) (platform : Platform) : Prop where
  keyed : Table.Keyed AiTask.id platform.db.tasks
  placed : ∀ snapshot ∈ platform.db.snapshots, snapshot.storageKey = snapshot.path
  held : ∀ snapshot ∈ platform.db.snapshots, platform.Holds host snapshot

variable {call : PreviewCall} {db target : PlatformDb} {snapshot old : AiPreviewSnapshot}

/-- Rows that agree in what is frozen have one place and one checksum. -/
theorem artefact_eq (same : snapshot.artefact = old.artefact) :
    snapshot.place = old.place ∧ snapshot.path = old.path ∧
      snapshot.checksumSha256 = old.checksumSha256 := by
  simp only [AiPreviewSnapshot.artefact, AiPreviewSnapshot.mk.injEq] at same
  simp [AiPreviewSnapshot.place, AiPreviewSnapshot.path, same]

theorem holds_of_artefact (same : snapshot.artefact = old.artefact)
    (holds : platform.Holds host old) : platform.Holds host snapshot := by
  obtain ⟨place, _, checksum⟩ := artefact_eq same
  obtain ⟨bucketEq, keyEq⟩ := Prod.mk.inj place
  rw [Platform.Holds, bucketEq, keyEq, checksum]
  exact holds

/-- A row keeps its object while no other object is put in its place. -/
theorem holds_put {object : StoredObject} (apart : object.place ≠ snapshot.place)
    (holds : platform.Holds host snapshot) : (platform.put object).Holds host snapshot := by
  obtain ⟨found, foundEq, checked⟩ := holds
  exact ⟨found, (Table.get?_save.trans (if_neg apart)).trans foundEq, checked⟩

/-- A row keeps its object while another one is deleted. -/
theorem holds_delete {stored : StoredWorkspaceSnapshot}
    (apart : (stored.bucket, stored.key) ≠ snapshot.place) (holds : platform.Holds host snapshot) :
    (platform.deleteObject stored).Holds host snapshot := by
  obtain ⟨found, foundEq, checked⟩ := holds
  exact ⟨found, (Table.get?_delete_of_ne apart).trans foundEq, checked⟩

/-- A row that the table accepts has the path that the table demands. -/
theorem path_of_checkSnapshot (checked : db.checkSnapshot snapshot = .ok ()) :
    snapshot.storageKey = snapshot.path := by
  obtain ⟨_, _, restEq⟩ := except_bind_eq_ok_iff.mp checked
  obtain ⟨_, _, restEq⟩ := except_bind_eq_ok_iff.mp restEq
  obtain ⟨_, _, restEq⟩ := except_bind_eq_ok_iff.mp restEq
  obtain ⟨_, _, restEq⟩ := except_bind_eq_ok_iff.mp restEq
  obtain ⟨_, _, restEq⟩ := except_bind_eq_ok_iff.mp restEq
  obtain ⟨_, keyEq, _⟩ := except_bind_eq_ok_iff.mp restEq
  exact beq_iff_eq.mp (check_eq_ok_iff.mp keyEq)

/-- The next version of a canvas is above those of its snapshots. -/
theorem version_lt_next (snapshotMem : snapshot ∈ db.snapshots) :
    snapshot.snapshotVersion < db.nextSnapshotVersion snapshot.canvasId := by
  have counted : snapshot ∈ db.snapshots.filter fun other =>
      other.canvasId == snapshot.canvasId := by simp [snapshotMem]
  rw [PlatformDb.nextSnapshotVersion, newest]
  cases latestEq : (db.snapshots.filter fun other =>
      other.canvasId == snapshot.canvasId).argmax AiPreviewSnapshot.snapshotVersion with
  | none =>
      rw [List.argmax_eq_none] at latestEq
      rw [latestEq] at counted
      cases counted
  | some latest =>
      have le := List.le_of_mem_argmax counted latestEq
      exact Nat.lt_succ_of_le le

/-- A new object is not put in the place of a row. -/
theorem object_apart (placed : ∀ snapshot ∈ db.snapshots, snapshot.storageKey = snapshot.path)
    (snapshotMem : snapshot ∈ db.snapshots) (content : String) :
    (call.object host (db.nextSnapshotVersion (uuid call.canvasId)) content).place ≠
      snapshot.place := by
  intro same
  have keyEq : call.snapshotPath host (db.nextSnapshotVersion (uuid call.canvasId)) =
      snapshot.path := (Prod.mk.inj same).2.trans (placed snapshot snapshotMem)
  obtain ⟨_, _, canvasEq, _, versionEq⟩ := SnapshotPath.mk.inj keyEq
  have lt := version_lt_next snapshotMem
  rw [canvasEq, uuid_text] at versionEq
  omega

/-! ## The transaction -/

/-- A database in which rows of snapshots were rewritten, none of them in what is
frozen, and no canvas was. -/
structure PlatformDb.Rewrites (written reached : PlatformDb) : Prop where
  keyed : Table.Keyed AiTask.id reached.tasks
  kept : ∀ snapshot ∈ reached.snapshots, ∃ old ∈ written.snapshots,
    snapshot.artefact = old.artefact
  canvases : reached.toDb = written.toDb

theorem rewrites_self (keyed : Table.Keyed AiTask.id db.tasks) : db.Rewrites db :=
  ⟨keyed, fun snapshot snapshotMem => ⟨snapshot, snapshotMem, rfl⟩, rfl⟩

/-- What is queued and superseded rewrites snapshots at most. -/
theorem rewrites_queueingKeeps (start written : PlatformDb) :
    QueueingKeeps host call start written.Rewrites where
  keyed := fun _ rewrites => rewrites.keyed
  frozen := by
    intro reached row other rewrites rowMem same
    refine ⟨rewrites.keyed, fun snapshot snapshotMem => ?_, rewrites.canvases⟩
    rcases Table.mem_save_iff.mp snapshotMem with rfl | ⟨snapshotOld, _⟩
    · obtain ⟨old, oldMem, oldEq⟩ := rewrites.kept row rowMem
      exact ⟨old, oldMem, same.trans oldEq⟩
    · exact rewrites.kept snapshot snapshotOld
  superseded := fun _ _ _ rewrites _ _ =>
    ⟨Table.keyed_save rewrites.keyed, rewrites.kept, rewrites.canvases⟩
  queued := fun _ _ _ _ _ rewrites _ _ _ _ _ _ =>
    ⟨Table.keyed_save rewrites.keyed, rewrites.kept, rewrites.canvases⟩

/-- A row that a transaction is about to commit has its path and its object, which
is that of a committed row or was put there by the transaction. -/
structure Platform.Ready (host : Host) (platform : Platform)
    (stored : Option StoredWorkspaceSnapshot) (snapshot : AiPreviewSnapshot) : Prop where
  placed : snapshot.storageKey = snapshot.path
  held : platform.Holds host snapshot
  known : (∃ old ∈ platform.db.snapshots, old.place = snapshot.place) ∨
    ∃ object ∈ stored, (object.bucket, object.key) = snapshot.place

theorem ready_of_artefact {stored : Option StoredWorkspaceSnapshot}
    (same : snapshot.artefact = old.artefact) (ready : platform.Ready host stored old) :
    platform.Ready host stored snapshot := by
  obtain ⟨place, path, _⟩ := artefact_eq same
  refine ⟨?_, holds_of_artefact same ready.held, ?_⟩
  · rw [path]
    exact (Prod.mk.inj place).2.trans ready.placed
  · rw [place]
    exact ready.known

theorem Platform.Preserved.ready (preserved : platform.Preserved host)
    (snapshotMem : snapshot ∈ platform.db.snapshots) (stored : Option StoredWorkspaceSnapshot) :
    platform.Ready host stored snapshot :=
  ⟨preserved.placed snapshot snapshotMem, preserved.held snapshot snapshotMem,
    Or.inl ⟨snapshot, snapshotMem, rfl⟩⟩

/-- What a transaction may commit. -/
def PlatformDb.Committable (host : Host) (platform : Platform) (db : PlatformDb)
    (stored : Option StoredWorkspaceSnapshot) : Prop :=
  Table.Keyed AiTask.id db.tasks ∧ ∀ snapshot ∈ db.snapshots, platform.Ready host stored snapshot

/-- A transaction that inserts the row of the object it has put may commit. -/
theorem committable_insert {canvas : Canvas} {workflow : Workflow} {snapshotVersion : Nat}
    {serialized : SerializationResult} {persisted : PersistedPreview} {canvases : List Canvas}
    (preserved : platform.Preserved host)
    (found : Opened.Found host call platform.db
      (.store canvas workflow snapshotVersion serialized))
    (objectEq : platform.object? (call.object host snapshotVersion serialized.json).bucket
      (call.object host snapshotVersion serialized.json).key =
        some (call.object host snapshotVersion serialized.json))
    (insertEq : insertPreview host call canvas workflow snapshotVersion serialized
      (call.object host snapshotVersion serialized.json).stored
      (platform.db.setCanvases canvases) = (.ok persisted, target)) :
    target.Committable host platform
      (some (call.object host snapshotVersion serialized.json).stored) := by
  cases found with
  | store found _ _ _ _ canvasEq revisionEq unanswered versionEq _ =>
    obtain ⟨_, _, requireEq, restEq⟩ := bind_eq_ok_iff.mp insertEq
    obtain ⟨_, rfl⟩ := require_eq_ok_iff.mp requireEq
    obtain ⟨_, _, saveEq, completeEq⟩ := bind_eq_ok_iff.mp restEq
    obtain ⟨checked, rfl⟩ := saveSnapshot_ok saveEq
    let written := (platform.db.setCanvases canvases).writeSnapshot
      (call.snapshot host canvas workflow snapshotVersion
        (call.object host snapshotVersion serialized.json).stored)
    obtain ⟨rewrites, _⟩ := (rewrites_queueingKeeps platform.db written).complete canvasEq
      revisionEq unanswered (rewrites_self preserved.keyed) rfl rfl completeEq
    refine ⟨rewrites.keyed, fun row rowMem => ?_⟩
    obtain ⟨old, oldMem, same⟩ := rewrites.kept row rowMem
    apply ready_of_artefact same
    rcases Table.mem_save_iff.mp oldMem with rfl | ⟨oldMem, _⟩
    · exact ⟨path_of_checkSnapshot checked, ⟨_, objectEq, rfl, rfl⟩, Or.inr ⟨_, rfl, rfl⟩⟩
    · exact preserved.ready oldMem _

/-- A transaction that works on a snapshot that is there may commit. -/
theorem committable_complete {canvas : Canvas} {workflow : Workflow}
    {persisted : PersistedPreview} {canvases : List Canvas} (preserved : platform.Preserved host)
    (found : Opened.Found host call platform.db (.reuse canvas workflow snapshot))
    (completeEq : completePreview host call canvas snapshot false
      (platform.db.setCanvases canvases) = (.ok persisted, target)) :
    target.Committable host platform none := by
  cases found with
  | reuse found _ _ _ canvasEq revisionEq unanswered _ =>
    let bound := platform.db.setCanvases canvases
    obtain ⟨rewrites, _⟩ := (rewrites_queueingKeeps platform.db bound).complete canvasEq
      revisionEq unanswered (rewrites_self preserved.keyed) rfl rfl completeEq
    refine ⟨rewrites.keyed, fun row rowMem => ?_⟩
    obtain ⟨old, oldMem, same⟩ := rewrites.kept row rowMem
    exact ready_of_artefact same (preserved.ready oldMem none)

/-! ## Runs -/

/-- What an open transaction knows and owns. -/
def PreviewStage.Sound (host : Host) (platform : Platform) : PreviewStage → Prop
  | .put call db canvas workflow snapshotVersion serialized =>
      Opened.Found host call platform.db (.store canvas workflow snapshotVersion serialized) ∧
        ∃ canvases, db = platform.db.setCanvases canvases
  | .insert call db canvas workflow snapshotVersion serialized stored =>
      Opened.Found host call platform.db (.store canvas workflow snapshotVersion serialized) ∧
        (∃ canvases, db = platform.db.setCanvases canvases) ∧
        stored = (call.object host snapshotVersion serialized.json).stored ∧
        platform.object? stored.bucket stored.key =
          some (call.object host snapshotVersion serialized.json)
  | .complete call db canvas snapshot =>
      (∃ workflow, Opened.Found host call platform.db (.reuse canvas workflow snapshot)) ∧
        ∃ canvases, db = platform.db.setCanvases canvases
  | .commit db _ stored => db.Committable host platform stored
  | _ => True

/-- The object that an open transaction has put into the bucket. -/
def PreviewStage.stored? : PreviewStage → Option StoredWorkspaceSnapshot
  | .insert _ _ _ _ _ _ stored => some stored
  | .commit _ _ stored => stored
  | _ => none

/-- No row is committed for the object, and no open transaction has put it there:
it may be deleted. -/
def StoredWorkspaceSnapshot.Unused (platform : Platform) (others : List PreviewStage)
    (stored : StoredWorkspaceSnapshot) : Prop :=
  (∀ snapshot ∈ platform.db.snapshots, (stored.bucket, stored.key) ≠ snapshot.place) ∧
    ∀ other ∈ others, ∀ object ∈ other.stored?,
      (stored.bucket, stored.key) ≠ (object.bucket, object.key)

instance (platform : Platform) (others : List PreviewStage) (stored : StoredWorkspaceSnapshot) :
    Decidable (stored.Unused platform others) :=
  inferInstanceAs (Decidable (_ ∧ _))

/-- A step deletes no object that is used. -/
def PreviewStage.Careful (platform : Platform) (others : List PreviewStage) (stage : PreviewStage)
    (fate : Fate) : Prop :=
  match stage, fate with
  | .cleanUp stored _, .succeeds => stored.Unused platform others
  | _, _ => True

instance (platform : Platform) (others : List PreviewStage) (stage : PreviewStage) (fate : Fate) :
    Decidable (stage.Careful platform others fate) :=
  match stage, fate with
  | .cleanUp stored _, .succeeds => inferInstanceAs (Decidable (stored.Unused platform others))
  | .cleanUp _ _, .fails | .findExisting _, _ | .lock _, _ | .put .., _ | .insert .., _
  | .complete .., _ | .commit .., _ | .respond .., _ | .edit _, _ | .ended _, _ | .edited, _ =>
      .isTrue trivial

/-- At most one of two requests holds the lock. -/
def PreviewStage.Apart (first second : PreviewStage) : Prop :=
  first.locked = false ∨ second.locked = false

/-- The invariant, as one step finds it and leaves it. -/
abbrev Leaves (host : Host) (platform : Platform) (stage : PreviewStage)
    (others : List PreviewStage) : Prop :=
  Sessions.Leaves (fun platform => platform.Preserved host)
    (fun platform stage => stage.Sound host platform) PreviewStage.Apart platform stage others

variable {stage next : PreviewStage} {others : List PreviewStage} {reached : Platform}

theorem sound_of_unlocked (unlocked : stage.locked = false) : stage.Sound host platform := by
  cases stage with
  | put | insert | complete | commit => cases unlocked
  | _ => trivial

@[simp]
theorem locked_caught (exception : Exception) (stored : Option StoredWorkspaceSnapshot) :
    (PreviewStage.caught exception stored).locked = false := by
  cases stored <;> rfl

/-- While a request holds the lock, no other one does. -/
theorem others_unlocked (leaves : Leaves host platform stage others)
    (locked : stage.locked = true) : ∀ other ∈ others, other.locked = false := by
  intro other otherMem
  rcases (leaves.parts other otherMem).1 with unlocked | unlocked
  · rw [locked] at unlocked
    cases unlocked
  · exact unlocked

/-- A step that takes or keeps the lock while no other request holds it. -/
theorem leaves_locked (holds : reached.Preserved host) (owns : next.Sound host reached)
    (unlocked : ∀ other ∈ others, other.locked = false) : Leaves host reached next others where
  holds := holds
  owns := owns
  beside := fun other otherMem => sound_of_unlocked (unlocked other otherMem)
  parts := fun other otherMem => ⟨Or.inr (unlocked other otherMem), Or.inl (unlocked other otherMem)⟩

/-- A step that leaves the request without the lock. -/
theorem leaves_unlocked (holds : reached.Preserved host) (unlocked : next.locked = false)
    (beside : ∀ other ∈ others, other.Sound host reached) : Leaves host reached next others where
  holds := holds
  owns := sound_of_unlocked unlocked
  beside := beside
  parts := fun _ _ => ⟨Or.inl unlocked, Or.inr unlocked⟩

/-- The transaction has ended its statements: it may commit, or it is rolled
back. -/
theorem leaves_persisted (leaves : Leaves host platform stage others) (locked : stage.locked = true)
    {stored : Option StoredWorkspaceSnapshot}
    {completed : Except Exception PersistedPreview × PlatformDb}
    (committable : ∀ persisted db, completed = (.ok persisted, db) →
      db.Committable host platform stored) :
    Leaves host platform (.persisted stored completed) others := by
  rcases completed with ⟨exception | persisted, db⟩
  · exact leaves_unlocked leaves.holds (locked_caught exception stored) leaves.beside
  · exact leaves_locked leaves.holds (committable persisted db rfl) (others_unlocked leaves locked)

/-- An open transaction still owns its object after another one is deleted. -/
theorem sound_delete {stored : StoredWorkspaceSnapshot} (sound : stage.Sound host platform)
    (unused : ∀ snapshot ∈ platform.db.snapshots, (stored.bucket, stored.key) ≠ snapshot.place)
    (apart : ∀ object ∈ stage.stored?, (stored.bucket, stored.key) ≠ (object.bucket, object.key)) :
    stage.Sound host (platform.deleteObject stored) := by
  cases stage with
  | insert call db canvas workflow snapshotVersion serialized own =>
      obtain ⟨found, bound, ownEq, objectEq⟩ := sound
      exact ⟨found, bound, ownEq, (Table.get?_delete_of_ne (apart own rfl)).trans objectEq⟩
  | commit db persisted own =>
      refine ⟨sound.1, fun snapshot snapshotMem => ?_⟩
      obtain ⟨placed, held, known⟩ := sound.2 snapshot snapshotMem
      refine ⟨placed, holds_delete ?_ held, known⟩
      rcases known with ⟨old, oldMem, placeEq⟩ | ⟨object, objectEq, placeEq⟩
      · rw [← placeEq]
        exact unused old oldMem
      · rw [← placeEq]
        exact apart object objectEq
  | _ => exact sound

/-- A step that succeeds keeps the invariant, if it deletes nothing that is
used. -/
theorem leaves_succeed (leaves : Leaves host platform stage others)
    (careful : stage.Careful platform others .succeeds)
    (succeedEq : stage.succeed host platform others = some (reached, next)) :
    Leaves host reached next others := by
  have holds := leaves.holds
  have sound := leaves.owns
  cases stage with
  | findExisting call =>
      cases succeedEq
      refine leaves_unlocked holds ?_ leaves.beside
      split <;> rfl
  | lock call =>
      obtain ⟨free, taken⟩ := Option.ite_none_left_eq_some.mp succeedEq
      have unlocked : ∀ other ∈ others, other.locked = false := by
        simpa using free
      cases taken
      rcases openEq : openPreview host call platform.db with ⟨exception | opened, db⟩
      · exact leaves_unlocked holds rfl leaves.beside
      · obtain ⟨found, _, _, locks, _⟩ := openPreview_ok openEq
        obtain ⟨canvases, lockedEq⟩ : ∃ canvases, db = platform.db.setCanvases canvases :=
          ⟨_, locks.setCanvases⟩
        subst lockedEq
        cases opened with
        | duplicate task snapshot =>
            refine leaves_locked holds ⟨holds.keyed, fun row rowMem => ?_⟩ unlocked
            exact holds.ready rowMem none
        | reuse canvas workflow snapshot =>
            exact leaves_locked holds ⟨⟨workflow, found⟩, canvases, rfl⟩ unlocked
        | store canvas workflow snapshotVersion serialized =>
            exact leaves_locked holds ⟨found, canvases, rfl⟩ unlocked
  | put call db canvas workflow snapshotVersion serialized =>
      cases succeedEq
      obtain ⟨found, bound⟩ := sound
      have versionEq : snapshotVersion = platform.db.nextSnapshotVersion (uuid call.canvasId) := by
        cases found with
        | store _ _ _ _ _ _ _ _ versionEq _ => exact versionEq
      refine leaves_locked ⟨holds.keyed, holds.placed, fun row rowMem => ?_⟩ ?_
        (others_unlocked leaves rfl)
      · apply holds_put _ (holds.held row rowMem)
        rw [versionEq]
        exact object_apart holds.placed rowMem _
      · exact ⟨found, bound, rfl, Table.get?_save.trans (if_pos rfl)⟩
  | insert call db canvas workflow snapshotVersion serialized stored =>
      cases succeedEq
      obtain ⟨found, ⟨canvases, rfl⟩, rfl, objectEq⟩ := sound
      exact leaves_persisted leaves rfl fun persisted target insertEq =>
        committable_insert holds found objectEq insertEq
  | complete call db canvas snapshot =>
      cases succeedEq
      obtain ⟨⟨workflow, found⟩, canvases, rfl⟩ := sound
      exact leaves_persisted leaves rfl fun persisted target completeEq =>
        committable_complete holds found completeEq
  | commit db persisted stored =>
      cases succeedEq
      have preserved : Platform.Preserved host { platform with db := db } :=
        ⟨sound.1, fun row rowMem => (sound.2 row rowMem).placed,
          fun row rowMem => (sound.2 row rowMem).held⟩
      exact leaves_locked preserved trivial (others_unlocked leaves rfl)
  | respond persisted stored =>
      cases succeedEq
      refine leaves_unlocked holds ?_ leaves.beside
      split
      · rfl
      · exact locked_caught _ stored
  | cleanUp stored exception =>
      cases succeedEq
      obtain ⟨unused, apart⟩ := careful
      refine leaves_unlocked ⟨holds.keyed, holds.placed, fun row rowMem => ?_⟩ rfl ?_
      · exact holds_delete (unused row rowMem) (holds.held row rowMem)
      · intro other otherMem
        exact sound_delete (leaves.beside other otherMem) unused (apart other otherMem)
  | edit canvases =>
      obtain ⟨free, taken⟩ := Option.ite_none_left_eq_some.mp succeedEq
      have unlocked : ∀ other ∈ others, other.locked = false := by
        simpa using free
      cases taken
      exact leaves_locked ⟨holds.keyed, holds.placed, holds.held⟩ trivial unlocked
  | ended result => cases succeedEq
  | edited => cases succeedEq

/-- A step that fails leaves the request without the lock. -/
theorem leaves_fail (leaves : Leaves host platform stage others) (failEq : stage.fail = some next) :
    Leaves host platform next others := by
  refine leaves_unlocked leaves.holds ?_ leaves.beside
  cases stage with
  | insert | commit | respond =>
      cases failEq
      exact locked_caught _ _
  | findExisting | lock | put | complete | cleanUp | edit =>
      cases failEq
      rfl
  | ended | edited => cases failEq

theorem artefactSystem_keeps (host : Host) (canvasId : Uuid) :
    Sessions.Keeps (artefactSystem host canvasId) (fun _ => True) PreviewStage.Careful
      (fun platform => platform.Preserved host) (fun platform stage => stage.Sound host platform)
      PreviewStage.Apart where
  started := by
    intro platform request holds _
    have unlocked : ∀ stage ∈ (PreviewStage.start host canvasId platform request).2,
        stage.locked = false := by
      intro stage stageEq
      cases request with
      | preview request =>
          obtain ⟨_, stageEq⟩ := Option.ite_none_right_eq_some.mp stageEq
          split at stageEq <;>
            · cases stageEq
              rfl
      | edit canvases =>
          cases stageEq
          rfl
    have kept : (PreviewStage.start host canvasId platform request).1 = platform := by
      cases request <;> rfl
    refine ⟨kept.symm ▸ holds, fun _ sound => kept.symm ▸ sound, fun stage stageEq => ?_⟩
    exact ⟨sound_of_unlocked (unlocked stage stageEq), fun _ =>
      ⟨Or.inl (unlocked stage stageEq), Or.inr (unlocked stage stageEq)⟩⟩
  advanced := by
    intro platform others stage fate reached next leaves careful advanceEq
    cases fate with
    | succeeds => exact leaves_succeed leaves careful advanceEq
    | fails =>
        obtain ⟨failed, failEq, pairEq⟩ := Option.map_eq_some_iff.mp advanceEq
        cases pairEq
        exact leaves_fail leaves failEq

/-- In every run that deletes no object while a row is committed for it or an open
transaction has put it, every committed row has its object, with the checksum
that it records. -/
theorem artefacts_preserved (host : Host) (canvasId : Uuid)
    {start reached : Sessions.State Platform PreviewStage}
    {actions : List (Sessions.Action ArtefactRequest Fate)} (noSessions : start.sessions = [])
    (preserved : start.store.Preserved host)
    (met : (artefactSystem host canvasId).step.Meets
      (Sessions.Guard (fun _ => True) PreviewStage.Careful) start actions)
    (runEq : (artefactSystem host canvasId).step.run start actions = some reached) :
    ∀ snapshot ∈ reached.store.db.snapshots, reached.store.Holds host snapshot := by
  have invariant := (artefactSystem_keeps host canvasId).run
    (Sessions.Invariant.of_no_sessions preserved noSessions) met runEq
  exact invariant.holds.held

/-! ## Examples -/

/-- Before the first request. -/
def exampleEmpty : Sessions.State Platform PreviewStage := ⟨examplePlatform, []⟩

/-- A request arrives. -/
def exampleArrives : Sessions.Action ArtefactRequest Fate :=
  .start (.preview (exampleRequest exampleAlice "key"))

/-- A request goes on for some steps. -/
def exampleAdvances (index steps : Nat) : List (Sessions.Action ArtefactRequest Fate) :=
  List.replicate steps (.advance index .succeeds)

/-- The first request fails after its object was put, and cleans up before it is
repeated. -/
def exampleCareful : List (Sessions.Action ArtefactRequest Fate) :=
  [exampleArrives] ++ exampleAdvances 0 3 ++ [.advance 0 .fails, .advance 0 .succeeds] ++
    [exampleArrives] ++ exampleAdvances 1 6

theorem artefacts_preserved_example :
    ∃ reached snapshot, (artefactSystem exampleHost exampleCanvas).step.run exampleEmpty
        exampleCareful = some reached ∧
      snapshot ∈ reached.store.db.snapshots ∧ reached.store.Holds exampleHost snapshot := by
  have taken : ((artefactSystem exampleHost exampleCanvas).step.run exampleEmpty
      exampleCareful).any fun reached => reached.store.db.snapshots.any fun _ => true := by
    decide +kernel
  have met : (artefactSystem exampleHost exampleCanvas).step.Meets
      (Sessions.Guard (fun _ => True) PreviewStage.Careful) exampleEmpty exampleCareful := by
    decide +kernel
  have preserved : exampleEmpty.store.Preserved exampleHost :=
    ⟨List.nodup_nil, fun _ none => absurd none List.not_mem_nil,
      fun _ none => absurd none List.not_mem_nil⟩
  obtain ⟨reached, runEq, found⟩ := Option.any_eq_true _ _ |>.mp taken
  obtain ⟨snapshot, snapshotMem, _⟩ := List.any_eq_true.mp found
  exact ⟨reached, snapshot, runEq, snapshotMem,
    artefacts_preserved exampleHost exampleCanvas rfl preserved met runEq snapshot snapshotMem⟩

/-- The first request fails after its object was put, and cleans up after it has
been repeated. -/
def exampleRetried : List (Sessions.Action ArtefactRequest Fate) :=
  [exampleArrives] ++ exampleAdvances 0 3 ++ [.advance 0 .fails] ++
    [exampleArrives] ++ exampleAdvances 1 5 ++ [.advance 0 .succeeds]

/-- The broadcast of a request fails after its transaction was committed. -/
def exampleBroadcast : List (Sessions.Action ArtefactRequest Fate) :=
  [exampleArrives] ++ exampleAdvances 0 5 ++ [.advance 0 .fails, .advance 0 .succeeds]

example : ((artefactSystem exampleHost exampleCanvas).step.run exampleEmpty
    [exampleArrives]).isSome := by decide +kernel

/-- A run that leaves a committed row without its object. -/
def OrphanedBy (actions : List (Sessions.Action ArtefactRequest Fate)) : Prop :=
  ∃ reached, (artefactSystem exampleHost exampleCanvas).step.run exampleEmpty actions =
      some reached ∧
    ∃ snapshot ∈ reached.store.db.snapshots, ¬ reached.store.Holds exampleHost snapshot

/-- A committed row loses its object when a transaction is retried, and when a broadcast fails. -/
theorem artefact_orphaned : OrphanedBy exampleRetried ∧ OrphanedBy exampleBroadcast := by
  have orphaned : ∀ actions,
      ((artefactSystem exampleHost exampleCanvas).step.run exampleEmpty actions).any
        (fun reached => reached.store.db.snapshots.any fun snapshot =>
          (reached.store.object? snapshot.storageBucket snapshot.storageKey).isNone) = true →
      OrphanedBy actions := by
    intro actions lost
    obtain ⟨reached, runEq, found⟩ := Option.any_eq_true _ _ |>.mp lost
    obtain ⟨snapshot, snapshotMem, gone⟩ := List.any_eq_true.mp found
    refine ⟨reached, runEq, snapshot, snapshotMem, ?_⟩
    rintro ⟨object, objectEq, _⟩
    rw [objectEq] at gone
    cases gone
  exact ⟨orphaned exampleRetried (by decide +kernel), orphaned exampleBroadcast (by decide +kernel)⟩

end Manbaa.Jobs
