import Manbaa.Canvases.Log
import Manbaa.Jobs.Artefacts
import Manbaa.Jobs.Serializer

/-!
# Snapshots of an unchanged revision

A snapshot freezes a canvas at its revision.  Whatever changes what a snapshot
shows of a canvas appends an operation to its log and so advances its revision;
the one change that does not, binding a canvas to a workspace, is not shown.  A
snapshot of the current revision is therefore what the serializer makes of the
canvas now.
-/

namespace Manbaa.Jobs

open Manbaa.Lib Manbaa.Lib.Effect Manbaa.Workspaces Manbaa.Canvases Manbaa.Usage

/-! ## Canvases and their revisions -/

/-- What a snapshot may show of a canvas. -/
def shown (canvas : Canvas) : Canvas :=
  { canvas with workspaceId := none }

/-- Later every canvas is there.  If it has the revision that it had, it shows what
it showed, with the same objects. -/
structure Ages (db next : Db) : Prop where
  keyed : Table.Keyed CanvasObject.id next.objects
  canvas : ∀ id canvas, db.canvas? id = some canvas → ∃ later, next.canvas? id = some later ∧
    canvas.revision ≤ later.revision ∧
    (later.revision = canvas.revision →
      shown later = shown canvas ∧ elements next id = elements db id)

variable {db next last : Db} {host : Canvases.Host} {canvas : Canvas}
  {operation : CanvasOperation}

theorem ages_refl (keyed : Table.Keyed CanvasObject.id db.objects) : Ages db db :=
  ⟨keyed, fun _ canvas canvasEq => ⟨canvas, canvasEq, Nat.le_refl _, fun _ => ⟨rfl, rfl⟩⟩⟩

theorem Ages.trans (first : Ages db next) (second : Ages next last) : Ages db last where
  keyed := second.keyed
  canvas := by
    intro id canvas canvasEq
    obtain ⟨middle, middleEq, firstLe, firstSame⟩ := first.canvas id canvas canvasEq
    obtain ⟨later, laterEq, secondLe, secondSame⟩ := second.canvas id middle middleEq
    refine ⟨later, laterEq, Nat.le_trans firstLe secondLe, fun same => ?_⟩
    have middleRevision : middle.revision = canvas.revision := by omega
    obtain ⟨firstShown, firstElements⟩ := firstSame middleRevision
    obtain ⟨secondShown, secondElements⟩ := secondSame (same.trans middleRevision.symm)
    exact ⟨secondShown.trans firstShown, secondElements.trans firstElements⟩

/-- Opening a canvas changes none. -/
theorem ages_opened (keyed : Table.Keyed CanvasObject.id db.objects) (opened : Canvases.Opened db next) :
    Ages db next := by
  refine ⟨opened.objects ▸ keyed, fun id canvas canvasEq => ?_⟩
  refine ⟨canvas, opened.canvas? canvasEq, Nat.le_refl _, fun _ => ⟨rfl, ?_⟩⟩
  rw [elements, opened.objects, elements]

theorem elements_of_filter {id : Uuid}
    (same : (next.objects.filter fun object => object.canvasId == id) =
      db.objects.filter fun object => object.canvasId == id) :
    elements next id = elements db id := by
  rw [elements, same, elements]

/-- An edit leaves the objects of the other canvases alone. -/
theorem elements_edited (keyed : Table.Keyed CanvasObject.id db.objects)
    (edited : Edited host operation db next) :
    Table.Keyed CanvasObject.id next.objects ∧
      ∀ id, id ≠ operation.canvasId → elements next id = elements db id := by
  cases edited with
  | kept => exact ⟨keyed, fun _ _ => rfl⟩
  | inserted object fresh accepted onCanvas =>
      refine ⟨Table.keyed_append keyed fresh, fun id ne => ?_⟩
      have other : (object.stored.canvasId == id) = false := by
        rw [beq_eq_false_iff_ne]
        exact fun same => ne (same.symm.trans onCanvas)
      simp only [elements, List.filter_append, List.filter_cons, other, List.filter_nil,
        List.append_nil, Bool.false_eq_true, if_false]
  | saved old object oldMem sameId sameCanvas accepted onCanvas =>
      refine ⟨Table.keyed_save keyed, fun id ne => ?_⟩
      have elsewhere : ∀ other : CanvasObject, other.canvasId = operation.canvasId →
          (other.canvasId == id) = false := by
        intro other same
        rw [beq_eq_false_iff_ne]
        exact fun equal => ne (equal.symm.trans same)
      apply elements_of_filter
      apply Table.filter_save
      · intro other otherMem same
        rw [keyed.eq otherMem oldMem (same.trans sameId.symm)]
        exact elsewhere _ (sameCanvas.trans onCanvas)
      · exact elsewhere _ onCanvas
  | removed object objectMem recorded onCanvas =>
      refine ⟨Table.keyed_delete keyed, fun id ne => ?_⟩
      apply elements_of_filter
      apply Table.filter_delete
      intro other otherMem same
      rw [keyed.eq otherMem objectMem same, beq_eq_false_iff_ne]
      exact fun equal => ne (equal.symm.trans onCanvas)

/-- A call that changes a canvas advances its revision. -/
theorem ages_committed (keyed : Table.Keyed CanvasObject.id db.objects)
    (committed : Committed host canvas operation db next) : Ages db next := by
  obtain ⟨opened, edited, openStep, editStep, appendStep⟩ := committed.steps
  apply (ages_opened keyed openStep).trans
  obtain ⟨editedKeyed, elementsEq⟩ := elements_edited (openStep.objects ▸ keyed) editStep
  have objectsEq : next.objects = edited.objects := by rw [appendStep.nextEq]
  refine ⟨objectsEq ▸ editedKeyed, fun id other otherEq => ?_⟩
  have editedEq : edited.canvas? id = some other := by
    rw [Db.canvas?, editStep.canvases]
    exact otherEq
  by_cases same : canvas.id = id
  · rw [← same, appendStep.canvasEq] at editedEq
    cases editedEq
    refine ⟨canvas.advance, (appendStep.canvas? id).trans (if_pos same), Nat.le_succ _, ?_⟩
    intro equal
    exact absurd equal (Nat.succ_ne_self _)
  · refine ⟨other, ((appendStep.canvas? id).trans (if_neg same)).trans editedEq, Nat.le_refl _, ?_⟩
    intro _
    refine ⟨rfl, ?_⟩
    have ne : id ≠ operation.canvasId := fun equal =>
      same (appendStep.canvasIdEq.symm.trans equal.symm)
    rw [← elementsEq id ne, elements, elements, objectsEq]

/-- Binding a canvas to a workspace shows nothing. -/
theorem ages_bind {found : Canvas} (keyed : Table.Keyed CanvasObject.id db.objects)
    (canvasEq : db.canvas? found.id = some found) (workspaceId : Option Uuid) :
    Ages db { db with
      canvases := Table.save Canvas.id db.canvases { found with workspaceId := workspaceId } } := by
  refine ⟨keyed, fun id other otherEq => ?_⟩
  by_cases same : found.id = id
  · subst same
    cases canvasEq.symm.trans otherEq
    exact ⟨_, Table.get?_save.trans (if_pos rfl), Nat.le_refl _, fun _ => ⟨rfl, rfl⟩⟩
  · refine ⟨other, ?_, Nat.le_refl _, fun _ => ⟨rfl, rfl⟩⟩
    exact Table.get?_save.trans ((if_neg same).trans otherEq)

/-- Whatever happens to the canvases ages them. -/
theorem ages_act (host : Canvases.Host) (keyed : Table.Keyed CanvasObject.id db.objects)
    (action : Action) : Ages db (act host db action) := by
  rcases act_cases host db action with opened | ⟨_, _, committed⟩ | ⟨_, _, bound⟩ | ⟨_, set⟩
  · exact ages_opened keyed opened
  · exact ages_committed keyed committed
  · rw [bound]
    rcases bindWorkspace_cases db _ _ with same | ⟨found, _, canvasEq, _, _, _, boundEq⟩
    · rw [same]
      exact ages_refl keyed
    · rw [boundEq]
      exact ages_bind keyed canvasEq _
  · rw [set]
    exact ⟨keyed, fun _ canvas canvasEq =>
      ⟨canvas, canvasEq, Nat.le_refl _, fun _ => ⟨rfl, rfl⟩⟩⟩

/-- The lock of a call ages the canvases. -/
theorem ages_locks {call : PreviewCall} {platformDb locked : PlatformDb} {found : Canvas}
    (keyed : Table.Keyed CanvasObject.id platformDb.objects)
    (locks : Locks call platformDb found canvas locked) : Ages platformDb.toDb locked.toDb := by
  cases locks with
  | bound => exact ages_refl keyed
  | binds canvasEq =>
      have idEq : found.id = uuid call.canvasId := Table.key_of_get? canvasEq
      rw [← idEq] at canvasEq
      exact ages_bind keyed canvasEq _

/-! ## Documents -/

/-- The serializer reads what a snapshot shows. -/
def Host.Shown (host : Host) : Prop :=
  ∀ first second objects, shown first = shown second →
    host.document first objects = host.document second objects

theorem serializing_shown (host : Jobs.Host) : host.serializing.Shown := by
  intro first second objects same
  have document : ∀ canvas, host.serializing.document canvas objects =
      host.serializing.document (shown canvas) objects := fun _ => rfl
  rw [document first, document second, same]

/-- While the canvas is at the revision of a row, it has this document. -/
def Documents (host : Jobs.Host) (db : Db) (snapshot : AiPreviewSnapshot) (content : String) :
    Prop :=
  ∃ canvas, db.canvas? snapshot.canvasId = some canvas ∧
    snapshot.canvasRevision ≤ canvas.revision ∧
    (canvas.revision = snapshot.canvasRevision →
      host.document canvas (elements db snapshot.canvasId) = .ok content)

/-- The object of a row is in its place and is the document of the canvas. -/
def Platform.Freezes (host : Jobs.Host) (platform : Platform) (snapshot : AiPreviewSnapshot) :
    Prop :=
  ∃ object, platform.object? snapshot.storageBucket snapshot.storageKey = some object ∧
    Documents host platform.db.toDb snapshot object.content

/-- Every row has the path that the table demands, and its object is the document of
the canvas. -/
structure Platform.Frozen (host : Jobs.Host) (platform : Platform) : Prop where
  tasks : Table.Keyed AiTask.id platform.db.tasks
  elements : Table.Keyed CanvasObject.id platform.db.objects
  placed : ∀ snapshot ∈ platform.db.snapshots, snapshot.storageKey = snapshot.path
  freezes : ∀ snapshot ∈ platform.db.snapshots, platform.Freezes host snapshot

section
variable {host : Jobs.Host} {platform : Platform} {snapshot old : AiPreviewSnapshot}
  {content : String} {call : PreviewCall} {locked reached : PlatformDb}

theorem documents_ages (shows : host.Shown) (ages : Ages db next)
    (documents : Documents host db snapshot content) : Documents host next snapshot content := by
  obtain ⟨canvas, canvasEq, older, documentEq⟩ := documents
  obtain ⟨later, laterEq, grown, same⟩ := ages.canvas _ canvas canvasEq
  refine ⟨later, laterEq, Nat.le_trans older grown, fun current => ?_⟩
  have revisionEq : canvas.revision = snapshot.canvasRevision := by omega
  obtain ⟨shownEq, elementsEq⟩ := same (current.trans revisionEq.symm)
  rw [elementsEq, shows later canvas _ shownEq]
  exact documentEq revisionEq

theorem freezes_of_artefact (same : snapshot.artefact = old.artefact)
    (freezes : platform.Freezes host old) : platform.Freezes host snapshot := by
  simp only [AiPreviewSnapshot.artefact, AiPreviewSnapshot.mk.injEq] at same
  obtain ⟨_, _, _, _, canvasEq, _, revisionEq, _, bucketEq, keyEq, _⟩ := same
  obtain ⟨object, objectEq, documents⟩ := freezes
  refine ⟨object, ?_, ?_⟩
  · rw [bucketEq, keyEq]
    exact objectEq
  · rw [Documents, canvasEq, revisionEq]
    exact documents

/-- A change of the database that ages the canvases and leaves the rows alone. -/
theorem frozen_ages (shows : host.Shown) (frozen : platform.Frozen host)
    (ages : Ages platform.db.toDb reached.toDb) (tasksEq : reached.tasks = platform.db.tasks)
    (snapshotsEq : reached.snapshots = platform.db.snapshots) :
    Platform.Frozen host { platform with db := reached } where
  tasks := tasksEq ▸ frozen.tasks
  elements := ages.keyed
  placed := fun snapshot snapshotMem => frozen.placed snapshot (snapshotsEq ▸ snapshotMem)
  freezes := by
    intro snapshot snapshotMem
    obtain ⟨object, objectEq, documents⟩ := frozen.freezes snapshot (snapshotsEq ▸ snapshotMem)
    exact ⟨object, objectEq, documents_ages shows ages documents⟩

/-- What a transaction writes after the snapshot freezes nothing else. -/
theorem frozen_rewrites (frozen : platform.Frozen host)
    (rewrites : platform.db.Rewrites reached) :
    Platform.Frozen host { platform with db := reached } where
  tasks := rewrites.keyed
  elements := rewrites.canvases ▸ frozen.elements
  placed := by
    intro snapshot snapshotMem
    obtain ⟨old, oldMem, same⟩ := rewrites.kept snapshot snapshotMem
    obtain ⟨place, path, _⟩ := artefact_eq same
    rw [path]
    exact (Prod.mk.inj place).2.trans (frozen.placed old oldMem)
  freezes := by
    intro snapshot snapshotMem
    obtain ⟨old, oldMem, same⟩ := rewrites.kept snapshot snapshotMem
    obtain ⟨object, objectEq, documents⟩ := freezes_of_artefact same (frozen.freezes old oldMem)
    exact ⟨object, objectEq, rewrites.canvases ▸ documents⟩

/-- The lock of a call leaves what is frozen. -/
theorem frozen_locks (shows : host.Shown) (frozen : platform.Frozen host) {found : Canvas}
    (locks : Locks call platform.db found canvas locked) :
    Platform.Frozen host { platform with db := locked } := by
  have ages := ages_locks frozen.elements locks
  obtain ⟨canvases, lockedEq⟩ : ∃ canvases, locked = platform.db.setCanvases canvases :=
    ⟨_, locks.setCanvases⟩
  subst lockedEq
  exact frozen_ages shows frozen ages rfl rfl

/-! ## Preview requests -/

/-- A transaction that works on a snapshot that is there. -/
theorem frozen_complete (shows : host.Shown) (frozen : platform.Frozen host)
    {found canvas : Canvas} {workflow : Workflow} {persisted : PersistedPreview}
    (locks : Locks call platform.db found canvas locked)
    (foundOpened : Opened.Found host call platform.db (.reuse canvas workflow snapshot))
    (completeEq : completePreview host call canvas snapshot false locked =
      (.ok persisted, reached)) :
    Platform.Frozen host { platform with db := reached } := by
  have bound := frozen_locks shows frozen locks
  obtain ⟨canvases, rfl⟩ : ∃ canvases, locked = platform.db.setCanvases canvases :=
    ⟨_, locks.setCanvases⟩
  cases foundOpened with
  | reuse found _ _ _ canvasEq revisionEq unanswered _ =>
    let written := platform.db.setCanvases canvases
    obtain ⟨rewrites, _⟩ := (rewrites_queueingKeeps platform.db written).complete canvasEq
      revisionEq unanswered (rewrites_self frozen.tasks) rfl rfl completeEq
    have completed := frozen_rewrites bound rewrites
    exact completed

/-- An object is put into the bucket, apart from those of the rows. -/
theorem frozen_put (frozen : platform.Frozen host) {object : StoredObject}
    (apart : ∀ snapshot ∈ platform.db.snapshots, object.place ≠ snapshot.place) :
    (platform.put object).Frozen host where
  tasks := frozen.tasks
  elements := frozen.elements
  placed := frozen.placed
  freezes := by
    intro snapshot snapshotMem
    obtain ⟨found, foundEq, documents⟩ := frozen.freezes snapshot snapshotMem
    exact ⟨found, (Table.get?_save.trans (if_neg (apart snapshot snapshotMem))).trans foundEq,
      documents⟩

/-- An object is deleted, apart from those of the rows. -/
theorem frozen_delete (frozen : platform.Frozen host) {stored : StoredWorkspaceSnapshot}
    (apart : ∀ snapshot ∈ platform.db.snapshots,
      (stored.bucket, stored.key) ≠ snapshot.place) :
    (platform.deleteObject stored).Frozen host where
  tasks := frozen.tasks
  elements := frozen.elements
  placed := frozen.placed
  freezes := by
    intro snapshot snapshotMem
    obtain ⟨found, foundEq, documents⟩ := frozen.freezes snapshot snapshotMem
    exact ⟨found, (Table.get?_delete_of_ne (apart snapshot snapshotMem)).trans foundEq,
      documents⟩

/-- The row of an object that has just been put is the document of the locked
canvas. -/
theorem frozen_write (frozen : platform.Frozen host)
    {canvas : Canvas} {object : StoredObject}
    (objectEq : platform.object? snapshot.storageBucket snapshot.storageKey = some object)
    (placed : snapshot.storageKey = snapshot.path)
    (canvasEq : platform.db.canvas? snapshot.canvasId = some canvas)
    (revisionEq : snapshot.canvasRevision = canvas.revision)
    (documentEq : host.document canvas (elements platform.db.toDb snapshot.canvasId) =
      .ok object.content) :
    Platform.Frozen host { platform with db := platform.db.writeSnapshot snapshot } where
  tasks := frozen.tasks
  elements := frozen.elements
  placed := by
    intro row rowMem
    rcases Table.mem_save_iff.mp rowMem with rfl | ⟨rowMem, _⟩
    · exact placed
    · exact frozen.placed row rowMem
  freezes := by
    intro row rowMem
    rcases Table.mem_save_iff.mp rowMem with rfl | ⟨rowMem, _⟩
    · exact ⟨object, objectEq, canvas, canvasEq, revisionEq.le, fun _ => documentEq⟩
    · exact frozen.freezes row rowMem

/-- A transaction that inserts the row of the object it has put. -/
theorem frozen_insert (shows : host.Shown) (frozen : platform.Frozen host)
    {found canvas : Canvas} {workflow : Workflow} {snapshotVersion : Nat}
    {serialized : SerializationResult} {persisted : PersistedPreview}
    (locks : Locks call platform.db found canvas locked)
    (foundOpened : Opened.Found host call platform.db
      (.store canvas workflow snapshotVersion serialized))
    (insertEq : insertPreview host call canvas workflow snapshotVersion serialized
      (call.object host snapshotVersion serialized.json).stored locked =
        (.ok persisted, reached)) :
    Platform.Frozen host
        { platform.put (call.object host snapshotVersion serialized.json) with db := reached } ∧
      ∃ response, responseFromTask persisted.task = .ok response := by
  have bound := frozen_locks shows frozen locks
  have canvasEq := locks.canvas?
  obtain ⟨canvases, rfl⟩ : ∃ canvases, locked = platform.db.setCanvases canvases :=
    ⟨_, locks.setCanvases⟩
  cases foundOpened with
  | store found _ _ _ _ foundEq revisionEq unanswered versionEq documentEq =>
    subst versionEq
    obtain ⟨_, _, requireEq, restEq⟩ := bind_eq_ok_iff.mp insertEq
    obtain ⟨_, rfl⟩ := require_eq_ok_iff.mp requireEq
    obtain ⟨_, _, saveEq, completeEq⟩ := bind_eq_ok_iff.mp restEq
    obtain ⟨checked, rfl⟩ := saveSnapshot_ok saveEq
    let object := call.object host (platform.db.nextSnapshotVersion (uuid call.canvasId))
      serialized.json
    let snapshot := call.snapshot host canvas workflow
      (platform.db.nextSnapshotVersion (uuid call.canvasId)) object.stored
    let put := Platform.put { platform with db := platform.db.setCanvases canvases } object
    have apart : ∀ snapshot ∈ platform.db.snapshots, object.place ≠ snapshot.place :=
      fun snapshot snapshotMem => object_apart frozen.placed snapshotMem serialized.json
    have stored : put.Frozen host := frozen_put bound apart
    have objectEq : put.object? snapshot.storageBucket snapshot.storageKey = some object :=
      Table.get?_save.trans (if_pos rfl)
    have written : Platform.Frozen host { put with db := put.db.writeSnapshot snapshot } :=
      frozen_write stored objectEq (path_of_checkSnapshot checked) canvasEq rfl documentEq
    obtain ⟨rewrites, _, reservation, taskEq⟩ :=
      (rewrites_queueingKeeps platform.db (put.db.writeSnapshot snapshot)).complete foundEq
        revisionEq unanswered (rewrites_self frozen.tasks) rfl rfl completeEq
    have inserted := frozen_rewrites written rewrites
    refine ⟨inserted, ?_⟩
    rw [taskEq]
    exact ⟨_, rfl⟩

/-- A transaction that throws deletes the object it has put. -/
theorem frozen_cleanUp (frozen : platform.Frozen host) {canvas : Canvas} {workflow : Workflow}
    {snapshotVersion : Nat} {serialized : SerializationResult}
    (foundOpened : Opened.Found host call platform.db
      (.store canvas workflow snapshotVersion serialized)) :
    Platform.Frozen host ((platform.put
      (call.object host snapshotVersion serialized.json)).deleteObject
        (call.object host snapshotVersion serialized.json).stored) := by
  cases foundOpened with
  | store found _ _ _ _ foundEq revisionEq unanswered versionEq documentEq =>
    subst versionEq
    have apart : ∀ snapshot ∈ platform.db.snapshots,
        (call.object host (platform.db.nextSnapshotVersion (uuid call.canvasId))
          serialized.json).place ≠ snapshot.place :=
      fun snapshot snapshotMem => object_apart frozen.placed snapshotMem serialized.json
    exact frozen_delete (frozen_put frozen apart) apart

/-- A preview request leaves the rows frozen, however it ends. -/
theorem frozen_create (shows : host.Shown) (frozen : platform.Frozen host)
    (request : PreviewRequest) : (create host request platform).2.Frozen host := by
  rw [create]
  split
  · exact frozen
  · rename_i call _
    split
    · exact frozen
    · rw [attempt]
      rcases openEq : openPreview host call platform.db with ⟨exception | opened, locked⟩
      · exact frozen
      · obtain ⟨foundOpened, found, canvas, locks, canvasEq⟩ := openPreview_ok openEq
        cases opened with
        | duplicate task snapshot =>
            have bound := frozen_locks shows frozen locks
            dsimp only [closePreview, Option.elim_none]
            split <;> exact bound
        | reuse worked workflow snapshot =>
            obtain ⟨rfl, _⟩ := canvasEq worked rfl
            dsimp only [closePreview, Option.elim_none]
            rcases completeEq : completePreview host call worked snapshot false locked with
              ⟨exception | persisted, reached⟩
            · exact frozen
            · have completed := frozen_complete shows frozen locks foundOpened completeEq
              split <;> exact completed
        | store worked workflow snapshotVersion serialized =>
            obtain ⟨rfl, _⟩ := canvasEq worked rfl
            dsimp only [closePreview, Option.elim_some]
            rcases insertEq : insertPreview host call worked workflow snapshotVersion serialized
                (call.object host snapshotVersion serialized.json).stored locked with
              ⟨exception | persisted, reached⟩
            · exact frozen_cleanUp frozen foundOpened
            · obtain ⟨inserted, response, responseEq⟩ :=
                frozen_insert shows frozen locks foundOpened insertEq
              have bound : (Except.ok persisted : Except Exception PersistedPreview).bind
                  (fun persisted => responseFromTask persisted.task) = .ok response := responseEq
              rw [bound]
              exact inserted

end

/-! ## Runs -/

/-- What happens on a platform: something to its canvases, or a preview request. -/
inductive ReuseAction where
  | canvas (action : Action)
  | preview (request : PreviewRequest)

/-- The platform after an action. -/
def Platform.react (canvasHost : Canvases.Host) (host : Jobs.Host) (platform : Platform) :
    ReuseAction → Platform
  | .canvas action =>
      { platform with
        db := { platform.db with toDb := act canvasHost platform.db.toDb action } }
  | .preview request => (create host request platform).2

/-- Canvases and preview requests, one action after the other. -/
def reuseSystem (canvasHost : Canvases.Host) (host : Jobs.Host) : Step Platform ReuseAction :=
  Step.ofTotal (Platform.react canvasHost host)

section
variable {canvasHost : Canvases.Host} {host : Jobs.Host} {platform reached : Platform}

/-- The parts of a call age the canvases. -/
theorem ages_previewKeeps (call : PreviewCall) (start : PlatformDb) (db : Db) :
    PreviewKeeps host call start fun reached =>
      Table.Keyed AiTask.id reached.tasks ∧ Ages db reached.toDb where
  keyed := fun _ aged => aged.1
  frozen := fun _ _ _ aged _ _ => aged
  superseded := fun _ _ _ aged _ _ => ⟨Table.keyed_save aged.1, aged.2⟩
  queued := fun _ _ _ _ _ aged _ _ _ _ _ _ => ⟨Table.keyed_save aged.1, aged.2⟩
  inserted := fun _ _ aged => aged
  bound := by
    intro platformDb found canvas locked aged locks
    have tasksEq : locked.tasks = platformDb.tasks := by rw [locks.setCanvases]; rfl
    exact ⟨tasksEq ▸ aged.1, aged.2.trans (ages_locks aged.2.keyed locks)⟩

/-- An action leaves the rows frozen and ages the canvases. -/
theorem frozen_react (shows : host.Shown) (frozen : platform.Frozen host)
    (action : ReuseAction) :
    (platform.react canvasHost host action).Frozen host ∧
      Ages platform.db.toDb (platform.react canvasHost host action).db.toDb := by
  cases action with
  | canvas action =>
      have ages := ages_act canvasHost frozen.elements action
      exact ⟨frozen_ages shows frozen ages rfl rfl, ages⟩
  | preview request =>
      refine ⟨frozen_create shows frozen request, ?_⟩
      have keeps : ∀ call, (prepare host request platform.db).1 = .ok call →
          PreviewKeeps host call platform.db fun reached =>
            Table.Keyed AiTask.id reached.tasks ∧ Ages platform.db.toDb reached.toDb :=
        fun call _ => ages_previewKeeps call platform.db platform.db.toDb
      exact (create_keeps keeps ⟨frozen.tasks, ages_refl frozen.elements⟩).1.2

/-- A run leaves the rows frozen and ages the canvases. -/
theorem frozen_run (shows : host.Shown) {actions : List ReuseAction}
    (frozen : platform.Frozen host)
    (runEq : (reuseSystem canvasHost host).run platform actions = some reached) :
    reached.Frozen host ∧ Ages platform.db.toDb reached.db.toDb := by
  have preserved : ∀ state action next,
      state.Frozen host ∧ Ages platform.db.toDb state.db.toDb →
        reuseSystem canvasHost host state action = some next →
          next.Frozen host ∧ Ages platform.db.toDb next.db.toDb := by
    rintro state action next ⟨frozen, aged⟩ stepEq
    cases stepEq
    have kept : (state.react canvasHost host action).Frozen host ∧
        Ages state.db.toDb (state.react canvasHost host action).db.toDb :=
      frozen_react shows frozen action
    exact ⟨kept.1, aged.trans kept.2⟩
  exact Step.invariant_of_run preserved ⟨frozen, ages_refl frozen.elements⟩ runEq

/-- The serializer makes the same of a canvas while it has one revision. -/
theorem serialize_ages {canvasId : Uuid} {db next : PlatformDb} {canvas later : Canvas}
    (shows : host.Shown) (ages : Ages db.toDb next.toDb)
    (canvasEq : db.canvas? canvasId = some canvas) (laterEq : next.canvas? canvasId = some later)
    (same : later.revision = canvas.revision) (expectedRevision : Nat) :
    (serialize host canvasId expectedRevision next).1 =
      (serialize host canvasId expectedRevision db).1 := by
  obtain ⟨found, foundEq, _, equal⟩ := ages.canvas canvasId canvas canvasEq
  cases laterEq.symm.trans foundEq
  obtain ⟨shownEq, elementsEq⟩ := equal same
  have readEq : (reading (fun db => db.canvas? canvasId) : Statements _) db =
      (.ok (some canvas), db) := congrArg (fun found => (Except.ok found, db)) canvasEq
  have readNextEq : (reading (fun db => db.canvas? canvasId) : Statements _) next =
      (.ok (some later), next) := congrArg (fun found => (Except.ok found, next)) laterEq
  rw [serialize, bind_of_ok readEq, bind_of_ok readNextEq,
    bind_of_ok (orThrow_eq_ok_iff.mpr ⟨rfl, rfl⟩), bind_of_ok (orThrow_eq_ok_iff.mpr ⟨rfl, rfl⟩),
    same]
  refine readOnly_reading.bind_result readOnly_reading (congrArg Except.ok elementsEq) ?_
  intro objects
  refine readOnly_require.bind_result readOnly_require rfl fun _ => ?_
  refine readOnly_require.bind_result readOnly_require rfl fun _ => ?_
  refine readOnly_require.bind_result readOnly_require rfl fun _ => ?_
  refine readOnly_asking.bind_result readOnly_asking (shows later canvas objects shownEq) ?_
  intro json
  rfl

end

/-- The snapshot that a call may reuse. -/
theorem availableSnapshot?_mem {call : PreviewCall} {db : PlatformDb} {canvasRevision : Nat}
    {snapshot : AiPreviewSnapshot}
    (availableEq : db.availableSnapshot? call canvasRevision = some snapshot) :
    snapshot ∈ db.snapshots ∧ snapshot.canvasId = uuid call.canvasId ∧
      snapshot.canvasRevision = canvasRevision ∧ snapshot.status = .available := by
  obtain ⟨snapshotMem, matching⟩ := List.mem_filter.mp (List.argmax_mem availableEq)
  simp only [Bool.and_eq_true, beq_iff_eq] at matching
  exact ⟨snapshotMem, matching.1.1.2, matching.1.2, matching.2⟩

/-- Snapshots are reused soundly.  In every run from a platform without snapshots,
the stored object of a snapshot that a call reuses is what the serializer makes of
the canvas then; and between two points of a run at which a canvas has the same
revision, what the serializer makes of it is the same. -/
theorem snapshot_reuse_sound (canvasHost : Canvases.Host) (host : Jobs.Host)
    {start middle last : Platform} {first second : List ReuseAction}
    (tasks : Table.Keyed AiTask.id start.db.tasks)
    (objects : Table.Keyed CanvasObject.id start.db.objects)
    (unfrozen : start.db.snapshots = [])
    (firstRun : (reuseSystem canvasHost host.serializing).run start first = some middle)
    (secondRun : (reuseSystem canvasHost host.serializing).run middle second = some last) :
    (∀ call canvas workflow snapshot locked, openPreview host.serializing call middle.db =
        (.ok (.reuse canvas workflow snapshot), locked) →
      snapshot.status = .available ∧ snapshot.canvasRevision = canvas.revision ∧
        ∃ object serialized,
          middle.object? snapshot.storageBucket snapshot.storageKey = some object ∧
          serialize host.serializing (uuid call.canvasId) canvas.revision locked =
            (.ok serialized, locked) ∧
          object.content = serialized.json) ∧
    ∀ canvasId canvas later, middle.db.canvas? canvasId = some canvas →
      last.db.canvas? canvasId = some later → later.revision = canvas.revision →
        ∀ expectedRevision,
          (serialize host.serializing canvasId expectedRevision last.db).1 =
            (serialize host.serializing canvasId expectedRevision middle.db).1 := by
  have shows := serializing_shown host
  have noRow : ∀ snapshot, snapshot ∉ start.db.snapshots := by
    rw [unfrozen]
    exact fun _ => List.not_mem_nil
  have startFrozen : start.Frozen host.serializing :=
    ⟨tasks, objects, fun row rowMem => absurd rowMem (noRow row),
      fun row rowMem => absurd rowMem (noRow row)⟩
  have frozen := (frozen_run shows startFrozen firstRun).1
  constructor
  · intro call canvas workflow snapshot locked openEq
    obtain ⟨foundOpened, found, worked, locks, workedEq⟩ := openPreview_ok openEq
    obtain ⟨rfl, serialized, serializeEq⟩ := workedEq canvas rfl
    have lockedEq := locks.canvas?
    obtain ⟨read, readEq, _, _, documentEq⟩ := serialize_ok serializeEq
    cases lockedEq.symm.trans readEq
    have lockedFrozen := frozen_locks shows frozen locks
    have rowsEq : locked.snapshots = middle.db.snapshots := by
      rw [locks.setCanvases]
      rfl
    cases foundOpened with
    | reuse _ _ _ _ foundEq revisionEq unanswered available =>
      obtain ⟨snapshotMem, canvasEq, snapshotRevision, status⟩ := availableSnapshot?_mem available
      have current : snapshot.canvasRevision = canvas.revision :=
        snapshotRevision.trans revisionEq.symm
      obtain ⟨object, objectEq, kept, keptEq, _, contentEq⟩ :=
        lockedFrozen.freezes snapshot (rowsEq ▸ snapshotMem)
      rw [canvasEq] at keptEq contentEq
      cases lockedEq.symm.trans keptEq
      refine ⟨status, current, object, serialized, objectEq, serializeEq, ?_⟩
      exact Except.ok.inj ((contentEq current.symm).symm.trans documentEq)
  · intro canvasId canvas later canvasEq laterEq same expectedRevision
    exact serialize_ages shows (frozen_run shows frozen secondRun).2 canvasEq laterEq same
      expectedRevision

/-! ## An example -/

/-- The body of a call of Bob. -/
def exampleCall : PreviewCall where
  workspaceId := exampleWorkspace.text
  canvasId := exampleCanvas.text
  user := ⟨exampleBob, exampleOrg, "viewer"⟩
  correlationId := "correlation"
  idempotencyKey := "other"
  target := normalizeTarget exampleDto
  reservationId := uuid "reservation"
  now := 0

/-- The request of Alice. -/
def exampleFrozen : List ReuseAction := [.preview (exampleRequest exampleAlice "key")]

/-- A snapshot is found for a call. -/
def reuses : Except Exception Opened × PlatformDb → Bool
  | (.ok (.reuse ..), _) => true
  | _ => false

/-- The call of Bob reuses the snapshot of Alice. -/
theorem snapshot_reuse_sound_example :
    ∃ middle canvas workflow snapshot locked,
      (reuseSystem Canvases.exampleHost exampleHost.serializing).run examplePlatform
        exampleFrozen = some middle ∧
      openPreview exampleHost.serializing exampleCall middle.db =
        (.ok (.reuse canvas workflow snapshot), locked) ∧
      ∃ object serialized,
        middle.object? snapshot.storageBucket snapshot.storageKey = some object ∧
        serialize exampleHost.serializing exampleCanvas canvas.revision locked =
          (.ok serialized, locked) ∧
        object.content = serialized.json := by
  let middle := examplePlatform.react Canvases.exampleHost exampleHost.serializing
    (.preview (exampleRequest exampleAlice "key"))
  have runEq : (reuseSystem Canvases.exampleHost exampleHost.serializing).run examplePlatform
      exampleFrozen = some middle := rfl
  have reused : reuses (openPreview exampleHost.serializing exampleCall middle.db) = true := by
    decide +kernel
  have tasks : Table.Keyed AiTask.id examplePlatform.db.tasks := Table.keyed_nil
  have objects : Table.Keyed CanvasObject.id examplePlatform.db.objects := Table.keyed_nil
  obtain ⟨sound, _⟩ := snapshot_reuse_sound Canvases.exampleHost exampleHost tasks objects rfl
    runEq (Step.run_nil middle)
  rcases openEq : openPreview exampleHost.serializing exampleCall middle.db with
    ⟨_ | (_ | ⟨canvas, workflow, snapshot⟩ | _), locked⟩
  · simp [openEq, reuses] at reused
  · simp [openEq, reuses] at reused
  · obtain ⟨_, _, held⟩ := sound exampleCall canvas workflow snapshot locked openEq
    exact ⟨middle, canvas, workflow, snapshot, locked, runEq, openEq, held⟩
  · simp [openEq, reuses] at reused

end Manbaa.Jobs
