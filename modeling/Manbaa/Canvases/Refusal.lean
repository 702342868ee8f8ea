import Manbaa.Canvases.Sound

/-!
# Which mutations the tables refuse

A call that passes the checks of the service is one that, on tables that accept
every row, throws nothing but a refusal.  On the constraints of the migrations
such a call commits under a condition that its request and its canvas decide.

The removal of an object never commits, and a client operation commits on a
canvas that is bound to a workspace only: both write rows that the operation
table refuses.
-/

namespace Manbaa.Canvases

open Manbaa.Lib Manbaa.Lib.Effect Manbaa.Workspaces

/-- The user a call acts for. -/
def Call.userId : Call → Uuid
  | .createObject _ _ caller | .updateObject _ _ caller | .moveObject _ _ caller
  | .deleteObject _ caller | .createOperation _ _ caller => caller.id
  | .appendOperation _ _ userId _ _ _ => userId

/-- The request passed validation: a client operation has a known type. -/
def Call.Validated : Call → Prop
  | .createOperation _ dto _ => dto.opType ∈ canvasOperationTypes
  | _ => True

/-- The generated identifiers are unused. -/
structure GeneratedIds.Fresh (ids : GeneratedIds) (db : Db) : Prop where
  canvas : db.canvas? ids.canvas = none
  object : db.object? ids.object = none
  operation : db.operation? ids.operation = none

/-- An authenticated and validated call that would write and that passes every
check of the service itself. -/
structure Call.Passes (call : Call) (numberText : Number → String) (ids : GeneratedIds)
    (db : Db) : Prop where
  authenticated : call.userId ∈ db.users
  validated : call.Validated
  unused : call.isReplay db = false
  unrefused : OnlyThrows (fun exception => exception.isRefusal = true)
    (call.perform (alone numberText) ids) ⟨db, []⟩

/-- The texts and values of a new object fit their columns. -/
def CreateCanvasObjectDto.fits (dto : CreateCanvasObjectDto) : Bool :=
  textFits 64 dto.type && dto.elsaType.all (textFits 128) && dto.label.all (textFits 256) &&
    (Json.obj (dto.properties.getD [])).jsonb.storable && (orNull dto.style).jsonb.storable

/-- What a patch sets satisfies a condition. -/
def Patch.all {α : Type} (patch : Patch α) (condition : α → Bool) : Bool :=
  match patch with
  | .set value => condition value
  | _ => true

/-- The texts and values of an update fit their columns, and no column that must
hold a value is set to null. -/
def UpdateCanvasObjectDto.fits (dto : UpdateCanvasObjectDto) : Bool :=
  dto.elsaType.all (textFits 128) && dto.label.all (textFits 256) &&
    dto.properties.all (fun fields => (Json.obj fields).jsonb.storable) &&
    dto.style.all (fun fields => (Json.obj fields).jsonb.storable) &&
    dto.properties.given && dto.positionX.given && dto.positionY.given

/-- The condition under which the tables take what a call writes. -/
def Call.Fits (db : Db) : Call → Prop
  | .createObject _ dto _ => dto.fits = true
  | .updateObject _ dto _ => dto.fits = true
  | .moveObject _ _ _ => True
  | .deleteObject _ _ => False
  | .appendOperation _ canvasObjectId _ opType opPayload versionVector =>
      textFits 64 opType = true ∧ (Json.obj opPayload).jsonb.storable = true ∧
        (orNull versionVector).jsonb.storable = true ∧
        ∀ id, canvasObjectId = some id → (db.object? (uuid id)).isSome
  | .createOperation workflowId dto _ =>
      db.bound (uuid workflowId) = true ∧ (Json.obj dto.opPayload).jsonb.storable = true ∧
        (orNull dto.versionVector).jsonb.storable = true

variable {numberText : Number → String} {ids : GeneratedIds} {caller : RequestUser}
  {canvas : Canvas} {db : Db} {world target : World}

/-! ## Rows that follow the revision of a canvas -/

theorem workflow?_of_mem {workflow : Workflow} (sound : db.Sound)
    (workflowMem : workflow ∈ db.workflows) : db.workflow? workflow.id = some workflow :=
  sound.workflowsKeyed.get?_of_mem workflowMem

/-- A bound canvas has the workflow that decides the organization, and its
workspace belongs to it. -/
theorem workflowOfBound?_eq {workspaceId : Uuid} (sound : db.Sound)
    (canvasMem : canvas ∈ db.canvases) (bound : canvas.workspaceId = some workspaceId) :
    ∃ workflow, db.workflowOfBound? canvas = some workflow ∧
      ⟨workspaceId, workflow.orgId⟩ ∈ db.workspaces := by
  obtain ⟨workflow, workflowMem, workflowId⟩ := sound.workflowMem canvas canvasMem
  refine ⟨workflow, ?_, sound.workspaceMem canvas canvasMem workspaceId bound workflow
    workflowMem workflowId⟩
  simp [Db.workflowOfBound?, bound, ← workflowId, workflow?_of_mem sound workflowMem]

theorem workflowGuard (sound : db.Sound) (canvasMem : canvas ∈ db.canvases) :
    (canvas.workspaceId.isNone || (db.workflowOfBound? canvas).isSome) = true := by
  cases bound : canvas.workspaceId with
  | none => rfl
  | some workspaceId =>
      obtain ⟨workflow, workflowEq, _⟩ := workflowOfBound?_eq sound canvasMem bound
      rw [workflowEq]
      rfl

/-- Which operations that follow the revision of a canvas the table accepts. -/
theorem accepts_nextOperation {canvasObjectId : Option String} {userId : Uuid}
    {opType : String} {opPayload : Json.Fields} {versionVector : Option Json.Fields}
    (sound : db.Sound) (canvasEq : db.canvas? canvas.id = some canvas) :
    checkOperation db (nextOperation ids canvas (db.workflowOfBound? canvas) canvasObjectId userId
        opType opPayload versionVector).stored = .ok () ↔
      textFits 64 opType = true ∧ (Json.obj opPayload).jsonb.storable = true ∧
        (orNull versionVector).jsonb.storable = true ∧
        (∀ id, canvasObjectId = some id → (db.object? (uuid id)).isSome) ∧ userId ∈ db.users := by
  have canvasMem : canvas ∈ db.canvases := Table.mem_of_get? canvasEq
  have uuidLower : ∀ text, uuid (lowerCase text) = uuid text := fun text => uuid_text (uuid text)
  rw [checkOperation_eq_ok_iff]
  cases bound : canvas.workspaceId with
  | none =>
      have unbound : db.workflowOfBound? canvas = none := by simp [Db.workflowOfBound?, bound]
      simp [nextOperation, CanvasOperation.stored, CanvasOperation.phase04Scope,
        Db.tenantWorkspace, Db.canvasWorkspace, bound, unbound, canvasEq, uuidLower]
  | some workspaceId =>
      obtain ⟨workflow, workflowEq, workspaceMem⟩ := workflowOfBound?_eq sound canvasMem bound
      simp [nextOperation, CanvasOperation.stored, CanvasOperation.phase04Scope,
        Db.tenantWorkspace, Db.canvasWorkspace, bound, workflowEq, workspaceMem, canvasEq,
        uuidLower]

/-- When a deployed service appends to the log of the canvas it locked. -/
theorem append_returns_iff {canvasObjectId : Option String} {userId : Uuid} {opType : String}
    {opPayload : Json.Fields} {versionVector : Option Json.Fields} (sound : world.db.Sound)
    (canvasEq : world.db.canvas? canvas.id = some canvas)
    (fresh : world.db.operation? ids.operation = none) :
    (∃ operation target, appendOperationWithLockedCanvas (deployed numberText) ids canvas
        canvasObjectId userId opType opPayload versionVector world = (.ok operation, target)) ↔
      textFits 64 opType = true ∧ (Json.obj opPayload).jsonb.storable = true ∧
        (orNull versionVector).jsonb.storable = true ∧
        (∀ id, canvasObjectId = some id → (world.db.object? (uuid id)).isSome) ∧
        userId ∈ world.db.users := by
  have accepts : checkOperation world.db (nextOperation ids canvas
      (world.db.workflowOfBound? canvas) canvasObjectId userId opType opPayload
      versionVector).stored = .ok () ↔ _ := accepts_nextOperation sound canvasEq
  rw [← accepts]
  constructor
  · rintro ⟨operation, target, appendEq⟩
    obtain ⟨_, rfl, _, accepted, _⟩ := appendOperationWithLockedCanvas_eq_ok_iff.mp appendEq
    exact accepted
  · intro accepted
    refine ⟨_, _, appendOperationWithLockedCanvas_eq_ok_iff.mpr
      ⟨workflowGuard sound (Table.mem_of_get? canvasEq), rfl, ?_, accepted, rfl⟩⟩
    rw [nextOperation, uuid_text]
    exact fresh

/-! ## The guards of the service -/

/-- A computation that throws refusals only returns, if it never throws one. -/
theorem returns_of_unrefused {α : Type} {body : Service α}
    (unrefused : OnlyThrows (fun exception => exception.isRefusal = true) body world)
    (never : ∀ exception target, body world = (.error exception, target) →
      exception.isRefusal = false) : ∃ value target, body world = (.ok value, target) := by
  apply unrefused.returns
  intro exception target bodyEq refused
  rw [never exception target bodyEq] at refused
  cases refused

theorem mutationPermission_error {exception : Exception}
    (denied : mutationPermission canvas caller db = .error exception) :
    exception.isRefusal = false := by
  unfold mutationPermission at denied
  split at denied
  · rcases except_bind_eq_error_iff.mp denied with denied | ⟨_, _, returned⟩
    · simp only [requireEditor, except_bind_eq_error_iff, lookUp_eq_error_iff,
        check_eq_error_iff] at denied
      rcases denied with ⟨_, rfl⟩ | ⟨_, _, ⟨_, rfl⟩ | ⟨_, _, returned⟩⟩
      · rfl
      · rfl
      · cases returned
    · cases returned
  · obtain ⟨_, rfl⟩ := check_eq_error_iff.mp denied
    rfl

theorem permitted_of_unrefused
    (unrefused : OnlyThrows (fun exception => exception.isRefusal = true)
      (requireCanvasMutationPermission canvas caller) world) :
    mutationPermission canvas caller world.db = .ok () := by
  obtain ⟨_, _, permitted⟩ := returns_of_unrefused unrefused (by
    intro exception target denied
    exact mutationPermission_error (asking_eq_error_iff.mp denied).1)
  exact (requireCanvasMutationPermission_eq_ok_iff.mp permitted).1

/-- An exception of a lookup or a check is no refusal. -/
theorem orThrow_of_unrefused {α : Type} {present : Option α} {exception : Exception}
    (kind : exception.isRefusal = false)
    (unrefused : OnlyThrows (fun exception => exception.isRefusal = true)
      (orThrow present exception : Service α) world) : ∃ value, present = some value := by
  obtain ⟨value, _, found⟩ := returns_of_unrefused unrefused (by
    intro thrown target missing
    obtain ⟨_, rfl, _⟩ := orThrow_eq_error_iff.mp missing
    exact kind)
  exact ⟨value, (orThrow_eq_ok_iff.mp found).1⟩

theorem require_of_unrefused {condition : Bool} {exception : Exception}
    (kind : exception.isRefusal = false)
    (unrefused : OnlyThrows (fun exception => exception.isRefusal = true)
      (require condition exception) world) : condition = true := by
  obtain ⟨_, _, held⟩ := returns_of_unrefused unrefused (by
    intro thrown target failed
    obtain ⟨_, rfl, _⟩ := require_eq_error_iff.mp failed
    exact kind)
  exact (require_eq_ok_iff.mp held).1

theorem canvas_of_unrefused {canvasId : Uuid}
    (unrefused : OnlyThrows (fun exception => exception.isRefusal = true)
      (findCanvasOrThrow canvasId) world) : ∃ canvas, world.db.canvas? canvasId = some canvas :=
  orThrow_of_unrefused rfl (unrefused.of_bind.2 _ _ rfl)

/-- A mutation of an object that passes the checks of the service finds the
object, its canvas and the permission to change both. -/
theorem permits_of_unrefused {objectId lockedMessage : String}
    {change : Canvas → CanvasObject → Service CanvasObject}
    {event : Uuid → Uuid → CanvasObject → Broadcast}
    (unrefused : OnlyThrows (fun exception => exception.isRefusal = true)
      (mutateObject objectId caller lockedMessage change event) world) :
    ∃ canvas object, Permits world.db objectId caller canvas object := by
  obtain ⟨finding, rest⟩ := unrefused.of_bind
  obtain ⟨object, objectEq⟩ := orThrow_of_unrefused rfl (finding.of_bind.2 _ _ rfl).of_bind.1
  have resolving := (finding.of_bind.2 _ _ rfl).of_bind.2 object world
    (orThrow_eq_ok_iff.mpr ⟨objectEq, rfl⟩)
  obtain ⟨workflowId, resolved⟩ :=
    orThrow_of_unrefused rfl (resolving.of_bind.1.of_bind.2 _ _ rfl)
  have resolvedSome : (world.db.workflowOf object.canvasId caller.orgId).isSome :=
    Option.isSome_iff_exists.mpr ⟨workflowId, resolved⟩
  have guarding := rest object world
    (findObjectInOrgOrThrow_eq_ok_iff.mpr ⟨objectEq, resolvedSome, rfl⟩)
  obtain ⟨canvas, canvasEq⟩ := canvas_of_unrefused guarding.of_bind.1
  have permitting := guarding.of_bind.2 canvas world
    (findCanvasOrThrow_eq_ok_iff.mpr ⟨canvasEq, rfl⟩)
  have permitted := permitted_of_unrefused permitting.of_bind.1
  have changing := (permitting.of_bind.2 () world
    (requireCanvasMutationPermission_eq_ok_iff.mpr ⟨permitted, rfl⟩)).of_bind.1
  have body : OnlyThrows (fun exception => exception.isRefusal = true)
      (changeLocked canvas objectId caller lockedMessage change) world := by
    intro exception target bodyEq
    exact changing exception world (transaction_eq_error_iff.mpr ⟨rfl, target, bodyEq⟩)
  have foundOn : world.db.objectOn? (uuid objectId) canvas.id = some object := by
    rw [id_of_canvas? canvasEq]
    exact objectOn?_of_object? objectEq
  have unlocking := ((body.of_bind.2 canvas world
    (findCanvasOrThrow_eq_ok_iff.mpr ⟨canvas?_id canvasEq, rfl⟩)).of_bind.2 _ _ rfl).of_bind.2
      object world (orThrow_eq_ok_iff.mpr ⟨foundOn, rfl⟩)
  exact ⟨canvas, object, objectEq, resolvedSome, canvasEq, permitted,
    require_of_unrefused rfl unlocking.of_bind.1⟩

theorem opens_of_unrefused {workflowId : String} {orgId : Uuid} (sound : world.db.Sound)
    (fresh : world.db.canvas? ids.canvas = none)
    (unrefused : OnlyThrows (fun exception => exception.isRefusal = true)
      (getOrCreateCanvas ids workflowId orgId) world) :
    ∃ opened canvas, Opens ids workflowId orgId world opened canvas := by
  obtain ⟨workflow, found⟩ :=
    orThrow_of_unrefused rfl (unrefused.of_bind.1.of_bind.2 _ _ rfl)
  cases existing : world.db.canvasOf? workflow.id with
  | some canvas =>
      exact ⟨world, canvas, opens_of_eq sound (getOrCreateCanvas_eq_ok_iff.mpr
        ⟨workflow, found, Or.inl ⟨existing, rfl⟩⟩)⟩
  | none =>
      have unused : ∀ other ∈ world.db.canvases, other.workflowId ≠ workflow.id := by
        intro other otherMem same
        have differs := List.find?_eq_none.mp existing other otherMem
        exact differs (beq_iff_eq.mpr same)
      exact ⟨_, _, opens_of_eq sound (getOrCreateCanvas_eq_ok_iff.mpr
        ⟨workflow, found, Or.inr ⟨existing, rfl, _,
          insertCanvas_eq_ok_iff.mpr ⟨fresh, unused, rfl⟩, rfl⟩⟩)⟩

/-! ## Texts that the service composes -/

theorem zeroFree_of_fits {limit : Nat} {text : String} (fits : textFits limit text = true) :
    Json.zeroFree text = true :=
  (Bool.and_eq_true_iff.mp fits).1

theorem storable_textOrNull {limit : Nat} {text : Option String}
    (fits : text.all (textFits limit) = true) : (textOrNull text).storable = true := by
  cases text with
  | none => rfl
  | some text => exact zeroFree_of_fits fits

theorem storable_numberOrNull (number : Option Number) : (numberOrNull number).storable = true := by
  cases number <;> rfl

theorem storable_createPayload {object : CanvasObject}
    (accepted : checkObject db object.stored = .ok ()) :
    (Json.obj (createPayload object)).jsonb.storable = true := by
  obtain ⟨type, elsaType, label, _⟩ := checkObject_eq_ok_iff.mp accepted
  apply Json.storable_normal
  have typeFree : Json.zeroFree object.type = true := zeroFree_of_fits type
  have elsaTypeStorable : (textOrNull object.elsaType).storable = true :=
    storable_textOrNull elsaType
  have labelStorable : (textOrNull object.label).storable = true := storable_textOrNull label
  simp only [createPayload, Json.storable, Json.storableFields, elsaTypeStorable, labelStorable,
    typeFree]
  decide

theorem storable_updatePayload {object : CanvasObject}
    (accepted : checkObject db object.stored = .ok ()) :
    (Json.obj (updatePayload object)).jsonb.storable = true := by
  obtain ⟨_, _, label, _⟩ := checkObject_eq_ok_iff.mp accepted
  apply Json.storable_normal
  have labelStorable : (textOrNull object.label).storable = true := storable_textOrNull label
  simp only [updatePayload, Json.storable, Json.storableFields, labelStorable,
    storable_numberOrNull]
  decide

theorem storable_movePayload (object : CanvasObject) :
    (Json.obj (movePayload object)).jsonb.storable = true := by
  apply Json.storable_normal
  simp only [movePayload, Json.storable, Json.storableFields]
  decide

/-! ## Mutations of objects -/

theorem all_nullable (patch : Patch String) {old : Option String} {condition : String → Bool}
    (oldFits : old.all condition = true) :
    (patch.nullable old).all condition = true ↔ patch.all condition = true := by
  cases patch with
  | keep => simpa [Patch.nullable, Patch.map, Patch.apply, Patch.all] using oldFits
  | clear => simp [Patch.nullable, Patch.map, Patch.apply, Patch.all]
  | set text => simp [Patch.nullable, Patch.map, Patch.apply, Patch.all]

theorem storable_apply (patch : Patch Json.Fields) {old null : Json}
    (oldStorable : old.storable = true) (nullStorable : null.storable = true) :
    ((patch.map Json.obj).apply old null).jsonb.storable = true ↔
      patch.all (fun fields => (Json.obj fields).jsonb.storable) = true := by
  cases patch with
  | keep => simpa [Patch.map, Patch.apply, Patch.all] using Json.storable_normal old oldStorable
  | clear => simpa [Patch.map, Patch.apply, Patch.all] using Json.storable_normal null nullStorable
  | set fields => simp [Patch.map, Patch.apply, Patch.all]

theorem given_map {α β : Type} (patch : Patch α) (f : α → β) : (patch.map f).given = patch.given := by
  cases patch <;> rfl

/-- Which updates of an accepted row are accepted. -/
theorem checkObject_patched {dto : UpdateCanvasObjectDto} {object : CanvasObject}
    (accepted : checkObject db object = .ok ()) :
    ((dto.properties.map Json.obj).given = true ∧ dto.positionX.given = true ∧
        dto.positionY.given = true ∧ checkObject db (dto.patched object).stored = .ok ()) ↔
      dto.fits = true := by
  rw [checkObject_eq_ok_iff] at accepted ⊢
  obtain ⟨type, elsaType, label, properties, style, canvasEq, createdBy⟩ := accepted
  have elsaTypeIff := all_nullable dto.elsaType elsaType
  have labelIff := all_nullable dto.label label
  have propertiesIff := storable_apply dto.properties properties properties
  have nullStorable : Json.null.storable = true := rfl
  have styleIff := storable_apply dto.style style nullStorable
  simp only [UpdateCanvasObjectDto.patched, CanvasObject.stored, elsaTypeIff, labelIff,
    propertiesIff, styleIff, UpdateCanvasObjectDto.fits, Bool.and_eq_true, given_map]
  constructor
  · rintro ⟨given, givenX, givenY, _, elsaTypeFits, labelFits, propertiesFit, styleFits, _⟩
    exact ⟨⟨⟨⟨⟨⟨elsaTypeFits, labelFits⟩, propertiesFit⟩, styleFits⟩, given⟩, givenX⟩, givenY⟩
  · rintro ⟨⟨⟨⟨⟨⟨elsaTypeFits, labelFits⟩, propertiesFit⟩, styleFits⟩, given⟩, givenX⟩, givenY⟩
    exact ⟨given, givenX, givenY, type, elsaTypeFits, labelFits, propertiesFit, styleFits,
      canvasEq, createdBy⟩

/-- Which new objects are accepted. -/
theorem checkObject_created {dto : CreateCanvasObjectDto} {id : Uuid}
    (canvasEq : db.canvas? canvas.id = some canvas) (stored : caller.id ∈ db.users) :
    checkObject db (dto.object id canvas.id caller).stored = .ok () ↔ dto.fits = true := by
  rw [checkObject_eq_ok_iff]
  simp [CreateCanvasObjectDto.object, CanvasObject.stored, CreateCanvasObjectDto.fits, canvasEq,
    stored, and_assoc]

/-- When a deployed service saves and records a changed object. -/
theorem saveAndRecord_returns_iff {old object : CanvasObject} {opType : String}
    {opPayload : Json.Fields} (sound : world.db.Sound)
    (canvasEq : world.db.canvas? canvas.id = some canvas)
    (fresh : world.db.operation? ids.operation = none) (stored : caller.id ∈ world.db.users)
    (oldMem : old ∈ world.db.objects) (sameId : old.id = object.id)
    (sameCanvas : old.canvasId = object.canvasId) (typeFits : textFits 64 opType = true)
    (payloadStorable : checkObject world.db object.stored = .ok () →
      (Json.obj opPayload).jsonb.storable = true) :
    (∃ saved target, saveAndRecord (deployed numberText) ids canvas object caller opType
        opPayload world = (.ok saved, target)) ↔
      checkObject world.db object.stored = .ok () := by
  simp only [saveAndRecord, bind_eq_ok_iff, execute_eq_ok_iff, saveObject_eq_ok_iff,
    pure_eq_ok_iff]
  constructor
  · rintro ⟨_, _, _, _, ⟨_, ⟨accepted, rfl⟩, rfl⟩, _⟩
    exact accepted
  · intro accepted
    have edited : Edited (deployed numberText)
        { nextOperation ids canvas none none caller.id opType opPayload none with
          canvasId := object.canvasId } world.db
        { world.db with
          objects := Table.save CanvasObject.id world.db.objects object.stored } :=
      Edited.saved old object oldMem sameId sameCanvas accepted rfl
    have objectEq : (Table.get? CanvasObject.id
        (Table.save CanvasObject.id world.db.objects object.stored) object.id).isSome := by
      rw [Table.get?_save]
      simp [CanvasObject.stored]
    have appended : ∃ operation target, appendOperationWithLockedCanvas (deployed numberText) ids
        canvas (some object.id.text) caller.id opType opPayload none
        { world with db := { world.db with
            objects := Table.save CanvasObject.id world.db.objects object.stored } } =
          (.ok operation, target) := by
      refine (append_returns_iff ?_ ?_ ?_).mpr
        ⟨typeFits, payloadStorable accepted, rfl, ?_, stored⟩
      · exact edited.sound sound
      · exact canvasEq
      · exact fresh
      rintro id ⟨⟩
      rw [uuid_text]
      exact objectEq
    obtain ⟨operation, target, appendEq⟩ := appended
    exact ⟨_, _, (), _, ⟨_, ⟨accepted, rfl⟩, rfl⟩, operation, target, appendEq, rfl, rfl⟩

/-- A permitted mutation returns when its change does. -/
theorem mutateObject_returns_iff {host : Host} {objectId lockedMessage : String}
    {change : Canvas → CanvasObject → Service CanvasObject}
    {event : Uuid → Uuid → CanvasObject → Broadcast} {object : CanvasObject}
    (changes : Changes host objectId change)
    (permits : Permits world.db objectId caller canvas object) :
    (∃ changed target, mutateObject objectId caller lockedMessage change event world =
        (.ok changed, target)) ↔
      ∃ changed later, change canvas object world = (.ok changed, later) := by
  constructor
  · rintro ⟨changed, target, callEq⟩
    obtain ⟨otherCanvas, other, later, _, otherPermits, changeEq, _⟩ :=
      mutateObject_eq_ok_iff.mp callEq
    obtain rfl := Option.some.inj (permits.objectEq.symm.trans otherPermits.objectEq)
    obtain rfl := Option.some.inj (permits.canvasEq.symm.trans otherPermits.canvasEq)
    exact ⟨changed, later, changeEq⟩
  · rintro ⟨changed, later, changeEq⟩
    obtain ⟨workflowId, resolved⟩ :=
      Option.isSome_iff_exists.mp (changes.resolved permits changeEq)
    exact ⟨changed, _, mutateObject_eq_ok_iff.mpr
      ⟨canvas, object, later, workflowId, permits, changeEq, resolved, rfl⟩⟩

theorem updateObject_returns_iff {objectId : String} {dto : UpdateCanvasObjectDto}
    {object : CanvasObject} (sound : world.db.Sound)
    (fresh : world.db.operation? ids.operation = none) (stored : caller.id ∈ world.db.users)
    (permits : Permits world.db objectId caller canvas object) :
    (∃ saved target, updateObject (deployed numberText) ids objectId dto caller world =
        (.ok saved, target)) ↔ dto.fits = true := by
  have accepted := sound.objects object permits.objectMem
  rw [updateObject, mutateObject_returns_iff changes_update permits, ← checkObject_patched accepted]
  have saving : (∃ saved target, saveAndRecord (deployed numberText) ids canvas (dto.patched object)
      caller "object_update" (updatePayload (dto.patched object)) world = (.ok saved, target)) ↔
      checkObject world.db (dto.patched object).stored = .ok () :=
    saveAndRecord_returns_iff sound permits.lockEq fresh stored permits.objectMem rfl rfl
      (by decide) fun patchedAccepted => storable_updatePayload patchedAccepted
  rw [← saving]
  constructor
  · rintro ⟨saved, target, changeEq⟩
    obtain ⟨_, _, applyEq, saveEq⟩ := bind_eq_ok_iff.mp changeEq
    obtain ⟨given, givenX, givenY, rfl, rfl⟩ := apply_eq_ok_iff.mp applyEq
    exact ⟨given, givenX, givenY, saved, target, saveEq⟩
  · rintro ⟨given, givenX, givenY, saved, target, saveEq⟩
    exact ⟨saved, target, bind_eq_ok_iff.mpr
      ⟨_, _, apply_eq_ok_iff.mpr ⟨given, givenX, givenY, rfl, rfl⟩, saveEq⟩⟩

theorem moveObject_returns {objectId : String} {dto : MoveCanvasObjectDto}
    {object : CanvasObject} (sound : world.db.Sound)
    (fresh : world.db.operation? ids.operation = none) (stored : caller.id ∈ world.db.users)
    (permits : Permits world.db objectId caller canvas object) :
    ∃ saved target, moveObject (deployed numberText) ids objectId dto caller world =
      (.ok saved, target) := by
  rw [moveObject, mutateObject_returns_iff changes_move permits]
  have typeFits : textFits 64 "object_move" = true := by decide
  refine (saveAndRecord_returns_iff sound permits.lockEq fresh stored permits.objectMem ?_ ?_
    typeFits ?_).mpr ?_
  · rfl
  · rfl
  · exact fun _ => storable_movePayload _
  have accepted := sound.objects object permits.objectMem
  rw [checkObject_eq_ok_iff] at accepted ⊢
  obtain ⟨type, elsaType, label, properties, style, rest⟩ := accepted
  exact ⟨type, elsaType, label, Json.storable_normal _ properties, Json.storable_normal _ style,
    rest⟩

/-- The removal of an object never commits. -/
theorem deleteObject_throws {objectId : String} {deleted : Bool} :
    deleteObject (deployed numberText) ids objectId caller world ≠ (.ok deleted, target) := by
  intro callEq
  obtain ⟨_, _, bodyEq, _⟩ := bind_eq_ok_iff.mp callEq
  obtain ⟨canvas, object, later, _, permits, changeEq, _⟩ := mutateObject_eq_ok_iff.mp bodyEq
  simp only [removeAndRecord, bind_eq_ok_iff, execute_eq_ok_iff, removeObject_eq_ok_iff] at changeEq
  obtain ⟨_, _, ⟨_, rfl, rfl⟩, operation, _, appendEq, _⟩ := changeEq
  obtain ⟨_, operationEq, _, accepted, _⟩ := appendOperationWithLockedCanvas_eq_ok_iff.mp appendEq
  refine not_accepted_of_removed object ?_ ?_ accepted
  · rw [operationEq, permits.objectIdEq]
    rfl
  · simp [Db.object?, Table.get?_eq_none_iff]

/-! ## Calls that open the canvas of a workflow -/

theorem createObject_returns_iff {workflowId : String} {dto : CreateCanvasObjectDto}
    {opened : World} (sound : world.db.Sound) (fresh : ids.Fresh world.db)
    (stored : caller.id ∈ world.db.users)
    (opens : Opens ids workflowId caller.orgId world opened canvas)
    (permitted : mutationPermission canvas caller opened.db = .ok ()) :
    (∃ saved target, createObject (deployed numberText) ids workflowId dto caller world =
        (.ok saved, target)) ↔ dto.fits = true := by
  have openedSound := opens.step.sound sound
  have openedUsers : opened.db.users = world.db.users :=
    congrArg Tenancy.users opens.step.toTenancy
  have openedStored : caller.id ∈ opened.db.users := by
    rw [openedUsers]
    exact stored
  have accepts : checkObject opened.db (dto.object ids.object canvas.id caller).stored = .ok () ↔
      dto.fits = true := checkObject_created opens.canvasEq openedStored
  rw [← accepts]
  simp only [createObject, bind_eq_ok_iff, requireCanvasMutationPermission_eq_ok_iff,
    transaction_eq_ok_iff, findCanvasOrThrow_eq_ok_iff, execute_eq_ok_iff,
    insertObject_eq_ok_iff, pure_eq_ok_iff, broadcast, writing_eq_ok_iff]
  constructor
  · rintro ⟨_, _, other, _, otherEq, _, _, ⟨_, rfl⟩, _, _,
      ⟨_, _, ⟨_, rfl⟩, _, _, ⟨_, ⟨_, accepted, _⟩, _⟩, _⟩, _⟩
    obtain ⟨rfl, rfl⟩ : canvas = other ∧ opened = _ := by
      have same := opens.openEq.symm.trans otherEq
      simpa using same
    exact accepted
  · intro accepted
    have freshObject : opened.db.object? (dto.object ids.object canvas.id caller).id = none := by
      rw [Db.object?, opens.step.objects]
      exact fresh.object
    have edited : Edited (deployed numberText) (nextOperation ids canvas none none caller.id
        "object_create" [] none) opened.db
        { opened.db with
          objects := opened.db.objects ++ [(dto.object ids.object canvas.id caller).stored] } :=
      Edited.inserted _ freshObject accepted rfl
    have appended : ∃ operation target, appendOperationWithLockedCanvas (deployed numberText) ids
        canvas (some (dto.object ids.object canvas.id caller).id.text) caller.id "object_create"
        (createPayload (dto.object ids.object canvas.id caller)) none
        { opened with db := { opened.db with
            objects := opened.db.objects ++
              [(dto.object ids.object canvas.id caller).stored] } } = (.ok operation, target) := by
      have typeFits : textFits 64 "object_create" = true := by decide
      refine (append_returns_iff ?_ ?_ ?_).mpr
        ⟨typeFits, storable_createPayload accepted, rfl, ?_, openedStored⟩
      · exact edited.sound openedSound
      · exact opens.canvasEq
      · exact (opens.step.operation? ids.operation).trans fresh.operation
      · rintro id ⟨⟩
        rw [uuid_text, Db.object?, Table.get?_append, Option.isSome_or]
        simp [CanvasObject.stored]
    obtain ⟨operation, target, appendEq⟩ := appended
    exact ⟨_, _, canvas, opened, opens.openEq, (), _, ⟨permitted, rfl⟩, _, target,
      ⟨canvas, _, ⟨opens.canvasEq, rfl⟩, (), _, ⟨_, ⟨freshObject, accepted, rfl⟩, rfl⟩,
        operation, target, appendEq, rfl, rfl⟩, (), _, rfl, rfl, rfl⟩

theorem appendOperation_returns_iff {canvasId : String} {canvasObjectId : Option String}
    {userId : Uuid} {opType : String} {opPayload : Json.Fields}
    {versionVector : Option Json.Fields} (sound : world.db.Sound)
    (fresh : world.db.operation? ids.operation = none) (stored : userId ∈ world.db.users)
    (canvasEq : world.db.canvas? (uuid canvasId) = some canvas) :
    (∃ operation target, appendOperation (deployed numberText) ids canvasId canvasObjectId userId
        opType opPayload versionVector world = (.ok operation, target)) ↔
      textFits 64 opType = true ∧ (Json.obj opPayload).jsonb.storable = true ∧
        (orNull versionVector).jsonb.storable = true ∧
        ∀ id, canvasObjectId = some id → (world.db.object? (uuid id)).isSome := by
  have appends : (∃ operation target, appendOperationWithLockedCanvas (deployed numberText) ids
      canvas canvasObjectId userId opType opPayload versionVector world =
        (.ok operation, target)) ↔ _ := append_returns_iff sound (canvas?_id canvasEq) fresh
  simp only [appendOperation, transaction_eq_ok_iff, bind_eq_ok_iff, findCanvasOrThrow_eq_ok_iff,
    canvasEq]
  constructor
  · rintro ⟨operation, target, _, _, ⟨⟨⟩, rfl⟩, appendEq⟩
    obtain ⟨typeFits, payload, vector, objects, _⟩ := appends.mp ⟨operation, target, appendEq⟩
    exact ⟨typeFits, payload, vector, objects⟩
  · rintro ⟨typeFits, payload, vector, objects⟩
    obtain ⟨operation, target, appendEq⟩ :=
      appends.mpr ⟨typeFits, payload, vector, objects, stored⟩
    exact ⟨operation, target, canvas, world, ⟨rfl, rfl⟩, appendEq⟩

/-- The conditions of the service on a client operation that was not applied
before. -/
structure Admits (db : Db) (dto : CreateCanvasOperationDto) (canvas : Canvas) : Prop where
  fresh : db.operation? (uuid dto.operationId) = none
  revisionEq : dto.clientRevision = canvas.revision
  objectOn : ∀ id, dto.canvasObjectId = some id → (db.objectOn? (uuid id) canvas.id).isSome

theorem objectOn_of_unrefused {canvasObjectId : Option String} {canvasId : Uuid}
    (unrefused : OnlyThrows (fun exception => exception.isRefusal = true)
      (requireObjectOnCanvas canvasObjectId canvasId) world) :
    ∀ id, canvasObjectId = some id → (world.db.objectOn? (uuid id) canvasId).isSome := by
  rintro id rfl
  exact require_of_unrefused rfl (unrefused.of_bind.2 _ _ rfl)

/-- What the answer to an exception leaves unrefused was thrown by no check. -/
theorem unrefused_of_catching {host : Host} {dto : CreateCanvasOperationDto}
    {next : CreatedOperation → Service CanvasOperation}
    (unrefused : OnlyThrows (fun exception => exception.isRefusal = true)
      (catching (transaction (createOperationTransaction host canvas dto caller) >>= next)
        (rejectOperation canvas dto caller)) world) :
    OnlyThrows (fun exception => exception.isRefusal = true)
      (createOperationTransaction host canvas dto caller) world := by
  intro exception reached bodyEq
  have aborted : transaction (createOperationTransaction host canvas dto caller) world =
      (.error exception, world) := transaction_eq_error_iff.mpr ⟨rfl, reached, bodyEq⟩
  have answered : ∀ thrown target, rejectOperation canvas dto caller exception world =
      (.error thrown, target) → thrown.isRefusal = true := by
    intro thrown target rejectEq
    exact unrefused thrown target (catching_eq_error_iff.mpr
      ⟨exception, world, bind_eq_error_iff.mpr (Or.inl aborted), rejectEq⟩)
  cases exception with
  | canvasRevisionConflict currentRevision =>
      have stale := answered _ _ (bind_eq_error_iff.mpr
        (Or.inr ⟨(), _, broadcastIn_eq_ok_iff.mpr rfl, rfl⟩))
      cases stale
  | _ => exact answered _ _ rfl

theorem admits_of_unrefused {host : Host} {dto : CreateCanvasOperationDto}
    (canvasEq : world.db.canvas? canvas.id = some canvas)
    (fresh : world.db.operation? (uuid dto.operationId) = none)
    (unrefused : OnlyThrows (fun exception => exception.isRefusal = true)
      (createOperationTransaction host canvas dto caller) world) :
    Admits world.db dto canvas := by
  have reading := unrefused.of_bind.2 canvas world
    (findCanvasOrThrow_eq_ok_iff.mpr ⟨canvasEq, rfl⟩)
  have checking := reading.of_bind.2 none world (by rw [← fresh]; rfl)
  have revisionEq := require_of_unrefused rfl checking.of_bind.1
  have placing := (checking.of_bind.2 () world
    (require_eq_ok_iff.mpr ⟨revisionEq, rfl⟩)).of_bind.1
  exact ⟨fresh, beq_iff_eq.mp revisionEq, objectOn_of_unrefused placing⟩

theorem textFits_of_known {opType : String} (known : opType ∈ canvasOperationTypes) :
    textFits 64 opType = true := by
  have allFit : ∀ text ∈ canvasOperationTypes, textFits 64 text = true := by decide
  exact allFit opType known

/-- Which client operations the table accepts. -/
theorem accepts_clientOperation {dto : CreateCanvasOperationDto} (sound : db.Sound)
    (canvasEq : db.canvas? canvas.id = some canvas) (admits : Admits db dto canvas)
    (workflowEq : ∃ workflow ∈ db.workflows, workflow.id = canvas.workflowId ∧
      workflow.orgId = caller.orgId)
    (known : dto.opType ∈ canvasOperationTypes) (stored : caller.id ∈ db.users) :
    checkOperation db (dto.operation canvas caller).stored = .ok () ↔
      canvas.workspaceId.isSome = true ∧ (Json.obj dto.opPayload).jsonb.storable = true ∧
        (orNull dto.versionVector).jsonb.storable = true := by
  have canvasMem : canvas ∈ db.canvases := Table.mem_of_get? canvasEq
  have uuidLower : ∀ text, uuid (lowerCase text) = uuid text := fun text => uuid_text (uuid text)
  have objects : ∀ id, dto.canvasObjectId = some id → (db.object? (uuid id)).isSome := by
    intro id idEq
    obtain ⟨object, found⟩ := Option.isSome_iff_exists.mp (admits.objectOn id idEq)
    obtain ⟨objectMem, objectId, _⟩ := objectOn?_eq_some found
    exact Table.get?_isSome_iff.mpr ⟨object, objectMem, objectId⟩
  have typeFits := textFits_of_known known
  rw [checkOperation_eq_ok_iff]
  cases bound : canvas.workspaceId with
  | none =>
      simp [CreateCanvasOperationDto.operation, CanvasOperation.stored,
        CanvasOperation.phase04Scope, bound]
  | some workspaceId =>
      obtain ⟨workflow, workflowMem, workflowId, orgId⟩ := workflowEq
      have workspaceMem := sound.workspaceMem canvas canvasMem workspaceId bound workflow
        workflowMem workflowId
      rw [orgId] at workspaceMem
      simpa [CreateCanvasOperationDto.operation, CanvasOperation.stored,
        CanvasOperation.phase04Scope, Db.tenantWorkspace, Db.canvasWorkspace, bound, typeFits,
        stored, canvasEq, workspaceMem, uuidLower] using fun _ _ => objects

theorem createOperation_returns_iff {workflowId : String} {dto : CreateCanvasOperationDto}
    {opened : World} (sound : world.db.Sound) (stored : caller.id ∈ world.db.users)
    (known : dto.opType ∈ canvasOperationTypes)
    (opens : Opens ids workflowId caller.orgId world opened canvas)
    (permitted : mutationPermission canvas caller opened.db = .ok ())
    (bounded : payloadBounded (deployed numberText) dto.opPayload = true)
    (admits : Admits opened.db dto canvas) :
    (∃ operation target, createOperation (deployed numberText) ids workflowId dto caller world =
        (.ok operation, target)) ↔
      world.db.bound (uuid workflowId) = true ∧
        (Json.obj dto.opPayload).jsonb.storable = true ∧
        (orNull dto.versionVector).jsonb.storable = true := by
  have tenancy := opens.step.toTenancy
  have workflowEq : ∃ workflow ∈ opened.db.workflows, workflow.id = canvas.workflowId ∧
      workflow.orgId = caller.orgId := by
    rw [tenancy]
    exact opens.workflowEq
  have openedStored : caller.id ∈ opened.db.users := by
    rw [tenancy]
    exact stored
  have accepts := accepts_clientOperation (opens.step.sound sound) opens.canvasEq admits
    workflowEq known openedStored
  rw [← opens.boundEq, ← accepts]
  constructor
  · rintro ⟨operation, target, callEq⟩
    obtain ⟨other, reached, created, committed, otherEq, _, _, bodyEq, _⟩ :=
      createOperation_eq_ok_iff.mp callEq
    obtain ⟨rfl, rfl⟩ : canvas = other ∧ opened = reached := by
      have same := opens.openEq.symm.trans otherEq
      simpa using same
    obtain ⟨locked, lockEq, ⟨existing, existingEq, _⟩ | ⟨_, next, applies, _⟩⟩ :=
      createOperationTransaction_eq_ok_iff.mp bodyEq
    · rw [admits.fresh] at existingEq
      cases existingEq
    · obtain rfl := Option.some.inj (opens.canvasEq.symm.trans lockEq)
      exact applies.accepted
  · intro accepted
    exact ⟨_, _, createOperation_eq_ok_iff.mpr ⟨canvas, opened, _, _, opens.openEq, permitted,
      bounded, createOperationTransaction_eq_ok_iff.mpr ⟨canvas, opens.canvasEq, Or.inr ⟨rfl, _,
        ⟨admits.fresh, admits.revisionEq, admits.objectOn, accepted, rfl⟩, rfl⟩⟩, rfl, rfl⟩⟩

/-! ## Which calls commit -/

/-- A call that passes the checks of the service returns exactly when what it
writes fits the tables. -/
theorem returns_iff_fits {call : Call} (sound : db.Sound) (fresh : ids.Fresh db)
    (passes : call.Passes numberText ids db) :
    (∃ reply target, call.perform (deployed numberText) ids ⟨db, []⟩ = (.ok reply, target)) ↔
      call.Fits db := by
  obtain ⟨stored, validated, unused, unrefused⟩ := passes
  cases call with
  | createObject workflowId dto caller =>
      obtain ⟨opening, rest⟩ := unrefused.of_bind.1.of_bind
      obtain ⟨opened, canvas, opens⟩ := opens_of_unrefused sound fresh.canvas opening
      have permitted := permitted_of_unrefused (rest canvas opened opens.openEq).of_bind.1
      rw [Call.perform, bind_pure_returns_iff]
      exact createObject_returns_iff sound fresh stored opens permitted
  | updateObject objectId dto caller =>
      obtain ⟨canvas, object, permits⟩ := permits_of_unrefused unrefused.of_bind.1
      rw [Call.perform, bind_pure_returns_iff]
      exact updateObject_returns_iff sound fresh.operation stored permits
  | moveObject objectId dto caller =>
      obtain ⟨canvas, object, permits⟩ := permits_of_unrefused unrefused.of_bind.1
      rw [Call.perform, bind_pure_returns_iff]
      exact iff_of_true (moveObject_returns sound fresh.operation stored permits) trivial
  | deleteObject objectId caller =>
      rw [Call.perform, bind_pure_returns_iff]
      apply iff_of_false _ id
      rintro ⟨deleted, target, callEq⟩
      exact deleteObject_throws callEq
  | appendOperation canvasId canvasObjectId userId opType opPayload versionVector =>
      have body : OnlyThrows (fun exception => exception.isRefusal = true)
          (findCanvasOrThrow (uuid canvasId)) ⟨db, []⟩ := by
        intro exception target missing
        exact unrefused exception ⟨db, []⟩ (bind_eq_error_iff.mpr (Or.inl
          (transaction_eq_error_iff.mpr ⟨rfl, target, bind_eq_error_iff.mpr (Or.inl missing)⟩)))
      obtain ⟨canvas, canvasEq⟩ := canvas_of_unrefused body
      rw [Call.perform, bind_pure_returns_iff]
      exact appendOperation_returns_iff sound fresh.operation stored canvasEq
  | createOperation workflowId dto caller =>
      obtain ⟨opening, rest⟩ := unrefused.of_bind.1.of_bind
      obtain ⟨opened, canvas, opens⟩ := opens_of_unrefused sound fresh.canvas opening
      obtain ⟨permitting, bounding⟩ := (rest canvas opened opens.openEq).of_bind
      have permitted := permitted_of_unrefused permitting
      obtain ⟨bounding, applying⟩ := (bounding () opened
        (requireCanvasMutationPermission_eq_ok_iff.mpr ⟨permitted, rfl⟩)).of_bind
      have bounded := require_of_unrefused rfl bounding
      have answering := applying () opened (require_eq_ok_iff.mpr ⟨bounded, rfl⟩)
      have unknown : opened.db.operation? (uuid dto.operationId) = none := by
        rw [opens.step.operation?]
        simpa [Call.isReplay] using unused
      have admits := admits_of_unrefused opens.canvasEq unknown (unrefused_of_catching answering)
      rw [Call.perform, bind_pure_returns_iff]
      exact createOperation_returns_iff sound stored validated opens permitted bounded admits

/-- On a deployed service, a call that passes the checks of the service commits
exactly when what it writes fits the tables: the removal of an object never, a
client operation on a bound canvas, a creation or an update when its texts fit
their columns, and a move always. -/
theorem commits_iff_fits (numberText : Number → String) {start db : Db} {actions : List Action}
    (sound : start.Sound)
    (reached : (system (deployed numberText)).run start actions = some db)
    {ids : GeneratedIds} (fresh : ids.Fresh db) {call : Call}
    (passes : call.Passes numberText ids db) :
    (∃ reply target, call.perform (deployed numberText) ids ⟨db, []⟩ = (.ok reply, target) ∧
      ∃ canvasId operation, AppendsOne db target.db canvasId operation) ↔ call.Fits db := by
  rw [← returns_iff_fits (sound_of_run sound reached) fresh passes]
  constructor
  · rintro ⟨reply, target, callEq, _⟩
    exact ⟨reply, target, callEq⟩
  · rintro ⟨reply, target, callEq⟩
    refine ⟨reply, target, callEq, ?_⟩
    rcases call.perform_returns callEq with ⟨replay, _⟩ | ⟨_, canvas, operation, committed⟩
    · rw [passes.unused] at replay
      cases replay
    · exact ⟨_, _, committed.appendsOne⟩

/-- Unused identifiers for the rows of a second call. -/
def exampleNextIds : GeneratedIds := ⟨uuid "canvas-2", uuid "object-2", uuid "operation-2"⟩

/-- A move of the object of the example. -/
def exampleMove : Call := .moveObject "object" ⟨3, 4⟩ exampleCaller

/-- The removal of the object of the example. -/
def exampleRemoval : Call := .deleteObject "object" exampleCaller

/-- A client operation at the current revision of the canvas of the example,
which is not bound to a workspace. -/
def exampleOperation : Call :=
  .createOperation "workflow" ⟨"client", 1, some "object", "object_move", [], none⟩ exampleCaller

theorem exampleNextIds_fresh : exampleNextIds.Fresh exampleDb :=
  ⟨by decide, by decide, by decide⟩

theorem onlyThrows_of_isOk {α : Type} {body : Service α} {allowed : Exception → Prop}
    (returned : (body world).1.isOk = true) : OnlyThrows allowed body world := by
  intro exception target bodyEq
  rw [bodyEq] at returned
  cases returned

theorem exampleMove_passes : exampleMove.Passes exampleText exampleNextIds exampleDb :=
  ⟨by decide, trivial, rfl, onlyThrows_of_isOk (by decide)⟩

theorem exampleRemoval_passes : exampleRemoval.Passes exampleText exampleNextIds exampleDb :=
  ⟨by decide, trivial, rfl, onlyThrows_of_isOk (by decide)⟩

theorem exampleOperation_passes :
    exampleOperation.Passes exampleText exampleNextIds exampleDb := by
  have known : "object_move" ∈ canvasOperationTypes := by decide
  exact ⟨by decide, known, by decide, onlyThrows_of_isOk (by decide)⟩

theorem commits_iff_fits_example :
    ∃ reply target, exampleMove.perform (deployed exampleText) exampleNextIds ⟨exampleDb, []⟩ =
        (.ok reply, target) ∧
      ∃ canvasId operation, AppendsOne exampleDb target.db canvasId operation := by
  have sound : exampleStart.Sound :=
    sound_of_empty (List.nodup_singleton _) rfl rfl rfl
  have reached : (system exampleHost).run exampleStart [exampleCreation] = some exampleDb := rfl
  exact (commits_iff_fits exampleText sound reached exampleNextIds_fresh exampleMove_passes).mpr
    trivial

/-- Two mutations that pass the checks of the service and are refused by the
tables: the removal of an object, and a client operation at the current revision
of an unbound canvas. -/
theorem refused_by_tables :
    (system exampleHost).run exampleStart [exampleCreation] = some exampleDb ∧
      exampleRemoval.Passes exampleText exampleNextIds exampleDb ∧
      (exampleRemoval.perform exampleHost exampleNextIds ⟨exampleDb, []⟩).1 =
        .error (.queryFailed
          (.foreignKeyViolation "canvas_operation_canvas_object_id_fkey")) ∧
      exampleOperation.Passes exampleText exampleNextIds exampleDb ∧
      (exampleOperation.perform exampleHost exampleNextIds ⟨exampleDb, []⟩).1 =
        .error (.queryFailed (.checkViolation "ck_canvas_operation_phase04_scope")) :=
  ⟨rfl, exampleRemoval_passes, rfl, exampleOperation_passes, rfl⟩

end Manbaa.Canvases
