import Manbaa.Events.SourceContract
import Manbaa.Events.CanvasAiPreviewRequested
import Manbaa.Jobs.PreviewSteps
import Manbaa.Jobs.Serializer
import Manbaa.Lib.DateText

/-!
# The event of a preview request

The body of a request is checked by decorators, and the event that is made of it by an assertion
of its own.  The decorators imply the assertion but for the prompt, whose characters they count
in another way, and for the ids: an event carries those of the URL as the client wrote them,
while a snapshot that is used again carries those of the database.
-/

namespace Manbaa.Jobs

open Manbaa.Lib Manbaa.Lib.Effect Manbaa.Canvases Manbaa.Usage Manbaa.Workspaces

/-! ## The decorators of a request -/

/-- What the decorators run on: the length that bounds a text, and `IsUUID`. -/
structure Validator where
  length : String → Nat
  isUuid : String → Bool

/-- `MAX_AI_PREVIEW_ELEMENT_IDS`. -/
def maxAiPreviewElementIds : Nat := 100

/-- `MAX_AI_PREVIEW_SOURCE_IDS`. -/
def maxAiPreviewSourceIds : Nat := 100

/-- `MAX_AI_PREVIEW_PROMPT_LENGTH`. -/
def maxAiPreviewPromptLength : Nat := 4000

/-- `MAX_AI_PREVIEW_DIMENSION`. -/
def maxAiPreviewDimension : Nat := 65536

/-- `ELEMENT_ID_PATTERN`. -/
def matchesElementId (item : String) : Bool :=
  match item.toList with
  | [] => false
  | first :: rest =>
      first.isAlphanum && rest.length ≤ 127 &&
        rest.all fun char => char.isAlphanum || ['.', '_', ':', '-'].contains char

/-- The decorators of a list of element ids. -/
def acceptsElementIds (ids : List String) : Bool :=
  ids.length ≤ maxAiPreviewElementIds && decide ids.Nodup && ids.all matchesElementId

/-- The decorators of a dimension. -/
def acceptsDimension (value : Nat) : Bool := 1 ≤ value && value ≤ maxAiPreviewDimension

/-- The decorators accept a body whose fields have their types. -/
def CanvasAiPreviewRequestDto.accepted (validator : Validator) (dto : CanvasAiPreviewRequestDto) :
    Bool :=
  (1 ≤ validator.length dto.userPrompt &&
    validator.length dto.userPrompt ≤ maxAiPreviewPromptLength &&
    dto.userPrompt.toList.any fun char => !Events.isSpace char) &&
  acceptsElementIds dto.selectedElementIds && acceptsElementIds dto.lockedElementIds &&
  acceptsElementIds dto.editableElementIds &&
  (dto.sourceIds.length ≤ maxAiPreviewSourceIds && decide dto.sourceIds.Nodup &&
    dto.sourceIds.all validator.isUuid) &&
  acceptsDimension dto.desiredWidth && acceptsDimension dto.desiredHeight && !dto.autoApply

/-! ## The event -/

/-- What the event of a call is created from: the locked canvas, its workflow and the snapshot. -/
structure PreviewRows where
  canvas : Canvas
  workflow : Workflow
  snapshot : AiPreviewSnapshot

/-- The rows of an open transaction that queues a task. -/
def Opened.rows (host : Host) (call : PreviewCall) : Opened → Option PreviewRows
  | .duplicate _ _ => none
  | .reuse canvas workflow snapshot => some ⟨canvas, workflow, snapshot⟩
  | .store canvas workflow snapshotVersion serialized =>
      let stored := (call.object host snapshotVersion serialized.json).stored
      some ⟨canvas, workflow, call.snapshot host canvas workflow snapshotVersion stored⟩

/-- The transaction uses a snapshot again. -/
def Opened.reuses : Opened → Bool
  | .reuse _ _ _ => true
  | .duplicate _ _ | .store _ _ _ _ => false

/-- What the assertion of an event runs on. -/
def Host.assertions (host : Host) (events : Events.Host) : Events.Host :=
  { events with validateUuid := host.validateUuid }

/-- The event that `create` makes. -/
def PreviewCall.event (host : Host) (events : Events.Host) (call : PreviewCall)
    (rows : PreviewRows) : Events.CanvasAiPreviewRequestedEvent where
  eventId := (host.uuidv5 ("event:" ++ call.stableSeed)).text
  eventType := Events.canvasAiPreviewRequested
  occurredAt := events.toISOStringNow
  organizationId := call.user.orgId.text
  workspaceId := call.workspaceId
  projectId := rows.workflow.projectId.map Uuid.text
  correlationId := call.correlationId
  causationId := none
  actor := ⟨"user", call.user.id.text⟩
  payload :=
    { taskId := (call.taskId host).text
      canvasId := call.canvasId
      canvasRevision := rows.canvas.revision
      snapshotId := rows.snapshot.id.text
      snapshotVersion := rows.snapshot.snapshotVersion
      storageBucket := "workspace-snapshots"
      storageKey := rows.snapshot.storageKey.text
      checksumSha256 := rows.snapshot.checksumSha256
      previewStatus := "pending"
      previewBucket := none
      previewKey := none
      previewChecksumSha256 := none
      operation := call.target.operation.text
      selectedElementIds := call.target.selectedElementIds
      lockedElementIds := call.target.lockedElementIds
      editableElementIds := call.target.editableElementIds
      sourceIds := call.target.sourceIds
      userPrompt := call.target.userPrompt
      desiredWidth := call.target.desiredWidth
      desiredHeight := call.target.desiredHeight }

/-! ## What is relied on -/

/-- What the packages do: name-based ids are UUIDs, digests are written in lower-case hexadecimal,
and the time of an event is a text that `Date.parse` reads. -/
structure Host.Documented (host : Host) (events : Events.Host) : Prop where
  uuidv5 : ∀ name, host.validateUuid (host.uuidv5 name).text = true
  sha256 : ∀ content, Events.isSha256 (host.sha256 content) = true
  now : ∃ instant, events.toISOStringNow = DateText.toISOString instant
  dateParse : (events.dateParse events.toISOStringNow).isSome

/-- The snapshots pass the checks of their table. -/
def PlatformDb.SnapshotsChecked (db : PlatformDb) : Prop :=
  ∀ snapshot ∈ db.snapshots,
    snapshot.storageKey = ⟨snapshot.organizationId.text, snapshot.workspaceId.text,
      snapshot.canvasId.text, snapshot.id.text, snapshot.snapshotVersion⟩ ∧
    Events.isSha256 snapshot.checksumSha256 = true ∧
    0 < snapshot.snapshotVersion ∧ snapshot.snapshotVersion < 2147483648

/-- What neither the decorators nor the transaction see to. -/
structure PreviewCall.Emittable (host : Host) (call : PreviewCall) (rows : PreviewRows)
    (reuses : Bool) : Prop where
  organizationId : host.validateUuid call.user.orgId.text = true
  workspaceId : host.validateUuid call.workspaceId = true
  projectId : ∀ id ∈ rows.workflow.projectId, host.validateUuid id.text = true
  userId : Events.isBoundedString call.user.id.text 255 .all = true
  canvasId : host.validateUuid call.canvasId = true
  snapshotId : host.validateUuid rows.snapshot.id.text = true
  sourceIds : ∀ id ∈ call.target.sourceIds, host.validateUuid id = true
  userPrompt : call.target.userPrompt.length ≤ Events.maxCanvasAiPromptCharacters ∧
    Char.ofNat 0 ∉ call.target.userPrompt.toList
  spelling : reuses = true →
    lowerCase call.workspaceId = call.workspaceId ∧ lowerCase call.canvasId = call.canvasId

variable {host : Host} {events : Events.Host} {validator : Validator}
  {dto : CanvasAiPreviewRequestDto}

/-! ## Texts -/

/-- The text of an instant says its zone. -/
theorem endsWithZone_toISOString (instant : Int) :
    Events.endsWithZone (DateText.toISOString instant) = true := by
  rw [Events.endsWithZone, DateText.toISOString, String.toList_ofList, DateText.Civil.text]
  simp only [List.reverse_append, List.reverse_cons, List.append_assoc, List.reverse_nil,
    List.nil_append, List.cons_append]

/-- The text of a path is the key that the assertion computes. -/
theorem SnapshotPath.text_eq_snapshotKey (path : SnapshotPath) :
    path.text = Events.snapshotKey path.organizationId path.workspaceId path.canvasId
      path.snapshotId path.snapshotVersion := by
  unfold SnapshotPath.text Events.snapshotKey
  iterate 9 rw [String.append_assoc]
  rfl

/-! ## What the decorators imply -/

theorem matchesElementId_eq (item : String) :
    matchesElementId item = Events.isElementId item := by
  rw [matchesElementId, Events.isElementId]
  cases item.toList with
  | nil => rfl
  | cons first rest =>
      have sameChars : ∀ char : Char, ['.', '_', ':', '-'].contains char =
          ['_', '.', ':', '-'].contains char := by
        intro char
        rw [Bool.eq_iff_iff, List.contains_iff_mem, List.contains_iff_mem]
        exact (List.Perm.swap '_' '.' [':', '-']).mem_iff
      simp only [sameChars]

/-- The ids of elements that the decorators accept pass the assertion, in any order. -/
theorem elementIds_of_accepts {ids sorted : List String} (accepts : acceptsElementIds ids = true)
    (perm : List.Perm sorted ids) : Events.ElementIds sorted := by
  simp only [acceptsElementIds, Bool.and_eq_true, decide_eq_true_eq, List.all_eq_true,
    matchesElementId_eq] at accepts
  obtain ⟨⟨count, nodup⟩, safe⟩ := accepts
  constructor
  · rw [perm.length_eq]
    exact count
  · intro id mem
    exact safe id (perm.mem_iff.mp mem)
  · exact perm.nodup_iff.mpr nodup

/-- A prompt that has a character other than white space is bounded exactly if it is short
enough and has no NUL. -/
theorem isBoundedString_iff {prompt : String} {bound : Nat}
    (notBlank : (prompt.toList.any fun char => !Events.isSpace char) = true) :
    Events.isBoundedString prompt bound .null = true ↔
      prompt.length ≤ bound ∧ Char.ofNat 0 ∉ prompt.toList := by
  have trimmed : (Events.trim prompt).isEmpty = false := by
    rw [Bool.eq_false_iff]
    intro isEmpty
    obtain ⟨char, mem, notSpace⟩ := List.any_eq_true.mp notBlank
    rw [Events.trim_isEmpty_iff.mp isEmpty char mem] at notSpace
    cases notSpace
  simp only [Events.isBoundedString, trimmed, Bool.not_false, Bool.true_and, Bool.and_eq_true,
    decide_eq_true_eq, Bool.not_eq_true', ← Bool.not_eq_true, List.contains_iff_mem]

theorem operation_mem (operation : CanvasAiPreviewOperation) :
    operation.text ∈ Events.canvasAiPreviewOperations := by
  cases operation <;> decide

theorem dimension_of_accepts {value : Nat} (accepts : acceptsDimension value = true) :
    (1 : Int) ≤ value ∧ (value : Int) ≤ Events.maxCanvasAiDimension := by
  simp only [acceptsDimension, Bool.and_eq_true, decide_eq_true_eq] at accepts
  obtain ⟨lower, upper⟩ := accepts
  exact ⟨Int.ofNat_le.mpr lower, Int.ofNat_le.mpr upper⟩

/-! ## The rows of an open transaction -/

variable {call : PreviewCall} {db target : PlatformDb} {opened : Opened} {rows : PreviewRows}

/-- What the transaction has seen to once it is open.  The key of a snapshot that is used again
has the ids of its row. -/
structure PreviewRows.Sound (call : PreviewCall) (rows : PreviewRows) (reuses : Bool) : Prop where
  canvasRevision : rows.canvas.revision ≤ maxSafeInteger
  snapshotVersion : 0 < rows.snapshot.snapshotVersion ∧
    rows.snapshot.snapshotVersion ≤ 2147483648
  checksumSha256 : Events.isSha256 rows.snapshot.checksumSha256 = true
  storageKey : rows.snapshot.storageKey = ⟨call.user.orgId.text,
    if reuses then lowerCase call.workspaceId else call.workspaceId,
    if reuses then lowerCase call.canvasId else call.canvasId,
    rows.snapshot.id.text, rows.snapshot.snapshotVersion⟩

theorem mem_of_newest {snapshots : List AiPreviewSnapshot} {snapshot : AiPreviewSnapshot}
    (newestEq : newest snapshots = some snapshot) : snapshot ∈ snapshots :=
  List.argmax_mem newestEq

theorem nextSnapshotVersion_bounds (checked : db.SnapshotsChecked) (canvasId : Uuid) :
    0 < db.nextSnapshotVersion canvasId ∧ db.nextSnapshotVersion canvasId ≤ 2147483648 := by
  rw [PlatformDb.nextSnapshotVersion]
  cases newestEq : newest (db.snapshots.filter fun snapshot => snapshot.canvasId == canvasId) with
  | none => decide
  | some latest =>
      have inTable : latest ∈ db.snapshots := List.mem_of_mem_filter (mem_of_newest newestEq)
      obtain ⟨_, _, _, small⟩ := checked latest inTable
      exact ⟨Nat.succ_pos _, small⟩

/-- The snapshot that is used again is one of the canvas. -/
theorem availableSnapshot?_spec {canvasRevision : Nat} {snapshot : AiPreviewSnapshot}
    (available : db.availableSnapshot? call canvasRevision = some snapshot) :
    snapshot ∈ db.snapshots ∧ snapshot.organizationId = call.user.orgId ∧
      snapshot.workspaceId = uuid call.workspaceId ∧ snapshot.canvasId = uuid call.canvasId := by
  obtain ⟨inTable, matching⟩ := List.mem_filter.mp (mem_of_newest available)
  simp only [Bool.and_eq_true, beq_iff_eq] at matching
  obtain ⟨⟨⟨⟨organization, workspace⟩, canvas⟩, _⟩, _⟩ := matching
  exact ⟨inTable, organization, workspace, canvas⟩

/-- The rows that an event is made from, with the canvas within the limits of the serializer. -/
theorem rows_sound (documented : host.Documented events) (checked : db.SnapshotsChecked)
    (openEq : openPreview host call db = (.ok opened, target))
    (rowsEq : opened.rows host call = some rows) : rows.Sound call opened.reuses := by
  obtain ⟨foundOpened, found, canvas, locks, serialized⟩ := openPreview_ok openEq
  have bounded : ∀ locked ∈ opened.canvas?, locked.revision ≤ maxSafeInteger := by
    intro locked lockedEq
    obtain ⟨rfl, result, serializeEq⟩ := serialized locked lockedEq
    obtain ⟨read, readEq, _, safe, _⟩ := serialize_ok serializeEq
    cases locks.canvas?.symm.trans readEq
    exact safe
  cases foundOpened with
  | byKey task snapshot keyEq => cases rowsEq
  | byTarget task snapshot canvasRevision taskMem same => cases rowsEq
  | reuse found canvas workflow snapshot canvasEq revisionEq unanswered available =>
      cases rowsEq
      obtain ⟨inTable, organization, workspace, canvasId⟩ := availableSnapshot?_spec available
      obtain ⟨keyEq, checksum, positive, small⟩ := checked snapshot inTable
      rw [organization, workspace, canvasId] at keyEq
      exact ⟨bounded canvas rfl, ⟨positive, small.le⟩, checksum, keyEq⟩
  | store found canvas workflow snapshotVersion result canvasEq revisionEq unanswered versionEq
      frozen =>
      cases rowsEq
      have bounds := nextSnapshotVersion_bounds checked (uuid call.canvasId)
      rw [← versionEq] at bounds
      exact ⟨bounded canvas rfl, bounds, documented.sha256 _, rfl⟩

/-- The key of the snapshot is the one that the assertion computes exactly if the ids of the
call are written as the database has them, or the snapshot is new. -/
theorem PreviewRows.Sound.storageKey_eq_iff {reuses : Bool} (sound : rows.Sound call reuses) :
    rows.snapshot.storageKey.text = Events.snapshotKey call.user.orgId.text call.workspaceId
        call.canvasId rows.snapshot.id.text rows.snapshot.snapshotVersion ↔
      (reuses = true →
        lowerCase call.workspaceId = call.workspaceId ∧ lowerCase call.canvasId = call.canvasId) := by
  rw [sound.storageKey, SnapshotPath.text_eq_snapshotKey]
  cases reuses with
  | false => exact iff_of_true rfl nofun
  | true =>
      simp only [if_true, forall_const]
      exact Events.snapshotKey_eq_iff (Events.length_lowerCase _) (Events.length_lowerCase _)

/-! ## The event and the request -/

/-- The parts of an accepted body. -/
structure CanvasAiPreviewRequestDto.Accepted (validator : Validator)
    (dto : CanvasAiPreviewRequestDto) : Prop where
  notBlank : (dto.userPrompt.toList.any fun char => !Events.isSpace char) = true
  selectedElementIds : acceptsElementIds dto.selectedElementIds = true
  lockedElementIds : acceptsElementIds dto.lockedElementIds = true
  editableElementIds : acceptsElementIds dto.editableElementIds = true
  sourceIds : dto.sourceIds.length ≤ maxAiPreviewSourceIds ∧ dto.sourceIds.Nodup
  desiredWidth : acceptsDimension dto.desiredWidth = true
  desiredHeight : acceptsDimension dto.desiredHeight = true

theorem accepted_parts (accepted : dto.accepted validator = true) : dto.Accepted validator := by
  simp only [CanvasAiPreviewRequestDto.accepted, Bool.and_eq_true, decide_eq_true_eq] at accepted
  obtain ⟨⟨⟨⟨⟨⟨⟨⟨_, notBlank⟩, selected⟩, locked⟩, editable⟩, ⟨count, nodup⟩, _⟩, width⟩,
    height⟩, _⟩ := accepted
  exact ⟨notBlank, selected, locked, editable, ⟨count, nodup⟩, width, height⟩

/-- The event of an accepted request passes its assertion exactly if the ids that it carries are
UUIDs, the prompt is short enough and has no NUL, and the ids of a canvas whose snapshot is used
again are written as in the database. -/
theorem previewEvent_accepted_iff {request : PreviewRequest}
    (documented : host.Documented events) (checked : db.SnapshotsChecked)
    (accepted : request.dto.accepted validator = true)
    (prepared : (prepare host request db).1 = .ok call)
    (openEq : openPreview host call db = (.ok opened, target))
    (rowsEq : opened.rows host call = some rows) :
    Events.assertCanvasAiPreviewRequestedEvent (host.assertions events)
        (call.event host events rows) = .ok () ↔ call.Emittable host rows opened.reuses := by
  obtain ⟨_, _, _, targetEq, _, _, _, correlation, disjoint⟩ := prepare_ok prepared
  have body := accepted_parts accepted
  have sound := rows_sound documented checked openEq rowsEq
  have promptEq : call.target.userPrompt = request.dto.userPrompt := by rw [targetEq]; rfl
  have notBlank := body.notBlank
  rw [← promptEq] at notBlank
  have promptIff : Events.isBoundedString call.target.userPrompt
      Events.maxCanvasAiPromptCharacters .null = true ↔ _ := isBoundedString_iff notBlank
  have projectIff : (rows.workflow.projectId.map Uuid.text).all host.validateUuid = true ↔
      ∀ id ∈ rows.workflow.projectId, host.validateUuid id.text = true := by
    cases rows.workflow.projectId <;> simp
  rw [Events.assertCanvasAiPreviewRequestedEvent_eq_ok_iff rfl]
  constructor
  · intro pending
    exact
      { organizationId := pending.organizationId
        workspaceId := pending.workspaceId
        projectId := projectIff.mp pending.projectId
        userId := pending.actorId
        canvasId := pending.canvasId
        snapshotId := pending.snapshotId
        sourceIds := pending.sourceIds.2.1
        userPrompt := promptIff.mp pending.userPrompt
        spelling := sound.storageKey_eq_iff.mp pending.storageKey }
  · intro emittable
    constructor
    case eventId => exact documented.uuidv5 _
    case eventType => rfl
    case occurredAt =>
      obtain ⟨instant, nowEq⟩ := documented.now
      refine ⟨documented.dateParse, ?_⟩
      change Events.endsWithZone events.toISOStringNow = true
      rw [nowEq]
      exact endsWithZone_toISOString instant
    case organizationId => exact emittable.organizationId
    case workspaceId => exact emittable.workspaceId
    case projectId => exact projectIff.mpr emittable.projectId
    case correlationId => exact correlation
    case causationId => rfl
    case actorType => exact Or.inl rfl
    case actorId => exact emittable.userId
    case taskId => exact documented.uuidv5 _
    case canvasId => exact emittable.canvasId
    case canvasRevision => exact ⟨sound.canvasRevision, Int.natCast_nonneg _⟩
    case snapshotId => exact emittable.snapshotId
    case snapshotVersion =>
      obtain ⟨positive, small⟩ := sound.snapshotVersion
      refine ⟨?_, Int.natCast_pos.mpr positive⟩
      exact small.trans (by decide)
    case storageBucket => rfl
    case storageKey => exact sound.storageKey_eq_iff.mpr emittable.spelling
    case checksumSha256 => exact sound.checksumSha256
    case preview => exact ⟨rfl, rfl, rfl⟩
    case operation => exact operation_mem _
    case selectedElementIds =>
      refine elementIds_of_accepts body.selectedElementIds ?_
      change List.Perm call.target.selectedElementIds _
      rw [targetEq]
      exact List.perm_insertionSort _ _
    case lockedElementIds =>
      refine elementIds_of_accepts body.lockedElementIds ?_
      change List.Perm call.target.lockedElementIds _
      rw [targetEq]
      exact List.perm_insertionSort _ _
    case editableElementIds =>
      refine elementIds_of_accepts body.editableElementIds ?_
      change List.Perm call.target.editableElementIds _
      rw [targetEq]
      exact List.perm_insertionSort _ _
    case disjoint => exact (Bool.not_eq_true' _).mp disjoint
    case sourceIds =>
      have perm : List.Perm call.target.sourceIds request.dto.sourceIds := by
        rw [targetEq]
        exact List.perm_insertionSort _ _
      obtain ⟨count, nodup⟩ := body.sourceIds
      exact ⟨perm.length_eq ▸ count, emittable.sourceIds, perm.nodup_iff.mpr nodup⟩
    case userPrompt => exact promptIff.mpr emittable.userPrompt
    case desiredWidth =>
      change (1 : Int) ≤ call.target.desiredWidth ∧ (call.target.desiredWidth : Int) ≤ _
      rw [targetEq]
      exact dimension_of_accepts body.desiredWidth
    case desiredHeight =>
      change (1 : Int) ≤ call.target.desiredHeight ∧ (call.target.desiredHeight : Int) ≤ _
      rw [targetEq]
      exact dimension_of_accepts body.desiredHeight

/-! ## Examples -/

/-- The organization of the examples. -/
def emittingOrg : Uuid := uuid "0e8dddc7-9ebf-4d2a-8b3f-2d1c5a4b6e70"

/-- The workspace. -/
def emittingWorkspace : Uuid := uuid "c9bf9e57-1685-4c89-bafb-ff5af830be8a"

/-- The canvas. -/
def emittingCanvas : Uuid := uuid "6f9619ff-8b86-4d01-b42d-00cf4fc964ff"

/-- The workflow of the canvas. -/
def emittingWorkflow : Uuid := uuid "a81bc81b-dead-4e5d-abff-90865d1e13b1"

/-- An editor. -/
def emittingUser : Uuid := uuid "3d813cbb-47fb-4da0-98a9-1f0d3f5b7c21"

/-- The ids that the packages compute for one call, and the digests of its key and of the frozen
canvas. -/
structure Computed where
  keyDigest : String
  taskId : String
  snapshotId : String
  eventId : String

/-- The canvas of the examples, frozen at its first revision. -/
def frozenDigest : String := "814c744e71518ff313390f28073d7bd487a620905cadd406c139b49a1bc6b350"

/-- The host of one call. -/
def emittingHost (computed : Computed) (canvasId : String) : Host :=
  Host.serializing
    { numberText := exampleHost.numberText
      sha256 := fun content =>
        if content = emittingWorkspace.text ++ ":" ++ canvasId ++ ":" ++ emittingUser.text ++
            ":retry-1" then computed.keyDigest
        else frozenDigest
      uuidv5 := fun name =>
        match name.toList with
        | 't' :: _ => uuid computed.taskId
        | 's' :: _ => uuid computed.snapshotId
        | _ => uuid computed.eventId
      validateUuid := Events.validateUuid
      document := fun _ _ => .ok ""
      snapshotBucket := "workspace-snapshots"
      aiEnabled := true }

/-- A canvas without elements, and what has been frozen of it. -/
def emittingDb (snapshots : List AiPreviewSnapshot) : PlatformDb :=
  { exampleDb with
    workflows := [⟨emittingWorkflow, emittingOrg, none⟩]
    workspaces := [⟨emittingWorkspace, emittingOrg⟩]
    users := [emittingUser]
    members :=
      ⟨[⟨emittingOrg, emittingUser, true⟩],
        [⟨emittingOrg, emittingWorkspace, emittingUser, .editor, .active⟩]⟩
    canvases :=
      [⟨emittingCanvas, emittingWorkflow, some emittingWorkspace, 0, 1440, 1024, "#FFFFFF"⟩]
    snapshots := snapshots }

/-- The request, with the id of the canvas as the client wrote it. -/
def emittingRequest (canvasId : String) : PreviewRequest where
  workspaceId := emittingWorkspace.text
  canvasId := canvasId
  dto := exampleDto
  idempotencyKey := some "retry-1"
  user := ⟨emittingUser, emittingOrg, "editor"⟩
  correlationId := "55555555-5555-4555-8555-555555555555"
  reservationId := uuid "9a0f4e0e-4c57-4a9d-8ef6-0d6bb0a3e1c5"
  now := 1783684800000

/-- What is computed for the canvas under its id. -/
def computedLower : Computed where
  keyDigest := "9b5d18759102e6844f96b6be352c03308070f797e942473836547ebca8888160"
  taskId := "f07422a3-5550-5fbb-bdd3-e721239910ec"
  snapshotId := "0454721b-728a-5745-b796-b1b7f3f569e4"
  eventId := "5372bb47-657d-528b-b84b-a10a8b0509f6"

/-- What is computed for the canvas under its id in upper case. -/
def computedUpper : Computed where
  keyDigest := "dd5dc8c9936d01f49bda4f84b71e65003c0370c4b1bb7557f6e40218a8304a76"
  taskId := "5a90c75b-1a02-58f8-a913-2abba46fddd9"
  snapshotId := "4aa2c01d-c233-52ca-9920-56e91a7dfa1c"
  eventId := "b9c0ebbe-9654-5bd6-a121-7c4926bc4077"

/-- The call of the request, once it is prepared. -/
def emittingCall (host : Host) (canvasId : String) : PreviewCall where
  workspaceId := emittingWorkspace.text
  canvasId := canvasId
  user := ⟨emittingUser, emittingOrg, "editor"⟩
  correlationId := "55555555-5555-4555-8555-555555555555"
  idempotencyKey := "canvas-preview:" ++ host.sha256
    (emittingWorkspace.text ++ ":" ++ canvasId ++ ":" ++ emittingUser.text ++ ":retry-1")
  target := normalizeTarget exampleDto
  reservationId := uuid "9a0f4e0e-4c57-4a9d-8ef6-0d6bb0a3e1c5"
  now := 1783684800000

/-- The validator, on texts without surrogates and variation selectors. -/
def exampleValidator : Validator := ⟨String.length, Events.validateUuid⟩

theorem documented_emitting {computed : Computed} (canvasId : String)
    (task : Events.validateUuid (lowerCase computed.taskId) = true)
    (snapshot : Events.validateUuid (lowerCase computed.snapshotId) = true)
    (event : Events.validateUuid (lowerCase computed.eventId) = true)
    (key : Events.isSha256 computed.keyDigest = true) :
    (emittingHost computed canvasId).Documented Events.exampleHost where
  uuidv5 := by
    intro name
    simp only [emittingHost, Host.serializing]
    split
    · exact task
    · exact snapshot
    · exact event
  sha256 := by
    intro content
    simp only [emittingHost, Host.serializing]
    split
    · exact key
    · decide +kernel
  now := ⟨_, rfl⟩
  dateParse := by decide +kernel

/-- The event of a first request for a canvas is emitted. -/
theorem previewEvent_accepted_iff_example :
    ∃ opened target rows,
      openPreview (emittingHost computedLower emittingCanvas.text)
        (emittingCall (emittingHost computedLower emittingCanvas.text) emittingCanvas.text)
        (emittingDb []) = (.ok opened, target) ∧
      opened.rows (emittingHost computedLower emittingCanvas.text)
        (emittingCall (emittingHost computedLower emittingCanvas.text) emittingCanvas.text) =
          some rows ∧
      Events.assertCanvasAiPreviewRequestedEvent
        ((emittingHost computedLower emittingCanvas.text).assertions Events.exampleHost)
        ((emittingCall (emittingHost computedLower emittingCanvas.text) emittingCanvas.text).event
          (emittingHost computedLower emittingCanvas.text) Events.exampleHost rows) = .ok () := by
  let host := emittingHost computedLower emittingCanvas.text
  let call := emittingCall host emittingCanvas.text
  have found : ((openPreview host call (emittingDb [])).1.toOption.any fun opened =>
      !opened.reuses && (opened.rows host call).any fun rows =>
        rows.workflow.projectId == none && Events.validateUuid rows.snapshot.id.text) = true := by
    decide +kernel
  rcases openEq : openPreview host call (emittingDb []) with ⟨_ | opened, target⟩
  · rw [openEq] at found
    cases found
  · simp only [openEq, Except.toOption, Option.any_some, Bool.and_eq_true] at found
    obtain ⟨isNew, rowsFound⟩ := found
    obtain ⟨rows, rowsEq, valid⟩ := (Option.any_eq_true _ _).mp rowsFound
    simp only [Bool.and_eq_true, beq_iff_eq] at valid
    refine ⟨opened, target, rows, rfl, rowsEq, ?_⟩
    have documented : host.Documented Events.exampleHost :=
      documented_emitting _ (by decide +kernel) (by decide +kernel) (by decide +kernel)
        (by decide +kernel)
    have accepted : (emittingRequest emittingCanvas.text).dto.accepted exampleValidator = true := by
      decide +kernel
    have prepared : (prepare host (emittingRequest emittingCanvas.text) (emittingDb [])).1 =
        .ok call := by
      decide +kernel
    have checked : (emittingDb []).SnapshotsChecked := by
      intro snapshot mem
      cases mem
    apply (previewEvent_accepted_iff documented checked accepted prepared openEq rowsEq).mpr
    constructor
    case organizationId => decide +kernel
    case workspaceId => decide +kernel
    case projectId => rw [valid.1]; exact nofun
    case userId => decide +kernel
    case canvasId => decide +kernel
    case snapshotId => exact valid.2
    case sourceIds => exact nofun
    case userPrompt => decide +kernel
    case spelling =>
      intro reuses
      rw [reuses] at isNew
      cases isNew

/-- The snapshot that an earlier request has frozen. -/
def frozenSnapshot : AiPreviewSnapshot where
  id := uuid computedLower.snapshotId
  organizationId := emittingOrg
  workspaceId := emittingWorkspace
  projectId := none
  canvasId := emittingCanvas
  snapshotVersion := 1
  canvasRevision := 0
  status := .available
  storageBucket := "workspace-snapshots"
  storageKey := ⟨emittingOrg.text, emittingWorkspace.text, emittingCanvas.text,
    (uuid computedLower.snapshotId).text, 1⟩
  checksumSha256 := frozenDigest
  contentType := "application/json"
  sizeBytes := 202
  createdBy := emittingUser
  supersededBySnapshotId := none

/-- The id of the canvas in upper case. -/
def upperCanvas : String := "6F9619FF-8B86-4D01-B42D-00CF4FC964FF"

example : uuid upperCanvas = emittingCanvas := by decide +kernel

/-- The event of a request that writes the id of its canvas in upper case, and finds its revision
frozen, is refused. -/
theorem previewEvent_refused :
    let host := emittingHost computedUpper upperCanvas
    let call := emittingCall host upperCanvas
    (emittingDb [frozenSnapshot]).SnapshotsChecked ∧
      (emittingRequest upperCanvas).dto.accepted exampleValidator = true ∧
      (prepare host (emittingRequest upperCanvas) (emittingDb [frozenSnapshot])).1 = .ok call ∧
      ∃ opened target rows,
        openPreview host call (emittingDb [frozenSnapshot]) = (.ok opened, target) ∧
        opened.rows host call = some rows ∧
        Events.assertCanvasAiPreviewRequestedEvent (host.assertions Events.exampleHost)
            (call.event host Events.exampleHost rows) =
          .error (.error
            "payload.storage_key must exactly match the canonical tenant snapshot path") := by
  intro host call
  have checked : (emittingDb [frozenSnapshot]).SnapshotsChecked := by
    intro snapshot mem
    obtain rfl := List.mem_singleton.mp mem
    decide +kernel
  refine ⟨checked, by decide +kernel, by decide +kernel, ?_⟩
  have found : ((openPreview host call (emittingDb [frozenSnapshot])).1.toOption.any fun opened =>
      (opened.rows host call).any fun rows =>
        decide (Events.assertCanvasAiPreviewRequestedEvent (host.assertions Events.exampleHost)
            (call.event host Events.exampleHost rows) =
          .error (.error
            "payload.storage_key must exactly match the canonical tenant snapshot path"))) =
              true := by
    decide +kernel
  rcases openEq : openPreview host call (emittingDb [frozenSnapshot]) with ⟨_ | opened, target⟩
  · rw [openEq] at found
    cases found
  · simp only [openEq, Except.toOption, Option.any_some] at found
    obtain ⟨rows, rowsEq, refused⟩ := (Option.any_eq_true _ _).mp found
    exact ⟨opened, target, rows, rfl, rowsEq, of_decide_eq_true refused⟩

/-- The snapshot lies under the id in lower case. -/
example : frozenSnapshot.storageKey.canvasId = lowerCase upperCanvas := by decide +kernel

end Manbaa.Jobs
