import Manbaa.Lib.Run
import Manbaa.Sources.Lifecycle
import Mathlib.Data.List.Induction

/-!
# The status of a version and the events about it

Handlers of events run side by side: each is admitted by what it finds, and its transaction
comes later.  For a source that has just been uploaded, the receipts of its version say how
far the version has come, so that the order of the events does not matter as soon as each
has its receipt.
-/

namespace Manbaa.Sources

open Manbaa.Lib Manbaa.Lib.Effect

/-! ## Runs -/

/-- The tables, and the events that wait for their transaction. -/
structure Consumers where
  db : SourceDb
  admitted : List Admitted

/-- An upload, a delivery of an event with the answer about its token, or the transaction
of an event that has been admitted. -/
inductive Action where
  | upload (request : Upload)
  | receive (kind : SourceLifecycleKind) (value : Json)
      (verified : Except Exception InternalServiceClaims)
  | settle (admitted : Admitted)

/-- The identifiers of an upload are not in use. -/
def Upload.Unused (request : Upload) (db : SourceDb) : Prop :=
  db.source? request.sourceId = none ∧ db.version? request.sourceVersionId = none

instance (request : Upload) (db : SourceDb) : Decidable (request.Unused db) :=
  inferInstanceAs (Decidable (_ ∧ _))

/-- The events that wait after one has been delivered. -/
def Consumers.receive (host : Host) (state : Consumers) (kind : SourceLifecycleKind)
    (value : Json) (verified : Except Exception InternalServiceClaims) : Consumers :=
  match (admission host kind value verified state.db).1 with
  | .ok (some admitted) => { state with admitted := state.admitted ++ [admitted] }
  | _ => state

/-- Uploads and handlers of events, in any order. -/
def lifecycle (host : Host) : Step Consumers Action := fun state action =>
  match action with
  | .upload request =>
      if request.Unused state.db then some { state with db := (upload request state.db).2 }
      else none
  | .receive kind value verified => some (state.receive host kind value verified)
  | .settle admitted =>
      if admitted ∈ state.admitted then
        some
          { db := (settle admitted state.db).2
            admitted := state.admitted.erase admitted }
      else none

/-- The state after an upload. -/
def Consumers.created (state : Consumers) (request : Upload) : Consumers :=
  { state with db := (upload request state.db).2 }

/-- The event is about the version of an upload. -/
def Upload.Concerns (request : Upload) (event : LifecycleEvent) : Prop :=
  uuid event.sourceVersionId = request.sourceVersionId ∧
    uuid event.sourceId = request.sourceId ∧ uuid event.organizationId = request.user.orgId ∧
    uuid event.workspaceId = request.workspaceId

/-- A state in which an upload succeeds: keys are unique, the identifiers are new, and
nothing refers to them. -/
structure Upload.Fresh (request : Upload) (state : Consumers) : Prop where
  sources : Table.Keyed Source.id state.db.sources
  versions : Table.Keyed SourceVersion.id state.db.versions
  receipts : Table.Keyed SourceLifecycleEvent.eventId state.db.receipts
  unused : request.Unused state.db
  unrecorded : ∀ receipt ∈ state.db.receipts, receipt.sourceVersionId ≠ request.sourceVersionId
  unannounced : ∀ admitted ∈ state.admitted,
    uuid admitted.event.sourceVersionId ≠ request.sourceVersionId
  stored : request.bucket = "workspace-sources"

/-! ## How far a version has come -/

/-- The status of the source whose current version has a status. -/
def SourceProcessingStatus.mirrored : SourceProcessingStatus → SourceStatus
  | .pending => .pending
  | .processing => .processing
  | .extracted => .extracted
  | .indexed => .indexed
  | .failed => .failed

/-- A status moves one step along the order, or into failure; it never leaves `indexed`
or `failed`. -/
inductive Forward : SourceProcessingStatus → SourceProcessingStatus → Prop where
  | stays (status : SourceProcessingStatus) : Forward status status
  | starts : Forward .pending .processing
  | extracts : Forward .processing .extracted
  | indexes : Forward .extracted .indexed
  | fails (status : SourceProcessingStatus) (notIndexed : status ≠ .indexed)
      (notFailed : status ≠ .failed) : Forward status .failed

/-- An event of a kind has its receipt. -/
def Upload.Recorded (request : Upload) (receipts : List SourceLifecycleEvent)
    (kind : SourceLifecycleKind) : Prop :=
  ∃ receipt ∈ receipts, receipt.sourceVersionId = request.sourceVersionId ∧
    receipt.eventType = kind.subject

/-- The dates of a version are set as far as its status says. -/
def SourceVersion.Dated (version : SourceVersion) : Prop :=
  match version.processingStatus with
  | .pending | .processing => version.extractedAt = none ∧ version.indexedAt = none
  | .extracted => version.extractedAt.isSome ∧ version.indexedAt = none
  | .indexed => version.extractedAt.isSome ∧ version.indexedAt.isSome
  | .failed => version.indexedAt = none

/-- The receipts say how far a version has come. -/
structure Upload.Explained (request : Upload) (receipts : List SourceLifecycleEvent)
    (status : SourceProcessingStatus) : Prop where
  reached : status ≠ .failed → ∀ kind ≠ .failed,
    (request.Recorded receipts kind ↔ order.idxOf kind.status ≤ order.idxOf status)
  failed : status = .failed → request.Recorded receipts .failed
  isOver : request.Recorded receipts .failed → status = .failed ∨ status = .indexed

/-- The rows of an upload: the source has the version and its status. -/
structure Upload.Rows (request : Upload) (db : SourceDb) (source : Source)
    (version : SourceVersion) : Prop where
  sourceEq : db.source? request.sourceId = some source
  versionEq : db.version? request.sourceVersionId = some version
  current : source.currentVersionId = some request.sourceVersionId
  owner : version.sourceId = request.sourceId
  organization : version.organizationId = request.user.orgId
  workspace : version.workspaceId = request.workspaceId
  sourceOrganization : source.organizationId = request.user.orgId
  sourceWorkspace : source.workspaceId = request.workspaceId
  alive : source.deletedAt = none
  mirrored : source.status = version.processingStatus.mirrored

/-- What holds of the rows of an upload in every state. -/
structure Upload.Tracked (request : Upload) (db : SourceDb) : Prop where
  sources : Table.Keyed Source.id db.sources
  versions : Table.Keyed SourceVersion.id db.versions
  receipts : Table.Keyed SourceLifecycleEvent.eventId db.receipts
  rows : ∃ source version, request.Rows db source version ∧ version.Dated ∧
    request.Explained db.receipts version.processingStatus

variable {request : Upload} {kind : SourceLifecycleKind} {status next : SourceProcessingStatus}
  {source : Source} {version : SourceVersion} {event : LifecycleEvent} {admitted : Admitted}
  {db target : SourceDb} {changed : Bool} {receipts : List SourceLifecycleEvent}

/-! ## Moves of a version -/

@[simp]
theorem SourceVersion.move_id : (version.move kind event).id = version.id := by
  cases kind <;> rfl

@[simp]
theorem SourceVersion.move_sourceId : (version.move kind event).sourceId = version.sourceId := by
  cases kind <;> rfl

@[simp]
theorem SourceVersion.move_organizationId :
    (version.move kind event).organizationId = version.organizationId := by
  cases kind <;> rfl

@[simp]
theorem SourceVersion.move_workspaceId :
    (version.move kind event).workspaceId = version.workspaceId := by
  cases kind <;> rfl

@[simp]
theorem SourceVersion.move_processingStatus :
    (version.move kind event).processingStatus = kind.status := by
  cases kind <;> rfl

theorem forward_of_changed (outcome : transitionFor kind status = .changed) :
    Forward status kind.status := by
  rcases transitionFor_eq_changed_iff.mp outcome with
    ⟨rfl, rfl⟩ | ⟨rfl, rfl⟩ | ⟨rfl, rfl⟩ | ⟨rfl, notIndexed, notFailed⟩
  · exact .starts
  · exact .extracts
  · exact .indexes
  · exact .fails status notIndexed notFailed

theorem dated_move (dated : version.Dated)
    (outcome : transitionFor kind version.processingStatus = .changed) :
    (version.move kind event).Dated := by
  rw [SourceVersion.Dated] at dated
  rcases transitionFor_eq_changed_iff.mp outcome with
    ⟨rfl, pending⟩ | ⟨rfl, processing⟩ | ⟨rfl, extracted⟩ | ⟨rfl, notIndexed, notFailed⟩
  · rw [pending] at dated
    exact dated
  · rw [processing] at dated
    exact ⟨rfl, dated.2⟩
  · rw [extracted] at dated
    exact ⟨dated.1, rfl⟩
  · cases statusEq : version.processingStatus with
    | pending | processing | extracted =>
        rw [statusEq] at dated
        exact dated.2
    | indexed => exact absurd statusEq notIndexed
    | failed => exact absurd statusEq notFailed

/-! ## Receipts -/

theorem subject_injective {first second : SourceLifecycleKind}
    (same : first.subject = second.subject) : first = second := by
  cases first <;> cases second <;> first | rfl | exact absurd same (by decide)

/-- A new receipt records its own kind. -/
theorem recorded_append {receipt : SourceLifecycleEvent}
    (own : receipt.sourceVersionId = request.sourceVersionId)
    (typeEq : receipt.eventType = kind.subject) (wanted : SourceLifecycleKind) :
    request.Recorded (receipts ++ [receipt]) wanted ↔
      request.Recorded receipts wanted ∨ wanted = kind := by
  constructor
  · rintro ⟨found, foundMem, foundOwn, foundType⟩
    rcases List.mem_append.mp foundMem with old | new
    · exact Or.inl ⟨found, old, foundOwn, foundType⟩
    · rw [List.mem_singleton.mp new] at foundType
      exact Or.inr (subject_injective (foundType.symm.trans typeEq))
  · rintro (⟨found, foundMem, recorded⟩ | rfl)
    · exact ⟨found, List.mem_append_left _ foundMem, recorded⟩
    · exact ⟨receipt, List.mem_append_right _ (List.mem_singleton_self _), own, typeEq⟩

/-- A receipt for another version says nothing. -/
theorem recorded_append_of_ne {receipt : SourceLifecycleEvent}
    (other : receipt.sourceVersionId ≠ request.sourceVersionId) (wanted : SourceLifecycleKind) :
    request.Recorded (receipts ++ [receipt]) wanted ↔ request.Recorded receipts wanted := by
  constructor
  · rintro ⟨found, foundMem, foundOwn, foundType⟩
    rcases List.mem_append.mp foundMem with old | new
    · exact ⟨found, old, foundOwn, foundType⟩
    · rw [List.mem_singleton.mp new] at foundOwn
      exact absurd foundOwn other
  · rintro ⟨found, foundMem, recorded⟩
    exact ⟨found, List.mem_append_left _ foundMem, recorded⟩

theorem Upload.Explained.congr {others : List SourceLifecycleEvent}
    (explained : request.Explained receipts status)
    (same : ∀ kind, request.Recorded others kind ↔ request.Recorded receipts kind) :
    request.Explained others status where
  reached := fun notFailed kind ne => (same kind).trans (explained.reached notFailed kind ne)
  failed := fun failed => (same .failed).mpr (explained.failed failed)
  isOver := fun recorded => explained.isOver ((same .failed).mp recorded)

/-- An event that is ignored has nothing new to say. -/
theorem explained_ignored {receipt : SourceLifecycleEvent}
    (explained : request.Explained receipts status)
    (own : receipt.sourceVersionId = request.sourceVersionId)
    (typeEq : receipt.eventType = kind.subject) (outcome : transitionFor kind status = .ignored) :
    request.Explained (receipts ++ [receipt]) status := by
  constructor
  · intro notFailed wanted ne
    rw [recorded_append own typeEq, explained.reached notFailed wanted ne, or_iff_left_iff_imp]
    rintro rfl
    cases wanted <;> cases status <;> first | decide | exact absurd outcome (by decide) | simp_all
  · intro failed
    exact (recorded_append own typeEq _).mpr (Or.inl (explained.failed failed))
  · intro recorded
    rcases (recorded_append own typeEq _).mp recorded with before | rfl
    · exact explained.isOver before
    · cases status <;> first | exact absurd outcome (by decide) | simp

theorem notEnded_of_changed (outcome : transitionFor kind status = .changed) :
    status ≠ .indexed ∧ status ≠ .failed := by
  cases kind <;> cases status <;> first | exact absurd outcome (by decide) | decide

theorem failed_of_status (failed : kind.status = .failed) : kind = .failed := by
  cases kind <;> first | rfl | exact absurd failed (by decide)

/-- The statuses up to the next one are those up to the last one and the next one. -/
theorem next_of_changed : ∀ (kind : SourceLifecycleKind) (status : SourceProcessingStatus),
    transitionFor kind status = .changed → kind ≠ .failed → ∀ wanted ≠ SourceLifecycleKind.failed,
      (order.idxOf wanted.status ≤ order.idxOf status ∨ wanted = kind ↔
        order.idxOf wanted.status ≤ order.idxOf kind.status) := by
  intro kind status outcome kindNe wanted wantedNe
  cases kind <;> cases status <;>
    first
    | exact absurd outcome (by decide)
    | exact absurd rfl kindNe
    | (cases wanted <;> first | exact absurd rfl wantedNe | decide)

/-- An event that moves a version is the next that was missing. -/
theorem explained_moved {receipt : SourceLifecycleEvent}
    (explained : request.Explained receipts status)
    (own : receipt.sourceVersionId = request.sourceVersionId)
    (typeEq : receipt.eventType = kind.subject) (outcome : transitionFor kind status = .changed) :
    request.Explained (receipts ++ [receipt]) kind.status := by
  have going := notEnded_of_changed outcome
  constructor
  · intro notFailed wanted ne
    have kindNe : kind ≠ .failed := fun failed => notFailed (congrArg _ failed)
    rw [recorded_append own typeEq, explained.reached going.2 wanted ne]
    exact next_of_changed kind status outcome kindNe wanted ne
  · intro failed
    exact (recorded_append own typeEq _).mpr (Or.inr (failed_of_status failed).symm)
  · intro recorded
    rcases (recorded_append own typeEq _).mp recorded with before | rfl
    · rcases explained.isOver before with failed | indexed
      · exact absurd failed going.2
      · exact absurd indexed going.1
    · exact Or.inl rfl

/-! ## What a step keeps -/

/-- The rows of an upload are its own in what an event finds. -/
theorem eventVersion_own (rows : request.Rows db source version)
    (own : uuid event.sourceVersionId = request.sourceVersionId) {found : SourceVersion}
    (foundEq : db.eventVersion? event = some found) :
    found = version ∧ request.Concerns event := by
  obtain ⟨versionEq, scope⟩ := Option.filter_eq_some_iff.mp foundEq
  rw [own, rows.versionEq] at versionEq
  cases versionEq
  simp only [Bool.and_eq_true, beq_iff_eq] at scope
  exact ⟨rfl, own, scope.1.1.symm.trans rows.owner, scope.1.2.symm.trans rows.organization,
    scope.2.symm.trans rows.workspace⟩

theorem eventSource_own (rows : request.Rows db source version)
    (own : uuid event.sourceId = request.sourceId) {found : Source}
    (foundEq : db.eventSource? event = some found) : found = source := by
  obtain ⟨sourceEq, _⟩ := Option.filter_eq_some_iff.mp foundEq
  rw [own, rows.sourceEq] at sourceEq
  exact (Option.some.inj sourceEq).symm

/-- What the transaction of an event does to the rows of an upload: it leaves them as they
are, or moves both. -/
theorem settles_rows (rows : request.Rows db source version)
    (dated : version.Dated) (explained : request.Explained db.receipts version.processingStatus)
    (typeEq : uuid admitted.event.sourceVersionId = request.sourceVersionId →
      admitted.event.eventType = admitted.kind.subject)
    (settles : Settles db admitted changed target) :
    ∃ nextSource nextVersion, request.Rows target nextSource nextVersion ∧ nextVersion.Dated ∧
      request.Explained target.receipts nextVersion.processingStatus ∧
      (nextVersion = version ∨
        transitionFor admitted.kind version.processingStatus = .changed ∧
          nextVersion = version.move admitted.kind admitted.event) := by
  cases settles with
  | known | dropped => exact ⟨source, version, rows, dated, explained, Or.inl rfl⟩
  | ignored found foundVersion fresh sourceEq versionEq outcome =>
      refine ⟨source, version, ⟨rows.sourceEq, rows.versionEq, rows.current, rows.owner,
        rows.organization, rows.workspace, rows.sourceOrganization, rows.sourceWorkspace,
        rows.alive, rows.mirrored⟩, dated, ?_, Or.inl rfl⟩
      by_cases own : uuid admitted.event.sourceVersionId = request.sourceVersionId
      · obtain ⟨rfl, concerns⟩ := eventVersion_own rows own versionEq
        obtain rfl := eventSource_own rows concerns.2.1 sourceEq
        have idEq : foundVersion.id = request.sourceVersionId := Table.key_of_get? rows.versionEq
        rw [applyTransition_of_current (rows.current.trans (congrArg some idEq.symm))] at outcome
        exact explained_ignored explained own (typeEq own) outcome
      · exact explained.congr (recorded_append_of_ne own)
  | moved found foundVersion fresh sourceEq versionEq outcome =>
      have currentEq : found.currentVersionId = some foundVersion.id := by
        by_contra other
        rw [applyTransition, if_pos other] at outcome
        cases outcome
      by_cases own : uuid admitted.event.sourceVersionId = request.sourceVersionId
      · obtain ⟨rfl, concerns⟩ := eventVersion_own rows own versionEq
        obtain rfl := eventSource_own rows concerns.2.1 sourceEq
        rw [applyTransition_of_current currentEq] at outcome
        refine ⟨found.move admitted.kind, foundVersion.move admitted.kind admitted.event,
          ⟨?_, ?_, rows.current, ?_, ?_, ?_, rows.sourceOrganization, rows.sourceWorkspace,
            rows.alive, ?_⟩, dated_move dated outcome, ?_, Or.inr ⟨outcome, rfl⟩⟩
        · exact Table.get?_save.trans (if_pos (Table.key_of_get? rows.sourceEq))
        · exact Table.get?_save.trans
            (if_pos (SourceVersion.move_id.trans (Table.key_of_get? rows.versionEq)))
        · rw [SourceVersion.move_sourceId]
          exact rows.owner
        · rw [SourceVersion.move_organizationId]
          exact rows.organization
        · rw [SourceVersion.move_workspaceId]
          exact rows.workspace
        · rw [SourceVersion.move_processingStatus]
          cases admitted.kind <;> rfl
        · rw [SourceVersion.move_processingStatus]
          exact explained_moved explained own (typeEq own) outcome
      · obtain ⟨foundEq, _⟩ := Option.filter_eq_some_iff.mp versionEq
        have foundId : foundVersion.id = uuid admitted.event.sourceVersionId :=
          Table.key_of_get? foundEq
        have otherVersion : foundVersion.id ≠ request.sourceVersionId :=
          fun same => own (foundId.symm.trans same)
        have otherSource : found.id ≠ request.sourceId := by
          intro same
          obtain ⟨foundSource, _⟩ := Option.filter_eq_some_iff.mp sourceEq
          have key : found.id = uuid admitted.event.sourceId := Table.key_of_get? foundSource
          rw [← key, same, rows.sourceEq] at foundSource
          cases foundSource
          rw [rows.current] at currentEq
          exact otherVersion (Option.some.inj currentEq).symm
        refine ⟨source, version, ⟨?_, ?_, rows.current, rows.owner, rows.organization,
          rows.workspace, rows.sourceOrganization, rows.sourceWorkspace, rows.alive,
          rows.mirrored⟩, dated, explained.congr (recorded_append_of_ne own), Or.inl rfl⟩
        · have movedOther : (found.move admitted.kind).id ≠ request.sourceId := otherSource
          exact (Table.get?_save.trans (if_neg movedOther)).trans rows.sourceEq
        · rw [SourceDb.version?, Table.get?_save, SourceVersion.move_id, if_neg otherVersion]
          exact rows.versionEq

/-- A version stays as it is, or an event moves it. -/
def SourceVersion.Moves (version next : SourceVersion) : Prop :=
  next = version ∨ ∃ kind event,
    transitionFor kind version.processingStatus = .changed ∧ next = version.move kind event

/-- What a step does to the version of an upload. -/
inductive Upload.Advances (request : Upload) (db target : SourceDb) : Prop where
  | intro (source nextSource : Source) (version nextVersion : SourceVersion)
      (rows : request.Rows db source version) (nextRows : request.Rows target nextSource nextVersion)
      (moves : version.Moves nextVersion)

theorem keyed_of_settles (settles : Settles db admitted changed target)
    (tracked : request.Tracked db) :
    Table.Keyed Source.id target.sources ∧ Table.Keyed SourceVersion.id target.versions ∧
      Table.Keyed SourceLifecycleEvent.eventId target.receipts := by
  cases settles with
  | known | dropped => exact ⟨tracked.sources, tracked.versions, tracked.receipts⟩
  | ignored found foundVersion fresh =>
      exact ⟨tracked.sources, tracked.versions, Table.keyed_append tracked.receipts fresh⟩
  | moved found foundVersion fresh =>
      exact ⟨Table.keyed_save tracked.sources, Table.keyed_save tracked.versions,
        Table.keyed_append tracked.receipts fresh⟩

theorem tracked_settle (tracked : request.Tracked db)
    (typeEq : uuid admitted.event.sourceVersionId = request.sourceVersionId →
      admitted.event.eventType = admitted.kind.subject) :
    request.Tracked (settle admitted db).2 ∧ request.Advances db (settle admitted db).2 := by
  obtain ⟨source, version, rows, dated, explained⟩ := tracked.rows
  rcases settle_cases admitted db with same | ⟨changed, settles⟩
  · rw [same]
    exact ⟨tracked, source, source, version, version, rows, rows, Or.inl rfl⟩
  · obtain ⟨nextSource, nextVersion, nextRows, nextDated, nextExplained, moves⟩ :=
      settles_rows rows dated explained typeEq settles
    obtain ⟨sources, versions, receipts⟩ := keyed_of_settles settles tracked
    constructor
    · exact ⟨sources, versions, receipts, nextSource, nextVersion, nextRows, nextDated,
        nextExplained⟩
    · refine ⟨source, nextSource, version, nextVersion, rows, nextRows, ?_⟩
      rcases moves with rfl | ⟨outcome, moved⟩
      · exact Or.inl rfl
      · exact Or.inr ⟨admitted.kind, admitted.event, outcome, moved⟩

/-- An upload either throws, or appends its rows. -/
theorem upload_state {other : Upload} (unused : other.Unused db) :
    (upload other db).2 =
      if other.bucket = "workspace-sources" then
        { db with
          sources := db.sources ++ [other.source (some other.sourceVersionId)]
          versions := db.versions ++ [other.version] }
      else db := by
  split
  · rename_i stored
    have allowed : (require (other.bucket == "workspace-sources")
        (.badRequest "Source storage bucket must be workspace-sources") : Statements Unit) db =
        (.ok (), db) := require_eq_ok_iff.mpr ⟨beq_iff_eq.mpr stored, rfl⟩
    have first : Table.save Source.id db.sources (other.source none) =
        db.sources ++ [other.source none] := Table.save_of_get?_eq_none unused.1
    have second : Table.save Source.id (db.sources ++ [other.source none])
        (other.source (some other.sourceVersionId)) =
        db.sources ++ [other.source (some other.sourceVersionId)] :=
      Table.save_append unused.1 rfl
    have version : Table.save SourceVersion.id db.versions other.version =
        db.versions ++ [other.version] := Table.save_of_get?_eq_none unused.2
    rw [upload, bind_of_ok allowed]
    simp only [transaction, bind, saveSource, saveVersion, writing, first, second, version]
  · rename_i refused
    have stopped : (require (other.bucket == "workspace-sources")
        (.badRequest "Source storage bucket must be workspace-sources") : Statements Unit) db =
        (.error (.badRequest "Source storage bucket must be workspace-sources"), db) :=
      require_eq_error_iff.mpr ⟨beq_eq_false_iff_ne.mpr refused, rfl, rfl⟩
    rw [upload, bind_eq_error_iff.mpr (Or.inl stopped)]

theorem tracked_upload {other : Upload} (tracked : request.Tracked db) (unused : other.Unused db) :
    request.Tracked (upload other db).2 ∧ request.Advances db (upload other db).2 := by
  obtain ⟨source, version, rows, dated, explained⟩ := tracked.rows
  rw [upload_state unused]
  split
  · have nextRows : request.Rows
        { db with
          sources := db.sources ++ [other.source (some other.sourceVersionId)]
          versions := db.versions ++ [other.version] } source version := by
      refine ⟨?_, ?_, rows.current, rows.owner, rows.organization, rows.workspace,
        rows.sourceOrganization, rows.sourceWorkspace, rows.alive, rows.mirrored⟩
      · have sourceEq : Table.get? Source.id db.sources request.sourceId = some source :=
          rows.sourceEq
        rw [SourceDb.source?, Table.get?_append, sourceEq]
        rfl
      · have versionEq : Table.get? SourceVersion.id db.versions request.sourceVersionId =
            some version := rows.versionEq
        rw [SourceDb.version?, Table.get?_append, versionEq]
        rfl
    constructor
    · exact ⟨Table.keyed_append tracked.sources unused.1,
        Table.keyed_append tracked.versions unused.2, tracked.receipts, source, version, nextRows,
        dated, explained⟩
    · exact ⟨source, source, version, version, rows, nextRows, Or.inl rfl⟩
  · exact ⟨tracked, source, source, version, version, rows, rows, Or.inl rfl⟩

theorem created_version {start : Consumers} (fresh : request.Fresh start) :
    (start.created request).db.version? request.sourceVersionId = some request.version := by
  have stateEq : (start.created request).db.versions =
      start.db.versions ++ [request.version] := by
    rw [Consumers.created, upload_state fresh.unused, if_pos fresh.stored]
  have absent : Table.get? SourceVersion.id start.db.versions request.sourceVersionId = none :=
    fresh.unused.2
  rw [SourceDb.version?, stateEq, Table.get?_append, absent]
  exact if_pos rfl

/-- A source that has just been uploaded is tracked. -/
theorem tracked_created {start : Consumers} (fresh : request.Fresh start) :
    request.Tracked (start.created request).db := by
  have stateEq : (start.created request).db =
      { start.db with
        sources := start.db.sources ++ [request.source (some request.sourceVersionId)]
        versions := start.db.versions ++ [request.version] } :=
    (upload_state fresh.unused).trans (if_pos fresh.stored)
  have unrecorded : ∀ kind, ¬ request.Recorded start.db.receipts kind := by
    rintro kind ⟨receipt, receiptMem, own, _⟩
    exact fresh.unrecorded receipt receiptMem own
  rw [stateEq]
  refine ⟨Table.keyed_append fresh.sources fresh.unused.1,
    Table.keyed_append fresh.versions fresh.unused.2, fresh.receipts,
    request.source (some request.sourceVersionId), request.version, ⟨?_, ?_, rfl, rfl, rfl, rfl, rfl, rfl, rfl, rfl⟩,
    ⟨rfl, rfl⟩, ?_, nofun, ?_⟩
  · have sourceEq : Table.get? Source.id start.db.sources request.sourceId = none :=
      fresh.unused.1
    rw [SourceDb.source?, Table.get?_append, sourceEq]
    exact if_pos rfl
  · have versionEq : Table.get? SourceVersion.id start.db.versions request.sourceVersionId =
        none := fresh.unused.2
    rw [SourceDb.version?, Table.get?_append, versionEq]
    exact if_pos rfl
  · intro _ kind ne
    apply iff_of_false (unrecorded kind)
    have pending : request.version.processingStatus = .pending := rfl
    rw [pending]
    cases kind <;> first | exact absurd rfl ne | decide
  · exact fun recorded => absurd recorded (unrecorded _)

/-! ## Events that have been delivered -/

/-- A delivery of the event, with a token that allows it. -/
def Action.Delivers (host : Host) (action : Action) (admitted : Admitted) : Prop :=
  ∃ value claims, action = .receive admitted.kind value (.ok claims) ∧
    readEvent host admitted.kind value = .ok admitted.event ∧
    admitted.event.authorized admitted.kind claims = true ∧ validJti claims = some admitted.jti

/-- An event is delivered among the actions. -/
def Delivered (host : Host) (actions : List Action) (admitted : Admitted) : Prop :=
  ∃ action ∈ actions, action.Delivers host admitted

/-- Every delivered event about the version of an upload has its receipt. -/
def Upload.Resolved (request : Upload) (host : Host) (actions : List Action) (db : SourceDb) :
    Prop :=
  ∀ admitted, Delivered host actions admitted → request.Concerns admitted.event →
    ∃ receipt, db.receipt? (uuid admitted.event.eventId) = some receipt ∧
      receipt.matches admitted.event = true

/-- Events that are admitted or have a receipt were delivered. -/
structure Upload.Heard (request : Upload) (host : Host) (past : List Action)
    (state : Consumers) : Prop where
  waiting : ∀ admitted ∈ state.admitted,
    uuid admitted.event.sourceVersionId = request.sourceVersionId → Delivered host past admitted
  recorded : ∀ receipt ∈ state.db.receipts, receipt.sourceVersionId = request.sourceVersionId →
    ∃ admitted, Delivered host past admitted ∧ request.Concerns admitted.event ∧
      receipt = admitted.event.receipt admitted.jti

variable {host : Host} {actions past : List Action} {action : Action} {state after : Consumers}

theorem Delivered.mono (delivered : Delivered host past admitted) (more : List Action) :
    Delivered host (past ++ more) admitted := by
  obtain ⟨action, actionMem, delivers⟩ := delivered
  exact ⟨action, List.mem_append_left _ actionMem, delivers⟩

theorem readEvent_eventType {value : Json} (read : readEvent host kind value = .ok event) :
    event.eventType = kind.subject := by
  rw [readEvent] at read
  obtain ⟨_, _, read⟩ := except_bind_eq_ok_iff.mp read
  obtain ⟨⟨_, _⟩, _, read⟩ := except_bind_eq_ok_iff.mp read
  obtain ⟨eventType, _, read⟩ := except_bind_eq_ok_iff.mp read
  obtain ⟨_, typeEq, read⟩ := except_bind_eq_ok_iff.mp read
  obtain ⟨_, _, read⟩ := except_bind_eq_ok_iff.mp read
  obtain ⟨_, _, read⟩ := except_bind_eq_ok_iff.mp read
  obtain ⟨_, _, read⟩ := except_bind_eq_ok_iff.mp read
  obtain ⟨_, _, read⟩ := except_bind_eq_ok_iff.mp read
  obtain ⟨_, _, read⟩ := except_bind_eq_ok_iff.mp read
  obtain ⟨_, _, read⟩ := except_bind_eq_ok_iff.mp read
  obtain ⟨⟨_, _, _⟩, _, read⟩ := except_bind_eq_ok_iff.mp read
  obtain ⟨_, _, read⟩ := except_bind_eq_ok_iff.mp read
  cases read
  exact beq_iff_eq.mp (check_eq_ok_iff.mp typeEq)

/-- An event is not admitted because it has a receipt, or it is admitted as it was
delivered. -/
theorem admit_ok {value : Json} {verified : Except Exception InternalServiceClaims}
    {result : Option Admitted}
    (admitEq : admission host kind value verified db = (.ok result, target)) :
    target = db ∧
      (result = none ∧ (∃ event receipt, readEvent host kind value = .ok event ∧
        db.receipt? (uuid event.eventId) = some receipt) ∨
      ∃ admitted, result = some admitted ∧
        (Action.receive kind value verified).Delivers host admitted) := by
  obtain ⟨event, _, readEq, restEq⟩ := bind_eq_ok_iff.mp admitEq
  obtain ⟨read, rfl⟩ := asking_eq_ok_iff.mp readEq
  obtain ⟨existing, _, lookEq, restEq⟩ := bind_eq_ok_iff.mp restEq
  obtain ⟨rfl, rfl⟩ := reading_eq_ok_iff.mp lookEq
  cases existingEq : db.receipt? (uuid event.eventId) with
  | some receipt =>
      rw [existingEq] at restEq
      obtain ⟨_, _, requireEq, pureEq⟩ := bind_eq_ok_iff.mp restEq
      obtain ⟨_, rfl⟩ := require_eq_ok_iff.mp requireEq
      obtain ⟨rfl, rfl⟩ := pure_eq_ok_iff.mp pureEq
      exact ⟨rfl, Or.inl ⟨rfl, event, receipt, read, existingEq⟩⟩
  | none =>
      rw [existingEq] at restEq
      obtain ⟨claims, _, askEq, restEq⟩ := bind_eq_ok_iff.mp restEq
      obtain ⟨rfl, rfl⟩ := asking_eq_ok_iff.mp askEq
      obtain ⟨_, _, requireEq, restEq⟩ := bind_eq_ok_iff.mp restEq
      obtain ⟨authorized, rfl⟩ := require_eq_ok_iff.mp requireEq
      obtain ⟨jti, _, orEq, pureEq⟩ := bind_eq_ok_iff.mp restEq
      obtain ⟨valid, rfl⟩ := orThrow_eq_ok_iff.mp orEq
      obtain ⟨rfl, rfl⟩ := pure_eq_ok_iff.mp pureEq
      exact ⟨rfl, Or.inr ⟨⟨kind, event, jti⟩, rfl, value, claims, rfl, read, authorized, valid⟩⟩

theorem eventType_of_delivered (delivered : Delivered host actions admitted) :
    admitted.event.eventType = admitted.kind.subject := by
  obtain ⟨_, _, _, _, _, read, _⟩ := delivered
  exact readEvent_eventType read

/-! ## Steps -/

theorem receive_db {value : Json} {verified : Except Exception InternalServiceClaims} :
    (state.receive host kind value verified).db = state.db := by
  rw [Consumers.receive]
  split
  · rfl
  · rfl

theorem mem_receive {value : Json} {verified : Except Exception InternalServiceClaims}
    (waits : admitted ∈ (state.receive host kind value verified).admitted) :
    admitted ∈ state.admitted ∨ (Action.receive kind value verified).Delivers host admitted := by
  rw [Consumers.receive] at waits
  split at waits
  · rename_i new admitEq
    rcases List.mem_append.mp waits with old | new
    · exact Or.inl old
    · rename_i other
      have delivered : (Action.receive kind value verified).Delivers host other := by
        obtain ⟨_, ⟨none, _⟩ | ⟨found, same, delivers⟩⟩ := admit_ok (Prod.ext admitEq rfl)
        · cases none
        · rw [Option.some.inj same]
          exact delivers
      rw [List.mem_singleton.mp new]
      exact Or.inr delivered
  · exact Or.inl waits

theorem upload_receipts {other : Upload} (unused : other.Unused db) :
    (upload other db).2.receipts = db.receipts := by
  rw [upload_state unused]
  split
  · rfl
  · rfl

/-- The receipts that a transaction leaves. -/
theorem receipts_of_settle (receipt : SourceLifecycleEvent)
    (receiptMem : receipt ∈ (settle admitted db).2.receipts) :
    receipt ∈ db.receipts ∨ receipt = admitted.event.receipt admitted.jti ∧
      ∃ version, db.eventVersion? admitted.event = some version := by
  rcases settle_cases admitted db with same | ⟨changed, settles⟩
  · rw [same] at receiptMem
    exact Or.inl receiptMem
  · rcases settlesEq : (settle admitted db).2 with ⟨sources, versions, receipts⟩
    rw [settlesEq] at settles receiptMem
    cases settles with
    | known | dropped => exact Or.inl receiptMem
    | ignored _ version _ _ versionEq | moved _ version _ _ versionEq =>
        rcases List.mem_append.mp receiptMem with old | new
        · exact Or.inl old
        · exact Or.inr ⟨List.mem_singleton.mp new, version, versionEq⟩

/-- Every step tracks the rows of an upload and hears of the events that it takes. -/
theorem tracked_step (tracked : request.Tracked state.db)
    (heard : request.Heard host past state) (stepEq : lifecycle host state action = some after) :
    request.Tracked after.db ∧ request.Advances state.db after.db ∧
      request.Heard host (past ++ [action]) after := by
  obtain ⟨source, version, rows, _, _⟩ := tracked.rows
  have stays : request.Advances state.db state.db :=
    ⟨source, source, version, version, rows, rows, Or.inl rfl⟩
  cases action with
  | upload other =>
      obtain ⟨unused, afterEq⟩ := Option.ite_none_right_eq_some.mp stepEq
      cases afterEq
      obtain ⟨kept, advances⟩ := tracked_upload tracked unused
      refine ⟨kept, advances, fun admitted waits own => (heard.waiting admitted waits own).mono _,
        ?_⟩
      intro receipt receiptMem own
      have old : receipt ∈ state.db.receipts := by
        rw [← upload_receipts unused]
        exact receiptMem
      obtain ⟨admitted, delivered, rest⟩ := heard.recorded receipt old own
      exact ⟨admitted, delivered.mono _, rest⟩
  | receive kind value verified =>
      cases stepEq
      have same : (state.receive host kind value verified).db = state.db := receive_db
      refine ⟨by rw [same]; exact tracked, by rw [same]; exact stays, ?_, ?_⟩
      · intro admitted waits own
        rcases mem_receive waits with old | delivers
        · exact (heard.waiting admitted old own).mono _
        · exact ⟨_, List.mem_append_right _ (List.mem_singleton_self _), delivers⟩
      · intro receipt receiptMem own
        rw [same] at receiptMem
        obtain ⟨admitted, delivered, rest⟩ := heard.recorded receipt receiptMem own
        exact ⟨admitted, delivered.mono _, rest⟩
  | settle admitted =>
      obtain ⟨waits, afterEq⟩ := Option.ite_none_right_eq_some.mp stepEq
      cases afterEq
      have typeEq : uuid admitted.event.sourceVersionId = request.sourceVersionId →
          admitted.event.eventType = admitted.kind.subject :=
        fun own => eventType_of_delivered (heard.waiting admitted waits own)
      obtain ⟨kept, advances⟩ := tracked_settle tracked typeEq
      refine ⟨kept, advances, ?_, ?_⟩
      · intro other otherWaits own
        exact (heard.waiting other (List.mem_of_mem_erase otherWaits) own).mono _
      · intro receipt receiptMem own
        rcases receipts_of_settle receipt receiptMem with old | ⟨rfl, found, foundEq⟩
        · obtain ⟨other, delivered, rest⟩ := heard.recorded receipt old own
          exact ⟨other, delivered.mono _, rest⟩
        · obtain ⟨_, concerns⟩ := eventVersion_own rows own foundEq
          exact ⟨admitted, (heard.waiting admitted waits own).mono _, concerns, rfl⟩

/-- In every run, the rows of an upload stay tracked, and what is heard was delivered. -/
theorem tracked_run (tracked : request.Tracked state.db) (heard : request.Heard host past state)
    (runEq : (lifecycle host).run state actions = some after) :
    request.Tracked after.db ∧ request.Heard host (past ++ actions) after := by
  induction actions generalizing past state with
  | nil =>
      cases runEq
      rw [List.append_nil]
      exact ⟨tracked, heard⟩
  | cons action rest ih =>
      obtain ⟨middle, stepEq, restEq⟩ := Step.run_cons_eq_some_iff.mp runEq
      obtain ⟨middleTracked, _, middleHeard⟩ := tracked_step tracked heard stepEq
      have kept := ih middleTracked middleHeard restEq
      rw [List.append_assoc] at kept
      exact kept

theorem heard_created {start : Consumers} (fresh : request.Fresh start) :
    request.Heard host [] (start.created request) := by
  constructor
  · intro admitted waits own
    exact absurd own (fresh.unannounced admitted waits)
  · intro receipt receiptMem own
    have old : receipt ∈ start.db.receipts := by
      rw [← upload_receipts fresh.unused]
      exact receiptMem
    exact absurd own (fresh.unrecorded receipt old)

/-! ## What runs do to a version -/

/-- The version of an upload has a status in some state of a run. -/
def Upload.Reaches (request : Upload) (host : Host) (created : Consumers) (actions : List Action)
    (status : SourceProcessingStatus) : Prop :=
  ∃ first second middle version, actions = first ++ second ∧
    (lifecycle host).run created first = some middle ∧
    middle.db.version? request.sourceVersionId = some version ∧
    version.processingStatus = status

theorem reaches_nil {created : Consumers}
    (versionEq : created.db.version? request.sourceVersionId = some version) :
    request.Reaches host created [] status ↔ version.processingStatus = status := by
  constructor
  · rintro ⟨first, second, middle, found, split, runEq, foundEq, statusEq⟩
    obtain ⟨rfl, rfl⟩ := List.append_eq_nil_iff.mp split.symm
    cases runEq
    cases versionEq.symm.trans foundEq
    exact statusEq
  · intro statusEq
    exact ⟨[], [], created, version, rfl, rfl, versionEq, statusEq⟩

/-- A longer run reaches what the shorter one does and the status that it ends with. -/
theorem reaches_concat {created : Consumers}
    (runEq : (lifecycle host).run created (actions ++ [action]) = some after)
    (versionEq : after.db.version? request.sourceVersionId = some version) :
    request.Reaches host created (actions ++ [action]) status ↔
      request.Reaches host created actions status ∨ version.processingStatus = status := by
  constructor
  · rintro ⟨first, second, middle, found, split, middleEq, foundEq, statusEq⟩
    rcases List.eq_nil_or_concat second with rfl | ⟨rest, last, rfl⟩
    · rw [List.append_nil] at split
      rw [← split, runEq] at middleEq
      cases middleEq
      cases versionEq.symm.trans foundEq
      exact Or.inr statusEq
    · left
      rw [List.concat_eq_append, ← List.append_assoc] at split
      obtain ⟨prefixEq, _⟩ := List.append_inj' split rfl
      exact ⟨first, rest, middle, found, prefixEq, middleEq, foundEq, statusEq⟩
  · rintro (⟨first, second, middle, found, rfl, middleEq, foundEq, statusEq⟩ | statusEq)
    · exact ⟨first, second ++ [action], middle, found, List.append_assoc _ _ _, middleEq, foundEq,
        statusEq⟩
    · exact ⟨actions ++ [action], [], after, version, (List.append_nil _).symm, runEq, versionEq,
        statusEq⟩

/-- The date of a status is set by the step that reaches it. -/
theorem extractedAt_moves (dated : version.Dated) {next : SourceVersion}
    (moves : version.Moves next) :
    next.extractedAt.isSome ↔
      version.extractedAt.isSome ∨ next.processingStatus = .extracted := by
  rcases moves with rfl | ⟨kind, event, outcome, rfl⟩
  · rw [iff_self_or]
    intro statusEq
    rw [SourceVersion.Dated, statusEq] at dated
    exact dated.1
  · rw [SourceVersion.move_processingStatus]
    cases kind <;> simp [SourceVersion.move, SourceLifecycleKind.status]

theorem indexedAt_moves (dated : version.Dated) {next : SourceVersion}
    (moves : version.Moves next) :
    next.indexedAt.isSome ↔ version.indexedAt.isSome ∨ next.processingStatus = .indexed := by
  rcases moves with rfl | ⟨kind, event, outcome, rfl⟩
  · rw [iff_self_or]
    intro statusEq
    rw [SourceVersion.Dated, statusEq] at dated
    exact dated.2
  · rw [SourceVersion.move_processingStatus]
    cases kind <;> simp [SourceVersion.move, SourceLifecycleKind.status]

/-- What the step sets that reaches a status is set exactly if the run reaches the
status. -/
theorem stamped_iff_reaches (stamped : SourceVersion → Prop) {start : Consumers}
    (fresh : request.Fresh start)
    (initial : stamped request.version ↔ request.version.processingStatus = status)
    (moves : ∀ version next : SourceVersion, version.Dated → version.Moves next →
      (stamped next ↔ stamped version ∨ next.processingStatus = status))
    (runEq : (lifecycle host).run (start.created request) actions = some state)
    (versionEq : state.db.version? request.sourceVersionId = some version) :
    stamped version ↔ request.Reaches host (start.created request) actions status := by
  induction actions using List.reverseRecOn generalizing state version with
  | nil =>
      cases runEq
      rw [reaches_nil versionEq]
      have created : (start.created request).db.version? request.sourceVersionId =
          some request.version := created_version fresh
      cases versionEq.symm.trans created
      exact initial
  | append_singleton actions action ih =>
      have whole := runEq
      rw [Step.run_append] at runEq
      obtain ⟨middle, middleEq, lastEq⟩ := Option.bind_eq_some_iff.mp runEq
      obtain ⟨next, stepEq, nilEq⟩ := Step.run_cons_eq_some_iff.mp lastEq
      cases nilEq
      obtain ⟨tracked, heard⟩ := tracked_run (tracked_created fresh) (heard_created fresh) middleEq
      obtain ⟨_, advances, _⟩ := tracked_step tracked heard stepEq
      obtain ⟨_, _, before, _, rows, nextRows, moved⟩ := advances
      cases versionEq.symm.trans nextRows.versionEq
      have dated : before.Dated := by
        obtain ⟨_, found, foundRows, dated, _⟩ := tracked.rows
        cases rows.versionEq.symm.trans foundRows.versionEq
        exact dated
      rw [reaches_concat whole versionEq, ← ih middleEq rows.versionEq]
      exact moves before version dated moved

/-! ## Receipts of what has been handled -/

/-- The event has one receipt. -/
def SourceDb.OneReceipt (db : SourceDb) (event : LifecycleEvent) : Prop :=
  ∃ receipt, db.receipts.filter
    (fun receipt => decide (receipt.eventId = uuid event.eventId)) = [receipt]

theorem oneReceipt_of_found (receipts : Table.Keyed SourceLifecycleEvent.eventId db.receipts)
    {receipt : SourceLifecycleEvent} (found : db.receipt? (uuid event.eventId) = some receipt) :
    db.OneReceipt event :=
  ⟨receipt, receipts.filter_eq found⟩

/-- What an event about an upload finds. -/
theorem found_of_concerns (rows : request.Rows db source version)
    (concerns : request.Concerns event) :
    db.eventSource? event = some source ∧ db.eventVersion? event = some version := by
  obtain ⟨versionEq, sourceEq, organizationEq, workspaceEq⟩ := concerns
  constructor
  · rw [SourceDb.eventSource?, sourceEq, rows.sourceEq]
    simp [organizationEq, workspaceEq, rows.sourceOrganization, rows.sourceWorkspace, rows.alive]
  · rw [SourceDb.eventVersion?, versionEq, rows.versionEq]
    simp [sourceEq, organizationEq, workspaceEq, rows.owner, rows.organization, rows.workspace]

/-- A transaction that resolves leaves one receipt of an event about an upload. -/
theorem oneReceipt_of_settle (tracked : request.Tracked db)
    (concerns : request.Concerns admitted.event)
    (settleEq : settle admitted db = (.ok changed, target)) : target.OneReceipt admitted.event := by
  obtain ⟨source, version, rows, _, _⟩ := tracked.rows
  obtain ⟨sourceFound, versionFound⟩ := found_of_concerns rows concerns
  have settles := settles_of_ok settleEq
  have receipts := (keyed_of_settles settles tracked).2.2
  have appended : ∀ old : List SourceLifecycleEvent,
      Table.get? SourceLifecycleEvent.eventId old (uuid admitted.event.eventId) = none →
      Table.get? SourceLifecycleEvent.eventId
        (old ++ [admitted.event.receipt admitted.jti]) (uuid admitted.event.eventId) =
        some (admitted.event.receipt admitted.jti) := by
    intro old fresh
    rw [Table.get?_append, fresh]
    exact if_pos rfl
  cases settles with
  | known receipt found => exact oneReceipt_of_found receipts found
  | dropped fresh missing =>
      rcases missing with missing | missing
      · cases sourceFound.symm.trans missing
      · cases versionFound.symm.trans missing
  | ignored _ _ fresh | moved _ _ fresh =>
      exact oneReceipt_of_found receipts (appended db.receipts fresh)

/-- An event that has a receipt changes nothing. -/
theorem settle_repeated (repeated : (db.receipt? (uuid admitted.event.eventId)).isSome) :
    (settle admitted db).2 = db := by
  obtain ⟨receipt, found⟩ := Option.isSome_iff_exists.mp repeated
  have absent : db.receipt? (uuid admitted.event.eventId) ≠ none := by
    rw [found]
    exact nofun
  rcases settle_cases admitted db with same | ⟨changed, settles⟩
  · exact same
  · rcases settlesEq : (settle admitted db).2 with ⟨sources, versions, receipts⟩
    rw [settlesEq] at settles
    cases settles with
    | known | dropped => rfl
    | ignored _ _ fresh | moved _ _ fresh => exact absurd fresh absent

/-- What the handler returns for, it has handled, or it handles it. -/
theorem handle_ok {value : Json} {verified : Except Exception InternalServiceClaims}
    (handleEq : handle host kind value verified db = (.ok changed, target)) :
    (∃ event receipt, readEvent host kind value = .ok event ∧
      db.receipt? (uuid event.eventId) = some receipt ∧ target = db) ∨
      ∃ admitted, readEvent host kind value = .ok admitted.event ∧
        settle admitted db = (.ok changed, target) := by
  obtain ⟨result, _, admitEq, restEq⟩ := bind_eq_ok_iff.mp handleEq
  obtain ⟨rfl, ⟨rfl, event, receipt, read, found⟩ | ⟨admitted, rfl, delivers⟩⟩ := admit_ok admitEq
  · obtain ⟨_, rfl⟩ := pure_eq_ok_iff.mp restEq
    exact Or.inl ⟨event, receipt, read, found, rfl⟩
  · obtain ⟨_, _, receiveEq, read, _⟩ := delivers
    cases receiveEq
    exact Or.inr ⟨admitted, read, restEq⟩

/-! ## The order of events -/

/-- An event of a kind is delivered among the actions. -/
def Announced (host : Host) (actions : List Action) (kind : SourceLifecycleKind)
    (event : LifecycleEvent) : Prop :=
  ∃ jti, Delivered host actions ⟨kind, event, jti⟩

/-- The kinds of the receipts are those of the delivered events, when each has its
receipt. -/
theorem recorded_iff (heard : request.Heard host actions state)
    (resolved : request.Resolved host actions state.db) (kind : SourceLifecycleKind) :
    request.Recorded state.db.receipts kind ↔
      ∃ event, request.Concerns event ∧ Announced host actions kind event := by
  constructor
  · rintro ⟨receipt, receiptMem, own, typeEq⟩
    obtain ⟨⟨other, event, jti⟩, delivered, concerns, rfl⟩ := heard.recorded receipt receiptMem own
    have eventType : event.eventType = other.subject := eventType_of_delivered delivered
    obtain rfl : other = kind := subject_injective (eventType.symm.trans typeEq)
    exact ⟨event, concerns, jti, delivered⟩
  · rintro ⟨event, concerns, jti, delivered⟩
    obtain ⟨receipt, found, same⟩ := resolved _ delivered concerns
    have eventType : event.eventType = kind.subject := eventType_of_delivered delivered
    simp only [SourceLifecycleEvent.matches, Bool.and_eq_true, beq_iff_eq] at same
    refine ⟨receipt, Table.mem_of_get? found, ?_, same.1.1.1.1.trans eventType⟩
    rw [← concerns.1, ← same.2, uuid_text]

/-- A status that has not failed is known by the kinds up to it. -/
theorem status_ext {first second : SourceProcessingStatus} (firstNe : first ≠ .failed)
    (secondNe : second ≠ .failed)
    (same : ∀ kind ≠ SourceLifecycleKind.failed,
      (order.idxOf kind.status ≤ order.idxOf first ↔
        order.idxOf kind.status ≤ order.idxOf second)) : first = second := by
  have processing := same .processing (by decide)
  have extracted := same .extracted (by decide)
  have indexed := same .indexed (by decide)
  cases first <;> cases second <;>
    first
    | rfl
    | exact absurd rfl firstNe
    | exact absurd rfl secondNe
    | exact absurd processing (by decide)
    | exact absurd extracted (by decide)
    | exact absurd indexed (by decide)

/-- Two states whose receipts are of the same kinds have the version at one status. -/
theorem status_of_recorded {receipts others : List SourceLifecycleEvent}
    (first : request.Explained receipts status) (second : request.Explained others next)
    (same : ∀ kind, request.Recorded receipts kind ↔ request.Recorded others kind)
    (notFailed : ¬ request.Recorded receipts .failed) : status = next := by
  have firstNe : status ≠ .failed := fun failed => notFailed (first.failed failed)
  have secondNe : next ≠ .failed :=
    fun failed => notFailed ((same .failed).mpr (second.failed failed))
  apply status_ext firstNe secondNe
  intro kind ne
  rw [← first.reached firstNe kind ne, ← second.reached secondNe kind ne]
  exact same kind

/-! ## Lifecycles -/

/-- What holds of the run after an upload: every step moves the version forward and leaves
the source with its status; the dates are those of the statuses that were reached; an event
about the version that is handled has one receipt, and one that has a receipt changes
nothing. -/
structure Upload.Orderly (request : Upload) (host : Host) (created : Consumers)
    (actions : List Action) (state : Consumers) : Prop where
  forward : ∀ first action second before after, actions = first ++ action :: second →
    (lifecycle host).run created first = some before →
    lifecycle host before action = some after →
    ∃ source version nextSource nextVersion, request.Rows before.db source version ∧
      request.Rows after.db nextSource nextVersion ∧
      Forward version.processingStatus nextVersion.processingStatus
  dated : ∃ source version, request.Rows state.db source version ∧
    (version.extractedAt.isSome ↔ request.Reaches host created actions .extracted) ∧
    (version.indexedAt.isSome ↔ request.Reaches host created actions .indexed)
  receipted : ∀ kind value verified event changed target,
    readEvent host kind value = .ok event → request.Concerns event →
    handle host kind value verified state.db = (.ok changed, target) → target.OneReceipt event
  settled : ∀ admitted changed target, request.Concerns admitted.event →
    settle admitted state.db = (.ok changed, target) → target.OneReceipt admitted.event
  repeated : ∀ admitted, (state.db.receipt? (uuid admitted.event.eventId)).isSome →
    (settle admitted state.db).2 = state.db
  received : ∀ kind value verified, (state.receive host kind value verified).db = state.db

/-- After an upload, every run of deliveries in any order is orderly; and two runs without
failures that deliver the same events about the version, and in which each has got its
receipt, leave it with the same status. -/
theorem lifecycle_orderly (host : Host) {request : Upload} {start state : Consumers}
    {actions : List Action} (fresh : request.Fresh start)
    (runEq : (lifecycle host).run (start.created request) actions = some state) :
    request.Orderly host (start.created request) actions state ∧
      ∀ others other, (lifecycle host).run (start.created request) others = some other →
        (∀ event, request.Concerns event → ¬ Announced host actions .failed event) →
        (∀ kind event, request.Concerns event →
          (Announced host actions kind event ↔ Announced host others kind event)) →
        request.Resolved host actions state.db → request.Resolved host others other.db →
        (state.db.version? request.sourceVersionId).map SourceVersion.processingStatus =
          (other.db.version? request.sourceVersionId).map SourceVersion.processingStatus := by
  have reached : ∀ {actions : List Action} {state : Consumers},
      (lifecycle host).run (start.created request) actions = some state →
        request.Tracked state.db ∧ request.Heard host actions state :=
    tracked_run (tracked_created fresh) (heard_created fresh)
  obtain ⟨tracked, heard⟩ := reached runEq
  obtain ⟨source, version, rows, dated, explained⟩ := tracked.rows
  constructor
  · constructor
    · rintro first action second before after - beforeEq stepEq
      obtain ⟨beforeTracked, beforeHeard⟩ := reached beforeEq
      obtain ⟨_, ⟨source, nextSource, version, nextVersion, rows, nextRows, moves⟩, _⟩ :=
        tracked_step beforeTracked beforeHeard stepEq
      refine ⟨source, version, nextSource, nextVersion, rows, nextRows, ?_⟩
      rcases moves with rfl | ⟨kind, event, outcome, rfl⟩
      · exact .stays _
      · rw [SourceVersion.move_processingStatus]
        exact forward_of_changed outcome
    · refine ⟨source, version, rows, ?_, ?_⟩
      · exact stamped_iff_reaches (fun version => version.extractedAt.isSome) fresh
          (iff_of_false nofun nofun) (fun _ _ dated moves => extractedAt_moves dated moves) runEq rows.versionEq
      · exact stamped_iff_reaches (fun version => version.indexedAt.isSome) fresh
          (iff_of_false nofun nofun) (fun _ _ dated moves => indexedAt_moves dated moves) runEq rows.versionEq
    · intro kind value verified event changed target read concerns handleEq
      rcases handle_ok handleEq with ⟨other, receipt, otherRead, found, rfl⟩ |
        ⟨admitted, otherRead, settleEq⟩
      · cases read.symm.trans otherRead
        exact oneReceipt_of_found tracked.receipts found
      · cases read.symm.trans otherRead
        exact oneReceipt_of_settle tracked concerns settleEq
    · intro admitted changed target concerns settleEq
      exact oneReceipt_of_settle tracked concerns settleEq
    · exact fun admitted repeated => settle_repeated repeated
    · exact fun kind value verified => receive_db
  · intro others other otherEq noFailure same resolved otherResolved
    obtain ⟨otherTracked, otherHeard⟩ := reached otherEq
    obtain ⟨otherSource, otherVersion, otherRows, _, otherExplained⟩ := otherTracked.rows
    have sameRecorded : ∀ kind, request.Recorded state.db.receipts kind ↔
        request.Recorded other.db.receipts kind := by
      intro kind
      rw [recorded_iff heard resolved, recorded_iff otherHeard otherResolved]
      exact exists_congr fun event => and_congr_right fun concerns => same kind event concerns
    have notFailed : ¬ request.Recorded state.db.receipts .failed := by
      rw [recorded_iff heard resolved]
      rintro ⟨event, concerns, announced⟩
      exact noFailure event concerns announced
    rw [rows.versionEq, otherRows.versionEq, Option.map_some, Option.map_some,
      status_of_recorded explained otherExplained sameRecorded notFailed]

/-! ## Examples -/

/-- Every text is taken for an identifier and for a date. -/
def exampleHost : Host where
  validateUuid := fun _ => true
  parseDate := fun _ => some 12

/-- The upload of a file. -/
def exampleUpload : Upload where
  user := ⟨uuid "user", uuid "organization", "viewer"⟩
  workspaceId := uuid "workspace"
  projectId := none
  filename := "report.pdf"
  mimeType := "application/pdf"
  sizeBytes := 1
  bucket := "workspace-sources"
  key := "report.pdf"
  checksumSha256 := "checksum"
  sourceId := uuid "source"
  sourceVersionId := uuid "version"

/-- No tables and no events. -/
def exampleStart : Consumers where
  db := ⟨[], [], []⟩
  admitted := []

/-- An event about the version. -/
def exampleEvent (kind : SourceLifecycleKind) : LifecycleEvent where
  eventId := kind.text
  eventType := kind.subject
  organizationId := "organization"
  workspaceId := "workspace"
  correlationId := "correlation"
  timestamp := 12
  sourceId := "source"
  sourceVersionId := "version"
  internalToken := "token"
  errorCode := none
  errorMessage := none

/-- The event, as it is sent. -/
def exampleValue (kind : SourceLifecycleKind) : Json :=
  .obj
    [("schemaVersion", .num 1), ("eventId", .str kind.text), ("eventType", .str kind.subject),
      ("organizationId", .str "organization"), ("workspaceId", .str "workspace"),
      ("userId", .str "user"), ("correlationId", .str "correlation"), ("timestamp", .str "now"),
      ("payload", .obj
        [("sourceId", .str "source"), ("sourceVersionId", .str "version"),
          ("internalToken", .str "token")])]

/-- What the token of the event says. -/
def exampleClaims (kind : SourceLifecycleKind) : InternalServiceClaims where
  service := "document-worker"
  organizationId := "organization"
  workspaceId := some "workspace"
  correlationId := "correlation"
  allowedActions := ["source." ++ kind.text]
  jti := some kind.text

/-- The event, when it has been admitted. -/
def exampleAdmitted (kind : SourceLifecycleKind) : Admitted :=
  ⟨kind, exampleEvent kind, kind.text⟩

/-- The delivery of an event and its transaction. -/
def exampleDelivery (kind : SourceLifecycleKind) : List Action :=
  [.receive kind (exampleValue kind) (.ok (exampleClaims kind)), .settle (exampleAdmitted kind)]

theorem exampleUpload_fresh : exampleUpload.Fresh exampleStart where
  sources := by decide
  versions := by decide
  receipts := by decide
  unused := by decide
  unrecorded := nofun
  unannounced := nofun
  stored := rfl

/-- An event that comes too early is delivered once more. -/
theorem lifecycle_orderly_example :
    ∃ state, (lifecycle exampleHost).run (exampleStart.created exampleUpload)
        (exampleDelivery .extracted ++ exampleDelivery .processing ++ exampleDelivery .extracted) =
        some state ∧
      exampleUpload.Orderly exampleHost (exampleStart.created exampleUpload)
        (exampleDelivery .extracted ++ exampleDelivery .processing ++ exampleDelivery .extracted)
        state := by
  have enabled : ((lifecycle exampleHost).run (exampleStart.created exampleUpload)
      (exampleDelivery .extracted ++ exampleDelivery .processing ++
        exampleDelivery .extracted)).isSome := by
    decide +kernel
  obtain ⟨state, runEq⟩ := Option.isSome_iff_exists.mp enabled
  exact ⟨state, runEq, (lifecycle_orderly exampleHost exampleUpload_fresh runEq).1⟩

end Manbaa.Sources
