import Manbaa.Canvases.Sound
import Manbaa.Lib.Sessions

/-!
# Client operations beside each other

The transactions of `createOperation`, one statement at a time.  Each holds the
lock of its own canvas from its first statement to its end; it reads what other
transactions have committed, and its rows are seen when it commits.

The identifier of an operation is checked once when the transaction looks for a
duplicate, and once more when the row is saved: a save looks for a row with the
identifier and updates it if there is one.  The lock of the canvas does not
cover the identifier, so a transaction on another canvas may commit it between
the two.
-/

namespace Manbaa.Canvases

open Manbaa.Lib Manbaa.Lib.Effect

/-- The next statement of a transaction, with what the transaction knows by
then. -/
inductive Stage where
  | lockCanvas
  | findExisting (locked : Canvas)
  | checkObject (locked : Canvas)
  | findSaved (locked : Canvas)
  | writeOperation (locked : Canvas) (saved : Option CanvasOperation)
  | saveCanvas (locked : Canvas) (row : Option CanvasOperation)
  | commit (locked : Canvas) (row : Option CanvasOperation)
  | done (result : Except Exception CreatedOperation)

/-- A call of `createOperation` whose transaction has started. -/
structure Session where
  canvas : Canvas
  dto : CreateCanvasOperationDto
  caller : RequestUser
  stage : Stage

/-- The session at another statement. -/
def Session.to (session : Session) (stage : Stage) : Session := { session with stage := stage }

@[simp]
theorem Session.to_dto (session : Session) (stage : Stage) : (session.to stage).dto = session.dto :=
  rfl

@[simp]
theorem Session.to_stage (session : Session) (stage : Stage) :
    (session.to stage).stage = stage :=
  rfl

/-- The session goes on with what a statement returned, or its transaction is
rolled back with what the statement threw. -/
def Session.after {α : Type} (session : Session) (result : Except Exception α)
    (next : α → Stage) : Session :=
  match result with
  | .ok value => session.to (next value)
  | .error exception => session.to (.done (.error exception))

/-- The canvas that the session has locked. -/
def Session.locked? (session : Session) : Option Uuid :=
  match session.stage with
  | .lockCanvas | .done _ => none
  | _ => some session.canvas.id

/-- The operation that the session has written and not yet committed. -/
def Session.pending? (session : Session) : Option CanvasOperation :=
  match session.stage with
  | .saveCanvas _ row | .commit _ row => row
  | _ => none

/-- The session has committed an operation of its own. -/
def Session.accepted (session : Session) : Bool :=
  match session.stage with
  | .done (.ok created) => !created.duplicate
  | _ => false

/-- The identifier of the operation, as its column holds it. -/
def Session.operationId (session : Session) : Uuid := uuid session.dto.operationId

@[simp]
theorem Session.to_operationId (session : Session) (stage : Stage) :
    (session.to stage).operationId = session.operationId :=
  rfl

/-- A column after an update that writes it if it differs from what was
read. -/
def written {α : Type} [DecidableEq α] (read entity current : α) : α :=
  if entity = read then current else entity

/-- The row after an update, given what the save read and what it saves. -/
def CanvasOperation.updated (current read entity : CanvasOperation) : CanvasOperation :=
  { id := current.id
    canvasId := written read.canvasId entity.canvasId current.canvasId
    organizationId := written read.organizationId entity.organizationId current.organizationId
    workspaceId := written read.workspaceId entity.workspaceId current.workspaceId
    canvasObjectId := written read.canvasObjectId entity.canvasObjectId current.canvasObjectId
    userId := written read.userId entity.userId current.userId
    opType := written read.opType entity.opType current.opType
    opPayload := written read.opPayload entity.opPayload current.opPayload
    versionVector := written read.versionVector entity.versionVector current.versionVector
    sequenceNumber := written read.sequenceNumber entity.sequenceNumber current.sequenceNumber
    clientRevision := written read.clientRevision entity.clientRevision current.clientRevision }

/-- The row that the second statement of a save writes: a new one if its first
statement found none, otherwise the one that it found, updated. -/
def Db.writtenOperation (schema : Schema) (entity : CanvasOperation)
    (saved : Option CanvasOperation) (db : Db) : Except Refusal (Option CanvasOperation) :=
  match saved with
  | none => do
      check (db.operation? (uuid entity.id)).isNone (.uniqueViolation "canvas_operation_pkey")
      schema.operation db entity.stored
      pure (some entity.stored)
  | some read =>
      match db.operation? (uuid entity.id) with
      | none => pure none
      | some current => do
          schema.operation db (current.updated read entity.stored)
          pure (some (current.updated read entity.stored))

/-- The database once a transaction commits what it wrote. -/
def Db.commitOperation (locked : Canvas) (row : Option CanvasOperation) (db : Db) : Db :=
  { db with
    canvases := Table.save Canvas.id db.canvases locked.advance
    operations := row.elim db.operations (Table.save CanvasOperation.id db.operations) }

/-- The next statement of a session.  A lock that another session holds blocks
it: that of the canvas, and that of a row with the identifier which is not yet
committed. -/
def Session.next (host : Host) (db : Db) (others : List Session) (session : Session) :
    Option (Db × Session) :=
  let dto := session.dto
  match session.stage with
  | .lockCanvas =>
      if others.any fun other => other.locked? == some session.canvas.id then none
      else
        some (db, session.after (findCanvasOrThrow session.canvas.id ⟨db, []⟩).1 .findExisting)
  | .findExisting locked =>
      match db.operation? session.operationId with
      | some existing =>
          if sameLogicalOperation existing session.canvas dto session.caller then
            some (db, session.to (.done (.ok ⟨existing, true, locked⟩)))
          else
            some (db, session.to (.done
              (.error (.conflict "Operation ID is already used by a different operation"))))
      | none =>
          if dto.clientRevision = locked.revision then some (db, session.to (.checkObject locked))
          else some (db, session.to (.done (.error (.canvasRevisionConflict locked.revision))))
  | .checkObject locked =>
      some (db, session.after (requireObjectOnCanvas dto.canvasObjectId session.canvas.id
        ⟨db, []⟩).1 fun _ => .findSaved locked)
  | .findSaved locked =>
      some (db, session.to (.writeOperation locked (db.operation? session.operationId)))
  | .writeOperation locked saved =>
      if others.any fun other => other.pending?.any fun row => uuid row.id == session.operationId
      then none
      else
        match db.writtenOperation host.schema (dto.operation locked session.caller) saved with
        | .ok row => some (db, session.to (.saveCanvas locked row))
        | .error refusal => some (db, session.to (.done (.error (.queryFailed refusal))))
  | .saveCanvas locked row => some (db, session.to (.commit locked row))
  | .commit locked row =>
      some (db.commitOperation locked row, session.to (.done (.ok
        ⟨dto.operation locked session.caller, false, locked.advance⟩)))
  | .done _ => none

/-- A call of `createOperation`. -/
structure OperationRequest where
  ids : GeneratedIds
  workflowId : String
  dto : CreateCanvasOperationDto
  caller : RequestUser

/-- What `createOperation` does before its transaction. -/
def OperationRequest.openCanvas (host : Host) (request : OperationRequest) : Service Canvas := do
  let canvas ← getOrCreateCanvas request.ids request.workflowId request.caller.orgId
  requireCanvasMutationPermission canvas request.caller
  assertOperationPayloadBounded host request.dto.opPayload
  pure canvas

/-- How a session goes on: with its next statement, or with a failure that rolls
its transaction back. -/
inductive Choice where
  | next
  | fail (exception : Exception)

/-- The calls of `createOperation` beside each other. -/
def operationSessions (host : Host) : Sessions Db Session OperationRequest Choice where
  start := fun db request =>
    match request.openCanvas host ⟨db, []⟩ with
    | (.ok canvas, opened) => (opened.db, some ⟨canvas, request.dto, request.caller, .lockCanvas⟩)
    | (.error _, opened) => (opened.db, none)
  advance := fun db others session choice =>
    match choice with
    | .next => session.next host db others
    | .fail exception =>
        match session.stage with
        | .done _ => none
        | _ => some (db, session.to (.done (.error exception)))

variable {host : Host} {db next : Db} {others : List Session} {session : Session}

/-! ## One session -/

theorem readOnly_requireObjectOnCanvas {canvasObjectId : Option String} {canvasId : Uuid} :
    ReadOnly (requireObjectOnCanvas canvasObjectId canvasId) := by
  cases canvasObjectId with
  | none => exact readOnly_pure
  | some objectId => exact readOnly_reading.bind fun _ => readOnly_require

/-- The seven statements of a session that runs by itself are the transaction of
`createOperation`. -/
theorem alone_eq_transaction (host : Host) (db : Db) (canvas : Canvas)
    (dto : CreateCanvasOperationDto) (caller : RequestUser) :
    (operationSessions host).alone .next 7 (db, ⟨canvas, dto, caller, .lockCanvas⟩) =
      ((transaction (createOperationTransaction host canvas dto caller) ⟨db, []⟩).2.db,
        ⟨canvas, dto, caller,
          .done (transaction (createOperationTransaction host canvas dto caller) ⟨db, []⟩).1⟩) := by
  cases lockEq : db.canvas? canvas.id with
  | none =>
      simp [Sessions.alone, operationSessions, Session.next, Session.after, Session.to, transaction,
        createOperationTransaction, findCanvasOrThrow, bind, reading, orThrow, lockEq]
  | some locked =>
      have locks : ∀ continued : Canvas → Service CreatedOperation,
          (findCanvasOrThrow canvas.id >>= continued) ⟨db, []⟩ = continued locked ⟨db, []⟩ :=
        fun continued => bind_of_ok (findCanvasOrThrow_eq_ok_iff.mpr ⟨lockEq, rfl⟩)
      have found : (findCanvasOrThrow canvas.id ⟨db, []⟩).1 = .ok locked := by
        rw [findCanvasOrThrow_eq_ok_iff.mpr ⟨lockEq, rfl⟩]
      rw [transaction, createOperationTransaction, locks]
      cases existingEq : db.operation? (uuid dto.operationId) with
      | some existing =>
          by_cases same : sameLogicalOperation existing canvas dto caller = true
          · simp [Sessions.alone, operationSessions, Session.next, Session.after, Session.to, Session.operationId,
              bind, reading, require, pure, found, existingEq, same]
          · simp [Sessions.alone, operationSessions, Session.next, Session.after, Session.to, Session.operationId,
              bind, reading, require, found, existingEq, same]
      | none =>
          by_cases current : dto.clientRevision = locked.revision
          · rcases objectEq : requireObjectOnCanvas dto.canvasObjectId canvas.id ⟨db, []⟩ with
              ⟨exception | _, target⟩
            · simp [Sessions.alone, operationSessions, Session.next, Session.after, Session.to, Session.operationId,
                bind, reading, require, found, existingEq, current, objectEq]
            · obtain rfl := readOnly_requireObjectOnCanvas _ _ _ objectEq
              have fresh : (db.operation? (uuid (dto.operation locked caller).id)).isNone := by
                simp [CreateCanvasOperationDto.operation, existingEq]
              cases acceptEq : host.schema.operation db (dto.operation locked caller).stored with
              | error refusal =>
                  have writes : db.writtenOperation host.schema (dto.operation locked caller)
                      none = .error refusal := by
                    simp [Db.writtenOperation, check, fresh, acceptEq]
                  simp [Sessions.alone, operationSessions, Session.next, Session.after, Session.to,
                    Session.operationId, bind, Except.bind, reading, require, execute,
                    Db.saveOperation, found, existingEq, current, objectEq, acceptEq, writes]
              | ok =>
                  have writes : db.writtenOperation host.schema (dto.operation locked caller)
                      none = .ok (some (dto.operation locked caller).stored) := by
                    simp [Db.writtenOperation, check, fresh, acceptEq, pure_eq_ok]
                  simp [Sessions.alone, operationSessions, Session.next, Session.after, Session.to,
                    Session.operationId, bind, Except.bind, reading, require, execute,
                    Db.saveOperation, Db.saveCanvas, Db.commitOperation, pure, Except.pure, found,
                    existingEq, current, objectEq, acceptEq, writes]
          · simp [Sessions.alone, operationSessions, Session.next, Session.after, Session.to, Session.operationId,
              bind, reading, require, found, existingEq, current]

/-! ## What a statement does -/

/-- The operation is written at this point of the transaction, committed or
not. -/
def Stage.wrote : Stage → Bool
  | .saveCanvas _ _ | .commit _ _ => true
  | .done (.ok created) => !created.duplicate
  | _ => false

/-- A statement of a session reads, writes the operation, writes the canvas or
commits. -/
inductive Advances (host : Host) (db : Db) (others : List Session) (session : Session)
    (choice : Choice) : Db → Session → Prop where
  | reads (stage : Stage) (quiet : stage.wrote = false)
      (found : ∀ locked saved, stage = .writeOperation locked saved →
        choice = .next ∧ session.stage = .findSaved locked ∧
          saved = db.operation? session.operationId) :
      Advances host db others session choice db (session.to stage)
  | writes (locked : Canvas) (saved row : Option CanvasOperation)
      (stageEq : session.stage = .writeOperation locked saved)
      (unlocked : ∀ other ∈ others, ∀ row, other.pending? = some row →
        uuid row.id ≠ session.operationId)
      (rowEq : db.writtenOperation host.schema (session.dto.operation locked session.caller)
        saved = .ok row) :
      Advances host db others session choice db (session.to (.saveCanvas locked row))
  | saves (locked : Canvas) (row : Option CanvasOperation)
      (stageEq : session.stage = .saveCanvas locked row) :
      Advances host db others session choice db (session.to (.commit locked row))
  | commits (locked : Canvas) (row : Option CanvasOperation)
      (stageEq : session.stage = .commit locked row) :
      Advances host db others session choice (db.commitOperation locked row)
        (session.to (.done (.ok
          ⟨session.dto.operation locked session.caller, false, locked.advance⟩)))

theorem advances_after {α : Type} {choice : Choice} (result : Except Exception α)
    (stage : α → Stage) (quiet : ∀ value, (stage value).wrote = false)
    (read : ∀ value locked saved, stage value ≠ .writeOperation locked saved) :
    Advances host db others session choice db (session.after result stage) := by
  cases result with
  | ok value =>
      apply Advances.reads (stage value) (quiet value)
      intro locked saved stageEq
      exact absurd stageEq (read value locked saved)
  | error exception =>
      apply Advances.reads (.done (.error exception)) rfl
      intro locked saved stageEq
      cases stageEq

theorem advances_of_eq {choice : Choice} {session' : Session}
    (advanceEq : (operationSessions host).advance db others session choice =
      some (next, session')) :
    Advances host db others session choice next session' := by
  have silent : ∀ stage : Stage, stage.wrote = false →
      (∀ locked saved, stage ≠ .writeOperation locked saved) →
      Advances host db others session choice db (session.to stage) := by
    intro stage quiet read
    exact Advances.reads stage quiet fun locked saved stageEq =>
      absurd stageEq (read locked saved)
  cases choice with
  | fail exception =>
      simp only [operationSessions] at advanceEq
      split at advanceEq
      · cases advanceEq
      · cases advanceEq
        exact silent _ rfl (by simp)
  | next =>
      simp only [operationSessions, Session.next] at advanceEq
      cases stageEq : session.stage with
      | lockCanvas =>
          simp only [stageEq] at advanceEq
          split at advanceEq
          · cases advanceEq
          · cases advanceEq
            exact advances_after _ _ (fun _ => rfl) (by simp)
      | findExisting locked =>
          simp only [stageEq] at advanceEq
          split at advanceEq
          · split at advanceEq
            · cases advanceEq
              exact silent _ rfl (by simp)
            · cases advanceEq
              exact silent _ rfl (by simp)
          · split at advanceEq
            · cases advanceEq
              exact silent _ rfl (by simp)
            · cases advanceEq
              exact silent _ rfl (by simp)
      | checkObject locked =>
          simp only [stageEq] at advanceEq
          cases advanceEq
          exact advances_after _ _ (fun _ => rfl) (by simp)
      | findSaved locked =>
          simp only [stageEq] at advanceEq
          cases advanceEq
          apply Advances.reads _ rfl
          intro other saved sameStage
          cases sameStage
          exact ⟨rfl, stageEq, rfl⟩
      | writeOperation locked saved =>
          simp only [stageEq] at advanceEq
          split at advanceEq
          · cases advanceEq
          · rename_i free
            split at advanceEq
            · rename_i row rowEq
              cases advanceEq
              refine Advances.writes locked saved row stageEq ?_ rowEq
              intro other otherMem held heldEq sameId
              apply free
              rw [List.any_eq_true]
              exact ⟨other, otherMem, by simp [heldEq, sameId]⟩
            · cases advanceEq
              exact silent _ rfl (by simp)
      | saveCanvas locked row =>
          simp only [stageEq] at advanceEq
          cases advanceEq
          exact Advances.saves locked row stageEq
      | commit locked row =>
          simp only [stageEq] at advanceEq
          cases advanceEq
          exact Advances.commits locked row stageEq
      | done result =>
          simp only [stageEq] at advanceEq
          cases advanceEq

/-! ## Writers of one identifier -/

/-- The lookup of a save finds no operation: none was committed under the
identifier since the transaction looked for a duplicate. -/
def Session.FindsNone (db : Db) (_ : List Session) (session : Session) (choice : Choice) : Prop :=
  ∀ locked, session.stage = .findSaved locked → choice = .next →
    db.operation? session.operationId = none

instance (db : Db) (others : List Session) (session : Session) (choice : Choice) :
    Decidable (session.FindsNone db others choice) :=
  match stageEq : session.stage, choice with
  | .findSaved locked, .next =>
      decidable_of_iff (db.operation? session.operationId = none)
        ⟨fun missing _ _ _ => missing, fun finds => finds locked stageEq rfl⟩
  | .findSaved _, .fail _ => .isTrue fun _ _ chosen => nomatch chosen
  | .lockCanvas, _ | .findExisting _, _ | .checkObject _, _ | .writeOperation _ _, _
  | .saveCanvas _ _, _ | .commit _ _, _ | .done _, _ =>
      .isTrue fun _ sameStage => nomatch stageEq.symm.trans sameStage

/-- What the tables hold for a session that writes: no operation with its
identifier until it commits, and one from then on. -/
structure Session.Owned (db : Db) (session : Session) : Prop where
  inserts : ∀ locked saved, session.stage = .writeOperation locked saved → saved = none
  wrote : ∀ locked, session.stage ≠ .saveCanvas locked none ∧ session.stage ≠ .commit locked none
  pendingId : ∀ row, session.pending? = some row → row.id = session.operationId.text
  unwritten : session.pending?.isSome = true → db.operation? session.operationId = none
  stored : session.accepted = true → (db.operation? session.operationId).isSome = true

/-- No two sessions write under one identifier. -/
def Session.Apart (first second : Session) : Prop :=
  first.stage.wrote = true → second.stage.wrote = true → first.operationId ≠ second.operationId

theorem Session.Apart.symm {first second : Session} (apart : first.Apart second) :
    second.Apart first := fun secondWrote firstWrote sameId =>
  apart firstWrote secondWrote sameId.symm

theorem Session.apart_of_quiet {other : Session} (quiet : session.stage.wrote = false) :
    session.Apart other ∧ other.Apart session := by
  have apart : session.Apart other := by
    intro wrote
    rw [quiet] at wrote
    cases wrote
  exact ⟨apart, apart.symm⟩

theorem Session.wrote_of_pending (pending : session.pending?.isSome = true) :
    session.stage.wrote = true := by
  rw [Session.pending?] at pending
  split at pending
  · simp_all [Stage.wrote]
  · simp_all [Stage.wrote]
  · cases pending

theorem Session.wrote_of_accepted (accepted : session.accepted = true) :
    session.stage.wrote = true := by
  rw [Session.accepted] at accepted
  split at accepted
  · simp_all [Stage.wrote]
  · cases accepted

/-- A session that has written nothing is owed nothing. -/
theorem Session.owned_of_quiet (quiet : session.stage.wrote = false)
    (inserts : ∀ locked saved, session.stage = .writeOperation locked saved → saved = none) :
    session.Owned db := by
  have unpending : session.pending? = none := by
    cases pending : session.pending? with
    | none => rfl
    | some row =>
        have isPending : session.pending?.isSome = true := by
          rw [pending]
          rfl
        have wrote := Session.wrote_of_pending isPending
        rw [quiet] at wrote
        cases wrote
  refine ⟨inserts, ?_, ?_, ?_, ?_⟩
  · intro locked
    constructor
    · intro stageEq
      simp [stageEq, Stage.wrote] at quiet
    · intro stageEq
      simp [stageEq, Stage.wrote] at quiet
  · simp [unpending]
  · simp [unpending]
  · intro accepted
    have wrote := Session.wrote_of_accepted accepted
    rw [quiet] at wrote
    cases wrote

/-- What a session is owed survives a change of the tables that keeps the
operations and does not write under its identifier before it commits. -/
theorem Session.Owned.mono (owned : session.Owned db)
    (kept : ∀ id row, db.operation? id = some row → next.operation? id = some row)
    (unwritten : session.pending?.isSome = true → next.operation? session.operationId = none) :
    session.Owned next where
  inserts := owned.inserts
  wrote := owned.wrote
  pendingId := owned.pendingId
  unwritten := unwritten
  stored := by
    intro accepted
    obtain ⟨row, rowEq⟩ := Option.isSome_iff_exists.mp (owned.stored accepted)
    rw [kept _ row rowEq]
    rfl

/-- A session that has written waits to commit or has committed. -/
theorem Session.Owned.pending_or_accepted (owned : session.Owned db)
    (wrote : session.stage.wrote = true) :
    (∃ row, session.pending? = some row) ∨ session.accepted = true := by
  cases stageEq : session.stage with
  | saveCanvas locked row =>
      cases row with
      | none => exact absurd stageEq (owned.wrote locked).1
      | some row => exact Or.inl ⟨row, by rw [Session.pending?, stageEq]⟩
  | commit locked row =>
      cases row with
      | none => exact absurd stageEq (owned.wrote locked).2
      | some row => exact Or.inl ⟨row, by rw [Session.pending?, stageEq]⟩
  | done result =>
      rw [stageEq] at wrote
      cases result with
      | ok created => exact Or.inr (by rw [Session.accepted, stageEq]; exact wrote)
      | error exception => cases wrote
  | _ =>
      rw [stageEq] at wrote
      cases wrote

theorem operation?_commitOperation {locked : Canvas} {row : CanvasOperation} {id : Uuid} :
    (db.commitOperation locked (some row)).operation? id =
      if row.id = id.text then some row else db.operation? id := by
  rw [Db.operation?, Db.commitOperation]
  exact Table.get?_save

/-- A write that follows a lookup without a result inserts the operation. -/
theorem writtenOperation_none_eq_ok_iff {schema : Schema} {entity : CanvasOperation}
    {row : Option CanvasOperation} :
    db.writtenOperation schema entity none = .ok row ↔
      db.operation? (uuid entity.id) = none ∧ schema.operation db entity.stored = .ok () ∧
        row = some entity.stored := by
  simp only [Db.writtenOperation, except_bind_eq_ok_iff, check_eq_ok_iff, Option.isNone_iff_eq_none,
    pure_eq_ok, exists_done]
  simp [eq_comm]

/-- The sessions beside each other, as long as their lookups find nothing. -/
abbrev Session.Leaves := Sessions.Leaves (fun _ : Db => True) Session.Owned Session.Apart

theorem Advances.leaves {session' : Session} {choice : Choice}
    (step : Advances host db others session choice next session')
    (leaves : Session.Leaves db session others) (met : session.FindsNone db others choice) :
    Session.Leaves next session' others ∧
      ∀ id row, db.operation? id = some row → next.operation? id = some row := by
  cases step with
  | reads stage quiet found =>
      refine ⟨⟨trivial, ?_, leaves.beside, fun other _ => Session.apart_of_quiet quiet⟩,
        fun _ _ => id⟩
      apply Session.owned_of_quiet quiet
      intro locked saved stageEq
      obtain ⟨chosen, before, rfl⟩ := found locked saved stageEq
      exact met locked before chosen
  | writes locked saved row stageEq unlocked rowEq =>
      obtain rfl := leaves.owns.inserts locked saved stageEq
      obtain ⟨fresh, _, rfl⟩ := writtenOperation_none_eq_ok_iff.mp rowEq
      refine ⟨⟨trivial, ?_, leaves.beside, ?_⟩, fun _ _ => id⟩
      · constructor
        · simp
        · simp
        · intro operation operationEq
          cases operationEq
          rfl
        · exact fun _ => fresh
        · simp [Session.accepted]
      · intro other otherMem
        -- another writer of the identifier is pending, and blocks the write, or has committed
        have apart : Session.Apart (session.to
            (.saveCanvas locked (some (session.dto.operation locked session.caller).stored)))
            other := by
          intro _ wrote sameId
          have owned := leaves.beside other otherMem
          rcases owned.pending_or_accepted wrote with ⟨row, pending⟩ | accepted
          · apply unlocked other otherMem row pending
            rw [owned.pendingId row pending, uuid_text]
            exact sameId.symm
          · have stored := owned.stored accepted
            rw [← sameId] at stored
            have missing : db.operation? session.operationId = none := fresh
            rw [Session.to_operationId, missing] at stored
            cases stored
        exact ⟨apart, apart.symm⟩
  | saves locked row stageEq =>
      have owned := leaves.owns
      have pending : session.pending? = row := by rw [Session.pending?, stageEq]
      refine ⟨⟨trivial, ?_, leaves.beside, ?_⟩, fun _ _ => id⟩
      · constructor
        · simp
        · intro other
          refine ⟨by simp, ?_⟩
          intro sameStage
          cases sameStage
          exact (owned.wrote locked).1 stageEq
        · intro operation operationEq
          exact owned.pendingId operation (pending.trans operationEq)
        · intro some
          apply owned.unwritten
          rw [pending]
          exact some
        · simp [Session.accepted]
      · intro other otherMem
        have apart : Session.Apart (session.to (.commit locked row)) other := by
          intro _ wrote
          exact (leaves.parts other otherMem).1 (by rw [stageEq]; rfl) wrote
        exact ⟨apart, apart.symm⟩
  | commits locked row stageEq =>
      have owned := leaves.owns
      have pending : session.pending? = row := by rw [Session.pending?, stageEq]
      have wrote : session.stage.wrote = true := by rw [stageEq]; rfl
      cases row with
      | none => exact absurd stageEq (owned.wrote locked).2
      | some row =>
          have rowId : row.id = session.operationId.text := owned.pendingId row pending
          have missing : db.operation? session.operationId = none :=
            owned.unwritten (by rw [pending]; rfl)
          have kept : ∀ id row', db.operation? id = some row' →
              (db.commitOperation locked (some row)).operation? id = some row' := by
            intro id row' rowEq
            rw [operation?_commitOperation, if_neg, rowEq]
            intro sameId
            have same : id = session.operationId := by
              rw [← uuid_text id, ← sameId, rowId, uuid_text]
            rw [same, missing] at rowEq
            cases rowEq
          refine ⟨⟨trivial, ?_, ?_, ?_⟩, kept⟩
          · constructor
            · simp
            · simp
            · intro operation operationEq
              cases operationEq
            · intro some
              cases some
            · intro _
              rw [Session.to_operationId, operation?_commitOperation, if_pos rowId]
              rfl
          · intro other otherMem
            apply (leaves.beside other otherMem).mono kept
            intro otherPending
            have otherWrote := Session.wrote_of_pending otherPending
            have ne := (leaves.parts other otherMem).1 wrote otherWrote
            rw [operation?_commitOperation, if_neg]
            · exact (leaves.beside other otherMem).unwritten otherPending
            · intro sameId
              apply ne
              rw [← uuid_text other.operationId, ← sameId, rowId, uuid_text]
          · intro other otherMem
            have apart : Session.Apart (session.to (.done (.ok
                ⟨session.dto.operation locked session.caller, false, locked.advance⟩))) other := by
              intro _ otherWrote
              exact (leaves.parts other otherMem).1 wrote otherWrote
            exact ⟨apart, apart.symm⟩

/-- Before its transaction a call changes nothing but to open its canvas. -/
theorem openCanvas_opened (request : OperationRequest) :
    Opened db (request.openCanvas host ⟨db, []⟩).2.db := by
  rcases openEq : getOrCreateCanvas request.ids request.workflowId request.caller.orgId ⟨db, []⟩
    with ⟨exception | canvas, opened⟩
  · have thrown : request.openCanvas host ⟨db, []⟩ = (.error exception, opened) :=
      bind_eq_error_iff.mpr (Or.inl openEq)
    rw [thrown, ← atomic_getOrCreateCanvas _ _ _ openEq]
    exact Opened.found
  · have rest : ReadOnly (do
        requireCanvasMutationPermission canvas request.caller
        assertOperationPayloadBounded host request.dto.opPayload
        pure canvas) :=
      readOnly_requireCanvasMutationPermission.bind fun _ =>
        readOnly_require.bind fun _ => readOnly_pure
    rw [OperationRequest.openCanvas, bind_of_ok openEq, rest.state_eq]
    exact opened_of_getOrCreateCanvas openEq

/-- A call starts with a session that has written nothing. -/
theorem start_cases (request : OperationRequest) :
    Opened db ((operationSessions host).start db request).1 ∧
      ∀ session ∈ ((operationSessions host).start db request).2,
        session.stage = .lockCanvas := by
  have opened : Opened db (request.openCanvas host ⟨db, []⟩).2.db := openCanvas_opened request
  simp only [operationSessions]
  rcases openEq : request.openCanvas host ⟨db, []⟩ with ⟨exception | canvas, target⟩
  · rw [openEq] at opened
    exact ⟨opened, by simp⟩
  · rw [openEq] at opened
    exact ⟨opened, by simp⟩

/-- As long as their lookups find nothing, the sessions keep what they are
owed. -/
theorem keeps_owned (host : Host) :
    Sessions.Keeps (operationSessions host) (fun _ => True) Session.FindsNone (fun _ => True)
      Session.Owned Session.Apart where
  started := by
    intro db request _ _
    have started : Opened db ((operationSessions host).start db request).1 ∧ _ :=
      start_cases request
    obtain ⟨opened, fresh⟩ := started
    refine ⟨trivial, ?_, ?_⟩
    · intro other owned
      apply owned.mono
      · intro id row rowEq
        rw [opened.operation?, rowEq]
      · intro pending
        rw [opened.operation?]
        exact owned.unwritten pending
    · intro session sessionMem
      have stageEq := fresh session sessionMem
      have quiet : session.stage.wrote = false := by
        rw [stageEq]
        rfl
      refine ⟨Session.owned_of_quiet quiet ?_, fun other => Session.apart_of_quiet quiet⟩
      intro locked saved sameStage
      rw [stageEq] at sameStage
      cases sameStage
  advanced := by
    intro db others session choice next session' leaves met advanceEq
    exact ((advances_of_eq advanceEq).leaves leaves met).1

/-- The calls of `createOperation` beside each other, as a transition. -/
abbrev OperationState := Sessions.State Db Session

/-- The operations that are stored stay as they are. -/
def KeepsOperations (before after : OperationState) : Prop :=
  ∀ id row, before.store.operation? id = some row → after.store.operation? id = some row

/-- A step whose lookup finds nothing changes no operation. -/
theorem step_keepsOperations {state after : OperationState}
    {action : Sessions.Action OperationRequest Choice}
    (invariant : Sessions.Invariant (fun _ => True) Session.Owned Session.Apart state)
    (met : Sessions.Guard (fun _ => True) Session.FindsNone state action)
    (stepEq : (operationSessions host).step state action = some after) :
    KeepsOperations state after := by
  intro id row rowEq
  rcases Sessions.step_cases stepEq with ⟨request, _, rfl⟩ |
    ⟨index, choice, session, store, session', rfl, sessionEq, advanceEq, rfl⟩
  · rw [(start_cases request).1.operation?]
    exact rowEq
  · have leaves := (advances_of_eq advanceEq).leaves (invariant.leaves sessionEq)
      (met session sessionEq)
    exact leaves.2 id row rowEq

/-- A committed operation is immutable, as long as no save finds an operation
that another transaction has committed under its identifier: in every run of
calls beside each other, what is stored stays as it is, and no two transactions
have committed an operation under one identifier. -/
theorem operation_immutable (host : Host) {start before after : OperationState}
    {actions continued : List (Sessions.Action OperationRequest Choice)}
    (idle : start.sessions = [])
    (met : (operationSessions host).step.Meets
      (Sessions.Guard (fun _ => True) Session.FindsNone) start (actions ++ continued))
    (reached : (operationSessions host).step.run start actions = some before)
    (went : (operationSessions host).step.run before continued = some after) :
    (∀ id row, before.store.operation? id = some row →
      after.store.operation? id = some row) ∧
    (∀ (i j : Nat) (first second : Session), i ≠ j → after.sessions[i]? = some first →
      after.sessions[j]? = some second → first.accepted = true → second.accepted = true →
      first.operationId ≠ second.operationId) := by
  obtain ⟨metBefore, metAfter⟩ := Step.meets_append.mp met
  have keeps := keeps_owned host
  have invariant := keeps.run (Sessions.Invariant.of_no_sessions trivial idle) metBefore reached
  have metContinued := metAfter before reached
  constructor
  · have kept : KeepsOperations before after := by
      apply Step.related_of_meets _ _ _ invariant metContinued went
      · exact fun _ _ _ => id
      · exact fun _ _ _ first second id row rowEq => second id row (first id row rowEq)
      · intro state action next stateInvariant guard stepEq
        exact ⟨keeps.step stateInvariant guard stepEq,
          step_keepsOperations stateInvariant guard stepEq⟩
    exact kept
  · intro i j first second ne firstEq secondEq firstAccepted secondAccepted
    have apart := (keeps.run invariant metContinued went).parts i j first second ne firstEq secondEq
    exact apart (Session.wrote_of_accepted firstAccepted) (Session.wrote_of_accepted secondAccepted)

/-! ## An example -/

/-- Two workflows of one workspace, with an empty canvas each. -/
def exampleIdle : OperationState where
  store :=
    { workflows := [⟨uuid "workflow", uuid "org", none⟩, ⟨uuid "workflow-2", uuid "org", none⟩]
      workspaces := [⟨uuid "workspace", uuid "org"⟩]
      users := [uuid "user"]
      members := exampleStart.members
      canvases := [
        ⟨uuid "canvas", uuid "workflow", some (uuid "workspace"), 0, 1440, 1024, "#FFFFFF"⟩,
        ⟨uuid "canvas-2", uuid "workflow-2", some (uuid "workspace"), 0, 1440, 1024, "#FFFFFF"⟩]
      objects := []
      operations := [] }
  sessions := []

/-- A client operation on the canvas of the workflow. -/
def exampleCall (workflowId : String) : Sessions.Action OperationRequest Choice :=
  .start ⟨exampleIds, workflowId, ⟨"shared", 0, none, "object_move", [], none⟩, exampleCaller⟩

/-- The session takes that many statements. -/
def exampleSteps (index count : Nat) : List (Sessions.Action OperationRequest Choice) :=
  List.replicate count (.advance index .next)

/-- Two calls with one identifier look for a duplicate; the first commits. -/
def exampleRace : List (Sessions.Action OperationRequest Choice) :=
  [exampleCall "workflow", exampleCall "workflow-2"] ++ exampleSteps 0 2 ++ exampleSteps 1 2 ++
    exampleSteps 0 5

/-- The calls one after the other. -/
def exampleSequence : List (Sessions.Action OperationRequest Choice) :=
  [exampleCall "workflow"] ++ exampleSteps 0 7

/-- The canvas of the stored operation. -/
def canvasOfShared (state : OperationState) : Option Uuid :=
  (state.store.operation? (uuid "shared")).map CanvasOperation.canvasId

theorem operation_immutable_example :
    ∃ before after,
      (operationSessions exampleHost).step.run exampleIdle exampleSequence = some before ∧
      canvasOfShared before = some (uuid "canvas") ∧
      (operationSessions exampleHost).step.run before
        (exampleCall "workflow-2" :: exampleSteps 1 2) = some after ∧
      ∀ id row, before.store.operation? id = some row → after.store.operation? id = some row := by
  refine ⟨_, _, rfl, by decide, rfl, ?_⟩
  have met : (operationSessions exampleHost).step.Meets
      (Sessions.Guard (fun _ => True) Session.FindsNone) exampleIdle
      (exampleSequence ++ exampleCall "workflow-2" :: exampleSteps 1 2) := by
    decide
  exact (operation_immutable exampleHost rfl met rfl rfl).1

/-- A committed operation is overwritten: two calls on different canvases carry
one identifier and neither finds a duplicate, the first commits its operation,
and the save of the second updates that row. -/
theorem operation_overwritten :
    ((operationSessions exampleHost).step.run exampleIdle exampleRace).map canvasOfShared =
        some (some (uuid "canvas")) ∧
      ((operationSessions exampleHost).step.run exampleIdle (exampleRace ++ exampleSteps 1 5)).map
        (fun state => (canvasOfShared state, state.sessions.map Session.accepted)) =
          some (some (uuid "canvas-2"), [true, true]) := by
  decide +kernel

end Manbaa.Canvases
