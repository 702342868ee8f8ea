import Manbaa.Documents.Entities

/-!
# Whether results respect the decisions of users

A deletion and a correction should be final for the worker's results and for stale copies.
They are exactly as long as nothing is saved over them: nothing sees to that, since a save
writes all of its copy, and a result is saved whatever text it finds.
-/

namespace Manbaa.Documents

open Manbaa.Lib

/-! ## Decisions -/

/-- The document is deleted, if there is one. -/
def DocumentsDb.IsDeleted (db : DocumentsDb) (documentId : Uuid) : Prop :=
  ∀ document ∈ db.document? documentId, document.deletedAt.isSome

/-- The text of the document. -/
def DocumentsDb.textOf (db : DocumentsDb) (documentId : Uuid) : Option (Option String) :=
  (db.document? documentId).map Document.extractedText

/-- A call of a kind has returned. -/
def HasReturned (kind : Call → Prop) (sessions : List Running) : Prop :=
  ∃ running ∈ sessions, kind running.call ∧ running.stage = .returned

/-- A step respects what users have decided: a deletion that has returned stays, and a text
whose correction has returned is only changed by a correction. -/
structure Respects (documentId : Uuid) (state : Sessions.State DocumentsDb Running)
    (action : Sessions.Action Call Unit) : Prop where
  deleted : ∀ next, calls.step state action = some next →
    HasReturned (Call.Deletes documentId) next.sessions → next.store.IsDeleted documentId
  corrected : ∀ next, calls.step state action = some next →
    HasReturned (Call.Corrects documentId) state.sessions →
    next.store.textOf documentId ≠ state.store.textOf documentId →
    ∃ index running, action = .advance index () ∧ state.sessions[index]? = some running ∧
      running.call.Corrects documentId

/-- A save of another call than a deletion is made while no deletion has returned, and a save of
another call than a correction, once one has returned, writes the text that is there. -/
def SparesDecisions (documentId : Uuid) (db : DocumentsDb) (others : List Running)
    (running : Running) (_ : Unit) : Prop :=
  ∀ copy, running.stage = .saving copy → running.call.documentId = documentId →
    (HasReturned (Call.Deletes documentId) others → running.call.Deletes documentId) ∧
    (HasReturned (Call.Corrects documentId) others → ¬ running.call.Corrects documentId →
      db.textOf documentId = some (running.call.change copy).extractedText)

/-- What holds in every state: the copies are rows that were not deleted, and deletions that
have returned stay. -/
structure Sound (documentId : Uuid) (state : Sessions.State DocumentsDb Running) : Prop where
  copies : ∀ running ∈ state.sessions, ∀ copy, running.stage = .saving copy →
    copy.id = running.call.documentId ∧ copy.deletedAt = none
  logs : ∀ running ∈ state.sessions, ∀ entry, running.stage = .logging entry →
    ¬ running.call.Deletes documentId
  deleted : HasReturned (Call.Deletes documentId) state.sessions →
    state.store.IsDeleted documentId

variable {db : DocumentsDb} {documentId : Uuid} {state next : Sessions.State DocumentsDb Running}
  {action : Sessions.Action Call Unit} {running : Running} {copy : Document} {index : Nat}
  {kind : Call → Prop} {others : List Running}

/-! ## Sessions -/

theorem hasReturned_cons :
    HasReturned kind (running :: others) ↔
      kind running.call ∧ running.stage = .returned ∨ HasReturned kind others := by
  simp [HasReturned]

theorem hasReturned_perm {sessions : List Running} (perm : sessions.Perm others) :
    HasReturned kind sessions ↔ HasReturned kind others := by
  simp only [HasReturned, perm.mem_iff]

/-- A call that has returned, seen from a session. -/
theorem hasReturned_focus {sessions : List Running} (sessionEq : sessions[index]? = some running) :
    HasReturned kind sessions ↔
      kind running.call ∧ running.stage = .returned ∨
        HasReturned kind (sessions.eraseIdx index) := by
  obtain ⟨inside, rfl⟩ := List.getElem?_eq_some_iff.mp sessionEq
  rw [← hasReturned_cons]
  exact hasReturned_perm (List.getElem_cons_eraseIdx_perm inside).symm

theorem hasReturned_set {sessions : List Running} {after : Running}
    (sessionEq : sessions[index]? = some running) :
    HasReturned kind (sessions.set index after) ↔
      kind after.call ∧ after.stage = .returned ∨ HasReturned kind (sessions.eraseIdx index) := by
  obtain ⟨inside, rfl⟩ := List.getElem?_eq_some_iff.mp sessionEq
  rw [← hasReturned_cons]
  exact hasReturned_perm (List.set_perm_cons_eraseIdx inside after)

/-! ## Saves -/

theorem document?_save {saved : Document} :
    (db.save saved).document? documentId =
      if saved.id = documentId then some saved else db.document? documentId := by
  exact Table.get?_save

theorem textOf_save {saved : Document} :
    (db.save saved).textOf documentId =
      if saved.id = documentId then some saved.extractedText else db.textOf documentId := by
  rw [DocumentsDb.textOf, document?_save]
  split
  · rfl
  · rfl

/-- What a call saves is deleted exactly if the call deletes. -/
theorem change_deleted_iff {call : Call} (own : call.documentId = documentId)
    (alive : copy.deletedAt = none) :
    (call.change copy).deletedAt.isSome ↔ call.Deletes documentId := by
  cases call with
  | softDeleteDocument id user now => exact iff_of_true rfl own
  | updateExtractedText | handlePreprocessResult =>
      rw [Call.change_deletedAt, alive]
      exact iff_of_false nofun not_false

theorem documentId_of_deletes {call : Call} (deletes : call.Deletes documentId) :
    call.documentId = documentId := by
  cases call with
  | softDeleteDocument id user now => exact deletes
  | updateExtractedText | handlePreprocessResult => exact deletes.elim

theorem documentId_of_corrects {call : Call} (corrects : call.Corrects documentId) :
    call.documentId = documentId := by
  cases call with
  | updateExtractedText id text user => exact corrects
  | softDeleteDocument | handlePreprocessResult => exact corrects.elim

/-! ## What a step does -/

/-- A step that neither touches the document nor returns from a deletion respects the
decisions. -/
theorem respects_of_quiet (sound : Sound documentId state)
    (stepEq : calls.step state action = some next)
    (sameRow : next.store.document? documentId = state.store.document? documentId)
    (noNew : HasReturned (Call.Deletes documentId) next.sessions →
      HasReturned (Call.Deletes documentId) state.sessions) :
    Respects documentId state action := by
  constructor
  · intro other otherEq returned
    cases stepEq.symm.trans otherEq
    rw [DocumentsDb.IsDeleted, sameRow]
    exact sound.deleted (noNew returned)
  · intro other otherEq _ changed
    cases stepEq.symm.trans otherEq
    exact absurd (congrArg (Option.map Document.extractedText) sameRow) changed

/-- A save of a call about the document respects the decisions exactly if it meets the
condition. -/
theorem respects_save_iff (sound : Sound documentId state)
    (sessionEq : state.sessions[index]? = some running) (stageEq : running.stage = .saving copy)
    (own : running.call.documentId = documentId)
    (stepEq : calls.step state (.advance index ()) = some next)
    (storeEq : next.store = state.store.save (running.call.change copy))
    (returnedIff : HasReturned (Call.Deletes documentId) next.sessions →
      running.call.Deletes documentId ∨
        HasReturned (Call.Deletes documentId) (state.sessions.eraseIdx index))
    (othersReturned : HasReturned (Call.Deletes documentId) (state.sessions.eraseIdx index) →
      HasReturned (Call.Deletes documentId) next.sessions) :
    Respects documentId state (.advance index ()) ↔
      SparesDecisions documentId state.store (state.sessions.eraseIdx index) running () := by
  have copied := sound.copies running (List.mem_of_getElem? sessionEq) copy stageEq
  have savedId : (running.call.change copy).id = documentId := by
    rw [Call.change_id, copied.1, own]
  have rowEq : next.store.document? documentId = some (running.call.change copy) := by
    rw [storeEq, document?_save, if_pos savedId]
  have textEq : next.store.textOf documentId = some (running.call.change copy).extractedText := by
    rw [storeEq, textOf_save, if_pos savedId]
  have deletedIff := change_deleted_iff own copied.2
  have corrected : HasReturned (Call.Corrects documentId) state.sessions ↔
      HasReturned (Call.Corrects documentId) (state.sessions.eraseIdx index) := by
    rw [hasReturned_focus sessionEq, stageEq]
    simp
  constructor
  · intro respects other otherEq _
    cases stageEq.symm.trans otherEq
    constructor
    · intro returned
      have deleted := respects.deleted next stepEq (othersReturned returned)
      rw [DocumentsDb.IsDeleted, rowEq] at deleted
      exact deletedIff.mp (deleted _ rfl)
    · intro returned notCorrects
      by_contra differs
      have changed : next.store.textOf documentId ≠ state.store.textOf documentId := by
        rw [textEq]
        exact fun same => differs same.symm
      obtain ⟨i, other, actionEq, otherEq, corrects⟩ :=
        respects.corrected next stepEq (corrected.mpr returned) changed
      cases actionEq
      cases sessionEq.symm.trans otherEq
      exact notCorrects corrects
  · intro spares
    obtain ⟨sparesDeleted, sparesCorrected⟩ := spares copy stageEq own
    constructor
    · intro other otherEq returned
      cases stepEq.symm.trans otherEq
      rw [DocumentsDb.IsDeleted, rowEq]
      rintro document ⟨⟩
      apply deletedIff.mpr
      rcases returnedIff returned with deletes | others
      · exact deletes
      · exact sparesDeleted others
    · intro other otherEq returned changed
      cases stepEq.symm.trans otherEq
      refine ⟨index, running, rfl, sessionEq, ?_⟩
      by_contra notCorrects
      apply changed
      rw [textEq, sparesCorrected (corrected.mp returned) notCorrects]

/-- What a step does: a call starts, reads, saves, or ends. -/
theorem calls_step_cases (stepEq : calls.step state action = some next) :
    (∃ call, action = .start call ∧ next = ⟨state.store, state.sessions ++ [⟨call, .reading⟩]⟩) ∨
    (∃ index running store after, action = .advance index () ∧
      state.sessions[index]? = some running ∧ running.next state.store = some (store, after) ∧
      next = ⟨store, state.sessions.set index after⟩) := by
  rcases Sessions.step_cases stepEq with ⟨call, actionEq, nextEq⟩ |
    ⟨index, choice, running, store, after, actionEq, runningEq, advanceEq, nextEq⟩
  · exact Or.inl ⟨call, actionEq, nextEq⟩
  · exact Or.inr ⟨index, running, store, after, actionEq, runningEq, advanceEq, nextEq⟩

/-- One statement of a call: its read, its save, or its last one. -/
theorem next_cases {store : DocumentsDb} {after : Running}
    (nextEq : running.next db = some (store, after)) :
    after.call = running.call ∧
    ((running.stage = .reading ∧ store = db ∧ after.stage ≠ .returned ∧
        (∀ entry, after.stage ≠ .logging entry) ∧
        ∀ copy, after.stage = .saving copy →
          copy.id = running.call.documentId ∧ copy.deletedAt = none) ∨
      (∃ copy, running.stage = .saving copy ∧ store = db.save (running.call.change copy) ∧
        (∀ other, after.stage ≠ .saving other) ∧
        (running.call.audit copy (running.call.change copy) = none ↔ after.stage = .returned) ∧
        ∀ entry, after.stage = .logging entry →
          running.call.audit copy (running.call.change copy) = some entry) ∨
      ∃ entry, running.stage = .logging entry ∧ store.documents = db.documents ∧
        after.stage = .returned) := by
  obtain ⟨call, stage⟩ := running
  cases stage with
  | reading =>
      rw [Running.next] at nextEq
      cases readEq : call.read db with
      | error exception =>
          rw [readEq] at nextEq
          cases nextEq
          exact ⟨rfl, Or.inl ⟨rfl, rfl, nofun, nofun, nofun⟩⟩
      | ok found =>
          cases found with
          | none =>
              rw [readEq] at nextEq
              cases nextEq
              exact ⟨rfl, Or.inl ⟨rfl, rfl, nofun, nofun, nofun⟩⟩
          | some copy =>
              rw [readEq] at nextEq
              cases nextEq
              refine ⟨rfl, Or.inl ⟨rfl, rfl, nofun, nofun, ?_⟩⟩
              rintro other ⟨⟩
              obtain ⟨rowEq, alive⟩ := read_eq_some readEq
              exact ⟨Table.key_of_get? rowEq, alive⟩
  | saving copy =>
      cases nextEq
      refine ⟨rfl, Or.inr (Or.inl ⟨copy, rfl, rfl, ?_, ?_, ?_⟩)⟩
      · intro other
        cases call.audit copy (call.change copy) <;> exact nofun
      · cases call.audit copy (call.change copy) with
        | none => exact iff_of_true rfl rfl
        | some entry => exact iff_of_false nofun nofun
      · intro entry
        cases call.audit copy (call.change copy) with
        | none => exact nofun
        | some own =>
            rintro ⟨⟩
            rfl
  | logging entry =>
      cases nextEq
      exact ⟨rfl, Or.inr (Or.inr ⟨entry, rfl, rfl, rfl⟩)⟩
  | returned | dropped | threw exception => cases nextEq

theorem audit_eq_some {call : Call} {saved : Document} {entry : AuditLog}
    (audited : call.audit copy saved = some entry) : ¬ call.Deletes documentId := by
  cases call with
  | updateExtractedText => exact not_false
  | softDeleteDocument | handlePreprocessResult => cases audited

/-- A call that has started has not returned. -/
theorem hasReturned_start {call : Call} {sessions : List Running}
    (returned : HasReturned kind (sessions ++ [⟨call, .reading⟩])) :
    HasReturned kind sessions := by
  obtain ⟨running, runningMem, holds, stageEq⟩ := returned
  rcases List.mem_append.mp runningMem with old | new
  · exact ⟨running, old, holds, stageEq⟩
  · rw [List.mem_singleton.mp new] at stageEq
    cases stageEq

theorem sound_start {call : Call} (sound : Sound documentId state) :
    Sound documentId ⟨state.store, state.sessions ++ [⟨call, .reading⟩]⟩ := by
  constructor
  · intro running runningMem copy stageEq
    rcases List.mem_append.mp runningMem with old | new
    · exact sound.copies running old copy stageEq
    · rw [List.mem_singleton.mp new] at stageEq
      cases stageEq
  · intro running runningMem entry stageEq
    rcases List.mem_append.mp runningMem with old | new
    · exact sound.logs running old entry stageEq
    · rw [List.mem_singleton.mp new] at stageEq
      cases stageEq
  · intro returned
    exact sound.deleted (hasReturned_start returned)

section

variable {store : DocumentsDb} {after : Running}

/-- The next state is sound if the statement was one that respects the decisions. -/
theorem sound_set (sound : Sound documentId state)
    (copies : ∀ copy, after.stage = .saving copy →
      copy.id = after.call.documentId ∧ copy.deletedAt = none)
    (logs : ∀ entry, after.stage = .logging entry → ¬ after.call.Deletes documentId)
    (stepEq : calls.step state (.advance index ()) =
      some ⟨store, state.sessions.set index after⟩)
    (respects : Respects documentId state (.advance index ())) :
    Sound documentId ⟨store, state.sessions.set index after⟩ := by
  constructor
  · intro other otherMem copy stageEq
    rcases List.mem_or_eq_of_mem_set otherMem with old | rfl
    · exact sound.copies other old copy stageEq
    · exact copies copy stageEq
  · intro other otherMem entry stageEq
    rcases List.mem_or_eq_of_mem_set otherMem with old | rfl
    · exact sound.logs other old entry stageEq
    · exact logs entry stageEq
  · intro returned
    exact respects.deleted _ stepEq returned

/-- A statement that returns from no deletion adds none to those that have returned. -/
theorem hasReturned_of_set (sessionEq : state.sessions[index]? = some running)
    (fails : kind after.call → after.stage ≠ .returned)
    (returned : HasReturned kind (state.sessions.set index after)) :
    HasReturned kind state.sessions := by
  rcases (hasReturned_set sessionEq).mp returned with ⟨holds, stageEq⟩ | old
  · exact absurd stageEq (fails holds)
  · exact (hasReturned_focus sessionEq).mpr (Or.inr old)

/-- The condition is about saves of calls about the document. -/
theorem guard_of_other (sessionEq : state.sessions[index]? = some running)
    (other : ∀ copy, running.stage = .saving copy → running.call.documentId ≠ documentId) :
    Sessions.Guard (fun _ => True) (SparesDecisions documentId) state
      (.advance index () : Sessions.Action Call Unit) := by
  intro session found copy stageEq own
  cases sessionEq.symm.trans found
  exact absurd own (other copy stageEq)

/-- A save respects the decisions exactly if it meets the condition. -/
theorem saving_respects_iff (sound : Sound documentId state)
    (sessionEq : state.sessions[index]? = some running) (stageEq : running.stage = .saving copy)
    (callEq : after.call = running.call)
    (stepEq : calls.step state (.advance index ()) =
      some ⟨state.store.save (running.call.change copy), state.sessions.set index after⟩) :
    Respects documentId state (.advance index ()) ↔
      Sessions.Guard (fun _ => True) (SparesDecisions documentId) state
        (.advance index () : Sessions.Action Call Unit) := by
  by_cases own : running.call.documentId = documentId
  · have saveIff : Respects documentId state (.advance index ()) ↔
        SparesDecisions documentId state.store (state.sessions.eraseIdx index) running () := by
      apply respects_save_iff sound sessionEq stageEq own stepEq rfl
      · intro returned
        rcases (hasReturned_set sessionEq).mp returned with ⟨deletes, _⟩ | old
        · exact Or.inl (callEq ▸ deletes)
        · exact Or.inr old
      · intro old
        exact (hasReturned_set sessionEq).mpr (Or.inr old)
    rw [saveIff]
    constructor
    · intro spares session found
      cases sessionEq.symm.trans found
      exact spares
    · intro guarded
      exact guarded running sessionEq
  · have copied := sound.copies running (List.mem_of_getElem? sessionEq) copy stageEq
    have sameRow : (state.store.save (running.call.change copy)).document? documentId =
        state.store.document? documentId := by
      rw [document?_save, if_neg]
      rw [Call.change_id, copied.1]
      exact own
    apply iff_of_true
    · apply respects_of_quiet sound stepEq sameRow
      apply hasReturned_of_set sessionEq
      intro deletes
      rw [callEq] at deletes
      exact absurd (documentId_of_deletes deletes) own
    · exact guard_of_other sessionEq fun _ _ => own

end

/-- A step respects the decisions exactly if it meets the condition, and then the next state is
as sound as the one before. -/
theorem step_respects_iff (sound : Sound documentId state)
    (stepEq : calls.step state action = some next) :
    (Respects documentId state action ↔
      Sessions.Guard (fun _ => True) (SparesDecisions documentId) state action) ∧
    (Respects documentId state action → Sound documentId next) := by
  rcases calls_step_cases stepEq with ⟨call, rfl, rfl⟩ |
    ⟨index, running, store, after, rfl, runningEq, nextEq, rfl⟩
  · constructor
    · exact iff_of_true (respects_of_quiet sound stepEq rfl hasReturned_start) trivial
    · intro _
      exact sound_start sound
  · obtain ⟨callEq, ⟨stageEq, rfl, notReturned, notLogging, copies⟩ |
      ⟨copy, stageEq, rfl, notSaving, returnedIff, logged⟩ |
      ⟨entry, stageEq, sameEq, returned⟩⟩ := next_cases nextEq
    · have quiet : Respects documentId state (.advance index ()) := by
        apply respects_of_quiet sound stepEq rfl
        exact hasReturned_of_set runningEq fun _ => notReturned
      have guarded : Sessions.Guard (fun _ => True) (SparesDecisions documentId) state
          (.advance index () : Sessions.Action Call Unit) := by
        apply guard_of_other runningEq
        intro copy savingEq
        cases stageEq.symm.trans savingEq
      refine ⟨iff_of_true quiet guarded, sound_set sound ?_ ?_ stepEq⟩
      · rw [callEq]
        exact copies
      · intro entry loggingEq
        exact absurd loggingEq (notLogging entry)
    · refine ⟨saving_respects_iff sound runningEq stageEq callEq stepEq,
        sound_set sound ?_ ?_ stepEq⟩
      · intro other savingEq
        exact absurd savingEq (notSaving other)
      · intro entry loggingEq
        rw [callEq]
        exact audit_eq_some (logged entry loggingEq)
    · have notDeletes : ¬ running.call.Deletes documentId :=
        sound.logs running (List.mem_of_getElem? runningEq) entry stageEq
      have sameRow : store.document? documentId = state.store.document? documentId := by
        rw [DocumentsDb.document?, DocumentsDb.document?, sameEq]
      have quiet : Respects documentId state (.advance index ()) := by
        apply respects_of_quiet sound stepEq sameRow
        apply hasReturned_of_set runningEq
        intro deletes
        rw [callEq] at deletes
        exact absurd deletes notDeletes
      have guarded : Sessions.Guard (fun _ => True) (SparesDecisions documentId) state
          (.advance index () : Sessions.Action Call Unit) := by
        apply guard_of_other runningEq
        intro copy savingEq
        cases stageEq.symm.trans savingEq
      refine ⟨iff_of_true quiet guarded, sound_set sound ?_ ?_ stepEq⟩
      · intro copy savingEq
        cases returned.symm.trans savingEq
      · intro entry loggingEq
        cases returned.symm.trans loggingEq

/-! ## Runs -/

theorem sound_idle (db : DocumentsDb) : Sound documentId (idle db) := by
  constructor
  · intro running runningMem
    cases runningMem
  · intro running runningMem
    cases runningMem
  · rintro ⟨running, runningMem, _⟩
    cases runningMem

/-- A disabled action takes no step that could break a decision, and saves nothing. -/
theorem guard_of_disabled (stepEq : calls.step state action = none) :
    Sessions.Guard (fun _ => True) (SparesDecisions documentId) state action := by
  cases action with
  | start call => trivial
  | advance index choice =>
      intro running runningEq copy stageEq
      have enabled : calls.step state (.advance index choice) ≠ none := by
        rw [Sessions.step, runningEq, Option.bind_some]
        change (running.next state.store).map _ ≠ none
        rw [Running.next, stageEq]
        exact nofun
      exact absurd stepEq enabled

theorem respects_of_disabled (stepEq : calls.step state action = none) :
    Respects documentId state action := by
  constructor
  · intro next nextEq
    cases stepEq.symm.trans nextEq
  · intro next nextEq
    cases stepEq.symm.trans nextEq

/-- An action respects the decisions exactly if it meets the condition. -/
theorem respects_iff_spares (sound : Sound documentId state) :
    Respects documentId state action ↔
      Sessions.Guard (fun _ => True) (SparesDecisions documentId) state action := by
  cases stepEq : calls.step state action with
  | none => exact iff_of_true (respects_of_disabled stepEq) (guard_of_disabled stepEq)
  | some next => exact (step_respects_iff sound stepEq).1

/-- The calls respect the decisions on a document in every step exactly if no call saves over
one: nothing but a deletion is saved once a deletion has returned, and once a correction has
returned, what other calls save has the text that is there. -/
theorem decisions_respected_iff (documentId : Uuid) (db : DocumentsDb)
    (actions : List (Sessions.Action Call Unit)) :
    calls.step.Meets (Respects documentId) (idle db) actions ↔
      calls.step.Meets (Sessions.Guard (fun _ => True) (SparesDecisions documentId)) (idle db)
        actions := by
  have start : Sound documentId (idle db) := sound_idle db
  constructor
  · apply Step.meets_of_meets ?_ ?_ start
    · intro state action next sound respects stepEq
      exact (step_respects_iff sound stepEq).2 respects
    · intro state action sound respects
      exact (respects_iff_spares sound).mp respects
  · apply Step.meets_of_meets ?_ ?_ start
    · intro state action next sound spares stepEq
      have both := step_respects_iff sound stepEq
      exact both.2 (both.1.mpr spares)
    · intro state action sound spares
      exact (respects_iff_spares sound).mpr spares

/-- The document that the examples are about. -/
def scanned : DocumentsDb where
  documents := [
    { id := uuid "d", workflowId := some (uuid "w"), sessionId := none, filename := "orders.pdf"
      fileType := "pdf", storageUrl := "s3://documents/d", fileSizeBytes := 12
      extractedText := none, preprocessingConfidence := none, docVersion := 1
      deletedAt := none, archivedAt := none }]
  workflows := [⟨uuid "w", uuid "acme"⟩]
  auditLogs := []

/-- A user corrects the text, and then the result of the worker arrives. -/
def correctedThenScanned : List (Sessions.Action Call Unit) :=
  [.start (.updateExtractedText (uuid "d") "total 10" ⟨uuid "alice", uuid "acme", "admin"⟩),
    .advance 0 (), .advance 0 (), .advance 0 (),
    .start (.handlePreprocessResult ⟨uuid "d", "total 1O", none⟩), .advance 1 ()]

/-- The result is saved over the correction. -/
theorem correction_lost :
    ¬ ∀ documentId db actions, calls.step.Meets (Respects documentId) (idle db) actions := by
  intro all
  have traced : (calls.step.run (idle scanned) correctedThenScanned).isSome := by
    decide +kernel
  obtain ⟨state, runEq⟩ := Option.isSome_iff_exists.mp traced
  have respects : Respects (uuid "d") state (.advance 1 ()) :=
    ((Step.meets_append.mp (all (uuid "d") scanned (correctedThenScanned ++ [.advance 1 ()]))).2
      state runEq).1
  have returned : HasReturned (Call.Corrects (uuid "d")) state.sessions := by
    cases runEq
    exact ⟨_, List.mem_cons_self .., rfl, rfl⟩
  cases runEq
  obtain ⟨index, running, actionEq, runningEq, corrects⟩ :=
    respects.corrected _ rfl returned (by decide +kernel)
  cases actionEq
  cases runningEq
  exact corrects

end Manbaa.Documents
