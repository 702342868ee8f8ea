import Manbaa.Outbox.Delivery

/-!
# Events under leases

A publisher holds the events of its batch under leases.  As long as no lease of an event that is
held runs out, and no answer is lost between publishing an event and marking it, the broker gets
each event at most once.
-/

namespace Manbaa.Outbox

open Manbaa.Lib

/-! ## Orderly steps -/

/-- The events of a batch that its publisher has not published. -/
def Batch.unsent : Batch → List OutboxEvent
  | ⟨.mark, events⟩ => events.tail
  | ⟨.publish, events⟩ | ⟨.record _, events⟩ => events

/-- The event that a publisher has published and is to mark. -/
def Batch.sent : Batch → Option OutboxEvent
  | ⟨.mark, events⟩ => events.head?
  | ⟨.publish, _⟩ | ⟨.record _, _⟩ => none

/-- A call is answered. -/
def Outcome.isAnswered : Outcome → Bool
  | .unanswered _ => false
  | .returns | .fails _ => true

/-- The answer to a publication is not lost, the mark that follows succeeds, and the publisher does
not die between the two. -/
def Batch.isAnswered : Batch → Option Choice → Bool
  | batch, none => batch.sent.isNone
  | ⟨.publish, _⟩, some choice => choice.outcome.isAnswered
  | ⟨.mark, _⟩, some choice => choice.outcome == .returns
  | ⟨.record _, _⟩, some _ => true

/-- An id is new, no lease of an event that a publisher still holds has run out when events are
claimed, and answers are not lost. -/
def isOrderly (readUuid : String → Option Uuid) (state : Sessions.State OutboxStore Batch) :
    Sessions.Action OutboxRequest (Option Choice) → Bool
  | .start (.create creation) =>
      (creation.event readUuid).toOption.all fun event => (state.store.event? event.id).isNone
  | .start (.work (.publishBatch now _ _)) =>
      state.sessions.all fun batch => batch.events.all fun event => decide (now < event.availableAt)
  | .start (.work (.reprocessFailed _ _)) => true
  | .advance index choice => state.sessions[index]?.all fun batch => batch.isAnswered choice

/-- Publishers hold different events, each under its lease, and the broker has got an event once
if it is marked as published or about to be, and not at all if it is held unpublished. -/
structure Exclusive (store : OutboxStore) (batches : List Batch) : Prop where
  keyed : store.Keyed
  once : (store.messages.map Message.msgId).Nodup
  apart : ((batches.flatMap Batch.events).map OutboxEvent.id).Nodup
  leased : ∀ batch ∈ batches, ∀ event ∈ batch.events, ∃ row, store.event? event.id = some row ∧
    row.status = .publishing ∧ row.availableAt = event.availableAt
  unsent : ∀ batch ∈ batches, ∀ event ∈ batch.unsent, ∀ message ∈ store.messages,
    message.msgId ≠ event.id
  settled : ∀ message ∈ store.messages,
    (∃ row, store.event? message.msgId = some row ∧ row.status = .published) ∨
      ∃ batch ∈ batches, ∃ event ∈ batch.sent, event.id = message.msgId

variable {readUuid : String → Option Uuid} {store target : OutboxStore} {event row : OutboxEvent}
  {batch next : Batch} {batches others : List Batch} {id : Uuid}

theorem Batch.sublist_unsent (batch : Batch) : batch.unsent.Sublist batch.events := by
  obtain ⟨stage, events⟩ := batch
  cases stage with
  | publish => exact List.Sublist.refl _
  | mark => exact List.tail_sublist events
  | record text => exact List.Sublist.refl _

theorem Batch.mem_of_sent (isSent : event ∈ batch.sent) : event ∈ batch.events := by
  obtain ⟨stage, events⟩ := batch
  cases stage with
  | publish => cases isSent
  | mark => exact List.mem_of_head? isSent
  | record text => cases isSent

/-- The order of the publishers does not matter. -/
theorem Exclusive.perm (exclusive : Exclusive store batches) (perm : batches.Perm others) :
    Exclusive store others where
  keyed := exclusive.keyed
  once := exclusive.once
  apart := ((perm.flatMap_right _).map _).nodup_iff.mp exclusive.apart
  leased := fun batch batchMem => exclusive.leased batch (perm.mem_iff.mpr batchMem)
  unsent := fun batch batchMem => exclusive.unsent batch (perm.mem_iff.mpr batchMem)
  settled := by
    intro message messageMem
    rcases exclusive.settled message messageMem with published | ⟨batch, batchMem, isSent⟩
    · exact Or.inl published
    · exact Or.inr ⟨batch, perm.mem_iff.mp batchMem, isSent⟩

/-- A change of rows that are neither held nor marked. -/
theorem Exclusive.untouched (exclusive : Exclusive store batches) (keyed : target.Keyed)
    (messages : target.messages = store.messages)
    (kept : ∀ id row, store.event? id = some row → (row.status = .published ∨
      ∃ batch ∈ batches, ∃ event ∈ batch.events, event.id = id) → target.event? id = some row) :
    Exclusive target batches where
  keyed := keyed
  once := messages ▸ exclusive.once
  apart := exclusive.apart
  leased := by
    intro batch batchMem event eventMem
    obtain ⟨row, rowEq, isLeased⟩ := exclusive.leased batch batchMem event eventMem
    exact ⟨row, kept event.id row rowEq (Or.inr ⟨batch, batchMem, event, eventMem, rfl⟩), isLeased⟩
  unsent := messages ▸ exclusive.unsent
  settled := by
    intro message messageMem
    rw [messages] at messageMem
    rcases exclusive.settled message messageMem with ⟨row, rowEq, published⟩ | isSent
    · exact Or.inl ⟨row, kept _ row rowEq (Or.inl published), published⟩
    · exact Or.inr isSent

/-- A publisher gives up events that it has not published. -/
theorem Exclusive.release (exclusive : Exclusive store (batch :: others))
    (fewer : next.events.Sublist batch.events) (unsent : ∀ event ∈ next.unsent, event ∈ batch.unsent)
    (noneSent : batch.sent = none) : Exclusive store (next :: others) where
  keyed := exclusive.keyed
  once := exclusive.once
  apart := by
    have sublist : ((next :: others).flatMap Batch.events).Sublist
        ((batch :: others).flatMap Batch.events) := by
      rw [List.flatMap_cons, List.flatMap_cons]
      exact fewer.append_right _
    exact exclusive.apart.sublist (sublist.map _)
  leased := by
    obtain ⟨ofBatch, ofOthers⟩ := List.forall_mem_cons.mp exclusive.leased
    refine List.forall_mem_cons.mpr ⟨?_, ofOthers⟩
    exact fun event eventMem => ofBatch event (fewer.subset eventMem)
  unsent := by
    obtain ⟨ofBatch, ofOthers⟩ := List.forall_mem_cons.mp exclusive.unsent
    refine List.forall_mem_cons.mpr ⟨?_, ofOthers⟩
    exact fun event eventMem => ofBatch event (unsent event eventMem)
  settled := by
    intro message messageMem
    rcases exclusive.settled message messageMem with published | ⟨other, otherMem, isSent⟩
    · exact Or.inl published
    · rcases List.mem_cons.mp otherMem with rfl | otherMem
      · obtain ⟨event, eventSent, _⟩ := isSent
        rw [noneSent] at eventSent
        cases eventSent
      · exact Or.inr ⟨other, List.mem_cons_of_mem _ otherMem, isSent⟩

/-- The ids of the events that a publisher holds behind the first, and of those that others hold. -/
theorem Exclusive.head_apart {stage : Stage} {rest : List OutboxEvent}
    (exclusive : Exclusive store (⟨stage, event :: rest⟩ :: others)) :
    (∀ held ∈ rest, held.id ≠ event.id) ∧
      ∀ batch ∈ others, ∀ held ∈ batch.events, held.id ≠ event.id := by
  obtain ⟨notHeld, _⟩ := List.nodup_cons.mp exclusive.apart
  constructor
  · intro held heldMem sameId
    exact notHeld (sameId ▸ List.mem_map_of_mem (List.mem_append_left _ heldMem))
  · intro batch batchMem held heldMem sameId
    have heldByOthers := List.mem_flatMap.mpr ⟨batch, batchMem, heldMem⟩
    exact notHeld (sameId ▸ List.mem_map_of_mem (List.mem_append_right _ heldByOthers))

/-- The broker takes an event, which its publisher is about to mark. -/
theorem Exclusive.publish {rest : List OutboxEvent}
    (exclusive : Exclusive store (⟨.publish, event :: rest⟩ :: others)) :
    Exclusive { store with messages := store.messages ++ [event.message] }
      (⟨.mark, event :: rest⟩ :: others) := by
  obtain ⟨restApart, othersApart⟩ := exclusive.head_apart
  obtain ⟨ofBatch, ofOthers⟩ := List.forall_mem_cons.mp exclusive.unsent
  constructor
  · exact exclusive.keyed
  · change ((store.messages ++ [event.message]).map Message.msgId).Nodup
    rw [List.map_append, List.map_singleton]
    apply List.Nodup.append exclusive.once (List.nodup_singleton _)
    rw [List.disjoint_singleton]
    intro taken
    obtain ⟨message, messageMem, sameId⟩ := List.mem_map.mp taken
    exact ofBatch event List.mem_cons_self message messageMem sameId
  · exact exclusive.apart
  · obtain ⟨leased, othersLeased⟩ := List.forall_mem_cons.mp exclusive.leased
    exact List.forall_mem_cons.mpr ⟨leased, othersLeased⟩
  · refine List.forall_mem_cons.mpr ⟨?_, ?_⟩
    · intro held heldMem message messageMem
      rcases List.mem_append.mp messageMem with old | new
      · exact ofBatch held (List.mem_cons_of_mem _ heldMem) message old
      · rw [List.mem_singleton.mp new]
        exact (restApart held heldMem).symm
    · intro batch batchMem held heldMem message messageMem
      rcases List.mem_append.mp messageMem with old | new
      · exact ofOthers batch batchMem held heldMem message old
      · rw [List.mem_singleton.mp new]
        exact (othersApart batch batchMem held (batch.sublist_unsent.subset heldMem)).symm
  · intro message messageMem
    rcases List.mem_append.mp messageMem with old | new
    · rcases exclusive.settled message old with published | ⟨batch, batchMem, held, isSent, sameId⟩
      · exact Or.inl published
      · rcases List.mem_cons.mp batchMem with rfl | batchMem
        · cases isSent
        · exact Or.inr ⟨batch, List.mem_cons_of_mem _ batchMem, held, isSent, sameId⟩
    · rw [List.mem_singleton.mp new]
      exact Or.inr ⟨_, List.mem_cons_self, event, rfl, rfl⟩

/-- A publisher writes the row of its first event, and goes on with the rest: it marks what it has
published, or it has published nothing. -/
theorem Exclusive.finish {stage : Stage} {rest : List OutboxEvent}
    {change : OutboxEvent → OutboxEvent}
    (exclusive : Exclusive store (⟨stage, event :: rest⟩ :: others))
    (sameId : ∀ row, (change row).id = row.id)
    (marks : stage = .mark → ∀ row, (change row).status = .published) :
    Exclusive (store.update (fun row => row.id == event.id) change)
      (⟨.publish, rest⟩ :: others) := by
  obtain ⟨restApart, othersApart⟩ := exclusive.head_apart
  obtain ⟨ofBatch, ofOthers⟩ := List.forall_mem_cons.mp exclusive.leased
  obtain ⟨batchUnsent, othersUnsent⟩ := List.forall_mem_cons.mp exclusive.unsent
  have kept : ∀ id row, id ≠ event.id → store.event? id = some row →
      (store.update (fun row => row.id == event.id) change).event? id = some row := by
    intro id row ne rowEq
    have otherRow : ¬ (row.id == event.id) = true := by
      rw [beq_iff_eq, Table.key_of_get? rowEq]
      exact ne
    rw [event?_update sameId, rowEq, Option.map_some, if_neg otherRow]
  have leasedKept : ∀ held : OutboxEvent, held.id ≠ event.id → (∃ row, store.event? held.id = some row ∧
      row.status = .publishing ∧ row.availableAt = held.availableAt) →
      ∃ row, (store.update (fun row => row.id == event.id) change).event? held.id = some row ∧
        row.status = .publishing ∧ row.availableAt = held.availableAt := by
    rintro held ne ⟨row, rowEq, isLeased⟩
    exact ⟨row, kept held.id row ne rowEq, isLeased⟩
  constructor
  · exact keyed_update exclusive.keyed sameId
  · exact exclusive.once
  · exact (List.nodup_cons.mp exclusive.apart).2
  · refine List.forall_mem_cons.mpr ⟨?_, ?_⟩
    · intro held heldMem
      exact leasedKept held (restApart held heldMem) (ofBatch held (List.mem_cons_of_mem _ heldMem))
    · intro batch batchMem held heldMem
      exact leasedKept held (othersApart batch batchMem held heldMem)
        (ofOthers batch batchMem held heldMem)
  · refine List.forall_mem_cons.mpr ⟨?_, othersUnsent⟩
    intro held heldMem
    apply batchUnsent held
    cases stage with
    | publish => exact List.mem_cons_of_mem _ heldMem
    | mark => exact heldMem
    | record text => exact List.mem_cons_of_mem _ heldMem
  · intro message messageMem
    obtain ⟨held, heldEq, isPublishing, _⟩ := ofBatch event List.mem_cons_self
    rcases exclusive.settled message messageMem with ⟨row, rowEq, published⟩ |
      ⟨batch, batchMem, sent, isSent, sentId⟩
    · by_cases same : message.msgId = event.id
      · rw [same, heldEq] at rowEq
        cases rowEq
        cases isPublishing.symm.trans published
      · exact Or.inl ⟨row, kept _ row same rowEq, published⟩
    · rcases List.mem_cons.mp batchMem with rfl | batchMem
      · cases stage with
        | publish => cases isSent
        | record text => cases isSent
        | mark =>
            cases isSent
            have isHeld : (held.id == event.id) = true :=
              beq_iff_eq.mpr (Table.key_of_get? heldEq)
            refine Or.inl ⟨change held, ?_, marks rfl held⟩
            rw [← sentId, event?_update sameId, heldEq, Option.map_some, if_pos isHeld]
      · exact Or.inr ⟨batch, List.mem_cons_of_mem _ batchMem, sent, isSent, sentId⟩

/-- What an answered statement of a publisher leaves. -/
theorem Exclusive.advance {choice : Choice} (exclusive : Exclusive store (batch :: others))
    (answered : batch.isAnswered (some choice) = true)
    (advanceEq : Outbox.advance store others batch choice = some (target, next)) :
    Exclusive target (next :: others) := by
  obtain ⟨stage, events⟩ := batch
  obtain ⟨outcome, clock⟩ := choice
  cases events with
  | nil => cases advanceEq
  | cons event rest =>
      cases stage with
      | publish =>
          cases outcome with
          | returns =>
              cases advanceEq
              exact exclusive.publish
          | fails text =>
              cases advanceEq
              exact exclusive.release (List.Sublist.refl _) (fun _ => id) rfl
          | unanswered text => cases answered
      | mark =>
          cases beq_iff_eq.mp answered
          cases advanceEq
          exact exclusive.finish (fun _ => rfl) fun _ _ => rfl
      | record text =>
          have recorded : Exclusive (store.recordFailure event text clock)
              (⟨.publish, rest⟩ :: others) := exclusive.finish (fun _ => rfl) nofun
          have noEvents : ∀ held ∈ Batch.unsent ⟨.publish, []⟩, False :=
            fun _ heldMem => List.not_mem_nil heldMem
          cases outcome with
          | returns =>
              cases advanceEq
              exact recorded
          | fails _ =>
              cases advanceEq
              exact exclusive.release (List.nil_sublist _)
                (fun held heldMem => (noEvents held heldMem).elim) rfl
          | unanswered _ =>
              cases advanceEq
              exact recorded.release (List.nil_sublist _)
                (fun held heldMem => (noEvents held heldMem).elim) rfl

/-- A service creates an event under a new id. -/
theorem Exclusive.save (exclusive : Exclusive store batches)
    (isNew : store.event? event.id = none) : Exclusive (store.save event) batches := by
  apply exclusive.untouched
  · exact Table.keyed_save exclusive.keyed
  · rfl
  · intro id row rowEq _
    have other : event.id ≠ id := by
      rintro rfl
      cases isNew.symm.trans rowEq
    rw [OutboxStore.event?, OutboxStore.save, Table.get?_save, if_neg other]
    exact rowEq

/-- A failed event is to be published again. -/
theorem Exclusive.reprocessFailed (exclusive : Exclusive store batches) (clock : Nat) :
    Exclusive (Outbox.reprocessFailed store id clock) batches := by
  apply exclusive.untouched
  · exact keyed_update exclusive.keyed (by exact fun _ => rfl)
  · rfl
  · intro other row rowEq isKept
    have notFailed : row.status ≠ .failed := by
      rcases isKept with published | ⟨batch, batchMem, event, eventMem, rfl⟩
      · simp [published]
      · obtain ⟨leasedRow, leasedEq, isPublishing, _⟩ := exclusive.leased batch batchMem event eventMem
        cases leasedEq.symm.trans rowEq
        simp [isPublishing]
    have notMeant : ¬ (row.id == id && row.status == .failed) = true := by
      rw [Bool.and_eq_true, beq_iff_eq, beq_iff_eq]
      exact fun meant => notFailed meant.2
    rw [Outbox.reprocessFailed, event?_update (by exact fun _ => rfl), rowEq, Option.map_some,
      if_neg notMeant]

/-- A publisher claims events while no lease of an event that is held has run out. -/
theorem Exclusive.claim {now clock : Nat} {locked : List Uuid} (exclusive : Exclusive store batches)
    (inTime : ∀ batch ∈ batches, ∀ event ∈ batch.events, now < event.availableAt) :
    Exclusive (Outbox.claim store now clock locked).1
      (⟨.publish, (Outbox.claim store now clock locked).2⟩ :: batches) := by
  let ids := ((store.claimable now locked).take 20).map OutboxEvent.id
  let claimed := (Outbox.claim store now clock locked).1
  have claimable : ∀ row, store.event? row.id = some row → ids.contains row.id = true →
      row.isClaimable now = true := by
    intro row rowEq taken
    obtain ⟨other, otherMem, sameId⟩ := List.mem_map.mp (List.contains_iff_mem.mp taken)
    obtain ⟨storedMem, isClaimable, _⟩ := mem_claimable_iff.mp (List.mem_of_mem_take otherMem)
    obtain rfl := exclusive.keyed.eq storedMem (Table.mem_of_get? rowEq) sameId
    exact isClaimable
  have notHeld : ∀ batch ∈ batches, ∀ event ∈ batch.events, ids.contains event.id = false := by
    intro batch batchMem event eventMem
    obtain ⟨row, rowEq, _, sameLease⟩ := exclusive.leased batch batchMem event eventMem
    apply Bool.eq_false_iff.mpr
    intro taken
    have rowId : row.id = event.id := Table.key_of_get? rowEq
    rw [← rowId] at rowEq taken
    have available := (isClaimable_iff.mp (claimable row rowEq taken)).2.1
    have unexpired := inTime batch batchMem event eventMem
    omega
  have notPublished : ∀ id row, store.event? id = some row → row.status = .published →
      ids.contains id = false := by
    intro id row rowEq published
    apply Bool.eq_false_iff.mpr
    intro taken
    obtain rfl : row.id = id := Table.key_of_get? rowEq
    exact (isClaimable_iff.mp (claimable row rowEq taken)).1 published
  have keyed : claimed.Keyed := keyed_update exclusive.keyed (by exact fun _ => rfl)
  have others : Exclusive claimed batches := by
    apply exclusive.untouched keyed rfl
    intro id row rowEq isKept
    have notTaken : ids.contains row.id = false := by
      rw [show row.id = id from Table.key_of_get? rowEq]
      rcases isKept with published | ⟨batch, batchMem, event, eventMem, rfl⟩
      · exact notPublished id row rowEq published
      · exact notHeld batch batchMem event eventMem
    change (store.update _ _).event? id = some row
    rw [event?_update (by exact fun _ => rfl), rowEq, Option.map_some,
      if_neg (Bool.eq_false_iff.mp notTaken)]
  have isTaken : ∀ event ∈ (Outbox.claim store now clock locked).2,
      event ∈ claimed.events ∧ ids.contains event.id = true := by
    intro event eventMem
    exact List.mem_filter.mp eventMem
  constructor
  · exact keyed
  · exact exclusive.once
  · rw [List.flatMap_cons, List.map_append]
    apply List.Nodup.append
    · exact keyed.sublist (List.filter_sublist.map _)
    · exact exclusive.apart
    · intro id inClaimed inHeld
      obtain ⟨event, eventMem, rfl⟩ := List.mem_map.mp inClaimed
      obtain ⟨held, heldMem, sameId⟩ := List.mem_map.mp inHeld
      obtain ⟨batch, batchMem, heldMem⟩ := List.mem_flatMap.mp heldMem
      have free := notHeld batch batchMem held heldMem
      rw [sameId, (isTaken event eventMem).2] at free
      cases free
  · refine List.forall_mem_cons.mpr ⟨?_, others.leased⟩
    intro event eventMem
    obtain ⟨storedMem, taken⟩ := isTaken event eventMem
    refine ⟨event, keyed.get?_of_mem storedMem, ?_, rfl⟩
    obtain ⟨before, _, rfl⟩ := mem_update_iff.mp storedMem
    split
    · rfl
    · rename_i notMeant
      rw [if_neg notMeant] at taken
      exact absurd taken notMeant
  · refine List.forall_mem_cons.mpr ⟨?_, others.unsent⟩
    intro event eventMem message messageMem sameId
    obtain ⟨_, taken⟩ := isTaken event eventMem
    rcases exclusive.settled message messageMem with ⟨row, rowEq, published⟩ |
      ⟨batch, batchMem, sent, isSent, sentId⟩
    · have free := notPublished _ row rowEq published
      rw [sameId, taken] at free
      cases free
    · have free := notHeld batch batchMem sent (Batch.mem_of_sent isSent)
      rw [sentId, sameId, taken] at free
      cases free
  · intro message messageMem
    rcases others.settled message messageMem with published | ⟨batch, batchMem, isSent⟩
    · exact Or.inl published
    · exact Or.inr ⟨batch, List.mem_cons_of_mem _ batchMem, isSent⟩

variable {state reached : Sessions.State OutboxStore Batch}
  {action : Sessions.Action OutboxRequest (Option Choice)}

/-- An orderly step of the system. -/
theorem Exclusive.step (exclusive : Exclusive state.store state.sessions)
    (orderly : isOrderly readUuid state action = true)
    (stepEq : (outbox readUuid).step state action = some reached) :
    Exclusive reached.store reached.sessions := by
  rcases Sessions.step_cases stepEq with ⟨request, rfl, rfl⟩ |
    ⟨index, choice?, batch, target, next, rfl, batchEq, advanceEq, rfl⟩
  · cases request with
    | create creation =>
        cases eventEq : creation.event readUuid with
        | error error =>
            rw [start_create_error eventEq]
            exact exclusive.perm (List.append_nil _ ▸ List.Perm.refl _)
        | ok event =>
            rw [start_create_ok eventEq]
            have isNew : (state.store.event? event.id).isNone = true := by
              simpa [isOrderly, eventEq, Except.toOption] using orderly
            exact (exclusive.save (Option.isNone_iff_eq_none.mp isNew)).perm
              (List.append_nil _ ▸ List.Perm.refl _)
    | work request =>
        cases request with
        | publishBatch now clock locked =>
            have inTime : ∀ batch ∈ state.sessions, ∀ event ∈ batch.events,
                now < event.availableAt := by
              intro batch batchMem event eventMem
              have heldInTime := List.all_eq_true.mp orderly batch batchMem
              exact of_decide_eq_true (List.all_eq_true.mp heldInTime event eventMem)
            exact (exclusive.claim inTime).perm
              (List.perm_append_singleton _ _).symm
        | reprocessFailed id clock =>
            exact (exclusive.reprocessFailed clock).perm (List.append_nil _ ▸ List.Perm.refl _)
  · obtain ⟨inside, rfl⟩ := List.getElem?_eq_some_iff.mp batchEq
    have focused := exclusive.perm (List.getElem_cons_eraseIdx_perm inside).symm
    have answered : state.sessions[index].isAnswered choice? = true := by
      simpa [isOrderly, batchEq] using orderly
    have advanced : Exclusive target (next :: state.sessions.eraseIdx index) := by
      cases choice? with
      | none =>
          cases advanceEq
          exact focused.release (List.nil_sublist _)
            (fun _ heldMem => absurd heldMem List.not_mem_nil)
            (Option.isNone_iff_eq_none.mp answered)
      | some choice => exact focused.advance answered advanceEq
    exact advanced.perm (List.set_perm_cons_eraseIdx inside next).symm

end Manbaa.Outbox
