import Manbaa.Lib.Except
import Manbaa.Lib.JsonFields
import Manbaa.Outbox.Publisher

/-!
# What the outbox delivers

Services create events in the transactions that the events are about, and publishers hand them to
the broker.  The broker gets created events only, each under the id that its payload names, and an
event is marked as published only if the broker has it.
-/

namespace Manbaa.Outbox

open Manbaa.Lib

/-! ## Creating events -/

/-- The fields of a payload that may hold the id of its event. -/
inductive EventIdField where
  | eventId
  | event_id
  deriving DecidableEq

/-- The name of a field. -/
def EventIdField.name : EventIdField → String
  | .eventId => "eventId"
  | .event_id => "event_id"

/-- The other field. -/
def EventIdField.alternate : EventIdField → EventIdField
  | .eventId => .event_id
  | .event_id => .eventId

/-- `OutboxCreateInput`, as far as publishers use it. -/
structure OutboxCreateInput where
  eventType : String
  payload : Json.Fields

/-- `OutboxCreateOptions`. -/
structure OutboxCreateOptions where
  eventId : Option String
  eventIdField : Option EventIdField

/-- A call of `create`: with what it would draw at random, and the time by the clock of the
service and by that of the database. -/
structure Creation where
  input : OutboxCreateInput
  options : OutboxCreateOptions
  randomUuid : String
  clock : Nat
  now : Nat

/-- The field that is to hold the id. -/
def Creation.eventIdField (creation : Creation) : EventIdField :=
  creation.options.eventIdField.getD .eventId

/-- The id that the payload holds. -/
def Creation.existingEventId (creation : Creation) : Except Exception (Option String) :=
  match creation.input.payload.lookup creation.eventIdField.name with
  | none => .ok none
  | some (.str text) => .ok (some text)
  | some _ =>
      .error (.error ("Outbox payload " ++ creation.eventIdField.name ++ " must be a string"))

/-- The id of the event that is created. -/
def Creation.id (creation : Creation) : Except Exception String := do
  let existingEventId ← creation.existingEventId
  let id := creation.options.eventId.getD (existingEventId.getD creation.randomUuid)
  check (existingEventId.all fun text => text == id)
    (.error "Outbox event ID conflicts with the payload event ID")
  let alternateId := creation.input.payload.lookup creation.eventIdField.alternate.name
  check (alternateId.all fun value => value == .str id)
    (.error "Outbox payload contains two different logical event IDs")
  pure id

variable (readUuid : String → Option Uuid)

/-- The row that `create` saves; the text of an id is read as a column does. -/
def Creation.event (creation : Creation) : Except Exception OutboxEvent := do
  let text ← creation.id
  let id ← lookUp (readUuid text) (.error ("invalid input syntax for type uuid: \"" ++ text ++ "\""))
  pure {
    id := id
    eventType := creation.input.eventType
    payload := .obj (Json.setField creation.input.payload creation.eventIdField.name (.str text))
    status := .pending
    attemptCount := 0
    availableAt := creation.clock
    publishedAt := none
    lastError := none
    createdAt := creation.now }

/-- The save of a row that is created, over one with its id if there is one. -/
def OutboxStore.save (store : OutboxStore) (event : OutboxEvent) : OutboxStore :=
  let createdAt := (store.event? event.id).elim event.createdAt OutboxEvent.createdAt
  { store with
    events := Table.save OutboxEvent.id store.events { event with createdAt := createdAt } }

/-- A service creates an event, or a publisher is called. -/
inductive OutboxRequest where
  | create (creation : Creation)
  | work (request : Request)

/-- Services and publishers beside each other.  A publisher takes its next statement, or dies. -/
def outbox : Sessions OutboxStore Batch OutboxRequest (Option Choice) where
  start store
    | .create creation =>
        match creation.event readUuid with
        | .ok event => (store.save event, none)
        | .error _ => (store, none)
    | .work request => publishers.start store request
  advance store others batch
    | some choice => Outbox.advance store others batch choice
    | none => some (store, ⟨.publish, []⟩)

/-! ## What is created -/

/-- What is published of an event. -/
def OutboxEvent.message (event : OutboxEvent) : Message :=
  ⟨event.eventType, event.payload, event.id⟩

/-- A message is that of an event that was created. -/
def Message.IsCreated (asked : Creation → Prop) (message : Message) : Prop :=
  ∃ creation event, asked creation ∧ creation.event readUuid = .ok event ∧ event.message = message

/-- The payload of a message names the id of the message, and no other. -/
def Message.NamesItself (message : Message) : Prop :=
  ∃ payload field text, message.payload = .obj payload ∧
    payload.lookup (EventIdField.name field) = some (.str text) ∧
    readUuid text = some message.msgId ∧
    ∀ value, payload.lookup field.alternate.name = some value → value = .str text

/-- No two events are created under one id. -/
def IdsUsedOnce (asked : Creation → Prop) : Prop :=
  ∀ first second event other, asked first → asked second → first.event readUuid = .ok event →
    second.event readUuid = .ok other → event.id = other.id → first = second

variable {readUuid} {asked : Creation → Prop} {store : OutboxStore} {creation : Creation}
  {event : OutboxEvent} {message other : Message} {batch : Batch}

theorem EventIdField.name_alternate_ne (field : EventIdField) : field.alternate.name ≠ field.name := by
  cases field <;> decide

/-- A created event names itself. -/
theorem Creation.event_namesItself (eventEq : creation.event readUuid = .ok event) :
    event.message.NamesItself readUuid := by
  obtain ⟨text, textEq, restEq⟩ := except_bind_eq_ok_iff.mp eventEq
  obtain ⟨id, idEq, pairEq⟩ := except_bind_eq_ok_iff.mp restEq
  cases pairEq
  obtain ⟨existingText, _, checksEq⟩ := except_bind_eq_ok_iff.mp textEq
  obtain ⟨_, _, laterEq⟩ := except_bind_eq_ok_iff.mp checksEq
  obtain ⟨_, sameId, pureEq⟩ := except_bind_eq_ok_iff.mp laterEq
  cases pureEq
  refine ⟨_, creation.eventIdField, _, rfl, ?_, lookUp_eq_ok_iff.mp idEq, ?_⟩
  · rw [Json.lookup_setField, if_pos rfl]
  · intro value valueEq
    rw [Json.lookup_setField, if_neg creation.eventIdField.name_alternate_ne] at valueEq
    have alternateOk := check_eq_ok_iff.mp sameId
    rw [valueEq] at alternateOk
    exact beq_iff_eq.mp alternateOk

theorem Message.IsCreated.namesItself (created : message.IsCreated readUuid asked) :
    message.NamesItself readUuid := by
  obtain ⟨creation, event, _, eventEq, rfl⟩ := created
  exact creation.event_namesItself eventEq

/-- Where ids are used once, an id tells what was created. -/
theorem Message.IsCreated.eq (once : IdsUsedOnce readUuid asked)
    (created : message.IsCreated readUuid asked) (otherCreated : other.IsCreated readUuid asked)
    (sameId : message.msgId = other.msgId) : message = other := by
  obtain ⟨first, event, firstAsked, eventEq, rfl⟩ := created
  obtain ⟨second, another, secondAsked, anotherEq, rfl⟩ := otherCreated
  obtain rfl := once first second event another firstAsked secondAsked eventEq anotherEq sameId
  cases eventEq.symm.trans anotherEq
  rfl

/-! ## What is published -/

/-- All that is stored or published was created, and what is marked as published is published. -/
structure OutboxStore.Accounted (readUuid : String → Option Uuid) (asked : Creation → Prop)
    (store : OutboxStore) : Prop where
  rows : ∀ event ∈ store.events, event.message.IsCreated readUuid asked
  messages : ∀ message ∈ store.messages, message.IsCreated readUuid asked
  published : ∀ event ∈ store.events, event.status = .published →
    ∃ message ∈ store.messages, message.msgId = event.id

/-- A publisher holds events that were created, and marks one that it has published. -/
structure Batch.Grounded (readUuid : String → Option Uuid) (asked : Creation → Prop)
    (store : OutboxStore) (batch : Batch) : Prop where
  events : ∀ event ∈ batch.events, event.message.IsCreated readUuid asked
  marks : batch.stage = .mark → ∀ event ∈ batch.events.head?,
    ∃ message ∈ store.messages, message.msgId = event.id

theorem mem_update_iff {meant : OutboxEvent → Bool} {change : OutboxEvent → OutboxEvent} :
    event ∈ (store.update meant change).events ↔
      ∃ before ∈ store.events, (if meant before then change before else before) = event :=
  List.mem_map

/-- A statement keeps the store accounted for, if it keeps what is published of the rows that are
meant, and marks none of which the broker has no message. -/
theorem OutboxStore.Accounted.update (accounted : store.Accounted readUuid asked)
    {meant : OutboxEvent → Bool} {change : OutboxEvent → OutboxEvent}
    (same : ∀ event, (change event).message = event.message)
    (marked : ∀ event, meant event = true → (change event).status = .published →
      ∃ message ∈ store.messages, message.msgId = event.id) :
    (store.update meant change).Accounted readUuid asked := by
  constructor
  · intro event eventMem
    obtain ⟨before, beforeMem, rfl⟩ := mem_update_iff.mp eventMem
    split
    · rw [same before]
      exact accounted.rows before beforeMem
    · exact accounted.rows before beforeMem
  · exact accounted.messages
  · intro event eventMem published
    obtain ⟨before, beforeMem, rfl⟩ := mem_update_iff.mp eventMem
    split at published
    · rename_i isMeant
      obtain ⟨message, messageMem, sameId⟩ := marked before isMeant published
      have keptId : (change before).id = before.id := congrArg Message.msgId (same before)
      rw [if_pos isMeant, keptId]
      exact ⟨message, messageMem, sameId⟩
    · rename_i notMeant
      rw [if_neg notMeant]
      exact accounted.published before beforeMem published

/-- The broker takes an event that was created. -/
theorem OutboxStore.Accounted.publish (accounted : store.Accounted readUuid asked)
    (created : message.IsCreated readUuid asked) :
    OutboxStore.Accounted readUuid asked { store with messages := store.messages ++ [message] } := by
  constructor
  · exact accounted.rows
  · intro taken takenMem
    rcases List.mem_append.mp takenMem with old | new
    · exact accounted.messages taken old
    · rw [List.mem_singleton.mp new]
      exact created
  · intro event eventMem published
    obtain ⟨taken, takenMem, sameId⟩ := accounted.published event eventMem published
    exact ⟨taken, List.mem_append_left _ takenMem, sameId⟩

/-- A service saves an event. -/
theorem OutboxStore.Accounted.save (accounted : store.Accounted readUuid asked)
    (isAsked : asked creation) (eventEq : creation.event readUuid = .ok event) :
    (store.save event).Accounted readUuid asked := by
  have isPending : event.status = .pending := by
    obtain ⟨_, _, restEq⟩ := except_bind_eq_ok_iff.mp eventEq
    obtain ⟨_, _, pairEq⟩ := except_bind_eq_ok_iff.mp restEq
    cases pairEq
    rfl
  constructor
  · intro saved savedMem
    rcases Table.mem_save_iff.mp savedMem with rfl | ⟨old, _⟩
    · exact ⟨creation, event, isAsked, eventEq, rfl⟩
    · exact accounted.rows saved old
  · exact accounted.messages
  · intro saved savedMem published
    rcases Table.mem_save_iff.mp savedMem with rfl | ⟨old, _⟩
    · cases isPending.symm.trans published
    · exact accounted.published saved old published

/-- What the broker has, it keeps. -/
theorem Batch.Grounded.of_messages {target : OutboxStore}
    (grounded : batch.Grounded readUuid asked store)
    (kept : ∀ message ∈ store.messages, message ∈ target.messages) :
    batch.Grounded readUuid asked target := by
  refine ⟨grounded.events, ?_⟩
  intro marks event isHead
  obtain ⟨message, messageMem, sameId⟩ := grounded.marks marks event isHead
  exact ⟨message, kept message messageMem, sameId⟩

/-- The publisher is done with the first event of its batch. -/
theorem Batch.Grounded.rest {stage : Stage} {rest : List OutboxEvent}
    (grounded : Batch.Grounded readUuid asked store ⟨stage, event :: rest⟩) :
    Batch.Grounded readUuid asked store ⟨.publish, rest⟩ :=
  ⟨fun other otherMem => grounded.events other (List.mem_cons_of_mem _ otherMem), nofun⟩

/-- The publisher has not published the first event of its batch. -/
theorem Batch.Grounded.failed {stage : Stage} {events : List OutboxEvent} (text : String)
    (grounded : Batch.Grounded readUuid asked store ⟨stage, events⟩) :
    Batch.Grounded readUuid asked store ⟨.record text, events⟩ :=
  ⟨grounded.events, nofun⟩

/-- The publisher has no more to do. -/
theorem Batch.grounded_done : Batch.Grounded readUuid asked store ⟨.publish, []⟩ :=
  ⟨fun _ eventMem => absurd eventMem List.not_mem_nil, nofun⟩

theorem OutboxStore.Accounted.markPublished (accounted : store.Accounted readUuid asked) (clock : Nat)
    (taken : ∃ message ∈ store.messages, message.msgId = event.id) :
    (store.markPublished event.id clock).Accounted readUuid asked := by
  apply accounted.update (by exact fun _ => rfl)
  intro row isMeant _
  rw [beq_iff_eq.mp isMeant]
  exact taken

theorem OutboxStore.Accounted.recordFailure (accounted : store.Accounted readUuid asked)
    (event : OutboxEvent) (text : String) (clock : Nat) :
    (store.recordFailure event text clock).Accounted readUuid asked := by
  apply accounted.update (by exact fun _ => rfl)
  intro row _ published
  change (if event.attemptCount + 1 ≥ 8 then OutboxStatus.failed else .pending) = .published
    at published
  split at published <;> cases published

/-- What a statement of a publisher leaves. -/
structure Advances (readUuid : String → Option Uuid) (asked : Creation → Prop)
    (store target : OutboxStore) (next : Batch) : Prop where
  accounted : target.Accounted readUuid asked
  grounded : next.Grounded readUuid asked target
  messages : ∀ message ∈ store.messages, message ∈ target.messages

theorem advance_advances (others : List Batch) {next : Batch} {choice : Choice}
    {target : OutboxStore} (accounted : store.Accounted readUuid asked)
    (grounded : batch.Grounded readUuid asked store)
    (advanceEq : Outbox.advance store others batch choice = some (target, next)) :
    Advances readUuid asked store target next := by
  obtain ⟨stage, events⟩ := batch
  obtain ⟨outcome, clock⟩ := choice
  cases events with
  | nil => cases advanceEq
  | cons event rest =>
      have kept : ∀ message ∈ store.messages, message ∈ store.messages := fun _ => id
      cases stage with
      | publish =>
          have created := grounded.events event List.mem_cons_self
          have taken := accounted.publish created
          have grows : ∀ message ∈ store.messages, message ∈ store.messages ++ [event.message] :=
            fun _ => List.mem_append_left _
          cases outcome with
          | returns =>
              cases advanceEq
              refine ⟨taken, ⟨grounded.events, ?_⟩, grows⟩
              rintro _ _ ⟨⟩
              exact ⟨event.message, List.mem_append_right _ List.mem_cons_self, rfl⟩
          | fails text =>
              cases advanceEq
              exact ⟨accounted, grounded.failed text, kept⟩
          | unanswered text =>
              cases advanceEq
              exact ⟨taken, (grounded.failed text).of_messages grows, grows⟩
      | mark =>
          have marked := accounted.markPublished clock (grounded.marks rfl event rfl)
          cases outcome with
          | returns =>
              cases advanceEq
              exact ⟨marked, grounded.rest.of_messages kept, kept⟩
          | fails text =>
              cases advanceEq
              exact ⟨accounted, grounded.failed text, kept⟩
          | unanswered text =>
              cases advanceEq
              exact ⟨marked, (grounded.failed text).of_messages kept, kept⟩
      | record text =>
          have recorded := accounted.recordFailure event text clock
          cases outcome with
          | returns =>
              cases advanceEq
              exact ⟨recorded, grounded.rest.of_messages kept, kept⟩
          | fails _ =>
              cases advanceEq
              exact ⟨accounted, Batch.grounded_done, kept⟩
          | unanswered _ =>
              cases advanceEq
              exact ⟨recorded, Batch.grounded_done, kept⟩

/-- A claim takes created events, which it does not mark. -/
theorem OutboxStore.Accounted.claim (accounted : store.Accounted readUuid asked) (now clock : Nat)
    (locked : List Uuid) :
    (Outbox.claim store now clock locked).1.Accounted readUuid asked ∧
      ∀ event ∈ (Outbox.claim store now clock locked).2,
        event.message.IsCreated readUuid asked := by
  have claimed : (Outbox.claim store now clock locked).1.Accounted readUuid asked := by
    apply accounted.update (by exact fun _ => rfl)
    intro row _ published
    cases published
  exact ⟨claimed, fun event eventMem => claimed.rows event (List.mem_of_mem_filter eventMem)⟩

theorem OutboxStore.Accounted.reprocessFailed (accounted : store.Accounted readUuid asked) (id : Uuid)
    (clock : Nat) : (Outbox.reprocessFailed store id clock).Accounted readUuid asked := by
  apply accounted.update (by exact fun _ => rfl)
  intro row _ published
  cases published

/-- The requests that are made. -/
def OutboxRequest.IsAsked (asked : Creation → Prop) : OutboxRequest → Prop
  | .create creation => asked creation
  | .work _ => True

theorem start_create_ok (eventEq : creation.event readUuid = .ok event) :
    (outbox readUuid).start store (.create creation) = (store.save event, none) := by
  simp only [outbox, eventEq]

theorem start_create_error {error : Exception} (eventEq : creation.event readUuid = .error error) :
    (outbox readUuid).start store (.create creation) = (store, none) := by
  simp only [outbox, eventEq]

/-- The system keeps the store accounted for, whatever fails. -/
theorem outbox_keeps : Sessions.Keeps (outbox readUuid) (OutboxRequest.IsAsked asked)
    (fun _ _ _ _ => True) (OutboxStore.Accounted readUuid asked)
    (Batch.Grounded readUuid asked) (fun _ _ => True) where
  started store request accounted isAsked := by
    cases request with
    | create creation =>
        cases eventEq : creation.event readUuid with
        | error error =>
            rw [start_create_error eventEq]
            exact ⟨accounted, fun _ grounded => grounded, nofun⟩
        | ok event =>
            rw [start_create_ok eventEq]
            exact ⟨accounted.save isAsked eventEq,
              fun _ grounded => grounded.of_messages fun _ => id, nofun⟩
    | work request =>
        cases request with
        | publishBatch now clock locked =>
            obtain ⟨claimed, created⟩ := accounted.claim now clock locked
            refine ⟨claimed, fun _ grounded => grounded.of_messages fun _ => id, ?_⟩
            rintro _ ⟨⟩
            exact ⟨⟨created, nofun⟩, fun _ => ⟨trivial, trivial⟩⟩
        | reprocessFailed id clock =>
            exact ⟨accounted.reprocessFailed id clock,
              fun _ grounded => grounded.of_messages fun _ => fun kept => kept, nofun⟩
  advanced store others batch choice target next leaves _ advanceEq := by
    cases choice with
    | none =>
        cases advanceEq
        exact ⟨leaves.holds, Batch.grounded_done, leaves.beside, fun _ _ => ⟨trivial, trivial⟩⟩
    | some choice =>
        have advances := advance_advances others leaves.holds leaves.owns advanceEq
        exact ⟨advances.accounted, advances.grounded,
          fun other otherMem => (leaves.beside other otherMem).of_messages advances.messages,
          fun _ _ => ⟨trivial, trivial⟩⟩

/-- The creations that a run asks for. -/
def AskedIn (actions : List (Sessions.Action OutboxRequest (Option Choice)))
    (creation : Creation) : Prop :=
  .start (.create creation) ∈ actions

/-- **What the outbox delivers.**  However services and publishers run beside each other, and
whatever fails, is lost or dies, the broker gets created events only, each under the id that its
payload names; an event is marked as published only if the broker has got it; and where ids are
used once, the broker gets nothing else under the id of an event. -/
theorem outbox_accounted {state reached : Sessions.State OutboxStore Batch}
    {actions : List (Sessions.Action OutboxRequest (Option Choice))}
    (idle : state.sessions = []) (empty : state.store = ⟨[], []⟩)
    (runEq : (outbox readUuid).step.run state actions = some reached) :
    (∀ message ∈ reached.store.messages,
      message.IsCreated readUuid (AskedIn actions) ∧ message.NamesItself readUuid) ∧
    (∀ event ∈ reached.store.events, event.status = .published →
      ∃ message ∈ reached.store.messages, message.msgId = event.id) ∧
    (IdsUsedOnce readUuid (AskedIn actions) → ∀ event ∈ reached.store.events,
      ∀ message ∈ reached.store.messages, message.msgId = event.id →
        message = event.message) := by
  have start : state.store.Accounted readUuid (AskedIn actions) := by
    rw [empty]
    constructor <;> exact fun _ mem => absurd mem List.not_mem_nil
  have met : (outbox readUuid).step.Meets
      (Sessions.Guard (OutboxRequest.IsAsked (AskedIn actions)) fun _ _ _ _ => True) state
      actions := by
    apply Step.meets_iff_forall.mpr
    rintro before action after rfl _ _
    cases action with
    | advance index choice => exact fun _ _ => trivial
    | start request =>
        cases request with
        | create creation => exact List.mem_append_right _ List.mem_cons_self
        | work request => exact trivial
  have kept := (outbox_keeps.run (Sessions.Invariant.of_no_sessions start idle) met runEq).holds
  refine ⟨?_, kept.published, ?_⟩
  · intro message messageMem
    have created := kept.messages message messageMem
    exact ⟨created, created.namesItself⟩
  · intro once event eventMem message messageMem sameId
    exact (kept.messages message messageMem).eq once (kept.rows event eventMem) sameId

/-! ## Examples -/

/-- A service creates an event under an id that it has chosen. -/
def exampleCreation : Creation where
  input := ⟨"workspace.source.process.requested", [("value", .bool true)]⟩
  options := ⟨some "11111111-1111-4111-8111-111111111111", some .event_id⟩
  randomUuid := "99999999-9999-4999-8999-999999999999"
  clock := 0
  now := 0

/-- The broker cannot be reached at first, and is at the second attempt. -/
def exampleDelivery : List (Sessions.Action OutboxRequest (Option Choice)) :=
  [.start (.create exampleCreation), .start (.work (.publishBatch 0 0 [])),
    .advance 0 (some ⟨.fails "unreachable", 1⟩), .advance 0 (some ⟨.returns, 2⟩),
    .start (.work (.publishBatch 5000 5000 [])), .advance 1 (some ⟨.returns, 5001⟩),
    .advance 1 (some ⟨.returns, 5002⟩)]

/-- The event is published, and names itself. -/
theorem outbox_accounted_example :
    ∃ reached, (outbox fun text => some (uuid text)).step.run ⟨⟨[], []⟩, []⟩ exampleDelivery =
        some reached ∧
      reached.store.messages.map Message.msgId =
        [uuid "11111111-1111-4111-8111-111111111111"] ∧
      ∀ message ∈ reached.store.messages, message.NamesItself fun text => some (uuid text) := by
  have taken : ((outbox fun text => some (uuid text)).step.run ⟨⟨[], []⟩, []⟩
      exampleDelivery).map (fun reached => reached.store.messages.map Message.msgId) =
      some [uuid "11111111-1111-4111-8111-111111111111"] := by
    decide +kernel
  obtain ⟨reached, runEq, idsEq⟩ := Option.map_eq_some_iff.mp taken
  have accounted := outbox_accounted rfl rfl runEq
  exact ⟨reached, runEq, idsEq, fun message messageMem => (accounted.1 message messageMem).2⟩

end Manbaa.Outbox
