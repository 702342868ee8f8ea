import Manbaa.Core.Http
import Manbaa.Lib.Json
import Manbaa.Lib.Sessions
import Manbaa.Lib.Table
import Mathlib.Data.List.Sort

/-!
# The outbox and its publishers

Events wait in a table until a publisher has handed them to the broker.  A publisher
claims up to twenty events at once, which it leases for a minute, and publishes them one
after the other; the outcome of each is written over the row by its identifier, whatever
the row has become.  Batches of any number of publishers run beside each other; one whose
publisher has died takes no further step.
-/

namespace Manbaa.Outbox

open Manbaa.Lib

/-! ## Rows -/

/-- The status of an event. -/
inductive OutboxStatus where
  | pending
  | publishing
  | published
  | failed
  deriving DecidableEq

/-- A row of `outbox_event`, as far as publishers use it. -/
structure OutboxEvent where
  id : Uuid
  eventType : String
  payload : Json
  status : OutboxStatus
  attemptCount : Nat
  availableAt : Nat
  publishedAt : Option Nat
  lastError : Option String
  createdAt : Nat
  deriving DecidableEq

/-- A message that the broker has taken. -/
structure Message where
  subject : String
  payload : Json
  msgId : Uuid
  deriving DecidableEq

/-- The table, and what the broker has taken. -/
structure OutboxStore where
  events : List OutboxEvent
  messages : List Message

/-- The row of an event. -/
def OutboxStore.event? (store : OutboxStore) (id : Uuid) : Option OutboxEvent :=
  Table.get? OutboxEvent.id store.events id

/-- Change the rows that are meant. -/
def OutboxStore.update (store : OutboxStore) (meant : OutboxEvent → Bool)
    (change : OutboxEvent → OutboxEvent) : OutboxStore :=
  { store with events := store.events.map fun event => if meant event then change event else event }

/-! ## Claiming events -/

/-- `PUBLISH_LEASE_MS`. -/
def publishLeaseMs : Nat := 60000

/-- The condition of the query by which events are claimed. -/
def OutboxEvent.isClaimable (event : OutboxEvent) (now : Nat) : Bool :=
  ((([OutboxStatus.pending, .failed].contains event.status) && decide (event.availableAt ≤ now)) ||
      (event.status == .publishing && decide (event.availableAt ≤ now))) &&
    decide (event.attemptCount < 8)

/-- The claimable events that no other statement has locked, the oldest first. -/
def OutboxStore.claimable (store : OutboxStore) (now : Nat) (locked : List Uuid) :
    List OutboxEvent :=
  (store.events.filter fun event => event.isClaimable now && !locked.contains event.id).insertionSort
    fun first second => first.createdAt ≤ second.createdAt

/-- `claim`: the store and the events with their lease. -/
def claim (store : OutboxStore) (now clock : Nat) (locked : List Uuid) :
    OutboxStore × List OutboxEvent :=
  let ids := ((store.claimable now locked).take 20).map OutboxEvent.id
  let claimed := store.update (fun event => ids.contains event.id) fun event =>
    { event with status := .publishing, availableAt := clock + publishLeaseMs }
  (claimed, claimed.events.filter fun event => ids.contains event.id)

/-! ## Publishing an event -/

/-- The row of an event that has been published. -/
def OutboxStore.markPublished (store : OutboxStore) (id : Uuid) (clock : Nat) : OutboxStore :=
  store.update (fun event => event.id == id) fun event =>
    { event with status := .published, publishedAt := some clock, lastError := none }

/-- The row of an event that could not be published, as the publisher had read it. -/
def OutboxStore.recordFailure (store : OutboxStore) (read : OutboxEvent) (message : String)
    (clock : Nat) : OutboxStore :=
  let attempts := read.attemptCount + 1
  store.update (fun event => event.id == read.id) fun event =>
    { event with
      status := if attempts ≥ 8 then .failed else .pending
      attemptCount := attempts
      availableAt := clock + min 300000 (1000 * 2 ^ attempts)
      lastError := some (String.ofList (message.toList.take 1000)) }

/-- `reprocessFailed`. -/
def reprocessFailed (store : OutboxStore) (id : Uuid) (clock : Nat) : OutboxStore :=
  store.update (fun event => event.id == id && event.status == .failed) fun event =>
    { event with status := .pending, attemptCount := 0, availableAt := clock, lastError := none }

/-- How a call ends: it returns, it fails before it has done anything, or it has done it
but its answer is lost. -/
inductive Outcome where
  | returns
  | fails (message : String)
  | unanswered (message : String)
  deriving DecidableEq

/-- What a publisher does next with the first event of its batch. -/
inductive Stage where
  | publish
  | mark
  | record (message : String)
  deriving DecidableEq

/-- The events that are left of a batch, as they were read. -/
structure Batch where
  stage : Stage
  events : List OutboxEvent
  deriving DecidableEq

/-- How the next call of a publisher ends, and when. -/
structure Choice where
  outcome : Outcome
  clock : Nat

/-- The next call of `publishOne`.  A call that throws leads to the record of the failure; if
that throws as well, the batch is over. -/
def advance (store : OutboxStore) (_ : List Batch) (batch : Batch) (choice : Choice) :
    Option (OutboxStore × Batch) :=
  match batch.events with
  | [] => none
  | event :: rest =>
      match batch.stage with
      | .publish =>
          let taken :=
            { store with messages := store.messages ++ [⟨event.eventType, event.payload, event.id⟩] }
          match choice.outcome with
          | .returns => some (taken, ⟨.mark, event :: rest⟩)
          | .fails message => some (store, ⟨.record message, event :: rest⟩)
          | .unanswered message => some (taken, ⟨.record message, event :: rest⟩)
      | .mark =>
          let marked := store.markPublished event.id choice.clock
          match choice.outcome with
          | .returns => some (marked, ⟨.publish, rest⟩)
          | .fails message => some (store, ⟨.record message, event :: rest⟩)
          | .unanswered message => some (marked, ⟨.record message, event :: rest⟩)
      | .record message =>
          let recorded := store.recordFailure event message choice.clock
          match choice.outcome with
          | .returns => some (recorded, ⟨.publish, rest⟩)
          | .fails _ => some (store, ⟨.publish, []⟩)
          | .unanswered _ => some (recorded, ⟨.publish, []⟩)

/-- A publisher claims a batch, or a failed event is to be published again. -/
inductive Request where
  | publishBatch (now clock : Nat) (locked : List Uuid)
  | reprocessFailed (id : Uuid) (clock : Nat)

/-- Any number of publishers beside each other. -/
def publishers : Sessions OutboxStore Batch Request Choice where
  start store
    | .publishBatch now clock locked =>
        let (claimed, events) := claim store now clock locked
        (claimed, some ⟨.publish, events⟩)
    | .reprocessFailed id clock => (reprocessFailed store id clock, none)
  advance := advance

/-! ## What a statement leaves of a row -/

variable {store : OutboxStore} {id : Uuid} {before after : OutboxEvent} {now : Nat}
  {locked : List Uuid}

theorem event?_update {meant : OutboxEvent → Bool} {change : OutboxEvent → OutboxEvent}
    (sameId : ∀ event, (change event).id = event.id) :
    (store.update meant change).event? id =
      (store.event? id).map fun event => if meant event then change event else event := by
  have ids : ∀ event : OutboxEvent, (if meant event then change event else event).id = event.id := by
    intro event
    split
    · exact sameId event
    · rfl
  rw [OutboxStore.event?, OutboxStore.update, Table.get?, List.find?_map, Function.comp_def]
  simp only [ids]
  rfl

/-- A published event stays published, and no attempt is forgotten. -/
structure Kept (before after : OutboxEvent) : Prop where
  published : before.status = .published → after.status = .published
  attempts : before.attemptCount ≤ after.attemptCount

/-- Identifiers are unique. -/
def OutboxStore.Keyed (store : OutboxStore) : Prop := Table.Keyed OutboxEvent.id store.events

theorem keyed_update {meant : OutboxEvent → Bool} {change : OutboxEvent → OutboxEvent}
    (keyed : store.Keyed) (sameId : ∀ event, (change event).id = event.id) :
    (store.update meant change).Keyed := by
  apply Table.keyed_map _ keyed
  intro event
  split
  · exact sameId event
  · rfl

/-- Every row is still there, and has been kept. -/
structure Keeps (store target : OutboxStore) : Prop where
  keyed : store.Keyed → target.Keyed
  rows : ∀ id before, store.event? id = some before → ∃ after, target.event? id = some after ∧
    Kept before after

theorem Kept.refl (event : OutboxEvent) : Kept event event :=
  ⟨fun published => published, Nat.le_refl _⟩

/-- The broker has taken messages. -/
theorem keeps_messages (messages : List Message) : Keeps store { store with messages := messages } :=
  ⟨fun keyed => keyed, fun _ before found => ⟨before, found, Kept.refl before⟩⟩

/-- A statement keeps every row, if it keeps those that are meant. -/
theorem keeps_update {meant : OutboxEvent → Bool} {change : OutboxEvent → OutboxEvent}
    (sameId : ∀ event, (change event).id = event.id)
    (kept : ∀ id event, store.event? id = some event → meant event = true →
      Kept event (change event)) : Keeps store (store.update meant change) := by
  refine ⟨fun keyed => keyed_update keyed sameId, ?_⟩
  intro id before found
  rw [event?_update sameId, found]
  refine ⟨_, rfl, ?_⟩
  by_cases isMeant : meant before = true
  · simp only [isMeant, if_true]
    exact kept id before found isMeant
  · simp only [isMeant]
    exact Kept.refl before

/-! ## Claims -/

theorem isClaimable_iff : before.isClaimable now = true ↔
    before.status ≠ .published ∧ before.availableAt ≤ now ∧ before.attemptCount < 8 := by
  rw [OutboxEvent.isClaimable]
  cases before.status <;> simp

theorem mem_claimable_iff : before ∈ store.claimable now locked ↔
    before ∈ store.events ∧ before.isClaimable now = true ∧ before.id ∉ locked := by
  rw [OutboxStore.claimable, List.mem_insertionSort, List.mem_filter, Bool.and_eq_true]
  simp

/-- A row that is claimable once it is available, unless it has been published or has been
tried too often, and that the next publisher claims if it is one of the twenty oldest. -/
theorem claimable_of_available (found : store.event? id = some before)
    (unpublished : before.status ≠ .published) (few : before.attemptCount < 8)
    (available : before.availableAt ≤ now) : before ∈ store.claimable now [] :=
  mem_claimable_iff.mpr ⟨Table.mem_of_get? found, isClaimable_iff.mpr ⟨unpublished, available, few⟩,
    List.not_mem_nil⟩

theorem claim_keeps {clock : Nat} (keyed : store.Keyed) :
    Keeps store (claim store now clock locked).1 := by
  apply keeps_update (by exact fun _ => rfl)
  intro id event found isMeant
  have idMem := List.contains_iff_mem.mp isMeant
  obtain ⟨claimed, claimedMem, sameId⟩ := List.mem_map.mp idMem
  obtain ⟨rowMem, isClaimable, _⟩ := mem_claimable_iff.mp (List.mem_of_mem_take claimedMem)
  obtain rfl := keyed.eq rowMem (Table.mem_of_get? found) sameId
  constructor
  · intro published
    exact absurd published (isClaimable_iff.mp isClaimable).1
  · exact Nat.le_refl _

/-- A claimable event among the twenty oldest is in the batch, with a lease. -/
theorem claim_takes {clock : Nat} (oldest : before ∈ (store.claimable now locked).take 20) :
    { before with status := OutboxStatus.publishing, availableAt := clock + publishLeaseMs } ∈
      (claim store now clock locked).2 := by
  have idMem : ((store.claimable now locked).take 20).map OutboxEvent.id |>.contains before.id :=
    List.contains_iff_mem.mpr (List.mem_map_of_mem oldest)
  have rowMem := (mem_claimable_iff.mp (List.mem_of_mem_take oldest)).1
  rw [claim, List.mem_filter]
  refine ⟨List.mem_map.mpr ⟨before, rowMem, ?_⟩, idMem⟩
  rw [if_pos idMem]

/-! ## Outcomes -/

theorem markPublished_keeps (clock : Nat) : Keeps store (store.markPublished id clock) := by
  apply keeps_update (by exact fun _ => rfl)
  intro _ event _ _
  exact ⟨fun _ => rfl, Nat.le_refl _⟩

/-- The row of an event is not published, and no more than one attempt ahead of what was
read. -/
def UpToDate (store : OutboxStore) (read : OutboxEvent) : Prop :=
  ∀ row ∈ store.event? read.id,
    row.status ≠ .published ∧ row.attemptCount ≤ read.attemptCount + 1

theorem recordFailure_keeps {read : OutboxEvent} (upToDate : UpToDate store read) (message : String)
    (clock : Nat) : Keeps store (store.recordFailure read message clock) := by
  apply keeps_update (by exact fun _ => rfl)
  intro id event found isMeant
  have sameId : event.id = read.id := beq_iff_eq.mp isMeant
  have foundId : event.id = id := Table.key_of_get? found
  rw [← foundId, sameId] at found
  obtain ⟨unpublished, few⟩ := upToDate event found
  exact ⟨fun published => absurd published unpublished, few⟩

/-- A failed event that is published again keeps its status, and loses its attempts. -/
theorem reprocessFailed_keeps {other : Uuid} {clock : Nat}
    (found : store.event? id = some before) :
    ∃ after, (reprocessFailed store other clock).event? id = some after ∧
      (before.status = .published → after.status = .published) ∧
      (other ≠ id → before.attemptCount ≤ after.attemptCount) := by
  rw [reprocessFailed, event?_update (by exact fun _ => rfl), found]
  refine ⟨_, rfl, ?_⟩
  by_cases isMeant : (before.id == other && before.status == .failed) = true
  · simp only [isMeant, if_true]
    obtain ⟨sameId, failed⟩ := (Bool.and_eq_true _ _).mp isMeant
    constructor
    · intro published
      rw [published] at failed
      cases failed
    · intro ne
      exact absurd ((beq_iff_eq.mp sameId).symm.trans (Table.key_of_get? found)) ne
  · simp only [isMeant]
    exact ⟨fun published => published, fun _ => Nat.le_refl _⟩

/-! ## Runs -/

/-- A publisher that records a failure finds the row up to date. -/
def Current (store : OutboxStore) (_ : List Batch) (batch : Batch) (_ : Choice) : Prop :=
  match batch with
  | ⟨.record _, event :: _⟩ => UpToDate store event
  | _ => True

instance (store : OutboxStore) (read : OutboxEvent) : Decidable (UpToDate store read) :=
  inferInstanceAs (Decidable (∀ row ∈ store.event? read.id,
    row.status ≠ .published ∧ row.attemptCount ≤ read.attemptCount + 1))

instance (store : OutboxStore) (others : List Batch) (batch : Batch) (choice : Choice) :
    Decidable (Current store others batch choice) :=
  match batch with
  | ⟨.record _, event :: _⟩ => inferInstanceAs (Decidable (UpToDate store event))
  | ⟨.record _, []⟩ | ⟨.publish, _⟩ | ⟨.mark, _⟩ => .isTrue trivial

/-- The action makes an event that failed be published again. -/
def Reprocesses (id : Uuid) : Sessions.Action Request Choice → Prop
  | .start (.reprocessFailed other _) => other = id
  | _ => False

/-- A statement of a publisher keeps every row. -/
theorem advance_keeps {others : List Batch} {batch next : Batch} {choice : Choice}
    {target : OutboxStore} (current : Current store others batch choice)
    (advanceEq : advance store others batch choice = some (target, next)) : Keeps store target := by
  obtain ⟨stage, events⟩ := batch
  cases events with
  | nil => cases advanceEq
  | cons event rest =>
      cases stage with
      | publish =>
          obtain ⟨outcome, clock⟩ := choice
          cases outcome <;> cases advanceEq <;> exact keeps_messages _
      | mark =>
          obtain ⟨outcome, clock⟩ := choice
          cases outcome with
          | returns =>
              cases advanceEq
              exact markPublished_keeps clock
          | fails message =>
              cases advanceEq
              exact keeps_messages _
          | unanswered message =>
              cases advanceEq
              exact markPublished_keeps clock
      | record message =>
          have upToDate : UpToDate store event := current
          obtain ⟨outcome, clock⟩ := choice
          cases outcome with
          | returns =>
              cases advanceEq
              exact recordFailure_keeps upToDate message clock
          | fails _ =>
              cases advanceEq
              exact keeps_messages _
          | unanswered _ =>
              cases advanceEq
              exact recordFailure_keeps upToDate message clock

/-- One step of the system keeps a row, but for the attempts of an event that is published
again. -/
theorem step_row {state next : Sessions.State OutboxStore Batch}
    {action : Sessions.Action Request Choice} (keyed : state.store.Keyed)
    (current : Sessions.Guard (fun _ => True) Current state action)
    (stepEq : publishers.step state action = some next)
    (found : state.store.event? id = some before) :
    next.store.Keyed ∧ ∃ after, next.store.event? id = some after ∧
      (before.status = .published → after.status = .published) ∧
      (¬ Reprocesses id action → before.attemptCount ≤ after.attemptCount) := by
  have kept : Keeps state.store next.store → next.store.Keyed ∧
      ∃ after, next.store.event? id = some after ∧
        (before.status = .published → after.status = .published) ∧
        (¬ Reprocesses id action → before.attemptCount ≤ after.attemptCount) := by
    intro keeps
    obtain ⟨after, afterEq, same⟩ := keeps.rows id before found
    exact ⟨keeps.keyed keyed, after, afterEq, same.published, fun _ => same.attempts⟩
  rcases Sessions.step_cases stepEq with ⟨request, rfl, rfl⟩ |
    ⟨index, choice, batch, store, batch', rfl, batchEq, advanceEq, rfl⟩
  · cases request with
    | publishBatch now clock locked => exact kept (claim_keeps keyed)
    | reprocessFailed other clock =>
        exact ⟨keyed_update keyed (by exact fun _ => rfl), reprocessFailed_keeps found⟩
  · exact kept (advance_keeps (current batch batchEq) advanceEq)

/-- In every run in which publishers record failures over rows that are up to date: a
published event stays published, attempts are forgotten only where a failed event is
published again, and an event that is not published and has been tried less than eight
times is claimable once it is available. -/
theorem events_final {start target : Sessions.State OutboxStore Batch}
    {actions : List (Sessions.Action Request Choice)} (keyed : start.store.Keyed)
    (met : publishers.step.Meets (Sessions.Guard (fun _ => True) Current) start actions)
    (runEq : publishers.step.run start actions = some target)
    (found : start.store.event? id = some before) :
    ∃ after, target.store.event? id = some after ∧
      (before.status = .published → after.status = .published) ∧
      ((∀ action ∈ actions, ¬ Reprocesses id action) →
        before.attemptCount ≤ after.attemptCount) ∧
      ∀ now, after.status ≠ .published → after.attemptCount < 8 → after.availableAt ≤ now →
        after ∈ target.store.claimable now [] := by
  induction actions generalizing start before with
  | nil =>
      cases runEq
      exact ⟨before, found, fun published => published, fun _ => Nat.le_refl _,
        fun _ unpublished few available => claimable_of_available found unpublished few available⟩
  | cons action rest ih =>
      obtain ⟨next, stepEq, restEq⟩ := Step.run_cons_eq_some_iff.mp runEq
      obtain ⟨nextKeyed, middle, middleEq, stays, counts⟩ := step_row keyed met.1 stepEq found
      obtain ⟨after, afterEq, restStays, restCounts, claimable⟩ :=
        ih nextKeyed (met.2 next stepEq) restEq middleEq
      refine ⟨after, afterEq, fun published => restStays (stays published), ?_, claimable⟩
      intro never
      exact Nat.le_trans (counts (never action List.mem_cons_self))
        (restCounts fun other otherMem => never other (List.mem_cons_of_mem _ otherMem))

/-! ## Examples -/

/-- An event that waits. -/
def exampleEvent : OutboxEvent := ⟨uuid "e", "s", .obj [], .pending, 0, 0, none, none, 0⟩

/-- One event, and no publishers. -/
def exampleStart : Sessions.State OutboxStore Batch := ⟨⟨[exampleEvent], []⟩, []⟩

example : (exampleStart.store.claimable 0 []).length = 1 := by decide +kernel

/-- A publisher claims the event and cannot reach the broker. -/
def exampleFailure : List (Sessions.Action Request Choice) :=
  [.start (.publishBatch 0 0 []), .advance 0 ⟨.fails "unreachable", 1⟩, .advance 0 ⟨.returns, 2⟩]

theorem events_final_example :
    ∃ target after, publishers.step.run exampleStart exampleFailure = some target ∧
      target.store.event? (uuid "e") = some after ∧ 0 ≤ after.attemptCount := by
  have met : publishers.step.Meets (Sessions.Guard (fun _ => True) Current) exampleStart
      exampleFailure := by
    decide +kernel
  have keyed : exampleStart.store.Keyed := List.nodup_singleton _
  have found : exampleStart.store.event? (uuid "e") = some exampleEvent := by
    decide +kernel
  obtain ⟨after, afterEq, _, counts, _⟩ := events_final keyed met rfl found
  exact ⟨_, after, rfl, afterEq, counts (by simp [exampleFailure, Reprocesses])⟩

/-- A publisher that has lost its lease records a failure over an event that another one
has published. -/
theorem published_event_pending :
    ∃ middle target, publishers.step.run exampleStart
        [.start (.publishBatch 0 0 []), .start (.publishBatch 60000 60000 []),
          .advance 1 ⟨.returns, 60001⟩, .advance 1 ⟨.returns, 60002⟩] = some middle ∧
      (middle.store.event? (uuid "e")).map OutboxEvent.status = some .published ∧
      publishers.step.run middle
        [.advance 0 ⟨.fails "unreachable", 60003⟩, .advance 0 ⟨.returns, 60004⟩] = some target ∧
      (target.store.event? (uuid "e")).map OutboxEvent.status = some .pending := by
  exact ⟨_, _, rfl, by decide +kernel, rfl, by decide +kernel⟩

end Manbaa.Outbox
