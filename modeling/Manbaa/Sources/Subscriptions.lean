import Manbaa.Nats.Subscription
import Manbaa.Sources.Confluence

/-!
# The consumers of lifecycle events

Each kind of event has a durable consumer of its own, and the consumers run independently:
an event may be delivered before the one that it builds on.  Then the handler throws, and
the message comes back; but a message is delivered three times at most.
-/

namespace Manbaa.Sources

open Manbaa.Lib Manbaa.Lib.Effect Manbaa.Nats

/-! ## Messages and their deliveries -/

/-- What becomes of a message: it waits, after so many deliveries, until it is acknowledged or
given up. -/
inductive Progress where
  | unpublished
  | waiting (deliveries : Nat)
  | acked
  | termed
  deriving DecidableEq

/-- The events of a worker about the version of an upload: well formed, authentic, and with
identifiers and tokens of their own. -/
structure Publication (host : Host) (request : Upload) where
  value : SourceLifecycleKind → Json
  claims : SourceLifecycleKind → InternalServiceClaims
  event : SourceLifecycleKind → LifecycleEvent
  jti : SourceLifecycleKind → String
  read : ∀ kind ≠ .failed, readEvent host kind (value kind) = .ok (event kind)
  authorized : ∀ kind ≠ .failed, (event kind).authorized kind (claims kind) = true
  valid : ∀ kind ≠ .failed, validJti (claims kind) = some (jti kind)
  concerns : ∀ kind ≠ .failed, request.Concerns (event kind)
  ids : ∀ first ≠ .failed, ∀ second ≠ .failed,
    uuid (event first).eventId = uuid (event second).eventId → first = second
  tokens : ∀ first ≠ .failed, ∀ second ≠ .failed, jti first = jti second → first = second

/-- The tables, and what has become of each message. -/
structure Broker where
  db : SourceDb
  progress : SourceLifecycleKind → Progress

/-- The worker publishes a message, or the broker delivers one. -/
inductive BrokerAction where
  | publish (kind : SourceLifecycleKind)
  | deliver (kind : SourceLifecycleKind)

/-- The kind of event that comes before. -/
def SourceLifecycleKind.previous : SourceLifecycleKind → Option SourceLifecycleKind
  | .processing | .failed => none
  | .extracted => some .processing
  | .indexed => some .extracted

section

variable {host : Host} {request : Upload} (published : Publication host request)

/-- The durable subscription to the events of a kind. -/
def Publication.subscriber (kind : SourceLifecycleKind) : DurableSubscriber SourceDb Exception where
  subject := kind.subject
  decode := fun _ => pure (published.value kind)
  payloadType := none
  handler := fun payload _ => do
    let _ ← handle host kind payload (.ok (published.claims kind))
    pure ()
  onExhausted := none

/-- The message of a kind, at a delivery. -/
def message (kind : SourceLifecycleKind) (deliveries : Nat) : RawMessage where
  data := kind.subject
  redeliveryCount := some (deliveries + 1)
  msgId := none

/-- What has become of a message after a delivery. -/
def settled (deliveries : Nat) (record : Record) : Progress :=
  match record.settlements with
  | .ack :: _ => .acked
  | .term :: _ => .termed
  | _ => .waiting (deliveries + 1)

/-- The state after a delivery of a message that waits. -/
def Publication.delivered (broker : Broker) (kind : SourceLifecycleKind) (deliveries : Nat) :
    Broker :=
  let (record, _, db) := (published.subscriber kind).consume (message kind deliveries) broker.db
  { db := db
    progress := Function.update broker.progress kind (settled deliveries record) }

/-- The messages are published in their order, and delivered in any order. -/
def Publication.consumers : Step Broker BrokerAction := fun broker action =>
  match action with
  | .publish kind =>
      if kind ≠ .failed ∧ broker.progress kind = .unpublished ∧
          kind.previous.all fun earlier => broker.progress earlier != .unpublished then
        some { broker with progress := Function.update broker.progress kind (.waiting 0) }
      else none
  | .deliver kind =>
      match broker.progress kind with
      | .waiting deliveries => some (published.delivered broker kind deliveries)
      | _ => none

/-- The broker before anything has been published. -/
def Broker.start (db : SourceDb) : Broker := ⟨db, fun _ => .unpublished⟩

/-- No message is left to publish or to deliver. -/
def Broker.Done (broker : Broker) : Prop :=
  ∀ kind ≠ .failed, broker.progress kind = .acked ∨ broker.progress kind = .termed

/-- A message at its third delivery finds that the version has reached the status before its
own. -/
def Upload.InTime (request : Upload) (broker : Broker) : BrokerAction → Prop
  | .publish _ => True
  | .deliver kind => broker.progress kind = .waiting 2 →
      ∀ version ∈ broker.db.version? request.sourceVersionId,
        order.idxOf kind.status ≤ order.idxOf version.processingStatus + 1

instance (broker : Broker) (action : BrokerAction) : Decidable (request.InTime broker action) :=
  match action with
  | .publish _ => .isTrue trivial
  | .deliver kind => inferInstanceAs (Decidable (broker.progress kind = .waiting 2 →
      ∀ version ∈ broker.db.version? request.sourceVersionId,
        order.idxOf kind.status ≤ order.idxOf version.processingStatus + 1))

end

/-! ## Deliveries -/

variable {host : Host} {request : Upload} {published : Publication host request} {broker : Broker}
  {kind other : SourceLifecycleKind} {deliveries : Nat} {db target : SourceDb}
  {old : List SourceLifecycleEvent} {status : SourceProcessingStatus}

/-- A handler that resolves acknowledges the message. -/
theorem delivered_of_ok {changed : Bool}
    (handleEq : handle host kind (published.value kind) (.ok (published.claims kind)) broker.db =
      (.ok changed, target)) :
    published.delivered broker kind deliveries =
      ⟨target, Function.update broker.progress kind .acked⟩ := by
  have processed : (published.subscriber kind).process (message kind deliveries)
      (published.value kind) broker.db = (.ok (), target) := by
    rw [DurableSubscriber.process]
    exact bind_of_ok handleEq
  have attemptEq : (published.subscriber kind).attempt (message kind deliveries) broker.db =
      (published.value kind, .ok (), target) := by
    rw [DurableSubscriber.attempt]
    exact congrArg (Prod.mk (published.value kind)) processed
  have consumeEq : (published.subscriber kind).consume (message kind deliveries) broker.db =
      (⟨true, [.ack], 0⟩, true, target) := by
    rw [DurableSubscriber.consume, attemptEq]
  rw [Publication.delivered, consumeEq]
  rfl

/-- A handler that throws has the message delivered again, up to the third time. -/
theorem delivered_of_error {thrown : Exception}
    (handleEq : handle host kind (published.value kind) (.ok (published.claims kind)) broker.db =
      (.error thrown, broker.db)) :
    published.delivered broker kind deliveries =
      ⟨broker.db, Function.update broker.progress kind
        (if 2 ≤ deliveries then .termed else .waiting (deliveries + 1))⟩ := by
  have processed : (published.subscriber kind).process (message kind deliveries)
      (published.value kind) broker.db = (.error thrown, broker.db) := by
    rw [DurableSubscriber.process]
    exact bind_eq_error_iff.mpr (Or.inl handleEq)
  have attemptEq : (published.subscriber kind).attempt (message kind deliveries) broker.db =
      (published.value kind, .error thrown, broker.db) := by
    rw [DurableSubscriber.attempt]
    exact congrArg (Prod.mk (published.value kind)) processed
  have count : (message kind deliveries).deliveryCount = deliveries + 1 := rfl
  rw [Publication.delivered, DurableSubscriber.consume, attemptEq, count]
  by_cases last : 2 ≤ deliveries
  · have third : 3 ≤ deliveries + 1 := Nat.succ_le_succ last
    rw [if_pos last]
    dsimp only
    rw [if_pos third]
    rfl
  · have early : ¬ 3 ≤ deliveries + 1 := fun third => last (Nat.le_of_succ_le_succ third)
    rw [if_neg last]
    dsimp only
    rw [if_neg early]
    rfl

/-! ## What the receipts say about the messages -/

/-- The messages that are acknowledged are those whose events have receipts. -/
structure Publication.Accounts (published : Publication host request)
    (old : List SourceLifecycleEvent) (broker : Broker) : Prop where
  tracked : request.Tracked broker.db
  unfailed : ¬ request.Recorded broker.db.receipts .failed
  unsent : broker.progress .failed = .unpublished
  acked : ∀ kind ≠ .failed,
    (broker.progress kind = .acked ↔ request.Recorded broker.db.receipts kind)
  own : ∀ receipt ∈ broker.db.receipts, receipt ∈ old ∨ ∃ kind ≠ .failed,
    broker.progress kind = .acked ∧
      receipt = (published.event kind).receipt (published.jti kind)
  few : ∀ kind deliveries, broker.progress kind = .waiting deliveries → deliveries ≤ 2

/-- No receipt is one of a message. -/
def Publication.Unused (published : Publication host request) (old : List SourceLifecycleEvent) :
    Prop :=
  ∀ receipt ∈ old, ∀ kind ≠ .failed, receipt.eventId ≠ uuid (published.event kind).eventId ∧
    receipt.tokenJti ≠ published.jti kind

/-- A message that waits has no receipt yet, and its token has none. -/
theorem fresh_of_waiting (accounts : published.Accounts old broker)
    (unused : published.Unused old) (kindNe : kind ≠ .failed)
    (waits : broker.progress kind ≠ .acked) :
    broker.db.receipt? (uuid (published.event kind).eventId) = none ∧
      ∀ receipt ∈ broker.db.receipts, receipt.tokenJti ≠ published.jti kind := by
  have apart : ∀ receipt ∈ broker.db.receipts,
      receipt.eventId ≠ uuid (published.event kind).eventId ∧
        receipt.tokenJti ≠ published.jti kind := by
    intro receipt receiptMem
    rcases accounts.own receipt receiptMem with before | ⟨other, otherNe, ackedOther, rfl⟩
    · exact unused receipt before kind kindNe
    · constructor
      · intro same
        exact waits (published.ids other otherNe kind kindNe same ▸ ackedOther)
      · intro same
        exact waits (published.tokens other otherNe kind kindNe same ▸ ackedOther)
  exact ⟨Table.get?_eq_none_iff.mpr fun receipt receiptMem => (apart receipt receiptMem).1,
    fun receipt receiptMem => (apart receipt receiptMem).2⟩

/-- An event beyond the status of its version is the next, or comes too early. -/
theorem transitionFor_beyond (kindNe : kind ≠ .failed) (notFailed : status ≠ .failed)
    (beyond : ¬ order.idxOf kind.status ≤ order.idxOf status) :
    transitionFor kind status =
      if order.idxOf kind.status ≤ order.idxOf status + 1 then .changed else .retry := by
  cases kind <;> cases status <;>
    first
    | exact absurd rfl kindNe
    | exact absurd rfl notFailed
    | exact absurd (by decide) beyond
    | decide

/-- A message that waits resolves if the version has reached the status before its own, and
throws otherwise. -/
theorem handle_waiting (accounts : published.Accounts old broker)
    (unused : published.Unused old) (kindNe : kind ≠ .failed)
    (waits : broker.progress kind ≠ .acked) :
    ∃ version, broker.db.version? request.sourceVersionId = some version ∧
      (order.idxOf kind.status ≤ order.idxOf version.processingStatus + 1 ∧
        (∃ target, handle host kind (published.value kind) (.ok (published.claims kind)) broker.db =
          (.ok true, target) ∧ request.Tracked target ∧ target.receipts = broker.db.receipts ++
            [(published.event kind).receipt (published.jti kind)]) ∨
      ¬ order.idxOf kind.status ≤ order.idxOf version.processingStatus + 1 ∧
        ∃ thrown, handle host kind (published.value kind) (.ok (published.claims kind)) broker.db =
          (.error thrown, broker.db)) := by
  obtain ⟨fresh, untaken⟩ := fresh_of_waiting accounts unused kindNe waits
  obtain ⟨source, version, rows, dated, explained⟩ := accounts.tracked.rows
  obtain ⟨sourceFound, versionFound⟩ := found_of_concerns rows (published.concerns kind kindNe)
  have notFailed : version.processingStatus ≠ .failed :=
    fun failed => accounts.unfailed (explained.failed failed)
  have beyond : ¬ order.idxOf kind.status ≤ order.idxOf version.processingStatus := by
    rw [← explained.reached notFailed kind kindNe, ← accounts.acked kind kindNe]
    exact waits
  have idEq : version.id = request.sourceVersionId := Table.key_of_get? rows.versionEq
  have outcome : applyTransition kind source version =
      if order.idxOf kind.status ≤ order.idxOf version.processingStatus + 1 then .changed
      else .retry := by
    rw [applyTransition_of_current (rows.current.trans (congrArg some idEq.symm))]
    exact transitionFor_beyond kindNe notFailed beyond
  have handleEq : handle host kind (published.value kind) (.ok (published.claims kind)) broker.db =
      settle ⟨kind, published.event kind, published.jti kind⟩ broker.db :=
    handle_fresh (published.read kind kindNe) fresh (published.authorized kind kindNe)
      (published.valid kind kindNe)
  rw [handleEq]
  refine ⟨version, rows.versionEq, ?_⟩
  by_cases next : order.idxOf kind.status ≤ order.idxOf version.processingStatus + 1
  · left
    rw [if_pos next] at outcome
    have changes : ∃ target, settle ⟨kind, published.event kind, published.jti kind⟩ broker.db =
        (.ok true, target) := settle_changed fresh untaken sourceFound versionFound outcome
    obtain ⟨target, settleEq⟩ := changes
    have settles := settles_of_ok settleEq
    have typeEq : (published.event kind).eventType = kind.subject :=
      readEvent_eventType (published.read kind kindNe)
    have kept : request.Tracked target := by
      have tracked : request.Tracked
          (settle ⟨kind, published.event kind, published.jti kind⟩ broker.db).2 :=
        (tracked_settle accounts.tracked fun _ => typeEq).1
      rw [settleEq] at tracked
      exact tracked
    refine ⟨next, target, settleEq, kept, ?_⟩
    cases settles with
    | moved => rfl
  · right
    rw [if_neg next] at outcome
    have throws : settle ⟨kind, published.event kind, published.jti kind⟩ broker.db =
        (.error (.error "Source lifecycle event arrived before its prerequisite"), broker.db) :=
      settle_retry fresh sourceFound versionFound outcome
    exact ⟨next, _, throws⟩

/-! ## Runs of the consumers -/

/-- No message has been given up. -/
def Broker.Lossless (broker : Broker) : Prop := ∀ kind, broker.progress kind ≠ .termed

theorem lossless_update {progress : Progress} (before : broker.progress kind ≠ .termed)
    (after : progress ≠ .termed) :
    Broker.Lossless ⟨db, Function.update broker.progress kind progress⟩ ↔ broker.Lossless := by
  apply forall_congr'
  intro other
  dsimp only
  by_cases same : other = kind
  · subst same
    rw [Function.update_self]
    exact iff_of_true after before
  · rw [Function.update_of_ne same]

/-- A message that is put in another state than `acked`, before and after. -/
theorem accounts_update {progress : Progress} (accounts : published.Accounts old broker)
    (kindNe : kind ≠ .failed) (waits : broker.progress kind ≠ .acked) (stays : progress ≠ .acked)
    (few : ∀ deliveries, progress = .waiting deliveries → deliveries ≤ 2) :
    published.Accounts old ⟨broker.db, Function.update broker.progress kind progress⟩ where
  tracked := accounts.tracked
  unfailed := accounts.unfailed
  unsent := by
    dsimp only
    rw [Function.update_of_ne kindNe.symm]
    exact accounts.unsent
  acked := by
    intro other otherNe
    dsimp only
    by_cases same : other = kind
    · subst same
      rw [Function.update_self, ← accounts.acked other otherNe]
      exact iff_of_false stays waits
    · rw [Function.update_of_ne same]
      exact accounts.acked other otherNe
  own := by
    intro receipt receiptMem
    rcases accounts.own receipt receiptMem with before | ⟨other, otherNe, ackedOther, receiptEq⟩
    · exact Or.inl before
    · right
      refine ⟨other, otherNe, ?_, receiptEq⟩
      have apart : other ≠ kind := by
        rintro rfl
        exact waits ackedOther
      dsimp only
      rw [Function.update_of_ne apart]
      exact ackedOther
  few := by
    intro other deliveries otherEq
    dsimp only at otherEq
    by_cases same : other = kind
    · subst same
      rw [Function.update_self] at otherEq
      exact few deliveries otherEq
    · rw [Function.update_of_ne same] at otherEq
      exact accounts.few other deliveries otherEq

/-- A message whose event has got its receipt. -/
theorem accounts_acked (accounts : published.Accounts old broker) (kindNe : kind ≠ .failed)
    (waits : broker.progress kind ≠ .acked) (tracked : request.Tracked target)
    (receiptsEq : target.receipts = broker.db.receipts ++
      [(published.event kind).receipt (published.jti kind)]) :
    published.Accounts old ⟨target, Function.update broker.progress kind .acked⟩ := by
  have own : ((published.event kind).receipt (published.jti kind)).sourceVersionId =
      request.sourceVersionId := (published.concerns kind kindNe).1
  have typeEq : ((published.event kind).receipt (published.jti kind)).eventType = kind.subject :=
    readEvent_eventType (published.read kind kindNe)
  have recorded : ∀ wanted, request.Recorded target.receipts wanted ↔
      request.Recorded broker.db.receipts wanted ∨ wanted = kind := by
    intro wanted
    rw [receiptsEq]
    exact recorded_append own typeEq wanted
  constructor
  · exact tracked
  · rw [recorded]
    rintro (before | same)
    · exact accounts.unfailed before
    · exact kindNe same.symm
  · dsimp only
    rw [Function.update_of_ne kindNe.symm]
    exact accounts.unsent
  · intro other otherNe
    rw [recorded]
    dsimp only
    by_cases same : other = kind
    · subst same
      rw [Function.update_self]
      exact iff_of_true rfl (Or.inr rfl)
    · rw [Function.update_of_ne same, accounts.acked other otherNe, or_iff_left same]
  · intro receipt receiptMem
    rw [receiptsEq] at receiptMem
    rcases List.mem_append.mp receiptMem with before | new
    · rcases accounts.own receipt before with first | ⟨other, otherNe, ackedOther, receiptEq⟩
      · exact Or.inl first
      · right
        refine ⟨other, otherNe, ?_, receiptEq⟩
        have apart : other ≠ kind := by
          rintro rfl
          exact waits ackedOther
        dsimp only
        rw [Function.update_of_ne apart]
        exact ackedOther
    · exact Or.inr ⟨kind, kindNe, Function.update_self .., List.mem_singleton.mp new⟩
  · intro other deliveries otherEq
    dsimp only at otherEq
    by_cases same : other = kind
    · subst same
      rw [Function.update_self] at otherEq
      cases otherEq
    · rw [Function.update_of_ne same] at otherEq
      exact accounts.few other deliveries otherEq

/-- What a step keeps: the accounts, and that messages are given up; a message is given up
exactly by a third delivery that comes too early. -/
theorem consumers_step {action : BrokerAction} {after : Broker}
    (accounts : published.Accounts old broker) (unused : published.Unused old)
    (stepEq : published.consumers broker action = some after) :
    published.Accounts old after ∧ (after.Lossless ↔ broker.Lossless ∧
      request.InTime broker action) := by
  cases action with
  | publish kind =>
      obtain ⟨⟨kindNe, unpublished, _⟩, afterEq⟩ := Option.ite_none_right_eq_some.mp stepEq
      cases afterEq
      have waits : broker.progress kind ≠ .acked := by
        rw [unpublished]
        exact nofun
      have alive : broker.progress kind ≠ .termed := by
        rw [unpublished]
        exact nofun
      have inTime : request.InTime broker (.publish kind) := trivial
      rw [and_iff_left inTime]
      constructor
      · have stays : Progress.waiting 0 ≠ .acked := nofun
        apply accounts_update accounts kindNe waits stays
        rintro deliveries ⟨⟩
        exact Nat.zero_le 2
      · exact lossless_update alive nofun
  | deliver kind =>
      rw [Publication.consumers] at stepEq
      cases progressEq : broker.progress kind with
      | unpublished | acked | termed =>
          rw [progressEq] at stepEq
          cases stepEq
      | waiting deliveries =>
          rw [progressEq] at stepEq
          cases stepEq
          have kindNe : kind ≠ .failed := by
            rintro rfl
            rw [accounts.unsent] at progressEq
            cases progressEq
          have waits : broker.progress kind ≠ .acked := by
            rw [progressEq]
            exact nofun
          have alive : broker.progress kind ≠ .termed := by
            rw [progressEq]
            exact nofun
          have few := accounts.few kind deliveries progressEq
          obtain ⟨version, versionEq, ⟨next, target, handleEq, tracked, receiptsEq⟩ |
            ⟨early, thrown, handleEq⟩⟩ := handle_waiting accounts unused kindNe waits
          · have inTime : request.InTime broker (.deliver kind) := by
              intro _ found foundEq
              cases versionEq.symm.trans foundEq
              exact next
            rw [delivered_of_ok handleEq, and_iff_left inTime]
            exact ⟨accounts_acked accounts kindNe waits tracked receiptsEq,
              lossless_update alive nofun⟩
          · rw [delivered_of_error handleEq]
            by_cases last : 2 ≤ deliveries
            · rw [if_pos last]
              constructor
              · exact accounts_update accounts kindNe waits nofun nofun
              · apply iff_of_false
                · intro lossless
                  exact lossless kind (Function.update_self ..)
                · rintro ⟨_, inTime⟩
                  have third : broker.progress kind = .waiting 2 := by
                    rw [progressEq, Nat.le_antisymm few last]
                  exact early (inTime third version versionEq)
            · rw [if_neg last]
              have inTime : request.InTime broker (.deliver kind) := by
                intro third
                rw [progressEq] at third
                cases third
                exact absurd (Nat.le_refl 2) last
              rw [and_iff_left inTime]
              constructor
              · have stays : Progress.waiting (deliveries + 1) ≠ .acked := nofun
                apply accounts_update accounts kindNe waits stays
                rintro more ⟨⟩
                omega
              · exact lossless_update alive nofun

/-- What a run keeps: the messages given up are those whose third delivery comes too early. -/
theorem consumers_run {actions : List BrokerAction} {after : Broker}
    (accounts : published.Accounts old broker) (unused : published.Unused old)
    (runEq : published.consumers.run broker actions = some after) :
    published.Accounts old after ∧ (after.Lossless ↔ broker.Lossless ∧
      published.consumers.Meets request.InTime broker actions) := by
  induction actions generalizing broker with
  | nil =>
      cases runEq
      exact ⟨accounts, (and_iff_left trivial).symm⟩
  | cons action rest ih =>
      obtain ⟨next, stepEq, restEq⟩ := Step.run_cons_eq_some_iff.mp runEq
      obtain ⟨nextAccounts, nextIff⟩ := consumers_step accounts unused stepEq
      obtain ⟨afterAccounts, afterIff⟩ := ih nextAccounts restEq
      constructor
      · exact afterAccounts
      · rw [afterIff, nextIff, and_assoc]
        apply and_congr_right
        intro _
        apply and_congr_right
        intro _
        constructor
        · intro met other otherEq
          cases stepEq.symm.trans otherEq
          exact met
        · intro met
          exact met next stepEq

/-- The accounts of a broker after an upload. -/
theorem accounts_created {start : Consumers} (fresh : request.Fresh start) :
    published.Accounts start.db.receipts (Broker.start (start.created request).db) := by
  have receiptsEq : (start.created request).db.receipts = start.db.receipts :=
    upload_receipts fresh.unused
  have unrecorded : ∀ kind, ¬ request.Recorded (start.created request).db.receipts kind := by
    rintro kind ⟨receipt, receiptMem, own, _⟩
    rw [receiptsEq] at receiptMem
    exact fresh.unrecorded receipt receiptMem own
  constructor
  · exact tracked_created fresh
  · exact unrecorded .failed
  · rfl
  · intro kind _
    exact iff_of_false nofun (unrecorded kind)
  · intro receipt receiptMem
    exact Or.inl (receiptsEq ▸ receiptMem)
  · rintro kind deliveries ⟨⟩

/-! ## When an upload becomes indexed -/

/-- The version and the source of an upload are indexed. -/
def Upload.Indexed (request : Upload) (db : SourceDb) : Prop :=
  ∃ source version, request.Rows db source version ∧ version.processingStatus = .indexed ∧
    source.status = .indexed

theorem indexed_of_reached (notFailed : status ≠ .failed) :
    order.idxOf SourceLifecycleKind.indexed.status ≤ order.idxOf status ↔ status = .indexed := by
  cases status <;> first | exact absurd rfl notFailed | decide

/-- An upload is indexed when the last of the messages is acknowledged. -/
theorem indexed_iff_acked (accounts : published.Accounts old broker) :
    request.Indexed broker.db ↔ broker.progress .indexed = .acked := by
  obtain ⟨source, version, rows, _, explained⟩ := accounts.tracked.rows
  have notFailed : version.processingStatus ≠ .failed :=
    fun failed => accounts.unfailed (explained.failed failed)
  have ownRows : request.Indexed broker.db ↔ version.processingStatus = .indexed := by
    constructor
    · rintro ⟨_, other, otherRows, statusEq, _⟩
      cases rows.versionEq.symm.trans otherRows.versionEq
      exact statusEq
    · intro statusEq
      refine ⟨source, version, rows, statusEq, ?_⟩
      rw [rows.mirrored, statusEq]
      rfl
  rw [ownRows, accounts.acked .indexed (by decide), explained.reached notFailed .indexed (by decide),
    indexed_of_reached notFailed]

/-- Once the last of the messages is acknowledged, all are. -/
theorem lossless_of_acked (accounts : published.Accounts old broker)
    (last : broker.progress .indexed = .acked) : broker.Lossless := by
  obtain ⟨source, version, rows, _, explained⟩ := accounts.tracked.rows
  have notFailed : version.processingStatus ≠ .failed :=
    fun failed => accounts.unfailed (explained.failed failed)
  have ended : order.idxOf SourceLifecycleKind.indexed.status ≤
      order.idxOf version.processingStatus := by
    rw [← explained.reached notFailed .indexed (by decide), ← accounts.acked .indexed (by decide)]
    exact last
  intro kind given
  by_cases kindEq : kind = .failed
  · subst kindEq
    cases accounts.unsent.symm.trans given
  · have before : order.idxOf kind.status ≤ order.idxOf version.processingStatus := by
      apply Nat.le_trans _ ended
      cases kind <;> first | exact absurd rfl kindEq | decide
    rw [← explained.reached notFailed kind kindEq, ← accounts.acked kind kindEq, given] at before
    cases before

/-- After an upload and a run of its consumers that leaves nothing to deliver, the version and
the source are indexed exactly when every message that was delivered for the third time found
the version at the status before its own, or beyond. -/
theorem uploaded_indexed_iff {host : Host} {request : Upload}
    (published : Publication host request) {start : Consumers} {actions : List BrokerAction}
    {after : Broker} (fresh : request.Fresh start) (unused : published.Unused start.db.receipts)
    (runEq : published.consumers.run (.start (start.created request).db) actions = some after)
    (done : after.Done) :
    request.Indexed after.db ↔
      published.consumers.Meets request.InTime (.start (start.created request).db) actions := by
  have startLossless : (Broker.start (start.created request).db).Lossless := nofun
  obtain ⟨accounts, losslessIff⟩ := consumers_run (accounts_created fresh) unused runEq
  rw [and_iff_right startLossless] at losslessIff
  rw [indexed_iff_acked accounts, ← losslessIff]
  constructor
  · exact lossless_of_acked accounts
  · intro lossless
    rcases done .indexed (by decide) with acked | given
    · exact acked
    · exact absurd given (lossless .indexed)

/-- The three events about the version of the example. -/
def examplePublication : Publication exampleHost exampleUpload where
  value := exampleValue
  claims := exampleClaims
  event := exampleEvent
  jti := SourceLifecycleKind.text
  read := by
    intro kind kindNe
    cases kind <;> first | exact absurd rfl kindNe | decide
  authorized := by
    intro kind kindNe
    cases kind <;> first | exact absurd rfl kindNe | decide
  valid := by
    intro kind kindNe
    cases kind <;> first | exact absurd rfl kindNe | decide
  concerns := fun _ _ => ⟨rfl, rfl, rfl, rfl⟩
  ids := by
    intro first _ second _ same
    cases first <;> cases second <;> first | rfl | exact absurd same (by decide)
  tokens := by
    intro first _ second _ same
    cases first <;> cases second <;> first | rfl | exact absurd same (by decide)

/-- The broker after the upload of the example. -/
def exampleBroker : Broker := .start (exampleStart.created exampleUpload).db

/-- The three messages are published, and delivered in their order. -/
def exampleActions : List BrokerAction :=
  [.publish .processing, .publish .extracted, .publish .indexed, .deliver .processing,
    .deliver .extracted, .deliver .indexed]

/-- What has become of the three messages. -/
def Broker.progresses (broker : Broker) : List Progress :=
  [broker.progress .processing, broker.progress .extracted, broker.progress .indexed]

theorem done_of_progresses {broker : Broker}
    (ended : ∀ progress ∈ broker.progresses, progress = .acked ∨ progress = .termed) :
    broker.Done := by
  intro kind kindNe
  cases kind with
  | processing => exact ended _ (List.mem_cons_self ..)
  | extracted => exact ended _ (List.mem_cons_of_mem _ (List.mem_cons_self ..))
  | indexed =>
      exact ended _ (List.mem_cons_of_mem _ (List.mem_cons_of_mem _ (List.mem_cons_self ..)))
  | failed => exact absurd rfl kindNe

theorem uploaded_indexed_iff_example :
    ∃ after, examplePublication.consumers.run exampleBroker exampleActions = some after ∧
      (exampleUpload.Indexed after.db ↔
        examplePublication.consumers.Meets exampleUpload.InTime exampleBroker exampleActions) := by
  have traced : (examplePublication.consumers.run exampleBroker exampleActions).map
      Broker.progresses = some [.acked, .acked, .acked] := by
    decide +kernel
  obtain ⟨after, runEq, progressesEq⟩ := Option.map_eq_some_iff.mp traced
  have done : after.Done := by
    apply done_of_progresses
    rw [progressesEq]
    decide
  have unused : examplePublication.Unused exampleStart.db.receipts := nofun
  exact ⟨after, runEq, uploaded_indexed_iff examplePublication exampleUpload_fresh unused runEq done⟩

/-- The message of the extraction is delivered three times before that of the processing: it
is given up, and then so is the last. -/
def exampleOvertaken : List BrokerAction :=
  [.publish .processing, .publish .extracted, .publish .indexed, .deliver .extracted,
    .deliver .extracted, .deliver .extracted, .deliver .processing, .deliver .indexed,
    .deliver .indexed, .deliver .indexed]

theorem upload_unindexed :
    ∃ after, examplePublication.consumers.run exampleBroker exampleOvertaken = some after ∧
      after.Done ∧ ¬ exampleUpload.Indexed after.db := by
  have traced : (examplePublication.consumers.run exampleBroker exampleOvertaken).map
      Broker.progresses = some [.acked, .termed, .termed] := by
    decide +kernel
  obtain ⟨after, runEq, progressesEq⟩ := Option.map_eq_some_iff.mp traced
  have unused : examplePublication.Unused exampleStart.db.receipts := nofun
  refine ⟨after, runEq, ?_, ?_⟩
  · apply done_of_progresses
    rw [progressesEq]
    decide
  · obtain ⟨accounts, _⟩ := consumers_run (accounts_created exampleUpload_fresh) unused runEq
    rw [indexed_iff_acked accounts]
    intro acked
    rw [Broker.progresses, acked] at progressesEq
    exact absurd progressesEq (by simp)

end Manbaa.Sources
