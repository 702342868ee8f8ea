import Manbaa.Lib.Effect
import Manbaa.Lib.Json
import Manbaa.Lib.Run

/-!
# Durable subscriptions

The loop of a durable subscription takes one message after the other: it decodes it,
validates it, hands it to the handler, and settles it.  When one of these throws, the
message is delivered again after a while, and at its third delivery it is given up, after a
word to the callback for exhausted messages.

What the decoder, the validator, the handler and the callback do is up to the subscriber,
in any world that they share.
-/

namespace Manbaa.Nats

open Manbaa.Lib Manbaa.Lib.Effect

universe u v

/-! ## The loop -/

/-- A message of the stream, as far as the loop reads it. -/
structure RawMessage where
  data : String
  redeliveryCount : Option Nat
  msgId : Option String
  deriving DecidableEq

/-- How often the message has been delivered. -/
def RawMessage.deliveryCount (message : RawMessage) : Nat := message.redeliveryCount.getD 1

/-- `SubscriberMeta`. -/
structure SubscriberMeta where
  subject : String
  deliveryCount : Nat
  msgId : Option String

/-- `ExhaustedMeta`. -/
structure ExhaustedMeta (ε : Type v) extends SubscriberMeta where
  payload : Json
  error : ε

/-- `DurableSubscriberOptions`, and the codec of the client. -/
structure DurableSubscriber (σ : Type u) (ε : Type v) where
  subject : String
  decode : String → Effect σ ε Json
  payloadType : Option (Json → Effect σ ε Unit)
  handler : Json → SubscriberMeta → Effect σ ε Unit
  onExhausted : Option (ExhaustedMeta ε → Effect σ ε Unit)

/-- How a message is settled; a refused one comes back after so many milliseconds. -/
inductive Settlement where
  | ack
  | nak (delay : Nat)
  | term
  deriving DecidableEq

/-- What the loop has done with a message: whether the handler resolved, the calls that
settle the message, and the calls of the callback. -/
structure Record where
  resolved : Bool
  settlements : List Settlement
  exhausted : Nat
  deriving DecidableEq

/-- The loop: whether it still runs, and what it has done. -/
structure Loop (σ : Type u) where
  world : σ
  running : Bool
  log : List Record

variable {σ : Type u} {ε : Type v}

namespace DurableSubscriber

variable (subscriber : DurableSubscriber σ ε)

/-- What the subscriber is told about a message. -/
def info (message : RawMessage) : SubscriberMeta :=
  { subject := subscriber.subject
    deliveryCount := message.deliveryCount
    msgId := message.msgId }

/-- The work on a decoded message. -/
def process (message : RawMessage) (payload : Json) : Effect σ ε Unit := do
  match subscriber.payloadType with
  | some validateOrReject => validateOrReject payload
  | none => pure ()
  subscriber.handler payload (subscriber.info message)

/-- The payload as the loop knows it afterwards, how the work on the message ends, and the
world that it leaves.  The payload of a message that cannot be decoded is empty. -/
def attempt (message : RawMessage) (world : σ) : Json × Except ε Unit × σ :=
  match subscriber.decode message.data world with
  | (.error thrown, world) => (.obj [], .error thrown, world)
  | (.ok payload, world) => (payload, subscriber.process message payload world)

/-- What the callback is told. -/
def exhaustion (message : RawMessage) (payload : Json) (error : ε) : ExhaustedMeta ε :=
  { subject := subscriber.subject
    deliveryCount := message.deliveryCount
    msgId := message.msgId
    payload := payload
    error := error }

/-- What is done with a message that is given up, and whether the loop goes on. -/
def exhaust (message : RawMessage) (payload : Json) (error : ε) (world : σ) :
    Record × Bool × σ :=
  match subscriber.onExhausted with
  | none => (⟨false, [.term], 0⟩, true, world)
  | some onExhausted =>
      match onExhausted (subscriber.exhaustion message payload error) world with
      | (.ok _, world) => (⟨false, [.term], 1⟩, true, world)
      | (.error _, world) => (⟨false, [], 1⟩, false, world)

/-- The body of the loop: what is done with a message, and whether the loop goes on. -/
def consume (message : RawMessage) (world : σ) : Record × Bool × σ :=
  match subscriber.attempt message world with
  | (_, .ok _, world) => (⟨true, [.ack], 0⟩, true, world)
  | (payload, .error error, world) =>
      if 3 ≤ message.deliveryCount then subscriber.exhaust message payload error world
      else (⟨false, [.nak 5000], 0⟩, true, world)

/-- The loop after a message: an exception that leaves the body ends it. -/
def receive (loop : Loop σ) (message : RawMessage) : Loop σ :=
  if loop.running then
    let (record, running, world) := subscriber.consume message loop.world
    { world := world
      running := running
      log := loop.log ++ [record] }
  else loop

/-- The loop of a subscription. -/
def subscription : Step (Loop σ) RawMessage := Step.ofTotal subscriber.receive

/-- The loop that `subscribeDurable` starts, after some messages. -/
def consumed (world : σ) (messages : List RawMessage) : Loop σ :=
  messages.foldl subscriber.receive ⟨world, true, []⟩

end DurableSubscriber

/-! ## Messages that end the loop -/

variable {subscriber : DurableSubscriber σ ε} {message : RawMessage} {loop : Loop σ}

/-- The message is settled once: acknowledged only if the handler resolved, given up only
at the third delivery or later; and the callback is called once at most. -/
structure Proper (message : RawMessage) (record : Record) : Prop where
  once : ∃ settlement, record.settlements = [settlement]
  acked : .ack ∈ record.settlements → record.resolved = true
  termed : .term ∈ record.settlements → 3 ≤ message.deliveryCount
  exhausted : record.exhausted ≤ 1

/-- The loop runs, and has dealt properly with every message. -/
def Endures (messages : List RawMessage) (loop : Loop σ) : Prop :=
  loop.running = true ∧ List.Forall₂ Proper messages loop.log

/-- The message has been delivered three times, and both the work on it and the callback
throw. -/
def Escapes (subscriber : DurableSubscriber σ ε) (loop : Loop σ) (message : RawMessage) : Prop :=
  3 ≤ message.deliveryCount ∧ ∃ payload error world thrown,
    subscriber.attempt message loop.world = (payload, .error error, world) ∧
    ∃ onExhausted ∈ subscriber.onExhausted,
      (onExhausted (subscriber.exhaustion message payload error) world).1 = .error thrown

/-- The body of the loop deals properly with a message, or throws. -/
theorem consume_cases (subscriber : DurableSubscriber σ ε) (message : RawMessage) (loop : Loop σ) :
    ¬ Escapes subscriber loop message ∧ (subscriber.consume message loop.world).2.1 = true ∧
        Proper message (subscriber.consume message loop.world).1 ∨
      Escapes subscriber loop message ∧ (subscriber.consume message loop.world).2.1 = false := by
  rcases attemptEq : subscriber.attempt message loop.world with ⟨payload, error | done, world⟩
  · by_cases third : 3 ≤ message.deliveryCount
    · have consumeEq : subscriber.consume message loop.world =
          subscriber.exhaust message payload error world := by
        rw [DurableSubscriber.consume, attemptEq]
        exact if_pos third
      rw [consumeEq, DurableSubscriber.exhaust]
      cases callbackEq : subscriber.onExhausted with
      | none =>
          left
          refine ⟨?_, rfl, ⟨⟨.term, rfl⟩, nofun, fun _ => third, Nat.zero_le 1⟩⟩
          rintro ⟨_, _, _, _, _, _, onExhausted, given, _⟩
          rw [callbackEq] at given
          cases given
      | some onExhausted =>
          rcases resultEq : onExhausted (subscriber.exhaustion message payload error) world with
            ⟨thrown | done, reached⟩
          · right
            refine ⟨⟨third, payload, error, world, thrown, attemptEq, onExhausted, callbackEq, ?_⟩,
              ?_⟩
            · rw [resultEq]
            · dsimp only
              rw [resultEq]
          · left
            dsimp only
            rw [resultEq]
            refine ⟨?_, rfl, ⟨⟨.term, rfl⟩, nofun, fun _ => third, Nat.le_refl 1⟩⟩
            rintro ⟨_, _, _, _, _, otherEq, other, given, threw⟩
            cases attemptEq.symm.trans otherEq
            cases callbackEq.symm.trans given
            rw [resultEq] at threw
            cases threw
    · left
      have consumeEq : subscriber.consume message loop.world =
          (⟨false, [.nak 5000], 0⟩, true, world) := by
        rw [DurableSubscriber.consume, attemptEq]
        exact if_neg third
      rw [consumeEq]
      exact ⟨fun escapes => third escapes.1, rfl, ⟨⟨.nak 5000, rfl⟩, by simp, by simp,
        Nat.zero_le 1⟩⟩
  · left
    have consumeEq : subscriber.consume message loop.world = (⟨true, [.ack], 0⟩, true, world) := by
      rw [DurableSubscriber.consume, attemptEq]
    rw [consumeEq]
    refine ⟨?_, rfl, ⟨⟨.ack, rfl⟩, fun _ => rfl, by simp, Nat.zero_le 1⟩⟩
    rintro ⟨_, _, _, _, _, otherEq, _⟩
    cases attemptEq.symm.trans otherEq

/-! ## Runs of the loop -/

theorem receive_running (running : loop.running = true) :
    subscriber.receive loop message =
      { world := (subscriber.consume message loop.world).2.2
        running := (subscriber.consume message loop.world).2.1
        log := loop.log ++ [(subscriber.consume message loop.world).1] } := by
  rw [DurableSubscriber.receive, if_pos running]

/-- A loop that has ended receives nothing. -/
theorem foldl_ended (ended : loop.running = false) (messages : List RawMessage) :
    messages.foldl subscriber.receive loop = loop := by
  induction messages with
  | nil => rfl
  | cons message rest ih =>
      have same : subscriber.receive loop message = loop := by
        rw [DurableSubscriber.receive, ended]
        rfl
      rw [List.foldl_cons, same, ih]

/-- The log only grows. -/
theorem log_grows (subscriber : DurableSubscriber σ ε) (loop : Loop σ)
    (messages : List RawMessage) :
    ∃ more, (messages.foldl subscriber.receive loop).log = loop.log ++ more := by
  induction messages generalizing loop with
  | nil => exact ⟨[], (List.append_nil _).symm⟩
  | cons message rest ih =>
      obtain ⟨more, moreEq⟩ := ih (subscriber.receive loop message)
      rw [List.foldl_cons, moreEq]
      cases running : loop.running with
      | false =>
          rw [DurableSubscriber.receive, running]
          exact ⟨more, rfl⟩
      | true =>
          rw [receive_running running]
          exact ⟨_, List.append_assoc _ _ _⟩

/-- A running loop deals properly with all messages that follow exactly if none of them
makes it throw. -/
theorem endures_from (running : loop.running = true) (messages : List RawMessage) :
    ((messages.foldl subscriber.receive loop).running = true ∧
        ∃ records, (messages.foldl subscriber.receive loop).log = loop.log ++ records ∧
          List.Forall₂ Proper messages records) ↔
      subscriber.subscription.Meets (fun loop message => ¬ Escapes subscriber loop message) loop
        messages := by
  induction messages generalizing loop with
  | nil =>
      apply iff_of_true
      · exact ⟨running, [], (List.append_nil _).symm, .nil⟩
      · trivial
  | cons message rest ih =>
      rw [List.foldl_cons]
      rcases consume_cases subscriber message loop with
        ⟨stays, goesOn, proper⟩ | ⟨escapes, ends⟩
      · have nextRunning : (subscriber.receive loop message).running = true := by
          rw [receive_running running]
          exact goesOn
        have nextLog : (subscriber.receive loop message).log =
            loop.log ++ [(subscriber.consume message loop.world).1] := by
          rw [receive_running running]
        have later := ih nextRunning
        rw [nextLog] at later
        constructor
        · rintro ⟨ran, records, logEq, all⟩
          refine ⟨stays, ?_⟩
          rintro next ⟨⟩
          apply later.mp
          obtain ⟨more, moreEq⟩ := log_grows subscriber (subscriber.receive loop message) rest
          have grown := moreEq
          rw [nextLog, logEq, List.append_assoc, List.append_cancel_left_eq] at moreEq
          rw [moreEq] at all
          cases all with
          | cons first others => exact ⟨ran, more, nextLog ▸ grown, others⟩
        · rintro ⟨_, met⟩
          obtain ⟨ran, records, logEq, all⟩ := later.mpr (met _ rfl)
          exact ⟨ran, _ :: records, by rw [logEq, List.append_assoc]; rfl, .cons proper all⟩
      · have nextEnded : (subscriber.receive loop message).running = false := by
          rw [receive_running running]
          exact ends
        rw [foldl_ended nextEnded]
        apply iff_of_false
        · rintro ⟨ran, _⟩
          rw [nextEnded] at ran
          cases ran
        · exact fun met => met.1 escapes

/-- The loop of a durable subscription endures a sequence of messages, finite or infinite,
exactly if no message makes both the work on it and, at the third delivery or later, the
callback for exhausted messages throw. -/
theorem subscription_endures_iff (subscriber : DurableSubscriber σ ε) (world : σ) :
    (∀ messages, Endures messages (subscriber.consumed world messages) ↔
      subscriber.subscription.Meets (fun loop message => ¬ Escapes subscriber loop message)
        ⟨world, true, []⟩ messages) ∧
    ∀ stream : Nat → RawMessage,
      (∀ count, Endures ((List.range count).map stream)
        (subscriber.consumed world ((List.range count).map stream))) ↔
      ∀ count, subscriber.subscription.Meets
        (fun loop message => ¬ Escapes subscriber loop message) ⟨world, true, []⟩
        ((List.range count).map stream) := by
  have finite : ∀ messages, Endures messages (subscriber.consumed world messages) ↔
      subscriber.subscription.Meets (fun loop message => ¬ Escapes subscriber loop message)
        ⟨world, true, []⟩ messages := by
    intro messages
    rw [← endures_from rfl messages]
    apply and_congr_right
    intro _
    constructor
    · exact fun all => ⟨_, (List.nil_append _).symm, all⟩
    · rintro ⟨records, logEq, all⟩
      rw [DurableSubscriber.consumed, logEq]
      exact all
  exact ⟨finite, fun stream => forall_congr' fun count => finite _⟩

end Manbaa.Nats
