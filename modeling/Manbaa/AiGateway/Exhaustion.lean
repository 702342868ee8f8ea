import Manbaa.AiGateway.Delivery
import Manbaa.Nats.Subscription

/-!
# The subscription to results

The subscriber of results registers a handler and, for messages that are exhausted, the
`RetryExhaustedHandler`.  That one reads the payload as it was sent, whatever it is, and
throws when reading it, or one of its own calls, fails.
-/

namespace Manbaa.AiGateway

open Manbaa.Lib Manbaa.Lib.Effect Manbaa.Nats

/-- A property of a value; `null` has none that could be read, and `null` as a property is as
good as none. -/
def readField (payload : Json) (key : String) : Calls (Option Json) :=
  locally <| asking fun _ =>
    match payload with
    | .null => .error (.error ("Cannot read properties of null (reading '" ++ key ++ "')"))
    | .obj fields => .ok ((fields.lookup key).filter fun value => value != .null)
    | _ => .ok none

/-- A value that counts as true in a condition. -/
def truthy : Option Json → Bool
  | none | some .null | some (.bool false) => false
  | some (.num value) => value != 0
  | some (.str text) => text != ""
  | some _ => true

/-- The pipeline under the identifier that a payload names. -/
def findPipeline (id : Option Json) : Calls (Option PipelineExecution) :=
  match id with
  | some (.str text) =>
      query (reading fun db => db.pipelines.find? fun pipeline => pipeline.id.text == text)
  | _ => query (throwing (.error "invalid input syntax for type uuid"))

/-- `RetryExhaustedHandler.handle`, for any payload. -/
def exhaust (subject : String) (payload : Json) (now deliveryCount : Nat) (lastError : String) :
    Calls Unit := do
  let pipelineExecutionId ← readField payload "pipeline_execution_id"
  let sessionId ← readField payload "session_id"
  if truthy pipelineExecutionId then
    let found ← findPipeline pipelineExecutionId
    match found with
    | none => pure ()
    | some pipeline =>
        query (writing fun db => db.writePipeline (pipeline.exhausted now lastError))
  if truthy sessionId then external
  query (writing fun db =>
    { db with
      deadLetters := db.deadLetters ++
        [{ subject := subject
           payload := payload
           reason := "max deliveries reached for " ++ subject
           deliveryCount := deliveryCount
           lastError := some lastError }] })

/-- The subscription to results, with the codec of the client and any handler. -/
def resultSubscription (decode : String → Calls Json)
    (handler : Json → SubscriberMeta → Calls Unit) (messageOf : Exception → String) (now : Nat) :
    DurableSubscriber (Faulty Gateway) Exception where
  subject := aiTasksResult
  decode := decode
  payloadType := none
  handler := handler
  onExhausted := some fun info =>
    exhaust aiTasksResult info.payload now info.deliveryCount (messageOf info.error)

/-! ## A message that ends the subscription -/

/-- A message whose payload is `null`, delivered for the third time. -/
def exampleNull : RawMessage where
  data := "null"
  redeliveryCount := some 3
  msgId := none

/-- The handler reads the session of the payload. -/
def exampleSubscription : DurableSubscriber (Faulty Gateway) Exception :=
  resultSubscription (fun _ => pure .null)
    (fun payload _ => do
      let _ ← readField payload "session_id"
      pure ())
    (fun _ => "TypeError") 0

/-- After a message with the payload `null` the subscription to results has ended, although no
call has failed: the message is not settled, and no other is received. -/
theorem subscription_ended :
    ¬ Endures [exampleNull]
      (exampleSubscription.consumed ⟨exampleGateway .processing, none⟩ [exampleNull]) := by
  rintro ⟨running, _⟩
  exact absurd running (by decide +kernel)

end Manbaa.AiGateway
