import Manbaa.Core.Http
import Manbaa.Lib.Except

/-!
# The session state machine

The transitions of a session as a table of rules.  Most events lead from one
status to one other; three of them, the end of a session, an error and a deletion,
have a rule for many statuses.
-/

namespace Manbaa.AiGateway

open Manbaa.Lib

/-! ## The table -/

/-- How a session is led. -/
inductive SessionMode where
  | auto
  | interactive
  deriving DecidableEq

/-- The status of a session. -/
inductive SessionStatus where
  | created
  | awaitingInput
  | processing
  | draftReady
  | needsReconciliation
  | inElicitation
  | inReview
  | validated
  | exported
  | archived
  | error
  deriving DecidableEq

/-- All statuses, in the order of the enumeration. -/
def SessionStatus.values : List SessionStatus :=
  [.created, .awaitingInput, .processing, .draftReady, .needsReconciliation, .inElicitation,
    .inReview, .validated, .exported, .archived, .error]

/-- The text of a status. -/
def SessionStatus.text : SessionStatus → String
  | .created => "created"
  | .awaitingInput => "awaiting_input"
  | .processing => "processing"
  | .draftReady => "draft_ready"
  | .needsReconciliation => "needs_reconciliation"
  | .inElicitation => "in_elicitation"
  | .inReview => "in_review"
  | .validated => "validated"
  | .exported => "exported"
  | .archived => "archived"
  | .error => "error"

/-- What may happen to a session. -/
inductive SessionFsmEvent where
  | firstUserMessage
  | aiTaskPublished
  | aiResultReceived
  | aiQuestionReceived
  | userAnswerPosted
  | divergenceDetected
  | divergenceResolved
  | enterReview
  | validate
  | exportCompleted
  | userFinalizes
  | pipelineError
  | userDeletes
  deriving DecidableEq

/-- The text of an event. -/
def SessionFsmEvent.text : SessionFsmEvent → String
  | .firstUserMessage => "first_user_message"
  | .aiTaskPublished => "ai_task_published"
  | .aiResultReceived => "ai_result_received"
  | .aiQuestionReceived => "ai_question_received"
  | .userAnswerPosted => "user_answer_posted"
  | .divergenceDetected => "divergence_detected"
  | .divergenceResolved => "divergence_resolved"
  | .enterReview => "enter_review"
  | .validate => "validate"
  | .exportCompleted => "export_completed"
  | .userFinalizes => "user_finalizes"
  | .pipelineError => "pipeline_error"
  | .userDeletes => "user_deletes"

/-- A rule; one without a mode holds in both. -/
structure TransitionRule where
  source : SessionStatus
  event : SessionFsmEvent
  target : SessionStatus
  mode : Option SessionMode
  deriving DecidableEq

/-- The statuses in which a user may finalize. -/
def finalizable : List SessionStatus :=
  [.created, .awaitingInput, .processing, .inElicitation, .draftReady, .needsReconciliation,
    .inReview]

/-- `SESSION_TRANSITIONS`. -/
def sessionTransitions : List TransitionRule :=
  [⟨.created, .firstUserMessage, .awaitingInput, none⟩,
    ⟨.awaitingInput, .aiTaskPublished, .processing, none⟩,
    ⟨.processing, .aiResultReceived, .draftReady, none⟩,
    ⟨.processing, .aiQuestionReceived, .inElicitation, some .interactive⟩,
    ⟨.inElicitation, .userAnswerPosted, .processing, none⟩,
    ⟨.inElicitation, .aiTaskPublished, .processing, none⟩,
    ⟨.draftReady, .aiTaskPublished, .processing, none⟩,
    ⟨.draftReady, .aiResultReceived, .draftReady, none⟩,
    ⟨.draftReady, .divergenceDetected, .needsReconciliation, none⟩,
    ⟨.needsReconciliation, .divergenceResolved, .draftReady, none⟩,
    ⟨.draftReady, .enterReview, .inReview, none⟩,
    ⟨.inReview, .validate, .validated, none⟩,
    ⟨.validated, .exportCompleted, .exported, none⟩] ++
  finalizable.map (fun source => ⟨source, .userFinalizes, .draftReady, none⟩) ++
  SessionStatus.values.map (fun source => ⟨source, .pipelineError, .error, none⟩) ++
  SessionStatus.values.map (fun source => ⟨source, .userDeletes, .archived, none⟩)

/-- A rule without a mode, or with this one. -/
def TransitionRule.applies (rule : TransitionRule) (mode : SessionMode) : Bool :=
  rule.mode.all (· == mode)

/-- `transitionSessionStatus`. -/
def transitionSessionStatus (source : SessionStatus) (event : SessionFsmEvent)
    (mode : SessionMode) : Except Exception SessionStatus := do
  let rule ← lookUp
    (sessionTransitions.find? fun candidate =>
      candidate.source == source && candidate.event == event && candidate.applies mode)
    (.unprocessableEntity
      ("Invalid session transition: " ++ source.text ++ " + " ++ event.text))
  pure rule.target

/-- `canTransitionTo`. -/
def canTransitionTo (source target : SessionStatus) (mode : SessionMode) : Bool :=
  sessionTransitions.any fun candidate =>
    candidate.source == source && candidate.target == target && candidate.applies mode

/-! ## Transitions are rules -/

variable {source target : SessionStatus} {event : SessionFsmEvent} {mode : SessionMode}

/-- A transition is justified by the rule that was found. -/
theorem transition_rule (transitionEq : transitionSessionStatus source event mode = .ok target) :
    ∃ rule ∈ sessionTransitions, rule.source = source ∧ rule.event = event ∧
      rule.target = target ∧ rule.applies mode = true := by
  obtain ⟨rule, ruleEq, pureEq⟩ := except_bind_eq_ok_iff.mp transitionEq
  have found := lookUp_eq_ok_iff.mp ruleEq
  have ruleMem := List.mem_of_find?_eq_some found
  have matching := List.find?_some found
  simp only [Bool.and_eq_true, beq_iff_eq] at matching
  exact ⟨rule, ruleMem, matching.1.1, matching.1.2, Except.ok.inj pureEq, matching.2⟩

theorem canTransitionTo_iff : canTransitionTo source target mode = true ↔
    ∃ rule ∈ sessionTransitions, rule.source = source ∧ rule.target = target ∧
      rule.applies mode = true := by
  simp [canTransitionTo, List.any_eq_true, and_assoc]

/-- What an event does, an override may do. -/
theorem canTransitionTo_of_transition
    (transitionEq : transitionSessionStatus source event mode = .ok target) :
    canTransitionTo source target mode = true := by
  obtain ⟨rule, ruleMem, sourceEq, _, targetEq, applies⟩ := transition_rule transitionEq
  exact canTransitionTo_iff.mpr ⟨rule, ruleMem, sourceEq, targetEq, applies⟩

/-- From the archive a rule leads to an error or back into the archive. -/
theorem canTransitionTo_archived (mode : SessionMode) :
    canTransitionTo .archived target mode = true ↔ target = .error ∨ target = .archived := by
  cases mode <;> cases target <;> decide

/-- From an error a rule leads back to it or into the archive. -/
theorem canTransitionTo_error (mode : SessionMode) :
    canTransitionTo .error target mode = true ↔ target = .error ∨ target = .archived := by
  cases mode <;> cases target <;> decide

/-- A result is received while one is awaited, or after one has been. -/
theorem transition_result (source : SessionStatus) (mode : SessionMode) :
    transitionSessionStatus source .aiResultReceived mode =
      if source = .processing ∨ source = .draftReady then .ok .draftReady
      else .error (.unprocessableEntity
        ("Invalid session transition: " ++ source.text ++ " + ai_result_received")) := by
  cases source <;> rfl

end Manbaa.AiGateway
