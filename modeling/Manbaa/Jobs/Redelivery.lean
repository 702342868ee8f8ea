import Manbaa.Jobs.Settlement
import Manbaa.Lib.Outage

/-!
# Events that are delivered again

The handler of worker events validates the token of an event before it reads or
writes anything, and a token is good for one use.  When a later call of the handler
fails, the broker delivers the same event, with the same token, once more.

The calls of the handler are followed one by one.  A call that fails has done nothing,
and wherever in a transaction a statement fails, nothing of it is kept: it counts as one
call.  Calls that touch neither the tables nor the tokens, such as notifications, audit
rows and broadcasts, are `external`.
-/

namespace Manbaa.Jobs

open Manbaa.Lib Manbaa.Lib.Effect Manbaa.Workspaces Manbaa.Usage

/-! ## The handler -/

/-- The database, and the identifiers of the tokens that have been used. -/
structure Intake where
  db : PlatformDb
  usedTokens : List String

/-- A computation whose calls may fail. -/
abbrev Calls := Effect (Faulty Intake) Exception

/-- What a call throws that fails. -/
def disconnected : Exception := .error "Connection terminated unexpectedly"

/-- A call of the database. -/
def query {α : Type} (body : Statements α) : Calls α :=
  calling disconnected (zoom Intake.db (fun db intake => { intake with db := db }) body)

/-- A call of something else. -/
def external : Calls Unit := calling disconnected (pure ())

/-- So many calls of something else. -/
def externals : Nat → Calls Unit
  | 0 => pure ()
  | count + 1 => do
      external
      externals count

/-- `markOnce` in `validate`, for a token that has been verified. -/
def validate (jti : String) : Calls Unit :=
  locally do
    let used ← reading fun intake => intake.usedTokens.contains jti
    require (!used) (.unauthorized "Internal token replay detected")
    writing fun intake => { intake with usedTokens := intake.usedTokens ++ [jti] }

/-- `createOrUpdate`, call by call. -/
def storeSuggestion (input : CanvasAiSuggestion) : Calls Unit := do
  let existing ← query (reading fun db => db.suggestionOf? input)
  query (writing fun db => db.writeSuggestion (input.refresh existing))
  if existing.isSome then pure () else external

/-- How many notifications and audit rows follow the write of a task. -/
def notices (kind : TaskEventKind) (entity : AiTask) : Nat :=
  match kind with
  | .completed | .failed => if entity.status = .stale then 1 else 2
  | _ => 0

/-- What follows the write of a task: the notices, the suggestion or the word to the
canvas, and the broadcast to the rooms of the task, of the workspace and of the user. -/
def report (kind : TaskEventKind) (entity : AiTask) (suggestion : Option CanvasAiSuggestion) :
    Calls Unit := do
  externals (notices kind entity)
  match suggestion with
  | some input => storeSuggestion input
  | none => if entity.canvasId.isSome then external else pure ()
  externals 3

/-- A message of a worker: what it says about a task, and its token. -/
structure TaskMessage where
  kind : TaskEventKind
  event : TaskEvent
  jti : String

/-- One delivery: its time, the identifier that the database would generate, and how many
calls succeed before one fails, if one does. -/
structure Delivery where
  now : Nat
  suggestionId : Uuid
  left : Option Nat

/-- The event, as it is handled in a delivery. -/
def TaskMessage.during (message : TaskMessage) (delivery : Delivery) : TaskEvent :=
  { message.event with now := delivery.now, suggestionId := delivery.suggestionId }

/-- What the handler does with the task that it has read. -/
def act (kind : TaskEventKind) (event : TaskEvent) : Reaction → Calls Unit
  | .ignored => pure ()
  | .saves entity => do
      query (Reaction.saves entity).perform
      report kind entity none
  | .settles entity settlement => do
      query (Reaction.settles entity settlement).perform
      report kind entity ((Reaction.settles entity settlement).suggests event)

/-- The check of the claims of the token. -/
def authorize (event : TaskEvent) (kind : TaskEventKind) : Calls Unit :=
  locally (require (event.authorized kind) (.error "Worker event authorization mismatch"))

/-- `handle` after the token has been validated. -/
def process (kind : TaskEventKind) (event : TaskEvent) : Calls Unit := do
  authorize event kind
  let found ← query (reading fun db => db.eventTask? event)
  let task ← orThrow found (.error "AI task scope mismatch")
  act kind event (task.react event kind)

/-- `handle`, call by call. -/
def handleMessage (message : TaskMessage) (delivery : Delivery) : Calls Unit := do
  validate message.jti
  process message.kind (message.during delivery)

/-- The deliveries of a message: the broker delivers it until the handler returns. -/
def deliver (message : TaskMessage) : List Delivery → Intake → Intake
  | [], intake => intake
  | delivery :: rest, intake =>
      match handleMessage message delivery ⟨intake, delivery.left⟩ with
      | (.ok _, world) => world.state
      | (.error _, world) => deliver message rest world.state

/-- The tables after a delivery without a failure. -/
def handled (message : TaskMessage) (delivery : Delivery) (intake : Intake) : PlatformDb :=
  (handleMessage message delivery ⟨intake, none⟩).2.state.db

/-! ## Repeated tokens -/

variable {message : TaskMessage} {delivery other : Delivery} {intake : Intake} {task entity : AiTask}
  {left : Option Nat} {event : TaskEvent} {kind : TaskEventKind} {db : PlatformDb}
  {reaction : Reaction}

/-- A token that has been used stops the handler. -/
theorem handleMessage_used (used : message.jti ∈ intake.usedTokens) :
    handleMessage message delivery ⟨intake, left⟩ =
      (.error (.unauthorized "Internal token replay detected"), ⟨intake, left⟩) := by
  apply bind_eq_error_iff.mpr
  left
  simp [validate, locally, bind, reading, require, used]

/-- So later deliveries change nothing. -/
theorem deliver_used (used : message.jti ∈ intake.usedTokens) (deliveries : List Delivery) :
    deliver message deliveries intake = intake := by
  induction deliveries with
  | nil => rfl
  | cons delivery rest ih =>
      rw [deliver, handleMessage_used used]
      exact ih

/-- The world after a token has been used. -/
def Intake.spend (intake : Intake) (jti : String) : Intake :=
  { intake with usedTokens := intake.usedTokens ++ [jti] }

/-- A token that has not been used is used up. -/
theorem handleMessage_unused (unused : message.jti ∉ intake.usedTokens) :
    handleMessage message delivery ⟨intake, left⟩ =
      process message.kind (message.during delivery) ⟨intake.spend message.jti, left⟩ := by
  have validated : validate message.jti ⟨intake, left⟩ =
      (.ok (), ⟨intake.spend message.jti, left⟩) := by
    simp [validate, locally, bind, reading, require, writing, unused, Intake.spend]
  exact bind_of_ok validated

/-! ## Calls that leave the tables alone -/

theorem quiet_external : Quiet external :=
  quiet_calling readOnly_pure

theorem quiet_externals (count : Nat) : Quiet (externals count) := by
  induction count with
  | zero => exact quiet_of_readOnly readOnly_pure
  | succ count ih => exact quiet_external.bind fun _ => ih

theorem quiet_report : Quiet (report kind entity none) := by
  apply (quiet_externals _).bind
  intro _
  dsimp only
  split
  · exact quiet_external.bind fun _ => quiet_externals 3
  · exact quiet_externals 3

/-- So many calls succeed, or one of them fails. -/
theorem externals_apply (count : Nat) (left : Option Nat) :
    externals count ⟨intake, left⟩ =
      if Allows left count then (.ok (), ⟨intake, left.map (· - count)⟩)
      else (.error disconnected, ⟨intake, none⟩) := by
  induction count generalizing left with
  | zero =>
      rw [if_pos (allows_zero left)]
      cases left with
      | none => rfl
      | some calls => rfl
  | succ count ih =>
      by_cases first : Allows left 1
      · have called : external ⟨intake, left⟩ = (.ok (), ⟨intake, left.map (· - 1)⟩) :=
          calling_of_allows first
        rw [externals, bind_of_ok called, ih]
        have enough : Allows (left.map (· - 1)) count ↔ Allows left (count + 1) := by
          rw [first.after_iff, Nat.add_comm]
        have spent : (left.map (· - 1)).map (· - count) = left.map (· - (count + 1)) := by
          rw [Option.map_map]
          congr
          funext calls
          exact (Nat.sub_sub calls 1 count).trans (by rw [Nat.add_comm])
        rw [spent]
        exact if_congr enough rfl rfl
      · have failed : external ⟨intake, left⟩ = (.error disconnected, ⟨intake, none⟩) :=
          calling_of_not_allows first
        have short : ¬ Allows left (count + 1) :=
          fun allows => first (allows.mono (Nat.le_add_left 1 count))
        rw [externals, if_neg short]
        exact bind_eq_error_iff.mpr (Or.inl failed)

/-- The computation uses no token. -/
def UsesNone {α : Type} (body : Calls α) : Prop :=
  Moves (Within fun before after => after.usedTokens = before.usedTokens) body

theorem UsesNone.bind {α β : Type} {part : Calls α} {next : α → Calls β} (first : UsesNone part)
    (second : ∀ value, UsesNone (next value)) : UsesNone (part >>= next) :=
  first.andThen (fun _ _ _ before after => after.trans before) second

theorem usesNone_of_quiet {α : Type} {body : Calls α} (quiet : Quiet body) : UsesNone body :=
  quiet.moves fun _ => rfl

theorem usesNone_query {α : Type} (body : Statements α) : UsesNone (query body) :=
  moves_calling (fun _ => rfl) fun _ => rfl

theorem usesNone_storeSuggestion (input : CanvasAiSuggestion) :
    UsesNone (storeSuggestion input) := by
  apply (usesNone_query _).bind
  intro existing
  apply (usesNone_query _).bind
  intro _
  split
  · exact usesNone_of_quiet (quiet_of_readOnly readOnly_pure)
  · exact usesNone_of_quiet quiet_external

theorem usesNone_report (suggestion : Option CanvasAiSuggestion) :
    UsesNone (report kind entity suggestion) := by
  cases suggestion with
  | none => exact usesNone_of_quiet quiet_report
  | some input =>
      apply (usesNone_of_quiet (quiet_externals _)).bind
      intro _
      exact (usesNone_storeSuggestion input).bind fun _ => usesNone_of_quiet (quiet_externals 3)

theorem usesNone_act (reaction : Reaction) : UsesNone (act kind event reaction) := by
  cases reaction with
  | ignored => exact usesNone_of_quiet (quiet_of_readOnly readOnly_pure)
  | saves entity => exact (usesNone_query _).bind fun _ => usesNone_report none
  | settles entity settlement => exact (usesNone_query _).bind fun _ => usesNone_report _

theorem usesNone_process : UsesNone (process kind event) := by
  apply (usesNone_of_quiet (quiet_locally readOnly_require)).bind
  intro _
  apply (usesNone_query _).bind
  intro found
  apply (usesNone_of_quiet (quiet_of_readOnly readOnly_orThrow)).bind
  intro task
  exact usesNone_act _

/-- However a delivery ends, the token has been used. -/
theorem used_of_handleMessage (unused : message.jti ∉ intake.usedTokens) :
    message.jti ∈ (handleMessage message delivery ⟨intake, left⟩).2.state.usedTokens := by
  rw [handleMessage_unused unused, usesNone_process ⟨intake.spend message.jti, left⟩]
  exact List.mem_append_right _ (List.mem_singleton_self _)

/-- Only the first delivery counts. -/
theorem deliver_db (unused : message.jti ∉ intake.usedTokens) (first : Delivery)
    (rest : List Delivery) :
    (deliver message (first :: rest) intake).db =
      (handleMessage message first ⟨intake, first.left⟩).2.state.db := by
  have used : message.jti ∈
      (handleMessage message first ⟨intake, first.left⟩).2.state.usedTokens :=
    used_of_handleMessage unused
  rw [deliver]
  rcases handleEq : handleMessage message first ⟨intake, first.left⟩ with ⟨thrown | done, world⟩
  · rw [handleEq] at used
    exact congrArg Intake.db (deliver_used used rest)
  · rfl

/-! ## What a delivery leaves -/

/-- What the constraints of the tables promise: identifiers and keys are unique, and
every task has its reservation. -/
structure PlatformDb.Stored (db : PlatformDb) : Prop where
  keyed : Table.Keyed AiTask.id db.tasks
  keys : Table.Keyed AiTask.idempotencyKey db.tasks
  suggestions : Table.Keyed CanvasAiSuggestion.id db.suggestions
  reserved : ∀ task ∈ db.tasks, (db.reservationOf? task).isSome

theorem PlatformDb.Stored.task?_eq (stored : db.Stored) (taskMem : task ∈ db.tasks) :
    db.task? task.id = some task :=
  stored.keyed.get?_of_mem taskMem

/-- The row that a reaction writes. -/
def Reaction.row? : Reaction → Option AiTask
  | .ignored => none
  | .saves entity => some entity
  | .settles entity _ => some entity

theorem finish_returns {usage : UsageDb ℚ} {id : Uuid} (status : UsageReservationStatus)
    (actual : ℚ) (found : (usage.reservation? id).isSome) :
    ∃ reservation target, finish id status actual usage = (.ok reservation, target) := by
  obtain ⟨reservation, foundEq⟩ := Option.isSome_iff_exists.mp found
  rw [finish_apply, foundEq]
  dsimp only
  split
  · exact ⟨_, _, rfl⟩
  · exact ⟨_, _, rfl⟩

/-- A save of a task that was read writes its row. -/
theorem saveTask_returns (stored : db.Stored) (taskMem : task ∈ db.tasks)
    (same : task.SameOwner entity) : saveTask entity db = (.ok (), db.writeTask entity) := by
  apply saveTask_eq_ok_iff.mpr
  constructor
  · intro other otherMem sameKey
    rw [same.idempotencyKey] at sameKey
    rw [stored.keys.eq otherMem taskMem sameKey, same.id]
  · rfl

theorem settleTask_returns (stored : db.Stored) (taskMem : task ∈ db.tasks)
    (same : task.SameOwner entity) (settlement : Settlement) :
    ∃ usage, settleTask entity settlement db = (.ok (), (db.writeTask entity).setUsage usage) := by
  have found : ((db.writeTask entity).usage.reservation? entity.usageReservationId).isSome := by
    rw [same.usageReservationId]
    exact stored.reserved task taskMem
  have settled : ∃ reservation usage, settlement.settle entity.usageReservationId
      (db.writeTask entity).usage = (.ok reservation, usage) := by
    cases settlement with
    | commit actual => exact finish_returns .committed actual found
    | release => exact finish_returns .released 0 found
  obtain ⟨reservation, usage, settleEq⟩ := settled
  have served : usageService (settlement.settle entity.usageReservationId) (db.writeTask entity) =
      (.ok reservation, (db.writeTask entity).setUsage usage) :=
    usageService_eq_iff.mpr ⟨usage, settleEq, rfl⟩
  exists usage
  rw [settleTask, bind_of_ok (saveTask_returns stored taskMem same), bind_of_ok served]
  rfl

/-- The write of the handler succeeds on tables that keep their constraints. -/
theorem perform_returns (stored : db.Stored) (taskMem : task ∈ db.tasks)
    (reacts : task.Reacts event kind reaction) :
    ∃ target, reaction.perform db = (.ok (), target) ∧ target.suggestions = db.suggestions ∧
      (reaction.row? = none → target = db) ∧
      ∀ row ∈ reaction.row?, target.tasks = Table.save AiTask.id db.tasks row := by
  have settles : ∀ entity settlement, task.SameOwner entity →
      ∃ target, (Reaction.settles entity settlement).perform db = (.ok (), target) ∧
        target.suggestions = db.suggestions ∧
        ((Reaction.settles entity settlement).row? = none → target = db) ∧
        ∀ row ∈ (Reaction.settles entity settlement).row?,
          target.tasks = Table.save AiTask.id db.tasks row := by
    intro entity settlement same
    obtain ⟨usage, settleEq⟩ := settleTask_returns stored taskMem same settlement
    have performed : (Reaction.settles entity settlement).perform db =
        (.ok (), (db.writeTask entity).setUsage usage) := by
      rw [Reaction.perform]
      exact transaction_eq_ok_iff.mpr settleEq
    refine ⟨_, performed, rfl, fun missing => absurd missing (Option.some_ne_none _), ?_⟩
    intro row rowEq
    obtain rfl : entity = row := Option.mem_some_iff.mp rowEq
    rfl
  cases reacts with
  | ignores =>
      refine ⟨db, rfl, rfl, fun _ => rfl, ?_⟩
      intro row rowEq
      exact absurd rowEq (Option.not_mem_none row)
  | saves _ entity same =>
      refine ⟨db.writeTask entity, saveTask_returns stored taskMem same, rfl,
        fun missing => absurd missing (Option.some_ne_none _), ?_⟩
      intro row rowEq
      obtain rfl : entity = row := Option.mem_some_iff.mp rowEq
      rfl
  | releases _ entity same => exact settles entity .release same
  | commits => exact settles (task.complete event) _ ⟨rfl, rfl, rfl, rfl⟩

/-- A query that is made. -/
theorem query_of_allows {α : Type} {body : Statements α} {value : α} {target : PlatformDb}
    (allows : Allows left 1) (bodyEq : body intake.db = (.ok value, target)) :
    query body ⟨intake, left⟩ =
      (.ok value, ⟨{ intake with db := target }, left.map (· - 1)⟩) := by
  rw [query, calling_of_allows allows, zoom, bodyEq]

theorem query_reading {α : Type} (look : PlatformDb → α) (allows : Allows left 1) :
    query (reading look) ⟨intake, left⟩ = (.ok (look intake.db), ⟨intake, left.map (· - 1)⟩) :=
  query_of_allows allows rfl

theorem query_writing (change : PlatformDb → PlatformDb) (allows : Allows left 1) :
    query (writing change) ⟨intake, left⟩ =
      (.ok (), ⟨{ intake with db := change intake.db }, left.map (· - 1)⟩) :=
  query_of_allows allows rfl

/-- A query that fails. -/
theorem query_of_not_allows {α : Type} {body : Statements α} (fails : ¬ Allows left 1) :
    query body ⟨intake, left⟩ = (.error disconnected, ⟨intake, none⟩) :=
  calling_of_not_allows fails

/-- What follows a query that fails is not reached. -/
theorem query_bind_of_not_allows {α β : Type} {body : Statements α} {next : α → Calls β}
    (fails : ¬ Allows left 1) : ((query body >>= next) ⟨intake, left⟩).2.state = intake := by
  rw [bind_eq_error_iff.mpr (Or.inl (query_of_not_allows fails))]

/-- The suggestion is written by the second of its calls. -/
theorem storeSuggestion_db (input : CanvasAiSuggestion) :
    (storeSuggestion input ⟨intake, left⟩).2.state.db =
      if Allows left 2 then
        intake.db.writeSuggestion (input.refresh (intake.db.suggestionOf? input))
      else intake.db := by
  by_cases first : Allows left 1
  · rw [storeSuggestion, bind_of_ok (query_reading _ first)]
    have last : ∀ _ : Unit, Quiet (if (intake.db.suggestionOf? input).isSome then pure ()
        else external : Calls Unit) := by
      intro _
      split
      · exact quiet_of_readOnly readOnly_pure
      · exact quiet_external
    rw [state_bind_quiet last]
    by_cases second : Allows (left.map (· - 1)) 1
    · rw [query_writing _ second, if_pos (first.after_iff.mp second)]
    · rw [query_of_not_allows second, if_neg fun allows => second (first.after_iff.mpr allows)]
  · rw [storeSuggestion, query_bind_of_not_allows first,
      if_neg fun allows => first (allows.mono (by decide))]

/-- The suggestion of a task that has been completed comes after its notices. -/
theorem report_db (completed : entity.status ≠ .stale) (input : CanvasAiSuggestion) :
    (report .completed entity (some input) ⟨intake, left⟩).2.state.db =
      if Allows left 4 then
        intake.db.writeSuggestion (input.refresh (intake.db.suggestionOf? input))
      else intake.db := by
  have count : notices .completed entity = 2 := if_neg completed
  rw [report, count]
  by_cases noticed : Allows left 2
  · have told : externals 2 ⟨intake, left⟩ = (.ok (), ⟨intake, left.map (· - 2)⟩) :=
      (externals_apply 2 left).trans (if_pos noticed)
    rw [bind_of_ok told, state_bind_quiet fun _ => quiet_externals 3, storeSuggestion_db]
    exact if_congr noticed.after_iff rfl rfl
  · have silent : externals 2 ⟨intake, left⟩ = (.error disconnected, ⟨intake, none⟩) :=
      (externals_apply 2 left).trans (if_neg noticed)
    rw [bind_eq_error_iff.mpr (Or.inl silent),
      if_neg fun allows => noticed (allows.mono (by decide))]

/-- An action that writes a row is its write and the report about it. -/
theorem act_of_row (rowEq : reaction.row? = some entity) :
    act kind event reaction = (do
      query reaction.perform
      report kind entity (reaction.suggests event)) := by
  cases reaction with
  | ignored => cases rowEq
  | saves row =>
      cases rowEq
      rfl
  | settles row settlement =>
      cases rowEq
      rfl

/-- Only a task that is completed makes a suggestion. -/
theorem suggests_of_reacts {input : CanvasAiSuggestion} (reacts : task.Reacts event kind reaction)
    (suggests : reaction.suggests event = some input) :
    kind = .completed ∧ task.active = true ∧ reaction.row? = some (task.complete event) ∧
      ∃ canvasId ∈ task.canvasId, input = task.suggestion event canvasId := by
  cases reacts with
  | ignores | saves | releases => cases suggests
  | commits active =>
      obtain ⟨canvasId, canvasEq, inputEq⟩ := Option.map_eq_some_iff.mp suggests
      exact ⟨rfl, active, rfl, canvasId, canvasEq, inputEq.symm⟩

/-- What an action leaves. -/
theorem act_db (stored : intake.db.Stored) (taskMem : task ∈ intake.db.tasks)
    (reacts : task.Reacts event kind reaction) :
    (act kind event reaction ⟨intake, left⟩).2.state.db =
      if Allows left 1 then
        match reaction.suggests event with
        | none => (reaction.perform intake.db).2
        | some input =>
            if Allows left 5 then
              (reaction.perform intake.db).2.writeSuggestion
                (input.refresh (intake.db.suggestionOf? input))
            else (reaction.perform intake.db).2
      else intake.db := by
  obtain ⟨target, performEq, suggestionsEq, unchanged, _⟩ := perform_returns stored taskMem reacts
  rw [performEq]
  cases rowEq : reaction.row? with
  | none =>
      cases reaction with
      | ignored =>
          rw [unchanged rowEq]
          exact (ite_self _).symm
      | saves _ | settles _ _ => cases rowEq
  | some entity =>
      rw [act_of_row rowEq]
      by_cases allows : Allows left 1
      · rw [bind_of_ok (query_of_allows allows performEq), if_pos allows]
        cases suggests : reaction.suggests event with
        | none => exact congrArg Intake.db (quiet_report.state_eq rfl)
        | some input =>
            obtain ⟨rfl, _, completedRow, _⟩ := suggests_of_reacts reacts suggests
            obtain rfl := Option.some.inj (rowEq.symm.trans completedRow)
            have completed : (task.complete event).status ≠ .stale := nofun
            have same : target.suggestionOf? input = intake.db.suggestionOf? input := by
              rw [PlatformDb.suggestionOf?, suggestionsEq]
              rfl
            rw [report_db completed, same]
            exact if_congr allows.after_iff rfl rfl
      · rw [query_bind_of_not_allows allows, if_neg allows]

theorem authorize_of {world : Faulty Intake} (authorized : event.authorized kind = true) :
    authorize event kind world = (.ok (), world) := by
  rw [authorize, authorized]
  rfl

/-- An event that is not authorized, or whose task is not found, changes nothing. -/
theorem process_refused (refused : event.authorized kind = false ∨
    intake.db.eventTask? event = none) :
    (process kind event ⟨intake, left⟩).2.state = intake := by
  by_cases authorized : event.authorized kind = true
  · have missing : intake.db.eventTask? event = none := by
      rcases refused with denied | missing
      · exact absurd (authorized.symm.trans denied) nofun
      · exact missing
    rw [process, bind_of_ok (authorize_of authorized)]
    by_cases allows : Allows left 1
    · rw [bind_of_ok (query_reading _ allows), missing]
      rfl
    · rw [query_bind_of_not_allows allows]
  · have stopped : authorize event kind ⟨intake, left⟩ =
        (.error (.error "Worker event authorization mismatch"), ⟨intake, left⟩) := by
      rw [authorize, Bool.eq_false_of_not_eq_true authorized]
      rfl
    rw [process, bind_eq_error_iff.mpr (Or.inl stopped)]

/-- What is left of an event whose task is found. -/
theorem process_db (stored : intake.db.Stored) (authorized : event.authorized kind = true)
    (found : intake.db.eventTask? event = some task) :
    (process kind event ⟨intake, left⟩).2.state.db =
      if Allows left 2 then
        match (task.react event kind).suggests event with
        | none => ((task.react event kind).perform intake.db).2
        | some input =>
            if Allows left 6 then
              ((task.react event kind).perform intake.db).2.writeSuggestion
                (input.refresh (intake.db.suggestionOf? input))
            else ((task.react event kind).perform intake.db).2
      else intake.db := by
  have taskMem : task ∈ intake.db.tasks :=
    Table.mem_of_get? (Option.filter_eq_some_iff.mp found).1
  rw [process, bind_of_ok (authorize_of authorized)]
  by_cases allows : Allows left 1
  · rw [bind_of_ok (query_reading _ allows), found,
      bind_of_ok (orThrow_eq_ok_iff.mpr ⟨rfl, rfl⟩),
      act_db stored taskMem (task.react_reacts event kind)]
    apply if_congr allows.after_iff
    · cases (task.react event kind).suggests event with
      | none => rfl
      | some input => exact if_congr allows.after_iff rfl rfl
    · rfl
  · rw [query_bind_of_not_allows allows, if_neg fun more => allows (more.mono (by decide))]

/-! ## Redelivery -/

/-- The event finds nothing to change. -/
def AiTask.Moot (task : AiTask) (event : TaskEvent) : TaskEventKind → Prop
  | .started => task.status ≠ .queued
  | .progress => task.status ∉ [JobStatus.running, .waitingForUser] ∨ task.advance event = task
  | .completed | .failed | .cancelled => task.status ∈ endedStatuses

/-- The suggestion is stored as it would be written. -/
def PlatformDb.Suggested (db : PlatformDb) (input : CanvasAiSuggestion) : Prop :=
  ∃ existing, db.suggestionOf? input = some existing ∧ input.refresh (some existing) = existing

/-- What the first delivery does not reach changes nothing. -/
def Kept (message : TaskMessage) (first : Delivery) (db : PlatformDb) : Prop :=
  ∀ task ∈ db.eventTask? message.event, message.event.authorized message.kind = true →
    ¬ task.Moot message.event message.kind →
      Allows first.left 2 ∧
        (message.kind = .completed → task.status ≠ .superseded → ∀ canvasId ∈ task.canvasId,
          Allows first.left 6 ∨ db.Suggested (task.suggestion message.event canvasId))

/-- The deliveries leave what one of them would without a failure. -/
def Effective (message : TaskMessage) (deliveries : List Delivery) (intake : Intake) : Prop :=
  ∃ delivery ∈ deliveries,
    (deliver message deliveries intake).db = handled message delivery intake

theorem react_of_moot (moot : task.Moot event kind) :
    task.react event kind = .ignored ∨ task.react event kind = .saves task := by
  have finished : ∀ success, task.status ∈ endedStatuses → task.finish event success = .ignored := by
    intro success ended
    have ne : task.status ≠ .superseded := by
      intro superseded
      rw [superseded] at ended
      exact absurd ended (by decide)
    rw [AiTask.finish, if_neg ne, if_pos ended]
  cases kind with
  | started => exact Or.inl (if_neg moot)
  | progress =>
      rcases moot with idle | same
      · exact Or.inl (if_neg idle)
      · rw [AiTask.react, same]
        split
        · exact Or.inr rfl
        · exact Or.inl rfl
  | cancelled => exact Or.inl (if_pos moot)
  | completed => exact Or.inl (finished true moot)
  | failed => exact Or.inl (finished false moot)

/-- An event that is not moot changes the row of its task. -/
theorem row_of_not_moot (needed : ¬ task.Moot event kind) :
    ∃ entity, (task.react event kind).row? = some entity ∧ entity ≠ task ∧
      entity.id = task.id := by
  have changed : ∀ {entity : AiTask}, entity.status ≠ task.status → entity ≠ task :=
    fun ne same => ne (congrArg AiTask.status same)
  have finished : ∀ success, task.status ∉ endedStatuses →
      ∃ entity, (task.finish event success).row? = some entity ∧ entity ≠ task ∧
        entity.id = task.id := by
    intro success going
    have neStale : task.status ≠ .stale := fun stale => going (stale ▸ by decide)
    have neCompleted : task.status ≠ .completed := fun isOver => going (isOver ▸ by decide)
    have neFailed : task.status ≠ .failed := fun isOver => going (isOver ▸ by decide)
    rw [AiTask.finish]
    split
    · exact ⟨_, rfl, changed neStale.symm, rfl⟩
    · split
      · exact ⟨_, rfl, changed neCompleted.symm, rfl⟩
      · exact ⟨_, rfl, changed neFailed.symm, rfl⟩
  cases kind with
  | started =>
      have queued : task.status = .queued := not_not.mp needed
      have running : (task.start event).status ≠ task.status := by
        rw [queued]
        intro same
        cases same
      exact ⟨task.start event, by rw [AiTask.react, if_pos queued]; rfl, changed running, rfl⟩
  | progress =>
      obtain ⟨running, moved⟩ := not_or.mp needed
      exact ⟨task.advance event, by rw [AiTask.react, if_pos (not_not.mp running)]; rfl, moved, rfl⟩
  | cancelled =>
      have going : task.status ∉ endedStatuses := needed
      have neCancelled : task.status ≠ .cancelled := fun isOver => going (isOver ▸ by decide)
      exact ⟨task.cancel event.now, by rw [AiTask.react, if_neg going]; rfl,
        changed neCancelled.symm, rfl⟩
  | completed => exact finished true needed
  | failed => exact finished false needed

/-- Nothing in the event that makes it moot changes with its delivery. -/
theorem moot_during :
    task.Moot (message.during delivery) message.kind ↔ task.Moot message.event message.kind := by
  cases message.kind <;> exact Iff.rfl

theorem handleMessage_refused (unused : message.jti ∉ intake.usedTokens)
    (refused : message.event.authorized message.kind = false ∨
      intake.db.eventTask? message.event = none) :
    (handleMessage message delivery ⟨intake, left⟩).2.state.db = intake.db := by
  have refusedDuring : (message.during delivery).authorized message.kind = false ∨
      (intake.spend message.jti).db.eventTask? (message.during delivery) = none := refused
  rw [handleMessage_unused unused, process_refused refusedDuring]
  rfl

/-- What a delivery leaves of an event whose task is found. -/
theorem handleMessage_db (stored : intake.db.Stored) (unused : message.jti ∉ intake.usedTokens)
    (authorized : message.event.authorized message.kind = true)
    (found : intake.db.eventTask? message.event = some task) :
    (handleMessage message delivery ⟨intake, left⟩).2.state.db =
      if Allows left 2 then
        match (task.react (message.during delivery) message.kind).suggests
            (message.during delivery) with
        | none => ((task.react (message.during delivery) message.kind).perform intake.db).2
        | some input =>
            if Allows left 6 then
              ((task.react (message.during delivery) message.kind).perform
                intake.db).2.writeSuggestion (input.refresh (intake.db.suggestionOf? input))
            else ((task.react (message.during delivery) message.kind).perform intake.db).2
      else intake.db := by
  have storedAfter : (intake.spend message.jti).db.Stored := stored
  have allowed : (message.during delivery).authorized message.kind = true := authorized
  have foundDuring :
      (intake.spend message.jti).db.eventTask? (message.during delivery) = some task := found
  rw [handleMessage_unused unused, process_db storedAfter allowed foundDuring]
  rfl

theorem handled_of_found (stored : intake.db.Stored) (unused : message.jti ∉ intake.usedTokens)
    (authorized : message.event.authorized message.kind = true)
    (found : intake.db.eventTask? message.event = some task) :
    handled message delivery intake =
      match (task.react (message.during delivery) message.kind).suggests
          (message.during delivery) with
      | none => ((task.react (message.during delivery) message.kind).perform intake.db).2
      | some input => ((task.react (message.during delivery) message.kind).perform
          intake.db).2.writeSuggestion (input.refresh (intake.db.suggestionOf? input)) := by
  rw [handled, handleMessage_db stored unused authorized found]
  rfl

theorem tasks_of_suggests {target : PlatformDb} (suggestion : Option CanvasAiSuggestion) :
    (match suggestion with
      | none => target
      | some input => target.writeSuggestion (input.refresh (db.suggestionOf? input))).tasks =
      target.tasks := by
  cases suggestion with
  | none => rfl
  | some _ => rfl

/-- A failure before the write loses an event that would change its task. -/
theorem handled_ne_of_needed (stored : intake.db.Stored)
    (unused : message.jti ∉ intake.usedTokens)
    (authorized : message.event.authorized message.kind = true)
    (found : intake.db.eventTask? message.event = some task)
    (needed : ¬ task.Moot message.event message.kind) :
    handled message delivery intake ≠ intake.db := by
  intro same
  have taskMem : task ∈ intake.db.tasks :=
    Table.mem_of_get? (Option.filter_eq_some_iff.mp found).1
  have neededDuring : ¬ task.Moot (message.during delivery) message.kind :=
    fun moot => needed (moot_during.mp moot)
  obtain ⟨entity, rowEq, changed, idEq⟩ := row_of_not_moot neededDuring
  obtain ⟨target, performEq, _, _, written⟩ := perform_returns stored taskMem
    (task.react_reacts (message.during delivery) message.kind)
  have tasksEq : (handled message delivery intake).tasks =
      Table.save AiTask.id intake.db.tasks entity := by
    rw [handled_of_found stored unused authorized found, tasks_of_suggests, performEq]
    exact written entity rowEq
  rw [same] at tasksEq
  have entityMem : entity ∈ intake.db.tasks := Table.mem_of_save_eq tasksEq.symm
  exact changed (stored.keyed.eq entityMem taskMem idEq)

/-- An event that completes a task that goes on writes its suggestion. -/
theorem suggests_of_completed {canvasId : Uuid} (canvasEq : task.canvasId = some canvasId)
    (going : task.status ∉ endedStatuses) (current : task.status ≠ .superseded) :
    (task.react event .completed).suggests event = some (task.suggestion event canvasId) := by
  have reactEq : task.react event .completed =
      .settles (task.complete event) (.commit (event.actualUsage.getD 1)) := by
    rw [AiTask.react, AiTask.finish, if_neg current, if_neg going]
    rfl
  rw [reactEq]
  exact congrArg (Option.map fun canvasId => (task.complete event).suggestion event canvasId)
    canvasEq

/-- A write that leaves the suggestions as they were finds them stored. -/
theorem suggested_of_written {input : CanvasAiSuggestion} (stored : db.Stored)
    (same : Table.save CanvasAiSuggestion.id db.suggestions
      (input.refresh (db.suggestionOf? input)) = db.suggestions) : db.Suggested input := by
  have rowMem := Table.mem_of_save_eq same
  cases existingEq : db.suggestionOf? input with
  | none =>
      rw [existingEq] at rowMem
      have absent := List.find?_eq_none.mp existingEq input rowMem
      simp at absent
  | some existing =>
      rw [existingEq] at rowMem
      exact ⟨existing, existingEq,
        stored.suggestions.eq rowMem (List.mem_of_find?_eq_some existingEq) rfl⟩

theorem writeSuggestion_of_suggested {input : CanvasAiSuggestion} {target : PlatformDb}
    (stored : db.Stored) (same : target.suggestions = db.suggestions)
    (suggested : db.Suggested input) :
    target.writeSuggestion (input.refresh (db.suggestionOf? input)) = target := by
  obtain ⟨existing, existingEq, refreshed⟩ := suggested
  have existingMem : existing ∈ db.suggestions := List.mem_of_find?_eq_some existingEq
  have saved : Table.save CanvasAiSuggestion.id target.suggestions existing =
      target.suggestions := by
    rw [same]
    exact stored.suggestions.save_of_mem existingMem
  rw [existingEq, refreshed, PlatformDb.writeSuggestion, saved]

/-- A failure before the suggestion is stored loses a suggestion. -/
theorem handled_ne_of_suggests {input : CanvasAiSuggestion} (stored : intake.db.Stored)
    (unused : message.jti ∉ intake.usedTokens)
    (authorized : message.event.authorized message.kind = true)
    (found : intake.db.eventTask? message.event = some task)
    (suggests : (task.react (message.during delivery) message.kind).suggests
      (message.during delivery) = some input) (missing : ¬ intake.db.Suggested input) :
    (handled message delivery intake).suggestions ≠ intake.db.suggestions := by
  intro same
  have taskMem : task ∈ intake.db.tasks :=
    Table.mem_of_get? (Option.filter_eq_some_iff.mp found).1
  obtain ⟨target, performEq, suggestionsEq, _, _⟩ := perform_returns stored taskMem
    (task.react_reacts (message.during delivery) message.kind)
  rw [handled_of_found stored unused authorized found, suggests, performEq] at same
  apply missing
  apply suggested_of_written stored
  rw [← suggestionsEq]
  exact same.trans suggestionsEq.symm

/-- A moot event leaves the tables as they are, wherever its delivery fails. -/
theorem handleMessage_moot (stored : intake.db.Stored) (unused : message.jti ∉ intake.usedTokens)
    (authorized : message.event.authorized message.kind = true)
    (found : intake.db.eventTask? message.event = some task)
    (moot : task.Moot (message.during delivery) message.kind) :
    (handleMessage message delivery ⟨intake, left⟩).2.state.db = intake.db := by
  have taskMem : task ∈ intake.db.tasks :=
    Table.mem_of_get? (Option.filter_eq_some_iff.mp found).1
  rw [handleMessage_db stored unused authorized found]
  rcases react_of_moot moot with reactEq | reactEq
  · rw [reactEq]
    exact ite_self _
  · have saved : saveTask task intake.db = (.ok (), intake.db.writeTask task) :=
      saveTask_returns stored taskMem ⟨rfl, rfl, rfl, rfl⟩
    have same : intake.db.writeTask task = intake.db := by
      rw [PlatformDb.writeTask, stored.keyed.save_of_mem taskMem]
    rw [reactEq, Reaction.perform, saved, same]
    exact ite_self _

/-- A delivery that reaches what matters leaves what it would without a failure. -/
theorem handled_of_kept {first : Delivery} (stored : intake.db.Stored)
    (unused : message.jti ∉ intake.usedTokens) (kept : Kept message first intake.db) :
    (handleMessage message first ⟨intake, first.left⟩).2.state.db = handled message first intake := by
  by_cases authorized : message.event.authorized message.kind = true
  · cases found : intake.db.eventTask? message.event with
    | none => rw [handled, handleMessage_refused unused (Or.inr found),
        handleMessage_refused unused (Or.inr found)]
    | some task =>
        by_cases moot : task.Moot message.event message.kind
        · rw [handled, handleMessage_moot stored unused authorized found (moot_during.mpr moot),
            handleMessage_moot stored unused authorized found (moot_during.mpr moot)]
        · obtain ⟨written, suggested⟩ := kept task found authorized moot
          rw [handled_of_found stored unused authorized found,
            handleMessage_db stored unused authorized found, if_pos written]
          have taskMem : task ∈ intake.db.tasks :=
            Table.mem_of_get? (Option.filter_eq_some_iff.mp found).1
          have reacts := task.react_reacts (message.during first) message.kind
          cases suggests : (task.react (message.during first) message.kind).suggests
              (message.during first) with
          | none => rfl
          | some input =>
              obtain ⟨completes, active, _, canvasId, canvasEq, rfl⟩ :=
                suggests_of_reacts reacts suggests
              have current : task.status ≠ .superseded := by
                intro superseded
                rw [AiTask.active, superseded] at active
                exact absurd active (by decide)
              rcases suggested completes current canvasId canvasEq with reached | same
              · exact if_pos reached
              · obtain ⟨target, performEq, suggestionsEq, _, _⟩ :=
                  perform_returns stored taskMem reacts
                have sameDuring : intake.db.Suggested
                    (task.suggestion (message.during first) canvasId) := same
                rw [performEq]
                dsimp only
                rw [writeSuggestion_of_suggested stored suggestionsEq sameDuring]
                exact ite_self _
  · have denied := Bool.eq_false_of_not_eq_true authorized
    rw [handled, handleMessage_refused unused (Or.inl denied),
      handleMessage_refused unused (Or.inl denied)]

/-- However often a message is delivered and wherever the deliveries fail, they leave what
one delivery without a failure would, exactly if what the first one does not reach changes
nothing: its token is used up. -/
theorem redelivery_effective_iff (stored : intake.db.Stored)
    (unused : message.jti ∉ intake.usedTokens) (first : Delivery) (rest : List Delivery) :
    Effective message (first :: rest) intake ↔ Kept message first intake.db := by
  constructor
  · rintro ⟨delivery, _, effective⟩ task found authorized needed
    rw [deliver_db unused, handleMessage_db stored unused authorized found] at effective
    have neededDuring : ∀ delivery, ¬ task.Moot (message.during delivery) message.kind :=
      fun delivery moot => needed (moot_during.mp moot)
    constructor
    · by_contra short
      rw [if_neg short] at effective
      exact handled_ne_of_needed stored unused authorized found needed effective.symm
    · intro completes current canvasId canvasEq
      by_contra lost
      obtain ⟨short, missing⟩ := not_or.mp lost
      have going : task.status ∉ endedStatuses := by
        intro ended
        rw [completes] at needed
        exact needed ended
      have suggests : ∀ delivery, (task.react (message.during delivery) message.kind).suggests
          (message.during delivery) = some (task.suggestion (message.during delivery) canvasId) := by
        intro delivery
        rw [completes]
        exact suggests_of_completed canvasEq going current
      have taskMem : task ∈ intake.db.tasks :=
        Table.mem_of_get? (Option.filter_eq_some_iff.mp found).1
      obtain ⟨target, performEq, suggestionsEq, _, _⟩ := perform_returns stored taskMem
        (task.react_reacts (message.during first) message.kind)
      have missingDuring : ¬ intake.db.Suggested
          (task.suggestion (message.during delivery) canvasId) := missing
      apply handled_ne_of_suggests stored unused authorized found (suggests delivery) missingDuring
      rw [← effective, suggests first]
      dsimp only
      rw [if_neg short, performEq]
      split
      · exact suggestionsEq
      · rfl
  · intro kept
    exists first
    constructor
    · exact List.mem_cons_self
    · rw [deliver_db unused]
      exact handled_of_kept stored unused kept

/-! ## Examples -/

/-- A task that has been created, and no token used. -/
def exampleIntake : Intake where
  db := (createTask exampleTaskRequest examplePlatform.db).2
  usedTokens := []

example : exampleIntake.db.tasks.length = 1 := by decide +kernel

/-- The result of the task. -/
def exampleMessage : TaskMessage where
  kind := .completed
  event := exampleResult (uuid "task")
  jti := "token"

/-- Two deliveries, of which the first fails after so many calls. -/
def exampleDeliveries (calls : Nat) : List Delivery :=
  [⟨1, uuid "suggestion", some calls⟩, ⟨6001, uuid "suggestion", none⟩]

theorem exampleIntake_stored : exampleIntake.db.Stored where
  keyed := by decide +kernel
  keys := by decide +kernel
  suggestions := by decide +kernel
  reserved := by decide +kernel

/-- A result whose first delivery fails after the task has been written is not lost. -/
theorem redelivery_effective_example :
    Effective exampleMessage (exampleDeliveries 2) exampleIntake := by
  apply (redelivery_effective_iff exampleIntake_stored (by decide) _ _).mpr
  intro task found _ _
  constructor
  · decide
  · have plain : ∀ task ∈ exampleIntake.db.eventTask? exampleMessage.event,
        task.canvasId = none := by
      decide +kernel
    intro _ _ canvasId canvasEq
    rw [plain task found] at canvasEq
    exact absurd canvasEq (Option.not_mem_none canvasId)

/-- A result whose first delivery fails before the task is written is lost: the second is
taken for a replay, and the task is queued for ever. -/
theorem redelivery_lost :
    ¬ Effective exampleMessage (exampleDeliveries 1) exampleIntake := by
  have status : ∀ delivery ∈ exampleDeliveries 1,
      ((deliver exampleMessage (exampleDeliveries 1) exampleIntake).db.task? (uuid "task")).map
        AiTask.status ≠
      ((handled exampleMessage delivery exampleIntake).task? (uuid "task")).map AiTask.status := by
    decide +kernel
  rintro ⟨delivery, deliveryMem, effective⟩
  apply status delivery deliveryMem
  rw [effective]

end Manbaa.Jobs
