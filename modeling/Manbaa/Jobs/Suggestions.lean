import Manbaa.Jobs.Preview
import Manbaa.Jobs.Tasks
import Manbaa.Lib.Sessions

/-!
# Decisions on suggestions

A user accepts or rejects a suggestion that is ready, a new version of the canvas makes it stale,
and the result of a worker creates it or makes it ready again.  All of them but the one that
makes it stale read the row in one statement and save it in another.
-/

namespace Manbaa.Jobs

open Manbaa.Lib Manbaa.Lib.Effect

/-! ## Calls -/

/-- What a user decides. -/
inductive Decision where
  | accept
  | reject
  deriving DecidableEq

/-- The status that a decision gives. -/
def Decision.status : Decision → AiSuggestionStatus
  | .accept => .accepted
  | .reject => .rejected

/-- The name of a decision. -/
def Decision.text : Decision → String
  | .accept => "accept"
  | .reject => "reject"

/-- The text of a status. -/
def AiSuggestionStatus.text : AiSuggestionStatus → String
  | .queued => "queued"
  | .processing => "processing"
  | .ready => "ready"
  | .stale => "stale"
  | .accepted => "accepted"
  | .rejected => "rejected"
  | .failed => "failed"
  | .cancelled => "cancelled"
  | .superseded => "superseded"

/-- The checks of `accept` and of `reject`. -/
def Decision.validate (decision : Decision) (suggestion : CanvasAiSuggestion) :
    Except Exception Unit := do
  check (!suggestion.stale) (.conflict ("Cannot " ++ decision.text ++ " a stale suggestion"))
  check (suggestion.status != decision.status)
    (.conflict ("Suggestion is already " ++ decision.status.text))
  check (suggestion.status == .ready)
    (.badRequest ("Cannot " ++ decision.text ++ " suggestion in status " ++
      suggestion.status.text))

/-- `findById`. -/
def PlatformDb.findById (db : PlatformDb) (id organizationId workspaceId : Uuid) :
    Option CanvasAiSuggestion :=
  (Table.get? CanvasAiSuggestion.id db.suggestions id).filter fun suggestion =>
    suggestion.organizationId == organizationId && suggestion.workspaceId == workspaceId

/-- The suggestion with a decision. -/
def CanvasAiSuggestion.decide (suggestion : CanvasAiSuggestion) (decision : Decision) :
    CanvasAiSuggestion :=
  { suggestion with status := decision.status }

/-- The second statement of `createOrUpdate`.  The database draws an identifier for a new row; a
row that has it already refuses the new one. -/
def PlatformDb.storeSuggestion (db : PlatformDb) (input : CanvasAiSuggestion)
    (existing : Option CanvasAiSuggestion) : PlatformDb :=
  if existing.isNone && (Table.get? CanvasAiSuggestion.id db.suggestions input.id).isSome then db
  else db.writeSuggestion (input.refresh existing)

/-- The statuses of a suggestion that can become stale. -/
def openStatuses : List AiSuggestionStatus := [.queued, .processing, .ready]

/-- A row after the update of `markStale`. -/
def CanvasAiSuggestion.outdate (canvasId organizationId workspaceId : Uuid)
    (suggestion : CanvasAiSuggestion) : CanvasAiSuggestion :=
  if suggestion.canvasId = canvasId ∧ suggestion.organizationId = organizationId ∧
      suggestion.workspaceId = workspaceId ∧ suggestion.stale = false ∧
      suggestion.status ∈ openStatuses then
    { suggestion with stale := true, status := .stale }
  else suggestion

/-- `markStale`. -/
def PlatformDb.markStale (db : PlatformDb) (canvasId organizationId workspaceId : Uuid) :
    PlatformDb :=
  { db with
    suggestions :=
      db.suggestions.map (CanvasAiSuggestion.outdate canvasId organizationId workspaceId) }

/-- An event of a worker, a call of `createOrUpdate`, of `accept` or `reject`, or of
`markStale`. -/
inductive SuggestionRequest where
  | handle (kind : TaskEventKind) (event : TaskEvent)
  | createOrUpdate (input : CanvasAiSuggestion)
  | decide (decision : Decision) (id organizationId workspaceId : Uuid)
  | markStale (canvasId organizationId workspaceId : Uuid)

/-- A call between its statements. -/
inductive SuggestionStage where
  | received (kind : TaskEventKind) (event : TaskEvent)
  | reacting (event : TaskEvent) (reaction : Reaction)
  | suggesting (input : CanvasAiSuggestion)
  | storing (input : CanvasAiSuggestion) (existing : Option CanvasAiSuggestion)
  | deciding (decision : Decision) (id organizationId workspaceId : Uuid)
  | saving (decision : Decision) (suggestion : CanvasAiSuggestion)
  | marking (canvasId organizationId workspaceId : Uuid)
  | ended

/-- The first stage of a call.  A suggestion is created ready, and not stale. -/
def SuggestionRequest.stage : SuggestionRequest → SuggestionStage
  | .handle kind event => .received kind event
  | .createOrUpdate input => .suggesting { input with status := .ready, stale := false }
  | .decide decision id organizationId workspaceId =>
      .deciding decision id organizationId workspaceId
  | .markStale canvasId organizationId workspaceId => .marking canvasId organizationId workspaceId

/-- What comes after the task of an event has been read. -/
def afterTask (kind : TaskEventKind) (event : TaskEvent) : Option AiTask → SuggestionStage
  | some task => if event.authorized kind then .reacting event (task.react event kind) else .ended
  | none => .ended

/-- What comes after the task has been written. -/
def afterReaction (event : TaskEvent) (reaction : Reaction) : Except Exception Unit →
    SuggestionStage
  | .ok _ => (reaction.suggests event).elim .ended .suggesting
  | .error _ => .ended

/-- What comes after a user's suggestion has been read. -/
def afterFound (decision : Decision) : Option CanvasAiSuggestion → SuggestionStage
  | some suggestion =>
      match decision.validate suggestion with
      | .ok _ => .saving decision suggestion
      | .error _ => .ended
  | none => .ended

/-- A call takes its next statement. -/
def SuggestionStage.advance (db : PlatformDb) :
    SuggestionStage → Option (PlatformDb × SuggestionStage)
  | .received kind event => some (db, afterTask kind event (db.eventTask? event))
  | .reacting event reaction =>
      some ((reaction.perform db).2, afterReaction event reaction (reaction.perform db).1)
  | .suggesting input => some (db, .storing input (db.suggestionOf? input))
  | .storing input existing => some (db.storeSuggestion input existing, .ended)
  | .deciding decision id organizationId workspaceId =>
      some (db, afterFound decision (db.findById id organizationId workspaceId))
  | .saving decision suggestion =>
      some (db.writeSuggestion (suggestion.decide decision), .ended)
  | .marking canvasId organizationId workspaceId =>
      some (db.markStale canvasId organizationId workspaceId, .ended)
  | .ended => none

/-- Events and calls beside each other. -/
def suggestionSystem : Sessions PlatformDb SuggestionStage SuggestionRequest Unit where
  start db request := (db, some request.stage)
  advance db _ stage _ := stage.advance db

/-! ## What is promised -/

/-- The statuses of a suggestion that is decided. -/
def decidedStatuses : List AiSuggestionStatus := [.accepted, .rejected, .stale]

/-- Two rows differ in their status and their flag at most. -/
def CanvasAiSuggestion.SameContent (first second : CanvasAiSuggestion) : Prop :=
  { first with status := second.status, stale := second.stale } = second

instance (first second : CanvasAiSuggestion) : Decidable (first.SameContent second) :=
  inferInstanceAs (Decidable (_ = _))

/-- The flag of a suggestion agrees with its status, and a task has one suggestion at most. -/
structure Agreeing (suggestions : List CanvasAiSuggestion) : Prop where
  flags : ∀ suggestion ∈ suggestions, suggestion.stale = true ↔ suggestion.status = .stale
  perTask : (suggestions.map CanvasAiSuggestion.taskId).Nodup

/-- A decided suggestion does not become ready, does not move between the decisions of users, and
keeps its content. -/
def Final (before after : List CanvasAiSuggestion) : Prop :=
  ∀ row ∈ before, row.status ∈ decidedStatuses → ∀ later ∈ after, later.id = row.id →
    later.status ≠ .ready ∧ ¬ (row.status = .accepted ∧ later.status = .rejected) ∧
      ¬ (row.status = .rejected ∧ later.status = .accepted) ∧ row.SameContent later

/-- In every state of a run the suggestions agree, and between any two states of it decisions are
final. -/
def Decisive (state : Sessions.State PlatformDb SuggestionStage)
    (actions : List (Sessions.Action SuggestionRequest Unit)) : Prop :=
  ∀ early late rest, actions = early ++ late ++ rest → ∀ middle last,
    suggestionSystem.step.run state early = some middle →
      suggestionSystem.step.run middle late = some last →
        Agreeing last.store.suggestions ∧
          Final middle.store.suggestions last.store.suggestions

/-- `createOrUpdate` saves over no decided row and inserts no second row of a task; `accept` and
`reject` save over no row that has the other decision, and over no decided row with another
content. -/
def Respectful (db : PlatformDb) (_ : List SuggestionStage) (stage : SuggestionStage) (_ : Unit) :
    Prop :=
  match stage with
  | .storing _ (some existing) =>
      ∀ current ∈ db.suggestions, current.id = existing.id → current.status ∉ decidedStatuses
  | .storing input none =>
      Table.get? CanvasAiSuggestion.id db.suggestions input.id = none →
        ∀ other ∈ db.suggestions, other.taskId ≠ input.taskId
  | .saving decision suggestion =>
      ∀ current ∈ db.suggestions, current.id = suggestion.id → current.status ∈ decidedStatuses →
        (current.status = decision.status ∨ current.status = .stale) ∧
          current.SameContent suggestion
  | _ => True

instance (db : PlatformDb) (others : List SuggestionStage) (stage : SuggestionStage)
    (choice : Unit) : Decidable (Respectful db others stage choice) :=
  match stage with
  | .storing _ (some existing) => inferInstanceAs (Decidable (∀ current ∈ db.suggestions,
      current.id = existing.id → current.status ∉ decidedStatuses))
  | .storing input none => inferInstanceAs (Decidable
      (Table.get? CanvasAiSuggestion.id db.suggestions input.id = none →
        ∀ other ∈ db.suggestions, other.taskId ≠ input.taskId))
  | .saving decision suggestion => inferInstanceAs (Decidable (∀ current ∈ db.suggestions,
      current.id = suggestion.id → current.status ∈ decidedStatuses →
        (current.status = decision.status ∨ current.status = .stale) ∧
          current.SameContent suggestion))
  | .received _ _ | .reacting _ _ | .suggesting _ | .deciding _ _ _ _ | .marking _ _ _ | .ended =>
      .isTrue trivial

variable {db next : PlatformDb} {row later third input : CanvasAiSuggestion}
  {before after last : List CanvasAiSuggestion} {decision : Decision}

/-! ## Rows that come after each other -/

/-- What becomes of a row. -/
structure Later (row later : CanvasAiSuggestion) : Prop where
  id : later.id = row.id
  taskId : later.taskId = row.taskId
  decided : row.status ∈ decidedStatuses → later.status ∈ decidedStatuses
  accepted : row.status = .accepted → later.status = .accepted
  rejected : row.status = .rejected → later.status = .rejected
  content : row.status ∈ decidedStatuses → row.SameContent later

theorem CanvasAiSuggestion.SameContent.trans (first : row.SameContent later)
    (second : later.SameContent third) : row.SameContent third := by
  rw [SameContent] at first second ⊢
  rw [← second, ← first]

theorem Later.refl (row : CanvasAiSuggestion) : Later row row :=
  ⟨rfl, rfl, fun decided => decided, fun accepted => accepted, fun rejected => rejected,
    fun _ => rfl⟩

theorem Later.trans (first : Later row later) (second : Later later third) : Later row third where
  id := second.id.trans first.id
  taskId := second.taskId.trans first.taskId
  decided := fun decided => second.decided (first.decided decided)
  accepted := fun accepted => second.accepted (first.accepted accepted)
  rejected := fun rejected => second.rejected (first.rejected rejected)
  content := fun decided =>
    (first.content decided).trans (second.content (first.decided decided))

/-- What becomes of a row that is not decided is only asked for its key. -/
theorem Later.of_open (open' : row.status ∉ decidedStatuses) (id : later.id = row.id)
    (taskId : later.taskId = row.taskId) : Later row later where
  id := id
  taskId := taskId
  decided := fun decided => absurd decided open'
  accepted := fun accepted => absurd (accepted ▸ List.mem_cons_self) open'
  rejected := fun rejected => absurd (rejected ▸ by decide) open'
  content := fun decided => absurd decided open'

/-- Every row of a table is there after it. -/
def Follows (before after : List CanvasAiSuggestion) : Prop :=
  ∀ row ∈ before, ∃ later ∈ after, Later row later

theorem Follows.refl (rows : List CanvasAiSuggestion) : Follows rows rows :=
  fun row rowMem => ⟨row, rowMem, Later.refl row⟩

theorem Follows.trans (first : Follows before after) (second : Follows after last) :
    Follows before last := by
  intro row rowMem
  obtain ⟨middle, middleMem, toMiddle⟩ := first row rowMem
  obtain ⟨later, laterMem, toLater⟩ := second middle middleMem
  exact ⟨later, laterMem, toMiddle.trans toLater⟩

theorem Follows.final (follows : Follows before after)
    (keyed : Table.Keyed CanvasAiSuggestion.id after) : Final before after := by
  intro row rowMem decided other otherMem sameId
  obtain ⟨later, laterMem, toLater⟩ := follows row rowMem
  obtain rfl := keyed.eq otherMem laterMem (sameId.trans toLater.id.symm)
  refine ⟨?_, ?_, ?_, toLater.content decided⟩
  · intro ready
    have laterDecided := toLater.decided decided
    rw [ready] at laterDecided
    exact absurd laterDecided (by decide)
  · rintro ⟨accepted, rejected⟩
    exact absurd ((toLater.accepted accepted).symm.trans rejected) (by decide)
  · rintro ⟨rejected, accepted⟩
    exact absurd ((toLater.rejected rejected).symm.trans accepted) (by decide)

/-! ## What calls rely on -/

/-- What holds of the suggestions. -/
structure SoundSuggestions (db : PlatformDb) : Prop where
  keyed : Table.Keyed CanvasAiSuggestion.id db.suggestions
  agreeing : Agreeing db.suggestions

/-- A suggestion is ready, and not stale. -/
def Ready (suggestion : CanvasAiSuggestion) : Prop :=
  suggestion.status = .ready ∧ suggestion.stale = false

/-- A row that has been read is there, or what became of it. -/
structure Held (db : PlatformDb) (copy : CanvasAiSuggestion) : Prop where
  later : ∃ current ∈ db.suggestions, Later copy current
  flag : copy.stale = true → copy.status = .stale

/-- What the table owes a call. -/
def OwnsSuggestion (db : PlatformDb) : SuggestionStage → Prop
  | .suggesting input => Ready input
  | .storing input none => Ready input
  | .storing _ (some existing) => Held db existing
  | .saving _ suggestion => Ready suggestion ∧ Held db suggestion
  | _ => True

theorem Held.follows {copy : CanvasAiSuggestion} (held : Held db copy)
    (follows : Follows db.suggestions next.suggestions) : Held next copy := by
  obtain ⟨current, currentMem, toCurrent⟩ := held.later
  obtain ⟨later, laterMem, toLater⟩ := follows current currentMem
  exact ⟨⟨later, laterMem, toCurrent.trans toLater⟩, held.flag⟩

theorem OwnsSuggestion.follows {stage : SuggestionStage} (owns : OwnsSuggestion db stage)
    (follows : Follows db.suggestions next.suggestions) : OwnsSuggestion next stage := by
  cases stage with
  | suggesting input => exact owns
  | storing input existing =>
      cases existing with
      | none => exact owns
      | some existing => exact Held.follows owns follows
  | saving decision suggestion => exact ⟨owns.1, owns.2.follows follows⟩
  | received kind event => trivial
  | reacting event reaction => trivial
  | deciding decision id organizationId workspaceId => trivial
  | marking canvasId organizationId workspaceId => trivial
  | ended => trivial

theorem held_of_mem (sound : SoundSuggestions db) (rowMem : row ∈ db.suggestions) :
    Held db row where
  later := ⟨row, rowMem, Later.refl row⟩
  flag := (sound.agreeing.flags row rowMem).mp

theorem validate_ok (validateEq : decision.validate row = .ok ()) : Ready row := by
  obtain ⟨_, staleEq, restEq⟩ := except_bind_eq_ok_iff.mp validateEq
  obtain ⟨_, _, statusEq⟩ := except_bind_eq_ok_iff.mp restEq
  refine ⟨beq_iff_eq.mp (check_eq_ok_iff.mp statusEq), ?_⟩
  have notStale := check_eq_ok_iff.mp staleEq
  exact Bool.not_eq_true' _ ▸ notStale

theorem ready_suggests {event : TaskEvent} {reaction : Reaction}
    (suggestsEq : reaction.suggests event = some input) : Ready input := by
  cases reaction with
  | ignored => cases suggestsEq
  | saves entity => cases suggestsEq
  | settles entity settlement =>
      cases settlement with
      | release => cases suggestsEq
      | commit actual =>
          obtain ⟨canvasId, _, inputEq⟩ := Option.map_eq_some_iff.mp suggestsEq
          rw [← inputEq]
          exact ⟨rfl, rfl⟩

/-- A write of a task leaves the suggestions. -/
theorem perform_suggestions (reaction : Reaction) :
    (reaction.perform db).2.suggestions = db.suggestions := by
  cases reaction with
  | ignored => rfl
  | saves entity =>
      exact @saveTask_keeps entity db (fun target => target.suggestions = db.suggestions) rfl rfl
  | settles entity settlement =>
      refine @transaction_keeps PlatformDb Exception Unit db
        (fun target => target.suggestions = db.suggestions) (settleTask entity settlement) rfl ?_
      intro done target settleEq
      obtain ⟨_, middle, saveEq, restEq⟩ := bind_eq_ok_iff.mp settleEq
      obtain ⟨_, rfl⟩ := saveTask_eq_ok_iff.mp saveEq
      obtain ⟨_, last, usageEq, pureEq⟩ := bind_eq_ok_iff.mp restEq
      obtain ⟨usage, _, rfl⟩ := usageService_eq_iff.mp usageEq
      obtain ⟨_, rfl⟩ := pure_eq_ok_iff.mp pureEq
      rfl

/-! ## Saves -/

/-- A save over a row of the same task that the row comes after. -/
theorem follows_save (keyed : Table.Keyed CanvasAiSuggestion.id db.suggestions)
    {current : CanvasAiSuggestion} (currentMem : current ∈ db.suggestions)
    (toRow : Later current row) :
    Follows db.suggestions (db.writeSuggestion row).suggestions := by
  intro old oldMem
  by_cases own : old.id = row.id
  · obtain rfl := keyed.eq oldMem currentMem (own.trans toRow.id)
    exact ⟨row, Table.mem_save_iff.mpr (Or.inl rfl), toRow⟩
  · exact ⟨old, Table.mem_save_iff.mpr (Or.inr ⟨oldMem, own⟩), Later.refl old⟩

/-- A save over a row leaves the tasks of the rows. -/
theorem map_taskId_save (keyed : Table.Keyed CanvasAiSuggestion.id db.suggestions)
    {current : CanvasAiSuggestion} (currentMem : current ∈ db.suggestions)
    (toRow : Later current row) :
    (db.writeSuggestion row).suggestions.map CanvasAiSuggestion.taskId =
      db.suggestions.map CanvasAiSuggestion.taskId := by
  have found : Table.get? CanvasAiSuggestion.id db.suggestions row.id = some current := by
    rw [toRow.id]
    exact keyed.get?_of_mem currentMem
  rw [PlatformDb.writeSuggestion, Table.save_of_get?_eq_some found]
  apply Table.map_put_of_eq
  intro old oldMem own
  rw [keyed.eq oldMem currentMem (own.trans toRow.id), toRow.taskId]

/-- A save over a row that it comes after, with a flag that agrees with its status. -/
theorem sound_save (sound : SoundSuggestions db) {current : CanvasAiSuggestion}
    (currentMem : current ∈ db.suggestions) (toRow : Later current row)
    (flag : row.stale = true ↔ row.status = .stale) :
    SoundSuggestions (db.writeSuggestion row) where
  keyed := Table.keyed_save sound.keyed
  agreeing := by
    constructor
    · intro other otherMem
      rcases Table.mem_save_iff.mp otherMem with rfl | ⟨old, _⟩
      · exact flag
      · exact sound.agreeing.flags other old
    · rw [map_taskId_save sound.keyed currentMem toRow]
      exact sound.agreeing.perTask

/-- The row that `createOrUpdate` saves over one that is not decided. -/
theorem later_refresh {existing current : CanvasAiSuggestion} (toCurrent : Later existing current)
    (open' : current.status ∉ decidedStatuses) : Later current (input.refresh (some existing)) :=
  Later.of_open open' toCurrent.id.symm toCurrent.taskId.symm

theorem CanvasAiSuggestion.SameContent.decide_iff {current copy : CanvasAiSuggestion} :
    current.SameContent (copy.decide decision) ↔ current.SameContent copy := by
  rw [SameContent, SameContent, CanvasAiSuggestion.decide]
  constructor
  · intro same
    exact congrArg (fun row : CanvasAiSuggestion => { row with status := copy.status }) same
  · intro same
    exact congrArg (fun row : CanvasAiSuggestion => { row with status := decision.status }) same

theorem decision_decided (decision : Decision) : decision.status ∈ decidedStatuses := by
  cases decision <;> decide

/-- A decided status that a decision does not turn over is that of the decision, or stale. -/
theorem decisions_agree {status : AiSuggestionStatus} (decided : status ∈ decidedStatuses)
    (notRejected : ¬ (status = .accepted ∧ decision.status = .rejected))
    (notAccepted : ¬ (status = .rejected ∧ decision.status = .accepted)) :
    status = decision.status ∨ status = .stale := by
  revert decided notRejected notAccepted
  cases status <;> cases decision <;> decide

/-- The row that a decision saves. -/
theorem later_decide {current copy : CanvasAiSuggestion} (toCurrent : Later copy current)
    (respectful : current.status ∈ decidedStatuses →
      (current.status = decision.status ∨ current.status = .stale) ∧ current.SameContent copy) :
    Later current (copy.decide decision) := by
  by_cases decided : current.status ∈ decidedStatuses
  · obtain ⟨agree, same⟩ := respectful decided
    refine ⟨toCurrent.id.symm, toCurrent.taskId.symm, fun _ => decision_decided decision, ?_, ?_,
      fun _ => CanvasAiSuggestion.SameContent.decide_iff.mpr same⟩
    · intro accepted
      rcases agree with isDecision | stale
      · exact isDecision.symm.trans accepted
      · cases accepted.symm.trans stale
    · intro rejected
      rcases agree with isDecision | stale
      · exact isDecision.symm.trans rejected
      · cases rejected.symm.trans stale
  · exact Later.of_open decided toCurrent.id.symm toCurrent.taskId.symm

/-! ## `markStale` -/

section

variable {canvasId organizationId workspaceId : Uuid}

theorem later_outdate : Later row (row.outdate canvasId organizationId workspaceId) := by
  rw [CanvasAiSuggestion.outdate]
  split
  · rename_i outdated
    have isOpen : row.status ∈ openStatuses := outdated.2.2.2.2
    have open' : row.status ∉ decidedStatuses := by
      revert isOpen
      cases row.status <;> decide
    exact Later.of_open open' rfl rfl
  · exact Later.refl row

theorem flag_outdate (flag : row.stale = true ↔ row.status = .stale) :
    (row.outdate canvasId organizationId workspaceId).stale = true ↔
      (row.outdate canvasId organizationId workspaceId).status = .stale := by
  rw [CanvasAiSuggestion.outdate]
  split
  · exact iff_of_true rfl rfl
  · exact flag

theorem sound_markStale (sound : SoundSuggestions db) :
    SoundSuggestions (db.markStale canvasId organizationId workspaceId) where
  keyed := by
    have ids : (db.markStale canvasId organizationId workspaceId).suggestions.map
        CanvasAiSuggestion.id = db.suggestions.map CanvasAiSuggestion.id := by
      rw [PlatformDb.markStale, List.map_map]
      exact List.map_congr_left fun _ _ => later_outdate.id
    rw [Table.Keyed, ids]
    exact sound.keyed
  agreeing := by
    constructor
    · intro other otherMem
      obtain ⟨row, rowMem, rfl⟩ := List.mem_map.mp otherMem
      exact flag_outdate (sound.agreeing.flags row rowMem)
    · have tasks : (db.markStale canvasId organizationId workspaceId).suggestions.map
          CanvasAiSuggestion.taskId = db.suggestions.map CanvasAiSuggestion.taskId := by
        rw [PlatformDb.markStale, List.map_map]
        exact List.map_congr_left fun _ _ => later_outdate.taskId
      rw [tasks]
      exact sound.agreeing.perTask

theorem follows_markStale :
    Follows db.suggestions (db.markStale canvasId organizationId workspaceId).suggestions :=
  fun _ rowMem => ⟨_, List.mem_map_of_mem rowMem, later_outdate⟩

end

/-! ## Insertions -/

theorem storeSuggestion_none (db : PlatformDb) (input : CanvasAiSuggestion) :
    (db.storeSuggestion input none = db ∧
        Table.get? CanvasAiSuggestion.id db.suggestions input.id ≠ none) ∨
      ((db.storeSuggestion input none).suggestions = db.suggestions ++ [input] ∧
        Table.get? CanvasAiSuggestion.id db.suggestions input.id = none) := by
  cases getEq : Table.get? CanvasAiSuggestion.id db.suggestions input.id with
  | some taken =>
      left
      exact ⟨if_pos (by simp [getEq]), by simp⟩
  | none =>
      right
      refine ⟨?_, rfl⟩
      rw [PlatformDb.storeSuggestion, if_neg (by simp [getEq]), PlatformDb.writeSuggestion,
        CanvasAiSuggestion.refresh, Table.save_of_get?_eq_none getEq]

theorem follows_append : Follows before (before ++ [row]) :=
  fun old oldMem => ⟨old, List.mem_append_left _ oldMem, Later.refl old⟩

/-- A new row keeps the suggestions sound exactly if it is the first one of its task. -/
theorem agreeing_append_iff (agreeing : Agreeing before) (ready : Ready row) :
    Agreeing (before ++ [row]) ↔ ∀ other ∈ before, other.taskId ≠ row.taskId := by
  have flags : ∀ other ∈ before ++ [row], other.stale = true ↔ other.status = .stale := by
    intro other otherMem
    rcases List.mem_append.mp otherMem with old | new
    · exact agreeing.flags other old
    · rw [List.mem_singleton.mp new, ready.1, ready.2]
      decide
  have perTask : ((before ++ [row]).map CanvasAiSuggestion.taskId).Nodup ↔
      ∀ other ∈ before, other.taskId ≠ row.taskId := by
    rw [List.map_append, List.map_singleton, List.nodup_append]
    constructor
    · rintro ⟨_, _, apart⟩ other otherMem
      exact apart _ (List.mem_map_of_mem otherMem) _ List.mem_cons_self
    · intro apart
      refine ⟨agreeing.perTask, List.nodup_singleton _, ?_⟩
      intro first firstMem second secondMem
      obtain ⟨other, otherMem, rfl⟩ := List.mem_map.mp firstMem
      rw [List.mem_singleton.mp secondMem]
      exact apart other otherMem
  exact ⟨fun all => perTask.mp all.perTask, fun apart => ⟨flags, perTask.mpr apart⟩⟩

/-! ## Steps -/

/-- What a respectful step leaves. -/
structure Left (db next : PlatformDb) (stage : SuggestionStage) : Prop where
  sound : SoundSuggestions next
  owns : OwnsSuggestion next stage
  follows : Follows db.suggestions next.suggestions

theorem left_of_same (sound : SoundSuggestions db) (same : next.suggestions = db.suggestions)
    {stage : SuggestionStage} (owns : OwnsSuggestion next stage) : Left db next stage where
  sound := by
    constructor
    · rw [same]
      exact sound.keyed
    · rw [same]
      exact sound.agreeing
  owns := owns
  follows := by
    rw [same]
    exact Follows.refl db.suggestions

theorem owns_afterTask {kind : TaskEventKind} {event : TaskEvent} {found : Option AiTask} :
    OwnsSuggestion db (afterTask kind event found) := by
  cases found with
  | none => trivial
  | some task =>
      rw [afterTask]
      split <;> trivial

theorem owns_afterReaction {event : TaskEvent} {reaction : Reaction}
    {result : Except Exception Unit} : OwnsSuggestion db (afterReaction event reaction result) := by
  cases result with
  | error exception => trivial
  | ok done =>
      rw [afterReaction]
      cases suggestsEq : reaction.suggests event with
      | none => trivial
      | some input => exact ready_suggests suggestsEq

theorem owns_afterFound (sound : SoundSuggestions db) {found : Option CanvasAiSuggestion}
    (stored : ∀ row ∈ found, row ∈ db.suggestions) :
    OwnsSuggestion db (afterFound decision found) := by
  cases found with
  | none => trivial
  | some row =>
      rw [afterFound]
      split
      · rename_i validateEq
        exact ⟨validate_ok validateEq, held_of_mem sound (stored row rfl)⟩
      · trivial

theorem owns_storing (sound : SoundSuggestions db) (ready : Ready input) :
    OwnsSuggestion db (.storing input (db.suggestionOf? input)) := by
  cases foundEq : db.suggestionOf? input with
  | none => exact ready
  | some existing => exact held_of_mem sound (List.mem_of_find?_eq_some foundEq)

/-- A respectful step keeps what calls rely on. -/
theorem advance_left {others : List SuggestionStage} {stage after : SuggestionStage}
    (sound : SoundSuggestions db) (owns : OwnsSuggestion db stage)
    (respectful : Respectful db others stage ())
    (advanceEq : stage.advance db = some (next, after)) :
    Left db next after := by
  cases stage with
  | received kind event =>
      cases advanceEq
      exact left_of_same sound rfl owns_afterTask
  | reacting event reaction =>
      cases advanceEq
      exact left_of_same sound (perform_suggestions reaction) owns_afterReaction
  | suggesting input =>
      cases advanceEq
      exact left_of_same sound rfl (owns_storing sound owns)
  | storing input existing =>
      cases advanceEq
      cases existing with
      | none =>
          rcases storeSuggestion_none db input with ⟨same, _⟩ | ⟨appended, fresh⟩
          · rw [same]
            exact left_of_same sound rfl trivial
          · refine ⟨⟨?_, ?_⟩, trivial, ?_⟩
            · rw [appended]
              exact Table.keyed_append sound.keyed fresh
            · rw [appended]
              exact (agreeing_append_iff sound.agreeing owns).mpr (respectful fresh)
            · rw [appended]
              exact follows_append
      | some existing =>
          obtain ⟨current, currentMem, toCurrent⟩ := owns.later
          have open' := respectful current currentMem toCurrent.id
          have toRow : Later current (input.refresh (some existing)) :=
            later_refresh toCurrent open'
          have notStale : existing.stale = false := by
            by_contra isStale
            have stale := owns.flag (Bool.eq_true_of_not_eq_false isStale)
            exact open' (toCurrent.decided (stale ▸ by decide))
          refine ⟨sound_save sound currentMem toRow ?_, trivial,
            follows_save sound.keyed currentMem toRow⟩
          have ready : (input.refresh (some existing)).status = .ready := rfl
          have flag : (input.refresh (some existing)).stale = false := notStale
          exact iff_of_false (by simp [flag]) (by simp [ready])
  | deciding decision id organizationId workspaceId =>
      cases advanceEq
      apply left_of_same sound rfl
      apply owns_afterFound sound
      intro row rowEq
      exact Table.mem_of_get? (Option.filter_eq_some_iff.mp rowEq).1
  | saving decision copy =>
      cases advanceEq
      obtain ⟨ready, held⟩ := owns
      obtain ⟨current, currentMem, toCurrent⟩ := held.later
      have toRow := later_decide toCurrent (respectful current currentMem toCurrent.id)
      refine ⟨sound_save sound currentMem toRow ?_, trivial,
        follows_save sound.keyed currentMem toRow⟩
      have flag : (copy.decide decision).stale = false := ready.2
      have status : (copy.decide decision).status ≠ .stale := by cases decision <;> nofun
      exact iff_of_false (by simp [flag]) status
  | marking canvasId organizationId workspaceId =>
      cases advanceEq
      exact ⟨sound_markStale sound, trivial, follows_markStale⟩
  | ended => cases advanceEq

/-- A step that is not respectful breaks a promise at once. -/
theorem respectful_of_kept {others : List SuggestionStage} {stage after : SuggestionStage}
    (sound : SoundSuggestions db) (owns : OwnsSuggestion db stage)
    (advanceEq : stage.advance db = some (next, after)) (agreeing : Agreeing next.suggestions)
    (final : Final db.suggestions next.suggestions) : Respectful db others stage () := by
  cases stage with
  | storing input existing =>
      cases advanceEq
      cases existing with
      | none =>
          intro fresh
          rcases storeSuggestion_none db input with ⟨_, taken⟩ | ⟨appended, _⟩
          · exact absurd fresh taken
          · rw [appended] at agreeing
            exact (agreeing_append_iff sound.agreeing owns).mp agreeing
      | some existing =>
          intro current currentMem own decided
          have saved : input.refresh (some existing) ∈
              (db.storeSuggestion input (some existing)).suggestions :=
            Table.mem_save_iff.mpr (Or.inl rfl)
          exact (final current currentMem decided _ saved own.symm).1 rfl
  | saving decision copy =>
      cases advanceEq
      intro current currentMem own decided
      have saved : copy.decide decision ∈
          (db.writeSuggestion (copy.decide decision)).suggestions :=
        Table.mem_save_iff.mpr (Or.inl rfl)
      obtain ⟨_, notRejected, notAccepted, same⟩ :=
        final current currentMem decided _ saved own.symm
      exact ⟨decisions_agree decided notRejected notAccepted,
        CanvasAiSuggestion.SameContent.decide_iff.mp same⟩
  | received kind event => trivial
  | reacting event reaction => trivial
  | suggesting input => trivial
  | deciding decision id organizationId workspaceId => trivial
  | marking canvasId organizationId workspaceId => trivial
  | ended => trivial

/-! ## Runs -/

/-- What holds of the suggestions and of the calls. -/
abbrev SoundCalls (state : Sessions.State PlatformDb SuggestionStage) : Prop :=
  Sessions.Invariant SoundSuggestions OwnsSuggestion (fun _ _ => True) state

theorem suggests_start {request : SuggestionRequest} : OwnsSuggestion db request.stage := by
  cases request with
  | createOrUpdate input => exact ⟨rfl, rfl⟩
  | handle kind event => trivial
  | decide decision id organizationId workspaceId => trivial
  | markStale canvasId organizationId workspaceId => trivial

/-- Respectful calls beside each other keep what they rely on. -/
theorem suggestionSystem_keeps :
    Sessions.Keeps suggestionSystem (fun _ => True) Respectful SoundSuggestions OwnsSuggestion
      (fun _ _ => True) where
  started := by
    intro db request sound _
    refine ⟨sound, fun _ owns => owns, ?_⟩
    intro stage stageEq
    cases stageEq
    exact ⟨suggests_start, fun _ => ⟨trivial, trivial⟩⟩
  advanced := by
    intro db others stage choice next after leaves respectful advanceEq
    have left := advance_left leaves.holds leaves.owns respectful advanceEq
    refine ⟨left.sound, left.owns, ?_, fun _ _ => ⟨trivial, trivial⟩⟩
    intro other otherMem
    exact (leaves.beside other otherMem).follows left.follows

/-- A respectful step keeps the rows. -/
theorem step_follows {state reached : Sessions.State PlatformDb SuggestionStage}
    {action : Sessions.Action SuggestionRequest Unit} (sound : SoundCalls state)
    (met : Sessions.Guard (fun _ => True) Respectful state action)
    (stepEq : suggestionSystem.step state action = some reached) :
    Follows state.store.suggestions reached.store.suggestions := by
  rcases Sessions.step_cases stepEq with ⟨request, rfl, rfl⟩ |
    ⟨index, choice, stage, db, after, rfl, stageEq, advanceEq, rfl⟩
  · exact Follows.refl _
  · have leaves := sound.leaves stageEq
    exact (advance_left leaves.holds leaves.owns (met stage stageEq) advanceEq).follows

/-- The step of a run that is not respectful breaks a promise at once. -/
theorem guard_of_kept {state : Sessions.State PlatformDb SuggestionStage}
    {action : Sessions.Action SuggestionRequest Unit} (sound : SoundCalls state)
    (kept : ∀ reached, suggestionSystem.step state action = some reached →
      Agreeing reached.store.suggestions ∧
        Final state.store.suggestions reached.store.suggestions) :
    Sessions.Guard (fun _ => True) Respectful state action := by
  cases action with
  | start request => trivial
  | advance index choice =>
      intro stage stageEq
      have leaves := sound.leaves stageEq
      cases advanceEq : stage.advance state.store with
      | none =>
          cases stage with
          | ended => trivial
          | _ => cases advanceEq
      | some taken =>
          obtain ⟨db, after⟩ := taken
          have stepEq : suggestionSystem.step state (.advance index choice) =
              some ⟨db, state.sessions.set index after⟩ := by
            simp [Sessions.step, stageEq, suggestionSystem, advanceEq]
          obtain ⟨agreeing, final⟩ := kept _ stepEq
          exact respectful_of_kept leaves.holds leaves.owns advanceEq agreeing final

/-- What a step keeps. -/
def StepKept (state : Sessions.State PlatformDb SuggestionStage)
    (action : Sessions.Action SuggestionRequest Unit) : Prop :=
  ∀ reached, suggestionSystem.step state action = some reached →
    Agreeing reached.store.suggestions ∧ Final state.store.suggestions reached.store.suggestions

/-- A step keeps what is promised exactly if it is respectful. -/
theorem guard_iff_stepKept {state : Sessions.State PlatformDb SuggestionStage}
    {action : Sessions.Action SuggestionRequest Unit} (sound : SoundCalls state) :
    Sessions.Guard (fun _ => True) Respectful state action ↔ StepKept state action := by
  constructor
  · intro met reached stepEq
    have next : SoundCalls reached := suggestionSystem_keeps.step sound met stepEq
    have follows := step_follows sound met stepEq
    exact ⟨next.holds.agreeing, follows.final next.holds.keyed⟩
  · exact guard_of_kept sound

/-- A respectful run keeps the rows. -/
theorem run_follows {state reached : Sessions.State PlatformDb SuggestionStage}
    {actions : List (Sessions.Action SuggestionRequest Unit)} (sound : SoundCalls state)
    (met : suggestionSystem.step.Meets (Sessions.Guard (fun _ => True) Respectful) state actions)
    (runEq : suggestionSystem.step.run state actions = some reached) :
    Follows state.store.suggestions reached.store.suggestions := by
  let related (first second : Sessions.State PlatformDb SuggestionStage) : Prop :=
    Follows first.store.suggestions second.store.suggestions
  have preserved : ∀ state action next, SoundCalls state →
      Sessions.Guard (fun _ => True) Respectful state action →
      suggestionSystem.step state action = some next → SoundCalls next ∧ related state next := by
    intro state action next sound met stepEq
    exact ⟨suggestionSystem_keeps.step sound met stepEq, step_follows sound met stepEq⟩
  have refl : ∀ state, related state state := fun _ => Follows.refl _
  have trans : ∀ first second third, related first second → related second third →
      related first third := fun _ _ _ => Follows.trans
  exact Step.related_of_meets refl trans preserved sound met runEq

/-- A decisive run is respectful. -/
theorem meets_of_decisive {state : Sessions.State PlatformDb SuggestionStage}
    {actions : List (Sessions.Action SuggestionRequest Unit)} (start : SoundCalls state)
    (decisive : Decisive state actions) :
    suggestionSystem.step.Meets (Sessions.Guard (fun _ => True) Respectful) state actions := by
  have kept : suggestionSystem.step.Meets StepKept state actions := by
    apply Step.meets_iff_forall.mpr
    intro early action rest split middle earlyEq last stepEq
    apply decisive early [action] rest (by simp [split]) middle last earlyEq
    exact Step.run_cons_eq_some_iff.mpr ⟨last, stepEq, rfl⟩
  apply (Step.meets_iff_of_guarded ?_ ?_ start).mpr kept
  · intro state action next sound met stepEq
    exact suggestionSystem_keeps.step sound met stepEq
  · intro state action sound
    exact guard_iff_stepKept sound

/-- In a run, decisions on suggestions are final, the flags agree with the statuses and tasks have
one suggestion at most, exactly if every call is respectful. -/
theorem decisive_iff {state : Sessions.State PlatformDb SuggestionStage}
    {actions : List (Sessions.Action SuggestionRequest Unit)}
    (sound : SoundSuggestions state.store) (none : state.sessions = []) :
    Decisive state actions ↔
      suggestionSystem.step.Meets (Sessions.Guard (fun _ => True) Respectful) state actions := by
  have start : SoundCalls state := Sessions.Invariant.of_no_sessions sound none
  constructor
  · exact meets_of_decisive start
  · intro met early late rest split middle last earlyEq lateEq
    subst split
    obtain ⟨metEarly, metLate⟩ := Step.meets_append.mp (Step.meets_append.mp met).1
    have middleSound : SoundCalls middle := suggestionSystem_keeps.run start metEarly earlyEq
    have lastSound : SoundCalls last :=
      suggestionSystem_keeps.run middleSound (metLate middle earlyEq) lateEq
    have follows := run_follows middleSound (metLate middle earlyEq) lateEq
    exact ⟨lastSound.holds.agreeing, follows.final lastSound.holds.keyed⟩

/-! ## Examples -/

/-- A suggestion for the canvas of the examples. -/
def exampleSuggestion (id prompt : String) : CanvasAiSuggestion where
  id := uuid id
  taskId := uuid "task"
  organizationId := exampleOrg
  workspaceId := exampleWorkspace
  canvasId := exampleCanvas
  snapshotId := none
  snapshotVersion := none
  canvasRevision := none
  resultType := "enhanced_prompt"
  componentSpec := none
  assetId := none
  assetVersionId := none
  enhancedPrompt := some (.str prompt)
  evidenceIds := none
  status := .ready
  stale := false

/-- A platform without calls. -/
def exampleQuiet : Sessions.State PlatformDb SuggestionStage := ⟨exampleDb, []⟩

/-- A suggestion is created. -/
def exampleCreated : List (Sessions.Action SuggestionRequest Unit) :=
  [.start (.createOrUpdate (exampleSuggestion "suggestion" "A login form")), .advance 0 (),
    .advance 0 ()]

/-- A user decides on the suggestion. -/
def exampleDecide (decision : Decision) : Sessions.Action SuggestionRequest Unit :=
  .start (.decide decision (uuid "suggestion") exampleOrg exampleWorkspace)

/-- The suggestion is accepted, a call that rejects it comes too late, and the canvas changes. -/
def exampleAccepted : List (Sessions.Action SuggestionRequest Unit) :=
  exampleCreated ++ [exampleDecide .accept, .advance 1 (), .advance 1 (), exampleDecide .reject,
    .advance 2 (), .start (.markStale exampleCanvas exampleOrg exampleWorkspace), .advance 3 ()]

theorem exampleQuiet_sound : SoundSuggestions exampleQuiet.store :=
  ⟨Table.keyed_nil, ⟨fun _ none => absurd none List.not_mem_nil, List.nodup_nil⟩⟩

theorem decisive_iff_example :
    Decisive exampleQuiet exampleAccepted ∧
      (suggestionSystem.step.run exampleQuiet exampleAccepted).isSome := by
  have met : suggestionSystem.step.Meets (Sessions.Guard (fun _ => True) Respectful) exampleQuiet
      exampleAccepted := by
    decide +kernel
  exact ⟨(decisive_iff exampleQuiet_sound rfl).mpr met, by decide +kernel⟩

/-- Two users have read the suggestion while it was ready; one accepts it and the other one
rejects it. -/
def exampleBothDecide : List (Sessions.Action SuggestionRequest Unit) :=
  exampleCreated ++ [exampleDecide .accept, exampleDecide .reject, .advance 1 (), .advance 2 (),
    .advance 1 (), .advance 2 ()]

/-- The result of the task arrives again after the suggestion has been accepted. -/
def exampleAgain : List (Sessions.Action SuggestionRequest Unit) :=
  exampleCreated ++ [exampleDecide .accept, .advance 1 (), .advance 1 (),
    .start (.createOrUpdate (exampleSuggestion "another" "A register form")), .advance 2 (),
    .advance 2 ()]

/-- Two results of one task have found no suggestion of it. -/
def exampleCreatedTwice : List (Sessions.Action SuggestionRequest Unit) :=
  [.start (.createOrUpdate (exampleSuggestion "suggestion" "A login form")),
    .start (.createOrUpdate (exampleSuggestion "another" "A register form")), .advance 0 (),
    .advance 1 (), .advance 0 (), .advance 1 ()]

/-- A decision is turned over, an accepted suggestion is made ready with another content, and a
task gets two suggestions. -/
theorem decision_turned_over :
    ¬ Decisive exampleQuiet exampleBothDecide ∧ ¬ Decisive exampleQuiet exampleAgain ∧
      ¬ Decisive exampleQuiet exampleCreatedTwice := by
  have start : SoundCalls exampleQuiet := Sessions.Invariant.of_no_sessions exampleQuiet_sound rfl
  refine ⟨fun decisive => absurd (meets_of_decisive start decisive) ?_,
    fun decisive => absurd (meets_of_decisive start decisive) ?_,
    fun decisive => absurd (meets_of_decisive start decisive) ?_⟩ <;> decide +kernel

end Manbaa.Jobs
