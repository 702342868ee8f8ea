import Manbaa.AiGateway.Rejection
import Manbaa.AiGateway.SessionService

/-!
# The life of a session

Calls of the sessions service, results and divergence results, one after the other
and in any order; any call of another system may fail in each of them.  A session
changes its status along a rule of its table, and its first task takes two at once.
The handler of divergence results does not ask the table.
-/

namespace Manbaa.AiGateway

open Manbaa.Lib Manbaa.Lib.Effect

/-! ## The system -/

/-- A call that may change the status of a session. -/
inductive LifecycleCall where
  | createSession (request : CreateSession)
  | finalize (request : SessionCall)
  | dispatchAiTask (request : DispatchAiTask)
  | archive (request : SessionCall)
  | overrideStatus (request : SessionCall) (dto : UpdateSessionStatusDto)
  | result (ids : ResultIds) (now : Nat) (payload : AiTaskResultEvent) (msgId : Option String)
  | divergence (payload : PipelineDivergenceResultEvent) (msgId : Option String)

/-- A call, and which call of another system fails in it, if one does. -/
structure LifecycleAction where
  call : LifecycleCall
  left : Option Nat

/-- The database, and the keys that the two handlers remember. -/
structure Lifecycle where
  db : AiDb
  handledResults : List String
  handledDivergences : List String

/-- The results and the database. -/
def Lifecycle.results (state : Lifecycle) : Gateway := ⟨state.db, state.handledResults⟩

/-- The divergence results and the database. -/
def Lifecycle.divergences (state : Lifecycle) : Gateway := ⟨state.db, state.handledDivergences⟩

/-- What a call of the service leaves. -/
def Lifecycle.afterService (state : Lifecycle) (body : Calls Unit) (left : Option Nat) :
    Lifecycle :=
  let reached := (body ⟨state.results, left⟩).2.state
  { state with db := reached.db, handledResults := reached.handledIds }

/-- What the handler of divergence results leaves. -/
def Lifecycle.afterDivergence (state : Lifecycle) (body : Calls Unit) (left : Option Nat) :
    Lifecycle :=
  let reached := (body ⟨state.divergences, left⟩).2.state
  { state with db := reached.db, handledDivergences := reached.handledIds }

/-- One call after the other. -/
def lifecycleSystem (threshold : ℚ) : Step Lifecycle LifecycleAction :=
  Step.ofTotal fun state action =>
    match action.call with
    | .createSession request => state.afterService (createSession request) action.left
    | .finalize request => state.afterService (finalize request) action.left
    | .dispatchAiTask request => state.afterService (dispatchAiTask request) action.left
    | .archive request => state.afterService (archive request) action.left
    | .overrideStatus request dto => state.afterService (overrideStatus request dto) action.left
    | .result ids now payload msgId =>
        state.afterService (handle ids now payload msgId) action.left
    | .divergence payload msgId =>
        state.afterDivergence (handleDivergence threshold payload msgId) action.left

/-! ## Changes of a status -/

/-- The call dispatches a task. -/
def LifecycleCall.dispatches : LifecycleCall → Bool
  | .dispatchAiTask _ => true
  | _ => false

/-- A session stays in its mode, and its status stays, or changes along a rule, or along
two rules when a task is dispatched. -/
structure Changes (dispatches : Bool) (before after : Session) : Prop where
  mode : after.mode = before.mode
  status : after.status = before.status ∨
    canTransitionTo before.status after.status before.mode = true ∨
    (dispatches = true ∧ before.status = .created ∧ after.status = .processing)

/-- Every session is still there, and has changed so. -/
def Follows (dispatches : Bool) (sessions target : List Session) : Prop :=
  ∀ id before, Table.get? Session.id sessions id = some before →
    ∃ after, Table.get? Session.id target id = some after ∧ Changes dispatches before after

variable {dispatches : Bool} {db : AiDb} {session : Session} {world : Faulty Gateway}
  {sessions : List Session}

theorem Changes.refl (dispatches : Bool) (session : Session) :
    Changes dispatches session session :=
  ⟨rfl, Or.inl rfl⟩

theorem Follows.refl (dispatches : Bool) (sessions : List Session) :
    Follows dispatches sessions sessions :=
  fun _ before found => ⟨before, found, Changes.refl dispatches before⟩

/-- A session is saved with a status that it may change to. -/
theorem follows_save {saved : Session} (found : Table.get? Session.id sessions saved.id = some session)
    (changes : Changes dispatches session saved) :
    Follows dispatches sessions (Table.save Session.id sessions saved) := by
  intro id before beforeEq
  rw [Table.get?_save]
  split
  · rename_i same
    rw [same] at found
    cases found.symm.trans beforeEq
    exact ⟨saved, rfl, changes⟩
  · exact ⟨before, beforeEq, Changes.refl dispatches before⟩

/-! ## Calls that do not touch sessions -/

/-- The sessions are the same. -/
def SameSessions (gateway target : Gateway) : Prop := target.db.sessions = gateway.db.sessions

/-- The computation leaves the sessions alone. -/
def Spares {α : Type} (body : Calls α) : Prop := Moves (Within SameSessions) body

section
variable {α β : Type}

theorem spares_of_quiet {body : Calls α} (quiet : Quiet body) : Spares body := by
  intro world
  rw [Within, SameSessions, quiet.state_eq rfl]

theorem spares_reading (read : AiDb → α) : Spares (query (reading read)) :=
  spares_of_quiet (quiet_reading read)

theorem spares_external : Spares external := spares_of_quiet (quiet_calling readOnly_pure)

theorem Spares.bind {part : Calls α} {next : α → Calls β} (partSpares : Spares part)
    (nextSpares : ∀ value, Spares (next value)) : Spares (part >>= next) :=
  partSpares.andThen (fun _ _ _ first second => second.trans first) nextSpares

theorem spares_writing {write : AiDb → AiDb} (same : ∀ db, (write db).sessions = db.sessions) :
    Spares (query (writing write)) :=
  moves_calling (fun _ => rfl) fun gateway => same gateway.db

end

/-! ## Calls that save a session -/

/-- A computation that spares the sessions leaves them as it found them. -/
theorem Spares.follows {α : Type} {body : Calls α} (spares : Spares body)
    (holds : Follows dispatches sessions world.state.db.sessions) :
    Follows dispatches sessions (body world).2.state.db.sessions := by
  have same : (body world).2.state.db.sessions = world.state.db.sessions := spares world
  rw [same]
  exact holds

/-- A quiet part may stop a sequence; what follows it sees the same state. -/
theorem follows_quiet {α : Type} {part : Calls α} {next : α → Calls Unit} (quiet : Quiet part)
    (keeps : ∀ value middle, part world = (.ok value, middle) → middle.state = world.state →
      Follows dispatches world.state.db.sessions (next value middle).2.state.db.sessions) :
    Follows dispatches world.state.db.sessions
      ((part >>= next) world).2.state.db.sessions := by
  have leaves : Leaves (fun gateway : Gateway => Follows dispatches world.state.db.sessions
      gateway.db.sessions) (part >>= next) world :=
    Leaves.afterQuiet quiet (Follows.refl dispatches _) keeps
  exact leaves

/-- A part that spares the sessions may stop a sequence; what follows it sees the same
sessions. -/
theorem Spares.andThen {α : Type} {part : Calls α} {next : α → Calls Unit} (spares : Spares part)
    (keeps : ∀ value middle, middle.state.db.sessions = world.state.db.sessions →
      Follows dispatches world.state.db.sessions (next value middle).2.state.db.sessions) :
    Follows dispatches world.state.db.sessions
      ((part >>= next) world).2.state.db.sessions := by
  have same : (part world).2.state.db.sessions = world.state.db.sessions := spares world
  rcases partEq : part world with ⟨thrown | value, middle⟩
  · rw [partEq] at same
    rw [bind_eq_error_iff.mpr (Or.inl partEq)]
    dsimp only at same ⊢
    rw [same]
    exact Follows.refl dispatches _
  · rw [partEq] at same
    rw [bind_of_ok partEq]
    exact keeps value middle same

/-- A save of a session that was found, with a status that it may change to. -/
theorem saveSession_follows {saved : Session}
    (found : world.state.db.session? session.id = some session) (sameId : saved.id = session.id)
    (changes : Changes dispatches session saved) :
    Follows dispatches world.state.db.sessions
      (saveSession saved world).2.state.db.sessions := by
  rcases saveEq : saveSession saved world with ⟨thrown | done, reached⟩
  · rcases query_throws saveEq with ⟨stateEq, _⟩ | ⟨_, writeEq, _⟩
    · rw [stateEq]
      exact Follows.refl dispatches _
    · cases writeEq
  · obtain ⟨target, writeEq, stateEq, _⟩ := query_eq_ok_iff.mp saveEq
    obtain rfl := writing_eq_ok_iff.mp writeEq
    rw [stateEq]
    rw [← sameId] at found
    exact follows_save found changes

/-- A part that spares the sessions may follow. -/
theorem follows_bind {α : Type} {part : Calls α} {next : α → Calls Unit}
    (follows : Follows dispatches sessions (part world).2.state.db.sessions)
    (spares : ∀ value, Spares (next value)) :
    Follows dispatches sessions ((part >>= next) world).2.state.db.sessions := by
  rcases partEq : part world with ⟨thrown | value, reached⟩
  · rw [partEq] at follows
    rw [bind_eq_error_iff.mpr (Or.inl partEq)]
    exact follows
  · rw [partEq] at follows
    rw [bind_of_ok partEq]
    exact (spares value).follows follows

/-! ## The sessions service -/

theorem quiet_findSessionWorkflow (workflowId orgId : Uuid) (message : String) :
    Quiet (findSessionWorkflow workflowId orgId message) :=
  (quiet_reading _).bind fun _ => quiet_of_readOnly readOnly_orThrow

theorem quiet_findSession (sessionId orgId : Uuid) :
    Quiet (findSessionInOrgOrThrow sessionId orgId) :=
  (quiet_reading _).bind fun _ => (quiet_of_readOnly readOnly_orThrow).bind fun _ =>
    (quiet_findSessionWorkflow _ _ _).bind fun _ => quiet_of_readOnly readOnly_pure

theorem findSession_ok {sessionId orgId : Uuid} {reached : Faulty Gateway}
    (findEq : findSessionInOrgOrThrow sessionId orgId world = (.ok session, reached)) :
    world.state.db.session? sessionId = some session := by
  obtain ⟨_, _, queryEq, foundRest⟩ := bind_eq_ok_iff.mp findEq
  obtain ⟨foundEq, _, _⟩ := query_reading_ok queryEq
  obtain ⟨_, _, orEq, orRest⟩ := bind_eq_ok_iff.mp foundRest
  obtain ⟨presentEq, _⟩ := orThrow_eq_ok_iff.mp orEq
  obtain ⟨_, _, _, pureEq⟩ := bind_eq_ok_iff.mp orRest
  obtain ⟨rfl, _⟩ := pure_eq_ok_iff.mp pureEq
  exact foundEq.trans presentEq

/-- A call begins with a session that it finds. -/
theorem find_follows {sessionId orgId : Uuid} {next : Session → Calls Unit}
    (keeps : ∀ session middle, middle.state.db.session? session.id = some session →
      Follows dispatches middle.state.db.sessions (next session middle).2.state.db.sessions) :
    Follows dispatches world.state.db.sessions
      ((findSessionInOrgOrThrow sessionId orgId >>= next) world).2.state.db.sessions := by
  apply follows_quiet (quiet_findSession sessionId orgId)
  intro session middle findEq stateEq
  have found := findSession_ok findEq
  have sameId : session.id = sessionId := Table.key_of_get? found
  rw [← stateEq] at found ⊢
  rw [← sameId] at found
  exact keeps session middle found

theorem quiet_assertOwnerOrAdmin (session : Session) (caller : RequestUser) :
    Quiet (assertOwnerOrAdmin session caller) :=
  quiet_of_readOnly readOnly_require

theorem createSession_follows (request : CreateSession) :
    Follows dispatches world.state.db.sessions
      (createSession request world).2.state.db.sessions := by
  apply follows_quiet (quiet_findSessionWorkflow _ _ _)
  intro workflow middle _ stateEq
  rw [← stateEq]
  have moves : Moves (Within (OnDb fun db target =>
      Follows dispatches db.sessions target.sessions)) (query (writing fun db =>
        { db with sessions := db.sessions ++ [request.session workflow] })) := by
    apply moves_query
    · exact fun db => Follows.refl dispatches db.sessions
    · intro db id before found
      refine ⟨before, ?_, Changes.refl dispatches before⟩
      exact Table.get?_append.trans (by rw [found]; rfl)
  exact (moves middle).2

/-- A status that an event leads to, as one that a rule allows. -/
theorem changes_of_transition {saved : Session} {event : SessionFsmEvent}
    (transitionEq : transitionSessionStatus session.status event session.mode = .ok saved.status)
    (sameMode : saved.mode = session.mode) : Changes dispatches session saved :=
  ⟨sameMode, Or.inr (Or.inl (canTransitionTo_of_transition transitionEq))⟩

theorem finalize_follows (request : SessionCall) :
    Follows dispatches world.state.db.sessions (finalize request world).2.state.db.sessions := by
  apply find_follows
  intro session middle found
  apply follows_quiet (quiet_assertOwnerOrAdmin session request.caller)
  intro _ owned _ ownedEq
  rw [← ownedEq] at found ⊢
  apply follows_quiet (quiet_findSessionWorkflow _ _ _)
  intro _ located _ locatedEq
  rw [← locatedEq] at found ⊢
  apply follows_quiet (quiet_of_readOnly readOnly_asking)
  intro status asked askedEq _
  obtain ⟨transitionEq, rfl⟩ := asking_eq_ok_iff.mp askedEq
  exact follows_bind (saveSession_follows found rfl (changes_of_transition transitionEq rfl)) fun _ =>
    (spares_reading _).bind fun _ => spares_external.bind fun _ => spares_external

theorem archive_follows (request : SessionCall) :
    Follows dispatches world.state.db.sessions (archive request world).2.state.db.sessions := by
  apply find_follows
  intro session middle found
  apply follows_quiet (quiet_assertOwnerOrAdmin session request.caller)
  intro _ owned _ ownedEq
  rw [← ownedEq] at found ⊢
  apply follows_quiet (quiet_of_readOnly readOnly_asking)
  intro status asked askedEq _
  obtain ⟨transitionEq, rfl⟩ := asking_eq_ok_iff.mp askedEq
  exact follows_bind (saveSession_follows found rfl (changes_of_transition transitionEq rfl)) fun _ =>
    (spares_writing (by exact fun _ => rfl)).bind fun _ => spares_external

/-- An override that is not forced changes the status along a rule. -/
theorem overrideStatus_follows (request : SessionCall) {dto : UpdateSessionStatusDto}
    (unforced : dto.force = false) :
    Follows dispatches world.state.db.sessions
      (overrideStatus request dto world).2.state.db.sessions := by
  apply follows_quiet (quiet_of_readOnly readOnly_require)
  intro _ allowed _ allowedEq
  rw [← allowedEq]
  apply find_follows
  intro session middle found
  apply follows_quiet (quiet_of_readOnly readOnly_require)
  intro _ checked checkedEq _
  obtain ⟨ruleEq, rfl⟩ := require_eq_ok_iff.mp checkedEq
  rw [unforced, Bool.false_or] at ruleEq
  exact follows_bind (saveSession_follows found rfl ⟨rfl, Or.inr (Or.inl ruleEq)⟩) fun _ =>
    spares_external

theorem spares_publishAiTask (request : DispatchAiTask) (session : Session) :
    Spares (publishAiTask request session) :=
  (spares_reading _).bind fun _ => (spares_of_quiet (quiet_of_readOnly readOnly_orThrow)).bind fun _ =>
    (spares_reading _).bind fun _ =>
      (spares_of_quiet (quiet_of_readOnly readOnly_orThrow)).bind fun _ =>
        (spares_writing (by exact fun _ => rfl)).bind fun _ => spares_external.bind fun _ =>
          spares_external.bind fun _ => spares_external.bind fun _ =>
            spares_external.bind fun _ => spares_writing (by exact fun _ => rfl)

/-- The first task of a session takes two rules at once. -/
theorem saveDispatched_follows
    (found : world.state.db.session? session.id = some session) :
    Follows true world.state.db.sessions
      (saveDispatched session world).2.state.db.sessions := by
  rw [saveDispatched]
  split
  · rename_i created
    apply follows_quiet (quiet_of_readOnly readOnly_asking)
    intro status asked askedEq _
    obtain ⟨firstEq, rfl⟩ := asking_eq_ok_iff.mp askedEq
    apply follows_quiet (quiet_of_readOnly readOnly_asking)
    intro published asked askedEq _
    obtain ⟨secondEq, rfl⟩ := asking_eq_ok_iff.mp askedEq
    refine saveSession_follows found rfl ⟨rfl, Or.inr (Or.inr ⟨rfl, created, ?_⟩)⟩
    rw [created] at firstEq
    cases firstEq
    cases secondEq
    rfl
  · split
    · apply follows_quiet (quiet_of_readOnly readOnly_asking)
      intro published asked askedEq _
      obtain ⟨transitionEq, rfl⟩ := asking_eq_ok_iff.mp askedEq
      exact saveSession_follows found rfl (changes_of_transition transitionEq rfl)
    · exact Follows.refl true _

theorem dispatchAiTask_follows (request : DispatchAiTask) :
    Follows true world.state.db.sessions
      (dispatchAiTask request world).2.state.db.sessions := by
  apply find_follows
  intro session middle found
  apply follows_quiet (quiet_assertOwnerOrAdmin session request.caller)
  intro _ owned _ ownedEq
  rw [← ownedEq] at found ⊢
  apply (spares_publishAiTask request session).andThen
  intro _ published same
  have stillFound : published.state.db.session? session.id = some session := by
    rw [AiDb.session?, same]
    exact found
  rw [← same]
  exact follows_bind (saveDispatched_follows stillFound) fun _ => spares_external

/-! ## Results and divergence results -/

/-- The session of a result is saved with the status that the table gives, or it is
not. -/
def SavesOnce (payload : AiTaskResultEvent) (session : Session)
    (sessions target : List Session) : Prop :=
  target = sessions ∨ ∃ status,
    transitionSessionStatus session.status .aiResultReceived session.mode = .ok status ∧
    target = Table.save Session.id sessions (session.withResult payload status)

/-- What the statements after the version of a result do to the sessions, with so many
writes. -/
def SavesResult (payload : AiTaskResultEvent) (session : Session) : Nat → AiDb → AiDb → Prop
  | 0, db, target => target.sessions = db.sessions
  | 1, db, target => SavesOnce payload session db.sessions target.sessions
  | _ + 2, _, _ => True

theorem savesResult_resultMoves (ids : ResultIds) (payload : AiTaskResultEvent)
    (session : Session) (created : WorkflowVersion) :
    ResultMoves ids payload session created 1 0 0 (SavesResult payload session) where
  refl := fun _ => rfl
  weaken := by
    intro least most db target le moved
    match least, most with
    | 0, 0 => exact moved
    | 0, 1 => exact Or.inl moved
    | 1, 1 => exact moved
    | _, _ + 2 => trivial
    | _ + 1, 0 => omega
    | _ + 2, 1 => omega
  trans := by
    intro cost rest db middle target first second
    match cost, rest with
    | 0, 0 => exact Eq.trans second first
    | 0, 1 =>
        have same : middle.sessions = db.sessions := first
        have once : SavesOnce payload session middle.sessions target.sessions := second
        rw [same] at once
        exact once
    | 1, 0 =>
        have once : SavesOnce payload session db.sessions middle.sessions := first
        have same : target.sessions = middle.sessions := second
        rw [← same] at once
        exact once
    | cost, rest + 2 => trivial
    | cost + 2, 0 => trivial
    | cost + 2, 1 => trivial
    | 1, 1 => trivial
  workflow := fun _ _ => rfl
  session := fun _ status transitionEq => Or.inr ⟨status, transitionEq, rfl⟩
  pipeline := fun _ _ => rfl
  message := fun _ => rfl
  graph := fun _ _ => rfl
  report := fun _ _ _ => rfl

theorem handle_follows (ids : ResultIds) (now : Nat) (payload : AiTaskResultEvent)
    (msgId : Option String) :
    Follows dispatches world.state.db.sessions
      (handle ids now payload msgId world).2.state.db.sessions := by
  rcases handleEq : handle ids now payload msgId world with ⟨result, reached⟩
  cases handle_outcome handleEq with
  | known => exact Follows.refl dispatches _
  | stopped _ _ _ stateEq _ =>
      dsimp only
      rw [stateEq]
      exact Follows.refl dispatches _
  | stored pipelineExecution session workflow created middle _ _ _ subjectEq _ _ middleEq _ restEq =>
      obtain ⟨_, sessionEq, _⟩ := subject?_eq_some_iff.mp subjectEq
      have moved := ((savesResult_resultMoves _ _ _ _).finishResult restEq).1
      rw [middleEq] at moved
      rcases moved with same | ⟨status, transitionEq, savedEq⟩
      · dsimp only
        rw [same]
        exact Follows.refl dispatches _
      · dsimp only
        rw [savedEq]
        have sameId : session.id = payload.sessionId := Table.key_of_get? sessionEq
        rw [← sameId] at sessionEq
        exact follows_save sessionEq (changes_of_transition transitionEq rfl)

/-- A divergence result that is low finds its session in a draft, or in reconciliation
already. -/
def Reconcilable (threshold : ℚ) (payload : PipelineDivergenceResultEvent) (db : AiDb) : Prop :=
  payload.similarityScore < threshold → ∀ session ∈ db.session? payload.sessionId,
    session.status = .draftReady ∨ session.status = .needsReconciliation

theorem reconcile_follows {payload : PipelineDivergenceResultEvent}
    (reconcilable : ∀ session ∈ world.state.db.session? payload.sessionId,
      session.status = .draftReady ∨ session.status = .needsReconciliation) :
    Follows dispatches world.state.db.sessions (reconcile payload world).2.state.db.sessions := by
  apply follows_quiet (quiet_reading _)
  intro found middle foundEq stateEq
  obtain ⟨sessionEq, _, _⟩ := query_reading_ok foundEq
  cases found with
  | none =>
      dsimp only
      rw [← stateEq]
      exact Follows.refl dispatches _
  | some session =>
      have sameId : session.id = payload.sessionId := Table.key_of_get? sessionEq
      have allowed := reconcilable session sessionEq
      rw [← stateEq, ← sameId] at sessionEq
      rw [← stateEq]
      refine follows_bind (saveSession_follows sessionEq rfl ⟨rfl, ?_⟩) fun _ =>
        spares_external
      dsimp only
      rcases allowed with draft | already
      · rw [draft]
        cases session.mode with
        | auto => exact Or.inr (Or.inl rfl)
        | interactive => exact Or.inr (Or.inl rfl)
      · exact Or.inl already.symm

theorem handleDivergence_follows {threshold : ℚ} {payload : PipelineDivergenceResultEvent}
    (msgId : Option String) (reconcilable : Reconcilable threshold payload world.state.db) :
    Follows dispatches world.state.db.sessions
      (handleDivergence threshold payload msgId world).2.state.db.sessions := by
  have reads : Quiet (locally (reading Gateway.handledIds) : Calls (List String)) :=
    moves_locally fun _ => rfl
  apply follows_quiet reads
  intro handledIds middle _ stateEq
  rw [← stateEq] at reconcilable ⊢
  split
  · exact Follows.refl dispatches _
  · apply follows_quiet (quiet_reading _)
    intro found middle _ stateEq
    rw [← stateEq] at reconcilable ⊢
    apply follows_quiet (quiet_of_readOnly readOnly_orThrow)
    intro report middle _ stateEq
    rw [← stateEq] at reconcilable ⊢
    apply Spares.andThen (spares_writing (by exact fun _ => rfl))
    intro _ saved same
    have marks : ∀ key, Spares (locally (writing fun gateway : Gateway =>
        ⟨gateway.db, markHandled gateway.handledIds key⟩)) := fun _ => moves_locally fun _ => rfl
    rw [← same]
    split
    · rename_i low
      apply follows_bind _ fun _ => marks _
      apply reconcile_follows
      intro session sessionMem
      rw [AiDb.session?, same] at sessionMem
      exact reconcilable low session sessionMem
    · exact (marks _).follows (Follows.refl dispatches _)

/-! ## Runs -/

/-- No override is forced, and a low divergence result finds a draft. -/
def Regular (threshold : ℚ) (state : Lifecycle) (action : LifecycleAction) : Prop :=
  match action.call with
  | .overrideStatus _ dto => dto.force = false
  | .divergence payload _ => Reconcilable threshold payload state.db
  | _ => True

instance (threshold : ℚ) (payload : PipelineDivergenceResultEvent) (db : AiDb) :
    Decidable (Reconcilable threshold payload db) :=
  inferInstanceAs (Decidable (payload.similarityScore < threshold →
    ∀ session ∈ db.session? payload.sessionId,
      session.status = .draftReady ∨ session.status = .needsReconciliation))

instance (threshold : ℚ) (state : Lifecycle) (action : LifecycleAction) :
    Decidable (Regular threshold state action) :=
  match action with
  | ⟨.overrideStatus _ dto, _⟩ => inferInstanceAs (Decidable (dto.force = false))
  | ⟨.divergence payload _, _⟩ =>
      inferInstanceAs (Decidable (Reconcilable threshold payload state.db))
  | ⟨.createSession _, _⟩ | ⟨.finalize _, _⟩ | ⟨.dispatchAiTask _, _⟩ | ⟨.archive _, _⟩
  | ⟨.result _ _ _ _, _⟩ => .isTrue trivial

/-- One call changes each session along the table. -/
theorem step_follows {threshold : ℚ} {state next : Lifecycle} {action : LifecycleAction}
    (regular : Regular threshold state action)
    (stepEq : lifecycleSystem threshold state action = some next) :
    Follows action.call.dispatches state.db.sessions next.db.sessions := by
  obtain ⟨call, left⟩ := action
  cases stepEq
  have service : ∀ {dispatches : Bool} {body : Calls Unit}, (∀ world : Faulty Gateway,
      Follows dispatches world.state.db.sessions (body world).2.state.db.sessions) →
      Follows dispatches state.db.sessions (state.afterService body left).db.sessions :=
    fun follows => follows ⟨state.results, left⟩
  cases call with
  | createSession request => exact service fun _ => createSession_follows request
  | finalize request => exact service fun _ => finalize_follows request
  | dispatchAiTask request => exact service fun _ => dispatchAiTask_follows request
  | archive request => exact service fun _ => archive_follows request
  | overrideStatus request dto => exact service fun _ => overrideStatus_follows request regular
  | result ids now payload msgId => exact service fun _ => handle_follows ids now payload msgId
  | divergence payload msgId =>
      have found : Reconcilable threshold payload
          (Faulty.mk state.divergences left).state.db := regular
      exact handleDivergence_follows msgId found

/-- The session is there, archived or in an error. -/
def Closed (id : Uuid) (state : Lifecycle) : Prop :=
  ∃ session, state.db.session? id = some session ∧
    (session.status = .archived ∨ session.status = .error)

/-- An archived session, or one in an error, stays one of them. -/
theorem Closed.step {threshold : ℚ} {id : Uuid} {state next : Lifecycle} {action : LifecycleAction}
    (closed : Closed id state) (regular : Regular threshold state action)
    (stepEq : lifecycleSystem threshold state action = some next) : Closed id next := by
  obtain ⟨before, beforeEq, isOver⟩ := closed
  obtain ⟨after, afterEq, changes⟩ := step_follows regular stepEq id before beforeEq
  refine ⟨after, afterEq, ?_⟩
  rcases changes.status with same | rule | ⟨_, created, _⟩
  · rw [same]
    exact isOver
  · rcases isOver with archived | error
    · rw [archived, canTransitionTo_archived] at rule
      exact rule.symm
    · rw [error, canTransitionTo_error] at rule
      exact rule.symm
  · rw [created] at isOver
    rcases isOver with isOver | isOver <;> cases isOver

/-- In every run without forced overrides in which low divergence results find drafts:
each call changes the status of a session along a rule of the table, or along two when
it dispatches the first task, and an archived session is archived or in an error ever
after. -/
theorem status_follows_table {threshold : ℚ} {start middle next last : Lifecycle}
    {first rest : List LifecycleAction} {action : LifecycleAction}
    (met : (lifecycleSystem threshold).Meets (Regular threshold) start (first ++ action :: rest))
    (middleEq : (lifecycleSystem threshold).run start first = some middle)
    (nextEq : lifecycleSystem threshold middle action = some next)
    (lastEq : (lifecycleSystem threshold).run next rest = some last) :
    (∀ id before, middle.db.session? id = some before →
      ∃ after, next.db.session? id = some after ∧
        Changes action.call.dispatches before after) ∧
    (∀ id session, middle.db.session? id = some session → session.status = .archived →
      ∃ after, last.db.session? id = some after ∧
        (after.status = .archived ∨ after.status = .error)) := by
  obtain ⟨_, laterMet⟩ := Step.meets_append.mp met
  obtain ⟨regular, restMet⟩ := laterMet middle middleEq
  constructor
  · exact step_follows regular nextEq
  · intro id session sessionEq archived
    have closed : Closed id next := Closed.step ⟨session, sessionEq, Or.inl archived⟩ regular nextEq
    exact Step.invariant_of_meets (fun _ _ _ => Closed.step) closed (restMet next nextEq) lastEq

/-! ## Examples -/

/-- A first task of the session, dispatched by its owner. -/
def exampleDispatch : LifecycleAction :=
  ⟨.dispatchAiTask
    ⟨uuid "session", .obj [], ⟨exampleUser, uuid "org", "user"⟩, uuid "task", "c"⟩, none⟩

/-- The session is archived by its owner. -/
def exampleArchive : LifecycleAction :=
  ⟨.archive ⟨uuid "session", ⟨exampleUser, uuid "org", "user"⟩, 1⟩, none⟩

/-- A low divergence result for the session. -/
def exampleDivergence : LifecycleAction :=
  ⟨.divergence ⟨"c", uuid "r", uuid "session", 1 / 2⟩ none, none⟩

/-- One session in a status, and nothing handled. -/
def exampleLifecycle (status : SessionStatus) : Lifecycle := ⟨exampleDb status, [], []⟩

/-- A session takes its first task and is archived. -/
theorem status_follows_table_example :
    ∃ middle next last,
      (lifecycleSystem (7 / 10)).run (exampleLifecycle .created) [exampleDispatch] = some middle ∧
      lifecycleSystem (7 / 10) middle exampleArchive = some next ∧
      (lifecycleSystem (7 / 10)).run next [exampleDispatch] = some last ∧
      ∀ id before, middle.db.session? id = some before →
        ∃ after, next.db.session? id = some after ∧ Changes false before after := by
  have met : (lifecycleSystem (7 / 10)).Meets (Regular (7 / 10)) (exampleLifecycle .created)
      ([exampleDispatch] ++ exampleArchive :: [exampleDispatch]) := by
    decide +kernel
  exact ⟨_, _, _, rfl, rfl, rfl, (status_follows_table met rfl rfl rfl).1⟩

/-- The first task of a session leads to a status to which no rule leads, and so does a
low divergence result for an archived session. -/
theorem status_skips_rule :
    (∃ next, lifecycleSystem (7 / 10) (exampleLifecycle .created) exampleDispatch = some next ∧
      (next.db.session? (uuid "session")).map Session.status = some .processing ∧
      canTransitionTo .created .processing .auto = false) ∧
    ∃ next,
      (lifecycleSystem (7 / 10)).run (exampleLifecycle .processing)
        [⟨.result exampleIds 0 (exampleResult "pipeline") none, none⟩, exampleArchive,
          exampleDivergence] = some next ∧
      (next.db.session? (uuid "session")).map Session.status = some .needsReconciliation ∧
      canTransitionTo .archived .needsReconciliation .auto = false := by
  have dispatched : (lifecycleSystem (7 / 10) (exampleLifecycle .created) exampleDispatch).any
      fun next => (next.db.session? (uuid "session")).map Session.status == some .processing := by
    decide +kernel
  have reconciled : ((lifecycleSystem (7 / 10)).run (exampleLifecycle .processing)
      [⟨.result exampleIds 0 (exampleResult "pipeline") none, none⟩, exampleArchive,
        exampleDivergence]).any fun next =>
          (next.db.session? (uuid "session")).map Session.status == some .needsReconciliation := by
    decide +kernel
  obtain ⟨first, firstEq, firstStatus⟩ := Option.any_eq_true _ _ |>.mp dispatched
  obtain ⟨last, lastEq, lastStatus⟩ := Option.any_eq_true _ _ |>.mp reconciled
  exact ⟨⟨first, firstEq, beq_iff_eq.mp firstStatus, by decide⟩,
    ⟨last, lastEq, beq_iff_eq.mp lastStatus, by decide⟩⟩

end Manbaa.AiGateway
