import Manbaa.Canvases.PreviewCoordinator
import Mathlib.Data.List.Nodup

/-!
# Bursts of edits

What the coordinator should do is told by what has happened on a canvas.  Its edits form bursts:
a burst begins with an edit and goes on with every further one, until its handler is called, it is
cancelled, or an explicit trigger takes its place.  The coordinator calls a handler for a burst
exactly when the burst is due, and it is the one of the last edit.
-/

namespace Manbaa.Canvases.PreviewCoordinator

open Manbaa.Lib

variable {Handler : Type}

/-! ## Bursts -/

/-- A burst, as far as it matters: when its first and its last edit were, and what the last one
asked for. -/
structure Burst (Handler : Type) where
  firstEditAt : Nat
  lastEditAt : Nat
  revision : Nat
  handler : Handler
  deriving DecidableEq

/-- When the handler of a burst is to be called. -/
def Burst.dueAt (config : Config) (burst : Burst Handler) : Nat :=
  min (burst.lastEditAt + config.debounceMs) (burst.firstEditAt + config.maxDebounceMs)

/-- What the handler of a burst is to be called with. -/
def Burst.trigger (config : Config) (canvasId : String) (burst : Burst Handler) :
    CanvasAiPreviewTrigger where
  canvasId := canvasId
  revision := burst.revision
  reason := if burst.dueAt config = burst.firstEditAt + config.maxDebounceMs then .maxDebounce
    else .debounce

@[simp]
theorem Burst.trigger_canvasId (config : Config) (canvasId : String) (burst : Burst Handler) :
    (burst.trigger config canvasId).canvasId = canvasId :=
  rfl

/-- How a burst ends. -/
inductive Ending (Handler : Type) where
  | fired (time : Nat) (trigger : CanvasAiPreviewTrigger) (handler : Handler)
  | cancelled
  | replaced
  deriving DecidableEq

/-- The bursts of a canvas that have ended, each with its ending, and the one that goes on.  A
handler that is called without a burst is an ending without one. -/
structure Bursts (Handler : Type) where
  ended : List (Option (Burst Handler) × Ending Handler)
  current : Option (Burst Handler)
  deriving DecidableEq

/-- An edit goes on with the burst, or begins one. -/
def Bursts.edit (time revision : Nat) (handler : Handler) (bursts : Bursts Handler) :
    Bursts Handler :=
  { bursts with
    current := some ⟨bursts.current.elim time Burst.firstEditAt, time, revision, handler⟩ }

/-- The burst ends, if there is one. -/
def Bursts.stop (ending : Ending Handler) (bursts : Bursts Handler) : Bursts Handler :=
  match bursts.current with
  | none => bursts
  | some burst => ⟨bursts.ended ++ [(some burst, ending)], none⟩

/-- The bursts of a canvas after an event. -/
def Bursts.next (canvasId : String) (bursts : Bursts Handler) (event : Event Handler) :
    Bursts Handler :=
  if event.canvasId = canvasId then
    match event.happening with
    | .edited revision handler => bursts.edit event.time revision handler
    | .cancelled => bursts.stop .cancelled
    | .triggered _ _ => bursts.stop .replaced
    | .invoked trigger handler =>
        ⟨bursts.ended ++ [(bursts.current, .fired event.time trigger handler)], none⟩
  else bursts

/-- The bursts of a canvas in what has happened. -/
def burstsOf (canvasId : String) (log : List (Event Handler)) : Bursts Handler :=
  log.foldl (Bursts.next canvasId) ⟨[], none⟩

/-- The call of a handler that ends a burst. -/
def Ending.call? : Ending Handler → Option (Nat × CanvasAiPreviewTrigger × Handler)
  | .fired time trigger handler => some (time, trigger, handler)
  | .cancelled => none
  | .replaced => none

/-- The call of a handler for a canvas that nobody has asked for explicitly. -/
def Event.call? (canvasId : String) (event : Event Handler) :
    Option (Nat × CanvasAiPreviewTrigger × Handler) :=
  if event.canvasId = canvasId then
    match event.happening with
    | .invoked trigger handler => some (event.time, trigger, handler)
    | .edited _ _ => none
    | .cancelled => none
    | .triggered _ _ => none
  else none

/-- A burst has ended as it should: one that was fired was so when it was due, once and with what
its last edit asked for. -/
def EndsRight (config : Config) (canvasId : String)
    (ended : Option (Burst Handler) × Ending Handler) : Prop :=
  ∃ burst, ended.1 = some burst ∧ ∀ time trigger handler, ended.2 = .fired time trigger handler →
    time = burst.dueAt config ∧ trigger = burst.trigger config canvasId ∧ handler = burst.handler

/-- The timers of a canvas. -/
def Clock.timersOf (clock : Clock Handler) (canvasId : String) : List (Timer Handler) :=
  clock.timers.filter fun timer => timer.trigger.canvasId == canvasId

/-- What is promised of a canvas: its bursts end as they should; the one that goes on has the only
timer, which is not overdue and is fired when it is due; and without one there is no timer. -/
structure Debounced (config : Config) (canvasId : String) (coordinator : Coordinator Handler) :
    Prop where
  ended : ∀ ended ∈ (burstsOf canvasId coordinator.log).ended, EndsRight config canvasId ended
  current : ∀ burst, (burstsOf canvasId coordinator.log).current = some burst →
    coordinator.clock.now ≤ burst.dueAt config ∧
      (coordinator.clock.timersOf canvasId).length = 1 ∧
      coordinator.getPending canvasId =
        some (burst.revision, burst.firstEditAt, burst.dueAt config) ∧
      (coordinator.clock.now = burst.dueAt config →
        (coordinatorStep config coordinator (.fire canvasId)).isSome = true)
  idle : (burstsOf canvasId coordinator.log).current = none →
    coordinator.clock.timersOf canvasId = [] ∧ coordinator.getPending canvasId = none

variable {config : Config} {canvasId other : String} {coordinator target : Coordinator Handler}
  {clock : Clock Handler} {burst : Burst Handler} {happening : Happening Handler}

theorem burstsOf_note :
    burstsOf canvasId (coordinator.note other happening).log =
      (burstsOf canvasId coordinator.log).next canvasId
        ⟨coordinator.clock.now, other, happening⟩ := by
  rw [burstsOf, Coordinator.note, List.foldl_append]
  rfl

theorem burstsOf_note_of_ne (ne : other ≠ canvasId) :
    burstsOf canvasId (coordinator.note other happening).log =
      burstsOf canvasId coordinator.log := by
  rw [burstsOf_note]
  exact if_neg ne

theorem burstsOf_note_same :
    burstsOf canvasId (coordinator.note canvasId happening).log =
      match happening with
      | .edited revision handler =>
          (burstsOf canvasId coordinator.log).edit coordinator.clock.now revision handler
      | .cancelled => (burstsOf canvasId coordinator.log).stop .cancelled
      | .triggered _ _ => (burstsOf canvasId coordinator.log).stop .replaced
      | .invoked trigger handler =>
          ⟨(burstsOf canvasId coordinator.log).ended ++
            [((burstsOf canvasId coordinator.log).current,
              .fired coordinator.clock.now trigger handler)], none⟩ := by
  rw [burstsOf_note]
  exact if_pos rfl

theorem calls_stop (bursts : Bursts Handler) {ending : Ending Handler}
    (noCall : ending.call? = none) :
    (bursts.stop ending).ended.filterMap (fun ended => ended.2.call?) =
      bursts.ended.filterMap fun ended => ended.2.call? := by
  rw [Bursts.stop]
  split
  · rfl
  · simp [List.filterMap_append, noCall]

/-- The calls of handlers for a canvas are the endings of its bursts that are calls. -/
theorem calls_eq (log : List (Event Handler)) :
    (burstsOf canvasId log).ended.filterMap (fun ended => ended.2.call?) =
      log.filterMap (Event.call? canvasId) := by
  have next (bursts : Bursts Handler) (event : Event Handler) :
      (bursts.next canvasId event).ended.filterMap (fun ended => ended.2.call?) =
        bursts.ended.filterMap (fun ended => ended.2.call?) ++ (event.call? canvasId).toList := by
    rw [Bursts.next, Event.call?]
    by_cases own : event.canvasId = canvasId
    · rw [if_pos own, if_pos own]
      cases event.happening with
      | edited revision handler => exact (List.append_nil _).symm
      | cancelled => exact (calls_stop bursts rfl).trans (List.append_nil _).symm
      | triggered trigger handler => exact (calls_stop bursts rfl).trans (List.append_nil _).symm
      | invoked trigger handler => simp [List.filterMap_append, Ending.call?]
    · rw [if_neg own, if_neg own]
      exact (List.append_nil _).symm
  have run (bursts : Bursts Handler) :
      (log.foldl (Bursts.next canvasId) bursts).ended.filterMap (fun ended => ended.2.call?) =
        bursts.ended.filterMap (fun ended => ended.2.call?) ++
          log.filterMap (Event.call? canvasId) := by
    induction log generalizing bursts with
    | nil => exact (List.append_nil _).symm
    | cons event rest ih =>
        rw [List.foldl_cons, ih, next, List.append_assoc, List.filterMap_cons]
        cases event.call? canvasId <;> rfl
  exact run ⟨[], none⟩

/-! ## Timers -/

theorem timersOf_setTimeout {trigger : CanvasAiPreviewTrigger} {handler : Handler} {delayMs : Nat} :
    (clock.setTimeout trigger handler delayMs).timersOf canvasId =
      clock.timersOf canvasId ++ if trigger.canvasId = canvasId then
        [⟨clock.sequence + 1, clock.now + delayMs, trigger, handler⟩] else [] := by
  rw [Clock.timersOf, Clock.setTimeout, List.filter_append]
  by_cases same : trigger.canvasId = canvasId
  · simp [Clock.timersOf, same]
  · simp [Clock.timersOf, same]

/-- Handles tell timers apart, and new ones are larger. -/
structure Clock.Sound (clock : Clock Handler) : Prop where
  handles : (clock.timers.map Timer.handle).Nodup
  bounded : ∀ timer ∈ clock.timers, timer.handle ≤ clock.sequence

theorem Clock.Sound.setTimeout (sound : clock.Sound) {trigger : CanvasAiPreviewTrigger}
    {handler : Handler} {delayMs : Nat} : (clock.setTimeout trigger handler delayMs).Sound where
  handles := by
    rw [Clock.setTimeout, List.map_append]
    refine List.Nodup.append sound.handles (List.nodup_singleton _) ?_
    refine List.disjoint_singleton.mpr fun mem => ?_
    obtain ⟨timer, timerMem, handleEq⟩ := List.mem_map.mp mem
    have bound := sound.bounded timer timerMem
    rw [handleEq] at bound
    exact Nat.not_succ_le_self _ bound
  bounded := by
    intro timer timerMem
    rcases List.mem_append.mp timerMem with old | new
    · exact Nat.le_succ_of_le (sound.bounded timer old)
    · rw [List.mem_singleton.mp new]
      exact Nat.le_refl _

theorem Clock.Sound.clearTimeout (sound : clock.Sound) (handle : Nat) :
    (clock.clearTimeout handle).Sound where
  handles := sound.handles.sublist (List.filter_sublist.map _)
  bounded := fun timer timerMem => sound.bounded timer (List.mem_of_mem_filter timerMem)

/-- A canvas whose only timer is cleared has no timer left. -/
theorem timersOf_clearTimeout_same {timer : Timer Handler}
    (only : clock.timersOf canvasId = [timer]) :
    (clock.clearTimeout timer.handle).timersOf canvasId = [] := by
  rw [Clock.timersOf, Clock.clearTimeout, List.filter_filter]
  have swapped :
      (clock.timersOf canvasId).filter (fun other => other.handle != timer.handle) = [] := by
    rw [only]
    simp
  rw [Clock.timersOf, List.filter_filter] at swapped
  rw [← swapped]
  congr 1
  funext other
  exact Bool.and_comm _ _

/-- The other canvases keep their timers. -/
theorem Clock.Sound.timersOf_clearTimeout_of_ne (sound : clock.Sound) {timer : Timer Handler}
    (only : clock.timersOf canvasId = [timer]) (ne : other ≠ canvasId) :
    (clock.clearTimeout timer.handle).timersOf other = clock.timersOf other := by
  have timerMem : timer ∈ clock.timersOf canvasId := only ▸ List.mem_singleton_self _
  obtain ⟨inClock, own⟩ := List.mem_filter.mp timerMem
  rw [Clock.timersOf, Clock.clearTimeout, List.filter_filter]
  refine List.filter_congr fun timer' timerMem' => ?_
  by_cases same : timer'.handle = timer.handle
  · have sameTimer := List.inj_on_of_nodup_map sound.handles timerMem' inClock same
    rw [sameTimer]
    have apart : ¬ timer.trigger.canvasId = other := by
      rw [eq_of_beq own]
      exact ne.symm
    simp [apart]
  · simp [same]

end Manbaa.Canvases.PreviewCoordinator
