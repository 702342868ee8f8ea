import Manbaa.Canvases.PreviewSteps

/-!
# One canvas beside others

A coordinator that is called for many canvases does for each of them what it would do were it
called for that one alone.  With what every step keeps, this says when which handler is called.
-/

namespace Manbaa.Canvases.PreviewCoordinator

open Manbaa.Lib

variable {Handler : Type} {config : Config} {canvasId : String}
  {coordinator target : Coordinator Handler} {happening : Happening Handler}

/-- An action that is about a canvas, or lets time pass. -/
def Action.concerns (canvasId : String) : Action Handler → Bool
  | .scheduleEdit other _ _ => other == canvasId
  | .triggerExplicit other _ _ => other == canvasId
  | .cancel other => other == canvasId
  | .elapse _ => true
  | .fire other => other == canvasId

/-- What a coordinator that is only called for one canvas has in common with one that is called
for others too. -/
structure Alone (canvasId : String) (coordinator alone : Coordinator Handler) : Prop where
  now : alone.clock.now = coordinator.clock.now
  log : alone.log = coordinator.log.filter fun event => event.canvasId == canvasId
  timers : ∀ timer ∈ alone.clock.timers, timer.trigger.canvasId = canvasId

/-- The bursts of a canvas are told by what has happened on it. -/
theorem burstsOf_filter (log : List (Event Handler)) :
    burstsOf canvasId (log.filter fun event => event.canvasId == canvasId) =
      burstsOf canvasId log := by
  rw [burstsOf, burstsOf]
  generalize (⟨[], none⟩ : Bursts Handler) = bursts
  induction log generalizing bursts with
  | nil => rfl
  | cons event rest ih =>
      by_cases own : event.canvasId = canvasId
      · rw [List.filter_cons, if_pos (beq_iff_eq.mpr own), List.foldl_cons, List.foldl_cons, ih]
      · have skipped : bursts.next canvasId event = bursts := if_neg own
        rw [List.filter_cons, if_neg (by simpa using own), List.foldl_cons, skipped, ih]

variable {alone reached : Coordinator Handler} {action : Action Handler}

theorem mem_clockWithout {timer : Timer Handler}
    (mem : timer ∈ (coordinator.clockWithout canvasId).timers) :
    timer ∈ coordinator.clock.timers := by
  rw [Coordinator.clockWithout] at mem
  cases entry : coordinator.pending canvasId with
  | none =>
      rw [entry] at mem
      exact mem
  | some existing =>
      rw [entry] at mem
      exact List.mem_of_mem_filter mem

/-- What happens on the canvas happens to both. -/
theorem Alone.note (together : Alone canvasId coordinator alone)
    {first second : Coordinator Handler} (firstNow : first.clock.now = coordinator.clock.now)
    (secondNow : second.clock.now = alone.clock.now)
    (firstLog : first.log = coordinator.log) (secondLog : second.log = alone.log)
    (timers : ∀ timer ∈ second.clock.timers, timer.trigger.canvasId = canvasId) :
    Alone canvasId (first.note canvasId happening) (second.note canvasId happening) where
  now := secondNow.trans (together.now.trans firstNow.symm)
  log := by
    rw [Coordinator.note, Coordinator.note, firstLog, secondLog, firstNow, secondNow, together.now,
      together.log, List.filter_append, List.filter_singleton, beq_self_eq_true]
    rfl
  timers := timers

/-- Both have the same burst. -/
theorem Alone.bursts (together : Alone canvasId coordinator alone) :
    burstsOf canvasId alone.log = burstsOf canvasId coordinator.log := by
  rw [together.log, burstsOf_filter]

/-- A timer of the one is a timer of the other, and due at the same time. -/
theorem Alone.timer (together : Alone canvasId coordinator alone) (sound : Sound config coordinator)
    (soundAlone : Sound config alone) {timer : Timer Handler}
    (timerMem : timer ∈ alone.clock.timers) :
    ∃ same ∈ coordinator.clock.timers, same.dueAt = timer.dueAt := by
  have own : timer ∈ alone.clock.timersOf canvasId :=
    List.mem_filter.mpr ⟨timerMem, beq_iff_eq.mpr (together.timers timer timerMem)⟩
  have holdsAlone := soundAlone.holds canvasId
  rw [together.bursts] at holdsAlone
  generalize currentEq : (burstsOf canvasId coordinator.log).current = current at holdsAlone
  cases holdsAlone with
  | idle _ noTimer =>
      rw [noTimer] at own
      cases own
  | waiting burst handle _ only _ =>
      rw [only] at own
      obtain rfl := List.mem_singleton.mp own
      have holds := sound.holds canvasId
      rw [currentEq] at holds
      cases holds with
      | waiting _ sameHandle _ same _ =>
          have sameMem : (⟨sameHandle, burst.dueAt config, burst.trigger config canvasId,
              burst.handler⟩ : Timer Handler) ∈ coordinator.clock.timersOf canvasId :=
            same ▸ List.mem_singleton_self _
          exact ⟨_, List.mem_of_mem_filter sameMem, rfl⟩

/-- An action about the canvas is one for both. -/
theorem Alone.step (together : Alone canvasId coordinator alone) (sound : Sound config coordinator)
    (soundAlone : Sound config alone) (enabled : config.autoPreviewEnabled = true)
    (own : action.concerns canvasId = true)
    (stepEq : coordinatorStep config coordinator action = some target) :
    ∃ reached, coordinatorStep config alone action = some reached ∧
      Alone canvasId target reached := by
  cases action with
  | scheduleEdit other revision handler =>
      obtain rfl := eq_of_beq own
      cases stepEq
      refine ⟨_, rfl, ?_⟩
      have shape := congrArg Prod.snd (scheduleEdit_eq enabled (sound.holds other) revision handler)
      have shapeAlone :=
        congrArg Prod.snd (scheduleEdit_eq enabled (soundAlone.holds other) revision handler)
      rw [shape, shapeAlone]
      apply together.note
      · exact (sound.clockWithout other).2.1
      · exact (soundAlone.clockWithout other).2.1
      · rfl
      · rfl
      · intro timer timerMem
        rcases List.mem_append.mp timerMem with old | new
        · exact together.timers timer (mem_clockWithout old)
        · rw [List.mem_singleton.mp new]
          rfl
  | triggerExplicit other revision handler =>
      obtain rfl := eq_of_beq own
      cases stepEq
      refine ⟨_, rfl, ?_⟩
      rw [Coordinator.triggerExplicit, Coordinator.triggerExplicit, cancel_eq, cancel_eq]
      apply together.note
      · exact (sound.clockWithout other).2.1
      · exact (soundAlone.clockWithout other).2.1
      · rfl
      · rfl
      · exact fun timer timerMem => together.timers timer (mem_clockWithout timerMem)
  | cancel other =>
      obtain rfl := eq_of_beq own
      cases stepEq
      refine ⟨_, rfl, ?_⟩
      rw [cancel_eq, cancel_eq]
      apply together.note
      · exact (sound.clockWithout other).2.1
      · exact (soundAlone.clockWithout other).2.1
      · rfl
      · rfl
      · exact fun timer timerMem => together.timers timer (mem_clockWithout timerMem)
  | elapse milliseconds =>
      rw [coordinatorStep] at stepEq
      split at stepEq
      · rename_i allLater
        cases stepEq
        have aloneLater : (alone.clock.timers.all fun timer =>
            decide (alone.clock.now + milliseconds ≤ timer.dueAt)) = true := by
          refine List.all_eq_true.mpr fun timer timerMem => decide_eq_true ?_
          rw [together.now]
          obtain ⟨same, sameMem, sameDue⟩ := together.timer sound soundAlone timerMem
          rw [← sameDue]
          exact of_decide_eq_true (List.all_eq_true.mp allLater same sameMem)
        refine ⟨_, if_pos aloneLater, ?_, together.log, together.timers⟩
        exact congrArg (· + milliseconds) together.now
      · cases stepEq
  | fire other =>
      obtain rfl := eq_of_beq own
      obtain ⟨burst, timer, currentEq, isDue, only, shape⟩ := sound.fire_eq stepEq
      have aloneCurrent := (congrArg Bursts.current together.bursts).trans currentEq
      obtain ⟨reached, reachedEq⟩ := Option.isSome_iff_exists.mp
        (soundAlone.fires aloneCurrent (together.now.trans isDue))
      obtain ⟨sameBurst, aloneTimer, sameEq, _, _, aloneShape⟩ := soundAlone.fire_eq reachedEq
      obtain rfl := Option.some.inj (aloneCurrent.symm.trans sameEq)
      refine ⟨reached, reachedEq, ?_⟩
      rw [shape, aloneShape]
      apply together.note
      · rfl
      · rfl
      · rfl
      · rfl
      · exact fun timer timerMem => together.timers timer (List.mem_of_mem_filter timerMem)

/-- An action about other canvases leaves the canvas alone. -/
theorem Alone.skip (together : Alone canvasId coordinator alone) (sound : Sound config coordinator)
    (other : action.concerns canvasId = false)
    (stepEq : coordinatorStep config coordinator action = some target) :
    Alone canvasId target alone := by
  have noted {name : String} {happening : Happening Handler} (ne : name ≠ canvasId)
      {after : Coordinator Handler} (now : after.clock.now = coordinator.clock.now)
      (log : after.log = coordinator.log) : Alone canvasId (after.note name happening) alone := by
    refine ⟨together.now.trans now.symm, ?_, together.timers⟩
    rw [Coordinator.note, List.filter_append, log, together.log]
    simp [ne]
  cases action with
  | scheduleEdit name revision handler =>
      cases stepEq
      have ne : name ≠ canvasId := beq_eq_false_iff_ne.mp other
      apply noted ne
      · rw [Coordinator.scheduleEdit]
        split
        · rfl
        · exact (sound.clockWithout name).2.1
      · rw [Coordinator.scheduleEdit]
        split <;> rfl
  | triggerExplicit name revision handler =>
      cases stepEq
      have ne : name ≠ canvasId := beq_eq_false_iff_ne.mp other
      apply noted ne
      · rw [cancel_eq]
        exact (sound.clockWithout name).2.1
      · rw [cancel_eq]
  | cancel name =>
      cases stepEq
      have ne : name ≠ canvasId := beq_eq_false_iff_ne.mp other
      apply noted ne
      · rw [cancel_eq]
        exact (sound.clockWithout name).2.1
      · rw [cancel_eq]
  | elapse milliseconds => cases other
  | fire name =>
      have ne : name ≠ canvasId := beq_eq_false_iff_ne.mp other
      obtain ⟨burst, timer, _, _, _, shape⟩ := sound.fire_eq stepEq
      rw [shape]
      exact noted ne rfl rfl

/-- What happens on a canvas is what would happen had nobody called for another one. -/
theorem Alone.run (together : Alone canvasId coordinator alone) (sound : Sound config coordinator)
    (soundAlone : Sound config alone) (enabled : config.autoPreviewEnabled = true)
    {actions : List (Action Handler)}
    (runEq : (coordinatorStep config).run coordinator actions = some target) :
    ∃ reached, (coordinatorStep config).run alone
        (actions.filter fun action => action.concerns canvasId) = some reached ∧
      Sound config reached ∧ Alone canvasId target reached := by
  induction actions generalizing coordinator alone with
  | nil =>
      cases runEq
      exact ⟨alone, rfl, soundAlone, together⟩
  | cons action rest ih =>
      obtain ⟨next, stepEq, restEq⟩ := Step.run_cons_eq_some_iff.mp runEq
      cases own : action.concerns canvasId with
      | true =>
          obtain ⟨aloneNext, aloneEq, nextTogether⟩ :=
            together.step sound soundAlone enabled own stepEq
          obtain ⟨reached, reachedEq, rest⟩ :=
            ih nextTogether (sound.step enabled stepEq) (soundAlone.step enabled aloneEq) restEq
          refine ⟨reached, ?_, rest⟩
          rw [List.filter_cons, if_pos own]
          exact Step.run_cons_eq_some_iff.mpr ⟨aloneNext, aloneEq, reachedEq⟩
      | false =>
          obtain ⟨reached, reachedEq, rest⟩ :=
            ih (together.skip sound own stepEq) (sound.step enabled stepEq) soundAlone restEq
          refine ⟨reached, ?_, rest⟩
          rwa [List.filter_cons, if_neg (by simp [own])]

/-- A coordinator debounces the edits of every canvas: the handlers that it calls are those of the
bursts that are neither cancelled nor replaced, each when its burst is due.  What it does for a
canvas does not depend on the calls for others. -/
theorem edits_debounced (enabled : config.autoPreviewEnabled = true) {now : Nat}
    {actions : List (Action Handler)}
    (runEq : (coordinatorStep config).run (.start now) actions = some target) (canvasId : String) :
    Debounced config canvasId target ∧
      target.log.filterMap (Event.call? canvasId) =
        (burstsOf canvasId target.log).ended.filterMap (fun ended => ended.2.call?) ∧
      ∃ alone, (coordinatorStep config).run (.start now)
          (actions.filter fun action => action.concerns canvasId) = some alone ∧
        alone.clock.now = target.clock.now ∧
        alone.log = target.log.filter (fun event => event.canvasId == canvasId) ∧
        alone.getPending canvasId = target.getPending canvasId := by
  have sound := sound_of_run enabled runEq
  refine ⟨sound.debounced canvasId, (calls_eq _).symm, ?_⟩
  have together : Alone canvasId (.start now : Coordinator Handler) (.start now) :=
    ⟨rfl, rfl, fun _ mem => absurd mem List.not_mem_nil⟩
  obtain ⟨alone, aloneEq, soundAlone, together⟩ :=
    together.run (sound_start now) (sound_start now) enabled runEq
  refine ⟨alone, aloneEq, together.now, together.log, ?_⟩
  have debounced := sound.debounced canvasId
  have debouncedAlone := soundAlone.debounced canvasId
  cases currentEq : (burstsOf canvasId target.log).current with
  | none =>
      have aloneCurrent := (congrArg Bursts.current together.bursts).trans currentEq
      rw [(debounced.idle currentEq).2, (debouncedAlone.idle aloneCurrent).2]
  | some burst =>
      have aloneCurrent := (congrArg Bursts.current together.bursts).trans currentEq
      rw [(debounced.current burst currentEq).2.2.1,
        (debouncedAlone.current burst aloneCurrent).2.2.1]

/-! ## Examples -/

/-- A configuration. -/
def exampleConfig : Config := ⟨100, 250, true, by decide⟩

/-- Two edits of a canvas, with an edit of another one between them, and time that passes until
the handler of the second is called. -/
def exampleActions : List (Action Nat) :=
  [.scheduleEdit "first" 1 10, .elapse 60, .scheduleEdit "second" 7 70, .scheduleEdit "first" 2 20,
    .elapse 100, .fire "first", .elapse 0]

theorem edits_debounced_example : ∃ target,
    (coordinatorStep exampleConfig).run (.start 0) exampleActions = some target ∧
      target.log.filterMap (Event.call? "first") = [(160, ⟨"first", 2, .debounce⟩, 20)] ∧
      Debounced exampleConfig "first" target ∧ Debounced exampleConfig "second" target := by
  have ran : ((coordinatorStep exampleConfig).run (.start 0) exampleActions).map
      (fun target => target.log.filterMap (Event.call? "first")) =
      some [(160, ⟨"first", 2, .debounce⟩, 20)] := by
    decide +kernel
  obtain ⟨target, runEq, callsEq⟩ := Option.map_eq_some_iff.mp ran
  exact ⟨target, runEq, callsEq, (edits_debounced rfl runEq "first").1,
    (edits_debounced rfl runEq "second").1⟩

end Manbaa.Canvases.PreviewCoordinator
