import Manbaa.Canvases.PreviewBursts

/-!
# Steps of the coordinator

The coordinator holds an entry and one timer for every canvas with a burst that goes on, and
nothing for the others.  Every step keeps that, and ends a burst only as it should end.
-/

namespace Manbaa.Canvases.PreviewCoordinator

open Manbaa.Lib

variable {Handler : Type} {config : Config} {canvasId other : String}
  {coordinator target : Coordinator Handler} {burst : Burst Handler}
  {happening : Happening Handler}

/-! ## The invariant -/

/-- What the coordinator holds for a canvas: nothing, or the entry and the timer of the burst that
goes on. -/
inductive Holds (config : Config) (canvasId : String) (coordinator : Coordinator Handler) :
    Option (Burst Handler) → Prop where
  | idle (noEntry : coordinator.pending canvasId = none)
      (noTimer : coordinator.clock.timersOf canvasId = []) :
      Holds config canvasId coordinator none
  | waiting (burst : Burst Handler) (handle : Nat)
      (entry : coordinator.pending canvasId =
        some ⟨handle, burst.firstEditAt, burst.dueAt config, burst.revision, burst.handler⟩)
      (timer : coordinator.clock.timersOf canvasId =
        [⟨handle, burst.dueAt config, burst.trigger config canvasId, burst.handler⟩])
      (early : coordinator.clock.now ≤ burst.dueAt config) :
      Holds config canvasId coordinator (some burst)

/-- The coordinator holds what the bursts say, and those that have ended have done so as they
should. -/
structure Sound (config : Config) (coordinator : Coordinator Handler) : Prop where
  clock : coordinator.clock.Sound
  holds : ∀ canvasId,
    Holds config canvasId coordinator (burstsOf canvasId coordinator.log).current
  ended : ∀ canvasId, ∀ ended ∈ (burstsOf canvasId coordinator.log).ended,
    EndsRight config canvasId ended

/-- What a canvas holds is told by its entry, its timers and the time. -/
theorem Holds.congr {current : Option (Burst Handler)}
    (holds : Holds config canvasId coordinator current)
    (pending : target.pending canvasId = coordinator.pending canvasId)
    (timers : target.clock.timersOf canvasId = coordinator.clock.timersOf canvasId)
    (now : target.clock.now = coordinator.clock.now) : Holds config canvasId target current := by
  cases holds with
  | idle noEntry noTimer => exact .idle (pending.trans noEntry) (timers.trans noTimer)
  | waiting burst handle entry timer early =>
      exact .waiting burst handle (pending.trans entry) (timers.trans timer) (now ▸ early)

/-- The clock without the timer of a canvas. -/
def Coordinator.clockWithout (coordinator : Coordinator Handler) (canvasId : String) :
    Clock Handler :=
  (coordinator.pending canvasId).elim coordinator.clock fun existing =>
    coordinator.clock.clearTimeout existing.timer

/-- Clearing the timer of the entry of a canvas leaves the canvas without a timer, and the others
with theirs. -/
theorem Sound.clockWithout (sound : Sound config coordinator) (canvasId : String) :
    (coordinator.clockWithout canvasId).Sound ∧
      (coordinator.clockWithout canvasId).now = coordinator.clock.now ∧
      (coordinator.clockWithout canvasId).timersOf canvasId = [] ∧
      ∀ other, other ≠ canvasId → (coordinator.clockWithout canvasId).timersOf other =
        coordinator.clock.timersOf other := by
  rw [Coordinator.clockWithout]
  generalize currentEq : (burstsOf canvasId coordinator.log).current = current
  cases currentEq ▸ sound.holds canvasId with
  | idle noEntry noTimer =>
      rw [noEntry]
      exact ⟨sound.clock, rfl, noTimer, fun _ _ => rfl⟩
  | waiting burst handle entry timer early =>
      rw [entry]
      exact ⟨sound.clock.clearTimeout handle, rfl, timersOf_clearTimeout_same timer,
        fun other ne => sound.clock.timersOf_clearTimeout_of_ne timer ne⟩

theorem cancel_eq : (coordinator.cancel canvasId).2 =
    { coordinator with
      pending := Function.update coordinator.pending canvasId none
      clock := coordinator.clockWithout canvasId } := by
  rw [Coordinator.cancel, Coordinator.clockWithout]
  cases entry : coordinator.pending canvasId with
  | none =>
      have same : Function.update coordinator.pending canvasId none = coordinator.pending := by
        rw [← entry, Function.update_eq_self]
      rw [same]
      rfl
  | some existing => rfl

/-! ## Steps -/

/-- What happens on a canvas keeps the invariant if it does so for the canvas and leaves the
others alone. -/
theorem Sound.note (sound : Sound config coordinator) {after : Coordinator Handler}
    (log : after.log = coordinator.log) (clockSound : after.clock.Sound)
    (now : after.clock.now = coordinator.clock.now)
    (others : ∀ other, other ≠ canvasId → after.pending other = coordinator.pending other ∧
      after.clock.timersOf other = coordinator.clock.timersOf other)
    (holds : Holds config canvasId after
      (burstsOf canvasId (after.note canvasId happening).log).current)
    (ended : ∀ ended ∈ (burstsOf canvasId (after.note canvasId happening).log).ended,
      EndsRight config canvasId ended) :
    Sound config (after.note canvasId happening) where
  clock := clockSound
  holds := by
    intro other
    by_cases same : other = canvasId
    · subst same
      exact holds.congr rfl rfl rfl
    · rw [burstsOf_note_of_ne (Ne.symm same), log]
      exact (sound.holds other).congr (others other same).1 (others other same).2 now
  ended := by
    intro other
    by_cases same : other = canvasId
    · subst same
      exact ended
    · rw [burstsOf_note_of_ne (Ne.symm same), log]
      exact sound.ended other

theorem stop_current (bursts : Bursts Handler) (ending : Ending Handler) :
    (bursts.stop ending).current = none := by
  rw [Bursts.stop]
  split
  · assumption
  · rfl

/-- A burst that is stopped is not fired. -/
theorem stop_ended {bursts : Bursts Handler} {ending : Ending Handler}
    (right : ∀ ended ∈ bursts.ended, EndsRight config canvasId ended)
    (notFired : ∀ time trigger handler, ending ≠ .fired time trigger handler) :
    ∀ ended ∈ (bursts.stop ending).ended, EndsRight config canvasId ended := by
  intro ended endedMem
  rw [Bursts.stop] at endedMem
  split at endedMem
  · exact right ended endedMem
  · rename_i burst _
    rcases List.mem_append.mp endedMem with old | new
    · exact right ended old
    · rw [List.mem_singleton.mp new]
      exact ⟨burst, rfl, fun time trigger handler fired =>
        absurd fired (notFired time trigger handler)⟩

/-- A cancellation or an explicit trigger ends the burst of its canvas. -/
theorem Sound.cancel (sound : Sound config coordinator)
    (stops : happening = .cancelled ∨ ∃ trigger handler, happening = .triggered trigger handler) :
    Sound config ((coordinator.cancel canvasId).2.note canvasId happening) := by
  obtain ⟨clockSound, now, noTimer, others⟩ := sound.clockWithout canvasId
  have stopped : ∃ ending : Ending Handler, (∀ time trigger handler,
      ending ≠ .fired time trigger handler) ∧
      burstsOf canvasId ((coordinator.cancel canvasId).2.note canvasId happening).log =
        (burstsOf canvasId coordinator.log).stop ending := by
    rw [burstsOf_note_same, cancel_eq]
    rcases stops with rfl | ⟨trigger, handler, rfl⟩
    · exact ⟨.cancelled, fun _ _ _ => by simp, rfl⟩
    · exact ⟨.replaced, fun _ _ _ => by simp, rfl⟩
  obtain ⟨ending, notFired, burstsEq⟩ := stopped
  apply sound.note
  · rw [cancel_eq]
  · rw [cancel_eq]
    exact clockSound
  · rw [cancel_eq]
    exact now
  · intro other ne
    rw [cancel_eq]
    exact ⟨Function.update_of_ne ne _ _, others other ne⟩
  · rw [burstsEq, stop_current, cancel_eq]
    exact .idle (Function.update_self _ _ _) noTimer
  · rw [burstsEq]
    exact stop_ended (sound.ended canvasId) notFired

/-- The burst that an edit begins or goes on with. -/
def Burst.after (current : Option (Burst Handler)) (time revision : Nat) (handler : Handler) :
    Burst Handler :=
  ⟨current.elim time Burst.firstEditAt, time, revision, handler⟩

/-- An entry remembers the first edit of its burst. -/
theorem Holds.firstEditAt {current : Option (Burst Handler)}
    (holds : Holds config canvasId coordinator current) :
    (coordinator.pending canvasId).elim coordinator.clock.now PendingPreview.firstEditAt =
      current.elim coordinator.clock.now Burst.firstEditAt := by
  cases holds with
  | idle noEntry _ =>
      rw [noEntry]
      rfl
  | waiting burst handle entry _ _ =>
      rw [entry]
      rfl

/-- A burst that an edit goes on with is not overdue. -/
theorem Holds.now_le_dueAt {current : Option (Burst Handler)}
    (holds : Holds config canvasId coordinator current) (revision : Nat) (handler : Handler) :
    coordinator.clock.now ≤
      (Burst.after current coordinator.clock.now revision handler).dueAt config := by
  refine Nat.le_min.mpr ⟨Nat.le_add_right _ _, ?_⟩
  cases holds with
  | idle _ _ => exact Nat.le_add_right _ _
  | waiting burst handle _ _ early => exact Nat.le_trans early (Nat.min_le_right _ _)

/-- What an edit sets for its burst. -/
theorem scheduleEdit_eq (enabled : config.autoPreviewEnabled = true)
    {current : Option (Burst Handler)} (holds : Holds config canvasId coordinator current)
    (revision : Nat) (handler : Handler) :
    let burst := Burst.after current coordinator.clock.now revision handler
    coordinator.scheduleEdit config canvasId revision handler =
      (⟨true, some (burst.dueAt config)⟩,
        { coordinator with
          pending := Function.update coordinator.pending canvasId
            (some ⟨(coordinator.clockWithout canvasId).sequence + 1, burst.firstEditAt,
              burst.dueAt config, revision, handler⟩)
          clock := (coordinator.clockWithout canvasId).setTimeout (burst.trigger config canvasId)
            handler (burst.dueAt config - coordinator.clock.now) }) := by
  intro burst
  have first :
      (coordinator.pending canvasId).elim coordinator.clock.now PendingPreview.firstEditAt =
        burst.firstEditAt := holds.firstEditAt
  simp only [Coordinator.scheduleEdit, enabled, Bool.not_true, Bool.false_eq_true, ↓reduceIte,
    first]
  rfl

/-- An edit keeps the invariant. -/
theorem Sound.scheduleEdit (sound : Sound config coordinator)
    (enabled : config.autoPreviewEnabled = true) (revision : Nat) (handler : Handler) :
    Sound config ((coordinator.scheduleEdit config canvasId revision handler).2.note canvasId
      (.edited revision handler)) := by
  obtain ⟨clockSound, now, noTimer, others⟩ := sound.clockWithout canvasId
  have holds := sound.holds canvasId
  have early := holds.now_le_dueAt revision handler
  have shape := congrArg Prod.snd (scheduleEdit_eq enabled holds revision handler)
  have burstsEq : burstsOf canvasId ((coordinator.scheduleEdit config canvasId revision
      handler).2.note canvasId (.edited revision handler)).log =
      (burstsOf canvasId coordinator.log).edit coordinator.clock.now revision handler := by
    rw [burstsOf_note_same, shape]
    exact congrArg (fun time => Bursts.edit time revision handler _) now
  apply sound.note
  · rw [shape]
  · rw [shape]
    exact clockSound.setTimeout
  · rw [shape]
    exact now
  · intro other ne
    rw [shape]
    refine ⟨Function.update_of_ne ne _ _, ?_⟩
    rw [timersOf_setTimeout, Burst.trigger_canvasId, if_neg (Ne.symm ne), List.append_nil]
    exact others other ne
  · rw [burstsEq, shape]
    refine .waiting (Burst.after _ coordinator.clock.now revision handler) _
      (Function.update_self _ _ _) ?_ (Nat.le_trans (Nat.le_of_eq now) early)
    rw [timersOf_setTimeout, noTimer, Burst.trigger_canvasId, if_pos rfl, List.nil_append, now,
      Nat.add_sub_cancel' early]
    rfl
  · rw [burstsEq]
    exact sound.ended canvasId

/-- A timer that is due is that of the burst of its canvas, and the burst is due. -/
theorem Sound.due (sound : Sound config coordinator) {timer : Timer Handler}
    (dueEq : coordinator.due? canvasId = some timer) :
    ∃ burst, (burstsOf canvasId coordinator.log).current = some burst ∧
      coordinator.clock.now = burst.dueAt config ∧
      timer.trigger = burst.trigger config canvasId ∧ timer.handler = burst.handler ∧
      coordinator.clock.timersOf canvasId = [timer] ∧
      (coordinator.pending canvasId).map PendingPreview.timer = some timer.handle := by
  have meets := List.find?_some dueEq
  obtain ⟨own, isDue⟩ := Bool.and_eq_true_iff.mp meets
  have timerMem : timer ∈ coordinator.clock.timersOf canvasId :=
    List.mem_filter.mpr ⟨List.mem_of_find?_eq_some dueEq, own⟩
  generalize currentEq : (burstsOf canvasId coordinator.log).current = current
  cases currentEq ▸ sound.holds canvasId with
  | idle _ noTimer =>
      rw [noTimer] at timerMem
      cases timerMem
  | waiting burst handle entry only early =>
      rw [only] at timerMem
      obtain rfl := List.mem_singleton.mp timerMem
      refine ⟨burst, rfl, Nat.le_antisymm early (of_decide_eq_true isDue), rfl, rfl, only, ?_⟩
      rw [entry]
      rfl

/-- The timer of a burst that is due can be fired. -/
theorem Sound.fires (sound : Sound config coordinator)
    (currentEq : (burstsOf canvasId coordinator.log).current = some burst)
    (isDue : coordinator.clock.now = burst.dueAt config) :
    (coordinatorStep config coordinator (.fire canvasId)).isSome = true := by
  have holds := sound.holds canvasId
  rw [currentEq] at holds
  cases holds with
  | waiting _ handle entry only early =>
      have timerMem : (⟨handle, burst.dueAt config, burst.trigger config canvasId,
          burst.handler⟩ : Timer Handler) ∈ coordinator.clock.timersOf canvasId :=
        only ▸ List.mem_singleton_self _
      obtain ⟨inClock, own⟩ := List.mem_filter.mp timerMem
      rw [coordinatorStep, Option.isSome_map]
      refine List.find?_isSome.mpr ⟨_, inClock, ?_⟩
      rw [Bool.and_eq_true, decide_eq_true_eq]
      exact ⟨own, Nat.le_of_eq isDue.symm⟩

/-- What firing a timer does. -/
theorem Sound.fire_eq (sound : Sound config coordinator)
    (stepEq : coordinatorStep config coordinator (.fire canvasId) = some target) :
    ∃ burst timer, (burstsOf canvasId coordinator.log).current = some burst ∧
      coordinator.clock.now = burst.dueAt config ∧
      coordinator.clock.timersOf canvasId = [timer] ∧
      target = ({ coordinator with
        clock := coordinator.clock.clearTimeout timer.handle
        pending := Function.update coordinator.pending canvasId none } : Coordinator Handler).note
          canvasId (.invoked (burst.trigger config canvasId) burst.handler) := by
  obtain ⟨timer, dueEq, targetEq⟩ := Option.map_eq_some_iff.mp stepEq
  obtain ⟨burst, currentEq, isDue, triggerEq, handlerEq, only, entryEq⟩ := sound.due dueEq
  have canvasEq : timer.trigger.canvasId = canvasId := by
    rw [triggerEq, Burst.trigger_canvasId]
  refine ⟨burst, timer, currentEq, isDue, only, ?_⟩
  rw [← targetEq, ← triggerEq, ← handlerEq, Coordinator.fire, canvasEq]
  exact if_neg (not_not.mpr entryEq)

/-- A timer that is fired ends the burst of its canvas when it is due. -/
theorem Sound.fire (sound : Sound config coordinator)
    (stepEq : coordinatorStep config coordinator (.fire canvasId) = some target) :
    Sound config target := by
  obtain ⟨burst, timer, currentEq, isDue, only, shape⟩ := sound.fire_eq stepEq
  have burstsEq := congrArg (fun target => burstsOf canvasId target.log) shape
  rw [burstsOf_note_same] at burstsEq
  rw [shape] at burstsEq ⊢
  apply sound.note
  · rfl
  · exact sound.clock.clearTimeout timer.handle
  · rfl
  · intro other ne
    exact ⟨Function.update_of_ne ne _ _, sound.clock.timersOf_clearTimeout_of_ne only ne⟩
  · rw [burstsEq]
    exact .idle (Function.update_self _ _ _) (timersOf_clearTimeout_same only)
  · rw [burstsEq]
    intro ended endedMem
    rcases List.mem_append.mp endedMem with old | new
    · exact sound.ended canvasId ended old
    · rw [List.mem_singleton.mp new]
      refine ⟨burst, currentEq, ?_⟩
      intro time trigger handler fired
      cases fired
      exact ⟨isDue, rfl, rfl⟩

/-- Time passes only until the next timer is due. -/
theorem Sound.elapse (sound : Sound config coordinator) {milliseconds : Nat}
    (stepEq : coordinatorStep config coordinator (.elapse milliseconds) = some target) :
    Sound config target := by
  rw [coordinatorStep] at stepEq
  split at stepEq
  · rename_i allLater
    cases stepEq
    refine ⟨⟨sound.clock.handles, sound.clock.bounded⟩, ?_, sound.ended⟩
    intro canvasId
    change Holds config canvasId _ (burstsOf canvasId coordinator.log).current
    generalize currentEq : (burstsOf canvasId coordinator.log).current = current
    cases currentEq ▸ sound.holds canvasId with
    | idle noEntry noTimer => exact .idle noEntry noTimer
    | waiting burst handle entry only early =>
        have timerMem : (⟨handle, burst.dueAt config, burst.trigger config canvasId,
            burst.handler⟩ : Timer Handler) ∈ coordinator.clock.timersOf canvasId :=
          only ▸ List.mem_singleton_self _
        have later := List.all_eq_true.mp allLater _ (List.mem_of_mem_filter timerMem)
        exact .waiting burst handle entry only (of_decide_eq_true later)
  · cases stepEq

/-- Every step keeps the invariant. -/
theorem Sound.step (sound : Sound config coordinator) (enabled : config.autoPreviewEnabled = true)
    {action : Action Handler} (stepEq : coordinatorStep config coordinator action = some target) :
    Sound config target := by
  cases action with
  | scheduleEdit canvasId revision handler =>
      cases stepEq
      exact sound.scheduleEdit enabled revision handler
  | triggerExplicit canvasId revision handler =>
      cases stepEq
      exact sound.cancel (Or.inr ⟨_, _, rfl⟩)
  | cancel canvasId =>
      cases stepEq
      exact sound.cancel (Or.inl rfl)
  | elapse milliseconds => exact sound.elapse stepEq
  | fire canvasId => exact sound.fire stepEq

theorem sound_start (now : Nat) : Sound config (Coordinator.start now : Coordinator Handler) where
  clock := ⟨List.nodup_nil, fun _ mem => absurd mem List.not_mem_nil⟩
  holds := fun _ => .idle rfl rfl
  ended := fun _ _ mem => absurd mem List.not_mem_nil

/-- The invariant holds after every run. -/
theorem sound_of_run (enabled : config.autoPreviewEnabled = true) {now : Nat}
    {actions : List (Action Handler)}
    (runEq : (coordinatorStep config).run (.start now) actions = some target) :
    Sound config target :=
  Step.invariant_of_run (fun _ _ _ sound stepEq => Sound.step sound enabled stepEq)
    (sound_start now) runEq

/-- What the invariant promises of a canvas. -/
theorem Sound.debounced (sound : Sound config coordinator) (canvasId : String) :
    Debounced config canvasId coordinator where
  ended := sound.ended canvasId
  current := by
    intro burst currentEq
    have fires := sound.fires currentEq
    have holds := sound.holds canvasId
    rw [currentEq] at holds
    cases holds with
    | waiting _ handle entry only early =>
        refine ⟨early, congrArg List.length only, ?_, fires⟩
        rw [Coordinator.getPending, entry]
        rfl
  idle := by
    intro currentEq
    have holds := sound.holds canvasId
    rw [currentEq] at holds
    cases holds with
    | idle noEntry noTimer =>
        refine ⟨noTimer, ?_⟩
        rw [Coordinator.getPending, noEntry]
        rfl

end Manbaa.Canvases.PreviewCoordinator
