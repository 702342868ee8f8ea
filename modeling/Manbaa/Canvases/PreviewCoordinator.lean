import Manbaa.Lib.Run
import Mathlib.Data.List.Basic
import Mathlib.Logic.Function.Basic

/-!
# The coordinator of automatic previews

Edits of a canvas ask for a preview of it.  The coordinator waits until the edits have paused, or
until the first of them has waited long enough, and then calls the handler of the last one.  It
keeps one entry for a canvas and sets one timer for it, which every further edit clears and sets
again.

The clock stands where it is told to: time passes in steps that leave no timer behind that is
due, and a timer that is due is fired by a step of its own, in any order with the calls that come
at the same time.
-/

namespace Manbaa.Canvases.PreviewCoordinator

open Manbaa.Lib

variable {Handler : Type}

/-! ## Entries and timers -/

/-- The reason of a trigger. -/
inductive Reason where
  | debounce
  | maxDebounce
  | explicit
  deriving DecidableEq

/-- `CanvasAiPreviewTrigger`. -/
structure CanvasAiPreviewTrigger where
  canvasId : String
  revision : Nat
  reason : Reason
  deriving DecidableEq

/-- `PendingPreview`. -/
structure PendingPreview (Handler : Type) where
  timer : Nat
  firstEditAt : Nat
  dueAt : Nat
  revision : Nat
  handler : Handler
  deriving DecidableEq

/-- A timer that has not been cleared, with what its callback has in scope: the entry that it was
set for is the one that holds its handle. -/
structure Timer (Handler : Type) where
  handle : Nat
  dueAt : Nat
  trigger : CanvasAiPreviewTrigger
  handler : Handler
  deriving DecidableEq

/-- `CanvasAiPreviewClock`. -/
structure Clock (Handler : Type) where
  now : Nat
  sequence : Nat
  timers : List (Timer Handler)

/-- `setTimeout`: the handle is a new one. -/
def Clock.setTimeout (clock : Clock Handler) (trigger : CanvasAiPreviewTrigger) (handler : Handler)
    (delayMs : Nat) : Clock Handler where
  now := clock.now
  sequence := clock.sequence + 1
  timers := clock.timers ++ [⟨clock.sequence + 1, clock.now + delayMs, trigger, handler⟩]

/-- `clearTimeout`. -/
def Clock.clearTimeout (clock : Clock Handler) (handle : Nat) : Clock Handler :=
  { clock with timers := clock.timers.filter fun timer => timer.handle != handle }

/-! ## The coordinator -/

/-- The configuration that the constructor accepts. -/
structure Config where
  debounceMs : Nat
  maxDebounceMs : Nat
  autoPreviewEnabled : Bool
  ordered : debounceMs ≤ maxDebounceMs

/-- What happens on a canvas. -/
inductive Happening (Handler : Type) where
  | edited (revision : Nat) (handler : Handler)
  | cancelled
  | triggered (trigger : CanvasAiPreviewTrigger) (handler : Handler)
  | invoked (trigger : CanvasAiPreviewTrigger) (handler : Handler)
  deriving DecidableEq

/-- What has happened on a canvas, and when. -/
structure Event (Handler : Type) where
  time : Nat
  canvasId : String
  happening : Happening Handler
  deriving DecidableEq

/-- `CanvasAiPreviewCoordinator`: its entries, its clock, and what has happened so far. -/
structure Coordinator (Handler : Type) where
  pending : String → Option (PendingPreview Handler)
  clock : Clock Handler
  log : List (Event Handler)

/-- A coordinator without an entry, when the clock says what it says. -/
def Coordinator.start (now : Nat) : Coordinator Handler := ⟨fun _ => none, ⟨now, 0, []⟩, []⟩

/-- The coordinator after something that happens on a canvas. -/
def Coordinator.note (coordinator : Coordinator Handler) (canvasId : String)
    (happening : Happening Handler) : Coordinator Handler :=
  { coordinator with
    log := coordinator.log ++ [⟨coordinator.clock.now, canvasId, happening⟩] }

/-- What `scheduleEdit` returns. -/
structure Scheduled where
  scheduled : Bool
  dueAt : Option Nat
  deriving DecidableEq

/-- `scheduleEdit`. -/
def Coordinator.scheduleEdit (config : Config) (canvasId : String) (revision : Nat)
    (handler : Handler) (coordinator : Coordinator Handler) : Scheduled × Coordinator Handler :=
  if !config.autoPreviewEnabled then (⟨false, none⟩, coordinator)
  else
    let now := coordinator.clock.now
    let existing := coordinator.pending canvasId
    let clock := existing.elim coordinator.clock fun existing =>
      coordinator.clock.clearTimeout existing.timer
    let firstEditAt := existing.elim now PendingPreview.firstEditAt
    let maxDueAt := firstEditAt + config.maxDebounceMs
    let dueAt := min (now + config.debounceMs) maxDueAt
    let reason := if dueAt = maxDueAt then Reason.maxDebounce else Reason.debounce
    let clock := clock.setTimeout ⟨canvasId, revision, reason⟩ handler (dueAt - now)
    (⟨true, some dueAt⟩,
      { coordinator with
        pending := Function.update coordinator.pending canvasId
          (some ⟨clock.sequence, firstEditAt, dueAt, revision, handler⟩)
        clock := clock })

/-- `cancel`. -/
def Coordinator.cancel (canvasId : String) (coordinator : Coordinator Handler) :
    Bool × Coordinator Handler :=
  match coordinator.pending canvasId with
  | none => (false, coordinator)
  | some existing =>
      (true,
        { coordinator with
          pending := Function.update coordinator.pending canvasId none
          clock := coordinator.clock.clearTimeout existing.timer })

/-- `triggerExplicit`. -/
def Coordinator.triggerExplicit (canvasId : String) (revision : Nat) (handler : Handler)
    (coordinator : Coordinator Handler) : Coordinator Handler :=
  (coordinator.cancel canvasId).2.note canvasId (.triggered ⟨canvasId, revision, .explicit⟩ handler)

/-- A timer runs its callback, unless the entry of its canvas is no longer the one that it was set
for. -/
def Coordinator.fire (timer : Timer Handler) (coordinator : Coordinator Handler) :
    Coordinator Handler :=
  let coordinator := { coordinator with clock := coordinator.clock.clearTimeout timer.handle }
  let canvasId := timer.trigger.canvasId
  if (coordinator.pending canvasId).map PendingPreview.timer ≠ some timer.handle then coordinator
  else
    { coordinator with pending := Function.update coordinator.pending canvasId none }.note canvasId
      (.invoked timer.trigger timer.handler)

/-- `getPending`. -/
def Coordinator.getPending (canvasId : String) (coordinator : Coordinator Handler) :
    Option (Nat × Nat × Nat) :=
  (coordinator.pending canvasId).map fun pending =>
    (pending.revision, pending.firstEditAt, pending.dueAt)

/-! ## Runs -/

/-- A call, some time that passes, or a timer of a canvas that is fired. -/
inductive Action (Handler : Type) where
  | scheduleEdit (canvasId : String) (revision : Nat) (handler : Handler)
  | triggerExplicit (canvasId : String) (revision : Nat) (handler : Handler)
  | cancel (canvasId : String)
  | elapse (milliseconds : Nat)
  | fire (canvasId : String)

/-- A timer of a canvas that is due. -/
def Coordinator.due? (coordinator : Coordinator Handler) (canvasId : String) :
    Option (Timer Handler) :=
  coordinator.clock.timers.find? fun timer =>
    timer.trigger.canvasId == canvasId && decide (timer.dueAt ≤ coordinator.clock.now)

/-- One step. -/
def coordinatorStep (config : Config) : Step (Coordinator Handler) (Action Handler)
  | coordinator, .scheduleEdit canvasId revision handler =>
      some ((coordinator.scheduleEdit config canvasId revision handler).2.note canvasId
        (.edited revision handler))
  | coordinator, .triggerExplicit canvasId revision handler =>
      some (coordinator.triggerExplicit canvasId revision handler)
  | coordinator, .cancel canvasId =>
      some ((coordinator.cancel canvasId).2.note canvasId .cancelled)
  | coordinator, .elapse milliseconds =>
      if coordinator.clock.timers.all fun timer =>
          decide (coordinator.clock.now + milliseconds ≤ timer.dueAt) then
        some { coordinator with
          clock := { coordinator.clock with now := coordinator.clock.now + milliseconds } }
      else none
  | coordinator, .fire canvasId =>
      (coordinator.due? canvasId).map fun timer => coordinator.fire timer

end Manbaa.Canvases.PreviewCoordinator
