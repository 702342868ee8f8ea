import Manbaa.Core.Http
import Manbaa.Lib.Sessions
import Manbaa.Lib.Table

/-!
# Shared workflows

A workflow is shared under a token, perhaps up to a time and for a number of views.  A call that
shows the workflow reads its row, looks at the time and the count it has read, and then counts one
more view in a statement of its own.

So calls beside each other can show a workflow more often than it was shared for, but not more than
once for each of them.
-/

namespace Manbaa.Workflows.Sharing

open Manbaa.Lib

/-! ## Rows and calls -/

/-- A row of `workflow`, as far as sharing reads it.  Times are milliseconds. -/
structure Workflow where
  id : Uuid
  title : String
  shareToken : Option String
  shareExpiresAt : Option Nat
  shareMaxViews : Option Int
  shareViewCount : Int
  deriving DecidableEq

/-- The workflows, and the time. -/
structure ShareDb where
  workflows : List Workflow
  now : Nat
  deriving DecidableEq

/-- How long a workflow is shared. -/
inductive ExpiresIn where
  | oneDay
  | sevenDays
  | never
  deriving DecidableEq

/-- `ShareOptions`; `expiresIn` is `never` where it is left out. -/
structure ShareOptions where
  workflowId : Uuid
  expiresIn : ExpiresIn
  maxViews : Option Int
  deriving DecidableEq

/-- `ShareResult`. -/
structure ShareResult where
  token : String
  url : String
  expiresAt : Option Nat
  maxViews : Option Int
  deriving DecidableEq

/-- When what is shared at a time expires. -/
def ExpiresIn.expiresAt (now : Nat) : ExpiresIn → Option Nat
  | .oneDay => some (now + 24 * 60 * 60 * 1000)
  | .sevenDays => some (now + 7 * 24 * 60 * 60 * 1000)
  | .never => none

/-- Change the row of a workflow. -/
def ShareDb.update (db : ShareDb) (id : Uuid) (change : Workflow → Workflow) : ShareDb :=
  { db with
    workflows := db.workflows.map fun workflow =>
      if workflow.id = id then change workflow else workflow }

/-- A row that is shared; what is undefined is not written. -/
def Workflow.share (token : String) (expiresAt : Option Nat) (maxViews : Option Int)
    (workflow : Workflow) : Workflow :=
  { workflow with
    shareToken := some token
    shareExpiresAt := expiresAt.or workflow.shareExpiresAt
    shareMaxViews := maxViews.or workflow.shareMaxViews
    shareViewCount := 0 }

/-- A row with one more view. -/
def Workflow.viewed (workflow : Workflow) : Workflow :=
  { workflow with shareViewCount := workflow.shareViewCount + 1 }

/-- The time up to which the workflow is shared has passed. -/
def Workflow.expired (workflow : Workflow) (now : Nat) : Bool :=
  workflow.shareExpiresAt.any fun expiresAt => expiresAt < now

/-- The row has been viewed as often as it may; no limit, or zero, is none. -/
def Workflow.usedUp (workflow : Workflow) : Bool :=
  workflow.shareMaxViews.any fun maxViews => maxViews ≠ 0 && maxViews ≤ workflow.shareViewCount

/-- Time passes, or a method is called; the token of a share is made for it. -/
inductive ShareRequest where
  | wait (elapsed : Nat)
  | createShare (options : ShareOptions) (token : String)
  | getSharedWorkflow (token : String)
  deriving DecidableEq

/-- The next statement of a call, with what it has read, or what it has returned. -/
inductive ShareStage where
  | readTime (options : ShareOptions) (token : String)
  | share (options : ShareOptions) (token : String) (expiresAt : Option Nat)
  | shared (result : ShareResult)
  | findOne (token : String)
  | check (workflow : Workflow)
  | increment (workflow : Workflow)
  | returned (workflow : Option Workflow)
  deriving DecidableEq

/-- One statement of a call. -/
def ShareStage.advance (db : ShareDb) : ShareStage → Option (ShareDb × ShareStage)
  | .readTime options token => some (db, .share options token (options.expiresIn.expiresAt db.now))
  | .share options token expiresAt =>
      some (db.update options.workflowId (Workflow.share token expiresAt options.maxViews),
        .shared ⟨token, "/workflows/shared/" ++ token, expiresAt, options.maxViews⟩)
  | .findOne token =>
      match db.workflows.find? fun workflow => workflow.shareToken = some token with
      | some workflow => some (db, .check workflow)
      | none => some (db, .returned none)
  | .check workflow =>
      if workflow.expired db.now || workflow.usedUp then some (db, .returned none)
      else some (db, .increment workflow)
  | .increment workflow => some (db.update workflow.id Workflow.viewed, .returned (some workflow))
  | .shared _ | .returned _ => none

/-- The calls of the service. -/
def shareSystem : Sessions ShareDb ShareStage ShareRequest Unit where
  start
    | db, .wait elapsed => ({ db with now := db.now + elapsed }, none)
    | db, .createShare options token => (db, some (.readTime options token))
    | db, .getSharedWorkflow token => (db, some (.findOne token))
  advance db _ stage _ := stage.advance db

/-! ## Views -/

/-- The row of a workflow. -/
def ShareDb.workflow? (db : ShareDb) (id : Uuid) : Option Workflow :=
  Table.get? Workflow.id db.workflows id

/-- The call has not ended. -/
def ShareStage.isOpen : ShareStage → Bool
  | .shared _ | .returned _ => false
  | _ => true

/-- The call has shown the workflow. -/
def ShareStage.shows (id : Uuid) : ShareStage → Bool
  | .returned (some workflow) => workflow.id = id
  | _ => false

/-- The call will not find the workflow used up. -/
def ShareStage.passes (id : Uuid) : ShareStage → Bool
  | .check workflow => workflow.id = id && !workflow.usedUp
  | .increment workflow => workflow.id = id
  | _ => false

/-- What a call is about to write is not the share of the workflow. -/
def ShareStage.KeepsShare (id : Uuid) : ShareStage → Prop
  | .share options _ _ => options.workflowId ≠ id
  | _ => True

instance (id : Uuid) (stage : ShareStage) : Decidable (stage.KeepsShare id) :=
  match stage with
  | .share options _ _ => inferInstanceAs (Decidable (options.workflowId ≠ id))
  | .readTime _ _ | .shared _ | .findOne _ | .check _ | .increment _ | .returned _ => .isTrue trivial

/-- At most so many calls are open at a time, and none shares the workflow anew. -/
def Quiet (id : Uuid) (width : Nat) (_ : ShareDb) (others : List ShareStage) (stage : ShareStage)
    (_ : Unit) : Prop :=
  stage.KeepsShare id ∧ (stage :: others).countP ShareStage.isOpen ≤ width

instance (id : Uuid) (width : Nat) (db : ShareDb) (others : List ShareStage) (stage : ShareStage)
    (choice : Unit) : Decidable (Quiet id width db others stage choice) :=
  inferInstanceAs (Decidable (_ ∧ _))

/-- Every view is counted, and the views that are counted or under way are bounded. -/
structure Counted (id : Uuid) (width : Nat) (start : Workflow) (maxViews : Int) (db : ShareDb)
    (stages : List ShareStage) : Prop where
  keyed : Table.Keyed Workflow.id db.workflows
  row : ∃ workflow, db.workflow? id = some workflow ∧ workflow.shareMaxViews = some maxViews ∧
    workflow.shareViewCount = start.shareViewCount + stages.countP (ShareStage.shows id)
  bounded : start.shareViewCount + stages.countP (ShareStage.shows id) +
    stages.countP (ShareStage.passes id) ≤ max start.shareViewCount (maxViews - 1 + width)

variable {id other : Uuid} {width : Nat} {start workflow : Workflow} {maxViews : Int}
  {db target : ShareDb} {stage next : ShareStage} {stages others : List ShareStage}
  {change : Workflow → Workflow}

theorem keyed_update (keyed : Table.Keyed Workflow.id db.workflows)
    (keeps : ∀ workflow, (change workflow).id = workflow.id) :
    Table.Keyed Workflow.id (db.update other change).workflows := by
  apply Table.keyed_map _ keyed
  intro workflow
  split
  · exact keeps workflow
  · rfl

/-- The row of a workflow after a row has been changed. -/
theorem workflow?_update (keeps : ∀ workflow, (change workflow).id = workflow.id) :
    (db.update other change).workflow? id =
      if other = id then (db.workflow? id).map change else db.workflow? id := by
  rw [ShareDb.workflow?, ShareDb.workflow?, Table.get?, Table.get?, ShareDb.update, List.find?_map]
  have sameKey : ((fun workflow : Workflow => decide (workflow.id = id)) ∘ fun workflow =>
      if workflow.id = other then change workflow else workflow) =
        fun workflow => decide (workflow.id = id) := by
    funext workflow
    by_cases isOther : workflow.id = other
    · simp [isOther, keeps]
    · simp [isOther]
  rw [sameKey]
  cases foundEq : db.workflows.find? fun workflow => decide (workflow.id = id) with
  | none => simp
  | some found =>
      have isFound : found.id = id := Table.key_of_get? foundEq
      by_cases same : other = id
      · simp [isFound, same]
      · simp [isFound, same, Ne.symm same]

/-- Calls that pass have not ended. -/
theorem passes_le_open (stages : List ShareStage) :
    stages.countP (ShareStage.passes id) ≤ stages.countP ShareStage.isOpen := by
  apply List.countP_mono_left
  intro stage _ passes
  cases stage <;> first | rfl | cases passes

/-- A call that only reads, and neither passes nor shows afterwards, leaves the views counted. -/
theorem Counted.of_same (counted : Counted id width start maxViews db (stage :: others))
    (rows : target.workflows = db.workflows)
    (shows : next.shows id = stage.shows id)
    (passes : next.passes id = true → stage.passes id = true) :
    Counted id width start maxViews target (next :: others) := by
  have showsEq : (next :: others).countP (ShareStage.shows id) =
      (stage :: others).countP (ShareStage.shows id) := by
    rw [List.countP_cons, List.countP_cons, shows]
  have passesLe : (next :: others).countP (ShareStage.passes id) ≤
      (stage :: others).countP (ShareStage.passes id) := by
    rw [List.countP_cons, List.countP_cons]
    by_cases nextPasses : next.passes id = true
    · rw [if_pos nextPasses, if_pos (passes nextPasses)]
    · rw [if_neg nextPasses]
      exact Nat.le_add_right _ _
  obtain ⟨keyed, ⟨workflow, rowEq, maxEq, countEq⟩, bounded⟩ := counted
  refine ⟨rows ▸ keyed, ⟨workflow, ?_, maxEq, showsEq ▸ countEq⟩, ?_⟩
  · rw [ShareDb.workflow?, rows]
    exact rowEq
  · rw [showsEq]
    omega

/-- A workflow that may be viewed once more. -/
theorem lt_of_not_usedUp (maxEq : workflow.shareMaxViews = some maxViews) (limited : maxViews ≠ 0)
    (notUsedUp : workflow.usedUp = false) : workflow.shareViewCount < maxViews := by
  simpa [Workflow.usedUp, maxEq, limited] using notUsedUp

/-- A call that has found the workflow with views left is one of those that are open. -/
theorem Counted.found {token : String} (limited : maxViews ≠ 0)
    (counted : Counted id width start maxViews db (.findOne token :: others))
    (few : (ShareStage.findOne token :: others).countP ShareStage.isOpen ≤ width)
    (workflowMem : workflow ∈ db.workflows)
    (passes : (ShareStage.check workflow).passes id = true) :
    Counted id width start maxViews db (.check workflow :: others) := by
  obtain ⟨keyed, ⟨row, rowEq, maxEq, countEq⟩, _⟩ := counted
  obtain ⟨isId, notUsedUp⟩ := Bool.and_eq_true_iff.mp passes
  have isRow : workflow = row := by
    have found := keyed.get?_of_mem workflowMem
    rw [of_decide_eq_true isId] at found
    exact Option.some.inj (found.symm.trans rowEq)
  subst isRow
  have left := lt_of_not_usedUp maxEq limited (Bool.not_eq_true' _ ▸ notUsedUp)
  have othersLe : others.countP (ShareStage.passes id) ≤ others.countP ShareStage.isOpen :=
    passes_le_open others
  have showsEq : (ShareStage.check workflow :: others).countP (ShareStage.shows id) =
      (ShareStage.findOne token :: others).countP (ShareStage.shows id) :=
    rfl
  have passesEq : (ShareStage.check workflow :: others).countP (ShareStage.passes id) =
      others.countP (ShareStage.passes id) + 1 :=
    List.countP_cons_of_pos passes
  have openEq : (ShareStage.findOne token :: others).countP ShareStage.isOpen =
      others.countP ShareStage.isOpen + 1 :=
    List.countP_cons_of_pos rfl
  refine ⟨keyed, ⟨workflow, rowEq, maxEq, showsEq ▸ countEq⟩, ?_⟩
  rw [showsEq, passesEq]
  omega

/-- A view that is counted has been under way. -/
theorem Counted.viewed
    (counted : Counted id width start maxViews db (.increment workflow :: others)) :
    Counted id width start maxViews (db.update workflow.id Workflow.viewed)
      (.returned (some workflow) :: others) := by
  have keeps : ∀ workflow : Workflow, workflow.viewed.id = workflow.id := fun _ => rfl
  by_cases isId : workflow.id = id
  · obtain ⟨keyed, ⟨row, rowEq, maxEq, countEq⟩, bounded⟩ := counted
    have showsEq : (ShareStage.returned (some workflow) :: others).countP (ShareStage.shows id) =
        others.countP (ShareStage.shows id) + 1 :=
      List.countP_cons_of_pos (decide_eq_true isId)
    have showsBefore : (ShareStage.increment workflow :: others).countP (ShareStage.shows id) =
        others.countP (ShareStage.shows id) :=
      List.countP_cons_of_neg Bool.false_ne_true
    have passesBefore : (ShareStage.increment workflow :: others).countP (ShareStage.passes id) =
        others.countP (ShareStage.passes id) + 1 :=
      List.countP_cons_of_pos (decide_eq_true isId)
    have passesEq : (ShareStage.returned (some workflow) :: others).countP (ShareStage.passes id) =
        others.countP (ShareStage.passes id) :=
      List.countP_cons_of_neg Bool.false_ne_true
    refine ⟨keyed_update keyed keeps, ⟨row.viewed, ?_, maxEq, ?_⟩, ?_⟩
    · rw [workflow?_update keeps, if_pos isId, rowEq]
      rfl
    · change row.shareViewCount + 1 = _
      rw [countEq, showsBefore, showsEq]
      push_cast
      omega
    · rw [showsEq, passesEq]
      rw [showsBefore, passesBefore] at bounded
      push_cast at bounded ⊢
      omega
  · have elsewhere : Counted id width start maxViews db (.returned (some workflow) :: others) :=
      counted.of_same rfl (decide_eq_false isId) nofun
    obtain ⟨keyed, ⟨row, rowEq, rest⟩, bounded⟩ := elsewhere
    refine ⟨keyed_update keyed keeps, ⟨row, ?_, rest⟩, bounded⟩
    rw [workflow?_update keeps, if_neg isId]
    exact rowEq

/-- What a statement leaves of the count. -/
theorem Counted.advance (limited : maxViews ≠ 0)
    (counted : Counted id width start maxViews db (stage :: others))
    (quiet : Quiet id width db others stage ())
    (advanceEq : stage.advance db = some (target, next)) :
    Counted id width start maxViews target (next :: others) := by
  cases stage with
  | shared result => cases advanceEq
  | returned workflow => cases advanceEq
  | readTime options token =>
      cases advanceEq
      exact counted.of_same rfl rfl nofun
  | share options token expiresAt =>
      cases advanceEq
      have keeps : ∀ workflow,
          (Workflow.share token expiresAt options.maxViews workflow).id = workflow.id :=
        fun _ => rfl
      obtain ⟨keyed, ⟨workflow, rowEq, rest⟩, bounded⟩ := counted
      refine ⟨keyed_update keyed keeps, ⟨workflow, ?_, rest⟩, bounded⟩
      rw [workflow?_update keeps, if_neg quiet.1]
      exact rowEq
  | findOne token =>
      rw [ShareStage.advance] at advanceEq
      cases foundEq : db.workflows.find? fun workflow => workflow.shareToken = some token with
      | none =>
          rw [foundEq] at advanceEq
          cases advanceEq
          exact counted.of_same rfl rfl nofun
      | some found =>
          rw [foundEq] at advanceEq
          cases advanceEq
          by_cases passes : (ShareStage.check found).passes id = true
          · exact counted.found limited quiet.2 (List.mem_of_find?_eq_some foundEq) passes
          · exact counted.of_same rfl rfl fun isPassing => absurd isPassing passes
  | check workflow =>
      rw [ShareStage.advance] at advanceEq
      split at advanceEq
      · cases advanceEq
        exact counted.of_same rfl rfl nofun
      · rename_i goesOn
        cases advanceEq
        refine counted.of_same rfl rfl fun isId => ?_
        have notUsedUp : workflow.usedUp = false :=
          (Bool.or_eq_false_iff.mp (Bool.not_eq_true _ ▸ goesOn)).2
        simpa [ShareStage.passes, notUsedUp] using isId
  | increment workflow =>
      cases advanceEq
      exact counted.viewed

/-- Views are counted beside each other. -/
theorem counted_keeps (limited : maxViews ≠ 0) :
    shareSystem.KeepsAll (fun _ => True) (Quiet id width) (Counted id width start maxViews) where
  perm := by
    intro store sessions others permuted counted
    obtain ⟨keyed, row, bounded⟩ := counted
    rw [permuted.countP_eq] at row bounded
    rw [permuted.countP_eq] at bounded
    exact ⟨keyed, row, bounded⟩
  started := by
    intro store sessions request counted _
    obtain ⟨keyed, row, bounded⟩ := counted
    cases request with
    | wait elapsed => exact ⟨keyed, row, bounded⟩
    | createShare options token => exact ⟨keyed, row, bounded⟩
    | getSharedWorkflow token => exact ⟨keyed, row, bounded⟩
  advanced := by
    intro store others session choice store' session' counted quiet advanceEq
    exact counted.advance limited quiet advanceEq

/-- A workflow that is shared for one view. -/
def exampleWorkflow : Workflow := ⟨uuid "workflow", "Orders", some "token", none, some 1, 0⟩

/-- Two calls that both read the row before the other one counts its view. -/
def exampleViews : List (Sessions.Action ShareRequest Unit) :=
  [.start (.getSharedWorkflow "token"), .start (.getSharedWorkflow "token"),
    .advance 0 (), .advance 1 (), .advance 0 (), .advance 1 (), .advance 0 (), .advance 1 ()]

end Manbaa.Workflows.Sharing
