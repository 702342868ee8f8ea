import Manbaa.Lib.Except
import Manbaa.Lib.Json
import Manbaa.Lib.Sessions
import Manbaa.Lib.Table
import Manbaa.Workspaces.Permission

/-!
# Updates of a workspace

An update names the version of the workspace that the client has seen.  The version is compared
in memory with the row that has been read; the save that follows writes all columns of that row and
counts the version up, whatever the version of the row is by then.
-/

namespace Manbaa.Workspaces.Locking

open Manbaa.Lib

/-! ## Rows -/

/-- The stage of a workspace. -/
inductive WorkspaceStage where
  | created
  | onboarding
  | collectingSources
  | researching
  | strategyReady
  | designing
  | conceptReview
  | brandSystemReady
  | exported
  | archived
  deriving DecidableEq

/-- A row of `workspace`. -/
structure Workspace where
  id : Uuid
  organizationId : Uuid
  name : String
  description : Option String
  stage : WorkspaceStage
  thumbnailAssetId : Option Uuid
  settings : Json
  createdBy : Uuid
  archived : Bool
  version : Nat
  deletedAt : Option Nat
  deriving DecidableEq

/-- `UpdateWorkspaceDto`: a field that is not there is left alone, and one may be null. -/
structure UpdateWorkspaceDto where
  name : Option (Option String)
  description : Option (Option String)
  settings : Option (Option Json)
  version : Nat
  deriving DecidableEq

/-- What a call does to the workspace: `update`, or `archive` with its flag. -/
inductive Change where
  | update (dto : UpdateWorkspaceDto)
  | archive (archived : Bool)
  deriving DecidableEq

/-- A call of a client. -/
structure WorkspaceCall where
  id : Uuid
  userId : Uuid
  change : Change
  deriving DecidableEq

/-- The version that an update carries. -/
def Change.version : Change → Option Nat
  | .update dto => some dto.version
  | .archive _ => none

/-- The row with the change; there is none if a column would be null that may not be null. -/
def Change.apply (change : Change) (workspace : Workspace) : Option Workspace :=
  match change with
  | .update dto => do
      let name ← dto.name.getD (some workspace.name)
      let settings ← dto.settings.getD (some workspace.settings)
      some { workspace with
        name := name
        description := dto.description.getD workspace.description
        settings := settings }
  | .archive archived =>
      some { workspace with
        archived := archived
        stage := if archived then .archived else .created }

/-- A save that has been committed: the row before and after it, and how many saves had been
committed when its call read the row. -/
structure Commit where
  version : Option Nat
  before : Workspace
  after : Workspace
  readAt : Nat
  deriving DecidableEq

/-- The tables, and the saves that have been committed. -/
structure WorkspacesDb where
  members : Members
  workspaces : List Workspace
  commits : List Commit
  deriving DecidableEq

/-- `find`. -/
def WorkspacesDb.find (db : WorkspacesDb) (id : Uuid) : Option Workspace :=
  (Table.get? Workspace.id db.workspaces id).filter fun workspace => workspace.deletedAt.isNone

/-- The row that a save writes over another one. -/
def Workspace.savedOver (entity current : Workspace) : Workspace :=
  { entity with version := current.version + 1 }

/-- The tables after a save of a row over another one. -/
def WorkspacesDb.save (db : WorkspacesDb) (version : Option Nat) (readAt : Nat)
    (entity current : Workspace) : WorkspacesDb :=
  { db with
    workspaces := Table.save Workspace.id db.workspaces (entity.savedOver current)
    commits := db.commits ++ [⟨version, current, entity.savedOver current, readAt⟩] }

/-! ## Calls -/

/-- A call between its statements: before the guard, before it reads the row, and before it saves
the row that it has read, with the number of saves at that time. -/
inductive LockingStage where
  | called (call : WorkspaceCall)
  | permitted (call : WorkspaceCall)
  | saving (call : WorkspaceCall) (copy : Workspace) (readAt : Nat)
  | ended
  deriving DecidableEq

/-- The versions agree, if the call is an update. -/
def Change.agrees (change : Change) (workspace : Workspace) : Bool :=
  change.version.all fun version => workspace.version == version

/-- A call takes its next statement. -/
def LockingStage.advance (db : WorkspacesDb) : LockingStage → Option (WorkspacesDb × LockingStage)
  | .called call =>
      match requireRole db.members call.userId call.id [.owner, .admin] with
      | .ok _ => some (db, .permitted call)
      | .error _ => some (db, .ended)
  | .permitted call =>
      match db.find call.id with
      | some workspace =>
          if call.change.agrees workspace then
            some (db, .saving call workspace db.commits.length)
          else some (db, .ended)
      | none => some (db, .ended)
  | .saving call copy readAt =>
      -- no call takes a row away, so the one that has been read is there
      match call.change.apply copy, Table.get? Workspace.id db.workspaces copy.id with
      | some entity, some current =>
          some (db.save call.change.version readAt entity current, .ended)
      | _, _ => some (db, .ended)
  | .ended => none

/-- Calls beside each other. -/
def lockingSystem : Sessions WorkspacesDb LockingStage WorkspaceCall Unit where
  start db call := (db, some (.called call))
  advance db _ stage _ := stage.advance db

/-! ## What is promised -/

/-- The columns that an update can change. -/
inductive Field where
  | name
  | description
  | settings
  deriving DecidableEq

/-- The rows differ in a column. -/
def Field.Differs (first second : Workspace) : Field → Prop
  | .name => first.name ≠ second.name
  | .description => first.description ≠ second.description
  | .settings => first.settings ≠ second.settings

instance (first second : Workspace) : ∀ field : Field, Decidable (field.Differs first second)
  | .name => inferInstanceAs (Decidable (_ ≠ _))
  | .description => inferInstanceAs (Decidable (_ ≠ _))
  | .settings => inferInstanceAs (Decidable (_ ≠ _))

/-- A save is an update of the same workspace as another one. -/
def Commit.UpdatesOf (update : Commit) (id : Uuid) : Prop :=
  update.before.id = id ∧ update.version ≠ none

instance (update : Commit) (id : Uuid) : Decidable (update.UpdatesOf id) :=
  inferInstanceAs (Decidable (_ ∧ _))

/-- A row that is written over another one changes no column that an update has changed. -/
def Commit.Spared (update : Commit) (before after : Workspace) : Prop :=
  ∀ field ∈ [Field.name, .description, .settings],
    field.Differs update.before update.after → ¬ field.Differs before after

instance (update : Commit) (before after : Workspace) : Decidable (update.Spared before after) :=
  inferInstanceAs (Decidable (∀ field ∈ _, _ → _))

/-- No two updates of a workspace that carry the same version succeed, and what an update has
changed is not overwritten by a call that had read the workspace before. -/
structure NoneLost (commits : List Commit) : Prop where
  winner : ∀ (i j : Nat) (first second : Commit), i < j → commits[i]? = some first →
    commits[j]? = some second → first.UpdatesOf second.before.id → first.version ≠ second.version
  kept : ∀ (i j : Nat) (first second : Commit), i < j → commits[i]? = some first →
    commits[j]? = some second → first.UpdatesOf second.before.id → second.readAt ≤ i →
    first.Spared second.before second.after

/-- An update that has been committed since the call read the workspace carried another version,
and the save changes no column that it has changed. -/
def Unhurried (db : WorkspacesDb) (_ : List LockingStage) (stage : LockingStage) (_ : Unit) :
    Prop :=
  match stage with
  | .saving call copy readAt =>
      ∀ entity ∈ call.change.apply copy,
        ∀ current ∈ Table.get? Workspace.id db.workspaces copy.id,
          ∀ update ∈ db.commits.drop readAt, update.UpdatesOf copy.id →
            update.version ≠ call.change.version ∧ update.Spared current entity
  | _ => True

instance (db : WorkspacesDb) (others : List LockingStage) (stage : LockingStage) (choice : Unit) :
    Decidable (Unhurried db others stage choice) :=
  match stage with
  | .called _ | .permitted _ | .ended => .isTrue trivial
  | .saving call copy readAt =>
      inferInstanceAs (Decidable (∀ entity ∈ call.change.apply copy,
        ∀ current ∈ Table.get? Workspace.id db.workspaces copy.id,
          ∀ update ∈ db.commits.drop readAt, update.UpdatesOf copy.id →
            update.version ≠ call.change.version ∧ update.Spared current entity))

variable {db : WorkspacesDb} {call : WorkspaceCall} {change : Change} {version : Option Nat}
  {copy entity current : Workspace} {readAt : Nat}

/-! ## What calls rely on -/

/-- The version of a row exceeds those of the updates that have been committed. -/
structure Sound (db : WorkspacesDb) : Prop where
  keyed : Table.Keyed Workspace.id db.workspaces
  counted : ∀ update ∈ db.commits, ∀ version ∈ update.version,
    ∀ row ∈ db.workspaces, row.id = update.before.id → version < row.version
  noneLost : NoneLost db.commits

/-- A row that has been read exceeds the updates that had been committed then, and an update
carries its version. -/
structure Copied (db : WorkspacesDb) (call : WorkspaceCall) (copy : Workspace) (readAt : Nat) :
    Prop where
  past : readAt ≤ db.commits.length
  seen : ∀ row ∈ db.workspaces, row.id = copy.id → copy.version ≤ row.version
  agrees : ∀ version ∈ call.change.version, copy.version = version
  counted : ∀ (i : Nat) (update : Commit), i < readAt → db.commits[i]? = some update →
    ∀ version ∈ update.version, update.before.id = copy.id → version < copy.version

/-- What the tables owe a call. -/
def Owns (db : WorkspacesDb) : LockingStage → Prop
  | .saving call copy readAt => Copied db call copy readAt
  | _ => True

theorem apply_id (applyEq : change.apply copy = some entity) : entity.id = copy.id := by
  cases change with
  | archive archived =>
      cases applyEq
      rfl
  | update dto =>
      rw [Change.apply] at applyEq
      obtain ⟨name, _, restEq⟩ := Option.bind_eq_some_iff.mp applyEq
      obtain ⟨settings, _, entityEq⟩ := Option.bind_eq_some_iff.mp restEq
      cases entityEq
      rfl

theorem differs_savedOver {field : Field} {first second : Workspace} :
    field.Differs first (entity.savedOver second) ↔ field.Differs first entity := by
  cases field <;> rfl

theorem spared_savedOver {update : Commit} {second : Workspace} :
    update.Spared current (entity.savedOver second) ↔ update.Spared current entity := by
  rw [Commit.Spared, Commit.Spared]
  simp only [differs_savedOver]

/-- One more save loses nothing exactly if it loses nothing of the saves before it. -/
theorem noneLost_append_iff {commits : List Commit} {last : Commit} (noneLost : NoneLost commits) :
    NoneLost (commits ++ [last]) ↔
      ∀ (i : Nat) (update : Commit), commits[i]? = some update → update.UpdatesOf last.before.id →
        update.version ≠ last.version ∧
          (last.readAt ≤ i → update.Spared last.before last.after) := by
  constructor
  · intro all i update updateEq updates
    have early : i < commits.length := (List.getElem?_eq_some_iff.mp updateEq).1
    have updateAt : (commits ++ [last])[i]? = some update := by
      rw [List.getElem?_append_left early]
      exact updateEq
    have lastAt : (commits ++ [last])[commits.length]? = some last := List.getElem?_concat_length
    exact ⟨all.winner i _ update last early updateAt lastAt updates,
      all.kept i _ update last early updateAt lastAt updates⟩
  · intro each
    have split : ∀ (i j : Nat) (first second : Commit), i < j →
        (commits ++ [last])[i]? = some first → (commits ++ [last])[j]? = some second →
        commits[i]? = some first ∧ (commits[j]? = some second ∨ second = last) := by
      intro i j first second before firstAt secondAt
      by_cases early : j < commits.length
      · rw [List.getElem?_append_left (by omega)] at firstAt
        rw [List.getElem?_append_left early] at secondAt
        exact ⟨firstAt, Or.inl secondAt⟩
      · rw [List.getElem?_append_right (by omega), List.getElem?_singleton] at secondAt
        split at secondAt
        · rw [List.getElem?_append_left (by omega)] at firstAt
          exact ⟨firstAt, Or.inr (Option.some.inj secondAt).symm⟩
        · cases secondAt
    constructor
    · intro i j first second before firstAt secondAt updates
      obtain ⟨firstEq, old | rfl⟩ := split i j first second before firstAt secondAt
      · exact noneLost.winner i j first second before firstEq old updates
      · exact (each i first firstEq updates).1
    · intro i j first second before firstAt secondAt updates late
      obtain ⟨firstEq, old | rfl⟩ := split i j first second before firstAt secondAt
      · exact noneLost.kept i j first second before firstEq old updates late
      · exact (each i first firstEq updates).2 late

/-! ## What a save does -/

/-- A call that has read a row relies on it still after another save. -/
theorem Copied.save (copied : Copied db call copy readAt) {version : Option Nat} {at' : Nat}
    {row old : Workspace} (oldEq : Table.get? Workspace.id db.workspaces row.id = some old) :
    Copied (db.save version at' row old) call copy readAt where
  past := Nat.le_trans copied.past (by simp [WorkspacesDb.save])
  seen := by
    intro other otherMem own
    rcases Table.mem_save_iff.mp otherMem with rfl | ⟨kept, _⟩
    · have own : row.id = copy.id := own
      have less := copied.seen old (Table.mem_of_get? oldEq)
        ((Table.key_of_get? oldEq).trans own)
      exact Nat.le_succ_of_le less
    · exact copied.seen other kept own
  agrees := copied.agrees
  counted := by
    intro i update early updateEq
    rw [WorkspacesDb.save, List.getElem?_append_left (Nat.lt_of_lt_of_le early copied.past)]
      at updateEq
    exact copied.counted i update early updateEq

theorem Owns.save {stage : LockingStage} (owns : Owns db stage) {version : Option Nat} {at' : Nat}
    {row old : Workspace} (oldEq : Table.get? Workspace.id db.workspaces row.id = some old) :
    Owns (db.save version at' row old) stage := by
  cases stage with
  | saving call copy readAt => exact Copied.save owns oldEq
  | called call => trivial
  | permitted call => trivial
  | ended => trivial

/-- What a call relies on when it has read a row. -/
theorem copied_of_find (sound : Sound db) (findEq : db.find call.id = some copy)
    (agrees : call.change.agrees copy = true) : Copied db call copy db.commits.length where
  past := le_rfl
  seen := by
    intro row rowMem own
    have copyMem := Table.mem_of_get? (Option.filter_eq_some_iff.mp findEq).1
    rw [sound.keyed.eq rowMem copyMem own]
  agrees := by
    intro version versionMem
    rw [Change.agrees, Option.mem_def.mp versionMem] at agrees
    exact beq_iff_eq.mp agrees
  counted := by
    intro i update _ updateEq version versionMem own
    have copyMem := Table.mem_of_get? (Option.filter_eq_some_iff.mp findEq).1
    exact sound.counted update (List.mem_of_getElem? updateEq) version versionMem copy copyMem
      own.symm

/-- An update that had been committed when a call read the row carried another version than the
call, and needs no sparing. -/
theorem Copied.iff_drop (copied : Copied db call copy readAt) {spared : Commit → Prop} :
    (∀ (i : Nat) (update : Commit), db.commits[i]? = some update → update.UpdatesOf copy.id →
        update.version ≠ call.change.version ∧ (readAt ≤ i → spared update)) ↔
      ∀ update ∈ db.commits.drop readAt, update.UpdatesOf copy.id →
        update.version ≠ call.change.version ∧ spared update := by
  constructor
  · intro each update updateMem updates
    obtain ⟨i, updateEq⟩ := List.mem_iff_getElem?.mp updateMem
    rw [List.getElem?_drop] at updateEq
    have facts := each (readAt + i) update updateEq updates
    exact ⟨facts.1, facts.2 (Nat.le_add_right readAt i)⟩
  · intro each i update updateEq updates
    by_cases late : readAt ≤ i
    · have updateMem : update ∈ db.commits.drop readAt := by
        apply List.mem_iff_getElem?.mpr
        exact ⟨i - readAt, by rw [List.getElem?_drop, Nat.add_sub_cancel' late, updateEq]⟩
      have facts := each update updateMem updates
      exact ⟨facts.1, fun _ => facts.2⟩
    · refine ⟨?_, fun isLate => absurd isLate late⟩
      intro same
      obtain ⟨version, versionEq⟩ := Option.ne_none_iff_exists'.mp updates.2
      have less := copied.counted i update (Nat.lt_of_not_le late) updateEq version versionEq
        updates.1
      rw [copied.agrees version (same.symm.trans versionEq)] at less
      exact absurd less (Nat.lt_irrefl version)

/-- A save loses nothing exactly if the call is unhurried. -/
theorem noneLost_save_iff (sound : Sound db) (copied : Copied db call copy readAt)
    (applyEq : call.change.apply copy = some entity)
    (currentEq : Table.get? Workspace.id db.workspaces copy.id = some current) :
    NoneLost (db.save call.change.version readAt entity current).commits ↔
      Unhurried db [] (.saving call copy readAt) () := by
  rw [WorkspacesDb.save, noneLost_append_iff sound.noneLost]
  have currentId : current.id = copy.id := Table.key_of_get? currentEq
  simp only [currentId, spared_savedOver]
  rw [copied.iff_drop]
  constructor
  · intro each other otherEq row rowEq
    cases applyEq.symm.trans otherEq
    cases currentEq.symm.trans rowEq
    exact each
  · intro unhurried
    exact unhurried entity applyEq current currentEq

theorem sound_save (sound : Sound db) (copied : Copied db call copy readAt)
    (applyEq : call.change.apply copy = some entity)
    (currentEq : Table.get? Workspace.id db.workspaces copy.id = some current)
    (noneLost : NoneLost (db.save call.change.version readAt entity current).commits) :
    Sound (db.save call.change.version readAt entity current) where
  keyed := Table.keyed_save sound.keyed
  counted := by
    have currentId : current.id = copy.id := Table.key_of_get? currentEq
    intro update updateMem version versionMem row rowMem own
    rcases List.mem_append.mp updateMem with old | new
    · rcases Table.mem_save_iff.mp rowMem with rfl | ⟨oldRow, _⟩
      · have less := sound.counted update old version versionMem current
          (Table.mem_of_get? currentEq) (currentId.trans ((apply_id applyEq).symm.trans own))
        exact Nat.lt_succ_of_lt less
      · exact sound.counted update old version versionMem row oldRow own
    · rw [List.mem_singleton.mp new] at versionMem own
      rcases Table.mem_save_iff.mp rowMem with rfl | ⟨_, other⟩
      · have agrees := copied.agrees version versionMem
        have seen := copied.seen current (Table.mem_of_get? currentEq) currentId
        change version < current.version + 1
        omega
      · exact absurd (own.trans (currentId.trans (apply_id applyEq).symm)) other
  noneLost := noneLost

/-! ## No update is lost -/

theorem entity_current (applyEq : call.change.apply copy = some entity)
    (currentEq : Table.get? Workspace.id db.workspaces copy.id = some current) :
    Table.get? Workspace.id db.workspaces entity.id = some current := by
  rw [apply_id applyEq]
  exact currentEq

theorem keeps_noneLost :
    lockingSystem.Keeps (fun _ => True) Unhurried Sound Owns fun _ _ => True where
  started := by
    intro db call sound _
    refine ⟨sound, fun _ owns => owns, ?_⟩
    intro stage stageMem
    cases stageMem
    exact ⟨trivial, fun _ => ⟨trivial, trivial⟩⟩
  advanced := by
    intro db others stage choice db' stage' leaves unhurried advanceEq
    have advanceEq : stage.advance db = some (db', stage') := advanceEq
    have parts : ∀ other ∈ others, True ∧ True := fun _ _ => ⟨trivial, trivial⟩
    cases stage with
    | called call =>
        rw [LockingStage.advance] at advanceEq
        split at advanceEq
        · cases advanceEq
          exact ⟨leaves.holds, trivial, leaves.beside, parts⟩
        · cases advanceEq
          exact ⟨leaves.holds, trivial, leaves.beside, parts⟩
    | permitted call =>
        rw [LockingStage.advance] at advanceEq
        split at advanceEq
        · rename_i copy findEq
          split at advanceEq
          · rename_i agrees
            cases advanceEq
            exact ⟨leaves.holds, copied_of_find leaves.holds findEq agrees, leaves.beside, parts⟩
          · cases advanceEq
            exact ⟨leaves.holds, trivial, leaves.beside, parts⟩
        · cases advanceEq
          exact ⟨leaves.holds, trivial, leaves.beside, parts⟩
    | saving call copy readAt =>
        rw [LockingStage.advance] at advanceEq
        split at advanceEq
        · rename_i entity current applyEq currentEq
          cases advanceEq
          have noneLost := (noneLost_save_iff leaves.holds leaves.owns applyEq currentEq).mpr
            unhurried
          refine ⟨sound_save leaves.holds leaves.owns applyEq currentEq noneLost, trivial, ?_,
            parts⟩
          intro other otherMem
          exact (leaves.beside other otherMem).save (entity_current applyEq currentEq)
        · cases advanceEq
          exact ⟨leaves.holds, trivial, leaves.beside, parts⟩
    | ended => cases advanceEq

/-- A hurried save loses an update. -/
theorem lost_of_hurried {others : List LockingStage} {stage stage' : LockingStage}
    {db' : WorkspacesDb} (sound : Sound db) (owns : Owns db stage)
    (hurried : ¬ Unhurried db others stage ()) (advanceEq : stage.advance db = some (db', stage')) :
    ¬ NoneLost db'.commits := by
  intro noneLost
  apply hurried
  cases stage with
  | called call => trivial
  | permitted call => trivial
  | ended => trivial
  | saving call copy readAt =>
      intro entity applyEq current currentEq
      have applyEq : call.change.apply copy = some entity := applyEq
      have currentEq : Table.get? Workspace.id db.workspaces copy.id = some current := currentEq
      rw [LockingStage.advance, applyEq, currentEq] at advanceEq
      cases advanceEq
      exact (noneLost_save_iff sound owns applyEq currentEq).mp noneLost entity applyEq current
        currentEq

/-- No update of a workspace is lost exactly as long as an update that is committed between the
read and the save of a call carried another version than the call, and changed no column that the
call saves with another value. -/
theorem updates_kept {state reached : Sessions.State WorkspacesDb LockingStage}
    {actions : List (Sessions.Action WorkspaceCall Unit)}
    (keyed : Table.Keyed Workspace.id state.store.workspaces) (fresh : state.store.commits = [])
    (idle : state.sessions = []) (runEq : lockingSystem.step.run state actions = some reached) :
    lockingSystem.step.Always (fun state => NoneLost state.store.commits) state actions ↔
      lockingSystem.step.Meets (Sessions.Guard (fun _ => True) Unhurried) state actions := by
  have noneLost : NoneLost state.store.commits := by
    rw [fresh]
    exact ⟨by simp, by simp⟩
  have sound : Sound state.store := ⟨keyed, by simp [fresh], noneLost⟩
  exact keeps_noneLost.always_iff_meets (fun _ sound => sound.noneLost)
    (fun _ _ _ _ _ _ leaves hurried advanceEq =>
      lost_of_hurried leaves.holds leaves.owns hurried advanceEq)
    (Sessions.Invariant.of_no_sessions sound idle) runEq

/-! ## Examples -/

/-- A workspace with an owner, and no call. -/
def exampleWorkspaces : Sessions.State WorkspacesDb LockingStage where
  store :=
    { members :=
        { organizationMembers := []
          workspaceMembers := [⟨uuid "org", uuid "workspace", uuid "owner", .owner, .active⟩] }
      workspaces :=
        [{ id := uuid "workspace"
           organizationId := uuid "org"
           name := "Brand"
           description := none
           stage := .created
           thumbnailAssetId := none
           settings := .obj []
           createdBy := uuid "owner"
           archived := false
           version := 1
           deletedAt := none }]
      commits := [] }
  sessions := []

/-- The owner gives the workspace another name. -/
def exampleRename (name : String) (version : Nat) : Sessions.Action WorkspaceCall Unit :=
  .start ⟨uuid "workspace", uuid "owner", .update ⟨some (some name), none, none, version⟩⟩

/-- The owner describes the workspace. -/
def exampleDescribe (version : Nat) : Sessions.Action WorkspaceCall Unit :=
  .start ⟨uuid "workspace", uuid "owner", .update ⟨none, some (some "A brand"), none, version⟩⟩

/-- The owner archives the workspace. -/
def exampleArchive : Sessions.Action WorkspaceCall Unit :=
  .start ⟨uuid "workspace", uuid "owner", .archive true⟩

/-- A call takes its next statements. -/
def advances (index steps : Nat) : List (Sessions.Action WorkspaceCall Unit) :=
  List.replicate steps (.advance index ())

/-- Two updates one after the other, and a third one that comes too late. -/
def exampleUpdates : List (Sessions.Action WorkspaceCall Unit) :=
  exampleRename "Identity" 1 :: advances 0 3 ++ exampleDescribe 2 :: advances 1 3 ++
    exampleRename "Logo" 1 :: advances 2 2

/-- Updates that do not overlap lose nothing. -/
theorem updates_kept_example :
    ∃ reached, lockingSystem.step.run exampleWorkspaces exampleUpdates = some reached ∧
      lockingSystem.step.Always (fun state => NoneLost state.store.commits) exampleWorkspaces
        exampleUpdates := by
  have keyed : Table.Keyed Workspace.id exampleWorkspaces.store.workspaces := by decide
  have met : lockingSystem.step.Meets (Sessions.Guard (fun _ => True) Unhurried)
      exampleWorkspaces exampleUpdates := by
    decide +kernel
  have taken : (lockingSystem.step.run exampleWorkspaces exampleUpdates).isSome := by
    decide +kernel
  obtain ⟨reached, runEq⟩ := Option.isSome_iff_exists.mp taken
  exact ⟨reached, runEq, (updates_kept keyed rfl rfl runEq).mpr met⟩

/-- Two updates of one version that overlap are both saved, and the second one takes the name
back; and an archive that has read the workspace before an update takes its name back too. -/
theorem updates_lost :
    (lockingSystem.step.run exampleWorkspaces
        (exampleRename "Identity" 1 :: exampleDescribe 1 :: advances 0 3 ++ advances 1 2)).map
        (fun state => state.store.workspaces.map fun row => (row.name, row.version)) =
      some [("Identity", 2)] ∧
    (lockingSystem.step.run exampleWorkspaces
        (exampleRename "Identity" 1 :: exampleDescribe 1 :: advances 0 2 ++ advances 1 2 ++
          advances 0 1 ++ advances 1 1)).map
        (fun state => (state.store.commits.map Commit.version,
          state.store.workspaces.map fun row => (row.name, row.version))) =
      some ([some 1, some 1], [("Brand", 3)]) ∧
    (lockingSystem.step.run exampleWorkspaces
        (exampleRename "Identity" 1 :: exampleArchive :: advances 1 2 ++ advances 0 3 ++
          advances 1 1)).map
        (fun state => state.store.workspaces.map fun row => (row.name, row.archived)) =
      some [("Brand", true)] := by
  decide +kernel

end Manbaa.Workspaces.Locking
