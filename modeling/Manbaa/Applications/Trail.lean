import Manbaa.Applications.Steps
import Manbaa.Lib.Trail

/-!
# The audit trail of an application

Every entry says what some columns of an application were before a call and what they are after it,
so that the entries of an application about one column should go on from each other.  The entries of
a publication are made after the application has been changed, and say twice what it is afterwards.
A call that does not run in a transaction may save what is stale by then, and its entry may be
entered late.
-/

namespace Manbaa.Applications

open Manbaa.Lib

/-! ## Columns and entries -/

/-- The column of an application under the name that entries use. -/
def Application.field (application : Application) : String → Option Json
  | "currentVersion" => some (.num application.currentVersion)
  | "publishedVersionId" => some (uuidOrNull application.publishedVersionId)
  | "name" => some (textOrNull application.name)
  | "description" => some (textOrNull application.description)
  | "status" => some (.str application.status.text)
  | "orgId" => some (.str application.orgId.text)
  | "projectId" => some (.str application.projectId.text)
  | _ => none

/-- The columns that are to be replayed. -/
def trackedKeys : List String := ["currentVersion", "publishedVersionId", "name", "description"]

/-- What an entry says of a column before the call. -/
def AuditEntry.before (entry : AuditEntry) (key : String) : Option Json :=
  (entry.beforeState.getD []).lookup key

/-- What an entry says of a column after the call.  After an unpublication, no version is
published. -/
def AuditEntry.after (entry : AuditEntry) (key : String) : Option Json :=
  if entry.eventType = "APPLICATION_UNPUBLISHED" ∧ key = "publishedVersionId" then some .null
  else (entry.afterState.getD []).lookup key

/-- The entry is about a column. -/
def AuditEntry.mentions (entry : AuditEntry) (key : String) : Bool :=
  (entry.before key).isSome || (entry.after key).isSome

/-- The entry is about a column of an application. -/
def AuditEntry.about (id : Uuid) (key : String) (entry : AuditEntry) : Bool :=
  entry.elementId == id && entry.mentions key

/-- What is stored in a column of an application. -/
def ApplicationsDb.current (db : ApplicationsDb) (id : Uuid) (key : String) : Option Json :=
  (db.application? id).bind (·.field key)

/-- Each column that an entry mentions was before the call what it says, and is after the call what
it says. -/
structure Accurate (before after : ApplicationsDb) (entry : AuditEntry) : Prop where
  before : ∀ key value, entry.before key = some value →
    ∃ application, before.application? entry.elementId = some application ∧
      ∀ stored, application.field key = some stored → value = stored
  after : ∀ key value, entry.after key = some value →
    ∃ application, after.application? entry.elementId = some application ∧
      ∀ stored, application.field key = some stored → value = stored

/-- The entries of an application about a column go on from each other. -/
def Chained (id : Uuid) (key : String) (auditLog : List AuditEntry) : Prop :=
  (auditLog.filter (AuditEntry.about id key)).IsChain fun first second =>
    second.before key = first.after key

/-- The entries about every column that is to be replayed tell what is stored. -/
def ApplicationsDb.Replayable (db : ApplicationsDb) : Prop :=
  ∀ id, ∀ key ∈ trackedKeys, Tells (AuditEntry.before · key) (AuditEntry.after · key)
    (db.auditLog.filter (AuditEntry.about id key)) (db.current id key)

/-! ## What is still to be entered -/

/-- The entry of a call that has saved its application. -/
def Stage.owed? : Stage → Option AuditEntry
  | .entering entry => some entry
  | _ => none

/-- The entries that are still to be entered. -/
def owed (sessions : List Stage) : List AuditEntry := sessions.filterMap Stage.owed?

/-! ## The condition on steps -/

/-- A save finds what the call has read of the application, in the columns that its entry mentions
and in those that are to be replayed; no entry about a column that it changes is still to be
entered.  A new application is new. -/
def SaveFinds (db : ApplicationsDb) (others : List Stage) (application : Application)
    (entry : AuditEntry) : Prop :=
  match entry.beforeState with
  | none => db.application? application.id = none
  | some fields => ∃ row, db.application? application.id = some row ∧
      (∀ field ∈ fields, row.field field.1 = some field.2) ∧
      (∀ key ∈ trackedKeys, entry.before key = none → application.field key = row.field key) ∧
      ∀ key ∈ trackedKeys, (entry.before key).isSome → ∀ other ∈ owed others,
        other.about application.id key = false

/-- A version is published that is published already, none is unpublished, and a duplicate is
new. -/
def Transaction.Trailed (db : ApplicationsDb) : Transaction → Prop
  | .saveDraftSchema _ _ _ => True
  | .createVersion _ _ _ _ _ => True
  | .publishVersion id versionId _ _ _ => ∀ application ∈ db.application? id,
      application.publishedVersionId = some versionId
  | .unpublishVersion _ _ _ => False
  | .duplicate _ _ _ _ newId _ => db.application? newId = none

/-- What succeeds meets these conditions. -/
def TrailedStep (db : ApplicationsDb) (others : List Stage) : Stage → Unit → Prop
  | .reading (.transact transaction), _ =>
      (transaction.perform db).isOk = true → transaction.Trailed db
  | .saving application entry, _ =>
      (db.saveApplication application).isOk = true → SaveFinds db others application entry
  | _, _ => True

variable {db next : ApplicationsDb} {id orgId actorId versionId newId : Uuid} {key : String}
  {application saved row : Application} {version : ApplicationVersion} {entry : AuditEntry}
  {sessions others : List Stage} {stage after : Stage}

/-! ## Columns after a step -/

theorem trackedKeys_cases (tracked : key ∈ trackedKeys) : key = "currentVersion" ∨
    key = "publishedVersionId" ∨ key = "name" ∨ key = "description" := by
  simpa [trackedKeys] using tracked

theorem about_eq_true_iff : entry.about id key = true ↔
    entry.elementId = id ∧ entry.mentions key = true := by
  rw [AuditEntry.about, Bool.and_eq_true, beq_iff_eq]

theorem current_of_found (found : db.application? id = some application) :
    db.current id key = application.field key := by
  rw [ApplicationsDb.current, found, Option.bind_some]

theorem current_of_replaces (replaces : Replaces db next application) (id : Uuid) (key : String) :
    next.current id key = if application.id = id then application.field key
      else db.current id key := by
  split
  · rename_i own
    rw [← own, current_of_found replaces.own]
  · rename_i other
    rw [ApplicationsDb.current, replaces.others id (Ne.symm other)]
    rfl

/-- The stored form of the draft is in no column that entries are about. -/
theorem field_row (application : Application) (key : String) :
    application.row.field key = application.field key :=
  rfl

/-! ## The invariant -/

/-- An application that a call is about to save, with its entry. -/
inductive Prepared : Application → AuditEntry → Prop where
  | create (dto : CreateApplicationDto) (orgId ownerId id : Uuid) :
      Prepared (dto.application orgId ownerId id) (dto.entry orgId ownerId id)
  | update (application : Application) (dto : UpdateApplicationDto) (actorId : Uuid) :
      Prepared (application.edit dto) (application.updatedEntry dto actorId)
  | archive (application : Application) (actorId : Uuid) :
      Prepared application.archive (application.archivedEntry actorId)

/-- The entries that are in the log, or still to be entered, tell what is stored. -/
structure TrailInv (db : ApplicationsDb) (sessions : List Stage) : Prop where
  tells : ∀ id, ∀ key ∈ trackedKeys, Tells (AuditEntry.before · key) (AuditEntry.after · key)
    ((db.auditLog ++ owed sessions).filter (AuditEntry.about id key)) (db.current id key)
  one : ∀ id, ∀ key ∈ trackedKeys, ((owed sessions).filter (AuditEntry.about id key)).length ≤ 1
  prepared : ∀ application entry, .saving application entry ∈ sessions → Prepared application entry
  owing : ∀ entry ∈ owed sessions, entry.mentions "currentVersion" = false ∧
    entry.mentions "publishedVersionId" = false

/-- What is stored of the columns that are to be replayed stays what it is. -/
def Keeps (db next : ApplicationsDb) : Prop :=
  ∀ id, ∀ key ∈ trackedKeys, db.current id key = none ∨ next.current id key = db.current id key

/-- An entry goes on from what was stored and says what is stored now, and nothing else is
changed. -/
structure Enters (db next : ApplicationsDb) (entry : AuditEntry) : Prop where
  own : ∀ key ∈ trackedKeys, entry.mentions key = true →
    (db.current entry.elementId key = none ∨
      entry.before key = db.current entry.elementId key) ∧
    ∃ value, entry.after key = some value ∧ next.current entry.elementId key = some value
  rest : ∀ id, ∀ key ∈ trackedKeys, entry.about id key = false →
    db.current id key = none ∨ next.current id key = db.current id key

theorem eq_of_perm_of_short {first second : List AuditEntry} (permuted : first.Perm second)
    (short : first.length ≤ 1) : first = second := by
  cases first with
  | nil => exact permuted.nil_eq
  | cons entry rest =>
      rw [List.length_cons] at short
      obtain rfl : rest = [] := List.length_eq_zero_iff.mp (by omega)
      exact (List.singleton_perm.mp permuted).symm ▸ rfl

theorem TrailInv.perm (inv : TrailInv db sessions) (permuted : sessions.Perm others) :
    TrailInv db others := by
  have owedPerm : (owed sessions).Perm (owed others) := permuted.filterMap _
  have sameOwed : ∀ id, ∀ key ∈ trackedKeys, (owed sessions).filter (AuditEntry.about id key) =
      (owed others).filter (AuditEntry.about id key) := by
    intro id key tracked
    exact eq_of_perm_of_short (owedPerm.filter _) (inv.one id key tracked)
  refine ⟨?_, ?_, ?_, ?_⟩
  · intro id key tracked
    rw [List.filter_append, ← sameOwed id key tracked, ← List.filter_append]
    exact inv.tells id key tracked
  · intro id key tracked
    rw [← sameOwed id key tracked]
    exact inv.one id key tracked
  · intro application entry mem
    exact inv.prepared application entry (permuted.mem_iff.mpr mem)
  · intro entry mem
    exact inv.owing entry (owedPerm.mem_iff.mpr mem)

/-- A call that owes no entry may come or go. -/
theorem TrailInv.drop (inv : TrailInv db (stage :: others)) (none : stage.owed? = none) :
    TrailInv db others := by
  have same : owed (stage :: others) = owed others := List.filterMap_cons_none none
  refine ⟨?_, ?_, fun application entry mem => ?_, ?_⟩
  · exact same ▸ inv.tells
  · exact same ▸ inv.one
  · exact inv.prepared application entry (List.mem_cons_of_mem _ mem)
  · exact same ▸ inv.owing

theorem TrailInv.cons (inv : TrailInv db others) (none : after.owed? = none)
    (prepared : ∀ application entry, after = .saving application entry →
      Prepared application entry) : TrailInv db (after :: others) := by
  have same : owed (after :: others) = owed others := List.filterMap_cons_none none
  refine ⟨?_, ?_, fun application entry mem => ?_, ?_⟩
  · rw [same]
    exact inv.tells
  · rw [same]
    exact inv.one
  · rcases List.mem_cons.mp mem with own | beside
    · exact prepared application entry own.symm
    · exact inv.prepared application entry beside
  · rw [same]
    exact inv.owing

/-- A step without an entry. -/
theorem TrailInv.keep (inv : TrailInv db sessions) (log : next.auditLog = db.auditLog)
    (keeps : Keeps db next) : TrailInv next sessions := by
  refine ⟨fun id key tracked => ?_, inv.one, inv.prepared, inv.owing⟩
  rw [log]
  exact (inv.tells id key tracked).kept (keeps id key tracked)

/-- The entries about a column after a step with an entry that no other one is owed beside. -/
theorem TrailInv.entered (inv : TrailInv db sessions) (enters : Enters db next entry)
    (free : ∀ key ∈ trackedKeys, entry.mentions key = true →
      (owed sessions).filter (AuditEntry.about entry.elementId key) = []) (id : Uuid)
    (tracked : key ∈ trackedKeys) :
    Tells (AuditEntry.before · key) (AuditEntry.after · key)
      ((db.auditLog ++ entry :: owed sessions).filter (AuditEntry.about id key))
      (next.current id key) := by
  have tells := inv.tells id key tracked
  rw [List.filter_append, List.filter_cons]
  rw [List.filter_append] at tells
  split
  · rename_i about
    obtain ⟨rfl, mentions⟩ := about_eq_true_iff.mp about
    obtain ⟨goesOn, value, left, nextEq⟩ := enters.own key tracked mentions
    rw [free key tracked mentions] at tells ⊢
    rw [List.append_nil] at tells
    rw [nextEq]
    exact tells.append goesOn left
  · rename_i other
    exact tells.kept (enters.rest id key tracked (Bool.eq_false_iff.mpr other))

/-- A step that logs an entry. -/
theorem TrailInv.log (inv : TrailInv db sessions) (enters : Enters db next entry)
    (logged : next.auditLog = db.auditLog ++ [entry])
    (free : ∀ key ∈ trackedKeys, entry.mentions key = true →
      (owed sessions).filter (AuditEntry.about entry.elementId key) = []) :
    TrailInv next sessions := by
  refine ⟨fun id key tracked => ?_, inv.one, inv.prepared, inv.owing⟩
  rw [logged, List.append_assoc, List.singleton_append]
  exact inv.entered enters free id tracked

/-- A save, whose entry is still to be entered. -/
theorem TrailInv.save (inv : TrailInv db others) (enters : Enters db next entry)
    (log : next.auditLog = db.auditLog)
    (free : ∀ key ∈ trackedKeys, entry.mentions key = true →
      (owed others).filter (AuditEntry.about entry.elementId key) = [])
    (owing : entry.mentions "currentVersion" = false ∧
      entry.mentions "publishedVersionId" = false) : TrailInv next (.entering entry :: others) := by
  have owedEq : owed (.entering entry :: others) = entry :: owed others := rfl
  refine ⟨fun id key tracked => ?_, fun id key tracked => ?_, fun application other mem => ?_, ?_⟩
  · rw [log, owedEq]
    exact inv.entered enters free id tracked
  · rw [owedEq, List.filter_cons]
    split
    · rename_i about
      obtain ⟨rfl, mentions⟩ := about_eq_true_iff.mp about
      rw [free key tracked mentions, List.length_singleton]
    · exact inv.one id key tracked
  · rcases List.mem_cons.mp mem with own | beside
    · cases own
    · exact inv.prepared application other beside
  · intro other mem
    rw [owedEq] at mem
    rcases List.mem_cons.mp mem with rfl | beside
    · exact owing
    · exact inv.owing other beside

/-- An entry that is entered. -/
theorem TrailInv.enter (inv : TrailInv db (.entering entry :: others)) :
    TrailInv (db.log entry) others := by
  have owedEq : owed (.entering entry :: others) = entry :: owed others := rfl
  refine ⟨fun id key tracked => ?_, fun id key tracked => ?_, fun application other mem => ?_,
    fun other mem => ?_⟩
  · have tells := inv.tells id key tracked
    rw [owedEq] at tells
    rw [ApplicationsDb.log, List.append_assoc, List.singleton_append]
    exact tells
  · have one := inv.one id key tracked
    rw [owedEq] at one
    exact Nat.le_trans ((List.sublist_cons_self _ _).filter _).length_le one
  · exact inv.prepared application other (List.mem_cons_of_mem _ mem)
  · exact inv.owing other (owedEq ▸ List.mem_cons_of_mem _ mem)

/-! ## What the entries say -/

theorem mem_of_lookup {fields : Json.Fields} {value : Json}
    (found : fields.lookup key = some value) : (key, value) ∈ fields := by
  obtain ⟨front, back, rfl, _⟩ := List.lookup_eq_some_iff.mp found
  exact List.mem_append_right _ (List.mem_cons_self ..)

/-- An entry is accurate if what its fields say is. -/
theorem accurate_of_fields {before after : Application}
    (beforeFound : entry.beforeState.isSome → db.application? entry.elementId = some before)
    (afterFound : next.application? entry.elementId = some after)
    (published : entry.eventType ≠ "APPLICATION_UNPUBLISHED")
    (beforeTold : ∀ field ∈ entry.beforeState.getD [], ∀ stored ∈ before.field field.1,
      field.2 = stored)
    (afterTold : ∀ field ∈ entry.afterState.getD [], ∀ stored ∈ after.field field.1,
      field.2 = stored) : Accurate db next entry := by
  constructor
  · intro key value told
    have mem := mem_of_lookup told
    cases stateEq : entry.beforeState with
    | none =>
        rw [stateEq] at mem
        cases mem
    | some fields =>
        refine ⟨before, beforeFound (by rw [stateEq]; rfl), fun stored storedEq => ?_⟩
        exact beforeTold _ mem stored storedEq
  · intro key value told
    rw [AuditEntry.after, if_neg fun both => published both.1] at told
    exact ⟨after, afterFound, fun stored storedEq =>
      afterTold _ (mem_of_lookup told) stored storedEq⟩

/-- A column that is to be replayed is a column. -/
theorem exists_field (tracked : key ∈ trackedKeys) (application : Application) :
    ∃ value, application.field key = some value := by
  rcases trackedKeys_cases tracked with rfl | rfl | rfl | rfl
  · exact ⟨_, rfl⟩
  · exact ⟨_, rfl⟩
  · exact ⟨_, rfl⟩
  · exact ⟨_, rfl⟩

/-- A row that replaces another one, with an entry about the columns in which they differ. -/
theorem enters_of_replaces (found : db.application? entry.elementId = some row)
    (replaces : Replaces db next application) (same : application.id = entry.elementId)
    (own : ∀ key ∈ trackedKeys, entry.mentions key = true →
      entry.before key = row.field key ∧ entry.after key = application.field key)
    (rest : ∀ key ∈ trackedKeys, entry.mentions key = false →
      application.field key = row.field key) : Enters db next entry := by
  constructor
  · intro key tracked mentions
    obtain ⟨beforeEq, afterEq⟩ := own key tracked mentions
    obtain ⟨value, valueEq⟩ := exists_field tracked application
    refine ⟨Or.inr ?_, value, afterEq.trans valueEq, ?_⟩
    · rw [current_of_found found, beforeEq]
    · rw [current_of_replaces replaces, if_pos same, valueEq]
  · intro id key tracked other
    right
    rw [current_of_replaces replaces]
    split
    · rename_i isOwn
      obtain rfl : id = entry.elementId := isOwn.symm.trans same
      have unmentioned : entry.mentions key = false := by
        rw [AuditEntry.about, beq_self_eq_true, Bool.true_and] at other
        exact other
      rw [current_of_found found, rest key tracked unmentioned]
    · rfl

/-- A new row, with an entry about some of its columns. -/
theorem enters_of_new (absent : db.application? entry.elementId = none)
    (replaces : Replaces db next application) (same : application.id = entry.elementId)
    (own : ∀ key ∈ trackedKeys, entry.mentions key = true →
      entry.after key = application.field key) : Enters db next entry := by
  have noCurrent : ∀ key, db.current entry.elementId key = none := by
    intro key
    rw [ApplicationsDb.current, absent, Option.bind_none]
  constructor
  · intro key tracked mentions
    obtain ⟨value, valueEq⟩ := exists_field tracked application
    refine ⟨Or.inl (noCurrent key), value, (own key tracked mentions).trans valueEq, ?_⟩
    rw [current_of_replaces replaces, if_pos same, valueEq]
  · intro id key tracked other
    rw [current_of_replaces replaces]
    split
    · rename_i isOwn
      obtain rfl : id = entry.elementId := isOwn.symm.trans same
      exact Or.inl (noCurrent key)
    · exact Or.inr rfl

/-! ## Transactions -/

/-- What a transaction leaves that enters something: an entry that is accurate and goes on from what
was stored, and no other change of what is to be replayed.  The entry is about the versions of an
application, or about a new one. -/
structure Logs (db next : ApplicationsDb) (entry : AuditEntry) : Prop where
  auditLog : next.auditLog = db.auditLog ++ [entry]
  enters : Enters db next entry
  accurate : Accurate db next entry
  ofVersions : ∀ key ∈ trackedKeys, entry.mentions key = true →
    key = "currentVersion" ∨ key = "publishedVersionId" ∨
      db.application? entry.elementId = none

theorem logs_createVersion {dto : CreateApplicationVersionDto}
    (performed : db.createVersion id dto orgId actorId versionId = .ok (version, next)) :
    ∃ entry, Logs db next entry := by
  obtain ⟨application, inserted, stored, found, _, _, _, rfl, insertEq, saveEq, rfl⟩ :=
    createVersion_eq_ok performed
  obtain rfl : application.id = id := Table.key_of_get? found
  obtain ⟨_, _, _, rfl⟩ := insertVersion_eq_ok insertEq
  have again := replaces_of_save saveEq
  have log : stored.auditLog = db.auditLog := by
    obtain ⟨_, _, rfl⟩ := saveApplication_eq_ok_iff.mp saveEq
    rfl
  have replaces : Replaces db (stored.log (application.versionCreated actorId versionId))
      (application.versioned dto).row := ⟨again.own, again.others⟩
  refine ⟨application.versionCreated actorId versionId, ?_, ?_, ?_, ?_⟩
  · rw [ApplicationsDb.log, log]
  · apply enters_of_replaces found replaces rfl
    · intro key tracked mentions
      rcases trackedKeys_cases tracked with rfl | rfl | rfl | rfl
      · exact ⟨rfl, rfl⟩
      · cases mentions
      · cases mentions
      · cases mentions
    · intro key tracked mentions
      rcases trackedKeys_cases tracked with rfl | rfl | rfl | rfl
      · cases mentions
      · rfl
      · rfl
      · rfl
  · apply accurate_of_fields (fun _ => found) replaces.own
      (show "APPLICATION_VERSION_CREATED" ≠ "APPLICATION_UNPUBLISHED" by decide)
    · intro field mem stored storedEq
      rw [List.mem_singleton.mp mem] at storedEq ⊢
      cases storedEq
      rfl
    · intro field mem stored storedEq
      rcases List.mem_cons.mp mem with rfl | mem
      · cases storedEq
        rfl
      · rw [List.mem_singleton.mp mem] at storedEq
        cases storedEq
  · intro key tracked mentions
    rcases trackedKeys_cases tracked with rfl | rfl | rfl | rfl
    · exact Or.inl rfl
    · cases mentions
    · cases mentions
    · cases mentions

/-- A publication of the version that the application names already. -/
theorem logs_publishVersion {now : Nat}
    (already : ∀ application ∈ db.application? id, application.publishedVersionId = some versionId)
    (performed : db.publishVersion id versionId orgId actorId now = .ok (version, next)) :
    ∃ entry, Logs db next entry := by
  obtain ⟨application, before, found, _, _, versionFound, _, _, rfl, rfl⟩ :=
    publishVersion_eq_ok performed
  obtain rfl : application.id = id := Table.key_of_get? found
  obtain rfl : before.id = versionId := Table.key_of_get? versionFound
  have stays := already application found
  have replaces : Replaces db
      ⟨Table.put Application.id db.applications (application.publish before.id),
        Table.put ApplicationVersion.id db.versions (before.publish actorId now),
        db.auditLog ++ [application.publishedEntry before actorId]⟩
      (application.publish before.id) := replaces_of_put found
  refine ⟨application.publishedEntry before actorId, rfl, ?_, ?_, ?_⟩
  · apply enters_of_replaces found replaces rfl
    · intro key tracked mentions
      rcases trackedKeys_cases tracked with rfl | rfl | rfl | rfl
      · cases mentions
      · refine ⟨?_, rfl⟩
        rw [Application.field, stays]
        rfl
      · cases mentions
      · cases mentions
    · intro key tracked mentions
      rcases trackedKeys_cases tracked with rfl | rfl | rfl | rfl
      · rfl
      · cases mentions
      · rfl
      · rfl
  · apply accurate_of_fields (fun _ => found) replaces.own
      (show "APPLICATION_PUBLISHED" ≠ "APPLICATION_UNPUBLISHED" by decide)
    · intro field mem stored storedEq
      rw [List.mem_singleton.mp mem] at storedEq ⊢
      rw [Application.field, stays] at storedEq
      cases storedEq
      rfl
    · intro field mem stored storedEq
      rcases List.mem_cons.mp mem with rfl | mem
      · cases storedEq
        rfl
      · rw [List.mem_singleton.mp mem] at storedEq
        cases storedEq
  · intro key tracked mentions
    rcases trackedKeys_cases tracked with rfl | rfl | rfl | rfl
    · exact Or.inl rfl
    · exact Or.inr (Or.inl rfl)
    · cases mentions
    · cases mentions

/-- A duplicate under a new identifier. -/
theorem logs_duplicate {dto : DuplicateApplicationDto}
    (fresh : db.application? newId = none)
    (performed : db.duplicate id dto orgId actorId newId versionId = .ok (saved, next)) :
    ∃ entry, Logs db next entry := by
  obtain ⟨original, found, savedEq, replaces, log, _⟩ := duplicate_leaves performed
  rw [savedEq] at replaces
  refine ⟨_, log, ?_, ?_, ?_⟩
  · apply enters_of_new fresh replaces rfl
    intro key tracked mentions
    rcases trackedKeys_cases tracked with rfl | rfl | rfl | rfl
    · cases mentions
    · cases mentions
    · rfl
    · cases mentions
  · have none : (none : Option Json.Fields).isSome → db.application? newId = some original :=
      fun isSome => by cases isSome
    apply accurate_of_fields none replaces.own
      (show "APPLICATION_DUPLICATED" ≠ "APPLICATION_UNPUBLISHED" by decide)
    · intro field mem
      cases mem
    · intro field mem stored storedEq
      rcases List.mem_cons.mp mem with rfl | mem
      · cases storedEq
        rfl
      · rcases List.mem_cons.mp mem with rfl | mem
        · cases storedEq
        · rcases List.mem_cons.mp mem with rfl | mem
          · cases storedEq
            rfl
          · rw [List.mem_singleton.mp mem] at storedEq ⊢
            cases storedEq
            rfl
  · exact fun _ _ _ => Or.inr (Or.inr fresh)

/-- A draft is in no column that is to be replayed. -/
theorem keeps_saveDraftSchema {dto : SaveDraftSchemaDto}
    (performed : db.saveDraftSchema id dto orgId = .ok (saved, next)) :
    next.auditLog = db.auditLog ∧ Keeps db next := by
  obtain ⟨application, found, _, _, _, _, rfl, saveEq⟩ := saveDraftSchema_eq_ok performed
  obtain rfl : application.id = id := Table.key_of_get? found
  have replaces := replaces_of_save saveEq
  obtain ⟨_, _, rfl⟩ := saveApplication_eq_ok_iff.mp saveEq
  refine ⟨rfl, fun id key tracked => Or.inr ?_⟩
  rw [current_of_replaces replaces]
  split
  · rename_i own
    rw [← own]
    exact (current_of_found found).symm
  · rfl

/-- **A transaction that meets the condition** enters nothing and changes nothing that is to be
replayed, or enters what goes on from what was stored. -/
theorem logs_of_perform {transaction : Transaction} (trailed : transaction.Trailed db)
    (performed : transaction.perform db = .ok next) :
    (next.auditLog = db.auditLog ∧ Keeps db next) ∨ ∃ entry, Logs db next entry := by
  cases transaction with
  | saveDraftSchema id dto orgId =>
      obtain ⟨_, resultEq⟩ := exists_of_perform performed
      exact Or.inl (keeps_saveDraftSchema resultEq)
  | createVersion id dto orgId actorId versionId =>
      obtain ⟨_, resultEq⟩ := exists_of_perform performed
      exact Or.inr (logs_createVersion resultEq)
  | publishVersion id versionId orgId actorId now =>
      obtain ⟨_, resultEq⟩ := exists_of_perform performed
      exact Or.inr (logs_publishVersion trailed resultEq)
  | unpublishVersion id orgId actorId => exact trailed.elim
  | duplicate id dto orgId actorId newId versionId =>
      obtain ⟨_, resultEq⟩ := exists_of_perform performed
      exact Or.inr (logs_duplicate trailed resultEq)

/-- An entry of a transaction is about no column of which an entry is still to be entered. -/
theorem TrailInv.free_of_logs (inv : TrailInv db sessions) (logs : Logs db next entry)
    (tracked : key ∈ trackedKeys) (mentions : entry.mentions key = true) :
    (owed sessions).filter (AuditEntry.about entry.elementId key) = [] := by
  rcases logs.ofVersions key tracked mentions with rfl | rfl | absent
  · rw [List.filter_eq_nil_iff]
    intro other otherMem about
    rw [about_eq_true_iff, (inv.owing other otherMem).1] at about
    cases about.2
  · rw [List.filter_eq_nil_iff]
    intro other otherMem about
    rw [about_eq_true_iff, (inv.owing other otherMem).2] at about
    cases about.2
  · have tells := inv.tells entry.elementId key tracked
    rw [ApplicationsDb.current, absent, Option.bind_none] at tells
    have none := tells.eq_nil
    rw [List.filter_append] at none
    exact (List.append_eq_nil_iff.mp none).2

/-! ## Saves -/

/-- What a save leaves that meets the condition. -/
structure Saves (db next : ApplicationsDb) (others : List Stage) (entry : AuditEntry) : Prop where
  enters : Enters db next entry
  accurate : Accurate db next entry
  free : ∀ key ∈ trackedKeys, entry.mentions key = true →
    db.application? entry.elementId = none ∨
      ∀ other ∈ owed others, other.about entry.elementId key = false
  owing : entry.mentions "currentVersion" = false ∧ entry.mentions "publishedVersionId" = false

theorem saves_create {dto : CreateApplicationDto} {ownerId : Uuid}
    (finds : SaveFinds db others (dto.application orgId ownerId id) (dto.entry orgId ownerId id))
    (saveEq : db.saveApplication (dto.application orgId ownerId id) = .ok next) :
    Saves db next others (dto.entry orgId ownerId id) := by
  have absent : db.application? id = none := finds
  have replaces := replaces_of_save saveEq
  refine ⟨?_, ?_, fun _ _ _ => Or.inl absent, rfl, rfl⟩
  · apply enters_of_new absent replaces rfl
    intro key tracked mentions
    rcases trackedKeys_cases tracked with rfl | rfl | rfl | rfl
    · cases mentions
    · cases mentions
    · rfl
    · cases mentions
  · have none : (none : Option Json.Fields).isSome →
        db.application? id = some (dto.application orgId ownerId id) :=
      fun isSome => by cases isSome
    apply accurate_of_fields none replaces.own
      (show "APPLICATION_CREATED" ≠ "APPLICATION_UNPUBLISHED" by decide)
    · intro field mem
      cases mem
    · intro field mem stored storedEq
      rcases List.mem_cons.mp mem with rfl | mem
      · cases storedEq
        rfl
      · rcases List.mem_cons.mp mem with rfl | mem
        · cases storedEq
          rfl
        · rw [List.mem_singleton.mp mem] at storedEq ⊢
          cases storedEq
          rfl

theorem saves_update {dto : UpdateApplicationDto}
    (finds : SaveFinds db others (application.edit dto) (application.updatedEntry dto actorId))
    (saveEq : db.saveApplication (application.edit dto) = .ok next) :
    Saves db next others (application.updatedEntry dto actorId) := by
  obtain ⟨row, found, read, unchanged, free⟩ := finds
  have replaces := replaces_of_save saveEq
  have name := read _ (List.mem_cons_self ..)
  have description := read _ (List.mem_cons_of_mem _ (List.mem_singleton.mpr rfl))
  refine ⟨?_, ?_, ?_, rfl, rfl⟩
  · apply enters_of_replaces (show db.application? application.id = some row from found) replaces
      rfl
    · intro key tracked mentions
      rcases trackedKeys_cases tracked with rfl | rfl | rfl | rfl
      · cases mentions
      · cases mentions
      · exact ⟨name.symm, rfl⟩
      · exact ⟨description.symm, rfl⟩
    · intro key tracked mentions
      rcases trackedKeys_cases tracked with rfl | rfl | rfl | rfl
      · exact unchanged _ tracked rfl
      · exact unchanged _ tracked rfl
      · cases mentions
      · cases mentions
  · apply accurate_of_fields (fun _ => found) replaces.own
      (show "APPLICATION_UPDATED" ≠ "APPLICATION_UNPUBLISHED" by decide)
    · intro field mem stored storedEq
      rw [Option.mem_def, read field mem] at storedEq
      exact Option.some.inj storedEq
    · intro field mem stored storedEq
      rcases List.mem_cons.mp mem with rfl | mem
      · cases storedEq
        rfl
      · rw [List.mem_singleton.mp mem] at storedEq ⊢
        cases storedEq
        rfl
  · intro key tracked mentions
    right
    rcases trackedKeys_cases tracked with rfl | rfl | rfl | rfl
    · cases mentions
    · cases mentions
    · exact free _ tracked rfl
    · exact free _ tracked rfl

theorem saves_archive
    (finds : SaveFinds db others application.archive (application.archivedEntry actorId))
    (saveEq : db.saveApplication application.archive = .ok next) :
    Saves db next others (application.archivedEntry actorId) := by
  obtain ⟨row, found, read, unchanged, _⟩ := finds
  have replaces := replaces_of_save saveEq
  have unmentioned : ∀ key ∈ trackedKeys,
      (application.archivedEntry actorId).mentions key = false := by
    intro key tracked
    rcases trackedKeys_cases tracked with rfl | rfl | rfl | rfl <;> rfl
  refine ⟨?_, ?_, ?_, rfl, rfl⟩
  · apply enters_of_replaces (show db.application? application.id = some row from found) replaces
      rfl
    · intro key tracked mentions
      rw [unmentioned key tracked] at mentions
      cases mentions
    · intro key tracked _
      rcases trackedKeys_cases tracked with rfl | rfl | rfl | rfl
      · exact unchanged _ tracked rfl
      · exact unchanged _ tracked rfl
      · exact unchanged _ tracked rfl
      · exact unchanged _ tracked rfl
  · apply accurate_of_fields (fun _ => found) replaces.own
      (show "APPLICATION_ARCHIVED" ≠ "APPLICATION_UNPUBLISHED" by decide)
    · intro field mem stored storedEq
      rw [Option.mem_def, read field mem] at storedEq
      exact Option.some.inj storedEq
    · intro field mem stored storedEq
      rw [List.mem_singleton.mp mem] at storedEq ⊢
      cases storedEq
      rfl
  · intro key tracked mentions
    rw [unmentioned key tracked] at mentions
    cases mentions

/-- A save of what a call has prepared. -/
theorem saves_of_prepared (prepared : Prepared application entry)
    (finds : SaveFinds db others application entry)
    (saveEq : db.saveApplication application = .ok next) : Saves db next others entry := by
  cases prepared with
  | create => exact saves_create finds saveEq
  | update => exact saves_update finds saveEq
  | archive => exact saves_archive finds saveEq

theorem TrailInv.free_of_saves (inv : TrailInv db others) (saves : Saves db next others entry)
    (tracked : key ∈ trackedKeys) (mentions : entry.mentions key = true) :
    (owed others).filter (AuditEntry.about entry.elementId key) = [] := by
  rcases saves.free key tracked mentions with absent | free
  · have tells := inv.tells entry.elementId key tracked
    rw [ApplicationsDb.current, absent, Option.bind_none] at tells
    have none := tells.eq_nil
    rw [List.filter_append] at none
    exact (List.append_eq_nil_iff.mp none).2
  · rw [List.filter_eq_nil_iff]
    intro other otherMem about
    rw [free other otherMem] at about
    cases about

/-! ## Runs -/

theorem trail_advanced {choice : Unit} (inv : TrailInv db (stage :: others))
    (trailed : TrailedStep db others stage choice) (advances : Advances db stage next after) :
    TrailInv next (after :: others) := by
  cases advances with
  | refused => exact (inv.drop rfl).cons rfl fun _ _ same => by cases same
  | create dto orgId ownerId id =>
      refine (inv.drop rfl).cons rfl fun application entry same => ?_
      cases same
      exact .create dto orgId ownerId id
  | update dto _ actorId application =>
      refine (inv.drop rfl).cons rfl fun saved entry same => ?_
      cases same
      exact .update application dto actorId
  | archive _ actorId application =>
      refine (inv.drop rfl).cons rfl fun saved entry same => ?_
      cases same
      exact .archive application actorId
  | perform transaction _ performed =>
      have beside := inv.drop rfl
      have left : TrailInv next others := by
        rcases logs_of_perform (trailed (by rw [performed]; rfl)) performed with
          ⟨log, keeps⟩ | ⟨entry, logs⟩
        · exact beside.keep log keeps
        · exact beside.log logs.enters logs.auditLog fun key => beside.free_of_logs logs
      exact left.cons rfl fun _ _ same => by cases same
  | save application entry _ saveEq =>
      have prepared := inv.prepared application entry (List.mem_cons_self ..)
      have saves := saves_of_prepared prepared (trailed (by rw [saveEq]; rfl)) saveEq
      have beside := inv.drop rfl
      have log : next.auditLog = db.auditLog := by
        obtain ⟨_, _, rfl⟩ := saveApplication_eq_ok_iff.mp saveEq
        rfl
      exact beside.save saves.enters log (fun key => beside.free_of_saves saves) saves.owing
  | unsaved => exact (inv.drop rfl).cons rfl fun _ _ same => by cases same
  | enter entry => exact inv.enter.cons rfl fun _ _ same => by cases same

theorem trail_keeps : applicationsSystem.KeepsAll (fun _ => True) TrailedStep TrailInv where
  perm := fun permuted inv => inv.perm permuted
  started := fun inv _ => inv.cons rfl fun _ _ same => by cases same
  advanced := fun inv trailed advanceEq =>
    trail_advanced inv trailed (advances_of_advance advanceEq)

/-- An entry tells what one step of a run has changed. -/
def Recorded (state : Sessions.State ApplicationsDb Stage)
    (actions : List (Sessions.Action Request Unit)) (entry : AuditEntry) : Prop :=
  ∃ earlier action later middle next, actions = earlier ++ action :: later ∧
    applicationsSystem.step.run state earlier = some middle ∧
    applicationsSystem.step middle action = some next ∧ Accurate middle.store next.store entry

/-- The entries that a step adds are accurate. -/
theorem accurate_of_advances {choice : Unit} (inv : TrailInv db (stage :: others))
    (trailed : TrailedStep db others stage choice) (advances : Advances db stage next after)
    (mem : entry ∈ next.auditLog ++ owed (after :: others)) :
    entry ∈ db.auditLog ++ owed (stage :: others) ∨ Accurate db next entry := by
  cases advances with
  | refused => exact Or.inl mem
  | create => exact Or.inl mem
  | update => exact Or.inl mem
  | archive => exact Or.inl mem
  | unsaved => exact Or.inl mem
  | perform transaction _ performed =>
      rcases logs_of_perform (trailed (by rw [performed]; rfl)) performed with
        ⟨log, _⟩ | ⟨logged, logs⟩
      · rw [log] at mem
        exact Or.inl mem
      · rw [logs.auditLog, List.append_assoc] at mem
        rcases List.mem_append.mp mem with old | mem
        · exact Or.inl (List.mem_append_left _ old)
        · rcases List.mem_cons.mp mem with rfl | beside
          · exact Or.inr logs.accurate
          · exact Or.inl (List.mem_append_right _ beside)
  | save application own _ saveEq =>
      have prepared := inv.prepared application own (List.mem_cons_self ..)
      have saves := saves_of_prepared prepared (trailed (by rw [saveEq]; rfl)) saveEq
      have log : next.auditLog = db.auditLog := by
        obtain ⟨_, _, rfl⟩ := saveApplication_eq_ok_iff.mp saveEq
        rfl
      rw [log] at mem
      rcases List.mem_append.mp mem with old | mem
      · exact Or.inl (List.mem_append_left _ old)
      · rcases List.mem_cons.mp mem with rfl | beside
        · exact Or.inr saves.accurate
        · exact Or.inl (List.mem_append_right _ beside)
  | enter own =>
      rw [ApplicationsDb.log, List.append_assoc] at mem
      exact Or.inl mem

/-- The same of a step of the system. -/
theorem accurate_of_step {state reached : Sessions.State ApplicationsDb Stage}
    {action : Sessions.Action Request Unit} (inv : TrailInv state.store state.sessions)
    (met : Sessions.Guard (fun _ => True) TrailedStep state action)
    (stepEq : applicationsSystem.step state action = some reached)
    (mem : entry ∈ reached.store.auditLog ++ owed reached.sessions) :
    entry ∈ state.store.auditLog ++ owed state.sessions ∨
      Accurate state.store reached.store entry := by
  rcases Sessions.step_cases stepEq with ⟨request, rfl, rfl⟩ |
    ⟨index, choice, stage, store, after, rfl, stageEq, advanceEq, rfl⟩
  · have same : owed (state.sessions ++ [.reading request]) = owed state.sessions := by
      rw [owed, List.filterMap_append]
      exact List.append_nil _
    exact Or.inl (same ▸ mem)
  · obtain ⟨inside, rfl⟩ := List.getElem?_eq_some_iff.mp stageEq
    have before := List.getElem_cons_eraseIdx_perm inside
    have left := List.set_perm_cons_eraseIdx inside after
    have focused : entry ∈ store.auditLog ++ owed (after :: state.sessions.eraseIdx index) :=
      ((left.filterMap _).append_left _).mem_iff.mp mem
    rcases accurate_of_advances (inv.perm before.symm) (met _ stageEq)
      (advances_of_advance advanceEq) focused with old | accurate
    · exact Or.inl (((before.filterMap _).append_left _).mem_iff.mp old)
    · exact Or.inr accurate

/-- Every entry of a run tells what a step of the run has changed. -/
theorem recorded_of_run {state reached : Sessions.State ApplicationsDb Stage}
    {actions : List (Sessions.Action Request Unit)} (inv : TrailInv state.store state.sessions)
    (met : applicationsSystem.step.Meets (Sessions.Guard (fun _ => True) TrailedStep) state actions)
    (runEq : applicationsSystem.step.run state actions = some reached)
    (mem : entry ∈ reached.store.auditLog ++ owed reached.sessions) :
    entry ∈ state.store.auditLog ++ owed state.sessions ∨ Recorded state actions entry := by
  induction actions generalizing state with
  | nil =>
      cases runEq
      exact Or.inl mem
  | cons action rest ih =>
      obtain ⟨next, stepEq, restEq⟩ := Step.run_cons_eq_some_iff.mp runEq
      have invNext := trail_keeps.step inv met.1 stepEq
      rcases ih invNext (met.2 next stepEq) restEq with old | recorded
      · rcases accurate_of_step inv met.1 stepEq old with older | accurate
        · exact Or.inl older
        · exact Or.inr ⟨[], action, rest, state, next, rfl, rfl, stepEq, accurate⟩
      · obtain ⟨earlier, other, later, middle, target, split, earlierEq, otherEq, accurate⟩ :=
          recorded
        refine Or.inr ⟨action :: earlier, other, later, middle, target, by rw [split]; rfl, ?_,
          otherEq, accurate⟩
        exact Step.run_cons_eq_some_iff.mpr ⟨next, stepEq, earlierEq⟩

instance (db : ApplicationsDb) (others : List Stage) (application : Application)
    (entry : AuditEntry) : Decidable (SaveFinds db others application entry) :=
  match stateEq : entry.beforeState with
  | none => decidable_of_iff (db.application? application.id = none) (by rw [SaveFinds, stateEq])
  | some fields =>
      match found : db.application? application.id with
      | none => .isFalse (by
          rw [SaveFinds, stateEq]
          rintro ⟨row, rowEq, _⟩
          rw [found] at rowEq
          cases rowEq)
      | some row =>
          decidable_of_iff
            ((∀ field ∈ fields, row.field field.1 = some field.2) ∧
              (∀ key ∈ trackedKeys, entry.before key = none →
                application.field key = row.field key) ∧
              ∀ key ∈ trackedKeys, (entry.before key).isSome → ∀ other ∈ owed others,
                other.about application.id key = false)
            (by
              rw [SaveFinds, stateEq]
              constructor
              · exact fun finds => ⟨row, found, finds⟩
              · rintro ⟨other, otherEq, finds⟩
                rw [found] at otherEq
                cases otherEq
                exact finds)

instance (db : ApplicationsDb) (transaction : Transaction) : Decidable (transaction.Trailed db) :=
  match transaction with
  | .saveDraftSchema _ _ _ => .isTrue trivial
  | .createVersion _ _ _ _ _ => .isTrue trivial
  | .publishVersion id versionId _ _ _ =>
      inferInstanceAs (Decidable (∀ application ∈ db.application? id,
        application.publishedVersionId = some versionId))
  | .unpublishVersion _ _ _ => .isFalse fun trailed => trailed
  | .duplicate _ _ _ _ newId _ => inferInstanceAs (Decidable (db.application? newId = none))

instance (db : ApplicationsDb) (others : List Stage) (stage : Stage) (choice : Unit) :
    Decidable (TrailedStep db others stage choice) :=
  match stage, choice with
  | .reading (.transact transaction), _ =>
      inferInstanceAs (Decidable ((transaction.perform db).isOk = true → transaction.Trailed db))
  | .saving application entry, _ =>
      inferInstanceAs (Decidable ((db.saveApplication application).isOk = true →
        SaveFinds db others application entry))
  | .reading (.create _ _ _ _), _ => .isTrue trivial
  | .reading (.update _ _ _ _), _ => .isTrue trivial
  | .reading (.archive _ _ _), _ => .isTrue trivial
  | .entering _, _ => .isTrue trivial
  | .answered _, _ => .isTrue trivial

/-- Tables without rows. -/
def exampleEmpty : Sessions.State ApplicationsDb Stage := ⟨⟨[], [], []⟩, []⟩

theorem exampleEmpty_replayable : exampleEmpty.store.Replayable :=
  fun _ _ _ => Tells.nil

/-- An application is created, updated and gets a version. -/
def exampleUpdated : List (Sessions.Action Request Unit) :=
  [.start (.create ⟨"Shop", none, uuid "p"⟩ (uuid "o") (uuid "u") (uuid "a1")), .advance 0 (),
    .advance 0 (), .advance 0 (),
    .start (.update (uuid "a1") ⟨some (some "Store"), none⟩ (uuid "o") (uuid "u")), .advance 1 (),
    .advance 1 (), .advance 1 ()] ++
  exampleTransacts 2 (.createVersion (uuid "a1") ⟨"1.0.0", [], none⟩ (uuid "o") (uuid "u")
    (uuid "v1"))

/-- The version is published. -/
def examplePublished : List (Sessions.Action Request Unit) :=
  exampleUpdated ++
    exampleTransacts 3 (.publishVersion (uuid "a1") (uuid "v1") (uuid "o") (uuid "u") 1)

/-- The version is published and unpublished. -/
def exampleUnpublished : List (Sessions.Action Request Unit) :=
  examplePublished ++ exampleTransacts 4 (.unpublishVersion (uuid "a1") (uuid "o") (uuid "u"))

/-- What a run leaves in a column of the application. -/
def currentAfter (key : String) (actions : List (Sessions.Action Request Unit)) : Option Json :=
  (applicationsSystem.step.run exampleEmpty actions).bind fun reached =>
    reached.store.current (uuid "a1") key

/-- What the last entry of a run says of a column before its call. -/
def lastBefore (key : String) (actions : List (Sessions.Action Request Unit)) : Option Json :=
  (applicationsSystem.step.run exampleEmpty actions).bind fun reached =>
    reached.store.auditLog.getLast?.bind (·.before key)

instance (id : Uuid) (key : String) (auditLog : List AuditEntry) :
    Decidable (Chained id key auditLog) :=
  inferInstanceAs (Decidable ((auditLog.filter (AuditEntry.about id key)).IsChain
    fun first second => second.before key = first.after key))

/-- The entries that a run leaves about the published version go on from each other. -/
def chainedAfter (actions : List (Sessions.Action Request Unit)) : Option Bool :=
  (applicationsSystem.step.run exampleEmpty actions).map fun reached =>
    decide (Chained (uuid "a1") "publishedVersionId" reached.store.auditLog)

end Manbaa.Applications
