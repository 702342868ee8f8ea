import Manbaa.Applications.Steps

/-!
# The published version

An application points to its published version, and every version has a flag of its own.  The two
stay in step exactly as long as a version is published only while none is, and a save leaves the
pointer that its row has; a version that is published over another one leaves the flag of that one.
-/

namespace Manbaa.Applications

open Manbaa.Lib

/-- The published version of an application, as its row points to it. -/
def ApplicationsDb.pointer (db : ApplicationsDb) (id : Uuid) : Option Uuid :=
  (db.application? id).bind Application.publishedVersionId

/-- Exactly the published version is marked published; at most one is, and every other version of
an application that is not archived can be published. -/
structure ApplicationsDb.OnePublished (db : ApplicationsDb) : Prop where
  flag_iff : ∀ application ∈ db.applications, ∀ version ∈ db.versions,
    version.applicationId = application.id →
      (version.isPublished = true ↔ application.publishedVersionId = some version.id)
  unique : ∀ first ∈ db.versions, ∀ second ∈ db.versions,
    first.applicationId = second.applicationId → first.isPublished = true →
      second.isPublished = true → first = second
  again : ∀ application ∈ db.applications, application.status ≠ .archived →
    ∀ version ∈ db.versions, version.applicationId = application.id →
      application.publishedVersionId ≠ some version.id → ∀ actorId now, ∃ published next,
        db.publishVersion application.id version.id application.orgId actorId now =
          .ok (published, next)

/-- Pointers and flags are in step, and every version belongs to an application. -/
structure ApplicationsDb.InStep (db : ApplicationsDb) : Prop where
  applications : Table.Keyed Application.id db.applications
  versions : Table.Keyed ApplicationVersion.id db.versions
  belongs : ∀ version ∈ db.versions, ∃ application,
    db.application? version.applicationId = some application
  marked : ∀ id versionId, db.pointer id = some versionId → ∃ version ∈ db.versions,
    version.id = versionId ∧ version.applicationId = id ∧ version.isPublished = true
  flagged : ∀ version ∈ db.versions, version.isPublished = true →
    db.pointer version.applicationId = some version.id

/-- A version is published only while none is; a new application takes the place of none with a
published version. -/
def Transaction.PublishesAlone (db : ApplicationsDb) : Transaction → Prop
  | .publishVersion id _ _ _ _ => db.pointer id = none
  | .duplicate _ _ _ _ newId _ => db.pointer newId = none
  | .saveDraftSchema _ _ _ => True
  | .createVersion _ _ _ _ _ => True
  | .unpublishVersion _ _ _ => True

/-- A step that succeeds publishes alone, or saves the pointer that the row has. -/
def PublishesAloneStep (db : ApplicationsDb) (_ : List Stage) : Stage → Unit → Prop
  | .reading (.transact transaction), _ =>
      (transaction.perform db).isOk = true → transaction.PublishesAlone db
  | .saving application _, _ => (db.saveApplication application).isOk = true →
      db.pointer application.id = application.publishedVersionId
  | _, _ => True

/-- The version that a save will point to is one of the application. -/
def PointsToVersion (db : ApplicationsDb) (stage : Stage) : Prop :=
  ∀ application entry, stage = .saving application entry → ∀ versionId,
    application.publishedVersionId = some versionId → ∃ version ∈ db.versions,
      version.id = versionId ∧ version.applicationId = application.id

/-- No version is lost. -/
def Grows (db next : ApplicationsDb) : Prop :=
  ∀ version ∈ db.versions, ∃ other ∈ next.versions,
    other.id = version.id ∧ other.applicationId = version.applicationId

variable {db next : ApplicationsDb} {id orgId actorId versionId newId : Uuid}
  {application saved row : Application} {version published : ApplicationVersion} {stage : Stage}

/-! ## Pointers -/

theorem pointer_of_found (found : db.application? id = some application) :
    db.pointer id = application.publishedVersionId := by
  rw [ApplicationsDb.pointer, found, Option.bind_some]

theorem Replaces.pointer (replaces : Replaces db next application) (id : Uuid) :
    next.pointer id =
      if id = application.id then application.publishedVersionId else db.pointer id := by
  split
  · rename_i isOwn
    rw [isOwn, pointer_of_found replaces.own]
  · rename_i isOther
    rw [ApplicationsDb.pointer, replaces.others id isOther]
    rfl

theorem Replaces.kept (replaces : Replaces db next application)
    (found : ∃ row, db.application? id = some row) : ∃ row, next.application? id = some row := by
  by_cases isOwn : id = application.id
  · exact ⟨application, isOwn ▸ replaces.own⟩
  · rw [replaces.others id isOwn]
    exact found

/-- Where an application and a version of it disagree, more or less than the published version is
marked. -/
theorem not_onePublished (found : db.application? id = some application)
    (versionMem : version ∈ db.versions) (belongs : version.applicationId = id)
    (differ : ¬ (version.isPublished = true ↔ application.publishedVersionId = some version.id)) :
    ¬ db.OnePublished := by
  intro onePublished
  obtain rfl : application.id = id := Table.key_of_get? found
  exact differ (onePublished.flag_iff application (Table.mem_of_get? found) version versionMem
    belongs)

theorem ApplicationsDb.InStep.onePublished (inStep : db.InStep) : db.OnePublished where
  flag_iff := by
    intro application applicationMem version versionMem belongs
    rw [← pointer_of_found (inStep.applications.get?_of_mem applicationMem), ← belongs]
    constructor
    · exact inStep.flagged version versionMem
    · intro pointed
      obtain ⟨other, otherMem, sameId, _, isPublished⟩ := inStep.marked _ _ pointed
      rwa [inStep.versions.eq otherMem versionMem sameId] at isPublished
  unique := by
    intro first firstMem second secondMem same firstPublished secondPublished
    have firstPointed := inStep.flagged first firstMem firstPublished
    have secondPointed := inStep.flagged second secondMem secondPublished
    rw [same, secondPointed] at firstPointed
    exact inStep.versions.eq firstMem secondMem (Option.some.inj firstPointed).symm
  again := by
    intro application applicationMem isOpen version versionMem belongs unpointed actorId now
    have found := inStep.applications.get?_of_mem applicationMem
    have unpublished : version.isPublished = false := by
      rw [Bool.eq_false_iff]
      intro isPublished
      have pointed := inStep.flagged version versionMem isPublished
      rw [belongs, pointer_of_found found] at pointed
      exact unpointed pointed
    have locked (message : String) :
        db.lockOpen application.id application.orgId message = .ok application :=
      lockOpen_eq_ok_iff.mpr ⟨found, rfl, isOpen⟩
    have versionFound : (db.version? version.id).filter (fun version =>
        version.applicationId == application.id) = some version := by
      rw [Option.filter_eq_some_iff, beq_iff_eq]
      exact ⟨inStep.versions.get?_of_mem versionMem, belongs⟩
    rw [ApplicationsDb.publishVersion, locked, ok_bind, versionFound,
      lookUp_eq_ok_iff.mpr rfl, ok_bind, unpublished]
    exact ⟨_, _, rfl⟩

/-! ## Statements -/

theorem ApplicationsDb.InStep.log (inStep : db.InStep) (entry : AuditEntry) :
    (db.log entry).InStep :=
  ⟨inStep.applications, inStep.versions, inStep.belongs, inStep.marked, inStep.flagged⟩

theorem ApplicationsDb.InStep.save (inStep : db.InStep)
    (same : db.pointer application.id = application.publishedVersionId)
    (saveEq : db.saveApplication application = .ok next) : next.InStep := by
  have replaces := replaces_of_save saveEq
  have pointers (id : Uuid) : next.pointer id = db.pointer id := by
    rw [replaces.pointer]
    split
    · rename_i isOwn
      rw [isOwn]
      exact same.symm
    · rfl
  obtain ⟨_, _, rfl⟩ := saveApplication_eq_ok_iff.mp saveEq
  refine ⟨Table.keyed_save inStep.applications, inStep.versions, ?_, ?_, ?_⟩
  · intro version versionMem
    exact replaces.kept (inStep.belongs version versionMem)
  · intro id versionId pointed
    exact inStep.marked id versionId ((pointers id).symm.trans pointed)
  · intro version versionMem isPublished
    rw [pointers]
    exact inStep.flagged version versionMem isPublished

theorem ApplicationsDb.InStep.insert (inStep : db.InStep) (unpublished : version.isPublished = false)
    (insertEq : db.insertVersion version = .ok next) : next.InStep := by
  obtain ⟨new, _, owner, rfl⟩ := insertVersion_eq_ok insertEq
  refine ⟨inStep.applications, Table.keyed_append inStep.versions new, ?_, ?_, ?_⟩
  · intro other otherMem
    rcases List.mem_append.mp otherMem with old | isNew
    · exact inStep.belongs other old
    · rw [List.mem_singleton.mp isNew]
      exact owner
  · intro id versionId pointed
    obtain ⟨other, otherMem, holds⟩ := inStep.marked id versionId pointed
    exact ⟨other, List.mem_append_left _ otherMem, holds⟩
  · intro other otherMem isPublished
    rcases List.mem_append.mp otherMem with old | isNew
    · exact inStep.flagged other old isPublished
    · rw [List.mem_singleton.mp isNew] at isPublished
      cases unpublished.symm.trans isPublished

/-! ## Transactions -/

theorem ApplicationsDb.InStep.saveDraftSchema (inStep : db.InStep) {dto : SaveDraftSchemaDto}
    (performed : db.saveDraftSchema id dto orgId = .ok (saved, next)) : next.InStep := by
  obtain ⟨application, found, _, _, _, _, rfl, saveEq⟩ := saveDraftSchema_eq_ok performed
  obtain rfl : application.id = id := Table.key_of_get? found
  have same : db.pointer application.id = application.publishedVersionId :=
    pointer_of_found found
  refine inStep.save ?_ saveEq
  exact same

theorem ApplicationsDb.InStep.createVersion (inStep : db.InStep)
    {dto : CreateApplicationVersionDto}
    (performed : db.createVersion id dto orgId actorId versionId = .ok (version, next)) :
    next.InStep := by
  obtain ⟨application, inserted, stored, found, _, _, _, rfl, insertEq, saveEq, rfl⟩ :=
    createVersion_eq_ok performed
  obtain rfl : application.id = id := Table.key_of_get? found
  have between := inStep.insert rfl insertEq
  have stillFound : inserted.application? application.id = some application := by
    obtain ⟨_, _, _, rfl⟩ := insertVersion_eq_ok insertEq
    exact found
  have same : inserted.pointer application.id = application.publishedVersionId :=
    pointer_of_found stillFound
  refine (between.save ?_ saveEq).log _
  exact same

theorem ApplicationsDb.InStep.publishVersion (inStep : db.InStep) (none_before : db.pointer id = none)
    {now : Nat}
    (performed : db.publishVersion id versionId orgId actorId now = .ok (published, next)) :
    next.InStep := by
  obtain ⟨application, version, found, _, _, versionFound, belongs, _, rfl, nextEq⟩ :=
    publishVersion_eq_ok performed
  obtain rfl : application.id = id := Table.key_of_get? found
  obtain rfl : version.id = versionId := Table.key_of_get? versionFound
  have versionMem := Table.mem_of_get? versionFound
  have replaces : Replaces db next (application.publish version.id) :=
    nextEq ▸ replaces_of_put found
  have pointers := replaces.pointer
  obtain rfl := nextEq
  refine ⟨Table.keyed_put inStep.applications, Table.keyed_put inStep.versions, ?_, ?_, ?_⟩
  · intro other otherMem
    rcases Table.mem_put_iff.mp otherMem with ⟨rfl, _⟩ | ⟨old, _⟩
    · exact replaces.kept (inStep.belongs version versionMem)
    · exact replaces.kept (inStep.belongs other old)
  · intro id pointed pointedEq
    rw [pointers] at pointedEq
    split at pointedEq
    · rename_i isOwn
      obtain rfl := Option.some.inj pointedEq
      exact ⟨_, Table.mem_put_iff.mpr (Or.inl ⟨rfl, version, versionMem, rfl⟩), rfl,
        belongs.trans isOwn.symm, rfl⟩
    · rename_i isOther
      obtain ⟨other, otherMem, sameId, ofOther, isPublished⟩ := inStep.marked id pointed pointedEq
      refine ⟨other, Table.mem_put_iff.mpr (Or.inr ⟨otherMem, fun same => isOther ?_⟩), sameId,
        ofOther, isPublished⟩
      rw [← ofOther, inStep.versions.eq otherMem versionMem same]
      exact belongs
  · intro other otherMem isPublished
    rw [pointers]
    rcases Table.mem_put_iff.mp otherMem with ⟨rfl, _⟩ | ⟨old, _⟩
    · exact if_pos belongs
    · have pointed := inStep.flagged other old isPublished
      have isOther : other.applicationId ≠ application.id := by
        intro isOwn
        rw [isOwn, none_before] at pointed
        cases pointed
      exact (if_neg isOther).trans pointed

theorem ApplicationsDb.InStep.unpublishVersion (inStep : db.InStep)
    (performed : db.unpublishVersion id orgId actorId = .ok (saved, next)) : next.InStep := by
  obtain ⟨application, versionId, found, _, _, pointsTo, rfl, nextEq⟩ :=
    unpublishVersion_eq_ok performed
  obtain rfl : application.id = id := Table.key_of_get? found
  have pointed : db.pointer application.id = some versionId :=
    (pointer_of_found found).trans pointsTo
  obtain ⟨version, versionMem, rfl, belongs, _⟩ := inStep.marked _ _ pointed
  have versionFound : db.version? version.id = some version :=
    inStep.versions.get?_of_mem versionMem
  rw [ApplicationsDb.retract, versionFound] at nextEq
  have replaces : Replaces db next application.unpublish := nextEq ▸ replaces_of_put found
  have pointers := replaces.pointer
  obtain rfl := nextEq
  refine ⟨Table.keyed_put inStep.applications, Table.keyed_put inStep.versions, ?_, ?_, ?_⟩
  · intro other otherMem
    rcases Table.mem_put_iff.mp otherMem with ⟨rfl, _⟩ | ⟨old, _⟩
    · exact replaces.kept (inStep.belongs version versionMem)
    · exact replaces.kept (inStep.belongs other old)
  · intro id stillPointed stillEq
    rw [pointers] at stillEq
    split at stillEq
    · cases stillEq
    · rename_i isOther
      obtain ⟨other, otherMem, sameId, ofOther, isPublished⟩ := inStep.marked id _ stillEq
      refine ⟨other, Table.mem_put_iff.mpr (Or.inr ⟨otherMem, fun same => isOther ?_⟩), sameId,
        ofOther, isPublished⟩
      rw [← ofOther, inStep.versions.eq otherMem versionMem same]
      exact belongs
  · intro other otherMem isPublished
    rw [pointers]
    rcases Table.mem_put_iff.mp otherMem with ⟨rfl, _⟩ | ⟨old, isOtherVersion⟩
    · cases isPublished
    · have otherPointed := inStep.flagged other old isPublished
      have isOther : other.applicationId ≠ application.id := by
        intro isOwn
        rw [isOwn, pointed] at otherPointed
        exact isOtherVersion (Option.some.inj otherPointed).symm
      exact (if_neg isOther).trans otherPointed

theorem ApplicationsDb.InStep.duplicate (inStep : db.InStep) (new : db.pointer newId = none)
    {dto : DuplicateApplicationDto}
    (performed : db.duplicate id dto orgId actorId newId versionId = .ok (saved, next)) :
    next.InStep := by
  obtain ⟨original, stored, filled, _, _, _, _, saveEq, copyEq, rfl⟩ := duplicate_eq_ok performed
  have copied : stored.InStep := inStep.save new saveEq
  apply ApplicationsDb.InStep.log
  rcases copyVersion_eq_ok copyEq with ⟨_, _, rfl⟩ | ⟨_, inserted, _, insertEq, rfl, againEq⟩
  · exact copied
  · have between := copied.insert rfl insertEq
    have stored : inserted.pointer newId = none := by
      obtain ⟨_, _, _, rfl⟩ := insertVersion_eq_ok insertEq
      exact pointer_of_found (replaces_of_save saveEq).own
    exact between.save stored againEq

/-- A transaction that publishes alone keeps pointers and flags in step. -/
theorem ApplicationsDb.InStep.perform (inStep : db.InStep) {transaction : Transaction}
    (alone : transaction.PublishesAlone db) (performed : transaction.perform db = .ok next) :
    next.InStep := by
  cases transaction with
  | saveDraftSchema id dto orgId =>
      obtain ⟨_, resultEq⟩ := exists_of_perform performed
      exact inStep.saveDraftSchema resultEq
  | createVersion id dto orgId actorId versionId =>
      obtain ⟨_, resultEq⟩ := exists_of_perform performed
      exact inStep.createVersion resultEq
  | publishVersion id versionId orgId actorId now =>
      obtain ⟨_, resultEq⟩ := exists_of_perform performed
      exact inStep.publishVersion alone resultEq
  | unpublishVersion id orgId actorId =>
      obtain ⟨_, resultEq⟩ := exists_of_perform performed
      exact inStep.unpublishVersion resultEq
  | duplicate id dto orgId actorId newId versionId =>
      obtain ⟨_, resultEq⟩ := exists_of_perform performed
      exact inStep.duplicate alone resultEq

/-! ## Versions are kept -/

theorem grows_refl (db : ApplicationsDb) : Grows db db :=
  fun version versionMem => ⟨version, versionMem, rfl, rfl⟩

theorem grows_of_versions (same : next.versions = db.versions) : Grows db next := by
  intro version versionMem
  rw [same]
  exact ⟨version, versionMem, rfl, rfl⟩

theorem grows_append {inserted : ApplicationVersion}
    (same : next.versions = db.versions ++ [inserted]) : Grows db next := by
  intro version versionMem
  rw [same]
  exact ⟨version, List.mem_append_left _ versionMem, rfl, rfl⟩

theorem grows_put (keyed : Table.Keyed ApplicationVersion.id db.versions)
    (versionMem : version ∈ db.versions) (sameId : published.id = version.id)
    (belongs : published.applicationId = version.applicationId)
    (same : next.versions = Table.put ApplicationVersion.id db.versions published) :
    Grows db next := by
  intro other otherMem
  rw [same]
  by_cases isOwn : other.id = version.id
  · rw [keyed.eq otherMem versionMem isOwn]
    exact ⟨published, Table.mem_put_iff.mpr (Or.inl ⟨rfl, version, versionMem, sameId.symm⟩),
      sameId, belongs⟩
  · exact ⟨other, Table.mem_put_iff.mpr (Or.inr ⟨otherMem, sameId ▸ isOwn⟩), rfl, rfl⟩

theorem grows_save (saveEq : db.saveApplication application = .ok next) : Grows db next := by
  obtain ⟨_, _, rfl⟩ := saveApplication_eq_ok_iff.mp saveEq
  exact grows_of_versions rfl

/-- A transaction loses no version. -/
theorem grows_perform (inStep : db.InStep) {transaction : Transaction}
    (performed : transaction.perform db = .ok next) : Grows db next := by
  cases transaction with
  | saveDraftSchema id dto orgId =>
      obtain ⟨_, resultEq⟩ := exists_of_perform performed
      obtain ⟨_, _, _, _, _, _, _, saveEq⟩ := saveDraftSchema_eq_ok resultEq
      exact grows_save saveEq
  | createVersion id dto orgId actorId versionId =>
      obtain ⟨_, resultEq⟩ := exists_of_perform performed
      obtain ⟨_, _, _, _, _, _, _, _, insertEq, saveEq, rfl⟩ := createVersion_eq_ok resultEq
      obtain ⟨_, _, _, rfl⟩ := insertVersion_eq_ok insertEq
      obtain ⟨_, _, rfl⟩ := saveApplication_eq_ok_iff.mp saveEq
      exact grows_append rfl
  | publishVersion id versionId orgId actorId now =>
      obtain ⟨_, resultEq⟩ := exists_of_perform performed
      obtain ⟨_, version, _, _, _, versionFound, _, _, rfl, rfl⟩ :=
        publishVersion_eq_ok resultEq
      refine grows_put inStep.versions (Table.mem_of_get? versionFound) ?_ ?_ rfl
      · rfl
      · rfl
  | unpublishVersion id orgId actorId =>
      obtain ⟨_, resultEq⟩ := exists_of_perform performed
      obtain ⟨_, versionId, _, _, _, _, rfl, rfl⟩ := unpublishVersion_eq_ok resultEq
      cases versionFound : db.version? versionId with
      | none =>
          apply grows_of_versions
          rw [ApplicationsDb.retract, versionFound]
      | some version =>
          have same : db.retract versionId = Table.put ApplicationVersion.id db.versions
              { version with isPublished := false } := by
            rw [ApplicationsDb.retract, versionFound]
          refine grows_put inStep.versions (Table.mem_of_get? versionFound) ?_ ?_ same
          · rfl
          · rfl
  | duplicate id dto orgId actorId newId versionId =>
      obtain ⟨_, resultEq⟩ := exists_of_perform performed
      obtain ⟨_, _, _, _, _, same | ⟨_, inserted, _, _, _, _, _, appended⟩⟩ :=
        duplicate_leaves resultEq
      · exact grows_of_versions same
      · exact grows_append appended

theorem PointsToVersion.grows (pointsTo : PointsToVersion db stage) (grows : Grows db next) :
    PointsToVersion next stage := by
  intro application entry isSaving versionId pointed
  obtain ⟨version, versionMem, sameId, belongs⟩ :=
    pointsTo application entry isSaving versionId pointed
  obtain ⟨other, otherMem, otherId, otherBelongs⟩ := grows version versionMem
  exact ⟨other, otherMem, otherId.trans sameId, otherBelongs.trans belongs⟩

theorem pointsToVersion_answered (failure : Option Failure) :
    PointsToVersion db (.answered failure) :=
  fun _ _ isSaving => (by cases isSaving)

theorem pointsToVersion_entering (entry : AuditEntry) : PointsToVersion db (.entering entry) :=
  fun _ _ isSaving => (by cases isSaving)

/-- A row that has been read points to a version, also after other columns have changed. -/
theorem pointsToVersion_saving (inStep : db.InStep) {entry : AuditEntry}
    (found : db.application? application.id = some application)
    (sameId : saved.id = application.id)
    (samePointer : saved.publishedVersionId = application.publishedVersionId) :
    PointsToVersion db (.saving saved entry) := by
  intro other entry isSaving versionId pointed
  cases isSaving
  rw [samePointer, ← pointer_of_found found] at pointed
  obtain ⟨version, versionMem, versionEq, belongs, _⟩ := inStep.marked _ _ pointed
  exact ⟨version, versionMem, versionEq, belongs.trans sameId.symm⟩

/-! ## Runs -/

theorem inStep_keeps : applicationsSystem.Keeps (fun _ => True) PublishesAloneStep
    ApplicationsDb.InStep PointsToVersion (fun _ _ => True) where
  started := by
    intro db request inStep _
    refine ⟨inStep, fun _ pointsTo => pointsTo, fun session sessionMem => ⟨?_, fun _ =>
      ⟨trivial, trivial⟩⟩⟩
    cases sessionMem
    intro application entry isSaving
    cases isSaving
  advanced := by
    intro db others stage choice next after leaves alone advanceEq
    have inStep := leaves.holds
    have beside (grows : Grows db next) : ∀ other ∈ others, PointsToVersion next other :=
      fun other otherMem => (leaves.beside other otherMem).grows grows
    have parts : ∀ other ∈ others, True ∧ True := fun _ _ => ⟨trivial, trivial⟩
    cases advances_of_advance advanceEq with
    | refused => exact ⟨inStep, pointsToVersion_answered _, leaves.beside, parts⟩
    | create =>
        refine ⟨inStep, ?_, leaves.beside, parts⟩
        intro application entry isSaving versionId pointed
        cases isSaving
        cases pointed
    | update dto _ _ application found =>
        exact ⟨inStep, pointsToVersion_saving inStep found rfl rfl, leaves.beside, parts⟩
    | archive _ _ application found =>
        exact ⟨inStep, pointsToVersion_saving inStep found rfl rfl, leaves.beside, parts⟩
    | perform transaction _ performed =>
        exact ⟨inStep.perform (alone (by rw [performed]; rfl)) performed,
          pointsToVersion_answered _, beside (grows_perform inStep performed), parts⟩
    | save application entry _ saveEq =>
        exact ⟨inStep.save (alone (by rw [saveEq]; rfl)) saveEq, pointsToVersion_entering entry,
          beside (grows_save saveEq), parts⟩
    | unsaved => exact ⟨inStep, pointsToVersion_answered _, leaves.beside, parts⟩
    | enter entry =>
        exact ⟨inStep.log entry, pointsToVersion_answered _, beside (grows_refl db), parts⟩

/-! ## Steps that do not publish alone -/

theorem publishVersion_violates (inStep : db.InStep) {now : Nat} (other : db.pointer id ≠ none)
    (performed : db.publishVersion id versionId orgId actorId now = .ok (published, next)) :
    ¬ next.OnePublished := by
  obtain ⟨application, version, found, _, _, versionFound, _, unpublished, rfl, nextEq⟩ :=
    publishVersion_eq_ok performed
  obtain rfl : application.id = id := Table.key_of_get? found
  obtain rfl : version.id = versionId := Table.key_of_get? versionFound
  obtain ⟨oldId, pointed⟩ := Option.ne_none_iff_exists'.mp other
  obtain ⟨old, oldMem, rfl, belongs, isPublished⟩ := inStep.marked _ _ pointed
  have isOther : old.id ≠ version.id := by
    intro same
    rw [inStep.versions.eq oldMem (Table.mem_of_get? versionFound) same, unpublished] at isPublished
    cases isPublished
  have replaces : Replaces db next (application.publish version.id) :=
    nextEq ▸ replaces_of_put found
  have oldKept : old ∈ next.versions := by
    rw [nextEq]
    exact Table.mem_put_iff.mpr (Or.inr ⟨oldMem, isOther⟩)
  refine not_onePublished replaces.own oldKept belongs fun same => ?_
  exact isOther (Option.some.inj (same.mp isPublished)).symm

theorem duplicate_violates (inStep : db.InStep) {dto : DuplicateApplicationDto}
    (other : db.pointer newId ≠ none)
    (performed : db.duplicate id dto orgId actorId newId versionId = .ok (saved, next)) :
    ¬ next.OnePublished := by
  obtain ⟨original, _, savedEq, replaces, _, versionsEq⟩ := duplicate_leaves performed
  obtain ⟨oldId, pointed⟩ := Option.ne_none_iff_exists'.mp other
  obtain ⟨old, oldMem, rfl, belongs, isPublished⟩ := inStep.marked _ _ pointed
  have oldKept : old ∈ next.versions := by
    rcases versionsEq with same | ⟨_, _, _, _, _, _, _, appended⟩
    · rw [same]
      exact oldMem
    · rw [appended]
      exact List.mem_append_left _ oldMem
  have own := replaces.own
  rw [savedEq] at own
  refine not_onePublished own oldKept belongs fun same => ?_
  cases same.mp isPublished

theorem perform_violates (inStep : db.InStep) {transaction : Transaction}
    (together : ¬ transaction.PublishesAlone db) (performed : transaction.perform db = .ok next) :
    ¬ next.OnePublished := by
  cases transaction with
  | publishVersion id versionId orgId actorId now =>
      obtain ⟨_, resultEq⟩ := exists_of_perform performed
      exact publishVersion_violates inStep together resultEq
  | duplicate id dto orgId actorId newId versionId =>
      obtain ⟨_, resultEq⟩ := exists_of_perform performed
      exact duplicate_violates inStep together resultEq
  | saveDraftSchema id dto orgId => exact absurd trivial together
  | createVersion id dto orgId actorId versionId => exact absurd trivial together
  | unpublishVersion id orgId actorId => exact absurd trivial together

theorem save_violates (inStep : db.InStep) {entry : AuditEntry}
    (pointsTo : PointsToVersion db (.saving application entry))
    (other : db.pointer application.id ≠ application.publishedVersionId)
    (saveEq : db.saveApplication application = .ok next) : ¬ next.OnePublished := by
  have replaces := replaces_of_save saveEq
  have sameVersions : next.versions = db.versions := by
    obtain ⟨_, _, rfl⟩ := saveApplication_eq_ok_iff.mp saveEq
    rfl
  cases pointed : db.pointer application.id with
  | some oldId =>
      obtain ⟨old, oldMem, rfl, belongs, isPublished⟩ := inStep.marked _ _ pointed
      refine not_onePublished replaces.own (sameVersions ▸ oldMem) belongs fun same => ?_
      exact other (pointed.trans (same.mp isPublished).symm)
  | none =>
      obtain ⟨versionId, saved⟩ := Option.ne_none_iff_exists'.mp (pointed ▸ other).symm
      obtain ⟨version, versionMem, rfl, belongs⟩ := pointsTo application entry rfl versionId saved
      refine not_onePublished replaces.own (sameVersions ▸ versionMem) belongs fun same => ?_
      have flagged := inStep.flagged version versionMem (same.mpr saved)
      rw [belongs, pointed] at flagged
      cases flagged

/-- **Exactly the published version is marked published** in every state of a run of calls beside
each other, just when every version is published while none is and every save leaves the pointer
of its row. -/
theorem one_published_iff {state reached : Sessions.State ApplicationsDb Stage}
    {actions : List (Sessions.Action Request Unit)} (inStep : state.store.InStep)
    (quiet : state.sessions = [])
    (runEq : applicationsSystem.step.run state actions = some reached) :
    applicationsSystem.step.Always (fun state => state.store.OnePublished) state actions ↔
      applicationsSystem.step.Meets (Sessions.Guard (fun _ => True) PublishesAloneStep) state
        actions := by
  apply inStep_keeps.always_iff_meets ?_ ?_ (.of_no_sessions inStep quiet) runEq
  · exact fun _ => ApplicationsDb.InStep.onePublished
  · intro db others stage choice next after leaves alone advanceEq
    change stage.advance db = some (next, after) at advanceEq
    cases stage with
    | reading request =>
        cases request with
        | transact transaction =>
            obtain ⟨isOk, together⟩ := Classical.not_imp.mp alone
            rw [Stage.advance] at advanceEq
            cases performed : transaction.perform db with
            | error failure =>
                rw [performed] at isOk
                cases isOk
            | ok target =>
                rw [performed] at advanceEq
                cases advanceEq
                exact perform_violates leaves.holds together performed
        | create dto orgId ownerId id => exact absurd trivial alone
        | update id dto orgId actorId => exact absurd trivial alone
        | archive id orgId actorId => exact absurd trivial alone
    | saving application entry =>
        obtain ⟨isOk, differs⟩ := Classical.not_imp.mp alone
        rw [Stage.advance] at advanceEq
        cases saveEq : db.saveApplication application with
        | error failure =>
            rw [saveEq] at isOk
            cases isOk
        | ok target =>
            rw [saveEq] at advanceEq
            cases advanceEq
            exact save_violates leaves.holds leaves.owns differs saveEq
    | entering entry => exact absurd trivial alone
    | answered failure => exact absurd trivial alone

/-! ## Runs that can be computed -/

instance (db : ApplicationsDb) (transaction : Transaction) :
    Decidable (transaction.PublishesAlone db) :=
  match transaction with
  | .publishVersion id _ _ _ _ => inferInstanceAs (Decidable (db.pointer id = none))
  | .duplicate _ _ _ _ newId _ => inferInstanceAs (Decidable (db.pointer newId = none))
  | .saveDraftSchema _ _ _ => .isTrue trivial
  | .createVersion _ _ _ _ _ => .isTrue trivial
  | .unpublishVersion _ _ _ => .isTrue trivial

instance (db : ApplicationsDb) (others : List Stage) (stage : Stage) (choice : Unit) :
    Decidable (PublishesAloneStep db others stage choice) :=
  match stage, choice with
  | .reading (.transact transaction), _ => inferInstanceAs
      (Decidable ((transaction.perform db).isOk = true → transaction.PublishesAlone db))
  | .reading (.create _ _ _ _), _ => .isTrue trivial
  | .reading (.update _ _ _ _), _ => .isTrue trivial
  | .reading (.archive _ _ _), _ => .isTrue trivial
  | .saving application _, _ => inferInstanceAs
      (Decidable ((db.saveApplication application).isOk = true →
        db.pointer application.id = application.publishedVersionId))
  | .entering _, _ => .isTrue trivial
  | .answered _, _ => .isTrue trivial

/-- A version without properties of its own. -/
def exampleCreateVersion (versionId : Uuid) : Transaction :=
  .createVersion (uuid "a1") ⟨"1.0.0", [], none⟩ (uuid "o") (uuid "u") versionId

def examplePublishVersion (versionId : Uuid) (now : Nat) : Transaction :=
  .publishVersion (uuid "a1") versionId (uuid "o") (uuid "u") now

/-- A version is published, taken back and followed by another one. -/
def exampleAfterEach : List (Sessions.Action Request Unit) :=
  exampleTransacts 0 (exampleCreateVersion (uuid "v1")) ++
    exampleTransacts 1 (exampleCreateVersion (uuid "v2")) ++
    exampleTransacts 2 (examplePublishVersion (uuid "v1") 1) ++
    exampleTransacts 3 (.unpublishVersion (uuid "a1") (uuid "o") (uuid "u")) ++
    exampleTransacts 4 (examplePublishVersion (uuid "v2") 2)

theorem exampleQuiet_inStep : exampleQuiet.store.InStep where
  applications := List.nodup_singleton _
  versions := List.nodup_nil
  belongs := fun _ versionMem => (by cases versionMem)
  marked := by
    intro id versionId pointed
    rw [ApplicationsDb.pointer, Option.bind_eq_some_iff] at pointed
    obtain ⟨application, found, isPublished⟩ := pointed
    obtain rfl := List.mem_singleton.mp (Table.mem_of_get? found)
    cases isPublished
  flagged := fun _ versionMem => (by cases versionMem)

theorem one_published_iff_example :
    applicationsSystem.step.Always (fun state => state.store.OnePublished) exampleQuiet
      exampleAfterEach := by
  have ended : (applicationsSystem.step.run exampleQuiet exampleAfterEach).isSome = true := by
    decide +kernel
  obtain ⟨reached, runEq⟩ := Option.isSome_iff_exists.mp ended
  exact (one_published_iff exampleQuiet_inStep rfl runEq).mpr (by decide +kernel)

/-- A second version is published over the first. -/
def exampleOver : List (Sessions.Action Request Unit) :=
  exampleTransacts 0 (exampleCreateVersion (uuid "v1")) ++
    exampleTransacts 1 (exampleCreateVersion (uuid "v2")) ++
    exampleTransacts 2 (examplePublishVersion (uuid "v1") 1) ++
    exampleTransacts 3 (examplePublishVersion (uuid "v2") 2)

/-- What a run leaves: what the application points to, which versions are marked, and whether the
first version can be published. -/
def publishedAfter (actions : List (Sessions.Action Request Unit)) :
    Option (List (Option Uuid) × List Bool × Bool) :=
  (applicationsSystem.step.run exampleQuiet actions).map fun reached =>
    (reached.store.applications.map Application.publishedVersionId,
      reached.store.versions.map ApplicationVersion.isPublished,
      ((examplePublishVersion (uuid "v1") 3).perform reached.store).isOk)

/-- **Both versions are marked published**, and the first one cannot be published again. -/
theorem two_marked : exampleQuiet.store.OnePublished ∧
    publishedAfter exampleOver = some ([some ⟨"v2", rfl⟩], [true, true], false) :=
  ⟨exampleQuiet_inStep.onePublished, by decide +kernel⟩

end Manbaa.Applications
