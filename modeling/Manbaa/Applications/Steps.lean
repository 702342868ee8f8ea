import Manbaa.Applications.Service

/-!
# What the statements and transactions leave

For each statement that may fail, when it succeeds and what the tables hold afterwards; for each
transaction, what it has read, what it has checked and what it leaves.
-/

namespace Manbaa.Applications

open Manbaa.Lib

variable {db next : ApplicationsDb} {id orgId actorId versionId newId : Uuid} {message : String}
  {application saved : Application} {version : ApplicationVersion}

/-! ## Statements -/

theorem findOne_eq_ok_iff : db.findOne id orgId = .ok application ↔
    db.application? id = some application ∧ application.orgId = orgId := by
  rw [ApplicationsDb.findOne, lookUp_eq_ok_iff, Option.filter_eq_some_iff, beq_iff_eq]

theorem lockOpen_eq_ok_iff : db.lockOpen id orgId message = .ok application ↔
    db.application? id = some application ∧ application.orgId = orgId ∧
      application.status ≠ .archived := by
  rw [ApplicationsDb.lockOpen]
  simp only [except_bind_eq_ok_iff, findOne_eq_ok_iff, check_eq_ok_iff, pure_eq_ok,
    Except.ok.injEq, exists_done, bne_iff_ne]
  constructor
  · rintro ⟨found, ⟨foundEq, orgEq⟩, isOpen, rfl⟩
    exact ⟨foundEq, orgEq, isOpen⟩
  · rintro ⟨foundEq, orgEq, isOpen⟩
    exact ⟨application, ⟨foundEq, orgEq⟩, isOpen, rfl⟩

theorem saveApplication_eq_ok_iff : db.saveApplication application = .ok next ↔
    application.fits = .ok () ∧ db.unnamed application = true ∧
      next = { db with
        applications := Table.save Application.id db.applications application.row } := by
  rw [ApplicationsDb.saveApplication]
  simp only [except_bind_eq_ok_iff, mapError_eq_ok_iff, check_eq_ok_iff, pure_eq_ok,
    Except.ok.injEq, exists_done]
  exact and_congr_right fun _ => and_congr_right fun _ => eq_comm

/-- What an inserted version meets and leaves. -/
theorem insertVersion_eq_ok (inserted : db.insertVersion version = .ok next) :
    db.version? version.id = none ∧
      (∀ other ∈ db.versions, other.applicationId = version.applicationId →
        other.versionNumber ≠ version.versionNumber) ∧
      (∃ application, db.application? version.applicationId = some application) ∧
      next = { db with
        versions := db.versions ++ [{ version with schema := version.schema.jsonb }] } := by
  rw [ApplicationsDb.insertVersion] at inserted
  simp only [except_bind_eq_ok_iff, mapError_eq_ok_iff, check_eq_ok_iff, pure_eq_ok,
    Except.ok.injEq, exists_done, Option.isNone_iff_eq_none, Option.isSome_iff_exists] at inserted
  obtain ⟨_, new, numbered, application, rfl⟩ := inserted
  refine ⟨new, fun other otherMem sameApplication sameNumber => ?_, application, rfl⟩
  have apart := List.all_eq_true.mp numbered other otherMem
  simp [sameApplication, sameNumber] at apart

theorem checkSchema_eq_ok_iff {schema : Json} : checkSchema schema = .ok () ↔
    (validateApplicationSchema schema).valid = true :=
  check_eq_ok_iff

/-! ## Transactions -/

/-- The draft of a successful `saveDraftSchema`. -/
theorem saveDraftSchema_eq_ok {dto : SaveDraftSchemaDto}
    (performed : db.saveDraftSchema id dto orgId = .ok (saved, next)) :
    ∃ application, db.application? id = some application ∧ application.orgId = orgId ∧
      application.status ≠ .archived ∧
      (∀ expected ∈ dto.expectedRevision, (application.schemaRevision : ℚ) = expected) ∧
      (validateApplicationSchema
        (application.schema (dto.schemaVersion.getD "1.0.0") dto.schema)).valid = true ∧
      saved = { application with
        draftSchema := some (application.schema (dto.schemaVersion.getD "1.0.0") dto.schema)
        schemaRevision := application.schemaRevision + 1 } ∧
      db.saveApplication saved = .ok next := by
  rw [ApplicationsDb.saveDraftSchema] at performed
  simp only [except_bind_eq_ok_iff, lockOpen_eq_ok_iff, check_eq_ok_iff, checkSchema_eq_ok_iff,
    pure_eq_ok, Except.ok.injEq, Prod.mk.injEq, exists_done] at performed
  obtain ⟨application, ⟨found, orgEq, isOpen⟩, expected, valid, target, savedEq, rfl, rfl⟩ :=
    performed
  refine ⟨application, found, orgEq, isOpen, ?_, valid, rfl, savedEq⟩
  intro revision revisionEq
  rw [Option.mem_def.mp revisionEq, Option.all_some, beq_iff_eq] at expected
  exact expected

/-- The version that `createVersion` inserts. -/
def Application.newVersion (application : Application) (dto : CreateApplicationVersionDto)
    (actorId versionId : Uuid) : ApplicationVersion where
  id := versionId
  applicationId := application.id
  versionNumber := application.currentVersion + 1
  schemaVersion := dto.schemaVersion
  schema := application.schema dto.schemaVersion dto.schema
  description := dto.description
  isPublished := false
  publishedAt := none
  publishedBy := none
  createdBy := some actorId

/-- The application that `createVersion` saves. -/
def Application.versioned (application : Application) (dto : CreateApplicationVersionDto) :
    Application :=
  { application with
    currentVersion := application.currentVersion + 1
    draftSchema := some (application.schema dto.schemaVersion dto.schema) }

/-- The entry of `createVersion`. -/
def Application.versionCreated (application : Application) (actorId versionId : Uuid) :
    AuditEntry where
  elementId := application.id
  actorId := actorId
  actorType := .user
  eventType := "APPLICATION_VERSION_CREATED"
  beforeState := some [("currentVersion", .num application.currentVersion)]
  afterState := some [("currentVersion", .num (application.currentVersion + 1 : Nat)),
    ("versionId", .str versionId.text)]

/-- A successful `createVersion`. -/
theorem createVersion_eq_ok {dto : CreateApplicationVersionDto}
    (performed : db.createVersion id dto orgId actorId versionId = .ok (version, next)) :
    ∃ application inserted stored, db.application? id = some application ∧
      application.orgId = orgId ∧ application.status ≠ .archived ∧
      (validateApplicationSchema
        (application.schema dto.schemaVersion dto.schema)).valid = true ∧
      version = application.newVersion dto actorId versionId ∧
      db.insertVersion version = .ok inserted ∧
      inserted.saveApplication (application.versioned dto) = .ok stored ∧
      next = stored.log (application.versionCreated actorId versionId) := by
  rw [ApplicationsDb.createVersion] at performed
  simp only [except_bind_eq_ok_iff, lockOpen_eq_ok_iff, checkSchema_eq_ok_iff, pure_eq_ok,
    Except.ok.injEq, Prod.mk.injEq, exists_done] at performed
  obtain ⟨application, ⟨found, orgEq, isOpen⟩, valid, inserted, insertedEq, stored, storedEq,
    rfl, rfl⟩ := performed
  obtain rfl : application.id = id := Table.key_of_get? found
  exact ⟨application, inserted, stored, found, orgEq, isOpen, valid, rfl, insertedEq, storedEq,
    rfl⟩

/-- A version that has been published. -/
def ApplicationVersion.publish (version : ApplicationVersion) (actorId : Uuid) (now : Nat) :
    ApplicationVersion :=
  { version with
    isPublished := true
    publishedAt := some now
    publishedBy := some actorId }

/-- An application of which a version has been published. -/
def Application.publish (application : Application) (versionId : Uuid) : Application :=
  { application with
    publishedVersionId := some versionId
    status := .published }

/-- The entry of `publishVersion`. -/
def Application.publishedEntry (application : Application) (version : ApplicationVersion)
    (actorId : Uuid) : AuditEntry where
  elementId := application.id
  actorId := actorId
  actorType := .user
  eventType := "APPLICATION_PUBLISHED"
  beforeState := some [("publishedVersionId", .str version.id.text)]
  afterState := some [("publishedVersionId", .str version.id.text),
    ("versionNumber", .num version.versionNumber)]

/-- A successful `publishVersion`. -/
theorem publishVersion_eq_ok {now : Nat} {published : ApplicationVersion}
    (performed : db.publishVersion id versionId orgId actorId now = .ok (published, next)) :
    ∃ application version, db.application? id = some application ∧ application.orgId = orgId ∧
      application.status ≠ .archived ∧ db.version? versionId = some version ∧
      version.applicationId = id ∧ version.isPublished = false ∧
      published = version.publish actorId now ∧
      next = { db with
        versions := Table.put ApplicationVersion.id db.versions published
        applications := Table.put Application.id db.applications (application.publish versionId)
        auditLog := db.auditLog ++ [application.publishedEntry version actorId] } := by
  rw [ApplicationsDb.publishVersion] at performed
  simp only [except_bind_eq_ok_iff, lockOpen_eq_ok_iff, lookUp_eq_ok_iff, check_eq_ok_iff,
    Option.filter_eq_some_iff, beq_iff_eq, pure_eq_ok, Except.ok.injEq, Prod.mk.injEq,
    exists_done, Bool.not_eq_true'] at performed
  obtain ⟨application, ⟨found, orgEq, isOpen⟩, version, ⟨versionFound, belongs⟩, unpublished, rfl,
    rfl⟩ := performed
  obtain rfl : application.id = id := Table.key_of_get? found
  obtain rfl : version.id = versionId := Table.key_of_get? versionFound
  exact ⟨application, version, found, orgEq, isOpen, versionFound, belongs, unpublished, rfl, rfl⟩

/-- An application of which no version is published any more. -/
def Application.unpublish (application : Application) : Application :=
  { application with
    publishedVersionId := none
    status := .draft }

/-- The entry of `unpublishVersion`. -/
def Application.unpublishedEntry (application : Application) (actorId : Uuid) : AuditEntry where
  elementId := application.id
  actorId := actorId
  actorType := .user
  eventType := "APPLICATION_UNPUBLISHED"
  beforeState := some [("publishedVersionId", .null)]
  afterState := some [("status", .str ApplicationStatus.draft.text)]

/-- A successful `unpublishVersion`. -/
theorem unpublishVersion_eq_ok
    (performed : db.unpublishVersion id orgId actorId = .ok (saved, next)) :
    ∃ application versionId, db.application? id = some application ∧ application.orgId = orgId ∧
      application.status ≠ .archived ∧ application.publishedVersionId = some versionId ∧
      saved = application.unpublish ∧
      next = { db with
        versions := db.retract versionId
        applications := Table.put Application.id db.applications saved
        auditLog := db.auditLog ++ [application.unpublishedEntry actorId] } := by
  rw [ApplicationsDb.unpublishVersion] at performed
  simp only [except_bind_eq_ok_iff, lockOpen_eq_ok_iff, lookUp_eq_ok_iff, pure_eq_ok,
    Except.ok.injEq, Prod.mk.injEq] at performed
  obtain ⟨application, ⟨found, orgEq, isOpen⟩, versionId, published, rfl, rfl⟩ := performed
  obtain rfl : application.id = id := Table.key_of_get? found
  exact ⟨application, versionId, found, orgEq, isOpen, published, rfl, rfl⟩

/-- The application that `duplicate` saves. -/
def Application.copy (original : Application) (dto : DuplicateApplicationDto)
    (orgId actorId newId : Uuid) : Application where
  id := newId
  name := some dto.name
  description := dto.description.or original.description
  status := .draft
  currentVersion := 0
  orgId := orgId
  ownerId := actorId
  projectId := original.projectId
  schemaRevision := 1
  draftSchema := original.draftSchema
  publishedVersionId := none

/-- The version that `duplicate` inserts. -/
def ApplicationVersion.copy (version : ApplicationVersion) (original : Application)
    (actorId newId versionId : Uuid) : ApplicationVersion where
  id := versionId
  applicationId := newId
  versionNumber := 1
  schemaVersion := version.schemaVersion
  schema := version.schema
  description := some ("Duplicated from " ++ original.name.getD "null" ++ " v" ++
    toString version.versionNumber)
  isPublished := false
  publishedAt := none
  publishedBy := none
  createdBy := some actorId

/-- The entry of `duplicate`. -/
def Application.duplicatedEntry (original : Application) (dto : DuplicateApplicationDto)
    (orgId actorId newId : Uuid) : AuditEntry where
  elementId := newId
  actorId := actorId
  actorType := .user
  eventType := "APPLICATION_DUPLICATED"
  beforeState := none
  afterState := some [("name", .str dto.name), ("originalId", .str original.id.text),
    ("orgId", .str orgId.text), ("projectId", .str original.projectId.text)]

/-- What is left of the copy of the published version. -/
theorem copyVersion_eq_ok {original copied : Application}
    (performed : db.copyVersion original application actorId versionId = .ok (copied, next)) :
    (db.publishedVersion original = none ∧ copied = application ∧ next = db) ∨
      ∃ version inserted, db.publishedVersion original = some version ∧
        db.insertVersion (version.copy original actorId application.id versionId) =
          .ok inserted ∧
        copied = { application with currentVersion := 1 } ∧
        inserted.saveApplication copied = .ok next := by
  rw [ApplicationsDb.copyVersion] at performed
  cases publishedEq : db.publishedVersion original with
  | none =>
      rw [publishedEq] at performed
      cases performed
      exact Or.inl ⟨rfl, rfl, rfl⟩
  | some version =>
      rw [publishedEq] at performed
      simp only [except_bind_eq_ok_iff, pure_eq_ok, Except.ok.injEq, Prod.mk.injEq] at performed
      obtain ⟨inserted, insertedEq, stored, storedEq, rfl, rfl⟩ := performed
      exact Or.inr ⟨version, inserted, rfl, insertedEq, rfl, storedEq⟩

/-- A successful `duplicate`. -/
theorem duplicate_eq_ok {dto : DuplicateApplicationDto} {copied : Application}
    (performed : db.duplicate id dto orgId actorId newId versionId = .ok (copied, next)) :
    ∃ original stored filled, db.application? id = some original ∧ original.orgId = orgId ∧
      original.status ≠ .archived ∧ db.named (some dto.name) orgId original.projectId = none ∧
      db.saveApplication (original.copy dto orgId actorId newId) = .ok stored ∧
      stored.copyVersion original (original.copy dto orgId actorId newId) actorId versionId =
        .ok (copied, filled) ∧
      next = filled.log (original.duplicatedEntry dto orgId actorId newId) := by
  rw [ApplicationsDb.duplicate] at performed
  simp only [except_bind_eq_ok_iff, lockOpen_eq_ok_iff, check_eq_ok_iff, pure_eq_ok,
    Except.ok.injEq, Prod.mk.injEq, exists_done, Option.isNone_iff_eq_none] at performed
  obtain ⟨original, ⟨found, orgEq, isOpen⟩, unnamed, stored, storedEq, ⟨result, filled⟩, copiedEq,
    resultEq, rfl⟩ := performed
  obtain rfl : original.id = id := Table.key_of_get? found
  obtain rfl : result = copied := resultEq
  refine ⟨original, stored, filled, found, orgEq, isOpen, unnamed, storedEq, copiedEq, ?_⟩
  have names : result.name = some dto.name ∧ result.projectId = original.projectId := by
    rcases copyVersion_eq_ok copiedEq with ⟨_, rfl, _⟩ | ⟨_, _, _, _, rfl, _⟩
    · exact ⟨rfl, rfl⟩
    · exact ⟨rfl, rfl⟩
  rw [names.1, names.2]
  rfl

/-- A transaction that succeeds leaves its tables. -/
theorem exists_of_perform {α : Type} {result : Except Failure (α × ApplicationsDb)}
    (performed : Prod.snd <$> result = .ok next) : ∃ value, result = .ok (value, next) := by
  obtain ⟨⟨value, target⟩, resultEq, rfl⟩ := except_map_eq_ok_iff.mp performed
  exact ⟨value, resultEq⟩

/-! ## The row that a step replaces -/

/-- The row of an application is replaced or new, and no other row of an application is. -/
structure Replaces (db next : ApplicationsDb) (application : Application) : Prop where
  own : next.application? application.id = some application
  others : ∀ id, id ≠ application.id → next.application? id = db.application? id

theorem replaces_of_save (saveEq : db.saveApplication application = .ok next) :
    Replaces db next application.row := by
  obtain ⟨_, _, rfl⟩ := saveApplication_eq_ok_iff.mp saveEq
  refine ⟨?_, fun id other => ?_⟩
  · rw [ApplicationsDb.application?, Table.get?_save, if_pos rfl]
  · rw [ApplicationsDb.application?, Table.get?_save, if_neg (Ne.symm other)]
    rfl

theorem replaces_of_put {versions : List ApplicationVersion} {auditLog : List AuditEntry}
    {row : Application} (found : db.application? application.id = some row) :
    Replaces db ⟨Table.put Application.id db.applications application, versions, auditLog⟩
      application := by
  refine ⟨?_, fun id other => ?_⟩
  · rw [ApplicationsDb.application?, Table.get?_put, if_pos rfl]
    rw [ApplicationsDb.application?] at found
    rw [found]
    rfl
  · rw [ApplicationsDb.application?, Table.get?_put, if_neg (Ne.symm other)]
    rfl

/-- A second row for the same application replaces the first one. -/
theorem Replaces.trans {middle : ApplicationsDb} {first : Application}
    (before : Replaces db middle first) (after : Replaces middle next application)
    (same : first.id = application.id) : Replaces db next application := by
  refine ⟨after.own, fun id other => ?_⟩
  rw [after.others id other, before.others id (same ▸ other)]

/-- Tables with the same applications. -/
theorem Replaces.of_eq {target : ApplicationsDb} (replaces : Replaces db next application)
    (same : target.applications = next.applications) : Replaces db target application := by
  constructor
  · rw [ApplicationsDb.application?, same]
    exact replaces.own
  · intro id other
    rw [ApplicationsDb.application?, same]
    exact replaces.others id other

/-- The rows and the entry that a duplicate leaves.  Its current version depends on whether a
version has been copied. -/
theorem duplicate_leaves {dto : DuplicateApplicationDto} {copied : Application}
    (performed : db.duplicate id dto orgId actorId newId versionId = .ok (copied, next)) :
    ∃ original, db.application? id = some original ∧
      copied = { original.copy dto orgId actorId newId with
        currentVersion := copied.currentVersion } ∧
      Replaces db next copied.row ∧
      next.auditLog = db.auditLog ++ [original.duplicatedEntry dto orgId actorId newId] ∧
      (next.versions = db.versions ∨ ∃ version inserted, db.publishedVersion original =
        some version ∧ db.version? versionId = none ∧ inserted.isPublished = false ∧
        inserted.id = versionId ∧ inserted.applicationId = newId ∧
        next.versions = db.versions ++ [inserted]) := by
  obtain ⟨original, stored, filled, found, _, _, _, saveEq, copyEq, rfl⟩ :=
    duplicate_eq_ok performed
  have first := replaces_of_save saveEq
  obtain ⟨_, _, rfl⟩ := saveApplication_eq_ok_iff.mp saveEq
  refine ⟨original, found, ?_⟩
  rcases copyVersion_eq_ok copyEq with ⟨_, rfl, rfl⟩ |
    ⟨version, inserted, publishedEq, insertEq, rfl, againEq⟩
  · exact ⟨rfl, first.of_eq rfl, rfl, Or.inl rfl⟩
  · obtain ⟨new, _, _, rfl⟩ := insertVersion_eq_ok insertEq
    have again := replaces_of_save againEq
    obtain ⟨_, _, rfl⟩ := saveApplication_eq_ok_iff.mp againEq
    have replaces := first.trans ⟨again.own, again.others⟩ rfl
    exact ⟨rfl, replaces.of_eq rfl, rfl,
      Or.inr ⟨version, _, publishedEq, new, rfl, rfl, rfl, rfl⟩⟩

/-! ## Calls -/

/-- The entry of `create`. -/
def CreateApplicationDto.entry (dto : CreateApplicationDto) (orgId ownerId id : Uuid) :
    AuditEntry where
  elementId := id
  actorId := ownerId
  actorType := .user
  eventType := "APPLICATION_CREATED"
  beforeState := none
  afterState := some [("name", .str dto.name), ("orgId", .str orgId.text),
    ("projectId", .str dto.projectId.text)]

/-- The entry of `update`. -/
def Application.updatedEntry (application : Application) (dto : UpdateApplicationDto)
    (actorId : Uuid) : AuditEntry where
  elementId := application.id
  actorId := actorId
  actorType := .user
  eventType := "APPLICATION_UPDATED"
  beforeState := some application.details
  afterState := some (application.edit dto).details

/-- An application that has been archived. -/
def Application.archive (application : Application) : Application :=
  { application with status := .archived }

/-- The entry of `archive`. -/
def Application.archivedEntry (application : Application) (actorId : Uuid) : AuditEntry where
  elementId := application.id
  actorId := actorId
  actorType := .user
  eventType := "APPLICATION_ARCHIVED"
  beforeState := some [("status", .str application.status.text)]
  afterState := some [("status", .str ApplicationStatus.archived.text)]

/-- What a call does at its next statement. -/
inductive Advances (db : ApplicationsDb) : Stage → ApplicationsDb → Stage → Prop where
  | refused (request : Request) (failure : Failure) :
      Advances db (.reading request) db (.answered (some failure))
  | create (dto : CreateApplicationDto) (orgId ownerId id : Uuid)
      (unnamed : db.named (some dto.name) orgId dto.projectId = none) :
      Advances db (.reading (.create dto orgId ownerId id)) db
        (.saving (dto.application orgId ownerId id) (dto.entry orgId ownerId id))
  | update (dto : UpdateApplicationDto) (orgId actorId : Uuid) (application : Application)
      (found : db.application? application.id = some application)
      (isOpen : application.status ≠ .archived) :
      Advances db (.reading (.update application.id dto orgId actorId)) db
        (.saving (application.edit dto) (application.updatedEntry dto actorId))
  | archive (orgId actorId : Uuid) (application : Application)
      (found : db.application? application.id = some application) :
      Advances db (.reading (.archive application.id orgId actorId)) db
        (.saving application.archive (application.archivedEntry actorId))
  | perform (transaction : Transaction) (next : ApplicationsDb)
      (performed : transaction.perform db = .ok next) :
      Advances db (.reading (.transact transaction)) next (.answered none)
  | save (application : Application) (entry : AuditEntry) (next : ApplicationsDb)
      (saved : db.saveApplication application = .ok next) :
      Advances db (.saving application entry) next (.entering entry)
  | unsaved (application : Application) (entry : AuditEntry) (failure : Failure) :
      Advances db (.saving application entry) db (.answered (some failure))
  | enter (entry : AuditEntry) : Advances db (.entering entry) (db.log entry) (.answered none)

theorem advances_of_advance {stage after : Stage}
    (advanced : stage.advance db = some (next, after)) :
    Advances db stage next after := by
  cases stage with
  | reading request =>
      cases request with
      | create dto orgId ownerId id =>
          rw [Stage.advance] at advanced
          cases existing : db.named (some dto.name) orgId dto.projectId with
          | none =>
              rw [existing] at advanced
              cases advanced
              exact .create dto orgId ownerId id existing
          | some other =>
              rw [existing] at advanced
              cases advanced
              exact .refused _ _
      | update id dto orgId actorId =>
          rw [Stage.advance] at advanced
          cases read : db.findOne id orgId with
          | error failure =>
              rw [read] at advanced
              cases advanced
              exact .refused _ _
          | ok application =>
              obtain ⟨found, rfl⟩ := findOne_eq_ok_iff.mp read
              obtain rfl : application.id = id := Table.key_of_get? found
              rw [read, afterUpdated] at advanced
              split at advanced
              · cases advanced
                exact .refused _ _
              · rename_i isOpen
                cases advanced
                exact .update dto _ actorId application found isOpen
      | archive id orgId actorId =>
          rw [Stage.advance] at advanced
          cases read : db.findOne id orgId with
          | error failure =>
              rw [read] at advanced
              cases advanced
              exact .refused _ _
          | ok application =>
              obtain ⟨found, rfl⟩ := findOne_eq_ok_iff.mp read
              obtain rfl : application.id = id := Table.key_of_get? found
              rw [read] at advanced
              cases advanced
              exact .archive _ actorId application found
      | transact transaction =>
          rw [Stage.advance] at advanced
          cases performed : transaction.perform db with
          | ok target =>
              rw [performed] at advanced
              cases advanced
              exact .perform transaction _ performed
          | error failure =>
              rw [performed] at advanced
              cases advanced
              exact .refused _ _
  | saving application entry =>
      rw [Stage.advance] at advanced
      cases saved : db.saveApplication application with
      | ok target =>
          rw [saved] at advanced
          cases advanced
          exact .save application entry _ saved
      | error failure =>
          rw [saved] at advanced
          cases advanced
          exact .unsaved application entry failure
  | entering entry =>
      cases advanced
      exact .enter entry
  | answered failure => cases advanced

/-! ## Examples -/

/-- An application without a draft. -/
def exampleApplication : Application where
  id := ⟨"a1", rfl⟩
  name := some "Shop"
  description := none
  status := .draft
  currentVersion := 0
  orgId := ⟨"o", rfl⟩
  ownerId := ⟨"u", rfl⟩
  projectId := ⟨"p", rfl⟩
  schemaRevision := 1
  draftSchema := none
  publishedVersionId := none

/-- The tables with that application. -/
def exampleQuiet : Sessions.State ApplicationsDb Stage := ⟨⟨[exampleApplication], [], []⟩, []⟩

/-- A transaction that arrives and is performed, after others have been. -/
def exampleTransacts (index : Nat) (transaction : Transaction) :
    List (Sessions.Action Request Unit) :=
  [.start (.transact transaction), .advance index ()]

end Manbaa.Applications
