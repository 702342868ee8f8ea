import Manbaa.Applications.SchemaValidator
import Manbaa.Core.Http
import Manbaa.Lib.Except
import Manbaa.Lib.Sessions
import Manbaa.Lib.Table

/-!
# The applications service

Applications, their versions and what is entered of them in the audit log.  Five methods
run in a transaction that locks the application, so that each is one step that happens or
does not.  The others read an application, save it and enter what they have done, in
statements of their own; a save writes every column in which the application that was
read differs from its row.
-/

namespace Manbaa.Applications

open Manbaa.Lib

/-! ## Rows -/

/-- `ApplicationStatus`. -/
inductive ApplicationStatus where
  | draft
  | published
  | archived
  deriving DecidableEq

/-- The text of a status. -/
def ApplicationStatus.text : ApplicationStatus → String
  | .draft => "draft"
  | .published => "published"
  | .archived => "archived"

/-- A row of `application`.  A name is null only before it is saved. -/
structure Application where
  id : Uuid
  name : Option String
  description : Option String
  status : ApplicationStatus
  currentVersion : Nat
  orgId : Uuid
  ownerId : Uuid
  projectId : Uuid
  schemaRevision : Nat
  draftSchema : Option Json
  publishedVersionId : Option Uuid
  deriving DecidableEq

/-- A row of `application_version`. -/
structure ApplicationVersion where
  id : Uuid
  applicationId : Uuid
  versionNumber : Nat
  schemaVersion : String
  schema : Json
  description : Option String
  isPublished : Bool
  publishedAt : Option Nat
  publishedBy : Option Uuid
  createdBy : Option Uuid
  deriving DecidableEq

/-- `ActorType`. -/
inductive ActorType where
  | user
  | aiAgent
  | system
  deriving DecidableEq

/-- A row of `audit_log`, as the service writes it. -/
structure AuditEntry where
  elementId : Uuid
  actorId : Uuid
  actorType : ActorType
  eventType : String
  beforeState : Option Json.Fields
  afterState : Option Json.Fields
  deriving DecidableEq

/-- The tables. -/
structure ApplicationsDb where
  applications : List Application
  versions : List ApplicationVersion
  auditLog : List AuditEntry
  deriving DecidableEq

/-- What a method throws.  A conflict of revisions repeats both of them in its message. -/
inductive Failure where
  | exception (exception : Exception)
  | applicationNameExists (message : String)
  | schemaRevisionConflict (storedRevision : Nat) (expectedRevision : ℚ)
  | invalidSchema (errors : List ValidationError)
  | versionAlreadyPublished (message : String)
  | notPublished
  deriving DecidableEq

/-! ## Requests -/

/-- `CreateApplicationDto`. -/
structure CreateApplicationDto where
  name : String
  description : Option String
  projectId : Uuid
  deriving DecidableEq

/-- `UpdateApplicationDto`.  A field may be absent or null. -/
structure UpdateApplicationDto where
  name : Option (Option String)
  description : Option (Option String)
  deriving DecidableEq

/-- `SaveDraftSchemaDto`. -/
structure SaveDraftSchemaDto where
  schema : Json.Fields
  schemaVersion : Option String
  expectedRevision : Option ℚ
  deriving DecidableEq

/-- `CreateApplicationVersionDto`. -/
structure CreateApplicationVersionDto where
  schemaVersion : String
  schema : Json.Fields
  description : Option String
  deriving DecidableEq

/-- `DuplicateApplicationDto`. -/
structure DuplicateApplicationDto where
  name : String
  description : Option String
  deriving DecidableEq

/-! ## Statements -/

/-- A text, or null. -/
def textOrNull (text : Option String) : Json := text.elim .null .str

/-- An identifier, or null. -/
def uuidOrNull (id : Option Uuid) : Json := id.elim .null fun id => .str id.text

/-- The row of an application. -/
def ApplicationsDb.application? (db : ApplicationsDb) (id : Uuid) : Option Application :=
  Table.get? Application.id db.applications id

/-- The row of a version. -/
def ApplicationsDb.version? (db : ApplicationsDb) (id : Uuid) : Option ApplicationVersion :=
  Table.get? ApplicationVersion.id db.versions id

/-- The application of an organization under an identifier. -/
def ApplicationsDb.findOne (db : ApplicationsDb) (id orgId : Uuid) : Except Failure Application :=
  lookUp ((db.application? id).filter fun application => application.orgId == orgId)
    (.exception (.notFound ("Application " ++ id.text ++ " not found")))

/-- An application of a project has the name. -/
def ApplicationsDb.named (db : ApplicationsDb) (name : Option String) (orgId projectId : Uuid) :
    Option Application :=
  db.applications.find? fun application =>
    application.name == name && application.orgId == orgId && application.projectId == projectId

/-- The largest value of an integer column. -/
def maxInteger : Nat := 2147483647

/-- The columns of an application take its values. -/
def Application.fits (application : Application) : Except Refusal Unit := do
  check application.name.isSome (.notNullViolation "name")
  check (application.name.all Json.zeroFree) (.untranslatableCharacter "name")
  check (application.description.all Json.zeroFree) (.untranslatableCharacter "description")
  check (decide (application.currentVersion ≤ maxInteger)) (.outOfRange "current_version")
  check (decide (application.schemaRevision ≤ maxInteger)) (.outOfRange "schema_revision")
  check (application.draftSchema.all Json.storable) (.untranslatableCharacter "draft_schema")

/-- No other application of the project has the name. -/
def ApplicationsDb.unnamed (db : ApplicationsDb) (application : Application) : Bool :=
  db.applications.all fun other => other.id == application.id ||
    !(other.name == application.name && other.orgId == application.orgId &&
      other.projectId == application.projectId)

/-- An application as its row holds it. -/
def Application.row (application : Application) : Application :=
  { application with draftSchema := application.draftSchema.map Json.jsonb }

/-- Save an application under its identifier. -/
def ApplicationsDb.saveApplication (db : ApplicationsDb) (application : Application) :
    Except Failure ApplicationsDb := do
  application.fits.mapError fun refusal => .exception (.queryFailed refusal)
  check (db.unnamed application)
    (.exception (.queryFailed (.uniqueViolation "uq_application_org_project_name")))
  pure { db with applications := Table.save Application.id db.applications application.row }

/-- The columns of a version take its values. -/
def ApplicationVersion.fits (version : ApplicationVersion) : Except Refusal Unit := do
  check (decide (version.versionNumber ≤ maxInteger)) (.outOfRange "version_number")
  check (decide (version.schemaVersion.length ≤ 20)) (.valueTooLong "schema_version")
  check (Json.zeroFree version.schemaVersion) (.untranslatableCharacter "schema_version")
  check version.schema.storable (.untranslatableCharacter "schema")
  check (version.description.all Json.zeroFree) (.untranslatableCharacter "description")

/-- Insert a version, whose identifier the database generates. -/
def ApplicationsDb.insertVersion (db : ApplicationsDb) (version : ApplicationVersion) :
    Except Failure ApplicationsDb := do
  version.fits.mapError fun refusal => .exception (.queryFailed refusal)
  check (db.version? version.id).isNone
    (.exception (.queryFailed (.uniqueViolation "PK_application_version_id")))
  check
    (db.versions.all fun other => !(other.applicationId == version.applicationId &&
      other.versionNumber == version.versionNumber))
    (.exception (.queryFailed (.uniqueViolation "uq_application_version_number")))
  check (db.application? version.applicationId).isSome
    (.exception (.queryFailed (.foreignKeyViolation "fk_application_version_application")))
  pure { db with versions := db.versions ++ [{ version with schema := version.schema.jsonb }] }

/-- `AuditService.log`. -/
def ApplicationsDb.log (db : ApplicationsDb) (entry : AuditEntry) : ApplicationsDb :=
  { db with auditLog := db.auditLog ++ [entry] }

/-! ## Schemas -/

/-- An object with the properties of another one spread after its own. -/
def spread (base given : Json.Fields) : Json.Fields :=
  (base.map fun field => (field.1, (given.lookup field.1).getD field.2)) ++
    given.filter fun field => (base.lookup field.1).isNone

/-- The schema that is made of a schema that a client sends. -/
def Application.schema (application : Application) (schemaVersion : String)
    (given : Json.Fields) : Json :=
  .obj <| spread
    [("schemaVersion", .str schemaVersion),
      ("metadata", .obj [("applicationId", .str application.id.text),
        ("name", textOrNull application.name)])] given

/-- The validator accepts a schema. -/
def checkSchema (schema : Json) : Except Failure Unit :=
  check (validateApplicationSchema schema).valid
    (.invalidSchema (validateApplicationSchema schema).errors)

/-! ## Transactions -/

/-- The application that a transaction locks, unless it is archived. -/
def ApplicationsDb.lockOpen (db : ApplicationsDb) (id orgId : Uuid) (message : String) :
    Except Failure Application := do
  let application ← db.findOne id orgId
  check (application.status != .archived) (.exception (.badRequest message))
  pure application

/-- `saveDraftSchema`. -/
def ApplicationsDb.saveDraftSchema (db : ApplicationsDb) (id : Uuid) (dto : SaveDraftSchemaDto)
    (orgId : Uuid) : Except Failure (Application × ApplicationsDb) := do
  let application ← db.lockOpen id orgId "Cannot modify an archived application"
  check (dto.expectedRevision.all fun expected => (application.schemaRevision : ℚ) == expected)
    (.schemaRevisionConflict application.schemaRevision (dto.expectedRevision.getD 0))
  let schema := application.schema (dto.schemaVersion.getD "1.0.0") dto.schema
  checkSchema schema
  let saved := { application with
    draftSchema := some schema
    schemaRevision := application.schemaRevision + 1 }
  let db ← db.saveApplication saved
  pure (saved, db)

/-- `createVersion`, with the identifier that the database generates for the version. -/
def ApplicationsDb.createVersion (db : ApplicationsDb) (id : Uuid)
    (dto : CreateApplicationVersionDto) (orgId actorId versionId : Uuid) :
    Except Failure (ApplicationVersion × ApplicationsDb) := do
  let application ← db.lockOpen id orgId "Cannot create version for archived application"
  let schema := application.schema dto.schemaVersion dto.schema
  checkSchema schema
  let versionNumber := application.currentVersion + 1
  let version : ApplicationVersion :=
    { id := versionId
      applicationId := id
      versionNumber := versionNumber
      schemaVersion := dto.schemaVersion
      schema := schema
      description := dto.description
      isPublished := false
      publishedAt := none
      publishedBy := none
      createdBy := some actorId }
  let db ← db.insertVersion version
  let db ← db.saveApplication { application with
    currentVersion := versionNumber
    draftSchema := some schema }
  pure (version, db.log
    { elementId := id
      actorId := actorId
      actorType := .user
      eventType := "APPLICATION_VERSION_CREATED"
      beforeState := some [("currentVersion", .num application.currentVersion)]
      afterState := some [("currentVersion", .num versionNumber),
        ("versionId", .str versionId.text)] })

/-- `publishVersion`, at a time. -/
def ApplicationsDb.publishVersion (db : ApplicationsDb) (id versionId orgId actorId : Uuid)
    (now : Nat) : Except Failure (ApplicationVersion × ApplicationsDb) := do
  let application ← db.lockOpen id orgId "Cannot publish an archived application"
  let version ← lookUp
    ((db.version? versionId).filter fun version => version.applicationId == id)
    (.exception (.notFound ("Version " ++ versionId.text ++ " not found for application " ++ id.text)))
  check (!version.isPublished)
    (.versionAlreadyPublished ("Version " ++ toString version.versionNumber ++
      " is already published"))
  let saved := { version with
    isPublished := true
    publishedAt := some now
    publishedBy := some actorId }
  let published := { application with
    publishedVersionId := some saved.id
    status := .published }
  let db : ApplicationsDb := { db with
    versions := Table.put ApplicationVersion.id db.versions saved
    applications := Table.put Application.id db.applications published }
  -- the application that is entered as the state before has been changed by now
  pure (saved, db.log
    { elementId := id
      actorId := actorId
      actorType := .user
      eventType := "APPLICATION_PUBLISHED"
      beforeState := some [("publishedVersionId", uuidOrNull published.publishedVersionId)]
      afterState := some [("publishedVersionId", .str saved.id.text),
        ("versionNumber", .num version.versionNumber)] })

/-- The versions after the flag of the version that was published has been taken back. -/
def ApplicationsDb.retract (db : ApplicationsDb) (versionId : Uuid) : List ApplicationVersion :=
  match db.version? versionId with
  | some oldVersion =>
      Table.put ApplicationVersion.id db.versions { oldVersion with isPublished := false }
  | none => db.versions

/-- `unpublishVersion`. -/
def ApplicationsDb.unpublishVersion (db : ApplicationsDb) (id orgId actorId : Uuid) :
    Except Failure (Application × ApplicationsDb) := do
  let application ← db.lockOpen id orgId "Cannot unpublish an archived application"
  let versionId ← lookUp application.publishedVersionId .notPublished
  let saved := { application with
    publishedVersionId := none
    status := .draft }
  let db : ApplicationsDb := { db with
    versions := db.retract versionId
    applications := Table.put Application.id db.applications saved }
  -- as above, the application has been changed by now
  pure (saved, db.log
    { elementId := id
      actorId := actorId
      actorType := .user
      eventType := "APPLICATION_UNPUBLISHED"
      beforeState := some [("publishedVersionId", uuidOrNull saved.publishedVersionId)]
      afterState := some [("status", .str ApplicationStatus.draft.text)] })

/-- The version that is published, if its row is there. -/
def ApplicationsDb.publishedVersion (db : ApplicationsDb) (application : Application) :
    Option ApplicationVersion :=
  application.publishedVersionId.bind db.version?

/-- The copy of the published version under a duplicate. -/
def ApplicationsDb.copyVersion (db : ApplicationsDb) (original saved : Application)
    (actorId versionId : Uuid) : Except Failure (Application × ApplicationsDb) :=
  match db.publishedVersion original with
  | none => pure (saved, db)
  | some publishedVersion => do
      let db ← db.insertVersion
        { id := versionId
          applicationId := saved.id
          versionNumber := 1
          schemaVersion := publishedVersion.schemaVersion
          schema := publishedVersion.schema
          description := some ("Duplicated from " ++ original.name.getD "null" ++ " v" ++
            toString publishedVersion.versionNumber)
          isPublished := false
          publishedAt := none
          publishedBy := none
          createdBy := some actorId }
      let saved := { saved with currentVersion := 1 }
      let db ← db.saveApplication saved
      pure (saved, db)

/-- `duplicate`, with the identifiers that are generated for the application and its
version. -/
def ApplicationsDb.duplicate (db : ApplicationsDb) (id : Uuid) (dto : DuplicateApplicationDto)
    (orgId actorId newId versionId : Uuid) : Except Failure (Application × ApplicationsDb) := do
  let original ← db.lockOpen id orgId "Cannot duplicate an archived application"
  check (db.named (some dto.name) orgId original.projectId).isNone
    (.applicationNameExists ("Application with name \"" ++ dto.name ++ "\" already exists"))
  let duplicate : Application :=
    { id := newId
      name := some dto.name
      description := dto.description.or original.description
      status := .draft
      currentVersion := 0
      orgId := orgId
      ownerId := actorId
      projectId := original.projectId
      schemaRevision := 1
      draftSchema := original.draftSchema
      publishedVersionId := none }
  let db ← db.saveApplication duplicate
  let (saved, db) ← db.copyVersion original duplicate actorId versionId
  pure (saved, db.log
    { elementId := newId
      actorId := actorId
      actorType := .user
      eventType := "APPLICATION_DUPLICATED"
      beforeState := none
      afterState := some [("name", textOrNull saved.name), ("originalId", .str id.text),
        ("orgId", .str orgId.text), ("projectId", .str saved.projectId.text)] })

/-! ## Calls -/

/-- A method that runs in a transaction. -/
inductive Transaction where
  | saveDraftSchema (id : Uuid) (dto : SaveDraftSchemaDto) (orgId : Uuid)
  | createVersion (id : Uuid) (dto : CreateApplicationVersionDto) (orgId actorId versionId : Uuid)
  | publishVersion (id versionId orgId actorId : Uuid) (now : Nat)
  | unpublishVersion (id orgId actorId : Uuid)
  | duplicate (id : Uuid) (dto : DuplicateApplicationDto) (orgId actorId newId versionId : Uuid)

/-- What a transaction leaves. -/
def Transaction.perform (db : ApplicationsDb) : Transaction → Except Failure ApplicationsDb
  | .saveDraftSchema id dto orgId => Prod.snd <$> db.saveDraftSchema id dto orgId
  | .createVersion id dto orgId actorId versionId =>
      Prod.snd <$> db.createVersion id dto orgId actorId versionId
  | .publishVersion id versionId orgId actorId now =>
      Prod.snd <$> db.publishVersion id versionId orgId actorId now
  | .unpublishVersion id orgId actorId => Prod.snd <$> db.unpublishVersion id orgId actorId
  | .duplicate id dto orgId actorId newId versionId =>
      Prod.snd <$> db.duplicate id dto orgId actorId newId versionId

/-- A call.  A new application gets a random identifier. -/
inductive Request where
  | create (dto : CreateApplicationDto) (orgId ownerId id : Uuid)
  | update (id : Uuid) (dto : UpdateApplicationDto) (orgId actorId : Uuid)
  | archive (id orgId actorId : Uuid)
  | transact (transaction : Transaction)

/-- A call between its statements: it reads, it saves an application and enters what it has
done, it only enters that, or it has come to its end. -/
inductive Stage where
  | reading (request : Request)
  | saving (application : Application) (entry : AuditEntry)
  | entering (entry : AuditEntry)
  | answered (failure : Option Failure)

/-- The application that `create` saves. -/
def CreateApplicationDto.application (dto : CreateApplicationDto) (orgId ownerId id : Uuid) :
    Application where
  id := id
  name := some dto.name
  description := dto.description
  status := .draft
  currentVersion := 0
  orgId := orgId
  ownerId := ownerId
  projectId := dto.projectId
  schemaRevision := 1
  draftSchema := none
  publishedVersionId := none

/-- What `create` does after it has looked for the name. -/
def afterExisting (dto : CreateApplicationDto) (orgId ownerId id : Uuid) :
    Option Application → Stage
  | some _ =>
      .answered (some (.applicationNameExists ("Application with name \"" ++ dto.name ++
        "\" already exists in this project")))
  | none =>
      .saving (dto.application orgId ownerId id)
        { elementId := id
          actorId := ownerId
          actorType := .user
          eventType := "APPLICATION_CREATED"
          beforeState := none
          afterState := some [("name", .str dto.name), ("orgId", .str orgId.text),
            ("projectId", .str dto.projectId.text)] }

/-- An application with the fields of an update. -/
def Application.edit (application : Application) (dto : UpdateApplicationDto) : Application :=
  { application with
    name := dto.name.getD application.name
    description := dto.description.getD application.description }

/-- The state of an application that an update enters. -/
def Application.details (application : Application) : Json.Fields :=
  [("name", textOrNull application.name), ("description", textOrNull application.description)]

/-- What `update` does after it has read the application. -/
def afterUpdated (dto : UpdateApplicationDto) (actorId : Uuid) :
    Except Failure Application → Stage
  | .error failure => .answered (some failure)
  | .ok application =>
      if application.status = .archived then
        .answered (some (.exception (.badRequest "Cannot modify an archived application")))
      else
        .saving (application.edit dto)
          { elementId := application.id
            actorId := actorId
            actorType := .user
            eventType := "APPLICATION_UPDATED"
            beforeState := some application.details
            afterState := some (application.edit dto).details }

/-- What `archive` does after it has read the application. -/
def afterArchived (actorId : Uuid) : Except Failure Application → Stage
  | .error failure => .answered (some failure)
  | .ok application =>
      .saving { application with status := .archived }
        { elementId := application.id
          actorId := actorId
          actorType := .user
          eventType := "APPLICATION_ARCHIVED"
          beforeState := some [("status", .str application.status.text)]
          afterState := some [("status", .str ApplicationStatus.archived.text)] }

/-- A call takes its next statement. -/
def Stage.advance (db : ApplicationsDb) : Stage → Option (ApplicationsDb × Stage)
  | .reading (.create dto orgId ownerId id) =>
      some (db, afterExisting dto orgId ownerId id (db.named (some dto.name) orgId dto.projectId))
  | .reading (.update id dto orgId actorId) =>
      some (db, afterUpdated dto actorId (db.findOne id orgId))
  | .reading (.archive id orgId actorId) =>
      some (db, afterArchived actorId (db.findOne id orgId))
  | .reading (.transact transaction) =>
      match transaction.perform db with
      | .ok target => some (target, .answered none)
      | .error failure => some (db, .answered (some failure))
  | .saving application entry =>
      match db.saveApplication application with
      | .ok target => some (target, .entering entry)
      | .error failure => some (db, .answered (some failure))
  | .entering entry => some (db.log entry, .answered none)
  | .answered _ => none

/-- Calls beside each other. -/
def applicationsSystem : Sessions ApplicationsDb Stage Request Unit where
  start := fun db request => (db, some (.reading request))
  advance := fun db _ stage _ => stage.advance db

end Manbaa.Applications
