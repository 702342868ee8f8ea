import Manbaa.Applications.Steps
import Manbaa.Applications.StoredSchema

/-!
# Schemas that name their application

What the service stores as a draft or as a version has passed the validator.  The properties that a
client sends are spread after those of the service, so that they may name another application and
another version, and a duplicate takes the schemas of the original over.  Where neither happens,
every stored schema names the application that it is stored for.
-/

namespace Manbaa.Applications

open Manbaa.Lib

/-- A schema that the validator accepts and that names an application. -/
structure Identifies (id : Uuid) (schema : Json) : Prop where
  valid : (validateApplicationSchema schema).valid = true
  names : ∃ metadata, property schema "metadata" = some metadata ∧
    textOf metadata "applicationId" = some id.text

/-- Every stored schema names its application, and every version has the version of its schema. -/
structure ApplicationsDb.Identified (db : ApplicationsDb) : Prop where
  drafts : ∀ application ∈ db.applications, ∀ schema ∈ application.draftSchema,
    Identifies application.id schema
  versions : ∀ version ∈ db.versions, Identifies version.applicationId version.schema ∧
    textOf version.schema "schemaVersion" = some version.schemaVersion

/-- The metadata that a client sends, if it sends any, names the application. -/
def Names (id : Uuid) (given : Json.Fields) : Prop :=
  ∀ metadata ∈ given.lookup "metadata", textOf metadata "applicationId" = some id.text

/-- Nothing that the client sends speaks of another application or version, and nothing is
duplicated that holds a schema. -/
def Transaction.Faithful (db : ApplicationsDb) : Transaction → Prop
  | .saveDraftSchema id dto _ => Names id dto.schema
  | .createVersion id dto _ _ _ => Names id dto.schema ∧
      ∀ version ∈ dto.schema.lookup "schemaVersion", version = .str dto.schemaVersion
  | .publishVersion _ _ _ _ _ => True
  | .unpublishVersion _ _ _ => True
  | .duplicate id _ _ _ _ _ => ∀ original ∈ db.application? id,
      original.draftSchema = none ∧ db.publishedVersion original = none

/-- A transaction that succeeds is faithful. -/
def FaithfulStep (db : ApplicationsDb) (_ : List Stage) : Stage → Unit → Prop
  | .reading (.transact transaction), _ =>
      (transaction.perform db).isOk = true → transaction.Faithful db
  | _, _ => True

variable {db next : ApplicationsDb} {id orgId actorId versionId newId : Uuid} {schema : Json}
  {application saved : Application} {version : ApplicationVersion} {given base : Json.Fields}

/-! ## Schemas that are made of given ones -/

/-- The properties of an object, where the other one does not replace them. -/
theorem lookup_replaced (base given : Json.Fields) (key : String) :
    (base.map fun field => (field.1, (given.lookup field.1).getD field.2)).lookup key =
      (base.lookup key).map fun value => (given.lookup key).getD value := by
  induction base with
  | nil => rfl
  | cons field rest ih =>
      obtain ⟨other, value⟩ := field
      rw [List.map_cons]
      by_cases same : key = other
      · subst other
        simp
      · rw [Json.lookup_cons_of_ne same, Json.lookup_cons_of_ne same, ih]

/-- The properties that the other object adds. -/
theorem lookup_added {key : String} (absent : base.lookup key = none) :
    (given.filter fun field => (base.lookup field.1).isNone).lookup key = given.lookup key := by
  induction given with
  | nil => rfl
  | cons field rest ih =>
      obtain ⟨other, value⟩ := field
      by_cases same : key = other
      · subst other
        rw [List.filter_cons_of_pos (by rw [absent]; rfl)]
        simp
      · rw [Json.lookup_cons_of_ne same, List.filter_cons]
        split
        · rw [Json.lookup_cons_of_ne same, ih]
        · exact ih

/-- What is spread later is found first. -/
theorem lookup_spread (base given : Json.Fields) (key : String) :
    (spread base given).lookup key = (given.lookup key).or (base.lookup key) := by
  rw [spread, List.lookup_append, lookup_replaced]
  cases found : base.lookup key with
  | none => rw [Option.map_none, Option.none_or, lookup_added found, Option.or_none]
  | some value =>
      rw [Option.map_some, Option.some_or]
      cases given.lookup key <;> rfl

/-- A schema that names its application is an object. -/
theorem Identifies.isObject (identifies : Identifies id schema) :
    ∃ fields, schema = .obj fields := by
  obtain ⟨metadata, metadataEq, _⟩ := identifies.names
  cases schema with
  | obj fields => exact ⟨fields, rfl⟩
  | null | bool _ | num _ | str _ | arr _ => cases metadataEq

/-- A schema names its application in its stored form. -/
theorem Identifies.normal (identifies : Identifies id schema) : Identifies id schema.normal := by
  obtain ⟨metadata, metadataEq, named⟩ := identifies.names
  obtain ⟨fields, rfl⟩ := identifies.isObject
  refine ⟨valid_normal identifies.valid, metadata.normal, ?_, ?_⟩
  · rw [property_normal, metadataEq, Option.map_some]
  · rw [textOf_normal, named]

/-- What is made of a faithful schema names the application. -/
theorem identifies_schema {schemaVersion : String} (names : Names application.id given)
    (valid : (validateApplicationSchema (application.schema schemaVersion given)).valid = true) :
    Identifies application.id (application.schema schemaVersion given) := by
  refine ⟨valid, ?_⟩
  cases sent : given.lookup "metadata" with
  | some metadata =>
      refine ⟨metadata, ?_, names metadata sent⟩
      rw [Application.schema, property, lookup_spread, sent, Option.some_or]
  | none =>
      refine ⟨.obj [("applicationId", .str application.id.text),
        ("name", textOrNull application.name)], ?_, rfl⟩
      rw [Application.schema, property, lookup_spread, sent, Option.none_or]
      rfl

/-- What is made of a faithful schema has the version that was asked for. -/
theorem version_of_schema {schemaVersion : String}
    (sent : ∀ version ∈ given.lookup "schemaVersion", version = .str schemaVersion) :
    textOf (application.schema schemaVersion given) "schemaVersion" = some schemaVersion := by
  have found : property (application.schema schemaVersion given) "schemaVersion" =
      some (.str schemaVersion) := by
    rw [Application.schema, property, lookup_spread]
    cases sentEq : given.lookup "schemaVersion" with
    | some version => rw [sent version sentEq, Option.some_or]
    | none => rfl
  rw [textOf, found]

/-! ## Statements -/

theorem ApplicationsDb.Identified.save (identified : db.Identified)
    (draft : ∀ schema ∈ application.draftSchema, Identifies application.id schema)
    (saveEq : db.saveApplication application = .ok next) : next.Identified := by
  obtain ⟨_, _, rfl⟩ := saveApplication_eq_ok_iff.mp saveEq
  refine ⟨?_, identified.versions⟩
  intro row rowMem schema schemaMem
  rcases Table.mem_save_iff.mp rowMem with rfl | ⟨oldMem, _⟩
  · obtain ⟨own, ownMem, rfl⟩ := Option.map_eq_some_iff.mp schemaMem
    exact (draft own ownMem).normal
  · exact identified.drafts row oldMem schema schemaMem

theorem ApplicationsDb.Identified.insert (identified : db.Identified)
    (own : Identifies version.applicationId version.schema)
    (ownVersion : textOf version.schema "schemaVersion" = some version.schemaVersion)
    (insertEq : db.insertVersion version = .ok next) : next.Identified := by
  obtain ⟨_, _, _, rfl⟩ := insertVersion_eq_ok insertEq
  refine ⟨identified.drafts, ?_⟩
  intro row rowMem
  rcases List.mem_append.mp rowMem with oldMem | new
  · exact identified.versions row oldMem
  · rw [List.mem_singleton.mp new]
    exact ⟨own.normal, (textOf_normal _ _).trans ownVersion⟩

/-- Rows that are changed in other columns keep what they name. -/
theorem ApplicationsDb.Identified.putVersion (identified : db.Identified)
    {other : ApplicationVersion} (otherMem : other ∈ db.versions)
    (same : version.applicationId = other.applicationId ∧ version.schema = other.schema ∧
      version.schemaVersion = other.schemaVersion) :
    ∀ row ∈ Table.put ApplicationVersion.id db.versions version,
      Identifies row.applicationId row.schema ∧
        textOf row.schema "schemaVersion" = some row.schemaVersion := by
  intro row rowMem
  rcases Table.mem_put_iff.mp rowMem with ⟨rfl, _⟩ | ⟨oldMem, _⟩
  · rw [same.1, same.2.1, same.2.2]
    exact identified.versions other otherMem
  · exact identified.versions row oldMem

theorem ApplicationsDb.Identified.putApplication (identified : db.Identified)
    {other : Application} (otherMem : other ∈ db.applications)
    (same : application.id = other.id ∧ application.draftSchema = other.draftSchema) :
    ∀ row ∈ Table.put Application.id db.applications application, ∀ schema ∈ row.draftSchema,
      Identifies row.id schema := by
  intro row rowMem
  rcases Table.mem_put_iff.mp rowMem with ⟨rfl, _⟩ | ⟨oldMem, _⟩
  · rw [same.1, same.2]
    exact identified.drafts other otherMem
  · exact identified.drafts row oldMem

/-! ## Transactions -/

theorem ApplicationsDb.Identified.saveDraftSchema (identified : db.Identified)
    {dto : SaveDraftSchemaDto} (names : Names id dto.schema)
    (performed : db.saveDraftSchema id dto orgId = .ok (saved, next)) : next.Identified := by
  obtain ⟨application, found, _, _, _, valid, rfl, saveEq⟩ := saveDraftSchema_eq_ok performed
  obtain rfl : application.id = id := Table.key_of_get? found
  apply identified.save ?_ saveEq
  intro schema schemaMem
  cases schemaMem
  exact identifies_schema names valid

theorem ApplicationsDb.Identified.createVersion (identified : db.Identified)
    {dto : CreateApplicationVersionDto} (names : Names id dto.schema)
    (sent : ∀ version ∈ dto.schema.lookup "schemaVersion", version = .str dto.schemaVersion)
    (performed : db.createVersion id dto orgId actorId versionId = .ok (version, next)) :
    next.Identified := by
  obtain ⟨application, inserted, stored, found, _, _, valid, rfl, insertEq, saveEq, rfl⟩ :=
    createVersion_eq_ok performed
  obtain rfl : application.id = id := Table.key_of_get? found
  have own := identifies_schema names valid
  have between := identified.insert own (version_of_schema sent) insertEq
  have after : stored.Identified := by
    apply between.save ?_ saveEq
    intro schema schemaMem
    cases schemaMem
    exact own
  exact ⟨after.drafts, after.versions⟩

theorem ApplicationsDb.Identified.publishVersion (identified : db.Identified) {now : Nat}
    (performed : db.publishVersion id versionId orgId actorId now = .ok (version, next)) :
    next.Identified := by
  obtain ⟨application, before, found, _, _, versionFound, _, _, rfl, rfl⟩ :=
    publishVersion_eq_ok performed
  exact ⟨identified.putApplication (Table.mem_of_get? found) ⟨rfl, rfl⟩,
    identified.putVersion (Table.mem_of_get? versionFound) ⟨rfl, rfl, rfl⟩⟩

theorem ApplicationsDb.Identified.unpublishVersion (identified : db.Identified)
    (performed : db.unpublishVersion id orgId actorId = .ok (saved, next)) : next.Identified := by
  obtain ⟨application, oldId, found, _, _, _, rfl, rfl⟩ := unpublishVersion_eq_ok performed
  refine ⟨identified.putApplication (Table.mem_of_get? found) ⟨rfl, rfl⟩, ?_⟩
  intro row rowMem
  rw [ApplicationsDb.retract] at rowMem
  cases oldFound : db.version? oldId with
  | none =>
      rw [oldFound] at rowMem
      exact identified.versions row rowMem
  | some old =>
      rw [oldFound] at rowMem
      apply identified.putVersion (Table.mem_of_get? oldFound) ?_ row rowMem
      exact ⟨rfl, rfl, rfl⟩

/-- A duplicate of an application without schemas has none. -/
theorem ApplicationsDb.Identified.duplicate (identified : db.Identified)
    {dto : DuplicateApplicationDto}
    (empty : ∀ original ∈ db.application? id,
      original.draftSchema = none ∧ db.publishedVersion original = none)
    (performed : db.duplicate id dto orgId actorId newId versionId = .ok (saved, next)) :
    next.Identified := by
  obtain ⟨original, stored, filled, found, _, _, _, saveEq, copyEq, rfl⟩ :=
    duplicate_eq_ok performed
  obtain ⟨noDraft, noVersion⟩ := empty original found
  have storedIdentified : stored.Identified := by
    apply identified.save ?_ saveEq
    intro schema schemaMem
    rw [Application.copy, noDraft] at schemaMem
    cases schemaMem
  have sameVersions : stored.publishedVersion original = db.publishedVersion original := by
    obtain ⟨_, _, rfl⟩ := saveApplication_eq_ok_iff.mp saveEq
    rfl
  rcases copyVersion_eq_ok copyEq with ⟨_, _, rfl⟩ | ⟨version, _, publishedEq, _⟩
  · exact ⟨storedIdentified.drafts, storedIdentified.versions⟩
  · rw [sameVersions, noVersion] at publishedEq
    cases publishedEq

/-- A faithful transaction keeps what schemas name. -/
theorem ApplicationsDb.Identified.perform (identified : db.Identified) {transaction : Transaction}
    (faithful : transaction.Faithful db) (performed : transaction.perform db = .ok next) :
    next.Identified := by
  cases transaction with
  | saveDraftSchema id dto orgId =>
      obtain ⟨_, resultEq⟩ := exists_of_perform performed
      exact identified.saveDraftSchema faithful resultEq
  | createVersion id dto orgId actorId versionId =>
      obtain ⟨_, resultEq⟩ := exists_of_perform performed
      exact identified.createVersion faithful.1 faithful.2 resultEq
  | publishVersion id versionId orgId actorId now =>
      obtain ⟨_, resultEq⟩ := exists_of_perform performed
      exact identified.publishVersion resultEq
  | unpublishVersion id orgId actorId =>
      obtain ⟨_, resultEq⟩ := exists_of_perform performed
      exact identified.unpublishVersion resultEq
  | duplicate id dto orgId actorId newId versionId =>
      obtain ⟨_, resultEq⟩ := exists_of_perform performed
      exact identified.duplicate faithful resultEq

/-! ## Runs -/

/-- The application that a call is about to save has a draft that names it. -/
def SavesIdentified (_ : ApplicationsDb) (stage : Stage) : Prop :=
  ∀ application entry, stage = .saving application entry →
    ∀ schema ∈ application.draftSchema, Identifies application.id schema

theorem savesIdentified_answered (failure : Option Failure) :
    SavesIdentified db (.answered failure) :=
  fun _ _ isSaving => by cases isSaving

theorem savesIdentified_entering (entry : AuditEntry) : SavesIdentified db (.entering entry) :=
  fun _ _ isSaving => by cases isSaving

theorem identified_keeps : applicationsSystem.Keeps (fun _ => True) FaithfulStep
    ApplicationsDb.Identified SavesIdentified (fun _ _ => True) where
  started := by
    intro db request identified _
    refine ⟨identified, fun _ saves => saves, fun session sessionMem => ⟨?_, fun _ => ⟨trivial,
      trivial⟩⟩⟩
    cases sessionMem
    intro application entry isSaving
    cases isSaving
  advanced := by
    intro db others stage choice next after leaves faithful advanceEq
    have beside : ∀ other ∈ others, SavesIdentified next other := leaves.beside
    have parts : ∀ other ∈ others, True ∧ True := fun _ _ => ⟨trivial, trivial⟩
    have drafts := leaves.holds.drafts
    cases advances_of_advance advanceEq with
    | refused => exact ⟨leaves.holds, savesIdentified_answered _, beside, parts⟩
    | create =>
        refine ⟨leaves.holds, ?_, beside, parts⟩
        intro application entry isSaving schema schemaMem
        cases isSaving
        cases schemaMem
    | update dto _ _ application found =>
        refine ⟨leaves.holds, ?_, beside, parts⟩
        intro saved entry isSaving schema schemaMem
        cases isSaving
        exact drafts application (Table.mem_of_get? found) schema schemaMem
    | archive _ _ application found =>
        refine ⟨leaves.holds, ?_, beside, parts⟩
        intro saved entry isSaving schema schemaMem
        cases isSaving
        exact drafts application (Table.mem_of_get? found) schema schemaMem
    | perform transaction _ performed =>
        exact ⟨leaves.holds.perform (faithful (by rw [performed]; rfl)) performed,
          savesIdentified_answered _, beside, parts⟩
    | save application entry _ saveEq =>
        exact ⟨leaves.holds.save (leaves.owns application entry rfl) saveEq,
          savesIdentified_entering entry, beside, parts⟩
    | unsaved => exact ⟨leaves.holds, savesIdentified_answered _, beside, parts⟩
    | enter entry =>
        exact ⟨⟨drafts, leaves.holds.versions⟩, savesIdentified_answered _, beside, parts⟩

instance (id : Uuid) (given : Json.Fields) : Decidable (Names id given) :=
  inferInstanceAs (Decidable (∀ metadata ∈ given.lookup "metadata",
    textOf metadata "applicationId" = some id.text))

instance (db : ApplicationsDb) (transaction : Transaction) : Decidable (transaction.Faithful db) :=
  match transaction with
  | .saveDraftSchema id dto _ => inferInstanceAs (Decidable (Names id dto.schema))
  | .createVersion id dto _ _ _ => inferInstanceAs (Decidable (Names id dto.schema ∧
      ∀ version ∈ dto.schema.lookup "schemaVersion", version = .str dto.schemaVersion))
  | .publishVersion _ _ _ _ _ => .isTrue trivial
  | .unpublishVersion _ _ _ => .isTrue trivial
  | .duplicate id _ _ _ _ _ => inferInstanceAs (Decidable (∀ original ∈ db.application? id,
      original.draftSchema = none ∧ db.publishedVersion original = none))

instance (db : ApplicationsDb) (others : List Stage) (stage : Stage) (choice : Unit) :
    Decidable (FaithfulStep db others stage choice) :=
  match stage, choice with
  | .reading (.transact transaction), _ =>
      inferInstanceAs (Decidable ((transaction.perform db).isOk = true → transaction.Faithful db))
  | .reading (.create _ _ _ _), _ => .isTrue trivial
  | .reading (.update _ _ _ _), _ => .isTrue trivial
  | .reading (.archive _ _ _), _ => .isTrue trivial
  | .saving _ _, _ => .isTrue trivial
  | .entering _, _ => .isTrue trivial
  | .answered _, _ => .isTrue trivial

theorem identifies_iff : Identifies id schema ↔
    (validateApplicationSchema schema).valid = true ∧
      (property schema "metadata").bind (textOf · "applicationId") = some id.text := by
  rw [Option.bind_eq_some_iff]
  exact ⟨fun identifies => ⟨identifies.valid, identifies.names⟩, fun both => ⟨both.1, both.2⟩⟩

instance (id : Uuid) (schema : Json) : Decidable (Identifies id schema) :=
  decidable_of_iff' _ identifies_iff

instance (db : ApplicationsDb) : Decidable db.Identified :=
  decidable_of_iff
    ((∀ application ∈ db.applications, ∀ schema ∈ application.draftSchema,
        Identifies application.id schema) ∧
      ∀ version ∈ db.versions, Identifies version.applicationId version.schema ∧
        textOf version.schema "schemaVersion" = some version.schemaVersion)
    ⟨fun both => ⟨both.1, both.2⟩, fun identified => ⟨identified.drafts, identified.versions⟩⟩

/-- A draft with the properties that a client sends. -/
def exampleDraft (given : Json.Fields) : Transaction :=
  .saveDraftSchema (uuid "a1") ⟨given, none, none⟩ (uuid "o")

/-- A client sends the metadata of another application. -/
def exampleForeign : List (Sessions.Action Request Unit) :=
  exampleTransacts 0 <| exampleDraft
    [("metadata", .obj [("applicationId", .str "a2"), ("name", .str "Shop")])]

/-- A draft without metadata of its own, and a duplicate of the application. -/
def exampleDuplicated : List (Sessions.Action Request Unit) :=
  exampleTransacts 0 (exampleDraft []) ++ exampleTransacts 1
    (.duplicate (uuid "a1") ⟨"Copy", none⟩ (uuid "o") (uuid "u") (uuid "a2") (uuid "v1"))

/-- A version with another version than its schema. -/
def exampleVersions : List (Sessions.Action Request Unit) :=
  exampleTransacts 0 <| .createVersion (uuid "a1")
    ⟨"2.0.0", [("schemaVersion", .str "1.0.0")], none⟩ (uuid "o") (uuid "u") (uuid "v1")

/-- The stored schemas of what a run reaches name their applications. -/
def identifiedAfter (actions : List (Sessions.Action Request Unit)) : Option Bool :=
  (applicationsSystem.step.run exampleQuiet actions).map fun reached =>
    decide reached.store.Identified

end Manbaa.Applications
