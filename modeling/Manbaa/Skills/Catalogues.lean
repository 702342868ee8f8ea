import Manbaa.Core.Http
import Manbaa.Lib.Except
import Manbaa.Lib.Json
import Manbaa.Lib.Run
import Manbaa.Lib.Table
import Mathlib.Algebra.GroupWithZero.Nat
import Mathlib.Algebra.Order.BigOperators.Group.List
import Mathlib.Data.Rat.Defs

/-!
# Skills and the catalogue of actors

An organization should have one active catalogue of actors.  A new skill is checked for that before
it is inserted.  An import checks its skills before it inserts any, and an update can activate a
skill again.  Each call runs to its end before the next one.
-/

namespace Manbaa.Skills

open Manbaa.Lib

/-! ## Rows -/

/-- The type of a skill. -/
inductive SkillType where
  | vocabulary
  | archetype
  | fewShotExample
  | domainKnowledge
  | actorCatalog
  | promptTemplate
  deriving DecidableEq

/-- The type of an agent. -/
inductive AgentType where
  | orchestrator
  | intake
  | extraction
  | pattern
  | gapDetection
  | qa
  | validation
  | exporter
  | divergence
  | rulesSkillsLoader
  deriving DecidableEq

/-- What a text is embedded as. -/
abbrev Embedding := List ℚ

/-- A row of `skill`. -/
structure Skill where
  id : Uuid
  orgId : Uuid
  name : String
  description : Option String
  skillType : SkillType
  content : Json
  embedding : Option Embedding
  appliesToDomains : Option (List String)
  appliesToAgents : Option (List AgentType)
  isActive : Bool
  isMandatory : Bool
  usageCount : Nat
  version : Nat
  createdBy : Uuid
  deriving DecidableEq

/-- The table. -/
structure SkillsDb where
  skills : List Skill
  deriving DecidableEq

/-- The skill is an active catalogue of an organization. -/
def Skill.isActiveCatalog (orgId : Uuid) (skill : Skill) : Bool :=
  skill.orgId == orgId && skill.skillType == .actorCatalog && skill.isActive

/-- An organization has an active catalogue. -/
def SkillsDb.hasCatalog (db : SkillsDb) (orgId : Uuid) : Bool :=
  db.skills.any fun skill => skill.isActiveCatalog orgId

/-- What the service takes from outside: the embedding of texts, and identifiers that the database
has not drawn yet. -/
structure SkillsHost where
  generateEmbedding : String → Except Exception (Option Embedding)
  generateEmbeddingBatch : List String → Except Exception (List (Option Embedding))
  nextId : List Uuid → Uuid
  fresh : ∀ used, nextId used ∉ used

/-- The table with a new row. -/
def SkillsDb.insert (host : SkillsHost) (db : SkillsDb) (row : Uuid → Skill) : SkillsDb :=
  ⟨db.skills ++ [row (host.nextId (db.skills.map Skill.id))]⟩

/-- The table with a row saved. -/
def SkillsDb.save (db : SkillsDb) (skill : Skill) : SkillsDb :=
  ⟨Table.save Skill.id db.skills skill⟩

/-! ## Requests -/

/-- `CreateSkillDto`. -/
structure CreateSkillDto where
  name : String
  description : Option String
  skillType : SkillType
  content : String
  appliesToDomains : Option (List String)
  appliesToAgents : Option (List AgentType)
  isMandatory : Option Bool
  deriving DecidableEq

/-- `UpdateSkillDto`; a column that may be null may be set to null. -/
structure UpdateSkillDto where
  name : Option String
  description : Option (Option String)
  content : Option String
  appliesToDomains : Option (Option (List String))
  appliesToAgents : Option (Option (List AgentType))
  isMandatory : Option Bool
  isActive : Option Bool
  deriving DecidableEq

/-- `assertCanModify`. -/
def assertCanModify (caller : RequestUser) : Except Exception Unit :=
  check (caller.role == UserRole.admin.text || caller.role == UserRole.businessAnalyst.text)
    (.forbidden "Only Admin and Business Analyst can modify skills")

/-- `validateActorCatalogUniqueness`. -/
def validateActorCatalogUniqueness (db : SkillsDb) (orgId : Uuid) : Except Exception Unit :=
  check (!db.hasCatalog orgId)
    (.conflict "An ACTOR_CATALOG skill already exists. Deactivate it first.")

/-- `findSkillByIdAndOrg`. -/
def findSkillByIdAndOrg (db : SkillsDb) (id orgId : Uuid) : Except Exception Skill :=
  lookUp ((Table.get? Skill.id db.skills id).filter fun skill => skill.orgId == orgId)
    (.notFound "Skill not found")

/-- `prepareContentForEmbedding`. -/
def prepareContentForEmbedding (name content : String) : String :=
  "Skill: " ++ name ++ ". Content: " ++ content

/-- The content of a row. -/
def fullContent (content : String) : Json := .obj [("full", .str content)]

/-- The text in the content of a row. -/
def fullOf : Json → Option Json
  | .obj fields => fields.lookup "full"
  | _ => none

/-- A new row. -/
def CreateSkillDto.skill (dto : CreateSkillDto) (caller : RequestUser) (embedding : Option Embedding)
    (id : Uuid) : Skill where
  id := id
  orgId := caller.orgId
  name := dto.name
  description := dto.description
  skillType := dto.skillType
  content := fullContent dto.content
  embedding := embedding
  appliesToDomains := dto.appliesToDomains
  appliesToAgents := dto.appliesToAgents
  isActive := true
  isMandatory := dto.skillType == .actorCatalog || dto.isMandatory.getD false
  usageCount := 0
  version := 1
  createdBy := caller.id

/-- The check of a new catalogue. -/
def CreateSkillDto.assertUnique (dto : CreateSkillDto) (db : SkillsDb) (caller : RequestUser) :
    Except Exception Unit :=
  if dto.skillType = .actorCatalog then validateActorCatalogUniqueness db caller.orgId
  else .ok ()

/-- `create`. -/
def create (host : SkillsHost) (dto : CreateSkillDto) (caller : RequestUser) (db : SkillsDb) :
    Except Exception SkillsDb := do
  assertCanModify caller
  dto.assertUnique db caller
  let embedding ← (host.generateEmbedding (prepareContentForEmbedding dto.name dto.content)).mapError
    fun _ => .internalServerError "Failed to generate skill embedding"
  pure (db.insert host (dto.skill caller embedding))

/-- The fields of a body that an update writes. -/
def UpdateSkillDto.apply (dto : UpdateSkillDto) (skill : Skill) : Skill :=
  { skill with
    name := dto.name.getD skill.name
    description := dto.description.getD skill.description
    content := (dto.content.map fullContent).getD skill.content
    appliesToDomains := dto.appliesToDomains.getD skill.appliesToDomains
    appliesToAgents := dto.appliesToAgents.getD skill.appliesToAgents
    isActive := dto.isActive.getD skill.isActive }

/-- The content of a body is not the one of the row. -/
def UpdateSkillDto.newContent (dto : UpdateSkillDto) (skill : Skill) : Option String :=
  dto.content.filter fun content => fullOf skill.content != some (.str content)

/-- The row that an update saves. -/
def UpdateSkillDto.row (host : SkillsHost) (dto : UpdateSkillDto) (skill : Skill) :
    Except Exception Skill := do
  let applied := dto.apply skill
  check (!(applied.skillType == .actorCatalog && dto.isMandatory == some false))
    (.forbidden "ACTOR_CATALOG skills must always be mandatory")
  match dto.newContent skill with
  | none => pure applied
  | some content =>
      let embedding ← (host.generateEmbedding
        (prepareContentForEmbedding applied.name content)).mapError
          fun _ => .internalServerError "Failed to regenerate skill embedding"
      pure { applied with version := applied.version + 1, embedding := embedding }

/-- `update`. -/
def update (host : SkillsHost) (id : Uuid) (dto : UpdateSkillDto) (caller : RequestUser)
    (db : SkillsDb) : Except Exception SkillsDb := do
  let skill ← findSkillByIdAndOrg db id caller.orgId
  assertCanModify caller
  let row ← dto.row host skill
  pure (db.save row)

/-- `remove`. -/
def remove (id : Uuid) (caller : RequestUser) (db : SkillsDb) : Except Exception SkillsDb := do
  let skill ← findSkillByIdAndOrg db id caller.orgId
  assertCanModify caller
  check (!(skill.skillType == .actorCatalog && skill.isMandatory))
    (.forbidden "Cannot delete mandatory ACTOR_CATALOG skill")
  pure (db.save { skill with isActive := false })

/-! ## Imports -/

/-- The skills of a batch that pass the checks. -/
def accepted (db : SkillsDb) (skills : List CreateSkillDto) (caller : RequestUser) :
    List CreateSkillDto :=
  skills.filter fun dto => !(dto.skillType == .actorCatalog && db.hasCatalog caller.orgId)

/-- The skills of a batch that are inserted: as many as pass the checks, but the first ones of the
batch. -/
def inserted (db : SkillsDb) (skills : List CreateSkillDto) (caller : RequestUser) :
    List CreateSkillDto :=
  skills.take (accepted db skills caller).length

/-- Insert the skills of a batch with their embeddings. -/
def SkillsDb.insertAll (host : SkillsHost) (caller : RequestUser) (db : SkillsDb) :
    List CreateSkillDto → List (Option Embedding) → SkillsDb
  | [], _ => db
  | dto :: rest, embeddings =>
      insertAll host caller (db.insert host (dto.skill caller (embeddings.head?.getD none))) rest
        embeddings.tail

/-- `importSkills`. -/
def importSkills (host : SkillsHost) (skills : List CreateSkillDto) (caller : RequestUser)
    (db : SkillsDb) : Except Exception SkillsDb := do
  assertCanModify caller
  check (decide (skills.length ≤ 200)) (.badRequest "Maximum 200 skills per import")
  let embeddings ← (host.generateEmbeddingBatch ((accepted db skills caller).map fun dto =>
    prepareContentForEmbedding dto.name dto.content)).mapError
      fun _ => .internalServerError "Failed to generate embeddings for import"
  pure (db.insertAll host caller (inserted db skills caller) embeddings)

/-! ## Runs -/

/-- A call of the service. -/
inductive SkillsRequest where
  | create (dto : CreateSkillDto) (caller : RequestUser)
  | update (id : Uuid) (dto : UpdateSkillDto) (caller : RequestUser)
  | remove (id : Uuid) (caller : RequestUser)
  | importSkills (skills : List CreateSkillDto) (caller : RequestUser)

/-- What a call does. -/
def SkillsRequest.answer (host : SkillsHost) (db : SkillsDb) :
    SkillsRequest → Except Exception SkillsDb
  | .create dto caller => Skills.create host dto caller db
  | .update id dto caller => Skills.update host id dto caller db
  | .remove id caller => Skills.remove id caller db
  | .importSkills skills caller => Skills.importSkills host skills caller db

/-- One call after the other; a call that throws leaves the table as it is. -/
def skillsStep (host : SkillsHost) : Step SkillsDb SkillsRequest :=
  Step.ofTotal fun db request => ((request.answer host db).toOption).getD db

/-! ## What is promised -/

/-- An organization has one active catalogue at most, and catalogues are mandatory. -/
structure OneCatalog (db : SkillsDb) : Prop where
  atMostOne : ∀ orgId, db.skills.countP (Skill.isActiveCatalog orgId) ≤ 1
  mandatory : ∀ skill ∈ db.skills, skill.skillType = .actorCatalog → skill.isMandatory = true

/-- An update saves an active catalogue only if no other one is active, and an import inserts no
catalogue beside an active one and one at most. -/
def SkillsRequest.Admits (host : SkillsHost) (db : SkillsDb) : SkillsRequest → Prop
  | .create _ _ | .remove _ _ => True
  | .update id dto caller =>
      ∀ skill row, findSkillByIdAndOrg db id caller.orgId = .ok skill →
        assertCanModify caller = .ok () → dto.row host skill = .ok row →
        row.isActiveCatalog caller.orgId = true →
        ∀ other ∈ db.skills, other.isActiveCatalog caller.orgId = true → other.id = skill.id
  | .importSkills skills caller =>
      ∀ embeddings, assertCanModify caller = .ok () → skills.length ≤ 200 →
        host.generateEmbeddingBatch ((accepted db skills caller).map fun dto =>
          prepareContentForEmbedding dto.name dto.content) = .ok embeddings →
        db.skills.countP (Skill.isActiveCatalog caller.orgId) +
          (inserted db skills caller).countP (fun dto => dto.skillType == .actorCatalog) ≤ 1

variable {host : SkillsHost} {db target : SkillsDb} {skill row : Skill} {orgId id : Uuid}
  {caller : RequestUser}

/-! ## Insertions -/

theorem countP_insert {counts : Skill → Bool} {row : Uuid → Skill} :
    (db.insert host row).skills.countP counts =
      db.skills.countP counts +
        if counts (row (host.nextId (db.skills.map Skill.id))) then 1 else 0 := by
  rw [SkillsDb.insert, List.countP_append, List.countP_singleton]

theorem isActiveCatalog_skill {dto : CreateSkillDto} {embedding : Option Embedding} :
    (dto.skill caller embedding id).isActiveCatalog orgId =
      (caller.orgId == orgId && dto.skillType == .actorCatalog) := by
  rw [Skill.isActiveCatalog, CreateSkillDto.skill, Bool.and_true]

/-- A new row is mandatory if it is a catalogue. -/
theorem isMandatory_skill {dto : CreateSkillDto} {embedding : Option Embedding}
    (isCatalog : (dto.skill caller embedding id).skillType = .actorCatalog) :
    (dto.skill caller embedding id).isMandatory = true := by
  have isCatalog : dto.skillType = .actorCatalog := isCatalog
  rw [CreateSkillDto.skill, isCatalog]
  rfl

/-- Identifiers are unique, and catalogues are mandatory. -/
structure Kept (db : SkillsDb) : Prop where
  keyed : Table.Keyed Skill.id db.skills
  mandatory : ∀ skill ∈ db.skills, skill.skillType = .actorCatalog → skill.isMandatory = true

theorem kept_insert (kept : Kept db) {dto : CreateSkillDto} {embedding : Option Embedding} :
    Kept (db.insert host (dto.skill caller embedding)) where
  keyed := by
    apply Table.keyed_append kept.keyed
    apply Table.get?_eq_none_iff.mpr
    intro other otherMem sameId
    apply host.fresh (db.skills.map Skill.id)
    rw [← show other.id = host.nextId (db.skills.map Skill.id) from sameId]
    exact List.mem_map_of_mem otherMem
  mandatory := by
    intro skill skillMem isCatalog
    rcases List.mem_append.mp skillMem with old | new
    · exact kept.mandatory skill old isCatalog
    · rw [List.mem_singleton.mp new] at isCatalog ⊢
      exact isMandatory_skill isCatalog

theorem kept_insertAll (kept : Kept db) (skills : List CreateSkillDto)
    (embeddings : List (Option Embedding)) : Kept (db.insertAll host caller skills embeddings) := by
  induction skills generalizing db embeddings with
  | nil => exact kept
  | cons dto rest ih => exact ih (kept_insert kept) embeddings.tail

/-- A batch adds its catalogues to those of the caller's organization. -/
theorem countP_insertAll (skills : List CreateSkillDto) (embeddings : List (Option Embedding)) :
    (db.insertAll host caller skills embeddings).skills.countP (Skill.isActiveCatalog orgId) =
      db.skills.countP (Skill.isActiveCatalog orgId) +
        if caller.orgId = orgId then skills.countP (fun dto => dto.skillType == .actorCatalog)
        else 0 := by
  induction skills generalizing db embeddings with
  | nil => simp [SkillsDb.insertAll]
  | cons dto rest ih =>
      rw [SkillsDb.insertAll, ih, countP_insert, isActiveCatalog_skill, List.countP_cons]
      by_cases own : caller.orgId = orgId
      · by_cases isCatalog : dto.skillType = .actorCatalog
        · simp [own, isCatalog]
          omega
        · simp [own, isCatalog]
      · simp [own]

/-! ## Saves -/

theorem countP_save (keyed : Table.Keyed Skill.id db.skills) {counts : Skill → Bool} :
    (db.save row).skills.countP counts =
      (Table.delete Skill.id db.skills row.id).countP counts + if counts row then 1 else 0 := by
  have perm : (db.save row).skills.Perm (row :: Table.delete Skill.id db.skills row.id) :=
    keyed.save_perm
  rw [perm.countP_eq, List.countP_cons]

theorem countP_delete_le {counts : Skill → Bool} :
    (Table.delete Skill.id db.skills id).countP counts ≤ db.skills.countP counts :=
  List.Sublist.countP_le List.filter_sublist

/-- A save that writes no active catalogue, or no active catalogue beside another one. -/
theorem countP_save_le_one (keyed : Table.Keyed Skill.id db.skills)
    (atMostOne : db.skills.countP (Skill.isActiveCatalog orgId) ≤ 1)
    (alone : row.isActiveCatalog orgId = true →
      ∀ other ∈ db.skills, other.isActiveCatalog orgId = true → other.id = row.id) :
    (db.save row).skills.countP (Skill.isActiveCatalog orgId) ≤ 1 := by
  rw [countP_save keyed]
  by_cases isCatalog : row.isActiveCatalog orgId = true
  · have none : (Table.delete Skill.id db.skills row.id).countP (Skill.isActiveCatalog orgId) = 0 := by
      rw [List.countP_eq_zero]
      intro other otherMem otherCatalog
      obtain ⟨inRows, ne⟩ := Table.mem_delete_iff.mp otherMem
      exact ne (alone isCatalog other inRows otherCatalog)
    rw [none, if_pos isCatalog]
  · rw [if_neg isCatalog]
    exact countP_delete_le.trans atMostOne

/-- An active catalogue that is saved beside another one makes two. -/
theorem alone_of_countP_save (keyed : Table.Keyed Skill.id db.skills)
    (atMostOne : (db.save row).skills.countP (Skill.isActiveCatalog orgId) ≤ 1)
    (isCatalog : row.isActiveCatalog orgId = true) :
    ∀ other ∈ db.skills, other.isActiveCatalog orgId = true → other.id = row.id := by
  intro other otherMem otherCatalog
  by_contra ne
  rw [countP_save keyed, if_pos isCatalog] at atMostOne
  have positive : 0 < (Table.delete Skill.id db.skills row.id).countP
      (Skill.isActiveCatalog orgId) :=
    List.countP_pos_iff.mpr ⟨other, Table.mem_delete_iff.mpr ⟨otherMem, ne⟩, otherCatalog⟩
  omega

/-- The row that an update saves is the same skill: its type and whether it is mandatory stay. -/
structure Skill.Same (skill row : Skill) : Prop where
  id : row.id = skill.id
  orgId : row.orgId = skill.orgId
  skillType : row.skillType = skill.skillType
  isMandatory : row.isMandatory = skill.isMandatory

theorem same_of_row {dto : UpdateSkillDto} (rowEq : dto.row host skill = .ok row) :
    skill.Same row := by
  obtain ⟨_, _, restEq⟩ := except_bind_eq_ok_iff.mp rowEq
  cases contentEq : dto.newContent skill with
  | none =>
      rw [contentEq] at restEq
      cases restEq
      exact ⟨rfl, rfl, rfl, rfl⟩
  | some content =>
      rw [contentEq] at restEq
      obtain ⟨_, _, pureEq⟩ := except_bind_eq_ok_iff.mp restEq
      cases pureEq
      exact ⟨rfl, rfl, rfl, rfl⟩

theorem isActive_of_row {dto : UpdateSkillDto} (rowEq : dto.row host skill = .ok row) :
    row.isActive = dto.isActive.getD skill.isActive := by
  obtain ⟨_, _, restEq⟩ := except_bind_eq_ok_iff.mp rowEq
  cases contentEq : dto.newContent skill with
  | none =>
      rw [contentEq] at restEq
      cases restEq
      rfl
  | some content =>
      rw [contentEq] at restEq
      obtain ⟨_, _, pureEq⟩ := except_bind_eq_ok_iff.mp restEq
      cases pureEq
      rfl

/-- An update that deactivates a skill is admitted. -/
theorem admits_of_deactivation {dto : UpdateSkillDto} (inactive : dto.isActive = some false) :
    (SkillsRequest.update id dto caller).Admits host db := by
  intro skill row _ _ rowEq isCatalog
  have active := (Bool.and_eq_true_iff.mp isCatalog).2
  rw [isActive_of_row rowEq, inactive] at active
  cases active

theorem find_eq_ok (findEq : findSkillByIdAndOrg db id orgId = .ok skill) :
    Table.get? Skill.id db.skills id = some skill ∧ skill.orgId = orgId := by
  obtain ⟨found, own⟩ := Option.filter_eq_some_iff.mp (lookUp_eq_ok_iff.mp findEq)
  exact ⟨found, eq_of_beq own⟩

theorem kept_save (kept : Kept db) (found : Table.get? Skill.id db.skills id = some skill)
    (same : skill.Same row) : Kept (db.save row) where
  keyed := Table.keyed_save kept.keyed
  mandatory := by
    intro other otherMem isCatalog
    rcases Table.mem_save_iff.mp otherMem with rfl | ⟨old, _⟩
    · rw [same.isMandatory]
      rw [same.skillType] at isCatalog
      exact kept.mandatory skill (Table.mem_of_get? found) isCatalog
    · exact kept.mandatory other old isCatalog

/-! ## What calls write -/

/-- Each organization has one active catalogue at most. -/
def AtMostOne (db : SkillsDb) : Prop :=
  ∀ orgId, db.skills.countP (Skill.isActiveCatalog orgId) ≤ 1

theorem create_eq_ok {dto : CreateSkillDto} (createEq : create host dto caller db = .ok target) :
    (dto.skillType = .actorCatalog → db.hasCatalog caller.orgId = false) ∧
      ∃ embedding, target = db.insert host (dto.skill caller embedding) := by
  obtain ⟨_, _, restEq⟩ := except_bind_eq_ok_iff.mp createEq
  obtain ⟨_, checkEq, restEq⟩ := except_bind_eq_ok_iff.mp restEq
  obtain ⟨embedding, _, pureEq⟩ := except_bind_eq_ok_iff.mp restEq
  cases pureEq
  refine ⟨?_, embedding, rfl⟩
  intro isCatalog
  rw [CreateSkillDto.assertUnique, if_pos isCatalog] at checkEq
  rw [← Bool.not_eq_true']
  exact check_eq_ok_iff.mp checkEq

/-- A new skill is checked before it is inserted. -/
theorem create_atMostOne {dto : CreateSkillDto} (atMostOne : AtMostOne db)
    (createEq : create host dto caller db = .ok target) : AtMostOne target := by
  obtain ⟨checked, embedding, rfl⟩ := create_eq_ok createEq
  intro orgId
  rw [countP_insert, isActiveCatalog_skill]
  split
  · rename_i added
    obtain ⟨own, isCatalog⟩ := Bool.and_eq_true_iff.mp added
    rw [eq_of_beq own] at checked
    have none : db.skills.countP (Skill.isActiveCatalog orgId) = 0 := by
      rw [List.countP_eq_zero]
      exact List.any_eq_false.mp (checked (eq_of_beq isCatalog))
    rw [none]
  · exact atMostOne orgId

theorem update_eq_ok {dto : UpdateSkillDto} :
    update host id dto caller db = .ok target ↔
      ∃ skill row, findSkillByIdAndOrg db id caller.orgId = .ok skill ∧
        assertCanModify caller = .ok () ∧ dto.row host skill = .ok row ∧ target = db.save row := by
  constructor
  · intro updateEq
    obtain ⟨skill, findEq, restEq⟩ := except_bind_eq_ok_iff.mp updateEq
    obtain ⟨_, canEq, restEq⟩ := except_bind_eq_ok_iff.mp restEq
    obtain ⟨row, rowEq, pureEq⟩ := except_bind_eq_ok_iff.mp restEq
    cases pureEq
    exact ⟨skill, row, findEq, canEq, rowEq, rfl⟩
  · rintro ⟨skill, row, findEq, canEq, rowEq, rfl⟩
    rw [update, findEq, ok_bind, canEq, ok_bind, rowEq, ok_bind]
    rfl

theorem importSkills_eq_ok {skills : List CreateSkillDto} :
    importSkills host skills caller db = .ok target ↔
      ∃ embeddings, assertCanModify caller = .ok () ∧ skills.length ≤ 200 ∧
        host.generateEmbeddingBatch ((accepted db skills caller).map fun dto =>
          prepareContentForEmbedding dto.name dto.content) = .ok embeddings ∧
        target = db.insertAll host caller (inserted db skills caller) embeddings := by
  constructor
  · intro importEq
    obtain ⟨_, canEq, restEq⟩ := except_bind_eq_ok_iff.mp importEq
    obtain ⟨_, fewEq, restEq⟩ := except_bind_eq_ok_iff.mp restEq
    obtain ⟨embeddings, batchEq, pureEq⟩ := except_bind_eq_ok_iff.mp restEq
    cases pureEq
    exact ⟨embeddings, canEq, of_decide_eq_true (check_eq_ok_iff.mp fewEq),
      mapError_eq_ok_iff.mp batchEq, rfl⟩
  · rintro ⟨embeddings, canEq, few, batchEq, rfl⟩
    rw [importSkills, canEq, ok_bind, decide_eq_true few, batchEq]
    rfl

/-- What a call leaves that throws nothing. -/
theorem answer_kept (kept : Kept db) {request : SkillsRequest}
    (answerEq : request.answer host db = .ok target) : Kept target := by
  cases request with
  | create dto caller =>
      obtain ⟨_, embedding, rfl⟩ := create_eq_ok answerEq
      exact kept_insert kept
  | update id dto caller =>
      obtain ⟨skill, row, findEq, _, rowEq, rfl⟩ := update_eq_ok.mp answerEq
      exact kept_save kept (find_eq_ok findEq).1 (same_of_row rowEq)
  | remove id caller =>
      obtain ⟨skill, findEq, restEq⟩ := except_bind_eq_ok_iff.mp answerEq
      obtain ⟨_, _, restEq⟩ := except_bind_eq_ok_iff.mp restEq
      obtain ⟨_, _, pureEq⟩ := except_bind_eq_ok_iff.mp restEq
      cases pureEq
      exact kept_save kept (find_eq_ok findEq).1 ⟨rfl, rfl, rfl, rfl⟩
  | importSkills skills caller =>
      obtain ⟨embeddings, _, _, _, rfl⟩ := importSkills_eq_ok.mp answerEq
      exact kept_insertAll kept _ _

/-- A call keeps one catalogue at most exactly if it is one that the invariant admits. -/
theorem answer_atMostOne_iff (kept : Kept db) (atMostOne : AtMostOne db) {request : SkillsRequest}
    (answerEq : request.answer host db = .ok target) :
    AtMostOne target ↔ request.Admits host db := by
  cases request with
  | create dto caller => exact iff_of_true (create_atMostOne atMostOne answerEq) trivial
  | update id dto caller =>
      obtain ⟨skill, row, findEq, canEq, rowEq, rfl⟩ := update_eq_ok.mp answerEq
      have same := same_of_row rowEq
      constructor
      · intro after other written otherFind _ writtenEq isCatalog
        cases findEq.symm.trans otherFind
        cases rowEq.symm.trans writtenEq
        rw [← same.id]
        exact alone_of_countP_save kept.keyed (after caller.orgId) isCatalog
      · intro admits orgId
        apply countP_save_le_one kept.keyed (atMostOne orgId)
        intro isCatalog
        have own : caller.orgId = orgId := by
          have rowOrg := (Bool.and_eq_true_iff.mp (Bool.and_eq_true_iff.mp isCatalog).1).1
          rw [← eq_of_beq rowOrg, same.orgId]
          exact (find_eq_ok findEq).2.symm
        rw [← own] at isCatalog ⊢
        rw [same.id]
        exact admits skill row findEq canEq rowEq isCatalog
  | remove id caller =>
      obtain ⟨skill, findEq, restEq⟩ := except_bind_eq_ok_iff.mp answerEq
      obtain ⟨_, _, restEq⟩ := except_bind_eq_ok_iff.mp restEq
      obtain ⟨_, _, pureEq⟩ := except_bind_eq_ok_iff.mp restEq
      cases pureEq
      refine iff_of_true ?_ trivial
      intro orgId
      apply countP_save_le_one kept.keyed (atMostOne orgId)
      intro isCatalog
      have active := (Bool.and_eq_true_iff.mp isCatalog).2
      cases active
  | importSkills skills caller =>
      obtain ⟨embeddings, canEq, few, batchEq, rfl⟩ := importSkills_eq_ok.mp answerEq
      constructor
      · intro after _ _ _ _
        have most := after caller.orgId
        rw [countP_insertAll, if_pos rfl] at most
        exact most
      · intro admits orgId
        have most := admits embeddings canEq few batchEq
        rw [countP_insertAll]
        split
        · rename_i own
          rw [← own]
          exact most
        · exact atMostOne orgId

/-- Calls that the invariant does not admit are answered. -/
theorem answers_of_not_admits {request : SkillsRequest} (broken : ¬ request.Admits host db) :
    ∃ target, request.answer host db = .ok target := by
  cases request with
  | create dto caller => exact absurd trivial broken
  | remove id caller => exact absurd trivial broken
  | update id dto caller =>
      simp only [SkillsRequest.Admits, not_forall] at broken
      obtain ⟨skill, row, findEq, canEq, rowEq, _⟩ := broken
      exact ⟨_, update_eq_ok.mpr ⟨skill, row, findEq, canEq, rowEq, rfl⟩⟩
  | importSkills skills caller =>
      simp only [SkillsRequest.Admits, not_forall] at broken
      obtain ⟨embeddings, canEq, few, batchEq, _⟩ := broken
      exact ⟨_, importSkills_eq_ok.mpr ⟨embeddings, canEq, few, batchEq, rfl⟩⟩

/-- The invariant of the calls. -/
theorem skillsStep_iff (kept : Kept db) (atMostOne : AtMostOne db) {request : SkillsRequest}
    (stepEq : skillsStep host db request = some target) :
    Kept target ∧ (AtMostOne target ↔ request.Admits host db) := by
  have targetEq : (request.answer host db).toOption.getD db = target := Option.some.inj stepEq
  cases answerEq : request.answer host db with
  | ok reached =>
      rw [answerEq] at targetEq
      cases targetEq
      exact ⟨answer_kept kept answerEq, answer_atMostOne_iff kept atMostOne answerEq⟩
  | error exception =>
      rw [answerEq] at targetEq
      cases targetEq
      refine ⟨kept, iff_of_true atMostOne ?_⟩
      by_contra broken
      obtain ⟨reached, reachedEq⟩ := answers_of_not_admits broken
      cases answerEq.symm.trans reachedEq

/-- Organizations have one active catalogue at most, exactly as long as no update activates a
catalogue beside another one, and no import inserts one beside another one. -/
theorem one_catalog {requests : List SkillsRequest} (keyed : Table.Keyed Skill.id db.skills)
    (start : OneCatalog db) :
    (skillsStep host).Always OneCatalog db requests ↔
      (skillsStep host).Meets (fun db request => request.Admits host db) db requests := by
  let inv := fun db => Kept db ∧ AtMostOne db
  have invariant : inv db := ⟨⟨keyed, start.mandatory⟩, start.atMostOne⟩
  apply Step.always_iff_meets ?_ ?_ ?_ invariant (Step.run_ofTotal _ _ _)
  · rintro db ⟨kept, atMostOne⟩
    exact ⟨atMostOne, kept.mandatory⟩
  · rintro db request next ⟨kept, atMostOne⟩ admits stepEq
    obtain ⟨keptNext, same⟩ := skillsStep_iff kept atMostOne stepEq
    exact ⟨keptNext, same.mpr admits⟩
  · rintro db request next ⟨kept, atMostOne⟩ broken stepEq after
    exact broken ((skillsStep_iff kept atMostOne stepEq).2.mp after.atMostOne)

/-! ## Examples -/

/-- A text of many letters, as an identifier. -/
def longId (length : Nat) : Uuid := ⟨String.ofList (List.replicate length 'a'), by simp [lowerCase]⟩

/-- A host without an AI service, whose identifiers are longer than those before. -/
def exampleSkillsHost : SkillsHost where
  generateEmbedding _ := .ok none
  generateEmbeddingBatch texts := .ok (texts.map fun _ => none)
  nextId used := longId ((used.map fun id => id.text.length).sum + 1)
  fresh := by
    intro used member
    let lengths := used.map fun id => id.text.length
    have lengthMem : (longId (lengths.sum + 1)).text.length ∈ lengths :=
      List.mem_map_of_mem member
    have bound := List.single_le_sum (fun _ _ => Nat.zero_le _) _ lengthMem
    simp [longId] at bound

/-- An administrator. -/
def exampleAdmin : RequestUser := ⟨uuid "admin", uuid "org", UserRole.admin.text⟩

/-- A skill without a domain. -/
def exampleSkill (skillType : SkillType) : CreateSkillDto :=
  ⟨"skill", none, skillType, "text", none, none, none⟩

/-- An update that activates a skill, or not. -/
def exampleActivation (isActive : Bool) (length : Nat) : SkillsRequest :=
  .update (longId length) ⟨none, none, none, none, none, none, some isActive⟩ exampleAdmin

/-- A catalogue takes the place of another one. -/
def exampleReplacement : List SkillsRequest :=
  [.create (exampleSkill .actorCatalog) exampleAdmin, exampleActivation false 1,
    .create (exampleSkill .actorCatalog) exampleAdmin]

/-- One catalogue after the other. -/
theorem one_catalog_example :
    (skillsStep exampleSkillsHost).Always OneCatalog ⟨[]⟩ exampleReplacement := by
  have keyed : Table.Keyed Skill.id (⟨[]⟩ : SkillsDb).skills := List.nodup_nil
  have start : OneCatalog ⟨[]⟩ := ⟨fun _ => Nat.zero_le _, by simp⟩
  have met : (skillsStep exampleSkillsHost).Meets
      (fun db request => request.Admits exampleSkillsHost db) ⟨[]⟩ exampleReplacement :=
    ⟨trivial, fun _ _ => ⟨admits_of_deactivation rfl, fun _ _ => ⟨trivial, fun _ _ => trivial⟩⟩⟩
  exact (one_catalog keyed start).mpr met

/-- Two catalogues are active after a batch with both of them, after an update that activates the
first one again, and after a batch whose catalogue was rejected. -/
theorem two_catalogs :
    ((skillsStep exampleSkillsHost).run ⟨[]⟩
        [.importSkills [exampleSkill .actorCatalog, exampleSkill .actorCatalog]
          exampleAdmin]).map (fun db => db.skills.countP (Skill.isActiveCatalog (uuid "org"))) =
      some 2 ∧
    ((skillsStep exampleSkillsHost).run ⟨[]⟩
        (exampleReplacement ++ [exampleActivation true 1])).map
          (fun db => db.skills.countP (Skill.isActiveCatalog (uuid "org"))) = some 2 ∧
    ((skillsStep exampleSkillsHost).run ⟨[]⟩
        [.create (exampleSkill .actorCatalog) exampleAdmin,
          .importSkills [exampleSkill .actorCatalog, exampleSkill .vocabulary] exampleAdmin]).map
          (fun db => db.skills.countP (Skill.isActiveCatalog (uuid "org"))) = some 2 := by
  decide +kernel

end Manbaa.Skills
