import Manbaa.Skills.Catalogues

/-!
# What embeddings describe

The search compares embeddings, and an embedding is made of the name and the content of a skill.
An update asks for a new one only if the content changes.  A call may meet an embedding service
that is switched off or fails, and a database that refuses what is saved.
-/

namespace Manbaa.Skills

open Manbaa.Lib

/-! ## Calls -/

/-- What comes of the request for an embedding. -/
inductive EmbeddingReply where
  | answered
  | disabled
  | failed (exception : Exception)

/-- The embedding service, and the identifiers that the database draws. -/
structure EmbeddingService where
  embed : String → Embedding
  nextId : List Uuid → Uuid
  fresh : ∀ used, nextId used ∉ used

/-- What a call takes from outside. -/
def EmbeddingService.host (service : EmbeddingService) (reply : EmbeddingReply) : SkillsHost where
  generateEmbedding text :=
    match reply with
    | .answered => .ok (some (service.embed text))
    | .disabled => .ok none
    | .failed exception => .error exception
  generateEmbeddingBatch texts :=
    match reply with
    | .answered => .ok (texts.map fun text => some (service.embed text))
    | .disabled => .ok (texts.map fun _ => none)
    | .failed exception => .error exception
  nextId := service.nextId
  fresh := service.fresh

/-- A call that writes the texts of a skill. -/
inductive TextRequest where
  | create (dto : CreateSkillDto) (caller : RequestUser)
  | update (id : Uuid) (dto : UpdateSkillDto) (caller : RequestUser)

/-- A call, what comes of its request for an embedding, and what its save throws. -/
structure TextCall where
  request : TextRequest
  reply : EmbeddingReply
  saveThrows : Option Exception

/-- The table, and the skills whose contents updates have changed, each as often as it was. -/
structure Tracked where
  db : SkillsDb
  revisions : List Uuid

/-- The skill whose content a call changes. -/
def TextRequest.revises (db : SkillsDb) : TextRequest → List Uuid
  | .create _ _ => []
  | .update id dto caller =>
      match findSkillByIdAndOrg db id caller.orgId with
      | .ok skill => if (dto.newContent skill).isSome then [skill.id] else []
      | .error _ => []

/-- What a call writes. -/
def TextRequest.answer (host : SkillsHost) (db : SkillsDb) : TextRequest → Except Exception SkillsDb
  | .create dto caller => Skills.create host dto caller db
  | .update id dto caller => Skills.update host id dto caller db

/-- What a call does. -/
def TextCall.perform (service : EmbeddingService) (tracked : Tracked) (call : TextCall) :
    Except Exception Tracked := do
  let db ← call.request.answer (service.host call.reply) tracked.db
  match call.saveThrows with
  | some exception => .error exception
  | none => pure ⟨db, tracked.revisions ++ call.request.revises tracked.db⟩

/-- One call after the other; a call that throws leaves the table as it is. -/
def embeddingStep (service : EmbeddingService) : Step Tracked TextCall :=
  Step.ofTotal fun tracked call => ((call.perform service tracked).toOption).getD tracked

/-! ## What is promised -/

/-- An embedding is that of the text of a row. -/
def Skill.Described (service : EmbeddingService) (skill : Skill) : Prop :=
  ∀ embedding, skill.embedding = some embedding → ∃ content, skill.content = fullContent content ∧
    embedding = service.embed (prepareContentForEmbedding skill.name content)

/-- Embeddings describe their skills, and versions count the changes of contents. -/
structure Described (service : EmbeddingService) (tracked : Tracked) : Prop where
  embedding : ∀ skill ∈ tracked.db.skills, skill.Described service
  version : ∀ skill ∈ tracked.db.skills, skill.version = 1 + tracked.revisions.count skill.id

/-- An update that is carried out gives no skill with an embedding another name without another
content, unless the service makes the same of both texts. -/
def TextCall.Keeps (service : EmbeddingService) (tracked : Tracked) (call : TextCall) : Prop :=
  match call.request with
  | .create _ _ => True
  | .update id dto caller =>
      ∀ skill content, findSkillByIdAndOrg tracked.db id caller.orgId = .ok skill →
        assertCanModify caller = .ok () →
        ¬ (skill.skillType = .actorCatalog ∧ dto.isMandatory = some false) →
        call.saveThrows = none → skill.embedding.isSome = true →
        skill.content = fullContent content → dto.newContent skill = none →
        service.embed (prepareContentForEmbedding (dto.name.getD skill.name) content) =
          service.embed (prepareContentForEmbedding skill.name content)

variable {service : EmbeddingService} {tracked target : Tracked} {call : TextCall}
  {skill row : Skill} {db : SkillsDb} {dto : UpdateSkillDto} {reply : EmbeddingReply} {content : String}

/-! ## Rows -/

theorem fullContent_injective : Function.Injective fullContent := by
  intro first second same
  cases same
  rfl

theorem fullOf_fullContent : fullOf (fullContent content) = some (.str content) :=
  rfl

/-- The service answers with the embedding of the text or with none. -/
theorem generateEmbedding_eq_ok {text : String} {embedding : Option Embedding}
    (answerEq : (service.host reply).generateEmbedding text = .ok embedding) :
    embedding = none ∨ embedding = some (service.embed text) := by
  cases reply with
  | answered =>
      cases answerEq
      exact Or.inr rfl
  | disabled =>
      cases answerEq
      exact Or.inl rfl
  | failed exception => cases answerEq

/-- A row that an update saves has a new content with the embedding that belongs to it, or the
content and the embedding that it had. -/
theorem row_cases (rowEq : dto.row (service.host reply) skill = .ok row) :
    (∃ content, dto.newContent skill = some content ∧ row.content = fullContent content ∧
      row.name = dto.name.getD skill.name ∧ row.version = skill.version + 1 ∧
      (row.embedding = none ∨ row.embedding =
        some (service.embed (prepareContentForEmbedding row.name content)))) ∨
    dto.newContent skill = none ∧ row = dto.apply skill := by
  obtain ⟨_, _, restEq⟩ := except_bind_eq_ok_iff.mp rowEq
  cases changed : dto.newContent skill with
  | none =>
      rw [changed] at restEq
      cases restEq
      exact Or.inr ⟨rfl, rfl⟩
  | some content =>
      rw [changed] at restEq
      obtain ⟨embedding, embeddingEq, pureEq⟩ := except_bind_eq_ok_iff.mp restEq
      cases pureEq
      have given : dto.content = some content := (Option.filter_eq_some_iff.mp changed).1
      refine Or.inl ⟨content, rfl, ?_, rfl, rfl,
        generateEmbedding_eq_ok (mapError_eq_ok_iff.mp embeddingEq)⟩
      simp only [UpdateSkillDto.apply, given, Option.map_some, Option.getD_some]

/-- An update without a new content leaves the content that it finds. -/
theorem content_apply (unchanged : dto.newContent skill = none)
    (contentEq : skill.content = fullContent content) :
    (dto.apply skill).content = fullContent content := by
  cases given : dto.content with
  | none =>
      simpa only [UpdateSkillDto.apply, given, Option.map_none, Option.getD_none] using contentEq
  | some other =>
      have same : content = other := by
        simpa [UpdateSkillDto.newContent, given, contentEq, fullOf_fullContent,
          Option.filter_some] using unchanged
      simp only [UpdateSkillDto.apply, given, Option.map_some, Option.getD_some, same]

/-- Without a new content the embedding still describes the row exactly if the service makes the
same of the name that it gets. -/
theorem described_apply_iff (described : skill.Described service)
    (unchanged : dto.newContent skill = none) :
    (dto.apply skill).Described service ↔
      ∀ content, skill.embedding.isSome = true → skill.content = fullContent content →
        service.embed (prepareContentForEmbedding (dto.name.getD skill.name) content) =
          service.embed (prepareContentForEmbedding skill.name content) := by
  constructor
  · intro after content isSome contentEq
    obtain ⟨embedding, embeddingEq⟩ := Option.isSome_iff_exists.mp isSome
    obtain ⟨old, oldEq, oldMade⟩ := described embedding embeddingEq
    obtain ⟨new, newEq, newMade⟩ := after embedding embeddingEq
    obtain rfl := fullContent_injective (oldEq.symm.trans contentEq)
    obtain rfl := fullContent_injective (newEq.symm.trans (content_apply unchanged contentEq))
    exact newMade.symm.trans oldMade
  · intro same embedding embeddingEq
    obtain ⟨content, contentEq, made⟩ := described embedding embeddingEq
    have isSome : skill.embedding.isSome = true := Option.isSome_of_eq_some embeddingEq
    exact ⟨content, content_apply unchanged contentEq,
      made.trans (same content isSome contentEq).symm⟩

/-! ## Steps -/

/-- What every state has: unique identifiers, and revisions of skills that are there. -/
structure Counted (tracked : Tracked) : Prop where
  keyed : Table.Keyed Skill.id tracked.db.skills
  known : ∀ id ∈ tracked.revisions, id ∈ tracked.db.skills.map Skill.id

/-- What an update does that is carried out. -/
theorem perform_update {id : Uuid} {caller : RequestUser} {saveThrows : Option Exception}
    (performEq : TextCall.perform service tracked ⟨.update id dto caller, reply, saveThrows⟩ =
      .ok target) :
    ∃ skill row, findSkillByIdAndOrg tracked.db id caller.orgId = .ok skill ∧
      assertCanModify caller = .ok () ∧ dto.row (service.host reply) skill = .ok row ∧
      saveThrows = none ∧ target.db = tracked.db.save row ∧
      target.revisions =
        tracked.revisions ++ if (dto.newContent skill).isSome then [skill.id] else [] := by
  obtain ⟨db, answerEq, restEq⟩ := except_bind_eq_ok_iff.mp performEq
  obtain ⟨skill, row, findEq, canEq, rowEq, rfl⟩ := update_eq_ok.mp answerEq
  cases saveThrows with
  | some exception => cases restEq
  | none =>
      cases restEq
      refine ⟨skill, row, findEq, canEq, rowEq, rfl, rfl, ?_⟩
      simp only [TextRequest.revises, findEq]

/-- What a creation does that is carried out. -/
theorem perform_create {dto : CreateSkillDto} {caller : RequestUser} {saveThrows : Option Exception}
    (performEq : TextCall.perform service tracked ⟨.create dto caller, reply, saveThrows⟩ =
      .ok target) :
    ∃ embedding, target.db = tracked.db.insert (service.host reply) (dto.skill caller embedding) ∧
      target.revisions = tracked.revisions ∧ (embedding = none ∨ embedding =
        some (service.embed (prepareContentForEmbedding dto.name dto.content))) := by
  obtain ⟨db, answerEq, restEq⟩ := except_bind_eq_ok_iff.mp performEq
  obtain ⟨_, _, createEq⟩ := except_bind_eq_ok_iff.mp answerEq
  obtain ⟨_, _, createEq⟩ := except_bind_eq_ok_iff.mp createEq
  obtain ⟨embedding, embeddingEq, pureEq⟩ := except_bind_eq_ok_iff.mp createEq
  cases pureEq
  cases saveThrows with
  | some exception => cases restEq
  | none =>
      cases restEq
      exact ⟨embedding, rfl, List.append_nil _,
        generateEmbedding_eq_ok (mapError_eq_ok_iff.mp embeddingEq)⟩

/-- A creation keeps what is promised. -/
theorem create_described {dto : CreateSkillDto} {caller : RequestUser}
    {saveThrows : Option Exception} (counted : Counted tracked)
    (described : Described service tracked)
    (performEq : TextCall.perform service tracked ⟨.create dto caller, reply, saveThrows⟩ =
      .ok target) : Counted target ∧ Described service target := by
  obtain ⟨embedding, dbEq, revisionsEq, embeddingEq⟩ := perform_create performEq
  let newId := service.nextId (tracked.db.skills.map Skill.id)
  have fresh : newId ∉ tracked.db.skills.map Skill.id := service.fresh _
  have skillsEq : target.db.skills = tracked.db.skills ++ [dto.skill caller embedding newId] := by
    rw [dbEq]
    rfl
  have unused : tracked.revisions.count newId = 0 :=
    List.count_eq_zero.mpr fun revised => fresh (counted.known _ revised)
  refine ⟨⟨?_, ?_⟩, ⟨?_, ?_⟩⟩
  · rw [Table.Keyed, skillsEq, List.map_append]
    exact List.Nodup.append counted.keyed (List.nodup_singleton _)
      (List.disjoint_singleton.mpr fresh)
  · intro id revised
    rw [revisionsEq] at revised
    rw [skillsEq, List.map_append]
    exact List.mem_append_left _ (counted.known id revised)
  · intro skill skillMem
    rw [skillsEq] at skillMem
    rcases List.mem_append.mp skillMem with old | new
    · exact described.embedding skill old
    · rw [List.mem_singleton.mp new]
      intro own ownEq
      refine ⟨dto.content, rfl, ?_⟩
      rcases embeddingEq with rfl | rfl
      · cases ownEq
      · exact (Option.some.inj ownEq).symm
  · intro skill skillMem
    rw [skillsEq] at skillMem
    rw [revisionsEq]
    rcases List.mem_append.mp skillMem with old | new
    · exact described.version skill old
    · rw [List.mem_singleton.mp new]
      change 1 = 1 + tracked.revisions.count newId
      rw [unused]

/-- An update keeps what is promised exactly if the row that it saves is described. -/
theorem update_described_iff {id : Uuid} {caller : RequestUser}
    (counted : Counted tracked) (described : Described service tracked)
    (findEq : findSkillByIdAndOrg tracked.db id caller.orgId = .ok skill)
    (rowEq : dto.row (service.host reply) skill = .ok row)
    (dbEq : target.db = tracked.db.save row)
    (revisionsEq : target.revisions =
      tracked.revisions ++ if (dto.newContent skill).isSome then [skill.id] else []) :
    Counted target ∧ (Described service target ↔ row.Described service) := by
  obtain ⟨found, _⟩ := find_eq_ok findEq
  have same := same_of_row rowEq
  have skillMem := Table.mem_of_get? found
  have mem_iff : ∀ other, other ∈ target.db.skills ↔
      other = row ∨ other ∈ tracked.db.skills ∧ other.id ≠ row.id := by
    intro other
    rw [dbEq]
    exact Table.mem_save_iff
  have mapped : ∀ id, id ∈ tracked.db.skills.map Skill.id → id ∈ target.db.skills.map Skill.id := by
    intro id idMem
    obtain ⟨other, otherMem, rfl⟩ := List.mem_map.mp idMem
    by_cases own : other.id = row.id
    · exact List.mem_map.mpr ⟨row, (mem_iff row).mpr (Or.inl rfl), own.symm⟩
    · exact List.mem_map.mpr ⟨other, (mem_iff other).mpr (Or.inr ⟨otherMem, own⟩), rfl⟩
  have versions : ∀ other ∈ target.db.skills,
      other.version = 1 + target.revisions.count other.id := by
    intro other otherMem
    rw [revisionsEq, List.count_append]
    rcases (mem_iff other).mp otherMem with rfl | ⟨old, ne⟩
    · have before := described.version skill skillMem
      rw [same.id]
      rcases row_cases rowEq with ⟨content, changed, _, _, version, _⟩ | ⟨unchanged, rfl⟩
      · rw [version, before, changed, Option.isSome_some, if_pos rfl, List.count_singleton_self]
        rfl
      · rw [unchanged]
        exact before
    · rw [same.id] at ne
      have unused :
          (if (dto.newContent skill).isSome then [skill.id] else []).count other.id = 0 := by
        split
        · exact List.count_eq_zero.mpr fun mem => ne (List.mem_singleton.mp mem)
        · rfl
      rw [unused]
      exact described.version other old
  refine ⟨⟨?_, ?_⟩, ?_⟩
  · rw [dbEq]
    exact Table.keyed_save counted.keyed
  · intro revised revisedMem
    rw [revisionsEq] at revisedMem
    rcases List.mem_append.mp revisedMem with old | new
    · exact mapped revised (counted.known revised old)
    · split at new
      · rw [List.mem_singleton.mp new]
        exact mapped _ (List.mem_map_of_mem skillMem)
      · cases new
  · constructor
    · intro after
      exact after.embedding row ((mem_iff row).mpr (Or.inl rfl))
    · intro rowDescribed
      refine ⟨?_, versions⟩
      intro other otherMem
      rcases (mem_iff other).mp otherMem with rfl | ⟨old, _⟩
      · exact rowDescribed
      · exact described.embedding other old

/-- A row that an update saves is described exactly if the update keeps what is promised. -/
theorem row_described_iff (described : skill.Described service)
    (rowEq : dto.row (service.host reply) skill = .ok row) :
    row.Described service ↔
      ∀ content, skill.embedding.isSome = true → skill.content = fullContent content →
        dto.newContent skill = none →
        service.embed (prepareContentForEmbedding (dto.name.getD skill.name) content) =
          service.embed (prepareContentForEmbedding skill.name content) := by
  rcases row_cases rowEq with ⟨content, changed, contentEq, _, _, embeddingEq⟩ | ⟨unchanged, rfl⟩
  · constructor
    · intro _ _ _ _ unchanged
      cases changed.symm.trans unchanged
    · intro _ embedding ownEq
      refine ⟨content, contentEq, ?_⟩
      rcases embeddingEq with none | some
      · cases none.symm.trans ownEq
      · exact Option.some.inj (ownEq.symm.trans some)
  · rw [described_apply_iff described unchanged]
    exact ⟨fun same content isSome contentEq _ => same content isSome contentEq,
      fun same content isSome contentEq => same content isSome contentEq unchanged⟩

/-- What a call leaves that throws nothing. -/
theorem perform_described_iff (counted : Counted tracked) (described : Described service tracked)
    (performEq : call.perform service tracked = .ok target) :
    Counted target ∧ (Described service target ↔ call.Keeps service tracked) := by
  obtain ⟨request, reply, saveThrows⟩ := call
  cases request with
  | create dto caller =>
      obtain ⟨countedTarget, describedTarget⟩ := create_described counted described performEq
      exact ⟨countedTarget, iff_of_true describedTarget trivial⟩
  | update id dto caller =>
      obtain ⟨skill, row, findEq, canEq, rowEq, savedEq, dbEq, revisionsEq⟩ :=
        perform_update performEq
      obtain ⟨countedTarget, same⟩ :=
        update_described_iff counted described findEq rowEq dbEq revisionsEq
      have own := described.embedding skill (Table.mem_of_get? (find_eq_ok findEq).1)
      refine ⟨countedTarget, same.trans ((row_described_iff own rowEq).trans ?_)⟩
      have allowed : ¬ (skill.skillType = .actorCatalog ∧ dto.isMandatory = some false) := by
        obtain ⟨_, checkEq, _⟩ := except_bind_eq_ok_iff.mp rowEq
        rintro ⟨isCatalog, optional⟩
        have passed := check_eq_ok_iff.mp checkEq
        rw [UpdateSkillDto.apply, isCatalog, optional] at passed
        cases passed
      constructor
      · intro keeps other content otherEq _ _ _ isSome contentEq unchanged
        obtain rfl := Except.ok.inj (findEq.symm.trans otherEq)
        exact keeps content isSome contentEq unchanged
      · intro keeps content isSome contentEq unchanged
        exact keeps skill content findEq canEq allowed savedEq isSome contentEq unchanged

/-- A call that does not keep what is promised is carried out. -/
theorem performs_of_not_keeps (broken : ¬ call.Keeps service tracked) :
    ∃ reached, call.perform service tracked = .ok reached := by
  obtain ⟨request, reply, saveThrows⟩ := call
  cases request with
  | create dto caller => exact absurd trivial broken
  | update id dto caller =>
      simp only [TextCall.Keeps, not_forall] at broken
      obtain ⟨skill, content, findEq, canEq, allowed, rfl, _, _, unchanged, _⟩ := broken
      have rowEq : dto.row (service.host reply) skill = .ok (dto.apply skill) := by
        have passed : (!((dto.apply skill).skillType == .actorCatalog &&
            dto.isMandatory == some false)) = true := by
          simpa [UpdateSkillDto.apply] using not_and_or.mp allowed
        rw [UpdateSkillDto.row, passed, unchanged]
        rfl
      have answerEq : (TextRequest.update id dto caller).answer (service.host reply) tracked.db =
          .ok (tracked.db.save (dto.apply skill)) :=
        update_eq_ok.mpr ⟨skill, _, findEq, canEq, rowEq, rfl⟩
      refine ⟨_, except_bind_eq_ok_iff.mpr ⟨_, answerEq, rfl⟩⟩

/-- The invariant of the calls. -/
theorem embeddingStep_iff (counted : Counted tracked) (described : Described service tracked)
    (stepEq : embeddingStep service tracked call = some target) :
    Counted target ∧ (Described service target ↔ call.Keeps service tracked) := by
  have targetEq : (call.perform service tracked).toOption.getD tracked = target :=
    Option.some.inj stepEq
  cases performEq : call.perform service tracked with
  | ok reached =>
      rw [performEq] at targetEq
      cases targetEq
      exact perform_described_iff counted described performEq
  | error exception =>
      rw [performEq] at targetEq
      cases targetEq
      refine ⟨counted, iff_of_true described ?_⟩
      by_contra broken
      obtain ⟨reached, reachedEq⟩ := performs_of_not_keeps broken
      cases performEq.symm.trans reachedEq

/-- An update that needs an embedding and gets none for a failure changes nothing. -/
theorem unchanged_of_failed {id : Uuid} {caller : RequestUser} {exception : Exception}
    {saveThrows : Option Exception}
    (findEq : findSkillByIdAndOrg tracked.db id caller.orgId = .ok skill)
    (changed : (dto.newContent skill).isSome = true) :
    embeddingStep service tracked ⟨.update id dto caller, .failed exception, saveThrows⟩ =
      some tracked := by
  have thrown : ∀ reached, TextCall.perform service tracked
      ⟨.update id dto caller, .failed exception, saveThrows⟩ ≠ .ok reached := by
    intro reached performEq
    obtain ⟨other, row, otherEq, _, rowEq, _⟩ := perform_update performEq
    obtain rfl := Except.ok.inj (findEq.symm.trans otherEq)
    obtain ⟨content, contentEq⟩ := Option.isSome_iff_exists.mp changed
    obtain ⟨_, _, restEq⟩ := except_bind_eq_ok_iff.mp rowEq
    rw [contentEq] at restEq
    obtain ⟨_, embeddingEq, _⟩ := except_bind_eq_ok_iff.mp restEq
    cases mapError_eq_ok_iff.mp embeddingEq
  cases performEq : TextCall.perform service tracked
      ⟨.update id dto caller, .failed exception, saveThrows⟩ with
  | ok reached => exact absurd performEq (thrown reached)
  | error thrown =>
      rw [embeddingStep, Step.ofTotal, performEq]
      rfl

/-- Embeddings describe their skills and versions count the changes of contents, exactly as long
as no update renames a skill that has an embedding and leaves its content; and an update whose
request for an embedding fails changes nothing. -/
theorem embeddings_describe {calls : List TextCall} (counted : Counted tracked)
    (described : Described service tracked) :
    ((embeddingStep service).Always (Described service) tracked calls ↔
      (embeddingStep service).Meets (fun tracked call => call.Keeps service tracked) tracked
        calls) ∧
    ∀ tracked id dto caller skill exception saveThrows,
      findSkillByIdAndOrg tracked.db id caller.orgId = .ok skill →
      (dto.newContent skill).isSome = true →
      embeddingStep service tracked ⟨.update id dto caller, .failed exception, saveThrows⟩ =
        some tracked := by
  constructor
  · let inv := fun tracked => Counted tracked ∧ Described service tracked
    have invariant : inv tracked := ⟨counted, described⟩
    apply Step.always_iff_meets ?_ ?_ ?_ invariant (Step.run_ofTotal _ _ _)
    · rintro tracked ⟨_, described⟩
      exact described
    · rintro tracked call next ⟨counted, described⟩ keeps stepEq
      obtain ⟨countedNext, same⟩ := embeddingStep_iff counted described stepEq
      exact ⟨countedNext, same.mpr keeps⟩
    · rintro tracked call next ⟨counted, described⟩ broken stepEq after
      exact broken ((embeddingStep_iff counted described stepEq).2.mp after)
  · intro tracked id dto caller skill exception saveThrows findEq changed
    exact unchanged_of_failed findEq changed

/-! ## Examples -/

/-- A service that tells texts apart by their lengths. -/
def exampleService : EmbeddingService where
  embed text := [text.length]
  nextId := exampleSkillsHost.nextId
  fresh := exampleSkillsHost.fresh

/-- A skill is created, and an update gives it another name and perhaps another content. -/
def exampleRenaming (content : Option String) : List TextCall :=
  [⟨.create (exampleSkill .vocabulary) exampleAdmin, .answered, none⟩,
    ⟨.update (longId 1) ⟨some "renamed skill", none, content, none, none, none, none⟩ exampleAdmin,
      .answered, none⟩]

theorem described_empty : Described exampleService ⟨⟨[]⟩, []⟩ where
  embedding := by simp
  version := by simp

theorem counted_empty : Counted ⟨⟨[]⟩, []⟩ where
  keyed := List.nodup_nil
  known := by simp

/-- A skill gets another name and another content. -/
theorem embeddings_describe_example :
    (embeddingStep exampleService).Always (Described exampleService) ⟨⟨[]⟩, []⟩
      (exampleRenaming (some "other text")) := by
  refine (embeddings_describe counted_empty described_empty).1.mpr ⟨trivial, ?_⟩
  intro next stepEq
  refine ⟨?_, fun _ _ => trivial⟩
  have created : ∀ skill ∈ next.db.skills, skill.content = fullContent "text" := by
    cases stepEq
    decide +kernel
  intro skill content findEq _ _ _ _ _ unchanged
  have textEq := created skill (Table.mem_of_get? (find_eq_ok findEq).1)
  simp [UpdateSkillDto.newContent, textEq, fullOf_fullContent] at unchanged

/-- A skill gets another name, and its embedding is that of the name that it had. -/
theorem renamed_skill_not_described :
    ¬ (embeddingStep exampleService).Always (Described exampleService) ⟨⟨[]⟩, []⟩
      (exampleRenaming none) := by
  intro always
  have stale : ∀ tracked, (embeddingStep exampleService).run ⟨⟨[]⟩, []⟩ (exampleRenaming none) =
      some tracked → ∃ skill ∈ tracked.db.skills, skill.name = "renamed skill" ∧
        skill.content = fullContent "text" ∧ skill.embedding = some [27] := by
    intro tracked runEq
    cases runEq
    decide +kernel
  obtain ⟨_, later⟩ := always.2 _ rfl
  have described := later _ rfl
  obtain ⟨skill, skillMem, name, contentEq, embedding⟩ := stale _ rfl
  obtain ⟨content, otherEq, made⟩ := described.embedding skill skillMem _ embedding
  obtain rfl := fullContent_injective (contentEq.symm.trans otherEq)
  rw [name] at made
  exact absurd made (by decide +kernel)

end Manbaa.Skills
