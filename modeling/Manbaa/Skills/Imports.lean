import Manbaa.Skills.Catalogues

/-!
# What an import stores

An import checks its items one by one, asks for the embeddings of those that pass, all at once,
and inserts as many items as passed.  It takes them from the front of the batch: where an item
failed its check, the items and the embeddings are no longer those of each other.
-/

namespace Manbaa.Skills

open Manbaa.Lib

/-! ## The method -/

/-- What the queries of the checks and the saves of an import throw, each by its place, and what
its commit throws. -/
structure ImportOutages where
  query : Nat → Option String
  save : Nat → Option Exception
  commit : Option Exception

/-- No query of the checks throws. -/
def ImportOutages.Answers (outages : ImportOutages) : Prop := ∀ index, outages.query index = none

/-- `{ imported, failed }`. -/
structure ImportResult where
  imported : Nat
  failed : List (Nat × String)
  deriving DecidableEq

/-- Why an item at an index is not prepared. -/
def failure (outages : ImportOutages) (db : SkillsDb) (caller : RequestUser)
    (item : CreateSkillDto × Nat) : Option String :=
  if item.1.skillType = .actorCatalog then
    match outages.query item.2 with
    | some thrown => some thrown
    | none =>
        if db.hasCatalog caller.orgId then some "ACTOR_CATALOG already exists for org" else none
  else none

/-- `failed`, after the checks. -/
def failedItems (outages : ImportOutages) (db : SkillsDb) (skills : List CreateSkillDto)
    (caller : RequestUser) : List (Nat × String) :=
  skills.zipIdx.filterMap fun item => (failure outages db caller item).map fun error =>
    (item.2, error)

/-- The items of which an embedding is asked for: `embeddingItems`. -/
def preparedItems (outages : ImportOutages) (db : SkillsDb) (skills : List CreateSkillDto)
    (caller : RequestUser) : List CreateSkillDto :=
  (skills.zipIdx.filter fun item => (failure outages db caller item).isNone).map Prod.fst

/-- `generateEmbeddingBatch`, of the prepared items. -/
def embeddingsOf (host : SkillsHost) (items : List CreateSkillDto) :
    Except Exception (List (Option Embedding)) :=
  host.generateEmbeddingBatch (items.map fun dto => prepareContentForEmbedding dto.name dto.content)

/-- The loop of the transaction, from a save on: the items from the front of the batch, each with
the embedding in its place.  It returns how many it has saved. -/
def SkillsDb.insertItems (host : SkillsHost) (outages : ImportOutages) (caller : RequestUser) :
    Nat → List CreateSkillDto → List (Option Embedding) → SkillsDb → Except Exception Nat × SkillsDb
  | imported, [], _, db => (.ok imported, db)
  | imported, dto :: rest, embeddings, db =>
      match outages.save imported with
      | some exception => (.error exception, db)
      | none =>
          insertItems host outages caller (imported + 1) rest embeddings.tail
            (db.insert host (dto.skill caller (embeddings.head?.getD none)))

/-- The transaction: a throw rolls it back. -/
def SkillsDb.insertTransaction (host : SkillsHost) (outages : ImportOutages) (caller : RequestUser)
    (items : List CreateSkillDto) (embeddings : List (Option Embedding)) (db : SkillsDb) :
    Except Exception Nat × SkillsDb :=
  match db.insertItems host outages caller 0 items embeddings with
  | (.error exception, _) => (.error exception, db)
  | (.ok imported, inserted) =>
      match outages.commit with
      | some exception => (.error exception, db)
      | none => (.ok imported, inserted)

/-- What is checked before anything is inserted. -/
def prepareImport (host : SkillsHost) (items skills : List CreateSkillDto) (caller : RequestUser) :
    Except Exception (List (Option Embedding)) := do
  assertCanModify caller
  check (decide (skills.length ≤ 200)) (.badRequest "Maximum 200 skills per import")
  (embeddingsOf host items).mapError
    fun _ => .internalServerError "Failed to generate embeddings for import"

/-- `importSkills`, with its result and its outages. -/
def SkillsDb.importSkills (host : SkillsHost) (outages : ImportOutages)
    (skills : List CreateSkillDto) (caller : RequestUser) (db : SkillsDb) :
    Except Exception ImportResult × SkillsDb :=
  let items := preparedItems outages db skills caller
  match prepareImport host items skills caller with
  | .error exception => (.error exception, db)
  | .ok embeddings =>
      let (saved, target) :=
        db.insertTransaction host outages caller (skills.take items.length) embeddings
      (saved.map fun imported => ⟨imported, failedItems outages db skills caller⟩, target)

/-! ## What is promised -/

/-- A row but its identifier. -/
def Skill.body (skill : Skill) : Skill := { skill with id := uuid "" }

/-- The rows of items with an embedding each. -/
def bodies (caller : RequestUser) (items : List CreateSkillDto)
    (embeddings : List (Option Embedding)) : List Skill :=
  List.zipWith (fun dto embedding => (dto.skill caller embedding (uuid "")).body) items embeddings

/-- What is new in the table are the items that have not failed, each once and with the embedding
that the service has answered for its own text. -/
def StoresOwn (host : SkillsHost) (outages : ImportOutages) (db : SkillsDb)
    (skills : List CreateSkillDto) (caller : RequestUser) (target : SkillsDb) : Prop :=
  ∀ embeddings, embeddingsOf host (preparedItems outages db skills caller) = .ok embeddings →
    ∃ rows, target.skills = db.skills ++ rows ∧
      (rows.map Skill.body).Perm (bodies caller (preparedItems outages db skills caller) embeddings)

/-- No item that fails stands before one that does not. -/
def FailedLast (outages : ImportOutages) (db : SkillsDb) (skills : List CreateSkillDto)
    (caller : RequestUser) : Prop :=
  skills.zipIdx.Pairwise fun first second =>
    (failure outages db caller first).isNone = false →
      (failure outages db caller second).isNone = false

/-- The service answers a batch of texts with an embedding, or none, for each of them in turn. -/
def AnswersInOrder (host : SkillsHost) : Prop :=
  ∀ texts embeddings, host.generateEmbeddingBatch texts = .ok embeddings →
    embeddings.length = texts.length

/-! ## Lists -/

section Filter

variable {α : Type*} {meets : α → Bool} {items : List α}

/-- Where what does not meet a condition stands last, what meets it is in front. -/
theorem filter_eq_take_of_pairwise
    (last : items.Pairwise fun first second => meets first = false → meets second = false) :
    items.filter meets = items.take (items.filter meets).length := by
  induction items with
  | nil => rfl
  | cons first rest ih =>
      obtain ⟨before, later⟩ := List.pairwise_cons.mp last
      cases firstEq : meets first with
      | true =>
          rw [List.filter_cons_of_pos firstEq, List.length_cons, List.take_succ_cons, ← ih later]
      | false =>
          have none : rest.filter meets = [] :=
            List.filter_eq_nil_iff.mpr fun item mem => by simp [before item mem firstEq]
          rw [List.filter_cons_of_neg (by simp [firstEq]), none]
          rfl

/-- If as many items in front as meet a condition meet it, the others stand last. -/
theorem pairwise_of_take
    (front : ∀ item ∈ items.take (items.filter meets).length, meets item = true) :
    items.Pairwise fun first second => meets first = false → meets second = false := by
  induction items with
  | nil => exact List.Pairwise.nil
  | cons first rest ih =>
      cases firstEq : meets first with
      | true =>
          rw [List.filter_cons_of_pos firstEq, List.length_cons, List.take_succ_cons] at front
          refine List.pairwise_cons.mpr
            ⟨?_, ih fun item mem => front item (List.mem_cons_of_mem _ mem)⟩
          intro second _ impossible
          cases firstEq.symm.trans impossible
      | false =>
          have none : rest.filter meets = [] := by
            by_contra some
            have positive := List.length_pos_iff.mpr some
            obtain ⟨count, countEq⟩ := Nat.exists_eq_add_of_lt positive
            rw [List.filter_cons_of_neg (by simp [firstEq]), countEq, List.take_succ_cons] at front
            cases firstEq.symm.trans (front first (List.mem_cons_self ..))
          have all : ∀ item ∈ rest, meets item = false := fun item mem => by
            simpa using List.filter_eq_nil_iff.mp none item mem
          refine List.pairwise_cons.mpr ⟨fun second mem _ => all second mem, ?_⟩
          apply ih
          rw [none]
          exact fun item mem => absurd mem List.not_mem_nil

end Filter

variable {host : SkillsHost} {outages : ImportOutages} {db target : SkillsDb}
  {skills items : List CreateSkillDto} {caller : RequestUser} {result : ImportResult}
  {embeddings : List (Option Embedding)}

/-! ## Checks -/

/-- Every item is prepared or has failed. -/
theorem length_preparedItems_add : (preparedItems outages db skills caller).length +
    (failedItems outages db skills caller).length = skills.length := by
  have counts (items : List (CreateSkillDto × Nat)) :
      (items.filter fun item => (failure outages db caller item).isNone).length +
        (items.filterMap fun item => (failure outages db caller item).map fun error =>
          (item.2, error)).length = items.length := by
    induction items with
    | nil => rfl
    | cons item rest ih =>
        cases failed : failure outages db caller item with
        | none =>
            simp only [failed, List.filter_cons_of_pos, Option.isNone_none, List.length_cons,
              List.filterMap_cons, Option.map_none]
            omega
        | some error =>
            simp only [failed, List.filter_cons, Option.isNone_some, Bool.false_eq_true, ↓reduceIte,
              List.length_cons, List.filterMap_cons, Option.map_some]
            omega
  rw [preparedItems, List.length_map, failedItems, counts, List.length_zipIdx]

/-- If no failed item stands before a prepared one, the items in front are the prepared ones. -/
theorem take_eq_preparedItems (last : FailedLast outages db skills caller) :
    skills.take (preparedItems outages db skills caller).length =
      preparedItems outages db skills caller := by
  have front := filter_eq_take_of_pairwise last
  rw [preparedItems, List.length_map]
  conv_rhs => rw [front]
  rw [List.map_take, List.zipIdx_map_fst]

/-- If the queries answer, what fails is a catalogue beside an active one. -/
theorem failure_isNone_iff (answers : outages.Answers) {item : CreateSkillDto × Nat} :
    (failure outages db caller item).isNone = true ↔
      ¬ (item.1.skillType = .actorCatalog ∧ db.hasCatalog caller.orgId = true) := by
  rw [failure, answers item.2]
  by_cases isCatalog : item.1.skillType = .actorCatalog
  · cases hasEq : db.hasCatalog caller.orgId <;> simp [isCatalog]
  · simp [isCatalog]

/-! ## Insertions -/

/-- A loop that throws nothing has inserted all of its items. -/
theorem insertItems_eq_ok {imported saved : Nat}
    (insertEq : db.insertItems host outages caller imported items embeddings =
      (.ok saved, target)) :
    saved = imported + items.length ∧ target = db.insertAll host caller items embeddings := by
  induction items generalizing imported embeddings db with
  | nil =>
      cases insertEq
      exact ⟨rfl, rfl⟩
  | cons dto rest ih =>
      rw [SkillsDb.insertItems] at insertEq
      split at insertEq
      · cases insertEq
      · obtain ⟨savedEq, targetEq⟩ := ih insertEq
        rw [List.length_cons]
        exact ⟨by omega, targetEq⟩

/-- The rows that are inserted are those of the items, each with the embedding in its place. -/
theorem skills_insertAll (enough : items.length ≤ embeddings.length) :
    ∃ rows, (db.insertAll host caller items embeddings).skills = db.skills ++ rows ∧
      rows.map Skill.body = bodies caller items embeddings := by
  induction items generalizing embeddings db with
  | nil => exact ⟨[], (List.append_nil _).symm, rfl⟩
  | cons dto rest ih =>
      cases embeddings with
      | nil => cases enough
      | cons embedding embeddings =>
          obtain ⟨rows, skillsEq, bodiesEq⟩ := @ih (db.insert host (dto.skill caller embedding))
            embeddings (Nat.le_of_succ_le_succ enough)
          refine ⟨dto.skill caller embedding (host.nextId (db.skills.map Skill.id)) :: rows, ?_, ?_⟩
          · rw [SkillsDb.insert, List.append_assoc] at skillsEq
            exact skillsEq
          · rw [List.map_cons, bodiesEq]
            rfl

/-- A transaction that commits has inserted all of its items. -/
theorem insertTransaction_eq_ok {saved : Nat}
    (insertEq : db.insertTransaction host outages caller items embeddings = (.ok saved, target)) :
    saved = items.length ∧ target = db.insertAll host caller items embeddings := by
  rw [SkillsDb.insertTransaction] at insertEq
  cases loopEq : db.insertItems host outages caller 0 items embeddings with
  | mk answer inserted =>
      rw [loopEq] at insertEq
      cases answer with
      | error exception => cases insertEq
      | ok count =>
          cases commitEq : outages.commit with
          | some exception =>
              rw [commitEq] at insertEq
              cases insertEq
          | none =>
              rw [commitEq] at insertEq
              cases insertEq
              obtain ⟨savedEq, targetEq⟩ := insertItems_eq_ok loopEq
              exact ⟨savedEq.trans (Nat.zero_add _), targetEq⟩

/-- A transaction that throws has changed nothing. -/
theorem insertTransaction_eq_error {exception : Exception}
    (insertEq : db.insertTransaction host outages caller items embeddings =
      (.error exception, target)) : target = db := by
  rw [SkillsDb.insertTransaction] at insertEq
  cases loopEq : db.insertItems host outages caller 0 items embeddings with
  | mk answer inserted =>
      rw [loopEq] at insertEq
      cases answer with
      | error exception =>
          cases insertEq
          rfl
      | ok count =>
          cases commitEq : outages.commit with
          | some exception =>
              rw [commitEq] at insertEq
              cases insertEq
              rfl
          | none =>
              rw [commitEq] at insertEq
              cases insertEq

/-- What an import that returns has done. -/
theorem importSkills_returned
    (importEq : db.importSkills host outages skills caller = (.ok result, target)) :
    ∃ embeddings, embeddingsOf host (preparedItems outages db skills caller) = .ok embeddings ∧
      result.imported =
        (skills.take (preparedItems outages db skills caller).length).length ∧
      result.failed = failedItems outages db skills caller ∧
      target = db.insertAll host caller
        (skills.take (preparedItems outages db skills caller).length) embeddings := by
  rw [SkillsDb.importSkills] at importEq
  cases prepareEq : prepareImport host (preparedItems outages db skills caller) skills caller with
  | error exception =>
      simp only [prepareEq] at importEq
      cases importEq
  | ok embeddings =>
      obtain ⟨_, _, restEq⟩ := except_bind_eq_ok_iff.mp prepareEq
      obtain ⟨_, _, embeddingsEq⟩ := except_bind_eq_ok_iff.mp restEq
      simp only [prepareEq] at importEq
      obtain ⟨savedEq, targetEq⟩ := Prod.mk.inj importEq
      obtain ⟨saved, okEq, resultEq⟩ := except_map_eq_ok_iff.mp savedEq
      have insertEq : db.insertTransaction host outages caller
          (skills.take (preparedItems outages db skills caller).length) embeddings =
          (.ok saved, target) := Prod.ext okEq targetEq
      obtain ⟨countEq, insertedEq⟩ := insertTransaction_eq_ok insertEq
      cases resultEq
      exact ⟨embeddings, mapError_eq_ok_iff.mp embeddingsEq, countEq, rfl, insertedEq⟩

/-- An import that throws has changed nothing. -/
theorem importSkills_thrown {exception : Exception}
    (importEq : db.importSkills host outages skills caller = (.error exception, target)) :
    target = db := by
  rw [SkillsDb.importSkills] at importEq
  cases prepareEq : prepareImport host (preparedItems outages db skills caller) skills caller with
  | error thrown =>
      simp only [prepareEq] at importEq
      cases importEq
      rfl
  | ok embeddings =>
      simp only [prepareEq] at importEq
      obtain ⟨savedEq, targetEq⟩ := Prod.mk.inj importEq
      have insertEq : db.insertTransaction host outages caller
          (skills.take (preparedItems outages db skills caller).length) embeddings =
          (.error exception, target) := Prod.ext (except_map_eq_error_iff.mp savedEq) targetEq
      exact insertTransaction_eq_error insertEq

/-! ## Imports -/

/-- Rows have the types of their items. -/
theorem map_skillType_bodies (enough : items.length ≤ embeddings.length) :
    (bodies caller items embeddings).map Skill.skillType = items.map CreateSkillDto.skillType := by
  induction items generalizing embeddings with
  | nil => rfl
  | cons dto rest ih =>
      cases embeddings with
      | nil => cases enough
      | cons embedding embeddings =>
          exact congrArg (dto.skillType :: ·) (ih (Nat.le_of_succ_le_succ enough))

/-- What an import that returns has stored, beside what it should have. -/
theorem storesOwn_iff_perm (inOrder : AnswersInOrder host)
    (importEq : db.importSkills host outages skills caller = (.ok result, target)) :
    ∃ embeddings, (preparedItems outages db skills caller).length = embeddings.length ∧
      (StoresOwn host outages db skills caller target ↔
        (bodies caller (skills.take (preparedItems outages db skills caller).length)
          embeddings).Perm
          (bodies caller (preparedItems outages db skills caller) embeddings)) := by
  obtain ⟨embeddings, embeddingsEq, _, _, targetEq⟩ := importSkills_returned importEq
  have length := inOrder _ _ embeddingsEq
  rw [List.length_map] at length
  have enough : (skills.take (preparedItems outages db skills caller).length).length ≤
      embeddings.length := by
    rw [length]
    exact List.length_take_le _ _
  obtain ⟨rows, skillsEq, bodiesEq⟩ := @skills_insertAll host db _ caller embeddings enough
  rw [← targetEq] at skillsEq
  refine ⟨embeddings, length.symm, ?_⟩
  constructor
  · intro stores
    obtain ⟨stored, storedEq, perm⟩ := stores embeddings embeddingsEq
    rw [← bodiesEq, List.append_cancel_left (skillsEq.symm.trans storedEq)]
    exact perm
  · intro perm answered answeredEq
    obtain rfl := Except.ok.inj (embeddingsEq.symm.trans answeredEq)
    exact ⟨rows, skillsEq, bodiesEq ▸ perm⟩

/-- If no failed item stands before a prepared one, an import stores the prepared items with their
own embeddings. -/
theorem storesOwn_of_failedLast (inOrder : AnswersInOrder host)
    (importEq : db.importSkills host outages skills caller = (.ok result, target))
    (last : FailedLast outages db skills caller) :
    StoresOwn host outages db skills caller target := by
  obtain ⟨embeddings, _, stores_iff⟩ := storesOwn_iff_perm inOrder importEq
  rw [stores_iff, take_eq_preparedItems last]

/-- If the queries of the checks answer, it does so only then. -/
theorem failedLast_of_storesOwn (inOrder : AnswersInOrder host) (answers : outages.Answers)
    (importEq : db.importSkills host outages skills caller = (.ok result, target))
    (stores : StoresOwn host outages db skills caller target) :
    FailedLast outages db skills caller := by
  obtain ⟨embeddings, length, stores_iff⟩ := storesOwn_iff_perm inOrder importEq
  have types := (stores_iff.mp stores).map Skill.skillType
  rw [map_skillType_bodies ((List.length_take_le _ _).trans length.le),
    map_skillType_bodies length.le] at types
  refine pairwise_of_take fun item mem => ?_
  rw [failure_isNone_iff answers]
  rintro ⟨isCatalog, hasCatalog⟩
  have inFront : item.1 ∈ skills.take (preparedItems outages db skills caller).length := by
    have itemMem : item.1 ∈ List.map Prod.fst _ := List.mem_map_of_mem mem
    rw [List.map_take, List.zipIdx_map_fst] at itemMem
    rwa [preparedItems, List.length_map]
  have typeMem := types.subset (List.mem_map_of_mem inFront)
  obtain ⟨dto, dtoMem, sameType⟩ := List.mem_map.mp typeMem
  obtain ⟨other, otherMem, rfl⟩ := List.mem_map.mp dtoMem
  have prepared := (List.mem_filter.mp otherMem).2
  exact (failure_isNone_iff answers).mp prepared ⟨sameType.trans isCatalog, hasCatalog⟩

/-- An import in which no failed item stands before one that passed stores what passed, each item
once, with its own fields and its own embedding; and if the queries of the checks answer, only
such an import does.  Every item is imported or has failed, and an import that throws stores
nothing. -/
theorem import_stores_own_iff (inOrder : AnswersInOrder host) :
    (∀ result target, db.importSkills host outages skills caller = (.ok result, target) →
      result.imported + result.failed.length = skills.length ∧
      result.failed = failedItems outages db skills caller ∧
      (FailedLast outages db skills caller → StoresOwn host outages db skills caller target) ∧
      (outages.Answers →
        (StoresOwn host outages db skills caller target ↔
          FailedLast outages db skills caller))) ∧
    ∀ exception target, db.importSkills host outages skills caller = (.error exception, target) →
      target = db := by
  constructor
  · intro result target importEq
    obtain ⟨_, _, importedEq, failedEq, _⟩ := importSkills_returned importEq
    refine ⟨?_, failedEq, storesOwn_of_failedLast inOrder importEq, fun answers => ?_⟩
    · have all : (preparedItems outages db skills caller).length +
          (failedItems outages db skills caller).length = skills.length :=
        length_preparedItems_add
      rw [importedEq, failedEq, List.length_take]
      omega
    · exact ⟨failedLast_of_storesOwn inOrder answers importEq,
        storesOwn_of_failedLast inOrder importEq⟩
  · intro exception target importEq
    exact importSkills_thrown importEq

/-! ## Without outages -/

/-- Nothing throws. -/
def noOutages : ImportOutages := ⟨fun _ => none, fun _ => none, none⟩

theorem preparedItems_noOutages :
    preparedItems noOutages db skills caller = accepted db skills caller := by
  have same : (fun item : CreateSkillDto × Nat => (failure noOutages db caller item).isNone) =
      (fun dto : CreateSkillDto =>
        !(dto.skillType == .actorCatalog && db.hasCatalog caller.orgId)) ∘ Prod.fst := by
    funext item
    rw [Bool.eq_iff_iff, failure_isNone_iff fun _ => rfl]
    simp [imp_iff_not_or]
  rw [preparedItems, same, ← List.filter_map, List.zipIdx_map_fst, accepted]

theorem insertItems_noOutages {imported : Nat} :
    db.insertItems host noOutages caller imported items embeddings =
      (.ok (imported + items.length), db.insertAll host caller items embeddings) := by
  induction items generalizing imported embeddings db with
  | nil => rfl
  | cons dto rest ih =>
      rw [SkillsDb.insertItems]
      simp only [noOutages]
      rw [← noOutages, ih, SkillsDb.insertAll, List.length_cons, Nat.add_assoc,
        Nat.add_comm 1 rest.length]

/-- An import that nothing disturbs leaves the table that the calls beside the catalogues
leave. -/
theorem importSkills_noOutages :
    (db.importSkills host noOutages skills caller).2 =
      ((Skills.importSkills host skills caller db).toOption).getD db := by
  have same : Skills.importSkills host skills caller db =
      prepareImport host (accepted db skills caller) skills caller >>= fun embeddings =>
        .ok (db.insertAll host caller (inserted db skills caller) embeddings) := by
    simp only [Skills.importSkills, prepareImport, bind_assoc]
    rfl
  rw [SkillsDb.importSkills, preparedItems_noOutages, same]
  cases prepareImport host (accepted db skills caller) skills caller with
  | error exception => rfl
  | ok embeddings =>
      simp only [SkillsDb.insertTransaction, insertItems_noOutages]
      rfl

/-! ## Examples -/

/-- A host that tells texts apart by their lengths. -/
def exampleBatchHost : SkillsHost :=
  { exampleSkillsHost with
    generateEmbeddingBatch := fun texts => .ok (texts.map fun text => some [(text.length : ℚ)]) }

theorem answersInOrder_example : AnswersInOrder exampleBatchHost := by
  intro texts embeddings batchEq
  rw [← Except.ok.inj batchEq, List.length_map]

/-- A table with an active catalogue. -/
def exampleCatalogDb : SkillsDb :=
  ⟨[(exampleSkill .actorCatalog).skill exampleAdmin none (longId 1)]⟩

/-- The result of an import without outages. -/
def exampleImport (types : List SkillType) : Except Exception ImportResult × SkillsDb :=
  exampleCatalogDb.importSkills exampleBatchHost noOutages (types.map exampleSkill) exampleAdmin

/-- A catalogue that is refused stands behind the other item. -/
theorem import_stores_own_iff_example :
    StoresOwn exampleBatchHost noOutages exampleCatalogDb
      ([.vocabulary, .actorCatalog].map exampleSkill) exampleAdmin
      (exampleImport [.vocabulary, .actorCatalog]).2 := by
  have returned : ∃ result, (exampleImport [.vocabulary, .actorCatalog]).1 = .ok result := by
    exact ⟨⟨1, [(1, "ACTOR_CATALOG already exists for org")]⟩, by decide +kernel⟩
  obtain ⟨result, resultEq⟩ := returned
  have last : FailedLast noOutages exampleCatalogDb
      ([.vocabulary, .actorCatalog].map exampleSkill) exampleAdmin := by
    unfold FailedLast
    decide +kernel
  exact ((import_stores_own_iff answersInOrder_example).1 result _
    (Prod.ext resultEq rfl)).2.2.1 last

/-- A catalogue that is refused stands in front of an item, and is stored in its place. -/
theorem refused_item_is_stored :
    ¬ ∀ (host : SkillsHost) (outages : ImportOutages) (db : SkillsDb)
      (skills : List CreateSkillDto) (caller : RequestUser) (result : ImportResult)
      (target : SkillsDb), AnswersInOrder host →
      db.importSkills host outages skills caller = (.ok result, target) →
      StoresOwn host outages db skills caller target := by
  intro always
  have resultEq : (exampleImport [.actorCatalog, .vocabulary]).1 =
      .ok ⟨1, [(0, "ACTOR_CATALOG already exists for org")]⟩ := by
    decide +kernel
  have importEq := Prod.ext resultEq
    (rfl : (exampleImport [.actorCatalog, .vocabulary]).2 = (_, _).2)
  have stores := always _ _ _ _ _ _ _ answersInOrder_example importEq
  have last := failedLast_of_storesOwn answersInOrder_example (fun _ => rfl) importEq stores
  unfold FailedLast at last
  revert last
  decide +kernel

end Manbaa.Skills
