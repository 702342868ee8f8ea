import Manbaa.Applications.Steps

/-!
# The revision of a draft

A client that saves a draft names the revision it has read, and is refused when the row has another
one.  That protects the draft exactly as long as every other step that replaces a row leaves its
revision and its draft; a version that is created with another schema replaces the draft under the
revision it had, and a late save brings both back.
-/

namespace Manbaa.Applications

open Manbaa.Lib

/-- What becomes of the rows of applications: none is lost, no revision decreases, and one whose
draft is replaced increases. -/
def Revised (db next : ApplicationsDb) : Prop :=
  ∀ id row, db.application? id = some row → ∃ later, next.application? id = some later ∧
    row.schemaRevision ≤ later.schemaRevision ∧
      (later.draftSchema ≠ row.draftSchema → row.schemaRevision < later.schemaRevision)

/-- No run of calls beside each other loses an update of a draft: whenever a client reads a
revision and `saveDraftSchema` succeeds with it later, the draft has been the one of then at every
moment since. -/
structure LosesNoUpdate (state : Sessions.State ApplicationsDb Stage)
    (actions : List (Sessions.Action Request Unit)) : Prop where
  revised : ∀ before between after middle target, actions = before ++ (between ++ after) →
    applicationsSystem.step.run state before = some middle →
    applicationsSystem.step.run middle between = some target →
      Revised middle.store target.store
  unchanged : ∀ before first second after middle moment target,
    actions = before ++ (first ++ second ++ after) →
    applicationsSystem.step.run state before = some middle →
    applicationsSystem.step.run middle first = some moment →
    applicationsSystem.step.run moment second = some target →
    ∀ id row, middle.store.application? id = some row → ∀ dto orgId,
      dto.expectedRevision = some (row.schemaRevision : ℚ) →
      (target.store.saveDraftSchema id dto orgId).isOk = true →
        ∃ later, moment.store.application? id = some later ∧ later.draftSchema = row.draftSchema

/-- The row that an application replaces has its revision and its draft. -/
def ApplicationsDb.KeepsDraft (db : ApplicationsDb) (application : Application) : Prop :=
  ∀ row ∈ db.application? application.id,
    application.schemaRevision = row.schemaRevision ∧ application.draftSchema = row.draftSchema

/-- A new version leaves the draft, and so does a duplicate where its application is not new. -/
def Transaction.KeepsDraft (db : ApplicationsDb) : Transaction → Prop
  | .createVersion id dto _ _ _ =>
      ∀ application ∈ db.application? id, db.KeepsDraft (application.versioned dto).row
  | .duplicate id dto orgId actorId newId _ =>
      ∀ original ∈ db.application? id, db.KeepsDraft (original.copy dto orgId actorId newId).row
  | .saveDraftSchema _ _ _ => True
  | .publishVersion _ _ _ _ _ => True
  | .unpublishVersion _ _ _ => True

/-- A step that succeeds leaves the draft and its revision, unless it is `saveDraftSchema`. -/
def KeepsDraftStep (db : ApplicationsDb) (_ : List Stage) : Stage → Unit → Prop
  | .reading (.transact transaction), _ =>
      (transaction.perform db).isOk = true → transaction.KeepsDraft db
  | .saving application _, _ =>
      (db.saveApplication application).isOk = true → db.KeepsDraft application.row
  | _, _ => True

/-- Revisions count from one. -/
def ApplicationsDb.Numbered (db : ApplicationsDb) : Prop :=
  ∀ id row, db.application? id = some row → 1 ≤ row.schemaRevision

/-- An application is as old as its row, or new. -/
structure ApplicationsDb.NotNewer (db : ApplicationsDb) (application : Application) : Prop where
  numbered : 1 ≤ application.schemaRevision
  bound : application.schemaRevision = 1 ∨ ∃ row, db.application? application.id = some row ∧
    application.schemaRevision ≤ row.schemaRevision

/-- The application that will be saved is as old as its row, or new. -/
def SavesNotNewer (db : ApplicationsDb) (stage : Stage) : Prop :=
  ∀ application entry, stage = .saving application entry → db.NotNewer application

variable {db next : ApplicationsDb} {id orgId actorId versionId newId : Uuid}
  {application saved row : Application} {stage : Stage}

/-! ## Revisions of rows -/

theorem revised_refl (db : ApplicationsDb) : Revised db db :=
  fun _ row found => ⟨row, found, le_refl _, fun differs => absurd rfl differs⟩

theorem Revised.trans {target : ApplicationsDb} (first : Revised db next)
    (second : Revised next target) : Revised db target := by
  intro id row found
  obtain ⟨middle, middleFound, upTo, increases⟩ := first id row found
  obtain ⟨last, lastFound, onTo, increasesOn⟩ := second id middle middleFound
  refine ⟨last, lastFound, le_trans upTo onTo, fun differs => ?_⟩
  by_cases same : middle.draftSchema = row.draftSchema
  · exact lt_of_le_of_lt upTo (increasesOn (same ▸ differs))
  · exact lt_of_lt_of_le (increases same) onTo

/-- A row that is no newer than the one it replaces keeps its draft, or an update may be lost. -/
theorem Replaces.revised_iff (replaces : Replaces db next application)
    (notNewer : ∀ row ∈ db.application? application.id,
      application.schemaRevision ≤ row.schemaRevision) :
    Revised db next ↔ db.KeepsDraft application := by
  constructor
  · intro revised row found
    obtain ⟨later, laterFound, notOlder, increases⟩ := revised application.id row found
    obtain rfl := Option.some.inj (replaces.own.symm.trans laterFound)
    have sameRevision := le_antisymm (notNewer row found) notOlder
    refine ⟨sameRevision, ?_⟩
    by_contra differs
    exact absurd sameRevision (increases differs).ne'
  · intro keeps id row found
    by_cases isOwn : id = application.id
    · obtain ⟨sameRevision, sameDraft⟩ := keeps row (isOwn ▸ found)
      exact ⟨application, isOwn ▸ replaces.own, sameRevision.ge, fun differs =>
        absurd sameDraft differs⟩
    · exact ⟨row, (replaces.others id isOwn).trans found, le_refl _, fun differs =>
        absurd rfl differs⟩

/-- A row with the next revision may have any draft. -/
theorem Replaces.revised_of_lt (replaces : Replaces db next application)
    (newer : ∀ row ∈ db.application? application.id,
      row.schemaRevision < application.schemaRevision) : Revised db next := by
  intro id row found
  by_cases isOwn : id = application.id
  · have later := newer row (isOwn ▸ found)
    exact ⟨application, isOwn ▸ replaces.own, later.le, fun _ => later⟩
  · exact ⟨row, (replaces.others id isOwn).trans found, le_refl _, fun differs =>
      absurd rfl differs⟩

theorem Replaces.numbered (replaces : Replaces db next application) (numbered : db.Numbered)
    (isNumbered : 1 ≤ application.schemaRevision) : next.Numbered := by
  intro id row found
  by_cases isOwn : id = application.id
  · obtain rfl := Option.some.inj (replaces.own.symm.trans (isOwn ▸ found))
    exact isNumbered
  · exact numbered id row ((replaces.others id isOwn).symm.trans found)

theorem ApplicationsDb.NotNewer.le (notNewer : db.NotNewer application) (numbered : db.Numbered)
    (found : row ∈ db.application? application.id) :
    application.schemaRevision ≤ row.schemaRevision := by
  rcases notNewer.bound with isFirst | ⟨other, otherFound, bound⟩
  · exact isFirst ▸ numbered _ row found
  · obtain rfl := Option.some.inj (otherFound.symm.trans found)
    exact bound

theorem ApplicationsDb.NotNewer.revised (notNewer : db.NotNewer application)
    (revised : Revised db next) : next.NotNewer application := by
  refine ⟨notNewer.numbered, notNewer.bound.imp_right ?_⟩
  rintro ⟨row, found, bound⟩
  obtain ⟨later, laterFound, upTo, _⟩ := revised application.id row found
  exact ⟨later, laterFound, le_trans bound upTo⟩

/-! ## Transactions -/

theorem saveDraftSchema_replaces {dto : SaveDraftSchemaDto}
    (performed : db.saveDraftSchema id dto orgId = .ok (saved, next)) :
    ∃ application, db.application? application.id = some application ∧
      saved.id = application.id ∧ saved.schemaRevision = application.schemaRevision + 1 ∧
      Replaces db next saved.row := by
  obtain ⟨application, found, _, _, _, _, rfl, saveEq⟩ := saveDraftSchema_eq_ok performed
  obtain rfl : application.id = id := Table.key_of_get? found
  exact ⟨application, found, rfl, rfl, replaces_of_save saveEq⟩

theorem createVersion_replaces {dto : CreateApplicationVersionDto} {version : ApplicationVersion}
    (performed : db.createVersion id dto orgId actorId versionId = .ok (version, next)) :
    ∃ application, application.id = id ∧ db.application? id = some application ∧
      Replaces db next (application.versioned dto).row := by
  obtain ⟨application, inserted, stored, found, _, _, _, _, insertEq, saveEq, rfl⟩ :=
    createVersion_eq_ok performed
  have replaces := replaces_of_save saveEq
  obtain ⟨_, _, _, rfl⟩ := insertVersion_eq_ok insertEq
  have sameRows : Replaces db stored (application.versioned dto).row :=
    ⟨replaces.own, replaces.others⟩
  exact ⟨application, Table.key_of_get? found, found, sameRows.of_eq rfl⟩

theorem publishVersion_replaces {version : ApplicationVersion} {now : Nat}
    (performed : db.publishVersion id versionId orgId actorId now = .ok (version, next)) :
    ∃ application, db.application? application.id = some application ∧
      Replaces db next (application.publish versionId) := by
  obtain ⟨application, _, found, _, _, _, _, _, _, rfl⟩ := publishVersion_eq_ok performed
  obtain rfl : application.id = id := Table.key_of_get? found
  exact ⟨application, found, replaces_of_put found⟩

theorem unpublishVersion_replaces
    (performed : db.unpublishVersion id orgId actorId = .ok (saved, next)) :
    ∃ application, db.application? application.id = some application ∧
      Replaces db next application.unpublish := by
  obtain ⟨application, _, found, _, _, _, rfl, rfl⟩ := unpublishVersion_eq_ok performed
  obtain rfl : application.id = id := Table.key_of_get? found
  exact ⟨application, found, replaces_of_put found⟩

theorem duplicate_replaces {dto : DuplicateApplicationDto}
    (performed : db.duplicate id dto orgId actorId newId versionId = .ok (saved, next)) :
    ∃ original, db.application? id = some original ∧ saved.id = newId ∧
      saved.schemaRevision = 1 ∧ saved.draftSchema = original.draftSchema ∧
      Replaces db next saved.row := by
  obtain ⟨original, found, savedEq, replaces, _, _⟩ := duplicate_leaves performed
  rw [savedEq] at replaces ⊢
  exact ⟨original, found, rfl, rfl, rfl, replaces⟩

/-- A row with the revision and the draft of its application. -/
theorem Replaces.keeps (replaces : Replaces db next saved)
    (found : db.application? application.id = some application)
    (sameId : saved.id = application.id)
    (sameRevision : saved.schemaRevision = application.schemaRevision)
    (sameDraft : saved.draftSchema = application.draftSchema) : Revised db next := by
  have keeps : db.KeepsDraft saved := by
    intro row rowFound
    obtain rfl := Option.some.inj (found.symm.trans (sameId ▸ rowFound))
    exact ⟨sameRevision, sameDraft⟩
  apply (replaces.revised_iff ?_).mpr keeps
  intro row rowFound
  exact (keeps row rowFound).1.le

/-- A transaction leaves every draft or its revision increases, just when a version and a duplicate
leave it. -/
theorem perform_revised_iff (numbered : db.Numbered) {transaction : Transaction}
    (performed : transaction.perform db = .ok next) :
    Revised db next ↔ transaction.KeepsDraft db := by
  cases transaction with
  | saveDraftSchema id dto orgId =>
      obtain ⟨saved, resultEq⟩ := exists_of_perform performed
      obtain ⟨application, found, sameId, nextRevision, replaces⟩ :=
        saveDraftSchema_replaces resultEq
      refine iff_of_true (replaces.revised_of_lt ?_) trivial
      intro row rowFound
      rw [Application.row, sameId] at rowFound
      obtain rfl := Option.some.inj (found.symm.trans rowFound)
      exact nextRevision ▸ Nat.lt_succ_self _
  | createVersion id dto orgId actorId versionId =>
      obtain ⟨version, resultEq⟩ := exists_of_perform performed
      obtain ⟨application, rfl, found, replaces⟩ := createVersion_replaces resultEq
      have sameRow : ∀ row ∈ db.application? (application.versioned dto).row.id,
          (application.versioned dto).row.schemaRevision ≤ row.schemaRevision := by
        intro row rowFound
        obtain rfl := Option.some.inj (found.symm.trans rowFound)
        exact le_refl _
      rw [replaces.revised_iff sameRow, Transaction.KeepsDraft, found]
      constructor
      · rintro keeps _ ⟨⟩
        exact keeps
      · exact fun keeps => keeps application rfl
  | publishVersion id versionId orgId actorId now =>
      obtain ⟨version, resultEq⟩ := exists_of_perform performed
      obtain ⟨application, found, replaces⟩ := publishVersion_replaces resultEq
      exact iff_of_true (replaces.keeps found rfl rfl rfl) trivial
  | unpublishVersion id orgId actorId =>
      obtain ⟨saved, resultEq⟩ := exists_of_perform performed
      obtain ⟨application, found, replaces⟩ := unpublishVersion_replaces resultEq
      exact iff_of_true (replaces.keeps found rfl rfl rfl) trivial
  | duplicate id dto orgId actorId newId versionId =>
      obtain ⟨saved, resultEq⟩ := exists_of_perform performed
      obtain ⟨original, found, savedId, isFirst, sameDraft, replaces⟩ :=
        duplicate_replaces resultEq
      have notNewer : ∀ row ∈ db.application? saved.row.id,
          saved.row.schemaRevision ≤ row.schemaRevision := by
        intro row rowFound
        exact isFirst.le.trans (numbered _ row rowFound)
      have sameKeeps : db.KeepsDraft saved.row ↔
          db.KeepsDraft (original.copy dto orgId actorId newId).row := by
        simp only [ApplicationsDb.KeepsDraft, Application.row, Application.copy, savedId, isFirst,
          sameDraft]
      rw [replaces.revised_iff notNewer, sameKeeps, Transaction.KeepsDraft, found]
      constructor
      · rintro keeps _ ⟨⟩
        exact keeps
      · exact fun keeps => keeps original rfl

theorem ApplicationsDb.Numbered.perform (numbered : db.Numbered) {transaction : Transaction}
    (performed : transaction.perform db = .ok next) : next.Numbered := by
  cases transaction with
  | saveDraftSchema id dto orgId =>
      obtain ⟨saved, resultEq⟩ := exists_of_perform performed
      obtain ⟨_, _, _, nextRevision, replaces⟩ := saveDraftSchema_replaces resultEq
      exact replaces.numbered numbered (nextRevision ▸ Nat.succ_pos _)
  | createVersion id dto orgId actorId versionId =>
      obtain ⟨version, resultEq⟩ := exists_of_perform performed
      obtain ⟨application, _, found, replaces⟩ := createVersion_replaces resultEq
      exact replaces.numbered numbered (numbered _ application found)
  | publishVersion id versionId orgId actorId now =>
      obtain ⟨version, resultEq⟩ := exists_of_perform performed
      obtain ⟨application, found, replaces⟩ := publishVersion_replaces resultEq
      exact replaces.numbered numbered (numbered _ application found)
  | unpublishVersion id orgId actorId =>
      obtain ⟨saved, resultEq⟩ := exists_of_perform performed
      obtain ⟨application, found, replaces⟩ := unpublishVersion_replaces resultEq
      exact replaces.numbered numbered (numbered _ application found)
  | duplicate id dto orgId actorId newId versionId =>
      obtain ⟨saved, resultEq⟩ := exists_of_perform performed
      obtain ⟨_, _, _, isFirst, _, replaces⟩ := duplicate_replaces resultEq
      exact replaces.numbered numbered isFirst.ge

/-! ## Steps -/

/-- A step leaves every draft or its revision increases, just when it meets the condition. -/
theorem advance_revised_iff (numbered : db.Numbered) (notNewer : SavesNotNewer db stage)
    {others : List Stage} {choice : Unit} :
    KeepsDraftStep db others stage choice ↔
      ∀ next after, stage.advance db = some (next, after) → Revised db next := by
  cases stage with
  | reading request =>
      cases request with
      | transact transaction =>
          rw [KeepsDraftStep, Stage.advance]
          cases performed : transaction.perform db with
          | error failure =>
              refine iff_of_true (fun isOk => (by cases isOk)) ?_
              rintro _ _ ⟨⟩
              exact revised_refl db
          | ok target =>
              have revised := perform_revised_iff numbered performed
              constructor
              · rintro keeps _ _ ⟨⟩
                exact revised.mpr (keeps rfl)
              · exact fun every _ => revised.mp (every target _ rfl)
      | create dto orgId ownerId id =>
          refine iff_of_true trivial ?_
          rintro _ _ ⟨⟩
          exact revised_refl db
      | update id dto orgId actorId =>
          refine iff_of_true trivial ?_
          rintro _ _ ⟨⟩
          exact revised_refl db
      | archive id orgId actorId =>
          refine iff_of_true trivial ?_
          rintro _ _ ⟨⟩
          exact revised_refl db
  | saving application entry =>
      rw [KeepsDraftStep, Stage.advance]
      cases saveEq : db.saveApplication application with
      | error failure =>
          refine iff_of_true (fun isOk => (by cases isOk)) ?_
          rintro _ _ ⟨⟩
          exact revised_refl db
      | ok target =>
          have revised : Revised db target ↔ db.KeepsDraft application.row := by
            apply (replaces_of_save saveEq).revised_iff
            intro row rowFound
            exact (notNewer application entry rfl).le numbered rowFound
          constructor
          · rintro keeps _ _ ⟨⟩
            exact revised.mpr (keeps rfl)
          · exact fun every _ => revised.mp (every target _ rfl)
  | entering entry =>
      refine iff_of_true trivial ?_
      rintro _ _ ⟨⟩
      exact revised_refl db
  | answered failure => exact iff_of_true trivial fun _ _ advanceEq => (by cases advanceEq)

theorem savesNotNewer_answered (failure : Option Failure) :
    SavesNotNewer db (.answered failure) :=
  fun _ _ isSaving => (by cases isSaving)

theorem savesNotNewer_entering (entry : AuditEntry) : SavesNotNewer db (.entering entry) :=
  fun _ _ isSaving => (by cases isSaving)

/-- An application that has been read is as old as its row, also after other columns have
changed. -/
theorem savesNotNewer_saving (numbered : db.Numbered) {entry : AuditEntry}
    (found : db.application? application.id = some application)
    (sameId : saved.id = application.id)
    (sameRevision : saved.schemaRevision = application.schemaRevision) :
    SavesNotNewer db (.saving saved entry) := by
  intro other otherEntry isSaving
  cases isSaving
  refine ⟨sameRevision ▸ numbered _ _ found, Or.inr ⟨application, sameId ▸ found, ?_⟩⟩
  exact sameRevision.le

theorem SavesNotNewer.revised (notNewer : SavesNotNewer db stage) (revised : Revised db next) :
    SavesNotNewer next stage :=
  fun application entry isSaving => (notNewer application entry isSaving).revised revised

theorem notNewer_keeps : applicationsSystem.Keeps (fun _ => True) KeepsDraftStep
    ApplicationsDb.Numbered SavesNotNewer (fun _ _ => True) where
  started := by
    intro db request numbered _
    refine ⟨numbered, fun _ notNewer => notNewer, fun session sessionMem => ⟨?_, fun _ =>
      ⟨trivial, trivial⟩⟩⟩
    cases sessionMem
    intro application entry isSaving
    cases isSaving
  advanced := by
    intro db others stage choice next after leaves keeps advanceEq
    have numbered := leaves.holds
    have revised := (advance_revised_iff numbered leaves.owns).mp keeps next after advanceEq
    have beside : ∀ other ∈ others, SavesNotNewer next other :=
      fun other otherMem => (leaves.beside other otherMem).revised revised
    have parts : ∀ other ∈ others, True ∧ True := fun _ _ => ⟨trivial, trivial⟩
    cases advances_of_advance advanceEq with
    | refused => exact ⟨numbered, savesNotNewer_answered _, beside, parts⟩
    | create =>
        refine ⟨numbered, ?_, beside, parts⟩
        intro application entry isSaving
        cases isSaving
        exact ⟨le_refl _, Or.inl rfl⟩
    | update dto _ _ application found =>
        exact ⟨numbered, savesNotNewer_saving numbered found rfl rfl, beside, parts⟩
    | archive _ _ application found =>
        exact ⟨numbered, savesNotNewer_saving numbered found rfl rfl, beside, parts⟩
    | perform transaction _ performed =>
        exact ⟨numbered.perform performed, savesNotNewer_answered _, beside, parts⟩
    | save application entry _ saveEq =>
        have isNumbered := (leaves.owns application entry rfl).numbered
        exact ⟨(replaces_of_save saveEq).numbered numbered isNumbered,
          savesNotNewer_entering entry, beside, parts⟩
    | unsaved => exact ⟨numbered, savesNotNewer_answered _, beside, parts⟩
    | enter entry => exact ⟨numbered, savesNotNewer_answered _, beside, parts⟩

/-! ## Runs -/

theorem guard_iff_revised {state : Sessions.State ApplicationsDb Stage}
    {action : Sessions.Action Request Unit} (numbered : state.store.Numbered)
    (notNewer : ∀ stage ∈ state.sessions, SavesNotNewer state.store stage) :
    Sessions.Guard (fun _ => True) KeepsDraftStep state action ↔
      ∀ next, applicationsSystem.step state action = some next →
        Revised state.store next.store := by
  cases action with
  | start request =>
      refine iff_of_true trivial ?_
      rintro _ ⟨⟩
      exact revised_refl _
  | advance index choice =>
      constructor
      · intro met next stepEq
        rcases Sessions.step_cases stepEq with ⟨_, isStart, _⟩ |
          ⟨_, _, stage, _, _, ⟨⟩, stageEq, advanceEq, rfl⟩
        · cases isStart
        · exact (advance_revised_iff numbered
            (notNewer stage (List.mem_of_getElem? stageEq))).mp (met stage stageEq) _ _ advanceEq
      · intro every stage stageEq
        apply (advance_revised_iff numbered (notNewer stage (List.mem_of_getElem? stageEq))).mpr
        intro next after advanceEq
        apply every ⟨next, state.sessions.set index after⟩
        rw [Sessions.step, stageEq, Option.bind_some]
        exact congrArg _ advanceEq

/-- Between two moments at which the revision is the same, the draft has been the same. -/
theorem unchanged_between {middle moment target : ApplicationsDb} (first : Revised middle moment)
    (second : Revised moment target) (found : middle.application? id = some row)
    {dto : SaveDraftSchemaDto} (read : dto.expectedRevision = some (row.schemaRevision : ℚ))
    (succeeds : (target.saveDraftSchema id dto orgId).isOk = true) :
    ∃ later, moment.application? id = some later ∧ later.draftSchema = row.draftSchema := by
  obtain ⟨later, laterFound, upTo, increases⟩ := first id row found
  obtain ⟨last, lastFound, onTo, _⟩ := second id later laterFound
  refine ⟨later, laterFound, ?_⟩
  cases performed : target.saveDraftSchema id dto orgId with
  | error failure =>
      rw [performed] at succeeds
      cases succeeds
  | ok result =>
      obtain ⟨application, applicationFound, _, _, expected, _⟩ := saveDraftSchema_eq_ok performed
      obtain rfl := Option.some.inj (lastFound.symm.trans applicationFound)
      have sameRevision : last.schemaRevision = row.schemaRevision :=
        Rat.natCast_inj.mp (expected _ read)
      by_contra differs
      have later_lt := increases differs
      omega

/-- **No update of a draft is lost** in a run of calls beside each other, just when every step but
`saveDraftSchema` that replaces a row leaves its revision and its draft. -/
theorem loses_no_update_iff {state : Sessions.State ApplicationsDb Stage}
    {actions : List (Sessions.Action Request Unit)} (numbered : state.store.Numbered)
    (quiet : state.sessions = []) :
    LosesNoUpdate state actions ↔
      applicationsSystem.step.Meets (Sessions.Guard (fun _ => True) KeepsDraftStep) state
        actions := by
  let related (before after : Sessions.State ApplicationsDb Stage) : Prop :=
    Revised before.store after.store
  have invariant : Sessions.Invariant ApplicationsDb.Numbered SavesNotNewer (fun _ _ => True)
      state := .of_no_sessions numbered quiet
  have sameSteps : applicationsSystem.step.Meets (Sessions.Guard (fun _ => True) KeepsDraftStep)
      state actions ↔ applicationsSystem.step.Meets (fun state action => ∀ next,
        applicationsSystem.step state action = some next → Revised state.store next.store) state
        actions := by
    apply Step.meets_iff_of_guarded ?_ ?_ invariant
    · exact fun _ _ _ => notNewer_keeps.step
    · exact fun _ _ invariant => guard_iff_revised invariant.holds invariant.owns
  rw [sameSteps]
  refine Iff.trans ?_ (Step.related_iff_meets related (fun state => revised_refl state.store)
    (fun _ _ _ => Revised.trans))
  constructor
  · exact LosesNoUpdate.revised
  · intro moments
    refine ⟨moments, ?_⟩
    intro before first second after middle moment target split middleEq momentEq targetEq id row
      found dto orgId read succeeds
    have toMoment := moments before first (second ++ after) middle moment
      (by rw [split, List.append_assoc]) middleEq momentEq
    have toTarget := moments (before ++ first) second after moment target
      (by simp only [split, List.append_assoc])
      (by rw [Step.run_append, middleEq]; exact momentEq) targetEq
    exact unchanged_between toMoment toTarget found read succeeds

/-! ## Runs that can be computed -/

instance (db : ApplicationsDb) (application : Application) :
    Decidable (db.KeepsDraft application) :=
  inferInstanceAs (Decidable (∀ row ∈ db.application? application.id,
    application.schemaRevision = row.schemaRevision ∧
      application.draftSchema = row.draftSchema))

instance (db : ApplicationsDb) (transaction : Transaction) :
    Decidable (transaction.KeepsDraft db) :=
  match transaction with
  | .createVersion id dto _ _ _ => inferInstanceAs (Decidable
      (∀ application ∈ db.application? id, db.KeepsDraft (application.versioned dto).row))
  | .duplicate id dto orgId actorId newId _ => inferInstanceAs (Decidable
      (∀ original ∈ db.application? id,
        db.KeepsDraft (original.copy dto orgId actorId newId).row))
  | .saveDraftSchema _ _ _ => .isTrue trivial
  | .publishVersion _ _ _ _ _ => .isTrue trivial
  | .unpublishVersion _ _ _ => .isTrue trivial

instance (db : ApplicationsDb) (others : List Stage) (stage : Stage) (choice : Unit) :
    Decidable (KeepsDraftStep db others stage choice) :=
  match stage, choice with
  | .reading (.transact transaction), _ => inferInstanceAs
      (Decidable ((transaction.perform db).isOk = true → transaction.KeepsDraft db))
  | .reading (.create _ _ _ _), _ => .isTrue trivial
  | .reading (.update _ _ _ _), _ => .isTrue trivial
  | .reading (.archive _ _ _), _ => .isTrue trivial
  | .saving application _, _ => inferInstanceAs
      (Decidable ((db.saveApplication application).isOk = true → db.KeepsDraft application.row))
  | .entering _, _ => .isTrue trivial
  | .answered _, _ => .isTrue trivial

/-- A draft that is saved over the first revision. -/
def exampleFirstDraft : SaveDraftSchemaDto := ⟨[], none, some 1⟩

/-- A version, whose schema becomes the draft. -/
def exampleOwnSchema : Transaction :=
  .createVersion (uuid "a1") ⟨"1.0.0", [], none⟩ (uuid "o") (uuid "u") (uuid "v1")

/-- A draft is saved, and a version is made of it. -/
def exampleRevised : List (Sessions.Action Request Unit) :=
  exampleTransacts 0 (.saveDraftSchema (uuid "a1") exampleFirstDraft (uuid "o")) ++
    exampleTransacts 1 exampleOwnSchema

theorem exampleQuiet_numbered : exampleQuiet.store.Numbered := by
  intro id row found
  obtain rfl := List.mem_singleton.mp (Table.mem_of_get? found)
  exact le_refl _

theorem loses_no_update_iff_example : LosesNoUpdate exampleQuiet exampleRevised :=
  (loses_no_update_iff exampleQuiet_numbered rfl).mpr (by decide +kernel)

/-- **A draft is overwritten under the revision that it had**: a version with a schema of its own
has been created since, and the revision that was read before is still accepted. -/
theorem draft_overwritten :
    ¬ LosesNoUpdate exampleQuiet (exampleTransacts 0 exampleOwnSchema) := by
  intro loses
  have ended : ((applicationsSystem.step.run exampleQuiet
      (exampleTransacts 0 exampleOwnSchema)).map fun target =>
        (target.store.saveDraftSchema ⟨"a1", rfl⟩ exampleFirstDraft ⟨"o", rfl⟩).isOk &&
          ((target.store.application? ⟨"a1", rfl⟩).all fun later =>
            later.draftSchema.isSome)) = some true := by
    decide +kernel
  obtain ⟨target, targetEq, holds⟩ := Option.map_eq_some_iff.mp ended
  obtain ⟨succeeds, changed⟩ := Bool.and_eq_true_iff.mp holds
  obtain ⟨later, laterFound, unchanged⟩ := loses.unchanged [] _ [] [] exampleQuiet target target
    (by rw [List.append_nil, List.append_nil, List.nil_append]) rfl targetEq rfl ⟨"a1", rfl⟩
    exampleApplication (by decide) exampleFirstDraft ⟨"o", rfl⟩ rfl succeeds
  rw [laterFound, Option.all_some, unchanged] at changed
  cases changed

end Manbaa.Applications
