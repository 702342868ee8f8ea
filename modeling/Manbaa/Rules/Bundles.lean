import Manbaa.Rules.History
import Manbaa.Rules.Import
import Mathlib.Data.List.DropRight

/-!
# Bundles that are exported and imported

The active rules of an organization are exported as a bundle, which can be imported where none are
active.  Every call that writes rules trims their texts, and a condition that was stored and read
back does not change any more, so that nothing is lost: the rules that are exported then are those
of the bundle.
-/

namespace Manbaa.Rules

open Manbaa.Lib Manbaa.Lib.Effect

/-! ## Exports -/

/-- A rule in a bundle. -/
def Rule.exported (rule : Rule) : RuleBundleRuleDto where
  rule :=
    { name := rule.name
      description := rule.description
      type := rule.ruleType
      scope := rule.scope
      workflowId := rule.workflowId
      targetAgent := rule.targetAgent
      condition := rule.condition
      instruction := rule.instruction
      priority := some rule.priority }
  version := some rule.version
  isActive := some rule.isActive

/-- `exportRules`: the rules of the bundle. -/
def RulesDb.exportRules (db : RulesDb) (orgId : Uuid) : List RuleBundleRuleDto :=
  (db.activeRules orgId).map Rule.exported

/-! ## Texts without white space around them -/

/-- What is dropped at the end leaves the beginning. -/
theorem dropWhile_rdropWhile {α : Type} {drops : α → Bool} {items : List α}
    (kept : items.dropWhile drops = items) :
    (items.rdropWhile drops).dropWhile drops = items.rdropWhile drops := by
  rw [List.dropWhile_eq_self_iff] at kept ⊢
  intro nonempty
  have isPrefix : items.rdropWhile drops <+: items := List.rdropWhile_prefix drops items
  have first := isPrefix.getElem nonempty
  rw [first]
  exact kept (Nat.lt_of_lt_of_le nonempty isPrefix.length_le)

theorem trim_trim (text : String) : trim (trim text) = trim text := by
  have front := dropWhile_rdropWhile (List.dropWhile_idempotent isSpace text.toList)
  change String.ofList
    ((((String.ofList ((text.toList.dropWhile isSpace).rdropWhile isSpace)).toList).dropWhile
      isSpace).rdropWhile isSpace) = _
  rw [String.toList_ofList, front, List.rdropWhile_idempotent]
  rfl

/-! ## Rows -/

/-- The texts of a rule have no white space around them. -/
structure Rule.IsTrimmed (rule : Rule) : Prop where
  name : trim rule.name = rule.name
  description : rule.description.map trim = rule.description
  instruction : trim rule.instruction = rule.instruction

/-- A rule that is the same once it is written and read back. -/
structure Rule.IsPlain (host : Host) (rule : Rule) : Prop extends rule.IsTrimmed where
  condition : host.stored rule.condition = rule.condition

/-- The rules that a mutation writes. -/
def Writing.rules : Writing → List Rule
  | .nothing => []
  | .save rule | .insert rule => [rule]
  | .insertAll rules => rules

variable {host : Host} {now : Nat} {mutation : Mutation} {writing : Writing} {orgId : Uuid}
  {caller : RequestUser} {rule row : Rule} {state : RulesState} {world reached : Faulty RulesState}
  {left : Option Nat}

/-- A rule is made of trimmed texts. -/
theorem isTrimmed_rule (dto : CreateRuleDto) (id : Uuid) (version : Int) (isActive : Bool) :
    (dto.rule caller id version isActive).IsTrimmed := by
  refine ⟨trim_trim _, ?_, trim_trim _⟩
  change (dto.description.map trim).map trim = dto.description.map trim
  rw [Option.map_map]
  exact congrArg dto.description.map (funext trim_trim)

/-- An update trims the instruction, and leaves the other texts. -/
theorem Rule.IsTrimmed.edit {dto : UpdateRuleDto} {instruction : String} (trimmed : rule.IsTrimmed)
    (nextEq : nextInstruction rule dto = .ok instruction) :
    (rule.edit dto instruction).IsTrimmed := by
  refine ⟨trimmed.name, trimmed.description, ?_⟩
  change trim instruction = instruction
  rw [nextInstruction] at nextEq
  split at nextEq
  · cases nextEq
    exact trimmed.instruction
  · cases nextEq
    exact trim_trim _
  · cases nextEq

/-- Mutations write trimmed rules. -/
theorem prepare_trimmed (trimmed : ∀ row ∈ world.state.db.rules, row.IsTrimmed)
    (prepareEq : mutation.prepare host now world = (.ok (some writing), reached)) :
    ∀ rule ∈ writing.rules, rule.IsTrimmed := by
  cases mutation with
  | create dto caller id =>
      obtain ⟨_, _, _, scopeEq⟩ := bind_eq_ok_iff.mp prepareEq
      obtain ⟨_, _, _, ensureEq⟩ := bind_eq_ok_iff.mp scopeEq
      obtain ⟨_, _, _, pureEq⟩ := bind_eq_ok_iff.mp ensureEq
      cases (pure_eq_ok_iff.mp pureEq).1
      exact List.forall_mem_singleton.mpr (isTrimmed_rule dto id 1 true)
  | update id dto caller =>
      obtain ⟨rule, middle, ruleMem, _, restEq⟩ := found_ok prepareEq
      obtain ⟨instruction, after, askEq, writeEq⟩ := bind_eq_ok_iff.mp restEq
      have edited := (trimmed rule ruleMem).edit (asking_eq_ok_iff.mp askEq).1
      have saved : Rule.IsTrimmed { rule.edit dto instruction with version := rule.version + 1 } :=
        ⟨edited.name, edited.description, edited.instruction⟩
      dsimp only at writeEq
      split at writeEq
      · cases (pure_eq_ok_iff.mp writeEq).1
      · split at writeEq
        · obtain ⟨_, _, _, snapshotEq⟩ := bind_eq_ok_iff.mp writeEq
          rw [snapshot_ok snapshotEq]
          exact List.forall_mem_singleton.mpr saved
        · rw [snapshot_ok writeEq]
          exact List.forall_mem_singleton.mpr saved
  | activate id caller =>
      obtain ⟨rule, middle, ruleMem, _, restEq⟩ := found_ok prepareEq
      have found := trimmed rule ruleMem
      split at restEq
      · cases (pure_eq_ok_iff.mp restEq).1
      · obtain ⟨_, _, _, snapshotEq⟩ := bind_eq_ok_iff.mp restEq
        rw [snapshot_ok snapshotEq]
        exact List.forall_mem_singleton.mpr ⟨found.name, found.description, found.instruction⟩
  | deactivate id caller =>
      obtain ⟨rule, middle, ruleMem, _, restEq⟩ := found_ok prepareEq
      have found := trimmed rule ruleMem
      split at restEq
      · cases (pure_eq_ok_iff.mp restEq).1
      · rw [snapshot_ok restEq]
        exact List.forall_mem_singleton.mpr ⟨found.name, found.description, found.instruction⟩
  | softDelete id caller =>
      obtain ⟨rule, middle, ruleMem, _, restEq⟩ := found_ok prepareEq
      have found := trimmed rule ruleMem
      split at restEq
      · rw [snapshot_ok restEq]
        exact List.forall_mem_singleton.mpr ⟨found.name, found.description, found.instruction⟩
      · cases (pure_eq_ok_iff.mp restEq).1
        exact fun _ absent => absurd absent List.not_mem_nil
  | importRules bundle caller =>
      obtain ⟨_, _, _, cachedEq⟩ := bind_eq_ok_iff.mp prepareEq
      obtain ⟨activeRules, _, _, stageEq⟩ := bind_eq_ok_iff.mp cachedEq
      obtain ⟨stagedRules, _, stagedEq, pureEq⟩ := bind_eq_ok_iff.mp stageEq
      cases (pure_eq_ok_iff.mp pureEq).1
      obtain ⟨rfl, _⟩ := stageRules_ok stagedEq
      intro rule ruleMem
      obtain ⟨item, _, rfl⟩ := List.mem_map.mp ruleMem
      exact isTrimmed_rule _ _ _ _

/-- A row after an insertion was there before, or is one of a rule that was inserted. -/
theorem mem_of_inserted {rules : List Rule} {db target : RulesDb}
    (insertEq : insertRules host now rules db = (.ok (), target)) (rowMem : row ∈ target.rules) :
    row ∈ db.rules ∨ ∃ rule ∈ rules, row = host.row rule now := by
  induction rules generalizing db with
  | nil =>
      obtain ⟨_, rfl⟩ := pure_eq_ok_iff.mp insertEq
      exact Or.inl rowMem
  | cons rule rest ih =>
      rcases ih (insertRules_cons_ok insertEq).2 with before | ⟨other, otherMem, isRow⟩
      · rcases Table.mem_save_iff.mp before with isNew | ⟨old, _⟩
        · exact Or.inr ⟨rule, List.mem_cons_self, isNew⟩
        · exact Or.inl old
      · exact Or.inr ⟨other, List.mem_cons_of_mem _ otherMem, isRow⟩

/-- A row after a mutation was there before, or is one of a rule that was written. -/
theorem mem_of_run (runEq : writing.run host now world = (.ok (), reached))
    (rowMem : row ∈ reached.state.db.rules) :
    row ∈ world.state.db.rules ∨ ∃ rule ∈ writing.rules, row = host.row rule now := by
  cases writing with
  | nothing =>
      obtain ⟨_, rfl⟩ := pure_eq_ok_iff.mp runEq
      exact Or.inl rowMem
  | save rule =>
      obtain ⟨target, saveEq, stateEq⟩ := query_ok runEq
      obtain ⟨_, rfl⟩ := saveRule_ok_iff.mp saveEq
      rw [stateEq] at rowMem
      rcases Table.mem_save_iff.mp rowMem with isNew | ⟨old, _⟩
      · exact Or.inr ⟨rule, List.mem_cons_self, isNew⟩
      · exact Or.inl old
  | insert rule =>
      obtain ⟨target, insertEq, stateEq⟩ := query_ok runEq
      rw [stateEq] at rowMem
      exact mem_of_inserted insertEq rowMem
  | insertAll rules =>
      obtain ⟨target, insertEq, stateEq⟩ := query_ok runEq
      rw [stateEq] at rowMem
      exact mem_of_inserted (transaction_eq_ok_iff.mp insertEq) rowMem

/-- All rows are plain. -/
def RulesDb.Plain (host : Host) (db : RulesDb) : Prop := ∀ row ∈ db.rules, row.IsPlain host

theorem isPlain_row (trimmed : rule.IsTrimmed) : (host.row rule now).IsPlain host :=
  { name := trimmed.name
    description := trimmed.description
    instruction := trimmed.instruction
    condition := stored_stored rule.condition }

/-- A mutation keeps rows plain, wherever it fails. -/
theorem write_plain (plain : world.state.db.Plain host) :
    (mutation.write host now world).2.state.db.Plain host := by
  rw [Mutation.write]
  rcases prepareEq : mutation.prepare host now world with ⟨thrown | writing, middle⟩
  · rw [bind_eq_error_iff.mpr (Or.inl prepareEq)]
    rw [RulesDb.Plain, (recalls_of_prepare prepareEq).rules]
    exact plain
  · have middlePlain : middle.state.db.Plain host := by
      rw [RulesDb.Plain, (recalls_of_prepare prepareEq).rules]
      exact plain
    rw [bind_of_ok prepareEq]
    cases writing with
    | none => exact middlePlain
    | some writing =>
        rcases runEq : writing.run host now middle with ⟨thrown | done, after⟩
        · rw [writeNext, bind_eq_error_iff.mpr (Or.inl runEq), run_throws runEq]
          exact middlePlain
        · rw [writeNext, bind_of_ok runEq]
          intro row rowMem
          rcases mem_of_run runEq rowMem with old | ⟨rule, ruleMem, rfl⟩
          · exact middlePlain row old
          · exact isPlain_row (prepare_trimmed (fun row rowMem => (plain row rowMem).toIsTrimmed)
              prepareEq rule ruleMem)

/-- Rows are plain after every action. -/
theorem plain_step {before after : ContextState} {action : ContextAction}
    (plain : before.service.db.Plain host)
    (stepEq : contextSystem host before action = some after) : after.service.db.Plain host := by
  cases stepEq
  cases action with
  | mutate mutation left =>
      change RulesDb.Plain host ((mutation.call before.now).body host _).2.state.db
      rw [body_db]
      exact write_plain plain
  | read sessionId orgId left =>
      have recalled := @read_recalls host before sessionId orgId ⟨before.service, left⟩
      rw [RulesDb.Plain]
      change ∀ row ∈ (before.read host sessionId orgId ⟨before.service, left⟩).2.state.db.rules, _
      rw [recalled.rules]
      exact plain
  | others tables => exact plain
  | pass elapsed => exact plain

/-! ## An export is imported -/

/-- An item is what is exported of the row that is made of it. -/
theorem exported_row {item : BundleItem} (plain : rule.IsPlain host)
    (same : item.dto = rule.exported) :
    (host.row (item.candidate caller) now).exported = item.dto := by
  rw [BundleItem.candidate, same]
  simp [Rule.exported, CreateRuleDto.rule, Host.row, plain.name, plain.description,
    plain.instruction, plain.condition]

/-- A rule of a bundle has a priority. -/
def RuleBundleRuleDto.priority (dto : RuleBundleRuleDto) : Int := dto.rule.priority.getD 100

/-- Rules with a higher priority are exported first. -/
theorem exportRules_sorted (db : RulesDb) (orgId : Uuid) :
    (db.exportRules orgId).Pairwise fun first second => second.priority ≤ first.priority := by
  rw [RulesDb.exportRules, List.pairwise_map]
  refine (List.pairwise_insertionSort Rule.Before _).imp ?_
  intro first second before
  change second.priority ≤ first.priority
  rw [Rule.Before] at before
  omega

/-- Exports of the same rules are the same, where no two priorities are. -/
theorem eq_of_priorities {first second : List RuleBundleRuleDto} (same : first.Perm second)
    (firstSorted : first.Pairwise fun before after => after.priority ≤ before.priority)
    (secondSorted : second.Pairwise fun before after => after.priority ≤ before.priority)
    (apart : second.Pairwise fun before after => before.priority ≠ after.priority) :
    first = second := by
  have firstApart : first.Pairwise fun before after => before.priority ≠ after.priority :=
    (same.pairwise_iff fun ne => Ne.symm ne).mpr apart
  have strict : ∀ {dtos : List RuleBundleRuleDto},
      dtos.Pairwise (fun before after => after.priority ≤ before.priority) →
      dtos.Pairwise (fun before after => before.priority ≠ after.priority) →
      dtos.Pairwise fun before after => after.priority < before.priority :=
    fun sorted apart => (sorted.and apart).imp fun both => lt_of_le_of_ne both.1 both.2.symm
  exact same.eq_of_pairwise
    (fun _ _ _ _ before after => absurd (before.trans after) (lt_irrefl _))
    (strict firstSorted firstApart) (strict secondSorted apart)

/-- **Nothing is lost in a bundle.**  Whatever an organization has done with its rules, and wherever
its calls have failed, an import of the bundle that it exports, where no rules are active, leaves
the active rules of the bundle and no others; and the same bundle is exported then, if no two rules
have one priority. -/
theorem export_import {start state : ContextState} {actions : List ContextAction}
    {bundle : List BundleItem} {target : RulesState}
    (noRules : start.service.db.rules = [])
    (runEq : (contextSystem host).run start actions = some state)
    (exported : bundle.map BundleItem.dto = state.service.db.exportRules orgId)
    (free : target.db.activeRules caller.orgId = [])
    (accepted : Accepts (importRules host bundle caller now) target) :
    let imported := (importRules host bundle caller now ⟨target, none⟩).2.state.db
    (imported.exportRules caller.orgId).Perm (state.service.db.exportRules orgId) ∧
      ((state.service.db.exportRules orgId).Pairwise
          (fun first second => first.priority ≠ second.priority) →
        imported.exportRules caller.orgId = state.service.db.exportRules orgId) := by
  intro imported
  have plain : state.service.db.Plain host := by
    apply Step.invariant_of_run (fun _ _ _ => plain_step) ?_ runEq
    rw [RulesDb.Plain, noRules]
    exact fun _ absent => absurd absent List.not_mem_nil
  have rulesEq : imported.rules = target.db.rules ++
      bundle.map fun item => host.row (item.candidate caller) now :=
    imported_rules ((accepts_import_iff bundle target).mp accepted)
  have items : ∀ item ∈ bundle, ∃ rule : Rule, rule.IsPlain host ∧ rule.isActive = true ∧
      item.dto = rule.exported := by
    intro item itemMem
    have dtoMem : item.dto ∈ state.service.db.exportRules orgId :=
      exported ▸ List.mem_map_of_mem itemMem
    obtain ⟨rule, ruleMem, isDto⟩ := List.mem_map.mp dtoMem
    obtain ⟨rowMem, _, isActive⟩ := mem_activeRules_iff.mp ruleMem
    exact ⟨rule, plain rule rowMem, isActive, isDto.symm⟩
  have same : (imported.exportRules caller.orgId).Perm (state.service.db.exportRules orgId) := by
    have noneBefore : target.db.rules.filter
        (fun rule => rule.orgId == caller.orgId && rule.isActive) = [] :=
      List.perm_nil.mp (free ▸ (List.perm_insertionSort Rule.Before _).symm)
    have allNew : (bundle.map fun item => host.row (item.candidate caller) now).filter
        (fun rule => rule.orgId == caller.orgId && rule.isActive) =
          bundle.map fun item => host.row (item.candidate caller) now := by
      rw [List.filter_eq_self]
      intro row rowMem
      obtain ⟨item, itemMem, rfl⟩ := List.mem_map.mp rowMem
      obtain ⟨rule, _, isActive, isDto⟩ := items item itemMem
      have active : (host.row (item.candidate caller) now).isActive = true := by
        change item.dto.isActive.getD true = true
        rw [isDto]
        exact isActive
      exact Bool.and_eq_true_iff.mpr ⟨beq_self_eq_true _, active⟩
    have exports : (bundle.map fun item => host.row (item.candidate caller) now).map
        Rule.exported = state.service.db.exportRules orgId := by
      rw [List.map_map, ← exported]
      apply List.map_congr_left
      intro item itemMem
      obtain ⟨rule, isPlain, _, isDto⟩ := items item itemMem
      exact exported_row isPlain isDto
    rw [← exports, RulesDb.exportRules, RulesDb.activeRules, rulesEq, List.filter_append,
      noneBefore, allNew, List.nil_append]
    exact (List.perm_insertionSort Rule.Before _).map Rule.exported
  exact ⟨same, eq_of_priorities same (exportRules_sorted _ _) (exportRules_sorted _ _)⟩

/-! ## Examples -/

/-- A rule whose texts have white space around them is created and later raised. -/
def exampleRaised : List ContextAction :=
  [.mutate (.create { exampleRule exampleCondition " Keep the names. " with name := " Names" }
      exampleManager (uuid "1")) none,
    .pass 1, .mutate (.update (uuid "1") ⟨none, none, some 200, none⟩ exampleManager) none,
    .mutate (.deactivate (uuid "1") exampleManager) (some 1)]

/-- A manager of another organization. -/
def exampleOtherManager : RequestUser := ⟨uuid "other", uuid "branch", "business_analyst"⟩

/-- What is exported then. -/
def exampleExport : List BundleItem :=
  [⟨⟨⟨"Names", none, .actorMapping, .org, none, none, exampleHost.stored exampleCondition,
    "Keep the names.", some 200⟩, some 2, some true⟩, uuid "copy"⟩]

/-- The bundle of one organization is the bundle of another one that has imported it. -/
theorem export_import_example :
    ∃ state, (contextSystem exampleHost).run exampleContext exampleRaised = some state ∧
      exampleExport.map BundleItem.dto = state.service.db.exportRules (uuid "org") ∧
      (importRules exampleHost exampleExport exampleOtherManager 9
          ⟨exampleState, none⟩).2.state.db.exportRules (uuid "branch") =
        state.service.db.exportRules (uuid "org") := by
  have exported : ((contextSystem exampleHost).run exampleContext exampleRaised).map
      (fun state => state.service.db.exportRules (uuid "org")) =
        some (exampleExport.map BundleItem.dto) := by
    decide +kernel
  have accepted : (importRules exampleHost exampleExport exampleOtherManager 9
      ⟨exampleState, none⟩).1 = .ok () := by
    decide +kernel
  obtain ⟨state, runEq, exportEq⟩ := Option.map_eq_some_iff.mp exported
  have imported := export_import rfl runEq exportEq.symm (by decide +kernel) accepted
  refine ⟨state, runEq, exportEq.symm, imported.2 ?_⟩
  rw [exportEq]
  exact List.pairwise_singleton _ _

end Manbaa.Rules
