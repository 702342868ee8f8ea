import Manbaa.Lib.Run
import Manbaa.Rules.Checks

/-!
# No two active rules contradict each other

Calls that write rules, one after the other, each to its end.  An organization that
starts without rules has no two active rules that contradict each other, as long as
every comparison sees the overlap of conditions that share a value: a condition as it
was sent and one that was read back may have its keys in another order.
-/

namespace Manbaa.Rules

open Manbaa.Lib Manbaa.Lib.Effect

/-! ## The system -/

/-- A call that writes rules or remembers them. -/
inductive RuleCall where
  | create (dto : CreateRuleDto) (caller : RequestUser) (id : Uuid) (now : Nat)
  | update (id : Uuid) (dto : UpdateRuleDto) (caller : RequestUser) (now : Nat)
  | activate (id : Uuid) (caller : RequestUser) (now : Nat)
  | deactivate (id : Uuid) (caller : RequestUser) (now : Nat)
  | softDelete (id : Uuid) (caller : RequestUser) (now : Nat)
  | importRules (bundle : List BundleItem) (caller : RequestUser) (now : Nat)
  | remember (orgId : Uuid) (now : Nat)

/-- What a call runs. -/
def RuleCall.body (host : Host) : RuleCall → Calls Unit
  | .create dto caller id now => Rules.create host dto caller id now
  | .update id dto caller now => Rules.update host id dto caller now
  | .activate id caller now => Rules.activate host id caller now
  | .deactivate id caller now => Rules.deactivate host id caller now
  | .softDelete id caller now => Rules.softDelete host id caller now
  | .importRules bundle caller now => Rules.importRules host bundle caller now
  | .remember orgId now => do
      let _ ← getCachedActiveRules orgId now
      pure ()

/-- One call after the other; no other system fails. -/
def rulesSystem (host : Host) : Step RulesState RuleCall :=
  Step.ofTotal fun state call => (call.body host ⟨state, none⟩).2.state

/-- A rule of a bundle, as it is built. -/
def BundleItem.candidate (item : BundleItem) (caller : RequestUser) : Rule :=
  item.dto.rule.rule caller item.id (item.dto.version.getD 1) (item.dto.isActive.getD true)

/-- The rules that a call would write with a condition from its body. -/
def RuleCall.candidates (db : RulesDb) : RuleCall → List Rule
  | .create dto caller id _ => [dto.rule caller id 1 true]
  | .update id dto caller _ =>
      match (db.rule? id).filter fun rule => rule.orgId == caller.orgId with
      | none => []
      | some rule => ((nextInstruction rule dto).toOption.map (rule.edit dto)).toList
  | .importRules bundle caller _ => bundle.map fun item => item.candidate caller
  | _ => []

/-- The comparisons of a candidate with the active rules beside it see what they have to
see. -/
def SeesBeside (host : Host) (orgId : Uuid) (pool : List Rule) (candidate : Rule) : Prop :=
  candidate.orgId = orgId → candidate.isActive = true →
    candidate.ruleType ∈ contradictableRuleTypes → ∀ other ∈ pool, other.id ≠ candidate.id →
      other.isActive = true → candidate.Beside other → Sees host candidate other

/-- So do the comparisons of candidates that are written one after the other. -/
def SeesAll (host : Host) (orgId : Uuid) : List Rule → List Rule → Prop
  | _, [] => True
  | pool, candidate :: rest =>
      SeesBeside host orgId pool candidate ∧ SeesAll host orgId (pool ++ [candidate]) rest

/-- No comparison of a call misses an overlap because of the order of keys. -/
def Seeing (host : Host) (orgId : Uuid) (state : RulesState) (call : RuleCall) : Prop :=
  SeesAll host orgId state.db.rules (call.candidates state.db)

instance (host : Host) (orgId : Uuid) (pool : List Rule) (candidate : Rule) :
    Decidable (SeesBeside host orgId pool candidate) :=
  inferInstanceAs (Decidable (candidate.orgId = orgId → candidate.isActive = true →
    candidate.ruleType ∈ contradictableRuleTypes → ∀ other ∈ pool, other.id ≠ candidate.id →
      other.isActive = true → candidate.Beside other → Sees host candidate other))

instance decidableSeesAll (host : Host) (orgId : Uuid) :
    ∀ pool candidates, Decidable (SeesAll host orgId pool candidates)
  | _, [] => .isTrue trivial
  | pool, candidate :: rest =>
      have := decidableSeesAll host orgId (pool ++ [candidate]) rest
      inferInstanceAs (Decidable (SeesBeside host orgId pool candidate ∧
        SeesAll host orgId (pool ++ [candidate]) rest))

instance (host : Host) (orgId : Uuid) (state : RulesState) (call : RuleCall) :
    Decidable (Seeing host orgId state call) :=
  inferInstanceAs (Decidable (SeesAll host orgId state.db.rules (call.candidates state.db)))

/-! ## What holds between calls -/

/-- Remembered rules of the organization are all of its active rules. -/
def Remembers (orgId : Uuid) (state : RulesState) : Prop :=
  ∀ entry ∈ state.activeRuleCache, entry.1 = orgId → ∀ rule ∈ state.db.rules,
    rule.orgId = orgId → rule.isActive = true → rule ∈ entry.2.rules

/-- What holds of an organization between two calls. -/
structure Consistent (host : Host) (orgId : Uuid) (state : RulesState) : Prop where
  apart : Apart host orgId state.db.rules
  remembers : Remembers orgId state

variable {host : Host} {orgId : Uuid} {state : RulesState} {caller : RequestUser}
  {candidate rule row : Rule} {rules pool candidates : List Rule} {now : Nat}

/-- A candidate is written as a harmless row, if it contradicts none of the rules as they
were before they were stored, and sees what it has to see. -/
theorem harmless_row (apart : candidate.isActive = true →
      candidate.ruleType ∈ contradictableRuleTypes → ∀ row ∈ rules, row.id ≠ candidate.id →
        row.isActive = true → candidate.Beside row → ∃ other later, row = host.row other later ∧
          Sees host candidate other ∧ conflicts host candidate other = false) :
    Harmless host rules (host.row candidate now) := by
  intro isActive contradictable row rowMem ne rowActive beside
  obtain ⟨other, later, rfl, sees, agrees⟩ :=
    apart isActive contradictable row rowMem ne rowActive beside
  exact sees.apart agrees

/-- A row of the organization is stored as it is. -/
theorem Apart.row_eq (apart : Apart host orgId rules) (ruleMem : rule ∈ rules)
    (inOrg : rule.orgId = orgId) : rule = host.row rule rule.updatedAt := by
  rw [Host.row, apart.stored rule ruleMem inOrg]

/-- A candidate that `ensureNoConflict` lets through, without the rule that it replaces,
is harmless. -/
theorem harmless_of_ensure (now : Nat) {excludeRuleId : Option Uuid} {reached : Faulty RulesState}
    (consistent : Consistent host orgId state) (inOrg : candidate.orgId = orgId)
    (sees : SeesBeside host orgId state.db.rules candidate)
    (excluded : ∀ id, excludeRuleId = some id → id = candidate.id)
    (ensureEq : candidate.isActive = true →
      ensureNoConflict host candidate excludeRuleId none ⟨state, none⟩ = (.ok (), reached)) :
    Harmless host state.db.rules (host.row candidate now) := by
  apply harmless_row
  intro isActive contradictable row rowMem ne rowActive beside
  have rowOrg : row.orgId = orgId := beside.1.symm.trans inOrg
  refine ⟨row, row.updatedAt, consistent.apart.row_eq rowMem rowOrg, ?_, ?_⟩
  · exact sees inOrg isActive contradictable row rowMem ne rowActive beside
  · apply ensureNoConflict_ok (ensureEq isActive) isActive contradictable
    · exact mem_besides_iff.mpr ⟨rowMem, rowActive, beside⟩
    · intro same
      exact ne (excluded row.id same)

/-- A call that writes rows ends with the remembered rules forgotten. -/
theorem leaves_finish {body : Statements Unit} (consistent : Consistent host orgId state)
    (atomic : Atomic body)
    (apart : ∀ target, body state.db = (.ok (), target) → Apart host orgId target.rules)
    (others : ∀ target, body state.db = (.ok (), target) → ∀ rule ∈ target.rules,
      rule ∈ state.db.rules ∨ rule.orgId = caller.orgId) :
    Leaves (Consistent host orgId)
      (query body >>= fun _ => finishRule caller.orgId) ⟨state, none⟩ := by
  rcases bodyEq : body state.db with ⟨thrown | done, target⟩
  · have queryEq : query body ⟨state, none⟩ = (.error thrown, ⟨state, none⟩) := by
      rw [query_calm, bodyEq, ← atomic _ _ _ bodyEq]
    rw [Leaves, bind_eq_error_iff.mpr (Or.inl queryEq)]
    exact consistent
  · have queryEq : query body ⟨state, none⟩ =
        (.ok (), ⟨{ state with db := target }, none⟩) := by
      rw [query_calm, bodyEq]
    have finishEq : finishRule caller.orgId ⟨{ state with db := target }, none⟩ =
        (.ok (), ⟨{ state with db := target }.forget caller.orgId, none⟩) := rfl
    rw [Leaves, bind_of_ok queryEq, finishEq]
    constructor
    · exact apart target bodyEq
    · intro entry entryMem entryOrg rule ruleMem inOrg isActive
      obtain ⟨entryMem, entryNe⟩ := List.mem_filter.mp entryMem
      rw [bne_iff_ne, entryOrg] at entryNe
      rcases others target bodyEq rule ruleMem with old | new
      · exact consistent.remembers entry entryMem entryOrg rule old inOrg isActive
      · exact absurd (inOrg.symm.trans new) entryNe

/-- A call that saves one row of the caller's organization. -/
theorem leaves_save (rule : Rule) (consistent : Consistent host orgId state)
    (inOrg : rule.orgId = caller.orgId)
    (harmless : rule.orgId = orgId → Harmless host state.db.rules (host.row rule now)) :
    Leaves (Consistent host orgId)
      (query (saveRule host rule now) >>= fun _ => finishRule caller.orgId) ⟨state, none⟩ := by
  apply leaves_finish consistent (atomic_saveRule host rule now)
  · intro target saveEq
    obtain ⟨_, rfl⟩ := saveRule_ok_iff.mp saveEq
    exact consistent.apart.save (stored_stored _) harmless
  · intro target saveEq row rowMem
    obtain ⟨_, rfl⟩ := saveRule_ok_iff.mp saveEq
    rcases Table.mem_save_iff.mp rowMem with rfl | ⟨old, _⟩
    · exact Or.inr inOrg
    · exact Or.inl old

/-- What was kept of a rule does not count. -/
theorem leaves_snapshot {next : Unit → Calls Unit} (rule : Rule) (changedBy : Uuid)
    (consistent : Consistent host orgId state)
    (keeps : ∀ after : RulesState, Consistent host orgId after → after.db.rules = state.db.rules →
      Leaves (Consistent host orgId) (next ()) ⟨after, none⟩) :
    Leaves (Consistent host orgId) (snapshotRuleVersion rule changedBy >>= next) ⟨state, none⟩ := by
  have snapshotEq : snapshotRuleVersion rule changedBy ⟨state, none⟩ = (.ok (), ⟨{ state with
      db := { state.db with ruleVersions := state.db.ruleVersions ++ [rule.snapshot changedBy] } },
      none⟩) := rfl
  rw [Leaves, bind_of_ok snapshotEq]
  exact keeps _ ⟨consistent.apart, consistent.remembers⟩ rfl

/-! ## Calls that write one rule -/

/-- A call begins with a rule that it finds. -/
theorem leaves_find {id : Uuid} {next : Rule → Calls Unit} (consistent : Consistent host orgId state)
    (keeps : ∀ rule, state.db.rule? id = some rule → rule.orgId = caller.orgId →
      Leaves (Consistent host orgId) (next rule) ⟨state, none⟩) :
    Leaves (Consistent host orgId)
      (assertRuleManager caller >>= fun _ => findRuleOrThrow id caller.orgId >>= next)
      ⟨state, none⟩ := by
  apply Leaves.afterCalm (quiet_assertRuleManager caller) (calm_assertRuleManager caller) consistent
  intro _ _
  apply Leaves.afterCalm (quiet_findRuleOrThrow _ _) (calm_findRuleOrThrow _ _) consistent
  intro rule findEq
  obtain ⟨found, inOrg⟩ := findRuleOrThrow_ok findEq
  exact keeps rule found inOrg

theorem create_leaves {dto : CreateRuleDto} {id : Uuid} (consistent : Consistent host orgId state)
    (seeing : Seeing host orgId state (.create dto caller id now)) :
    Leaves (Consistent host orgId) (create host dto caller id now) ⟨state, none⟩ := by
  apply Leaves.afterCalm (quiet_assertRuleManager caller) (calm_assertRuleManager caller) consistent
  intro _ _
  apply Leaves.afterCalm (quiet_assertScopeConsistency _ _ _ _)
    (calm_assertScopeConsistency _ _ _ _) consistent
  intro _ _
  apply Leaves.afterCalm (quiet_ensureNoConflict _ _ _ _) (calm_ensureNoConflict _ _ _ _) consistent
  intro _ ensureEq
  apply leaves_finish consistent (atomic_insertRules_singleton _ _ _)
  · intro target insertEq
    obtain ⟨_, restEq⟩ := insertRules_cons_ok insertEq
    obtain ⟨_, rfl⟩ := pure_eq_ok_iff.mp restEq
    apply consistent.apart.save (stored_stored _)
    intro inOrg
    exact harmless_of_ensure now consistent inOrg seeing.1 (fun _ absent => by cases absent)
      fun _ => ensureEq
  · intro target insertEq row rowMem
    obtain ⟨_, restEq⟩ := insertRules_cons_ok insertEq
    obtain ⟨_, rfl⟩ := pure_eq_ok_iff.mp restEq
    rcases Table.mem_save_iff.mp rowMem with rfl | ⟨old, _⟩
    · exact Or.inr rfl
    · exact Or.inl old

theorem update_leaves {id : Uuid} {dto : UpdateRuleDto} (consistent : Consistent host orgId state)
    (seeing : Seeing host orgId state (.update id dto caller now)) :
    Leaves (Consistent host orgId) (update host id dto caller now) ⟨state, none⟩ := by
  apply leaves_find consistent
  intro rule found inOrg
  apply Leaves.afterCalm (quiet_of_readOnly readOnly_asking) (calm_of_readOnly readOnly_asking)
    consistent
  intro instruction askEq
  obtain ⟨instructionEq, _⟩ := asking_eq_ok_iff.mp askEq
  have sees : SeesBeside host orgId state.db.rules (rule.edit dto instruction) := by
    have candidates : (RuleCall.update id dto caller now).candidates state.db =
        [rule.edit dto instruction] := by
      have same : (some rule).filter (fun rule => rule.orgId == caller.orgId) = some rule :=
        Option.filter_eq_some_iff.mpr ⟨rfl, beq_iff_eq.mpr inOrg⟩
      rw [RuleCall.candidates, found, same]
      simp [instructionEq, Except.toOption]
    rw [Seeing, candidates] at seeing
    exact seeing.1
  dsimp only
  split
  · exact consistent
  · have save : ((rule.edit dto instruction).orgId = orgId →
          Harmless host state.db.rules (host.row (rule.edit dto instruction) now)) →
        Leaves (Consistent host orgId) (do
          snapshotRuleVersion rule caller.id
          query (saveRule host { rule.edit dto instruction with version := rule.version + 1 } now)
          finishRule caller.orgId) ⟨state, none⟩ := by
      intro harmless
      apply leaves_snapshot rule caller.id consistent
      intro after afterConsistent rulesEq
      apply leaves_save { rule.edit dto instruction with version := rule.version + 1 }
        afterConsistent inOrg
      intro ruleOrg
      rw [rulesEq]
      exact harmless ruleOrg
    split
    · apply Leaves.afterCalm (quiet_ensureNoConflict _ _ _ _) (calm_ensureNoConflict _ _ _ _)
        consistent
      intro _ ensureEq
      apply save
      intro nextOrg
      apply harmless_of_ensure now consistent nextOrg sees _ fun _ => ensureEq
      intro other otherEq
      exact (Option.some.inj otherEq).symm
    · rename_i inactive
      apply save
      intro _ isActive
      exact absurd isActive inactive

/-- An inactive row is harmless. -/
theorem harmless_of_inactive (inactive : row.isActive = false) : Harmless host rules row := by
  intro isActive
  rw [inactive] at isActive
  cases isActive

theorem activate_leaves {id : Uuid} (consistent : Consistent host orgId state) :
    Leaves (Consistent host orgId) (activate host id caller now) ⟨state, none⟩ := by
  apply leaves_find consistent
  intro rule found inOrg
  split
  · exact consistent
  · apply Leaves.afterCalm (quiet_ensureNoConflict _ _ _ _) (calm_ensureNoConflict _ _ _ _) consistent
    intro _ ensureEq
    apply leaves_snapshot rule caller.id consistent
    intro after afterConsistent rulesEq
    apply leaves_save (rule.switch true) afterConsistent inOrg
    intro ruleOrg
    rw [rulesEq]
    have sees : SeesBeside host orgId state.db.rules { rule with isActive := true } := by
      intro _ _ _ other otherMem _ _ beside
      apply sees_of_stored
      · exact consistent.apart.stored rule (Table.mem_of_get? found) ruleOrg
      · exact consistent.apart.stored other otherMem (beside.1.symm.trans ruleOrg)
    have harmless : Harmless host state.db.rules (host.row { rule with isActive := true } now) := by
      apply harmless_of_ensure now consistent ruleOrg sees _ fun _ => ensureEq
      intro other otherEq
      exact (Option.some.inj otherEq).symm
    exact harmless

theorem deactivate_leaves {id : Uuid} (consistent : Consistent host orgId state) :
    Leaves (Consistent host orgId) (deactivate host id caller now) ⟨state, none⟩ := by
  apply leaves_find consistent
  intro rule _ inOrg
  split
  · exact consistent
  · apply leaves_snapshot rule caller.id consistent
    intro after afterConsistent _
    exact leaves_save (rule.switch false) afterConsistent inOrg fun _ => harmless_of_inactive rfl

theorem finishRule_leaves (consistent : Consistent host orgId state) :
    Leaves (Consistent host orgId) (finishRule caller.orgId) ⟨state, none⟩ := by
  constructor
  · exact consistent.apart
  · intro entry entryMem
    exact consistent.remembers entry (List.mem_filter.mp entryMem).1

theorem softDelete_leaves {id : Uuid} (consistent : Consistent host orgId state) :
    Leaves (Consistent host orgId) (softDelete host id caller now) ⟨state, none⟩ := by
  apply leaves_find consistent
  intro rule _ inOrg
  split
  · apply leaves_snapshot rule caller.id consistent
    intro after afterConsistent _
    exact leaves_save (rule.switch false) afterConsistent inOrg fun _ => harmless_of_inactive rfl
  · exact finishRule_leaves consistent

/-! ## Importing a bundle -/

/-- Candidates that are let through one after the other: an active one contradicts none
of the rules of the pool, nor one that came before it. -/
def Clear (host : Host) : List Rule → List Rule → Prop
  | _, [] => True
  | pool, candidate :: rest =>
      (candidate.isActive = true → candidate.ruleType ∈ contradictableRuleTypes →
        ∀ other ∈ pool, conflicts host candidate other = false) ∧
      Clear host (pool ++ [candidate]) rest

theorem quiet_buildImportedRule (item : BundleItem) (caller : RequestUser) :
    Quiet (buildImportedRule item caller) :=
  (quiet_assertScopeConsistency _ _ _ _).bind fun _ => quiet_of_readOnly readOnly_pure

theorem calm_buildImportedRule (item : BundleItem) (caller : RequestUser) :
    Calm (buildImportedRule item caller) :=
  (calm_assertScopeConsistency _ _ _ _).bind fun _ => calm_of_readOnly readOnly_pure

theorem buildImportedRule_ok {item : BundleItem} {world reached : Faulty RulesState}
    (buildEq : buildImportedRule item caller world = (.ok candidate, reached)) :
    candidate = item.candidate caller := by
  obtain ⟨_, _, _, pureEq⟩ := bind_eq_ok_iff.mp buildEq
  exact (pure_eq_ok_iff.mp pureEq).1.symm

/-- The comparison of a candidate that is built. -/
theorem quiet_ensureActive (candidate : Rule) (rulePool : Option (List Rule)) :
    Quiet (if candidate.isActive then ensureNoConflict host candidate none rulePool
      else pure ()) := by
  split
  · exact quiet_ensureNoConflict _ _ _ _
  · exact quiet_of_readOnly readOnly_pure

theorem calm_ensureActive (candidate : Rule) (rulePool : Option (List Rule)) :
    Calm (if candidate.isActive then ensureNoConflict host candidate none rulePool
      else pure ()) := by
  split
  · exact calm_ensureNoConflict _ _ _ _
  · exact calm_of_readOnly readOnly_pure

theorem stageRules_cons (activeRules : List Rule) (item : BundleItem) (rest : List BundleItem)
    (stagedRules : List Rule) : stageRules host caller activeRules (item :: rest) stagedRules =
      buildImportedRule item caller >>= fun candidate =>
        (if candidate.isActive then
          ensureNoConflict host candidate none (some (activeRules ++ stagedRules))
        else pure ()) >>= fun _ =>
          stageRules host caller activeRules rest (stagedRules ++ [candidate]) := by
  rw [stageRules]
  congr
  funext candidate world
  cases candidate.isActive <;> rfl

theorem quiet_stageRules (activeRules : List Rule) (items : List BundleItem)
    (stagedRules : List Rule) : Quiet (stageRules host caller activeRules items stagedRules) := by
  induction items generalizing stagedRules with
  | nil => exact quiet_of_readOnly readOnly_pure
  | cons item rest ih =>
      rw [stageRules_cons]
      exact (quiet_buildImportedRule item caller).bind fun candidate =>
        (quiet_ensureActive candidate _).bind fun _ => ih (stagedRules ++ [candidate])

theorem calm_stageRules (activeRules : List Rule) (items : List BundleItem)
    (stagedRules : List Rule) : Calm (stageRules host caller activeRules items stagedRules) := by
  induction items generalizing stagedRules with
  | nil => exact calm_of_readOnly readOnly_pure
  | cons item rest ih =>
      rw [stageRules_cons]
      exact (calm_buildImportedRule item caller).bind fun candidate =>
        (calm_ensureActive candidate _).bind fun _ => ih (stagedRules ++ [candidate])

/-- A bundle that is staged consists of rules that are let through one after the other. -/
theorem stageRules_ok {activeRules stagedRules result : List Rule} {items : List BundleItem}
    {world reached : Faulty RulesState}
    (stageEq : stageRules host caller activeRules items stagedRules world = (.ok result, reached)) :
    result = stagedRules ++ items.map (fun item => item.candidate caller) ∧
      Clear host (activeRules ++ stagedRules) (items.map fun item => item.candidate caller) := by
  induction items generalizing stagedRules world with
  | nil =>
      obtain ⟨rfl, _⟩ := pure_eq_ok_iff.mp stageEq
      exact ⟨by simp, trivial⟩
  | cons item rest ih =>
      rw [stageRules_cons] at stageEq
      obtain ⟨candidate, built, buildEq, ensureRest⟩ := bind_eq_ok_iff.mp stageEq
      obtain ⟨_, checked, ensureEq, restEq⟩ := bind_eq_ok_iff.mp ensureRest
      obtain rfl := buildImportedRule_ok buildEq
      obtain ⟨resultEq, clear⟩ := ih restEq
      rw [List.append_assoc] at resultEq
      rw [← List.append_assoc] at clear
      refine ⟨resultEq, ?_, clear⟩
      intro isActive contradictable other otherMem
      rw [if_pos isActive] at ensureEq
      exact ensureNoConflict_ok ensureEq isActive contradictable otherMem nofun

/-- The active rows of the organization come from rules that a candidate is compared with,
in what it has to see and in what it is compared with. -/
def Covered (host : Host) (orgId : Uuid) (rules pool compared : List Rule) : Prop :=
  ∀ row ∈ rules, row.orgId = orgId → row.isActive = true →
    ∃ other ∈ pool, other ∈ compared ∧ ∃ later, row = host.row other later

/-- The candidates of a bundle are written as harmless rows, one after the other. -/
theorem insertRules_apart {compared : List Rule} {db target : RulesDb}
    (apart : Apart host orgId db.rules)
    (covered : ∀ candidate ∈ candidates, candidate.orgId = orgId →
      Covered host orgId db.rules pool compared)
    (sees : SeesAll host orgId pool candidates) (clear : Clear host compared candidates)
    (insertEq : insertRules host now candidates db = (.ok (), target)) :
    Apart host orgId target.rules := by
  induction candidates generalizing pool compared db with
  | nil =>
      obtain ⟨_, rfl⟩ := pure_eq_ok_iff.mp insertEq
      exact apart
  | cons candidate rest ih =>
      obtain ⟨_, restEq⟩ := insertRules_cons_ok insertEq
      refine ih ?_ ?_ sees.2 clear.2 restEq
      · apply apart.save (stored_stored _)
        intro inOrg
        apply harmless_row
        intro isActive contradictable row rowMem ne rowActive beside
        obtain ⟨other, otherMem, otherCompared, later, rfl⟩ :=
          covered candidate List.mem_cons_self inOrg row rowMem (beside.1.symm.trans inOrg) rowActive
        refine ⟨other, later, rfl, ?_, clear.1 isActive contradictable other otherCompared⟩
        exact sees.1 inOrg isActive contradictable other otherMem ne rowActive beside
      · intro other otherMem otherOrg row rowMem inOrg isActive
        rcases Table.mem_save_iff.mp rowMem with rfl | ⟨old, _⟩
        · exact ⟨candidate, by simp, by simp, now, rfl⟩
        · obtain ⟨other, otherMem, otherCompared, later, rowEq⟩ :=
            covered other (List.mem_cons_of_mem _ otherMem) otherOrg row old inOrg isActive
          exact ⟨other, List.mem_append_left _ otherMem, List.mem_append_left _ otherCompared,
            later, rowEq⟩

/-- Rows that a bundle adds are the candidates. -/
theorem mem_of_insertRules {db target : RulesDb}
    (insertEq : insertRules host now candidates db = (.ok (), target)) (rowMem : row ∈ target.rules) :
    row ∈ db.rules ∨ ∃ candidate ∈ candidates, row = host.row candidate now := by
  induction candidates generalizing db with
  | nil =>
      obtain ⟨_, rfl⟩ := pure_eq_ok_iff.mp insertEq
      exact Or.inl rowMem
  | cons candidate rest ih =>
      obtain ⟨_, restEq⟩ := insertRules_cons_ok insertEq
      rcases ih restEq with saved | ⟨later, laterMem, rowEq⟩
      · rcases Table.mem_save_iff.mp saved with rfl | ⟨old, _⟩
        · exact Or.inr ⟨candidate, List.mem_cons_self, rfl⟩
        · exact Or.inl old
      · exact Or.inr ⟨later, List.mem_cons_of_mem _ laterMem, rowEq⟩

/-- The remembered rules of an organization are there for the next call. -/
theorem getCachedActiveRules_eq (consistent : Consistent host orgId state) (wanted : Uuid)
    (now : Nat) : ∃ activeRules after, getCachedActiveRules wanted now ⟨state, none⟩ =
        (.ok activeRules, ⟨after, none⟩) ∧ after.db = state.db ∧ Consistent host orgId after ∧
      (wanted = orgId → ∀ rule ∈ state.db.rules, rule.orgId = orgId → rule.isActive = true →
        rule ∈ activeRules) := by
  have readEq : locally (reading fun state : RulesState => state.cached? wanted now)
      ⟨state, none⟩ = ((.ok (state.cached? wanted now) : Except Exception _), ⟨state, none⟩) := rfl
  rw [getCachedActiveRules, bind_of_ok readEq]
  cases cachedEq : state.cached? wanted now with
  | some activeRules =>
      refine ⟨activeRules, state, rfl, rfl, consistent, ?_⟩
      intro sameOrg rule ruleMem inOrg isActive
      obtain ⟨cached, keptEq, rfl⟩ := Option.map_eq_some_iff.mp cachedEq
      obtain ⟨lookupEq, _⟩ := Option.filter_eq_some_iff.mp keptEq
      obtain ⟨before, later, cacheEq, _⟩ := List.lookup_eq_some_iff.mp lookupEq
      have entryMem : (wanted, cached) ∈ state.activeRuleCache := by simp [cacheEq]
      exact consistent.remembers _ entryMem sameOrg rule ruleMem inOrg isActive
  | none =>
      have activeMem : wanted = orgId → ∀ rule ∈ state.db.rules, rule.orgId = orgId →
          rule.isActive = true → rule ∈ state.db.activeRules wanted := by
        intro sameOrg rule ruleMem inOrg isActive
        exact mem_activeRules_iff.mpr ⟨ruleMem, inOrg.trans sameOrg.symm, isActive⟩
      refine ⟨state.db.activeRules wanted,
        state.remember wanted ⟨now + activeRuleCacheTtlMs, state.db.activeRules wanted⟩, rfl, rfl,
        ⟨consistent.apart, ?_⟩, activeMem⟩
      intro entry entryMem entryOrg rule ruleMem inOrg isActive
      rcases List.mem_cons.mp entryMem with rfl | old
      · exact activeMem entryOrg rule ruleMem inOrg isActive
      · exact consistent.remembers entry (List.mem_filter.mp old).1 entryOrg rule ruleMem inOrg
          isActive

theorem remember_leaves {wanted : Uuid} (consistent : Consistent host orgId state) :
    Leaves (Consistent host orgId) ((RuleCall.remember wanted now).body host) ⟨state, none⟩ := by
  obtain ⟨_, after, cachedEq, _, afterConsistent, _⟩ := getCachedActiveRules_eq consistent wanted now
  have callEq : (RuleCall.remember wanted now).body host ⟨state, none⟩ = (.ok (), ⟨after, none⟩) :=
    bind_of_ok cachedEq
  rw [Leaves, callEq]
  exact afterConsistent

theorem importRules_leaves {bundle : List BundleItem} (consistent : Consistent host orgId state)
    (seeing : Seeing host orgId state (.importRules bundle caller now)) :
    Leaves (Consistent host orgId) (importRules host bundle caller now) ⟨state, none⟩ := by
  apply Leaves.afterCalm (quiet_assertRuleManager caller) (calm_assertRuleManager caller) consistent
  intro _ _
  obtain ⟨activeRules, after, cachedEq, dbEq, afterConsistent, complete⟩ :=
    getCachedActiveRules_eq consistent caller.orgId now
  rw [Leaves, bind_of_ok cachedEq]
  apply Leaves.afterCalm (quiet_stageRules _ _ _) (calm_stageRules _ _ _) afterConsistent
  intro stagedRules stageEq
  obtain ⟨rfl, clear⟩ := stageRules_ok stageEq
  rw [List.nil_append, List.append_nil] at *
  apply leaves_finish afterConsistent atomic_transaction
  · intro target insertEq
    apply insertRules_apart afterConsistent.apart _ seeing clear (transaction_eq_ok_iff.mp insertEq)
    intro candidate candidateMem candidateOrg row rowMem inOrg isActive
    obtain ⟨item, _, rfl⟩ := List.mem_map.mp candidateMem
    rw [dbEq] at rowMem
    exact ⟨row, rowMem, complete candidateOrg row rowMem inOrg isActive, row.updatedAt,
      consistent.apart.row_eq rowMem inOrg⟩
  · intro target insertEq row rowMem
    rcases mem_of_insertRules (transaction_eq_ok_iff.mp insertEq) rowMem with
      old | ⟨candidate, candidateMem, rfl⟩
    · exact Or.inl old
    · obtain ⟨item, _, rfl⟩ := List.mem_map.mp candidateMem
      exact Or.inr rfl

/-! ## Runs -/

/-- One call keeps the organization consistent. -/
theorem Consistent.step {next : RulesState} {call : RuleCall}
    (consistent : Consistent host orgId state) (seeing : Seeing host orgId state call)
    (stepEq : rulesSystem host state call = some next) : Consistent host orgId next := by
  cases stepEq
  cases call with
  | create dto caller id now => exact create_leaves consistent seeing
  | update id dto caller now => exact update_leaves consistent seeing
  | activate id caller now => exact activate_leaves consistent
  | deactivate id caller now => exact deactivate_leaves consistent
  | softDelete id caller now => exact softDelete_leaves consistent
  | importRules bundle caller now => exact importRules_leaves consistent seeing
  | remember wanted now => exact remember_leaves consistent

/-- An organization without rules is consistent. -/
theorem consistent_of_noRules (noRules : ∀ rule ∈ state.db.rules, rule.orgId ≠ orgId) :
    Consistent host orgId state := by
  constructor
  · constructor
    · intro rule ruleMem inOrg
      exact absurd inOrg (noRules rule ruleMem)
    · intro first firstMem _ _ inOrg
      exact absurd inOrg (noRules first firstMem)
  · intro _ _ _ rule ruleMem inOrg
    exact absurd inOrg (noRules rule ruleMem)

/-- In every run from an organization without rules in which no comparison misses an
overlap because of the order of keys, no two active rules of the organization contradict
each other, in either order. -/
theorem active_rules_agree {start target : RulesState} {calls : List RuleCall}
    (noRules : ∀ rule ∈ start.db.rules, rule.orgId ≠ orgId)
    (met : (rulesSystem host).Meets (Seeing host orgId) start calls)
    (runEq : (rulesSystem host).run start calls = some target) :
    ∀ first ∈ target.db.rules, ∀ second ∈ target.db.rules, first.orgId = orgId →
      first.id ≠ second.id → first.isActive = true → second.isActive = true →
      first.Beside second → first.ruleType ∈ contradictableRuleTypes →
      conflicts host first second = false ∧ conflicts host second first = false := by
  intro first firstMem second secondMem inOrg ne firstActive secondActive beside contradictable
  have consistent : Consistent host orgId target :=
    Step.invariant_of_meets (fun _ _ _ => Consistent.step) (consistent_of_noRules noRules) met runEq
  have agrees := consistent.apart.apart first firstMem second secondMem inOrg ne firstActive
    secondActive beside contradictable
  exact ⟨agrees, conflicts_comm host beside.2.1 ▸ agrees⟩

/-! ## Examples -/

/-- A host whose column returns keys in the order of the database. -/
def exampleHost : Host where
  numberText := fun number => toString number.num
  readBack := Json.normalFields
  same := fun fields => Json.normal_normal (.obj fields)
  stable := fun fields => Json.obj.inj (Json.normal_normal (.obj fields))

/-- A manager of the organization. -/
def exampleManager : RequestUser := ⟨uuid "user", uuid "org", "admin"⟩

/-- A rule about actors. -/
def exampleRule (condition : Condition) (instruction : String) : CreateRuleDto :=
  ⟨"rule", none, .actorMapping, .org, none, none, condition, instruction, none⟩

/-- No rules, and nothing remembered. -/
def exampleState : RulesState := ⟨⟨[], [], []⟩, []⟩

/-- A condition with an object in it, whose keys are not in the order of the database. -/
def exampleCondition : Condition := some [("k", .obj [("bb", .num 1), ("a", .num 2)])]

/-- A rule is created and a bundle of another one imported. -/
def exampleCalls : List RuleCall :=
  [.create (exampleRule none "Keep the names.") exampleManager (uuid "1") 0,
    .importRules [⟨⟨exampleRule exampleCondition "Drop the names.", none, none⟩, uuid "2"⟩]
      exampleManager 1]

theorem active_rules_agree_example :
    ∃ target, (rulesSystem exampleHost).run exampleState exampleCalls = some target ∧
      ∀ first ∈ target.db.rules, ∀ second ∈ target.db.rules, first.orgId = uuid "org" →
        first.id ≠ second.id → first.isActive = true → second.isActive = true →
        first.Beside second → first.ruleType ∈ contradictableRuleTypes →
        conflicts exampleHost first second = false ∧
          conflicts exampleHost second first = false := by
  have met : (rulesSystem exampleHost).Meets (Seeing exampleHost (uuid "org")) exampleState
      exampleCalls := by
    decide +kernel
  exact ⟨_, rfl, active_rules_agree (by decide) met rfl⟩

/-- Two rules with one condition, which are created one after the other, contradict each
other if the keys of the condition are read back in another order. -/
theorem active_rules_disagree :
    ∃ target, (rulesSystem exampleHost).run exampleState
      [.create (exampleRule exampleCondition "Keep the names.") exampleManager (uuid "1") 0,
        .create (exampleRule exampleCondition "Drop the names.") exampleManager (uuid "2") 1] =
          some target ∧
      ∃ first ∈ target.db.rules, ∃ second ∈ target.db.rules, first.id ≠ second.id ∧
        first.isActive = true ∧ second.isActive = true ∧ first.Beside second ∧
        first.ruleType ∈ contradictableRuleTypes ∧
        conflicts exampleHost first second = true := by
  have taken : ((rulesSystem exampleHost).run exampleState
      [.create (exampleRule exampleCondition "Keep the names.") exampleManager (uuid "1") 0,
        .create (exampleRule exampleCondition "Drop the names.") exampleManager (uuid "2") 1]).any
      fun target => decide (∃ first ∈ target.db.rules, ∃ second ∈ target.db.rules,
        first.id ≠ second.id ∧ first.isActive = true ∧ second.isActive = true ∧
        first.Beside second ∧ first.ruleType ∈ contradictableRuleTypes ∧
        conflicts exampleHost first second = true) := by
    decide +kernel
  obtain ⟨target, runEq, disagree⟩ := Option.any_eq_true _ _ |>.mp taken
  exact ⟨target, runEq, of_decide_eq_true disagree⟩

end Manbaa.Rules
