import Manbaa.Rules.Contradictions
import Manbaa.Rules.SessionContext

/-!
# Remembered rules are those of the database

Calls that write rules, any of whose parts may fail, and reads of the rules of sessions, while time
goes on.  A call that writes forgets the remembered rules after its audit row.  As long as no call
that loses its audit row has changed active rules that are still remembered, every read returns
what the database holds.
-/

namespace Manbaa.Rules

open Manbaa.Lib Manbaa.Lib.Effect

/-! ## What a mutation writes -/

/-- A call that writes rules. -/
inductive Mutation where
  | create (dto : CreateRuleDto) (caller : RequestUser) (id : Uuid)
  | update (id : Uuid) (dto : UpdateRuleDto) (caller : RequestUser)
  | activate (id : Uuid) (caller : RequestUser)
  | deactivate (id : Uuid) (caller : RequestUser)
  | softDelete (id : Uuid) (caller : RequestUser)
  | importRules (bundle : List BundleItem) (caller : RequestUser)

/-- Who makes a call. -/
def Mutation.caller : Mutation → RequestUser
  | .create _ caller _ => caller
  | .update _ _ caller => caller
  | .activate _ caller => caller
  | .deactivate _ caller => caller
  | .softDelete _ caller => caller
  | .importRules _ caller => caller

/-- The call at a time. -/
def Mutation.call (now : Nat) : Mutation → RuleCall
  | .create dto caller id => .create dto caller id now
  | .update id dto caller => .update id dto caller now
  | .activate id caller => .activate id caller now
  | .deactivate id caller => .deactivate id caller now
  | .softDelete id caller => .softDelete id caller now
  | .importRules bundle caller => .importRules bundle caller now

/-- What a mutation writes before its audit row. -/
inductive Writing where
  | nothing
  | save (rule : Rule)
  | insert (rule : Rule)
  | insertAll (rules : List Rule)

/-- The call that writes. -/
def Writing.run (host : Host) (now : Nat) : Writing → Calls Unit
  | .nothing => pure ()
  | .save rule => query (saveRule host rule now)
  | .insert rule => query (insertRules host now [rule])
  | .insertAll rules => query (transaction (insertRules host now rules))

/-- What a mutation does before it writes, and what it will write; a mutation that changes nothing
returns. -/
def Mutation.prepare (host : Host) (now : Nat) : Mutation → Calls (Option Writing)
  | .create dto caller id => do
      assertRuleManager caller
      assertScopeConsistency dto.scope dto.workflowId dto.targetAgent caller.orgId
      ensureNoConflict host (dto.rule caller id 1 true) none none
      pure (some (.insert (dto.rule caller id 1 true)))
  | .update id dto caller => do
      assertRuleManager caller
      let rule ← findRuleOrThrow id caller.orgId
      let instruction ← asking fun _ => nextInstruction rule dto
      let nextRule := rule.edit dto instruction
      if !hasChanges host rule nextRule then pure none
      else do
        if nextRule.isActive then ensureNoConflict host nextRule (some rule.id) none else pure ()
        snapshotRuleVersion rule caller.id
        pure (some (.save { nextRule with version := rule.version + 1 }))
  | .activate id caller => do
      assertRuleManager caller
      let rule ← findRuleOrThrow id caller.orgId
      if rule.isActive then pure none
      else do
        ensureNoConflict host { rule with isActive := true } (some rule.id) none
        snapshotRuleVersion rule caller.id
        pure (some (.save (rule.switch true)))
  | .deactivate id caller => do
      assertRuleManager caller
      let rule ← findRuleOrThrow id caller.orgId
      if !rule.isActive then pure none
      else do
        snapshotRuleVersion rule caller.id
        pure (some (.save (rule.switch false)))
  | .softDelete id caller => do
      assertRuleManager caller
      let rule ← findRuleOrThrow id caller.orgId
      if rule.isActive then do
        snapshotRuleVersion rule caller.id
        pure (some (.save (rule.switch false)))
      else pure (some .nothing)
  | .importRules bundle caller => do
      assertRuleManager caller
      let activeRules ← getCachedActiveRules caller.orgId now
      let stagedRules ← stageRules host caller activeRules bundle []
      pure (some (.insertAll stagedRules))

/-- Whether a mutation goes on to its audit row, once it has written. -/
def writeNext (host : Host) (now : Nat) : Option Writing → Calls Bool
  | none => pure false
  | some writing => do
      writing.run host now
      pure true

/-- What a mutation does before its audit row. -/
def Mutation.write (host : Host) (now : Nat) (mutation : Mutation) : Calls Bool :=
  mutation.prepare host now >>= writeNext host now

/-- What follows the write of a mutation. -/
def finishNext (orgId : Uuid) (wrote : Bool) : Calls Unit :=
  if wrote then finishRule orgId else pure ()

variable {host : Host} {now : Nat} {mutation : Mutation} {writing : Writing} {orgId other : Uuid}
  {state next : RulesState} {world reached : Faulty RulesState} {left : Option Nat}

/-- A mutation writes, and then finishes what it has written. -/
theorem Mutation.body_eq (mutation : Mutation) : (mutation.call now).body host =
    mutation.write host now >>= finishNext mutation.caller.orgId := by
  rw [Mutation.write, bind_bind]
  cases mutation <;>
    simp only [Mutation.prepare, bind_bind, ite_bind, pure_then, writeNext] <;> rfl

/-! ## What is remembered -/

theorem lookup_filter_ne (cache : List (Uuid × CachedRules)) (orgId wanted : Uuid) :
    (cache.filter fun entry => entry.1 != orgId).lookup wanted =
      if wanted = orgId then none else cache.lookup wanted := by
  induction cache with
  | nil => exact (ite_self _).symm
  | cons entry rest ih =>
      by_cases isGone : entry.1 = orgId
      · rw [List.filter_cons_of_neg (by simp [isGone]), ih]
        split
        · rfl
        · rename_i isOther
          rw [List.lookup_cons, beq_false_of_ne (isGone ▸ isOther)]
      · rw [List.filter_cons_of_pos (by simp [isGone]), List.lookup_cons, List.lookup_cons, ih]
        cases isWanted : wanted == entry.1 with
        | true =>
            rw [beq_iff_eq] at isWanted
            have isOther : wanted ≠ orgId := fun same => isGone (isWanted.symm.trans same)
            exact (if_neg isOther).symm
        | false => rfl

theorem cached?_forget : (state.forget orgId).cached? other now =
    if other = orgId then none else state.cached? other now := by
  rw [RulesState.cached?, RulesState.forget, lookup_filter_ne]
  split <;> rfl

theorem cached?_remember {cached : CachedRules} : (state.remember orgId cached).cached? other now =
    if other = orgId then (if now < cached.expiresAt then some cached.rules else none)
    else state.cached? other now := by
  rw [RulesState.cached?, RulesState.remember, List.lookup_cons]
  by_cases isOwn : other = orgId
  · rw [isOwn, beq_self_eq_true, if_pos rfl]
    by_cases isAlive : now < cached.expiresAt
    · rw [if_pos isAlive, Option.filter_some, if_pos (decide_eq_true isAlive), Option.map_some]
    · rw [if_neg isAlive, Option.filter_some, if_neg (by simpa using isAlive), Option.map_none]
  · rw [beq_false_of_ne isOwn, if_neg isOwn, lookup_filter_ne, if_neg isOwn]
    rfl

/-- What is remembered at a time was remembered before. -/
theorem cached?_earlier {later : Nat} {rules : List Rule} (le : now ≤ later)
    (cachedEq : state.cached? orgId later = some rules) : state.cached? orgId now = some rules := by
  obtain ⟨cached, keptEq, rfl⟩ := Option.map_eq_some_iff.mp cachedEq
  obtain ⟨lookupEq, isAlive⟩ := Option.filter_eq_some_iff.mp keptEq
  refine Option.map_eq_some_iff.mpr ⟨cached, Option.filter_eq_some_iff.mpr ⟨lookupEq, ?_⟩, rfl⟩
  exact decide_eq_true (Nat.lt_of_le_of_lt le (of_decide_eq_true isAlive))

theorem activeRules_congr {db target : RulesDb} (same : target.rules = db.rules) (orgId : Uuid) :
    target.activeRules orgId = db.activeRules orgId := by
  rw [RulesDb.activeRules, RulesDb.activeRules, same]

/-- The rules stay as they are, and what is remembered anew are rules of the database. -/
structure Recalls (now : Nat) (state next : RulesState) : Prop where
  rules : next.db.rules = state.db.rules
  cached : ∀ orgId rules, next.cached? orgId now = some rules →
    state.cached? orgId now = some rules ∨ rules = state.db.activeRules orgId

theorem Recalls.refl (state : RulesState) : Recalls now state state :=
  ⟨rfl, fun _ _ => Or.inl⟩

theorem Recalls.trans {middle : RulesState} (first : Recalls now state middle)
    (second : Recalls now middle next) : Recalls now state next := by
  refine ⟨second.rules.trans first.rules, fun orgId rules cachedEq => ?_⟩
  rcases second.cached orgId rules cachedEq with before | isActive
  · exact first.cached orgId rules before
  · exact Or.inr (isActive.trans (activeRules_congr first.rules orgId))

/-- What is remembered are the active rules of the database. -/
structure Fresh (now : Nat) (state : RulesState) : Prop where
  keyed : Table.Keyed Rule.id state.db.rules
  remembered : ∀ orgId rules, state.cached? orgId now = some rules →
    rules = state.db.activeRules orgId

theorem Fresh.recalls (fresh : Fresh now state) (recalls : Recalls now state next) :
    Fresh now next := by
  refine ⟨recalls.rules ▸ fresh.keyed, fun orgId rules cachedEq => ?_⟩
  rw [activeRules_congr recalls.rules]
  rcases recalls.cached orgId rules cachedEq with before | isActive
  · exact fresh.remembered orgId rules before
  · exact isActive

/-! ## Before the write -/

theorem recalls_bind {α β : Type} {part : Calls α} {following : α → Calls β}
    (partRecalls : Moves (Within (Recalls now)) part)
    (nextRecalls : ∀ value, Moves (Within (Recalls now)) (following value)) :
    Moves (Within (Recalls now)) (part >>= following) :=
  partRecalls.andThen (fun _ _ _ => Recalls.trans) nextRecalls

theorem recalls_quiet {α : Type} {part : Calls α} (quiet : Quiet part) :
    Moves (Within (Recalls now)) part :=
  quiet.moves Recalls.refl

theorem recalls_pure {α : Type} (value : α) :
    Moves (Within (Recalls now)) (pure value : Calls α) :=
  recalls_quiet (quiet_of_readOnly readOnly_pure)

theorem recalls_snapshot (rule : Rule) (changedBy : Uuid) :
    Moves (Within (Recalls now)) (snapshotRuleVersion rule changedBy) :=
  moves_calling Recalls.refl fun _ => ⟨rfl, fun _ _ => Or.inl⟩

/-- The active rules of an organization are looked up and remembered. -/
theorem recalls_getCachedActiveRules (orgId : Uuid) :
    Moves (Within (Recalls now)) (getCachedActiveRules orgId now) := by
  intro world
  refine Leaves.afterQuiet (quiet_locally readOnly_reading) (Recalls.refl _) ?_
  intro cached middle _ sameState
  cases cached with
  | some rules =>
      rw [← sameState]
      exact recalls_pure rules middle
  | none =>
      refine Leaves.afterQuiet (quiet_reading _) (sameState ▸ Recalls.refl _) ?_
      intro rules after queryEq stays
      obtain ⟨rulesEq, _⟩ := reading_ok queryEq
      have same : after.state = world.state := stays.trans sameState
      change Recalls now world.state (after.state.remember orgId ⟨_, rules⟩)
      rw [same]
      refine ⟨rfl, fun other found cachedEq => ?_⟩
      rw [cached?_remember] at cachedEq
      split at cachedEq
      · rename_i isOwn
        split at cachedEq
        · cases cachedEq
          rw [isOwn, ← rulesEq, sameState]
          exact Or.inr rfl
        · cases cachedEq
      · exact Or.inl cachedEq

theorem getCachedActiveRules_ok {rules : List Rule} (fresh : Fresh now world.state)
    (cachedEq : getCachedActiveRules orgId now world = (.ok rules, reached)) :
    rules = world.state.db.activeRules orgId := by
  obtain ⟨cached, middle, readEq, restEq⟩ := bind_eq_ok_iff.mp cachedEq
  obtain ⟨readEq, _⟩ := locally_eq_ok_iff.mp readEq
  obtain ⟨rememberedEq, sameState⟩ := reading_eq_ok_iff.mp readEq
  cases cached with
  | some found =>
      obtain ⟨rfl, _⟩ := pure_eq_ok_iff.mp restEq
      exact fresh.remembered orgId found rememberedEq
  | none =>
      obtain ⟨found, after, queryEq, rememberEq⟩ := bind_eq_ok_iff.mp restEq
      obtain ⟨foundEq, _⟩ := reading_ok queryEq
      obtain ⟨_, _, _, pureEq⟩ := bind_eq_ok_iff.mp rememberEq
      obtain ⟨rfl, _⟩ := pure_eq_ok_iff.mp pureEq
      rw [← foundEq, ← sameState]

theorem recalls_found {id : Uuid} {caller : RequestUser} {β : Type} {following : Rule → Calls β}
    (nextRecalls : ∀ rule, Moves (Within (Recalls now)) (following rule)) :
    Moves (Within (Recalls now)) (do
      assertRuleManager caller
      let rule ← findRuleOrThrow id caller.orgId
      following rule) :=
  recalls_bind (recalls_quiet (quiet_assertRuleManager caller)) fun _ =>
    recalls_bind (recalls_quiet (quiet_findRuleOrThrow _ _)) nextRecalls

theorem prepare_recalls (mutation : Mutation) :
    Moves (Within (Recalls now)) (mutation.prepare host now) := by
  cases mutation with
  | create dto caller id =>
      exact recalls_bind (recalls_quiet (quiet_assertRuleManager caller)) fun _ =>
        recalls_bind (recalls_quiet (quiet_assertScopeConsistency _ _ _ _)) fun _ =>
          recalls_bind (recalls_quiet (quiet_ensureNoConflict _ _ _ _)) fun _ => recalls_pure _
  | update id dto caller =>
      refine recalls_found fun rule => ?_
      refine recalls_bind (recalls_quiet (quiet_of_readOnly readOnly_asking)) fun instruction => ?_
      dsimp only
      split
      · exact recalls_pure _
      · have recallsSnapshot (saved : Writing) : Moves (Within (Recalls now)) (do
            snapshotRuleVersion rule caller.id
            pure (some saved)) :=
          recalls_bind (recalls_snapshot rule caller.id) fun _ => recalls_pure _
        split
        · exact recalls_bind (recalls_quiet (quiet_ensureNoConflict _ _ _ _)) fun _ =>
            recallsSnapshot _
        · exact recallsSnapshot _
  | activate id caller =>
      refine recalls_found fun rule => ?_
      split
      · exact recalls_pure _
      · exact recalls_bind (recalls_quiet (quiet_ensureNoConflict _ _ _ _)) fun _ =>
          recalls_bind (recalls_snapshot rule caller.id) fun _ => recalls_pure _
  | deactivate id caller =>
      refine recalls_found fun rule => ?_
      split
      · exact recalls_pure _
      · exact recalls_bind (recalls_snapshot rule caller.id) fun _ => recalls_pure _
  | softDelete id caller =>
      refine recalls_found fun rule => ?_
      split
      · exact recalls_bind (recalls_snapshot rule caller.id) fun _ => recalls_pure _
      · exact recalls_pure _
  | importRules bundle caller =>
      exact recalls_bind (recalls_quiet (quiet_assertRuleManager caller)) fun _ =>
        recalls_bind (recalls_getCachedActiveRules caller.orgId) fun _ =>
          recalls_bind (recalls_quiet (quiet_stageRules _ _ _)) fun _ => recalls_pure _

theorem recalls_of_prepare {result : Except Exception (Option Writing)}
    (prepareEq : mutation.prepare host now world = (result, reached)) :
    Recalls now world.state reached.state := by
  have recalled : Within (Recalls now) world (mutation.prepare host now world).2 :=
    prepare_recalls mutation world
  rw [prepareEq] at recalled
  exact recalled

/-! ## The write -/

/-- Rules of other organizations stay as they are. -/
structure Elsewhere (orgId : Uuid) (db target : RulesDb) : Prop where
  keyed : Table.Keyed Rule.id target.rules
  activeRules : ∀ other, other ≠ orgId → target.activeRules other = db.activeRules other

theorem elsewhere_save {db : RulesDb} {rule : Rule} (keyed : Table.Keyed Rule.id db.rules)
    (inOrg : rule.orgId = orgId)
    (old : ∀ row ∈ db.rules, row.id = rule.id → row.orgId = orgId) :
    Elsewhere orgId db { db with rules := Table.save Rule.id db.rules (host.row rule now) } := by
  refine ⟨Table.keyed_save keyed, fun other isOther => ?_⟩
  have elsewhere (row : Rule) (own : row.orgId = orgId) :
      (row.orgId == other && row.isActive) = false := by
    rw [beq_false_of_ne (own ▸ isOther.symm), Bool.false_and]
  rw [RulesDb.activeRules, RulesDb.activeRules, Table.filter_save]
  · intro row rowMem same
    exact elsewhere row (old row rowMem same)
  · exact elsewhere _ inOrg

theorem elsewhere_insertRules {rules : List Rule} {db target : RulesDb}
    (keyed : Table.Keyed Rule.id db.rules) (inOrg : ∀ rule ∈ rules, rule.orgId = orgId)
    (insertEq : insertRules host now rules db = (.ok (), target)) :
    Elsewhere orgId db target := by
  induction rules generalizing db with
  | nil =>
      obtain ⟨_, rfl⟩ := pure_eq_ok_iff.mp insertEq
      exact ⟨keyed, fun _ _ => rfl⟩
  | cons rule rest ih =>
      obtain ⟨fresh, restEq⟩ := insertRules_cons_ok insertEq
      obtain ⟨own, others⟩ := List.forall_mem_cons.mp inOrg
      have absent := Table.get?_eq_none_iff.mp fresh
      have saved : Elsewhere orgId db
          { db with rules := Table.save Rule.id db.rules (host.row rule now) } :=
        elsewhere_save keyed own fun row rowMem same => absurd same (absent row rowMem)
      have inserted := ih saved.keyed others restEq
      exact ⟨inserted.keyed, fun other isOther =>
        (inserted.activeRules other isOther).trans (saved.activeRules other isOther)⟩

/-- A mutation writes rules of one organization. -/
def Writing.Stays (orgId : Uuid) (db : RulesDb) : Writing → Prop
  | .nothing => True
  | .save rule => rule.orgId = orgId ∧ ∃ old ∈ db.rules, old.id = rule.id ∧ old.orgId = orgId
  | .insert rule => rule.orgId = orgId
  | .insertAll rules => ∀ rule ∈ rules, rule.orgId = orgId

/-- A query that returns has changed the database, and nothing that is remembered. -/
theorem query_ok {α : Type} {body : Statements α} {value : α}
    (queryEq : query body world = (.ok value, reached)) :
    ∃ target, body world.state.db = (.ok value, target) ∧
      reached.state = { world.state with db := target } := by
  obtain ⟨zoomEq, _⟩ := calling_eq_ok_iff.mp queryEq
  obtain ⟨target, bodyEq, stateEq⟩ := zoom_eq_iff.mp zoomEq
  exact ⟨target, bodyEq, stateEq.symm⟩

theorem query_throws {α : Type} {body : Statements α} {thrown : Exception} (atomic : Atomic body)
    (queryEq : query body world = (.error thrown, reached)) : reached.state = world.state := by
  rcases calling_throws queryEq with ⟨same, _⟩ | zoomEq
  · exact same
  · obtain ⟨target, bodyEq, stateEq⟩ := zoom_eq_iff.mp zoomEq
    rw [← stateEq, ← atomic _ _ _ bodyEq]

theorem run_throws {thrown : Exception}
    (runEq : writing.run host now world = (.error thrown, reached)) :
    reached.state = world.state := by
  cases writing with
  | nothing => exact absurd runEq pure_ne_error
  | save rule => exact query_throws (atomic_saveRule _ _ _) runEq
  | insert rule => exact query_throws (atomic_insertRules_singleton _ _ _) runEq
  | insertAll rules => exact query_throws atomic_transaction runEq

theorem run_ok (keyed : Table.Keyed Rule.id world.state.db.rules)
    (stays : writing.Stays orgId world.state.db)
    (runEq : writing.run host now world = (.ok (), reached)) :
    ∃ target, reached.state = { world.state with db := target } ∧
      Elsewhere orgId world.state.db target := by
  cases writing with
  | nothing =>
      obtain ⟨_, rfl⟩ := pure_eq_ok_iff.mp runEq
      exact ⟨_, rfl, keyed, fun _ _ => rfl⟩
  | save rule =>
      obtain ⟨target, saveEq, stateEq⟩ := query_ok runEq
      obtain ⟨_, rfl⟩ := saveRule_ok_iff.mp saveEq
      obtain ⟨inOrg, old, oldMem, same, oldOrg⟩ := stays
      refine ⟨_, stateEq, elsewhere_save keyed inOrg fun row rowMem sameId => ?_⟩
      rw [keyed.eq rowMem oldMem (sameId.trans same.symm)]
      exact oldOrg
  | insert rule =>
      obtain ⟨target, insertEq, stateEq⟩ := query_ok runEq
      exact ⟨target, stateEq, elsewhere_insertRules keyed (List.forall_mem_singleton.mpr stays)
        insertEq⟩
  | insertAll rules =>
      obtain ⟨target, insertEq, stateEq⟩ := query_ok runEq
      exact ⟨target, stateEq, elsewhere_insertRules keyed stays
        (transaction_eq_ok_iff.mp insertEq)⟩

/-- A call that finds a rule goes on with a row of the organization. -/
theorem found_ok {id : Uuid} {caller : RequestUser} {β : Type} {following : Rule → Calls β}
    {value : β} (callEq : (do
      assertRuleManager caller
      let rule ← findRuleOrThrow id caller.orgId
      following rule) world = (.ok value, reached)) :
    ∃ rule middle, rule ∈ world.state.db.rules ∧ rule.orgId = caller.orgId ∧
      following rule middle = (.ok value, reached) := by
  obtain ⟨_, middle, assertEq, restEq⟩ := bind_eq_ok_iff.mp callEq
  obtain ⟨rule, after, findEq, nextEq⟩ := bind_eq_ok_iff.mp restEq
  obtain ⟨foundEq, inOrg⟩ := findRuleOrThrow_ok findEq
  rw [(quiet_assertRuleManager caller).state_eq assertEq] at foundEq
  exact ⟨rule, after, Table.mem_of_get? foundEq, inOrg, nextEq⟩

/-- After its snapshot, a mutation saves the rule that it has found. -/
theorem snapshot_ok {rule saved : Rule} {changedBy : Uuid}
    (snapshotEq : (do
      snapshotRuleVersion rule changedBy
      pure (some (Writing.save saved))) world = (.ok (some writing), reached)) :
    writing = .save saved := by
  obtain ⟨_, _, _, pureEq⟩ := bind_eq_ok_iff.mp snapshotEq
  exact (Option.some.inj (pure_eq_ok_iff.mp pureEq).1).symm

/-- What a mutation will write belongs to the organization of its caller. -/
theorem prepare_ok (prepareEq : mutation.prepare host now world = (.ok (some writing), reached)) :
    writing.Stays mutation.caller.orgId world.state.db := by
  cases mutation with
  | create dto caller id =>
      obtain ⟨_, _, _, scopeEq⟩ := bind_eq_ok_iff.mp prepareEq
      obtain ⟨_, _, _, ensureEq⟩ := bind_eq_ok_iff.mp scopeEq
      obtain ⟨_, _, _, pureEq⟩ := bind_eq_ok_iff.mp ensureEq
      cases (pure_eq_ok_iff.mp pureEq).1
      exact rfl
  | update id dto caller =>
      obtain ⟨rule, middle, ruleMem, inOrg, restEq⟩ := found_ok prepareEq
      obtain ⟨instruction, after, _, writeEq⟩ := bind_eq_ok_iff.mp restEq
      dsimp only at writeEq
      split at writeEq
      · cases (pure_eq_ok_iff.mp writeEq).1
      · split at writeEq
        · obtain ⟨_, _, _, snapshotEq⟩ := bind_eq_ok_iff.mp writeEq
          rw [snapshot_ok snapshotEq]
          exact ⟨inOrg, rule, ruleMem, rfl, inOrg⟩
        · rw [snapshot_ok writeEq]
          exact ⟨inOrg, rule, ruleMem, rfl, inOrg⟩
  | activate id caller =>
      obtain ⟨rule, middle, ruleMem, inOrg, restEq⟩ := found_ok prepareEq
      split at restEq
      · cases (pure_eq_ok_iff.mp restEq).1
      · obtain ⟨_, _, _, snapshotEq⟩ := bind_eq_ok_iff.mp restEq
        rw [snapshot_ok snapshotEq]
        exact ⟨inOrg, rule, ruleMem, rfl, inOrg⟩
  | deactivate id caller =>
      obtain ⟨rule, middle, ruleMem, inOrg, restEq⟩ := found_ok prepareEq
      split at restEq
      · cases (pure_eq_ok_iff.mp restEq).1
      · rw [snapshot_ok restEq]
        exact ⟨inOrg, rule, ruleMem, rfl, inOrg⟩
  | softDelete id caller =>
      obtain ⟨rule, middle, ruleMem, inOrg, restEq⟩ := found_ok prepareEq
      split at restEq
      · rw [snapshot_ok restEq]
        exact ⟨inOrg, rule, ruleMem, rfl, inOrg⟩
      · cases (pure_eq_ok_iff.mp restEq).1
        trivial
  | importRules bundle caller =>
      obtain ⟨_, _, _, cachedEq⟩ := bind_eq_ok_iff.mp prepareEq
      obtain ⟨activeRules, _, _, stageEq⟩ := bind_eq_ok_iff.mp cachedEq
      obtain ⟨stagedRules, _, stagedEq, pureEq⟩ := bind_eq_ok_iff.mp stageEq
      cases (pure_eq_ok_iff.mp pureEq).1
      obtain ⟨rfl, _⟩ := stageRules_ok stagedEq
      intro rule ruleMem
      obtain ⟨item, _, rfl⟩ := List.mem_map.mp ruleMem
      rfl

/-- A mutation has written, and what is remembered of its organization is from before. -/
structure Wrote (now : Nat) (orgId : Uuid) (state next : RulesState) : Prop where
  keyed : Table.Keyed Rule.id next.db.rules
  others : ∀ other rules, other ≠ orgId → next.cached? other now = some rules →
    rules = next.db.activeRules other
  own : ∀ rules, next.cached? orgId now = some rules → rules = state.db.activeRules orgId

/-- A mutation that is not going to its audit row leaves what is remembered fresh. -/
theorem write_stops {result : Except Exception Bool} (fresh : Fresh now world.state)
    (stops : result.toOption ≠ some true)
    (writeEq : mutation.write host now world = (result, reached)) : Fresh now reached.state := by
  rcases prepareEq : mutation.prepare host now world with ⟨thrown | writing, middle⟩
  · rw [Mutation.write, bind_eq_error_iff.mpr (Or.inl prepareEq)] at writeEq
    obtain ⟨_, rfl⟩ := Prod.mk.inj writeEq
    exact fresh.recalls (recalls_of_prepare prepareEq)
  · have prepared := fresh.recalls (recalls_of_prepare prepareEq)
    rw [Mutation.write, bind_of_ok prepareEq] at writeEq
    cases writing with
    | none =>
        obtain ⟨_, rfl⟩ := Prod.mk.inj writeEq
        exact prepared
    | some writing =>
        rcases runEq : writing.run host now middle with ⟨thrown | done, after⟩
        · rw [writeNext, bind_eq_error_iff.mpr (Or.inl runEq)] at writeEq
          obtain ⟨_, rfl⟩ := Prod.mk.inj writeEq
          rw [run_throws runEq]
          exact prepared
        · rw [writeNext, bind_of_ok runEq] at writeEq
          obtain ⟨rfl, _⟩ := Prod.mk.inj writeEq
          exact absurd rfl stops

/-- A mutation that goes to its audit row has written rules of its organization. -/
theorem write_ok (fresh : Fresh now world.state)
    (writeEq : mutation.write host now world = (.ok true, reached)) :
    Wrote now mutation.caller.orgId world.state reached.state := by
  obtain ⟨writing, middle, prepareEq, nextEq⟩ := bind_eq_ok_iff.mp writeEq
  have recalled := recalls_of_prepare prepareEq
  have middleFresh := fresh.recalls recalled
  cases writing with
  | none => cases (pure_eq_ok_iff.mp nextEq).1
  | some writing =>
      obtain ⟨_, after, runEq, pureEq⟩ := bind_eq_ok_iff.mp nextEq
      obtain ⟨_, rfl⟩ := pure_eq_ok_iff.mp pureEq
      have stays : writing.Stays mutation.caller.orgId middle.state.db := by
        have staysBefore := prepare_ok prepareEq
        cases writing with
        | save rule =>
            rw [Writing.Stays, recalled.rules]
            exact staysBefore
        | _ => exact staysBefore
      obtain ⟨target, stateEq, elsewhere⟩ := run_ok middleFresh.keyed stays runEq
      rw [stateEq]
      refine ⟨elsewhere.keyed, fun other rules isOther cachedEq => ?_, fun rules cachedEq => ?_⟩
      · rw [elsewhere.activeRules other isOther]
        exact middleFresh.remembered other rules cachedEq
      · rw [middleFresh.remembered _ rules cachedEq, activeRules_congr recalled.rules]

/-! ## The system -/

/-- The state of the service, the rows of sessions and workflows, and the time. -/
structure ContextState where
  service : RulesState
  tables : SessionTables
  now : Nat

/-- What may happen: a mutation or a read, so many of whose calls succeed before one fails, if one
does; sessions and workflows are written; time goes on. -/
inductive ContextAction where
  | mutate (mutation : Mutation) (left : Option Nat)
  | read (sessionId orgId : Uuid) (left : Option Nat)
  | others (tables : SessionTables)
  | pass (elapsed : Nat)

/-- The state with other rows of sessions and workflows. -/
def ContextState.withTables (state : ContextState) (tables : SessionTables) : ContextState :=
  { state with
    tables := tables
    service := { state.service with
      db := { state.service.db with
        workflows := tables.workflows.map fun workflow => ⟨workflow.id, workflow.orgId⟩ } } }

/-- What a read runs. -/
def ContextState.read (host : Host) (state : ContextState) (sessionId orgId : Uuid) :
    Calls SessionRules :=
  getSessionContextRules host state.tables sessionId orgId state.now

/-- One action after the other. -/
def contextSystem (host : Host) : Step ContextState ContextAction :=
  Step.ofTotal fun state action =>
    match action with
    | .mutate mutation left =>
        { state with
          service := ((mutation.call state.now).body host ⟨state.service, left⟩).2.state }
    | .read sessionId orgId left =>
        { state with service := (state.read host sessionId orgId ⟨state.service, left⟩).2.state }
    | .others tables => state.withTables tables
    | .pass elapsed => { state with now := state.now + elapsed }

/-- The call of the audit row fails, after the mutation has changed active rules that are
remembered. -/
def Mutation.LosesAudit (host : Host) (now : Nat) (state : RulesState) (mutation : Mutation)
    (left : Option Nat) : Prop :=
  let orgId := mutation.caller.orgId
  let written := mutation.write host now ⟨state, left⟩
  written.1.toOption = some true ∧ written.2.left = some 0 ∧
    (written.2.state.cached? orgId now).isSome = true ∧
    written.2.state.db.activeRules orgId ≠ state.db.activeRules orgId

instance (mutation : Mutation) : Decidable (mutation.LosesAudit host now state left) :=
  inferInstanceAs (Decidable (_ ∧ _ ∧ _ ∧ _))

/-- No mutation loses its audit row once it has changed what is remembered. -/
def Audited (host : Host) (state : ContextState) : ContextAction → Prop
  | .mutate mutation left => ¬ mutation.LosesAudit host state.now state.service left
  | _ => True

instance (state : ContextState) (action : ContextAction) :
    Decidable (Audited host state action) :=
  match action with
  | .mutate mutation left =>
      inferInstanceAs (Decidable (¬ mutation.LosesAudit host state.now state.service left))
  | .read .. | .others .. | .pass .. => inferInstanceAs (Decidable True)

/-! ## What is remembered stays fresh -/

/-- The audit row may fail; otherwise the rules of the organization are forgotten. -/
theorem finishRule_state (orgId : Uuid) (world : Faulty RulesState) :
    (finishRule orgId world).2.state =
      if world.left = some 0 then world.state else world.state.forget orgId := by
  split
  · rename_i lost
    have failed : external world = (.error outage, ⟨world.state, none⟩) := if_pos lost
    rw [finishRule, bind_eq_error_iff.mpr (Or.inl failed)]
  · rename_i kept
    have logged : external world = (.ok (), ⟨world.state, world.left.map Nat.pred⟩) := if_neg kept
    rw [finishRule, bind_of_ok logged]
    rfl

theorem mutate_fresh (fresh : Fresh now state) (audited : ¬ mutation.LosesAudit host now state left) :
    Fresh now ((mutation.call now).body host ⟨state, left⟩).2.state := by
  rw [Mutation.body_eq]
  rcases writeEq : mutation.write host now ⟨state, left⟩ with ⟨thrown | wrote, written⟩
  · rw [bind_eq_error_iff.mpr (Or.inl writeEq)]
    exact write_stops fresh (fun same => (by cases same)) writeEq
  · rw [bind_of_ok writeEq]
    cases wrote with
    | false => exact write_stops fresh (fun same => (by cases same)) writeEq
    | true =>
        have after := write_ok fresh writeEq
        rw [finishNext, if_pos rfl, finishRule_state]
        split
        · rename_i lost
          refine ⟨after.keyed, fun other rules cachedEq => ?_⟩
          by_cases isOwn : other = mutation.caller.orgId
          · subst isOwn
            rw [after.own rules cachedEq]
            by_contra changed
            refine audited ?_
            rw [Mutation.LosesAudit, writeEq]
            exact ⟨rfl, lost, Option.isSome_iff_exists.mpr ⟨rules, cachedEq⟩, Ne.symm changed⟩
          · exact after.others other rules isOwn cachedEq
        · refine ⟨after.keyed, fun other rules cachedEq => ?_⟩
          rw [cached?_forget] at cachedEq
          split at cachedEq
          · cases cachedEq
          · rename_i isOther
            exact after.others other rules isOther cachedEq

theorem read_recalls (state : ContextState) (sessionId orgId : Uuid) :
    Moves (Within (Recalls state.now)) (state.read host sessionId orgId) :=
  recalls_bind (recalls_quiet ((quiet_reading _).bind fun _ => quiet_of_readOnly readOnly_orThrow))
    fun _ => recalls_bind
      (recalls_quiet ((quiet_reading _).bind fun _ => quiet_of_readOnly readOnly_orThrow))
      fun _ => recalls_bind (recalls_getCachedActiveRules orgId) fun _ => recalls_pure _

/-- What is remembered now are the active rules of the database. -/
def ContextState.IsFresh (state : ContextState) : Prop := Fresh state.now state.service

/-- One action keeps what is remembered fresh. -/
theorem isFresh_step {before after : ContextState} {action : ContextAction}
    (fresh : before.IsFresh) (audited : Audited host before action)
    (stepEq : contextSystem host before action = some after) : after.IsFresh := by
  cases stepEq
  cases action with
  | mutate mutation left => exact mutate_fresh fresh audited
  | read sessionId orgId left =>
      exact fresh.recalls (read_recalls before sessionId orgId ⟨before.service, left⟩)
  | others tables => exact ⟨fresh.keyed, fresh.remembered⟩
  | pass elapsed =>
      refine ⟨fresh.keyed, fun orgId rules cachedEq => ?_⟩
      exact fresh.remembered orgId rules (cached?_earlier (Nat.le_add_right _ _) cachedEq)

/-! ## Reads -/

/-- A read that returns has found its rows, and has selected active rules. -/
theorem read_ok {state : ContextState} {sessionId orgId : Uuid} {found : SessionRules}
    (fresh : state.IsFresh)
    (readEq : state.read host sessionId orgId ⟨state.service, left⟩ = (.ok found, reached)) :
    Reads host state.service.db state.tables sessionId orgId found := by
  obtain ⟨session, middle, sessionEq, restEq⟩ := bind_eq_ok_iff.mp readEq
  obtain ⟨workflow, after, workflowEq, rulesEq⟩ := bind_eq_ok_iff.mp restEq
  obtain ⟨rules, _, cachedEq, pureEq⟩ := bind_eq_ok_iff.mp rulesEq
  obtain ⟨rfl, _⟩ := pure_eq_ok_iff.mp pureEq
  have sessionStays := (quiet_findSession _ _).state_eq sessionEq
  have workflowStays := (quiet_findWorkflow _ _ _).state_eq workflowEq
  have same : after.state = state.service := workflowStays.trans sessionStays
  have afterFresh : Fresh state.now after.state := same ▸ fresh
  rw [getCachedActiveRules_ok afterFresh cachedEq, same]
  exact ⟨findSession_ok sessionEq, findWorkflow_ok workflowEq, selectRules_perm,
    selectRules_sorted _⟩

/-- What is remembered of an organization does not decide what a read returns. -/
theorem read_uncached {state : ContextState} (fresh : state.IsFresh) (sessionId orgId : Uuid) :
    (state.read host sessionId orgId ⟨state.service, none⟩).1 =
      (state.read host sessionId orgId ⟨{ state.service with activeRuleCache := [] }, none⟩).1 := by
  rw [ContextState.read, getSessionContextRules_calm, getSessionContextRules_calm]
  have known : (state.service.cached? orgId state.now).getD
      (state.service.db.activeRules orgId) = state.service.db.activeRules orgId := by
    cases cachedEq : state.service.cached? orgId state.now with
    | none => rfl
    | some rules => exact fresh.remembered orgId rules cachedEq
  rw [known]
  rfl

/-- What reads return in a state: the rules of the database that hold for the session, and without
a failing call what they would return if nothing were remembered. -/
def ReadsFresh (host : Host) (state : ContextState) : Prop :=
  (∀ sessionId orgId left found reached,
    state.read host sessionId orgId ⟨state.service, left⟩ = (.ok found, reached) →
      Reads host state.service.db state.tables sessionId orgId found) ∧
  ∀ sessionId orgId, (state.read host sessionId orgId ⟨state.service, none⟩).1 =
    (state.read host sessionId orgId ⟨{ state.service with activeRuleCache := [] }, none⟩).1

/-- **Remembered rules equal fresh ones.**  In every run of mutations and reads that starts with
nothing remembered and in which no mutation loses its audit row once it has changed what is
remembered, every read returns what the database holds. -/
theorem reads_fresh {start target : ContextState} {actions : List ContextAction}
    (keyed : Table.Keyed Rule.id start.service.db.rules)
    (nothing : start.service.activeRuleCache = [])
    (met : (contextSystem host).Meets (Audited host) start actions)
    (runEq : (contextSystem host).run start actions = some target) : ReadsFresh host target := by
  have started : start.IsFresh := by
    refine ⟨keyed, fun orgId rules cachedEq => ?_⟩
    rw [RulesState.cached?, nothing] at cachedEq
    cases cachedEq
  have fresh : target.IsFresh :=
    Step.invariant_of_meets (fun _ _ _ => isFresh_step) started met runEq
  exact ⟨fun _ _ _ _ _ readEq => read_ok fresh readEq, read_uncached fresh⟩

/-! ## Examples -/

/-- A session of a workflow of the organization. -/
def exampleTables : SessionTables where
  sessions := [{ id := uuid "s", workflowId := uuid "w", userId := uuid "user", mode := .auto
                 status := .created, confidenceScore := 0, finalizedAt := none, archivedAt := none }]
  workflows := [{ id := uuid "w", orgId := uuid "org", ownerId := uuid "user", title := "Hiring"
                  description := none, domain := none, tags := ["people"], status := .draft
                  currentVersion := 0 }]

def exampleContext : ContextState := ⟨exampleState, exampleTables, 0⟩

/-- A rule for workflows that are about people. -/
def exampleCreated : Mutation :=
  .create (exampleRule (some [("workflow_tags", .str "people")]) "Keep the names.") exampleManager
    (uuid "1")

/-- A rule is created and read, the audit row of another one is lost while nothing is remembered,
and the first one is deactivated. -/
def exampleActions : List ContextAction :=
  [.mutate exampleCreated none, .read (uuid "s") (uuid "org") none, .pass 60000,
    .mutate (.create (exampleRule none "Keep the names.") exampleManager (uuid "2")) (some 2),
    .read (uuid "s") (uuid "org") none, .mutate (.deactivate (uuid "1") exampleManager) none]

theorem reads_fresh_example :
    ∃ target, (contextSystem exampleHost).run exampleContext exampleActions = some target ∧
      ReadsFresh exampleHost target := by
  have met : (contextSystem exampleHost).Meets (Audited exampleHost) exampleContext
      exampleActions := by
    decide +kernel
  have keyed : Table.Keyed Rule.id exampleContext.service.db.rules := List.nodup_nil
  exact ⟨_, rfl, reads_fresh keyed rfl met rfl⟩

/-- A rule is deactivated, but its audit row is lost. -/
def exampleLost : List ContextAction :=
  [.mutate exampleCreated none, .read (uuid "s") (uuid "org") none,
    .mutate (.deactivate (uuid "1") exampleManager) (some 3)]

/-- The next read still returns the rule. -/
theorem deactivated_rule_read :
    ∃ target found, (contextSystem exampleHost).run exampleContext exampleLost = some target ∧
      (target.read exampleHost (uuid "s") (uuid "org") ⟨target.service, none⟩).1 = .ok found ∧
      found.rules.map Rule.id = [uuid "1"] ∧
      (∀ rule ∈ target.service.db.rules, rule.isActive = false) ∧
      ¬ ReadsFresh exampleHost target := by
  have taken : ((contextSystem exampleHost).run exampleContext exampleLost).any (fun target =>
      (target.read exampleHost (uuid "s") (uuid "org") ⟨target.service, none⟩).1.toOption.any
          (fun found => found.rules.map Rule.id == [uuid "1"]) &&
        target.service.db.rules.all fun rule => !rule.isActive) = true := by
    decide +kernel
  obtain ⟨target, runEq, taken⟩ := (Option.any_eq_true _ _).mp taken
  obtain ⟨readTaken, inactive⟩ := (Bool.and_eq_true _ _).mp taken
  obtain ⟨found, foundEq, ids⟩ := (Option.any_eq_true _ _).mp readTaken
  have ids : found.rules.map Rule.id = [uuid "1"] := beq_iff_eq.mp ids
  have inactive : ∀ rule ∈ target.service.db.rules, rule.isActive = false :=
    fun rule ruleMem => Bool.not_eq_true' _ |>.mp (List.all_eq_true.mp inactive rule ruleMem)
  have readEq : (target.read exampleHost (uuid "s") (uuid "org") ⟨target.service, none⟩).1 =
      .ok found := by
    cases resultEq : (target.read exampleHost (uuid "s") (uuid "org") ⟨target.service, none⟩).1 with
    | error thrown =>
        rw [resultEq] at foundEq
        cases foundEq
    | ok result =>
        rw [resultEq] at foundEq
        exact congrArg Except.ok (Option.some.inj foundEq)
  refine ⟨target, found, runEq, readEq, ids, inactive, fun readsFresh => ?_⟩
  have reads := readsFresh.1 (uuid "s") (uuid "org") none found _ (Prod.ext readEq rfl)
  have none_left : target.service.db.rules.filter (fun rule =>
      decide (HoldsFor exampleHost (uuid "org") found.session found.workflow rule)) = [] := by
    refine List.filter_eq_nil_iff.mpr fun rule ruleMem holds => ?_
    have isActive := (of_decide_eq_true holds).2.1
    rw [inactive rule ruleMem] at isActive
    cases isActive
  have noRules := reads.rules
  rw [none_left] at noRules
  rw [noRules.eq_nil] at ids
  cases ids

end Manbaa.Rules
