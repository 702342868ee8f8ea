import Manbaa.Rules.Contradictions

/-!
# A bundle and its rules one by one

An import compares an item with all active rules of the organization that are remembered and with
the items before it, `create` with the active rules beside it.  The two accept the same bundles, and
store the same rules, as long as no item is refused for a rule that is not an active one beside it,
and none is let through for what is remembered or for the order of keys.
-/

namespace Manbaa.Rules

open Manbaa.Lib Manbaa.Lib.Effect

/-! ## One by one -/

/-- The rule that `create` makes of an item. -/
def BundleItem.created (item : BundleItem) (caller : RequestUser) : Rule :=
  item.dto.rule.rule caller item.id 1 true

/-- `create`, for the items of a bundle in order. -/
def createEach (host : Host) (caller : RequestUser) (now : Nat) : List BundleItem → Calls Unit
  | [] => pure ()
  | item :: rest => do
      create host item.dto.rule caller item.id now
      createEach host caller now rest

/-- A call is accepted that no failing call stops. -/
def Accepts (body : Calls Unit) (state : RulesState) : Prop := (body ⟨state, none⟩).1 = .ok ()

/-- The scope of an item goes with its workflow and its agent. -/
def RulesDb.scopeOf (db : RulesDb) (caller : RequestUser) (item : BundleItem) : Bool :=
  db.scopeConsistent item.dto.rule.scope item.dto.rule.workflowId item.dto.rule.targetAgent
    caller.orgId

/-- Rules that are inserted one after the other: their identifiers are not taken, and the columns
take their values. -/
def Insertable : List Uuid → List Rule → Prop
  | _, [] => True
  | taken, candidate :: rest =>
      candidate.id ∉ taken ∧ candidate.fits = .ok () ∧ Insertable (taken ++ [candidate.id]) rest

/-- Rules that contradict no active rule beside them, when each is stored after the one before. -/
def ClearBeside (host : Host) (now : Nat) : List Rule → List Rule → Prop
  | _, [] => True
  | rows, candidate :: rest =>
      (candidate.isActive = true → candidate.ruleType ∈ contradictableRuleTypes → ∀ row ∈ rows,
        row.isActive = true → candidate.Beside row → conflicts host candidate row = false) ∧
      ClearBeside host now (rows ++ [host.row candidate now]) rest

/-! ## What an import reports -/

/-- The active rules of the organization that an import goes by. -/
def RulesState.remembered (state : RulesState) (orgId : Uuid) (now : Nat) : List Rule :=
  (state.cached? orgId now).getD (state.db.activeRules orgId)

/-- The first rule of a pool that a candidate is found to contradict. -/
def opposing (host : Host) (candidate : Rule) (pool : List Rule) : Option Rule :=
  if candidate.isCompared then pool.find? (conflicts host candidate) else none

/-- The first item that contradicts a rule of the pool or an item before it, and that rule. -/
def stagedConflict (host : Host) (db : RulesDb) (caller : RequestUser) :
    List Rule → List BundleItem → Option (Rule × Rule)
  | _, [] => none
  | pool, item :: rest =>
      if db.scopeOf caller item then
        match opposing host (item.candidate caller) pool with
        | some other => some (item.candidate caller, other)
        | none => stagedConflict host db caller (pool ++ [item.candidate caller]) rest
      else none

/-- What an import reports as a conflict. -/
def importConflict (host : Host) (state : RulesState) (bundle : List BundleItem)
    (caller : RequestUser) (now : Nat) : Option (Rule × Rule) :=
  if managesRules caller then
    stagedConflict host state.db caller (state.remembered caller.orgId now) bundle
  else none

/-- An import agrees with creating its rules one by one: where all items are active, it is accepted
when each of them is, and then stores the same rules; and a rule that it reports as a conflict is an
active one of the type, scope, agent and workflow of the item. -/
structure ImportAgrees (host : Host) (state : RulesState) (bundle : List BundleItem)
    (caller : RequestUser) (now : Nat) : Prop where
  accepts : (∀ item ∈ bundle, item.dto.isActive.getD true = true) →
    (Accepts (importRules host bundle caller now) state ↔
      Accepts (createEach host caller now bundle) state)
  stores : (∀ item ∈ bundle, item.dto.isActive.getD true = true) →
    Accepts (importRules host bundle caller now) state → ∀ rule,
      rule ∈ (importRules host bundle caller now ⟨state, none⟩).2.state.db.rules ↔
        rule ∈ (createEach host caller now bundle ⟨state, none⟩).2.state.db.rules
  reports : ∀ candidate other,
    importConflict host state bundle caller now = some (candidate, other) →
    (importRules host bundle caller now ⟨state, none⟩).1 = .error (.ruleConflict other.id other.name
      (buildConflictDetail host candidate other)) →
    other.isActive = true ∧ candidate.Beside other

/-- The condition: the first rule that an item is found to contradict is an active one beside the
item; and where all items are active and nothing else is wrong with them, they contradict no rule
that is remembered and no item before them just when they contradict no active rule beside them, and
have the version of a new rule. -/
structure ImportCondition (host : Host) (state : RulesState) (bundle : List BundleItem)
    (caller : RequestUser) (now : Nat) : Prop where
  manages : bundle = [] → managesRules caller = true
  reports : ∀ pair ∈ importConflict host state bundle caller now,
    pair.2.isActive = true ∧ pair.1.Beside pair.2
  accepts : (∀ item ∈ bundle, item.dto.isActive.getD true = true) → managesRules caller = true →
    (∀ item ∈ bundle, state.db.scopeOf caller item = true) →
    Insertable (state.db.rules.map Rule.id) (bundle.map fun item => item.created caller) →
    ClearBeside host now state.db.rules (bundle.map fun item => item.created caller) →
      Clear host (state.remembered caller.orgId now) (bundle.map fun item => item.candidate caller) ∧
        ∀ item ∈ bundle, item.dto.version.getD 1 = 1
  refuses : (∀ item ∈ bundle, item.dto.isActive.getD true = true) → managesRules caller = true →
    (∀ item ∈ bundle, state.db.scopeOf caller item = true) →
    Insertable (state.db.rules.map Rule.id) (bundle.map fun item => item.candidate caller) →
    Clear host (state.remembered caller.orgId now) (bundle.map fun item => item.candidate caller) →
      ClearBeside host now state.db.rules (bundle.map fun item => item.created caller)

variable {host : Host} {caller : RequestUser} {now : Nat} {state target : RulesState} {db : RulesDb}
  {candidate other : Rule} {rules pool : List Rule} {item : BundleItem} {items : List BundleItem}

/-! ## Comparisons and inserts -/

theorem passes_none_iff : passes host candidate none rules = true ↔
    (candidate.isActive = true → candidate.ruleType ∈ contradictableRuleTypes →
      ∀ other ∈ rules, conflicts host candidate other = false) := by
  have compared_iff : candidate.isCompared = true ↔
      candidate.isActive = true ∧ candidate.ruleType ∈ contradictableRuleTypes := by
    rw [Rule.isCompared, Bool.and_eq_true, List.contains_iff_mem]
  have agrees_iff (other : Rule) :
      (!((none : Option Uuid) != some other.id && conflicts host candidate other)) = true ↔
        conflicts host candidate other = false := by
    have isOther : ((none : Option Uuid) != some other.id) = true := rfl
    rw [isOther, Bool.true_and, Bool.not_eq_true']
  rw [passes, Bool.or_eq_true, List.all_eq_true]
  simp only [agrees_iff]
  constructor
  · rintro (uncompared | agrees) isActive contradictable
    · rw [compared_iff.mpr ⟨isActive, contradictable⟩] at uncompared
      cases uncompared
    · exact agrees
  · intro agrees
    cases isCompared : candidate.isCompared with
    | false => exact Or.inl rfl
    | true =>
        obtain ⟨isActive, contradictable⟩ := compared_iff.mp isCompared
        exact Or.inr (agrees isActive contradictable)

/-- The tables with the rows of more rules. -/
def RulesDb.withRows (host : Host) (now : Nat) (db : RulesDb) (rules : List Rule) : RulesDb :=
  { db with rules := db.rules ++ rules.map fun rule => host.row rule now }

/-- Rules are inserted one after the other just when they can be, and each adds its row. -/
theorem insertRules_ok_iff {after : RulesDb} :
    insertRules host now rules db = (.ok (), after) ↔ Insertable (db.rules.map Rule.id) rules ∧
      after = db.withRows host now rules := by
  induction rules generalizing db with
  | nil =>
      rw [insertRules, pure_eq_ok_iff, RulesDb.withRows, List.map_nil, List.append_nil]
      exact and_congr ⟨fun _ => trivial, fun _ => rfl⟩ eq_comm
  | cons rule rest ih =>
      have new_iff : db.rule? rule.id = none ↔ rule.id ∉ db.rules.map Rule.id := by
        rw [RulesDb.rule?, Table.get?_eq_none_iff, List.mem_map]
        constructor
        · rintro new ⟨row, rowMem, same⟩
          exact new row rowMem same
        · intro new row rowMem same
          exact new ⟨row, rowMem, same⟩
      rw [insertRules_cons_ok_iff, new_iff, Insertable]
      constructor
      · rintro ⟨isNew, fits, restEq⟩
        have appended : Table.save Rule.id db.rules (host.row rule now) =
            db.rules ++ [host.row rule now] := Table.save_of_get?_eq_none (new_iff.mpr isNew)
        rw [appended] at restEq
        obtain ⟨insertable, rfl⟩ := ih.mp restEq
        refine ⟨⟨isNew, fits, ?_⟩, ?_⟩
        · rw [List.map_append] at insertable
          exact insertable
        · simp only [RulesDb.withRows, List.map_cons, List.append_assoc, List.singleton_append]
      · rintro ⟨⟨isNew, fits, insertable⟩, rfl⟩
        have appended : Table.save Rule.id db.rules (host.row rule now) =
            db.rules ++ [host.row rule now] := Table.save_of_get?_eq_none (new_iff.mpr isNew)
        refine ⟨isNew, fits, ih.mpr ⟨?_, ?_⟩⟩
        · rw [appended, List.map_append]
          exact insertable
        · simp only [RulesDb.withRows, appended, List.map_cons, List.append_assoc,
            List.singleton_append]

/-! ## Creating rules one by one -/

/-- Without a failing call, an answer is what is returned. -/
theorem answers_calm {body : Calls Unit} {cost : Nat} {accepted : Bool}
    (answers : Answers body state cost (if accepted then some () else none)) :
    (accepted = true ∧ body ⟨state, none⟩ = (.ok (), ⟨state, none⟩)) ∨
      (accepted = false ∧ ∃ thrown after, body ⟨state, none⟩ = (.error thrown, after)) := by
  have calm : Allows none cost := fun _ absent => (by cases absent)
  cases accepted with
  | true => exact Or.inl ⟨rfl, answers.ok calm⟩
  | false =>
      obtain ⟨thrown, after, thrownEq⟩ := (answers none).2 fun _ absent => (by cases absent)
      exact Or.inr ⟨rfl, thrown, _, thrownEq⟩

/-- What `create` checks of an item. -/
structure Creates (host : Host) (db : RulesDb) (caller : RequestUser) (item : BundleItem) : Prop where
  manages : managesRules caller = true
  inScope : db.scopeOf caller item = true
  passes : passes host (item.created caller) none (db.besides (item.created caller)) = true
  isNew : (item.created caller).id ∉ db.rules.map Rule.id
  fits : (item.created caller).fits = .ok ()

/-- `create` writes the row of an item just when its checks let the item through. -/
theorem create_spec (host : Host) (caller : RequestUser) (now : Nat) (item : BundleItem) (state : RulesState) :
    (Creates host state.db caller item ∧ ∃ after,
      create host item.dto.rule caller item.id now ⟨state, none⟩ = (.ok (), ⟨after, none⟩) ∧
        after.db = state.db.withRows host now [item.created caller]) ∨
    (¬ Creates host state.db caller item ∧ ∃ thrown world,
      create host item.dto.rule caller item.id now ⟨state, none⟩ = (.error thrown, world)) := by
  rw [create]
  rcases answers_calm (answers_assertRuleManager state caller) with
    ⟨manages, managedEq⟩ | ⟨refused, thrown, world, thrownEq⟩
  · rw [bind_of_ok managedEq]
    rcases answers_calm (answers_assertScopeConsistency state item.dto.rule.scope
        item.dto.rule.workflowId item.dto.rule.targetAgent caller.orgId) with
      ⟨inScope, scopedEq⟩ | ⟨refused, thrown, world, thrownEq⟩
    · rw [bind_of_ok scopedEq]
      rcases answers_calm (answers_ensureNoConflict host state
          (item.created caller) none none) with
        ⟨passed, passedEq⟩ | ⟨refused, thrown, world, thrownEq⟩
      · have ensuredEq : ensureNoConflict host (item.dto.rule.rule caller item.id 1 true) none none
            ⟨state, none⟩ = (.ok (), ⟨state, none⟩) := passedEq
        rw [bind_of_ok ensuredEq]
        rcases insertEq : insertRules host now [item.dto.rule.rule caller item.id 1 true]
            state.db with ⟨thrown | done, after⟩
        · have queryEq : query (insertRules host now [item.dto.rule.rule caller item.id 1 true])
              ⟨state, none⟩ = (.error thrown, ⟨{ state with db := after }, none⟩) := by
            rw [query_calm, insertEq]
          refine Or.inr ⟨fun creates => ?_, thrown, _, bind_eq_error_iff.mpr (Or.inl queryEq)⟩
          have inserted : insertRules host now [item.created caller] state.db =
              (.ok (), state.db.withRows host now [item.created caller]) :=
            insertRules_ok_iff.mpr ⟨⟨creates.isNew, creates.fits, trivial⟩, rfl⟩
          cases insertEq.symm.trans inserted
        · have queryEq : query (insertRules host now [item.dto.rule.rule caller item.id 1 true])
              ⟨state, none⟩ = (.ok (), ⟨{ state with db := after }, none⟩) := by
            rw [query_calm, insertEq]
          obtain ⟨⟨isNew, fits, _⟩, afterEq⟩ := insertRules_ok_iff.mp insertEq
          refine Or.inl ⟨⟨manages, inScope, passed, isNew, fits⟩,
            { state with db := after }.forget caller.orgId, ?_, ?_⟩
          · rw [bind_of_ok queryEq]
            rfl
          · exact afterEq
      · have ensuredEq : ensureNoConflict host (item.dto.rule.rule caller item.id 1 true) none none
            ⟨state, none⟩ = (.error thrown, world) := thrownEq
        refine Or.inr ⟨fun creates => ?_, thrown, world, bind_eq_error_iff.mpr (Or.inl ensuredEq)⟩
        cases refused.symm.trans creates.passes
    · refine Or.inr ⟨fun creates => ?_, thrown, world, bind_eq_error_iff.mpr (Or.inl thrownEq)⟩
      cases refused.symm.trans creates.inScope
  · refine Or.inr ⟨fun creates => ?_, thrown, world, bind_eq_error_iff.mpr (Or.inl thrownEq)⟩
    cases refused.symm.trans creates.manages

/-- What `create` checks of the items of a bundle, each after the one before is stored. -/
def CreatesEach (host : Host) (now : Nat) (caller : RequestUser) : RulesDb → List BundleItem → Prop
  | _, [] => True
  | db, item :: rest => Creates host db caller item ∧
      CreatesEach host now caller (db.withRows host now [item.created caller]) rest

theorem createEach_spec (host : Host) (caller : RequestUser) (now : Nat)
    (items : List BundleItem) (state : RulesState) :
    (CreatesEach host now caller state.db items ∧ ∃ after,
      createEach host caller now items ⟨state, none⟩ = (.ok (), ⟨after, none⟩) ∧
        after.db.rules = state.db.rules ++
          items.map fun item => host.row (item.created caller) now) ∨
    (¬ CreatesEach host now caller state.db items ∧ ∃ thrown world,
      createEach host caller now items ⟨state, none⟩ = (.error thrown, world)) := by
  induction items generalizing state with
  | nil => exact Or.inl ⟨trivial, state, rfl, (List.append_nil _).symm⟩
  | cons item rest ih =>
      rw [createEach]
      rcases create_spec host caller now item state with
        ⟨creates, middle, createEq, middleEq⟩ | ⟨refused, thrown, world, thrownEq⟩
      · rw [bind_of_ok createEq]
        rcases ih middle with ⟨others, after, restEq, afterEq⟩ | ⟨refused, thrown, world, thrownEq⟩
        · rw [middleEq] at others
          refine Or.inl ⟨⟨creates, others⟩, after, restEq, ?_⟩
          simp only [afterEq, middleEq, RulesDb.withRows, List.map_cons, List.map_nil,
            List.append_assoc, List.singleton_append]
        · rw [middleEq] at refused
          exact Or.inr ⟨fun each => refused each.2, thrown, world, thrownEq⟩
      · exact Or.inr ⟨fun each => refused each.1, thrown, world,
          bind_eq_error_iff.mpr (Or.inl thrownEq)⟩

/-- The checks of `create`, check by check. -/
theorem createsEach_iff : CreatesEach host now caller db items ↔
    (items = [] ∨ managesRules caller = true) ∧ (∀ item ∈ items, db.scopeOf caller item = true) ∧
      Insertable (db.rules.map Rule.id) (items.map fun item => item.created caller) ∧
      ClearBeside host now db.rules (items.map fun item => item.created caller) := by
  induction items generalizing db with
  | nil => exact iff_of_true trivial ⟨Or.inl rfl, fun _ absent => (by cases absent), trivial, trivial⟩
  | cons item rest ih =>
      have passes_iff : passes host (item.created caller) none (db.besides (item.created caller)) =
            true ↔ ((item.created caller).isActive = true →
          (item.created caller).ruleType ∈ contradictableRuleTypes → ∀ row ∈ db.rules,
            row.isActive = true → (item.created caller).Beside row →
              conflicts host (item.created caller) row = false) := by
        rw [passes_none_iff]
        simp only [mem_besides_iff, and_imp]
      rw [CreatesEach, ih, List.map_cons, Insertable, ClearBeside, ← passes_iff]
      have ids : (db.withRows host now [item.created caller]).rules.map Rule.id =
          db.rules.map Rule.id ++ [(item.created caller).id] := by
        rw [RulesDb.withRows, List.map_append]
        rfl
      rw [ids]
      constructor
      · rintro ⟨⟨manages, inScope, passed, isNew, fits⟩, _, scopes, insertable, clear⟩
        exact ⟨Or.inr manages, List.forall_mem_cons.mpr ⟨inScope, scopes⟩, ⟨isNew, fits, insertable⟩,
          passed, clear⟩
      · rintro ⟨manages, scopes, ⟨isNew, fits, insertable⟩, passed, clear⟩
        have manages := manages.resolve_left (List.cons_ne_nil _ _)
        obtain ⟨inScope, scopes⟩ := List.forall_mem_cons.mp scopes
        exact ⟨⟨manages, inScope, passed, isNew, fits⟩, Or.inr manages, scopes, insertable, clear⟩

/-! ## Importing a bundle -/

theorem remembered_calm (state : RulesState) (orgId : Uuid) (now : Nat) :
    ∃ after, getCachedActiveRules orgId now ⟨state, none⟩ =
      (.ok (state.remembered orgId now), ⟨after, none⟩) ∧ after.db = state.db := by
  have readEq : locally (reading fun state : RulesState => state.cached? orgId now)
      ⟨state, none⟩ = ((.ok (state.cached? orgId now) : Except Exception _), ⟨state, none⟩) := rfl
  rw [getCachedActiveRules, bind_of_ok readEq, RulesState.remembered]
  cases state.cached? orgId now with
  | some rules => exact ⟨_, rfl, rfl⟩
  | none => exact ⟨_, rfl, rfl⟩

/-- The check of a candidate that an import makes. -/
theorem ensureActive_spec (host : Host) (candidate : Rule) (pool : List Rule) (state : RulesState) :
    (passes host candidate none pool = true ∧
      opposing host candidate pool = none ∧
      (if candidate.isActive then ensureNoConflict host candidate none (some pool) else pure ())
        ⟨state, none⟩ = (.ok (), ⟨state, none⟩)) ∨
    (passes host candidate none pool = false ∧ ∃ other,
      opposing host candidate pool = some other ∧
      (if candidate.isActive then ensureNoConflict host candidate none (some pool) else pure ())
        ⟨state, none⟩ = (.error (.ruleConflict other.id other.name
          (buildConflictDetail host candidate other)), ⟨state, none⟩)) := by
  rw [opposing]
  cases isCompared : candidate.isCompared with
  | false =>
      refine Or.inl ⟨by rw [passes, isCompared]; rfl, rfl, ?_⟩
      split
      · rw [ensureNoConflict, if_pos (by rw [← Bool.not_and, ← Rule.isCompared, isCompared]; rfl)]
        rfl
      · rfl
  | true =>
      obtain ⟨isActive, contradictable⟩ := Bool.and_eq_true_iff.mp isCompared
      have sameFind : (pool.find? fun existingRule => (none : Option Uuid) != some existingRule.id &&
          conflicts host candidate existingRule) = pool.find? (conflicts host candidate) :=
        rfl
      have given : findCandidates candidate (some pool) ⟨state, none⟩ = (.ok pool, ⟨state, none⟩) :=
        rfl
      rw [if_pos rfl, if_pos isActive, ensureNoConflict,
        if_neg (by rw [← Bool.not_and, ← Rule.isCompared, isCompared]; decide), bind_of_ok given,
        sameFind]
      cases found : pool.find? (conflicts host candidate) with
      | none =>
          refine Or.inl ⟨passes_none_iff.mpr fun _ _ other otherMem => ?_, rfl, rfl⟩
          exact Bool.eq_false_iff.mpr (List.find?_eq_none.mp found other otherMem)
      | some other =>
          refine Or.inr ⟨Bool.eq_false_iff.mpr fun passed => ?_, other, rfl, rfl⟩
          have agrees := passes_none_iff.mp passed isActive (List.contains_iff_mem.mp contradictable)
            other (List.mem_of_find?_eq_some found)
          cases agrees.symm.trans (List.find?_some found)

theorem clear_cons_iff {rest : List Rule} : Clear host pool (candidate :: rest) ↔
    passes host candidate none pool = true ∧ Clear host (pool ++ [candidate]) rest := by
  rw [Clear, passes_none_iff]

/-- A bundle is staged just when its items are in scope and contradict nothing in their pools;
otherwise the first conflict is reported, if there is one before an item out of scope. -/
theorem stageRules_spec (host : Host) (caller : RequestUser) (activeRules staged : List Rule)
    (items : List BundleItem) (state : RulesState) :
    ((∀ item ∈ items, state.db.scopeOf caller item = true) ∧
        Clear host (activeRules ++ staged) (items.map fun item => item.candidate caller) ∧
        stagedConflict host state.db caller (activeRules ++ staged) items = none ∧
        stageRules host caller activeRules items staged ⟨state, none⟩ =
          (.ok (staged ++ items.map fun item => item.candidate caller), ⟨state, none⟩)) ∨
    (¬ ((∀ item ∈ items, state.db.scopeOf caller item = true) ∧
        Clear host (activeRules ++ staged) (items.map fun item => item.candidate caller)) ∧
      ∃ thrown after,
        stageRules host caller activeRules items staged ⟨state, none⟩ = (.error thrown, after) ∧
        ∀ candidate other, stagedConflict host state.db caller (activeRules ++ staged) items =
            some (candidate, other) →
          thrown = .ruleConflict other.id other.name
            (buildConflictDetail host candidate other)) := by
  induction items generalizing staged with
  | nil =>
      refine Or.inl ⟨fun _ absent => (by cases absent), trivial, rfl, ?_⟩
      rw [List.map_nil, List.append_nil]
      rfl
  | cons item rest ih =>
      rw [stageRules_cons, stagedConflict, List.map_cons, clear_cons_iff, List.forall_mem_cons]
      rcases answers_calm (answers_assertScopeConsistency state item.dto.rule.scope
          item.dto.rule.workflowId item.dto.rule.targetAgent caller.orgId) with
        ⟨inScope, scopedEq⟩ | ⟨outOfScope, thrown, world, thrownEq⟩
      · have scopeEq : state.db.scopeOf caller item = true := inScope
        have builtEq : buildImportedRule item caller ⟨state, none⟩ =
            (.ok (item.candidate caller), ⟨state, none⟩) := bind_of_ok scopedEq
        rw [bind_of_ok builtEq, if_pos scopeEq]
        rcases ensureActive_spec host (item.candidate caller) (activeRules ++ staged) state
          with ⟨passed, notFound, ensuredEq⟩ | ⟨opposed, other, found, thrownEq⟩
        · rw [bind_of_ok ensuredEq, notFound]
          rcases ih (staged ++ [item.candidate caller]) with
            ⟨scopes, clear, noConflict, stagedEq⟩ | ⟨stops, thrown, after, thrownEq, reports⟩
          · rw [← List.append_assoc] at clear noConflict
            refine Or.inl ⟨⟨scopeEq, scopes⟩, ⟨passed, clear⟩, noConflict, ?_⟩
            rw [stagedEq, List.append_assoc, List.singleton_append]
          · rw [← List.append_assoc] at stops reports
            exact Or.inr ⟨fun holds => stops ⟨holds.1.2, holds.2.2⟩, thrown, after, thrownEq,
              reports⟩
        · rw [found]
          refine Or.inr ⟨fun holds => ?_, _, _, bind_eq_error_iff.mpr (Or.inl thrownEq), ?_⟩
          · cases opposed.symm.trans holds.2.1
          · rintro _ _ ⟨⟩
            rfl
      · have scopeEq : state.db.scopeOf caller item = false := outOfScope
        have builtEq : buildImportedRule item caller ⟨state, none⟩ = (.error thrown, world) :=
          bind_eq_error_iff.mpr (Or.inl thrownEq)
        rw [scopeEq]
        refine Or.inr ⟨fun holds => (by cases holds.1.1), thrown, world,
          bind_eq_error_iff.mpr (Or.inl builtEq), ?_⟩
        intro _ _ absent
        cases absent

/-- What an import checks of a bundle. -/
structure Imports (host : Host) (state : RulesState) (bundle : List BundleItem)
    (caller : RequestUser) (now : Nat) : Prop where
  manages : managesRules caller = true
  inScope : ∀ item ∈ bundle, state.db.scopeOf caller item = true
  clear : Clear host (state.remembered caller.orgId now)
    (bundle.map fun item => item.candidate caller)
  insertable : Insertable (state.db.rules.map Rule.id)
    (bundle.map fun item => item.candidate caller)

/-- An import writes the rows of a bundle just when its checks let the bundle through, and reports
the first conflict. -/
theorem importRules_spec (host : Host) (caller : RequestUser) (now : Nat)
    (bundle : List BundleItem) (state : RulesState) :
    (Imports host state bundle caller now ∧
      importConflict host state bundle caller now = none ∧ ∃ after,
      importRules host bundle caller now ⟨state, none⟩ = (.ok (), ⟨after, none⟩) ∧
        after.db.rules = state.db.rules ++
          bundle.map fun item => host.row (item.candidate caller) now) ∨
    (¬ Imports host state bundle caller now ∧ ∃ thrown world,
      importRules host bundle caller now ⟨state, none⟩ = (.error thrown, world) ∧
      ∀ candidate other, importConflict host state bundle caller now = some (candidate, other) →
        thrown = .ruleConflict other.id other.name (buildConflictDetail host candidate other)) := by
  rw [importRules, importConflict]
  rcases answers_calm (answers_assertRuleManager state caller) with
    ⟨manages, managedEq⟩ | ⟨refused, thrown, world, thrownEq⟩
  · obtain ⟨after, rememberedEq, sameDb⟩ := remembered_calm state caller.orgId now
    rw [bind_of_ok managedEq, bind_of_ok rememberedEq, if_pos manages, ← sameDb]
    rcases stageRules_spec host caller (state.remembered caller.orgId now) []
        bundle after with
      ⟨scopes, clear, noConflict, stagedEq⟩ | ⟨stops, thrown, world, thrownEq, reports⟩
    · rw [List.append_nil] at clear noConflict
      rw [bind_of_ok stagedEq, List.nil_append]
      rcases insertEq : insertRules host now (bundle.map fun item => item.candidate caller) after.db
        with ⟨thrown | done, target⟩
      · have queryEq : query (transaction (insertRules host now
            (bundle.map fun item => item.candidate caller))) ⟨after, none⟩ =
            (.error thrown, ⟨{ after with db := after.db }, none⟩) := by
          rw [query_calm, transaction, insertEq]
        refine Or.inr ⟨fun imports => ?_, thrown, _, bind_eq_error_iff.mpr (Or.inl queryEq), ?_⟩
        · have inserted : insertRules host now (bundle.map fun item => item.candidate caller)
              state.db = (.ok (), state.db.withRows host now
                (bundle.map fun item => item.candidate caller)) :=
            insertRules_ok_iff.mpr ⟨imports.insertable, rfl⟩
          rw [sameDb, inserted] at insertEq
          cases insertEq
        · rw [noConflict]
          intro _ _ absent
          cases absent
      · have queryEq : query (transaction (insertRules host now
            (bundle.map fun item => item.candidate caller))) ⟨after, none⟩ =
            (.ok (), ⟨{ after with db := target }, none⟩) := by
          rw [query_calm, transaction, insertEq]
        obtain ⟨insertable, targetEq⟩ := insertRules_ok_iff.mp insertEq
        rw [sameDb] at insertable scopes
        refine Or.inl ⟨⟨manages, scopes, clear, insertable⟩, noConflict,
          { after with db := target }.forget caller.orgId, ?_, ?_⟩
        · rw [bind_of_ok queryEq]
          rfl
        · change target.rules = _
          rw [targetEq, RulesDb.withRows, List.map_map]
          rfl
    · rw [List.append_nil] at stops reports
      refine Or.inr ⟨fun imports => stops ⟨?_, imports.clear⟩, thrown, world,
        bind_eq_error_iff.mpr (Or.inl thrownEq), reports⟩
      rw [sameDb]
      exact imports.inScope
  · refine Or.inr ⟨fun imports => ?_, thrown, world, bind_eq_error_iff.mpr (Or.inl thrownEq), ?_⟩
    · cases refused.symm.trans imports.manages
    · rw [refused]
      intro _ _ absent
      cases absent

/-! ## The two agree -/

theorem accepts_import_iff (bundle : List BundleItem) (state : RulesState) :
    Accepts (importRules host bundle caller now) state ↔ Imports host state bundle caller now := by
  rcases importRules_spec host caller now bundle state with
    ⟨imports, _, after, importEq, _⟩ | ⟨refused, thrown, world, thrownEq, _⟩
  · exact iff_of_true (congrArg Prod.fst importEq) imports
  · refine iff_of_false (fun accepts => ?_) refused
    rw [Accepts, thrownEq] at accepts
    cases accepts

theorem accepts_createEach_iff (items : List BundleItem) (state : RulesState) :
    Accepts (createEach host caller now items) state ↔
      CreatesEach host now caller state.db items := by
  rcases createEach_spec host caller now items state with
    ⟨creates, after, createEq, _⟩ | ⟨refused, thrown, world, thrownEq⟩
  · exact iff_of_true (congrArg Prod.fst createEq) creates
  · refine iff_of_false (fun accepts => ?_) refused
    rw [Accepts, thrownEq] at accepts
    cases accepts

theorem imported_rules {bundle : List BundleItem} (imports : Imports host state bundle caller now) :
    (importRules host bundle caller now ⟨state, none⟩).2.state.db.rules = state.db.rules ++
      bundle.map fun item => host.row (item.candidate caller) now := by
  rcases importRules_spec host caller now bundle state with
    ⟨_, _, after, importEq, rulesEq⟩ | ⟨refused, _⟩
  · rw [importEq]
    exact rulesEq
  · exact absurd imports refused

theorem created_rules (creates : CreatesEach host now caller state.db items) :
    (createEach host caller now items ⟨state, none⟩).2.state.db.rules = state.db.rules ++
      items.map fun item => host.row (item.created caller) now := by
  rcases createEach_spec host caller now items state with
    ⟨_, after, createEq, rulesEq⟩ | ⟨refused, _⟩
  · rw [createEq]
    exact rulesEq
  · exact absurd creates refused

/-- The version of a new rule fits where any does. -/
theorem fits_created (fits : (item.candidate caller).fits = .ok ()) :
    (item.created caller).fits = .ok () := by
  rw [Rule.fits] at fits ⊢
  simp only [except_bind_eq_ok_iff, check_eq_ok_iff, exists_done] at fits ⊢
  obtain ⟨name, zeroName, description, condition, instruction, priority, _⟩ := fits
  exact ⟨name, zeroName, description, condition, instruction, priority, rfl⟩

theorem insertable_created {taken : List Uuid}
    (insertable : Insertable taken (items.map fun item => item.candidate caller)) :
    Insertable taken (items.map fun item => item.created caller) := by
  induction items generalizing taken with
  | nil => trivial
  | cons item rest ih =>
      obtain ⟨isNew, fits, others⟩ := insertable
      exact ⟨isNew, fits_created fits, ih others⟩

theorem not_taken_of_insertable {taken : List Uuid} (insertable : Insertable taken rules)
    (candidateMem : candidate ∈ rules) : candidate.id ∉ taken := by
  induction rules generalizing taken with
  | nil => cases candidateMem
  | cons rule rest ih =>
      obtain ⟨isNew, _, others⟩ := insertable
      rcases List.mem_cons.mp candidateMem with rfl | later
      · exact isNew
      · exact fun isTaken => ih others later (List.mem_append_left _ isTaken)

/-- An active item with the version of a new rule is the rule that `create` makes. -/
theorem candidate_eq_created (isActive : item.dto.isActive.getD true = true)
    (version : item.dto.version.getD 1 = 1) : item.candidate caller = item.created caller := by
  rw [BundleItem.candidate, isActive, version]
  rfl

/-- What an item contradicts, of the rules of the pool and the items before it, is active and beside
it. -/
def NoneForeign (host : Host) : List Rule → List Rule → Prop
  | _, [] => True
  | pool, candidate :: rest =>
      (candidate.isActive = true → candidate.ruleType ∈ contradictableRuleTypes → ∀ other ∈ pool,
        conflicts host candidate other = true → other.isActive = true ∧ candidate.Beside other) ∧
      NoneForeign host (pool ++ [candidate]) rest

/-- The active rows of an organization are the active rules of a pool, at whatever time they were
written. -/
structure SameActive (orgId : Uuid) (rows pool : List Rule) : Prop where
  ofRow : ∀ row ∈ rows, row.orgId = orgId → row.isActive = true →
    ∃ other ∈ pool, ∃ time, row = { other with updatedAt := time }
  ofPool : ∀ other ∈ pool, other.isActive = true → other.orgId = orgId →
    ∃ row ∈ rows, ∃ time, row = { other with updatedAt := time }

theorem reported_of_noneForeign
    (noneForeign : NoneForeign host pool (items.map fun item => item.candidate caller))
    (reported : stagedConflict host db caller pool items = some (candidate, other)) :
    other.isActive = true ∧ candidate.Beside other := by
  induction items generalizing pool with
  | nil => cases reported
  | cons item rest ih =>
      obtain ⟨own, others⟩ := noneForeign
      rw [stagedConflict] at reported
      split at reported
      · cases opposes : opposing host (item.candidate caller) pool with
        | none =>
            rw [opposes] at reported
            exact ih others reported
        | some found =>
            rw [opposes] at reported
            cases reported
            rw [opposing] at opposes
            split at opposes
            · rename_i isCompared
              obtain ⟨isActive, contradictable⟩ := Bool.and_eq_true_iff.mp isCompared
              exact own isActive (List.contains_iff_mem.mp contradictable) other
                (List.mem_of_find?_eq_some opposes) (List.find?_some opposes)
            · cases opposes
      · cases reported

/-- Among the same rules, candidates whose conditions are read back as they are contradict no rule of
the pool just when they contradict none beside them. -/
theorem clear_iff_clearBeside {orgId : Uuid} {rows : List Rule} (same : SameActive orgId rows pool)
    (inOrg : ∀ candidate ∈ rules, candidate.orgId = orgId)
    (stable : ∀ candidate ∈ rules, host.stored candidate.condition = candidate.condition)
    (noneForeign : NoneForeign host pool rules) :
    Clear host pool rules ↔ ClearBeside host now rows rules := by
  induction rules generalizing pool rows with
  | nil => exact Iff.rfl
  | cons candidate rest ih =>
      obtain ⟨candidateOrg, restOrg⟩ := List.forall_mem_cons.mp inOrg
      obtain ⟨candidateStable, restStable⟩ := List.forall_mem_cons.mp stable
      have rowEq : host.row candidate now = { candidate with updatedAt := now } := by
        rw [Host.row, candidateStable]
      have sameNext : SameActive orgId (rows ++ [host.row candidate now]) (pool ++ [candidate]) := by
        constructor
        · intro row rowMem rowOrg isActive
          rcases List.mem_append.mp rowMem with old | new
          · obtain ⟨other, otherMem, holds⟩ := same.ofRow row old rowOrg isActive
            exact ⟨other, List.mem_append_left _ otherMem, holds⟩
          · exact ⟨candidate, List.mem_append_right _ (List.mem_singleton.mpr rfl), now,
              (List.mem_singleton.mp new).trans rowEq⟩
        · intro other otherMem isActive otherOrg
          rcases List.mem_append.mp otherMem with old | new
          · obtain ⟨row, rowMem, holds⟩ := same.ofPool other old isActive otherOrg
            exact ⟨row, List.mem_append_left _ rowMem, holds⟩
          · rw [List.mem_singleton.mp new]
            exact ⟨_, List.mem_append_right _ (List.mem_singleton.mpr rfl), now, rowEq⟩
      rw [Clear, ClearBeside]
      refine and_congr ⟨?_, ?_⟩ (ih sameNext restOrg restStable noneForeign.2)
      · intro clear isActive contradictable row rowMem rowActive beside
        obtain ⟨other, otherMem, time, rfl⟩ :=
          same.ofRow row rowMem (beside.1.symm.trans candidateOrg) rowActive
        exact clear isActive contradictable other otherMem
      · intro clear isActive contradictable other otherMem
        rw [Bool.eq_false_iff]
        intro conflicting
        obtain ⟨otherActive, beside⟩ :=
          noneForeign.1 isActive contradictable other otherMem conflicting
        obtain ⟨row, rowMem, time, rfl⟩ :=
          same.ofPool other otherMem otherActive (beside.1.symm.trans candidateOrg)
        have clears := clear isActive contradictable { other with updatedAt := time } rowMem
          otherActive beside
        cases conflicting.symm.trans clears

/-- A bundle of new rules agrees with creating them, when what is remembered is what the database
holds, conditions are read back as they are, and what an item contradicts is active and beside it. -/
theorem importCondition_of_noneForeign {bundle : List BundleItem}
    (manages : managesRules caller = true)
    (fresh : state.remembered caller.orgId now = state.db.activeRules caller.orgId)
    (stable : ∀ item ∈ bundle, host.stored item.dto.rule.condition = item.dto.rule.condition)
    (versions : ∀ item ∈ bundle, item.dto.version.getD 1 = 1)
    (noneForeign : NoneForeign host (state.remembered caller.orgId now)
      (bundle.map fun item => item.candidate caller)) :
    ImportCondition host state bundle caller now := by
  have same : SameActive caller.orgId state.db.rules (state.remembered caller.orgId now) := by
    rw [fresh]
    constructor
    · intro row rowMem inOrg isActive
      exact ⟨row, mem_activeRules_iff.mpr ⟨rowMem, inOrg, isActive⟩, row.updatedAt, rfl⟩
    · intro other otherMem _ _
      exact ⟨other, (mem_activeRules_iff.mp otherMem).1, other.updatedAt, rfl⟩
  have clear_iff (active : ∀ item ∈ bundle, item.dto.isActive.getD true = true) :
      Clear host (state.remembered caller.orgId now)
        (bundle.map fun item => item.candidate caller) ↔
      ClearBeside host now state.db.rules (bundle.map fun item => item.created caller) := by
    have each : ∀ item ∈ bundle, item.candidate caller = item.created caller :=
      fun item itemMem => candidate_eq_created (active item itemMem) (versions item itemMem)
    rw [← List.map_congr_left each]
    apply clear_iff_clearBeside same ?_ ?_ noneForeign
    · rintro _ candidateMem
      obtain ⟨item, _, rfl⟩ := List.mem_map.mp candidateMem
      rfl
    · rintro _ candidateMem
      obtain ⟨item, itemMem, rfl⟩ := List.mem_map.mp candidateMem
      exact stable item itemMem
  refine ⟨fun _ => manages, ?_, fun active _ _ _ clear => ?_, fun active _ _ _ clear => ?_⟩
  · rintro ⟨candidate, other⟩ reported
    rw [importConflict, if_pos manages] at reported
    exact reported_of_noneForeign noneForeign reported
  · exact ⟨(clear_iff active).mpr clear, versions⟩
  · exact (clear_iff active).mp clear

/-! ## Examples -/

/-- The state with a rule that holds for one agent. -/
def exampleForAgent : RulesState :=
  (create exampleHost { exampleRule none "Keep the names." with
    scope := .agent, targetAgent := some .extraction } exampleManager (uuid "1") 0
    ⟨exampleState, none⟩).2.state

/-- A bundle of a rule for the organization. -/
def exampleBundle : List BundleItem :=
  [⟨⟨exampleRule none "Drop the names.", none, none⟩, uuid "2"⟩]

end Manbaa.Rules
