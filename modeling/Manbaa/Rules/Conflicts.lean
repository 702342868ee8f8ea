import Manbaa.Rules.Service

/-!
# Rules that do not contradict each other

A rule is written when it does not contradict the active rules beside it.  The
comparison of the candidate is made with its condition as it was sent, and later
ones with its condition as its column returns it; the texts of the two differ where
the keys of an object inside the condition are in another order.
-/

namespace Manbaa.Rules

open Manbaa.Lib Manbaa.Lib.Effect

variable {host : Host} {left right : Condition} {first second candidate other row : Rule}
  {rules : List Rule}

/-! ## Comparisons are symmetric -/

theorem deepEqual_comm (host : Host) (left right : Json) :
    deepEqual host left right = deepEqual host right left :=
  Bool.beq_comm

theorem sharesValue_iff {left right : Json.Fields} {key : String} :
    sharesValue host left right key = true ↔ ∃ first second, left.lookup key = some first ∧
      right.lookup key = some second ∧ deepEqual host first second = true := by
  rw [sharesValue]
  cases left.lookup key <;> cases right.lookup key <;> simp

/-- Two conditions overlap when they share the value of a key. -/
theorem conditionsOverlap_some_iff {left right : Json.Fields} :
    conditionsOverlap host (some left) (some right) = true ↔
      ∃ key, sharesValue host left right key = true := by
  rw [conditionsOverlap, List.any_eq_true]
  constructor
  · rintro ⟨key, _, shared⟩
    exact ⟨key, shared⟩
  · rintro ⟨key, shared⟩
    obtain ⟨value, _, found, _⟩ := sharesValue_iff.mp shared
    have keyMem : key ∈ left.map Prod.fst := by
      by_contra absent
      have missing : left.lookup key = none := by
        rw [List.lookup_eq_none_iff]
        intro field fieldMem
        have differs : key ≠ field.1 := fun same =>
          absent (same ▸ List.mem_map_of_mem fieldMem)
        simpa using differs
      rw [missing] at found
      cases found
    exact ⟨key, keyMem, shared⟩

theorem conditionsOverlap_comm (host : Host) (left right : Condition) :
    conditionsOverlap host left right = conditionsOverlap host right left := by
  cases left with
  | none => cases right <;> rfl
  | some left =>
      cases right with
      | none => rfl
      | some right =>
          have flip : ∀ {left right : Json.Fields} {key : String},
              sharesValue host left right key = true → sharesValue host right left key = true := by
            intro left right key shared
            obtain ⟨first, second, firstEq, secondEq, same⟩ := sharesValue_iff.mp shared
            rw [deepEqual_comm] at same
            exact sharesValue_iff.mpr ⟨second, first, secondEq, firstEq, same⟩
          rw [Bool.eq_iff_iff, conditionsOverlap_some_iff, conditionsOverlap_some_iff]
          exact ⟨fun ⟨key, shared⟩ => ⟨key, flip shared⟩, fun ⟨key, shared⟩ => ⟨key, flip shared⟩⟩

theorem saysOtherwise_comm (subjects sayings : List String) (left right : Condition) :
    saysOtherwise subjects sayings left right = saysOtherwise subjects sayings right left := by
  rw [saysOtherwise, saysOtherwise]
  cases pickFirstValue left subjects <;> cases pickFirstValue right subjects <;>
    cases pickFirstValue left sayings <;> cases pickFirstValue right sayings <;>
    simp [eq_comm, bne_comm]

theorem typeSpecific_comm (ruleType : RuleType) (left right : Condition) :
    typeSpecific ruleType left right = typeSpecific ruleType right left := by
  cases ruleType with
  | actorMapping => exact saysOtherwise_comm _ _ left right
  | structuralConstraint => exact saysOtherwise_comm _ _ left right
  | _ => rfl

/-- Rules of one type contradict each other in both orders or in none. -/
theorem conflicts_comm (host : Host) (sameType : first.ruleType = second.ruleType) :
    conflicts host first second = conflicts host second first := by
  rw [conflicts, conflicts, hasTypeSpecificConflict, hasTypeSpecificConflict, conditionsOverlap_comm,
    sameType, typeSpecific_comm, bne_comm]

/-! ## Conditions that are read back -/

theorem textValue_normal (value : Json) : textValue value.normal = textValue value := by
  cases value <;> rfl

/-- What is picked out of a condition does not depend on the order of its keys. -/
theorem pickFirstValue_stored (condition : Condition) (keys : List String) :
    pickFirstValue (host.stored condition) keys = pickFirstValue condition keys := by
  cases condition with
  | none => rfl
  | some fields =>
      have lookups : ∀ key, ((host.readBack fields).lookup key).bind textValue =
          (fields.lookup key).bind textValue := by
        intro key
        have same := (Json.same_obj_iff.mp (host.same fields)) key
        have text : ∀ found : Option Json, (found.map Json.normal).bind textValue =
            found.bind textValue := by
          intro found
          cases found with
          | none => rfl
          | some value => exact textValue_normal value
        rw [← text, same, text]
      simp only [pickFirstValue, Host.stored, Option.map_some, Option.bind_some, lookups]

theorem typeSpecific_stored (ruleType : RuleType) (left right : Condition) :
    typeSpecific ruleType (host.stored left) (host.stored right) =
      typeSpecific ruleType left right := by
  cases ruleType <;> simp only [typeSpecific, saysOtherwise, pickFirstValue_stored]

theorem stored_stored (condition : Condition) :
    host.stored (host.stored condition) = host.stored condition := by
  cases condition with
  | none => rfl
  | some fields => exact congrArg some (host.stable fields)

/-- The comparison of two rules sees an overlap of their stored conditions, if they say
different things. -/
def Sees (host : Host) (candidate existingRule : Rule) : Prop :=
  hasTypeSpecificConflict candidate existingRule = true →
    conditionsOverlap host (host.stored candidate.condition)
      (host.stored existingRule.condition) = true →
    conditionsOverlap host candidate.condition existingRule.condition = true

instance (host : Host) (candidate existingRule : Rule) :
    Decidable (Sees host candidate existingRule) :=
  inferInstanceAs (Decidable (_ → _ → _))

/-- Conditions that were read back overlap as they do in their columns. -/
theorem sees_of_stored (candidateStored : host.stored candidate.condition = candidate.condition)
    (otherStored : host.stored other.condition = other.condition) : Sees host candidate other := by
  intro _ overlap
  rw [candidateStored, otherStored] at overlap
  exact overlap

/-- A candidate that is found not to contradict a rule does not contradict it once both
are stored. -/
theorem Sees.apart {now later : Nat} (sees : Sees host candidate other)
    (apart : conflicts host candidate other = false) :
    conflicts host (host.row candidate now) (host.row other later) = false := by
  rw [Bool.eq_false_iff] at apart ⊢
  intro conflicting
  obtain ⟨overlap, conflict⟩ := (Bool.and_eq_true _ _).mp conflicting
  have conflict : hasTypeSpecificConflict candidate other = true := by
    rw [hasTypeSpecificConflict, Host.row, Host.row, typeSpecific_stored] at conflict
    exact conflict
  exact apart ((Bool.and_eq_true _ _).mpr ⟨sees conflict overlap, conflict⟩)

/-! ## Rules that are apart -/

theorem Rule.Beside.symm (beside : first.Beside second) : second.Beside first :=
  ⟨beside.1.symm, beside.2.1.symm, beside.2.2.1.symm, beside.2.2.2.1.symm, beside.2.2.2.2.symm⟩

/-- No two active rules of an organization beside each other contradict each other;
conditions are as their column returns them. -/
structure Apart (host : Host) (orgId : Uuid) (rules : List Rule) : Prop where
  stored : ∀ rule ∈ rules, rule.orgId = orgId → host.stored rule.condition = rule.condition
  apart : ∀ first ∈ rules, ∀ second ∈ rules, first.orgId = orgId → first.id ≠ second.id →
    first.isActive = true → second.isActive = true → first.Beside second →
    first.ruleType ∈ contradictableRuleTypes → conflicts host first second = false

/-- A row contradicts no other active row beside it. -/
def Harmless (host : Host) (rules : List Rule) (row : Rule) : Prop :=
  row.isActive = true → row.ruleType ∈ contradictableRuleTypes → ∀ other ∈ rules,
    other.id ≠ row.id → other.isActive = true → row.Beside other → conflicts host row other = false

/-- A row of another organization may be written, and a harmless one. -/
theorem Apart.save {orgId : Uuid} (apart : Apart host orgId rules)
    (stored : host.stored row.condition = row.condition)
    (harmless : row.orgId = orgId → Harmless host rules row) :
    Apart host orgId (Table.save Rule.id rules row) := by
  constructor
  · intro rule ruleMem inOrg
    rcases Table.mem_save_iff.mp ruleMem with rfl | ⟨ruleMem, _⟩
    · exact stored
    · exact apart.stored rule ruleMem inOrg
  · intro first firstMem second secondMem inOrg ne firstActive secondActive beside contradictable
    rcases Table.mem_save_iff.mp firstMem with firstRow | ⟨firstOld, firstNe⟩
    · subst firstRow
      rcases Table.mem_save_iff.mp secondMem with secondRow | ⟨secondOld, secondNe⟩
      · exact absurd (congrArg Rule.id secondRow.symm) ne
      · exact harmless inOrg firstActive contradictable second secondOld secondNe secondActive beside
    · rcases Table.mem_save_iff.mp secondMem with secondRow | ⟨secondOld, _⟩
      · subst secondRow
        rw [conflicts_comm host beside.2.1]
        rw [beside.2.1] at contradictable
        exact harmless (beside.1.symm.trans inOrg) secondActive contradictable first firstOld firstNe
          firstActive beside.symm
      · exact apart.apart first firstOld second secondOld inOrg ne firstActive secondActive beside
          contradictable

end Manbaa.Rules
