import Manbaa.Lib.Table
import Mathlib.Data.List.Perm.Basic

/-!
# Deletions under foreign keys

Rows refer to rows of other tables, and a statement that deletes rows takes the rows with it that
refer to them by a cascading key.  It is refused if a trigger protects one of them, or if a row
that is left refers to one of them by a key that does not give way.

Several statements of one transaction delete as if each of them was asked of the rows before the
transaction, apart from those that are gone already.
-/

namespace Manbaa.Lib.Relational

universe u

/-! ## Schemas and statements -/

/-- What becomes of a reference to a row that is deleted. -/
inductive OnDelete where
  | cascade
  | setNull
  | noAction
  | restrict
  deriving DecidableEq

/-- A column of one table that refers to the rows of another one. -/
structure ForeignKey (τ κ : Type u) where
  source : τ
  column : κ
  target : τ
  onDelete : OnDelete
  deriving DecidableEq

/-- A row, as far as keys go. -/
structure Row (τ κ ι : Type u) where
  table : τ
  id : ι
  value : κ → Option ι

/-- The foreign keys of a database, the tables whose rows a trigger does not let go, and the
columns that a trigger keeps as they are. -/
structure Schema (τ κ : Type u) where
  keys : List (ForeignKey τ κ)
  undeletable : τ → Bool
  frozen : τ → κ → Bool

variable {τ κ ι : Type u}

/-- The primary key. -/
def Row.key (row : Row τ κ ι) : τ × ι := (row.table, row.id)

/-- A row refers to another one by a key. -/
def Row.RefersTo (row other : Row τ κ ι) (key : ForeignKey τ κ) : Prop :=
  row.table = key.source ∧ other.table = key.target ∧ row.value key.column = some other.id

/-- A key that does not let the row go that it refers to.  The two actions that refuse differ in
whether the check can be put off, which it is not here. -/
def Schema.Refuses (schema : Schema τ κ) (key : ForeignKey τ κ) : Prop :=
  key.onDelete = .noAction ∨ key.onDelete = .restrict ∨
    key.onDelete = .setNull ∧ schema.frozen key.source key.column = true

/-- A row refers to another one by a key of some kind. -/
def Schema.Refers (schema : Schema τ κ) (kind : ForeignKey τ κ → Prop) (row other : Row τ κ ι) :
    Prop :=
  ∃ key ∈ schema.keys, kind key ∧ row.RefersTo other key

/-- A row is deleted with another one. -/
def Schema.Cascades (schema : Schema τ κ) (row other : Row τ κ ι) : Prop :=
  schema.Refers (fun key => key.onDelete = .cascade) row other

/-- A row does not let another one go. -/
def Schema.Hinders (schema : Schema τ κ) (row other : Row τ κ ι) : Prop :=
  schema.Refers schema.Refuses row other

/-- A column of a row is set to null with another row. -/
def Schema.Nulls (schema : Schema τ κ) (row other : Row τ κ ι) (column : κ) : Prop :=
  schema.Refers (fun key => key.onDelete = .setNull ∧ key.column = column) row other

section
variable [DecidableEq τ] [DecidableEq κ] [DecidableEq ι]

instance (row other : Row τ κ ι) (key : ForeignKey τ κ) : Decidable (row.RefersTo other key) :=
  inferInstanceAs (Decidable (_ ∧ _ ∧ _))

instance (schema : Schema τ κ) (key : ForeignKey τ κ) : Decidable (schema.Refuses key) :=
  inferInstanceAs (Decidable (_ ∨ _ ∨ _))

instance (schema : Schema τ κ) (kind : ForeignKey τ κ → Prop) [DecidablePred kind]
    (row other : Row τ κ ι) : Decidable (schema.Refers kind row other) :=
  inferInstanceAs (Decidable (∃ key ∈ schema.keys, _ ∧ _))

instance (schema : Schema τ κ) (row other : Row τ κ ι) : Decidable (schema.Cascades row other) :=
  inferInstanceAs (Decidable (schema.Refers _ row other))

instance (schema : Schema τ κ) (row other : Row τ κ ι) : Decidable (schema.Hinders row other) :=
  inferInstanceAs (Decidable (schema.Refers _ row other))

instance (schema : Schema τ κ) (row other : Row τ κ ι) (column : κ) :
    Decidable (schema.Nulls row other column) :=
  inferInstanceAs (Decidable (schema.Refers _ row other))

/-- The rows that go in some rounds, each of which takes the rows that refer to those before. -/
def Schema.sweep (schema : Schema τ κ) :
    Nat → List (Row τ κ ι) → List (Row τ κ ι) → List (Row τ κ ι) × List (Row τ κ ι)
  | 0, gone, left => (gone, left)
  | rounds + 1, gone, left =>
      match left.partition fun row => decide (∃ other ∈ gone, schema.Cascades row other) with
      | ([], _) => (gone, left)
      | (next, rest) => schema.sweep rounds (gone ++ next) rest

/-- The rows that a statement deletes, and those that it leaves. -/
def Schema.split (schema : Schema τ κ) (rows : List (Row τ κ ι)) (target : Row τ κ ι → Bool) :
    List (Row τ κ ι) × List (Row τ κ ι) :=
  let (gone, left) := rows.partition target
  schema.sweep left.length gone left

/-- A row that is left. -/
def Schema.clear (schema : Schema τ κ) (gone : List (Row τ κ ι)) (row : Row τ κ ι) : Row τ κ ι :=
  { row with
    value := fun column =>
      if ∃ other ∈ gone, schema.Nulls row other column then none else row.value column }

/-- Why a statement is refused. -/
inductive Obstacle where
  | undeletable
  | referenced
  deriving DecidableEq

/-- The statement that deletes the rows that meet a condition. -/
def Schema.delete (schema : Schema τ κ) (rows : List (Row τ κ ι)) (target : Row τ κ ι → Bool) :
    Except Obstacle (List (Row τ κ ι)) :=
  let (gone, left) := schema.split rows target
  if gone.any fun row => schema.undeletable row.table then .error .undeletable
  else if left.any fun row => gone.any fun other => schema.Hinders row other then
    .error .referenced
  else .ok (left.map (schema.clear gone))

end

/-! ## What hangs under the rows of a statement -/

variable {schema : Schema τ κ} {rows left gone : List (Row τ κ ι)} {row other : Row τ κ ι}

/-- A row of a table that a statement asks for, or that hangs under such a row. -/
inductive Under (schema : Schema τ κ) (rows : List (Row τ κ ι)) (target : Row τ κ ι → Bool) :
    Row τ κ ι → Prop
  | asked {row : Row τ κ ι} : row ∈ rows → target row = true → Under schema rows target row
  | cascades {row other : Row τ κ ι} : row ∈ rows → Under schema rows target other →
      schema.Cascades row other → Under schema rows target row

theorem Under.mem {target : Row τ κ ι → Bool} (under : Under schema rows target row) :
    row ∈ rows := by
  cases under with
  | asked rowMem _ => exact rowMem
  | cascades rowMem _ _ => exact rowMem

/-- A statement that asks for what hangs under another one takes no more than that one. -/
theorem Under.mono {first second : Row τ κ ι → Bool}
    (subset : ∀ row ∈ rows, first row = true → Under schema rows second row)
    (under : Under schema rows first row) : Under schema rows second row := by
  induction under with
  | asked rowMem asked => exact subset _ rowMem asked
  | cascades rowMem _ cascades ih => exact .cascades rowMem ih cascades

section
variable [DecidableEq τ] [DecidableEq κ] [DecidableEq ι] {target : Row τ κ ι → Bool}

/-- What rounds make of rows. -/
structure Swept (schema : Schema τ κ) (gone left : List (Row τ κ ι))
    (result : List (Row τ κ ι) × List (Row τ κ ι)) : Prop where
  perm : (result.1 ++ result.2).Perm (gone ++ left)
  kept : gone ⊆ result.1
  closed : ∀ row ∈ result.2, ∀ other ∈ result.1, ¬ schema.Cascades row other
  least : ∀ holds : Row τ κ ι → Prop, (∀ row ∈ gone, holds row) →
    (∀ row ∈ left, ∀ other, holds other → schema.Cascades row other → holds row) →
    ∀ row ∈ result.1, holds row

/-- As many rounds as there are rows are enough. -/
theorem sweep_swept {rounds : Nat} (enough : left.length ≤ rounds) :
    Swept schema gone left (schema.sweep rounds gone left) := by
  induction rounds generalizing gone left with
  | zero =>
      obtain rfl := List.length_eq_zero_iff.mp (Nat.le_zero.mp enough)
      exact ⟨List.Perm.refl _, List.Subset.refl _, by simp [Schema.sweep], fun _ start _ => start⟩
  | succ rounds ih =>
      rw [Schema.sweep]
      split
      · rename_i rest partitionEq
        rw [List.partition_eq_filter_filter, Prod.mk.injEq] at partitionEq
        refine ⟨List.Perm.refl _, List.Subset.refl _, ?_, fun _ start _ => start⟩
        intro row rowMem other otherMem cascades
        have taken : row ∈ left.filter fun row =>
            decide (∃ other ∈ gone, schema.Cascades row other) := by
          simp only [List.mem_filter, decide_eq_true_eq]
          exact ⟨rowMem, other, otherMem, cascades⟩
        rw [partitionEq.1] at taken
        exact absurd taken List.not_mem_nil
      · rename_i next rest nonempty partitionEq
        rw [List.partition_eq_filter_filter, Prod.mk.injEq] at partitionEq
        obtain ⟨nextEq, restEq⟩ := partitionEq
        have split : (next ++ rest).Perm left := by
          rw [← nextEq, ← restEq]
          exact List.filter_append_perm _ left
        have shorter : rest.length ≤ rounds := by
          have nonzero : next.length ≠ 0 := by
            intro zero
            exact nonempty (List.length_eq_zero_iff.mp zero)
          have lengths := split.length_eq
          rw [List.length_append] at lengths
          omega
        have swept : Swept schema (gone ++ next) rest (schema.sweep rounds (gone ++ next) rest) :=
          ih shorter
        refine ⟨?_, ?_, swept.closed, ?_⟩
        · apply swept.perm.trans
          rw [List.append_assoc]
          exact split.append_left gone
        · intro row rowMem
          exact swept.kept (List.mem_append_left next rowMem)
        · intro holds start cascades
          apply swept.least holds
          · intro row rowMem
            rcases List.mem_append.mp rowMem with old | new
            · exact start row old
            · rw [← nextEq, List.mem_filter, decide_eq_true_eq] at new
              obtain ⟨rowMem, other, otherMem, cascade⟩ := new
              exact cascades row rowMem other (start other otherMem) cascade
          · intro row rowMem
            exact cascades row (split.subset (List.mem_append_right next rowMem))

theorem split_swept :
    Swept schema (rows.filter target) (rows.filter fun row => !target row)
      (schema.split rows target) := by
  rw [Schema.split, List.partition_eq_filter_filter]
  exact sweep_swept (Nat.le_refl _)

theorem split_perm : ((schema.split rows target).1 ++ (schema.split rows target).2).Perm rows :=
  (split_swept.perm).trans (List.filter_append_perm target rows)

/-- A statement deletes the rows that it asks for, and what hangs under them. -/
theorem mem_split_fst_iff : row ∈ (schema.split rows target).1 ↔ Under schema rows target row := by
  have swept : Swept schema (rows.filter target) (rows.filter fun row => !target row)
      (schema.split rows target) := split_swept
  constructor
  · apply swept.least
    · intro row rowMem
      obtain ⟨rowMem, asked⟩ := List.mem_filter.mp rowMem
      exact .asked rowMem asked
    · intro row rowMem other under cascades
      exact .cascades (List.mem_filter.mp rowMem).1 under cascades
  · intro under
    induction under with
    | asked rowMem asked => exact swept.kept (List.mem_filter.mpr ⟨rowMem, asked⟩)
    | @cascades row other rowMem _ cascades ih =>
        by_contra notGone
        have isLeft : row ∈ (schema.split rows target).2 := by
          rcases List.mem_append.mp (split_perm.symm.subset rowMem) with isGone | isLeft
          · exact absurd isGone notGone
          · exact isLeft
        exact swept.closed row isLeft other ih cascades

/-- A statement leaves the other rows. -/
theorem mem_split_snd_iff (nodup : rows.Nodup) :
    row ∈ (schema.split rows target).2 ↔ row ∈ rows ∧ ¬ Under schema rows target row := by
  have perm : ((schema.split rows target).1 ++ (schema.split rows target).2).Perm rows :=
    split_perm
  have apart := List.nodup_append'.mp (perm.symm.nodup nodup)
  rw [← mem_split_fst_iff]
  constructor
  · intro isLeft
    refine ⟨perm.subset (List.mem_append_right _ isLeft), ?_⟩
    intro isGone
    exact apart.2.2 isGone isLeft
  · rintro ⟨rowMem, notGone⟩
    rcases List.mem_append.mp (perm.symm.subset rowMem) with isGone | isLeft
    · exact absurd isGone notGone
    · exact isLeft

/-- Nothing stands in the way of a statement, apart from rows that are gone already. -/
structure Removable (schema : Schema τ κ) (rows : List (Row τ κ ι)) (removed : Row τ κ ι → Prop)
    (target : Row τ κ ι → Bool) : Prop where
  deletable : ∀ row, Under schema rows target row → ¬ removed row →
    schema.undeletable row.table = false
  unhindered : ∀ row ∈ rows, ∀ other, ¬ removed row → ¬ removed other →
    Under schema rows target other → schema.Hinders row other → Under schema rows target row

/-- When a statement goes through, and what it leaves. -/
theorem delete_eq_ok_iff (nodup : rows.Nodup) {next : List (Row τ κ ι)} :
    schema.delete rows target = .ok next ↔
      Removable schema rows (fun _ => False) target ∧
        (schema.split rows target).2.map (schema.clear (schema.split rows target).1) = next := by
  have undeletable : ((schema.split rows target).1.any fun row => schema.undeletable row.table) =
      true ↔ ∃ row, Under schema rows target row ∧ schema.undeletable row.table = true := by
    simp [List.any_eq_true, mem_split_fst_iff]
  have hindered : ((schema.split rows target).2.any fun row => (schema.split rows target).1.any
      fun other => schema.Hinders row other) = true ↔
      ∃ row ∈ rows, ¬ Under schema rows target row ∧ ∃ other, Under schema rows target other ∧
        schema.Hinders row other := by
    simp [List.any_eq_true, mem_split_fst_iff, mem_split_snd_iff nodup, and_assoc]
  rcases splitEq : schema.split rows target with ⟨gone, left⟩
  rw [splitEq] at undeletable hindered
  simp only [Schema.delete, splitEq]
  split
  · rename_i isProtected
    obtain ⟨row, under, isUndeletable⟩ := undeletable.mp isProtected
    apply iff_of_false (fun isOk => by cases isOk)
    rintro ⟨removable, _⟩
    cases (removable.deletable row under (fun isFalse => isFalse)).symm.trans isUndeletable
  · rename_i unprotected
    split
    · rename_i blocked
      obtain ⟨row, rowMem, stays, other, under, hinders⟩ := hindered.mp blocked
      apply iff_of_false (fun isOk => by cases isOk)
      rintro ⟨removable, _⟩
      exact stays (removable.unhindered row rowMem other (fun isFalse => isFalse)
        (fun isFalse => isFalse) under hinders)
    · rename_i unblocked
      rw [Except.ok.injEq]
      apply (and_iff_right _).symm
      constructor
      · intro row under _
        apply Bool.eq_false_of_not_eq_true
        intro isUndeletable
        exact unprotected (undeletable.mpr ⟨row, under, isUndeletable⟩)
      · intro row rowMem other _ _ under hinders
        by_contra stays
        exact unblocked (hindered.mpr ⟨row, rowMem, stays, other, under, hinders⟩)

theorem sweep_nil {rounds : Nat} : schema.sweep rounds [] left = ([], left) := by
  cases rounds with
  | zero => rfl
  | succ rounds => simp [Schema.sweep, List.partition_eq_filter_filter]

theorem clear_nil : schema.clear [] row = row := by
  simp [Schema.clear]

/-- A statement that asks for no row leaves the rows as they are. -/
theorem delete_of_none (none : ∀ row ∈ rows, target row = false) :
    schema.delete rows target = .ok rows := by
  have splitEq : schema.split rows target = ([], rows) := by
    have doomed : rows.filter target = [] :=
      List.filter_eq_nil_iff.mpr fun row rowMem => by simp [none row rowMem]
    have kept : rows.filter (fun row => !target row) = rows :=
      List.filter_eq_self.mpr fun row rowMem => by simp [none row rowMem]
    rw [Schema.split, List.partition_eq_filter_filter, doomed]
    exact sweep_nil.trans (congrArg _ kept)
  have clearEq : rows.map (schema.clear []) = rows := by
    rw [List.map_congr_left fun row _ => clear_nil, List.map_id']
  simp [Schema.delete, splitEq, clearEq]

end

/-! ## Statements after each other -/

/-- What is left of a row once other rows are gone. -/
structure Image (schema : Schema τ κ) (removed : Row τ κ ι → Prop) (origin row : Row τ κ ι) :
    Prop where
  table : row.table = origin.table
  id : row.id = origin.id
  value : ∀ column, row.value column = origin.value column ∨
    row.value column = none ∧ ∃ other, removed other ∧ schema.Nulls origin other column

/-- The rows of a column refer to one table. -/
def Schema.Functional (schema : Schema τ κ) : Prop :=
  ∀ key ∈ schema.keys, ∀ other ∈ schema.keys, key.source = other.source →
    key.column = other.column → key.target = other.target

instance [DecidableEq τ] [DecidableEq κ] (schema : Schema τ κ) : Decidable schema.Functional :=
  inferInstanceAs (Decidable (∀ key ∈ schema.keys, ∀ other ∈ schema.keys, _ → _ → _))

/-- What is left of a table once some rows are gone. -/
structure Remains (schema : Schema τ κ) (rows : List (Row τ κ ι)) (removed : Row τ κ ι → Prop)
    (left : List (Row τ κ ι)) : Prop where
  keyed : Table.Keyed Row.key rows
  leftKeyed : Table.Keyed Row.key left
  origin : ∀ row ∈ left, ∃ origin ∈ rows, ¬ removed origin ∧ Image schema removed origin row
  image : ∀ origin ∈ rows, ¬ removed origin → ∃ row ∈ left, Image schema removed origin row
  within : ∀ row, removed row → row ∈ rows
  closed : ∀ row ∈ rows, ∀ other, removed other → schema.Cascades row other → removed row

variable {target : Row τ κ ι → Bool} {removed : Row τ κ ι → Prop}
  {origin otherOrigin : Row τ κ ι} {next : List (Row τ κ ι)}

theorem remains_refl (keyed : Table.Keyed Row.key rows) :
    Remains schema rows (fun _ => False) rows where
  keyed := keyed
  leftKeyed := keyed
  origin := fun row rowMem => ⟨row, rowMem, fun isFalse => isFalse, rfl, rfl, fun _ => Or.inl rfl⟩
  image := fun row rowMem _ => ⟨row, rowMem, rfl, rfl, fun _ => Or.inl rfl⟩
  within := fun _ isFalse => isFalse.elim
  closed := fun _ _ _ isFalse _ => isFalse

/-- What is left of a row refers to what is left of another one as they did before. -/
theorem Remains.refersTo_iff (remains : Remains schema rows removed left)
    (functional : schema.Functional) {key : ForeignKey τ κ} (keyMem : key ∈ schema.keys)
    (rowOf : Image schema removed origin row) (otherOf : Image schema removed otherOrigin other)
    (otherMem : otherOrigin ∈ rows) (stays : ¬ removed otherOrigin) :
    row.RefersTo other key ↔ origin.RefersTo otherOrigin key := by
  rw [Row.RefersTo, Row.RefersTo, rowOf.table, otherOf.table, otherOf.id]
  rcases rowOf.value key.column with same | ⟨null, gone, isRemoved, nulling, nullingMem, ⟨_, column⟩,
    refers⟩
  · rw [same]
  · rw [null]
    apply iff_of_false (fun refers => by cases refers.2.2)
    rintro ⟨table, otherTable, valueEq⟩
    obtain ⟨nullingTable, goneTable, goneValue⟩ := refers
    have sameTarget := functional nulling nullingMem key keyMem
      (nullingTable.symm.trans table) column
    rw [column] at goneValue
    have sameId : gone.id = otherOrigin.id := Option.some.inj (goneValue.symm.trans valueEq)
    have sameTable : gone.table = otherOrigin.table :=
      goneTable.trans (sameTarget.trans otherTable.symm)
    obtain rfl := remains.keyed.eq (remains.within gone isRemoved) otherMem
      (Prod.ext sameTable sameId)
    exact stays isRemoved

theorem Remains.refers_iff (remains : Remains schema rows removed left)
    (functional : schema.Functional) {kind : ForeignKey τ κ → Prop}
    (rowOf : Image schema removed origin row) (otherOf : Image schema removed otherOrigin other)
    (otherMem : otherOrigin ∈ rows) (stays : ¬ removed otherOrigin) :
    schema.Refers kind row other ↔ schema.Refers kind origin otherOrigin := by
  apply exists_congr
  intro key
  apply and_congr_right
  intro keyMem
  rw [remains.refersTo_iff functional keyMem rowOf otherOf otherMem stays]

/-- What hangs under the rows that a statement asks for hung under them before. -/
theorem Remains.under_iff (remains : Remains schema rows removed left)
    (functional : schema.Functional)
    (stable : ∀ origin row, Image schema removed origin row → target row = target origin)
    (rowMem : row ∈ left) (originMem : origin ∈ rows) (stays : ¬ removed origin)
    (rowOf : Image schema removed origin row) :
    Under schema left target row ↔ Under schema rows target origin := by
  constructor
  · intro under
    induction under generalizing origin with
    | asked _ asked => exact .asked originMem ((stable _ _ rowOf).symm.trans asked)
    | cascades _ under cascades ih =>
        obtain ⟨otherOrigin, otherMem, otherStays, otherOf⟩ := remains.origin _ under.mem
        apply Under.cascades originMem (ih under.mem otherMem otherStays otherOf)
        exact (remains.refers_iff functional rowOf otherOf otherMem otherStays).mp cascades
  · intro under
    induction under generalizing row with
    | asked _ asked => exact .asked rowMem ((stable _ _ rowOf).trans asked)
    | @cascades origin otherOrigin _ under cascades ih =>
        have otherStays : ¬ removed otherOrigin := by
          intro isRemoved
          exact stays (remains.closed origin originMem otherOrigin isRemoved cascades)
        obtain ⟨other, otherMem, otherOf⟩ := remains.image otherOrigin under.mem otherStays
        apply Under.cascades rowMem (ih otherMem under.mem otherStays otherOf)
        exact (remains.refers_iff functional rowOf otherOf under.mem otherStays).mpr cascades

section
variable [DecidableEq τ] [DecidableEq κ] [DecidableEq ι]

/-- A statement on what is left goes through exactly if nothing of the rows that are not gone
stood in its way. -/
theorem Remains.delete_isOk_iff (remains : Remains schema rows removed left)
    (functional : schema.Functional)
    (stable : ∀ origin row, Image schema removed origin row → target row = target origin) :
    (∃ next, schema.delete left target = .ok next) ↔ Removable schema rows removed target := by
  have nodup : left.Nodup := Table.Keyed.nodup remains.leftKeyed
  simp only [delete_eq_ok_iff nodup, exists_and_left, exists_eq', and_true]
  constructor
  · intro removable
    constructor
    · intro origin under stays
      obtain ⟨row, rowMem, rowOf⟩ := remains.image origin under.mem stays
      rw [← rowOf.table]
      apply removable.deletable row ?_ (fun isFalse => isFalse)
      exact (remains.under_iff functional stable rowMem under.mem stays rowOf).mpr under
    · intro origin originMem otherOrigin stays otherStays under hinders
      obtain ⟨row, rowMem, rowOf⟩ := remains.image origin originMem stays
      obtain ⟨other, otherMem, otherOf⟩ := remains.image otherOrigin under.mem otherStays
      apply (remains.under_iff functional stable rowMem originMem stays rowOf).mp
      apply removable.unhindered row rowMem other (fun isFalse => isFalse) (fun isFalse => isFalse)
      · exact (remains.under_iff functional stable otherMem under.mem otherStays otherOf).mpr under
      · exact (remains.refers_iff functional rowOf otherOf under.mem otherStays).mpr hinders
  · intro removable
    constructor
    · intro row under _
      obtain ⟨origin, originMem, stays, rowOf⟩ := remains.origin row under.mem
      rw [rowOf.table]
      apply removable.deletable origin ?_ stays
      exact (remains.under_iff functional stable under.mem originMem stays rowOf).mp under
    · intro row rowMem other _ _ under hinders
      obtain ⟨origin, originMem, stays, rowOf⟩ := remains.origin row rowMem
      obtain ⟨otherOrigin, otherMem, otherStays, otherOf⟩ := remains.origin other under.mem
      apply (remains.under_iff functional stable rowMem originMem stays rowOf).mpr
      apply removable.unhindered origin originMem otherOrigin stays otherStays
      · exact (remains.under_iff functional stable under.mem otherMem otherStays otherOf).mp under
      · exact (remains.refers_iff functional rowOf otherOf otherMem otherStays).mp hinders

/-- What is left of a row by one more statement. -/
theorem Remains.image_clear (remains : Remains schema rows removed left)
    (functional : schema.Functional)
    (stable : ∀ origin row, Image schema removed origin row → target row = target origin)
    (rowOf : Image schema removed origin row) :
    Image schema (fun other => removed other ∨ Under schema rows target other) origin
      (schema.clear (schema.split left target).1 row) where
  table := rowOf.table
  id := rowOf.id
  value := by
    intro column
    by_cases nulled : ∃ other ∈ (schema.split left target).1, schema.Nulls row other column
    · have null : (schema.clear (schema.split left target).1 row).value column = none :=
        if_pos nulled
      obtain ⟨other, otherGone, nulls⟩ := nulled
      have under := mem_split_fst_iff.mp otherGone
      obtain ⟨otherOrigin, otherMem, otherStays, otherOf⟩ := remains.origin other under.mem
      right
      refine ⟨null, otherOrigin, Or.inr ?_, ?_⟩
      · exact (remains.under_iff functional stable under.mem otherMem otherStays otherOf).mp under
      · exact (remains.refers_iff functional rowOf otherOf otherMem otherStays).mp nulls
    · have kept : (schema.clear (schema.split left target).1 row).value column =
          row.value column := if_neg nulled
      rw [kept]
      rcases rowOf.value column with same | ⟨null, other, isRemoved, nulls⟩
      · exact Or.inl same
      · exact Or.inr ⟨null, other, Or.inl isRemoved, nulls⟩

/-- What one more statement leaves. -/
theorem Remains.delete (remains : Remains schema rows removed left)
    (functional : schema.Functional)
    (stable : ∀ origin row, Image schema removed origin row → target row = target origin)
    (deleteEq : schema.delete left target = .ok next) :
    Remains schema rows (fun row => removed row ∨ Under schema rows target row) next := by
  have nodup : left.Nodup := Table.Keyed.nodup remains.leftKeyed
  obtain ⟨_, rfl⟩ := (delete_eq_ok_iff nodup).mp deleteEq
  refine ⟨remains.keyed, ?_, ?_, ?_, ?_, ?_⟩
  · have perm : ((schema.split left target).1 ++ (schema.split left target).2).Perm left :=
      split_perm
    have keys := (perm.map Row.key).symm.nodup remains.leftKeyed
    rw [List.map_append] at keys
    rw [Table.Keyed, List.map_map]
    exact keys.of_append_right
  · intro row rowMem
    obtain ⟨middle, middleMem, rfl⟩ := List.mem_map.mp rowMem
    obtain ⟨leftMem, notUnder⟩ := (mem_split_snd_iff nodup).mp middleMem
    obtain ⟨origin, originMem, stays, middleOf⟩ := remains.origin middle leftMem
    refine ⟨origin, originMem, ?_, remains.image_clear functional stable middleOf⟩
    rintro (isRemoved | under)
    · exact stays isRemoved
    · exact notUnder
        ((remains.under_iff functional stable leftMem originMem stays middleOf).mpr under)
  · intro origin originMem stays
    rw [not_or] at stays
    obtain ⟨middle, leftMem, middleOf⟩ := remains.image origin originMem stays.1
    refine ⟨_, List.mem_map_of_mem ?_, remains.image_clear functional stable middleOf⟩
    apply (mem_split_snd_iff nodup).mpr
    refine ⟨leftMem, ?_⟩
    intro under
    exact stays.2
      ((remains.under_iff functional stable leftMem originMem stays.1 middleOf).mp under)
  · rintro row (isRemoved | under)
    · exact remains.within row isRemoved
    · exact under.mem
  · rintro row rowMem other (isRemoved | under) cascades
    · exact Or.inl (remains.closed row rowMem other isRemoved cascades)
    · exact Or.inr (.cascades rowMem under cascades)

end

end Manbaa.Lib.Relational
