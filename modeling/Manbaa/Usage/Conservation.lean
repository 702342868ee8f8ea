import Manbaa.Usage.Service
import Mathlib.Algebra.Order.Ring.Rat

/-!
# Usage is conserved

The total of a workspace is a second account of what its committed reservations
already say.  Only a settlement that commits touches both, and it takes a
reservation that was not settled before: the total is at any time what the
committed reservations add up to, each counted once, in the order in which they
were settled.
-/

namespace Manbaa.Usage

open Manbaa.Lib Manbaa.Lib.Effect

variable {ν : Type}

/-- The actual amount of a reservation. -/
def UsageReservation.actual [Zero ν] (reservation : UsageReservation ν) : ν :=
  reservation.actualAmount.getD 0

/-- The committed reservations of a workspace and a dimension. -/
def UsageDb.committed (db : UsageDb ν) (workspaceId : Uuid) (dimension : UsageDimension) :
    List (UsageReservation ν) :=
  db.reservations.filter (UsageReservation.counts workspaceId dimension .committed)

/-- Add up the actual amounts of reservations, from the first to the last. -/
def addUp [Zero ν] [Add ν] (reservations : List (UsageReservation ν)) : ν :=
  reservations.foldl (fun total reservation => total + reservation.actual) 0

/-- A call of the usage service. -/
inductive UsageCall (ν : Type) where
  | reserveUsage (input : ReserveUsageInput ν) (id : Uuid) (now : Nat)
  | commitUsage (id : Uuid) (actualAmount : ν)
  | releaseUsage (id : Uuid)
  | cleanupExpired (now : Nat)

/-- The tables after a settlement of a reservation. -/
def UsageDb.settle [Zero ν] [Add ν] (db : UsageDb ν) (reservation : UsageReservation ν)
    (status : UsageReservationStatus) (actual : ν) : UsageDb ν where
  reservations :=
    Table.save UsageReservation.id db.reservations (reservation.settle status actual)
  usages :=
    if status = .committed then
      Table.save WorkspaceUsage.workspaceId db.usages
        (addUsage (db.usage? reservation.workspaceId) reservation actual)
    else db.usages

section
variable [Zero ν] [Add ν]

/-- `finish` settles a reservation that is reserved, and leaves any other as it
is. -/
theorem finish_apply (id : Uuid) (status : UsageReservationStatus) (actual : ν) (db : UsageDb ν) :
    finish id status actual db =
      match db.reservation? id with
      | none => (.error (.notFound "Usage reservation not found"), db)
      | some reservation =>
          if reservation.status = .reserved then
            (.ok (reservation.settle status actual), db.settle reservation status actual)
          else (.ok reservation, db) := by
  cases found : db.reservation? id with
  | none => simp [finish, bind, reading, orThrow, found]
  | some reservation =>
      by_cases reserved : reservation.status = .reserved
      · by_cases commits : status = .committed
        · simp [finish, bind, reading, orThrow, writing, pure, found, reserved, commits,
            commitTotal, UsageDb.settle, UsageDb.usage?]
        · simp [finish, bind, reading, orThrow, writing, pure, found, reserved, commits,
            UsageDb.settle]
      · simp [finish, bind, reading, orThrow, pure, found, reserved]

end

section
variable [Zero ν] [Add ν] [LT ν] [LE ν] [DecidableLT ν] [DecidableLE ν]

/-- The tables after a call, each in a transaction of its own. -/
def UsageDb.after (db : UsageDb ν) : UsageCall ν → UsageDb ν
  | .reserveUsage input id now => (transaction (reserveUsage input id now) db).2
  | .commitUsage id actualAmount => (transaction (commitUsage id actualAmount) db).2
  | .releaseUsage id => (transaction (releaseUsage id) db).2
  | .cleanupExpired now => (cleanupExpired now db).2

/-- The calls of the usage service, as a transition of its tables. -/
def usageSystem : Step (UsageDb ν) (UsageCall ν) := Step.ofTotal UsageDb.after

end

/-- What a call can do to the tables. -/
inductive UsageStep [Zero ν] [Add ν] (db : UsageDb ν) : UsageDb ν → Prop where
  | kept : UsageStep db db
  | reserved (reservation : UsageReservation ν) (status : reservation.status = .reserved)
      (freshId : db.reservation? reservation.id = none)
      (freshKey : db.byKey? reservation.idempotencyKey = none) :
      UsageStep db { db with reservations := db.reservations ++ [reservation] }
  | settled (reservation : UsageReservation ν) (status : UsageReservationStatus) (actual : ν)
      (found : db.reservation? reservation.id = some reservation)
      (reserved : reservation.status = .reserved) :
      UsageStep db (db.settle reservation status actual)
  | expired (now : Nat) :
      UsageStep db { db with reservations := db.reservations.map (UsageReservation.expire now) }

section
variable [Zero ν] [Add ν] {db next : UsageDb ν}

/-- A transaction of its own changes no more than the call. -/
theorem UsageStep.transaction {α : Type} {body : UsageService ν α}
    (step : UsageStep db (body db).2) : UsageStep db (Effect.transaction body db).2 := by
  rcases transaction_state body db with same | undone
  · rw [same]
    exact step
  · rw [undone]
    exact UsageStep.kept

theorem usageStep_finish (id : Uuid) (status : UsageReservationStatus) (actual : ν) :
    UsageStep db (finish id status actual db).2 := by
  rw [finish_apply]
  cases found : db.reservation? id with
  | none => exact UsageStep.kept
  | some reservation =>
      by_cases reserved : reservation.status = .reserved
      · simp only [reserved, if_true]
        apply UsageStep.settled reservation status actual _ reserved
        rw [Table.key_of_get? found]
        exact found
      · simp only [reserved, if_false]
        exact UsageStep.kept

variable [LT ν] [LE ν] [DecidableLT ν] [DecidableLE ν]

/-- `reserveUsage` returns what was reserved under the key, or reserves under a
new one. -/
theorem reserveUsage_apply (input : ReserveUsageInput ν) (id : Uuid) (now : Nat)
    (db : UsageDb ν) :
    reserveUsage input id now db =
      match db.byKey? input.idempotencyKey with
      | some existing => (.ok existing, db)
      | none =>
          if input.amount ≤ 0 then (.error (.conflict "Usage amount must be positive"), db)
          else if input.within (db.total input.workspaceId input.dimension)
              (db.reserved input.workspaceId input.dimension) then
            if (db.reservation? id).isNone then
              (.ok (input.reservation id now),
                { db with reservations := db.reservations ++ [input.reservation id now] })
            else (.error (.queryFailed (.uniqueViolation "usage_reservation_pkey")), db)
          else (.error (.conflict "Usage limit exceeded"), db) := by
  cases existing : db.byKey? input.idempotencyKey with
  | some reservation => simp [reserveUsage, bind, reading, pure, existing]
  | none =>
      by_cases positive : input.amount ≤ 0
      · simp [reserveUsage, bind, reading, require, existing, positive]
      · by_cases within : input.within (totalOf (db.usage? input.workspaceId) input.dimension)
          (db.reserved input.workspaceId input.dimension) = true
        · cases used : db.reservation? id <;>
            simp [reserveUsage, insertReservation, UsageDb.total, bind, reading, require, writing,
              pure, existing, positive, within, ReserveUsageInput.reservation, used]
        · simp [reserveUsage, UsageDb.total, bind, reading, require, existing, positive, within]

theorem usageStep_reserve (input : ReserveUsageInput ν) (id : Uuid) (now : Nat) :
    UsageStep db (reserveUsage input id now db).2 := by
  rw [reserveUsage_apply]
  cases existing : db.byKey? input.idempotencyKey with
  | some reservation => exact UsageStep.kept
  | none =>
      dsimp only
      split
      · exact UsageStep.kept
      · split
        · split
          · rename_i unused
            exact UsageStep.reserved _ rfl (Option.isNone_iff_eq_none.mp unused) existing
          · exact UsageStep.kept
        · exact UsageStep.kept

theorem usageStep_after (call : UsageCall ν) : UsageStep db (db.after call) := by
  cases call with
  | reserveUsage input id now => exact (usageStep_reserve input id now).transaction
  | commitUsage id actualAmount => exact (usageStep_finish id .committed actualAmount).transaction
  | releaseUsage id => exact (usageStep_finish id .released 0).transaction
  | cleanupExpired now => exact UsageStep.expired now

end

/-! ## The invariant -/

/-- The reservations are told apart by their identifiers and by their keys, and
every total is what the committed reservations add up to, in some order. -/
structure UsageDb.Conserved [Zero ν] [Add ν] (db : UsageDb ν) : Prop where
  keyed : Table.Keyed UsageReservation.id db.reservations
  keys : Table.Keyed UsageReservation.idempotencyKey db.reservations
  amounts : ∀ reservation ∈ db.reservations, reservation.status = .committed →
    reservation.actualAmount.isSome = true
  totals : ∀ workspaceId dimension, ∃ settled : List (UsageReservation ν),
    settled.Perm (db.committed workspaceId dimension) ∧
      db.total workspaceId dimension = addUp settled

section
variable [Zero ν] [Add ν] {db next : UsageDb ν}

theorem conserved_of_empty (db : UsageDb ν) (reservations : db.reservations = [])
    (usages : db.usages = []) : db.Conserved where
  keyed := by
    rw [reservations]
    exact Table.keyed_nil
  keys := by
    rw [reservations]
    exact Table.keyed_nil
  amounts := by simp [reservations]
  totals := by
    intro workspaceId dimension
    refine ⟨[], ?_, ?_⟩
    · simp [UsageDb.committed, reservations]
    · simp [UsageDb.total, UsageDb.usage?, totalOf, usages, Table.get?, addUp]

/-- Adding usage changes the one dimension of the row. -/
theorem totalOf_addUsage (usage : Option (WorkspaceUsage ν)) (reservation : UsageReservation ν)
    (actual : ν) (dimension : UsageDimension) :
    totalOf (some (addUsage usage reservation actual)) dimension =
      if reservation.dimension = dimension then totalOf usage dimension + actual
      else totalOf usage dimension := by
  by_cases same : reservation.dimension = dimension
  · subst same
    cases usage <;> simp [totalOf, addUsage]
  · have other : dimension ≠ reservation.dimension := Ne.symm same
    cases usage <;> simp [totalOf, addUsage, Function.update, same, other]

omit [Zero ν] [Add ν] in
theorem counts_settle (reservation : UsageReservation ν) (status : UsageReservationStatus)
    (actual : ν) (workspaceId : Uuid) (dimension : UsageDimension) :
    (reservation.settle status actual).counts workspaceId dimension .committed = true ↔
      reservation.workspaceId = workspaceId ∧ reservation.dimension = dimension ∧
        status = .committed := by
  simp [UsageReservation.counts, UsageReservation.settle, and_assoc]

/-- The row of a workspace keeps its workspace. -/
theorem workspaceId_addUsage (reservation : UsageReservation ν) (actual : ν) :
    (addUsage (db.usage? reservation.workspaceId) reservation actual).workspaceId =
      reservation.workspaceId := by
  cases usageEq : db.usage? reservation.workspaceId with
  | none => rfl
  | some usage =>
      have key : usage.workspaceId = reservation.workspaceId := Table.key_of_get? usageEq
      exact key

/-- A settlement adds to the total of its workspace and dimension, if it
commits. -/
theorem total_settle (reservation : UsageReservation ν) (status : UsageReservationStatus)
    (actual : ν) (workspaceId : Uuid) (dimension : UsageDimension) :
    (db.settle reservation status actual).total workspaceId dimension =
      if (reservation.settle status actual).counts workspaceId dimension .committed then
        db.total workspaceId dimension + actual
      else db.total workspaceId dimension := by
  simp only [counts_settle]
  by_cases commits : status = .committed
  · by_cases here : reservation.workspaceId = workspaceId
    · subst here
      have found : (db.settle reservation status actual).usage? reservation.workspaceId =
          some (addUsage (db.usage? reservation.workspaceId) reservation actual) := by
        rw [UsageDb.usage?, UsageDb.settle, if_pos commits, Table.get?_save,
          if_pos (workspaceId_addUsage reservation actual)]
      rw [UsageDb.total, found, totalOf_addUsage]
      simp [commits, UsageDb.total]
    · have found : (db.settle reservation status actual).usage? workspaceId =
          db.usage? workspaceId := by
        rw [UsageDb.usage?, UsageDb.settle, if_pos commits, Table.get?_save, if_neg]
        · rfl
        · rw [workspaceId_addUsage]
          exact here
      rw [UsageDb.total, found]
      simp [here, UsageDb.total]
  · simp [commits, UsageDb.settle, UsageDb.total, UsageDb.usage?]

/-- A settlement adds its reservation to the committed ones, if it commits. -/
theorem committed_settle (conserved : db.Conserved) {reservation : UsageReservation ν}
    (status : UsageReservationStatus) (actual : ν)
    (found : db.reservation? reservation.id = some reservation)
    (reserved : reservation.status = .reserved) (workspaceId : Uuid)
    (dimension : UsageDimension) :
    ((db.settle reservation status actual).committed workspaceId dimension).Perm
      (if (reservation.settle status actual).counts workspaceId dimension .committed then
        reservation.settle status actual :: db.committed workspaceId dimension
      else db.committed workspaceId dimension) := by
  let counts := UsageReservation.counts (ν := ν) workspaceId dimension .committed
  let rest := Table.delete UsageReservation.id db.reservations reservation.id
  have before : (db.committed workspaceId dimension).Perm (rest.filter counts) := by
    have uncounted : counts reservation = false := by
      simp [counts, UsageReservation.counts, reserved]
    have split := (conserved.keyed.perm_cons_delete found).filter counts
    rwa [List.filter_cons, uncounted] at split
  have after : ((db.settle reservation status actual).committed workspaceId dimension).Perm
      ((reservation.settle status actual :: rest).filter counts) := by
    have saved : (db.settle reservation status actual).reservations.Perm
        (reservation.settle status actual :: rest) := conserved.keyed.save_perm
    exact saved.filter counts
  rw [List.filter_cons] at after
  apply after.trans
  split
  · exact before.symm.cons _
  · exact before.symm

theorem addUp_append (settled : List (UsageReservation ν)) (last : UsageReservation ν) :
    addUp (settled ++ [last]) = addUp settled + last.actual := by
  simp [addUp]

/-- A settlement keeps the invariant. -/
theorem conserved_settle (conserved : db.Conserved) {reservation : UsageReservation ν}
    (status : UsageReservationStatus) (actual : ν)
    (found : db.reservation? reservation.id = some reservation)
    (reserved : reservation.status = .reserved) :
    (db.settle reservation status actual).Conserved where
  keyed := Table.keyed_save conserved.keyed
  keys := by
    have mem := Table.mem_of_get? found
    have same : ∀ old ∈ db.reservations, old.id = (reservation.settle status actual).id →
        (reservation.settle status actual).idempotencyKey = old.idempotencyKey := by
      intro old oldMem sameId
      rw [conserved.keyed.eq oldMem mem sameId]
      rfl
    have saved : Table.save UsageReservation.id db.reservations (reservation.settle status actual) =
        Table.put UsageReservation.id db.reservations (reservation.settle status actual) :=
      Table.save_of_get?_eq_some found
    rw [Table.Keyed, UsageDb.settle, saved, Table.map_put_of_eq same]
    exact conserved.keys
  amounts := by
    intro other otherMem committed
    rcases Table.mem_save_iff.mp otherMem with rfl | ⟨otherMem, _⟩
    · rfl
    · exact conserved.amounts other otherMem committed
  totals := by
    intro workspaceId dimension
    obtain ⟨settled, perm, total⟩ := conserved.totals workspaceId dimension
    have after := committed_settle conserved status actual found reserved workspaceId dimension
    rw [total_settle]
    by_cases counts : (reservation.settle status actual).counts workspaceId dimension .committed
    · rw [if_pos counts] at after ⊢
      refine ⟨settled ++ [reservation.settle status actual], ?_, ?_⟩
      · apply List.Perm.trans _ after.symm
        exact List.perm_append_singleton _ _ |>.trans (perm.cons _)
      · rw [addUp_append, total]
        rfl
    · rw [if_neg counts] at after ⊢
      exact ⟨settled, perm.trans after.symm, total⟩

omit [Zero ν] [Add ν] in
@[simp]
theorem expire_id (now : Nat) (reservation : UsageReservation ν) :
    (reservation.expire now).id = reservation.id := by
  rw [UsageReservation.expire]
  split <;> rfl

omit [Zero ν] [Add ν] in
@[simp]
theorem expire_idempotencyKey (now : Nat) (reservation : UsageReservation ν) :
    (reservation.expire now).idempotencyKey = reservation.idempotencyKey := by
  rw [UsageReservation.expire]
  split <;> rfl

omit [Zero ν] [Add ν] in
theorem expire_committed_iff (now : Nat) (reservation : UsageReservation ν) :
    (reservation.expire now).status = .committed ↔ reservation.status = .committed := by
  rw [UsageReservation.expire]
  split
  · rename_i expired
    exact iff_of_false nofun (by simp [expired.1])
  · exact Iff.rfl

omit [Zero ν] [Add ν] in
/-- An expiry touches no committed reservation. -/
theorem committed_expire (now : Nat) (workspaceId : Uuid) (dimension : UsageDimension) :
    UsageDb.committed { db with reservations := db.reservations.map (UsageReservation.expire now) }
      workspaceId dimension = db.committed workspaceId dimension := by
  have same : ∀ reservation : UsageReservation ν,
      (reservation.expire now).counts workspaceId dimension .committed =
        reservation.counts workspaceId dimension .committed := by
    intro reservation
    rw [UsageReservation.expire]
    split
    · rename_i expired
      rw [UsageReservation.counts, UsageReservation.counts, expired.1]
      rfl
    · rfl
  have untouched : ∀ reservation : UsageReservation ν,
      reservation.counts workspaceId dimension .committed = true →
        reservation.expire now = reservation := by
    intro reservation counts
    rw [UsageReservation.expire, if_neg]
    rintro ⟨reserved, _⟩
    simp [UsageReservation.counts, reserved] at counts
  have kept : ∀ reservation ∈ db.reservations.filter
      (UsageReservation.counts workspaceId dimension .committed),
      reservation.expire now = reservation := by
    intro reservation mem
    exact untouched reservation (List.mem_filter.mp mem).2
  rw [UsageDb.committed, UsageDb.committed, List.filter_map, Function.comp_def, funext same]
  exact (List.map_congr_left kept).trans (List.map_id' _)

/-- Every call keeps the invariant. -/
theorem UsageStep.conserved (step : UsageStep db next) (conserved : db.Conserved) :
    next.Conserved := by
  cases step with
  | kept => exact conserved
  | reserved reservation status freshId freshKey =>
      refine ⟨Table.keyed_append conserved.keyed freshId,
        Table.keyed_append conserved.keys freshKey, ?_, ?_⟩
      · intro other otherMem committed
        rcases List.mem_append.mp otherMem with otherMem | new
        · exact conserved.amounts other otherMem committed
        · rw [List.mem_singleton.mp new, status] at committed
          cases committed
      · intro workspaceId dimension
        have uncounted : reservation.counts workspaceId dimension .committed = false := by
          simp [UsageReservation.counts, status]
        obtain ⟨settled, perm, total⟩ := conserved.totals workspaceId dimension
        refine ⟨settled, ?_, total⟩
        simpa [UsageDb.committed, uncounted] using perm
  | settled reservation status actual found reserved =>
      exact conserved_settle conserved status actual found reserved
  | expired now =>
      refine ⟨?_, ?_, ?_, ?_⟩
      · exact Table.keyed_map (expire_id now) conserved.keyed
      · exact Table.keyed_map (expire_idempotencyKey now) conserved.keys
      · intro other otherMem committed
        obtain ⟨reservation, mem, rfl⟩ := List.mem_map.mp otherMem
        rw [UsageReservation.expire] at committed ⊢
        split
        · rename_i expired
          rw [if_pos expired] at committed
          cases committed
        · rename_i lasting
          rw [if_neg lasting] at committed
          exact conserved.amounts reservation mem committed
      · intro workspaceId dimension
        rw [committed_expire]
        exact conserved.totals workspaceId dimension

end

/-- A request for two units in a workspace. -/
def exampleInput : ReserveUsageInput ℚ where
  organizationId := uuid "org"
  workspaceId := uuid "workspace"
  dimension := .aiInputTokens
  amount := 2
  idempotencyKey := "key"
  limit := some 5

/-- A reservation that is committed twice, with different amounts. -/
def exampleCalls : List (UsageCall ℚ) :=
  [.reserveUsage exampleInput (uuid "reservation") 0, .commitUsage (uuid "reservation") 1,
    .commitUsage (uuid "reservation") 3, .cleanupExpired 9000000]

end Manbaa.Usage
