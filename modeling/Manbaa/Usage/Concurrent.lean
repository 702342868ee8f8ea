import Manbaa.Lib.Sessions
import Manbaa.Usage.Conservation
import Mathlib.Tactic.Linarith

/-!
# Usage beside each other

The transactions of `reserveUsage` and of the settlements, one statement at a
time.  A reservation reads the total of its workspace, from a row that it locks,
and then the sum of what is reserved; a settlement locks its reservation and, if
it commits, the row of the total.

A workspace gets its row with its first committed settlement.  Until then a
reservation finds nothing to lock, and two of them may read the same sums before
either commits.
-/

namespace Manbaa.Usage

open Manbaa.Lib

/-- A call of `reserveUsage`, with what its row will get. -/
structure Reserving where
  input : ReserveUsageInput ℚ
  id : Uuid
  now : Nat

/-- The row that the call inserts. -/
def Reserving.row (call : Reserving) : UsageReservation ℚ :=
  call.input.reservation call.id call.now

/-- A call of `finish`: of `commitUsage` or `releaseUsage`. -/
structure Settling where
  id : Uuid
  status : UsageReservationStatus
  actual : ℚ

/-- The next statement of a transaction, with what the transaction has read by
then. -/
inductive UsageStage where
  | findExisting (call : Reserving)
  | lockUsage (call : Reserving)
  | sumReserved (call : Reserving) (usage : Option (WorkspaceUsage ℚ))
  | insertReservation (call : Reserving) (usage : Option (WorkspaceUsage ℚ)) (reserved : ℚ)
  | commitReservation (call : Reserving) (usage : Option (WorkspaceUsage ℚ)) (reserved : ℚ)
  | lockReservation (call : Settling)
  | saveReservation (call : Settling) (reservation : UsageReservation ℚ)
  | lockTotal (call : Settling) (reservation : UsageReservation ℚ)
  | saveTotal (call : Settling) (reservation : UsageReservation ℚ)
      (usage : Option (WorkspaceUsage ℚ))
  | commitSettlement (call : Settling) (reservation : UsageReservation ℚ)
      (usage : Option (WorkspaceUsage ℚ))
  | done (result : Except Exception (UsageReservation ℚ))

/-- What a transaction locks: rows, and the unique values of rows that it has
inserted. -/
inductive UsageLock where
  | usage (workspaceId : Uuid)
  | newUsage (workspaceId : Uuid)
  | reservation (id : Uuid)
  | newReservation (id : Uuid)
  | newKey (key : String)
  deriving DecidableEq

/-- The lock of the row of a workspace, if there was a row to lock. -/
def usageLock (usage : Option (WorkspaceUsage ℚ)) (workspaceId : Uuid) : List UsageLock :=
  if usage.isSome then [.usage workspaceId] else []

/-- The locks that a transaction holds. -/
def UsageStage.locks : UsageStage → List UsageLock
  | .sumReserved call usage | .insertReservation call usage _ =>
      usageLock usage call.input.workspaceId
  | .commitReservation call usage _ =>
      .newReservation call.id :: .newKey call.input.idempotencyKey ::
        usageLock usage call.input.workspaceId
  | .saveReservation _ reservation | .lockTotal _ reservation => [.reservation reservation.id]
  | .saveTotal _ reservation usage =>
      .reservation reservation.id :: usageLock usage reservation.workspaceId
  | .commitSettlement call reservation usage =>
      .reservation reservation.id ::
        if call.status = .committed then
          if usage.isSome then [.usage reservation.workspaceId]
          else [.newUsage reservation.workspaceId]
        else []
  | _ => []

/-- No other transaction holds the lock. -/
def free (others : List UsageStage) (lock : UsageLock) : Bool :=
  others.all fun other => !other.locks.contains lock

/-- The tables once a settlement commits, with the total that it read. -/
def UsageDb.settleFrom (db : UsageDb ℚ) (call : Settling) (reservation : UsageReservation ℚ)
    (usage : Option (WorkspaceUsage ℚ)) : UsageDb ℚ where
  reservations :=
    Table.save UsageReservation.id db.reservations (reservation.settle call.status call.actual)
  usages :=
    if call.status = .committed then
      Table.save WorkspaceUsage.workspaceId db.usages (addUsage usage reservation call.actual)
    else db.usages

/-- The next statement of a transaction, unless a lock blocks it. -/
def UsageStage.next (db : UsageDb ℚ) (others : List UsageStage) :
    UsageStage → Option (UsageDb ℚ × UsageStage)
  | .findExisting call =>
      match db.byKey? call.input.idempotencyKey with
      | some existing => some (db, .done (.ok existing))
      | none =>
          if call.input.amount ≤ 0 then
            some (db, .done (.error (.conflict "Usage amount must be positive")))
          else some (db, .lockUsage call)
  | .lockUsage call =>
      match db.usage? call.input.workspaceId with
      | none => some (db, .sumReserved call none)
      | some usage =>
          if free others (.usage call.input.workspaceId) then
            some (db, .sumReserved call (some usage))
          else none
  | .sumReserved call usage =>
      let reserved := db.reserved call.input.workspaceId call.input.dimension
      if call.input.within (totalOf usage call.input.dimension) reserved then
        some (db, .insertReservation call usage reserved)
      else some (db, .done (.error (.conflict "Usage limit exceeded")))
  | .insertReservation call usage reserved =>
      if free others (.newReservation call.id) && free others (.newKey call.input.idempotencyKey)
      then
        if (db.reservation? call.id).isSome then
          some (db, .done (.error (.queryFailed (.uniqueViolation "usage_reservation_pkey"))))
        else if (db.byKey? call.input.idempotencyKey).isSome then
          some (db, .done (.error (.queryFailed
            (.uniqueViolation "usage_reservation_idempotency_key_key"))))
        else some (db, .commitReservation call usage reserved)
      else none
  | .commitReservation call _ _ =>
      some ({ db with reservations := db.reservations ++ [call.row] }, .done (.ok call.row))
  | .lockReservation call =>
      match db.reservation? call.id with
      | none => some (db, .done (.error (.notFound "Usage reservation not found")))
      | some reservation =>
          if free others (.reservation call.id) then
            if reservation.status = .reserved then some (db, .saveReservation call reservation)
            else some (db, .done (.ok reservation))
          else none
  | .saveReservation call reservation =>
      if call.status = .committed then some (db, .lockTotal call reservation)
      else some (db, .commitSettlement call reservation none)
  | .lockTotal call reservation =>
      match db.usage? reservation.workspaceId with
      | none => some (db, .saveTotal call reservation none)
      | some usage =>
          if free others (.usage reservation.workspaceId) then
            some (db, .saveTotal call reservation (some usage))
          else none
  | .saveTotal call reservation usage =>
      if usage.isSome then some (db, .commitSettlement call reservation usage)
      else if free others (.newUsage reservation.workspaceId) then
        if (db.usage? reservation.workspaceId).isSome then
          some (db, .done (.error (.queryFailed
            (.uniqueViolation "workspace_usage_workspace_id_key"))))
        else some (db, .commitSettlement call reservation none)
      else none
  | .commitSettlement call reservation usage =>
      some (db.settleFrom call reservation usage,
        .done (.ok (reservation.settle call.status call.actual)))
  | .done _ => none

/-- A call that opens a transaction of its own. -/
inductive UsageRequest where
  | reserveUsage (call : Reserving)
  | commitUsage (id : Uuid) (actualAmount : ℚ)
  | releaseUsage (id : Uuid)

/-- The first statement of a transaction. -/
def UsageRequest.stage : UsageRequest → UsageStage
  | .reserveUsage call => .findExisting call
  | .commitUsage id actualAmount => .lockReservation ⟨id, .committed, actualAmount⟩
  | .releaseUsage id => .lockReservation ⟨id, .released, 0⟩

/-- How a transaction goes on: with its next statement, or with a failure that
rolls it back. -/
inductive UsageChoice where
  | next
  | fail (exception : Exception)

/-- The transactions of the usage service beside each other. -/
def usageSessions : Sessions (UsageDb ℚ) UsageStage UsageRequest UsageChoice where
  start := fun db request => (db, some request.stage)
  advance := fun db others stage choice =>
    match choice, stage with
    | .next, _ => stage.next db others
    | .fail _, .done _ => none
    | .fail exception, _ => some (db, .done (.error exception))

/-! ## One transaction -/

theorem alone_next {db : UsageDb ℚ} {stage : UsageStage} {next : UsageDb ℚ × UsageStage}
    {steps : Nat} (nextEq : stage.next db [] = some next) :
    usageSessions.alone .next (steps + 1) (db, stage) = usageSessions.alone .next steps next :=
  usageSessions.alone_succ .next (by simp [usageSessions, nextEq])

/-- The statements of a reservation that runs by itself are the transaction of
`reserveUsage`. -/
theorem alone_reserve (db : UsageDb ℚ) (call : Reserving) :
    usageSessions.alone .next 5 (db, .findExisting call) =
      ((reserveUsage call.input call.id call.now db).2,
        .done (reserveUsage call.input call.id call.now db).1) := by
  rw [reserveUsage_apply]
  cases existing : db.byKey? call.input.idempotencyKey with
  | some reservation =>
      simp [Sessions.alone, usageSessions, UsageStage.next, existing]
  | none =>
      by_cases positive : call.input.amount ≤ 0
      · simp [Sessions.alone, usageSessions, UsageStage.next, existing, positive]
      · have locks : UsageStage.next db [] (.lockUsage call) =
            some (db, .sumReserved call (db.usage? call.input.workspaceId)) := by
          cases usage : db.usage? call.input.workspaceId <;> simp [UsageStage.next, free, usage]
        have begins : UsageStage.next db [] (.findExisting call) = some (db, .lockUsage call) := by
          simp [UsageStage.next, existing, positive]
        rw [alone_next begins, alone_next locks]
        by_cases within : call.input.within
            (db.total call.input.workspaceId call.input.dimension)
            (db.reserved call.input.workspaceId call.input.dimension) = true
        · have sums : UsageStage.next db []
              (.sumReserved call (db.usage? call.input.workspaceId)) =
              some (db, .insertReservation call (db.usage? call.input.workspaceId)
                (db.reserved call.input.workspaceId call.input.dimension)) := if_pos within
          rw [alone_next sums]
          cases used : db.reservation? call.id <;>
            simp [Sessions.alone, usageSessions, UsageStage.next, free, Reserving.row, existing,
              positive, within, used]
        · have sums : UsageStage.next db []
              (.sumReserved call (db.usage? call.input.workspaceId)) =
              some (db, .done (.error (.conflict "Usage limit exceeded"))) := if_neg within
          rw [alone_next sums]
          simp [Sessions.alone, usageSessions, UsageStage.next, positive, within]

/-- The statements of a settlement that runs by itself are the transaction of
`finish`. -/
theorem alone_settle (db : UsageDb ℚ) (call : Settling) :
    usageSessions.alone .next 5 (db, .lockReservation call) =
      ((finish call.id call.status call.actual db).2,
        .done (finish call.id call.status call.actual db).1) := by
  rw [finish_apply]
  cases found : db.reservation? call.id with
  | none => simp [Sessions.alone, usageSessions, UsageStage.next, found]
  | some reservation =>
      by_cases reserved : reservation.status = .reserved
      · by_cases commits : call.status = .committed
        · cases usage : db.usage? reservation.workspaceId with
          | none =>
              simp [Sessions.alone, usageSessions, UsageStage.next, free, found, reserved,
                commits, usage, UsageDb.settleFrom, UsageDb.settle]
          | some row =>
              simp [Sessions.alone, usageSessions, UsageStage.next, free, found, reserved,
                commits, usage, UsageDb.settleFrom, UsageDb.settle]
        · simp [Sessions.alone, usageSessions, UsageStage.next, free, found, reserved, commits,
            UsageDb.settleFrom, UsageDb.settle]
      · simp [Sessions.alone, usageSessions, UsageStage.next, free, found, reserved]

/-! ## The race and the invariant -/

section
variable (workspaceId : Uuid) (dimension : UsageDimension)

/-- The call reserves usage of the workspace in the dimension. -/
def Reserving.isOf (call : Reserving) : Prop :=
  call.input.workspaceId = workspaceId ∧ call.input.dimension = dimension

/-- The reservation is one of the workspace in the dimension. -/
def UsageReservation.isOf (reservation : UsageReservation ℚ) : Prop :=
  reservation.workspaceId = workspaceId ∧ reservation.dimension = dimension

/-- The transaction reserves and has read the total, not yet the sum. -/
def UsageStage.hasTotal : UsageStage → Prop
  | .sumReserved call _ => call.isOf workspaceId dimension
  | _ => False

/-- The transaction reserves and has read the total and the sum. -/
def UsageStage.hasRead : UsageStage → Prop
  | .insertReservation call _ _ | .commitReservation call _ _ => call.isOf workspaceId dimension
  | _ => False

/-- The transaction reserves and found no row of totals to lock. -/
def UsageStage.unlocked : UsageStage → Bool
  | .sumReserved _ usage | .insertReservation _ usage _ | .commitReservation _ usage _ =>
      usage.isNone
  | _ => false

/-- The statement is not one of a race: a reservation does not commit while
another one has read its sums and one of the two found no row to lock, and no
settlement commits between the two reads of a reservation that found none. -/
def UsageStage.NoRace (_ : UsageDb ℚ) (others : List UsageStage) (stage : UsageStage)
    (choice : UsageChoice) : Prop :=
  match choice, stage with
  | .next, .commitReservation call usage _ =>
      call.isOf workspaceId dimension → ∀ other ∈ others, other.hasRead workspaceId dimension →
        usage.isSome = true ∧ other.unlocked = false
  | .next, .commitSettlement call reservation _ =>
      call.status = .committed → reservation.isOf workspaceId dimension →
        ∀ other ∈ others, other.hasTotal workspaceId dimension → other.unlocked = false
  | _, _ => True

/-- A settlement commits no more than was reserved. -/
def UsageStage.WithinReserved (stage : UsageStage) : Prop :=
  match stage with
  | .commitSettlement call reservation _ =>
      call.status = .committed → reservation.isOf workspaceId dimension →
        call.actual ≤ reservation.amount
  | _ => True

/-- Every reservation of the workspace in the dimension names the limit. -/
def UsageRequest.Names (limit : ℚ) : UsageRequest → Prop
  | .reserveUsage call => call.isOf workspaceId dimension → call.input.limit = some limit
  | _ => True

instance (call : Reserving) : Decidable (call.isOf workspaceId dimension) :=
  inferInstanceAs (Decidable (_ ∧ _))

instance (reservation : UsageReservation ℚ) :
    Decidable (reservation.isOf workspaceId dimension) :=
  inferInstanceAs (Decidable (_ ∧ _))

instance : (stage : UsageStage) → Decidable (stage.hasTotal workspaceId dimension)
  | .sumReserved call _ => inferInstanceAs (Decidable (call.isOf workspaceId dimension))
  | .findExisting _ | .lockUsage _ | .insertReservation _ _ _ | .commitReservation _ _ _
  | .lockReservation _ | .saveReservation _ _ | .lockTotal _ _ | .saveTotal _ _ _
  | .commitSettlement _ _ _ | .done _ => .isFalse id

instance : (stage : UsageStage) → Decidable (stage.hasRead workspaceId dimension)
  | .insertReservation call _ _ | .commitReservation call _ _ =>
      inferInstanceAs (Decidable (call.isOf workspaceId dimension))
  | .findExisting _ | .lockUsage _ | .sumReserved _ _ | .lockReservation _
  | .saveReservation _ _ | .lockTotal _ _ | .saveTotal _ _ _ | .commitSettlement _ _ _
  | .done _ => .isFalse id

instance (db : UsageDb ℚ) (others : List UsageStage) :
    (stage : UsageStage) → (choice : UsageChoice) →
      Decidable (stage.NoRace workspaceId dimension db others choice)
  | .commitReservation call usage _, .next =>
      inferInstanceAs (Decidable (call.isOf workspaceId dimension → ∀ other ∈ others,
        other.hasRead workspaceId dimension → usage.isSome = true ∧ other.unlocked = false))
  | .commitSettlement call reservation _, .next =>
      inferInstanceAs (Decidable (call.status = .committed →
        reservation.isOf workspaceId dimension → ∀ other ∈ others,
          other.hasTotal workspaceId dimension → other.unlocked = false))
  | .findExisting _, .next | .lockUsage _, .next | .sumReserved _ _, .next
  | .insertReservation _ _ _, .next | .lockReservation _, .next | .saveReservation _ _, .next
  | .lockTotal _ _, .next | .saveTotal _ _ _, .next | .done _, .next | _, .fail _ =>
      .isTrue trivial

instance : (stage : UsageStage) → Decidable (stage.WithinReserved workspaceId dimension)
  | .commitSettlement call reservation _ =>
      inferInstanceAs (Decidable (call.status = .committed →
        reservation.isOf workspaceId dimension → call.actual ≤ reservation.amount))
  | .findExisting _ | .lockUsage _ | .sumReserved _ _ | .insertReservation _ _ _
  | .commitReservation _ _ _ | .lockReservation _ | .saveReservation _ _ | .lockTotal _ _
  | .saveTotal _ _ _ | .done _ => .isTrue trivial

instance (limit : ℚ) : (request : UsageRequest) →
    Decidable (request.Names workspaceId dimension limit)
  | .reserveUsage call =>
      inferInstanceAs (Decidable (call.isOf workspaceId dimension →
        call.input.limit = some limit))
  | .commitUsage _ _ | .releaseUsage _ => .isTrue trivial

/-- What is used or held of the workspace in the dimension. -/
def UsageDb.taken (db : UsageDb ℚ) : ℚ :=
  db.total workspaceId dimension + db.reserved workspaceId dimension

/-- The tables stay below the limit. -/
structure UsageDb.Below (limit : ℚ) (db : UsageDb ℚ) : Prop where
  keyed : Table.Keyed UsageReservation.id db.reservations
  positive : ∀ reservation ∈ db.reservations, 0 < reservation.amount
  below : db.taken workspaceId dimension ≤ limit

/-- What the tables owe a transaction: a row that it has locked is as it was
read, and what a reservation has read bounds what there is. -/
def UsageStage.Owned (limit : ℚ) (db : UsageDb ℚ) : UsageStage → Prop
  | .findExisting call => call.isOf workspaceId dimension → call.input.limit = some limit
  | .lockUsage call =>
      0 < call.input.amount ∧
        (call.isOf workspaceId dimension → call.input.limit = some limit)
  | .sumReserved call usage =>
      0 < call.input.amount ∧
        (call.isOf workspaceId dimension → call.input.limit = some limit) ∧
        (usage.isSome = true → db.usage? call.input.workspaceId = usage) ∧
        (call.isOf workspaceId dimension →
          db.total workspaceId dimension ≤ totalOf usage dimension)
  | .insertReservation call usage _ =>
      0 < call.input.amount ∧
        (usage.isSome = true → db.usage? call.input.workspaceId = usage) ∧
        (call.isOf workspaceId dimension →
          db.taken workspaceId dimension + call.input.amount ≤ limit)
  | .commitReservation call usage _ =>
      0 < call.input.amount ∧
        (usage.isSome = true → db.usage? call.input.workspaceId = usage) ∧
        (call.isOf workspaceId dimension →
          db.taken workspaceId dimension + call.input.amount ≤ limit) ∧
        db.reservation? call.id = none
  | .saveReservation _ reservation | .lockTotal _ reservation =>
      db.reservation? reservation.id = some reservation ∧ reservation.status = .reserved
  | .saveTotal _ reservation usage =>
      db.reservation? reservation.id = some reservation ∧ reservation.status = .reserved ∧
        (usage.isSome = true → db.usage? reservation.workspaceId = usage)
  | .commitSettlement call reservation usage =>
      db.reservation? reservation.id = some reservation ∧ reservation.status = .reserved ∧
        (call.status = .committed → db.usage? reservation.workspaceId = usage)
  | _ => True

end

variable {workspaceId : Uuid} {dimension : UsageDimension} {limit : ℚ} {db next : UsageDb ℚ}
  {stage stage' : UsageStage} {others : List UsageStage}

/-! ## What the commits do to the sums -/

theorem counts_reserved_iff (reservation : UsageReservation ℚ) :
    reservation.counts workspaceId dimension .reserved = true ↔
      reservation.isOf workspaceId dimension ∧ reservation.status = .reserved := by
  simp [UsageReservation.counts, UsageReservation.isOf]

/-- A reservation takes its amount of the workspace in the dimension. -/
theorem taken_reserve (call : Reserving) :
    UsageDb.taken workspaceId dimension { db with reservations := db.reservations ++ [call.row] } =
      db.taken workspaceId dimension +
        if call.row.counts workspaceId dimension .reserved then call.input.amount else 0 := by
  have amount : call.row.amount = call.input.amount := rfl
  rw [UsageDb.taken, UsageDb.taken, add_assoc]
  congr 1
  rw [UsageDb.reserved, UsageDb.reserved, List.filter_append, List.map_append, List.sum_append]
  congr 1
  by_cases counts : call.row.counts workspaceId dimension .reserved = true
  · simp [counts, amount]
  · simp [counts]

/-- A settlement of no more than was reserved takes no more than there was. -/
theorem taken_settle_le (below : db.Below workspaceId dimension limit)
    {reservation : UsageReservation ℚ} (status : UsageReservationStatus) (actual : ℚ)
    (found : db.reservation? reservation.id = some reservation)
    (reserved : reservation.status = .reserved)
    (within : status = .committed → reservation.isOf workspaceId dimension →
      actual ≤ reservation.amount) :
    (db.settle reservation status actual).taken workspaceId dimension ≤
      db.taken workspaceId dimension := by
  have positive : 0 < reservation.amount := below.positive reservation (Table.mem_of_get? found)
  have settled : Table.get? UsageReservation.id db.reservations
      (reservation.settle status actual).id = some reservation := found
  have sums : (db.settle reservation status actual).reserved workspaceId dimension + _ =
      db.reserved workspaceId dimension + _ :=
    below.keyed.sum_save settled
      (UsageReservation.counts workspaceId dimension .reserved) UsageReservation.amount
  have amount : (reservation.settle status actual).amount = reservation.amount := rfl
  rw [amount] at sums
  rw [UsageDb.taken, UsageDb.taken, total_settle]
  simp only [counts_settle]
  by_cases isOf : reservation.isOf workspaceId dimension
  · rw [if_pos (counts_reserved_iff _ |>.mpr ⟨isOf, reserved⟩)] at sums
    by_cases commits : status = .committed
    · have uncounted : ¬ (reservation.settle status actual).counts workspaceId dimension
          .reserved = true := by
        intro counted
        have statusEq : status = .reserved := (counts_reserved_iff _ |>.mp counted).2
        rw [commits] at statusEq
        cases statusEq
      have actualLe := within commits isOf
      rw [if_neg uncounted] at sums
      rw [if_pos ⟨isOf.1, isOf.2, commits⟩]
      linarith
    · rw [if_neg fun counted => commits counted.2.2]
      split at sums <;> linarith
  · have uncounted : ∀ row : UsageReservation ℚ,
        row.workspaceId = reservation.workspaceId → row.dimension = reservation.dimension →
        ¬ row.counts workspaceId dimension .reserved = true := by
      intro row sameWorkspace sameDimension counted
      have rowIsOf := (counts_reserved_iff _ |>.mp counted).1
      exact isOf ⟨sameWorkspace ▸ rowIsOf.1, sameDimension ▸ rowIsOf.2⟩
    rw [if_neg (uncounted reservation rfl rfl),
      if_neg (uncounted (reservation.settle status actual) rfl rfl)] at sums
    rw [if_neg fun counted => isOf ⟨counted.1, counted.2.1⟩]
    linarith

/-- With the total that is stored, a settlement does what it does alone. -/
theorem settleFrom_eq {call : Settling} {reservation : UsageReservation ℚ}
    {usage : Option (WorkspaceUsage ℚ)}
    (current : call.status = .committed → db.usage? reservation.workspaceId = usage) :
    db.settleFrom call reservation usage = db.settle reservation call.status call.actual := by
  by_cases commits : call.status = .committed
  · simp [UsageDb.settleFrom, UsageDb.settle, commits, current commits]
  · simp [UsageDb.settleFrom, UsageDb.settle, commits]

theorem usage?_settle (reservation : UsageReservation ℚ) (status : UsageReservationStatus)
    (actual : ℚ) (id : Uuid)
    (elsewhere : status = .committed → reservation.workspaceId ≠ id) :
    (db.settle reservation status actual).usage? id = db.usage? id := by
  by_cases commits : status = .committed
  · rw [UsageDb.usage?, UsageDb.settle, if_pos commits, Table.get?_save, if_neg]
    · rfl
    · rw [workspaceId_addUsage]
      exact elsewhere commits
  · rw [UsageDb.usage?, UsageDb.settle, if_neg commits]
    rfl

theorem reservation?_settle (reservation : UsageReservation ℚ) (status : UsageReservationStatus)
    (actual : ℚ) (id : Uuid) :
    (db.settle reservation status actual).reservation? id =
      if reservation.id = id then some (reservation.settle status actual)
      else db.reservation? id :=
  Table.get?_save

theorem reservation?_reserve (call : Reserving) (id : Uuid) :
    UsageDb.reservation? { db with reservations := db.reservations ++ [call.row] } id =
      (db.reservation? id).or (if call.id = id then some call.row else none) := by
  rw [UsageDb.reservation?, Table.get?_append]
  rfl

/-! ## What a statement leaves -/

/-- The transactions beside each other. -/
abbrev UsageLeaves (workspaceId : Uuid) (dimension : UsageDimension) (limit : ℚ) :=
  Sessions.Leaves (UsageDb.Below workspaceId dimension limit)
    (UsageStage.Owned workspaceId dimension limit) (Sessions.Disjoint UsageStage.locks)

theorem free_iff {lock : UsageLock} :
    free others lock = true ↔ ∀ other ∈ others, lock ∉ other.locks := by
  simp [free]

/-- A statement that changes no table leaves the others what they are owed. -/
theorem leaves_silent (leaves : UsageLeaves workspaceId dimension limit db stage others)
    (owned : stage'.Owned workspaceId dimension limit db)
    (taken : ∀ lock ∈ stage'.locks, lock ∈ stage.locks ∨ free others lock = true) :
    UsageLeaves workspaceId dimension limit db stage' others where
  holds := leaves.holds
  owns := owned
  beside := leaves.beside
  parts := by
    apply leaves.disjoint
    intro lock held
    exact (taken lock held).imp_right free_iff.mp

/-- A transaction that is over is owed nothing and holds nothing. -/
theorem leaves_done (leaves : UsageLeaves workspaceId dimension limit db stage others)
    (result : Except Exception (UsageReservation ℚ)) :
    UsageLeaves workspaceId dimension limit db (.done result) others := by
  have owned : (UsageStage.done result).Owned workspaceId dimension limit db := trivial
  apply leaves_silent leaves owned
  intro lock held
  cases held

theorem usage_mem_usageLock {usage : Option (WorkspaceUsage ℚ)} {id : Uuid}
    (found : usage.isSome = true) : .usage id ∈ usageLock usage id := by
  rw [usageLock, if_pos found]
  exact List.mem_singleton_self _

/-- A new reservation leaves another transaction what it is owed, if that has
not read the sums that change. -/
theorem owned_reserve {call : Reserving} {other : UsageStage}
    (owned : other.Owned workspaceId dimension limit db)
    (separate : UsageLock.newReservation call.id ∉ other.locks)
    (unread : call.isOf workspaceId dimension → ¬ other.hasRead workspaceId dimension) :
    other.Owned workspaceId dimension limit
      { db with reservations := db.reservations ++ [call.row] } := by
  have found : ∀ {id : Uuid} {reservation : UsageReservation ℚ},
      db.reservation? id = some reservation →
      UsageDb.reservation? { db with reservations := db.reservations ++ [call.row] } id =
        some reservation := by
    intro id reservation foundEq
    rw [reservation?_reserve, foundEq, Option.some_or]
  have room : ∀ amount : ℚ, other.hasRead workspaceId dimension →
      db.taken workspaceId dimension + amount ≤ limit →
      UsageDb.taken workspaceId dimension { db with reservations := db.reservations ++ [call.row] } +
        amount ≤ limit := by
    intro amount read roomEq
    rw [taken_reserve, if_neg]
    · rwa [add_zero]
    · intro counts
      exact unread (counts_reserved_iff _ |>.mp counts).1 read
  cases other with
  | findExisting _ => exact owned
  | lockUsage _ => exact owned
  | sumReserved _ _ => exact owned
  | insertReservation _ _ _ =>
      exact ⟨owned.1, owned.2.1, fun isOf => room _ isOf (owned.2.2 isOf)⟩
  | commitReservation other _ _ =>
      refine ⟨owned.1, owned.2.1, fun isOf => room _ isOf (owned.2.2.1 isOf), ?_⟩
      rw [reservation?_reserve, owned.2.2.2, Option.none_or, if_neg]
      intro sameId
      apply separate
      rw [sameId]
      exact List.mem_cons_self ..
  | lockReservation _ => trivial
  | saveReservation _ _ => exact ⟨found owned.1, owned.2⟩
  | lockTotal _ _ => exact ⟨found owned.1, owned.2⟩
  | saveTotal _ _ _ => exact ⟨found owned.1, owned.2⟩
  | commitSettlement _ _ _ => exact ⟨found owned.1, owned.2⟩
  | done _ => trivial

/-- A commit of a reservation leaves what it should. -/
theorem leaves_reserve {call : Reserving} {usage : Option (WorkspaceUsage ℚ)} {reserved : ℚ}
    (leaves : UsageLeaves workspaceId dimension limit db
      (.commitReservation call usage reserved) others)
    (noRace : UsageStage.NoRace workspaceId dimension db others
      (.commitReservation call usage reserved) .next) :
    UsageLeaves workspaceId dimension limit
      { db with reservations := db.reservations ++ [call.row] } (.done (.ok call.row)) others := by
  obtain ⟨positive, _, room, fresh⟩ := leaves.owns
  have below := leaves.holds
  refine ⟨⟨Table.keyed_append below.keyed fresh, ?_, ?_⟩, trivial, ?_, ?_⟩
  · intro row rowMem
    rcases List.mem_append.mp rowMem with rowMem | new
    · exact below.positive row rowMem
    · rw [List.mem_singleton.mp new]
      exact positive
  · rw [taken_reserve]
    split
    · rename_i counts
      exact room (counts_reserved_iff _ |>.mp counts).1
    · rw [add_zero]
      exact below.below
  · intro other otherMem
    have disjoint := (leaves.parts other otherMem).1
    apply owned_reserve (leaves.beside other otherMem)
    · exact disjoint _ (List.mem_cons_self ..)
    · intro isOf read
      -- both would hold the row of the workspace
      obtain ⟨found, locked⟩ := noRace isOf other otherMem read
      have held : UsageLock.usage workspaceId ∈ other.locks := by
        cases other with
        | insertReservation other usage _ =>
            rw [UsageStage.locks, read.1]
            exact usage_mem_usageLock (by simpa [UsageStage.unlocked] using locked)
        | commitReservation other usage _ =>
            rw [UsageStage.locks, read.1]
            exact List.mem_cons_of_mem _ (List.mem_cons_of_mem _
              (usage_mem_usageLock (by simpa [UsageStage.unlocked] using locked)))
        | _ => cases read
      apply disjoint _ _ held
      rw [UsageStage.locks, isOf.1]
      exact List.mem_cons_of_mem _ (List.mem_cons_of_mem _ (usage_mem_usageLock found))
  · intro other _
    have disjoint : Sessions.Disjoint UsageStage.locks (.done (.ok call.row)) other := by
      intro lock held
      cases held
    exact ⟨disjoint, disjoint.symm⟩

/-- A settlement leaves another transaction what it is owed: it changes the row
of its reservation, which it has locked, and that of the total, which it has
locked or inserts. -/
theorem owned_settle {call : Settling} {reservation : UsageReservation ℚ}
    {usage : Option (WorkspaceUsage ℚ)} {other : UsageStage}
    (owned : other.Owned workspaceId dimension limit db)
    (found : db.reservation? reservation.id = some reservation)
    (current : call.status = .committed → db.usage? reservation.workspaceId = usage)
    (disjoint : Sessions.Disjoint UsageStage.locks (.commitSettlement call reservation usage) other)
    (noRace : call.status = .committed → reservation.isOf workspaceId dimension →
      other.hasTotal workspaceId dimension → other.unlocked = false)
    (less : (db.settle reservation call.status call.actual).taken workspaceId dimension ≤
      db.taken workspaceId dimension) :
    other.Owned workspaceId dimension limit (db.settle reservation call.status call.actual) := by
  have untouched : ∀ {id : Uuid} {row : UsageReservation ℚ}, db.reservation? id = some row →
      UsageLock.reservation id ∈ other.locks →
      (db.settle reservation call.status call.actual).reservation? id = some row := by
    intro id row rowEq held
    rw [reservation?_settle, if_neg, rowEq]
    rintro rfl
    exact disjoint _ (List.mem_cons_self ..) held
  have usages : ∀ {id : Uuid} {read : Option (WorkspaceUsage ℚ)},
      db.usage? id = read →
      (read.isSome = true → UsageLock.usage id ∈ other.locks) →
      (read.isSome = false → UsageLock.newUsage id ∈ other.locks) →
      (db.settle reservation call.status call.actual).usage? id = read := by
    intro id read readEq locked inserted
    rw [usage?_settle, readEq]
    rintro commits rfl
    have same : usage = read := (current commits).symm.trans readEq
    subst same
    have holds : ∀ lock, lock ∈ (if usage.isSome then [.usage reservation.workspaceId]
        else [.newUsage reservation.workspaceId]) → lock ∉ other.locks := by
      intro lock held
      apply disjoint
      rw [UsageStage.locks, if_pos commits]
      exact List.mem_cons_of_mem _ held
    cases some : usage.isSome with
    | true => exact holds _ (by simp [some]) (locked some)
    | false => exact holds _ (by simp [some]) (inserted some)
  have locked : ∀ {id : Uuid} {read : Option (WorkspaceUsage ℚ)}, read.isSome = true →
      db.usage? id = read → UsageLock.usage id ∈ other.locks →
      (db.settle reservation call.status call.actual).usage? id = read := by
    intro id read some readEq held
    apply usages readEq (fun _ => held)
    intro none
    rw [some] at none
    cases none
  cases other with
  | findExisting _ => exact owned
  | lockUsage _ => exact owned
  | sumReserved other read =>
      obtain ⟨positive, names, readEq, total⟩ := owned
      have kept : read.isSome = true → (db.settle reservation call.status call.actual).usage?
          other.input.workspaceId = read :=
        fun some => locked some (readEq some) (usage_mem_usageLock some)
      refine ⟨positive, names, kept, ?_⟩
      intro isOf
      by_cases some : read.isSome = true
      · rw [UsageDb.total, ← isOf.1, kept some]
      · rw [total_settle, if_neg]
        · exact total isOf
        · intro counted
          rw [counts_settle] at counted
          have found := noRace counted.2.2 ⟨counted.1, counted.2.1⟩ isOf
          simp [UsageStage.unlocked] at found
          exact some found
  | insertReservation other read _ =>
      refine ⟨owned.1, ?_, fun isOf => by linarith [owned.2.2 isOf]⟩
      exact fun some => locked some (owned.2.1 some) (usage_mem_usageLock some)
  | commitReservation other read _ =>
      refine ⟨owned.1, ?_, fun isOf => by linarith [owned.2.2.1 isOf], ?_⟩
      · exact fun some => locked some (owned.2.1 some)
          (List.mem_cons_of_mem _ (List.mem_cons_of_mem _ (usage_mem_usageLock some)))
      · rw [reservation?_settle, if_neg]
        · exact owned.2.2.2
        · intro sameId
          have fresh := owned.2.2.2
          rw [← sameId, found] at fresh
          cases fresh
  | lockReservation _ => trivial
  | saveReservation _ _ => exact ⟨untouched owned.1 (List.mem_cons_self ..), owned.2⟩
  | lockTotal _ _ => exact ⟨untouched owned.1 (List.mem_cons_self ..), owned.2⟩
  | saveTotal _ row read =>
      refine ⟨untouched owned.1 (List.mem_cons_self ..), owned.2.1, ?_⟩
      exact fun some => locked some (owned.2.2 some)
        (List.mem_cons_of_mem _ (usage_mem_usageLock some))
  | commitSettlement _ row read =>
      refine ⟨untouched owned.1 (List.mem_cons_self ..), owned.2.1, ?_⟩
      intro commits
      apply usages (owned.2.2 commits)
      · intro some
        rw [UsageStage.locks, if_pos commits, if_pos some]
        simp
      · intro none
        rw [UsageStage.locks, if_pos commits, none]
        simp
  | done _ => trivial

/-- A commit of a settlement leaves what it should. -/
theorem leaves_settle {call : Settling} {reservation : UsageReservation ℚ}
    {usage : Option (WorkspaceUsage ℚ)}
    (leaves : UsageLeaves workspaceId dimension limit db
      (.commitSettlement call reservation usage) others)
    (noRace : UsageStage.NoRace workspaceId dimension db others
      (.commitSettlement call reservation usage) .next)
    (within : (UsageStage.commitSettlement call reservation usage).WithinReserved workspaceId
      dimension) (result : Except Exception (UsageReservation ℚ)) :
    UsageLeaves workspaceId dimension limit (db.settleFrom call reservation usage) (.done result)
      others := by
  obtain ⟨found, reserved, current⟩ := leaves.owns
  have below := leaves.holds
  have less := taken_settle_le below call.status call.actual found reserved within
  rw [settleFrom_eq current]
  refine ⟨⟨Table.keyed_save below.keyed, ?_, less.trans below.below⟩, trivial, ?_, ?_⟩
  · intro row rowMem
    rcases Table.mem_save_iff.mp rowMem with rfl | ⟨rowMem, _⟩
    · exact below.positive reservation (Table.mem_of_get? found)
    · exact below.positive row rowMem
  · intro other otherMem
    exact owned_settle (leaves.beside other otherMem) found current
      (leaves.parts other otherMem).1
      (fun commits isOf total => noRace commits isOf other otherMem total) less
  · intro other _
    have disjoint : Sessions.Disjoint UsageStage.locks (.done result) other := by
      intro lock held
      cases held
    exact ⟨disjoint, disjoint.symm⟩

/-- Every statement leaves what it should. -/
theorem leaves_next (leaves : UsageLeaves workspaceId dimension limit db stage others)
    (noRace : stage.NoRace workspaceId dimension db others .next)
    (within : stage.WithinReserved workspaceId dimension)
    (nextEq : stage.next db others = some (next, stage')) :
    UsageLeaves workspaceId dimension limit next stage' others := by
  have owned := leaves.owns
  cases stage with
  | findExisting call =>
      rw [UsageStage.next] at nextEq
      split at nextEq
      · cases nextEq
        exact leaves_done leaves _
      · split at nextEq
        · cases nextEq
          exact leaves_done leaves _
        · rename_i positive
          cases nextEq
          apply leaves_silent leaves
          · exact ⟨not_le.mp positive, owned⟩
          · intro lock held
            cases held
  | lockUsage call =>
      rw [UsageStage.next] at nextEq
      split at nextEq
      · rename_i missing
        cases nextEq
        apply leaves_silent leaves
        · refine ⟨owned.1, owned.2, by simp, ?_⟩
          intro isOf
          rw [UsageDb.total, ← isOf.1, missing]
        · intro lock held
          cases held
      · rename_i usage usageEq
        split at nextEq
        · rename_i unlocked
          cases nextEq
          apply leaves_silent leaves
          · refine ⟨owned.1, owned.2, fun _ => usageEq, ?_⟩
            intro isOf
            rw [UsageDb.total, ← isOf.1, usageEq]
          · intro lock held
            obtain rfl := List.mem_singleton.mp held
            exact Or.inr unlocked
        · cases nextEq
  | sumReserved call usage =>
      obtain ⟨positive, names, current, total⟩ := owned
      rw [UsageStage.next] at nextEq
      split at nextEq
      · rename_i within
        cases nextEq
        apply leaves_silent leaves
        · refine ⟨positive, current, ?_⟩
          intro isOf
          rw [ReserveUsageInput.within, names isOf] at within
          simp at within
          have totalLe := total isOf
          rw [UsageDb.taken]
          rw [isOf.1, isOf.2] at within
          linarith
        · intro lock held
          exact Or.inl held
      · cases nextEq
        exact leaves_done leaves _
  | insertReservation call usage reserved =>
      obtain ⟨positive, current, room⟩ := owned
      rw [UsageStage.next] at nextEq
      split at nextEq
      · rename_i unlocked
        rw [Bool.and_eq_true] at unlocked
        split at nextEq
        · cases nextEq
          exact leaves_done leaves _
        · rename_i fresh
          split at nextEq
          · cases nextEq
            exact leaves_done leaves _
          · cases nextEq
            apply leaves_silent leaves
            · exact ⟨positive, current, room, Option.not_isSome_iff_eq_none.mp fresh⟩
            · intro lock held
              rcases List.mem_cons.mp held with rfl | held
              · exact Or.inr unlocked.1
              · rcases List.mem_cons.mp held with rfl | held
                · exact Or.inr unlocked.2
                · exact Or.inl held
      · cases nextEq
  | commitReservation call usage reserved =>
      cases nextEq
      exact leaves_reserve leaves noRace
  | lockReservation call =>
      rw [UsageStage.next] at nextEq
      split at nextEq
      · cases nextEq
        exact leaves_done leaves _
      · rename_i reservation found
        split at nextEq
        · rename_i unlocked
          split at nextEq
          · rename_i reserved
            cases nextEq
            have key : reservation.id = call.id := Table.key_of_get? found
            apply leaves_silent leaves
            · exact ⟨key ▸ found, reserved⟩
            · intro lock held
              obtain rfl := List.mem_singleton.mp held
              rw [key]
              exact Or.inr unlocked
          · cases nextEq
            exact leaves_done leaves _
        · cases nextEq
  | saveReservation call reservation =>
      rw [UsageStage.next] at nextEq
      split at nextEq
      · cases nextEq
        exact leaves_silent leaves owned fun lock held => Or.inl held
      · rename_i releases
        cases nextEq
        apply leaves_silent leaves
        · exact ⟨owned.1, owned.2, fun commits => absurd commits releases⟩
        · intro lock held
          rw [UsageStage.locks, if_neg releases] at held
          exact Or.inl held
  | lockTotal call reservation =>
      rw [UsageStage.next] at nextEq
      split at nextEq
      · cases nextEq
        apply leaves_silent leaves
        · exact ⟨owned.1, owned.2, by simp⟩
        · intro lock held
          exact Or.inl held
      · rename_i usage usageEq
        split at nextEq
        · rename_i unlocked
          cases nextEq
          apply leaves_silent leaves
          · exact ⟨owned.1, owned.2, fun _ => usageEq⟩
          · intro lock held
            rcases List.mem_cons.mp held with rfl | held
            · exact Or.inl (List.mem_singleton_self _)
            · obtain rfl := List.mem_singleton.mp held
              exact Or.inr unlocked
        · cases nextEq
  | saveTotal call reservation usage =>
      obtain ⟨found, reserved, current⟩ := owned
      rw [UsageStage.next] at nextEq
      split at nextEq
      · rename_i some
        cases nextEq
        apply leaves_silent leaves
        · exact ⟨found, reserved, fun _ => current some⟩
        · intro lock held
          rw [UsageStage.locks, some] at held
          rw [UsageStage.locks, usageLock, some]
          split at held
          · exact Or.inl held
          · rw [List.mem_singleton.mp held]
            exact Or.inl (List.mem_cons_self ..)
      · split at nextEq
        · rename_i unlocked
          split at nextEq
          · cases nextEq
            exact leaves_done leaves _
          · rename_i missing
            cases nextEq
            apply leaves_silent leaves
            · exact ⟨found, reserved, fun _ => Option.not_isSome_iff_eq_none.mp missing⟩
            · intro lock held
              rcases List.mem_cons.mp held with rfl | held
              · exact Or.inl (List.mem_cons_self ..)
              · split at held
                · obtain rfl := List.mem_singleton.mp held
                  exact Or.inr unlocked
                · cases held
        · cases nextEq
  | commitSettlement call reservation usage =>
      cases nextEq
      exact leaves_settle leaves noRace within _
  | done result => cases nextEq

/-- The steps of the transactions that are not part of a race and settle no more
than was reserved. -/
def UsageStage.Allowed (workspaceId : Uuid) (dimension : UsageDimension) (db : UsageDb ℚ)
    (others : List UsageStage) (stage : UsageStage) (choice : UsageChoice) : Prop :=
  stage.NoRace workspaceId dimension db others choice ∧
    stage.WithinReserved workspaceId dimension

instance (workspaceId : Uuid) (dimension : UsageDimension) (db : UsageDb ℚ)
    (others : List UsageStage) (stage : UsageStage) (choice : UsageChoice) :
    Decidable (stage.Allowed workspaceId dimension db others choice) :=
  inferInstanceAs (Decidable (_ ∧ _))

/-- Without races the transactions keep the tables below the limit. -/
theorem keeps_below (workspaceId : Uuid) (dimension : UsageDimension) (limit : ℚ) :
    Sessions.Keeps usageSessions (UsageRequest.Names workspaceId dimension limit)
      (UsageStage.Allowed workspaceId dimension) (UsageDb.Below workspaceId dimension limit)
      (UsageStage.Owned workspaceId dimension limit) (Sessions.Disjoint UsageStage.locks) where
  started := by
    intro db request below names
    refine ⟨below, fun _ owned => owned, ?_⟩
    intro stage stageEq
    obtain rfl : request.stage = stage := Option.some.inj stageEq
    have unlocked : request.stage.locks = [] := by cases request <;> rfl
    refine ⟨?_, ?_⟩
    · cases request with
      | reserveUsage call => exact names
      | commitUsage _ _ => trivial
      | releaseUsage _ => trivial
    · intro other
      have disjoint : Sessions.Disjoint UsageStage.locks request.stage other := by
        intro lock held
        rw [unlocked] at held
        cases held
      exact ⟨disjoint, disjoint.symm⟩
  advanced := by
    intro db others stage choice next stage' leaves allowed advanceEq
    cases choice with
    | next => exact leaves_next leaves allowed.1 allowed.2 advanceEq
    | fail exception =>
        cases stage with
        | done result => cases advanceEq
        | _ =>
            cases advanceEq
            exact leaves_done leaves _

/-- A limit is never exceeded, as long as no reservation races another one, or a
settlement, without a row to lock: where every reservation of a workspace in a
dimension names the same limit and no settlement commits more than was reserved,
what is committed and what is reserved stay within the limit together, however
the transactions are interleaved. -/
theorem limit_kept (workspaceId : Uuid) (dimension : UsageDimension) {limit : ℚ}
    (natural : 0 ≤ limit) {state : Sessions.State (UsageDb ℚ) UsageStage}
    {actions : List (Sessions.Action UsageRequest UsageChoice)}
    (met : usageSessions.step.Meets
      (Sessions.Guard (UsageRequest.Names workspaceId dimension limit)
        (UsageStage.Allowed workspaceId dimension)) ⟨⟨[], []⟩, []⟩ actions)
    (reached : usageSessions.step.run ⟨⟨[], []⟩, []⟩ actions = some state) :
    state.store.total workspaceId dimension + state.store.reserved workspaceId dimension ≤
      limit := by
  have empty : UsageDb.Below workspaceId dimension limit ⟨[], []⟩ := by
    refine ⟨Table.keyed_nil, by simp, ?_⟩
    simpa [UsageDb.taken, UsageDb.total, UsageDb.usage?, totalOf, UsageDb.reserved, Table.get?]
      using natural
  have invariant := (keeps_below workspaceId dimension limit).run
    (Sessions.Invariant.of_no_sessions empty rfl) met reached
  exact invariant.holds.below

/-! ## An example -/

/-- A reservation of three units under a key, with a limit of five. -/
def exampleReserve (key : String) : Sessions.Action UsageRequest UsageChoice :=
  .start (.reserveUsage
    ⟨⟨uuid "org", uuid "workspace", .aiInputTokens, 3, key, some 5⟩, uuid key, 0⟩)

/-- The transaction takes that many statements. -/
def exampleStatements (index count : Nat) : List (Sessions.Action UsageRequest UsageChoice) :=
  List.replicate count (.advance index .next)

/-- Two reservations one after the other. -/
def exampleTurns : List (Sessions.Action UsageRequest UsageChoice) :=
  [exampleReserve "first", exampleReserve "second"] ++ exampleStatements 0 5 ++
    exampleStatements 1 3

/-- Two reservations that both read before either commits. -/
def exampleBoth : List (Sessions.Action UsageRequest UsageChoice) :=
  [exampleReserve "first", exampleReserve "second"] ++ exampleStatements 0 3 ++
    exampleStatements 1 3 ++ exampleStatements 0 2 ++ exampleStatements 1 2

/-- What is committed and reserved in the example. -/
def exampleTaken (state : Sessions.State (UsageDb ℚ) UsageStage) : ℚ :=
  state.store.total (uuid "workspace") .aiInputTokens +
    state.store.reserved (uuid "workspace") .aiInputTokens

example : exampleTaken ⟨⟨[], []⟩, []⟩ = 0 := by decide +kernel

theorem limit_kept_example :
    ∃ state, usageSessions.step.run ⟨⟨[], []⟩, []⟩ exampleTurns = some state ∧
      exampleTaken state ≤ 5 := by
  have met : usageSessions.step.Meets
      (Sessions.Guard (UsageRequest.Names (uuid "workspace") .aiInputTokens 5)
        (UsageStage.Allowed (uuid "workspace") .aiInputTokens)) ⟨⟨[], []⟩, []⟩ exampleTurns := by
    decide +kernel
  have enabled : (usageSessions.step.run ⟨⟨[], []⟩, []⟩ exampleTurns).isSome = true := by
    decide +kernel
  obtain ⟨state, reached⟩ := Option.isSome_iff_exists.mp enabled
  exact ⟨state, reached, limit_kept (uuid "workspace") .aiInputTokens (by norm_num) met reached⟩

/-- The limit is exceeded: in a workspace without a row of totals two
reservations of three units read that nothing is reserved, and both commit
within a limit of five. -/
theorem limit_exceeded :
    (usageSessions.step.run ⟨⟨[], []⟩, []⟩ exampleBoth).map exampleTaken = some 6 := by
  decide +kernel

end Manbaa.Usage
