import Manbaa.Core.Http
import Manbaa.Lib.Effect
import Manbaa.Lib.Run
import Manbaa.Lib.Table
import Mathlib.Data.List.Perm.Lattice

/-!
# The usage service

Reservations of usage and the totals of the workspaces.  A reservation is made
before the work, and settled once: committed with the actual amount, which is
added to the total of the workspace, or released.  Reservations that are not
settled in time expire.

The service works on any type of amounts.  The numbers of the language are
doubles, whose addition depends on the order; a total is what the settlements
added up, in their order.
-/

namespace Manbaa.Usage

open Manbaa.Lib Manbaa.Lib.Effect

/-- What usage is counted of. -/
inductive UsageDimension where
  | workspaceCount
  | memberCount
  | storageBytes
  | aiInputTokens
  | aiOutputTokens
  | aiCostUsd
  | researchPages
  | imageGenerations
  | exportBytes
  deriving DecidableEq

/-- How far a reservation has come. -/
inductive UsageReservationStatus where
  | reserved
  | committed
  | released
  | expired
  deriving DecidableEq

/-- A row of `usage_reservation`. -/
structure UsageReservation (ν : Type) where
  id : Uuid
  organizationId : Uuid
  workspaceId : Uuid
  dimension : UsageDimension
  amount : ν
  actualAmount : Option ν
  idempotencyKey : String
  status : UsageReservationStatus
  expiresAt : Nat
  deriving DecidableEq

/-- A row of `workspace_usage`; `totals` is its JSON object. -/
structure WorkspaceUsage (ν : Type) where
  organizationId : Uuid
  workspaceId : Uuid
  totals : UsageDimension → Option ν

/-- The tables of the usage service. -/
structure UsageDb (ν : Type) where
  reservations : List (UsageReservation ν)
  usages : List (WorkspaceUsage ν)

/-- `ReserveUsageInput`. -/
structure ReserveUsageInput (ν : Type) where
  organizationId : Uuid
  workspaceId : Uuid
  dimension : UsageDimension
  amount : ν
  idempotencyKey : String
  limit : Option ν

variable {ν : Type}

/-- The row of a reservation. -/
def UsageDb.reservation? (db : UsageDb ν) (id : Uuid) : Option (UsageReservation ν) :=
  Table.get? UsageReservation.id db.reservations id

/-- The reservation that was made under a key. -/
def UsageDb.byKey? (db : UsageDb ν) (key : String) : Option (UsageReservation ν) :=
  Table.get? UsageReservation.idempotencyKey db.reservations key

/-- The usage of a workspace. -/
def UsageDb.usage? (db : UsageDb ν) (workspaceId : Uuid) : Option (WorkspaceUsage ν) :=
  Table.get? WorkspaceUsage.workspaceId db.usages workspaceId

/-- The reservation is one of the workspace and the dimension, with the
status. -/
def UsageReservation.counts (workspaceId : Uuid) (dimension : UsageDimension)
    (status : UsageReservationStatus) (reservation : UsageReservation ν) : Bool :=
  reservation.workspaceId == workspaceId && reservation.dimension == dimension &&
    reservation.status == status

/-- The reservation after its settlement. -/
def UsageReservation.settle (reservation : UsageReservation ν) (status : UsageReservationStatus)
    (actual : ν) : UsageReservation ν :=
  { reservation with status := status, actualAmount := some actual }

section
variable [Zero ν]

/-- What the totals of a row say of a dimension. -/
def totalOf (usage : Option (WorkspaceUsage ν)) (dimension : UsageDimension) : ν :=
  (usage.bind fun usage => usage.totals dimension).getD 0

/-- The stored total of a workspace and a dimension. -/
def UsageDb.total (db : UsageDb ν) (workspaceId : Uuid) (dimension : UsageDimension) : ν :=
  totalOf (db.usage? workspaceId) dimension

variable [Add ν]

/-- The sum of the amounts that are reserved. -/
def UsageDb.reserved (db : UsageDb ν) (workspaceId : Uuid) (dimension : UsageDimension) : ν :=
  ((db.reservations.filter (UsageReservation.counts workspaceId dimension .reserved)).map
    UsageReservation.amount).sum

/-- The row of a workspace with an amount added to a dimension; a workspace gets
its row with its first settlement. -/
def addUsage (usage : Option (WorkspaceUsage ν)) (reservation : UsageReservation ν) (actual : ν) :
    WorkspaceUsage ν :=
  let row := usage.getD ⟨reservation.organizationId, reservation.workspaceId, fun _ => none⟩
  { row with
    totals := Function.update row.totals reservation.dimension
      (some ((row.totals reservation.dimension).getD 0 + actual)) }

end

/-- A computation of the usage service. -/
abbrev UsageService (ν : Type) := Effect (UsageDb ν) Exception

/-- The time a reservation is held, in milliseconds. -/
def reservationTime : Nat := 30 * 60000

/-- The reservation that a request asks for. -/
def ReserveUsageInput.reservation (input : ReserveUsageInput ν) (id : Uuid) (now : Nat) :
    UsageReservation ν :=
  { id := id
    organizationId := input.organizationId
    workspaceId := input.workspaceId
    dimension := input.dimension
    amount := input.amount
    actualAmount := none
    idempotencyKey := input.idempotencyKey
    status := .reserved
    expiresAt := now + reservationTime }

/-- Insert a reservation. -/
def insertReservation (reservation : UsageReservation ν) : UsageService ν Unit := do
  let used ← reading fun db => db.reservation? reservation.id
  require used.isNone (.queryFailed (.uniqueViolation "usage_reservation_pkey"))
  writing fun db => { db with reservations := db.reservations ++ [reservation] }

section
variable [Zero ν] [Add ν] [LT ν] [LE ν] [DecidableLT ν] [DecidableLE ν]

/-- A request stays within its limit, if it has one. -/
def ReserveUsageInput.within (input : ReserveUsageInput ν) (committed reserved : ν) : Bool :=
  input.limit.all fun limit => !decide (limit < committed + reserved + input.amount)

/-- `reserveUsage`. -/
def reserveUsage (input : ReserveUsageInput ν) (id : Uuid) (now : Nat) :
    UsageService ν (UsageReservation ν) := do
  let existing ← reading fun db => db.byKey? input.idempotencyKey
  match existing with
  | some existing => pure existing
  | none => do
      require (!decide (input.amount ≤ 0)) (.conflict "Usage amount must be positive")
      let usage ← reading fun db => db.usage? input.workspaceId
      let reserved ← reading fun db => db.reserved input.workspaceId input.dimension
      require (input.within (totalOf usage input.dimension) reserved)
        (.conflict "Usage limit exceeded")
      insertReservation (input.reservation id now)
      pure (input.reservation id now)

end

section
variable [Zero ν] [Add ν]

/-- Add the actual amount of a committed reservation to its workspace. -/
def commitTotal (reservation : UsageReservation ν) (actual : ν) : UsageService ν Unit :=
  writing fun db =>
    { db with
      usages := Table.save WorkspaceUsage.workspaceId db.usages
        (addUsage (db.usage? reservation.workspaceId) reservation actual) }

/-- `finish`. -/
def finish (id : Uuid) (status : UsageReservationStatus) (actual : ν) :
    UsageService ν (UsageReservation ν) := do
  let found ← reading fun db => db.reservation? id
  let reservation ← orThrow found (.notFound "Usage reservation not found")
  if reservation.status ≠ .reserved then pure reservation
  else do
    let settled := reservation.settle status actual
    writing fun db =>
      { db with reservations := Table.save UsageReservation.id db.reservations settled }
    if status = .committed then commitTotal reservation actual
    pure settled

/-- `commitUsage`. -/
def commitUsage (id : Uuid) (actualAmount : ν) : UsageService ν (UsageReservation ν) :=
  finish id .committed actualAmount

/-- `releaseUsage`. -/
def releaseUsage (id : Uuid) : UsageService ν (UsageReservation ν) := finish id .released 0

end

/-- The reservation expires, if it is still reserved when its time is over. -/
def UsageReservation.expire (now : Nat) (reservation : UsageReservation ν) : UsageReservation ν :=
  if reservation.status = .reserved ∧ reservation.expiresAt < now then
    { reservation with status := .expired }
  else reservation

/-- `cleanupExpired`. -/
def cleanupExpired (now : Nat) : UsageService ν Unit :=
  writing fun db =>
    { db with reservations := db.reservations.map (UsageReservation.expire now) }

end Manbaa.Usage
