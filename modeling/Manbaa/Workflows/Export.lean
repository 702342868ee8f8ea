import Manbaa.AiGateway.NumberingRuns
import Manbaa.AiGateway.SessionService

/-!
# The export of workflows

An export request is validated, then it asks for the current version of the workflow, then it
exports that version.  Nothing holds the three together, and nothing says which version it was
that the status of the workflow is about: an update and a commit add a version and leave the
status as it is.
-/

namespace Manbaa.Workflows

open Manbaa.Lib Manbaa.Lib.Effect Manbaa.AiGateway

/-! ## Rows and requests -/

/-- How severe a divergence is. -/
inductive PointSeverity where
  | info
  | low
  | medium
  | high
  | critical
  deriving DecidableEq

/-- A row of `divergence_point`, as far as it is read. -/
structure DivergencePoint where
  id : Uuid
  reportId : Uuid
  severity : PointSeverity
  resolved : Bool
  deriving DecidableEq

/-- An export request, with the time as file names have it. -/
structure ExportRequest where
  id : Uuid
  caller : RequestUser
  timestamp : String
  deriving DecidableEq

/-- What the handlers run on: the threshold of the divergence results, and what the mapping
service makes of the elements of a version, the workflow, its title and the number. -/
structure ExportHost where
  threshold : ℚ
  convertToElsaWorkflow : Json → Uuid → String → Int → Except Exception Json

/-! ## The validation -/

/-- Why a workflow can not be exported. -/
inductive ExportRefusal where
  | forbidden
  | invalidStatus
  | reconciliationRequired (unresolvedCriticalPoints : Option Nat)
  deriving DecidableEq

/-- `findOneWithLatestVersion`; the version is not used. -/
def findOneWithLatestVersion (id orgId : Uuid) : Statements Workflow := do
  let found ← reading fun db => (db.workflow? id).filter fun workflow => workflow.orgId == orgId
  orThrow found (.notFound ("Workflow " ++ id.text ++ " not found"))

/-- The newest session of a workflow. -/
def latestSession? (db : AiDb) (workflowId : Uuid) : Option Session :=
  (db.sessions.filter fun session => session.workflowId == workflowId).getLast?

/-- The newest report about a workflow. -/
def latestReport? (db : AiDb) (workflowId : Uuid) : Option DivergenceReport :=
  (db.reports.filter fun report => report.workflowId == workflowId).getLast?

/-- How many critical points of a report are unresolved. -/
def criticalUnresolved (points : List DivergencePoint) (report : DivergenceReport) : Nat :=
  (points.filter fun point => point.reportId == report.id && point.severity == .critical &&
    !point.resolved).length

/-- `validateExportability`, once it has the workflow. -/
def refusal? (points : List DivergencePoint) (caller : RequestUser) (workflow : Workflow)
    (db : AiDb) : Option ExportRefusal :=
  if workflow.ownerId ≠ caller.id ∧ caller.role ≠ UserRole.admin.text ∧
      caller.role ≠ UserRole.businessAnalyst.text then some .forbidden
  else if workflow.status ≠ .validated then some .invalidStatus
  else
    match latestSession? db workflow.id with
    | none => none
    | some session =>
        if session.status = .needsReconciliation then some (.reconciliationRequired none)
        else
          match latestReport? db workflow.id with
          | none => none
          | some report =>
              let unresolved := criticalUnresolved points report
              if 0 < unresolved then some (.reconciliationRequired (some unresolved)) else none

/-- What the controller throws. -/
def ExportRefusal.exception : ExportRefusal → Exception
  | .forbidden => .forbidden "FORBIDDEN"
  | .invalidStatus => .conflict "INVALID_STATUS"
  | .reconciliationRequired _ => .conflict "RECONCILIATION_REQUIRED"

/-- The controller goes on with workflows that can be exported. -/
def validateExportability (points : List DivergencePoint) (request : ExportRequest) :
    Statements Unit := do
  let workflow ← findOneWithLatestVersion request.id request.caller.orgId
  let refused ← reading (refusal? points request.caller workflow)
  match refused with
  | none => pure ()
  | some refusal => throwing refusal.exception

/-- The controller asks which version is the current one. -/
def chooseVersion (request : ExportRequest) : Statements Int := do
  let workflow ← findOneWithLatestVersion request.id request.caller.orgId
  pure workflow.currentVersion

/-! ## The export -/

/-- An export. -/
structure ElsaExport where
  versionNumber : Int
  json : Json
  filename : String
  deriving DecidableEq

/-- `exportToElsa`, of which the controller returns the content and the name. -/
def exportToElsa (host : ExportHost) (request : ExportRequest) (versionNumber : Int) :
    Statements ElsaExport := do
  let found ← reading fun db => db.versions.find? fun version =>
    version.workflowId == request.id && version.versionNumber == versionNumber
  let version ← orThrow found
    (.notFound ("Workflow version " ++ toString versionNumber ++ " not found"))
  let found ← reading fun db => db.workflow? request.id
  let workflow ← orThrow found (.notFound "Workflow not found")
  let json ← asking fun _ =>
    host.convertToElsaWorkflow version.elementsJson request.id workflow.title versionNumber
  writing fun db => db.writeWorkflow { workflow with status := .exported }
  pure
    { versionNumber := versionNumber
      json := json
      filename := "workflow-" ++ request.id.text ++ "-v" ++ toString versionNumber ++ "-elsa-" ++
        request.timestamp ++ ".json" }

/-! ## Calls beside each other -/

/-- A call. -/
inductive GateRequest where
  | numbering (request : NumberingRequest)
  | divergence (payload : PipelineDivergenceResultEvent)
  | exportToElsa (request : ExportRequest)

/-- The next step of a call, with what it has read.  An export request knows how many changes the
database had seen when it arrived. -/
inductive GateStage where
  | numbering (stage : NumberingStage)
  | findReport (payload : PipelineDivergenceResultEvent)
  | saveReport (payload : PipelineDivergenceResultEvent) (report : DivergenceReport)
  | findSession (payload : PipelineDivergenceResultEvent)
  | saveSession (session : Session)
  | validate (request : ExportRequest) (since : Nat)
  | choose (request : ExportRequest) (since : Nat)
  | produce (request : ExportRequest) (since : Nat) (versionNumber : Int)
  | exported (request : ExportRequest) (answer : ElsaExport)
  | ended

/-- The database, the points, which none of the calls writes, and what the database has been,
from the newest state on. -/
structure GateStore where
  db : AiDb
  points : List DivergencePoint
  history : List AiDb

/-- The database after a statement. -/
def GateStore.write (store : GateStore) (db : AiDb) : GateStore :=
  { store with db := db, history := store.db :: store.history }

/-- How a call goes on after a statement: it is over if the statement throws. -/
def GateStage.after {α : Type} (store : GateStore) (next : α → GateStage) :
    Except Exception α × AiDb → GateStore × GateStage
  | (.ok value, db) => (store.write db, next value)
  | (.error _, db) => (store.write db, .ended)

/-- How a call begins. -/
def GateStage.start (store : GateStore) : GateRequest → GateStage
  | .numbering request => .numbering (.start request)
  | .divergence payload => .findReport payload
  | .exportToElsa request => .validate request store.history.length

/-- What the handler of a divergence result does once the report is saved. -/
def GateStage.reconciling (host : ExportHost) (payload : PipelineDivergenceResultEvent) :
    GateStage :=
  if payload.similarityScore < host.threshold then .findSession payload else .ended

/-- The next step of a call. -/
def GateStage.advance (host : ExportHost) (store : GateStore) :
    GateStage → Option (GateStore × GateStage)
  | .numbering stage =>
      (stage.advance store.db).map fun (db, next) => (store.write db, .numbering next)
  | .findReport payload =>
      some (store.write store.db,
        (store.db.reports.find? fun report => report.id == payload.reportId).elim .ended
          (.saveReport payload))
  | .saveReport payload report =>
      some (store.write (store.db.writeReport
          { report with overallSimilarity := some payload.similarityScore }),
        .reconciling host payload)
  | .findSession payload =>
      some (store.write store.db,
        (store.db.session? payload.sessionId).elim .ended fun session =>
          .saveSession { session with status := .needsReconciliation })
  | .saveSession session => some (store.write (store.db.writeSession session), .ended)
  | .validate request since =>
      some (GateStage.after store (fun _ => .choose request since)
        (validateExportability store.points request store.db))
  | .choose request since =>
      some (GateStage.after store (.produce request since) (chooseVersion request store.db))
  | .produce request _ versionNumber =>
      some (GateStage.after store (.exported request)
        (exportToElsa host request versionNumber store.db))
  | .exported _ _ | .ended => none

/-- The calls that the gate is about. -/
def gateSystem (host : ExportHost) : Sessions GateStore GateStage GateRequest Unit where
  start store request := (store, some (.start store request))
  advance store _ stage _ := stage.advance host store

end Manbaa.Workflows
