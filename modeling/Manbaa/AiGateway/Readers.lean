import Manbaa.AiGateway.NumberingRuns
import Manbaa.Jobs.Tasks
import Manbaa.Lib.DateText
import Manbaa.Lib.Except

/-!
# The readers of the elements of a version

Four services read the column in which a version keeps its elements: the diagram
of a workflow, its export to Elsa, the progress of its review and the approval of
an element.  None of them knows who wrote the column.  An audit row is left out.

A property of a stored value is read as the language reads it: that of `null`
throws, and a value that is no object has none of those that are read here.
-/

namespace Manbaa.AiGateway

open Manbaa.Lib Manbaa.Lib.Effect Manbaa.Jobs

/-- What the readers use of the language. -/
structure Runtime where
  numberText : ℚ → String
  parseJson : String → Option Json
  toLowerCase : String → String
  /-- The entries of a text, one for each of its units. -/
  textEntries : String → Json.Fields
  /-- The rounded percentage that the first number is of the second one. -/
  percentage : Nat → Nat → Int

/-! ## Stored values -/

/-- A property of a value. -/
def property (value : Json) (key : String) : Except Exception (Option Json) :=
  match value with
  | .null => .error (.error ("Cannot read properties of null (reading '" ++ key ++ "')"))
  | .obj fields => .ok (fields.lookup key)
  | _ => .ok none

/-- A value, or another one if it is nullish. -/
def orNullish (value : Option Json) (other : Json) : Json :=
  (value.filter (· != .null)).getD other

/-- The items of an array, for a method of arrays that is called on a value. -/
def items (receiver method : String) : Json → Except Exception (List Json)
  | .arr items => .ok items
  | .null => .error (.error ("Cannot read properties of null (reading '" ++ method ++ "')"))
  | _ => .error (.error (receiver ++ "." ++ method ++ " is not a function"))

/-- Write a property of an object, in its place if it is there. -/
def assign (key : String) (value : Json) : Json.Fields → Json.Fields
  | [] => [(key, value)]
  | (other, found) :: rest =>
      if other = key then (key, value) :: rest else (other, found) :: assign key value rest

@[simp]
theorem property_obj (fields : Json.Fields) (key : String) :
    property (.obj fields) key = .ok (fields.lookup key) :=
  rfl

/-! ## The diagram -/

/-- What `getDiagramData` returns. -/
structure DiagramData where
  nodes : Json
  edges : Json
  deriving DecidableEq

/-- The diagram in the elements of a version. -/
def diagramData (elementsJson : Option Json) : Except Exception DiagramData := do
  let elementsJson := orNullish elementsJson (.obj [])
  let nodes ← property elementsJson "nodes"
  let edges ← property elementsJson "edges"
  pure ⟨orNullish nodes (.arr []), orNullish edges (.arr [])⟩

/-- `getDiagramData`. -/
def getDiagramData (workflowId orgId : Uuid) : Statements DiagramData := do
  let found ← reading fun db =>
    (db.workflow? workflowId).filter fun workflow => workflow.orgId == orgId
  let _ ← orThrow found (.notFound ("Workflow " ++ workflowId.text ++ " not found"))
  asking fun db => diagramData ((db.latestVersion? workflowId).map WorkflowVersion.elementsJson)

/-! ## The export to Elsa -/

/-- `FLOWFORGE_TO_ELSA_MAPPING`. -/
def flowforgeToElsaMapping : List (String × String) :=
  [("start", "Elsa.Core.Activity"), ("end", "Elsa.Core.Activity"),
    ("task", "Elsa.Core.Activity"), ("user_task", "Elsa.Core.Activity"),
    ("service_task", "Elsa.Core.Activity"),
    ("script_task", "Elsa.Scripting.JavaScript.RunJavaScript"),
    ("exclusive_gateway", "Elsa.Flowchart.ExclusiveGateway"),
    ("inclusive_gateway", "Elsa.Flowchart.InclusiveGateway"),
    ("parallel_gateway", "Elsa.Flowchart.ParallelGateway"),
    ("event_gateway", "Elsa.Flowchart.EventBasedGateway"),
    ("start_event", "Elsa.Events.StartWorkflow"), ("end_event", "Elsa.Events.EndWorkflow"),
    ("message_event", "Elsa.Messaging.StartWorkflow"),
    ("timer_event", "Elsa.Timers.StartWorkflowTimer"),
    ("subprocess", "Elsa.CompositeActivity"), ("lane", "Elsa.Flowchart.Lane"),
    ("pool", "Elsa.Flowchart.Pool"), ("sequence_flow", "Elsa.Flowchart.SequenceFlow"),
    ("default_flow", "Elsa.Flowchart.DefaultFlow"),
    ("conditional_flow", "Elsa.Flowchart.ConditionalFlow"),
    ("message_flow", "Elsa.Flowchart.MessageFlow")]

/-- `ElsaActivity`.  A type is missing where the mapping returns a function, and a
name where an element has neither a label nor a type. -/
structure ElsaActivity where
  id : Option Json
  type : Option Json
  name : Option Json
  properties : Option Json
  deriving DecidableEq

/-- `ElsaConnection`. -/
structure ElsaConnection where
  id : Option Json
  sourceId : Json
  targetId : Json
  outcome : Option Json
  deriving DecidableEq

/-- `ElsaWorkflowJson`. -/
structure ElsaWorkflowJson where
  id : String
  name : String
  version : Int
  activities : List ElsaActivity
  connections : List ElsaConnection
  workflowVariables : List Json
  tags : List String
  deriving DecidableEq

/-- `mapFlowForgeTypeToElsa`.  Two of the properties that every object inherits are
names that a type may have. -/
def mapFlowForgeTypeToElsa (runtime : Runtime) : Option Json → Except Exception (Option Json)
  | none => .error (.error "Cannot read properties of undefined (reading 'toLowerCase')")
  | some .null => .error (.error "Cannot read properties of null (reading 'toLowerCase')")
  | some (.str elementType) =>
      let key := runtime.toLowerCase elementType
      if key = "constructor" then .ok none
      else if key = "__proto__" then .ok (some (.obj []))
      else .ok (some (.str ((flowforgeToElsaMapping.lookup key).getD "Elsa.Core.Activity")))
  | some _ => .error (.error "elementType.toLowerCase is not a function")

/-- `Object.entries`. -/
def entries (runtime : Runtime) : Json → Json.Fields
  | .obj fields => fields
  | .arr items => items.zipIdx.map fun (item, index) => (toString index, item)
  | .str text => runtime.textEntries text
  | _ => []

/-- `sanitizeProperties`.  An assignment to `__proto__` makes no property. -/
def sanitizeProperties (runtime : Runtime) (props : Json) : Json :=
  .obj (((entries runtime props).filter fun entry => entry.1 != "__proto__").map
    fun (key, value) =>
      match value with
      | .obj _ | .arr _ => (key, .str (value.stringify runtime.numberText))
      | _ => (key, value))

/-- `convertNodeToActivity`. -/
def convertNodeToActivity (runtime : Runtime) (node : Json) : Except Exception ElsaActivity := do
  let type ← property node "type"
  let elsaType ← mapFlowForgeTypeToElsa runtime type
  let label ← property node "label"
  let props ← property node "properties"
  let id ← property node "id"
  let properties : Json.Fields :=
    (if Jobs.truthy label then [("displayText", label.getD .null)] else []) ++
      if Jobs.truthy props then
        [("customProperties", sanitizeProperties runtime (props.getD .null))] else []
  pure
    { id := id
      type := elsaType
      name := (label.filter (· != .null)).or type
      properties := if properties.isEmpty then none else some (.obj properties) }

/-- `convertEdgeToConnection`. -/
def convertEdgeToConnection (edge : Json) : Except Exception ElsaConnection := do
  let sourceId ← property edge "sourceId"
  let targetId ← property edge "targetId"
  let label ← property edge "label"
  pure
    { id := none
      sourceId := orNullish sourceId (.str "")
      targetId := orNullish targetId (.str "")
      outcome := if Jobs.truthy label then label else none }

/-- `parseElements`. -/
def parseElements (runtime : Runtime) : Json → Json
  | .str text => (runtime.parseJson text).getD (.obj [])
  | elementsJson => orNullish (some elementsJson) (.obj [])

/-- `convertToElsaWorkflow`. -/
def convertToElsaWorkflow (runtime : Runtime) (elements : Json) (workflowId : Uuid)
    (workflowName : String) (version : Int) : Except Exception ElsaWorkflowJson := do
  let nodes ← property elements "nodes"
  let edges ← property elements "edges"
  let nodes ← items "nodes" "map" (orNullish nodes (.arr []))
  let activities ← nodes.mapM (convertNodeToActivity runtime)
  let edges ← items "edges" "map" (orNullish edges (.arr []))
  let connections ← edges.mapM convertEdgeToConnection
  pure
    { id := "workflow-" ++ workflowId.text
      name := workflowName
      version := version
      activities := activities
      connections := connections
      workflowVariables := []
      tags := ["flowforge-export"] }

/-- What `exportToElsa` returns. -/
structure ElsaExport where
  json : ElsaWorkflowJson
  filename : String
  artifactUri : String
  deriving DecidableEq

/-- `exportToElsa`, without its audit row, at a moment `now`. -/
def exportToElsa (runtime : Runtime) (now : Int) (workflowId : Uuid) (versionNumber : Int)
    (orgId : Uuid) : Statements ElsaExport := do
  let version ← reading fun db => db.versions.find? fun version =>
    version.workflowId == workflowId && version.versionNumber == versionNumber
  let version ← orThrow version
    (.notFound ("Workflow version " ++ toString versionNumber ++ " not found"))
  let workflow ← reading fun db => db.workflow? workflowId
  let workflow ← orThrow workflow (.notFound "Workflow not found")
  let elsaJson ← asking fun _ =>
    convertToElsaWorkflow runtime (parseElements runtime version.elementsJson) workflowId
      workflow.title versionNumber
  let timestamp := String.ofList ((DateText.toISOString now).toList.map fun char =>
    if char = ':' ∨ char = '.' then '-' else char)
  writing fun db => (db.workflow? workflowId).elim db fun row =>
    db.writeWorkflow { row with status := .exported }
  pure
    { json := elsaJson
      filename := "workflow-" ++ workflowId.text ++ "-v" ++ toString versionNumber ++ "-elsa-" ++
        timestamp ++ ".json"
      artifactUri := "exports/" ++ orgId.text ++ "/" ++ workflowId.text ++ "/v" ++
        toString versionNumber ++ "-elsa-" ++ timestamp ++ ".json" }

/-! ## The review -/

/-- What `getReviewProgress` returns. -/
structure ReviewProgress where
  approvedCount : Nat
  totalCount : Nat
  completionPct : Int
  deriving DecidableEq

/-- A property of an element is `true`. -/
def isTrue (key : String) (element : Json) : Except Exception Bool := do
  let found ← property element key
  pure (found == some (.bool true))

/-- The progress of a review in the elements of a version. -/
def reviewProgress (runtime : Runtime) (elementsJson : Option Json) :
    Except Exception ReviewProgress := do
  let elements := if Jobs.truthy elementsJson then elementsJson.getD .null else .arr []
  let elements ← items "elements" "filter" elements
  let nonArchivedElements ← elements.filterM fun element => do
    let archived ← isTrue "archived" element
    pure !archived
  let totalCount := nonArchivedElements.length
  let approvedElements ← nonArchivedElements.filterM (isTrue "approved")
  let approvedCount := approvedElements.length
  pure
    { approvedCount := approvedCount
      totalCount := totalCount
      completionPct := if totalCount > 0 then runtime.percentage approvedCount totalCount else 0 }

/-- `getReviewProgress`. -/
def getReviewProgress (runtime : Runtime) (workflowId orgId : Uuid) :
    Statements ReviewProgress := do
  let found ← reading fun db =>
    (db.workflow? workflowId).filter fun workflow => workflow.orgId == orgId
  let _ ← orThrow found (.notFound "Workflow not found")
  asking fun db =>
    reviewProgress runtime ((db.latestVersion? workflowId).map WorkflowVersion.elementsJson)

/-- An element, approved if it has the wanted identifier. -/
def approveIfWanted (elementId : String) (userId : Uuid) (now : Int) (element : Json) :
    Except Exception Json := do
  let id ← property element "id"
  match element with
  | .obj fields =>
      if id = some (.str elementId) then
        pure (.obj (assign "approved_at" (.str (DateText.toISOString now))
          (assign "approved_by" (.str userId.text) (assign "approved" (.bool true) fields))))
      else pure element
  | _ => pure element

/-- The elements of a version with one of them approved. -/
def approvedElements (elementId : String) (userId : Uuid) (now : Int) (elementsJson : Json) :
    Except Exception (List Json) := do
  let elements ← items "elementsJson" "map" elementsJson
  elements.mapM (approveIfWanted elementId userId now)

/-- `approveElement`, without its audit row, at a moment `now`. -/
def approveElement (now : Int) (workflowId : Uuid) (elementId : String) (userId orgId : Uuid) :
    Statements Unit := do
  let found ← reading fun db =>
    (db.workflow? workflowId).filter fun workflow => workflow.orgId == orgId
  let _ ← orThrow found (.notFound "Workflow not found")
  let latest ← reading fun db => db.latestVersion? workflowId
  let version ← orThrow latest (.notFound "No version found for workflow")
  let updated ← asking fun _ => approvedElements elementId userId now version.elementsJson
  writing fun db =>
    { db with versions := db.versions.map fun row =>
        if row.id = version.id then { row with elementsJson := .arr updated } else row }

/-! ## What the readers make of a committed canvas -/

/-- The diagram has a node or an edge for every object. -/
def DiagramShows (version : WorkflowVersion) (objects : List Canvases.CanvasObject) : Prop :=
  ∃ data, diagramData (some version.elementsJson) = .ok data ∧
    ∀ object ∈ objects, ∃ elements, (data.nodes = .arr elements ∨ data.edges = .arr elements) ∧
      ∃ element ∈ elements, property element "id" = .ok (some (.str object.id.text))

/-- The export has an activity or a connection for every object. -/
def ExportShows (runtime : Runtime) (workflowName : String) (version : WorkflowVersion)
    (objects : List Canvases.CanvasObject) : Prop :=
  ∃ json, convertToElsaWorkflow runtime (parseElements runtime version.elementsJson)
      version.workflowId workflowName version.versionNumber = .ok json ∧
    ∀ object ∈ objects,
      (∃ activity ∈ json.activities, activity.id = some (.str object.id.text)) ∨
        ∃ connection ∈ json.connections, connection.id = some (.str object.id.text)

/-- The review counts the objects. -/
def ReviewCounts (runtime : Runtime) (version : WorkflowVersion)
    (objects : List Canvases.CanvasObject) : Prop :=
  ∃ progress, reviewProgress runtime (some version.elementsJson) = .ok progress ∧
    progress.totalCount = objects.length

/-- Approving an element finds just the objects. -/
def ApprovalFinds (version : WorkflowVersion) (objects : List Canvases.CanvasObject) : Prop :=
  ∀ elementId userId now,
    ∃ updated, approvedElements elementId userId now version.elementsJson = .ok updated ∧
      ((∃ element ∈ updated, isTrue "approved" element = .ok true) ↔
        ∃ object ∈ objects, object.id.text = elementId)

/-- The four readers decode a version without loss. -/
structure Readable (runtime : Runtime) (workflowName : String) (version : WorkflowVersion)
    (objects : List Canvases.CanvasObject) : Prop where
  diagram : DiagramShows version objects
  exported : ExportShows runtime workflowName version objects
  counted : ReviewCounts runtime version objects
  approved : ApprovalFinds version objects

section
variable {request : CommitRequest} {found : Committing} {runtime : Runtime}

/-- There are neither nodes nor edges in the elements of a commit. -/
theorem diagramData_version :
    diagramData (some (request.version found).elementsJson) = .ok ⟨.arr [], .arr []⟩ :=
  rfl

/-- A commit is exported as a workflow without activities and connections. -/
theorem convertToElsaWorkflow_version (workflowId : Uuid) (workflowName : String)
    (number : Int) :
    convertToElsaWorkflow runtime (parseElements runtime (request.version found).elementsJson)
        workflowId workflowName number =
      .ok ⟨"workflow-" ++ workflowId.text, workflowName, number, [], [], [],
        ["flowforge-export"]⟩ :=
  rfl

/-- The elements of a commit are an object, which cannot be filtered. -/
theorem reviewProgress_version :
    reviewProgress runtime (some (request.version found).elementsJson) =
      .error (.error "elements.filter is not a function") :=
  rfl

/-- Nor can an object be mapped. -/
theorem approvedElements_version (elementId : String) (userId : Uuid) (now : Int) :
    approvedElements elementId userId now (request.version found).elementsJson =
      .error (.error "elementsJson.map is not a function") :=
  rfl

/-- The diagram of a commit lacks every object. -/
theorem diagramShows_version_iff :
    DiagramShows (request.version found) found.objects ↔ found.objects = [] := by
  constructor
  · rintro ⟨data, dataEq, shows_⟩
    cases diagramData_version.symm.trans dataEq
    apply List.eq_nil_iff_forall_not_mem.mpr
    intro object objectMem
    obtain ⟨elements, elementsEq, element, elementMem, _⟩ := shows_ object objectMem
    rcases elementsEq with nodesEq | edgesEq
    · cases nodesEq
      cases elementMem
    · cases edgesEq
      cases elementMem
  · intro none
    rw [none]
    exact ⟨_, diagramData_version, by simp⟩

/-- So does its export. -/
theorem exportShows_version_iff {workflowName : String} :
    ExportShows runtime workflowName (request.version found) found.objects ↔
      found.objects = [] := by
  constructor
  · rintro ⟨json, jsonEq, shows_⟩
    cases (convertToElsaWorkflow_version _ _ _).symm.trans jsonEq
    apply List.eq_nil_iff_forall_not_mem.mpr
    intro object objectMem
    rcases shows_ object objectMem with ⟨activity, activityMem, _⟩ | ⟨connection, connectionMem, _⟩
    · cases activityMem
    · cases connectionMem
  · intro none
    rw [none]
    exact ⟨_, convertToElsaWorkflow_version _ _ _, by simp⟩

/-- The review of a commit throws. -/
theorem not_reviewCounts_version {objects : List Canvases.CanvasObject} :
    ¬ ReviewCounts runtime (request.version found) objects := by
  rintro ⟨progress, progressEq, _⟩
  cases reviewProgress_version.symm.trans progressEq

/-- Approving an element of a commit throws. -/
theorem not_approvalFinds_version {objects : List Canvases.CanvasObject} :
    ¬ ApprovalFinds (request.version found) objects := by
  intro finds
  obtain ⟨updated, updatedEq, _⟩ := finds "" request.versionId 0
  cases (approvedElements_version _ _ _).symm.trans updatedEq

end

section
variable {request : CommitRequest} {found : Committing} {runtime : Runtime} {db after : AiDb}

/-- A commit that returns leaves the version that it made under its number, and the
workflow with its title. -/
theorem commitCanvas_ok {done : Unit} (commitEq : commitCanvas request db = (.ok done, after)) :
    ∃ found, findForCommit request db = (.ok found, db) ∧
      (after.versions.find? fun version =>
        version.workflowId == request.workflowId &&
          version.versionNumber == (request.version found).versionNumber) =
        some (request.version found) ∧
      after.workflow? request.workflowId =
        some { found.workflow with currentVersion := (request.version found).versionNumber } := by
  obtain ⟨found, middle, findEq, storeEq⟩ := bind_eq_ok_iff.mp commitEq
  obtain ⟨rfl, rowEq⟩ := findForCommit_ok findEq
  have idEq : found.workflow.id = request.workflowId := Table.key_of_get? rowEq
  obtain ⟨fresh, same⟩ := commitVersion_ok storeEq (idEq ▸ rowEq)
  have absent : (middle.versions.find? fun version =>
      version.workflowId == request.workflowId &&
        version.versionNumber == (request.version found).versionNumber) = none := by
    rw [List.find?_eq_none]
    intro other otherMem named
    simp only [Bool.and_eq_true, beq_iff_eq] at named
    exact taken_eq_false_iff.mp fresh other otherMem (named.1.trans idEq.symm) named.2
  refine ⟨found, findEq, ?_, ?_⟩
  · rw [same.2]
    change (middle.versions ++ [request.version found]).find? _ = _
    rw [List.find?_append, absent]
    simp [CommitRequest.version, idEq]
  · rw [same.workflow?_eq, AiDb.workflow?, AiDb.writeWorkflow, Table.get?_save]
    simp [idEq, CommitRequest.version]

/-- The services read what a commit has stored: the export has no activities and no
connections, and while the version is the latest one the diagram is empty and the two
services of the review throw. -/
theorem commitCanvas_served {done : Unit}
    (commitEq : commitCanvas request db = (.ok done, after)) (now : Int) (elementId : String)
    (userId : Uuid) :
    ∃ found, findForCommit request db = (.ok found, db) ∧
      (∃ result, (exportToElsa runtime now request.workflowId
          (request.version found).versionNumber request.caller.orgId after).1 = .ok result ∧
        result.json.activities = [] ∧ result.json.connections = []) ∧
      (after.latestVersion? request.workflowId = some (request.version found) →
        getDiagramData request.workflowId request.caller.orgId after =
            (.ok ⟨.arr [], .arr []⟩, after) ∧
          getReviewProgress runtime request.workflowId request.caller.orgId after =
            (.error (.error "elements.filter is not a function"), after) ∧
          approveElement now request.workflowId elementId userId request.caller.orgId after =
            (.error (.error "elementsJson.map is not a function"), after)) := by
  obtain ⟨found, findEq, storedEq, rowEq⟩ := commitCanvas_ok commitEq
  have sameOrg := (Option.filter_eq_some_iff.mp (findForCommit_visible findEq)).2
  have visible : (after.workflow? request.workflowId).filter (fun workflow =>
      workflow.orgId == request.caller.orgId) = some
        { found.workflow with currentVersion := (request.version found).versionNumber } := by
    rw [rowEq]
    exact Option.filter_eq_some_iff.mpr ⟨rfl, sameOrg⟩
  refine ⟨found, findEq, ?_, ?_⟩
  · simp only [exportToElsa, bind, reading, asking, storedEq, rowEq, orThrow, writing, pure,
      convertToElsaWorkflow_version]
    exact ⟨_, rfl, rfl, rfl⟩
  · intro latestEq
    refine ⟨?_, ?_, ?_⟩
    · simp only [getDiagramData, bind, reading, asking, visible, orThrow, latestEq,
        Option.map_some, diagramData_version]
    · simp only [getReviewProgress, bind, reading, asking, visible, orThrow, latestEq,
        Option.map_some, reviewProgress_version]
    · simp only [approveElement, bind, reading, asking, visible, orThrow, latestEq,
        approvedElements_version]

end

/-- A committed canvas cannot be read: the diagram and the export show its objects only if
it has none, and the review neither counts them nor finds one. -/
theorem committed_unreadable (runtime : Runtime) {request : CommitRequest} {db after : AiDb}
    {done : Unit} (commitEq : commitCanvas request db = (.ok done, after)) :
    ∃ found, findForCommit request db = (.ok found, db) ∧
      request.version found ∈ after.versions ∧
      (DiagramShows (request.version found) found.objects ↔ found.objects = []) ∧
      (ExportShows runtime found.workflow.title (request.version found) found.objects ↔
        found.objects = []) ∧
      ¬ ReviewCounts runtime (request.version found) found.objects ∧
      ¬ ApprovalFinds (request.version found) found.objects ∧
      ¬ Readable runtime found.workflow.title (request.version found) found.objects := by
  obtain ⟨found, findEq, storedEq, _⟩ := commitCanvas_ok commitEq
  exact ⟨found, findEq, List.mem_of_find?_eq_some storedEq, diagramShows_version_iff,
    exportShows_version_iff, not_reviewCounts_version, not_approvalFinds_version,
    fun readable => not_reviewCounts_version readable.counted⟩

/-! ## A canvas with one object -/

def exampleRuntime : Runtime where
  numberText := fun number => toString number.num
  parseJson := fun text => if text = "{}" then some (.obj []) else none
  toLowerCase := lowerCase
  textEntries := fun text => text.toList.zipIdx.map fun (char, index) =>
    (toString index, .str (String.singleton char))
  percentage := fun part whole => (200 * part + whole) / (2 * whole)

def exampleCommitted : Committing where
  workflow :=
    { id := uuid "w", orgId := uuid "o", ownerId := uuid "u", title := "Hiring"
      description := none, domain := none, tags := [], status := .draft, currentVersion := 0 }
  canvas :=
    { id := uuid "c", workflowId := uuid "w", workspaceId := none, revision := 0, width := 1920
      height := 1080, background := "#ffffff" }
  objects :=
    [{ id := uuid "a", canvasId := uuid "c", type := "task", elsaType := none
       label := some "Interview", properties := .obj [], positionX := 0, positionY := 0
       width := none, height := none, style := .obj [], isLocked := false, createdBy := none }]

def exampleCanvasDb : AiDb where
  workflows := [exampleCommitted.workflow]
  versions := []
  sessions := []
  pipelines := []
  messages := []
  graphs := []
  reports := []
  nodes := []
  edges := []
  canvases := [exampleCommitted.canvas]
  objects := exampleCommitted.objects
  canvasSnapshots := []
  canvasVersions := []
  deadLetters := []

def exampleCommitRequest : CommitRequest where
  workflowId := uuid "w"
  label := none
  caller := ⟨uuid "u", uuid "o", "process_owner"⟩
  snapshotId := uuid "s"
  versionId := uuid "v"
  canvasVersionId := uuid "cv"

theorem commitCanvas_example : commitCanvas exampleCommitRequest exampleCanvasDb =
    (.ok (), (commitCanvas exampleCommitRequest exampleCanvasDb).2) :=
  Prod.ext (by decide +kernel) rfl

theorem committed_unreadable_example :
    ∃ found, findForCommit exampleCommitRequest exampleCanvasDb = (.ok found, exampleCanvasDb) ∧
      exampleCommitRequest.version found ∈
        (commitCanvas exampleCommitRequest exampleCanvasDb).2.versions ∧
      (DiagramShows (exampleCommitRequest.version found) found.objects ↔ found.objects = []) ∧
      (ExportShows exampleRuntime found.workflow.title (exampleCommitRequest.version found)
        found.objects ↔ found.objects = []) ∧
      ¬ ReviewCounts exampleRuntime (exampleCommitRequest.version found) found.objects ∧
      ¬ ApprovalFinds (exampleCommitRequest.version found) found.objects ∧
      ¬ Readable exampleRuntime found.workflow.title (exampleCommitRequest.version found)
        found.objects :=
  committed_unreadable exampleRuntime commitCanvas_example

/-- The object of the example is committed, and no reader gets it. -/
theorem committed_object_lost :
    (findForCommit exampleCommitRequest exampleCanvasDb).1 = .ok exampleCommitted ∧
      (commitCanvas exampleCommitRequest exampleCanvasDb).1 = .ok () ∧
      (commitCanvas exampleCommitRequest exampleCanvasDb).2.versions =
        [exampleCommitRequest.version exampleCommitted] ∧
      exampleCommitted.objects.length = 1 ∧
      ¬ DiagramShows (exampleCommitRequest.version exampleCommitted) exampleCommitted.objects ∧
      ¬ ExportShows exampleRuntime exampleCommitted.workflow.title
        (exampleCommitRequest.version exampleCommitted) exampleCommitted.objects ∧
      ¬ ReviewCounts exampleRuntime (exampleCommitRequest.version exampleCommitted)
        exampleCommitted.objects ∧
      ¬ ApprovalFinds (exampleCommitRequest.version exampleCommitted) exampleCommitted.objects :=
  ⟨by decide +kernel, by decide +kernel, by decide +kernel, rfl,
    mt diagramShows_version_iff.mp (List.cons_ne_nil _ _),
    mt exportShows_version_iff.mp (List.cons_ne_nil _ _),
    not_reviewCounts_version, not_approvalFinds_version⟩

end Manbaa.AiGateway
