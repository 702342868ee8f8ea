import Manbaa.Audit.Export
import Manbaa.Core.Http
import Manbaa.Lib.Except
import Manbaa.Lib.Pages
import Mathlib.Data.Prod.Lex
import Mathlib.Data.String.Basic

/-!
# The audit log in pages

Services log entries while readers ask for one page after the other, the latest entry first.  A
page is read in statements of their own: the workflow, the count, and the entries.
-/

namespace Manbaa.Audit

open Manbaa.Lib Manbaa.Lib.Program

/-! ## Rows and calls -/

/-- A row of `audit_log`; its column holds microseconds, which an instant does not have. -/
structure AuditRow where
  log : AuditLog
  micros : Nat
  deriving DecidableEq

/-- By what rows are ordered. -/
def AuditRow.key (row : AuditRow) : ℤ ×ₗ ℕ ×ₗ String :=
  toLex (row.log.createdAt, toLex (row.micros, row.log.id))

/-- `ORDER BY created_at DESC, id DESC`. -/
def AuditRow.Precedes (first second : AuditRow) : Prop := second.key ≤ first.key

instance : DecidableRel AuditRow.Precedes :=
  fun first second => inferInstanceAs (Decidable (second.key ≤ first.key))

instance : Std.Total AuditRow.Precedes := ⟨fun first second => le_total second.key first.key⟩

instance : IsTrans AuditRow AuditRow.Precedes :=
  ⟨fun _ _ _ precedes follows => le_trans follows precedes⟩

/-- A row of `workflow`, as far as access to its log goes. -/
structure AuditedWorkflow where
  id : Uuid
  orgId : Uuid
  deriving DecidableEq

/-- The tables. -/
structure AuditStore where
  workflows : List AuditedWorkflow
  rows : List AuditRow
  deriving DecidableEq

/-- The statements of a call. -/
abbrev AuditMethod := Program AuditStore Exception

/-- `AuditLogEntryInput`. -/
structure AuditLogEntryInput where
  id : Option String
  workflowId : Option Uuid
  actorId : Option Uuid
  actorType : ActorType
  eventType : String
  elementId : Option String
  beforeState : Option Json
  afterState : Option Json

/-- What the database generates for a new row. -/
structure Generated where
  id : Uuid
  createdAt : Int
  dated : DateText.inRange createdAt = true
  micros : Nat

/-- The row of an entry. -/
def AuditLogEntryInput.row (entry : AuditLogEntryInput) (generated : Generated) : AuditRow where
  log := {
    id := generated.id.text
    workflowId := entry.workflowId.map Uuid.text
    actorId := entry.actorId.map Uuid.text
    actorType := entry.actorType
    eventType := entry.eventType
    elementId := entry.elementId
    createdAt := generated.createdAt
    dated := generated.dated
    beforeState := entry.beforeState.getD .null
    afterState := entry.afterState.getD .null }
  micros := generated.micros

/-- `log`. -/
def log (entry : AuditLogEntryInput) (generated : Generated) : AuditMethod AuditLog := do
  ensure (entry.id.all fun id => id == "") (.badRequest "Audit log rows are immutable")
  write fun store => do
    let row := entry.row generated
    check (Table.get? (fun row : AuditRow => row.log.id) store.rows row.log.id).isNone
      (.queryFailed (.uniqueViolation "audit_log_pkey"))
    check (decide (entry.eventType.length ≤ 128)) (.queryFailed (.valueTooLong "event_type"))
    pure (row.log, { store with rows := store.rows ++ [row] })

/-- `AuditAccessUser`. -/
structure AuditAccessUser where
  id : Uuid
  orgId : Uuid
  role : String

/-- `assertWorkflowAccess`. -/
def assertWorkflowAccess (workflowId : Uuid) (currentUser : AuditAccessUser) : AuditMethod Unit := do
  ensure ([UserRole.admin.text, UserRole.processOwner.text, UserRole.businessAnalyst.text].contains
      currentUser.role)
    (.forbidden "You do not have permission to access the audit log")
  ask fun store =>
    check (store.workflows.any fun workflow =>
        workflow.id == workflowId && workflow.orgId == currentUser.orgId)
      (.notFound "Workflow not found")

/-- `AuditFilterInput`. -/
structure AuditFilterInput where
  type : Option String
  from_ : Option String
  to_ : Option String
  actorId : Option Uuid

/-- `AI_DECISION_FILTER`. -/
def aiDecisionFilter : String := "ai_decision"

/-- `DECISION_EVENT_TYPES`. -/
def decisionEventTypes : List String := ["PATTERN_MATCHED", "GAP_INFERRED", "ANSWER_APPLIED"]

/-- A text that is given and not empty. -/
def given (text : Option String) : Option String := text.filter fun value => value != ""

variable (parseDate : String → Option Int)

/-- `new Date(text).toISOString()`, as an instant. -/
def instantOf (text : Option String) : Except Exception (Option Int) :=
  match given text with
  | none => .ok none
  | some value => (lookUp (parseDate value) (.error "Invalid time value")).map some

/-- The rows that a query with no interval asks for. -/
def AuditFilterInput.matchesType (query : AuditFilterInput) (decisionOnly : Bool) (row : AuditRow) :
    Bool :=
  if decisionOnly || query.type == some aiDecisionFilter then
    decisionEventTypes.contains row.log.eventType
  else (given query.type).all fun type => row.log.eventType == type

/-- `buildAuditLogQuery`: the rows that are asked for. -/
def buildAuditLogQuery (workflowId : Uuid) (query : AuditFilterInput) (decisionOnly : Bool) :
    Except Exception (AuditRow → Bool) := do
  let earliest ← instantOf parseDate query.from_
  let latest ← instantOf parseDate query.to_
  pure fun row =>
    row.log.workflowId == some workflowId.text && query.matchesType decisionOnly row &&
      earliest.all (fun instant => decide (instant ≤ row.log.createdAt)) &&
      latest.all (fun instant => decide (row.log.createdAt < instant) ||
        (row.log.createdAt == instant && row.micros == 0)) &&
      query.actorId.all fun actorId => row.log.actorId == some actorId.text

/-- The rows that are asked for, in order. -/
def AuditStore.listing (asked : AuditRow → Bool) (store : AuditStore) : List AuditRow :=
  (store.rows.filter asked).insertionSort AuditRow.Precedes

/-- `PaginatedAuditLogResult`; the rows of its entries. -/
structure PaginatedAuditLogResult where
  entries : List AuditRow
  total : Nat
  page : Nat
  limit : Nat
  deriving DecidableEq

/-- `AuditLogQueryDto`: a page and a limit are at least 1. -/
structure AuditLogQueryDto where
  filter : AuditFilterInput
  page : Option Nat
  limit : Option Nat
  pageMin : ∀ page' ∈ page, 1 ≤ page'
  limitMin : ∀ limit' ∈ limit, 1 ≤ limit'

/-- What `getWorkflowAuditLog` and `getDecisionLog` have in common. -/
def getLog (decisionOnly : Bool) (workflowId : Uuid) (currentUser : AuditAccessUser)
    (query : AuditLogQueryDto) : AuditMethod PaginatedAuditLogResult := do
  assertWorkflowAccess workflowId currentUser
  let page := query.page.getD 1
  let limit := query.limit.getD 20
  let asked ← Program.done (buildAuditLogQuery parseDate workflowId query.filter decisionOnly)
  let total ← Program.query fun store => (store.rows.filter asked).length
  let entries ← Program.query fun store => pageOf (store.listing asked) (page - 1) limit
  pure ⟨entries, total, page, limit⟩

/-- `getWorkflowAuditLog`. -/
def getWorkflowAuditLog : Uuid → AuditAccessUser → AuditLogQueryDto →
    AuditMethod PaginatedAuditLogResult :=
  getLog parseDate false

/-- `getDecisionLog`. -/
def getDecisionLog : Uuid → AuditAccessUser → AuditLogQueryDto →
    AuditMethod PaginatedAuditLogResult :=
  getLog parseDate true

/-- The entries of `exportWorkflowAuditLog`. -/
def exportedEntries (workflowId : Uuid) (currentUser : AuditAccessUser) (query : AuditFilterInput) :
    AuditMethod (List AuditRow) := do
  assertWorkflowAccess workflowId currentUser
  let asked ← Program.done (buildAuditLogQuery parseDate workflowId query false)
  Program.query fun store => store.listing asked

/-- `listDecisionEntriesForWorkflow`. -/
def listDecisionEntriesForWorkflow (workflowId : Uuid) : AuditMethod (List AuditRow) :=
  Program.query fun store => store.listing fun row =>
    decisionEventTypes.any fun eventType =>
      row.log.workflowId == some workflowId.text && row.log.eventType == eventType

/-! ## Readers -/

/-- What a reader asks for: this many pages of a log, from the first on. -/
structure Reading where
  decisionOnly : Bool
  workflowId : Uuid
  currentUser : AuditAccessUser
  filter : AuditFilterInput
  limit : Option Nat
  limitMin : ∀ limit' ∈ limit, 1 ≤ limit'
  count : Nat

/-- The query for the page that follows on some others. -/
def Reading.query (reading : Reading) (others : Nat) : AuditLogQueryDto where
  filter := reading.filter
  page := some (others + 1)
  limit := reading.limit
  pageMin := by
    rintro _ ⟨⟩
    exact Nat.le_add_left 1 others
  limitMin := reading.limitMin

/-- The pages, one call after the other. -/
def Reading.pages (reading : Reading) : AuditMethod (List PaginatedAuditLogResult) :=
  readPages
    (fun others => getLog parseDate reading.decisionOnly reading.workflowId reading.currentUser
      (reading.query others))
    reading.count 0

/-- The rows that a reader asks for. -/
def Reading.asked (reading : Reading) : Except Exception (AuditRow → Bool) :=
  buildAuditLogQuery parseDate reading.workflowId reading.filter reading.decisionOnly

/-- An entry is logged, or pages are read. -/
inductive AuditRequest where
  | log (entry : AuditLogEntryInput) (generated : Generated)
  | read (reading : Reading)

/-- What a request ends with. -/
inductive AuditAnswer where
  | logged (entry : AuditLog)
  | pages (reading : Reading) (pages : List PaginatedAuditLogResult)

/-- How a request is answered. -/
def AuditRequest.answer : AuditRequest → AuditMethod AuditAnswer
  | .log entry generated => do
      let saved ← Audit.log entry generated
      pure (.logged saved)
  | .read reading => do
      let pages ← reading.pages parseDate
      pure (.pages reading pages)

/-! ## What readers get -/

variable {parseDate} {present : List AuditRow} {seen : AuditStore} {asked : AuditRow → Bool}
  {reading : Reading}

/-- The id of a row. -/
def AuditRow.id (row : AuditRow) : String := row.log.id

/-- The rows of the present are there, ids are unique, and rows are only added. -/
def auditContract (present : List AuditRow) : Contract AuditStore where
  valid store := Table.Keyed AuditRow.id store.rows ∧ present.Sublist store.rows
  grows before after := before.rows.Sublist after.rows
  refl _ := List.Sublist.refl _
  trans first second := first.trans second

theorem id_eq_of_precedes (first second : AuditRow) (precedes : first.Precedes second)
    (follows : second.Precedes first) : first.id = second.id := by
  have sameKey : first.key = second.key := le_antisymm follows precedes
  have rest := congrArg (fun key => (ofLex (ofLex key).2).2) sameKey
  exact rest

/-- The rows that are asked for keep their order. -/
theorem listing_sublist (asked : AuditRow → Bool) {earlier later : AuditStore}
    (valid : (auditContract present).valid later) (grown : (auditContract present).grows earlier later) :
    (earlier.listing asked).Sublist (later.listing asked) := by
  have keyed : Table.Keyed AuditRow.id (later.rows.filter asked) :=
    valid.1.sublist (List.filter_sublist.map _)
  exact sublist_insertionSort id_eq_of_precedes keyed (grown.filter asked)

theorem mem_listing_iff {row : AuditRow} {store : AuditStore} :
    row ∈ store.listing asked ↔ row ∈ store.rows ∧ asked row = true := by
  rw [AuditStore.listing, List.mem_insertionSort, List.mem_filter]

/-- An entry is added. -/
theorem log_safe {entry : AuditLogEntryInput} {generated : Generated} :
    (log entry generated).Safe (auditContract present) (fun _ _ => True) seen := by
  apply safe_ensure_bind
  intro _
  apply safe_write
  intro found saved changed valid _ changeEq
  obtain ⟨_, isNew, restEq⟩ := except_bind_eq_ok_iff.mp changeEq
  obtain ⟨_, _, pairEq⟩ := except_bind_eq_ok_iff.mp restEq
  cases pairEq
  have fresh : Table.get? AuditRow.id found.rows (entry.row generated).id = none :=
    Option.isNone_iff_eq_none.mp (check_eq_ok_iff.mp isNew)
  have added : found.rows.Sublist (found.rows ++ [entry.row generated]) :=
    List.sublist_append_left _ _
  exact ⟨⟨⟨Table.keyed_append valid.1 fresh, valid.2.trans added⟩, added⟩, fun _ _ _ => trivial⟩

theorem assertWorkflowAccess_safe {workflowId : Uuid} {currentUser : AuditAccessUser} :
    (assertWorkflowAccess workflowId currentUser).Safe (auditContract present) (fun _ _ => True)
      seen := by
  apply safe_ensure_bind
  intro _
  exact safe_ask fun _ _ _ _ _ _ _ _ => trivial

/-- A page is read from the list at one moment. -/
theorem getLog_safe {decisionOnly : Bool} {workflowId : Uuid} {currentUser : AuditAccessUser}
    (query : AuditLogQueryDto)
    (askedEq : buildAuditLogQuery parseDate workflowId query.filter decisionOnly = .ok asked)
    (valid : (auditContract present).valid seen) :
    (getLog parseDate decisionOnly workflowId currentUser query).Safe (auditContract present)
      (fun answer found => ∃ moment, (auditContract present).valid moment ∧
        (auditContract present).grows seen moment ∧ (auditContract present).grows moment found ∧
        answer.entries = pageOf (moment.listing asked) (query.page.getD 1 - 1)
          (query.limit.getD 20)) seen := by
  rw [getLog, askedEq]
  apply assertWorkflowAccess_safe.bind valid
  intro _ checked _ sinceSeen _
  apply safe_query_bind
  intro counted _ sinceChecked
  apply safe_query_bind
  intro moment momentValid sinceCounted
  apply safe_pure
  intro later _ sinceMoment
  exact ⟨moment, momentValid, (sinceSeen.trans sinceChecked).trans sinceCounted, sinceMoment, rfl⟩

/-! ## Runs -/

/-- The limit of a page. -/
def Reading.pageLimit (reading : Reading) : Nat := reading.limit.getD 20

/-- The last of the pages is short. -/
def Reading.EndsShort (reading : Reading) (pages : List PaginatedAuditLogResult) : Prop :=
  ∃ last ∈ pages.getLast?, last.entries.length < reading.pageLimit

/-- A reader gets rows that it has asked for and no others, and all of those of the present if it
has gone on until a page was short. -/
def AuditAnswer.Complete (parseDate : String → Option Int) (present : List AuditRow) :
    AuditAnswer → Prop
  | .logged _ => True
  | .pages reading got =>
      ∀ asked, reading.asked parseDate = .ok asked →
        (reading.EndsShort got → ∀ row ∈ present, asked row = true →
          ∃ page ∈ got, row ∈ page.entries) ∧
        ∀ page ∈ got, ∀ row ∈ page.entries, asked row = true

/-- A query with a date that is none is refused. -/
theorem getLog_refused {decisionOnly : Bool} {workflowId : Uuid} {currentUser : AuditAccessUser}
    {query : AuditLogQueryDto} {error : Exception} {right : PaginatedAuditLogResult → AuditStore → Prop}
    (refused : buildAuditLogQuery parseDate workflowId query.filter decisionOnly = .error error)
    (valid : (auditContract present).valid seen) :
    (getLog parseDate decisionOnly workflowId currentUser query).Safe (auditContract present) right
      seen := by
  rw [getLog, refused]
  exact assertWorkflowAccess_safe.bind valid fun _ _ _ _ _ => safe_throw

theorem pages_safe (valid : (auditContract present).valid seen) :
    (reading.pages parseDate).Safe (auditContract present)
      (fun pages _ => (AuditAnswer.pages reading pages).Complete parseDate present) seen := by
  cases askedEq : reading.asked parseDate with
  | error error =>
      have vacuous : ∀ pages, (AuditAnswer.pages reading pages).Complete parseDate present := by
        intro pages asked askedOk
        cases askedEq.symm.trans askedOk
      rw [Reading.pages]
      cases reading.count with
      | zero => exact safe_pure fun _ _ _ => vacuous _
      | succ count =>
          have refused : (getLog parseDate reading.decisionOnly reading.workflowId
              reading.currentUser (reading.query 0)).Safe (auditContract present)
              (fun _ _ => False) seen := getLog_refused askedEq valid
          exact refused.bind valid fun _ _ _ _ => False.elim
  | ok asked =>
      refine Safe.weaken (readPages_safe PaginatedAuditLogResult.entries reading.count 0
        reading.pageLimit (fun _ _ => listing_sublist asked)
        (fun others _ => getLog_safe (reading.query others) askedEq) valid) ?_
      rintro pages _ _ ⟨complete, listed⟩ other otherEq
      cases askedEq.symm.trans otherEq
      constructor
      · intro endsShort row rowMem matched
        apply complete row ?_ endsShort
        rw [Nat.zero_mul, List.drop_zero]
        exact mem_listing_iff.mpr ⟨valid.2.subset rowMem, matched⟩
      · intro page pageMem row rowMem
        obtain ⟨moment, rowListed⟩ := listed page pageMem row rowMem
        exact (mem_listing_iff.mp rowListed).2

theorem answer_safe (request : AuditRequest) (valid : (auditContract present).valid seen) :
    (request.answer parseDate).Safe (auditContract present)
      (fun answer _ => answer.Complete parseDate present) seen := by
  cases request with
  | log entry generated =>
      exact log_safe.bind valid fun _ _ _ _ _ => safe_pure fun _ _ _ => trivial
  | read reading =>
      exact (pages_safe valid).bind valid fun _ _ _ _ complete => safe_pure fun _ _ _ => complete

/-- **A reader of the audit log misses nothing.**  Whatever is logged while pages are read, a reader
gets rows that it has asked for and no others; and if it goes on until a page is short, it gets all
of these that were there when the run began. -/
theorem pages_complete {state reached : Sessions.State AuditStore (AuditMethod AuditAnswer)}
    {actions : List (Sessions.Action AuditRequest Unit)} (idle : state.sessions = [])
    (keyed : Table.Keyed AuditRow.id state.store.rows)
    (runEq : (beside (AuditRequest.answer parseDate)).step.run state actions = some reached) :
    ∀ answer ∈ reached.sessions.filterMap returned,
      answer.Complete parseDate state.store.rows := by
  have start : AllSafe (auditContract state.store.rows) (fun _ : AuditRequest => True)
      (fun _ (answer : AuditAnswer) _ => answer.Complete parseDate state.store.rows) state :=
    allSafe_of_idle idle ⟨keyed, List.Sublist.refl _⟩
  have kept := (start.run (fun request _ _ valid => answer_safe request valid)
    (fun _ _ => trivial) runEq).1
  intro answer returnedMem
  obtain ⟨_, _, complete⟩ := kept.right_of_returned returnedMem
  exact complete

/-! ## Examples -/

/-- An entry that is logged. -/
def exampleEntry : AuditLogEntryInput where
  id := none
  workflowId := some (uuid "w")
  actorId := none
  actorType := .user
  eventType := "WORKFLOW_UPDATED"
  elementId := none
  beforeState := none
  afterState := none

/-- The row of the entry, of a day. -/
def exampleRow (id : String) (day : Int) (dated : DateText.inRange (86400000 * day) = true) :
    AuditRow :=
  exampleEntry.row ⟨uuid id, 86400000 * day, dated, 0⟩

/-- An analyst reads two pages of two rows, the last of which is short. -/
def exampleReading : Reading where
  decisionOnly := false
  workflowId := uuid "w"
  currentUser := ⟨uuid "u", uuid "o", "business_analyst"⟩
  filter := ⟨none, none, none, none⟩
  limit := some 2
  limitMin := by decide
  count := 2

/-- Two days are logged, and a third is between the two pages. -/
def exampleStore : AuditStore :=
  ⟨[⟨uuid "w", uuid "o"⟩], [exampleRow "a" 1 (by decide), exampleRow "b" 2 (by decide)]⟩

/-- The reader gets its first page before the third day is logged, and its second one after. -/
def exampleGrowth : List (Sessions.Action AuditRequest Unit) :=
  .start (.read exampleReading) :: List.replicate 3 (.advance 0 ()) ++
    [.start (.log exampleEntry ⟨uuid "c", 86400000 * 3, by decide, 0⟩), .advance 1 ()] ++
    List.replicate 3 (.advance 0 ())

/-- The ids on the pages of an answer. -/
def AuditAnswer.ids : AuditAnswer → List (List String)
  | .logged _ => []
  | .pages _ got => got.map fun page => page.entries.map AuditRow.id

/-- A row that has moved is met twice, and none is missed. -/
theorem pages_complete_example :
    ∃ reached, (beside (AuditRequest.answer fun _ => none)).step.run ⟨exampleStore, []⟩
        exampleGrowth = some reached ∧
      (reached.sessions.filterMap returned).map AuditAnswer.ids = [[["b", "a"], ["a"]], []] ∧
      ∀ answer ∈ reached.sessions.filterMap returned,
        answer.Complete (fun _ => none) exampleStore.rows := by
  have keyed : Table.Keyed AuditRow.id exampleStore.rows := by
    decide +kernel
  have taken : ((beside (AuditRequest.answer fun _ => none)).step.run ⟨exampleStore, []⟩
      exampleGrowth).map (fun reached =>
        (reached.sessions.filterMap returned).map AuditAnswer.ids) =
      some [[["b", "a"], ["a"]], []] := by
    decide +kernel
  obtain ⟨reached, runEq, idsEq⟩ := Option.map_eq_some_iff.mp taken
  exact ⟨reached, runEq, idsEq, pages_complete rfl keyed runEq⟩

end Manbaa.Audit
