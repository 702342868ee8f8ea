import Manbaa.Lib.Except
import Manbaa.Messages.Cursor
import Mathlib.Data.List.Sort

/-!
# Pages of messages

The messages of a session are listed in pages of fifty, each of which names the cursor of
the next one.  A cursor holds milliseconds and rows hold microseconds: the rows after a
cursor are those after the last message of the page only if that message was created on a
whole millisecond.
-/

namespace Manbaa.Messages

open Manbaa.Lib

/-! ## Rows -/

/-- Who has written a message. -/
inductive MessageRole where
  | user
  | ai
  | system
  deriving DecidableEq

/-- What a message is. -/
inductive MessageType where
  | userInput
  | aiQuestion
  | aiResponse
  | aiSummary
  | aiUpdate
  | aiConfidenceReport
  | systemNote
  | systemStatus
  deriving DecidableEq

/-- A row of `message`, created at an instant in microseconds that a date can hold. -/
structure Message where
  id : Uuid
  sessionId : Uuid
  role : MessageRole
  type : MessageType
  content : String
  metadata : Json
  createdAt : Int
  archivedAt : Option Nat
  named : id.text ≠ ""
  dated : DateText.inRange (createdAt / 1000) = true
  deriving DecidableEq

/-- A row of `session`, as far as messages refer to it. -/
structure Session where
  id : Uuid
  workflowId : Uuid
  archivedAt : Option Nat
  deriving DecidableEq

/-- A row of `workflow`, as far as messages refer to it. -/
structure Workflow where
  id : Uuid
  orgId : Uuid
  deriving DecidableEq

/-- The tables; identifiers of messages are unique. -/
structure MessagesDb where
  workflows : List Workflow
  sessions : List Session
  messages : List Message
  keyed : (messages.map Message.id).Nodup

/-- The date that a row is read with: its microseconds are lost. -/
def Message.date (message : Message) : Int := message.createdAt / 1000

/-- `MessageResponseDto`. -/
structure MessageResponseDto where
  id : Uuid
  sessionId : Uuid
  role : MessageRole
  type : MessageType
  content : String
  metadata : Json
  createdAt : String
  deriving DecidableEq

/-- `toMessageResponse`. -/
def toMessageResponse (message : Message) : MessageResponseDto where
  id := message.id
  sessionId := message.sessionId
  role := message.role
  type := message.type
  content := message.content
  metadata := message.metadata
  createdAt := DateText.toISOString message.date

/-! ## The query -/

/-- `ListSessionMessagesQueryDto`. -/
structure ListSessionMessagesQueryDto where
  type : Option MessageType
  cursor : Option String
  search : Option String
  deriving DecidableEq

/-- The messages of a session. -/
def MessagesDb.sessionMessages (db : MessagesDb) (sessionId : Uuid) : List Message :=
  db.messages.filter fun message => message.sessionId == sessionId && message.archivedAt.isNone

/-- A row comes after a cursor. -/
def MessageCursor.before (cursor : MessageCursor) (message : Message) : Bool :=
  decide (cursor.createdAt * 1000 < message.createdAt) ||
    (message.createdAt == cursor.createdAt * 1000 && decide (cursor.id < message.id.text))

/-- `applyOptionalMessageFilters`, given whether a content matches a search. -/
def applyOptionalMessageFilters (searches : String → String → Bool) (type : Option MessageType)
    (search : Option String) (cursor : Option MessageCursor) (messages : List Message) :
    List Message :=
  messages.filter fun message =>
    type.all (message.type == ·) && search.all (searches message.content) &&
      cursor.all fun cursor => cursor.before message

/-- The order of the pages: by instant, then by identifier. -/
def Message.Before (first second : Message) : Prop :=
  first.createdAt < second.createdAt ∨
    (first.createdAt = second.createdAt ∧ first.id.text ≤ second.id.text)

instance (first second : Message) : Decidable (first.Before second) :=
  inferInstanceAs (Decidable (_ ∨ _))

/-- `DEFAULT_MESSAGE_PAGE_SIZE`. -/
def defaultMessagePageSize : Nat := 50

/-- `getMessagePageWindow`. -/
def getMessagePageWindow (rows : List Message) (pageSize : Nat) : List Message × Option String :=
  let hasMore := decide (pageSize < rows.length)
  let items := if hasMore then rows.take pageSize else rows
  let nextCursor := items.getLast?.bind fun last =>
    if hasMore then some (encodeMessageCursor ⟨last.date, last.id.text⟩) else none
  (items, nextCursor)

/-- `PaginatedMessagesDto`. -/
structure PaginatedMessagesDto where
  items : List MessageResponseDto
  nextCursor : Option String
  deriving DecidableEq

/-- The session, if it is not archived and belongs to the organization. -/
def MessagesDb.ownedSession? (db : MessagesDb) (sessionId orgId : Uuid) : Option Session :=
  db.sessions.find? fun session => session.id == sessionId && session.archivedAt.isNone &&
    db.workflows.any fun workflow => workflow.id == session.workflowId && workflow.orgId == orgId

/-- `findOwnedSessionOrThrow`. -/
def findOwnedSessionOrThrow (db : MessagesDb) (sessionId orgId : Uuid) :
    Except Exception Session :=
  lookUp (db.ownedSession? sessionId orgId) (.notFound "Session not found.")

/-- A search that is not empty. -/
def ListSessionMessagesQueryDto.term (query : ListSessionMessagesQueryDto) : Option String :=
  query.search.filter (· != "")

/-- The cursor of a query; an empty token is none. -/
def ListSessionMessagesQueryDto.start (query : ListSessionMessagesQueryDto) :
    Except Exception (Option MessageCursor) :=
  match query.cursor.filter (· != "") with
  | none => .ok none
  | some token => (decodeMessageCursor token).map some

/-- `listSessionMessages`. -/
def listSessionMessages (searches : String → String → Bool) (db : MessagesDb) (sessionId : Uuid)
    (query : ListSessionMessagesQueryDto) (currentUser : RequestUser) :
    Except Exception PaginatedMessagesDto := do
  let _ ← findOwnedSessionOrThrow db sessionId currentUser.orgId
  let cursor ← query.start
  let filtered := applyOptionalMessageFilters searches query.type query.term cursor
    (db.sessionMessages sessionId)
  let rows := (filtered.insertionSort Message.Before).take (defaultMessagePageSize + 1)
  let page := getMessagePageWindow rows defaultMessagePageSize
  pure ⟨page.1.map toMessageResponse, page.2⟩

/-- The messages that a query without a cursor is about, in the order of the pages. -/
def filteredMessages (searches : String → String → Bool) (db : MessagesDb) (sessionId : Uuid)
    (query : ListSessionMessagesQueryDto) : List Message :=
  (applyOptionalMessageFilters searches query.type query.term none
    (db.sessionMessages sessionId)).insertionSort Message.Before

/-- Follow the cursors of pages, at most so many times: the items of all pages, if there
is a last one. -/
def followPages (searches : String → String → Bool) (db : MessagesDb) (sessionId : Uuid)
    (query : ListSessionMessagesQueryDto) (currentUser : RequestUser) :
    Nat → Option String → Except Exception (Option (List MessageResponseDto))
  | 0, _ => .ok none
  | fuel + 1, cursor => do
      let page ← listSessionMessages searches db sessionId { query with cursor := cursor } currentUser
      match page.nextCursor with
      | none => pure (some page.items)
      | some next => do
          let rest ← followPages searches db sessionId query currentUser fuel (some next)
          pure (rest.map (page.items ++ ·))

/-! ## The order of messages -/

instance : IsTotal Message Message.Before where
  total first second := by
    rcases lt_trichotomy first.createdAt second.createdAt with earlier | same | later
    · exact Or.inl (Or.inl earlier)
    · rcases le_total first.id.text second.id.text with le | le
      · exact Or.inl (Or.inr ⟨same, le⟩)
      · exact Or.inr (Or.inr ⟨same.symm, le⟩)
    · exact Or.inr (Or.inl later)

instance : IsTrans Message Message.Before where
  trans first second third := by
    rintro (earlier | ⟨same, le⟩) (later | ⟨also, next⟩)
    · exact Or.inl (earlier.trans later)
    · exact Or.inl (also ▸ earlier)
    · exact Or.inl (same ▸ later)
    · exact Or.inr ⟨same.trans also, le.trans next⟩

variable {searches : String → String → Bool} {db : MessagesDb} {sessionId : Uuid}
  {query : ListSessionMessagesQueryDto} {currentUser : RequestUser} {message other : Message}
  {messages rows rest : List Message}

theorem uuid_eq_of_text {first second : Uuid} (same : first.text = second.text) : first = second := by
  cases first
  cases second
  cases same
  rfl

/-- Two rows that come before each other are one. -/
theorem MessagesDb.eq_of_before (db : MessagesDb) (messageMem : message ∈ db.messages)
    (otherMem : other ∈ db.messages) (before : message.Before other) (after : other.Before message) :
    message = other := by
  have sameText : message.id.text = other.id.text := by
    rcases before with earlier | ⟨same, le⟩
    · rcases after with later | ⟨same, _⟩
      · exact absurd earlier (lt_asymm later)
      · exact absurd same (ne_of_gt earlier)
    · rcases after with later | ⟨_, ge⟩
      · exact absurd same (ne_of_gt later)
      · exact le_antisymm le ge
  exact List.inj_on_of_nodup_map db.keyed messageMem otherMem (uuid_eq_of_text sameText)

/-- A listing of rows, in the order of the pages, none twice. -/
structure Ordered (messages : List Message) : Prop where
  sorted : messages.Pairwise Message.Before
  apart : ∀ first ∈ messages, ∀ second ∈ messages, first.Before second → second.Before first →
    first = second
  nodup : (messages.map Message.id).Nodup

theorem mem_filteredMessages (messageMem : message ∈ filteredMessages searches db sessionId query) :
    message ∈ db.messages := by
  rw [filteredMessages, List.mem_insertionSort] at messageMem
  exact (List.mem_filter.mp (List.mem_filter.mp messageMem).1).1

theorem ordered_filteredMessages (searches : String → String → Bool) (db : MessagesDb)
    (sessionId : Uuid) (query : ListSessionMessagesQueryDto) :
    Ordered (filteredMessages searches db sessionId query) := by
  constructor
  · exact List.pairwise_insertionSort _ _
  · intro first firstMem second secondMem before after
    exact db.eq_of_before (mem_filteredMessages firstMem) (mem_filteredMessages secondMem) before after
  · have ids := (List.perm_insertionSort Message.Before (applyOptionalMessageFilters searches
      query.type query.term none (db.sessionMessages sessionId))).map Message.id
    rw [filteredMessages, ids.nodup_iff]
    exact db.keyed.sublist ((List.filter_sublist.trans List.filter_sublist).map _)

/-- The rows after a cursor are those of the listing that it comes before. -/
theorem rows_after (searches : String → String → Bool) (db : MessagesDb) (sessionId : Uuid)
    (query : ListSessionMessagesQueryDto) (cursor : MessageCursor) :
    (applyOptionalMessageFilters searches query.type query.term (some cursor)
      (db.sessionMessages sessionId)).insertionSort Message.Before =
      (filteredMessages searches db sessionId query).filter cursor.before := by
  have filters : applyOptionalMessageFilters searches query.type query.term (some cursor)
      (db.sessionMessages sessionId) = (applyOptionalMessageFilters searches query.type query.term
        none (db.sessionMessages sessionId)).filter cursor.before := by
    rw [applyOptionalMessageFilters, applyOptionalMessageFilters, List.filter_filter]
    congr
    funext message
    simp [Bool.and_comm]
  apply List.Perm.eq_of_pairwise _ (List.pairwise_insertionSort _ _)
    ((ordered_filteredMessages searches db sessionId query).sorted.filter _)
  · rw [filters, filteredMessages]
    exact (List.perm_insertionSort _ _).trans ((List.perm_insertionSort _ _).symm.filter _)
  · intro first second firstMem secondMem before after
    rw [filters, List.mem_insertionSort] at firstMem
    have firstRow : first ∈ db.messages :=
      (List.mem_filter.mp (List.mem_filter.mp (List.mem_filter.mp firstMem).1).1).1
    exact db.eq_of_before firstRow (mem_filteredMessages (List.mem_filter.mp secondMem).1) before after

/-! ## Cursors and the rows after them -/

/-- The cursor of a page that ends with a message. -/
def Message.cursor (message : Message) : MessageCursor := ⟨message.date, message.id.text⟩

/-- The message was created on a whole millisecond. -/
def Message.Whole (message : Message) : Prop := message.createdAt % 1000 = 0

instance (message : Message) : Decidable message.Whole := inferInstanceAs (Decidable (_ = _))

theorem before_iff {cursor : MessageCursor} : cursor.before message = true ↔
    cursor.createdAt * 1000 < message.createdAt ∨
      (message.createdAt = cursor.createdAt * 1000 ∧ cursor.id < message.id.text) := by
  simp [MessageCursor.before]

/-- The cursor of a message that was not created on a whole millisecond comes before it. -/
theorem cursor_before_self (fraction : ¬ message.Whole) : message.cursor.before message = true := by
  rw [Message.Whole] at fraction
  apply before_iff.mpr
  simp only [Message.cursor, Message.date]
  omega

/-- The cursor of a message on a whole millisecond comes before the messages after it. -/
theorem cursor_before_iff (whole : message.Whole) : message.cursor.before other = true ↔
    message.createdAt < other.createdAt ∨
      (message.createdAt = other.createdAt ∧ message.id.text < other.id.text) := by
  rw [Message.Whole] at whole
  have exact : message.createdAt / 1000 * 1000 = message.createdAt := by omega
  rw [before_iff, Message.cursor, Message.date, exact, eq_comm]

theorem not_mem_of_nodup (nodup : ((messages ++ message :: rest).map Message.id).Nodup) :
    message ∉ rest ∧ message ∉ messages := by
  rw [List.map_append, List.map_cons, List.nodup_append] at nodup
  obtain ⟨_, after, apart⟩ := nodup
  constructor
  · intro messageMem
    exact (List.nodup_cons.mp after).1 (List.mem_map_of_mem messageMem)
  · intro messageMem
    exact apart _ (List.mem_map_of_mem messageMem) _ List.mem_cons_self rfl

/-- The rows after a message on a whole millisecond are the rest of the listing. -/
theorem filter_cursor (ordered : Ordered (messages ++ message :: rest)) (whole : message.Whole) :
    (messages ++ message :: rest).filter message.cursor.before = rest := by
  obtain ⟨freshRest, freshBefore⟩ := not_mem_of_nodup ordered.nodup
  have sorted := List.pairwise_append.mp ordered.sorted
  have notSelf : ∀ other, other.Before message → ¬ message.cursor.before other = true := by
    intro other before
    rw [cursor_before_iff whole]
    rintro (later | ⟨same, after⟩)
    · rcases before with earlier | ⟨same, _⟩
      · exact lt_asymm earlier later
      · exact ne_of_gt later same
    · rcases before with earlier | ⟨_, le⟩
      · exact ne_of_gt earlier same
      · exact not_lt_of_ge le after
  have none : (messages ++ [message]).filter message.cursor.before = [] := by
    rw [List.filter_eq_nil_iff]
    intro other otherMem
    rcases List.mem_append.mp otherMem with old | same
    · exact notSelf other (sorted.2.2 other old message List.mem_cons_self)
    · obtain rfl := List.mem_singleton.mp same
      exact notSelf other (Or.inr ⟨rfl, le_refl _⟩)
  have all : rest.filter message.cursor.before = rest := by
    rw [List.filter_eq_self]
    intro other otherMem
    rw [cursor_before_iff whole]
    rcases (List.pairwise_cons.mp sorted.2.1).1 other otherMem with later | ⟨same, le⟩
    · exact Or.inl later
    · refine Or.inr ⟨same, lt_of_le_of_ne le fun sameText => ?_⟩
      have inList : ∀ row, row = message ∨ row ∈ rest → row ∈ messages ++ message :: rest := by
        intro row rowMem
        exact List.mem_append_right _ (List.mem_cons.mpr rowMem)
      have equal := ordered.apart message (inList message (Or.inl rfl)) other
        (inList other (Or.inr otherMem)) (Or.inr ⟨same, le⟩) (Or.inr ⟨same.symm, sameText.ge⟩)
      exact freshRest (equal ▸ otherMem)
  have parts : messages ++ message :: rest = (messages ++ [message]) ++ rest := by simp
  rw [parts, List.filter_append, none, all, List.nil_append]

/-! ## Pages -/

/-- The page of the rows that are found. -/
def pageOf (rows : List Message) : PaginatedMessagesDto :=
  let page := getMessagePageWindow (rows.take (defaultMessagePageSize + 1)) defaultMessagePageSize
  ⟨page.1.map toMessageResponse, page.2⟩

theorem pageOf_short (short : rows.length ≤ 50) : pageOf rows = ⟨rows.map toMessageResponse, none⟩ := by
  have all : rows.take (defaultMessagePageSize + 1) = rows :=
    List.take_of_length_le (Nat.le_succ_of_le short)
  have last : ¬ defaultMessagePageSize < rows.length := Nat.not_lt.mpr short
  rw [pageOf, all]
  simp [getMessagePageWindow, last]

/-- A page of fifty rows ends with a cursor, if there are more. -/
theorem pageOf_long (full : messages.length = 49) (more : rest ≠ []) :
    pageOf (messages ++ message :: rest) =
      ⟨(messages ++ [message]).map toMessageResponse, some (encodeMessageCursor message.cursor)⟩ := by
  obtain ⟨next, later, rfl⟩ := List.exists_cons_of_ne_nil more
  have taken : (messages ++ message :: next :: later).take (defaultMessagePageSize + 1) =
      messages ++ [message, next] := by
    rw [List.take_append, List.take_of_length_le (by rw [full]; decide), full]
    rfl
  have long : defaultMessagePageSize < (messages ++ [message, next]).length := by
    rw [List.length_append, full]
    exact Nat.lt_succ_self 50
  have items : (messages ++ [message, next]).take defaultMessagePageSize = messages ++ [message] := by
    rw [List.take_append, List.take_of_length_le (by rw [full]; decide), full]
    rfl
  rw [pageOf, taken]
  simp only [getMessagePageWindow, decide_eq_true long, if_true, items]
  simp [Message.cursor]

/-- A query with a cursor, or without, finds these rows. -/
def Finds (searches : String → String → Bool) (db : MessagesDb) (sessionId : Uuid)
    (query : ListSessionMessagesQueryDto) (currentUser : RequestUser) (cursor : Option String)
    (rows : List Message) : Prop :=
  listSessionMessages searches db sessionId { query with cursor := cursor } currentUser =
    .ok (pageOf rows)

/-- The session is there. -/
def Owned (db : MessagesDb) (sessionId : Uuid) (currentUser : RequestUser) : Prop :=
  (db.ownedSession? sessionId currentUser.orgId).isSome = true

instance (db : MessagesDb) (sessionId : Uuid) (currentUser : RequestUser) :
    Decidable (Owned db sessionId currentUser) :=
  inferInstanceAs (Decidable (_ = true))

theorem findOwned_ok (owned : Owned db sessionId currentUser) :
    ∃ session, findOwnedSessionOrThrow db sessionId currentUser.orgId = .ok session := by
  obtain ⟨session, sessionEq⟩ := Option.isSome_iff_exists.mp owned
  exact ⟨session, lookUp_eq_ok_iff.mpr sessionEq⟩

theorem finds_first (owned : Owned db sessionId currentUser) :
    Finds searches db sessionId query currentUser none
      (filteredMessages searches db sessionId query) := by
  obtain ⟨session, sessionEq⟩ := findOwned_ok owned
  rw [Finds, listSessionMessages, sessionEq]
  rfl

/-- A token that is read as a cursor is not empty. -/
theorem token_ne_empty {token : String} {cursor : MessageCursor}
    (decoded : decodeMessageCursor token = .ok cursor) : token ≠ "" := by
  rintro rfl
  have empty : parseCursor "" = none := by decide +kernel
  rw [decodeMessageCursor, empty] at decoded
  cases decoded

theorem finds_next (owned : Owned db sessionId currentUser) (message : Message) :
    Finds searches db sessionId query currentUser (some (encodeMessageCursor message.cursor))
      ((filteredMessages searches db sessionId query).filter message.cursor.before) := by
  obtain ⟨session, sessionEq⟩ := findOwned_ok owned
  have decoded : decodeMessageCursor (encodeMessageCursor message.cursor) = .ok message.cursor :=
    decode_encodeMessageCursor message.dated message.named
  have start : ({ query with cursor := some (encodeMessageCursor message.cursor) } :
      ListSessionMessagesQueryDto).start = .ok (some message.cursor) := by
    have kept : (some (encodeMessageCursor message.cursor)).filter (· != "") =
        some (encodeMessageCursor message.cursor) :=
      Option.filter_eq_some_iff.mpr ⟨rfl, bne_iff_ne.mpr (token_ne_empty decoded)⟩
    rw [ListSessionMessagesQueryDto.start, kept]
    exact congrArg (Except.map some) decoded
  rw [Finds, listSessionMessages, sessionEq, ok_bind, start, ok_bind]
  exact congrArg (fun rows => Except.ok (pageOf rows))
    (rows_after searches db sessionId query message.cursor)

/-! ## Following the cursors -/

variable {cursor : Option String}

/-- Every fiftieth message that others follow was created on a whole millisecond. -/
def WholeBoundaries (rows : List Message) : Prop :=
  ∀ page message, 0 < page → 50 * page < rows.length → rows[50 * page - 1]? = some message →
    message.Whole

theorem wholeBoundaries_of_short (short : rows.length ≤ 50) : WholeBoundaries rows := by
  intro page _ positive inside
  omega

theorem wholeBoundaries_iff (full : messages.length = 49) (more : rest ≠ []) :
    WholeBoundaries (messages ++ message :: rest) ↔ message.Whole ∧ WholeBoundaries rest := by
  have lengthEq : (messages ++ message :: rest).length = 50 + rest.length := by
    rw [List.length_append, List.length_cons, full]
    omega
  have nonempty := List.length_pos_of_ne_nil more
  have first : (messages ++ message :: rest)[50 * 1 - 1]? = some message := by
    rw [List.getElem?_append_right (by omega), full]
    rfl
  have later : ∀ page, 0 < page →
      (messages ++ message :: rest)[50 * (page + 1) - 1]? = rest[50 * page - 1]? := by
    intro page positive
    rw [List.getElem?_append_right (by omega), full]
    have index : 50 * (page + 1) - 1 - 49 = (50 * page - 1) + 1 := by omega
    rw [index, List.getElem?_cons_succ]
  constructor
  · intro whole
    refine ⟨whole 1 message (by decide) (by omega) first, ?_⟩
    intro page other positive inside otherEq
    exact whole (page + 1) other (Nat.succ_pos page) (by omega)
      ((later page positive).trans otherEq)
  · rintro ⟨whole, restWhole⟩ page other positive inside otherEq
    obtain ⟨page, rfl⟩ := Nat.exists_eq_succ_of_ne_zero (Nat.ne_of_gt positive)
    cases page with
    | zero =>
        cases first.symm.trans otherEq
        exact whole
    | succ page =>
        apply restWhole (page + 1) other (Nat.succ_pos page) (by omega)
        exact (later (page + 1) (Nat.succ_pos page)).symm.trans otherEq

theorem followPages_short {fuel : Nat} (short : rows.length ≤ 50)
    (finds : Finds searches db sessionId query currentUser cursor rows) :
    followPages searches db sessionId query currentUser (fuel + 1) cursor =
      .ok (some (rows.map toMessageResponse)) := by
  rw [followPages, finds, ok_bind, pageOf_short short]
  rfl

theorem followPages_long {fuel : Nat} (full : messages.length = 49) (more : rest ≠ [])
    (finds : Finds searches db sessionId query currentUser cursor (messages ++ message :: rest)) :
    followPages searches db sessionId query currentUser (fuel + 1) cursor =
      followPages searches db sessionId query currentUser fuel
        (some (encodeMessageCursor message.cursor)) >>= fun rest =>
          .ok (rest.map (((messages ++ [message]).map toMessageResponse) ++ ·)) := by
  rw [followPages, finds, ok_bind, pageOf_long full more]
  rfl

/-- Rows are few, or fifty of them are followed by more. -/
theorem few_or_full (rows : List Message) : rows.length ≤ 50 ∨
    ∃ messages message rest, rows = messages ++ message :: rest ∧ messages.length = 49 ∧ rest ≠ [] := by
  rcases Nat.lt_or_ge 50 rows.length with long | short
  · refine Or.inr ⟨rows.take 49, rows[49], rows.drop 50, ?_, ?_, ?_⟩
    · rw [← List.drop_eq_getElem_cons, List.take_append_drop]
    · rw [List.length_take]
      omega
    · intro empty
      have := List.drop_eq_nil_iff.mp empty
      omega
  · exact Or.inl short

/-- The items of all pages begin with the first row that is found. -/
theorem head_followPages {fuel : Nat} {items : List MessageResponseDto}
    (finds : Finds searches db sessionId query currentUser cursor rows)
    (followEq : followPages searches db sessionId query currentUser fuel cursor = .ok (some items)) :
    items.head? = rows.head?.map toMessageResponse := by
  cases fuel with
  | zero => cases followEq
  | succ fuel =>
      rcases few_or_full rows with short | ⟨messages, message, rest, rfl, full, more⟩
      · rw [followPages_short short finds] at followEq
        cases followEq
        exact List.head?_map
      · rw [followPages_long full more finds] at followEq
        obtain ⟨found, _, resultEq⟩ := except_bind_eq_ok_iff.mp followEq
        obtain ⟨later, _, rfl⟩ := Option.map_eq_some_iff.mp (Except.ok.inj resultEq)
        cases messages with
        | nil => cases full
        | cons first others => rfl

/-- Following the cursors from a full page ends with its rows if following them from its
cursor ends with the rest. -/
theorem followPages_rest_iff (full : messages.length = 49) (more : rest ≠ [])
    (finds : Finds searches db sessionId query currentUser cursor (messages ++ message :: rest)) :
    (∃ fuel, followPages searches db sessionId query currentUser fuel cursor =
      .ok (some ((messages ++ message :: rest).map toMessageResponse))) ↔
    ∃ fuel, followPages searches db sessionId query currentUser fuel
      (some (encodeMessageCursor message.cursor)) = .ok (some (rest.map toMessageResponse)) := by
  have parts : (messages ++ message :: rest).map toMessageResponse =
      (messages ++ [message]).map toMessageResponse ++ rest.map toMessageResponse := by
    simp
  constructor
  · rintro ⟨fuel, followEq⟩
    cases fuel with
    | zero => cases followEq
    | succ fuel =>
        rw [followPages_long full more finds] at followEq
        obtain ⟨found, restEq, resultEq⟩ := except_bind_eq_ok_iff.mp followEq
        obtain ⟨later, rfl, itemsEq⟩ := Option.map_eq_some_iff.mp (Except.ok.inj resultEq)
        rw [parts] at itemsEq
        rw [List.append_cancel_left itemsEq] at restEq
        exact ⟨fuel, restEq⟩
  · rintro ⟨fuel, restEq⟩
    refine ⟨fuel + 1, ?_⟩
    rw [followPages_long full more finds, restEq, ok_bind, parts]
    rfl

theorem id_of_toMessageResponse (same : toMessageResponse message = toMessageResponse other) :
    message.id = other.id :=
  congrArg MessageResponseDto.id same

/-- After a message that was not created on a whole millisecond, the pages do not go on
with the rest. -/
theorem followPages_fraction {fuel : Nat} (ordered : Ordered (messages ++ message :: rest))
    (more : rest ≠ []) (fraction : ¬ message.Whole)
    (finds : Finds searches db sessionId query currentUser cursor
      ((messages ++ message :: rest).filter message.cursor.before)) :
    followPages searches db sessionId query currentUser fuel cursor ≠
      .ok (some (rest.map toMessageResponse)) := by
  intro followEq
  obtain ⟨next, later, rfl⟩ := List.exists_cons_of_ne_nil more
  have headEq := head_followPages finds followEq
  have again : message ∈ (messages ++ message :: next :: later).filter message.cursor.before :=
    List.mem_filter.mpr ⟨by simp, cursor_before_self fraction⟩
  have sortedRows := ordered.sorted.filter message.cursor.before
  have inList := fun row (rowMem : row ∈ (messages ++ message :: next :: later).filter
    message.cursor.before) => (List.mem_filter.mp rowMem).1
  cases rowsEq : (messages ++ message :: next :: later).filter message.cursor.before with
  | nil =>
      rw [rowsEq] at again
      cases again
  | cons first others =>
      rw [rowsEq] at headEq again sortedRows inList
      have sameId : next.id = first.id := id_of_toMessageResponse (Option.some.inj headEq)
      have nextMem : next ∈ messages ++ message :: next :: later := by simp
      have same : next = first :=
        List.inj_on_of_nodup_map ordered.nodup nextMem (inList first List.mem_cons_self) sameId
      subst same
      have messageMem : message ∈ messages ++ message :: next :: later := by simp
      have after : message.Before next :=
        (List.pairwise_cons.mp (List.pairwise_append.mp ordered.sorted).2.1).1 next
          List.mem_cons_self
      have equal : next = message := by
        rcases List.mem_cons.mp again with same | otherMem
        · exact same.symm
        · have before := (List.pairwise_cons.mp sortedRows).1 message otherMem
          exact ordered.apart next nextMem message messageMem before after
      exact (not_mem_of_nodup ordered.nodup).1 (equal ▸ List.mem_cons_self)

/-- Following the cursors from rows of the listing ends with these rows, each once and in
order, exactly when the pages end on whole milliseconds. -/
theorem followPages_iff (owned : Owned db sessionId currentUser) {before : List Message}
    (listing : filteredMessages searches db sessionId query = before ++ rows)
    (finds : Finds searches db sessionId query currentUser cursor rows) :
    (∃ fuel, followPages searches db sessionId query currentUser fuel cursor =
      .ok (some (rows.map toMessageResponse))) ↔ WholeBoundaries rows := by
  have ordered := ordered_filteredMessages searches db sessionId query
  induction lengthEq : rows.length using Nat.strong_induction_on generalizing rows before cursor with
  | _ length ih =>
      rcases few_or_full rows with short | ⟨messages, message, rest, rfl, full, more⟩
      · exact ⟨fun _ => wholeBoundaries_of_short short, fun _ => ⟨1, followPages_short short finds⟩⟩
      · have next : Finds searches db sessionId query currentUser
            (some (encodeMessageCursor message.cursor))
            ((filteredMessages searches db sessionId query).filter message.cursor.before) :=
          finds_next owned message
        have listed : filteredMessages searches db sessionId query =
            (before ++ messages) ++ message :: rest := by
          rw [listing, List.append_assoc]
        rw [followPages_rest_iff full more finds, wholeBoundaries_iff full more]
        rw [listed] at ordered next
        by_cases whole : message.Whole
        · rw [filter_cursor ordered whole] at next
          have shorter : rest.length < length := by
            rw [← lengthEq, List.length_append, List.length_cons]
            omega
          have listedRest : filteredMessages searches db sessionId query =
              (before ++ messages ++ [message]) ++ rest := by
            rw [listed]
            simp
          have restIff := ih rest.length shorter listedRest next rfl
          exact ⟨fun follows => ⟨whole, restIff.mp follows⟩, fun both => restIff.mpr both.2⟩
        · apply iff_of_false _ fun both => whole both.1
          rintro ⟨fuel, followEq⟩
          exact followPages_fraction ordered more whole next followEq

/-- The pages of a session that is there end, and are the messages that the query is about,
each once and in their order, exactly when every fiftieth of them that others follow was
created on a whole millisecond. -/
theorem pages_lossless_iff (owned : Owned db sessionId currentUser) :
    (∃ fuel, followPages searches db sessionId query currentUser fuel none =
      .ok (some ((filteredMessages searches db sessionId query).map toMessageResponse))) ↔
      WholeBoundaries (filteredMessages searches db sessionId query) :=
  followPages_iff owned (List.nil_append _).symm (finds_first owned)

/-! ## Examples -/

/-- A caller of the organization. -/
def exampleUser : RequestUser := ⟨uuid "user", uuid "org", "viewer"⟩

/-- An identifier of so many letters. -/
def exampleId (index : Nat) : Uuid :=
  ⟨String.ofList (List.replicate (index + 1) 'a'), by simp [lowerCase]⟩

/-- A message of a bulk insert, created in the first millisecond. -/
def exampleMessage (index : Fin 51) : Message where
  id := exampleId index
  sessionId := uuid "session"
  role := .user
  type := .userInput
  content := ""
  metadata := .obj []
  createdAt := index
  archivedAt := none
  named := by
    intro empty
    have text := congrArg String.toList empty
    simp [exampleId] at text
  dated := by
    have first : (index : Int) / 1000 = 0 := by omega
    rw [first]
    decide

theorem exampleId_injective : Function.Injective fun index : Fin 51 => exampleId index := by
  intro first second same
  have text := congrArg (fun id => id.text.toList.length) same
  simp only [exampleId, String.toList_ofList, List.length_replicate] at text
  exact Fin.ext (Nat.succ.inj text)

/-- A session of fifty-one messages. -/
def exampleDb : MessagesDb where
  workflows := [⟨uuid "workflow", uuid "org"⟩]
  sessions := [⟨uuid "session", uuid "workflow", none⟩]
  messages := (List.finRange 51).map exampleMessage
  keyed := by
    rw [List.map_map]
    exact (List.nodup_finRange 51).map exampleId_injective

theorem pages_lossless_example :
    (∃ fuel, followPages (fun _ _ => true) exampleDb (uuid "session") ⟨none, none, none⟩ exampleUser
      fuel none = .ok (some ((filteredMessages (fun _ _ => true) exampleDb (uuid "session")
        ⟨none, none, none⟩).map toMessageResponse))) ↔
      WholeBoundaries (filteredMessages (fun _ _ => true) exampleDb (uuid "session")
        ⟨none, none, none⟩) := by
  have owned : Owned exampleDb (uuid "session") exampleUser := by
    decide +kernel
  exact pages_lossless_iff owned

/-- Following the cursors of fifty-one messages of one millisecond does not end with them. -/
theorem pages_repeat : ¬ ∃ fuel, followPages (fun _ _ => true) exampleDb (uuid "session")
    ⟨none, none, none⟩ exampleUser fuel none =
      .ok (some ((filteredMessages (fun _ _ => true) exampleDb (uuid "session")
        ⟨none, none, none⟩).map toMessageResponse)) := by
  have owned : Owned exampleDb (uuid "session") exampleUser := by
    decide +kernel
  rw [followPages_iff owned (List.nil_append _).symm (finds_first owned)]
  intro whole
  have inside : (filteredMessages (fun _ _ => true) exampleDb (uuid "session")
      ⟨none, none, none⟩).length = 51 := by
    decide +kernel
  have last : ((filteredMessages (fun _ _ => true) exampleDb (uuid "session")
      ⟨none, none, none⟩)[50 * 1 - 1]?).map Message.createdAt = some 49 := by
    decide +kernel
  obtain ⟨message, messageEq, createdEq⟩ := Option.map_eq_some_iff.mp last
  have fraction := whole 1 message (by decide) (by rw [inside]; decide) messageEq
  rw [Message.Whole, createdEq] at fraction
  exact absurd fraction (by decide)

end Manbaa.Messages
