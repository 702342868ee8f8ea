import Manbaa.Comments.Approvals
import Manbaa.Lib.Contract
import Manbaa.Rules.Entities
import Mathlib.Logic.Relation

/-!
# Threads of comments

A comment belongs to a workflow and may answer another comment.  It is written in one statement,
after the workflow or the comment that it answers has been read in others; every later change
overwrites the row that was read earlier, and nothing is locked.

What a comment is made with it keeps; what it says, who has resolved it and whom it is assigned to
can be the work of different calls.
-/

namespace Manbaa.Comments

open Manbaa.Lib

/-! ## Rows -/

/-- `CommentType`. -/
inductive CommentType where
  | question
  | correction
  | approval
  | suggestion
  | escalation
  deriving DecidableEq

/-- The text of a type. -/
def CommentType.text : CommentType → String
  | .question => "question"
  | .correction => "correction"
  | .approval => "approval"
  | .suggestion => "suggestion"
  | .escalation => "escalation"

/-- A row of `comment`. -/
structure Comment where
  id : Uuid
  workflowId : Uuid
  elementId : Option String
  authorId : Uuid
  type : CommentType
  content : String
  resolved : Bool
  resolvedAt : Option Nat
  resolvedBy : Option Uuid
  resolutionNote : Option String
  parentId : Option Uuid
  assignedTo : Option Uuid
  createdAt : Nat
  deriving DecidableEq

/-- A row of `user`, as far as it says whose it is. -/
structure User where
  id : Uuid
  orgId : Uuid
  deriving DecidableEq

/-- What is logged about a comment. -/
structure CommentLog where
  workflowId : Uuid
  actorId : Uuid
  eventType : String
  elementId : Option String
  beforeState : Option Json
  afterState : Option Json
  deriving DecidableEq

/-- The tables that say what belongs to whom. -/
structure Tenants where
  workflows : List Workflow
  users : List User
  deriving DecidableEq

/-- The tables, and the time. -/
structure CommentDb extends Tenants where
  comments : List Comment
  auditLogs : List CommentLog
  now : Nat
  deriving DecidableEq

/-- The row of a workflow of an organization. -/
def Tenants.workflow? (tenants : Tenants) (workflowId orgId : Uuid) : Option Workflow :=
  tenants.workflows.find? fun workflow => workflow.id == workflowId && workflow.orgId == orgId

/-- The row of a user of an organization. -/
def Tenants.user? (tenants : Tenants) (userId orgId : Uuid) : Option User :=
  tenants.users.find? fun user => user.id == userId && user.orgId == orgId

/-- The row of a comment. -/
def CommentDb.comment? (db : CommentDb) (commentId : Uuid) : Option Comment :=
  Table.get? Comment.id db.comments commentId

/-! ## Calls -/

/-- A method, statement by statement. -/
abbrev CommentMethod := Program CommentDb Exception

/-- `logUserAudit`. -/
def logUserAudit (entry : CommentLog) : CommentMethod Unit :=
  Program.write fun db => .ok ((), { db with auditLogs := db.auditLogs ++ [entry] })

/-- Insert a comment, with the time of the database; its key must be new. -/
def insertComment (comment : Comment) : CommentMethod Comment :=
  Program.write fun db =>
    if (db.comment? comment.id).isSome then
      .error (.queryFailed (.uniqueViolation "comment_pkey"))
    else
      .ok ({ comment with createdAt := db.now },
        { db with comments := db.comments ++ [{ comment with createdAt := db.now }] })

/-- Save a comment that was read. -/
def saveComment (comment : Comment) : CommentMethod Comment :=
  Program.write fun db =>
    .ok (comment, { db with comments := Table.save Comment.id db.comments comment })

/-- `canUserCreateComment`. -/
def canUserCreateComment (role : String) : Bool :=
  role == UserRole.reviewer.text || role == UserRole.businessAnalyst.text ||
    role == UserRole.processOwner.text || role == UserRole.admin.text

/-- `findCommentWithWorkflow`. -/
def findCommentWithWorkflow (commentId orgId : Uuid) : CommentMethod Comment := do
  let comment ← Program.ask fun db => lookUp (db.comment? commentId) (.notFound "Comment not found")
  let _ ← Program.ask fun db =>
    lookUp (db.workflow? comment.workflowId orgId) (.notFound "Comment not found in organization")
  pure comment

/-- `CreateCommentDto`. -/
structure CreateCommentDto where
  elementId : Option String
  type : CommentType
  content : String
  deriving DecidableEq

/-- A comment as it is made. -/
def newComment (id workflowId authorId : Uuid) (elementId : Option String) (type : CommentType)
    (content : String) (parentId : Option Uuid) : Comment where
  id := id
  workflowId := workflowId
  elementId := elementId
  authorId := authorId
  type := type
  content := content
  resolved := false
  resolvedAt := none
  resolvedBy := none
  resolutionNote := none
  parentId := parentId
  assignedTo := none
  createdAt := 0

/-- `createComment`. -/
def createComment (id workflowId : Uuid) (dto : CreateCommentDto) (author : RequestUser) :
    CommentMethod Comment := do
  let _ ← Program.ask fun db =>
    lookUp (db.workflow? workflowId author.orgId) (.notFound "Workflow not found")
  Program.ensure (canUserCreateComment author.role)
    (.unauthorized "User role cannot create comments")
  let savedComment ← insertComment
    (newComment id workflowId author.id dto.elementId dto.type dto.content none)
  logUserAudit ⟨workflowId, author.id, "COMMENT_CREATED", dto.elementId, none,
    some (.obj [("comment_id", .str savedComment.id.text), ("type", .str dto.type.text)])⟩
  pure savedComment

/-- `createReply`. -/
def createReply (id commentId : Uuid) (content : String) (author : RequestUser) :
    CommentMethod Comment := do
  let parentComment ← findCommentWithWorkflow commentId author.orgId
  Program.ensure (canUserCreateComment author.role)
    (.unauthorized "User role cannot create comments")
  let savedComment ← insertComment (newComment id parentComment.workflowId author.id
    parentComment.elementId parentComment.type content (some parentComment.id))
  logUserAudit ⟨parentComment.workflowId, author.id, "COMMENT_REPLY_CREATED",
    parentComment.elementId, some (.obj [("parent_comment_id", .str parentComment.id.text)]),
    some (.obj [("reply_id", .str savedComment.id.text)])⟩
  pure savedComment

/-- `updateComment`. -/
def updateComment (commentId : Uuid) (content : String) (user : RequestUser) :
    CommentMethod Comment := do
  let comment ← findCommentWithWorkflow commentId user.orgId
  Program.ensure (comment.authorId = user.id || user.role == UserRole.admin.text)
    (.forbidden "Only comment author or admin can edit")
  let savedComment ← saveComment { comment with content }
  logUserAudit ⟨comment.workflowId, user.id, "COMMENT_UPDATED", comment.elementId,
    some (.obj [("content", .str comment.content)]), some (.obj [("content", .str content)])⟩
  pure savedComment

/-- A comment that is resolved. -/
def Comment.resolve (comment : Comment) (userId : Uuid) (now : Nat) (note : String) : Comment :=
  { comment with
    resolved := true
    resolvedAt := some now
    resolvedBy := some userId
    resolutionNote := some note }

/-- `deleteComment`. -/
def deleteComment (commentId : Uuid) (user : RequestUser) : CommentMethod Unit := do
  let comment ← findCommentWithWorkflow commentId user.orgId
  Program.ensure (comment.authorId = user.id || user.role == UserRole.admin.text)
    (.forbidden "Only comment author or admin can delete")
  let now ← Program.query CommentDb.now
  let _ ← saveComment (comment.resolve user.id now "deleted")
  logUserAudit ⟨comment.workflowId, user.id, "COMMENT_DELETED", comment.elementId, none, none⟩

/-- `resolveComment`. -/
def resolveComment (commentId : Uuid) (resolutionNote : String) (user : RequestUser) :
    CommentMethod Comment := do
  let comment ← findCommentWithWorkflow commentId user.orgId
  Program.ensure (resolutionNote != "" && Rules.trim resolutionNote != "")
    (.forbidden "Resolution note is required")
  let now ← Program.query CommentDb.now
  let savedComment ← saveComment (comment.resolve user.id now resolutionNote)
  logUserAudit ⟨comment.workflowId, user.id, "COMMENT_RESOLVED", comment.elementId,
    some (.obj [("resolved", .bool false)]),
    some (.obj [("resolved", .bool true), ("resolution_note", .str resolutionNote)])⟩
  pure savedComment

/-- `assignComment`. -/
def assignComment (commentId assigneeId : Uuid) (user : RequestUser) : CommentMethod Comment := do
  let comment ← findCommentWithWorkflow commentId user.orgId
  Program.ensure (comment.authorId = user.id || user.role == UserRole.admin.text ||
      user.role == UserRole.processOwner.text)
    (.forbidden "Only comment author, admin, or process owner can assign")
  let _ ← Program.ask fun db =>
    lookUp (db.user? assigneeId user.orgId) (.notFound "Assignee not found in organization")
  let savedComment ← saveComment { comment with assignedTo := some assigneeId }
  logUserAudit ⟨comment.workflowId, user.id, "COMMENT_ASSIGNED", comment.elementId,
    some (.obj [("assigned_to", .null)]), some (.obj [("assigned_to", .str assigneeId.text)])⟩
  pure savedComment

/-- Time passes, or a method is called. -/
inductive CommentRequest where
  | wait (elapsed : Nat)
  | create (id workflowId : Uuid) (dto : CreateCommentDto) (user : RequestUser)
  | reply (id commentId : Uuid) (content : String) (user : RequestUser)
  | update (commentId : Uuid) (content : String) (user : RequestUser)
  | delete (commentId : Uuid) (user : RequestUser)
  | resolve (commentId : Uuid) (resolutionNote : String) (user : RequestUser)
  | assign (commentId assigneeId : Uuid) (user : RequestUser)
  deriving DecidableEq

/-- How a request is answered. -/
def CommentRequest.answer : CommentRequest → CommentMethod (Option Comment)
  | .wait elapsed => do
      Program.write fun db => .ok ((), { db with now := db.now + elapsed })
      pure none
  | .create id workflowId dto user => do
      let comment ← createComment id workflowId dto user
      pure (some comment)
  | .reply id commentId content user => do
      let comment ← createReply id commentId content user
      pure (some comment)
  | .update commentId content user => do
      let comment ← updateComment commentId content user
      pure (some comment)
  | .delete commentId user => do
      deleteComment commentId user
      pure none
  | .resolve commentId resolutionNote user => do
      let comment ← resolveComment commentId resolutionNote user
      pure (some comment)
  | .assign commentId assigneeId user => do
      let comment ← assignComment commentId assigneeId user
      pure (some comment)

/-! ## Threads -/

/-- What a comment is made with. -/
structure Origin where
  id : Uuid
  workflowId : Uuid
  elementId : Option String
  authorId : Uuid
  type : CommentType
  parentId : Option Uuid
  createdAt : Nat
  deriving DecidableEq

/-- What a comment was made with. -/
def Comment.origin (comment : Comment) : Origin where
  id := comment.id
  workflowId := comment.workflowId
  elementId := comment.elementId
  authorId := comment.authorId
  type := comment.type
  parentId := comment.parentId
  createdAt := comment.createdAt

/-- A reply is about what the comment is about that it answers. -/
structure Answered (reply parent : Origin) : Prop where
  isParent : reply.parentId = some parent.id
  sameWorkflow : reply.workflowId = parent.workflowId
  sameElement : reply.elementId = parent.elementId
  sameType : reply.type = parent.type

/-- Every reply answers an earlier comment. -/
def Threaded (origins : List Origin) : Prop :=
  ∀ (i : Nat) origin, origins[i]? = some origin → origin.parentId.isSome = true →
    ∃ j < i, ∃ parent, origins[j]? = some parent ∧ Answered origin parent

/-- One comment is the parent of another one. -/
def IsReply (comments : List Comment) (reply parent : Comment) : Prop :=
  reply ∈ comments ∧ parent ∈ comments ∧ reply.parentId = some parent.id

section Threads

variable {origins : List Origin} {comments : List Comment} {comment reply parent : Comment}
  {origin : Origin}

theorem threaded_nil : Threaded [] := by
  intro i origin found
  cases found

/-- A comment that answers one of the others comes after them. -/
theorem Threaded.append (threaded : Threaded origins)
    (answers : origin.parentId.isSome = true → ∃ parent ∈ origins, Answered origin parent) :
    Threaded (origins ++ [origin]) := by
  intro i other found isReply
  rw [List.getElem?_append] at found
  split at found
  · obtain ⟨j, before, parent, parentEq, answered⟩ := threaded i other found isReply
    refine ⟨j, before, parent, ?_, answered⟩
    rw [List.getElem?_append_left (Nat.lt_trans before ‹_›)]
    exact parentEq
  · rename_i notOld
    have same : other = origin := List.mem_singleton.mp (List.mem_of_getElem? found)
    subst same
    obtain ⟨parent, parentMem, answered⟩ := answers isReply
    obtain ⟨j, parentEq⟩ := List.mem_iff_getElem?.mp parentMem
    obtain ⟨bound, _⟩ := List.getElem?_eq_some_iff.mp parentEq
    refine ⟨j, Nat.lt_of_lt_of_le bound (Nat.not_lt.mp notOld), parent, ?_, answered⟩
    rw [List.getElem?_append_left bound]
    exact parentEq

/-- The parent of a comment stands before it, and is about the same. -/
theorem IsReply.before (keyed : Table.Keyed Comment.id comments)
    (threaded : Threaded (comments.map Comment.origin)) (isReply : IsReply comments reply parent)
    {i : Nat} (found : comments[i]? = some reply) :
    (∃ j < i, comments[j]? = some parent) ∧ Answered reply.origin parent.origin := by
  obtain ⟨_, parentMem, parentEq⟩ := isReply
  have mapped : (comments.map Comment.origin)[i]? = some reply.origin := by
    rw [List.getElem?_map, found]
    rfl
  obtain ⟨j, before, origin, originEq, answered⟩ := threaded i _ mapped (by
    rw [Comment.origin, parentEq]
    rfl)
  rw [List.getElem?_map] at originEq
  obtain ⟨other, otherEq, rfl⟩ := Option.map_eq_some_iff.mp originEq
  have sameId : other.id = parent.id :=
    Option.some.inj (answered.isParent.symm.trans parentEq)
  have same : other = parent := keyed.eq (List.mem_of_getElem? otherEq) parentMem sameId
  subst same
  exact ⟨⟨j, before, otherEq⟩, answered⟩

/-- Who answers whom never leads back, and leaves neither the workflow nor the element nor the
type. -/
theorem ancestor_ne (keyed : Table.Keyed Comment.id comments)
    (threaded : Threaded (comments.map Comment.origin))
    (above : Relation.TransGen (IsReply comments) reply parent) :
    reply.id ≠ parent.id ∧ reply.workflowId = parent.workflowId ∧
      reply.elementId = parent.elementId ∧ reply.type = parent.type := by
  have climbs : ∀ i : Nat, comments[i]? = some reply →
      (∃ j < i, comments[j]? = some parent) ∧ reply.workflowId = parent.workflowId ∧
        reply.elementId = parent.elementId ∧ reply.type = parent.type := by
    intro i found
    induction above with
    | single isReply =>
        obtain ⟨before, answered⟩ := isReply.before keyed threaded found
        exact ⟨before, answered.sameWorkflow, answered.sameElement, answered.sameType⟩
    | tail _ isReply ih =>
        obtain ⟨⟨j, before, middleEq⟩, sameWorkflow, sameElement, sameType⟩ := ih
        obtain ⟨⟨k, lower, parentEq⟩, answered⟩ := isReply.before keyed threaded middleEq
        exact ⟨⟨k, Nat.lt_trans lower before, parentEq⟩,
          sameWorkflow.trans answered.sameWorkflow, sameElement.trans answered.sameElement,
          sameType.trans answered.sameType⟩
  obtain ⟨_, first, _⟩ := Relation.TransGen.head'_iff.mp above
  obtain ⟨i, found⟩ := List.mem_iff_getElem?.mp first.1
  obtain ⟨⟨j, before, parentEq⟩, about⟩ := climbs i found
  refine ⟨?_, about⟩
  intro sameId
  have same : reply = parent := keyed.eq first.1 (List.mem_of_getElem? parentEq) sameId
  obtain ⟨bound, _⟩ := List.getElem?_eq_some_iff.mp found
  have sameIndex : i = j :=
    (List.getElem?_inj bound keyed.nodup).mp (by rw [found, parentEq, same])
  exact Nat.lt_irrefl j (sameIndex ▸ before)

end Threads

/-! ## Who has done what -/

/-- The workflow of a comment belongs to the organization of a user. -/
def Tenants.InOrg (tenants : Tenants) (origin : Origin) (user : RequestUser) : Prop :=
  (tenants.workflow? origin.workflowId user.orgId).isSome = true

/-- The user has written the comment, or is an administrator. -/
def Origin.MayEdit (origin : Origin) (user : RequestUser) : Prop :=
  origin.authorId = user.id ∨ user.role = UserRole.admin.text

/-- The request makes the comment. -/
def CommentRequest.Makes (request : CommentRequest) (tenants : Tenants) (origin : Origin) : Prop :=
  match request with
  | .create id workflowId dto user =>
      origin.id = id ∧ origin.workflowId = workflowId ∧ origin.elementId = dto.elementId ∧
        origin.type = dto.type ∧ origin.parentId = none ∧ origin.authorId = user.id ∧
        canUserCreateComment user.role = true ∧ tenants.InOrg origin user
  | .reply id commentId _ user =>
      origin.id = id ∧ origin.parentId = some commentId ∧ origin.authorId = user.id ∧
        canUserCreateComment user.role = true ∧ tenants.InOrg origin user
  | _ => False

/-- The request writes what the comment says. -/
def CommentRequest.Writes (request : CommentRequest) (tenants : Tenants) (origin : Origin)
    (content : String) : Prop :=
  match request with
  | .create id _ dto _ => origin.id = id ∧ content = dto.content
  | .reply id _ written _ => origin.id = id ∧ content = written
  | .update commentId written user =>
      origin.id = commentId ∧ content = written ∧ origin.MayEdit user ∧ tenants.InOrg origin user
  | _ => False

/-- The request resolves the comment, by its user and with its note. -/
def CommentRequest.Resolves (request : CommentRequest) (tenants : Tenants) (origin : Origin)
    (resolvedBy : Option Uuid) (note : Option String) : Prop :=
  match request with
  | .delete commentId user =>
      origin.id = commentId ∧ resolvedBy = some user.id ∧ note = some "deleted" ∧
        origin.MayEdit user ∧ tenants.InOrg origin user
  | .resolve commentId resolutionNote user =>
      origin.id = commentId ∧ resolvedBy = some user.id ∧ note = some resolutionNote ∧
        Rules.trim resolutionNote ≠ "" ∧ tenants.InOrg origin user
  | _ => False

/-- The request assigns the comment to a user of its organization. -/
def CommentRequest.Assigns (request : CommentRequest) (tenants : Tenants) (origin : Origin)
    (assignedTo : Option Uuid) : Prop :=
  match request with
  | .assign commentId assigneeId user =>
      origin.id = commentId ∧ assignedTo = some assigneeId ∧
        (origin.MayEdit user ∨ user.role = UserRole.processOwner.text) ∧
        tenants.InOrg origin user ∧ (tenants.user? assigneeId user.orgId).isSome = true
  | _ => False

/-- Whatever a comment holds, a request that was made accounts for: one has made it, one has
written what it says, and if it is resolved or assigned one has done that. -/
structure Accountable (asked : CommentRequest → Prop) (tenants : Tenants) (comment : Comment) :
    Prop where
  made : ∃ request, asked request ∧ request.Makes tenants comment.origin
  written : ∃ request, asked request ∧ request.Writes tenants comment.origin comment.content
  resolved : comment.resolved = false ∧ comment.resolvedAt = none ∧ comment.resolvedBy = none ∧
      comment.resolutionNote = none ∨
    comment.resolved = true ∧ comment.resolvedAt.isSome = true ∧ ∃ request, asked request ∧
      request.Resolves tenants comment.origin comment.resolvedBy comment.resolutionNote
  assigned : comment.assignedTo = none ∨ ∃ request, asked request ∧
    request.Assigns tenants comment.origin comment.assignedTo

/-- The comments form threads, and each is accounted for. -/
structure CommentsValid (asked : CommentRequest → Prop) (db : CommentDb) : Prop where
  keyed : Table.Keyed Comment.id db.comments
  threaded : Threaded (db.comments.map Comment.origin)
  accountable : ∀ comment ∈ db.comments, Accountable asked db.toTenants comment

/-- Comments are added after the ones that are there, which keep what they were made with. -/
structure CommentDb.Grows (db target : CommentDb) : Prop where
  tenants : target.toTenants = db.toTenants
  origins : db.comments.map Comment.origin <+: target.comments.map Comment.origin

theorem CommentDb.grows_refl (db : CommentDb) : db.Grows db :=
  ⟨rfl, List.prefix_rfl⟩

theorem CommentDb.Grows.trans {first second third : CommentDb} (before : first.Grows second)
    (after : second.Grows third) : first.Grows third :=
  ⟨after.tenants.trans before.tenants, before.origins.trans after.origins⟩

/-- What calls agree on. -/
def commentContract (asked : CommentRequest → Prop) : Program.Contract CommentDb where
  valid := CommentsValid asked
  grows := CommentDb.Grows
  refl := CommentDb.grows_refl
  trans := CommentDb.Grows.trans

/-- What a call knows of a comment that it has read, however old what it has read is. -/
structure Known (asked : CommentRequest → Prop) (db : CommentDb) (comment : Comment) : Prop where
  accountable : Accountable asked db.toTenants comment
  stands : comment.origin ∈ db.comments.map Comment.origin

section Calls

variable {asked : CommentRequest → Prop} {db target seen : CommentDb} {comment row : Comment}
  {user : RequestUser} {id commentId : Uuid} {α : Type}
  {right : α → CommentDb → Prop}

theorem Known.later (known : Known asked db comment) (grown : db.Grows target) :
    Known asked target comment :=
  ⟨grown.tenants ▸ known.accountable, grown.origins.mem known.stands⟩

/-- A comment that was read may be saved, with what a request accounts for. -/
theorem CommentsValid.save (valid : CommentsValid asked db) (known : Known asked db row) :
    CommentsValid asked { db with comments := Table.save Comment.id db.comments row } ∧
      db.Grows { db with comments := Table.save Comment.id db.comments row } := by
  obtain ⟨current, currentMem, sameOrigin⟩ := List.mem_map.mp known.stands
  have sameId : current.id = row.id := congrArg Origin.id sameOrigin
  have found : Table.get? Comment.id db.comments row.id = some current :=
    sameId ▸ valid.keyed.get?_of_mem currentMem
  have sameOrigins : (Table.save Comment.id db.comments row).map Comment.origin =
      db.comments.map Comment.origin := by
    rw [Table.save_of_get?_eq_some found]
    apply Table.map_put_of_eq
    intro old oldMem oldId
    rw [valid.keyed.eq oldMem currentMem (oldId.trans sameId.symm), sameOrigin]
  refine ⟨⟨Table.keyed_save valid.keyed, ?_, ?_⟩, ⟨rfl, ?_⟩⟩
  · change Threaded ((Table.save Comment.id db.comments row).map Comment.origin)
    rw [sameOrigins]
    exact valid.threaded
  · intro other otherMem
    rcases Table.mem_save_iff.mp otherMem with rfl | ⟨old, _⟩
    · exact known.accountable
    · exact valid.accountable other old
  · exact sameOrigins ▸ List.prefix_rfl

/-- A new comment may be inserted, that answers none or one that is there. -/
theorem CommentsValid.insert (valid : CommentsValid asked db)
    (fresh : db.comment? row.id = none) (accountable : Accountable asked db.toTenants row)
    (answers : row.parentId.isSome = true →
      ∃ parent ∈ db.comments.map Comment.origin, Answered row.origin parent) :
    CommentsValid asked { db with comments := db.comments ++ [row] } ∧
      db.Grows { db with comments := db.comments ++ [row] } := by
  have originsEq : (db.comments ++ [row]).map Comment.origin =
      db.comments.map Comment.origin ++ [row.origin] := List.map_append
  refine ⟨⟨Table.keyed_append valid.keyed fresh, ?_, ?_⟩, ⟨rfl, ?_⟩⟩
  · change Threaded ((db.comments ++ [row]).map Comment.origin)
    rw [originsEq]
    exact valid.threaded.append answers
  · intro other otherMem
    rcases List.mem_append.mp otherMem with old | new
    · exact valid.accountable other old
    · rw [List.mem_singleton.mp new]
      exact accountable
  · exact ⟨[row.origin], originsEq.symm⟩

theorem findCommentWithWorkflow_safe :
    (findCommentWithWorkflow commentId user.orgId).Safe (commentContract asked)
      (fun comment db => comment.id = commentId ∧ Known asked db comment ∧
        db.InOrg comment.origin user) seen := by
  apply Program.safe_ask_bind
  intro found comment valid _ readEq
  have commentEq := lookUp_eq_ok_iff.mp readEq
  have commentMem := Table.mem_of_get? commentEq
  have known : Known asked found comment :=
    ⟨valid.accountable comment commentMem, List.mem_map_of_mem commentMem⟩
  apply Program.safe_ask_bind
  intro checked workflow _ since workflowEq
  have inOrg : checked.InOrg comment.origin user :=
    Option.isSome_of_eq_some (lookUp_eq_ok_iff.mp workflowEq)
  apply Program.safe_pure
  intro later _ onwards
  refine ⟨Table.key_of_get? commentEq, known.later (CommentDb.Grows.trans since onwards), ?_⟩
  rw [Tenants.InOrg, onwards.tenants]
  exact inOrg

theorem safe_log_bind {entry : CommentLog} {rest : Unit → CommentMethod α}
    (goesOn : ∀ found, (rest ()).Safe (commentContract asked) right found) :
    (logUserAudit entry >>= rest).Safe (commentContract asked) right seen := by
  apply Program.safe_write_bind
  rintro found _ _ valid _ ⟨⟩
  exact ⟨⟨⟨valid.keyed, valid.threaded, valid.accountable⟩, ⟨rfl, List.prefix_rfl⟩⟩, goesOn _⟩

theorem safe_save_bind {rest : Comment → CommentMethod α} (known : Known asked seen row)
    (goesOn : ∀ found, (rest row).Safe (commentContract asked) right found) :
    (saveComment row >>= rest).Safe (commentContract asked) right seen := by
  apply Program.safe_write_bind
  rintro found _ _ valid since ⟨⟩
  exact ⟨CommentsValid.save valid (known.later since), goesOn _⟩

/-- Insert a comment that the request accounts for, log it, and return it. -/
theorem insert_safe {entry : Comment → CommentLog}
    (accountable : ∀ createdAt, Accountable asked seen.toTenants { row with createdAt })
    (answers : row.parentId.isSome = true → ∀ createdAt,
      ∃ parent ∈ seen.comments.map Comment.origin,
        Answered (Comment.origin { row with createdAt }) parent) :
    Program.Safe (commentContract asked) (fun _ _ => True) seen (do
      let savedComment ← insertComment row
      logUserAudit (entry savedComment)
      pure savedComment) := by
  apply Program.safe_write_bind
  intro found saved changed valid since changeEq
  split at changeEq
  · cases changeEq
  · rename_i fresh
    cases changeEq
    refine ⟨CommentsValid.insert valid ?_ (since.tenants ▸ accountable found.now) ?_, ?_⟩
    · exact Option.not_isSome_iff_eq_none.mp fresh
    · intro isReply
      obtain ⟨parent, parentMem, answered⟩ := answers isReply found.now
      exact ⟨parent, since.origins.mem parentMem, answered⟩
    · exact safe_log_bind fun _ => Program.safe_pure fun _ _ _ => trivial

/-- Save a comment that was read, log it, and return it. -/
theorem save_safe {entry : CommentLog} (known : Known asked seen row) :
    Program.Safe (commentContract asked) (fun _ _ => True) seen (do
      let savedComment ← saveComment row
      logUserAudit entry
      pure savedComment) :=
  safe_save_bind known fun _ => safe_log_bind fun _ => Program.safe_pure fun _ _ _ => trivial

theorem createComment_safe {workflowId : Uuid} {dto : CreateCommentDto}
    (isAsked : asked (.create id workflowId dto user)) :
    (createComment id workflowId dto user).Safe (commentContract asked) (fun _ _ => True) seen := by
  apply Program.safe_ask_bind
  intro found workflow _ _ workflowEq
  have inOrg : (found.workflow? workflowId user.orgId).isSome = true :=
    Option.isSome_of_eq_some (lookUp_eq_ok_iff.mp workflowEq)
  apply Program.safe_ensure_bind
  intro mayCreate
  apply insert_safe
  · intro createdAt
    exact ⟨⟨_, isAsked, rfl, rfl, rfl, rfl, rfl, rfl, mayCreate, inOrg⟩, ⟨_, isAsked, rfl, rfl⟩,
      Or.inl ⟨rfl, rfl, rfl, rfl⟩, Or.inl rfl⟩
  · exact nofun

theorem createReply_safe {content : String} (isAsked : asked (.reply id commentId content user))
    (valid : CommentsValid asked seen) :
    (createReply id commentId content user).Safe (commentContract asked) (fun _ _ => True) seen := by
  refine findCommentWithWorkflow_safe.bind valid ?_
  rintro parentComment found _ _ ⟨isIt, known, inOrg⟩
  apply Program.safe_ensure_bind
  intro mayCreate
  apply insert_safe
  · intro createdAt
    exact ⟨⟨_, isAsked, rfl, congrArg some isIt, rfl, mayCreate, inOrg⟩, ⟨_, isAsked, rfl, rfl⟩,
      Or.inl ⟨rfl, rfl, rfl, rfl⟩, Or.inl rfl⟩
  · intro _ createdAt
    exact ⟨parentComment.origin, known.stands, rfl, rfl, rfl, rfl⟩

theorem mayEdit_of_ensured (ensured :
    (decide (comment.authorId = user.id) || user.role == UserRole.admin.text) = true) :
    comment.origin.MayEdit user := by
  rcases Bool.or_eq_true_iff.mp ensured with author | admin
  · exact Or.inl (of_decide_eq_true author)
  · exact Or.inr (beq_iff_eq.mp admin)

theorem updateComment_safe {content : String} (isAsked : asked (.update commentId content user))
    (valid : CommentsValid asked seen) :
    (updateComment commentId content user).Safe (commentContract asked) (fun _ _ => True) seen := by
  refine findCommentWithWorkflow_safe.bind valid ?_
  rintro comment found _ _ ⟨isIt, known, inOrg⟩
  apply Program.safe_ensure_bind
  intro mayEdit
  apply save_safe
  exact ⟨{ known.accountable with
    written := ⟨_, isAsked, isIt, rfl, mayEdit_of_ensured mayEdit, inOrg⟩ }, known.stands⟩

/-- A comment that was read may be saved as resolved. -/
theorem Known.resolve (known : Known asked db comment) {request : CommentRequest}
    (isAsked : asked request) {note : String} (now : Nat)
    (resolves : request.Resolves db.toTenants comment.origin (some user.id) (some note)) :
    Known asked db (comment.resolve user.id now note) :=
  ⟨{ known.accountable with
    resolved := Or.inr ⟨rfl, rfl, request, isAsked, resolves⟩ }, known.stands⟩

theorem deleteComment_safe (isAsked : asked (.delete commentId user))
    (valid : CommentsValid asked seen) :
    (deleteComment commentId user).Safe (commentContract asked) (fun _ _ => True) seen := by
  refine findCommentWithWorkflow_safe.bind valid ?_
  rintro comment found _ _ ⟨isIt, known, inOrg⟩
  apply Program.safe_ensure_bind
  intro mayEdit
  apply Program.safe_query_bind
  intro reader _ since
  apply safe_save_bind
  · refine Known.later (known.resolve isAsked reader.now ?_) since
    exact ⟨isIt, rfl, rfl, mayEdit_of_ensured mayEdit, inOrg⟩
  · intro _
    apply Program.safe_write
    rintro logged _ _ loggedValid _ ⟨⟩
    exact ⟨⟨⟨loggedValid.keyed, loggedValid.threaded, loggedValid.accountable⟩,
      ⟨rfl, List.prefix_rfl⟩⟩, fun _ _ _ => trivial⟩

theorem resolveComment_safe {resolutionNote : String}
    (isAsked : asked (.resolve commentId resolutionNote user)) (valid : CommentsValid asked seen) :
    (resolveComment commentId resolutionNote user).Safe (commentContract asked) (fun _ _ => True)
      seen := by
  refine findCommentWithWorkflow_safe.bind valid ?_
  rintro comment found _ _ ⟨isIt, known, inOrg⟩
  apply Program.safe_ensure_bind
  intro isNoted
  apply Program.safe_query_bind
  intro reader _ since
  apply save_safe
  refine Known.later (known.resolve isAsked reader.now ?_) since
  exact ⟨isIt, rfl, rfl, bne_iff_ne.mp (Bool.and_eq_true_iff.mp isNoted).2, inOrg⟩

theorem assignComment_safe {assigneeId : Uuid} (isAsked : asked (.assign commentId assigneeId user))
    (valid : CommentsValid asked seen) :
    (assignComment commentId assigneeId user).Safe (commentContract asked) (fun _ _ => True)
      seen := by
  refine findCommentWithWorkflow_safe.bind valid ?_
  rintro comment found _ _ ⟨isIt, known, inOrg⟩
  apply Program.safe_ensure_bind
  intro mayAssign
  apply Program.safe_ask_bind
  intro reader assignee _ since assigneeEq
  have inSameOrg : reader.InOrg comment.origin user := by
    rw [Tenants.InOrg, since.tenants]
    exact inOrg
  apply save_safe
  refine ⟨{ (known.later since).accountable with
    assigned := Or.inr ⟨_, isAsked, isIt, rfl, ?_, inSameOrg, ?_⟩ }, (known.later since).stands⟩
  · rcases Bool.or_eq_true_iff.mp mayAssign with mayEdit | owner
    · exact Or.inl (mayEdit_of_ensured mayEdit)
    · exact Or.inr (beq_iff_eq.mp owner)
  · exact Option.isSome_of_eq_some (lookUp_eq_ok_iff.mp assigneeEq)

/-- Every request is answered by the contract. -/
theorem answer_safe {request : CommentRequest} (isAsked : asked request)
    (valid : CommentsValid asked seen) :
    request.answer.Safe (commentContract asked) (fun _ _ => True) seen := by
  have returns : ∀ comment? : Option Comment, ∀ found, (pure comment? : CommentMethod _).Safe
      (commentContract asked) (fun _ _ => True) found :=
    fun _ _ => Program.safe_pure fun _ _ _ => trivial
  cases request with
  | wait elapsed =>
      apply Program.safe_write_bind
      rintro found _ _ foundValid _ ⟨⟩
      exact ⟨⟨⟨foundValid.keyed, foundValid.threaded, foundValid.accountable⟩,
        ⟨rfl, List.prefix_rfl⟩⟩, returns _ _⟩
  | create id workflowId dto user =>
      exact (createComment_safe isAsked).bind valid fun _ _ _ _ _ => returns _ _
  | reply id commentId content user =>
      exact (createReply_safe isAsked valid).bind valid fun _ _ _ _ _ => returns _ _
  | update commentId content user =>
      exact (updateComment_safe isAsked valid).bind valid fun _ _ _ _ _ => returns _ _
  | delete commentId user =>
      exact (deleteComment_safe isAsked valid).bind valid fun _ _ _ _ _ => returns _ _
  | resolve commentId resolutionNote user =>
      exact (resolveComment_safe isAsked valid).bind valid fun _ _ _ _ _ => returns _ _
  | assign commentId assigneeId user =>
      exact (assignComment_safe isAsked valid).bind valid fun _ _ _ _ _ => returns _ _

end Calls

/-! ## Runs -/

section Runs

variable {state middle reached : Sessions.State CommentDb (CommentMethod (Option Comment))}
  {actions more : List (Sessions.Action CommentRequest Unit)}

/-- Where a run has led, from where no comment was. -/
theorem comments_kept {asked : CommentRequest → Prop} (idle : state.sessions = [])
    (empty : state.store.comments = []) (isAsked : ∀ request, .start request ∈ actions →
      asked request)
    (runEq : (Program.beside CommentRequest.answer).step.run state actions = some reached) :
    Program.AllSafe (commentContract asked) asked (fun _ _ _ => True) reached := by
  have valid : CommentsValid asked state.store := by
    constructor
    all_goals rw [empty]
    · exact Table.keyed_nil
    · exact threaded_nil
    · exact fun _ commentMem => absurd commentMem List.not_mem_nil
  have start : Program.AllSafe (commentContract asked) asked
      (fun _ (_ : Option Comment) _ => True) state :=
    Program.allSafe_of_idle idle valid
  exact (start.run (fun _ requested _ => answer_safe requested) isAsked runEq).1

/-- **Threads only grow.**  However calls run beside each other, the comments that are there keep
what they were made with, in their order, and every reply has its parent among the comments before
it; so no comment is above itself in a thread, and a thread is about one workflow, one element and
one type. -/
theorem threads_only_grow (idle : state.sessions = []) (empty : state.store.comments = [])
    (runEq : (Program.beside CommentRequest.answer).step.run state actions = some middle)
    (onwards : (Program.beside CommentRequest.answer).step.run middle more = some reached) :
    middle.store.comments.map Comment.origin <+: reached.store.comments.map Comment.origin ∧
    (∀ reply ∈ reached.store.comments, reply.parentId.isSome = true →
      ∃ parent, IsReply reached.store.comments reply parent) ∧
    ∀ reply ancestor, Relation.TransGen (IsReply reached.store.comments) reply ancestor →
      reply.id ≠ ancestor.id ∧ reply.workflowId = ancestor.workflowId ∧
        reply.elementId = ancestor.elementId ∧ reply.type = ancestor.type := by
  let asked : CommentRequest → Prop := fun request => .start request ∈ actions ++ more
  have before : ∀ request, .start request ∈ actions → asked request :=
    fun _ requested => List.mem_append_left more requested
  have after : ∀ request, .start request ∈ more → asked request :=
    fun _ requested => List.mem_append_right actions requested
  have kept : Program.AllSafe (commentContract asked) asked (fun _ _ _ => True) middle :=
    comments_kept idle empty before runEq
  obtain ⟨later, grown⟩ := kept.run (fun _ requested _ => answer_safe requested) after onwards
  have valid : CommentsValid asked reached.store := later.valid
  refine ⟨CommentDb.Grows.origins grown, ?_, fun _ _ => ancestor_ne valid.keyed valid.threaded⟩
  intro reply replyMem isReply
  obtain ⟨i, found⟩ := List.mem_iff_getElem?.mp replyMem
  have mapped : (reached.store.comments.map Comment.origin)[i]? = some reply.origin := by
    rw [List.getElem?_map, found]
    rfl
  obtain ⟨j, _, origin, originEq, answered⟩ := valid.threaded i _ mapped isReply
  rw [List.getElem?_map] at originEq
  obtain ⟨parent, parentEq, rfl⟩ := Option.map_eq_some_iff.mp originEq
  exact ⟨parent, replyMem, List.mem_of_getElem? parentEq, answered.isParent⟩

/-- **Every comment is accounted for.**  However calls run beside each other and overwrite what
others have written, one request that was made accounts for each part of a comment: for the comment
itself, by an author of the organization of its workflow whose role may comment; for what it says,
by its author or an administrator; for how it is resolved, with a note; and for whom it is assigned
to, in the same organization. -/
theorem comments_accounted_for (idle : state.sessions = []) (empty : state.store.comments = [])
    (runEq : (Program.beside CommentRequest.answer).step.run state actions = some reached) :
    ∀ comment ∈ reached.store.comments,
      Accountable (fun request => .start request ∈ actions) reached.store.toTenants comment := by
  have kept : Program.AllSafe (commentContract fun request => .start request ∈ actions) _
      (fun _ _ _ => True) reached :=
    comments_kept idle empty (fun _ => id) runEq
  have valid : CommentsValid (fun request => .start request ∈ actions) reached.store := kept.valid
  exact valid.accountable

end Runs

/-! ## Examples -/

/-- An organization with a workflow and an analyst. -/
def exampleTenants : Tenants where
  workflows := [⟨uuid "workflow", uuid "org"⟩]
  users := [⟨uuid "analyst", uuid "org"⟩]

/-- The analyst. -/
def exampleAnalyst : RequestUser := ⟨uuid "analyst", uuid "org", "business_analyst"⟩

/-- No comments yet. -/
def exampleStart : Sessions.State CommentDb (CommentMethod (Option Comment)) :=
  ⟨{ exampleTenants with comments := [], auditLogs := [], now := 0 }, []⟩

/-- A question, and an answer to it. -/
def exampleQuestion : List (Sessions.Action CommentRequest Unit) :=
  .start (.create (uuid "question") (uuid "workflow") ⟨none, .question, "Why?"⟩ exampleAnalyst) ::
    List.replicate 3 (.advance 0 ())

/-- An answer to the question. -/
def exampleReply : List (Sessions.Action CommentRequest Unit) :=
  .start (.reply (uuid "answer") (uuid "question") "Because." exampleAnalyst) ::
    List.replicate 4 (.advance 1 ())

/-- The answer is in the thread of the question. -/
theorem threads_only_grow_example :
    ∃ reached, (Program.beside CommentRequest.answer).step.run exampleStart
        (exampleQuestion ++ exampleReply) = some reached ∧
      reached.store.comments.length = 2 ∧ ∀ reply ∈ reached.store.comments,
        reply.parentId.isSome = true → ∃ parent, IsReply reached.store.comments reply parent := by
  have taken : ((Program.beside CommentRequest.answer).step.run exampleStart
      (exampleQuestion ++ exampleReply)).map (fun reached => reached.store.comments.length) =
        some 2 := by
    decide +kernel
  obtain ⟨reached, runEq, lengthEq⟩ := Option.map_eq_some_iff.mp taken
  have parts := runEq
  rw [Step.run_append] at parts
  obtain ⟨middle, firstEq, restEq⟩ := Option.bind_eq_some_iff.mp parts
  exact ⟨reached, runEq, lengthEq, (threads_only_grow rfl rfl firstEq restEq).2.1⟩

theorem comments_accounted_for_example :
    ∃ reached, (Program.beside CommentRequest.answer).step.run exampleStart exampleQuestion =
        some reached ∧
      reached.store.comments.length = 1 ∧ ∀ comment ∈ reached.store.comments,
        Accountable (fun request => .start request ∈ exampleQuestion) exampleTenants comment := by
  have taken : ((Program.beside CommentRequest.answer).step.run exampleStart
      exampleQuestion).map (fun reached =>
        (reached.store.comments.length, reached.store.toTenants)) = some (1, exampleTenants) := by
    decide +kernel
  obtain ⟨reached, runEq, both⟩ := Option.map_eq_some_iff.mp taken
  obtain ⟨lengthEq, tenantsEq⟩ := Prod.mk.inj both
  exact ⟨reached, runEq, lengthEq, tenantsEq ▸ comments_accounted_for rfl rfl runEq⟩

end Manbaa.Comments
