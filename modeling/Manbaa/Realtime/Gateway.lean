import Manbaa.Core.Http
import Manbaa.Lib.Except
import Manbaa.Lib.Json
import Manbaa.Lib.Run

/-!
# The realtime gateway

Sockets ask to join rooms, and a guard decides from the tables who may.  The answer of the guard
is awaited, so that other messages may arrive before the socket enters the room.  The positions
of cursors are sent on to the room of a canvas.

One process is modelled: `rooms` is what its adapter holds.
-/

namespace Manbaa.Realtime

open Manbaa.Lib

/-! ## Tables -/

/-- A row of `canvas`, as far as the guard reads it. -/
structure Canvas where
  id : Uuid
  workflowId : Uuid
  deriving DecidableEq

/-- A row of `session`, as far as the guard reads it. -/
structure Session where
  id : Uuid
  workflowId : Uuid
  deriving DecidableEq

/-- A row of `workflow`, as far as the guard reads it. -/
structure Workflow where
  id : Uuid
  orgId : Uuid
  deriving DecidableEq

/-- A row of `pipeline_execution`, as far as the guard reads it. -/
structure PipelineExecution where
  id : Uuid
  sessionId : Uuid
  deriving DecidableEq

/-- A row of `workspace_member`, as far as the guard reads it. -/
structure WorkspaceMember where
  workspaceId : Uuid
  userId : Uuid
  active : Bool
  deriving DecidableEq

/-- A row of `organization_member`, as far as the guard reads it. -/
structure OrganizationMember where
  organizationId : Uuid
  userId : Uuid
  active : Bool
  deriving DecidableEq

/-- A row of `ai_task`, as far as the guard reads it. -/
structure AiTask where
  id : Uuid
  workspaceId : Uuid
  deriving DecidableEq

/-- The tables that the guard reads. -/
structure RealtimeDb where
  canvases : List Canvas
  sessions : List Session
  workflows : List Workflow
  pipelines : List PipelineExecution
  workspaceMembers : List WorkspaceMember
  organizationMembers : List OrganizationMember
  aiTasks : List AiTask

/-! ## The guard -/

/-- `SocketUserData`; a missing value counts as an empty one. -/
structure SocketUserData where
  userId : String
  orgId : String
  role : String
  deriving DecidableEq

/-- `RoomJoinResult`. -/
inductive RoomJoinResult where
  | allowed
  | refused (reason : String)
  deriving DecidableEq

/-- What follows a text at the beginning of a room. -/
def after? (kind room : String) : Option String :=
  if kind.toList.isPrefixOf room.toList then
    some (String.ofList (room.toList.drop kind.toList.length))
  else none

section

variable (readUuid : String → Option Uuid) (db : RealtimeDb)

/-- The value of a `uuid` column for a text, or the exception of the query. -/
def column (text : String) : Except Exception Uuid :=
  lookUp (readUuid text) (.error ("invalid input syntax for type uuid: \"" ++ text ++ "\""))

/-- The `try` of the checks. -/
def validated : Except Exception RoomJoinResult → RoomJoinResult
  | .ok result => result
  | .error _ => .refused "Validation error"

/-- The workflow is one of the organization. -/
def RealtimeDb.ownsWorkflow (workflowId orgId : Uuid) : Bool :=
  db.workflows.any fun workflow => workflow.id == workflowId && workflow.orgId == orgId

/-- The `try` block of `validateSessionOrg`. -/
def sessionOrg (user : SocketUserData) (sessionId : Uuid) : Except Exception RoomJoinResult :=
  match db.sessions.find? fun session => session.id == sessionId with
  | none => .ok (.refused "Session not found")
  | some session => do
      let orgId ← column readUuid user.orgId
      if db.ownsWorkflow session.workflowId orgId then pure .allowed
      else pure (.refused "Session does not belong to your organization")

/-- `validateSessionOrg`. -/
def validateSessionOrg (user : SocketUserData) (sessionId : String) : RoomJoinResult :=
  validated do
    let id ← column readUuid sessionId
    sessionOrg readUuid db user id

/-- `validateWorkflowOrg`. -/
def validateWorkflowOrg (user : SocketUserData) (workflowId : String) : RoomJoinResult :=
  validated do
    let id ← column readUuid workflowId
    let orgId ← column readUuid user.orgId
    if db.ownsWorkflow id orgId then pure .allowed
    else pure (.refused "Workflow not found or not in your organization")

/-- `validatePipelineOrg`. -/
def validatePipelineOrg (user : SocketUserData) (pipelineId : String) : RoomJoinResult :=
  validated do
    let id ← column readUuid pipelineId
    match db.pipelines.find? fun pipeline => pipeline.id == id with
    | none => pure (.refused "Pipeline not found")
    | some pipeline => pure (validated (sessionOrg readUuid db user pipeline.sessionId))

/-- `validateCanvasOrg`. -/
def validateCanvasOrg (user : SocketUserData) (canvasId : String) : RoomJoinResult :=
  validated do
    let id ← column readUuid canvasId
    match db.canvases.find? fun canvas => canvas.id == id with
    | none => pure (.refused "Canvas not found")
    | some canvas => do
        let orgId ← column readUuid user.orgId
        if db.ownsWorkflow canvas.workflowId orgId then pure .allowed
        else pure (.refused "Canvas does not belong to your organization")

/-- `validateWorkspaceMember`. -/
def validateWorkspaceMember (userId : String) (workspaceId : Uuid) :
    Except Exception RoomJoinResult := do
  let userId ← column readUuid userId
  if db.workspaceMembers.any fun member =>
      member.userId == userId && member.workspaceId == workspaceId && member.active then
    pure .allowed
  else pure (.refused "Workspace access denied")

/-- The branch of `canJoin` for the room of an organization. -/
def validateOrganizationMember (userId organizationId : String) :
    Except Exception RoomJoinResult := do
  let organizationId ← column readUuid organizationId
  let userId ← column readUuid userId
  if db.organizationMembers.any fun member =>
      member.organizationId == organizationId && member.userId == userId && member.active then
    pure .allowed
  else pure (.refused "Organization access denied")

/-- The branch of `canJoin` for the room of an AI task. -/
def validateTaskMember (userId taskId : String) : Except Exception RoomJoinResult := do
  let id ← column readUuid taskId
  match db.aiTasks.find? fun task => task.id == id with
  | none => pure (.refused "AI task not found")
  | some task => validateWorkspaceMember readUuid db userId task.workspaceId

/-- `canJoin`. -/
def canJoin (user : SocketUserData) (room : String) : Except Exception RoomJoinResult :=
  if user.userId = "" ∨ user.orgId = "" then .ok (.refused "Missing user context")
  else if let some targetUserId := after? "user:" room then
    if user.userId = targetUserId then .ok .allowed
    else .ok (.refused "Cannot join another user's room")
  else if let some canvasId := after? "canvas:" room then
    .ok (validateCanvasOrg readUuid db user canvasId)
  else if let some organizationId := after? "organization:" room then
    validateOrganizationMember readUuid db user.userId organizationId
  else if let some workspaceId := after? "workspace:" room then do
    let id ← column readUuid workspaceId
    validateWorkspaceMember readUuid db user.userId id
  else if let some taskId := after? "ai-task:" room then
    validateTaskMember readUuid db user.userId taskId
  else if let some sessionId := after? "session:" room then
    .ok (validateSessionOrg readUuid db user sessionId)
  else if let some workflowId := after? "workflow:" room then
    .ok (validateWorkflowOrg readUuid db user workflowId)
  else if let some pipelineId := after? "pipeline:" room then
    .ok (validatePipelineOrg readUuid db user pipelineId)
  else if room = "admin-health" then
    if user.role = "admin" then .ok .allowed else .ok (.refused "Admin role required")
  else .ok (.refused "Unknown room pattern")

end

/-! ## The gateway -/

/-- A socket, by what its token says of its user. -/
structure Socket where
  data : SocketUserData
  connected : Bool
  deriving DecidableEq

/-- The gateway.  A socket is named by its place, so that no name is used twice; `joining` are
the requests that the guard has allowed and that have not entered the room yet. -/
structure Gateway where
  db : RealtimeDb
  sockets : List Socket
  joining : List (Nat × String)
  rooms : List (Nat × String)
  cursorThrottle : List (String × Nat)

/-- The position of a cursor, as a client sends it. -/
structure CursorUpdate where
  canvasId : String
  positionX : Json
  positionY : Json
  selectedObjectIds : Option Json
  deriving DecidableEq

/-- `CanvasCursorPayload`. -/
structure CanvasCursorPayload where
  canvasId : String
  userId : String
  positionX : Json
  positionY : Json
  selectedObjectIds : Json
  deriving DecidableEq

/-- What the gateway emits: `join_error` to the socket itself, or `canvas.cursor` to a room, from
which the sockets have it that are in the room. -/
inductive Output where
  | joinError (socket : Nat) (room reason : String)
  | canvasCursor (sender : Nat) (room : String) (payload : CanvasCursorPayload)
      (delivered : List Nat)
  deriving DecidableEq

/-- A socket connects, disconnects or sends a message; the answer of the guard is taken up; or
another part of the backend changes the tables. -/
inductive Action where
  | connect (data : SocketUserData)
  | disconnect (socket : Nat)
  | joinRoom (socket : Nat) (room : String)
  | enterRoom (index : Nat)
  | leaveRoom (socket : Nat) (room : String)
  | cursorUpdate (socket : Nat) (update : CursorUpdate) (now : Nat)
  | write (db : RealtimeDb)

/-- `WS_ROOMS.user`. -/
def userRoom (userId : String) : String := "user:" ++ userId

/-- `WS_ROOMS.canvas`. -/
def canvasRoom (canvasId : String) : String := "canvas:" ++ canvasId

/-- The connected socket in a place. -/
def Gateway.socket? (gateway : Gateway) (socket : Nat) : Option Socket :=
  (gateway.sockets[socket]?).filter Socket.connected

/-- `hasListeners`. -/
def Gateway.hasListeners (gateway : Gateway) (room : String) : Bool :=
  gateway.rooms.any fun entry => entry.2 == room

/-- The sockets to which the adapter delivers what is emitted to a room. -/
def Gateway.delivered (gateway : Gateway) (room : String) : List Nat :=
  ((gateway.rooms.filter fun entry => entry.2 == room).map Prod.fst).filter fun socket =>
    (gateway.socket? socket).isSome

/-- `handleConnection`. -/
def Gateway.handleConnection (gateway : Gateway) (data : SocketUserData) : Gateway :=
  { gateway with
    sockets := gateway.sockets ++ [⟨data, true⟩]
    rooms :=
      if data.userId = "" then gateway.rooms
      else gateway.rooms ++ [(gateway.sockets.length, userRoom data.userId)] }

/-- `handleDisconnect`, and that a socket leaves all of its rooms. -/
def Gateway.close (gateway : Gateway) (socket : Nat) (data : SocketUserData) : Gateway :=
  { gateway with
    sockets := gateway.sockets.set socket ⟨data, false⟩
    rooms := gateway.rooms.filter fun entry => entry.1 != socket
    cursorThrottle := gateway.cursorThrottle.filter fun entry => entry.1 != data.userId }

/-- `text.includes(part)`. -/
def includes (text part : String) : Bool := text.toList.tails.any part.toList.isPrefixOf

/-- The reasons for which a socket is disconnected. -/
def disconnects (reason : String) : Bool :=
  includes reason "does not belong to your organization" ||
    includes reason "not in your organization" || reason == "Admin role required"

/-- `handleJoinRoom` up to the answer of the guard; if the guard throws, the exception is
reported to the socket. -/
def Gateway.handleJoinRoom (readUuid : String → Option Uuid) (gateway : Gateway) (socket : Nat)
    (data : SocketUserData) (room : String) : Gateway × List Output :=
  match canJoin readUuid gateway.db data room with
  | .error _ => (gateway, [])
  | .ok .allowed => ({ gateway with joining := gateway.joining ++ [(socket, room)] }, [])
  | .ok (.refused reason) =>
      (if disconnects reason then gateway.close socket data else gateway,
        [.joinError socket room reason])

/-- The time of the last position that was sent on for a user. -/
def Gateway.lastEmit (gateway : Gateway) (userId : String) : Nat :=
  (gateway.cursorThrottle.lookup userId).getD 0

/-- The position of a cursor is sent on: its user is known and not throttled, and somebody
listens. -/
def Gateway.sends (gateway : Gateway) (data : SocketUserData) (update : CursorUpdate) (now : Nat) :
    Bool :=
  data.userId != "" && !decide (now < gateway.lastEmit data.userId + 50) &&
    gateway.hasListeners (canvasRoom update.canvasId)

/-- `handleCursorUpdate`. -/
def Gateway.handleCursorUpdate (gateway : Gateway) (socket : Nat) (data : SocketUserData)
    (update : CursorUpdate) (now : Nat) : Gateway × List Output :=
  if data.userId = "" then (gateway, [])
  else if now < gateway.lastEmit data.userId + 50 then (gateway, [])
  else
    let throttled :=
      { gateway with cursorThrottle := (data.userId, now) :: gateway.cursorThrottle }
    let room := canvasRoom update.canvasId
    let payload : CanvasCursorPayload :=
      { canvasId := update.canvasId
        userId := data.userId
        positionX := update.positionX
        positionY := update.positionY
        selectedObjectIds := update.selectedObjectIds.getD (.arr []) }
    (throttled,
      if throttled.hasListeners room then
        [.canvasCursor socket room payload (throttled.delivered room)]
      else [])

/-- `client.join`: a room holds a socket once. -/
def Gateway.join (gateway : Gateway) (entry : Nat × String) : List (Nat × String) :=
  if gateway.rooms.contains entry then gateway.rooms else gateway.rooms ++ [entry]

/-- What the gateway does and emits.  Only a connected socket sends messages. -/
def Gateway.respond (readUuid : String → Option Uuid) (gateway : Gateway) :
    Action → Option (Gateway × List Output)
  | .connect data => some (gateway.handleConnection data, [])
  | .disconnect socket =>
      (gateway.socket? socket).map fun found => (gateway.close socket found.data, [])
  | .joinRoom socket room =>
      (gateway.socket? socket).map fun found =>
        gateway.handleJoinRoom readUuid socket found.data room
  | .enterRoom index =>
      (gateway.joining[index]?).map fun entry =>
        ({ gateway with
            joining := gateway.joining.eraseIdx index
            rooms := gateway.join entry }, [])
  | .leaveRoom socket room =>
      (gateway.socket? socket).map fun _ =>
        ({ gateway with rooms := gateway.rooms.filter fun entry => entry != (socket, room) }, [])
  | .cursorUpdate socket update now =>
      (gateway.socket? socket).map fun found =>
        gateway.handleCursorUpdate socket found.data update now
  | .write db => some ({ gateway with db := db }, [])

/-- The gateway after an action. -/
def step (readUuid : String → Option Uuid) : Step Gateway Action :=
  fun gateway action => (gateway.respond readUuid action).map Prod.fst

/-- What the gateway emits because of an action. -/
def Gateway.outputs (readUuid : String → Option Uuid) (gateway : Gateway) (action : Action) :
    List Output :=
  (gateway.respond readUuid action).elim [] Prod.snd

/-- The gateway before the first connection. -/
def idle (db : RealtimeDb) : Gateway := ⟨db, [], [], [], []⟩

end Manbaa.Realtime
