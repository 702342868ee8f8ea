import Manbaa.Realtime.Gateway
import Mathlib.Data.List.Induction

/-!
# Isolation between tenants

What is emitted to a room is delivered to sockets that the guard has let in, since only its
answers lead into the rooms of canvases.  Whether the sender was let in is not asked: a cursor
update reaches the room of any canvas that it names.
-/

namespace Manbaa.Realtime

open Manbaa.Lib

variable {readUuid : String → Option Uuid} {db : RealtimeDb} {gateway next start : Gateway}
  {action : Action} {before : List Action} {socket : Nat} {room canvasId : String}
  {data : SocketUserData}

/-! ## What is asked -/

/-- The guard would admit the user of a socket to a room. -/
def Gateway.Admits (readUuid : String → Option Uuid) (gateway : Gateway) (socket : Nat)
    (room : String) : Prop :=
  ∃ found ∈ gateway.socket? socket, canJoin readUuid gateway.db found.data room = .ok .allowed

/-- In a run the guard has admitted a socket to a room that it asked for. -/
def Admitted (readUuid : String → Option Uuid) (start : Gateway) (actions : List Action)
    (socket : Nat) (room : String) : Prop :=
  ∃ first rest gateway, actions = first ++ .joinRoom socket room :: rest ∧
    (step readUuid).run start first = some gateway ∧ gateway.Admits readUuid socket room

/-- What an action emits to a room after a run goes to a room to which the guard would admit the
sender, and is delivered to sockets that were admitted to it. -/
def Isolated (readUuid : String → Option Uuid) (start : Gateway) (before : List Action)
    (action : Action) : Prop :=
  ∀ gateway, (step readUuid).run start before = some gateway →
    ∀ sender room payload delivered,
      .canvasCursor sender room payload delivered ∈ gateway.outputs readUuid action →
      gateway.Admits readUuid sender room ∧
        ∀ socket ∈ delivered, Admitted readUuid start before socket room

/-- The canvas is one of a workflow of the organization of the user. -/
def RealtimeDb.OwnsCanvas (readUuid : String → Option Uuid) (db : RealtimeDb)
    (data : SocketUserData) (canvasId : String) : Prop :=
  data.orgId ≠ "" ∧ ∃ id orgId, readUuid canvasId = some id ∧ readUuid data.orgId = some orgId ∧
    ∃ canvas, db.canvases.find? (fun canvas => canvas.id == id) = some canvas ∧
      db.ownsWorkflow canvas.workflowId orgId = true

/-- A position that is sent on is one on a canvas of the organization of its user. -/
def OnOwnCanvas (readUuid : String → Option Uuid) (gateway : Gateway) : Action → Prop
  | .cursorUpdate socket update now => ∀ found ∈ gateway.socket? socket,
      gateway.sends found.data update now = true →
      gateway.db.OwnsCanvas readUuid found.data update.canvasId
  | _ => True

/-! ## The guard -/

theorem after?_append (kind rest : String) : after? kind (kind ++ rest) = some rest := by
  have starts : kind.toList.isPrefixOf (kind ++ rest).toList = true := by
    rw [String.toList_append]
    exact List.isPrefixOf_iff_prefix.mpr (List.prefix_append _ _)
  rw [after?, if_pos starts, String.toList_append, List.drop_left, String.ofList_toList]

theorem validateCanvasOrg_eq_allowed_iff :
    validateCanvasOrg readUuid db data canvasId = .allowed ↔
      ∃ id orgId, readUuid canvasId = some id ∧ readUuid data.orgId = some orgId ∧
        ∃ canvas, db.canvases.find? (fun canvas => canvas.id == id) = some canvas ∧
          db.ownsWorkflow canvas.workflowId orgId = true := by
  rw [validateCanvasOrg, column]
  cases idEq : readUuid canvasId with
  | none => exact iff_of_false (fun allowed => by cases allowed) (by rintro ⟨id, _, ⟨⟩, _⟩)
  | some id =>
      rw [lookUp, ok_bind]
      cases canvasEq : db.canvases.find? fun canvas => canvas.id == id with
      | none =>
          apply iff_of_false (fun allowed => by cases allowed)
          rintro ⟨_, _, ⟨⟩, _, canvas, foundEq, _⟩
          cases canvasEq.symm.trans foundEq
      | some canvas =>
          rw [column]
          cases orgEq : readUuid data.orgId with
          | none =>
              exact iff_of_false (fun allowed => by cases allowed) (by rintro ⟨_, _, _, ⟨⟩, _⟩)
          | some orgId =>
              change validated (if db.ownsWorkflow canvas.workflowId orgId = true then .ok .allowed
                else .ok (.refused _)) = .allowed ↔ _
              by_cases owns : db.ownsWorkflow canvas.workflowId orgId = true
              · rw [if_pos owns]
                exact iff_of_true rfl ⟨id, orgId, rfl, rfl, canvas, canvasEq, owns⟩
              · rw [if_neg owns]
                apply iff_of_false (fun allowed => by cases allowed)
                rintro ⟨otherId, otherOrg, idSame, orgSame, other, foundEq, otherOwns⟩
                cases idSame
                cases orgSame
                cases canvasEq.symm.trans foundEq
                exact owns otherOwns

/-- The guard admits the users of an organization to the rooms of its canvases. -/
theorem canJoin_canvasRoom_iff :
    canJoin readUuid db data (canvasRoom canvasId) = .ok .allowed ↔
      data.userId ≠ "" ∧ db.OwnsCanvas readUuid data canvasId := by
  have notUser : after? "user:" (canvasRoom canvasId) = none := by
    rw [after?, canvasRoom, String.toList_append]
    rfl
  have isCanvas : after? "canvas:" (canvasRoom canvasId) = some canvasId := after?_append _ _
  by_cases missing : data.userId = "" ∨ data.orgId = ""
  · rw [canJoin, if_pos missing]
    apply iff_of_false nofun
    rintro ⟨user, org, _⟩
    exact missing.elim user org
  · obtain ⟨user, org⟩ := not_or.mp missing
    rw [canJoin, if_neg missing, notUser, isCanvas]
    change Except.ok _ = Except.ok _ ↔ _
    rw [Except.ok.injEq, validateCanvasOrg_eq_allowed_iff]
    constructor
    · intro owned
      exact ⟨user, org, owned⟩
    · rintro ⟨_, _, owned⟩
      exact owned

/-! ## What an action does -/

/-- The requests and the rooms after an action: what is new was allowed by the guard, or waited
to be entered, or is the room of a user. -/
theorem step_cases (stepEq : step readUuid gateway action = some next) :
    (∀ entry ∈ next.joining, entry ∈ gateway.joining ∨
      action = .joinRoom entry.1 entry.2 ∧ gateway.Admits readUuid entry.1 entry.2) ∧
    ∀ entry ∈ next.rooms, entry ∈ gateway.rooms ∨ entry ∈ gateway.joining ∨
      ∃ userId, entry.2 = userRoom userId := by
  cases action with
  | connect data =>
      cases stepEq
      refine ⟨fun entry mem => Or.inl mem, ?_⟩
      intro entry mem
      rw [Gateway.handleConnection] at mem
      split at mem
      · exact Or.inl mem
      · rcases List.mem_append.mp mem with old | new
        · exact Or.inl old
        · exact Or.inr (Or.inr ⟨data.userId, congrArg Prod.snd (List.mem_singleton.mp new)⟩)
  | disconnect socket =>
      obtain ⟨answer, answerEq, rfl⟩ := Option.map_eq_some_iff.mp stepEq
      obtain ⟨found, _, rfl⟩ := Option.map_eq_some_iff.mp answerEq
      exact ⟨fun entry mem => Or.inl mem, fun entry mem => Or.inl (List.mem_filter.mp mem).1⟩
  | joinRoom socket room =>
      obtain ⟨answer, answerEq, rfl⟩ := Option.map_eq_some_iff.mp stepEq
      obtain ⟨found, foundEq, rfl⟩ := Option.map_eq_some_iff.mp answerEq
      rw [Gateway.handleJoinRoom]
      split
      · exact ⟨fun entry mem => Or.inl mem, fun entry mem => Or.inl mem⟩
      · rename_i allowed
        refine ⟨?_, fun entry mem => Or.inl mem⟩
        intro entry mem
        rcases List.mem_append.mp mem with old | new
        · exact Or.inl old
        · cases List.mem_singleton.mp new
          exact Or.inr ⟨rfl, found, foundEq, allowed⟩
      · rename_i reason _
        by_cases cross : disconnects reason = true
        · rw [if_pos cross]
          exact ⟨fun entry mem => Or.inl mem, fun entry mem => Or.inl (List.mem_filter.mp mem).1⟩
        · rw [if_neg cross]
          exact ⟨fun entry mem => Or.inl mem, fun entry mem => Or.inl mem⟩
  | enterRoom index =>
      obtain ⟨answer, answerEq, rfl⟩ := Option.map_eq_some_iff.mp stepEq
      obtain ⟨entered, enteredEq, rfl⟩ := Option.map_eq_some_iff.mp answerEq
      refine ⟨fun entry mem => Or.inl (List.mem_of_mem_eraseIdx mem), ?_⟩
      intro entry mem
      change entry ∈ gateway.join entered at mem
      rw [Gateway.join] at mem
      split at mem
      · exact Or.inl mem
      · rcases List.mem_append.mp mem with old | new
        · exact Or.inl old
        · rw [List.mem_singleton.mp new]
          exact Or.inr (Or.inl (List.mem_of_getElem? enteredEq))
  | leaveRoom socket room =>
      obtain ⟨answer, answerEq, rfl⟩ := Option.map_eq_some_iff.mp stepEq
      obtain ⟨found, _, rfl⟩ := Option.map_eq_some_iff.mp answerEq
      exact ⟨fun entry mem => Or.inl mem, fun entry mem => Or.inl (List.mem_filter.mp mem).1⟩
  | cursorUpdate socket update now =>
      obtain ⟨answer, answerEq, rfl⟩ := Option.map_eq_some_iff.mp stepEq
      obtain ⟨found, _, rfl⟩ := Option.map_eq_some_iff.mp answerEq
      rw [Gateway.handleCursorUpdate]
      split_ifs <;> exact ⟨fun entry mem => Or.inl mem, fun entry mem => Or.inl mem⟩
  | write db =>
      cases stepEq
      exact ⟨fun entry mem => Or.inl mem, fun entry mem => Or.inl mem⟩

/-- A position that is sent on is emitted to the room of the canvas that it names. -/
theorem handleCursorUpdate_outputs {update : CursorUpdate} {now : Nat} :
    (gateway.handleCursorUpdate socket data update now).2 =
      if gateway.sends data update now then
        [.canvasCursor socket (canvasRoom update.canvasId)
          ⟨update.canvasId, data.userId, update.positionX, update.positionY,
            update.selectedObjectIds.getD (.arr [])⟩
          (gateway.delivered (canvasRoom update.canvasId))]
      else [] := by
  rw [Gateway.handleCursorUpdate, Gateway.sends]
  by_cases unknown : data.userId = ""
  · simp [unknown]
  · by_cases throttled : now < gateway.lastEmit data.userId + 50
    · simp [unknown, throttled]
    · simp only [unknown, throttled, if_false, bne_iff_ne, ne_eq, not_false_eq_true, decide_false,
        Bool.not_false, Bool.and_true, Bool.and_eq_true, true_and]
      rfl

/-- What is emitted to a room is the position of a cursor that is sent on. -/
theorem canvasCursor_mem_outputs_iff {sender : Nat} {payload : CanvasCursorPayload}
    {delivered : List Nat} :
    .canvasCursor sender room payload delivered ∈ gateway.outputs readUuid action ↔
      ∃ update now, action = .cursorUpdate sender update now ∧
        ∃ found ∈ gateway.socket? sender, gateway.sends found.data update now = true ∧
          room = canvasRoom update.canvasId ∧ delivered = gateway.delivered room ∧
          payload = ⟨update.canvasId, found.data.userId, update.positionX, update.positionY,
            update.selectedObjectIds.getD (.arr [])⟩ := by
  cases action with
  | connect | write => exact iff_of_false nofun (by rintro ⟨_, _, ⟨⟩, _⟩)
  | disconnect other =>
      rw [Gateway.outputs, Gateway.respond]
      apply iff_of_false _ (by rintro ⟨_, _, ⟨⟩, _⟩)
      cases gateway.socket? other <;> exact nofun
  | joinRoom other wanted =>
      rw [Gateway.outputs, Gateway.respond]
      apply iff_of_false _ (by rintro ⟨_, _, ⟨⟩, _⟩)
      cases gateway.socket? other with
      | none => exact nofun
      | some found =>
          rw [Option.map_some, Option.elim_some, Gateway.handleJoinRoom]
          split
          · exact nofun
          · exact nofun
          · intro mem
            cases List.mem_singleton.mp mem
  | enterRoom index =>
      rw [Gateway.outputs, Gateway.respond]
      apply iff_of_false _ (by rintro ⟨_, _, ⟨⟩, _⟩)
      cases gateway.joining[index]? <;> exact nofun
  | leaveRoom other left =>
      rw [Gateway.outputs, Gateway.respond]
      apply iff_of_false _ (by rintro ⟨_, _, ⟨⟩, _⟩)
      cases gateway.socket? other <;> exact nofun
  | cursorUpdate other update now =>
      rw [Gateway.outputs, Gateway.respond]
      cases foundEq : gateway.socket? other with
      | none =>
          apply iff_of_false nofun
          rintro ⟨_, _, ⟨⟩, found, foundMem, _⟩
          cases foundEq.symm.trans foundMem
      | some found =>
          rw [Option.map_some, Option.elim_some, handleCursorUpdate_outputs]
          constructor
          · intro mem
            split at mem
            · rename_i sends
              cases List.mem_singleton.mp mem
              exact ⟨update, now, rfl, found, foundEq, sends, rfl, rfl, rfl⟩
            · cases mem
          · rintro ⟨_, _, ⟨⟩, other, otherEq, sends, rfl, rfl, rfl⟩
            cases foundEq.symm.trans otherEq
            rw [if_pos sends]
            exact List.mem_singleton.mpr rfl

/-! ## Runs -/

/-- The requests that the guard has allowed, and the rooms but those of the users, have been
admitted in the run. -/
structure Accounts (readUuid : String → Option Uuid) (start : Gateway) (before : List Action)
    (gateway : Gateway) : Prop where
  joining : ∀ entry ∈ gateway.joining, Admitted readUuid start before entry.1 entry.2
  rooms : ∀ entry ∈ gateway.rooms, (∃ userId, entry.2 = userRoom userId) ∨
    Admitted readUuid start before entry.1 entry.2

theorem Admitted.append {more : List Action} (admitted : Admitted readUuid start before socket room) :
    Admitted readUuid start (before ++ more) socket room := by
  obtain ⟨first, rest, gateway, rfl, runEq, admits⟩ := admitted
  exact ⟨first, rest ++ more, gateway, List.append_assoc .., runEq, admits⟩

theorem accounts_step (accounts : Accounts readUuid start before gateway)
    (runEq : (step readUuid).run start before = some gateway)
    (stepEq : step readUuid gateway action = some next) :
    Accounts readUuid start (before ++ [action]) next := by
  obtain ⟨joining, rooms⟩ := step_cases stepEq
  constructor
  · intro entry mem
    rcases joining entry mem with old | ⟨rfl, admits⟩
    · exact (accounts.joining entry old).append
    · exact ⟨before, [], gateway, rfl, runEq, admits⟩
  · intro entry mem
    rcases rooms entry mem with old | waiting | user
    · exact (accounts.rooms entry old).imp_right Admitted.append
    · exact Or.inr (accounts.joining entry waiting).append
    · exact Or.inl user

/-- What has entered a room in a run was admitted to it, or is the room of a user. -/
theorem accounts_run (runEq : (step readUuid).run (idle db) before = some gateway) :
    Accounts readUuid (idle db) before gateway := by
  induction before using List.reverseRecOn generalizing gateway with
  | nil =>
      cases runEq
      exact ⟨nofun, nofun⟩
  | append_singleton before action ih =>
      rw [Step.run_append] at runEq
      obtain ⟨middle, middleEq, lastEq⟩ := Option.bind_eq_some_iff.mp runEq
      rw [Step.run_cons] at lastEq
      obtain ⟨last, stepEq, doneEq⟩ := Option.bind_eq_some_iff.mp lastEq
      cases doneEq
      exact accounts_step (ih middleEq) middleEq stepEq

theorem canvasRoom_ne_userRoom {userId : String} : canvasRoom canvasId ≠ userRoom userId := by
  intro same
  have toListEq := congrArg String.toList same
  rw [canvasRoom, userRoom, String.toList_append, String.toList_append] at toListEq
  cases (List.cons.inj toListEq).1

/-- What is emitted to the room of a canvas is delivered to sockets that were admitted to it. -/
theorem admitted_of_delivered (runEq : (step readUuid).run (idle db) before = some gateway)
    (mem : socket ∈ gateway.delivered (canvasRoom canvasId)) :
    Admitted readUuid (idle db) before socket (canvasRoom canvasId) := by
  obtain ⟨entry, entryMem, rfl⟩ := List.mem_map.mp (List.mem_filter.mp mem).1
  obtain ⟨inRooms, inRoom⟩ := List.mem_filter.mp entryMem
  have roomEq : entry.2 = canvasRoom canvasId := eq_of_beq inRoom
  rcases (accounts_run runEq).rooms entry inRooms with ⟨userId, isUser⟩ | admitted
  · exact absurd (roomEq.symm.trans isUser) canvasRoom_ne_userRoom
  · rwa [roomEq] at admitted

/-- An action is isolated after a run exactly if it sends on no position but on a canvas of the
organization of its user. -/
theorem isolated_iff (runEq : (step readUuid).run (idle db) before = some gateway) :
    Isolated readUuid (idle db) before action ↔ OnOwnCanvas readUuid gateway action := by
  constructor
  · intro isolated
    cases action with
    | cursorUpdate socket update now =>
        intro found foundEq sends
        obtain ⟨⟨other, otherEq, allowed⟩, _⟩ := isolated gateway runEq _ _ _ _ <|
          canvasCursor_mem_outputs_iff.mpr
            ⟨update, now, rfl, found, foundEq, sends, rfl, rfl, rfl⟩
        cases foundEq.symm.trans otherEq
        exact (canJoin_canvasRoom_iff.mp allowed).2
    | connect | disconnect | joinRoom | enterRoom | leaveRoom | write => trivial
  · intro own other otherEq sender room payload delivered emitted
    cases runEq.symm.trans otherEq
    obtain ⟨update, now, rfl, found, foundEq, sends, rfl, rfl, _⟩ :=
      canvasCursor_mem_outputs_iff.mp emitted
    constructor
    · have known : found.data.userId ≠ "" := by
        rw [Gateway.sends, Bool.and_eq_true, Bool.and_eq_true] at sends
        exact bne_iff_ne.mp sends.1.1
      exact ⟨found, foundEq, canJoin_canvasRoom_iff.mpr ⟨known, own found foundEq sends⟩⟩
    · intro socket mem
      exact admitted_of_delivered runEq mem

/-- The gateway keeps tenants apart in a run exactly if every position that it sends on is one on
a canvas of the organization of its user: what it sends on is then delivered to sockets that were
admitted, and comes from one that would be. -/
theorem tenants_isolated_iff (readUuid : String → Option Uuid) (db : RealtimeDb)
    (actions : List Action) :
    (∀ before action after, actions = before ++ action :: after →
      Isolated readUuid (idle db) before action) ↔
    (step readUuid).Meets (OnOwnCanvas readUuid) (idle db) actions := by
  rw [Step.meets_iff_forall]
  constructor
  · intro isolated before action after split gateway runEq
    exact (isolated_iff runEq).mp (isolated before action after split)
  · intro own before action after split gateway runEq
    exact (isolated_iff runEq).mpr (own before action after split gateway runEq) gateway runEq

/-- A canvas of one organization. -/
def exampleDb : RealtimeDb where
  canvases := [⟨uuid "canvas", uuid "workflow"⟩]
  sessions := []
  workflows := [⟨uuid "workflow", uuid "acme"⟩]
  pipelines := []
  workspaceMembers := []
  organizationMembers := []
  aiTasks := []

/-- A user of the organization enters the room of its canvas, and a user of another one connects
and sends a position there. -/
def exampleActions : List Action :=
  [.connect ⟨"alice", "acme", "editor"⟩, .joinRoom 0 "canvas:canvas", .enterRoom 0,
    .connect ⟨"mallory", "other", "editor"⟩]

/-- The position is sent on to the room. -/
def exampleCursor : Action := .cursorUpdate 1 ⟨"canvas", .num 1, .num 2, none⟩ 100

/-- A user of another organization makes an event in the room of a canvas. -/
theorem cursor_injected :
    ¬ ∀ (readUuid : String → Option Uuid) (db : RealtimeDb) (before : List Action)
      (action : Action), Isolated readUuid (idle db) before action := by
  intro isolated
  have traced : ((step fun text => some (uuid text)).run (idle exampleDb) exampleActions).isSome := by
    decide +kernel
  obtain ⟨gateway, runEq⟩ := Option.isSome_iff_exists.mp traced
  have foreign := (isolated_iff runEq).mp (isolated _ exampleDb exampleActions exampleCursor)
  cases runEq
  obtain ⟨_, id, orgId, idEq, orgEq, canvas, canvasEq, owns⟩ :=
    foreign ⟨⟨"mallory", "other", "editor"⟩, true⟩ rfl (by decide +kernel)
  cases idEq
  cases orgEq
  cases canvasEq
  exact absurd owns (by decide +kernel)

end Manbaa.Realtime
