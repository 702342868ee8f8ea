import Manbaa.Core.InternalAuth
import Manbaa.Health.Cache
import Manbaa.Lib.Contract
import Manbaa.Lib.DateText
import Manbaa.Lib.JsonFields
import Manbaa.Sources.Lifecycle

/-!
# Heartbeats of workers

A worker reports itself in events that carry a token of its service.  The last heartbeat of each
type of worker is kept for three minutes, as a JSON text in the keyspace that also holds the marks
of used tokens, and the health of a worker is what that text says, unless it is too old.

What the runtime does with numbers and dates is a parameter.
-/

namespace Manbaa.Health

open Manbaa.Lib Manbaa.Lib.Expiring Manbaa.InternalAuth

/-- What the runtime does: numbers as texts, and the instant of `new Date(value)`, which may be
none. -/
structure Runtime where
  host : Sources.Host
  numberText : ℚ → String
  readNumber : String → Option ℚ
  dateOf : Option Json → Option Int

/-! ## Heartbeats -/

/-- A heartbeat that has passed the assertions of the handler. -/
structure Heartbeat where
  type : WorkerType
  payload : Json.Fields

/-- The worker type of a payload, if it is one of the types. -/
def readWorkerType : Option Json → Option WorkerType
  | some (.str text) => workerTypes.find? fun type => type.text = text
  | _ => none

/-- What the handler asserts about an event before it looks at the token. -/
def readHeartbeat (runtime : Runtime) (value : Json) : Except Exception Heartbeat := do
  let event ← Sources.asObject (some value) "Domain event must be an object"
  let (payload, _) ← Sources.assertDomainEvent runtime.host event
  check (event.lookup "eventType" = some (.str "worker.heartbeat"))
    (.error "Invalid worker heartbeat")
  let type ← lookUp (readWorkerType (payload.lookup "workerType")) (.error "Invalid worker heartbeat")
  pure ⟨type, payload⟩

/-- What is kept of a payload that is received at a time: all but the token. -/
def safe (payload : Json.Fields) (receivedAt : Nat) : Json.Fields :=
  Json.setField (payload.filter fun field => field.1 ≠ "internalToken") "receivedAt"
    (.str (DateText.toISOString receivedAt))

/-- The key of the last heartbeat of a type. -/
def heartbeatKey (settings : Settings) (type : WorkerType) : String :=
  settings.key "worker-heartbeat" type.text

/-- The text of properties. -/
def Runtime.text (runtime : Runtime) (fields : Json.Fields) : String :=
  (Json.obj fields).stringify runtime.numberText

/-- `recordHeartbeat`. -/
def recordHeartbeat (runtime : Runtime) (settings : Settings) (heartbeat : Heartbeat) :
    Method Unit := do
  let receivedAt ← Program.query Platform.now
  Program.write fun platform =>
    .ok ((), { platform with
      redis := platform.redis.put (heartbeatKey settings heartbeat.type)
        (runtime.text (safe heartbeat.payload receivedAt)) (platform.now + 180 * 1000) })

/-- `consume`. -/
def consume (runtime : Runtime) (jwt : Jwt (Option Json)) (settings : Settings) (value : Json) :
    Method Unit := do
  let heartbeat ← Program.done (readHeartbeat runtime value)
  let claims ← validate jwt settings (heartbeat.payload.lookup "internalToken") "nestjs-platform"
  Program.ensure (claims.service = heartbeat.type.text) (.error "Worker identity mismatch")
  recordHeartbeat runtime settings heartbeat

/-! ## Reports -/

/-- What `getWorkerHealth` returns: properties, of which the status is set. -/
structure WorkerReport where
  data : Json.Fields
  status : Option Json
  deriving DecidableEq

/-- The report about a worker that has not been heard of. -/
def unheard (type : WorkerType) : WorkerReport :=
  ⟨[("workerType", .str type.text)], some (.str "down")⟩

/-- The report of a heartbeat at a time.  A heartbeat without a date has no age. -/
def reportOf (runtime : Runtime) (data : Json.Fields) (now : Nat) : WorkerReport where
  data := data
  status :=
    match runtime.dateOf (data.lookup "timestamp") with
    | some timestamp =>
        if 120000 < now - timestamp then some (.str "down")
        else if 60000 < now - timestamp then some (.str "stale")
        else data.lookup "status"
    | none => data.lookup "status"

/-- `getWorkerHealth`. -/
def getWorkerHealth (runtime : Runtime) (settings : Settings) (type : WorkerType) :
    Method WorkerReport := do
  let raw ← Program.query fun platform =>
    platform.redis.get? platform.now (heartbeatKey settings type)
  match raw with
  | none => pure (unheard type)
  | some raw =>
      match JsonText.parseValue runtime.readNumber raw.toList with
      | some (.obj data) => do
          let now ← Program.query Platform.now
          pure (reportOf runtime data now)
      | _ => Program.done (.error (.error "Unexpected token in JSON"))

/-- A report as the health checks take it up; a status that is no text is none that they know. -/
def WorkerReport.health (report : WorkerReport) (type : WorkerType) : WorkerHealth where
  workerType := type
  status :=
    match report.status with
    | some (.str status) => status
    | _ => ""
  heartbeat := report.data

/-! ## Calls beside each other -/

/-- Time passes, an event arrives, a token is shown elsewhere, or the health of a worker is asked
for. -/
inductive WorkerRequest where
  | wait (milliseconds : Nat)
  | heartbeat (value : Json)
  | validate (token : Option Json) (expectedAudience : String)
  | health (type : WorkerType)

/-- How a request is answered: with a report, where one is asked for. -/
def respond (runtime : Runtime) (jwt : Jwt (Option Json)) (settings : Settings) :
    WorkerRequest → Method (Option WorkerReport)
  | .wait milliseconds => do
      Program.write fun platform =>
        .ok ((), { platform with now := platform.now + milliseconds })
      pure none
  | .heartbeat value => do
      consume runtime jwt settings value
      pure none
  | .validate token expectedAudience => do
      let _ ← validate jwt settings token expectedAudience
      pure none
  | .health type => do
      let report ← getWorkerHealth runtime settings type
      pure (some report)

/-! ## What is kept is read back -/

section Texts

variable {runtime : Runtime} {isNumber : ℚ → Prop} {fields payload : Json.Fields}
  {receivedAt : Nat} {value : Json}

/-- A value as `JSON.parse` returns it: the keys of each object are distinct, and the runtime
knows each number. -/
structure Parsed (isNumber : ℚ → Prop) (value : Json) : Prop where
  distinct : value.Distinct
  numbers : ∀ number ∈ value.numbers, isNumber number

theorem parsed_obj_iff : Parsed isNumber (.obj fields) ↔
    (fields.map Prod.fst).Nodup ∧ ∀ field ∈ fields, Parsed isNumber field.2 := by
  constructor
  · rintro ⟨⟨keys, values⟩, numbers⟩
    refine ⟨keys, fun field fieldMem => ⟨Json.distinctFields_iff.mp values field fieldMem, ?_⟩⟩
    intro number numberMem
    apply numbers
    rw [Json.numbers, Json.numbersFields_eq]
    exact List.mem_flatMap.mpr ⟨field, fieldMem, numberMem⟩
  · rintro ⟨keys, values⟩
    refine ⟨⟨keys, Json.distinctFields_iff.mpr fun field mem => (values field mem).distinct⟩, ?_⟩
    intro number numberMem
    rw [Json.numbers, Json.numbersFields_eq] at numberMem
    obtain ⟨field, fieldMem, inField⟩ := List.mem_flatMap.mp numberMem
    exact (values field fieldMem).numbers number inField

theorem parsed_safe (parsed : Parsed isNumber (.obj payload)) :
    Parsed isNumber (.obj (safe payload receivedAt)) := by
  obtain ⟨keys, values⟩ := parsed_obj_iff.mp parsed
  refine parsed_obj_iff.mpr ⟨Json.keys_setField_nodup ?_, ?_⟩
  · exact keys.sublist ((List.filter_sublist ..).map Prod.fst)
  · intro field fieldMem
    rcases Json.mem_setField fieldMem with kept | rfl
    · exact values field (List.mem_of_mem_filter kept)
    · exact ⟨trivial, nofun⟩

theorem parsed_lookup {key : String} (parsed : Parsed isNumber (.obj fields))
    (found : fields.lookup key = some value) : Parsed isNumber value :=
  (parsed_obj_iff.mp parsed).2 _ (Json.mem_of_lookup found)

theorem readWorkerType_eq_some {type : WorkerType} {found : Option Json}
    (readEq : readWorkerType found = some type) : found = some (.str type.text) := by
  unfold readWorkerType at readEq
  split at readEq
  · have isText := List.find?_some readEq
    rw [← of_decide_eq_true isText]
  · cases readEq

theorem asObject_eq_ok {found : Option Json} {message : String}
    (objectEq : Sources.asObject found message = .ok fields) : found = some (.obj fields) := by
  unfold Sources.asObject at objectEq
  split at objectEq
  · cases objectEq
    rfl
  · cases objectEq

/-- The payload that an event is asserted to have. -/
theorem asserted_payload {host : Sources.Host} {event : Json.Fields} {date : Nat}
    (assertEq : Sources.assertDomainEvent host event = .ok (payload, date)) :
    event.lookup "payload" = some (.obj payload) := by
  simp only [Sources.assertDomainEvent, except_bind_eq_ok_iff] at assertEq
  obtain ⟨_, _, _, _, _, _, _, _, _, _, _, _, _, _, _, payloadEq, _, _, pairEq⟩ := assertEq
  cases pairEq
  exact asObject_eq_ok payloadEq

/-- What the handler has asserted about an event. -/
theorem readHeartbeat_eq_ok {heartbeat : Heartbeat}
    (readEq : readHeartbeat runtime value = .ok heartbeat) :
    ∃ event, value = .obj event ∧ event.lookup "payload" = some (.obj heartbeat.payload) ∧
      heartbeat.payload.lookup "workerType" = some (.str heartbeat.type.text) := by
  rw [readHeartbeat] at readEq
  obtain ⟨event, eventEq, restEq⟩ := except_bind_eq_ok_iff.mp readEq
  obtain ⟨⟨payload, date⟩, assertEq, restEq⟩ := except_bind_eq_ok_iff.mp restEq
  obtain ⟨_, _, restEq⟩ := except_bind_eq_ok_iff.mp restEq
  obtain ⟨type, typeEq, restEq⟩ := except_bind_eq_ok_iff.mp restEq
  cases restEq
  refine ⟨event, ?_, ?_, readWorkerType_eq_some (lookUp_eq_ok_iff.mp typeEq)⟩
  · exact Option.some.inj (asObject_eq_ok eventEq)
  · exact asserted_payload assertEq

theorem parsed_readHeartbeat {heartbeat : Heartbeat} (parsed : Parsed isNumber value)
    (readEq : readHeartbeat runtime value = .ok heartbeat) :
    Parsed isNumber (.obj heartbeat.payload) := by
  obtain ⟨event, rfl, payloadEq, _⟩ := readHeartbeat_eq_ok readEq
  exact parsed_lookup parsed payloadEq

/-- What is written is read back. -/
theorem parseValue_text (reads : JsonText.ReadsNumbers runtime.numberText runtime.readNumber
      isNumber) (parsed : Parsed isNumber (.obj fields)) :
    JsonText.parseValue runtime.readNumber (runtime.text fields).toList = some (.obj fields) := by
  rw [Runtime.text, Json.stringify, String.toList_ofList]
  exact JsonText.parseValue_chars reads parsed.distinct parsed.numbers

theorem lookup_filter_of_kept (keep : String → Bool) {wanted : String}
    (kept : keep wanted = true) :
    (fields.filter fun field => keep field.1).lookup wanted = fields.lookup wanted := by
  induction fields with
  | nil => rfl
  | cons field rest ih =>
      rw [List.filter_cons, List.lookup_cons]
      by_cases same : wanted = field.1
      · rw [← same, if_pos kept, List.lookup_cons, ← same, beq_self_eq_true]
      · rw [beq_eq_false_iff_ne.mpr same]
        split
        · rw [List.lookup_cons, beq_eq_false_iff_ne.mpr same]
          exact ih
        · exact ih

theorem lookup_safe {wanted : String} (notToken : wanted ≠ "internalToken")
    (notTime : wanted ≠ "receivedAt") :
    (safe payload receivedAt).lookup wanted = payload.lookup wanted := by
  rw [safe, Json.lookup_setField, if_neg notTime]
  exact lookup_filter_of_kept (fun key => key ≠ "internalToken") (decide_eq_true notToken)

/-- The token is not kept. -/
theorem lookup_safe_token : (safe payload receivedAt).lookup "internalToken" = none := by
  rw [safe, Json.lookup_setField, if_neg (by decide), List.lookup_eq_none_iff]
  intro field fieldMem
  have kept := of_decide_eq_true (List.mem_filter.mp fieldMem).2
  exact bne_iff_ne.mpr (Ne.symm kept)

end Texts

/-! ## What is kept was vouched for -/

section Runs

variable (runtime : Runtime) (jwt : Jwt (Option Json)) (settings : Settings) (came : Json → Prop)

/-- A token of the service of a type was good at a time. -/
def Vouched (token : Option Json) (type : WorkerType) (time : Nat) : Prop :=
  ∃ secret ∈ settings.secrets, ∃ claims, claims.service = type.text ∧
    jwt.verifyAsync secret settings.issuer "nestjs-platform" (time / 1000) token = some claims

/-- The heartbeat of a type has come in an event and was vouched for, before it was received and
then kept. -/
structure Kept (type : WorkerType) (payload : Json.Fields) (receivedAt setAt : Nat) : Prop where
  came : ∃ value, came value ∧ readHeartbeat runtime value = .ok ⟨type, payload⟩
  vouched : ∃ verifiedAt ≤ receivedAt,
    Vouched jwt settings (payload.lookup "internalToken") type verifiedAt
  inOrder : receivedAt ≤ setAt

/-- Under the key of a type is nothing but the text of a heartbeat that was kept, for three
minutes. -/
def HeartbeatsKept (platform : Platform) : Prop :=
  ∀ entry ∈ platform.redis, ∀ type, entry.key = heartbeatKey settings type →
    ∃ payload receivedAt setAt, Kept runtime jwt settings came type payload receivedAt setAt ∧
      setAt ≤ platform.now ∧ entry.expiresAt = setAt + 180000 ∧
      entry.value = runtime.text (safe payload receivedAt)

/-- What calls agree on: heartbeats are kept, and no time goes back. -/
def heartbeatContract : Program.Contract Platform where
  valid := HeartbeatsKept runtime jwt settings came
  grows := Platform.Precedes
  refl := Platform.precedes_refl
  trans := Platform.precedes_trans

/-- The report about a type at a time is that of a heartbeat which was kept less than three minutes
before it was read. -/
structure Accounted (type : WorkerType) (report : WorkerReport) (payload : Json.Fields)
    (receivedAt setAt readAt reportedAt : Nat) : Prop where
  kept : Kept runtime jwt settings came type payload receivedAt setAt
  set_le : setAt ≤ readAt
  read_lt : readAt < setAt + 180000
  read_le : readAt ≤ reportedAt
  reported : report = reportOf runtime (safe payload receivedAt) reportedAt

/-- What is right of an answer: a report names the type that was asked for, and says that nothing
was heard or is accounted for. -/
def Answers (request : WorkerRequest) (answer : Option WorkerReport) (platform : Platform) : Prop :=
  ∀ report, answer = some report → ∃ type, request = .health type ∧
    (report = unheard type ∨ ∃ payload receivedAt setAt readAt reportedAt,
      Accounted runtime jwt settings came type report payload receivedAt setAt readAt reportedAt ∧
        reportedAt ≤ platform.now)

variable {runtime jwt settings came} {platform seen : Platform}

theorem key_ne_heartbeatKey (id : String) (type : WorkerType) :
    settings.key "internal-auth" id ≠ heartbeatKey settings type := by
  intro same
  have chars := congrArg String.toList same
  simp [heartbeatKey, Settings.key, List.append_assoc] at chars

theorem text_injective {type other : WorkerType} (same : type.text = other.text) :
    type = other := by
  cases type <;> cases other <;> first | rfl | exact absurd same (by decide)

theorem heartbeatKey_injective {type other : WorkerType}
    (same : heartbeatKey settings type = heartbeatKey settings other) : type = other := by
  apply text_injective
  apply String.toList_inj.mp
  have chars := congrArg String.toList same
  simpa [heartbeatKey, Settings.key, List.append_assoc] using chars

theorem HeartbeatsKept.later (kept : HeartbeatsKept runtime jwt settings came platform)
    {now : Nat} (since : platform.now ≤ now) :
    HeartbeatsKept runtime jwt settings came { platform with now } := by
  intro entry entryMem type isKey
  obtain ⟨payload, receivedAt, setAt, isKept, setLe, rest⟩ := kept entry entryMem type isKey
  exact ⟨payload, receivedAt, setAt, isKept, Nat.le_trans setLe since, rest⟩

/-- The mark of a token leaves the heartbeats. -/
theorem HeartbeatsKept.mark (kept : HeartbeatsKept runtime jwt settings came platform)
    (id value : String) (expiresAt : Nat) :
    HeartbeatsKept runtime jwt settings came
      { platform with
        redis := platform.redis.put (settings.key "internal-auth" id) value expiresAt } := by
  intro entry entryMem type isKey
  rcases List.mem_cons.mp entryMem with rfl | old
  · exact absurd isKey (key_ne_heartbeatKey id type)
  · exact kept entry old type isKey

/-- A heartbeat that was vouched for may be kept. -/
theorem HeartbeatsKept.record (kept : HeartbeatsKept runtime jwt settings came platform)
    {type : WorkerType} {payload : Json.Fields} {receivedAt : Nat}
    (isKept : Kept runtime jwt settings came type payload receivedAt platform.now) :
    HeartbeatsKept runtime jwt settings came
      { platform with
        redis := platform.redis.put (heartbeatKey settings type)
          (runtime.text (safe payload receivedAt)) (platform.now + 180 * 1000) } := by
  intro entry entryMem other isKey
  rcases List.mem_cons.mp entryMem with rfl | old
  · cases heartbeatKey_injective isKey
    exact ⟨payload, receivedAt, platform.now, isKept, Nat.le_refl _, rfl, rfl⟩
  · exact kept entry old other isKey

/-- A token that was shown was good under one of the secrets. -/
def Shown (jwt : Jwt (Option Json)) (settings : Settings) (token : Option Json)
    (expectedAudience : String) (claims : InternalServiceClaims) (platform : Platform) : Prop :=
  ∃ verifiedAt ≤ platform.now, ∃ secret ∈ settings.secrets,
    jwt.verifyAsync secret settings.issuer expectedAudience (verifiedAt / 1000) token = some claims

theorem Shown.later {token : Option Json} {expectedAudience : String}
    {claims : InternalServiceClaims} (shown : Shown jwt settings token expectedAudience claims seen)
    (since : seen.Precedes platform) :
    Shown jwt settings token expectedAudience claims platform := by
  obtain ⟨verifiedAt, before, rest⟩ := shown
  exact ⟨verifiedAt, Nat.le_trans before since, rest⟩

theorem firstClaims_safe (token : Option Json) (expectedAudience : String) {secrets : List String}
    (known : ∀ secret ∈ secrets, secret ∈ settings.secrets) :
    (firstClaims jwt settings token expectedAudience secrets).Safe
      (heartbeatContract runtime jwt settings came)
      (fun claims? platform => ∀ claims, claims? = some claims →
        Shown jwt settings token expectedAudience claims platform) seen := by
  induction secrets generalizing seen with
  | nil =>
      apply Program.safe_pure
      intro _ _ _ claims none
      cases none
  | cons secret rest ih =>
      apply Program.safe_query_bind
      intro found _ _
      cases showsEq : jwt.verifyAsync secret settings.issuer expectedAudience found.clock token with
      | none => exact ih fun other otherMem => known other (List.mem_cons_of_mem _ otherMem)
      | some claims =>
          apply Program.safe_pure
          rintro later _ since _ ⟨⟩
          exact Shown.later ⟨found.now, Nat.le_refl _, secret, known secret List.mem_cons_self,
            showsEq⟩ since

theorem verify_safe (token : Option Json) (expectedAudience : String)
    (valid : HeartbeatsKept runtime jwt settings came seen) :
    (verify jwt settings token expectedAudience).Safe
      (heartbeatContract runtime jwt settings came)
      (Shown jwt settings token expectedAudience) seen := by
  refine (firstClaims_safe token expectedAudience fun _ => id).bind valid ?_
  intro claims? found _ _ shown
  cases claims? with
  | none => exact Program.safe_throw
  | some claims =>
      apply Program.safe_ensure_bind
      intro _
      apply Program.safe_pure
      intro later _ since
      exact (shown claims rfl).later since

theorem validate_safe (token : Option Json) (expectedAudience : String)
    (valid : HeartbeatsKept runtime jwt settings came seen) :
    (validate jwt settings token expectedAudience).Safe
      (heartbeatContract runtime jwt settings came)
      (Shown jwt settings token expectedAudience) seen := by
  refine (verify_safe token expectedAudience valid).bind valid ?_
  intro claims found _ _ shown
  apply Program.safe_query_bind
  intro reader _ sinceShown
  apply Program.safe_write_bind
  intro marker isSet changed markerValid sinceRead changeEq
  have after : (heartbeatContract runtime jwt settings came).valid changed ∧
      marker.Precedes changed := by
    split at changeEq
    · rename_i redis setEq
      cases changeEq
      obtain ⟨_, rfl⟩ := Keyspace.putIfAbsent_eq_some_iff.mp setEq
      exact ⟨HeartbeatsKept.mark markerValid _ _ _, marker.precedes_refl⟩
    · cases changeEq
      exact ⟨markerValid, marker.precedes_refl⟩
  refine ⟨after, ?_⟩
  apply Program.safe_ensure_bind
  intro _
  apply Program.safe_pure
  intro later _ onwards
  have sinceMark := Platform.precedes_trans after.2 onwards
  exact shown.later (Platform.precedes_trans sinceShown
    (Platform.precedes_trans sinceRead sinceMark))

theorem consume_safe {value : Json} (asked : came value)
    (valid : HeartbeatsKept runtime jwt settings came seen) :
    (consume runtime jwt settings value).Safe (heartbeatContract runtime jwt settings came)
      (fun _ _ => True) seen := by
  rw [consume]
  cases readEq : readHeartbeat runtime value with
  | error error => exact Program.safe_throw
  | ok heartbeat =>
      refine (validate_safe _ _ valid).bind valid ?_
      intro claims found _ _ shown
      apply Program.safe_ensure_bind
      intro service
      apply Program.safe_query_bind
      intro receiver _ sinceShown
      apply Program.safe_write
      rintro writer _ _ writerValid sinceReceived ⟨⟩
      refine ⟨⟨HeartbeatsKept.record writerValid ?_, writer.precedes_refl⟩, fun _ _ _ => trivial⟩
      obtain ⟨verifiedAt, before, secret, secretMem, shows⟩ := shown
      exact ⟨⟨value, asked, readEq⟩, ⟨verifiedAt, Nat.le_trans before sinceShown, secret, secretMem,
        claims, of_decide_eq_true service, shows⟩, sinceReceived⟩

theorem getWorkerHealth_safe {isNumber : ℚ → Prop} (type : WorkerType)
    (reads : JsonText.ReadsNumbers runtime.numberText runtime.readNumber isNumber)
    (parsed : ∀ value, came value → Parsed isNumber value) :
    (getWorkerHealth runtime settings type).Safe (heartbeatContract runtime jwt settings came)
      (fun report => Answers runtime jwt settings came (.health type) (some report)) seen := by
  apply Program.safe_query_bind
  intro reader readerValid _
  cases rawEq : reader.redis.get? reader.now (heartbeatKey settings type) with
  | none =>
      apply Program.safe_pure
      rintro later _ _ _ ⟨⟩
      exact ⟨type, rfl, Or.inl rfl⟩
  | some raw =>
      obtain ⟨entry, entryMem, isKey, rfl, isLive⟩ := Keyspace.exists_of_get? rawEq
      obtain ⟨payload, receivedAt, setAt, isKept, setLe, expiresEq, textEq⟩ :=
        readerValid entry entryMem type isKey
      obtain ⟨value, asked, readEq⟩ := isKept.came
      have isParsed := parsed_readHeartbeat (parsed value asked) readEq
      dsimp only
      rw [textEq, parseValue_text reads (parsed_safe isParsed)]
      apply Program.safe_query_bind
      intro reporter _ sinceRead
      apply Program.safe_pure
      rintro later _ sinceReported _ ⟨⟩
      exact ⟨type, rfl, Or.inr ⟨payload, receivedAt, setAt, reader.now, reporter.now,
        ⟨isKept, setLe, expiresEq ▸ isLive, sinceRead, rfl⟩, sinceReported⟩⟩

theorem respond_safe {isNumber : ℚ → Prop}
    (reads : JsonText.ReadsNumbers runtime.numberText runtime.readNumber isNumber)
    (parsed : ∀ value, came value → Parsed isNumber value) {request : WorkerRequest}
    (asked : ∀ value, request = .heartbeat value → came value)
    (valid : HeartbeatsKept runtime jwt settings came seen) :
    (respond runtime jwt settings request).Safe (heartbeatContract runtime jwt settings came)
      (Answers runtime jwt settings came request) seen := by
  cases request with
  | wait milliseconds =>
      apply Program.safe_write_bind
      rintro found _ _ foundValid _ ⟨⟩
      exact ⟨⟨HeartbeatsKept.later foundValid (Nat.le_add_right _ _), Nat.le_add_right _ _⟩,
        Program.safe_pure fun _ _ _ => nofun⟩
  | heartbeat value =>
      refine (consume_safe (asked value rfl) valid).bind valid ?_
      intro _ _ _ _ _
      exact Program.safe_pure fun _ _ _ => nofun
  | validate token expectedAudience =>
      refine (validate_safe token expectedAudience valid).bind valid ?_
      intro _ _ _ _ _
      exact Program.safe_pure fun _ _ _ => nofun
  | health type =>
      refine (getWorkerHealth_safe type reads parsed).bind valid ?_
      intro report found _ _ isRight
      apply Program.safe_pure
      intro later _ since reported same
      cases same
      obtain ⟨asked, sameType, isUnheard | ⟨payload, receivedAt, setAt, readAt, reportedAt,
        accounted, before⟩⟩ := isRight report rfl
      · exact ⟨asked, sameType, Or.inl isUnheard⟩
      · exact ⟨asked, sameType, Or.inr ⟨payload, receivedAt, setAt, readAt, reportedAt, accounted,
          Nat.le_trans before since⟩⟩

/-- The status of an enabled worker in the health status. -/
theorem entry_status {config : HealthConfig} {type : WorkerType} {report : WorkerReport}
    (enabled : (config.aiEnabled && config.workerEnabled type) = true) :
    ((report.health type).entry config).2.status = workerStatus (report.health type).status :=
  congrArg (fun entry : String × HealthStatus => entry.2.status) (if_pos enabled)

/-- A worker whose report is not that it is down. -/
theorem workerStatus_ne_down {status : String} (up : workerStatus status ≠ .down) :
    status = "healthy" ∨ status = "degraded" ∨ status = "stale" := by
  unfold workerStatus at up
  split at up
  · exact Or.inl ‹_›
  · split at up
    · exact Or.inr ‹_›
    · exact absurd rfl up

/-- What a report says that is not that the worker is down. -/
theorem reportOf_up {data : Json.Fields} {now : Nat} {type : WorkerType}
    (up : workerStatus ((reportOf runtime data now).health type).status ≠ .down) :
    (∀ timestamp, runtime.dateOf (data.lookup "timestamp") = some timestamp →
      now - timestamp ≤ 120000) ∧
    ((reportOf runtime data now).status = some (.str "stale") ∨
      data.lookup "status" = some (.str "healthy") ∨
      data.lookup "status" = some (.str "degraded")) := by
  have known : ∀ status : Option Json,
      workerStatus (WorkerReport.health ⟨data, status⟩ type).status ≠ .down →
        status = some (.str "healthy") ∨ status = some (.str "degraded") ∨
          status = some (.str "stale") := by
    intro status isUp
    rcases status with _ | value
    · exact absurd rfl isUp
    · cases value with
      | str text =>
          have isKnown : text = "healthy" ∨ text = "degraded" ∨ text = "stale" :=
            workerStatus_ne_down isUp
          simpa using isKnown
      | _ => exact absurd rfl isUp
  unfold reportOf at up ⊢
  cases dateEq : runtime.dateOf (data.lookup "timestamp") with
  | none =>
      rw [dateEq] at up
      refine ⟨nofun, ?_⟩
      rcases known _ up with healthy | degraded | stale
      · exact Or.inr (Or.inl healthy)
      · exact Or.inr (Or.inr degraded)
      · exact Or.inl stale
  | some timestamp =>
      rw [dateEq] at up
      dsimp only at up ⊢
      by_cases old : 120000 < (now : Int) - timestamp
      · rw [if_pos old] at up
        exact absurd rfl up
      · rw [if_neg old] at up ⊢
        refine ⟨fun other same => Option.some.inj same ▸ Int.not_lt.mp old, ?_⟩
        by_cases aged : 60000 < (now : Int) - timestamp
        · rw [if_pos aged]
          exact Or.inl rfl
        · rw [if_neg aged] at up ⊢
          rcases known _ up with healthy | degraded | stale
          · exact Or.inr (Or.inl healthy)
          · exact Or.inr (Or.inr degraded)
          · exact Or.inl stale

end Runs

/-- **A worker is up only by a heartbeat that was vouched for.**  Beside whatever other calls, the
health status of an enabled worker is not down only if an event has come with a heartbeat of its
type, whose token one of the secrets showed to be of its service, which was kept less than three
minutes before it was read and whose date, if it has one, is at most two minutes old; the worker
calls itself healthy or degraded, or is stale.  The token is not shown. -/
theorem worker_up_by_heartbeat {runtime : Runtime} {isNumber : ℚ → Prop}
    (reads : JsonText.ReadsNumbers runtime.numberText runtime.readNumber isNumber)
    (jwt : Jwt (Option Json)) (settings : Settings) (config : HealthConfig)
    {state reached : Sessions.State Platform (Method (Option WorkerReport))}
    {actions : List (Sessions.Action WorkerRequest Unit)} (idle : state.sessions = [])
    (clean : ∀ entry ∈ state.store.redis, ∀ type, entry.key ≠ heartbeatKey settings type)
    (parsed : ∀ value, .start (.heartbeat value) ∈ actions → Parsed isNumber value)
    (runEq : (Program.beside (respond runtime jwt settings)).step.run state actions = some reached)
    {report : WorkerReport} (ended : some report ∈ reached.sessions.filterMap Program.returned)
    {type : WorkerType} (names : report.data.lookup "workerType" = some (.str type.text))
    (enabled : (config.aiEnabled && config.workerEnabled type) = true)
    (up : ((report.health type).entry config).2.status ≠ .down) :
    ∃ payload receivedAt setAt readAt reportedAt,
      Accounted runtime jwt settings (fun value => .start (.heartbeat value) ∈ actions) type report
        payload receivedAt setAt readAt reportedAt ∧
      reportedAt ≤ reached.store.now ∧
      (∀ timestamp, runtime.dateOf (payload.lookup "timestamp") = some timestamp →
        reportedAt - timestamp ≤ 120000) ∧
      (report.status = some (.str "stale") ∨ payload.lookup "status" = some (.str "healthy") ∨
        payload.lookup "status" = some (.str "degraded")) ∧
      report.data.lookup "internalToken" = none := by
  let came : Json → Prop := fun value => .start (.heartbeat value) ∈ actions
  have answers : ∀ request, .start request ∈ actions → ∀ store,
      HeartbeatsKept runtime jwt settings came store →
      (respond runtime jwt settings request).Safe (heartbeatContract runtime jwt settings came)
        (Answers runtime jwt settings came request) store :=
    fun request asked store valid =>
      respond_safe reads parsed (fun value same => same ▸ asked) valid
  have noneKept : HeartbeatsKept runtime jwt settings came state.store :=
    fun entry entryMem other isKey => absurd isKey (clean entry entryMem other)
  have start : Program.AllSafe (heartbeatContract runtime jwt settings came)
      (fun request => .start request ∈ actions) (Answers runtime jwt settings came) state :=
    Program.allSafe_of_idle idle noneKept
  obtain ⟨allSafe, _⟩ := start.run answers (fun _ => id) runEq
  obtain ⟨request, _, isRight⟩ := allSafe.right_of_returned ended
  rw [entry_status enabled] at up
  obtain ⟨asked, _, rfl | ⟨payload, receivedAt, setAt, readAt, reportedAt, accounted, before⟩⟩ :=
    isRight report rfl
  · exact absurd rfl up
  · obtain ⟨value, _, readEq⟩ := accounted.kept.came
    obtain ⟨_, _, _, ownType⟩ := readHeartbeat_eq_ok readEq
    have reported := accounted.reported
    have dataEq : report.data = safe payload receivedAt := by
      rw [reported]
      rfl
    have sameType : asked = type := by
      rw [dataEq, lookup_safe (by decide) (by decide), ownType] at names
      exact text_injective (Json.str.inj (Option.some.inj names))
    subst sameType
    rw [reported] at up
    obtain ⟨recent, itself⟩ := reportOf_up up
    rw [lookup_safe (by decide) (by decide)] at recent itself
    rw [← reported] at itself
    refine ⟨payload, receivedAt, setAt, readAt, reportedAt, accounted, before, recent, itself,
      ?_⟩
    rw [dataEq]
    exact lookup_safe_token

/-! ## Examples -/

/-- A runtime that writes and reads the number one, and takes every text as the first instant. -/
def workerRuntime : Runtime where
  host := ⟨fun _ => true, fun _ => some 0⟩
  numberText _ := "1"
  readNumber text := if text = "1" then some 1 else none
  dateOf
    | some (.str _) => some 0
    | _ => none

/-- The claims of the token of a document worker. -/
def workerClaims : InternalServiceClaims :=
  ⟨"nestjs-platform", "nestjs-platform", "nestjs-platform", 0, 300, "token", "document-worker", "org",
    none, none, "correlation", []⟩

/-- A library that knows one token. -/
def workerJwt : Jwt (Option Json) where
  signAsync _ _ := some (.str "token")
  verifyAsync secret issuer audience clock token :=
    if secret = "secret" ∧ issuer = "nestjs-platform" ∧ audience = "nestjs-platform" ∧
        clock < 300 ∧ token = some (.str "token") then
      some workerClaims
    else none

/-- The settings of the platform. -/
def workerSettings : Settings :=
  ⟨"nestjs-platform", "fastapi-workers", "secret", none, ["document-worker"], 300, "platform:"⟩

/-- A heartbeat of the document worker. -/
def workerEvent : Json :=
  .obj [("schemaVersion", .num 1), ("eventId", .str "event"), ("eventType", .str "worker.heartbeat"),
    ("organizationId", .str "org"), ("userId", .str "user"), ("correlationId", .str "correlation"),
    ("timestamp", .str "1970"),
    ("payload", .obj [("workerType", .str "document-worker"), ("status", .str "healthy"),
      ("timestamp", .str "1970"), ("internalToken", .str "token")])]

/-- The heartbeat arrives, and the health of its worker is asked for. -/
def workerCalls : List (Sessions.Action WorkerRequest Unit) :=
  .start (.heartbeat workerEvent) :: List.replicate 5 (.advance 0 ()) ++
    [.start (.health .documentWorker), .advance 1 (), .advance 1 ()]

theorem workerRuntime_reads :
    JsonText.ReadsNumbers workerRuntime.numberText workerRuntime.readNumber (· = 1) where
  nonempty _ _ := by simp [workerRuntime]
  chars _ _ := by simp [workerRuntime, JsonText.isNumberChar]
  read _ isOne := by
    rw [isOne]
    rfl

theorem workerEvent_parsed : Parsed (· = 1) workerEvent := by
  constructor
  · simp [workerEvent, Json.Distinct, Json.DistinctFields]
  · simp [workerEvent, Json.numbers, Json.numbersFields]

/-- The configuration with all workers. -/
def workerConfig : HealthConfig := ⟨true, fun _ => true⟩

/-- What is reported of the heartbeat. -/
def workerReport : WorkerReport :=
  reportOf workerRuntime (safe [("workerType", .str "document-worker"), ("status", .str "healthy"),
    ("timestamp", .str "1970"), ("internalToken", .str "token")] 0) 0

/-- The worker is up by its heartbeat, and its token is not shown. -/
theorem worker_up_by_heartbeat_example : workerReport.data.lookup "internalToken" = none := by
  have taken : ((Program.beside (respond workerRuntime workerJwt workerSettings)).step.run
      ⟨⟨[], 0⟩, []⟩ workerCalls).map (fun reached => reached.sessions.filterMap Program.returned) =
        some [none, some workerReport] := by
    decide +kernel
  obtain ⟨reached, runEq, returnedEq⟩ := Option.map_eq_some_iff.mp taken
  have parsed : ∀ value, .start (.heartbeat value) ∈ workerCalls → Parsed (· = 1) value := by
    intro value asked
    simp [workerCalls] at asked
    rw [asked]
    exact workerEvent_parsed
  obtain ⟨_, _, _, _, _, _, _, _, _, noToken⟩ :=
    worker_up_by_heartbeat workerRuntime_reads workerJwt workerSettings workerConfig rfl
      (fun _ entryMem => absurd entryMem List.not_mem_nil) parsed runEq
      (returnedEq ▸ List.mem_cons_of_mem _ List.mem_cons_self)
      (show workerReport.data.lookup "workerType" = some (.str WorkerType.documentWorker.text) by
        decide +kernel) rfl (by decide +kernel)
  exact noToken

end Manbaa.Health
