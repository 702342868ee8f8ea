import Manbaa.Events.SourceProcessRequested
import Manbaa.Lib.DateText
import Manbaa.Lib.UuidText

/-!
# The worker's contract for source processing events

The worker reads the JSON of an event into its own model, with UUIDs and instants instead of
texts, and computes the path of the source again from the UUIDs.  Since the canonical text of a
UUID is in lower case, it accepts the event exactly if the backend wrote the ids of the path in
lower case, and a year that its dates can hold.
-/

namespace Manbaa.Events

open Manbaa.Lib

/-! ## Coercions -/

/-- The fields of a JSON object that may only have some: `extra="forbid"`. -/
def strictFields (names : List String) : Json → Option (String → Option Json)
  | .obj fields =>
      if fields.all fun field => names.contains field.1 then some fun name => fields.lookup name
      else none
  | _ => none

/-- `str`. -/
def str? : Json → Option String
  | .str text => some text
  | _ => none

/-- `UUID`, of a text in five groups. -/
def uuid? : Json → Option UuidText.Value
  | .str text => UuidText.read? text
  | _ => none

/-- `X | None`. -/
def orNone {α : Type} (read : Json → Option α) : Json → Option (Option α)
  | .null => some none
  | value => (read value).map some

/-- A text that starts with a sign has a year of six digits. -/
def hasLongYear (text : String) : Bool :=
  match text.toList with
  | '+' :: _ | '-' :: _ => true
  | _ => false

/-- `datetime`, of a text that ends with `Z`: the year has four digits, and there is no year
zero. -/
def datetime? : Json → Option Int
  | .str text =>
      if hasLongYear text then none
      else (DateText.parse text).filter fun instant => 1 ≤ (DateText.civil instant).year
  | _ => none

/-- `StrictInt`: the text of the number is that of an integer. -/
def strictInt? : Json → Option Int
  | .num value => if value.den = 1 ∧ value.num.natAbs < 10 ^ 21 then some value.num else none
  | _ => none

/-- `Field(min_length=1, max_length=...)`. -/
def bounded? (maxLength : Nat) (value : Json) : Option String :=
  (str? value).filter fun text => 1 ≤ text.length && text.length ≤ maxLength

/-- `Literal`. -/
def literal? (allowed : List String) (value : Json) : Option String :=
  (str? value).filter allowed.contains

/-! ## Models -/

/-- `SourceProcessRequestedActor`. -/
structure SourceProcessRequestedActor where
  type : String
  id : String
  deriving DecidableEq

/-- `SourceProcessRequestedPayload`. -/
structure SourceProcessRequestedPayload where
  sourceId : UuidText.Value
  sourceVersionId : UuidText.Value
  storageBucket : String
  storageKey : String
  filename : String
  mimeType : String
  sizeBytes : Int
  checksumSha256 : String
  deriving DecidableEq

/-- `SourceProcessRequestedEvent` of the contract. -/
structure SourceProcessRequestedModel where
  eventId : UuidText.Value
  eventType : String
  occurredAt : Int
  organizationId : UuidText.Value
  workspaceId : UuidText.Value
  projectId : Option UuidText.Value
  correlationId : UuidText.Value
  causationId : Option UuidText.Value
  actor : SourceProcessRequestedActor
  payload : SourceProcessRequestedPayload
  deriving DecidableEq

/-- `SUPPORTED_SOURCE_MIME_TYPES`. -/
def supportedSourceMimeTypes : List String :=
  ["text/plain", "text/markdown", "application/pdf",
    "application/vnd.openxmlformats-officedocument.wordprocessingml.document"]

/-- `validate_filename`. -/
def validFilename (value : String) : Bool :=
  !(value == "." || value == ".." || value.toList.contains '/' || value.toList.contains '\\' ||
    value.toList.any (fun character => character.toNat < 32 || character.toNat == 127) ||
    255 < value.utf8ByteSize)

/-- The pattern of `checksum_sha256`. -/
def isChecksum (value : String) : Bool :=
  value.length == 64 && value.toList.all fun char =>
    char.isDigit || 'a' ≤ char && char ≤ 'f'

/-- The validation of an actor. -/
def actor? (value : Json) : Option SourceProcessRequestedActor := do
  let field ← strictFields ["type", "id"] value
  let type ← (field "type").bind (literal? ["user", "service"])
  let id ← (field "id").bind (bounded? 255)
  return ⟨type, id⟩

/-- The validation of a payload. -/
def payload? (value : Json) : Option SourceProcessRequestedPayload := do
  let field ← strictFields ["source_id", "source_version_id", "storage_bucket", "storage_key",
    "filename", "mime_type", "size_bytes", "checksum_sha256"] value
  let sourceId ← (field "source_id").bind uuid?
  let sourceVersionId ← (field "source_version_id").bind uuid?
  let storageBucket ← (field "storage_bucket").bind (literal? ["workspace-sources"])
  let storageKey ← (field "storage_key").bind (bounded? 1024)
  let filename ← ((field "filename").bind (bounded? 255)).filter validFilename
  let mimeType ← ((field "mime_type").bind str?).filter supportedSourceMimeTypes.contains
  let sizeBytes ← ((field "size_bytes").bind strictInt?).filter fun size => 0 ≤ size
  let checksumSha256 ← ((field "checksum_sha256").bind str?).filter isChecksum
  return {
    sourceId, sourceVersionId, storageBucket, storageKey, filename, mimeType, sizeBytes,
    checksumSha256 }

/-- `validate_storage_key`. -/
def SourceProcessRequestedModel.validStorageKey (model : SourceProcessRequestedModel) : Bool :=
  model.payload.storageKey ==
    "organizations/" ++ model.organizationId.text ++ "/workspaces/" ++ model.workspaceId.text ++
      "/" ++ "sources/" ++ model.payload.sourceId.text ++ "/versions/" ++
      model.payload.sourceVersionId.text ++ "/" ++ model.payload.filename

/-- The validation of an event. -/
def validate (value : Json) : Option SourceProcessRequestedModel := do
  let field ← strictFields ["event_id", "event_type", "occurred_at", "organization_id",
    "workspace_id", "project_id", "correlation_id", "causation_id", "actor", "payload"] value
  let eventId ← (field "event_id").bind uuid?
  let eventType ← (field "event_type").bind (literal? ["workspace.source.process.requested"])
  let occurredAt ← (field "occurred_at").bind datetime?
  let organizationId ← (field "organization_id").bind uuid?
  let workspaceId ← (field "workspace_id").bind uuid?
  let projectId ← (field "project_id").bind (orNone uuid?)
  let correlationId ← (field "correlation_id").bind uuid?
  let causationId ← (field "causation_id").bind (orNone uuid?)
  let actor ← (field "actor").bind actor?
  let payload ← (field "payload").bind payload?
  let model : SourceProcessRequestedModel :=
    { eventId, eventType, occurredAt, organizationId, workspaceId, projectId, correlationId,
      causationId, actor, payload }
  if model.validStorageKey then some model else none

/-- The model says of an event what the event says. -/
structure Denotes (model : SourceProcessRequestedModel) (event : SourceProcessRequestedEvent) :
    Prop where
  eventId : UuidText.read? event.eventId = some model.eventId
  eventType : model.eventType = event.eventType
  occurredAt : DateText.parse event.occurredAt = some model.occurredAt
  organizationId : UuidText.read? event.organizationId = some model.organizationId
  workspaceId : UuidText.read? event.workspaceId = some model.workspaceId
  projectId : event.projectId.map UuidText.read? = model.projectId.map some
  correlationId : UuidText.read? event.correlationId = some model.correlationId
  causationId : event.causationId.map UuidText.read? = model.causationId.map some
  actorType : model.actor.type = event.actor.type
  actorId : model.actor.id = event.actor.id
  sourceId : UuidText.read? event.payload.sourceId = some model.payload.sourceId
  sourceVersionId : UuidText.read? event.payload.sourceVersionId = some model.payload.sourceVersionId
  storageBucket : model.payload.storageBucket = event.payload.storageBucket
  storageKey : model.payload.storageKey = event.payload.storageKey
  filename : model.payload.filename = event.payload.filename
  mimeType : model.payload.mimeType = event.payload.mimeType
  sizeBytes : (model.payload.sizeBytes : ℚ) = event.payload.sizeBytes
  checksumSha256 : model.payload.checksumSha256 = event.payload.checksumSha256

variable {host : Host} {event : SourceProcessRequestedEvent} {instant : Int}

/-! ## Instants -/

theorem pad_succ_head {width value : Nat} (small : value < 10 ^ (width + 1)) (rest : List Char) :
    ∃ digit < 10, (DateText.pad (width + 1) value ++ rest).head? = some (Nat.digitChar digit) := by
  refine ⟨value / 10 ^ width, ?_, rfl⟩
  rw [Nat.pow_succ] at small
  exact Nat.div_lt_of_lt_mul small

/-- The text of an instant starts with a sign exactly if its year does not have four digits. -/
theorem hasLongYear_toISOString :
    hasLongYear (DateText.toISOString instant) = true ↔
      ¬ (0 ≤ (DateText.civil instant).year ∧ (DateText.civil instant).year < 10000) := by
  rw [hasLongYear, DateText.toISOString, String.toList_ofList, DateText.Civil.text,
    DateText.yearText]
  split_ifs with short positive
  · apply iff_of_false _ (not_not_intro short)
    have small : (DateText.civil instant).year.toNat < 10 ^ (3 + 1) := by omega
    obtain ⟨digit, digitSmall, headEq⟩ := pad_succ_head small _
    obtain ⟨notPlus, notMinus⟩ := DateText.digitChar_ne_sign digitSmall
    split
    · rename_i startsEq
      rw [startsEq] at headEq
      exact absurd (Option.some.inj headEq).symm notPlus
    · rename_i startsEq
      rw [startsEq] at headEq
      exact absurd (Option.some.inj headEq).symm notMinus
    · exact Bool.false_ne_true
  · exact iff_of_true rfl short
  · exact iff_of_true rfl short

/-- Dates have the years from 1 to 9999. -/
theorem datetime?_toISOString (range : DateText.inRange instant = true) :
    datetime? (.str (DateText.toISOString instant)) =
      if 1 ≤ (DateText.civil instant).year ∧ (DateText.civil instant).year ≤ 9999 then some instant
      else none := by
  rw [datetime?, DateText.parse_toISOString range]
  by_cases long : hasLongYear (DateText.toISOString instant) = true
  · have outside := hasLongYear_toISOString.mp long
    rw [if_pos long, if_neg (by omega)]
  · have inside := not_not.mp (mt hasLongYear_toISOString.mpr long)
    rw [if_neg long, Option.filter_some]
    apply if_congr _ rfl rfl
    rw [decide_eq_true_eq]
    omega

/-! ## Fields -/

theorem bounded?_of_bounds {maxLength : Nat} {text : String} (nonEmpty : text ≠ "")
    (short : text.length ≤ maxLength) : bounded? maxLength (.str text) = some text := by
  have positive : 1 ≤ text.length := by
    apply Nat.one_le_iff_ne_zero.mpr
    intro zero
    exact nonEmpty (String.length_eq_zero_iff.mp zero)
  simp [bounded?, str?, positive, short]

theorem literal?_of_mem {allowed : List String} {text : String} (mem : text ∈ allowed) :
    literal? allowed (.str text) = some text := by
  simp [literal?, str?, mem]

/-- A text or null is read as its UUID or none. -/
theorem orNone_nullable {id : Option String} {value : Option UuidText.Value}
    (readEq : id.map UuidText.read? = value.map some) :
    orNone uuid? (nullable id) = some value := by
  cases id with
  | none =>
      cases value with
      | none => rfl
      | some found => cases readEq
  | some text =>
      cases value with
      | none => cases readEq
      | some found =>
          have foundEq : UuidText.read? text = some found := Option.some.inj readEq
          change (UuidText.read? text).map some = some (some found)
          rw [foundEq, Option.map_some]

theorem actor?_json (asserted : Asserted host event) :
    actor? (.obj [("type", .str event.actor.type), ("id", .str event.actor.id)]) =
      some ⟨event.actor.type, event.actor.id⟩ := by
  have typeMem : event.actor.type ∈ ["user", "service"] := by
    rcases asserted.actorType with user | service
    · simp [user]
    · simp [service]
  have short : event.actor.id.length ≤ 255 :=
    (length_le_utf16Length _).trans asserted.actorId.2
  simp [actor?, strictFields, List.lookup_cons, literal?_of_mem typeMem,
    bounded?_of_bounds asserted.actorId.1 short]

theorem strictInt?_of_safe {size : ℚ} (safe : isSafeInteger size = true) :
    strictInt? (.num size) = some size.num := by
  simp only [isSafeInteger, maxSafeInteger, Bool.and_eq_true, beq_iff_eq] at safe
  have bound := of_decide_eq_true safe.2
  exact if_pos ⟨safe.1, by omega⟩

theorem cast_num_of_safe {size : ℚ} (safe : isSafeInteger size = true) : (size.num : ℚ) = size := by
  simp only [isSafeInteger, Bool.and_eq_true, beq_iff_eq] at safe
  exact Rat.den_eq_one_iff size |>.mp safe.1

/-- The fields of a payload are read one after the other. -/
theorem payload?_eq (payload : SourceProcessPayload) :
    payload? payload.json = (do
      let sourceId ← UuidText.read? payload.sourceId
      let sourceVersionId ← UuidText.read? payload.sourceVersionId
      let storageBucket ← literal? ["workspace-sources"] (.str payload.storageBucket)
      let storageKey ← bounded? 1024 (.str payload.storageKey)
      let filename ← (bounded? 255 (.str payload.filename)).filter validFilename
      let mimeType ← (some payload.mimeType).filter supportedSourceMimeTypes.contains
      let sizeBytes ← (strictInt? (.num payload.sizeBytes)).filter fun size => 0 ≤ size
      let checksumSha256 ← (some payload.checksumSha256).filter isChecksum
      return {
        sourceId, sourceVersionId, storageBucket, storageKey, filename, mimeType, sizeBytes,
        checksumSha256 }) :=
  rfl

theorem validFilename_of_safe {filename : String} (safe : isSafeFilename filename = true) :
    validFilename filename = true := by
  simp only [isSafeFilename, hasControlCharacter, Bool.and_eq_true, bne_iff_ne, Bool.not_eq_true',
    decide_eq_true_eq] at safe
  obtain ⟨⟨⟨⟨⟨⟨_, size⟩, notDot⟩, notDots⟩, noSlash⟩, noBackslash⟩, noControl⟩ := safe
  rw [validFilename, noSlash, noBackslash, noControl]
  simp [notDot, notDots, size]

theorem payload?_json {sourceId sourceVersionId : UuidText.Value} (asserted : Asserted host event)
    (sourceEq : UuidText.read? event.payload.sourceId = some sourceId)
    (versionEq : UuidText.read? event.payload.sourceVersionId = some sourceVersionId) :
    payload? event.payload.json = some
      { sourceId := sourceId
        sourceVersionId := sourceVersionId
        storageBucket := event.payload.storageBucket
        storageKey := event.payload.storageKey
        filename := event.payload.filename
        mimeType := event.payload.mimeType
        sizeBytes := event.payload.sizeBytes.num
        checksumSha256 := event.payload.checksumSha256 } := by
  have key := bounded?_of_bounds asserted.storageKey.1
    ((length_le_utf8ByteSize _).trans asserted.storageKey.2.1)
  have safe := asserted.filename
  simp only [isSafeFilename, Bool.and_eq_true, bne_iff_ne, decide_eq_true_eq] at safe
  have name := bounded?_of_bounds safe.1.1.1.1.1.1
    ((length_le_utf8ByteSize _).trans safe.1.1.1.1.1.2)
  have mime : event.payload.mimeType ∈ supportedSourceMimeTypes := asserted.mimeType
  have positive : 0 ≤ event.payload.sizeBytes.num := Rat.num_nonneg.mpr asserted.sizeBytes.2
  have checksum : isChecksum event.payload.checksumSha256 = true := asserted.checksumSha256
  rw [payload?_eq, sourceEq, versionEq,
    literal?_of_mem (List.mem_singleton.mpr asserted.storageBucket), key, name,
    strictInt?_of_safe asserted.sizeBytes.1]
  simp [Option.filter, validFilename_of_safe asserted.filename, mime, positive, checksum]

/-! ## Events -/

/-- The fields of an event are read one after the other. -/
theorem validate_eq (event : SourceProcessRequestedEvent) :
    validate event.json = (do
      let eventId ← UuidText.read? event.eventId
      let eventType ← literal? ["workspace.source.process.requested"] (.str event.eventType)
      let occurredAt ← datetime? (.str event.occurredAt)
      let organizationId ← UuidText.read? event.organizationId
      let workspaceId ← UuidText.read? event.workspaceId
      let projectId ← orNone uuid? (nullable event.projectId)
      let correlationId ← UuidText.read? event.correlationId
      let causationId ← orNone uuid? (nullable event.causationId)
      let actor ← actor? (.obj [("type", .str event.actor.type), ("id", .str event.actor.id)])
      let payload ← payload? event.payload.json
      let model : SourceProcessRequestedModel :=
        { eventId, eventType, occurredAt, organizationId, workspaceId, projectId, correlationId,
          causationId, actor, payload }
      if model.validStorageKey then some model else none) :=
  rfl

/-- The UUIDs of an optional id. -/
theorem exists_read_of_all {id : Option String}
    (readable : ∀ text, host.validateUuid text = true → (UuidText.read? text).isSome)
    (valid : id.all host.validateUuid = true) :
    ∃ value : Option UuidText.Value, id.map UuidText.read? = value.map some := by
  cases id with
  | none => exact ⟨none, rfl⟩
  | some text =>
      obtain ⟨value, valueEq⟩ := Option.isSome_iff_exists.mp (readable text valid)
      exact ⟨some value, congrArg some valueEq⟩

/-- An asserted event has a model that says what it says. -/
theorem exists_denotes (readable : ∀ text, host.validateUuid text = true → (UuidText.read? text).isSome)
    (asserted : Asserted host event) (range : DateText.inRange instant = true)
    (timed : event.occurredAt = DateText.toISOString instant) :
    ∃ model, Denotes model event := by
  obtain ⟨eventId, eventIdEq⟩ := Option.isSome_iff_exists.mp (readable _ asserted.eventId)
  obtain ⟨organizationId, organizationEq⟩ :=
    Option.isSome_iff_exists.mp (readable _ asserted.organizationId)
  obtain ⟨workspaceId, workspaceEq⟩ :=
    Option.isSome_iff_exists.mp (readable _ asserted.workspaceId)
  obtain ⟨projectId, projectEq⟩ := exists_read_of_all readable asserted.projectId
  obtain ⟨correlationId, correlationEq⟩ :=
    Option.isSome_iff_exists.mp (readable _ asserted.correlationId)
  obtain ⟨causationId, causationEq⟩ := exists_read_of_all readable asserted.causationId
  obtain ⟨sourceId, sourceEq⟩ := Option.isSome_iff_exists.mp (readable _ asserted.sourceId)
  obtain ⟨sourceVersionId, versionEq⟩ :=
    Option.isSome_iff_exists.mp (readable _ asserted.sourceVersionId)
  have occurredAt : DateText.parse event.occurredAt = some instant := by
    rw [timed, DateText.parse_toISOString range]
  exact ⟨⟨eventId, event.eventType, instant, organizationId, workspaceId, projectId, correlationId,
      causationId, ⟨event.actor.type, event.actor.id⟩,
      ⟨sourceId, sourceVersionId, event.payload.storageBucket, event.payload.storageKey,
        event.payload.filename, event.payload.mimeType, event.payload.sizeBytes.num,
        event.payload.checksumSha256⟩⟩,
    eventIdEq, rfl, occurredAt, organizationEq, workspaceEq, projectEq, correlationEq, causationEq,
    rfl, rfl, sourceEq, versionEq, rfl, rfl, rfl, rfl, cast_num_of_safe asserted.sizeBytes.1, rfl⟩

/-- The worker reads an asserted event as the model that says what it says, if the year is one
that dates have and the path is the one of the model. -/
theorem validate_json {model : SourceProcessRequestedModel} (asserted : Asserted host event)
    (denotes : Denotes model event) (range : DateText.inRange instant = true)
    (timed : event.occurredAt = DateText.toISOString instant) :
    validate event.json =
      if (1 ≤ (DateText.civil instant).year ∧ (DateText.civil instant).year ≤ 9999) ∧
        model.validStorageKey then some model
      else none := by
  obtain ⟨eventId, eventType, occurredAt, organizationId, workspaceId, projectId, correlationId,
    causationId, ⟨actorType, actorId⟩, sourceId, sourceVersionId, storageBucket, storageKey,
    filename, mimeType, sizeBytes, checksumSha256⟩ := model
  obtain ⟨eventIdEq, rfl, occurredEq, organizationEq, workspaceEq, projectEq, correlationEq,
    causationEq, rfl, rfl, sourceEq, versionEq, rfl, rfl, rfl, rfl, sizeEq, rfl⟩ := denotes
  have eventType : event.eventType ∈ ["workspace.source.process.requested"] :=
    List.mem_singleton.mpr asserted.eventType
  rw [timed, DateText.parse_toISOString range] at occurredEq
  obtain rfl := Option.some.inj occurredEq
  have sizeNum : event.payload.sizeBytes.num = sizeBytes := by
    rw [← sizeEq, Rat.num_intCast]
  rw [validate_eq, eventIdEq, literal?_of_mem eventType, timed, datetime?_toISOString range,
    organizationEq, workspaceEq, orNone_nullable projectEq, correlationEq,
    orNone_nullable causationEq, actor?_json asserted, payload?_json asserted sourceEq versionEq,
    sizeNum]
  split_ifs with held both
  · simp [both.2]
  · simp_all
  · simp_all
  · rfl

theorem text_of_denoted {text : String} {value : UuidText.Value}
    (readEq : UuidText.read? text = some value) : value.text = lowerCase text := by
  apply String.toList_inj.mp
  rw [UuidText.text_of_read? readEq, lowerCase, String.toList_ofList]

/-- The paths agree exactly if the ids are written in lower case. -/
theorem validStorageKey_iff {model : SourceProcessRequestedModel} (asserted : Asserted host event)
    (denotes : Denotes model event) :
    model.validStorageKey = true ↔
      event.organizationId = lowerCase event.organizationId ∧
        event.workspaceId = lowerCase event.workspaceId ∧
        event.payload.sourceId = lowerCase event.payload.sourceId ∧
        event.payload.sourceVersionId = lowerCase event.payload.sourceVersionId := by
  have keyEq : model.validStorageKey = true ↔
      event.payload.storageKey = sourceKey model.organizationId.text model.workspaceId.text
        model.payload.sourceId.text model.payload.sourceVersionId.text event.payload.filename := by
    rw [SourceProcessRequestedModel.validStorageKey, beq_iff_eq, denotes.storageKey,
      denotes.filename]
    simp only [sourceKey, String.append_assoc]
    rfl
  rw [keyEq, asserted.storageKey.2.2, text_of_denoted denotes.organizationId,
    text_of_denoted denotes.workspaceId, text_of_denoted denotes.sourceId,
    text_of_denoted denotes.sourceVersionId]
  exact sourceKey_eq_iff (length_lowerCase _).symm (length_lowerCase _).symm
    (length_lowerCase _).symm (length_lowerCase _).symm

/-- The worker reads a created event, with what it says, exactly if the ids of its path are
written in lower case and its year has dates. -/
theorem contract_accepts_iff {input : CreateSourceProcessRequestedEventInput}
    (readable : ∀ text, host.validateUuid text = true → (UuidText.read? text).isSome)
    (created : createSourceProcessRequestedEvent host input = .ok event)
    (range : DateText.inRange instant = true)
    (timed : event.occurredAt = DateText.toISOString instant) :
    (∃ model, validate event.json = some model ∧ Denotes model event) ↔
      (event.organizationId = lowerCase event.organizationId ∧
        event.workspaceId = lowerCase event.workspaceId ∧
        event.payload.sourceId = lowerCase event.payload.sourceId ∧
        event.payload.sourceVersionId = lowerCase event.payload.sourceVersionId) ∧
      1 ≤ (DateText.civil instant).year ∧ (DateText.civil instant).year ≤ 9999 := by
  have asserted := asserted_of_created created
  obtain ⟨model, denotes⟩ := exists_denotes readable asserted range timed
  rw [← validStorageKey_iff asserted denotes, validate_json asserted denotes range timed]
  constructor
  · rintro ⟨other, validated, _⟩
    split_ifs at validated with valid
    exact ⟨valid.2, valid.1⟩
  · rintro ⟨path, year⟩
    exact ⟨model, if_pos ⟨year, path⟩, denotes⟩

/-! ## Examples -/

/-- `validate` of the package: versions 1 to 5 of the standard variant, and the nil UUID. -/
def validateUuid (text : String) : Bool :=
  (UuidText.read? text).isSome &&
    (text == "00000000-0000-0000-0000-000000000000" ||
      ((text.toList.getD 14 ' ' ∈ ['1', '2', '3', '4', '5']) &&
        (text.toList.getD 19 ' ').toLower ∈ ['8', '9', 'a', 'b']))

/-- What the examples run on. -/
def exampleHost : Host where
  validateUuid := validateUuid
  dateParse := DateText.parse
  randomUuid := "1b4e28ba-2fa1-41d2-883f-0016d3cca427"
  toISOStringNow := DateText.toISOString 1783684800000

/-- The input for an upload into a workspace, with the id of the workspace as the client wrote
it. -/
def exampleInput (workspaceId : String) : CreateSourceProcessRequestedEventInput where
  eventId := none
  occurredAt := none
  organizationId := "11111111-1111-4111-8111-111111111111"
  workspaceId := workspaceId
  projectId := none
  correlationId := "55555555-5555-4555-8555-555555555555"
  causationId := none
  actor := ⟨"user", "66666666-6666-4666-8666-666666666666"⟩
  payload :=
    { sourceId := "77777777-7777-4777-8777-777777777777"
      sourceVersionId := "88888888-8888-4888-8888-888888888888"
      storageBucket := "workspace-sources"
      storageKey := sourceKey "11111111-1111-4111-8111-111111111111" workspaceId
        "77777777-7777-4777-8777-777777777777" "88888888-8888-4888-8888-888888888888" "brief.txt"
      filename := "brief.txt"
      mimeType := "text/plain"
      sizeBytes := 12
      checksumSha256 := "a948904f2f0f479b8f8197694b30184b0d2ed1c1cd2a1ec0fb85d299a192a447" }

theorem readable_of_validateUuid {text : String} (valid : validateUuid text = true) :
    (UuidText.read? text).isSome :=
  (Bool.and_eq_true_iff.mp valid).1

theorem contract_accepts_iff_example :
    ∃ model, validate ((exampleInput "abcdef12-2222-4222-8222-222222222222").event exampleHost).json =
        some model ∧
      Denotes model ((exampleInput "abcdef12-2222-4222-8222-222222222222").event exampleHost) := by
  have created : createSourceProcessRequestedEvent exampleHost
      (exampleInput "abcdef12-2222-4222-8222-222222222222") =
      .ok ((exampleInput "abcdef12-2222-4222-8222-222222222222").event exampleHost) := by
    decide +kernel
  have range : DateText.inRange 1783684800000 = true := by
    decide +kernel
  exact (contract_accepts_iff (fun _ => readable_of_validateUuid) created range rfl).mpr
    (by decide +kernel)

/-- The worker refuses the event of an upload by a client that wrote the id of the workspace in
upper case. -/
theorem contract_refuses :
    ¬ ∀ (host : Host) (input : CreateSourceProcessRequestedEventInput)
      (event : SourceProcessRequestedEvent) (instant : Int),
      (∀ text, host.validateUuid text = true → (UuidText.read? text).isSome) →
      createSourceProcessRequestedEvent host input = .ok event →
      DateText.inRange instant = true → event.occurredAt = DateText.toISOString instant →
      ∃ model, validate event.json = some model ∧ Denotes model event := by
  intro all
  have created : createSourceProcessRequestedEvent exampleHost
      (exampleInput "ABCDEF12-2222-4222-8222-222222222222") =
      .ok ((exampleInput "ABCDEF12-2222-4222-8222-222222222222").event exampleHost) := by
    decide +kernel
  have range : DateText.inRange 1783684800000 = true := by
    decide +kernel
  have refused : validate
      ((exampleInput "ABCDEF12-2222-4222-8222-222222222222").event exampleHost).json = none := by
    decide +kernel
  obtain ⟨model, validated, _⟩ := all exampleHost _ _ _ (fun _ => readable_of_validateUuid) created
    range rfl
  cases refused.symm.trans validated

end Manbaa.Events
