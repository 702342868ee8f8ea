import Manbaa.Events.SourceContract
import Manbaa.Storage.SourcePath

/-!
# Names of uploaded sources

A client chooses the name of the file that it uploads.  What is made of the name becomes the
last segment of the key of the stored object and is repeated in the event that asks for the
processing of the source, so that three more validators see it, the last of them when the
object has been stored.
-/

namespace Manbaa.Sources

open Manbaa.Lib
open Manbaa.Storage (ascii isNameUnit PlainName UuidText WorkspaceObjectContext
  WorkspaceStorageService buildSourceObjectPath)

/-- `hasControlCharacter`. -/
def hasControlCharacter (value : CodeUnits) : Bool := Storage.hasControlCharacter value

/-- A text without the hyphen that it starts with. -/
def stripLeadingHyphen (text : CodeUnits) : CodeUnits :=
  if text.head? = some (ascii '-') then text.tail else text

/-- `replace(/^-|-$/g, "")`. -/
def stripHyphens (text : CodeUnits) : CodeUnits :=
  if (stripLeadingHyphen text).getLast? = some (ascii '-') then (stripLeadingHyphen text).dropLast
  else stripLeadingHyphen text

/-- `Array.from(text).slice(-count).join("")`. -/
def lastCharacters (count : Nat) (text : CodeUnits) : CodeUnits :=
  ((CodeUnits.characters text).drop ((CodeUnits.characters text).length - count)).flatten

/-- A trimmed name is no name of a file. -/
def isInvalidFilename (normalized : CodeUnits) : Bool :=
  normalized.isEmpty || normalized == CodeUnits.ofString "." ||
    normalized == CodeUnits.ofString ".." || normalized.head? == some (ascii '/') ||
    normalized.head? == some (ascii '\\') || normalized.contains (ascii '/') ||
    normalized.contains (ascii '\\') || hasControlCharacter normalized

/-- A trimmed name with everything replaced that may not stand in a name. -/
def sanitized (normalized : CodeUnits) : CodeUnits :=
  stripHyphens <| CodeUnits.replaceRuns (· == ascii '-') (ascii '-') <|
    CodeUnits.replaceRuns (fun unit => !isNameUnit unit) (ascii '-') normalized

/-- `sanitizeSourceFilename`, where `nfkc` is what the runtime normalizes a text to. -/
def sanitizeSourceFilename (nfkc : CodeUnits → CodeUnits) (filename : CodeUnits) :
    Except Exception CodeUnits := do
  let normalized := CodeUnits.trim (nfkc filename)
  check (!isInvalidFilename normalized) (.badRequest "Source filename is invalid.")
  let bounded := lastCharacters 255 (sanitized normalized)
  check
    (!(bounded.isEmpty || bounded == CodeUnits.ofString "." || bounded == CodeUnits.ofString ".."))
    (.badRequest "Source filename is invalid.")
  return bounded

example : sanitizeSourceFilename id (CodeUnits.ofString " Brand brief 2026.txt ") =
    .ok (CodeUnits.ofString "Brand-brief-2026.txt") := by
  decide +kernel

variable {nfkc : CodeUnits → CodeUnits} {originalname filename text : CodeUnits} {unit : UInt16}

/-! ## What is left of a name -/

theorem mem_of_mem_stripHyphens (mem : unit ∈ stripHyphens text) : unit ∈ text := by
  have leading : unit ∈ stripLeadingHyphen text := by
    unfold stripHyphens at mem
    split at mem
    · exact List.dropLast_subset _ mem
    · exact mem
  unfold stripLeadingHyphen at leading
  split at leading
  · exact List.mem_of_mem_tail leading
  · exact leading

theorem mem_of_mem_lastCharacters {count : Nat} (mem : unit ∈ lastCharacters count text) :
    unit ∈ text := by
  obtain ⟨character, characterMem, mem⟩ := List.mem_flatten.mp mem
  rw [← CodeUnits.flatten_characters text]
  exact List.mem_flatten.mpr ⟨character, List.mem_of_mem_drop characterMem, mem⟩

/-- Each of the last characters of an ASCII text is one code unit. -/
theorem length_lastCharacters_le {count : Nat} (isAscii : ∀ unit ∈ text, unit < 0x80) :
    (lastCharacters count text).length ≤ count := by
  rw [lastCharacters, CodeUnits.characters_of_ascii isAscii, ← List.map_drop,
    ← List.flatMap_def, List.flatMap_singleton', List.length_drop, List.length_map]
  omega

/-- Only units of names are left. -/
theorem isNameUnit_of_mem_sanitized (mem : unit ∈ sanitized text) : isNameUnit unit = true := by
  rcases CodeUnits.mem_replaceRunsFrom (mem_of_mem_stripHyphens mem) with rfl | ⟨mem, _⟩
  · decide
  · rcases CodeUnits.mem_replaceRunsFrom mem with rfl | ⟨_, kept⟩
    · decide
    · simpa using kept

/-- A name is refused, or what is left of it is a plain name that is short enough. -/
theorem sanitizeSourceFilename_cases (nfkc : CodeUnits → CodeUnits) (originalname : CodeUnits) :
    sanitizeSourceFilename nfkc originalname =
        .error (.badRequest "Source filename is invalid.") ∨
      ∃ filename, sanitizeSourceFilename nfkc originalname = .ok filename ∧
        PlainName filename ∧ filename.length ≤ 255 := by
  cases result : sanitizeSourceFilename nfkc originalname with
  | error exception =>
      refine Or.inl (congrArg Except.error ?_)
      simp only [sanitizeSourceFilename, except_bind_eq_error_iff, check_eq_error_iff] at result
      rcases result with ⟨_, same⟩ | ⟨_, _, ⟨_, same⟩ | ⟨_, _, impossible⟩⟩
      · exact same.symm
      · exact same.symm
      · cases impossible
  | ok filename =>
      refine Or.inr ⟨filename, rfl, ?_⟩
      simp only [sanitizeSourceFilename, except_bind_eq_ok_iff, check_eq_ok_iff,
        exists_done] at result
      obtain ⟨_, named, returned⟩ := result
      have bounded := Except.ok.inj returned
      rw [bounded] at named
      have units : ∀ unit ∈ sanitized (CodeUnits.trim (nfkc originalname)),
          isNameUnit unit = true := fun unit => isNameUnit_of_mem_sanitized
      have isAscii : ∀ unit ∈ sanitized (CodeUnits.trim (nfkc originalname)), unit < 0x80 :=
        fun unit mem => UInt16.lt_trans (Storage.nameUnit_bounds (units unit mem)).2.1 (by decide)
      simp only [Bool.not_eq_true', Bool.or_eq_false_iff, List.isEmpty_eq_false_iff,
        beq_eq_false_iff_ne] at named
      rw [← bounded] at named ⊢
      exact ⟨⟨fun unit mem => units unit (mem_of_mem_lastCharacters mem), named.1.1, named.1.2,
        named.2⟩, length_lastCharacters_le isAscii⟩

/-! ## Events -/

/-- What an event says of a source, beside its key and its file name, passes the
assertion. -/
structure Describes (host : Events.Host) (ctx : WorkspaceObjectContext)
    (sourceId sourceVersionId : UuidText) (event : Events.SourceProcessRequestedEvent) : Prop where
  eventId : host.validateUuid event.eventId = true
  eventType : event.eventType = Events.sourceProcessRequested
  occurredAt : (host.dateParse event.occurredAt).isSome = true ∧
    Events.endsWithZone event.occurredAt = true
  organizationId : host.validateUuid event.organizationId = true ∧
    CodeUnits.ofString event.organizationId = ctx.organizationId.text
  workspaceId : host.validateUuid event.workspaceId = true ∧
    CodeUnits.ofString event.workspaceId = ctx.workspaceId.text
  projectId : event.projectId.all host.validateUuid = true
  correlationId : host.validateUuid event.correlationId = true
  causationId : event.causationId.all host.validateUuid = true
  actorType : event.actor.type = "user" ∨ event.actor.type = "service"
  actorId : event.actor.id ≠ "" ∧ Events.utf16Length event.actor.id ≤ 255
  sourceId : host.validateUuid event.payload.sourceId = true ∧
    CodeUnits.ofString event.payload.sourceId = sourceId.text
  sourceVersionId : host.validateUuid event.payload.sourceVersionId = true ∧
    CodeUnits.ofString event.payload.sourceVersionId = sourceVersionId.text
  storageBucket : event.payload.storageBucket = "workspace-sources"
  mimeType : event.payload.mimeType ∈ Events.sourceProcessMimeTypes
  sizeBytes : Events.isSafeInteger event.payload.sizeBytes = true ∧ 0 ≤ event.payload.sizeBytes
  checksumSha256 : Events.isSha256 event.payload.checksumSha256 = true

variable {host : Events.Host} {event : Events.SourceProcessRequestedEvent}
  {ctx : WorkspaceObjectContext} {sourceId sourceVersionId : UuidText}

theorem utf8ByteSize_ofList_of_ascii {chars : List Char}
    (small : ∀ char ∈ chars, char.toNat < 0x80) :
    (String.ofList chars).utf8ByteSize = chars.length := by
  induction chars with
  | nil => rfl
  | cons char rest ih =>
      have single : char.utf8Size = 1 := by
        have bound := small char (List.mem_cons_self ..)
        have isOne : char.val ≤ 0x7f := UInt32.le_iff_toNat_le.mpr (Nat.le_of_lt_succ bound)
        exact if_pos isOne
      rw [← List.singleton_append, String.ofList_append, String.utf8ByteSize_append,
        ← String.singleton_eq_ofList, String.utf8ByteSize_singleton, single,
        ih fun other mem => small other (List.mem_cons_of_mem _ mem), List.singleton_append,
        List.length_cons, Nat.add_comm]

/-- A text of ASCII has as many bytes as code units. -/
theorem utf8ByteSize_of_ascii {text : String}
    (isAscii : ∀ unit ∈ CodeUnits.ofString text, unit < 0x80) :
    text.utf8ByteSize = (CodeUnits.ofString text).length := by
  have small := CodeUnits.ascii_of_ofString isAscii
  have size := utf8ByteSize_ofList_of_ascii small
  rw [String.ofList_toList] at size
  rw [size, CodeUnits.ofString_of_ascii small, List.length_map]

/-- A short plain name is a safe file name. -/
theorem isSafeFilename_of_plain {name : String} (plain : PlainName (CodeUnits.ofString name))
    (short : (CodeUnits.ofString name).length ≤ 255) : Events.isSafeFilename name = true := by
  have isAscii : ∀ unit ∈ CodeUnits.ofString name, unit < 0x80 := fun unit mem =>
    UInt16.lt_trans (plain.printable unit mem).2 (by decide)
  have small := CodeUnits.ascii_of_ofString isAscii
  have units : ∀ char ∈ name.toList, ascii char ∈ CodeUnits.ofString name := by
    intro char mem
    rw [CodeUnits.ofString_of_ascii small]
    exact List.mem_map_of_mem mem
  have nonempty : name ≠ "" := by
    rintro rfl
    exact plain.nonempty rfl
  have notDot : name ≠ "." := by
    rintro rfl
    exact plain.notDot rfl
  have notDotDot : name ≠ ".." := by
    rintro rfl
    exact plain.notDotDot rfl
  have noSlash : '/' ∉ name.toList := fun mem => plain.slash_notMem (units _ mem)
  have noBackslash : '\\' ∉ name.toList := fun mem => plain.backslash_notMem (units _ mem)
  have noControl : Events.hasControlCharacter name = false := by
    refine List.any_eq_false.mpr fun char mem => ?_
    obtain ⟨visible, below⟩ := plain.printable _ (units char mem)
    have value : (ascii char).toNat = char.toNat :=
      UInt16.toNat_ofNat_of_lt' (Nat.lt_of_lt_of_le (small char mem) (by decide))
    have low : 32 ≤ char.toNat := value ▸ UInt16.le_iff_toNat_le.mp visible
    have high : char.toNat < 127 := value ▸ UInt16.lt_iff_toNat_lt.mp below
    simp only [Bool.or_eq_true, decide_eq_true_eq, beq_iff_eq]
    omega
  simp [Events.isSafeFilename, nonempty, notDot, notDotDot, noSlash, noBackslash, noControl,
    utf8ByteSize_of_ascii isAscii, short]

/-- An event with the key of a source and its name passes the assertion. -/
theorem assert_of_describes {name : CodeUnits} (plain : PlainName name) (short : name.length ≤ 255)
    (describes : Describes host ctx sourceId sourceVersionId event)
    (filename : CodeUnits.ofString event.payload.filename = name)
    (storageKey : CodeUnits.ofString event.payload.storageKey =
      Storage.pathOf (Storage.sourceNames ctx sourceId sourceVersionId name)) :
    Events.assertSourceProcessRequestedEvent host event = .ok () := by
  have safe : Events.isSafeFilename event.payload.filename = true := by
    subst filename
    exact isSafeFilename_of_plain plain short
  have isAscii : ∀ unit ∈ CodeUnits.ofString event.payload.storageKey, unit < 0x80 := by
    rw [storageKey]
    exact fun unit mem => UInt16.lt_trans (Storage.printable_pathOf
      (Storage.plainName_of_mem_sourceNames plain) unit mem).2 (by decide)
  have written : CodeUnits.ofString event.payload.storageKey = CodeUnits.ofString
      (Events.sourceKey event.organizationId event.workspaceId event.payload.sourceId
        event.payload.sourceVersionId event.payload.filename) := by
    simp only [storageKey, Storage.pathOf_sourceNames, Events.sourceKey, CodeUnits.ofString_append,
      describes.organizationId.2, describes.workspaceId.2, describes.sourceId.2,
      describes.sourceVersionId.2, filename, List.append_assoc]
  have keyEq := CodeUnits.ofString_injective_of_ascii isAscii written
  have keyLength : event.payload.storageKey.utf8ByteSize ≤ 1024 := by
    rw [utf8ByteSize_of_ascii isAscii, storageKey]
    exact Storage.length_sourceNames_le short
  have keyNonempty : event.payload.storageKey ≠ "" := by
    intro isEmpty
    rw [isEmpty, Storage.pathOf_sourceNames] at storageKey
    exact plain.nonempty (List.append_eq_nil_iff.mp storageKey.symm).2
  simp only [Events.assertSourceProcessRequestedEvent, Events.assertUuid,
    Events.assertNullableUuid, Events.assertTimezoneAwareTimestamp, Events.assertActorType,
    Events.assertStorageKey, except_bind_eq_ok_iff, check_eq_ok_iff, exists_done, Bool.and_eq_true,
    Bool.or_eq_true, beq_iff_eq, bne_iff_ne, decide_eq_true_eq, List.contains_iff_mem]
  exact ⟨describes.eventId, describes.eventType, describes.occurredAt, describes.organizationId.1,
    describes.workspaceId.1, describes.projectId, describes.correlationId, describes.causationId,
    describes.actorType, describes.actorId, describes.sourceId.1, describes.sourceVersionId.1,
    describes.storageBucket, safe, ⟨keyNonempty, keyLength, keyEq⟩, describes.mimeType,
    describes.sizeBytes, describes.checksumSha256⟩

/-! ## Accepted names -/

/-- No validator behind it refuses a name: its key is built and accepted as it is, and an event
with the key and the name passes its assertion. -/
def NeverFails (filename : CodeUnits) : Prop :=
  ∀ (service : WorkspaceStorageService) (ctx : WorkspaceObjectContext)
    (sourceId sourceVersionId : UuidText), ∃ key,
      buildSourceObjectPath ctx sourceId.text sourceVersionId.text filename = .ok key ∧
      (∀ bucket ∈ service.allowedBuckets,
        service.validateWorkspaceObjectPath ctx bucket key = .ok key) ∧
      ∀ (host : Events.Host) (event : Events.SourceProcessRequestedEvent),
        Describes host ctx sourceId sourceVersionId event →
        CodeUnits.ofString event.payload.filename = filename →
        CodeUnits.ofString event.payload.storageKey = key →
        Events.assertSourceProcessRequestedEvent host event = .ok ()

theorem neverFails_of_plain {name : CodeUnits} (plain : PlainName name)
    (short : name.length ≤ 255) : NeverFails name := by
  intro service ctx sourceId sourceVersionId
  refine ⟨_, Storage.buildSourceObjectPath_of_plain plain, ?_, ?_⟩
  · intro bucket allowed
    exact Storage.validate_sourceNames plain short allowed
  · intro host event describes filename storageKey
    exact assert_of_describes plain short describes filename storageKey

/-- Whatever a client calls its file, the name is refused before anything is stored, or what is
made of it is a short plain name that nothing refuses later. -/
theorem sanitized_name_never_fails (nfkc : CodeUnits → CodeUnits) (originalname : CodeUnits) :
    sanitizeSourceFilename nfkc originalname =
        .error (.badRequest "Source filename is invalid.") ∨
      ∃ filename, sanitizeSourceFilename nfkc originalname = .ok filename ∧
        CodeUnits.byteLength filename ≤ 255 ∧ (∀ unit ∈ filename, isNameUnit unit = true) ∧
        filename ≠ CodeUnits.ofString "." ∧ filename ≠ CodeUnits.ofString ".." ∧
        NeverFails filename := by
  refine (sanitizeSourceFilename_cases nfkc originalname).imp_right ?_
  rintro ⟨filename, accepted, plain, short⟩
  have isAscii : ∀ unit ∈ filename, unit < 0x80 := fun unit mem =>
    UInt16.lt_trans (plain.printable unit mem).2 (by decide)
  have bytes : CodeUnits.byteLength filename ≤ 255 := by
    rwa [CodeUnits.byteLength_of_ascii isAscii]
  exact ⟨filename, accepted, bytes, plain.units, plain.notDot, plain.notDotDot,
    neverFails_of_plain plain short⟩

/-- The event of the example. -/
def exampleUploadEvent : Events.SourceProcessRequestedEvent :=
  (Events.exampleInput "abcdef12-2222-4222-8222-222222222222").event Events.exampleHost

/-- The context of the event. -/
def exampleUploadContext : WorkspaceObjectContext where
  organizationId := ⟨CodeUnits.ofString exampleUploadEvent.organizationId, by decide +kernel⟩
  workspaceId := ⟨CodeUnits.ofString exampleUploadEvent.workspaceId, by decide +kernel⟩

theorem sanitized_name_never_fails_example :
    Events.assertSourceProcessRequestedEvent Events.exampleHost exampleUploadEvent = .ok () := by
  let sourceId : UuidText := ⟨CodeUnits.ofString exampleUploadEvent.payload.sourceId, by decide +kernel⟩
  let sourceVersionId : UuidText :=
    ⟨CodeUnits.ofString exampleUploadEvent.payload.sourceVersionId, by decide +kernel⟩
  have describes :
      Describes Events.exampleHost exampleUploadContext sourceId sourceVersionId exampleUploadEvent := by
    constructor <;> decide +kernel
  have accepted : sanitizeSourceFilename id (CodeUnits.ofString " brief.txt") =
      .ok (CodeUnits.ofString "brief.txt") := by
    decide +kernel
  have built : buildSourceObjectPath exampleUploadContext sourceId.text sourceVersionId.text
      (CodeUnits.ofString "brief.txt") =
      .ok (CodeUnits.ofString exampleUploadEvent.payload.storageKey) := by
    decide +kernel
  rcases sanitized_name_never_fails id (CodeUnits.ofString " brief.txt") with
    refused | ⟨filename, acceptedEq, _, _, _, _, never⟩
  · cases accepted.symm.trans refused
  · have filenameEq := Except.ok.inj (accepted.symm.trans acceptedEq)
    rw [← filenameEq] at never
    obtain ⟨key, builtEq, _, passes⟩ := never ⟨[]⟩ exampleUploadContext sourceId sourceVersionId
    exact passes _ _ describes rfl (Except.ok.inj (built.symm.trans builtEq))

end Manbaa.Sources
