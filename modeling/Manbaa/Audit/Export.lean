import Manbaa.Lib.Csv
import Manbaa.Lib.DateText
import Manbaa.Lib.Json
import Manbaa.Lib.Utf8

/-!
# The export of the audit log

An export writes one record for each entry after a header.  Whatever the entries hold, the file
has exactly these records, each with the fields of its entry.
-/

namespace Manbaa.Audit

open Manbaa.Lib

/-- `ActorType`. -/
inductive ActorType where
  | user
  | aiAgent
  | system
  deriving DecidableEq

/-- The text of a type of actor. -/
def ActorType.text : ActorType → String
  | .user => "user"
  | .aiAgent => "ai_agent"
  | .system => "system"

/-- `AuditLog`; a JSON column that holds nothing reads as `null`.  Instants are in milliseconds,
in the range of dates. -/
structure AuditLog where
  id : String
  workflowId : Option String
  actorId : Option String
  actorType : ActorType
  eventType : String
  elementId : Option String
  createdAt : Int
  dated : DateText.inRange createdAt = true
  beforeState : Json
  afterState : Json
  deriving DecidableEq

/-- `stringifyState`. -/
def stringifyState (numberText : ℚ → String) : Json → String
  | .null => ""
  | .str text => text
  | value => value.stringify numberText

/-- `escapeCsv`. -/
def escapeCsv (value : List Char) : List Char :=
  let normalized := value.flatMap fun char => if char = '"' then ['"', '"'] else [char]
  '"' :: normalized ++ ['"']

/-- The header of an export. -/
def header : List String :=
  ["id", "workflow_id", "actor_id", "actor_type", "event_type", "element_id", "created_at",
    "before_state", "after_state"]

/-- What an export says of an entry. -/
def AuditLog.values (numberText : ℚ → String) (entry : AuditLog) : List String :=
  [entry.id, entry.workflowId.getD "", entry.actorId.getD "", entry.actorType.text,
    entry.eventType, entry.elementId.getD "", DateText.toISOString entry.createdAt,
    stringifyState numberText entry.beforeState, stringifyState numberText entry.afterState]

/-- `renderCsv`. -/
def renderCsv (numberText : ℚ → String) (entries : List AuditLog) : List UInt8 :=
  let lines := [','].intercalate (header.map String.toList) ::
    entries.map fun entry =>
      [','].intercalate ((entry.values numberText).map fun value => escapeCsv value.toList)
  Utf8.bytesOf (['\n'].intercalate lines)

/-! ## The records of an export -/

/-- The records that an export stands for. -/
def exportedRecords (numberText : ℚ → String) (entries : List AuditLog) :
    List (List (List Char)) :=
  header.map String.toList :: entries.map fun entry =>
    (entry.values numberText).map String.toList

variable {numberText : ℚ → String}

/-- The names of the header need no quotes. -/
theorem header_record (rest : List Char) :
    Csv.Record ([','].intercalate (header.map String.toList) ++ rest)
      (header.map String.toList) rest := by
  have texts : ∀ name ∈ header.map String.toList, name.all Csv.isTextData = true := by
    decide +kernel
  have plain : ∀ name ∈ header.map String.toList, ∀ char ∈ name, Csv.isTextData char = true :=
    fun name mem => List.all_eq_true.mp (texts name mem)
  have derived := Csv.record_of_fields id
    (fun name mem rest => Csv.Field.plain (plain name mem) rest)
    (List.cons_ne_nil _ _) rest
  rwa [List.map_id] at derived

/-- The fields of an entry stand in quotes. -/
theorem entry_record (entry : AuditLog) (rest : List Char) :
    Csv.Record ([','].intercalate
        ((entry.values numberText).map fun value => escapeCsv value.toList) ++ rest)
      ((entry.values numberText).map String.toList) rest := by
  have nonempty : (entry.values numberText).map String.toList ≠ [] := List.cons_ne_nil _ _
  have derived := Csv.record_of_fields Csv.quote
    (fun value _ rest => Csv.field_quote value rest) nonempty rest
  rwa [List.map_map] at derived

theorem endsOpen_lines (numberText : ℚ → String) (entries : List AuditLog) :
    ∀ line ∈ [','].intercalate (header.map String.toList) :: entries.map fun entry =>
      [','].intercalate ((entry.values numberText).map fun value => escapeCsv value.toList),
      Csv.EndsOpen line := by
  have inHeader : Csv.EndsOpen ([','].intercalate (header.map String.toList)) :=
    ⟨([','].intercalate (header.map String.toList)).dropLast, 'e', by decide +kernel, by decide⟩
  refine List.forall_mem_cons.mpr ⟨inHeader, ?_⟩
  intro line mem
  obtain ⟨entry, _, rfl⟩ := List.mem_map.mp mem
  have nonempty : (entry.values numberText).map (fun value => escapeCsv value.toList) ≠ [] :=
    List.cons_ne_nil _ _
  apply Csv.endsOpen_intercalate _ ?_ nonempty
  intro part partMem
  obtain ⟨value, _, rfl⟩ := List.mem_map.mp partMem
  exact Csv.endsOpen_quote value.toList

/-- **An export loses nothing.**  Its only reading has the header and one record of nine fields for
each entry, in order, with what the entry holds. -/
theorem renderCsv_lossless (numberText : ℚ → String) (entries : List AuditLog) :
    (∀ records, Csv.File (Utf8.textOf (renderCsv numberText entries)) records ↔
      records = exportedRecords numberText entries) ∧
    Csv.parse (Utf8.textOf (renderCsv numberText entries)) =
      some (exportedRecords numberText entries) ∧
    ∀ record ∈ exportedRecords numberText entries, record.length = 9 := by
  have pairs : List.Forall₂ (fun line values => ∀ rest, Csv.Record (line ++ rest) values rest)
      ([','].intercalate (header.map String.toList) :: entries.map fun entry =>
        [','].intercalate ((entry.values numberText).map fun value => escapeCsv value.toList))
      (exportedRecords numberText entries) := by
    refine List.Forall₂.cons header_record ?_
    rw [List.forall₂_map_left_iff, List.forall₂_map_right_iff]
    exact List.forall₂_same.mpr fun entry _ => entry_record entry
  have file := Csv.file_of_lines pairs (List.cons_ne_nil _ _)
  have ends := Csv.endsOpen_intercalate ['\n'] (endsOpen_lines numberText entries)
    (List.cons_ne_nil _ _)
  have text : Utf8.textOf (renderCsv numberText entries) = _ := Utf8.textOf_bytesOf _
  have parsed := (Csv.parse_eq_some_iff ends.ne).mpr file
  rw [text]
  refine ⟨fun records => ⟨fun other => ?_, fun same => same ▸ file⟩, parsed, ?_⟩
  · have otherParsed := (Csv.parse_eq_some_iff ends.ne).mpr other
    exact Option.some.inj (otherParsed.symm.trans parsed)
  · refine List.forall_mem_cons.mpr ⟨rfl, ?_⟩
    intro record mem
    obtain ⟨entry, _, rfl⟩ := List.mem_map.mp mem
    rfl

end Manbaa.Audit
