import Manbaa.Core.Http
import Manbaa.Lib.Base64
import Manbaa.Lib.DateText
import Manbaa.Lib.JsonText

/-!
# Cursors of message pages

A cursor is the instant and the identifier of the last message of a page, written as a
JSON object in Base64.  Instants are those of a date, in milliseconds; a cursor that is
written is read back.
-/

namespace Manbaa.Messages

open Manbaa.Lib

/-- `MessageCursor`. -/
structure MessageCursor where
  createdAt : Int
  id : String
  deriving DecidableEq

/-- The text of a number, of which there are none in a cursor. -/
def numberText (number : ℚ) : String := toString number.num

/-- The JSON object of a cursor. -/
def MessageCursor.json (cursor : MessageCursor) : Json :=
  JsonText.object [("createdAt", DateText.toISOString cursor.createdAt), ("id", cursor.id)]

/-- `encodeMessageCursor`. -/
def encodeMessageCursor (cursor : MessageCursor) : String :=
  String.ofList (Base64.encode (cursor.json.stringify numberText).toByteArray.data.toList)

/-- What is read from a token, if it is a cursor. -/
def parseCursor (encodedCursor : String) : Option MessageCursor := do
  let decoded ← String.fromUTF8? ⟨(Base64.decode encodedCursor.toList).toArray⟩
  let parsed ← JsonText.parse decoded
  let createdAt ← (parsed.lookup "createdAt").filter (· != "")
  let id ← (parsed.lookup "id").filter (· != "")
  let instant ← DateText.parse createdAt
  some ⟨instant, id⟩

/-- `decodeMessageCursor`. -/
def decodeMessageCursor (encodedCursor : String) : Except Exception MessageCursor :=
  match parseCursor encodedCursor with
  | some cursor => .ok cursor
  | none => .error (.badRequest "Invalid cursor token.")

theorem fromUTF8?_toByteArray (text : String) : String.fromUTF8? text.toByteArray = some text := by
  rw [String.fromUTF8?, dif_pos text.isValidUTF8]
  rfl

/-- No instant has an empty text. -/
theorem toISOString_ne_empty (instant : Int) : DateText.toISOString instant ≠ "" := by
  intro empty
  have text := congrArg String.toList empty
  rw [DateText.toISOString, String.toList_ofList, DateText.Civil.text] at text
  simp at text

/-- A cursor that is written is read back. -/
theorem decode_encodeMessageCursor {cursor : MessageCursor}
    (range : DateText.inRange cursor.createdAt = true) (named : cursor.id ≠ "") :
    decodeMessageCursor (encodeMessageCursor cursor) = .ok cursor := by
  have distinct : [("createdAt", DateText.toISOString cursor.createdAt), ("id", cursor.id)].Pairwise
      fun first second => first.1 ≠ second.1 := by
    simp
  have parsed : JsonText.parse (cursor.json.stringify numberText) =
      some [("id", cursor.id), ("createdAt", DateText.toISOString cursor.createdAt)] :=
    JsonText.parse_stringify distinct
  have created : ([("id", cursor.id), ("createdAt", DateText.toISOString cursor.createdAt)].lookup
      "createdAt").filter (· != "") = some (DateText.toISOString cursor.createdAt) := by
    rw [Option.filter_eq_some_iff]
    exact ⟨rfl, bne_iff_ne.mpr (toISOString_ne_empty _)⟩
  have identified : ([("id", cursor.id),
      ("createdAt", DateText.toISOString cursor.createdAt)].lookup "id").filter (· != "") =
        some cursor.id := by
    rw [Option.filter_eq_some_iff]
    exact ⟨rfl, bne_iff_ne.mpr named⟩
  have read : parseCursor (encodeMessageCursor cursor) = some cursor := by
    rw [parseCursor, encodeMessageCursor, String.toList_ofList, Base64.decode_encode,
      Array.toArray_toList, fromUTF8?_toByteArray]
    simp only [Option.bind_eq_bind, Option.bind_some, parsed, created, identified,
      DateText.parse_toISOString range]
  rw [decodeMessageCursor, read]

end Manbaa.Messages
