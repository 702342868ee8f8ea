import Manbaa.Core.Http
import Manbaa.Lib.Except
import Manbaa.Lib.Utf8
import Mathlib.Algebra.Order.Field.Rat
import Mathlib.Tactic.Linarith
import Mathlib.Tactic.NormNum

/-!
# The type of an uploaded document

What a client uploads has to be of the type that its name says.  For most types the first bytes
tell, but a text has no signature: it is read as far as 4096 bytes, and is refused where what was
read is no text.  The sample ends after a number of bytes, not after a character.
-/

namespace Manbaa.Documents

open Manbaa.Lib

/-! ## Types and extensions -/

/-- `AllowedDocumentMimeType`. -/
inductive AllowedDocumentMimeType where
  | textPlain
  | pdf
  | docx
  | png
  | jpeg
  | webp
  | mpeg
  | wav
  | m4a
  | textMarkdown
  deriving DecidableEq

/-- `ALLOWED_DOCUMENT_MIME_TYPES`. -/
def AllowedDocumentMimeType.text : AllowedDocumentMimeType → String
  | textPlain => "text/plain"
  | pdf => "application/pdf"
  | docx => "application/vnd.openxmlformats-officedocument.wordprocessingml.document"
  | png => "image/png"
  | jpeg => "image/jpeg"
  | webp => "image/webp"
  | mpeg => "audio/mpeg"
  | wav => "audio/wav"
  | m4a => "audio/x-m4a"
  | textMarkdown => "text/markdown"

/-- `ALLOWED_DOCUMENT_EXTENSIONS`. -/
def allowedDocumentExtensions : List (String × AllowedDocumentMimeType) :=
  [(".txt", .textPlain), (".pdf", .pdf), (".docx", .docx), (".png", .png), (".jpg", .jpeg),
    (".jpeg", .jpeg), (".webp", .webp), (".mp3", .mpeg), (".wav", .wav), (".m4a", .m4a),
    (".md", .textMarkdown)]

/-- `MAGIC_MIME_EQUIVALENTS`. -/
def magicMimeEquivalents : AllowedDocumentMimeType → List String
  | .textPlain => []
  | .pdf => ["application/pdf"]
  | .docx => ["application/zip"]
  | .png => ["image/png"]
  | .jpeg => ["image/jpeg"]
  | .webp => ["image/webp"]
  | .mpeg => ["audio/mpeg"]
  | .wav => ["audio/wav", "audio/vnd.wave", "audio/x-wav"]
  | .m4a => ["audio/x-m4a", "audio/mp4", "video/mp4"]
  | .textMarkdown => []

/-- The last part of a path, without the slashes after it. -/
def lastPart (path : String) : List Char :=
  ((path.toList.reverse.dropWhile (· == '/')).takeWhile (· != '/')).reverse

/-- `path.extname`: from the last dot on, unless the dot begins the part or the part is `..`. -/
def extname (path : String) : String :=
  let part := lastPart path
  let afterDot := (part.reverse.takeWhile (· != '.')).reverse
  if part.length ≤ afterDot.length + 1 || part == ['.', '.'] then ""
  else String.ofList ('.' :: afterDot)

/-- `getMimeTypeFromFilename`.  No letter outside ASCII becomes one of an extension in lower
case. -/
def getMimeTypeFromFilename (filename : String) : Option AllowedDocumentMimeType :=
  (allowedDocumentExtensions.find? fun entry =>
    entry.1 == lowerCase (extname filename)).map Prod.snd

/-- The types of texts, which have no signature. -/
def AllowedDocumentMimeType.isText (mimeType : AllowedDocumentMimeType) : Bool :=
  mimeType == .textPlain || mimeType == .textMarkdown

/-! ## Content -/

/-- The bytes that are looked at. -/
def sampleOf (buffer : List UInt8) : List UInt8 := buffer.take (min buffer.length 4096)

/-- A printable byte of ASCII, or white space. -/
def isPrintable (byte : UInt8) : Bool :=
  byte == 0x09 || byte == 0x0a || byte == 0x0d || (0x20 ≤ byte && byte ≤ 0x7e)

/-- `printableBytes`. -/
def printableBytes (sample : List UInt8) : Nat := (sample.filter isPrintable).length

/-- `bufferLooksLikeUtf8Text`.  No quotient of such numbers is so near to the bound that it would
be rounded across it. -/
def bufferLooksLikeUtf8Text (buffer : List UInt8) : Bool :=
  let sample := sampleOf buffer
  !sample.contains 0 && !(Utf8.decode sample).contains Utf8.replacement &&
    decide ((85 : ℚ) / 100 ≤ (printableBytes sample : ℚ) / (max sample.length 1 : Nat))

/-- `UnsupportedMediaTypeException`. -/
structure UnsupportedMediaTypeException where
  message : String
  deriving DecidableEq

/-- The exception for content of another type. -/
def contentMismatch (mimeType : AllowedDocumentMimeType) : UnsupportedMediaTypeException :=
  ⟨"File content does not match the " ++ mimeType.text ++ " extension."⟩

/-- `validateDocumentMimeType`, where `detectFileType` is what knows the signatures. -/
def validateDocumentMimeType (detectFileType : List UInt8 → Option String) (filename : String)
    (buffer : List UInt8) : Except UnsupportedMediaTypeException AllowedDocumentMimeType := do
  let mimeType ← lookUp (getMimeTypeFromFilename filename) ⟨"File extension is not supported."⟩
  if mimeType.isText then
    match detectFileType buffer with
    | some mime => check ((magicMimeEquivalents mimeType).contains mime) (contentMismatch mimeType)
    | none => check (bufferLooksLikeUtf8Text buffer) (contentMismatch mimeType)
  else
    let mime ← lookUp (detectFileType buffer) ⟨"Could not verify the uploaded file signature."⟩
    check ((magicMimeEquivalents mimeType).contains mime) (contentMismatch mimeType)
  return mimeType

example : (validateDocumentMimeType (fun _ => some "image/png") "report.pdf" []) =
    .error ⟨"File content does not match the application/pdf extension."⟩ := by
  decide +kernel

variable {detectFileType : List UInt8 → Option String} {filename : String} {buffer : List UInt8}
  {mimeType : AllowedDocumentMimeType}

/-! ## Texts are recognised by their sample -/

/-- At least 85 percent of the bytes are printable. -/
def MostlyPrintable (sample : List UInt8) : Prop :=
  85 * sample.length ≤ 100 * printableBytes sample

theorem sampleOf_eq_take (buffer : List UInt8) : sampleOf buffer = buffer.take 4096 := by
  rw [sampleOf, Nat.min_comm, ← List.take_eq_take_min]

/-- The quotient that is compared, in whole numbers. -/
theorem le_quotient_iff (sample : List UInt8) :
    (85 : ℚ) / 100 ≤ (printableBytes sample : ℚ) / (max sample.length 1 : Nat) ↔
      85 * max sample.length 1 ≤ 100 * printableBytes sample := by
  have positive : (0 : ℚ) < (max sample.length 1 : Nat) := by
    exact_mod_cast Nat.lt_of_lt_of_le Nat.zero_lt_one (Nat.le_max_right ..)
  rw [div_le_div_iff₀ (by norm_num) positive, mul_comm (printableBytes sample : ℚ)]
  exact_mod_cast Iff.rfl

/-- Without a byte, none is printable. -/
theorem le_quotient_iff_of_mostlyPrintable {sample : List UInt8}
    (printable : MostlyPrintable sample) :
    85 * max sample.length 1 ≤ 100 * printableBytes sample ↔ sample ≠ [] := by
  cases sample with
  | nil => exact iff_of_false (by decide) (by simp)
  | cons byte rest =>
    rw [Nat.max_eq_left (by rw [List.length_cons]; omega)]
    exact iff_of_true printable (List.cons_ne_nil _ _)

/-- What is taken for a text. -/
theorem bufferLooksLikeUtf8Text_iff (noNul : 0 ∉ buffer)
    (printable : MostlyPrintable (sampleOf buffer)) :
    bufferLooksLikeUtf8Text buffer = true ↔
      Utf8.WellFormed [Utf8.replacement] (sampleOf buffer) ∧ buffer ≠ [] := by
  have sampleNoNul : 0 ∉ sampleOf buffer := fun mem => noNul (List.mem_of_mem_take mem)
  have nonempty : sampleOf buffer ≠ [] ↔ buffer ≠ [] := by
    rw [sampleOf_eq_take, ne_eq, List.take_eq_nil_iff]
    simp
  rw [bufferLooksLikeUtf8Text, Bool.and_eq_true, Bool.and_eq_true, decide_eq_true_iff,
    le_quotient_iff, le_quotient_iff_of_mostlyPrintable printable, nonempty, ← Utf8.read_iff]
  simp [sampleNoNul]

/-- A text without a signature is accepted just where it looks like one. -/
theorem validate_text (extension : getMimeTypeFromFilename filename = some mimeType)
    (isText : mimeType.isText = true) (undetected : detectFileType buffer = none) :
    validateDocumentMimeType detectFileType filename buffer =
      if bufferLooksLikeUtf8Text buffer then .ok mimeType
      else .error (contentMismatch mimeType) := by
  rw [validateDocumentMimeType, extension]
  cases looks : bufferLooksLikeUtf8Text buffer <;>
    simp [lookUp, check, isText, undetected]

/-! ## Where the sample ends -/

/-- No text begins with these bytes: something in them, before their end, belongs to none. -/
def IllFormed (sample : List UInt8) : Prop := ∀ rest, ¬ Utf8.WellFormed [] (sample ++ rest)

/-- What is expected of a file that is named as a text: it is accepted where it is one, and it is
rejected where its sample shows that it is none. -/
def JudgedAsText (detectFileType : List UInt8 → Option String) (filename : String)
    (buffer : List UInt8) : Prop :=
  (Utf8.WellFormed [Utf8.replacement] buffer →
    (validateDocumentMimeType detectFileType filename buffer).isOk = true) ∧
  (IllFormed (sampleOf buffer) →
    (validateDocumentMimeType detectFileType filename buffer).isOk = false)

/-- The sample does not end within a character. -/
def EndsBetweenCharacters (buffer : List UInt8) : Prop :=
  ∀ byte, buffer[4096]? = some byte → Utf8.isContinuation byte = false

/-- The sample of a text is a text just where it ends between characters. -/
theorem wellFormed_sample_iff (text : Utf8.WellFormed [Utf8.replacement] buffer) :
    Utf8.WellFormed [Utf8.replacement] (sampleOf buffer) ↔ EndsBetweenCharacters buffer := by
  obtain ⟨codes, scalars, rfl⟩ := text
  have others : ∀ code ∈ codes, Utf8.isScalar code = true ∧ code ≠ Utf8.replacement :=
    fun code mem => ⟨(scalars code mem).1, fun same =>
      (scalars code mem).2 (List.mem_singleton.mpr same)⟩
  rw [← Utf8.read_iff, sampleOf_eq_take, Utf8.read_take_iff others, EndsBetweenCharacters]
  simp

/-- A sample that is read well is not ill-formed. -/
theorem not_illFormed_of_wellFormed {sample : List UInt8}
    (text : Utf8.WellFormed [Utf8.replacement] sample) : ¬ IllFormed sample := by
  obtain ⟨codes, scalars, rfl⟩ := text
  intro ill
  refine ill [] ⟨codes, fun code mem => ⟨(scalars code mem).1, List.not_mem_nil⟩, ?_⟩
  rw [List.append_nil]

/-- **A text file is judged rightly just where its sample does not end within a character**, and
is not empty. -/
theorem judgedAsText_iff (extension : getMimeTypeFromFilename filename = some mimeType)
    (isText : mimeType.isText = true) (undetected : detectFileType buffer = none)
    (noNul : 0 ∉ buffer) (printable : MostlyPrintable (sampleOf buffer)) :
    JudgedAsText detectFileType filename buffer ↔
      (Utf8.WellFormed [Utf8.replacement] buffer →
        buffer ≠ [] ∧ EndsBetweenCharacters buffer) := by
  have verdict : (validateDocumentMimeType detectFileType filename buffer).isOk = true ↔
      Utf8.WellFormed [Utf8.replacement] (sampleOf buffer) ∧ buffer ≠ [] := by
    rw [validate_text extension isText undetected, ← bufferLooksLikeUtf8Text_iff noNul printable]
    cases bufferLooksLikeUtf8Text buffer <;> simp [Except.isOk, Except.toBool]
  have rejects : IllFormed (sampleOf buffer) →
      (validateDocumentMimeType detectFileType filename buffer).isOk = false := by
    intro ill
    rw [Bool.eq_false_iff, ne_eq, verdict]
    exact fun accepted => not_illFormed_of_wellFormed accepted.1 ill
  rw [JudgedAsText, and_iff_left rejects]
  refine forall_congr' fun text => ?_
  rw [verdict, wellFormed_sample_iff text, and_comm]

/-- Letters, and a character of two bytes after them. -/
def exampleText (letters : Nat) : List UInt8 := List.replicate letters 0x61 ++ [0xC3, 0xA9]

theorem exampleText_eq (letters : Nat) :
    exampleText letters = Utf8.encode (List.replicate letters 0x61 ++ [0xE9]) := by
  rw [Utf8.encode, List.flatMap_append, List.flatMap_replicate, exampleText]
  congr 1
  induction letters with
  | zero => rfl
  | succ letters ih =>
    rw [List.replicate_succ, List.replicate_succ, List.flatten_cons, ← ih]
    rfl

theorem exampleText_wellFormed (letters : Nat) :
    Utf8.WellFormed [Utf8.replacement] (exampleText letters) := by
  refine ⟨_, fun code mem => ?_, exampleText_eq letters⟩
  rcases List.mem_append.mp mem with letter | last
  · rw [List.eq_of_mem_replicate letter]
    decide
  · rw [List.mem_singleton.mp last]
    decide

theorem exampleText_noNul (letters : Nat) : 0 ∉ exampleText letters := by
  rw [exampleText, List.mem_append, not_or]
  refine ⟨fun mem => ?_, by decide⟩
  exact absurd (List.eq_of_mem_replicate mem) (by decide)

/-- Most of its bytes are letters. -/
theorem exampleText_printable {letters : Nat} (many : 12 ≤ letters) :
    MostlyPrintable (sampleOf (exampleText letters)) := by
  have taken : min letters 4096 ≤ printableBytes (sampleOf (exampleText letters)) := by
    rw [sampleOf_eq_take, exampleText, List.take_append, List.take_replicate, printableBytes,
      List.filter_append, List.filter_replicate_of_pos (by decide), List.length_append,
      List.length_replicate, Nat.min_comm]
    exact Nat.le_add_right _ _
  have length : (sampleOf (exampleText letters)).length = min (letters + 2) 4096 := by
    rw [sampleOf_eq_take, List.length_take, exampleText, List.length_append, List.length_replicate,
      Nat.min_comm]
    rfl
  rw [MostlyPrintable, length]
  omega

theorem judgedAsText_iff_example :
    JudgedAsText (fun _ => none) "notes.md" (exampleText 20) ↔
      (Utf8.WellFormed [Utf8.replacement] (exampleText 20) →
        exampleText 20 ≠ [] ∧ EndsBetweenCharacters (exampleText 20)) :=
  judgedAsText_iff
    (show getMimeTypeFromFilename "notes.md" = some .textMarkdown by decide +kernel)
    rfl rfl (exampleText_noNul 20) (exampleText_printable (by omega))

/-- **A text is rejected for where its last character falls**: it has 4097 bytes. -/
theorem text_rejected_at_cut :
    Utf8.WellFormed [Utf8.replacement] (exampleText 4095) ∧ 0 ∉ exampleText 4095 ∧
      MostlyPrintable (sampleOf (exampleText 4095)) ∧
      validateDocumentMimeType (fun _ => none) "notes.txt" (exampleText 4095) =
        .error ⟨"File content does not match the text/plain extension."⟩ ∧
      validateDocumentMimeType (fun _ => none) "notes.txt" (exampleText 4094) = .ok .textPlain := by
  have rejected : bufferLooksLikeUtf8Text (exampleText 4095) = false := by
    rw [Bool.eq_false_iff, ne_eq, bufferLooksLikeUtf8Text_iff (exampleText_noNul _)
      (exampleText_printable (by omega)), wellFormed_sample_iff (exampleText_wellFormed _)]
    intro ⟨ends, _⟩
    have last : (exampleText 4095)[4096]? = some 0xA9 := by
      rw [exampleText, List.getElem?_append_right (by rw [List.length_replicate]; omega),
        List.length_replicate]
      rfl
    exact absurd (ends 0xA9 last) (by decide)
  have accepted : bufferLooksLikeUtf8Text (exampleText 4094) = true := by
    rw [bufferLooksLikeUtf8Text_iff (exampleText_noNul _) (exampleText_printable (by omega)),
      wellFormed_sample_iff (exampleText_wellFormed _)]
    refine ⟨fun byte at? => ?_, List.append_ne_nil_of_right_ne_nil _ (List.cons_ne_nil _ _)⟩
    rw [exampleText, List.getElem?_append_right (by rw [List.length_replicate]; omega),
      List.length_replicate] at at?
    cases at?
  have extension : getMimeTypeFromFilename "notes.txt" = some .textPlain := by decide +kernel
  refine ⟨exampleText_wellFormed _, exampleText_noNul _, exampleText_printable (by omega), ?_, ?_⟩
  · rw [validate_text extension rfl rfl, rejected]
    rfl
  · rw [validate_text extension rfl rfl, accepted]
    rfl

end Manbaa.Documents
