import Manbaa.Core.Http
import Manbaa.Lib.Deduplication
import Manbaa.Lib.NumberText
import Manbaa.Lib.UuidText
import Manbaa.Sources.Filename

/-!
# Keys of stored documents

A file is stored under a key that is put together of the organization, the workflow and the
session, the version, a random identifier and what is left of the name of the file.  The row of
the document keeps a URL, from which the key is taken again.

Whatever the file is called, the identifier can be read back from the key.
-/

namespace Manbaa.Documents

open Manbaa.Lib Manbaa.Lib.Deduplication

/-! ## Keys and URLs -/

/-- A text of ASCII, from its code units. -/
def asciiText (units : CodeUnits) : String :=
  String.ofList (units.map fun unit => Char.ofNat unit.toNat)

/-- `sanitizedFilename`: what is left of the name of a file. -/
def sanitizedFilename (originalFilename : String) : String :=
  asciiText (Sources.sanitized (CodeUnits.trim (CodeUnits.ofString originalFilename)))

/-- `fallbackFilename`. -/
def fallbackFilename (originalFilename : String) : String :=
  if (sanitizedFilename originalFilename).isEmpty then "document"
  else sanitizedFilename originalFilename

/-- `buildSafeObjectKey`. -/
def buildSafeObjectKey (orgId workflowId sessionId : Uuid) (docVersion : Nat)
    (uniqueId : UuidText.Value) (originalFilename : String) : String :=
  orgId.text ++ "/" ++ workflowId.text ++ "/" ++ sessionId.text ++ "/v" ++ docVersion.repr ++ "-" ++
    uniqueId.text ++ "-" ++ fallbackFilename originalFilename

/-- `buildMinioStorageUrl`. -/
def buildMinioStorageUrl (bucket objectKey : String) : String :=
  "minio://" ++ bucket ++ "/" ++ objectKey

/-- `extractObjectKeyFromStorageUrl`. -/
def extractObjectKeyFromStorageUrl (storageUrl bucket : String) : Except Exception String := do
  let front := "minio://" ++ bucket ++ "/"
  check (front.toList.isPrefixOf storageUrl.toList)
    (.error ("Storage URL \"" ++ storageUrl ++ "\" does not match MinIO bucket \"" ++ bucket ++
      "\"."))
  pure (String.ofList (storageUrl.toList.drop front.toList.length))

example : sanitizedFilename "  Rapport d’audit (v2).pdf " = "Rapport-d-audit-v2-.pdf" := by
  decide +kernel

/-! ## Reading back -/

variable {originalFilename : String} {char : Char}

theorem ofNat_ne_slash {unit : UInt16} (isUnit : Storage.isNameUnit unit = true) :
    Char.ofNat unit.toNat ≠ '/' := by
  have codes : ∀ code < 127, Char.ofNat code = '/' → code = 47 := by decide
  obtain ⟨_, below, notSlash, _⟩ := Storage.nameUnit_bounds isUnit
  intro isSlash
  exact notSlash (UInt16.toNat_inj.mp (codes _ (UInt16.lt_iff_toNat_lt.mp below) isSlash))

/-- What is left of a name is one segment of a path. -/
theorem slash_notMem_fallbackFilename : '/' ∉ (fallbackFilename originalFilename).toList := by
  rw [fallbackFilename]
  split
  · decide
  · rw [sanitizedFilename, asciiText, String.toList_ofList]
    intro mem
    obtain ⟨unit, unitMem, isSlash⟩ := List.mem_map.mp mem
    exact ofNat_ne_slash (Sources.isNameUnit_of_mem_sanitized unitMem) isSlash

theorem slash_notMem_uniqueId (uniqueId : UuidText.Value) : '/' ∉ uniqueId.text.toList := by
  have digits : ∀ digit : Fin 16, UuidText.hexChar digit ≠ '/' := by decide
  intro mem
  rcases UuidText.mem_text mem with isHyphen | ⟨digit, isDigit⟩
  · exact absurd isHyphen (by decide)
  · exact digits digit isDigit.symm

theorem notMem_repr {number : Nat} (notDigit : char.isDigit = false) :
    char ∉ number.repr.toList := by
  intro mem
  rw [NumberText.digits_of_repr mem] at notDigit
  cases notDigit

/-- **A key tells what it is put together of**: the folder, the version, the identifier and what
is left of the name. -/
theorem buildSafeObjectKey_injective {orgId workflowId sessionId otherOrg otherWorkflow
    otherSession : Uuid} {docVersion otherVersion : Nat} {uniqueId otherId : UuidText.Value}
    {otherFilename : String}
    (same : buildSafeObjectKey orgId workflowId sessionId docVersion uniqueId originalFilename =
      buildSafeObjectKey otherOrg otherWorkflow otherSession otherVersion otherId otherFilename) :
    docVersion = otherVersion ∧ uniqueId = otherId ∧
      fallbackFilename originalFilename = fallbackFilename otherFilename := by
  let segment (version : Nat) (id : UuidText.Value) (filename : String) : List Char :=
    'v' :: (version.repr.toList ++ '-' :: (id.text.toList ++ '-' ::
      (fallbackFilename filename).toList))
  have shape : ∀ (org workflow session : Uuid) version id filename,
      (buildSafeObjectKey org workflow session version id filename).toList =
        (org.text ++ "/" ++ workflow.text ++ "/" ++ session.text).toList ++
          '/' :: segment version id filename := by
    intro org workflow session version id filename
    simp [buildSafeObjectKey, segment]
  have isSegment : ∀ version id filename, '/' ∉ segment version id filename := by
    intro version id filename
    simp only [segment, List.mem_cons, List.mem_append, not_or]
    exact ⟨by decide, notMem_repr (by decide), by decide, slash_notMem_uniqueId id, by decide,
      slash_notMem_fallbackFilename⟩
  have lists := congrArg String.toList same
  rw [shape, shape] at lists
  obtain ⟨_, sameSegment⟩ := append_cons_injective_last (isSegment _ _ _) (isSegment _ _ _) lists
  obtain ⟨sameVersion, sameRest⟩ := append_cons_injective (notMem_repr (by decide))
    (notMem_repr (by decide)) (List.cons.inj sameSegment).2
  obtain ⟨sameId, sameName⟩ := List.append_inj sameRest
    ((UuidText.length_text uniqueId).trans (UuidText.length_text otherId).symm)
  have version : NumberText.naturalOf docVersion.repr.toList =
      NumberText.naturalOf otherVersion.repr.toList := congrArg _ sameVersion
  rw [NumberText.naturalOf_repr, NumberText.naturalOf_repr] at version
  exact ⟨version, UuidText.text_injective (String.toList_injective sameId),
    String.toList_injective (List.cons.inj sameName).2⟩

/-- The key is taken from the URL that was built for it. -/
theorem extractObjectKey_buildUrl (bucket objectKey : String) :
    extractObjectKeyFromStorageUrl (buildMinioStorageUrl bucket objectKey) bucket =
      .ok objectKey := by
  have shape : (buildMinioStorageUrl bucket objectKey).toList =
      ("minio://" ++ bucket ++ "/").toList ++ objectKey.toList := by
    rw [buildMinioStorageUrl, String.toList_append]
  have isFront : ("minio://" ++ bucket ++ "/").toList.isPrefixOf
      (buildMinioStorageUrl bucket objectKey).toList = true := by
    rw [shape, List.isPrefixOf_iff_prefix]
    exact List.prefix_append _ _
  refine except_bind_eq_ok_iff.mpr ⟨(), check_eq_ok_iff.mpr isFront, ?_⟩
  rw [shape, List.drop_left, String.ofList_toList]
  rfl

end Manbaa.Documents
