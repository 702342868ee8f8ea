import Mathlib.Data.String.Basic

/-!
# Identifiers, callers and exceptions

What every service of the backend shares.  An identifier that a client sends is
the text it wrote; a `uuid` column accepts either case and returns lower case.
-/

namespace Manbaa

theorem toLower_toLower (char : Char) : char.toLower.toLower = char.toLower := by
  unfold Char.toLower
  grind

/-- A text in lower case. -/
def lowerCase (text : String) : String := String.ofList (text.toList.map Char.toLower)

theorem lowerCase_lowerCase (text : String) : lowerCase (lowerCase text) = lowerCase text := by
  have same : Char.toLower ∘ Char.toLower = Char.toLower := funext toLower_toLower
  simp [lowerCase, same]

/-- A UUID as a `uuid` column returns it, in lower case. -/
structure Uuid where
  text : String
  isLower : lowerCase text = text
  deriving DecidableEq

/-- The value that a `uuid` column holds for an identifier written in either
case. -/
def uuid (text : String) : Uuid := ⟨lowerCase text, lowerCase_lowerCase text⟩

@[simp]
theorem uuid_text (id : Uuid) : uuid id.text = id := by
  cases id with
  | mk text isLower =>
      unfold uuid
      congr

/-- The authenticated caller, as the access-token strategy attaches it. -/
structure RequestUser where
  id : Uuid
  orgId : Uuid
  role : String
  deriving DecidableEq

/-- The constraint by which the database refuses a statement. -/
inductive Refusal where
  | uniqueViolation (constraint : String)
  | foreignKeyViolation (constraint : String)
  | checkViolation (constraint : String)
  | notNullViolation (column : String)
  | valueTooLong (column : String)
  | untranslatableCharacter (column : String)
  | outOfRange (column : String)
  deriving DecidableEq

/-- What a service method throws.  `canvasRevisionConflict` never leaves the
canvas service, which answers it with the conflict `revisionStale`. -/
inductive Exception where
  | notFound (message : String)
  | unauthorized (message : String)
  | forbidden (message : String)
  | badRequest (message : String)
  | conflict (message : String)
  | gone (message : String)
  | payloadTooLarge (message : String)
  | unprocessableEntity (message : String)
  | revisionStale (code message : String) (currentRevision : Nat)
  | ruleConflict (conflictingRuleId : Uuid) (conflictingRuleName conflictDetail : String)
  | serviceUnavailable (code : String)
  | internalServerError (message : String)
  | error (message : String)
  | canvasRevisionConflict (currentRevision : Nat)
  | queryFailed (refusal : Refusal)
  deriving DecidableEq

/-- The exception is answered with status 409. -/
def Exception.isConflict : Exception → Bool
  | .conflict _ | .revisionStale _ _ _ | .ruleConflict _ _ _ => true
  | _ => false

/-- The database refused a statement. -/
def Exception.isRefusal : Exception → Bool
  | .queryFailed _ => true
  | _ => false

/-- The roles of the legacy, organization-wide role field. -/
inductive UserRole where
  | admin
  | processOwner
  | businessAnalyst
  | reviewer
  | viewer
  deriving DecidableEq

/-- The text of a legacy role in tokens and in the user table. -/
def UserRole.text : UserRole → String
  | .admin => "admin"
  | .processOwner => "process_owner"
  | .businessAnalyst => "business_analyst"
  | .reviewer => "reviewer"
  | .viewer => "viewer"

end Manbaa
