import Manbaa.Core.Http
import Manbaa.Lib.Except
import Mathlib.Algebra.GroupWithZero.Nat
import Mathlib.Data.Rat.Defs

/-!
# Assertions of events

What the validators of emitted events share.  An event that fails an assertion is not emitted:
the `TypeError` leaves the call that creates it.
-/

namespace Manbaa.Events

open Manbaa.Lib

/-- What the assertions run on, and what an event takes that names neither its id nor its
time. -/
structure Host where
  validateUuid : String → Bool
  dateParse : String → Option Int
  randomUuid : String
  toISOStringNow : String

/-- `assertUuid`. -/
def assertUuid (host : Host) (value field : String) : Except Exception Unit :=
  check (host.validateUuid value) (.error (field ++ " must be a UUID"))

/-- `assertUuid`, unless the value is null. -/
def assertNullableUuid (host : Host) (value : Option String) (field : String) :
    Except Exception Unit :=
  check (value.all host.validateUuid) (.error (field ++ " must be a UUID"))

/-- The text ends with `Z` or with an offset. -/
def endsWithZone (text : String) : Bool :=
  match text.toList.reverse with
  | 'Z' :: _ | 'z' :: _ => true
  | d :: c :: ':' :: b :: a :: sign :: _ =>
      [a, b, c, d].all Char.isDigit && (sign == '+' || sign == '-')
  | _ => false

/-- `assertTimezoneAwareTimestamp`. -/
def assertTimezoneAwareTimestamp (host : Host) (value field : String) : Except Exception Unit :=
  check ((host.dateParse value).isSome && endsWithZone value)
    (.error (field ++ " must be timezone-aware ISO-8601"))

/-- `hasControlCharacter`; the first code unit of a character beyond the basic plane is a
surrogate, which is no control character. -/
def hasControlCharacter (value : String) : Bool :=
  value.toList.any fun character => character.toNat < 32 || character.toNat == 127

/-- `value.length`: a character beyond the basic plane has two code units. -/
def utf16Length (value : String) : Nat :=
  (value.toList.map fun character => if character.toNat < 0x10000 then 1 else 2).sum

/-- The largest safe integer. -/
def maxSafeInteger : Nat := 9007199254740991

/-- `Number.isSafeInteger`. -/
def isSafeInteger (value : ℚ) : Bool := value.den == 1 && value.num.natAbs ≤ maxSafeInteger

/-- The text is a lowercase SHA-256 hex digest. -/
def isSha256 (value : String) : Bool :=
  value.length == 64 && value.toList.all fun char =>
    char.isDigit || 'a' ≤ char && char ≤ 'f'

/-- `actor`. -/
structure Actor where
  type : String
  id : String
  deriving DecidableEq

/-- The check of `actor.type`. -/
def assertActorType (type : String) : Except Exception Unit :=
  check (type == "user" || type == "service") (.error "actor.type must be user or service")

/-! ## Lengths -/

/-- A text has no more characters than code units. -/
theorem length_le_utf16Length (value : String) : value.length ≤ utf16Length value := by
  rw [utf16Length, ← String.length_toList]
  induction value.toList with
  | nil => exact Nat.le_refl _
  | cons character rest ih =>
      rw [List.length_cons, List.map_cons, List.sum_cons]
      split <;> omega

theorem length_ofList_le_utf8ByteSize (chars : List Char) :
    chars.length ≤ (String.ofList chars).utf8ByteSize := by
  induction chars with
  | nil => exact Nat.zero_le _
  | cons char rest ih =>
      rw [← List.singleton_append, String.ofList_append, String.utf8ByteSize_append]
      have size : (String.ofList [char]).utf8ByteSize = char.utf8Size := by
        rw [← String.singleton_eq_ofList, String.utf8ByteSize_singleton]
      have positive := char.utf8Size_pos
      simp only [List.singleton_append, List.length_cons]
      omega

/-- A text has no more characters than bytes. -/
theorem length_le_utf8ByteSize (value : String) : value.length ≤ value.utf8ByteSize := by
  have bound := length_ofList_le_utf8ByteSize value.toList
  rwa [String.length_toList, String.ofList_toList] at bound

/-- Concatenations are compared part by part where the first parts are equally long. -/
theorem append_eq_append_iff {first other second more : String}
    (sameLength : first.length = other.length) :
    first ++ second = other ++ more ↔ first = other ∧ second = more := by
  constructor
  · intro appendEq
    have listEq := congrArg String.toList appendEq
    rw [String.toList_append, String.toList_append] at listEq
    have lengthEq : first.toList.length = other.toList.length := by
      rw [String.length_toList, String.length_toList, sameLength]
    obtain ⟨firstEq, secondEq⟩ := List.append_inj listEq lengthEq
    exact ⟨String.toList_inj.mp firstEq, String.toList_inj.mp secondEq⟩
  · rintro ⟨rfl, rfl⟩
    rfl

theorem length_lowerCase (text : String) : (lowerCase text).length = text.length := by
  rw [lowerCase, String.length_ofList, List.length_map, String.length_toList]

end Manbaa.Events
