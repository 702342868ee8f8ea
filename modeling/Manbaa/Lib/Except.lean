import Mathlib.Logic.Basic

/-!
# Inverting computations that may throw

The equations that take a computation in `Except` apart: what it means for a
sequence, a check or a lookup to return a value, and where it can have thrown.
-/

namespace Manbaa.Lib

universe u v w

variable {ε : Type u} {α : Type v} {β : Type v}

/-- Continue when the condition holds, throw otherwise. -/
def check (condition : Bool) (error : ε) : Except ε PUnit.{v + 1} :=
  if condition then .ok ⟨⟩ else .error error

/-- The value that is there, or the error that says that it is not. -/
def lookUp (value : Option α) (error : ε) : Except ε α :=
  match value with
  | some value => .ok value
  | none => .error error

/-- The result of a check is there or it is not. -/
@[simp]
theorem exists_done {p : Unit → Prop} : (∃ done, p done) ↔ p () :=
  ⟨fun ⟨_, h⟩ => h, fun h => ⟨(), h⟩⟩

theorem except_bind_eq_ok_iff {first : Except ε α} {next : α → Except ε β} {result : β} :
    (first >>= next) = .ok result ↔ ∃ value, first = .ok value ∧ next value = .ok result := by
  cases first <;> simp [bind, Except.bind]

theorem except_bind_eq_error_iff {first : Except ε α} {next : α → Except ε β} {error : ε} :
    (first >>= next) = .error error ↔
      first = .error error ∨ ∃ value, first = .ok value ∧ next value = .error error := by
  cases first <;> simp [bind, Except.bind]

@[simp]
theorem ok_bind (value : α) (next : α → Except ε β) :
    (Except.ok value >>= next) = next value :=
  rfl

@[simp]
theorem error_bind (error : ε) (next : α → Except ε β) :
    (Except.error error >>= next) = .error error :=
  rfl

theorem pure_eq_ok (value : α) : (pure value : Except ε α) = .ok value :=
  rfl

@[simp]
theorem check_eq_ok_iff {condition : Bool} {error : ε} {done : PUnit.{v + 1}} :
    check condition error = .ok done ↔ condition = true := by
  cases condition <;> simp [check]

@[simp]
theorem check_eq_error_iff {condition : Bool} {error thrown : ε} :
    (check condition error : Except ε PUnit.{v + 1}) = .error thrown ↔
      condition = false ∧ error = thrown := by
  cases condition <;> simp [check]

@[simp]
theorem lookUp_eq_ok_iff {value : Option α} {error : ε} {result : α} :
    lookUp value error = .ok result ↔ value = some result := by
  cases value <;> simp [lookUp]

@[simp]
theorem lookUp_eq_error_iff {value : Option α} {error thrown : ε} :
    lookUp value error = .error thrown ↔ value = none ∧ error = thrown := by
  cases value <;> simp [lookUp]

theorem lookUp_isOk {value : Option α} {error : ε} :
    (lookUp value error).isOk = value.isSome := by
  cases value <;> rfl

theorem check_isOk {condition : Bool} {error : ε} : (check condition error).isOk = condition := by
  cases condition <;> rfl

theorem bind_isOk_iff {first : Except ε α} {next : α → Except ε β} :
    (first >>= next).isOk ↔ ∃ value, first = .ok value ∧ (next value).isOk := by
  cases first with
  | error error => exact iff_of_false nofun (by rintro ⟨_, ⟨⟩, _⟩)
  | ok value => simp

theorem except_map_eq_ok_iff {f : α → β} {first : Except ε α} {result : β} :
    first.map f = .ok result ↔ ∃ value, first = .ok value ∧ f value = result := by
  cases first <;> simp [Except.map]

theorem except_map_eq_error_iff {f : α → β} {first : Except ε α} {error : ε} :
    first.map f = .error error ↔ first = .error error := by
  cases first <;> simp [Except.map]

@[simp]
theorem mapError_eq_ok_iff {ε' : Type w} {f : ε → ε'} {first : Except ε α} {result : α} :
    first.mapError f = .ok result ↔ first = .ok result := by
  cases first with
  | error error => exact iff_of_false (fun same => by cases same) (fun same => by cases same)
  | ok value =>
      change Except.ok value = .ok result ↔ _
      simp

@[simp]
theorem mapError_eq_error_iff {ε' : Type w} {f : ε → ε'} {first : Except ε α} {error : ε'} :
    first.mapError f = .error error ↔ ∃ cause, first = .error cause ∧ f cause = error := by
  cases first with
  | error cause =>
      change Except.error (f cause) = .error error ↔ _
      simp
  | ok value => exact iff_of_false (fun same => by cases same) (by rintro ⟨_, ⟨⟩, _⟩)

end Manbaa.Lib
