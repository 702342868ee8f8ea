import Mathlib.Data.Nat.Find
import Mathlib.Tactic.IntervalCases

/-!
# Instants as texts

The text of an instant in milliseconds, `YYYY-MM-DDTHH:mm:ss.sssZ` with a longer year
where four digits do not do, and its reader, which takes texts of this form only.  What
is written is read back.

Years are counted in eras of four hundred; the year of a day and its month are the last
ones that begin no later.
-/

namespace Manbaa.Lib.DateText

/-! ## Digits -/

/-- A number with so many digits. -/
def pad : Nat → Nat → List Char
  | 0, _ => []
  | width + 1, value => Nat.digitChar (value / 10 ^ width) :: pad width (value % 10 ^ width)

/-- The value of a digit. -/
def digit? (char : Char) : Option Nat :=
  if 48 ≤ char.toNat ∧ char.toNat ≤ 57 then some (char.toNat - 48) else none

/-- Read so many digits. -/
def readDigits : Nat → Nat → List Char → Option (Nat × List Char)
  | 0, read, rest => some (read, rest)
  | _ + 1, _, [] => none
  | width + 1, read, char :: rest =>
      (digit? char).bind fun digit => readDigits width (read * 10 + digit) rest

theorem digit?_digitChar {digit : Nat} (small : digit < 10) :
    digit? (Nat.digitChar digit) = some digit := by
  interval_cases digit <;> decide

/-- Digits that are written are read back. -/
theorem readDigits_pad {width value : Nat} (small : value < 10 ^ width) (read : Nat)
    (rest : List Char) :
    readDigits width read (pad width value ++ rest) = some (read * 10 ^ width + value, rest) := by
  induction width generalizing value read with
  | zero =>
      have valueEq : value = 0 := by omega
      simp [pad, readDigits, valueEq]
  | succ width ih =>
      have digit : value / 10 ^ width < 10 := by
        rw [Nat.pow_succ] at small
        exact Nat.div_lt_of_lt_mul small
      have remainder : value % 10 ^ width < 10 ^ width := Nat.mod_lt _ (by positivity)
      rw [pad, List.cons_append, readDigits, digit?_digitChar digit, Option.bind_some, ih remainder]
      have parts : value / 10 ^ width * 10 ^ width + value % 10 ^ width = value :=
        Nat.div_add_mod' _ _
      rw [Nat.add_mul, Nat.pow_succ, Nat.add_assoc, parts, Nat.mul_assoc, Nat.mul_comm 10]

/-! ## Days -/

/-- The days before a year of an era. -/
def daysBeforeYear (year : Nat) : Nat :=
  365 * year + (year + 3) / 4 - (year + 99) / 100 + (year + 399) / 400

/-- A year of an era has a leap day. -/
def isLeap (year : Nat) : Bool := year % 4 == 0 && (year % 100 != 0 || year % 400 == 0)

/-- The days before a month, counted from zero. -/
def daysBeforeMonth (leap : Bool) (month : Nat) : Nat :=
  [0, 31, 59, 90, 120, 151, 181, 212, 243, 273, 304, 334, 365].getD month 0 +
    if leap && decide (2 ≤ month) then 1 else 0

/-- The days of a month. -/
def daysInMonth (leap : Bool) (month : Nat) : Nat :=
  daysBeforeMonth leap (month + 1) - daysBeforeMonth leap month

/-- The year of a day of an era. -/
def yearOf (day : Nat) : Nat := Nat.findGreatest (fun year => daysBeforeYear year ≤ day) 399

/-- The month of a day of a year. -/
def monthOf (leap : Bool) (day : Nat) : Nat :=
  Nat.findGreatest (fun month => daysBeforeMonth leap month ≤ day) 11

theorem yearOf_le (day : Nat) : yearOf day ≤ 399 :=
  Nat.findGreatest_le 399

theorem daysBeforeYear_yearOf (day : Nat) : daysBeforeYear (yearOf day) ≤ day := by
  let begun := fun year => daysBeforeYear year ≤ day
  have first : begun 0 := Nat.zero_le day
  have last : begun (Nat.findGreatest begun 399) := Nat.findGreatest_spec (Nat.zero_le 399) first
  exact last

theorem daysBeforeYear_succ {year : Nat} (inEra : year ≤ 399) :
    daysBeforeYear (year + 1) = daysBeforeYear year + 365 + if isLeap year then 1 else 0 := by
  have years : ∀ year : Fin 400, daysBeforeYear (year + 1) =
      daysBeforeYear year + 365 + if isLeap year then 1 else 0 := by
    decide +kernel
  exact years ⟨year, by omega⟩

/-- A day of a year comes before its end. -/
theorem day_lt_of_era {day : Nat} (inEra : day < 146097) :
    day - daysBeforeYear (yearOf day) < 365 + if isLeap (yearOf day) then 1 else 0 := by
  have start := daysBeforeYear_yearOf day
  have next := daysBeforeYear_succ (yearOf_le day)
  have later : day < daysBeforeYear (yearOf day + 1) := by
    by_cases last : yearOf day = 399
    · rw [last]
      exact inEra
    · have small : yearOf day + 1 ≤ 399 := by
        have := yearOf_le day
        omega
      have after := Nat.findGreatest_is_greatest (Nat.lt_succ_self (yearOf day)) small
      exact Nat.lt_of_not_le after
  omega

theorem monthOf_le (leap : Bool) (day : Nat) : monthOf leap day ≤ 11 :=
  Nat.findGreatest_le 11

theorem daysBeforeMonth_monthOf (leap : Bool) (day : Nat) :
    daysBeforeMonth leap (monthOf leap day) ≤ day := by
  let begun := fun month => daysBeforeMonth leap month ≤ day
  have first : begun 0 := by
    cases leap <;> exact Nat.zero_le day
  have last : begun (Nat.findGreatest begun 11) := Nat.findGreatest_spec (Nat.zero_le 11) first
  exact last

/-- A day of a month comes before its end. -/
theorem day_lt_of_month {leap : Bool} {day : Nat} (inYear : day < 365 + if leap then 1 else 0) :
    day - daysBeforeMonth leap (monthOf leap day) < daysInMonth leap (monthOf leap day) := by
  have start := daysBeforeMonth_monthOf leap day
  have later : day < daysBeforeMonth leap (monthOf leap day + 1) := by
    by_cases last : monthOf leap day = 11
    · rw [last]
      cases leap <;> exact inYear
    · have small : monthOf leap day + 1 ≤ 11 := by
        have := monthOf_le leap day
        omega
      have after := Nat.findGreatest_is_greatest (Nat.lt_succ_self (monthOf leap day)) small
      exact Nat.lt_of_not_le after
  rw [daysInMonth]
  omega

theorem daysInMonth_le {leap : Bool} {month : Nat} (inYear : month ≤ 11) :
    daysInMonth leap month ≤ 31 := by
  interval_cases month <;> cases leap <;> decide

/-! ## Instants -/

/-- A day and a time; months and days are counted from zero. -/
structure Civil where
  year : Int
  month : Nat
  day : Nat
  hour : Nat
  minute : Nat
  second : Nat
  milli : Nat
  deriving DecidableEq

/-- The milliseconds from the beginning of the year zero to the beginning of 1970. -/
def epoch : Int := 62167219200000

/-- The day and the time of an instant. -/
def civil (instant : Int) : Civil :=
  let days := (instant + epoch) / 86400000
  let time := ((instant + epoch) % 86400000).toNat
  let dayOfEra := (days % 146097).toNat
  let year := yearOf dayOfEra
  let dayOfYear := dayOfEra - daysBeforeYear year
  let month := monthOf (isLeap year) dayOfYear
  { year := 400 * (days / 146097) + year
    month := month
    day := dayOfYear - daysBeforeMonth (isLeap year) month
    hour := time / 3600000
    minute := time / 60000 % 60
    second := time / 1000 % 60
    milli := time % 1000 }

/-- The year of a day and a time, in its era. -/
def Civil.yearOfEra (civil : Civil) : Nat := (civil.year % 400).toNat

/-- The instant of a day and a time. -/
def Civil.instant (civil : Civil) : Int :=
  let days := 146097 * (civil.year / 400) + daysBeforeYear civil.yearOfEra +
    daysBeforeMonth (isLeap civil.yearOfEra) civil.month + civil.day
  days * 86400000 + civil.hour * 3600000 + civil.minute * 60000 + civil.second * 1000 +
    civil.milli - epoch

/-- The parts of a day and a time are in their ranges. -/
structure Civil.Valid (civil : Civil) : Prop where
  year : civil.year.natAbs < 1000000
  month : civil.month < 12
  day : civil.day < daysInMonth (isLeap civil.yearOfEra) civil.month
  hour : civil.hour < 24
  minute : civil.minute < 60
  second : civil.second < 60
  milli : civil.milli < 1000

/-- The instants that a date can hold, in milliseconds. -/
def inRange (instant : Int) : Bool := decide (instant.natAbs ≤ 8640000000000000)

theorem yearOfEra_civil (instant : Int) : (civil instant).yearOfEra =
    yearOf (((instant + epoch) / 86400000 % 146097).toNat) := by
  have small := yearOf_le (((instant + epoch) / 86400000 % 146097).toNat)
  simp only [Civil.yearOfEra, civil]
  omega

/-- The day and the time of an instant give it back. -/
@[simp]
theorem instant_civil (instant : Int) : (civil instant).instant = instant := by
  have yearEq := yearOfEra_civil instant
  have era : (civil instant).year / 400 = (instant + epoch) / 86400000 / 146097 := by
    have small := yearOf_le (((instant + epoch) / 86400000 % 146097).toNat)
    simp only [civil]
    omega
  rw [Civil.instant, yearEq, era]
  have beforeYear := daysBeforeYear_yearOf (((instant + epoch) / 86400000 % 146097).toNat)
  have beforeMonth := daysBeforeMonth_monthOf
    (isLeap (yearOf (((instant + epoch) / 86400000 % 146097).toNat)))
    (((instant + epoch) / 86400000 % 146097).toNat -
      daysBeforeYear (yearOf (((instant + epoch) / 86400000 % 146097).toNat)))
  simp only [civil]
  omega

/-- The day and the time of an instant that a date can hold are valid. -/
theorem valid_civil {instant : Int} (range : inRange instant = true) : (civil instant).Valid := by
  have bounded : instant.natAbs ≤ 8640000000000000 := of_decide_eq_true range
  have inEra : ((instant + epoch) / 86400000 % 146097).toNat < 146097 := by omega
  have yearSmall := yearOf_le (((instant + epoch) / 86400000 % 146097).toNat)
  constructor
  · simp only [civil, epoch] at yearSmall ⊢
    omega
  · exact Nat.lt_succ_of_le (monthOf_le _ _)
  · rw [yearOfEra_civil]
    exact day_lt_of_month (day_lt_of_era inEra)
  · simp only [civil]
    omega
  · exact Nat.mod_lt _ (by decide)
  · exact Nat.mod_lt _ (by decide)
  · exact Nat.mod_lt _ (by decide)

/-! ## Texts -/

/-- The text of a year. -/
def yearText (year : Int) : List Char :=
  if 0 ≤ year ∧ year < 10000 then pad 4 year.toNat
  else if 0 ≤ year then '+' :: pad 6 year.natAbs
  else '-' :: pad 6 year.natAbs

/-- The text of a day and a time. -/
def Civil.text (civil : Civil) : List Char :=
  yearText civil.year ++ ('-' :: (pad 2 (civil.month + 1) ++ ('-' :: (pad 2 (civil.day + 1) ++
    ('T' :: (pad 2 civil.hour ++ (':' :: (pad 2 civil.minute ++ (':' :: (pad 2 civil.second ++
      ('.' :: (pad 3 civil.milli ++ ['Z']))))))))))))

/-- Read one character. -/
def skip (wanted : Char) : List Char → Option (List Char)
  | [] => none
  | char :: rest => if char = wanted then some rest else none

/-- Read a year. -/
def readYear : List Char → Option (Int × List Char)
  | '+' :: rest => (readDigits 6 0 rest).map fun (year, rest) => (year, rest)
  | '-' :: rest =>
      ((readDigits 6 0 rest).filter fun (year, _) => year != 0).map fun (year, rest) => (-year, rest)
  | text => (readDigits 4 0 text).map fun (year, rest) => (year, rest)

/-- Read a day and a time, as they are counted in texts. -/
def readCivil (text : List Char) : Option Civil := do
  let (year, rest) ← readYear text
  let rest ← skip '-' rest
  let (month, rest) ← readDigits 2 0 rest
  let rest ← skip '-' rest
  let (day, rest) ← readDigits 2 0 rest
  let rest ← skip 'T' rest
  let (hour, rest) ← readDigits 2 0 rest
  let rest ← skip ':' rest
  let (minute, rest) ← readDigits 2 0 rest
  let rest ← skip ':' rest
  let (second, rest) ← readDigits 2 0 rest
  let rest ← skip '.' rest
  let (milli, rest) ← readDigits 3 0 rest
  if rest = ['Z'] ∧ 1 ≤ month ∧ 1 ≤ day then
    some ⟨year, month - 1, day - 1, hour, minute, second, milli⟩
  else none

/-- `Date.prototype.toISOString`. -/
def toISOString (instant : Int) : String := String.ofList (civil instant).text

/-- The instant of a text, if it is a valid one. -/
def parse (text : String) : Option Int := do
  let civil ← readCivil text.toList
  if civil.month < 12 ∧ civil.day < daysInMonth (isLeap civil.yearOfEra) civil.month ∧
      civil.hour < 24 ∧ civil.minute < 60 ∧ civil.second < 60 ∧ inRange civil.instant then
    some civil.instant
  else none

@[simp]
theorem skip_cons (char : Char) (rest : List Char) : skip char (char :: rest) = some rest :=
  if_pos rfl

theorem readDigits_two {value : Nat} (small : value < 100) (rest : List Char) :
    readDigits 2 0 (pad 2 value ++ rest) = some (value, rest) := by
  rw [readDigits_pad small, Nat.zero_mul, Nat.zero_add]

/-- A digit that is read is neither sign. -/
theorem digitChar_ne_sign {digit : Nat} (small : digit < 10) :
    Nat.digitChar digit ≠ '+' ∧ Nat.digitChar digit ≠ '-' := by
  interval_cases digit <;> decide

/-- A year that is written is read back. -/
theorem readYear_yearText {year : Int} (small : year.natAbs < 1000000) (rest : List Char) :
    readYear (yearText year ++ rest) = some (year, rest) := by
  rw [yearText]
  split
  · rename_i short
    have bound : year.toNat < 10 ^ 4 := by omega
    have digit : year.toNat / 10 ^ 3 < 10 := by omega
    obtain ⟨notPlus, notMinus⟩ := digitChar_ne_sign digit
    have read : readYear (pad 4 year.toNat ++ rest) =
        (readDigits 4 0 (pad 4 year.toNat ++ rest)).map fun (year, rest) => ((year : Int), rest) := by
      rw [pad, List.cons_append]
      exact readYear.eq_3 _ (fun _ same => notPlus (List.cons.inj same).1)
        (fun _ same => notMinus (List.cons.inj same).1)
    rw [read, readDigits_pad bound]
    simp only [Option.map_some, Option.some.injEq, Prod.mk.injEq, and_true]
    omega
  · split
    · rename_i notShort positive
      rw [List.cons_append, readYear, readDigits_pad (by omega)]
      simp only [Option.map_some, Option.some.injEq, Prod.mk.injEq, and_true]
      omega
    · rename_i notShort negative
      rw [List.cons_append, readYear, readDigits_pad (by omega)]
      have nonzero : 0 * 10 ^ 6 + year.natAbs ≠ 0 := by omega
      rw [Option.filter_some, if_pos (bne_iff_ne.mpr nonzero)]
      simp only [Option.map_some, Option.some.injEq, Prod.mk.injEq, and_true]
      omega

/-- A valid day and time that is written is read back. -/
theorem readCivil_text {civil : Civil} (valid : civil.Valid) : readCivil civil.text = some civil := by
  have days : daysInMonth (isLeap civil.yearOfEra) civil.month ≤ 31 :=
    daysInMonth_le (Nat.le_of_lt_succ valid.month)
  have month := valid.month
  have day := valid.day
  have hour := valid.hour
  have minute := valid.minute
  have second := valid.second
  have milli : civil.milli < 10 ^ 3 := valid.milli
  rw [readCivil, Civil.text, readYear_yearText valid.year]
  simp only [Option.bind_eq_bind, Option.bind_some, skip_cons]
  rw [readDigits_two (by omega)]
  simp only [Option.bind_some, skip_cons]
  rw [readDigits_two (by omega)]
  simp only [Option.bind_some, skip_cons]
  rw [readDigits_two (by omega)]
  simp only [Option.bind_some, skip_cons]
  rw [readDigits_two (by omega)]
  simp only [Option.bind_some, skip_cons]
  rw [readDigits_two (by omega)]
  simp only [Option.bind_some, skip_cons]
  rw [readDigits_pad milli, Nat.zero_mul, Nat.zero_add, Option.bind_some]
  simp

/-- An instant that a date can hold and that is written is read back. -/
theorem parse_toISOString {instant : Int} (range : inRange instant = true) :
    parse (toISOString instant) = some instant := by
  have valid := valid_civil range
  have read : readCivil (toISOString instant).toList = some (civil instant) := by
    rw [toISOString, String.toList_ofList, readCivil_text valid]
  have checked : (civil instant).month < 12 ∧
      (civil instant).day < daysInMonth (isLeap (civil instant).yearOfEra) (civil instant).month ∧
      (civil instant).hour < 24 ∧ (civil instant).minute < 60 ∧ (civil instant).second < 60 ∧
      inRange (civil instant).instant = true := by
    rw [instant_civil]
    exact ⟨valid.month, valid.day, valid.hour, valid.minute, valid.second, range⟩
  rw [parse, read, Option.bind_eq_bind, Option.bind_some, if_pos checked, instant_civil]

example : toISOString 1609459200123 = "2021-01-01T00:00:00.123Z" := by decide +kernel

end Manbaa.Lib.DateText
