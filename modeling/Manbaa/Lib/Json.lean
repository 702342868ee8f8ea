import Mathlib.Data.Rat.Defs
import Mathlib.Data.String.Basic

/-!
# JSON values, their structural equality and their stored form

An object is the list of its properties in enumeration order; a property that
occurs twice is shadowed by its first occurrence, so every list denotes an
object.  `normal` keeps of every object the visible properties, ordered by the
length of the key and then by its bytes: the form in which a binary JSON column
keeps a value.  Two values with one normal form differ in nothing but the order
of their keys, which is what structural equality ignores.
-/

namespace Manbaa.Lib

/-- A JSON value.  Numbers are the finite numbers of the language. -/
inductive Json where
  | null
  | bool (value : Bool)
  | num (value : ℚ)
  | str (value : String)
  | arr (items : List Json)
  | obj (fields : List (String × Json))

namespace Json

/-- The properties of an object. -/
abbrev Fields := List (String × Json)

mutual

/-- Equality of JSON values is decided along the first one. -/
def decEq : (first second : Json) → Decidable (first = second)
  | .null, .null => isTrue rfl
  | .bool a, .bool b => decidable_of_iff (a = b) (by simp)
  | .num a, .num b => decidable_of_iff (a = b) (by simp)
  | .str a, .str b => decidable_of_iff (a = b) (by simp)
  | .arr a, .arr b =>
      match decEqItems a b with
      | isTrue h => isTrue (by rw [h])
      | isFalse h => isFalse (by simpa using h)
  | .obj a, .obj b =>
      match decEqFields a b with
      | isTrue h => isTrue (by rw [h])
      | isFalse h => isFalse (by simpa using h)
  | .null, .bool _ | .null, .num _ | .null, .str _ | .null, .arr _ | .null, .obj _
  | .bool _, .null | .bool _, .num _ | .bool _, .str _ | .bool _, .arr _ | .bool _, .obj _
  | .num _, .null | .num _, .bool _ | .num _, .str _ | .num _, .arr _ | .num _, .obj _
  | .str _, .null | .str _, .bool _ | .str _, .num _ | .str _, .arr _ | .str _, .obj _
  | .arr _, .null | .arr _, .bool _ | .arr _, .num _ | .arr _, .str _ | .arr _, .obj _
  | .obj _, .null | .obj _, .bool _ | .obj _, .num _ | .obj _, .str _ | .obj _, .arr _ =>
      isFalse nofun

/-- Equality of the items of two arrays. -/
def decEqItems : (first second : List Json) → Decidable (first = second)
  | [], [] => isTrue rfl
  | [], _ :: _ => isFalse nofun
  | _ :: _, [] => isFalse nofun
  | a :: as, b :: bs =>
      match decEq a b, decEqItems as bs with
      | isTrue h, isTrue t => isTrue (by rw [h, t])
      | isFalse h, _ => isFalse (by simp [h])
      | _, isFalse t => isFalse (by simp [t])

/-- Equality of the properties of two objects. -/
def decEqFields : (first second : Fields) → Decidable (first = second)
  | [], [] => isTrue rfl
  | [], _ :: _ => isFalse nofun
  | _ :: _, [] => isFalse nofun
  | (j, a) :: as, (k, b) :: bs =>
      match decEq a b, decEqFields as bs with
      | isTrue h, isTrue t => decidable_of_iff (j = k) (by simp [h, t])
      | isFalse h, _ => isFalse (by simp [h])
      | _, isFalse t => isFalse (by simp [t])

end

instance : DecidableEq Json := decEq

/-- The text does not hold the zero character. -/
def zeroFree (text : String) : Bool := !text.toList.contains (Char.ofNat 0)

/-! ## The stored form -/

/-- The order of object keys in the stored form: shorter keys first, keys of
one length by their bytes. -/
def KeyLt (first second : String) : Prop :=
  first.utf8ByteSize < second.utf8ByteSize ∨
    first.utf8ByteSize = second.utf8ByteSize ∧ first < second

instance (first second : String) : Decidable (KeyLt first second) :=
  inferInstanceAs (Decidable (_ ∨ _))

theorem keyLt_irrefl (key : String) : ¬ KeyLt key key := by
  rintro (shorter | ⟨_, smaller⟩)
  · exact Nat.lt_irrefl _ shorter
  · exact String.lt_irrefl key smaller

theorem keyLt_trans {first second third : String} (left : KeyLt first second)
    (right : KeyLt second third) : KeyLt first third := by
  rcases left with left | ⟨leftSize, left⟩
  · rcases right with right | ⟨rightSize, _⟩
    · exact Or.inl (Nat.lt_trans left right)
    · exact Or.inl (rightSize ▸ left)
  · rcases right with right | ⟨rightSize, right⟩
    · exact Or.inl (leftSize ▸ right)
    · exact Or.inr ⟨leftSize.trans rightSize, String.lt_trans left right⟩

theorem keyLt_of_not_keyLt {first second : String} (ne : first ≠ second)
    (not_lt : ¬ KeyLt first second) : KeyLt second first := by
  rcases Nat.lt_trichotomy first.utf8ByteSize second.utf8ByteSize with size | size | size
  · exact absurd (Or.inl size) not_lt
  · rcases lt_or_gt_of_ne ne with smaller | larger
    · exact absurd (Or.inr ⟨size, smaller⟩) not_lt
    · exact Or.inr ⟨size.symm, larger⟩
  · exact Or.inl size

/-- Put a property in its place among properties in the stored order, in the
place of the property with the same key if there is one. -/
def insertField (key : String) (value : Json) : Fields → Fields
  | [] => [(key, value)]
  | (other, found) :: rest =>
      if key = other then (key, value) :: rest
      else if KeyLt key other then (key, value) :: (other, found) :: rest
      else (other, found) :: insertField key value rest

mutual

/-- The stored form of a value. -/
def normal : Json → Json
  | .null => .null
  | .bool value => .bool value
  | .num value => .num value
  | .str value => .str value
  | .arr items => .arr (normalItems items)
  | .obj fields => .obj (normalFields fields)

/-- The stored form of the items of an array. -/
def normalItems : List Json → List Json
  | [] => []
  | item :: rest => normal item :: normalItems rest

/-- The stored form of the properties of an object. -/
def normalFields : Fields → Fields
  | [] => []
  | (key, value) :: rest => insertField key (normal value) (normalFields rest)

end

mutual

/-- No text in the value holds the zero character, which a binary JSON column
cannot store. -/
def storable : Json → Bool
  | .str value => zeroFree value
  | .arr items => storableItems items
  | .obj fields => storableFields fields
  | _ => true

/-- No item of the array holds the zero character. -/
def storableItems : List Json → Bool
  | [] => true
  | item :: rest => storable item && storableItems rest

/-- No property of the object holds the zero character. -/
def storableFields : Fields → Bool
  | [] => true
  | (key, value) :: rest => zeroFree key && storable value && storableFields rest

end

/-- The value that a binary JSON column returns for the value stored in it. -/
abbrev jsonb (value : Json) : Json := value.normal

/-- Two values are the same JSON value when they differ in the order of object
keys only. -/
def Same (first second : Json) : Prop := first.normal = second.normal

instance (first second : Json) : Decidable (Same first second) :=
  inferInstanceAs (Decidable (_ = _))

/-- Node's structural equality on JSON values, which ignores the order of
object keys. -/
def isDeepStrictEqual (first second : Json) : Bool := decide (Same first second)

/-- The properties stand in the stored order, each key once. -/
def Sorted (fields : Fields) : Prop := fields.Pairwise fun left right => KeyLt left.1 right.1

theorem lookup_cons_of_ne {key wanted : String} (ne : wanted ≠ key) (value : Json)
    (fields : Fields) : ((key, value) :: fields).lookup wanted = fields.lookup wanted := by
  simp [List.lookup_cons, beq_eq_false_iff_ne.mpr ne]

@[simp]
theorem lookup_insertField (key wanted : String) (value : Json) (fields : Fields) :
    (insertField key value fields).lookup wanted =
      if wanted = key then some value else fields.lookup wanted := by
  induction fields with
  | nil =>
      by_cases h : wanted = key
      · simp [insertField, h]
      · simp [insertField, lookup_cons_of_ne h, h]
  | cons field rest ih =>
      obtain ⟨other, found⟩ := field
      simp only [insertField]
      split
      · rename_i equal
        subst other
        by_cases h : wanted = key
        · simp [h]
        · simp [lookup_cons_of_ne h, h]
      · rename_i differs
        split
        · by_cases h : wanted = key
          · simp [h]
          · simp [lookup_cons_of_ne h, h]
        · by_cases h : wanted = other
          · subst wanted
            simp [Ne.symm differs]
          · rw [lookup_cons_of_ne h, lookup_cons_of_ne h, ih]

theorem mem_insertField {key : String} {value : Json} {fields : Fields}
    {field : String × Json} (member : field ∈ insertField key value fields) :
    field = (key, value) ∨ field ∈ fields := by
  induction fields with
  | nil => simpa [insertField] using member
  | cons head rest ih =>
      obtain ⟨other, found⟩ := head
      simp only [insertField] at member
      split at member
      · rcases List.mem_cons.mp member with equal | tail
        · exact Or.inl equal
        · exact Or.inr (List.mem_cons_of_mem _ tail)
      · split at member
        · exact List.mem_cons.mp member
        · rcases List.mem_cons.mp member with equal | tail
          · exact Or.inr (equal ▸ List.mem_cons_self)
          · exact (ih tail).imp_right (List.mem_cons_of_mem _)

theorem sorted_insertField {key : String} {value : Json} {fields : Fields}
    (sorted : Sorted fields) : Sorted (insertField key value fields) := by
  induction fields with
  | nil => exact List.pairwise_singleton _ _
  | cons head rest ih =>
      obtain ⟨other, found⟩ := head
      obtain ⟨below, restSorted⟩ := List.pairwise_cons.mp sorted
      simp only [insertField]
      split
      · rename_i equal
        subst other
        exact List.pairwise_cons.mpr ⟨below, restSorted⟩
      · rename_i differs
        split
        · rename_i smaller
          refine List.pairwise_cons.mpr ⟨fun field member => ?_, sorted⟩
          rcases List.mem_cons.mp member with rfl | tail
          · exact smaller
          · exact keyLt_trans smaller (below field tail)
        · rename_i notSmaller
          refine List.pairwise_cons.mpr ⟨fun field member => ?_, ih restSorted⟩
          rcases mem_insertField member with rfl | tail
          · exact keyLt_of_not_keyLt differs notSmaller
          · exact below field tail

theorem sorted_normalFields (fields : Fields) : Sorted (normalFields fields) := by
  induction fields with
  | nil => exact List.Pairwise.nil
  | cons head rest ih => exact sorted_insertField ih

theorem normalItems_eq_map (items : List Json) : normalItems items = items.map normal := by
  induction items with
  | nil => rfl
  | cons item rest ih => simp [normalItems, ih]

@[simp]
theorem lookup_normalFields (fields : Fields) (key : String) :
    (normalFields fields).lookup key = (fields.lookup key).map normal := by
  induction fields with
  | nil => rfl
  | cons head rest ih =>
      obtain ⟨other, value⟩ := head
      by_cases h : key = other
      · subst other
        simp [normalFields]
      · simp [normalFields, lookup_cons_of_ne h, h, ih]

theorem lookup_eq_none_of_below {key : String} {fields : Fields}
    (below : ∀ field ∈ fields, KeyLt key field.1) : fields.lookup key = none := by
  rw [List.lookup_eq_none_iff]
  intro field member
  have differs : key ≠ field.1 := by
    intro equal
    exact keyLt_irrefl key (equal ▸ below field member)
  simpa using differs

/-- Properties in the stored order are determined by what they look up to. -/
theorem Sorted.eq_of_lookup_eq {first second : Fields} (firstSorted : Sorted first)
    (secondSorted : Sorted second)
    (same : ∀ key, first.lookup key = second.lookup key) : first = second := by
  induction first generalizing second with
  | nil =>
      cases second with
      | nil => rfl
      | cons head rest =>
          obtain ⟨key, value⟩ := head
          simpa using same key
  | cons left first ih =>
      obtain ⟨key, value⟩ := left
      cases second with
      | nil => simpa using same key
      | cons right second =>
          obtain ⟨other, found⟩ := right
          obtain ⟨below, firstRest⟩ := List.pairwise_cons.mp firstSorted
          obtain ⟨otherBelow, secondRest⟩ := List.pairwise_cons.mp secondSorted
          have keyEq : key = other := by
            by_contra differs
            by_cases smaller : KeyLt key other
            · have absent : ((other, found) :: second).lookup key = none :=
                lookup_eq_none_of_below fun field member => by
                  rcases List.mem_cons.mp member with rfl | tail
                  · exact smaller
                  · exact keyLt_trans smaller (otherBelow field tail)
              simpa [absent] using same key
            · have larger := keyLt_of_not_keyLt differs smaller
              have absent : ((key, value) :: first).lookup other = none :=
                lookup_eq_none_of_below fun field member => by
                  rcases List.mem_cons.mp member with rfl | tail
                  · exact larger
                  · exact keyLt_trans larger (below field tail)
              simpa [absent] using (same other).symm
          subst other
          have valueEq : value = found := by simpa using same key
          subst found
          refine congrArg _ (ih firstRest secondRest fun wanted => ?_)
          by_cases h : wanted = key
          · subst wanted
            rw [lookup_eq_none_of_below below, lookup_eq_none_of_below otherBelow]
          · simpa [lookup_cons_of_ne h] using same wanted

/-! ## The text form -/

/-- The digit of a number below sixteen. -/
def hexDigit (value : Nat) : Char := Nat.digitChar value

/-- A character inside a quoted text. -/
def escape (char : Char) : List Char :=
  if char = '"' then ['\\', '"']
  else if char = '\\' then ['\\', '\\']
  else if char = '\n' then ['\\', 'n']
  else if char = '\r' then ['\\', 'r']
  else if char = '\t' then ['\\', 't']
  else if char.toNat = 8 then ['\\', 'b']
  else if char.toNat = 12 then ['\\', 'f']
  else if char.toNat < 32 then
    ['\\', 'u', '0', '0', hexDigit (char.toNat / 16), hexDigit (char.toNat % 16)]
  else [char]

/-- A quoted text. -/
def quote (text : String) : List Char := '"' :: text.toList.flatMap escape ++ ['"']

mutual

/-- The characters of the text form, given the text of numbers. -/
def chars (numberText : ℚ → String) : Json → List Char
  | .null => ['n', 'u', 'l', 'l']
  | .bool true => ['t', 'r', 'u', 'e']
  | .bool false => ['f', 'a', 'l', 's', 'e']
  | .num value => (numberText value).toList
  | .str value => quote value
  | .arr items => '[' :: charsItems numberText true items ++ [']']
  | .obj fields => '{' :: charsFields numberText [] fields ++ ['}']

/-- The characters of the items of an array, separated by commas. -/
def charsItems (numberText : ℚ → String) (first : Bool) : List Json → List Char
  | [] => []
  | item :: rest =>
      (if first then [] else [',']) ++ chars numberText item ++ charsItems numberText false rest

/-- The characters of the visible properties of an object, separated by
commas. -/
def charsFields (numberText : ℚ → String) (seen : List String) : Fields → List Char
  | [] => []
  | (key, value) :: rest =>
      if key ∈ seen then charsFields numberText seen rest
      else
        (if seen = [] then [] else [',']) ++ quote key ++ ':' :: chars numberText value ++
          charsFields numberText (key :: seen) rest

end

/-- `JSON.stringify`, given the text of numbers. -/
def stringify (numberText : ℚ → String) (value : Json) : String :=
  String.ofList (chars numberText value)

/-! ## Structural equality -/

theorem same_refl (value : Json) : Same value value :=
  rfl

theorem Same.symm {first second : Json} (same : Same first second) : Same second first :=
  Eq.symm same

theorem Same.trans {first second third : Json} (left : Same first second)
    (right : Same second third) : Same first third :=
  Eq.trans left right

@[simp]
theorem isDeepStrictEqual_iff {first second : Json} :
    isDeepStrictEqual first second = true ↔ Same first second := by
  simp [isDeepStrictEqual]

/-- Arrays are the same when their items are, one by one. -/
theorem same_arr_iff {first second : List Json} :
    Same (.arr first) (.arr second) ↔ first.map normal = second.map normal := by
  simp [Same, normal, normalItems_eq_map]

/-- Objects are the same when every key has the same value in both. -/
theorem same_obj_iff {first second : Fields} :
    Same (.obj first) (.obj second) ↔
      ∀ key, (first.lookup key).map normal = (second.lookup key).map normal := by
  simp only [Same, normal, obj.injEq]
  constructor
  · intro equal key
    rw [← lookup_normalFields, ← lookup_normalFields, equal]
  · intro same
    refine (sorted_normalFields first).eq_of_lookup_eq (sorted_normalFields second) fun key => ?_
    simpa using same key

mutual

/-- Storing a value that was read back changes nothing. -/
theorem normal_normal : ∀ value : Json, value.normal.normal = value.normal
  | .null | .bool _ | .num _ | .str _ => rfl
  | .arr items => congrArg Json.arr (normalItems_normalItems items)
  | .obj fields => by
      refine congrArg Json.obj
        ((sorted_normalFields _).eq_of_lookup_eq (sorted_normalFields _) fun key => ?_)
      rw [lookup_normalFields, lookup_normalFields]
      cases found : fields.lookup key with
      | none => rfl
      | some value => simpa using normal_normal_of_lookup fields key value found

theorem normalItems_normalItems :
    ∀ items : List Json, normalItems (normalItems items) = normalItems items
  | [] => rfl
  | item :: rest => by
      simp only [normalItems, normal_normal item, normalItems_normalItems rest]

theorem normal_normal_of_lookup : ∀ (fields : Fields) (key : String) (value : Json),
    fields.lookup key = some value → value.normal.normal = value.normal
  | [], _, _, found => by simp at found
  | (other, head) :: rest, key, value, found => by
      by_cases h : key = other
      · subst other
        obtain rfl : head = value := by simpa using found
        exact normal_normal head
      · exact normal_normal_of_lookup rest key value (by simpa [lookup_cons_of_ne h] using found)

end

/-- A value read back from its column is the value that was stored. -/
@[simp]
theorem jsonb_same (value : Json) : Same value.jsonb value :=
  normal_normal value

theorem storableFields_insertField {key : String} {value : Json} {fields : Fields}
    (keyFree : zeroFree key = true) (valueStorable : value.storable = true)
    (rest : storableFields fields = true) :
    storableFields (insertField key value fields) = true := by
  induction fields with
  | nil => simp [insertField, storableFields, keyFree, valueStorable]
  | cons head tail ih =>
      obtain ⟨other, found⟩ := head
      simp only [storableFields, Bool.and_eq_true] at rest
      obtain ⟨⟨otherFree, foundStorable⟩, tailStorable⟩ := rest
      simp only [insertField]
      split
      · simp [storableFields, keyFree, valueStorable, tailStorable]
      · split
        · simp [storableFields, keyFree, valueStorable, otherFree, foundStorable, tailStorable]
        · simp [storableFields, otherFree, foundStorable, ih tailStorable]

mutual

/-- What can be stored can be stored again. -/
theorem storable_normal : ∀ value : Json, value.storable = true → value.normal.storable = true
  | .null, _ | .bool _, _ | .num _, _ => rfl
  | .str _, stored => stored
  | .arr items, stored => storableItems_normalItems items stored
  | .obj fields, stored => storableFields_normalFields fields stored

theorem storableItems_normalItems :
    ∀ items : List Json, storableItems items = true → storableItems (normalItems items) = true
  | [], _ => rfl
  | item :: rest, stored => by
      simp only [storableItems, Bool.and_eq_true] at stored
      simp [normalItems, storableItems, storable_normal item stored.1,
        storableItems_normalItems rest stored.2]

theorem storableFields_normalFields :
    ∀ fields : Fields, storableFields fields = true →
      storableFields (normalFields fields) = true
  | [], _ => rfl
  | (key, value) :: rest, stored => by
      simp only [storableFields, Bool.and_eq_true] at stored
      exact storableFields_insertField stored.1.1 (storable_normal value stored.1.2)
        (storableFields_normalFields rest stored.2)

end

end Json

end Manbaa.Lib
