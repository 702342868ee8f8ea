import Manbaa.Lib.JsonParse

/-!
# What a JSON value contains

The texts and the keys of a value at any depth.  They do not depend on the order of the
properties of its objects.
-/

namespace Manbaa.Lib

namespace Json

mutual

/-- The texts inside of a value. -/
def strings : Json → List String
  | .str text => [text]
  | .arr items => stringsItems items
  | .obj fields => stringsFields fields
  | _ => []

/-- The texts inside of the items of an array. -/
def stringsItems : List Json → List String
  | [] => []
  | item :: rest => item.strings ++ stringsItems rest

/-- The texts inside of the values of properties. -/
def stringsFields : Fields → List String
  | [] => []
  | (_, value) :: rest => value.strings ++ stringsFields rest

end

mutual

/-- The keys inside of a value. -/
def keys : Json → List String
  | .arr items => keysItems items
  | .obj fields => keysFields fields
  | _ => []

/-- The keys inside of the items of an array. -/
def keysItems : List Json → List String
  | [] => []
  | item :: rest => item.keys ++ keysItems rest

/-- The keys of properties, and those inside of their values. -/
def keysFields : Fields → List String
  | [] => []
  | (key, value) :: rest => key :: value.keys ++ keysFields rest

end

theorem stringsItems_eq (items : List Json) : stringsItems items = items.flatMap strings := by
  induction items with
  | nil => rfl
  | cons item rest ih => rw [stringsItems, ih, List.flatMap_cons]

theorem stringsFields_eq (fields : Fields) :
    stringsFields fields = fields.flatMap fun field => field.2.strings := by
  induction fields with
  | nil => rfl
  | cons field rest ih => rw [stringsFields, ih, List.flatMap_cons]

theorem keysFields_eq (fields : Fields) :
    keysFields fields = fields.flatMap fun field => field.1 :: field.2.keys := by
  induction fields with
  | nil => rfl
  | cons field rest ih => rw [keysFields, ih, List.flatMap_cons]

end Json

end Manbaa.Lib
