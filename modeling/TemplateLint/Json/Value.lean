import TemplateLint.Json.Quoted
import TemplateLint.NameMap
import TemplateLint.Number.Shortest

/-!
# JSON values

A value as a document means it: the members of an object are a map from
names.  The compact text of a value has no blanks.
-/

namespace TemplateLint.Json

/-- A JSON value.  Numbers are integers or doubles. -/
inductive Value where
  | null
  | boolean (value : Bool)
  | integer (value : Int)
  | double (value : Number.Binary64)
  | text (value : String)
  | list (items : List Value)
  | object (members : List (String × Value))
  deriving Repr

/-! ## Compact text -/

/-- The digits of an integer, with a sign if it is negative. -/
def integerText : Int → List Char
  | .ofNat value => Nat.toDigits 10 value
  | .negSucc value => '-' :: Nat.toDigits 10 (value + 1)

mutual

/-- The text of a value without blanks. -/
def Value.compact : Value → List Char
  | .null => ['n', 'u', 'l', 'l']
  | .boolean true => ['t', 'r', 'u', 'e']
  | .boolean false => ['f', 'a', 'l', 's', 'e']
  | .integer value => integerText value
  | .double value => value.render.toList
  | .text value => quote value
  | .list items => '[' :: (compactItems items ++ [']'])
  | .object members => '\x7b' :: (compactMembers members ++ ['\x7d'])

/-- Items with commas between them. -/
def compactItems : List Value → List Char
  | [] => []
  | [item] => item.compact
  | item :: next :: rest =>
      item.compact ++ ',' :: compactItems (next :: rest)

/-- Members with commas between them. -/
def compactMembers : List (String × Value) → List Char
  | [] => []
  | [(name, value)] => quote name ++ ':' :: value.compact
  | (name, value) :: next :: rest =>
      quote name ++ ':' :: (value.compact ++ ',' ::
        compactMembers (next :: rest))

end

/-- The compact text of a value. -/
def Value.render (value : Value) : String :=
  String.ofList value.compact

@[simp]
theorem compactItems_nil : compactItems [] = [] := rfl

@[simp]
theorem compactMembers_nil : compactMembers [] = [] := rfl

end TemplateLint.Json
