import TemplateLint.Json.Value

/-!
# The schema of configuration files

Which values a configuration file may hold, and the first rule that a value
breaks.  Members are looked at in the order of their names, items in their
order; a member that the schema does not know is a breach when its turn comes.
-/

namespace TemplateLint

open Json

/-- The types of values that the schema asks for. -/
inductive ValueType where
  | object
  | list
  | text
  | integer
  deriving DecidableEq, Repr

/-- The rules that can be broken. -/
inductive Rule where
  | wrongType (value : Value) (expected : ValueType)
  | emptyText
  | belowMinimum (value : Value)
  | unknownMember (name : String)
  deriving Repr

/-- A broken rule, and the names and positions that lead to the value that
breaks it. -/
structure Breach where
  rule : Rule
  pointer : List String
  deriving Repr

/-- The word for a type in messages. -/
def ValueType.name : ValueType → String
  | .object => "object"
  | .list => "array"
  | .text => "string"
  | .integer => "integer"

def Rule.message : Rule → String
  | .wrongType value expected =>
      value.render ++ " is not of type \"" ++ expected.name ++ "\""
  | .emptyText => "\"\" is shorter than 1 character"
  | .belowMinimum value => value.render ++ " is less than the minimum of 1"
  | .unknownMember name =>
      "Additional properties are not allowed ('" ++ name ++
        "' was unexpected)"

def Breach.message (breach : Breach) : String :=
  breach.rule.message ++ " at " ++
    String.join (breach.pointer.map ("/" ++ ·))

namespace Schema

/-- The first breach of a value at a place, if there is any. -/
abbrev Check := List String → Value → Option Breach

/-- A text. -/
def text : Check
  | _, .text _ => none
  | pointer, value => some ⟨.wrongType value .text, pointer⟩

/-- A text that is not empty. -/
def filledText : Check
  | pointer, .text value =>
      if value.isEmpty then some ⟨.emptyText, pointer⟩ else none
  | pointer, value => some ⟨.wrongType value .text, pointer⟩

/-- An integer that is at least one.  A double without a fractional part is an
integer. -/
def positiveInteger : Check
  | pointer, .integer value =>
      if value < 1 then some ⟨.belowMinimum (.integer value), pointer⟩
      else none
  | pointer, .double value =>
      if !value.isIntegral then
        some ⟨.wrongType (.double value) .integer, pointer⟩
      else if value.isBelowOne then
        some ⟨.belowMinimum (.double value), pointer⟩
      else none
  | pointer, value => some ⟨.wrongType value .integer, pointer⟩

/-- The first breach among items, counted from a position on. -/
def items (check : Check) (pointer : List String) :
    Nat → List Value → Option Breach
  | _, [] => none
  | position, item :: rest =>
      match check (pointer ++ [toString position]) item with
      | some breach => some breach
      | none => items check pointer (position + 1) rest

/-- A list whose items satisfy a check. -/
def listOf (check : Check) : Check
  | pointer, .list values => items check pointer 0 values
  | pointer, value => some ⟨.wrongType value .list, pointer⟩

/-- The first breach among members.  A member that has no check is not
allowed. -/
def members (checks : List (String × Check)) (pointer : List String) :
    List (String × Value) → Option Breach
  | [] => none
  | (name, value) :: rest =>
      match checks.lookup name with
      | none => some ⟨.unknownMember name, pointer⟩
      | some check =>
          match check (pointer ++ [name]) value with
          | some breach => some breach
          | none => members checks pointer rest

/-- An object with members among the given ones. -/
def objectOf (checks : List (String × Check)) : Check
  | pointer, .object entries => members checks pointer entries
  | pointer, value => some ⟨.wrongType value .object, pointer⟩

/-- The program and its arguments. -/
def engine : Check :=
  objectOf [("command", filledText), ("args", listOf text)]

/-- A configuration file. -/
def configuration : Check :=
  objectOf
    [("$schema", text), ("engine", engine),
      ("custom_blocks", listOf filledText),
      ("custom_tags", listOf filledText), ("jobs", positiveInteger)]

end Schema

/-- The first rule that a value breaks, if it is no configuration. -/
def Json.Value.firstBreach (value : Value) : Option Breach :=
  Schema.configuration [] value

end TemplateLint
