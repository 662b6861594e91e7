import TemplateLint.Json.Record
import TemplateLint.Json.Value
import TemplateLint.Text.Lines

/-!
# Diagnostics

A diagnostic is one issue that the linter found in a file: where it is, what
it says and how severe it is.  A diagnostic has a compact JSON text, and can
be read from any JSON text with the same fields.
-/

namespace TemplateLint

open Json

inductive Severity where
  | error
  | warning
  deriving DecidableEq, Repr

namespace Severity

/-- The word that stands for a severity. -/
def label : Severity → String
  | .error => "error"
  | .warning => "warning"

/-- Read a severity. -/
def read : Reader Severity :=
  readBareVariant ("error", .error) ("warning", .warning)

theorem label_injective {first second : Severity}
    (equal : first.label = second.label) : first = second := by
  cases first <;> cases second <;> simp [label] at equal ⊢

end Severity

/-- An issue at a line and a column, both counted from one, over a number of
characters. -/
structure Diagnostic where
  line : UInt32
  column : UInt32
  length : UInt32
  message : String
  severity : Severity := .error
  deriving DecidableEq, Repr

namespace Diagnostic

/-- The greatest number of a 32-bit word. -/
def greatestWord32 : Nat := UInt32.size - 1

/-- The column after the last character, as far as a 32-bit word can tell. -/
def endColumn (diagnostic : Diagnostic) : Nat :=
  min (diagnostic.column.toNat + diagnostic.length.toNat) greatestWord32

/-- The first line of the message. -/
def headline (diagnostic : Diagnostic) : String :=
  Text.firstLine diagnostic.message

theorem column_le_endColumn (diagnostic : Diagnostic) :
    diagnostic.column.toNat ≤ diagnostic.endColumn := by
  have bound := diagnostic.column.toNat_lt
  unfold endColumn greatestWord32 UInt32.size
  omega

/-! ## JSON -/

/-- The value that stands for a diagnostic, as members in order. -/
def compact (diagnostic : Diagnostic) : List Char :=
  '\x7b' ::
    (quote "line" ++ ':' :: integerText diagnostic.line.toNat ++
      ',' :: quote "column" ++ ':' :: integerText diagnostic.column.toNat ++
      ',' :: quote "length" ++ ':' :: integerText diagnostic.length.toNat ++
      ',' :: quote "message" ++ ':' :: quote diagnostic.message ++
      ',' :: quote "severity" ++ ':' :: quote diagnostic.severity.label ++
      ['\x7d'])

/-- The compact JSON text of a diagnostic. -/
def render (diagnostic : Diagnostic) : String :=
  String.ofList diagnostic.compact

/-- A diagnostic of which some fields have been read. -/
structure Fields where
  line : Option UInt32 := none
  column : Option UInt32 := none
  length : Option UInt32 := none
  message : Option String := none
  severity : Option Severity := none
  deriving DecidableEq, Repr

/-- The form of a diagnostic: the severity may be left out. -/
def form : RecordForm Fields Diagnostic where
  name := "Diagnostic"
  fields :=
    [{ name := "line", mayLack := false
       isFilled := fun fields => fields.line.isSome
       fill := fun fields text => do
         let (value, rest) ← readWord32 text
         return ({ fields with line := some value }, rest) },
     { name := "column", mayLack := false
       isFilled := fun fields => fields.column.isSome
       fill := fun fields text => do
         let (value, rest) ← readWord32 text
         return ({ fields with column := some value }, rest) },
     { name := "length", mayLack := false
       isFilled := fun fields => fields.length.isSome
       fill := fun fields text => do
         let (value, rest) ← readWord32 text
         return ({ fields with length := some value }, rest) },
     { name := "message", mayLack := false
       isFilled := fun fields => fields.message.isSome
       fill := fun fields text => do
         let (value, rest) ← readString text
         return ({ fields with message := some value }, rest) },
     { name := "severity", mayLack := true
       isFilled := fun fields => fields.severity.isSome
       fill := fun fields text => do
         let (value, rest) ← Severity.read text
         return ({ fields with severity := some value }, rest) }]
  empty := {}
  complete := fun fields => do
    let line ← required "line" fields.line
    let column ← required "column" fields.column
    let length ← required "length" fields.length
    let message ← required "message" fields.message
    return ⟨line, column, length, message, fields.severity.getD .error⟩

/-- Read a diagnostic from a JSON text. -/
def parse (text : String) : Except Fault Diagnostic :=
  readDocument form.read text

end Diagnostic

end TemplateLint
