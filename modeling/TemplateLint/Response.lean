import TemplateLint.Diagnostic
import TemplateLint.LintFailure
import TemplateLint.Text.Blank

/-!
# Responses of the linter

The linter writes one JSON document: the diagnostics of the file, or the error
that kept it from checking the file.
-/

namespace TemplateLint

open Json

/-- An error as the linter reports it. -/
structure ReportedError where
  kind : String
  message : String
  deriving DecidableEq, Repr

/-- A response document. -/
inductive Response where
  | diagnostics (issues : List Diagnostic)
  | error (reported : ReportedError)
  deriving DecidableEq, Repr

namespace Response

/-! ## The forms of the document -/

/-- A location of which some fields have been read. -/
structure LocationFields where
  line : Option UInt32 := none
  column : Option UInt32 := none
  length : Option UInt32 := none
  deriving DecidableEq, Repr

/-- Where a diagnostic is. -/
structure Location where
  line : UInt32
  column : UInt32
  length : UInt32
  deriving DecidableEq, Repr

/-- The form of a location: the length may be left out. -/
def locationForm : RecordForm LocationFields Location where
  name := "WireLocation"
  fields :=
    [{ name := "line", mayLack := false
       isFilled := fun fields => fields.line.isSome
       fill := fun fields text => do
         let (value, rest) ← readWord32 text
         return ({ fields with line := some value }, rest) },
     { name := "col", mayLack := false
       isFilled := fun fields => fields.column.isSome
       fill := fun fields text => do
         let (value, rest) ← readWord32 text
         return ({ fields with column := some value }, rest) },
     { name := "length", mayLack := true
       isFilled := fun fields => fields.length.isSome
       fill := fun fields text => do
         let (value, rest) ← readWord32 text
         return ({ fields with length := some value }, rest) }]
  empty := {}
  complete := fun fields => do
    let line ← required "line" fields.line
    let column ← required "col" fields.column
    return ⟨line, column, fields.length.getD 0⟩

/-- A reported diagnostic of which some fields have been read. -/
structure IssueFields where
  location : Option Location := none
  message : Option String := none
  severity : Option Severity := none
  deriving DecidableEq, Repr

/-- The form of a reported diagnostic: the severity may be left out. -/
def issueForm : RecordForm IssueFields Diagnostic where
  name := "WireDiagnostic"
  fields :=
    [{ name := "location", mayLack := false
       isFilled := fun fields => fields.location.isSome
       fill := fun fields text => do
         let (value, rest) ← locationForm.read text
         return ({ fields with location := some value }, rest) },
     { name := "message", mayLack := false
       isFilled := fun fields => fields.message.isSome
       fill := fun fields text => do
         let (value, rest) ← readString text
         return ({ fields with message := some value }, rest) },
     { name := "severity", mayLack := true
       isFilled := fun fields => fields.severity.isSome
       fill := fun fields text => do
         let (value, rest) ← Severity.read text
         return ({ fields with severity := some value }, rest) }]
  empty := {}
  complete := fun fields => do
    let location ← required "location" fields.location
    let message ← required "message" fields.message
    return ⟨location.line, location.column, location.length, message,
      fields.severity.getD .error⟩

/-- A reported error of which some fields have been read. -/
structure ErrorFields where
  kind : Option String := none
  message : Option String := none
  deriving DecidableEq, Repr

/-- The form of a reported error: the message may be left out. -/
def errorForm : RecordForm ErrorFields ReportedError where
  name := "WireError"
  fields :=
    [{ name := "kind", mayLack := false
       isFilled := fun fields => fields.kind.isSome
       fill := fun fields text => do
         let (value, rest) ← readString text
         return ({ fields with kind := some value }, rest) },
     { name := "message", mayLack := true
       isFilled := fun fields => fields.message.isSome
       fill := fun fields text => do
         let (value, rest) ← readString text
         return ({ fields with message := some value }, rest) }]
  empty := {}
  complete := fun fields => do
    let kind ← required "kind" fields.kind
    return ⟨kind, fields.message.getD ""⟩

/-- The content of the variant `diagnostics`. -/
def readDiagnostics : Reader Response := fun text => do
  let (issues, rest) ← readList issueForm.read text
  return (.diagnostics issues, rest)

/-- The content of the variant `error`. -/
def readError : Reader Response := fun text => do
  let (reported, rest) ← errorForm.read text
  return (.error reported, rest)

/-- Read a response document; blanks around it are allowed. -/
def parse (text : String) : Except Fault Response :=
  readDocument
    (readFullVariant ("diagnostics", readDiagnostics) ("error", readError))
    (Text.trim text)

/-! ## What a response means -/

/-- The kind of error that is a known false alarm. -/
def sandboxKind : String := "sandbox_include"

/-- The failure that a reported error stands for. -/
def failureOf (reported : ReportedError) : LintFailure :=
  if reported.kind = sandboxKind then .sandboxInclude reported.message
  else .rejected reported.kind reported.message

/-- The diagnostics of the file, or why there are none. -/
def toResult : Response → Except LintFailure (List Diagnostic)
  | .diagnostics issues => .ok issues
  | .error reported => .error (failureOf reported)

theorem failureOf_isSuppressed_iff (reported : ReportedError) :
    (failureOf reported).isSuppressed = true ↔
      reported.kind = sandboxKind := by
  unfold failureOf
  split <;> simp_all [LintFailure.isSuppressed]

end Response

end TemplateLint
