import TemplateLint.Report.Block
import TemplateLint.Report.Paint
import TemplateLint.Summary

/-!
# Rendering outcomes and summaries

The block of an outcome.  Diagnostics are listed last first; their severity is
always shown in red.  A file whose failure is passed over has no lines.  The
block of a summary is one line.
-/

namespace TemplateLint.Report

/-- The red path above the details of a file. -/
def header (color : Bool) (path : String) : Line :=
  ⟨.errors, paint color .redUnderlined path⟩

/-- The line for a path that does not exist. -/
def missingDetail (color : Bool) : Line :=
  ⟨.errors,
    "  0:0  " ++ paint color .red "error" ++ "  No such file or directory"⟩

/-- The empty line below the details of a file. -/
def separator : Line := ⟨.output, ""⟩

def missingBlock (color : Bool) (path : String) : Block :=
  [header color path, missingDetail color, separator]

/-- Why a file is not linted. -/
def skipReason (extension : String) (allowed : List String) : String :=
  "(file extension \"" ++ extension ++ "\" does not match one of \"" ++
    ", ".intercalate allowed ++ "\")"

def skippedBlock (color : Bool) (allowed : List String)
    (path extension : String) : Block :=
  [⟨.output,
    paint color .green path ++ ": not scanning " ++
      paint color .dimmed (skipReason extension allowed)⟩]

def cleanBlock (color : Bool) (path : String) : Block :=
  [⟨.output, paint color .green path ++ ": no issues found"⟩]

/-- The line of a diagnostic: where it begins and ends, its severity and the
first line of its message. -/
def detail (color : Bool) (diagnostic : Diagnostic) : Line :=
  let line := toString diagnostic.line.toNat
  ⟨.errors,
    "  " ++ line ++ ":" ++ toString diagnostic.column.toNat ++ "-" ++
      line ++ ":" ++ toString diagnostic.endColumn ++ "  " ++
      paint color .red diagnostic.severity.label ++ "  " ++
      diagnostic.headline⟩

/-- The block of a file that the linter has checked. -/
def diagnosticsBlock (color : Bool) (path : String)
    (diagnostics : List Diagnostic) : Block :=
  if diagnostics.isEmpty then cleanBlock color path
  else
    header color path ::
      (diagnostics.reverse.map (detail color) ++ [separator])

/-- The block of an outcome. -/
def outcomeBlock (color : Bool) (allowed : List String) (path : String) :
    Outcome → Block
  | .missing => missingBlock color path
  | .skipped extension => skippedBlock color allowed path extension
  | .clean => diagnosticsBlock color path []
  | .linted diagnostics => diagnosticsBlock color path diagnostics
  | .passedOver _ => []

/-! ## Summaries -/

/-- The letter that makes a word a plural. -/
def plural (count : Nat) : String :=
  if 1 < count then "s" else ""

def errorsText (color : Bool) (count : Nat) : String :=
  paint color .red "✘" ++ " " ++ toString count ++ " error" ++ plural count

def warningsText (color : Bool) (count : Nat) : String :=
  paint color .yellow "⚠" ++ " " ++ toString count ++ " warning" ++
    plural count

/-- The closing line of a summary. -/
def summaryLine (color : Bool) : SummaryKind → Line
  | .noErrors => ⟨.output, paint color .green "✔" ++ " no errors"⟩
  | .errors count => ⟨.errors, errorsText color count⟩
  | .warnings count => ⟨.errors, warningsText color count⟩
  | .mixed errors warnings =>
      ⟨.errors,
        toString (errors + warnings) ++ " messages (" ++
          errorsText color errors ++ ", " ++ warningsText color warnings ++
          ")"⟩

/-- The block of a summary. -/
def summaryBlock (color : Bool) (summary : Summary) : Block :=
  [summaryLine color summary.kind]

@[simp]
theorem outcomeBlock_clean (color : Bool) (allowed : List String)
    (path : String) :
    outcomeBlock color allowed path .clean = cleanBlock color path := rfl

@[simp]
theorem summaryBlock_length (color : Bool) (summary : Summary) :
    (summaryBlock color summary).length = 1 := rfl

end TemplateLint.Report
