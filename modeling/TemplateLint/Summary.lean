import TemplateLint.Outcome

/-!
# Summaries

The counts of a run, how outcomes enter them, and the exit status that follows
from them.  A missing path counts as one error.  A file whose failure is
passed over counts as clean.
-/

namespace TemplateLint

/-- The counts of a run. -/
structure Summary where
  errors : Nat := 0
  warnings : Nat := 0
  missing : Nat := 0
  withDiagnostics : Nat := 0
  clean : Nat := 0
  skipped : Nat := 0
  deriving DecidableEq, Repr

/-- The exit statuses of a run that came to its end, and of one without any
path. -/
inductive ExitStatus where
  | success
  | noPathGiven
  | pathNotFound
  | lintErrors
  deriving DecidableEq, Repr

def ExitStatus.code : ExitStatus → Nat
  | .success => 0
  | .noPathGiven => 65
  | .pathNotFound => 66
  | .lintErrors => 67

/-- Which closing line a summary has. -/
inductive SummaryKind where
  | noErrors
  | errors (count : Nat)
  | warnings (count : Nat)
  | mixed (errors warnings : Nat)
  deriving DecidableEq, Repr

namespace Summary

/-- The summary of a run that has done nothing. -/
def empty : Summary := {}

/-! ## Recording outcomes -/

def recordMissing (summary : Summary) : Summary :=
  { summary with
    missing := summary.missing + 1
    errors := summary.errors + 1 }

def recordSkipped (summary : Summary) : Summary :=
  { summary with skipped := summary.skipped + 1 }

def recordClean (summary : Summary) : Summary :=
  { summary with clean := summary.clean + 1 }

/-- The number of diagnostics of one severity. -/
def countSeverity (severity : Severity) (diagnostics : List Diagnostic) :
    Nat :=
  diagnostics.countP (fun diagnostic => diagnostic.severity == severity)

/-- A file without diagnostics is clean. -/
def recordDiagnostics (diagnostics : List Diagnostic) (summary : Summary) :
    Summary :=
  if diagnostics.isEmpty then summary.recordClean
  else
    { summary with
      withDiagnostics := summary.withDiagnostics + 1
      errors := summary.errors + countSeverity .error diagnostics
      warnings := summary.warnings + countSeverity .warning diagnostics }

/-- Record what became of one path. -/
def record (summary : Summary) : Outcome → Summary
  | .missing => summary.recordMissing
  | .skipped _ => summary.recordSkipped
  | .clean => summary.recordClean
  | .passedOver _ => summary.recordClean
  | .linted diagnostics => summary.recordDiagnostics diagnostics

/-- The summary of one path. -/
def ofOutcome (outcome : Outcome) : Summary :=
  empty.record outcome

/-- The summary of two parts of a run. -/
def merge (left right : Summary) : Summary where
  errors := left.errors + right.errors
  warnings := left.warnings + right.warnings
  missing := left.missing + right.missing
  withDiagnostics := left.withDiagnostics + right.withDiagnostics
  clean := left.clean + right.clean
  skipped := left.skipped + right.skipped

/-- The summary of all parts of a run. -/
def mergeAll (parts : List Summary) : Summary :=
  parts.foldl merge empty

/-! ## Conclusions -/

def kind (summary : Summary) : SummaryKind :=
  match summary.errors, summary.warnings with
  | 0, 0 => .noErrors
  | errors, 0 => .errors errors
  | 0, warnings => .warnings warnings
  | errors, warnings => .mixed errors warnings

/-- Diagnostics, warnings among them, come before missing paths. -/
def status (summary : Summary) : ExitStatus :=
  if 0 < summary.withDiagnostics then .lintErrors
  else if 0 < summary.missing then .pathNotFound
  else .success

@[simp]
theorem merge_empty (summary : Summary) : summary.merge empty = summary := by
  simp [merge, empty]

@[simp]
theorem empty_merge (summary : Summary) : empty.merge summary = summary := by
  simp [merge, empty]

theorem merge_comm (left right : Summary) :
    left.merge right = right.merge left := by
  simp [merge, Nat.add_comm]

theorem merge_assoc (first second third : Summary) :
    (first.merge second).merge third = first.merge (second.merge third) := by
  simp [merge, Nat.add_assoc]

end Summary

end TemplateLint
