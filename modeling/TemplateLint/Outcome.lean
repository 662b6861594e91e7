import TemplateLint.Diagnostic
import TemplateLint.LintFailure

/-!
# Outcomes

What became of one path of a run.
-/

namespace TemplateLint

inductive Outcome where
  /-- The path does not exist. -/
  | missing
  /-- The extension is not linted. -/
  | skipped (extension : String)
  /-- The linter found nothing. -/
  | clean
  /-- The linter found something. -/
  | linted (diagnostics : List Diagnostic)
  /-- The linter failed in a way that is passed over. -/
  | passedOver (failure : LintFailure)
  deriving DecidableEq, Repr

/-- The outcome of a file that the linter has checked. -/
def Outcome.ofDiagnostics : List Diagnostic → Outcome
  | [] => .clean
  | diagnostics => .linted diagnostics

@[simp]
theorem Outcome.ofDiagnostics_nil : Outcome.ofDiagnostics [] = .clean := rfl

@[simp]
theorem Outcome.ofDiagnostics_cons (head : Diagnostic)
    (tail : List Diagnostic) :
    Outcome.ofDiagnostics (head :: tail) = .linted (head :: tail) := rfl

end TemplateLint
