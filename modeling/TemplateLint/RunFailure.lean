import TemplateLint.LintFailure
import TemplateLint.Path

/-!
# Failures of a run

What ends a run before its summary.  Missing paths, files that are not linted
and failures that are passed over do not.
-/

namespace TemplateLint

inductive RunFailure where
  /-- The configuration could not be loaded. -/
  | configuration (cause : String)
  /-- The linter failed on a file. -/
  | dispatch (path : Path) (failure : LintFailure)
  /-- Something could not be read or written. -/
  | io (cause : String)
  /-- The task that ran the linter on a file was lost, for the cause that the
  runtime names. -/
  | taskLost (cause : String)
  deriving DecidableEq, Repr

/-- The message of a failure. -/
def RunFailure.message : RunFailure → String
  | .configuration cause => "Configuration error: " ++ cause
  | .dispatch path failure =>
      "Failed to lint " ++ path.shown ++ ": " ++ failure.message
  | .io cause => "I/O error: " ++ cause
  | .taskLost cause =>
      "Internal error: Lint task did not complete: " ++ cause

end TemplateLint
