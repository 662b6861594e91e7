/-!
# Failures of the linter

Why the linter could not check a file.  One of the causes is a known false
alarm and is passed over in silence; every other one ends the run.
-/

namespace TemplateLint

/-- The causes of a failure. -/
inductive LintFailure where
  /-- An include points outside the sandbox of the templates. -/
  | sandboxInclude (message : String)
  /-- The linter refused the file for a reason of its own. -/
  | rejected (kind message : String)
  /-- The linter program could not be started. -/
  | notStarted (program message : String)
  /-- What the linter wrote is no response. -/
  | invalidResponse (status message : String)
  deriving DecidableEq, Repr

namespace LintFailure

/-- The failure is passed over, and its file counts as clean. -/
def isSuppressed : LintFailure → Bool
  | .sandboxInclude _ => true
  | _ => false

/-- The message of a failure. -/
def message : LintFailure → String
  | .sandboxInclude message =>
      "Include outside of the template sandbox: " ++ message
  | .rejected kind message =>
      "Linter failed (" ++ kind ++ "): " ++ message
  | .notStarted program message =>
      "Failed to start linter '" ++ program ++ "': " ++ message
  | .invalidResponse status message =>
      "Invalid linter response (" ++ status ++ "): " ++ message

theorem isSuppressed_iff (failure : LintFailure) :
    failure.isSuppressed = true ↔
      ∃ message, failure = .sandboxInclude message := by
  cases failure <;> simp [isSuppressed]

end LintFailure

end TemplateLint
