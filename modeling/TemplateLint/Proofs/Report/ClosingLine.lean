import TemplateLint.Proofs.Report.SummaryBlock
import TemplateLint.Proofs.Summary

/-!
# The closing line and the exit status

The closing line of a summary looks at its errors and warnings, the exit
status at its files and missing paths.  For every summary that recording and
merging can make, the two say the same.
-/

namespace TemplateLint.Summary

open Report

/-- The summaries that recording paths and merging can make of the empty
one. -/
inductive Recorded : Summary → Prop
  | empty : Recorded empty
  | missing {summary : Summary} :
      Recorded summary → Recorded summary.recordMissing
  | skipped {summary : Summary} :
      Recorded summary → Recorded summary.recordSkipped
  | clean {summary : Summary} :
      Recorded summary → Recorded summary.recordClean
  | diagnostics {summary : Summary} (found : List Diagnostic) :
      Recorded summary → Recorded (summary.recordDiagnostics found)
  | outcome {summary : Summary} (outcome : Outcome) :
      Recorded summary → Recorded (summary.record outcome)
  | merge {left right : Summary} :
      Recorded left → Recorded right → Recorded (left.merge right)

theorem Recorded.consistent {summary : Summary}
    (recorded : Recorded summary) : Consistent summary := by
  induction recorded with
  | empty => exact consistent_empty
  | missing _ inductionHypothesis =>
      exact inductionHypothesis.record .missing
  | skipped _ inductionHypothesis =>
      exact inductionHypothesis.record (.skipped "")
  | clean _ inductionHypothesis =>
      exact inductionHypothesis.record .clean
  | diagnostics found _ inductionHypothesis =>
      exact inductionHypothesis.record (.linted found)
  | outcome outcome _ inductionHypothesis =>
      exact inductionHypothesis.record outcome
  | merge _ _ leftConsistent rightConsistent =>
      exact leftConsistent.merge rightConsistent

/-! ## Conclusions -/

theorem status_code_eq_zero_iff (summary : Summary) :
    summary.status.code = 0 ↔ summary.status = .success := by
  cases summary.status <;> simp [ExitStatus.code]

theorem kind_eq_errors {summary : Summary} (noWarnings : summary.warnings = 0)
    (someErrors : 0 < summary.errors) :
    summary.kind = .errors summary.errors := by
  unfold kind
  rw [noWarnings]
  cases errors : summary.errors with
  | zero => omega
  | succ others => rfl

theorem Consistent.kind_of_pathNotFound {summary : Summary}
    (consistent : Consistent summary)
    (notFound : summary.status = .pathNotFound) :
    summary.kind = .errors summary.missing := by
  obtain ⟨noDiagnostics, someMissing⟩ :=
    (status_eq_pathNotFound_iff summary).mp notFound
  obtain ⟨noWarnings, errorsEq⟩ := consistent.only_missing noDiagnostics
  rw [← errorsEq] at someMissing ⊢
  exact kind_eq_errors noWarnings someMissing

/-- The counts of a summary fit together.  Its closing line tells of no errors
and goes to the output exactly if the exit status is that of success, and the
status of a missing path means that all errors are missing paths. -/
theorem Recorded.closingLine_agrees {summary : Summary}
    (recorded : Recorded summary) :
    summary.missing ≤ summary.errors ∧
    summary.missing + summary.withDiagnostics ≤
      summary.errors + summary.warnings ∧
    (summary.withDiagnostics = 0 →
      summary.warnings = 0 ∧ summary.errors = summary.missing) ∧
    (summary.kind = .noErrors ↔ summary.status = .success) ∧
    (∀ color, ∀ line ∈ summaryBlock color summary,
      line.stream = .output ↔ summary.status.code = 0) ∧
    (summary.status = .pathNotFound →
      summary.kind = .errors summary.missing) := by
  have consistent := recorded.consistent
  refine
    ⟨consistent.missing_le_errors, consistent.files_le_messages,
      consistent.only_missing, consistent.kind_eq_noErrors_iff_status, ?_,
      consistent.kind_of_pathNotFound⟩
  intro color line member
  have isClosingLine : line = summaryLine color summary.kind :=
    List.mem_singleton.mp member
  rw [isClosingLine, summaryLine_stream, status_code_eq_zero_iff,
    ← consistent.kind_eq_noErrors_iff_status]
  by_cases noErrors : summary.kind = .noErrors
  · simp [noErrors]
  · simp [noErrors]

/-- A missing path merged with a file in which nothing was found. -/
theorem Recorded.closingLine_agrees_missing_and_clean :
    let missing := Summary.empty.recordMissing
    let clean := Summary.empty.recordDiagnostics []
    Recorded (missing.merge clean) ∧
      (missing.merge clean).status = .pathNotFound ∧
      (missing.merge clean).kind = .errors 1 := by
  intro missing clean
  have recorded : Recorded (missing.merge clean) :=
    .merge (.missing .empty) (.diagnostics [] .empty)
  have notFound : (missing.merge clean).status = .pathNotFound := by decide
  obtain ⟨_, _, _, _, _, onlyMissing⟩ := recorded.closingLine_agrees
  exact ⟨recorded, notFound, onlyMissing notFound⟩

end TemplateLint.Summary
