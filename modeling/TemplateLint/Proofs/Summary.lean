import Mathlib.Data.List.Basic
import TemplateLint.Summary

/-!
# What summaries count

The summary of the parts of a run does not depend on their order, and a count
is positive exactly if it is in some part.  The counts of a run fit together,
so that the closing line and the exit status never contradict each other.
-/

namespace TemplateLint.Summary

/-! ## Merging parts -/

@[simp]
theorem mergeAll_nil : mergeAll [] = empty := rfl

theorem foldl_merge (parts : List Summary) (first : Summary) :
    parts.foldl merge first = first.merge (mergeAll parts) := by
  induction parts generalizing first with
  | nil => simp
  | cons part rest inductionHypothesis =>
      rw [mergeAll, List.foldl_cons, List.foldl_cons,
        inductionHypothesis, inductionHypothesis (empty.merge part),
        empty_merge, merge_assoc]

theorem mergeAll_cons (part : Summary) (rest : List Summary) :
    mergeAll (part :: rest) = part.merge (mergeAll rest) := by
  rw [mergeAll, List.foldl_cons, empty_merge, foldl_merge]

theorem mergeAll_append (left right : List Summary) :
    mergeAll (left ++ right) = (mergeAll left).merge (mergeAll right) := by
  rw [mergeAll, List.foldl_append, foldl_merge]
  rfl

/-- The order of the parts does not matter. -/
theorem mergeAll_perm {left right : List Summary}
    (permutation : left.Perm right) : mergeAll left = mergeAll right := by
  apply permutation.foldl_eq'
  intro first _ second _ current
  rw [merge_assoc, merge_comm first second, ← merge_assoc]

/-! ## Recording outcomes -/

/-- Recording an outcome merges the summary of that outcome alone. -/
theorem record_eq_merge (summary : Summary) (outcome : Outcome) :
    summary.record outcome = summary.merge (ofOutcome outcome) := by
  cases outcome with
  | missing => simp [ofOutcome, record, recordMissing, merge, empty]
  | skipped extension => simp [ofOutcome, record, recordSkipped, merge, empty]
  | clean => simp [ofOutcome, record, recordClean, merge, empty]
  | passedOver failure => simp [ofOutcome, record, recordClean, merge, empty]
  | linted diagnostics =>
      cases diagnostics <;>
        simp [ofOutcome, record, recordDiagnostics, recordClean, merge, empty]

theorem foldl_record (outcomes : List Outcome) (first : Summary) :
    outcomes.foldl record first =
      first.merge (mergeAll (outcomes.map ofOutcome)) := by
  induction outcomes generalizing first with
  | nil => simp
  | cons outcome rest inductionHypothesis =>
      rw [List.foldl_cons, inductionHypothesis, record_eq_merge, List.map_cons,
        mergeAll_cons, merge_assoc]

/-! ## Positive counts -/

/-- A count that merging adds up is positive exactly if it is in some part. -/
theorem count_mergeAll_pos_iff (count : Summary → Nat)
    (count_empty : count empty = 0)
    (count_merge : ∀ left right : Summary,
      count (left.merge right) = count left + count right)
    (parts : List Summary) :
    0 < count (mergeAll parts) ↔ ∃ part ∈ parts, 0 < count part := by
  induction parts with
  | nil => simp [count_empty]
  | cons part rest inductionHypothesis =>
      rw [mergeAll_cons, count_merge, List.exists_mem_cons_iff,
        ← inductionHypothesis]
      omega

theorem withDiagnostics_ofOutcome_pos_iff (outcome : Outcome) :
    0 < (ofOutcome outcome).withDiagnostics ↔
      ∃ first rest, outcome = .linted (first :: rest) := by
  cases outcome with
  | missing => simp [ofOutcome, record, recordMissing, empty]
  | skipped extension => simp [ofOutcome, record, recordSkipped, empty]
  | clean => simp [ofOutcome, record, recordClean, empty]
  | passedOver failure => simp [ofOutcome, record, recordClean, empty]
  | linted diagnostics =>
      cases diagnostics <;>
        simp [ofOutcome, record, recordDiagnostics, recordClean, empty]

theorem missing_ofOutcome_pos_iff (outcome : Outcome) :
    0 < (ofOutcome outcome).missing ↔ outcome = .missing := by
  cases outcome with
  | missing => simp [ofOutcome, record, recordMissing, empty]
  | skipped extension => simp [ofOutcome, record, recordSkipped, empty]
  | clean => simp [ofOutcome, record, recordClean, empty]
  | passedOver failure => simp [ofOutcome, record, recordClean, empty]
  | linted diagnostics =>
      cases diagnostics <;>
        simp [ofOutcome, record, recordDiagnostics, recordClean, empty]

/-! ## Counts that fit together -/

/-- Every missing path is an error, every file with diagnostics has at least
one, and there are no others. -/
structure Consistent (summary : Summary) : Prop where
  missing_le_errors : summary.missing ≤ summary.errors
  files_le_messages :
    summary.missing + summary.withDiagnostics ≤
      summary.errors + summary.warnings
  only_missing : summary.withDiagnostics = 0 →
    summary.warnings = 0 ∧ summary.errors = summary.missing

theorem consistent_empty : Consistent empty := by
  constructor <;> simp [empty]

theorem Consistent.merge {left right : Summary}
    (leftConsistent : Consistent left)
    (rightConsistent : Consistent right) :
    Consistent (left.merge right) := by
  obtain ⟨leftMissing, leftFiles, leftOnly⟩ := leftConsistent
  obtain ⟨rightMissing, rightFiles, rightOnly⟩ := rightConsistent
  constructor <;> simp only [Summary.merge] <;> omega

theorem length_eq_countSeverity_add (diagnostics : List Diagnostic) :
    diagnostics.length =
      countSeverity .error diagnostics +
        countSeverity .warning diagnostics := by
  induction diagnostics with
  | nil => rfl
  | cons diagnostic rest inductionHypothesis =>
      unfold countSeverity at inductionHypothesis ⊢
      rw [List.length_cons, List.countP_cons, List.countP_cons]
      cases severity : diagnostic.severity <;> simp <;> omega

theorem Consistent.record {summary : Summary}
    (consistent : Consistent summary) (outcome : Outcome) :
    Consistent (summary.record outcome) := by
  obtain ⟨missing, files, only⟩ := consistent
  cases outcome with
  | missing =>
      constructor <;> simp only [Summary.record, recordMissing] <;> omega
  | skipped extension => exact ⟨missing, files, only⟩
  | clean => exact ⟨missing, files, only⟩
  | passedOver failure => exact ⟨missing, files, only⟩
  | linted diagnostics =>
      cases diagnostics with
      | nil => exact ⟨missing, files, only⟩
      | cons first rest =>
          have lengths := length_eq_countSeverity_add (first :: rest)
          rw [List.length_cons] at lengths
          constructor <;>
            simp only [Summary.record, recordDiagnostics,
              List.isEmpty_cons, Bool.false_eq_true, if_false] <;>
            omega

theorem consistent_mergeAll {parts : List Summary}
    (consistent : ∀ part ∈ parts, Consistent part) :
    Consistent (mergeAll parts) := by
  induction parts with
  | nil => exact consistent_empty
  | cons part rest inductionHypothesis =>
      rw [mergeAll_cons]
      have restConsistent := inductionHypothesis fun other member =>
        consistent other (List.mem_cons_of_mem part member)
      exact (consistent part List.mem_cons_self).merge restConsistent

/-! ## Conclusions -/

theorem kind_eq_noErrors_iff (summary : Summary) :
    summary.kind = .noErrors ↔
      summary.errors = 0 ∧ summary.warnings = 0 := by
  unfold kind
  split <;> simp_all

theorem kind_eq_mixed {summary : Summary} (someErrors : 0 < summary.errors)
    (someWarnings : 0 < summary.warnings) :
    summary.kind = .mixed summary.errors summary.warnings := by
  unfold kind
  split <;> simp_all

theorem kind_ne_mixed {summary : Summary}
    (notBoth : ¬(0 < summary.errors ∧ 0 < summary.warnings))
    (errors warnings : Nat) : summary.kind ≠ .mixed errors warnings := by
  unfold kind
  cases someErrors : summary.errors with
  | zero => cases summary.warnings <;> simp
  | succ _ =>
      cases someWarnings : summary.warnings with
      | zero => simp
      | succ _ => exact absurd (by omega) notBoth

theorem status_eq_lintErrors_iff (summary : Summary) :
    summary.status = .lintErrors ↔ 0 < summary.withDiagnostics := by
  unfold status
  split
  · simp_all
  · split <;> simp_all

theorem status_eq_pathNotFound_iff (summary : Summary) :
    summary.status = .pathNotFound ↔
      summary.withDiagnostics = 0 ∧ 0 < summary.missing := by
  unfold status
  split
  · simp
    omega
  · split
    · simp
      omega
    · simp
      omega

theorem status_eq_success_iff (summary : Summary) :
    summary.status = .success ↔
      summary.withDiagnostics = 0 ∧ summary.missing = 0 := by
  unfold status
  split
  · simp
    omega
  · split
    · simp
      omega
    · simp
      omega

/-- The closing line tells of no errors exactly if the status does. -/
theorem Consistent.kind_eq_noErrors_iff_status {summary : Summary}
    (consistent : Consistent summary) :
    summary.kind = .noErrors ↔ summary.status = .success := by
  obtain ⟨missing, files, only⟩ := consistent
  rw [kind_eq_noErrors_iff, status_eq_success_iff]
  omega

end TemplateLint.Summary
