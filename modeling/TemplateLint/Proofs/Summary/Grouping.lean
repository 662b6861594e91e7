import TemplateLint.Proofs.Summary

/-!
# Outcomes in groups

A summary only adds up what its outcomes count.  Whether they are recorded one
after another, in whatever order, or in groups whose summaries are merged with
each other, it is the same summary.
-/

namespace TemplateLint.Summary

/-- Record outcomes one after another. -/
def recordAll (summary : Summary) (outcomes : List Outcome) : Summary :=
  outcomes.foldl record summary

/-- A way to share out outcomes: groups, whose summaries are merged two by two
in the shape of a tree. -/
inductive Grouping where
  | group (outcomes : List Outcome)
  | merged (left right : Grouping)

namespace Grouping

/-- The outcomes of all groups. -/
def outcomes : Grouping → List Outcome
  | group members => members
  | merged left right => left.outcomes ++ right.outcomes

/-- The summary that is left when all groups are merged. -/
def summary : Grouping → Summary
  | group members => recordAll empty members
  | merged left right => left.summary.merge right.summary

theorem summary_eq_mergeAll (grouping : Grouping) :
    grouping.summary = mergeAll (grouping.outcomes.map ofOutcome) := by
  induction grouping with
  | group members => exact (foldl_record members empty).trans (empty_merge _)
  | merged left right leftHypothesis rightHypothesis =>
      rw [summary, outcomes, leftHypothesis, rightHypothesis,
        List.map_append, mergeAll_append]

end Grouping

/-- Merging is commutative and associative and leaves the empty summary out of
account, and recording an outcome merges what it counts alone.  So outcomes
come to the same summary in every order and in every grouping. -/
theorem recordAll_by_any_grouping (start : Summary)
    (outcomes : List Outcome) :
    (∀ left right : Summary, left.merge right = right.merge left) ∧
    (∀ first second third : Summary,
      (first.merge second).merge third =
        first.merge (second.merge third)) ∧
    (∀ summary : Summary,
      summary.merge empty = summary ∧ empty.merge summary = summary) ∧
    (∀ (summary : Summary) (outcome : Outcome),
      summary.record outcome = summary.merge (ofOutcome outcome)) ∧
    (∀ others : List Outcome, others.Perm outcomes →
      recordAll start others = recordAll start outcomes) ∧
    (∀ parts : List Summary, parts.Perm (outcomes.map ofOutcome) →
      start.merge (mergeAll parts) = recordAll start outcomes) ∧
    ∀ grouping : Grouping, grouping.outcomes.Perm outcomes →
      start.merge grouping.summary = recordAll start outcomes := by
  have byParts : ∀ parts : List Summary,
      parts.Perm (outcomes.map ofOutcome) →
      start.merge (mergeAll parts) = recordAll start outcomes := by
    intro parts permutation
    rw [mergeAll_perm permutation]
    exact (foldl_record outcomes start).symm
  refine ⟨merge_comm, merge_assoc,
    fun summary => ⟨merge_empty summary, empty_merge summary⟩,
    record_eq_merge, ?_, byParts, ?_⟩
  · intro others permutation
    exact (foldl_record others start).trans
      (byParts _ (permutation.map ofOutcome))
  · intro grouping permutation
    rw [grouping.summary_eq_mergeAll]
    exact byParts _ (permutation.map ofOutcome)

/-- A missing path, a file without diagnostics and one with a warning, shared
out in another order, with a group that is empty. -/
theorem recordAll_by_any_grouping_with_empty_group :
    let warning : Diagnostic := ⟨1, 2, 3, "x", .warning⟩
    let outcomes : List Outcome := [.missing, .linted [], .linted [warning]]
    let grouping : Grouping :=
      .merged (.group [.linted [warning]])
        (.merged (.group []) (.group [.linted [], .missing]))
    grouping.outcomes.Perm outcomes ∧
      grouping.summary = recordAll empty outcomes ∧
      recordAll empty outcomes =
        { errors := 1, warnings := 1, missing := 1, withDiagnostics := 1,
          clean := 1 } := by
  intro warning outcomes grouping
  have permutation : grouping.outcomes.Perm outcomes := by decide
  obtain ⟨_, _, _, _, _, _, byGrouping⟩ :=
    recordAll_by_any_grouping empty outcomes
  exact ⟨permutation,
    (empty_merge _).symm.trans (byGrouping grouping permutation), by decide⟩

end TemplateLint.Summary
