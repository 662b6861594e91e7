import TemplateLint.Proofs.Dispatch.RunSummary

/-!
# When the linter replies

Two runs in which the linter gives the same replies, each at a time of its own,
either both fail or come to the same summary after the same blocks, which may
stand in another order.
-/

namespace TemplateLint.Dispatch

open Report

variable (settings : Settings) (tree : FileTree) (inputs : List String)

/-! ## Replies without their times -/

section SameReplies

variable {left right : Engine}
  (same : ∀ path, (left path).reply = (right path).reply)

include same

theorem settledOutcomes_of_sameReplies (files : List Path) :
    settledOutcomes tree left inputs files =
      settledOutcomes tree right inputs files := by
  unfold settledOutcomes
  congr 1
  refine List.filterMap_congr fun file _ => ?_
  simp only [settledFile?, same]

theorem reportedBlocks_of_sameReplies (color : Bool) (files : List Path) :
    reportedBlocks tree left inputs color files =
      reportedBlocks tree right inputs color files := by
  unfold reportedBlocks
  congr 1
  refine List.filterMap_congr fun file _ => ?_
  simp only [blockOfFile?, same]

end SameReplies

theorem reportedBlocks_perm (engine : Engine) (color : Bool)
    {first second : List Path} (permutation : first.Perm second) :
    (reportedBlocks tree engine inputs color first).Perm
      (reportedBlocks tree engine inputs color second) :=
  (permutation.filterMap _).append_left _

/-! ## Runs -/

/-- The failure of a run is that of the reply for one of its files. -/
theorem exists_reply_of_run_fails (engine : Engine) {failure : RunFailure}
    (fails : (run settings tree engine inputs).ending = .error failure) :
    ∃ path ∈ inputs.flatMap (lintedFiles tree),
      (engine path).reply.toOutcome path = .error failure := by
  have someEnds :=
    (run_fails_iff settings tree engine inputs).mp ⟨failure, fails⟩
  obtain ⟨before, path, after, cause, order, continues, causes⟩ :=
    exists_first_failure settings tree engine inputs someEnds
  obtain ⟨_, ending⟩ :=
    run_of_endsRun settings tree engine inputs order continues causes
  have inOrder : path ∈ settlingOrder settings engine
      (inputs.flatMap (lintedFiles tree)) := by
    rw [order]
    exact List.mem_append_right _ List.mem_cons_self
  have sameFailure := Except.error.inj (fails.symm.trans ending)
  exact ⟨path, (settlingOrder_perm settings engine _).mem_iff.mp inOrder,
    sameFailure ▸ causes⟩

/-- With the same replies both runs fail, or both end with the same summary
behind the same blocks. -/
theorem run_of_sameReplies {left right : Engine}
    (same : ∀ path, (left path).reply = (right path).reply) :
    let first := run settings tree left inputs
    let second := run settings tree right inputs
    (∃ firstFailure secondFailure,
      first.ending = .error firstFailure ∧
      second.ending = .error secondFailure) ∨
    ∃ summary firstBlocks secondBlocks,
      first.ending = .ok summary ∧ second.ending = .ok summary ∧
      first.blocks =
        firstBlocks ++ [summaryBlock settings.color summary] ∧
      second.blocks =
        secondBlocks ++ [summaryBlock settings.color summary] ∧
      firstBlocks.Perm secondBlocks := by
  intro first second
  have sameEnds : (∃ failure, first.ending = .error failure) ↔
      ∃ failure, second.ending = .error failure := by
    rw [run_fails_iff, run_fails_iff]
    simp only [same]
  cases firstEnds : first.ending with
  | error failure =>
      obtain ⟨secondFailure, secondFails⟩ := sameEnds.mp ⟨failure, firstEnds⟩
      exact .inl ⟨failure, secondFailure, rfl, secondFails⟩
  | ok summary =>
      cases secondEnds : second.ending with
      | error failure =>
          obtain ⟨_, firstFails⟩ := sameEnds.mpr ⟨failure, secondEnds⟩
          cases firstEnds.symm.trans firstFails
      | ok secondSummary =>
          obtain ⟨_, summaryEq, _, firstBlocks⟩ :=
            run_of_ok settings tree left inputs firstEnds
          obtain ⟨_, secondEq, _, secondBlocks⟩ :=
            run_of_ok settings tree right inputs secondEnds
          have orders := (settlingOrder_perm settings left
            (inputs.flatMap (lintedFiles tree))).trans
              (settlingOrder_perm settings right _).symm
          have sameSummary : summary = secondSummary := by
            rw [summaryEq, secondEq,
              settledOutcomes_of_sameReplies tree inputs same]
            exact summaryOf_perm
              (settledOutcomes_perm tree right inputs orders)
          subst sameSummary
          refine .inr ⟨summary, _, _, rfl, rfl, firstBlocks, secondBlocks, ?_⟩
          rw [reportedBlocks_of_sameReplies tree inputs same]
          exact reportedBlocks_perm tree inputs right settings.color orders

end TemplateLint.Dispatch
