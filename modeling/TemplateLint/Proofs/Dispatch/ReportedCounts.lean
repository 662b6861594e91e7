import TemplateLint.Proofs.Dispatch.RunSummary
import TemplateLint.Proofs.Report.Agreement

/-!
# What a run reports and counts

The blocks of a run without color and its summary are made of the same
outcomes, and they agree outcome by outcome.  The closing line states the
errors and the warnings that are counted.
-/

namespace TemplateLint.Dispatch

open Report

/-- The outcome is that of a failure that is passed over. -/
def isPassedOver : Outcome → Bool
  | .passedOver _ => true
  | _ => false

/-- The reply is a failure that is passed over. -/
def Reply.isSuppressed : Reply → Bool
  | .failed failure => failure.isSuppressed
  | _ => false

/-! ## Outcomes -/

theorem agrees_outcome (path : Path) (outcome : Outcome) :
    Agrees (Summary.ofOutcome outcome)
      (blockOfOutcome? false path outcome).toList
      (if isPassedOver outcome then 1 else 0) := by
  unfold blockOfOutcome?
  cases outcome with
  | missing => exact agrees_missing path.shown
  | skipped extension =>
      exact agrees_skipped defaultExtensions path.shown extension
  | clean => exact agrees_clean path.shown
  | passedOver failure => exact agrees_passedOver failure
  | linted diagnostics =>
      cases diagnostics with
      | nil => exact agrees_clean path.shown
      | cons first rest => exact agrees_linted (by simp) path.shown

theorem agrees_summaryOf (outcomes : List (Path × Outcome)) :
    Agrees (summaryOf outcomes) (blocksOf false outcomes)
      (outcomes.countP fun entry => isPassedOver entry.2) := by
  induction outcomes with
  | nil => exact agrees_nil
  | cons entry rest inductionHypothesis =>
      obtain ⟨path, outcome⟩ := entry
      have both := (agrees_outcome path outcome).append inductionHypothesis
      rw [summaryOf_cons, blocksOf_cons, List.countP_cons, Nat.add_comm]
      exact both

/-! ## Files -/

variable (tree : FileTree) (engine : Engine) (inputs : List String)

theorem isPassedOver_settledFile? (path : Path) :
    (((settledFile? engine path).map fun entry =>
        isPassedOver entry.2).getD false) =
      (engine path).reply.isSuppressed := by
  unfold settledFile?
  cases (engine path).reply with
  | diagnostics found => cases found <;> rfl
  | lost cause => rfl
  | failed failure =>
      cases suppressed : failure.isSuppressed with
      | false =>
          simp [Reply.toOutcome, suppressed, Except.toOption,
            Reply.isSuppressed]
      | true =>
          simp [Reply.toOutcome, suppressed, Except.toOption,
            Reply.isSuppressed, isPassedOver]

theorem outcomeAtOnce?_not_passedOver {input : String} {outcome : Outcome}
    (atOnce : outcomeAtOnce? tree input = some outcome) :
    isPassedOver outcome = false := by
  unfold outcomeAtOnce? at atOnce
  split at atOnce
  · cases atOnce
    rfl
  · split at atOnce
    · cases atOnce
    · cases atOnce
      rfl
  · cases atOnce

/-- Failures that are passed over are those of the files. -/
theorem countP_isPassedOver_settledOutcomes (files : List Path) :
    (settledOutcomes tree engine inputs files).countP
        (fun entry => isPassedOver entry.2) =
      files.countP fun path => (engine path).reply.isSuppressed := by
  have noneAtOnce :
      (inputs.filterMap (settledInput? tree)).countP
        (fun entry => isPassedOver entry.2) = 0 := by
    refine List.countP_eq_zero.mpr fun entry member => ?_
    obtain ⟨input, _, settled⟩ := List.mem_filterMap.mp member
    obtain ⟨outcome, atOnce, rfl⟩ := Option.map_eq_some_iff.mp settled
    simp [outcomeAtOnce?_not_passedOver tree atOnce]
  rw [settledOutcomes, List.countP_append, noneAtOnce, Nat.zero_add,
    List.countP_filterMap]
  simp only [isPassedOver_settledFile?]

/-! ## Runs -/

/-- A run without color that does not fail reports what it counts, and its
closing line states the errors and the warnings.  Every file whose failure is
passed over is counted as clean without being reported. -/
theorem run_report_agrees {jobs : Option UInt64} {tree : FileTree}
    {engine : Engine} {inputs : List String} {summary : Summary}
    (succeeds :
      (run { jobs := jobs } tree engine inputs).ending = .ok summary) :
    let result := run { jobs := jobs } tree engine inputs
    ∃ blocks,
      result.blocks = blocks ++ [summaryBlock false summary] ∧
      (∀ block ∈ blocks, ∀ other, block ≠ summaryBlock false other) ∧
      Agrees summary blocks
        (result.calls.countP fun path =>
          (engine path).reply.isSuppressed) ∧
      ∀ line ∈ summaryBlock false summary,
        statedErrors line.text = summary.errors ∧
        statedWarnings line.text = summary.warnings := by
  intro result
  let files := inputs.flatMap (lintedFiles tree)
  let order := settlingOrder { jobs := jobs } engine files
  obtain ⟨_, summaryEq, calls, blocks⟩ :=
    run_of_ok { jobs := jobs } tree engine inputs succeeds
  have agrees := agrees_summaryOf
    (settledOutcomes tree engine inputs order)
  rw [← summaryEq, blocksOf_settledOutcomes,
    countP_isPassedOver_settledOutcomes] at agrees
  have samePaths :
      order.countP (fun path => (engine path).reply.isSuppressed) =
        files.countP fun path => (engine path).reply.isSuppressed :=
    (settlingOrder_perm { jobs := jobs } engine files).countP_eq _
  refine
    ⟨reportedBlocks tree engine inputs false order, blocks, ?_, ?_, ?_⟩
  · exact fun block member =>
      reportedBlocks_ne_summaryBlock tree engine inputs member
  · rw [calls, ← samePaths]
    exact agrees
  · intro line member
    rw [List.mem_singleton.mp member]
    exact stated_summaryLine summary

/-- A file with a warning, a path that does not exist, and a file whose
failure is passed over: two headers, and a clean file that is not reported. -/
theorem run_report_agrees_unreported_file :
    let tree := (FileTree.empty.putFile "a.md" ByteArray.empty).putFile
      "b.md" ByteArray.empty
    let engine : Engine := fun path =>
      if path = "a.md" then ⟨2, .diagnostics [⟨1, 1, 1, "x", .warning⟩]⟩
      else ⟨0, .failed (.sandboxInclude "x")⟩
    let result := run { jobs := some 1 } tree engine ["a.md", "gone", "b.md"]
    let summary : Summary := ⟨1, 1, 1, 1, 1, 0⟩
    result.ending = .ok summary ∧
      ∃ blocks,
        result.blocks = blocks ++ [summaryBlock false summary] ∧
        2 = (blocks.flatMap Block.headers).length ∧
        Agrees summary blocks 1 := by
  intro tree engine result summary
  have succeeds : result.ending = .ok summary := by decide +kernel
  have unreported :
      (result.calls.countP fun path =>
        (engine path).reply.isSuppressed) = 1 := by
    decide +kernel
  obtain ⟨blocks, reported, _, agrees, _⟩ := run_report_agrees succeeds
  rw [unreported] at agrees
  exact ⟨succeeds, blocks, reported, agrees.headers_eq, agrees⟩

end TemplateLint.Dispatch
