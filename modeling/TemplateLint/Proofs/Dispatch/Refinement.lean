import Mathlib.Data.List.Perm.Basic
import TemplateLint.Proofs.Dispatch.RunSummary

/-!
# Runs and linting in turn

Linting the files in turn, one after another and in the order of the inputs,
is what a run stands for.  A run has many files in flight and takes their
outcomes as they come, but it fails exactly if some file makes it fail, and
otherwise it lints the same files, reports the same blocks up to their order
and has the same summary.
-/

namespace TemplateLint.Dispatch

open Report

/-! ## Linting in turn -/

/-- Lint files one after another, up to the first failure. -/
def lintInTurn (engine : Engine) :
    List Path → Except RunFailure (List (Path × Outcome))
  | [] => .ok []
  | path :: rest => do
      let outcome ← (engine path).reply.toOutcome path
      let outcomes ← lintInTurn engine rest
      return (path, outcome) :: outcomes

/-- The outcomes of an input, with all files of a directory linted in turn. -/
def outcomesOfInput (tree : FileTree) (engine : Engine) (input : String) :
    Except RunFailure (List (Path × Outcome)) :=
  match tree.resolve defaultExtensions input with
  | .missing => .ok [(input, .missing)]
  | .file =>
      if extensionOf input ∈ defaultExtensions then
        lintInTurn engine [input]
      else .ok [(input, .skipped (extensionOf input))]
  | .directory paths => lintInTurn engine paths

/-- The outcomes of all inputs, taken one after another. -/
def outcomesInTurn (tree : FileTree) (engine : Engine) :
    List String → Except RunFailure (List (Path × Outcome))
  | [] => .ok []
  | input :: rest => do
      let outcomes ← outcomesOfInput tree engine input
      let others ← outcomesInTurn tree engine rest
      return outcomes ++ others

variable (tree : FileTree) (engine : Engine)

theorem lintInTurn_of_continues {files : List Path}
    (continues : ∀ path ∈ files, (engine path).reply.endsRun = false) :
    lintInTurn engine files =
      .ok (files.filterMap (settledFile? engine)) := by
  induction files with
  | nil => rfl
  | cons path rest inductionHypothesis =>
      have later := inductionHypothesis fun other member =>
        continues other (List.mem_cons_of_mem path member)
      obtain ⟨outcome, settles⟩ :=
        Reply.exists_toOutcome_eq_ok (continues path List.mem_cons_self) path
      have settled := (settledFile?_eq_some_iff engine path path outcome).mpr
        ⟨rfl, settles⟩
      rw [lintInTurn, settles, later, List.filterMap_cons_some settled]
      rfl

theorem outcomesOfInput_of_continues {input : String}
    (continues : ∀ path ∈ lintedFiles tree input,
      (engine path).reply.endsRun = false) :
    outcomesOfInput tree engine input =
      .ok ((settledInput? tree input).toList ++
        (lintedFiles tree input).filterMap (settledFile? engine)) := by
  have inTurn := lintInTurn_of_continues engine continues
  unfold lintedFiles at inTurn
  unfold outcomesOfInput settledInput? outcomeAtOnce? lintedFiles
  cases resolved : tree.resolve defaultExtensions input with
  | missing => rfl
  | directory paths =>
      simp only [resolved] at inTurn ⊢
      rw [inTurn]
      rfl
  | file =>
      by_cases linted : extensionOf input ∈ defaultExtensions
      · simp only [resolved, linted, if_true] at inTurn ⊢
        rw [inTurn]
        rfl
      · simp [linted]

/-- Taken in turn, the inputs have the outcomes of a run, in another order. -/
theorem exists_outcomesInTurn {inputs : List String}
    (continues : ∀ path ∈ inputs.flatMap (lintedFiles tree),
      (engine path).reply.endsRun = false) :
    ∃ outcomes,
      outcomesInTurn tree engine inputs = .ok outcomes ∧
      outcomes.Perm (settledOutcomes tree engine inputs
        (inputs.flatMap (lintedFiles tree))) := by
  let atOnce := fun input => (settledInput? tree input).toList
  let ofFiles := fun input =>
    (lintedFiles tree input).filterMap (settledFile? engine)
  have inTurn : outcomesInTurn tree engine inputs =
      .ok (inputs.flatMap fun input => atOnce input ++ ofFiles input) := by
    induction inputs with
    | nil => rfl
    | cons input rest inductionHypothesis =>
        rw [List.flatMap_cons, List.forall_mem_append] at continues
        rw [outcomesInTurn, inductionHypothesis continues.2,
          outcomesOfInput_of_continues tree engine continues.1]
        rfl
  refine ⟨_, inTurn, ?_⟩
  rw [settledOutcomes, List.filterMap_eq_flatMap_toList,
    List.filterMap_flatMap]
  exact (List.flatMap_append_perm inputs atOnce ofFiles).symm

/-! ## Runs -/

/-- Whatever the number of jobs and the delays are, a run fails exactly if the
reply for some file ends it.  Otherwise it lints every file in the order of
the inputs, reports everything once and the summary last, and its summary is
that of linting in turn. -/
theorem run_refines_inTurn (settings : Settings) (tree : FileTree)
    (engine : Engine) (inputs : List String) :
    let result := run settings tree engine inputs
    let files := inputs.flatMap (lintedFiles tree)
    ((∃ failure, result.ending = .error failure) ↔
      ∃ path ∈ files, (engine path).reply.endsRun = true) ∧
    ∀ summary, result.ending = .ok summary →
      result.calls = files ∧
      (∃ fileBlocks,
        fileBlocks.Perm
          (files.filterMap (blockOfFile? engine settings.color)) ∧
        result.blocks =
          inputs.filterMap (blockAtOnce? settings.color tree) ++
            fileBlocks ++ [summaryBlock settings.color summary] ∧
        ∀ block ∈
            inputs.filterMap (blockAtOnce? settings.color tree) ++
              fileBlocks,
          ∀ other, block ≠ summaryBlock settings.color other) ∧
      ∃ outcomes,
        outcomesInTurn tree engine inputs = .ok outcomes ∧
        summary = summaryOf outcomes := by
  intro result files
  have fails := run_fails_iff settings tree engine inputs
  refine ⟨fails, ?_⟩
  intro summary succeeds
  have continues : ∀ path ∈ files, (engine path).reply.endsRun = false := by
    intro path member
    refine Bool.eq_false_iff.mpr fun ends => ?_
    obtain ⟨failure, failed⟩ := fails.mpr ⟨path, member, ends⟩
    cases succeeds.symm.trans failed
  have order := settlingOrder_perm settings engine files
  have complete :=
    run_of_continues settings tree engine inputs rfl continues
  have summaryEq :
      summary = summaryOf (settledOutcomes tree engine inputs
        (settlingOrder settings engine files)) :=
    Except.ok.inj (succeeds.symm.trans (congrArg RunResult.ending complete))
  refine ⟨congrArg RunResult.calls complete, ?_, ?_⟩
  · refine
      ⟨_, order.filterMap (blockOfFile? engine settings.color), ?_,
        fun block member => reportedBlocks_ne_summaryBlock tree engine
          inputs member⟩
    rw [summaryEq]
    exact congrArg RunResult.blocks complete
  · obtain ⟨outcomes, inTurn, permutation⟩ :=
      exists_outcomesInTurn tree engine continues
    refine ⟨outcomes, inTurn, ?_⟩
    rw [summaryEq, summaryOf_perm permutation]
    exact summaryOf_perm (settledOutcomes_perm tree engine inputs order)

/-- A file that is given twice is linted twice, with a missing path between
the two and a single job. -/
theorem run_refines_inTurn_given_twice :
    let tree := FileTree.empty.putFile "a.md" ByteArray.empty
    let engine : Engine := fun _ => ⟨5, .diagnostics []⟩
    let result :=
      run { jobs := some 1 } tree engine ["a.md", "gone", "a.md"]
    ∃ summary, result.ending = .ok summary ∧
      result.calls = ["a.md", "a.md"] := by
  intro tree engine result
  have refines := run_refines_inTurn { jobs := some 1 } tree engine
    ["a.md", "gone", "a.md"]
  cases ending : result.ending with
  | error failure =>
      obtain ⟨path, _, ends⟩ := refines.1.mp ⟨failure, ending⟩
      cases ends
  | ok summary =>
      have files :
          ["a.md", "gone", "a.md"].flatMap (lintedFiles tree) =
            ["a.md", "a.md"] := by
        decide +kernel
      exact ⟨summary, rfl, (refines.2 summary ending).1.trans files⟩

end TemplateLint.Dispatch
