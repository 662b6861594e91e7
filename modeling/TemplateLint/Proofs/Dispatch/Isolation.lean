import TemplateLint.Proofs.Dispatch.Reports
import TemplateLint.Proofs.Dispatch.RunSummary

/-!
# What the reply for one path can change

Two runs in which the linter replies differently for one path, after the same
delay, lint the same files in the same order.  All that differs is what is
reported about that path, and what it adds to the summary.
-/

namespace TemplateLint.Dispatch

open Report

/-! ## One path -/

/-- The files in any order: the other ones, and one path as often as it
occurs. -/
theorem filter_append_replicate_perm (files : List Path)
    (path : Path) :
    (files.filter (fun file => file ≠ path) ++
      List.replicate (files.count path) path).Perm files := by
  rw [← List.filter_beq]
  have complementary : (fun file : Path => file == path) =
      fun file => !decide (file ≠ path) := by
    funext file
    rw [Bool.eq_iff_iff]
    simp
  rw [complementary]
  exact List.filter_append_perm _ files

section OnePath

variable (tree : FileTree) (engine : Engine) (inputs : List String)

/-- One path adds its outcome to the summary as often as it is linted. -/
theorem summaryOf_settledOutcomes_apart {path : Path} {outcome : Outcome}
    (settles : (engine path).reply.toOutcome path = .ok outcome)
    {order files : List Path} (permutation : order.Perm files) :
    summaryOf (settledOutcomes tree engine inputs order) =
      (summaryOf (settledOutcomes tree engine inputs
          (files.filter fun file => file ≠ path))).merge
        (Summary.mergeAll
          (List.replicate (files.count path)
            (Summary.ofOutcome outcome))) := by
  have apart := permutation.trans
    (filter_append_replicate_perm files path).symm
  have settled := (settledFile?_eq_some_iff engine path path outcome).mpr
    ⟨rfl, settles⟩
  rw [summaryOf_perm (settledOutcomes_perm tree engine inputs apart)]
  unfold settledOutcomes
  rw [List.filterMap_append, ← List.append_assoc, summaryOf_append,
    List.filterMap_replicate_of_some settled]
  simp [summaryOf]

variable {left right : Engine} {path : Path}

theorem settlingOrder_of_sameDelay (settings : Settings)
    (sameDelay : ∀ other, (left other).delay = (right other).delay)
    (files : List Path) :
    settlingOrder settings left files =
      settlingOrder settings right files := by
  unfold settlingOrder courseOf
  rw [funext sameDelay]

/-- Without one path the outcomes are the same wherever the replies for the
other ones are. -/
theorem filter_settledOutcomes_congr
    (elsewhere : ∀ other, other ≠ path → left other = right other)
    (order : List Path) :
    (settledOutcomes tree left inputs order).filter
        (fun entry => entry.1 ≠ path) =
      (settledOutcomes tree right inputs order).filter
        (fun entry => entry.1 ≠ path) := by
  unfold settledOutcomes
  rw [List.filter_append, List.filter_append]
  congr 1
  rw [List.filter_filterMap, List.filter_filterMap]
  refine List.filterMap_congr fun file _ => ?_
  by_cases same : file = path
  · subst same
    unfold settledFile?
    cases (left file).reply.toOutcome file <;>
      cases (right file).reply.toOutcome file <;>
      simp [Except.toOption, Option.filter]
  · unfold settledFile?
    rw [elsewhere file same]

theorem settledOutcomes_congr {files : List Path}
    (same : ∀ file ∈ files, left file = right file) :
    settledOutcomes tree left inputs files =
      settledOutcomes tree right inputs files := by
  unfold settledOutcomes
  congr 1
  refine List.filterMap_congr fun file member => ?_
  unfold settledFile?
  rw [same file member]

/-- A failure that is passed over adds neither errors nor warnings, however
often it is counted. -/
theorem merge_passedOver (others : Summary) (failure : LintFailure)
    (occurrences : Nat) :
    let all := others.merge (Summary.mergeAll
      (List.replicate occurrences
        (Summary.ofOutcome (.passedOver failure))))
    all.errors = others.errors ∧ all.warnings = others.warnings := by
  have nothing (count : Summary → Nat)
      (count_empty : count Summary.empty = 0)
      (count_merge : ∀ left right : Summary,
        count (left.merge right) = count left + count right)
      (uncounted : count (Summary.ofOutcome (.passedOver failure)) = 0) :
      count (Summary.mergeAll (List.replicate occurrences
        (Summary.ofOutcome (.passedOver failure)))) = 0 := by
    refine Nat.eq_zero_of_not_pos fun positive => ?_
    obtain ⟨part, member, partPositive⟩ :=
      (Summary.count_mergeAll_pos_iff count count_empty count_merge _).mp
        positive
    rw [List.eq_of_mem_replicate member, uncounted] at partPositive
    exact Nat.lt_irrefl 0 partPositive
  constructor
  · simp only [Summary.merge,
      nothing Summary.errors rfl (fun _ _ => rfl) rfl, Nat.add_zero]
  · simp only [Summary.merge,
      nothing Summary.warnings rfl (fun _ _ => rfl) rfl, Nat.add_zero]

end OnePath

/-! ## Two runs -/

/-- Where the reply for one path and those for the others do not end the run,
none does. -/
theorem continues_of_others {engine : Engine} {path : Path}
    {files : List Path}
    (continues : (engine path).reply.endsRun = false)
    (others : ∀ other ∈ files, other ≠ path →
      (engine other).reply.endsRun = false) :
    ∀ file ∈ files, (engine file).reply.endsRun = false := by
  intro file member
  by_cases same : file = path
  · rw [same]
    exact continues
  · exact others file member same

section TwoRuns

variable (settings : Settings) (tree : FileTree) (inputs : List String)
  {left right : Engine} {path : Path}

/-- The outcomes of both runs stand in the same order. -/
theorem exists_outcomesOfRun
    (elsewhere : ∀ other, other ≠ path → left other = right other)
    (sameDelay : (left path).delay = (right path).delay)
    (leftContinues : ∀ file ∈ inputs.flatMap (lintedFiles tree),
      (left file).reply.endsRun = false)
    (rightContinues : ∀ file ∈ inputs.flatMap (lintedFiles tree),
      (right file).reply.endsRun = false) :
    ∃ order, order.Perm (inputs.flatMap (lintedFiles tree)) ∧
      outcomesOfRun settings tree left inputs =
        settledOutcomes tree left inputs order ∧
      outcomesOfRun settings tree right inputs =
        settledOutcomes tree right inputs order := by
  have delays : ∀ other, (left other).delay = (right other).delay := by
    intro other
    by_cases same : other = path
    · rw [same]
      exact sameDelay
    · rw [elsewhere other same]
  refine ⟨_, settlingOrder_perm settings left _,
    outcomesOfRun_of_continues settings tree left inputs leftContinues, ?_⟩
  rw [settlingOrder_of_sameDelay settings delays]
  exact outcomesOfRun_of_continues settings tree right inputs rightContinues

theorem filter_reportsOfRun_congr
    (elsewhere : ∀ other, other ≠ path → left other = right other)
    {order : List Path}
    (leftOutcomes : outcomesOfRun settings tree left inputs =
      settledOutcomes tree left inputs order)
    (rightOutcomes : outcomesOfRun settings tree right inputs =
      settledOutcomes tree right inputs order) :
    (reportsOfRun settings tree left inputs).filter
        (fun report => report.1 ≠ path) =
      (reportsOfRun settings tree right inputs).filter
        (fun report => report.1 ≠ path) := by
  unfold reportsOfRun
  rw [filter_attributedBlocks _ (fun other => other ≠ path),
    filter_attributedBlocks _ (fun other => other ≠ path), leftOutcomes,
    rightOutcomes, filter_settledOutcomes_congr tree inputs elsewhere]

end TwoRuns

/-- A reply that does not end the run reaches nothing but its own path.  Both
runs come to their end after the same calls, the reports on all other paths
are the same and in the same order, and the summaries differ by the outcome of
the path, counted once for each time that it is linted.  A failure that is
passed over is not reported, and no error or warning is counted for it. -/
theorem run_isolated (settings : Settings) (tree : FileTree)
    (inputs : List String) {left right : Engine} {path : Path}
    (elsewhere : ∀ other, other ≠ path → left other = right other)
    (sameDelay : (left path).delay = (right path).delay)
    (leftContinues : (left path).reply.endsRun = false)
    (rightContinues : (right path).reply.endsRun = false)
    (othersContinue : ∀ other ∈ inputs.flatMap (lintedFiles tree),
      other ≠ path → (left other).reply.endsRun = false) :
    let files := inputs.flatMap (lintedFiles tree)
    let others := summaryOf (settledOutcomes tree left inputs
      (files.filter fun file => file ≠ path))
    ∃ leftOutcome rightOutcome leftSummary rightSummary,
      (left path).reply.toOutcome path = .ok leftOutcome ∧
      (right path).reply.toOutcome path = .ok rightOutcome ∧
      CompletesWith settings tree left inputs leftSummary ∧
      CompletesWith settings tree right inputs rightSummary ∧
      (run settings tree left inputs).calls = files ∧
      (run settings tree right inputs).calls = files ∧
      (reportsOfRun settings tree left inputs).filter
          (fun report => report.1 ≠ path) =
        (reportsOfRun settings tree right inputs).filter
          (fun report => report.1 ≠ path) ∧
      leftSummary = others.merge (Summary.mergeAll
        (List.replicate (files.count path)
          (Summary.ofOutcome leftOutcome))) ∧
      rightSummary = others.merge (Summary.mergeAll
        (List.replicate (files.count path)
          (Summary.ofOutcome rightOutcome))) ∧
      ∀ failure, (right path).reply = .failed failure →
        rightSummary.errors = others.errors ∧
        rightSummary.warnings = others.warnings ∧
        (path ∈ files →
          reportsOfRun settings tree right inputs =
            (reportsOfRun settings tree left inputs).filter
              (fun report => report.1 ≠ path)) := by
  intro files others
  have leftAll := continues_of_others leftContinues othersContinue
  have rightAll := continues_of_others rightContinues
    fun other member different =>
      elsewhere other different ▸ othersContinue other member different
  obtain ⟨order, permutation, leftOutcomes, rightOutcomes⟩ :=
    exists_outcomesOfRun settings tree inputs elsewhere sameDelay leftAll
      rightAll
  have sameOthers := filter_reportsOfRun_congr settings tree inputs elsewhere
    leftOutcomes rightOutcomes
  obtain ⟨leftOutcome, leftSettles⟩ :=
    Reply.exists_toOutcome_eq_ok leftContinues path
  obtain ⟨rightOutcome, rightSettles⟩ :=
    Reply.exists_toOutcome_eq_ok rightContinues path
  have sameRest :
      settledOutcomes tree right inputs
          (files.filter fun file => file ≠ path) =
        settledOutcomes tree left inputs
          (files.filter fun file => file ≠ path) :=
    settledOutcomes_congr tree inputs fun file member =>
      (elsewhere file (of_decide_eq_true (List.mem_filter.mp member).2)).symm
  have leftSummary :=
    summaryOf_settledOutcomes_apart tree left inputs leftSettles permutation
  have rightSummary :=
    summaryOf_settledOutcomes_apart tree right inputs rightSettles
      permutation
  rw [← leftOutcomes] at leftSummary
  rw [← rightOutcomes, sameRest] at rightSummary
  refine
    ⟨leftOutcome, rightOutcome, _, _, leftSettles, rightSettles,
      completesWith_of_continues settings tree left inputs leftAll,
      completesWith_of_continues settings tree right inputs rightAll,
      congrArg RunResult.calls
        (run_of_continues settings tree left inputs rfl leftAll),
      congrArg RunResult.calls
        (run_of_continues settings tree right inputs rfl rightAll),
      sameOthers, leftSummary, rightSummary, ?_⟩
  intro failure fails
  obtain ⟨errors, warnings⟩ :=
    merge_passedOver others failure (files.count path)
  rw [rightSummary, passedOver_of_failed fails rightSettles]
  refine ⟨errors, warnings, fun linted => ?_⟩
  rw [sameOthers, filter_reportsOfRun_of_failed linted fails]

/-- Two jobs, a path that is given twice, and a slower file between the two:
what was an error of the linter's is passed over in the other run. -/
theorem run_isolated_given_twice :
    let tree := (FileTree.empty.putFile "a.md" ByteArray.empty).putFile
      "b.md" ByteArray.empty
    let found : List Diagnostic := [⟨1, 1, 1, "x", .error⟩]
    let left : Engine := fun path =>
      if path = "a.md" then ⟨2, .diagnostics found⟩
      else ⟨3, .diagnostics found⟩
    let right : Engine := fun path =>
      if path = "a.md" then ⟨2, .failed (.sandboxInclude "x")⟩
      else ⟨3, .diagnostics found⟩
    let inputs := ["a.md", "b.md", "a.md"]
    ∃ leftSummary rightSummary : Summary,
      CompletesWith { jobs := some 2 } tree left inputs leftSummary ∧
      CompletesWith { jobs := some 2 } tree right inputs rightSummary ∧
      leftSummary.errors = 3 ∧ rightSummary.errors = 1 ∧
      reportsOfRun { jobs := some 2 } tree right inputs =
        (reportsOfRun { jobs := some 2 } tree left inputs).filter
          (fun report => report.1 ≠ Path.ofText "a.md") := by
  intro tree found left right inputs
  have elsewhere : ∀ other : Path, other ≠ "a.md" → left other = right other := by
    intro other different
    simp [left, right, different]
  have othersContinue : ∀ other ∈ inputs.flatMap (lintedFiles tree),
      other ≠ Path.ofText "a.md" → (left other).reply.endsRun = false := by
    intro other _ different
    simp [left, different, Reply.endsRun]
  have linted : Path.ofText "a.md" ∈ inputs.flatMap (lintedFiles tree) := by
    decide +kernel
  obtain ⟨leftOutcome, rightOutcome, leftSummary, rightSummary,
    leftSettles, rightSettles, leftCompletes, rightCompletes, _, _, _,
    leftEq, rightEq, passedOver⟩ :=
      run_isolated { jobs := some 2 } tree inputs elsewhere rfl rfl rfl
        othersContinue
  obtain ⟨errors, _, unreported⟩ := passedOver _ rfl
  have leftOutcomeEq : leftOutcome = .linted found :=
    (Except.ok.inj leftSettles).symm
  refine
    ⟨leftSummary, rightSummary, leftCompletes, rightCompletes, ?_, ?_,
      unreported linted⟩
  · rw [leftEq, leftOutcomeEq]
    decide +kernel
  · rw [errors]
    decide +kernel

end TemplateLint.Dispatch
