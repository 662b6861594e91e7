import TemplateLint.Proofs.Dispatch.Occurrences
import TemplateLint.Proofs.Dispatch.VirtualTime

/-!
# How a run comes out

A run is decided by the order in which its files settle.  Either no file ends
the run, and everything is reported; or the first one that does cuts the report
short.
-/

namespace TemplateLint.Dispatch

open Report

/-- Where some file ends the run, there is a first one that does. -/
theorem exists_first_endsRun (engine : Engine) {files : List Path}
    (someEnds : ∃ path ∈ files, (engine path).reply.endsRun = true) :
    ∃ before path after,
      files = before ++ path :: after ∧
      (∀ earlier ∈ before, (engine earlier).reply.endsRun = false) ∧
      (engine path).reply.endsRun = true := by
  obtain ⟨path, found⟩ :=
    Option.isSome_iff_exists.mp (List.find?_isSome.mpr someEnds)
  obtain ⟨ends, before, after, split, continues⟩ :=
    List.find?_eq_some_iff_append.mp found
  refine ⟨before, path, after, split, ?_, ends⟩
  intro earlier member
  simpa using continues earlier member

/-- The files in the order in which they settle. -/
def settlingOrder (settings : Settings) (engine : Engine)
    (files : List Path) : List Path :=
  (courseOf settings engine files).settled

variable (settings : Settings) (tree : FileTree) (engine : Engine)
  (inputs : List String)

theorem settlingOrder_perm (files : List Path) :
    (settlingOrder settings engine files).Perm files :=
  Schedule.course_settled_perm _ (slotsFor_ne_free_zero settings.jobs) files

theorem courseOf_started (files : List Path) :
    (courseOf settings engine files).started = files :=
  Schedule.course_started _ (slotsFor_ne_free_zero settings.jobs) files

/-- The linter is called for every file, in the order of the inputs, unless a
failure breaks the run off. -/
theorem run_calls :
    (run settings tree engine inputs).calls =
      inputs.flatMap (lintedFiles tree) := by
  unfold run
  simp only [submissions_itemsOf, courseOf_started]
  split <;> rfl

/-- The outcomes of a run in which every file settles: first those that are
reported at once, then those of the files. -/
def settledOutcomes (files : List Path) : List (Path × Outcome) :=
  inputs.filterMap (settledInput? tree) ++
    files.filterMap (settledFile? engine)

/-- The blocks of some files behind those that are reported at once. -/
def reportedBlocks (color : Bool) (files : List Path) : List Block :=
  inputs.filterMap (blockAtOnce? color tree) ++
    files.filterMap (blockOfFile? engine color)

theorem blocksOf_settledOutcomes (color : Bool) (files : List Path) :
    blocksOf color (settledOutcomes tree engine inputs files) =
      reportedBlocks tree engine inputs color files := by
  rw [settledOutcomes, blocksOf_append, blocksOf_settledInputs,
    blocksOf_settledFiles, reportedBlocks]

theorem reportedBlocks_ne_summaryBlock {color : Bool}
    {files : List Path} {block : Block}
    (reported : block ∈ reportedBlocks tree engine inputs color files)
    (summary : Summary) : block ≠ summaryBlock color summary := by
  rcases List.mem_append.mp reported with atOnce | ofFile
  · obtain ⟨_, _, found⟩ := List.mem_filterMap.mp atOnce
    exact blockAtOnce?_ne_summaryBlock found summary
  · obtain ⟨_, _, found⟩ := List.mem_filterMap.mp ofFile
    exact blockOfFile?_ne_summaryBlock engine found summary

/-- If no file ends the run, every file is linted and reported, and the summary
is reported last. -/
theorem run_of_continues {order : List Path}
    (orderEq : settlingOrder settings engine
      (inputs.flatMap (lintedFiles tree)) = order)
    (continues : ∀ path ∈ inputs.flatMap (lintedFiles tree),
      (engine path).reply.endsRun = false) :
    run settings tree engine inputs =
      let summary := summaryOf (settledOutcomes tree engine inputs order)
      ⟨reportedBlocks tree engine inputs settings.color order ++
          [summaryBlock settings.color summary],
        inputs.flatMap (lintedFiles tree), .ok summary⟩ := by
  have orderContinues :
      ∀ path ∈ order, (engine path).reply.endsRun = false :=
    fun path member => continues path
      ((settlingOrder_perm settings engine _).mem_iff.mp (orderEq ▸ member))
  have collected := collect_of_continues engine orderContinues
  have blocks := blocksOf_settledOutcomes tree engine inputs
    settings.color order
  unfold settledOutcomes at blocks
  unfold settlingOrder at orderEq
  unfold run
  simp only [submissions_itemsOf, settledAtOnce_itemsOf, courseOf_started]
  rw [orderEq, collected, ← blocks]
  rfl

/-- If some file ends the run, what has settled before is reported, and its
failure is that of the run. -/
theorem run_of_endsRun {before after : List Path} {path : Path}
    {failure : RunFailure}
    (order : settlingOrder settings engine
      (inputs.flatMap (lintedFiles tree)) = before ++ path :: after)
    (continues : ∀ earlier ∈ before,
      (engine earlier).reply.endsRun = false)
    (fails : (engine path).reply.toOutcome path = .error failure) :
    (run settings tree engine inputs).blocks =
        reportedBlocks tree engine inputs settings.color before ∧
      (run settings tree engine inputs).ending = .error failure := by
  have collected := collect_append_of_error engine continues fails after
  have blocks := blocksOf_settledOutcomes tree engine inputs
    settings.color before
  unfold settledOutcomes at blocks
  unfold settlingOrder at order
  unfold run
  simp only [submissions_itemsOf, settledAtOnce_itemsOf]
  rw [order, collected, ← blocks]
  exact ⟨rfl, rfl⟩

/-- Where a file ends the run, one of them is the first that settles. -/
theorem exists_first_failure
    (someEnds : ∃ path ∈ inputs.flatMap (lintedFiles tree),
      (engine path).reply.endsRun = true) :
    ∃ before path after failure,
      settlingOrder settings engine (inputs.flatMap (lintedFiles tree)) =
        before ++ path :: after ∧
      (∀ earlier ∈ before, (engine earlier).reply.endsRun = false) ∧
      (engine path).reply.toOutcome path = .error failure := by
  obtain ⟨path, member, ends⟩ := someEnds
  have inOrder := (settlingOrder_perm settings engine _).mem_iff.mpr member
  obtain ⟨before, first, after, order, continues, firstEnds⟩ :=
    exists_first_endsRun engine ⟨path, inOrder, ends⟩
  obtain ⟨failure, fails⟩ :=
    Reply.exists_toOutcome_eq_error firstEnds first
  exact ⟨before, first, after, failure, order, continues, fails⟩

/-- A run fails exactly if the reply for some file that is linted ends it. -/
theorem run_fails_iff :
    (∃ failure, (run settings tree engine inputs).ending =
      .error failure) ↔
      ∃ path ∈ inputs.flatMap (lintedFiles tree),
        (engine path).reply.endsRun = true := by
  constructor
  · rintro ⟨failure, fails⟩
    by_contra noneEnds
    have continues : ∀ path ∈ inputs.flatMap (lintedFiles tree),
        (engine path).reply.endsRun = false := fun path member =>
      Bool.eq_false_iff.mpr fun ends => noneEnds ⟨path, member, ends⟩
    rw [run_of_continues settings tree engine inputs rfl continues] at fails
    cases fails
  · intro someEnds
    obtain ⟨before, path, after, failure, order, continues, fails⟩ :=
      exists_first_failure settings tree engine inputs someEnds
    exact
      ⟨failure,
        (run_of_endsRun settings tree engine inputs order continues
          fails).2⟩

/-- A run that does not fail has reported everything, and its summary last. -/
theorem run_of_ok {summary : Summary}
    (succeeds : (run settings tree engine inputs).ending = .ok summary) :
    let files := inputs.flatMap (lintedFiles tree)
    let order := settlingOrder settings engine files
    (∀ path ∈ files, (engine path).reply.endsRun = false) ∧
    summary = summaryOf (settledOutcomes tree engine inputs order) ∧
    (run settings tree engine inputs).calls = files ∧
    (run settings tree engine inputs).blocks =
      reportedBlocks tree engine inputs settings.color order ++
        [summaryBlock settings.color summary] := by
  intro files order
  have continues : ∀ path ∈ files, (engine path).reply.endsRun = false := by
    intro path member
    refine Bool.eq_false_iff.mpr fun ends => ?_
    obtain ⟨failure, failed⟩ :=
      (run_fails_iff settings tree engine inputs).mpr ⟨path, member, ends⟩
    cases succeeds.symm.trans failed
  have complete :=
    run_of_continues settings tree engine inputs rfl continues
  have summaryEq :
      summary = summaryOf (settledOutcomes tree engine inputs order) :=
    Except.ok.inj (succeeds.symm.trans (congrArg RunResult.ending complete))
  refine ⟨continues, summaryEq, congrArg RunResult.calls complete, ?_⟩
  rw [summaryEq]
  exact congrArg RunResult.blocks complete

end TemplateLint.Dispatch
