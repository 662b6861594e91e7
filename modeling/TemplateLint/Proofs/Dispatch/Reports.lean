import TemplateLint.Proofs.Dispatch.RunOutcome

/-!
# Reports and their paths

A run reports blocks, each of them about one path.  A run that comes to its
end reports its summary after all of them; a file for which the linter failed
is not reported at all.
-/

namespace TemplateLint.Dispatch

open Report

/-! ## Blocks and their paths -/

/-- The blocks of outcomes, each with the path that it is about. -/
def attributedBlocks (color : Bool) (outcomes : List (Path × Outcome)) :
    List (Path × Block) :=
  outcomes.filterMap fun (path, outcome) =>
    (blockOfOutcome? color path outcome).map (fun block => (path, block))

theorem map_snd_attributedBlocks (color : Bool)
    (outcomes : List (Path × Outcome)) :
    (attributedBlocks color outcomes).map Prod.snd =
      blocksOf color outcomes := by
  rw [blocksOf_eq_filterMap, attributedBlocks, List.map_filterMap]
  refine List.filterMap_congr fun ⟨path, outcome⟩ _ => ?_
  cases reported : blockOfOutcome? color path outcome <;> simp [reported]

/-- The blocks of some paths are those of their outcomes. -/
theorem filter_attributedBlocks (color : Bool) (test : Path → Bool)
    (outcomes : List (Path × Outcome)) :
    (attributedBlocks color outcomes).filter (fun report => test report.1) =
      attributedBlocks color
        (outcomes.filter fun entry => test entry.1) := by
  rw [attributedBlocks, attributedBlocks, List.filter_filterMap,
    List.filterMap_filter]
  refine List.filterMap_congr fun ⟨path, outcome⟩ _ => ?_
  cases reported : blockOfOutcome? color path outcome with
  | none => simp [reported]
  | some block =>
      cases tested : test path <;> simp [reported, Option.filter, tested]

/-! ## What a run reports -/

/-- The outcomes of a run, in the order in which they settle. -/
def outcomesOfRun (settings : Settings) (tree : FileTree) (engine : Engine)
    (inputs : List String) : List (Path × Outcome) :=
  let items := itemsOf tree defaultExtensions inputs
  settledAtOnce items ++
    (collect engine
      (courseOf settings engine (submissions items)).settled).1

/-- What a run reports before its summary, each block with its path. -/
def reportsOfRun (settings : Settings) (tree : FileTree) (engine : Engine)
    (inputs : List String) : List (Path × Block) :=
  attributedBlocks settings.color (outcomesOfRun settings tree engine inputs)

/-- A run comes to its end: its reports are followed by its summary. -/
structure CompletesWith (settings : Settings) (tree : FileTree)
    (engine : Engine) (inputs : List String) (summary : Summary) :
    Prop where
  ending_eq : (run settings tree engine inputs).ending = .ok summary
  blocks_eq :
    (run settings tree engine inputs).blocks =
      (reportsOfRun settings tree engine inputs).map Prod.snd ++
        [summaryBlock settings.color summary]

section Run

variable (settings : Settings) (tree : FileTree) (engine : Engine)
  (inputs : List String)

theorem outcomesOfRun_of_continues
    (continues : ∀ path ∈ inputs.flatMap (lintedFiles tree),
      (engine path).reply.endsRun = false) :
    outcomesOfRun settings tree engine inputs =
      settledOutcomes tree engine inputs
        (settlingOrder settings engine
          (inputs.flatMap (lintedFiles tree))) := by
  let files := inputs.flatMap (lintedFiles tree)
  have orderContinues : ∀ path ∈ settlingOrder settings engine files,
      (engine path).reply.endsRun = false := fun path member =>
    continues path ((settlingOrder_perm settings engine files).mem_iff.mp
      member)
  unfold outcomesOfRun settledOutcomes
  simp only [submissions_itemsOf, settledAtOnce_itemsOf]
  rw [← settlingOrder, collect_of_continues engine orderContinues]

theorem completesWith_of_continues
    (continues : ∀ path ∈ inputs.flatMap (lintedFiles tree),
      (engine path).reply.endsRun = false) :
    CompletesWith settings tree engine inputs
      (summaryOf (outcomesOfRun settings tree engine inputs)) := by
  have complete :=
    run_of_continues settings tree engine inputs rfl continues
  have outcomes :=
    outcomesOfRun_of_continues settings tree engine inputs continues
  constructor
  · rw [complete, outcomes]
  · rw [complete, reportsOfRun, map_snd_attributedBlocks, outcomes,
      blocksOf_settledOutcomes]

end Run

/-! ## Reports about linted files -/

/-- A file that is linted is not reported at once where it is an input. -/
theorem outcomeAtOnce?_of_linted {tree : FileTree} {input other : String}
    (linted : Path.ofText other ∈ lintedFiles tree input) :
    outcomeAtOnce? tree other = none := by
  unfold lintedFiles at linted
  cases resolved : tree.resolve defaultExtensions input with
  | missing => simp [resolved] at linted
  | directory paths =>
      rw [resolved] at linted
      have extension :=
        FileTree.extensionOf_mem_of_mem_directory resolved linted
      have isFile :=
        FileTree.resolve_eq_file_of_mem_directory resolved linted
      rw [Path.shown_ofText] at extension
      simp [outcomeAtOnce?, isFile, extension]
  | file =>
      simp only [resolved, List.mem_ite_nil_right,
        List.mem_singleton] at linted
      obtain ⟨extension, same⟩ := linted
      cases Path.ofText_injective same
      simp [outcomeAtOnce?, resolved, extension]

section Linted

variable {settings : Settings} {tree : FileTree} {engine : Engine}
  {inputs : List String} {path : Path}

theorem toOutcome_of_mem_collect {order : List Path} {outcome : Outcome}
    (collected : (path, outcome) ∈ (collect engine order).1) :
    (engine path).reply.toOutcome path = .ok outcome := by
  induction order with
  | nil => cases collected
  | cons head rest inductionHypothesis =>
      rw [collect] at collected
      cases settles : (engine head).reply.toOutcome head with
      | error failure =>
          rw [settles] at collected
          cases collected
      | ok found =>
          rw [settles] at collected
          rcases List.mem_cons.mp collected with first | later
          · cases first
            exact settles
          · exact inductionHypothesis later

/-- Whatever is reported about a file that is linted is what its reply came
to. -/
theorem exists_outcome_of_mem_reports {block : Block}
    (linted : path ∈ inputs.flatMap (lintedFiles tree))
    (reported : (path, block) ∈ reportsOfRun settings tree engine inputs) :
    ∃ outcome,
      (engine path).reply.toOutcome path = .ok outcome ∧
      blockOfOutcome? settings.color path outcome = some block := by
  obtain ⟨⟨file, outcome⟩, settled, blockEq⟩ :=
    List.mem_filterMap.mp reported
  obtain ⟨_, found, same⟩ := Option.map_eq_some_iff.mp blockEq
  cases same
  refine ⟨outcome, ?_, found⟩
  rcases List.mem_append.mp settled with atOnce | collected
  · rw [settledAtOnce_itemsOf] at atOnce
    obtain ⟨input, _, ofInput⟩ := List.mem_filterMap.mp atOnce
    obtain ⟨_, isSettled, same⟩ := Option.map_eq_some_iff.mp ofInput
    cases same
    obtain ⟨_, _, member⟩ := List.mem_flatMap.mp linted
    rw [outcomeAtOnce?_of_linted member] at isSettled
    cases isSettled
  · exact toOutcome_of_mem_collect collected

theorem passedOver_of_failed {failure : LintFailure} {outcome : Outcome}
    (fails : (engine path).reply = .failed failure)
    (settles : (engine path).reply.toOutcome path = .ok outcome) :
    outcome = .passedOver failure := by
  rw [fails, Reply.toOutcome_eq_ok_iff] at settles
  rcases settles with ⟨_, isDiagnostics, _⟩ | ⟨_, isFailure, _, same⟩
  · cases isDiagnostics
  · cases isFailure
    exact same

/-- A file for which the linter failed is not reported, whether its failure is
passed over or ends the run. -/
theorem not_reported_of_failed {failure : LintFailure}
    (linted : path ∈ inputs.flatMap (lintedFiles tree))
    (fails : (engine path).reply = .failed failure) (block : Block) :
    (path, block) ∉ reportsOfRun settings tree engine inputs := by
  intro reported
  obtain ⟨outcome, settles, found⟩ :=
    exists_outcome_of_mem_reports linted reported
  rw [passedOver_of_failed fails settles] at found
  cases found

theorem filter_reportsOfRun_of_failed {failure : LintFailure}
    (linted : path ∈ inputs.flatMap (lintedFiles tree))
    (fails : (engine path).reply = .failed failure) :
    (reportsOfRun settings tree engine inputs).filter
        (fun report => report.1 ≠ path) =
      reportsOfRun settings tree engine inputs := by
  refine List.filter_eq_self.mpr fun report reported => ?_
  refine decide_eq_true fun isPath => ?_
  rw [← isPath] at linted fails
  exact not_reported_of_failed linted fails report.2 reported

end Linted

end TemplateLint.Dispatch
