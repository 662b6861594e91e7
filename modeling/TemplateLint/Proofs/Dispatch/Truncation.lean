import TemplateLint.Proofs.Dispatch.RunOutcome

/-!
# Failed runs

A run that fails is the beginning of a run that does not.  If every reply that
ends the run were that of a clean file instead, with the same delay, then the
run would have a summary, and what was reported before the failure would be
reported first and in the same order.
-/

namespace TemplateLint.Dispatch

open Report

/-- The replies with every one that ends the run replaced by that for a clean
file. -/
def repaired (engine : Engine) : Engine := fun path =>
  if (engine path).reply.endsRun then
    { engine path with reply := .diagnostics [] }
  else engine path

variable (settings : Settings) (tree : FileTree) (engine : Engine)
  (inputs : List String)

@[simp]
theorem repaired_delay (path : Path) :
    (repaired engine path).delay = (engine path).delay := by
  unfold repaired
  split <;> rfl

theorem repaired_endsRun (path : Path) :
    (repaired engine path).reply.endsRun = false := by
  unfold repaired
  split
  · rfl
  · next continues => exact Bool.eq_false_iff.mpr continues

theorem repaired_of_continues {path : Path}
    (continues : (engine path).reply.endsRun = false) :
    repaired engine path = engine path := by
  simp [repaired, continues]

/-- Delays alone decide the order in which files settle. -/
theorem settlingOrder_repaired (files : List Path) :
    settlingOrder settings (repaired engine) files =
      settlingOrder settings engine files := by
  simp [settlingOrder, courseOf]

/-- Files that do not end the run are reported alike. -/
theorem reportedBlocks_repaired (color : Bool) {files : List Path}
    (continues : ∀ path ∈ files, (engine path).reply.endsRun = false) :
    reportedBlocks tree (repaired engine) inputs color files =
      reportedBlocks tree engine inputs color files := by
  unfold reportedBlocks
  congr 1
  refine List.filterMap_congr fun path member => ?_
  unfold blockOfFile?
  rw [repaired_of_continues engine (continues path member)]

theorem blockOfFile?_repaired_of_endsRun (color : Bool) {path : Path}
    (ends : (engine path).reply.endsRun = true) :
    blockOfFile? (repaired engine) color path =
      some (cleanBlock color path.shown) := by
  simp [blockOfFile?, repaired, ends, diagnosticsBlock]

/-- The repaired run has a block for the first file that ended the run, right
behind what was reported before. -/
theorem exists_run_repaired {before after : List Path} {path : Path}
    (order : settlingOrder settings engine
      (inputs.flatMap (lintedFiles tree)) = before ++ path :: after)
    (continues : ∀ earlier ∈ before,
      (engine earlier).reply.endsRun = false)
    (ends : (engine path).reply.endsRun = true) :
    let complete := run settings tree (repaired engine) inputs
    ∃ summary,
      complete.ending = .ok summary ∧
      complete.blocks =
        reportedBlocks tree engine inputs settings.color before ++
          cleanBlock settings.color path.shown ::
            (after.filterMap
                (blockOfFile? (repaired engine) settings.color) ++
              [summaryBlock settings.color summary]) := by
  have repairedOrder :
      settlingOrder settings (repaired engine)
          (inputs.flatMap (lintedFiles tree)) =
        before ++ path :: after := by
    rw [settlingOrder_repaired]
    exact order
  have completed := run_of_continues settings tree (repaired engine)
    inputs repairedOrder fun other _ => repaired_endsRun engine other
  have blocks :
      reportedBlocks tree (repaired engine) inputs settings.color
          (before ++ path :: after) =
        reportedBlocks tree engine inputs settings.color before ++
          cleanBlock settings.color path.shown ::
            after.filterMap
              (blockOfFile? (repaired engine) settings.color) := by
    have sameBefore := reportedBlocks_repaired tree engine inputs
      settings.color continues
    rw [← sameBefore]
    simp [reportedBlocks,
      blockOfFile?_repaired_of_endsRun engine settings.color ends]
  refine ⟨_, congrArg RunResult.ending completed, ?_⟩
  refine (congrArg RunResult.blocks completed).trans ?_
  rw [blocks]
  exact List.append_assoc _ _ _

/-- A run that fails with some file reports what the repaired run reports
before that file.  The file is the first one to settle of those that end the
run, no summary is reported, and the failure is that of the file. -/
theorem failed_run_is_beginning {failure : RunFailure}
    (fails : (run settings tree engine inputs).ending = .error failure) :
    let files := inputs.flatMap (lintedFiles tree)
    let failed := run settings tree engine inputs
    let complete := run settings tree (repaired engine) inputs
    ∃ before path after summary,
      (courseOf settings (repaired engine) files).settled =
        before ++ path :: after ∧
      (courseOf settings engine files).settled = before ++ path :: after ∧
      (∀ earlier ∈ before, (engine earlier).reply.endsRun = false) ∧
      ((∃ cause, (engine path).reply = .failed cause ∧
          cause.isSuppressed = false ∧
          failure = .dispatch path cause) ∨
        ∃ cause, (engine path).reply = .lost cause ∧
          failure = .taskLost cause) ∧
      failed.blocks =
        reportedBlocks tree engine inputs settings.color before ∧
      (∀ block ∈ failed.blocks, ∀ other,
        block ≠ summaryBlock settings.color other) ∧
      complete.ending = .ok summary ∧
      complete.blocks =
        failed.blocks ++ cleanBlock settings.color path.shown ::
          (after.filterMap
              (blockOfFile? (repaired engine) settings.color) ++
            [summaryBlock settings.color summary]) := by
  intro files failed complete
  have someEnds :=
    (run_fails_iff settings tree engine inputs).mp ⟨failure, fails⟩
  obtain ⟨before, path, after, cause, order, continues, pathFails⟩ :=
    exists_first_failure settings tree engine inputs someEnds
  have ends := Reply.endsRun_of_toOutcome_eq_error pathFails
  have stopped := run_of_endsRun settings tree engine inputs order
    continues pathFails
  have sameFailure : cause = failure :=
    Except.error.inj (stopped.2.symm.trans fails)
  subst sameFailure
  obtain ⟨summary, succeeds, blocks⟩ := exists_run_repaired settings tree
    engine inputs order continues ends
  have sameOrder := settlingOrder_repaired settings engine files
  refine
    ⟨before, path, after, summary, sameOrder.trans order, order, continues,
      ?_, stopped.1, ?_, succeeds, ?_⟩
  · exact (Reply.toOutcome_eq_error_iff path _ _).mp pathFails
  · rw [stopped.1]
    exact fun block member =>
      reportedBlocks_ne_summaryBlock tree engine inputs member
  · rw [stopped.1]
    exact blocks

/-- Two files end the run, and the second one settles first. -/
theorem failed_run_is_beginning_second_first :
    let tree := (FileTree.empty.putFile "a.md" ByteArray.empty).putFile
      "b.md" ByteArray.empty
    let cause := LintFailure.rejected "syntax" ""
    let engine : Engine := fun path =>
      if path = "a.md" then ⟨9, .lost "panic"⟩ else ⟨3, .failed cause⟩
    (run {} tree engine ["a.md", "b.md"]).ending =
        .error (.dispatch "b.md" cause) ∧
      ∃ summary,
        (run {} tree (repaired engine) ["a.md", "b.md"]).ending =
          .ok summary := by
  intro tree cause engine
  have order :
      settlingOrder {} engine
          (["a.md", "b.md"].flatMap (lintedFiles tree)) =
        [] ++ Path.ofText "b.md" :: [Path.ofText "a.md"] := by
    decide +kernel
  have fails :=
    (run_of_endsRun {} tree engine ["a.md", "b.md"] order
      (List.forall_mem_nil _) rfl).2
  obtain ⟨_, _, _, summary, _, _, _, _, _, _, succeeds, _⟩ :=
    failed_run_is_beginning {} tree engine ["a.md", "b.md"] fails
  exact ⟨fails, summary, succeeds⟩

end TemplateLint.Dispatch
