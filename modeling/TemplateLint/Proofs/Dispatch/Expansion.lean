import TemplateLint.Proofs.Dispatch.Resolution

/-!
# Directories and the files found in them

A run does not tell a directory from the list of the files that are found in
it: it can come out in the same ways, whatever is still called when it fails.
These files are linted, and they stand for themselves when they are resolved
again, so that only an input that is a file can be skipped.
-/

namespace TemplateLint.Dispatch

open Report

/-- Inputs in which some directories have been replaced by the files that are
found in them, if the paths of these are texts, as inputs are. -/
inductive Expands (tree : FileTree) : List String → List String → Prop
  | nil : Expands tree [] []
  | keep {inputs expanded : List String} (input : String) :
      Expands tree inputs expanded →
      Expands tree (input :: inputs) (input :: expanded)
  | expand {inputs expanded paths : List String} {input : String} :
      tree.resolve defaultExtensions input =
        .directory (paths.map Path.ofText) →
      Expands tree inputs expanded →
      Expands tree (input :: inputs) (paths ++ expanded)

/-! ## Items -/

/-- The items of a directory are those of its files. -/
theorem itemsOf_of_directory {tree : FileTree}
    {allowed paths : List String} {input : String}
    (resolved : tree.resolve allowed input =
      .directory (paths.map Path.ofText)) :
    itemsOf tree allowed paths = itemsOfInput tree allowed input := by
  have standForThemselves :
      ∀ path ∈ paths,
        itemsOfInput tree allowed path = [itemOfFile allowed path] := by
    intro path member
    have isFile := FileTree.resolve_eq_file_of_mem_directory resolved
      (List.mem_map_of_mem member)
    rw [itemsOfInput, isFile]
  rw [itemsOf, List.flatMap_congr standForThemselves, itemsOfInput, resolved]
  dsimp only
  rw [List.map_map]
  exact List.map_eq_flatMap.symm

theorem itemsOf_expanded {tree : FileTree} {inputs expanded : List String}
    (expands : Expands tree inputs expanded) :
    itemsOf tree defaultExtensions expanded =
      itemsOf tree defaultExtensions inputs := by
  induction expands with
  | nil => rfl
  | keep input _ inductionHypothesis =>
      unfold itemsOf at inductionHypothesis ⊢
      rw [List.flatMap_cons, List.flatMap_cons, inductionHypothesis]
  | expand resolved _ inductionHypothesis =>
      rw [itemsOf_append, inductionHypothesis, itemsOf_of_directory resolved]
      rfl

/-! ## Blocks -/

variable (settings : Settings) (tree : FileTree) (engine : Engine)
  (inputs : List String)

/-- Whatever a run reports is about an input or a file, or it is a summary. -/
theorem mem_run_blocks {block : Block}
    (reported : block ∈ (run settings tree engine inputs).blocks) :
    (∃ files,
      block ∈ reportedBlocks tree engine inputs settings.color files) ∨
    ∃ summary, block = summaryBlock settings.color summary := by
  by_cases someEnds :
      ∃ path ∈ inputs.flatMap (lintedFiles tree),
        (engine path).reply.endsRun = true
  · obtain ⟨before, path, after, failure, order, continues, fails⟩ :=
      exists_first_failure settings tree engine inputs someEnds
    have stopped := run_of_endsRun settings tree engine inputs order
      continues fails
    rw [stopped.1] at reported
    exact Or.inl ⟨before, reported⟩
  · have continues : ∀ path ∈ inputs.flatMap (lintedFiles tree),
        (engine path).reply.endsRun = false := fun path member =>
      Bool.eq_false_iff.mpr fun ends => someEnds ⟨path, member, ends⟩
    rw [run_of_continues settings tree engine inputs rfl continues]
      at reported
    rcases List.mem_append.mp reported with earlier | last
    · exact Or.inl ⟨_, earlier⟩
    · exact Or.inr ⟨_, List.mem_singleton.mp last⟩

/-- Only files that are given as inputs are reported as not linted. -/
theorem exists_input_of_skippedBlock {path extension : String}
    (reported :
      skippedBlock settings.color defaultExtensions path extension ∈
        (run settings tree engine inputs).blocks) :
    ∃ input ∈ inputs,
      tree.resolve defaultExtensions input = .file ∧
      extensionOf input ∉ defaultExtensions ∧
      skippedBlock settings.color defaultExtensions path extension =
        skippedBlock settings.color defaultExtensions input
          (extensionOf input) := by
  rcases mem_run_blocks settings tree engine inputs reported with
    ⟨files, member⟩ | ⟨summary, isSummary⟩
  · rcases List.mem_append.mp member with atOnce | ofFile
    · obtain ⟨input, inInputs, found⟩ := List.mem_filterMap.mp atOnce
      unfold blockAtOnce? outcomeAtOnce? at found
      cases resolved : tree.resolve defaultExtensions input with
      | missing => simp [resolved, outcomeBlock, missingBlock,
          skippedBlock] at found
      | directory paths => simp [resolved] at found
      | file =>
          by_cases linted : extensionOf input ∈ defaultExtensions
          · simp [resolved, linted] at found
          · rw [resolved] at found
            simp only [linted, if_false, Option.map_some,
              Option.some.injEq] at found
            exact ⟨input, inInputs, resolved, linted, found.symm⟩
    · obtain ⟨file, _, found⟩ := List.mem_filterMap.mp ofFile
      unfold blockOfFile? at found
      split at found
      · exact absurd (Option.some.inj found)
          (diagnosticsBlock_ne_skippedBlock _ _ _ _ _ _)
      · cases found
      · cases found
  · exact absurd isSummary (skippedBlock_ne_summaryBlock _ _ _ _ _)

/-! ## Runs -/

/-- A run with directories among its inputs is the run with their files in
their place: it reports, calls and ends in the same way, and every one of its
executions, of which there are some, is one of the other run too.  These files
are linted and stand for themselves, and whatever is skipped is an input that
is no directory. -/
theorem run_expanded {tree : FileTree} {inputs expanded : List String}
    (expands : Expands tree inputs expanded) (settings : Settings)
    (engine : Engine) :
    (run settings tree engine expanded).SameAs
        (run settings tree engine inputs) ∧
    (∀ history,
      CanEndWith settings tree engine expanded history ↔
        CanEndWith settings tree engine inputs history) ∧
    (∃ history, CanEndWith settings tree engine inputs history) ∧
    (∀ history, CanEndWith settings tree engine inputs history →
      history.result.SameAs (run settings tree engine inputs)) ∧
    (∀ (input : Path) (paths : List Path),
      tree.resolve defaultExtensions input = .directory paths →
      ∀ path ∈ paths,
        classify defaultExtensions path.shown = .eligible ∧
        tree.resolve defaultExtensions path = .file) ∧
    ∀ path extension,
      skippedBlock settings.color defaultExtensions path extension ∈
          (run settings tree engine inputs).blocks →
        ∃ input ∈ inputs,
          tree.resolve defaultExtensions input = .file ∧
          extensionOf input ∉ defaultExtensions ∧
          skippedBlock settings.color defaultExtensions path extension =
            skippedBlock settings.color defaultExtensions input
              (extensionOf input) := by
  have sameItems := itemsOf_expanded expands
  refine ⟨?_, fun history => ⟨?_, ?_⟩,
    exists_canEndWith settings tree engine inputs,
    fun _ ends => ends.sameAs_run, ?_, ?_⟩
  · unfold run
    rw [sameItems]
    exact ⟨rfl, rfl, fun _ _ => rfl⟩
  · exact fun ends => ends.of_itemsOf_eq sameItems.symm
  · exact fun ends => ends.of_itemsOf_eq sameItems
  · intro input paths resolved path member
    have linted := FileTree.extensionOf_mem_of_mem_directory resolved member
    exact
      ⟨(classify_eq_eligible_iff _ _).mpr linted,
        FileTree.resolve_eq_file_of_mem_directory resolved member⟩
  · intro path extension reported
    exact exists_input_of_skippedBlock settings tree engine inputs reported

/-- A directory between two files, one of which is not linted; the task of the
other one is lost. -/
theorem run_expanded_between_files :
    let tree := ((FileTree.empty.putFile "a.txt" ByteArray.empty).putFile
      "d/b.md" ByteArray.empty).putFile "c.md" ByteArray.empty
    let engine : Engine := fun path =>
      if path = Path.ofText "c.md" then ⟨0, .lost "task 3 panicked"⟩
      else ⟨7, .diagnostics []⟩
    tree.resolve defaultExtensions "d" = .directory ["d/b.md"] ∧
      (run { jobs := some 1 } tree engine ["a.txt", "d/b.md", "c.md"]).SameAs
        (run { jobs := some 1 } tree engine ["a.txt", "d", "c.md"]) := by
  intro tree engine
  have resolved :
      tree.resolve defaultExtensions "d" = .directory ["d/b.md"] := by
    decide +kernel
  have expands : Expands tree ("d" :: ["c.md"]) (["d/b.md"] ++ ["c.md"]) :=
    .expand resolved (.keep "c.md" .nil)
  exact
    ⟨resolved,
      (run_expanded (expands.keep "a.txt") { jobs := some 1 } engine).1⟩

end TemplateLint.Dispatch
