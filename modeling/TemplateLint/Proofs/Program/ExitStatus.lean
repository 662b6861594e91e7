import TemplateLint.Program
import TemplateLint.Proofs.Dispatch.RunSummary

/-!
# Exit statuses

With which status the program exits is decided by the first of seven cases:
unreadable input, no path, a configuration that cannot be loaded, a failure of
the linter, diagnostics, a missing path, and none of these.  The first three
keep the program from linting at all, and only the last three have a summary.
-/

namespace TemplateLint.Program

open CommandLine Dispatch Report

/-! ## What is promised -/

/-- The program exits before it starts a linter or writes any output. -/
structure ExitsBeforeLinting (surrounding : Surrounding)
    (texts : List String) (code : Nat) : Prop where
  exitCode_eq : exitCode (execute surrounding texts).ending = code
  calls_eq : (execute surrounding texts).calls = []
  output_eq : (printed surrounding texts).linesOn .output = []

/-- The program exits after it has linted some files, without a summary. -/
structure ExitsWithoutSummary (surrounding : Surrounding)
    (texts : List String) (color : Bool) (code : Nat) : Prop where
  exitCode_eq : exitCode (execute surrounding texts).ending = code
  printed_eq :
    printed surrounding texts = (execute surrounding texts).blocks.flatten
  ne_summaryBlock : ∀ block ∈ (execute surrounding texts).blocks,
    ∀ summary, block ≠ summaryBlock color summary

/-- The program exits with one summary, which is the last line of a stream. -/
structure ExitsWithSummary (surrounding : Surrounding)
    (texts : List String) (color : Bool) (code : Nat) (stream : Stream) :
    Prop where
  exitCode_eq : exitCode (execute surrounding texts).ending = code
  printed_eq :
    printed surrounding texts = (execute surrounding texts).blocks.flatten
  exists_summary : ∃ before summary,
    (execute surrounding texts).ending = .finished summary ∧
    (execute surrounding texts).blocks =
      before ++ [summaryBlock color summary] ∧
    (∀ block ∈ before, ∀ other, block ≠ summaryBlock color other) ∧
    (summaryLine color summary.kind).stream = stream ∧
    ((printed surrounding texts).linesOn stream).getLast? =
      some (summaryLine color summary.kind).text

/-- What the linter says about a file, as the program calls it. -/
def lintResult (surrounding : Surrounding) (arguments : Arguments)
    (configuration : Configuration) (path : Path) :
    Except LintFailure (List Diagnostic) :=
  (command arguments surrounding.environmentEngine
    (extend arguments configuration)).lint surrounding.launch path

/-- The replies of the linter in a run of the program. -/
def linterReplies (surrounding : Surrounding) (arguments : Arguments)
    (configuration : Configuration) : Engine :=
  engineOf
    (command arguments surrounding.environmentEngine
      (extend arguments configuration))
    surrounding.launch surrounding.delay

open scoped Classical in
/-- How the program exits once it lints some paths: with a failure, with
diagnostics, with a missing path, or with none of these. -/
def ExitsByLinting (surrounding : Surrounding) (texts : List String)
    (arguments : Arguments) (configuration : Configuration)
    (paths : List String) : Prop :=
  let color := usesColor surrounding arguments
  let result := lintResult surrounding arguments configuration
  let files := paths.flatMap (lintedFiles surrounding.tree)
  if ∃ path ∈ files, ∃ failure,
      result path = .error failure ∧ failure.isSuppressed = false then
    ExitsWithoutSummary surrounding texts color 2
  else if ∃ path ∈ files, ∃ first rest,
      result path = .ok (first :: rest) then
    ExitsWithSummary surrounding texts color 67 .errors
  else if ∃ path ∈ paths,
      surrounding.tree.resolve defaultExtensions path = .missing then
    ExitsWithSummary surrounding texts color 66 .errors
  else ExitsWithSummary surrounding texts color 0 .output

/-! ## Lines -/

theorem linesOn_append_singleton_getLast? {stream : Stream} {line : Line}
    (onStream : line.stream = stream) (lines : Block) :
    (Block.linesOn stream (lines ++ [line])).getLast? = some line.text := by
  simp [Block.linesOn, onStream]

theorem linesOn_output_noPath (lines : List String) :
    Block.linesOn .output (lines.map (Line.mk .errors)) = [] := by
  simp [Block.linesOn, List.filter_eq_nil_iff]

/-! ## Replies -/

section Replies

variable (surrounding : Surrounding) (arguments : Arguments)
  (configuration : Configuration) (path : Path)

theorem linterReplies_endsRun_iff :
    (linterReplies surrounding arguments configuration path).reply.endsRun =
        true ↔
      ∃ failure,
        lintResult surrounding arguments configuration path =
          .error failure ∧
        failure.isSuppressed = false := by
  unfold linterReplies engineOf
  cases result : lintResult surrounding arguments configuration path with
  | ok found =>
      unfold lintResult at result
      simp [result, Reply.endsRun]
  | error failure =>
      unfold lintResult at result
      simp [result, Reply.endsRun]

theorem linterReplies_eq_diagnostics_iff (found : List Diagnostic) :
    (linterReplies surrounding arguments configuration path).reply =
        .diagnostics found ↔
      lintResult surrounding arguments configuration path =
        .ok found := by
  unfold linterReplies engineOf
  cases result : lintResult surrounding arguments configuration path with
  | ok other =>
      unfold lintResult at result
      simp [result]
  | error failure =>
      unfold lintResult at result
      simp [result]

end Replies

/-! ## Accepted arguments -/

section Accepted

variable {surrounding : Surrounding} {texts : List String}
  {arguments : Arguments}
  (accepted : Arguments.parse texts = .ok arguments)

include accepted

theorem execute_of_accepted :
    execute surrounding texts = perform surrounding arguments := by
  simp [execute, accepted]

theorem printed_of_accepted :
    printed surrounding texts =
      (perform surrounding arguments).blocks.flatten ++
        endingBlock (usesColor surrounding arguments)
          surrounding.environmentEngine
          (perform surrounding arguments).ending := by
  simp [printed, execute, accepted]

/-- An ending without files and without output of its own comes before
linting. -/
theorem exitsBeforeLinting_of_perform {ending : Ending}
    (performed : perform surrounding arguments = { ending := ending })
    (silent : Block.linesOn .output
      (endingBlock (usesColor surrounding arguments)
        surrounding.environmentEngine ending) = []) :
    ExitsBeforeLinting surrounding texts (exitCode ending) := by
  have executed := (execute_of_accepted accepted).trans performed
  constructor
  · rw [executed]
  · rw [executed]
  · rw [printed_of_accepted accepted, performed]
    exact silent

theorem exitsWithoutSummary_of_perform {failure : RunFailure}
    (ending : (perform surrounding arguments).ending =
      .fatal (.run failure))
    (noSummary : ∀ block ∈ (perform surrounding arguments).blocks,
      ∀ summary,
        block ≠ summaryBlock (usesColor surrounding arguments) summary) :
    ExitsWithoutSummary surrounding texts
      (usesColor surrounding arguments) 2 := by
  have executed :
      execute surrounding texts = perform surrounding arguments :=
    execute_of_accepted accepted
  constructor
  · rw [executed, ending]
    rfl
  · rw [executed, printed_of_accepted accepted, ending]
    exact List.append_nil _
  · rw [executed]
    exact noSummary

theorem exitsWithSummary_of_perform {before : List Block}
    {summary : Summary}
    (consistent : summary.Consistent)
    (ending : (perform surrounding arguments).ending = .finished summary)
    (blocks : (perform surrounding arguments).blocks =
      before ++ [summaryBlock (usesColor surrounding arguments) summary])
    (noSummary : ∀ block ∈ before, ∀ other,
      block ≠ summaryBlock (usesColor surrounding arguments) other) :
    ExitsWithSummary surrounding texts (usesColor surrounding arguments)
      summary.status.code
      (if summary.status = .success then .output else .errors) := by
  have executed :
      execute surrounding texts = perform surrounding arguments :=
    execute_of_accepted accepted
  have lines : printed surrounding texts =
      (perform surrounding arguments).blocks.flatten := by
    rw [printed_of_accepted accepted, ending]
    exact List.append_nil _
  have onStream := summaryLine_stream (usesColor surrounding arguments)
    summary.kind
  simp only [consistent.kind_eq_noErrors_iff_status] at onStream
  constructor
  · rw [executed, ending]
    rfl
  · rw [executed, lines]
  · refine
      ⟨before, summary, executed ▸ ending, executed ▸ blocks, noSummary,
        onStream, ?_⟩
    rw [lines, blocks, List.flatten_concat]
    exact linesOn_append_singleton_getLast? onStream before.flatten

end Accepted

/-! ## The cases before linting -/

theorem readPaths_of_malformed {bytes : ByteArray}
    (malformed : ¬bytes.IsValidUTF8) : readPaths bytes = none := by
  simp [readPaths, Text.decodeStrict, String.fromUTF8?, malformed]

theorem exists_readPaths_eq_some {bytes : ByteArray}
    (wellFormed : bytes.IsValidUTF8) :
    ∃ piped, readPaths bytes = some piped := by
  simp [readPaths, Text.decodeStrict, String.fromUTF8?, wellFormed]

theorem effectivePaths_eq_nil_iff (arguments : Arguments)
    (piped : List String) :
    effectivePaths arguments piped = [] ↔
      piped = [] ∧ arguments.paths = [] := by
  by_cases nonePiped : piped = []
  · subst nonePiped
    simp
  · rw [effectivePaths_of_ne_nil arguments nonePiped]
    simp [nonePiped]

theorem perform_of_malformed {surrounding : Surrounding}
    (malformed : ¬surrounding.input.IsValidUTF8) (arguments : Arguments) :
    perform surrounding arguments =
      { ending := .fatal .unreadableInput } := by
  rw [perform, readPaths_of_malformed malformed]

theorem perform_of_noPath {surrounding : Surrounding}
    {arguments : Arguments} {piped : List String}
    (readable : readPaths surrounding.input = some piped)
    (noPath : effectivePaths arguments piped = []) :
    perform surrounding arguments = { ending := .noPath } := by
  simp [perform, readable, noPath]

/-- The configuration file that is named is taken before the one that is
found, and without either nothing is configured. -/
theorem baseConfiguration_eq (tree : FileTree) (arguments : Arguments) :
    baseConfiguration tree arguments =
      match (arguments.config.map Path.ofText).or
          (Configuration.discover tree ".") with
      | none => .ok {}
      | some file => Configuration.load tree file := by
  unfold baseConfiguration
  cases arguments.config with
  | some given => rfl
  | none =>
      cases Configuration.discover tree "." with
      | none => rfl
      | some found => rfl

theorem perform_of_configurationFault {surrounding : Surrounding}
    {arguments : Arguments} {piped : List String}
    {fault : ConfigurationFault}
    (readable : readPaths surrounding.input = some piped)
    (somePath : effectivePaths arguments piped ≠ [])
    (faulty : baseConfiguration surrounding.tree arguments =
      .error fault) :
    perform surrounding arguments =
      { ending := .fatal (.configuration fault) } := by
  simp [perform, readable, somePath, faulty]

theorem perform_of_configuration {surrounding : Surrounding}
    {arguments : Arguments} {piped : List String}
    {configuration : Configuration}
    (readable : readPaths surrounding.input = some piped)
    (somePath : effectivePaths arguments piped ≠ [])
    (configured : baseConfiguration surrounding.tree arguments =
      .ok configuration) :
    perform surrounding arguments =
      lintPaths surrounding arguments (extend arguments configuration)
        (effectivePaths arguments piped) := by
  simp [perform, readable, somePath, configured]

/-! ## The cases of linting -/

section Linting

variable (surrounding : Surrounding) (arguments : Arguments)
  (configuration : Configuration) (paths : List String)

theorem lintPaths_of_failure
    (fails : ∃ path ∈ paths.flatMap (lintedFiles surrounding.tree),
      ∃ failure,
        lintResult surrounding arguments configuration path =
          .error failure ∧
        failure.isSuppressed = false) :
    let execution := lintPaths surrounding arguments
      (extend arguments configuration) paths
    (∃ failure, execution.ending = .fatal (.run failure)) ∧
      ∀ block ∈ execution.blocks, ∀ summary,
        block ≠ summaryBlock (usesColor surrounding arguments) summary := by
  let settings : Settings :=
    { color := usesColor surrounding arguments
      jobs := (extend arguments configuration).jobs }
  let replies := linterReplies surrounding arguments configuration
  obtain ⟨path, member, failure, result, reported⟩ := fails
  have ends : (replies path).reply.endsRun = true :=
    (linterReplies_endsRun_iff surrounding arguments configuration path).mpr
      ⟨failure, result, reported⟩
  obtain ⟨before, first, after, cause, order, continues, firstFails⟩ :=
    exists_first_failure settings surrounding.tree replies paths
      ⟨path, member, ends⟩
  obtain ⟨blocks, ending⟩ := run_of_endsRun settings surrounding.tree
    replies paths order continues firstFails
  refine ⟨⟨cause, congrArg endingOf ending⟩, ?_⟩
  intro block member summary
  change block ∈ (run settings surrounding.tree replies paths).blocks
    at member
  rw [blocks] at member
  exact reportedBlocks_ne_summaryBlock surrounding.tree replies paths
    member summary

theorem lintPaths_of_noFailure
    (noFailure : ¬∃ path ∈ paths.flatMap (lintedFiles surrounding.tree),
      ∃ failure,
        lintResult surrounding arguments configuration path =
          .error failure ∧
        failure.isSuppressed = false) :
    let execution := lintPaths surrounding arguments
      (extend arguments configuration) paths
    ∃ before summary,
      execution.ending = .finished summary ∧
      execution.blocks =
        before ++ [summaryBlock (usesColor surrounding arguments) summary] ∧
      (∀ block ∈ before, ∀ other,
        block ≠ summaryBlock (usesColor surrounding arguments) other) ∧
      summary.Consistent ∧
      (0 < summary.withDiagnostics ↔
        ∃ path ∈ paths.flatMap (lintedFiles surrounding.tree),
          ∃ first rest,
            lintResult surrounding arguments configuration path =
              .ok (first :: rest)) ∧
      (0 < summary.missing ↔
        ∃ path ∈ paths,
          surrounding.tree.resolve defaultExtensions path = .missing) := by
  let settings : Settings :=
    { color := usesColor surrounding arguments
      jobs := (extend arguments configuration).jobs }
  let replies := linterReplies surrounding arguments configuration
  let files := paths.flatMap (lintedFiles surrounding.tree)
  let order := settlingOrder settings replies files
  have continues : ∀ path ∈ files,
      (replies path).reply.endsRun = false := by
    intro path member
    refine Bool.eq_false_iff.mpr fun ends => noFailure ⟨path, member, ?_⟩
    exact (linterReplies_endsRun_iff surrounding arguments configuration
      path).mp ends
  have complete := run_of_continues settings surrounding.tree replies paths
    rfl continues
  have members : ∀ path, path ∈ order ↔ path ∈ files := fun path =>
    (settlingOrder_perm settings replies files).mem_iff
  refine
    ⟨reportedBlocks surrounding.tree replies paths settings.color order,
      summaryOf (settledOutcomes surrounding.tree replies paths order),
      ?_, congrArg RunResult.blocks complete,
      fun block reported =>
        reportedBlocks_ne_summaryBlock surrounding.tree replies paths
          reported,
      consistent_summaryOf _, ?_,
      missing_settledOutcomes_pos_iff surrounding.tree replies paths order⟩
  · exact congrArg (fun result => endingOf result.ending) complete
  · rw [withDiagnostics_settledOutcomes_pos_iff]
    simp only [members, replies, linterReplies_eq_diagnostics_iff, files]

end Linting

/-! ## All cases -/

theorem exitsByLinting_of_perform {surrounding : Surrounding}
    {texts : List String} {arguments : Arguments}
    {configuration : Configuration} {paths : List String}
    (accepted : Arguments.parse texts = .ok arguments)
    (performed : perform surrounding arguments =
      lintPaths surrounding arguments (extend arguments configuration)
        paths) :
    ExitsByLinting surrounding texts arguments configuration paths := by
  unfold ExitsByLinting
  intro color result files
  by_cases fails : ∃ path ∈ files, ∃ failure,
      result path = .error failure ∧ failure.isSuppressed = false
  · rw [if_pos fails]
    obtain ⟨⟨failure, ending⟩, noSummary⟩ := lintPaths_of_failure
      surrounding arguments configuration paths fails
    rw [← performed] at ending noSummary
    exact exitsWithoutSummary_of_perform accepted ending noSummary
  rw [if_neg fails]
  obtain ⟨before, summary, ending, blocks, noSummary, consistent,
    diagnosed, missing⟩ := lintPaths_of_noFailure surrounding arguments
      configuration paths fails
  rw [← performed] at ending blocks
  have exits := exitsWithSummary_of_perform accepted consistent ending
    blocks noSummary
  by_cases diagnostics : ∃ path ∈ files, ∃ first rest,
      result path = .ok (first :: rest)
  · rw [if_pos diagnostics]
    have status : summary.status = .lintErrors :=
      (Summary.status_eq_lintErrors_iff summary).mpr
        (diagnosed.mpr diagnostics)
    rw [status] at exits
    exact exits
  rw [if_neg diagnostics]
  have undiagnosed : summary.withDiagnostics = 0 :=
    Nat.eq_zero_of_not_pos fun some => diagnostics (diagnosed.mp some)
  by_cases gone : ∃ path ∈ paths,
      surrounding.tree.resolve defaultExtensions path = .missing
  · rw [if_pos gone]
    have status : summary.status = .pathNotFound :=
      (Summary.status_eq_pathNotFound_iff summary).mpr
        ⟨undiagnosed, missing.mpr gone⟩
    rw [status] at exits
    exact exits
  · rw [if_neg gone]
    have status : summary.status = .success :=
      (Summary.status_eq_success_iff summary).mpr
        ⟨undiagnosed,
          Nat.eq_zero_of_not_pos fun some => gone (missing.mp some)⟩
    rw [status] at exits
    exact exits

/-- The exit status is that of the first case that applies, whatever the
linter does and however long it takes: input that is no text, no path at all, a
configuration file that cannot be loaded (the one that is named, or else the one
that is found), and the cases of linting. -/
theorem exit_by_first_case (surrounding : Surrounding)
    {texts : List String} {arguments : Arguments}
    (accepted : Arguments.parse texts = .ok arguments) :
    if ¬surrounding.input.IsValidUTF8 then
      ExitsBeforeLinting surrounding texts 2
    else
      ∃ piped, readPaths surrounding.input = some piped ∧
        if piped = [] ∧ arguments.paths = [] then
          ExitsBeforeLinting surrounding texts 65
        else
          let paths := effectivePaths arguments piped
          match (arguments.config.map Path.ofText).or
              (Configuration.discover surrounding.tree ".") with
          | none => ExitsByLinting surrounding texts arguments {} paths
          | some file =>
              match Configuration.load surrounding.tree file with
              | .error _ => ExitsBeforeLinting surrounding texts 2
              | .ok configuration =>
                  ExitsByLinting surrounding texts arguments configuration
                    paths := by
  by_cases wellFormed : surrounding.input.IsValidUTF8
  swap
  · rw [if_pos wellFormed]
    exact exitsBeforeLinting_of_perform accepted
      (perform_of_malformed wellFormed arguments) rfl
  rw [if_neg (not_not_intro wellFormed)]
  obtain ⟨piped, readable⟩ := exists_readPaths_eq_some wellFormed
  refine ⟨piped, readable, ?_⟩
  have noPathIff := effectivePaths_eq_nil_iff arguments piped
  by_cases nothing : piped = [] ∧ arguments.paths = []
  · rw [if_pos nothing]
    exact exitsBeforeLinting_of_perform accepted
      (perform_of_noPath readable (noPathIff.mpr nothing))
      (linesOn_output_noPath _)
  rw [if_neg nothing]
  have somePath : effectivePaths arguments piped ≠ [] :=
    fun noPath => nothing (noPathIff.mp noPath)
  have configured := baseConfiguration_eq surrounding.tree arguments
  dsimp only
  split at configured
  · exact exitsByLinting_of_perform accepted
      (perform_of_configuration readable somePath configured)
  · next file _ =>
      cases loaded : Configuration.load surrounding.tree file with
      | error fault =>
          rw [loaded] at configured
          exact exitsBeforeLinting_of_perform accepted
            (perform_of_configurationFault readable somePath configured) rfl
      | ok configuration =>
          rw [loaded] at configured
          exact exitsByLinting_of_perform accepted
            (perform_of_configuration readable somePath configured)

/-- The linter cannot be started for one path and the other is missing: the
failure comes first. -/
theorem exit_by_first_case_failure_and_missing :
    let surrounding : Surrounding :=
      { tree := FileTree.empty.putFile "a.md" ByteArray.empty
        input := ByteArray.empty
        environmentEngine := none
        launch := fun _ _ => .error .notFound }
    ExitsWithoutSummary surrounding ["gone", "a.md"] false 2 := by
  intro surrounding
  have accepted : Arguments.parse ["gone", "a.md"] =
      .ok { paths := ["gone", "a.md"] } := by
    rfl
  have wellFormed : surrounding.input.IsValidUTF8 := by
    decide +kernel
  have nonePiped : readPaths surrounding.input = some [] := by
    decide +kernel
  have unconfigured : Configuration.discover surrounding.tree "." =
      none := by
    decide +kernel
  have linted : Path.ofText "a.md" ∈
      ["gone", "a.md"].flatMap (lintedFiles surrounding.tree) := by
    decide +kernel
  have firstCase := exit_by_first_case surrounding accepted
  rw [if_neg (not_not_intro wellFormed)] at firstCase
  obtain ⟨piped, readable, firstCase⟩ := firstCase
  obtain rfl : piped = [] :=
    Option.some.inj (readable.symm.trans nonePiped)
  rw [if_neg (by decide), unconfigured] at firstCase
  have byLinting : ExitsByLinting surrounding ["gone", "a.md"]
      { paths := ["gone", "a.md"] } {} ["gone", "a.md"] := firstCase
  unfold ExitsByLinting at byLinting
  exact (if_pos ⟨Path.ofText "a.md", linted, _, rfl, rfl⟩).mp byLinting

end TemplateLint.Program
