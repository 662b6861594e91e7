import TemplateLint.Proofs.CommandLine.Additions
import TemplateLint.Proofs.Dispatch.Timing
import TemplateLint.Proofs.Program.Invocation

/-!
# What is passed on is not interpreted

If the replies of the linter depend on the path alone, custom names and further
arguments for it change nothing but the order in which files are reported,
however they are written and whatever they look like.
-/

namespace TemplateLint

/-! ## Kinds of endings -/

/-- The kinds of failures. -/
inductive RunFailure.Kind where
  | configuration
  | dispatch
  | io
  | taskLost
  deriving DecidableEq, Repr

def RunFailure.kind : RunFailure → RunFailure.Kind
  | .configuration _ => .configuration
  | .dispatch _ _ => .dispatch
  | .io _ => .io
  | .taskLost _ => .taskLost

/-- Two endings are the same, or they are failures of the same kind, or a fault
in the value of an option is reported in place of an argument that is not
recognised. -/
inductive SameEnding : Ending → Ending → Prop
  | same (ending : Ending) : SameEnding ending ending
  | failed {first second : Fatal} :
      first.failure.kind = second.failure.kind →
      SameEnding (.fatal first) (.fatal second)
  | overtaken {unrecognised fault : CommandLine.UsageFault} :
      unrecognised.isUnrecognised = true → fault.isUnrecognised = false →
      SameEnding (.usage unrecognised) (.usage fault)

/-- The block of the summary, if there is one. -/
def Ending.summaryBlocks (color : Bool) : Ending → List Report.Block
  | .finished summary => [Report.summaryBlock color summary]
  | _ => []

namespace Linter

/-! ## Linters that look at the path alone -/

/-- What comes of starting a program depends on its last argument, apart from
its name and from whether its arguments can be passed on at all. -/
def DependsOnLast (launch : Launcher) : Prop :=
  ∀ (program : Path) (left right : List Path),
    left.getLast? = right.getLast? →
    left.any holdsNul = right.any holdsNul →
    launch program left = launch program right

theorem dependsOnLast_launchIn (tree : FileTree) (installed : List Path)
    {behaviour : Behaviour}
    (byLast : ∀ (program : Path) (left right : List Path),
      left.getLast? = right.getLast? →
      behaviour program left = behaviour program right) :
    DependsOnLast (launchIn tree installed behaviour) := by
  intro program left right sameLast sameNul
  simp only [launchIn, sameNul, byLast program left right sameLast]

/-- The names of options hold no byte that ends texts. -/
theorem any_holdsNul_toArguments (options : Options) :
    (options.toArguments.map Path.ofText).any holdsNul =
      ((options.customBlocks ++ options.customTags).map Path.ofText).any
        holdsNul := by
  have block : holdsNul (Path.ofText "--custom-block") = false := by
    decide +kernel
  have tag : holdsNul (Path.ofText "--custom-tag") = false := by
    decide +kernel
  simp [Options.toArguments, List.any_flatMap, Function.comp_def, block, tag]

end Linter

namespace Program

open CommandLine Dispatch Linter Report

/-! ## Replies -/

theorem reply_engineOf_congr {left right : Command} {launch : Launcher}
    {path : Path} (lints : left.lint launch path = right.lint launch path)
    {leftDelay rightDelay : Path → Nat} :
    (engineOf left launch leftDelay path).reply =
      (engineOf right launch rightDelay path).reply := by
  simp only [engineOf, lints]

section Alike

variable {first second : Arguments} (alike : first.Alike second)

include alike

theorem any_holdsNul_argumentsFor (environmentEngine : Option String)
    (configuration : Configuration) (path : Path) :
    ((command first environmentEngine
        (extend first configuration)).argumentsFor path).any holdsNul =
      ((command second environmentEngine
        (extend second configuration)).argumentsFor path).any holdsNul := by
  have nul := alike.holdsNul_eq
  simp only [Arguments.passedOn, List.map_append, List.any_append] at nul
  simp only [Command.argumentsFor, command, extend, Configuration.options,
    List.map_append, List.any_append, any_holdsNul_toArguments]
  grind

theorem linterReplies_of_alike {surrounding : Surrounding}
    (byLast : DependsOnLast surrounding.launch) (delay : Path → Nat)
    (configuration : Configuration) (path : Path) :
    (linterReplies surrounding first configuration path).reply =
      (linterReplies { surrounding with delay := delay } second configuration
        path).reply := by
  let environmentEngine := surrounding.environmentEngine
  let left := command first environmentEngine (extend first configuration)
  let right := command second environmentEngine (extend second configuration)
  have programs : left.program = right.program := by
    simp only [left, right, command, alike.engine_eq]
    rfl
  have launches :
      surrounding.launch left.program (left.argumentsFor path) =
        surrounding.launch right.program (right.argumentsFor path) := by
    rw [programs]
    refine byLast _ _ _ ?_
      (any_holdsNul_argumentsFor alike environmentEngine configuration path)
    rw [Command.argumentsFor_getLast?, Command.argumentsFor_getLast?]
  have lints : left.lint surrounding.launch path =
      right.lint surrounding.launch path := by
    rw [Command.lint, Command.lint, launches, programs]
  exact reply_engineOf_congr lints

end Alike

/-! ## Runs -/

/-- Both executions end in the same way.  Unless they fail, they have reported
the same blocks: the same summary last, if there is one, and the others in any
order. -/
structure SameReport (color : Bool) (first second : Execution) : Prop where
  ending : SameEnding first.ending second.ending
  blocks : (∀ cause, first.ending ≠ .fatal cause) →
    ∃ firstBlocks secondBlocks,
      first.blocks = firstBlocks ++ first.ending.summaryBlocks color ∧
      second.blocks = secondBlocks ++ first.ending.summaryBlocks color ∧
      firstBlocks.Perm secondBlocks

/-- Executions that report nothing. -/
theorem sameReport_of_silent (color : Bool) {first second : Ending}
    (ending : SameEnding first second)
    (noSummary : first.summaryBlocks color = []) :
    SameReport color { ending := first } { ending := second } := by
  refine ⟨ending, fun _ => ⟨[], [], ?_, ?_, .nil⟩⟩ <;> rw [noSummary] <;> rfl

/-- No task that runs the linter is lost. -/
theorem kind_of_run_fails {settings : Settings} {surrounding : Surrounding}
    {arguments : Arguments} {configuration : Configuration}
    {paths : List String} {failure : RunFailure}
    (fails : (run settings surrounding.tree
      (linterReplies surrounding arguments configuration) paths).ending =
        .error failure) :
    failure.kind = .dispatch := by
  obtain ⟨path, _, causes⟩ := exists_reply_of_run_fails _ _ _ _ fails
  rcases (Reply.toOutcome_eq_error_iff path _ failure).mp causes with
    ⟨cause, _, _, rfl⟩ | ⟨_, lost, _⟩
  · rfl
  · rw [linterReplies_eq] at lost
    unfold replyTo at lost
    dsimp only at lost
    split at lost
    · cases lost
    · split at lost <;> cases lost

section Executions

variable {first second : Arguments} (alike : first.Alike second)

include alike

theorem lintPaths_of_alike {surrounding : Surrounding}
    (byLast : DependsOnLast surrounding.launch) (delay : Path → Nat)
    (configuration : Configuration) (paths : List String) :
    SameReport (usesColor surrounding first)
      (lintPaths surrounding first (extend first configuration) paths)
      (lintPaths { surrounding with delay := delay } second
        (extend second configuration) paths) := by
  let settings : Settings :=
    { color := usesColor surrounding first
      jobs := (extend first configuration).jobs }
  have sameSettings : settings =
      { color := usesColor surrounding second
        jobs := (extend second configuration).jobs } := by
    simp only [settings, usesColor, Arguments.colorMode, extend,
      alike.color_eq, alike.jobs_eq]
  have sameReplies :=
    linterReplies_of_alike alike byLast delay configuration
  -- Both runs have the same settings, so only the times of the replies differ.
  have firstRuns : lintPaths surrounding first (extend first configuration)
      paths =
        let result := run settings surrounding.tree
          (linterReplies surrounding first configuration) paths
        ⟨result.blocks, result.calls, endingOf result.ending⟩ := rfl
  have secondRuns : lintPaths { surrounding with delay := delay } second
      (extend second configuration) paths =
        let result := run settings surrounding.tree
          (linterReplies { surrounding with delay := delay } second
            configuration) paths
        ⟨result.blocks, result.calls, endingOf result.ending⟩ := by
    rw [sameSettings]
    rfl
  rw [firstRuns, secondRuns]
  rcases run_of_sameReplies settings surrounding.tree paths sameReplies with
    ⟨firstFailure, secondFailure, firstFails, secondFails⟩ |
      ⟨summary, firstBlocks, secondBlocks, firstEnds, secondEnds, firstEq,
        secondEq, permutation⟩
  · have firstKind := kind_of_run_fails firstFails
    have secondKind := kind_of_run_fails secondFails
    dsimp only
    rw [firstFails, secondFails]
    exact ⟨.failed (firstKind.trans secondKind.symm),
      fun noFailure => (noFailure _ rfl).elim⟩
  · dsimp only
    rw [firstEnds, secondEnds]
    exact ⟨.same _, fun _ =>
      ⟨firstBlocks, secondBlocks, firstEq, secondEq, permutation⟩⟩

theorem perform_of_alike {surrounding : Surrounding}
    (byLast : DependsOnLast surrounding.launch) (delay : Path → Nat) :
    SameReport (usesColor surrounding first) (perform surrounding first)
      (perform { surrounding with delay := delay } second) := by
  have samePaths : effectivePaths first = effectivePaths second := by
    funext piped
    simp only [effectivePaths, alike.paths_eq]
  have sameConfiguration : baseConfiguration surrounding.tree first =
      baseConfiguration surrounding.tree second := by
    simp only [baseConfiguration, alike.config_eq]
  unfold perform
  dsimp only
  rw [samePaths, sameConfiguration]
  split
  · exact sameReport_of_silent _ (.same _) rfl
  · split
    · exact sameReport_of_silent _ (.same _) rfl
    · split
      · exact sameReport_of_silent _ (.same _) rfl
      · exact lintPaths_of_alike alike byLast delay _ _

end Executions

/-! ## Command lines -/

/-- The program uses colors with some arguments. -/
def colors (surrounding : Surrounding) (texts : List String) : Bool :=
  match Arguments.parse texts with
  | .ok parsed => usesColor surrounding parsed
  | .error _ => false

theorem exitCode_of_sameEnding {first second : Ending}
    (same : SameEnding first second) : exitCode first = exitCode second := by
  cases same <;> rfl

theorem colors_of_readAlike {fewer more : List String}
    (alike : ReadAlike (Arguments.parse fewer) (Arguments.parse more))
    (surrounding : Surrounding) (delay : Path → Nat) :
    colors surrounding fewer =
      colors { surrounding with delay := delay } more := by
  unfold colors
  generalize Arguments.parse fewer = first at alike
  generalize Arguments.parse more = second at alike
  cases alike with
  | read alike =>
      simp only [usesColor, Arguments.colorMode, alike.color_eq]
  | interrupted cause => rfl
  | overtaken unrecognised recognised => rfl

theorem execute_of_readAlike {surrounding : Surrounding}
    (byLast : DependsOnLast surrounding.launch) (delay : Path → Nat)
    {fewer more : List String}
    (alike : ReadAlike (Arguments.parse fewer) (Arguments.parse more)) :
    SameReport (colors surrounding fewer) (execute surrounding fewer)
      (execute { surrounding with delay := delay } more) := by
  unfold execute colors
  generalize Arguments.parse fewer = first at alike
  generalize Arguments.parse more = second at alike
  cases alike with
  | read alike => exact perform_of_alike alike byLast delay
  | interrupted cause =>
      cases cause <;> exact sameReport_of_silent _ (.same _) rfl
  | overtaken unrecognised recognised =>
      exact sameReport_of_silent _ (.overtaken unrecognised recognised) rfl

/-- With a linter whose replies depend on the path alone, more options that are
passed on change neither the exit code nor the summary nor the blocks before
it, but for their order, and a failure stays one of its kind.  A command line
that is refused stays refused, and the complaint is the same unless it is about
an argument that is not recognised. -/
theorem execute_of_adds (surrounding : Surrounding)
    (byLast : DependsOnLast surrounding.launch) (delay : Path → Nat)
    {fewer more : List String} (adds : Adds none fewer more) :
    let other : Surrounding := { surrounding with delay := delay }
    let first := execute surrounding fewer
    let second := execute other more
    let color := colors surrounding fewer
    exitCode first.ending = exitCode second.ending ∧
    SameEnding first.ending second.ending ∧
    ((∀ cause, first.ending ≠ .fatal cause) →
      ∃ firstBlocks secondBlocks,
        first.blocks = firstBlocks ++ first.ending.summaryBlocks color ∧
        second.blocks = secondBlocks ++ first.ending.summaryBlocks color ∧
        firstBlocks.Perm secondBlocks) ∧
    (first.ending = second.ending →
      ∃ lines, printed surrounding fewer = first.blocks.flatten ++ lines ∧
        printed other more = second.blocks.flatten ++ lines) := by
  intro other first second color
  have alike := Arguments.parse_of_adds adds
  have report := execute_of_readAlike byLast delay alike
  refine ⟨exitCode_of_sameEnding report.ending, report.ending, report.blocks,
    fun sameEnding => ⟨_, rfl, ?_⟩⟩
  have sameColor : color = colors other more :=
    colors_of_readAlike alike surrounding delay
  change second.blocks.flatten ++ endingBlock (colors other more)
    surrounding.environmentEngine second.ending = _
  rw [← sameColor, ← sameEnding]
  rfl

/-- A name behind the letter of a flag, an argument of the linter that looks
like an option of the program, and another file that settles first. -/
theorem execute_of_adds_like_options :
    let tree := (FileTree.empty.putFile "a.md" ByteArray.empty).putFile
      "b.md" ByteArray.empty
    let behaviour : Behaviour := fun _ arguments =>
      { output :=
          if arguments.getLast? = some (Path.ofText "a.md") then
            ("\x7b\"diagnostics\":[\x7b\"location\":\x7b\"line\":1," ++
              "\"col\":1\x7d,\"message\":\"x\"\x7d]\x7d").toUTF8
          else "\x7b\"diagnostics\":[]\x7d".toUTF8
        errors := ByteArray.empty
        status := .exited 0 }
    let surrounding : Surrounding :=
      { tree := tree
        input := ByteArray.empty
        environmentEngine := none
        launch := launchIn tree ["liquid-linter"] behaviour }
    let delay : Path → Nat := fun path =>
      if path = Path.ofText "a.md" then 3 else 0
    let fewer := ["-v", "-j2", "a.md", "b.md"]
    let more := ["-vbcard", "--engine-arg", "--jobs", "-j2", "a.md",
      "--custom-tag=--", "b.md"]
    exitCode (execute surrounding fewer).ending = 67 ∧
      exitCode (execute { surrounding with delay := delay } more).ending =
        67 := by
  intro tree behaviour surrounding delay fewer more
  have byLast : DependsOnLast surrounding.launch := by
    refine dependsOnLast_launchIn tree _ fun program left right sameLast => ?_
    simp only [behaviour, sameLast]
  have tag : Spelling .customTag "--" ["--custom-tag=--"] := .attached
  have argument : Spelling .engineArgument "--jobs"
      ["--engine-arg", "--jobs"] := .apart rfl
  have block : LetterForm .customBlock "card" ['b', 'c', 'a', 'r', 'd'] [] :=
    .attached rfl rfl
  have behindTag := Adds.option rfl (by decide) tag (by simp [Unclaimed])
    (by simp [Unclaimed]) (.refl none ["b.md"])
  have fileWord : awaitedAfter "a.md" = none := by decide +kernel
  have jobsWord : awaitedAfter "-j2" = none := by decide +kernel
  have behindArgument : Adds none ["-j2", "a.md", "b.md"]
      ["-j2", "a.md", "--custom-tag=--", "b.md"] := by
    refine .argument (by simp [Unclaimed]) (by decide) ?_
    rw [jobsWord]
    refine .argument (by simp [Unclaimed]) (by decide) ?_
    rw [fileWord]
    exact behindTag
  have behindFlag := Adds.option rfl (by decide) argument
    (by simp [Unclaimed]) (by simp [Unclaimed]) behindArgument
  have flags : ∀ letter ∈ ['v'], IsFlagLetter letter := by
    simpa [IsFlagLetter] using ⟨.verbose, rfl⟩
  have adds : Adds none fewer more :=
    Adds.letters (List.cons_ne_nil _ _) flags rfl (by decide) block
      (by simp [Unclaimed]) behindFlag
  have first : exitCode (execute surrounding fewer).ending = 67 := by
    decide +kernel
  obtain ⟨sameCode, _⟩ := execute_of_adds surrounding byLast delay adds
  exact ⟨first, sameCode.symm.trans first⟩

/-- An option with a refused value is only settled by the next argument that is
recognised, so a further option decides which of two faults is reported. -/
theorem printed_of_adds_overtaken :
    let surrounding := Surrounding.isolated ByteArray.empty none false
    let fewer := ["--jobs", "0", "--nope"]
    let more := ["--jobs", "0", "-b", "x", "--nope"]
    DependsOnLast surrounding.launch ∧ Adds none fewer more ∧
    (∀ cause, (execute surrounding fewer).ending ≠ .fatal cause) ∧
    printed surrounding fewer =
      [⟨.errors, "error: unexpected argument '--nope' found"⟩] ∧
    printed surrounding more =
      [⟨.errors, "error: invalid value '0' for '--jobs <N>': " ++
        "0 is not in 1..18446744073709551615"⟩] ∧
    ¬(printed surrounding fewer).Perm (printed surrounding more) := by
  intro surrounding fewer more
  have block : LetterForm .customBlock "x" ['b'] ["x"] := .apart rfl rfl
  have spelled : Spelling .customBlock "x" ["-b", "x"] := .letters block
  have awaits : awaitedAfter "--jobs" = some .jobs := by decide +kernel
  have adds : Adds none fewer more := by
    refine .argument (by simp [Unclaimed]) (by decide) ?_
    rw [awaits]
    refine .value (by decide) ?_
    have behind := Adds.option rfl (by decide) spelled (by simp [Unclaimed])
      (by simp [Unclaimed]) (.refl none ["--nope"])
    exact behind
  have firstPrinted : printed surrounding fewer =
      [⟨.errors, "error: unexpected argument '--nope' found"⟩] := by
    decide +kernel
  have secondPrinted : printed surrounding more =
      [⟨.errors, "error: invalid value '0' for '--jobs <N>': " ++
        "0 is not in 1..18446744073709551615"⟩] := by
    decide +kernel
  refine ⟨fun _ _ _ _ _ => rfl, adds, ?_, firstPrinted, secondPrinted, ?_⟩
  · intro cause ending
    have silent : complaint? (execute surrounding fewer).ending = none := by
      decide +kernel
    rw [ending] at silent
    cases silent
  · rw [firstPrinted, secondPrinted]
    decide +kernel

end Program

end TemplateLint
