import TemplateLint.Proofs.Program.ExitStatus

/-!
# How the linter is started

For every file the program starts the linter with the arguments of the
configuration, then those of the command line, then the custom names, and the
path last.  No text is changed on the way, and the custom names can be read
back from their arguments, whatever they look like.
-/

namespace TemplateLint.Linter

/-! ## Reading names back -/

/-- The names behind an option that is repeated at the front of some
arguments, and the arguments after them. -/
def namesBehind (option : String) : List String → List String × List String
  | first :: name :: rest =>
      if first = option then
        (name :: (namesBehind option rest).1, (namesBehind option rest).2)
      else ([], first :: name :: rest)
  | rest => ([], rest)

/-- The options that some arguments stand for. -/
def Options.ofArguments (arguments : List String) : Options :=
  let (blocks, rest) := namesBehind "--custom-block" arguments
  ⟨blocks, (namesBehind "--custom-tag" rest).1⟩

theorem namesBehind_of_head? {option : String} {rest : List String}
    (other : rest.head? ≠ some option) :
    namesBehind option rest = ([], rest) := by
  unfold namesBehind
  split
  · next first name others =>
      rw [if_neg fun same => other (congrArg some same)]
  · rfl

/-- An option ends where the next argument in its place is not the option; a
name in between may well be. -/
theorem namesBehind_append {option : String} (names : List String)
    {rest : List String} (other : rest.head? ≠ some option) :
    namesBehind option
        (names.flatMap (fun name => [option, name]) ++ rest) =
      (names, rest) := by
  induction names with
  | nil => exact namesBehind_of_head? other
  | cons name names inductionHypothesis =>
      rw [List.flatMap_cons, List.append_assoc, List.cons_append,
        List.cons_append, List.nil_append, namesBehind, if_pos rfl,
        inductionHypothesis]

/-- The custom names are what was written, in order. -/
@[simp]
theorem Options.ofArguments_toArguments (options : Options) :
    Options.ofArguments options.toArguments = options := by
  have tagsFollow :
      (options.customTags.flatMap
        fun name => ["--custom-tag", name]).head? ≠
          some "--custom-block" := by
    cases options.customTags with
    | nil => simp
    | cons name names => simp
  have tags := namesBehind_append options.customTags
    (show ([] : List String).head? ≠ some "--custom-tag" by simp)
  rw [List.append_nil] at tags
  rw [Options.ofArguments, Options.toArguments,
    namesBehind_append options.customBlocks tagsFollow]
  simp only [tags]

theorem Options.toArguments_injective :
    Function.Injective Options.toArguments := by
  intro left right sameArguments
  have sameOptions := congrArg Options.ofArguments sameArguments
  rwa [Options.ofArguments_toArguments, Options.ofArguments_toArguments]
    at sameOptions

end TemplateLint.Linter

namespace TemplateLint.Program

open CommandLine Dispatch

/-! ## Invocations -/

/-- A program and the arguments that it is started with. -/
structure Invocation where
  program : Path
  arguments : List Path
  deriving DecidableEq, Repr

/-- How the linter is to be started for a path.  The command line comes before
the environment and that before the configuration when the program is chosen,
and behind the configuration in every list of arguments. -/
def invocationFor (arguments : Arguments)
    (environmentEngine : Option String) (configuration : Configuration)
    (path : Path) : Invocation where
  program :=
    match arguments.engine, environmentEngine with
    | some program, _ => Path.ofText program
    | none, some program => Path.ofText program
    | none, none => configuration.program
  arguments :=
    (configuration.arguments ++ arguments.engineArguments ++
      configuration.customBlocks.flatMap
        (fun name => ["--custom-block", name]) ++
      arguments.customBlocks.flatMap
        (fun name => ["--custom-block", name]) ++
      configuration.customTags.flatMap
        (fun name => ["--custom-tag", name]) ++
      arguments.customTags.flatMap
        (fun name => ["--custom-tag", name])).map Path.ofText ++
      [path]

/-- The reply for a path when the linter is started in some way. -/
def replyTo (launch : Linter.Launcher) (invocation : Invocation) : Reply :=
  match launch invocation.program invocation.arguments with
  | .error fault =>
      .failed (.notStarted invocation.program.shown fault.message)
  | .ok result =>
      match result.interpret with
      | .ok found => .diagnostics found
      | .error failure => .failed failure

section

variable (surrounding : Surrounding) (arguments : Arguments)
  (configuration : Configuration)

theorem command_invocation (path : Path) :
    let linter := command arguments surrounding.environmentEngine
      (extend arguments configuration)
    Invocation.mk linter.program (linter.argumentsFor path) =
      invocationFor arguments surrounding.environmentEngine configuration
        path := by
  have programs :
      (command arguments surrounding.environmentEngine
        (extend arguments configuration)).program =
      (invocationFor arguments surrounding.environmentEngine configuration
        path).program := by
    unfold command invocationFor
    cases arguments.engine with
    | some program => rfl
    | none => cases surrounding.environmentEngine <;> rfl
  have texts :
      (command arguments surrounding.environmentEngine
        (extend arguments configuration)).argumentsFor path =
      (invocationFor arguments surrounding.environmentEngine configuration
        path).arguments := by
    simp [command, extend, invocationFor, Linter.Command.argumentsFor,
      Configuration.options, Linter.Options.toArguments]
  simp only [programs, texts]

/-- The linter is asked about a path by starting it. -/
theorem linterReplies_eq (path : Path) :
    linterReplies surrounding arguments configuration path =
      ⟨surrounding.delay path,
        replyTo surrounding.launch
          (invocationFor arguments surrounding.environmentEngine
            configuration path)⟩ := by
  rw [← command_invocation]
  unfold linterReplies engineOf Linter.Command.lint replyTo
  dsimp only
  cases surrounding.launch _ _ with
  | error fault => rfl
  | ok result =>
      cases interpreted : result.interpret with
      | ok found => simp only [interpreted]
      | error failure => simp only [interpreted]

end

/-- Whenever there are paths to lint, the run asks about every file by starting
the linter as it is to be started: the program that is asked for, with the
arguments of the configuration and of the command line, the custom names and
the path.  Every text is passed on as its bytes, and the custom names can be
told from their part of the arguments. -/
theorem run_by_invocations (surrounding : Surrounding)
    {texts : List String} {arguments : Arguments}
    (accepted : Arguments.parse texts = .ok arguments)
    {configuration : Configuration}
    (configured : baseConfiguration surrounding.tree arguments =
      .ok configuration) :
    let invocation := invocationFor arguments surrounding.environmentEngine
      configuration
    (∀ piped, readPaths surrounding.input = some piped →
      effectivePaths arguments piped ≠ [] →
      let result :=
        run { color := usesColor surrounding arguments
              jobs := arguments.jobs.or configuration.jobs }
          surrounding.tree
          (fun path =>
            ⟨surrounding.delay path,
              replyTo surrounding.launch (invocation path)⟩)
          (effectivePaths arguments piped)
      execute surrounding texts =
        { blocks := result.blocks
          calls := result.calls
          ending := endingOf result.ending }) ∧
    ((∀ piped, readPaths surrounding.input = some piped →
        effectivePaths arguments piped = []) →
      (execute surrounding texts).calls = []) ∧
    (∀ path, (invocation path).arguments =
      (configuration.arguments ++ arguments.engineArguments ++
        Linter.Options.toArguments
          ⟨configuration.customBlocks ++ arguments.customBlocks,
            configuration.customTags ++ arguments.customTags⟩).map
        Path.ofText ++ [path]) ∧
    Function.Injective Linter.Options.toArguments ∧
    Function.Injective Path.ofText := by
  intro invocation
  refine ⟨?_, ?_, ?_, Linter.Options.toArguments_injective,
    fun _ _ => Path.ofText_injective⟩
  · intro piped readable somePath
    have replies := funext (linterReplies_eq surrounding arguments
      configuration)
    rw [execute_of_accepted accepted,
      perform_of_configuration readable somePath configured, ← replies]
    rfl
  · intro noPath
    rw [execute_of_accepted accepted]
    cases readable : readPaths surrounding.input with
    | none => simp [perform, readable]
    | some piped => rw [perform_of_noPath readable (noPath piped readable)]
  · intro path
    simp [invocation, invocationFor, Linter.Options.toArguments]

/-- A custom block that is named like an option, and a command that is read
from the directory of the configuration. -/
theorem run_by_invocations_named_like_option :
    let surrounding : Surrounding :=
      { tree := (FileTree.empty.putFile "a.md" ByteArray.empty).putFile
          ".liquidlint.json"
          ("\x7b\"engine\":\x7b\"command\":\"bin/lint\",\"args\":[\"-q\"]\x7d," ++
            "\"custom_blocks\":[\"card\"]\x7d").toUTF8
        input := ByteArray.empty
        environmentEngine := none
        launch := fun _ _ => .error .notFound }
    let texts := ["--custom-block=--custom-tag", "-t", "button",
      "--engine-arg", "--strict", "a.md"]
    ∃ invocation : Path → Invocation,
      invocation "a.md" =
        ⟨Path.ofText "./bin/lint",
          ["-q", "--strict", "--custom-block", "card", "--custom-block",
            "--custom-tag", "--custom-tag", "button", "a.md"].map
            Path.ofText⟩ ∧
      (execute surrounding texts).calls =
        (run {} surrounding.tree
          (fun path => ⟨0, replyTo surrounding.launch (invocation path)⟩)
          ["a.md"]).calls := by
  intro surrounding texts
  let arguments : Arguments :=
    { paths := ["a.md"]
      customBlocks := ["--custom-tag"]
      customTags := ["button"]
      engineArguments := ["--strict"] }
  let configuration : Configuration :=
    { command := "bin/lint"
      arguments := ["-q"]
      customBlocks := ["card"]
      baseDirectory := some "." }
  have accepted : Arguments.parse texts = .ok arguments := by
    rfl
  have loaded :
      (baseConfiguration surrounding.tree arguments).toOption =
        some configuration := by
    decide +kernel
  have configured :
      baseConfiguration surrounding.tree arguments = .ok configuration := by
    cases found : baseConfiguration surrounding.tree arguments with
    | error fault => simp [found, Except.toOption] at loaded
    | ok other => simpa [found, Except.toOption] using loaded
  have nonePiped : readPaths surrounding.input = some [] := by
    decide +kernel
  obtain ⟨byRun, _⟩ := run_by_invocations surrounding accepted configured
  refine
    ⟨invocationFor arguments none configuration, by decide +kernel, ?_⟩
  exact congrArg Execution.calls
    (byRun [] nonePiped (List.cons_ne_nil "a.md" []))

end TemplateLint.Program
