import TemplateLint.CommandLine.Arguments
import TemplateLint.CommandLine.Help
import TemplateLint.CommandLine.PathList
import TemplateLint.Configuration.Load
import TemplateLint.Dispatch.Run
import TemplateLint.Linter.Launch

/-!
# The program

What the program does with its arguments in a given surrounding: which paths
it lints, with which linter, what it prints and with which status it exits.
Piped paths take the place of those among the arguments.
-/

namespace TemplateLint

open CommandLine Dispatch Report

structure Surrounding where
  tree : FileTree
  /-- The bytes of the standard input. -/
  input : ByteArray
  /-- The linter that the environment asks for. -/
  environmentEngine : Option String
  /-- The output goes to a terminal that shows colors. -/
  terminal : Bool := false
  launch : Linter.Launcher
  /-- How long the linter takes for a path. -/
  delay : Path → Nat := fun _ => 0

/-- A surrounding without files, in which no program can be started. -/
def Surrounding.isolated (input : ByteArray)
    (environmentEngine : Option String) (terminal : Bool) : Surrounding where
  tree := FileTree.empty
  input := input
  environmentEngine := environmentEngine
  terminal := terminal
  launch := fun _ _ => .error .notFound

/-- Why the program breaks off. -/
inductive Fatal where
  | unreadableInput
  | configuration (fault : ConfigurationFault)
  | run (failure : RunFailure)

/-- The failure that a report of the cause describes. -/
def Fatal.failure : Fatal → RunFailure
  | .unreadableInput => .io unreadablePaths
  | .configuration fault => .configuration fault.message
  | .run failure => failure

/-- How the program ends. -/
inductive Ending where
  | help
  | version
  | usage (fault : UsageFault)
  | noPath
  | fatal (cause : Fatal)
  | finished (summary : Summary)

/-- What the program has reported, for which paths it has started the linter,
and how it ends. -/
structure Execution where
  blocks : List Block := []
  calls : List Path := []
  ending : Ending

namespace Program

/-! ## What is run -/

/-- The paths to lint: the piped ones, or without any those among the
arguments. -/
def effectivePaths (arguments : Arguments) (piped : List String) :
    List String :=
  if piped.isEmpty then arguments.paths else piped

/-- The configuration file that the arguments name or that is found in the
working directory; without one nothing is configured. -/
def baseConfiguration (tree : FileTree) (arguments : Arguments) :
    Except ConfigurationFault Configuration :=
  match arguments.config with
  | some path => Configuration.load tree path
  | none =>
      match Configuration.discover tree "." with
      | some path => Configuration.load tree path
      | none => .ok {}

/-- What the arguments add to a configuration. -/
def extend (arguments : Arguments) (configuration : Configuration) :
    Configuration :=
  { configuration with
    arguments := configuration.arguments ++ arguments.engineArguments
    customBlocks := configuration.customBlocks ++ arguments.customBlocks
    customTags := configuration.customTags ++ arguments.customTags
    jobs := arguments.jobs.or configuration.jobs }

/-- The linter to run: the one that the arguments name, or else that of the
environment, or else that of the configuration. -/
def command (arguments : Arguments) (environmentEngine : Option String)
    (configuration : Configuration) : Linter.Command where
  program :=
    ((arguments.engine.or environmentEngine).map Path.ofText).getD
      configuration.program
  arguments := configuration.arguments
  options := configuration.options

/-- What the linter answers for each path, and when. -/
def engineOf (command : Linter.Command) (launch : Linter.Launcher)
    (delay : Path → Nat) : Engine := fun path =>
  ⟨delay path,
    match command.lint launch path with
    | .ok diagnostics => .diagnostics diagnostics
    | .error failure => .failed failure⟩

def usesColor (surrounding : Surrounding) (arguments : Arguments) : Bool :=
  arguments.colorMode.usesColor surrounding.terminal

/-- How the program ends with what a run has come to. -/
def endingOf : Except RunFailure Summary → Ending
  | .ok summary => .finished summary
  | .error failure => .fatal (.run failure)

def lintPaths (surrounding : Surrounding) (arguments : Arguments)
    (configuration : Configuration) (paths : List String) : Execution :=
  let result :=
    Dispatch.run
      { color := usesColor surrounding arguments, jobs := configuration.jobs }
      surrounding.tree
      (engineOf
        (command arguments surrounding.environmentEngine configuration)
        surrounding.launch surrounding.delay)
      paths
  { blocks := result.blocks
    calls := result.calls
    ending := endingOf result.ending }

/-- Do what some arguments ask for. -/
def perform (surrounding : Surrounding) (arguments : Arguments) :
    Execution :=
  match readPaths surrounding.input with
  | none => { ending := .fatal .unreadableInput }
  | some piped =>
      let paths := effectivePaths arguments piped
      if paths.isEmpty then { ending := .noPath }
      else
        match baseConfiguration surrounding.tree arguments with
        | .error fault => { ending := .fatal (.configuration fault) }
        | .ok configuration =>
            lintPaths surrounding arguments (extend arguments configuration)
              paths

def execute (surrounding : Surrounding) (arguments : List String) :
    Execution :=
  match Arguments.parse arguments with
  | .ok arguments => perform surrounding arguments
  | .error .help => { ending := .help }
  | .error .version => { ending := .version }
  | .error (.fault fault) => { ending := .usage fault }

/-! ## What is seen of it -/

def exitCode : Ending → Nat
  | .help => 0
  | .version => 0
  | .usage _ => 2
  | .noPath => ExitStatus.noPathGiven.code
  | .fatal _ => 2
  | .finished summary => summary.status.code

/-- The lines that describe how to call the program, under the complaint that
there is no path. -/
def noPathLines (color : Bool) (environmentEngine : Option String) :
    List String :=
  (paint color .red "Error: " ++ paint color .bold " no path given") ::
    (helpLines environmentEngine ++ [""])

/-- The lines that the program prints about its ending. -/
def endingBlock (color : Bool) (environmentEngine : Option String) :
    Ending → Block
  | .help => (helpLines environmentEngine).map (Line.mk .output)
  | .version => [⟨.output, versionLine⟩]
  | .usage fault => [⟨.errors, "error: " ++ fault.message⟩]
  | .noPath =>
      (noPathLines color environmentEngine).map (Line.mk .errors)
  | .fatal _ => []
  | .finished _ => []

/-- The report of a fatal cause. -/
def complaint? : Ending → Option String
  | .fatal cause => some ("Error: " ++ cause.failure.message)
  | _ => none

/-- The input is read: the arguments do not end the program before that. -/
def readsInput (arguments : List String) : Bool :=
  (Arguments.parse arguments).isOk

/-- All lines that the program prints.  The report of a fatal cause is not
among them. -/
def printed (surrounding : Surrounding) (arguments : List String) : Block :=
  let execution := execute surrounding arguments
  let color :=
    match Arguments.parse arguments with
    | .ok parsed => usesColor surrounding parsed
    | .error _ => false
  execution.blocks.flatten ++
    endingBlock color surrounding.environmentEngine execution.ending

@[simp]
theorem effectivePaths_nil (arguments : Arguments) :
    effectivePaths arguments [] = arguments.paths := rfl

theorem effectivePaths_of_ne_nil (arguments : Arguments)
    {piped : List String} (filled : piped ≠ []) :
    effectivePaths arguments piped = piped := by
  simp [effectivePaths, filled]

end Program

end TemplateLint
