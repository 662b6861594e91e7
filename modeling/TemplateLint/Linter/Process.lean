import TemplateLint.Linter.Options
import TemplateLint.Path
import TemplateLint.Response

/-!
# Running the linter

The linter is a program that is run once per file.  What it writes to its
standard output decides; its status and its standard error only serve to
explain an output that is no response.
-/

namespace TemplateLint.Linter

/-- How a process ended. -/
inductive ProcessStatus where
  | exited (code : Nat)
  | killed (signal : Nat) (coreDumped : Bool := false)
  deriving DecidableEq, Repr

/-- What a process left behind. -/
structure ProcessResult where
  output : ByteArray
  errors : ByteArray
  status : ProcessStatus

/-- Why a program could not be started. -/
inductive LaunchFault where
  | notFound
  | permissionDenied
  | notDirectory
  | nameTooLong
  | tooManyLinks
  | nulCharacter
  /-- Any other fault, such as too many arguments or a file that is no program,
  with the message of the system. -/
  | other (message : String)
  deriving DecidableEq, Repr

/-- What running a program with some arguments comes to. -/
abbrev Launcher := Path → List Path → Except LaunchFault ProcessResult

/-- The names of the signals, the first signal first. -/
def signalNames : List String :=
  ["SIGHUP", "SIGINT", "SIGQUIT", "SIGILL", "SIGTRAP", "SIGABRT", "SIGBUS",
    "SIGFPE", "SIGKILL", "SIGUSR1", "SIGSEGV", "SIGUSR2", "SIGPIPE",
    "SIGALRM", "SIGTERM", "SIGSTKFLT", "SIGCHLD", "SIGCONT", "SIGSTOP",
    "SIGTSTP", "SIGTTIN", "SIGTTOU", "SIGURG", "SIGXCPU", "SIGXFSZ",
    "SIGVTALRM", "SIGPROF", "SIGWINCH", "SIGIO", "SIGPWR", "SIGSYS"]

/-- The name of a signal in parentheses, behind a blank. -/
def signalNote : Nat → String
  | 0 => ""
  | number + 1 =>
      match signalNames[number]? with
      | some name => " (" ++ name ++ ")"
      | none => ""

def ProcessStatus.message : ProcessStatus → String
  | .exited code => "exit status: " ++ toString code
  | .killed signal coreDumped =>
      "signal: " ++ toString signal ++ signalNote signal ++
        if coreDumped then " (core dumped)" else ""

def LaunchFault.message : LaunchFault → String
  | .notFound => "No such file or directory (os error 2)"
  | .permissionDenied => "Permission denied (os error 13)"
  | .notDirectory => "Not a directory (os error 20)"
  | .nameTooLong => "File name too long (os error 36)"
  | .tooManyLinks => "Too many levels of symbolic links (os error 40)"
  | .nulCharacter => "nul byte found in provided data"
  | .other message => message

/-- What a process that has ended says about its file. -/
def ProcessResult.interpret (result : ProcessResult) :
    Except LintFailure (List Diagnostic) :=
  match Response.parse (Text.decodeLenient result.output) with
  | .ok response => response.toResult
  | .error fault =>
      let explanation :=
        (Text.firstFilledLine (Text.decodeLenient result.errors)).getD
          fault.message
      .error (.invalidResponse result.status.message explanation)

/-- The linter as it is run for every file. -/
structure Command where
  program : Path
  arguments : List String := []
  options : Options := {}
  deriving DecidableEq, Repr

namespace Command

/-- The arguments for one file; its path is the last. -/
def argumentsFor (command : Command) (path : Path) : List Path :=
  (command.arguments ++ command.options.toArguments).map Path.ofText ++ [path]

/-- Run the linter on a file. -/
def lint (command : Command) (launch : Launcher) (path : Path) :
    Except LintFailure (List Diagnostic) :=
  match launch command.program (command.argumentsFor path) with
  | .error fault => .error (.notStarted command.program.shown fault.message)
  | .ok result => result.interpret

@[simp]
theorem argumentsFor_getLast? (command : Command) (path : Path) :
    (command.argumentsFor path).getLast? = some path := by
  simp [argumentsFor]

end Command

end TemplateLint.Linter
