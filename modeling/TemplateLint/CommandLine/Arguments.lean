import TemplateLint.CommandLine.Options

/-!
# Arguments

The arguments of the program are read from left to right.  An option whose
value stands in an argument of its own is only settled when the next option,
flag or path has been recognised; an argument that is not recognised is
reported before that.
-/

namespace TemplateLint.CommandLine

/-- What the program is asked to do. -/
structure Arguments where
  paths : List String := []
  customBlocks : List String := []
  customTags : List String := []
  config : Option String := none
  engine : Option String := none
  engineArguments : List String := []
  jobs : Option UInt64 := none
  color : Option ColorMode := none
  verbose : Bool := false
  deriving DecidableEq, Repr

/-- The mode of coloring, if none was asked for the automatic one. -/
def Arguments.colorMode (arguments : Arguments) : ColorMode :=
  arguments.color.getD .auto

/-- Why a number of jobs is refused. -/
inductive NumberFault where
  | empty
  | invalidDigit
  | tooLarge
  | zero
  deriving DecidableEq, Repr

/-- What can be wrong with arguments. -/
inductive UsageFault where
  | unknownArgument (name : String)
  | missingValue (option : ValueOption)
  | repeated (switch : Switch)
  | unexpectedValue (flag : Flag) (value : String)
  | unknownColor (value : String)
  | invalidJobs (value : String) (fault : NumberFault)
  deriving DecidableEq, Repr

/-- Why the reading of arguments ends early. -/
inductive Interruption where
  | help
  | version
  | fault (fault : UsageFault)
  deriving DecidableEq, Repr

def NumberFault.message : NumberFault → String
  | .empty => "cannot parse integer from empty string"
  | .invalidDigit => "invalid digit found in string"
  | .tooLarge => "number too large to fit in target type"
  | .zero => "0 is not in 1..18446744073709551615"

/-- The message of a fault. -/
def UsageFault.message : UsageFault → String
  | .unknownArgument name => "unexpected argument '" ++ name ++ "' found"
  | .missingValue option =>
      "a value is required for '" ++ option.display ++
        "' but none was supplied"
  | .repeated switch =>
      "the argument '" ++ switch.display ++
        "' cannot be used multiple times"
  | .unexpectedValue flag value =>
      "unexpected value '" ++ value ++ "' for '" ++ flag.display ++
        "' found; no more were expected"
  | .unknownColor value =>
      "invalid value '" ++ value ++ "' for '" ++ ValueOption.color.display ++
        "'"
  | .invalidJobs value fault =>
      "invalid value '" ++ value ++ "' for '" ++ ValueOption.jobs.display ++
        "': " ++ fault.message

/-! ## Values -/

/-- The value of decimal digits in a 64-bit word.  Of two faults the one
further left is reported. -/
def readDigits64 : Nat → List Char → Except NumberFault Nat
  | value, [] => .ok value
  | value, digit :: rest =>
      if '0' ≤ digit ∧ digit ≤ '9' then
        let next := value * 10 + (digit.toNat - 0x30)
        if UInt64.size ≤ next then .error .tooLarge
        else readDigits64 next rest
      else .error .invalidDigit

/-- A number of jobs: decimal digits, with a plus before them or without, that
are not all zero. -/
def readJobs (value : String) : Except NumberFault UInt64 := do
  let digits ←
    match value.toList with
    | [] => .error .empty
    | ['+'] => .error .invalidDigit
    | '+' :: digits => pure digits
    | digits => pure digits
  let number ← readDigits64 0 digits
  if number = 0 then .error .zero else return UInt64.ofNat number

/-- Give an option its value. -/
def Arguments.assign (arguments : Arguments) (option : ValueOption)
    (value : String) : Except Interruption Arguments :=
  match option with
  | .customBlock =>
      .ok { arguments with
        customBlocks := arguments.customBlocks ++ [value] }
  | .customTag =>
      .ok { arguments with customTags := arguments.customTags ++ [value] }
  | .engineArgument =>
      .ok { arguments with
        engineArguments := arguments.engineArguments ++ [value] }
  | .config =>
      if arguments.config.isSome then
        .error (.fault (.repeated (.value .config)))
      else if value.isEmpty then .error (.fault (.missingValue .config))
      else .ok { arguments with config := some value }
  | .engine =>
      if arguments.engine.isSome then
        .error (.fault (.repeated (.value .engine)))
      else .ok { arguments with engine := some value }
  | .jobs =>
      if arguments.jobs.isSome then
        .error (.fault (.repeated (.value .jobs)))
      else
        match readJobs value with
        | .ok jobs => .ok { arguments with jobs := some jobs }
        | .error fault => .error (.fault (.invalidJobs value fault))
  | .color =>
      if arguments.color.isSome then
        .error (.fault (.repeated (.value .color)))
      else
        match ColorMode.ofName? value with
        | some mode => .ok { arguments with color := some mode }
        | none =>
            if value.isEmpty then .error (.fault (.missingValue .color))
            else .error (.fault (.unknownColor value))

/-! ## Reading -/

/-- An option that has been named but not settled, and its value if that has
been read. -/
structure Pending where
  option : ValueOption
  value : Option String
  deriving DecidableEq, Repr

/-- How far the arguments have been read. -/
structure Progress where
  arguments : Arguments := {}
  pending : Option Pending := none
  deriving DecidableEq, Repr

namespace Progress

/-- Settle the pending option. -/
def settle (progress : Progress) : Except Interruption Progress :=
  match progress.pending with
  | none => .ok progress
  | some ⟨option, none⟩ => .error (.fault (.missingValue option))
  | some ⟨option, some value⟩ => do
      let arguments ← progress.arguments.assign option value
      return ⟨arguments, none⟩

/-- Read a path. -/
def addPath (progress : Progress) (path : String) :
    Except Interruption Progress := do
  let progress ← progress.settle
  let paths := progress.arguments.paths ++ [path]
  return { progress with arguments := { progress.arguments with paths } }

/-- Read a flag. -/
def addFlag (progress : Progress) (flag : Flag) :
    Except Interruption Progress := do
  let progress ← progress.settle
  match flag with
  | .help => .error .help
  | .version => .error .version
  | .verbose =>
      if progress.arguments.verbose then
        .error (.fault (.repeated (.flag .verbose)))
      else
        return { progress with
          arguments := { progress.arguments with verbose := true } }

/-- Read an option with the value that is attached to it, if one is. -/
def addOption (progress : Progress) (option : ValueOption)
    (attached : Option String) : Except Interruption Progress := do
  let progress ← progress.settle
  match attached with
  | none => return { progress with pending := some ⟨option, none⟩ }
  | some value => do
      let arguments ← progress.arguments.assign option value
      return ⟨arguments, none⟩

/-- Read a name behind two hyphens, with its value if it has one. -/
def addLong (progress : Progress) (text : List Char) :
    Except Interruption Progress :=
  let name := String.ofList (text.takeWhile (· ≠ '='))
  let attached :=
    match text.dropWhile (· ≠ '=') with
    | [] => none
    | _ :: value => some (String.ofList value)
  match Switch.ofLong? name, attached with
  | none, _ => .error (.fault (.unknownArgument ("--" ++ name)))
  | some (.value option), attached => progress.addOption option attached
  | some (.flag flag), some value =>
      .error (.fault (.unexpectedValue flag value))
  | some (.flag flag), none => progress.addFlag flag

/-- The value attached to a letter: what follows it, without an equals sign in
front. -/
def attachedValue : List Char → Option String
  | [] => none
  | '=' :: value => some (String.ofList value)
  | value => some (String.ofList value)

/-- Read the letters behind one hyphen. -/
def addShort (progress : Progress) : List Char →
    Except Interruption Progress
  | [] => .ok progress
  | letter :: rest =>
      match Switch.ofShort? letter with
      | none =>
          .error (.fault (.unknownArgument (String.ofList ['-', letter])))
      | some (.flag flag) => do
          let progress ← progress.addFlag flag
          progress.addShort rest
      | some (.value option) =>
          progress.addOption option (attachedValue rest)

/-- Read an argument that is not taken as a value. -/
def addArgument (progress : Progress) (argument : String) :
    Except Interruption Progress :=
  match argument.toList with
  | '-' :: '-' :: text => progress.addLong text
  | '-' :: letter :: letters => progress.addShort (letter :: letters)
  | _ => progress.addPath argument

/-- The argument looks like an option: a hyphen with something behind it. -/
def looksLikeOption (argument : String) : Bool :=
  match argument.toList with
  | '-' :: _ :: _ => true
  | _ => false

/-- The option that awaits a value and takes this argument for it. -/
def awaiting? (progress : Progress) (argument : String) :
    Option ValueOption :=
  match progress.pending with
  | some ⟨option, none⟩ =>
      if option.takesAnything || !looksLikeOption argument then some option
      else none
  | _ => none

/-- Read all arguments behind the one that ends the options. -/
def readPathsOnly (progress : Progress) : List String →
    Except Interruption Progress
  | [] => .ok progress
  | argument :: rest => do
      let progress ← progress.addPath argument
      progress.readPathsOnly rest

/-- Read all arguments. -/
def readAll (progress : Progress) : List String →
    Except Interruption Progress
  | [] => .ok progress
  | argument :: rest =>
      match progress.awaiting? argument with
      | some option =>
          readAll { progress with pending := some ⟨option, some argument⟩ }
            rest
      | none =>
          if argument = "--" then progress.readPathsOnly rest
          else do
            let progress ← progress.addArgument argument
            progress.readAll rest

end Progress

/-- The meaning of the arguments of the program. -/
def Arguments.parse (arguments : List String) :
    Except Interruption Arguments := do
  let progress ← Progress.readAll {} arguments
  let progress ← progress.settle
  return progress.arguments

@[simp]
theorem Arguments.parse_nil : Arguments.parse [] = .ok {} := rfl

end TemplateLint.CommandLine
