/-!
# Options of the command line

The options that take a value, the flags that take none, and how each of them
is named.
-/

namespace TemplateLint.CommandLine

/-- When output is colored. -/
inductive ColorMode where
  | auto
  | always
  | never
  deriving DecidableEq, Repr

namespace ColorMode

def name : ColorMode → String
  | .auto => "auto"
  | .always => "always"
  | .never => "never"

/-- The mode of a name. -/
def ofName? (name : String) : Option ColorMode :=
  [auto, always, never].find? (fun mode => mode.name == name)

/-- Whether output is colored.  Without being asked for, only a terminal
gets colors. -/
def usesColor (terminal : Bool) : ColorMode → Bool
  | .auto => terminal
  | .always => true
  | .never => false

@[simp]
theorem ofName?_name (mode : ColorMode) : ofName? mode.name = some mode := by
  cases mode <;> simp [ofName?, name]

end ColorMode

/-- Colors are shown: both streams go to a terminal, and it is not a dumb
one. -/
def showsColors (terminalName : Option String)
    (outputTerminal errorsTerminal : Bool) : Bool :=
  terminalName != some "dumb" && outputTerminal && errorsTerminal

/-- The options that take a value. -/
inductive ValueOption where
  | customBlock
  | customTag
  | config
  | engine
  | engineArgument
  | jobs
  | color
  deriving DecidableEq, Repr

/-- The flags. -/
inductive Flag where
  | verbose
  | help
  | version
  deriving DecidableEq, Repr

/-- What can be named behind one or two hyphens. -/
inductive Switch where
  | value (named : ValueOption)
  | flag (named : Flag)
  deriving DecidableEq, Repr

namespace ValueOption

/-- The name behind two hyphens. -/
def longName : ValueOption → String
  | .customBlock => "custom-block"
  | .customTag => "custom-tag"
  | .config => "config"
  | .engine => "engine"
  | .engineArgument => "engine-arg"
  | .jobs => "jobs"
  | .color => "color"

/-- The word for the value. -/
def placeholder : ValueOption → String
  | .customBlock => "NAME"
  | .customTag => "NAME"
  | .config => "CONFIG"
  | .engine => "PROGRAM"
  | .engineArgument => "ARG"
  | .jobs => "N"
  | .color => "COLOR"

/-- The option as messages show it. -/
def display (option : ValueOption) : String :=
  "--" ++ option.longName ++ " <" ++ option.placeholder ++ ">"

/-- The option takes the argument behind it whatever it looks like. -/
def takesAnything : ValueOption → Bool
  | .engineArgument => true
  | _ => false

end ValueOption

namespace Flag

/-- The name behind two hyphens. -/
def longName : Flag → String
  | .verbose => "verbose"
  | .help => "help"
  | .version => "version"

def display (flag : Flag) : String := "--" ++ flag.longName

end Flag

namespace Switch

def longName : Switch → String
  | .value named => named.longName
  | .flag named => named.longName

def display : Switch → String
  | .value named => named.display
  | .flag named => named.display

/-- All options and flags. -/
def all : List Switch :=
  [.value .customBlock, .value .customTag, .value .config, .value .engine,
    .value .engineArgument, .value .jobs, .value .color, .flag .verbose,
    .flag .help, .flag .version]

/-- What a name behind two hyphens stands for.  Names are not shortened. -/
def ofLong? (name : String) : Option Switch :=
  all.find? (fun switch => switch.longName == name)

/-- What a letter behind one hyphen stands for. -/
def ofShort? : Char → Option Switch
  | 'b' => some (.value .customBlock)
  | 't' => some (.value .customTag)
  | 'c' => some (.value .config)
  | 'j' => some (.value .jobs)
  | 'v' => some (.flag .verbose)
  | 'h' => some (.flag .help)
  | 'V' => some (.flag .version)
  | _ => none

@[simp]
theorem ofLong?_longName (switch : Switch) :
    ofLong? switch.longName = some switch := by
  rcases switch with named | named
  · cases named <;> simp [ofLong?, all, longName, ValueOption.longName]
  · cases named <;>
      simp [ofLong?, all, longName, ValueOption.longName, Flag.longName]

end Switch

end TemplateLint.CommandLine
