import TemplateLint.Json.Value
import TemplateLint.Linter.Options
import TemplateLint.Path

/-!
# Configuration

What a run can be configured with, and the compact JSON text of it.
-/

namespace TemplateLint

open Json

/-- The program that is run if nothing else is asked for. -/
def defaultCommand : String := "liquid-linter"

/-- A configuration.  The base directory is that of the file it comes from. -/
structure Configuration where
  command : String := defaultCommand
  arguments : List String := []
  customBlocks : List String := []
  customTags : List String := []
  jobs : Option UInt64 := none
  baseDirectory : Option Path := none
  deriving DecidableEq, Repr

namespace Configuration

/-- The names for the linter. -/
def options (configuration : Configuration) : Linter.Options :=
  ⟨configuration.customBlocks, configuration.customTags⟩

/-- The program to run.  A relative command of more than one component is
read from the base directory; any other is left as it is. -/
def program (configuration : Configuration) : Path :=
  match configuration.baseDirectory with
  | some base =>
      if !Path.isAbsolute configuration.command &&
          1 < Path.componentCount configuration.command then
        Path.join base configuration.command
      else configuration.command
  | none => configuration.command

/-- The compact JSON text of a list of texts. -/
def compactTexts (texts : List String) : List Char :=
  compactItems (texts.map Value.text)

/-- The compact JSON text of a configuration.  The base directory is not part
of it. -/
def compact (configuration : Configuration) : List Char :=
  '\x7b' ::
    (quote "engine" ++ ':' :: '\x7b' :: quote "command" ++
      ':' :: quote configuration.command ++
      ',' :: quote "args" ++
      ':' :: '[' :: compactTexts configuration.arguments ++
      ']' :: '\x7d' :: ',' :: quote "custom_blocks" ++
      ':' :: '[' :: compactTexts configuration.customBlocks ++
      ']' :: ',' :: quote "custom_tags" ++
      ':' :: '[' :: compactTexts configuration.customTags ++
      ']' ::
        ((match configuration.jobs with
          | none => []
          | some jobs =>
              ',' :: (quote "jobs" ++ ':' :: integerText jobs.toNat)) ++
          ['\x7d']))

def render (configuration : Configuration) : String :=
  String.ofList configuration.compact

@[simp]
theorem program_of_no_base {configuration : Configuration}
    (noBase : configuration.baseDirectory = none) :
    configuration.program = configuration.command := by
  simp [program, noBase]

end Configuration

end TemplateLint
