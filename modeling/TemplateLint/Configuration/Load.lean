import TemplateLint.Configuration.Basic
import TemplateLint.Configuration.Schema
import TemplateLint.FileTree.Lookup
import TemplateLint.Jsonc.Document

/-!
# Loading configurations

A configuration is read from a JSON text with comments, checked against the
schema and then understood.  A text without a value is the configuration that
nothing was asked of.  In a directory the first of two file names is looked
for.
-/

namespace TemplateLint

open Json

/-- Why no configuration could be loaded. -/
inductive ConfigurationFault where
  | unreadable (path : Path) (fault : ReadFault)
  | syntaxFault (text : List Char) (fault : Jsonc.Fault)
  | breach (broken : Breach)
  | unsupportedJobs (value : Number.Binary64)
  deriving Repr

def ConfigurationFault.message : ConfigurationFault → String
  | .unreadable path fault =>
      "Failed to read config " ++ path.shown ++ ": " ++ fault.message
  | .syntaxFault text fault => "Invalid JSON: " ++ fault.message text
  | .breach broken => "Config validation failed: " ++ broken.message
  | .unsupportedJobs value =>
      "Invalid config: invalid type: " ++ (Found.double value).message ++
        ", expected usize"

namespace Configuration

/-! ## Understanding a value -/

/-- The texts of a list. -/
def textsOf : Option Value → List String
  | some (.list items) =>
      items.filterMap fun item =>
        match item with
        | .text value => some value
        | _ => none
  | _ => []

/-- The members of an object. -/
def membersOf : Option Value → List (String × Value)
  | some (.object members) => members
  | _ => []

/-- A text, or what stands for a missing one. -/
def textOr (default : String) : Option Value → String
  | some (.text value) => value
  | _ => default

/-- The number of jobs.  A number that is written as a double is not
accepted. -/
def jobsOf : Option Value → Except ConfigurationFault (Option UInt64)
  | some (.integer value) => .ok (some (UInt64.ofNat value.toNat))
  | some (.double value) => .error (.unsupportedJobs value)
  | _ => .ok none

/-- The configuration that a value without breaches stands for. -/
def ofValue (value : Value) : Except ConfigurationFault Configuration := do
  let members := membersOf (some value)
  let engine := membersOf (NameMap.get? "engine" members)
  let jobs ← jobsOf (NameMap.get? "jobs" members)
  return {
    command := textOr defaultCommand (NameMap.get? "command" engine)
    arguments := textsOf (NameMap.get? "args" engine)
    customBlocks := textsOf (NameMap.get? "custom_blocks" members)
    customTags := textsOf (NameMap.get? "custom_tags" members)
    jobs := jobs }

/-- Read a configuration from a text. -/
def parse (text : String) : Except ConfigurationFault Configuration :=
  match Jsonc.parse text with
  | .error fault => .error (.syntaxFault text.toList fault)
  | .ok parsed =>
      let value := parsed.getD (.object [])
      match value.firstBreach with
      | some broken => .error (.breach broken)
      | none => ofValue value

/-! ## Files -/

/-- The names of configuration files, the preferred one first. -/
def fileNames : List Path := [".liquidlint.jsonc", ".liquidlint.json"]

/-- The configuration file of a directory. -/
def discover (tree : FileTree) (directory : Path) : Option Path :=
  (fileNames.map (Path.join directory)).find? tree.isFile

/-- Load a configuration file.  Its directory becomes the base directory. -/
def load (tree : FileTree) (path : Path) :
    Except ConfigurationFault Configuration :=
  match tree.readText path with
  | .error fault => .error (.unreadable path fault)
  | .ok text =>
      (parse text).map fun configuration =>
        { configuration with
          baseDirectory := (Path.parent? path).or
            configuration.baseDirectory }

/-- Of a value without breaches only the number of jobs can be refused. -/
theorem ofValue_cases (value : Value) :
    (∃ number, ofValue value = .error (.unsupportedJobs number)) ∨
    ∃ configuration, ofValue value = .ok configuration ∧
      configuration.baseDirectory = none := by
  unfold ofValue
  simp only [bind, Except.bind]
  split
  · next fault failed =>
      unfold jobsOf at failed
      split at failed <;> cases failed
      exact .inl ⟨_, rfl⟩
  · exact .inr ⟨_, rfl, rfl⟩

/-- A text is refused for its syntax or for a breach, or else its value is
understood. -/
theorem parse_cases (text : String) :
    (∃ fault, parse text = .error (.syntaxFault text.toList fault)) ∨
    (∃ broken, parse text = .error (.breach broken)) ∨
    ∃ value : Value, parse text = ofValue value := by
  unfold parse
  split
  · exact .inl ⟨_, rfl⟩
  · dsimp only
    split
    · exact .inr (.inl ⟨_, rfl⟩)
    · exact .inr (.inr ⟨_, rfl⟩)

end Configuration

end TemplateLint
