import TemplateLint.FileTree.Lookup
import TemplateLint.Linter.Process

/-!
# Starting programs

Which program a name stands for.  A name with a slash is a path from the
working directory; any other is one of the programs that can be found by
name.
-/

namespace TemplateLint.Linter

/-- What every program that can be run does with its own name and its
arguments. -/
abbrev Behaviour := Path → List Path → ProcessResult

/-- The fault of a program whose path leads nowhere. -/
def faultOfLookup : LookupFault → LaunchFault
  | .notFound => .notFound
  | .permissionDenied => .permissionDenied
  | .notDirectory => .notDirectory
  | .nameTooLong => .nameTooLong
  | .tooManyLinks => .tooManyLinks
  | .nulCharacter => .nulCharacter

/-- Why a name stands for no program that can be run; nothing if it stands
for one.  One dot and two dots stand for directories wherever programs are
looked for. -/
def programFault? (tree : FileTree) (installed : List Path)
    (program : Path) : Option LaunchFault :=
  if Path.slash ∈ program then
    match tree.lookup program with
    | .error fault => some (faultOfLookup fault)
    | .ok (.file _ mode) =>
        if mode.regular && mode.runnable then none
        else some .permissionDenied
    | .ok _ => some .permissionDenied
  else if program ∈ installed then none
  else if program = [Path.point] ∨ program = Path.upwards then
    some .permissionDenied
  else if longestName < program.length then some .nameTooLong
  else some .notFound

/-- The bytes hold the one that ends texts in system calls. -/
def holdsNul (text : Path) : Bool :=
  0 ∈ text

/-- Run programs of a working directory and programs found by name. -/
def launchIn (tree : FileTree) (installed : List Path)
    (behaviour : Behaviour) : Launcher := fun program arguments =>
  if holdsNul program || arguments.any holdsNul then .error .nulCharacter
  else
    match programFault? tree installed program with
    | some fault => .error fault
    | none => .ok (behaviour program arguments)

end TemplateLint.Linter
