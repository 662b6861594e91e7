import TemplateLint.FileTree.Basic

/-!
# Looking up paths

The node that a path leads to.  A path is followed part by part, from the
working directory or, if it is absolute, from the outermost one; links are
followed wherever they stand, up to a bound that also ends circular ones.  A
directory has to be entered for every part that is looked for in it.
-/

namespace TemplateLint

/-- Why a path leads nowhere. -/
inductive LookupFault where
  | notFound
  | permissionDenied
  | notDirectory
  | nameTooLong
  | tooManyLinks
  | nulCharacter
  deriving DecidableEq, Repr

/-- Why a file cannot be read as text. -/
inductive ReadFault where
  | lookup (fault : LookupFault)
  | permissionDenied
  | isDirectory
  | notUtf8
  deriving DecidableEq, Repr

def LookupFault.message : LookupFault → String
  | .notFound => "No such file or directory (os error 2)"
  | .permissionDenied => "Permission denied (os error 13)"
  | .notDirectory => "Not a directory (os error 20)"
  | .nameTooLong => "File name too long (os error 36)"
  | .tooManyLinks => "Too many levels of symbolic links (os error 40)"
  | .nulCharacter => "file name contained an unexpected NUL byte"

def ReadFault.message : ReadFault → String
  | .lookup fault => fault.message
  | .permissionDenied => LookupFault.permissionDenied.message
  | .isDirectory => "Is a directory (os error 21)"
  | .notUtf8 => "stream did not contain valid UTF-8"

/-- The greatest number of bytes of a path. -/
def longestPath : Nat := 4095

/-- The greatest number of links that are followed for one path. -/
def mostLinks : Nat := 40

/-! ## Positions -/

/-- A node and the directories around it, the innermost first. -/
structure Position where
  node : Node
  above : List Node

namespace Position

/-- The directory around a position.  What is outermost has itself around
it. -/
def parent : Position → Position
  | ⟨node, []⟩ => ⟨node, []⟩
  | ⟨_, outer :: above⟩ => ⟨outer, above⟩

/-- The outermost directory. -/
def root (position : Position) : Position :=
  ⟨position.above.getLast?.getD position.node, []⟩

/-- Where a path begins that is read from a position. -/
def origin (position : Position) (path : Path) : Position :=
  if Path.isAbsolute path then position.root else position

end Position

/-- How far a path has been followed: to its end, or to a link in a
directory with more to follow behind it. -/
inductive Progress where
  | arrived (position : Position)
  | atLink (position : Position) (target : Path) (rest : List Path)

namespace Position

/-- Follow parts up to their end or to the first link.  An empty part only
asks for a directory. -/
def advance (position : Position) : List Path → Except LookupFault Progress
  | [] => .ok (.arrived position)
  | part :: rest =>
      match position.node with
      | .directory access entries =>
          if part = [] then position.advance rest
          else if access.entered = false then .error .permissionDenied
          else if Path.isVoid part then position.advance rest
          else if part = Path.upwards then position.parent.advance rest
          else if longestName < part.length then .error .nameTooLong
          else
            match NameMap.get? part entries with
            | none => .error .notFound
            | some (.link target) => .ok (.atLink position target rest)
            | some node => advance ⟨node, position.node :: position.above⟩ rest
      | _ => .error .notDirectory

/-- Follow parts to their end, and not more links than the bound. -/
def follow : Nat → Position → List Path → Except LookupFault Position
  | links, position, parts => do
      match ← position.advance parts with
      | .arrived position => return position
      | .atLink position target rest =>
          match links with
          | 0 => .error .tooManyLinks
          | links + 1 =>
              follow links (position.origin target)
                (Path.parts target ++ rest)

end Position

/-! ## Trees -/

namespace FileTree

/-- The directories around a node, the innermost first. -/
def enclosing (within : Node) : List Outer → List Node
  | [] => []
  | outer :: outers =>
      outer.around within :: enclosing (outer.around within) outers

/-- The working directory and what is around it. -/
def position (tree : FileTree) : Position :=
  let node := .directory tree.access tree.entries
  ⟨node, enclosing node tree.outers⟩

/-- The node that a path leads to. -/
def lookup (tree : FileTree) (path : Path) : Except LookupFault Node :=
  if 0 ∈ path then .error .nulCharacter
  else if path.isEmpty then .error .notFound
  else if longestPath < path.length then .error .nameTooLong
  else
    ((tree.position.origin path).follow mostLinks (Path.parts path)).map
      Position.node

/-- The path leads to a regular file. -/
def isFile (tree : FileTree) (path : Path) : Bool :=
  match tree.lookup path with
  | .ok (.file _ mode) => mode.regular
  | _ => false

/-- The text of the file that a path leads to. -/
def readText (tree : FileTree) (path : Path) : Except ReadFault String :=
  match tree.lookup path with
  | .error fault => .error (.lookup fault)
  | .ok (.file content mode) =>
      if mode.readable then
        match Text.decodeStrict content with
        | some text => .ok text
        | none => .error .notUtf8
      else .error .permissionDenied
  | .ok (.directory access _) =>
      .error (if access.listed then .isDirectory else .permissionDenied)
  | .ok (.link _) => .error (.lookup .tooManyLinks)

theorem isFile_eq_true_iff (tree : FileTree) (path : Path) :
    tree.isFile path = true ↔
      ∃ content mode,
        tree.lookup path = .ok (.file content mode) ∧
        mode.regular = true := by
  unfold isFile
  split
  · next content mode found =>
      rw [found]
      constructor
      · exact fun regular => ⟨content, mode, rfl, regular⟩
      · rintro ⟨_, _, same, regular⟩
        cases same
        exact regular
  · next other =>
      refine ⟨fun impossible => by simp at impossible, ?_⟩
      rintro ⟨content, mode, found, _⟩
      exact absurd found (other content mode)

end FileTree

end TemplateLint
