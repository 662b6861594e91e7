import TemplateLint.Eligibility
import TemplateLint.FileTree.Lookup

/-!
# Finding the files of a directory

The files below a directory that are linted.  Directories are entered depth
first, entries in the order of their names.  Entries whose names begin with a
point are left out with all that is below them; links are not entered, but a
link that leads to a file counts as a file.  A directory that cannot be listed
is passed over.
-/

namespace TemplateLint

/-- The name is a text that begins with a point. -/
def isHidden (name : Path) : Bool :=
  match Path.toText? name with
  | some text => text.toList.head? == some '.'
  | none => false

namespace Node

mutual

/-- The paths of a node and below it that satisfy a test.  Directories
themselves are not among them. -/
def pathsBelow (keep : Path → Bool) (path : Path) : Node → List Path
  | .file _ _ => if keep path then [path] else []
  | .link _ => if keep path then [path] else []
  | .directory access entries =>
      if access.listed then visiblePaths keep path entries else []

/-- The paths below the entries of a directory that are not hidden. -/
def visiblePaths (keep : Path → Bool) (directory : Path) :
    List (Path × Node) → List Path
  | [] => []
  | (name, node) :: rest =>
      (if isHidden name then []
      else node.pathsBelow keep (Path.join directory name)) ++
        visiblePaths keep directory rest

end

@[simp]
theorem visiblePaths_nil (keep : Path → Bool) (directory : Path) :
    visiblePaths keep directory [] = [] := by
  rw [visiblePaths]

end Node

/-- What an input path stands for. -/
inductive Target where
  | missing
  | file
  | directory (paths : List Path)
  deriving DecidableEq, Repr

namespace FileTree

/-- A path to a file with an extension of the allow-list. -/
def isLinted (tree : FileTree) (allowed : List String) (path : Path) :
    Bool :=
  tree.isFile path && extensionOf path.shown ∈ allowed

/-- What a path stands for.  Whatever is no directory counts as a file. -/
def resolve (tree : FileTree) (allowed : List String) (path : Path) :
    Target :=
  match tree.lookup path with
  | .error _ => .missing
  | .ok (.directory access entries) =>
      .directory (Node.pathsBelow (tree.isLinted allowed) path
        (.directory access entries))
  | .ok _ => .file

end FileTree

end TemplateLint
