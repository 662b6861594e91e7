import TemplateLint.NameMap
import TemplateLint.Path

/-!
# File trees

The files around a working directory.  A directory is a map from names to
nodes; a link holds the path that it stands for.  Every name is one that a
part of a path can be, so that every node can be reached by a path.  The
working directory may lie in other directories, which paths can lead through
as well.
-/

namespace TemplateLint

/-! ## Names -/

/-- The greatest number of bytes of a name. -/
def longestName : Nat := 255

/-- The part of a path that leads to the directory around the present one. -/
def Path.upwards : Path := [point, point]

/-- A name that an entry of a directory can have: a part of a path that leads
to the entry and nowhere else. -/
structure IsName (name : Path) : Prop where
  not_void : Path.isVoid name = false
  not_upwards : name ≠ Path.upwards
  no_slash : Path.slash ∉ name
  no_nul : 0 ∉ name
  short : name.length ≤ longestName

instance (name : Path) : Decidable (IsName name) :=
  decidable_of_iff
    (Path.isVoid name = false ∧ name ≠ Path.upwards ∧ Path.slash ∉ name ∧
      0 ∉ name ∧ name.length ≤ longestName)
    ⟨fun ⟨notVoid, notUpwards, noSlash, noNul, short⟩ =>
        ⟨notVoid, notUpwards, noSlash, noNul, short⟩,
      fun ⟨notVoid, notUpwards, noSlash, noNul, short⟩ =>
        ⟨notVoid, notUpwards, noSlash, noNul, short⟩⟩

/-! ## Nodes -/

/-- What may be done with a directory: its names may be listed, and it may be
entered to reach what it holds. -/
structure Access where
  listed : Bool := true
  entered : Bool := true
  deriving DecidableEq, Repr

/-- What a file is good for.  It may be a program that can be run, it may be
kept from being read, and it may be something else than a regular file. -/
structure FileMode where
  runnable : Bool := false
  readable : Bool := true
  regular : Bool := true
  deriving DecidableEq, Repr

/-- A file, a link or a directory. -/
inductive Node where
  | file (content : ByteArray) (mode : FileMode)
  | link (target : Path)
  | directory (access : Access) (entries : List (Path × Node))

namespace Node

mutual

/-- Every directory in a node has proper names, in increasing order. -/
def WellFormed : Node → Prop
  | .file _ _ => True
  | .link _ => True
  | .directory _ entries =>
      NameMap.Increasing entries ∧ AllWellFormed entries

/-- All entries have proper names and well-formed nodes. -/
def AllWellFormed : List (Path × Node) → Prop
  | [] => True
  | (name, node) :: rest =>
      IsName name ∧ node.WellFormed ∧ AllWellFormed rest

end

theorem allWellFormed_iff (entries : List (Path × Node)) :
    AllWellFormed entries ↔
      ∀ entry ∈ entries, IsName entry.1 ∧ entry.2.WellFormed := by
  induction entries with
  | nil => simp [AllWellFormed]
  | cons head tail inductionHypothesis =>
      obtain ⟨name, node⟩ := head
      simp [AllWellFormed, inductionHypothesis, and_assoc]

theorem wellFormed_directory_iff (access : Access)
    (entries : List (Path × Node)) :
    (directory access entries).WellFormed ↔
      NameMap.Increasing entries ∧
      ∀ entry ∈ entries, IsName entry.1 ∧ entry.2.WellFormed := by
  rw [WellFormed, allWellFormed_iff]

/-- A directory that is there already, or else an empty one. -/
def opened : Option Node → Access × List (Path × Node)
  | some (.directory access entries) => (access, entries)
  | _ => ({}, [])

theorem wellFormed_opened {present : Option Node}
    (wellFormed : ∀ other, present = some other → other.WellFormed)
    (access : Access) :
    (directory access (opened present).2).WellFormed := by
  unfold opened
  split
  · have directoryWellFormed := wellFormed _ rfl
    rw [wellFormed_directory_iff] at directoryWellFormed ⊢
    exact directoryWellFormed
  · simp [wellFormed_directory_iff]

/-- What becomes of an entry when a new node takes its place.  A directory
that is there already keeps its entries when one without entries is put. -/
def replace (present : Option Node) : Node → Node
  | .directory access [] => .directory access (opened present).2
  | node => node

/-- Put a node into entries, at the end of a list of names.  Directories on
the way are made where there are none. -/
def put (node : Node) :
    List Path → List (Path × Node) → List (Path × Node)
  | [], entries => entries
  | [name], entries =>
      NameMap.set name (replace (NameMap.get? name entries) node) entries
  | name :: names, entries =>
      let (access, below) := opened (NameMap.get? name entries)
      NameMap.set name (.directory access (put node names below)) entries

theorem wellFormed_set {access : Access} {name : Path} {node : Node}
    {entries : List (Path × Node)} (proper : IsName name)
    (nodeWellFormed : node.WellFormed)
    (wellFormed : (directory access entries).WellFormed) :
    (directory access (NameMap.set name node entries)).WellFormed := by
  rw [wellFormed_directory_iff] at wellFormed ⊢
  refine ⟨NameMap.increasing_set name node wellFormed.1, ?_⟩
  intro entry member
  rcases NameMap.mem_set member with isNew | isOld
  · subst isNew
    exact ⟨proper, nodeWellFormed⟩
  · exact wellFormed.2 entry isOld

theorem wellFormed_of_get? {access : Access} {name : Path} {node : Node}
    {entries : List (Path × Node)}
    (wellFormed : (directory access entries).WellFormed)
    (found : NameMap.get? name entries = some node) :
    IsName name ∧ node.WellFormed := by
  rw [wellFormed_directory_iff] at wellFormed
  exact wellFormed.2 _ (NameMap.mem_of_get? found)

theorem wellFormed_replace {present : Option Node} {node : Node}
    (presentWellFormed : ∀ other, present = some other → other.WellFormed)
    (nodeWellFormed : node.WellFormed) :
    (replace present node).WellFormed := by
  unfold replace
  split
  · exact wellFormed_opened presentWellFormed _
  · exact nodeWellFormed

theorem wellFormed_put {node : Node} (nodeWellFormed : node.WellFormed)
    (access : Access) :
    ∀ (names : List Path) (entries : List (Path × Node)),
      (∀ name ∈ names, IsName name) →
      (directory access entries).WellFormed →
        (directory access (put node names entries)).WellFormed
  | [], entries, _, wellFormed => by simpa [put] using wellFormed
  | [name], entries, proper, wellFormed => by
      rw [put]
      refine wellFormed_set (proper name List.mem_cons_self)
        (wellFormed_replace ?_ nodeWellFormed) wellFormed
      exact fun other found => (wellFormed_of_get? wellFormed found).2
  | name :: second :: names, entries, proper, wellFormed => by
      rw [put]
      · refine wellFormed_set (proper name List.mem_cons_self)
          (wellFormed_put nodeWellFormed _ (second :: names) _
            (fun other member =>
              proper other (List.mem_cons_of_mem name member))
            (wellFormed_opened ?_ _)) wellFormed
        exact fun other found => (wellFormed_of_get? wellFormed found).2
      · simp

end Node

/-! ## Trees -/

/-- A directory that another one lies in: the name of the one within, and the
other entries. -/
structure Outer where
  name : Path
  access : Access := {}
  others : List (Path × Node) := []

/-- The directory with the one within it. -/
def Outer.around (outer : Outer) (within : Node) : Node :=
  .directory outer.access (NameMap.set outer.name within outer.others)

/-- A working directory, well-formed on every level, and the directories that
it lies in, the innermost first. -/
structure FileTree where
  access : Access := {}
  entries : List (Path × Node)
  outers : List Outer := []
  wellFormed : (Node.directory access entries).WellFormed
  outersWellFormed : ∀ outer ∈ outers,
    IsName outer.name ∧
      (Node.directory outer.access outer.others).WellFormed := by simp

namespace FileTree

/-- An empty working directory in a directory that holds nothing else. -/
def empty : FileTree where
  entries := []
  outers := [{ name := "work" }]
  wellFormed := by simp [Node.wellFormed_directory_iff]
  outersWellFormed := by
    simp only [List.mem_singleton, forall_eq]
    exact ⟨by decide, by simp [Node.wellFormed_directory_iff]⟩

/-- The names on the way to a path. -/
def namesOf (path : Path) : List Path :=
  (Path.parts path).filter (fun part => !Path.isVoid part)

/-- Put a node at a path in the working directory.  Nothing is put where a
part of the path is no proper name. -/
def place (tree : FileTree) (path : Path) (node : Node)
    (nodeWellFormed : node.WellFormed) : FileTree :=
  if proper : ∀ name ∈ namesOf path, IsName name then
    { tree with
      entries := Node.put node (namesOf path) tree.entries
      wellFormed :=
        Node.wellFormed_put nodeWellFormed _ _ _ proper tree.wellFormed }
  else tree

/-- Make a file. -/
def putFile (tree : FileTree) (path : Path) (content : ByteArray)
    (mode : FileMode := {}) : FileTree :=
  tree.place path (.file content mode) (by simp [Node.WellFormed])

/-- Make a link. -/
def putLink (tree : FileTree) (path target : Path) : FileTree :=
  tree.place path (.link target) (by simp [Node.WellFormed])

/-- Make a directory. -/
def putDirectory (tree : FileTree) (path : Path) (access : Access := {}) :
    FileTree :=
  tree.place path (.directory access []) (by
    simp [Node.wellFormed_directory_iff])

end FileTree

end TemplateLint
